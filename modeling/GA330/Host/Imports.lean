import GA330.Dl.Writer
import GA330.Host.Session
import GA330.Thunks.Dispatch

/-!
# From an import to the code behind it

Four programs agree on what a name of `api.csv` means: the generator, which
writes a thunk or a stub for it; miniSYS, which looks it up in the generated
table; the loader, which stores the address that it finds in an import slot of
the application; and the host, whose hook turns the `svc` of a thunk into a
handler.  Here they are put together: a call through an import slot ends up in
what the CSV says about the imported name.
-/

namespace GA330
namespace Thunks

open ByteMemory Minisys Host Dl

/-! ## Stubs -/

/-- How a call of a generated stub ends. -/
inductive StubResult
  | panicked (message : String)
  | returned (value : Word)
  deriving DecidableEq

/-- Calling a generated stub; the messages are those that `ccos_diag_at` is
given. -/
def StubBody.call (malloc : Word → Word) :
    StubBody → Traced String StubResult
  | .unimplemented name => ⟨.panicked ("Unimplemented call " ++ name), []⟩
  | .trace name => ⟨.returned 0xCCCCCCCC, ["STUB " ++ name]⟩
  | .traceAlloc name => ⟨.returned (malloc 1), ["STUB " ++ name]⟩
  | .nothing => ⟨.returned 0xCCCCCCCC, []⟩

/-- What the CSV says about calling a row that becomes a stub. -/
def ApiRow.stubResult (malloc : Word → Word) (row : ApiRow) :
    Option (Traced String StubResult) :=
  match row.type with
  | .abort => some ⟨.panicked ("Unimplemented call " ++ row.name), []⟩
  | .noop => some ⟨.returned 0xCCCCCCCC, []⟩
  | .stub => some ⟨.returned 0xCCCCCCCC, ["STUB " ++ row.name]⟩
  | .stubDummyAlloc => some ⟨.returned (malloc 1), ["STUB " ++ row.name]⟩
  | .emu => none
  | .minisys => none

/-- The items of `thunks.c` that define an identifier. -/
def Output.definitions (declared : String → String) (output : Output)
    (identifier : String) : List MinisysItem :=
  output.minisysC.filter fun item =>
    decide (item.defined declared = some identifier)

theorem numbered_append (nextSvc : Nat) (before after : List ApiRow) :
    numbered nextSvc (before ++ after) =
      numbered nextSvc before ++
        numbered (nextSvc + emuCount before) after := by
  induction before generalizing nextSvc with
  | nil => rfl
  | cons row rest inductionHypothesis =>
      rw [List.cons_append, numbered, numbered, inductionHypothesis,
        List.cons_append]
      by_cases emu : row.type = .emu
      · simp [emuCount, emu, Nat.add_assoc, Nat.add_comm]
      · simp [emuCount, emu]

section Definitions

variable {declared : String → String} {row other : ApiRow}

/-- The thunks of a row define its own identifier and no other. -/
theorem filter_thunks (csv : ApiCsv declared) (present : row ∈ csv.rows)
    (otherRow : other ∈ csv.rows) (nextSvc : Nat) :
    (ApiRow.thunks (nextSvc, other)).filter
        (fun item => decide (item.defined declared = some row.cName)) =
      if other = row then ApiRow.thunks (nextSvc, other) else [] := by
  have defined := defined_thunks csv otherRow nextSvc
  have identifiers : ∀ item ∈ ApiRow.thunks (nextSvc, other),
      item.defined declared = some other.cName := by
    intro item inThunks
    have listed := List.mem_map_of_mem
      (f := MinisysItem.defined declared) inThunks
    rw [defined] at listed
    split at listed
    · contradiction
    · exact List.mem_singleton.mp listed
  split
  · rename_i same
    subst same
    rw [List.filter_eq_self]
    exact fun item inThunks => decide_eq_true (identifiers item inThunks)
  · rename_i different
    rw [List.filter_eq_nil_iff]
    intro item inThunks same
    rw [decide_eq_true_eq, identifiers item inThunks,
      Option.some.injEq] at same
    exact different
      (List.inj_on_of_nodup_map csv.cName_nodup otherRow present same)

/-- Rows other than the one that an identifier belongs to do not define
it. -/
theorem filter_numbered (csv : ApiCsv declared) (present : row ∈ csv.rows)
    {rows : List ApiRow} (nextSvc : Nat)
    (subset : ∀ other ∈ rows, other ∈ csv.rows) (absent : row ∉ rows) :
    ((numbered nextSvc rows).flatMap ApiRow.thunks).filter
        (fun item => decide (item.defined declared = some row.cName)) =
      [] := by
  rw [List.filter_flatMap, List.flatMap_eq_nil_iff]
  rintro ⟨number, other⟩ numberedRow
  have inRows : other ∈ rows := by
    rw [← numbered_map_snd nextSvc rows]
    exact List.mem_map_of_mem numberedRow
  rw [filter_thunks csv present (subset other inRows), if_neg]
  rintro rfl
  exact absent inRows

/-- The thunks of a row are what `thunks.c` defines its identifier as. -/
theorem definitions_output (csv : ApiCsv declared)
    {before after : List ApiRow}
    (split : csv.rows = before ++ row :: after)
    (notTable : row.cName ≠ "os_function_table") :
    (output csv.rows).definitions declared row.cName =
      ApiRow.thunks (emuCount before, row) := by
  have present : row ∈ csv.rows := by simp [split]
  have tableDiffers := Ne.symm notTable
  have rowsNodup : csv.rows.Nodup := List.Nodup.of_map _ csv.distinct
  rw [split, List.nodup_append, List.nodup_cons] at rowsNodup
  obtain ⟨_, ⟨notAfter, _⟩, apart⟩ := rowsNodup
  have earlier := @filter_numbered _ _ csv present before 0
    (fun other inBefore => by simp [split, inBefore])
    (fun inBefore => apart row inBefore row List.mem_cons_self rfl)
  have later := fun number => @filter_numbered _ _ csv present after number
    (fun other inAfter => by simp [split, inAfter]) notAfter
  have own := filter_thunks csv present present (emuCount before)
  rw [if_pos rfl] at own
  have thunks : ((numbered 0 csv.rows).flatMap ApiRow.thunks).filter
      (fun item => decide (item.defined declared = some row.cName)) =
        ApiRow.thunks (emuCount before, row) := by
    rw [split, numbered_append, List.flatMap_append, List.filter_append,
      earlier, numbered, List.flatMap_cons, List.filter_append, later,
      Nat.zero_add, own, List.nil_append, List.append_nil]
  rw [Output.definitions, output, List.filter_append, List.filter_cons_of_neg,
    thunks]
  · simp [MinisysItem.defined, tableDiffers]
  · simp [MinisysItem.defined]

end Definitions

/-! ## The linked image -/

/-- The addresses that miniSYS finds under the names of the CSV. -/
def ApiCsv.builtins {declared : String → String} (csv : ApiCsv declared)
    (place : String → Address) : List (CString × Address) :=
  csv.rows.map fun row => (literal row.name, place row.cName)

/-- They are those of the generated table. -/
theorem placedTable_output {declared : String → String}
    (csv : ApiCsv declared) (place : String → Address) :
    (output csv.rows).placedTable place =
      terminated (csv.builtins place) 0 := by
  rw [Output.placedTable, osFunctionTable_output]
  simp [terminated, ApiCsv.builtins, OsFunction.map, OsFunction.sentinel,
    placeAddress]

/-- The assembled thunks lie in the flash of miniSYS. -/
structure InFlash (declared : String → String) (files : Output)
    (place : String → Address) (memory : GuestMemory) : Prop where
  placed : ThunksPlaced declared files place memory
  inside : ∀ prototype number,
    MinisysItem.naked prototype number ∈ files.minisysC →
      (⟨place (declared prototype), 8⟩ : Extent).Inside
        ⟨minisysAddr, 0x40000⟩

/-- As long as flash is kept, so are the thunks. -/
theorem InFlash.kept {declared : String → String} {files : Output}
    {place : String → Address} {memory : GuestMemory} {bytes : Memory}
    (image : InFlash declared files place memory)
    (kept : AgreeOn ⟨minisysAddr, 0x40000⟩ memory.bytes bytes) :
    ThunksPlaced declared files place ⟨bytes, memory.mapped⟩ := by
  intro prototype number present
  obtain ⟨mapped, stored⟩ := GuestMemory.ucMemRead_eq_some
    (image.placed prototype number present)
  have mappedAfter : (⟨bytes, memory.mapped⟩ : GuestMemory).rangeMapped
      (place (declared prototype)) 8 = true := mapped
  rw [GuestMemory.ucMemRead_of_mapped mappedAfter,
    ← read_congr (kept.mono (image.inside prototype number present)),
    stored]

/-- What calling through an import slot comes to, for a row of the CSV: the
slot jumps to the row's function; the thunk of an EMU row reaches the handler
of that name; a generated stub does what the type of its row says, and there is
no other definition of its identifier; and a MINISYS function is left to
miniSYS. -/
structure Serves (declared : String → String) (files : Output)
    (place : String → Address) (malloc : Word → Word) (memory : GuestMemory)
    (row : ApiRow) (slot : Address) : Prop where
  jumps : ldrPcTarget memory.bytes slot = some (place row.cName)
  emu : row.type = .emu → ∀ intno, ∃ pc,
    svcRaised memory (place row.cName) = some pc ∧
      files.handlers[hookIntr memory intno pc]? = some row.handler
  stub : ∀ result ∈ row.stubResult malloc, ∃ body,
    files.definitions declared row.cName =
        [.stub (some row.cName) body] ∧
      body.call malloc = result
  minisys : row.type = .minisys →
    files.definitions declared row.cName = []

section Serving

variable {declared : String → String} {row : ApiRow}

/-- The generated stub of a row does what the type of the row says. -/
theorem stub_of_thunks (malloc : Word → Word) (nextSvc : Nat)
    {result : Traced String StubResult}
    (expected : row.stubResult malloc = some result) :
    ∃ body, ApiRow.thunks (nextSvc, row) =
        [.stub (some row.cName) body] ∧ body.call malloc = result := by
  unfold ApiRow.stubResult at expected
  cases type : row.type with
  | emu => simp [type] at expected
  | minisys => simp [type] at expected
  | abort =>
      simp only [type, Option.some.injEq] at expected
      refine ⟨.unimplemented row.name, ?_, expected⟩
      simp [ApiRow.thunks, minisysThunks, minisysProto, declInMinisys,
        ApiRow.cName, type]
  | noop =>
      simp only [type, Option.some.injEq] at expected
      refine ⟨.nothing, ?_, expected⟩
      simp [ApiRow.thunks, minisysThunks, minisysProto, declInMinisys,
        ApiRow.cName, type]
  | stub =>
      simp only [type, Option.some.injEq] at expected
      refine ⟨.trace row.name, ?_, expected⟩
      simp [ApiRow.thunks, minisysThunks, minisysProto, declInMinisys,
        ApiRow.cName, type]
  | stubDummyAlloc =>
      simp only [type, Option.some.injEq] at expected
      refine ⟨.traceAlloc row.name, ?_, expected⟩
      simp [ApiRow.thunks, minisysThunks, minisysProto, declInMinisys,
        ApiRow.cName, type]

/-- The thunk of an EMU row reaches the row's handler. -/
theorem handler_of_emu (csv : ApiCsv declared)
    (few : emuCount csv.rows ≤ 65536) (present : row ∈ csv.rows)
    (emu : row.type = .emu) {place : String → Address}
    {memory : GuestMemory}
    (placed : ThunksPlaced declared (output csv.rows) place memory)
    (intno : Nat) :
    ∃ pc, svcRaised memory (place row.cName) = some pc ∧
      (output csv.rows).handlers[hookIntr memory intno pc]? =
        some row.handler := by
  obtain ⟨before, after, split⟩ := List.append_of_mem present
  have cName : row.cName = row.name := by
    simp [ApiRow.cName_eq, emu, stubInMinisys]
  have thunk := naked_mem_output before after emu
  have entry := handlers_getElem? before after emu
  rw [← split] at thunk entry
  have number : emuCount before < 65536 := by
    have counted : emuCount csv.rows =
        emuCount before + (emuCount after + 1) := by
      simp [split, emuCount, emu]
    omega
  have code := placed _ _ thunk
  rw [(csv.prototypes row present emu).2, ← cName] at code
  obtain ⟨pc, raised, index⟩ := hookIntr_of_placed intno number code
  refine ⟨pc, raised, ?_⟩
  rw [index]
  exact entry

/-- The address that the search returns for the name of a row. -/
theorem found_of_row (csv : ApiCsv declared) (present : row ∈ csv.rows)
    (place : String → Address) :
    ccosGetBuiltinProc (terminated (csv.builtins place) 0)
      (literal row.name) = .found (place row.cName) := by
  rw [← placedTable_output, Output.placedTable, ccosGetBuiltinProc_map,
    (ccosGetBuiltinProc_output csv present _).mpr rfl]
  rfl

end Serving

/-- An application whose imports are names of the CSV is linked with what the
CSV says about them. -/
theorem imports_served {declared : String → String}
    (csv : ApiCsv declared) (heading : List String)
    (few : emuCount csv.rows ≤ 65536)
    (notTable : ∀ row ∈ csv.rows, row.type = .emu ∨ row.type = .minisys →
      row.name ≠ "os_function_table") :
    ∃ files, makeThunks (heading :: csv.rows.map ApiRow.fields) = .ok files ∧
      ∀ (place : String → Address) (memory : GuestMemory),
        InFlash declared files place memory →
        ∀ (file : Extent) (parts : List FileSection) (code : CodePart)
          (regions : List Extent), WrittenFile memory.bytes file parts →
        Linkable (csv.builtins place) regions parts code →
        file ∈ regions → (⟨minisysAddr, 0x40000⟩ : Extent) ∈ regions →
        ∃ linked, (ccdlToEntry (files.placedTable place) memory.bytes
              file.start).value =
            .enter code.entryPoint linked (fileHeader parts.length) ∧
          ∀ symbol ∈ symbolsOf parts sectionImport, ∃ row ∈ csv.rows,
            symbol.name = literal row.name ∧
              ∀ malloc, Serves declared files place malloc
                ⟨linked, memory.mapped⟩ row symbol.address := by
  refine ⟨output csv.rows, makeThunks_eq csv heading, ?_⟩
  intro place memory image file parts code regions written linkable
    fileKept flashKept
  obtain ⟨linked, entered, links⟩ := written.links linkable fileKept
  rw [placedTable_output]
  refine ⟨linked, entered, ?_⟩
  intro symbol imported
  obtain ⟨_, named, sameName⟩ :=
    List.mem_map.mp (linkable.builtin symbol imported)
  obtain ⟨row, present, rfl⟩ := List.mem_map.mp named
  refine ⟨row, present, sameName.symm, fun malloc => ?_⟩
  obtain ⟨before, after, split⟩ := List.append_of_mem present
  have spared : row.cName ≠ "os_function_table" := by
    intro taken
    obtain ⟨kind, named⟩ := (ApiRow.cName_eq_table_iff row).mp taken
    exact notTable row present kind named
  have definitions := definitions_output csv split spared
  have placed := image.kept (links.regionsKept _ flashKept)
  obtain ⟨target, resolved, jumps⟩ := links.importsJump symbol imported
  have found := found_of_row csv present place
  rw [show symbol.name = literal row.name from sameName.symm, found]
    at resolved
  cases resolved
  constructor
  · exact jumps
  · intro emu intno
    exact handler_of_emu csv few present emu placed intno
  · intro result expected
    rw [definitions]
    exact stub_of_thunks malloc (emuCount before) expected
  · intro minisys
    rw [definitions]
    simp [ApiRow.thunks, minisysThunks, minisys]

/-- An application that imports `GemeiEmu_newFrame`. -/
def frameParts : List FileSection :=
  [⟨0x54504D49, .imports [⟨literal "GemeiEmu_newFrame", 0x10100010⟩]⟩,
    ⟨0x44574152, .code 0 0x10100000 0x10100000 8
      ([0xE1A00000, 0xE12FFF1E].flatMap wordBytes)⟩]

def frameExtent : Extent := ⟨0x30000000, (encodeFile frameParts).length⟩

theorem length_frameParts : (encodeFile frameParts).length = 154 := by
  decide +kernel

/-- Guest memory with the thunks of `sampleCsv` and the application. -/
def frameMemory : GuestMemory where
  bytes := write sampleMemory.bytes 0x30000000 (encodeFile frameParts)
  mapped := sampleMemory.mapped

theorem frameMemory_inFlash :
    InFlash declaratorName (output sampleCsv.rows) samplePlace
      frameMemory := by
  have inside : ∀ prototype number,
      MinisysItem.naked prototype number ∈ (output sampleCsv.rows).minisysC →
        (⟨samplePlace (declaratorName prototype), 8⟩ : Extent).Inside
          ⟨minisysAddr, 0x40000⟩ := by
    intro prototype number member
    simp [output, sampleCsv, numbered, ApiRow.thunks, minisysThunks]
      at member
    rcases member with ⟨rfl, rfl⟩ | ⟨rfl, rfl⟩
    · exact Extent.inside_of_start (by decide)
    · exact Extent.inside_of_start (by decide)
  have image : InFlash declaratorName (output sampleCsv.rows) samplePlace
      sampleMemory :=
    ⟨thunksPlaced_sample, inside⟩
  refine ⟨image.kept (agreeOn_write ?_).symm, inside⟩
  have apart : frameExtent.Separate ⟨minisysAddr, 0x40000⟩ := by
    rw [frameExtent, length_frameParts]
    decide
  exact apart.disjoint

/-- The code of the application. -/
def frameCode : CodePart where
  entryPoint := 0x10100000
  loadAddress := 0x10100000
  bytes := [0xE1A00000, 0xE12FFF1E].flatMap wordBytes

theorem frameParts_linkable :
    Linkable (sampleCsv.builtins samplePlace)
      [frameExtent, ⟨minisysAddr, 0x40000⟩] frameParts frameCode := by
  rw [frameExtent, length_frameParts]
  constructor
  · rfl
  · have apart : ∀ region ∈
        ([⟨0x30000000, 154⟩, ⟨minisysAddr, 0x40000⟩] : List Extent),
        (⟨frameCode.loadAddress, frameCode.bytes.length⟩ :
          Extent).Separate region := by decide
    exact fun region present => (apart region present).disjoint
  · have apart : ∀ region ∈
        ([⟨0x30000000, 154⟩, ⟨minisysAddr, 0x40000⟩] : List Extent),
        ∀ symbol ∈ symbolsOf frameParts sectionImport,
          (slot symbol).Separate region := by decide +kernel
    exact fun region present symbol imported =>
      (apart region present symbol imported).disjoint
  · exact List.pairwise_singleton _ _
  · decide +kernel

theorem imports_served_sample : ∃ linked, ∃ row ∈ sampleCsv.rows,
    literal "GemeiEmu_newFrame" = literal row.name ∧
      ldrPcTarget linked 0x10100010 = some (samplePlace row.cName) := by
  obtain ⟨files, generated, served⟩ := imports_served sampleCsv []
    (by decide) (by decide)
  have same : files = output sampleCsv.rows :=
    Except.ok.inj (generated.symm.trans (makeThunks_eq sampleCsv []))
  subst same
  have written : WrittenFile frameMemory.bytes frameExtent frameParts := by
    refine ⟨placed_write ?_, ?_, by decide⟩
    · rw [length_frameParts]
      decide
    · rw [frameExtent, length_frameParts]
      decide
  obtain ⟨linked, _, each⟩ := served samplePlace frameMemory
    frameMemory_inFlash frameExtent frameParts _ _ written
    frameParts_linkable List.mem_cons_self (by simp)
  obtain ⟨row, present, named, serves⟩ := each
    ⟨literal "GemeiEmu_newFrame", 0x10100010⟩ (by decide +kernel)
  exact ⟨linked, row, present, named, (serves id).jumps⟩

end Thunks
end GA330
