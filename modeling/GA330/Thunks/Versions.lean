import GA330.Host.Core

/-!
# A miniSYS and a host of different versions

The emulator reads miniSYS from a file when it starts a game, so the two may
come from different versions of `api.csv`.  They only agree on numbers: miniSYS
has the position of a row among the EMU rows in its thunk, and the host has the
handlers in a table.
-/

namespace GA330
namespace Thunks

open ByteMemory Minisys Host

/-- Names of the EMU rows, in order. -/
def emuNames (rows : List ApiRow) : List String :=
  (rows.filter fun row => row.type = .emu).map ApiRow.name

/-- A call of a row of one version, made by its miniSYS, reaches the handler of
the same name on a host of another version. -/
def ReachesHandler (old new : Output) (place : String → Address)
    (memory : GuestMemory) (intno : Nat) (row : ApiRow) : Prop :=
  ∃ address pc,
    ccosGetBuiltinProc (old.placedTable place) (literal row.name) =
        .found address ∧
      svcRaised memory address = some pc ∧
      new.handlers[hookIntr memory intno pc]? = some row.handler

theorem handlers_emuNames (rows : List ApiRow) :
    (output rows).handlers =
      (emuNames rows).map fun name => "Svc_" ++ name := by
  rw [handlers_output, emuNames, List.map_map]
  rfl

theorem handler_injective :
    Function.Injective fun name : String => "Svc_" ++ name := by
  intro left right equal
  have characters := congrArg String.toList equal
  simp only [String.toList_append, List.append_cancel_left_eq] at characters
  exact String.toList_inj.mp characters

/-- Where an EMU row stands. -/
theorem split_of_emu {rows : List ApiRow} {index : Nat} {row : ApiRow}
    (present : (rows.filter fun row => row.type = .emu)[index]? =
      some row) :
    ∃ before after, rows = before ++ row :: after ∧ row.type = .emu ∧
      emuCount before = index := by
  induction rows generalizing index with
  | nil => simp at present
  | cons first rest inductionHypothesis =>
      by_cases emu : first.type = .emu
      · rw [List.filter_cons_of_pos (by simpa using emu)] at present
        cases index with
        | zero =>
            rw [List.getElem?_cons_zero, Option.some.injEq] at present
            subst present
            exact ⟨[], rest, rfl, emu, rfl⟩
        | succ index =>
            rw [List.getElem?_cons_succ] at present
            obtain ⟨before, after, rfl, isEmu, count⟩ :=
              inductionHypothesis present
            refine ⟨first :: before, after, rfl, isEmu, ?_⟩
            rw [emuCount, List.countP_cons_of_pos (by simpa using emu)]
            exact congrArg Nat.succ count
      · rw [List.filter_cons_of_neg (by simpa using emu)] at present
        obtain ⟨before, after, rfl, isEmu, count⟩ :=
          inductionHypothesis present
        refine ⟨first :: before, after, rfl, isEmu, ?_⟩
        rw [emuCount, List.countP_cons_of_neg (by simpa using emu)]
        exact count

/-- The thunk of an EMU row raises the number of EMU rows before it. -/
theorem thunk_raises {declared : String → String}
    (csv : ApiCsv declared) (few : emuCount csv.rows ≤ 65536)
    {place : String → Address} {memory : GuestMemory}
    (placed : ThunksPlaced declared (output csv.rows) place memory)
    (intno : Nat) {before after : List ApiRow} {row : ApiRow}
    (split : csv.rows = before ++ row :: after) (emu : row.type = .emu) :
    ∃ pc, svcRaised memory (place row.name) = some pc ∧
      hookIntr memory intno pc = emuCount before := by
  have present : row ∈ csv.rows := by
    rw [split]
    exact List.mem_append_right _ List.mem_cons_self
  have thunk := naked_mem_output before after emu
  rw [← split] at thunk
  have number : emuCount before < 65536 := by
    have counted : emuCount csv.rows =
        emuCount before + (emuCount after + 1) := by
      simp [split, emuCount, emu]
    omega
  have code := placed _ _ thunk
  rw [(csv.prototypes row present emu).2] at code
  exact hookIntr_of_placed intno number code

/-- A call of an EMU row uses that number. -/
theorem reachesHandler_iff {declared : String → String}
    (old : ApiCsv declared) (few : emuCount old.rows ≤ 65536)
    {place : String → Address} {memory : GuestMemory}
    (placed : ThunksPlaced declared (output old.rows) place memory)
    (intno : Nat) (new : Output) {before after : List ApiRow}
    {row : ApiRow} (split : old.rows = before ++ row :: after)
    (emu : row.type = .emu) :
    ReachesHandler (output old.rows) new place memory intno row ↔
      new.handlers[emuCount before]? = some row.handler := by
  have present : row ∈ old.rows := by
    rw [split]
    exact List.mem_append_right _ List.mem_cons_self
  have cName : row.cName = row.name := by
    simp [ApiRow.cName_eq, emu, stubInMinisys]
  have resolved : ccosGetBuiltinProc
      ((output old.rows).placedTable place) (literal row.name) =
        .found (place row.name) := by
    rw [Output.placedTable, ccosGetBuiltinProc_map,
      (ccosGetBuiltinProc_output old present _).mpr rfl, cName]
    rfl
  obtain ⟨pc, raised, index⟩ :=
    thunk_raises old few placed intno split emu
  constructor
  · rintro ⟨address, other, found, raisedOther, reached⟩
    rw [resolved] at found
    cases found
    rw [raised, Option.some.injEq] at raisedOther
    subst raisedOther
    rwa [index] at reached
  · intro reached
    refine ⟨place row.name, pc, resolved, raised, ?_⟩
    rwa [index]

/-- Every call of a miniSYS reaches its handler on a host of another version
exactly when the EMU names of miniSYS's version are the first of the host's, so
exactly when the host has only added names at the end. -/
theorem versions_agree_iff {declared : String → String}
    (old new : ApiCsv declared) (few : emuCount old.rows ≤ 65536)
    {place : String → Address} {memory : GuestMemory}
    (placed : ThunksPlaced declared (output old.rows) place memory)
    (intno : Nat) :
    (∀ row ∈ old.rows, row.type = .emu →
        ReachesHandler (output old.rows) (output new.rows) place memory
          intno row) ↔
      emuNames old.rows <+: emuNames new.rows := by
  rw [← List.prefix_map_iff_of_injective handler_injective,
    ← handlers_emuNames, ← handlers_emuNames]
  constructor
  · intro reaches
    rw [List.prefix_iff_getElem?]
    intro index inside
    have listed := List.getElem?_eq_getElem inside
    generalize (output old.rows).handlers[index] = handler at listed ⊢
    rw [handlers_output, List.getElem?_map] at listed
    obtain ⟨row, found, same⟩ := Option.map_eq_some_iff.mp listed
    obtain ⟨before, after, split, emu, count⟩ := split_of_emu found
    have present : row ∈ old.rows := by
      rw [split]
      exact List.mem_append_right _ List.mem_cons_self
    have reached := reaches row present emu
    rw [reachesHandler_iff old few placed intno _ split emu, count]
      at reached
    rw [reached, same]
  · intro isPrefix row present emu
    obtain ⟨before, after, split⟩ := List.append_of_mem present
    rw [reachesHandler_iff old few placed intno _ split emu]
    have entry := handlers_getElem? before after emu
    rw [← split] at entry
    obtain ⟨added, longer⟩ := isPrefix
    obtain ⟨inside, _⟩ := List.getElem?_eq_some_iff.mp entry
    rw [← longer, List.getElem?_append_left inside]
    exact entry

/-- The CSV of the sample with one more EMU row, put first. -/
def renumberedCsv : ApiCsv declaratorName where
  rows := ⟨"GemeiEmu_putc", .emu, "", "void GemeiEmu_putc(int c)"⟩ ::
    sampleCsv.rows
  identifiers := by decide
  distinct := by decide
  notStub := by decide
  prototypes := by decide

/-- A row that is put first sends an older miniSYS to other handlers. -/
theorem versions_agree_iff_sample :
    ¬ ∀ row ∈ sampleCsv.rows, row.type = .emu →
      ReachesHandler (output sampleCsv.rows) (output renumberedCsv.rows)
        samplePlace sampleMemory excpSwi row := by
  rw [versions_agree_iff sampleCsv renumberedCsv (by decide)
    thunksPlaced_sample excpSwi]
  decide

/-! ## The handlers of the core -/

/-- The name of the EMU row in `api.csv`. -/
def handlerRow : EmuHandler → String
  | .file .fclose => "GemeiEmu_fclose"
  | .file .fopen => "GemeiEmu_fopen"
  | .file .fopenW => "GemeiEmu_fopenW"
  | .file .fread => "GemeiEmu_fread"
  | .file .fseek => "GemeiEmu_fseek"
  | .file .ftell => "GemeiEmu_ftell"
  | .file .fwrite => "GemeiEmu_fwrite"
  | .getKeyPad => "GemeiEmu_getKeyPad"
  | .getTimeMs => "GemeiEmu_getTimeMs"
  | .newFrame => "GemeiEmu_newFrame"
  | .panic => "GemeiEmu_panic"
  | .putc => "GemeiEmu_putc"
  | .sleepMs => "GemeiEmu_sleepMs"

/-- The core calls the handler that a generated table has there, if the EMU
rows of the CSV are those of `api.csv`. -/
theorem calledHandler_output {Engine : Type u} (emulator : Emulator Engine)
    {rows : List ApiRow}
    (same : emuNames rows = svcHandlerTable.map handlerRow) (intno : Nat)
    (engine : Engine) :
    (output rows).handlers[hookIntr (emulator.memory engine) intno
        (emulator.registers engine UcRegister.pc.index)]? =
      (calledHandler emulator intno engine).map fun handler =>
        "Svc_" ++ handlerRow handler := by
  rw [handlers_emuNames, same, List.map_map, List.getElem?_map]
  rfl

/-- The thunk of an EMU row calls the core's handler of that name. -/
theorem calledHandler_thunk {Engine : Type u} (emulator : Emulator Engine)
    {declared : String → String} (csv : ApiCsv declared)
    (same : emuNames csv.rows = svcHandlerTable.map handlerRow)
    {place : String → Address} {engine : Engine}
    (placed : ThunksPlaced declared (output csv.rows) place
      (emulator.memory engine)) {row : ApiRow} (present : row ∈ csv.rows)
    (emu : row.type = .emu)
    (raised : svcRaised (emulator.memory engine) (place row.name) =
      some (emulator.registers engine UcRegister.pc.index)) (intno : Nat) :
    ∃ handler, handlerRow handler = row.name ∧
      calledHandler emulator intno engine = some handler := by
  have few : emuCount csv.rows = 13 := by
    have count := congrArg List.length same
    rw [emuNames, List.length_map, List.length_map] at count
    rw [emuCount, List.countP_eq_length_filter]
    exact count
  obtain ⟨before, after, split⟩ := List.append_of_mem present
  obtain ⟨pc, reached, number⟩ :=
    thunk_raises csv (few.trans_le (by decide)) placed intno split emu
  rw [raised, Option.some.injEq] at reached
  subst reached
  have entry := handlers_getElem? before after emu
  rw [← split, ← number, calledHandler_output emulator same] at entry
  obtain ⟨handler, called, named⟩ := Option.map_eq_some_iff.mp entry
  exact ⟨handler, handler_injective named, called⟩

end Thunks
end GA330
