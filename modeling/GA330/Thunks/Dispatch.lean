import GA330.Host.GuestMemory
import GA330.Thunks.Table

/-!
# Dispatch of emulator calls

A guest call of an EMU function runs the generated thunk, whose first
instruction is `svc n`.  The emulator reports the interrupt to `hook_intr` of
`ccdl.cpp`, which reads the instruction back and indexes `svc_handler_table`
with its low half.  The number in the thunk and the position in the table are
produced by different loops of the generator; here they are shown to agree.
-/

namespace GA330
namespace Thunks

open ByteMemory Minisys Host

/-- `svc n` in ARM state. -/
def svcInstruction (number : Nat) : Word :=
  0xEF000000 ||| BitVec.ofNat 32 number

/-- `bx lr` in ARM state. -/
def bxLr : Word := 0xE12FFF1E

/-- `hook_intr`: the index into `svc_handler_table`.  The interrupt number is
not consulted; if the instruction cannot be read, the fallback is used. -/
def hookIntr (memory : GuestMemory) (_intno : Nat) (pc : Word) : Nat :=
  let num :=
    match memory.ucMemRead (pc - 4) 4 with
    | some _ => loadWord memory.bytes (pc - 4)
    | none => 0xcccccccc
  (num &&& 0xffff).toNat

/-- Executing the instruction at an address: if it is an `svc`, the PC that the
interrupt hook finds. -/
def svcRaised (memory : GuestMemory) (address : Address) : Option Word :=
  match memory.ucMemRead address 4 with
  | some _ =>
      if loadWord memory.bytes address >>> 24 = 0xEF then some (address + 4)
      else none
  | none => none

/-- Addresses of the linked miniSYS image; the null pointer is zero. -/
def placeAddress (place : String → Address) : Option String → Address
  | some identifier => place identifier
  | none => 0

/-- The table of the linked image. -/
def Output.placedTable (output : Output) (place : String → Address) :
    List (OsFunction Address) :=
  output.osFunctionTable.map (OsFunction.map (placeAddress place))

/-- The assembled EMU thunks are in guest memory at their identifiers. -/
def ThunksPlaced (declared : String → String) (output : Output)
    (place : String → Address) (memory : GuestMemory) : Prop :=
  ∀ prototype number,
    MinisysItem.naked prototype number ∈ output.minisysC →
      memory.ucMemRead (place (declared prototype)) 8 =
        some (wordBytes (svcInstruction number) ++ wordBytes bxLr)

theorem toNat_svcInstruction {number : Nat} (bound : number < 65536) :
    (svcInstruction number).toNat = 0xEF000000 + number := by
  rw [svcInstruction, BitVec.toNat_or, BitVec.toNat_ofNat,
    Nat.mod_eq_of_lt (by omega)]
  exact (Nat.two_pow_add_eq_or_of_lt (show number < 2 ^ 24 by omega)
    0xEF).symm

/-- The low half of `svc n` is `n`. -/
theorem svcInstruction_and_mask {number : Nat} (bound : number < 65536) :
    (svcInstruction number &&& 0xffff).toNat = number := by
  rw [BitVec.toNat_and, toNat_svcInstruction bound]
  change (0xEF000000 + number) &&& (2 ^ 16 - 1) = number
  rw [Nat.and_two_pow_sub_one_eq_mod]
  omega

theorem svcInstruction_shift {number : Nat} (bound : number < 65536) :
    svcInstruction number >>> 24 = 0xEF := by
  apply BitVec.eq_of_toNat_eq
  rw [BitVec.toNat_ushiftRight, toNat_svcInstruction bound,
    Nat.shiftRight_eq_div_pow]
  change (0xEF000000 + number) / 2 ^ 24 = 0xEF
  omega

/-- Running a placed thunk raises its number. -/
theorem hookIntr_of_placed {memory : GuestMemory} {address : Address}
    {number : Nat} (intno : Nat) (bound : number < 65536)
    (placed : memory.ucMemRead address 8 =
      some (wordBytes (svcInstruction number) ++ wordBytes bxLr)) :
    ∃ pc, svcRaised memory address = some pc ∧
      hookIntr memory intno pc = number := by
  obtain ⟨mapped, bytes⟩ := GuestMemory.ucMemRead_eq_some placed
  have firstMapped : memory.rangeMapped address 4 = true :=
    GuestMemory.rangeMapped_of_le mapped (by omega)
  have firstBytes : read memory.bytes address 4 =
      wordBytes (svcInstruction number) := by
    rw [show (8 : Nat) = 4 + 4 by rfl, read_add] at bytes
    exact (List.append_inj bytes (by simp)).1
  have instruction := loadWord_of_read firstBytes
  refine ⟨address + 4, ?_, ?_⟩
  · simp only [svcRaised, GuestMemory.ucMemRead, firstMapped, if_true,
      instruction, svcInstruction_shift bound]
  · rw [hookIntr, show address + 4 - 4 = address by bv_omega]
    simp only [GuestMemory.ucMemRead, firstMapped, if_true, instruction]
    exact svcInstruction_and_mask bound

theorem handlers_output (rows : List ApiRow) :
    (output rows).handlers =
      (rows.filter fun row => row.type = .emu).map ApiRow.handler := by
  have declarations : (rows.flatMap ApiRow.nativeDeclarations).flatMap
      NativeItem.handlers = [] := by
    rw [List.flatMap_eq_nil_iff]
    intro item present
    obtain ⟨row, _, inRow⟩ := List.mem_flatMap.mp present
    unfold ApiRow.nativeDeclarations at inRow
    split at inRow
    · simp only [List.mem_singleton] at inRow
      simp [inRow, NativeItem.handlers]
    · contradiction
  rw [Output.handlers, output, List.flatMap_append, List.flatMap_cons,
    declarations]
  simp [NativeItem.handlers]

theorem length_handlers_output (rows : List ApiRow) :
    (output rows).handlers.length = emuCount rows := by
  rw [handlers_output, List.length_map, emuCount,
    List.countP_eq_length_filter]

/-- The handler of an EMU row stands after those of the EMU rows before it. -/
theorem handlers_getElem? (before after : List ApiRow) {row : ApiRow}
    (emu : row.type = .emu) :
    (output (before ++ row :: after)).handlers[emuCount before]? =
      some row.handler := by
  have position : emuCount before =
      ((before.filter fun row => row.type = .emu).map
        ApiRow.handler).length := by
    rw [List.length_map, emuCount, List.countP_eq_length_filter]
  rw [handlers_output, List.filter_append, List.map_append,
    List.getElem?_append_right (by omega), ← position, Nat.sub_self]
  simp [emu]

/-- Different EMU rows have different handlers. -/
theorem handlers_nodup {declared : String → String}
    (csv : ApiCsv declared) : (output csv.rows).handlers.Nodup := by
  rw [handlers_output]
  have names : ((csv.rows.filter fun row => row.type = .emu).map
      ApiRow.name).Nodup :=
    csv.distinct.sublist (List.filter_sublist.map _)
  have injective : Function.Injective fun name => "Svc_" ++ name := by
    intro left right equal
    have characters := congrArg String.toList equal
    simp only [String.toList_append, List.append_cancel_left_eq]
      at characters
    exact String.toList_inj.mp characters
  have handlers := names.map injective
  rwa [List.map_map] at handlers

/-- The thunk of an EMU row carries the number of EMU rows before it. -/
theorem naked_mem_output (before after : List ApiRow) {row : ApiRow}
    (emu : row.type = .emu) :
    MinisysItem.naked row.prototype (emuCount before) ∈
      (output (before ++ row :: after)).minisysC := by
  have numberedRow := mem_numbered_of_split 0 before after row
  rw [Nat.zero_add] at numberedRow
  have inThunks : MinisysItem.naked row.prototype (emuCount before) ∈
      ApiRow.thunks (emuCount before, row) := by
    simp [ApiRow.thunks, minisysThunks, emu]
  simp only [output, List.mem_append, List.mem_cons]
  exact Or.inl (Or.inr (List.mem_flatMap.mpr ⟨_, numberedRow, inThunks⟩))

/-- Resolving an EMU name and calling the result reaches the handler of that
name, at its only position in the handler table. -/
theorem emu_call_dispatches {declared : String → String}
    (csv : ApiCsv declared) (heading : List String)
    (few : emuCount csv.rows ≤ 65536) :
    ∃ files, makeThunks (heading :: csv.rows.map ApiRow.fields) = .ok files ∧
      files.handlers.length = emuCount csv.rows ∧
      ∀ row ∈ csv.rows, row.type = .emu →
        ∀ (place : String → Address) (memory : GuestMemory),
          ThunksPlaced declared files place memory → ∀ intno,
            ∃ address pc,
              ccosGetBuiltinProc (files.placedTable place)
                  (literal row.name) = .found address ∧
                svcRaised memory address = some pc ∧
                files.handlers[hookIntr memory intno pc]? =
                  some row.handler ∧
                ∀ index, files.handlers[index]? = some row.handler →
                  index = hookIntr memory intno pc := by
  refine ⟨output csv.rows, makeThunks_eq csv heading,
    length_handlers_output csv.rows, ?_⟩
  intro row present emu place memory placed intno
  obtain ⟨before, after, split⟩ := List.append_of_mem present
  have cName : row.cName = row.name := by
    simp [ApiRow.cName_eq, emu, stubInMinisys]
  have resolved : ccosGetBuiltinProc
      ((output csv.rows).placedTable place) (literal row.name) =
        .found (place row.name) := by
    rw [Output.placedTable, ccosGetBuiltinProc_map,
      (ccosGetBuiltinProc_output csv present _).mpr rfl, cName]
    rfl
  have thunk := naked_mem_output before after emu
  have entry := handlers_getElem? before after emu
  rw [← split] at thunk entry
  have number : emuCount before < 65536 := by
    have counted : emuCount csv.rows =
        emuCount before + (emuCount after + 1) := by
      simp [split, emuCount, emu]
    omega
  have code := placed _ _ thunk
  rw [(csv.prototypes row present emu).2] at code
  obtain ⟨pc, raised, index⟩ := hookIntr_of_placed intno number code
  refine ⟨place row.name, pc, resolved, raised, ?_, ?_⟩
  · rw [index]
    exact entry
  · intro other otherEntry
    rw [index]
    have otherBound : other < (output csv.rows).handlers.length :=
      (List.getElem?_eq_some_iff.mp otherEntry).1
    exact (List.getElem?_inj otherBound (handlers_nodup csv)).mp
      (otherEntry.trans entry.symm)

/-- Addresses for the functions of `sampleCsv`, eight bytes apart. -/
def samplePlace (identifier : String) : Address :=
  if identifier = "GemeiEmu_fclose" then 0x20000100
  else if identifier = "GemeiEmu_newFrame" then 0x20000108
  else 0x20000200

/-- Guest memory with the two thunks of `sampleCsv`. -/
def sampleMemory : GuestMemory where
  bytes := write (fun _ => 0) 0x20000100
    (wordBytes (svcInstruction 0) ++ wordBytes bxLr ++
      (wordBytes (svcInstruction 1) ++ wordBytes bxLr))
  mapped := fun address => decide (address >>> 18 = 0x20000000 >>> 18)

theorem thunksPlaced_sample :
    ThunksPlaced declaratorName (output sampleCsv.rows) samplePlace
      sampleMemory := by
  intro prototype number member
  simp [output, sampleCsv, numbered, ApiRow.thunks, minisysThunks]
    at member
  rcases member with ⟨rfl, rfl⟩ | ⟨rfl, rfl⟩
  · decide
  · decide

theorem emu_call_dispatches_sample :
    ∃ address pc,
      ccosGetBuiltinProc ((output sampleCsv.rows).placedTable samplePlace)
          (literal "GemeiEmu_newFrame") = .found address ∧
        svcRaised sampleMemory address = some pc ∧
        (output sampleCsv.rows).handlers[hookIntr sampleMemory 2 pc]? =
          some "Svc_GemeiEmu_newFrame" := by
  obtain ⟨files, generated, _, dispatches⟩ :=
    emu_call_dispatches sampleCsv [] (by decide)
  have same : files = output sampleCsv.rows :=
    Except.ok.inj (generated.symm.trans (makeThunks_eq sampleCsv []))
  subst same
  obtain ⟨address, pc, resolved, raised, handler, _⟩ := dispatches
    ⟨"GemeiEmu_newFrame", .emu, "", "void GemeiEmu_newFrame(void)"⟩
    (by decide) rfl samplePlace sampleMemory thunksPlaced_sample 2
  exact ⟨address, pc, resolved, raised, handler⟩

/-! ## What the hook calls through -/

/-- `EXCP_SWI`, the number of the exception that an `svc` raises. -/
def excpSwi : Nat := 2

/-- `svc_handler_table[num](uc)`: the index that the hook calls through.  No
branch leaves the hook without a call. -/
def calledIndex (memory : GuestMemory) (intno : Nat) (pc : Word) :
    Option Nat :=
  some (hookIntr memory intno pc)

/-- The hook calls no handler, or an entry of the table for an `svc`. -/
def DispatchClosed (files : Output) (memory : GuestMemory) (intno : Nat)
    (pc : Word) : Prop :=
  ∀ index, calledIndex memory intno pc = some index →
    intno = excpSwi ∧ index < files.handlers.length

/-- A row of the CSV whose handler column says EMU. -/
def isEmuRow (fields : List String) : Bool :=
  decide (fields[1]? = some HandlerType.emu.name)

/-- Number of EMU rows below the heading. -/
def emuRows (csv : List (List String)) : Nat :=
  csv.tail.countP isEmuRow

theorem HandlerType.ofName_eq_some {name : String} {type : HandlerType}
    (known : HandlerType.ofName name = some type) : type.name = name := by
  rw [HandlerType.ofName] at known
  exact of_decide_eq_true (List.find?_some known :)

theorem HandlerType.name_eq_emu {type : HandlerType} :
    type.name = HandlerType.emu.name ↔ type = .emu := by
  cases type <;> decide

/-- A row that the loop accepts writes no table, and adds an entry to it
exactly when it is an EMU row. -/
theorem processRow_handlers {state after : Emission} {fields : List String}
    (accepted : processRow state fields = .ok after) :
    after.nf.flatMap NativeItem.handlers =
        state.nf.flatMap NativeItem.handlers ∧
      (handlerNames after.all).length =
        (handlerNames state.all).length +
          if isEmuRow fields then 1 else 0 := by
  unfold processRow at accepted
  split at accepted
  · rename_i name typeName origin prototype
    cases known : HandlerType.ofName typeName with
    | none =>
        simp only [known] at accepted
        contradiction
    | some type =>
        simp only [known] at accepted
        split at accepted
        · contradiction
        · cases accepted
          have sameName := HandlerType.ofName_eq_some known
          have emuRow : isEmuRow [name, typeName, origin, prototype] =
              decide (type = .emu) := by
            simp [isEmuRow, ← sameName, HandlerType.name_eq_emu]
          constructor
          · rw [List.flatMap_append]
            split <;> simp [NativeItem.handlers]
          · rw [emuRow]
            by_cases emu : type = .emu <;> simp [handlerNames, emu]
  · contradiction

/-- The loop makes one table entry for each EMU row. -/
theorem foldlM_processRow_handlers {state after : Emission}
    {rows : List (List String)}
    (accepted : rows.foldlM processRow state = .ok after) :
    after.nf.flatMap NativeItem.handlers =
        state.nf.flatMap NativeItem.handlers ∧
      (handlerNames after.all).length =
        (handlerNames state.all).length + rows.countP isEmuRow := by
  induction rows generalizing state with
  | nil =>
      cases accepted
      exact ⟨rfl, rfl⟩
  | cons fields rest inductionHypothesis =>
      rw [List.foldlM_cons] at accepted
      cases first : processRow state fields with
      | error failure =>
          rw [first] at accepted
          contradiction
      | ok next =>
          rw [first] at accepted
          obtain ⟨nativeStep, lengthStep⟩ := processRow_handlers first
          obtain ⟨native, length⟩ := inductionHypothesis accepted
          refine ⟨native.trans nativeStep, ?_⟩
          rw [length, lengthStep, List.countP_cons]
          omega

/-- Whatever the CSV holds, when the script succeeds the handler table has one
entry for each EMU row. -/
theorem length_handlers {csv : List (List String)} {files : Output}
    (generated : makeThunks csv = .ok files) :
    files.handlers.length = emuRows csv := by
  cases csv with
  | nil => contradiction
  | cons heading rows =>
      rw [makeThunks] at generated
      cases loop : rows.foldlM processRow Emission.start with
      | error failure =>
          rw [loop] at generated
          contradiction
      | ok state =>
          rw [loop] at generated
          cases generated
          obtain ⟨native, length⟩ := foldlM_processRow_handlers loop
          rw [Output.handlers, Emission.finish, List.flatMap_append, native]
          simpa [Emission.start, NativeItem.handlers, handlerNames, emuRows]
            using length

/-- The index is the low half of the instruction, or of the fallback when the
instruction cannot be read. -/
theorem hookIntr_eq (memory : GuestMemory) (intno : Nat) (pc : Word) :
    hookIntr memory intno pc =
      if memory.rangeMapped (pc - 4) 4 = true then
        (loadWord memory.bytes (pc - 4)).toNat % 2 ^ 16
      else 0xcccc := by
  have masked : ∀ word : Word,
      (word &&& 0xffff).toNat = word.toNat % 2 ^ 16 := by
    intro word
    rw [BitVec.toNat_and]
    exact Nat.and_two_pow_sub_one_eq_mod word.toNat 16
  unfold hookIntr
  by_cases mapped : memory.rangeMapped (pc - 4) 4 = true
  · rw [GuestMemory.ucMemRead, if_pos mapped, if_pos mapped]
    exact masked _
  · rw [GuestMemory.ucMemRead, if_neg mapped, if_neg mapped]
    exact (masked 0xcccccccc).trans (by decide)

/-- Dispatch is closed exactly for an `svc` whose number, or the fallback when
the instruction cannot be read, is below the number of EMU rows. -/
theorem dispatch_closed_iff {csv : List (List String)} {files : Output}
    (generated : makeThunks csv = .ok files) (memory : GuestMemory)
    (intno : Nat) (pc : Word) :
    DispatchClosed files memory intno pc ↔
      intno = excpSwi ∧
        ((memory.rangeMapped (pc - 4) 4 = true ∧
            (loadWord memory.bytes (pc - 4)).toNat % 2 ^ 16 <
              emuRows csv) ∨
          (memory.rangeMapped (pc - 4) 4 = false ∧
            0xcccc < emuRows csv)) := by
  have closed : DispatchClosed files memory intno pc ↔
      intno = excpSwi ∧ hookIntr memory intno pc < emuRows csv := by
    rw [← length_handlers generated]
    constructor
    · intro holds
      exact holds _ rfl
    · rintro holds index ⟨⟩
      exact holds
  rw [closed, hookIntr_eq]
  cases memory.rangeMapped (pc - 4) 4 with
  | true => simp
  | false => simp

/-- Guest code that has just executed `svc 200`. -/
def strayMemory : GuestMemory where
  bytes := write (fun _ => 0) 0x30000000 (wordBytes (svcInstruction 200))
  mapped := fun address => decide (address >>> 26 = 0x30000000 >>> 26)

theorem dispatch_closed_iff_sample :
    DispatchClosed (output sampleCsv.rows) sampleMemory excpSwi
      0x2000010C :=
  (dispatch_closed_iff (makeThunks_eq sampleCsv []) sampleMemory excpSwi
    0x2000010C).mpr ⟨rfl, .inl (by decide)⟩

/-- A stray `svc` calls through memory behind the table. -/
theorem stray_svc_outside :
    ¬ ∀ (csv : List (List String)) (files : Output) (memory : GuestMemory)
      (intno : Nat) (pc : Word), makeThunks csv = .ok files →
        DispatchClosed files memory intno pc := by
  intro claimed
  have closed := claimed _ (output sampleCsv.rows) strayMemory excpSwi
    0x30000004 (makeThunks_eq sampleCsv [])
  have inside := (closed _ rfl).2
  rw [length_handlers_output] at inside
  exact absurd inside (by decide)

end Thunks
end GA330
