import GA330.Host.Transfer

/-!
# What earlier traffic leaves in a file

All transfers share one buffer, and `fwrite` ignores whether guest memory could
be read into it.  What it writes is compared here in two processes that agree on
the file table and on what the call is given, but not on the calls before it.
The processes are told apart by a write to handle 0, which no open returns: it
fills the buffer and leaves the file table as it was.
-/

namespace GA330
namespace Host

open ByteMemory FileStream

/-! ## Reachable states -/

/-- The process survives the call. -/
def Survives (state : FileState) (call : FileCall) : Prop :=
  (svcFile state call).2.isSome = true

/-- A state of a process that has survived its calls so far. -/
def FileState.Reachable (state : FileState) : Prop :=
  ∃ files, Machine.Reached svcFile Survives (.initial files) state

/-- Numbers are positive, so that under handle 0 there is never a file. -/
structure SpareHandle (fs : Filesystem) : Prop where
  positive : 0 < fs.nextHandle
  blank : Blank (fs.entry 0)

section Spare

variable {fs : Filesystem}

theorem SpareHandle.openFile (spare : SpareHandle fs)
    (path mode : List Byte) (granted : Bool) :
    SpareHandle (fs.openFile path mode granted).1 where
  positive := Int.lt_of_lt_of_le spare.positive
    (Filesystem.nextHandle_le_openFile fs path mode granted)
  blank := by
    rw [Filesystem.entry,
      Filesystem.openFile_of_lt fs path mode granted spare.positive]
    exact spare.blank

/-- No call puts a file under the spare handle. -/
theorem SpareHandle.step (spare : SpareHandle fs)
    (operation : Filesystem.Call) :
    SpareHandle (Filesystem.step fs operation).1 := by
  rcases Filesystem.step_cases fs operation with
    ⟨path, mode, granted, -, result⟩ | ⟨handle, -, result⟩ |
      ⟨handle, files, stream, moves, result⟩
  · rw [result]
    exact spare.openFile path mode granted
  · rw [result]
    refine ⟨spare.positive, ?_⟩
    simp only [Filesystem.closeFile, Filesystem.entry,
      Function.update_apply]
    split
    · exact blank_unopened
    · exact spare.blank
  · rw [result]
    refine ⟨spare.positive, ?_⟩
    rw [Filesystem.entry_setEntry]
    split
    · rename_i same
      subst same
      exact moves.blank spare.blank
    · exact spare.blank

end Spare

section Calls

variable {state : FileState} {call : FileCall}

/-- An open that is answered opens a file in the table. -/
theorem svcFopen_operation
    (survives : (svcFopen state call).2.isSome = true) :
    ∃ operation, (svcFopen state call).1.filesystem =
      (Filesystem.step state.filesystem operation).1 := by
  unfold svcFopen at survives ⊢
  cases asked : call.path with
  | none => simp [asked] at survives
  | some path =>
      cases moded : call.mode with
      | none => simp [asked, moded] at survives
      | some mode =>
          simp only [asked, moded] at survives
          split at survives
          · contradiction
          · rename_i inRange
            simp only [inRange]
            exact ⟨.open path mode call.granted, rfl⟩

/-- What a call that is answered does to the file table is one operation of
it. -/
theorem svcFile_operation (survives : Survives state call) :
    ∃ operation, (svcFile state call).1.filesystem =
      (Filesystem.step state.filesystem operation).1 := by
  unfold Survives at survives
  cases kind : call.handler with
  | fopen =>
      simp only [svcFile, kind] at survives ⊢
      exact svcFopen_operation survives
  | fopenW =>
      simp only [svcFile, kind] at survives ⊢
      exact svcFopen_operation survives
  | fread =>
      have nonzero : call.registers 1 ≠ 0 := fun zero => by
        simp [unanswered_of_zero (.inl kind) zero] at survives
      exact ⟨.read call.stream call.total,
        (svcFread_answered kind nonzero).1⟩
  | fwrite =>
      have nonzero : call.registers 1 ≠ 0 := fun zero => by
        simp [unanswered_of_zero (.inr kind) zero] at survives
      rw [svcFwrite_answered kind nonzero]
      exact ⟨.write call.stream _, rfl⟩
  | fseek =>
      simp only [svcFile, kind]
      exact ⟨.seek _ _ _, rfl⟩
  | fclose =>
      simp only [svcFile, kind]
      exact ⟨.close _, rfl⟩
  | ftell =>
      simp only [svcFile, kind]
      exact ⟨.tell _, rfl⟩

/-- In a reachable state the spare handle has no file. -/
theorem FileState.Reachable.spare (reachable : state.Reachable) :
    SpareHandle state.filesystem := by
  obtain ⟨files, reached⟩ := reachable
  refine @Machine.Reached.invariant _ _ _ svcFile
    (fun state => SpareHandle state.filesystem) _ _ _ reached ?_ ?_
  · intro before call survives spare
    obtain ⟨operation, result⟩ := svcFile_operation survives
    rw [result]
    exact spare.step operation
  · exact ⟨Int.zero_lt_one, blank_unopened⟩

end Calls

/-! ## Filling the buffer -/

/-- Writing bytes of one value to the spare handle. -/
def fillCall (value : Byte) (total : Word) : FileCall where
  handler := .fwrite
  registers := fun index => ([0, 1, total, 0][index.val]?).getD 0
  memory := ⟨fun _ => value, fun _ => true⟩
  granted := false
  garbage := fun _ => 0
  garbageW := fun _ => 0
  fresh := fun _ => 0

/-- Closing the spare handle. -/
def closeProbe : FileCall := { tellProbe 0 with handler := .fclose }

/-- A buffer that holds one value as far as a transfer reaches. -/
structure FilledWith (value : Byte) (total : Nat) (buffer : FileBuffer) :
    Prop where
  capacity : total ≤ buffer.capacity
  front : buffer.front total = List.replicate total value

theorem fillCall_total (value : Byte) (total : Word) :
    (fillCall value total).total = total.toNat := by
  have product : (1 : Word) * total = total := one_mul total
  exact congrArg BitVec.toNat product

theorem capacity_reserve (buffer : FileBuffer) (size : Nat)
    (fresh : Nat → Byte) : size ≤ (buffer.reserve size fresh).capacity := by
  unfold FileBuffer.reserve
  split
  · assumption
  · exact Nat.le_refl _

/-- The fill stores its value in the buffer, and writes it to the spare
handle. -/
theorem svcFile_fillCall (state : FileState) (value : Byte) (total : Word) :
    Survives state (fillCall value total) ∧
      FilledWith value total.toNat
        (svcFile state (fillCall value total)).1.fileBuffer ∧
      (svcFile state (fillCall value total)).1.filesystem =
        (state.filesystem.writeFile 0
          (List.replicate total.toNat value)).1 := by
  have nonzero : (fillCall value total).registers 1 ≠ 0 := by
    change (1 : Word) ≠ 0
    decide
  have mapped : (fillCall value total).memory.rangeMapped
      (fillCall value total).buffer (fillCall value total).total = true := by
    have inSpace : (0 : Word).toNat + (fillCall value total).total ≤
        2 ^ 32 := by
      rw [fillCall_total]
      have bound := total.isLt
      change 0 + total.toNat ≤ 2 ^ 32
      omega
    rw [GuestMemory.rangeMapped, Bool.and_eq_true, List.all_eq_true]
    exact ⟨decide_eq_true inSpace, fun _ _ => rfl⟩
  have source := GuestMemory.ucMemRead_of_mapped mapped
  have front := @writeBuffer_front state _ _ source
  have bytes : read (fillCall value total).memory.bytes
      (fillCall value total).buffer (fillCall value total).total =
        List.replicate total.toNat value := by
    rw [fillCall_total]
    exact read_const value _ _
  rw [Survives, svcFwrite_answered rfl nonzero, front, bytes]
  rw [bytes, fillCall_total] at front
  refine ⟨rfl, ⟨?_, front⟩, rfl⟩
  have capacity := capacity_reserve state.fileBuffer
    (fillCall value total).total (fillCall value total).fresh
  rw [fillCall_total] at capacity
  unfold writeBuffer
  rw [source, fillCall_total]
  exact capacity

/-- Removing the entry that was stored under a handle that had none. -/
theorem closeFile_setEntry {fs : Filesystem} {handle : Int}
    (absent : fs.openFiles handle = none) (stream : Stream HostName) :
    (fs.setEntry handle stream).closeFile handle = fs := by
  rw [Filesystem.closeFile, Filesystem.setEntry]
  dsimp only
  rw [Function.update_idem, ← absent, Function.update_eq_self]

/-- Looking up a handle that was closed stores an unopened stream. -/
theorem tellFile_closeFile (fs : Filesystem) (handle : Int)
    (stream : Stream HostName) :
    (((fs.setEntry handle stream).closeFile handle).tellFile handle).1 =
      fs.setEntry handle .unopened := by
  have closed : ((fs.setEntry handle stream).closeFile handle).entry handle =
      .unopened := by
    rw [Filesystem.entry, Filesystem.closeFile]
    dsimp only
    rw [Function.update_self, Option.getD_none]
  rw [Filesystem.tellFile, closed]
  simp only [Filesystem.closeFile, Filesystem.setEntry,
    Function.update_idem]
  rfl

/-- Closing the spare handle. -/
theorem svcFile_closeProbe (state : FileState) :
    Survives state closeProbe ∧
      (svcFile state closeProbe).1 =
        { state with filesystem := state.filesystem.closeFile 0 } :=
  ⟨rfl, rfl⟩

/-- Telling the position of the spare handle. -/
theorem svcFile_tellProbe (state : FileState) :
    Survives state (tellProbe 0) ∧
      (svcFile state (tellProbe 0)).1 =
        { state with filesystem := (state.filesystem.tellFile 0).1 } :=
  ⟨rfl, rfl⟩

/-- Whatever was written to the spare handle, calls on it bring the file table
back: a stream that has failed was not changed, and one that works was as it is
after a close and a lookup. -/
theorem SpareHandle.restore {fs : Filesystem} (spare : SpareHandle fs)
    {state : FileState} {bytes : List Byte}
    (written : state.filesystem = (fs.writeFile 0 bytes).1) :
    ∃ calls, Machine.Admissible svcFile Survives state calls ∧
      Machine.final svcFile state calls = ⟨fs, state.fileBuffer⟩ := by
  have stored : state.filesystem = fs.setEntry 0
      (FileStream.write fs.files (fs.entry 0) bytes).2 := by
    rw [written, Filesystem.writeFile]
    dsimp only
    rw [write_fileless fs.files spare.blank.target]
  obtain ⟨closes, closed⟩ := svcFile_closeProbe state
  cases present : fs.openFiles 0 with
  | none =>
      refine ⟨[closeProbe], ⟨closes, trivial⟩, ?_⟩
      rw [Machine.final_cons, closed, stored, closeFile_setEntry present]
      rfl
  | some stream =>
      have entry : fs.entry 0 = stream := by
        rw [Filesystem.entry, present, Option.getD_some]
      have blank := spare.blank
      rw [entry] at stored blank
      cases failed : stream.fail with
      | true =>
          refine ⟨[], trivial, ?_⟩
          rw [write_failed fs.files failed,
            Filesystem.setEntry_present present] at stored
          rw [← stored]
          rfl
      | false =>
          have unopened := blank.eq_unopened failed
          subst unopened
          refine ⟨[closeProbe, tellProbe 0],
            ⟨closes, (svcFile_tellProbe _).1, trivial⟩, ?_⟩
          rw [Machine.final_cons, closed, Machine.final_cons,
            (svcFile_tellProbe _).2, stored]
          dsimp only
          rw [tellFile_closeFile, Filesystem.setEntry_present present]
          rfl

/-- From every reachable state, calls lead to one with the same file table and
with a buffer full of any value. -/
theorem FileState.Reachable.fill {state : FileState}
    (reachable : state.Reachable) (value : Byte) (total : Word) :
    ∃ filled : FileState, filled.Reachable ∧
      filled.filesystem = state.filesystem ∧
      FilledWith value total.toNat filled.fileBuffer := by
  obtain ⟨survives, full, written⟩ :=
    svcFile_fillCall state value total
  obtain ⟨calls, admissible, restored⟩ := reachable.spare.restore written
  obtain ⟨files, reached⟩ := reachable
  refine ⟨⟨state.filesystem,
    (svcFile state (fillCall value total)).1.fileBuffer⟩, ⟨files, ?_⟩, rfl,
    full⟩
  have further : Machine.Admissible svcFile Survives state
      (fillCall value total :: calls) := ⟨survives, admissible⟩
  have reachedFurther := Machine.Reached.run svcFile reached further
  rw [Machine.final_cons, restored] at reachedFurther
  exact reachedFurther

/-! ## What a write depends on -/

/-- Two calls that pass the same to a handler, and read the same in guest
memory. -/
structure SameTransfer (first second : FileCall) : Prop where
  handler : second.handler = first.handler
  registers : second.registers = first.registers
  source : second.memory.ucMemRead first.buffer first.total =
    first.memory.ucMemRead first.buffer first.total

/-- The call leaves the same host files in every process with the same file
table that is given the same. -/
def WritesGuestData (state : FileState) (call : FileCall) : Prop :=
  ∀ (other : FileState) (again : FileCall), other.Reachable →
    other.filesystem = state.filesystem → SameTransfer call again →
      (svcFile other again).1.filesystem.files =
        (svcFile state call).1.filesystem.files

section Writes

variable {state other : FileState} {call again : FileCall}

theorem SameTransfer.refl (call : FileCall) : SameTransfer call call :=
  ⟨rfl, rfl, rfl⟩

theorem SameTransfer.total_eq (same : SameTransfer call again) :
    again.total = call.total := by
  rw [FileCall.total, same.registers]
  rfl

theorem SameTransfer.buffer_eq (same : SameTransfer call again) :
    again.buffer = call.buffer :=
  congrFun same.registers 0

theorem SameTransfer.stream_eq (same : SameTransfer call again) :
    again.stream = call.stream := by
  rw [FileCall.stream, same.registers]
  rfl

/-- What is written is guest memory, or nothing. -/
theorem writesGuestData_of (writing : call.handler = .fwrite)
    (served : call.total = 0 ∨ call.mapped = true ∨
      (state.filesystem.entry call.stream).writes = false) :
    WritesGuestData state call := by
  intro other again _ sameTable same
  have writingAgain := same.handler.trans writing
  by_cases zero : call.registers 1 = 0
  · have zeroAgain : again.registers 1 = 0 := by rw [same.registers, zero]
    simp only [svcFile, writing, writingAgain, svcFwrite, zero, zeroAgain,
      if_true]
    rw [sameTable]
  · have nonzeroAgain : again.registers 1 ≠ 0 := by rwa [same.registers]
    rw [svcFwrite_files writing zero,
      svcFwrite_files writingAgain nonzeroAgain, sameTable, same.stream_eq]
    rcases served with nothing | mapped | idle
    · rw [same.total_eq, nothing]
      rfl
    · obtain ⟨bytes, source⟩ : ∃ bytes,
          call.memory.ucMemRead call.buffer call.total = some bytes :=
        ⟨_, GuestMemory.ucMemRead_of_mapped mapped⟩
      have sourceAgain := same.source.trans source
      rw [← same.total_eq, ← same.buffer_eq] at sourceAgain
      rw [writeBuffer_front source, writeBuffer_front sourceAgain]
    · rw [write_idle _ idle, write_idle _ idle]

/-- A buffer that is full of a value is written when guest memory cannot be
read. -/
theorem svcFwrite_filled (writing : call.handler = .fwrite)
    (nonzero : call.registers 1 ≠ 0) (unmapped : call.mapped = false)
    {value : Byte} (full : FilledWith value call.total state.fileBuffer) :
    (svcFile state call).1.filesystem.files =
      (FileStream.write state.filesystem.files
        (state.filesystem.entry call.stream)
        (List.replicate call.total value)).1 := by
  have source : call.memory.ucMemRead call.buffer call.total = none := by
    rw [FileCall.mapped] at unmapped
    rw [GuestMemory.ucMemRead, if_neg (by simp [unmapped])]
  rw [svcFwrite_files writing nonzero, writeBuffer_of_unmapped source,
    FileBuffer.reserve, if_pos full.capacity, full.front]

/-- Otherwise earlier traffic decides what is written. -/
theorem not_writesGuestData (reachable : state.Reachable)
    (writing : call.handler = .fwrite) (positive : call.total ≠ 0)
    (unmapped : call.mapped = false)
    (writes : (state.filesystem.entry call.stream).writes = true) :
    ¬ WritesGuestData state call := by
  intro independent
  have nonzero : call.registers 1 ≠ 0 := by
    intro zero
    have product : (0 : Word) * call.registers 2 = 0 := zero_mul _
    rw [FileCall.total, zero, product] at positive
    exact positive rfl
  have filled : ∀ value : Byte,
      (FileStream.write state.filesystem.files
        (state.filesystem.entry call.stream)
        (List.replicate call.total value)).1 =
          (svcFile state call).1.filesystem.files := by
    intro value
    obtain ⟨other, reachableOther, sameTable, full⟩ := reachable.fill value
      (call.registers 1 * call.registers 2)
    have result := independent other call reachableOther sameTable
      (.refl call)
    rw [svcFwrite_filled writing nonzero unmapped full, sameTable] at result
    exact result
  have same : List.replicate call.total (0 : Byte) =
      List.replicate call.total 1 :=
    write_inj writes (by rw [List.length_replicate, List.length_replicate])
      ((filled 0).trans (filled 1).symm)
  exact absurd (List.replicate_right_injective positive same) (by decide)

/-- In every reachable state, an `fwrite` writes what guest memory holds,
whatever the traffic before it, exactly when it asks for nothing, or guest
memory is mapped, or the handle cannot be written to. -/
theorem writes_guest_data_iff (reachable : state.Reachable)
    (writing : call.handler = .fwrite) :
    WritesGuestData state call ↔
      call.total = 0 ∨ call.mapped = true ∨
        (state.filesystem.entry call.stream).writes = false := by
  constructor
  · intro independent
    by_contra otherwise
    rw [not_or, not_or, Bool.not_eq_true, Bool.not_eq_false] at otherwise
    exact not_writesGuestData reachable writing otherwise.1 otherwise.2.1
      otherwise.2.2 independent
  · exact writesGuestData_of writing

end Writes

/-! ## One byte from nowhere -/

/-- Opening a file for writing, under the handle 1. -/
def sampleWriterOpen : FileCall := sampleCall .fopen 0x100 0x110 0 0

/-- The state after that. -/
def sampleWriter : FileState :=
  (svcFile (.initial Filesystem.sampleFiles) sampleWriterOpen).1

theorem sampleWriter_reachable : sampleWriter.Reachable :=
  ⟨Filesystem.sampleFiles, [sampleWriterOpen],
    ⟨show _ = true by decide +kernel, trivial⟩, rfl⟩

/-- Writing one byte from an address that is not mapped. -/
def unmappedWrite : FileCall :=
  { sampleCall .fwrite 0x200 1 1 1 with
    memory := { sampleMemory with mapped := fun _ => false } }

theorem writes_guest_data_iff_sample :
    WritesGuestData sampleWriter (sampleCall .fwrite 0x200 1 3 1) :=
  (writes_guest_data_iff sampleWriter_reachable rfl).mpr
    (.inr (.inl (by decide)))

/-- The byte that is written from there is one of an earlier transfer. -/
theorem stale_byte_written :
    ¬ ∀ (state : FileState) (call : FileCall), state.Reachable →
      call.handler = .fwrite → WritesGuestData state call := by
  intro claimed
  exact not_writesGuestData sampleWriter_reachable rfl (by decide)
    (by decide) (by decide +kernel)
    (claimed sampleWriter unmappedWrite sampleWriter_reachable rfl)

end Host
end GA330
