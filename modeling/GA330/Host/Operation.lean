import GA330.Host.Transfer

/-!
# The operation behind a call

A handler takes its arguments from registers and guest memory, performs one
operation of the file table, and turns the result into what the guest finds.
Here that is one statement for all seven handlers: which operation a call
performs, and the answer that it makes of the result.
-/

namespace GA330
namespace Host

open ByteMemory FileStream

namespace FileCall

/-- The operation of an open, unless a string is not read or the next number
would overflow. -/
def openOperation (state : FileState) (call : FileCall) :
    Option Filesystem.Call :=
  match call.path, call.mode with
  | some path, some mode =>
      if openOverflows state.filesystem path mode call.granted then none
      else some (.open path mode call.granted)
  | _, _ => none

/-- The operation that a call performs; there is none when the process does not
get so far. -/
def operation (state : FileState) (call : FileCall) :
    Option Filesystem.Call :=
  match call.handler with
  | .fopen => call.openOperation state
  | .fopenW => call.openOperation state
  | .fread =>
      if call.size = 0 then none
      else some (.read call.stream call.total)
  | .fwrite =>
      if call.size = 0 then none
      else some (.write call.stream
        ((writeBuffer state call).front call.total))
  | .fseek => some (.seek call.file call.offset call.cMode)
  | .fclose => some (.close call.file)
  | .ftell => some (.tell call.file)

/-- What the guest finds when the operation gives a result. -/
def answer (call : FileCall) : Filesystem.Answer → FileAnswer
  | .handle h => call.returning (BitVec.ofInt 32 h)
  | .closed => call.returning 0
  | .delivered bytes =>
      let answer := call.returning
        (BitVec.ofNat 32 (bytes.length / call.size))
      match call.memory.ucMemWrite call.buffer bytes with
      | none => answer
      | some memory =>
          { answer with memory := memory, transferred := bytes }
  | .written size => call.returning (BitVec.ofNat 32 (size / call.size))
  | .sought => call.returning 0
  | .position p => call.returning (BitVec.ofInt 32 p)

/-- `file_buffer` when the operation has given a result. -/
def bufferAfter (state : FileState) (call : FileCall) :
    Filesystem.Answer → FileBuffer
  | .delivered bytes =>
      (state.fileBuffer.reserve call.total call.fresh).store bytes
  | .written _ => writeBuffer state call
  | _ => state.fileBuffer

end FileCall

section Operations

variable {state : FileState} {call : FileCall}

/-- Table and answer are those of an operation; without one, the table stays
as it is and there is no answer. -/
structure Performed (state : FileState) (call : FileCall)
    (operation : Option Filesystem.Call)
    (result : FileState × Option FileAnswer) : Prop where
  table : result.1.filesystem = operation.elim state.filesystem
    fun operation => (Filesystem.step state.filesystem operation).1
  answered : result.2 = operation.map fun operation =>
    call.answer (Filesystem.step state.filesystem operation).2

theorem svcFopen_performs (state : FileState) (call : FileCall) :
    Performed state call (call.openOperation state)
      (svcFopen state call) := by
  unfold svcFopen FileCall.openOperation
  cases call.path with
  | none => exact ⟨rfl, rfl⟩
  | some path =>
      cases call.mode with
      | none => exact ⟨rfl, rfl⟩
      | some mode =>
          dsimp only
          split <;> exact ⟨rfl, rfl⟩

theorem size_eq_zero : call.size = 0 ↔ call.registers 1 = 0 :=
  ⟨fun zero => BitVec.eq_of_toNat_eq zero, fun zero => by
    rw [FileCall.size, zero]
    rfl⟩

/-- Every call performs its operation. -/
theorem svcFile_performs (state : FileState) (call : FileCall) :
    Performed state call (call.operation state) (svcFile state call) := by
  unfold FileCall.operation
  cases kind : call.handler with
  | fopen =>
      simp only [svcFile, kind]
      exact svcFopen_performs state call
  | fopenW =>
      simp only [svcFile, kind]
      exact svcFopen_performs state call
  | fread =>
      by_cases zero : call.registers 1 = 0
      · simp only [svcFile, kind, svcFread, if_pos zero,
          if_pos (size_eq_zero.mpr zero)]
        exact ⟨rfl, rfl⟩
      · obtain ⟨table, answered⟩ := @svcFread_answered state _ kind zero
        have delivered : obtained state call =
            (FileStream.read state.filesystem.files
              (state.filesystem.entry call.stream) call.total).2 :=
          (read_delivers _ _ _).symm
        rw [delivered] at answered
        simp only [if_neg (mt size_eq_zero.mp zero)]
        exact ⟨table, answered⟩
  | fwrite =>
      by_cases zero : call.registers 1 = 0
      · simp only [svcFile, kind, svcFwrite, if_pos zero,
          if_pos (size_eq_zero.mpr zero)]
        exact ⟨rfl, rfl⟩
      · rw [svcFwrite_answered kind zero]
        simp only [if_neg (mt size_eq_zero.mp zero)]
        refine ⟨rfl, ?_⟩
        simp only [Option.map_some, Filesystem.step, Filesystem.writeFile,
          length_front, FileCall.answer]
  | fseek =>
      simp only [svcFile, kind]
      exact ⟨rfl, rfl⟩
  | fclose =>
      simp only [svcFile, kind]
      exact ⟨rfl, rfl⟩
  | ftell =>
      simp only [svcFile, kind]
      exact ⟨rfl, rfl⟩

theorem svcFopen_fileBuffer (state : FileState) (call : FileCall) :
    (svcFopen state call).1.fileBuffer = state.fileBuffer := by
  unfold svcFopen
  split
  · split <;> rfl
  · rfl

/-- The buffer after a call. -/
theorem svcFile_fileBuffer (state : FileState) (call : FileCall) :
    (svcFile state call).1.fileBuffer =
      (call.operation state).elim state.fileBuffer fun operation =>
        call.bufferAfter state
          (Filesystem.step state.filesystem operation).2 := by
  have opens : (call.openOperation state).elim state.fileBuffer
      (fun operation => call.bufferAfter state
        (Filesystem.step state.filesystem operation).2) =
          state.fileBuffer := by
    unfold FileCall.openOperation
    split
    · split <;> rfl
    · rfl
  unfold FileCall.operation
  cases kind : call.handler with
  | fopen =>
      simp only [svcFile, kind, opens]
      exact svcFopen_fileBuffer state call
  | fopenW =>
      simp only [svcFile, kind, opens]
      exact svcFopen_fileBuffer state call
  | fread =>
      simp only [svcFile, kind, svcFread, size_eq_zero]
      split <;> rfl
  | fwrite =>
      simp only [svcFile, kind, svcFwrite_eq, size_eq_zero]
      split <;> rfl
  | fseek =>
      simp only [svcFile, kind]
      rfl
  | fclose =>
      simp only [svcFile, kind]
      rfl
  | ftell =>
      simp only [svcFile, kind]
      rfl

theorem openOperation_argument {operation : Filesystem.Call}
    (performed : call.openOperation state = some operation) :
    operation.argument = none := by
  unfold FileCall.openOperation at performed
  split at performed
  · split at performed
    · contradiction
    · cases performed
      rfl
  · contradiction

/-- The operation is given the handle that the call is given. -/
theorem operation_argument {operation : Filesystem.Call}
    (performed : call.operation state = some operation) :
    operation.argument = call.handle := by
  unfold FileCall.operation at performed
  unfold FileCall.handle
  cases kind : call.handler with
  | fopen =>
      simp only [kind] at performed
      exact openOperation_argument performed
  | fopenW =>
      simp only [kind] at performed
      exact openOperation_argument performed
  | fread =>
      simp only [kind, Option.ite_none_left_eq_some] at performed
      rw [← Option.some.inj performed.2]
      rfl
  | fwrite =>
      simp only [kind, Option.ite_none_left_eq_some] at performed
      rw [← Option.some.inj performed.2]
      rfl
  | fseek =>
      simp only [kind, Option.some.injEq] at performed
      rw [← performed]
      rfl
  | fclose =>
      simp only [kind, Option.some.injEq] at performed
      rw [← performed]
      rfl
  | ftell =>
      simp only [kind, Option.some.injEq] at performed
      rw [← performed]
      rfl

end Operations

end Host
end GA330
