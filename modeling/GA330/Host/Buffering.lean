import GA330.Host.BufferedFilesystem
import GA330.Host.Operation

/-!
# Supervisor calls on streams with buffers

The handlers as they are, over the table of streams with buffers.  Each call
comes with what is left to chance in it.  When no file that is written is opened
a second time and the host stores what it is handed, the guest cannot notice the
buffers: it gets what the handlers give it over streams without them.
-/

namespace GA330
namespace Host

open ByteMemory FileStream BufferedStream

/-! ## The handlers -/

/-- The part of the emulator's state that the handlers use, with the buffers of
the streams. -/
structure BufferedState where
  filesystem : BufferedFilesystem
  fileBuffer : FileBuffer

namespace BufferedState

/-- The state when the process starts. -/
def initial (files : HostFiles) : BufferedState where
  filesystem := .initial files
  fileBuffer := ⟨0, fun _ => 0⟩

/-- The state without the buffers of the streams. -/
def seen (state : BufferedState) : FileState where
  filesystem := state.filesystem.seen
  fileBuffer := state.fileBuffer

end BufferedState

/-- A supervisor call, and what is left to chance in its operation. -/
abbrev BufferedCall := FileCall × Chance Byte

/-- One supervisor call: it performs its operation on the table, as `svcFile`
does by `svcFile_performs` and `svcFile_fileBuffer`. -/
def svcBuffered (state : BufferedState) (call : BufferedCall) :
    BufferedState × Option FileAnswer :=
  match call.1.operation state.seen with
  | none => (state, none)
  | some operation =>
      let (fs, result) := state.filesystem.step operation call.2
      (⟨fs, call.1.bufferAfter state.seen result⟩,
        some (call.1.answer result))

/-! ## Buffers that are not noticed -/

/-- A call of whose operation the host stores what it is handed, and which opens
no file that a stream is on, unless both only read. -/
structure Undisturbed (state : BufferedState) (call : BufferedCall) :
    Prop where
  stores : call.2.failure = none
  alone : ∀ operation ∈ call.1.operation state.seen,
    state.filesystem.Alone operation

/-- A state without buffers for one with them. -/
structure BufferedState.Settled (state : BufferedState)
    (whole : FileState) : Prop where
  filesystem : state.filesystem.Settled whole.filesystem
  fileBuffer : whole.fileBuffer = state.fileBuffer

section Settling

variable {state : BufferedState} {whole : FileState} {call : BufferedCall}

/-- When the process starts, there is nothing in a buffer. -/
theorem settled_initial (files : HostFiles) :
    (BufferedState.initial files).Settled (.initial files) :=
  ⟨BufferedFilesystem.settled_of_closed fun _ => rfl, rfl⟩

/-- Whether an open succeeds does not depend on the buffers. -/
theorem BufferedState.Settled.openOverflows_eq
    (settled : state.Settled whole) (path mode : List Byte)
    (granted : Bool) :
    openOverflows whole.filesystem path mode granted =
      openOverflows state.seen.filesystem path mode granted := by
  have number : whole.filesystem.nextHandle =
      state.seen.filesystem.nextHandle := settled.filesystem.nextHandle
  have present := settled.filesystem.isSome_eq (hostName path)
  have opens : whole.filesystem.opens path mode granted =
      state.seen.filesystem.opens path mode granted := by
    unfold Filesystem.opens
    congr 1
    funext openMode
    exact isSome_openFile_congr present openMode granted
  rw [openOverflows, openOverflows, number, opens]

theorem BufferedState.Settled.writeBuffer_eq (settled : state.Settled whole)
    (call : FileCall) :
    writeBuffer whole call = writeBuffer state.seen call := by
  have same : whole.fileBuffer = state.seen.fileBuffer :=
    settled.fileBuffer
  simp only [writeBuffer, same]

/-- So a call performs the same operation. -/
theorem BufferedState.Settled.operation (settled : state.Settled whole)
    (call : FileCall) : call.operation whole = call.operation state.seen := by
  have opens : call.openOperation whole = call.openOperation state.seen := by
    simp only [FileCall.openOperation, settled.openOverflows_eq]
  unfold FileCall.operation
  rw [settled.writeBuffer_eq, opens]

/-- The shared buffer depends on the result of the operation only. -/
theorem BufferedState.Settled.bufferAfter (settled : state.Settled whole)
    (call : FileCall) (result : Filesystem.Answer) :
    call.bufferAfter whole result = call.bufferAfter state.seen result := by
  have same : whole.fileBuffer = state.seen.fileBuffer :=
    settled.fileBuffer
  cases result with
  | delivered bytes => rw [FileCall.bufferAfter, FileCall.bufferAfter, same]
  | written size => exact settled.writeBuffer_eq call
  | handle h => exact same
  | closed => exact same
  | sought => exact same
  | position p => exact same

/-- A call is answered as if there were no buffers. -/
theorem BufferedState.Settled.answered (settled : state.Settled whole)
    (undisturbed : Undisturbed state call) :
    (svcBuffered state call).1.Settled (svcFile whole call.1).1 ∧
      (svcFile whole call.1).2 = (svcBuffered state call).2 := by
  have performs := svcFile_performs whole call.1
  have buffer := svcFile_fileBuffer whole call.1
  rw [settled.operation] at performs buffer
  unfold svcBuffered
  cases performed : call.1.operation state.seen with
  | none =>
      rw [performed] at performs buffer
      refine ⟨⟨?_, buffer.trans settled.fileBuffer⟩, performs.answered⟩
      rw [performs.table]
      exact settled.filesystem
  | some operation =>
      rw [performed] at performs buffer
      have alone := undisturbed.alone operation performed
      obtain ⟨after, same⟩ :=
        settled.filesystem.step undisturbed.stores alone
      refine ⟨⟨?_, ?_⟩, ?_⟩
      · rw [performs.table]
        exact after
      · rw [buffer, Option.elim_some, settled.bufferAfter, same]
      · rw [performs.answered, Option.map_some, same]

end Settling

/-! ## Runs -/

/-- In a run that opens no file twice to write it, on a host that stores what it
is handed, there is a state without buffers for the state with them, and the
guest gets the same answers. -/
theorem settled_run (files : HostFiles) {calls : List BufferedCall}
    (undisturbed : Machine.Admissible svcBuffered Undisturbed
      (.initial files) calls) :
    (Machine.final svcBuffered (.initial files) calls).Settled
        (Machine.final svcFile (.initial files) (calls.map Prod.fst)) ∧
      Machine.outputs svcFile (.initial files) (calls.map Prod.fst) =
        Machine.outputs svcBuffered (.initial files) calls :=
  Machine.matched_of_admissible Prod.fst
    (fun left right _ undisturbed (settled : left.Settled right) =>
      settled.answered undisturbed) (settled_initial files) undisturbed

/-- In such a run nothing tells that streams have buffers: the guest gets the
same answers as over streams without them, every handle has the stream that it
would have, and the files that no stream is open to write are the same. -/
theorem buffering_unseen (files : HostFiles) {calls : List BufferedCall}
    (undisturbed : Machine.Admissible svcBuffered Undisturbed
      (.initial files) calls) :
    let state := Machine.final svcBuffered (.initial files) calls
    let whole := Machine.final svcFile (.initial files) (calls.map Prod.fst)
    Machine.outputs svcBuffered (.initial files) calls =
        Machine.outputs svcFile (.initial files) (calls.map Prod.fst) ∧
      (∀ handle, state.seen.filesystem.openFiles handle =
        whole.filesystem.openFiles handle) ∧
      ∀ name,
        (∀ handle, (state.filesystem.entry handle).stream.target ≠
          some (name, .output)) →
            state.filesystem.files name = whole.filesystem.files name := by
  intro state whole
  obtain ⟨settled, same⟩ := settled_run files undisturbed
  refine ⟨same.symm, ?_, ?_⟩
  · intro handle
    exact (settled.filesystem.openFiles handle).symm
  · intro name unwritten
    exact (settled.filesystem.unwritten name unwritten).symm

/-! ## A sample run -/

/-- A call with four argument registers, after which the stream has read that
many bytes ahead, or has handed on that many that were written, which the host
stores. -/
def sampleBuffered (handler : FileHandler) (r0 r1 r2 r3 : Word)
    (ahead handed : Nat) : BufferedCall :=
  (sampleCall handler r0 r1 r2 r3, ⟨ahead, handed, none⟩)

/-- A call that opens nothing, or opens a file when nothing is open. -/
theorem undisturbed_of_closed {state : BufferedState} {call : BufferedCall}
    (stores : call.2.failure = none)
    (closed : call.1.handle = none →
      ∀ handle, state.filesystem.openFiles handle = none) :
    Undisturbed state call := by
  refine ⟨stores, ?_⟩
  intro operation performed
  cases operation with
  | «open» path mode granted =>
      intro openMode _ handle other target
      have argument := operation_argument performed
      rw [BufferedFilesystem.entry, closed argument.symm] at target
      contradiction
  | close handle => trivial
  | read handle size => trivial
  | write handle input => trivial
  | seek handle offset cMode => trivial
  | tell handle => trivial

/-- A call with a handle opens nothing. -/
theorem undisturbed_of_use {state : BufferedState} {call : BufferedCall}
    (stores : call.2.failure = none) (use : call.1.handle ≠ none) :
    Undisturbed state call :=
  undisturbed_of_closed stores fun opening => absurd opening use

/-- A table in which one entry was put, changed and removed is empty again. -/
theorem empty_again {Key : Type u} {Entry : Type v} [DecidableEq Key]
    (key : Key) (first second : Option Entry) (other : Key) :
    Function.update (Function.update (Function.update (fun _ => none) key
      first) key second) key none other = none := by
  rw [Function.update_idem, Function.update_idem]
  exact congrFun (Function.update_eq_self key fun _ => none) other

/-- Three bytes are written, of which one is handed on at once and the others
when the file is closed; then it is opened to be read, one byte is read, with the
others read ahead, and two more. -/
def sampleHeldBack : List BufferedCall :=
  [sampleBuffered .fopen 0x100 0x110 0 0 0 0,
    sampleBuffered .fwrite 0x200 1 3 1 0 1,
    sampleBuffered .fclose 1 0 0 0 0 0,
    sampleBuffered .fopen 0x100 0x120 0 0 0 0,
    sampleBuffered .fread 0x300 1 1 2 2 0,
    sampleBuffered .fread 0x301 1 2 2 0 0]

theorem buffering_unseen_sample :
    Machine.outputs svcBuffered (.initial Filesystem.sampleFiles)
        sampleHeldBack =
      Machine.outputs svcFile (.initial Filesystem.sampleFiles)
        (sampleHeldBack.map Prod.fst) := by
  refine (buffering_unseen Filesystem.sampleFiles ?_).1
  simp only [sampleHeldBack, Machine.Admissible, and_true]
  refine ⟨?_, ?_, ?_, ?_, ?_, ?_⟩
  case refine_1 => exact undisturbed_of_closed rfl fun _ _ => rfl
  case refine_2 => exact undisturbed_of_use rfl (by decide)
  case refine_3 => exact undisturbed_of_use rfl (by decide)
  case refine_4 =>
    refine undisturbed_of_closed rfl ?_
    exact fun _ => empty_again 1 _ _
  case refine_5 => exact undisturbed_of_use rfl (by decide)
  case refine_6 => exact undisturbed_of_use rfl (by decide)

end Host
end GA330
