import GA330.Host.BufferedTransfer

/-!
# A handle has its file to itself

All handles share one table, one buffer and the host's files, and every stream
has a buffer of its own.  Still, what the guest finds through a handle depends
only on the calls that it makes with that handle, as long as no other handle on
the file is, or is opened, to write: any call with such a handle may hand bytes
to the host, and not only a write.  All other calls may be put in or left out
anywhere, and every answer stays the same.
-/

namespace GA330
namespace Host

open ByteMemory FileStream BufferedStream

/-- The operation may change the file of a name: it opens the file to write it,
or it is given a handle whose stream does. -/
def Filesystem.Changes (fs : Filesystem) (name : HostName) :
    Filesystem.Call → Prop
  | .open path mode _ =>
      fileMode mode = some .output ∧ hostName path = name
  | call => ∃ handle, call.argument = some handle ∧
      (fs.entry handle).target = some (name, .output)

/-- With a handle, that is what its stream is for. -/
theorem Filesystem.changes_iff {fs : Filesystem} {name : HostName}
    {call : Filesystem.Call} {handle : Int}
    (argument : call.argument = some handle) :
    fs.Changes name call ↔
      (fs.entry handle).target = some (name, .output) := by
  have given : (∃ k, call.argument = some k ∧
      (fs.entry k).target = some (name, .output)) ↔
        (fs.entry handle).target = some (name, .output) := by
    simp [argument]
  cases call with
  | «open» path mode granted => contradiction
  | close k => exact given
  | read k size => exact given
  | write k input => exact given
  | seek k offset cMode => exact given
  | tell k => exact given

namespace BufferedFilesystem

/-! ## The table through one handle -/

/-- Two tables have the same stream under a handle, and the same file for
it. -/
structure SameThrough (h : Int) (left right : BufferedFilesystem) :
    Prop where
  entry : right.entry h = left.entry h
  file : AgreeThrough (left.entry h).stream left.files right.files

section Steps

variable {h : Int} {fs left right : BufferedFilesystem}
variable {call : Filesystem.Call}

theorem SameThrough.refl (h : Int) (fs : BufferedFilesystem) :
    SameThrough h fs fs :=
  ⟨rfl, .refl _ _⟩

/-- An open fails and changes nothing, or it puts a stream on the file into the
table unless the next number is taken. -/
theorem openFile_cases (fs : BufferedFilesystem) (path mode : List Byte)
    (granted : Bool) :
    (fs.openFile path mode granted).1 = fs ∨
      ∃ openMode files stream,
        fileMode mode = some openMode ∧
          FileStream.openFile fs.files (hostName path) openMode granted =
            some (files, stream) ∧
          (fs.openFile path mode granted).1 =
            { ({ fs with files := files }.emplace fs.nextHandle
                ⟨stream, []⟩) with
              nextHandle := fs.nextHandle + 1 } := by
  unfold openFile
  cases fileMode mode with
  | none => exact .inl rfl
  | some openMode =>
      cases attempt : FileStream.openFile fs.files (hostName path) openMode
          granted with
      | none => simp [attempt]
      | some opened =>
          refine .inr ⟨openMode, opened.1, opened.2, rfl, attempt, ?_⟩
          simp only [attempt]

theorem emplace_files (fs : BufferedFilesystem) (handle : Int)
    (buffered : Buffered HostName Byte) :
    (fs.emplace handle buffered).files = fs.files := by
  unfold emplace
  split <;> rfl

theorem emplace_of_ne (fs : BufferedFilesystem) {handle k : Int}
    (buffered : Buffered HostName Byte) (different : k ≠ handle) :
    (fs.emplace handle buffered).entry k = fs.entry k := by
  unfold emplace
  split
  · rfl
  · rw [entry_setEntry, if_neg different]

/-- An operation on the stream of a handle, or the end of it. -/
theorem step_argument {handle : Int} (chance : Chance Byte)
    (argument : call.argument = some handle) :
    ∃ files moved,
      (∀ name, (fs.entry handle).stream.target ≠ some (name, .output) →
        files name = fs.files name) ∧
      (fs.step call chance).1 =
        { fs with
          files := files
          openFiles := Function.update fs.openFiles handle moved } := by
  cases call with
  | «open» path mode granted => contradiction
  | close k =>
      cases argument
      exact ⟨_, _, (keeps_hand _ _ _ _).other, rfl⟩
  | read k size =>
      cases argument
      exact ⟨_, _, (keeps_read _ _ _ _).other, rfl⟩
  | write k input =>
      cases argument
      exact ⟨_, _, (keeps_write _ _ _ _).other, rfl⟩
  | tell k =>
      cases argument
      exact ⟨_, _, fun _ _ => rfl, rfl⟩
  | seek k offset cMode =>
      cases argument
      rw [step, seekFile]
      cases Filesystem.direction cMode with
      | none => exact ⟨_, _, fun _ _ => rfl, rfl⟩
      | some dir => exact ⟨_, _, (keeps_seek _ _ _ _ _).other, rfl⟩

/-- An operation that does not change a file leaves it alone. -/
theorem step_not_changes {name : HostName} (chance : Chance Byte)
    (kept : ¬ fs.seen.Changes name call) :
    (fs.step call chance).1.files name = fs.files name := by
  cases argument : call.argument with
  | some handle =>
      obtain ⟨files, moved, others, result⟩ :=
        @step_argument fs call handle chance argument
      rw [Filesystem.changes_iff argument, seen_entry, seen_target] at kept
      rw [result]
      exact others name kept
  | none =>
      cases call with
      | «open» path mode granted =>
          change (fs.openFile path mode granted).1.files name = _
          rcases openFile_cases fs path mode granted with
            failed | ⟨openMode, files, stream, moded, attempt, succeeded⟩
          · rw [failed]
          · rw [succeeded]
            change (emplace _ _ _).files name = _
            rw [emplace_files]
            cases openMode with
            | input =>
                rw [FileStream.openFile,
                  Option.ite_none_right_eq_some] at attempt
                cases attempt.2
                rfl
            | output =>
                exact openFile_other attempt fun same => kept ⟨moded, same⟩
      | close k => contradiction
      | read k size => contradiction
      | write k input => contradiction
      | tell k => contradiction
      | seek k offset cMode => contradiction

/-- The stream under another handle stays as it is, and numbers only grow. -/
theorem step_entry_other (chance : Chance Byte)
    (returned : h < fs.nextHandle) (other : call.argument ≠ some h) :
    (fs.step call chance).1.entry h = fs.entry h ∧
      fs.nextHandle ≤ (fs.step call chance).1.nextHandle := by
  cases argument : call.argument with
  | some handle =>
      obtain ⟨files, moved, _, result⟩ :=
        @step_argument fs call handle chance argument
      have different : h ≠ handle := by
        rintro rfl
        exact other argument
      rw [result]
      refine ⟨?_, Int.le_refl _⟩
      simp only [entry, Function.update_of_ne different]
  | none =>
      cases call with
      | «open» path mode granted =>
          change (fs.openFile path mode granted).1.entry h = _ ∧
            _ ≤ (fs.openFile path mode granted).1.nextHandle
          rcases openFile_cases fs path mode granted with
            failed | ⟨openMode, files, stream, _, _, succeeded⟩
          · rw [failed]
            exact ⟨rfl, Int.le_refl _⟩
          · rw [succeeded]
            refine ⟨?_, Int.le_of_lt (Int.lt_succ _)⟩
            change (emplace _ _ _).entry h = _
            rw [emplace_of_ne _ _ (Int.ne_of_lt returned)]
            rfl
      | close k => contradiction
      | read k size => contradiction
      | write k input => contradiction
      | tell k => contradiction
      | seek k offset cMode => contradiction

/-- An operation on another handle, which does not change the file, cannot be
seen through this one. -/
theorem SameThrough.other (same : SameThrough h left right)
    (chance : Chance Byte) (returned : h < left.nextHandle)
    (other : call.argument ≠ some h)
    (kept : ∀ on ∈ (left.entry h).stream.target,
      ¬ left.seen.Changes on.1 call) :
    SameThrough h (left.step call chance).1 right := by
  have entry := (step_entry_other chance returned other).1
  constructor
  · rw [entry]
    exact same.entry
  · intro on target
    rw [entry] at target
    rw [step_not_changes chance (kept on target)]
    exact same.file on target

/-- Storing the same stream under the handle in both tables. -/
theorem SameThrough.stored {files others : HostFiles}
    {moved : Buffered HostName Byte}
    (target : moved.stream.target = (left.entry h).stream.target)
    (agree : AgreeThrough (left.entry h).stream files others) :
    SameThrough h ({ left with files := files }.setEntry h moved)
      ({ right with files := others }.setEntry h moved) where
  entry := by rw [entry_setEntry, entry_setEntry, if_pos rfl, if_pos rfl]
  file := by
    rw [entry_setEntry, if_pos rfl]
    unfold AgreeThrough
    rw [target]
    exact agree

/-- An operation on the handle gives the same result in both tables. -/
theorem SameThrough.own (same : SameThrough h left right)
    (chance : Chance Byte) (onHandle : call.argument = some h) :
    SameThrough h (left.step call chance).1 (right.step call chance).1 ∧
      (right.step call chance).2 = (left.step call chance).2 := by
  have entry := same.entry
  have file := same.file
  cases call with
  | «open» path mode granted => contradiction
  | close k =>
      cases onHandle
      refine ⟨⟨?_, ?_⟩, rfl⟩
      · change (closeFile _ _ _).entry h = (closeFile _ _ _).entry h
        rw [entry_closeFile, entry_closeFile, if_pos rfl, if_pos rfl]
      · change AgreeThrough ((closeFile _ _ _).entry h).stream _ _
        rw [entry_closeFile, if_pos rfl]
        exact nofun
  | read k size =>
      cases onHandle
      obtain ⟨delivered, moved, agree⟩ := agree_read file size chance
      simp only [step, readFile, entry, delivered, moved]
      exact ⟨.stored (keeps_read _ _ _ _).target agree, trivial⟩
  | write k input =>
      cases onHandle
      obtain ⟨moved, agree⟩ := agree_write file input chance
      simp only [step, writeFile, entry, moved]
      exact ⟨.stored (keeps_write _ _ _ _).target agree, trivial⟩
  | tell k =>
      cases onHandle
      simp only [step, tellFile, entry]
      exact ⟨.stored rfl file, trivial⟩
  | seek k offset cMode =>
      cases onHandle
      simp only [step, seekFile, entry]
      cases Filesystem.direction cMode with
      | none => exact ⟨.stored rfl file, trivial⟩
      | some dir =>
          obtain ⟨moved, agree⟩ := agree_seek file offset dir chance
          dsimp only
          rw [moved]
          exact ⟨.stored (keeps_seek _ _ _ _ _).target agree, trivial⟩

end Steps
end BufferedFilesystem

/-! ## Calls -/

/-- A call does not get in the way of a handle: when it writes through the
handle, it writes memory that is mapped; and when it is none of the handle's,
it does not change the file that the handle is on. -/
structure OutOfTheWay (h : Int) (state : BufferedState)
    (call : BufferedCall) : Prop where
  mapped : call.1.handle = some h → call.1.handler = .fwrite →
    call.1.mapped = true
  file : call.1.handle ≠ some h →
    ∀ operation ∈ call.1.operation state.seen,
      ∀ on ∈ (state.filesystem.entry h).stream.target,
        ¬ state.filesystem.seen.Changes on.1 operation

section Calls

variable {h : Int}

/-- A call with a handle is the same operation in every state, if what it
writes is guest memory. -/
theorem operation_congr {left right : FileState} {call : FileCall}
    (own : call.handle = some h)
    (mapped : call.handler = .fwrite → call.mapped = true) :
    call.operation right = call.operation left := by
  unfold FileCall.operation
  unfold FileCall.handle at own
  cases kind : call.handler with
  | fopen => simp [kind] at own
  | fopenW => simp [kind] at own
  | fwrite =>
      obtain ⟨bytes, source⟩ : ∃ bytes,
          call.memory.ucMemRead call.buffer call.total = some bytes :=
        ⟨_, GuestMemory.ucMemRead_of_mapped (mapped kind)⟩
      dsimp only
      rw [writeBuffer_front source, writeBuffer_front source]
  | fread => rfl
  | fseek => rfl
  | fclose => rfl
  | ftell => rfl

/-- Two states that look the same through a handle which was returned. -/
structure Alongside (h : Int) (left right : BufferedState) : Prop where
  returned : h < left.filesystem.nextHandle
  same : BufferedFilesystem.SameThrough h left.filesystem right.filesystem

variable {left right : BufferedState} {call : BufferedCall}

/-- A call with the handle is answered the same in both states. -/
theorem Alongside.own (alongside : Alongside h left right)
    (apart : OutOfTheWay h left call) (own : call.1.handle = some h) :
    Alongside h (svcBuffered left call).1 (svcBuffered right call).1 ∧
      (svcBuffered right call).2 = (svcBuffered left call).2 := by
  unfold svcBuffered
  rw [@operation_congr h left.seen right.seen call.1 own (apart.mapped own)]
  cases performed : call.1.operation left.seen with
  | none => exact ⟨alongside, rfl⟩
  | some operation =>
      have onHandle := (operation_argument performed).trans own
      obtain ⟨still, answered⟩ := alongside.same.own call.2 onHandle
      obtain ⟨files, moved, _, result⟩ :=
        @BufferedFilesystem.step_argument left.filesystem operation h call.2
          onHandle
      dsimp only
      rw [answered]
      refine ⟨⟨?_, still⟩, rfl⟩
      rw [result]
      exact alongside.returned

/-- Any other call cannot be seen through the handle. -/
theorem Alongside.other (alongside : Alongside h left right)
    (apart : OutOfTheWay h left call) (other : call.1.handle ≠ some h) :
    Alongside h (svcBuffered left call).1 right := by
  unfold svcBuffered
  cases performed : call.1.operation left.seen with
  | none => exact alongside
  | some operation =>
      have elsewhere : operation.argument ≠ some h := by
        rwa [operation_argument performed]
      have grown := (BufferedFilesystem.step_entry_other call.2
        alongside.returned elsewhere).2
      exact ⟨Int.lt_of_lt_of_le alongside.returned grown,
        alongside.same.other call.2 alongside.returned elsewhere
          (apart.file other operation performed)⟩

end Calls

/-! ## Runs -/

/-- The calls with a handle. -/
def ofHandle (h : Int) (call : BufferedCall) : Bool :=
  decide (call.1.handle = some h)

/-- In a run in which no call gets in the way of a handle that was returned,
the calls with the handle are answered as if they were the only ones, and in
the end the stream and its file are as if they had been. -/
theorem handle_isolated {state : BufferedState} {h : Int}
    (returned : h < state.filesystem.nextHandle)
    {calls : List BufferedCall}
    (apart : Machine.Admissible svcBuffered (OutOfTheWay h) state calls) :
    (Machine.log svcBuffered state calls).filter
          (fun entry => ofHandle h entry.1) =
        Machine.log svcBuffered state (calls.filter (ofHandle h)) ∧
      BufferedFilesystem.SameThrough h
        (Machine.final svcBuffered state calls).filesystem
        (Machine.final svcBuffered state
          (calls.filter (ofHandle h))).filesystem := by
  have initially : Alongside h state state :=
    ⟨returned, .refl h state.filesystem⟩
  have erased := Machine.log_filter svcBuffered
    (fun left right call apart own (alongside : Alongside h left right) =>
      alongside.own apart (of_decide_eq_true own))
    (fun left right call apart other alongside =>
      alongside.other apart (of_decide_eq_false other))
    initially apart
  exact ⟨erased.2, erased.1.same⟩

/-! ## A sample run -/

/-- A call with another handle, which is not open to write the file. -/
theorem outOfTheWay_handle {h k : Int} {state : BufferedState}
    {call : BufferedCall} (argument : call.1.handle = some k)
    (different : k ≠ h)
    (apart : ∀ on ∈ (state.filesystem.entry h).stream.target,
      (state.filesystem.entry k).stream.target ≠ some (on.1, .output)) :
    OutOfTheWay h state call where
  mapped := fun own => absurd (Option.some.inj (argument.symm.trans own))
    different
  file := by
    intro _ operation performed on target
    rw [Filesystem.changes_iff ((operation_argument performed).trans argument),
      BufferedFilesystem.seen_entry, seen_target]
    exact apart on target

/-- An open of another file. -/
theorem outOfTheWay_open {h : Int} {state : BufferedState}
    {call : BufferedCall} {path : List Byte}
    (opening : ∀ state,
      call.1.operation state = call.1.openOperation state)
    (unhandled : call.1.handle = none) (asked : call.1.path = some path)
    (apart : ∀ on ∈ (state.filesystem.entry h).stream.target,
      hostName path ≠ on.1) :
    OutOfTheWay h state call where
  mapped := fun own => by cases unhandled.symm.trans own
  file := by
    intro _ operation performed on target changes
    rw [opening, FileCall.openOperation, asked] at performed
    split at performed
    · split at performed
      · contradiction
      · rename_i path mode same _ _
        cases same
        cases performed
        exact apart on target changes.2
    · contradiction

/-- Reading the file, and meanwhile writing another one. -/
def sampleMeanwhile : List BufferedCall :=
  [sampleBuffered .fread 0x300 1 1 1 1 0,
    sampleBuffered .fopen 0x130 0x110 0 0 0 0,
    sampleBuffered .fwrite 0x200 1 3 2 0 1,
    sampleBuffered .fread 0x300 1 1 1 0 0,
    sampleBuffered .fclose 2 0 0 0 0 0,
    sampleBuffered .fread 0x300 1 1 1 0 0]

/-- The file is open to be read. -/
def sampleState : BufferedState :=
  (svcBuffered (.initial Filesystem.sampleFiles)
    (sampleBuffered .fopen 0x100 0x120 0 0 0 0)).1

theorem handle_isolated_sample :
    (Machine.log svcBuffered sampleState sampleMeanwhile).filter
        (fun entry => ofHandle 1 entry.1) =
      Machine.log svcBuffered sampleState
        [sampleBuffered .fread 0x300 1 1 1 1 0,
          sampleBuffered .fread 0x300 1 1 1 0 0,
          sampleBuffered .fread 0x300 1 1 1 0 0] := by
  have reads : ∀ ahead state,
      OutOfTheWay 1 state (sampleBuffered .fread 0x300 1 1 1 ahead 0) :=
    fun ahead state => ⟨nofun, fun other => absurd rfl other⟩
  have apart : Machine.Admissible svcBuffered (OutOfTheWay 1) sampleState
      sampleMeanwhile := by
    simp only [sampleMeanwhile, Machine.Admissible, and_true]
    refine ⟨reads _ _, ?_, ?_, reads _ _, ?_, reads _ _⟩
    · refine @outOfTheWay_open 1 _ _ [0x62] (fun _ => rfl) rfl ?_ ?_
      · decide +kernel
      · decide +kernel
    · apply outOfTheWay_handle (k := 2) rfl (by decide)
      decide +kernel
    · apply outOfTheWay_handle (k := 2) rfl (by decide)
      decide +kernel
  exact (handle_isolated (by decide +kernel) apart).1

end Host
end GA330
