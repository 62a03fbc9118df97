import GA330.Host.Buffering
import GA330.Minisys.Files

/-!
# Files behind pointers, with the buffers of the host

The functions of `minisys.c` once more, on a host whose streams have buffers.
An application that keeps to the rules, and opens no file that is open already
unless both only read, cannot tell them from a library in which every pointer
has a stream of its own, which reads and stores at once.
-/

namespace GA330
namespace Minisys

open ByteMemory FileStream Host

/-! ## Two ways to serve a call -/

section Serving

variable {Files Whole Heap : Type}

/-- Calls that leave file states in a relation, and the guest alike. -/
structure Alike (related : Files → Whole → Prop)
    (result : Fsys Files Heap × Option FsysAnswer)
    (expected : Fsys Whole Heap × Option FsysAnswer) : Prop where
  files : related result.1.files expected.1.files
  memory : result.1.memory = expected.1.memory
  heap : result.1.heap = expected.1.heap
  answer : result.2 = expected.2

variable {related : Files → Whole → Prop}
variable {serve : Files → FileCall → Files × Option FileAnswer}
variable {serveWhole : Whole → FileCall → Whole × Option FileAnswer}
variable {state : Fsys Files Heap} {whole : Whole} {call : FsysCall Heap}

theorem openIntoCell_alike (allocator : Allocator Heap)
    (served : related
        (serve state.files (call.svc [call.arg1, call.arg2])).1
        (serveWhole whole (call.svc [call.arg1, call.arg2])).1 ∧
      (serveWhole whole (call.svc [call.arg1, call.arg2])).2 =
        (serve state.files (call.svc [call.arg1, call.arg2])).2) :
    Alike related (openIntoCell serve allocator state call)
      (openIntoCell serveWhole allocator
        ⟨whole, state.memory, state.heap⟩ call) := by
  obtain ⟨after, same⟩ := served
  unfold openIntoCell
  dsimp only
  generalize serve state.files (call.svc [call.arg1, call.arg2]) = result
    at after same ⊢
  generalize serveWhole whole (call.svc [call.arg1, call.arg2]) = expected
    at after same ⊢
  obtain ⟨files, answer⟩ := result
  obtain ⟨wholeFiles, wholeAnswer⟩ := expected
  obtain rfl : wholeAnswer = answer := same
  cases wholeAnswer with
  | none => exact ⟨after, rfl, rfl, rfl⟩
  | some answer =>
      dsimp only
      split
      · split <;> exact ⟨after, rfl, rfl, rfl⟩
      · exact ⟨after, rfl, rfl, rfl⟩

theorem throughHandle_alike (pFd : Address) (arguments : Word → List Word)
    (initially : related state.files whole)
    (served : ∀ fd, related
        (serve state.files (call.svc (arguments fd))).1
        (serveWhole whole (call.svc (arguments fd))).1 ∧
      (serveWhole whole (call.svc (arguments fd))).2 =
        (serve state.files (call.svc (arguments fd))).2) :
    Alike related (throughHandle serve pFd arguments state call)
      (throughHandle serveWhole pFd arguments
        ⟨whole, state.memory, state.heap⟩ call) := by
  unfold throughHandle
  cases call.memory.ucMemRead pFd 4 with
  | none => exact ⟨initially, rfl, rfl, rfl⟩
  | some bytes =>
      obtain ⟨after, same⟩ := served (loadWord call.memory.bytes pFd)
      dsimp only
      generalize serve state.files (call.svc
        (arguments (loadWord call.memory.bytes pFd))) = result
        at after same ⊢
      generalize serveWhole whole (call.svc
        (arguments (loadWord call.memory.bytes pFd))) = expected
        at after same ⊢
      obtain ⟨files, answer⟩ := result
      obtain ⟨wholeFiles, wholeAnswer⟩ := expected
      obtain rfl : wholeAnswer = answer := same
      cases wholeAnswer with
      | none => exact ⟨after, rfl, rfl, rfl⟩
      | some answer => exact ⟨after, rfl, rfl, rfl⟩

/-- When the supervisor call is answered the same, so is the application. -/
theorem fsys_alike (allocator : Allocator Heap)
    (initially : related state.files whole)
    (served : ∀ fd, related
        (serve state.files (call.svc (call.arguments fd))).1
        (serveWhole whole (call.svc (call.arguments fd))).1 ∧
      (serveWhole whole (call.svc (call.arguments fd))).2 =
        (serve state.files (call.svc (call.arguments fd))).2) :
    Alike related (fsys serve allocator state call)
      (fsys serveWhole allocator ⟨whole, state.memory, state.heap⟩
        call) := by
  cases given : call.pointer with
  | none =>
      rw [fsys_opening serve allocator state given,
        fsys_opening serveWhole allocator _ given]
      apply openIntoCell_alike
      rw [← arguments_opening given 0]
      exact served 0
  | some pointer =>
      rw [fsys_through serve allocator state given,
        fsys_through serveWhole allocator _ given]
      exact throughHandle_alike pointer call.arguments initially served

end Serving

/-! ## The functions over streams with buffers -/

section Runs

variable {Heap : Type}

/-- One call, and what is left to chance in it. -/
def fsysBuffered (allocator : Allocator Heap) (state : Fsys BufferedState Heap)
    (call : FsysCall Heap × BufferedStream.Chance Byte) :
    Fsys BufferedState Heap × Option FsysAnswer :=
  fsys (fun files svc => svcBuffered files (svc, call.2)) allocator state
    call.1

/-- The same call of the library, in which nothing is left to chance. -/
def stdioCall (allocator : Allocator Heap)
    (library : Stdio HostName Byte Address)
    (call : FsysCall Heap × BufferedStream.Chance Byte) :
    Stdio HostName Byte Address × Option FsysAnswer :=
  stdio allocator library call.1

/-- What is left in the guest, and the file state without the buffers. -/
def Fsys.seen (state : Fsys BufferedState Heap) : Fsys FileState Heap :=
  ⟨state.files.seen, state.memory, state.heap⟩

/-- A call of an application that keeps to the rules, and opens no file that is
open already unless both only read, on a host that stores what it is handed. -/
structure Orderly (allocator : Allocator Heap)
    (states : Fsys BufferedState Heap × Stdio HostName Byte Address)
    (call : FsysCall Heap × BufferedStream.Chance Byte) : Prop where
  proper : Proper allocator (states.1.seen, states.2) call.1
  undisturbed : ∀ fd, Undisturbed states.1.files
    (call.1.svc (call.1.arguments fd), call.2)

/-- The host without its buffers is related to the library. -/
structure RelatedBehind (allocator : Allocator Heap)
    (state : Fsys BufferedState Heap)
    (library : Stdio HostName Byte Address) (whole : FileState) : Prop where
  settled : state.files.Settled whole
  related : Related allocator ⟨whole, state.memory, state.heap⟩ library

variable {allocator : Allocator Heap} {state : Fsys BufferedState Heap}
variable {library : Stdio HostName Byte Address} {whole : FileState}
variable {call : FsysCall Heap × BufferedStream.Chance Byte}

/-- The rules do not look at the buffers. -/
theorem Orderly.proper_whole
    (orderly : Orderly allocator (state, library) call)
    (settled : state.files.Settled whole) :
    Proper allocator (⟨whole, state.memory, state.heap⟩, library)
      call.1 := by
  obtain ⟨⟨kept, mapped, allocated, intact, argument, destination, source,
    room, numbers⟩, -⟩ := orderly
  refine ⟨kept, mapped, allocated, intact, argument, destination, source,
    room, ?_⟩
  have same : whole.filesystem.nextHandle =
      state.seen.files.filesystem.nextHandle := settled.filesystem.nextHandle
  dsimp only at numbers ⊢
  rw [same]
  exact numbers

/-- The levels do the same in an orderly call. -/
theorem RelatedBehind.step
    (before : RelatedBehind allocator state library whole)
    (orderly : Orderly allocator (state, library) call)
    (allocates : Allocates allocator) :
    (∃ after, RelatedBehind allocator (fsysBuffered allocator state call).1
        (stdioCall allocator library call).1 after) ∧
      (fsysBuffered allocator state call).2 =
        (stdioCall allocator library call).2 := by
  have answered : ∀ fd,
      (svcBuffered state.files
          (call.1.svc (call.1.arguments fd), call.2)).1.Settled
        (svcFile whole (call.1.svc (call.1.arguments fd))).1 ∧
      (svcFile whole (call.1.svc (call.1.arguments fd))).2 =
        (svcBuffered state.files
          (call.1.svc (call.1.arguments fd), call.2)).2 :=
    fun fd => before.settled.answered (orderly.undisturbed fd)
  have alike := @fsys_alike _ _ _ BufferedState.Settled
    (fun files svc => svcBuffered files (svc, call.2)) svcFile state whole
    call.1 allocator before.settled answered
  have inStep := fsys_inStep before.related
    (orderly.proper_whole before.settled) allocates
  refine ⟨⟨_, alike.files, ?_⟩, alike.answer.trans inStep.answer⟩
  rw [fsysBuffered, alike.memory, alike.heap]
  exact inStep.related

/-- Nothing is open. -/
def noneOpen (files : HostFiles) : Stdio HostName Byte Address where
  files := files
  streams := fun _ => none

theorem related_noneOpen (allocator : Allocator Heap)
    (state : Fsys FileState Heap) (ready : state.files.filesystem.Ready) :
    Related allocator state (noneOpen state.files.filesystem.files) where
  files := rfl
  ready := ready
  cells := nofun
  distinct := nofun

/-- From a host whose next numbers are free, an application that keeps to the
rules and opens no file that is open already, unless both only read, gets what
a library with a stream for every pointer gives it; and the files of the host
that no stream is open to write are those of the library. -/
theorem fsys_refines_stdio (allocates : Allocates allocator)
    (settled : state.files.Settled whole) (ready : whole.filesystem.Ready)
    {calls : List (FsysCall Heap × BufferedStream.Chance Byte)}
    (orderly : Machine.Admissible
      (Machine.pair (fsysBuffered allocator) (stdioCall allocator))
      (Orderly allocator) (state, noneOpen whole.filesystem.files) calls) :
    Machine.outputs (fsysBuffered allocator) state calls =
        Machine.outputs (stdioCall allocator)
          (noneOpen whole.filesystem.files) calls ∧
      ∀ name,
        (∀ handle, ((Machine.final (fsysBuffered allocator) state
          calls).files.filesystem.entry handle).stream.target ≠
            some (name, .output)) →
          (Machine.final (fsysBuffered allocator) state
              calls).files.filesystem.files name =
            (Machine.final (stdioCall allocator)
              (noneOpen whole.filesystem.files) calls).files name := by
  have preserved : ∀ left right call, Orderly allocator (left, right) call →
      (∃ whole, RelatedBehind allocator left right whole) →
        (∃ whole, RelatedBehind allocator
            (fsysBuffered allocator left call).1
            (stdioCall allocator right call).1 whole) ∧
          (fsysBuffered allocator left call).2 =
            (stdioCall allocator right call).2 := by
    rintro left right call orderly ⟨_, before⟩
    exact before.step orderly allocates
  have initially : ∃ whole', RelatedBehind allocator state
      (noneOpen whole.filesystem.files) whole' :=
    ⟨whole, settled, related_noneOpen allocator _ ready⟩
  have atEnd := @Machine.final_invariant_of_admissible _ _ _
    (Machine.pair (fsysBuffered allocator) (stdioCall allocator))
    (fun states => ∃ whole, RelatedBehind allocator states.1 states.2 whole)
    _ (fun states call orderly before =>
      (preserved states.1 states.2 call orderly before).1) _ initially _
    orderly
  rw [Machine.final_pair] at atEnd
  obtain ⟨atLast, behind⟩ := atEnd
  refine ⟨Machine.outputs_eq_of_lockstep preserved initially orderly, ?_⟩
  intro name unwritten
  rw [← behind.related.files]
  exact (behind.settled.filesystem.unwritten name unwritten).symm

end Runs

/-! ## A sample run -/

/-- A host with one file, before anything is opened. -/
def sampleFsys : Fsys BufferedState BumpHeap where
  files := .initial Filesystem.sampleFiles
  memory := sampleMemory
  heap := ⟨0x1000, []⟩

/-- Two bytes are written to the file and held back until it is closed; then it
is opened once more, and they are read. -/
def sampleFsysCalls :
    List (FsysCall BumpHeap × BufferedStream.Chance Byte) :=
  [(sampleFsysCall 0 .fopen 0x100 0x110 0 0, ⟨0, 0, none⟩),
    (sampleFsysCall 1 .fwrite 0x202 1 2 0x1000, ⟨0, 0, none⟩),
    (sampleFsysCall 1 .fclose 0x1000 0 0 0, ⟨0, 0, none⟩),
    (sampleFsysCall 1 .fopen 0x100 0x120 0 0, ⟨0, 0, none⟩),
    (sampleFsysCall 2 .fread 0x300 1 2 0x1004, ⟨0, 0, none⟩)]

/-- A call of an application that has one file open at most. -/
theorem proper_of_sole {state : Fsys FileState BumpHeap}
    {library : Stdio HostName Byte Address} {opened : Nat}
    {function : FileHandler} {arg1 arg2 arg3 arg4 : Word} {cell : Address}
    (sole : ∀ pFd, pFd ≠ cell → library.streams pFd = none)
    (argument : ∀ pFd ∈ (sampleFsysCall opened function arg1 arg2 arg3
      arg4).pointer, (library.streams pFd).isSome = true)
    (kept : ∀ index < 4,
      state.memory.bytes (cell + BitVec.ofNat 32 index) =
        (sampleCells opened).1.bytes (cell + BitVec.ofNat 32 index))
    (mapped : (sampleCells opened).1.rangeMapped cell 4 = true)
    (allocated : cellExtent cell ∈ (sampleCells opened).2.used)
    (destination : function ≠ .fread ∨
      (⟨arg1, (arg2 * arg3).toNat⟩ : Extent).Disjoint (cellExtent cell))
    (source : function ≠ .fwrite ∨
      (sampleCells opened).1.rangeMapped arg1 (arg2 * arg3).toNat = true)
    (room : (sampleFsysCall opened function arg1 arg2 arg3
      arg4).cell bump ≠ 0)
    (numbers : state.files.filesystem.nextHandle < 2 ^ 31 - 1) :
    Proper bump (state, library)
      (sampleFsysCall opened function arg1 arg2 arg3 arg4) := by
  have only : ∀ pFd stream, library.streams pFd = some stream →
      pFd = cell := by
    intro pFd stream present
    by_contra other
    exact nomatch (sole pFd other).symm.trans present
  constructor
  case kept =>
    intro pFd stream present
    rw [only pFd stream present]
    exact agreeOn_cellExtent kept
  case mapped =>
    intro pFd stream present
    rw [only pFd stream present]
    exact mapped
  case allocated =>
    intro pFd stream present
    rw [only pFd stream present]
    exact allocated
  case intact => exact sampleCells_intact opened
  case argument => exact argument
  case destination =>
    intro reading pFd stream present
    rw [only pFd stream present]
    exact destination.neg_resolve_left reading
  case source => exact source.neg_resolve_left
  case room => exact fun _ => room
  case numbers => exact numbers

/-- A call of an application that has no file open. -/
theorem proper_of_closed {state : Fsys FileState BumpHeap}
    {library : Stdio HostName Byte Address} {opened : Nat}
    {arg1 arg2 arg3 arg4 : Word}
    (closed : ∀ pFd, library.streams pFd = none)
    (room : (sampleFsysCall opened .fopen arg1 arg2 arg3 arg4).cell bump ≠ 0)
    (numbers : state.files.filesystem.nextHandle < 2 ^ 31 - 1) :
    Proper bump (state, library)
      (sampleFsysCall opened .fopen arg1 arg2 arg3 arg4) where
  kept := fun pFd _ present => nomatch (closed pFd).symm.trans present
  mapped := fun pFd _ present => nomatch (closed pFd).symm.trans present
  allocated := fun pFd _ present => nomatch (closed pFd).symm.trans present
  intact := sampleCells_intact opened
  argument := nofun
  destination := nofun
  source := nofun
  room := fun _ => room
  numbers := numbers

/-- The sample application keeps to the rules. -/
theorem sampleFsysCalls_orderly :
    Machine.Admissible
      (Machine.pair (fsysBuffered bump) (stdioCall bump)) (Orderly bump)
      (sampleFsys, noneOpen Filesystem.sampleFiles) sampleFsysCalls := by
  simp only [sampleFsysCalls, Machine.Admissible, and_true]
  refine ⟨⟨?_, ?_⟩, ⟨?_, ?_⟩, ⟨?_, ?_⟩, ⟨?_, ?_⟩, ⟨?_, ?_⟩⟩
  case refine_1 =>
    exact proper_of_closed (fun _ => rfl) (by decide) (by decide)
  case refine_2 =>
    exact fun fd => undisturbed_of_closed rfl fun _ _ => rfl
  case refine_3 =>
    refine @proper_of_sole _ _ 1 .fwrite 0x202 1 2 0x1000 0x1000 ?_ ?_ ?_ ?_
      ?_ ?_ ?_ ?_ ?_
    · intro pFd other
      exact Function.update_of_ne other _ _
    · rintro pFd ⟨⟩
      rfl
    · decide +kernel
    · decide
    · decide
    · exact .inl (by decide)
    · exact .inr (by decide)
    · decide
    · decide +kernel
  case refine_4 =>
    exact fun fd => undisturbed_of_use rfl (Option.some_ne_none _)
  case refine_5 =>
    refine @proper_of_sole _ _ 1 .fclose 0x1000 0 0 0 0x1000 ?_ ?_ ?_ ?_
      ?_ ?_ ?_ ?_ ?_
    · intro pFd other
      exact (Function.update_of_ne other _ _).trans
        (Function.update_of_ne other _ _)
    · rintro pFd ⟨⟩
      rfl
    · decide +kernel
    · decide
    · decide
    · exact .inl (by decide)
    · exact .inl (by decide)
    · decide
    · decide +kernel
  case refine_6 =>
    exact fun fd => undisturbed_of_use rfl (Option.some_ne_none _)
  case refine_7 =>
    exact proper_of_closed (empty_again 0x1000 _ _) (by decide)
      (by decide +kernel)
  case refine_8 =>
    exact fun fd => undisturbed_of_closed rfl fun _ => empty_again 1 _ _
  case refine_9 =>
    refine @proper_of_sole _ _ 2 .fread 0x300 1 2 0x1004 0x1004 ?_ ?_ ?_ ?_
      ?_ ?_ ?_ ?_ ?_
    · intro pFd other
      exact (Function.update_of_ne other _ _).trans
        (empty_again 0x1000 _ _ pFd)
    · rintro pFd ⟨⟩
      rfl
    · decide +kernel
    · decide
    · decide
    · exact .inr (Extent.disjoint_of_end_le (by decide) (by decide))
    · exact .inl (by decide)
    · decide
    · decide +kernel
  case refine_10 =>
    exact fun fd => undisturbed_of_use rfl (Option.some_ne_none _)

theorem fsys_refines_stdio_sample :
    Machine.outputs (fsysBuffered bump) sampleFsys sampleFsysCalls =
      [some ⟨0x1000, []⟩, some ⟨2, []⟩, some ⟨0, []⟩, some ⟨0x1004, []⟩,
        some ⟨2, [3, 4]⟩] := by
  have same := @fsys_refines_stdio _ bump sampleFsys
    (.initial Filesystem.sampleFiles) bump_allocates (settled_initial _)
    (Filesystem.initial_ready _) _ sampleFsysCalls_orderly
  have expected : Machine.outputs (stdioCall bump)
      (noneOpen Filesystem.sampleFiles) sampleFsysCalls =
        [some ⟨0x1000, []⟩, some ⟨2, []⟩, some ⟨0, []⟩, some ⟨0x1004, []⟩,
          some ⟨2, [3, 4]⟩] := by
    decide +kernel
  exact same.1.trans expected

end Minisys
end GA330
