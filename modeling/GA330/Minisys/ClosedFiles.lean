import GA330.Minisys.Files

/-!
# Pointers to files that were closed

`fsys_fclose` does not free the cell behind a pointer, so the cell goes on
holding a handle that has no file any more.  An application that uses such a
pointer gets nothing and does no harm, and no open returns it a second time.
-/

namespace GA330
namespace Minisys

open ByteMemory FileStream Host

/-- The cell is still there, and holds a handle without a file. -/
structure DeadPointer {Heap : Type} (allocator : Allocator Heap)
    (pFd : Address) (state : Fsys FileState Heap) : Prop where
  mapped : state.memory.rangeMapped pFd 4 = true
  allocated : cellExtent pFd ∈ allocator.blocks state.heap
  closed : Filesystem.Closed (fdAt state.memory pFd) state.files.filesystem

/-- The application has left the cell and the heap alone, and reads into other
memory; for an open there is a cell left. -/
structure LeavesCell {Heap : Type} (allocator : Allocator Heap)
    (pFd : Address) (state : Fsys FileState Heap) (call : FsysCall Heap) :
    Prop where
  kept : AgreeOn (cellExtent pFd) state.memory.bytes call.memory.bytes
  mapped : call.memory.rangeMapped pFd 4 = true
  allocated : cellExtent pFd ∈ allocator.blocks call.heap
  intact : allocator.intact call.heap call.memory
  room : call.pointer = none → call.cell allocator ≠ 0
  destination : call.function = .fread →
    (⟨call.arg1, call.total⟩ : Extent).Disjoint (cellExtent pFd)

/-- A call that touches no host file, and delivers nothing. -/
structure Untouched {Heap : Type} (before : Fsys FileState Heap)
    (result : Fsys FileState Heap × Option FsysAnswer) : Prop where
  files : result.1.files.filesystem.files = before.files.filesystem.files
  streams : ∀ k stream, stream.target ≠ none →
    (result.1.files.filesystem.openFiles k = some stream ↔
      before.files.filesystem.openFiles k = some stream)
  nothing : ∀ answer, result.2 = some answer → answer.transferred = []

section Steps

variable {Heap : Type} {allocator : Allocator Heap}
variable {state : Fsys FileState Heap}
variable {call : FsysCall Heap} {pFd : Address}

/-- A supervisor call keeps a handle closed. -/
theorem closed_svcFile {files : FileState} {handle : Int}
    (closed : Filesystem.Closed handle files.filesystem) (call : FileCall) :
    Filesystem.Closed handle (svcFile files call).1.filesystem := by
  rw [(svcFile_performs files call).table]
  cases call.operation files with
  | none => exact closed
  | some operation => exact closed.step operation

/-- The memory that the host leaves when a file is opened. -/
theorem opening_memory (allocator : Allocator Heap)
    (opening : call.pointer = none) {arguments : List Word}
    {answer : FileAnswer}
    (answered : (svcFile state.files (call.svc arguments)).2 =
      some answer) : answer.memory = call.memory := by
  have performs := (svcFile_performs state.files
    (call.svc arguments)).answered
  rw [answered,
    (@opening_operation _ allocator state call opening arguments).1]
    at performs
  obtain ⟨operation, performed, same⟩ :=
    Option.map_eq_some_iff.mp performs.symm
  have argument := openOperation_argument performed
  cases operation with
  | «open» path mode granted =>
      rw [← same]
      rfl
  | close h => contradiction
  | read h size => contradiction
  | write h input => contradiction
  | seek h offset cMode => contradiction
  | tell h => contradiction

/-- What becomes of the guest when a file is opened: nothing, or a cell is
allocated and perhaps written, which the answer is the address of. -/
theorem openIntoCell_cases (allocator : Allocator Heap)
    (opening : call.pointer = none) :
    ∃ files memory heap answer,
      openIntoCell svcFile allocator state call =
          (⟨files, memory, heap⟩, answer) ∧
      files = (svcFile state.files (call.svc [call.arg1, call.arg2])).1 ∧
      ((memory = call.memory ∧ heap = call.heap ∧
          ∀ given, answer = some given → given = ⟨0, []⟩) ∨
        ∃ allocated cell,
          allocator.malloc call.heap call.memory 4 =
              (heap, allocated, cell) ∧
            memory.mapped = allocated.mapped ∧
            (∀ extent, (⟨cell, 4⟩ : Extent).Disjoint extent →
              AgreeOn extent allocated.bytes memory.bytes) ∧
            ∀ given, answer = some given → given = ⟨cell, []⟩) := by
  unfold openIntoCell
  cases made : svcFile state.files (call.svc [call.arg1, call.arg2]) with
  | mk files result =>
      cases result with
      | none => exact ⟨_, _, _, _, rfl, rfl, .inl ⟨rfl, rfl, nofun⟩⟩
      | some answer =>
          have sameMemory := opening_memory allocator opening
            (congrArg Prod.snd made)
          dsimp only
          rw [sameMemory]
          split
          · cases returned : allocator.malloc call.heap call.memory 4 with
            | mk heap rest =>
                obtain ⟨allocated, cell⟩ := rest
                simp only [returned]
                cases stored : allocated.ucMemWrite cell
                    (wordBytes answer.result) with
                | none =>
                    exact ⟨_, _, _, _, rfl, rfl, .inr ⟨allocated, cell, rfl,
                      rfl, fun extent _ => AgreeOn.refl _ _, nofun⟩⟩
                | some memory =>
                    unfold GuestMemory.ucMemWrite at stored
                    split at stored
                    · cases stored
                      refine ⟨_, _, _, _, rfl, rfl, .inr ⟨allocated, cell,
                        rfl, rfl, ?_, ?_⟩⟩
                      · intro extent apart
                        exact (agreeOn_write apart).symm
                      · rintro given ⟨⟩
                        rfl
                    · contradiction
          · refine ⟨_, _, _, _, rfl, rfl, .inl ⟨rfl, rfl, ?_⟩⟩
            rintro given ⟨⟩
            rfl

/-- The handle that is passed on is what the cell holds. -/
theorem handle_arguments {pointer : Address}
    (given : call.pointer = some pointer) (fd : Word) :
    (call.svc (call.arguments fd)).handle = some fd.toInt := by
  unfold FsysCall.pointer at given
  unfold FileCall.handle FsysCall.svc FsysCall.arguments
  cases kind : call.function with
  | fopen => simp [kind] at given
  | fopenW => simp [kind] at given
  | fread => rfl
  | fwrite => rfl
  | fseek => rfl
  | fclose => rfl
  | ftell => rfl

/-- Bytes are delivered when something is read, and no more than that asks
for. -/
theorem delivered_reading {fd : Word} {operation : Filesystem.Call}
    (performed : (call.svc (call.arguments fd)).operation state.files =
      some operation) {bytes : List Byte}
    (delivered : (Filesystem.step state.files.filesystem operation).2 =
      .delivered bytes) :
    call.function = .fread ∧ bytes.length ≤ call.total ∧
      (call.svc (call.arguments fd)).buffer = call.arg1 := by
  cases operation with
  | «open» path mode granted => cases delivered
  | close h => cases delivered
  | write h input => cases delivered
  | seek h offset cMode => cases delivered
  | tell h => cases delivered
  | read h size =>
      have handler : (call.svc (call.arguments fd)).handler =
          call.function := rfl
      unfold FileCall.operation at performed
      rw [handler] at performed
      cases kind : call.function with
      | fopen =>
          simp only [kind] at performed
          exact nomatch openOperation_argument performed
      | fopenW =>
          simp only [kind] at performed
          exact nomatch openOperation_argument performed
      | fread =>
          have arguments : call.arguments fd =
              [call.arg1, call.arg2, call.arg3, fd] := by
            simp only [FsysCall.arguments, kind]
          simp only [kind, Option.ite_none_left_eq_some] at performed
          cases performed.2
          cases delivered
          refine ⟨rfl, ?_, ?_⟩
          · rw [arguments]
            exact length_read_le _ _ _
          · rw [arguments]
            rfl
      | fwrite => simp [kind] at performed
      | fseek => simp [kind] at performed
      | fclose => simp [kind] at performed
      | ftell => simp [kind] at performed

/-- Memory and heap after a call that is given a pointer: what the application
left, but for the bytes that were read. -/
theorem fsys_through_memory (allocator : Allocator Heap)
    (state : Fsys FileState Heap) {pointer : Address}
    (given : call.pointer = some pointer) :
    (fsys svcFile allocator state call).1.heap = call.heap ∧
      (fsys svcFile allocator state call).1.memory.mapped =
        call.memory.mapped ∧
      ∀ extent, (call.function = .fread →
          (⟨call.arg1, call.total⟩ : Extent).Disjoint extent) →
        AgreeOn extent call.memory.bytes
          (fsys svcFile allocator state call).1.memory.bytes := by
  rw [fsys_through svcFile allocator state given]
  unfold throughHandle
  cases call.memory.ucMemRead pointer 4 with
  | none => exact ⟨rfl, rfl, fun extent _ => AgreeOn.refl _ _⟩
  | some cell =>
      dsimp only
      generalize loadWord call.memory.bytes pointer = fd
      have performs := (svcFile_performs state.files
        (call.svc (call.arguments fd))).answered
      cases made : svcFile state.files (call.svc (call.arguments fd)) with
      | mk files result =>
          rw [made] at performs
          cases result with
          | none => exact ⟨rfl, rfl, fun extent _ => AgreeOn.refl _ _⟩
          | some answer =>
              obtain ⟨operation, performed, rfl⟩ :=
                Option.map_eq_some_iff.mp performs.symm
              dsimp only
              rcases answer_memory (call.svc (call.arguments fd))
                  (Filesystem.step state.files.filesystem operation).2 with
                same | ⟨bytes, delivered, stored⟩
              · rw [same]
                exact ⟨rfl, rfl, fun extent _ => AgreeOn.refl _ _⟩
              · rw [stored]
                refine ⟨rfl, rfl, ?_⟩
                intro extent apart
                obtain ⟨reading, le, buffer⟩ :=
                  delivered_reading performed delivered
                rw [buffer]
                apply AgreeOn.symm
                apply agreeOn_write
                intro address present
                exact apart reading address
                  (Extent.inside_of_le le address present)

/-- A handle stays closed. -/
theorem closed_fsys {handle : Int}
    (closed : Filesystem.Closed handle state.files.filesystem)
    (allocator : Allocator Heap) (call : FsysCall Heap) :
    Filesystem.Closed handle
      (fsys svcFile allocator state call).1.files.filesystem := by
  cases given : call.pointer with
  | none =>
      obtain ⟨files, memory, heap, answer, result, rfl, _⟩ :=
        @openIntoCell_cases _ state call allocator given
      rw [fsys_opening svcFile allocator state given, result]
      exact closed_svcFile closed _
  | some pointer =>
      rw [fsys_through svcFile allocator state given]
      unfold throughHandle
      cases call.memory.ucMemRead pointer 4 with
      | none => exact closed
      | some cell =>
          have kept := closed_svcFile closed (call.svc
            (call.arguments (loadWord call.memory.bytes pointer)))
          dsimp only
          cases made : svcFile state.files (call.svc
              (call.arguments (loadWord call.memory.bytes pointer))) with
          | mk files result =>
              rw [made] at kept
              cases result with
              | none => exact kept
              | some answer => exact kept

/-- A dead pointer stays dead. -/
theorem DeadPointer.step (dead : DeadPointer allocator pFd state)
    (allocates : Allocates allocator)
    (leaves : LeavesCell allocator pFd state call) :
    DeadPointer allocator pFd (fsys svcFile allocator state call).1 := by
  have closed := closed_fsys dead.closed allocator call
  have mapped := leaves.mapped
  cases given : call.pointer with
  | none =>
      obtain ⟨files, memory, heap, answer, result, -, unchanged | opened⟩ :=
        @openIntoCell_cases _ state call allocator given
      · obtain ⟨rfl, rfl, -⟩ := unchanged
        rw [fsys_opening svcFile allocator state given, result] at closed ⊢
        refine ⟨mapped, leaves.allocated, ?_⟩
        rw [← fdAt_congr leaves.kept]
        exact closed
      · obtain ⟨allocated, cell, returned, sameMapped, elsewhere, -⟩ :=
          opened
        rw [fsys_opening svcFile allocator state given, result] at closed ⊢
        have present : cell ≠ 0 := by
          have room := leaves.room given
          rwa [FsysCall.cell, returned] at room
        obtain ⟨allocatedMapped, -, blocks, others⟩ :=
          allocates.block _ _ _ _ _ _ leaves.intact returned present
        obtain ⟨apart, agree⟩ := others _ leaves.allocated
        refine ⟨?_, ?_, ?_⟩
        · unfold GuestMemory.rangeMapped at mapped ⊢
          dsimp only
          rwa [sameMapped, allocatedMapped]
        · dsimp only
          rw [blocks]
          exact List.mem_cons_of_mem _ leaves.allocated
        · have same := fdAt_congr (leaves.kept.trans
            (agree.trans (elsewhere _ apart)))
          rw [← same]
          exact closed
  | some pointer =>
      obtain ⟨sameHeap, sameMapped, elsewhere⟩ :=
        fsys_through_memory allocator state given
      refine ⟨?_, ?_, ?_⟩
      · unfold GuestMemory.rangeMapped at mapped ⊢
        rwa [sameMapped]
      · rw [sameHeap]
        exact leaves.allocated
      · rw [← fdAt_congr (leaves.kept.trans
          (elsewhere _ leaves.destination))]
        exact closed

/-- When nothing is delivered, nothing is stored. -/
theorem answer_transferred (call : FileCall) {result : Filesystem.Answer}
    (nothing : ∀ bytes, result = .delivered bytes → bytes = []) :
    (call.answer result).transferred = [] := by
  cases result with
  | delivered bytes =>
      rw [nothing bytes rfl, FileCall.answer]
      cases call.memory.ucMemWrite call.buffer [] with
      | none => rfl
      | some memory => rfl
  | handle h => rfl
  | closed => rfl
  | written size => rfl
  | sought => rfl
  | position p => rfl

/-- A call that is given a dead pointer touches no host file. -/
theorem DeadPointer.untouched (dead : DeadPointer allocator pFd state)
    (leaves : LeavesCell allocator pFd state call)
    (given : call.pointer = some pFd) :
    Untouched state (fsys svcFile allocator state call) := by
  have held : (loadWord call.memory.bytes pFd).toInt =
      fdAt state.memory pFd :=
    (fdAt_congr leaves.kept).symm
  rw [fsys_through svcFile allocator state given]
  unfold throughHandle
  rw [GuestMemory.ucMemRead_of_mapped leaves.mapped]
  dsimp only
  obtain ⟨table, answered⟩ := svcFile_performs state.files (call.svc
    (call.arguments (loadWord call.memory.bytes pFd)))
  cases made : svcFile state.files (call.svc
      (call.arguments (loadWord call.memory.bytes pFd))) with
  | mk files result =>
      rw [made] at table answered
      cases result with
      | none =>
          rw [Option.map_eq_none_iff.mp answered.symm] at table
          rw [Option.elim_none] at table
          dsimp only at table ⊢
          refine ⟨?_, ?_, nofun⟩
          · rw [table]
          · intro k stream _
            rw [table]
      | some answer =>
          obtain ⟨operation, performed, rfl⟩ :=
            Option.map_eq_some_iff.mp answered.symm
          have argument := operation_argument performed
          rw [handle_arguments given, held] at argument
          have harmless := dead.closed.harmless argument
          rw [performed, Option.elim_some] at table
          dsimp only at table ⊢
          refine ⟨?_, ?_, ?_⟩
          · rw [table]
            exact harmless.files
          · rw [table]
            exact harmless.streams
          · rintro _ ⟨⟩
            exact answer_transferred _ harmless.nothing

/-- An open returns nothing, or a pointer to another cell. -/
theorem LeavesCell.fresh (leaves : LeavesCell allocator pFd state call)
    (allocates : Allocates allocator) (given : call.pointer = none)
    {answer : FsysAnswer}
    (answered : (fsys svcFile allocator state call).2 = some answer) :
    answer.result = 0 ∨
      (cellExtent answer.result).Disjoint (cellExtent pFd) := by
  obtain ⟨files, memory, heap, found, result, -, unchanged | opened⟩ :=
    @openIntoCell_cases _ state call allocator given
  · rw [fsys_opening svcFile allocator state given, result] at answered
    rw [unchanged.2.2 answer answered]
    exact .inl rfl
  · obtain ⟨allocated, cell, returned, -, -, address⟩ := opened
    rw [fsys_opening svcFile allocator state given, result] at answered
    rw [address answer answered]
    right
    have present : cell ≠ 0 := by
      have room := leaves.room given
      rwa [FsysCall.cell, returned] at room
    obtain ⟨-, -, -, others⟩ :=
      allocates.block _ _ _ _ _ _ leaves.intact returned present
    exact (others _ leaves.allocated).1

/-- Closing the file behind a pointer leaves the pointer dead. -/
theorem deadPointer_of_fclose (leaves : LeavesCell allocator pFd state call)
    (closing : call.function = .fclose) (pointer : call.arg1 = pFd)
    (returned : fdAt state.memory pFd <
      state.files.filesystem.nextHandle) :
    DeadPointer allocator pFd (fsys svcFile allocator state call).1 := by
  have given : call.pointer = some pFd := by
    simp only [FsysCall.pointer, closing, pointer]
  obtain ⟨sameHeap, sameMapped, elsewhere⟩ :=
    fsys_through_memory allocator state given
  have mapped := leaves.mapped
  have kept := leaves.kept.trans (elsewhere _ leaves.destination)
  have held := fdAt_congr leaves.kept
  refine ⟨?_, ?_, ?_⟩
  · unfold GuestMemory.rangeMapped at mapped ⊢
    rwa [sameMapped]
  · rw [sameHeap]
    exact leaves.allocated
  · rw [← fdAt_congr kept, held, fsys_through svcFile allocator state given]
    have operation : (call.svc (call.arguments
        (loadWord call.memory.bytes pFd))).operation state.files =
          some (.close (fdAt call.memory pFd)) := by
      simp only [FileCall.operation, FsysCall.svc, FsysCall.arguments,
        closing]
      rfl
    obtain ⟨fileBuffer, result⟩ := @throughHandle_performs _ state call pFd
      _ rfl mapped call.arguments _ operation
    rw [result]
    refine ⟨?_, ?_⟩
    · rw [← held]
      exact returned
    · simp only [Filesystem.step, Filesystem.closeFile, Filesystem.entry,
        Function.update_self]
      rfl

/-- Whatever an application does after it has closed a file, as long as it
leaves the cell alone: a call that is given the old pointer touches no host
file, and no open returns it again. -/
theorem closed_pointer_dead (allocates : Allocates allocator)
    {close : FsysCall Heap} (closing : close.function = .fclose)
    (pointer : close.arg1 = pFd)
    (returned : fdAt state.memory pFd < state.files.filesystem.nextHandle)
    {calls : List (FsysCall Heap)}
    (leaves : Machine.Admissible (fsys svcFile allocator)
      (LeavesCell allocator pFd) state (close :: calls))
    (leavesLast : LeavesCell allocator pFd
      (Machine.final (fsys svcFile allocator) state (close :: calls)) call) :
    (call.pointer = some pFd →
        Untouched
          (Machine.final (fsys svcFile allocator) state (close :: calls))
          (fsys svcFile allocator (Machine.final (fsys svcFile allocator)
            state (close :: calls)) call)) ∧
      (call.pointer = none → ∀ answer,
        (fsys svcFile allocator (Machine.final (fsys svcFile allocator) state
            (close :: calls)) call).2 = some answer →
          answer.result = 0 ∨
            (cellExtent answer.result).Disjoint (cellExtent pFd)) := by
  have first := deadPointer_of_fclose leaves.1 closing pointer returned
  have dead := @Machine.final_invariant_of_admissible _ _ _
    (fsys svcFile allocator) (DeadPointer allocator pFd) _
    (fun state call leaves dead => dead.step allocates leaves) _ first _
    leaves.2
  exact ⟨dead.untouched leavesLast, fun opening answer answered =>
    leavesLast.fresh allocates opening answered⟩

end Steps

/-! ## A sample run -/

/-- A host with one file, which the application has opened. -/
def sampleOpened : Fsys FileState BumpHeap :=
  (fsys svcFile bump
    ⟨.initial Filesystem.sampleFiles, sampleMemory, ⟨0x1000, []⟩⟩
    (sampleFsysCall 0 .fopen 0x100 0x120 0 0)).1

/-- Closing the file, opening it once more and reading two bytes of it. -/
def sampleClosing : List (FsysCall BumpHeap) :=
  [sampleFsysCall 1 .fclose 0x1000 0 0 0,
    sampleFsysCall 1 .fopen 0x100 0x120 0 0,
    sampleFsysCall 2 .fread 0x300 1 2 0x1004]

/-- A call that leaves the first cell alone. -/
theorem leavesCell_sample {state : Fsys FileState BumpHeap} {opened : Nat}
    {function : FileHandler} {arg1 arg2 arg3 arg4 : Word}
    (kept : ∀ index < 4,
      state.memory.bytes (0x1000 + BitVec.ofNat 32 index) =
        (sampleCells opened).1.bytes (0x1000 + BitVec.ofNat 32 index))
    (mapped : (sampleCells opened).1.rangeMapped 0x1000 4 = true)
    (allocated : cellExtent 0x1000 ∈ (sampleCells opened).2.used)
    (room : (sampleFsysCall opened function arg1 arg2 arg3
      arg4).cell bump ≠ 0)
    (destination : function ≠ .fread ∨
      (⟨arg1, (arg2 * arg3).toNat⟩ : Extent).Disjoint
        (cellExtent 0x1000)) :
    LeavesCell bump 0x1000 state
      (sampleFsysCall opened function arg1 arg2 arg3 arg4) where
  kept := agreeOn_cellExtent kept
  mapped := mapped
  allocated := allocated
  intact := sampleCells_intact opened
  room := fun _ => room
  destination := destination.neg_resolve_left

theorem sampleClosing_leaves :
    Machine.Admissible (fsys svcFile bump) (LeavesCell bump 0x1000)
      sampleOpened sampleClosing := by
  simp only [sampleClosing, Machine.Admissible, and_true]
  refine ⟨?_, ?_, ?_⟩
  case refine_1 =>
    exact leavesCell_sample (by decide +kernel) (by decide) (by decide)
      (by decide) (.inl (by decide))
  case refine_2 =>
    exact leavesCell_sample (by decide +kernel) (by decide) (by decide)
      (by decide) (.inl (by decide))
  case refine_3 =>
    exact leavesCell_sample (by decide +kernel) (by decide) (by decide)
      (by decide)
      (.inr (Extent.disjoint_of_end_le (by decide) (by decide)))

theorem closed_pointer_dead_sample :
    Untouched (Machine.final (fsys svcFile bump) sampleOpened sampleClosing)
      (fsys svcFile bump
        (Machine.final (fsys svcFile bump) sampleOpened sampleClosing)
        (sampleFsysCall 2 .fread 0x300 1 2 0x1000)) := by
  have returned : fdAt sampleOpened.memory 0x1000 <
      sampleOpened.files.filesystem.nextHandle := by
    decide +kernel
  have leavesLast : LeavesCell bump 0x1000
      (Machine.final (fsys svcFile bump) sampleOpened sampleClosing)
      (sampleFsysCall 2 .fread 0x300 1 2 0x1000) :=
    leavesCell_sample (by decide +kernel) (by decide) (by decide)
      (by decide)
      (.inr (Extent.disjoint_of_end_le (by decide) (by decide)))
  exact (@closed_pointer_dead _ bump sampleOpened _ 0x1000 bump_allocates
    (sampleFsysCall 1 .fclose 0x1000 0 0 0) rfl rfl returned
    [sampleFsysCall 1 .fopen 0x100 0x120 0 0,
      sampleFsysCall 2 .fread 0x300 1 2 0x1004]
    sampleClosing_leaves leavesLast).1 rfl

end Minisys
end GA330
