import GA330.Host.Operation
import GA330.Library.Placement
import GA330.Library.Stdio

/-!
# `fsys_fopen` and its relatives

The application never sees a handle of the host.  `fsys_fopen` of `minisys.c`
stores it in a cell that it allocates and returns the address of the cell, and
the other functions load the handle from there.  Between the calls the
application runs, so each call comes with memory and heap as the application
left them.  What serves the supervisor call is a parameter; over streams
without buffers it is `svcFile`.  The messages of `ccos_trace_stub` are left
out.

As long as the application leaves the cells alone and passes only pointers that
it got and has not closed, a call over streams without buffers does what one of
a library does in which every pointer has a stream of its own.
-/

namespace GA330
namespace Minisys

open ByteMemory FileStream Host

/-! ## The code -/

/-- The allocator of the C library: what it does to its state and to memory,
and the block that it returns; and the blocks that are in use. -/
structure Allocator (Heap : Type) where
  malloc : Heap → GuestMemory → Word → Heap × GuestMemory × Address
  blocks : Heap → List Extent
  intact : Heap → GuestMemory → Prop

/-- A call of one of the functions, which are named after the handlers.  The
registers from the fifth argument on hold whatever they hold. -/
structure FsysCall (Heap : Type) where
  function : FileHandler
  arg1 : Word
  arg2 : Word
  arg3 : Word
  arg4 : Word
  registers : Registers
  memory : GuestMemory
  heap : Heap
  granted : Bool
  garbage : Nat → Byte
  garbageW : Nat → BitVec 16
  fresh : Nat → Byte

/-- What the application gets: what the function returns, and the bytes that
were stored in the buffer of a transfer. -/
structure FsysAnswer where
  result : Word
  transferred : List Byte
  deriving DecidableEq

/-- What the application gets of an answer of the host. -/
def received (answer : FileAnswer) : FsysAnswer where
  result := answer.result
  transferred := answer.transferred

/-- The file state of the host, and what a call leaves in the guest. -/
structure Fsys (Files Heap : Type) where
  files : Files
  memory : GuestMemory
  heap : Heap

section Code

variable {Files Heap : Type}
variable (serve : Files → FileCall → Files × Option FileAnswer)

/-- The supervisor call with these arguments. -/
def FsysCall.svc (call : FsysCall Heap) (arguments : List Word) :
    FileCall where
  handler := call.function
  registers := fun index =>
    (arguments[index.val]?).getD (call.registers index)
  memory := call.memory
  granted := call.granted
  garbage := call.garbage
  garbageW := call.garbageW
  fresh := call.fresh

/-- The functions that open a file, and differ in the supervisor call only.
There is no answer when that gives none, or when the cell cannot be stored
to. -/
def openIntoCell (allocator : Allocator Heap) (state : Fsys Files Heap)
    (call : FsysCall Heap) : Fsys Files Heap × Option FsysAnswer :=
  match serve state.files (call.svc [call.arg1, call.arg2]) with
  | (files, none) => (⟨files, call.memory, call.heap⟩, none)
  | (files, some answer) =>
      let fd := answer.result
      if 0 ≤ fd.toInt then
        let (heap, memory, pFd) := allocator.malloc call.heap answer.memory 4
        match memory.ucMemWrite pFd (wordBytes fd) with
        | none => (⟨files, memory, heap⟩, none)
        | some stored => (⟨files, stored, heap⟩, some ⟨pFd, []⟩)
      else (⟨files, answer.memory, call.heap⟩, some ⟨0, []⟩)

/-- `fsys_fopen` -/
def fsysFopen (allocator : Allocator Heap) (state : Fsys Files Heap)
    (call : FsysCall Heap) : Fsys Files Heap × Option FsysAnswer :=
  openIntoCell serve allocator state call

/-- `fsys_fopenW` -/
def fsysFopenW (allocator : Allocator Heap) (state : Fsys Files Heap)
    (call : FsysCall Heap) : Fsys Files Heap × Option FsysAnswer :=
  openIntoCell serve allocator state call

/-- The functions that pass `*p_fd` on. -/
def throughHandle (pFd : Address) (arguments : Word → List Word)
    (state : Fsys Files Heap) (call : FsysCall Heap) :
    Fsys Files Heap × Option FsysAnswer :=
  match call.memory.ucMemRead pFd 4 with
  | none => (⟨state.files, call.memory, call.heap⟩, none)
  | some _ =>
      let fd := loadWord call.memory.bytes pFd
      match serve state.files (call.svc (arguments fd)) with
      | (files, none) => (⟨files, call.memory, call.heap⟩, none)
      | (files, some answer) =>
          (⟨files, answer.memory, call.heap⟩, some (received answer))

/-- `fsys_fread` -/
def fsysFread (state : Fsys Files Heap) (call : FsysCall Heap) :
    Fsys Files Heap × Option FsysAnswer :=
  throughHandle serve call.arg4
    (fun fd => [call.arg1, call.arg2, call.arg3, fd]) state call

/-- `fsys_fwrite` -/
def fsysFwrite (state : Fsys Files Heap) (call : FsysCall Heap) :
    Fsys Files Heap × Option FsysAnswer :=
  throughHandle serve call.arg4
    (fun fd => [call.arg1, call.arg2, call.arg3, fd]) state call

/-- `fsys_fseek` -/
def fsysFseek (state : Fsys Files Heap) (call : FsysCall Heap) :
    Fsys Files Heap × Option FsysAnswer :=
  throughHandle serve call.arg1 (fun fd => [fd, call.arg2, call.arg3])
    state call

/-- `fsys_ftell` -/
def fsysFtell (state : Fsys Files Heap) (call : FsysCall Heap) :
    Fsys Files Heap × Option FsysAnswer :=
  throughHandle serve call.arg1 (fun fd => [fd]) state call

/-- `fsys_fclose`, which leaves the cell allocated. -/
def fsysFclose (state : Fsys Files Heap) (call : FsysCall Heap) :
    Fsys Files Heap × Option FsysAnswer :=
  throughHandle serve call.arg1 (fun fd => [fd]) state call

/-- One call. -/
def fsys (allocator : Allocator Heap) (state : Fsys Files Heap)
    (call : FsysCall Heap) : Fsys Files Heap × Option FsysAnswer :=
  match call.function with
  | .fopen => fsysFopen serve allocator state call
  | .fopenW => fsysFopenW serve allocator state call
  | .fread => fsysFread serve state call
  | .fseek => fsysFseek serve state call
  | .fclose => fsysFclose serve state call
  | .ftell => fsysFtell serve state call
  | .fwrite => fsysFwrite serve state call

/-! ### The call that is made -/

/-- The arguments of the supervisor call, with what the cell holds. -/
def FsysCall.arguments (call : FsysCall Heap) (fd : Word) : List Word :=
  match call.function with
  | .fopen => [call.arg1, call.arg2]
  | .fopenW => [call.arg1, call.arg2]
  | .fread => [call.arg1, call.arg2, call.arg3, fd]
  | .fwrite => [call.arg1, call.arg2, call.arg3, fd]
  | .fseek => [fd, call.arg2, call.arg3]
  | .fclose => [fd]
  | .ftell => [fd]

/-- The pointer that a call is given. -/
def FsysCall.pointer (call : FsysCall Heap) : Option Address :=
  match call.function with
  | .fopen => none
  | .fopenW => none
  | .fread => some call.arg4
  | .fwrite => some call.arg4
  | .fseek => some call.arg1
  | .fclose => some call.arg1
  | .ftell => some call.arg1

theorem arguments_opening {call : FsysCall Heap}
    (opening : call.pointer = none) (fd : Word) :
    call.arguments fd = [call.arg1, call.arg2] := by
  unfold FsysCall.pointer at opening
  unfold FsysCall.arguments
  cases kind : call.function with
  | fopen => rfl
  | fopenW => rfl
  | fread => simp [kind] at opening
  | fwrite => simp [kind] at opening
  | fseek => simp [kind] at opening
  | fclose => simp [kind] at opening
  | ftell => simp [kind] at opening

/-- A call that is given no pointer opens a file. -/
theorem fsys_opening (allocator : Allocator Heap) (state : Fsys Files Heap)
    {call : FsysCall Heap} (opening : call.pointer = none) :
    fsys serve allocator state call =
      openIntoCell serve allocator state call := by
  unfold FsysCall.pointer at opening
  unfold fsys
  cases kind : call.function with
  | fopen => rfl
  | fopenW => rfl
  | fread => simp [kind] at opening
  | fwrite => simp [kind] at opening
  | fseek => simp [kind] at opening
  | fclose => simp [kind] at opening
  | ftell => simp [kind] at opening

/-- A call that is given a pointer passes on what its cell holds. -/
theorem fsys_through (allocator : Allocator Heap) (state : Fsys Files Heap)
    {call : FsysCall Heap} {pointer : Address}
    (given : call.pointer = some pointer) :
    fsys serve allocator state call =
      throughHandle serve pointer call.arguments state call := by
  have passed : call.arguments = fun fd => call.arguments fd := rfl
  rw [passed]
  unfold fsys FsysCall.arguments
  unfold FsysCall.pointer at given
  cases kind : call.function with
  | fopen => simp [kind] at given
  | fopenW => simp [kind] at given
  | fread => simp_all only [Option.some.injEq, fsysFread]
  | fwrite => simp_all only [Option.some.injEq, fsysFwrite]
  | fseek => simp_all only [Option.some.injEq, fsysFseek]
  | fclose => simp_all only [Option.some.injEq, fsysFclose]
  | ftell => simp_all only [Option.some.injEq, fsysFtell]

/-! ## What it is for -/

/-- The number of bytes that a transfer asks for. -/
def FsysCall.total (call : FsysCall Heap) : Nat :=
  (call.arg2 * call.arg3).toNat

/-- The cell that an open would get. -/
def FsysCall.cell (allocator : Allocator Heap) (call : FsysCall Heap) :
    Address :=
  (allocator.malloc call.heap call.memory 4).2.2

/-- What an open asks of the library, unless one of its strings cannot be
read. -/
def FsysCall.openRequest (allocator : Allocator Heap)
    (call : FsysCall Heap) :
    Option (Stdio.Request HostName Byte Address) :=
  match (call.svc [call.arg1, call.arg2]).path,
      (call.svc [call.arg1, call.arg2]).mode with
  | some path, some mode =>
      some (.open (hostName path) (fileMode mode) call.granted
        (call.cell allocator))
  | _, _ => none

/-- What a call asks of the library; a transfer of items without a size is not
survived. -/
def FsysCall.request (allocator : Allocator Heap) (call : FsysCall Heap) :
    Option (Stdio.Request HostName Byte Address) :=
  match call.function with
  | .fopen => call.openRequest allocator
  | .fopenW => call.openRequest allocator
  | .fread =>
      if call.arg2.toNat = 0 then none
      else some (.read call.arg4 call.total)
  | .fwrite =>
      if call.arg2.toNat = 0 then none
      else some (.write call.arg4
        (read call.memory.bytes call.arg1 call.total))
  | .fseek =>
      some (.seek call.arg1 call.arg2.toInt
        (Filesystem.direction call.arg3.toInt))
  | .fclose => some (.close call.arg1)
  | .ftell => some (.tell call.arg1)

/-- What the application should get for a reply. -/
def FsysCall.observe (call : FsysCall Heap) :
    Stdio.Reply Byte Address → FsysAnswer
  | .opened pointer => ⟨pointer.getD 0, []⟩
  | .delivered bytes =>
      ⟨BitVec.ofNat 32 (bytes.length / call.arg2.toNat),
        if call.memory.rangeMapped call.arg1 bytes.length then bytes
        else []⟩
  | .written size => ⟨BitVec.ofNat 32 (size / call.arg2.toNat), []⟩
  | .sought => ⟨0, []⟩
  | .position position => ⟨BitVec.ofInt 32 position, []⟩
  | .closed => ⟨0, []⟩

/-- One call of the library. -/
def stdio (allocator : Allocator Heap) (state : Stdio HostName Byte Address)
    (call : FsysCall Heap) :
    Stdio HostName Byte Address × Option FsysAnswer :=
  match call.request allocator with
  | none => (state, none)
  | some request =>
      let (after, reply) := state.step request
      (after, some (call.observe reply))

end Code

/-! ## What is relied on -/

/-- What is documented of `malloc`: unless it returns the null pointer, the
block is mapped and apart from the blocks in use, and those are left alone. -/
structure Allocates {Heap : Type} (allocator : Allocator Heap) : Prop where
  block : ∀ heap memory size heapAfter memoryAfter pointer,
    allocator.intact heap memory →
      allocator.malloc heap memory size =
          (heapAfter, memoryAfter, pointer) →
        pointer ≠ 0 →
          memoryAfter.mapped = memory.mapped ∧
            memoryAfter.rangeMapped pointer size.toNat = true ∧
            allocator.blocks heapAfter =
              ⟨pointer, size.toNat⟩ :: allocator.blocks heap ∧
            ∀ block ∈ allocator.blocks heap,
              (⟨pointer, size.toNat⟩ : Extent).Disjoint block ∧
                AgreeOn block memory.bytes memoryAfter.bytes

/-- The memory of a cell. -/
def cellExtent (pFd : Address) : Extent := ⟨pFd, 4⟩

/-- A call of an application that keeps to the rules: it has left the cells of
its open files and the heap alone, it passes pointers to open files, it reads
into memory other than the cells and writes memory that is mapped; and there is
a cell and a handle left for an open. -/
structure Proper {Heap : Type} (allocator : Allocator Heap)
    (states : Fsys FileState Heap × Stdio HostName Byte Address)
    (call : FsysCall Heap) : Prop where
  kept : ∀ pFd stream, states.2.streams pFd = some stream →
    AgreeOn (cellExtent pFd) states.1.memory.bytes call.memory.bytes
  mapped : ∀ pFd stream, states.2.streams pFd = some stream →
    call.memory.rangeMapped pFd 4 = true
  allocated : ∀ pFd stream, states.2.streams pFd = some stream →
    cellExtent pFd ∈ allocator.blocks call.heap
  intact : allocator.intact call.heap call.memory
  argument : ∀ pFd ∈ call.pointer, (states.2.streams pFd).isSome = true
  destination : call.function = .fread →
    ∀ pFd stream, states.2.streams pFd = some stream →
      (⟨call.arg1, call.total⟩ : Extent).Disjoint (cellExtent pFd)
  source : call.function = .fwrite →
    call.memory.rangeMapped call.arg1 call.total = true
  room : call.pointer = none → call.cell allocator ≠ 0
  numbers : states.1.files.filesystem.nextHandle < 2 ^ 31 - 1

/-! ## What a cell holds -/

/-- The handle that a cell holds. -/
def fdAt (memory : GuestMemory) (pFd : Address) : Int :=
  (loadWord memory.bytes pFd).toInt

/-- The cell of an open file holds the handle of its stream. -/
structure Cell {Heap : Type} (allocator : Allocator Heap)
    (state : Fsys FileState Heap) (pFd : Address) (stream : Stream HostName) :
    Prop where
  mapped : state.memory.rangeMapped pFd 4 = true
  allocated : cellExtent pFd ∈ allocator.blocks state.heap
  returned : fdAt state.memory pFd < state.files.filesystem.nextHandle
  stream : state.files.filesystem.openFiles (fdAt state.memory pFd) =
    some stream

/-- The two levels have the same files, every pointer has a cell, and no two of
them hold the same handle. -/
structure Related {Heap : Type} (allocator : Allocator Heap)
    (state : Fsys FileState Heap) (library : Stdio HostName Byte Address) :
    Prop where
  files : state.files.filesystem.files = library.files
  ready : state.files.filesystem.Ready
  cells : ∀ pFd stream, library.streams pFd = some stream →
    Cell allocator state pFd stream
  distinct : ∀ left right, (library.streams left).isSome = true →
    (library.streams right).isSome = true →
      fdAt state.memory left = fdAt state.memory right → left = right

section Steps

variable {Heap : Type} {allocator : Allocator Heap}
variable {state : Fsys FileState Heap}
variable {library : Stdio HostName Byte Address} {call : FsysCall Heap}

theorem read_write_word (memory : Memory) (p : Address) (word : Word) :
    read (ByteMemory.write memory p (wordBytes word)) p 4 =
      wordBytes word :=
  read_write_self (by rw [length_wordBytes]; decide)

theorem fdAt_congr {left right : GuestMemory} {pFd : Address}
    (agree : AgreeOn (cellExtent pFd) left.bytes right.bytes) :
    fdAt left pFd = fdAt right pFd := by
  rw [fdAt, fdAt, loadWord_congr agree]

/-- What leaves the cells alone. -/
theorem Related.elsewhere (related : Related allocator state library)
    {memory : GuestMemory} {heap : Heap}
    (kept : ∀ pFd stream, library.streams pFd = some stream →
      AgreeOn (cellExtent pFd) state.memory.bytes memory.bytes)
    (mapped : ∀ pFd stream, library.streams pFd = some stream →
      memory.rangeMapped pFd 4 = true)
    (allocated : ∀ pFd stream, library.streams pFd = some stream →
      cellExtent pFd ∈ allocator.blocks heap) :
    Related allocator ⟨state.files, memory, heap⟩ library where
  files := related.files
  ready := related.ready
  cells := by
    intro pFd stream opened
    have cell := related.cells pFd stream opened
    have same := fdAt_congr (kept pFd stream opened)
    refine ⟨mapped pFd stream opened, allocated pFd stream opened, ?_, ?_⟩
    · rw [← same]
      exact cell.returned
    · rw [← same]
      exact cell.stream
  distinct := by
    intro left right leftOpened rightOpened sameFd
    obtain ⟨leftStream, leftOpen⟩ := Option.isSome_iff_exists.mp leftOpened
    obtain ⟨rightStream, rightOpen⟩ :=
      Option.isSome_iff_exists.mp rightOpened
    apply related.distinct left right leftOpened rightOpened
    rw [fdAt_congr (kept left leftStream leftOpen),
      fdAt_congr (kept right rightStream rightOpen)]
    exact sameFd

/-- A call of a proper application finds the levels related. -/
theorem Related.resumed (related : Related allocator state library)
    (proper : Proper allocator (state, library) call) :
    Related allocator ⟨state.files, call.memory, call.heap⟩ library :=
  related.elsewhere proper.kept proper.mapped proper.allocated

/-- Changing or removing the stream of one pointer on both levels. -/
theorem Related.update (related : Related allocator state library)
    {pFd : Address} (opened : (library.streams pFd).isSome = true)
    (files : HostFiles) (moved : Option (Stream HostName))
    (fileBuffer : FileBuffer) :
    Related allocator
      ⟨⟨{ state.files.filesystem with
          files := files
          openFiles := Function.update state.files.filesystem.openFiles
            (fdAt state.memory pFd) moved }, fileBuffer⟩, state.memory,
        state.heap⟩
      ⟨files, Function.update library.streams pFd moved⟩ := by
  obtain ⟨before, present⟩ := Option.isSome_iff_exists.mp opened
  have own := related.cells pFd before present
  have still : ∀ other,
      (Function.update library.streams pFd moved other).isSome = true →
        (library.streams other).isSome = true := by
    intro other remains
    rw [Function.update_apply] at remains
    split at remains
    · rename_i same
      rw [same]
      exact opened
    · exact remains
  refine ⟨rfl, related.ready.update own.returned files moved, ?_, ?_⟩
  · intro other stream remains
    dsimp only at remains
    by_cases same : other = pFd
    · subst same
      rw [Function.update_self] at remains
      refine ⟨own.mapped, own.allocated, own.returned, ?_⟩
      exact (Function.update_self _ _ _).trans remains
    · rw [Function.update_of_ne same] at remains
      have cell := related.cells other stream remains
      refine ⟨cell.mapped, cell.allocated, cell.returned, ?_⟩
      refine (Function.update_of_ne ?_ _ _).trans cell.stream
      intro sameFd
      apply same
      apply related.distinct other pFd _ opened sameFd
      rw [remains]
      rfl
  · intro left right leftOpened rightOpened
    exact related.distinct left right (still left leftOpened)
      (still right rightOpened)

/-- A cell that holds the next number, for a stream under that number. -/
theorem Related.added (related : Related allocator state library)
    {pFd : Address} (mapped : state.memory.rangeMapped pFd 4 = true)
    (allocated : cellExtent pFd ∈ allocator.blocks state.heap)
    (holds : fdAt state.memory pFd = state.files.filesystem.nextHandle)
    (files : HostFiles) (stream : Stream HostName)
    (fileBuffer : FileBuffer) :
    Related allocator
      ⟨⟨{ ({ state.files.filesystem with files := files }.emplace
            state.files.filesystem.nextHandle stream) with
          nextHandle := state.files.filesystem.nextHandle + 1 },
          fileBuffer⟩, state.memory, state.heap⟩
      ⟨files, Function.update library.streams pFd (some stream)⟩ := by
  have absent := related.ready.free _ (Int.le_refl _)
  have positive := related.ready.positive
  have stored : ({ state.files.filesystem with files := files }.emplace
      state.files.filesystem.nextHandle stream) =
        { state.files.filesystem with files := files }.setEntry
          state.files.filesystem.nextHandle stream := by
    simp only [Filesystem.emplace, absent]
  rw [stored]
  have earlier : ∀ other stream, library.streams other = some stream →
      fdAt state.memory other ≠ state.files.filesystem.nextHandle := by
    intro other stream opened
    exact Int.ne_of_lt (related.cells other stream opened).returned
  refine ⟨rfl, ⟨?_, ?_⟩, ?_, ?_⟩
  · change 0 < state.files.filesystem.nextHandle + 1
    omega
  · intro number ahead
    change state.files.filesystem.nextHandle + 1 ≤ number at ahead
    refine (Function.update_of_ne (by omega) _ _).trans ?_
    exact related.ready.free number (by omega)
  · intro other moved opened
    dsimp only at opened
    by_cases same : other = pFd
    · subst same
      rw [Function.update_self] at opened
      refine ⟨mapped, allocated, ?_, ?_⟩
      · change fdAt state.memory other <
          state.files.filesystem.nextHandle + 1
        omega
      · dsimp only
        rw [holds]
        exact (Function.update_self _ _ _).trans opened
    · rw [Function.update_of_ne same] at opened
      have cell := related.cells other moved opened
      refine ⟨cell.mapped, cell.allocated, ?_, ?_⟩
      · exact Int.lt_add_one_of_le (Int.le_of_lt cell.returned)
      · exact (Function.update_of_ne (earlier other moved opened) _
          _).trans cell.stream
  · intro left right leftOpened rightOpened sameFd
    dsimp only at leftOpened rightOpened sameFd
    rw [Function.update_apply] at leftOpened rightOpened
    split at leftOpened <;> split at rightOpened
    · rename_i first second
      rw [first, second]
    · rename_i first _
      obtain ⟨stream, opened⟩ := Option.isSome_iff_exists.mp rightOpened
      rw [first, holds] at sameFd
      exact absurd sameFd.symm (earlier right stream opened)
    · rename_i _ second
      obtain ⟨stream, opened⟩ := Option.isSome_iff_exists.mp leftOpened
      rw [second, holds] at sameFd
      exact absurd sameFd (earlier left stream opened)
    · exact related.distinct left right leftOpened rightOpened sameFd

/-- Allocating a cell and storing a word in it leaves the cells of the open
files alone. -/
theorem Related.allocated (related : Related allocator state library)
    (allocates : Allocates allocator)
    (intact : allocator.intact state.heap state.memory)
    {heap : Heap} {memory : GuestMemory} {pFd : Address}
    (returned : allocator.malloc state.heap state.memory 4 =
      (heap, memory, pFd)) (present : pFd ≠ 0) (word : Word) :
    Related allocator
        ⟨state.files, { memory with
          bytes := write memory.bytes pFd (wordBytes word) }, heap⟩
        library ∧
      memory.rangeMapped pFd 4 = true ∧
      cellExtent pFd ∈ allocator.blocks heap := by
  obtain ⟨sameMapped, mapped, blocks, others⟩ :=
    allocates.block _ _ _ _ _ _ intact returned present
  refine ⟨related.elsewhere ?_ ?_ ?_, mapped, ?_⟩
  · intro other stream opened
    obtain ⟨apart, agree⟩ :=
      others _ (related.cells other stream opened).allocated
    apply agree.trans
    exact (agreeOn_write apart).symm
  · intro other stream opened
    have before := (related.cells other stream opened).mapped
    unfold GuestMemory.rangeMapped at before ⊢
    dsimp only
    rwa [sameMapped]
  · intro other stream opened
    rw [blocks]
    exact List.mem_cons_of_mem _
      (related.cells other stream opened).allocated
  · rw [blocks]
    exact List.mem_cons_self

/-- The relation does not look at the buffer. -/
theorem Related.refile (related : Related allocator state library)
    {files : FileState}
    (same : files.filesystem = state.files.filesystem) :
    Related allocator ⟨files, state.memory, state.heap⟩ library := by
  obtain ⟨filesystem, fileBuffer⟩ := files
  obtain rfl : filesystem = state.files.filesystem := same
  exact ⟨related.files, related.ready, fun pFd stream opened =>
    let cell := related.cells pFd stream opened
    ⟨cell.mapped, cell.allocated, cell.returned, cell.stream⟩,
    related.distinct⟩

/-- The levels do the same in a call, and are related afterwards. -/
structure InStep (allocator : Allocator Heap)
    (result : Fsys FileState Heap × Option FsysAnswer)
    (expected : Stdio HostName Byte Address × Option FsysAnswer) :
    Prop where
  related : Related allocator result.1 expected.1
  answer : result.2 = expected.2

/-- The number that an open returns survives being a word. -/
theorem toInt_ofInt_number {number : Int} (positive : 0 < number)
    (small : number < 2 ^ 31) : (BitVec.ofInt 32 number).toInt = number := by
  rw [BitVec.toInt_ofInt]
  exact Int.bmod_eq_of_le_mul_two (by omega) (by omega)

/-- A supervisor call that opens a file performs an open. -/
theorem opening_operation (opening : call.pointer = none)
    (arguments : List Word) :
    (call.svc arguments).operation state.files =
        (call.svc arguments).openOperation state.files ∧
      call.request allocator = call.openRequest allocator := by
  unfold FileCall.operation FsysCall.request
  unfold FsysCall.pointer at opening
  have handler : (call.svc arguments).handler = call.function := rfl
  rw [handler]
  cases kind : call.function with
  | fopen => exact ⟨rfl, rfl⟩
  | fopenW => exact ⟨rfl, rfl⟩
  | fread => simp [kind] at opening
  | fwrite => simp [kind] at opening
  | fseek => simp [kind] at opening
  | fclose => simp [kind] at opening
  | ftell => simp [kind] at opening

/-- An open that the host refuses. -/
theorem openIntoCell_refused {files : FileState}
    (made : svcFile state.files (call.svc [call.arg1, call.arg2]) =
      (files, some ((call.svc [call.arg1, call.arg2]).answer
        (.handle (-1))))) :
    openIntoCell svcFile allocator state call =
      (⟨files, call.memory, call.heap⟩, some ⟨0, []⟩) := by
  have refused : ¬ 0 ≤ (((call.svc [call.arg1, call.arg2]).answer
      (.handle (-1))).result).toInt := by
    rw [FileCall.answer, FileAnswer.result, FileCall.returning_result]
    decide
  simp only [openIntoCell, made, if_neg refused]
  rfl

/-- An open that returns a number stores it in a cell. -/
theorem openIntoCell_granted {files : FileState} {number : Int}
    (made : svcFile state.files (call.svc [call.arg1, call.arg2]) =
      (files, some ((call.svc [call.arg1, call.arg2]).answer
        (.handle number))))
    (positive : 0 < number) (small : number < 2 ^ 31) {heap : Heap}
    {memory : GuestMemory} {pFd : Address}
    (returned : allocator.malloc call.heap call.memory 4 =
      (heap, memory, pFd)) (mapped : memory.rangeMapped pFd 4 = true) :
    openIntoCell svcFile allocator state call =
      (⟨files, { memory with
          bytes := write memory.bytes pFd
            (wordBytes (BitVec.ofInt 32 number)) }, heap⟩,
        some ⟨pFd, []⟩) := by
  have fd : ((call.svc [call.arg1, call.arg2]).answer
      (.handle number)).result = BitVec.ofInt 32 number := by
    rw [FileCall.answer, FileAnswer.result, FileCall.returning_result]
  have opened : 0 ≤ (BitVec.ofInt 32 number).toInt := by
    rw [toInt_ofInt_number positive small]
    exact Int.le_of_lt positive
  have sameMemory : ((call.svc [call.arg1, call.arg2]).answer
      (.handle number)).memory = call.memory := rfl
  have stored : memory.ucMemWrite pFd
      (wordBytes (BitVec.ofInt 32 number)) = some { memory with
        bytes := write memory.bytes pFd
          (wordBytes (BitVec.ofInt 32 number)) } := by
    rw [GuestMemory.ucMemWrite, length_wordBytes, if_pos mapped]
  simp only [openIntoCell, made, fd, if_pos opened, sameMemory, returned,
    stored]

/-- What an open of a file asks for, on both levels. -/
theorem openRequest_cases (allocator : Allocator Heap)
    (state : Fsys FileState Heap) (call : FsysCall Heap)
    (inRange : state.files.filesystem.nextHandle < 2 ^ 31 - 1) :
    (call.openRequest allocator = none ∧
        (call.svc [call.arg1, call.arg2]).openOperation state.files =
          none) ∨
      ∃ path mode,
        call.openRequest allocator =
            some (.open (hostName path) (fileMode mode) call.granted
              (call.cell allocator)) ∧
          (call.svc [call.arg1, call.arg2]).openOperation state.files =
            some (.open path mode call.granted) := by
  have noOverflow : ∀ path mode granted,
      openOverflows state.files.filesystem path mode granted = false := by
    intro path mode granted
    rw [openOverflows, decide_eq_false (by omega), Bool.and_false]
  unfold FsysCall.openRequest FileCall.openOperation
  cases (call.svc [call.arg1, call.arg2]).path with
  | none => exact .inl ⟨rfl, rfl⟩
  | some path =>
      cases (call.svc [call.arg1, call.arg2]).mode with
      | none => exact .inl ⟨rfl, rfl⟩
      | some mode =>
          refine .inr ⟨path, mode, rfl, ?_⟩
          simp only [noOverflow, Bool.false_eq_true, if_false]
          rfl

/-- Opening a file on both levels. -/
theorem openFile_both (fs : Filesystem)
    (library : Stdio HostName Byte Address) (same : fs.files = library.files)
    (path mode : List Byte) (granted : Bool) (pFd : Address) :
    (fs.openFile path mode granted = (fs, -1) ∧
        library.openFile (hostName path) (fileMode mode) granted pFd =
          (library, none)) ∨
      ∃ files stream,
        fs.openFile path mode granted =
            ({ ({ fs with files := files }.emplace fs.nextHandle stream) with
                nextHandle := fs.nextHandle + 1 }, fs.nextHandle) ∧
          library.openFile (hostName path) (fileMode mode) granted pFd =
            (⟨files, Function.update library.streams pFd (some stream)⟩,
              some pFd) := by
  unfold Filesystem.openFile Stdio.openFile
  rw [same]
  cases fileMode mode with
  | none => exact .inl ⟨rfl, rfl⟩
  | some openMode =>
      simp only [Option.bind_some]
      cases FileStream.openFile library.files (hostName path) openMode
          granted with
      | none => exact .inl ⟨rfl, rfl⟩
      | some opened => exact .inr ⟨opened.1, opened.2, rfl, rfl⟩

/-- Opening a file. -/
theorem openIntoCell_inStep (related : Related allocator state library)
    (proper : Proper allocator (state, library) call)
    (allocates : Allocates allocator) (opening : call.pointer = none) :
    InStep allocator (openIntoCell svcFile allocator state call)
      (stdio allocator library call) := by
  have resumed := related.resumed proper
  have positive := related.ready.positive
  have numbers : state.files.filesystem.nextHandle < 2 ^ 31 - 1 :=
    proper.numbers
  obtain ⟨operation, request⟩ := @opening_operation _ allocator state call
    opening [call.arg1, call.arg2]
  cases made : svcFile state.files (call.svc [call.arg1, call.arg2]) with
  | mk files answer =>
      obtain ⟨table, answered⟩ :=
        svcFile_performs state.files (call.svc [call.arg1, call.arg2])
      rw [made, operation] at table answered
      rcases openRequest_cases allocator state call numbers with
        ⟨nothing, unperformed⟩ | ⟨path, mode, asked, performed⟩
      · rw [unperformed] at table answered
        cases answered
        simp only [stdio, request, nothing, openIntoCell, made]
        exact ⟨resumed.refile table, rfl⟩
      · rw [performed] at table answered
        simp only [stdio, request, asked, Stdio.step]
        rcases openFile_both state.files.filesystem library related.files
            path mode call.granted (call.cell allocator) with
          ⟨refused, notOpened⟩ | ⟨hostFiles, stream, granted, opened⟩
        · simp only [Option.elim_some, Option.map_some, Filesystem.step,
            refused] at table answered
          rw [answered] at made
          rw [openIntoCell_refused made, notOpened]
          exact ⟨resumed.refile table, rfl⟩
        · simp only [Option.elim_some, Option.map_some, Filesystem.step,
            granted] at table answered
          rw [answered] at made
          cases returned : allocator.malloc call.heap call.memory 4 with
          | mk heap rest =>
              obtain ⟨memory, pFd⟩ := rest
              have cell : call.cell allocator = pFd := by
                rw [FsysCall.cell, returned]
              have present := proper.room opening
              rw [cell] at present opened
              obtain ⟨kept, mapped, inUse⟩ :=
                @Related.allocated _ _ _ _ resumed allocates proper.intact
                  _ _ _ returned present
                  (BitVec.ofInt 32 state.files.filesystem.nextHandle)
              rw [openIntoCell_granted made positive (by omega) returned
                mapped, cell, opened]
              have holds : fdAt { memory with
                  bytes := write memory.bytes pFd (wordBytes
                    (BitVec.ofInt 32 state.files.filesystem.nextHandle)) }
                  pFd = state.files.filesystem.nextHandle := by
                rw [fdAt, loadWord_of_read (read_write_word _ _ _)]
                exact toInt_ofInt_number positive (by omega)
              have extended := @Related.added _ _ _ _ kept _ mapped inUse holds
                hostFiles stream files.fileBuffer
              exact ⟨extended.refile table, rfl⟩

/-! ## Through a handle -/

/-- What a call does whose pointer is to an open file. -/
theorem throughHandle_performs {pFd : Address} (fd : Word)
    (loaded : loadWord call.memory.bytes pFd = fd)
    (mapped : call.memory.rangeMapped pFd 4 = true)
    (arguments : Word → List Word) {operation : Filesystem.Call}
    (performed : (call.svc (arguments fd)).operation state.files =
      some operation) :
    ∃ fileBuffer,
      throughHandle svcFile pFd arguments state call =
        (⟨⟨(Filesystem.step state.files.filesystem operation).1,
            fileBuffer⟩,
          ((call.svc (arguments fd)).answer
            (Filesystem.step state.files.filesystem operation).2).memory,
          call.heap⟩,
          some (received ((call.svc (arguments fd)).answer
            (Filesystem.step state.files.filesystem operation).2))) := by
  obtain ⟨table, answered⟩ :=
    svcFile_performs state.files (call.svc (arguments fd))
  cases made : svcFile state.files (call.svc (arguments fd)) with
  | mk files answer =>
      rw [made, performed] at table answered
      simp only [Option.elim_some, Option.map_some] at table answered
      refine ⟨files.fileBuffer, ?_⟩
      rw [← table]
      simp only [throughHandle, GuestMemory.ucMemRead_of_mapped mapped,
        loaded, made, answered]

/-- Without an operation there is no answer, and nothing changes. -/
theorem throughHandle_unperformed {pFd : Address}
    (arguments : Word → List Word)
    (unperformed : ∀ fd,
      (call.svc (arguments fd)).operation state.files = none) :
    (throughHandle svcFile pFd arguments state call).1.files.filesystem =
        state.files.filesystem ∧
      (throughHandle svcFile pFd arguments state call).1.memory = call.memory ∧
      (throughHandle svcFile pFd arguments state call).1.heap = call.heap ∧
      (throughHandle svcFile pFd arguments state call).2 = none := by
  unfold throughHandle
  cases call.memory.ucMemRead pFd 4 with
  | none => exact ⟨rfl, rfl, rfl, rfl⟩
  | some bytes =>
      obtain ⟨table, answered⟩ := svcFile_performs state.files
        (call.svc (arguments (loadWord call.memory.bytes pFd)))
      rw [unperformed] at table answered
      dsimp only
      cases made : svcFile state.files
          (call.svc (arguments (loadWord call.memory.bytes pFd))) with
      | mk files answer =>
          rw [made] at table answered
          cases answered
          exact ⟨table, rfl, rfl, rfl⟩

/-- The stream that the host finds is the one behind the pointer. -/
theorem Related.entry (related : Related allocator state library)
    {pFd : Address} (opened : (library.streams pFd).isSome = true) :
    state.files.filesystem.entry (fdAt state.memory pFd) =
      library.stream pFd := by
  obtain ⟨stream, present⟩ := Option.isSome_iff_exists.mp opened
  rw [Filesystem.entry, Stdio.stream, present,
    (related.cells pFd stream present).stream]

/-- An operation of the file table on a handle is what a request asks for the
pointer. -/
inductive Names (fd : Int) (pFd : Address) :
    Filesystem.Call → Stdio.Request HostName Byte Address → Prop
  | read (size : Nat) : Names fd pFd (.read fd size) (.read pFd size)
  | write (input : List Byte) :
      Names fd pFd (.write fd input) (.write pFd input)
  | seek (offset cMode : Int) :
      Names fd pFd (.seek fd offset cMode)
        (.seek pFd offset (Filesystem.direction cMode))
  | tell : Names fd pFd (.tell fd) (.tell pFd)
  | close : Names fd pFd (.close fd) (.close pFd)

/-- A result of the file table reports what a reply does; a position is cut
down to an `int`. -/
inductive Reports :
    Filesystem.Answer → Stdio.Reply Byte Address → Prop
  | delivered (bytes : List Byte) :
      Reports (.delivered bytes) (.delivered bytes)
  | written (size : Nat) : Reports (.written size) (.written size)
  | sought : Reports .sought .sought
  | position (p : Int) : Reports (.position (p.bmod (2 ^ 32))) (.position p)
  | closed : Reports .closed .closed

/-- Operating on the handle of a cell is operating on its stream. -/
theorem Related.through (related : Related allocator state library)
    {pFd : Address} (opened : (library.streams pFd).isSome = true)
    {operation : Filesystem.Call}
    {request : Stdio.Request HostName Byte Address}
    (names : Names (fdAt state.memory pFd) pFd operation request)
    (fileBuffer : FileBuffer) :
    Related allocator
        ⟨⟨(Filesystem.step state.files.filesystem operation).1, fileBuffer⟩,
          state.memory, state.heap⟩ (library.step request).1 ∧
      Reports (Filesystem.step state.files.filesystem operation).2
        (library.step request).2 := by
  have entry := related.entry opened
  obtain ⟨files, streams⟩ := library
  obtain rfl : state.files.filesystem.files = files := related.files
  cases names with
  | read size =>
      simp only [Filesystem.step, Filesystem.readFile, Stdio.step, entry]
      exact ⟨related.update opened _ (some _) fileBuffer, .delivered _⟩
  | write input =>
      simp only [Filesystem.step, Filesystem.writeFile, Stdio.step, entry]
      exact ⟨related.update opened _ (some _) fileBuffer, .written _⟩
  | seek offset cMode =>
      simp only [Filesystem.step, Filesystem.seekFile, Stdio.step, entry]
      cases Filesystem.direction cMode with
      | none =>
          -- an entry that is there is stored again
          obtain ⟨stream, present⟩ := Option.isSome_iff_exists.mp opened
          have stored := (related.cells pFd stream present).stream
          refine ⟨related.refile ?_, .sought⟩
          rw [← entry, Filesystem.entry, stored]
          exact Filesystem.setEntry_present stored
      | some dir =>
          exact ⟨related.update opened _ (some _) fileBuffer, .sought⟩
  | tell =>
      simp only [Filesystem.step, Filesystem.tellFile, Stdio.step, entry]
      exact ⟨related.update opened _ (some _) fileBuffer, .position _⟩
  | close =>
      exact ⟨related.update opened _ none fileBuffer, .closed⟩

/-- A pointer is to an open file. -/
theorem Proper.opened (proper : Proper allocator (state, library) call)
    {pFd : Address} (pointer : call.pointer = some pFd) :
    (library.streams pFd).isSome = true := by
  apply proper.argument
  rw [pointer]
  exact Option.mem_some_self pFd

/-- A call that is not survived, and leaves everything as it is. -/
theorem throughHandle_nothing (related : Related allocator state library)
    (proper : Proper allocator (state, library) call) {pFd : Address}
    (arguments : Word → List Word)
    (unperformed : ∀ fd,
      (call.svc (arguments fd)).operation state.files = none)
    (unasked : call.request allocator = none) :
    InStep allocator (throughHandle svcFile pFd arguments state call)
      (stdio allocator library call) := by
  obtain ⟨table, memory, heap, answer⟩ :=
    @throughHandle_unperformed _ state call pFd arguments unperformed
  simp only [stdio, unasked]
  generalize throughHandle svcFile pFd arguments state call = result at *
  obtain ⟨⟨files, memoryAfter, heapAfter⟩, answered⟩ := result
  dsimp only at table memory heap answer
  subst memory heap answer
  exact ⟨(related.resumed proper).refile table, rfl⟩

/-- What an answer does to guest memory. -/
theorem answer_memory (call : FileCall) (result : Filesystem.Answer) :
    (call.answer result).memory = call.memory ∨
      ∃ bytes, result = .delivered bytes ∧
        (call.answer result).memory = { call.memory with
          bytes := ByteMemory.write call.memory.bytes call.buffer bytes } := by
  cases result with
  | delivered bytes =>
      rw [FileCall.answer, GuestMemory.ucMemWrite]
      split
      · rename_i notWritten
        exact .inl rfl
      · rename_i memory written
        split at written
        · cases written
          exact .inr ⟨bytes, rfl, rfl⟩
        · contradiction
  | handle h => exact .inl rfl
  | closed => exact .inl rfl
  | written size => exact .inl rfl
  | sought => exact .inl rfl
  | position p => exact .inl rfl

/-- A call whose operation is the one that it asks the library for. -/
theorem throughHandle_inStep (related : Related allocator state library)
    (proper : Proper allocator (state, library) call) {pFd : Address}
    (pointer : call.pointer = some pFd) (arguments : Word → List Word)
    (operation : Word → Filesystem.Call)
    {request : Stdio.Request HostName Byte Address}
    (asked : call.request allocator = some request)
    (performed : ∀ fd,
      (call.svc (arguments fd)).operation state.files = some (operation fd))
    (names : ∀ fd, Names fd.toInt pFd (operation fd) request)
    (apart : ∀ fd bytes,
      (Filesystem.step state.files.filesystem (operation fd)).2 =
          .delivered bytes →
        ∀ other stream, library.streams other = some stream →
          (⟨(call.svc (arguments fd)).buffer, bytes.length⟩ :
            Extent).Disjoint (cellExtent other))
    (observed : ∀ fd reply,
      Reports (Filesystem.step state.files.filesystem (operation fd)).2 reply →
        received ((call.svc (arguments fd)).answer (Filesystem.step
            state.files.filesystem (operation fd)).2) =
          call.observe reply) :
    InStep allocator (throughHandle svcFile pFd arguments state call)
      (stdio allocator library call) := by
  have resumed := related.resumed proper
  have opened := proper.opened pointer
  obtain ⟨stream, present⟩ := Option.isSome_iff_exists.mp opened
  let fd := loadWord call.memory.bytes pFd
  obtain ⟨fileBuffer, result⟩ := @throughHandle_performs _ state call pFd fd
    rfl (proper.mapped pFd stream present) arguments _ (performed fd)
  have undisturbed : ∀ other stream, library.streams other = some stream →
      AgreeOn (cellExtent other) call.memory.bytes
        ((call.svc (arguments fd)).answer (Filesystem.step
          state.files.filesystem (operation fd)).2).memory.bytes := by
    intro other stream opened
    rcases answer_memory (call.svc (arguments fd)) (Filesystem.step
        state.files.filesystem (operation fd)).2 with
      same | ⟨bytes, delivered, stored⟩
    · rw [same]
      exact AgreeOn.refl _ _
    · rw [stored]
      exact (agreeOn_write (apart fd bytes delivered other stream
        opened)).symm
  have stillMapped : ((call.svc (arguments fd)).answer (Filesystem.step
      state.files.filesystem (operation fd)).2).memory.mapped =
        call.memory.mapped := by
    rcases answer_memory (call.svc (arguments fd)) (Filesystem.step
        state.files.filesystem (operation fd)).2 with
      same | ⟨bytes, delivered, stored⟩
    · rw [same]
      rfl
    · rw [stored]
      rfl
  have rewritten := resumed.elsewhere undisturbed (by
    intro other stream opened
    have before := proper.mapped other stream opened
    unfold GuestMemory.rangeMapped at before ⊢
    rwa [stillMapped]) proper.allocated
  have sameFd : fdAt ((call.svc (arguments fd)).answer (Filesystem.step
      state.files.filesystem (operation fd)).2).memory pFd = fd.toInt := by
    rw [← fdAt_congr (undisturbed pFd stream present)]
    rfl
  obtain ⟨after, reported⟩ := rewritten.through opened
    (by rw [sameFd]; exact names fd) fileBuffer
  rw [result]
  simp only [stdio, asked]
  exact ⟨after, congrArg some (observed fd _ reported)⟩

/-- What the application gets of a transfer from a file. -/
theorem received_delivered (fd : Word) (bytes : List Byte) :
    received ((call.svc [call.arg1, call.arg2, call.arg3, fd]).answer
        (.delivered bytes)) = call.observe (.delivered bytes) := by
  rw [FileCall.answer, GuestMemory.ucMemWrite, FsysCall.observe]
  have buffer : (call.svc [call.arg1, call.arg2, call.arg3, fd]).buffer =
      call.arg1 := rfl
  have memory : (call.svc [call.arg1, call.arg2, call.arg3, fd]).memory =
      call.memory := rfl
  rw [buffer, memory]
  cases call.memory.rangeMapped call.arg1 bytes.length with
  | true => rfl
  | false => rfl

/-- Reading from a file. -/
theorem fsysFread_inStep (related : Related allocator state library)
    (proper : Proper allocator (state, library) call)
    (reading : call.function = .fread) :
    InStep allocator (fsysFread svcFile state call)
      (stdio allocator library call) := by
  have operation : ∀ fd : Word, (call.svc [call.arg1, call.arg2, call.arg3,
      fd]).operation state.files =
        if call.arg2.toNat = 0 then none
        else some (.read fd.toInt call.total) := by
    intro fd
    simp only [FileCall.operation, FsysCall.svc, reading]
    rfl
  have request : call.request allocator =
      if call.arg2.toNat = 0 then none
      else some (.read call.arg4 call.total) := by
    simp only [FsysCall.request, reading]
  by_cases zero : call.arg2.toNat = 0
  · apply throughHandle_nothing related proper
    · intro fd
      rw [operation, if_pos zero]
    · rw [request, if_pos zero]
  · rw [if_neg zero] at request
    apply throughHandle_inStep related proper
      (by rw [FsysCall.pointer, reading]) _
      (fun fd => .read fd.toInt call.total) request
    · intro fd
      rw [operation, if_neg zero]
    · intro fd
      exact .read call.total
    · intro fd bytes delivered other stream opened address present
      apply proper.destination reading other stream opened address
      apply Extent.inside_of_le _ address present
      cases delivered
      exact length_read_le _ _ _
    · intro fd reply reported
      cases reported
      exact received_delivered fd _

/-- Writing to a file. -/
theorem fsysFwrite_inStep (related : Related allocator state library)
    (proper : Proper allocator (state, library) call)
    (writing : call.function = .fwrite) :
    InStep allocator (fsysFwrite svcFile state call)
      (stdio allocator library call) := by
  have operation : ∀ fd : Word, (call.svc [call.arg1, call.arg2, call.arg3,
      fd]).operation state.files =
        if call.arg2.toNat = 0 then none
        else some (.write fd.toInt
          (read call.memory.bytes call.arg1 call.total)) := by
    intro fd
    have front : (writeBuffer state.files (call.svc [call.arg1, call.arg2,
        call.arg3, fd])).front call.total =
          read call.memory.bytes call.arg1 call.total :=
      writeBuffer_front (GuestMemory.ucMemRead_of_mapped
        (proper.source writing))
    rw [← front]
    simp only [FileCall.operation, FsysCall.svc, writing]
    rfl
  have request : call.request allocator =
      if call.arg2.toNat = 0 then none
      else some (.write call.arg4
        (read call.memory.bytes call.arg1 call.total)) := by
    simp only [FsysCall.request, writing]
  by_cases zero : call.arg2.toNat = 0
  · apply throughHandle_nothing related proper
    · intro fd
      rw [operation, if_pos zero]
    · rw [request, if_pos zero]
  · rw [if_neg zero] at request
    apply throughHandle_inStep related proper
      (by rw [FsysCall.pointer, writing]) _
      (fun fd => .write fd.toInt
        (read call.memory.bytes call.arg1 call.total)) request
    · intro fd
      rw [operation, if_neg zero]
    · intro fd
      exact .write _
    · intro fd bytes delivered
      cases delivered
    · intro fd reply reported
      cases reported
      rfl

/-- Moving in a file. -/
theorem fsysFseek_inStep (related : Related allocator state library)
    (proper : Proper allocator (state, library) call)
    (seeking : call.function = .fseek) :
    InStep allocator (fsysFseek svcFile state call)
      (stdio allocator library call) := by
  have request : call.request allocator =
      some (.seek call.arg1 call.arg2.toInt
        (Filesystem.direction call.arg3.toInt)) := by
    simp only [FsysCall.request, seeking]
  apply throughHandle_inStep related proper
    (by rw [FsysCall.pointer, seeking]) _
    (fun fd => .seek fd.toInt call.arg2.toInt call.arg3.toInt)
    request
  · intro fd
    simp only [FileCall.operation, FsysCall.svc, seeking]
    rfl
  · intro fd
    exact .seek _ _
  · intro fd bytes delivered
    cases delivered
  · intro fd reply reported
    cases reported
    rfl

/-- Where a file is. -/
theorem fsysFtell_inStep (related : Related allocator state library)
    (proper : Proper allocator (state, library) call)
    (telling : call.function = .ftell) :
    InStep allocator (fsysFtell svcFile state call)
      (stdio allocator library call) := by
  have request : call.request allocator = some (.tell call.arg1) := by
    simp only [FsysCall.request, telling]
  apply throughHandle_inStep related proper
    (by rw [FsysCall.pointer, telling]) _ (fun fd => .tell fd.toInt)
    request
  · intro fd
    simp only [FileCall.operation, FsysCall.svc, telling]
    rfl
  · intro fd
    exact .tell
  · intro fd bytes delivered
    cases delivered
  · intro fd reply reported
    generalize told : (Filesystem.step state.files.filesystem
      (.tell fd.toInt)).2 = result at reported
    cases reported with
    | position p =>
        have same : BitVec.ofInt 32 (p.bmod (2 ^ 32)) =
            BitVec.ofInt 32 p := by
          apply BitVec.eq_of_toInt_eq
          rw [BitVec.toInt_ofInt, BitVec.toInt_ofInt, Int.bmod_bmod]
        rw [FsysCall.observe, ← same]
        rfl
    | delivered bytes => cases told
    | written size => cases told
    | sought => cases told
    | closed => cases told

/-- Closing a file. -/
theorem fsysFclose_inStep (related : Related allocator state library)
    (proper : Proper allocator (state, library) call)
    (closing : call.function = .fclose) :
    InStep allocator (fsysFclose svcFile state call)
      (stdio allocator library call) := by
  have request : call.request allocator = some (.close call.arg1) := by
    simp only [FsysCall.request, closing]
  apply throughHandle_inStep related proper
    (by rw [FsysCall.pointer, closing]) _ (fun fd => .close fd.toInt)
    request
  · intro fd
    simp only [FileCall.operation, FsysCall.svc, closing]
    rfl
  · intro fd
    exact .close
  · intro fd bytes delivered
    cases delivered
  · intro fd reply reported
    cases reported
    rfl

/-- The levels do the same in a call of a proper application. -/
theorem fsys_inStep (related : Related allocator state library)
    (proper : Proper allocator (state, library) call)
    (allocates : Allocates allocator) :
    InStep allocator (fsys svcFile allocator state call)
      (stdio allocator library call) := by
  unfold fsys
  cases function : call.function with
  | fopen =>
      exact openIntoCell_inStep related proper allocates
        (by rw [FsysCall.pointer, function])
  | fopenW =>
      exact openIntoCell_inStep related proper allocates
        (by rw [FsysCall.pointer, function])
  | fread => exact fsysFread_inStep related proper function
  | fseek => exact fsysFseek_inStep related proper function
  | fclose => exact fsysFclose_inStep related proper function
  | ftell => exact fsysFtell_inStep related proper function
  | fwrite => exact fsysFwrite_inStep related proper function

end Steps

/-! ## A sample run -/

/-- Where the next block starts, and the blocks that were handed out. -/
structure BumpHeap where
  next : Nat
  used : List Extent

/-- An allocator that hands out one block after the other. -/
def bump : Allocator BumpHeap where
  malloc := fun heap memory size =>
    if heap.next + size.toNat ≤ 0x10000 then
      (⟨heap.next + size.toNat,
        ⟨BitVec.ofNat 32 heap.next, size.toNat⟩ :: heap.used⟩, memory,
        BitVec.ofNat 32 heap.next)
    else (heap, memory, 0)
  blocks := BumpHeap.used
  intact := fun heap memory =>
    (∀ address, memory.mapped address = true) ∧
      ∀ block ∈ heap.used, block.start.toNat + block.size ≤ heap.next

theorem bump_allocates : Allocates bump := by
  refine ⟨?_⟩
  intro heap memory size heapAfter memoryAfter pointer intact returned
    present
  simp only [bump] at returned
  split at returned
  · rename_i room
    cases returned
    have start : (BitVec.ofNat 32 heap.next).toNat = heap.next := by
      rw [BitVec.toNat_ofNat]
      exact Nat.mod_eq_of_lt (by omega)
    refine ⟨rfl, ?_, rfl, ?_⟩
    · rw [GuestMemory.rangeMapped, start, decide_eq_true (by omega),
        Bool.true_and, List.all_eq_true]
      intro index _
      exact intact.1 _
    · intro block handedOut
      refine ⟨Extent.Disjoint.symm (Extent.disjoint_of_end_le ?_ ?_),
        AgreeOn.refl _ _⟩
      · change (BitVec.ofNat 32 heap.next).toNat + size.toNat ≤ 2 ^ 32
        omega
      · rw [start]
        exact intact.2 block handedOut
  · cases returned
    exact absurd rfl present

/-- Memory and heap of an application that got so many cells, with the numbers
from 1 on in them. -/
def sampleCells : Nat → GuestMemory × BumpHeap
  | 0 => (sampleMemory, ⟨0x1000, []⟩)
  | opened + 1 =>
      let (memory, heap) := sampleCells opened
      let pFd := BitVec.ofNat 32 heap.next
      ({ memory with
          bytes := write memory.bytes pFd
            (wordBytes (BitVec.ofNat 32 (opened + 1))) },
        ⟨heap.next + 4, ⟨pFd, 4⟩ :: heap.used⟩)

/-- A call of it. -/
def sampleFsysCall (opened : Nat) (function : FileHandler)
    (arg1 arg2 arg3 arg4 : Word) : FsysCall BumpHeap where
  function := function
  arg1 := arg1
  arg2 := arg2
  arg3 := arg3
  arg4 := arg4
  registers := fun _ => 0
  memory := (sampleCells opened).1
  heap := (sampleCells opened).2
  granted := true
  garbage := fun _ => 0
  garbageW := fun _ => 0
  fresh := fun _ => 0

theorem sampleCells_intact (opened : Nat) :
    bump.intact (sampleCells opened).2 (sampleCells opened).1 := by
  induction opened with
  | zero => exact ⟨fun _ => rfl, nofun⟩
  | succ opened inductionHypothesis =>
      obtain ⟨mapped, below⟩ := inductionHypothesis
      refine ⟨mapped, ?_⟩
      intro block handedOut
      change block.start.toNat + block.size ≤
        (sampleCells opened).2.next + 4
      rcases List.mem_cons.mp handedOut with rfl | earlier
      · have start := Nat.mod_le (sampleCells opened).2.next (2 ^ 32)
        dsimp only
        rw [BitVec.toNat_ofNat]
        omega
      · have := below block earlier
        omega

/-- A cell is the same in two memories when its four bytes are. -/
theorem agreeOn_cellExtent {left right : Memory} {pFd : Address}
    (same : ∀ index < 4, left (pFd + BitVec.ofNat 32 index) =
      right (pFd + BitVec.ofNat 32 index)) :
    AgreeOn (cellExtent pFd) left right := by
  intro address present
  have here := same (address - pFd).toNat present
  rwa [show pFd + BitVec.ofNat 32 (address - pFd).toNat = address by
    bv_omega] at here

end Minisys
end GA330
