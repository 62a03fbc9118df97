import Mathlib.Data.BitVec
import Mathlib.Data.List.OfFn
import Mathlib.Tactic.Common

/-!
# Byte memory over a 32-bit address space

A memory gives one byte for every 32-bit address; address arithmetic wraps.
Extents name runs of consecutive addresses, and two memories are compared on
the extent that a reader looks at.  Words are stored least significant byte
first.
-/

namespace ByteMemory

/-- One byte of memory. -/
abbrev Byte := BitVec 8

/-- A 32-bit address; sums of addresses wrap. -/
abbrev Address := BitVec 32

/-- A machine word. -/
abbrev Word := BitVec 32

/-- The contents of the whole address space. -/
abbrev Memory := Address → Byte

/-! ## Extents -/

/-- The `size` consecutive addresses from `start`, wrapping at the top. -/
structure Extent where
  start : Address
  size : Nat
  deriving DecidableEq

instance : Membership Address Extent where
  mem extent address := (address - extent.start).toNat < extent.size

instance (address : Address) (extent : Extent) :
    Decidable (address ∈ extent) :=
  inferInstanceAs (Decidable ((address - extent.start).toNat < extent.size))

namespace Extent

theorem mem_iff {extent : Extent} {address : Address} :
    address ∈ extent ↔ (address - extent.start).toNat < extent.size :=
  Iff.rfl

/-- Every address of the inner extent is one of the outer extent. -/
def Inside (inner outer : Extent) : Prop :=
  ∀ address ∈ inner, address ∈ outer

/-- No address belongs to both extents. -/
def Disjoint (left right : Extent) : Prop :=
  ∀ address ∈ left, address ∉ right

/-- The extent runs up to the top of the address space without wrapping. -/
def NoWrap (extent : Extent) : Prop :=
  extent.start.toNat + extent.size ≤ 2 ^ 32

instance (extent : Extent) : Decidable extent.NoWrap :=
  inferInstanceAs (Decidable (_ ≤ _))

theorem Disjoint.symm {left right : Extent}
    (disjoint : left.Disjoint right) : right.Disjoint left :=
  fun address inRight inLeft => disjoint address inLeft inRight

theorem Inside.trans {inner middle outer : Extent}
    (first : inner.Inside middle) (second : middle.Inside outer) :
    inner.Inside outer :=
  fun address present => second address (first address present)

/-- A run that starts `offset` bytes into an extent and ends before it does
stays inside. -/
theorem inside_of_offset {base offset : Address} {size total : Nat}
    (fits : offset.toNat + size ≤ total) :
    (⟨base + offset, size⟩ : Extent).Inside ⟨base, total⟩ := by
  intro address present
  rw [mem_iff] at present ⊢
  dsimp only at present ⊢
  bv_omega

/-- A run is inside an extent as soon as the offset of its start, as the
address arithmetic computes it, leaves room for it. -/
theorem inside_of_start {start base : Address} {size total : Nat}
    (fits : (start - base).toNat + size ≤ total) :
    (⟨start, size⟩ : Extent).Inside ⟨base, total⟩ := by
  have inside : (⟨base + (start - base), size⟩ : Extent).Inside
      ⟨base, total⟩ := inside_of_offset fits
  rwa [show base + (start - base) = start by bv_omega] at inside

/-- A shorter run from the same start. -/
theorem inside_of_le {start : Address} {small large : Nat}
    (le : small ≤ large) :
    (⟨start, small⟩ : Extent).Inside ⟨start, large⟩ :=
  fun _ present => lt_of_lt_of_le present le

/-- Only a short run fits into one that is not the whole address space. -/
theorem size_lt_of_inside {inner outer : Extent}
    (inside : inner.Inside outer) (small : outer.size < 2 ^ 32) :
    inner.size < 2 ^ 32 := by
  by_contra large
  have present : outer.start + BitVec.ofNat 32 outer.size ∈ inner := by
    rw [mem_iff]
    omega
  have impossible := inside _ present
  rw [mem_iff] at impossible
  bv_omega

/-- Two extents that do not wrap are disjoint when one ends before the other
starts. -/
theorem disjoint_of_end_le {left right : Extent}
    (rightNoWrap : right.NoWrap)
    (before : left.start.toNat + left.size ≤ right.start.toNat) :
    left.Disjoint right := by
  intro address inLeft inRight
  rw [mem_iff] at inLeft inRight
  unfold NoWrap at rightNoWrap
  bv_omega

end Extent

/-! ## Reading and writing -/

/-- The bytes from an address on, as an unbounded sequence. -/
def bytesFrom (memory : Memory) (start : Address) : Nat → Byte :=
  fun index => memory (start + BitVec.ofNat 32 index)

/-- Read `count` bytes. -/
def read (memory : Memory) (start : Address) (count : Nat) : List Byte :=
  (List.range count).map (bytesFrom memory start)

/-- Overwrite the bytes from `start` on; every other byte is kept. -/
def write (memory : Memory) (start : Address) (bytes : List Byte) : Memory :=
  fun address => (bytes[(address - start).toNat]?).getD (memory address)

/-- Two memories hold the same bytes on an extent. -/
def AgreeOn (extent : Extent) (left right : Memory) : Prop :=
  ∀ address ∈ extent, left address = right address

theorem AgreeOn.refl (extent : Extent) (memory : Memory) :
    AgreeOn extent memory memory :=
  fun _ _ => rfl

theorem AgreeOn.symm {extent : Extent} {left right : Memory}
    (agree : AgreeOn extent left right) : AgreeOn extent right left :=
  fun address present => (agree address present).symm

theorem AgreeOn.trans {extent : Extent} {first second third : Memory}
    (left : AgreeOn extent first second)
    (right : AgreeOn extent second third) : AgreeOn extent first third :=
  fun address present =>
    (left address present).trans (right address present)

theorem AgreeOn.mono {inner outer : Extent} {left right : Memory}
    (agree : AgreeOn outer left right) (inside : inner.Inside outer) :
    AgreeOn inner left right :=
  fun address present => agree address (inside address present)

@[simp] theorem length_read (memory : Memory) (start : Address)
    (count : Nat) : (read memory start count).length = count := by
  simp [read]

@[simp] theorem getElem_read (memory : Memory) (start : Address)
    (count index : Nat)
    (bound : index < (read memory start count).length) :
    (read memory start count)[index] = bytesFrom memory start index := by
  simp [read]

/-- The first byte read is the one at the start. -/
theorem head?_read (memory : Memory) (start : Address) {count : Nat}
    (positive : 0 < count) :
    (read memory start count).head? = some (memory start) := by
  rw [List.head?_eq_getElem?,
    List.getElem?_eq_getElem (by rwa [length_read]), getElem_read,
    bytesFrom]
  simp

/-- Advancing the start shifts the byte sequence. -/
theorem bytesFrom_add (memory : Memory) (start : Address)
    (shift index : Nat) :
    bytesFrom memory (start + BitVec.ofNat 32 shift) index =
      bytesFrom memory start (shift + index) := by
  simp only [bytesFrom, BitVec.add_assoc, BitVec.ofNat_add]

/-- A read splits into a read of its front and a read of its back. -/
theorem read_add (memory : Memory) (start : Address)
    (front back : Nat) :
    read memory start (front + back) =
      read memory start front ++
        read memory (start + BitVec.ofNat 32 front) back := by
  simp only [read, List.range_add, List.map_append, List.map_map]
  congr 1
  apply List.map_congr_left
  intro index _
  exact (bytesFrom_add memory start front index).symm

/-- The byte at an index of a run lies in the run's extent. -/
theorem mem_extent_of_lt {start : Address} {index size : Nat}
    (bound : index < size) :
    start + BitVec.ofNat 32 index ∈ (⟨start, size⟩ : Extent) := by
  rw [Extent.mem_iff]
  dsimp only
  rw [show start + BitVec.ofNat 32 index - start = BitVec.ofNat 32 index by
    bv_omega, BitVec.toNat_ofNat]
  exact lt_of_le_of_lt (Nat.mod_le _ _) bound

theorem bytesFrom_congr {left right : Memory} {start : Address}
    {index size : Nat}
    (agree : AgreeOn ⟨start, size⟩ left right) (bound : index < size) :
    bytesFrom left start index = bytesFrom right start index :=
  agree _ (mem_extent_of_lt bound)

/-- A read depends only on the bytes it covers. -/
theorem read_congr {left right : Memory} {start : Address} {count : Nat}
    (agree : AgreeOn ⟨start, count⟩ left right) :
    read left start count = read right start count := by
  apply List.map_congr_left
  intro index present
  exact bytesFrom_congr agree (List.mem_range.mp present)

theorem write_of_mem {memory : Memory} {start address : Address}
    {bytes : List Byte}
    (present : (address - start).toNat < bytes.length) :
    write memory start bytes address =
      bytes[(address - start).toNat] := by
  rw [write, List.getElem?_eq_getElem present, Option.getD_some]

/-- A write leaves every byte outside its extent alone. -/
theorem write_of_notMem {memory : Memory} {start address : Address}
    {bytes : List Byte}
    (absent : address ∉ (⟨start, bytes.length⟩ : Extent)) :
    write memory start bytes address = memory address := by
  have outside : bytes.length ≤ (address - start).toNat :=
    Nat.le_of_not_lt absent
  rw [write, List.getElem?_eq_none outside, Option.getD_none]

/-- A write does not disturb an extent it does not meet. -/
theorem agreeOn_write {memory : Memory} {start : Address}
    {bytes : List Byte} {extent : Extent}
    (disjoint : (⟨start, bytes.length⟩ : Extent).Disjoint extent) :
    AgreeOn extent (write memory start bytes) memory := by
  intro address present
  apply write_of_notMem
  intro inWrite
  exact disjoint address inWrite present

/-- Reading back what was just written. -/
theorem read_write_self {memory : Memory} {start : Address}
    {bytes : List Byte} (bound : bytes.length ≤ 2 ^ 32) :
    read (write memory start bytes) start bytes.length = bytes := by
  apply List.ext_getElem
  · simp
  · intro index _ inBytes
    rw [getElem_read, bytesFrom]
    have offset : (start + BitVec.ofNat 32 index - start).toNat = index := by
      bv_omega
    rw [write_of_mem (by rw [offset]; exact inBytes)]
    simp only [offset]

/-- Overwriting one byte of what was just written. -/
theorem write_write_byte {memory : Memory} {start : Address}
    {bytes : List Byte} {index : Nat} {value : Byte}
    (bound : index < bytes.length) (small : bytes.length ≤ 2 ^ 32) :
    write (write memory start bytes) (start + BitVec.ofNat 32 index)
        [value] =
      write memory start (bytes.set index value) := by
  funext address
  by_cases here : (address - start).toNat = index
  · have first : (address - (start + BitVec.ofNat 32 index)).toNat = 0 := by
      bv_omega
    rw [write_of_mem (by rw [first]; simp),
      write_of_mem (by rw [List.length_set, here]; exact bound)]
    simp only [first, here, List.getElem_set_self, List.getElem_singleton]
  · have other : address ∉
        (⟨start + BitVec.ofNat 32 index, [value].length⟩ : Extent) := by
      rw [Extent.mem_iff, List.length_singleton]
      bv_omega
    rw [write_of_notMem other, write, write,
      List.getElem?_set_ne (Ne.symm here)]

/-- Part of a read. -/
theorem read_slice (memory : Memory) (start : Address)
    {offset count total : Nat} (fits : offset + count ≤ total) :
    read memory (start + BitVec.ofNat 32 offset) count =
      ((read memory start total).drop offset).take count := by
  obtain ⟨rest, rfl⟩ := Nat.exists_eq_add_of_le fits
  rw [Nat.add_assoc, read_add memory start offset,
    List.drop_left' (length_read memory start offset), read_add,
    List.take_left' (length_read memory _ count)]

/-- Reading memory that holds one value everywhere. -/
theorem read_const (value : Byte) (start : Address) (count : Nat) :
    read (fun _ => value) start count = List.replicate count value := by
  have constant : bytesFrom (fun _ => value) start = fun _ => value := rfl
  rw [read, constant, List.map_const', List.length_range]

/-! ## Words -/

/-- The four bytes of a word, least significant first. -/
def wordBytes (word : Word) : List Byte :=
  [word.extractLsb' 0 8, word.extractLsb' 8 8,
    word.extractLsb' 16 8, word.extractLsb' 24 8]

/-- Read a word stored least significant byte first. -/
def loadWord (memory : Memory) (start : Address) : Word :=
  bytesFrom memory start 3 ++ bytesFrom memory start 2 ++
    bytesFrom memory start 1 ++ bytesFrom memory start 0

@[simp] theorem length_wordBytes (word : Word) :
    (wordBytes word).length = 4 := rfl

theorem loadWord_congr {left right : Memory} {start : Address}
    (agree : AgreeOn ⟨start, 4⟩ left right) :
    loadWord left start = loadWord right start := by
  unfold loadWord
  rw [bytesFrom_congr agree (show 0 < 4 by omega),
    bytesFrom_congr agree (show 1 < 4 by omega),
    bytesFrom_congr agree (show 2 < 4 by omega),
    bytesFrom_congr agree (show 3 < 4 by omega)]

/-- Gluing the four bytes of a word back together. -/
theorem append_extractLsb' (word : Word) :
    word.extractLsb' 24 8 ++ word.extractLsb' 16 8 ++
      word.extractLsb' 8 8 ++ word.extractLsb' 0 8 = word := by
  apply BitVec.eq_of_getLsbD_eq
  intro index bound
  simp only [BitVec.getLsbD_append, BitVec.getLsbD_extractLsb']
  grind

/-- Memory that holds the bytes of a word reads as that word. -/
theorem loadWord_of_read {memory : Memory} {start : Address} {word : Word}
    (stored : read memory start 4 = wordBytes word) :
    loadWord memory start = word := by
  simp only [read, List.range, List.range.loop, List.map_cons, List.map_nil,
    wordBytes, List.cons.injEq, and_true] at stored
  obtain ⟨byte0, byte1, byte2, byte3⟩ := stored
  rw [loadWord, byte0, byte1, byte2, byte3, append_extractLsb']

end ByteMemory
