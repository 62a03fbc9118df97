import GA330.Library.CString

/-!
# Laying bytes out in memory

Extents side by side, writes in pieces, and bytes that lie at an offset into a
region: what was laid out by appending can be taken apart again.  A directory
is a run of records of one size; each record is written with the offset of a
piece, and the pieces follow one another in the order of their records.
-/

namespace ByteMemory

/-! ## Extents side by side -/

/-- Neither extent wraps, and one of them ends before the other starts. -/
def Extent.Separate (left right : Extent) : Prop :=
  left.NoWrap ∧ right.NoWrap ∧
    (left.start.toNat + left.size ≤ right.start.toNat ∨
      right.start.toNat + right.size ≤ left.start.toNat)

instance (left right : Extent) : Decidable (left.Separate right) :=
  inferInstanceAs (Decidable (_ ∧ _ ∧ _))

theorem Extent.Separate.disjoint {left right : Extent}
    (separate : left.Separate right) : left.Disjoint right := by
  obtain ⟨leftNoWrap, rightNoWrap, before | after⟩ := separate
  · exact Extent.disjoint_of_end_le rightNoWrap before
  · exact (Extent.disjoint_of_end_le leftNoWrap after).symm

/-! ## Writing in pieces -/

/-- Two writes side by side are one write. -/
theorem write_append (memory : Memory) (start : Address)
    {front back : List Byte}
    (small : front.length + back.length ≤ 2 ^ 32) :
    write memory start (front ++ back) =
      write (write memory start front)
        (start + BitVec.ofNat 32 front.length) back := by
  funext address
  have bound := (address - start).isLt
  by_cases inFront : (address - start).toNat < front.length
  · have outside : address ∉
        (⟨start + BitVec.ofNat 32 front.length, back.length⟩ : Extent) := by
      rw [Extent.mem_iff]
      bv_omega
    rw [write_of_notMem outside, write, write,
      List.getElem?_append_left inFront]
  · have shifted : (address -
        (start + BitVec.ofNat 32 front.length)).toNat =
          (address - start).toNat - front.length := by
      bv_omega
    have missed : front.length ≤ (address - start).toNat :=
      Nat.le_of_not_lt inFront
    rw [write, write, write, shifted,
      List.getElem?_append_right missed,
      List.getElem?_eq_none missed, Option.getD_none]

/-- The bytes of the word at an address are the four bytes there. -/
theorem wordBytes_loadWord (memory : Memory) (start : Address) :
    wordBytes (loadWord memory start) = read memory start 4 := by
  simp only [wordBytes, loadWord, read, List.range, List.range.loop,
    List.map_cons, List.map_nil, List.cons.injEq, and_true]
  refine ⟨?_, ?_, ?_, ?_⟩
  all_goals
    apply BitVec.eq_of_getLsbD_eq
    intro index bound
    simp only [BitVec.getLsbD_append, BitVec.getLsbD_extractLsb']
    grind

/-! ## Placing -/

/-- The bytes lie at an offset into a region, and end inside it. -/
structure Placed (memory : Memory) (region : Extent) (offset : Nat)
    (bytes : List Byte) : Prop where
  holds : read memory (region.start + BitVec.ofNat 32 offset) bytes.length =
    bytes
  fits : offset + bytes.length ≤ region.size

section Placing

variable {memory : Memory} {region : Extent} {offset : Nat}

theorem placed_append {front back : List Byte} :
    Placed memory region offset (front ++ back) ↔
      Placed memory region offset front ∧
        Placed memory region (offset + front.length) back := by
  have next : region.start + BitVec.ofNat 32 (offset + front.length) =
      region.start + BitVec.ofNat 32 offset +
        BitVec.ofNat 32 front.length := by
    rw [BitVec.add_assoc, BitVec.ofNat_add]
  constructor
  · rintro ⟨holds, fits⟩
    rw [List.length_append] at holds fits
    rw [read_add] at holds
    obtain ⟨first, second⟩ :=
      List.append_inj holds (length_read memory _ front.length)
    exact ⟨⟨first, by omega⟩, ⟨by rw [next]; exact second, by omega⟩⟩
  · rintro ⟨first, second⟩
    have ends := second.fits
    have laid := second.holds
    rw [next] at laid
    refine ⟨?_, by rw [List.length_append]; omega⟩
    rw [List.length_append, read_add, first.holds, laid]

/-- What is placed in a region lies inside it. -/
theorem Placed.inside {bytes : List Byte}
    (placed : Placed memory region offset bytes) :
    (⟨region.start + BitVec.ofNat 32 offset, bytes.length⟩ :
      Extent).Inside region := by
  apply Extent.inside_of_offset
  have fits := placed.fits
  have wraps := Nat.mod_le offset (2 ^ 32)
  rw [BitVec.toNat_ofNat]
  omega

/-- What is placed depends only on the region. -/
theorem Placed.of_agreeOn {other : Memory} {bytes : List Byte}
    (placed : Placed memory region offset bytes)
    (agree : AgreeOn region memory other) :
    Placed other region offset bytes := by
  refine ⟨?_, placed.fits⟩
  rw [← read_congr (agree.mono placed.inside)]
  exact placed.holds

/-- A region in which bytes were written over the whole extent. -/
theorem placed_write {start : Address} {bytes : List Byte}
    (bound : bytes.length ≤ 2 ^ 32) :
    Placed (write memory start bytes) ⟨start, bytes.length⟩ 0 bytes := by
  refine ⟨?_, by simp⟩
  rw [BitVec.add_zero]
  exact read_write_self bound

/-- A word that was placed. -/
theorem Placed.loadWord {word : Word}
    (placed : Placed memory region offset (wordBytes word)) :
    loadWord memory (region.start + BitVec.ofNat 32 offset) = word :=
  loadWord_of_read placed.holds

/-- A string that is followed by a zero byte is stored. -/
theorem Placed.storedAt {string : CString}
    (placed : Placed memory region offset (string.bytes ++ [0])) :
    CString.StoredAt memory (region.start + BitVec.ofNat 32 offset)
      string := by
  have bytes : ∀ index (bound : index < (string.bytes ++ [0]).length),
      bytesFrom memory (region.start + BitVec.ofNat 32 offset) index =
        (string.bytes ++ [0])[index] := by
    intro index bound
    rw [← getElem_read memory _ _ index (by rwa [length_read])]
    congr 1
    exact placed.holds
  constructor
  · intro index bound
    have inString : index < string.bytes.length := bound
    rw [bytes index (by simp; omega)]
    exact List.getElem_append_left inString
  · have ended := bytes string.bytes.length (by simp)
    rw [CString.length, ended]
    simp

end Placing

/-! ## Directories -/

section Directories

variable {α : Type u} {record : Nat → α → List Byte}
variable {piece : α → List Byte} {memory : Memory} {region : Extent}

/-- The records of a directory whose first piece has the given offset. -/
def directory (record : Nat → α → List Byte) (piece : α → List Byte) :
    (offset : Nat) → List α → List Byte
  | _, [] => []
  | offset, item :: rest =>
      record offset item ++
        directory record piece (offset + (piece item).length) rest

theorem length_directory {size : Nat}
    (sized : ∀ offset item, (record offset item).length = size)
    (offset : Nat) (items : List α) :
    (directory record piece offset items).length = items.length * size := by
  induction items generalizing offset with
  | nil => simp [directory]
  | cons item rest inductionHypothesis =>
      rw [directory, List.length_append, sized, inductionHypothesis,
        List.length_cons, Nat.succ_mul, Nat.add_comm]

/-- Every item of a directory has its record, and its piece lies at the offset
that the record was written with, counted from `base`. -/
theorem directory_placed {size : Nat}
    (sized : ∀ offset item, (record offset item).length = size)
    {start base first : Nat} {items : List α}
    (records : Placed memory region start
      (directory record piece first items))
    (pieces : Placed memory region (base + first) (items.flatMap piece))
    {index : Nat} (bound : index < items.length) :
    ∃ offset,
      Placed memory region (start + index * size)
          (record offset items[index]) ∧
        Placed memory region (base + offset) (piece items[index]) := by
  induction items generalizing start first index with
  | nil => contradiction
  | cons item rest inductionHypothesis =>
      rw [directory, placed_append, sized] at records
      rw [List.flatMap_cons, placed_append, Nat.add_assoc] at pieces
      cases index with
      | zero => exact ⟨first, by simpa using records.1, pieces.1⟩
      | succ index =>
          obtain ⟨offset, written, placed⟩ :=
            inductionHypothesis records.2 pieces.2
              (Nat.lt_of_succ_lt_succ bound)
          refine ⟨offset, ?_, placed⟩
          rwa [Nat.succ_mul, Nat.add_comm (index * size),
            ← Nat.add_assoc]

end Directories

end ByteMemory
