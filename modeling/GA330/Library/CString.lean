import GA330.Library.ByteMemory

/-!
# Zero-terminated strings

A C string is a list of non-zero bytes; in memory it is followed by a zero
byte.  The operations below look at an unbounded sequence of bytes, which may
come from memory or from a local array, and say exactly how far they look.
-/

open ByteMemory

/-- The characters of a C string, without the zero byte that ends it. -/
structure CString where
  bytes : List Byte
  nulFree : (0 : Byte) ∉ bytes
  deriving DecidableEq

namespace CString

/-- `strlen`. -/
def length (string : CString) : Nat := string.bytes.length

@[ext] theorem ext {left right : CString}
    (equal : left.bytes = right.bytes) : left = right := by
  cases left
  cases right
  simpa using equal

/-- The sequence holds the characters of the string and then a zero byte. -/
def StoredIn (source : Nat → Byte) (string : CString) : Prop :=
  (∀ index (bound : index < string.length),
    source index = string.bytes[index]) ∧
  source string.length = 0

/-- The string is stored at an address of a memory. -/
abbrev StoredAt (memory : Memory) (start : Address) (string : CString) :
    Prop :=
  StoredIn (bytesFrom memory start) string

theorem getElem_ne_zero (string : CString) {index : Nat}
    (bound : index < string.bytes.length) : string.bytes[index] ≠ 0 := by
  intro equal
  exact string.nulFree (equal ▸ List.getElem_mem bound)

/-- A sequence holds at most one string. -/
theorem StoredIn.unique {source : Nat → Byte} {left right : CString}
    (leftStored : StoredIn source left)
    (rightStored : StoredIn source right) : left = right := by
  have notShorter : ∀ {first second : CString},
      StoredIn source first → StoredIn source second →
        ¬ first.length < second.length := by
    intro first second firstStored secondStored shorter
    have character := secondStored.1 first.length shorter
    rw [firstStored.2] at character
    exact second.getElem_ne_zero shorter character.symm
  have lengths : left.length = right.length :=
    Nat.le_antisymm
      (Nat.le_of_not_lt (notShorter rightStored leftStored))
      (Nat.le_of_not_lt (notShorter leftStored rightStored))
  apply ext
  apply List.ext_getElem lengths
  intro index inLeft inRight
  rw [← leftStored.1 index inLeft, ← rightStored.1 index inRight]

/-- Being stored depends only on the characters and the final zero. -/
theorem StoredIn.congr {left right : Nat → Byte} {string : CString}
    (stored : StoredIn left string)
    (agree : ∀ index ≤ string.length, left index = right index) :
    StoredIn right string := by
  constructor
  · intro index bound
    rw [← agree index (Nat.le_of_lt bound), stored.1 index bound]
  · rw [← agree string.length (Nat.le_refl _), stored.2]

/-- Two memories that agree on a stored string both store it. -/
theorem StoredIn.of_agreeOn {left right : Memory} {start : Address}
    {string : CString}
    (stored : StoredAt left start string)
    (agree : AgreeOn ⟨start, string.length + 1⟩ left right) :
    StoredAt right start string :=
  stored.congr fun _ bound =>
    bytesFrom_congr agree (Nat.lt_succ_of_le bound)

/-! ## Scanning for the end -/

/-- The bytes before the first zero, looking at no more than `limit`
bytes. -/
def scan (source : Nat → Byte) : Nat → List Byte
  | 0 => []
  | limit + 1 =>
      if source 0 = 0 then []
      else source 0 :: scan (fun index => source (index + 1)) limit

theorem zero_notMem_scan (source : Nat → Byte) (limit : Nat) :
    (0 : Byte) ∉ scan source limit := by
  induction limit generalizing source with
  | zero => simp [scan]
  | succ limit inductionHypothesis =>
      rw [scan]
      split
      · simp
      · rename_i nonzero
        simp only [List.mem_cons, not_or]
        exact ⟨Ne.symm nonzero, inductionHypothesis _⟩

/-- Scanning finds a stored string when the limit reaches past it. -/
theorem scan_of_prefix {source : Nat → Byte} {limit : Nat}
    {bytes : List Byte}
    (characters : ∀ index (bound : index < bytes.length),
      source index = bytes[index])
    (nonzero : (0 : Byte) ∉ bytes)
    (ended : source bytes.length = 0)
    (reached : bytes.length < limit) :
    scan source limit = bytes := by
  induction bytes generalizing source limit with
  | nil =>
      cases limit with
      | zero => simp at reached
      | succ limit =>
          rw [scan, if_pos]
          exact ended
  | cons byte rest inductionHypothesis =>
      cases limit with
      | zero => simp at reached
      | succ limit =>
          have head : source 0 = byte := characters 0 (by simp)
          simp only [List.mem_cons, not_or] at nonzero
          rw [scan, head, if_neg (Ne.symm nonzero.1)]
          congr 1
          apply inductionHypothesis
          · intro index bound
            exact characters (index + 1) (by simpa using bound)
          · exact nonzero.2
          · exact ended
          · simpa using reached

/-- The string that starts a sequence, found by looking for the zero byte in
as many bytes as there are addresses. -/
def ofSource (source : Nat → Byte) : CString where
  bytes := scan source (2 ^ 32)
  nulFree := zero_notMem_scan source (2 ^ 32)

/-- The string at an address. -/
def ofMemory (memory : Memory) (start : Address) : CString :=
  ofSource (bytesFrom memory start)

theorem ofSource_of_storedIn {source : Nat → Byte} {string : CString}
    (stored : StoredIn source string)
    (reached : string.length < 2 ^ 32) :
    ofSource source = string := by
  apply ext
  exact scan_of_prefix stored.1 string.nulFree stored.2 reached

/-- A sequence with a zero at a position stores a string that ends there or
earlier. -/
theorem exists_storedIn_of_zero {source : Nat → Byte} {position : Nat}
    (ended : source position = 0) :
    ∃ string : CString, StoredIn source string ∧
      string.length ≤ position := by
  induction position generalizing source with
  | zero => exact ⟨⟨[], by simp⟩, ⟨by simp [length], ended⟩, Nat.le_refl 0⟩
  | succ position inductionHypothesis =>
      by_cases first : source 0 = 0
      · exact ⟨⟨[], by simp⟩, ⟨by simp [length], first⟩, Nat.zero_le _⟩
      · obtain ⟨rest, stored, bound⟩ :=
          @inductionHypothesis (fun index => source (index + 1)) ended
        refine ⟨⟨source 0 :: rest.bytes, ?_⟩, ⟨?_, stored.2⟩, ?_⟩
        · simp only [List.mem_cons, not_or]
          exact ⟨Ne.symm first, rest.nulFree⟩
        · intro index inBytes
          cases index with
          | zero => rfl
          | succ index => exact stored.1 index (by simpa [length] using inBytes)
        · simpa [length] using bound

/-! ## Comparing -/

/-- Whether `strcmp` of a sequence with known characters returns zero. -/
def equals (source : Nat → Byte) : List Byte → Bool
  | [] => source 0 == 0
  | byte :: rest =>
      source 0 == byte && equals (fun index => source (index + 1)) rest

/-- How many bytes of the sequence the comparison looks at: it stops at the
first difference or at the end. -/
def compared (source : Nat → Byte) : List Byte → Nat
  | [] => 1
  | byte :: rest =>
      if source 0 = byte then
        compared (fun index => source (index + 1)) rest + 1
      else 1

theorem equals_iff_prefix (source : Nat → Byte) (bytes : List Byte) :
    equals source bytes = true ↔
      (∀ index (bound : index < bytes.length),
        source index = bytes[index]) ∧
      source bytes.length = 0 := by
  induction bytes generalizing source with
  | nil => simp [equals]
  | cons byte rest inductionHypothesis =>
      rw [equals, Bool.and_eq_true, beq_iff_eq, inductionHypothesis]
      constructor
      · rintro ⟨head, tail, ended⟩
        refine ⟨?_, ended⟩
        intro index bound
        cases index with
        | zero => exact head
        | succ index => exact tail index (by simpa using bound)
      · rintro ⟨characters, ended⟩
        refine ⟨characters 0 (by simp), ?_, ended⟩
        intro index bound
        exact characters (index + 1) (by simpa using bound)

/-- `strcmp` returns zero exactly when the sequence stores the string. -/
theorem equals_iff_storedIn (source : Nat → Byte) (string : CString) :
    equals source string.bytes = true ↔ StoredIn source string :=
  equals_iff_prefix source string.bytes

theorem compared_le_of_zero {source : Nat → Byte} {bytes : List Byte}
    {position : Nat}
    (nonzero : (0 : Byte) ∉ bytes) (ended : source position = 0) :
    compared source bytes ≤ position + 1 := by
  induction bytes generalizing source position with
  | nil => simp [compared]
  | cons byte rest inductionHypothesis =>
      simp only [List.mem_cons, not_or] at nonzero
      rw [compared]
      split
      · rename_i head
        cases position with
        | zero => exact absurd (ended.symm.trans head) nonzero.1
        | succ position =>
            have bound : compared (fun index => source (index + 1)) rest ≤
                position + 1 :=
              inductionHypothesis nonzero.2 ended
            omega
      · omega

/-- Comparing with a stored string never looks past its final zero. -/
theorem compared_le {source : Nat → Byte} {stored : CString}
    (storedIn : StoredIn source stored) (string : CString) :
    compared source string.bytes ≤ stored.length + 1 :=
  compared_le_of_zero string.nulFree storedIn.2

end CString
