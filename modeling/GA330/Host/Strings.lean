import GA330.Host.Api
import GA330.Library.Delimited

/-!
# Strings of the guest

`get_string` and `get_wstring` read guest memory unit by unit until they find a
zero.  They ignore whether a read succeeds, and then look at a variable that
nothing was stored in.
-/

namespace GA330
namespace Host

open ByteMemory Delimited

/-! ## Units -/

/-- The `i`-th character at an address, if it can be read. -/
def charRead (memory : GuestMemory) (addr : Address) (i : Nat) :
    Option Byte :=
  match memory.ucMemRead (addr + BitVec.ofNat 32 i) 1 with
  | some [byte] => some byte
  | _ => none

/-- The `i`-th 16-bit unit at an address, if it can be read. -/
def unitRead (memory : GuestMemory) (addr : Address) (i : Nat) :
    Option (BitVec 16) :=
  match memory.ucMemRead (addr + BitVec.ofNat 32 (i * 2)) 2 with
  | some [low, high] => some (high ++ low)
  | _ => none

/-- What the variable `c` holds in an iteration, after the read. -/
def found (reads : Nat → Option α) (garbage : Nat → α) (i : Nat) : α :=
  (reads i).getD (garbage i)

theorem getStringFrom_eq_collect (memory : GuestMemory)
    (garbage : Nat → Byte) (addr : Address) (remaining i : Nat) :
    getStringFrom memory garbage addr remaining i =
      collect 0 (found (charRead memory addr) garbage) remaining i := by
  induction remaining generalizing i with
  | zero => rfl
  | succ remaining inductionHypothesis =>
      have same : found (charRead memory addr) garbage i =
          match memory.ucMemRead (addr + BitVec.ofNat 32 i) 1 with
          | some [byte] => byte
          | _ => garbage i := by
        unfold found charRead
        split <;> rfl
      have next : getStringFrom memory garbage addr (remaining + 1) i =
          if found (charRead memory addr) garbage i = 0 then some []
          else (getStringFrom memory garbage addr remaining (i + 1)).map
            (found (charRead memory addr) garbage i :: ·) := by
        rw [same]
        rfl
      rw [next, collect, inductionHypothesis]

theorem getWstringFrom_eq_collect (memory : GuestMemory)
    (garbage : Nat → BitVec 16) (addr : Address) (remaining i : Nat) :
    getWstringFrom memory garbage addr remaining i =
      collect 0 (found (unitRead memory addr) garbage) remaining i := by
  induction remaining generalizing i with
  | zero => rfl
  | succ remaining inductionHypothesis =>
      have same : found (unitRead memory addr) garbage i =
          match memory.ucMemRead (addr + BitVec.ofNat 32 (i * 2)) 2 with
          | some [low, high] => high ++ low
          | _ => garbage i := by
        unfold found unitRead
        split <;> rfl
      have next : getWstringFrom memory garbage addr (remaining + 1) i =
          if found (unitRead memory addr) garbage i = 0 then some []
          else (getWstringFrom memory garbage addr remaining (i + 1)).map
            (found (unitRead memory addr) garbage i :: ·) := by
        rw [same]
        rfl
      rw [next, collect, inductionHypothesis]

/-! ## Safe reading -/

section Reading

variable {width : Nat}

/-- Readable units, followed by a readable zero. -/
structure Spelled (reads : Nat → Option (BitVec width))
    (units : List (BitVec width)) : Prop where
  elements : ∀ index (bound : index < units.length),
    reads index = some units[index]
  nonzero : 0 ∉ units
  ended : reads units.length = some 0

/-- A string is read safely: the loop ends; a string all of whose units can be
read is returned; and an iteration whose read has failed, if it is reached,
neither appends a unit nor goes on. -/
structure ReadSafely (reads : Nat → Option (BitVec width))
    (garbage : Nat → BitVec width)
    (result : Option (List (BitVec width))) : Prop where
  terminates : result.isSome = true
  exact : ∀ units, Spelled reads units → result = some units
  unread : ∀ i, (∀ earlier < i, found reads garbage earlier ≠ 0) →
    reads i = none → found reads garbage i = 0

variable {reads : Nat → Option (BitVec width)}
variable {garbage : Nat → BitVec width} {units : List (BitVec width)}

/-- Whatever the uninitialized variable holds, a spelled string is found. -/
theorem Spelled.holds (spelled : Spelled reads units)
    (garbage : Nat → BitVec width) :
    Holds 0 (found reads garbage) units where
  elements := by
    intro index bound
    rw [found, spelled.elements index bound, Option.getD_some]
  unmarked := spelled.nonzero
  ended := by
    rw [found, spelled.ended, Option.getD_some]

/-- A spelled string is collected when the limit reaches past it. -/
theorem Spelled.collect (spelled : Spelled reads units)
    (garbage : Nat → BitVec width) (limit : Nat) :
    Delimited.collect 0 (found reads garbage) limit 0 =
      if units.length < limit then some units else none := by
  split
  · rename_i short
    exact collect_eq_some_iff.mpr ⟨spelled.holds garbage, short⟩
  · rename_i long
    rw [Option.eq_none_iff_forall_ne_some]
    intro others collected
    obtain ⟨holds, short⟩ := collect_eq_some_iff.mp collected
    rw [holds.unique (spelled.holds garbage)] at short
    exact long short

/-- A spelled string that is short enough is read safely. -/
theorem Spelled.readSafely (spelled : Spelled reads units) {limit : Nat}
    (short : units.length < limit) (garbage : Nat → BitVec width) :
    ReadSafely reads garbage
      (Delimited.collect 0 (found reads garbage) limit 0) := by
  have collected : Delimited.collect 0 (found reads garbage) limit 0 =
      some units := by
    rw [spelled.collect, if_pos short]
  constructor
  · rw [collected]
    rfl
  · intro others alsoSpelled
    rw [collected, (spelled.holds garbage).unique
      (alsoSpelled.holds garbage)]
  · intro i reached failed
    rcases Nat.lt_trichotomy i units.length with inside | atEnd | behind
    · rw [spelled.elements i inside] at failed
      contradiction
    · rw [atEnd, spelled.ended] at failed
      contradiction
    · exact absurd (spelled.holds garbage).ended
        (reached units.length behind)

/-- If reading is safe when the uninitialized variable holds something other
than zero, the string is spelled. -/
theorem ReadSafely.spelled {limit : Nat} {nonzero : BitVec width}
    (positive : nonzero ≠ 0)
    (safely : ReadSafely reads (fun _ => nonzero)
      (collect 0 (found reads fun _ => nonzero) limit 0)) :
    ∃ units, Spelled reads units ∧ units.length < limit := by
  obtain ⟨units, collected⟩ := Option.isSome_iff_exists.mp
    safely.terminates
  obtain ⟨holds, short⟩ := collect_eq_some_iff.mp collected
  refine ⟨units, ⟨?_, holds.unmarked, ?_⟩, short⟩
  · intro index bound
    have found := holds.elements index bound
    cases outcome : reads index with
    | none =>
        have ended := safely.unread index
          (fun earlier before => holds.ne_mark (by omega)) outcome
        exact absurd ended (holds.ne_mark bound)
    | some unit =>
        rw [Host.found, outcome, Option.getD_some] at found
        rw [found]
  · have ended := holds.ended
    cases outcome : reads units.length with
    | none =>
        rw [found, outcome, Option.getD_none] at ended
        exact absurd ended positive
    | some unit =>
        rw [found, outcome, Option.getD_some] at ended
        rw [ended]

end Reading

/-- What `get_string` makes of a string that can be read. -/
theorem getString_spelled {memory : GuestMemory} {addr : Address}
    {characters : List Byte}
    (spelled : Spelled (charRead memory addr) characters)
    (garbage : Nat → Byte) :
    getString memory garbage addr =
      if characters.length < 2 ^ 31 then some characters else none := by
  rw [getString, getStringFrom_eq_collect, spelled.collect]

/-- What `get_wstring` makes of a string that can be read. -/
theorem getWstring_spelled {memory : GuestMemory} {addr : Address}
    {units : List (BitVec 16)}
    (spelled : Spelled (unitRead memory addr) units)
    (garbage : Nat → BitVec 16) :
    getWstring memory garbage addr =
      if units.length < 2 ^ 30 then some units else none := by
  rw [getWstring, getWstringFrom_eq_collect, spelled.collect]

/-- `get_string` and `get_wstring` read safely, whatever the uninitialized
variable holds, exactly when every unit up to the first zero can be read and
the index does not overflow before it. -/
theorem strings_read_safely_iff (memory : GuestMemory) (addr : Address) :
    ((∀ garbage, ReadSafely (charRead memory addr) garbage
        (getString memory garbage addr)) ↔
      ∃ characters, Spelled (charRead memory addr) characters ∧
        characters.length < 2 ^ 31) ∧
    ((∀ garbage, ReadSafely (unitRead memory addr) garbage
        (getWstring memory garbage addr)) ↔
      ∃ units, Spelled (unitRead memory addr) units ∧
        units.length < 2 ^ 30) := by
  simp only [getString, getStringFrom_eq_collect, getWstring,
    getWstringFrom_eq_collect]
  constructor
  · constructor
    · intro safely
      exact (safely fun _ => 1).spelled (by decide)
    · rintro ⟨characters, spelled, short⟩ garbage
      exact spelled.readSafely short garbage
  · constructor
    · intro safely
      exact (safely fun _ => 1).spelled (by decide)
    · rintro ⟨units, spelled, short⟩ garbage
      exact spelled.readSafely short garbage

/-- At an address that is not mapped, `get_string` goes by whatever its
variable holds. -/
theorem unmapped_string_read :
    ¬ ∀ (memory : GuestMemory) (addr : Address) (garbage : Nat → Byte),
      ReadSafely (charRead memory addr) garbage
        (getString memory garbage addr) := by
  intro claimed
  have safely := claimed ⟨fun _ => 0, fun _ => false⟩ 0 fun _ => 1
  have unread : charRead ⟨fun _ => 0, fun _ => false⟩ 0 0 = none := by
    decide
  have ended := safely.unread 0 (by simp) unread
  rw [found, unread] at ended
  contradiction

end Host
end GA330
