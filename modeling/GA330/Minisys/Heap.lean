import GA330.Minisys.Layout

/-!
# The heap over whole runs

`_sbrk` adds whatever it is asked for to the break and never fails.  RAM, as
the host maps it and the linker script describes it, ends at `__ram_end__`; so
the heap stays in RAM as long as the increments up to each call sum to no less
than zero and to no more than the 48 MiB that RAM has above the start of the
heap.
-/

namespace GA330
namespace Minisys

open ByteMemory

/-- `__ram_end__` -/
def ramEnd : Nat := 0x14000000

/-- A number that lies between the start of the heap and the end of RAM. -/
def InHeap (address : Int) : Prop :=
  (heapStart.toNat : Int) ≤ address ∧ address ≤ ramEnd

/-- A call of `_sbrk` as its callers expect it: it fails with `(void*) -1` and
leaves the break where it is, or it returns the break and moves it to another
place in the heap. -/
def CallSound (heapEnd : Address) (incr : Word) : Prop :=
  ((sbrk heapEnd incr).2 = 0xFFFFFFFF ∧
      currentBreak (sbrk heapEnd incr).1 = currentBreak heapEnd) ∨
    ((sbrk heapEnd incr).2 = currentBreak heapEnd ∧
      InHeap (sbrk heapEnd incr).1.toNat)

/-- The break, and the blocks that were handed out and not given back. -/
structure Heap where
  heapEnd : Address
  live : List Extent

/-- Before the first call. -/
def Heap.initial : Heap := ⟨0, []⟩

/-- A block ends below the break. -/
def Below (heapEnd : Address) (block : Extent) : Prop :=
  block.start.toNat + block.size ≤ heapEnd.toNat

instance (heapEnd : Address) (block : Extent) :
    Decidable (Below heapEnd block) :=
  inferInstanceAs (Decidable (_ ≤ _))

/-- A call of `_sbrk`: moving the break below the end of a block gives the
block back, and an increment that is not negative hands out another. -/
def Heap.extend (heap : Heap) (incr : Word) : Heap × Address :=
  let (heapEnd, block) := sbrkBlock heap.heapEnd incr
  let kept := heap.live.filter fun old => Below heapEnd old
  (⟨heapEnd, if 0 ≤ incr.toInt then block :: kept else kept⟩, block.start)

/-- The heap after the calls. -/
def heapAfter (increments : List Word) : Heap :=
  Machine.final Heap.extend .initial increments

/-- What the increments add up to. -/
def total (increments : List Word) : Int :=
  (increments.map BitVec.toInt).sum

/-- Every call is as its callers expect it; and at any time the blocks that
were handed out and not given back are apart and in RAM. -/
structure HeapSound (increments : List Word) : Prop where
  calls : Machine.Admissible sbrk CallSound 0 increments
  apart : ∀ before, before <+: increments →
    (heapAfter before).live.Pairwise Extent.Disjoint
  mapped : ∀ before, before <+: increments →
    ∀ block ∈ (heapAfter before).live, block.Inside ram

/-! ## One call -/

section Calls

variable {heapEnd : Address} {incr : Word}

/-- The break is in the heap. -/
def BreakInHeap (heapEnd : Address) : Prop :=
  InHeap (currentBreak heapEnd).toNat

/-- The call leaves the break in the heap. -/
def StaysInHeap (heapEnd : Address) (incr : Word) : Prop :=
  InHeap ((currentBreak heapEnd).toNat + incr.toInt)

theorem currentBreak_of_inHeap (inHeap : InHeap heapEnd.toNat) :
    currentBreak heapEnd = heapEnd := by
  have start : heapStart.toNat = 0x11000000 := by decide
  unfold InHeap at inHeap
  rw [currentBreak, if_neg]
  intro zero
  rw [zero, start] at inHeap
  contradiction

/-- A call that stays in the heap moves the break by the increment. -/
theorem sbrk_of_stays (stays : StaysInHeap heapEnd incr) :
    (((sbrk heapEnd incr).1.toNat : Nat) : Int) =
        (currentBreak heapEnd).toNat + incr.toInt ∧
      currentBreak (sbrk heapEnd incr).1 = (sbrk heapEnd incr).1 := by
  have bounds := stays
  unfold StaysInHeap InHeap ramEnd at bounds
  have moved : (((sbrk heapEnd incr).1.toNat : Nat) : Int) =
      (currentBreak heapEnd).toNat + incr.toInt :=
    toNat_add_of_stays (by omega) (by omega)
  refine ⟨moved, currentBreak_of_inHeap ?_⟩
  rw [moved]
  exact stays

/-- With the break in the heap, a call is sound exactly when it stays there:
the increment is too small for the sum to wrap around into the heap. -/
theorem callSound_iff (inHeap : BreakInHeap heapEnd) :
    CallSound heapEnd incr ↔ StaysInHeap heapEnd incr := by
  have start : heapStart.toNat = 0x11000000 := by decide
  constructor
  · rintro (⟨failed, _⟩ | ⟨_, moved⟩)
    · change currentBreak heapEnd = 0xFFFFFFFF at failed
      rw [BreakInHeap, failed] at inHeap
      exact absurd inHeap.2 (by decide)
    · have low := BitVec.le_toInt incr
      have high := BitVec.toInt_lt (x := incr)
      unfold BreakInHeap at inHeap
      unfold StaysInHeap
      rw [sbrk] at moved
      dsimp only at moved
      generalize currentBreak heapEnd = brk at inHeap moved ⊢
      unfold InHeap ramEnd at inHeap moved ⊢
      rw [BitVec.toNat_add] at moved
      rw [BitVec.toInt_eq_toNat_cond] at low high ⊢
      have bound := incr.isLt
      split at low <;> omega
  · intro stays
    refine .inr ⟨rfl, ?_⟩
    rw [(sbrk_of_stays stays).1]
    exact stays

end Calls

/-! ## Runs -/

section Runs

variable {heapEnd : Address}

/-- The partial sums stay in the heap when the first call starts at the
break. -/
def SumsStay (start : Int) (increments : List Word) : Prop :=
  ∀ before, before <+: increments → InHeap (start + total before)

theorem sumsStay_cons {start : Int} {incr : Word} {rest : List Word}
    (inHeap : InHeap start) :
    SumsStay start (incr :: rest) ↔ SumsStay (start + incr.toInt) rest := by
  have shift : ∀ before, start + total (incr :: before) =
      start + incr.toInt + total before := by
    intro before
    simp only [total, List.map_cons, List.sum_cons]
    omega
  constructor
  · intro stay before isPrefix
    rw [← shift]
    exact stay _ (List.prefix_cons_inj incr |>.mpr isPrefix)
  · intro stay before isPrefix
    cases before with
    | nil => simpa [total] using inHeap
    | cons first others =>
        obtain ⟨rfl, later⟩ := List.cons_prefix_cons.mp isPrefix
        rw [shift]
        exact stay others later

/-- Every call stays in the heap exactly when every partial sum does. -/
theorem admissible_stays_iff (inHeap : BreakInHeap heapEnd)
    (increments : List Word) :
    Machine.Admissible sbrk StaysInHeap heapEnd increments ↔
      SumsStay (currentBreak heapEnd).toNat increments := by
  induction increments generalizing heapEnd with
  | nil =>
      simpa [Machine.Admissible, SumsStay, total, BreakInHeap] using inHeap
  | cons incr rest inductionHypothesis =>
      rw [sumsStay_cons inHeap, Machine.Admissible]
      constructor
      · rintro ⟨stays, later⟩
        obtain ⟨moved, same⟩ := sbrk_of_stays stays
        rw [inductionHypothesis, same, moved] at later
        · exact later
        · rw [BreakInHeap, same, moved]
          exact stays
      · intro stay
        have stays : StaysInHeap heapEnd incr := by
          simpa [StaysInHeap, total] using stay [] List.nil_prefix
        obtain ⟨moved, same⟩ := sbrk_of_stays stays
        refine ⟨stays, (inductionHypothesis ?_).mpr ?_⟩
        · rw [BreakInHeap, same, moved]
          exact stays
        · rw [same, moved]
          exact stay

/-- Every call is sound exactly when every call stays in the heap. -/
theorem admissible_sound_iff (inHeap : BreakInHeap heapEnd)
    (increments : List Word) :
    Machine.Admissible sbrk CallSound heapEnd increments ↔
      Machine.Admissible sbrk StaysInHeap heapEnd increments := by
  induction increments generalizing heapEnd with
  | nil => exact Iff.rfl
  | cons incr rest inductionHypothesis =>
      rw [Machine.Admissible, Machine.Admissible, callSound_iff inHeap]
      apply and_congr_right
      intro stays
      obtain ⟨moved, same⟩ := sbrk_of_stays stays
      apply inductionHypothesis
      rw [BreakInHeap, same, moved]
      exact stays

end Runs

/-! ## Blocks -/

/-- The blocks lie between the start of the heap and the break, one apart from
the other. -/
structure HeapInvariant (heap : Heap) : Prop where
  inHeap : BreakInHeap heap.heapEnd
  above : ∀ block ∈ heap.live, heapStart.toNat ≤ block.start.toNat
  below : ∀ block ∈ heap.live, Below (currentBreak heap.heapEnd) block
  apart : heap.live.Pairwise Extent.Disjoint

/-- The blocks that stay are those that end below the new break. -/
theorem HeapInvariant.kept {heap : Heap} (holds : HeapInvariant heap)
    {heapEnd : Address} (inHeap : InHeap heapEnd.toNat) :
    HeapInvariant
      ⟨heapEnd, heap.live.filter fun old => Below heapEnd old⟩ where
  inHeap := by
    rw [BreakInHeap, currentBreak_of_inHeap inHeap]
    exact inHeap
  above := fun block present =>
    holds.above block (List.mem_filter.mp present).1
  below := by
    intro block present
    rw [currentBreak_of_inHeap inHeap]
    exact of_decide_eq_true (List.mem_filter.mp present).2
  apart := holds.apart.filter _

/-- A block that starts where the old break was and ends at the new one. -/
theorem HeapInvariant.granted {heap : Heap} (holds : HeapInvariant heap)
    {block : Extent} (above : heapStart.toNat ≤ block.start.toNat)
    (below : Below (currentBreak heap.heapEnd) block)
    (behind : ∀ old ∈ heap.live, Below block.start old) :
    HeapInvariant ⟨heap.heapEnd, block :: heap.live⟩ where
  inHeap := holds.inHeap
  above := List.forall_mem_cons.mpr ⟨above, holds.above⟩
  below := List.forall_mem_cons.mpr ⟨below, holds.below⟩
  apart := by
    have noWrap : block.NoWrap := by
      have bound := (currentBreak heap.heapEnd).isLt
      unfold Below at below
      unfold Extent.NoWrap
      omega
    refine List.pairwise_cons.mpr ⟨?_, holds.apart⟩
    intro old present
    exact (Extent.disjoint_of_end_le noWrap (behind old present)).symm

/-- A call that stays in the heap keeps the invariant. -/
theorem HeapInvariant.extend (heap : Heap) (incr : Word)
    (stays : StaysInHeap heap.heapEnd incr) (holds : HeapInvariant heap) :
    HeapInvariant (heap.extend incr).1 := by
  obtain ⟨moved, same⟩ := sbrk_of_stays stays
  have inHeap : InHeap (sbrk heap.heapEnd incr).1.toNat := by
    rw [moved]
    exact stays
  have kept := holds.kept inHeap
  simp only [Heap.extend, sbrkBlock]
  split
  · rename_i nonnegative
    refine kept.granted ?_ ?_ ?_
    · have start := holds.inHeap.1
      change heapStart.toNat ≤ (currentBreak heap.heapEnd).toNat
      omega
    · rw [same, Below]
      change (currentBreak heap.heapEnd).toNat + incr.toInt.toNat ≤ _
      omega
    · intro old present
      exact holds.below old (List.mem_filter.mp present).1
  · exact kept

/-- The invariant holds after calls that stay in the heap. -/
theorem heapInvariant_heapAfter {increments : List Word}
    (stay : Machine.Admissible Heap.extend
      (fun heap incr => StaysInHeap heap.heapEnd incr) .initial
      increments) : HeapInvariant (heapAfter increments) := by
  have initially : HeapInvariant .initial :=
    ⟨by unfold BreakInHeap InHeap; decide, by simp [Heap.initial],
      by simp [Heap.initial], by simp [Heap.initial]⟩
  exact Machine.final_invariant_of_admissible Heap.extend
    HeapInvariant.extend initially stay

/-- Blocks of a heap are in RAM. -/
theorem HeapInvariant.inside {heap : Heap} (holds : HeapInvariant heap)
    {block : Extent} (present : block ∈ heap.live) : block.Inside ram := by
  have start : heapStart.toNat = 0x11000000 := by decide
  have low := holds.above block present
  have high := holds.below block present
  have limit := holds.inHeap.2
  unfold Below at high
  unfold ramEnd at limit
  intro address inBlock
  rw [Extent.mem_iff] at inBlock
  rw [mem_ram_iff]
  have offset := BitVec.toNat_sub address block.start
  have bound := address.isLt
  omega

/-- Calls of `_sbrk` are sound, and the blocks apart and in RAM, exactly when
the increments up to each call add up to no less than zero and no more than
48 MiB. -/
theorem heap_stays_iff (increments : List Word) :
    HeapSound increments ↔
      ∀ before, before <+: increments →
        0 ≤ total before ∧ total before ≤ 0x03000000 := by
  have inHeap : BreakInHeap 0 := by
    unfold BreakInHeap InHeap
    decide
  have sums : SumsStay (currentBreak 0).toNat increments ↔
      ∀ before, before <+: increments →
        0 ≤ total before ∧ total before ≤ 0x03000000 := by
    have start : heapStart.toNat = 0x11000000 := by decide
    have first : currentBreak 0 = heapStart := rfl
    unfold SumsStay InHeap ramEnd
    rw [first, start]
    exact forall₂_congr fun before isPrefix => by omega
  rw [← sums]
  constructor
  · intro sound
    rw [← admissible_stays_iff inHeap, ← admissible_sound_iff inHeap]
    exact sound.calls
  · intro stay
    have holds : ∀ before, before <+: increments →
        HeapInvariant (heapAfter before) := by
      intro before isPrefix
      have earlier : SumsStay (currentBreak 0).toNat before :=
        fun first isFirst => stay first (isFirst.trans isPrefix)
      have admissible := (admissible_stays_iff inHeap before).mpr earlier
      exact heapInvariant_heapAfter (Machine.admissible_of_part
        Heap.heapEnd (fun _ _ => rfl) admissible)
    constructor
    · rw [admissible_sound_iff inHeap, admissible_stays_iff inHeap]
      exact stay
    · exact fun before isPrefix => (holds before isPrefix).apart
    · exact fun before isPrefix block present =>
        (holds before isPrefix).inside present

/-- A call for more than RAM has returns the break and moves it out of RAM. -/
theorem sbrk_past_ram : ¬ ∀ increments, HeapSound increments := by
  intro claimed
  have calls := (claimed [0x03000001]).calls
  have outside : ¬ CallSound 0 0x03000001 := by
    unfold CallSound InHeap
    decide
  exact outside calls.1

end Minisys
end GA330
