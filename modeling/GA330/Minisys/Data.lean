import GA330.Library.Placement
import GA330.Minisys.Start

/-!
# The variables of miniSYS

Before anything else, `_start` copies `.data` word by word from flash, where
the linker script has it loaded behind the text, to the start of RAM, where it
is linked; `.bss` behind it is left as RAM is.  So `my_dl`, which is in `.bss`,
holds zeros as long as RAM does.
-/

namespace GA330
namespace Minisys

open ByteMemory Dl

/-- A store of a word. -/
def storeWord (memory : Memory) (p : Address) (word : Word) : Memory :=
  write memory p (wordBytes word)

/-- The loop of `_start` over `.data`; `none` means that it has not ended
within the fuel. -/
def initData (edata : Address) :
    (fuel : Nat) → Memory → (src dst : Address) → Option Memory
  | 0, _, _, _ => none
  | fuel + 1, memory, src, dst =>
      if dst < edata then
        initData edata fuel (storeWord memory dst (loadWord memory src))
          (src + 4) (dst + 4)
      else some memory

/-- Over a whole number of words the loop ends, and has copied the bytes from
a source that is apart from them. -/
theorem initData_copies {edata src dst : Address} {words fuel : Nat}
    (memory : Memory) (ends : dst.toNat + 4 * words = edata.toNat)
    (apart : (⟨src, 4 * words⟩ : Extent).Disjoint ⟨dst, 4 * words⟩)
    (enough : words < fuel) :
    initData edata fuel memory src dst =
      some (write memory dst (read memory src (4 * words))) := by
  induction words generalizing memory src dst fuel with
  | zero =>
      obtain ⟨fuel, rfl⟩ := Nat.exists_eq_add_of_lt enough
      have reached : ¬ dst < edata := by
        rw [BitVec.lt_def]
        omega
      rw [Nat.zero_add, initData, if_neg reached]
      rfl
  | succ words inductionHypothesis =>
      obtain ⟨fuel, rfl⟩ := Nat.exists_eq_add_of_lt enough
      have bound := edata.isLt
      have below : dst < edata := by
        rw [BitVec.lt_def]
        omega
      have next : (dst + 4).toNat + 4 * words = edata.toNat := by
        bv_omega
      have frontInside : ∀ p : Address,
          (⟨p, 4⟩ : Extent).Inside ⟨p, 4 * (words + 1)⟩ :=
        fun p => Extent.inside_of_le (by omega)
      have backInside : ∀ p : Address,
          (⟨p + 4, 4 * words⟩ : Extent).Inside ⟨p, 4 * (words + 1)⟩ :=
        fun p => Extent.inside_of_offset (by change 4 + _ ≤ _; omega)
      have apartLater :
          (⟨src + 4, 4 * words⟩ : Extent).Disjoint
            ⟨dst + 4, 4 * words⟩ :=
        fun address inSource inTarget =>
          apart address (backInside src address inSource)
            (backInside dst address inTarget)
      -- the word just stored is apart from the words that are still to come
      have kept : AgreeOn ⟨src + 4, 4 * words⟩
          (storeWord memory dst (loadWord memory src)) memory := by
        apply agreeOn_write
        intro address inTarget inSource
        exact apart address (backInside src address inSource)
          (frontInside dst address inTarget)
      rw [initData, if_pos below,
        inductionHypothesis _ next apartLater (by omega), read_congr kept,
        storeWord, wordBytes_loadWord]
      rw [show 4 * (words + 1) = 4 + 4 * words by omega, read_add,
        write_append _ _ (by simp only [length_read]; omega)]
      rw [length_read]
      rfl

end Minisys
end GA330
