import GA330.Library.ByteMemory

/-!
# Guest memory as the host sees it

The emulator maps some of the guest's 32-bit address space.  The host reads
and writes it through `uc_mem_read` and `uc_mem_write`, which transfer nothing
unless the whole range is mapped; the range does not wrap, because the host
passes 64-bit addresses.
-/

namespace GA330
namespace Host

open ByteMemory

/-- Contents of the guest's address space and the part of it that is
mapped. -/
structure GuestMemory where
  bytes : Memory
  mapped : Address → Bool

namespace GuestMemory

/-- The whole range is mapped. -/
def rangeMapped (memory : GuestMemory) (address : Address) (count : Nat) :
    Bool :=
  decide (address.toNat + count ≤ 2 ^ 32) &&
    (List.range count).all fun index =>
      memory.mapped (address + BitVec.ofNat 32 index)

/-- `uc_mem_read`; `none` is an error code. -/
def ucMemRead (memory : GuestMemory) (address : Address) (count : Nat) :
    Option (List Byte) :=
  if memory.rangeMapped address count then
    some (read memory.bytes address count)
  else none

/-- `uc_mem_write`; `none` is an error code. -/
def ucMemWrite (memory : GuestMemory) (address : Address)
    (bytes : List Byte) : Option GuestMemory :=
  if memory.rangeMapped address bytes.length then
    some { memory with bytes := write memory.bytes address bytes }
  else none

theorem ucMemRead_of_mapped {memory : GuestMemory} {address : Address}
    {count : Nat} (mapped : memory.rangeMapped address count = true) :
    memory.ucMemRead address count =
      some (read memory.bytes address count) :=
  if_pos mapped

theorem ucMemRead_eq_some {memory : GuestMemory} {address : Address}
    {count : Nat} {bytes : List Byte}
    (success : memory.ucMemRead address count = some bytes) :
    memory.rangeMapped address count = true ∧
      read memory.bytes address count = bytes := by
  unfold ucMemRead at success
  split at success
  · rename_i mapped
    exact ⟨mapped, Option.some.inj success⟩
  · contradiction

/-- A shorter range from the same start is mapped too. -/
theorem rangeMapped_of_le {memory : GuestMemory} {address : Address}
    {small large : Nat}
    (mapped : memory.rangeMapped address large = true) (le : small ≤ large) :
    memory.rangeMapped address small = true := by
  simp only [rangeMapped, Bool.and_eq_true, decide_eq_true_eq,
    List.all_eq_true, List.mem_range] at mapped ⊢
  exact ⟨by omega, fun index bound =>
    mapped.2 index (lt_of_lt_of_le bound le)⟩

end GuestMemory

end Host
end GA330
