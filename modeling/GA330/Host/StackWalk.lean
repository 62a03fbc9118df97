import GA330.Host.Api
import GA330.Library.Consumer

/-!
# The stack walk of the panic handler

`aarch32_walk_stack` of `debug.cpp` gives PC, LR and every word on the stack
that could be a return address to a callback, which may ask it to stop.  The
first two calls ignore the answer.
-/

namespace GA330
namespace Host

open ByteMemory Consumer

section Code

variable {State : Type u}
variable (readMem32 : Address → Option Word) (isCodeAddress : Word → Bool)
variable (callback : State → Word → State × Bool)

/-- The loop of `aarch32_walk_stack` with so many rounds left.  The trace holds
the addresses that the callback was given. -/
def walkFrom : (remaining : Nat) → (sp : Address) → State →
    Traced Word State
  | 0, _, state => pure state
  | remaining + 1, sp, state =>
      match readMem32 sp with
      | none => pure state
      | some rd =>
          if isCodeAddress rd then do
            let given ← give callback state rd
            if given.2 then walkFrom remaining (sp + 4) given.1
            else pure given.1
          else walkFrom remaining (sp + 4) state

/-- `aarch32_walk_stack` -/
def aarch32WalkStack (pc lr : Word) (sp : Address) (state : State) :
    Traced Word State := do
  let atPc ← give callback state pc
  let atLr ← give callback atPc.1 lr
  walkFrom readMem32 isCodeAddress callback 1024 sp atLr.1

/-! ## The reference -/

/-- The words at `sp`, `sp + 4`, … before the first that cannot be read, at
most `limit` of them. -/
def stackWords (limit : Nat) (sp : Address) : List Word :=
  (((List.range limit).map fun i =>
    readMem32 (sp + BitVec.ofNat 32 (4 * i))).takeWhile
      Option.isSome).filterMap id

/-- The addresses that a walk is about: PC, LR, and the words on the stack that
are code addresses. -/
def candidates (pc lr : Word) (sp : Address) : List Word :=
  pc :: lr :: (stackWords readMem32 1024 sp).filter isCodeAddress

/-! ## The loop -/

variable {readMem32}

theorem stackWords_succ_of_some {sp : Address} {rd : Word}
    (readable : readMem32 sp = some rd) (limit : Nat) :
    stackWords readMem32 (limit + 1) sp =
      rd :: stackWords readMem32 limit (sp + 4) := by
  have shifted : ∀ i : Nat, sp + BitVec.ofNat 32 (4 * (i + 1)) =
      sp + 4 + BitVec.ofNat 32 (4 * i) := by
    intro i
    bv_omega
  simp only [stackWords, List.range_succ_eq_map, List.map_cons,
    List.map_map, Function.comp_def, Nat.succ_eq_add_one, shifted]
  simp [readable]

theorem stackWords_succ_of_none {sp : Address}
    (unreadable : readMem32 sp = none) (limit : Nat) :
    stackWords readMem32 (limit + 1) sp = [] := by
  simp [stackWords, List.range_succ_eq_map, unreadable]

/-- The loop feeds the callback the code addresses among the words. -/
theorem walkFrom_eq_feed (remaining : Nat) (sp : Address) (state : State) :
    walkFrom readMem32 isCodeAddress callback remaining sp state =
      feed callback state
        ((stackWords readMem32 remaining sp).filter isCodeAddress) := by
  induction remaining generalizing sp state with
  | zero => rfl
  | succ remaining inductionHypothesis =>
      rw [walkFrom]
      cases readable : readMem32 sp with
      | none =>
          rw [stackWords_succ_of_none readable]
          rfl
      | some rd =>
          rw [stackWords_succ_of_some readable]
          dsimp only
          by_cases code : isCodeAddress rd = true
          · simp only [code, if_true, List.filter_cons_of_pos, feed,
              inductionHypothesis]
          · rw [if_neg code, List.filter_cons_of_neg code,
              inductionHypothesis]

/-- PC and LR are given to the callback whatever it answers. -/
theorem aarch32WalkStack_trace (pc lr : Word) (sp : Address)
    (state : State) :
    (aarch32WalkStack readMem32 isCodeAddress callback pc lr sp
        state).trace =
      pc :: lr :: (feed callback (callback (callback state pc).1 lr).1
        ((stackWords readMem32 1024 sp).filter isCodeAddress)).trace := by
  simp [aarch32WalkStack, walkFrom_eq_feed]

/-- The callback is given the candidates up to the first that it declines
exactly when it accepts PC, and accepts LR unless LR is the last candidate. -/
theorem walk_matches_iff (pc lr : Word) (sp : Address) (state : State) :
    (aarch32WalkStack readMem32 isCodeAddress callback pc lr sp
          state).trace =
        (feed callback state
          (candidates readMem32 isCodeAddress pc lr sp)).trace ↔
      (callback state pc).2 = true ∧
        ((callback (callback state pc).1 lr).2 = true ∨
          (stackWords readMem32 1024 sp).filter isCodeAddress = []) := by
  rw [aarch32WalkStack_trace, candidates]
  cases atPc : (callback state pc).2 with
  | false => simp [feed_cons_of_declined atPc]
  | true =>
      rw [feed_cons_of_accepted atPc]
      cases atLr : (callback (callback state pc).1 lr).2 with
      | false => simp [feed_cons_of_declined atLr, feed_trace_eq_nil_iff]
      | true => simp [feed_cons_of_accepted atLr]

end Code

/-- A callback that wants nothing more after PC is given LR all the same. -/
theorem stopped_walk_goes_on :
    ¬ ∀ (State : Type) (readMem32 : Address → Option Word)
      (isCodeAddress : Word → Bool) (callback : State → Word → State × Bool)
      (pc lr : Word) (sp : Address) (state : State),
      (aarch32WalkStack readMem32 isCodeAddress callback pc lr sp
          state).trace =
        (feed callback state
          (candidates readMem32 isCodeAddress pc lr sp)).trace := by
  intro claimed
  have matched := claimed Unit (fun _ => none) (fun _ => false)
    (fun _ _ => ((), false)) 0x20000000 0x10000000 0x1FFFFFF0 ()
  rw [aarch32WalkStack_trace, candidates, feed_cons_of_declined rfl]
    at matched
  simp at matched

/-! ## The panic handler -/

/-- How the panic handler reads a word of guest memory. -/
def readMem32 (memory : GuestMemory) (address : Address) : Option Word :=
  (memory.ucMemRead address 4).map fun _ => loadWord memory.bytes address

/-- Addresses of the application and of miniSYS. -/
def isCodeAddress (address : Word) : Bool :=
  (decide (0x10000000 ≤ address) && decide (address < 0x14000000)) ||
    (decide (0x20000000 ≤ address) && decide (address < 0x20040000))

/-- `Svc_GemeiEmu_panic`: the addresses of the stack trace that it prints.  Its
callback always asks for more. -/
def svcPanic (registers : Registers) (memory : GuestMemory) :
    Traced Word Unit :=
  aarch32WalkStack (readMem32 memory) isCodeAddress (fun _ _ => ((), true))
    (registers (register 15)) (registers (register 14))
    (registers (register 13)) ()

/-- The panic handler prints every candidate. -/
theorem svcPanic_trace (registers : Registers) (memory : GuestMemory) :
    (svcPanic registers memory).trace =
      candidates (readMem32 memory) isCodeAddress (registers (register 15))
        (registers (register 14)) (registers (register 13)) := by
  rw [svcPanic, aarch32WalkStack_trace, feed_of_tireless fun _ _ => rfl]
  rfl

end Host
end GA330
