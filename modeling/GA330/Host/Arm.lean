import GA330.Host.Core

/-!
# A small ARM

An executable emulator library with the few instructions that the sample guests
are made of.  Any other instruction is undefined.
-/

namespace GA330
namespace Host

open ByteMemory

/-- R0 to R15 in order, and memory, of which every address is mapped. -/
structure ArmEngine where
  values : List Word
  bytes : Memory

namespace ArmEngine

/-- The value of a register. -/
def registers (engine : ArmEngine) : Registers :=
  fun register => engine.values.getD register 0

/-- Set a register. -/
def set (engine : ArmEngine) (register : Fin 16) (value : Word) :
    ArmEngine :=
  { engine with values := engine.values.set register value }

/-- Store bytes. -/
def store (engine : ArmEngine) (address : Address) (bytes : List Byte) :
    ArmEngine :=
  { engine with bytes := write engine.bytes address bytes }

/-- The register in four bits of an instruction. -/
def field (instruction : Word) (low : Nat) : Fin 16 :=
  register (instruction >>> low).toNat

/-- The immediate operand: eight bits, rotated. -/
def immediate (instruction : Word) : Word :=
  (instruction &&& 0xFF).rotateRight
    (2 * (instruction >>> 8 &&& 0xF).toNat)

/-- `UC_ERR_INSN_INVALID` -/
def insnInvalid : UcErr := 10

/-- Execute one instruction. -/
def step (engine : ArmEngine) : Interrupt ArmEngine ⊕ ArmEngine :=
  let pc := engine.registers UcRegister.pc.index
  let instruction := loadWord engine.bytes pc
  let next := engine.set UcRegister.pc.index (pc + 4)
  let rn := engine.registers (field instruction 16)
  let rd := field instruction 12
  if instruction >>> 24 = 0xEF then .inl (.raised Thunks.excpSwi next)
  else if instruction >>> 20 = 0xE3A then
    .inr (next.set rd (immediate instruction))
  else if instruction >>> 20 = 0xE28 then
    .inr (next.set rd (rn + immediate instruction))
  else if instruction >>> 20 = 0xE5C ∧ instruction &&& 0xFFF = 0 then
    .inr (next.store rn [(engine.registers rd).setWidth 8])
  else if instruction >>> 20 = 0xE1A ∧ instruction &&& 0xFF0 = 0 then
    .inr (next.set rd (engine.registers (field instruction 0)))
  else .inl (.ended insnInvalid engine)

/-- Execute instructions up to the next interrupt. -/
def run : (fuel : Nat) → ArmEngine → Option (Interrupt ArmEngine)
  | 0, _ => none
  | fuel + 1, engine =>
      match engine.step with
      | .inl interrupt => some interrupt
      | .inr next => run fuel next

end ArmEngine

/-- The emulator library of the sample guests. -/
def armEmulator : Emulator ArmEngine where
  ucOpen := .ok ⟨List.replicate 16 0, fun _ => 0⟩
  perform engine call :=
    match call with
    | .memWrite address bytes => (ucErrOk, engine.store address bytes)
    | _ => (ucErrOk, engine)
  registers := ArmEngine.registers
  regWrite engine register value := engine.set register.index value
  memory engine := ⟨engine.bytes, fun _ => true⟩
  resume := ArmEngine.run 16

/-- A miniSYS that jumps to the game: `mov pc, r0`. -/
def jumpMinisys : List Byte :=
  wordBytes 0xE1A0F000 ++ List.replicate 0x3FFFC 0

/-- A host that grants nothing, and on which no button is pressed. -/
def idleHost (_ : Nat) : HostAnswer where
  granted := false
  garbage := fun _ => 0
  garbageW := fun _ => 0
  fresh := fun _ => 0
  pressed := fun _ => false
  clock := 0

/-- What the host decides for the sample guests. -/
def idleInput : HostInput := ⟨4, idleHost⟩

/-- A game of these instructions. -/
def armGame (instructions : List Word) : Game where
  supported := true
  rom := instructions.flatMap wordBytes
  msbuffer := jumpMinisys
  input := idleInput

/-- A game that counts its frames in the first byte of the frame buffer:
`mov r3, #0x80000000`, `svc 9`, and for each frame `add r2, r2, #1`,
`strb r2, [r3]` and `svc 9`. -/
def countingGame : Game :=
  armGame [0xE3A03102, 0xEF000009, 0xE2822001, 0xE5C32000, 0xEF000009,
    0xE2822001, 0xE5C32000, 0xEF000009]

end Host
end GA330
