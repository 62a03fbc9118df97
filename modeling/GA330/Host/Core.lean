import GA330.Host.Api
import GA330.Host.Session
import GA330.Thunks.Dispatch

/-!
# The libretro core

The `retro_…` functions of `libretro-main.cpp` over the session of `ccdl.cpp`,
now with the handlers that the guest's supervisor calls reach.  All state is in
static variables: the engine and `aborted`, the file table and its buffer, the
frame buffer and the two coordinates that a save state holds.  The emulator
library is a parameter, and so is what the host answers to each call of the
guest: the buttons, the clock, and whether a file may be opened.
-/

namespace GA330
namespace Host

open ByteMemory

/-! ## The emulator library -/

/-- The number of a register. -/
def UcRegister.index : UcRegister → Fin 16
  | .r0 => register 0
  | .r1 => register 1
  | .sp => register 13
  | .pc => register 15

/-- What ends a stretch of guest code: an exception that `hook_intr` is told
of, or an error. -/
inductive Interrupt (Engine : Type u)
  | raised (intno : Nat) (engine : Engine)
  | ended (err : UcErr) (engine : Engine)

/-- The emulator library, with the registers and the memory of an engine.
`resume` runs guest code up to the next interrupt. -/
structure Emulator (Engine : Type u) where
  ucOpen : Except UcErr Engine
  perform : Engine → UcCall → UcErr × Engine
  registers : Engine → Registers
  regWrite : Engine → UcRegister → Word → Engine
  memory : Engine → GuestMemory
  resume : Engine → Option (Interrupt Engine)

/-! ## Handlers -/

/-- Buttons that `get_keypad_state` asks for. -/
inductive Button
  | a
  | b
  | x
  | up
  | down
  | left
  | right
  deriving DecidableEq

/-- What the host leaves to chance in one supervisor call. -/
structure HostAnswer where
  granted : Bool
  garbage : Nat → Byte
  garbageW : Nat → BitVec 16
  fresh : Nat → Byte
  pressed : Button → Bool
  clock : Int

/-- The entries of `svc_handler_table`. -/
inductive EmuHandler
  | file (handler : FileHandler)
  | getKeyPad
  | getTimeMs
  | newFrame
  | panic
  | putc
  | sleepMs
  deriving DecidableEq

/-- `svc_handler_table`, in the order of the EMU rows of `api.csv`. -/
def svcHandlerTable : List EmuHandler :=
  [.file .fclose, .file .fopen, .file .fopenW, .file .fread, .file .fseek,
    .file .ftell, .file .fwrite, .getKeyPad, .getTimeMs, .newFrame, .panic,
    .putc, .sleepMs]

/-- Whether the handler stops the emulation. -/
def EmuHandler.kind : EmuHandler → SvcHandler
  | .newFrame => .newFrame
  | .panic => .panic
  | _ => .other

/-- `get_keypad_state` -/
def getKeypadState (pressed : Button → Bool) : Word :=
  (if pressed .a then 0x80000000 else 0) |||
    (if pressed .b then 0x00008000 else 0) |||
    (if pressed .x then 0x20000000 else 0) |||
    (if pressed .up then 0x00100000 else 0) |||
    (if pressed .down then 0x08000000 else 0) |||
    (if pressed .left then 0x10000000 else 0) |||
    (if pressed .right then 0x00040000 else 0)

/-- `CLOCKS_PER_SEC` -/
def clocksPerSec : Int := 1000000

/-- What `Svc_GemeiEmu_getTimeMs` returns. -/
def timeMs (clock : Int) : Word :=
  BitVec.ofInt 32 ((clock * 1000).tdiv clocksPerSec)

/-- A guest in its engine, with the state that the handlers use.  `served`
counts the supervisor calls, and `executed` holds the engine at each of
them. -/
structure Hosted (Engine : Type u) where
  engine : Engine
  files : FileState
  served : Nat
  executed : List Engine

section Code

variable {Engine : Type u} (emulator : Emulator Engine)

/-- The file call that an engine makes. -/
def fileCall (answer : HostAnswer) (engine : Engine)
    (handler : FileHandler) : FileCall where
  handler := handler
  registers := emulator.registers engine
  memory := emulator.memory engine
  granted := answer.granted
  garbage := answer.garbage
  garbageW := answer.garbageW
  fresh := answer.fresh

/-- The engine after a file call.  Only `Svc_GemeiEmu_fread` writes guest
memory, and what it cannot write is ignored. -/
def answered (call : FileCall) (answer : FileAnswer) (engine : Engine) :
    Engine :=
  let stored :=
    match call.handler with
    | .fread =>
        (emulator.perform engine
          (.memWrite call.buffer answer.transferred)).2
    | _ => engine
  emulator.regWrite stored .r0 answer.result

/-- `svc_handler_table[num](uc)`: the engine and the file state afterwards. -/
def svcHandle (answer : HostAnswer) (engine : Engine) (files : FileState) :
    EmuHandler → Option (Engine × FileState)
  | .file handler =>
      let call := fileCall emulator answer engine handler
      match svcFile files call with
      | (after, some result) =>
          some (answered emulator call result engine, after)
      | (_, none) => none
  | .getKeyPad =>
      some (emulator.regWrite engine .r0 (getKeypadState answer.pressed),
        files)
  | .getTimeMs =>
      some (emulator.regWrite engine .r0 (timeMs answer.clock), files)
  | .newFrame => some (engine, files)
  | .panic => some (engine, files)
  | .putc => some (engine, files)
  | .sleepMs => some (engine, files)

/-- The entry that `hook_intr` calls; `none` is outside the table. -/
def calledHandler (intno : Nat) (engine : Engine) : Option EmuHandler :=
  svcHandlerTable[Thunks.hookIntr (emulator.memory engine) intno
    (emulator.registers engine UcRegister.pc.index)]?

/-- The emulator with its hooks.  There is no event when the hook leaves its
table or the behaviour of a handler is undefined. -/
def hosted (host : Nat → HostAnswer) (files : FileState) :
    Unicorn (Hosted Engine) where
  ucOpen :=
    match emulator.ucOpen with
    | .error err => .error err
    | .ok opened => .ok ⟨opened, files, 0, []⟩
  perform state call :=
    let (err, engine) := emulator.perform state.engine call
    (err, { state with engine := engine })
  regRead state register := emulator.registers state.engine register.index
  regWrite state register value :=
    { state with engine := emulator.regWrite state.engine register value }
  resume state :=
    match emulator.resume state.engine with
    | none => none
    | some (.ended err engine) =>
        some (.ended err { state with engine := engine })
    | some (.raised intno engine) =>
        match calledHandler emulator intno engine with
        | none => none
        | some handler =>
            match svcHandle emulator (host state.served) engine state.files
                handler with
            | none => none
            | some (after, files) =>
                some (.svc handler.kind ⟨after, files, state.served + 1,
                  state.executed ++ [engine]⟩)

/-! ## The core -/

/-- `320 * 240 * 2`, the bytes of a frame. -/
def frameBytes : Nat := 153600

/-- `FRAMEBUF_ADDR` -/
def framebufAddr : Address := 0x80000000

/-- The static variables. -/
structure Core (Engine : Type u) where
  session : Session Engine
  files : FileState
  frameBuf : List Byte
  xCoord : Word
  yCoord : Word

/-- The process after `retro_init`, with the files that it finds. -/
def Core.initial (files : HostFiles) : Core Engine where
  session := Session.initial
  files := ⟨Filesystem.initial files, ⟨0, fun _ => 0⟩⟩
  frameBuf := List.replicate frameBytes 0
  xCoord := 0
  yCoord := 0

/-- An engine with the file state, before the guest makes a call. -/
def Core.hostedEngine (core : Core Engine) (engine : Engine) :
    Hosted Engine :=
  ⟨engine, core.files, 0, []⟩

/-- The session with the file state in its engine. -/
def Core.hostedSession (core : Core Engine) : Session (Hosted Engine) :=
  ⟨core.session.uc.map core.hostedEngine, core.session.aborted⟩

/-- The core after the session went on. -/
def Core.resumed (core : Core Engine) (session : Session (Hosted Engine)) :
    Core Engine :=
  { core with
    session := ⟨session.uc.map Hosted.engine, session.aborted⟩
    files := (session.uc.map Hosted.files).getD core.files }

/-- What the host decides during a call that runs the guest. -/
structure HostInput where
  fuel : Nat
  host : Nat → HostAnswer

/-- A game to be loaded: whether the frontend supports the pixel format, the
two files, and what the host decides while the game starts. -/
structure Game where
  supported : Bool
  rom : List Byte
  msbuffer : List Byte
  input : HostInput

/-- `load_rom` -/
def Core.loadRom (core : Core Engine) (game : Game) :
    Core Engine × LoadRomResult (Hosted Engine) :=
  let (session, result) :=
    Host.loadRom (hosted emulator game.input.host core.files)
      game.input.fuel game.rom game.msbuffer core.hostedSession
  (core.resumed session, result)

/-- `ccdl_run_frame` -/
def Core.runFrame (core : Core Engine) (input : HostInput) :
    Core Engine × FrameResult (Hosted Engine) :=
  let (session, result) :=
    ccdlRunFrame (hosted emulator input.host core.files) core.hostedSession
      input.fuel
  (core.resumed session, result)

/-- `ccdl_get_framebuffer`: the bytes that it stores, if it stores any. -/
def Core.framebuffer (core : Core Engine) : Option (List Byte) :=
  core.session.uc.bind fun engine =>
    (emulator.memory engine).ucMemRead framebufAddr frameBytes

/-- The call of `ccdl_run_frame` returns. -/
def FrameResult.returns : FrameResult (Hosted Engine) → Bool
  | .skipped => true
  | .crashed => false
  | .started emulated => emulated.isSome

/-- `retro_run`: the frame that is shown; `none` means that the call does not
return. -/
def retroRun (core : Core Engine) (input : HostInput) :
    Core Engine × Option (List Byte) :=
  let (after, result) := core.runFrame emulator input
  if result.returns && after.session.uc.isSome then
    let frameBuf := (after.framebuffer emulator).getD after.frameBuf
    ({ after with frameBuf := frameBuf }, some frameBuf)
  else (after, none)

/-- `retro_load_game`: what it returns, whatever `load_rom` does. -/
def retroLoadGame (core : Core Engine) (game : Game) :
    Core Engine × Option Bool :=
  if game.supported then
    let (after, result) := core.loadRom emulator game
    (after, result.code.map fun _ => true)
  else (core, some false)

/-- `retro_reset` -/
def retroReset (core : Core Engine) : Core Engine :=
  { core with xCoord := 0, yCoord := 0 }

/-- `retro_unload_game` -/
def retroUnloadGame (core : Core Engine) : Core Engine := core

/-! ## Save states -/

/-- `retro_serialize_size` -/
def retroSerializeSize : Nat := 2

/-- `retro_serialize`: the buffer afterwards; `none` is `false`. -/
def retroSerialize (core : Core Engine) (buffer : List Byte) :
    Option (List Byte) :=
  if buffer.length < 2 then none
  else
    some ((buffer.set 0 (core.xCoord.setWidth 8)).set 1
      (core.yCoord.setWidth 8))

/-- `retro_unserialize`; `none` is `false`. -/
def retroUnserialize (core : Core Engine) : List Byte → Option (Core Engine)
  | x :: y :: _ =>
      some { core with
        xCoord := (x &&& 31).setWidth 32
        yCoord := (y &&& 31).setWidth 32 }
  | _ => none

/-! ## Runs -/

/-- A call of the frontend. -/
inductive RetroCall
  | loadGame (game : Game)
  | run (input : HostInput)
  | reset
  | unloadGame

/-- The core after a call that returns. -/
def retroCall (core : Core Engine) : RetroCall → Option (Core Engine)
  | .loadGame game =>
      (retroLoadGame emulator core game).2.map fun _ =>
        (retroLoadGame emulator core game).1
  | .run input =>
      (retroRun emulator core input).2.map fun _ =>
        (retroRun emulator core input).1
  | .reset => some (retroReset core)
  | .unloadGame => some (retroUnloadGame core)

/-- The core after calls that all return, in a process that finds the
files. -/
def history (files : HostFiles) (calls : List RetroCall) :
    Option (Core Engine) :=
  calls.foldlM (retroCall emulator) (Core.initial files)

end Code

/-! ## What a frame depends on -/

section Frames

variable {Engine : Type u} {emulator : Emulator Engine}
variable {left right : Core Engine}

/-- Two cores agree on the engine, `aborted` and the file state. -/
structure Core.SameMachine (left right : Core Engine) : Prop where
  session : left.session = right.session
  files : left.files = right.files

theorem Core.SameMachine.resumed (same : left.SameMachine right)
    (session : Session (Hosted Engine)) :
    (left.resumed session).SameMachine (right.resumed session) := by
  refine ⟨rfl, ?_⟩
  simp only [Core.resumed, same.files]

/-- A frame of cores that agree is the same. -/
theorem Core.SameMachine.runFrame (same : left.SameMachine right)
    (input : HostInput) :
    (left.runFrame emulator input).1.SameMachine
        (right.runFrame emulator input).1 ∧
      (left.runFrame emulator input).2 =
        (right.runFrame emulator input).2 := by
  have sameEngine : left.hostedEngine = right.hostedEngine := by
    funext engine
    rw [Core.hostedEngine, Core.hostedEngine, same.files]
  have sameSession : left.hostedSession = right.hostedSession := by
    rw [Core.hostedSession, Core.hostedSession, same.session, sameEngine]
  simp only [Core.runFrame, sameSession, same.files]
  exact ⟨same.resumed _, trivial⟩

/-- They have the same frame buffer. -/
theorem Core.SameMachine.framebuffer (same : left.SameMachine right) :
    left.framebuffer emulator = right.framebuffer emulator := by
  rw [Core.framebuffer, Core.framebuffer, same.session]

/-- A call of `retro_run` that returns, after its frame. -/
theorem retroRun_returned {core after : Core Engine} {input : HostInput}
    {result : FrameResult (Hosted Engine)}
    (frame : core.runFrame emulator input = (after, result))
    (returns : result.returns = true)
    (present : after.session.uc.isSome = true) :
    retroRun emulator core input =
      ({ after with
          frameBuf := (after.framebuffer emulator).getD after.frameBuf },
        some ((after.framebuffer emulator).getD after.frameBuf)) := by
  simp only [retroRun, frame, returns, present, Bool.and_self, if_true]

end Frames

end Host
end GA330
