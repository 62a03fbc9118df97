import GA330.Host.Aborted
import GA330.Host.SaveState

/-!
# The frontend

`libretro-main.cpp` keeps what the frontend registers in function pointers, and
the picture in a buffer that `retro_init` allocates and `retro_deinit` frees.
It calls and fills them without a check, and relies on what `libretro.h`
promises of the order of the calls.  In every such order the pointers can be
forgotten, and what the process does is what its core does, unless a game asks
for the buttons while it is being loaded by a frontend that registers
`input_state` later, as it may.  The machine behind it all depends on the games
that are loaded and the frames that are run, and on nothing else: the process
cannot be started anew from outside.
-/

namespace GA330
namespace Host

open ByteMemory

/-! ## What the frontend registers -/

/-- The function pointers. -/
inductive Slot
  | log
  | environment
  | videoRefresh
  | audioSample
  | audioSampleBatch
  | inputPoll
  | inputState
  deriving DecidableEq

/-- Commands for the environment function. -/
inductive EnvironmentCommand
  | setSupportNoGame (noContent : Bool)
  | getLogInterface
  | setPixelFormat (format : Nat)
  | getVariableUpdate

/-- A call of a function that the frontend has registered. -/
inductive Message
  | log (text : String)
  | environment (command : EnvironmentCommand)
  | videoRefresh (data : Option (List Byte)) (width height pitch : Nat)
  | audioSample (left right : Int)
  | inputPoll
  | inputState (port device index id : Nat)

/-- The pointer through which it is made. -/
def Message.slot : Message → Slot
  | .log _ => .log
  | .environment _ => .environment
  | .videoRefresh _ _ _ _ => .videoRefresh
  | .audioSample _ _ => .audioSample
  | .inputPoll => .inputPoll
  | .inputState _ _ _ _ => .inputState

/-- `RETRO_PIXEL_FORMAT_RGB565` -/
def retroPixelFormatRgb565 : Nat := 2

/-- `RETRO_DEVICE_JOYPAD` -/
def retroDeviceJoypad : Nat := 1

/-- `RETRO_DEVICE_ID_JOYPAD_UP` -/
def retroDeviceIdJoypadUp : Nat := 4

/-- `struct retro_game_info`: the contents of the file that `path` names, if
it can be read. -/
structure GameInfo where
  rom : Option (List Byte)

/-- What `retro_load_game` is given and finds: whether the frontend supports
the pixel format, the game, the contents of `MINISYS_BIN`, and what the host
decides while the game starts. -/
structure LoadInput where
  supported : Bool
  info : Option GameInfo
  msbuffer : Option (List Byte)
  input : HostInput

/-- The game, if nothing that it takes is missing. -/
def LoadInput.game (load : LoadInput) : Option Game :=
  match load.info with
  | some ⟨some rom⟩ =>
      load.msbuffer.map fun msbuffer =>
        ⟨load.supported, rom, msbuffer, load.input⟩
  | _ => none

theorem LoadInput.game_supported {load : LoadInput} {game : Game}
    (complete : load.game = some game) :
    game.supported = load.supported := by
  unfold LoadInput.game at complete
  split at complete
  · obtain ⟨msbuffer, _, rfl⟩ := Option.map_eq_some_iff.mp complete
    rfl
  · contradiction

/-- A call of the frontend. -/
inductive ApiCall (Callback : Type v)
  | setEnvironment (callback : Callback) (logging : Option Callback)
  | setVideoRefresh (callback : Callback)
  | setAudioSample (callback : Callback)
  | setAudioSampleBatch (callback : Callback)
  | setInputPoll (callback : Callback)
  | setInputState (callback : Callback)
  | init
  | deinit
  | setControllerPortDevice (port device : Nat)
  | loadGame (load : LoadInput)
  | loadGameSpecial (type : Nat) (load : LoadInput) (num : Nat)
  | run (input : HostInput)
  | reset
  | serialize (buffer : List Byte)
  | unserialize (data : List Byte)
  | unloadGame

/-! ## The order that is promised -/

section Order

variable {Callback : Type v}

/-- The pointers that the call sets; what to log with comes with the
environment. -/
def ApiCall.registers : ApiCall Callback → List Slot
  | .setEnvironment _ _ => [.environment, .log]
  | .setVideoRefresh _ => [.videoRefresh]
  | .setAudioSample _ => [.audioSample]
  | .setAudioSampleBatch _ => [.audioSampleBatch]
  | .setInputPoll _ => [.inputPoll]
  | .setInputState _ => [.inputState]
  | _ => []

/-- How far the frontend has come. -/
structure Phase where
  registered : Slot → Bool
  initialized : Bool
  loaded : Bool

/-- Nothing has been called. -/
def Phase.start : Phase := ⟨fun _ => false, false, false⟩

/-- All pointers are set. -/
def Phase.ready (phase : Phase) : Bool :=
  phase.registered .videoRefresh && phase.registered .audioSample &&
    phase.registered .audioSampleBatch && phase.registered .inputPoll &&
      phase.registered .inputState

/-- What `libretro.h` promises of the calls before has been kept: the
environment comes before `retro_init`, and that before the core is used; all
pointers are set and a game is loaded before `retro_run`; and the game is
unloaded before `retro_deinit`. -/
def Phase.allows (phase : Phase) : ApiCall Callback → Bool
  | .init => phase.registered .environment
  | .deinit => !phase.loaded
  | .setControllerPortDevice _ _ => phase.initialized
  | .loadGame _ => phase.initialized
  | .loadGameSpecial _ _ _ => phase.initialized
  | .run _ => phase.loaded && phase.ready
  | _ => true

/-- `retro_load_game_special` goes on to `retro_load_game`. -/
def isSpecial (type num : Nat) : Bool :=
  decide (type = 0x200) && decide (num = 2)

/-- How far it has come after a call; a load that returns has succeeded when
the pixel format is supported. -/
def Phase.next (phase : Phase) (call : ApiCall Callback) : Phase where
  registered := fun slot =>
    phase.registered slot || decide (slot ∈ call.registers)
  initialized :=
    match call with
    | .init => true
    | .deinit => false
    | _ => phase.initialized
  loaded :=
    match call with
    | .loadGame load => load.supported
    | .loadGameSpecial type load num => isSpecial type num && load.supported
    | .unloadGame => false
    | _ => phase.loaded

/-- Calls in an order that `libretro.h` promises. -/
def Conforms (calls : List (ApiCall Callback)) : Prop :=
  Machine.Admissible (fun phase call => (Phase.next phase call, ()))
    (fun phase call => Phase.allows phase call = true) Phase.start calls

instance (calls : List (ApiCall Callback)) : Decidable (Conforms calls) :=
  Machine.Admissible.decidable _ _ _

end Order

/-! ## The process -/

/-- The static variables: those of the core, whether `frame_buf` is allocated,
and the function pointers. -/
structure Process (Engine : Type u) (Callback : Type v) where
  core : Core Engine
  allocated : Bool
  callbacks : Slot → Option Callback

/-- What has been called through the pointers by `libretro-main.cpp` itself,
outside of the emulation. -/
abbrev Trace (Callback : Type v) := List (Callback × Message)

section Code

variable {Engine : Type u} {Callback : Type v}
variable (emulator : Emulator Engine) (fallbackLog : Callback)

/-- The next thing that the guest does is to ask for the buttons. -/
def Emulator.asksNow (engine : Engine) : Bool :=
  match emulator.resume engine with
  | some (.raised intno after) =>
      decide (calledHandler emulator intno after = some .getKeyPad)
  | _ => false

/-- The library in a process that `get_keypad_state` crashes, because
`input_state_cb` is null: nothing follows a guest's call for the buttons. -/
def Emulator.withoutInput : Emulator Engine :=
  { emulator with
    resume := fun engine =>
      if emulator.asksNow engine then none else emulator.resume engine }

namespace Process

variable (process : Process Engine Callback)

/-- The process when nothing has been called. -/
def initial (files : HostFiles) : Process Engine Callback where
  core := Core.initial files
  allocated := false
  callbacks := fun _ => none

/-- Set a pointer. -/
def register (slot : Slot) (callback : Callback) : Process Engine Callback :=
  { process with
    callbacks := Function.update process.callbacks slot (some callback) }

/-- Call through a pointer, unless it is null. -/
def invoke (message : Message) : Option (Callback × Message) :=
  (process.callbacks message.slot).map fun callback => (callback, message)

/-- `retro_set_environment`; `logging` is the frontend's log interface, if it
has one. -/
def retroSetEnvironment (callback : Callback) (logging : Option Callback) :
    Process Engine Callback × Trace Callback :=
  ((process.register .environment callback).register .log
      (logging.getD fallbackLog),
    [(callback, .environment (.setSupportNoGame false)),
      (callback, .environment .getLogInterface)])

/-- `retro_set_video_refresh` -/
def retroSetVideoRefresh (callback : Callback) : Process Engine Callback :=
  process.register .videoRefresh callback

/-- `retro_set_audio_sample` -/
def retroSetAudioSample (callback : Callback) : Process Engine Callback :=
  process.register .audioSample callback

/-- `retro_set_audio_sample_batch` -/
def retroSetAudioSampleBatch (callback : Callback) :
    Process Engine Callback :=
  process.register .audioSampleBatch callback

/-- `retro_set_input_poll` -/
def retroSetInputPoll (callback : Callback) : Process Engine Callback :=
  process.register .inputPoll callback

/-- `retro_set_input_state` -/
def retroSetInputState (callback : Callback) : Process Engine Callback :=
  process.register .inputState callback

/-- `retro_init` -/
def retroInit : Process Engine Callback :=
  { process with
    core := { process.core with frameBuf := List.replicate frameBytes 0 }
    allocated := true }

/-- `retro_deinit` -/
def retroDeinit : Process Engine Callback :=
  { process with allocated := false }

/-- `retro_set_controller_port_device` -/
def retroSetControllerPortDevice (port device : Nat) :
    Option (Process Engine Callback × Trace Callback) :=
  (process.invoke (.log ("Plugging device " ++ toString device ++
    " into port " ++ toString port ++ ".\n"))).map fun logged =>
      (process, [logged])

/-- The library that runs the guest. -/
def library : Emulator Engine :=
  if (process.callbacks .inputState).isSome then emulator
  else emulator.withoutInput

/-- `retro_load_game`, with what it returns. -/
def retroLoadGame (load : LoadInput) :
    Option (Process Engine Callback × Bool × Trace Callback) :=
  (process.invoke
    (.environment (.setPixelFormat retroPixelFormatRgb565))).bind fun asked =>
      if load.supported then
        load.game.bind fun game =>
          let (core, result) :=
            Host.retroLoadGame (process.library emulator) process.core game
          result.map fun value =>
            ({ process with core := core }, value, [asked])
      else
        (process.invoke (.log "RGB565 is not supported.\n")).map fun logged =>
          (process, false, [asked, logged])

/-- `retro_load_game_special`: the game is not passed on. -/
def retroLoadGameSpecial (type : Nat) (load : LoadInput) (num : Nat) :
    Option (Process Engine Callback × Bool × Trace Callback) :=
  if isSpecial type num then
    process.retroLoadGame emulator { load with info := none }
  else some (process, false, [])

/-- `update_input` -/
def updateInput : Option (Trace Callback) :=
  (process.invoke .inputPoll).bind fun polled =>
    (process.invoke (.inputState 0 retroDeviceJoypad 0
      retroDeviceIdJoypadUp)).map fun up => [polled, up]

/-- `ccdl_get_framebuffer(frame_buf)`, and what `frame_buf` points to
afterwards; no bytes can be stored through a null pointer. -/
def getFramebuffer :
    Option (Process Engine Callback × Option (List Byte)) :=
  match process.core.framebuffer emulator with
  | some bytes =>
      if process.allocated then
        some ({ process with
          core := { process.core with frameBuf := bytes } }, some bytes)
      else none
  | none =>
      if process.allocated then some (process, some process.core.frameBuf)
      else some (process, none)

/-- `retro_run`; once `update_input` has returned, `input_state_cb` is not
null. -/
def retroRun (input : HostInput) :
    Option (Process Engine Callback × Trace Callback) :=
  process.updateInput.bind fun polled =>
    let (core, result) := process.core.runFrame emulator input
    if result.returns && core.session.uc.isSome then
      ({ process with core := core }.getFramebuffer emulator).bind
        fun (after, data) =>
          (after.invoke (.videoRefresh data 320 240 640)).bind fun shown =>
            (after.invoke (.audioSample 0 0)).bind fun sounded =>
              (after.invoke (.environment .getVariableUpdate)).map
                fun updated =>
                  (after, polled ++ [shown, sounded, updated])
    else none

/-- A call of the frontend; there is no result when a null pointer is used or
the call does not return. -/
def apiCall : ApiCall Callback →
    Option (Process Engine Callback × Trace Callback)
  | .setEnvironment callback logging =>
      some (process.retroSetEnvironment fallbackLog callback logging)
  | .setVideoRefresh callback =>
      some (process.retroSetVideoRefresh callback, [])
  | .setAudioSample callback =>
      some (process.retroSetAudioSample callback, [])
  | .setAudioSampleBatch callback =>
      some (process.retroSetAudioSampleBatch callback, [])
  | .setInputPoll callback => some (process.retroSetInputPoll callback, [])
  | .setInputState callback =>
      some (process.retroSetInputState callback, [])
  | .init => some (process.retroInit, [])
  | .deinit => some (process.retroDeinit, [])
  | .setControllerPortDevice port device =>
      process.retroSetControllerPortDevice port device
  | .loadGame load =>
      (process.retroLoadGame emulator load).map fun result =>
        (result.1, result.2.2)
  | .loadGameSpecial type load num =>
      (process.retroLoadGameSpecial emulator type load num).map fun result =>
        (result.1, result.2.2)
  | .run input => process.retroRun emulator input
  | .reset =>
      some ({ process with core := retroReset process.core }, [])
  | .serialize _ => some (process, [])
  | .unserialize data =>
      some ({ process with
        core := (retroUnserialize process.core data).getD process.core }, [])
  | .unloadGame =>
      some ({ process with core := retroUnloadGame process.core }, [])

/-- Calls one after the other. -/
def play (calls : List (ApiCall Callback)) :
    Option (Process Engine Callback × Trace Callback) :=
  Machine.play (apiCall emulator fallbackLog) process calls

end Process

/-! ## The core without pointers -/

/-- A guest that goes on asks for the buttons. -/
def asksButtons (host : Nat → HostAnswer) (files : FileState) :
    (fuel : Nat) → Hosted Engine → Bool
  | 0, _ => false
  | fuel + 1, state =>
      emulator.asksNow state.engine ||
        match (hosted emulator host files).resume state with
        | some (.svc handler after) =>
            !handler.stops && asksButtons host files fuel after
        | _ => false

/-- The game calls for the buttons while it is loaded. -/
def Core.asksEarly (core : Core Engine) (game : Game) : Bool :=
  (emulationStart (hosted emulator game.input.host core.files) game.rom
    game.msbuffer).any
      (asksButtons emulator game.input.host core.files game.input.fuel)

/-- The core, and whether the frontend has said how to ask for buttons. -/
structure Console (Engine : Type u) where
  core : Core Engine
  heard : Bool

/-- `retro_load_game` on the core. -/
def Console.load (console : Console Engine) (load : LoadInput) :
    Option (Console Engine) :=
  if load.supported then
    load.game.bind fun game =>
      if !console.heard && console.core.asksEarly emulator game then none
      else
        (Host.retroLoadGame emulator console.core game).2.map fun _ =>
          { console with
            core := (Host.retroLoadGame emulator console.core game).1 }
  else some console

/-- What the core does in a call of the frontend, with what is shown. -/
def Console.apiCall (console : Console Engine) :
    ApiCall Callback → Option (Console Engine × List (List Byte))
  | .setInputState _ => some ({ console with heard := true }, [])
  | .init =>
      some ({ console with
        core := { console.core with
          frameBuf := List.replicate frameBytes 0 } }, [])
  | .loadGame load =>
      (console.load emulator load).map fun after => (after, [])
  | .loadGameSpecial type load num =>
      if isSpecial type num then
        (console.load emulator { load with info := none }).map
          fun after => (after, [])
      else some (console, [])
  | .run input =>
      (Host.retroRun emulator console.core input).2.map fun picture =>
        ({ console with
          core := (Host.retroRun emulator console.core input).1 }, [picture])
  | .reset =>
      some ({ console with core := retroReset console.core }, [])
  | .unserialize data =>
      some ({ console with
        core := (retroUnserialize console.core data).getD console.core }, [])
  | .unloadGame =>
      some ({ console with core := retroUnloadGame console.core }, [])
  | _ => some (console, [])

/-- Calls one after the other, with all that is shown. -/
def Console.play (console : Console Engine) (calls : List (ApiCall Callback)) :
    Option (Console Engine × List (List Byte)) :=
  Machine.play (Console.apiCall emulator) console calls

/-- What the frontend sees of the pace: input that is polled, pictures and
sound. -/
def Message.paces : Message → Bool
  | .videoRefresh _ _ _ _ => true
  | .audioSample _ _ => true
  | .inputPoll => true
  | _ => false

/-- A frame: the input is polled, then the picture is shown. -/
def frameMessages (picture : List Byte) : List Message :=
  [.inputPoll, .videoRefresh (some picture) 320 240 640, .audioSample 0 0]

/-- The messages that set the pace, without the pointers. -/
def Trace.pace (trace : Trace Callback) : List Message :=
  (trace.map Prod.snd).filter Message.paces

/-- The core of a process. -/
def Process.console (process : Process Engine Callback) : Console Engine :=
  ⟨process.core, (process.callbacks .inputState).isSome⟩

/-! ## Without the buttons -/

section Buttons

variable {emulator} {host : Nat → HostAnswer} {files : FileState}

theorem svcHandle_withoutInput (answer : HostAnswer) (engine : Engine)
    (state : FileState) (handler : EmuHandler) :
    svcHandle emulator.withoutInput answer engine state handler =
      svcHandle emulator answer engine state handler := by
  cases handler <;> rfl

/-- How an emulation goes on in a process without a way to ask for
buttons. -/
theorem resume_withoutInput (state : Hosted Engine) :
    (hosted emulator.withoutInput host files).resume state =
      if emulator.asksNow state.engine then none
      else (hosted emulator host files).resume state := by
  have called : ∀ intno engine,
      calledHandler emulator.withoutInput intno engine =
        calledHandler emulator intno engine := fun _ _ => rfl
  simp only [hosted, called, svcHandle_withoutInput]
  rw [Emulator.withoutInput]
  dsimp only
  cases emulator.asksNow state.engine with
  | true => rfl
  | false => rfl

/-- It does not return if the guest asks for them, and is otherwise the
same. -/
theorem emulate_withoutInput (fuel : Nat) (state : Hosted Engine) :
    emulate (hosted emulator.withoutInput host files) fuel state =
      if asksButtons emulator host files fuel state then none
      else emulate (hosted emulator host files) fuel state := by
  induction fuel generalizing state with
  | zero => rfl
  | succ fuel inductionHypothesis =>
      rw [emulate, resume_withoutInput, asksButtons, emulate]
      cases emulator.asksNow state.engine with
      | true => rfl
      | false =>
          simp only [Bool.false_eq_true, if_false, Bool.false_or]
          cases (hosted emulator host files).resume state with
          | none => rfl
          | some event =>
              cases event with
              | ended err after => rfl
              | svc handler after =>
                  dsimp only
                  rw [inductionHypothesis]
                  cases handler with
                  | newFrame => rfl
                  | panic => rfl
                  | other =>
                      simp only [SvcHandler.stops, Bool.false_eq_true,
                        if_false, Bool.not_false, Bool.true_and]
                      split
                      · rfl
                      · rfl

/-- Setting an engine up runs no guest. -/
theorem setUp_withoutInput (calls : List (UcCall × Bool))
    (state : Hosted Engine) :
    setUp (hosted emulator.withoutInput host files) calls state =
      setUp (hosted emulator host files) calls state := by
  induction calls generalizing state with
  | nil => rfl
  | cons call rest inductionHypothesis =>
      simp only [setUp, inductionHypothesis]
      rfl

/-- A game that is loaded without a way to ask for buttons. -/
theorem loadRom_withoutInput (core : Core Engine) (game : Game) :
    (core.asksEarly emulator game = true →
        (core.loadRom emulator.withoutInput game).2.code = none) ∧
      (core.asksEarly emulator game = false →
        core.loadRom emulator.withoutInput game =
          core.loadRom emulator game) := by
  have sameOpen : (hosted emulator.withoutInput game.input.host
      core.files).ucOpen =
        (hosted emulator game.input.host core.files).ucOpen := rfl
  have sameStart : ∀ engine, (hosted emulator.withoutInput game.input.host
      core.files).regWrite (startRegisters (hosted emulator.withoutInput
        game.input.host core.files) game.rom engine) .pc minisysAddr =
      (hosted emulator game.input.host core.files).regWrite (startRegisters
        (hosted emulator game.input.host core.files) game.rom engine) .pc
        minisysAddr := fun _ => rfl
  unfold Core.asksEarly Core.loadRom Host.loadRom emulationStart
  simp only [sameOpen, setUp_withoutInput, ucEmuStart, sameStart,
    emulate_withoutInput]
  cases (hosted emulator game.input.host core.files).ucOpen with
  | error err =>
      exact ⟨fun early => absurd early Bool.false_ne_true, fun _ => rfl⟩
  | ok opened =>
      dsimp only
      cases isSet : setUp (hosted emulator game.input.host core.files)
          (setupCalls game.rom game.msbuffer) opened with
      | mk succeeded ready =>
          cases succeeded with
          | false =>
              exact ⟨fun early => absurd early Bool.false_ne_true,
                fun _ => rfl⟩
          | true =>
              simp only [Option.any_some]
              constructor
              · intro early
                simp only [early, if_true]
                rfl
              · intro quiet
                simp only [quiet, Bool.false_eq_true, if_false]
                rfl

/-- `retro_load_game` without a way to ask for buttons. -/
theorem retroLoadGame_withoutInput {core : Core Engine} {game : Game}
    (supported : game.supported = true) :
    (core.asksEarly emulator game = true →
        (retroLoadGame emulator.withoutInput core game).2 = none) ∧
      (core.asksEarly emulator game = false →
        retroLoadGame emulator.withoutInput core game =
          retroLoadGame emulator core game) := by
  obtain ⟨crashes, quiet⟩ := @loadRom_withoutInput _ emulator core game
  constructor
  · intro early
    simp only [retroLoadGame, supported, if_true, crashes early,
      Option.map_none]
  · intro none
    simp only [retroLoadGame, supported, if_true, quiet none]

end Buttons

/-! ## In the promised order -/

/-- A process that has come as far as the frontend knows. -/
structure Process.Meets (process : Process Engine Callback) (phase : Phase) :
    Prop where
  callbacks : ∀ slot,
    (process.callbacks slot).isSome = phase.registered slot
  allocated : process.allocated = phase.initialized
  environment : phase.initialized = true →
    phase.registered .environment = true
  logging : phase.registered .environment = true →
    phase.registered .log = true
  initialized : phase.loaded = true → phase.initialized = true

section Steps

variable {emulator fallbackLog}
variable {process after : Process Engine Callback} {phase : Phase}
variable {call : ApiCall Callback} {trace : Trace Callback}

theorem Process.initial_meets (files : HostFiles) :
    (Process.initial files : Process Engine Callback).Meets
      Phase.start where
  callbacks := fun _ => rfl
  allocated := rfl
  environment := fun _ => by contradiction
  logging := fun _ => by contradiction
  initialized := fun _ => by contradiction

/-- A pointer that the frontend has set can be called through. -/
theorem Process.Meets.invoke (meets : process.Meets phase)
    {message : Message}
    (registered : phase.registered message.slot = true) :
    ∃ callback, process.invoke message = some (callback, message) := by
  rw [← meets.callbacks] at registered
  obtain ⟨callback, known⟩ := Option.isSome_iff_exists.mp registered
  exact ⟨callback, by rw [Process.invoke, known, Option.map_some]⟩

/-- The same pointers and buffer. -/
structure Process.SamePointers (left right : Process Engine Callback) :
    Prop where
  callbacks : left.callbacks = right.callbacks
  allocated : left.allocated = right.allocated

theorem Process.retroLoadGame_pointers {load : LoadInput} {value : Bool}
    (done : process.retroLoadGame emulator load =
      some (after, value, trace)) : after.SamePointers process := by
  unfold Process.retroLoadGame at done
  obtain ⟨asked, _, done⟩ := Option.bind_eq_some_iff.mp done
  split at done
  · obtain ⟨game, _, done⟩ := Option.bind_eq_some_iff.mp done
    obtain ⟨_, _, same⟩ := Option.map_eq_some_iff.mp done
    cases same
    exact ⟨rfl, rfl⟩
  · obtain ⟨_, _, same⟩ := Option.map_eq_some_iff.mp done
    cases same
    exact ⟨rfl, rfl⟩

theorem Process.getFramebuffer_pointers {data : Option (List Byte)}
    (done : process.getFramebuffer emulator = some (after, data)) :
    after.SamePointers process := by
  unfold Process.getFramebuffer at done
  split at done
  · split at done
    · cases done
      exact ⟨rfl, rfl⟩
    · contradiction
  · split at done
    · cases done
      exact ⟨rfl, rfl⟩
    · cases done
      exact ⟨rfl, rfl⟩

theorem Process.retroRun_pointers {input : HostInput}
    (done : process.retroRun emulator input = some (after, trace)) :
    after.SamePointers process := by
  unfold Process.retroRun at done
  obtain ⟨polled, _, done⟩ := Option.bind_eq_some_iff.mp done
  dsimp only at done
  split at done
  · obtain ⟨⟨shown, data⟩, filled, done⟩ := Option.bind_eq_some_iff.mp done
    obtain ⟨_, _, done⟩ := Option.bind_eq_some_iff.mp done
    obtain ⟨_, _, done⟩ := Option.bind_eq_some_iff.mp done
    obtain ⟨_, _, same⟩ := Option.map_eq_some_iff.mp done
    obtain ⟨rfl, _⟩ := Prod.mk.inj same
    obtain ⟨callbacks, allocated⟩ := Process.getFramebuffer_pointers filled
    exact ⟨callbacks, allocated⟩
  · contradiction

theorem Phase.next_registered (none : call.registers = []) :
    (phase.next call).registered = phase.registered := by
  funext slot
  simp [Phase.next, none]

/-- A process that keeps its pointers in a call that neither registers nor
allocates. -/
theorem Process.Meets.of_samePointers (meets : process.Meets phase)
    (same : after.SamePointers process)
    (none : call.registers = [])
    (kept : (phase.next call).initialized = phase.initialized)
    (loaded : (phase.next call).loaded = true →
      phase.initialized = true) : after.Meets (phase.next call) := by
  have registered : (phase.next call).registered = phase.registered :=
    Phase.next_registered none
  constructor
  · rw [registered, same.callbacks]
    exact meets.callbacks
  · rw [kept, same.allocated]
    exact meets.allocated
  · rw [kept, registered]
    exact meets.environment
  · rw [registered]
    exact meets.logging
  · rw [kept]
    exact loaded

/-- A process in which one more pointer is set. -/
theorem Process.Meets.register (meets : process.Meets phase) {slot : Slot}
    (callback : Callback) (notEnvironment : slot ≠ .environment)
    (registers : call.registers = [slot])
    (kept : (phase.next call).initialized = phase.initialized)
    (loaded : (phase.next call).loaded = phase.loaded) :
    (process.register slot callback).Meets (phase.next call) := by
  have registered : ∀ other, (phase.next call).registered other =
      (phase.registered other || decide (other = slot)) := by
    intro other
    simp [Phase.next, registers]
  have environment : (phase.next call).registered .environment =
      phase.registered .environment := by
    rw [registered, decide_eq_false notEnvironment.symm, Bool.or_false]
  constructor
  · intro other
    rw [registered, ← meets.callbacks, Process.register]
    by_cases same : other = slot
    · subst same
      simp
    · simp [same]
  · rw [kept]
    exact meets.allocated
  · rw [kept, environment]
    exact meets.environment
  · rw [environment]
    intro set
    rw [registered, meets.logging set, Bool.true_or]
  · rw [loaded, kept]
    exact meets.initialized

/-- A process after `retro_set_environment`. -/
theorem Process.Meets.setEnvironment (meets : process.Meets phase)
    (callback : Callback) (logging : Option Callback) :
    (process.retroSetEnvironment fallbackLog callback logging).1.Meets
      (phase.next (.setEnvironment callback logging)) where
  callbacks := by
    intro slot
    simp only [Process.retroSetEnvironment, Process.register, Phase.next,
      ApiCall.registers, ← meets.callbacks]
    cases slot <;> simp
  allocated := meets.allocated
  environment := fun _ => by simp [Phase.next, ApiCall.registers]
  logging := fun _ => by simp [Phase.next, ApiCall.registers]
  initialized := meets.initialized

/-- A call that is allowed and returns leaves the process as far as the
frontend then knows. -/
theorem Process.Meets.apiCall (meets : process.Meets phase)
    (allowed : phase.allows call = true)
    (done : process.apiCall emulator fallbackLog call = some (after, trace)) :
    after.Meets (phase.next call) := by
  cases call with
  | setEnvironment callback logging =>
      cases done
      exact meets.setEnvironment callback logging
  | setVideoRefresh callback | setAudioSample callback
  | setAudioSampleBatch callback | setInputPoll callback
  | setInputState callback =>
      cases done
      exact meets.register callback nofun rfl rfl rfl
  | init =>
      cases done
      have registered : (phase.next (.init : ApiCall Callback)).registered =
          phase.registered := Phase.next_registered rfl
      refine ⟨?_, rfl, fun _ => ?_, ?_, fun _ => rfl⟩
      · rw [registered]
        exact meets.callbacks
      · rw [registered]
        exact allowed
      · rw [registered]
        exact meets.logging
  | deinit =>
      cases done
      have unloaded : phase.loaded = false :=
        (Bool.not_eq_true' _).mp allowed
      have registered : (phase.next (.deinit : ApiCall Callback)).registered =
          phase.registered := Phase.next_registered rfl
      refine ⟨?_, rfl, nofun, ?_, ?_⟩
      · rw [registered]
        exact meets.callbacks
      · rw [registered]
        exact meets.logging
      · intro loaded
        exact absurd (unloaded.symm.trans loaded) nofun
  | setControllerPortDevice port device =>
      obtain ⟨_, _, same⟩ := Option.map_eq_some_iff.mp done
      cases same
      exact meets.of_samePointers ⟨rfl, rfl⟩ rfl rfl fun _ => allowed
  | loadGame load =>
      obtain ⟨⟨_, value, made⟩, loaded, same⟩ :=
        Option.map_eq_some_iff.mp done
      cases same
      exact meets.of_samePointers (Process.retroLoadGame_pointers loaded) rfl
        rfl fun _ => allowed
  | loadGameSpecial type load num =>
      obtain ⟨⟨_, value, made⟩, loaded, same⟩ :=
        Option.map_eq_some_iff.mp done
      cases same
      refine meets.of_samePointers ?_ rfl rfl fun _ => allowed
      unfold Process.retroLoadGameSpecial at loaded
      split at loaded
      · exact Process.retroLoadGame_pointers loaded
      · cases loaded
        exact ⟨rfl, rfl⟩
  | run input =>
      exact meets.of_samePointers (Process.retroRun_pointers done) rfl rfl
        meets.initialized
  | reset | serialize buffer | unserialize data =>
      cases done
      exact meets.of_samePointers ⟨rfl, rfl⟩ rfl rfl meets.initialized
  | unloadGame =>
      cases done
      exact meets.of_samePointers ⟨rfl, rfl⟩ rfl rfl nofun

/-! ## The pointers can be forgotten -/

/-- What remains of a call when the pointers are forgotten. -/
def Process.observed (result : Process Engine Callback × Trace Callback) :
    Console Engine × List Message :=
  (result.1.console, Trace.pace result.2)

/-- The same of a call on the core. -/
def Console.observed (result : Console Engine × List (List Byte)) :
    Console Engine × List Message :=
  (result.1, result.2.flatMap frameMessages)

/-- Loading a game does what it does to the core. -/
theorem Process.Meets.load (meets : process.Meets phase)
    (ready : phase.initialized = true) (load : LoadInput) :
    ((process.retroLoadGame emulator load).map fun result =>
        (result.1.console, Trace.pace result.2.2)) =
      (process.console.load emulator load).map fun after => (after, []) := by
  have environment := meets.environment ready
  obtain ⟨_, asked⟩ := @Process.Meets.invoke _ _ _ _ meets
    (.environment (.setPixelFormat retroPixelFormatRgb565)) environment
  have heard : process.console.heard =
      (process.callbacks .inputState).isSome := rfl
  rw [Process.retroLoadGame, asked, Option.bind_some, Console.load]
  cases supported : load.supported with
  | false =>
      obtain ⟨_, logged⟩ := @Process.Meets.invoke _ _ _ _ meets
        (.log "RGB565 is not supported.\n") (meets.logging environment)
      rw [logged]
      rfl
  | true =>
      simp only [if_true]
      cases complete : load.game with
      | none => rfl
      | some game =>
          have sameCore : process.console.core = process.core := rfl
          have returned : ∀ (asked : Callback) (loaded : Core Engine ×
              Option Bool), ((loaded.2.map fun value =>
                ({ process with core := loaded.1 }, value,
                  [(asked, Message.environment (.setPixelFormat
                    retroPixelFormatRgb565))])).map
                fun result : Process Engine Callback × Bool ×
                    Trace Callback =>
                  (result.1.console, Trace.pace result.2.2)) =
              (loaded.2.map fun _ =>
                (⟨loaded.1, (process.callbacks .inputState).isSome⟩ :
                  Console Engine)).map fun after => (after, []) := by
            intro asked loaded
            cases loaded.2 with
            | none => rfl
            | some value => rfl
          simp only [Option.bind_some, Process.library, heard, sameCore]
          cases known : (process.callbacks .inputState).isSome with
          | true =>
              rw [known] at returned
              simp only [if_true, Bool.not_true, Bool.false_and,
                Bool.false_eq_true, if_false]
              exact returned _ _
          | false =>
              rw [← LoadInput.game_supported complete] at supported
              obtain ⟨crashes, quiet⟩ := @retroLoadGame_withoutInput _
                emulator process.core game supported
              cases early : process.core.asksEarly emulator game with
              | true => simp [crashes early]
              | false =>
                  rw [known] at returned
                  simp only [Bool.not_false, Bool.and_false,
                    Bool.false_eq_true, if_false, quiet early]
                  exact returned _ _

/-- With a frame buffer, the picture is that of the core. -/
theorem Process.getFramebuffer_allocated
    (allocated : process.allocated = true) :
    process.getFramebuffer emulator =
      some ({ process with
          core := { process.core with
            frameBuf := (process.core.framebuffer emulator).getD
              process.core.frameBuf } },
        some ((process.core.framebuffer emulator).getD
          process.core.frameBuf)) := by
  unfold Process.getFramebuffer
  cases process.core.framebuffer emulator with
  | none => exact if_pos allocated
  | some bytes => exact if_pos allocated

/-- A frame is that of the core. -/
theorem Process.Meets.run (meets : process.Meets phase)
    (loaded : phase.loaded = true) (ready : phase.ready = true)
    (input : HostInput) :
    (process.retroRun emulator input).map Process.observed =
      ((Host.retroRun emulator process.core input).2.map fun picture =>
        ({ process.console with
          core := (Host.retroRun emulator process.core input).1 },
          [picture])).map Console.observed := by
  have initialized := meets.initialized loaded
  have environment := meets.environment initialized
  have allocated : process.allocated = true := by
    rw [meets.allocated, initialized]
  simp only [Phase.ready, Bool.and_eq_true] at ready
  obtain ⟨⟨⟨⟨video, audio⟩, _⟩, poll⟩, state⟩ := ready
  have called : ∀ core message, phase.registered message.slot = true →
      ∃ callback, ({ process with core := core } :
        Process Engine Callback).invoke message =
          some (callback, message) := by
    intro core message registered
    exact meets.invoke registered
  obtain ⟨_, polled⟩ := called process.core .inputPoll poll
  obtain ⟨_, up⟩ := called process.core (.inputState 0 retroDeviceJoypad 0
    retroDeviceIdJoypadUp) state
  rw [Process.retroRun, Process.updateInput, polled, Option.bind_some, up,
    Option.map_some, Option.bind_some]
  cases frame : process.core.runFrame emulator input with
  | mk core result =>
      dsimp only
      cases returns : result.returns && core.session.uc.isSome with
      | false =>
          rw [Host.retroRun, frame]
          simp only [returns]
          rfl
      | true =>
          obtain ⟨ends, present⟩ := (Bool.and_eq_true _ _).mp returns
          rw [retroRun_returned frame ends present]
          have filled := @Process.getFramebuffer_allocated _ _ emulator
            { process with core := core } allocated
          dsimp only at filled
          simp only [if_true, filled, Option.bind_some]
          obtain ⟨_, shown⟩ := called _ (.videoRefresh (some ((core.framebuffer
            emulator).getD core.frameBuf)) 320 240 640) video
          obtain ⟨_, sounded⟩ := called _ (.audioSample 0 0) audio
          obtain ⟨_, updated⟩ := called _ (.environment .getVariableUpdate)
            environment
          rw [shown, Option.bind_some, sounded, Option.bind_some, updated]
          rfl

/-- An allowed call does what it does to the core. -/
theorem Process.Meets.apiCall_observed (meets : process.Meets phase)
    (allowed : phase.allows call = true) :
    (process.apiCall emulator fallbackLog call).map Process.observed =
      (process.console.apiCall emulator call).map Console.observed := by
  cases call with
  | setControllerPortDevice port device =>
      obtain ⟨_, logged⟩ := @Process.Meets.invoke _ _ _ _ meets
        (.log ("Plugging device " ++ toString device ++ " into port " ++
          toString port ++ ".\n"))
        (meets.logging (meets.environment allowed))
      rw [Process.apiCall, Process.retroSetControllerPortDevice, logged]
      rfl
  | loadGame load =>
      have loaded := @Process.Meets.load _ _ emulator _ _ meets allowed load
      rw [Process.apiCall, Console.apiCall, Option.map_map,
        Option.map_map]
      exact loaded
  | loadGameSpecial type load num =>
      rw [Process.apiCall, Process.retroLoadGameSpecial, Console.apiCall]
      cases isSpecial type num with
      | false => rfl
      | true =>
          have loaded := @Process.Meets.load _ _ emulator _ _ meets allowed
            { load with info := none }
          simp only [if_true, Option.map_map]
          exact loaded
  | run input =>
      obtain ⟨loaded, ready⟩ := (Bool.and_eq_true _ _).mp allowed
      rw [Process.apiCall, meets.run loaded ready]
      rfl
  | setEnvironment callback logging => rfl
  | setVideoRefresh callback | setAudioSample callback
  | setAudioSampleBatch callback | setInputPoll callback
  | setInputState callback => rfl
  | init | deinit => rfl
  | reset | serialize buffer | unserialize data | unloadGame => rfl

theorem Trace.pace_append (first second : Trace Callback) :
    Trace.pace (first ++ second) = first.pace ++ second.pace := by
  rw [Trace.pace, List.map_append, List.filter_append]
  rfl

/-- So do allowed calls one after the other. -/
theorem Process.Meets.play (meets : process.Meets phase)
    {calls : List (ApiCall Callback)}
    (allowed : Machine.Admissible
      (fun phase call => (Phase.next phase call, ()))
      (fun phase call => Phase.allows phase call = true) phase calls) :
    (process.play emulator fallbackLog calls).map Process.observed =
      (process.console.play emulator calls).map Console.observed := by
  refine @Machine.play_simulates _ _ _ _ _ _ _
    (Process.apiCall emulator fallbackLog) (Console.apiCall emulator)
    Process.console Trace.pace (fun shown => shown.flatMap frameMessages)
    rfl Trace.pace_append ?_ _ _ Process.Meets ?_ ?_ _ _ meets _ allowed
  · intro first second
    exact List.flatMap_append
  · intro process phase call meets allowed
    exact meets.apiCall_observed allowed
  · intro process phase call after made meets allowed done
    exact meets.apiCall allowed done

/-- In every order of calls that `libretro.h` promises, the process does what
its core does, shows the core's pictures, and polls the input before each of
them.  No pointer that the frontend sets is used while it is null, except by a
game that asks for the buttons while it is loaded before `input_state` is
registered. -/
theorem frontend_refines_core (emulator : Emulator Engine)
    (fallbackLog : Callback) (files : HostFiles)
    {calls : List (ApiCall Callback)} (conforms : Conforms calls) :
    ((Process.initial files).play emulator fallbackLog calls).map
        Process.observed =
      (Console.play emulator ⟨Core.initial files, false⟩ calls).map
        Console.observed :=
  (Process.initial_meets files).play conforms

/-! ## What the machine depends on -/

/-- What the call has the machine do. -/
def ApiCall.retroCalls : ApiCall Callback → List RetroCall
  | .loadGame load => load.game.toList.map .loadGame
  | .run input => [.run input]
  | _ => []

variable {console next : Console Engine} {core : Core Engine}
variable {shown : List (List Byte)}

/-- A game that is loaded. -/
theorem Console.load_machine {load : LoadInput}
    (same : console.core.SameMachine core)
    (done : console.load emulator load = some next) :
    ∃ other, (load.game.toList.map RetroCall.loadGame).foldlM
        (retroCall emulator) core = some other ∧
      next.core.SameMachine other := by
  unfold Console.load at done
  split at done
  · obtain ⟨game, complete, loaded⟩ := Option.bind_eq_some_iff.mp done
    split at loaded
    · contradiction
    · obtain ⟨value, returned, rfl⟩ := Option.map_eq_some_iff.mp loaded
      have called : retroCall emulator console.core (.loadGame game) =
          some (retroLoadGame emulator console.core game).1 := by
        rw [retroCall, returned, Option.map_some]
      obtain ⟨other, onOther, sameAfter⟩ := same.afterCall called
      refine ⟨other, ?_, sameAfter⟩
      rw [complete]
      simpa using onOther
  · rename_i unsupported
    cases done
    refine ⟨core, ?_, same⟩
    cases complete : load.game with
    | none => rfl
    | some game =>
        rw [← LoadInput.game_supported complete] at unsupported
        simp [retroCall, retroLoadGame, unsupported]

/-- A call does to the machine what its loads and runs do. -/
theorem Console.apiCall_machine (same : console.core.SameMachine core)
    (done : console.apiCall emulator call = some (next, shown)) :
    ∃ other, call.retroCalls.foldlM (retroCall emulator) core =
        some other ∧ next.core.SameMachine other := by
  cases call with
  | loadGame load =>
      obtain ⟨_, loaded, equal⟩ := Option.map_eq_some_iff.mp done
      cases equal
      exact Console.load_machine same loaded
  | loadGameSpecial type load num =>
      rw [Console.apiCall] at done
      split at done
      · obtain ⟨_, loaded, equal⟩ := Option.map_eq_some_iff.mp done
        cases equal
        exact Console.load_machine same loaded
      · cases done
        exact ⟨core, rfl, same⟩
  | run input =>
      obtain ⟨picture, returned, equal⟩ := Option.map_eq_some_iff.mp done
      cases equal
      have called : retroCall emulator console.core (.run input) =
          some (retroRun emulator console.core input).1 := by
        rw [retroCall, returned, Option.map_some]
      obtain ⟨other, onOther, sameAfter⟩ := same.afterCall called
      refine ⟨other, ?_, sameAfter⟩
      simpa [ApiCall.retroCalls] using onOther
  | unserialize data =>
      cases done
      refine ⟨core, rfl, ?_⟩
      cases restored : retroUnserialize console.core data with
      | none => exact same
      | some other =>
          have alike := (playsAlike_of_unserialize restored).machine
          exact ⟨alike.session.symm.trans same.session,
            alike.files.symm.trans same.files⟩
  | init | reset =>
      cases done
      exact ⟨core, rfl, same.session, same.files⟩
  | setEnvironment callback logging =>
      cases done
      exact ⟨core, rfl, same⟩
  | setVideoRefresh callback | setAudioSample callback
  | setAudioSampleBatch callback | setInputPoll callback
  | setInputState callback =>
      cases done
      exact ⟨core, rfl, same⟩
  | deinit | unloadGame =>
      cases done
      exact ⟨core, rfl, same⟩
  | setControllerPortDevice port device =>
      cases done
      exact ⟨core, rfl, same⟩
  | serialize buffer =>
      cases done
      exact ⟨core, rfl, same⟩

/-- So do calls one after the other. -/
theorem Console.play_machine {calls : List (ApiCall Callback)}
    (same : console.core.SameMachine core)
    (done : console.play emulator calls = some (next, shown)) :
    ∃ other, (calls.flatMap ApiCall.retroCalls).foldlM (retroCall emulator)
        core = some other ∧ next.core.SameMachine other := by
  refine @Machine.play_followed _ _ _ _ _ (Console.apiCall emulator)
    (retroCall emulator) ApiCall.retroCalls
    (fun console core => console.core.SameMachine core) ?_ _ _ _ same _ _ done
  intro console core call next shown same called
  exact Console.apiCall_machine same called

/-- After calls in an order that `libretro.h` promises, the machine is as the
games that were loaded and the frames that were run leave it.  Registering,
`retro_init`, `retro_deinit`, save states and resetting have no part in it. -/
theorem frontend_history {files : HostFiles}
    {calls : List (ApiCall Callback)} (conforms : Conforms calls)
    (done : (Process.initial files).play emulator fallbackLog calls =
      some (process, trace)) :
    ∃ core, history emulator files (calls.flatMap ApiCall.retroCalls) =
        some core ∧ process.core.SameMachine core := by
  have refines := @Process.Meets.play _ _ emulator fallbackLog _ _
    (Process.initial_meets files) _ conforms
  rw [done, Option.map_some] at refines
  obtain ⟨⟨console, shown⟩, played, equal⟩ :=
    Option.map_eq_some_iff.mp refines.symm
  obtain ⟨rfl, _⟩ := Prod.mk.inj equal
  exact Console.play_machine ⟨rfl, rfl⟩ played

end Steps

end Code

/-! ## A frontend -/

/-- Calls that run a game for two frames; `input_state` is registered before
the game is loaded, or after. -/
def sampleCalls (early : Bool) (load : LoadInput) : List (ApiCall Nat) :=
  [.setEnvironment 1 none, .init] ++
    (if early then [.setInputState 2] else []) ++
    [.loadGame load, .setVideoRefresh 3, .setAudioSample 4,
      .setAudioSampleBatch 5, .setInputPoll 6, .setInputState 2,
      .run idleInput, .run idleInput, .unloadGame, .deinit]

/-- A game that asks for the buttons at once: `svc 7`, and `svc 9` for each
frame. -/
def eagerGame : LoadInput where
  supported := true
  info := some ⟨some ([0xEF000007, 0xEF000009, 0xEF000009,
    0xEF000009].flatMap wordBytes)⟩
  msbuffer := some jumpMinisys
  input := idleInput

theorem frontend_refines_core_sample :
    ((Process.initial fun _ => none).play armEmulator 0
        (sampleCalls false eagerGame)).isSome = false ∧
      ((Process.initial fun _ => none).play armEmulator 0
        (sampleCalls true eagerGame)).isSome = true := by
  have late := congrArg Option.isSome (frontend_refines_core armEmulator 0
    (fun _ => none) (show Conforms (sampleCalls false eagerGame) by decide))
  have early := congrArg Option.isSome (frontend_refines_core armEmulator 0
    (fun _ => none) (show Conforms (sampleCalls true eagerGame) by decide))
  rw [Option.isSome_map, Option.isSome_map] at late early
  rw [late, early]
  constructor
  · decide +kernel
  · decide +kernel

/-- Calls that load a game, and load it again when the core has been
initialized again. -/
def restartCalls : List (ApiCall Nat) :=
  [.setEnvironment 1 none, .init, .setInputState 2, .loadGame eagerGame,
    .reset, .unloadGame, .deinit, .init, .loadGame eagerGame]

theorem frontend_history_sample : ∃ process trace core,
    (Process.initial fun _ => none).play armEmulator 0 restartCalls =
        some (process, trace) ∧
      history armEmulator (fun _ => none)
        (restartCalls.flatMap ApiCall.retroCalls) = some core ∧
          process.core.SameMachine core := by
  obtain ⟨⟨process, trace⟩, done⟩ := Option.isSome_iff_exists.mp
    (show ((Process.initial fun _ => none).play armEmulator 0
      restartCalls).isSome = true by decide +kernel)
  obtain ⟨core, past, same⟩ := frontend_history (by decide) done
  exact ⟨process, trace, core, done, past, same⟩

end Host
end GA330
