import GA330.Library.ByteMemory
import GA330.Library.Machine

/-!
# A session: loading a game and running frames

`load_rom` and `ccdl_run_frame` of `ccdl.cpp`.  The emulator library is a
parameter: what its calls do to an engine, and what guest code does up to the
next supervisor call.  Stopping the emulation is how the guest ends a frame and
also how it panics, and only errors that `uc_emu_start` itself returns set
`aborted`; so later frames go on after a panic, and after an early exit of
`load_rom`.
-/

namespace GA330
namespace Host

open ByteMemory

/-! ## The emulator library -/

/-- `uc_err` -/
abbrev UcErr := Nat

/-- `UC_ERR_OK` -/
def ucErrOk : UcErr := 0

/-- Calls that set an engine up. -/
inductive UcCall
  | memMap (address : Address) (size : Nat) (perms : Nat)
  | memWrite (address : Address) (bytes : List Byte)
  | hookMemInvalid
  | hookIntr
  deriving DecidableEq

/-- The registers that the session uses. -/
inductive UcRegister
  | r0
  | r1
  | sp
  | pc
  deriving DecidableEq

/-- Handlers that `hook_intr` calls: the two that stop the emulation, and the
others. -/
inductive SvcHandler
  | newFrame
  | panic
  | other
  deriving DecidableEq

/-- How running guest code is interrupted: by a supervisor call, with the
engine as its handler leaves it, or by the end of the emulation. -/
inductive GuestEvent (Engine : Type u)
  | svc (handler : SvcHandler) (engine : Engine)
  | ended (err : UcErr) (engine : Engine)

/-- The emulator library with a guest in it.  `resume` runs guest code up to
the next event; `none` means that there is none. -/
structure Unicorn (Engine : Type u) where
  ucOpen : Except UcErr Engine
  perform : Engine → UcCall → UcErr × Engine
  regRead : Engine → UcRegister → Word
  regWrite : Engine → UcRegister → Word → Engine
  resume : Engine → Option (GuestEvent Engine)

/-- `Svc_GemeiEmu_newFrame` and `Svc_GemeiEmu_panic` call `uc_emu_stop`. -/
def SvcHandler.stops : SvcHandler → Bool
  | .newFrame => true
  | .panic => true
  | .other => false

/-- What a return of `uc_emu_start` leaves: the handlers that were called, the
error code and the engine. -/
structure Emulated (Engine : Type u) where
  handlers : List SvcHandler
  err : UcErr
  engine : Engine

section Code

variable {Engine : Type u} (unicorn : Unicorn Engine)

/-- Run the guest for at most `fuel` events.  After `uc_emu_stop` the
emulation returns without an error. -/
def emulate : (fuel : Nat) → Engine → Option (Emulated Engine)
  | 0, _ => none
  | fuel + 1, engine =>
      match unicorn.resume engine with
      | none => none
      | some (.ended err after) => some ⟨[], err, after⟩
      | some (.svc handler after) =>
          if handler.stops then some ⟨[handler], ucErrOk, after⟩
          else
            (emulate fuel after).map fun rest =>
              { rest with handlers := handler :: rest.handlers }

/-- `uc_emu_start(uc, begin, 0, 0, 0)`, if it returns within the fuel. -/
def ucEmuStart (fuel : Nat) (engine : Engine) (begin : Address) :
    Option (Emulated Engine) :=
  emulate unicorn fuel (unicorn.regWrite engine .pc begin)

/-! ## The session -/

/-- The static variables `uc` and `aborted`. -/
structure Session (Engine : Type u) where
  uc : Option Engine
  aborted : Bool

/-- The session when the process starts. -/
def Session.initial : Session Engine := ⟨none, false⟩

/-- `MINISYS_ADDR` -/
def minisysAddr : Address := 0x20000000

/-- `UC_PROT_READ`, `UC_PROT_WRITE` and `UC_PROT_ALL`. -/
def ucProtRead : Nat := 1
def ucProtWrite : Nat := 2
def ucProtAll : Nat := 7

/-- The calls of `load_rom` that set the engine up, and whether `ERR_CHECK`
follows. -/
def setupCalls (rom msbuffer : List Byte) : List (UcCall × Bool) :=
  [(.memMap minisysAddr 0x40000 ucProtAll, true),
    (.memWrite minisysAddr msbuffer, true),
    (.memMap 0x1FF00000 0x00100000 (ucProtRead + ucProtWrite), true),
    (.memMap 0x10000000 0x04000000 ucProtAll, true),
    (.memMap 0x80000000 0x26000 ucProtWrite, true),
    (.memMap 0x30000000 0x04000000 ucProtAll, true),
    (.memWrite 0x30000000 rom, true),
    (.memMap 0x04088000 0x1000 (ucProtRead + ucProtWrite), false),
    (.hookMemInvalid, true),
    (.hookIntr, true)]

/-- Make calls until a checked one fails: whether all succeeded, and the
engine. -/
def setUp : List (UcCall × Bool) → Engine → Bool × Engine
  | [], engine => (true, engine)
  | (call, checked) :: rest, engine =>
      let (err, after) := unicorn.perform engine call
      if checked && err != ucErrOk then (false, after)
      else setUp rest after

/-- How `load_rom` ends, once it has read both files. -/
inductive LoadRomResult (Engine : Type u)
  | openFailed
  | setupFailed
  | notReturned
  | emulationFailed (emulated : Emulated Engine)
  | loaded (emulated : Emulated Engine)

/-- What `load_rom` returns. -/
def LoadRomResult.code : LoadRomResult Engine → Option Int
  | .openFailed => some (-1)
  | .setupFailed => some (-1)
  | .notReturned => none
  | .emulationFailed _ => some (-1)
  | .loaded _ => some 0

/-- The engine with the registers that `_start` takes its arguments from. -/
def startRegisters (rom : List Byte) (engine : Engine) : Engine :=
  let engine := unicorn.regWrite engine .sp 0x20000000
  let engine := unicorn.regWrite engine .r0 0x30000000
  unicorn.regWrite engine .r1 (BitVec.ofNat 32 rom.length)

/-- `load_rom` with the contents of both files. -/
def loadRom (fuel : Nat) (rom msbuffer : List Byte)
    (session : Session Engine) : Session Engine × LoadRomResult Engine :=
  match unicorn.ucOpen with
  | .error _ => (session, .openFailed)
  | .ok opened =>
      match setUp unicorn (setupCalls rom msbuffer) opened with
      | (false, engine) => ({ session with uc := some engine }, .setupFailed)
      | (true, engine) =>
          let engine := startRegisters unicorn rom engine
          match ucEmuStart unicorn fuel engine minisysAddr with
          | none => ({ session with uc := some engine }, .notReturned)
          | some emulated =>
              if emulated.err ≠ ucErrOk then
                (⟨some emulated.engine, true⟩, .emulationFailed emulated)
              else
                ({ session with uc := some emulated.engine },
                  .loaded emulated)

/-- What a call of `ccdl_run_frame` does: it returns at once, crashes without
an engine, or starts the emulator. -/
inductive FrameResult (Engine : Type u)
  | skipped
  | crashed
  | started (emulated : Option (Emulated Engine))

/-- `ccdl_run_frame`.  If the emulation does not return within the fuel, the
session is left as it was. -/
def ccdlRunFrame (session : Session Engine) (fuel : Nat) :
    Session Engine × FrameResult Engine :=
  if session.aborted then (session, .skipped)
  else
    match session.uc with
    | none => (session, .crashed)
    | some engine =>
        let pc := unicorn.regRead engine .pc
        match ucEmuStart unicorn fuel engine pc with
        | none => (session, .started none)
        | some emulated =>
            if emulated.err ≠ ucErrOk then
              (⟨some emulated.engine, true⟩, .started (some emulated))
            else
              ({ session with uc := some emulated.engine },
                .started (some emulated))

/-! ## What ends a session -/

/-- Running guest code from an engine reaches the panic handler within the
fuel. -/
def guestPanics : (fuel : Nat) → Engine → Bool
  | 0, _ => false
  | fuel + 1, engine =>
      match unicorn.resume engine with
      | some (.svc .panic _) => true
      | some (.svc .other after) => guestPanics fuel after
      | _ => false

/-- The emulator library opens an engine, but a checked call of `load_rom`
fails. -/
def setupFails (rom msbuffer : List Byte) : Bool :=
  match unicorn.ucOpen with
  | .error _ => false
  | .ok opened => !(setUp unicorn (setupCalls rom msbuffer) opened).1

/-- The guest panics when it is started with the game. -/
def startPanics (fuel : Nat) (rom msbuffer : List Byte) : Bool :=
  match unicorn.ucOpen with
  | .error _ => false
  | .ok opened =>
      match setUp unicorn (setupCalls rom msbuffer) opened with
      | (false, _) => false
      | (true, engine) =>
          guestPanics unicorn fuel
            (unicorn.regWrite (startRegisters unicorn rom engine) .pc
              minisysAddr)

/-- The guest panics when it goes on from a session that is not aborted. -/
def framePanics (session : Session Engine) (fuel : Nat) : Bool :=
  !session.aborted && session.uc.any fun engine =>
    guestPanics unicorn fuel
      (unicorn.regWrite engine .pc (unicorn.regRead engine .pc))

end Code

/-! ## Death -/

/-- The guest executed the panic handler. -/
def Emulated.panicked {Engine : Type u} (emulated : Emulated Engine) :
    Bool :=
  decide (SvcHandler.panic ∈ emulated.handlers)

/-- The guest panicked while the game was loaded. -/
def LoadRomResult.panicked {Engine : Type u} :
    LoadRomResult Engine → Bool
  | .emulationFailed emulated => emulated.panicked
  | .loaded emulated => emulated.panicked
  | _ => false

/-- The guest panicked in the frame. -/
def FrameResult.panicked {Engine : Type u} : FrameResult Engine → Bool
  | .started (some emulated) => emulated.panicked
  | _ => false

/-- The frame started the emulator. -/
def FrameResult.starts {Engine : Type u} : FrameResult Engine → Bool
  | .started _ => true
  | _ => false

/-- Once `load_rom` has returned `-1` or the guest has panicked, no frame
starts the emulator. -/
def StaysDead {Engine : Type u} (loaded : LoadRomResult Engine)
    (frames : List (FrameResult Engine)) : Prop :=
  ∀ before result after, frames = before ++ result :: after →
    (loaded.code = some (-1) ∨ loaded.panicked = true ∨
      ∃ earlier ∈ before, earlier.panicked = true) →
        result.starts = false

section Runs

variable {Engine : Type u} {unicorn : Unicorn Engine}

/-- The next frame starts the emulator. -/
def Session.Live (session : Session Engine) : Prop :=
  session.aborted = false ∧ session.uc.isSome = true

/-- An emulation in which the guest panics returns, and without an error. -/
theorem emulate_of_guestPanics {fuel : Nat} {engine : Engine}
    (panics : guestPanics unicorn fuel engine = true) :
    ∃ emulated, emulate unicorn fuel engine = some emulated ∧
      emulated.panicked = true ∧ emulated.err = ucErrOk := by
  induction fuel generalizing engine with
  | zero => contradiction
  | succ fuel inductionHypothesis =>
      rw [guestPanics] at panics
      split at panics
      · rename_i after event
        exact ⟨⟨[.panic], ucErrOk, after⟩,
          by simp [emulate, event, SvcHandler.stops], rfl, rfl⟩
      · rename_i after event
        obtain ⟨rest, returned, panicked, clean⟩ :=
          inductionHypothesis panics
        refine ⟨{ rest with handlers := .other :: rest.handlers },
          by simp [emulate, event, SvcHandler.stops, returned], ?_, clean⟩
        simpa [Emulated.panicked] using panicked
      · contradiction

/-- If the guest panicked in an emulation, it panics. -/
theorem guestPanics_of_emulate {fuel : Nat} {engine : Engine}
    {emulated : Emulated Engine}
    (returned : emulate unicorn fuel engine = some emulated)
    (panicked : emulated.panicked = true) :
    guestPanics unicorn fuel engine = true := by
  induction fuel generalizing engine emulated with
  | zero => contradiction
  | succ fuel inductionHypothesis =>
      rw [emulate] at returned
      rw [guestPanics]
      cases event : unicorn.resume engine with
      | none => simp [event] at returned
      | some interrupted =>
          cases interrupted with
          | ended err after =>
              simp only [event, Option.some.injEq] at returned
              simp [← returned, Emulated.panicked] at panicked
          | svc handler after =>
              cases handler with
              | newFrame =>
                  simp only [event, SvcHandler.stops, if_true,
                    Option.some.injEq] at returned
                  simp [← returned, Emulated.panicked] at panicked
              | panic => rfl
              | other =>
                  simp only [event, SvcHandler.stops, Bool.false_eq_true,
                    if_false, Option.map_eq_some_iff] at returned
                  obtain ⟨rest, continued, rfl⟩ := returned
                  exact inductionHypothesis continued
                    (by simpa [Emulated.panicked] using panicked)

/-- In a live session the next frame starts the emulator. -/
theorem Session.Live.starts {session : Session Engine}
    (live : session.Live) (fuel : Nat) :
    (ccdlRunFrame unicorn session fuel).2.starts = true := by
  obtain ⟨alive, present⟩ := live
  obtain ⟨engine, opened⟩ := Option.isSome_iff_exists.mp present
  simp only [ccdlRunFrame, alive, opened, Bool.false_eq_true, if_false]
  split
  · rfl
  · split <;> rfl

/-- Otherwise it does not, and the session stays as it is. -/
theorem ccdlRunFrame_of_not_live {session : Session Engine}
    (dead : ¬ session.Live) (fuel : Nat) :
    (ccdlRunFrame unicorn session fuel).1 = session ∧
      (ccdlRunFrame unicorn session fuel).2.starts = false := by
  unfold ccdlRunFrame
  split
  · exact ⟨rfl, rfl⟩
  · rename_i alive
    cases opened : session.uc with
    | none => exact ⟨rfl, rfl⟩
    | some engine =>
        exact absurd ⟨by simpa using alive, by simp [opened]⟩ dead

/-- No frame makes a session live again. -/
theorem final_not_live {session : Session Engine}
    (dead : ¬ session.Live) (fuels : List Nat) :
    ¬ (Machine.final (ccdlRunFrame unicorn) session fuels).Live := by
  refine @Machine.final_invariant _ _ _ (ccdlRunFrame unicorn)
    (fun state => ¬ state.Live) ?_ session dead fuels
  intro state fuel gone
  rwa [(ccdlRunFrame_of_not_live gone fuel).1]

/-- A frame in which the guest panics leaves the session live. -/
theorem live_of_framePanics {session : Session Engine} {fuel : Nat}
    (panics : framePanics unicorn session fuel = true) :
    (ccdlRunFrame unicorn session fuel).2.panicked = true ∧
      (ccdlRunFrame unicorn session fuel).1.Live := by
  rw [framePanics, Bool.and_eq_true, Option.any_eq_true] at panics
  obtain ⟨alive, engine, opened, reaches⟩ := panics
  obtain ⟨emulated, returned, panicked, clean⟩ :=
    emulate_of_guestPanics reaches
  have notAborted : session.aborted = false := by simpa using alive
  simp only [ccdlRunFrame, notAborted, opened, Bool.false_eq_true,
    if_false, ucEmuStart, returned, clean, ne_eq, not_true_eq_false]
  exact ⟨panicked, rfl, rfl⟩

/-- If the guest panicked in a frame, it panics. -/
theorem framePanics_of_panicked {session : Session Engine} {fuel : Nat}
    (panicked : (ccdlRunFrame unicorn session fuel).2.panicked = true) :
    framePanics unicorn session fuel = true := by
  unfold ccdlRunFrame at panicked
  split at panicked
  · contradiction
  · rename_i alive
    cases opened : session.uc with
    | none => simp [opened, FrameResult.panicked] at panicked
    | some engine =>
        simp only [opened] at panicked
        split at panicked
        · contradiction
        · rename_i emulated returned
          have inEmulation : emulated.panicked = true := by
            split at panicked <;> exact panicked
          simpa [framePanics, alive, opened] using
            guestPanics_of_emulate returned inEmulation

/-- A failed set-up leaves the session live, and so does a panic in
`load_rom`. -/
theorem live_of_load {loadFuel : Nat} {rom msbuffer : List Byte}
    (ends : setupFails unicorn rom msbuffer = true ∨
      startPanics unicorn loadFuel rom msbuffer = true) :
    ((loadRom unicorn loadFuel rom msbuffer Session.initial).2.code =
        some (-1) ∨
      (loadRom unicorn loadFuel rom msbuffer Session.initial).2.panicked =
        true) ∧
      (loadRom unicorn loadFuel rom msbuffer Session.initial).1.Live := by
  unfold loadRom
  unfold setupFails startPanics at ends
  cases opening : unicorn.ucOpen with
  | error err => simp [opening] at ends
  | ok opened =>
      rcases prepared : setUp unicorn (setupCalls rom msbuffer) opened
        with ⟨succeeded, engine⟩
      cases succeeded with
      | false =>
          simp only [prepared]
          exact ⟨Or.inl rfl, rfl, rfl⟩
      | true =>
          simp only [opening, prepared, Bool.not_true, Bool.false_eq_true,
            false_or] at ends
          obtain ⟨emulated, returned, panicked, clean⟩ :=
            emulate_of_guestPanics ends
          simp only [prepared, ucEmuStart, returned, clean, ne_eq,
            not_true_eq_false, if_false]
          exact ⟨Or.inr panicked, rfl, rfl⟩

/-- Every other failure of `load_rom` leaves no live session. -/
theorem load_of_dead {loadFuel : Nat} {rom msbuffer : List Byte}
    (dies : (loadRom unicorn loadFuel rom msbuffer
          Session.initial).2.code = some (-1) ∨
      (loadRom unicorn loadFuel rom msbuffer
          Session.initial).2.panicked = true) :
    setupFails unicorn rom msbuffer = true ∨
      startPanics unicorn loadFuel rom msbuffer = true ∨
        ¬ (loadRom unicorn loadFuel rom msbuffer
            Session.initial).1.Live := by
  unfold loadRom at dies ⊢
  unfold setupFails startPanics
  cases opening : unicorn.ucOpen with
  | error err => simp [Session.Live, Session.initial]
  | ok opened =>
      rcases prepared : setUp unicorn (setupCalls rom msbuffer) opened
        with ⟨succeeded, engine⟩
      cases succeeded with
      | false => simp [prepared]
      | true =>
          simp only [opening, prepared] at dies ⊢
          cases returned : ucEmuStart unicorn loadFuel
              (startRegisters unicorn rom engine) minisysAddr with
          | none =>
              simp [returned, LoadRomResult.code,
                LoadRomResult.panicked] at dies
          | some emulated =>
              simp only [returned] at dies ⊢
              by_cases failed : emulated.err = ucErrOk
              · simp only [failed, ne_eq, not_true_eq_false, if_false,
                  LoadRomResult.code, Option.some.injEq] at dies
                have panicked : emulated.panicked = true := by
                  simpa [LoadRomResult.panicked] using dies
                exact Or.inr (Or.inl
                  (guestPanics_of_emulate returned panicked))
              · right
                right
                simp [failed, Session.Live]

/-- No frame follows a load that failed but left the session live. -/
theorem StaysDead.nil_of_live {loaded : LoadRomResult Engine}
    {session : Session Engine} {fuels : List Nat}
    (staysDead : StaysDead loaded
      (Machine.outputs (ccdlRunFrame unicorn) session fuels))
    (dies : loaded.code = some (-1) ∨ loaded.panicked = true)
    (live : session.Live) : fuels = [] := by
  cases fuels with
  | nil => rfl
  | cons fuel rest =>
      have stopped := staysDead [] _ _ rfl (by tauto)
      rw [live.starts fuel] at stopped
      contradiction

/-- No frame follows one in which the guest panics. -/
theorem StaysDead.nil_of_framePanics {loaded : LoadRomResult Engine}
    {session : Session Engine} {before : List Nat} {fuel : Nat}
    {after : List Nat}
    (staysDead : StaysDead loaded (Machine.outputs (ccdlRunFrame unicorn)
      session (before ++ fuel :: after)))
    (panics : framePanics unicorn
      (Machine.final (ccdlRunFrame unicorn) session before) fuel = true) :
    after = [] := by
  cases after with
  | nil => rfl
  | cons next rest =>
      obtain ⟨panicked, live⟩ := live_of_framePanics panics
      have stopped := staysDead
        (Machine.outputs (ccdlRunFrame unicorn) session before ++ [_]) _ _
        (by rw [Machine.outputs_append, List.append_assoc]; rfl)
        (Or.inr (Or.inr ⟨_, List.mem_append_right _
          (List.mem_singleton_self _), panicked⟩))
      rw [live.starts next] at stopped
      contradiction

/-- When every frame in which the guest panics is the last, and a load that
failed is followed by no frame or has left no live session, the run stays
dead. -/
theorem staysDead_of_last {loaded : LoadRomResult Engine}
    {session : Session Engine} {fuels : List Nat}
    (load : loaded.code = some (-1) ∨ loaded.panicked = true →
      fuels = [] ∨ ¬ session.Live)
    (last : ∀ before fuel after, fuels = before ++ fuel :: after →
      framePanics unicorn
          (Machine.final (ccdlRunFrame unicorn) session before) fuel =
            true → after = []) :
    StaysDead loaded
      (Machine.outputs (ccdlRunFrame unicorn) session fuels) := by
  intro before result after split dead
  obtain ⟨first, fuel, rest, rfl, rfl, rfl⟩ :=
    Machine.outputs_eq_append_cons _ split
  rw [← or_assoc] at dead
  rcases dead with dies | ⟨earlier, present, panicked⟩
  · rcases load dies with none | dead
    · simp at none
    · exact (ccdlRunFrame_of_not_live (final_not_live dead first) fuel).2
  · obtain ⟨head, tail, parts⟩ := List.append_of_mem present
    obtain ⟨start, panicking, middle, rfl, rfl, rfl⟩ :=
      Machine.outputs_eq_append_cons _ parts
    have none := last start panicking (middle ++ fuel :: rest)
      (List.append_assoc _ _ _) (framePanics_of_panicked panicked)
    simp at none

/-- A run of `load_rom` and frames stays dead exactly when no frame follows a
checked call of `load_rom` that failed, or a panic. -/
theorem stays_dead_iff (unicorn : Unicorn Engine) (loadFuel : Nat)
    (rom msbuffer : List Byte) (fuels : List Nat) :
    StaysDead (loadRom unicorn loadFuel rom msbuffer Session.initial).2
        (Machine.outputs (ccdlRunFrame unicorn)
          (loadRom unicorn loadFuel rom msbuffer Session.initial).1
          fuels) ↔
      ((setupFails unicorn rom msbuffer = true ∨
          startPanics unicorn loadFuel rom msbuffer = true) →
        fuels = []) ∧
      ∀ before fuel after, fuels = before ++ fuel :: after →
        framePanics unicorn
            (Machine.final (ccdlRunFrame unicorn)
              (loadRom unicorn loadFuel rom msbuffer Session.initial).1
              before) fuel = true →
          after = [] := by
  constructor
  · intro staysDead
    constructor
    · intro ends
      obtain ⟨dies, live⟩ := live_of_load ends
      exact staysDead.nil_of_live dies live
    · rintro before fuel after rfl panics
      exact staysDead.nil_of_framePanics panics
  · rintro ⟨noneAfterLoad, noneAfterFrame⟩
    refine staysDead_of_last ?_ noneAfterFrame
    intro dies
    rcases load_of_dead dies with fails | panics | dead
    · exact .inl (noneAfterLoad (.inl fails))
    · exact .inl (noneAfterLoad (.inr panics))
    · exact .inr dead

end Runs

/-- An engine that holds the bytes of miniSYS and the program counter. -/
structure SampleEngine where
  code : List Byte
  pc : Word

/-- An emulator that runs `svc` instructions, numbered as `make-thunks.py`
numbers them, and stops with `UC_ERR_INSN_INVALID` at any other. -/
def sampleUnicorn : Unicorn SampleEngine where
  ucOpen := .ok ⟨[], 0⟩
  perform engine call :=
    match call with
    | .memWrite address bytes =>
        if address = minisysAddr then
          (ucErrOk, { engine with code := bytes })
        else (ucErrOk, engine)
    | _ => (ucErrOk, engine)
  regRead engine _ := engine.pc
  regWrite engine register value :=
    match register with
    | .pc => { engine with pc := value }
    | _ => engine
  resume engine :=
    let next := { engine with pc := engine.pc + 4 }
    match engine.code.drop (engine.pc - minisysAddr).toNat with
    | 9 :: 0 :: 0 :: 0xEF :: _ => some (.svc .newFrame next)
    | 10 :: 0 :: 0 :: 0xEF :: _ => some (.svc .panic next)
    | number :: 0 :: 0 :: 0xEF :: _ =>
        if number < 13 then some (.svc .other next)
        else some (.ended 10 engine)
    | _ => some (.ended 10 engine)

/-- A miniSYS that panics, and then gives up a frame. -/
def samplePanic : List Byte :=
  [10, 0, 0, 0xEF, 9, 0, 0, 0xEF] ++ List.replicate 0x3FFF8 0

/-- After a panic at the start of the game, the next frame starts the emulator
again. -/
theorem frame_starts_after_panic :
    ¬ ∀ (Engine : Type) (unicorn : Unicorn Engine) (loadFuel : Nat)
      (rom msbuffer : List Byte) (fuels : List Nat),
        StaysDead (loadRom unicorn loadFuel rom msbuffer Session.initial).2
          (Machine.outputs (ccdlRunFrame unicorn)
            (loadRom unicorn loadFuel rom msbuffer Session.initial).1
            fuels) := by
  intro staysDead
  have stopped := staysDead SampleEngine sampleUnicorn 1 [] samplePanic [1]
    [] _ [] rfl (Or.inr (Or.inl (by decide)))
  revert stopped
  decide

end Host
end GA330
