import GA330.Host.Afresh
import GA330.Library.Slices

/-!
# A game in frames

`Svc_GemeiEmu_newFrame` stops the emulation, and the next `retro_run` starts it
again from the program counter.  The guest cannot tell: what it does in the
course of many frames, it does in one run that nothing interrupts, and each
frame shows the frame buffer as it is when the guest asks for the next one.
-/

namespace GA330
namespace Host

open ByteMemory

/-! ## The guest by itself -/

/-- A guest in its engine, with the file state. -/
structure Guest (Engine : Type u) where
  engine : Engine
  files : FileState

/-- What a guest has called, and how it goes on. -/
abbrev Served (Engine : Type u) := EmuHandler × Guest Engine

section Guests

variable {Engine : Type u} (emulator : Emulator Engine)

/-- Run the guest up to a supervisor call, and serve that. -/
def serve (answer : HostAnswer) (guest : Guest Engine) :
    Option (Served Engine) :=
  match emulator.resume guest.engine with
  | none => none
  | some (.ended _ _) => none
  | some (.raised intno engine) =>
      match calledHandler emulator intno engine with
      | none => none
      | some handler =>
          (svcHandle emulator answer engine guest.files handler).map
            fun after => (handler, ⟨after.1, after.2⟩)

/-- The guest's frame buffer. -/
def Guest.picture (guest : Guest Engine) : Option (List Byte) :=
  (emulator.memory guest.engine).ucMemRead framebufAddr frameBytes

/-- Handlers up to the one that gives up the frame. -/
inductive IsFrame : List EmuHandler → Prop
  | newFrame : IsFrame [.newFrame]
  | other {handler : EmuHandler} {rest : List EmuHandler}
      (goesOn : handler.kind = .other) (later : IsFrame rest) :
      IsFrame (handler :: rest)

/-- The guests that have asked for a new frame. -/
def newFrames (served : List (Served Engine)) : List (Guest Engine) :=
  (served.filter fun call => decide (call.1 = .newFrame)).map Prod.snd

/-- What is shown of the guests; a frame buffer that cannot be read leaves what
was shown before. -/
def framesShown (frameBuf : List Byte) :
    List (Guest Engine) → List (List Byte)
  | [] => []
  | guest :: rest =>
      let shown := (guest.picture emulator).getD frameBuf
      shown :: framesShown shown rest

/-- Starting the engine from its program counter starts it as it is. -/
def Still (engine : Engine) : Prop :=
  emulator.regWrite engine .pc
    (emulator.registers engine UcRegister.pc.index) = engine

/-- Wherever the guest asks for a new frame, its engine is started as it was
stopped. -/
def Restarts (guest : Guest Engine) : Prop :=
  ∀ answers served,
    Slices.run (serve emulator) guest answers = some served →
      (served.map Prod.fst).getLast? = some .newFrame →
        Still emulator (Slices.last guest served).engine

/-! ## The guest in frames -/

/-- The frame ends because the guest asks for the next one. -/
def EndsFrame (core : Core Engine) (input : HostInput) : Prop :=
  ∃ emulated, (core.runFrame emulator input).2 = .started (some emulated) ∧
    emulated.handlers.getLast? = some .newFrame

/-- Calls of `retro_run` that all end with a new frame, the guest that they
lead to, and what they show. -/
structure PlaysFrames (core : Core Engine) (inputs : List HostInput)
    (guest : Guest Engine) (pictures : List (List Byte)) : Prop where
  ends : Machine.Admissible (retroRun emulator) (EndsFrame emulator) core
    inputs
  session : (Machine.final (retroRun emulator) core inputs).session =
    ⟨some guest.engine, false⟩
  files : (Machine.final (retroRun emulator) core inputs).files =
    guest.files
  shown : Machine.outputs (retroRun emulator) core inputs =
    pictures.map some

end Guests

section Frames

variable {Engine : Type u} {emulator : Emulator Engine}
variable {host : Nat → HostAnswer} {files : FileState}

/-- The guest of an engine that is run. -/
def Hosted.asGuest (state : Hosted Engine) : Guest Engine :=
  ⟨state.engine, state.files⟩

@[simp] theorem Hosted.asGuest_engine (state : Hosted Engine) :
    state.asGuest.engine = state.engine := rfl

/-- A call that the emulation is interrupted by is one of the guest. -/
theorem served_of_resume {state : Hosted Engine} {handler : SvcHandler}
    {after : Hosted Engine}
    (resumed : (hosted emulator host files).resume state =
      some (.svc handler after)) :
    ∃ called, called.kind = handler ∧ after.served = state.served + 1 ∧
      serve emulator (host state.served) state.asGuest =
        some (called, after.asGuest) := by
  unfold serve
  simp only [hosted, Hosted.asGuest] at resumed ⊢
  cases raised : emulator.resume state.engine with
  | none => simp [raised] at resumed
  | some interrupt =>
      cases interrupt with
      | ended err engine => simp [raised] at resumed
      | raised intno engine =>
          simp only [raised] at resumed ⊢
          cases found : calledHandler emulator intno engine with
          | none => simp [found] at resumed
          | some called =>
              simp only [found] at resumed ⊢
              cases handled : svcHandle emulator (host state.served) engine
                  state.files called with
              | none => simp [handled] at resumed
              | some result =>
                  simp only [handled, Option.some.injEq,
                    GuestEvent.svc.injEq] at resumed
                  obtain ⟨sameKind, rfl⟩ := resumed
                  exact ⟨called, sameKind, rfl, rfl⟩

/-- The emulation is interrupted by a call of the guest. -/
theorem resume_of_served {state : Hosted Engine} {called : EmuHandler}
    {guest : Guest Engine}
    (served : serve emulator (host state.served) state.asGuest =
      some (called, guest)) :
    ∃ after, (hosted emulator host files).resume state =
        some (.svc called.kind after) ∧
      after.served = state.served + 1 ∧ after.asGuest = guest := by
  unfold serve at served
  simp only [hosted, Hosted.asGuest] at served ⊢
  cases raised : emulator.resume state.engine with
  | none => simp [raised] at served
  | some interrupt =>
      cases interrupt with
      | ended err engine => simp [raised] at served
      | raised intno engine =>
          simp only [raised] at served ⊢
          cases found : calledHandler emulator intno engine with
          | none => simp [found] at served
          | some handler =>
              simp only [found] at served ⊢
              obtain ⟨after, handled, same⟩ :=
                Option.map_eq_some_iff.mp served
              obtain ⟨rfl, rfl⟩ := Prod.mk.inj same
              rw [handled]
              exact ⟨_, rfl, rfl, rfl⟩

theorem isFrame_cons {called : EmuHandler} {rest : List EmuHandler} :
    IsFrame (called :: rest) ↔
      (called = .newFrame ∧ rest = []) ∨
        (called.kind = .other ∧ IsFrame rest) := by
  constructor
  · rintro (_ | ⟨goesOn, later⟩)
    · exact .inl ⟨rfl, rfl⟩
    · exact .inr ⟨goesOn, later⟩
  · rintro (⟨rfl, rfl⟩ | ⟨goesOn, later⟩)
    · exact .newFrame
    · exact .other goesOn later

theorem kind_eq_newFrame {handler : EmuHandler} :
    handler.kind = .newFrame ↔ handler = .newFrame := by
  cases handler <;> simp [EmuHandler.kind]

theorem kind_eq_other {handler : EmuHandler} :
    handler.kind = .other ↔ handler.kind.stops = false := by
  cases handler <;> simp [EmuHandler.kind, SvcHandler.stops]

/-- An emulation that ends with a new frame is a frame of the guest. -/
theorem frame_of_emulate {fuel : Nat} {state : Hosted Engine}
    {emulated : Emulated (Hosted Engine)}
    (ended : emulate (hosted emulator host files) fuel state =
      some emulated)
    (asked : emulated.handlers.getLast? = some .newFrame) :
    emulated.err = ucErrOk ∧
      ∃ frame, IsFrame (frame.map Prod.fst) ∧
        Slices.run (serve emulator) state.asGuest
            (Slices.supplied (fun index => host (state.served + index))
              frame.length) = some frame ∧
          Slices.last state.asGuest frame = emulated.engine.asGuest := by
  induction fuel generalizing state emulated with
  | zero => contradiction
  | succ fuel inductionHypothesis =>
      rw [emulate] at ended
      cases resumed : (hosted emulator host files).resume state with
      | none => simp [resumed] at ended
      | some event =>
          simp only [resumed] at ended
          cases event with
          | ended err after =>
              cases ended
              contradiction
          | svc handler after =>
              obtain ⟨called, kind, count, served⟩ :=
                served_of_resume resumed
              dsimp only at ended
              split at ended
              · cases ended
                have newFrame : handler = .newFrame := by
                  simpa using asked
                rw [newFrame, kind_eq_newFrame] at kind
                subst kind
                refine ⟨rfl, [(_, after.asGuest)], .newFrame, ?_, rfl⟩
                rw [List.length_singleton, Slices.supplied_succ,
                  Slices.run_cons, Nat.add_zero, served]
                rfl
              · rename_i goesOn
                obtain ⟨rest, later, rfl⟩ := Option.map_eq_some_iff.mp ended
                have askedLater : rest.handlers.getLast? =
                    some .newFrame := by
                  rw [List.getLast?_cons] at asked
                  cases empty : rest.handlers.getLast? with
                  | none =>
                      simp only [empty, Option.getD_none,
                        Option.some.injEq] at asked
                      exact absurd asked (by rintro rfl; exact goesOn rfl)
                  | some final => simpa [empty] using asked
                obtain ⟨clean, frame, isFrame, runs, reached⟩ :=
                  inductionHypothesis later askedLater
                refine ⟨clean, (called, after.asGuest) :: frame,
                  .other ?_ isFrame, ?_, reached⟩
                · rw [kind_eq_other, kind]
                  exact Bool.eq_false_of_not_eq_true goesOn
                · rw [List.length_cons, Slices.supplied_succ,
                    Slices.run_cons, Nat.add_zero, served,
                    Option.bind_some]
                  simp only [count, Nat.add_assoc, Nat.add_comm 1] at runs
                  simp only [runs, Option.map_some]

/-- A frame of the guest is an emulation that ends with a new frame. -/
theorem emulate_of_frame {state : Hosted Engine}
    {frame : List (Served Engine)} (isFrame : IsFrame (frame.map Prod.fst))
    (runs : Slices.run (serve emulator) state.asGuest
      (Slices.supplied (fun index => host (state.served + index))
        frame.length) = some frame) :
    ∃ emulated, emulate (hosted emulator host files) frame.length state =
        some emulated ∧
      emulated.handlers.getLast? = some .newFrame ∧
        emulated.engine.asGuest = Slices.last state.asGuest frame := by
  induction frame generalizing state with
  | nil => cases isFrame
  | cons call rest inductionHypothesis =>
      obtain ⟨called, guest⟩ := call
      rw [List.length_cons, Slices.supplied_succ, Slices.run_cons,
        Nat.add_zero] at runs
      obtain ⟨reached, served, others⟩ := Option.bind_eq_some_iff.mp runs
      obtain ⟨later, runsLater, same⟩ := Option.map_eq_some_iff.mp others
      obtain ⟨rfl, rfl⟩ := List.cons.inj same
      obtain ⟨after, resumed, count, rfl⟩ :=
        @resume_of_served _ emulator host files _ _ _ served
      rw [List.length_cons, emulate, resumed]
      rw [List.map_cons, isFrame_cons] at isFrame
      rcases isFrame with ⟨rfl, none⟩ | ⟨goesOn, isFrameLater⟩
      · rw [List.map_eq_nil_iff] at none
        subst none
        exact ⟨⟨[.newFrame], ucErrOk, after⟩, rfl, rfl, rfl⟩
      · have runsOn : Slices.run (serve emulator) after.asGuest
            (Slices.supplied (fun index => host (after.served + index))
              later.length) = some later := by
          simp only [count, Nat.add_assoc, Nat.add_comm 1]
          exact runsLater
        obtain ⟨emulated, ended, asked, reached⟩ :=
          inductionHypothesis isFrameLater runsOn
        rw [kind_eq_other] at goesOn
        refine ⟨{ emulated with
          handlers := called.kind :: emulated.handlers }, ?_, ?_, reached⟩
        · simp only [goesOn, Bool.false_eq_true, if_false, ended,
            Option.map_some]
        · rw [List.getLast?_cons, asked, Option.getD_some]

/-! ## One frame -/

/-- A core that runs a guest. -/
structure Core.Runs (core : Core Engine) (guest : Guest Engine) : Prop where
  session : core.session = ⟨some guest.engine, false⟩
  files : core.files = guest.files

/-- A call of `retro_run` that leads to a guest and shows its frame buffer. -/
structure FrameTo (emulator : Emulator Engine) (core : Core Engine)
    (input : HostInput) (guest : Guest Engine) : Prop where
  runs : (retroRun emulator core input).1.Runs guest
  frameBuf : (retroRun emulator core input).1.frameBuf =
    (guest.picture emulator).getD core.frameBuf
  shown : (retroRun emulator core input).2 =
    some ((guest.picture emulator).getD core.frameBuf)

variable {core : Core Engine} {guest : Guest Engine} {input : HostInput}

/-- A frame starts the guest as it is. -/
theorem Core.Runs.runFrame (running : core.Runs guest)
    (still : Still emulator guest.engine) :
    core.runFrame emulator input =
      (emulate (hosted emulator input.host core.files) input.fuel
          (core.hostedEngine guest.engine)).elim (core, .started none)
        fun emulated =>
          (core.after emulated (decide (emulated.err ≠ ucErrOk)),
            .started (some emulated)) := by
  have alive : core.session.aborted = false := by rw [running.session]
  have present : core.session.uc = some guest.engine := by
    rw [running.session]
  have start : core.frameStart emulator guest.engine =
      core.hostedEngine guest.engine := by
    rw [Core.frameStart, still]
  rw [Core.runFrame_started alive present, start]
  cases emulate (hosted emulator input.host core.files) input.fuel
      (core.hostedEngine guest.engine) with
  | none => rfl
  | some emulated => rfl

theorem Core.Runs.asGuest (running : core.Runs guest) :
    (core.hostedEngine guest.engine).asGuest = guest := by
  rw [Core.hostedEngine, Hosted.asGuest, running.files]

/-- An emulation that ends without an error. -/
theorem Core.Runs.frameTo (running : core.Runs guest)
    (still : Still emulator guest.engine)
    {emulated : Emulated (Hosted Engine)}
    (ended : emulate (hosted emulator input.host core.files) input.fuel
      (core.hostedEngine guest.engine) = some emulated)
    (clean : emulated.err = ucErrOk) :
    FrameTo emulator core input emulated.engine.asGuest := by
  have frame := @Core.Runs.runFrame _ emulator _ _ input running still
  simp only [ended, Option.elim_some, clean, ne_eq, not_true_eq_false,
    decide_false] at frame
  have present : (core.after emulated false).session.uc =
      some emulated.engine.engine := rfl
  have picture : (core.after emulated false).framebuffer emulator =
      emulated.engine.asGuest.picture emulator := by
    rw [Core.framebuffer, present, Option.bind_some, Guest.picture,
      Hosted.asGuest_engine]
  have kept : (core.after emulated false).frameBuf = core.frameBuf := rfl
  have ran := retroRun_returned frame rfl rfl
  rw [picture, kept] at ran
  constructor
  · rw [ran]
    exact ⟨rfl, rfl⟩
  · rw [ran]
  · rw [ran]

/-- A call of `retro_run` that ends with a new frame goes through one frame of
the guest. -/
theorem EndsFrame.frame (ends : EndsFrame emulator core input)
    (running : core.Runs guest) (still : Still emulator guest.engine) :
    ∃ frame, IsFrame (frame.map Prod.fst) ∧
      Slices.run (serve emulator) guest
          (Slices.supplied input.host frame.length) = some frame ∧
        FrameTo emulator core input (Slices.last guest frame) := by
  obtain ⟨emulated, started, asked⟩ := ends
  rw [running.runFrame still] at started
  cases ended : emulate (hosted emulator input.host core.files) input.fuel
      (core.hostedEngine guest.engine) with
  | none => simp [ended] at started
  | some found =>
      simp only [ended, Option.elim_some, FrameResult.started.injEq,
        Option.some.injEq] at started
      subst started
      obtain ⟨clean, frame, isFrame, runs, reached⟩ :=
        frame_of_emulate ended asked
      rw [running.asGuest] at runs reached
      simp only [Core.hostedEngine, Nat.zero_add] at runs
      refine ⟨frame, isFrame, runs, ?_⟩
      rw [reached]
      exact running.frameTo still ended clean

/-- With enough fuel, a frame of the guest is a call of `retro_run` that ends
with a new frame. -/
theorem endsFrame_of_frame {frame : List (Served Engine)}
    (isFrame : IsFrame (frame.map Prod.fst)) (running : core.Runs guest)
    (still : Still emulator guest.engine)
    (runs : Slices.run (serve emulator) guest
      (Slices.supplied host frame.length) = some frame) :
    EndsFrame emulator core ⟨frame.length, host⟩ ∧
      FrameTo emulator core ⟨frame.length, host⟩
        (Slices.last guest frame) := by
  have start : Slices.run (serve emulator)
      (core.hostedEngine guest.engine).asGuest
      (Slices.supplied (fun index =>
        host ((core.hostedEngine guest.engine).served + index))
          frame.length) = some frame := by
    rw [running.asGuest]
    simpa only [Core.hostedEngine, Nat.zero_add] using runs
  obtain ⟨emulated, ended, asked, reached⟩ :=
    @emulate_of_frame _ emulator host core.files _ _ isFrame start
  obtain ⟨clean, _⟩ := frame_of_emulate ended asked
  rw [running.asGuest] at reached
  rw [← reached]
  refine ⟨⟨emulated, ?_, asked⟩, running.frameTo still ended clean⟩
  rw [running.runFrame still]
  simp only [ended, Option.elim_some]

/-! ## Many frames -/

/-- The last guest of a frame is the one that asks for the next. -/
theorem newFrames_frame (guest : Guest Engine)
    {frame : List (Served Engine)}
    (isFrame : IsFrame (frame.map Prod.fst)) :
    newFrames frame = [Slices.last guest frame] := by
  induction frame generalizing guest with
  | nil => cases isFrame
  | cons call rest inductionHypothesis =>
      rw [List.map_cons, isFrame_cons] at isFrame
      rcases isFrame with ⟨asks, none⟩ | ⟨goesOn, later⟩
      · rw [List.map_eq_nil_iff] at none
        rw [none, newFrames, List.filter_cons_of_pos (by simpa using asks)]
        rfl
      · have other : call.1 ≠ .newFrame := by
          intro asks
          rw [asks] at goesOn
          contradiction
        rw [newFrames, List.filter_cons_of_neg (by simpa using other)]
        exact inductionHypothesis call.2 later

theorem newFrames_append (first second : List (Served Engine)) :
    newFrames (first ++ second) = newFrames first ++ newFrames second := by
  rw [newFrames, List.filter_append, List.map_append]
  rfl

theorem IsFrame.getLast? {handlers : List EmuHandler}
    (isFrame : IsFrame handlers) : handlers.getLast? = some .newFrame := by
  induction isFrame with
  | newFrame => rfl
  | other goesOn later inductionHypothesis =>
      rw [List.getLast?_cons, inductionHypothesis, Option.getD_some]

/-- After a frame the engine can be started again, and so it can wherever the
guest asks for a new frame from then on. -/
theorem Restarts.after (restarts : Restarts emulator guest)
    {supply : List HostAnswer} {frame : List (Served Engine)}
    (isFrame : IsFrame (frame.map Prod.fst))
    (runs : Slices.run (serve emulator) guest supply = some frame) :
    Still emulator (Slices.last guest frame).engine ∧
      Restarts emulator (Slices.last guest frame) := by
  refine ⟨restarts supply frame runs isFrame.getLast?, ?_⟩
  intro answers served later asks
  rw [← Slices.last_append]
  apply restarts (supply ++ answers) (frame ++ served)
  · exact Slices.run_append_iff.mpr ⟨frame, served, runs, later, rfl⟩
  · rw [List.map_append, List.getLast?_append, asks]
    rfl

theorem playsFrames_nil {after : Guest Engine}
    {pictures : List (List Byte)} (running : core.Runs guest) :
    PlaysFrames emulator core [] after pictures ↔
      guest = after ∧ pictures = [] := by
  constructor
  · intro plays
    have session := plays.session
    have files := plays.files
    rw [Machine.final_nil] at session files
    rw [running.session, Session.mk.injEq, Option.some.injEq] at session
    obtain ⟨engine, guestFiles⟩ := guest
    obtain ⟨afterEngine, afterFiles⟩ := after
    have sameFiles : guestFiles = afterFiles := running.files.symm.trans
      files
    have sameEngine : engine = afterEngine := session.1
    rw [sameFiles, sameEngine]
    exact ⟨rfl, List.map_eq_nil_iff.mp plays.shown.symm⟩
  · rintro ⟨rfl, rfl⟩
    exact ⟨trivial, running.session, running.files, rfl⟩

theorem playsFrames_cons {inputs : List HostInput} {after : Guest Engine}
    {pictures : List (List Byte)} :
    PlaysFrames emulator core (input :: inputs) after pictures ↔
      EndsFrame emulator core input ∧ ∃ picture others,
        pictures = picture :: others ∧
          (retroRun emulator core input).2 = some picture ∧
          PlaysFrames emulator (retroRun emulator core input).1 inputs after
            others := by
  constructor
  · rintro ⟨⟨ends, endsLater⟩, session, files, shown⟩
    cases pictures with
    | nil => cases shown
    | cons picture others =>
        rw [Machine.outputs_cons, List.map_cons, List.cons.injEq] at shown
        exact ⟨ends, picture, others, rfl, shown.1, endsLater, session,
          files, shown.2⟩
  · rintro ⟨ends, picture, others, rfl, shown, plays⟩
    refine ⟨⟨ends, plays.ends⟩, plays.session, plays.files, ?_⟩
    rw [Machine.outputs_cons, shown, plays.shown, List.map_cons]

/-- Calls of `retro_run` that all end with a new frame go through the frames of
the guest. -/
theorem playsFrames_iff_cut (restarts : Restarts emulator guest)
    (running : core.Runs guest) (still : Still emulator guest.engine)
    (hosts : List (Nat → HostAnswer)) (after : Guest Engine)
    (pictures : List (List Byte)) :
    (∃ fuels : List Nat, fuels.length = hosts.length ∧
        PlaysFrames emulator core (List.zipWith HostInput.mk fuels hosts)
          after pictures) ↔
      ∃ frames, Slices.Cut (serve emulator) guest hosts frames ∧
        (∀ frame ∈ frames, IsFrame (frame.map Prod.fst)) ∧
        Slices.last guest frames.flatten = after ∧
        pictures = framesShown emulator core.frameBuf
          (newFrames frames.flatten) := by
  induction hosts generalizing core guest pictures with
  | nil =>
      constructor
      · rintro ⟨fuels, none, plays⟩
        rw [List.zipWith_nil_right, playsFrames_nil running] at plays
        obtain ⟨same, rfl⟩ := plays
        exact ⟨[], trivial, nofun, same, rfl⟩
      · rintro ⟨frames, cut, _, same, rfl⟩
        cases frames with
        | nil =>
            refine ⟨[], rfl, ?_⟩
            rw [List.zipWith_nil_right, playsFrames_nil running]
            exact ⟨same, rfl⟩
        | cons frame rest => cases cut
  | cons host others inductionHypothesis =>
      constructor
      · rintro ⟨fuels, sameLength, plays⟩
        cases fuels with
        | nil => contradiction
        | cons fuel rest =>
            rw [List.zipWith_cons_cons, playsFrames_cons] at plays
            obtain ⟨ends, picture, later, rfl, shown, playsLater⟩ := plays
            obtain ⟨frame, isFrame, runs, frameTo⟩ :=
              ends.frame running still
            obtain ⟨stillAfter, restartsAfter⟩ :=
              restarts.after isFrame runs
            obtain ⟨frames, cut, areFrames, reached, rfl⟩ :=
              (inductionHypothesis restartsAfter frameTo.runs stillAfter
                later).mp ⟨rest, Nat.succ.inj sameLength, playsLater⟩
            refine ⟨frame :: frames, ⟨runs, cut⟩, ?_, ?_, ?_⟩
            · rw [List.forall_mem_cons]
              exact ⟨isFrame, areFrames⟩
            · rw [List.flatten_cons, Slices.last_append, reached]
            · rw [List.flatten_cons, newFrames_append,
                newFrames_frame guest isFrame]
              rw [frameTo.shown, Option.some.injEq] at shown
              rw [List.singleton_append, framesShown, frameTo.frameBuf,
                ← shown]
      · rintro ⟨frames, cut, areFrames, reached, rfl⟩
        cases frames with
        | nil => cases cut
        | cons frame rest =>
            rw [List.forall_mem_cons] at areFrames
            obtain ⟨isFrame, areLater⟩ := areFrames
            obtain ⟨runs, cutLater⟩ := cut
            obtain ⟨ends, frameTo⟩ :=
              endsFrame_of_frame isFrame running still runs
            rw [List.flatten_cons, Slices.last_append] at reached
            obtain ⟨stillAfter, restartsAfter⟩ :=
              restarts.after isFrame runs
            obtain ⟨fuels, sameLength, playsLater⟩ :=
              (inductionHypothesis restartsAfter frameTo.runs stillAfter
                _).mpr ⟨rest, cutLater, areLater, reached, rfl⟩
            refine ⟨frame.length :: fuels, congrArg Nat.succ sameLength, ?_⟩
            rw [List.zipWith_cons_cons, playsFrames_cons, List.flatten_cons,
              newFrames_append, newFrames_frame guest isFrame,
              List.singleton_append, framesShown]
            rw [frameTo.frameBuf] at playsLater
            exact ⟨ends, _, _, rfl, frameTo.shown, playsLater⟩

/-- What calls of `retro_run` lead to and show while all of them end with a new
frame is what one run of the guest leads to, with the frame buffer at each new
frame: the guest is not aware of being interrupted. -/
theorem frames_uninterrupted (restarts : Restarts emulator guest)
    (running : core.Runs guest) (still : Still emulator guest.engine)
    (hosts : List (Nat → HostAnswer)) (after : Guest Engine)
    (pictures : List (List Byte)) :
    (∃ fuels : List Nat, fuels.length = hosts.length ∧
        PlaysFrames emulator core (List.zipWith HostInput.mk fuels hosts)
          after pictures) ↔
      ∃ frames, frames.length = hosts.length ∧
        (∀ frame ∈ frames, IsFrame (frame.map Prod.fst)) ∧
        Slices.run (serve emulator) guest (Slices.inputs hosts frames) =
          some frames.flatten ∧
        Slices.last guest frames.flatten = after ∧
        pictures = framesShown emulator core.frameBuf
          (newFrames frames.flatten) := by
  rw [playsFrames_iff_cut restarts running still]
  apply exists_congr
  intro frames
  rw [Slices.cut_iff]
  constructor
  · rintro ⟨⟨sameLength, runs⟩, areFrames, reached, shown⟩
    exact ⟨sameLength, areFrames, runs, reached, shown⟩
  · rintro ⟨sameLength, areFrames, runs, reached, shown⟩
    exact ⟨⟨sameLength, runs⟩, areFrames, reached, shown⟩

end Frames

/-! ## A game that counts -/

/-- Writing back what a register holds changes nothing. -/
theorem still_arm (engine : ArmEngine) : Still armEmulator engine := by
  obtain ⟨values, bytes⟩ := engine
  have same : values.set UcRegister.pc.index
      (values.getD UcRegister.pc.index 0) = values := by
    by_cases inside : UcRegister.pc.index.val < values.length
    · rw [List.getD_eq_getElem?_getD, List.getElem?_eq_getElem inside,
        Option.getD_some, List.set_getElem_self]
    · exact List.set_eq_of_length_le (Nat.le_of_not_lt inside)
  exact congrArg (fun values => ArmEngine.mk values bytes) same

theorem session_eq {Engine : Type u} {session : Session Engine}
    {engine : Engine} (present : session.uc = some engine)
    (alive : session.aborted = false) : session = ⟨some engine, false⟩ := by
  obtain ⟨uc, aborted⟩ := session
  obtain rfl : uc = some engine := present
  obtain rfl : aborted = false := alive
  rfl

/-- The game after it was loaded. -/
def countingCore : Core ArmEngine :=
  ((Core.initial fun _ => none).loadRom armEmulator countingGame).1

theorem frames_uninterrupted_sample :
    ∃ after pictures, ∃ fuels : List Nat, fuels.length = 2 ∧
      PlaysFrames armEmulator countingCore
        (List.zipWith HostInput.mk fuels [idleHost, idleHost]) after
          pictures := by
  obtain ⟨engine, present⟩ := Option.isSome_iff_exists.mp
    (show countingCore.session.uc.isSome = true by decide +kernel)
  have alive : countingCore.session.aborted = false := by decide +kernel
  have running : countingCore.Runs ⟨engine, countingCore.files⟩ :=
    ⟨session_eq present alive, rfl⟩
  have called : (countingCore.session.uc.bind fun engine =>
      (Slices.run (serve armEmulator) ⟨engine, countingCore.files⟩
        [idleHost 0, idleHost 0]).map (List.map Prod.fst)) =
          some [.newFrame, .newFrame] := by
    decide +kernel
  rw [present, Option.bind_some, Option.map_eq_some_iff] at called
  obtain ⟨served, runs, handlers⟩ := called
  obtain ⟨first, rest, rfl, asksFirst, handlersRest⟩ :=
    List.map_eq_cons_iff.mp handlers
  obtain ⟨second, none, rfl, asksSecond, handlersNone⟩ :=
    List.map_eq_cons_iff.mp handlersRest
  obtain rfl := List.map_eq_nil_iff.mp handlersNone
  refine ⟨_, _, (@frames_uninterrupted _ armEmulator _ _
    (fun _ _ _ _ => still_arm _) running (still_arm engine)
    [idleHost, idleHost] _ _).mpr
      ⟨[[first], [second]], rfl, ?_, runs, rfl, rfl⟩⟩
  intro frame present
  simp only [List.mem_cons, List.not_mem_nil, or_false] at present
  rcases present with rfl | rfl
  · rw [List.map_singleton, asksFirst]
    exact .newFrame
  · rw [List.map_singleton, asksSecond]
    exact .newFrame

end Host
end GA330
