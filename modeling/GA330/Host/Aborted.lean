import GA330.Host.History

/-!
# After a fault

Nothing sets `aborted` back.  So once `uc_emu_start` has returned an error, the
process only ever runs a guest while a game is loaded: frames, resets and
unloading do nothing, also for games that are loaded later and start well.
-/

namespace GA330
namespace Host

open ByteMemory

/-- The call loads a game. -/
def RetroCall.loads : RetroCall → Bool
  | .loadGame _ => true
  | _ => false

section Faults

variable {Engine : Type u} {emulator : Emulator Engine}
variable {left right : Core Engine}

/-- Loading a game does the same in cores that agree. -/
theorem Core.SameMachine.loadRom (same : left.SameMachine right)
    (game : Game) :
    (left.loadRom emulator game).1.SameMachine
        (right.loadRom emulator game).1 ∧
      (left.loadRom emulator game).2 = (right.loadRom emulator game).2 := by
  have sameEngine : left.hostedEngine = right.hostedEngine := by
    funext engine
    rw [Core.hostedEngine, Core.hostedEngine, same.files]
  have sameSession : left.hostedSession = right.hostedSession := by
    rw [Core.hostedSession, Core.hostedSession, same.session, sameEngine]
  simp only [Core.loadRom, sameSession, same.files]
  exact ⟨same.resumed _, trivial⟩

/-- `load_rom` leaves `aborted` set. -/
theorem loadRom_aborted {Running : Type v} {unicorn : Unicorn Running}
    {session : Session Running} (aborted : session.aborted = true)
    (fuel : Nat) (rom msbuffer : List Byte) :
    (Host.loadRom unicorn fuel rom msbuffer session).1.aborted = true := by
  unfold Host.loadRom
  split
  · exact aborted
  · split
    · exact aborted
    · dsimp only
      split
      · exact aborted
      · split
        · rfl
        · exact aborted

/-- So does loading a game. -/
theorem Core.loadRom_aborted {core : Core Engine}
    (aborted : core.session.aborted = true) (game : Game) :
    (core.loadRom emulator game).1.session.aborted = true := by
  have before : core.hostedSession.aborted = true := aborted
  exact Host.loadRom_aborted before game.input.fuel game.rom game.msbuffer

/-- `retro_load_game` does the same in cores that agree. -/
theorem Core.SameMachine.afterLoad (same : left.SameMachine right)
    (game : Game) :
    (retroLoadGame emulator left game).1.SameMachine
        (retroLoadGame emulator right game).1 ∧
      (retroLoadGame emulator left game).2 =
        (retroLoadGame emulator right game).2 := by
  obtain ⟨sameAfter, sameResult⟩ :=
    @Core.SameMachine.loadRom _ emulator _ _ same game
  unfold retroLoadGame
  split
  · refine ⟨sameAfter, ?_⟩
    dsimp only
    rw [sameResult]
  · exact ⟨same, rfl⟩

/-- `retro_run` does the same in cores that agree, but for the picture. -/
theorem Core.SameMachine.afterRun (same : left.SameMachine right)
    (input : HostInput) :
    (retroRun emulator left input).1.SameMachine
        (retroRun emulator right input).1 ∧
      (retroRun emulator left input).2.isSome =
        (retroRun emulator right input).2.isSome := by
  obtain ⟨sameAfter, sameResult⟩ :=
    @Core.SameMachine.runFrame _ emulator _ _ same input
  unfold retroRun
  simp only [sameResult, sameAfter.session]
  split
  · exact ⟨⟨rfl, sameAfter.files⟩, rfl⟩
  · exact ⟨sameAfter, rfl⟩

/-- A call that returns in a core returns in one that agrees with it. -/
theorem Core.SameMachine.afterCall (same : left.SameMachine right)
    {call : RetroCall} {after : Core Engine}
    (returned : retroCall emulator left call = some after) :
    ∃ other, retroCall emulator right call = some other ∧
      after.SameMachine other := by
  cases call with
  | reset =>
      cases returned
      exact ⟨_, rfl, same.session, same.files⟩
  | unloadGame =>
      cases returned
      exact ⟨_, rfl, same⟩
  | loadGame game =>
      obtain ⟨sameAfter, sameValue⟩ :=
        @Core.SameMachine.afterLoad _ emulator _ _ same game
      obtain ⟨value, loaded, rfl⟩ := Option.map_eq_some_iff.mp returned
      refine ⟨_, ?_, sameAfter⟩
      rw [retroCall, ← sameValue, loaded, Option.map_some]
  | run input =>
      obtain ⟨sameAfter, sameShown⟩ :=
        @Core.SameMachine.afterRun _ emulator _ _ same input
      obtain ⟨picture, shown, rfl⟩ := Option.map_eq_some_iff.mp returned
      rw [shown, Option.isSome_some] at sameShown
      obtain ⟨other, shownOther⟩ :=
        Option.isSome_iff_exists.mp sameShown.symm
      refine ⟨_, ?_, sameAfter⟩
      rw [retroCall, shownOther, Option.map_some]

/-- Loading a game leaves `aborted` set. -/
theorem retroCall_load_aborted (aborted : left.session.aborted = true)
    {game : Game} {after : Core Engine}
    (returned : retroCall emulator left (.loadGame game) = some after) :
    after.session.aborted = true := by
  obtain ⟨value, _, rfl⟩ := Option.map_eq_some_iff.mp returned
  unfold retroLoadGame
  split
  · exact Core.loadRom_aborted aborted game
  · exact aborted

/-- A frame changes at most what is shown. -/
theorem retroRun_aborted {core : Core Engine}
    (aborted : core.session.aborted = true) (input : HostInput) :
    (retroRun emulator core input).1.SameMachine core := by
  rw [retroRun, Core.runFrame_aborted aborted]
  dsimp only
  split
  · exact ⟨rfl, rfl⟩
  · exact ⟨rfl, rfl⟩

/-- Whatever else the frontend calls leaves the machine as it is, and runs no
guest. -/
theorem Core.SameMachine.idle (same : left.SameMachine right)
    (aborted : left.session.aborted = true) {call : RetroCall}
    (idle : call.loads = false) {after : Core Engine}
    (returned : retroCall emulator left call = some after) :
    after.SameMachine right ∧ after.session.aborted = true ∧
      retroFileCalls emulator left call = [] := by
  cases call with
  | loadGame game => contradiction
  | reset =>
      cases returned
      exact ⟨⟨same.session, same.files⟩, aborted, rfl⟩
  | unloadGame =>
      cases returned
      exact ⟨⟨same.session, same.files⟩, aborted, rfl⟩
  | run input =>
      obtain ⟨shown, _, rfl⟩ := Option.map_eq_some_iff.mp returned
      have unchanged := @retroRun_aborted _ emulator _ aborted input
      refine ⟨⟨?_, ?_⟩, ?_, ?_⟩
      · exact unchanged.session.trans same.session
      · exact unchanged.files.trans same.files
      · rw [unchanged.session]
        exact aborted
      · rw [retroFileCalls, if_pos aborted]

/-- Loading a game makes the same file calls in cores that agree. -/
theorem Core.SameMachine.loadCalls (same : left.SameMachine right)
    (game : Game) :
    retroFileCalls emulator left (.loadGame game) =
      retroFileCalls emulator right (.loadGame game) := by
  simp only [retroFileCalls, same.files]

/-- What is left of a history after a fault when everything but the loads is
erased. -/
theorem Core.SameMachine.erased (same : left.SameMachine right)
    (aborted : left.session.aborted = true) {calls : List RetroCall}
    {after : Core Engine}
    (past : calls.foldlM (retroCall emulator) left = some after) :
    ∃ other, (calls.filter RetroCall.loads).foldlM (retroCall emulator)
          right = some other ∧
      after.SameMachine other ∧ after.session.aborted = true ∧
      fileCallsFrom emulator left calls =
        fileCallsFrom emulator right (calls.filter RetroCall.loads) := by
  induction calls generalizing left right with
  | nil =>
      cases past
      exact ⟨right, rfl, same, aborted, rfl⟩
  | cons call rest inductionHypothesis =>
      rw [List.foldlM_cons] at past
      obtain ⟨between, returned, later⟩ := Option.bind_eq_some_iff.mp past
      rw [fileCallsFrom, returned, Option.elim_some]
      cases kind : call.loads with
      | false =>
          obtain ⟨sameBetween, stillAborted, noCalls⟩ :=
            same.idle aborted kind returned
          rw [List.filter_cons_of_neg (by simp [kind]), noCalls,
            List.nil_append]
          exact inductionHypothesis sameBetween stillAborted later
      | true =>
          cases call with
          | run input => contradiction
          | reset => contradiction
          | unloadGame => contradiction
          | loadGame game =>
              have stillAborted := retroCall_load_aborted aborted returned
              obtain ⟨other, returnedOther, sameBetween⟩ :=
                same.afterCall returned
              obtain ⟨final, erased, sameAfter, abortedAfter, sameCalls⟩ :=
                inductionHypothesis sameBetween stillAborted later
              refine ⟨final, ?_, sameAfter, abortedAfter, ?_⟩
              · rw [List.filter_cons_of_pos kind, List.foldlM_cons,
                  returnedOther]
                exact erased
              · rw [List.filter_cons_of_pos kind, fileCallsFrom,
                  returnedOther, Option.elim_some, sameCalls,
                  @Core.SameMachine.loadCalls _ emulator _ _ same game]

/-! ## What is shown -/

/-- What every frame shows: the frame buffer of the engine that is there. -/
def Core.still (emulator : Emulator Engine) (core : Core Engine) :
    Option (List Byte) :=
  core.session.uc.map fun _ =>
    (core.framebuffer emulator).getD core.frameBuf

theorem retroRun_still {core : Core Engine}
    (aborted : core.session.aborted = true) (input : HostInput) :
    (retroRun emulator core input).2 = core.still emulator ∧
      (retroRun emulator core input).1.still emulator =
        core.still emulator := by
  have frame := @Core.runFrame_aborted _ emulator _ aborted input
  cases present : core.session.uc with
  | none =>
      have ran : retroRun emulator core input = (core, none) := by
        simp only [retroRun, frame, FrameResult.returns, present,
          Option.isSome_none, Bool.and_false, Bool.false_eq_true, if_false]
      rw [ran, Core.still, present]
      exact ⟨rfl, rfl⟩
  | some engine =>
      have ran := retroRun_returned frame rfl
        (Option.isSome_of_eq_some present)
      have sameBuffer : Core.framebuffer emulator { core with
          frameBuf := (core.framebuffer emulator).getD core.frameBuf } =
            core.framebuffer emulator := rfl
      rw [ran, Core.still, Core.still, sameBuffer]
      simp only [present, Option.map_some]
      cases core.framebuffer emulator with
      | none => exact ⟨trivial, rfl⟩
      | some picture => exact ⟨trivial, rfl⟩

/-- All frames show the same picture. -/
theorem outputs_still {core : Core Engine}
    (aborted : core.session.aborted = true) (inputs : List HostInput) :
    Machine.outputs (retroRun emulator) core inputs =
      List.replicate inputs.length (core.still emulator) := by
  induction inputs generalizing core with
  | nil => rfl
  | cons input rest inductionHypothesis =>
      obtain ⟨shown, same⟩ := @retroRun_still _ emulator _ aborted input
      have unchanged := @retroRun_aborted _ emulator _ aborted input
      have stillAborted :
          (retroRun emulator core input).1.session.aborted = true := by
        rw [unchanged.session]
        exact aborted
      rw [Machine.outputs_cons, shown, inductionHypothesis stillAborted,
        same, List.length_cons, List.replicate_succ]

/-- After a fault, everything that the frontend calls can be erased from the
history but the loads: the machine ends up the same, and the guests have made
the same file calls.  No frame starts the emulator, and until the next load all
frames show the same picture. -/
theorem aborted_inert {core after : Core Engine}
    (aborted : core.session.aborted = true) {calls : List RetroCall}
    (past : calls.foldlM (retroCall emulator) core = some after) :
    (∃ loaded, (calls.filter RetroCall.loads).foldlM (retroCall emulator)
          core = some loaded ∧ after.SameMachine loaded) ∧
      fileCallsFrom emulator core calls =
        fileCallsFrom emulator core (calls.filter RetroCall.loads) ∧
      (∀ input, (after.runFrame emulator input).2 = .skipped) ∧
      ∀ inputs, Machine.outputs (retroRun emulator) after inputs =
        List.replicate inputs.length (after.still emulator) := by
  have alike : core.SameMachine core := ⟨rfl, rfl⟩
  obtain ⟨loaded, erased, same, abortedAfter, sameCalls⟩ :=
    alike.erased aborted past
  refine ⟨⟨loaded, erased, same⟩, sameCalls, ?_, ?_⟩
  · intro input
    rw [Core.runFrame_aborted abortedAfter]
  · exact outputs_still abortedAfter

end Faults

/-- A game that faults at once. -/
def faultingGame : Game := armGame [0]

/-- The process after the fault. -/
def faultedCore : Core ArmEngine :=
  ((Core.initial fun _ => none).loadRom armEmulator faultingGame).1

/-- Two frames, with a game that starts well loaded between them. -/
def faultedCalls : List RetroCall :=
  [.run idleInput, .loadGame countingGame, .run idleInput]

theorem aborted_inert_sample :
    ∃ after loaded,
      faultedCalls.foldlM (retroCall armEmulator) faultedCore =
        some after ∧
      [.loadGame countingGame].foldlM (retroCall armEmulator) faultedCore =
        some loaded ∧
      after.SameMachine loaded ∧
      fileCallsFrom armEmulator faultedCore faultedCalls =
        fileCallsFrom armEmulator faultedCore [.loadGame countingGame] ∧
      (after.runFrame armEmulator idleInput).2 = .skipped ∧
      Machine.outputs (retroRun armEmulator) after [idleInput, idleInput] =
        [after.still armEmulator, after.still armEmulator] := by
  obtain ⟨after, past⟩ := Option.isSome_iff_exists.mp
    (show (faultedCalls.foldlM (retroCall armEmulator)
      faultedCore).isSome = true by decide +kernel)
  have aborted : faultedCore.session.aborted = true := by decide +kernel
  obtain ⟨⟨loaded, erased, same⟩, sameCalls, skipped, shown⟩ :=
    aborted_inert aborted past
  exact ⟨after, loaded, past, erased, same, sameCalls, skipped idleInput,
    shown [idleInput, idleInput]⟩

end Host
end GA330
