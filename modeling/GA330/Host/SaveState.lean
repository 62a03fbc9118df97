import GA330.Host.Arm

/-!
# Save states

`retro_serialize` stores two coordinates, and nothing that `retro_run` does
depends on them: the engine, the file table and `aborted` are not saved.  So
after `retro_unserialize` the game goes on from where it was, and the frames are
those of the saved state when only the coordinates differed.
-/

namespace GA330
namespace Host

open ByteMemory

section Restoring

variable {Engine : Type u} (emulator : Emulator Engine)

/-- The frames that calls of `retro_run` show. -/
def shownFrames (core : Core Engine) (inputs : List HostInput) :
    List (Option (List Byte)) :=
  Machine.outputs (retroRun emulator) core inputs

/-- A save state of one core, restored in another, continues with the frames
of the first. -/
def Restores (saved current : Core Engine) : Prop :=
  ∀ buffer data restored, retroSerializeSize ≤ buffer.length →
    retroSerialize saved buffer = some data →
      retroUnserialize current data = some restored →
        ∀ inputs, shownFrames emulator restored inputs =
          shownFrames emulator saved inputs

/-- Calls between loading a game and unloading it. -/
def RetroCall.inGame : RetroCall → Bool
  | .run _ => true
  | .reset => true
  | _ => false

/-- The core can be reached in a process, with the game as the one that was
loaded last. -/
def Plays (files : HostFiles) (game : Game) (core : Core Engine) : Prop :=
  ∃ before after, (∀ call ∈ after, RetroCall.inGame call = true) ∧
    history emulator files (before ++ .loadGame game :: after) = some core

/-- Two cores agree on everything but the coordinates. -/
structure Core.PlaysAlike (left right : Core Engine) : Prop where
  machine : left.SameMachine right
  frameBuf : left.frameBuf = right.frameBuf

variable {emulator}

/-- They show the same frame, and agree afterwards. -/
theorem Core.PlaysAlike.retroRun {left right : Core Engine}
    (alike : left.PlaysAlike right) (input : HostInput) :
    (retroRun emulator left input).1.PlaysAlike
        (retroRun emulator right input).1 ∧
      (retroRun emulator left input).2 =
        (retroRun emulator right input).2 := by
  obtain ⟨after, result⟩ :=
    @Core.SameMachine.runFrame _ emulator _ _ alike.machine input
  have sameFrameBuf : (left.runFrame emulator input).1.frameBuf =
      (right.runFrame emulator input).1.frameBuf := alike.frameBuf
  simp only [Host.retroRun, result, after.session, after.framebuffer,
    sameFrameBuf]
  split
  · exact ⟨⟨⟨rfl, after.files⟩, rfl⟩, rfl⟩
  · exact ⟨⟨after, sameFrameBuf⟩, rfl⟩

theorem Core.PlaysAlike.shownFrames {left right : Core Engine}
    (alike : left.PlaysAlike right) (inputs : List HostInput) :
    shownFrames emulator left inputs = shownFrames emulator right inputs :=
  Machine.outputs_eq_of_lockstep
    (fun _ _ input _ related => related.retroRun input) alike
    (Machine.admissible_of_forall _ (fun _ _ => trivial) _ inputs)

/-- Restoring changes the coordinates only. -/
theorem playsAlike_of_unserialize {current restored : Core Engine}
    {data : List Byte}
    (success : retroUnserialize current data = some restored) :
    current.PlaysAlike restored := by
  unfold retroUnserialize at success
  split at success
  · cases success
    exact ⟨⟨rfl, rfl⟩, rfl⟩
  · contradiction

/-- What is restored has no influence on the frames. -/
theorem shownFrames_of_unserialize {current restored : Core Engine}
    {data : List Byte}
    (success : retroUnserialize current data = some restored)
    (inputs : List HostInput) :
    shownFrames emulator restored inputs =
      shownFrames emulator current inputs :=
  ((playsAlike_of_unserialize success).shownFrames inputs).symm

/-- A save state is restored in a state that differs from the saved one in the
coordinates at most. -/
theorem restores_of_playsAlike (emulator : Emulator Engine)
    {saved current : Core Engine} (alike : current.PlaysAlike saved) :
    Restores emulator saved current := by
  intro buffer data restored _ _ success inputs
  rw [shownFrames_of_unserialize success]
  exact alike.shownFrames inputs

end Restoring

/-- The frame that a call shows when it returns. -/
theorem retroRun_shown {Engine : Type u} {emulator : Emulator Engine}
    {core : Core Engine} {input : HostInput}
    (returns : (core.runFrame emulator input).2.returns = true)
    (present : (core.runFrame emulator input).1.session.uc.isSome = true) :
    (retroRun emulator core input).2 =
      some (((core.runFrame emulator input).1.framebuffer emulator).getD
        (core.runFrame emulator input).1.frameBuf) := by
  simp only [retroRun, returns, present, Bool.and_self, if_true]

/-- Its first byte, in the sample emulator. -/
theorem retroRun_head {core : Core ArmEngine} {input : HostInput}
    {engine : ArmEngine}
    (returns : (core.runFrame armEmulator input).2.returns = true)
    (present : (core.runFrame armEmulator input).1.session.uc =
      some engine) :
    (retroRun armEmulator core input).2.bind List.head? =
      some (engine.bytes framebufAddr) := by
  have mapped : (armEmulator.memory engine).rangeMapped framebufAddr
      frameBytes = true := by
    rw [GuestMemory.rangeMapped, Bool.and_eq_true, List.all_eq_true]
    exact ⟨by decide, fun _ _ => rfl⟩
  have stored :
      (core.runFrame armEmulator input).1.framebuffer armEmulator =
        some (read engine.bytes framebufAddr frameBytes) := by
    rw [Core.framebuffer, present, Option.bind_some]
    exact GuestMemory.ucMemRead_of_mapped mapped
  rw [retroRun_shown returns (Option.isSome_of_eq_some present), stored,
    Option.getD_some, Option.bind_some, head?_read _ _ (by decide)]

/-- The first byte of the frame buffer after one more call of `retro_run`, if
that call returns. -/
def sampleNext (core : Core ArmEngine) : Option Byte :=
  if (core.runFrame armEmulator idleInput).2.returns then
    (core.runFrame armEmulator idleInput).1.session.uc.map fun engine =>
      engine.bytes framebufAddr
  else none

/-- It is the first byte that is shown. -/
theorem retroRun_of_sampleNext {core : Core ArmEngine} {byte : Byte}
    (next : sampleNext core = some byte) :
    (retroRun armEmulator core idleInput).2.bind List.head? =
      some byte := by
  unfold sampleNext at next
  split at next
  · rename_i returns
    obtain ⟨engine, present, rfl⟩ := Option.map_eq_some_iff.mp next
    exact retroRun_head returns present
  · contradiction

/-- Back in the state of a game that was just loaded, with another
coordinate. -/
theorem restores_of_playsAlike_sample : ∃ saved,
    history armEmulator (fun _ => none) [.loadGame countingGame] =
        some saved ∧
      Restores armEmulator saved { saved with xCoord := 3 } := by
  obtain ⟨saved, loaded⟩ := Option.isSome_iff_exists.mp
    (show (history armEmulator (fun _ => none)
      [.loadGame countingGame]).isSome = true by decide +kernel)
  exact ⟨saved, loaded,
    restores_of_playsAlike armEmulator ⟨⟨rfl, rfl⟩, rfl⟩⟩

/-- A game that counts its frames goes on counting when an earlier state is
restored. -/
theorem restored_counter_goes_on :
    ¬ ∀ (Engine : Type) (emulator : Emulator Engine) (files : HostFiles)
      (game : Game) (saved current : Core Engine),
        Plays emulator files game saved →
          Plays emulator files game current →
            Restores emulator saved current := by
  intro restores
  obtain ⟨saved, loaded, first⟩ := Option.bind_eq_some_iff.mp
    (show (history armEmulator (fun _ => none)
      [.loadGame countingGame]).bind sampleNext = some 1 by decide +kernel)
  obtain ⟨current, played, second⟩ := Option.bind_eq_some_iff.mp
    (show (history armEmulator (fun _ => none)
      [.loadGame countingGame, .run idleInput]).bind sampleNext = some 2
      by decide +kernel)
  obtain ⟨restored, success⟩ : ∃ restored,
      retroUnserialize current [saved.xCoord.setWidth 8,
        saved.yCoord.setWidth 8] = some restored := ⟨_, rfl⟩
  have frames := restores ArmEngine armEmulator (fun _ => none) countingGame
    saved current ⟨[], [], by simp, loaded⟩
    ⟨[], [.run idleInput], by simp [RetroCall.inGame], played⟩
    [0, 0] _ restored (le_refl 2) rfl success [idleInput]
  rw [shownFrames_of_unserialize success] at frames
  simp only [shownFrames, Machine.outputs_cons, Machine.outputs_nil,
    List.cons.injEq, and_true] at frames
  have bytes := congrArg (fun frame => Option.bind frame List.head?) frames
  simp only [retroRun_of_sampleNext first, retroRun_of_sampleNext second]
    at bytes
  revert bytes
  decide

end Host
end GA330
