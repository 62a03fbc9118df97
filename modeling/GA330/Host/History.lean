import GA330.Host.Afresh
import GA330.Host.Isolation
import GA330.Host.Paths
import GA330.Host.StaleData

/-!
# Files over the life of the process

The file table outlives frames, resets and games.  Whatever the frontend calls
and whatever the guests do, the table is at every moment what the file calls
made so far have left; so a stream is on a file that some guest has asked for,
and a host file that none has asked to write is as the process found it.
-/

namespace GA330
namespace Host

open ByteMemory FileStream

/-! ## Files that were opened -/

namespace Filesystem

/-- Every stream is on a file that was opened in its mode, and files that were
not opened to be written are as they were at first. -/
structure Opened (opened : HostName → OpenMode → Prop) (files : HostFiles)
    (fs : Filesystem) : Prop where
  targets : ∀ handle name mode,
    (fs.entry handle).target = some (name, mode) → opened name mode
  others : ∀ name, ¬ opened name .output → fs.files name = files name

/-- The operation opens files only as listed. -/
def Call.OpensListed (opened : HostName → OpenMode → Prop) (call : Call) :
    Prop :=
  ∀ path mode granted, call = .open path mode granted →
    ∀ openMode, fileMode mode = some openMode →
      opened (hostName path) openMode

section Steps

variable {opened : HostName → OpenMode → Prop} {files : HostFiles}
variable {fs : Filesystem} {call : Call}

theorem initial_opened : (initial files).Opened opened files :=
  ⟨nofun, fun _ _ => rfl⟩

/-- The streams after an open. -/
theorem openFile_targets (path mode : List Byte) (granted : Bool)
    (handle : Int) :
    ((fs.openFile path mode granted).1.entry handle).target =
        (fs.entry handle).target ∨
      ∃ openMode, fileMode mode = some openMode ∧
        ((fs.openFile path mode granted).1.entry handle).target =
          some (hostName path, openMode) := by
  rcases openFile_cases fs path mode granted with
    ⟨_, failed⟩ | ⟨openMode, after, _, moded, _, succeeded⟩
  · rw [failed]
    exact .inl rfl
  · rw [succeeded]
    change (Filesystem.entry (emplace _ _ _) handle).target = _ ∨
      ∃ openMode, _ ∧ (Filesystem.entry (emplace _ _ _) handle).target = _
    unfold emplace
    split
    · exact .inl rfl
    · rw [entry_setEntry]
      split
      · exact .inr ⟨openMode, moded, rfl⟩
      · exact .inl rfl

/-- An open that does not change a file leaves it alone. -/
theorem openFile_not_changes {path mode : List Byte} {granted : Bool}
    {name : HostName} (kept : ¬ fs.Changes name (.open path mode granted)) :
    (fs.openFile path mode granted).1.files name = fs.files name := by
  rcases openFile_cases fs path mode granted with
    ⟨_, failed⟩ | ⟨openMode, files, _, moded, attempt, succeeded⟩
  · rw [failed]
  · rw [succeeded]
    change (emplace _ _ _).files name = _
    rw [emplace_files]
    cases openMode with
    | input =>
        rw [FileStream.openFile, Option.ite_none_right_eq_some] at attempt
        cases attempt.2
        rfl
    | output =>
        have different : hostName path ≠ name := fun same =>
          kept ⟨moded, same⟩
        exact openFile_other attempt different

/-- An operation that does not change a file leaves it alone. -/
theorem step_not_changes {name : HostName}
    (kept : ¬ fs.Changes name call) :
    (step fs call).1.files name = fs.files name := by
  cases call with
  | «open» path mode granted => exact openFile_not_changes kept
  | close handle => rfl
  | read handle size => rfl
  | tell handle => rfl
  | write handle input =>
      exact write_other fs.files
        (fun target => kept ⟨handle, rfl, target⟩) input
  | seek handle offset cMode =>
      rw [step, seekFile]
      cases direction cMode <;> rfl

/-- An operation that opens files as listed. -/
theorem Opened.step (only : call.OpensListed opened)
    (holds : fs.Opened opened files) :
    Opened opened files (Filesystem.step fs call).1 where
  targets := by
    intro handle name mode target
    rcases step_cases fs call with
      ⟨path, text, granted, rfl, result⟩ | ⟨k, -, result⟩ |
        ⟨k, after, stream, moves, result⟩
    · rw [result] at target
      rcases openFile_targets path text granted handle with
        same | ⟨openMode, moded, new⟩
      · rw [same] at target
        exact holds.targets handle name mode target
      · rw [new] at target
        obtain ⟨rfl, rfl⟩ := Prod.mk.inj (Option.some.inj target)
        exact only path text granted rfl _ moded
    · rw [result] at target
      simp only [closeFile, entry, Function.update_apply] at target
      split at target
      · contradiction
      · exact holds.targets handle name mode target
    · rw [result, entry_setEntry] at target
      split at target
      · rw [moves.target] at target
        exact holds.targets k name mode target
      · exact holds.targets handle name mode target
  others := by
    intro name unlisted
    rw [← holds.others name unlisted]
    apply step_not_changes
    intro changes
    cases argument : call.argument with
    | some handle =>
        exact unlisted (holds.targets handle name .output
          ((changes_iff argument).mp changes))
    | none =>
        cases call with
        | «open» path mode granted =>
            obtain ⟨moded, rfl⟩ := changes
            exact unlisted (only path mode granted rfl .output moded)
        | close handle => contradiction
        | read handle size => contradiction
        | write handle input => contradiction
        | seek handle offset cMode => contradiction
        | tell handle => contradiction

end Steps
end Filesystem

/-- The call asks for a file in a mode. -/
def FileCall.OpensAs (call : FileCall) (name : HostName)
    (mode : OpenMode) : Prop :=
  ∃ path ∈ call.path, hostName path = name ∧
    ∃ text ∈ call.mode, fileMode text = some mode

/-- No file that is asked for has a separator or a colon in its name. -/
theorem FileCall.OpensAs.separators {call : FileCall} {name : HostName}
    {mode : OpenMode} (opens : call.OpensAs name mode) {character : Byte}
    (replaced : character ∈ ([0x5C, 0x2F, 0x3A] : List Byte)) :
    character ∉ name := by
  obtain ⟨path, _, rfl, _⟩ := opens
  exact notMem_hostName replaced path

theorem openOperation_eq_some {state : FileState} {call : FileCall}
    {operation : Filesystem.Call}
    (performed : call.openOperation state = some operation) :
    ∃ path mode, call.path = some path ∧ call.mode = some mode ∧
      operation = .open path mode call.granted := by
  unfold FileCall.openOperation at performed
  split at performed
  · rename_i path mode asked moded
    rw [Option.ite_none_left_eq_some] at performed
    exact ⟨path, mode, asked, moded, (Option.some.inj performed.2).symm⟩
  · contradiction

/-- An open passes on what the call asks for. -/
theorem operation_open {state : FileState} {call : FileCall}
    {path mode : List Byte} {granted : Bool}
    (performed : call.operation state = some (.open path mode granted)) :
    call.path = some path ∧ call.mode = some mode := by
  have opening : call.openOperation state =
      some (.open path mode granted) := by
    unfold FileCall.operation at performed
    cases kind : call.handler with
    | fopen => simpa only [kind] using performed
    | fopenW => simpa only [kind] using performed
    | fread => simp [kind] at performed
    | fwrite => simp [kind] at performed
    | fseek => simp [kind] at performed
    | fclose => simp [kind] at performed
    | ftell => simp [kind] at performed
  obtain ⟨path, mode, asked, moded, same⟩ := openOperation_eq_some opening
  cases same
  exact ⟨asked, moded⟩

/-- A call after which the files that were opened are listed. -/
theorem opened_svcFile {opened : HostName → OpenMode → Prop}
    {files : HostFiles} (state : FileState) (call : FileCall)
    (only : ∀ name mode, call.OpensAs name mode → opened name mode)
    (holds : state.filesystem.Opened opened files) :
    (svcFile state call).1.filesystem.Opened opened files := by
  rw [(svcFile_performs state call).table]
  cases performed : call.operation state with
  | none => exact holds
  | some operation =>
      apply holds.step
      rintro path mode granted rfl openMode moded
      obtain ⟨asked, text⟩ := operation_open performed
      exact only _ _ ⟨path, asked, rfl, mode, text, moded⟩

/-! ## Runs of file calls -/

/-- File calls that the process survives lead from one file state to
another. -/
structure Ran (before : FileState) (calls : List FileCall)
    (after : FileState) : Prop where
  survived : Machine.Admissible svcFile Survives before calls
  final : Machine.final svcFile before calls = after

theorem Ran.nil (state : FileState) : Ran state [] state := ⟨trivial, rfl⟩

theorem Ran.append {before between after : FileState}
    {first second : List FileCall} (ran : Ran before first between)
    (next : Ran between second after) :
    Ran before (first ++ second) after := by
  obtain ⟨survived, rfl⟩ := ran
  obtain ⟨survivedNext, rfl⟩ := next
  exact ⟨Machine.admissible_append svcFile survived survivedNext,
    Machine.final_append svcFile _ _ _⟩

/-- After a run, the streams and the files come from what its calls asked
for. -/
theorem Ran.opened {files : HostFiles} {calls : List FileCall}
    {after : FileState} (ran : Ran (.initial files) calls after) :
    after.filesystem.Opened
      (fun name mode => ∃ call ∈ calls, call.OpensAs name mode) files := by
  obtain ⟨_, rfl⟩ := ran
  have admissible : Machine.Admissible svcFile
      (fun _ call => call ∈ calls) (.initial files) calls :=
    Machine.admissible_of_mem svcFile (fun call present _ => present) _
  refine @Machine.final_invariant_of_admissible _ _ _ svcFile
    (fun state => state.filesystem.Opened _ files) _ ?_ _ ?_ _ admissible
  · intro state call present holds
    exact opened_svcFile state call
      (fun name mode opens => ⟨call, present, opens⟩) holds
  · exact Filesystem.initial_opened

section Emulations

variable {Engine : Type u} (emulator : Emulator Engine)

/-! ## The file calls of a process -/

/-- The file calls that a guest makes during an emulation. -/
def emulatedCalls (host : Nat → HostAnswer) :
    (fuel : Nat) → Hosted Engine → List FileCall
  | 0, _ => []
  | fuel + 1, state =>
      (nextFileCall emulator host state).toList ++
        match (hosted emulator host state.files).resume state with
        | some (.svc handler after) =>
            if handler.stops then [] else emulatedCalls host fuel after
        | _ => []

/-- The file calls that are made while a call of the frontend runs. -/
def retroFileCalls (core : Core Engine) : RetroCall → List FileCall
  | .loadGame game =>
      if game.supported then
        (emulationStart (hosted emulator game.input.host core.files) game.rom
            game.msbuffer).elim []
          (emulatedCalls emulator game.input.host game.input.fuel)
      else []
  | .run input =>
      if core.session.aborted then []
      else
        core.session.uc.elim [] fun engine =>
          emulatedCalls emulator input.host input.fuel
            (core.frameStart emulator engine)
  | .reset => []
  | .unloadGame => []

/-- The file calls of a history. -/
def fileCallsFrom : Core Engine → List RetroCall → List FileCall
  | _, [] => []
  | core, call :: rest =>
      retroFileCalls emulator core call ++
        (retroCall emulator core call).elim [] fun after =>
          fileCallsFrom after rest

/-- The file calls of a process. -/
def historyFileCalls (files : HostFiles) (calls : List RetroCall) :
    List FileCall :=
  fileCallsFrom emulator (Core.initial files) calls

variable {emulator}

/-- The file state that an event leaves. -/
def GuestEvent.left : GuestEvent (Hosted Engine) → FileState
  | .svc _ after => after.files
  | .ended _ after => after.files

/-- A handler makes at most one file call, which the process survives. -/
theorem svcHandle_ran {answer : HostAnswer} {engine after : Engine}
    {files left : FileState} {handler : EmuHandler}
    (handled : svcHandle emulator answer engine files handler =
      some (after, left)) :
    Ran files
      (match handler with
        | .file handler => some (fileCall emulator answer engine handler)
        | _ => none).toList left := by
  cases handler with
  | file handler =>
      simp only [svcHandle] at handled
      split at handled
      · rename_i between result made
        cases handled
        refine ⟨⟨?_, trivial⟩, ?_⟩
        · rw [Survives, made]
          rfl
        · exact congrArg Prod.fst made
      · contradiction
  | getKeyPad =>
      cases handled
      exact .nil files
  | getTimeMs =>
      cases handled
      exact .nil files
  | newFrame =>
      cases handled
      exact .nil files
  | panic =>
      cases handled
      exact .nil files
  | putc =>
      cases handled
      exact .nil files
  | sleepMs =>
      cases handled
      exact .nil files

/-- What happens up to the next event. -/
theorem resume_ran {host : Nat → HostAnswer} {files : FileState}
    {state : Hosted Engine} {event : GuestEvent (Hosted Engine)}
    (resumed : (hosted emulator host files).resume state = some event) :
    Ran state.files (nextFileCall emulator host state).toList
      event.left := by
  unfold nextFileCall
  simp only [hosted] at resumed
  cases interrupted : emulator.resume state.engine with
  | none => simp [interrupted] at resumed
  | some interrupt =>
      cases interrupt with
      | ended err engine =>
          simp only [interrupted, Option.some.injEq] at resumed
          rw [← resumed]
          exact .nil state.files
      | raised intno engine =>
          simp only [interrupted] at resumed ⊢
          cases called : calledHandler emulator intno engine with
          | none => simp [called] at resumed
          | some handler =>
              simp only [called] at resumed
              cases handled : svcHandle emulator (host state.served) engine
                  state.files handler with
              | none => simp [handled] at resumed
              | some result =>
                  simp only [handled, Option.some.injEq] at resumed
                  rw [← resumed]
                  have ran := svcHandle_ran handled
                  cases handler <;> exact ran

/-- What happens in an emulation that ends. -/
theorem emulate_ran {host : Nat → HostAnswer} {files : FileState}
    {fuel : Nat} {state : Hosted Engine}
    {emulated : Emulated (Hosted Engine)}
    (ended : emulate (hosted emulator host files) fuel state =
      some emulated) :
    Ran state.files (emulatedCalls emulator host fuel state)
      emulated.engine.files := by
  induction fuel generalizing state emulated with
  | zero => contradiction
  | succ fuel inductionHypothesis =>
      rw [emulatedCalls]
      rw [emulate] at ended
      have sameResume : (hosted emulator host state.files).resume state =
          (hosted emulator host files).resume state := rfl
      rw [sameResume]
      cases resumed : (hosted emulator host files).resume state with
      | none => simp [resumed] at ended
      | some event =>
          have here := resume_ran resumed
          simp only [resumed] at ended
          cases event with
          | ended err after =>
              cases ended
              rw [List.append_nil]
              exact here
          | svc handler after =>
              dsimp only at ended ⊢
              split at ended
              · rename_i stops
                cases ended
                rw [if_pos stops, List.append_nil]
                exact here
              · rename_i goesOn
                obtain ⟨rest, later, same⟩ :=
                  Option.map_eq_some_iff.mp ended
                rw [if_neg goesOn, ← same]
                have next := inductionHypothesis later
                exact here.append next

/-- Setting an engine up leaves the file state alone. -/
theorem setUp_files (host : Nat → HostAnswer) (files : FileState)
    (calls : List (UcCall × Bool)) (state : Hosted Engine) :
    (setUp (hosted emulator host files) calls state).2.files =
      state.files := by
  induction calls generalizing state with
  | nil => rfl
  | cons entry rest inductionHypothesis =>
      obtain ⟨call, checked⟩ := entry
      rw [setUp]
      split
      rename_i err after performed
      have kept : after.files = state.files :=
        congrArg (fun result => result.2.files) performed.symm
      split
      · exact kept
      · exact (inductionHypothesis after).trans kept

/-- A new engine is given the file state. -/
theorem ucOpen_files {host : Nat → HostAnswer} {files : FileState}
    {state : Hosted Engine}
    (opened : (hosted emulator host files).ucOpen = .ok state) :
    state.files = files := by
  simp only [hosted] at opened
  cases attempt : emulator.ucOpen with
  | error err => simp [attempt] at opened
  | ok engine =>
      simp only [attempt, Except.ok.injEq] at opened
      rw [← opened]

/-- What happens when a game is loaded and `load_rom` returns. -/
theorem Core.loadRom_ran {core : Core Engine} {game : Game}
    (returned : (core.loadRom emulator game).2.code.isSome = true) :
    Ran core.files
      ((emulationStart (hosted emulator game.input.host core.files) game.rom
          game.msbuffer).elim []
        (emulatedCalls emulator game.input.host game.input.fuel))
      (core.loadRom emulator game).1.files := by
  unfold Core.loadRom Host.loadRom at returned ⊢
  unfold emulationStart
  cases opened : (hosted emulator game.input.host core.files).ucOpen with
  | error err =>
      dsimp only
      rw [Core.resumed_hostedSession]
      exact .nil core.files
  | ok engine =>
      have kept := @setUp_files _ emulator game.input.host core.files
        (setupCalls game.rom game.msbuffer) engine
      rw [ucOpen_files opened] at kept
      simp only [opened] at returned ⊢
      cases isSet : setUp (hosted emulator game.input.host core.files)
          (setupCalls game.rom game.msbuffer) engine with
      | mk succeeded ready =>
          rw [isSet] at kept
          cases succeeded with
          | false => exact kept ▸ Ran.nil core.files
          | true =>
              simp only [isSet, ucEmuStart] at returned ⊢
              cases ended : emulate (hosted emulator game.input.host
                  core.files) game.input.fuel
                  ((hosted emulator game.input.host core.files).regWrite
                    (startRegisters (hosted emulator game.input.host
                      core.files) game.rom ready) .pc minisysAddr) with
              | none => simp [ended, LoadRomResult.code] at returned
              | some emulated =>
                  have ran := emulate_ran ended
                  change Ran ready.files _ _ at ran
                  rw [show ready.files = core.files from kept] at ran
                  dsimp only
                  split <;> exact ran

/-- What happens in a frame that returns. -/
theorem Core.runFrame_ran {core : Core Engine} {input : HostInput}
    (returned : (core.runFrame emulator input).2.returns = true) :
    Ran core.files (retroFileCalls emulator core (.run input))
      (core.runFrame emulator input).1.files := by
  unfold retroFileCalls
  cases aborted : core.session.aborted with
  | true =>
      rw [Core.runFrame_aborted aborted]
      exact .nil core.files
  | false =>
      cases present : core.session.uc with
      | none =>
          rw [Core.runFrame_absent aborted present] at returned
          contradiction
      | some engine =>
          rw [Core.runFrame_started aborted present] at returned ⊢
          cases ended : emulate (hosted emulator input.host core.files)
              input.fuel (core.frameStart emulator engine) with
          | none => simp [ended, FrameResult.returns] at returned
          | some emulated => exact emulate_ran ended

/-- What happens in a call of the frontend. -/
theorem retroCall_ran {core after : Core Engine} {call : RetroCall}
    (returned : retroCall emulator core call = some after) :
    Ran core.files (retroFileCalls emulator core call) after.files := by
  cases call with
  | reset =>
      cases returned
      exact .nil core.files
  | unloadGame =>
      cases returned
      exact .nil core.files
  | run input =>
      simp only [retroCall, retroRun] at returned
      have ran := @Core.runFrame_ran _ emulator core input
      split at returned
      · rename_i shown
        cases returned
        exact ran (Bool.and_elim_left shown)
      · simp at returned
  | loadGame game =>
      simp only [retroCall, retroLoadGame, retroFileCalls] at returned ⊢
      split at returned
      · rename_i supported
        rw [if_pos supported]
        obtain ⟨_, coded, same⟩ := Option.map_eq_some_iff.mp returned
        rw [← same]
        apply Core.loadRom_ran
        simpa using congrArg Option.isSome coded
      · rename_i unsupported
        cases returned
        rw [if_neg unsupported]
        exact .nil core.files

/-- What happens in calls of the frontend. -/
theorem fileCallsFrom_ran {core after : Core Engine}
    {calls : List RetroCall}
    (past : calls.foldlM (retroCall emulator) core = some after) :
    Ran core.files (fileCallsFrom emulator core calls) after.files := by
  induction calls generalizing core with
  | nil =>
      cases past
      exact .nil _
  | cons call rest inductionHypothesis =>
      rw [List.foldlM_cons] at past
      obtain ⟨between, returned, later⟩ := Option.bind_eq_some_iff.mp past
      rw [fileCallsFrom, returned]
      exact (retroCall_ran returned).append (inductionHypothesis later)

/-- At every moment of a process the file table is what the file calls so far
have left; every stream is on a file, in the mode, that one of them asked for;
and a host file that none asked to write, such as any with a separator or a
colon in its name, is as the process found it. -/
theorem history_files {files : HostFiles} {calls : List RetroCall}
    {core : Core Engine} (past : history emulator files calls = some core) :
    Ran (.initial files) (historyFileCalls emulator files calls)
        core.files ∧
      core.files.filesystem.Opened
        (fun name mode =>
          (∀ character ∈ name,
            character ∉ ([0x5C, 0x2F, 0x3A] : List Byte)) ∧
          ∃ call ∈ historyFileCalls emulator files calls,
            call.OpensAs name mode) files := by
  have ran : Ran (.initial files) (historyFileCalls emulator files calls)
      core.files :=
    fileCallsFrom_ran past
  have opened := ran.opened
  have ordinary : ∀ name mode,
      (∃ call ∈ historyFileCalls emulator files calls,
        call.OpensAs name mode) →
      ∀ character ∈ name,
        character ∉ ([0x5C, 0x2F, 0x3A] : List Byte) := by
    rintro name mode ⟨call, _, opens⟩ character present replaced
    exact opens.separators replaced present
  refine ⟨ran, ?_, ?_⟩
  · intro handle name mode target
    have asked := opened.targets handle name mode target
    exact ⟨ordinary name mode asked, asked⟩
  · intro name unlisted
    apply opened.others
    intro asked
    exact unlisted ⟨ordinary name .output asked, asked⟩

end Emulations

/-- A game that opens the file `a` to write it. -/
def writingGame : Game :=
  { armGame [0xE2801014, 0xE2800010, 0xEF000001, 0xEF000009, 0x61,
      0x6277] with
    input := ⟨4, fun count => { idleHost count with granted := true }⟩ }

theorem history_files_sample :
    ∃ core, history armEmulator Filesystem.sampleFiles
        [.loadGame writingGame, .run idleInput] = some core ∧
      core.files.filesystem.files [0x61] = some [] ∧
        core.files.filesystem.files [0x61, 0x2F] = none := by
  obtain ⟨core, past, emptied⟩ := Option.map_eq_some_iff.mp
    (show (history armEmulator Filesystem.sampleFiles
        [.loadGame writingGame, .run idleInput]).map
          (fun core => core.files.filesystem.files [0x61]) =
        some (some []) by decide +kernel)
  obtain ⟨_, opened⟩ := history_files past
  refine ⟨core, past, emptied, ?_⟩
  apply opened.others
  rintro ⟨ordinary, _⟩
  exact ordinary 0x2F (by decide) (by decide)

end Host
end GA330
