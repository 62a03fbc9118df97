import GA330.Host.Arm
import GA330.Host.Transfer

/-!
# Loading a game in a process with a past

`load_rom` opens a new engine, but it resets neither `aborted` nor the file
table, its handle counter and its buffer.  A game that is loaded after others is
compared here with the same game in a new process, call by call: the two runs
stay in step as long as every file call of the guest finds what it asks for in
both file tables alike.
-/

namespace GA330
namespace Host

open ByteMemory FileStream

/-! ## File calls -/

/-- A handle names the same stream in two file tables, or one of no use in
both. -/
def SameFor (useful : Stream HostName → Bool) (left right : FileState)
    (handle : Int) : Prop :=
  left.filesystem.entry handle = right.filesystem.entry handle ∨
    (useful (left.filesystem.entry handle) = false ∧
      useful (right.filesystem.entry handle) = false)

/-- An open that succeeds finds the same number in both tables. -/
def SameNumber (left right : FileState) (call : FileCall) : Prop :=
  ∀ path mode, call.path = some path → call.mode = some mode →
    left.filesystem.opens path mode call.granted = true →
      left.filesystem.nextHandle = right.filesystem.nextHandle

/-- The bytes to be written are in guest memory, or both buffers happen to
hold the same. -/
def SameBuffer (left right : FileState) (call : FileCall) : Prop :=
  call.memory.rangeMapped call.buffer call.total = true ∨
    (left.fileBuffer.reserve call.total call.fresh).front call.total =
      (right.fileBuffer.reserve call.total call.fresh).front call.total

/-- The call finds what it asks for in both file tables alike. -/
def AnsweredAlike (left right : FileState) (call : FileCall) : Prop :=
  match call.handler with
  | .fopen => SameNumber left right call
  | .fopenW => SameNumber left right call
  | .fread =>
      ∀ handle, call.handle = some handle →
        SameFor Stream.reads left right handle
  | .fwrite =>
      ∀ handle, call.handle = some handle →
        SameFor Stream.writes left right handle ∧
          ((left.filesystem.entry handle).writes = true →
            SameBuffer left right call)
  | .ftell =>
      ∀ handle, call.handle = some handle →
        SameFor Stream.tells left right handle
  | .fseek => True
  | .fclose => True

/-- Two file states see the same host files. -/
def SameHostFiles (left right : FileState) : Prop :=
  left.filesystem.files = right.filesystem.files

/-- The call leaves the same host files and gets the same answer. -/
def SameOutcome (left right : FileState) (call : FileCall) : Prop :=
  SameHostFiles (svcFile left call).1 (svcFile right call).1 ∧
    (svcFile left call).2 = (svcFile right call).2

/-- Opening a file depends on the host files and the next number only. -/
theorem Filesystem.openFile_alike {left right : Filesystem}
    (sameFiles : left.files = right.files) {path mode : List Byte}
    {granted : Bool}
    (numbered : left.opens path mode granted = true →
      left.nextHandle = right.nextHandle) :
    openOverflows left path mode granted =
        openOverflows right path mode granted ∧
      (left.openFile path mode granted).1.files =
          (right.openFile path mode granted).1.files ∧
        (left.openFile path mode granted).2 =
          (right.openFile path mode granted).2 := by
  have sameOpens : left.opens path mode granted =
      right.opens path mode granted := by
    simp only [opens, sameFiles]
  rcases left.openFile_cases path mode granted with
    ⟨refused, unchanged⟩ | ⟨openMode, files, opened, isMode, stream, result⟩
  · have refusedRight := sameOpens.symm.trans refused
    rcases right.openFile_cases path mode granted with
      ⟨_, unchangedRight⟩ | ⟨_, _, openedRight, _⟩
    · simp only [openOverflows, refused, refusedRight, Bool.false_and,
        unchanged, unchangedRight, sameFiles, and_self]
    · rw [refusedRight] at openedRight
      contradiction
  · have openedRight := sameOpens.symm.trans opened
    have sameNumber := numbered opened
    rcases right.openFile_cases path mode granted with
      ⟨refusedRight, _⟩ | ⟨otherMode, others, _, isOther, other, resultRight⟩
    · rw [openedRight] at refusedRight
      contradiction
    · cases isMode.symm.trans isOther
      rw [sameFiles, other] at stream
      cases stream
      simp only [openOverflows, opened, openedRight, sameNumber, result,
        resultRight, emplace_files, and_self]

theorem svcFopen_alike {left right : FileState}
    (sameFiles : SameHostFiles left right) {call : FileCall}
    (sameNumber : SameNumber left right call) :
    SameHostFiles (svcFopen left call).1 (svcFopen right call).1 ∧
      (svcFopen left call).2 = (svcFopen right call).2 := by
  unfold svcFopen
  cases pathRead : call.path with
  | none => exact ⟨sameFiles, rfl⟩
  | some path =>
      cases modeRead : call.mode with
      | none => exact ⟨sameFiles, rfl⟩
      | some mode =>
          obtain ⟨overflows, files, handle⟩ :=
            Filesystem.openFile_alike sameFiles
              (sameNumber path mode pathRead modeRead)
          dsimp only
          rw [overflows, handle]
          split
          · exact ⟨sameFiles, rfl⟩
          · exact ⟨files, rfl⟩

/-- What is delivered depends on the host files and the stream only. -/
theorem readFile_alike {left right : FileState}
    (sameFiles : SameHostFiles left right) {handle : Int}
    (sameStream : SameFor Stream.reads left right handle) (size : Nat) :
    (left.filesystem.readFile handle size).2 =
      (right.filesystem.readFile handle size).2 := by
  have filesEqual : left.filesystem.files = right.filesystem.files :=
    sameFiles
  unfold Filesystem.readFile
  rcases sameStream with same | ⟨idleLeft, idleRight⟩
  · rw [same, filesEqual]
  · exact (read_idle _ idleLeft size).trans (read_idle _ idleRight size).symm

theorem svcFread_alike {left right : FileState}
    (sameFiles : SameHostFiles left right) {call : FileCall}
    (sameStream :
      SameFor Stream.reads left right (call.registers 3).toInt) :
    SameHostFiles (svcFread left call).1 (svcFread right call).1 ∧
      (svcFread left call).2 = (svcFread right call).2 := by
  have delivered := readFile_alike sameFiles sameStream call.total
  simp only [svcFread, FileBuffer.front_store, delivered]
  split
  · exact ⟨sameFiles, rfl⟩
  · exact ⟨sameFiles, rfl⟩

/-- What is written depends on the host files, the stream and the bytes. -/
theorem writeFile_alike {left right : FileState}
    (sameFiles : SameHostFiles left right) {handle : Int}
    (sameStream : SameFor Stream.writes left right handle)
    {first second : List Byte}
    (sameBytes : (left.filesystem.entry handle).writes = true →
      first = second) :
    (left.filesystem.writeFile handle first).1.files =
      (right.filesystem.writeFile handle second).1.files := by
  have filesEqual : left.filesystem.files = right.filesystem.files :=
    sameFiles
  have idle : ∀ {state : FileState} {bytes : List Byte},
      (state.filesystem.entry handle).writes = false →
        (state.filesystem.writeFile handle bytes).1.files =
          state.filesystem.files :=
    fun unused => write_idle _ unused _
  by_cases used : (left.filesystem.entry handle).writes = true
  · rcases sameStream with same | ⟨idleLeft, _⟩
    · simp only [Filesystem.writeFile, same, filesEqual, sameBytes used,
        Filesystem.setEntry_files]
    · rw [used] at idleLeft
      contradiction
  · rw [Bool.not_eq_true] at used
    have usedRight : (right.filesystem.entry handle).writes = false := by
      rcases sameStream with same | ⟨_, idleRight⟩
      · rw [← same]
        exact used
      · exact idleRight
    rw [idle used, idle usedRight, filesEqual]

theorem writeBuffer_alike {left right : FileState} {call : FileCall}
    (sameBuffer : SameBuffer left right call) :
    (writeBuffer left call).front call.total =
      (writeBuffer right call).front call.total := by
  cases source : call.memory.ucMemRead call.buffer call.total with
  | some bytes => rw [writeBuffer_front source, writeBuffer_front source]
  | none =>
      rw [writeBuffer_of_unmapped source, writeBuffer_of_unmapped source]
      rcases sameBuffer with mapped | same
      · rw [GuestMemory.ucMemRead_of_mapped mapped] at source
        contradiction
      · exact same

theorem svcFwrite_alike {left right : FileState}
    (sameFiles : SameHostFiles left right) {call : FileCall}
    (sameStream :
      SameFor Stream.writes left right (call.registers 3).toInt)
    (sameBytes :
      (left.filesystem.entry (call.registers 3).toInt).writes = true →
        SameBuffer left right call) :
    SameHostFiles (svcFwrite left call).1 (svcFwrite right call).1 ∧
      (svcFwrite left call).2 = (svcFwrite right call).2 := by
  have files := writeFile_alike sameFiles sameStream
    fun used => writeBuffer_alike (sameBytes used)
  rw [svcFwrite_eq, svcFwrite_eq]
  split
  · exact ⟨sameFiles, rfl⟩
  · exact ⟨files, rfl⟩

theorem tellFile_alike {left right : FileState} {handle : Int}
    (sameStream : SameFor Stream.tells left right handle) :
    (left.filesystem.tellFile handle).2 =
      (right.filesystem.tellFile handle).2 := by
  unfold Filesystem.tellFile
  rcases sameStream with same | ⟨idleLeft, idleRight⟩
  · rw [same]
  · simp only [tellg_idle idleLeft, tellg_idle idleRight]

theorem Filesystem.seekFile_files (fs : Filesystem)
    (handle offset cMode : Int) :
    (fs.seekFile handle offset cMode).files = fs.files := by
  unfold seekFile
  split <;> rfl

/-- A call that finds what it asks for alike has the same outcome. -/
theorem svcFile_alike {left right : FileState}
    (sameFiles : SameHostFiles left right) {call : FileCall}
    (alike : AnsweredAlike left right call) :
    SameOutcome left right call := by
  unfold AnsweredAlike at alike
  unfold SameOutcome svcFile
  cases handler : call.handler with
  | fopen =>
      simp only [handler] at alike
      exact svcFopen_alike sameFiles alike
  | fopenW =>
      simp only [handler] at alike
      exact svcFopen_alike sameFiles alike
  | fread =>
      simp only [handler, FileCall.handle, Option.some.injEq, forall_eq']
        at alike
      exact svcFread_alike sameFiles alike
  | fwrite =>
      simp only [handler, FileCall.handle, Option.some.injEq, forall_eq']
        at alike
      exact svcFwrite_alike sameFiles alike.1 alike.2
  | ftell =>
      simp only [handler, FileCall.handle, Option.some.injEq, forall_eq']
        at alike
      refine ⟨sameFiles, ?_⟩
      simp only [svcFtell, tellFile_alike alike]
  | fseek =>
      refine ⟨?_, rfl⟩
      simp only [SameHostFiles, svcFseek, Filesystem.seekFile_files]
      exact sameFiles
  | fclose => exact ⟨sameFiles, rfl⟩

/-- In the same file state, every call finds what it asks for alike. -/
theorem AnsweredAlike.refl (state : FileState) (call : FileCall) :
    AnsweredAlike state state call := by
  unfold AnsweredAlike
  split
  · exact fun _ _ _ _ _ => rfl
  · exact fun _ _ _ _ _ => rfl
  · exact fun _ _ => .inl rfl
  · exact fun _ _ => ⟨.inl rfl, fun _ => .inr rfl⟩
  · exact fun _ _ => .inl rfl
  · trivial
  · trivial

/-! ## Emulations in step -/

section Points

variable {Engine : Type u}

/-- Two guests are at the same point: only their file states differ, and these
see the same host files. -/
structure Hosted.Alike (left right : Hosted Engine) : Prop where
  engine : left.engine = right.engine
  served : left.served = right.served
  executed : left.executed = right.executed
  files : SameHostFiles left.files right.files

/-- Two guests are interrupted in the same way. -/
inductive GuestEvent.Alike :
    GuestEvent (Hosted Engine) → GuestEvent (Hosted Engine) → Prop
  | svc {left right : Hosted Engine} (handler : SvcHandler)
      (alike : left.Alike right) :
      Alike (.svc handler left) (.svc handler right)
  | ended {left right : Hosted Engine} (err : UcErr)
      (alike : left.Alike right) :
      Alike (.ended err left) (.ended err right)

/-- Two emulations ended in the same way. -/
structure Emulated.Alike (left right : Emulated (Hosted Engine)) : Prop where
  handlers : left.handlers = right.handlers
  err : left.err = right.err
  engine : left.engine.Alike right.engine

end Points

section Emulations

variable {Engine : Type u} (emulator : Emulator Engine)
variable (host : Nat → HostAnswer)

/-- The file call that a guest makes next, if it makes one. -/
def nextFileCall (state : Hosted Engine) : Option FileCall :=
  match emulator.resume state.engine with
  | some (.raised intno engine) =>
      match calledHandler emulator intno engine with
      | some (.file handler) =>
          some (fileCall emulator (host state.served) engine handler)
      | _ => none
  | _ => none

/-- Throughout two emulations, every file call of the left guest finds what it
asks for in both file states alike. -/
def EmulatesAlike : (fuel : Nat) → (left right : Hosted Engine) → Prop
  | 0, _, _ => True
  | fuel + 1, left, right =>
      (∀ call, nextFileCall emulator host left = some call →
        AnsweredAlike left.files right.files call) ∧
      ∀ handler leftAfter rightAfter,
        (hosted emulator host left.files).resume left =
            some (.svc handler leftAfter) →
          (hosted emulator host right.files).resume right =
              some (.svc handler rightAfter) →
            handler.stops = false → EmulatesAlike fuel leftAfter rightAfter

variable {emulator host}

theorem EmulatesAlike.refl (fuel : Nat) (state : Hosted Engine) :
    EmulatesAlike emulator host fuel state state := by
  induction fuel generalizing state with
  | zero => trivial
  | succ fuel inductionHypothesis =>
      refine ⟨fun call _ => AnsweredAlike.refl _ call, ?_⟩
      intro handler leftAfter rightAfter leftResumed rightResumed _
      cases leftResumed.symm.trans rightResumed
      exact inductionHypothesis _

/-- A handler does the same for two guests at the same point. -/
theorem svcHandle_alike (answer : HostAnswer) (engine : Engine)
    {left right : FileState} (sameFiles : SameHostFiles left right)
    {handler : EmuHandler}
    (alike : ∀ file, handler = .file file →
      AnsweredAlike left right (fileCall emulator answer engine file)) :
    Option.Rel
      (fun first second => first.1 = second.1 ∧
        SameHostFiles first.2 second.2)
      (svcHandle emulator answer engine left handler)
      (svcHandle emulator answer engine right handler) := by
  cases handler with
  | file file =>
      obtain ⟨sameAfter, sameAnswer⟩ :=
        svcFile_alike sameFiles (alike file rfl)
      unfold svcHandle
      cases leftCall : svcFile left
          (fileCall emulator answer engine file) with
      | mk leftAfter leftAnswer =>
          cases rightCall : svcFile right
              (fileCall emulator answer engine file) with
          | mk rightAfter rightAnswer =>
              rw [leftCall, rightCall] at sameAfter sameAnswer
              cases sameAnswer
              cases leftAnswer with
              | none =>
                  simp only [leftCall, rightCall]
                  exact .none
              | some result =>
                  simp only [leftCall, rightCall]
                  exact .some ⟨rfl, sameAfter⟩
  | getKeyPad => exact .some ⟨rfl, sameFiles⟩
  | getTimeMs => exact .some ⟨rfl, sameFiles⟩
  | newFrame => exact .some ⟨rfl, sameFiles⟩
  | panic => exact .some ⟨rfl, sameFiles⟩
  | putc => exact .some ⟨rfl, sameFiles⟩
  | sleepMs => exact .some ⟨rfl, sameFiles⟩

/-- Two guests at the same point reach the same interrupt, and are at the same
point after it. -/
theorem Hosted.Alike.resume {left right : Hosted Engine}
    (alike : left.Alike right)
    (calls : ∀ call, nextFileCall emulator host left = some call →
      AnsweredAlike left.files right.files call)
    (leftFiles rightFiles : FileState) :
    Option.Rel GuestEvent.Alike
      ((hosted emulator host leftFiles).resume left)
      ((hosted emulator host rightFiles).resume right) := by
  obtain ⟨engine, leftState, served, executed⟩ := left
  obtain ⟨_, rightState, _, _⟩ := right
  obtain ⟨rfl, rfl, rfl, sameFiles⟩ := alike
  simp only [nextFileCall] at calls
  simp only [hosted]
  cases interrupted : emulator.resume engine with
  | none => exact .none
  | some interrupt =>
      cases interrupt with
      | ended err after => exact .some (.ended err ⟨rfl, rfl, rfl, sameFiles⟩)
      | raised intno after =>
          cases called : calledHandler emulator intno after with
          | none =>
              simp only [called]
              exact .none
          | some handler =>
              simp only [interrupted, called] at calls
              have asked : ∀ file, handler = .file file →
                  AnsweredAlike leftState rightState
                    (fileCall emulator (host served) after file) := by
                rintro file rfl
                exact calls _ rfl
              have handled :=
                svcHandle_alike (host served) after sameFiles asked
              simp only [called]
              generalize svcHandle emulator (host served) after leftState
                handler = first at handled ⊢
              generalize svcHandle emulator (host served) after rightState
                handler = second at handled ⊢
              cases handled with
              | none => exact .none
              | some same =>
                  exact .some (.svc _ ⟨same.1, rfl, rfl, same.2⟩)

/-- Emulations that start at the same point end in the same way. -/
theorem Hosted.Alike.emulate {fuel : Nat} {left right : Hosted Engine}
    (alike : left.Alike right)
    (inStep : EmulatesAlike emulator host fuel left right)
    (leftFiles rightFiles : FileState) :
    Option.Rel Emulated.Alike
      (emulate (hosted emulator host leftFiles) fuel left)
      (emulate (hosted emulator host rightFiles) fuel right) := by
  induction fuel generalizing left right with
  | zero => exact .none
  | succ fuel inductionHypothesis =>
      obtain ⟨calls, later⟩ := inStep
      have resumed := alike.resume calls leftFiles rightFiles
      rw [Host.emulate, Host.emulate]
      generalize leftResumed :
        (hosted emulator host leftFiles).resume left = first at resumed ⊢
      generalize rightResumed :
        (hosted emulator host rightFiles).resume right = second
          at resumed ⊢
      cases resumed with
      | none => exact .none
      | some event =>
          cases event with
          | ended err same => exact .some ⟨rfl, rfl, same⟩
          | svc handler same =>
              cases stops : handler.stops with
              | true =>
                  simp only [stops, if_true]
                  exact .some ⟨rfl, rfl, same⟩
              | false =>
                  have rest := inductionHypothesis same
                    (later handler _ _ leftResumed rightResumed stops)
                  simp only [stops, Bool.false_eq_true, if_false]
                  generalize Host.emulate _ fuel _ = leftRest at rest ⊢
                  generalize Host.emulate _ fuel _ = rightRest at rest ⊢
                  cases rest with
                  | none => exact .none
                  | some ended =>
                      exact .some ⟨congrArg (handler :: ·) ended.handlers,
                        ended.err, ended.engine⟩

end Emulations

/-! ## Loading and running in step -/

section Views

variable {Engine : Type u} {View : Type v} (view : Engine → View)

/-- What can be seen of a guest: its engine, and the engine at each of its
calls. -/
def Hosted.guest (state : Hosted Engine) : Engine × List Engine :=
  (state.engine, state.executed)

/-- An emulation with less in its engine. -/
def Emulated.map (emulated : Emulated Engine) : Emulated View :=
  ⟨emulated.handlers, emulated.err, view emulated.engine⟩

/-- The end of a call of `load_rom` with less in its engine. -/
def LoadRomResult.map : LoadRomResult Engine → LoadRomResult View
  | .openFailed => .openFailed
  | .setupFailed => .setupFailed
  | .notReturned => .notReturned
  | .emulationFailed emulated => .emulationFailed (emulated.map view)
  | .loaded emulated => .loaded (emulated.map view)

/-- The end of a frame with less in its engine. -/
def FrameResult.map : FrameResult Engine → FrameResult View
  | .skipped => .skipped
  | .crashed => .crashed
  | .started emulated => .started (emulated.map (Emulated.map view))

/-- A frame as it can be seen: how the guest was executed, and the frame
buffer afterwards. -/
structure FrameView (Engine : Type u) where
  result : FrameResult (Engine × List Engine)
  framebuffer : Option (List Byte)

/-- The engine with which `load_rom` starts the emulation. -/
def emulationStart (unicorn : Unicorn Engine) (rom msbuffer : List Byte) :
    Option Engine :=
  match unicorn.ucOpen with
  | .error _ => none
  | .ok opened =>
      match setUp unicorn (setupCalls rom msbuffer) opened with
      | (false, _) => none
      | (true, engine) =>
          some (unicorn.regWrite (startRegisters unicorn rom engine) .pc
            minisysAddr)

end Views

section Cores

variable {Engine : Type u} (emulator : Emulator Engine)

/-- The guest with which `ccdl_run_frame` starts the emulation. -/
def Core.frameStart (core : Core Engine) (engine : Engine) :
    Hosted Engine :=
  core.hostedEngine (emulator.regWrite engine .pc
    (emulator.registers engine UcRegister.pc.index))

/-- A frame and what can be seen of it. -/
def Core.viewFrame (core : Core Engine) (input : HostInput) :
    Core Engine × FrameView Engine :=
  let (after, result) := core.runFrame emulator input
  (after, ⟨result.map Hosted.guest, after.framebuffer emulator⟩)

/-- What can be seen of a game that is loaded and run for some frames. -/
def Core.play (core : Core Engine) (game : Game)
    (inputs : List HostInput) :
    LoadRomResult (Engine × List Engine) × List (FrameView Engine) :=
  ((core.loadRom emulator game).2.map Hosted.guest,
    Machine.outputs (Core.viewFrame emulator) (core.loadRom emulator game).1
      inputs)

/-- A new process with the same host files. -/
def Core.afresh (core : Core Engine) : Core Engine :=
  Core.initial core.files.filesystem.files

/-- While the game is started, the guest's file calls find what they ask for
alike. -/
def Core.LoadsAlike (left right : Core Engine) (game : Game) : Prop :=
  ∀ first second,
    emulationStart (hosted emulator game.input.host left.files) game.rom
        game.msbuffer = some first →
      emulationStart (hosted emulator game.input.host right.files) game.rom
          game.msbuffer = some second →
        EmulatesAlike emulator game.input.host game.input.fuel first second

/-- The same during a frame. -/
def Core.RunsAlike (left right : Core Engine) (input : HostInput) : Prop :=
  left.session.aborted = false → ∀ engine,
    left.session.uc = some engine →
      EmulatesAlike emulator input.host input.fuel
        (left.frameStart emulator engine) (right.frameStart emulator engine)

/-- The same during the game's start and some frames, compared with a new
process. -/
def Core.PlaysAfresh (core : Core Engine) (game : Game)
    (inputs : List HostInput) : Prop :=
  core.LoadsAlike emulator core.afresh game ∧
    Machine.Admissible
      (Machine.pair (Core.viewFrame emulator) (Core.viewFrame emulator))
      (fun cores input => cores.1.RunsAlike emulator cores.2 input)
      ((core.loadRom emulator game).1, (core.afresh.loadRom emulator game).1)
      inputs

/-- Two cores are at the same point. -/
structure Core.Alike (left right : Core Engine) : Prop where
  session : left.session = right.session
  files : SameHostFiles left.files right.files

variable {emulator}

/-- A session that nothing was done to leaves the core as it was. -/
theorem Core.resumed_hostedSession (core : Core Engine) :
    core.resumed core.hostedSession = core := by
  obtain ⟨⟨uc, aborted⟩, files, frameBuf, xCoord, yCoord⟩ := core
  cases uc <;> rfl

theorem Core.runFrame_aborted {core : Core Engine}
    (aborted : core.session.aborted = true) (input : HostInput) :
    core.runFrame emulator input = (core, .skipped) := by
  have stopped : core.hostedSession.aborted = true := aborted
  simp only [Core.runFrame, ccdlRunFrame, stopped, if_true,
    Core.resumed_hostedSession]

theorem Core.runFrame_absent {core : Core Engine}
    (alive : core.session.aborted = false) (absent : core.session.uc = none)
    (input : HostInput) :
    core.runFrame emulator input = (core, .crashed) := by
  have running : core.hostedSession.aborted = false := alive
  have noEngine : core.hostedSession.uc = none := by
    rw [Core.hostedSession, absent]
    rfl
  simp only [Core.runFrame, ccdlRunFrame, running, noEngine,
    Bool.false_eq_true, if_false, Core.resumed_hostedSession]

/-- The core after an emulation that ended. -/
def Core.after (core : Core Engine) (emulated : Emulated (Hosted Engine))
    (aborted : Bool) : Core Engine :=
  { core with
    session := ⟨some emulated.engine.engine, aborted⟩
    files := emulated.engine.files }

theorem Core.runFrame_started {core : Core Engine}
    (alive : core.session.aborted = false) {engine : Engine}
    (present : core.session.uc = some engine) (input : HostInput) :
    core.runFrame emulator input =
      match emulate (hosted emulator input.host core.files) input.fuel
          (core.frameStart emulator engine) with
      | none => (core, .started none)
      | some emulated =>
          (core.after emulated (decide (emulated.err ≠ ucErrOk)),
            .started (some emulated)) := by
  have running : core.hostedSession.aborted = false := alive
  have engineThere : core.hostedSession.uc =
      some (core.hostedEngine engine) := by
    rw [Core.hostedSession, present]
    rfl
  simp only [Core.runFrame, ccdlRunFrame, running, engineThere,
    Bool.false_eq_true, if_false]
  have starts : ucEmuStart (hosted emulator input.host core.files)
      input.fuel (core.hostedEngine engine)
      ((hosted emulator input.host core.files).regRead
        (core.hostedEngine engine) .pc) =
      emulate (hosted emulator input.host core.files) input.fuel
        (core.frameStart emulator engine) := rfl
  rw [starts]
  cases emulate (hosted emulator input.host core.files) input.fuel
      (core.frameStart emulator engine) with
  | none => simp only [Core.resumed_hostedSession]
  | some emulated =>
      by_cases clean : emulated.err = ucErrOk
      · simp only [clean, ne_eq, not_true_eq_false, if_false, decide_false]
        rw [← running]
        rfl
      · simp only [clean, ne_eq, not_false_eq_true, if_true, decide_true]
        rfl

/-- Emulations that ended in the same way look the same. -/
theorem Emulated.Alike.guest {first second : Emulated (Hosted Engine)}
    (same : first.Alike second) :
    first.map Hosted.guest = second.map Hosted.guest := by
  simp only [Emulated.map, Hosted.guest, same.handlers, same.err,
    same.engine.engine, same.engine.executed]

theorem Emulated.Alike.after {first second : Emulated (Hosted Engine)}
    (same : first.Alike second) (left right : Core Engine)
    (aborted : Bool) :
    (left.after first aborted).Alike (right.after second aborted) := by
  refine ⟨?_, same.engine.files⟩
  simp only [Core.after, same.engine.engine]

theorem Core.Alike.framebuffer {left right : Core Engine}
    (alike : left.Alike right) :
    left.framebuffer emulator = right.framebuffer emulator := by
  rw [Core.framebuffer, Core.framebuffer, alike.session]

/-- A frame of cores at the same point ends in the same way, and leaves them at
the same point. -/
theorem Core.Alike.runFrame {left right : Core Engine}
    (alike : left.Alike right) {input : HostInput}
    (inStep : left.RunsAlike emulator right input) :
    (left.runFrame emulator input).1.Alike
        (right.runFrame emulator input).1 ∧
      (left.runFrame emulator input).2.map Hosted.guest =
        (right.runFrame emulator input).2.map Hosted.guest := by
  have sameSession := alike.session
  cases aborted : left.session.aborted with
  | true =>
      have abortedRight := (congrArg Session.aborted sameSession).symm.trans
        aborted
      rw [Core.runFrame_aborted aborted, Core.runFrame_aborted abortedRight]
      exact ⟨alike, rfl⟩
  | false =>
      have aliveRight := (congrArg Session.aborted sameSession).symm.trans
        aborted
      cases present : left.session.uc with
      | none =>
          have absentRight := (congrArg Session.uc sameSession).symm.trans
            present
          rw [Core.runFrame_absent aborted present,
            Core.runFrame_absent aliveRight absentRight]
          exact ⟨alike, rfl⟩
      | some engine =>
          have presentRight := (congrArg Session.uc sameSession).symm.trans
            present
          have start : (left.frameStart emulator engine).Alike
              (right.frameStart emulator engine) :=
            ⟨rfl, rfl, rfl, alike.files⟩
          have emulated := start.emulate (inStep aborted engine present)
            left.files right.files
          rw [Core.runFrame_started aborted present,
            Core.runFrame_started aliveRight presentRight]
          generalize emulate (hosted emulator input.host left.files)
            input.fuel _ = first at emulated ⊢
          generalize emulate (hosted emulator input.host right.files)
            input.fuel _ = second at emulated ⊢
          cases emulated with
          | none => exact ⟨alike, rfl⟩
          | some same =>
              simp only [FrameResult.map, Option.map_some, same.guest,
                same.err, and_true]
              exact same.after left right _

/-- A frame of cores at the same point looks the same. -/
theorem Core.Alike.viewFrame {left right : Core Engine}
    (alike : left.Alike right) {input : HostInput}
    (inStep : left.RunsAlike emulator right input) :
    (left.viewFrame emulator input).1.Alike
        (right.viewFrame emulator input).1 ∧
      (left.viewFrame emulator input).2 =
        (right.viewFrame emulator input).2 := by
  obtain ⟨after, result⟩ := alike.runFrame inStep
  refine ⟨after, ?_⟩
  simp only [Core.viewFrame, result, after.framebuffer]

/-! ## Loading -/

theorem Hosted.Alike.regWrite {left right : Hosted Engine}
    (alike : left.Alike right) (host : Nat → HostAnswer)
    (leftFiles rightFiles : FileState) (register : UcRegister)
    (value : Word) :
    ((hosted emulator host leftFiles).regWrite left register value).Alike
      ((hosted emulator host rightFiles).regWrite right register value) :=
  ⟨congrArg (emulator.regWrite · register value) alike.engine,
    alike.served, alike.executed, alike.files⟩

/-- Setting up two engines at the same point succeeds alike. -/
theorem Hosted.Alike.setUp {left right : Hosted Engine}
    (alike : left.Alike right) (host : Nat → HostAnswer)
    (leftFiles rightFiles : FileState) (calls : List (UcCall × Bool)) :
    (setUp (hosted emulator host leftFiles) calls left).1 =
        (setUp (hosted emulator host rightFiles) calls right).1 ∧
      (setUp (hosted emulator host leftFiles) calls left).2.Alike
        (setUp (hosted emulator host rightFiles) calls right).2 := by
  induction calls generalizing left right with
  | nil => exact ⟨rfl, alike⟩
  | cons call rest inductionHypothesis =>
      obtain ⟨call, checked⟩ := call
      have sameErr : ((hosted emulator host leftFiles).perform left call).1 =
          ((hosted emulator host rightFiles).perform right call).1 :=
        congrArg (fun engine => (emulator.perform engine call).1)
          alike.engine
      have after :
          ((hosted emulator host leftFiles).perform left call).2.Alike
            ((hosted emulator host rightFiles).perform right call).2 :=
        ⟨congrArg (fun engine => (emulator.perform engine call).2)
            alike.engine,
          alike.served, alike.executed, alike.files⟩
      simp only [Host.setUp, sameErr]
      split
      · exact ⟨rfl, after⟩
      · exact inductionHypothesis after

/-- The emulation starts at the same point in every process. -/
theorem emulationStart_alike (emulator : Emulator Engine)
    {left right : FileState} (sameFiles : SameHostFiles left right)
    (host : Nat → HostAnswer) (rom msbuffer : List Byte) :
    Option.Rel Hosted.Alike
      (emulationStart (hosted emulator host left) rom msbuffer)
      (emulationStart (hosted emulator host right) rom msbuffer) := by
  unfold emulationStart
  cases opened : emulator.ucOpen with
  | error err =>
      have failed : ∀ files, (hosted emulator host files).ucOpen =
          .error err := by
        intro files
        simp only [hosted, opened]
      simp only [failed]
      exact .none
  | ok engine =>
      have succeeded : ∀ files, (hosted emulator host files).ucOpen =
          .ok ⟨engine, files, 0, []⟩ := by
        intro files
        simp only [hosted, opened]
      have start : (⟨engine, left, 0, []⟩ : Hosted Engine).Alike
          ⟨engine, right, 0, []⟩ := ⟨rfl, rfl, rfl, sameFiles⟩
      obtain ⟨sameSuccess, ready⟩ :=
        start.setUp host left right (setupCalls rom msbuffer)
      simp only [succeeded]
      generalize setUp (hosted emulator host left) _ _ = first
        at sameSuccess ready ⊢
      generalize setUp (hosted emulator host right) _ _ = second
        at sameSuccess ready ⊢
      obtain ⟨success, leftReady⟩ := first
      obtain ⟨_, rightReady⟩ := second
      cases sameSuccess
      cases success with
      | false => exact .none
      | true =>
          exact .some ((((ready.regWrite host left right .sp _).regWrite
            host left right .r0 _).regWrite host left right .r1 _).regWrite
              host left right .pc _)

/-- When `load_rom` returns 0, an emulation has ended without an error. -/
theorem loadRom_returned {unicorn : Unicorn Engine} {fuel : Nat}
    {rom msbuffer : List Byte} {session : Session Engine}
    (returned :
      (loadRom unicorn fuel rom msbuffer session).2.code = some 0) :
    ∃ start emulated, emulationStart unicorn rom msbuffer = some start ∧
      emulate unicorn fuel start = some emulated ∧
        emulated.err = ucErrOk := by
  unfold loadRom at returned
  unfold emulationStart
  cases opened : unicorn.ucOpen with
  | error err => simp [opened, LoadRomResult.code] at returned
  | ok engine =>
      simp only [opened] at returned
      cases isSet : setUp unicorn (setupCalls rom msbuffer) engine with
      | mk succeeded ready =>
          cases succeeded with
          | false => simp [isSet, LoadRomResult.code] at returned
          | true =>
              simp only [isSet, ucEmuStart] at returned
              cases ended : emulate unicorn fuel (unicorn.regWrite
                  (startRegisters unicorn rom ready) .pc minisysAddr) with
              | none => simp [ended, LoadRomResult.code] at returned
              | some emulated =>
                  by_cases clean : emulated.err = ucErrOk
                  · exact ⟨_, emulated, by simp only [isSet], ended, clean⟩
                  · simp [ended, clean, LoadRomResult.code] at returned

/-- Then `load_rom` leaves the engine as that emulation does. -/
theorem loadRom_of_emulated {unicorn : Unicorn Engine} {fuel : Nat}
    {rom msbuffer : List Byte} {start : Engine}
    {emulated : Emulated Engine}
    (started : emulationStart unicorn rom msbuffer = some start)
    (ended : emulate unicorn fuel start = some emulated)
    (clean : emulated.err = ucErrOk) (session : Session Engine) :
    loadRom unicorn fuel rom msbuffer session =
      ({ session with uc := some emulated.engine }, .loaded emulated) := by
  unfold emulationStart at started
  cases opened : unicorn.ucOpen with
  | error err => simp [opened] at started
  | ok engine =>
      simp only [opened] at started
      cases isSet : setUp unicorn (setupCalls rom msbuffer) engine with
      | mk succeeded ready =>
          cases succeeded with
          | false => simp [isSet] at started
          | true =>
              simp only [isSet, Option.some.injEq] at started
              subst started
              simp only [loadRom, opened, isSet, ucEmuStart, ended, clean,
                ne_eq, not_true_eq_false, if_false]

/-- A game that is loaded is loaded alike by cores that see the same host
files, apart from `aborted`, which `load_rom` keeps. -/
theorem Core.loads_alike {left right : Core Engine}
    (sameFiles : SameHostFiles left.files right.files) {game : Game}
    (returned : (left.loadRom emulator game).2.code = some 0)
    (inStep : left.LoadsAlike emulator right game) :
    ∃ first second : Emulated (Hosted Engine), first.Alike second ∧
      left.loadRom emulator game =
          (left.after first left.session.aborted, .loaded first) ∧
        right.loadRom emulator game =
          (right.after second right.session.aborted, .loaded second) := by
  obtain ⟨start, emulated, started, ended, clean⟩ :=
    loadRom_returned returned
  have starts := emulationStart_alike emulator sameFiles game.input.host
    game.rom game.msbuffer
  rw [started] at starts
  cases startedRight : emulationStart (hosted emulator game.input.host
      right.files) game.rom game.msbuffer with
  | none =>
      rw [startedRight] at starts
      cases starts
  | some other =>
      rw [startedRight] at starts
      obtain ⟨samePoint⟩ := starts
      have emulations := samePoint.emulate
        (inStep start other started startedRight) left.files right.files
      rw [ended] at emulations
      cases endedRight : emulate (hosted emulator game.input.host right.files)
          game.input.fuel other with
      | none =>
          rw [endedRight] at emulations
          cases emulations
      | some otherEnd =>
          rw [endedRight] at emulations
          obtain ⟨same⟩ := emulations
          refine ⟨emulated, otherEnd, same, ?_, ?_⟩
          · simp only [Core.loadRom, loadRom_of_emulated started ended clean]
            rfl
          · simp only [Core.loadRom, loadRom_of_emulated startedRight
              endedRight (same.err.symm.trans clean)]
            rfl

/-- After a failed emulation the first frame is skipped; in a new process it
is not. -/
theorem Core.viewFrame_ne {left right : Core Engine}
    (dead : left.session.aborted = true)
    (alive : right.session.aborted = false) {engine : Engine}
    (present : right.session.uc = some engine) (input : HostInput) :
    (left.viewFrame emulator input).2 ≠
      (right.viewFrame emulator input).2 := by
  intro same
  have results := congrArg FrameView.result same
  simp only [Core.viewFrame, Core.runFrame_aborted dead,
    Core.runFrame_started alive present] at results
  generalize emulate _ _ _ = ended at results
  cases ended with
  | none => cases results
  | some emulated => cases results

/-- A game that is loaded in a process, whatever its past, is executed as in a
new process, provided that its file calls find what they ask for alike, exactly
when no earlier emulation has failed or no frame is run.  What memory that was
not initialised holds (the `garbage` of an input, and the end of `msbuffer`
behind a short read) is given with the inputs and the game, so it is the same in
both processes. -/
theorem load_afresh_iff (emulator : Emulator Engine) {core : Core Engine}
    (game : Game) (inputs : List HostInput)
    (returned : (core.loadRom emulator game).2.code = some 0)
    (inStep : core.PlaysAfresh emulator game inputs) :
    core.play emulator game inputs =
        core.afresh.play emulator game inputs ↔
      (core.session.aborted = true → inputs = []) := by
  have sameFiles : SameHostFiles core.files core.afresh.files := rfl
  obtain ⟨startsAlike, framesAlike⟩ := inStep
  obtain ⟨first, second, same, loaded, loadedAfresh⟩ :=
    Core.loads_alike sameFiles returned startsAlike
  rw [loaded, loadedAfresh] at framesAlike
  simp only [Core.play, loaded, loadedAfresh, LoadRomResult.map, same.guest,
    Prod.mk.injEq, true_and]
  constructor
  · intro sameFrames aborted
    cases inputs with
    | nil => rfl
    | cons input rest =>
        rw [Machine.outputs_cons, Machine.outputs_cons, List.cons.injEq]
          at sameFrames
        have dead : (core.after first core.session.aborted).session.aborted
            = true := aborted
        exact absurd sameFrames.1 (Core.viewFrame_ne dead rfl rfl input)
  · intro alive
    cases inputs with
    | nil => rfl
    | cons input rest =>
        have notAborted : core.session.aborted = false := by
          rw [← Bool.not_eq_true]
          exact fun aborted => List.cons_ne_nil _ _ (alive aborted)
        rw [notAborted] at framesAlike ⊢
        exact Machine.outputs_eq_of_lockstep
          (fun _ _ _ allowed related => related.viewFrame allowed)
          (same.after core core.afresh false) framesAlike

/-! ## Games that use no files -/

variable (emulator) in
/-- The guest makes no file call within the fuel. -/
def usesNoFiles (host : Nat → HostAnswer) :
    (fuel : Nat) → Hosted Engine → Bool
  | 0, _ => true
  | fuel + 1, state =>
      (nextFileCall emulator host state).isNone &&
        match (hosted emulator host state.files).resume state with
        | some (.svc handler after) =>
            handler.stops || usesNoFiles host fuel after
        | _ => true

variable (emulator) in
/-- Nor does it in the frames. -/
def Core.runsWithoutFiles : Core Engine → List HostInput → Bool
  | _, [] => true
  | core, input :: rest =>
      core.session.uc.all (fun engine => usesNoFiles emulator input.host
          input.fuel (core.frameStart emulator engine)) &&
        Core.runsWithoutFiles (core.viewFrame emulator input).1 rest

variable (emulator) in
/-- Nor while the game is started. -/
def Core.playsWithoutFiles (core : Core Engine) (game : Game)
    (inputs : List HostInput) : Bool :=
  (emulationStart (hosted emulator game.input.host core.files) game.rom
      game.msbuffer).all
        (usesNoFiles emulator game.input.host game.input.fuel) &&
    (core.loadRom emulator game).1.runsWithoutFiles emulator inputs

theorem EmulatesAlike.of_usesNoFiles {host : Nat → HostAnswer}
    {fuel : Nat} {left right : Hosted Engine}
    (unused : usesNoFiles emulator host fuel left = true) :
    EmulatesAlike emulator host fuel left right := by
  induction fuel generalizing left right with
  | zero => trivial
  | succ fuel inductionHypothesis =>
      rw [usesNoFiles, Bool.and_eq_true, Option.isNone_iff_eq_none]
        at unused
      obtain ⟨noCall, later⟩ := unused
      constructor
      · intro call next
        rw [noCall] at next
        contradiction
      · intro handler leftAfter rightAfter resumed _ goesOn
        simp only [resumed, goesOn, Bool.false_or] at later
        exact inductionHypothesis later

/-- A game that uses no files finds everything that it asks for. -/
theorem Core.playsAfresh_of_withoutFiles {core : Core Engine} {game : Game}
    {inputs : List HostInput}
    (unused : core.playsWithoutFiles emulator game inputs = true) :
    core.PlaysAfresh emulator game inputs := by
  rw [Core.playsWithoutFiles, Bool.and_eq_true] at unused
  obtain ⟨quietStart, quietFrames⟩ := unused
  constructor
  · intro first second started _
    rw [started, Option.all_some] at quietStart
    exact EmulatesAlike.of_usesNoFiles quietStart
  · generalize (core.loadRom emulator game).1 = left at quietFrames ⊢
    generalize (core.afresh.loadRom emulator game).1 = right
    induction inputs generalizing left right with
    | nil => trivial
    | cons input rest inductionHypothesis =>
        rw [Core.runsWithoutFiles, Bool.and_eq_true] at quietFrames
        refine ⟨?_, inductionHypothesis _ quietFrames.2 _⟩
        intro _ engine present
        have quiet := quietFrames.1
        rw [present, Option.all_some] at quiet
        exact EmulatesAlike.of_usesNoFiles quiet

end Cores

/-- A second game after one that was run for a frame. -/
theorem load_afresh_iff_sample :
    ∃ core, history armEmulator (fun _ => none)
        [.loadGame countingGame, .run idleInput] = some core ∧
      core.play armEmulator countingGame [idleInput] =
        core.afresh.play armEmulator countingGame [idleInput] := by
  obtain ⟨core, past, facts⟩ := Option.map_eq_some_iff.mp
    (show (history armEmulator (fun _ => none)
        [.loadGame countingGame, .run idleInput]).map
          (fun core => ((core.loadRom armEmulator countingGame).2.code,
            core.session.aborted,
            core.playsWithoutFiles armEmulator countingGame [idleInput])) =
        some (some 0, false, true) by decide +kernel)
  simp only [Prod.mk.injEq] at facts
  obtain ⟨returned, alive, unused⟩ := facts
  refine ⟨core, past, ?_⟩
  refine (load_afresh_iff armEmulator countingGame [idleInput] returned
    (Core.playsAfresh_of_withoutFiles unused)).mpr ?_
  intro aborted
  rw [alive] at aborted
  contradiction

/-- A game whose first instruction is undefined. -/
def faultyGame : Game := armGame [0xE7F000F0]

/-- After a game that failed, a good game is loaded and not run. -/
theorem load_after_fault_skips :
    ¬ ∀ (Engine : Type) (emulator : Emulator Engine) (files : HostFiles)
      (calls : List RetroCall) (core : Core Engine) (game : Game)
      (inputs : List HostInput),
        history emulator files calls = some core →
          (core.loadRom emulator game).2.code = some 0 →
            core.play emulator game inputs =
              core.afresh.play emulator game inputs := by
  intro playsAfresh
  obtain ⟨core, past, facts⟩ := Option.map_eq_some_iff.mp
    (show (history armEmulator (fun _ => none)
        [.loadGame faultyGame]).map
          (fun core => ((core.loadRom armEmulator countingGame).2.code,
            (core.play armEmulator countingGame [idleInput]).2.map
              (fun view => view.result.starts),
            (core.afresh.play armEmulator countingGame [idleInput]).2.map
              (fun view => view.result.starts))) =
        some (some 0, [false], [true]) by decide +kernel)
  simp only [Prod.mk.injEq] at facts
  obtain ⟨returned, skipped, started⟩ := facts
  rw [playsAfresh ArmEngine armEmulator (fun _ => none) _ core countingGame
    [idleInput] past returned, started] at skipped
  contradiction

end Host
end GA330
