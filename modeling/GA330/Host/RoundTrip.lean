import GA330.Host.Api

/-!
# What is written to a file can be read back

A run writes a file through one handle, closes it, opens it again and reads it
through another.  Between these calls the guest uses other handles, on other
files.  Whatever the sizes of the single transfers, the bytes that arrive in
guest memory are the beginning of the bytes that the guest wrote.
-/

namespace GA330
namespace Host

open ByteMemory FileStream

namespace Filesystem

/-- No number that is still to come has an entry, and numbers are positive. -/
structure Ready (fs : Filesystem) : Prop where
  positive : 0 < fs.nextHandle
  free : ∀ k, fs.nextHandle ≤ k → fs.openFiles k = none

theorem initial_ready (files : HostFiles) : (initial files).Ready :=
  ⟨Int.zero_lt_one, fun _ _ => rfl⟩

/-- An operation that leaves one file and one entry alone. -/
structure Keeps (name : HostName) (own : Option Int)
    (before after : Filesystem) : Prop where
  file : after.files name = before.files name
  entry : ∀ h ∈ own, after.openFiles h = before.openFiles h

/-- A handle of another file. -/
structure OtherHandle (name : HostName) (own : Option Int)
    (fs : Filesystem) (handle : Int) : Prop where
  different : handle ∉ own
  target : ∀ mode, (fs.entry handle).target ≠ some (name, mode)

section Operations

variable {name : HostName} {own : Option Int} {fs : Filesystem}
variable {handle : Int}

/-- Changing the entry of a number that was returned. -/
theorem Ready.update (ready : fs.Ready) (returned : handle < fs.nextHandle)
    (files : HostFiles) (stream : Option (Stream HostName)) :
    Ready { fs with
      files := files
      openFiles := Function.update fs.openFiles handle stream } where
  positive := ready.positive
  free := by
    intro k ahead
    change fs.nextHandle ≤ k at ahead
    exact (Function.update_of_ne (by omega) _ _).trans (ready.free k ahead)

/-- Changing the entry of another handle. -/
theorem Keeps.update (different : handle ∉ own) {files : HostFiles}
    (file : files name = fs.files name)
    (stream : Option (Stream HostName)) :
    Keeps name own fs { fs with
      files := files
      openFiles := Function.update fs.openFiles handle stream } where
  file := file
  entry := by
    intro h present
    apply Function.update_of_ne
    rintro rfl
    exact different present

/-- Seeking is changing the entry. -/
theorem seekFile_eq (fs : Filesystem) (handle offset cMode : Int) :
    ∃ stream, fs.seekFile handle offset cMode =
      fs.setEntry handle stream := by
  unfold seekFile
  cases direction cMode with
  | none => exact ⟨_, rfl⟩
  | some dir => exact ⟨_, rfl⟩

/-- Opening a file keeps the table ready. -/
theorem Ready.openFile (ready : fs.Ready) (path mode : List Byte)
    (granted : Bool) : (fs.openFile path mode granted).1.Ready := by
  have positive := ready.positive
  rcases openFile_cases fs path mode granted with
    ⟨_, failed⟩ | ⟨openMode, files, _, _, _, succeeded⟩
  · rw [failed]
    exact ready
  · rw [succeeded]
    constructor
    · change 0 < fs.nextHandle + 1
      omega
    · intro k ahead
      change fs.nextHandle + 1 ≤ k at ahead
      refine (emplace_of_ne _ _ (by omega)).trans ?_
      exact ready.free k (by omega)

/-- Opening another file. -/
theorem Keeps.openFile {path : List Byte} (mode : List Byte)
    (granted : Bool) (different : hostName path ≠ name)
    (returned : ∀ h ∈ own, h < fs.nextHandle) :
    Keeps name own fs (fs.openFile path mode granted).1 where
  file := openFile_files fs granted different
  entry := fun h present => openFile_of_lt fs path mode granted
    (returned h present)

end Operations

end Filesystem

/-! ## Calls on other files -/

namespace FileCall

/-- The call uses only handles that an open has returned, and the process
survives it. -/
structure Disciplined (state : FileState) (call : FileCall) : Prop where
  answered : (svcFile state call).2.isSome = true
  returned : ∀ h ∈ call.handle, h < state.filesystem.nextHandle

/-- The call neither opens a file nor uses a handle that is on it. -/
structure Elsewhere (name : HostName) (own : Option Int)
    (state : FileState) (call : FileCall) : Prop
    extends Disciplined state call where
  path : ∀ path ∈ call.path, hostName path ≠ name
  handle : ∀ h ∈ call.handle,
    Filesystem.OtherHandle name own state.filesystem h

/-- What a call does to the file table is one operation of it. -/
inductive Effect (state : FileState) (call : FileCall) : Filesystem → Prop
  | opened (path mode : List Byte) (asked : call.path = some path) :
      Effect state call
        (state.filesystem.openFile path mode call.granted).1
  | updated (h : Int) (argument : call.handle = some h)
      (files : HostFiles) (stream : Option (Stream HostName))
      (others : ∀ name,
        (∀ mode, (state.filesystem.entry h).target ≠ some (name, mode)) →
          files name = state.filesystem.files name) :
      Effect state call { state.filesystem with
        files := files
        openFiles := Function.update state.filesystem.openFiles h stream }

theorem effect_fopen {state : FileState} {call : FileCall}
    (answered : (svcFopen state call).2.isSome = true) :
    Effect state call (svcFopen state call).1.filesystem := by
  unfold svcFopen at answered ⊢
  cases asked : call.path with
  | none => simp [asked] at answered
  | some path =>
      cases moded : call.mode with
      | none => simp [asked, moded] at answered
      | some mode =>
          simp only [asked, moded] at answered
          split at answered
          · contradiction
          · rename_i inRange
            simp only [inRange]
            exact .opened path mode asked

theorem effect_fread {state : FileState} {call : FileCall}
    (answered : (svcFread state call).2.isSome = true)
    (argument : call.handle = some (call.registers 3).toInt) :
    Effect state call (svcFread state call).1.filesystem := by
  unfold svcFread at answered ⊢
  dsimp only at answered ⊢
  split at answered
  · contradiction
  · rename_i nonzero
    rw [if_neg nonzero]
    exact .updated _ argument _ _ fun _ _ => rfl

theorem effect_fwrite {state : FileState} {call : FileCall}
    (answered : (svcFwrite state call).2.isSome = true)
    (argument : call.handle = some (call.registers 3).toInt) :
    Effect state call (svcFwrite state call).1.filesystem := by
  unfold svcFwrite at answered ⊢
  dsimp only at answered ⊢
  split at answered
  · contradiction
  · rename_i nonzero
    rw [if_neg nonzero]
    exact .updated _ argument _ _ fun name different =>
      write_other _ (different .output) _

/-- The effect of a call that is answered. -/
theorem effect {state : FileState} {call : FileCall}
    (answered : (svcFile state call).2.isSome = true) :
    Effect state call (svcFile state call).1.filesystem := by
  unfold svcFile at answered ⊢
  cases kind : call.handler with
  | fopen =>
      simp only [kind] at answered
      exact effect_fopen answered
  | fopenW =>
      simp only [kind] at answered
      exact effect_fopen answered
  | fread =>
      simp only [kind] at answered
      exact effect_fread answered (by rw [handle, kind])
  | fwrite =>
      simp only [kind] at answered
      exact effect_fwrite answered (by rw [handle, kind])
  | fseek =>
      obtain ⟨stream, moved⟩ := Filesystem.seekFile_eq state.filesystem
        (call.registers 0).toInt (call.registers 1).toInt
        (call.registers 2).toInt
      simp only [svcFseek, moved]
      exact .updated _ (by rw [handle, kind]) _ _ fun _ _ => rfl
  | fclose => exact .updated _ (by rw [handle, kind]) _ _ fun _ _ => rfl
  | ftell => exact .updated _ (by rw [handle, kind]) _ _ fun _ _ => rfl

/-- Disciplined calls keep the table ready, and numbers only grow. -/
theorem Disciplined.ready {state : FileState} {call : FileCall}
    (disciplined : Disciplined state call)
    (ready : state.filesystem.Ready) :
    (svcFile state call).1.filesystem.Ready ∧
      state.filesystem.nextHandle ≤
        (svcFile state call).1.filesystem.nextHandle := by
  have known := effect disciplined.answered
  generalize (svcFile state call).1.filesystem = after at known ⊢
  cases known with
  | opened path mode asked =>
      exact ⟨ready.openFile path mode call.granted,
        Filesystem.nextHandle_le_openFile _ _ _ _⟩
  | updated h argument files stream others =>
      exact ⟨ready.update (disciplined.returned h argument) files stream,
        Int.le_refl _⟩

/-- Calls on other files leave the file and its handle alone. -/
theorem Elsewhere.keeps {name : HostName} {own : Option Int}
    {state : FileState} {call : FileCall}
    (elsewhere : Elsewhere name own state call)
    (returned : ∀ h ∈ own, h < state.filesystem.nextHandle) :
    Filesystem.Keeps name own state.filesystem
      (svcFile state call).1.filesystem := by
  have known := effect elsewhere.answered
  generalize (svcFile state call).1.filesystem = after at known ⊢
  cases known with
  | opened path mode asked =>
      exact .openFile mode call.granted (elsewhere.path path asked) returned
  | updated h argument files stream others =>
      have other := elsewhere.handle h argument
      exact .update other.different (others name other.target) stream

/-- A transfer of at least one item size on a handle, whose buffer is mapped
and whose size fits. -/
structure Transfers (handler : FileHandler) (h : Int) (call : FileCall) :
    Prop where
  handler : call.handler = handler
  argument : (call.registers 3).toInt = h
  size : 0 < (call.registers 1).toNat
  fits : (call.registers 1).toNat * (call.registers 2).toNat < 2 ^ 32
  mapped : call.memory.rangeMapped (call.registers 0)
    ((call.registers 1).toNat * (call.registers 2).toNat) = true

/-- A transfer whose size fits asks for the product. -/
theorem Transfers.total {handler : FileHandler} {h : Int} {call : FileCall}
    (transfers : Transfers handler h call) :
    call.total =
      (call.registers 1).toNat * (call.registers 2).toNat := by
  rw [FileCall.total, BitVec.toNat_mul, Nat.mod_eq_of_lt transfers.fits]

theorem Transfers.nonzero {handler : FileHandler} {h : Int}
    {call : FileCall} (transfers : Transfers handler h call) :
    call.registers 1 ≠ 0 := by
  intro zero
  have size := transfers.size
  rw [zero] at size
  contradiction

/-- A write hands the guest's bytes to the file table. -/
theorem Transfers.fwrite {h : Int} {state : FileState} {call : FileCall}
    (transfers : Transfers .fwrite h call) :
    (svcFile state call).1.filesystem =
      (state.filesystem.writeFile h call.range).1 := by
  have bytes : call.memory.ucMemRead (call.registers 0) call.total =
      some call.range := by
    rw [transfers.total, GuestMemory.ucMemRead, if_pos transfers.mapped,
      FileCall.range]
  have length : call.range.length = call.total := by
    rw [transfers.total, FileCall.range, length_read]
  simp only [svcFile, transfers.handler, svcFwrite, bytes,
    transfers.argument, if_neg transfers.nonzero]
  rw [← length, FileBuffer.front_store]

/-- A read stores what the file table delivers at the buffer address. -/
theorem Transfers.fread {h : Int} (state : FileState) {call : FileCall}
    (transfers : Transfers .fread h call) :
    (svcFile state call).1.filesystem =
        (state.filesystem.readFile h call.total).1 ∧
      ∃ answer, (svcFile state call).2 = some answer ∧
        answer.transferred =
          (state.filesystem.readFile h call.total).2 ∧
        answer.memory.bytes = write call.memory.bytes (call.registers 0)
          answer.transferred := by
  have short : (state.filesystem.readFile h call.total).2.length ≤
      call.total :=
    length_read_le _ _ _
  have mapped : call.memory.rangeMapped (call.registers 0)
      (state.filesystem.readFile h call.total).2.length = true := by
    rw [transfers.total] at short ⊢
    exact GuestMemory.rangeMapped_of_le transfers.mapped short
  simp only [svcFile, transfers.handler, svcFread, transfers.argument,
    if_neg transfers.nonzero, FileBuffer.front_store,
    GuestMemory.ucMemWrite, if_pos mapped]
  exact ⟨trivial, _, rfl, rfl, rfl⟩

/-- A successful open of a file with a name, returning a handle. -/
structure Opens (name : HostName) (mode : OpenMode) (h : Int)
    (state : FileState) (call : FileCall) : Prop where
  handler : call.handler = .fopen
  path : ∃ path ∈ call.path, hostName path = name
  mode : ∃ text ∈ call.mode, fileMode text = some mode
  answered : ∃ answer ∈ (svcFile state call).2,
    (answer.registers 0).toInt = h
  opened : 0 ≤ h

/-- An open that is answered is one of the file table that does not
overflow. -/
theorem Opens.called {name : HostName} {mode : OpenMode} {h : Int}
    {state : FileState} {call : FileCall}
    (opens : Opens name mode h state call) :
    ∃ path text, hostName path = name ∧ fileMode text = some mode ∧
      openOverflows state.filesystem path text call.granted = false ∧
        svcFile state call =
          ({ state with
              filesystem :=
                (state.filesystem.openFile path text call.granted).1 },
            some (call.returning (BitVec.ofInt 32
              (state.filesystem.openFile path text call.granted).2))) := by
  obtain ⟨path, asked, named⟩ := opens.path
  obtain ⟨text, modeText, moded⟩ := opens.mode
  obtain ⟨answer, answered, _⟩ := opens.answered
  rw [Option.mem_def] at asked modeText answered
  have inRange : openOverflows state.filesystem path text call.granted =
      false := by
    cases overflows : openOverflows state.filesystem path text call.granted
      with
    | false => rfl
    | true =>
        simp [svcFile, opens.handler, svcFopen, asked, modeText,
          overflows] at answered
  refine ⟨path, text, named, moded, inRange, ?_⟩
  simp only [svcFile, opens.handler, svcFopen, asked, modeText, inRange,
    Bool.false_eq_true, if_false]

/-- A successful open numbers the stream and puts it into the table. -/
theorem Opens.result {name : HostName} {mode : OpenMode} {h : Int}
    {state : FileState} {call : FileCall}
    (opens : Opens name mode h state call)
    (ready : state.filesystem.Ready) :
    let after := (svcFile state call).1.filesystem
    after.openFiles h = some (.opened name mode) ∧
      h < after.nextHandle ∧ after.Ready ∧
      FileStream.openFile state.filesystem.files name mode call.granted =
        some (after.files, .opened name mode) := by
  obtain ⟨path, text, rfl, moded, inRange, called⟩ := opens.called
  obtain ⟨answer, answered, returned⟩ := opens.answered
  have opened := opens.opened
  have positive := ready.positive
  have readyAfter := ready.openFile path text call.granted
  intro after
  have result : after =
      (state.filesystem.openFile path text call.granted).1 := by
    simp only [after, called]
  rw [Option.mem_def, called] at answered
  cases answered
  simp only [returning, Function.update_self, BitVec.toInt_ofInt]
    at returned
  rw [result]
  rcases Filesystem.openFile_cases state.filesystem path text call.granted
    with ⟨_, failed⟩ | ⟨openMode, files, granted, sameMode, attempt, succeeded⟩
  · rw [failed] at returned
    change Int.bmod (-1) (2 ^ 32) = h at returned
    have minus : Int.bmod (-1) (2 ^ 32) = -1 := by decide
    omega
  · cases sameMode.symm.trans moded
    rw [succeeded] at returned readyAfter ⊢
    dsimp only at returned
    have noOverflow : state.filesystem.nextHandle < 2 ^ 31 - 1 := by
      simpa [openOverflows, granted] using inRange
    rw [Int.bmod_eq_of_le (by omega) (by omega)] at returned
    subst returned
    refine ⟨?_, ?_, readyAfter, ?_⟩
    · exact Filesystem.emplace_self _ _ (ready.free _ (Int.le_refl _))
    · change state.filesystem.nextHandle < state.filesystem.nextHandle + 1
      omega
    · rw [attempt]
      simp

end FileCall

/-! ## The three phases -/

/-- The file is open for writing under a handle, and holds what was written. -/
structure Writing (name : HostName) (h : Int) (content : List Byte)
    (fs : Filesystem) : Prop where
  ready : fs.Ready
  returned : h < fs.nextHandle
  file : fs.files name = some content
  entry : fs.openFiles h =
    some ⟨some (name, .output), content.length, false, false⟩

/-- The file is closed. -/
structure Stored (name : HostName) (content : List Byte)
    (fs : Filesystem) : Prop where
  ready : fs.Ready
  file : fs.files name = some content

/-- The file is open for reading under a handle, after reads that asked for
some number of bytes. -/
structure Reading (name : HostName) (h : Int) (content : List Byte)
    (requested : Nat) (fs : Filesystem) : Prop where
  ready : fs.Ready
  returned : h < fs.nextHandle
  file : fs.files name = some content
  entry : ∃ stream, fs.openFiles h = some stream ∧
    stream.target = some (name, .input) ∧
      (stream.good = true ∧ stream.position = requested ∧
          requested ≤ content.length ∨
        stream.good = false ∧ content.length < requested)

section Phases

variable {name : HostName} {h : Int} {content : List Byte}
variable {state : FileState} {call : FileCall}

/-- In the writing phase the guest writes through the handle or is busy
elsewhere. -/
def WritingAllowed (name : HostName) (h : Int) (state : FileState)
    (call : FileCall) : Prop :=
  call.Transfers .fwrite h ∨ call.Elsewhere name (some h) state

/-- In the reading phase the guest reads through the handle or is busy
elsewhere. -/
def ReadingAllowed (name : HostName) (h : Int) (state : FileState)
    (call : FileCall) : Prop :=
  call.Transfers .fread h ∨ call.Elsewhere name (some h) state

/-- The bytes that a call writes through a handle. -/
def FileCall.writtenBy (h : Int) (call : FileCall) : List Byte :=
  if call.handler = .fwrite ∧ call.handle = some h then call.range else []

/-- The number of bytes that a call asks for through a handle. -/
def FileCall.requestedBy (h : Int) (call : FileCall) : Nat :=
  if call.handler = .fread ∧ call.handle = some h then call.total else 0

/-- The bytes that a call stores in guest memory through a handle. -/
def deliveredBy (h : Int) (call : FileCall) (answer : Option FileAnswer) :
    List Byte :=
  if call.handler = .fread ∧ call.handle = some h then
    (answer.map FileAnswer.transferred).getD []
  else []

/-- Calls elsewhere transfer nothing through the handle. -/
theorem FileCall.Elsewhere.handle_ne
    (elsewhere : call.Elsewhere name (some h) state) :
    call.handle ≠ some h := by
  intro argument
  exact (elsewhere.handle h argument).different rfl

theorem FileCall.Transfers.handle_eq
    (transfers : call.Transfers .fwrite h ∨ call.Transfers .fread h) :
    call.handle = some h := by
  rcases transfers with own | own
  · rw [FileCall.handle, own.handler]
    exact congrArg some own.argument
  · rw [FileCall.handle, own.handler]
    exact congrArg some own.argument

/-- A call elsewhere does not disturb the writing phase. -/
theorem Writing.elsewhere (writing : Writing name h content state.filesystem)
    (elsewhere : call.Elsewhere name (some h) state) :
    Writing name h content (svcFile state call).1.filesystem := by
  obtain ⟨ready, grown⟩ := elsewhere.toDisciplined.ready writing.ready
  have kept := elsewhere.keeps (by
    intro own same
    cases same
    exact writing.returned)
  exact ⟨ready, Int.lt_of_lt_of_le writing.returned grown,
    kept.file.trans writing.file, (kept.entry h rfl).trans writing.entry⟩

/-- Writing appends the bytes of the guest to the file. -/
theorem Writing.write (writing : Writing name h content state.filesystem)
    (own : call.Transfers .fwrite h) :
    Writing name h (content ++ call.range)
      (svcFile state call).1.filesystem := by
  have entry : state.filesystem.entry h =
      ⟨some (name, .output), content.length, false, false⟩ := by
    rw [Filesystem.entry, writing.entry, Option.getD_some]
  have contents : contents state.filesystem.files name = content := by
    rw [contents, writing.file, Option.getD_some]
  have appended : FileStream.write state.filesystem.files
      (state.filesystem.entry h) call.range =
        (Function.update state.filesystem.files name
            (some (content ++ call.range)),
          ⟨some (name, .output), (content ++ call.range).length, false,
            false⟩) := by
    rw [entry, write_append rfl rfl (by rw [contents]), contents,
      List.length_append]
  rw [own.fwrite, Filesystem.writeFile, appended]
  exact ⟨writing.ready.update writing.returned _ _, writing.returned,
    Function.update_self _ _ _, Function.update_self _ _ _⟩

/-- One call of the writing phase. -/
theorem Writing.step (writing : Writing name h content state.filesystem)
    (allowed : WritingAllowed name h state call) :
    Writing name h (content ++ call.writtenBy h)
      (svcFile state call).1.filesystem := by
  rcases allowed with own | elsewhere
  · rw [FileCall.writtenBy,
      if_pos ⟨own.handler, FileCall.Transfers.handle_eq (.inl own)⟩]
    exact writing.write own
  · rw [FileCall.writtenBy, if_neg fun both => elsewhere.handle_ne both.2,
      List.append_nil]
    exact writing.elsewhere elsewhere

/-- What is written through a handle in a run. -/
def bytesWritten (h : Int) (calls : List FileCall) : List Byte :=
  calls.flatMap (FileCall.writtenBy h)

/-- How much is asked for through a handle in a run. -/
def bytesRequested (h : Int) (calls : List FileCall) : Nat :=
  (calls.map (FileCall.requestedBy h)).sum

/-- A run's calls with their answers. -/
abbrev FileLog := List (FileCall × Option FileAnswer)

/-- What arrives in guest memory through a handle in a run. -/
def bytesDelivered (h : Int) (log : FileLog) : List Byte :=
  log.flatMap fun entry => deliveredBy h entry.1 entry.2

/-- The whole writing phase. -/
theorem Writing.run (writing : Writing name h content state.filesystem)
    {calls : List FileCall}
    (allowed : Machine.Admissible svcFile (WritingAllowed name h) state
      calls) :
    Writing name h (content ++ bytesWritten h calls)
      (Machine.final svcFile state calls).filesystem := by
  induction calls generalizing state content with
  | nil => simpa [bytesWritten] using writing
  | cons call rest inductionHypothesis =>
      have continued := inductionHypothesis (writing.step allowed.1)
        allowed.2
      rwa [List.append_assoc] at continued

/-- Closing the handle. -/
theorem Writing.close (writing : Writing name h content state.filesystem)
    (handler : call.handler = .fclose)
    (argument : (call.registers 0).toInt = h) :
    Stored name content (svcFile state call).1.filesystem := by
  have closed : (svcFile state call).1.filesystem =
      state.filesystem.closeFile h := by
    simp only [svcFile, handler, svcFclose, argument]
  rw [closed]
  exact ⟨writing.ready.update writing.returned _ _, writing.file⟩

/-- The phase in which the file is closed. -/
theorem Stored.run (stored : Stored name content state.filesystem)
    {calls : List FileCall}
    (allowed : Machine.Admissible svcFile
      (fun state call => call.Elsewhere name none state) state calls) :
    Stored name content
      (Machine.final svcFile state calls).filesystem := by
  refine @Machine.final_invariant_of_admissible _ _ _ svcFile
    (fun state => Stored name content state.filesystem) _ ?_ _ stored _
    allowed
  intro state call elsewhere stored
  have kept := elsewhere.keeps (by simp)
  exact ⟨(elsewhere.toDisciplined.ready stored.ready).1,
    kept.file.trans stored.file⟩

/-- What is known in the reading phase about the calls so far: what arrived is
the beginning of the file, and every read stored its part at its buffer. -/
structure Delivered (h : Int) (content : List Byte) (log : FileLog) :
    Prop where
  bytes : bytesDelivered h log =
    content.take (bytesRequested h (log.map Prod.fst))
  stored : ∀ entry ∈ log, entry.1.Transfers .fread h →
    ∀ answer ∈ entry.2, answer.memory.bytes =
      write entry.1.memory.bytes (entry.1.registers 0) answer.transferred

/-- A call elsewhere does not disturb the reading phase. -/
theorem Reading.elsewhere {requested : Nat}
    (reading : Reading name h content requested state.filesystem)
    (elsewhere : call.Elsewhere name (some h) state) :
    Reading name h content requested
      (svcFile state call).1.filesystem := by
  obtain ⟨ready, grown⟩ := elsewhere.toDisciplined.ready reading.ready
  have kept := elsewhere.keeps (by
    intro own same
    cases same
    exact reading.returned)
  exact ⟨ready, Int.lt_of_lt_of_le reading.returned grown,
    kept.file.trans reading.file, by
      rw [kept.entry h rfl]
      exact reading.entry⟩

/-- The reading phase goes on after a read that leaves its stream good at the
position asked for, or failed behind the end. -/
theorem Reading.after {requested size : Nat}
    (reading : Reading name h content requested state.filesystem)
    {stream : Stream HostName}
    (present : state.filesystem.openFiles h = some stream)
    (target : stream.target = some (name, .input))
    (known :
      let after := (FileStream.read state.filesystem.files stream size).1
      (after.good = true ∧ after.position = requested + size ∧
          requested + size ≤ content.length) ∨
        (after.good = false ∧ content.length < requested + size)) :
    Reading name h content (requested + size)
      (state.filesystem.readFile h size).1 := by
  have entry : state.filesystem.entry h = stream := by
    rw [Filesystem.entry, present, Option.getD_some]
  rw [Filesystem.readFile, entry]
  exact ⟨reading.ready.update reading.returned _ _, reading.returned,
    reading.file, _, Function.update_self _ _ _,
    (read_target _ _ _).trans target, known⟩

/-- Reading delivers the next bytes of the file, as far as there are any. -/
theorem Reading.read {requested : Nat}
    (reading : Reading name h content requested state.filesystem)
    (size : Nat) :
    Reading name h content (requested + size)
        (state.filesystem.readFile h size).1 ∧
      content.take requested ++ (state.filesystem.readFile h size).2 =
        content.take (requested + size) := by
  obtain ⟨stream, present, target, position⟩ := reading.entry
  have contents : contents state.filesystem.files name = content := by
    rw [contents, reading.file, Option.getD_some]
  have delivered : (state.filesystem.readFile h size).2 =
      (FileStream.read state.filesystem.files stream size).2 := by
    rw [Filesystem.readFile, Filesystem.entry, present, Option.getD_some]
  rw [delivered]
  rcases position with ⟨good, atRequested, inFile⟩ | ⟨failed, behind⟩
  · constructor
    · refine reading.after present target ?_
      by_cases fits : requested + size ≤ content.length
      · have complete := @read_complete _ _ state.filesystem.files stream
          name good target size (by rw [contents, atRequested]; omega)
        rw [complete]
        exact .inl ⟨good, by rw [atRequested], fits⟩
      · have short : (FileStream.read state.filesystem.files stream
            size).1.fail = true := by
          apply read_short target
          rw [contents, atRequested]
          omega
        exact .inr ⟨by simp [Stream.good, short], by omega⟩
    · rw [read_input good target, contents, atRequested, List.take_add]
  · constructor
    · refine reading.after present target ?_
      rw [read_failed _ failed]
      exact .inr ⟨by simp [Stream.good], by omega⟩
    · rw [read_failed _ failed, List.append_nil,
        List.take_of_length_le (by omega), List.take_of_length_le (by omega)]

/-- What every run of the reading phase keeps true. -/
def ReadingInvariant (name : HostName) (h : Int) (content : List Byte)
    (state : FileState) (log : FileLog) : Prop :=
  Reading name h content (bytesRequested h (log.map Prod.fst))
      state.filesystem ∧
    Delivered h content log

theorem bytesRequested_concat (h : Int) (log : FileLog) (call : FileCall)
    (answer : Option FileAnswer) :
    bytesRequested h ((log ++ [(call, answer)]).map Prod.fst) =
      bytesRequested h (log.map Prod.fst) + call.requestedBy h := by
  simp [bytesRequested]

theorem bytesDelivered_concat (h : Int) (log : FileLog) (call : FileCall)
    (answer : Option FileAnswer) :
    bytesDelivered h (log ++ [(call, answer)]) =
      bytesDelivered h log ++ deliveredBy h call answer := by
  simp [bytesDelivered]

/-- One call of the reading phase. -/
theorem ReadingInvariant.step (state : FileState) (log : FileLog)
    (call : FileCall) (allowed : ReadingAllowed name h state call)
    (holds : ReadingInvariant name h content state log) :
    ReadingInvariant name h content (svcFile state call).1
      (log ++ [(call, (svcFile state call).2)]) := by
  obtain ⟨reading, delivered⟩ := holds
  rw [ReadingInvariant, bytesRequested_concat]
  rcases allowed with own | elsewhere
  · have both : call.handler = .fread ∧ call.handle = some h :=
      ⟨own.handler, FileCall.Transfers.handle_eq (.inr own)⟩
    obtain ⟨filesystem, answer, answered, transferred, stored⟩ :=
      own.fread state
    obtain ⟨next, piece⟩ := reading.read call.total
    rw [FileCall.requestedBy, if_pos both, filesystem, answered]
    refine ⟨next, ?_, ?_⟩
    · rw [bytesDelivered_concat, bytesRequested_concat, deliveredBy,
        if_pos both, FileCall.requestedBy, if_pos both, delivered.bytes,
        ← piece, Option.map_some, Option.getD_some, transferred]
    · intro entry present ownEntry
      rw [List.mem_append, List.mem_singleton] at present
      rcases present with earlier | rfl
      · exact delivered.stored entry earlier ownEntry
      · intro found same
        cases same
        exact stored
  · have neither : ¬ (call.handler = .fread ∧ call.handle = some h) :=
      fun both => elsewhere.handle_ne both.2
    rw [FileCall.requestedBy, if_neg neither, Nat.add_zero]
    refine ⟨reading.elsewhere elsewhere, ?_, ?_⟩
    · rw [bytesDelivered_concat, bytesRequested_concat, deliveredBy,
        if_neg neither, FileCall.requestedBy, if_neg neither,
        List.append_nil, Nat.add_zero]
      exact delivered.bytes
    · intro entry present ownEntry
      rw [List.mem_append, List.mem_singleton] at present
      rcases present with earlier | rfl
      · exact delivered.stored entry earlier ownEntry
      · exact absurd
          ⟨ownEntry.handler, FileCall.Transfers.handle_eq (.inr ownEntry)⟩
          neither

/-- Opening the file for writing empties it. -/
theorem FileCall.Opens.writing (opens : call.Opens name .output h state)
    (ready : state.filesystem.Ready) :
    Writing name h [] (svcFile state call).1.filesystem := by
  obtain ⟨entry, returned, readyAfter, opened⟩ := opens.result ready
  simp only [FileStream.openFile] at opened
  split at opened
  · simp only [Option.some.injEq, Prod.mk.injEq, and_true] at opened
    refine ⟨readyAfter, returned, ?_, entry⟩
    rw [← opened]
    exact Function.update_self _ _ _
  · contradiction

/-- Opening the file for reading starts at its beginning. -/
theorem FileCall.Opens.reading (opens : call.Opens name .input h state)
    (stored : Stored name content state.filesystem) :
    Reading name h content 0 (svcFile state call).1.filesystem := by
  obtain ⟨entry, returned, readyAfter, opened⟩ := opens.result stored.ready
  simp only [FileStream.openFile] at opened
  split at opened
  · simp only [Option.some.injEq, Prod.mk.injEq, and_true] at opened
    refine ⟨readyAfter, returned, ?_, _, entry, rfl,
      .inl ⟨rfl, rfl, Nat.zero_le _⟩⟩
    rw [← opened]
    exact stored.file
  · contradiction

end Phases

/-! ## The round trip -/

/-- A run that writes a file, closes it, and reads it again, with other calls
before and in between. -/
structure RoundTrip (name : HostName) where
  files : HostFiles
  fileBuffer : FileBuffer
  before : List FileCall
  openToWrite : FileCall
  writer : Int
  writes : List FileCall
  close : FileCall
  between : List FileCall
  openToRead : FileCall
  reader : Int
  reads : List FileCall

namespace RoundTrip

variable {name : HostName}

/-- The state when the file is opened for writing. -/
def start (trip : RoundTrip name) : FileState :=
  Machine.final svcFile ⟨Filesystem.initial trip.files, trip.fileBuffer⟩
    trip.before

/-- The state at the first write. -/
def opened (trip : RoundTrip name) : FileState :=
  (svcFile trip.start trip.openToWrite).1

/-- The state when the file is closed. -/
def written (trip : RoundTrip name) : FileState :=
  Machine.final svcFile trip.opened trip.writes

/-- The state right after the close. -/
def closed (trip : RoundTrip name) : FileState :=
  (svcFile trip.written trip.close).1

/-- The state when the file is opened for reading. -/
def rested (trip : RoundTrip name) : FileState :=
  Machine.final svcFile trip.closed trip.between

/-- The state at the first read. -/
def reopened (trip : RoundTrip name) : FileState :=
  (svcFile trip.rested trip.openToRead).1

/-- The calls of the reading phase with their answers. -/
def readLog (trip : RoundTrip name) : FileLog :=
  Machine.log svcFile trip.reopened trip.reads

/-- What the guest may do in each phase. -/
structure Allowed (trip : RoundTrip name) : Prop where
  before : Machine.Admissible svcFile
    (fun state call => call.Disciplined state)
    ⟨Filesystem.initial trip.files, trip.fileBuffer⟩ trip.before
  openToWrite : trip.openToWrite.Opens name .output trip.writer trip.start
  writes : Machine.Admissible svcFile (WritingAllowed name trip.writer)
    trip.opened trip.writes
  close : trip.close.handler = .fclose ∧
    (trip.close.registers 0).toInt = trip.writer
  between : Machine.Admissible svcFile
    (fun state call => call.Elsewhere name none state) trip.closed
    trip.between
  openToRead : trip.openToRead.Opens name .input trip.reader trip.rested
  reads : Machine.Admissible svcFile (ReadingAllowed name trip.reader)
    trip.reopened trip.reads

/-- What arrives in guest memory is what was written, as far as the reads
reach. -/
theorem read_back {trip : RoundTrip name} (allowed : trip.Allowed) :
    bytesDelivered trip.reader trip.readLog =
        (bytesWritten trip.writer trip.writes).take
          (bytesRequested trip.reader trip.reads) ∧
      ∀ entry ∈ trip.readLog, entry.1.Transfers .fread trip.reader →
        ∀ answer ∈ entry.2, answer.memory.bytes =
          write entry.1.memory.bytes (entry.1.registers 0)
            answer.transferred := by
  have ready : trip.start.filesystem.Ready := by
    refine @Machine.final_invariant_of_admissible _ _ _ svcFile
      (fun state => state.filesystem.Ready) _ ?_ _
      (Filesystem.initial_ready trip.files) _ allowed.before
    exact fun state call disciplined ready => (disciplined.ready ready).1
  have writing := (allowed.openToWrite.writing ready).run allowed.writes
  have stored := (writing.close allowed.close.1 allowed.close.2).run
    allowed.between
  have reading := allowed.openToRead.reading stored
  have initially : ReadingInvariant name trip.reader
      (bytesWritten trip.writer trip.writes) trip.reopened [] :=
    ⟨reading, rfl, by simp⟩
  have holds := Machine.final_log_invariant svcFile ReadingInvariant.step
    initially allowed.reads
  have requests : (trip.readLog).map Prod.fst = trip.reads :=
    Machine.log_map_fst svcFile trip.reopened trip.reads
  have bytes := holds.2.bytes
  rw [List.nil_append] at bytes
  change bytesDelivered trip.reader trip.readLog = List.take
    (bytesRequested trip.reader (trip.readLog.map Prod.fst)) _ at bytes
  rw [requests] at bytes
  exact ⟨bytes, holds.2.stored⟩

end RoundTrip

/-! ## A sample run -/

/-- Guest memory with some strings and some data. -/
def sampleMemory : GuestMemory where
  bytes := write (write (write (write (write (fun _ => 0)
    0x100 [0x61]) 0x110 [0x77, 0x62]) 0x120 [0x72, 0x62]) 0x130 [0x62])
    0x200 [1, 2, 3, 4, 5]
  mapped := fun _ => true

/-- A call with four argument registers. -/
def sampleCall (handler : FileHandler) (r0 r1 r2 r3 : Word) : FileCall where
  handler := handler
  registers := fun index => ([r0, r1, r2, r3][index.val]?).getD 0
  memory := sampleMemory
  granted := true
  garbage := fun _ => 0
  garbageW := fun _ => 0
  fresh := fun _ => 0xCC

/-- Two writes, with another file opened between them, and two reads of other
sizes. -/
def sampleTrip : RoundTrip [0x61] where
  files := fun _ => none
  fileBuffer := ⟨0, fun _ => 0⟩
  before := []
  openToWrite := sampleCall .fopen 0x100 0x110 0 0
  writer := 1
  writes := [sampleCall .fwrite 0x200 1 3 1,
    sampleCall .fopen 0x130 0x110 0 0, sampleCall .fwrite 0x203 2 1 1]
  close := sampleCall .fclose 1 0 0 0
  between := []
  openToRead := sampleCall .fopen 0x100 0x120 0 0
  reader := 3
  reads := [sampleCall .fread 0x300 2 2 3, sampleCall .fread 0x304 1 10 3]

/-- An open that returns a handle, read off its answer. -/
theorem opens_of_answer {name : HostName} {mode : OpenMode} {h : Int}
    {state : FileState} {call : FileCall} {path text : List Byte}
    (handler : call.handler = .fopen) (asked : call.path = some path)
    (named : hostName path = name) (modeText : call.mode = some text)
    (moded : fileMode text = some mode)
    (answered : (svcFile state call).2.map
      (fun answer => (answer.registers 0).toInt) = some h)
    (opened : 0 ≤ h) : call.Opens name mode h state := by
  obtain ⟨answer, present, returned⟩ := Option.map_eq_some_iff.mp answered
  exact ⟨handler, ⟨path, asked, named⟩, ⟨text, modeText, moded⟩,
    ⟨answer, present, returned⟩, opened⟩

theorem sampleTrip_elsewhere (state : FileState)
    (answered : (svcFile state (sampleCall .fopen 0x130 0x110 0 0)).2.isSome =
      true) :
    (sampleCall .fopen 0x130 0x110 0 0).Elsewhere [0x61] (some 1) state where
  answered := answered
  returned := by simp [FileCall.handle, sampleCall]
  path := by
    have asked : (sampleCall .fopen 0x130 0x110 0 0).path = some [0x62] := by
      decide +kernel
    rw [asked]
    intro path present
    cases present
    decide
  handle := by simp [FileCall.handle, sampleCall]

theorem sampleTrip_allowed : sampleTrip.Allowed where
  before := trivial
  openToWrite := opens_of_answer rfl
    (show _ = some [0x61] by decide +kernel) rfl
    (show _ = some [0x77, 0x62] by decide +kernel) rfl
    (by decide +kernel) (by decide)
  writes := by
    refine ⟨.inl ⟨rfl, by decide, by decide, by decide, by decide⟩,
      .inr (sampleTrip_elsewhere _ (by decide +kernel)),
      .inl ⟨rfl, by decide, by decide, by decide, by decide⟩, trivial⟩
  close := ⟨rfl, by decide⟩
  between := trivial
  openToRead := opens_of_answer rfl
    (show _ = some [0x61] by decide +kernel) rfl
    (show _ = some [0x72, 0x62] by decide +kernel) rfl
    (by decide +kernel) (by decide)
  reads := by
    refine ⟨.inl ⟨rfl, by decide, by decide, by decide, by decide⟩,
      .inl ⟨rfl, by decide, by decide, by decide, by decide⟩, trivial⟩

theorem read_back_sample :
    bytesDelivered 3 sampleTrip.readLog = [1, 2, 3, 4, 5] := by
  have back := (RoundTrip.read_back sampleTrip_allowed).1
  have known : (bytesWritten sampleTrip.writer sampleTrip.writes).take
      (bytesRequested sampleTrip.reader sampleTrip.reads) =
        [1, 2, 3, 4, 5] := by
    decide +kernel
  exact back.trans known

end Host
end GA330
