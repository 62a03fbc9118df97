import GA330.Host.Filesystem
import GA330.Library.SettledStream

/-!
# The file table with its buffers

The streams in `open_files` have buffers.  Here is the table of `Filesystem`
once more, operation by operation, with streams that read ahead, hold back what
was written and fail when the host does not store it.  The table without
buffers is what is seen of it, as long as every file that is written has one
stream to itself and the host stores what it is handed.
-/

namespace GA330
namespace Host

open ByteMemory FileStream BufferedStream

/-! ## The code -/

/-- `Filesystem`, with the buffers of its streams. -/
structure BufferedFilesystem where
  files : HostFiles
  nextHandle : Int
  openFiles : Int → Option (Buffered HostName Byte)

namespace BufferedFilesystem

/-- The file table when the process starts. -/
def initial (files : HostFiles) : BufferedFilesystem where
  files := files
  nextHandle := 1
  openFiles := fun _ => none

/-- `open_files[handle]`, once the lookup has inserted a missing entry. -/
def entry (fs : BufferedFilesystem) (handle : Int) :
    Buffered HostName Byte :=
  (fs.openFiles handle).getD .unopened

/-- Store the stream of a handle that has an entry. -/
def setEntry (fs : BufferedFilesystem) (handle : Int)
    (buffered : Buffered HostName Byte) : BufferedFilesystem :=
  { fs with
    openFiles := Function.update fs.openFiles handle (some buffered) }

/-- `open_files.emplace(handle, stream)` -/
def emplace (fs : BufferedFilesystem) (handle : Int)
    (buffered : Buffered HostName Byte) : BufferedFilesystem :=
  match fs.openFiles handle with
  | some _ => fs
  | none => fs.setEntry handle buffered

/-- `open_file` -/
def openFile (fs : BufferedFilesystem) (path mode : List Byte)
    (granted : Bool) : BufferedFilesystem × Int :=
  match fileMode mode with
  | none => (fs, -1)
  | some openMode =>
      match FileStream.openFile fs.files (hostName path) openMode granted with
      | none => (fs, -1)
      | some (files, stream) =>
          let h := fs.nextHandle
          ({ ({ fs with files := files }.emplace h ⟨stream, []⟩) with
              nextHandle := fs.nextHandle + 1 }, h)

/-- `close_file` -/
def closeFile (fs : BufferedFilesystem) (handle : Int)
    (chance : Chance Byte) : BufferedFilesystem :=
  { fs with
    files := BufferedStream.close fs.files (fs.entry handle) chance
    openFiles := Function.update fs.openFiles handle none }

/-- `read_file`: the part of the output that was filled. -/
def readFile (fs : BufferedFilesystem) (handle : Int) (size : Nat)
    (chance : Chance Byte) : BufferedFilesystem × List Byte :=
  let ((files, buffered), delivered) :=
    BufferedStream.read fs.files (fs.entry handle) size chance
  ({ fs with files := files }.setEntry handle buffered, delivered)

/-- `seek_file` -/
def seekFile (fs : BufferedFilesystem) (handle offset cMode : Int)
    (chance : Chance Byte) : BufferedFilesystem :=
  let buffered := fs.entry handle
  match Filesystem.direction cMode with
  | none => fs.setEntry handle buffered
  | some dir =>
      let (files, first) :=
        BufferedStream.seekg fs.files buffered offset dir chance
      let (files, second) :=
        BufferedStream.seekp files first offset dir chance
      { fs with files := files }.setEntry handle second

/-- `tell_file`: the position is returned as an `int`. -/
def tellFile (fs : BufferedFilesystem) (handle : Int) :
    BufferedFilesystem × Int :=
  let (buffered, position) := BufferedStream.tellg (fs.entry handle)
  (fs.setEntry handle buffered, position.bmod (2 ^ 32))

/-- `write_file`: the size of the input is returned whatever happened. -/
def writeFile (fs : BufferedFilesystem) (handle : Int) (input : List Byte)
    (chance : Chance Byte) : BufferedFilesystem × Nat :=
  let (files, buffered) :=
    BufferedStream.write fs.files (fs.entry handle) input chance
  ({ fs with files := files }.setEntry handle buffered, input.length)

/-- One call. -/
def step (fs : BufferedFilesystem) (call : Filesystem.Call)
    (chance : Chance Byte) : BufferedFilesystem × Filesystem.Answer :=
  match call with
  | .open path mode granted =>
      let (after, h) := fs.openFile path mode granted
      (after, .handle h)
  | .close handle => (fs.closeFile handle chance, .closed)
  | .read handle size =>
      let (after, bytes) := fs.readFile handle size chance
      (after, .delivered bytes)
  | .write handle input =>
      let (after, size) := fs.writeFile handle input chance
      (after, .written size)
  | .seek handle offset cMode =>
      (fs.seekFile handle offset cMode chance, .sought)
  | .tell handle =>
      let (after, p) := fs.tellFile handle
      (after, .position p)

/-! ## The table as it is seen -/

/-- The table without the buffers. -/
def seen (fs : BufferedFilesystem) : Filesystem where
  files := fs.files
  nextHandle := fs.nextHandle
  openFiles := fun handle => (fs.openFiles handle).map Buffered.seen

@[simp] theorem seen_initial (files : HostFiles) :
    (initial files).seen = .initial files := rfl

@[simp] theorem seen_entry (fs : BufferedFilesystem) (handle : Int) :
    fs.seen.entry handle = (fs.entry handle).seen := by
  simp only [Filesystem.entry, entry, seen]
  cases fs.openFiles handle <;> rfl

theorem entry_setEntry (fs : BufferedFilesystem) (handle k : Int)
    (buffered : Buffered HostName Byte) :
    (fs.setEntry k buffered).entry handle =
      if handle = k then buffered else fs.entry handle := by
  simp only [entry, setEntry, Function.update_apply]
  split <;> rfl

/-- A call does not open a file that a stream is on, unless both only read. -/
def Alone (fs : BufferedFilesystem) : Filesystem.Call → Prop
  | .open path mode _ =>
      ∀ openMode, fileMode mode = some openMode →
        ∀ handle other,
          (fs.entry handle).stream.target = some (hostName path, other) →
            openMode = .input ∧ other = .input
  | _ => True

/-- A table without buffers, for a table in which every file that is written
has one stream to itself: it has the streams as they are seen, and the files as
they will be once all streams have handed on what they hold. -/
structure Settled (fs : BufferedFilesystem) (whole : Filesystem) : Prop where
  nextHandle : whole.nextHandle = fs.nextHandle
  openFiles : ∀ handle,
    whole.openFiles handle = (fs.openFiles handle).map Buffered.seen
  streams : ∀ handle, Settles fs.files (fs.entry handle) whole.files
  unwritten : ∀ name,
    (∀ handle,
      (fs.entry handle).stream.target ≠ some (name, .output)) →
        whole.files name = fs.files name
  sole : ∀ left right name mode, left ≠ right →
    (fs.entry left).stream.target = some (name, .output) →
      (fs.entry right).stream.target ≠ some (name, mode)

section Settling

variable {fs : BufferedFilesystem} {whole : Filesystem}
variable {call : Filesystem.Call} {chance : Chance Byte}

/-- When nothing is open, there is nothing to settle. -/
theorem settled_of_closed
    (closed : ∀ handle, (fs.entry handle).stream.target = none) :
    Settled fs fs.seen where
  nextHandle := rfl
  openFiles := fun _ => rfl
  streams := fun handle => .of_fileless (closed handle)
  unwritten := fun _ _ => rfl
  sole := by
    intro left right name mode _ written
    cases (closed left).symm.trans written

theorem Settled.entry (settled : Settled fs whole) (handle : Int) :
    whole.entry handle = (fs.entry handle).seen := by
  rw [Filesystem.entry, settled.openFiles, BufferedFilesystem.entry]
  cases fs.openFiles handle <;> rfl

/-- A file exists in both. -/
theorem Settled.isSome_eq (settled : Settled fs whole) (name : HostName) :
    (whole.files name).isSome = (fs.files name).isSome := by
  by_cases written : ∃ handle,
      (fs.entry handle).stream.target = some (name, .output)
  · obtain ⟨handle, target⟩ := written
    obtain ⟨present, stored⟩ := (settled.streams handle).written name target
    rw [stored, present]
    rfl
  · rw [settled.unwritten name fun handle target =>
      written ⟨handle, target⟩]

/-- An operation on the stream of a handle, which does the same without the
buffer. -/
theorem Settled.operated (settled : Settled fs whole) {handle : Int}
    {files wholeFiles : HostFiles} {moved : Buffered HostName Byte}
    (keeps : Keeps fs.files (fs.entry handle) files moved)
    (settles : Settles files moved wholeFiles)
    (others : ∀ name,
      (fs.entry handle).stream.target ≠ some (name, .output) →
        wholeFiles name = whole.files name) :
    Settled ({ fs with files := files }.setEntry handle moved)
      ({ whole with files := wholeFiles }.setEntry handle moved.seen) := by
  -- every stream is on the file that it was on
  have targets : ∀ other,
      (({ fs with files := files } : BufferedFilesystem).setEntry handle
        moved |>.entry other).stream.target =
          (fs.entry other).stream.target := by
    intro other
    rw [entry_setEntry]
    split
    · rename_i same
      rw [same]
      exact keeps.target
    · rfl
  refine ⟨settled.nextHandle, ?_, ?_, ?_, ?_⟩
  · intro other
    simp only [Filesystem.setEntry, setEntry, Function.update_apply]
    split
    · rfl
    · exact settled.openFiles other
  · intro other
    rw [entry_setEntry]
    split
    · exact settles
    · rename_i different
      have apart : ∀ name mode,
          (fs.entry other).stream.target = some (name, mode) →
            (fs.entry handle).stream.target ≠ some (name, .output) :=
        fun name mode target written =>
          settled.sole handle other name mode (Ne.symm different) written
            target
      exact (settled.streams other).congr
        (fun name mode target => keeps.other name (apart name mode target))
        (fun name mode target => others name (apart name mode target))
  · intro name unwritten
    simp only [targets] at unwritten
    have own := unwritten handle
    change wholeFiles name = files name
    rw [others name own, keeps.other name own,
      settled.unwritten name unwritten]
  · intro left right name mode different
    rw [targets, targets]
    exact settled.sole left right name mode different

theorem entry_closeFile (fs : BufferedFilesystem) (handle other : Int)
    (chance : Chance Byte) :
    (fs.closeFile handle chance).entry other =
      if other = handle then .unopened else fs.entry other := by
  simp only [BufferedFilesystem.entry, closeFile, Function.update_apply]
  split <;> rfl

/-- Closing a handle hands on what its stream holds. -/
theorem Settled.closeFile (settled : Settled fs whole)
    (stores : chance.failure = none) (handle : Int) :
    Settled (fs.closeFile handle chance) (whole.closeFile handle) := by
  have keeps := keeps_hand fs.files (fs.entry handle)
    (fs.entry handle).buffer.length chance.failure
  refine ⟨settled.nextHandle, ?_, ?_, ?_, ?_⟩
  · intro other
    simp only [Filesystem.closeFile, BufferedFilesystem.closeFile,
      Function.update_apply]
    split
    · rfl
    · exact settled.openFiles other
  · intro other
    rw [entry_closeFile]
    split
    · exact .of_fileless rfl
    · rename_i different
      refine (settled.streams other).congr ?_ fun _ _ _ => rfl
      intro name mode target
      exact keeps.other name fun written =>
        settled.sole handle other name mode (Ne.symm different) written target
  · intro name unwritten
    simp only [entry_closeFile] at unwritten
    change whole.files name = BufferedStream.close fs.files _ chance name
    by_cases own : (fs.entry handle).stream.target = some (name, .output)
    · exact ((settled.streams handle).close stores own).symm
    · refine (settled.unwritten name ?_).trans (keeps.other name own).symm
      intro other
      by_cases same : other = handle
      · rwa [same]
      · have elsewhere := unwritten other
        rwa [if_neg same] at elsewhere
  · intro left right name mode different
    rw [entry_closeFile, entry_closeFile]
    split
    · intro target
      contradiction
    · split
      · intro _ target
        contradiction
      · exact settled.sole left right name mode different

/-- A table with another stream, or without it when its number is taken. -/
theorem Settled.emplaced (settled : Settled fs whole) {name : HostName}
    {mode : OpenMode} {files wholeFiles : HostFiles}
    (kept : ∀ handle other otherMode,
      (fs.entry handle).stream.target = some (other, otherMode) →
        files other = fs.files other ∧ wholeFiles other = whole.files other)
    (opened : Settles files (.opened name mode) wholeFiles)
    (unwritten : ∀ other,
      (∀ handle,
        (fs.entry handle).stream.target ≠ some (other, .output)) →
          wholeFiles other = files other)
    (alone : ∀ handle other,
      (fs.entry handle).stream.target = some (name, other) →
        mode = .input ∧ other = .input) :
    Settled
      { ({ fs with files := files }.emplace fs.nextHandle
          (.opened name mode)) with
        nextHandle := fs.nextHandle + 1 }
      { ({ whole with files := wholeFiles }.emplace whole.nextHandle
          (.opened name mode)) with
        nextHandle := whole.nextHandle + 1 } := by
  have number := settled.nextHandle
  have there := settled.openFiles fs.nextHandle
  cases taken : fs.openFiles fs.nextHandle with
  | some other =>
      rw [taken, Option.map_some] at there
      simp only [emplace, Filesystem.emplace, number, taken, there]
      exact {
        nextHandle := rfl
        openFiles := settled.openFiles
        streams := fun handle => (settled.streams handle).congr
          (fun other otherMode target =>
            (kept handle other otherMode target).1)
          (fun other otherMode target =>
            (kept handle other otherMode target).2)
        unwritten := unwritten
        sole := settled.sole }
  | none =>
      rw [taken, Option.map_none] at there
      simp only [emplace, Filesystem.emplace, number, taken, there]
      constructor
      case nextHandle => rfl
      case openFiles =>
        intro handle
        simp only [Filesystem.setEntry, setEntry, Function.update_apply]
        split
        · rw [Option.map_some, seen_opened]
        · exact settled.openFiles handle
      case streams =>
        intro handle
        change Settles files ((setEntry _ _ _).entry handle) wholeFiles
        rw [entry_setEntry]
        split
        · exact opened
        · exact (settled.streams handle).congr
            (fun other otherMode target =>
              (kept handle other otherMode target).1)
            (fun other otherMode target =>
              (kept handle other otherMode target).2)
      case unwritten =>
        intro other free
        apply unwritten other
        intro handle target
        by_cases same : handle = fs.nextHandle
        · rw [same, BufferedFilesystem.entry, taken] at target
          contradiction
        · apply free handle
          change ((setEntry _ _ _).entry handle).stream.target = _
          rw [entry_setEntry, if_neg same]
          exact target
      case sole =>
        intro left right other otherMode different
        change ((setEntry _ _ _).entry left).stream.target = _ →
          ((setEntry _ _ _).entry right).stream.target ≠ _
        rw [entry_setEntry, entry_setEntry]
        split
        · rename_i first
          rintro ⟨⟩ second
          rw [first] at different
          rw [if_neg (Ne.symm different)] at second
          cases (alone right otherMode second).1
        · split
          · rintro written ⟨⟩
            cases (alone left .output written).2
          · exact settled.sole left right other otherMode different

/-- A stream that is opened to read a file which no stream writes settles. -/
theorem Settled.opened_input (settled : Settled fs whole) {name : HostName}
    (unread : ∀ handle,
      (fs.entry handle).stream.target ≠ some (name, .output)) :
    Settles fs.files (.opened name .input) whole.files := by
  apply Settles.of_empty
  · rintro on ⟨⟩
    exact settled.unwritten _ unread
  · rintro name ⟨⟩

/-- Opening a file that no other stream is on. -/
theorem Settled.openFile (settled : Settled fs whole)
    {path mode : List Byte} {granted : Bool}
    (alone : fs.Alone (.open path mode granted)) :
    Settled (fs.openFile path mode granted).1
        (whole.openFile path mode granted).1 ∧
      (whole.openFile path mode granted).2 =
        (fs.openFile path mode granted).2 := by
  have present := settled.isSome_eq (hostName path)
  unfold BufferedFilesystem.openFile Filesystem.openFile
  cases moded : fileMode mode with
  | none => exact ⟨settled, rfl⟩
  | some openMode =>
      have apart := alone openMode moded
      cases openMode with
      | input =>
          have unread : ∀ handle,
              (fs.entry handle).stream.target ≠
                some (hostName path, .output) := by
            intro handle target
            cases (apart handle .output target).2
          by_cases found :
              (granted && (fs.files (hostName path)).isSome) = true
          · simp only [FileStream.openFile, present, if_pos found]
            exact ⟨settled.emplaced (fun _ _ _ _ => ⟨rfl, rfl⟩)
              (settled.opened_input unread) settled.unwritten apart,
              settled.nextHandle⟩
          · simp only [FileStream.openFile, present, if_neg found]
            exact ⟨settled, trivial⟩
      | output =>
          have unopened : ∀ handle other mode,
              (fs.entry handle).stream.target = some (other, mode) →
                other ≠ hostName path := by
            rintro handle other mode target rfl
            cases (apart handle mode target).1
          cases granted with
          | false => exact ⟨settled, rfl⟩
          | true =>
              refine ⟨settled.emplaced ?_
                (.opened_output fs.files whole.files _) ?_ apart,
                settled.nextHandle⟩
              · intro handle other mode target
                have different := unopened handle other mode target
                exact ⟨Function.update_of_ne different _ _,
                  Function.update_of_ne different _ _⟩
              · intro other unwritten
                simp only [Function.update_apply]
                split
                · rfl
                · exact settled.unwritten other unwritten

/-- A call is answered the same without the buffers. -/
theorem Settled.step (settled : Settled fs whole)
    (stores : chance.failure = none) (alone : fs.Alone call) :
    Settled (fs.step call chance).1 (Filesystem.step whole call).1 ∧
      (Filesystem.step whole call).2 = (fs.step call chance).2 := by
  cases call with
  | «open» path mode granted =>
      obtain ⟨after, same⟩ := settled.openFile alone
      exact ⟨after, congrArg _ same⟩
  | close handle => exact ⟨settled.closeFile stores handle, rfl⟩
  | read handle size =>
      have keeps := keeps_read fs.files (fs.entry handle) size chance
      obtain ⟨same, settles⟩ :=
        (settled.streams handle).read stores size
      simp only [Filesystem.step, Filesystem.readFile, settled.entry, same,
        BufferedFilesystem.step, readFile]
      exact ⟨settled.operated keeps settles fun _ _ => rfl, trivial⟩
  | write handle input =>
      have keeps := keeps_write fs.files (fs.entry handle) input chance
      obtain ⟨same, settles⟩ :=
        (settled.streams handle).write stores input
      simp only [Filesystem.step, Filesystem.writeFile, settled.entry, same,
        BufferedFilesystem.step, writeFile]
      refine ⟨settled.operated keeps settles ?_, trivial⟩
      intro name different
      apply write_other
      rwa [seen_target]
  | seek handle offset cMode =>
      simp only [Filesystem.step, Filesystem.seekFile, settled.entry,
        BufferedFilesystem.step, seekFile]
      cases Filesystem.direction cMode with
      | none =>
          exact ⟨settled.operated (.of_target rfl)
            (settled.streams handle) fun _ _ => rfl, trivial⟩
      | some dir =>
          have keeps := keeps_seek fs.files (fs.entry handle) offset dir chance
          obtain ⟨same, settles⟩ :=
            (settled.streams handle).seek stores offset dir
          dsimp only
          rw [same]
          exact ⟨settled.operated keeps settles fun _ _ => rfl, trivial⟩
  | tell handle =>
      simp only [Filesystem.step, Filesystem.tellFile, settled.entry,
        seen_tellg, BufferedFilesystem.step, tellFile]
      exact ⟨settled.operated (.of_target rfl)
        (settled.streams handle).tellg fun _ _ => rfl, trivial⟩

end Settling
end BufferedFilesystem
end Host
end GA330
