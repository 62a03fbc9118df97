import GA330.Library.ByteMemory
import GA330.Library.FileStream
import GA330.Library.Machine

/-!
# The emulator's file table

`Filesystem` of `filesystem.cpp` numbers the streams it opens and keeps them in
a map.  A lookup with `operator[]` inserts a stream without a file when the
handle has no entry, and `emplace` leaves an existing entry alone.  So an open
binds its handle unless the guest has used that number before it was returned
and has not closed it since.
-/

namespace GA330
namespace Host

open ByteMemory FileStream

/-- A file name of the host. -/
abbrev HostName := List Byte

/-- The files that the emulator can reach. -/
abbrev HostFiles := Files HostName Byte

/-! ## The code -/

/-- One character of a path: `\` and `/` become `$`, `:` becomes `_`. -/
def sanitizeByte (character : Byte) : Byte :=
  if character = 0x5C then 0x24
  else if character = 0x2F then 0x24
  else if character = 0x3A then 0x5F
  else character

/-- The sanitized path. -/
def hostName (path : List Byte) : HostName :=
  path.map sanitizeByte

/-- How the first two characters of the mode open a file: `rb` or `wb`. -/
def fileMode (mode : List Byte) : Option OpenMode :=
  if mode.take 2 = [0x72, 0x62] then some .input
  else if mode.take 2 = [0x77, 0x62] then some .output
  else none

/-- `Filesystem`, together with the host's files. -/
structure Filesystem where
  files : HostFiles
  nextHandle : Int
  openFiles : Int → Option (Stream HostName)

namespace Filesystem

/-- The file table when the process starts. -/
def initial (files : HostFiles) : Filesystem where
  files := files
  nextHandle := 1
  openFiles := fun _ => none

/-- `open_files[handle]`, once the lookup has inserted a missing entry. -/
def entry (fs : Filesystem) (handle : Int) : Stream HostName :=
  (fs.openFiles handle).getD .unopened

/-- Store the stream of a handle that has an entry. -/
def setEntry (fs : Filesystem) (handle : Int) (stream : Stream HostName) :
    Filesystem :=
  { fs with openFiles := Function.update fs.openFiles handle (some stream) }

@[simp] theorem setEntry_nextHandle (fs : Filesystem) (handle : Int)
    (stream : Stream HostName) :
    (fs.setEntry handle stream).nextHandle = fs.nextHandle := rfl

@[simp] theorem setEntry_files (fs : Filesystem) (handle : Int)
    (stream : Stream HostName) :
    (fs.setEntry handle stream).files = fs.files := rfl

/-- Storing the stream that is there changes nothing. -/
theorem setEntry_present {fs : Filesystem} {handle : Int}
    {stream : Stream HostName}
    (present : fs.openFiles handle = some stream) :
    fs.setEntry handle stream = fs := by
  rw [setEntry, ← present, Function.update_eq_self]

/-- `open_files.emplace(handle, stream)` -/
def emplace (fs : Filesystem) (handle : Int) (stream : Stream HostName) :
    Filesystem :=
  match fs.openFiles handle with
  | some _ => fs
  | none => fs.setEntry handle stream

@[simp] theorem emplace_files (fs : Filesystem) (handle : Int)
    (stream : Stream HostName) :
    (fs.emplace handle stream).files = fs.files := by
  unfold emplace
  split <;> rfl

/-- `emplace` leaves the other entries alone. -/
theorem emplace_of_ne (fs : Filesystem) {handle k : Int}
    (stream : Stream HostName) (different : k ≠ handle) :
    (fs.emplace handle stream).openFiles k = fs.openFiles k := by
  unfold emplace
  split
  · rfl
  · exact Function.update_of_ne different _ _

/-- `emplace` stores the stream when there is no entry. -/
theorem emplace_self (fs : Filesystem) {handle : Int}
    (stream : Stream HostName) (absent : fs.openFiles handle = none) :
    (fs.emplace handle stream).openFiles handle = some stream := by
  simp [emplace, absent, setEntry]

/-- `open_file`; `granted` is whether the host lets the file be opened. -/
def openFile (fs : Filesystem) (path mode : List Byte) (granted : Bool) :
    Filesystem × Int :=
  match fileMode mode with
  | none => (fs, -1)
  | some openMode =>
      match FileStream.openFile fs.files (hostName path) openMode granted with
      | none => (fs, -1)
      | some (files, stream) =>
          let h := fs.nextHandle
          ({ ({ fs with files := files }.emplace h stream) with
              nextHandle := fs.nextHandle + 1 }, h)

/-- `close_file` -/
def closeFile (fs : Filesystem) (handle : Int) : Filesystem :=
  { fs with openFiles := Function.update fs.openFiles handle none }

/-- `read_file`: the part of the output that was filled. -/
def readFile (fs : Filesystem) (handle : Int) (size : Nat) :
    Filesystem × List Byte :=
  let (stream, delivered) := FileStream.read fs.files (fs.entry handle) size
  (fs.setEntry handle stream, delivered)

/-- `SEEK_SET`, `SEEK_CUR` and `SEEK_END`. -/
def direction (cMode : Int) : Option Direction :=
  if cMode = 0 then some .beg
  else if cMode = 1 then some .cur
  else if cMode = 2 then some .end
  else none

/-- `seek_file` -/
def seekFile (fs : Filesystem) (handle offset cMode : Int) : Filesystem :=
  let stream := fs.entry handle
  match direction cMode with
  | none => fs.setEntry handle stream
  | some dir =>
      fs.setEntry handle
        (seekp fs.files (seekg fs.files stream offset dir) offset dir)

/-- `tell_file`: the position is returned as an `int`. -/
def tellFile (fs : Filesystem) (handle : Int) : Filesystem × Int :=
  let (stream, position) := tellg (fs.entry handle)
  (fs.setEntry handle stream, position.bmod (2 ^ 32))

/-- `write_file`: the size of the input is returned whatever happened. -/
def writeFile (fs : Filesystem) (handle : Int) (input : List Byte) :
    Filesystem × Nat :=
  let (files, stream) := FileStream.write fs.files (fs.entry handle) input
  ({ fs with files := files }.setEntry handle stream, input.length)

/-! ## Runs -/

/-- A call of one of the six operations. -/
inductive Call
  | open (path mode : List Byte) (granted : Bool)
  | close (handle : Int)
  | read (handle : Int) (size : Nat)
  | write (handle : Int) (input : List Byte)
  | seek (handle offset cMode : Int)
  | tell (handle : Int)
  deriving DecidableEq

/-- What a call returns. -/
inductive Answer
  | handle (h : Int)
  | closed
  | delivered (bytes : List Byte)
  | written (size : Nat)
  | sought
  | position (p : Int)
  deriving DecidableEq

/-- One call. -/
def step (fs : Filesystem) : Call → Filesystem × Answer
  | .open path mode granted =>
      let (after, h) := fs.openFile path mode granted
      (after, .handle h)
  | .close handle => (fs.closeFile handle, .closed)
  | .read handle size =>
      let (after, bytes) := fs.readFile handle size
      (after, .delivered bytes)
  | .write handle input =>
      let (after, size) := fs.writeFile handle input
      (after, .written size)
  | .seek handle offset cMode => (fs.seekFile handle offset cMode, .sought)
  | .tell handle =>
      let (after, p) := fs.tellFile handle
      (after, .position p)

/-- What one call does to the table: it opens a file, or it removes the entry
of a handle, or it operates on the stream of one. -/
theorem step_cases (fs : Filesystem) (call : Call) :
    (∃ path mode granted, call = .open path mode granted ∧
        (step fs call).1 = (fs.openFile path mode granted).1) ∨
      (∃ handle, call = .close handle ∧
        (step fs call).1 = fs.closeFile handle) ∨
      ∃ handle files stream,
        Moves fs.files (fs.entry handle) files stream ∧
          (step fs call).1 =
            { fs with files := files }.setEntry handle stream := by
  cases call with
  | «open» path mode granted => exact .inl ⟨path, mode, granted, rfl, rfl⟩
  | close handle => exact .inr (.inl ⟨handle, rfl, rfl⟩)
  | read handle size =>
      exact .inr (.inr ⟨handle, _, _, .read size, rfl⟩)
  | write handle input =>
      exact .inr (.inr ⟨handle, _, _, .write input, rfl⟩)
  | tell handle => exact .inr (.inr ⟨handle, _, _, .told, rfl⟩)
  | seek handle offset cMode =>
      rw [step, seekFile]
      cases direction cMode with
      | none => exact .inr (.inr ⟨handle, _, _, .kept, rfl⟩)
      | some dir =>
          exact .inr (.inr ⟨handle, _, _, .sought offset dir, rfl⟩)

/-! ## Which entries exist -/

/-- The host opens the file. -/
def opens (fs : Filesystem) (path mode : List Byte) (granted : Bool) :
    Bool :=
  (fileMode mode).any fun openMode =>
    (FileStream.openFile fs.files (hostName path) openMode granted).isSome

/-- An open fails and changes nothing, or it puts a stream on the file into the
table unless the next number is taken. -/
theorem openFile_cases (fs : Filesystem) (path mode : List Byte)
    (granted : Bool) :
    (fs.opens path mode granted = false ∧
        fs.openFile path mode granted = (fs, -1)) ∨
      ∃ openMode files,
        fs.opens path mode granted = true ∧
          fileMode mode = some openMode ∧
          FileStream.openFile fs.files (hostName path) openMode granted =
            some (files, .opened (hostName path) openMode) ∧
          fs.openFile path mode granted =
            ({ ({ fs with files := files }.emplace fs.nextHandle
                (.opened (hostName path) openMode)) with
                nextHandle := fs.nextHandle + 1 }, fs.nextHandle) := by
  unfold opens openFile
  cases fileMode mode with
  | none => exact .inl ⟨rfl, rfl⟩
  | some openMode =>
      cases attempt : FileStream.openFile fs.files (hostName path) openMode
          granted with
      | none => simp [attempt]
      | some opened =>
          refine .inr ⟨openMode, opened.1, ?_, rfl, ?_, ?_⟩
          · simp [attempt]
          · rw [← openFile_eq_some attempt]
            exact attempt
          · rw [← openFile_eq_some attempt]
            simp only [attempt]

/-- An open leaves the entries of the numbers before the next alone. -/
theorem openFile_of_lt (fs : Filesystem) (path mode : List Byte)
    (granted : Bool) {k : Int} (passed : k < fs.nextHandle) :
    (fs.openFile path mode granted).1.openFiles k = fs.openFiles k := by
  rcases openFile_cases fs path mode granted with
    ⟨_, failed⟩ | ⟨openMode, files, _, _, _, succeeded⟩
  · rw [failed]
  · rw [succeeded]
    exact emplace_of_ne _ _ (Int.ne_of_lt passed)

/-- Numbers only grow. -/
theorem nextHandle_le_openFile (fs : Filesystem) (path mode : List Byte)
    (granted : Bool) :
    fs.nextHandle ≤ (fs.openFile path mode granted).1.nextHandle := by
  rcases openFile_cases fs path mode granted with
    ⟨_, failed⟩ | ⟨openMode, files, _, _, _, succeeded⟩
  · rw [failed]
  · rw [succeeded]
    change fs.nextHandle ≤ fs.nextHandle + 1
    omega

/-- An open changes at most the file of the name that it gives. -/
theorem openFile_files (fs : Filesystem) {path mode : List Byte}
    (granted : Bool) {name : HostName} (other : hostName path ≠ name) :
    (fs.openFile path mode granted).1.files name = fs.files name := by
  rcases openFile_cases fs path mode granted with
    ⟨_, failed⟩ | ⟨openMode, files, _, _, attempt, succeeded⟩
  · rw [failed]
  · rw [succeeded]
    change (emplace _ _ _).files name = _
    rw [emplace_files]
    exact openFile_other attempt other

/-- The entry of a handle after a call of some operation other than an open:
a close removes it, and everything else makes sure that it exists. -/
def Call.touch (handle : Int) (present : Bool) : Call → Bool
  | .open _ _ _ => present
  | .close h => if h = handle then false else present
  | .read h _ => if h = handle then true else present
  | .write h _ => if h = handle then true else present
  | .seek h _ _ => if h = handle then true else present
  | .tell h => if h = handle then true else present

/-- Calls leave an entry under a handle that no open has returned yet: the last
one that uses the handle is not a close. -/
def dangling (handle : Int) (calls : List Call) : Bool :=
  calls.foldl (Call.touch handle) false

theorem dangling_concat (handle : Int) (log : List (Call × Answer))
    (call : Call) (answer : Answer) :
    dangling handle ((log ++ [(call, answer)]).map Prod.fst) =
      call.touch handle (dangling handle (log.map Prod.fst)) := by
  rw [List.map_append, dangling, List.foldl_append]
  rfl

/-- An answer of an open that succeeded. -/
def Answer.success : Answer → Bool
  | .handle h => decide (0 ≤ h)
  | _ => false

/-- The number of opens that succeeded. -/
def successes (answers : List Answer) : Nat :=
  answers.countP Answer.success

theorem successes_concat (log : List (Call × Answer)) (call : Call)
    (answer : Answer) :
    successes ((log ++ [(call, answer)]).map Prod.snd) =
      successes (log.map Prod.snd) + if answer.success then 1 else 0 := by
  rw [List.map_append, successes, List.countP_append]
  exact congrArg _ List.countP_singleton

/-- What every run keeps true of the table: opens are numbered in order, and a
number that is still to come has an entry only if calls left one there, which
then has no file. -/
structure TableInvariant (fs : Filesystem) (log : List (Call × Answer)) :
    Prop where
  numbered : fs.nextHandle = 1 + successes (log.map Prod.snd)
  returned : ∀ h, Answer.handle h ∈ log.map Prod.snd → h < fs.nextHandle
  ahead : ∀ k, fs.nextHandle ≤ k →
    (fs.openFiles k).isSome = dangling k (log.map Prod.fst)
  fileless : ∀ k stream, fs.nextHandle ≤ k →
    fs.openFiles k = some stream → stream.target = none

theorem entry_target {fs : Filesystem} {log : List (Call × Answer)}
    (holds : TableInvariant fs log) {k : Int} (ahead : fs.nextHandle ≤ k) :
    (fs.entry k).target = none := by
  rw [entry]
  cases present : fs.openFiles k with
  | none => rfl
  | some stream => exact holds.fileless k stream ahead present

/-- Handles that were returned stay below the next number. -/
theorem TableInvariant.returned_concat {fs : Filesystem}
    {log : List (Call × Answer)} (holds : TableInvariant fs log)
    (call : Call) {answer : Answer} {next : Int}
    (grown : fs.nextHandle ≤ next)
    (now : ∀ h, answer = .handle h → h < next) (h : Int)
    (present : Answer.handle h ∈ (log ++ [(call, answer)]).map Prod.snd) :
    h < next := by
  rw [List.map_append, List.mem_append] at present
  rcases present with earlier | last
  · exact Int.lt_of_lt_of_le (holds.returned h earlier) grown
  · exact now h (List.mem_singleton.mp last).symm

/-- A call that stores a stream with the same file under a handle. -/
theorem TableInvariant.stored {fs : Filesystem}
    {log : List (Call × Answer)} (holds : TableInvariant fs log)
    {handle : Int} {files : HostFiles} {stream : Stream HostName}
    (sameTarget : stream.target = (fs.entry handle).target)
    {call : Call} {answer : Answer}
    (touches : ∀ k present, call.touch k present =
      if handle = k then true else present)
    (unnumbered : answer.success = false)
    (noHandle : ∀ h, answer ≠ .handle h) :
    TableInvariant ({ fs with files := files }.setEntry handle stream)
      (log ++ [(call, answer)]) := by
  constructor
  · rw [successes_concat, unnumbered]
    exact holds.numbered
  · exact holds.returned_concat call (Int.le_refl _)
      fun h same => absurd same (noHandle h)
  · intro k ahead
    rw [dangling_concat, touches]
    simp only [setEntry, Function.update_apply]
    by_cases same : handle = k
    · simp [same]
    · rw [if_neg (Ne.symm same), if_neg same]
      exact holds.ahead k ahead
  · intro k other ahead present
    simp only [setEntry, Function.update_apply] at present
    by_cases same : handle = k
    · subst same
      rw [if_pos rfl] at present
      cases present
      exact sameTarget.trans (entry_target holds ahead)
    · rw [if_neg (Ne.symm same)] at present
      exact holds.fileless k other ahead present

/-- An open that fails. -/
theorem TableInvariant.openFailed {fs : Filesystem}
    {log : List (Call × Answer)} (holds : TableInvariant fs log)
    (path mode : List Byte) (granted : Bool) :
    TableInvariant fs
      (log ++ [(.open path mode granted, .handle (-1))]) where
  numbered := by
    rw [successes_concat]
    exact holds.numbered
  returned := by
    have numbered := holds.numbered
    refine holds.returned_concat _ (Int.le_refl _) ?_
    rintro h ⟨⟩
    omega
  ahead := by
    intro k ahead
    rw [dangling_concat]
    exact holds.ahead k ahead
  fileless := holds.fileless

/-- An open that succeeds. -/
theorem TableInvariant.openSucceeded {fs : Filesystem}
    {log : List (Call × Answer)} (holds : TableInvariant fs log)
    (path mode : List Byte) (granted : Bool) (files : HostFiles)
    (stream : Stream HostName) :
    TableInvariant
      { ({ fs with files := files }.emplace fs.nextHandle stream) with
        nextHandle := fs.nextHandle + 1 }
      (log ++ [(.open path mode granted, .handle fs.nextHandle)]) := by
  have other : ∀ k, fs.nextHandle + 1 ≤ k →
      ({ fs with files := files }.emplace fs.nextHandle stream).openFiles k =
        fs.openFiles k :=
    fun k ahead => emplace_of_ne _ _ (by omega)
  constructor
  · have numbered := holds.numbered
    have success : (Answer.handle fs.nextHandle).success = true :=
      decide_eq_true (by omega)
    rw [successes_concat, success]
    push_cast
    simp only [if_true]
    omega
  · refine holds.returned_concat _ (Int.le_of_lt (Int.lt_succ _)) ?_
    rintro h ⟨⟩
    exact Int.lt_succ _
  · intro k ahead
    change fs.nextHandle + 1 ≤ k at ahead
    rw [dangling_concat]
    exact (congrArg Option.isSome (other k ahead)).trans
      (holds.ahead k (by omega))
  · intro k found ahead present
    change fs.nextHandle + 1 ≤ k at ahead
    exact holds.fileless k found (by omega)
      ((other k ahead).symm.trans present)

/-- An open, whether or not it succeeds. -/
theorem TableInvariant.opened {fs : Filesystem}
    {log : List (Call × Answer)} (holds : TableInvariant fs log)
    (path mode : List Byte) (granted : Bool) :
    TableInvariant (step fs (.open path mode granted)).1
      (log ++ [(.open path mode granted,
        (step fs (.open path mode granted)).2)]) := by
  rcases openFile_cases fs path mode granted with
    ⟨_, failed⟩ | ⟨openMode, files, _, _, _, succeeded⟩
  · rw [step, failed]
    exact holds.openFailed path mode granted
  · rw [step, succeeded]
    exact holds.openSucceeded path mode granted files _

/-- A close. -/
theorem TableInvariant.closed {fs : Filesystem}
    {log : List (Call × Answer)} (holds : TableInvariant fs log)
    (handle : Int) :
    TableInvariant (step fs (.close handle)).1
      (log ++ [(.close handle, (step fs (.close handle)).2)]) := by
  rw [step, closeFile]
  constructor
  · rw [successes_concat]
    exact holds.numbered
  · exact holds.returned_concat _ (Int.le_refl _) nofun
  · intro k ahead
    rw [dangling_concat, Call.touch]
    dsimp only
    rw [Function.update_apply]
    by_cases same : handle = k
    · simp [same]
    · rw [if_neg (Ne.symm same), if_neg same]
      exact holds.ahead k ahead
  · intro k stream ahead present
    dsimp only at present
    rw [Function.update_apply] at present
    split at present
    · contradiction
    · exact holds.fileless k stream ahead present

/-- Every call keeps the table invariant. -/
theorem tableInvariant_step (fs : Filesystem) (log : List (Call × Answer))
    (call : Call) (_ : True) (holds : TableInvariant fs log) :
    TableInvariant (Filesystem.step fs call).1
      (log ++ [(call, (Filesystem.step fs call).2)]) := by
  cases call with
  | «open» path mode granted => exact holds.opened path mode granted
  | close handle => exact holds.closed handle
  | read handle size =>
      exact holds.stored (read_target _ _ _) (fun _ _ => rfl) rfl
        (by simp [Filesystem.step])
  | write handle input =>
      exact holds.stored (write_target _ _ _) (fun _ _ => rfl) rfl
        (by simp [Filesystem.step])
  | tell handle =>
      exact holds.stored (tellg_target _) (fun _ _ => rfl) rfl
        (by simp [Filesystem.step])
  | seek handle offset cMode =>
      simp only [Filesystem.step, seekFile]
      split
      · exact holds.stored rfl (fun _ _ => rfl) rfl (by simp)
      · refine holds.stored ?_ (fun _ _ => rfl) rfl (by simp)
        rw [seekp_target, seekg_target]

/-- The table invariant holds after every run. -/
theorem tableInvariant_final (files : HostFiles) (calls : List Call) :
    TableInvariant (Machine.final step (initial files) calls)
      (Machine.log step (initial files) calls) := by
  have initially : TableInvariant (initial files) [] := by
    constructor
    · rfl
    · simp
    · intro k _
      rfl
    · simp [initial]
  have admissible : ∀ fs, Machine.Admissible step (fun _ _ => True) fs
      calls := by
    induction calls with
    | nil => exact fun _ => trivial
    | cons call rest inductionHypothesis =>
        exact fun fs => ⟨trivial, inductionHypothesis _⟩
  exact Machine.final_log_invariant step tableInvariant_step initially
    (admissible (initial files))

/-! ## What an open binds -/

/-- An open that returns a handle returns a new one, and the handle's entry is
the stream just opened on the path in the mode. -/
def Binds (fs : Filesystem) (earlier : List Answer)
    (path mode : List Byte) (granted : Bool) : Prop :=
  ∀ h, (step fs (.open path mode granted)).2 = .handle h → 0 ≤ h →
    Answer.handle h ∉ earlier ∧ h < 2 ^ 31 ∧
      ∃ openMode, fileMode mode = some openMode ∧
        (step fs (.open path mode granted)).1.openFiles h =
          some (.opened (hostName path) openMode)

/-- An open binds unless an entry was left under the number it returns. -/
theorem TableInvariant.binds_iff {fs : Filesystem}
    {log : List (Call × Answer)} (holds : TableInvariant fs log)
    (inRange : fs.nextHandle < 2 ^ 31) (path mode : List Byte)
    (granted : Bool) :
    fs.Binds (log.map Prod.snd) path mode granted ↔
      (fs.opens path mode granted = true →
        dangling fs.nextHandle (log.map Prod.fst) = false) := by
  have taken := holds.ahead fs.nextHandle (Int.le_refl _)
  rcases openFile_cases fs path mode granted with
    ⟨closed, failed⟩ | ⟨openMode, files, opened, moded, _, succeeded⟩
  · have vacuous : fs.Binds (log.map Prod.snd) path mode granted := by
      intro h answered nonnegative
      rw [step, failed] at answered
      simp only [Answer.handle.injEq] at answered
      omega
    simp [closed, vacuous]
  · have result : step fs (.open path mode granted) =
        ({ ({ fs with files := files }.emplace fs.nextHandle
            (.opened (hostName path) openMode)) with
            nextHandle := fs.nextHandle + 1 }, .handle fs.nextHandle) := by
      rw [step, succeeded]
    rw [opened, ← taken]
    constructor
    · intro binds _
      have numbered := holds.numbered
      obtain ⟨_, _, bound, sameMode, stored⟩ := binds fs.nextHandle
        (by rw [result]) (by omega)
      cases present : fs.openFiles fs.nextHandle with
      | none => rfl
      | some stream =>
          -- an entry without a file is not the stream that was opened
          have fileless := holds.fileless _ stream (Int.le_refl _) present
          rw [result] at stored
          simp only [emplace, present, Option.some.injEq] at stored
          rw [stored] at fileless
          contradiction
    · intro free h answered _
      have absent := Option.isSome_eq_false_iff.mp (free rfl)
      rw [Option.isNone_iff_eq_none] at absent
      rw [result, Answer.handle.injEq] at answered
      subst answered
      refine ⟨?_, inRange, openMode, moded, ?_⟩
      · intro before
        exact Int.lt_irrefl _ (holds.returned _ before)
      · rw [result]
        exact emplace_self _ _ absent

/-- In a run with fewer than `2 ^ 31 - 1` successful opens, every open binds
exactly when no open finds an entry under the number it is about to return. -/
theorem opens_bind_iff (files : HostFiles) (calls : List Call)
    (few : successes (Machine.outputs step (initial files) calls) <
      2 ^ 31 - 1) :
    (∀ before path mode granted after,
        calls = before ++ .open path mode granted :: after →
          (Machine.final step (initial files) before).Binds
            (Machine.outputs step (initial files) before) path mode
              granted) ↔
      ∀ before path mode granted after,
        calls = before ++ .open path mode granted :: after →
          (Machine.final step (initial files) before).opens path mode
              granted = true →
            dangling (Machine.final step (initial files) before).nextHandle
              before = false := by
  have each : ∀ before path mode granted after,
      calls = before ++ .open path mode granted :: after →
        ((Machine.final step (initial files) before).Binds
            (Machine.outputs step (initial files) before) path mode
              granted ↔
          ((Machine.final step (initial files) before).opens path mode
              granted = true →
            dangling (Machine.final step (initial files) before).nextHandle
              before = false)) := by
    intro before path mode granted after split
    have holds := tableInvariant_final files before
    have numbered := holds.numbered
    rw [split, Machine.outputs_append, successes, List.countP_append] at few
    rw [Machine.log_map_snd, successes] at numbered
    have binds := holds.binds_iff (by omega) path mode granted
    rwa [Machine.log_map_fst, Machine.log_map_snd] at binds
  constructor
  · intro binds before path mode granted after split
    exact (each before path mode granted after split).mp
      (binds before path mode granted after split)
  · intro free before path mode granted after split
    exact (each before path mode granted after split).mpr
      (free before path mode granted after split)

/-- A host with one file. -/
def sampleFiles : HostFiles := fun name =>
  if name = [0x61] then some [1, 2, 3] else none

/-- Opening that file. -/
def sampleOpen : Call := .open [0x61] [0x72, 0x62] true

/-- Opening it twice, with a read, a seek and a close of the first handle
between. -/
def sampleUse : List Call :=
  [sampleOpen, .read 1 2, .seek 1 0 0, .close 1, sampleOpen]

theorem opens_bind_iff_sample :
    (Machine.final step (initial sampleFiles) (sampleUse.take 4)).Binds
      (Machine.outputs step (initial sampleFiles) (sampleUse.take 4)) [0x61]
      [0x72, 0x62] true := by
  refine (opens_bind_iff sampleFiles sampleUse (by decide)).mpr ?_ _ _ _ _ []
    rfl
  intro before path mode granted after split _
  have start : before = sampleUse.take before.length := by
    rw [split, List.take_left]
  have here : sampleUse[before.length]? =
      some (.open path mode granted) := by
    rw [split, List.getElem?_append_right (Nat.le_refl _), Nat.sub_self]
    rfl
  rw [start]
  match before.length, here with
  | 0, _ => decide
  | 4, _ => decide

/-- Reading a handle that was not returned yet loses the file that is opened
next. -/
theorem read_before_open_unbound :
    ¬ ∀ (files : HostFiles) (calls : List Call),
      successes (Machine.outputs step (initial files) calls) < 2 ^ 31 - 1 →
        ∀ before path mode granted after,
          calls = before ++ .open path mode granted :: after →
            (Machine.final step (initial files) before).Binds
              (Machine.outputs step (initial files) before) path mode
                granted := by
  intro claimed
  have binds := claimed sampleFiles [.read 1 1, sampleOpen] (by decide)
    [.read 1 1] [0x61] [0x72, 0x62] true [] rfl
  obtain ⟨_, _, openMode, _, stored⟩ := binds 1 (by decide) (by decide)
  have kept : (step (Machine.final step (initial sampleFiles)
      [.read 1 1]) sampleOpen).1.openFiles 1 =
        some ⟨none, 0, true, true⟩ := by
    decide
  rw [sampleOpen] at kept
  rw [kept] at stored
  simp [Stream.opened] at stored

/-! ## Closed handles -/

/-- The handle that a call is given. -/
def Call.argument : Call → Option Int
  | .open _ _ _ => none
  | .close handle => some handle
  | .read handle _ => some handle
  | .write handle _ => some handle
  | .seek handle _ _ => some handle
  | .tell handle => some handle

/-- A number that opens have passed and under which there is no file. -/
structure Closed (handle : Int) (fs : Filesystem) : Prop where
  passed : handle < fs.nextHandle
  fileless : (fs.entry handle).target = none

/-- A call that touches no host file: the files and the streams that have one
are as they were, positions included, and nothing was read. -/
structure Harmless (before : Filesystem) (result : Filesystem × Answer) :
    Prop where
  files : result.1.files = before.files
  streams : ∀ k stream, stream.target ≠ none →
    (result.1.openFiles k = some stream ↔ before.openFiles k = some stream)
  nothing : ∀ bytes, result.2 = .delivered bytes → bytes = []

/-- An entry of a handle without a file is not a stream that has one. -/
theorem Closed.not_stored {fs : Filesystem} {handle : Int}
    (closed : Closed handle fs) {stream : Stream HostName}
    (onFile : stream.target ≠ none) :
    fs.openFiles handle ≠ some stream := by
  intro present
  have fileless := closed.fileless
  rw [entry, present] at fileless
  exact onFile fileless

/-- Replacing the entry of a closed handle by one without a file. -/
theorem Closed.update_streams {fs : Filesystem} {handle : Int}
    (closed : Closed handle fs) {replacement : Option (Stream HostName)}
    (fileless : ∀ stream, replacement = some stream → stream.target = none)
    (k : Int) (stream : Stream HostName) (onFile : stream.target ≠ none) :
    Function.update fs.openFiles handle replacement k = some stream ↔
      fs.openFiles k = some stream := by
  rw [Function.update_apply]
  split
  · rename_i same
    subst same
    constructor
    · intro stored
      exact absurd (fileless stream stored) onFile
    · intro stored
      exact absurd stored (closed.not_stored onFile)
  · exact Iff.rfl

/-- Storing a stream without a file under a closed handle. -/
theorem Closed.stored {fs : Filesystem} {handle : Int}
    (closed : Closed handle fs) {stream : Stream HostName}
    (sameTarget : stream.target = (fs.entry handle).target)
    {answer : Answer}
    (nothing : ∀ bytes, answer = .delivered bytes → bytes = []) :
    Harmless fs (fs.setEntry handle stream, answer) where
  files := rfl
  streams := closed.update_streams (by
    intro found equal
    cases equal
    exact sameTarget.trans closed.fileless)
  nothing := nothing

/-- A call on a closed handle touches no host file. -/
theorem Closed.harmless {fs : Filesystem} {handle : Int}
    (closed : Closed handle fs) {call : Call}
    (onHandle : call.argument = some handle) :
    Harmless fs (step fs call) := by
  cases call with
  | «open» path mode granted => contradiction
  | close h =>
      cases onHandle
      exact {
        files := rfl
        streams := closed.update_streams (by simp)
        nothing := by simp [step] }
  | read h size =>
      cases onHandle
      refine closed.stored (read_target _ _ _) ?_
      rintro bytes ⟨⟩
      exact read_fileless _ closed.fileless _
  | write h input =>
      cases onHandle
      have unchanged := write_fileless fs.files closed.fileless input
      simp only [step, writeFile, unchanged]
      exact closed.stored (write_target _ _ _) (by simp)
  | seek h offset cMode =>
      cases onHandle
      simp only [step, seekFile]
      split
      · exact closed.stored rfl (by simp)
      · refine closed.stored ?_ (by simp)
        rw [seekp_target, seekg_target]
  | tell h =>
      cases onHandle
      exact closed.stored (tellg_target _) (by simp)

theorem entry_setEntry (fs : Filesystem) (handle k : Int)
    (stream : Stream HostName) :
    (fs.setEntry k stream).entry handle =
      if handle = k then stream else fs.entry handle := by
  simp only [entry, setEntry, Function.update_apply]
  split <;> rfl

/-- Storing a stream with the same file keeps a closed handle closed. -/
theorem Closed.setEntry {fs : Filesystem} {handle : Int}
    (closed : Closed handle fs) {files : HostFiles} {k : Int}
    {stream : Stream HostName}
    (sameTarget : stream.target = (fs.entry k).target) :
    Closed handle ({ fs with files := files }.setEntry k stream) where
  passed := closed.passed
  fileless := by
    rw [entry_setEntry]
    split
    · rename_i same
      rw [sameTarget, ← same]
      exact closed.fileless
    · exact closed.fileless

/-- A closed handle stays closed: opens only bind numbers that are still to
come, and no other call gives a stream a file. -/
theorem Closed.step {fs : Filesystem} {handle : Int}
    (closed : Closed handle fs) (call : Call) :
    Closed handle (Filesystem.step fs call).1 := by
  rcases step_cases fs call with
    ⟨path, mode, granted, -, result⟩ | ⟨k, -, result⟩ |
      ⟨k, files, stream, moves, result⟩
  · rw [result]
    have grown := nextHandle_le_openFile fs path mode granted
    refine ⟨Int.lt_of_lt_of_le closed.passed grown, ?_⟩
    rw [entry, openFile_of_lt _ _ _ _ closed.passed]
    exact closed.fileless
  · rw [result]
    refine ⟨closed.passed, ?_⟩
    simp only [closeFile, entry, Function.update_apply]
    split
    · rfl
    · exact closed.fileless
  · rw [result]
    exact closed.setEntry moves.target

/-- Closing a handle that an open has returned closes it. -/
theorem TableInvariant.closeReturned {fs : Filesystem}
    {log : List (Call × Answer)} (holds : TableInvariant fs log)
    {handle : Int} (returned : Answer.handle handle ∈ log.map Prod.snd) :
    Closed handle (Filesystem.step fs (.close handle)).1 := by
  refine ⟨holds.returned handle returned, ?_⟩
  simp only [Filesystem.step, closeFile, entry, Function.update_self]
  rfl

/-- A handle that was returned and closed is dead in every run: whatever
follows the close, no call that is given the handle touches a host file. -/
theorem closed_handle_dead (files : HostFiles) (before middle : List Call)
    (call : Call) (handle : Int)
    (returned : Answer.handle handle ∈
      Machine.outputs step (initial files) before)
    (onHandle : call.argument = some handle) :
    Harmless
      (Machine.final step (initial files)
        (before ++ .close handle :: middle))
      (step (Machine.final step (initial files)
        (before ++ .close handle :: middle)) call) := by
  have holds := tableInvariant_final files before
  rw [← Machine.log_map_snd] at returned
  have closed := holds.closeReturned returned
  have dead : Closed handle (Machine.final step _ middle) :=
    Machine.final_invariant step (fun _ input kept => kept.step input)
      closed middle
  rw [Machine.final_append, Machine.final_cons]
  exact dead.harmless onHandle

theorem closed_handle_dead_sample :
    Harmless
      (Machine.final step (initial sampleFiles)
        [sampleOpen, .close 1, .read 1 2, sampleOpen])
      (step (Machine.final step (initial sampleFiles)
        [sampleOpen, .close 1, .read 1 2, sampleOpen]) (.read 1 3)) :=
  closed_handle_dead sampleFiles [sampleOpen] [.read 1 2, sampleOpen]
    (.read 1 3) 1 (by decide) rfl

end Filesystem
end Host
end GA330
