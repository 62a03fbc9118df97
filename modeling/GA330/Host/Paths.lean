import GA330.Host.Strings
import GA330.Library.PosixPath
import GA330.Library.Unicode
import Mathlib.Data.List.Forall2

/-!
# The host file that a guest path names

The path of an open is a narrow string, or a wide one that the host converts to
UTF-8 unit by unit.  `open_file` replaces the separators and the colon, and
opens the file of that name in the working directory.
-/

namespace GA330
namespace Host

open ByteMemory FileStream Unicode

/-! ## Wide paths -/

section Conversion

variable {scalar : Char} {unit : BitVec 16}

/-- The unit of a scalar converts to its UTF-8 bytes. -/
theorem encodeWide_basicUnit (basic : Basic scalar) :
    encodeWide (basicUnit scalar) = some (utf8Bytes scalar) := by
  have number := toNat_basicUnit basic
  have scalarValue := not_surrogate basic
  rw [Surrogate] at scalarValue
  rw [encodeWide]
  by_cases one : scalar.toNat < 0x80
  · have small : basicUnit scalar < 0x80 := by bv_omega
    rw [if_pos small, utf8Bytes_of_lt one]
  · have notOne : ¬ basicUnit scalar < 0x80 := by bv_omega
    rw [if_neg notOne]
    by_cases two : scalar.toNat < 0x800
    · have small : basicUnit scalar < 0x800 := by bv_omega
      rw [if_pos small, utf8Bytes_of_lt_two (Nat.le_of_not_lt one) two]
      rfl
    · have notTwo : ¬ basicUnit scalar < 0x800 := by bv_omega
      rw [if_neg notTwo, if_neg scalarValue,
        utf8Bytes_of_basic (Nat.le_of_not_lt two) basic]
      rfl

/-- A surrogate is not converted. -/
theorem encodeWide_surrogate (surrogate : Surrogate unit) :
    encodeWide unit = none := by
  obtain ⟨low, high⟩ := surrogate
  have notOne : ¬ unit < 0x80 := by bv_omega
  have notTwo : ¬ unit < 0x800 := by bv_omega
  rw [encodeWide, if_neg notOne, if_neg notTwo, if_pos ⟨low, high⟩]

/-- Converting a string that was encoded in UTF-16 gives it in UTF-8, when
each of its scalars takes one unit. -/
theorem narrowPath_utf16 {scalars : List Char}
    (basic : ∀ scalar ∈ scalars, Basic scalar) :
    narrowPath (utf16 scalars) = some (utf8 scalars) := by
  induction scalars with
  | nil => rfl
  | cons scalar rest inductionHypothesis =>
      rw [List.forall_mem_cons] at basic
      rw [utf16, List.flatMap_cons, ← utf16, utf16Units, if_pos basic.1,
        List.singleton_append, narrowPath, encodeWide_basicUnit basic.1,
        inductionHypothesis basic.2]
      rfl

/-- Otherwise it cannot be converted. -/
theorem narrowPath_utf16_of_not_basic {scalars : List Char}
    (beyond : ¬ ∀ scalar ∈ scalars, Basic scalar) :
    narrowPath (utf16 scalars) = none := by
  induction scalars with
  | nil => exact absurd (by simp) beyond
  | cons scalar rest inductionHypothesis =>
      rw [utf16, List.flatMap_cons, ← utf16]
      by_cases basic : Basic scalar
      · have later : ¬ ∀ scalar ∈ rest, Basic scalar := by
          intro all
          exact beyond (List.forall_mem_cons.mpr ⟨basic, all⟩)
        rw [utf16Units, if_pos basic, List.singleton_append, narrowPath,
          encodeWide_basicUnit basic, inductionHypothesis later]
        rfl
      · obtain ⟨high, low, units, surrogate⟩ :=
          utf16Units_of_not_basic basic
        rw [units, List.cons_append, narrowPath,
          encodeWide_surrogate surrogate]
        rfl

end Conversion

/-- What an open asks of `open_file`: a sanitized name, and a mode. -/
def FileCall.asks (call : FileCall) : Option (HostName × List Byte) := do
  let path ← call.path
  let mode ← call.mode
  return (hostName path, mode)

section Opens

variable {call : FileCall} {scalars : List Char} {mode : List Byte}

/-- The request of `fopen` with a path in UTF-8. -/
theorem asks_narrow (narrow : call.handler = .fopen)
    (spelled : Spelled (charRead call.memory (call.registers 0))
      (utf8 scalars))
    (moded : call.mode = some mode) :
    call.asks =
      if (utf8 scalars).length < 2 ^ 31 then
        some (hostName (utf8 scalars), mode)
      else none := by
  simp only [FileCall.asks, FileCall.path, narrow, moded,
    getString_spelled spelled]
  split <;> rfl

/-- The request of `fopenW` with a path in UTF-16. -/
theorem asks_wide_iff {request : HostName × List Byte}
    (wide : call.handler = .fopenW)
    (spelled : Spelled (unitRead call.memory (call.registers 0))
      (utf16 scalars))
    (moded : call.mode = some mode) :
    call.asks = some request ↔
      (utf16 scalars).length < 2 ^ 30 ∧
        (∀ scalar ∈ scalars, Basic scalar) ∧
          (hostName (utf8 scalars), mode) = request := by
  simp only [FileCall.asks, FileCall.path, wide, moded,
    getWstring_spelled spelled]
  by_cases short : (utf16 scalars).length < 2 ^ 30
  · simp only [short, if_true, Option.bind_some, true_and]
    by_cases basic : ∀ scalar ∈ scalars, Basic scalar
    · rw [narrowPath_utf16 basic]
      exact ⟨fun asked => ⟨basic, Option.some.inj asked⟩,
        fun both => congrArg some both.2⟩
    · rw [narrowPath_utf16_of_not_basic basic]
      exact ⟨nofun, fun both => absurd both.1 basic⟩
  · rw [if_neg short]
    exact ⟨nofun, fun both => absurd both.1 short⟩

/-- `fopen` and `fopenW` ask for the same file exactly when no scalar takes two
units and neither index overflows. -/
theorem same_request_iff {callW : FileCall}
    (narrow : call.handler = .fopen) (wide : callW.handler = .fopenW)
    (spelled : Spelled (charRead call.memory (call.registers 0))
      (utf8 scalars))
    (spelledW : Spelled (unitRead callW.memory (callW.registers 0))
      (utf16 scalars))
    (moded : call.mode = some mode) (modedW : callW.mode = some mode) :
    (∃ request, call.asks = some request ∧ callW.asks = some request) ↔
      (∀ scalar ∈ scalars, Basic scalar) ∧
        (utf16 scalars).length < 2 ^ 30 ∧
          (utf8 scalars).length < 2 ^ 31 := by
  rw [asks_narrow narrow spelled moded]
  constructor
  · rintro ⟨request, asked, askedW⟩
    rw [Option.ite_none_right_eq_some] at asked
    obtain ⟨shortW, basic, _⟩ :=
      (asks_wide_iff wide spelledW modedW).mp askedW
    exact ⟨basic, shortW, asked.1⟩
  · rintro ⟨basic, shortW, short⟩
    exact ⟨_, if_pos short,
      (asks_wide_iff wide spelledW modedW).mpr ⟨shortW, basic, rfl⟩⟩

end Opens

/-- A path in both encodings, and a mode. -/
def pathMemory (narrow wide : List Byte) : GuestMemory where
  bytes := write (write (write (fun _ => 0) 0x100 narrow) 0x110 wide)
    0x120 [0x72, 0x62]
  mapped := fun _ => true

/-- An open of such a path. -/
def pathCall (handler : FileHandler) (path : Word)
    (memory : GuestMemory) : FileCall where
  handler := handler
  registers := fun index => ([path, 0x120][index.val]?).getD 0
  memory := memory
  granted := true
  garbage := fun _ => 0
  garbageW := fun _ => 0
  fresh := fun _ => 0

/-- The letter U+00E9. -/
def letterMemory : GuestMemory := pathMemory [0xC3, 0xA9] [0xE9, 0x00]

/-- The picture U+1F600. -/
def pictureMemory : GuestMemory :=
  pathMemory [0xF0, 0x9F, 0x98, 0x80] [0x3D, 0xD8, 0x00, 0xDE]

theorem same_request_iff_sample :
    ∃ request,
      (pathCall .fopen 0x100 letterMemory).asks = some request ∧
        (pathCall .fopenW 0x110 letterMemory).asks = some request := by
  refine (@same_request_iff _ ['é'] [0x72, 0x62] _ rfl rfl ?_ ?_ ?_
    ?_).mpr ?_
  · exact ⟨by decide +kernel, by decide, by decide +kernel⟩
  · exact ⟨by decide +kernel, by decide, by decide +kernel⟩
  · decide +kernel
  · decide +kernel
  · refine ⟨?_, by decide, by decide⟩
    rw [List.forall_mem_singleton]
    decide

/-- A path with a scalar that takes two units is opened by `fopen` only. -/
theorem wide_picture_not_opened :
    ¬ ∀ (scalars : List Char) (call callW : FileCall) (mode : List Byte),
      call.handler = .fopen → callW.handler = .fopenW →
        Spelled (charRead call.memory (call.registers 0)) (utf8 scalars) →
          Spelled (unitRead callW.memory (callW.registers 0))
              (utf16 scalars) →
            call.mode = some mode → callW.mode = some mode →
              ∃ request, call.asks = some request ∧
                callW.asks = some request := by
  intro claimed
  have spelled : Spelled (charRead pictureMemory 0x100)
      (utf8 [Char.ofNat 0x1F600]) :=
    ⟨by decide +kernel, by decide, by decide +kernel⟩
  have spelledW : Spelled (unitRead pictureMemory 0x110)
      (utf16 [Char.ofNat 0x1F600]) :=
    ⟨by decide +kernel, by decide, by decide +kernel⟩
  have moded : (pathCall .fopen 0x100 pictureMemory).mode =
      some [0x72, 0x62] := by
    decide +kernel
  have modedW : (pathCall .fopenW 0x110 pictureMemory).mode =
      some [0x72, 0x62] := by
    decide +kernel
  obtain ⟨request, _, asked⟩ := claimed [Char.ofNat 0x1F600]
    (pathCall .fopen 0x100 pictureMemory)
    (pathCall .fopenW 0x110 pictureMemory) [0x72, 0x62] rfl rfl spelled
    spelledW moded modedW
  have allBasic := ((@asks_wide_iff (pathCall .fopenW 0x110 pictureMemory)
    [Char.ofNat 0x1F600] _ _ rfl spelledW modedW).mp asked).2.1
  exact absurd (allBasic _ List.mem_cons_self) (by decide)

/-! ## Names -/

/-- What the host can answer to `open_file`: it opens no name that no host
opens. -/
def Answerable (path mode : List Byte) (granted : Bool) : Prop :=
  granted = true → ∀ openMode, fileMode mode = some openMode →
    PosixPath.Openable (hostName path) (openMode = .output)

/-- The name of the host file that `open_file` opens, when it opens one. -/
def Filesystem.openedName (fs : Filesystem) (path mode : List Byte)
    (granted : Bool) : Option HostName :=
  if fs.opens path mode granted then some (hostName path) else none

/-- Characters that end up the same in a name. -/
def Alike (left right : Byte) : Prop :=
  left = right ∨
    (left ∈ ([0x5C, 0x2F, 0x24] : List Byte) ∧
      right ∈ ([0x5C, 0x2F, 0x24] : List Byte)) ∨
    (left ∈ ([0x3A, 0x5F] : List Byte) ∧
      right ∈ ([0x3A, 0x5F] : List Byte))

section Names

theorem sanitizeByte_eq_iff (left right : Byte) :
    sanitizeByte left = sanitizeByte right ↔ Alike left right := by
  unfold sanitizeByte Alike
  grind

/-- No separator and no colon is left. -/
theorem sanitizeByte_notMem (character : Byte) :
    sanitizeByte character ∉ ([0x5C, 0x2F, 0x3A] : List Byte) := by
  unfold sanitizeByte
  grind

/-- A character other than the replacements stands for itself only. -/
theorem eq_of_sanitizeByte_eq {character kept : Byte}
    (same : sanitizeByte character = kept)
    (notReplacement : kept ∉ ([0x24, 0x5F] : List Byte)) :
    character = kept := by
  unfold sanitizeByte at same
  grind

theorem notMem_hostName {character : Byte}
    (replaced : character ∈ ([0x5C, 0x2F, 0x3A] : List Byte))
    (path : List Byte) : character ∉ hostName path := by
  intro present
  obtain ⟨original, _, rfl⟩ := List.mem_map.mp present
  exact sanitizeByte_notMem original replaced

/-- A name without replacements comes from itself only. -/
theorem eq_of_hostName_eq {path : List Byte} {name : HostName}
    (same : hostName path = name)
    (notReplacement : ∀ kept ∈ name, kept ∉ ([0x24, 0x5F] : List Byte)) :
    path = name := by
  subst same
  have kept : ∀ character ∈ path, sanitizeByte character = character := by
    intro character present
    have own := notReplacement _ (List.mem_map_of_mem present)
    exact (eq_of_sanitizeByte_eq rfl own).symm
  rw [hostName, List.map_congr_left kept, List.map_id']

/-- Paths have the same name exactly when they are alike character by
character. -/
theorem hostName_eq_iff (left right : List Byte) :
    hostName left = hostName right ↔ List.Forall₂ Alike left right := by
  rw [hostName, hostName, ← List.forall₂_eq_eq_eq, List.forall₂_map_left_iff,
    List.forall₂_map_right_iff]
  constructor
  · exact fun same => same.imp fun _ _ => (sanitizeByte_eq_iff _ _).mp
  · exact fun alike => alike.imp fun _ _ => (sanitizeByte_eq_iff _ _).mpr

end Names

/-! ## Confinement -/

/-- A name without separators and colons that is that of a file in the working
directory. -/
structure Confined (name : HostName) : Prop where
  replaced : ∀ character ∈ ([0x5C, 0x2F, 0x3A] : List Byte),
    character ∉ name
  plain : PosixPath.Plain name
  child : ∀ workingDirectory, ∃ file,
    PosixPath.resolve workingDirectory name =
      some (workingDirectory ++ [file])

/-- The working directory or its parent, opened to be read. -/
def Escapes (path mode : List Byte) : Prop :=
  (path = PosixPath.dot ∨ path = PosixPath.dotDot) ∧
    fileMode mode = some .input

/-- A path keeps the name that it has without replacements. -/
theorem hostName_ne {path : List Byte} {name : HostName}
    (notReplacement : ∀ kept ∈ name, kept ∉ ([0x24, 0x5F] : List Byte))
    (different : path ≠ name) : hostName path ≠ name :=
  fun same => different (eq_of_hostName_eq same notReplacement)

theorem confined_hostName {path : List Byte} (nonempty : path ≠ [])
    (notDot : path ≠ PosixPath.dot) (notDotDot : path ≠ PosixPath.dotDot) :
    Confined (hostName path) := by
  have plain : PosixPath.Plain (hostName path) := by
    constructor
    · exact notMem_hostName (by decide) path
    · exact hostName_ne (by decide) nonempty
    · exact hostName_ne (by decide) notDot
    · exact hostName_ne (by decide) notDotDot
  exact {
    replaced := fun character replaced => notMem_hostName replaced path
    plain := plain
    child := fun workingDirectory => ⟨_, plain.resolve workingDirectory⟩ }

/-- What the host opens is confined, but for the two directories. -/
theorem Answerable.confined {path mode : List Byte}
    (answerable : Answerable path mode true) {openMode : OpenMode}
    (moded : fileMode mode = some openMode) (inside : ¬ Escapes path mode) :
    Confined (hostName path) := by
  have openable := answerable rfl openMode moded
  have outward : ∀ directory,
      directory = PosixPath.dot ∨ directory = PosixPath.dotDot →
        path = directory → openMode = .output := by
    rintro directory either rfl
    cases openMode with
    | input => exact absurd ⟨either, moded⟩ inside
    | output => rfl
  apply confined_hostName
  · rintro rfl
    exact openable.nonempty rfl
  · rintro rfl
    exact openable.notDot (outward _ (.inl rfl) rfl) (by decide)
  · rintro rfl
    exact openable.notDotDot (outward _ (.inr rfl) rfl) (by decide)

/-- The two directories are their own names. -/
theorem Escapes.hostName {path mode : List Byte}
    (escapes : Escapes path mode) : Host.hostName path = path := by
  rcases escapes.1 with rfl | rfl <;> decide

/-- Neither of them is confined. -/
theorem Escapes.not_confined {path mode : List Byte}
    (escapes : Escapes path mode) : ¬ Confined (Host.hostName path) := by
  rw [escapes.hostName]
  rcases escapes.1 with rfl | rfl
  · exact fun confined => confined.plain.notDot rfl
  · exact fun confined => confined.plain.notDotDot rfl

/-- A host can open them to be read. -/
theorem Escapes.answerable {path mode : List Byte}
    (escapes : Escapes path mode) (granted : Bool) :
    Answerable path mode granted := by
  intro _ openMode moded
  have reads : ¬ openMode = .output := by
    rintro rfl
    cases escapes.2.symm.trans moded
  refine ⟨?_, fun toWrite => absurd toWrite reads,
    fun toWrite => absurd toWrite reads⟩
  rw [escapes.hostName]
  rcases escapes.1 with rfl | rfl <;> decide

namespace Filesystem

/-- A file that is opened has the sanitized name, was granted and was asked for
in a mode that is known. -/
theorem openedName_eq_some {fs : Filesystem} {path mode : List Byte}
    {granted : Bool} {name : HostName}
    (opened : fs.openedName path mode granted = some name) :
    name = hostName path ∧ granted = true ∧
      ∃ openMode, fileMode mode = some openMode := by
  unfold openedName opens at opened
  rw [Option.ite_none_right_eq_some, Option.any_eq_true] at opened
  obtain ⟨⟨openMode, moded, opens⟩, named⟩ := opened
  obtain ⟨result, attempt⟩ := Option.isSome_iff_exists.mp opens
  exact ⟨(Option.some_inj.mp named).symm, granted_of_openFile attempt,
    openMode, moded⟩

end Filesystem

/-- Whatever `open_file` opens is confined, in every file table that a run of
calls leaves and for every answer that the host can give, exactly when the path
is not one of the two directories, opened to be read. -/
theorem opened_confined_iff (path mode : List Byte) :
    (∀ (files : HostFiles) (calls : List Filesystem.Call) (granted : Bool),
      Answerable path mode granted →
        ∀ name,
          (Machine.final Filesystem.step (.initial files)
            calls).openedName path mode granted = some name →
              Confined name) ↔
      ¬ Escapes path mode := by
  constructor
  · intro confined escapes
    have moded := escapes.2
    apply escapes.not_confined
    refine confined (fun _ => some []) [] true (escapes.answerable true) _ ?_
    simp [Machine.final, Filesystem.openedName, Filesystem.opens, moded,
      FileStream.openFile, Filesystem.initial]
  · intro inside files calls granted answerable name opened
    obtain ⟨rfl, rfl, openMode, moded⟩ :=
      Filesystem.openedName_eq_some opened
    exact answerable.confined moded inside

/-- Where the parent of the working directory can be read, `open_file` opens it
under its own name. -/
theorem parent_directory_opened :
    ¬ ∀ (files : HostFiles) (calls : List Filesystem.Call)
        (path mode : List Byte) (granted : Bool),
      Answerable path mode granted →
        ∀ name,
          (Machine.final Filesystem.step (.initial files)
            calls).openedName path mode granted = some name →
              Confined name := by
  intro claimed
  have escapes : Escapes [0x2E, 0x2E] [0x72, 0x62] := ⟨.inr rfl, rfl⟩
  have confined := claimed
    (fun name => if name = PosixPath.dotDot then some [] else none) []
    [0x2E, 0x2E] [0x72, 0x62] true (escapes.answerable true) [0x2E, 0x2E]
    (by decide)
  exact confined.plain.notDotDot rfl

/-! ## Aliases -/

/-- Two paths have the same name exactly when they are alike; and to open one of
two that are not alike leaves the file of the other as it is. -/
theorem alike_iff_same_name (left right : List Byte) :
    (hostName left = hostName right ↔ List.Forall₂ Alike left right) ∧
      (¬ List.Forall₂ Alike left right →
        ∀ (fs : Filesystem) (mode : List Byte) (granted : Bool),
          (fs.openFile left mode granted).1.files (hostName right) =
            fs.files (hostName right)) := by
  refine ⟨hostName_eq_iff left right, ?_⟩
  intro different fs mode granted
  apply Filesystem.openFile_files
  rwa [Ne, hostName_eq_iff]

/-- The separators as one. -/
def separator (character : Byte) : Byte :=
  if character = 0x5C then 0x2F else character

/-- A colon and an underscore are different in a path and the same in a
name. -/
theorem colon_aliases_underscore :
    ¬ ∀ left right : List Byte,
      left.map separator ≠ right.map separator →
        hostName left ≠ hostName right := by
  intro claimed
  exact claimed [0x61, 0x3A, 0x62] [0x61, 0x5F, 0x62] (by decide) (by decide)

/-! ## Runs -/

namespace Filesystem

/-- Every stream is on a file with a name of a kind, and the other files are as
they were at first. -/
structure Within (kind : HostName → Prop) (files : HostFiles)
    (fs : Filesystem) : Prop where
  targets : ∀ handle name mode,
    (fs.entry handle).target = some (name, mode) → kind name
  others : ∀ name, ¬ kind name → fs.files name = files name

/-- A call opens files of a kind only. -/
def Call.OpensOnly (kind : HostName → Prop) (call : Call) : Prop :=
  ∀ path mode openMode, call = .open path mode true →
    fileMode mode = some openMode → kind (hostName path)

section Kinds

variable {kind : HostName → Prop} {files : HostFiles} {fs : Filesystem}

theorem initial_within : (initial files).Within kind files where
  targets := by
    intro handle name mode target
    contradiction
  others := fun _ _ => rfl

/-- Storing a stream on the same file, when only files of the kind have
changed. -/
theorem Within.setEntry (within : fs.Within kind files) {handle : Int}
    {stream : Stream HostName}
    (sameTarget : stream.target = (fs.entry handle).target)
    {after : HostFiles}
    (others : ∀ name, ¬ kind name → after name = fs.files name) :
    Within kind files
      ({ fs with files := after }.setEntry handle stream) where
  targets := by
    intro other name mode target
    rw [entry_setEntry] at target
    split at target
    · rw [sameTarget] at target
      exact within.targets handle name mode target
    · exact within.targets other name mode target
  others := fun name outside =>
    (others name outside).trans (within.others name outside)

/-- An open of a file of the kind. -/
theorem Within.openFile (within : fs.Within kind files)
    {path mode : List Byte} {granted : Bool}
    (only : Call.OpensOnly kind (.open path mode granted)) :
    Within kind files (fs.openFile path mode granted).1 := by
  rcases openFile_cases fs path mode granted with
    ⟨_, failed⟩ | ⟨openMode, after, _, moded, attempt, succeeded⟩
  · rw [failed]
    exact within
  · obtain rfl := granted_of_openFile attempt
    have named : kind (hostName path) := only path mode openMode rfl moded
    rw [succeeded]
    constructor
    · intro handle name mode target
      change (Filesystem.entry (Filesystem.emplace _ _ _) handle).target = _
        at target
      unfold Filesystem.emplace at target
      split at target
      · exact within.targets handle name mode target
      · rw [entry_setEntry] at target
        split at target
        · cases target
          exact named
        · exact within.targets handle name mode target
    · intro name outside
      have different : hostName path ≠ name := by
        rintro rfl
        exact outside named
      change (Filesystem.emplace _ _ _).files name = _
      rw [emplace_files]
      exact (openFile_other attempt different).trans
        (within.others name outside)

/-- A call that opens files of the kind only. -/
theorem Within.step (fs : Filesystem) (call : Call)
    (only : call.OpensOnly kind) (within : fs.Within kind files) :
    Within kind files (Filesystem.step fs call).1 := by
  rcases step_cases fs call with
    ⟨path, mode, granted, rfl, result⟩ | ⟨handle, -, result⟩ |
      ⟨handle, after, stream, moves, result⟩
  · rw [result]
    exact within.openFile only
  · rw [result]
    refine ⟨?_, within.others⟩
    intro other name mode target
    simp only [closeFile, entry, Function.update_apply] at target
    split at target
    · contradiction
    · exact within.targets other name mode target
  · rw [result]
    refine within.setEntry moves.target ?_
    intro name outside
    apply moves.other
    intro mode target
    exact outside (within.targets handle name mode target)

/-- A run that opens files of the kind only. -/
theorem within_final {calls : List Call}
    (only : ∀ call ∈ calls, call.OpensOnly kind) :
    Within kind files
      (Machine.final Filesystem.step (initial files) calls) := by
  have admissible : Machine.Admissible Filesystem.step
      (fun _ call => call.OpensOnly kind) (initial files) calls :=
    Machine.admissible_of_mem _ (fun call present _ => only call present) _
  exact Machine.final_invariant_of_admissible _ Within.step initial_within
    admissible

end Kinds

/-- In a run that asks for neither of the two directories to be read, every
handle is on a file in the working directory. -/
theorem handles_confined (files : HostFiles) (calls : List Call)
    (inside : ∀ path mode granted, Call.open path mode granted ∈ calls →
      Answerable path mode granted ∧ ¬ Escapes path mode)
    (handle : Int) (name : HostName) (mode : OpenMode)
    (target : ((Machine.final Filesystem.step (initial files) calls).entry
      handle).target = some (name, mode)) : Confined name := by
  refine (@within_final Confined files calls ?_).targets handle name mode target
  rintro call present path mode openMode rfl moded
  obtain ⟨answerable, stays⟩ := inside path mode true present
  exact answerable.confined moded stays

/-- In a run that opens no path that is alike, the file of a path stays as it
is. -/
theorem file_of_unopened (files : HostFiles) (calls : List Call)
    (path : List Byte)
    (unopened : ∀ other mode granted,
      Call.open other mode granted ∈ calls →
        ¬ List.Forall₂ Alike other path) :
    (Machine.final Filesystem.step (initial files) calls).files
        (hostName path) = files (hostName path) := by
  have within : Within (fun name => name ≠ hostName path) files
      (Machine.final Filesystem.step (initial files) calls) := by
    apply within_final
    rintro call present other mode openMode rfl _
    rw [Ne, hostName_eq_iff]
    exact unopened other mode true present
  exact within.others _ (not_not_intro rfl)

end Filesystem

end Host
end GA330
