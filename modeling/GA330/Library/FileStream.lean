import Mathlib.Logic.Function.Basic
import Mathlib.Tactic.Common

/-!
# File streams

Host files are a partial map from names to contents.  A file stream is opened
either for reading or, truncating the file, for writing; it has one joint
position for both directions and the state flags of the C++ library.  Here every
read looks at the file and every write stores in it; `BufferedStream` has the
streams with a buffer in between.
-/

namespace FileStream

/-- The files of the host. -/
abbrev Files (Name : Type u) (Byte : Type v) := Name → Option (List Byte)

/-- `in | binary`, or `out | binary | trunc`. -/
inductive OpenMode
  | input
  | output
  deriving DecidableEq

/-- A file stream.  `fail` is `failbit` or `badbit`: nothing tells them
apart, and nothing clears either. -/
structure Stream (Name : Type u) where
  target : Option (Name × OpenMode)
  position : Nat
  eof : Bool
  fail : Bool
  deriving DecidableEq

namespace Stream

/-- A stream that was constructed without a file. -/
def unopened : Stream Name where
  target := none
  position := 0
  eof := false
  fail := false

/-- A stream that was just opened on a file. -/
def opened (name : Name) (mode : OpenMode) : Stream Name where
  target := some (name, mode)
  position := 0
  eof := false
  fail := false

/-- `good()` -/
def good (stream : Stream Name) : Bool := !stream.eof && !stream.fail

/-- Bytes can be read from the stream. -/
def reads (stream : Stream Name) : Bool :=
  stream.good && stream.target.any fun on => decide (on.2 = .input)

/-- Bytes can be written to the stream. -/
def writes (stream : Stream Name) : Bool :=
  stream.good && stream.target.any fun on => decide (on.2 = .output)

/-- The stream tells a position. -/
def tells (stream : Stream Name) : Bool :=
  stream.good && stream.target.isSome

end Stream

section Operations

variable {Name : Type u} {Byte : Type v}

/-- The contents of a file; a file that is gone reads as empty. -/
def contents (files : Files Name Byte) (name : Name) : List Byte :=
  (files name).getD []

theorem contents_update [DecidableEq Name] (files : Files Name Byte)
    (name : Name) (content : List Byte) :
    contents (Function.update files name (some content)) name = content := by
  rw [contents, Function.update_self, Option.getD_some]

/-- Construct a stream with a file, if the host grants it: a file to be read
must exist, and a file to be written is created or truncated. -/
def openFile [DecidableEq Name] (files : Files Name Byte) (name : Name)
    (mode : OpenMode) (granted : Bool) :
    Option (Files Name Byte × Stream Name) :=
  match mode with
  | .input =>
      if granted && (files name).isSome then
        some (files, .opened name .input)
      else none
  | .output =>
      if granted then
        some (Function.update files name (some []), .opened name .output)
      else none

/-- Bytes of a file from a position on, when the stream can be read. -/
def available (files : Files Name Byte) (stream : Stream Name) :
    List Byte :=
  match stream.target with
  | some (name, .input) => (contents files name).drop stream.position
  | _ => []

/-- `read(data, count)`: the delivered bytes.  A short read sets both flags. -/
def read (files : Files Name Byte) (stream : Stream Name) (count : Nat) :
    Stream Name × List Byte :=
  if stream.good then
    let delivered := (available files stream).take count
    let moved := { stream with position := stream.position + delivered.length }
    if delivered.length = count then
      (moved, delivered)
    else ({ moved with eof := true, fail := true }, delivered)
  else ({ stream with fail := true }, [])

/-- Contents with bytes stored at a position, padded when it lies behind the
end; to store no bytes changes nothing. -/
def storeAt [Inhabited Byte] (content : List Byte) (position : Nat)
    (bytes : List Byte) : List Byte :=
  if bytes = [] then content
  else
    content.take position ++
      List.replicate (position - content.length) default ++
        bytes ++ content.drop (position + bytes.length)

/-- `write(data, count)` -/
def write [DecidableEq Name] [Inhabited Byte] (files : Files Name Byte)
    (stream : Stream Name) (bytes : List Byte) :
    Files Name Byte × Stream Name :=
  if stream.good then
    match stream.target with
    | some (name, .output) =>
        (Function.update files name
            (some (storeAt (contents files name) stream.position bytes)),
          { stream with position := stream.position + bytes.length })
    | _ =>
        if bytes = [] then (files, stream)
        else (files, { stream with fail := true })
  else (files, { stream with fail := true })

/-- What an offset is relative to. -/
inductive Direction
  | beg
  | cur
  | «end»
  deriving DecidableEq

/-- The position that an offset is relative to. -/
def base (content : List Byte) (position : Nat) : Direction → Int
  | .beg => 0
  | .cur => position
  | .end => content.length

/-- Move the joint position, unless the stream has failed; a closed stream
cannot be moved, and neither can a position become negative. -/
def moveTo (files : Files Name Byte) (stream : Stream Name) (offset : Int)
    (direction : Direction) : Stream Name :=
  if stream.fail then stream
  else
    match stream.target with
    | none => { stream with fail := true }
    | some (name, _) =>
        let position :=
          base (contents files name) stream.position direction + offset
        if position < 0 then { stream with fail := true }
        else { stream with position := position.toNat }

/-- `seekg(offset, direction)`: clears the end-of-file flag first. -/
def seekg (files : Files Name Byte) (stream : Stream Name) (offset : Int)
    (direction : Direction) : Stream Name :=
  moveTo files { stream with eof := false } offset direction

/-- `seekp(offset, direction)` -/
def seekp (files : Files Name Byte) (stream : Stream Name) (offset : Int)
    (direction : Direction) : Stream Name :=
  moveTo files stream offset direction

/-- `tellg()`: the position, or -1. -/
def tellg (stream : Stream Name) : Stream Name × Int :=
  if stream.good then
    match stream.target with
    | some _ => (stream, stream.position)
    | none => (stream, -1)
  else ({ stream with fail := true }, -1)

/-! ## What each operation keeps -/

/-- A file that is opened to be read leaves the files as they are, and one that
is opened to be written is empty. -/
theorem openFile_opened [DecidableEq Name]
    {files after : Files Name Byte} {name : Name} {mode : OpenMode}
    {granted : Bool} {stream : Stream Name}
    (success : openFile files name mode granted = some (after, stream)) :
    stream = .opened name mode ∧
      (after = files ∨ after = Function.update files name (some [])) := by
  unfold openFile at success
  cases mode with
  | input =>
      rw [Option.ite_none_right_eq_some] at success
      cases success.2
      exact ⟨rfl, .inl rfl⟩
  | output =>
      rw [Option.ite_none_right_eq_some] at success
      cases success.2
      exact ⟨rfl, .inr rfl⟩

/-- A file is opened only when the host grants it. -/
theorem granted_of_openFile [DecidableEq Name]
    {files : Files Name Byte} {name : Name} {mode : OpenMode}
    {granted : Bool} {opened : Files Name Byte × Stream Name}
    (success : openFile files name mode granted = some opened) :
    granted = true := by
  unfold openFile at success
  cases mode with
  | input =>
      rw [Option.ite_none_right_eq_some, Bool.and_eq_true] at success
      exact success.1.1
  | output =>
      rw [Option.ite_none_right_eq_some] at success
      exact success.1

/-- Whether a file is opened depends on whether it exists. -/
theorem isSome_openFile_congr [DecidableEq Name]
    {left right : Files Name Byte} {name : Name}
    (present : (left name).isSome = (right name).isSome) (mode : OpenMode)
    (granted : Bool) :
    (openFile left name mode granted).isSome =
      (openFile right name mode granted).isSome := by
  cases mode with
  | input =>
      rw [openFile, openFile, present]
      split <;> rfl
  | output =>
      rw [openFile, openFile]
      split <;> rfl

/-- A file that is opened is opened at its start, with no flag set. -/
theorem openFile_eq_some [DecidableEq Name]
    {files after : Files Name Byte} {name : Name} {mode : OpenMode}
    {granted : Bool} {stream : Stream Name}
    (success : openFile files name mode granted = some (after, stream)) :
    stream = .opened name mode :=
  (openFile_opened success).1

theorem read_target (files : Files Name Byte) (stream : Stream Name)
    (count : Nat) : (read files stream count).1.target = stream.target := by
  unfold read
  split
  · dsimp only
    split <;> rfl
  · rfl

theorem write_target [DecidableEq Name] [Inhabited Byte]
    (files : Files Name Byte) (stream : Stream Name) (bytes : List Byte) :
    (write files stream bytes).2.target = stream.target := by
  unfold write
  split
  · split
    · rfl
    · split <;> rfl
  · rfl

theorem moveTo_target (files : Files Name Byte) (stream : Stream Name)
    (offset : Int) (direction : Direction) :
    (moveTo files stream offset direction).target = stream.target := by
  unfold moveTo
  split
  · rfl
  · split
    · rfl
    · dsimp only
      split <;> rfl

theorem seekg_target (files : Files Name Byte) (stream : Stream Name)
    (offset : Int) (direction : Direction) :
    (seekg files stream offset direction).target = stream.target :=
  moveTo_target files _ offset direction

theorem seekp_target (files : Files Name Byte) (stream : Stream Name)
    (offset : Int) (direction : Direction) :
    (seekp files stream offset direction).target = stream.target :=
  moveTo_target files stream offset direction

theorem tellg_target (stream : Stream Name) :
    (tellg stream).1.target = stream.target := by
  unfold tellg
  split
  · split <;> rfl
  · rfl

/-! ## Streams without a file -/

/-- Nothing is delivered when nothing can be read. -/
theorem read_unavailable (files : Files Name Byte) {stream : Stream Name}
    (nothing : available files stream = []) (count : Nat) :
    (read files stream count).2 = [] := by
  unfold read
  split
  · dsimp only
    split <;> rw [nothing, List.take_nil]
  · rfl

/-- A stream without a file delivers nothing. -/
theorem read_fileless (files : Files Name Byte) {stream : Stream Name}
    (fileless : stream.target = none) (count : Nat) :
    (read files stream count).2 = [] :=
  read_unavailable files (by simp only [available, fileless]) count

/-- Writing to a stream without a file leaves every file as it is. -/
theorem write_fileless [DecidableEq Name] [Inhabited Byte]
    (files : Files Name Byte) {stream : Stream Name}
    (fileless : stream.target = none) (bytes : List Byte) :
    (write files stream bytes).1 = files := by
  unfold write
  split
  · simp only [fileless]
    split <;> rfl
  · rfl

/-! ## Streams that are of no use for an operation -/

/-- A stream that cannot be read from delivers nothing. -/
theorem read_idle (files : Files Name Byte) {stream : Stream Name}
    (idle : stream.reads = false) (count : Nat) :
    (read files stream count).2 = [] := by
  unfold read
  split
  · rename_i good
    have nothing : available files stream = [] := by
      unfold available
      split
      · rename_i target
        simp [Stream.reads, good, target] at idle
      · rfl
    dsimp only
    split <;> rw [nothing, List.take_nil]
  · rfl

/-- Writing to a stream that cannot be written to leaves every file as it
is. -/
theorem write_idle [DecidableEq Name] [Inhabited Byte]
    (files : Files Name Byte) {stream : Stream Name}
    (idle : stream.writes = false) (bytes : List Byte) :
    (write files stream bytes).1 = files := by
  unfold write
  split
  · rename_i good
    split
    · rename_i target
      simp [Stream.writes, good, target] at idle
    · split <;> rfl
  · rfl

/-- A stream that tells no position gives -1. -/
theorem tellg_idle {stream : Stream Name} (idle : stream.tells = false) :
    (tellg stream).2 = -1 := by
  unfold tellg
  split
  · rename_i good
    split
    · rename_i target
      simp [Stream.tells, good, target] at idle
    · rfl
  · rfl

/-! ## Effects on files -/

/-- Opening a stream changes at most the file that it opens. -/
theorem openFile_other [DecidableEq Name]
    {files after : Files Name Byte} {name other : Name}
    {mode : OpenMode} {granted : Bool} {stream : Stream Name}
    (success : openFile files name mode granted = some (after, stream))
    (different : name ≠ other) : after other = files other := by
  rcases (openFile_opened success).2 with rfl | rfl
  · rfl
  · exact Function.update_of_ne different.symm _ _

/-- Writing through a stream changes at most the file that it writes. -/
theorem write_other [DecidableEq Name] [Inhabited Byte]
    (files : Files Name Byte) {stream : Stream Name} {other : Name}
    (different : stream.target ≠ some (other, .output))
    (bytes : List Byte) :
    (write files stream bytes).1 other = files other := by
  unfold write
  split
  · split
    · rename_i name target
      apply Function.update_of_ne
      rintro rfl
      exact different target
    · split <;> rfl
  · rfl

@[simp] theorem storeAt_nil [Inhabited Byte] (content : List Byte)
    (position : Nat) : storeAt content position [] = content := by
  rw [storeAt, if_pos rfl]

/-- Storing at the end appends. -/
theorem storeAt_length [Inhabited Byte] (content bytes : List Byte) :
    storeAt content content.length bytes = content ++ bytes := by
  unfold storeAt
  split
  · rename_i nothing
    rw [nothing, List.append_nil]
  · simp

/-- What is in front of the end of the stored bytes. -/
theorem length_stored_front [Inhabited Byte] (content : List Byte)
    (position : Nat) (bytes : List Byte) :
    (content.take position ++
      List.replicate (position - content.length) default ++
        bytes).length = position + bytes.length := by
  simp only [List.length_append, List.length_take, List.length_replicate]
  omega

/-- Storing bytes is storing some of them, and the others behind them. -/
theorem storeAt_append [Inhabited Byte] (content : List Byte)
    (position : Nat) (bytes others : List Byte) :
    storeAt content position (bytes ++ others) =
      storeAt (storeAt content position bytes) (position + bytes.length)
        others := by
  by_cases none : bytes = []
  · subst none
    simp
  by_cases noOther : others = []
  · subst noOther
    simp
  have some : bytes ++ others ≠ [] := by
    simp [none]
  have front := length_stored_front content position bytes
  have long : (position + bytes.length) -
      (content.take position ++
        List.replicate (position - content.length) default ++ bytes ++
          content.drop (position + bytes.length)).length = 0 := by
    rw [List.length_append, front]
    omega
  have behind : (content.take position ++
      List.replicate (position - content.length) default ++ bytes ++
        content.drop (position + bytes.length)).drop
          (position + bytes.length + others.length) =
      content.drop (position + (bytes ++ others).length) := by
    rw [← List.drop_drop (i := others.length), List.drop_left' front,
      List.drop_drop, List.length_append, Nat.add_assoc]
  rw [storeAt, if_neg some, storeAt, if_neg noOther, storeAt, if_neg none,
    long, behind, List.take_left' front, List.replicate_zero,
    List.append_nil]
  simp only [List.append_assoc]

/-- A good output stream at the end of its file appends. -/
theorem write_append [DecidableEq Name] [Inhabited Byte]
    {files : Files Name Byte} {stream : Stream Name} {name : Name}
    (good : stream.good = true)
    (target : stream.target = some (name, .output))
    (atEnd : stream.position = (contents files name).length)
    (bytes : List Byte) :
    write files stream bytes =
      (Function.update files name (some (contents files name ++ bytes)),
        { stream with position := stream.position + bytes.length }) := by
  rw [write, if_pos good]
  simp only [target, atEnd, storeAt_length]

/-- A good input stream delivers what is left, up to the size asked for. -/
theorem read_input {files : Files Name Byte} {stream : Stream Name}
    {name : Name} (good : stream.good = true)
    (target : stream.target = some (name, .input)) (count : Nat) :
    (read files stream count).2 =
      ((contents files name).drop stream.position).take count := by
  rw [read, if_pos good]
  dsimp only
  split <;> simp only [available, target]

/-- No more is delivered than was asked for. -/
theorem length_read_le (files : Files Name Byte) (stream : Stream Name)
    (count : Nat) : (read files stream count).2.length ≤ count := by
  unfold read
  split
  · dsimp only
    split <;> exact List.length_take_le _ _
  · exact Nat.zero_le _

/-- A stream that is not good delivers nothing and stays as it is, failed. -/
theorem read_failed (files : Files Name Byte) {stream : Stream Name}
    (failed : stream.good = false) (count : Nat) :
    read files stream count = ({ stream with fail := true }, []) := by
  rw [read, if_neg (by simp [failed])]

/-- A good stream is behind what it delivers, and both flags tell whether that
is less than was asked for. -/
theorem read_good {files : Files Name Byte} {stream : Stream Name}
    (good : stream.good = true) (count : Nat) :
    let delivered := (available files stream).take count
    let short := decide (delivered.length ≠ count)
    read files stream count =
      (⟨stream.target, stream.position + delivered.length, short, short⟩,
        delivered) := by
  intro delivered short
  obtain ⟨target, position, eof, fail⟩ := stream
  simp only [Stream.good, Bool.and_eq_true, Bool.not_eq_true'] at good
  obtain ⟨rfl, rfl⟩ := good
  have good : (⟨target, position, false, false⟩ : Stream Name).good = true :=
    rfl
  by_cases complete : delivered.length = count
  · have isComplete : short = false := decide_eq_false (not_not_intro complete)
    rw [isComplete, read, if_pos good]
    exact if_pos complete
  · have isShort : short = true := decide_eq_true complete
    rw [isShort, read, if_pos good]
    exact if_neg complete

/-- A read that is served completely moves the position and keeps the stream
good. -/
theorem read_complete {files : Files Name Byte} {stream : Stream Name}
    {name : Name} (good : stream.good = true)
    (target : stream.target = some (name, .input)) {count : Nat}
    (enough : count ≤ (contents files name).length - stream.position) :
    (read files stream count).1 =
      { stream with position := stream.position + count } := by
  have length : ((available files stream).take count).length = count := by
    simp only [available, target, List.length_take, List.length_drop]
    omega
  rw [read, if_pos good]
  dsimp only
  rw [length, if_pos rfl]

/-- A short read fails the stream. -/
theorem read_short {files : Files Name Byte} {stream : Stream Name}
    {name : Name} (target : stream.target = some (name, .input))
    {count : Nat}
    (short : (contents files name).length - stream.position < count) :
    (read files stream count).1.fail = true := by
  unfold read
  split
  · have length : ((available files stream).take count).length ≠ count := by
      simp only [available, target, List.length_take, List.length_drop]
      omega
    dsimp only
    rw [if_neg length]
  · rfl

/-! ## Moving -/

/-- A stream that has failed does not move. -/
theorem moveTo_failed (files : Files Name Byte) {stream : Stream Name}
    (failed : stream.fail = true) (offset : Int) (direction : Direction) :
    moveTo files stream offset direction = stream := by
  rw [moveTo, if_pos failed]

/-- A stream that is asked to stay stays, or fails when it has no file. -/
theorem moveTo_stay (files : Files Name Byte) (stream : Stream Name) :
    moveTo files stream 0 .cur =
      { stream with fail := stream.fail || stream.target.isNone } := by
  obtain ⟨target, position, eof, fail⟩ := stream
  unfold moveTo
  cases fail with
  | true => rfl
  | false =>
      cases target with
      | none => rfl
      | some on =>
          simp [base]

/-- Seeking a failed stream leaves it failed. -/
theorem seekg_failed (files : Files Name Byte) {stream : Stream Name}
    (failed : stream.fail = true) (offset : Int) (direction : Direction) :
    (seekg files stream offset direction).fail = true := by
  have still : ({ stream with eof := false } : Stream Name).fail = true :=
    failed
  rw [seekg, moveTo_failed files still]
  exact failed

theorem seekp_failed (files : Files Name Byte) {stream : Stream Name}
    (failed : stream.fail = true) (offset : Int) (direction : Direction) :
    (seekp files stream offset direction).fail = true := by
  rw [seekp, moveTo_failed files failed]
  exact failed

/-- Moving to a position before the start of the file fails the stream. -/
theorem moveTo_negative {files : Files Name Byte} {stream : Stream Name}
    {name : Name} {mode : OpenMode}
    (target : stream.target = some (name, mode)) {offset : Int}
    {direction : Direction}
    (negative : base (contents files name) stream.position direction +
      offset < 0) :
    (moveTo files stream offset direction).fail = true := by
  unfold moveTo
  split
  · assumption
  · simp only [target, if_pos negative]

/-- Moving to a position of the file or behind it. -/
theorem moveTo_nonnegative {files : Files Name Byte} {stream : Stream Name}
    {name : Name} {mode : OpenMode} (works : stream.fail = false)
    (target : stream.target = some (name, mode)) {offset : Int}
    {direction : Direction}
    (nonnegative : 0 ≤ base (contents files name) stream.position direction +
      offset) :
    moveTo files stream offset direction =
      { stream with position := (base (contents files name)
          stream.position direction + offset).toNat } := by
  rw [moveTo, if_neg (by simp [works])]
  simp only [target, if_neg (Int.not_lt.mpr nonnegative)]

/-- An output stream delivers nothing. -/
theorem read_output (files : Files Name Byte) {stream : Stream Name}
    {name : Name} (target : stream.target = some (name, .output))
    (count : Nat) : (read files stream count).2 = [] :=
  read_unavailable files (by simp only [available, target]) count

/-- The position of a good stream on a file is told. -/
theorem tellg_good {stream : Stream Name} {on : Name × OpenMode}
    (good : stream.good = true) (target : stream.target = some on) :
    tellg stream = (stream, (stream.position : Int)) := by
  rw [tellg, if_pos good]
  simp only [target]

/-- A failed stream tells no position. -/
theorem tellg_failed {stream : Stream Name} (failed : stream.fail = true) :
    tellg stream = ({ stream with fail := true }, -1) := by
  rw [tellg, if_neg (by simp [Stream.good, failed])]

/-! ## Transfers as a whole -/

/-- The bytes that reading a stream would deliver, if there were no end to
it. -/
def upcoming (files : Files Name Byte) (stream : Stream Name) : List Byte :=
  if stream.good then available files stream else []

/-- A read delivers what comes next, up to the size asked for. -/
theorem read_delivers (files : Files Name Byte) (stream : Stream Name)
    (count : Nat) :
    (read files stream count).2 = (upcoming files stream).take count := by
  unfold read upcoming
  split
  · dsimp only
    split <;> rfl
  · rw [List.take_nil]

/-- A read moves the position by what it delivers. -/
theorem read_position (files : Files Name Byte) (stream : Stream Name)
    (count : Nat) :
    (read files stream count).1.position =
      stream.position + (read files stream count).2.length := by
  unfold read
  split
  · dsimp only
    split <;> rfl
  · rfl

/-- A stream can be written to when it is good and was opened for that. -/
theorem writes_iff {stream : Stream Name} :
    stream.writes = true ↔
      stream.good = true ∧ ∃ name, stream.target = some (name, .output) := by
  rw [Stream.writes, Bool.and_eq_true, Option.any_eq_true]
  constructor
  · rintro ⟨good, ⟨name, mode⟩, target, output⟩
    obtain rfl : mode = .output := of_decide_eq_true output
    exact ⟨good, name, target⟩
  · rintro ⟨good, name, target⟩
    exact ⟨good, (name, .output), target, rfl⟩

/-- A stream that can be written to stores the bytes at its position. -/
theorem write_of_writes [DecidableEq Name] [Inhabited Byte]
    (files : Files Name Byte) {stream : Stream Name}
    (writes : stream.writes = true) (bytes : List Byte) :
    ∃ name, stream.target = some (name, .output) ∧
      write files stream bytes =
        (Function.update files name
            (some (storeAt (contents files name) stream.position bytes)),
          { stream with position := stream.position + bytes.length }) := by
  obtain ⟨good, name, target⟩ := writes_iff.mp writes
  refine ⟨name, target, ?_⟩
  rw [write, if_pos good]
  simp only [target]

/-- Writing to a stream that cannot be written to does not move it. -/
theorem write_idle_position [DecidableEq Name] [Inhabited Byte]
    (files : Files Name Byte) {stream : Stream Name}
    (idle : stream.writes = false) (bytes : List Byte) :
    (write files stream bytes).2.position = stream.position := by
  unfold write
  split
  · rename_i good
    split
    · rename_i target
      simp [Stream.writes, good, target] at idle
    · split <;> rfl
  · rfl

/-- Writing moves a stream by no more than what is written. -/
theorem write_position_le [DecidableEq Name] [Inhabited Byte]
    (files : Files Name Byte) (stream : Stream Name) (bytes : List Byte) :
    (write files stream bytes).2.position ≤
      stream.position + bytes.length := by
  cases writes : stream.writes with
  | true =>
      obtain ⟨name, _, written⟩ := write_of_writes files writes bytes
      exact Nat.le_of_eq (by rw [written])
  | false =>
      rw [write_idle_position files writes]
      exact Nat.le_add_right _ _

/-- The stored bytes are found at the position. -/
theorem take_drop_storeAt [Inhabited Byte] (content : List Byte)
    (position : Nat) (bytes : List Byte) :
    ((storeAt content position bytes).drop position).take bytes.length =
      bytes := by
  by_cases none : bytes = []
  · subst none
    rfl
  have front : (content.take position ++
      List.replicate (position - content.length) default).length =
        position := by
    rw [List.length_append, List.length_take, List.length_replicate]
    omega
  rw [storeAt, if_neg none, List.append_assoc, List.drop_left' front,
    List.take_left]

/-- The files after a write tell what was written. -/
theorem write_inj [DecidableEq Name] [Inhabited Byte]
    {files : Files Name Byte} {stream : Stream Name}
    (writes : stream.writes = true) {first second : List Byte}
    (length : first.length = second.length)
    (same : (write files stream first).1 = (write files stream second).1) :
    first = second := by
  obtain ⟨name, target, written⟩ := write_of_writes files writes first
  obtain ⟨other, otherTarget, otherWritten⟩ :=
    write_of_writes files writes second
  cases target.symm.trans otherTarget
  have stored : storeAt (contents files name) stream.position first =
      storeAt (contents files name) stream.position second := by
    have here := congrFun same name
    rw [written, otherWritten] at here
    simpa only [Function.update_self, Option.some.injEq] using here
  have front := take_drop_storeAt (contents files name) stream.position first
  rw [stored, length, take_drop_storeAt] at front
  exact front.symm

/-! ## Streams that were never on a file -/

/-- A stream without a file, as calls leave it: nothing has moved it, and
`eofbit` comes with `failbit`. -/
structure Blank (stream : Stream Name) : Prop where
  target : stream.target = none
  position : stream.position = 0
  flags : stream.eof = true → stream.fail = true

theorem blank_unopened : Blank (.unopened : Stream Name) :=
  ⟨rfl, rfl, id⟩

/-- A blank stream has failed, or it is as it was constructed. -/
theorem Blank.eq_unopened {stream : Stream Name} (blank : Blank stream)
    (works : stream.fail = false) : stream = .unopened := by
  obtain ⟨target, position, eof, fail⟩ := stream
  obtain ⟨noTarget, noPosition, flags⟩ := blank
  dsimp only at noTarget noPosition flags works
  subst noTarget noPosition works
  have good : eof = false := Bool.eq_false_iff.mpr fun set => by
    simpa using flags set
  rw [good]
  rfl

/-- A failed stream that is written to stays as it is. -/
theorem write_failed [DecidableEq Name] [Inhabited Byte]
    (files : Files Name Byte) {stream : Stream Name}
    (failed : stream.fail = true) (bytes : List Byte) :
    write files stream bytes = (files, stream) := by
  rw [write, if_neg (by simp [Stream.good, failed]), ← failed]

theorem Blank.read {stream : Stream Name} (blank : Blank stream)
    (files : Files Name Byte) (count : Nat) :
    Blank (FileStream.read files stream count).1 where
  target := (read_target files stream count).trans blank.target
  position := by
    rw [read_position, read_fileless files blank.target, blank.position]
    rfl
  flags := by
    unfold FileStream.read
    split
    · dsimp only
      split
      · exact blank.flags
      · exact fun _ => rfl
    · exact fun _ => rfl

theorem Blank.write [DecidableEq Name] [Inhabited Byte]
    {stream : Stream Name} (blank : Blank stream)
    (files : Files Name Byte) (bytes : List Byte) :
    Blank (FileStream.write files stream bytes).2 := by
  unfold FileStream.write
  split
  · simp only [blank.target]
    split
    · exact blank
    · exact ⟨rfl, blank.position, fun _ => rfl⟩
  · exact ⟨blank.target, blank.position, fun _ => rfl⟩

theorem Blank.seekp {stream : Stream Name} (blank : Blank stream)
    (files : Files Name Byte) (offset : Int) (direction : Direction) :
    Blank (FileStream.seekp files stream offset direction) := by
  unfold FileStream.seekp moveTo
  split
  · exact blank
  · simp only [blank.target]
    exact ⟨rfl, blank.position, fun _ => rfl⟩

theorem Blank.seekg {stream : Stream Name} (blank : Blank stream)
    (files : Files Name Byte) (offset : Int) (direction : Direction) :
    Blank (FileStream.seekg files stream offset direction) := by
  have cleared : Blank { stream with eof := false } :=
    ⟨blank.target, blank.position, nofun⟩
  exact cleared.seekp files offset direction

theorem Blank.tellg {stream : Stream Name} (blank : Blank stream) :
    Blank (FileStream.tellg stream).1 := by
  unfold FileStream.tellg
  split
  · simp only [blank.target]
    exact blank
  · exact ⟨blank.target, blank.position, fun _ => rfl⟩

/-! ## What an operation depends on -/

/-- The file that the stream is on is the same in both. -/
def AgreeThrough (stream : Stream Name) (left right : Files Name Byte) :
    Prop :=
  ∀ on ∈ stream.target, right on.1 = left on.1

section Dependence

variable {stream : Stream Name} {left right : Files Name Byte}

theorem AgreeThrough.refl (stream : Stream Name) (files : Files Name Byte) :
    AgreeThrough stream files files :=
  fun _ _ => rfl

theorem AgreeThrough.contents {name : Name} {mode : OpenMode}
    (agree : AgreeThrough stream left right)
    (target : stream.target = some (name, mode)) :
    FileStream.contents right name = FileStream.contents left name := by
  have same : right name = left name := agree (name, mode) target
  rw [FileStream.contents, FileStream.contents, same]

/-- A read depends on the file that the stream is on. -/
theorem AgreeThrough.read (agree : AgreeThrough stream left right)
    (count : Nat) :
    FileStream.read right stream count =
      FileStream.read left stream count := by
  have same : available right stream = available left stream := by
    unfold available
    split
    · rename_i name target
      rw [agree.contents target]
    · rfl
  unfold FileStream.read
  rw [same]

/-- So does a write, which leaves the files alike. -/
theorem AgreeThrough.write [DecidableEq Name] [Inhabited Byte]
    (agree : AgreeThrough stream left right) (bytes : List Byte) :
    (FileStream.write right stream bytes).2 =
        (FileStream.write left stream bytes).2 ∧
      AgreeThrough (FileStream.write left stream bytes).2
        (FileStream.write left stream bytes).1
        (FileStream.write right stream bytes).1 := by
  have targets := write_target left stream bytes
  unfold AgreeThrough
  rw [targets]
  unfold FileStream.write
  split
  · cases target : stream.target with
    | none =>
        dsimp only
        split <;> exact ⟨rfl, nofun⟩
    | some on =>
        obtain ⟨name, mode⟩ := on
        have same : right name = left name := agree (name, mode) target
        cases mode with
        | input =>
            dsimp only
            split <;>
            · refine ⟨rfl, ?_⟩
              rintro _ ⟨⟩
              exact same
        | output =>
            dsimp only
            refine ⟨rfl, ?_⟩
            rintro _ ⟨⟩
            rw [Function.update_self, Function.update_self,
              agree.contents target]
  · exact ⟨rfl, agree⟩

/-- A move needs the length of the file. -/
theorem AgreeThrough.moveTo (agree : AgreeThrough stream left right)
    (offset : Int) (direction : Direction) :
    FileStream.moveTo right stream offset direction =
      FileStream.moveTo left stream offset direction := by
  unfold FileStream.moveTo
  split
  · rfl
  · cases target : stream.target with
    | none => rfl
    | some on =>
        obtain ⟨name, mode⟩ := on
        dsimp only
        rw [agree.contents target]

/-- Seeking in both directions. -/
theorem AgreeThrough.seek (agree : AgreeThrough stream left right)
    (offset : Int) (direction : Direction) :
    seekp right (seekg right stream offset direction) offset direction =
      seekp left (seekg left stream offset direction) offset direction := by
  have cleared : AgreeThrough { stream with eof := false } left right :=
    agree
  have moved : AgreeThrough (seekg left stream offset direction) left
      right := by
    unfold AgreeThrough
    rw [seekg_target]
    exact agree
  have first : seekg right stream offset direction =
      seekg left stream offset direction :=
    cleared.moveTo offset direction
  rw [first]
  exact moved.moveTo offset direction

end Dependence

/-! ## One operation on a stream -/

/-- What an operation on a stream makes of the files and of the stream. -/
inductive Moves [DecidableEq Name] [Inhabited Byte]
    (files : Files Name Byte) (stream : Stream Name) :
    Files Name Byte → Stream Name → Prop
  | kept : Moves files stream files stream
  | read (count : Nat) :
      Moves files stream files (FileStream.read files stream count).1
  | write (bytes : List Byte) :
      Moves files stream (FileStream.write files stream bytes).1
        (FileStream.write files stream bytes).2
  | sought (offset : Int) (direction : Direction) :
      Moves files stream files
        (seekp files (seekg files stream offset direction) offset direction)
  | told : Moves files stream files (tellg stream).1

section Moving

variable [DecidableEq Name] [Inhabited Byte]
variable {files after : Files Name Byte} {stream moved : Stream Name}

/-- No operation takes a stream to another file. -/
theorem Moves.target (moves : Moves files stream after moved) :
    moved.target = stream.target := by
  cases moves with
  | kept => rfl
  | read count => exact read_target files stream count
  | write bytes => exact write_target files stream bytes
  | sought offset direction => rw [seekp_target, seekg_target]
  | told => exact tellg_target stream

/-- An operation changes at most the file that the stream is on. -/
theorem Moves.other (moves : Moves files stream after moved) {other : Name}
    (different : ∀ mode, stream.target ≠ some (other, mode)) :
    after other = files other := by
  cases moves with
  | write bytes => exact write_other files (different .output) bytes
  | kept => rfl
  | read count => rfl
  | sought offset direction => rfl
  | told => rfl

theorem Moves.blank (moves : Moves files stream after moved)
    (blank : Blank stream) : Blank moved := by
  cases moves with
  | kept => exact blank
  | read count => exact blank.read files count
  | write bytes => exact blank.write files bytes
  | sought offset direction =>
      exact (blank.seekg files offset direction).seekp files offset direction
  | told => exact blank.tellg

end Moving

end Operations

end FileStream
