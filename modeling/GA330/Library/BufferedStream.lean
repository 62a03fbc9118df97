import GA330.Library.FileStream

/-!
# Streams with a buffer

A file stream has a buffer.  When it reads, the buffer holds bytes of the file
from the position on, as the file was when they were read.  When it writes, the
buffer holds bytes that the host has not been handed yet.  How far a stream reads
ahead, how soon it hands bytes on and whether the host then stores them, is left
to chance.
-/

namespace BufferedStream

open FileStream

/-- A file stream and its buffer, which starts at the position. -/
structure Buffered (Name : Type u) (Byte : Type v) where
  stream : Stream Name
  buffer : List Byte
  deriving DecidableEq

/-- What is left to chance in an operation: how much a read keeps in the buffer,
how much of the buffer is handed on, and what the file holds when the host does
not store that. -/
structure Chance (Byte : Type v) where
  ahead : Nat
  handed : Nat
  failure : Option (List Byte)
  deriving DecidableEq

section Operations

variable {Name : Type u} {Byte : Type v}

namespace Buffered

/-- A stream that was constructed without a file. -/
def unopened : Buffered Name Byte := ⟨.unopened, []⟩

/-- A stream that was just opened on a file. -/
def opened (name : Name) (mode : OpenMode) : Buffered Name Byte :=
  ⟨.opened name mode, []⟩

/-- The stream as if it had no buffer: bytes that were written are behind
it. -/
def seen (buffered : Buffered Name Byte) : Stream Name :=
  match buffered.stream.target with
  | some (_, .output) =>
      { buffered.stream with
        position := buffered.stream.position + buffered.buffer.length }
  | _ => buffered.stream

/-- The stream behind the first bytes of the buffer. -/
def behind (buffered : Buffered Name Byte) (count : Nat) :
    Buffered Name Byte :=
  ⟨{ buffered.stream with
      position :=
        buffered.stream.position + (buffered.buffer.take count).length },
    buffered.buffer.drop count⟩

/-- The stream, failed. -/
def failed (buffered : Buffered Name Byte) : Buffered Name Byte :=
  ⟨{ buffered.stream with fail := true }, buffered.buffer⟩

end Buffered

/-- Bytes that can be read: those in the buffer, and behind them those of the
file. -/
def available (files : Files Name Byte) (buffered : Buffered Name Byte) :
    List Byte :=
  match buffered.stream.target with
  | some (name, .input) =>
      buffered.buffer ++ (contents files name).drop
        (buffered.stream.position + buffered.buffer.length)
  | _ => []

/-- Hand the first bytes of the buffer to the host, which stores them or fails
the stream. -/
def hand [DecidableEq Name] [Inhabited Byte] (files : Files Name Byte)
    (buffered : Buffered Name Byte) (count : Nat)
    (failure : Option (List Byte)) :
    Files Name Byte × Buffered Name Byte :=
  match buffered.stream.target with
  | some (name, .output) =>
      let bytes := buffered.buffer.take count
      if bytes = [] then (files, buffered)
      else
        match failure with
        | none =>
            (Function.update files name (some (storeAt
                (contents files name) buffered.stream.position bytes)),
              buffered.behind count)
        | some content =>
            (Function.update files name (some content), buffered.failed)
  | _ => (files, buffered)

/-- `read(data, count)`: the delivered bytes.  The buffer keeps what is left in
it, or more. -/
def read [DecidableEq Name] [Inhabited Byte] (files : Files Name Byte)
    (buffered : Buffered Name Byte) (count : Nat) (chance : Chance Byte) :
    (Files Name Byte × Buffered Name Byte) × List Byte :=
  if buffered.stream.good then
    let delivered := (available files buffered).take count
    let left := (available files buffered).drop count
    let short := decide (delivered.length ≠ count)
    match buffered.stream.target with
    | some (name, .output) =>
        -- what was written is handed on before the stream turns to reading
        let (after, kept) :=
          hand files buffered chance.handed chance.failure
        ((after, ⟨⟨some (name, .output), kept.stream.position, short, short⟩,
          kept.buffer⟩), [])
    | target =>
        ((files, ⟨⟨target, buffered.stream.position + delivered.length,
            short, short⟩,
          left.take (max (buffered.buffer.length - count) chance.ahead)⟩),
          delivered)
  else ((files, buffered.failed), [])

/-- `write(data, count)` -/
def write [DecidableEq Name] [Inhabited Byte] (files : Files Name Byte)
    (buffered : Buffered Name Byte) (bytes : List Byte)
    (chance : Chance Byte) : Files Name Byte × Buffered Name Byte :=
  if buffered.stream.good then
    match buffered.stream.target with
    | some (_, .output) =>
        hand files ⟨buffered.stream, buffered.buffer ++ bytes⟩ chance.handed
          chance.failure
    | _ =>
        if bytes = [] then (files, buffered) else (files, buffered.failed)
  else (files, buffered.failed)

/-- Move the joint position; unless it is asked to stay, the stream hands on
what was written and forgets what it has read ahead. -/
def moveTo [DecidableEq Name] [Inhabited Byte] (files : Files Name Byte)
    (buffered : Buffered Name Byte) (offset : Int) (direction : Direction)
    (chance : Chance Byte) : Files Name Byte × Buffered Name Byte :=
  if buffered.stream.fail then (files, buffered)
  else if direction = .cur ∧ offset = 0 then
    (files, ⟨FileStream.moveTo files buffered.stream offset direction,
      buffered.buffer⟩)
  else
    let (after, kept) :=
      hand files buffered buffered.buffer.length chance.failure
    if kept.stream.fail then (after, kept)
    else
      (after, ⟨FileStream.moveTo after kept.stream offset direction, []⟩)

/-- `seekg(offset, direction)`: clears the end-of-file flag first. -/
def seekg [DecidableEq Name] [Inhabited Byte] (files : Files Name Byte)
    (buffered : Buffered Name Byte) (offset : Int) (direction : Direction)
    (chance : Chance Byte) : Files Name Byte × Buffered Name Byte :=
  moveTo files ⟨{ buffered.stream with eof := false }, buffered.buffer⟩ offset
    direction chance

/-- `seekp(offset, direction)` -/
def seekp [DecidableEq Name] [Inhabited Byte] (files : Files Name Byte)
    (buffered : Buffered Name Byte) (offset : Int) (direction : Direction)
    (chance : Chance Byte) : Files Name Byte × Buffered Name Byte :=
  moveTo files buffered offset direction chance

/-- `tellg()`: the position, or -1. -/
def tellg (buffered : Buffered Name Byte) : Buffered Name Byte × Int :=
  let (told, position) := FileStream.tellg buffered.seen
  (⟨{ buffered.stream with fail := told.fail }, buffered.buffer⟩, position)

/-- `close()`: what is left is handed on. -/
def close [DecidableEq Name] [Inhabited Byte] (files : Files Name Byte)
    (buffered : Buffered Name Byte) (chance : Chance Byte) :
    Files Name Byte :=
  (hand files buffered buffered.buffer.length chance.failure).1

/-! ## The buffer as it is seen -/

section Views

variable {buffered : Buffered Name Byte} {name : Name}

@[simp] theorem seen_target (buffered : Buffered Name Byte) :
    buffered.seen.target = buffered.stream.target := by
  unfold Buffered.seen
  split <;> rfl

@[simp] theorem seen_good (buffered : Buffered Name Byte) :
    buffered.seen.good = buffered.stream.good := by
  unfold Buffered.seen
  split <;> rfl

@[simp] theorem seen_fail (buffered : Buffered Name Byte) :
    buffered.seen.fail = buffered.stream.fail := by
  unfold Buffered.seen
  split <;> rfl

@[simp] theorem seen_eof (buffered : Buffered Name Byte) :
    buffered.seen.eof = buffered.stream.eof := by
  unfold Buffered.seen
  split <;> rfl

theorem seen_output (target : buffered.stream.target = some (name, .output)) :
    buffered.seen = { buffered.stream with
      position := buffered.stream.position + buffered.buffer.length } := by
  simp only [Buffered.seen, target]

theorem seen_of_not_output
    (notOutput : ∀ name, buffered.stream.target ≠ some (name, .output)) :
    buffered.seen = buffered.stream := by
  unfold Buffered.seen
  split
  · rename_i name target
    exact absurd target (notOutput name)
  · rfl

/-- Bytes that are handed on stay written. -/
theorem seen_behind (target : buffered.stream.target = some (name, .output))
    (count : Nat) : (buffered.behind count).seen = buffered.seen := by
  have moved : buffered.stream.position +
      (buffered.buffer.take count).length +
        (buffered.buffer.drop count).length =
      buffered.stream.position + buffered.buffer.length := by
    rw [List.length_take, List.length_drop]
    omega
  have sameTarget : (buffered.behind count).stream.target =
      some (name, .output) := target
  rw [seen_output sameTarget, seen_output target]
  dsimp only [Buffered.behind]
  rw [moved]

/-- The flags are seen as they are. -/
theorem seen_flagged (buffered : Buffered Name Byte) (eof fail : Bool) :
    (⟨{ buffered.stream with eof := eof, fail := fail },
        buffered.buffer⟩ : Buffered Name Byte).seen =
      { buffered.seen with eof := eof, fail := fail } := by
  unfold Buffered.seen
  dsimp only
  split <;> rfl

theorem seen_failed (buffered : Buffered Name Byte) :
    buffered.failed.seen = { buffered.seen with fail := true } := by
  rw [Buffered.failed, seen_flagged, ← seen_eof]

/-- Without a buffer there is nothing to look through. -/
@[simp] theorem seen_empty (stream : Stream Name) :
    (⟨stream, []⟩ : Buffered Name Byte).seen = stream := by
  unfold Buffered.seen
  split <;> rfl

/-- A stream that was just opened looks like that. -/
theorem seen_opened (name : Name) (mode : OpenMode) :
    (Buffered.opened name mode : Buffered Name Byte).seen =
      .opened name mode := by
  cases mode <;> rfl

/-- Telling the position changes neither position nor buffer. -/
theorem seen_tellg (buffered : Buffered Name Byte) :
    FileStream.tellg buffered.seen =
      ((BufferedStream.tellg buffered).1.seen,
        (BufferedStream.tellg buffered).2) := by
  have kept : (FileStream.tellg buffered.seen).1 =
      { buffered.seen with
        fail := (FileStream.tellg buffered.seen).1.fail } := by
    unfold FileStream.tellg
    split
    · split <;> rfl
    · rfl
  have flagged := seen_flagged buffered buffered.stream.eof
    (FileStream.tellg buffered.seen).1.fail
  refine Prod.ext ((kept.trans ?_).trans flagged.symm) rfl
  simp only [seen_eof]

end Views

/-! ## Handing on -/

section Handing

variable [DecidableEq Name] [Inhabited Byte]
variable {files : Files Name Byte} {buffered : Buffered Name Byte}
variable {count : Nat} {failure : Option (List Byte)}

/-- Nothing is handed on, or bytes are stored, or the host does not store
them. -/
theorem hand_cases (files : Files Name Byte)
    (buffered : Buffered Name Byte) (count : Nat)
    (failure : Option (List Byte)) :
    ((∀ name, buffered.stream.target = some (name, .output) →
          buffered.buffer.take count = []) ∧
        hand files buffered count failure = (files, buffered)) ∨
      ∃ name, buffered.stream.target = some (name, .output) ∧
        buffered.buffer.take count ≠ [] ∧
        ((failure = none ∧
            hand files buffered count failure =
              (Function.update files name (some (storeAt
                  (contents files name) buffered.stream.position
                    (buffered.buffer.take count))),
                buffered.behind count)) ∨
          ∃ content, failure = some content ∧
            hand files buffered count failure =
              (Function.update files name (some content),
                buffered.failed)) := by
  unfold hand
  split
  · rename_i name target
    dsimp only
    split
    · rename_i nothing
      exact .inl ⟨fun _ _ => nothing, rfl⟩
    · rename_i handed
      refine .inr ⟨name, target, handed, ?_⟩
      cases failure with
      | none => exact .inl ⟨rfl, rfl⟩
      | some content => exact .inr ⟨content, rfl, rfl⟩
  · rename_i notOutput
    exact .inl ⟨fun name target => absurd target (notOutput name), rfl⟩

theorem hand_target (files : Files Name Byte)
    (buffered : Buffered Name Byte) (count : Nat)
    (failure : Option (List Byte)) :
    (hand files buffered count failure).2.stream.target =
      buffered.stream.target := by
  rcases hand_cases files buffered count failure with
    ⟨_, same⟩ | ⟨name, _, _, ⟨_, stored⟩ | ⟨content, _, lost⟩⟩
  · rw [same]
  · rw [stored]
    rfl
  · rw [lost]
    rfl

/-- Handing on changes at most the file that the stream writes. -/
theorem hand_other {other : Name}
    (different : buffered.stream.target ≠ some (other, .output)) :
    (hand files buffered count failure).1 other = files other := by
  have apart : ∀ name, buffered.stream.target = some (name, .output) →
      other ≠ name := by
    rintro name target rfl
    exact different target
  rcases hand_cases files buffered count failure with
    ⟨_, same⟩ | ⟨name, target, _, ⟨_, stored⟩ | ⟨content, _, lost⟩⟩
  · rw [same]
  · rw [stored]
    exact Function.update_of_ne (apart name target) _ _
  · rw [lost]
    exact Function.update_of_ne (apart name target) _ _

/-- Handing on cannot be seen. -/
theorem hand_seen :
    (hand files buffered count none).2.seen = buffered.seen := by
  rcases hand_cases files buffered count none with
    ⟨_, same⟩ | ⟨name, target, _, ⟨_, stored⟩ | ⟨content, failed, _⟩⟩
  · rw [same]
  · rw [stored]
    exact seen_behind target count
  · contradiction

/-- Once everything is handed on, the stream is where it is seen. -/
theorem hand_all_stream (files : Files Name Byte)
    (buffered : Buffered Name Byte) :
    (hand files buffered buffered.buffer.length none).2.stream =
      buffered.seen := by
  rcases hand_cases files buffered buffered.buffer.length none with
    ⟨nothing, same⟩ | ⟨name, target, _, ⟨_, stored⟩ | ⟨_, failed, _⟩⟩
  · rw [same]
    unfold Buffered.seen
    split
    · rename_i name target
      have empty := nothing name target
      rw [List.take_length] at empty
      rw [empty]
      rfl
    · rfl
  · rw [stored, seen_output target, Buffered.behind, List.take_length]
  · contradiction

end Handing

/-! ## What is delivered and what is stored -/

/-- The bytes that reading a stream would deliver, if there were no end to
it. -/
def upcoming (files : Files Name Byte) (buffered : Buffered Name Byte) :
    List Byte :=
  if buffered.stream.good then available files buffered else []

section Transfers

variable {files : Files Name Byte} {buffered : Buffered Name Byte}
variable {name : Name} {chance : Chance Byte}

variable [DecidableEq Name] [Inhabited Byte]

/-- A read delivers what comes next, up to the size asked for. -/
theorem read_delivers (files : Files Name Byte)
    (buffered : Buffered Name Byte) (count : Nat) (chance : Chance Byte) :
    (read files buffered count chance).2 =
      (upcoming files buffered).take count := by
  unfold read upcoming
  split
  · cases target : buffered.stream.target with
    | none => rfl
    | some on =>
        obtain ⟨name, mode⟩ := on
        cases mode with
        | input => rfl
        | output => simp only [available, target, List.take_nil]
  · rw [List.take_nil]

/-- The file of a stream that is closed, when the host stores what it is
handed. -/
theorem close_stored (stores : chance.failure = none)
    (target : buffered.stream.target = some (name, .output)) :
    close files buffered chance name =
      if buffered.buffer = [] then files name
      else some (storeAt (contents files name) buffered.stream.position
        buffered.buffer) := by
  rw [close, stores]
  rcases hand_cases files buffered buffered.buffer.length none with
    ⟨nothing, same⟩ | ⟨other, otherTarget, some, ⟨_, stored⟩ |
      ⟨_, failed, _⟩⟩
  · have empty := nothing name target
    rw [List.take_length] at empty
    rw [same, if_pos empty]
  · cases target.symm.trans otherTarget
    rw [List.take_length] at some
    rw [stored, List.take_length, if_neg some]
    exact Function.update_self _ _ _
  · contradiction

/-- A stream that cannot be written to is not moved. -/
theorem write_idle (idle : buffered.stream.writes = false)
    (bytes : List Byte) :
    (write files buffered bytes chance).2.seen.position =
      buffered.seen.position := by
  unfold write
  split
  · rename_i good
    split
    · rename_i target
      simp [Stream.writes, good, target] at idle
    · split
      · rfl
      · rw [seen_failed]
  · rw [seen_failed]

end Transfers

/-! ## What no operation changes -/

/-- A stream stays on its file, and only the file that it writes changes. -/
structure Keeps (files : Files Name Byte) (buffered : Buffered Name Byte)
    (after : Files Name Byte) (moved : Buffered Name Byte) : Prop where
  target : moved.stream.target = buffered.stream.target
  other : ∀ name, buffered.stream.target ≠ some (name, .output) →
    after name = files name

section Keeping

variable {files after : Files Name Byte} {buffered : Buffered Name Byte}

theorem Keeps.of_target {moved : Buffered Name Byte}
    (target : moved.stream.target = buffered.stream.target) :
    Keeps files buffered files moved :=
  ⟨target, fun _ _ => rfl⟩

theorem Keeps.trans {moved last : Buffered Name Byte}
    {final : Files Name Byte} (first : Keeps files buffered after moved)
    (second : Keeps after moved final last) :
    Keeps files buffered final last where
  target := second.target.trans first.target
  other := by
    intro name different
    rw [second.other name (by rwa [first.target]), first.other name different]

variable [DecidableEq Name] [Inhabited Byte]

theorem keeps_hand (files : Files Name Byte)
    (buffered : Buffered Name Byte) (count : Nat)
    (failure : Option (List Byte)) :
    Keeps files buffered (hand files buffered count failure).1
      (hand files buffered count failure).2 :=
  ⟨hand_target files buffered count failure, fun _ => hand_other⟩

theorem keeps_read (files : Files Name Byte)
    (buffered : Buffered Name Byte) (count : Nat) (chance : Chance Byte) :
    Keeps files buffered (read files buffered count chance).1.1
      (read files buffered count chance).1.2 := by
  unfold read
  split
  · cases target : buffered.stream.target with
    | none => exact .of_target target.symm
    | some on =>
        obtain ⟨name, mode⟩ := on
        cases mode with
        | input => exact .of_target target.symm
        | output => exact ⟨target.symm, fun _ => hand_other⟩
  · exact .of_target rfl

theorem keeps_write (files : Files Name Byte)
    (buffered : Buffered Name Byte) (bytes : List Byte)
    (chance : Chance Byte) :
    Keeps files buffered (write files buffered bytes chance).1
      (write files buffered bytes chance).2 := by
  unfold write
  split
  · split
    · have kept := keeps_hand files
        ⟨buffered.stream, buffered.buffer ++ bytes⟩ chance.handed
        chance.failure
      exact ⟨kept.target, kept.other⟩
    · split
      · exact .of_target rfl
      · exact .of_target rfl
  · exact .of_target rfl

theorem keeps_moveTo (files : Files Name Byte)
    (buffered : Buffered Name Byte) (offset : Int) (direction : Direction)
    (chance : Chance Byte) :
    Keeps files buffered
      (moveTo files buffered offset direction chance).1
      (moveTo files buffered offset direction chance).2 := by
  unfold moveTo
  split
  · exact .of_target rfl
  · split
    · exact .of_target (moveTo_target _ _ _ _)
    · have handed := keeps_hand files buffered buffered.buffer.length
        chance.failure
      dsimp only
      split
      · exact handed
      · exact ⟨(moveTo_target _ _ _ _).trans handed.target, handed.other⟩

theorem keeps_seek (files : Files Name Byte)
    (buffered : Buffered Name Byte) (offset : Int) (direction : Direction)
    (chance : Chance Byte) :
    let first := seekg files buffered offset direction chance
    let second := seekp first.1 first.2 offset direction chance
    Keeps files buffered second.1 second.2 := by
  intro first second
  have cleared := keeps_moveTo files
    ⟨{ buffered.stream with eof := false }, buffered.buffer⟩ offset
    direction chance
  have moved : Keeps files buffered first.1 first.2 :=
    ⟨cleared.target, cleared.other⟩
  exact moved.trans (keeps_moveTo _ _ offset direction chance)

end Keeping

/-! ## What an operation depends on -/

section Dependence

variable {left right : Files Name Byte} {buffered : Buffered Name Byte}

theorem agree_available (agree : AgreeThrough buffered.stream left right) :
    available right buffered = available left buffered := by
  unfold available
  split
  · rename_i name target
    rw [agree.contents target]
  · rfl

variable [DecidableEq Name] [Inhabited Byte]

/-- Handing on depends on the file that the stream is on, which stays the same
in both. -/
theorem agree_hand (agree : AgreeThrough buffered.stream left right)
    (count : Nat) (failure : Option (List Byte)) :
    (hand right buffered count failure).2 =
        (hand left buffered count failure).2 ∧
      AgreeThrough buffered.stream (hand left buffered count failure).1
        (hand right buffered count failure).1 := by
  unfold hand
  cases target : buffered.stream.target with
  | none => exact ⟨rfl, agree⟩
  | some on =>
      obtain ⟨name, mode⟩ := on
      cases mode with
      | input => exact ⟨rfl, agree⟩
      | output =>
          dsimp only
          split
          · exact ⟨rfl, agree⟩
          · cases failure with
            | none =>
                refine ⟨rfl, ?_⟩
                intro on present
                rw [target] at present
                cases present
                dsimp only
                rw [Function.update_self, Function.update_self,
                  agree.contents target]
            | some content =>
                refine ⟨rfl, ?_⟩
                intro on present
                rw [target] at present
                cases present
                dsimp only
                rw [Function.update_self, Function.update_self]

theorem agree_read (agree : AgreeThrough buffered.stream left right)
    (count : Nat) (chance : Chance Byte) :
    (read right buffered count chance).2 =
        (read left buffered count chance).2 ∧
      (read right buffered count chance).1.2 =
        (read left buffered count chance).1.2 ∧
      AgreeThrough buffered.stream (read left buffered count chance).1.1
        (read right buffered count chance).1.1 := by
  obtain ⟨sameKept, agreeAfter⟩ :=
    agree_hand agree chance.handed chance.failure
  unfold read
  rw [agree_available agree]
  split
  · cases target : buffered.stream.target with
    | none => exact ⟨rfl, rfl, agree⟩
    | some on =>
        obtain ⟨name, mode⟩ := on
        cases mode with
        | input => exact ⟨rfl, rfl, agree⟩
        | output =>
            dsimp only
            rw [sameKept]
            exact ⟨rfl, rfl, agreeAfter⟩
  · exact ⟨rfl, rfl, agree⟩

theorem agree_write (agree : AgreeThrough buffered.stream left right)
    (bytes : List Byte) (chance : Chance Byte) :
    (write right buffered bytes chance).2 =
        (write left buffered bytes chance).2 ∧
      AgreeThrough buffered.stream (write left buffered bytes chance).1
        (write right buffered bytes chance).1 := by
  unfold write
  split
  · split
    · have extended : AgreeThrough
          (⟨buffered.stream, buffered.buffer ++ bytes⟩ :
            Buffered Name Byte).stream left right := agree
      exact agree_hand extended chance.handed chance.failure
    · split
      · exact ⟨rfl, agree⟩
      · exact ⟨rfl, agree⟩
  · exact ⟨rfl, agree⟩

theorem agree_moveTo (agree : AgreeThrough buffered.stream left right)
    (offset : Int) (direction : Direction) (chance : Chance Byte) :
    (moveTo right buffered offset direction chance).2 =
        (moveTo left buffered offset direction chance).2 ∧
      AgreeThrough buffered.stream
        (moveTo left buffered offset direction chance).1
        (moveTo right buffered offset direction chance).1 := by
  unfold moveTo
  split
  · exact ⟨rfl, agree⟩
  · split
    · rw [agree.moveTo]
      exact ⟨rfl, agree⟩
    · obtain ⟨sameKept, agreeAfter⟩ :=
        agree_hand agree buffered.buffer.length chance.failure
      have target := hand_target left buffered buffered.buffer.length
        chance.failure
      dsimp only
      rw [sameKept]
      split
      · exact ⟨rfl, agreeAfter⟩
      · have keptAgree : AgreeThrough
            (hand left buffered buffered.buffer.length
              chance.failure).2.stream
            (hand left buffered buffered.buffer.length chance.failure).1
            (hand right buffered buffered.buffer.length
              chance.failure).1 := by
          unfold AgreeThrough
          rw [target]
          exact agreeAfter
        rw [keptAgree.moveTo]
        exact ⟨rfl, agreeAfter⟩

theorem agree_seek (agree : AgreeThrough buffered.stream left right)
    (offset : Int) (direction : Direction) (chance : Chance Byte) :
    let first := seekg left buffered offset direction chance
    let second := seekp first.1 first.2 offset direction chance
    let other := seekg right buffered offset direction chance
    let last := seekp other.1 other.2 offset direction chance
    last.2 = second.2 ∧
      AgreeThrough buffered.stream second.1 last.1 := by
  intro first second other last
  have cleared : AgreeThrough
      (⟨{ buffered.stream with eof := false }, buffered.buffer⟩ :
        Buffered Name Byte).stream left right := agree
  obtain ⟨sameFirst, agreeFirst⟩ :=
    agree_moveTo cleared offset direction chance
  have target : first.2.stream.target = buffered.stream.target :=
    (keeps_moveTo left ⟨{ buffered.stream with eof := false },
      buffered.buffer⟩ offset direction chance).target
  have movedAgree : AgreeThrough first.2.stream first.1 other.1 := by
    unfold AgreeThrough
    rw [target]
    exact agreeFirst
  have sameOther : other.2 = first.2 := sameFirst
  obtain ⟨sameLast, agreeLast⟩ :=
    agree_moveTo movedAgree offset direction chance
  refine ⟨?_, ?_⟩
  · change (moveTo other.1 other.2 offset direction chance).2 = _
    rw [sameOther]
    exact sameLast
  · change AgreeThrough _ _ (moveTo other.1 other.2 offset direction chance).1
    rw [sameOther]
    unfold AgreeThrough at agreeLast ⊢
    rwa [target] at agreeLast

end Dependence
end Operations

end BufferedStream
