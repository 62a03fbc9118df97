import GA330.Host.RoundTrip

/-!
# Seeking and telling

`seek_file` moves the joint position of a stream twice, once for reading and
once for writing.  A relative seek therefore moves twice as far as it should.
The state flags of the stream are never cleared: once a read was short or a
seek went below zero, the handle stays where it is and delivers nothing.
-/

namespace GA330
namespace Host

open ByteMemory FileStream

/-! ## Where a handle is -/

/-- A handle is open on a file with the given contents, at a position, and its
stream has no flag set. -/
structure OpenAt (name : HostName) (mode : OpenMode) (h : Int)
    (content : List Byte) (position : Nat) (fs : Filesystem) : Prop where
  file : contents fs.files name = content
  entry : fs.openFiles h = some ⟨some (name, mode), position, false, false⟩

/-- A handle whose stream has failed. -/
structure FailedAt (h : Int) (fs : Filesystem) : Prop where
  failed : (fs.entry h).fail = true

/-- A call delivers bytes at its buffer address. -/
def FileCall.Delivers (state : FileState) (call : FileCall)
    (bytes : List Byte) : Prop :=
  ∃ answer, (svcFile state call).2 = some answer ∧
    answer.transferred = bytes ∧
    answer.memory.bytes = write call.memory.bytes call.buffer bytes

/-- An `ftell` of a handle. -/
structure FileCall.Tells (h : Int) (call : FileCall) : Prop where
  handler : call.handler = .ftell
  argument : (call.registers 0).toInt = h

/-- An `fseek` of a handle. -/
structure FileCall.Seeks (h : Int) (call : FileCall) : Prop where
  handler : call.handler = .fseek
  argument : (call.registers 0).toInt = h

/-- The guest finds the handle at a position: `ftell` returns it, and an
`fread`, also one after that, delivers the bytes from there on. -/
structure FoundAt (h : Int) (content : List Byte) (position : Int)
    (state : FileState) : Prop where
  tells : ∀ call : FileCall, call.Tells h →
    ∃ answer, (svcFile state call).2 = some answer ∧
      (answer.registers 0).toInt = position
  delivers : ∀ call : FileCall, call.Transfers .fread h →
    call.Delivers state
      ((content.drop position.toNat).take call.total)
  deliversAfter : ∀ tell call : FileCall, tell.Tells h →
    call.Transfers .fread h →
      call.Delivers (svcFile state tell).1
        ((content.drop position.toNat).take call.total)

section Handles

variable {name : HostName} {mode : OpenMode} {h : Int}
variable {content : List Byte} {position : Nat} {state : FileState}
variable {call : FileCall}

theorem OpenAt.entry_eq {fs : Filesystem}
    (openAt : OpenAt name mode h content position fs) :
    fs.entry h = ⟨some (name, mode), position, false, false⟩ := by
  rw [Filesystem.entry, openAt.entry, Option.getD_some]

/-- Storing a stream of the same file at another position. -/
theorem OpenAt.moved {fs : Filesystem}
    (openAt : OpenAt name mode h content position fs) (moved : Nat) :
    OpenAt name mode h content moved
      (fs.setEntry h ⟨some (name, mode), moved, false, false⟩) where
  file := openAt.file
  entry := Function.update_self _ _ _

/-- Storing the stream that is there changes nothing. -/
theorem OpenAt.setEntry_self {fs : Filesystem}
    (openAt : OpenAt name mode h content position fs) :
    fs.setEntry h ⟨some (name, mode), position, false, false⟩ = fs :=
  Filesystem.setEntry_present openAt.entry

/-- An `ftell` returns the position as an `int` and changes nothing. -/
theorem OpenAt.ftell
    (openAt : OpenAt name mode h content position state.filesystem)
    (tells : call.Tells h) :
    (svcFile state call).1 = state ∧
      ∃ answer, (svcFile state call).2 = some answer ∧
        (answer.registers 0).toInt = (position : Int).bmod (2 ^ 32) := by
  have told : state.filesystem.tellFile h =
      (state.filesystem, (position : Int).bmod (2 ^ 32)) := by
    rw [Filesystem.tellFile, openAt.entry_eq, tellg_good rfl rfl]
    dsimp only
    rw [openAt.setEntry_self]
  simp only [svcFile, tells.handler, svcFtell, tells.argument, told]
  refine ⟨trivial, _, rfl, ?_⟩
  rw [FileCall.returning_result, BitVec.toInt_ofInt, Int.bmod_bmod]

/-- A failed handle is told to be at -1. -/
theorem FailedAt.ftell (failedAt : FailedAt h state.filesystem)
    (tells : call.Tells h) :
    ∃ answer, (svcFile state call).2 = some answer ∧
      (answer.registers 0).toInt = -1 := by
  have told : (state.filesystem.tellFile h).2 = -1 := by
    rw [Filesystem.tellFile, tellg_failed failedAt.failed]
    rfl
  simp only [svcFile, tells.handler, svcFtell, tells.argument, told]
  refine ⟨_, rfl, ?_⟩
  rw [FileCall.returning_result]
  rfl

/-- The bytes that a handle gives to an `fread`: those from its position on, if
it was opened for reading. -/
def readable (mode : OpenMode) (content : List Byte) (position : Nat) :
    List Byte :=
  match mode with
  | .input => content.drop position
  | .output => []

/-- An `fread` delivers the bytes from the position on. -/
theorem OpenAt.delivers
    (openAt : OpenAt name mode h content position state.filesystem)
    (transfers : call.Transfers .fread h) :
    call.Delivers state
      ((readable mode content position).take call.total) := by
  have delivered : (state.filesystem.readFile h call.total).2 =
      (readable mode content position).take call.total := by
    have target : (state.filesystem.entry h).target = some (name, mode) := by
      rw [openAt.entry_eq]
    cases mode with
    | input =>
        rw [Filesystem.readFile, readable, ← openAt.file]
        refine (read_input ?_ target _).trans ?_
        · rw [openAt.entry_eq]
          rfl
        · rw [openAt.entry_eq]
    | output =>
        rw [readable, List.take_nil]
        exact read_output _ target _
  obtain ⟨_, answer, answered, transferred, stored⟩ :=
    transfers.fread state
  rw [delivered] at transferred
  rw [transferred] at stored
  exact ⟨answer, answered, transferred, stored⟩

/-- The position that a seek asks for. -/
def FileCall.asked (call : FileCall) (content : List Byte)
    (position : Nat) (dir : Direction) : Int :=
  base content position dir + call.offset

/-- The position that the second of the two moves of a seek goes to. -/
def FileCall.landing (call : FileCall) (content : List Byte)
    (position : Nat) (dir : Direction) : Int :=
  base content (call.asked content position dir).toNat dir + call.offset

/-- The file table after an `fseek`. -/
theorem FileCall.Seeks.result (seeks : call.Seeks h) :
    (svcFile state call).1.filesystem =
        state.filesystem.seekFile h call.offset (call.registers 2).toInt ∧
      ∃ answer, (svcFile state call).2 = some answer ∧
        answer.registers 0 = 0 := by
  simp only [svcFile, seeks.handler, svcFseek, seeks.argument]
  exact ⟨rfl, _, rfl, FileCall.returning_result call 0⟩

/-- The first move of a seek. -/
theorem OpenAt.firstMove
    (openAt : OpenAt name mode h content position state.filesystem)
    {dir : Direction} (first : 0 ≤ call.asked content position dir) :
    seekg state.filesystem.files (state.filesystem.entry h) call.offset
        dir =
      ⟨some (name, mode), (call.asked content position dir).toNat, false,
        false⟩ := by
  rw [openAt.entry_eq, seekg, moveTo_nonnegative rfl rfl]
  · rw [openAt.file]
    rfl
  · rw [openAt.file]
    exact first

/-- A seek goes to where its second move ends, when neither move leads below
zero. -/
theorem OpenAt.seek
    (openAt : OpenAt name mode h content position state.filesystem)
    (seeks : call.Seeks h) {dir : Direction}
    (directed : call.direction = some dir)
    (first : 0 ≤ call.asked content position dir)
    (second : 0 ≤ call.landing content position dir) :
    OpenAt name mode h content (call.landing content position dir).toNat
      (svcFile state call).1.filesystem := by
  have landed : seekp state.filesystem.files
      ⟨some (name, mode), (call.asked content position dir).toNat, false,
        false⟩ call.offset dir =
        ⟨some (name, mode), (call.landing content position dir).toNat,
          false, false⟩ := by
    rw [seekp, moveTo_nonnegative rfl rfl]
    · rw [openAt.file]
      rfl
    · rw [openAt.file]
      exact second
  rw [seeks.result.1, Filesystem.seekFile]
  rw [FileCall.direction] at directed
  simp only [directed, openAt.firstMove first, landed]
  exact openAt.moved _

/-- A seek fails the handle when one of its moves leads below zero. -/
theorem OpenAt.seek_failed
    (openAt : OpenAt name mode h content position state.filesystem)
    (seeks : call.Seeks h) {dir : Direction}
    (directed : call.direction = some dir)
    (below : call.asked content position dir < 0 ∨
      call.landing content position dir < 0) :
    FailedAt h (svcFile state call).1.filesystem := by
  constructor
  rw [seeks.result.1, Filesystem.seekFile]
  rw [FileCall.direction] at directed
  simp only [directed, Filesystem.entry_setEntry, if_true]
  by_cases first : call.asked content position dir < 0
  · have failed : (seekg state.filesystem.files (state.filesystem.entry h)
        call.offset dir).fail = true := by
      rw [openAt.entry_eq, seekg]
      refine moveTo_negative rfl ?_
      rw [openAt.file]
      exact first
    exact seekp_failed _ failed _ _
  · have second := below.resolve_left first
    rw [openAt.firstMove (Int.not_lt.mp first), seekp]
    refine moveTo_negative rfl ?_
    rw [openAt.file]
    exact second

/-- A failed handle stays failed when it is sought. -/
theorem FailedAt.seek (failedAt : FailedAt h state.filesystem)
    (seeks : call.Seeks h) :
    FailedAt h (svcFile state call).1.filesystem := by
  constructor
  rw [seeks.result.1, Filesystem.seekFile]
  cases Filesystem.direction (call.registers 2).toInt with
  | none =>
      simp only [Filesystem.entry_setEntry, if_true]
      exact failedAt.failed
  | some dir =>
      simp only [Filesystem.entry_setEntry, if_true]
      exact seekp_failed _ (seekg_failed _ failedAt.failed _ _) _ _

/-- An `ftell` of a failed handle leaves it failed. -/
theorem FailedAt.tell (failedAt : FailedAt h state.filesystem)
    (tells : call.Tells h) :
    FailedAt h (svcFile state call).1.filesystem := by
  constructor
  simp only [svcFile, tells.handler, svcFtell, tells.argument,
    Filesystem.tellFile, tellg_failed failedAt.failed,
    Filesystem.entry_setEntry, if_true]

/-- An `fread` through a handle that is answered. -/
structure FileCall.Reads (h : Int) (call : FileCall) : Prop where
  handler : call.handler = .fread
  argument : (call.registers 3).toInt = h
  nonzero : call.registers 1 ≠ 0

theorem FileCall.Transfers.reads (transfers : call.Transfers .fread h) :
    call.Reads h :=
  ⟨transfers.handler, transfers.argument, transfers.nonzero⟩

/-- The entry of the handle after an `fread`. -/
theorem FileCall.Reads.result (reads : call.Reads h) :
    (svcFile state call).1.filesystem =
      state.filesystem.setEntry h (FileStream.read state.filesystem.files
        (state.filesystem.entry h) call.total).1 := by
  simp only [svcFile, reads.handler, svcFread, reads.argument,
    if_neg reads.nonzero]
  rfl

/-- A read of no more than what is left moves the position. -/
theorem OpenAt.read
    (openAt : OpenAt name .input h content position state.filesystem)
    (reads : call.Reads h)
    (enough : call.total ≤ content.length - position) :
    OpenAt name .input h content (position + call.total)
      (svcFile state call).1.filesystem := by
  have moved : (FileStream.read state.filesystem.files
      (state.filesystem.entry h) call.total).1 =
        ⟨some (name, .input), position + call.total, false, false⟩ := by
    rw [openAt.entry_eq]
    refine read_complete rfl rfl ?_
    rw [openAt.file]
    exact enough
  rw [reads.result, moved]
  exact openAt.moved _

/-- A read of more than what is left fails the handle. -/
theorem OpenAt.read_failed
    (openAt : OpenAt name .input h content position state.filesystem)
    (reads : call.Reads h)
    (short : content.length - position < call.total) :
    FailedAt h (svcFile state call).1.filesystem := by
  constructor
  rw [reads.result, Filesystem.entry_setEntry, if_pos rfl,
    openAt.entry_eq]
  refine read_short rfl ?_
  rw [openAt.file]
  exact short

/-- A failed handle stays failed when it is read. -/
theorem FailedAt.read (failedAt : FailedAt h state.filesystem)
    (reads : call.Reads h) :
    FailedAt h (svcFile state call).1.filesystem := by
  constructor
  rw [reads.result, Filesystem.entry_setEntry, if_pos rfl,
    FileStream.read_failed _ (by simp [Stream.good, failedAt.failed])]

end Handles

/-! ## Finding a handle where it was sought -/

/-- An `ftell` of the handle in a register. -/
def tellProbe (handle : Word) : FileCall where
  handler := .ftell
  registers := fun _ => handle
  memory := ⟨fun _ => 0, fun _ => true⟩
  granted := false
  garbage := fun _ => 0
  garbageW := fun _ => 0
  fresh := fun _ => 0

/-- An `fread` of one byte through the handle in a register. -/
def readProbe (handle : Word) : FileCall where
  handler := .fread
  registers := fun index => if index.val = 3 then handle else 1
  memory := ⟨fun _ => 0, fun _ => true⟩
  granted := false
  garbage := fun _ => 0
  garbageW := fun _ => 0
  fresh := fun _ => 0

theorem tellProbe_tells {handle : Word} {h : Int}
    (argument : handle.toInt = h) : (tellProbe handle).Tells h :=
  ⟨rfl, argument⟩

theorem readProbe_transfers {handle : Word} {h : Int}
    (argument : handle.toInt = h) :
    (readProbe handle).Transfers .fread h where
  handler := rfl
  argument := argument
  size := by
    change 0 < (1 : Word).toNat
    decide
  fits := by
    change (1 : Word).toNat * (1 : Word).toNat < 2 ^ 32
    decide
  mapped := rfl

section Finding

variable {name : HostName} {mode : OpenMode} {h : Int}
variable {content : List Byte} {position : Nat} {state : FileState}

/-- A handle is found where it is, when that is an `int` and it was opened for
reading or is at the end of its file. -/
theorem OpenAt.found
    (openAt : OpenAt name mode h content position state.filesystem)
    (small : position < 2 ^ 31)
    (reading : mode = .input ∨ content.length ≤ position) :
    FoundAt h content position state := by
  have told : (position : Int).bmod (2 ^ 32) = position :=
    Int.bmod_eq_of_le (by omega) (by omega)
  have bytes : readable mode content position = content.drop position := by
    cases mode with
    | input => rfl
    | output =>
        have atEnd := reading.resolve_left (by simp)
        rw [readable, List.drop_of_length_le atEnd]
  constructor
  · intro call tells
    rw [← told]
    exact (openAt.ftell tells).2
  · intro call transfers
    rw [Int.toNat_natCast, ← bytes]
    exact openAt.delivers transfers
  · intro tell call tells transfers
    rw [(openAt.ftell tells).1, Int.toNat_natCast, ← bytes]
    exact openAt.delivers transfers

/-- A handle that is found at a position tells it. -/
theorem FoundAt.told {handle : Word} {target : Int}
    (argument : handle.toInt = h) (foundAt : FoundAt h content target state)
    (openAt : OpenAt name mode h content position state.filesystem) :
    (position : Int).bmod (2 ^ 32) = target := by
  obtain ⟨answer, answered, told⟩ :=
    foundAt.tells _ (tellProbe_tells argument)
  obtain ⟨_, answeredToo, placed⟩ :=
    (openAt.ftell (tellProbe_tells argument)).2
  rw [answered] at answeredToo
  cases answeredToo
  exact placed.symm.trans told

/-- A handle that was opened for writing is found at the end of its file
only. -/
theorem FoundAt.at_end {handle : Word} {target : Int}
    (argument : handle.toInt = h) (foundAt : FoundAt h content target state)
    (openAt : OpenAt name .output h content position state.filesystem) :
    content.length ≤ target.toNat := by
  obtain ⟨answer, answered, delivered, _⟩ :=
    foundAt.delivers _ (readProbe_transfers argument)
  obtain ⟨_, answeredToo, nothing, _⟩ :=
    openAt.delivers (readProbe_transfers argument)
  rw [answered] at answeredToo
  cases answeredToo
  rw [delivered, readable, List.take_nil] at nothing
  have one : (readProbe handle).total = 1 := rfl
  have length := congrArg List.length nothing
  rw [one, List.length_take, List.length_drop, List.length_nil] at length
  omega

/-- A failed handle is found nowhere. -/
theorem FailedAt.not_found {handle : Word} {target : Int}
    (argument : handle.toInt = h) (failedAt : FailedAt h state.filesystem)
    (nonnegative : 0 ≤ target) : ¬ FoundAt h content target state := by
  intro foundAt
  obtain ⟨answer, answered, told⟩ :=
    foundAt.tells _ (tellProbe_tells argument)
  obtain ⟨_, answeredToo, minusOne⟩ :=
    failedAt.ftell (tellProbe_tells argument)
  rw [answered] at answeredToo
  cases answeredToo
  omega

/-! ## One seek -/

variable {call : FileCall} {dir : Direction}

/-- The second move of a seek repeats the first, unless it is relative. -/
theorem FileCall.landing_eq (nonnegative : 0 ≤ call.asked content position dir)
    (absolute : dir ≠ .cur ∨ call.offset = 0) :
    call.landing content position dir = call.asked content position dir := by
  cases dir with
  | beg => rfl
  | «end» => rfl
  | cur =>
      have still := absolute.resolve_left (by simp)
      rw [FileCall.landing, still, base, Int.toNat_of_nonneg nonnegative,
        Int.add_zero]

/-- The second move of a relative seek starts where the first one ended. -/
theorem FileCall.landing_cur
    (nonnegative : 0 ≤ call.asked content position .cur) :
    call.landing content position .cur =
      call.asked content position .cur + call.offset := by
  rw [FileCall.landing, base, Int.toNat_of_nonneg nonnegative]

/-- A relative seek is not found where it was asked for, unless it stays where
it is. -/
theorem FoundAt.offset_eq_zero
    (openAt : OpenAt name mode h content position state.filesystem)
    (seeks : call.Seeks h) (directed : call.direction = some .cur)
    (first : 0 ≤ call.asked content position .cur)
    (foundAt : FoundAt h content (call.asked content position .cur)
      (svcFile state call).1) : call.offset = 0 := by
  by_cases second : 0 ≤ call.landing content position .cur
  · have after := openAt.seek seeks directed first second
    have told := foundAt.told seeks.argument after
    rw [Int.toNat_of_nonneg second, FileCall.landing_cur first,
      Int.bmod_eq_iff (by decide)] at told
    obtain ⟨rounds, difference⟩ := told.2.2
    have below : call.offset < 2 ^ 31 := BitVec.toInt_lt
    have above : -2 ^ 31 ≤ call.offset := BitVec.le_toInt _
    omega
  · have failed := openAt.seek_failed seeks directed
      (.inr (Int.not_le.mp second))
    exact absurd foundAt (failed.not_found seeks.argument first)

/-- After a seek to a position of the file the handle is found there exactly
when the seek is not relative, or stays where it is, and the position is an
`int`; and nothing can be read from a handle that was opened for writing, unless
it is at the end. -/
theorem OpenAt.seek_found_iff
    (openAt : OpenAt name mode h content position state.filesystem)
    (seeks : call.Seeks h) (directed : call.direction = some dir)
    (first : 0 ≤ call.asked content position dir)
    (inFile : call.asked content position dir ≤ content.length) :
    FoundAt h content (call.asked content position dir)
        (svcFile state call).1 ↔
      (dir ≠ .cur ∨ call.offset = 0) ∧
        call.asked content position dir < 2 ^ 31 ∧
        (mode = .input ∨
          call.asked content position dir = content.length) := by
  constructor
  · intro foundAt
    have absolute : dir ≠ .cur ∨ call.offset = 0 := by
      by_cases relative : dir = .cur
      · subst relative
        exact .inr (foundAt.offset_eq_zero openAt seeks directed first)
      · exact .inl relative
    have landing := FileCall.landing_eq first absolute
    have after := openAt.seek seeks directed first
      (by rw [landing]; exact first)
    refine ⟨absolute, ?_, ?_⟩
    · have told := foundAt.told seeks.argument after
      rw [Int.bmod_eq_iff (by decide)] at told
      omega
    · cases mode with
      | input => exact .inl rfl
      | output =>
          have atEnd := foundAt.at_end seeks.argument after
          exact .inr (by omega)
  · rintro ⟨absolute, small, reading⟩
    have landing := FileCall.landing_eq first absolute
    have after := openAt.seek seeks directed first
      (by rw [landing]; exact first)
    rw [landing] at after
    have found := after.found (by omega)
      (reading.imp_right fun atEnd => by omega)
    rwa [Int.toNat_of_nonneg first] at found

end Finding

/-! ## Histories of a handle -/

/-- An answered `fread`, `fseek` or `ftell` of a handle. -/
def FileCall.OnHandle (h : Int) (call : FileCall) : Prop :=
  call.Reads h ∨ call.Seeks h ∨ call.Tells h

/-- Where the C library's file position is after a call. -/
def FileCall.cPosition (content : List Byte) (position : Nat)
    (call : FileCall) : Nat :=
  match call.handler with
  | .fread => position + call.total
  | .fseek =>
      match call.direction with
      | some dir => (call.asked content position dir).toNat
      | none => position
  | _ => position

/-- A read of what is there, a seek inside the file that is not relative, or
an `ftell`. -/
def FileCall.Sound (mode : OpenMode) (h : Int) (content : List Byte)
    (position : Nat) (call : FileCall) : Prop :=
  (call.Reads h ∧ mode = .input ∧
      call.total ≤ content.length - position) ∨
    (call.Seeks h ∧ ∃ dir, call.direction = some dir ∧
      0 ≤ call.asked content position dir ∧
      call.asked content position dir ≤ content.length ∧
      (dir ≠ .cur ∨ call.offset = 0)) ∨
    call.Tells h

/-- Every call of a history is sound at the C library's position. -/
def SoundHistory (mode : OpenMode) (h : Int) (content : List Byte) :
    (position : Nat) → List FileCall → Prop
  | _, [] => True
  | position, call :: rest =>
      call.Sound mode h content position ∧
        SoundHistory mode h content (call.cPosition content position) rest

/-- A call after which the handle has failed: a read of more than is left, or a
seek one of whose moves leads below zero. -/
def FileCall.Spoils (name : HostName) (h : Int) (state : FileState)
    (call : FileCall) : Prop :=
  let content := contents state.filesystem.files name
  let position := (state.filesystem.entry h).position
  (call.Reads h ∧ content.length - position < call.total) ∨
    (call.Seeks h ∧ ∃ dir, call.direction = some dir ∧
      (call.asked content position dir < 0 ∨
        call.landing content position dir < 0))

section Histories

variable {name : HostName} {mode : OpenMode} {h : Int}
variable {content : List Byte} {position : Nat} {state : FileState}
variable {call : FileCall}

/-- A sound call takes the handle where the C library would take it. -/
theorem OpenAt.sound
    (openAt : OpenAt name mode h content position state.filesystem)
    (sound : call.Sound mode h content position) :
    OpenAt name mode h content (call.cPosition content position)
      (svcFile state call).1.filesystem := by
  rcases sound with ⟨reads, rfl, enough⟩ |
    ⟨seeks, dir, directed, first, _, absolute⟩ | tells
  · simp only [FileCall.cPosition, reads.handler]
    exact openAt.read reads enough
  · simp only [FileCall.cPosition, seeks.handler, directed]
    have landing := FileCall.landing_eq first absolute
    have after := openAt.seek seeks directed first
      (by rw [landing]; exact first)
    rwa [landing] at after
  · simp only [FileCall.cPosition, tells.handler]
    rw [(openAt.ftell tells).1]
    exact openAt

/-- A sound history takes the handle where the C library would take it. -/
theorem OpenAt.soundHistory
    (openAt : OpenAt name mode h content position state.filesystem)
    {history : List FileCall}
    (sound : SoundHistory mode h content position history) :
    OpenAt name mode h content
      (history.foldl (FileCall.cPosition content) position)
      (Machine.final svcFile state history).filesystem := by
  induction history generalizing state position with
  | nil => exact openAt
  | cons call rest inductionHypothesis =>
      exact inductionHypothesis (openAt.sound sound.1) sound.2

/-- The handle after a call of a history: open somewhere, or failed. -/
theorem OpenAt.onHandle
    (openAt : OpenAt name .input h content position state.filesystem)
    (onHandle : call.OnHandle h) :
    (¬ call.Spoils name h state → ∃ moved,
        OpenAt name .input h content moved
          (svcFile state call).1.filesystem) ∧
      (call.Spoils name h state →
        FailedAt h (svcFile state call).1.filesystem) := by
  simp only [FileCall.Spoils, openAt.file, openAt.entry_eq]
  constructor
  · intro kept
    rw [not_or] at kept
    rcases onHandle with reads | seeks | tells
    · refine ⟨_, openAt.read reads ?_⟩
      exact Nat.le_of_not_lt fun short => kept.1 ⟨reads, short⟩
    · cases directed : call.direction with
      | none =>
          refine ⟨position, ?_⟩
          rw [FileCall.direction] at directed
          rw [seeks.result.1, Filesystem.seekFile]
          simp only [directed, openAt.entry_eq]
          exact openAt.moved position
      | some dir =>
          have notBelow : ¬ (call.asked content position dir < 0 ∨
              call.landing content position dir < 0) :=
            fun below => kept.2 ⟨seeks, dir, directed, below⟩
          rw [not_or] at notBelow
          exact ⟨_, openAt.seek seeks directed
            (Int.not_lt.mp notBelow.1) (Int.not_lt.mp notBelow.2)⟩
    · refine ⟨position, ?_⟩
      rw [(openAt.ftell tells).1]
      exact openAt
  · rintro (⟨reads, short⟩ | ⟨seeks, dir, directed, below⟩)
    · exact openAt.read_failed reads short
    · exact openAt.seek_failed seeks directed below

/-- A failed handle stays failed through a history. -/
theorem FailedAt.history (failedAt : FailedAt h state.filesystem)
    {history : List FileCall}
    (onHandle : ∀ call ∈ history, call.OnHandle h) :
    FailedAt h (Machine.final svcFile state history).filesystem := by
  induction history generalizing state with
  | nil => exact failedAt
  | cons call rest inductionHypothesis =>
      rw [List.forall_mem_cons] at onHandle
      refine inductionHypothesis ?_ onHandle.2
      rcases onHandle.1 with reads | seeks | tells
      · exact failedAt.read reads
      · exact failedAt.seek seeks
      · exact failedAt.tell tells

/-- After a history the handle is open exactly when no call has spoilt it. -/
theorem OpenAt.history
    (openAt : OpenAt name .input h content position state.filesystem)
    {history : List FileCall}
    (onHandle : ∀ call ∈ history, call.OnHandle h) :
    (Machine.Admissible svcFile
        (fun state call => ¬ call.Spoils name h state) state history →
      ∃ moved, OpenAt name .input h content moved
        (Machine.final svcFile state history).filesystem) ∧
      (¬ Machine.Admissible svcFile
          (fun state call => ¬ call.Spoils name h state) state history →
        FailedAt h (Machine.final svcFile state history).filesystem) := by
  induction history generalizing state position with
  | nil => exact ⟨fun _ => ⟨position, openAt⟩, fun spoilt =>
      absurd trivial spoilt⟩
  | cons call rest inductionHypothesis =>
      rw [List.forall_mem_cons] at onHandle
      obtain ⟨keeps, fails⟩ := openAt.onHandle onHandle.1
      by_cases spoils : call.Spoils name h state
      · exact ⟨fun admissible => absurd spoils admissible.1,
          fun _ => (fails spoils).history onHandle.2⟩
      · obtain ⟨moved, openAfter⟩ := keeps spoils
        obtain ⟨opens, failsLater⟩ :=
          inductionHypothesis openAfter onHandle.2
        exact ⟨fun admissible => opens admissible.2, fun spoilt =>
          failsLater fun admissible => spoilt ⟨spoils, admissible⟩⟩

/-! ## The two laws -/

/-- Seeking and telling, for every handle whose stream has no flag set: sound
histories take it where the C library would, and after a seek it is found at
the position asked for exactly when the seek is sound there, the position is an
`int` and there is something to be read. -/
theorem seek_after_history_iff
    (openAt : OpenAt name mode h content position state.filesystem)
    {history : List FileCall}
    (sound : SoundHistory mode h content position history) :
    OpenAt name mode h content
        (history.foldl (FileCall.cPosition content) position)
        (Machine.final svcFile state history).filesystem ∧
      ∀ (call : FileCall) (dir : Direction),
        call.Seeks h → call.direction = some dir →
          let asked := call.asked content
            (history.foldl (FileCall.cPosition content) position) dir
          0 ≤ asked → asked ≤ content.length →
            (FoundAt h content asked
                (svcFile (Machine.final svcFile state history) call).1 ↔
              (dir ≠ .cur ∨ call.offset = 0) ∧ asked < 2 ^ 31 ∧
                (mode = .input ∨ asked = content.length)) := by
  have after := openAt.soundHistory sound
  refine ⟨after, ?_⟩
  intro call dir seeks directed asked first inFile
  exact after.seek_found_iff seeks directed first inFile

/-- Rewinding a handle that was opened for reading: after any history of calls
on it, seeking to a position of the file reports success, and the handle is
found there exactly when no call of the history has spoilt its stream. -/
theorem rewind_after_history_iff
    (opened : state.filesystem.openFiles h = some (.opened name .input))
    {history : List FileCall}
    (onHandle : ∀ call ∈ history, call.OnHandle h)
    (seeks : call.Seeks h) (fromStart : call.direction = some .beg)
    (nonnegative : 0 ≤ call.offset)
    (inFile : call.offset ≤
      (contents state.filesystem.files name).length) :
    (∃ answer,
        (svcFile (Machine.final svcFile state history) call).2 =
          some answer ∧ answer.registers 0 = 0) ∧
      (FoundAt h (contents state.filesystem.files name) call.offset
          (svcFile (Machine.final svcFile state history) call).1 ↔
        Machine.Admissible svcFile
          (fun state call => ¬ call.Spoils name h state) state history) := by
  have openAt : OpenAt name .input h (contents state.filesystem.files name)
      0 state.filesystem := ⟨rfl, opened⟩
  obtain ⟨opens, fails⟩ := openAt.history onHandle
  refine ⟨seeks.result.2, ?_⟩
  constructor
  · intro foundAt
    by_contra spoilt
    have failed := (fails spoilt).seek seeks
    exact failed.not_found seeks.argument nonnegative foundAt
  · intro admissible
    obtain ⟨moved, openAfter⟩ := opens admissible
    have asked : call.asked (contents state.filesystem.files name) moved
        .beg = call.offset := Int.zero_add _
    have found := (openAfter.seek_found_iff seeks fromStart
      (by rw [asked]; exact nonnegative)
      (by rw [asked]; exact inFile)).mpr
        ⟨.inl (by simp), by rw [asked]; exact BitVec.toInt_lt, .inl rfl⟩
    rwa [asked] at found

end Histories

/-! ## A file of three bytes -/

/-- The file table after the file of `sampleFiles` has been opened for
reading, under the handle 1. -/
def sampleReader : FileState where
  filesystem := ((Filesystem.initial Filesystem.sampleFiles).openFile [0x61]
    [0x72, 0x62] true).1
  fileBuffer := ⟨0, fun _ => 0⟩

theorem sampleReader_opened :
    sampleReader.filesystem.openFiles 1 =
      some (.opened [0x61] .input) := by
  decide

theorem sampleReader_openAt :
    OpenAt [0x61] .input 1 [1, 2, 3] 0 sampleReader.filesystem where
  file := by decide
  entry := sampleReader_opened

/-- Reading one byte, seeking to the second, and telling. -/
def sampleHistory : List FileCall :=
  [sampleCall .fread 0x300 1 1 1, sampleCall .fseek 1 1 0 0,
    sampleCall .ftell 1 0 0 0]

theorem sampleRead_reads (count : Word) :
    (sampleCall .fread 0x300 1 count 1).Reads 1 where
  handler := rfl
  argument := by
    change (1 : Word).toInt = 1
    decide
  nonzero := by
    change (1 : Word) ≠ 0
    decide

theorem sampleSeek_seeks (offset mode : Word) :
    (sampleCall .fseek 1 offset mode 0).Seeks 1 where
  handler := rfl
  argument := by
    change (1 : Word).toInt = 1
    decide

theorem sampleTell_tells : (sampleCall .ftell 1 0 0 0).Tells 1 where
  handler := rfl
  argument := by
    change (1 : Word).toInt = 1
    decide

theorem seek_after_history_iff_sample :
    FoundAt 1 [1, 2, 3] 2
      (svcFile (Machine.final svcFile sampleReader sampleHistory)
        (sampleCall .fseek 1 2 0 0)).1 := by
  have sound : SoundHistory .input 1 [1, 2, 3] 0 sampleHistory := by
    refine ⟨.inl ⟨sampleRead_reads 1, rfl, by decide⟩,
      .inr (.inl ⟨sampleSeek_seeks 1 0, .beg, by decide, by decide,
        by decide, .inl (by decide)⟩), .inr (.inr sampleTell_tells),
      trivial⟩
  exact ((seek_after_history_iff sampleReader_openAt sound).2
    (sampleCall .fseek 1 2 0 0) .beg (sampleSeek_seeks 2 0) (by decide)
    (by decide) (by decide)).mpr
      ⟨.inl (by decide), by decide, .inl rfl⟩

/-- A relative seek by one byte moves by two. -/
theorem relative_seek_lost :
    ¬ ∀ (name : HostName) (mode : OpenMode) (h : Int) (content : List Byte)
      (position : Nat) (state : FileState) (call : FileCall)
      (dir : Direction),
        OpenAt name mode h content position state.filesystem →
          call.Seeks h → call.direction = some dir →
            0 ≤ call.asked content position dir →
              call.asked content position dir ≤ content.length →
                FoundAt h content (call.asked content position dir)
                  (svcFile state call).1 := by
  intro claimed
  have found := claimed _ _ _ _ _ _ (sampleCall .fseek 1 1 1 0) .cur
    sampleReader_openAt (sampleSeek_seeks 1 1) (by decide) (by decide)
    (by decide)
  have offset := found.offset_eq_zero sampleReader_openAt
    (sampleSeek_seeks 1 1) (by decide) (by decide)
  exact absurd offset (by decide)

/-- Reading to the end, moving back by two, and reading to the end again. -/
def samplePast : List FileCall :=
  [sampleCall .fread 0x300 1 3 1, sampleCall .fseek 1 (-1) 1 0,
    sampleCall .fread 0x300 1 2 1]

theorem rewind_after_history_iff_sample :
    FoundAt 1 (contents sampleReader.filesystem.files [0x61])
      (sampleCall .fseek 1 1 0 0).offset
      (svcFile (Machine.final svcFile sampleReader samplePast)
        (sampleCall .fseek 1 1 0 0)).1 := by
  have onHandle : ∀ call ∈ samplePast, call.OnHandle 1 := by
    intro call present
    simp only [samplePast, List.mem_cons, List.not_mem_nil,
      or_false] at present
    rcases present with rfl | rfl | rfl
    · exact .inl (sampleRead_reads 3)
    · exact .inr (.inl (sampleSeek_seeks (-1) 1))
    · exact .inl (sampleRead_reads 2)
  have unspoilt : Machine.Admissible svcFile
      (fun state call => ¬ call.Spoils [0x61] 1 state) sampleReader
      samplePast := by
    simp only [samplePast, Machine.Admissible, and_true]
    refine ⟨?_, ?_, ?_⟩
    · rintro (⟨_, short⟩ | ⟨seeks, _⟩)
      · exact absurd short (by decide)
      · exact nomatch seeks.handler
    · rintro (⟨reads, _⟩ | ⟨_, dir, directed, outside⟩)
      · exact nomatch reads.handler
      · obtain rfl : .cur = dir := Option.some.inj directed
        exact absurd outside (by decide)
    · rintro (⟨_, short⟩ | ⟨seeks, _⟩)
      · exact absurd short (by decide)
      · exact nomatch seeks.handler
  exact (rewind_after_history_iff sampleReader_opened onHandle
    (sampleSeek_seeks 1 0) (by decide) (by decide) (by decide)).2.mpr unspoilt

/-- A read past the end cannot be recovered from. -/
theorem rewind_after_short_read_lost :
    ¬ ∀ (name : HostName) (h : Int) (state : FileState)
      (history : List FileCall) (call : FileCall),
        state.filesystem.openFiles h = some (.opened name .input) →
          (∀ call ∈ history, call.OnHandle h) →
            call.Seeks h → call.direction = some .beg →
              0 ≤ call.offset →
                call.offset ≤
                    (contents state.filesystem.files name).length →
                  FoundAt h (contents state.filesystem.files name)
                    call.offset
                    (svcFile (Machine.final svcFile state history)
                      call).1 := by
  intro claimed
  have found := claimed _ _ _ [sampleCall .fread 0x300 1 4 1]
    (sampleCall .fseek 1 0 0 0) sampleReader_opened
    (by
      intro call present
      rw [List.mem_singleton] at present
      subst present
      exact .inl (sampleRead_reads 4))
    (sampleSeek_seeks 0 0) (by decide) (by decide) (by decide)
  have failed : FailedAt 1
      (svcFile sampleReader (sampleCall .fread 0x300 1 4 1)).1.filesystem :=
    sampleReader_openAt.read_failed (sampleRead_reads 4) (by decide)
  have seeks := sampleSeek_seeks 0 0
  exact (failed.seek seeks).not_found seeks.argument (by decide) found

end Host
end GA330
