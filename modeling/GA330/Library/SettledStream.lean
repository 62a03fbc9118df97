import GA330.Library.BufferedStream

/-!
# Streams that have their file to themselves

As long as nothing else writes to the file of a stream and the host stores what
it is handed, the buffer of the stream cannot be noticed: the stream does what
one without a buffer does, on the files as they will be once everything is
handed on.
-/

namespace BufferedStream

open FileStream

variable {Name : Type u} {Byte : Type v}

/-- What a read leaves in the buffer is behind what it delivers. -/
theorem drop_eq_drop_length_take (bytes : List Byte) (count : Nat) :
    bytes.drop count = bytes.drop (bytes.take count).length := by
  rw [List.length_take]
  rcases Nat.le_total count bytes.length with within | beyond
  · rw [Nat.min_eq_left within]
  · rw [Nat.min_eq_right beyond, List.drop_length,
      List.drop_eq_nil_of_le beyond]

/-- Files in which the file of a stream is as it will be once the buffer is
handed on; what the stream has read ahead is still in the file. -/
structure Settles [Inhabited Byte] (files : Files Name Byte)
    (buffered : Buffered Name Byte) (whole : Files Name Byte) : Prop where
  written : ∀ name, buffered.stream.target = some (name, .output) →
    (files name).isSome = true ∧
      whole name = some (storeAt (contents files name)
        buffered.stream.position buffered.buffer)
  current : ∀ name, buffered.stream.target = some (name, .input) →
    whole name = files name ∧
      buffered.buffer <+:
        (contents files name).drop buffered.stream.position

section Settling

variable [Inhabited Byte]
variable {files whole : Files Name Byte} {buffered : Buffered Name Byte}
variable {chance : Chance Byte} {name : Name}

/-- A stream without a file settles nothing. -/
theorem Settles.of_fileless (fileless : buffered.stream.target = none) :
    Settles files buffered whole := by
  constructor
  · intro name target
    cases fileless.symm.trans target
  · intro name target
    cases fileless.symm.trans target

/-- The same stream with other flags. -/
theorem Settles.flagged (settles : Settles files buffered whole)
    {other : Buffered Name Byte}
    (sameTarget : other.stream.target = buffered.stream.target)
    (samePosition : other.stream.position = buffered.stream.position)
    (sameBuffer : other.buffer = buffered.buffer) :
    Settles files other whole := by
  obtain ⟨written, current⟩ := settles
  constructor
  · rw [sameTarget, samePosition, sameBuffer]
    exact written
  · rw [sameTarget, samePosition, sameBuffer]
    exact current

/-- Files that agree on the file of the stream. -/
theorem Settles.congr (settles : Settles files buffered whole)
    {filesAfter wholeAfter : Files Name Byte}
    (sameFile : ∀ name mode, buffered.stream.target = some (name, mode) →
      filesAfter name = files name)
    (sameWhole : ∀ name mode, buffered.stream.target = some (name, mode) →
      wholeAfter name = whole name) :
    Settles filesAfter buffered wholeAfter := by
  obtain ⟨written, current⟩ := settles
  constructor
  · intro name target
    have same := sameFile name _ target
    rw [contents, same, sameWhole name _ target]
    exact written name target
  · intro name target
    have same := sameFile name _ target
    rw [contents, same, sameWhole name _ target]
    exact current name target

/-- A stream with nothing in its buffer. -/
theorem Settles.of_empty {stream : Stream Name}
    (agree : AgreeThrough stream files whole)
    (present : ∀ name, stream.target = some (name, .output) →
      (files name).isSome = true) :
    Settles files ⟨stream, []⟩ whole := by
  constructor
  · intro name target
    refine ⟨present name target, ?_⟩
    obtain ⟨content, found⟩ :=
      Option.isSome_iff_exists.mp (present name target)
    have same : whole name = files name := agree (name, .output) target
    rw [storeAt_nil, same, contents, found, Option.getD_some]
  · intro name target
    exact ⟨agree (name, .input) target, List.nil_prefix⟩

/-- Telling settles the same. -/
theorem Settles.tellg (settles : Settles files buffered whole) :
    Settles files (BufferedStream.tellg buffered).1 whole :=
  settles.flagged rfl rfl rfl

/-- The bytes to be read are those of the file. -/
theorem Settles.available (settles : Settles files buffered whole) :
    BufferedStream.available files buffered =
      FileStream.available whole buffered.seen := by
  unfold BufferedStream.available FileStream.available
  rw [seen_target]
  cases target : buffered.stream.target with
  | none => rfl
  | some on =>
      obtain ⟨name, mode⟩ := on
      cases mode with
      | output => rfl
      | input =>
          obtain ⟨same, ⟨rest, still⟩⟩ := settles.current name target
          have seen : buffered.seen = buffered.stream := by
            simp only [Buffered.seen, target]
          dsimp only
          rw [seen, contents, contents, same, ← contents, ← List.drop_drop,
            ← still, List.drop_left]

/-- A stream behind what it has delivered, with some of the rest in its
buffer. -/
theorem Settles.advanced (settles : Settles files buffered whole)
    (target : buffered.stream.target = some (name, .input))
    (count kept : Nat) (eof fail : Bool) :
    Settles files
      ⟨⟨some (name, .input), buffered.stream.position +
          ((BufferedStream.available files buffered).take count).length,
        eof, fail⟩,
        ((BufferedStream.available files buffered).drop count).take kept⟩
      whole := by
  constructor
  · intro other otherTarget
    cases otherTarget
  · intro other otherTarget
    cases otherTarget
    obtain ⟨same, _⟩ := settles.current name target
    have seen : buffered.seen = buffered.stream :=
      seen_of_not_output (by simp [target])
    have bytes : BufferedStream.available files buffered =
        (contents files name).drop buffered.stream.position := by
      rw [settles.available, seen]
      simp only [FileStream.available, target, contents, same]
    have rest : (contents files name).drop (buffered.stream.position +
        ((BufferedStream.available files buffered).take count).length) =
          (BufferedStream.available files buffered).drop count := by
      rw [← List.drop_drop, ← bytes, ← drop_eq_drop_length_take]
    refine ⟨same, ?_⟩
    dsimp only
    rw [rest]
    exact List.take_prefix _ _

variable [DecidableEq Name]

/-- A stream that was just opened to write a file settles, once the file is
empty. -/
theorem Settles.opened_output (files whole : Files Name Byte)
    (name : Name) :
    Settles (Function.update files name (some []))
      (.opened name .output)
      (Function.update whole name (some [])) := by
  apply Settles.of_empty
  · rintro on ⟨⟩
    rw [Function.update_self, Function.update_self]
  · rintro name ⟨⟩
    rw [Function.update_self]
    rfl

/-- Handing on settles the same. -/
theorem Settles.hand (settles : Settles files buffered whole)
    (count : Nat) :
    Settles (BufferedStream.hand files buffered count none).1
      (BufferedStream.hand files buffered count none).2 whole := by
  rcases hand_cases files buffered count none with
    ⟨_, same⟩ | ⟨name, target, _, ⟨_, stored⟩ | ⟨content, failed, _⟩⟩
  · rw [same]
    exact settles
  · obtain ⟨_, settled⟩ := settles.written name target
    have sameTarget : (buffered.behind count).stream.target =
        some (name, .output) := target
    rw [stored]
    constructor
    · intro other otherTarget
      cases sameTarget.symm.trans otherTarget
      dsimp only [Buffered.behind]
      rw [contents_update, Function.update_self]
      refine ⟨rfl, ?_⟩
      -- the two parts are stored side by side
      rw [settled, ← storeAt_append, List.take_append_drop]
    · intro other otherTarget
      cases sameTarget.symm.trans otherTarget
  · contradiction

/-- Once everything is handed on, the file is settled. -/
theorem Settles.close (settles : Settles files buffered whole)
    (stores : chance.failure = none)
    (target : buffered.stream.target = some (name, .output)) :
    BufferedStream.close files buffered chance name = whole name := by
  obtain ⟨present, settled⟩ := settles.written name target
  obtain ⟨content, found⟩ := Option.isSome_iff_exists.mp present
  rw [close_stored stores target, settled]
  split
  · rename_i empty
    rw [empty, storeAt_nil, contents, found, Option.getD_some]
  · rfl

/-! ## Operations that cannot be told apart -/

/-- Reading, when the buffer cannot be noticed. -/
theorem Settles.read (settles : Settles files buffered whole)
    (stores : chance.failure = none) (count : Nat) :
    FileStream.read whole buffered.seen count =
        ((BufferedStream.read files buffered count chance).1.2.seen,
          (BufferedStream.read files buffered count chance).2) ∧
      Settles (BufferedStream.read files buffered count chance).1.1
        (BufferedStream.read files buffered count chance).1.2 whole := by
  cases good : buffered.stream.good with
  | false =>
      have seenBad : buffered.seen.good = false := by rw [seen_good, good]
      rw [read_failed whole seenBad, BufferedStream.read,
        if_neg (by simp [good])]
      exact ⟨by rw [seen_failed], settles.flagged rfl rfl rfl⟩
  | true =>
      have seenGood : buffered.seen.good = true := by rw [seen_good, good]
      rw [read_good seenGood, ← settles.available, seen_target,
        BufferedStream.read, if_pos good]
      cases target : buffered.stream.target with
      | none =>
          have seen : buffered.seen = buffered.stream :=
            seen_of_not_output (by simp [target])
          rw [seen]
          exact ⟨rfl, .of_fileless rfl⟩
      | some on =>
          obtain ⟨name, mode⟩ := on
          cases mode with
          | input =>
              have seen : buffered.seen = buffered.stream :=
                seen_of_not_output (by simp [target])
              rw [seen]
              exact ⟨rfl, settles.advanced target count _ _ _⟩
          | output =>
              have nothing :
                  BufferedStream.available files buffered = [] := by
                simp only [BufferedStream.available, target]
              rw [stores, nothing]
              have handed := settles.hand chance.handed
              have keptTarget :=
                (hand_target files buffered chance.handed none).trans target
              have sameSeen := @hand_seen _ _ _ _ files buffered
                chance.handed
              rw [seen_output keptTarget] at sameSeen
              refine ⟨?_, handed.flagged keptTarget.symm rfl rfl⟩
              rw [List.take_nil, ← sameSeen]
              rfl

/-- Writing, when the buffer cannot be noticed. -/
theorem Settles.write (settles : Settles files buffered whole)
    (stores : chance.failure = none) (bytes : List Byte) :
    (FileStream.write whole buffered.seen bytes).2 =
        (BufferedStream.write files buffered bytes chance).2.seen ∧
      Settles (BufferedStream.write files buffered bytes chance).1
        (BufferedStream.write files buffered bytes chance).2
        (FileStream.write whole buffered.seen bytes).1 := by
  unfold FileStream.write BufferedStream.write
  rw [seen_good, seen_target]
  split
  · cases target : buffered.stream.target with
    | none =>
        dsimp only
        split
        · exact ⟨rfl, settles⟩
        · exact ⟨by simp [seen_failed, target], .of_fileless target⟩
    | some on =>
        obtain ⟨name, mode⟩ := on
        cases mode with
        | input =>
            dsimp only
            split
            · exact ⟨rfl, settles⟩
            · exact ⟨by simp [seen_failed, target],
                settles.flagged rfl rfl rfl⟩
        | output =>
            obtain ⟨present, settled⟩ := settles.written name target
            have extended : Settles files
                ⟨buffered.stream, buffered.buffer ++ bytes⟩
                (Function.update whole name (some (storeAt
                  (contents whole name) buffered.seen.position bytes))) := by
              constructor
              · intro other otherTarget
                cases target.symm.trans otherTarget
                refine ⟨present, ?_⟩
                rw [Function.update_self, contents, settled,
                  Option.getD_some, seen_output target, storeAt_append]
              · intro other otherTarget
                cases target.symm.trans otherTarget
            rw [stores]
            refine ⟨?_, extended.hand chance.handed⟩
            have extendedTarget :
                (⟨buffered.stream, buffered.buffer ++ bytes⟩ :
                  Buffered Name Byte).stream.target = some (name, .output) :=
              target
            rw [hand_seen, seen_output extendedTarget, seen_output target]
            dsimp only
            rw [List.length_append, Nat.add_assoc, target]
  · exact ⟨by simp [seen_failed], settles.flagged rfl rfl rfl⟩

/-- Once everything is handed on, the file is as it was to be. -/
theorem Settles.agree (settles : Settles files buffered whole) :
    AgreeThrough buffered.stream
      (BufferedStream.hand files buffered buffered.buffer.length none).1
      whole := by
  rintro ⟨name, mode⟩ target
  cases mode with
  | output =>
      have settled := @Settles.close _ _ _ files whole buffered
        ⟨0, 0, none⟩ name _ settles rfl target
      exact settled.symm
  | input =>
      rw [hand_other (by rw [target]; simp)]
      exact (settles.current name target).1

/-- Moving, when the buffer cannot be noticed. -/
theorem Settles.moveTo (settles : Settles files buffered whole)
    (stores : chance.failure = none) (offset : Int)
    (direction : Direction) :
    FileStream.moveTo whole buffered.seen offset direction =
        (BufferedStream.moveTo files buffered offset direction
          chance).2.seen ∧
      Settles
        (BufferedStream.moveTo files buffered offset direction chance).1
        (BufferedStream.moveTo files buffered offset direction chance).2
        whole := by
  by_cases failed : buffered.stream.fail = true
  · have seenFailed : buffered.seen.fail = true := by rw [seen_fail, failed]
    rw [moveTo_failed whole seenFailed, BufferedStream.moveTo, if_pos failed]
    exact ⟨rfl, settles⟩
  rw [BufferedStream.moveTo, if_neg failed]
  split
  · rename_i stays
    obtain ⟨rfl, rfl⟩ := stays
    rw [moveTo_stay, moveTo_stay]
    refine ⟨?_, settles.flagged rfl rfl rfl⟩
    refine Eq.trans ?_ (seen_flagged buffered buffered.stream.eof _).symm
    simp
  · rw [stores]
    have handed := settles.hand buffered.buffer.length
    have agree := settles.agree
    have stream := hand_all_stream files buffered
    have works : ¬ buffered.seen.fail = true := by
      rwa [seen_fail]
    generalize BufferedStream.hand files buffered buffered.buffer.length
      none = result at *
    obtain ⟨after, kept⟩ := result
    dsimp only at *
    rw [stream, if_neg works, seen_empty]
    have seenAgree : AgreeThrough buffered.seen after whole := by
      unfold AgreeThrough
      rw [seen_target]
      exact agree
    refine ⟨seenAgree.moveTo offset direction, .of_empty ?_ ?_⟩
    · unfold AgreeThrough
      rw [moveTo_target]
      exact seenAgree
    · intro name target
      rw [moveTo_target, ← stream] at target
      exact (handed.written name target).1

/-- Seeking, when the buffer cannot be noticed. -/
theorem Settles.seek (settles : Settles files buffered whole)
    (stores : chance.failure = none) (offset : Int)
    (direction : Direction) :
    let first := BufferedStream.seekg files buffered offset direction chance
    let second :=
      BufferedStream.seekp first.1 first.2 offset direction chance
    FileStream.seekp whole
          (FileStream.seekg whole buffered.seen offset direction) offset
          direction = second.2.seen ∧
      Settles second.1 second.2 whole := by
  intro first second
  have cleared : Settles files
      ⟨{ buffered.stream with eof := false }, buffered.buffer⟩ whole :=
    settles.flagged rfl rfl rfl
  have clearedSeen :
      (⟨{ buffered.stream with eof := false }, buffered.buffer⟩ :
        Buffered Name Byte).seen = { buffered.seen with eof := false } := by
    rw [seen_flagged, ← seen_fail]
  obtain ⟨firstSeen, firstSettles⟩ :=
    cleared.moveTo stores offset direction
  rw [clearedSeen] at firstSeen
  obtain ⟨secondSeen, secondSettles⟩ :=
    firstSettles.moveTo stores offset direction
  refine ⟨?_, secondSettles⟩
  rw [FileStream.seekp, FileStream.seekg, firstSeen, secondSeen]
  rfl

end Settling

end BufferedStream
