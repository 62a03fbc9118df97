import GA330.Dl.Resources

/-!
# Sequences of resource reads

`dl_res_get_data` copies `size * count` bytes but decodes `count` bytes of the
buffer, and it compares neither the bytes nor the cursor with the size of the
resource.  So a read is the same as one of single bytes exactly when its items
are single bytes or it asks for none, and a sequence of reads stays in its
resource exactly when it asks for no more than the resource holds.
-/

namespace GA330
namespace Dl

open ByteMemory

/-! ## The decoding loop -/

theorem decodeByte_ne (byte : Byte) : decodeByte byte ≠ byte := by
  revert byte
  decide

/-- The decoding loop decodes the bytes at the first `count` offsets. -/
theorem decodeLoop_apply (memory : Memory) (buffer address : Address)
    {count : Nat} (small : count ≤ 2 ^ 32) :
    decodeLoop memory buffer count address =
      if (address - buffer).toNat < count then decodeByte (memory address)
      else memory address := by
  induction count with
  | zero => rfl
  | succ count inductionHypothesis =>
      have earlier := inductionHypothesis (Nat.le_of_succ_le small)
      by_cases here : address = buffer + BitVec.ofNat 32 count
      · have offset : (address - buffer).toNat = count := by
          rw [here]
          bv_omega
        rw [offset, if_neg (Nat.lt_irrefl count)] at earlier
        rw [offset, if_pos (Nat.lt_succ_self count), decodeLoop, ← here,
          earlier, write_of_mem (by simp)]
        simp only [BitVec.sub_self, decodeByte]
        rfl
      · have other : address ∉
            (⟨buffer + BitVec.ofNat 32 count, 1⟩ : Extent) := by
          intro present
          rw [Extent.mem_iff] at present
          apply here
          bv_omega
        have offset : (address - buffer).toNat ≠ count := by
          intro equal
          apply here
          bv_omega
        rw [decodeLoop, write_of_notMem other, earlier]
        have same : (address - buffer).toNat < count ↔
            (address - buffer).toNat < count + 1 := by
          omega
        simp only [same]

/-! ## Reading in other chunks -/

/-- A read of items delivers what the read of as many single bytes delivers:
buffer, cursor and result are the same. -/
def ChunkIndependent (memory : Memory) (objects : Address → DL)
    (res : DlRes) (buffer : Address) (size count : Word) : Prop :=
  (dlResGetData memory objects res buffer size count).value =
    (dlResGetData memory objects res buffer 1 (size * count)).value

section Chunks

variable (memory : Memory) (objects : Address → DL) (res : DlRes)
variable (buffer : Address) {size count : Word}

/-- Items of one byte, or no items. -/
theorem chunkIndependent_of_plain (plain : size = 1 ∨ count = 0) :
    ChunkIndependent memory objects res buffer size count := by
  rcases plain with rfl | rfl
  · have unit : (1 : Word) * count = count := by simp
    rw [ChunkIndependent, unit]
  · have nothing : size * (0 : Word) = 0 := by simp
    have nothingAgain : (1 : Word) * 0 = 0 := rfl
    rw [ChunkIndependent, nothing]
    simp only [dlResGetData, nothing, nothingAgain]

/-- The buffer after a read of items. -/
theorem dlResGetData_memory :
    (dlResGetData memory objects res buffer size count).value.1 =
      decodeLoop (write memory buffer (read memory
        ((objects res.dl).fileBytes + res.currentFileOffset)
        (size * count).toNat)) buffer count.toNat := rfl

/-- The buffer that a read in single bytes leaves. -/
theorem ChunkIndependent.buffers
    (same : ChunkIndependent memory objects res buffer size count) :
    decodeLoop (write memory buffer (read memory
        ((objects res.dl).fileBytes + res.currentFileOffset)
        (size * count).toNat)) buffer count.toNat =
      write memory buffer ((read memory
        ((objects res.dl).fileBytes + res.currentFileOffset)
        (size * count).toNat).map decodeByte) := by
  have buffers := congrArg Prod.fst same
  rwa [dlResGetData_memory, dlResGetData_value] at buffers

/-- Items without bytes decode a byte that was not read. -/
theorem not_chunkIndependent_of_empty (empty : (size * count).toNat = 0)
    (counted : 0 < count.toNat) :
    ¬ ChunkIndependent memory objects res buffer size count := by
  intro same
  have differ := congrFun
    (same.buffers memory objects res buffer) buffer
  rw [decodeLoop_apply _ _ _ (Nat.le_of_lt (BitVec.isLt count)),
    if_pos (by simpa using counted), empty] at differ
  exact decodeByte_ne _ differ

/-- Larger items leave the byte behind as many undecoded as there are items. -/
theorem not_chunkIndependent_of_large
    (beyond : count.toNat < (size * count).toNat) :
    ¬ ChunkIndependent memory objects res buffer size count := by
  intro same
  have offset : (buffer + count - buffer).toNat = count.toNat := by
    bv_omega
  have differ := congrFun
    (same.buffers memory objects res buffer) (buffer + count)
  rw [decodeLoop_apply _ _ _ (Nat.le_of_lt (BitVec.isLt count)),
    if_neg (by rw [offset]; omega),
    write_of_mem (by rw [offset, length_read]; exact beyond),
    write_of_mem (by
      rw [offset, List.length_map, length_read]
      exact beyond)] at differ
  simp only [List.getElem_map] at differ
  exact decodeByte_ne _ differ.symm

/-- Only items of one byte, or no items, are read as single bytes are. -/
theorem plain_of_chunkIndependent
    (product : size.toNat * count.toNat < 2 ^ 31)
    (same : ChunkIndependent memory objects res buffer size count) :
    size = 1 ∨ count = 0 := by
  by_contra other
  rw [not_or] at other
  obtain ⟨sizeNotOne, countNotZero⟩ := other
  have counted : 0 < count.toNat := by
    have nonzero : count.toNat ≠ 0 := fun zero =>
      countNotZero (BitVec.eq_of_toNat_eq zero)
    omega
  have total : (size * count).toNat = size.toNat * count.toNat := by
    rw [BitVec.toNat_mul, Nat.mod_eq_of_lt (by omega)]
  rcases Nat.lt_or_ge size.toNat 1 with noBytes | someBytes
  · refine not_chunkIndependent_of_empty _ _ _ _ ?_ counted same
    rw [total, Nat.lt_one_iff.mp noBytes, Nat.zero_mul]
  · have notOne : size.toNat ≠ 1 := fun one =>
      sizeNotOne (BitVec.eq_of_toNat_eq one)
    have doubled : 2 * count.toNat ≤ size.toNat * count.toNat :=
      Nat.mul_le_mul_right count.toNat (by omega)
    exact not_chunkIndependent_of_large _ _ _ _ (by omega) same

end Chunks

/-! ## Sequences of reads -/

/-- `dl_res_get_data(res, buffer, size, count)` -/
structure ReadCall where
  buffer : Address
  size : Word
  count : Word

/-- The number of bytes that a call copies. -/
def ReadCall.bytes (call : ReadCall) : Nat :=
  (call.size * call.count).toNat

/-- What a call comes to: its accesses, its result, the cursor after it and
the bytes that are then in the buffer. -/
structure ReadAnswer where
  accesses : List Access
  returned : Word
  cursor : Word
  delivered : List Byte
  deriving DecidableEq

/-- One call on a handle. -/
def getDataStep (objects : Address → DL) (state : Memory × DlRes)
    (call : ReadCall) : (Memory × DlRes) × ReadAnswer :=
  let result := dlResGetData state.1 objects state.2 call.buffer call.size
    call.count
  let (memory, res, numToRead) := result.value
  ((memory, res), {
    accesses := result.trace
    returned := numToRead
    cursor := res.currentFileOffset
    delivered := ByteMemory.read memory call.buffer numToRead.toNat })

/-- The number of bytes that the calls ask for. -/
def totalBytes (calls : List ReadCall) : Nat :=
  (calls.map ReadCall.bytes).sum

/-- The bytes that the calls deliver, in order. -/
def delivered (objects : Address → DL) (state : Memory × DlRes)
    (calls : List ReadCall) : List Byte :=
  (Machine.outputs (getDataStep objects) state calls).flatMap
    ReadAnswer.delivered

/-- The address of the stored byte at the cursor. -/
def DlRes.source (objects : Address → DL) (res : DlRes) : Address :=
  (objects res.dl).fileBytes + res.currentFileOffset

/-- The handle once a call has moved the cursor. -/
def DlRes.advance (res : DlRes) (call : ReadCall) : DlRes :=
  { res with currentFileOffset :=
      res.currentFileOffset + call.size * call.count }

@[simp] theorem totalBytes_nil : totalBytes [] = 0 := rfl

@[simp] theorem totalBytes_cons (call : ReadCall) (rest : List ReadCall) :
    totalBytes (call :: rest) = call.bytes + totalBytes rest := rfl

/-- Reads of single bytes, or of nothing, into buffers apart from the stored
bytes that the sequence is about to read. -/
def PlainReads (objects : Address → DL) (res : DlRes)
    (calls : List ReadCall) : Prop :=
  ∀ call ∈ calls, (call.size = 1 ∨ call.count = 0) ∧
    (⟨call.buffer, call.bytes⟩ : Extent).Disjoint
      ⟨res.source objects, totalBytes calls⟩

section Sequences

variable {objects : Address → DL}

/-- The cursor moves by the number of bytes of the call. -/
theorem DlRes.source_advance (res : DlRes) (call : ReadCall) :
    (res.advance call).source objects =
      res.source objects + BitVec.ofNat 32 call.bytes := by
  rw [ReadCall.bytes, BitVec.ofNat_toNat, BitVec.setWidth_eq]
  exact (BitVec.add_assoc _ _ _).symm

/-- What is ahead after a call was ahead before it. -/
theorem ahead_advance (res : DlRes) (call : ReadCall)
    (rest : List ReadCall) :
    (⟨(res.advance call).source objects, totalBytes rest⟩ : Extent).Inside
      ⟨res.source objects, totalBytes (call :: rest)⟩ := by
  rw [DlRes.source_advance]
  apply Extent.inside_of_offset
  rw [totalBytes_cons, BitVec.toNat_ofNat]
  have reduced := Nat.mod_le call.bytes (2 ^ 32)
  omega

theorem PlainReads.tail {res : DlRes} {call : ReadCall}
    {rest : List ReadCall} (plain : PlainReads objects res (call :: rest)) :
    PlainReads objects (res.advance call) rest := by
  intro next present
  obtain ⟨nextPlain, apart⟩ := plain next
    (List.mem_cons_of_mem call present)
  exact ⟨nextPlain, fun address inBuffer inLater =>
    apart address inBuffer (ahead_advance res call rest address inLater)⟩

/-- A plain read delivers the decoded bytes and moves the cursor past them. -/
theorem getDataStep_plain (memory : Memory) (res : DlRes)
    {call : ReadCall} (plain : call.size = 1 ∨ call.count = 0) :
    let piece := (ByteMemory.read memory (res.source objects)
      call.bytes).map decodeByte
    (getDataStep objects (memory, res) call).1 =
        (write memory call.buffer piece, res.advance call) ∧
      (getDataStep objects (memory, res) call).2.delivered = piece := by
  intro piece
  have length : piece.length = call.bytes := by simp [piece]
  have value : (dlResGetData memory objects res call.buffer call.size
      call.count).value =
        (write memory call.buffer piece, res.advance call,
          call.size * call.count) :=
    (chunkIndependent_of_plain memory objects res call.buffer plain).trans
      (dlResGetData_value _ _ _ _ _)
  simp only [getDataStep, value]
  refine ⟨trivial, ?_⟩
  rw [← ReadCall.bytes, ← length]
  exact read_write_self (by
    rw [length]
    exact Nat.le_of_lt (BitVec.isLt _))

/-- Plain reads deliver the decoded bytes from the cursor on, whatever their
chunks. -/
theorem delivered_plain {memory : Memory} {res : DlRes}
    {calls : List ReadCall} (plain : PlainReads objects res calls) :
    delivered objects (memory, res) calls =
      (ByteMemory.read memory (res.source objects)
        (totalBytes calls)).map decodeByte := by
  induction calls generalizing memory res with
  | nil => rfl
  | cons call rest inductionHypothesis =>
      obtain ⟨here, apart⟩ := plain call (by simp)
      obtain ⟨state, piece⟩ := @getDataStep_plain objects memory res call here
      have kept : AgreeOn
          ⟨(res.advance call).source objects, totalBytes rest⟩
          (write memory call.buffer ((ByteMemory.read memory
            (res.source objects) call.bytes).map decodeByte)) memory := by
        apply agreeOn_write
        rw [List.length_map, length_read]
        exact fun address inBuffer inLater => apart address inBuffer
          (ahead_advance res call rest address inLater)
      have continued := @inductionHypothesis (write memory call.buffer
        ((ByteMemory.read memory (res.source objects)
          call.bytes).map decodeByte)) _ plain.tail
      rw [delivered] at continued ⊢
      rw [Machine.outputs_cons, List.flatMap_cons, state, piece, continued,
        read_congr kept, totalBytes_cons, read_add, List.map_append,
        DlRes.source_advance]

end Sequences

/-- A read in items is one in single bytes exactly when the items are single
bytes or there are none, and then the buffer holds the decoded bytes.
Sequences of such reads with one total deliver the same bytes. -/
theorem chunk_independent_iff (objects : Address → DL) (memory : Memory)
    (res : DlRes) :
    (∀ buffer (size count : Word), size.toNat * count.toNat < 2 ^ 31 →
      (ChunkIndependent memory objects res buffer size count ↔
          size = 1 ∨ count = 0) ∧
        (ChunkIndependent memory objects res buffer size count →
          (dlResGetData memory objects res buffer size count).value =
            (write memory buffer ((ByteMemory.read memory
                (res.source objects) (size * count).toNat).map decodeByte),
              res.advance ⟨buffer, size, count⟩, size * count))) ∧
      ∀ first second, PlainReads objects res first →
        PlainReads objects res second →
          totalBytes first = totalBytes second →
            delivered objects (memory, res) first =
              delivered objects (memory, res) second := by
  constructor
  · intro buffer size count product
    refine ⟨⟨plain_of_chunkIndependent memory objects res buffer product,
      chunkIndependent_of_plain memory objects res buffer⟩, ?_⟩
    intro same
    exact same.trans (dlResGetData_value _ _ _ _ _)
  · intro first second plainFirst plainSecond sameTotal
    rw [delivered_plain plainFirst, delivered_plain plainSecond, sameTotal]

/-- Opening the resource of the sample file. -/
def sampleOpened : Option (Address × DlRes) :=
  (dlResOpen sampleFile (fun _ => 0) (fun _ => 0x10200000)
    (fun _ => sampleDl) 0 0 sampleResource.name).value

theorem sampleOpened_size : ∃ p res, sampleOpened = some (p, res) ∧
    res.ent.size = 3 := by
  have size : sampleOpened.map (fun opened => opened.2.ent.size) =
      some 3 := by
    decide +kernel
  obtain ⟨⟨p, res⟩, opened, sizes⟩ := Option.map_eq_some_iff.mp size
  exact ⟨p, res, opened, sizes⟩

/-- Three bytes, as two reads and as three. -/
theorem chunk_independent_iff_sample : ∃ p res,
    sampleOpened = some (p, res) ∧
      ChunkIndependent sampleFile (fun _ => sampleDl) res 0x11000000 1 3 ∧
      delivered (fun _ => sampleDl) (sampleFile, res)
          [⟨0x11000000, 1, 2⟩, ⟨0x11000000, 1, 1⟩] =
        delivered (fun _ => sampleDl) (sampleFile, res)
          [⟨0x11000010, 1, 1⟩, ⟨0x11000020, 7, 0⟩, ⟨0x11000000, 1, 2⟩] := by
  obtain ⟨p, res, opened, _⟩ := sampleOpened_size
  have start : res.source (fun _ => sampleDl) = 0x300002F8 := by
    have source : sampleOpened.map (fun opened =>
        opened.2.source fun _ => sampleDl) = some 0x300002F8 := by
      decide +kernel
    rw [opened] at source
    exact Option.some.inj source
  have plain : ∀ calls : List ReadCall, totalBytes calls = 3 →
      (∀ call ∈ calls, (call.size = 1 ∨ call.count = 0) ∧
        (⟨call.buffer, call.bytes⟩ : Extent).Separate ⟨0x300002F8, 3⟩) →
        PlainReads (fun _ => sampleDl) res calls := by
    intro calls total each call present
    rw [start, total]
    exact ⟨(each call present).1, (each call present).2.disjoint⟩
  obtain ⟨single, sequences⟩ :=
    chunk_independent_iff (fun _ => sampleDl) sampleFile res
  refine ⟨p, res, opened,
    (single 0x11000000 1 3 (by decide)).1.mpr (.inl rfl), ?_⟩
  exact sequences _ _ (plain _ rfl (by decide)) (plain _ rfl (by decide)) rfl

/-- A resource read as one item of three bytes is decoded in its first byte
only. -/
theorem items_not_decoded :
    ¬ ∀ (memory : Memory) (stack : Nat → Byte) (malloc : Word → Address)
      (objects : Address → DL) (dl : Address) (unk4 : Word)
      (name : CString) (p : Address) (res : DlRes) (buffer : Address)
      (size count : Word),
        (dlResOpen memory stack malloc objects dl unk4 name).value =
            some (p, res) →
          size.toNat * count.toNat < 2 ^ 31 →
            size.toNat * count.toNat ≤ (dlResGetSize res).toNat →
              ChunkIndependent memory objects res buffer size count := by
  intro claimed
  obtain ⟨p, res, opened, size⟩ := sampleOpened_size
  have same := claimed _ _ _ _ _ _ _ p res 0x11000000 3 1 opened (by decide)
    (by rw [dlResGetSize, size]; decide)
  rcases plain_of_chunkIndependent _ _ res _ (by decide) same with one | none
  · exact absurd one (by decide)
  · exact absurd none (by decide)

/-! ## Staying in the resource -/

/-- A call stays in the resource of its handle: it copies file bytes of the
resource only, it returns the number of bytes that it stored, and the cursor
ends at the resource's end at the latest. -/
structure StaysInResource (objects : Address → DL) (res : DlRes)
    (answer : ReadAnswer) : Prop where
  source : ∀ extent, Access.read extent ∈ answer.accesses →
    extent.Inside ⟨(objects res.dl).fileBytes + res.startFileOffset,
      (dlResGetSize res).toNat⟩
  returned : ∀ extent, Access.write extent ∈ answer.accesses →
    extent.size = answer.returned.toNat
  cursor : (answer.cursor - res.startFileOffset).toNat ≤
    res.ent.size.toNat

/-- A handle is opened at the start of its resource. -/
theorem dlResOpen_start {memory : Memory} {stack : Nat → Byte}
    {malloc : Word → Address} {objects : Address → DL} {dl : Address}
    {unk4 : Word} {name : CString} {p : Address} {res : DlRes}
    (opened : (dlResOpen memory stack malloc objects dl unk4 name).value =
      some (p, res)) : res.currentFileOffset = res.startFileOffset := by
  rw [dlResOpen_value] at opened
  obtain ⟨shdr, _, search⟩ := Option.bind_eq_some_iff.mp opened
  obtain ⟨ent, _, equal⟩ := Option.map_eq_some_iff.mp search
  cases equal
  rfl

section Bounds

variable {objects : Address → DL} {opened : DlRes}

/-- The handle of a run that has moved the cursor by some bytes in all. -/
structure Moved (opened : DlRes) (spent : Nat) (res : DlRes) : Prop where
  dl : res.dl = opened.dl
  cursor : res.currentFileOffset =
    opened.startFileOffset + BitVec.ofNat 32 spent
  inside : spent ≤ opened.ent.size.toNat

/-- The bytes that the next call copies start where the cursor is. -/
theorem Moved.source_eq {spent : Nat} {res : DlRes}
    (moved : Moved opened spent res) :
    res.source objects =
      (objects opened.dl).fileBytes + opened.startFileOffset +
        BitVec.ofNat 32 spent := by
  rw [DlRes.source, moved.dl, moved.cursor, BitVec.add_assoc]

/-- A call that asks for more than what is left reads the first byte behind the
resource. -/
theorem Moved.fits_of_stays {spent : Nat} {res : DlRes}
    (moved : Moved opened spent res) {memory : Memory} {call : ReadCall}
    (stays : StaysInResource objects opened
      (getDataStep objects (memory, res) call).2) :
    spent + call.bytes ≤ opened.ent.size.toNat := by
  have bound := BitVec.isLt opened.ent.size
  have inside := moved.inside
  have small : call.bytes < 2 ^ 32 := BitVec.isLt _
  by_contra beyond
  have source := stays.source ⟨res.source objects, call.bytes⟩
    List.mem_cons_self
  rw [moved.source_eq] at source
  have last := source ((objects opened.dl).fileBytes +
    opened.startFileOffset + opened.ent.size) (by
      rw [Extent.mem_iff]
      dsimp only
      bv_omega)
  rw [Extent.mem_iff, dlResGetSize] at last
  dsimp only at last
  bv_omega

/-- A call stays in the resource exactly when it asks for no more than what is
left. -/
theorem Moved.stays_iff {spent : Nat} {res : DlRes}
    (moved : Moved opened spent res) (memory : Memory) (call : ReadCall) :
    StaysInResource objects opened
        (getDataStep objects (memory, res) call).2 ↔
      spent + call.bytes ≤ opened.ent.size.toNat := by
  refine ⟨moved.fits_of_stays, fun fits => ⟨?_, ?_, ?_⟩⟩
  · intro extent present
    simp only [getDataStep, dlResGetData, List.mem_cons, Access.read.injEq,
      reduceCtorEq, List.not_mem_nil, or_false] at present
    subst present
    change (⟨res.source objects, call.bytes⟩ : Extent).Inside _
    rw [moved.source_eq]
    have bound := BitVec.isLt opened.ent.size
    apply Extent.inside_of_offset
    rw [BitVec.toNat_ofNat, Nat.mod_eq_of_lt (by omega)]
    exact fits
  · intro extent present
    simp only [getDataStep, dlResGetData, List.mem_cons, reduceCtorEq,
      Access.write.injEq, List.not_mem_nil, or_false, false_or] at present
    subst present
    rfl
  · have bytes : BitVec.ofNat 32 call.bytes = call.size * call.count := by
      rw [ReadCall.bytes, BitVec.ofNat_toNat, BitVec.setWidth_eq]
    have bound := BitVec.isLt opened.ent.size
    change (res.currentFileOffset + call.size * call.count -
      opened.startFileOffset).toNat ≤ _
    rw [moved.cursor, ← bytes]
    bv_omega

/-- The handle after a call that stays in the resource. -/
theorem Moved.advance {spent : Nat} {res : DlRes}
    (moved : Moved opened spent res) {call : ReadCall}
    (fits : spent + call.bytes ≤ opened.ent.size.toNat) :
    Moved opened (spent + call.bytes) (res.advance call) where
  dl := moved.dl
  cursor := by
    rw [DlRes.advance, moved.cursor, BitVec.ofNat_add, ReadCall.bytes,
      BitVec.ofNat_toNat, BitVec.setWidth_eq, BitVec.add_assoc]
  inside := fits

/-- All calls of a run stay in the resource exactly when together they ask for
no more than what is left. -/
theorem Moved.run_iff {spent : Nat} {res : DlRes}
    (moved : Moved opened spent res) (memory : Memory)
    (calls : List ReadCall) :
    (∀ answer ∈ Machine.outputs (getDataStep objects) (memory, res) calls,
        StaysInResource objects opened answer) ↔
      spent + totalBytes calls ≤ opened.ent.size.toNat := by
  induction calls generalizing memory spent res with
  | nil => simp [moved.inside]
  | cons call rest inductionHypothesis =>
      rw [Machine.outputs_cons, List.forall_mem_cons,
        moved.stays_iff memory call, totalBytes_cons]
      by_cases fits : spent + call.bytes ≤ opened.ent.size.toNat
      · have later := inductionHypothesis (moved.advance fits)
          (getDataStep objects (memory, res) call).1.1
        rw [Nat.add_assoc] at later
        rw [← later]
        exact and_iff_right fits
      · constructor
        · exact fun stays => absurd stays.1 fits
        · omega

/-- Every call of a sequence on an opened handle stays in its resource exactly
when the sequence asks for no more bytes in all than the resource has.  The
code compares nothing with its size. -/
theorem reads_stay_iff {memory : Memory} {stack : Nat → Byte}
    {malloc : Word → Address} {dl : Address} {unk4 : Word} {name : CString}
    {p : Address} {res : DlRes}
    (opened : (dlResOpen memory stack malloc objects dl unk4 name).value =
      some (p, res)) (later : Memory) (calls : List ReadCall) :
    (∀ answer ∈ Machine.outputs (getDataStep objects) (later, res) calls,
        StaysInResource objects res answer) ↔
      totalBytes calls ≤ (dlResGetSize res).toNat := by
  have moved : Moved res 0 res := by
    refine ⟨rfl, ?_, Nat.zero_le _⟩
    rw [dlResOpen_start opened]
    exact (BitVec.add_zero _).symm
  have run := @Moved.run_iff objects res 0 res moved later calls
  rwa [Nat.zero_add] at run

theorem reads_stay_iff_sample : ∃ p res, sampleOpened = some (p, res) ∧
    ∀ answer ∈ Machine.outputs (getDataStep fun _ => sampleDl)
      (sampleFile, res) [⟨0x11000000, 2, 1⟩, ⟨0x11000000, 1, 1⟩],
      StaysInResource (fun _ => sampleDl) res answer := by
  obtain ⟨p, res, opened, size⟩ := sampleOpened_size
  refine ⟨p, res, opened, (reads_stay_iff opened sampleFile _).mpr ?_⟩
  rw [dlResGetSize, size]
  decide

/-- A read of four bytes leaves a resource of three. -/
theorem read_past_resource :
    ¬ ∀ (memory later : Memory) (stack : Nat → Byte)
      (malloc : Word → Address) (objects : Address → DL) (dl : Address)
      (unk4 : Word) (name : CString) (p : Address) (res : DlRes)
      (calls : List ReadCall),
        (dlResOpen memory stack malloc objects dl unk4 name).value =
            some (p, res) →
          (∀ call ∈ calls,
            call.size.toNat < 2 ^ 31 ∧ call.count.toNat < 2 ^ 31) →
            ∀ answer ∈ Machine.outputs (getDataStep objects) (later, res)
              calls, StaysInResource objects res answer := by
  intro claimed
  obtain ⟨p, res, opened, size⟩ := sampleOpened_size
  have stays := claimed _ sampleFile _ _ _ _ _ _ p res [⟨0x11000000, 1, 4⟩]
    opened (by decide) _ List.mem_cons_self
  have cursor := stays.cursor
  change (res.currentFileOffset + 1 * 4 - res.startFileOffset).toNat ≤ _
    at cursor
  rw [dlResOpen_start opened, size] at cursor
  bv_omega

end Bounds

end Dl
end GA330
