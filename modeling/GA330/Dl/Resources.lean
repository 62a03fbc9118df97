import GA330.Dl.Bounds
import GA330.Library.Machine
import GA330.Library.Placement
import Mathlib.Data.List.Forall2
import Mathlib.Data.List.Find
import Mathlib.Data.List.Nodup

/-!
# Reading resources back

A resource pack stores the bytes of each resource masked with `0x40`.  A run
opens resources by name and reads them through cursors, in any order and with
any number of cursors on one resource.  What has been read through a cursor is
the beginning of its resource, and the file stays as it was.
-/

namespace GA330
namespace Dl

open ByteMemory

/-- The mask that `dl_res_get_data` removes. -/
def decodeByte (byte : Byte) : Byte := byte ^^^ 0x40

theorem decodeByte_decodeByte (byte : Byte) :
    decodeByte (decodeByte byte) = byte := by
  rw [decodeByte, decodeByte, BitVec.xor_assoc, BitVec.xor_self,
    BitVec.xor_zero]

/-! ## One read -/

/-- After `count` rounds the first `count` bytes are decoded. -/
theorem decodeLoop_write (memory : Memory) (buffer : Address)
    {bytes : List Byte} (small : bytes.length < 2 ^ 32) {count : Nat}
    (bound : count ≤ bytes.length) :
    decodeLoop (write memory buffer bytes) buffer count =
      write memory buffer
        ((bytes.take count).map decodeByte ++ bytes.drop count) := by
  induction count with
  | zero => simp [decodeLoop]
  | succ count inductionHypothesis =>
      have inBytes : count < bytes.length := bound
      have length : ((bytes.take count).map decodeByte ++
          bytes.drop count).length = bytes.length := by
        simp
        omega
      have offset : (buffer + BitVec.ofNat 32 count - buffer).toNat =
          count := by
        bv_omega
      have next : write memory buffer ((bytes.take count).map decodeByte ++
          bytes.drop count) (buffer + BitVec.ofNat 32 count) =
            bytes[count] := by
        rw [write_of_mem (by rw [offset, length]; exact inBytes)]
        simp only [offset]
        rw [List.getElem_append_right (by simp)]
        simp [Nat.min_eq_left (Nat.le_of_lt inBytes)]
      rw [decodeLoop, inductionHypothesis (Nat.le_of_lt inBytes)]
      rw [next, write_write_byte (by rw [length]; exact inBytes)
        (by rw [length]; omega)]
      congr 1
      rw [List.set_append_right _ _ (by simp), List.take_add_one,
        List.map_append, List.append_assoc, List.getElem?_eq_getElem inBytes]
      congr 1
      simp only [List.length_map, List.length_take,
        Nat.min_eq_left (Nat.le_of_lt inBytes), Nat.sub_self]
      rw [List.drop_eq_getElem_cons inBytes]
      rfl

/-- Reading bytes: the decoded bytes land in the buffer, and the cursor moves
past them. -/
theorem dlResGetData_value (memory : Memory) (objects : Address → DL)
    (res : DlRes) (buffer : Address) (count : Word) :
    (dlResGetData memory objects res buffer 1 count).value =
      (write memory buffer ((read memory
          ((objects res.dl).fileBytes + res.currentFileOffset)
          count.toNat).map decodeByte),
        { res with currentFileOffset := res.currentFileOffset + count },
        count) := by
  have unit : (1 : Word) * count = count := by simp
  simp only [dlResGetData, unit]
  rw [decodeLoop_write memory buffer
    (by rw [length_read]; exact BitVec.isLt count) (by simp)]
  rw [List.take_of_length_le (by simp), List.drop_of_length_le (by simp),
    List.append_nil]

/-! ## Resource packs -/

/-- A resource. -/
structure Resource where
  name : CString
  bytes : List Byte
  deriving DecidableEq

/-- Where the bytes of an entry lie. -/
def dataExtent (file : Extent) (shdr : SectionHeader) (ent : ErptEntry) :
    Extent :=
  ⟨file.start + (shdr.offset + ent.offset), ent.size.toNat⟩

/-- An entry of the resource section describes a resource. -/
structure Describes (memory : Memory) (file : Extent)
    (shdr : SectionHeader) (ent : ErptEntry) (resource : Resource) :
    Prop where
  terminated : ent.Terminated
  name : ent.name = resource.name
  size : ent.size.toNat = resource.bytes.length
  inside : (dataExtent file shdr ent).Inside file
  encoded : read memory (dataExtent file shdr ent).start ent.size.toNat =
    resource.bytes.map decodeByte

/-- A file with a resource section that holds the given resources. -/
structure ResourcePack (memory : Memory) (file : Extent)
    (shdr : SectionHeader) (pack : List Resource) : Prop where
  fileSize : file.size < 2 ^ 31
  sections : ∀ i < sectionCount memory file.start,
    (⟨sectionHeaderAddress file.start i, sizeofSectionHeader⟩ :
      Extent).Inside file
  located : resourceSection memory file.start = some shdr
  readable : ResourcesReadable memory file (file.start + shdr.offset)
  entries : List.Forall₂ (Describes memory file shdr)
    (resourceEntries memory (file.start + shdr.offset)) pack
  distinct : (pack.map Resource.name).Nodup

/-- In a memory that agrees on the file, `dl_res_open` searches the entries of
the file. -/
theorem dlResOpen_described {memory current : Memory} {file : Extent}
    {objects : Address → DL} {dl : Address} {fileSize : Word}
    (agree : AgreeOn file memory current)
    (sections : ∀ i < sectionCount memory file.start,
      (⟨sectionHeaderAddress file.start i, sizeofSectionHeader⟩ :
        Extent).Inside file)
    (readable : ∀ shdr ∈ resourceSection memory file.start,
      ResourcesReadable memory file (file.start + shdr.offset))
    (filled : objects dl =
      ⟨file.start, fileSize, CcdlHeader.ofMemory memory file.start⟩)
    (stack : Nat → Byte) (malloc : Word → Address) (unk4 : Word)
    (name : CString) :
    (dlResOpen current stack malloc objects dl unk4 name).value =
      (resourceSection memory file.start).bind fun shdr =>
        ((resourceEntries memory (file.start + shdr.offset)).find?
          (ErptEntry.isNamed stack name)).map fun ent =>
            (malloc sizeofDlRes, DlRes.opened dl shdr ent) := by
  have same : resourceSection memory file.start =
      firstSection current file.start
        (CcdlHeader.ofMemory memory file.start).numSections.toNat
        sectionResources :=
    firstSection_congr agree sections sectionResources
  rw [dlResOpen_value, filled]
  dsimp only
  rw [← same]
  cases located : resourceSection memory file.start with
  | none => rw [Option.bind_none, Option.bind_none]
  | some shdr =>
      rw [Option.bind_some, Option.bind_some,
        (readable shdr located).resourceEntries_congr agree]

theorem length_filename {memory : Memory} {table : Address}
    {ent : ErptEntry} (present : ent ∈ resourceEntries memory table) :
    ent.filename.length = 500 := by
  obtain ⟨entry, _, rfl⟩ := List.mem_map.mp present
  simp [ErptEntry.ofMemory]

/-- Comparing terminated entries compares their names. -/
theorem find?_isNamed {memory : Memory} {table : Address}
    (terminated : ∀ ent ∈ resourceEntries memory table, ent.Terminated)
    (stack : Nat → Byte) (name : CString) :
    (resourceEntries memory table).find? (ErptEntry.isNamed stack name) =
      (resourceEntries memory table).find?
        fun ent => ent.name = name := by
  apply List.find?_congr
  intro ent present
  rw [Bool.eq_iff_iff, decide_eq_true_iff]
  exact ErptEntry.isNamed_iff (terminated ent present)
    (by rw [length_filename present]; omega) stack name

theorem terminated_of_described {memory : Memory} {file : Extent}
    {shdr : SectionHeader} {entries : List ErptEntry}
    {pack : List Resource}
    (described : List.Forall₂ (Describes memory file shdr) entries pack)
    {ent : ErptEntry} (present : ent ∈ entries) : ent.Terminated := by
  induction described with
  | nil => contradiction
  | cons head tail inductionHypothesis =>
      rcases List.mem_cons.mp present with rfl | inTail
      · exact head.terminated
      · exact inductionHypothesis inTail

/-- Searching described entries is searching the resources. -/
theorem find?_described {memory : Memory} {file : Extent}
    {shdr : SectionHeader} {entries : List ErptEntry}
    {pack : List Resource}
    (described : List.Forall₂ (Describes memory file shdr) entries pack)
    (name : CString) :
    match entries.find? (fun ent => ent.name = name) with
    | none => name ∉ pack.map Resource.name
    | some ent => ∃ resource ∈ pack, resource.name = name ∧
        Describes memory file shdr ent resource := by
  induction described with
  | nil => simp
  | @cons ent resource entries pack head tail inductionHypothesis =>
      by_cases equal : ent.name = name
      · rw [List.find?_cons_of_pos (by simpa using equal)]
        exact ⟨resource, by simp, head.name.symm.trans equal, head⟩
      · rw [List.find?_cons_of_neg (by simpa using equal)]
        have different : name ≠ resource.name := by
          intro same
          exact equal (head.name.trans same.symm)
        cases search : entries.find? (fun ent => ent.name = name) with
        | none =>
            rw [search] at inductionHypothesis
            simpa [different] using inductionHypothesis
        | some found =>
            rw [search] at inductionHypothesis
            obtain ⟨other, present, named, describes⟩ := inductionHypothesis
            exact ⟨other, List.mem_cons_of_mem resource present, named,
              describes⟩

/-! ## Runs -/

/-- Byte memory, and the `DL_res_t` objects that were opened. -/
structure ResourceState where
  memory : Memory
  handles : Address → Option DlRes

/-- Nothing has been opened. -/
def ResourceState.initial (memory : Memory) : ResourceState :=
  ⟨memory, fun _ => none⟩

/-- The memory of a `DL_res_t`. -/
def resExtent (res : Address) : Extent := ⟨res, sizeofDlRes.toNat⟩

/-- A call of the application.  The stack above the local variables of
`dl_res_open` is whatever it happens to be, and `malloc` returns what it
returns. -/
inductive ResourceCall
  | open (name : CString) (stack : Nat → Byte) (malloc : Word → Address)
  | getData (res : Address) (buffer : Address) (count : Word)

/-- What a call gives the application: a handle or `NULL`, or what it returns
and that many bytes of its buffer.  Using a handle that was never opened is
undefined, and so is storing through the null pointer. -/
inductive ResourceAnswer
  | opened (res : Option Address)
  | delivered (res : Address) (returned : Word) (bytes : List Byte)
  | undefined
  deriving DecidableEq

/-- One call: `dl_res_open(dl, 0, name)` or
`dl_res_get_data(res, buffer, 1, count)`. -/
def resourceStep (objects : Address → DL) (dl : Address)
    (state : ResourceState) : ResourceCall → ResourceState × ResourceAnswer
  | .open name stack malloc =>
      match (dlResOpen state.memory stack malloc objects dl 0 name).value with
      | none => (state, .opened none)
      | some (p, res) =>
          if p = 0 then (state, .undefined)
          else
            ({ state with
              handles := Function.update state.handles p (some res) },
              .opened (some p))
  | .getData p buffer count =>
      match state.handles p with
      | none => (state, .undefined)
      | some res =>
          let (memory, moved, numToRead) :=
            (dlResGetData state.memory objects res buffer 1 count).value
          ({ memory := memory,
             handles := Function.update state.handles p (some moved) },
            .delivered p numToRead (read memory buffer numToRead.toNat))

/-- Calls that the application may make: reads through open handles, for a
non-negative `int` count, into buffers apart from the file and from the
handles.  When a resource is opened, `malloc` finds a block for it, apart from
the file and from the handles. -/
def ResourceAllowed (file : Extent) (state : ResourceState) :
    ResourceCall → Prop
  | .open _ _ malloc =>
      malloc sizeofDlRes ≠ 0 ∧
        (resExtent (malloc sizeofDlRes)).Disjoint file ∧
          ∀ p, (state.handles p).isSome = true →
            (resExtent (malloc sizeofDlRes)).Disjoint (resExtent p)
  | .getData p buffer count =>
      (state.handles p).isSome = true ∧ count.toNat < 2 ^ 31 ∧
        (⟨buffer, count.toNat⟩ : Extent).Disjoint file ∧
          ∀ other, (state.handles other).isSome = true →
            (⟨buffer, count.toNat⟩ : Extent).Disjoint (resExtent other)

/-- A run's calls with their answers. -/
abbrev ResourceLog := List (ResourceCall × ResourceAnswer)

/-- The bytes that one answer delivers through a handle. -/
def ResourceAnswer.bytesFor (handle : Address) : ResourceAnswer → List Byte
  | .opened _ => []
  | .delivered source _ bytes => if source = handle then bytes else []
  | .undefined => []

/-- The bytes that were delivered through a handle. -/
def deliveredTo (handle : Address) (log : ResourceLog) : List Byte :=
  log.flatMap fun entry => entry.2.bytesFor handle

theorem deliveredTo_concat (handle : Address) (log : ResourceLog)
    (call : ResourceCall) (answer : ResourceAnswer) :
    deliveredTo handle (log ++ [(call, answer)]) =
      deliveredTo handle log ++ answer.bytesFor handle := by
  simp [deliveredTo]

@[simp] theorem deliveredTo_opened (handle : Address) (log : ResourceLog)
    (call : ResourceCall) (opened : Option Address) :
    deliveredTo handle (log ++ [(call, .opened opened)]) =
      deliveredTo handle log := by
  rw [deliveredTo_concat, ResourceAnswer.bytesFor, List.append_nil]

section Runs

variable {memory : Memory} {file : Extent} {shdr : SectionHeader}
variable {pack : List Resource} {objects : Address → DL} {dl : Address}
variable {fileSize : Word}

/-- A cursor stands behind the bytes that were read through it. -/
structure CursorBehind (memory : Memory) (file : Extent)
    (shdr : SectionHeader) (dl : Address) (resource : Resource)
    (res : DlRes) (delivered : List Byte) : Prop where
  handle : res.dl = dl
  describes : Describes memory file shdr res.ent resource
  position : res.currentFileOffset =
    shdr.offset + res.ent.offset + BitVec.ofNat 32 delivered.length
  content : delivered.length ≤ resource.bytes.length →
    delivered = resource.bytes.take delivered.length

/-- One more read moves the cursor behind the bytes it delivers. -/
theorem CursorBehind.getData {current : Memory} {resource : Resource}
    {res : DlRes} {delivered : List Byte}
    (cursor : CursorBehind memory file shdr dl resource res delivered)
    (agree : AgreeOn file memory current) (count : Word) :
    CursorBehind memory file shdr dl resource
      { res with currentFileOffset := res.currentFileOffset + count }
      (delivered ++ (read current (file.start + res.currentFileOffset)
        count.toNat).map decodeByte) where
  handle := cursor.handle
  describes := cursor.describes
  position := by
    dsimp only
    rw [cursor.position, List.length_append, List.length_map, length_read,
      BitVec.ofNat_add, BitVec.ofNat_toNat, BitVec.setWidth_eq,
      BitVec.add_assoc]
  content := by
    intro fits
    rw [List.length_append, List.length_map, length_read] at fits ⊢
    have start : file.start + res.currentFileOffset =
        (dataExtent file shdr res.ent).start +
          BitVec.ofNat 32 delivered.length := by
      simp only [cursor.position, dataExtent, BitVec.add_assoc]
    have unchanged : AgreeOn (dataExtent file shdr res.ent) memory current :=
      agree.mono cursor.describes.inside
    have whole : read current (dataExtent file shdr res.ent).start
        resource.bytes.length = resource.bytes.map decodeByte := by
      rw [← cursor.describes.encoded, ← cursor.describes.size]
      exact (read_congr unchanged).symm
    have masked : decodeByte ∘ decodeByte = id := by
      funext byte
      exact decodeByte_decodeByte byte
    rw [start, read_slice current _ fits, whole, List.map_take,
      List.map_drop, List.map_map, masked, List.map_id, List.take_add]
    congr 1
    exact cursor.content (by omega)

/-- What every run keeps true. -/
structure PackInvariant (memory : Memory) (file : Extent)
    (shdr : SectionHeader) (pack : List Resource) (dl : Address)
    (state : ResourceState) (log : ResourceLog) : Prop where
  image : AgreeOn file memory state.memory
  cursors : ∀ handle res, state.handles handle = some res →
    ∃ resource ∈ pack, CursorBehind memory file shdr dl resource res
      (deliveredTo handle log)
  fresh : ∀ handle, state.handles handle = none →
    deliveredTo handle log = []
  opened : ∀ name stack malloc handle,
    (ResourceCall.open name stack malloc,
        ResourceAnswer.opened (some handle)) ∈ log →
      ∃ res, state.handles handle = some res ∧ res.ent.name = name
  absent : ∀ name stack malloc,
    (ResourceCall.open name stack malloc, ResourceAnswer.opened none) ∈
        log → name ∉ pack.map Resource.name
  answered : ∀ name stack malloc answer,
    (ResourceCall.open name stack malloc, answer) ∈ log →
      ∃ handle, answer = .opened handle
  counted : ∀ handle buffer count answer,
    (ResourceCall.getData handle buffer count, answer) ∈ log →
      ∃ bytes, answer = .delivered handle count bytes ∧
        bytes.length = count.toNat

/-- Opening a resource gives a handle on the entry that describes it, or
nothing when the pack has no resource of the name. -/
theorem resourceStep_open
    (packed : ResourcePack memory file shdr pack)
    (filled : objects dl =
      ⟨file.start, fileSize, CcdlHeader.ofMemory memory file.start⟩)
    {state : ResourceState} (image : AgreeOn file memory state.memory)
    (name : CString) (stack : Nat → Byte) {malloc : Word → Address}
    (room : malloc sizeofDlRes ≠ 0) :
    (name ∉ pack.map Resource.name ∧
      resourceStep objects dl state (.open name stack malloc) =
        (state, .opened none)) ∨
      ∃ ent, ∃ resource ∈ pack, ent.name = name ∧
        Describes memory file shdr ent resource ∧
        resourceStep objects dl state (.open name stack malloc) =
          ({ state with
              handles := Function.update state.handles (malloc sizeofDlRes)
                (some (DlRes.opened dl shdr ent)) },
            .opened (some (malloc sizeofDlRes))) := by
  have readable : ∀ found ∈ resourceSection memory file.start,
      ResourcesReadable memory file (file.start + found.offset) := by
    intro found located
    cases packed.located.symm.trans located
    exact packed.readable
  have terminated : ∀ ent ∈ resourceEntries memory
      (file.start + shdr.offset), ent.Terminated := by
    intro ent present
    exact terminated_of_described packed.entries present
  have value := dlResOpen_described image packed.sections readable
    filled stack malloc 0 name
  rw [packed.located, Option.bind_some,
    find?_isNamed terminated stack name] at value
  have described := find?_described packed.entries name
  cases search : (resourceEntries memory (file.start + shdr.offset)).find?
      (fun ent => ent.name = name) with
  | none =>
      rw [search] at value described
      refine Or.inl ⟨described, ?_⟩
      simp only [resourceStep, value, Option.map_none]
  | some ent =>
      rw [search] at value described
      obtain ⟨resource, inPack, _, describes⟩ := described
      have named : ent.name = name := by
        simpa using List.find?_some search
      refine Or.inr ⟨ent, resource, inPack, named, describes, ?_⟩
      simp only [resourceStep, value, Option.map_some, if_neg room]

/-- An entry of a log that is continued is an old one or the new one. -/
theorem mem_concat {log : ResourceLog} {call now : ResourceCall}
    {answer new : ResourceAnswer}
    (present : (call, answer) ∈ log ++ [(now, new)]) :
    (call, answer) ∈ log ∨ call = now ∧ answer = new := by
  rw [List.mem_append, List.mem_singleton, Prod.mk.injEq] at present
  exact present

/-- An open that finds nothing. -/
theorem PackInvariant.notFound {state : ResourceState} {log : ResourceLog}
    (holds : PackInvariant memory file shdr pack dl state log)
    {name : CString} (stack : Nat → Byte) (malloc : Word → Address)
    (missing : name ∉ pack.map Resource.name) :
    PackInvariant memory file shdr pack dl state
      (log ++ [(.open name stack malloc, .opened none)]) where
  image := holds.image
  cursors := by simpa using holds.cursors
  fresh := by simpa using holds.fresh
  opened := by
    intro other otherStack otherMalloc handle present
    rcases mem_concat present with earlier | ⟨_, now⟩
    · exact holds.opened other otherStack otherMalloc handle earlier
    · simp at now
  absent := by
    intro other otherStack otherMalloc present
    rcases mem_concat present with earlier | ⟨now, _⟩
    · exact holds.absent other otherStack otherMalloc earlier
    · cases now
      exact missing
  answered := by
    intro other otherStack otherMalloc answer present
    rcases mem_concat present with earlier | ⟨_, now⟩
    · exact holds.answered other otherStack otherMalloc answer earlier
    · exact ⟨none, now⟩
  counted := by
    intro handle buffer count answer present
    rcases mem_concat present with earlier | ⟨now, _⟩
    · exact holds.counted handle buffer count answer earlier
    · contradiction

/-- An open that adds a handle. -/
theorem PackInvariant.found {state : ResourceState} {log : ResourceLog}
    (holds : PackInvariant memory file shdr pack dl state log)
    {ent : ErptEntry} {resource : Resource} (inPack : resource ∈ pack)
    (describes : Describes memory file shdr ent resource)
    (stack : Nat → Byte) {malloc : Word → Address}
    (unused : state.handles (malloc sizeofDlRes) = none) :
    PackInvariant memory file shdr pack dl
      { state with
        handles := Function.update state.handles (malloc sizeofDlRes)
          (some (DlRes.opened dl shdr ent)) }
      (log ++ [(.open ent.name stack malloc,
        .opened (some (malloc sizeofDlRes)))]) where
  image := holds.image
  cursors := by
    intro handle res found
    rw [deliveredTo_opened]
    dsimp only at found
    by_cases new : handle = malloc sizeofDlRes
    · subst new
      rw [Function.update_self] at found
      cases found
      have nothing := holds.fresh _ unused
      refine ⟨resource, inPack, rfl, describes, ?_, ?_⟩
      · simp [nothing, DlRes.opened]
      · simp [nothing]
    · rw [Function.update_of_ne new] at found
      exact holds.cursors handle res found
  fresh := by
    intro handle absent
    rw [deliveredTo_opened]
    dsimp only at absent
    by_cases new : handle = malloc sizeofDlRes
    · rw [new]
      exact holds.fresh _ unused
    · rw [Function.update_of_ne new] at absent
      exact holds.fresh handle absent
  opened := by
    intro other otherStack otherMalloc handle present
    dsimp only
    rcases mem_concat present with earlier | ⟨named, now⟩
    · obtain ⟨res, found, same⟩ :=
        holds.opened other otherStack otherMalloc handle earlier
      have old : handle ≠ malloc sizeofDlRes := by
        rintro rfl
        rw [unused] at found
        contradiction
      exact ⟨res, by rwa [Function.update_of_ne old], same⟩
    · cases named
      cases now
      exact ⟨_, Function.update_self _ _ _, rfl⟩
  absent := by
    intro other otherStack otherMalloc present
    rcases mem_concat present with earlier | ⟨_, now⟩
    · exact holds.absent other otherStack otherMalloc earlier
    · simp at now
  answered := by
    intro other otherStack otherMalloc answer present
    rcases mem_concat present with earlier | ⟨_, now⟩
    · exact holds.answered other otherStack otherMalloc answer earlier
    · exact ⟨_, now⟩
  counted := by
    intro handle buffer count answer present
    rcases mem_concat present with earlier | ⟨now, _⟩
    · exact holds.counted handle buffer count answer earlier
    · contradiction

/-- Reading through a handle stores the next decoded bytes and moves the
cursor. -/
theorem resourceStep_getData {state : ResourceState} {handle : Address}
    {buffer : Address} {count : Word} {res : DlRes}
    (found : state.handles handle = some res)
    (start : (objects res.dl).fileBytes = file.start)
    (small : count.toNat < 2 ^ 31) :
    let piece := (read state.memory (file.start + res.currentFileOffset)
      count.toNat).map decodeByte
    resourceStep objects dl state (.getData handle buffer count) =
      ({ memory := write state.memory buffer piece,
         handles := Function.update state.handles handle
          (some { res with
            currentFileOffset := res.currentFileOffset + count }) },
        .delivered handle count piece) := by
  intro piece
  have length : piece.length = count.toNat := by simp [piece]
  have readBack : read (write state.memory buffer piece) buffer
      count.toNat = piece := by
    rw [← length]
    exact read_write_self (by rw [length]; omega)
  simp only [resourceStep, found, dlResGetData_value, start]
  rw [readBack]

/-- A read through a handle. -/
theorem PackInvariant.delivered {state : ResourceState} {log : ResourceLog}
    (holds : PackInvariant memory file shdr pack dl state log)
    {handle : Address} {res : DlRes}
    (found : state.handles handle = some res)
    {buffer : Address} {count : Word}
    (apart : (⟨buffer, count.toNat⟩ : Extent).Disjoint file) :
    let piece := (read state.memory (file.start + res.currentFileOffset)
      count.toNat).map decodeByte
    PackInvariant memory file shdr pack dl
      { memory := write state.memory buffer piece,
        handles := Function.update state.handles handle
          (some { res with
            currentFileOffset := res.currentFileOffset + count }) }
      (log ++ [(.getData handle buffer count,
        .delivered handle count piece)]) := by
  intro piece
  constructor
  · refine holds.image.trans (agreeOn_write ?_).symm
    rw [List.length_map, length_read]
    exact apart
  · intro other otherRes present
    rw [deliveredTo_concat, ResourceAnswer.bytesFor]
    dsimp only at present
    by_cases same : other = handle
    · subst same
      rw [Function.update_self] at present
      cases present
      rw [if_pos rfl]
      obtain ⟨resource, inPack, cursor⟩ := holds.cursors other res found
      exact ⟨resource, inPack, cursor.getData holds.image count⟩
    · rw [Function.update_of_ne same] at present
      rw [if_neg (Ne.symm same), List.append_nil]
      exact holds.cursors other otherRes present
  · intro other absent
    dsimp only at absent
    have different : other ≠ handle := by
      rintro rfl
      rw [Function.update_self] at absent
      contradiction
    rw [Function.update_of_ne different] at absent
    rw [deliveredTo_concat, ResourceAnswer.bytesFor,
      if_neg (Ne.symm different), List.append_nil]
    exact holds.fresh other absent
  · intro name stack malloc other present
    dsimp only
    rcases mem_concat present with earlier | ⟨now, _⟩
    · obtain ⟨otherRes, otherFound, named⟩ :=
        holds.opened name stack malloc other earlier
      by_cases same : other = handle
      · subst same
        cases found.symm.trans otherFound
        exact ⟨_, Function.update_self _ _ _, named⟩
      · exact ⟨otherRes, by rwa [Function.update_of_ne same], named⟩
    · contradiction
  · intro name stack malloc present
    rcases mem_concat present with earlier | ⟨now, _⟩
    · exact holds.absent name stack malloc earlier
    · contradiction
  · intro name stack malloc answer present
    rcases mem_concat present with earlier | ⟨now, _⟩
    · exact holds.answered name stack malloc answer earlier
    · contradiction
  · intro other otherBuffer otherCount answer present
    rcases mem_concat present with earlier | ⟨named, now⟩
    · exact holds.counted other otherBuffer otherCount answer earlier
    · cases named
      exact ⟨piece, now, by simp [piece]⟩

/-- Every allowed call keeps the invariant. -/
theorem PackInvariant.step
    (packed : ResourcePack memory file shdr pack)
    (filled : objects dl =
      ⟨file.start, fileSize, CcdlHeader.ofMemory memory file.start⟩)
    (state : ResourceState) (log : ResourceLog) (call : ResourceCall)
    (allowed : ResourceAllowed file state call)
    (holds : PackInvariant memory file shdr pack dl state log) :
    PackInvariant memory file shdr pack dl
      (resourceStep objects dl state call).1
      (log ++ [(call, (resourceStep objects dl state call).2)]) := by
  cases call with
  | «open» name stack malloc =>
      obtain ⟨room, _, apart⟩ := allowed
      rcases resourceStep_open packed filled holds.image name stack room with
        ⟨missing, taken⟩ | ⟨ent, resource, inPack, rfl, describes, taken⟩
      · rw [taken]
        exact holds.notFound stack malloc missing
      · have unused : state.handles (malloc sizeofDlRes) = none := by
          rw [← Option.not_isSome_iff_eq_none]
          intro used
          have start : malloc sizeofDlRes ∈
              resExtent (malloc sizeofDlRes) := by
            rw [Extent.mem_iff, resExtent, BitVec.sub_self]
            change 0 < 520
            decide
          exact apart _ used _ start start
        rw [taken]
        exact holds.found inPack describes stack unused
  | getData handle buffer count =>
      obtain ⟨isOpen, small, apart, _⟩ := allowed
      obtain ⟨res, found⟩ := Option.isSome_iff_exists.mp isOpen
      obtain ⟨resource, _, cursor⟩ := holds.cursors handle _ found
      have start : (objects res.dl).fileBytes = file.start := by
        rw [cursor.handle, filled]
      rw [resourceStep_getData found start small]
      exact holds.delivered found apart

/-- Reading a resource pack back, over any run of calls: an open gives `NULL`
exactly for a name that is not in the pack, a read delivers as many bytes as it
asks for, and what the reads through a handle deliver are consecutive pieces of
its resource, as long as they ask for no more than its size. -/
theorem pack_round_trip
    (packed : ResourcePack memory file shdr pack)
    (filled : objects dl =
      ⟨file.start, fileSize, CcdlHeader.ofMemory memory file.start⟩)
    {calls : List ResourceCall}
    (allowed : Machine.Admissible (resourceStep objects dl)
      (ResourceAllowed file) (.initial memory) calls) :
    let log := Machine.log (resourceStep objects dl) (.initial memory) calls
    let final :=
      Machine.final (resourceStep objects dl) (.initial memory) calls
    (∀ name stack malloc answer,
      (ResourceCall.open name stack malloc, answer) ∈ log →
        ∃ handle, answer = .opened handle ∧
          (handle = none ↔ name ∉ pack.map Resource.name)) ∧
      (∀ handle buffer count answer,
        (ResourceCall.getData handle buffer count, answer) ∈ log →
          ∃ bytes, answer = .delivered handle count bytes ∧
            bytes.length = count.toNat) ∧
      (∀ name stack malloc handle,
        (ResourceCall.open name stack malloc,
            ResourceAnswer.opened (some handle)) ∈ log →
          ∃ res, final.handles handle = some res ∧
            ∀ resource ∈ pack, resource.name = name →
              (dlResGetSize res).toNat = resource.bytes.length ∧
                ((deliveredTo handle log).length ≤
                    (dlResGetSize res).toNat →
                  deliveredTo handle log = resource.bytes.take
                    (deliveredTo handle log).length)) ∧
      AgreeOn file memory final.memory := by
  intro log final
  have initially : PackInvariant memory file shdr pack dl (.initial memory)
      [] := by
    constructor
    · exact AgreeOn.refl file memory
    all_goals simp [deliveredTo, ResourceState.initial]
  have holds : PackInvariant memory file shdr pack dl final log :=
    Machine.final_log_invariant (resourceStep objects dl)
      (PackInvariant.step packed filled) initially allowed
  have known : ∀ name stack malloc handle,
      (ResourceCall.open name stack malloc,
          ResourceAnswer.opened (some handle)) ∈ log →
        ∃ res, final.handles handle = some res ∧
          ∃ resource ∈ pack, resource.name = name ∧
            CursorBehind memory file shdr dl resource res
              (deliveredTo handle log) := by
    intro name stack malloc handle present
    obtain ⟨res, found, named⟩ :=
      holds.opened name stack malloc handle present
    obtain ⟨resource, inPack, cursor⟩ := holds.cursors handle res found
    exact ⟨res, found, resource, inPack,
      cursor.describes.name.symm.trans named, cursor⟩
  refine ⟨?_, holds.counted, ?_, holds.image⟩
  · intro name stack malloc answer present
    obtain ⟨handle, rfl⟩ := holds.answered name stack malloc answer present
    refine ⟨handle, rfl, ?_⟩
    cases handle with
    | none => simpa using holds.absent name stack malloc present
    | some handle =>
        obtain ⟨_, _, resource, inPack, named, _⟩ :=
          known name stack malloc handle present
        have listed : name ∈ pack.map Resource.name :=
          List.mem_map.mpr ⟨resource, inPack, named⟩
        simp [listed]
  · intro name stack malloc handle present
    obtain ⟨res, found, resource, inPack, named, cursor⟩ :=
      known name stack malloc handle present
    refine ⟨res, found, ?_⟩
    intro other otherInPack otherNamed
    obtain rfl : resource = other :=
      List.inj_on_of_nodup_map packed.distinct inPack otherInPack
        (named.trans otherNamed.symm)
    have size : (dlResGetSize res).toNat = resource.bytes.length :=
      cursor.describes.size
    exact ⟨size, fun total => cursor.content (size ▸ total)⟩

end Runs

/-! ## The sample file -/

/-- The resource of the sample file. -/
def sampleResource : Resource := ⟨cstring [0x61], [1, 2, 3]⟩

/-- The `DL_t` that loading the sample file fills. -/
def sampleDl : DL :=
  ⟨0x30000000, 763, CcdlHeader.ofMemory sampleFile 0x30000000⟩

theorem sampleFile_pack :
    ResourcePack sampleFile sampleExtent (sampleSection 7 248 515)
      [sampleResource] where
  fileSize := by decide
  sections := sampleFile_readable.sections
  located := by
    change resourceSection sampleFile 0x30000000 = _
    rw [resourceSection, sampleFile_sectionCount,
      sampleFile_resourceSection]
  readable := sampleFile_resourcesReadable
  entries := by
    have addresses : recordAddresses sizeofErptEntry (0x30000000 + 248 + 4)
        (loadWord sampleFile (0x30000000 + 248)).toNat = [0x300000FC] := by
      decide +kernel
    have entries : resourceEntries sampleFile (0x30000000 + 248) =
        [ErptEntry.ofMemory sampleFile 0x300000FC] := by
      rw [resourceEntries, addresses, List.map_singleton]
    change List.Forall₂ _ (resourceEntries sampleFile (0x30000000 + 248)) _
    rw [entries]
    refine .cons ⟨?_, ?_, ?_, ?_, ?_⟩ .nil
    · rw [ErptEntry.Terminated]
      decide +kernel
    · decide +kernel
    · decide +kernel
    · exact Extent.inside_of_start (by decide +kernel)
    · decide +kernel
  distinct := List.nodup_singleton _

/-- Two handles on one resource, read in turns. -/
def sampleCalls : List ResourceCall :=
  [.open sampleResource.name (fun _ => 0) (fun _ => 0x10200000),
    .getData 0x10200000 0x11000000 2,
    .open sampleResource.name (fun _ => 1) (fun _ => 0x10200208),
    .getData 0x10200208 0x11000000 3, .getData 0x10200000 0x11000010 1]

/-- The blocks that a call may turn into handles. -/
def ResourceCall.blocks : ResourceCall → List Address
  | .open _ _ malloc => [malloc sizeofDlRes]
  | .getData _ _ _ => []

/-- Handles are blocks of `malloc`. -/
theorem resourceStep_handles {objects : Address → DL} {dl : Address}
    {state : ResourceState} {call : ResourceCall} {p : Address}
    (present : ((resourceStep objects dl state call).1.handles p).isSome =
      true) : (state.handles p).isSome = true ∨ p ∈ call.blocks := by
  cases call with
  | «open» name stack malloc =>
      by_cases new : p = malloc sizeofDlRes
      · exact .inr (List.mem_singleton.mpr new)
      · left
        rw [resourceStep, dlResOpen_value] at present
        split at present
        · exact present
        · rename_i q res found
          obtain ⟨shdr, _, search⟩ := Option.bind_eq_some_iff.mp found
          obtain ⟨ent, _, equal⟩ := Option.map_eq_some_iff.mp search
          cases equal
          split at present
          · exact present
          · dsimp only at present
            rwa [Function.update_of_ne new] at present
  | getData q buffer count =>
      left
      rw [resourceStep] at present
      split at present
      · exact present
      · rename_i res found
        dsimp only at present
        by_cases same : p = q
        · rw [same, found]
          rfl
        · rwa [Function.update_of_ne same] at present

/-- The handles are among these blocks. -/
def ResourceState.Among (state : ResourceState) (blocks : List Address) :
    Prop :=
  ∀ p, (state.handles p).isSome = true → p ∈ blocks

theorem ResourceState.Among.step {state : ResourceState}
    {blocks : List Address} (among : state.Among blocks)
    (objects : Address → DL) (dl : Address) (call : ResourceCall) :
    (resourceStep objects dl state call).1.Among (call.blocks ++ blocks) := by
  intro p present
  rcases resourceStep_handles present with old | new
  · exact List.mem_append_right _ (among p old)
  · exact List.mem_append_left _ new

theorem ResourceState.Among.apart {state : ResourceState}
    {blocks : List Address} (among : state.Among blocks) {extent : Extent}
    (separate : blocks.all
      (fun p => decide (extent.Separate (resExtent p))) = true)
    (p : Address) (present : (state.handles p).isSome = true) :
    extent.Disjoint (resExtent p) :=
  (of_decide_eq_true
    (List.all_eq_true.mp separate p (among p present))).disjoint

theorem sampleCalls_allowed :
    Machine.Admissible (resourceStep (fun _ => sampleDl) 0)
      (ResourceAllowed sampleExtent) (.initial sampleFile) sampleCalls := by
  have start : (ResourceState.initial sampleFile).Among [] := nofun
  have first := start.step (fun _ => sampleDl) 0
    (.open sampleResource.name (fun _ => 0) (fun _ => 0x10200000))
  have second := first.step (fun _ => sampleDl) 0
    (.getData 0x10200000 0x11000000 2)
  have third := second.step (fun _ => sampleDl) 0
    (.open sampleResource.name (fun _ => 1) (fun _ => 0x10200208))
  have fourth := third.step (fun _ => sampleDl) 0
    (.getData 0x10200208 0x11000000 3)
  simp only [sampleCalls, Machine.Admissible, ResourceAllowed, and_true]
  refine ⟨⟨?_, ?_, ?_⟩, ⟨?_, ?_, ?_, ?_⟩, ⟨?_, ?_, ?_⟩, ⟨?_, ?_, ?_, ?_⟩,
    ?_, ?_, ?_, ?_⟩
  · decide
  · exact Extent.disjoint_of_end_le (by decide) (by decide)
  · exact start.apart (by decide)
  · decide +kernel
  · decide
  · exact Extent.disjoint_of_end_le (by decide) (by decide)
  · exact first.apart (by decide)
  · decide
  · exact Extent.disjoint_of_end_le (by decide) (by decide)
  · exact second.apart (by decide)
  · decide +kernel
  · decide
  · exact Extent.disjoint_of_end_le (by decide) (by decide)
  · exact third.apart (by decide)
  · decide +kernel
  · decide
  · exact Extent.disjoint_of_end_le (by decide) (by decide)
  · exact fourth.apart (by decide)

theorem pack_round_trip_sample :
    deliveredTo 0x10200000 (Machine.log
      (resourceStep (fun _ => sampleDl) 0) (.initial sampleFile)
      sampleCalls) = [1, 2, 3] := by
  obtain ⟨_, _, opened, _⟩ := pack_round_trip sampleFile_pack
    (show (fun _ => sampleDl) 0 = _ from rfl) sampleCalls_allowed
  have first : (resourceStep (fun _ => sampleDl) 0 (.initial sampleFile)
      (.open sampleResource.name (fun _ => 0)
        (fun _ => 0x10200000))).2 = .opened (some 0x10200000) := by
    decide +kernel
  obtain ⟨res, _, delivers⟩ := opened sampleResource.name (fun _ => 0)
    (fun _ => 0x10200000) 0x10200000 (by
      rw [sampleCalls, Machine.log_cons, first]
      exact List.mem_cons_self)
  obtain ⟨size, total⟩ := delivers sampleResource (by simp) rfl
  have length : (deliveredTo 0x10200000 (Machine.log
      (resourceStep (fun _ => sampleDl) 0) (.initial sampleFile)
      sampleCalls)).length = 3 := by
    decide +kernel
  rw [length, size] at total
  exact total (by decide)

end Dl
end GA330
