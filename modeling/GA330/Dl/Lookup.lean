import GA330.Dl.Loader

/-!
# Lookups in a loaded file

`dl_get_proc`, `dl_res_open`, `dl_res_get_size` and `dl_res_get_data` of
`dl.c`.  They parse the file again on every call, through the `DL_t` that the
caller passes.  `DL_t` and `DL_res_t` objects are kept in stores of their own,
apart from byte memory; strings passed by the caller are given by their
characters.  `malloc` is a parameter.
-/

namespace GA330
namespace Dl

open ByteMemory Minisys

/-! ## Procedures -/

/-- `strcmp(ent_name, name) == 0` -/
def strcmpName (memory : Memory) (p : Address) (name : CString) :
    Accesses Bool :=
  ⟨CString.equals (bytesFrom memory p) name.bytes,
    [.read ⟨p, CString.compared (bytesFrom memory p) name.bytes⟩]⟩

/-- The loop over the export entries. -/
def searchExports (memory : Memory) (stringTable : Address)
    (name : CString) :
    (remaining : Nat) → (p : Address) → Accesses (Option Address)
  | 0, _ => pure none
  | remaining + 1, p => do
      let ent ← copyImportExportEntry memory p
      let equal ← strcmpName memory (stringTable + ent.nameOffset) name
      if equal then
        return some ent.address
      else
        searchExports memory stringTable name remaining
          (p + BitVec.ofNat 32 sizeofImportExportEntry)

/-- The exported address of a name in the first export section. -/
def searchExportSections (memory : Memory) (dl : DL) (name : CString) :
    Accesses (Option Address) := do
  let section? ← findSection memory dl.fileBytes sectionExport
    dl.hdr.numSections.toNat 0
  match section? with
  | none => return none
  | some shdr =>
      let p := dl.fileBytes + shdr.offset
      let iehdr ← copyImportExportHeader memory p
      searchExports memory (stringTable p iehdr.numEntries) name
        iehdr.numEntries.toNat (entriesStart p)

/-- `dl_get_proc` -/
def dlGetProc (table : List (OsFunction Address)) (memory : Memory)
    (dl : DL) (name : CString) : Accesses (Lookup Address) := do
  let exported ← searchExportSections memory dl name
  match exported with
  | some address => return .found address
  | none => return ccosGetBuiltinProc table name

/-! ## Resources -/

/-- `DL_res_t`; `dl` is the address of the `DL_t` it was opened from. -/
structure DlRes where
  startFileOffset : Word
  currentFileOffset : Word
  dl : Address
  ent : ErptEntry
  deriving DecidableEq

/-- `sizeof(DL_res_t)` -/
def sizeofDlRes : Word := 520

/-- The bytes of the local copy of an entry. -/
def ErptEntry.bytes (ent : ErptEntry) : List Byte :=
  ent.filename ++ wordBytes ent.size ++ wordBytes ent.offset

/-- The bytes from `ent.filename` on: the local copy and then whatever the
stack holds above it. -/
def ErptEntry.source (ent : ErptEntry) (stack : Nat → Byte) : Nat → Byte :=
  fun index =>
    (ent.bytes[index]?).getD (stack (index - ent.bytes.length))

/-- `strcmp(ent.filename, name) == 0` -/
def ErptEntry.isNamed (stack : Nat → Byte) (name : CString)
    (ent : ErptEntry) : Bool :=
  CString.equals (ent.source stack) name.bytes

/-- `memcpy` of a resource entry. -/
def copyErptEntry (memory : Memory) (p : Address) : Accesses ErptEntry :=
  ⟨ErptEntry.ofMemory memory p, [.read ⟨p, sizeofErptEntry⟩]⟩

/-- `memcpy` of the number of resource entries. -/
def copyCount (memory : Memory) (p : Address) : Accesses Word :=
  ⟨loadWord memory p, [.read ⟨p, 4⟩]⟩

/-- The loop over the resource entries. -/
def searchResources (memory : Memory) (stack : Nat → Byte)
    (name : CString) :
    (remaining : Nat) → (p : Address) → Accesses (Option ErptEntry)
  | 0, _ => pure none
  | remaining + 1, p => do
      let ent ← copyErptEntry memory p
      if ent.isNamed stack name then
        return some ent
      else
        searchResources memory stack name remaining
          (p + BitVec.ofNat 32 sizeofErptEntry)

/-- `dl_res_open`: the pointer that `malloc` returns, and the fields that are
stored through it.  Whether it is the null pointer is not checked. -/
def dlResOpen (memory : Memory) (stack : Nat → Byte)
    (malloc : Word → Address) (objects : Address → DL) (dl : Address)
    (_unk4 : Word) (name : CString) :
    Accesses (Option (Address × DlRes)) := do
  let fileBytes := (objects dl).fileBytes
  let section? ← findSection memory fileBytes sectionResources
    (objects dl).hdr.numSections.toNat 0
  match section? with
  | none => return none
  | some shdr =>
      let p := fileBytes + shdr.offset
      let count ← copyCount memory p
      let found ← searchResources memory stack name count.toNat (p + 4)
      match found with
      | none => return none
      | some ent =>
          let res := malloc sizeofDlRes
          return some (res, {
            startFileOffset := shdr.offset + ent.offset
            currentFileOffset := shdr.offset + ent.offset
            dl := dl
            ent := ent })

/-- `dl_res_get_size` -/
def dlResGetSize (res : DlRes) : Word := res.ent.size

/-- The decoding loop of `dl_res_get_data` after `count` rounds. -/
def decodeLoop (memory : Memory) (buffer : Address) : Nat → Memory
  | 0 => memory
  | count + 1 =>
      let decoded := decodeLoop memory buffer count
      let p := buffer + BitVec.ofNat 32 count
      write decoded p [decoded p ^^^ 0x40]

/-- `dl_res_get_data`: memory and the cursor afterwards, and the result. -/
def dlResGetData (memory : Memory) (objects : Address → DL) (res : DlRes)
    (buffer : Address) (size count : Word) :
    Accesses (Memory × DlRes × Word) :=
  let numToRead := size * count
  let source := (objects res.dl).fileBytes + res.currentFileOffset
  let copied := write memory buffer (read memory source numToRead.toNat)
  ⟨(decodeLoop copied buffer count.toNat,
      { res with currentFileOffset := res.currentFileOffset + numToRead },
      numToRead),
    [.read ⟨source, numToRead.toNat⟩, .write ⟨buffer, numToRead.toNat⟩]⟩

/-! ## The same lookups on the parsed file -/

/-- Comparing the name of a readable entry compares its symbol's name. -/
theorem EntryReadable.equals_iff {memory : Memory} {file : Extent}
    {stringTable entry : Address}
    (readable : EntryReadable memory file stringTable entry)
    (small : file.size < 2 ^ 32) (name : CString) :
    CString.equals (bytesFrom memory (namePointer memory stringTable entry))
        name.bytes = true ↔
      (Symbol.ofEntry memory stringTable entry).name = name := by
  obtain ⟨string, stored, inside⟩ := readable.name
  have reached : string.length < 2 ^ 32 :=
    Nat.lt_of_succ_lt (Extent.size_lt_of_inside inside small)
  have named : (Symbol.ofEntry memory stringTable entry).name = string :=
    CString.ofSource_of_storedIn stored reached
  rw [CString.equals_iff_storedIn, named]
  constructor
  · exact fun storedName => stored.unique storedName
  · rintro rfl
    exact stored

/-- The export loop finds the first symbol with the name. -/
theorem searchExports_value {memory : Memory} {file : Extent}
    {stringTable : Address} (small : file.size < 2 ^ 32) (name : CString)
    (remaining : Nat) (p : Address)
    (readable : ∀ entry ∈ entryAddresses p remaining,
      EntryReadable memory file stringTable entry) :
    (searchExports memory stringTable name remaining p).value =
      (((entryAddresses p remaining).map
        (Symbol.ofEntry memory stringTable)).find?
          fun symbol => symbol.name = name).map Symbol.address := by
  induction remaining generalizing p with
  | zero => rfl
  | succ remaining inductionHypothesis =>
      rw [entryAddresses_succ, List.forall_mem_cons] at readable
      have compared := readable.1.equals_iff small name
      rw [searchExports, entryAddresses_succ, List.map_cons]
      simp only [Traced.value_bind, copyImportExportEntry, strcmpName]
      change (if CString.equals
          (bytesFrom memory (namePointer memory stringTable p))
          name.bytes = true then _ else _ : Accesses _).value = _
      by_cases equal : (Symbol.ofEntry memory stringTable p).name = name
      · rw [if_pos (compared.mpr equal),
          List.find?_cons_of_pos (by simpa using equal)]
        rfl
      · rw [if_neg fun holds => equal (compared.mp holds),
          List.find?_cons_of_neg (by simpa using equal)]
        exact inductionHypothesis _ readable.2

/-- The symbols that a `DL_t` exports. -/
def DL.exports (memory : Memory) (dl : DL) : List Symbol :=
  sectionSymbols memory dl.fileBytes dl.hdr.numSections.toNat sectionExport

/-- The export table of a `DL_t` lies in the file. -/
def DL.ExportsReadable (memory : Memory) (file : Extent) (dl : DL) : Prop :=
  ∀ shdr ∈ firstSection memory dl.fileBytes dl.hdr.numSections.toNat
      sectionExport,
    TableReadable memory file (dl.fileBytes + shdr.offset)

/-- `dl_get_proc` returns the first export of the name, and otherwise what the
builtin table has. -/
theorem dlGetProc_value {memory : Memory} {file : Extent} {dl : DL}
    (table : List (OsFunction Address)) (small : file.size < 2 ^ 32)
    (readable : dl.ExportsReadable memory file) (name : CString) :
    (dlGetProc table memory dl name).value =
      match (dl.exports memory).find? (fun symbol => symbol.name = name) with
      | some symbol => .found symbol.address
      | none => ccosGetBuiltinProc table name := by
  have searched : (searchExportSections memory dl name).value =
      ((dl.exports memory).find?
        fun symbol => symbol.name = name).map Symbol.address := by
    simp only [searchExportSections, Traced.value_bind, findSection_value,
      DL.exports, sectionSymbols]
    cases exported : firstSection memory dl.fileBytes
        dl.hdr.numSections.toNat sectionExport with
    | none => rfl
    | some shdr =>
        simp only [Traced.value_bind, copyImportExportHeader]
        exact searchExports_value small name _ _
          (readable shdr exported).entries
  rw [dlGetProc, Traced.value_bind, searched]
  cases (dl.exports memory).find? (fun symbol => symbol.name = name) <;> rfl

/-- The entries of the resource table at an address. -/
def resourceEntries (memory : Memory) (table : Address) : List ErptEntry :=
  (recordAddresses sizeofErptEntry (table + 4)
    (loadWord memory table).toNat).map (ErptEntry.ofMemory memory)

/-- The file name of an entry is zero-terminated inside its array. -/
def ErptEntry.Terminated (ent : ErptEntry) : Prop :=
  (0 : Byte) ∈ ent.filename

/-- The file name of an entry. -/
def ErptEntry.name (ent : ErptEntry) : CString :=
  CString.ofSource fun index => (ent.filename[index]?).getD 0

/-- Inside the array the comparison sees the file name. -/
theorem ErptEntry.source_eq (ent : ErptEntry) (stack : Nat → Byte)
    {index : Nat} (bound : index < ent.filename.length) :
    ent.source stack index = (ent.filename[index]?).getD 0 := by
  have inBytes : index < ent.bytes.length := by
    simp only [ErptEntry.bytes, List.length_append]
    omega
  rw [ErptEntry.source, List.getElem?_eq_getElem inBytes,
    List.getElem?_eq_getElem bound]
  simp only [ErptEntry.bytes, List.append_assoc,
    List.getElem_append_left bound, Option.getD_some]

/-- A terminated name ends inside the array, whatever follows it. -/
theorem ErptEntry.Terminated.storedIn {ent : ErptEntry}
    (terminated : ent.Terminated) (small : ent.filename.length < 2 ^ 32)
    (stack : Nat → Byte) :
    CString.StoredIn (ent.source stack) ent.name := by
  obtain ⟨position, bound, zero⟩ := List.mem_iff_getElem.mp terminated
  obtain ⟨string, stored, before⟩ := @CString.exists_storedIn_of_zero
    (fun index => (ent.filename[index]?).getD 0) position
    (by simp [bound, zero])
  have named : ent.name = string :=
    CString.ofSource_of_storedIn stored (by omega)
  rw [named]
  apply stored.congr
  intro index inString
  exact (ent.source_eq stack (by omega)).symm

/-- The comparison of a terminated entry compares its name. -/
theorem ErptEntry.isNamed_iff {ent : ErptEntry}
    (terminated : ent.Terminated) (small : ent.filename.length < 2 ^ 32)
    (stack : Nat → Byte) (name : CString) :
    ent.isNamed stack name = true ↔ ent.name = name := by
  have stored := terminated.storedIn small stack
  rw [ErptEntry.isNamed, CString.equals_iff_storedIn]
  constructor
  · exact stored.unique
  · rintro rfl
    exact stored

/-- The resource loop finds the first entry with the name. -/
theorem searchResources_value (memory : Memory) (stack : Nat → Byte)
    (name : CString) (remaining : Nat) (p : Address) :
    (searchResources memory stack name remaining p).value =
      ((recordAddresses sizeofErptEntry p remaining).map
        (ErptEntry.ofMemory memory)).find?
          (ErptEntry.isNamed stack name) := by
  induction remaining generalizing p with
  | zero => rfl
  | succ remaining inductionHypothesis =>
      rw [searchResources, recordAddresses, List.map_cons]
      simp only [Traced.value_bind, copyErptEntry]
      by_cases equal :
          (ErptEntry.ofMemory memory p).isNamed stack name = true
      · rw [if_pos equal, List.find?_cons_of_pos equal]
        rfl
      · rw [if_neg equal, List.find?_cons_of_neg equal]
        exact inductionHypothesis _

/-- The resource section of a file. -/
def resourceSection (memory : Memory) (fileBytes : Address) :
    Option SectionHeader :=
  firstSection memory fileBytes (sectionCount memory fileBytes)
    sectionResources

/-- The resource entries of a file. -/
def resources (memory : Memory) (fileBytes : Address) : List ErptEntry :=
  match resourceSection memory fileBytes with
  | none => []
  | some shdr => resourceEntries memory (fileBytes + shdr.offset)

/-- The exported symbols of a file. -/
def exports (memory : Memory) (fileBytes : Address) : List Symbol :=
  sectionSymbols memory fileBytes (sectionCount memory fileBytes)
    sectionExport

/-- The handle for an entry of a resource section. -/
def DlRes.opened (dl : Address) (shdr : SectionHeader) (ent : ErptEntry) :
    DlRes where
  startFileOffset := shdr.offset + ent.offset
  currentFileOffset := shdr.offset + ent.offset
  dl := dl
  ent := ent

/-- `dl_res_open` opens the first entry of the name in the first resource
section. -/
theorem dlResOpen_value (memory : Memory) (stack : Nat → Byte)
    (malloc : Word → Address) (objects : Address → DL) (dl : Address)
    (unk4 : Word) (name : CString) :
    (dlResOpen memory stack malloc objects dl unk4 name).value =
      (firstSection memory (objects dl).fileBytes
        (objects dl).hdr.numSections.toNat sectionResources).bind fun shdr =>
          ((resourceEntries memory
            ((objects dl).fileBytes + shdr.offset)).find?
              (ErptEntry.isNamed stack name)).map fun ent =>
                (malloc sizeofDlRes, DlRes.opened dl shdr ent) := by
  simp only [dlResOpen, Traced.value_bind, findSection_value]
  cases firstSection memory (objects dl).fileBytes
      (objects dl).hdr.numSections.toNat sectionResources with
  | none => rfl
  | some shdr =>
      simp only [Traced.value_bind, copyCount, searchResources_value,
        Option.bind_some, resourceEntries]
      cases List.find? (ErptEntry.isNamed stack name)
          ((recordAddresses sizeofErptEntry
            ((objects dl).fileBytes + shdr.offset + 4)
            (loadWord memory ((objects dl).fileBytes +
              shdr.offset)).toNat).map (ErptEntry.ofMemory memory)) <;> rfl

end Dl
end GA330
