import GA330.Library.CString
import GA330.Library.Traced

/-!
# The CCDL file format

The structures of `dl.h` as they lie in memory, and the section table.  Every
copy out of the file through `file_bytes` is recorded as a read of its extent,
and every store as a write, so that the accesses of a run can be accounted
for.  All offsets are 32-bit and wrap.
-/

namespace GA330
namespace Dl

open ByteMemory

/-- An access to guest memory: a read through `file_bytes`, or a write. -/
inductive Access
  | read (extent : Extent)
  | write (extent : Extent)
  deriving DecidableEq

/-- Computations that record their accesses. -/
abbrev Accesses := Traced Access

/-! ## Structures -/

/-- `CCDL_header_t` -/
structure CcdlHeader where
  sign : List Byte
  version : Word
  unk8 : Word
  numSections : Word
  unk16 : List Byte
  deriving DecidableEq

/-- `CCDL_section_header_t`; the union has the `code` member only. -/
structure SectionHeader where
  fourcc : List Byte
  type : Word
  offset : Word
  size : Word
  unk0 : Word
  entryPoint : Word
  loadAddress : Word
  allocSize : Word
  deriving DecidableEq

/-- `CCDL_import_export_header_t`, less its unused words. -/
structure ImportExportHeader where
  numEntries : Word
  deriving DecidableEq

/-- `CCDL_import_export_entry_t` -/
structure ImportExportEntry where
  nameOffset : Word
  unk4 : Word
  unk8 : Word
  address : Word
  deriving DecidableEq

/-- `CCDL_ERPT_entry_t` -/
structure ErptEntry where
  filename : List Byte
  size : Word
  offset : Word
  deriving DecidableEq

/-- `sizeof(CCDL_header_t)` -/
def sizeofHeader : Nat := 32

/-- `sizeof(CCDL_section_header_t)` -/
def sizeofSectionHeader : Nat := 32

/-- `sizeof(CCDL_import_export_header_t)` -/
def sizeofImportExportHeader : Nat := 16

/-- `sizeof(CCDL_import_export_entry_t)` -/
def sizeofImportExportEntry : Nat := 16

/-- `sizeof(CCDL_ERPT_entry_t)` -/
def sizeofErptEntry : Nat := 508

/-- `CCDL_SECTION_CODE` -/
def sectionCode : Word := 1

/-- `CCDL_SECTION_RESOURCES` -/
def sectionResources : Word := 7

/-- `CCDL_SECTION_IMPORT` -/
def sectionImport : Word := 8

/-- `CCDL_SECTION_EXPORT` -/
def sectionExport : Word := 9

/-- The header stored at an address. -/
def CcdlHeader.ofMemory (memory : Memory) (p : Address) : CcdlHeader where
  sign := read memory p 4
  version := loadWord memory (p + 4)
  unk8 := loadWord memory (p + 8)
  numSections := loadWord memory (p + 12)
  unk16 := read memory (p + 16) 16

/-- The section header stored at an address. -/
def SectionHeader.ofMemory (memory : Memory) (p : Address) :
    SectionHeader where
  fourcc := read memory p 4
  type := loadWord memory (p + 4)
  offset := loadWord memory (p + 8)
  size := loadWord memory (p + 12)
  unk0 := loadWord memory (p + 16)
  entryPoint := loadWord memory (p + 20)
  loadAddress := loadWord memory (p + 24)
  allocSize := loadWord memory (p + 28)

/-- The import or export table header stored at an address. -/
def ImportExportHeader.ofMemory (memory : Memory) (p : Address) :
    ImportExportHeader where
  numEntries := loadWord memory p

/-- The import or export entry stored at an address. -/
def ImportExportEntry.ofMemory (memory : Memory) (p : Address) :
    ImportExportEntry where
  nameOffset := loadWord memory p
  unk4 := loadWord memory (p + 4)
  unk8 := loadWord memory (p + 8)
  address := loadWord memory (p + 12)

/-- The resource entry stored at an address. -/
def ErptEntry.ofMemory (memory : Memory) (p : Address) : ErptEntry where
  filename := read memory p 500
  size := loadWord memory (p + 500)
  offset := loadWord memory (p + 504)

section Congruence

variable {left right : Memory} {p : Address}

/-- A word inside an extent on which two memories agree. -/
theorem loadWord_congr_offset {total : Nat}
    (agree : AgreeOn ⟨p, total⟩ left right) (offset : Address)
    (fits : offset.toNat + 4 ≤ total) :
    loadWord left (p + offset) = loadWord right (p + offset) :=
  loadWord_congr (agree.mono (Extent.inside_of_offset fits))

/-- Bytes inside an extent on which two memories agree. -/
theorem read_congr_offset {total count : Nat}
    (agree : AgreeOn ⟨p, total⟩ left right) (offset : Address)
    (fits : offset.toNat + count ≤ total) :
    read left (p + offset) count = read right (p + offset) count :=
  read_congr (agree.mono (Extent.inside_of_offset fits))

theorem CcdlHeader.ofMemory_congr
    (agree : AgreeOn ⟨p, sizeofHeader⟩ left right) :
    CcdlHeader.ofMemory left p = CcdlHeader.ofMemory right p := by
  unfold CcdlHeader.ofMemory
  rw [read_congr (agree.mono (Extent.inside_of_le (by decide))),
    loadWord_congr_offset agree 4 (by decide),
    loadWord_congr_offset agree 8 (by decide),
    loadWord_congr_offset agree 12 (by decide),
    read_congr_offset agree 16 (by decide)]

theorem SectionHeader.ofMemory_congr
    (agree : AgreeOn ⟨p, sizeofSectionHeader⟩ left right) :
    SectionHeader.ofMemory left p = SectionHeader.ofMemory right p := by
  unfold SectionHeader.ofMemory
  rw [read_congr (agree.mono (Extent.inside_of_le (by decide))),
    loadWord_congr_offset agree 4 (by decide),
    loadWord_congr_offset agree 8 (by decide),
    loadWord_congr_offset agree 12 (by decide),
    loadWord_congr_offset agree 16 (by decide),
    loadWord_congr_offset agree 20 (by decide),
    loadWord_congr_offset agree 24 (by decide),
    loadWord_congr_offset agree 28 (by decide)]

theorem ImportExportHeader.ofMemory_congr
    (agree : AgreeOn ⟨p, sizeofImportExportHeader⟩ left right) :
    ImportExportHeader.ofMemory left p =
      ImportExportHeader.ofMemory right p := by
  unfold ImportExportHeader.ofMemory
  rw [loadWord_congr (agree.mono (Extent.inside_of_le (by decide)))]

theorem ImportExportEntry.ofMemory_congr
    (agree : AgreeOn ⟨p, sizeofImportExportEntry⟩ left right) :
    ImportExportEntry.ofMemory left p =
      ImportExportEntry.ofMemory right p := by
  unfold ImportExportEntry.ofMemory
  rw [loadWord_congr (agree.mono (Extent.inside_of_le (by decide))),
    loadWord_congr_offset agree 4 (by decide),
    loadWord_congr_offset agree 8 (by decide),
    loadWord_congr_offset agree 12 (by decide)]

theorem ErptEntry.ofMemory_congr
    (agree : AgreeOn ⟨p, sizeofErptEntry⟩ left right) :
    ErptEntry.ofMemory left p = ErptEntry.ofMemory right p := by
  unfold ErptEntry.ofMemory
  rw [read_congr (agree.mono (Extent.inside_of_le (by decide))),
    loadWord_congr_offset agree 500 (by decide),
    loadWord_congr_offset agree 504 (by decide)]

end Congruence

/-! ## Copies out of the file -/

/-- `memcpy` of the header. -/
def copyHeader (memory : Memory) (p : Address) : Accesses CcdlHeader :=
  ⟨CcdlHeader.ofMemory memory p, [.read ⟨p, sizeofHeader⟩]⟩

/-- `memcpy` of a section header. -/
def copySectionHeader (memory : Memory) (p : Address) :
    Accesses SectionHeader :=
  ⟨SectionHeader.ofMemory memory p, [.read ⟨p, sizeofSectionHeader⟩]⟩

/-- `memcpy` of an import or export table header. -/
def copyImportExportHeader (memory : Memory) (p : Address) :
    Accesses ImportExportHeader :=
  ⟨ImportExportHeader.ofMemory memory p,
    [.read ⟨p, sizeofImportExportHeader⟩]⟩

/-- `memcpy` of an import or export entry. -/
def copyImportExportEntry (memory : Memory) (p : Address) :
    Accesses ImportExportEntry :=
  ⟨ImportExportEntry.ofMemory memory p,
    [.read ⟨p, sizeofImportExportEntry⟩]⟩

/-! ## The section table -/

/-- `file_bytes + sizeof(CCDL_header_t) + i * sizeof(CCDL_section_header_t)` -/
def sectionHeaderAddress (fileBytes : Address) (i : Nat) : Address :=
  fileBytes + BitVec.ofNat 32 sizeofHeader +
    BitVec.ofNat 32 i * BitVec.ofNat 32 sizeofSectionHeader

/-- The loop over the section table that every function of `dl.c` starts with:
copy the headers one after the other, skip those of another type, stop at the
first of the wanted type.  `remaining` counts down from `num_sections`. -/
def findSection (memory : Memory) (fileBytes : Address) (wanted : Word) :
    (remaining : Nat) → (i : Nat) → Accesses (Option SectionHeader)
  | 0, _ => pure none
  | remaining + 1, i => do
      let shdr ← copySectionHeader memory (sectionHeaderAddress fileBytes i)
      if shdr.type ≠ wanted then
        findSection memory fileBytes wanted remaining (i + 1)
      else
        pure (some shdr)

/-- The headers of the section table, in order. -/
def sectionHeaders (memory : Memory) (fileBytes : Address) (count : Nat) :
    List SectionHeader :=
  (List.range count).map fun i =>
    SectionHeader.ofMemory memory (sectionHeaderAddress fileBytes i)

/-- The first section of a type. -/
def firstSection (memory : Memory) (fileBytes : Address) (count : Nat)
    (wanted : Word) : Option SectionHeader :=
  (sectionHeaders memory fileBytes count).find?
    fun shdr => shdr.type = wanted

theorem findSection_value_from (memory : Memory) (fileBytes : Address)
    (wanted : Word) (remaining i : Nat) :
    (findSection memory fileBytes wanted remaining i).value =
      ((List.range' i remaining).map fun i =>
        SectionHeader.ofMemory memory
          (sectionHeaderAddress fileBytes i)).find?
            fun shdr => shdr.type = wanted := by
  induction remaining generalizing i with
  | zero => rfl
  | succ remaining inductionHypothesis =>
      rw [findSection, Traced.value_bind, List.range'_succ, List.map_cons]
      by_cases typed : (SectionHeader.ofMemory memory
          (sectionHeaderAddress fileBytes i)).type = wanted
      · simp [copySectionHeader, typed]
      · rw [List.find?_cons_of_neg (by simpa using typed),
          ← inductionHypothesis]
        simp [copySectionHeader, typed]

/-- The loop finds the first section of the wanted type. -/
theorem findSection_value (memory : Memory) (fileBytes : Address)
    (wanted : Word) (count : Nat) :
    (findSection memory fileBytes wanted count 0).value =
      firstSection memory fileBytes count wanted := by
  rw [findSection_value_from, firstSection, sectionHeaders,
    List.range_eq_range']

/-- The loop reads section headers of the table and nothing else. -/
theorem findSection_always {property : Access → Prop} {memory : Memory}
    {fileBytes : Address} (wanted : Word) (remaining i : Nat)
    (headers : ∀ index, index < i + remaining →
      property (.read ⟨sectionHeaderAddress fileBytes index,
        sizeofSectionHeader⟩)) :
    Traced.Always property
      (findSection memory fileBytes wanted remaining i) := by
  induction remaining generalizing i with
  | zero => exact Traced.always_pure _ _
  | succ remaining inductionHypothesis =>
      rw [findSection]
      apply Traced.always_bind
      · exact Traced.always_single (headers i (by omega))
      · split
        · exact inductionHypothesis (i + 1) fun index bound =>
            headers index (by omega)
        · exact Traced.always_pure _ _

/-- Section headers that lie in the file are found inside its extent. -/
theorem sectionHeader_inside {fileBytes : Address} {size count i : Nat}
    (bound : i < count)
    (fits : sizeofHeader + count * sizeofSectionHeader ≤ size) :
    (⟨sectionHeaderAddress fileBytes i, sizeofSectionHeader⟩ :
      Extent).Inside ⟨fileBytes, size⟩ := by
  rw [sectionHeaderAddress, BitVec.add_assoc]
  apply Extent.inside_of_offset
  have offset : (BitVec.ofNat 32 sizeofHeader +
      BitVec.ofNat 32 i * BitVec.ofNat 32 sizeofSectionHeader).toNat ≤
        sizeofHeader + i * sizeofSectionHeader := by
    rw [← BitVec.ofNat_mul, ← BitVec.ofNat_add, BitVec.toNat_ofNat]
    exact Nat.mod_le _ _
  unfold sizeofHeader sizeofSectionHeader at *
  omega

/-- The section table depends only on the bytes of its headers. -/
theorem firstSection_congr {left right : Memory} {fileBytes : Address}
    {file : Extent} {count : Nat}
    (agree : AgreeOn file left right)
    (inside : ∀ i < count,
      (⟨sectionHeaderAddress fileBytes i, sizeofSectionHeader⟩ :
        Extent).Inside file)
    (wanted : Word) :
    firstSection left fileBytes count wanted =
      firstSection right fileBytes count wanted := by
  unfold firstSection sectionHeaders
  congr 1
  apply List.map_congr_left
  intro i present
  exact SectionHeader.ofMemory_congr
    (agree.mono (inside i (List.mem_range.mp present)))

/-! ## Import and export tables -/

/-- The addresses of consecutive records of one size. -/
def recordAddresses (size : Nat) (p : Address) : Nat → List Address
  | 0 => []
  | count + 1 =>
      p :: recordAddresses size (p + BitVec.ofNat 32 size) count

/-- The addresses of consecutive import or export entries. -/
abbrev entryAddresses (p : Address) (count : Nat) : List Address :=
  recordAddresses sizeofImportExportEntry p count

theorem entryAddresses_succ (p : Address) (count : Nat) :
    entryAddresses p (count + 1) =
      p :: entryAddresses (p + BitVec.ofNat 32 sizeofImportExportEntry)
        count :=
  rfl

/-- Where the entries of a table start. -/
def entriesStart (table : Address) : Address :=
  table + BitVec.ofNat 32 sizeofImportExportHeader

/-- Where the names of a table with `numEntries` entries start. -/
def stringTable (table : Address) (numEntries : Word) : Address :=
  entriesStart table +
    numEntries * BitVec.ofNat 32 sizeofImportExportEntry

/-- The number of entries of a table. -/
def numEntries (memory : Memory) (table : Address) : Word :=
  (ImportExportHeader.ofMemory memory table).numEntries

/-- Where the name of an entry starts. -/
def namePointer (memory : Memory) (stringTable entry : Address) : Address :=
  stringTable + (ImportExportEntry.ofMemory memory entry).nameOffset

/-- A symbol of a table: its name and the address of its entry. -/
structure Symbol where
  name : CString
  address : Address
  deriving DecidableEq

/-- The symbol that an entry describes. -/
def Symbol.ofEntry (memory : Memory) (stringTable entry : Address) :
    Symbol where
  name := CString.ofMemory memory (namePointer memory stringTable entry)
  address := (ImportExportEntry.ofMemory memory entry).address

/-- The symbols of the table at an address. -/
def symbols (memory : Memory) (table : Address) : List Symbol :=
  (entryAddresses (entriesStart table) (numEntries memory table).toNat).map
    (Symbol.ofEntry memory (stringTable table (numEntries memory table)))

/-- The symbols of the first section of a type; none if there is no such
section. -/
def sectionSymbols (memory : Memory) (fileBytes : Address) (count : Nat)
    (wanted : Word) : List Symbol :=
  match firstSection memory fileBytes count wanted with
  | none => []
  | some shdr => symbols memory (fileBytes + shdr.offset)

/-- An entry and its zero-terminated name lie in the file. -/
structure EntryReadable (memory : Memory) (file : Extent)
    (stringTable entry : Address) : Prop where
  inside : (⟨entry, sizeofImportExportEntry⟩ : Extent).Inside file
  name : ∃ string : CString,
    CString.StoredAt memory (namePointer memory stringTable entry) string ∧
      (⟨namePointer memory stringTable entry, string.length + 1⟩ :
        Extent).Inside file

/-- An import or export table lies in the file: its header, its entries and
their names. -/
structure TableReadable (memory : Memory) (file : Extent)
    (table : Address) : Prop where
  header : (⟨table, sizeofImportExportHeader⟩ : Extent).Inside file
  entries : ∀ entry ∈ entryAddresses (entriesStart table)
      (numEntries memory table).toNat,
    EntryReadable memory file
      (stringTable table (numEntries memory table)) entry

section Symbols

variable {left right : Memory} {file : Extent}

/-- A readable entry describes the same symbol in memories that agree on the
file. -/
theorem EntryReadable.ofEntry_congr {stringTable entry : Address}
    (agree : AgreeOn file left right) (small : file.size < 2 ^ 32)
    (readable : EntryReadable left file stringTable entry) :
    Symbol.ofEntry left stringTable entry =
      Symbol.ofEntry right stringTable entry := by
  have entries : ImportExportEntry.ofMemory left entry =
      ImportExportEntry.ofMemory right entry :=
    ImportExportEntry.ofMemory_congr (agree.mono readable.inside)
  have pointers : namePointer left stringTable entry =
      namePointer right stringTable entry := by
    rw [namePointer, namePointer, entries]
  obtain ⟨string, stored, inside⟩ := readable.name
  have reached : string.length < 2 ^ 32 :=
    Nat.lt_of_succ_lt (Extent.size_lt_of_inside inside small)
  have storedRight := stored.of_agreeOn (agree.mono inside)
  rw [pointers] at storedRight
  rw [Symbol.ofEntry, Symbol.ofEntry, entries, CString.ofMemory,
    CString.ofMemory, CString.ofSource_of_storedIn stored reached,
    CString.ofSource_of_storedIn storedRight reached]

/-- The number of entries of a readable table depends only on the file. -/
theorem TableReadable.numEntries_congr {table : Address}
    (agree : AgreeOn file left right)
    (readable : TableReadable left file table) :
    numEntries left table = numEntries right table := by
  rw [numEntries, numEntries, ImportExportHeader.ofMemory_congr
    (agree.mono readable.header)]

/-- The symbols of a readable table depend only on the file. -/
theorem TableReadable.symbols_congr {table : Address}
    (agree : AgreeOn file left right) (small : file.size < 2 ^ 32)
    (readable : TableReadable left file table) :
    symbols left table = symbols right table := by
  unfold symbols
  rw [← readable.numEntries_congr agree]
  apply List.map_congr_left
  intro entry present
  exact (readable.entries entry present).ofEntry_congr agree small

end Symbols

end Dl
end GA330
