import GA330.Dl.Lookup
import GA330.Dl.Outcome

/-!
# Which bytes of the file are read

Neither the loader nor the lookups compare an offset with the size of the
file.  For a file whose tables lie inside it, every byte that they read through
`file_bytes` lies inside it too, as long as the loader does not overwrite the
file.  Of a file that is refused no more than the headers have to be there.  A
truncated file is read past its end and is not rejected for it.
-/

namespace GA330
namespace Dl

open ByteMemory Minisys

/-- A read through `file_bytes` stays in the file. -/
def Access.InsideFile (file : Extent) : Access → Prop
  | .read extent => extent.Inside file
  | .write _ => True

theorem always_read {file extent : Extent} {value : α}
    (inside : extent.Inside file) :
    Traced.Always (Access.InsideFile file)
      (⟨value, [.read extent]⟩ : Accesses α) :=
  Traced.always_single inside

theorem always_write {file extent : Extent} {value : α} :
    Traced.Always (Access.InsideFile file)
      (⟨value, [.write extent]⟩ : Accesses α) :=
  Traced.always_single trivial

/-- A resource table lies in the file: its count and its entries. -/
structure ResourcesReadable (memory : Memory) (file : Extent)
    (table : Address) : Prop where
  count : (⟨table, 4⟩ : Extent).Inside file
  entries : ∀ entry ∈ recordAddresses sizeofErptEntry (table + 4)
      (loadWord memory table).toNat,
    (⟨entry, sizeofErptEntry⟩ : Extent).Inside file

/-- Everything that the loader and the lookups read lies in the file. -/
structure FileReadable (memory : Memory) (file : Extent) : Prop
    extends LoaderReadable memory file where
  exports : ∀ shdr ∈ firstSection memory file.start
      (sectionCount memory file.start) sectionExport,
    TableReadable memory file (file.start + shdr.offset)
  resources : ∀ shdr ∈ resourceSection memory file.start,
    ResourcesReadable memory file (file.start + shdr.offset)

section Transfer

variable {left right : Memory} {file : Extent}

theorem EntryReadable.of_agreeOn {stringTable entry : Address}
    (agree : AgreeOn file left right)
    (readable : EntryReadable left file stringTable entry) :
    EntryReadable right file stringTable entry := by
  have pointers : namePointer left stringTable entry =
      namePointer right stringTable entry := by
    rw [namePointer, namePointer, ImportExportEntry.ofMemory_congr
      (agree.mono readable.inside)]
  obtain ⟨string, stored, inside⟩ := readable.name
  have storedRight := stored.of_agreeOn (agree.mono inside)
  rw [pointers] at storedRight inside
  exact ⟨readable.inside, string, storedRight, inside⟩

theorem TableReadable.of_agreeOn {table : Address}
    (agree : AgreeOn file left right)
    (readable : TableReadable left file table) :
    TableReadable right file table := by
  refine ⟨readable.header, ?_⟩
  rw [← readable.numEntries_congr agree]
  intro entry present
  exact (readable.entries entry present).of_agreeOn agree

theorem ResourcesReadable.of_agreeOn {table : Address}
    (agree : AgreeOn file left right)
    (readable : ResourcesReadable left file table) :
    ResourcesReadable right file table := by
  refine ⟨readable.count, ?_⟩
  rw [← loadWord_congr (agree.mono readable.count)]
  exact readable.entries

/-- The entries of a readable resource table depend only on the file. -/
theorem ResourcesReadable.resourceEntries_congr {table : Address}
    (agree : AgreeOn file left right)
    (readable : ResourcesReadable left file table) :
    resourceEntries left table = resourceEntries right table := by
  unfold resourceEntries
  rw [← loadWord_congr (agree.mono readable.count)]
  apply List.map_congr_left
  intro entry present
  exact ErptEntry.ofMemory_congr (agree.mono (readable.entries entry present))

theorem LoaderReadable.sectionCount_congr (agree : AgreeOn file left right)
    (readable : LoaderReadable left file) :
    sectionCount left file.start = sectionCount right file.start := by
  rw [sectionCount, sectionCount,
    CcdlHeader.ofMemory_congr (agree.mono readable.header)]

/-- The sections of a readable file are the same in memories that agree on
it. -/
theorem LoaderReadable.firstSection_congr (agree : AgreeOn file left right)
    (readable : LoaderReadable left file) (wanted : Word) :
    firstSection left file.start (sectionCount left file.start) wanted =
      firstSection right file.start (sectionCount right file.start)
        wanted := by
  rw [← readable.sectionCount_congr agree]
  exact Dl.firstSection_congr agree readable.sections wanted

/-- Readability depends only on the file. -/
theorem LoaderReadable.of_agreeOn (agree : AgreeOn file left right)
    (readable : LoaderReadable left file) : LoaderReadable right file where
  header := readable.header
  sections := by
    rw [← readable.sectionCount_congr agree]
    exact readable.sections
  code := by
    rw [codeSection, ← readable.firstSection_congr agree]
    exact readable.code
  imports := by
    rw [← readable.firstSection_congr agree]
    exact fun shdr present => (readable.imports shdr present).of_agreeOn agree

/-- The exports of a file that has not been overwritten are those of the file
that was loaded. -/
theorem exports_described (small : file.size < 2 ^ 32)
    (sections : ∀ i < sectionCount left file.start,
      (⟨sectionHeaderAddress file.start i, sizeofSectionHeader⟩ :
        Extent).Inside file)
    (inside : ∀ shdr ∈ firstSection left file.start
        (sectionCount left file.start) sectionExport,
      TableReadable left file (file.start + shdr.offset))
    (kept : AgreeOn file left right) {dl : DL} {fileSize : Word}
    (described : dl =
      ⟨file.start, fileSize, CcdlHeader.ofMemory left file.start⟩) :
    dl.ExportsReadable right file ∧
      dl.exports right = exports left file.start := by
  have located : firstSection right dl.fileBytes dl.hdr.numSections.toNat
      sectionExport =
        firstSection left file.start (sectionCount left file.start)
          sectionExport := by
    rw [described]
    exact (firstSection_congr kept sections sectionExport).symm
  have start : dl.fileBytes = file.start := by rw [described]
  constructor
  · rw [DL.ExportsReadable, located, start]
    intro shdr present
    exact (inside shdr present).of_agreeOn kept
  · rw [DL.exports, exports, sectionSymbols, sectionSymbols, located, start]
    cases exported : firstSection left file.start
        (sectionCount left file.start) sectionExport with
    | none => rfl
    | some shdr =>
        exact ((inside shdr exported).symbols_congr kept small).symm

end Transfer

/-! ## The loader -/

/-- Reading the name of a readable entry stays in the file. -/
theorem readName_inside {memory : Memory} {file : Extent}
    {stringTable entry : Address} (small : file.size < 2 ^ 32)
    (readable : EntryReadable memory file stringTable entry) :
    Traced.Always (Access.InsideFile file)
      (readName memory (namePointer memory stringTable entry)) := by
  obtain ⟨string, stored, inside⟩ := readable.name
  have reached : string.length < 2 ^ 32 :=
    Nat.lt_of_succ_lt (Extent.size_lt_of_inside inside small)
  apply always_read
  rw [CString.ofMemory, CString.ofSource_of_storedIn stored reached]
  exact inside

/-- The import loop reads entries and names of the table only. -/
theorem resolveImports_inside {original memory : Memory} {file : Extent}
    {stringTable : Address} (table : List (OsFunction Address))
    (small : file.size < 2 ^ 32)
    (agree : AgreeOn file original memory) (remaining : Nat) (p : Address)
    (readable : ∀ entry ∈ entryAddresses p remaining,
      EntryReadable original file stringTable entry)
    (apart : ∀ entry ∈ entryAddresses p remaining,
      (slot (Symbol.ofEntry original stringTable entry)).Disjoint file) :
    Traced.Always (Access.InsideFile file)
      (resolveImports table remaining memory p stringTable) := by
  induction remaining generalizing p memory with
  | zero => exact Traced.always_pure _ _
  | succ remaining inductionHypothesis =>
      rw [entryAddresses_succ, List.forall_mem_cons] at readable apart
      have here := readable.1.of_agreeOn agree
      have same := readable.1.ofEntry_congr agree small
      rw [resolveImports]
      apply Traced.always_bind (always_read here.inside)
      apply Traced.always_bind (readName_inside small here)
      split
      · apply Traced.always_bind (always_write)
        apply inductionHypothesis _ _ readable.2 apart.2
        refine agree.trans (agreeOn_write ?_).symm
        have slotApart := apart.1
        rw [same] at slotApart
        exact slotApart
      · exact Traced.always_pure _ _
      · exact Traced.always_pure _ _

/-- Reading a section table that lies in the file stays in the file. -/
theorem findSection_inside {original : Memory} {file : Extent}
    (sections : ∀ i < sectionCount original file.start,
      (⟨sectionHeaderAddress file.start i, sizeofSectionHeader⟩ :
        Extent).Inside file) (memory : Memory) (wanted : Word) :
    Traced.Always (Access.InsideFile file)
      (findSection memory file.start wanted
        (sectionCount original file.start) 0) :=
  findSection_always wanted _ 0 fun index bound =>
    sections index (by omega)

theorem resolveSections_inside {original memory : Memory} {file : Extent}
    (table : List (OsFunction Address)) (small : file.size < 2 ^ 32)
    (agree : AgreeOn file original memory)
    (readable : LoaderReadable original file)
    (apart : ∀ symbol ∈ imports original file.start,
      (slot symbol).Disjoint file) :
    Traced.Always (Access.InsideFile file)
      (resolveSections table memory file.start
        (CcdlHeader.ofMemory original file.start).numSections) := by
  rw [resolveSections]
  apply Traced.always_bind (findSection_inside readable.sections memory _)
  have sections : firstSection original file.start
      (sectionCount original file.start) sectionImport =
        firstSection memory file.start (sectionCount original file.start)
          sectionImport :=
    firstSection_congr agree readable.sections sectionImport
  rw [findSection_value, ← sections]
  cases imported : firstSection original file.start
      (sectionCount original file.start) sectionImport with
  | none => exact Traced.always_pure _ _
  | some shdr =>
      have tableReadable := readable.imports shdr imported
      have counts : (ImportExportHeader.ofMemory memory
          (file.start + shdr.offset)).numEntries =
            numEntries original (file.start + shdr.offset) :=
        (tableReadable.numEntries_congr agree).symm
      simp only [resolveImportSection]
      apply Traced.always_bind (always_read tableReadable.header)
      simp only [counts]
      apply resolveImports_inside table small agree _ _
        tableReadable.entries
      intro entry present
      apply apart
      simp only [imports, sectionSymbols, imported]
      exact List.mem_map.mpr ⟨entry, present, rfl⟩

/-- The loader reads inside a file that is readable as far as it gets, and that
it does not overwrite. -/
theorem ccdlToEntry_inside {memory : Memory} {file : Extent}
    (table : List (OsFunction Address)) (small : file.size < 2 ^ 32)
    (header : (⟨file.start, sizeofHeader⟩ : Extent).Inside file)
    (sections : (CcdlHeader.ofMemory memory file.start).Valid →
      ∀ i < sectionCount memory file.start,
        (⟨sectionHeaderAddress file.start i, sizeofSectionHeader⟩ :
          Extent).Inside file)
    (readable : ¬ Refused memory file.start → LoaderReadable memory file)
    (apart : ¬ Refused memory file.start →
      WritesApart memory file.start file) :
    Traced.Always (Access.InsideFile file)
      (ccdlToEntry table memory file.start) := by
  rw [ccdlToEntry]
  apply Traced.always_bind (always_read header)
  split
  · exact Traced.always_pure _ _
  rename_i sign
  split
  · exact Traced.always_pure _ _
  rename_i version
  have valid : (CcdlHeader.ofMemory memory file.start).Valid := by
    rw [not_or, not_not, not_not] at version
    exact ⟨not_not.mp sign, version⟩
  apply Traced.always_bind (findSection_inside (sections valid) memory _)
  have located : (findSection memory file.start sectionCode
      (sectionCount memory file.start) 0).value =
        codeSection memory file.start :=
    findSection_value memory file.start sectionCode _
  rw [located]
  cases code : codeSection memory file.start with
  | none => exact Traced.always_pure _ _
  | some shdrCode =>
      have accepted : ¬ Refused memory file.start := by
        rw [refused_iff, not_or, not_not, code]
        exact ⟨valid, Option.some_ne_none _⟩
      have agree := (apart accepted).agreeOn_withCode code
      refine Traced.always_bind ?_ (Traced.always_bind
        (resolveSections_inside table small agree (readable accepted)
          (apart accepted).slots)
        (Traced.always_pure _ _))
      intro access present
      simp only [copyCode, List.mem_cons, List.not_mem_nil, or_false]
        at present
      rcases present with rfl | rfl
      · exact (readable accepted).code shdrCode code
      · trivial

/-! ## The lookups -/

/-- The export loop reads entries and names of the table only. -/
theorem searchExports_inside {memory : Memory} {file : Extent}
    {stringTable : Address} (name : CString) (remaining : Nat)
    (p : Address)
    (readable : ∀ entry ∈ entryAddresses p remaining,
      EntryReadable memory file stringTable entry) :
    Traced.Always (Access.InsideFile file)
      (searchExports memory stringTable name remaining p) := by
  induction remaining generalizing p with
  | zero => exact Traced.always_pure _ _
  | succ remaining inductionHypothesis =>
      rw [entryAddresses_succ, List.forall_mem_cons] at readable
      obtain ⟨string, stored, inside⟩ := readable.1.name
      rw [searchExports]
      apply Traced.always_bind (always_read readable.1.inside)
      apply Traced.always_bind
      · apply always_read
        exact Extent.Inside.trans
          (Extent.inside_of_le (CString.compared_le stored name)) inside
      · split
        · exact Traced.always_pure _ _
        · exact inductionHypothesis _ readable.2

/-- `dl_get_proc` reads inside a file with a readable export table. -/
theorem dlGetProc_inside {memory : Memory} {file : Extent} {dl : DL}
    (table : List (OsFunction Address))
    (readable : LoaderReadable memory file)
    (exported : ∀ shdr ∈ firstSection memory file.start
        (sectionCount memory file.start) sectionExport,
      TableReadable memory file (file.start + shdr.offset))
    (start : dl.fileBytes = file.start)
    (hdr : dl.hdr = CcdlHeader.ofMemory memory file.start)
    (name : CString) :
    Traced.Always (Access.InsideFile file)
      (dlGetProc table memory dl name) := by
  rw [dlGetProc]
  apply Traced.always_bind
  · rw [searchExportSections, start, hdr]
    apply Traced.always_bind (findSection_inside readable.sections memory _)
    rw [findSection_value]
    cases found : firstSection memory file.start
        (sectionCount memory file.start) sectionExport with
    | none => exact Traced.always_pure _ _
    | some shdr =>
        have tableReadable := exported shdr found
        apply Traced.always_bind
          (always_read tableReadable.header)
        exact searchExports_inside name _ _ tableReadable.entries
  · split <;> exact Traced.always_pure _ _

/-- The resource loop reads entries of the table only; the comparison works on
a local copy. -/
theorem searchResources_inside {memory : Memory} {file : Extent}
    (stack : Nat → Byte) (name : CString) (remaining : Nat) (p : Address)
    (readable : ∀ entry ∈ recordAddresses sizeofErptEntry p remaining,
      (⟨entry, sizeofErptEntry⟩ : Extent).Inside file) :
    Traced.Always (Access.InsideFile file)
      (searchResources memory stack name remaining p) := by
  induction remaining generalizing p with
  | zero => exact Traced.always_pure _ _
  | succ remaining inductionHypothesis =>
      rw [recordAddresses, List.forall_mem_cons] at readable
      rw [searchResources]
      apply Traced.always_bind (always_read readable.1)
      split
      · exact Traced.always_pure _ _
      · exact inductionHypothesis _ readable.2

/-- `dl_res_open` reads inside a file with a readable resource table. -/
theorem dlResOpen_inside {memory : Memory} {file : Extent}
    {objects : Address → DL} {dl : Address}
    (readable : LoaderReadable memory file)
    (resources : ∀ shdr ∈ resourceSection memory file.start,
      ResourcesReadable memory file (file.start + shdr.offset))
    (start : (objects dl).fileBytes = file.start)
    (hdr : (objects dl).hdr = CcdlHeader.ofMemory memory file.start)
    (stack : Nat → Byte) (malloc : Word → Address) (unk4 : Word)
    (name : CString) :
    Traced.Always (Access.InsideFile file)
      (dlResOpen memory stack malloc objects dl unk4 name) := by
  rw [dlResOpen, start, hdr]
  apply Traced.always_bind (findSection_inside readable.sections memory _)
  rw [findSection_value]
  cases found : firstSection memory file.start
      (sectionCount memory file.start) sectionResources with
  | none => exact Traced.always_pure _ _
  | some shdr =>
      have tableReadable := resources shdr found
      apply Traced.always_bind (always_read tableReadable.count)
      apply Traced.always_bind
        (searchResources_inside stack name _ _ tableReadable.entries)
      split <;> exact Traced.always_pure _ _

/-- Where the loader, and later lookups through the `DL_t` that it fills, read
in a file, and which files the loader rejects.  The lookups are made while the
file is as it was loaded. -/
structure ReadsInside (table : List (OsFunction Address)) (memory : Memory)
    (file : Extent) : Prop where
  /-- All reads of the loader stay inside the file. -/
  loader : Traced.Always (Access.InsideFile file)
    (ccdlToEntry table memory file.start)
  /-- It returns an error for the sign, the version or a missing code section,
  and for nothing else. -/
  error : ∀ application dlOut fileSize,
    (∃ after dl, (ccdlFromMemory table application memory dlOut file.start
        fileSize).value = .returned generalError after dl) ↔
      Refused memory file.start
  /-- So do those of `dl_get_proc` when the export table lies in the file. -/
  procs : (∀ shdr ∈ firstSection memory file.start
        (sectionCount memory file.start) sectionExport,
      TableReadable memory file (file.start + shdr.offset)) →
    ∀ application dlOut fileSize after dl,
      (ccdlFromMemory table application memory dlOut file.start
          fileSize).value = .returned 0 after dl →
        ∀ later, AgreeOn file memory later → ∀ name,
          Traced.Always (Access.InsideFile file)
            (dlGetProc table later dl name)
  /-- And those of `dl_res_open` when the resource table does. -/
  resources : (∀ shdr ∈ resourceSection memory file.start,
      ResourcesReadable memory file (file.start + shdr.offset)) →
    ∀ application dlOut fileSize after dl,
      (ccdlFromMemory table application memory dlOut file.start
          fileSize).value = .returned 0 after dl →
        ∀ later, AgreeOn file memory later →
          ∀ stack malloc objects p unk4 name, objects p = dl →
            Traced.Always (Access.InsideFile file)
              (dlResOpen later stack malloc objects p unk4 name)

/-- A file that is not refused does not end in an error. -/
theorem ccdlFromMemory_error_iff {memory : Memory} {file : Extent}
    (table : List (OsFunction Address)) (small : file.size < 2 ^ 32)
    (readable : ¬ Refused memory file.start → LoaderReadable memory file)
    (apart : ¬ Refused memory file.start →
      WritesApart memory file.start file)
    (application : ApplicationCall → Option (Memory × DL)) (dlOut : DL)
    (fileSize : Word) :
    (∃ after dl, (ccdlFromMemory table application memory dlOut file.start
        fileSize).value = .returned generalError after dl) ↔
      Refused memory file.start := by
  constructor
  · rintro ⟨after, dl, returned⟩
    by_contra accepted
    have outcome :=
      ccdlToEntry_value table small (readable accepted) (apart accepted)
    rw [refused_iff, not_or, not_not] at accepted
    obtain ⟨valid, present⟩ := accepted
    obtain ⟨shdrCode, code⟩ := Option.ne_none_iff_exists'.mp present
    rw [loadFile] at outcome
    simp only [valid, code, if_true] at outcome
    cases ended : linkSymbols table (imports memory file.start)
        (withCode memory file.start shdrCode) with
    | linked linked =>
        rw [ended, ImportOutcome.enter] at outcome
        rw [ccdlFromMemory_enter application dlOut fileSize outcome]
          at returned
        exact (afterEntryPoint_cases _ _ _).1 _ _ returned
    | panic linked =>
        rw [ended, ImportOutcome.enter] at outcome
        rw [ccdlFromMemory_panic application dlOut fileSize outcome]
          at returned
        contradiction
    | overrun linked =>
        rw [ended, ImportOutcome.enter] at outcome
        rw [ccdlFromMemory, outcome] at returned
        contradiction
  · intro refused
    rw [ccdlFromMemory_generalError application dlOut fileSize
      (ccdlToEntry_refused table refused)]
    exact ⟨memory, dlOut, rfl⟩

/-- A file that was loaded has not been refused. -/
theorem accepted_of_returned {table : List (OsFunction Address)}
    {application : ApplicationCall → Option (Memory × DL)}
    {memory after : Memory} {dlOut dl : DL} {fileBytes : Address}
    {fileSize : Word}
    (returned : (ccdlFromMemory table application memory dlOut fileBytes
      fileSize).value = .returned 0 after dl) :
    ¬ Refused memory fileBytes := by
  intro refused
  rw [ccdlFromMemory_generalError application dlOut fileSize
    (ccdlToEntry_refused table refused)] at returned
  simp [generalError] at returned

/-- A file whose header lies in it, with its section headers if the header is
valid, and with what its code and import sections refer to if it is not
refused, is read inside, as long as it is not overwritten. -/
theorem reads_inside_file {memory : Memory} {file : Extent}
    (table : List (OsFunction Address)) (small : file.size < 2 ^ 32)
    (header : (⟨file.start, sizeofHeader⟩ : Extent).Inside file)
    (sections : (CcdlHeader.ofMemory memory file.start).Valid →
      ∀ i < sectionCount memory file.start,
        (⟨sectionHeaderAddress file.start i, sizeofSectionHeader⟩ :
          Extent).Inside file)
    (readable : ¬ Refused memory file.start → LoaderReadable memory file)
    (apart : ¬ Refused memory file.start →
      WritesApart memory file.start file) :
    ReadsInside table memory file where
  loader := ccdlToEntry_inside table small header sections readable apart
  error := ccdlFromMemory_error_iff table small readable apart
  procs := by
    intro exported application dlOut fileSize after dl returned later agree
      name
    have loaded := readable (accepted_of_returned returned)
    obtain ⟨_, _, _, _, _, _, described⟩ := ccdlFromMemory_returned returned
    rw [CcdlHeader.ofMemory_congr (agree.mono header)] at described
    refine dlGetProc_inside table (loaded.of_agreeOn agree) ?_
      (by rw [described]) (by rw [described]) name
    rw [← loaded.firstSection_congr agree]
    exact fun shdr present => (exported shdr present).of_agreeOn agree
  resources := by
    intro resources application dlOut fileSize after dl returned later agree
      stack malloc objects p unk4 name object
    have loaded := readable (accepted_of_returned returned)
    obtain ⟨_, _, _, _, _, _, described⟩ := ccdlFromMemory_returned returned
    rw [CcdlHeader.ofMemory_congr (agree.mono header)] at described
    refine dlResOpen_inside (loaded.of_agreeOn agree) ?_
      (by rw [object, described]) (by rw [object, described]) stack malloc
      unk4 name
    rw [resourceSection, ← loaded.firstSection_congr agree]
    exact fun shdr present => (resources shdr present).of_agreeOn agree

/-! ## The sample file -/

theorem sampleFile_exportSection :
    firstSection sampleFile 0x30000000 4 sectionExport =
      some (sampleSection 9 208 40) := by
  rw [firstSection, sampleFile_sections]
  rfl

theorem sampleFile_resourceSection :
    firstSection sampleFile 0x30000000 4 sectionResources =
      some (sampleSection 7 248 515) := by
  rw [firstSection, sampleFile_sections]
  rfl

/-- `AppMain` -/
def appMainName : CString :=
  cstring [0x41, 0x70, 0x70, 0x4D, 0x61, 0x69, 0x6E]

theorem sampleFile_exportTableReadable :
    TableReadable sampleFile sampleExtent (0x30000000 + 208) where
  header := Extent.inside_of_start (by decide)
  entries := by
    intro entry present
    rw [show entryAddresses (entriesStart (0x30000000 + 208))
        (numEntries sampleFile (0x30000000 + 208)).toNat =
          [0x300000E0] by decide +kernel, List.mem_singleton] at present
    subst present
    refine ⟨Extent.inside_of_start (by decide), appMainName, ?_, ?_⟩
    · rw [CString.StoredAt, ← CString.equals_iff_storedIn]
      decide +kernel
    · exact Extent.inside_of_start (by decide +kernel)

theorem sampleFile_resourcesReadable :
    ResourcesReadable sampleFile sampleExtent (0x30000000 + 248) where
  count := Extent.inside_of_start (by decide)
  entries := by
    intro entry present
    rw [show recordAddresses sizeofErptEntry (0x30000000 + 248 + 4)
        (loadWord sampleFile (0x30000000 + 248)).toNat =
          [0x300000FC] by decide +kernel, List.mem_singleton] at present
    subst present
    exact Extent.inside_of_start (by decide)

theorem sampleFile_fileReadable :
    FileReadable sampleFile sampleExtent where
  toLoaderReadable := sampleFile_readable
  exports := by
    change ∀ shdr ∈ firstSection sampleFile 0x30000000
      (sectionCount sampleFile 0x30000000) sectionExport, _
    rw [sampleFile_sectionCount, sampleFile_exportSection]
    intro shdr present
    cases Option.mem_some.mp present
    exact sampleFile_exportTableReadable
  resources := by
    change ∀ shdr ∈ resourceSection sampleFile 0x30000000, _
    rw [resourceSection, sampleFile_sectionCount,
      sampleFile_resourceSection]
    intro shdr present
    cases Option.mem_some.mp present
    exact sampleFile_resourcesReadable

theorem reads_inside_file_sample :
    ReadsInside (terminated [(mallocName, 0x20000400)] 0) sampleFile
      sampleExtent :=
  reads_inside_file _ (by decide) sampleFile_readable.header
    (fun _ => sampleFile_readable.sections) (fun _ => sampleFile_readable)
    (fun _ => sampleFile_writesApart
      (Extent.disjoint_of_end_le (by decide) (by decide)))

/-- Was the file rejected? -/
def EntryOutcome.isGeneralError : EntryOutcome → Bool
  | .generalError _ => true
  | _ => false

/-- Cut off after its header, the sample file is still accepted, and section
headers past its end are read. -/
theorem truncated_file_accepted :
    ¬ ∀ (table : List (OsFunction Address)) (memory : Memory)
      (file : Extent),
        (ccdlToEntry table memory file.start).value.isGeneralError = true ∨
          Traced.Always (Access.InsideFile file)
            (ccdlToEntry table memory file.start) := by
  intro claimed
  rcases claimed (terminated [(mallocName, 0x20000400)] 0) sampleFile
    ⟨0x30000000, 32⟩ with rejected | inside
  · have accepted : (ccdlToEntry (terminated [(mallocName, 0x20000400)] 0)
        sampleFile 0x30000000).value.isGeneralError = false := by
      decide +kernel
    rw [accepted] at rejected
    contradiction
  · have read := inside (.read ⟨0x30000020, 32⟩) (by decide +kernel)
    have beyond := read 0x30000020 (by decide)
    exact absurd beyond (by decide)

end Dl
end GA330
