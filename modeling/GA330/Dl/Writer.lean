import GA330.Dl.Resources
import GA330.Library.Placement

/-!
# Writing CCDL files

What `dl.h` says about the format, in the other direction: a list of sections
is laid out as a file.  The header is followed by the section table and the
contents of the sections; a symbol table is followed by its names, and a
resource table by its data, masked with `0x40`.  The parser of `dl.c` reads
back from such a file what it was written from.
-/

namespace GA330
namespace Dl

open ByteMemory Minisys

/-! ## Structures -/

/-- The bytes of a `CCDL_header_t`. -/
def CcdlHeader.bytes (hdr : CcdlHeader) : List Byte :=
  hdr.sign ++ (wordBytes hdr.version ++ (wordBytes hdr.unk8 ++
    (wordBytes hdr.numSections ++ hdr.unk16)))

/-- The bytes of a `CCDL_section_header_t`. -/
def SectionHeader.bytes (shdr : SectionHeader) : List Byte :=
  shdr.fourcc ++ (wordBytes shdr.type ++ (wordBytes shdr.offset ++
    (wordBytes shdr.size ++ (wordBytes shdr.unk0 ++
      (wordBytes shdr.entryPoint ++ (wordBytes shdr.loadAddress ++
        wordBytes shdr.allocSize))))))

/-- The bytes of a `CCDL_import_export_header_t`. -/
def ImportExportHeader.bytes (iehdr : ImportExportHeader) : List Byte :=
  wordBytes iehdr.numEntries ++ List.replicate 12 0

/-- The bytes of a `CCDL_import_export_entry_t`. -/
def ImportExportEntry.bytes (ent : ImportExportEntry) : List Byte :=
  wordBytes ent.nameOffset ++ (wordBytes ent.unk4 ++
    (wordBytes ent.unk8 ++ wordBytes ent.address))

section Structures

variable {memory : Memory} {region : Extent} {offset : Nat}

/-- An address in a region, counted from an offset. -/
theorem start_add_ofNat (start : Address) (offset more : Nat) :
    start + BitVec.ofNat 32 offset + BitVec.ofNat 32 more =
      start + BitVec.ofNat 32 (offset + more) := by
  rw [BitVec.add_assoc, BitVec.ofNat_add]

theorem CcdlHeader.ofMemory_of_placed {hdr : CcdlHeader}
    (sign : hdr.sign.length = 4) (unk16 : hdr.unk16.length = 16)
    (placed : Placed memory region offset hdr.bytes) :
    CcdlHeader.ofMemory memory (region.start + BitVec.ofNat 32 offset) =
      hdr := by
  simp only [CcdlHeader.bytes, placed_append, sign, length_wordBytes,
    Nat.add_assoc, Nat.reduceAdd] at placed
  obtain ⟨atSign, atVersion, atUnk8, atNumSections, atUnk16⟩ := placed
  have readSign := atSign.holds
  have version := atVersion.loadWord
  have unk8 := atUnk8.loadWord
  have numSections := atNumSections.loadWord
  have readUnk16 := atUnk16.holds
  rw [sign] at readSign
  rw [← start_add_ofNat] at version unk8 numSections readUnk16
  rw [unk16] at readUnk16
  obtain ⟨_, _, _, _, _⟩ := hdr
  rw [CcdlHeader.ofMemory, CcdlHeader.mk.injEq]
  exact ⟨readSign, version, unk8, numSections, readUnk16⟩

theorem SectionHeader.ofMemory_of_placed {shdr : SectionHeader}
    (fourcc : shdr.fourcc.length = 4)
    (placed : Placed memory region offset shdr.bytes) :
    SectionHeader.ofMemory memory
      (region.start + BitVec.ofNat 32 offset) = shdr := by
  simp only [SectionHeader.bytes, placed_append, fourcc, length_wordBytes,
    Nat.add_assoc, Nat.reduceAdd] at placed
  obtain ⟨atFourcc, atType, atOffset, atSize, atUnk0, atEntryPoint,
    atLoadAddress, atAllocSize⟩ := placed
  have readFourcc := atFourcc.holds
  have type := atType.loadWord
  have offset := atOffset.loadWord
  have size := atSize.loadWord
  have unk0 := atUnk0.loadWord
  have entryPoint := atEntryPoint.loadWord
  have loadAddress := atLoadAddress.loadWord
  have allocSize := atAllocSize.loadWord
  rw [fourcc] at readFourcc
  rw [← start_add_ofNat]
    at type offset size unk0 entryPoint loadAddress allocSize
  obtain ⟨_, _, _, _, _, _, _, _⟩ := shdr
  rw [SectionHeader.ofMemory, SectionHeader.mk.injEq]
  exact ⟨readFourcc, type, offset, size, unk0, entryPoint, loadAddress,
    allocSize⟩

theorem ImportExportHeader.ofMemory_of_placed {iehdr : ImportExportHeader}
    (placed : Placed memory region offset iehdr.bytes) :
    ImportExportHeader.ofMemory memory
      (region.start + BitVec.ofNat 32 offset) = iehdr := by
  rw [ImportExportHeader.bytes, placed_append] at placed
  rw [ImportExportHeader.ofMemory, placed.1.loadWord]

theorem ImportExportEntry.ofMemory_of_placed {ent : ImportExportEntry}
    (placed : Placed memory region offset ent.bytes) :
    ImportExportEntry.ofMemory memory
      (region.start + BitVec.ofNat 32 offset) = ent := by
  simp only [ImportExportEntry.bytes, placed_append, length_wordBytes,
    Nat.add_assoc, Nat.reduceAdd] at placed
  obtain ⟨atNameOffset, atUnk4, atUnk8, atAddress⟩ := placed
  have nameOffset := atNameOffset.loadWord
  have unk4 := atUnk4.loadWord
  have unk8 := atUnk8.loadWord
  have address := atAddress.loadWord
  rw [← start_add_ofNat] at unk4 unk8 address
  obtain ⟨_, _, _, _⟩ := ent
  rw [ImportExportEntry.ofMemory, ImportExportEntry.mk.injEq]
  exact ⟨nameOffset, unk4, unk8, address⟩

theorem ErptEntry.ofMemory_of_placed {ent : ErptEntry}
    (filename : ent.filename.length = 500)
    (placed : Placed memory region offset ent.bytes) :
    ErptEntry.ofMemory memory (region.start + BitVec.ofNat 32 offset) =
      ent := by
  simp only [ErptEntry.bytes, List.append_assoc, placed_append, filename,
    length_wordBytes, Nat.add_assoc, Nat.reduceAdd] at placed
  obtain ⟨atFilename, atSize, atOffset⟩ := placed
  have readFilename := atFilename.holds
  have size := atSize.loadWord
  have offset := atOffset.loadWord
  rw [filename] at readFilename
  rw [← start_add_ofNat] at size offset
  obtain ⟨_, _, _⟩ := ent
  rw [ErptEntry.ofMemory, ErptEntry.mk.injEq]
  exact ⟨readFilename, size, offset⟩

end Structures

/-! ## Files -/

/-- A section type that `dl.c` does not look for. -/
structure ForeignType where
  type : Word
  foreign : type ∉ [sectionCode, sectionResources, sectionImport,
    sectionExport]

/-- What a section holds. -/
inductive Content
  | code (unk0 entryPoint loadAddress allocSize : Word) (bytes : List Byte)
  | imports (symbols : List Symbol)
  | exports (symbols : List Symbol)
  | resources (pack : List Resource)
  | foreign (kind : ForeignType) (bytes : List Byte)

/-- The type of a section. -/
def Content.type : Content → Word
  | .code _ _ _ _ _ => sectionCode
  | .imports _ => sectionImport
  | .exports _ => sectionExport
  | .resources _ => sectionResources
  | .foreign kind _ => kind.type

/-- The entry of a symbol whose name has the given offset. -/
def symbolRecord (offset : Nat) (symbol : Symbol) : List Byte :=
  ImportExportEntry.bytes {
    nameOffset := BitVec.ofNat 32 offset
    unk4 := 0
    unk8 := 0
    address := symbol.address }

/-- The name of a symbol, with the zero that ends it. -/
def symbolName (symbol : Symbol) : List Byte :=
  symbol.name.bytes ++ [0]

/-- A symbol table. -/
def symbolTable (symbols : List Symbol) : List Byte :=
  ImportExportHeader.bytes ⟨BitVec.ofNat 32 symbols.length⟩ ++
    (directory symbolRecord symbolName 0 symbols ++
      symbols.flatMap symbolName)

/-- The file name array of a resource: the name and zeros. -/
def filename (resource : Resource) : List Byte :=
  (resource.name.bytes ++ List.replicate 500 0).take 500

/-- The entry of a resource whose data has the given offset. -/
def resourceRecord (offset : Nat) (resource : Resource) : List Byte :=
  ErptEntry.bytes {
    filename := filename resource
    size := BitVec.ofNat 32 resource.bytes.length
    offset := BitVec.ofNat 32 offset }

/-- The data of a resource. -/
def resourceData (resource : Resource) : List Byte :=
  resource.bytes.map decodeByte

/-- Where the data of the first resource lies in its section. -/
def resourceDataOffset (pack : List Resource) : Nat :=
  4 + pack.length * sizeofErptEntry

/-- A resource table. -/
def resourceTable (pack : List Resource) : List Byte :=
  wordBytes (BitVec.ofNat 32 pack.length) ++
    (directory resourceRecord resourceData (resourceDataOffset pack) pack ++
      pack.flatMap resourceData)

/-- The bytes of a section. -/
def Content.bytes : Content → List Byte
  | .code _ _ _ _ bytes => bytes
  | .imports symbols => symbolTable symbols
  | .exports symbols => symbolTable symbols
  | .resources pack => resourceTable pack
  | .foreign _ bytes => bytes

/-- A section: its tag, which nothing reads, and what it holds. -/
structure FileSection where
  fourcc : Word
  content : Content

/-- The bytes of a section. -/
abbrev FileSection.bytes (part : FileSection) : List Byte :=
  part.content.bytes

/-- The header of a section whose bytes have the given offset. -/
def FileSection.header (offset : Nat) (part : FileSection) :
    SectionHeader :=
  let blank : SectionHeader := {
    fourcc := wordBytes part.fourcc
    type := part.content.type
    offset := BitVec.ofNat 32 offset
    size := BitVec.ofNat 32 part.bytes.length
    unk0 := 0
    entryPoint := 0
    loadAddress := 0
    allocSize := 0 }
  match part.content with
  | .code unk0 entryPoint loadAddress allocSize _ =>
      { blank with
        unk0 := unk0
        entryPoint := entryPoint
        loadAddress := loadAddress
        allocSize := allocSize }
  | _ => blank

/-- The entry of a section in the section table. -/
def sectionRecord (offset : Nat) (part : FileSection) : List Byte :=
  (part.header offset).bytes

/-- The header of a file with a number of sections. -/
def fileHeader (count : Nat) : CcdlHeader where
  sign := ccdlSign
  version := 0x00010000
  unk8 := 0x00020001
  numSections := BitVec.ofNat 32 count
  unk16 := List.replicate 16 0

/-- Where the bytes of the first section lie in the file. -/
def contentsOffset (parts : List FileSection) : Nat :=
  sizeofHeader + parts.length * sizeofSectionHeader

/-- The file. -/
def encodeFile (parts : List FileSection) : List Byte :=
  (fileHeader parts.length).bytes ++
    (directory sectionRecord FileSection.bytes (contentsOffset parts)
        parts ++
      parts.flatMap FileSection.bytes)

/-- The symbols that a section holds. -/
def Content.symbols : Content → List Symbol
  | .imports symbols => symbols
  | .exports symbols => symbols
  | _ => []

/-- The resources that a section holds. -/
def Content.pack : Content → List Resource
  | .resources pack => pack
  | _ => []

/-- The first section of a type. -/
def firstPart (parts : List FileSection) (wanted : Word) :
    Option FileSection :=
  parts.find? fun part => part.content.type = wanted

/-- The symbols of the first section of a type. -/
def symbolsOf (parts : List FileSection) (wanted : Word) : List Symbol :=
  (firstPart parts wanted).elim [] fun part => part.content.symbols

/-- The resources of the first resource section. -/
def packOf (parts : List FileSection) : List Resource :=
  (firstPart parts sectionResources).elim [] fun part => part.content.pack

/-- What a code section holds, less what nothing reads. -/
structure CodePart where
  entryPoint : Word
  loadAddress : Word
  bytes : List Byte

/-- The first code section. -/
def codeOf (parts : List FileSection) : Option CodePart :=
  (firstPart parts sectionCode).bind fun part =>
    match part.content with
    | .code _ entryPoint loadAddress _ bytes =>
        some ⟨entryPoint, loadAddress, bytes⟩
    | _ => none

/-- The file lies at the start of an extent, and the names of its resources
fit into their arrays. -/
structure WrittenFile (memory : Memory) (file : Extent)
    (parts : List FileSection) : Prop where
  placed : Placed memory file 0 (encodeFile parts)
  small : file.size < 2 ^ 31
  named : ∀ part ∈ parts, ∀ resource ∈ part.content.pack,
    resource.name.length < 500

/-! ## Reading tables back -/

section Tables

variable {memory : Memory} {file : Extent} {offset : Nat}

/-- What holds of every record at its place holds of the records in order. -/
theorem forall₂_recordAddresses {related : Address → α → Prop} {size : Nat}
    {p : Address} {items : List α}
    (each : ∀ index (bound : index < items.length),
      related (p + BitVec.ofNat 32 (index * size)) items[index]) :
    List.Forall₂ related (recordAddresses size p items.length) items := by
  induction items generalizing p with
  | nil => exact .nil
  | cons item rest inductionHypothesis =>
      refine .cons ?_ (inductionHypothesis fun index bound => ?_)
      · have first := each 0 (by simp)
        rw [Nat.zero_mul, BitVec.add_zero] at first
        exact first
      · have next := each (index + 1) (by simpa using bound)
        rw [Nat.succ_mul, Nat.add_comm, ← start_add_ofNat] at next
        exact next

/-- The number of records that lie in a small extent is computed without
wrapping. -/
theorem toNat_count {count size total : Nat} (positive : 0 < size)
    (fits : count * size ≤ total) (small : total < 2 ^ 32) :
    (BitVec.ofNat 32 count).toNat = count := by
  rw [BitVec.toNat_ofNat, Nat.mod_eq_of_lt]
  exact lt_of_le_of_lt
    ((Nat.le_mul_of_pos_right count positive).trans fits) small

theorem length_symbolRecord (offset : Nat) (symbol : Symbol) :
    (symbolRecord offset symbol).length = sizeofImportExportEntry := rfl

/-- An entry that is written with the offset of its name is read back. -/
theorem entry_of_placed {symbol : Symbol} {entry names nameOffset : Nat}
    (small : file.size < 2 ^ 32)
    (written : Placed memory file entry (symbolRecord nameOffset symbol))
    (named : Placed memory file (names + nameOffset) (symbolName symbol)) :
    EntryReadable memory file (file.start + BitVec.ofNat 32 names)
        (file.start + BitVec.ofNat 32 entry) ∧
      Symbol.ofEntry memory (file.start + BitVec.ofNat 32 names)
        (file.start + BitVec.ofNat 32 entry) = symbol := by
  have ent := ImportExportEntry.ofMemory_of_placed written
  have pointer : namePointer memory (file.start + BitVec.ofNat 32 names)
      (file.start + BitVec.ofNat 32 entry) =
        file.start + BitVec.ofNat 32 (names + nameOffset) := by
    rw [namePointer, ent, start_add_ofNat]
  have stored := named.storedAt
  have nameInside := named.inside
  rw [symbolName, List.length_append, List.length_singleton] at nameInside
  have reached : symbol.name.length < 2 ^ 32 :=
    Nat.lt_of_succ_lt (Extent.size_lt_of_inside nameInside small)
  constructor
  · refine ⟨written.inside, symbol.name, ?_, ?_⟩
    · rw [pointer]
      exact stored
    · rw [pointer]
      exact nameInside
  · rw [Symbol.ofEntry, pointer, ent, CString.ofMemory,
      CString.ofSource_of_storedIn stored reached]

/-- A symbol table is read back. -/
theorem symbols_of_placed {listed : List Symbol}
    (small : file.size < 2 ^ 32)
    (placed : Placed memory file offset (symbolTable listed)) :
    TableReadable memory file (file.start + BitVec.ofNat 32 offset) ∧
      symbols memory (file.start + BitVec.ofNat 32 offset) = listed := by
  have headerLength : (ImportExportHeader.bytes
      ⟨BitVec.ofNat 32 listed.length⟩).length = 16 := rfl
  rw [symbolTable, placed_append, placed_append, headerLength,
    length_directory length_symbolRecord] at placed
  obtain ⟨atHeader, atEntries, atNames⟩ := placed
  have entriesEnd := atEntries.fits
  rw [length_directory length_symbolRecord] at entriesEnd
  have count : (BitVec.ofNat 32 listed.length).toNat = listed.length :=
    toNat_count (by decide : 0 < sizeofImportExportEntry)
      (by omega) small
  have counted : numEntries memory
      (file.start + BitVec.ofNat 32 offset) =
        BitVec.ofNat 32 listed.length := by
    rw [numEntries, ImportExportHeader.ofMemory_of_placed atHeader]
  have entriesAt : entriesStart (file.start + BitVec.ofNat 32 offset) =
      file.start + BitVec.ofNat 32 (offset + 16) :=
    start_add_ofNat file.start offset 16
  have namesAt : stringTable (file.start + BitVec.ofNat 32 offset)
      (BitVec.ofNat 32 listed.length) =
        file.start + BitVec.ofNat 32
          (offset + 16 + listed.length * sizeofImportExportEntry) := by
    rw [stringTable, entriesAt, ← BitVec.ofNat_mul, start_add_ofNat]
  have described : List.Forall₂
      (fun entry symbol =>
        EntryReadable memory file
            (file.start + BitVec.ofNat 32
              (offset + 16 + listed.length * sizeofImportExportEntry))
            entry ∧
          Symbol.ofEntry memory
            (file.start + BitVec.ofNat 32
              (offset + 16 + listed.length * sizeofImportExportEntry))
            entry = symbol)
      (entryAddresses (file.start + BitVec.ofNat 32 (offset + 16))
        listed.length) listed := by
    apply forall₂_recordAddresses
    intro index bound
    obtain ⟨nameOffset, written, named⟩ :=
      directory_placed length_symbolRecord atEntries atNames bound
    rw [start_add_ofNat]
    exact entry_of_placed small written named
  rw [List.forall₂_and_left] at described
  obtain ⟨readable, same⟩ := described
  constructor
  · refine ⟨atHeader.inside, ?_⟩
    rw [counted, count, entriesAt, namesAt]
    exact readable
  · rw [symbols, counted, count, entriesAt, namesAt]
    rwa [← List.forall₂_eq_eq_eq, List.forall₂_map_left_iff]

theorem length_filename_resource (resource : Resource) :
    (filename resource).length = 500 := by
  rw [filename, List.length_take, List.length_append,
    List.length_replicate]
  omega

theorem length_resourceRecord (offset : Nat) (resource : Resource) :
    (resourceRecord offset resource).length = sizeofErptEntry := by
  simp only [resourceRecord, ErptEntry.bytes, List.length_append,
    length_filename_resource, length_wordBytes]
  rfl

/-- A name that fits into the array, with a zero after it, is found there. -/
theorem name_filename {ent : ErptEntry} {resource : Resource}
    (fits : resource.name.length < 500)
    (stored : ent.filename = filename resource) :
    ent.Terminated ∧ ent.name = resource.name := by
  have characters : ∀ index (bound : index < resource.name.length),
      (ent.filename[index]?).getD 0 = resource.name.bytes[index] := by
    intro index bound
    have inBytes : index < resource.name.bytes.length := bound
    rw [stored, filename, List.getElem?_take_of_lt (by omega),
      List.getElem?_append_left inBytes, List.getElem?_eq_getElem inBytes]
    rfl
  have ended : ent.filename[resource.name.length]? = some 0 := by
    rw [stored, filename, List.getElem?_take_of_lt fits, CString.length,
      List.getElem?_append_right (Nat.le_refl _), Nat.sub_self,
      List.getElem?_replicate, if_pos (by decide)]
  constructor
  · exact List.mem_of_getElem? ended
  · apply CString.ofSource_of_storedIn
    · exact ⟨characters, by simp only [ended, Option.getD_some]⟩
    · omega

/-- An entry that is written with the offset of its data is read back. -/
theorem resource_of_placed {resource : Resource} {entry dataOffset : Nat}
    {shdr : SectionHeader} (small : file.size < 2 ^ 31)
    (fits : resource.name.length < 500)
    (located : shdr.offset = BitVec.ofNat 32 offset)
    (written : Placed memory file entry
      (resourceRecord dataOffset resource))
    (data : Placed memory file (offset + dataOffset)
      (resourceData resource)) :
    (⟨file.start + BitVec.ofNat 32 entry, sizeofErptEntry⟩ :
        Extent).Inside file ∧
      Describes memory file shdr
        (ErptEntry.ofMemory memory (file.start + BitVec.ofNat 32 entry))
        resource := by
  have entryInside := written.inside
  rw [length_resourceRecord] at entryInside
  have dataEnd := data.fits
  have dataRead := data.holds
  have dataInside := data.inside
  rw [resourceData, List.length_map] at dataEnd dataRead dataInside
  have size : (BitVec.ofNat 32 resource.bytes.length).toNat =
      resource.bytes.length := by
    rw [BitVec.toNat_ofNat, Nat.mod_eq_of_lt (by omega)]
  have start : file.start +
      (shdr.offset + BitVec.ofNat 32 dataOffset) =
        file.start + BitVec.ofNat 32 (offset + dataOffset) := by
    rw [located, ← BitVec.ofNat_add]
  rw [ErptEntry.ofMemory_of_placed (length_filename_resource resource)
    written]
  obtain ⟨terminated, named⟩ := @name_filename ⟨filename resource,
    BitVec.ofNat 32 resource.bytes.length, BitVec.ofNat 32 dataOffset⟩
    resource fits rfl
  refine ⟨entryInside, terminated, named, size, ?_, ?_⟩
  · rw [dataExtent, start, size]
    exact dataInside
  · rw [dataExtent, start, size]
    exact dataRead

/-- A resource table is read back. -/
theorem resources_of_placed {pack : List Resource}
    (small : file.size < 2 ^ 31)
    (fits : ∀ resource ∈ pack, resource.name.length < 500)
    (placed : Placed memory file offset (resourceTable pack))
    {shdr : SectionHeader} (located : shdr.offset = BitVec.ofNat 32 offset) :
    ResourcesReadable memory file (file.start + BitVec.ofNat 32 offset) ∧
      List.Forall₂ (Describes memory file shdr)
        (resourceEntries memory (file.start + BitVec.ofNat 32 offset))
        pack := by
  rw [resourceTable, placed_append, placed_append, length_wordBytes,
    length_directory length_resourceRecord] at placed
  obtain ⟨atCount, atEntries, atData⟩ := placed
  have entriesEnd := atEntries.fits
  rw [length_directory length_resourceRecord] at entriesEnd
  have count : (BitVec.ofNat 32 pack.length).toNat = pack.length :=
    toNat_count (by decide : 0 < sizeofErptEntry) (by omega)
      (lt_trans small (by decide))
  have counted := atCount.loadWord
  have described : List.Forall₂
      (fun entry resource =>
        (⟨entry, sizeofErptEntry⟩ : Extent).Inside file ∧
          Describes memory file shdr (ErptEntry.ofMemory memory entry)
            resource)
      (recordAddresses sizeofErptEntry
        (file.start + BitVec.ofNat 32 (offset + 4)) pack.length) pack := by
    apply forall₂_recordAddresses
    intro index bound
    rw [Nat.add_assoc] at atData
    obtain ⟨dataOffset, written, data⟩ :=
      directory_placed length_resourceRecord atEntries atData bound
    rw [start_add_ofNat]
    exact resource_of_placed small (fits _ (List.getElem_mem bound))
      located written data
  rw [List.forall₂_and_left] at described
  obtain ⟨inside, describes⟩ := described
  have entriesAt : file.start + BitVec.ofNat 32 offset + 4 =
      file.start + BitVec.ofNat 32 (offset + 4) :=
    start_add_ofNat file.start offset 4
  constructor
  · refine ⟨atCount.inside, ?_⟩
    rw [counted, count, entriesAt]
    exact inside
  · rw [resourceEntries, counted, count, entriesAt,
      List.forall₂_map_left_iff]
    exact describes

end Tables

/-! ## Reading files back -/

section Files

variable {memory : Memory} {file : Extent} {parts : List FileSection}

theorem Content.bytes_of_symbols {content : Content}
    (typed : content.type = sectionImport ∨ content.type = sectionExport) :
    content.bytes = symbolTable content.symbols := by
  cases content with
  | imports symbols => rfl
  | exports symbols => rfl
  | code => simp [Content.type, sectionCode, sectionImport,
      sectionExport] at typed
  | resources => simp [Content.type, sectionResources, sectionImport,
      sectionExport] at typed
  | foreign kind bytes =>
      refine absurd ?_ kind.foreign
      rcases typed with typed | typed <;>
        simp [← show kind.type = _ from typed]

theorem Content.bytes_of_resources {content : Content}
    (typed : content.type = sectionResources) :
    content.bytes = resourceTable content.pack := by
  cases content with
  | resources pack => rfl
  | imports => simp [Content.type, sectionImport, sectionResources] at typed
  | exports => simp [Content.type, sectionExport, sectionResources] at typed
  | code => simp [Content.type, sectionCode, sectionResources] at typed
  | foreign kind bytes =>
      refine absurd ?_ kind.foreign
      simp [← show kind.type = _ from typed]

/-- The header of a section of the file, whose bytes lie where it says. -/
def HeaderOf (memory : Memory) (file : Extent) (shdr : SectionHeader)
    (part : FileSection) : Prop :=
  ∃ offset, shdr = part.header offset ∧
    Placed memory file offset part.bytes

theorem length_header (hdr : CcdlHeader) (sign : hdr.sign.length = 4)
    (unk16 : hdr.unk16.length = 16) : hdr.bytes.length = sizeofHeader := by
  simp only [CcdlHeader.bytes, List.length_append, sign, unk16,
    length_wordBytes]
  rfl

theorem fourcc_header (offset : Nat) (part : FileSection) :
    (part.header offset).fourcc.length = 4 := by
  obtain ⟨_, _ | _ | _ | _ | _⟩ := part <;> rfl

theorem length_sectionRecord (offset : Nat) (part : FileSection) :
    (sectionRecord offset part).length = sizeofSectionHeader := by
  simp only [sectionRecord, SectionHeader.bytes, List.length_append,
    fourcc_header, length_wordBytes]
  rfl

@[simp] theorem header_type (offset : Nat) (part : FileSection) :
    (part.header offset).type = part.content.type := by
  obtain ⟨_, _ | _ | _ | _ | _⟩ := part <;> rfl

@[simp] theorem header_offset (offset : Nat) (part : FileSection) :
    (part.header offset).offset = BitVec.ofNat 32 offset := by
  obtain ⟨_, _ | _ | _ | _ | _⟩ := part <;> rfl

@[simp] theorem header_size (offset : Nat) (part : FileSection) :
    (part.header offset).size = BitVec.ofNat 32 part.bytes.length := by
  obtain ⟨_, _ | _ | _ | _ | _⟩ := part <;> rfl

/-- The three parts of a file. -/
theorem WrittenFile.split (written : WrittenFile memory file parts) :
    Placed memory file 0 (fileHeader parts.length).bytes ∧
      Placed memory file sizeofHeader
        (directory sectionRecord FileSection.bytes (contentsOffset parts)
          parts) ∧
      Placed memory file (contentsOffset parts)
        (parts.flatMap FileSection.bytes) := by
  have placed := written.placed
  rw [encodeFile, placed_append, placed_append,
    length_header _ rfl (List.length_replicate ..), Nat.zero_add,
    length_directory length_sectionRecord] at placed
  exact placed

/-- The header of a file is read back. -/
theorem WrittenFile.header (written : WrittenFile memory file parts) :
    CcdlHeader.ofMemory memory file.start = fileHeader parts.length := by
  have placed := CcdlHeader.ofMemory_of_placed rfl
    (List.length_replicate ..) written.split.1
  rwa [BitVec.add_zero] at placed

theorem WrittenFile.sectionCount (written : WrittenFile memory file parts) :
    Dl.sectionCount memory file.start = parts.length := by
  have fits := written.split.2.1.fits
  rw [length_directory length_sectionRecord] at fits
  rw [Dl.sectionCount, written.header]
  exact toNat_count (by decide : 0 < sizeofSectionHeader) (by omega)
    (lt_trans written.small (by decide))

theorem sectionHeaderAddress_eq (start : Address) (index : Nat) :
    sectionHeaderAddress start index =
      start + BitVec.ofNat 32
        (sizeofHeader + index * sizeofSectionHeader) := by
  rw [sectionHeaderAddress, ← BitVec.ofNat_mul, start_add_ofNat]

/-- The section table is read back. -/
theorem WrittenFile.sections (written : WrittenFile memory file parts) :
    (∀ index < parts.length,
      (⟨sectionHeaderAddress file.start index, sizeofSectionHeader⟩ :
        Extent).Inside file) ∧
      List.Forall₂ (HeaderOf memory file)
        (sectionHeaders memory file.start parts.length) parts := by
  obtain ⟨_, atTable, atContents⟩ := written.split
  have each : ∀ index (bound : index < parts.length),
      (⟨sectionHeaderAddress file.start index, sizeofSectionHeader⟩ :
          Extent).Inside file ∧
        HeaderOf memory file
          (SectionHeader.ofMemory memory
            (sectionHeaderAddress file.start index)) parts[index] := by
    intro index bound
    rw [← Nat.zero_add (contentsOffset parts)] at atContents
    obtain ⟨offset, record, contents⟩ :=
      directory_placed length_sectionRecord atTable atContents bound
    rw [Nat.zero_add] at contents
    have inside := record.inside
    rw [length_sectionRecord] at inside
    rw [sectionHeaderAddress_eq,
      SectionHeader.ofMemory_of_placed (fourcc_header ..) record]
    exact ⟨inside, offset, rfl, contents⟩
  constructor
  · exact fun index bound => (each index bound).1
  · rw [List.forall₂_iff_get]
    refine ⟨by simp [sectionHeaders], fun index _ bound => ?_⟩
    have here := (each index bound).2
    simpa [sectionHeaders] using here

/-- Searching two lists whose items correspond finds items that
correspond. -/
theorem find?_forall₂ {related : α → β → Prop} {left : List α}
    {right : List β} {p : α → Bool} {q : β → Bool}
    (all : List.Forall₂ related left right)
    (same : ∀ x y, related x y → p x = q y) :
    Option.Rel related (left.find? p) (right.find? q) := by
  induction all with
  | nil => exact .none
  | @cons x y _ _ head _ inductionHypothesis =>
      cases found : p x with
      | true =>
          rw [List.find?_cons_of_pos found,
            List.find?_cons_of_pos ((same x y head).symm.trans found)]
          exact .some head
      | false =>
          rw [List.find?_cons_of_neg (by simp [found]),
            List.find?_cons_of_neg (by simp [← same x y head, found])]
          exact inductionHypothesis

/-- The first section of a type is read back. -/
theorem WrittenFile.firstSection (written : WrittenFile memory file parts)
    (wanted : Word) :
    (Dl.firstSection memory file.start
          (Dl.sectionCount memory file.start) wanted = none ∧
        firstPart parts wanted = none) ∨
      ∃ part offset, firstPart parts wanted = some part ∧
        part ∈ parts ∧ part.content.type = wanted ∧
        Dl.firstSection memory file.start
          (Dl.sectionCount memory file.start) wanted =
            some (part.header offset) ∧
        Placed memory file offset part.bytes := by
  have first : Option.Rel (HeaderOf memory file)
      (Dl.firstSection memory file.start
        (Dl.sectionCount memory file.start) wanted)
      (firstPart parts wanted) := by
    rw [written.sectionCount]
    apply find?_forall₂ written.sections.2
    rintro _ part ⟨offset, rfl, _⟩
    rw [header_type]
  generalize located : Dl.firstSection memory file.start
    (Dl.sectionCount memory file.start) wanted = shdr at first
  generalize found : firstPart parts wanted = part at first
  cases first with
  | none => exact .inl ⟨rfl, rfl⟩
  | @some shdr part header =>
      obtain ⟨offset, rfl, placed⟩ := header
      refine .inr ⟨part, offset, rfl, ?_, ?_, rfl, placed⟩
      · exact List.mem_of_find?_eq_some found
      · simpa using List.find?_some found

/-- The first symbol table of a kind is read back. -/
theorem WrittenFile.symbols (written : WrittenFile memory file parts)
    {wanted : Word} (kind : wanted = sectionImport ∨ wanted = sectionExport) :
    (∀ shdr ∈ Dl.firstSection memory file.start
        (Dl.sectionCount memory file.start) wanted,
      TableReadable memory file (file.start + shdr.offset)) ∧
      sectionSymbols memory file.start
        (Dl.sectionCount memory file.start) wanted =
          symbolsOf parts wanted := by
  rw [sectionSymbols, symbolsOf]
  rcases written.firstSection wanted with
    ⟨missing, absent⟩ | ⟨part, offset, found, _, typed, located, placed⟩
  · rw [missing, absent]
    exact ⟨by simp, rfl⟩
  · rw [FileSection.bytes,
      Content.bytes_of_symbols (typed.symm ▸ kind)] at placed
    obtain ⟨readable, same⟩ := symbols_of_placed
      (lt_trans written.small (by decide)) placed
    rw [found, located]
    constructor
    · intro shdr present
      cases present
      rw [header_offset]
      exact readable
    · dsimp only [Option.elim_some]
      rw [header_offset]
      exact same

/-- The first resource table is read back. -/
theorem WrittenFile.resources (written : WrittenFile memory file parts) :
    (resourceSection memory file.start = none ∧
        firstPart parts sectionResources = none) ∨
      ∃ shdr, resourceSection memory file.start = some shdr ∧
        ResourcesReadable memory file (file.start + shdr.offset) ∧
        List.Forall₂ (Describes memory file shdr)
          (resourceEntries memory (file.start + shdr.offset))
          (packOf parts) := by
  rcases written.firstSection sectionResources with
    ⟨missing, absent⟩ | ⟨part, offset, found, inParts, typed, located, placed⟩
  · exact .inl ⟨missing, absent⟩
  · rw [FileSection.bytes, Content.bytes_of_resources typed] at placed
    have listed : packOf parts = part.content.pack := by
      rw [packOf, found, Option.elim_some]
    obtain ⟨readable, described⟩ := resources_of_placed written.small
      (written.named part inParts) placed (header_offset offset part)
    rw [listed]
    rw [← header_offset offset part] at readable described
    exact .inr ⟨part.header offset, located, readable, described⟩

/-- The header of a code section says what the section holds, and where. -/
structure CodeHeader (memory : Memory) (file : Extent)
    (shdr : SectionHeader) (code : CodePart) : Prop where
  entryPoint : shdr.entryPoint = code.entryPoint
  loadAddress : shdr.loadAddress = code.loadAddress
  size : shdr.size.toNat = code.bytes.length
  inside : (payload file.start shdr).Inside file
  bytes : read memory (file.start + shdr.offset) code.bytes.length =
    code.bytes

/-- The first code section is read back. -/
theorem WrittenFile.code (written : WrittenFile memory file parts) :
    (codeSection memory file.start = none ∧ codeOf parts = none) ∨
      ∃ shdr code, codeSection memory file.start = some shdr ∧
        codeOf parts = some code ∧ CodeHeader memory file shdr code := by
  rcases written.firstSection sectionCode with
    ⟨missing, absent⟩ | ⟨⟨fourcc, content⟩, offset, found, _, typed, located,
      placed⟩
  · exact .inl ⟨missing, by rw [codeOf, absent, Option.bind_none]⟩
  cases content with
  | code unk0 entryPoint loadAddress allocSize bytes =>
      have fits := placed.fits
      have small := written.small
      have size : (BitVec.ofNat 32 bytes.length).toNat = bytes.length := by
        rw [BitVec.toNat_ofNat, Nat.mod_eq_of_lt]
        exact lt_of_le_of_lt (by exact Nat.le_of_add_left_le fits)
          (lt_trans small (by decide))
      refine .inr ⟨_, ⟨entryPoint, loadAddress, bytes⟩, located, ?_, ?_⟩
      · rw [codeOf, found, Option.bind_some]
      · refine ⟨rfl, rfl, size, ?_, placed.holds⟩
        change (⟨file.start + BitVec.ofNat 32 offset,
          (BitVec.ofNat 32 bytes.length).toNat⟩ : Extent).Inside file
        rw [size]
        exact placed.inside
  | imports => simp [Content.type, sectionCode, sectionImport] at typed
  | exports => simp [Content.type, sectionCode, sectionExport] at typed
  | resources =>
      simp [Content.type, sectionCode, sectionResources] at typed
  | foreign kind bytes =>
      refine absurd ?_ kind.foreign
      simp [← show kind.type = _ from typed]

/-- Everything that the parser reads lies in the file. -/
theorem WrittenFile.readable (written : WrittenFile memory file parts) :
    FileReadable memory file where
  header := by
    have inside := written.split.1.inside
    rwa [length_header _ rfl (List.length_replicate ..),
      BitVec.add_zero] at inside
  sections := by
    rw [written.sectionCount]
    exact written.sections.1
  code := by
    rcases written.code with ⟨missing, _⟩ | ⟨shdr, code, located, _, header⟩
    · simp [missing]
    · rw [located]
      rintro _ ⟨⟩
      exact header.inside
  imports := (written.symbols (.inl rfl)).1
  exports := (written.symbols (.inr rfl)).1
  resources := by
    rcases written.resources with ⟨missing, _⟩ | ⟨shdr, located, readable, _⟩
    · simp [missing]
    · rw [located]
      rintro _ ⟨⟩
      exact readable

end Files

/-! ## Loading what was written -/

/-- The code and the import slots that sections describe have places apart from
some regions, and the slots from each other; and the imports are builtins. -/
structure Linkable (builtins : List (CString × Address))
    (regions : List Extent) (parts : List FileSection) (code : CodePart) :
    Prop where
  found : codeOf parts = some code
  codeApart : ∀ region ∈ regions,
    (⟨code.loadAddress, code.bytes.length⟩ : Extent).Disjoint region
  slotsApart : ∀ region ∈ regions,
    ∀ symbol ∈ symbolsOf parts sectionImport,
      (slot symbol).Disjoint region
  slotsPairwise : (symbolsOf parts sectionImport).Pairwise
    fun left right => (slot left).Disjoint (slot right)
  builtin : ∀ symbol ∈ symbolsOf parts sectionImport,
    symbol.name ∈ builtins.map Prod.fst

section Loading

variable {builtins : List (CString × Address)} {memory : Memory}
variable {file : Extent} {regions : List Extent}
variable {parts : List FileSection} {code : CodePart}

theorem WrittenFile.imports (written : WrittenFile memory file parts) :
    Dl.imports memory file.start = symbolsOf parts sectionImport :=
  (written.symbols (.inl rfl)).2

theorem WrittenFile.exports (written : WrittenFile memory file parts) :
    Dl.exports memory file.start = symbolsOf parts sectionExport :=
  (written.symbols (.inr rfl)).2

/-- The loader writes apart from these regions. -/
theorem WrittenFile.writesApart (written : WrittenFile memory file parts)
    (linkable : Linkable builtins regions parts code) {region : Extent}
    (present : region ∈ regions) :
    WritesApart memory file.start region where
  code := by
    rcases written.code with ⟨missing, _⟩ | ⟨shdr, other, located, found,
      header⟩
    · simp [missing]
    · rw [located]
      rintro _ ⟨⟩
      obtain rfl := Option.some.inj (found.symm.trans linkable.found)
      rw [destination, header.size, header.loadAddress]
      exact linkable.codeApart region present
  slots := by
    rw [written.imports]
    exact linkable.slotsApart region present

/-- Memory when the entry point of a written file is called. -/
structure Linked (builtins : List (CString × Address)) (memory : Memory)
    (regions : List Extent) (parts : List FileSection) (code : CodePart)
    (linked : Memory) : Prop where
  regionsKept : ∀ region ∈ regions, AgreeOn region memory linked
  importsJump : ∀ symbol ∈ symbolsOf parts sectionImport, ∃ target,
    ccosGetBuiltinProc (terminated builtins 0) symbol.name =
        .found target ∧
      ldrPcTarget linked symbol.address = some target
  codeCopied : ∀ index (bound : index < code.bytes.length),
    (∀ symbol ∈ symbolsOf parts sectionImport,
      code.loadAddress + BitVec.ofNat 32 index ∉ slot symbol) →
        linked (code.loadAddress + BitVec.ofNat 32 index) =
          code.bytes[index]
  othersKept : ∀ address,
    address ∉ (⟨code.loadAddress, code.bytes.length⟩ : Extent) →
      (∀ symbol ∈ symbolsOf parts sectionImport, address ∉ slot symbol) →
        linked address = memory address

/-- Loading a file that was written links what it was written from. -/
theorem WrittenFile.links (written : WrittenFile memory file parts)
    (linkable : Linkable builtins regions parts code)
    (inRegions : file ∈ regions) :
    ∃ linked,
      (ccdlToEntry (terminated builtins 0) memory file.start).value =
          .enter code.entryPoint linked (fileHeader parts.length) ∧
        Linked builtins memory regions parts code linked := by
  have apart := written.writesApart linkable inRegions
  rcases written.code with ⟨_, absent⟩ | ⟨shdr, other, located, found,
    header⟩
  · exact absurd (absent.symm.trans linkable.found) (by simp)
  obtain rfl := Option.some.inj (found.symm.trans linkable.found)
  have copied : withCode memory file.start shdr =
      write memory other.loadAddress other.bytes := by
    rw [withCode, header.size, header.bytes, header.loadAddress]
  obtain ⟨linked, ended⟩ := linkSymbols_linked (terminated builtins 0)
    (withCode memory file.start shdr) fun symbol present =>
      ccosGetBuiltinProc_of_mem 0 (linkable.builtin symbol present)
  have frame : ∀ address,
      (∀ symbol ∈ symbolsOf parts sectionImport, address ∉ slot symbol) →
        linked address =
          write memory other.loadAddress other.bytes address := by
    intro address outside
    have kept := linkSymbols_frame (terminated builtins 0)
      (withCode memory file.start shdr) outside
    rwa [ended, copied] at kept
  have entered : (ccdlToEntry (terminated builtins 0) memory
      file.start).value =
        .enter other.entryPoint linked (fileHeader parts.length) := by
    have valid : (fileHeader parts.length).Valid := ⟨rfl, rfl, rfl⟩
    rw [ccdlToEntry_value _ (lt_trans written.small (by decide))
      written.readable.toLoaderReadable apart, loadFile]
    simp only [written.header, valid, located, written.imports, ended,
      if_true, ImportOutcome.enter, header.entryPoint]
  refine ⟨linked, entered, ?_, ?_, ?_, ?_⟩
  · intro region present
    exact ccdlToEntry_agreeOn (lt_trans written.small (by decide))
      written.readable.toLoaderReadable apart
      (written.writesApart linkable present) entered
  · intro symbol present
    obtain ⟨target, resolved, stored⟩ := linkSymbols_slot _ ended
      linkable.slotsPairwise present
    exact ⟨target, resolved, ldrPcTarget_thunk stored⟩
  · intro index bound outside
    have offset : (other.loadAddress + BitVec.ofNat 32 index -
        other.loadAddress).toNat = index := by
      have small := shdr.size.isLt
      rw [header.size] at small
      bv_omega
    rw [frame _ outside, write_of_mem (by rw [offset]; exact bound)]
    simp only [offset]
  · intro address outsideCode outside
    rw [frame address outside]
    exact write_of_notMem outsideCode

end Loading

/-! ## Looking up what was written -/

section Lookups

variable {memory later : Memory} {file : Extent}
variable {parts : List FileSection}

/-- The `DL_t` that loading a written file fills. -/
def writtenDl (file : Extent) (fileSize : Word) (parts : List FileSection) :
    DL :=
  ⟨file.start, fileSize, fileHeader parts.length⟩

/-- As long as the file is kept, `dl_get_proc` finds the exports that were
written, and otherwise the builtins. -/
theorem WrittenFile.proc (written : WrittenFile memory file parts)
    (kept : AgreeOn file memory later) (fileSize : Word)
    (table : List (OsFunction Address)) (name : CString) :
    (dlGetProc table later (writtenDl file fileSize parts) name).value =
      match (symbolsOf parts sectionExport).find?
          (fun symbol => symbol.name = name) with
      | some symbol => .found symbol.address
      | none => ccosGetBuiltinProc table name := by
  have small : file.size < 2 ^ 32 := lt_trans written.small (by decide)
  have described : writtenDl file fileSize parts =
      ⟨file.start, fileSize, CcdlHeader.ofMemory memory file.start⟩ := by
    rw [writtenDl, written.header]
  obtain ⟨readable, same⟩ := exports_described small
    written.readable.sections written.readable.exports kept described
  have found := dlGetProc_value table small readable name
  rw [same, written.exports] at found
  refine found.trans ?_
  cases (symbolsOf parts sectionExport).find?
    (fun symbol => symbol.name = name) <;> rfl

/-- A handle from which the bytes of a resource can be read: its size is
theirs, and a first read of up to that many bytes delivers them unmasked. -/
structure Reads (memory : Memory) (objects : Address → DL) (res : DlRes)
    (resource : Resource) : Prop where
  size : (dlResGetSize res).toNat = resource.bytes.length
  first : ∀ (buffer : Address) (count : Word),
    count.toNat ≤ resource.bytes.length →
      read (dlResGetData memory objects res buffer 1 count).value.1 buffer
        count.toNat = resource.bytes.take count.toNat

/-- A described entry is opened as a handle that reads its resource. -/
theorem reads_of_describes {objects : Address → DL} {dl : Address}
    {shdr : SectionHeader} {ent : ErptEntry} {resource : Resource}
    (describes : Describes memory file shdr ent resource)
    (kept : AgreeOn file memory later)
    (placed : (objects dl).fileBytes = file.start) :
    Reads later objects (DlRes.opened dl shdr ent) resource := by
  refine ⟨describes.size, ?_⟩
  intro buffer count bound
  have cursor : CursorBehind memory file shdr dl resource
      (DlRes.opened dl shdr ent) [] :=
    ⟨rfl, describes, (BitVec.add_zero _).symm, fun _ => rfl⟩
  have moved := (cursor.getData kept count).content
  rw [List.nil_append, List.length_map, length_read] at moved
  have source : (objects (DlRes.opened dl shdr ent).dl).fileBytes =
      file.start := placed
  rw [dlResGetData_value, source, moved bound]
  have length : (resource.bytes.take count.toNat).length = count.toNat :=
    List.length_take_of_le bound
  have stored := @read_write_self later buffer
    (resource.bytes.take count.toNat)
    (by rw [length]; exact Nat.le_of_lt count.isLt)
  rwa [length] at stored

/-- As long as the file is kept, `dl_res_open` finds the resources that were
written. -/
theorem WrittenFile.resource (written : WrittenFile memory file parts)
    (kept : AgreeOn file memory later) {objects : Address → DL}
    {dl : Address} {fileSize : Word}
    (filled : objects dl = writtenDl file fileSize parts)
    (stack : Nat → Byte) (malloc : Word → Address) (unk4 : Word)
    (name : CString) :
    match (packOf parts).find? (fun resource => resource.name = name) with
    | some resource => ∃ res,
        (dlResOpen later stack malloc objects dl unk4 name).value =
            some (malloc sizeofDlRes, res) ∧
          Reads later objects res resource
    | none =>
        (dlResOpen later stack malloc objects dl unk4 name).value =
          none := by
  have described : objects dl =
      ⟨file.start, fileSize, CcdlHeader.ofMemory memory file.start⟩ := by
    rw [filled, writtenDl, written.header]
  rw [dlResOpen_described kept written.readable.sections
    written.readable.resources described]
  rcases written.resources with ⟨missing, absent⟩ | ⟨shdr, located, _, entries⟩
  · rw [missing, packOf, absent]
    rfl
  rw [located, Option.bind_some,
    find?_isNamed (fun ent => terminated_of_described entries)]
  have first := find?_forall₂ entries
    (fun ent resource (describes : Describes memory file shdr ent resource) =>
      show decide (ent.name = name) = decide (resource.name = name) by
        rw [describes.name])
  generalize (resourceEntries memory (file.start + shdr.offset)).find?
    (fun ent => decide (ent.name = name)) = ent at first ⊢
  generalize (packOf parts).find?
    (fun resource => decide (resource.name = name)) = resource at first ⊢
  cases first with
  | none => rfl
  | some describes =>
      refine ⟨_, rfl, reads_of_describes describes kept ?_⟩
      rw [filled, writtenDl]

/-- As long as the file is kept, everything that was written is found again,
and under other names nothing but the builtins. -/
theorem written_file_found (written : WrittenFile memory file parts)
    (kept : AgreeOn file memory later) {objects : Address → DL}
    {dl : Address} {fileSize : Word}
    (filled : objects dl = writtenDl file fileSize parts)
    (table : List (OsFunction Address)) (name : CString) :
    (dlGetProc table later (objects dl) name).value =
        (match (symbolsOf parts sectionExport).find?
            (fun symbol => symbol.name = name) with
        | some symbol => .found symbol.address
        | none => ccosGetBuiltinProc table name) ∧
      ∀ stack malloc unk4,
        match (packOf parts).find?
            (fun resource => resource.name = name) with
        | some resource => ∃ res,
            (dlResOpen later stack malloc objects dl unk4 name).value =
                some (malloc sizeofDlRes, res) ∧
              Reads later objects res resource
        | none =>
            (dlResOpen later stack malloc objects dl unk4 name).value =
              none := by
  rw [filled]
  exact ⟨written.proc kept fileSize table name, fun stack malloc unk4 =>
    written.resource kept filled stack malloc unk4 name⟩

/-! ## A written file -/

theorem foreign_two : (2 : Word) ∉
    [sectionCode, sectionResources, sectionImport, sectionExport] := by
  decide

/-- The sections of a file that imports `malloc`, exports `AppMain` and holds
the resource `a`, between sections that nothing reads. -/
def sampleParts : List FileSection :=
  [⟨0, .foreign ⟨2, foreign_two⟩ [1, 2, 3]⟩,
    ⟨0x54504D49, .imports [⟨mallocName, 0x10100010⟩]⟩,
    ⟨0x44574152, .code 0 0x10100000 0x10100000 8
      ([0xE1A00000, 0xE12FFF1E].flatMap wordBytes)⟩,
    ⟨0x54505845, .exports [⟨appMainName, 0x10100004⟩]⟩,
    ⟨0x54505245, .resources [sampleResource]⟩]

/-- Memory that holds nothing but the file. -/
def sampleWritten : Memory :=
  write (fun _ => 0) 0x30000000 (encodeFile sampleParts)

/-- The extent of the file. -/
def sampleWrittenExtent : Extent :=
  ⟨0x30000000, (encodeFile sampleParts).length⟩

theorem length_sampleParts : (encodeFile sampleParts).length = 797 := by
  decide +kernel

theorem sampleWritten_written :
    WrittenFile sampleWritten sampleWrittenExtent sampleParts where
  placed := placed_write (by rw [length_sampleParts]; decide)
  small := by
    rw [sampleWrittenExtent, length_sampleParts]
    decide
  named := by decide

theorem written_file_found_sample :
    (dlGetProc [] sampleWritten
        (writtenDl sampleWrittenExtent 797 sampleParts) appMainName).value =
        .found 0x10100004 ∧
      (dlResOpen sampleWritten (fun _ => 0) (fun _ => 0x10200000)
        (fun _ => writtenDl sampleWrittenExtent 797 sampleParts) 0 0
          appMainName).value = none := by
  obtain ⟨proc, resource⟩ := written_file_found sampleWritten_written
    (AgreeOn.refl sampleWrittenExtent sampleWritten)
    (show (fun _ : Address => _) 0 = _ from rfl) [] appMainName
  exact ⟨proc, resource (fun _ => 0) (fun _ => 0x10200000) 0⟩

end Lookups

end Dl
end GA330
