import GA330.Dl.Bounds
import GA330.Dl.Outcome

/-!
# Lookups and the linker

`dl_get_proc` searches the first export section and falls back on the search
that the linker uses for imports.  So a name that the file does not export
resolves to the address that the linker stores for it.  An exported address is
returned as it stands in the file, zero included.
-/

namespace GA330
namespace Dl

open ByteMemory Minisys

/-! ## What the linker stores -/

/-- The second word of a thunk is the address that it jumps to. -/
theorem loadWord_thunk {memory : Memory} {p target : Address}
    (stored : read memory p 8 = thunkBytes target) :
    loadWord memory (p + 4) = target := by
  rw [show (8 : Nat) = 4 + 4 by rfl, read_add, thunkBytes] at stored
  exact loadWord_of_read (List.append_inj stored (by simp)).2

/-- Wherever the import loop meets an entry of the name, it stores the address
in the second word of the entry's slot and goes on with the next entry. -/
def LinkerStores (table : List (OsFunction Address)) (name : CString)
    (target : Address) : Prop :=
  ∀ remaining memory p stringTable,
    (Symbol.ofEntry memory stringTable p).name = name →
      let address := (Symbol.ofEntry memory stringTable p).address
      ∃ patched : Memory,
        (∀ other, other ∉ (⟨address, 8⟩ : Extent) →
          patched other = memory other) ∧
        read patched address 8 = wordBytes 0xe51ff004 ++ wordBytes target ∧
        loadWord patched (address + 4) = target ∧
        (resolveImports table (remaining + 1) memory p stringTable).value =
          (resolveImports table remaining patched (p + 16)
            stringTable).value

/-- The linker stores the address that the builtin table has for the name. -/
theorem linkerStores_of_found {table : List (OsFunction Address)}
    {name : CString} {target : Address}
    (found : ccosGetBuiltinProc table name = .found target) :
    LinkerStores table name target := by
  intro remaining memory p stringTable named
  have stored : read (write memory
      (Symbol.ofEntry memory stringTable p).address (thunkBytes target))
      (Symbol.ofEntry memory stringTable p).address 8 =
        thunkBytes target :=
    read_write_self (by simp)
  refine ⟨_, ?_, stored, loadWord_thunk stored, ?_⟩
  · intro other outside
    exact write_of_notMem outside
  · have sameName : CString.ofMemory memory (stringTable +
        (ImportExportEntry.ofMemory memory p).nameOffset) = name := named
    rw [resolveImports]
    simp only [Traced.value_bind, copyImportExportEntry, readName, sameName,
      found, writeThunk]
    rfl

/-! ## Lookups -/

/-- What a lookup of a name comes to, for a file with the given memory at the
time it was loaded and the given calls of application code by the loader. -/
structure LookupOutcome (builtins : List (CString × Address))
    (memory : Memory) (file : Extent) (calls : List ApplicationCall)
    (name : CString) (result : Lookup Address) : Prop where
  /-- The first entry of the name in the first export section decides. -/
  exported : ∀ symbol,
    (exports memory file.start).find? (fun symbol => symbol.name = name) =
        some symbol →
      result = .found symbol.address
  /-- Without one, the result is the address of the first row of the name in
  the table of builtins, which the linker stores for the name, and which the
  slots of the file hold when its entry point is called. -/
  linked : name ∉ (exports memory file.start).map Symbol.name →
    name ∈ builtins.map Prod.fst →
      ∃ target,
        builtins.find? (fun row => row.1 = name) = some (name, target) ∧
        result = .found target ∧
        LinkerStores (terminated builtins 0) name target ∧
        (LoaderReadable memory file → WritesApart memory file.start file →
          ((imports memory file.start).Pairwise fun left right =>
            (slot left).Disjoint (slot right)) →
          ∀ call ∈ calls, ∀ symbol ∈ imports memory file.start,
            symbol.name = name →
              loadWord call.memory (symbol.address + 4) = target)
  /-- The lookup panics exactly for a name that is in neither table. -/
  panics : result = .panic ↔
    name ∉ (exports memory file.start).map Symbol.name ∧
      name ∉ builtins.map Prod.fst
  ends : result ≠ .overrun
  /-- The null pointer is returned exactly when it stands in the entry or in
  the row that decides. -/
  null : result = .found 0 ↔
    (∃ symbol, (exports memory file.start).find?
        (fun symbol => symbol.name = name) = some symbol ∧
      symbol.address = 0) ∨
    (name ∉ (exports memory file.start).map Symbol.name ∧
      builtins.find? (fun row => row.1 = name) = some (name, 0))

theorem find?_name_eq_none {symbols : List Symbol} {name : CString} :
    symbols.find? (fun symbol => symbol.name = name) = none ↔
      name ∉ symbols.map Symbol.name := by
  simp [List.find?_eq_none]

/-- The search finds the first row of the name. -/
theorem find?_of_ccosGetBuiltinProc {builtins : List (CString × Address)}
    {name : CString} {target : Address}
    (found : ccosGetBuiltinProc (terminated builtins 0) name =
      .found target) :
    builtins.find? (fun row => row.1 = name) = some (name, target) := by
  rw [ccosGetBuiltinProc_terminated] at found
  cases search : builtins.find? (fun row => row.1 = name) with
  | none =>
      rw [search] at found
      contradiction
  | some row =>
      rw [search] at found
      cases found
      have named : row.1 = name := by simpa using List.find?_some search
      rw [← named]

/-- At the call of the entry point, a slot of the name holds the address in
its second word. -/
theorem slot_holds_target {builtins : List (CString × Address)}
    {memory linked : Memory} {file : Extent} {entryPoint : Address}
    {hdr : CcdlHeader} {name : CString} {target : Address}
    (small : file.size < 2 ^ 32) (readable : LoaderReadable memory file)
    (apart : WritesApart memory file.start file)
    (pairwise : (imports memory file.start).Pairwise fun left right =>
      (slot left).Disjoint (slot right))
    (entered : (ccdlToEntry (terminated builtins 0) memory
      file.start).value = .enter entryPoint linked hdr)
    (found : ccosGetBuiltinProc (terminated builtins 0) name =
      .found target)
    {symbol : Symbol} (imported : symbol ∈ imports memory file.start)
    (named : symbol.name = name) :
    loadWord linked (symbol.address + 4) = target := by
  rw [ccdlToEntry_value _ small readable apart] at entered
  obtain ⟨shdrCode, _, ended⟩ := loadFile_enter entered
  obtain ⟨stored, resolved, holds⟩ :=
    linkSymbols_slot _ ended pairwise imported
  rw [named, found] at resolved
  cases resolved
  exact loadWord_thunk holds

section Outcomes

variable {builtins : List (CString × Address)} {memory : Memory}
variable {file : Extent} {calls : List ApplicationCall} {name : CString}

/-- A name that the file exports. -/
theorem LookupOutcome.of_exported {symbol : Symbol}
    (search : (exports memory file.start).find?
      (fun symbol => symbol.name = name) = some symbol) :
    LookupOutcome builtins memory file calls name
      (.found symbol.address) := by
  have present : name ∈ (exports memory file.start).map Symbol.name := by
    by_contra absent
    rw [find?_name_eq_none.mpr absent] at search
    contradiction
  exact {
    exported := by
      rintro found equal
      rw [search] at equal
      cases equal
      rfl
    linked := fun absent => absurd present absent
    panics := iff_of_false (by simp) fun absent => absent.1 present
    ends := by simp
    null := by
      constructor
      · intro result
        exact .inl ⟨symbol, search, Lookup.found.inj result⟩
      · rintro (⟨found, equal, zero⟩ | ⟨absent, _⟩)
        · rw [search] at equal
          cases equal
          rw [zero]
        · exact absurd present absent }

/-- A name that is a builtin only. -/
theorem LookupOutcome.of_builtin {target : Address}
    (absent : name ∉ (exports memory file.start).map Symbol.name)
    (builtin : name ∈ builtins.map Prod.fst)
    (found : ccosGetBuiltinProc (terminated builtins 0) name =
      .found target)
    (slots : LoaderReadable memory file →
      WritesApart memory file.start file →
        ((imports memory file.start).Pairwise fun left right =>
          (slot left).Disjoint (slot right)) →
        ∀ call ∈ calls, ∀ symbol ∈ imports memory file.start,
          symbol.name = name →
            loadWord call.memory (symbol.address + 4) = target) :
    LookupOutcome builtins memory file calls name (.found target) where
  exported := by simp [find?_name_eq_none.mpr absent]
  linked := fun _ _ => ⟨target, find?_of_ccosGetBuiltinProc found, rfl,
    linkerStores_of_found found, slots⟩
  panics := iff_of_false (by simp) fun neither => neither.2 builtin
  ends := by simp
  null := by
    have row := find?_of_ccosGetBuiltinProc found
    constructor
    · intro result
      cases result
      exact .inr ⟨absent, row⟩
    · rintro (⟨symbol, exported, _⟩ | ⟨_, zero⟩)
      · rw [find?_name_eq_none.mpr absent] at exported
        contradiction
      · cases row.symm.trans zero
        rfl

/-- A name that is neither exported nor a builtin. -/
theorem LookupOutcome.of_neither
    (absent : name ∉ (exports memory file.start).map Symbol.name)
    (missing : name ∉ builtins.map Prod.fst) :
    LookupOutcome builtins memory file calls name .panic where
  exported := by simp [find?_name_eq_none.mpr absent]
  linked := fun _ present => absurd present missing
  panics := iff_of_true rfl ⟨absent, missing⟩
  ends := by simp
  null := by
    refine iff_of_false (by simp) ?_
    rintro (⟨symbol, exported, _⟩ | ⟨_, zero⟩)
    · rw [find?_name_eq_none.mpr absent] at exported
      contradiction
    · exact missing (List.mem_map.mpr
        ⟨_, List.mem_of_find?_eq_some zero, rfl⟩)

end Outcomes

/-- Lookups in a file that was loaded and has not been overwritten. -/
theorem lookup_outcome {builtins : List (CString × Address)}
    {application : ApplicationCall → Option (Memory × DL)}
    {memory after now : Memory} {dlOut dl : DL} {file : Extent}
    {fileSize : Word} (small : file.size < 2 ^ 32)
    (sections : ∀ i < sectionCount memory file.start,
      (⟨sectionHeaderAddress file.start i, sizeofSectionHeader⟩ :
        Extent).Inside file)
    (inside : ∀ shdr ∈ firstSection memory file.start
        (sectionCount memory file.start) sectionExport,
      TableReadable memory file (file.start + shdr.offset))
    (loaded : (ccdlFromMemory (terminated builtins 0) application memory
      dlOut file.start fileSize).value = .returned 0 after dl)
    (kept : AgreeOn file memory now) (name : CString) :
    LookupOutcome builtins memory file
      (ccdlFromMemory (terminated builtins 0) application memory dlOut
        file.start fileSize).trace
      name (dlGetProc (terminated builtins 0) now dl name).value := by
  obtain ⟨entryPoint, linked, left, entered, calls, _, described⟩ :=
    ccdlFromMemory_returned loaded
  obtain ⟨readable, sameExports⟩ :=
    exports_described small sections inside kept described
  rw [calls, dlGetProc_value _ small readable, sameExports]
  cases search : (exports memory file.start).find?
      (fun symbol => symbol.name = name) with
  | some symbol => exact .of_exported search
  | none =>
      have absent := find?_name_eq_none.mp search
      dsimp only
      by_cases builtin : name ∈ builtins.map Prod.fst
      · obtain ⟨target, found⟩ := ccosGetBuiltinProc_of_mem 0 builtin
        rw [found]
        refine .of_builtin absent builtin found ?_
        intro loaderReadable apart pairwise call made symbol imported named
        rw [List.mem_singleton] at made
        subst made
        exact slot_holds_target small loaderReadable apart pairwise entered
          found imported named
      · rw [ccosGetBuiltinProc_of_notMem 0 builtin]
        exact .of_neither absent builtin

/-- An application that returns at once with the memory that the file was
loaded from. -/
def returning (memory : Memory) (call : ApplicationCall) :
    Option (Memory × DL) :=
  some (memory, call.dlOut)

/-- `*dl_out` before a load. -/
def unfilledDl : DL where
  fileBytes := 0
  fileSize := 0
  hdr := ⟨[], 0, 0, 0, []⟩

/-- Loading succeeds when the file is not refused and no import is missing. -/
theorem ccdlFromMemory_returning {builtins : List (CString × Address)}
    {memory : Memory} {file : Extent} (fileSize : Word)
    (small : file.size < 2 ^ 32) (readable : LoaderReadable memory file)
    (apart : WritesApart memory file.start file)
    (accepted : ¬ Refused memory file.start)
    (complete : ¬ MissingImport builtins memory file.start) :
    (ccdlFromMemory (terminated builtins 0) (returning memory) memory
        unfilledDl file.start fileSize).value =
      .returned 0 memory
        ⟨file.start, fileSize, CcdlHeader.ofMemory memory file.start⟩ := by
  obtain ⟨shdrCode, linked, _, entered⟩ :=
    (ccdlToEntry_accepted small readable apart accepted).2 complete
  rw [ccdlFromMemory_enter _ _ _ entered]
  rfl

theorem sampleFile_loaded :
    (ccdlFromMemory (terminated [(mallocName, 0x20000400)] 0)
        (returning sampleFile) sampleFile unfilledDl 0x30000000 763).value =
      .returned 0 sampleFile ⟨0x30000000, 763,
        CcdlHeader.ofMemory sampleFile 0x30000000⟩ := by
  refine @ccdlFromMemory_returning _ _ sampleExtent 763 (by decide)
    sampleFile_readable (sampleFile_writesApart
      (Extent.disjoint_of_end_le (by decide) (by decide))) ?_ ?_
  · change ¬ Refused sampleFile 0x30000000
    rw [refused_iff, sampleFile_code]
    decide +kernel
  · change ¬ MissingImport _ sampleFile 0x30000000
    rw [MissingImport, sampleFile_imports]
    decide

theorem lookup_outcome_sample :
    LookupOutcome [(mallocName, 0x20000400)] sampleFile sampleExtent
      (ccdlFromMemory (terminated [(mallocName, 0x20000400)] 0)
        (returning sampleFile) sampleFile unfilledDl 0x30000000 763).trace
      appMainName
      (dlGetProc (terminated [(mallocName, 0x20000400)] 0) sampleFile
        ⟨0x30000000, 763, CcdlHeader.ofMemory sampleFile 0x30000000⟩
        appMainName).value :=
  @lookup_outcome _ _ _ _ _ _ _ sampleExtent _ (by decide)
    sampleFile_fileReadable.sections sampleFile_fileReadable.exports
    sampleFile_loaded (AgreeOn.refl _ _) appMainName

/-- A file without code bytes that exports `f` with the address zero. -/
def nullExportFile : Memory :=
  storePieces 0x30000000 [
    (0, ccdlSign ++ [0x00010000, 0x00020001, 2].flatMap wordBytes),
    (32, [0, 1, 96, 0, 0, 0x10100000, 0x10100000, 0].flatMap wordBytes),
    (64, [0, 9, 96, 34].flatMap wordBytes),
    (96, wordBytes 1),
    (128, asciiz "f")]

/-- Its extent. -/
def nullExportExtent : Extent := ⟨0x30000000, 130⟩

theorem nullExportFile_sections :
    sectionHeaders nullExportFile 0x30000000 2 =
      [⟨[0, 0, 0, 0], 1, 96, 0, 0, 0x10100000, 0x10100000, 0⟩,
        sampleSection 9 96 34] := by
  decide +kernel

theorem nullExportFile_sectionCount :
    sectionCount nullExportFile 0x30000000 = 2 := by
  decide +kernel

theorem nullExportFile_firstSection (wanted : Word) :
    firstSection nullExportFile 0x30000000
        (sectionCount nullExportFile 0x30000000) wanted =
      [⟨[0, 0, 0, 0], 1, 96, 0, 0, 0x10100000, 0x10100000, 0⟩,
        sampleSection 9 96 34].find? fun shdr => shdr.type = wanted := by
  rw [nullExportFile_sectionCount, firstSection, nullExportFile_sections]

theorem nullExportFile_fileReadable :
    FileReadable nullExportFile nullExportExtent where
  header := Extent.inside_of_start (by decide)
  sections := by
    change ∀ i < sectionCount nullExportFile 0x30000000, _
    rw [nullExportFile_sectionCount]
    intro i bound
    exact sectionHeader_inside bound (by decide)
  code := by
    change ∀ shdr ∈ codeSection nullExportFile 0x30000000, _
    rw [codeSection, nullExportFile_firstSection]
    intro shdr present
    cases Option.mem_some.mp present
    exact Extent.inside_of_start (by decide)
  imports := by
    change ∀ shdr ∈ firstSection nullExportFile 0x30000000
      (sectionCount nullExportFile 0x30000000) sectionImport, _
    rw [nullExportFile_firstSection]
    intro shdr present
    contradiction
  exports := by
    change ∀ shdr ∈ firstSection nullExportFile 0x30000000
      (sectionCount nullExportFile 0x30000000) sectionExport, _
    rw [nullExportFile_firstSection]
    intro shdr present
    cases Option.mem_some.mp present
    constructor
    · exact Extent.inside_of_start (by decide)
    · intro entry listed
      change entry ∈ entryAddresses (entriesStart 0x30000060)
        (numEntries nullExportFile 0x30000060).toNat at listed
      rw [show entryAddresses (entriesStart 0x30000060)
          (numEntries nullExportFile 0x30000060).toNat =
            [0x30000070] by decide +kernel, List.mem_singleton] at listed
      subst listed
      refine ⟨Extent.inside_of_start (by decide), cstring [0x66], ?_, ?_⟩
      · rw [CString.StoredAt, ← CString.equals_iff_storedIn]
        decide +kernel
      · exact Extent.inside_of_start (by decide +kernel)
  resources := by
    change ∀ shdr ∈ resourceSection nullExportFile 0x30000000, _
    rw [resourceSection, nullExportFile_firstSection]
    intro shdr present
    contradiction

theorem nullExportFile_writesApart :
    WritesApart nullExportFile 0x30000000 nullExportExtent where
  code := by
    rw [codeSection, nullExportFile_firstSection]
    intro shdr present
    cases Option.mem_some.mp present
    exact Extent.disjoint_of_end_le (by decide) (by decide)
  slots := by
    rw [imports, sectionSymbols, nullExportFile_firstSection]
    intro symbol present
    contradiction

/-- A lookup can return the null pointer: the address in the file is zero. -/
theorem null_export_returned :
    ¬ ∀ (builtins : List (CString × Address))
      (application : ApplicationCall → Option (Memory × DL))
      (memory after now : Memory) (dlOut dl : DL) (file : Extent)
      (fileSize : Word) (name : CString), file.size < 2 ^ 32 →
        FileReadable memory file → WritesApart memory file.start file →
          (ccdlFromMemory (terminated builtins 0) application memory dlOut
              file.start fileSize).value = .returned 0 after dl →
            AgreeOn file memory now →
              (dlGetProc (terminated builtins 0) now dl name).value ≠
                .found 0 := by
  intro claimed
  have loaded : (ccdlFromMemory (terminated [] 0)
      (returning nullExportFile) nullExportFile unfilledDl 0x30000000
      130).value = .returned 0 nullExportFile ⟨0x30000000, 130,
        CcdlHeader.ofMemory nullExportFile 0x30000000⟩ := by
    refine @ccdlFromMemory_returning _ _ nullExportExtent 130 (by decide)
      nullExportFile_fileReadable.toLoaderReadable
      nullExportFile_writesApart ?_ ?_
    · change ¬ Refused nullExportFile 0x30000000
      rw [refused_iff, codeSection, nullExportFile_firstSection]
      decide +kernel
    · change ¬ MissingImport _ nullExportFile 0x30000000
      rw [MissingImport, imports, sectionSymbols,
        nullExportFile_firstSection]
      rintro ⟨symbol, present, _⟩
      contradiction
  refine claimed _ _ _ _ nullExportFile _ _ nullExportExtent _
    (cstring [0x66]) (by decide) nullExportFile_fileReadable
    nullExportFile_writesApart loaded (AgreeOn.refl _ _) ?_
  decide +kernel

end Dl
end GA330
