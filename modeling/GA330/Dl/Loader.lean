import GA330.Dl.Format
import GA330.Minisys.Builtins

/-!
# Loading and linking an image

`ccdl_from_memory` of `dl.c`, up to and through its call of the entry point.
The loader checks the header, copies the first code section to its load
address and overwrites the import slots with jump thunks.  Its own local
variables are values here, so memory means everything else.

Below the translation stands a description of the same work on the parsed
file: the loader agrees with it whenever what it reads lies in the file and
what it writes does not.
-/

namespace GA330
namespace Dl

open ByteMemory Minisys

/-- `DL_t` -/
structure DL where
  fileBytes : Address
  fileSize : Word
  hdr : CcdlHeader
  deriving DecidableEq

/-- How the import loop ends.  `panic` is `ccos_panic` inside
`ccos_get_builtin_proc`, which does not return. -/
inductive ImportOutcome
  | linked (memory : Memory)
  | panic (memory : Memory)
  | overrun (memory : Memory)

/-- The loader at the call of the entry point, or at an earlier exit. -/
inductive EntryOutcome
  | generalError (memory : Memory)
  | panic (memory : Memory)
  | overrun (memory : Memory)
  | enter (entryPoint : Address) (memory : Memory) (hdr : CcdlHeader)

/-- The characters `CCDL`. -/
def ccdlSign : List Byte := [0x43, 0x43, 0x44, 0x4C]

/-- The three header checks. -/
def CcdlHeader.Valid (hdr : CcdlHeader) : Prop :=
  hdr.sign = ccdlSign ∧ hdr.version = 0x00010000 ∧ hdr.unk8 = 0x00020001

instance (hdr : CcdlHeader) : Decidable hdr.Valid :=
  inferInstanceAs (Decidable (_ ∧ _ ∧ _))

/-- `ldr pc, [pc, #-4]` -/
def ldrPcPcMinus4 : Word := 0xe51ff004

/-- `thunk`: the jump instruction and the address it loads. -/
def thunkBytes (target : Address) : List Byte :=
  wordBytes ldrPcPcMinus4 ++ wordBytes target

@[simp] theorem length_thunkBytes (target : Address) :
    (thunkBytes target).length = 8 := rfl

/-! ## The code -/

/-- A name read by `ccos_get_builtin_proc`: the search compares it to its end,
or prints it when nothing matches. -/
def readName (memory : Memory) (p : Address) : Accesses CString :=
  let name := CString.ofMemory memory p
  ⟨name, [.read ⟨p, name.length + 1⟩]⟩

/-- `memcpy` of a thunk to an import slot. -/
def writeThunk (memory : Memory) (slot target : Address) :
    Accesses Memory :=
  ⟨write memory slot (thunkBytes target), [.write ⟨slot, 8⟩]⟩

/-- The loop over the import entries. -/
def resolveImports (table : List (OsFunction Address)) :
    (remaining : Nat) → Memory → (p stringTable : Address) →
      Accesses ImportOutcome
  | 0, memory, _, _ => pure (.linked memory)
  | remaining + 1, memory, p, stringTable => do
      let ent ← copyImportExportEntry memory p
      let name ← readName memory (stringTable + ent.nameOffset)
      match ccosGetBuiltinProc table name with
      | .found target =>
          let patched ← writeThunk memory ent.address target
          resolveImports table remaining patched
            (p + BitVec.ofNat 32 sizeofImportExportEntry) stringTable
      | .panic => pure (.panic memory)
      | .overrun => pure (.overrun memory)

/-- The body of the loop over the sections once it is at an import section;
it ends with `break`. -/
def resolveImportSection (table : List (OsFunction Address))
    (memory : Memory) (fileBytes : Address) (shdr : SectionHeader) :
    Accesses ImportOutcome := do
  let p := fileBytes + shdr.offset
  let iehdr ← copyImportExportHeader memory p
  resolveImports table iehdr.numEntries.toNat memory (entriesStart p)
    (stringTable p iehdr.numEntries)

/-- `memcpy` of the code section to its load address. -/
def copyCode (memory : Memory) (fileBytes : Address)
    (shdrCode : SectionHeader) : Accesses Memory :=
  let source := fileBytes + shdrCode.offset
  ⟨write memory shdrCode.loadAddress
      (read memory source shdrCode.size.toNat),
    [.read ⟨source, shdrCode.size.toNat⟩,
      .write ⟨shdrCode.loadAddress, shdrCode.size.toNat⟩]⟩

/-- The second loop over the sections, which resolves the imports of the
first import section. -/
def resolveSections (table : List (OsFunction Address)) (memory : Memory)
    (fileBytes : Address) (numSections : Word) : Accesses ImportOutcome := do
  let section? ← findSection memory fileBytes sectionImport
    numSections.toNat 0
  match section? with
  | none => return .linked memory
  | some shdr => resolveImportSection table memory fileBytes shdr

/-- After the imports, the entry point of the code section is called. -/
def ImportOutcome.enter (entryPoint : Address) (hdr : CcdlHeader) :
    ImportOutcome → EntryOutcome
  | .linked memory => .enter entryPoint memory hdr
  | .panic memory => .panic memory
  | .overrun memory => .overrun memory

/-- `ccdl_from_memory` up to the call of the entry point. -/
def ccdlToEntry (table : List (OsFunction Address)) (memory : Memory)
    (fileBytes : Address) : Accesses EntryOutcome := do
  let hdr ← copyHeader memory fileBytes
  if hdr.sign ≠ ccdlSign then
    return .generalError memory
  if hdr.version ≠ 0x00010000 ∨ hdr.unk8 ≠ 0x00020001 then
    return .generalError memory
  let code ← findSection memory fileBytes sectionCode
    hdr.numSections.toNat 0
  match code with
  | none => return .generalError memory
  | some shdrCode =>
      let copied ← copyCode memory fileBytes shdrCode
      let outcome ← resolveSections table copied fileBytes hdr.numSections
      return outcome.enter shdrCode.entryPoint hdr

/-- How `ccdl_from_memory` ends, with memory and `*dl_out` at that moment.
`notReturned` stands for an entry point that never comes back. -/
inductive LoadResult
  | returned (code : Int) (memory : Memory) (dlOut : DL)
  | panic (memory : Memory) (dlOut : DL)
  | overrun (memory : Memory) (dlOut : DL)
  | notReturned

/-- `GENERAL_ERROR` -/
def generalError : Int := -1

/-- A call of application code: the address, memory and `*dl_out` at that
moment. -/
structure ApplicationCall where
  address : Address
  memory : Memory
  dlOut : DL

/-- `ccdl_from_memory`.  The application's code is a parameter: what a call
does to memory and to `*dl_out`, if it returns.  The call is recorded. -/
def ccdlFromMemory (table : List (OsFunction Address))
    (application : ApplicationCall → Option (Memory × DL))
    (memory : Memory) (dlOut : DL) (fileBytes : Address)
    (fileSize : Word) : Traced ApplicationCall LoadResult :=
  match (ccdlToEntry table memory fileBytes).value with
  | .generalError after => pure (.returned generalError after dlOut)
  | .panic after => pure (.panic after dlOut)
  | .overrun after => pure (.overrun after dlOut)
  | .enter entryPoint linked hdr => do
      let call : ApplicationCall := ⟨entryPoint, linked, dlOut⟩
      let result ← ⟨application call, [call]⟩
      match result with
      | none => return .notReturned
      | some (after, _) => return .returned 0 after ⟨fileBytes, fileSize, hdr⟩

/-! ## The same work on the parsed file -/

/-- Resolve symbols in order, writing a thunk over each slot. -/
def linkSymbols (table : List (OsFunction Address)) :
    List Symbol → Memory → ImportOutcome
  | [], memory => .linked memory
  | symbol :: rest, memory =>
      match ccosGetBuiltinProc table symbol.name with
      | .found target =>
          linkSymbols table rest
            (write memory symbol.address (thunkBytes target))
      | .panic => .panic memory
      | .overrun => .overrun memory

/-- Number of sections that the header announces. -/
def sectionCount (memory : Memory) (fileBytes : Address) : Nat :=
  (CcdlHeader.ofMemory memory fileBytes).numSections.toNat

/-- The first code section. -/
def codeSection (memory : Memory) (fileBytes : Address) :
    Option SectionHeader :=
  firstSection memory fileBytes (sectionCount memory fileBytes) sectionCode

/-- The symbols of the first import section. -/
def imports (memory : Memory) (fileBytes : Address) : List Symbol :=
  sectionSymbols memory fileBytes (sectionCount memory fileBytes)
    sectionImport

/-- The bytes of a section. -/
def payload (fileBytes : Address) (shdr : SectionHeader) : Extent :=
  ⟨fileBytes + shdr.offset, shdr.size.toNat⟩

/-- Where a code section is copied to. -/
def destination (shdr : SectionHeader) : Extent :=
  ⟨shdr.loadAddress, shdr.size.toNat⟩

/-- The eight bytes that an import's thunk overwrites. -/
def slot (symbol : Symbol) : Extent :=
  ⟨symbol.address, 8⟩

/-- Memory after the code section has been copied. -/
def withCode (memory : Memory) (fileBytes : Address)
    (shdrCode : SectionHeader) : Memory :=
  write memory shdrCode.loadAddress
    (read memory (fileBytes + shdrCode.offset) shdrCode.size.toNat)

/-- What loading a file comes to. -/
def loadFile (table : List (OsFunction Address)) (memory : Memory)
    (fileBytes : Address) : EntryOutcome :=
  let hdr := CcdlHeader.ofMemory memory fileBytes
  if hdr.Valid then
    match codeSection memory fileBytes with
    | none => .generalError memory
    | some shdrCode =>
        (linkSymbols table (imports memory fileBytes)
          (withCode memory fileBytes shdrCode)).enter shdrCode.entryPoint hdr
  else .generalError memory

/-- Everything the loader reads lies in the file. -/
structure LoaderReadable (memory : Memory) (file : Extent) : Prop where
  header : (⟨file.start, sizeofHeader⟩ : Extent).Inside file
  sections : ∀ i < sectionCount memory file.start,
    (⟨sectionHeaderAddress file.start i, sizeofSectionHeader⟩ :
      Extent).Inside file
  code : ∀ shdr ∈ codeSection memory file.start,
    (payload file.start shdr).Inside file
  imports : ∀ shdr ∈ firstSection memory file.start
      (sectionCount memory file.start) sectionImport,
    TableReadable memory file (file.start + shdr.offset)

/-- Everything the loader writes is apart from an extent. -/
structure WritesApart (memory : Memory) (fileBytes : Address)
    (extent : Extent) : Prop where
  code : ∀ shdr ∈ codeSection memory fileBytes,
    (destination shdr).Disjoint extent
  slots : ∀ symbol ∈ imports memory fileBytes,
    (slot symbol).Disjoint extent

/-- Copying the code leaves alone what the loader's writes are apart from. -/
theorem WritesApart.agreeOn_withCode {memory : Memory} {fileBytes : Address}
    {extent : Extent} (apart : WritesApart memory fileBytes extent)
    {shdrCode : SectionHeader}
    (code : codeSection memory fileBytes = some shdrCode) :
    AgreeOn extent memory (withCode memory fileBytes shdrCode) := by
  refine (agreeOn_write ?_).symm
  rw [length_read]
  exact apart.code shdrCode code

/-- Loading that comes to the entry point has linked all symbols. -/
theorem loadFile_enter {table : List (OsFunction Address)}
    {memory linked : Memory} {fileBytes entryPoint : Address}
    {hdr : CcdlHeader}
    (entered : loadFile table memory fileBytes =
      .enter entryPoint linked hdr) :
    ∃ shdrCode, codeSection memory fileBytes = some shdrCode ∧
      linkSymbols table (imports memory fileBytes)
        (withCode memory fileBytes shdrCode) = .linked linked := by
  rw [loadFile] at entered
  split at entered
  · cases code : codeSection memory fileBytes with
    | none => simp [code] at entered
    | some shdrCode =>
        simp only [code] at entered
        cases ended : linkSymbols table (imports memory fileBytes)
            (withCode memory fileBytes shdrCode) with
        | linked after =>
            rw [ended, ImportOutcome.enter, EntryOutcome.enter.injEq]
              at entered
            exact ⟨shdrCode, rfl, by rw [ended, entered.2.1]⟩
        | panic after => simp [ended, ImportOutcome.enter] at entered
        | overrun after => simp [ended, ImportOutcome.enter] at entered
  · contradiction

/-- On a readable table the import loop does what resolving its symbols
does. -/
theorem resolveImports_value {original memory : Memory} {file : Extent}
    {stringTable : Address} (table : List (OsFunction Address))
    (small : file.size < 2 ^ 32)
    (agree : AgreeOn file original memory) (remaining : Nat) (p : Address)
    (readable : ∀ entry ∈ entryAddresses p remaining,
      EntryReadable original file stringTable entry)
    (apart : ∀ entry ∈ entryAddresses p remaining,
      (slot (Symbol.ofEntry original stringTable entry)).Disjoint file) :
    (resolveImports table remaining memory p stringTable).value =
      linkSymbols table
        ((entryAddresses p remaining).map
          (Symbol.ofEntry original stringTable)) memory := by
  induction remaining generalizing p memory with
  | zero => rfl
  | succ remaining inductionHypothesis =>
      have present : p ∈ entryAddresses p (remaining + 1) := by
        simp [recordAddresses]
      have later : ∀ entry ∈ entryAddresses
          (p + BitVec.ofNat 32 sizeofImportExportEntry) remaining,
          entry ∈ entryAddresses p (remaining + 1) :=
        fun entry => List.mem_cons_of_mem p
      have same : Symbol.ofEntry original stringTable p =
          Symbol.ofEntry memory stringTable p :=
        (readable p present).ofEntry_congr agree small
      have found : CString.ofMemory memory (stringTable +
          (ImportExportEntry.ofMemory memory p).nameOffset) =
            (Symbol.ofEntry original stringTable p).name :=
        (congrArg Symbol.name same).symm
      have slotAddress : (ImportExportEntry.ofMemory memory p).address =
          (Symbol.ofEntry original stringTable p).address :=
        (congrArg Symbol.address same).symm
      rw [resolveImports, entryAddresses_succ, List.map_cons, linkSymbols]
      simp only [Traced.value_bind, copyImportExportEntry, readName, found,
        slotAddress]
      cases resolved : ccosGetBuiltinProc table
          (Symbol.ofEntry original stringTable p).name with
      | found target =>
          simp only [Traced.value_bind, writeThunk]
          -- the thunk just written is apart from the file
          refine inductionHypothesis ?_ _
            (fun entry inRest => readable entry (later entry inRest))
            (fun entry inRest => apart entry (later entry inRest))
          exact agree.trans (agreeOn_write (apart p present)).symm
      | panic => rfl
      | overrun => rfl

/-- The second loop resolves the symbols of the original file, although it
reads the file again after the code has been copied. -/
theorem resolveSections_value {original memory : Memory} {file : Extent}
    (table : List (OsFunction Address)) (small : file.size < 2 ^ 32)
    (agree : AgreeOn file original memory)
    (readable : LoaderReadable original file)
    (apart : ∀ symbol ∈ imports original file.start,
      (slot symbol).Disjoint file) :
    (resolveSections table memory file.start
        (CcdlHeader.ofMemory original file.start).numSections).value =
      linkSymbols table (imports original file.start) memory := by
  have sections : firstSection original file.start
      (sectionCount original file.start) sectionImport =
        firstSection memory file.start
          (CcdlHeader.ofMemory original file.start).numSections.toNat
          sectionImport :=
    firstSection_congr agree readable.sections sectionImport
  simp only [resolveSections, Traced.value_bind, findSection_value,
    ← sections]
  cases imported : firstSection original file.start
      (sectionCount original file.start) sectionImport with
  | none =>
      simp only [imports, sectionSymbols, imported, linkSymbols]
      rfl
  | some shdr =>
      have tableReadable := readable.imports shdr imported
      have listed : imports original file.start =
          symbols original (file.start + shdr.offset) := by
        simp only [imports, sectionSymbols, imported]
      have counts : (ImportExportHeader.ofMemory memory
          (file.start + shdr.offset)).numEntries =
            numEntries original (file.start + shdr.offset) :=
        (tableReadable.numEntries_congr agree).symm
      simp only [resolveImportSection, Traced.value_bind,
        copyImportExportHeader, counts]
      rw [listed, symbols]
      apply resolveImports_value table small agree _ _ tableReadable.entries
      intro entry present
      apply apart
      rw [listed]
      exact List.mem_map.mpr ⟨entry, present, rfl⟩

/-- The loader agrees with the description on the parsed file. -/
theorem ccdlToEntry_value {memory : Memory} {file : Extent}
    (table : List (OsFunction Address)) (small : file.size < 2 ^ 32)
    (readable : LoaderReadable memory file)
    (apart : WritesApart memory file.start file) :
    (ccdlToEntry table memory file.start).value =
      loadFile table memory file.start := by
  unfold ccdlToEntry loadFile
  simp only [Traced.value_bind, copyHeader]
  by_cases sign : (CcdlHeader.ofMemory memory file.start).sign = ccdlSign
  swap
  · simp [sign, CcdlHeader.Valid]
  by_cases version :
      (CcdlHeader.ofMemory memory file.start).version = 0x00010000 ∧
        (CcdlHeader.ofMemory memory file.start).unk8 = 0x00020001
  swap
  · have mismatch := not_and_or.mp version
    rw [if_neg (not_not.mpr sign), if_pos mismatch,
      if_neg fun valid => version valid.2]
    rfl
  have valid : (CcdlHeader.ofMemory memory file.start).Valid :=
    ⟨sign, version⟩
  rw [if_neg (by simp [sign]), if_neg (by simp [version]), if_pos valid]
  have codeSearch : firstSection memory file.start
      (CcdlHeader.ofMemory memory file.start).numSections.toNat
      sectionCode = codeSection memory file.start := rfl
  simp only [Traced.value_bind, findSection_value, codeSearch]
  cases code : codeSection memory file.start with
  | none => rfl
  | some shdrCode =>
      have agree := apart.agreeOn_withCode code
      have resolved := resolveSections_value table small agree readable
        apart.slots
      simp only [Traced.value_bind, Traced.value_pure, copyCode]
      exact congrArg (ImportOutcome.enter _ _) resolved

/-- A file whose entry point is called has a valid header and a code section,
and the entry point is the one of its first code section. -/
theorem ccdlToEntry_enter {table : List (OsFunction Address)}
    {memory linked : Memory} {fileBytes entryPoint : Address}
    {hdr : CcdlHeader}
    (entered : (ccdlToEntry table memory fileBytes).value =
      .enter entryPoint linked hdr) :
    hdr = CcdlHeader.ofMemory memory fileBytes ∧ hdr.Valid ∧
      ∃ shdrCode, codeSection memory fileBytes = some shdrCode ∧
        entryPoint = shdrCode.entryPoint := by
  unfold ccdlToEntry at entered
  simp only [Traced.value_bind, copyHeader] at entered
  split at entered
  · contradiction
  rename_i sign
  split at entered
  · contradiction
  rename_i version
  have codeSearch : firstSection memory fileBytes
      (CcdlHeader.ofMemory memory fileBytes).numSections.toNat
      sectionCode = codeSection memory fileBytes := rfl
  simp only [Traced.value_bind, findSection_value, codeSearch] at entered
  cases code : codeSection memory fileBytes with
  | none =>
      simp only [code] at entered
      contradiction
  | some shdrCode =>
      simp only [code, Traced.value_bind, Traced.value_pure] at entered
      generalize (resolveSections _ _ _ _).value = outcome at entered
      cases outcome with
      | linked after =>
          cases entered
          exact ⟨rfl, ⟨not_not.mp sign, by simpa using version⟩,
            shdrCode, rfl, rfl⟩
      | panic after => contradiction
      | overrun after => contradiction

/-- A load succeeds by way of one call of the entry point, and `*dl_out` is
filled after that call. -/
theorem ccdlFromMemory_returned {table : List (OsFunction Address)}
    {application : ApplicationCall → Option (Memory × DL)}
    {memory after : Memory} {dlOut dl : DL} {fileBytes : Address}
    {fileSize : Word}
    (returned : (ccdlFromMemory table application memory dlOut fileBytes
      fileSize).value = .returned 0 after dl) :
    ∃ entryPoint linked left,
      (ccdlToEntry table memory fileBytes).value =
          .enter entryPoint linked (CcdlHeader.ofMemory memory fileBytes) ∧
        (ccdlFromMemory table application memory dlOut fileBytes
          fileSize).trace = [⟨entryPoint, linked, dlOut⟩] ∧
        application ⟨entryPoint, linked, dlOut⟩ = some (after, left) ∧
        dl = ⟨fileBytes, fileSize, CcdlHeader.ofMemory memory fileBytes⟩ := by
  unfold ccdlFromMemory at returned ⊢
  cases outcome : (ccdlToEntry table memory fileBytes).value with
  | generalError _ => simp [outcome, generalError] at returned
  | panic _ => simp [outcome] at returned
  | overrun _ => simp [outcome] at returned
  | enter entryPoint linked hdr =>
      obtain rfl := (ccdlToEntry_enter outcome).1
      simp only [outcome, Traced.value_bind] at returned
      cases called : application ⟨entryPoint, linked, dlOut⟩ with
      | none => simp [called] at returned
      | some result =>
          simp only [called, Traced.value_pure, LoadResult.returned.injEq,
            true_and] at returned
          refine ⟨entryPoint, linked, result.2, rfl, ?_, ?_,
            returned.2.symm⟩
          · simp [called]
          · rw [← returned.1]
            exact called

end Dl
end GA330
