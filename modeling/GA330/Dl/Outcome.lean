import GA330.Dl.Link

/-!
# Outcomes of the loader

`ccdl_from_memory` has three error exits, one exit inside
`ccos_get_builtin_proc` that does not return, and one that goes through the
application.  The checks of the file alone decide which of them is taken, and
an error exit leaves memory and `*dl_out` as they were.
-/

namespace GA330
namespace Dl

open ByteMemory Minisys

/-- The loader refuses a file: its sign or its version is not the expected one,
or none of the announced section headers is that of a code section. -/
def Refused (memory : Memory) (fileBytes : Address) : Prop :=
  let hdr := CcdlHeader.ofMemory memory fileBytes
  hdr.sign ≠ ccdlSign ∨ (hdr.version ≠ 0x00010000 ∨ hdr.unk8 ≠ 0x00020001) ∨
    ∀ shdr ∈ sectionHeaders memory fileBytes hdr.numSections.toNat,
      shdr.type ≠ sectionCode

/-- Some import of the first import section is not a builtin. -/
def MissingImport (builtins : List (CString × Address)) (memory : Memory)
    (fileBytes : Address) : Prop :=
  ∃ symbol ∈ imports memory fileBytes,
    symbol.name ∉ builtins.map Prod.fst

/-- The rest of `ccdl_from_memory` once the entry point has been called. -/
def afterEntryPoint (fileBytes : Address) (fileSize : Word)
    (hdr : CcdlHeader) : Option (Memory × DL) → LoadResult
  | none => .notReturned
  | some (after, _) => .returned 0 after ⟨fileBytes, fileSize, hdr⟩

/-! ## Refused files -/

/-- A file is refused exactly when its header is invalid or it has no code
section. -/
theorem refused_iff (memory : Memory) (fileBytes : Address) :
    Refused memory fileBytes ↔
      ¬ (CcdlHeader.ofMemory memory fileBytes).Valid ∨
        codeSection memory fileBytes = none := by
  have noCode : codeSection memory fileBytes = none ↔
      ∀ shdr ∈ sectionHeaders memory fileBytes
        (CcdlHeader.ofMemory memory fileBytes).numSections.toNat,
        shdr.type ≠ sectionCode := by
    rw [codeSection, firstSection, List.find?_eq_none]
    simp [sectionCount]
  rw [noCode, Refused, CcdlHeader.Valid, not_and_or, not_and_or]
  exact ⟨fun refused => or_assoc.mpr refused,
    fun refused => or_assoc.mp refused⟩

/-- A refused file is rejected before anything is written. -/
theorem ccdlToEntry_refused (table : List (OsFunction Address))
    {memory : Memory} {fileBytes : Address}
    (refused : Refused memory fileBytes) :
    (ccdlToEntry table memory fileBytes).value = .generalError memory := by
  rw [refused_iff] at refused
  unfold ccdlToEntry
  simp only [Traced.value_bind, copyHeader]
  by_cases sign : (CcdlHeader.ofMemory memory fileBytes).sign = ccdlSign
  swap
  · rw [if_pos sign]
    rfl
  by_cases version :
      (CcdlHeader.ofMemory memory fileBytes).version = 0x00010000 ∧
        (CcdlHeader.ofMemory memory fileBytes).unk8 = 0x00020001
  swap
  · rw [if_neg (not_not.mpr sign), if_pos (not_and_or.mp version)]
    rfl
  have code : codeSection memory fileBytes = none :=
    refused.resolve_left (not_not.mpr ⟨sign, version⟩)
  have codeSearch : firstSection memory fileBytes
      (CcdlHeader.ofMemory memory fileBytes).numSections.toNat
      sectionCode = codeSection memory fileBytes := rfl
  rw [if_neg (by simp [sign]), if_neg (by simp [version])]
  simp only [Traced.value_bind, findSection_value, codeSearch, code]
  rfl

/-! ## Imports that are missing -/

/-- A name that no row of a terminated table has makes the search panic. -/
theorem ccosGetBuiltinProc_of_notMem {rows : List (CString × Address)}
    {name : CString} (null : Address)
    (absent : name ∉ rows.map Prod.fst) :
    ccosGetBuiltinProc (terminated rows null) name = .panic := by
  have search : rows.find? (fun row => row.1 = name) = none := by
    rw [List.find?_eq_none]
    intro row present equal
    exact absent (List.mem_map.mpr ⟨row, present, of_decide_eq_true equal⟩)
  rw [ccosGetBuiltinProc_terminated, search]

/-- The import loop panics when some symbol is not a builtin. -/
theorem linkSymbols_panic {builtins : List (CString × Address)}
    (null : Address) {symbols : List Symbol} (memory : Memory)
    (missing : ∃ symbol ∈ symbols,
      symbol.name ∉ builtins.map Prod.fst) :
    ∃ after, linkSymbols (terminated builtins null) symbols memory =
      .panic after := by
  induction symbols generalizing memory with
  | nil =>
      obtain ⟨symbol, present, _⟩ := missing
      contradiction
  | cons first rest inductionHypothesis =>
      rw [linkSymbols]
      by_cases builtin : first.name ∈ builtins.map Prod.fst
      · obtain ⟨target, found⟩ := ccosGetBuiltinProc_of_mem null builtin
        rw [found]
        apply inductionHypothesis
        obtain ⟨symbol, present, absent⟩ := missing
        rcases List.mem_cons.mp present with rfl | inRest
        · exact absurd builtin absent
        · exact ⟨symbol, inRest, absent⟩
      · rw [ccosGetBuiltinProc_of_notMem null builtin]
        exact ⟨memory, rfl⟩

section Accepted

variable {builtins : List (CString × Address)} {memory : Memory}
variable {file : Extent}

/-- A file that is not refused makes the loader panic when an import is
missing, and otherwise the entry point of its first code section is called. -/
theorem ccdlToEntry_accepted (small : file.size < 2 ^ 32)
    (readable : LoaderReadable memory file)
    (apart : WritesApart memory file.start file)
    (accepted : ¬ Refused memory file.start) :
    (MissingImport builtins memory file.start →
        ∃ after, (ccdlToEntry (terminated builtins 0) memory
          file.start).value = .panic after) ∧
      (¬ MissingImport builtins memory file.start →
        ∃ shdrCode linked,
          codeSection memory file.start = some shdrCode ∧
            (ccdlToEntry (terminated builtins 0) memory file.start).value =
              .enter shdrCode.entryPoint linked
                (CcdlHeader.ofMemory memory file.start)) := by
  rw [refused_iff, not_or, not_not] at accepted
  obtain ⟨valid, present⟩ := accepted
  obtain ⟨shdrCode, code⟩ := Option.ne_none_iff_exists'.mp present
  rw [ccdlToEntry_value _ small readable apart, loadFile]
  simp only [valid, code, if_true]
  constructor
  · intro missing
    obtain ⟨after, panicked⟩ := linkSymbols_panic 0
      (withCode memory file.start shdrCode) missing
    exact ⟨after, by rw [panicked, ImportOutcome.enter]⟩
  · intro complete
    obtain ⟨linked, ended⟩ := linkSymbols_linked (terminated builtins 0)
      (withCode memory file.start shdrCode) fun symbol imported =>
        ccosGetBuiltinProc_of_mem 0 (by
          by_contra absent
          exact complete ⟨symbol, imported, absent⟩)
    exact ⟨shdrCode, linked, rfl, by rw [ended, ImportOutcome.enter]⟩

end Accepted

/-! ## The outcomes -/

/-- The outcomes of the loader on a file, with the calls of application code
that it makes. -/
structure LoaderOutcomes (builtins : List (CString × Address))
    (application : ApplicationCall → Option (Memory × DL))
    (memory : Memory) (dlOut : DL) (fileBytes : Address) (fileSize : Word)
    (run : Traced ApplicationCall LoadResult) : Prop where
  /-- It returns an error exactly for a refused file. -/
  error : (∃ after dl, run.value = .returned generalError after dl) ↔
    Refused memory fileBytes
  /-- Then nothing has been changed and no application code has run. -/
  errorAtomic : Refused memory fileBytes →
    run = ⟨.returned generalError memory dlOut, []⟩
  /-- Otherwise it panics exactly when an import is missing. -/
  panic : ¬ Refused memory fileBytes →
    ((∃ after dl, run.value = .panic after dl) ↔
      MissingImport builtins memory fileBytes)
  /-- Then `*dl_out` is unchanged and no application code has run. -/
  panicEarly : ¬ Refused memory fileBytes →
    MissingImport builtins memory fileBytes →
      ∃ after, run = ⟨.panic after dlOut, []⟩
  /-- Otherwise it calls the entry point once, and fills `*dl_out` and returns
  0 if that call returns. -/
  entered : ¬ Refused memory fileBytes →
    ¬ MissingImport builtins memory fileBytes →
      ∃ shdrCode linked, codeSection memory fileBytes = some shdrCode ∧
        run.trace = [⟨shdrCode.entryPoint, linked, dlOut⟩] ∧
        run.value = afterEntryPoint fileBytes fileSize
          (CcdlHeader.ofMemory memory fileBytes)
          (application ⟨shdrCode.entryPoint, linked, dlOut⟩)

section Run

variable (application : ApplicationCall → Option (Memory × DL))
variable (dlOut : DL) (fileSize : Word)
variable {table : List (OsFunction Address)} {memory : Memory}
variable {fileBytes : Address}

/-- An error exit before the entry point is an error exit of the loader. -/
theorem ccdlFromMemory_generalError {after : Memory}
    (outcome : (ccdlToEntry table memory fileBytes).value =
      .generalError after) :
    ccdlFromMemory table application memory dlOut fileBytes fileSize =
      ⟨.returned generalError after dlOut, []⟩ := by
  rw [ccdlFromMemory, outcome]
  rfl

/-- A panic before the entry point leaves `*dl_out` alone. -/
theorem ccdlFromMemory_panic {after : Memory}
    (outcome : (ccdlToEntry table memory fileBytes).value = .panic after) :
    ccdlFromMemory table application memory dlOut fileBytes fileSize =
      ⟨.panic after dlOut, []⟩ := by
  rw [ccdlFromMemory, outcome]
  rfl

/-- The entry point is called once, and what it does decides the rest. -/
theorem ccdlFromMemory_enter {entryPoint : Address} {linked : Memory}
    {hdr : CcdlHeader}
    (outcome : (ccdlToEntry table memory fileBytes).value =
      .enter entryPoint linked hdr) :
    ccdlFromMemory table application memory dlOut fileBytes fileSize =
      ⟨afterEntryPoint fileBytes fileSize hdr
          (application ⟨entryPoint, linked, dlOut⟩),
        [⟨entryPoint, linked, dlOut⟩]⟩ := by
  rw [ccdlFromMemory, outcome]
  dsimp only
  cases called : application ⟨entryPoint, linked, dlOut⟩ with
  | none => rfl
  | some result => rfl

/-- The rest after the entry point is neither an error nor a panic. -/
theorem afterEntryPoint_cases (hdr : CcdlHeader)
    (result : Option (Memory × DL)) :
    (∀ after dl, afterEntryPoint fileBytes fileSize hdr result ≠
        .returned generalError after dl) ∧
      ∀ after dl, afterEntryPoint fileBytes fileSize hdr result ≠
        .panic after dl := by
  cases result with
  | none => simp [afterEntryPoint]
  | some pair => simp [afterEntryPoint, generalError]

end Run

/-- The file decides the outcome of the loader.  What the sections of a file
with a valid header refer to is readable, and the loader's writes are apart
from it.  They miss miniSYS and the stack as well: the table, `*dl_out` and the
locals are values here. -/
theorem loader_outcomes (builtins : List (CString × Address))
    (application : ApplicationCall → Option (Memory × DL))
    {memory : Memory} (dlOut : DL) {file : Extent} (fileSize : Word)
    (small : file.size < 2 ^ 32)
    (readable : (CcdlHeader.ofMemory memory file.start).Valid →
      LoaderReadable memory file)
    (apart : (CcdlHeader.ofMemory memory file.start).Valid →
      WritesApart memory file.start file) :
    LoaderOutcomes builtins application memory dlOut file.start fileSize
      (ccdlFromMemory (terminated builtins 0) application memory dlOut
        file.start fileSize) := by
  by_cases refused : Refused memory file.start
  · have run := ccdlFromMemory_generalError application dlOut fileSize
      (ccdlToEntry_refused (terminated builtins 0) refused)
    rw [run]
    exact {
      error := iff_of_true ⟨memory, dlOut, rfl⟩ refused
      errorAtomic := fun _ => rfl
      panic := fun accepted => absurd refused accepted
      panicEarly := fun accepted => absurd refused accepted
      entered := fun accepted => absurd refused accepted }
  · have valid : (CcdlHeader.ofMemory memory file.start).Valid := by
      rw [refused_iff, not_or, not_not] at refused
      exact refused.1
    obtain ⟨panics, enters⟩ := @ccdlToEntry_accepted builtins _ _ small
      (readable valid) (apart valid) refused
    by_cases missing : MissingImport builtins memory file.start
    · obtain ⟨after, outcome⟩ := panics missing
      rw [ccdlFromMemory_panic application dlOut fileSize outcome]
      exact {
        error := iff_of_false (by simp) refused
        errorAtomic := fun wrong => absurd wrong refused
        panic := fun _ => iff_of_true ⟨after, dlOut, rfl⟩ missing
        panicEarly := fun _ _ => ⟨after, rfl⟩
        entered := fun _ complete => absurd missing complete }
    · obtain ⟨shdrCode, linked, code, outcome⟩ := enters missing
      rw [ccdlFromMemory_enter application dlOut fileSize outcome]
      obtain ⟨noError, noPanic⟩ := @afterEntryPoint_cases fileSize
        file.start (CcdlHeader.ofMemory memory file.start)
        (application ⟨shdrCode.entryPoint, linked, dlOut⟩)
      exact {
        error := iff_of_false
          (fun ⟨after, dl, equal⟩ => noError after dl equal) refused
        errorAtomic := fun wrong => absurd wrong refused
        panic := fun _ => iff_of_false
          (fun ⟨after, dl, equal⟩ => noPanic after dl equal) missing
        panicEarly := fun _ absent => absurd absent missing
        entered := fun _ _ => ⟨shdrCode, linked, code, rfl, rfl⟩ }

theorem loader_outcomes_sample :
    LoaderOutcomes [(mallocName, 0x20000400)] (fun _ => none) sampleFile
      ⟨0, 0, CcdlHeader.ofMemory sampleFile 0⟩ 0x30000000 763
      (ccdlFromMemory (terminated [(mallocName, 0x20000400)] 0)
        (fun _ => none) sampleFile ⟨0, 0, CcdlHeader.ofMemory sampleFile 0⟩
        0x30000000 763) :=
  @loader_outcomes [(mallocName, 0x20000400)] (fun _ => none) sampleFile
    ⟨0, 0, CcdlHeader.ofMemory sampleFile 0⟩ sampleExtent 763 (by decide)
    (fun _ => sampleFile_readable)
    (fun _ => sampleFile_writesApart
      (Extent.disjoint_of_end_le (by decide) (by decide)))

end Dl
end GA330
