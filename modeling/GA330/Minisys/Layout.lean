import GA330.Dl.Link
import GA330.Library.Machine

/-!
# Where everything lies in guest memory

The linker script, the host's memory map, `_sbrk` and the loader each fix part
of the memory layout.  The loader puts the image wherever the file says, so
the image stays apart from everything else exactly when the file places it
between miniSYS's own data and the start of the heap.
-/

namespace GA330
namespace Minisys

open ByteMemory Dl

/-! ## The heap -/

/-- `RAM_START` of `syscalls.c`. -/
def heapStart : Address := 0x11000000

/-- `heap_end` as `_sbrk` uses it: zero means that it was not set yet. -/
def currentBreak (heapEnd : Address) : Address :=
  if heapEnd = 0 then heapStart else heapEnd

/-- `_sbrk`: the new `heap_end`, and the returned address. -/
def sbrk (heapEnd : Address) (incr : Word) : Address × Address :=
  let prevHeapEnd := currentBreak heapEnd
  (prevHeapEnd + incr, prevHeapEnd)

/-- `_sbrk` with the block that it hands out; a negative increment gives
memory back and hands out nothing. -/
def sbrkBlock (heapEnd : Address) (incr : Word) : Address × Extent :=
  ((sbrk heapEnd incr).1, ⟨(sbrk heapEnd incr).2, incr.toInt.toNat⟩)

/-- The caller gives back no more than it got, and the address space is not
exhausted. -/
def BreakStays (heapEnd : Address) (incr : Word) : Prop :=
  (heapStart.toNat : Int) ≤ (currentBreak heapEnd).toNat + incr.toInt ∧
    ((currentBreak heapEnd).toNat : Int) + incr.toInt < 2 ^ 32

instance (heapEnd : Address) (incr : Word) :
    Decidable (BreakStays heapEnd incr) :=
  inferInstanceAs (Decidable (_ ∧ _))

/-- The blocks that a sequence of `_sbrk` calls hands out. -/
def heapBlocks (increments : List Word) : List Extent :=
  Machine.outputs sbrkBlock 0 increments

/-- The break lies above the start of the heap. -/
def BreakAbove (heapEnd : Address) : Prop :=
  heapStart.toNat ≤ (currentBreak heapEnd).toNat

theorem breakAbove_of_le {heapEnd : Address}
    (above : heapStart.toNat ≤ heapEnd.toNat) : BreakAbove heapEnd := by
  unfold BreakAbove currentBreak
  split
  · exact Nat.le_refl _
  · exact above

/-- Sums that stay in range are computed without wrapping. -/
theorem toNat_add_of_stays {left right : Word}
    (nonnegative : 0 ≤ (left.toNat : Int) + right.toInt)
    (small : (left.toNat : Int) + right.toInt < 2 ^ 32) :
    ((left + right).toNat : Int) = left.toNat + right.toInt := by
  have leftBound := left.isLt
  have rightBound := right.isLt
  rw [BitVec.toInt_eq_toNat_cond] at nonnegative small ⊢
  rw [BitVec.toNat_add]
  split at nonnegative <;> omega

/-- A block lies above the start of the heap. -/
def BlockAbove (block : Extent) : Prop :=
  ∀ address ∈ block, heapStart.toNat ≤ address.toNat

/-- One call keeps the break above the start of the heap, and hands out a
block above it. -/
theorem sbrkBlock_above (heapEnd : Address) (incr : Word)
    (stays : BreakStays heapEnd incr) (above : BreakAbove heapEnd) :
    BreakAbove (sbrkBlock heapEnd incr).1 ∧
      BlockAbove (sbrkBlock heapEnd incr).2 := by
  obtain ⟨low, high⟩ := stays
  unfold BreakAbove at above
  unfold sbrkBlock sbrk
  dsimp only
  generalize currentBreak heapEnd = brk at low high above ⊢
  have next := toNat_add_of_stays (by omega) high
  constructor
  · apply breakAbove_of_le
    omega
  · intro address present
    rw [Extent.mem_iff] at present
    dsimp only at present
    have offset := BitVec.toNat_sub address brk
    have bounds := address.isLt
    have brkBound := brk.isLt
    omega

/-- Every block lies above the start of the heap. -/
theorem heapBlocks_above {increments : List Word}
    (stays : Machine.Admissible sbrkBlock BreakStays 0 increments) :
    ∀ block ∈ heapBlocks increments, BlockAbove block := by
  have initially : BreakAbove 0 := by
    unfold BreakAbove
    decide
  exact Machine.outputs_of_admissible sbrkBlock sbrkBlock_above initially
    stays

/-! ## The regions -/

/-- Guest RAM. -/
def ram : Extent := ⟨0x10000000, 0x04000000⟩

/-- `.data` and `.bss` of miniSYS, of the size that linking it gives. -/
def minisysData (dataSize : Nat) : Extent := ⟨0x10000000, dataSize⟩

/-- The stack. -/
def stack : Extent := ⟨0x1FF00000, 0x00100000⟩

/-- `APP_LOAD_ADDRESS` -/
def appLoadAddress : Address := 0x30000000

/-- `APP_MAX_SIZE` -/
def appMaxSize : Nat := 0x04000000

/-- The file image. -/
def appFile (fileSize : Nat) : Extent := ⟨appLoadAddress, fileSize⟩

/-- RAM between miniSYS's data and the heap. -/
def gap (dataSize : Nat) : Extent :=
  ⟨0x10000000 + BitVec.ofNat 32 dataSize, 0x01000000 - dataSize⟩

/-- The image of the application. -/
def image (shdrCode : SectionHeader) : Extent :=
  ⟨shdrCode.loadAddress, max shdrCode.size.toNat shdrCode.allocSize.toNat⟩

/-- The extents that were written, in order. -/
def written (accesses : List Access) : List Extent :=
  accesses.filterMap fun
    | .read _ => none
    | .write extent => some extent

/-- A region lies in RAM, apart from everything that is not the
application's. -/
structure Apart (dataSize fileSize : Nat) (blocks : List Extent)
    (region : Extent) : Prop where
  ram : region.Inside ram
  data : region.Disjoint (minisysData dataSize)
  heap : ∀ block ∈ blocks, region.Disjoint block
  stack : region.Disjoint stack
  file : region.Disjoint (appFile fileSize)

section Regions

variable {dataSize fileSize : Nat} {region : Extent}

theorem mem_gap_iff {address : Address} :
    address ∈ gap dataSize ↔
      0x10000000 + dataSize ≤ address.toNat ∧
        address.toNat < 0x11000000 := by
  rw [Extent.mem_iff, gap]
  dsimp only
  by_cases room : dataSize < 0x01000000
  · bv_omega
  · omega

theorem mem_ram_iff {address : Address} :
    address ∈ ram ↔
      0x10000000 ≤ address.toNat ∧ address.toNat < 0x14000000 := by
  rw [Extent.mem_iff, ram]
  dsimp only
  bv_omega

/-- A region in the gap is apart from everything, whatever the heap does. -/
theorem apart_of_inside_gap (inside : region.Inside (gap dataSize))
    (fits : fileSize ≤ appMaxSize) {increments : List Word}
    (stays : Machine.Admissible sbrkBlock BreakStays 0 increments) :
    Apart dataSize fileSize (heapBlocks increments) region := by
  have bounds : ∀ address ∈ region, 0x10000000 + dataSize ≤ address.toNat ∧
      address.toNat < 0x11000000 :=
    fun address present => mem_gap_iff.mp (inside address present)
  constructor
  · intro address present
    have bound := bounds address present
    rw [mem_ram_iff]
    omega
  · intro address present inData
    have bound := bounds address present
    rw [Extent.mem_iff, minisysData] at inData
    dsimp only at inData
    bv_omega
  · intro block handedOut address present inBlock
    have bound := bounds address present
    have above := heapBlocks_above stays block handedOut address inBlock
    have start : heapStart.toNat = 0x11000000 := by decide
    omega
  · intro address present inStack
    have bound := bounds address present
    rw [Extent.mem_iff, stack] at inStack
    dsimp only at inStack
    bv_omega
  · intro address present inFile
    have bound := bounds address present
    rw [Extent.mem_iff, appFile, appLoadAddress] at inFile
    unfold appMaxSize at fits
    dsimp only at inFile
    bv_omega

/-- A region that stays apart from a heap that takes all the rest of RAM is in
the gap. -/
theorem inside_gap_of_apart
    (apart : Apart dataSize fileSize (heapBlocks [0x03000000]) region) :
    region.Inside (gap dataSize) := by
  intro address present
  have inRam := mem_ram_iff.mp (apart.ram address present)
  have notData := apart.data address present
  have block : (⟨0x11000000, 0x03000000⟩ : Extent) ∈
      heapBlocks [0x03000000] := by
    decide
  have notHeap := apart.heap _ block address present
  rw [Extent.mem_iff] at notHeap notData
  rw [mem_gap_iff]
  unfold minisysData at notData
  dsimp only at notHeap notData
  bv_omega

end Regions

/-! ## What the loader writes -/

theorem written_append (first second : List Access) :
    written (first ++ second) = written first ++ written second :=
  List.filterMap_append

@[simp] theorem written_read (extent : Extent) (rest : List Access) :
    written (.read extent :: rest) = written rest := rfl

@[simp] theorem written_write (extent : Extent) (rest : List Access) :
    written (.write extent :: rest) = extent :: written rest := rfl

/-- Reading section headers writes nothing. -/
theorem written_findSection (memory : Memory) (fileBytes : Address)
    (wanted : Word) (remaining i : Nat) :
    written (findSection memory fileBytes wanted remaining i).trace = [] := by
  induction remaining generalizing i with
  | zero => rfl
  | succ remaining inductionHypothesis =>
      rw [findSection, Traced.trace_bind, written_append]
      by_cases typed : (SectionHeader.ofMemory memory
          (sectionHeaderAddress fileBytes i)).type = wanted
      · simp [copySectionHeader, typed, written]
      · simp only [copySectionHeader, written_read, ne_eq, typed,
          not_false_eq_true, if_true, inductionHypothesis]
        rfl

/-- The import loop changes only what it is recorded to write. -/
theorem resolveImports_frame (table : List (OsFunction Address))
    (remaining : Nat) (memory : Memory) (p stringTable : Address)
    {address : Address}
    (outside : ∀ region ∈ written
      (resolveImports table remaining memory p stringTable).trace,
        address ∉ region) :
    (resolveImports table remaining memory p stringTable).value.memory
      address = memory address := by
  induction remaining generalizing memory p with
  | zero => rfl
  | succ remaining inductionHypothesis =>
      rw [resolveImports] at outside ⊢
      simp only [Traced.trace_bind, Traced.value_bind, copyImportExportEntry,
        readName, List.singleton_append, written_read] at outside ⊢
      cases resolved : ccosGetBuiltinProc table (CString.ofMemory memory
          (stringTable + (ImportExportEntry.ofMemory memory p).nameOffset))
        with
      | found target =>
          simp only [resolved, Traced.trace_bind, Traced.value_bind,
            writeThunk, List.singleton_append, written_write,
            List.forall_mem_cons] at outside ⊢
          rw [inductionHypothesis _ _ outside.2]
          exact write_of_notMem outside.1
      | panic => rfl
      | overrun => rfl

/-- The second loop over the sections changes only what it is recorded to
write. -/
theorem resolveSections_frame (table : List (OsFunction Address))
    (memory : Memory) (fileBytes : Address) (numSections : Word)
    {address : Address}
    (outside : ∀ region ∈ written
      (resolveSections table memory fileBytes numSections).trace,
        address ∉ region) :
    (resolveSections table memory fileBytes numSections).value.memory
      address = memory address := by
  unfold resolveSections at outside ⊢
  simp only [Traced.value_bind, Traced.trace_bind, written_append,
    written_findSection, List.nil_append] at outside ⊢
  cases imported : (findSection memory fileBytes sectionImport
      numSections.toNat 0).value with
  | none => rfl
  | some shdr =>
      simp only [imported, resolveImportSection, copyImportExportHeader,
        Traced.value_bind, Traced.trace_bind, List.singleton_append,
        written_read] at outside ⊢
      exact resolveImports_frame table _ memory _ _ outside

/-- The loader changes only what it is recorded to write. -/
theorem ccdlToEntry_frame {table : List (OsFunction Address)}
    {memory linked : Memory} {fileBytes entryPoint address : Address}
    {hdr : CcdlHeader}
    (entered : (ccdlToEntry table memory fileBytes).value =
      .enter entryPoint linked hdr)
    (outside : ∀ region ∈ written (ccdlToEntry table memory fileBytes).trace,
      address ∉ region) :
    linked address = memory address := by
  unfold ccdlToEntry at entered outside
  simp only [Traced.value_bind, Traced.trace_bind, copyHeader,
    List.singleton_append, written_read] at entered outside
  split at entered
  · contradiction
  rename_i sign
  split at entered
  · contradiction
  rename_i version
  rw [if_neg sign, if_neg version] at outside
  simp only [Traced.value_bind, Traced.trace_bind, written_append,
    written_findSection, List.nil_append] at entered outside
  cases code : (findSection memory fileBytes sectionCode
      (CcdlHeader.ofMemory memory fileBytes).numSections.toNat 0).value with
  | none => simp [code] at entered
  | some shdrCode =>
      simp only [code, copyCode, Traced.value_bind, Traced.trace_bind,
        Traced.value_pure, Traced.trace_pure, List.cons_append,
        List.nil_append, List.append_nil, written_read, written_write,
        List.forall_mem_cons] at entered outside
      have kept := resolveSections_frame table _ fileBytes _ outside.2
      cases ended : (resolveSections table
          (write memory shdrCode.loadAddress
            (read memory (fileBytes + shdrCode.offset)
              shdrCode.size.toNat)) fileBytes
          (CcdlHeader.ofMemory memory fileBytes).numSections).value with
      | linked after =>
          rw [ended, ImportOutcome.enter] at entered
          cases entered
          rw [ended, ImportOutcome.memory] at kept
          rw [kept]
          apply write_of_notMem
          rw [length_read]
          exact outside.1
      | panic after => simp [ended, ImportOutcome.enter] at entered
      | overrun after => simp [ended, ImportOutcome.enter] at entered

/-- The image and every import slot that is patched. -/
def regions (table : List (OsFunction Address)) (memory : Memory)
    (shdrCode : SectionHeader) : List Extent :=
  image shdrCode :: written (ccdlToEntry table memory appLoadAddress).trace

/-- For a file that is accepted, image and import slots stay apart from
everything, whatever the heap does, exactly when they lie in the gap; and they
are all that the loader has changed. -/
theorem regions_apart_iff {table : List (OsFunction Address)}
    {memory linked : Memory} {entryPoint : Address} {hdr : CcdlHeader}
    {dataSize fileSize : Nat}
    (accepted : (ccdlToEntry table memory appLoadAddress).value =
      .enter entryPoint linked hdr)
    (fits : fileSize ≤ appMaxSize) :
    ∃ shdrCode, codeSection memory appLoadAddress = some shdrCode ∧
      ((∀ increments,
          Machine.Admissible sbrkBlock BreakStays 0 increments →
            ∀ region ∈ regions table memory shdrCode,
              Apart dataSize fileSize (heapBlocks increments) region) ↔
        ∀ region ∈ regions table memory shdrCode,
          region.Inside (gap dataSize)) ∧
      ∀ address,
        (∀ region ∈ regions table memory shdrCode, address ∉ region) →
          linked address = memory address := by
  obtain ⟨_, _, shdrCode, code, _⟩ := ccdlToEntry_enter accepted
  refine ⟨shdrCode, code, ⟨?_, ?_⟩, ?_⟩
  · intro apart region present
    have stays : Machine.Admissible sbrkBlock BreakStays 0 [0x03000000] :=
      ⟨by decide, trivial⟩
    exact inside_gap_of_apart (apart _ stays region present)
  · intro inside increments stays region present
    exact apart_of_inside_gap (inside region present) fits stays
  · intro address outside
    apply ccdlToEntry_frame accepted
    exact fun region present =>
      outside region (List.mem_cons_of_mem _ present)

/-! ## Two files -/

/-- The entry point that is called, if the file is accepted. -/
def calledEntryPoint : EntryOutcome → Option Address
  | .enter entryPoint _ _ => some entryPoint
  | _ => none

theorem enter_of_called {outcome : EntryOutcome} {entryPoint : Address}
    (called : calledEntryPoint outcome = some entryPoint) :
    ∃ linked hdr, outcome = .enter entryPoint linked hdr := by
  cases outcome with
  | enter address linked hdr =>
      cases called
      exact ⟨linked, hdr, rfl⟩
  | generalError memory => contradiction
  | panic memory => contradiction
  | overrun memory => contradiction

/-- The image of the sample file is apart from everything. -/
theorem regions_apart_iff_sample :
    Apart 0x10000 763 (heapBlocks [16, 4096]) ⟨0x10100000, 8⟩ := by
  have called : calledEntryPoint (ccdlToEntry
      (terminated [(mallocName, 0x20000400)] 0) sampleFile
      appLoadAddress).value = some 0x10100000 := by
    decide +kernel
  obtain ⟨linked, hdr, entered⟩ := enter_of_called called
  obtain ⟨shdrCode, code, placed, _⟩ := @regions_apart_iff _ _ linked _ hdr
    0x10000 763 entered (by decide)
  cases sampleFile_code.symm.trans code
  have all : regions (terminated [(mallocName, 0x20000400)] 0) sampleFile
      sampleCode = List.replicate 3 ⟨0x10100000, 8⟩ := by
    decide +kernel
  rw [all] at placed
  refine placed.mpr ?_ [16, 4096] ⟨by decide, by decide, trivial⟩ _
    (List.mem_replicate.mpr ⟨by decide, rfl⟩)
  intro region present
  rw [List.eq_of_mem_replicate present]
  exact Extent.inside_of_start (by decide)

/-- A file whose code section asks to be loaded at the start of the heap. -/
def heapFile : Memory :=
  storePieces appLoadAddress [
    (0, ccdlSign ++ [0x00010000, 0x00020001, 1].flatMap wordBytes),
    (32, [0, 1, 64, 4, 0, 0x11000000, 0x11000000, 16].flatMap wordBytes),
    (64, wordBytes 0xE12FFF1E)]

/-- The first block of the heap lies in the image of such a file. -/
theorem heap_in_image :
    ¬ ∀ (table : List (OsFunction Address)) (memory linked : Memory)
      (entryPoint : Address) (hdr : CcdlHeader) (shdrCode : SectionHeader)
      (dataSize fileSize : Nat) (increments : List Word),
      (ccdlToEntry table memory appLoadAddress).value =
          .enter entryPoint linked hdr →
        codeSection memory appLoadAddress = some shdrCode →
          fileSize ≤ appMaxSize →
            Machine.Admissible sbrkBlock BreakStays 0 increments →
              ∀ region ∈ regions table memory shdrCode,
                Apart dataSize fileSize (heapBlocks increments) region := by
  intro claimed
  have called : calledEntryPoint (ccdlToEntry [] heapFile
      appLoadAddress).value = some 0x11000000 := by
    decide +kernel
  obtain ⟨linked, hdr, entered⟩ := enter_of_called called
  obtain ⟨_, _, shdrCode, code, _⟩ := ccdlToEntry_enter entered
  have apart := claimed [] heapFile linked _ hdr shdrCode 0 68 [16] entered
    code (by decide) ⟨by decide, trivial⟩ (image shdrCode) List.mem_cons_self
  have placed : (codeSection heapFile appLoadAddress).map image =
      some ⟨0x11000000, 16⟩ := by
    decide +kernel
  rw [code, Option.map_some, Option.some_inj] at placed
  rw [placed] at apart
  exact apart.heap ⟨0x11000000, 16⟩ (by decide) 0x11000000 (by decide)
    (by decide)

end Minisys
end GA330
