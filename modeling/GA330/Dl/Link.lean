import GA330.Dl.Loader

/-!
# Memory of a linked image

At the call of the entry point, memory is the original memory with the code
section copied to its load address and then a jump thunk over every import
slot, and nothing else has changed.  A guest call through a slot goes to the
function that the import's name resolves to.
-/

namespace GA330
namespace Dl

open ByteMemory Minisys

/-! ## Jumping through a thunk -/

/-- Executing `ldr pc, [pc, #±imm12]` (always) in ARM state: the new program
counter.  The base register reads as the instruction's address plus eight. -/
def ldrPcTarget (memory : Memory) (pc : Address) : Option Address :=
  let instruction := loadWord memory pc
  if instruction &&& 0xFF7FF000 = 0xE51FF000 then
    let immediate := instruction &&& 0xFFF
    let up := instruction &&& 0x00800000 ≠ 0
    some (loadWord memory
      (if up then pc + 8 + immediate else pc + 8 - immediate))
  else none

/-- Executing a thunk jumps to the address in its second word. -/
theorem ldrPcTarget_thunk {memory : Memory} {pc target : Address}
    (stored : read memory pc 8 = thunkBytes target) :
    ldrPcTarget memory pc = some target := by
  rw [show (8 : Nat) = 4 + 4 by rfl, read_add, thunkBytes] at stored
  obtain ⟨first, second⟩ := List.append_inj stored (by simp)
  have instruction := loadWord_of_read first
  have operand := loadWord_of_read second
  have opcode : ldrPcPcMinus4 &&& 0xFF7FF000 = 0xE51FF000 := by decide
  have down : ¬ (ldrPcPcMinus4 &&& 0x00800000 ≠ 0) := by decide
  have immediate : ldrPcPcMinus4 &&& 0xFFF = 4 := by decide
  simp only [ldrPcTarget, instruction, opcode, down, immediate, if_true,
    if_false]
  rw [show pc + 8 - 4 = pc + BitVec.ofNat 32 4 by bv_omega, operand]

/-! ## Resolving symbols -/

/-- Memory when the import loop ends. -/
def ImportOutcome.memory : ImportOutcome → Memory
  | .linked memory => memory
  | .panic memory => memory
  | .overrun memory => memory

/-- However the loop ends, it has changed import slots only. -/
theorem linkSymbols_frame (table : List (OsFunction Address))
    {symbols : List Symbol} (memory : Memory) {address : Address}
    (outside : ∀ symbol ∈ symbols, address ∉ slot symbol) :
    (linkSymbols table symbols memory).memory address = memory address := by
  induction symbols generalizing memory with
  | nil => rfl
  | cons symbol rest inductionHypothesis =>
      rw [linkSymbols]
      cases ccosGetBuiltinProc table symbol.name with
      | found target =>
          refine (inductionHypothesis _ fun later present =>
            outside later (List.mem_cons_of_mem symbol present)).trans ?_
          exact write_of_notMem (outside symbol (by simp))
      | panic => rfl
      | overrun => rfl

/-- Whatever the loader's writes are apart from is still there when the entry
point is called. -/
theorem ccdlToEntry_agreeOn {table : List (OsFunction Address)}
    {memory linked : Memory} {file extent : Extent} {entryPoint : Address}
    {hdr : CcdlHeader} (small : file.size < 2 ^ 32)
    (readable : LoaderReadable memory file)
    (apartFromFile : WritesApart memory file.start file)
    (apart : WritesApart memory file.start extent)
    (entered : (ccdlToEntry table memory file.start).value =
      .enter entryPoint linked hdr) : AgreeOn extent memory linked := by
  rw [ccdlToEntry_value table small readable apartFromFile] at entered
  obtain ⟨shdrCode, code, ended⟩ := loadFile_enter entered
  intro address present
  have frame := linkSymbols_frame table
    (withCode memory file.start shdrCode)
    fun symbol imported inSlot =>
      apart.slots symbol imported address inSlot present
  rw [ended, ImportOutcome.memory] at frame
  rw [apart.agreeOn_withCode code address present, frame]

/-- When every name resolves, the loop ends normally. -/
theorem linkSymbols_linked (table : List (OsFunction Address))
    {symbols : List Symbol} (memory : Memory)
    (resolved : ∀ symbol ∈ symbols, ∃ target,
      ccosGetBuiltinProc table symbol.name = .found target) :
    ∃ linked, linkSymbols table symbols memory = .linked linked := by
  induction symbols generalizing memory with
  | nil => exact ⟨memory, rfl⟩
  | cons symbol rest inductionHypothesis =>
      obtain ⟨target, found⟩ := resolved symbol (by simp)
      rw [linkSymbols, found]
      exact inductionHypothesis _ fun later present =>
        resolved later (List.mem_cons_of_mem symbol present)

/-- When the loop ends normally and the slots are apart, each of them holds
the thunk of its symbol. -/
theorem linkSymbols_slot (table : List (OsFunction Address))
    {symbols : List Symbol} {memory linked : Memory}
    (ended : linkSymbols table symbols memory = .linked linked)
    (pairwise : symbols.Pairwise fun left right =>
      (slot left).Disjoint (slot right))
    {symbol : Symbol} (present : symbol ∈ symbols) :
    ∃ target, ccosGetBuiltinProc table symbol.name = .found target ∧
      read linked symbol.address 8 = thunkBytes target := by
  induction symbols generalizing memory with
  | nil => contradiction
  | cons first rest inductionHypothesis =>
      rw [List.pairwise_cons] at pairwise
      rw [linkSymbols] at ended
      cases found : ccosGetBuiltinProc table first.name with
      | found target =>
          simp only [found] at ended
          rw [List.mem_cons] at present
          rcases present with rfl | inRest
          · refine ⟨target, found, ?_⟩
            -- later thunks leave the first slot alone
            have kept : AgreeOn (slot symbol) linked
                (write memory symbol.address (thunkBytes target)) := by
              intro address inSlot
              have frame := linkSymbols_frame table
                (write memory symbol.address (thunkBytes target))
                fun later inRest inLater =>
                  pairwise.1 later inRest address inSlot inLater
              rwa [ended] at frame
            rw [read_congr kept]
            exact read_write_self (by simp)
          · exact inductionHypothesis ended pairwise.2 inRest
      | panic => simp [found] at ended
      | overrun => simp [found] at ended

/-! ## The linked image -/

/-- A file that can be loaded and linked: it is well formed, it lies in the
file, its writes meet neither the file nor the protected memory nor each
other, and its imports are builtins. -/
structure LinkableImage (builtins : List (CString × Address))
    (memory : Memory) (file : Extent) (guarded : List Extent)
    (shdrCode : SectionHeader) : Prop where
  fileNoWrap : file.NoWrap
  fileSize : file.size < 2 ^ 32
  valid : (CcdlHeader.ofMemory memory file.start).Valid
  readable : LoaderReadable memory file
  code : codeSection memory file.start = some shdrCode
  codeNoWrap : (destination shdrCode).NoWrap
  slotsNoWrap : ∀ symbol ∈ imports memory file.start, (slot symbol).NoWrap
  apartFromFile : WritesApart memory file.start file
  apartFromGuarded : ∀ region ∈ guarded,
    WritesApart memory file.start region
  slotsPairwise : (imports memory file.start).Pairwise fun left right =>
    (slot left).Disjoint (slot right)
  builtin : ∀ symbol ∈ imports memory file.start,
    symbol.name ∈ builtins.map Prod.fst

/-- A name of a terminated table resolves. -/
theorem ccosGetBuiltinProc_of_mem {rows : List (CString × Address)}
    {name : CString} (null : Address)
    (present : name ∈ rows.map Prod.fst) :
    ∃ target, ccosGetBuiltinProc (terminated rows null) name =
      .found target := by
  rw [ccosGetBuiltinProc_terminated]
  cases search : rows.find? (fun row => row.1 = name) with
  | none =>
      obtain ⟨row, member, equal⟩ := List.mem_map.mp present
      have absent := List.find?_eq_none.mp search row member
      simp [equal] at absent
  | some row => exact ⟨row.2, rfl⟩

/-- Linking: memory and program counter when the entry point is called. -/
theorem image_linked {builtins : List (CString × Address)}
    {memory : Memory} {file : Extent} {guarded : List Extent}
    {shdrCode : SectionHeader}
    (image : LinkableImage builtins memory file guarded shdrCode) :
    ∃ linked hdr,
      (ccdlToEntry (terminated builtins 0) memory file.start).value =
          .enter shdrCode.entryPoint linked hdr ∧
        (∀ symbol ∈ imports memory file.start, ∃ target,
          ccosGetBuiltinProc (terminated builtins 0) symbol.name =
              .found target ∧
            read linked symbol.address 8 =
              wordBytes 0xe51ff004 ++ wordBytes target ∧
            ldrPcTarget linked symbol.address = some target) ∧
        (∀ address ∈ destination shdrCode,
          (∀ symbol ∈ imports memory file.start, address ∉ slot symbol) →
            linked address = memory (file.start + shdrCode.offset +
              (address - shdrCode.loadAddress))) ∧
        (∀ address, address ∉ destination shdrCode →
          (∀ symbol ∈ imports memory file.start, address ∉ slot symbol) →
            linked address = memory address) := by
  obtain ⟨linked, ended⟩ := linkSymbols_linked (terminated builtins 0)
    (withCode memory file.start shdrCode) fun symbol present =>
      ccosGetBuiltinProc_of_mem 0 (image.builtin symbol present)
  have frame : ∀ address,
      (∀ symbol ∈ imports memory file.start, address ∉ slot symbol) →
        linked address = withCode memory file.start shdrCode address := by
    intro address outside
    have kept := linkSymbols_frame (terminated builtins 0)
      (withCode memory file.start shdrCode) outside
    rwa [ended] at kept
  refine ⟨linked, CcdlHeader.ofMemory memory file.start, ?_, ?_, ?_, ?_⟩
  · rw [ccdlToEntry_value _ image.fileSize image.readable
      image.apartFromFile, loadFile]
    simp only [image.valid, image.code, ended, if_true,
      ImportOutcome.enter]
  · intro symbol present
    obtain ⟨target, found, stored⟩ := linkSymbols_slot _ ended
      image.slotsPairwise present
    exact ⟨target, found, stored, ldrPcTarget_thunk stored⟩
  · intro address inside outside
    rw [frame address outside, withCode, write_of_mem]
    · rw [getElem_read, bytesFrom, BitVec.ofNat_toNat, BitVec.setWidth_eq]
    · rw [length_read]
      exact inside
  · intro address outsideCode outside
    rw [frame address outside, withCode, write_of_notMem]
    rw [length_read]
    exact outsideCode

/-! ## A small file -/

/-- Store pieces of a file at offsets from its start. -/
def storePieces (fileBytes : Address) (pieces : List (Address × List Byte)) :
    Memory :=
  pieces.foldl
    (fun memory piece => write memory (fileBytes + piece.1) piece.2)
    fun _ => 0

/-- The bytes of an ASCII text and its final zero. -/
def asciiz (text : String) : List Byte :=
  text.toList.map (fun character => BitVec.ofNat 8 character.toNat) ++ [0]

/-- A file with a code, an import, an export and a resource section, where the
emulator puts it.  It imports `malloc` over its own first instructions, exports
`AppMain` and holds the resource `a` with the bytes 1, 2, 3. -/
def sampleFile : Memory :=
  storePieces 0x30000000 [
    (0, ccdlSign ++ [0x00010000, 0x00020001, 4].flatMap wordBytes),
    (32, [0, 1, 160, 8, 0, 0x10100000, 0x10100000, 8].flatMap wordBytes),
    (64, [0, 8, 168, 39].flatMap wordBytes),
    (96, [0, 9, 208, 40].flatMap wordBytes),
    (128, [0, 7, 248, 515].flatMap wordBytes),
    (160, [0xE1A00000, 0xE12FFF1E].flatMap wordBytes),
    (168, wordBytes 1),
    (184, [0, 0, 0, 0x10100000].flatMap wordBytes ++ asciiz "malloc"),
    (208, wordBytes 1),
    (224, [0, 0, 0, 0x10100004].flatMap wordBytes ++ asciiz "AppMain"),
    (248, wordBytes 1 ++ asciiz "a"),
    (752, [3, 512].flatMap wordBytes ++ [0x41, 0x42, 0x43])]

/-- Its extent. -/
def sampleExtent : Extent := ⟨0x30000000, 763⟩

/-- Its code section. -/
def sampleCode : SectionHeader where
  fourcc := [0, 0, 0, 0]
  type := 1
  offset := 160
  size := 8
  unk0 := 0
  entryPoint := 0x10100000
  loadAddress := 0x10100000
  allocSize := 8

/-- A C string without zero bytes. -/
def cstring (bytes : List Byte) (nulFree : (0 : Byte) ∉ bytes := by decide) :
    CString :=
  ⟨bytes, nulFree⟩

/-- `malloc` -/
def mallocName : CString := cstring [0x6D, 0x61, 0x6C, 0x6C, 0x6F, 0x63]

/-- The section headers of the other three sections. -/
def sampleSection (type offset size : Word) : SectionHeader where
  fourcc := [0, 0, 0, 0]
  type := type
  offset := offset
  size := size
  unk0 := 0
  entryPoint := 0
  loadAddress := 0
  allocSize := 0

theorem sampleFile_sections :
    sectionHeaders sampleFile 0x30000000 4 =
      [sampleCode, sampleSection 8 168 39, sampleSection 9 208 40,
        sampleSection 7 248 515] := by
  decide +kernel

theorem sampleFile_sectionCount :
    sectionCount sampleFile 0x30000000 = 4 := by
  decide +kernel

theorem sampleFile_code :
    codeSection sampleFile 0x30000000 = some sampleCode := by
  rw [codeSection, sampleFile_sectionCount, firstSection,
    sampleFile_sections]
  rfl

theorem sampleFile_imports :
    imports sampleFile 0x30000000 = [⟨mallocName, 0x10100000⟩] := by
  decide +kernel

theorem sampleFile_importSection :
    firstSection sampleFile 0x30000000 4 sectionImport =
      some (sampleSection 8 168 39) := by
  rw [firstSection, sampleFile_sections]
  rfl

theorem sampleFile_tableReadable :
    TableReadable sampleFile sampleExtent (0x30000000 + 168) where
  header := Extent.inside_of_start (by decide)
  entries := by
    intro entry present
    rw [show entryAddresses (entriesStart (0x30000000 + 168))
        (numEntries sampleFile (0x30000000 + 168)).toNat =
          [0x300000B8] by decide +kernel, List.mem_singleton] at present
    subst present
    refine ⟨Extent.inside_of_start (by decide), mallocName, ?_, ?_⟩
    · rw [CString.StoredAt, ← CString.equals_iff_storedIn]
      decide +kernel
    · exact Extent.inside_of_start (by decide +kernel)

theorem sampleFile_readable : LoaderReadable sampleFile sampleExtent where
  header := Extent.inside_of_start (by decide)
  sections := by
    change ∀ i < sectionCount sampleFile 0x30000000, _
    rw [sampleFile_sectionCount]
    intro i bound
    exact sectionHeader_inside bound (by decide)
  code := by
    change ∀ shdr ∈ codeSection sampleFile 0x30000000, _
    rw [sampleFile_code]
    intro shdr present
    cases Option.mem_some.mp present
    exact Extent.inside_of_start (by decide)
  imports := by
    change ∀ shdr ∈ firstSection sampleFile 0x30000000
      (sectionCount sampleFile 0x30000000) sectionImport, _
    rw [sampleFile_sectionCount, sampleFile_importSection]
    intro shdr present
    cases Option.mem_some.mp present
    exact sampleFile_tableReadable

/-- The file's writes lie in the megabyte at `0x10100000`. -/
theorem sampleFile_writesApart {extent : Extent}
    (code : (destination sampleCode).Disjoint extent) :
    WritesApart sampleFile 0x30000000 extent where
  code := by
    rw [sampleFile_code]
    intro shdr present
    cases Option.mem_some.mp present
    exact code
  slots := by
    rw [sampleFile_imports]
    intro symbol present
    rw [List.mem_singleton] at present
    subst present
    exact code

/-- The memory of miniSYS and the stack. -/
def sampleGuarded : List Extent :=
  [⟨0x10000000, 0x10000⟩, ⟨0x20000000, 0x40000⟩, ⟨0x1FF00000, 0x100000⟩]

theorem sampleFile_linkable :
    LinkableImage [(mallocName, 0x20000400)] sampleFile sampleExtent
      sampleGuarded sampleCode where
  fileNoWrap := by decide
  fileSize := by decide
  valid := by
    change (CcdlHeader.ofMemory sampleFile 0x30000000).Valid
    decide +kernel
  readable := sampleFile_readable
  code := sampleFile_code
  codeNoWrap := by decide
  slotsNoWrap := by
    change ∀ symbol ∈ imports sampleFile 0x30000000, _
    rw [sampleFile_imports]
    decide
  apartFromFile := sampleFile_writesApart
    (Extent.disjoint_of_end_le (by decide) (by decide))
  apartFromGuarded := by
    intro region present
    apply sampleFile_writesApart
    simp only [sampleGuarded, List.mem_cons, List.not_mem_nil, or_false]
      at present
    rcases present with rfl | rfl | rfl
    · exact (Extent.disjoint_of_end_le (by decide) (by decide)).symm
    · exact Extent.disjoint_of_end_le (by decide) (by decide)
    · exact Extent.disjoint_of_end_le (by decide) (by decide)
  slotsPairwise := by
    change (imports sampleFile 0x30000000).Pairwise _
    rw [sampleFile_imports]
    exact List.pairwise_singleton _ _
  builtin := by
    change ∀ symbol ∈ imports sampleFile 0x30000000, _
    rw [sampleFile_imports]
    decide

theorem image_linked_sample :
    ∃ linked hdr,
      (ccdlToEntry (terminated [(mallocName, 0x20000400)] 0) sampleFile
          0x30000000).value = .enter 0x10100000 linked hdr ∧
        ldrPcTarget linked 0x10100000 = some 0x20000400 := by
  obtain ⟨linked, hdr, entered, slots, _⟩ := image_linked sampleFile_linkable
  refine ⟨linked, hdr, entered, ?_⟩
  obtain ⟨target, found, _, jump⟩ := slots ⟨mallocName, 0x10100000⟩ (by
    change _ ∈ imports sampleFile 0x30000000
    rw [sampleFile_imports]
    exact List.mem_singleton_self _)
  rw [jump]
  have resolved : ccosGetBuiltinProc
      (terminated [(mallocName, (0x20000400 : Address))] 0) mallocName =
        .found 0x20000400 := by decide
  rw [resolved] at found
  cases found
  rfl

end Dl
end GA330
