import GA330.Dl.Writer
import GA330.Host.MemoryMap
import GA330.Minisys.Data

/-!
# From the two files to the application

What the pieces of the start come to together.  `load_rom` lays both files out
in memory and starts miniSYS; miniSYS copies its initialised data to RAM and
has the loader call the application.  So a file that was written as `dl.h` says
ends up running, with its code and imports in place.
-/

namespace GA330
namespace Host

open ByteMemory Dl Minisys

/-! ## miniSYS in memory -/

/-- What the linker decides about miniSYS: how many bytes of flash come before
the initial values of `.data`, the words of `.data` and the bytes of
`.bss`. -/
structure MinisysLayout where
  text : Nat
  dataWords : Nat
  bss : Nat
  fitsFlash : text + 4 * dataWords ≤ 0x40000
  fitsRam : 4 * dataWords + bss ≤ ram.size

namespace MinisysLayout

variable (layout : MinisysLayout)

/-- `_sidata` -/
def sidata : Address := minisysAddr + BitVec.ofNat 32 layout.text

/-- `_sdata` -/
def sdata : Address := ram.start

/-- `_edata` -/
def edata : Address := sdata + BitVec.ofNat 32 (4 * layout.dataWords)

/-- `.data` -/
def data : Extent := ⟨sdata, 4 * layout.dataWords⟩

/-- `.bss` -/
def bssExtent : Extent := ⟨layout.edata, layout.bss⟩

/-- What the linker put into the file for `.data`. -/
def initialData (msbuffer : List Byte) : List Byte :=
  (msbuffer.drop layout.text).take (4 * layout.dataWords)

end MinisysLayout

/-- `sizeof(DL_t)` -/
def sizeofDl : Nat := 8 + sizeofHeader

/-- The `DL_t` stored at an address. -/
def DL.ofMemory (memory : Memory) (p : Address) : DL where
  fileBytes := loadWord memory p
  fileSize := loadWord memory (p + 4)
  hdr := CcdlHeader.ofMemory memory (p + 8)

theorem DL.ofMemory_congr {left right : Memory} {p : Address}
    (agree : AgreeOn ⟨p, sizeofDl⟩ left right) :
    DL.ofMemory left p = DL.ofMemory right p := by
  unfold DL.ofMemory
  rw [loadWord_congr (agree.mono (Extent.inside_of_le (by decide))),
    loadWord_congr_offset agree 4 (by decide),
    CcdlHeader.ofMemory_congr
      (agree.mono (Extent.inside_of_offset (by decide)))]

/-- Memory when `_start` has copied `.data`. -/
structure Ready (layout : MinisysLayout) (rom msbuffer : List Byte)
    (memory : Memory) : Prop where
  data : read memory MinisysLayout.sdata (4 * layout.dataWords) =
    layout.initialData msbuffer
  blank : ∀ address ∈ ram, address ∉ layout.data → memory address = 0
  minisys : Placed memory ⟨minisysAddr, msbuffer.length⟩ 0 msbuffer
  file : Placed memory (appFile rom.length) 0 rom

section Ready

variable {layout : MinisysLayout} {rom msbuffer : List Byte}
variable {memory : Memory}

/-- Both files lie in the memory that the guest starts in. -/
theorem startMemory_files (romFits : rom.length ≤ appMaxSize)
    (minisysFits : msbuffer.length ≤ 0x40000) :
    Placed (startMemory rom msbuffer).bytes ⟨minisysAddr, msbuffer.length⟩ 0
        msbuffer ∧
      Placed (startMemory rom msbuffer).bytes (appFile rom.length) 0 rom := by
  have app : appMaxSize = 0x04000000 := rfl
  constructor
  · have apart : (⟨appLoadAddress, rom.length⟩ : Extent).Disjoint
        ⟨minisysAddr, msbuffer.length⟩ := by
      apply Extent.Disjoint.symm
      apply Extent.disjoint_of_end_le
      · change 0x30000000 + rom.length ≤ 2 ^ 32
        omega
      · change 0x20000000 + msbuffer.length ≤ 0x30000000
        omega
    have placed := @placed_write (fun _ => 0) minisysAddr msbuffer
      (by omega)
    exact placed.of_agreeOn (agreeOn_write apart).symm
  · exact placed_write (by omega)

/-- RAM is blank when the guest starts. -/
theorem startMemory_ram (romFits : rom.length ≤ appMaxSize)
    (minisysFits : msbuffer.length ≤ 0x40000) {address : Address}
    (inRam : address ∈ ram) : (startMemory rom msbuffer).bytes address = 0 := by
  have app : appMaxSize = 0x04000000 := rfl
  rw [mem_ram_iff] at inRam
  have outsideRom : address ∉
      (⟨appLoadAddress, rom.length⟩ : Extent) := by
    rw [Extent.mem_iff, appLoadAddress]
    bv_omega
  have outsideMinisys : address ∉
      (⟨minisysAddr, msbuffer.length⟩ : Extent) := by
    rw [Extent.mem_iff, minisysAddr]
    bv_omega
  exact (write_of_notMem outsideRom).trans (write_of_notMem outsideMinisys)

/-- The copy loop ends, and then `.data` is what the linker made it, the rest
of RAM is blank, and both files are where they were. -/
theorem data_ready (layout : MinisysLayout)
    (romFits : rom.length ≤ appMaxSize)
    (whole : msbuffer.length = 0x40000) {fuel : Nat}
    (enough : layout.dataWords < fuel) :
    ∃ ready, initData layout.edata fuel (startMemory rom msbuffer).bytes
        layout.sidata MinisysLayout.sdata = some ready ∧
      Ready layout rom msbuffer ready := by
  have app : appMaxSize = 0x04000000 := rfl
  have ramSize : ram.size = 0x04000000 := rfl
  have inFlash := layout.fitsFlash
  have inRam := layout.fitsRam
  obtain ⟨minisys, file⟩ := startMemory_files romFits (Nat.le_of_eq whole)
  have ends : MinisysLayout.sdata.toNat + 4 * layout.dataWords =
      layout.edata.toNat := by
    rw [MinisysLayout.edata, MinisysLayout.sdata, ram]
    bv_omega
  have dataApart : ∀ (start : Address) (size : Nat),
      0x20000000 ≤ start.toNat → start.toNat + size ≤ 2 ^ 32 →
        layout.data.Disjoint ⟨start, size⟩ := by
    intro start size above noWrap
    apply Extent.disjoint_of_end_le
    · exact noWrap
    · change 0x10000000 + 4 * layout.dataWords ≤ start.toNat
      omega
  have source : layout.sidata.toNat = 0x20000000 + layout.text := by
    rw [MinisysLayout.sidata, minisysAddr]
    bv_omega
  have initial : read (startMemory rom msbuffer).bytes layout.sidata
      (4 * layout.dataWords) = layout.initialData msbuffer := by
    have laid := minisys.holds
    have fits : layout.text + 4 * layout.dataWords ≤ msbuffer.length := by
      rw [whole]
      exact inFlash
    rw [BitVec.add_zero] at laid
    rw [MinisysLayout.sidata, read_slice _ _ fits, laid,
      MinisysLayout.initialData]
  have length : (layout.initialData msbuffer).length =
      4 * layout.dataWords := by
    rw [← initial, length_read]
  have filled : (⟨MinisysLayout.sdata,
      (layout.initialData msbuffer).length⟩ : Extent) = layout.data := by
    rw [length, MinisysLayout.data]
  have copied := initData_copies (startMemory rom msbuffer).bytes ends
    (dataApart layout.sidata (4 * layout.dataWords) (by omega)
      (by omega)).symm enough
  rw [initial] at copied
  refine ⟨_, copied, ?_, ?_, ?_, ?_⟩
  · have stored := @read_write_self (startMemory rom msbuffer).bytes
      MinisysLayout.sdata (layout.initialData msbuffer)
      (by rw [length]; omega)
    rwa [length] at stored
  · intro address present absent
    rw [write_of_notMem (by rw [filled]; exact absent)]
    exact startMemory_ram romFits (Nat.le_of_eq whole) present
  · refine minisys.of_agreeOn (agreeOn_write ?_).symm
    rw [filled]
    exact dataApart minisysAddr msbuffer.length (by decide)
      (by rw [whole]; decide)
  · refine file.of_agreeOn (agreeOn_write ?_).symm
    rw [filled]
    exact dataApart appLoadAddress rom.length (by decide)
      (by change 0x30000000 + rom.length ≤ 2 ^ 32; omega)

/-- `.bss` is in RAM, behind `.data`. -/
theorem bss_inside (layout : MinisysLayout) :
    ∀ address ∈ layout.bssExtent, address ∈ ram ∧ address ∉ layout.data := by
  intro address present
  have inRam := layout.fitsRam
  have ramSize : ram.size = 0x04000000 := rfl
  have start : layout.edata.toNat = 0x10000000 + 4 * layout.dataWords := by
    rw [MinisysLayout.edata, MinisysLayout.sdata, ram]
    bv_omega
  rw [Extent.mem_iff, MinisysLayout.bssExtent] at present
  dsimp only at present
  rw [mem_ram_iff, Extent.mem_iff, MinisysLayout.data, MinisysLayout.sdata,
    ram]
  bv_omega

/-- A `DL_t` in `.bss` holds zeros. -/
theorem Ready.myDl (ready : Ready layout rom msbuffer memory) {p : Address}
    (inside : (⟨p, sizeofDl⟩ : Extent).Inside layout.bssExtent) :
    DL.ofMemory memory p = myDl := by
  have zeros : AgreeOn ⟨p, sizeofDl⟩ memory fun _ => 0 := by
    intro address present
    obtain ⟨inRam, notData⟩ := bss_inside layout address
      (inside address present)
    exact ready.blank address inRam notData
  have zero : ∀ q, loadWord (fun _ => 0) q = 0 :=
    fun q => loadWord_of_read (read_const 0 q 4)
  rw [DL.ofMemory_congr zeros, DL.ofMemory, CcdlHeader.ofMemory, zero, zero,
    zero, zero, zero, read_const, read_const]
  rfl

end Ready

/-! ## The application -/

section Application

variable {builtins : List (CString × Address)}
variable {application : ApplicationCall → Option (Memory × DL)}

/-- The call of the entry point. -/
def entryCall (code : CodePart) (linked : Memory) : ApplicationCall :=
  ⟨code.entryPoint, linked, myDl⟩

/-- When the loader comes to the entry point, that is the first call of
application code; once it has returned, `AppMain` is the second. -/
theorem start_of_enter {table : List (OsFunction Address)}
    {memory linked : Memory} {fileBytes entryPoint : Address}
    {fileSize : Word} {hdr : CcdlHeader}
    (entered : (ccdlToEntry table memory fileBytes).value =
      .enter entryPoint linked hdr) :
    (start table application memory fileBytes fileSize).trace.head? =
        some ⟨entryPoint, linked, myDl⟩ ∧
      ∀ after left appMain,
        application ⟨entryPoint, linked, myDl⟩ = some (after, left) →
          (dlGetProc table after ⟨fileBytes, fileSize, hdr⟩
            appMainName).value = .found appMain →
          (start table application memory fileBytes fileSize).trace =
            [⟨entryPoint, linked, myDl⟩,
              ⟨appMain, after, ⟨fileBytes, fileSize, hdr⟩⟩] := by
  unfold start ccdlFromMemory
  simp only [entered, Traced.trace_bind, Traced.value_bind]
  constructor
  · rfl
  · intro after left appMain returned found
    simp only [returned, Traced.trace_pure, Traced.value_pure, found,
      Int.lt_irrefl, if_false, List.append_nil, Traced.trace_bind]
    cases application _ <;> rfl

/-- What must not be overwritten when an application is loaded: the file,
miniSYS in flash, its data in RAM, and the stack. -/
def MinisysLayout.regions (layout : MinisysLayout) (fileSize : Nat) :
    List Extent :=
  [appFile fileSize, ⟨minisysAddr, 0x40000⟩,
    minisysData (4 * layout.dataWords + layout.bss), stack]

/-- The `DL_t` that loading the game fills. -/
def bootDl (parts : List FileSection) : DL :=
  writtenDl (appFile (encodeFile parts).length)
    (BitVec.ofNat 32 (encodeFile parts).length) parts

/-- What booting a written file comes to: `.data` is copied, the entry point
is called with the file linked and a blank `my_dl`; and if it returns with the
file unchanged, the `AppMain` that the file exports is called with the filled
one.  As long as the file is kept, everything in it is found through that
one. -/
structure Boots (builtins : List (CString × Address))
    (application : ApplicationCall → Option (Memory × DL))
    (layout : MinisysLayout) (parts : List FileSection) (code : CodePart)
    (msbuffer : List Byte) (ready linked : Memory) : Prop where
  dataCopied : Ready layout (encodeFile parts) msbuffer ready
  fileLinked : Linked builtins ready
    (layout.regions (encodeFile parts).length) parts code linked
  blankDl : ∀ p, (⟨p, sizeofDl⟩ : Extent).Inside layout.bssExtent →
    DL.ofMemory linked p = myDl
  entered : (start (terminated builtins 0) application ready appLoadAddress
      (BitVec.ofNat 32 (encodeFile parts).length)).trace.head? =
    some (entryCall code linked)
  appMain : ∀ after left symbol,
    application (entryCall code linked) = some (after, left) →
      AgreeOn (appFile (encodeFile parts).length) linked after →
      (symbolsOf parts sectionExport).find?
          (fun symbol => symbol.name = appMainName) = some symbol →
        (start (terminated builtins 0) application ready appLoadAddress
          (BitVec.ofNat 32 (encodeFile parts).length)).trace =
          [entryCall code linked, ⟨symbol.address, after, bootDl parts⟩]
  procs : ∀ later name,
    AgreeOn (appFile (encodeFile parts).length) linked later →
      (dlGetProc (terminated builtins 0) later (bootDl parts) name).value =
        match (symbolsOf parts sectionExport).find?
            (fun symbol => symbol.name = name) with
        | some symbol => .found symbol.address
        | none => ccosGetBuiltinProc (terminated builtins 0) name
  resources : ∀ later objects dl stack malloc unk4 name,
    AgreeOn (appFile (encodeFile parts).length) linked later →
      objects dl = bootDl parts →
        match (packOf parts).find?
            (fun resource => resource.name = name) with
        | some resource => ∃ res,
            (dlResOpen later stack malloc objects dl unk4 name).value =
                some (malloc sizeofDlRes, res) ∧
              Reads later objects res resource
        | none =>
            (dlResOpen later stack malloc objects dl unk4 name).value = none

/-- `.bss` is part of the data of miniSYS. -/
theorem bss_inside_minisysData (layout : MinisysLayout) :
    layout.bssExtent.Inside
      (minisysData (4 * layout.dataWords + layout.bss)) := by
  apply Extent.inside_of_offset
  apply Nat.add_le_add_right
  exact Nat.mod_le _ _

/-- A file that was written from sections which fit together boots, whatever
miniSYS is linked to look like. -/
theorem rom_boots (application : ApplicationCall → Option (Memory × DL))
    (layout : MinisysLayout) {parts : List FileSection} {code : CodePart}
    (fits : (encodeFile parts).length ≤ appMaxSize)
    (named : ∀ part ∈ parts, ∀ resource ∈ part.content.pack,
      resource.name.length < 500)
    (linkable : Linkable builtins
      (layout.regions (encodeFile parts).length) parts code)
    {msbuffer : List Byte} (whole : msbuffer.length = 0x40000) {fuel : Nat}
    (enough : layout.dataWords < fuel) :
    ∃ ready linked, initData layout.edata fuel
        (startMemory (encodeFile parts) msbuffer).bytes layout.sidata
        MinisysLayout.sdata = some ready ∧
      Boots builtins application layout parts code msbuffer ready
        linked := by
  obtain ⟨ready, copied, isReady⟩ := data_ready layout fits whole enough
  have app : appMaxSize = 0x04000000 := rfl
  have written : WrittenFile ready (appFile (encodeFile parts).length)
      parts := by
    refine ⟨isReady.file, ?_, named⟩
    change (encodeFile parts).length < 2 ^ 31
    omega
  have fileRegion : appFile (encodeFile parts).length ∈
      layout.regions (encodeFile parts).length := List.mem_cons_self
  have dataRegion : minisysData (4 * layout.dataWords + layout.bss) ∈
      layout.regions (encodeFile parts).length := by
    simp [MinisysLayout.regions]
  obtain ⟨linked, reached, links⟩ := written.links linkable fileRegion
  obtain ⟨first, later⟩ := @start_of_enter application _ _ _ _ _
    (BitVec.ofNat 32 (encodeFile parts).length) _ reached
  have fileKept := links.regionsKept _ fileRegion
  refine ⟨ready, linked, copied, isReady, links, ?_, first, ?_, ?_, ?_⟩
  · intro p inside
    rw [← isReady.myDl inside]
    apply DL.ofMemory_congr
    apply AgreeOn.symm
    exact (links.regionsKept _ dataRegion).mono
      (inside.trans (bss_inside_minisysData layout))
  · intro after left symbol returned kept exported
    refine later after left symbol.address returned ?_
    have found := written.proc (fileKept.trans kept)
      (BitVec.ofNat 32 (encodeFile parts).length) (terminated builtins 0)
      appMainName
    rw [exported] at found
    exact found
  · exact fun later name kept => written.proc (fileKept.trans kept) _ _ name
  · exact fun later objects dl stack malloc unk4 name kept filled =>
      written.resource (fileKept.trans kept) filled stack malloc unk4 name

/-- A small miniSYS: four instructions, one word of `.data` and a `.bss` of 64
bytes. -/
def sampleLayout : MinisysLayout where
  text := 16
  dataWords := 1
  bss := 64
  fitsFlash := by decide
  fitsRam := by decide

def sampleCodePart : CodePart where
  entryPoint := 0x10100000
  loadAddress := 0x10100000
  bytes := [0xE1A00000, 0xE12FFF1E].flatMap wordBytes

theorem sampleParts_linkable :
    Linkable [(mallocName, 0x20000400)] (sampleLayout.regions 797)
      sampleParts sampleCodePart where
  found := by rfl
  codeApart := by
    have apart : ∀ region ∈ sampleLayout.regions 797,
        (⟨sampleCodePart.loadAddress, sampleCodePart.bytes.length⟩ :
          Extent).Separate region := by decide
    exact fun region present => (apart region present).disjoint
  slotsApart := by
    have apart : ∀ region ∈ sampleLayout.regions 797,
        ∀ symbol ∈ symbolsOf sampleParts sectionImport,
          (slot symbol).Separate region := by decide
    exact fun region present symbol imported =>
      (apart region present symbol imported).disjoint
  slotsPairwise := List.pairwise_singleton _ _
  builtin := by decide

/-- An application whose entry point returns at once. -/
def returning (call : ApplicationCall) : Option (Memory × DL) :=
  some (call.memory, call.dlOut)

/-- An image of it, with the initial value of that word. -/
def sampleMsbuffer : List Byte :=
  List.replicate 16 0 ++ ([1, 2, 3, 4] ++ List.replicate 0x3FFEC 0)

theorem length_sampleMsbuffer : sampleMsbuffer.length = 0x40000 := by
  simp only [sampleMsbuffer, List.length_append, List.length_replicate]
  rfl

theorem rom_boots_sample : ∃ ready linked,
    read ready MinisysLayout.sdata 4 = [1, 2, 3, 4] ∧
      DL.ofMemory linked 0x10000004 = myDl ∧
      (start (terminated [(mallocName, 0x20000400)] 0) returning ready
          appLoadAddress 797).trace.map ApplicationCall.address =
        [0x10100000, 0x10100004] ∧
      (dlGetProc (terminated [(mallocName, 0x20000400)] 0) linked
        (bootDl sampleParts) mallocName).value = .found 0x20000400 := by
  have length := length_sampleParts
  have linkable := sampleParts_linkable
  rw [← length] at linkable
  obtain ⟨ready, linked, _, boots⟩ := rom_boots returning sampleLayout
    (by rw [length]; decide) (by decide) linkable length_sampleMsbuffer
    (show sampleLayout.dataWords < 2 by decide)
  have calls := boots.appMain linked myDl ⟨appMainName, 0x10100004⟩ rfl
    (AgreeOn.refl _ _) (by decide)
  rw [length] at calls
  refine ⟨ready, linked, boots.dataCopied.data, ?_, ?_, ?_⟩
  · exact boots.blankDl _ (Extent.inside_of_start (by decide))
  · rw [show (797 : Word) = BitVec.ofNat 32 797 from rfl, calls]
    rfl
  · exact boots.procs linked mallocName (AgreeOn.refl _ _)

end Application

end Host
end GA330
