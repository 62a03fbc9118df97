import GA330.Host.Afresh
import GA330.Host.Arm
import GA330.Library.Placement
import GA330.Minisys.Layout

/-!
# The memory that a game starts in

The calls with which `load_rom` sets an engine up map six regions, which are
apart, and store miniSYS and the game in two of them.  The emulator library is
a parameter; what its documentation says of these calls is that they succeed
when the regions are whole pages that are not mapped yet and the permissions
are known ones, and that new memory holds zeros.  So the set-up never fails,
and memory is known byte by byte when the guest is started.
-/

namespace GA330
namespace Host

open ByteMemory Minisys

/-! ## What the calls do -/

namespace GuestMemory

/-- A new engine maps nothing. -/
def unmapped : GuestMemory := ⟨fun _ => 0, fun _ => false⟩

/-- Memory with one more region, which holds zeros. -/
def withRegion (memory : GuestMemory) (region : Extent) : GuestMemory where
  bytes := fun address =>
    if address ∈ region then 0 else memory.bytes address
  mapped := fun address =>
    decide (address ∈ region) || memory.mapped address

/-- What is not mapped reads as zero. -/
def Blank (memory : GuestMemory) : Prop :=
  ∀ address, memory.mapped address = false → memory.bytes address = 0

/-- A range of which every address is mapped can be accessed. -/
theorem rangeMapped_of_forall {memory : GuestMemory} {start : Address}
    {count : Nat} (noWrap : start.toNat + count ≤ 2 ^ 32)
    (mapped : ∀ address ∈ (⟨start, count⟩ : Extent),
      memory.mapped address = true) :
    memory.rangeMapped start count = true := by
  rw [rangeMapped, Bool.and_eq_true, decide_eq_true_eq, List.all_eq_true]
  refine ⟨noWrap, fun index present => mapped _ ?_⟩
  exact mem_extent_of_lt (List.mem_range.mp present)

/-- Memory with these bytes in which the regions are mapped. -/
def ofRegions (bytes : Memory) (regions : List Extent) : GuestMemory where
  bytes := bytes
  mapped := fun address =>
    regions.any fun region => decide (address ∈ region)

/-- New memory in a blank place changes no byte. -/
theorem Blank.withRegion_ofRegions {bytes : Memory} {regions : List Extent}
    {region : Extent} (blank : (ofRegions bytes regions).Blank)
    (free : ∀ address ∈ region,
      (ofRegions bytes regions).mapped address = false) :
    (ofRegions bytes regions).withRegion region =
      ofRegions bytes (region :: regions) := by
  rw [ofRegions, withRegion, mk.injEq]
  constructor
  · funext address
    by_cases inside : address ∈ region
    · rw [if_pos inside]
      exact (blank address (free address inside)).symm
    · rw [if_neg inside]
      rfl
  · funext address
    simp only [ofRegions, List.any_cons]

theorem Blank.withRegion {memory : GuestMemory} {region : Extent}
    (blank : memory.Blank) : (memory.withRegion region).Blank := by
  intro address absent
  simp only [GuestMemory.withRegion, Bool.or_eq_false_iff,
    decide_eq_false_iff_not] at absent ⊢
  rw [if_neg absent.1]
  exact blank address absent.2

/-- Storing bytes in a mapped range keeps the rest blank. -/
theorem Blank.stored {memory after : GuestMemory} {start : Address}
    {bytes : List Byte} (blank : memory.Blank)
    (stored : memory.ucMemWrite start bytes = some after) :
    after.Blank := by
  unfold ucMemWrite at stored
  split at stored
  · rename_i range
    cases stored
    intro address absent
    rw [← blank address absent]
    apply write_of_notMem
    intro inside
    rw [rangeMapped, Bool.and_eq_true, List.all_eq_true] at range
    have present := range.2 _ (List.mem_range.mpr inside)
    rw [BitVec.ofNat_toNat, BitVec.setWidth_eq] at present
    rw [show start + (address - start) = address by bv_omega] at present
    exact Bool.false_ne_true (absent.symm.trans present)
  · contradiction

end GuestMemory

/-- The region is made of whole pages. -/
def WholePages (region : Extent) : Prop :=
  0 < region.size ∧ region.start.toNat % 4096 = 0 ∧
    region.size % 4096 = 0 ∧ region.NoWrap

instance (region : Extent) : Decidable (WholePages region) :=
  inferInstanceAs (Decidable (_ ∧ _ ∧ _ ∧ _))

/-- What a call that succeeds does to memory, according to the documentation
of the emulator library. -/
inductive CallEffect : GuestMemory → UcCall → GuestMemory → Prop
  | memMap {memory : GuestMemory} {address : Address} {size perms : Nat}
      (pages : WholePages ⟨address, size⟩) (known : perms ≤ ucProtAll)
      (free : ∀ other ∈ (⟨address, size⟩ : Extent),
        memory.mapped other = false) :
      CallEffect memory (.memMap address size perms)
        (memory.withRegion ⟨address, size⟩)
  | memWrite {memory after : GuestMemory} {address : Address}
      {bytes : List Byte}
      (stored : memory.ucMemWrite address bytes = some after) :
      CallEffect memory (.memWrite address bytes) after
  | hookMemInvalid {memory : GuestMemory} :
      CallEffect memory .hookMemInvalid memory
  | hookIntr {memory : GuestMemory} : CallEffect memory .hookIntr memory

/-- What calls that succeed do one after the other. -/
inductive CallEffects : GuestMemory → List UcCall → GuestMemory → Prop
  | nil {memory : GuestMemory} : CallEffects memory [] memory
  | cons {before between after : GuestMemory} {call : UcCall}
      {rest : List UcCall} (first : CallEffect before call between)
      (others : CallEffects between rest after) :
      CallEffects before (call :: rest) after

/-- An emulator library that behaves as documented.  An odd address in PC is
not read back as it was written. -/
structure Documented {Engine : Type u} (emulator : Emulator Engine) :
    Prop where
  opened : ∀ engine, emulator.ucOpen = .ok engine →
    emulator.memory engine = .unmapped
  performs : ∀ engine call after,
    CallEffect (emulator.memory engine) call after →
      (emulator.perform engine call).1 = ucErrOk ∧
        emulator.memory (emulator.perform engine call).2 = after
  registers : ∀ engine register value,
    (register = .pc → value.toNat % 2 = 0) →
      emulator.registers (emulator.regWrite engine register value) =
        Function.update (emulator.registers engine) register.index value
  memory : ∀ engine register value,
    emulator.memory (emulator.regWrite engine register value) =
      emulator.memory engine

/-- Calls that have an effect all succeed, and have that effect. -/
theorem setUp_of_effects {Engine : Type u} {emulator : Emulator Engine}
    (documented : Documented emulator) (host : Nat → HostAnswer)
    (files : FileState) {calls : List (UcCall × Bool)}
    {state : Hosted Engine} {after : GuestMemory}
    (effects : CallEffects (emulator.memory state.engine)
      (calls.map Prod.fst) after) :
    ∃ engine, setUp (hosted emulator host files) calls state =
        (true, { state with engine := engine }) ∧
      emulator.memory engine = after := by
  induction calls generalizing state with
  | nil =>
      cases effects
      exact ⟨state.engine, rfl, rfl⟩
  | cons entry rest inductionHypothesis =>
      obtain ⟨call, checked⟩ := entry
      cases effects with
      | cons first others =>
          obtain ⟨succeeded, effect⟩ :=
            documented.performs state.engine call _ first
          rw [← effect] at others
          obtain ⟨engine, ended, left⟩ := @inductionHypothesis
            { state with
              engine := (emulator.perform state.engine call).2 } others
          refine ⟨engine, ?_, left⟩
          rw [setUp]
          simp only [hosted, succeeded, bne_self_eq_false, Bool.and_false,
            Bool.false_eq_true, if_false]
          exact ended

/-! ## The six regions -/

/-- The frame buffer. -/
def framebuf : Extent := ⟨framebufAddr, 0x26000⟩

/-- What `load_rom` maps, the last region first. -/
def startRegions : List Extent :=
  [⟨0x04088000, 0x1000⟩, ⟨appLoadAddress, appMaxSize⟩, framebuf, ram, stack,
    ⟨minisysAddr, 0x40000⟩]

/-- Memory when the guest is started. -/
def startMemory (rom msbuffer : List Byte) : GuestMemory :=
  .ofRegions (write (write (fun _ => 0) minisysAddr msbuffer) appLoadAddress
    rom) startRegions

section Start

variable {memory : GuestMemory} {bytes : Memory} {regions : List Extent}

/-- Mapping a region apart from those that are mapped. -/
theorem mapEffect {address : Address} {size perms : Nat}
    (known : perms ≤ ucProtAll)
    (blank : (GuestMemory.ofRegions bytes regions).Blank)
    (pages : WholePages ⟨address, size⟩)
    (apart : ∀ region ∈ regions,
      (⟨address, size⟩ : Extent).Separate region) :
    CallEffect (.ofRegions bytes regions) (.memMap address size perms)
        (.ofRegions bytes (⟨address, size⟩ :: regions)) ∧
      (GuestMemory.ofRegions bytes (⟨address, size⟩ :: regions)).Blank := by
  have free : ∀ other ∈ (⟨address, size⟩ : Extent),
      (GuestMemory.ofRegions bytes regions).mapped other = false := by
    intro other inside
    rw [GuestMemory.ofRegions, List.any_eq_false]
    intro region present
    simpa using (apart region present).disjoint other inside
  rw [← blank.withRegion_ofRegions free]
  exact ⟨.memMap pages known free, blank.withRegion⟩

/-- Storing bytes in a region that is mapped. -/
theorem writeEffect {address : Address} {stored : List Byte}
    {region : Extent} (blank : (GuestMemory.ofRegions bytes regions).Blank)
    (present : region ∈ regions) (noWrap : region.NoWrap)
    (start : address = region.start) (fits : stored.length ≤ region.size) :
    CallEffect (.ofRegions bytes regions) (.memWrite address stored)
        (.ofRegions (write bytes address stored) regions) ∧
      (GuestMemory.ofRegions (write bytes address stored) regions).Blank := by
  subst start
  have range : (GuestMemory.ofRegions bytes regions).rangeMapped
      region.start stored.length = true := by
    apply GuestMemory.rangeMapped_of_forall
    · exact (Nat.add_le_add_left fits _).trans noWrap
    · intro other inside
      rw [GuestMemory.ofRegions, List.any_eq_true]
      exact ⟨region, present, decide_eq_true
        (Extent.inside_of_le fits other inside)⟩
  have effect : (GuestMemory.ofRegions bytes regions).ucMemWrite region.start
      stored = some (.ofRegions (write bytes region.start stored)
        regions) :=
    if_pos range
  exact ⟨.memWrite effect, blank.stored effect⟩

/-- The set-up calls succeed one after the other. -/
theorem setupCalls_effects {rom msbuffer : List Byte}
    (romFits : rom.length ≤ appMaxSize)
    (minisysFits : msbuffer.length ≤ 0x40000) :
    CallEffects .unmapped ((setupCalls rom msbuffer).map Prod.fst)
      (startMemory rom msbuffer) := by
  have blank : (GuestMemory.ofRegions (fun _ => 0) []).Blank :=
    fun _ _ => rfl
  obtain ⟨mapMinisys, blank⟩ := @mapEffect _ _ minisysAddr 0x40000 7
    (by decide) blank (by decide) (by decide)
  obtain ⟨writeMinisys, blank⟩ := writeEffect blank
    (List.mem_singleton_self _) (by decide) rfl minisysFits
  obtain ⟨mapStack, blank⟩ := @mapEffect _ _ 0x1FF00000 0x00100000 3
    (by decide) blank (by decide) (by decide)
  obtain ⟨mapRam, blank⟩ := @mapEffect _ _ 0x10000000 0x04000000 7
    (by decide) blank (by decide) (by decide)
  obtain ⟨mapFramebuf, blank⟩ := @mapEffect _ _ framebufAddr 0x26000 2
    (by decide) blank (by decide) (by decide)
  obtain ⟨mapApp, blank⟩ := @mapEffect _ _ appLoadAddress appMaxSize 7
    (by decide) blank (by decide) (by decide)
  obtain ⟨writeApp, blank⟩ := writeEffect blank List.mem_cons_self
    (by decide) rfl romFits
  obtain ⟨mapOther, _⟩ := @mapEffect _ _ 0x04088000 0x1000 3
    (by decide) blank (by decide) (by decide)
  exact .cons mapMinisys (.cons writeMinisys (.cons mapStack (.cons mapRam
    (.cons mapFramebuf (.cons mapApp (.cons writeApp (.cons mapOther
      (.cons .hookMemInvalid (.cons .hookIntr .nil)))))))))

end Start

/-! ## The start of the guest -/

/-- Where the guest is started: at the beginning of miniSYS, with the arguments
of `_start` and an empty stack. -/
structure StartsGuest {Engine : Type u} (emulator : Emulator Engine)
    (rom msbuffer : List Byte) (engine : Engine) : Prop where
  memory : emulator.memory engine = startMemory rom msbuffer
  fileBytes : emulator.registers engine UcRegister.r0.index = appLoadAddress
  fileSize : emulator.registers engine UcRegister.r1.index =
    BitVec.ofNat 32 rom.length
  stack : emulator.registers engine UcRegister.sp.index = 0x20000000
  program : emulator.registers engine UcRegister.pc.index = minisysAddr

/-- With a library that behaves as documented, no set-up call of `load_rom`
fails, and the guest is started in memory that holds the two files and zeros;
what the handlers keep is left alone. -/
theorem guest_started {Engine : Type u} {emulator : Emulator Engine}
    (documented : Documented emulator) {opened : Engine}
    (opens : emulator.ucOpen = .ok opened) {rom msbuffer : List Byte}
    (romFits : rom.length ≤ appMaxSize)
    (whole : msbuffer.length = 0x40000) (host : Nat → HostAnswer)
    (files : FileState) :
    ∃ start, emulationStart (hosted emulator host files) rom msbuffer =
        some start ∧
      start.files = files ∧ StartsGuest emulator rom msbuffer
        start.engine := by
  have others : ∀ register : UcRegister, register ≠ .pc →
      ∀ engine value,
        emulator.registers (emulator.regWrite engine register value) =
          Function.update (emulator.registers engine) register.index
            value :=
    fun register other engine value => documented.registers engine register
      value fun program => absurd program other
  have effects := setupCalls_effects romFits (Nat.le_of_eq whole)
  rw [← documented.opened opened opens] at effects
  obtain ⟨engine, succeeded, memory⟩ :=
    @setUp_of_effects _ _ documented host files _ ⟨opened, files, 0, []⟩ _
      effects
  refine ⟨⟨emulator.regWrite (emulator.regWrite (emulator.regWrite
    (emulator.regWrite engine .sp 0x20000000) .r0 0x30000000) .r1
    (BitVec.ofNat 32 rom.length)) .pc minisysAddr, files, 0, []⟩, ?_, rfl,
    ?_⟩
  · have isOpen : (hosted emulator host files).ucOpen =
        .ok ⟨opened, files, 0, []⟩ := by
      simp only [hosted, opens]
    rw [emulationStart, isOpen]
    simp only [succeeded]
    rfl
  · constructor
    · simp only [documented.memory, memory]
    all_goals
      simp only [documented.registers _ .pc minisysAddr (fun _ => rfl),
        others .r0 (by decide), others .r1 (by decide),
        others .sp (by decide)]
      rfl

/-! ## An engine without a guest -/

/-- Registers and memory. -/
structure BareEngine where
  registers : Registers
  memory : GuestMemory

/-- A library whose engines are set up as documented: it refuses what is
mapped with unknown permissions, and clears the lowest bit of PC.  There is no
guest code. -/
def bareEmulator : Emulator BareEngine where
  ucOpen := .ok ⟨fun _ => 0, .unmapped⟩
  perform engine call :=
    match call with
    | .memMap address size perms =>
        if WholePages ⟨address, size⟩ ∧ perms ≤ ucProtAll then
          (ucErrOk, { engine with
            memory := engine.memory.withRegion ⟨address, size⟩ })
        else (15, engine)
    | .memWrite address bytes =>
        match engine.memory.ucMemWrite address bytes with
        | some memory => (ucErrOk, { engine with memory := memory })
        | none => (7, engine)
    | _ => (ucErrOk, engine)
  registers := BareEngine.registers
  regWrite engine register value :=
    { engine with
      registers := Function.update engine.registers register.index
        (if register = .pc then value - value % 2 else value) }
  memory := BareEngine.memory
  resume := fun _ => none

theorem bareEmulator_documented : Documented bareEmulator where
  opened := by
    rintro _ ⟨⟩
    rfl
  performs := by
    intro engine call after effect
    cases effect with
    | memMap pages known free =>
        simp only [bareEmulator, if_pos (And.intro pages known)]
        exact ⟨trivial, trivial⟩
    | memWrite stored =>
        have known : engine.memory.ucMemWrite _ _ = some after := stored
        simp only [bareEmulator, known]
        exact ⟨trivial, trivial⟩
    | hookMemInvalid => exact ⟨rfl, rfl⟩
    | hookIntr => exact ⟨rfl, rfl⟩
  registers := by
    intro engine register value even
    change Function.update engine.registers register.index _ = _
    split
    · rename_i program
      have remainder : value % 2 = 0 :=
        BitVec.eq_of_toNat_eq (even program)
      rw [remainder, show value - 0 = value from BitVec.sub_zero value]
      rfl
    · rfl
  memory := fun _ _ _ => rfl

theorem guest_started_bare : ∃ start,
    emulationStart (hosted bareEmulator idleHost
        ⟨Filesystem.initial fun _ => none, ⟨0, fun _ => 0⟩⟩) [1, 2, 3]
        (List.replicate 0x40000 0) = some start ∧
      (bareEmulator.memory start.engine).mapped 0 = false := by
  obtain ⟨start, started, _, starts⟩ := guest_started
    bareEmulator_documented (show bareEmulator.ucOpen = .ok _ from rfl)
    (show [1, 2, 3].length ≤ appMaxSize by decide)
    (show (List.replicate 0x40000 (0 : Byte)).length = 0x40000 from
      List.length_replicate) idleHost
    ⟨Filesystem.initial fun _ => none, ⟨0, fun _ => 0⟩⟩
  refine ⟨start, started, ?_⟩
  rw [starts.memory]
  rfl

end Host
end GA330
