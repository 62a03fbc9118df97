import GA330.Dl.Link
import GA330.Dl.Resources

/-!
# Starting the application

`_start` of `minisys.c` loads the file into `my_dl` and calls `AppMain`; the
loader has called the entry point before it filled `my_dl`.  Application code
reaches `my_dl` through `GetDLHandle` and `get_dl_handle`.  The lookups that it
makes from the entry point see the zeroed `my_dl`, and so agree with the later
ones only for names that neither of them finds in the file.
-/

namespace GA330
namespace Minisys

open ByteMemory Dl

/-- `my_dl` before anything is stored in it. -/
def myDl : DL where
  fileBytes := 0
  fileSize := 0
  hdr := {
    sign := [0, 0, 0, 0]
    version := 0
    unk8 := 0
    numSections := 0
    unk16 := List.replicate 16 0 }

/-- How `_start` ends. -/
inductive StartResult
  | panic
  | overrun
  | notReturned
  | finished (memory : Memory)

/-- `_start`, once it has initialised `.data`.  The calls of application code
are recorded. -/
def start (table : List (OsFunction Address))
    (application : ApplicationCall → Option (Memory × DL))
    (memory : Memory) (fileBytes : Address) (fileSize : Word) :
    Traced ApplicationCall StartResult := do
  let rc ← ccdlFromMemory table application memory myDl fileBytes fileSize
  match rc with
  | .panic _ _ => return .panic
  | .overrun _ _ => return .overrun
  | .notReturned => return .notReturned
  | .returned code after dl =>
      if code < 0 then
        return .panic
      match (dlGetProc table after dl appMainName).value with
      | .panic => return .panic
      | .overrun => return .overrun
      | .found appMain =>
          let call : ApplicationCall := ⟨appMain, after, dl⟩
          let result ← ⟨application call, [call]⟩
          match result with
          | none => return .notReturned
          | some (final, _) => return .finished final

/-- `GetDLHandle` -/
def getDLHandle (addressOfMyDl : Address) : Address := addressOfMyDl

/-- `get_dl_handle` -/
def get_dl_handle (addressOfMyDl : Address) : Address := addressOfMyDl

/-- When `_start` makes two calls, the first is made by the loader with the
zeroed `my_dl` and the second with the filled one. -/
theorem start_calls {table : List (OsFunction Address)}
    {application : ApplicationCall → Option (Memory × DL)}
    {memory : Memory} {fileBytes : Address} {fileSize : Word}
    {entryCall appMainCall : ApplicationCall}
    (calls : (start table application memory fileBytes fileSize).trace =
      [entryCall, appMainCall]) :
    (ccdlToEntry table memory fileBytes).value =
        .enter entryCall.address entryCall.memory
          (CcdlHeader.ofMemory memory fileBytes) ∧
      entryCall.dlOut = myDl ∧
      (∃ dl, application entryCall = some (appMainCall.memory, dl)) ∧
      appMainCall.dlOut =
        ⟨fileBytes, fileSize, CcdlHeader.ofMemory memory fileBytes⟩ := by
  unfold start ccdlFromMemory at calls
  cases outcome : (ccdlToEntry table memory fileBytes).value with
  | generalError _ => simp [outcome, generalError] at calls
  | panic _ => simp [outcome] at calls
  | overrun _ => simp [outcome] at calls
  | enter entryPoint linked hdr =>
      obtain rfl := (ccdlToEntry_enter outcome).1
      simp only [outcome, Traced.trace_bind, Traced.value_bind] at calls
      cases called : application ⟨entryPoint, linked, myDl⟩ with
      | none => simp [called] at calls
      | some result =>
          simp only [called, Traced.trace_pure, Traced.value_pure,
            List.append_nil, Int.lt_irrefl, if_false,
            List.singleton_append, List.cons.injEq] at calls
          obtain ⟨rfl, rest⟩ := calls
          refine ⟨rfl, rfl, ?_⟩
          cases found : (dlGetProc table result.1
              ⟨fileBytes, fileSize, CcdlHeader.ofMemory memory fileBytes⟩
              appMainName).value with
          | panic => simp [found] at rest
          | overrun => simp [found] at rest
          | found appMain =>
              simp only [found, Traced.trace_bind] at rest
              split at rest <;>
              · simp only [Traced.trace_pure, List.append_nil,
                  List.cons.injEq, and_true] at rest
                subst rest
                exact ⟨⟨result.2, called⟩, rfl⟩

/-! ## Lookups from application code -/

/-- A moment at which application code looks something up: the file and
`my_dl`, whose address is `handle`, are as they were when the code was
called. -/
structure Moment (file : Extent) (handle : Address)
    (call : ApplicationCall) where
  memory : Memory
  objects : Address → DL
  stack : Nat → Byte
  malloc : Word → Address
  fileKept : AgreeOn file call.memory memory
  handleKept : objects handle = call.dlOut

section Lookups

variable {file : Extent} {handle : Address} {call : ApplicationCall}

/-- Offset and size of what `dl_res_open(get_dl_handle(), name)` finds. -/
def Moment.resource (moment : Moment file handle call) (unk4 : Word)
    (name : CString) : Option (Word × Word) :=
  (dlResOpen moment.memory moment.stack moment.malloc moment.objects
    (get_dl_handle handle) unk4 name).value.map fun opened =>
      (opened.2.currentFileOffset, dlResGetSize opened.2)

/-- What `dl_get_proc(GetDLHandle(), name)` comes to. -/
def Moment.proc (table : List (OsFunction Address))
    (moment : Moment file handle call) (name : CString) : Lookup Address :=
  (dlGetProc table moment.memory (moment.objects (getDLHandle handle))
    name).value

/-- With the zeroed `my_dl` no resource is found. -/
theorem Moment.resource_of_zeroed (moment : Moment file handle call)
    (zeroed : call.dlOut = myDl) (unk4 : Word) (name : CString) :
    moment.resource unk4 name = none := by
  have kept : moment.objects handle = myDl := moment.handleKept.trans zeroed
  rw [Moment.resource, get_dl_handle, dlResOpen_value, kept]
  rfl

/-- With the zeroed `my_dl` only builtins are found. -/
theorem Moment.proc_of_zeroed (table : List (OsFunction Address))
    (moment : Moment file handle call) (zeroed : call.dlOut = myDl)
    (name : CString) :
    moment.proc table name = ccosGetBuiltinProc table name := by
  have kept : moment.objects handle = myDl := moment.handleKept.trans zeroed
  rw [Moment.proc, getDLHandle, kept]
  rfl

end Lookups

/-- A file whose tables lie inside it and whose resource names are
terminated. -/
structure WellFormedFile (memory : Memory) (file : Extent) : Prop
    extends FileReadable memory file where
  small : file.size < 2 ^ 32
  named : ∀ ent ∈ Dl.resources memory file.start, ent.Terminated
  apart : WritesApart memory file.start file

/-- The address that a file exports under a name. -/
def exportedAddress (memory : Memory) (fileBytes : Address)
    (name : CString) : Option Address :=
  ((exports memory fileBytes).find?
    fun symbol => symbol.name = name).map Symbol.address

section Filled

variable {memory : Memory} {file : Extent} {handle : Address}
variable {call : ApplicationCall} {fileSize : Word}

/-- With the filled `my_dl` the resources of the file are found. -/
theorem Moment.resource_of_filled (wellFormed : WellFormedFile memory file)
    (moment : Moment file handle call)
    (agree : AgreeOn file memory call.memory)
    (filled : call.dlOut =
      ⟨file.start, fileSize, CcdlHeader.ofMemory memory file.start⟩)
    (unk4 : Word) (name : CString) :
    moment.resource unk4 name =
      (resourceSection memory file.start).bind fun shdr =>
        ((resourceEntries memory (file.start + shdr.offset)).find?
          fun ent => ent.name = name).map fun ent =>
            (shdr.offset + ent.offset, ent.size) := by
  have opened := dlResOpen_described (agree.trans moment.fileKept)
    wellFormed.sections wellFormed.resources
    (moment.handleKept.trans filled) moment.stack moment.malloc unk4 name
  rw [Moment.resource, get_dl_handle, opened]
  cases located : resourceSection memory file.start with
  | none => rw [Option.bind_none, Option.bind_none, Option.map_none]
  | some shdr =>
      have terminated : ∀ ent ∈ resourceEntries memory
          (file.start + shdr.offset), ent.Terminated := by
        intro ent present
        apply wellFormed.named
        rw [Dl.resources, located]
        exact present
      rw [Option.bind_some, Option.bind_some,
        find?_isNamed terminated, Option.map_map]
      rfl

/-- With the filled `my_dl` the exports of the file are found first. -/
theorem Moment.proc_of_filled (table : List (OsFunction Address))
    (wellFormed : WellFormedFile memory file)
    (moment : Moment file handle call)
    (agree : AgreeOn file memory call.memory)
    (filled : call.dlOut =
      ⟨file.start, fileSize, CcdlHeader.ofMemory memory file.start⟩)
    (name : CString) :
    moment.proc table name =
      match exportedAddress memory file.start name with
      | some address => .found address
      | none => ccosGetBuiltinProc table name := by
  obtain ⟨readable, same⟩ := exports_described wellFormed.small
    wellFormed.sections wellFormed.exports (agree.trans moment.fileKept)
    (moment.handleKept.trans filled)
  rw [Moment.proc, getDLHandle,
    dlGetProc_value table wellFormed.small readable, same, exportedAddress]
  cases (exports memory file.start).find?
    (fun symbol => symbol.name = name) <;> rfl

end Filled

/-- The file is unchanged when `AppMain` is called. -/
theorem start_fileKept {table : List (OsFunction Address)}
    {application : ApplicationCall → Option (Memory × DL)}
    {memory : Memory} {file : Extent} {fileSize : Word}
    {entryCall appMainCall : ApplicationCall}
    (wellFormed : WellFormedFile memory file)
    (calls : (start table application memory file.start fileSize).trace =
      [entryCall, appMainCall])
    (fileKept : ∀ call after dl, application call = some (after, dl) →
      AgreeOn file call.memory after) :
    AgreeOn file memory appMainCall.memory := by
  obtain ⟨entered, _, ⟨_, returned⟩, _⟩ := start_calls calls
  have atEntry : AgreeOn file memory entryCall.memory :=
    ccdlToEntry_agreeOn wellFormed.small wellFormed.toLoaderReadable
      wellFormed.apart wellFormed.apart entered
  exact atEntry.trans (fileKept _ _ _ returned)

theorem exportedAddress_of_mem {memory : Memory} {fileBytes : Address}
    {symbol : Symbol} (present : symbol ∈ exports memory fileBytes) :
    ∃ address, exportedAddress memory fileBytes symbol.name =
      some address := by
  rw [exportedAddress]
  cases search : (exports memory fileBytes).find?
      (fun other => other.name = symbol.name) with
  | none => simpa using List.find?_eq_none.mp search symbol present
  | some found => exact ⟨found.address, rfl⟩

/-- A resource section finds nothing under any name exactly when there are no
resources. -/
theorem resources_eq_nil_iff (memory : Memory) (fileBytes : Address) :
    Dl.resources memory fileBytes = [] ↔
      ∀ name : CString,
        ((resourceSection memory fileBytes).bind fun shdr =>
          ((resourceEntries memory (fileBytes + shdr.offset)).find?
            fun ent => ent.name = name).map fun ent =>
              (shdr.offset + ent.offset, ent.size)) = none := by
  rw [Dl.resources]
  cases resourceSection memory fileBytes with
  | none => simp
  | some shdr =>
      dsimp only [Option.bind_some]
      constructor
      · intro empty name
        rw [empty]
        rfl
      · intro missed
        cases entries : resourceEntries memory
            (fileBytes + shdr.offset) with
        | nil => rfl
        | cons ent rest =>
            have here := missed ent.name
            rw [entries, List.find?_cons_of_pos (by simp)] at here
            contradiction

/-- The lookups that the entry point can make agree with those that `AppMain`
makes later exactly when the file holds no resources and every name that it
exports is also a builtin with the same address. -/
theorem lookups_agree_iff {table : List (OsFunction Address)}
    {application : ApplicationCall → Option (Memory × DL)}
    {memory : Memory} {file : Extent} {fileSize : Word}
    {entryCall appMainCall : ApplicationCall} {handle : Address}
    (wellFormed : WellFormedFile memory file)
    (calls : (start table application memory file.start fileSize).trace =
      [entryCall, appMainCall])
    (fileKept : ∀ call after dl, application call = some (after, dl) →
      AgreeOn file call.memory after)
    (during : Moment file handle entryCall)
    (later : Moment file handle appMainCall) :
    ((∀ unk4 name, during.resource unk4 name = later.resource unk4 name) ∧
        ∀ symbol ∈ exports memory file.start,
          during.proc table symbol.name = later.proc table symbol.name) ↔
      Dl.resources memory file.start = [] ∧
        ∀ symbol ∈ exports memory file.start, ∃ address,
          exportedAddress memory file.start symbol.name = some address ∧
            ccosGetBuiltinProc table symbol.name = .found address := by
  obtain ⟨_, zeroed, _, filled⟩ := start_calls calls
  have atAppMain := start_fileKept wellFormed calls fileKept
  have resourceLater := later.resource_of_filled wellFormed atAppMain filled
  have procLater := later.proc_of_filled table wellFormed atAppMain filled
  simp only [during.resource_of_zeroed zeroed,
    during.proc_of_zeroed table zeroed, resourceLater, procLater]
  rw [resources_eq_nil_iff]
  constructor
  · rintro ⟨resourcesAgree, procsAgree⟩
    refine ⟨fun name => (resourcesAgree 0 name).symm, ?_⟩
    intro symbol present
    obtain ⟨address, exported⟩ := exportedAddress_of_mem present
    have resolved := procsAgree symbol present
    rw [exported] at resolved
    exact ⟨address, exported, resolved⟩
  · rintro ⟨empty, builtins⟩
    refine ⟨fun _ name => (empty name).symm, ?_⟩
    intro symbol present
    obtain ⟨address, exported, found⟩ := builtins symbol present
    rw [exported, found]

/-! ## The sample file -/

theorem sampleFile_wellFormed :
    WellFormedFile sampleFile sampleExtent where
  toFileReadable := sampleFile_fileReadable
  small := by decide
  named := by
    intro ent present
    change ent ∈ Dl.resources sampleFile 0x30000000 at present
    rw [Dl.resources, resourceSection, sampleFile_sectionCount,
      sampleFile_resourceSection] at present
    exact terminated_of_described sampleFile_pack.entries present
  apart := sampleFile_writesApart
    (Extent.disjoint_of_end_le (by decide) (by decide))

/-- An application whose calls return at once. -/
def idle (call : ApplicationCall) : Option (Memory × DL) :=
  some (call.memory, call.dlOut)

/-- The calls that starting the sample file with the idle application makes. -/
def sampleStart : List ApplicationCall :=
  (start (terminated [(mallocName, 0x20000400)] 0) idle sampleFile 0x30000000
    763).trace

theorem sampleStart_calls : ∃ entryCall appMainCall,
    sampleStart = [entryCall, appMainCall] := by
  have length : sampleStart.length = 2 := by decide +kernel
  exact List.length_eq_two.mp length

/-- The moment at which an application call begins. -/
def Moment.ofCall (file : Extent) (call : ApplicationCall) :
    Moment file 0x10000000 call where
  memory := call.memory
  objects := fun _ => call.dlOut
  stack := fun _ => 0
  malloc := fun _ => 0x10200000
  fileKept := AgreeOn.refl file call.memory
  handleKept := rfl

theorem idle_fileKept (file : Extent) :
    ∀ call after dl, idle call = some (after, dl) →
      AgreeOn file call.memory after := by
  intro call after dl returned
  cases returned
  exact AgreeOn.refl file call.memory

theorem lookups_agree_iff_sample : ∃ entryCall appMainCall,
    sampleStart = [entryCall, appMainCall] ∧
      ¬ ((∀ unk4 name,
          (Moment.ofCall sampleExtent entryCall).resource unk4 name =
            (Moment.ofCall sampleExtent appMainCall).resource unk4 name) ∧
        ∀ symbol ∈ exports sampleFile 0x30000000,
          (Moment.ofCall sampleExtent entryCall).proc
              (terminated [(mallocName, 0x20000400)] 0) symbol.name =
            (Moment.ofCall sampleExtent appMainCall).proc
              (terminated [(mallocName, 0x20000400)] 0) symbol.name) := by
  obtain ⟨entryCall, appMainCall, calls⟩ := sampleStart_calls
  refine ⟨entryCall, appMainCall, calls, fun agree => ?_⟩
  obtain ⟨empty, _⟩ := (lookups_agree_iff sampleFile_wellFormed calls
    (idle_fileKept sampleExtent) (Moment.ofCall sampleExtent entryCall)
    (Moment.ofCall sampleExtent appMainCall)).mp agree
  have one : (Dl.resources sampleFile 0x30000000).length = 1 := by
    decide +kernel
  change Dl.resources sampleFile 0x30000000 = [] at empty
  rw [empty, List.length_nil] at one
  exact absurd one Nat.zero_ne_one

/-- The sample file's resource is there for `AppMain` but not for the entry
point. -/
theorem resource_missed_at_entry :
    ¬ ∀ (table : List (OsFunction Address))
      (application : ApplicationCall → Option (Memory × DL))
      (memory : Memory) (file : Extent) (fileSize : Word)
      (entryCall appMainCall : ApplicationCall) (handle : Address),
      WellFormedFile memory file →
        (start table application memory file.start fileSize).trace =
            [entryCall, appMainCall] →
          (∀ call after dl, application call = some (after, dl) →
            AgreeOn file call.memory after) →
            ∀ (during : Moment file handle entryCall)
              (later : Moment file handle appMainCall) (unk4 : Word)
              (name : CString),
              during.resource unk4 name = later.resource unk4 name := by
  intro claimed
  obtain ⟨entryCall, appMainCall, calls⟩ := sampleStart_calls
  obtain ⟨_, zeroed, _, filled⟩ := start_calls calls
  have agree := claimed _ _ _ sampleExtent _ _ _ _ sampleFile_wellFormed
    calls (idle_fileKept sampleExtent)
    (Moment.ofCall sampleExtent entryCall)
    (Moment.ofCall sampleExtent appMainCall) 0 sampleResource.name
  have kept : AgreeOn sampleExtent sampleFile appMainCall.memory :=
    start_fileKept sampleFile_wellFormed calls (idle_fileKept sampleExtent)
  rw [Moment.resource_of_zeroed _ zeroed,
    Moment.resource_of_filled sampleFile_wellFormed _ kept filled,
    sampleFile_pack.located, Option.bind_some] at agree
  have found : ((resourceEntries sampleFile (0x30000000 + 248)).find?
      fun ent => ent.name = sampleResource.name).isSome = true := by
    decide +kernel
  obtain ⟨ent, search⟩ := Option.isSome_iff_exists.mp found
  change none = Option.map _
    ((resourceEntries sampleFile (0x30000000 + 248)).find? _) at agree
  rw [search, Option.map_some] at agree
  exact Option.some_ne_none _ agree.symm

end Minisys
end GA330
