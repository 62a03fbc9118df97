import Mathlib.Data.List.Nodup
import Mathlib.Data.List.TakeWhile
import GA330.Thunks.Generator

/-!
# The generated OS function table

The loop of the generator gives every row the number of EMU rows before it.
From that one description of the loop follow the contents of the three files:
one table row for each CSV row, one definition for each identifier that miniSYS
does not define itself, and a table on which the linear search agrees with the
CSV.
-/

namespace GA330
namespace Thunks

open ByteMemory Minisys

/-- A row of the CSV with a known handler type. -/
structure ApiRow where
  name : String
  type : HandlerType
  origin : String
  prototype : String
  deriving DecidableEq

/-- The fields that the CSV reader delivers. -/
def ApiRow.fields (row : ApiRow) : List String :=
  [row.name, row.type.name, row.origin, row.prototype]

/-- The C identifier that the row's table entry refers to. -/
def ApiRow.cName (row : ApiRow) : String :=
  Thunks.cName row.type row.name

/-- The row's handler on the host. -/
def ApiRow.handler (row : ApiRow) : String := "Svc_" ++ row.name

/-- Characters of a C identifier after the first. -/
def identifierCharacter (character : Char) : Bool :=
  character.isAlphanum || character == '_'

/-- A C identifier: a letter or underscore, then letters, digits and
underscores. -/
def isCIdentifier (name : String) : Bool :=
  match name.toList with
  | [] => false
  | first :: rest =>
      (first.isAlpha || first == '_') && rest.all identifierCharacter

/-- Rows that the generator is meant for. -/
structure ApiCsv (declared : String → String) where
  rows : List ApiRow
  identifiers : ∀ row ∈ rows, isCIdentifier row.name = true
  distinct : (rows.map ApiRow.name).Nodup
  notStub : ∀ row ∈ rows, ¬ "stub_".toList <+: row.name.toList
  prototypes : ∀ row ∈ rows, row.type = .emu →
    row.prototype ≠ "" ∧ declared row.prototype = row.name

/-- Number of EMU rows. -/
def emuCount (rows : List ApiRow) : Nat :=
  rows.countP fun row => row.type = .emu

/-! ## What the loop computes -/

/-- Each row with the value of `next_svc` when the loop reaches it. -/
def numbered (nextSvc : Nat) : List ApiRow → List (Nat × ApiRow)
  | [] => []
  | row :: rest =>
      (nextSvc, row) ::
        numbered (if row.type = .emu then nextSvc + 1 else nextSvc) rest

/-- The row's `Entry`. -/
def ApiRow.entry (numberedRow : Nat × ApiRow) : Entry where
  index := numberedRow.1
  name := numberedRow.2.name
  cName := numberedRow.2.cName
  type := numberedRow.2.type

/-- The row's thunks. -/
def ApiRow.thunks (numberedRow : Nat × ApiRow) : List MinisysItem :=
  minisysThunks numberedRow.2.type numberedRow.2.name
    numberedRow.2.prototype numberedRow.1

/-- The row's declarations in `thunks.h`. -/
def ApiRow.declarations (row : ApiRow) : List HeaderItem :=
  if declInMinisys row.type then [.declaration row.cName] else []

/-- The row's declarations in `svc_handlers.cpp`. -/
def ApiRow.nativeDeclarations (row : ApiRow) : List NativeItem :=
  if row.type ∈ [HandlerType.emu] then [.declaration row.handler] else []

@[simp] theorem numbered_map_snd (nextSvc : Nat) (rows : List ApiRow) :
    (numbered nextSvc rows).map Prod.snd = rows := by
  induction rows generalizing nextSvc with
  | nil => rfl
  | cons row rest inductionHypothesis =>
      simp [numbered, inductionHypothesis]

/-- A row after a prefix of the CSV is numbered by the EMU rows of that
prefix. -/
theorem mem_numbered_of_split (nextSvc : Nat) (before after : List ApiRow)
    (row : ApiRow) :
    (nextSvc + emuCount before, row) ∈
      numbered nextSvc (before ++ row :: after) := by
  induction before generalizing nextSvc with
  | nil => simp [numbered, emuCount]
  | cons first before inductionHypothesis =>
      rw [List.cons_append, numbered, List.mem_cons]
      right
      have here := inductionHypothesis
        (if first.type = .emu then nextSvc + 1 else nextSvc)
      by_cases emu : first.type = .emu
      · simp only [emu, if_true] at here ⊢
        rw [show nextSvc + emuCount (first :: before) =
            nextSvc + 1 + emuCount before by
          simp [emuCount, emu]
          omega]
        exact here
      · simp only [emu, if_false] at here ⊢
        rw [show emuCount (first :: before) = emuCount before by
          simp [emuCount, emu]]
        exact here

/-- The loop appends each row's items to the files and counts the EMU
rows. -/
theorem foldlM_processRow (state : Emission) (rows : List ApiRow)
    (prototypes : ∀ row ∈ rows, row.type = .emu → row.prototype ≠ "") :
    (rows.map ApiRow.fields).foldlM processRow state = .ok {
      nextSvc := state.nextSvc + emuCount rows
      all := state.all ++ (numbered state.nextSvc rows).map ApiRow.entry
      mcf := state.mcf ++ (numbered state.nextSvc rows).flatMap ApiRow.thunks
      mhf := state.mhf ++ rows.flatMap ApiRow.declarations
      nf := state.nf ++ rows.flatMap ApiRow.nativeDeclarations } := by
  induction rows generalizing state with
  | nil =>
      simp [numbered, emuCount]
      rfl
  | cons row rest inductionHypothesis =>
      have assertion : ¬ (row.type = .emu ∧ row.prototype = "") := by
        rintro ⟨emu, empty⟩
        exact prototypes row (by simp) emu empty
      rw [List.map_cons, List.foldlM_cons, ApiRow.fields, processRow,
        HandlerType.ofName_name]
      simp only [assertion, if_false]
      refine (inductionHypothesis _ fun later present =>
        prototypes later (List.mem_cons_of_mem row present)).trans ?_
      congr 2
      · by_cases emu : row.type = .emu
        · simp [emuCount, emu]
          omega
        · simp [emuCount, emu]
      · simp [numbered, ApiRow.entry, ApiRow.cName]
      · simp [numbered, ApiRow.thunks]
      · simp [ApiRow.declarations, ApiRow.cName]
      · simp [ApiRow.nativeDeclarations, ApiRow.handler]

/-- The three files for well-formed rows. -/
def output (rows : List ApiRow) : Output where
  minisysC := .preamble ::
    (numbered 0 rows).flatMap ApiRow.thunks ++
      [.osFunctionTable
        (rows.map (fun row => .function row.name row.cName) ++ [.sentinel])]
  minisysH := .preamble :: rows.flatMap ApiRow.declarations ++ [.externTable]
  native := .preamble :: rows.flatMap ApiRow.nativeDeclarations ++
    [.svcHandlerTable
      ((rows.filter fun row => row.type = .emu).map ApiRow.handler)]

/-- Names and identifiers of the entries do not depend on the numbers. -/
theorem tableRows_numbered (nextSvc : Nat) (rows : List ApiRow) :
    tableRows ((numbered nextSvc rows).map ApiRow.entry) =
      rows.map (fun row => .function row.name row.cName) ++ [.sentinel] := by
  have names := congrArg
    (List.map fun row : ApiRow => TableRow.function row.name row.cName)
    (numbered_map_snd nextSvc rows)
  rw [List.map_map] at names
  rw [tableRows, List.map_map, ← names]
  rfl

/-- The handler table lists the EMU rows in order. -/
theorem handlerNames_numbered (nextSvc : Nat) (rows : List ApiRow) :
    handlerNames ((numbered nextSvc rows).map ApiRow.entry) =
      (rows.filter fun row => row.type = .emu).map ApiRow.handler := by
  induction rows generalizing nextSvc with
  | nil => rfl
  | cons row rest inductionHypothesis =>
      have tail := inductionHypothesis
        (if row.type = .emu then nextSvc + 1 else nextSvc)
      unfold handlerNames at tail ⊢
      by_cases emu : row.type = .emu
      · simp only [emu, if_true] at tail
        simpa [numbered, ApiRow.entry, ApiRow.handler, emu] using tail
      · simp only [emu, if_false] at tail
        simpa [numbered, ApiRow.entry, emu] using tail

/-- The script succeeds on well-formed rows and writes `output`. -/
theorem makeThunks_eq {declared : String → String} (csv : ApiCsv declared)
    (heading : List String) :
    makeThunks (heading :: csv.rows.map ApiRow.fields) =
      .ok (output csv.rows) := by
  rw [makeThunks, foldlM_processRow]
  · simp only [Emission.start, List.nil_append, Nat.zero_add]
    change Except.ok (Emission.finish _) = Except.ok (output csv.rows)
    simp only [Emission.finish, tableRows_numbered, handlerNames_numbered,
      output, List.cons_append, List.nil_append]
  · intro row present emu
    exact (csv.prototypes row present emu).1

/-! ## Identifiers -/

/-- A generated stub's identifier begins with `stub_`; every other row keeps
its name. -/
theorem ApiRow.cName_eq (row : ApiRow) :
    row.cName =
      if stubInMinisys row.type then "stub_" ++ row.name else row.name :=
  rfl

/-- Two rows with the same identifier have the same name. -/
theorem ApiCsv.name_eq_of_cName_eq {declared : String → String}
    (csv : ApiCsv declared) {left right : ApiRow}
    (leftRow : left ∈ csv.rows) (rightRow : right ∈ csv.rows)
    (equal : left.cName = right.cName) : left.name = right.name := by
  rw [ApiRow.cName_eq, ApiRow.cName_eq] at equal
  have characters := congrArg String.toList equal
  by_cases leftStub : stubInMinisys left.type
  · by_cases rightStub : stubInMinisys right.type
    · simp only [leftStub, rightStub, if_true, String.toList_append,
        List.append_cancel_left_eq] at characters
      exact String.toList_inj.mp characters
    · exfalso
      simp only [leftStub, rightStub, if_true, Bool.false_eq_true, if_false,
        String.toList_append] at characters
      exact csv.notStub right rightRow ⟨left.name.toList, characters⟩
  · by_cases rightStub : stubInMinisys right.type
    · exfalso
      simp only [leftStub, rightStub, if_true, Bool.false_eq_true, if_false,
        String.toList_append] at characters
      exact csv.notStub left leftRow ⟨right.name.toList, characters.symm⟩
    · simpa [leftStub, rightStub] using equal

/-- Distinct rows refer to distinct identifiers. -/
theorem ApiCsv.cName_nodup {declared : String → String}
    (csv : ApiCsv declared) : (csv.rows.map ApiRow.cName).Nodup := by
  have rowsNodup : csv.rows.Nodup := List.Nodup.of_map _ csv.distinct
  refine (List.nodup_map_iff_inj_on rowsNodup).mpr ?_
  intro left leftRow right rightRow equal
  exact List.inj_on_of_nodup_map csv.distinct leftRow rightRow
    (csv.name_eq_of_cName_eq leftRow rightRow equal)

/-- A row's thunks define its identifier once, or nothing for MINISYS. -/
theorem defined_thunks {declared : String → String} (csv : ApiCsv declared)
    {row : ApiRow} (present : row ∈ csv.rows) (nextSvc : Nat) :
    (ApiRow.thunks (nextSvc, row)).map (MinisysItem.defined declared) =
      if row.type = .minisys then [] else [some row.cName] := by
  cases type : row.type with
  | emu =>
      simp [ApiRow.thunks, minisysThunks, type, MinisysItem.defined,
        ApiRow.cName, cName, stubInMinisys,
        (csv.prototypes row present type).2]
  | abort | noop | minisys | stub | stubDummyAlloc =>
      simp [ApiRow.thunks, minisysThunks, type, MinisysItem.defined,
        minisysProto, declInMinisys, ApiRow.cName]

/-- The identifiers that the thunks define, in order: those of all rows but
the MINISYS ones. -/
theorem defined_flatMap_thunks {declared : String → String}
    (csv : ApiCsv declared) {rows : List ApiRow}
    (subset : ∀ row ∈ rows, row ∈ csv.rows) (nextSvc : Nat) :
    ((numbered nextSvc rows).flatMap ApiRow.thunks).map
        (MinisysItem.defined declared) =
      (rows.filter fun row => row.type ≠ .minisys).map
        fun row => some row.cName := by
  induction rows generalizing nextSvc with
  | nil => rfl
  | cons row rest inductionHypothesis =>
      rw [numbered, List.flatMap_cons, List.map_append,
        defined_thunks csv (subset row (by simp)),
        inductionHypothesis fun later present =>
          subset later (List.mem_cons_of_mem row present)]
      by_cases minisys : row.type = .minisys
      · simp [minisys]
      · simp [minisys]

/-- How often the thunks define the identifier of a row. -/
theorem count_defined_thunks {declared : String → String}
    (csv : ApiCsv declared) {row : ApiRow} (present : row ∈ csv.rows) :
    (((numbered 0 csv.rows).flatMap ApiRow.thunks).map
        (MinisysItem.defined declared)).count (some row.cName) =
      if row.type = .minisys then 0 else 1 := by
  rw [defined_flatMap_thunks csv fun _ => id]
  have namesNodup : ((csv.rows.filter fun row => row.type ≠ .minisys).map
      fun row => some row.cName).Nodup := by
    have cNames := csv.cName_nodup.map (Option.some_injective String)
    rw [List.map_map] at cNames
    exact cNames.sublist (List.filter_sublist.map _)
  rw [namesNodup.count]
  by_cases minisys : row.type = .minisys
  · rw [if_pos minisys, if_neg]
    intro member
    obtain ⟨other, otherRow, equal⟩ := List.mem_map.mp member
    rw [List.mem_filter] at otherRow
    have same : other = row :=
      List.inj_on_of_nodup_map csv.cName_nodup otherRow.1 present
        (Option.some.inj equal)
    simp [same, minisys] at otherRow
  · rw [if_neg minisys, if_pos]
    exact List.mem_map.mpr
      ⟨row, List.mem_filter.mpr ⟨present, by simpa using minisys⟩, rfl⟩

/-! ## The table and its search -/

/-- The byte of an ASCII character. -/
def characterByte (character : Char) : Byte :=
  BitVec.ofNat 8 character.toNat

/-- The C string of a string literal without escapes. -/
def literal (text : String) : CString where
  bytes := (text.toList.map characterByte).takeWhile (· ≠ 0)
  nulFree := fun member => by simpa using List.mem_takeWhile_imp member

/-- A row of the table as the compiler sees it: the C string of the literal
and the identifier whose address is taken. -/
def TableRow.osFunction : TableRow → OsFunction (Option String)
  | .function name cName => ⟨some (literal name), some cName⟩
  | .sentinel => OsFunction.sentinel none

/-- `os_function_table`; the null address is `none`. -/
def Output.osFunctionTable (output : Output) :
    List (OsFunction (Option String)) :=
  output.tableRows.map TableRow.osFunction

theorem toNat_lt_of_identifierCharacter {character : Char}
    (valid : identifierCharacter character = true) :
    0 < character.toNat ∧ character.toNat < 128 := by
  rw [identifierCharacter, Bool.or_eq_true, beq_iff_eq] at valid
  rcases valid with alphanumeric | underscore
  · change ((character.isUpper || character.isLower) ||
      character.isDigit) = true at alphanumeric
    rw [Bool.or_eq_true, Bool.or_eq_true] at alphanumeric
    rcases alphanumeric with (upper | lower) | digit
    · have bounds : 65 ≤ character.toNat ∧ character.toNat ≤ 90 :=
        of_decide_eq_true upper
      omega
    · change (decide (97 ≤ character.toNat) &&
        decide (character.toNat ≤ 122)) = true at lower
      rw [Bool.and_eq_true, decide_eq_true_eq, decide_eq_true_eq] at lower
      omega
    · have bounds := Char.isDigit_iff_toNat.mp digit
      change 48 ≤ character.toNat ∧ character.toNat ≤ 57 at bounds
      omega
  · subst underscore
    decide

theorem isCIdentifier_characters {name : String}
    (identifier : isCIdentifier name = true) :
    ∀ character ∈ name.toList, identifierCharacter character = true := by
  unfold isCIdentifier at identifier
  intro character present
  split at identifier
  · contradiction
  · rename_i first rest characters
    rw [Bool.and_eq_true, List.all_eq_true] at identifier
    rw [characters, List.mem_cons] at present
    cases present with
    | inl isFirst =>
        subst isFirst
        rw [identifierCharacter, Char.isAlphanum, Bool.or_assoc,
          Bool.or_comm character.isDigit, ← Bool.or_assoc, identifier.1,
          Bool.true_or]
    | inr inRest => exact identifier.2 character inRest

/-- The literal of an identifier has one byte for each character. -/
theorem literal_bytes {name : String}
    (identifier : isCIdentifier name = true) :
    (literal name).bytes = name.toList.map characterByte := by
  change (name.toList.map characterByte).takeWhile (· ≠ 0) = _
  rw [List.takeWhile_eq_self_iff]
  intro byte present
  obtain ⟨character, member, rfl⟩ := List.mem_map.mp present
  have bounds := toNat_lt_of_identifierCharacter
    (isCIdentifier_characters identifier character member)
  rw [decide_eq_true_eq]
  intro zero
  have value := congrArg BitVec.toNat zero
  simp only [characterByte, BitVec.ofNat_eq_ofNat,
    BitVec.toNat_ofNat] at value
  omega

/-- Identifiers with the same literal are equal. -/
theorem literal_injective {left right : String}
    (leftIdentifier : isCIdentifier left = true)
    (rightIdentifier : isCIdentifier right = true)
    (equal : literal left = literal right) : left = right := by
  have bytes := congrArg CString.bytes equal
  rw [literal_bytes leftIdentifier, literal_bytes rightIdentifier] at bytes
  have characters : ∀ name, isCIdentifier name = true →
      (name.toList.map characterByte).map
        (fun byte => Char.ofNat byte.toNat) = name.toList := by
    intro name identifier
    rw [List.map_map]
    conv => rhs; rw [← List.map_id name.toList]
    apply List.map_congr_left
    intro character present
    have bounds := toNat_lt_of_identifierCharacter
      (isCIdentifier_characters identifier character present)
    rw [Function.comp_apply, characterByte, BitVec.toNat_ofNat,
      Nat.mod_eq_of_lt (by omega), Char.ofNat_toNat, id]
  apply String.toList_inj.mp
  rw [← characters left leftIdentifier, bytes,
    characters right rightIdentifier]

theorem tableRows_output (rows : List ApiRow) :
    (output rows).tableRows =
      rows.map (fun row => .function row.name row.cName) ++ [.sentinel] := by
  have thunks : ((numbered 0 rows).flatMap ApiRow.thunks).flatMap
      MinisysItem.tableRows = [] := by
    rw [List.flatMap_eq_nil_iff]
    intro item present
    obtain ⟨⟨nextSvc, row⟩, _, inThunks⟩ := List.mem_flatMap.mp present
    cases type : row.type <;>
      simp [ApiRow.thunks, minisysThunks, type] at inThunks <;>
      simp [inThunks, MinisysItem.tableRows]
  rw [Output.tableRows, output, List.flatMap_append, List.flatMap_cons,
    thunks]
  simp [MinisysItem.tableRows]

/-- The generated table is terminated, so the search ends at a row or at the
sentinel. -/
theorem osFunctionTable_output (rows : List ApiRow) :
    (output rows).osFunctionTable =
      terminated (rows.map fun row => (literal row.name, some row.cName))
        none := by
  simp [Output.osFunctionTable, tableRows_output, TableRow.osFunction,
    terminated, Function.comp_def]

theorem declarations_output (rows : List ApiRow) :
    (output rows).declarations =
      (rows.filter fun row => declInMinisys row.type).map ApiRow.cName := by
  have body : (rows.flatMap ApiRow.declarations).filterMap
      HeaderItem.declared =
      (rows.filter fun row => declInMinisys row.type).map
        ApiRow.cName := by
    induction rows with
    | nil => rfl
    | cons row rest inductionHypothesis =>
        rw [List.flatMap_cons, List.filterMap_append, inductionHypothesis]
        by_cases declared : declInMinisys row.type
        · simp [ApiRow.declarations, HeaderItem.declared, declared]
        · simp [ApiRow.declarations, declared]
  rw [Output.declarations, output, List.filterMap_append,
    List.filterMap_cons, body]
  simp [HeaderItem.declared]

/-- The search finds a row exactly by its name. -/
theorem ccosGetBuiltinProc_output {declared : String → String}
    (csv : ApiCsv declared) {row : ApiRow} (present : row ∈ csv.rows)
    (name : CString) :
    ccosGetBuiltinProc (output csv.rows).osFunctionTable name =
        .found (some row.cName) ↔
      name = literal row.name := by
  rw [osFunctionTable_output, ccosGetBuiltinProc_terminated, List.find?_map]
  cases search : csv.rows.find?
      ((fun found => decide (found.1 = name)) ∘
        fun row => (literal row.name, some row.cName)) with
  | none =>
      have absent := List.find?_eq_none.mp search row present
      simp only [Function.comp_apply, decide_eq_true_eq] at absent
      simp [Ne.symm absent]
  | some found =>
      have foundRow := List.mem_of_find?_eq_some search
      have foundName := List.find?_some search
      simp only [Function.comp_apply, decide_eq_true_eq] at foundName
      simp only [Option.map_some, Lookup.found.injEq, Option.some.injEq]
      constructor
      · intro equal
        have same : found = row :=
          List.inj_on_of_nodup_map csv.cName_nodup foundRow present equal
        rw [← foundName, same]
      · intro equal
        have names : found.name = row.name :=
          literal_injective (csv.identifiers found foundRow)
            (csv.identifiers row present) (foundName.trans equal)
        have same : found = row :=
          List.inj_on_of_nodup_map csv.distinct foundRow present names
        rw [same]

/-- The search panics exactly on names of no row. -/
theorem ccosGetBuiltinProc_output_panic (rows : List ApiRow)
    (name : CString) :
    ccosGetBuiltinProc (output rows).osFunctionTable name = .panic ↔
      ∀ row ∈ rows, name ≠ literal row.name := by
  rw [osFunctionTable_output, ccosGetBuiltinProc_terminated, List.find?_map]
  cases search : rows.find?
      ((fun found => decide (found.1 = name)) ∘
        fun row => (literal row.name, some row.cName)) with
  | none =>
      simp only [Option.map_none, true_iff]
      intro row present equal
      have absent := List.find?_eq_none.mp search row present
      simp [equal] at absent
  | some found =>
      have foundRow := List.mem_of_find?_eq_some search
      have foundName := List.find?_some search
      simp only [Function.comp_apply, decide_eq_true_eq] at foundName
      simp only [Option.map_some, reduceCtorEq, false_iff]
      intro absent
      exact absent found foundRow foundName.symm

/-- What it means for the generated files to be closed: the table has one row
for each CSV row, every identifier in it is defined where it should be, and
the search on it agrees with the CSV. -/
structure ClosedTable (declared : String → String) (rows : List ApiRow)
    (output : Output) : Prop where
  /-- One row for each CSV row, in order, and the sentinel. -/
  tableRows : output.tableRows =
    rows.map (fun row => .function row.name row.cName) ++ [.sentinel]
  /-- Identifiers of generated functions are defined once in `thunks.c`. -/
  definedOnce : ∀ row ∈ rows, row.type ≠ .minisys →
    (output.minisysC.map (MinisysItem.defined declared)).count
      (some row.cName) = 1
  /-- Identifiers of miniSYS functions are not defined there. -/
  notDefined : ∀ row ∈ rows, row.type = .minisys →
    (output.minisysC.map (MinisysItem.defined declared)).count
      (some row.cName) = 0
  /-- Distinct rows refer to distinct identifiers. -/
  distinct : (rows.map ApiRow.cName).Nodup
  /-- Generic prototypes are those of the generated stubs. -/
  declarations : output.declarations =
    (rows.filter fun row =>
      row.type ∈ [HandlerType.abort, .noop, .stub, .stubDummyAlloc]).map
        ApiRow.cName
  /-- The search never runs past the table. -/
  terminates : ∀ name,
    ccosGetBuiltinProc output.osFunctionTable name ≠ .overrun
  /-- It returns a row's identifier exactly for the row's name. -/
  resolves : ∀ row ∈ rows, ∀ name,
    ccosGetBuiltinProc output.osFunctionTable name =
      .found (some row.cName) ↔ name = literal row.name
  /-- It panics exactly on names of no row. -/
  panics : ∀ name,
    ccosGetBuiltinProc output.osFunctionTable name = .panic ↔
      ∀ row ∈ rows, name ≠ literal row.name

/-- An identifier is that of the table when an EMU or a MINISYS row has the
table's name; the other rows refer to stubs. -/
theorem ApiRow.cName_eq_table_iff (row : ApiRow) :
    row.cName = "os_function_table" ↔
      (row.type = .emu ∨ row.type = .minisys) ∧
        row.name = "os_function_table" := by
  have stub : "stub_" ++ row.name ≠ "os_function_table" := by
    intro equal
    have first := congrArg (fun text => text.toList.head?) equal
    simp [String.toList_append] at first
  rw [ApiRow.cName_eq]
  cases row.type <;> simp [stubInMinisys, stub]

/-- How often `thunks.c` defines the identifier of a row: the table adds a
definition of its own name. -/
theorem count_defined_output {declared : String → String}
    (csv : ApiCsv declared) {row : ApiRow} (present : row ∈ csv.rows) :
    ((output csv.rows).minisysC.map
        (MinisysItem.defined declared)).count (some row.cName) =
      (if row.type = .minisys then 0 else 1) +
        if row.cName = "os_function_table" then 1 else 0 := by
  have table : ([some "os_function_table"] : List (Option String)).count
      (some row.cName) = if row.cName = "os_function_table" then 1 else 0 := by
    by_cases taken : row.cName = "os_function_table"
    · simp [taken]
    · simp [taken, Ne.symm taken]
  rw [← count_defined_thunks csv present, ← table]
  simp [output, MinisysItem.defined]

/-- The generator's files are closed exactly for a CSV without an EMU or a
MINISYS row of the name that the generator gives to the table. -/
theorem makeThunks_closed_iff {declared : String → String}
    (csv : ApiCsv declared) (heading : List String) :
    (∃ files,
        makeThunks (heading :: csv.rows.map ApiRow.fields) = .ok files ∧
          ClosedTable declared csv.rows files) ↔
      ∀ row ∈ csv.rows, row.type = .emu ∨ row.type = .minisys →
        row.name ≠ "os_function_table" := by
  have definitions := @count_defined_output declared csv
  constructor
  · rintro ⟨files, generated, closed⟩ row present kind named
    rw [makeThunks_eq csv heading] at generated
    cases generated
    have taken := (ApiRow.cName_eq_table_iff row).mpr ⟨kind, named⟩
    have counted := definitions present
    rw [if_pos taken] at counted
    rcases kind with emu | minisys
    · have once := closed.definedOnce row present (by rw [emu]; decide)
      rw [once, if_neg (by rw [emu]; decide)] at counted
      contradiction
    · have absent := closed.notDefined row present minisys
      rw [absent, if_pos minisys] at counted
      contradiction
  · intro notTable
    have spared : ∀ row ∈ csv.rows, row.cName ≠ "os_function_table" := by
      intro row present taken
      obtain ⟨kind, named⟩ := (ApiRow.cName_eq_table_iff row).mp taken
      exact notTable row present kind named
    refine ⟨output csv.rows, makeThunks_eq csv heading, ?_⟩
    exact {
      tableRows := tableRows_output csv.rows
      definedOnce := by
        intro row present generated
        rw [definitions present, if_neg generated,
          if_neg (spared row present)]
      notDefined := by
        intro row present minisys
        rw [definitions present, if_pos minisys, if_neg (spared row present)]
      distinct := csv.cName_nodup
      declarations := by
        rw [declarations_output]
        congr 2
        funext row
        cases row.type <;> rfl
      terminates := by
        intro name
        rw [osFunctionTable_output]
        exact ccosGetBuiltinProc_terminated_ne_overrun _ _ name
      resolves := fun row present name =>
        ccosGetBuiltinProc_output csv present name
      panics := ccosGetBuiltinProc_output_panic csv.rows }

/-- The identifier before the first parenthesis of a prototype. -/
def declaratorName (prototype : String) : String :=
  String.ofList
    ((prototype.toList.takeWhile (· ≠ '(')).reverse.takeWhile
      identifierCharacter).reverse

/-- A CSV with a row of every kind. -/
def sampleCsv : ApiCsv declaratorName where
  rows := [
    ⟨"abort", .abort, "", ""⟩,
    ⟨"consoleEnable", .noop, "", ""⟩,
    ⟨"GemeiEmu_fclose", .emu, "", "void GemeiEmu_fclose(int file)"⟩,
    ⟨"malloc", .minisys, "", ""⟩,
    ⟨"cmGetSysModel", .stub, "", ""⟩,
    ⟨"OSSemCreate", .stubDummyAlloc, "", ""⟩,
    ⟨"GemeiEmu_newFrame", .emu, "", "void GemeiEmu_newFrame(void)"⟩]
  identifiers := by decide
  distinct := by decide
  notStub := by decide
  prototypes := by decide

/-- A CSV whose only row is a miniSYS function with the table's own name. -/
def tableNameCsv : ApiCsv declaratorName where
  rows := [⟨"os_function_table", .minisys, "", ""⟩]
  identifiers := by decide
  distinct := by decide
  notStub := by decide
  prototypes := by decide

/-- There the identifier of a MINISYS row is defined in `thunks.c` after all:
it is the table. -/
theorem tableName_not_closed :
    ∃ files, makeThunks ([] :: tableNameCsv.rows.map ApiRow.fields) =
        .ok files ∧
      ¬ ClosedTable declaratorName tableNameCsv.rows files := by
  refine ⟨output tableNameCsv.rows, makeThunks_eq tableNameCsv [], ?_⟩
  intro closed
  have absent := closed.notDefined
    ⟨"os_function_table", .minisys, "", ""⟩ (by decide) rfl
  revert absent
  decide

end Thunks
end GA330
