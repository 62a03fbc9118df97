import GA330.Minisys.Builtins

/-!
# The thunk generator

`make-thunks.py` turns the rows of `api.csv` into three C files: `thunks.c` and
`thunks.h` for miniSYS and `svc_handlers.cpp` for the host.  Each `write` of
the script is an item here; `text` gives the characters it writes.  What an
item defines as C is read off its structure, with one thing left to the reader
of the C declaration in the CSV: the identifier that a prototype declares.
-/

namespace GA330
namespace Thunks

open Minisys

/-- `Type`, the handler column of the CSV. -/
inductive HandlerType
  | abort
  | emu
  | noop
  | minisys
  | stub
  | stubDummyAlloc
  deriving DecidableEq

/-- The name of an enumeration member. -/
def HandlerType.name : HandlerType → String
  | .abort => "ABORT"
  | .emu => "EMU"
  | .noop => "NOOP"
  | .minisys => "MINISYS"
  | .stub => "STUB"
  | .stubDummyAlloc => "STUB_DUMMY_ALLOC"

/-- `Type[type]`; an unknown name is a `KeyError`. -/
def HandlerType.ofName (name : String) : Option HandlerType :=
  [.abort, .emu, .noop, .minisys, .stub, .stubDummyAlloc].find?
    (fun type => type.name = name)

@[simp] theorem HandlerType.ofName_name (type : HandlerType) :
    HandlerType.ofName type.name = some type := by
  cases type <;> rfl

/-- `Entry`, kept in `all_`. -/
structure Entry where
  index : Nat
  name : String
  cName : String
  type : HandlerType
  deriving DecidableEq

/-- Exceptions that end the script. -/
inductive ScriptError
  | stopIteration
  | unpack (fields : Nat)
  | keyError (type : String)
  | assertion
  deriving DecidableEq

/-! ## What the script writes -/

/-- `minisys_proto` of a C name; formatting `None` gives its name. -/
def minisysProtoText : Option String → String
  | some cName => "int " ++ cName ++
      "(int arg1, int arg2, int arg3, int arg4)"
  | none => "None"

/-- Bodies of the generated stubs. -/
inductive StubBody
  | unimplemented (name : String)
  | trace (name : String)
  | traceAlloc (name : String)
  | nothing
  deriving DecidableEq

/-- The statements of a stub. -/
def StubBody.text : StubBody → String
  | .unimplemented name =>
      "    ccos_panic(\"Unimplemented call " ++ name ++ "\");\n"
  | .trace name =>
      "    ccos_trace_stub(" ++ name ++ ");\n    return 0xCCCCCCCC;\n"
  | .traceAlloc name =>
      "    ccos_trace_stub(" ++ name ++ ");\n    return (int) malloc(1);\n"
  | .nothing => "    return 0xCCCCCCCC;\n"

/-- A row written to `os_function_table`. -/
inductive TableRow
  | function (name cName : String)
  | sentinel
  deriving DecidableEq

/-- The initialiser of a row. -/
def TableRow.text : TableRow → String
  | .function name cName => "    \x7b\"" ++ name ++
      "\", (int (*)(int,  int,  int,  int)) &" ++ cName ++ "\x7d,\n"
  | .sentinel => "    \x7b0, 0\x7d,\n"

/-- An item of `thunks.c`. -/
inductive MinisysItem
  | preamble
  | stub (minisysProto : Option String) (body : StubBody)
  | naked (prototype : String) (svc : Nat)
  | osFunctionTable (rows : List TableRow)
  deriving DecidableEq

/-- The characters of an item of `thunks.c`. -/
def MinisysItem.text : MinisysItem → String
  | .preamble =>
      "/* GENERATED FILE, DO NOT EDIT */\n#include \"thunks.h\"\n\n"
  | .stub minisysProto body =>
      "\n" ++ minisysProtoText minisysProto ++ " \x7b\n" ++ body.text ++
        "\x7d\n"
  | .naked prototype svc =>
      "\n__attribute__((naked)) " ++ prototype ++ " \x7b\n    __asm(\n" ++
        "        \"svc " ++ toString svc ++ " \\r\\n\"\n" ++
        "        \"bx lr \\r\\n\"\n        );\n\x7d\n"
  | .osFunctionTable rows =>
      "OsFunction os_function_table[] = \x7b\n" ++
        String.join (rows.map TableRow.text) ++ "\x7d;\n"

/-- An item of `thunks.h`. -/
inductive HeaderItem
  | preamble
  | declaration (cName : String)
  | externTable
  deriving DecidableEq

/-- The characters of an item of `thunks.h`. -/
def HeaderItem.text : HeaderItem → String
  | .preamble =>
      "/* GENERATED FILE, DO NOT EDIT */\n#include \"thunksdef.h\"\n\n"
  | .declaration cName => minisysProtoText (some cName) ++ ";\n"
  | .externTable => "\nextern OsFunction os_function_table[];\n"

/-- An item of `svc_handlers.cpp`. -/
inductive NativeItem
  | preamble
  | declaration (handler : String)
  | svcHandlerTable (handlers : List String)
  deriving DecidableEq

/-- The characters of an item of `svc_handlers.cpp`. -/
def NativeItem.text : NativeItem → String
  | .preamble =>
      "/* GENERATED FILE, DO NOT EDIT */\n#include \"svc_handlers.hpp\"\n\n"
  | .declaration handler => "\nvoid " ++ handler ++ "(uc_engine* uc);\n"
  | .svcHandlerTable handlers =>
      "SvcHandler svc_handler_table[] = \x7b\n" ++
        String.join (handlers.map fun handler =>
          "    &" ++ handler ++ ",\n") ++ "\x7d;\n"

/-! ## The script -/

/-- Variables of the loop and the items written so far. -/
structure Emission where
  nextSvc : Nat
  all : List Entry
  mcf : List MinisysItem
  mhf : List HeaderItem
  nf : List NativeItem

/-- State at the head of the loop. -/
def Emission.start : Emission where
  nextSvc := 0
  all := []
  mcf := [.preamble]
  mhf := [.preamble]
  nf := [.preamble]

/-- `decl_in_minisys` -/
def declInMinisys (type : HandlerType) : Bool :=
  type ∉ [HandlerType.emu, .minisys]

/-- `stub_in_minisys` -/
def stubInMinisys (type : HandlerType) : Bool :=
  type ∈ [HandlerType.abort, .noop, .stub, .stubDummyAlloc]

/-- `c_name` -/
def cName (type : HandlerType) (name : String) : String :=
  if stubInMinisys type then "stub_" ++ name else name

/-- `minisys_proto` -/
def minisysProto (type : HandlerType) (name : String) : Option String :=
  if declInMinisys type then some (cName type name) else none

/-- Thunks written for a row: one `if`, then an `if`/`elif` chain. -/
def minisysThunks (type : HandlerType) (name prototype : String)
    (nextSvc : Nat) : List MinisysItem :=
  (if type ∈ [HandlerType.abort] then
    [.stub (minisysProto type name) (.unimplemented name)]
  else []) ++
  (if type ∈ [HandlerType.emu] then
    [.naked prototype nextSvc]
  else if type ∈ [HandlerType.stub] then
    [.stub (minisysProto type name) (.trace name)]
  else if type ∈ [HandlerType.stubDummyAlloc] then
    [.stub (minisysProto type name) (.traceAlloc name)]
  else if type ∈ [HandlerType.noop] then
    [.stub (minisysProto type name) .nothing]
  else [])

/-- The body of the loop over the CSV rows. -/
def processRow (state : Emission) : List String → Except ScriptError Emission
  | [name, typeName, _origin, prototype] =>
      match HandlerType.ofName typeName with
      | none => .error (.keyError typeName)
      | some type =>
          -- `assert prototype`, in the branch of the EMU thunk
          if type = .emu ∧ prototype = "" then .error .assertion
          else .ok {
            nextSvc :=
              if type = .emu then state.nextSvc + 1 else state.nextSvc
            all := state.all ++
              [⟨state.nextSvc, name, cName type name, type⟩]
            mcf := state.mcf ++
              minisysThunks type name prototype state.nextSvc
            mhf := state.mhf ++
              (if declInMinisys type then
                [.declaration (cName type name)]
              else [])
            nf := state.nf ++
              (if type ∈ [HandlerType.emu] then
                [.declaration ("Svc_" ++ name)]
              else []) }
  | fields => .error (.unpack fields.length)

/-- The three generated files. -/
structure Output where
  minisysC : List MinisysItem
  minisysH : List HeaderItem
  native : List NativeItem

/-- Rows of `os_function_table` for `all_`. -/
def tableRows (all : List Entry) : List TableRow :=
  all.map (fun entry => .function entry.name entry.cName) ++ [.sentinel]

/-- Entries of `svc_handler_table` for `all_`. -/
def handlerNames (all : List Entry) : List String :=
  (all.filter fun entry => entry.type = .emu).map
    fun entry => "Svc_" ++ entry.name

/-- What the script writes after the loop. -/
def Emission.finish (state : Emission) : Output where
  minisysC := state.mcf ++ [.osFunctionTable (tableRows state.all)]
  minisysH := state.mhf ++ [.externTable]
  native := state.nf ++ [.svcHandlerTable (handlerNames state.all)]

/-- `make-thunks.py` on the rows that the CSV reader delivers; the first one
is the heading. -/
def makeThunks : List (List String) → Except ScriptError Output
  | [] => .error .stopIteration
  | _heading :: rows => do
      let state ← rows.foldlM processRow Emission.start
      return state.finish

/-- The characters of the three files. -/
def Output.texts (output : Output) : String × String × String :=
  (String.join (output.minisysC.map MinisysItem.text),
    String.join (output.minisysH.map HeaderItem.text),
    String.join (output.native.map NativeItem.text))

/-! ## Reading the generated C -/

/-- The identifier that an item of `thunks.c` defines.  `declared` reads the
identifier off a prototype of the CSV. -/
def MinisysItem.defined (declared : String → String) :
    MinisysItem → Option String
  | .preamble => none
  | .stub minisysProto _ => minisysProto
  | .naked prototype _ => some (declared prototype)
  | .osFunctionTable _ => some "os_function_table"

/-- The rows of the table that an item of `thunks.c` defines. -/
def MinisysItem.tableRows : MinisysItem → List TableRow
  | .osFunctionTable rows => rows
  | _ => []

/-- The generic prototype that an item of `thunks.h` declares. -/
def HeaderItem.declared : HeaderItem → Option String
  | .declaration cName => some cName
  | _ => none

/-- The entries of the table that an item of `svc_handlers.cpp` defines. -/
def NativeItem.handlers : NativeItem → List String
  | .svcHandlerTable handlers => handlers
  | _ => []

/-- The rows of `os_function_table`. -/
def Output.tableRows (output : Output) : List TableRow :=
  output.minisysC.flatMap MinisysItem.tableRows

/-- The generic prototypes of `thunks.h`. -/
def Output.declarations (output : Output) : List String :=
  output.minisysH.filterMap HeaderItem.declared

/-- The entries of `svc_handler_table`. -/
def Output.handlers (output : Output) : List String :=
  output.native.flatMap NativeItem.handlers

end Thunks
end GA330
