import GA330.Library.CString

/-!
# Resolving a name in the OS function table

`ccos_get_builtin_proc` of `minisys.c` walks `os_function_table` until the row
whose name pointer is null.  The addresses of a table are left abstract: before
linking they are C identifiers, afterwards guest addresses.
-/

namespace GA330
namespace Minisys

open ByteMemory

/-- A row of `os_function_table`; the null pointer is `none`. -/
structure OsFunction (α : Type) where
  name : Option CString
  addr : α
  deriving DecidableEq

/-- What a call of `ccos_get_builtin_proc` comes to.  `overrun` stands for a
table without a sentinel, whose end the loop would run past. -/
inductive Lookup (α : Type)
  | found (addr : α)
  | panic
  | overrun
  deriving DecidableEq

/-- Apply a placement of identifiers to the address of a lookup. -/
def Lookup.map (place : α → β) : Lookup α → Lookup β
  | .found addr => .found (place addr)
  | .panic => .panic
  | .overrun => .overrun

/-- Apply a placement of identifiers to the address of a row. -/
def OsFunction.map (place : α → β) (row : OsFunction α) : OsFunction β where
  name := row.name
  addr := place row.addr

/-- `ccos_get_builtin_proc`: the address of the first row with the name, and
`ccos_panic` once the sentinel is reached. -/
def ccosGetBuiltinProc : List (OsFunction α) → CString → Lookup α
  | [], _ => .overrun
  | row :: rest, name =>
      match row.name with
      | none => .panic
      | some rowName =>
          if rowName = name then .found row.addr
          else ccosGetBuiltinProc rest name

/-- The sentinel row that ends a table. -/
def OsFunction.sentinel (null : α) : OsFunction α := ⟨none, null⟩

/-- Placing a table and then searching is searching and then placing. -/
theorem ccosGetBuiltinProc_map (place : α → β)
    (table : List (OsFunction α)) (name : CString) :
    ccosGetBuiltinProc (table.map (OsFunction.map place)) name =
      (ccosGetBuiltinProc table name).map place := by
  induction table with
  | nil => rfl
  | cons row rest inductionHypothesis =>
      cases rowName : row.name with
      | none =>
          simp [ccosGetBuiltinProc, OsFunction.map, rowName, Lookup.map]
      | some found =>
          by_cases equal : found = name
          · simp [ccosGetBuiltinProc, OsFunction.map, rowName, equal,
              Lookup.map]
          · simp only [List.map_cons, ccosGetBuiltinProc, OsFunction.map,
              rowName, equal, if_false]
            exact inductionHypothesis

/-- A terminated table: named rows and then the sentinel. -/
def terminated (rows : List (CString × α)) (null : α) :
    List (OsFunction α) :=
  rows.map (fun row => ⟨some row.1, row.2⟩) ++ [OsFunction.sentinel null]

/-- On a terminated table the search is the first match among the named
rows. -/
theorem ccosGetBuiltinProc_terminated (rows : List (CString × α))
    (null : α) (name : CString) :
    ccosGetBuiltinProc (terminated rows null) name =
      match rows.find? (fun row => row.1 = name) with
      | some row => .found row.2
      | none => .panic := by
  induction rows with
  | nil => rfl
  | cons row rest inductionHypothesis =>
      by_cases equal : row.1 = name
      · simp [terminated, ccosGetBuiltinProc, equal]
      · rw [List.find?_cons_of_neg (by simpa using equal),
          ← inductionHypothesis]
        simp [terminated, ccosGetBuiltinProc, equal]

/-- On a terminated table the search always stops at a row or at the
sentinel. -/
theorem ccosGetBuiltinProc_terminated_ne_overrun
    (rows : List (CString × α)) (null : α) (name : CString) :
    ccosGetBuiltinProc (terminated rows null) name ≠ .overrun := by
  rw [ccosGetBuiltinProc_terminated]
  cases rows.find? (fun row => row.1 = name) <;> simp

end Minisys
end GA330
