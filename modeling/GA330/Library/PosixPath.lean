import GA330.Library.ByteMemory

/-!
# Resolving path names

A place is the list of the names that lead to it from the root.  A path name is
resolved one component at a time, from the root or from the working directory;
links are not followed.
-/

namespace PosixPath

open ByteMemory

/-- A name in a directory. -/
abbrev Name := List Byte

/-- The names that lead from the root to a file or directory. -/
abbrev Place := List Name

/-- `/` -/
def slash : Byte := 0x2F

/-- `.` -/
def dot : Name := [0x2E]

/-- `..` -/
def dotDot : Name := [0x2E, 0x2E]

/-- Where a component leads to.  The root is its own parent. -/
def enter (place : Place) (component : Name) : Place :=
  if component = [] ∨ component = dot then place
  else if component = dotDot then place.dropLast
  else place ++ [component]

/-- Where a path name leads to; the empty one leads nowhere. -/
def resolve (workingDirectory : Place) (path : List Byte) : Option Place :=
  if path = [] then none
  else
    some ((path.splitOn slash).foldl enter
      (if path.head? = some slash then [] else workingDirectory))

/-- A name that can be that of a file in a directory. -/
structure Plain (name : Name) : Prop where
  slash : slash ∉ name
  nonempty : name ≠ []
  notDot : name ≠ dot
  notDotDot : name ≠ dotDot

/-- A name that a host can open: the empty one names no file, and the
directories `.` and `..` are not opened to be written. -/
structure Openable (name : Name) (toWrite : Prop) : Prop where
  nonempty : name ≠ []
  notDot : toWrite → name ≠ dot
  notDotDot : toWrite → name ≠ dotDot

/-- A plain name leads to a file in the working directory. -/
theorem Plain.resolve {name : Name} (plain : Plain name)
    (workingDirectory : Place) :
    resolve workingDirectory name = some (workingDirectory ++ [name]) := by
  have relative : name.head? ≠ some PosixPath.slash := by
    intro first
    exact plain.slash (List.mem_of_head? first)
  rw [PosixPath.resolve, if_neg plain.nonempty, if_neg relative,
    List.splitOn_eq_singleton plain.slash, List.foldl_cons, List.foldl_nil,
    enter, if_neg, if_neg plain.notDotDot]
  simp [plain.nonempty, plain.notDot]

end PosixPath
