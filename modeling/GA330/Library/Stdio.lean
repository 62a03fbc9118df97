import GA330.Library.FileStream

/-!
# Files behind pointers

Files that are used through pointers of any type: every file that is open has a
pointer, and behind each pointer there is a stream of its own, which reads and
stores at once.  The streams are those of `FileStream`, with their flags, and a
seek moves the joint position twice, as one for reading and one for writing
does.  Which pointer an open returns is part of the request, because it is the
allocator that decides.
-/

open FileStream

/-- The files, and the stream behind every pointer to an open one. -/
structure Stdio (Name : Type u) (Byte : Type v) (Pointer : Type w) where
  files : Files Name Byte
  streams : Pointer → Option (Stream Name)

namespace Stdio

/-- What is asked of the library.  A file that is opened in no known mode is
not opened. -/
inductive Request (Name : Type u) (Byte : Type v) (Pointer : Type w)
  | open (name : Name) (mode : Option OpenMode) (granted : Bool)
      (pointer : Pointer)
  | read (pointer : Pointer) (count : Nat)
  | write (pointer : Pointer) (bytes : List Byte)
  | seek (pointer : Pointer) (offset : Int) (direction : Option Direction)
  | tell (pointer : Pointer)
  | close (pointer : Pointer)

/-- What it answers. -/
inductive Reply (Byte : Type v) (Pointer : Type w)
  | opened (pointer : Option Pointer)
  | delivered (bytes : List Byte)
  | written (size : Nat)
  | sought
  | position (position : Int)
  | closed

section Steps

variable {Name : Type u} {Byte : Type v} {Pointer : Type w}
variable [DecidableEq Pointer]

/-- The stream behind a pointer. -/
def stream (stdio : Stdio Name Byte Pointer) (pointer : Pointer) :
    Stream Name :=
  (stdio.streams pointer).getD .unopened

/-- Put a stream behind a pointer. -/
def setStream (stdio : Stdio Name Byte Pointer) (pointer : Pointer)
    (stream : Option (Stream Name)) : Stdio Name Byte Pointer :=
  { stdio with streams := Function.update stdio.streams pointer stream }

/-- Open a file. -/
def openFile [DecidableEq Name] (stdio : Stdio Name Byte Pointer)
    (name : Name) (mode : Option OpenMode) (granted : Bool)
    (pointer : Pointer) : Stdio Name Byte Pointer × Option Pointer :=
  match mode.bind fun mode =>
    FileStream.openFile stdio.files name mode granted with
  | none => (stdio, none)
  | some (files, stream) =>
      ({ stdio with files := files }.setStream pointer (some stream),
        some pointer)

/-- One request. -/
def step [DecidableEq Name] [Inhabited Byte]
    (stdio : Stdio Name Byte Pointer) :
    Request Name Byte Pointer →
      Stdio Name Byte Pointer × Reply Byte Pointer
  | .open name mode granted pointer =>
      let (after, opened) := stdio.openFile name mode granted pointer
      (after, .opened opened)
  | .read pointer count =>
      let (stream, bytes) :=
        FileStream.read stdio.files (stdio.stream pointer) count
      (stdio.setStream pointer (some stream), .delivered bytes)
  | .write pointer bytes =>
      let (files, stream) :=
        FileStream.write stdio.files (stdio.stream pointer) bytes
      ({ stdio with files := files }.setStream pointer (some stream),
        .written bytes.length)
  | .seek pointer offset direction =>
      match direction with
      | none => (stdio, .sought)
      | some direction =>
          (stdio.setStream pointer (some (seekp stdio.files
            (seekg stdio.files (stdio.stream pointer) offset direction)
              offset direction)), .sought)
  | .tell pointer =>
      let (stream, position) := tellg (stdio.stream pointer)
      (stdio.setStream pointer (some stream), .position position)
  | .close pointer => (stdio.setStream pointer none, .closed)

end Steps

end Stdio
