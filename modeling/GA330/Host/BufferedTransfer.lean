import GA330.Host.Buffering

/-!
# What a transfer through a buffered stream does and what it reports

`fread` delivers what its stream has read ahead, and what the file holds behind
that; `fwrite` leaves its bytes in the buffer of the stream, which the host may
fail to store.  So whether the bytes are those of the file depends on the buffer
too, and so does whether what is reported is true.
-/

namespace GA330
namespace Host

open ByteMemory FileStream BufferedStream

section Transfers

variable {state : BufferedState} {call : BufferedCall}

/-- The bytes that the handle's stream would deliver. -/
def held (state : BufferedState) (call : FileCall) : List Byte :=
  BufferedStream.upcoming state.filesystem.files
    (state.filesystem.entry call.stream)

/-- The bytes that come next in the handle's file. -/
def next (state : BufferedState) (call : FileCall) : List Byte :=
  ahead state.seen call

/-! ## One call -/

end Transfers

/-! ## Reading, end to end -/

/-- A handle that is open for reading, good and at a position of its file, with
bytes of the file read ahead. -/
structure OpenForReading (name : HostName) (h : Int) (content : List Byte)
    (position : Nat) (ahead : List Byte) (fs : BufferedFilesystem) :
    Prop where
  file : contents fs.files name = content
  entry : fs.openFiles h =
    some ⟨⟨some (name, .input), position, false, false⟩, ahead⟩

section Reading

variable {name : HostName} {h : Int} {content ahead : List Byte}
variable {position : Nat} {state : BufferedState} {call : BufferedCall}

theorem OpenForReading.entry_eq
    (openFor : OpenForReading name h content position ahead
      state.filesystem) :
    state.filesystem.entry h =
      ⟨⟨some (name, .input), position, false, false⟩, ahead⟩ := by
  rw [BufferedFilesystem.entry, openFor.entry]
  rfl

/-- In a run that opens no file twice to write it, on a host that stores what it
is handed, what a stream has read ahead is what the file holds. -/
theorem OpenForReading.current {files : HostFiles}
    {calls : List BufferedCall}
    (undisturbed : Machine.Admissible svcBuffered Undisturbed
      (.initial files) calls)
    (openFor : OpenForReading name h content position ahead
      (Machine.final svcBuffered (.initial files) calls).filesystem) :
    ahead <+: content.drop position := by
  have settles := (settled_run files undisturbed).1.filesystem.streams h
  rw [openFor.entry_eq] at settles
  have current := (settles.current name rfl).2
  rwa [openFor.file] at current

end Reading

/-! ## A file that is rewritten while it is read -/

/-- The bytes of the whole items that are asked for and that the handle's stream
has. -/
def counted (state : BufferedState) (call : FileCall) : Nat :=
  min call.total (held state call).length / call.size * call.size

section Results

variable {state : BufferedState} {call : BufferedCall}

/-- The wrapped product of a transfer that fits. -/
theorem total_eq {call : FileCall}
    (fits : call.size * call.count < 2 ^ 32) :
    call.total = call.size * call.count := by
  rw [FileCall.total, BitVec.toNat_mul]
  exact Nat.mod_eq_of_lt fits

end Results

end Host
end GA330
