import GA330.Host.Filesystem
import GA330.Host.GuestMemory

/-!
# File handlers of the emulator

The `Svc_GemeiEmu_f…` handlers of `api.cpp` take their arguments from the
guest's registers, move bytes between guest memory and a host buffer that all
of them share, and leave the result in R0.  Between two calls the guest may do
anything to its registers and memory, so each call comes with its own.
-/

namespace GA330
namespace Host

open ByteMemory

/-- R0 to R15. -/
abbrev Registers := Fin 16 → Word

/-- The register of a number. -/
def register (number : Nat) : Fin 16 := Fin.ofNat 16 number

/-! ## Strings of the guest -/

/-- `get_string` from its `i`-th character on.  The variable `c` is not
initialized, so a failed read leaves it with garbage; `none` means that `i`
overflows before a zero is seen. -/
def getStringFrom (memory : GuestMemory) (garbage : Nat → Byte)
    (addr : Address) : (remaining : Nat) → (i : Nat) → Option (List Byte)
  | 0, _ => none
  | remaining + 1, i =>
      let c := match memory.ucMemRead (addr + BitVec.ofNat 32 i) 1 with
        | some [byte] => byte
        | _ => garbage i
      if c = 0 then some []
      else
        (getStringFrom memory garbage addr remaining (i + 1)).map (c :: ·)

/-- `get_string` -/
def getString (memory : GuestMemory) (garbage : Nat → Byte)
    (addr : Address) : Option (List Byte) :=
  getStringFrom memory garbage addr (2 ^ 31) 0

/-- `get_wstring` from its `i`-th unit on; `i * 2` overflows earlier. -/
def getWstringFrom (memory : GuestMemory) (garbage : Nat → BitVec 16)
    (addr : Address) :
    (remaining : Nat) → (i : Nat) → Option (List (BitVec 16))
  | 0, _ => none
  | remaining + 1, i =>
      let c := match memory.ucMemRead (addr + BitVec.ofNat 32 (i * 2)) 2 with
        | some [low, high] => high ++ low
        | _ => garbage i
      if c = 0 then some []
      else
        (getWstringFrom memory garbage addr remaining (i + 1)).map (c :: ·)

/-- `get_wstring` -/
def getWstring (memory : GuestMemory) (garbage : Nat → BitVec 16)
    (addr : Address) : Option (List (BitVec 16)) :=
  getWstringFrom memory garbage addr (2 ^ 30) 0

/-- The UTF-8 bytes of one wide character; a surrogate cannot be
converted. -/
def encodeWide (unit : BitVec 16) : Option (List Byte) :=
  if unit < 0x80 then some [unit.setWidth 8]
  else if unit < 0x800 then
    some [0xC0 ||| (unit >>> 6).setWidth 8,
      0x80 ||| (unit &&& 0x3F).setWidth 8]
  else if 0xD800 ≤ unit ∧ unit < 0xE000 then none
  else
    some [0xE0 ||| (unit >>> 12).setWidth 8,
      0x80 ||| ((unit >>> 6) &&& 0x3F).setWidth 8,
      0x80 ||| (unit &&& 0x3F).setWidth 8]

/-- The narrow path of a wide string. -/
def narrowPath : List (BitVec 16) → Option (List Byte)
  | [] => some []
  | unit :: rest => do
      let bytes ← encodeWide unit
      let others ← narrowPath rest
      return bytes ++ others

/-! ## The shared buffer -/

/-- `file_buffer`: a vector whose size stays zero and whose storage is used
directly. -/
structure FileBuffer where
  capacity : Nat
  storage : Nat → Byte

namespace FileBuffer

/-- `reserve(size)`: new storage holds whatever it holds. -/
def reserve (buffer : FileBuffer) (size : Nat) (fresh : Nat → Byte) :
    FileBuffer :=
  if size ≤ buffer.capacity then buffer else ⟨size, fresh⟩

/-- Overwrite the front of the storage. -/
def store (buffer : FileBuffer) (bytes : List Byte) : FileBuffer :=
  { buffer with
    storage := fun index => (bytes[index]?).getD (buffer.storage index) }

/-- The front of the storage. -/
def front (buffer : FileBuffer) (size : Nat) : List Byte :=
  (List.range size).map buffer.storage

/-- The bytes that were just stored are at the front. -/
theorem front_store (buffer : FileBuffer) (bytes : List Byte) :
    (buffer.store bytes).front bytes.length = bytes := by
  apply List.ext_getElem
  · simp [front]
  · intro index _ bound
    simp [front, store, bound]

end FileBuffer

/-! ## Calls -/

/-- The handlers that use the file table. -/
inductive FileHandler
  | fopen
  | fopenW
  | fread
  | fseek
  | fclose
  | ftell
  | fwrite
  deriving DecidableEq

/-- A supervisor call: the handler, what the guest passes to it, and what the
host leaves to chance: whether a file may be opened, and the contents of
uninitialized memory. -/
structure FileCall where
  handler : FileHandler
  registers : Registers
  memory : GuestMemory
  granted : Bool
  garbage : Nat → Byte
  garbageW : Nat → BitVec 16
  fresh : Nat → Byte

/-- What the guest finds afterwards, and the bytes that were stored in its
memory. -/
structure FileAnswer where
  registers : Registers
  memory : GuestMemory
  transferred : List Byte

/-- What a call returns in R0. -/
abbrev FileAnswer.result (answer : FileAnswer) : Word := answer.registers 0

/-- The part of the emulator's state that the handlers use. -/
structure FileState where
  filesystem : Filesystem
  fileBuffer : FileBuffer

namespace FileCall

/-- The path argument of an open. -/
def path (call : FileCall) : Option (List Byte) :=
  match call.handler with
  | .fopen => getString call.memory call.garbage (call.registers 0)
  | .fopenW =>
      (getWstring call.memory call.garbageW (call.registers 0)).bind narrowPath
  | _ => none

/-- The mode argument of an open. -/
def mode (call : FileCall) : Option (List Byte) :=
  getString call.memory call.garbage (call.registers 1)

/-- The number of bytes that a transfer asks for: `size * count` wraps. -/
def total (call : FileCall) : Nat :=
  (call.registers 1 * call.registers 2).toNat

/-- The handle argument. -/
def handle (call : FileCall) : Option Int :=
  match call.handler with
  | .fopen => none
  | .fopenW => none
  | .fread => some (call.registers 3).toInt
  | .fwrite => some (call.registers 3).toInt
  | .fseek => some (call.registers 0).toInt
  | .fclose => some (call.registers 0).toInt
  | .ftell => some (call.registers 0).toInt

/-- The address that a transfer reads or writes in guest memory. -/
abbrev buffer (call : FileCall) : Address := call.registers 0

/-- The item size of a transfer. -/
def size (call : FileCall) : Nat := (call.registers 1).toNat

/-- The number of items of a transfer. -/
def count (call : FileCall) : Nat := (call.registers 2).toNat

/-- The handle of a transfer. -/
def stream (call : FileCall) : Int := (call.registers 3).toInt

/-- The offset of an `fseek`. -/
def offset (call : FileCall) : Int := (call.registers 1).toInt

/-- The handle of a call that is not a transfer. -/
def file (call : FileCall) : Int := (call.registers 0).toInt

/-- The mode of an `fseek`, as it is passed on. -/
def cMode (call : FileCall) : Int := (call.registers 2).toInt

/-- The mode of an `fseek`. -/
def direction (call : FileCall) : Option FileStream.Direction :=
  Filesystem.direction (call.registers 2).toInt

/-- The range of guest memory that a transfer names. -/
def range (call : FileCall) : List Byte :=
  read call.memory.bytes (call.registers 0)
    ((call.registers 1).toNat * (call.registers 2).toNat)

/-- Return a value in R0, memory as it was. -/
def returning (call : FileCall) (ret : Word) : FileAnswer where
  registers := Function.update call.registers 0 ret
  memory := call.memory
  transferred := []

@[simp] theorem returning_result (call : FileCall) (ret : Word) :
    (call.returning ret).registers 0 = ret := by
  simp only [returning, Function.update_self]

end FileCall

/-- The file is opened, and `next_handle++` overflows an `int`. -/
def openOverflows (fs : Filesystem) (path mode : List Byte)
    (granted : Bool) : Bool :=
  fs.opens path mode granted && decide (2 ^ 31 - 1 ≤ fs.nextHandle)

/-- `Svc_GemeiEmu_fopen` and `Svc_GemeiEmu_fopenW`; no answer means that the
process has crashed or that its behaviour is undefined. -/
def svcFopen (state : FileState) (call : FileCall) :
    FileState × Option FileAnswer :=
  match call.path, call.mode with
  | some path, some mode =>
      if openOverflows state.filesystem path mode call.granted then
        (state, none)
      else
        let (fs, h) := state.filesystem.openFile path mode call.granted
        ({ state with filesystem := fs },
          some (call.returning (BitVec.ofInt 32 h)))
  | _, _ => (state, none)

/-- `Svc_GemeiEmu_fread` -/
def svcFread (state : FileState) (call : FileCall) :
    FileState × Option FileAnswer :=
  let bufferAddress := call.registers 0
  let size := call.registers 1
  let fileHandle := (call.registers 3).toInt
  let buffer := state.fileBuffer.reserve call.total call.fresh
  let (fs, delivered) := state.filesystem.readFile fileHandle call.total
  let filled := buffer.store delivered
  let data := filled.front delivered.length
  if size = 0 then
    (state, none)
  else
    let answer := call.returning
      (BitVec.ofNat 32 (delivered.length / size.toNat))
    (⟨fs, filled⟩, some <|
      match call.memory.ucMemWrite bufferAddress data with
      | none => answer
      | some memory => { answer with memory := memory, transferred := data })

/-- `Svc_GemeiEmu_fwrite` -/
def svcFwrite (state : FileState) (call : FileCall) :
    FileState × Option FileAnswer :=
  let bufferAddress := call.registers 0
  let size := call.registers 1
  let fileHandle := (call.registers 3).toInt
  let reserved := state.fileBuffer.reserve call.total call.fresh
  let buffer := match call.memory.ucMemRead bufferAddress call.total with
    | none => reserved
    | some bytes => reserved.store bytes
  let (fs, written) :=
    state.filesystem.writeFile fileHandle (buffer.front call.total)
  if size = 0 then
    (state, none)
  else
    (⟨fs, buffer⟩,
      some (call.returning (BitVec.ofNat 32 (written / size.toNat))))

/-- `Svc_GemeiEmu_fseek` -/
def svcFseek (state : FileState) (call : FileCall) :
    FileState × Option FileAnswer :=
  let fs := state.filesystem.seekFile (call.registers 0).toInt
    (call.registers 1).toInt (call.registers 2).toInt
  ({ state with filesystem := fs }, some (call.returning 0))

/-- `Svc_GemeiEmu_fclose` -/
def svcFclose (state : FileState) (call : FileCall) :
    FileState × Option FileAnswer :=
  let fs := state.filesystem.closeFile (call.registers 0).toInt
  ({ state with filesystem := fs }, some (call.returning 0))

/-- `Svc_GemeiEmu_ftell` -/
def svcFtell (state : FileState) (call : FileCall) :
    FileState × Option FileAnswer :=
  let (fs, position) := state.filesystem.tellFile (call.registers 0).toInt
  ({ state with filesystem := fs },
    some (call.returning (BitVec.ofInt 32 position)))

/-- One supervisor call. -/
def svcFile (state : FileState) (call : FileCall) :
    FileState × Option FileAnswer :=
  match call.handler with
  | .fopen => svcFopen state call
  | .fopenW => svcFopen state call
  | .fread => svcFread state call
  | .fseek => svcFseek state call
  | .fclose => svcFclose state call
  | .ftell => svcFtell state call
  | .fwrite => svcFwrite state call

end Host
end GA330
