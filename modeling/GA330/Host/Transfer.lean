import GA330.Host.Seeking

/-!
# Transfers

`fread` and `fwrite` move `size * count` bytes between guest memory and a file,
computed with 32-bit words, and return how many items went through.  Both
divide by `size`, and no memory of the host or the guest is accessed beyond what
was asked for.  What their counts are worth, with the buffers of the streams, is
in `BufferedTransfer`.
-/

namespace GA330
namespace Host

open ByteMemory FileStream

namespace FileCall

/-- The whole range of guest memory that a transfer names is mapped. -/
def mapped (call : FileCall) : Bool :=
  call.memory.rangeMapped call.buffer call.total

end FileCall

/-- The file state when the process starts. -/
def FileState.initial (files : HostFiles) : FileState where
  filesystem := .initial files
  fileBuffer := ⟨0, fun _ => 0⟩

section Transfers

variable {state : FileState} {call : FileCall}

/-- The bytes that are ahead in the handle's stream. -/
def ahead (state : FileState) (call : FileCall) : List Byte :=
  upcoming state.filesystem.files (state.filesystem.entry call.stream)

/-- The bytes that an `fread` gets. -/
def obtained (state : FileState) (call : FileCall) : List Byte :=
  (ahead state call).take call.total

/-- The buffer that `Svc_GemeiEmu_fwrite` writes from. -/
def writeBuffer (state : FileState) (call : FileCall) : FileBuffer :=
  match call.memory.ucMemRead call.buffer call.total with
  | none => state.fileBuffer.reserve call.total call.fresh
  | some bytes =>
      (state.fileBuffer.reserve call.total call.fresh).store bytes

/-! ## One call -/

/-- An `fread` that is answered. -/
theorem svcFread_answered (reading : call.handler = .fread)
    (nonzero : call.registers 1 ≠ 0) :
    (svcFile state call).1.filesystem =
        (state.filesystem.readFile call.stream call.total).1 ∧
      (svcFile state call).2 = some
        (let answer := call.returning
          (BitVec.ofNat 32 ((obtained state call).length / call.size))
        match call.memory.ucMemWrite call.buffer (obtained state call) with
        | none => answer
        | some memory =>
            { answer with
              memory := memory
              transferred := obtained state call }) := by
  have delivered : (state.filesystem.readFile call.stream call.total).2 =
      obtained state call :=
    read_delivers _ _ _
  rw [FileCall.stream] at delivered
  simp only [svcFile, reading, svcFread, if_neg nonzero, delivered,
    FileBuffer.front_store]
  exact ⟨rfl, rfl⟩

/-- When guest memory can be read, its bytes are at the front of the
buffer. -/
theorem writeBuffer_front {bytes : List Byte}
    (source : call.memory.ucMemRead call.buffer call.total = some bytes) :
    (writeBuffer state call).front call.total = bytes := by
  have length : bytes.length = call.total := by
    rw [← (GuestMemory.ucMemRead_eq_some source).2, length_read]
  simp only [writeBuffer, source]
  rw [← length, FileBuffer.front_store]

/-- Otherwise the buffer is as it was reserved. -/
theorem writeBuffer_of_unmapped
    (unmapped : call.memory.ucMemRead call.buffer call.total = none) :
    writeBuffer state call =
      state.fileBuffer.reserve call.total call.fresh := by
  simp only [writeBuffer, unmapped]

/-- `Svc_GemeiEmu_fwrite`, which reports the bytes that were asked for. -/
theorem svcFwrite_eq (state : FileState) (call : FileCall) :
    svcFwrite state call =
      if call.registers 1 = 0 then (state, none)
      else
        (⟨(state.filesystem.writeFile (call.registers 3).toInt
            ((writeBuffer state call).front call.total)).1,
          writeBuffer state call⟩,
          some (call.returning (BitVec.ofNat 32
            (call.total / (call.registers 1).toNat)))) := by
  have written : (state.filesystem.writeFile (call.registers 3).toInt
      ((writeBuffer state call).front call.total)).2 = call.total := by
    simp [Filesystem.writeFile, FileBuffer.front]
  by_cases empty : call.registers 1 = 0
  · simp only [svcFwrite, empty, if_true]
  · rw [if_neg empty]
    nth_rewrite 2 [← written]
    simp only [svcFwrite, empty, if_false]
    rfl

/-- An `fwrite` that is answered. -/
theorem svcFwrite_answered (writing : call.handler = .fwrite)
    (nonzero : call.registers 1 ≠ 0) :
    svcFile state call =
      (⟨(state.filesystem.writeFile call.stream
          ((writeBuffer state call).front call.total)).1,
        writeBuffer state call⟩,
        some (call.returning
          (BitVec.ofNat 32 (call.total / call.size)))) := by
  simp only [svcFile, writing, svcFwrite_eq, if_neg nonzero]
  rfl

/-- The host files after an `fwrite` that is answered. -/
theorem svcFwrite_files (writing : call.handler = .fwrite)
    (nonzero : call.registers 1 ≠ 0) :
    (svcFile state call).1.filesystem.files =
      (FileStream.write state.filesystem.files
        (state.filesystem.entry call.stream)
        ((writeBuffer state call).front call.total)).1 := by
  rw [svcFwrite_answered writing nonzero]
  rfl

/-- The stream of the handle after that. -/
theorem svcFwrite_entry (writing : call.handler = .fwrite)
    (nonzero : call.registers 1 ≠ 0) :
    (svcFile state call).1.filesystem.entry call.stream =
      (FileStream.write state.filesystem.files
        (state.filesystem.entry call.stream)
        ((writeBuffer state call).front call.total)).2 := by
  rw [svcFwrite_answered writing nonzero]
  dsimp only [Filesystem.writeFile]
  rw [Filesystem.entry_setEntry, if_pos rfl]

/-! ## The number of items -/

theorem length_obtained_le (state : FileState) (call : FileCall) :
    (obtained state call).length ≤ call.total :=
  List.length_take_le _ _

/-- The number of items in some of the bytes fits into the result. -/
theorem returning_items {bytes : Nat} (bound : bytes ≤ call.total) :
    (call.returning (BitVec.ofNat 32 (bytes / call.size))).result.toNat =
      bytes / call.size := by
  have small : call.total < 2 ^ 32 := BitVec.isLt _
  have quotient := Nat.div_le_self bytes call.size
  rw [FileAnswer.result, FileCall.returning_result, BitVec.toNat_ofNat,
    Nat.mod_eq_of_lt (by omega)]

/-- The product that a transfer computes is no larger than the real one. -/
theorem total_le (call : FileCall) : call.total ≤ call.size * call.count := by
  rw [FileCall.total, BitVec.toNat_mul]
  exact Nat.mod_le _ _

/-- The size of a transfer that is answered. -/
theorem size_pos (nonzero : call.registers 1 ≠ 0) : 0 < call.size := by
  rw [Nat.pos_iff_ne_zero, FileCall.size]
  exact fun zero => nonzero (BitVec.eq_of_toNat_eq zero)

/-- No more items are counted than were asked for. -/
theorem items_le {bytes : Nat} (bound : bytes ≤ call.total) :
    bytes / call.size ≤ call.count := by
  apply Nat.div_le_of_le_mul
  exact Nat.le_trans bound (total_le call)

/-! ## The answer of an `fread` -/

/-- What an `fread` reports: the items in what it got. -/
def reported (state : FileState) (call : FileCall) : FileAnswer :=
  call.returning (BitVec.ofNat 32 ((obtained state call).length / call.size))

theorem reported_result (state : FileState) (call : FileCall) :
    (reported state call).result.toNat =
      (obtained state call).length / call.size :=
  returning_items (length_obtained_le state call)

/-- What an `fread` got is stored when guest memory is mapped that far. -/
theorem svcFread_stored (reading : call.handler = .fread)
    (nonzero : call.registers 1 ≠ 0)
    (mapped : call.memory.rangeMapped call.buffer
      (obtained state call).length = true) :
    (svcFile state call).2 = some { reported state call with
      memory := { call.memory with
        bytes := write call.memory.bytes call.buffer (obtained state call) }
      transferred := obtained state call } := by
  rw [(svcFread_answered reading nonzero).2, GuestMemory.ucMemWrite,
    if_pos mapped]
  rfl

/-- Otherwise it is lost. -/
theorem svcFread_lost (reading : call.handler = .fread)
    (nonzero : call.registers 1 ≠ 0)
    (unmapped : call.memory.rangeMapped call.buffer
      (obtained state call).length = false) :
    (svcFile state call).2 = some (reported state call) := by
  rw [(svcFread_answered reading nonzero).2, GuestMemory.ucMemWrite,
    if_neg (by simp [unmapped])]
  rfl

end Transfers

/-! ## Transfers of any size -/

/-- A transfer is answered; it counts no more items than were asked for, and
neither reports nor moves more bytes than the wrapped product. -/
structure BoundedTransfer (state after : FileState) (call : FileCall)
    (answer : FileAnswer) : Prop where
  items : answer.result.toNat ≤ call.count
  nothing : call.size = 0 ∨ call.count = 0 → answer.result = 0
  reports : answer.result.toNat * call.size ≤ call.total
  memory : answer.memory.bytes =
    write call.memory.bytes call.buffer answer.transferred
  toGuest : answer.transferred.length ≤ call.total
  toFile : after.filesystem.files = state.filesystem.files ∨
    ∃ bytes, bytes.length = call.total ∧
      after.filesystem.files = (FileStream.write state.filesystem.files
        (state.filesystem.entry call.stream) bytes).1
  position : (after.filesystem.entry call.stream).position ≤
    (state.filesystem.entry call.stream).position + call.total

/-- The transfer completes, within its bounds. -/
def Completes (state : FileState) (call : FileCall) : Prop :=
  ∃ answer, (svcFile state call).2 = some answer ∧
    BoundedTransfer state (svcFile state call).1 call answer

section Bounds

variable {state : FileState} {call : FileCall}

/-- A transfer of items without a size kills the host. -/
theorem unanswered_of_zero
    (transfer : call.handler = .fread ∨ call.handler = .fwrite)
    (zero : call.registers 1 = 0) : (svcFile state call).2 = none := by
  rcases transfer with reading | writing
  · simp only [svcFile, reading, svcFread, zero, if_true]
  · simp only [svcFile, writing, svcFwrite, zero, if_true]

/-- A result that counts the items in some of the bytes is within bounds. -/
theorem result_bounded {answer : FileAnswer} {bytes : Nat}
    (nonzero : call.registers 1 ≠ 0)
    (result : answer.result.toNat = bytes / call.size)
    (bound : bytes ≤ call.total) :
    answer.result.toNat ≤ call.count ∧
      (call.size = 0 ∨ call.count = 0 → answer.result = 0) ∧
      answer.result.toNat * call.size ≤ call.total := by
  have items : answer.result.toNat ≤ call.count := by
    rw [result]
    exact items_le bound
  refine ⟨items, ?_, ?_⟩
  · rintro (noSize | noCount)
    · exact absurd noSize (Nat.ne_of_gt (size_pos nonzero))
    · apply BitVec.eq_of_toNat_eq
      exact Nat.le_zero.mp (noCount ▸ items)
  · rw [result]
    exact Nat.le_trans (Nat.div_mul_le_self _ _) bound

/-- An `fread` is within bounds. -/
theorem svcFread_bounded (reading : call.handler = .fread)
    (nonzero : call.registers 1 ≠ 0) : Completes state call := by
  have bound := length_obtained_le state call
  obtain ⟨items, nothing, reports⟩ :=
    result_bounded nonzero (reported_result state call) bound
  have files : (svcFile state call).1.filesystem.files =
      state.filesystem.files := by
    rw [(svcFread_answered reading nonzero).1]
    rfl
  have position : ((svcFile state call).1.filesystem.entry
      call.stream).position ≤
        (state.filesystem.entry call.stream).position + call.total := by
    rw [(svcFread_answered reading nonzero).1, Filesystem.readFile]
    dsimp only
    rw [Filesystem.entry_setEntry, if_pos rfl, read_position]
    exact Nat.add_le_add_left (length_read_le _ _ _) _
  cases mapped : call.memory.rangeMapped call.buffer
      (obtained state call).length with
  | true =>
      refine ⟨_, svcFread_stored reading nonzero mapped, ?_⟩
      exact ⟨items, nothing, reports, rfl, bound, .inl files, position⟩
  | false =>
      refine ⟨_, svcFread_lost reading nonzero mapped, ?_⟩
      exact ⟨items, nothing, reports, rfl, Nat.zero_le _, .inl files,
        position⟩

theorem length_front (buffer : FileBuffer) (size : Nat) :
    (buffer.front size).length = size := by
  rw [FileBuffer.front, List.length_map, List.length_range]

/-- An `fwrite` is within bounds. -/
theorem svcFwrite_bounded (writing : call.handler = .fwrite)
    (nonzero : call.registers 1 ≠ 0) : Completes state call := by
  have answered := congrArg Prod.snd
    (@svcFwrite_answered state _ writing nonzero)
  obtain ⟨items, nothing, reports⟩ := result_bounded nonzero
    (returning_items (Nat.le_refl call.total)) (Nat.le_refl _)
  refine ⟨_, answered, items, nothing, reports, rfl, Nat.zero_le _,
    .inr ⟨_, length_front _ _, svcFwrite_files writing nonzero⟩, ?_⟩
  rw [svcFwrite_entry writing nonzero]
  refine Nat.le_trans (write_position_le _ _ _) ?_
  rw [length_front]

/-- A transfer, whatever the guest puts in its registers, completes within its
bounds exactly when it names a size. -/
theorem transfer_completes_iff
    (transfer : call.handler = .fread ∨ call.handler = .fwrite) :
    Completes state call ↔ call.registers 1 ≠ 0 := by
  constructor
  · rintro ⟨answer, answered, _⟩ zero
    rw [unanswered_of_zero transfer zero] at answered
    contradiction
  · intro nonzero
    rcases transfer with reading | writing
    · exact svcFread_bounded reading nonzero
    · exact svcFwrite_bounded writing nonzero

end Bounds

/-- The product of these two wraps to `0x10011000`. -/
theorem transfer_completes_iff_sample :
    Completes sampleReader
      (sampleCall .fwrite 0x200 0x10001000 0x11 1) := by
  refine (transfer_completes_iff (.inr rfl)).mpr ?_
  change (0x10001000 : Word) ≠ 0
  decide

/-- Items without a size are not read, and the host dies. -/
theorem empty_items_unanswered :
    ¬ ∀ (state : FileState) (call : FileCall),
      call.handler = .fread ∨ call.handler = .fwrite →
        Completes state call := by
  intro claimed
  obtain ⟨answer, answered, _⟩ :=
    claimed sampleReader (sampleCall .fread 0x300 0 1 1) (.inl rfl)
  rw [unanswered_of_zero (.inl rfl) rfl] at answered
  contradiction

end Host
end GA330
