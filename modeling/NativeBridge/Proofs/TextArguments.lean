/-
Module: NativeBridge.Proofs.TextArguments
Purpose: What becomes of a returned text that native code passes on as a text buffer.
Main exports: ClosureCall.Leaves, ClosureCall.LeavesTexts, ClosureCall.LeavesTexts.written,
  ClosureCall.Unedited.leaves_returned
-/
import NativeBridge.Proofs.UneditedBuffers

namespace NativeBridge

variable {κ : Type} [HostProgram κ]

/-!
Native code may pass the address of a returned text on as a text buffer, or an address within the
text.  When the host code has ended, the buffer is written back over the text.  The text stays if host
code leaves in the buffer what was there.  Where it edits nothing it does, as long as the buffer holds
UTF-8; a returned text is UTF-8, but what is left of it behind some place within a character is not.
-/

/-! ### Writing back over a text -/

/-- Where two memories have the same C string they have the same bytes. -/
theorem Memory.HoldsCString.read_eq {before after : Memory} {address : UInt64} {bytes : List UInt8}
    (one : before.HoldsCString address bytes) (two : after.HoldsCString address bytes) {place : Nat}
    (lower : address.toNat ≤ place) (upper : place ≤ address.toNat + bytes.length) :
    after.read place = before.read place := by
  obtain ⟨index, rfl⟩ := Nat.exists_eq_add_of_le lower
  have inside : index < (bytes ++ [0]).length := by
    rw [List.length_append, List.length_singleton]
    omega
  have found := List.getElem?_eq_getElem inside
  rw [one.written index _ found, two.written index _ found]

/-- A place keeps its byte if every text buffer that reaches it puts the same byte there. -/
theorem writtenBack_kept {writeBacks : List WriteBack} {heap : Heap κ} {memory : Memory}
    {place : Nat} {byte : UInt8}
    (puts : ∀ one ∈ writeBacks, one.Reaches place →
      ∀ now, (one.apply heap now).read place = byte)
    (has : memory.read place = byte) : (writtenBack writeBacks heap memory).read place = byte := by
  induction writeBacks generalizing memory with
  | nil => exact has
  | cons first rest ih =>
    have here : (first.apply heap memory).read place = byte := by
      by_cases reaches : first.Reaches place
      · exact puts first List.mem_cons_self reaches memory
      · rw [WriteBack.apply_apart reaches, has]
    exact ih (fun one among => puts one (List.mem_cons_of_mem _ among)) here

namespace ClosureCall

variable {call : ClosureCall κ} {texts : List ReturnedText}

/-- Host code leaves in the text buffer that is passed at an index what was there: the text that it
leaves, cut to the room of the buffer, has the bytes that were passed. -/
def Leaves (call : ClosureCall κ) (index : Nat) (address : UInt64) : Prop :=
  ∀ args writeBacks heap buffer, call.accepted = .ok (args, writeBacks, heap) →
    args[index]? = some (.stringBuffer buffer) →
      WriteBack.bytes ⟨address, buffer⟩ call.left.heap = call.world.memory.cString address

/-- Host code that ends without a panic leaves what was there in each text buffer that has a place in
common with one of some texts, and these buffers are in memory that was handed out. -/
def LeavesTexts (call : ClosureCall κ) (texts : List ReturnedText) : Prop :=
  ∀ result left, call.inside = some (.returned result, left) →
    ∀ index address, call.bufferAt? index = some address →
      (∃ one ∈ texts, ∃ place, one.Covers place ∧ call.Covers index place) →
        call.world.memory.HoldsCString address (call.world.memory.cString address) ∧
          call.Leaves index address

/-- Writing back leaves the texts that were there when the call was made, and those that have come
since, which lie above what had been handed out by then. -/
theorem LeavesTexts.written (leaves : call.LeavesTexts texts)
    (kept : ∀ one ∈ texts, call.left.memory.HoldsCString one.pointer one.bytes)
    (origin : ∀ one ∈ texts, call.world.memory.HoldsCString one.pointer one.bytes ∨
      Memory.base + call.world.memory.size ≤ one.pointer.toNat) :
    call.left.Retains texts call.written := by
  obtain ⟨size, code, -⟩ := call.written_same
  refine .of_spares ⟨Nat.le_of_eq size.symm, ?_⟩ (.of_same code)
  intro one among place covers
  obtain ⟨same, -⟩ | ⟨args, writeBacks, heap, accepted, ⟨result, left, ran⟩, written⟩ :=
    call.written_cases
  · rw [same]
  rw [written]
  refine writtenBack_kept ?_ rfl
  intro buffer found reaches now
  obtain ⟨index, isFor, given, -⟩ := acceptEach_writeBack (accepted_each accepted) buffer found
  obtain ⟨holds, leaves⟩ := leaves result left ran index buffer.address isFor.passed
    ⟨one, among, place, covers, covers_of_reaches isFor reaches⟩
  have restored := WriteBack.apply_same isFor.capacity
    (leaves args writeBacks heap buffer.buffer accepted given) holds now reaches
  obtain before | above := origin one among
  · rw [restored]
    exact ((kept one among).read_eq before covers.1 covers.2)
  · -- A buffer that was handed out does not reach so far up.
    have upper := holds.upper
    have lower := covers.1
    have last := reaches.2
    rw [isFor.capacity] at last
    omega

/-! ### Host code that edits nothing -/

/-- A text buffer that holds UTF-8 and is not edited is left with what was there. -/
theorem Unedited.leaves (unedited : call.Unedited) {index : Nat} {address : UInt64}
    (passed : call.bufferAt? index = some address)
    (valid : Text.Utf8.IsUtf8 (call.world.memory.cString address)) : call.Leaves index address := by
  intro args writeBacks heap buffer accepted given
  obtain ⟨made, isMade⟩ := acceptEach_buffer (accepted_each accepted) passed
  obtain rfl : made = buffer := by simpa [isMade.value] using given
  obtain ⟨front, back, rfl, -⟩ := isMade.writtenBack
  have own := unedited.isUnedited accepted ⟨address, made⟩ (by simp)
  rw [own.bytes_eq, valid.rewritten_eq]

/-- A returned text is UTF-8: where native code hands its address back, and host code edits nothing,
it is left as it is. -/
theorem Unedited.leaves_returned (unedited : call.Unedited) {one : ReturnedText}
    (keeps : call.world.Keeps one) {index : Nat}
    (passed : call.bufferAt? index = some one.pointer) :
    call.world.memory.HoldsCString one.pointer (call.world.memory.cString one.pointer) ∧
      call.Leaves index one.pointer := by
  refine ⟨?_, unedited.leaves passed ⟨one.text, keeps.cString_eq.symm⟩⟩
  rw [keeps.cString_eq]
  exact keeps.holds

end ClosureCall

end NativeBridge
