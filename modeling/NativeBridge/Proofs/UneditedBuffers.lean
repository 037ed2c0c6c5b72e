/-
Module: NativeBridge.Proofs.UneditedBuffers
Purpose: What a call does to the text buffers that host code gets and leaves as they are.
Main exports: Text.Utf8.IsUtf8, Text.Utf8.isUtf8_iff_prefix, ClosureCall.Unedited,
  ClosureCall.written_unedited, ClosureCall.kept_iff_isUtf8, ClosureCall.OnlyReads.unedited,
  ClosureCall.unedited_exact
-/
import NativeBridge.Proofs.ReturnedTexts
import NativeBridge.Proofs.UnusedHandle

namespace NativeBridge

variable {κ : Type} [HostProgram κ]

/-!
A text buffer is written back whether or not host code has edited it.  What is written has been
decoded and encoded again, and cut to the bytes that were there.  That gives back the same bytes if
they are UTF-8.  If they are not, it never does: what is written is UTF-8, so it is something else, or
it ends before the bytes did, and then there is a zero where they had none.
-/

/-! ### Bytes that are decoded and encoded again -/

namespace Text.Utf8

/-- Bytes are the UTF-8 of some text. -/
def IsUtf8 (bytes : List UInt8) : Prop :=
  ∃ text, encode text = bytes

/-- Strict decoding tells which bytes are UTF-8. -/
theorem isUtf8_iff_decode {bytes : List UInt8} : IsUtf8 bytes ↔ (decode? bytes).isSome = true := by
  rw [decode?]
  split
  · next same =>
    refine iff_of_true ⟨String.ofList (decodeLossyChars bytes), ?_⟩ rfl
    rw [encode, String.toList_ofList]
    exact eq_of_beq same
  · next other =>
    refine iff_of_false ?_ Bool.false_ne_true
    rintro ⟨text, rfl⟩
    rw [encode, decodeLossyChars_encodeChars] at other
    exact other (beq_self_eq_true _)

instance (bytes : List UInt8) : Decidable (IsUtf8 bytes) :=
  decidable_of_iff' _ isUtf8_iff_decode

example : ¬ IsUtf8 [0x61, 0xFF, 0x62] := by
  decide +kernel

/-- The bytes that are written back for these, if nobody has edited their text. -/
def rewritten (bytes : List UInt8) : List UInt8 :=
  encode (truncate (decodeLossy bytes) bytes.length)

theorem length_rewritten_le (bytes : List UInt8) : (rewritten bytes).length ≤ bytes.length :=
  (truncate_isCut _ _).fits

theorem IsUtf8.rewritten_eq {bytes : List UInt8} (valid : IsUtf8 bytes) :
    rewritten bytes = bytes := by
  obtain ⟨text, rfl⟩ := valid
  rw [rewritten, decodeLossy_encode, (truncate_eq_self_iff text _).mpr (Nat.le_refl _)]

/-- Writing back, with a zero behind, puts other bytes than there were just if these are not UTF-8:
no zero can come before the one that was behind them. -/
theorem isUtf8_iff_prefix {bytes : List UInt8} (nonzero : 0 ∉ bytes) :
    IsUtf8 bytes ↔ rewritten bytes ++ [0] <+: bytes ++ [0] := by
  constructor
  · intro valid
    simp [valid.rewritten_eq]
  · rintro ⟨rest, same⟩
    refine ⟨truncate (decodeLossy bytes) bytes.length, ?_⟩
    obtain rfl | ⟨before, last, rfl⟩ := List.eq_nil_or_concat rest
    · rw [List.append_nil] at same
      exact List.append_cancel_right same
    · rw [List.concat_eq_append, ← List.append_assoc] at same
      refine absurd ?_ nonzero
      rw [← (List.append_inj' same rfl).1]
      simp

end Text.Utf8

/-! ### Writing back what was there -/

/-- If the bytes that are written back are those that were there, every place that is reached gets
the byte that it had. -/
theorem WriteBack.apply_same {one : WriteBack} {memory : Memory} {heap : Heap κ}
    (capacity : one.buffer.capacity = (memory.cString one.address).length)
    (same : one.bytes heap = memory.cString one.address)
    (holds : memory.HoldsCString one.address (memory.cString one.address)) (now : Memory)
    {place : Nat} (reaches : one.Reaches place) :
    (one.apply heap now).read place = memory.read place := by
  obtain ⟨index, rfl⟩ := Nat.exists_eq_add_of_le reaches.1
  have inside : index < (memory.cString one.address ++ [0]).length := by
    have upper := reaches.2
    rw [capacity] at upper
    rw [List.length_append, List.length_singleton]
    omega
  have found := List.getElem?_eq_getElem inside
  rw [holds.written index _ found]
  exact WriteBack.apply_written (by rw [same, found])

/-- A text buffer is written back with the text that its bytes were decoded to. -/
structure WriteBack.IsUnedited (one : WriteBack) (memory : Memory) (heap : Heap κ) : Prop where
  capacity : one.buffer.capacity = (memory.cString one.address).length
  text : heap.text one.buffer = Text.Utf8.decodeLossy (memory.cString one.address)

namespace WriteBack.IsUnedited

variable {one : WriteBack} {memory : Memory} {heap : Heap κ}

theorem bytes_eq (unedited : one.IsUnedited memory heap) :
    one.bytes heap = Text.Utf8.rewritten (memory.cString one.address) := by
  rw [WriteBack.bytes, Heap.truncatedText, unedited.text, unedited.capacity, Text.Utf8.rewritten]

/-- If the bytes were UTF-8, every place that is reached gets the byte that it had. -/
theorem apply_restores (unedited : one.IsUnedited memory heap)
    (valid : Text.Utf8.IsUtf8 (memory.cString one.address))
    (holds : memory.HoldsCString one.address (memory.cString one.address)) (now : Memory)
    {place : Nat} (reaches : one.Reaches place) :
    (one.apply heap now).read place = memory.read place :=
  WriteBack.apply_same unedited.capacity (unedited.bytes_eq.trans valid.rewritten_eq) holds now
    reaches

end WriteBack.IsUnedited

/-- Writing back restores every place that one of the buffers reaches, whatever has been put there in
the meantime, and changes no other place. -/
theorem writtenBack_restores {writeBacks : List WriteBack} {memory : Memory} {heap : Heap κ}
    (unedited : ∀ one ∈ writeBacks, one.IsUnedited memory heap)
    (valid : ∀ one ∈ writeBacks, Text.Utf8.IsUtf8 (memory.cString one.address))
    (holds : ∀ one ∈ writeBacks,
      memory.HoldsCString one.address (memory.cString one.address)) (now : Memory) (place : Nat) :
    (writtenBack writeBacks heap now).read place = now.read place ∨
      (∃ one ∈ writeBacks, one.Reaches place) ∧
        (writtenBack writeBacks heap now).read place = memory.read place := by
  induction writeBacks generalizing now with
  | nil => exact .inl rfl
  | cons first rest ih =>
    have parted : writtenBack (first :: rest) heap now =
      writtenBack rest heap (first.apply heap now) := rfl
    rw [parted]
    obtain same | ⟨⟨one, among, reaches⟩, restored⟩ :=
      ih (fun one among => unedited one (List.mem_cons_of_mem _ among))
        (fun one among => valid one (List.mem_cons_of_mem _ among))
        (fun one among => holds one (List.mem_cons_of_mem _ among)) (first.apply heap now)
    · rw [same]
      by_cases reaches : first.Reaches place
      · right
        have here : first ∈ first :: rest := List.mem_cons_self
        exact ⟨⟨first, here, reaches⟩,
          (unedited first here).apply_restores (valid first here) (holds first here) now reaches⟩
      · exact .inl (WriteBack.apply_apart reaches)
    · exact .inr ⟨⟨one, List.mem_cons_of_mem _ among, reaches⟩, restored⟩

/-! ### Host code that only reads -/

/-- A change of the process in which every string buffer keeps its text, and every byte of native
memory that is handed out stays what it is. -/
structure World.KeepsBytes (before after : World κ) : Prop where
  texts : before.heap.KeepsTexts after.heap
  memory : before.memory.Extends after.memory

namespace World.KeepsBytes

theorem of_same {before after : World κ} (texts : after.heap.texts = before.heap.texts)
    (memory : after.memory = before.memory) : before.KeepsBytes after := by
  refine ⟨?_, ?_⟩
  · intro cell text found
    rwa [texts]
  · rw [memory]
    exact .refl _

theorem trans {first middle last : World κ} (one : first.KeepsBytes middle)
    (two : middle.KeepsBytes last) : first.KeepsBytes last :=
  ⟨one.texts.trans two.texts, one.memory.trans two.memory⟩

end World.KeepsBytes

namespace Code

/-- The next request can change a text or a byte: it edits a string buffer or calls native code. -/
def Alters : Code κ → Prop
  | .writeBuffer _ _ _ | .call _ _ _ | .callRaw _ _ _ => True
  | _ => False

/-- A run comes to no request that can change a text or a byte. -/
def StaysReading (enter : Entry κ) (code : Code κ) (frame : Frame) (world : World κ) : Prop :=
  ∀ later frame' world', Reaches enter code frame world later frame' world' → ¬ later.Alters

variable {enter : Entry κ} {world : World κ}

theorem step_keepsBytes {code : Code κ} (reads : ¬ code.Alters) (frame : Frame) :
    world.KeepsBytes (code.step enter frame world).world := by
  cases code with
  | writeBuffer | call | callRaw => exact absurd trivial reads
  | done result => exact .of_same (frame.dropGuards_texts _) rfl
  | panic message => exact .of_same (frame.dropGuards_texts _) rfl
  | newBuffer text capacity next => exact ⟨world.heap.push_keepsTexts text, .refl _⟩
  | borrow object exclusive next =>
    simp only [step]
    cases borrowed : frame.borrow object.cell exclusive world.heap with
    | none => exact .of_same rfl rfl
    | some taken => exact .of_same (Frame.borrow_texts borrowed) rfl
  | endBorrow object next => exact .of_same (frame.endBorrow_texts _ _) rfl
  | writeObject object key state next =>
    simp only [step]
    split <;> exact .of_same rfl rfl
  | writeReceiver key state next =>
    simp only [step]
    split <;> exact .of_same rfl rfl
  | marshal type carried next => exact .of_same (type.intoValue_texts carried _) rfl
  | nativeText text next => exact ⟨.refl _, world.memory.allocateCString_extends _⟩
  | releaseHandle registry handle next =>
    simp only [step, World.releaseHandle]
    cases (world.registry registry).release handle <;> exact .of_same rfl rfl
  | _ => exact .of_same rfl rfl

theorem run_keepsBytes {code : Code κ} {frame : Frame}
    (reads : code.StaysReading enter frame world) :
    world.KeepsBytes (code.run enter frame world).2 := by
  induction code using follows_wellFounded.induction generalizing frame world with
  | _ code ih =>
    have stepped : world.KeepsBytes (code.step enter frame world).world :=
      step_keepsBytes (reads code frame world .here) frame
    rw [run_eq_step]
    cases same : code.step enter frame world with
    | ended outcome last =>
      rw [same] at stepped
      exact stepped
    | rest rest frame' last =>
      rw [same] at stepped
      apply stepped.trans
      apply ih rest ⟨_, _, _, _, _, same⟩
      intro later frame'' world'' reached
      exact reads later frame'' world'' (.next same reached)

end Code

theorem Handler.run_keepsBytes (enter : Entry κ) (handler : Handler κ) (args : List (Value κ))
    (world : World κ) (reads : ∀ code frame begun,
      handler.start args world = some (code, frame, begun) → code.StaysReading enter frame begun) :
    world.KeepsBytes (handler.run enter args world).2 := by
  have runs := handler.run_begun enter args world
  cases started : handler.start args world with
  | none =>
    rw [started] at runs
    obtain ⟨error, same⟩ := runs
    rw [same]
    exact .of_same rfl rfl
  | some first =>
    obtain ⟨code, frame, begun⟩ := first
    rw [started] at runs
    obtain ⟨heap, outcome, left, closed, rfl, opened, ran, same, texts⟩ := runs
    have begins : world.KeepsBytes { world with heap := heap } := .of_same opened rfl
    have kept := Code.run_keepsBytes (reads _ _ _ started)
    rw [ran] at kept
    rw [same]
    exact (begins.trans kept).trans (.of_same texts rfl)

/-! ### Calls -/

namespace ClosureCall

variable {call : ClosureCall κ}

/-- Host code has left the text buffers that it got as they were. -/
def Unedited (call : ClosureCall κ) : Prop :=
  ∀ args writeBacks heap, call.accepted = .ok (args, writeBacks, heap) →
    ∀ (index : Nat) (address : UInt64) (buffer : StringBuffer),
      call.bufferAt? index = some address → args[index]? = some (.stringBuffer buffer) →
        call.left.heap.text buffer = heap.text buffer

/-- Every text buffer that is passed is a C string in memory that is handed out. -/
def PassesCStrings (call : ClosureCall κ) : Prop :=
  ∀ index address, call.bufferAt? index = some address →
    ∃ bytes, 0 ∉ bytes ∧ call.world.memory.HoldsCString address bytes

/-- Every text buffer that is passed holds UTF-8. -/
def PassesUtf8 (call : ClosureCall κ) : Prop :=
  ∀ index address, call.bufferAt? index = some address →
    Text.Utf8.IsUtf8 (call.world.memory.cString address)

theorem PassesCStrings.holds (passes : call.PassesCStrings) {index : Nat} {address : UInt64}
    (passed : call.bufferAt? index = some address) :
    0 ∉ call.world.memory.cString address ∧
      call.world.memory.HoldsCString address (call.world.memory.cString address) := by
  obtain ⟨bytes, nonzero, holds⟩ := passes index address passed
  rw [holds.cString_eq nonzero]
  exact ⟨nonzero, holds⟩

theorem Unedited.isUnedited (unedited : call.Unedited) {args : List (Value κ)}
    {writeBacks : List WriteBack} {heap : Heap κ}
    (accepted : call.accepted = .ok (args, writeBacks, heap)) :
    ∀ one ∈ writeBacks, one.IsUnedited call.world.memory call.left.heap := by
  intro one among
  obtain ⟨index, isFor, given, text⟩ := acceptEach_writeBack (accepted_each accepted) one among
  refine ⟨isFor.capacity, ?_⟩
  rw [unedited args writeBacks heap accepted index one.address one.buffer isFor.passed given]
  exact Heap.text_eq text

/-- When the buffers have been written back every byte is as host code left it, or is in a text buffer
and as it was before the call. -/
theorem written_unedited (unedited : call.Unedited) (passes : call.PassesCStrings)
    (valid : call.PassesUtf8) (place : Nat) :
    call.written.memory.read place = call.left.memory.read place ∨
      (∃ index, call.Covers index place) ∧
        call.written.memory.read place = call.world.memory.read place := by
  obtain ⟨same, -⟩ | ⟨args, writeBacks, heap, accepted, -, written⟩ := call.written_cases
  · rw [same]
    exact .inl rfl
  · have isFor := acceptEach_writeBacks (accepted_each accepted)
    have utf8 : ∀ one ∈ writeBacks,
        Text.Utf8.IsUtf8 (call.world.memory.cString one.address) := by
      intro one among
      obtain ⟨index, isFor⟩ := isFor one among
      exact valid index one.address isFor.passed
    have holds : ∀ one ∈ writeBacks,
        call.world.memory.HoldsCString one.address (call.world.memory.cString one.address) := by
      intro one among
      obtain ⟨index, isFor⟩ := isFor one among
      exact (passes.holds isFor.passed).2
    rw [written]
    obtain same | ⟨⟨one, among, reaches⟩, restored⟩ := writtenBack_restores
      (unedited.isUnedited accepted) utf8 holds call.left.memory place
    · exact .inl same
    · obtain ⟨index, isFor⟩ := isFor one among
      exact .inr ⟨⟨index, covers_of_reaches isFor reaches⟩, restored⟩

/-- The places of a text buffer are those of its bytes and of the zero behind them. -/
theorem PassesCStrings.covers_iff (passes : call.PassesCStrings) {index : Nat} {address : UInt64}
    (passed : call.bufferAt? index = some address) (place : Nat) :
    call.Covers index place ↔ ∃ position < (call.world.memory.cString address ++ [0]).length,
      place = address.toNat + position := by
  obtain ⟨-, holds⟩ := passes.holds passed
  simp only [List.length_append, List.length_singleton, Nat.lt_succ_iff]
  constructor
  · rintro ⟨other, same, lower, nonzero⟩
    obtain rfl := Option.some.inj (same.symm.trans passed)
    obtain ⟨position, rfl⟩ := Nat.exists_eq_add_of_le lower
    refine ⟨position, ?_, rfl⟩
    by_contra beyond
    apply nonzero (other.toNat + (call.world.memory.cString other).length)
      (Nat.le_add_right _ _) (by omega)
    exact holds.written _ _ List.getElem?_concat_length
  · rintro ⟨position, within, rfl⟩
    exact ⟨address, passed, Memory.inCString_of_le (by omega) (by omega)⟩

section Apart

variable (unedited : call.Unedited) {result : Except Error (Value κ)} {left : World κ}
  (ran : call.inside = some (.returned result, left)) {index : Nat} {address : UInt64}
  (passed : call.bufferAt? index = some address)
  (apart : ∀ other place, other ≠ index → call.Covers index place → ¬ call.Covers other place)
include unedited ran passed apart

/-- A text buffer that has no place in common with another one gets its own bytes, decoded and encoded
again. -/
theorem written_rewritten {position : Nat} {byte : UInt8}
    (found : (Text.Utf8.rewritten (call.world.memory.cString address) ++ [0])[position]? =
      some byte) : call.written.memory.read (address.toNat + position) = byte := by
  obtain ⟨-, missing⟩ | ⟨args, writeBacks, heap, accepted, -, written⟩ := call.written_cases
  · exact absurd ran (missing result left)
  · obtain ⟨buffer, made⟩ := acceptEach_buffer (accepted_each accepted) passed
    obtain ⟨front, back, rfl, alone⟩ := made_alone passed made apart
    have own := unedited.isUnedited accepted ⟨address, buffer⟩ (by simp)
    rw [← own.bytes_eq] at found
    rw [written]
    exact writtenBack_written alone found

/-- Such a text buffer is as it was just if its bytes are UTF-8. -/
theorem kept_iff_isUtf8 (passes : call.PassesCStrings)
    (grown : call.world.memory.size ≤ call.left.memory.size) :
    (∀ place, call.Covers index place →
      call.after.memory.read place = call.world.memory.read place) ↔
    Text.Utf8.IsUtf8 (call.world.memory.cString address) := by
  obtain ⟨nonzero, holds⟩ := passes.holds passed
  have covers := passes.covers_iff passed
  have put : ∀ (position : Nat) (byte : UInt8),
      (Text.Utf8.rewritten (call.world.memory.cString address) ++ [0])[position]? = some byte →
        call.written.memory.read (address.toNat + position) = byte :=
    fun _ _ found => written_rewritten unedited ran passed apart found
  have fits := Text.Utf8.length_rewritten_le (call.world.memory.cString address)
  generalize call.world.memory.cString address = bytes at nonzero holds covers put fits ⊢
  have upper := holds.upper
  have size := call.written_same.1
  have read : ∀ position < (bytes ++ [0]).length, call.after.memory.read
      (address.toNat + position) = call.written.memory.read (address.toNat + position) := by
    intro position inside
    simp only [List.length_append, List.length_singleton] at inside
    exact call.written_extends.kept _ (by omega)
  constructor
  · intro same
    rw [Text.Utf8.isUtf8_iff_prefix nonzero, List.prefix_iff_getElem?]
    intro position inside
    have there : position < (bytes ++ [0]).length := by
      simp only [List.length_append, List.length_singleton] at inside ⊢
      omega
    rw [List.getElem?_eq_getElem there]
    congr 1
    calc (bytes ++ [0])[position]
        = call.world.memory.read (address.toNat + position) :=
          (holds.written position _ (List.getElem?_eq_getElem there)).symm
      _ = call.after.memory.read (address.toNat + position) :=
          (same _ ((covers _).mpr ⟨position, there, rfl⟩)).symm
      _ = call.written.memory.read (address.toNat + position) := read position there
      _ = (Text.Utf8.rewritten bytes ++ [0])[position] :=
          put position _ (List.getElem?_eq_getElem inside)
  · intro valid place covered
    obtain ⟨position, there, rfl⟩ := (covers place).mp covered
    have found := List.getElem?_eq_getElem there
    rw [read position there, holds.written position _ found]
    apply put
    rw [valid.rewritten_eq, found]

end Apart

/-- Host code makes no request that can change a text or a byte, wherever its run comes to. -/
def OnlyReads (call : ClosureCall κ) : Prop :=
  ∀ args writeBacks heap code frame begun, call.accepted = .ok (args, writeBacks, heap) →
    call.closure.handler.start args { call.world with heap := heap } =
      some (code, frame, begun) →
    code.StaysReading (enterAt call.depth) frame begun

/-- Host code that only reads leaves the text buffers that it gets as they are, and native memory
too. -/
theorem OnlyReads.unedited (reads : call.OnlyReads) :
    call.Unedited ∧ call.world.memory.Extends call.left.memory := by
  cases accepted : call.accepted with
  | error error =>
    have left : call.left = call.world := by simp [ClosureCall.left, inside, accepted]
    refine ⟨?_, ?_⟩
    · intro args writeBacks heap same
      simp [accepted] at same
    · rw [left]
      exact .refl _
  | ok decoded =>
    obtain ⟨args, writeBacks, heap⟩ := decoded
    have left : call.left = (call.closure.handler.run (enterAt call.depth) args
        { call.world with heap := heap }).2 := by
      simp [ClosureCall.left, inside, accepted]
    have kept := call.closure.handler.run_keepsBytes (enterAt call.depth) args
      { call.world with heap := heap } fun code frame begun =>
        reads args writeBacks heap code frame begun accepted
    rw [← left] at kept
    refine ⟨?_, kept.memory⟩
    intro args' writeBacks' heap' same index address buffer passed given
    obtain ⟨rfl, rfl, rfl⟩ : args' = args ∧ writeBacks' = writeBacks ∧ heap' = heap := by
      simpa [accepted, eq_comm] using same
    obtain ⟨made, isMade⟩ := acceptEach_buffer (accepted_each accepted) passed
    obtain rfl : made = buffer := by simpa [isMade.value] using given
    rw [Heap.text_eq (kept.texts _ _ isMade.text), Heap.text_eq isMade.text]

/-- What a call does to native memory if its host code leaves the text buffers that it gets as they
are; they are C strings in memory that is handed out, and may overlap.

If all of them hold UTF-8, then whatever host code does to native memory otherwise, every byte that is
handed out by its end is left as it is, or is in one of the buffers and again what it was before the
call.  So if host code changes no byte, the call changes none.

Unless host code panics, or less memory is handed out by its end, a buffer that has no place in common
with another one has the same bytes before and after the call just if it holds UTF-8. -/
theorem unedited_exact (unedited : call.Unedited) (passes : call.PassesCStrings) :
    (call.PassesUtf8 →
      (∀ place, place < Memory.base + call.left.memory.size →
        call.after.memory.read place = call.left.memory.read place ∨
        (∃ index, call.Covers index place) ∧
          call.after.memory.read place = call.world.memory.read place) ∧
      (call.world.memory.Extends call.left.memory →
        call.world.memory.Extends call.after.memory)) ∧
    (call.world.memory.size ≤ call.left.memory.size →
      ∀ result left, call.inside = some (.returned result, left) →
        ∀ index address, call.bufferAt? index = some address →
          (∀ other place, other ≠ index → call.Covers index place → ¬ call.Covers other place) →
            ((∀ place, call.Covers index place →
              call.after.memory.read place = call.world.memory.read place) ↔
            Text.Utf8.IsUtf8 (call.world.memory.cString address))) := by
  have size := call.written_same.1
  constructor
  · intro valid
    have restored : ∀ place, place < Memory.base + call.left.memory.size →
        call.after.memory.read place = call.left.memory.read place ∨
        (∃ index, call.Covers index place) ∧
          call.after.memory.read place = call.world.memory.read place := by
      intro place handedOut
      rw [call.written_extends.kept place (by omega)]
      exact written_unedited unedited passes valid place
    refine ⟨restored, fun kept => ⟨?_, ?_⟩⟩
    · have grown := call.written_extends.size
      have before := kept.size
      omega
    · intro place handedOut
      have before := kept.size
      obtain same | ⟨-, same⟩ := restored place (by omega)
      · rw [same]
        exact kept.kept place handedOut
      · exact same
  · intro grown result left ran index address passed apart
    exact kept_iff_isUtf8 unedited ran passed apart passes grown

end ClosureCall

namespace Workbench

/-- A function that returns the text of a buffer. -/
def peekBody : List (Value Key) → Code Key
  | [.stringBuffer buffer] => .readBuffer buffer fun text => .done (.ok (.string text))
  | _ => .done (.ok .void)

/-- Its type. -/
def peekType : CallableType Key :=
  ⟨1, ⟨[.stringBuffer], .string⟩⟩

/-- The function behind a closure. -/
def peek : Closure Key :=
  ⟨peekType, "peek", .ofTypes peekType.signature.parameters .string, none, .function peekBody, []⟩

/-- It is called with a buffer in memory that was handed out for some bytes. -/
def peekCall (bytes : List UInt8) : ClosureCall Key :=
  let (address, memory) := Memory.empty.allocateCString bytes
  { depth := 0
    address := World.codeAddress 0
    closure := peek
    sent := [.pointer address]
    world := { (World.initial Globals.initial : World Key) with memory := memory } }

theorem peek_reads {call : ClosureCall Key} (called : call.closure = peek) : call.OnlyReads := by
  have ended {enter : Entry Key} {frame : Frame} {world : World Key}
      (result : Except Error (Value Key)) : (Code.done result).StaysReading enter frame world := by
    rintro later frame' world' (_ | ⟨stepped, _⟩)
    · exact id
    · cases stepped
  intro args writeBacks heap code frame begun accepted started
  rw [called] at started
  obtain ⟨rfl, rfl, rfl⟩ : peekBody args = code ∧ Frame.bare = frame ∧ _ = begun := by
    simpa [Handler.start, peek] using started
  unfold peekBody
  split
  · next buffer =>
    rintro later frame' world' (_ | ⟨stepped, reached⟩)
    · exact id
    · cases stepped
      exact ended _ _ _ _ reached
  · exact ended _

theorem peekCall_holds {bytes : List UInt8} (fits : (Memory.empty.allocateCString bytes).2.Fits)
    {index : Nat} {address : UInt64} (passed : (peekCall bytes).bufferAt? index = some address) :
    (peekCall bytes).world.memory.HoldsCString address bytes := by
  cases index with
  | zero =>
    obtain rfl : (Memory.empty.allocateCString bytes).1 = address := Option.some.inj passed
    exact Memory.allocateCString_holds fits
  | succ index => cases passed

/-- A buffer that holds UTF-8 is left alone. -/
theorem peekCall_kept :
    let call := peekCall (Text.Utf8.encode "naïve")
    call.world.memory.Extends call.after.memory := by
  intro call
  obtain ⟨unedited, kept⟩ : call.Unedited ∧ _ := (peek_reads rfl).unedited
  have nonzero : 0 ∉ Text.Utf8.encode "naïve" := by decide
  have passes : call.PassesCStrings := by
    intro index address passed
    exact ⟨_, nonzero, peekCall_holds (by decide) passed⟩
  have valid : call.PassesUtf8 := by
    intro index address passed
    rw [(peekCall_holds (by decide) passed).cString_eq nonzero]
    exact ⟨"naïve", rfl⟩
  exact ((ClosureCall.unedited_exact unedited passes).1 valid).2 kept

/-- One byte that is not UTF-8 becomes the end of the C string. -/
theorem peekCall_cut :
    let call := peekCall [0x61, 0xFF, 0x62]
    call.Unedited ∧ call.PassesCStrings ∧ call.world.memory.Extends call.left.memory ∧
      call.bufferAt? 0 = some (.ofNat Memory.base) ∧
      call.world.memory.cString (.ofNat Memory.base) = [0x61, 0xFF, 0x62] ∧
      call.after.memory.cString (.ofNat Memory.base) = [0x61] := by
  intro call
  obtain ⟨unedited, kept⟩ : call.Unedited ∧ _ := (peek_reads rfl).unedited
  refine ⟨unedited, ?_, kept, rfl, ?_, ?_⟩
  · intro index address passed
    exact ⟨_, by decide, peekCall_holds (by decide) passed⟩
  · decide +kernel
  · decide +kernel

end Workbench

end NativeBridge
