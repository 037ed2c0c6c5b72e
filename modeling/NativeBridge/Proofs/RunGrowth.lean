/-
Module: NativeBridge.Proofs.RunGrowth
Purpose: Whatever host code and native code do to each other, no native memory that was handed out
  is taken back, and no string buffer goes away.
Main exports: World.Grows, World.NativeKeepsMemory, Closure.give_extends, Code.step_grows,
  Code.run_grows, ClosureCall.dispatched_grows, enterAt_grows
-/
import NativeBridge.Proofs.JournalLaw
import NativeBridge.Proofs.NativeTexts
import NativeBridge.Proofs.WriteBacks

namespace NativeBridge

variable {κ : Type} [HostProgram κ]

/-!
Host code makes string buffers and has memory handed out, and it can do nothing to the contrary.
Functions that are not host code get the whole memory, so that nothing is known of these but what
they are trusted with: that they leave handed out what is handed out.
-/

/-- All memory and all string buffers are still there, and no native function has been added. -/
structure World.Grows (before after : World κ) : Prop where
  memory : before.memory.size ≤ after.memory.size
  texts : before.heap.texts.size ≤ after.heap.texts.size
  foreign : ∀ (index : Nat) parameters run, after.code[index]? = some (.foreign parameters run) →
    before.code[index]? = some (.foreign parameters run)

/-- No native function takes memory back. -/
def World.NativeKeepsMemory (world : World κ) : Prop :=
  ∀ (index : Nat) parameters run, world.code[index]? = some (.foreign parameters run) →
    ∀ raws (memory : Memory), memory.size ≤ (run raws memory).2.size

namespace World.Grows

theorem of_same {before after : World κ} (memory : after.memory = before.memory)
    (texts : after.heap.texts = before.heap.texts) (code : after.code = before.code) :
    before.Grows after := by
  refine ⟨Nat.le_of_eq (by rw [memory]), Nat.le_of_eq (by rw [texts]), ?_⟩
  intro index parameters run there
  rwa [code] at there

theorem refl (world : World κ) : world.Grows world := of_same rfl rfl rfl

theorem trans {first middle last : World κ} (one : first.Grows middle) (two : middle.Grows last) :
    first.Grows last := by
  refine ⟨Nat.le_trans one.memory two.memory, Nat.le_trans one.texts two.texts, ?_⟩
  intro index parameters run there
  exact one.foreign index parameters run (two.foreign index parameters run there)

theorem nativeKeepsMemory {before after : World κ} (grown : before.Grows after)
    (kept : before.NativeKeepsMemory) : after.NativeKeepsMemory :=
  fun index parameters run there => kept index parameters run
    (grown.foreign index parameters run there)

theorem raise (world : World κ) (error : Error) : world.Grows (world.raise error) :=
  of_same rfl rfl rfl

theorem noteReturned (world : World κ) (closure text : UInt64) :
    world.Grows (world.noteReturned closure text) := by
  unfold World.noteReturned
  cases World.codeIndex? closure with
  | none => exact refl world
  | some noted =>
    refine ⟨Nat.le_refl _, Nat.le_refl _, ?_⟩
    intro index parameters run there
    rw [Array.getElem?_modify] at there
    split at there
    · -- A closure that has returned a text is still none of the native functions.
      obtain ⟨code, found, same⟩ := Option.map_eq_some_iff.mp there
      cases code with
      | closure entry => cases same
      | foreign _ _ =>
        cases same
        exact found
    · exact there

end World.Grows

/-! ### Requests that only concern instances -/

theorem Guard.drop_texts (guard : Guard) (heap : Heap κ) :
    (guard.drop heap).texts = heap.texts := by
  unfold Guard.drop Heap.endShared
  split
  · rfl
  · split <;> rfl

theorem Frame.dropGuards_texts (frame : Frame) (heap : Heap κ) :
    (frame.dropGuards heap).texts = heap.texts := by
  unfold Frame.dropGuards
  induction frame.guards generalizing heap with
  | nil => rfl
  | cons guard guards ih => exact (ih _).trans (guard.drop_texts heap)

theorem Frame.borrow_texts {frame frame' : Frame} {cell : Nat} {exclusive : Bool}
    {heap heap' : Heap κ} (borrowed : frame.borrow cell exclusive heap = some (frame', heap')) :
    heap'.texts = heap.texts := by
  rw [Frame.borrow] at borrowed
  obtain ⟨taken, attempt, same⟩ := Option.map_eq_some_iff.mp borrowed
  cases same
  split at attempt
  all_goals
    obtain ⟨borrow, -, rfl⟩ := Option.map_eq_some_iff.mp attempt
    rfl

theorem Frame.endBorrow_texts (frame : Frame) (cell : Nat) (heap : Heap κ) :
    (frame.endBorrow cell heap).2.texts = heap.texts := by
  unfold Frame.endBorrow
  split
  · next guard _ => exact guard.drop_texts heap
  · rfl

theorem MarshalType.intoValue_texts (type : MarshalType κ) (carried : Carrier type)
    (heap : Heap κ) : (type.intoValue carried heap).2.texts = heap.texts := by
  cases type <;> rfl

theorem Heap.borrowExclusive?_texts {heap after : Heap κ} {cell : Nat}
    (borrowed : heap.borrowExclusive? cell = some after) : after.texts = heap.texts := by
  obtain ⟨borrow, -, rfl⟩ := Option.map_eq_some_iff.mp borrowed
  rfl

theorem Heap.copyOut_texts {heap after : Heap κ} {object : HostObject κ} {cell : Nat}
    (copied : heap.copyOut object = .ok (cell, after)) : after.texts = heap.texts := by
  rw [Heap.copyOut] at copied
  split at copied
  · cases copied
  · split at copied
    · cases copied
    · split at copied
      · cases copied
        rfl
      · cases copied

/-! ### Calls -/

theorem Memory.allocateRoom_extends (memory : Memory) (bytes : List UInt8) (room : Nat) :
    memory.Extends (memory.allocateRoom bytes room).2 := by
  refine ⟨Nat.le_add_right _ _, ?_⟩
  intro address inside
  have apart : ¬ (base + memory.size ≤ address ∧
      address < base + memory.size + bytes.length) := by omega
  have same := memory.read_writeAll (base + memory.size) bytes address
  rw [if_neg apart] at same
  exact same

/-- What goes on after a stretch of host code has ended with a value goes on from that value. -/
theorem Outcome.bind_ok {α β : Type} {first : Outcome α} {next : α → Outcome β} {result : β}
    (ended : (first >>= next) = .returned (.ok result)) :
    ∃ value, first = .returned (.ok value) ∧ next value = .returned (.ok result) := by
  cases first with
  | panicked message => cases ended
  | returned one =>
    cases one with
    | error error => cases ended
    | ok value => exact ⟨value, rfl, ended⟩

/-- Encoding an argument puts something behind what is handed out, or nothing anywhere. -/
theorem encodeOne_extends {heap : Heap κ} {type : HostType κ} {value : Value κ} {raw : RawValue}
    {lent : List LentBuffer} {before after : Memory}
    (encoded : encodeOne heap type value before = .returned (.ok (raw, lent, after))) :
    before.Extends after := by
  have direct (found : (do
      let raw ← giveDirect type value
      return (raw, [], before) : Outcome (RawValue × List LentBuffer × Memory)) =
        .returned (.ok (raw, lent, after))) : before.Extends after := by
    obtain ⟨raw, -, done⟩ := Outcome.bind_ok found
    cases done
    exact .refl before
  cases type with
  | string =>
    cases value with
    | string text =>
      rw [encodeOne] at encoded
      obtain ⟨bytes, -, done⟩ := Outcome.bind_ok encoded
      cases done
      exact before.allocateCString_extends bytes
    | _ => exact direct encoded
  | stringBuffer =>
    cases value with
    | stringBuffer buffer =>
      rw [encodeOne] at encoded
      split at encoded
      · cases encoded
        exact Memory.allocateRoom_extends _ _ _
      · cases encoded
    | _ => exact direct encoded
  | _ => cases value <;> exact direct encoded

theorem encodeAll_extends {heap : Heap κ} {types : List (HostType κ)} {values : List (Value κ)}
    {raws : List RawValue} {lent : List LentBuffer} {before after : Memory}
    (encoded : encodeAll heap types values before = .returned (.ok (raws, lent, after))) :
    before.Extends after := by
  induction types generalizing values raws lent before with
  | nil =>
    cases encoded
    exact .refl _
  | cons type types ih =>
    cases values with
    | nil =>
      cases encoded
      exact .refl _
    | cons value values =>
      rw [encodeAll] at encoded
      obtain ⟨⟨raw, first, middle⟩, one, others⟩ := Outcome.bind_ok encoded
      obtain ⟨⟨raws, rest, last⟩, others, done⟩ := Outcome.bind_ok others
      cases done
      exact (encodeOne_extends one).trans (ih others)

theorem readBack_texts_size (memory : Memory) (lent : List LentBuffer) (heap : Heap κ) :
    (readBack memory lent heap).texts.size = heap.texts.size := by
  induction lent generalizing heap with
  | nil => rfl
  | cons one lent ih =>
    refine (ih (heap.setText one.buffer (one.textIn memory))).trans ?_
    exact Array.size_setIfInBounds

/-- Reading a result makes at most a string buffer. -/
theorem decodeReturn_heap {memory : Memory} {raw : RawValue} {type : HostType κ}
    {heap after : Heap κ} {value : Value κ}
    (decoded : decodeReturn memory raw type heap = .ok (value, after)) :
    after = heap ∨ ∃ text, after = { heap with texts := heap.texts.push text } := by
  have direct (found : (do
      let value ← Value.fromRaw raw type
      .ok (value, heap) : Except Error (Value κ × Heap κ)) = .ok (value, after)) :
      after = heap := by
    cases read : Value.fromRaw raw type with
    | error error =>
      rw [read] at found
      cases found
    | ok value =>
      rw [read] at found
      cases found
      rfl
  cases type with
  | string =>
    cases raw with
    | pointer address =>
      rw [decodeReturn_string, cStringAt] at decoded
      split at decoded
      · cases decoded
      · cases decoded
        exact .inl rfl
    | _ => cases decoded
  | stringBuffer =>
    cases raw with
    | pointer address =>
      rw [decodeReturn_stringBuffer, cStringAt] at decoded
      split at decoded
      · cases decoded
      · cases decoded
        exact .inr ⟨_, rfl⟩
    | _ => cases decoded
  | _ => exact .inl (direct decoded)

theorem decodeReturn_keepsTexts {memory : Memory} {raw : RawValue} {type : HostType κ}
    {heap after : Heap κ} {value : Value κ}
    (decoded : decodeReturn memory raw type heap = .ok (value, after)) : heap.KeepsTexts after := by
  obtain same | ⟨text, same⟩ := decodeReturn_heap decoded
  · rw [same]
    exact .refl heap
  · rw [same]
    exact heap.push_keepsTexts text

/-- A way of calling native addresses takes nothing back. -/
def Entry.Grows (enter : Entry κ) : Prop :=
  ∀ address result raws (world : World κ), world.NativeKeepsMemory →
    world.Grows (enter address result raws world).2

section Calls

variable {enter : Entry κ} {world : World κ}

theorem ForeignFunction.callRaw_grows (entry : enter.Grows) (kept : world.NativeKeepsMemory)
    (function : ForeignFunction κ) (args : List RawValue) :
    world.Grows (function.callRaw enter args world).2 := by
  simp only [ForeignFunction.callRaw]
  split
  · split
    · exact .refl world
    · exact entry _ _ _ world kept
  · exact .refl world

/-- After the native part of a call the string buffers are those that have been read back, and at
most a new one for the result. -/
theorem ForeignFunction.callEncoded_heap (function : ForeignFunction κ) (enter : Entry κ)
    (raws : List RawValue) (lent : List LentBuffer) (world : World κ) :
    let left := (function.callRaw enter raws { world with pending := none }).2
    let called := (function.callEncoded enter raws lent world).2
    (readBack left.memory lent left.heap).KeepsTexts called.heap ∧
      called.memory = left.memory ∧ called.code = left.code := by
  intro left called
  simp only [called, left, ForeignFunction.callEncoded, World.isolate, World.takeFault]
  split
  · exact ⟨.refl _, rfl, rfl⟩
  · split
    · exact ⟨.refl _, rfl, rfl⟩
    · split
      · exact ⟨.refl _, rfl, rfl⟩
      · next decoded => exact ⟨decodeReturn_keepsTexts decoded, rfl, rfl⟩

theorem ForeignFunction.callEncoded_grows (entry : enter.Grows) (kept : world.NativeKeepsMemory)
    (function : ForeignFunction κ) (raws : List RawValue) (lent : List LentBuffer) :
    world.Grows (function.callEncoded enter raws lent world).2 := by
  have starting : World.NativeKeepsMemory { world with pending := none } := kept
  have native := function.callRaw_grows entry starting raws
  obtain ⟨texts, memory, code⟩ := function.callEncoded_heap enter raws lent world
  have size := texts.size_le
  rw [readBack_texts_size] at size
  refine ⟨?_, Nat.le_trans native.texts size, ?_⟩
  · rw [memory]
    exact native.memory
  · rw [code]
    exact native.foreign

theorem ForeignFunction.call_grows (entry : enter.Grows) (kept : world.NativeKeepsMemory)
    (function : ForeignFunction κ) (args : List (Value κ)) :
    world.Grows (function.call enter args world).2 := by
  rw [call_eq_encoded]
  cases encoded : function.encoded args world with
  | panicked message => exact .refl world
  | returned result =>
    cases result with
    | error error => exact .refl world
    | ok result =>
      rcases result with ⟨raws, lent, memory⟩
      have extended : world.memory.Extends memory := by
        rw [ForeignFunction.encoded] at encoded
        split at encoded
        · exact encodeAll_extends encoded
        · cases encoded
      have prepared : world.Grows { world with memory := memory } :=
        ⟨extended.size, Nat.le_refl _, fun _ _ _ there => there⟩
      exact prepared.trans (function.callEncoded_grows entry (prepared.nativeKeepsMemory kept) raws
        lent)

/-! ### Runs -/

/-- No request takes anything back. -/
theorem Code.step_grows (entry : enter.Grows) (kept : world.NativeKeepsMemory) (code : Code κ)
    (frame : Frame) : world.Grows (code.step enter frame world).world := by
  cases code with
  | done result => exact .of_same rfl (frame.dropGuards_texts _) rfl
  | panic message => exact .of_same rfl (frame.dropGuards_texts _) rfl
  | newBuffer text capacity next =>
    refine ⟨Nat.le_refl _, ?_, fun _ _ _ there => there⟩
    show _ ≤ (world.heap.texts.push text).size
    rw [Array.size_push]
    exact Nat.le_succ _
  | writeBuffer buffer text next =>
    exact ⟨Nat.le_refl _, Nat.le_of_eq Array.size_setIfInBounds.symm, fun _ _ _ there => there⟩
  | borrow object exclusive next =>
    simp only [Code.step]
    cases borrowed : frame.borrow object.cell exclusive world.heap with
    | none => exact .refl world
    | some taken => exact .of_same rfl (Frame.borrow_texts borrowed) rfl
  | endBorrow object next => exact .of_same rfl (frame.endBorrow_texts _ _) rfl
  | writeObject object key state next =>
    simp only [Code.step]
    split <;> exact .of_same rfl rfl rfl
  | writeReceiver key state next =>
    simp only [Code.step]
    split <;> exact .of_same rfl rfl rfl
  | marshal type carried next => exact .of_same rfl (type.intoValue_texts carried _) rfl
  | call function args next =>
    have called := function.call_grows entry kept args
    simp only [Code.step]
    split
    · next message last same =>
      rw [same] at called
      exact called.trans (.of_same rfl (frame.dropGuards_texts _) rfl)
    · next result last same =>
      rw [same] at called
      exact called
  | callRaw function args next => exact function.callRaw_grows entry kept args
  | nativeText text next =>
    have extended := world.memory.allocateCString_extends (Text.Utf8.encode text)
    exact ⟨extended.size, Nat.le_refl _, fun _ _ _ there => there⟩
  | releaseHandle registry handle next =>
    simp only [Code.step, World.releaseHandle]
    cases (world.registry registry).release handle <;> exact .of_same rfl rfl rfl
  | _ => exact .of_same rfl rfl rfl

/-- No run of host code takes anything back. -/
theorem Code.run_grows (entry : enter.Grows) (kept : world.NativeKeepsMemory) (code : Code κ)
    (frame : Frame) : world.Grows (code.run enter frame world).2 := by
  induction code using Code.follows_wellFounded.induction generalizing frame world with
  | _ code ih =>
    have stepped := code.step_grows entry kept frame
    rw [Code.run_eq_step]
    cases same : code.step enter frame world with
    | ended outcome last =>
      rw [same] at stepped
      exact stepped
    | rest rest frame' last =>
      rw [same] at stepped
      exact stepped.trans (ih rest ⟨_, _, _, _, _, same⟩ (stepped.nativeKeepsMemory kept) frame')

/-- A handler runs one program, if any, and does nothing around it but to borrow or to copy the
receiver and to give it back. -/
theorem Handler.run_begun (enter : Entry κ) (handler : Handler κ) (args : List (Value κ))
    (world : World κ) :
    match handler.start args world with
    | some (code, frame, begun) =>
        ∃ heap outcome left closed,
          begun = { world with heap := heap } ∧ heap.texts = world.heap.texts ∧
          code.run enter frame begun = (outcome, left) ∧
          handler.run enter args world = (outcome, { left with heap := closed }) ∧
          closed.texts = left.heap.texts
    | none => ∃ error, handler.run enter args world = (.returned (.error error), world) := by
  cases handler with
  | function body => exact ⟨_, _, _, _, rfl, rfl, rfl, rfl, rfl⟩
  | member dispatch target =>
    cases dispatch with
    | static => exact ⟨_, _, _, _, rfl, rfl, rfl, rfl, rfl⟩
    | virtual =>
      cases args with
      | nil => exact ⟨_, rfl⟩
      | cons first rest =>
        cases first with
        | object object =>
          simp only [Handler.start, Handler.run, runOnReceiver, runVirtual]
          cases borrowed : world.heap.borrowExclusive? object.cell with
          | none => exact ⟨_, rfl⟩
          | some heap =>
            exact ⟨_, _, _, _, rfl, Heap.borrowExclusive?_texts borrowed, rfl, rfl, rfl⟩
        | _ => exact ⟨_, rfl⟩
    | copied =>
      cases args with
      | nil => exact ⟨_, rfl⟩
      | cons first rest =>
        cases first with
        | object object =>
          simp only [Handler.start, Handler.run, runOnReceiver, runCopied]
          cases copied : world.heap.copyOut object with
          | error error => exact ⟨_, rfl⟩
          | ok copy => exact ⟨_, _, _, _, rfl, Heap.copyOut_texts copied, rfl, rfl, rfl⟩
        | _ => exact ⟨_, rfl⟩

theorem Handler.run_grows (entry : enter.Grows) (kept : world.NativeKeepsMemory)
    (handler : Handler κ) (args : List (Value κ)) :
    world.Grows (handler.run enter args world).2 := by
  have runs := handler.run_begun enter args world
  cases started : handler.start args world with
  | none =>
    rw [started] at runs
    obtain ⟨error, same⟩ := runs
    rw [same]
    exact .refl world
  | some first =>
    rcases first with ⟨code, frame, begun⟩
    rw [started] at runs
    obtain ⟨heap, outcome, left, closed, rfl, opened, ran, same, texts⟩ := runs
    have begins : world.Grows { world with heap := heap } := .of_same rfl opened rfl
    have grown := code.run_grows entry (begins.nativeKeepsMemory kept) frame
    rw [ran] at grown
    rw [same]
    exact (begins.trans grown).trans (.of_same rfl texts rfl)

end Calls

/-! ### Closures -/

/-- Encoding a result copies a text and notes its address, or gives a handle out, or does nothing. -/
theorem Closure.give_cases (closure : Closure κ) (address : UInt64) (value : Value κ)
    (world : World κ) :
    (closure.give address value world).2 = world ∨
    (∃ bytes, (closure.give address value world).2 =
      (world.allocateCString bytes).2.noteReturned address (world.allocateCString bytes).1) ∨
    ∃ registry object, (closure.give address value world).2 =
      (world.allocateHandle registry object).2 := by
  unfold Closure.give
  cases closure.plan.result.type with
  | string =>
    cases value with
    | string text =>
      dsimp only
      cases cBytes text with
      | error error => exact .inl rfl
      | ok bytes => exact .inr (.inl ⟨bytes, rfl⟩)
    | _ => exact .inl rfl
  | stringBuffer =>
    cases value with
    | stringBuffer buffer =>
      dsimp only
      cases cBytes (world.heap.text buffer) with
      | error error => exact .inl rfl
      | ok bytes => exact .inr (.inl ⟨bytes, rfl⟩)
    | _ => exact .inl rfl
  | object type =>
    cases value with
    | object object =>
      dsimp only
      cases object.expectType type with
      | error error => exact .inl rfl
      | ok expected =>
        cases closure.registry with
        | none => exact .inl rfl
        | some registry => exact .inr (.inr ⟨registry, object, rfl⟩)
    | _ => exact .inl rfl
  | _ => exact .inl rfl

/-- Encoding a result puts something behind what is handed out, or nothing anywhere, and leaves
string buffers and instances alone. -/
theorem Closure.give_extends (closure : Closure κ) (address : UInt64) (value : Value κ)
    (world : World κ) :
    let given := (closure.give address value world).2
    given.heap = world.heap ∧ world.memory.Extends given.memory ∧ world.Grows given := by
  intro given
  obtain same | ⟨bytes, same⟩ | ⟨registry, object, same⟩ :=
    closure.give_cases address value world
  · rw [show given = world from same]
    exact ⟨rfl, .refl _, .refl world⟩
  · have extended := world.memory.allocateCString_extends bytes
    have allocated : world.Grows (world.allocateCString bytes).2 :=
      ⟨extended.size, Nat.le_refl _, fun _ _ _ there => there⟩
    have noted := allocated.trans (.noteReturned (world.allocateCString bytes).2 address
      (world.allocateCString bytes).1)
    rw [show given = _ from same]
    refine ⟨?_, ?_, noted⟩
    · rw [World.noteReturned]
      split <;> rfl
    · rw [World.noteReturned]
      split <;> exact extended
  · rw [show given = _ from same]
    exact ⟨rfl, .refl _, .of_same rfl rfl rfl⟩

theorem applyWriteBacks_size (writeBacks : List WriteBack) (world : World κ) :
    (applyWriteBacks writeBacks world).memory.size = world.memory.size := by
  show (writtenBack writeBacks world.heap world.memory).size = world.memory.size
  generalize world.memory = memory
  induction writeBacks generalizing memory with
  | nil => rfl
  | cons one rest ih => exact ih (one.apply world.heap memory)

namespace ClosureCall

/-- A fault changes nothing but the slot for it. -/
theorem after_same (call : ClosureCall κ) :
    call.after.heap = call.dispatched.2.heap ∧ call.after.memory = call.dispatched.2.memory ∧
      call.after.code = call.dispatched.2.code := by
  rw [ClosureCall.after]
  cases call.fault? <;> exact ⟨rfl, rfl, rfl⟩

/-- Instances and string buffers are as the host code left them when a call has ended. -/
theorem finish_heap (call : ClosureCall κ) (writeBacks : List WriteBack)
    (ended : Outcome (Value κ) × World κ) :
    (call.finish writeBacks ended).2.heap = ended.2.heap := by
  rcases ended with ⟨outcome, left⟩
  cases outcome with
  | panicked message => rfl
  | returned result =>
    cases result with
    | error error => rfl
    | ok value =>
      exact (call.closure.give_extends call.address value (applyWriteBacks writeBacks left)).1

/-- Instances and string buffers are as the host code left them when a call has come back. -/
theorem after_heap (call : ClosureCall κ) : call.after.heap = call.left.heap := by
  rw [call.after_same.1, dispatched_eq, left, inside]
  cases call.accepted with
  | error error => rfl
  | ok decoded =>
    rcases decoded with ⟨args, writeBacks, heap⟩
    exact call.finish_heap writeBacks _

/-- What is left of a call when its host code has ended takes nothing back. -/
theorem finish_grows (call : ClosureCall κ) (writeBacks : List WriteBack)
    (ended : Outcome (Value κ) × World κ) : ended.2.Grows (call.finish writeBacks ended).2 := by
  rcases ended with ⟨outcome, left⟩
  have written : left.Grows (applyWriteBacks writeBacks left) :=
    ⟨Nat.le_of_eq (applyWriteBacks_size writeBacks left).symm, Nat.le_refl _,
      fun _ _ _ there => there⟩
  cases outcome with
  | panicked message => exact .refl left
  | returned result =>
    cases result with
    | error error => exact written
    | ok value =>
      obtain ⟨-, -, given⟩ :=
        call.closure.give_extends call.address value (applyWriteBacks writeBacks left)
      exact written.trans given

theorem dispatched_grows (call : ClosureCall κ) (entry : (enterAt (κ := κ) call.depth).Grows)
    (kept : call.world.NativeKeepsMemory) : call.world.Grows call.dispatched.2 := by
  rw [call.dispatched_eq]
  cases accepted : call.accepted with
  | error error => exact .refl _
  | ok decoded =>
    rcases decoded with ⟨args, writeBacks, heap⟩
    have begun : call.world.Grows { call.world with heap := heap } :=
      ⟨Nat.le_refl _, (acceptEach_keepsTexts (accepted_each accepted)).size_le,
        fun _ _ _ there => there⟩
    have ran := call.closure.handler.run_grows entry (begun.nativeKeepsMemory kept) args
    exact (begun.trans ran).trans (call.finish_grows writeBacks _)

end ClosureCall

/-- No call of a native address takes anything back. -/
theorem enterAt_grows (depth : Nat) : (enterAt (κ := κ) depth).Grows := by
  -- A closure entered at one depth enters others at the depth below only.
  induction depth with
  | zero =>
    intro address result raws world kept
    exact .raise world _
  | succ depth ih =>
    intro address result raws world kept
    simp only [enterAt]
    cases found : world.codeAt? address with
    | none => exact .refl world
    | some code =>
      cases code with
      | foreign parameters run =>
        obtain ⟨index, -, there⟩ := Option.bind_eq_some_iff.mp found
        exact ⟨kept index parameters run there _ _, Nat.le_refl _, fun _ _ _ there => there⟩
      | closure closure =>
        let call : ClosureCall κ := ⟨depth, address, closure, raws, world⟩
        have entered : (closure.enter (enterAt depth) address raws world).2 = call.after :=
          JournalLaw.enter_after closure depth address raws world
        obtain ⟨heap, memory, code⟩ := call.after_same
        have dispatched := call.dispatched_grows ih kept
        show world.Grows (closure.enter (enterAt depth) address raws world).2
        rw [entered]
        exact dispatched.trans (.of_same memory (by rw [heap]) code)

end NativeBridge
