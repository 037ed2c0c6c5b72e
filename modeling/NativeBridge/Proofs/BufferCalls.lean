/-
Module: NativeBridge.Proofs.BufferCalls
Purpose: A string buffer that is passed to a wrapped host function comes back with what the function
  left in its own buffer, cut to the room that both of them have.
Main exports: ClosureCall.finish_memory, LentAt.given, LentAt.writtenBack, World.call_wrap_buffer
-/
import NativeBridge.Proofs.LentBuffers
import NativeBridge.Proofs.WrapRoundTrip

namespace NativeBridge

variable {κ : Type} [HostProgram κ]

/-!
The text of a buffer passes two cuts.  The room lent for it has the capacity of the buffer, and what
is lent is the text cut to that.  The host function gets a buffer of its own, whose capacity is the
number of bytes that were lent, and what it leaves there is cut to that before it is put back.
-/

/-! ### The end of a call -/

theorem Memory.Spells.extend {memory later : Memory} {address : Nat} {bytes : List UInt8}
    (spelled : memory.Spells address bytes) (grown : memory.Extends later)
    (inside : address + bytes.length < base + memory.size) : later.Spells address bytes := by
  refine ⟨spelled.nonzero, ?_⟩
  intro index byte found
  have within : index < (bytes ++ [0]).length := (List.getElem?_eq_some_iff.mp found).1
  rw [List.length_append, List.length_singleton] at within
  rw [grown.kept _ (by omega)]
  exact spelled.written index byte found

namespace ClosureCall

variable {call : ClosureCall κ} {writeBacks : List WriteBack} {left : World κ}

/-- Unless the host code panicked, nothing that was written back is changed any more. -/
theorem finish_memory (call : ClosureCall κ) (writeBacks : List WriteBack)
    (result : Except Error (Value κ)) (left : World κ) :
    (applyWriteBacks writeBacks left).memory.Extends
      (call.finish writeBacks (.returned result, left)).2.memory := by
  cases result with
  | error error => exact .refl _
  | ok value =>
    exact (call.closure.give_extends call.address value (applyWriteBacks writeBacks left)).2.1

theorem fault?_failed {error : Error}
    (dispatched : call.dispatched = (.returned (.error error), left)) :
    call.fault? = some error := by
  rw [fault?, outcome, dispatched]

theorem fault?_panicked {message : Option String}
    (dispatched : call.dispatched = (.panicked message, left)) :
    call.fault? = some (.panicked (panicText message)) := by
  rw [fault?, outcome, dispatched]

/-- A fault is pending after a call unless it gave a result; it is the first one. -/
theorem after_pending {fault : Error} (raised : call.fault? = some fault) :
    call.after.pending = some (call.dispatched.2.pending.getD fault) := by
  rw [ClosureCall.after, raised]
  show call.dispatched.2.pending.or (some fault) = _
  cases call.dispatched.2.pending <;> rfl

end ClosureCall

/-! ### Lent memory -/

namespace LentAt

variable {heap now last : Heap κ} {types : List (HostType κ)} {values seen : List (Value κ)}
  {before after : Memory} {raws : List RawValue} {lent : List LentBuffer} {index : Nat}
  {buffer inner : StringBuffer} {place : UInt64} {writeBacks : List WriteBack}

/-- What is lent has no zero but its terminator. -/
theorem spells (lentAt : LentAt heap types values before raws lent after index buffer place)
    (clean : '\x00' ∉ (heap.text buffer).toList) :
    after.Spells place.toNat (Text.Utf8.encode (heap.truncatedText buffer)) :=
  ⟨(Text.Utf8.truncate_isCut _ _).nonzero clean, lentAt.holds.written⟩

/-- Host code gets as much of the front of the text as has room, in a buffer that is full. -/
theorem given (lentAt : LentAt heap types values before raws lent after index buffer place)
    (clean : '\x00' ∉ (heap.text buffer).toList)
    (made : MadeAt after (types.map .ofType) raws seen writeBacks now last index place inner) :
    last.text inner = heap.truncatedText buffer ∧
      inner.capacity = (Text.Utf8.encode (heap.truncatedText buffer)).length := by
  have decoded := lentAt.holds.cString_eq (lentAt.spells clean).nonzero
  have text := made.text
  have capacity := made.capacity
  rw [decoded] at text capacity
  rw [Text.Utf8.decodeLossy_encode] at text
  exact ⟨Heap.text_eq text, capacity⟩

/-- That buffer has no more room than the one that was passed. -/
theorem capacity_le (lentAt : LentAt heap types values before raws lent after index buffer place)
    (clean : '\x00' ∉ (heap.text buffer).toList)
    (made : MadeAt after (types.map .ofType) raws seen writeBacks now last index place inner) :
    inner.capacity ≤ buffer.capacity := by
  rw [(lentAt.given clean made).2]
  exact heap.length_truncatedText_le buffer

/-- When buffers have been written back the lent memory has as much of the front of what host code
left as there is room for, however the other buffers are written back. -/
theorem writtenBack (lentAt : LentAt heap types values before raws lent after index buffer place)
    (clean : '\x00' ∉ (heap.text buffer).toList)
    (made : MadeAt after (types.map .ofType) raws seen writeBacks now last index place inner)
    {left : World κ} (given : '\x00' ∉ (left.heap.text inner).toList) :
    (applyWriteBacks writeBacks left).memory.Spells place.toNat
      (Text.Utf8.encode (left.heap.truncatedText inner)) := by
  have fits := lentAt.capacity_le clean made
  obtain ⟨front, back, rfl, others⟩ := made.writtenBack
  have alone : ∀ spot, WriteBack.Reaches ⟨place, inner⟩ spot →
      ∀ other ∈ back, ¬ other.Reaches spot := by
    rintro spot ⟨start, stop⟩ other found ⟨otherStart, otherStop⟩
    obtain ⟨otherIndex, different, isFor⟩ := others other (List.mem_append_right _ found)
    rw [isFor.capacity] at otherStop
    dsimp only at start stop
    rcases lentAt.apart otherIndex other.address different isFor.passed with ahead | behind
    · have short := ahead.length_lt
      omega
    · omega
  exact writtenBack_spells alone given

/-- Unless host code panicked, what it left is read back, cut to its room. -/
theorem textIn_finish (lentAt : LentAt heap types values before raws lent after index buffer place)
    (clean : '\x00' ∉ (heap.text buffer).toList)
    (made : MadeAt after (types.map .ofType) raws seen writeBacks now last index place inner)
    {left : World κ} (kept : after.size ≤ left.memory.size)
    (given : '\x00' ∉ (left.heap.text inner).toList) (call : ClosureCall κ)
    (result : Except Error (Value κ)) :
    LentBuffer.textIn ⟨place, buffer⟩ (call.finish writeBacks (.returned result, left)).2.memory =
      left.heap.truncatedText inner := by
  have fits := lentAt.capacity_le clean made
  have short := left.heap.length_truncatedText_le inner
  have upper := lentAt.upper
  refine LentBuffer.textIn_eq (Memory.Spells.extend (lentAt.writtenBack clean made given)
    (call.finish_memory writeBacks result left) ?_) (Nat.le_trans short fits)
  rw [applyWriteBacks_size]
  dsimp only
  omega

/-- As long as nobody has written to it the lent memory has what was put there. -/
theorem textIn_untouched
    (lentAt : LentAt heap types values before raws lent after index buffer place)
    (clean : '\x00' ∉ (heap.text buffer).toList) {later : Memory}
    (untouched : ∀ spot, Memory.base + before.size ≤ spot → spot < Memory.base + after.size →
      later.read spot = after.read spot) :
    LentBuffer.textIn ⟨place, buffer⟩ later = heap.truncatedText buffer := by
  have short := heap.length_truncatedText_le buffer
  have lower := lentAt.lower
  have upper := lentAt.upper
  have spells := lentAt.spells clean
  refine LentBuffer.textIn_eq ⟨spells.nonzero, ?_⟩ short
  intro offset byte found
  have within : offset < _ := (List.getElem?_eq_some_iff.mp found).1
  rw [List.length_append, List.length_singleton] at within
  have same := untouched (place.toNat + offset) (by omega) (by omega)
  exact same.trans (spells.written offset byte found)

end LentAt

/-! ### Calls of wrapped functions -/

namespace ForeignFunction

variable {function : ForeignFunction κ} {args : List (Value κ)} {raws : List RawValue}
  {lent : List LentBuffer} {now : World κ} {memory : Memory} {closure : Closure κ} {depth : Nat}

/-- The native part of a call through the address of a closure is a call of the closure. -/
theorem callRaw_after (there : now.codeAt? function.address = some (.closure closure))
    (abis : raws.map RawValue.abi = function.type.signature.parameters.map HostType.abi)
    (memory : Memory) (depth : Nat) :
    (function.callRaw (enterAt (depth + 1)) raws (nativeStart now memory)).2 =
      ClosureCall.after ⟨depth, function.address, closure, raws, nativeStart now memory⟩ := by
  have found : (nativeStart now memory).codeAt? function.address = some (.closure closure) := there
  rw [callRaw_closure found abis depth]
  exact JournalLaw.enter_after closure depth function.address raws _

section

variable (encoded : function.encoded args now = .returned (.ok (raws, lent, memory)))
  (there : now.codeAt? function.address = some (.closure closure))
  (abis : raws.map RawValue.abi = function.type.signature.parameters.map HostType.abi)

include encoded there abis

/-- After a call through the address of a closure the lent memory has been read back. -/
theorem call_readBack :
    let entry : ClosureCall κ := ⟨depth, function.address, closure, raws, nativeStart now memory⟩
    (readBack entry.dispatched.2.memory lent entry.dispatched.2.heap).KeepsTexts
      (function.call (enterAt (depth + 1)) args now).2.heap := by
  intro entry
  have native := callRaw_after there abis memory depth
  obtain ⟨heap, bytes, -⟩ := entry.after_same
  obtain ⟨texts, -⟩ :=
    function.callEncoded_heap (enterAt (depth + 1)) raws lent { now with memory := memory }
  have left : (function.callRaw (enterAt (depth + 1)) raws
      { now with memory := memory, pending := none }).2 = entry.after := native
  rw [call_eq_encoded, encoded]
  rwa [left, heap, bytes] at texts

/-- A string buffer that nothing was lent for is as the closure left it. -/
theorem call_unlent {buffer : StringBuffer}
    (apart : ∀ one ∈ lent, one.buffer.cell ≠ buffer.cell) :
    let entry : ClosureCall κ := ⟨depth, function.address, closure, raws, nativeStart now memory⟩
    buffer.cell < entry.dispatched.2.heap.texts.size →
      (function.call (enterAt (depth + 1)) args now).2.heap.text buffer =
        entry.dispatched.2.heap.text buffer := by
  intro entry stored
  have left := Array.getElem?_eq_getElem stored
  rw [Heap.text_eq left]
  apply Heap.text_eq
  apply call_readBack encoded there abis
  rw [readBack_apart apart]
  exact left

/-- A call through the address of a closure fails with the first fault raised in it. -/
theorem call_faulty {fault : Error} :
    let entry : ClosureCall κ := ⟨depth, function.address, closure, raws, nativeStart now memory⟩
    entry.fault? = some fault → (function.call (enterAt (depth + 1)) args now).1 =
      .returned (.error (entry.dispatched.2.pending.getD fault)) := by
  intro entry raised
  have native := callRaw_after there abis memory depth
  have left : (function.callRaw (enterAt (depth + 1)) raws
      { now with memory := memory, pending := none }).2 = entry.after := native
  have pending := entry.after_pending raised
  rw [call_eq_encoded, encoded]
  simp only [callEncoded, World.isolate, World.takeFault, left, pending]

end

/-- A string buffer that memory was lent for once, and its clones, have the text that is left there. -/
theorem call_lent {front back : List LentBuffer} {one : LentBuffer} {clone : StringBuffer}
    (encoded : function.encoded args now = .returned (.ok (raws, front ++ one :: back, memory)))
    (there : now.codeAt? function.address = some (.closure closure))
    (abis : raws.map RawValue.abi = function.type.signature.parameters.map HostType.abi)
    (once : ∀ other ∈ back, other.buffer.cell ≠ one.buffer.cell)
    (same : clone.cell = one.buffer.cell) :
    let entry : ClosureCall κ := ⟨depth, function.address, closure, raws, nativeStart now memory⟩
    one.buffer.cell < entry.dispatched.2.heap.texts.size →
      (function.call (enterAt (depth + 1)) args now).2.heap.text clone =
        one.textIn entry.dispatched.2.memory := by
  intro entry stored
  apply Heap.text_eq
  rw [same]
  exact call_readBack encoded there abis _ _ (readBack_lent stored once)

end ForeignFunction

/-- A call runs a host function once, on some argument values and from some state of the process. -/
def ForeignFunction.RunsOnce (function : ForeignFunction κ) (depth : Nat) (args : List (Value κ))
    (now : World κ) (body : List (Value κ) → Code κ) (seen : List (Value κ)) (start : World κ) :
    Prop :=
  ∃ (entry : ClosureCall κ) (writeBacks : List WriteBack), entry.closure.handler = .function body ∧
    entry.accepted = .ok (seen, writeBacks, start.heap) ∧
    start = { entry.world with heap := start.heap } ∧
    function.journal (enterJournal (depth + 1)) args now =
      (.entered entry :: (body seen).journal (enterAt depth) (enterJournal depth) .bare start ++
        entry.closing).map Event.deeper

/-- The string buffer that a host function gets for one that is passed to it: it is new, it has as
much of the front of the text as has room, and it has no more room than that. -/
structure StringBuffer.StandsFor (inner buffer : StringBuffer) (now start : World κ) : Prop where
  fresh : now.heap.texts.size ≤ inner.cell
  stored : inner.cell < start.heap.texts.size
  text : Text.Utf8.IsCut (now.heap.text buffer) buffer.capacity (start.heap.text inner)
  full : inner.capacity = (Text.Utf8.encode (start.heap.text inner)).length

/-- What comes of a call and of the string buffers when a host function ran that got a buffer of its
own for one that was passed.  The clones of that one have what the function left, cut to the room of
its own buffer, whether it returned a value or an error; if it panicked, and nobody wrote to the
memory handed out for the arguments, they have what the function was given.  Other buffers are as
the function left them. -/
structure StringBuffer.BroughtBack (buffer inner : StringBuffer) (args : List (Value κ))
    (now start : World κ) (ran call : Outcome (Value κ) × World κ) : Prop where
  returned : ∀ result (clone : StringBuffer), ran.1 = .returned result →
    '\x00' ∉ (ran.2.heap.text inner).toList → clone.cell = buffer.cell →
      Text.Utf8.IsCut (ran.2.heap.text inner) inner.capacity (call.2.heap.text clone)
  failed : ∀ error, ran.1 = .returned (.error error) →
    call.1 = .returned (.error (ran.2.pending.getD error))
  panicked : ∀ message, ran.1 = .panicked message →
    call.1 = .returned (.error (ran.2.pending.getD (.panicked (panicText message))))
  untouched : ∀ message (clone : StringBuffer), ran.1 = .panicked message →
    (∀ spot, Memory.base + now.memory.size ≤ spot → spot < Memory.base + start.memory.size →
      ran.2.memory.read spot = start.memory.read spot) →
    clone.cell = buffer.cell → call.2.heap.text clone = start.heap.text inner
  others : ∀ other : StringBuffer, other.cell < now.heap.texts.size →
    (∀ clone, .stringBuffer clone ∈ args → clone.cell ≠ other.cell) →
      start.heap.text other = now.heap.text other ∧
        call.2.heap.text other = ran.2.heap.text other

/-! ### Host code without native calls -/

namespace Code

variable {enter : Entry κ} {code : Code κ} {frame : Frame} {world : World κ}

/-- No native call is made in a run of host code. -/
def MakesNoNativeCall (enter : Entry κ) (code : Code κ) (frame : Frame) (world : World κ) : Prop :=
  code.MakesNoRawCall enter frame world ∧ ∀ function args next frame' now,
    ¬ code.Reaches enter frame world (.call function args next) frame' now

/-- A request that is no native call writes to no memory that was handed out before. -/
theorem step_extends (raw : ∀ function args next, code ≠ .callRaw function args next)
    (values : ∀ function args next, code ≠ .call function args next) :
    world.memory.Extends (code.step enter frame world).world.memory := by
  cases code with
  | callRaw function args next => exact absurd rfl (raw function args next)
  | call function args next => exact absurd rfl (values function args next)
  | nativeText text next => exact world.memory.allocateCString_extends _
  | borrow object exclusive next =>
    simp only [step]
    cases frame.borrow object.cell exclusive world.heap <;> exact .refl _
  | writeObject object key state next =>
    simp only [step]
    split <;> exact .refl _
  | writeReceiver key state next =>
    simp only [step]
    split <;> exact .refl _
  | releaseHandle registry handle next =>
    simp only [step, World.releaseHandle]
    cases (world.registry registry).release handle <;> exact .refl _
  | _ => exact .refl _

/-- A run without native calls writes to no memory that was handed out before. -/
theorem run_extends (alone : code.MakesNoNativeCall enter frame world) :
    world.memory.Extends (code.run enter frame world).2.memory := by
  induction code using Code.follows_wellFounded.induction generalizing frame world with
  | _ code ih =>
    have stepped : world.memory.Extends (code.step enter frame world).world.memory := by
      apply step_extends
      · rintro function args next rfl
        exact alone.1 function args next frame world .here
      · rintro function args next rfl
        exact alone.2 function args next frame world .here
    rw [run_eq_step]
    cases same : code.step enter frame world with
    | ended outcome last =>
      rw [same] at stepped
      exact stepped
    | rest rest frame' last =>
      rw [same] at stepped
      have later : rest.MakesNoNativeCall enter frame' last := by
        constructor
        · intro function args next frame'' now reached
          exact alone.1 function args next frame'' now (.next same reached)
        · intro function args next frame'' now reached
          exact alone.2 function args next frame'' now (.next same reached)
      exact stepped.trans (ih rest ⟨_, _, _, _, _, same⟩ later)

end Code

/-- If a function that makes no native call panics, the front of the text that it was given is
brought back. -/
theorem StringBuffer.BroughtBack.restored {buffer inner clone : StringBuffer}
    {args : List (Value κ)} {now start : World κ} {call : Outcome (Value κ) × World κ}
    {enter : Entry κ} {code : Code κ} {frame : Frame} {message : Option String}
    (back : buffer.BroughtBack inner args now start (code.run enter frame start) call)
    (alone : code.MakesNoNativeCall enter frame start)
    (panicked : (code.run enter frame start).1 = .panicked message)
    (same : clone.cell = buffer.cell) : call.2.heap.text clone = start.heap.text inner := by
  apply back.untouched message clone panicked _ same
  intro spot _ inside
  exact (Code.run_extends alone).kept spot inside

/-! ### A buffer that is passed once -/

/-- A string buffer that is lent memory once in a call of a wrapped function is brought back. -/
theorem Closure.Wraps.broughtBack {closure : Closure κ} (function : ForeignFunction κ)
    {body : List (Value κ) → Code κ} (wraps : closure.Wraps function.type body)
    {args seen : List (Value κ)} {raws : List RawValue} {lent : List LentBuffer} {now : World κ}
    {memory : Memory} {heap : Heap κ} {writeBacks : List WriteBack} {index depth : Nat}
    {buffer inner : StringBuffer} {place : UInt64}
    (there : now.codeAt? function.address = some (.closure closure))
    (sent : SentAll now.heap now.memory function.type.signature.parameters args now.memory raws lent
      memory)
    (encoded : function.encoded args now = .returned (.ok (raws, lent, memory)))
    (lentAt : LentAt now.heap function.type.signature.parameters args now.memory raws lent memory
      index buffer place)
    (madeAt : MadeAt memory (function.type.signature.parameters.map .ofType) raws seen writeBacks
      now.heap heap index place inner)
    (accepted : ClosureCall.accepted ⟨depth, function.address, closure, raws,
      ForeignFunction.nativeStart now memory⟩ = .ok (seen, writeBacks, heap))
    (keeps : now.heap.KeepsTexts heap) (native : now.NativeKeepsMemory)
    (once : ∀ other clone, other ≠ index → args[other]? = some (.stringBuffer clone) →
      clone.cell ≠ buffer.cell)
    (stored : buffer.cell < now.heap.texts.size)
    (clean : '\x00' ∉ (now.heap.text buffer).toList) :
    let start : World κ := { ForeignFunction.nativeStart now memory with heap := heap }
    buffer.BroughtBack inner args now start ((body seen).run (enterAt depth) .bare start)
      (function.call (enterAt (depth + 1)) args now) := by
  intro start
  let entry : ClosureCall κ :=
    ⟨depth, function.address, closure, raws, ForeignFunction.nativeStart now memory⟩
  generalize same : (body seen).run (enterAt depth) .bare start = ran
  have dispatched : entry.dispatched = entry.finish writeBacks ran := by
    rw [entry.dispatched_eq, accepted, show entry.closure.handler = _ from wraps.handler, ← same]
    rfl
  have starting : start.NativeKeepsMemory := native
  have grown : start.Grows ran.2 := by
    rw [← same]
    exact (body seen).run_grows (enterAt_grows depth) starting .bare
  have size : now.heap.texts.size ≤ entry.dispatched.2.heap.texts.size := by
    rw [dispatched, entry.finish_heap]
    exact Nat.le_trans keeps.size_le grown.texts
  have fault {error : Error} (raised : entry.fault? = some error) :=
    ForeignFunction.call_faulty encoded there sent.abis raised
  have text (clone : StringBuffer) (same : clone.cell = buffer.cell) :
      (function.call (enterAt (depth + 1)) args now).2.heap.text clone =
        LentBuffer.textIn ⟨place, buffer⟩ (entry.finish writeBacks ran).2.memory := by
    obtain ⟨front, back, rfl, others⟩ := lentAt.others
    rw [← dispatched]
    refine ForeignFunction.call_lent encoded there sent.abis ?_ same
      (Nat.lt_of_lt_of_le stored size)
    intro one found
    obtain ⟨other, different, same⟩ := others one (List.mem_append_right _ found)
    exact once other one.buffer different same
  obtain ⟨outcome, left⟩ := ran
  refine ⟨?_, ?_, ?_, ?_, ?_⟩
  · rintro result clone rfl kept same
    rw [text clone same, lentAt.textIn_finish clean madeAt grown.memory kept]
    exact Text.Utf8.truncate_isCut _ _
  · rintro error rfl
    have failed := fault (entry.fault?_failed dispatched)
    rw [dispatched] at failed
    exact failed
  · rintro message rfl
    have failed := fault (entry.fault?_panicked dispatched)
    rw [dispatched] at failed
    exact failed
  · rintro message clone rfl untouched same
    rw [text clone same]
    exact (lentAt.textIn_untouched clean untouched).trans (lentAt.given clean madeAt).1.symm
  · intro other stands apart
    have before := Array.getElem?_eq_getElem stands
    have unlent : ∀ one ∈ lent, one.buffer.cell ≠ other.cell := by
      intro one found
      obtain ⟨index, same⟩ := sent.lends one found
      exact apart one.buffer (List.mem_of_getElem? same)
    have after : (function.call (enterAt (depth + 1)) args now).2.heap.text other =
        entry.dispatched.2.heap.text other :=
      ForeignFunction.call_unlent encoded there sent.abis unlent (Nat.lt_of_lt_of_le stands size)
    rw [dispatched, entry.finish_heap] at after
    refine ⟨?_, after⟩
    rw [Heap.text_eq before]
    exact Heap.text_eq (keeps _ _ before)

namespace World

/-- A function that has a native address is where it was wrapped, whatever happened since. -/
theorem wrap_stands {world made now : World κ} {type : CallableType κ} {label : String}
    {body : List (Value κ) → Code κ} {address : UInt64}
    (wrapped : world.wrap type label body = .ok (address, made)) (space : AddressRoom world.code.size)
    (kept : made.KeepsClosures now) :
    ∃ closure : Closure κ, closure.Wraps type body ∧
      now.codeAt? address = some (.closure closure) := by
  rw [wrap, addClosure] at wrapped
  split at wrapped
  · cases wrapped
  · cases wrapped
    obtain ⟨returned, stands⟩ := kept _ _ Array.getElem?_push_size
    exact ⟨_, ⟨rfl, rfl, rfl⟩, codeAt?_codeAddress stands space⟩

/-- A string buffer with a text without a NUL is passed once in a call to a wrapped host function,
among any other arguments that the function can be given.  The function runs once.  It gets a buffer
with the front of the text that has room, and what it leaves there, without a NUL, is brought back,
cut to what it got; so it is when it fails, and the call fails too.  If it panics the front of the
text that had room is brought back.  All clones of the buffer share its text, and every other buffer
has the text that the function left.  The buffer must not need more room than there can be, and there
must be native addresses for the function and for the arguments. -/
theorem call_wrap_buffer {world made now : World κ} {type : CallableType κ} {label : String}
    {body : List (Value κ) → Code κ} {address : UInt64}
    (wrapped : world.wrap type label body = .ok (address, made)) (space : AddressRoom world.code.size)
    (kept : made.KeepsClosures now) (native : now.NativeKeepsMemory) {args : List (Value κ)}
    (sendable : List.Forall₂ (Value.Sendable now.memory) args type.signature.parameters)
    (room : Memory.base + (now.memory.size + (args.map Value.room).sum) ≤ UInt64.size)
    {index : Nat} {buffer : StringBuffer} (passed : args[index]? = some (.stringBuffer buffer))
    (once : ∀ other clone, other ≠ index → args[other]? = some (.stringBuffer clone) →
      clone.cell ≠ buffer.cell)
    (stored : buffer.cell < now.heap.texts.size)
    (clean : '\x00' ∉ (now.heap.text buffer).toList) (depth : Nat) :
    let function : ForeignFunction κ := ⟨address, type⟩
    ∃ seen start inner, function.RunsOnce depth args now body seen start ∧
      seen[index]? = some (.stringBuffer inner) ∧ inner.StandsFor buffer now start ∧
      buffer.BroughtBack inner args now start ((body seen).run (enterAt depth) .bare start)
        (function.call (enterAt (depth + 1)) args now) := by
  intro function
  obtain ⟨closure, wraps, there⟩ := wrap_stands wrapped space kept
  obtain ⟨raws, lent, memory, sent⟩ := Value.Sendable.sentAll sendable now.heap now.memory
  have fits : memory.Fits := by rwa [Memory.Fits, sent.size]
  have encoded : function.encoded args now = .returned (.ok (raws, lent, memory)) := by
    rw [ForeignFunction.encoded, if_pos sendable.length_eq]
    exact sent.encodeAll
  let entry : ClosureCall κ :=
    ⟨depth, address, closure, raws, ForeignFunction.nativeStart now memory⟩
  obtain ⟨⟨seen, writeBacks, heap⟩, each⟩ :=
    sent.accepted fits (closure.registry.map entry.world.registry) memory now.heap
  have accepted : entry.accepted = .ok (seen, writeBacks, heap) :=
    (wraps.accepted_eq sent.abis depth address entry.world).trans each
  obtain ⟨place, lentAt⟩ := sent.lentAt fits (.refl _) passed
  obtain ⟨inner, madeAt⟩ := acceptEach_buffer each lentAt.passed
  obtain ⟨text, full⟩ := lentAt.given clean madeAt
  refine ⟨seen, { entry.world with heap := heap }, inner, ?_, madeAt.value, ?_, ?_⟩
  · exact ⟨entry, writeBacks, wraps.handler, accepted, rfl,
      ForeignFunction.journal_accepted encoded there sent.abis wraps.handler accepted⟩
  · refine ⟨madeAt.fresh, (Array.getElem?_eq_some_iff.mp madeAt.text).1, ?_, ?_⟩
    · show Text.Utf8.IsCut _ _ (heap.text inner)
      rw [text]
      exact Text.Utf8.truncate_isCut _ _
    · show inner.capacity = (Text.Utf8.encode (heap.text inner)).length
      rw [text]
      exact full
  · exact wraps.broughtBack function there sent encoded lentAt madeAt accepted
      (acceptEach_keepsTexts each) native once stored clean

end World

namespace Workbench

/-- A function that puts a text into the buffer it gets. -/
def fillBody : List (Value Key) → Code Key
  | .stringBuffer buffer :: _ => .writeBuffer buffer "filled by host" (.done (.ok .void))
  | _ => .done (.ok .void)

/-- Its type: a text buffer and no result. -/
def fillType : CallableType Key :=
  ⟨1, ⟨[.stringBuffer], .void⟩⟩

/-- A process with one string buffer. -/
def fillStart : World Key :=
  { World.initial Globals.initial with heap := ⟨#[], #["keep"]⟩ }

/-- The text comes back cut to the three bytes that the buffer has room for. -/
theorem fill_cut :
    ∃ address made, fillStart.wrap fillType "fill" fillBody = .ok (address, made) ∧
      Text.Utf8.IsCut "filled by host" 3
        ((ForeignFunction.call (enterAt 1) ⟨address, fillType⟩ [.stringBuffer ⟨0, 3⟩] made).2.heap.text
          ⟨0, 3⟩) := by
  let made : World Key := (fillStart.addCode (.closure ⟨fillType, "fill",
    .ofTypes fillType.signature.parameters fillType.signature.result, none, .function fillBody,
    []⟩)).2
  have wrapped : fillStart.wrap fillType "fill" fillBody = .ok (World.codeAddress 0, made) := rfl
  have native : made.NativeKeepsMemory := by
    intro index parameters run there
    cases index <;> cases there
  have once : ∀ other (clone : StringBuffer), other ≠ 0 →
      [(Value.stringBuffer ⟨0, 3⟩ : Value Key)][other]? = some (.stringBuffer clone) →
        clone.cell ≠ 0 := by
    intro other clone different there
    cases other with
    | zero => exact absurd rfl different
    | succ other => cases there
  have passed : [(Value.stringBuffer ⟨0, 3⟩ : Value Key)][0]? = some (.stringBuffer ⟨0, 3⟩) := rfl
  obtain ⟨seen, start, inner, -, given, standsFor, back⟩ :=
    World.call_wrap_buffer wrapped (by decide) (.of_same rfl) native
      (.cons (.buffer (by decide)) .nil) (by decide) passed once (by decide) (by decide) 0
  cases seen with
  | nil => cases given
  | cons first rest =>
    cases given
    have left : ((start.heap.setText inner "filled by host").text inner) = "filled by host" :=
      Heap.text_eq (Array.getElem?_setIfInBounds_self_of_lt standsFor.stored)
    have room : inner.capacity = 3 := by
      rw [standsFor.full, standsFor.text.eq_truncate]
      show (Text.Utf8.encode (Text.Utf8.truncate "keep" 3)).length = 3
      decide +kernel
    have cut := back.returned (.ok .void) ⟨0, 3⟩ rfl
      (fun nul => absurd ((congrArg String.toList left) ▸ nul) (by decide)) rfl
    rw [room] at cut
    exact ⟨_, made, wrapped, left ▸ cut⟩

/-- A buffer that would need more room than there can be is not lent, and the function does not run. -/
theorem fill_refused :
    ∃ address made, fillStart.wrap fillType "fill" fillBody = .ok (address, made) ∧
      largestRoom < 2 ^ 64 - 1 ∧
      let function : ForeignFunction Key := ⟨address, fillType⟩
      let buffer : StringBuffer := ⟨0, largestRoom⟩
      let call := function.call (enterAt 1) [.stringBuffer buffer] made
      function.journal (enterJournal 1) [.stringBuffer buffer] made = [] ∧
        call.1 = .panicked (some roomPanic) ∧
        ¬ Text.Utf8.IsCut "filled by host" 4 (call.2.heap.text buffer) := by
  refine ⟨_, _, rfl, by decide, rfl, rfl, ?_⟩
  intro cut
  have front : "keep".toList <+: "filled by host".toList := cut.front
  exact absurd front (by decide)

end Workbench

end NativeBridge
