/-
Module: NativeBridge.Proofs.ThunkAnswers
Purpose: What the caller of a member's thunk gets, as a matter of what the member has come to.
Main exports: Answer, World.arrival, World.answer, Closure.Gives, Closure.gives_carried,
  World.HasThunk, World.HasThunk.call_foreign, World.HasThunk.call_void, World.HasThunk.call_answer
-/
import NativeBridge.Proofs.BoundarySignatures
import NativeBridge.Proofs.OwnInstances
import NativeBridge.Proofs.ThunkCalls
import NativeBridge.Proofs.WrapRoundTrip

namespace NativeBridge

variable {κ : Type} [HostProgram κ]

/-!
A call of a thunk through its address encodes the arguments, decodes them, runs the member, encodes
what it has come to and decodes that.  What comes out depends on the outcome of the member, on the
texts of buffers and on the handles given out so far, and on nothing else in the process.
-/

/-! ### Answers -/

/-- What a call leaves with its caller: how it ended, and the texts and handles there are then. -/
structure Answer (κ : Type) [HostProgram κ] where
  outcome : Outcome (Value κ)
  texts : Array String
  registries : Array (Registry κ)

/-- The answer of a call. -/
def Answer.ofCall (ended : Outcome (Value κ) × World κ) : Answer κ :=
  ⟨ended.1, ended.2.heap.texts, ended.2.registries⟩

namespace World

/-- An answer that changes no text and no handle. -/
def plainAnswer (world : World κ) (result : Except Error (Value κ)) : Answer κ :=
  ⟨.returned result, world.heap.texts, world.registries⟩

/-- A text arrives unless it has a NUL in it. -/
def textArrival (world : World κ) (text : String) (arrived : Answer κ) : Answer κ :=
  if '\x00' ∈ text.toList then world.plainAnswer (.error MarshalError.interiorNul) else arrived

/-- What the value that a member has returned arrives as.  The text of a buffer arrives in a new
buffer that it fills, and an object as a new handle. -/
def arrival (world : World κ) (registry : Nat) : Value κ → Answer κ
  | .string text => world.textArrival text (world.plainAnswer (.ok (.string text)))
  | .stringBuffer buffer =>
      let text := world.heap.text buffer
      let fresh : StringBuffer := ⟨world.heap.texts.size, (Text.Utf8.encode text).length⟩
      world.textArrival text
        ⟨.returned (.ok (.stringBuffer fresh)), world.heap.texts.push text, world.registries⟩
  | .object object =>
      let given := world.allocateHandle registry object
      ⟨.returned (.ok (.pointer given.1)), world.heap.texts, given.2.registries⟩
  | value => world.plainAnswer (.ok value)

/-- What the outcome of a member arrives as. -/
def answer (world : World κ) (registry : Nat) : Outcome (Value κ) → Answer κ
  | .returned (.ok value) => world.arrival registry value
  | .returned (.error error) => world.plainAnswer (.error error)
  | .panicked message => world.plainAnswer (.error (.panicked (panicText message)))

/-- Where texts and handles are the same, the same outcome gets the same answer. -/
theorem answer_congr {one other : World κ} (texts : one.heap.texts = other.heap.texts)
    (registries : one.registries = other.registries) (registry : Nat)
    (outcome : Outcome (Value κ)) : one.answer registry outcome = other.answer registry outcome := by
  have plain (result : Except Error (Value κ)) :
      one.plainAnswer result = other.plainAnswer result := by
    rw [plainAnswer, texts, registries, plainAnswer]
  cases outcome with
  | panicked message => exact plain _
  | returned result =>
    cases result with
    | error error => exact plain _
    | ok value =>
      cases value with
      | string text => simp only [answer, arrival, textArrival, plain]
      | stringBuffer buffer =>
        simp only [answer, arrival, textArrival, plain, Heap.text, texts, registries]
        rfl
      | object object =>
        simp only [answer, arrival, allocateHandle, setRegistry, registry_congr registries, texts,
          registries]
      | _ => exact plain _

end World

/-! ### Results on their way -/

/-- What becomes of a value that a closure returns, at a type that its caller reads it as. -/
inductive Closure.Gives (closure : Closure κ) (address : UInt64) (value : Value κ) (world : World κ)
    (type : HostType κ) : Answer κ → Prop
  | refused {error : Error} (given : closure.give address value world = (.error error, world)) :
      Gives closure address value world type (world.plainAnswer (.error error))
  | received {raw : RawValue} {later : World κ} {found : Value κ} {heap : Heap κ}
      (given : closure.give address value world = (.ok raw, later)) (abi : raw.abi = type.abi)
      (pending : later.pending = world.pending)
      (read : decodeReturn later.memory raw type later.heap = .ok (found, heap)) :
      Gives closure address value world type
        ⟨.returned (.ok found), heap.texts, later.registries⟩

section

variable {closure : Closure κ} {address : UInt64} {world : World κ} {type : HostType κ}

theorem Value.HasType.arrival_nul {value : Value κ} (typed : value.HasType type)
    (nul : value.HasNul) (world : World κ) (registry : Nat) :
    world.arrival registry value = world.plainAnswer (.error MarshalError.interiorNul) := by
  cases typed with
  | string text => exact if_pos nul
  | _ => cases nul

/-- A value of a plain type arrives as it is. -/
theorem Value.HasType.arrival_ok {value : Value κ} (typed : value.HasType type)
    (clean : ¬ value.HasNul) (world : World κ) (registry : Nat) :
    world.arrival registry value = world.plainAnswer (.ok value) := by
  cases typed with
  | string text => exact if_neg clean
  | _ => rfl

theorem Value.HasType.gives {value : Value κ} (typed : value.HasType type)
    (slot : closure.plan.result = .ofType type) (registry : Nat)
    (room : (closure.give address value world).2.memory.Fits) :
    closure.Gives address value world type (world.arrival registry value) := by
  by_cases nul : value.HasNul
  · rw [typed.arrival_nul nul]
    exact .refused (Closure.give_nul slot typed nul address world)
  · obtain ⟨raw, given, carried⟩ := Closure.give_ok slot typed nul address world
    obtain ⟨code, kept⟩ := world.keepResult_eq address value
    rw [kept] at given
    rw [given] at room
    have read := typed.decodeReturn_ok nul (carried room) world.heap
    have received := Closure.Gives.received given (typed.abi_eq (carried room)) rfl read
    rw [typed.arrival_ok nul]
    exact received

/-- A C string is read as a new buffer with its text. -/
theorem Memory.HoldsCString.decodeReturn_buffer {memory : Memory} {place : UInt64} {text : String}
    (holds : memory.HoldsCString place (Text.Utf8.encode text)) (clean : '\x00' ∉ text.toList)
    (heap : Heap κ) :
    decodeReturn memory (.pointer place) .stringBuffer heap =
      .ok (.stringBuffer ⟨heap.texts.size, (Text.Utf8.encode text).length⟩,
        { heap with texts := heap.texts.push text }) := by
  rw [decodeReturn_stringBuffer, holds.cStringAt_eq clean]
  simp only [liftM, monadLift, MonadLift.monadLift, Except.mapError, bind, Except.bind,
    Text.Utf8.decodeLossy_encode]

/-- The text of a buffer arrives in a new buffer. -/
theorem Closure.gives_stringBuffer (slot : closure.plan.result = .ofType .stringBuffer)
    (buffer : StringBuffer) (registry : Nat)
    (room : (closure.give address (.stringBuffer buffer) world).2.memory.Fits) :
    closure.Gives address (.stringBuffer buffer) world .stringBuffer
      (world.arrival registry (.stringBuffer buffer)) := by
  by_cases nul : '\x00' ∈ (world.heap.text buffer).toList
  · have refused : closure.give address (.stringBuffer buffer) world =
        (.error MarshalError.interiorNul, world) := by
      simp only [give, slot, MarshalSlot.ofType]
      rw [cBytes_nul nul]
    have arrives : world.arrival registry (.stringBuffer buffer) =
        world.plainAnswer (.error MarshalError.interiorNul) := if_pos nul
    rw [arrives]
    exact .refused refused
  · -- A buffer crosses as its text does, and only the reading of it differs.
    let bytes := Text.Utf8.encode (world.heap.text buffer)
    obtain ⟨code, kept⟩ := world.keepResult_eq address (.string (world.heap.text buffer))
    have given : closure.give address (.stringBuffer buffer) world =
        (.ok (.pointer (world.memory.allocateCString bytes).1),
          { world with memory := (world.memory.allocateCString bytes).2, code := code }) := by
      simp only [give, slot, MarshalSlot.ofType]
      rw [cBytes_ok nul]
      exact congrArg (Prod.mk _) kept
    rw [given] at room
    have read := (Memory.allocateCString_holds room).decodeReturn_buffer nul world.heap
    have abi : (RawValue.pointer (world.memory.allocateCString bytes).1).abi =
        (HostType.stringBuffer : HostType κ).abi := rfl
    have received := Gives.received given abi rfl read
    have arrives : world.arrival registry (.stringBuffer buffer) = _ := if_neg nul
    rw [arrives]
    exact received

/-- An object arrives as a new handle. -/
theorem Closure.gives_object {object : HostObject κ} {registry : Nat}
    (slot : closure.plan.result = .ofType (.object object.type))
    (has : closure.registry = some registry) :
    closure.Gives address (.object object) world .pointer
      (world.arrival registry (.object object)) := by
  have given := closure.give_effect address (.object object) world
  simp only [slot, MarshalSlot.ofType, has, if_true] at given
  exact .received given rfl rfl rfl

/-- What host code has returned of something carried arrives. -/
theorem Closure.gives_carried {registry : Nat} (type : MarshalType κ)
    (slot : closure.plan.result = .ofType type.hostType) (has : closure.registry = some registry)
    (carried : Carrier type) (size : Nat)
    (room : (closure.give address (type.asValue carried size) world).2.memory.Fits) :
    closure.Gives address (type.asValue carried size) world
      (MarshalSlot.ofType type.hostType).boundaryType
      (world.arrival registry (type.asValue carried size)) := by
  cases type with
  | unit => exact Value.HasType.void.gives slot registry room
  | pointer => exact (Value.HasType.pointer carried).gives slot registry room
  | integer type => exact (Value.HasType.integer type carried).gives slot registry room
  | char => exact (Value.HasType.char carried).gives slot registry room
  | f32 => exact (Value.HasType.f32 carried).gives slot registry room
  | f64 => exact (Value.HasType.f64 carried).gives slot registry room
  | string => exact (Value.HasType.string carried).gives slot registry room
  | stringBuffer => exact gives_stringBuffer slot carried registry room
  | enumeration spec =>
    exact (Value.HasType.enumeration spec.name spec.repr _).gives slot registry room
  | shared key => exact gives_object slot has
  | copied key => exact gives_object slot has

end

/-! ### Calls -/

namespace ForeignFunction

variable {function : ForeignFunction κ} {closure : Closure κ} {args : List (Value κ)}
  {raws : List RawValue} {now left : World κ} {memory : Memory} {depth : Nat}

/-- Decoding a result leaves all memory alone. -/
theorem callEncoded_memory (enter : Entry κ) (function : ForeignFunction κ) (raws : List RawValue)
    (world : World κ) :
    (function.callEncoded enter raws [] world).2.memory =
      (function.callRaw enter raws { world with pending := none }).2.memory := by
  simp only [callEncoded, World.isolate, World.takeFault]
  rcases function.callRaw enter raws { world with pending := none } with ⟨result, left⟩
  cases left.pending with
  | some fault => rfl
  | none =>
    cases result with
    | error error => rfl
    | ok raw =>
      simp only
      split <;> rfl

/-- A call leaves the memory that the entered closure leaves. -/
theorem call_memory (encoded : function.encoded args now = .returned (.ok (raws, [], memory)))
    (there : now.codeAt? function.address = some (.closure closure))
    (abis : raws.map RawValue.abi = function.type.signature.parameters.map HostType.abi) :
    let entry : ClosureCall κ := ⟨depth, function.address, closure, raws, nativeStart now memory⟩
    (function.call (enterAt (depth + 1)) args now).2.memory = entry.dispatched.2.memory := by
  intro entry
  have found : (nativeStart now memory).codeAt? function.address = some (.closure closure) := there
  have native := congrArg (fun ended => ended.2.memory) (callRaw_closure found abis depth)
  have ended : (closure.enter (enterAt depth) function.address raws (nativeStart now memory)).2 =
      entry.after := JournalLaw.enter_after ..
  have kept : entry.after.memory = entry.dispatched.2.memory := by
    rw [ClosureCall.after]
    cases entry.fault? <;> rfl
  rw [call_encoded encoded, callEncoded_memory, ← kept, ← ended]
  exact native

end ForeignFunction

/-! ### Thunks with a receiver -/

omit [HostProgram κ] in
/-- Native code sees plain parameters as they are declared. -/
theorem boundaryTypes_plain {args : List (Value κ)} {types : List (HostType κ)}
    (typed : List.Forall₂ Value.HasType args types) :
    (types.map MarshalSlot.ofType).map MarshalSlot.boundaryType = types := by
  induction typed with
  | nil => rfl
  | cons first _ ih =>
    rw [List.map_cons, List.map_cons, ih]
    cases first <;> rfl

/-- The arguments of a thunk with plain parameters are a handle and the arguments of its member. -/
theorem thunkSignature_receiver {member : Member κ} {args : List (Value κ)}
    (receives : Dispatch.ofMember member ≠ .static)
    (typed : List.Forall₂ Value.HasType args member.parameters) (handle : UInt64) :
    List.Forall₂ Value.HasType (.pointer handle :: args) (thunkSignature member).parameters := by
  have parameters : (thunkSignature member).parameters =
      .pointer :: (member.parameters.map MarshalSlot.ofType).map MarshalSlot.boundaryType := by
    rw [thunkSignature, MarshalPlan.boundaryParameters, thunkPlan_receiver receives]
    rfl
  rw [parameters, boundaryTypes_plain typed]
  exact .cons (.pointer handle) typed

section

variable {closure : Closure κ} {registry : Nat} {member : Member κ} {args : List (Value κ)}
  {raws : List RawValue} {handle : UInt64} {object : HostObject κ}

/-- A thunk decodes the handle in front, which has to stand for an object of its class. -/
theorem Closure.IsThunk.accepted_receiver (thunk : closure.IsThunk registry member)
    (receives : Dispatch.ofMember member ≠ .static) (world : World κ)
    (typed : List.Forall₂ Value.HasType args member.parameters)
    (clean : ∀ value ∈ args, ¬ value.HasNul)
    (carried : List.Forall₂ world.memory.Carries raws args)
    (found : (world.registry registry).resolve handle = .ok object) (depth : Nat)
    (address : UInt64) :
    ClosureCall.accepted ⟨depth, address, closure, .pointer handle :: raws, world⟩ =
      if object.type = member.owner then .ok (.object object :: args, [], world.heap)
      else .error (MarshalError.typeMismatch member.owner.name object.type.name) := by
  have front : world.memory.Carries (.pointer handle) (.pointer handle : Value κ) := rfl
  have abis : (RawValue.pointer handle :: raws).map RawValue.abi =
      closure.type.signature.parameters.map HostType.abi := by
    rw [thunk.signature]
    exact abi_of_carried (thunkSignature_receiver receives typed handle) (.cons front carried)
  have sent : ClosureCall.args ⟨depth, address, closure, .pointer handle :: raws, world⟩ =
      .pointer handle :: raws := by
    rw [ClosureCall.args, ← abis]
    exact deliver_self _
  have arity : (RawValue.pointer handle :: raws).length =
      (MarshalSlot.ofType (.object member.owner) :: member.parameters.map .ofType).length := by
    simp [carried.length_eq, typed.length_eq]
  have others := acceptEach_ok typed clean carried (some (world.registry registry)) world.heap
  rw [ClosureCall.accepted, sent, thunk.plan, thunkPlan_receiver receives, acceptAll, if_pos arity,
    thunk.registry]
  rw [acceptEach, Option.map_some, MarshalSlot.ofType, accept_live found]
  by_cases same : object.type = member.owner
  · simp only [if_pos same, others, bind, Except.bind, List.append_nil]
  · simp only [if_neg same, bind, Except.bind]

namespace World

/-- A function is the thunk of a member, its handles in a registry. -/
structure HasThunk (world : World κ) (function : ForeignFunction κ) (registry : Nat)
    (member : Member κ) : Prop where
  signature : function.type.signature = thunkSignature member
  placed : ∃ closure, world.codeAt? function.address = some (.closure closure) ∧
    closure.IsThunk registry member

namespace HasThunk

variable {now left : World κ} {function : ForeignFunction κ}

/-- A call with a handle and plain arguments enters the thunk with the handle. -/
theorem encoded (thunk : now.HasThunk function registry member)
    (receives : Dispatch.ofMember member ≠ .static)
    (typed : List.Forall₂ Value.HasType args member.parameters)
    (clean : ∀ value ∈ args, ¬ value.HasNul) (fits : (now.memory.keepAll args).Fits)
    (handle : UInt64) :
    ∃ raws, function.encoded (.pointer handle :: args) now =
        .returned (.ok (.pointer handle :: raws, [], now.memory.keepAll args)) ∧
      List.Forall₂ (now.memory.keepAll args).Carries raws args ∧
      (RawValue.pointer handle :: raws).map RawValue.abi =
        function.type.signature.parameters.map HostType.abi := by
  have all : List.Forall₂ Value.HasType (.pointer handle :: args)
      function.type.signature.parameters := by
    rw [thunk.signature]
    exact thunkSignature_receiver receives typed handle
  have cleanAll : ∀ value ∈ Value.pointer handle :: args, ¬ value.HasNul :=
    List.forall_mem_cons.mpr ⟨fun nul => nul, clean⟩
  obtain ⟨sent, encoded, carried⟩ := ForeignFunction.encoded_ok all cleanAll fits
  have abis := abi_of_carried all carried
  cases carried with
  | cons front rest =>
    cases front
    exact ⟨_, encoded, rest, abis⟩

/-- A thunk refuses an object of another class. -/
theorem call_foreign (thunk : now.HasThunk function registry member)
    (receives : Dispatch.ofMember member ≠ .static)
    (typed : List.Forall₂ Value.HasType args member.parameters)
    (clean : ∀ value ∈ args, ¬ value.HasNul) (fits : (now.memory.keepAll args).Fits)
    (found : (now.registry registry).resolve handle = .ok object)
    (other : object.type ≠ member.owner) (depth : Nat) :
    Answer.ofCall (function.call (enterAt (depth + 1)) (.pointer handle :: args) now) =
      now.plainAnswer (.error (MarshalError.typeMismatch member.owner.name object.type.name)) := by
  obtain ⟨raws, encoded, carried, abis⟩ := thunk.encoded receives typed clean fits handle
  obtain ⟨closure, there, isThunk⟩ := thunk.placed
  let entry : ClosureCall κ := ⟨depth, function.address, closure, .pointer handle :: raws,
    ForeignFunction.nativeStart now (now.memory.keepAll args)⟩
  have refused : entry.accepted =
      .error (MarshalError.typeMismatch member.owner.name object.type.name) := by
    rw [isThunk.accepted_receiver receives entry.world typed clean carried found, if_neg other]
  have dispatched : entry.dispatched = (.returned (.error (MarshalError.typeMismatch
      member.owner.name object.type.name)), entry.world) := by
    rw [entry.dispatched_eq, refused]
  rw [ForeignFunction.call_fault encoded there abis (entry.enter_failed dispatched) rfl]
  rfl

section

variable {outcome : Outcome (Value κ)} {depth : Nat}

/-- A thunk runs its member on the object behind the handle. -/
theorem dispatched (receives : Dispatch.ofMember member ≠ .static)
    (typed : List.Forall₂ Value.HasType args member.parameters)
    (clean : ∀ value ∈ args, ¬ value.HasNul) (start : World κ)
    (carried : List.Forall₂ start.memory.Carries raws args)
    (found : (start.registry registry).resolve handle = .ok object)
    (same : object.type = member.owner) (isThunk : closure.IsThunk registry member)
    (ran : (Handler.member (Dispatch.ofMember member) member).run (enterAt depth)
      (.object object :: args) start = (outcome, left)) (address : UInt64) :
    let entry : ClosureCall κ := ⟨depth, address, closure, .pointer handle :: raws, start⟩
    entry.dispatched = entry.finish [] (outcome, left) := by
  intro entry
  have accepted : entry.accepted = .ok (.object object :: args, [], start.heap) := by
    rw [isThunk.accepted_receiver receives start typed clean carried found, if_pos same]
  rw [entry.dispatched_eq, accepted, isThunk.handler]
  exact congrArg (entry.finish []) ran

/-- A call of a thunk whose member comes to nothing leaves the process as the member does. -/
theorem call_void (thunk : now.HasThunk function registry member)
    (receives : Dispatch.ofMember member ≠ .static) (declared : member.result = .void)
    (typed : List.Forall₂ Value.HasType args member.parameters)
    (clean : ∀ value ∈ args, ¬ value.HasNul) (fits : (now.memory.keepAll args).Fits)
    (found : (now.registry registry).resolve handle = .ok object)
    (same : object.type = member.owner)
    (ran : (Handler.member (Dispatch.ofMember member) member).run (enterAt depth)
      (.object object :: args) (ForeignFunction.nativeStart now (now.memory.keepAll args)) =
        (.returned (.ok .void), left))
    (pending : left.pending = none) :
    function.call (enterAt (depth + 1)) (.pointer handle :: args) now =
      (.returned (.ok .void), { left with pending := now.pending }) := by
  obtain ⟨raws, encoded, carried, abis⟩ := thunk.encoded receives typed clean fits handle
  obtain ⟨closure, there, isThunk⟩ := thunk.placed
  let entry : ClosureCall κ := ⟨depth, function.address, closure, .pointer handle :: raws,
    ForeignFunction.nativeStart now (now.memory.keepAll args)⟩
  have dispatched : entry.dispatched = entry.finish [] (.returned (.ok .void), left) :=
    dispatched receives typed clean entry.world carried found same isThunk ran function.address
  have slot : closure.plan.result = .ofType .void := by
    rw [isThunk.plan, thunkPlan, declared]
    rfl
  have given : closure.give function.address .void left = (.ok .void, left) := by
    simp only [Closure.give, slot, MarshalSlot.ofType]
  have result : function.type.signature.result = .void := by
    rw [thunk.signature, thunkSignature, thunkPlan, declared]
    rfl
  have finished : entry.finish [] (.returned (.ok .void), left) = (.returned (.ok .void), left) := by
    show (Outcome.returned (closure.give function.address .void left).1,
      (closure.give function.address .void left).2) = _
    rw [given]
  have abi : RawValue.void.abi = function.type.signature.result.abi := by
    rw [result]
    rfl
  rw [finished] at dispatched
  have entered := entry.enter_returned dispatched (by rw [abi, thunk.signature, isThunk.signature])
  have read : decodeReturn left.memory .void function.type.signature.result left.heap =
      .ok (.void, left.heap) := by
    rw [result]
    rfl
  exact ForeignFunction.call_value encoded there abis entered abi read pending

/-- What a call of a thunk leaves with its caller depends on the outcome of its member, and on the
texts and the handles that the member leaves. -/
theorem call_answer (thunk : now.HasThunk function registry member)
    (receives : Dispatch.ofMember member ≠ .static) {type : MarshalType κ}
    (declared : member.result = type.hostType)
    (typed : List.Forall₂ Value.HasType args member.parameters)
    (clean : ∀ value ∈ args, ¬ value.HasNul) (fits : (now.memory.keepAll args).Fits)
    (found : (now.registry registry).resolve handle = .ok object)
    (same : object.type = member.owner)
    (ran : (Handler.member (Dispatch.ofMember member) member).run (enterAt depth)
      (.object object :: args) (ForeignFunction.nativeStart now (now.memory.keepAll args)) =
        (outcome, left))
    (told : ∀ value, outcome = .returned (.ok value) →
      ∃ carried size, value = type.asValue carried size)
    (pending : left.pending = none)
    (room : (function.call (enterAt (depth + 1)) (.pointer handle :: args) now).2.memory.Fits) :
    Answer.ofCall (function.call (enterAt (depth + 1)) (.pointer handle :: args) now) =
      left.answer registry outcome := by
  obtain ⟨raws, encoded, carried, abis⟩ := thunk.encoded receives typed clean fits handle
  obtain ⟨closure, there, isThunk⟩ := thunk.placed
  let entry : ClosureCall κ := ⟨depth, function.address, closure, .pointer handle :: raws,
    ForeignFunction.nativeStart now (now.memory.keepAll args)⟩
  have dispatched : entry.dispatched = entry.finish [] (outcome, left) :=
    dispatched receives typed clean entry.world carried found same isThunk ran function.address
  rw [ForeignFunction.call_memory encoded there abis] at room
  have slot : closure.plan.result = .ofType type.hostType := by
    rw [isThunk.plan, thunkPlan, declared]
    rfl
  have result : function.type.signature.result = (MarshalSlot.ofType type.hostType).boundaryType := by
    rw [thunk.signature, thunkSignature, thunkPlan, declared]
    rfl
  cases outcome with
  | panicked message =>
    rw [ForeignFunction.call_fault encoded there abis (entry.enter_panicked dispatched) pending]
    rfl
  | returned ended =>
    cases ended with
    | error error =>
      rw [ForeignFunction.call_fault encoded there abis (entry.enter_failed dispatched) pending]
      rfl
    | ok value =>
      obtain ⟨content, size, rfl⟩ := told value rfl
      have finished : entry.finish [] (.returned (.ok (type.asValue content size)), left) =
          (.returned (closure.give function.address (type.asValue content size) left).1,
            (closure.give function.address (type.asValue content size) left).2) := rfl
      rw [dispatched, finished] at room
      rw [finished] at dispatched
      have gives := closure.gives_carried type slot isThunk.registry content size room
      rw [← result] at gives
      show _ = left.arrival registry (type.asValue content size)
      generalize left.arrival registry (type.asValue content size) = answer at gives ⊢
      cases gives with
      | refused given =>
        rw [given] at dispatched
        rw [ForeignFunction.call_fault encoded there abis (entry.enter_failed dispatched) pending]
        rfl
      | received given abi kept read =>
        rw [given] at dispatched
        have entered := entry.enter_returned dispatched
          (by rw [abi, thunk.signature, isThunk.signature])
        rw [ForeignFunction.call_value encoded there abis entered abi read (kept.trans pending)]
        rfl

end

end HasThunk

end World

end

end NativeBridge
