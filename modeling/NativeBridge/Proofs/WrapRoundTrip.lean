/-
Module: NativeBridge.Proofs.WrapRoundTrip
Purpose: Calling a wrapped host function through its native address is running the function.
Main exports: Code.MakesNoRawCall, Code.run_pending, Signature.IsPlain,
  ForeignFunction.call_wrapped, World.call_wrap
-/
import NativeBridge.Proofs.ClosureAddresses
import NativeBridge.Proofs.PendingFault
import NativeBridge.Proofs.PlainValues
import NativeBridge.Proofs.UnusedHandle
import NativeBridge.Workbench.Functions

namespace NativeBridge

variable {κ : Type} [HostProgram κ]

/-!
A host function that is wrapped and called back at its own type runs once, on the arguments that the
caller gave.  The values pass four conversions, each of which keeps them, and a failure passes
through the slot of the pending fault: it is empty when the function ends, unless the function made
a native call with raw values itself.
-/

/-! ### Runs that leave no fault -/

/-- No native call with raw values is made in a run of host code. -/
def Code.MakesNoRawCall (enter : Entry κ) (code : Code κ) (frame : Frame) (world : World κ) :
    Prop :=
  ∀ function args next frame' now,
    ¬ code.Reaches enter frame world (.callRaw function args next) frame' now

/-- A request leaves the pending fault alone, unless it is a native call with raw values. -/
theorem Code.step_pending {enter : Entry κ} {code : Code κ} {frame : Frame} {world : World κ}
    (other : ∀ function args next, code ≠ .callRaw function args next) :
    (code.step enter frame world).world.pending = world.pending := by
  cases code with
  | callRaw function args next => exact absurd rfl (other function args next)
  | call function args next =>
    have kept := congrArg (fun ended => ended.2.pending)
      (function.call_pending enter args world world.pending)
    simp only [Code.step]
    split
    · next same =>
      rw [same] at kept
      exact kept
    · next same =>
      rw [same] at kept
      exact kept
  | borrow object exclusive next =>
    simp only [Code.step]
    cases frame.borrow object.cell exclusive world.heap <;> rfl
  | writeObject object key state next =>
    simp only [Code.step]
    split <;> rfl
  | writeReceiver key state next =>
    simp only [Code.step]
    split <;> rfl
  | releaseHandle registry handle next =>
    simp only [Code.step, World.releaseHandle]
    cases (world.registry registry).release handle <;> rfl
  | _ => rfl

/-- A run without native calls with raw values leaves the pending fault alone. -/
theorem Code.run_pending {enter : Entry κ} {code : Code κ} {frame : Frame} {world : World κ}
    (clean : code.MakesNoRawCall enter frame world) :
    (code.run enter frame world).2.pending = world.pending := by
  induction code using Code.follows_wellFounded.induction generalizing frame world with
  | _ code ih =>
    have stepped : (code.step enter frame world).world.pending = world.pending := by
      apply Code.step_pending
      rintro function args next rfl
      exact clean function args next frame world .here
    rw [Code.run_eq_step]
    cases same : code.step enter frame world with
    | ended outcome last =>
      rw [same] at stepped
      exact stepped
    | rest rest frame' last =>
      rw [same] at stepped
      have later : rest.MakesNoRawCall enter frame' last := by
        intro function args next frame'' now reached
        exact clean function args next frame'' now (.next same reached)
      exact (ih rest ⟨_, _, _, _, _, same⟩ later).trans stepped

theorem World.keepResult_quiet (world : World κ) (address : UInt64) (value : Value κ) :
    world.Quiet (world.keepResult address value) := by
  cases value with
  | string text =>
    have allocated : world.Quiet (world.allocateCString (Text.Utf8.encode text)).2 :=
      .of_same rfl rfl rfl
    exact allocated.trans (World.noteReturned_quiet _ _ _)
  | _ => exact .refl world

/-! ### Into the closure and out of it -/

namespace ClosureCall

variable {call : ClosureCall κ} {left : World κ}

theorem enter_panicked {message : Option String}
    (dispatched : call.dispatched = (.panicked message, left)) :
    call.closure.enter (enterAt call.depth) call.address call.sent call.world =
      (.zero call.closure.type.signature.result.abi,
        left.raise (.panicked (panicText message))) := by
  rw [ClosureCall.dispatched, args] at dispatched
  simp only [Closure.enter, dispatched]

theorem enter_failed {error : Error}
    (dispatched : call.dispatched = (.returned (.error error), left)) :
    call.closure.enter (enterAt call.depth) call.address call.sent call.world =
      (.zero call.closure.type.signature.result.abi, left.raise error) := by
  rw [ClosureCall.dispatched, args] at dispatched
  simp only [Closure.enter, dispatched]

theorem enter_returned {raw : RawValue}
    (dispatched : call.dispatched = (.returned (.ok raw), left))
    (same : raw.abi = call.closure.type.signature.result.abi) :
    call.closure.enter (enterAt call.depth) call.address call.sent call.world = (raw, left) := by
  rw [ClosureCall.dispatched, args] at dispatched
  simp only [Closure.enter, dispatched, if_pos same]

end ClosureCall

/-- A closure that a function of plain values was wrapped in. -/
structure Closure.Wraps (closure : Closure κ) (type : CallableType κ)
    (body : List (Value κ) → Code κ) : Prop where
  sameType : closure.type = type
  plan : closure.plan = .ofTypes type.signature.parameters type.signature.result
  handler : closure.handler = .function body

namespace Closure.Wraps

variable {closure : Closure κ} {type : CallableType κ} {body : List (Value κ) → Code κ}
  {args : List (Value κ)} {raws : List RawValue}

/-- The closure decodes raw values of its parameter types one by one. -/
theorem accepted_eq (wraps : closure.Wraps type body)
    (abis : raws.map RawValue.abi = type.signature.parameters.map HostType.abi) (depth : Nat)
    (address : UInt64) (world : World κ) :
    ClosureCall.accepted ⟨depth, address, closure, raws, world⟩ =
      acceptEach (closure.registry.map world.registry) world.memory
        (type.signature.parameters.map .ofType) raws world.heap := by
  have sent : ClosureCall.args ⟨depth, address, closure, raws, world⟩ = raws := by
    rw [ClosureCall.args, wraps.sameType, ← abis]
    exact deliver_self raws
  have slots : closure.plan.parameters = type.signature.parameters.map .ofType := by
    rw [wraps.plan]
    rfl
  have arity : raws.length = (type.signature.parameters.map MarshalSlot.ofType).length := by
    have long := congrArg List.length abis
    rwa [List.length_map, List.length_map, ← List.length_map MarshalSlot.ofType] at long
  rw [ClosureCall.accepted, sent, slots, acceptAll, if_pos arity]

/-- The closure decodes the arguments that the raw values stand for. -/
theorem accepted (wraps : closure.Wraps type body) {world : World κ}
    (typed : List.Forall₂ Value.HasType args type.signature.parameters)
    (clean : ∀ value ∈ args, ¬ value.HasNul)
    (carried : List.Forall₂ world.memory.Carries raws args) (depth : Nat) (address : UInt64) :
    ClosureCall.accepted ⟨depth, address, closure, raws, world⟩ = .ok (args, [], world.heap) := by
  rw [wraps.accepted_eq (abi_of_carried typed carried)]
  exact acceptEach_ok typed clean carried _ _

/-- The function runs on the arguments that the raw values stand for. -/
theorem dispatched (wraps : closure.Wraps type body) {world : World κ}
    (typed : List.Forall₂ Value.HasType args type.signature.parameters)
    (clean : ∀ value ∈ args, ¬ value.HasNul)
    (carried : List.Forall₂ world.memory.Carries raws args) (depth : Nat) (address : UInt64) :
    let call : ClosureCall κ := ⟨depth, address, closure, raws, world⟩
    call.dispatched = call.finish [] ((body args).run (enterAt depth) .bare world) := by
  intro call
  rw [call.dispatched_eq, wraps.accepted typed clean carried depth address, wraps.handler]
  rfl

end Closure.Wraps

namespace ForeignFunction

variable {function : ForeignFunction κ} {raws : List RawValue} {left : World κ}

/-- Raw arguments of the declared types are let through. -/
theorem rawFault_none {types : List (HostType κ)} {raws : List RawValue}
    (abis : raws.map RawValue.abi = types.map HostType.abi) : rawFault types raws = none := by
  induction types generalizing raws with
  | nil => simp [rawFault]
  | cons type types ih =>
    cases raws with
    | nil => cases abis
    | cons raw raws =>
      rcases List.cons.inj abis with ⟨first, rest⟩
      rw [rawFault, if_pos first, ih rest]

/-- A call with raw arguments of the declared types enters the closure at the address. -/
theorem callRaw_closure {closure : Closure κ} {world : World κ}
    (there : world.codeAt? function.address = some (.closure closure))
    (abis : raws.map RawValue.abi = function.type.signature.parameters.map HostType.abi)
    (depth : Nat) :
    let entered := closure.enter (enterAt depth) function.address raws world
    function.callRaw (enterAt (depth + 1)) raws world =
      (.ok (entered.1.readResult function.type.signature.result.abi), entered.2) := by
  intro entered
  have arity : raws.length = function.type.signature.parameters.length := by
    have long := congrArg List.length abis
    rwa [List.length_map, List.length_map] at long
  rw [callRaw]
  simp only [if_pos arity, rawFault_none abis, enterAt, there]
  rfl

theorem rawJournal_closure {closure : Closure κ} {world : World κ}
    (there : world.codeAt? function.address = some (.closure closure))
    (abis : raws.map RawValue.abi = function.type.signature.parameters.map HostType.abi)
    (depth : Nat) :
    function.rawJournal (enterJournal (depth + 1)) raws world =
      ClosureCall.journal (enterJournal depth) ⟨depth, function.address, closure, raws, world⟩ := by
  have arity : raws.length = function.type.signature.parameters.length := by
    have long := congrArg List.length abis
    rwa [List.length_map, List.length_map] at long
  rw [rawJournal, if_pos ⟨arity, rawFault_none abis⟩]
  exact enterJournal_closure there depth raws

theorem callEncoded_fault {enter : Entry κ} {world : World κ}
    {result : Except MarshalError RawValue} {fault : Error}
    (native : function.callRaw enter raws { world with pending := none } = (result, left))
    (pending : left.pending = some fault) :
    function.callEncoded enter raws [] world =
      (.error fault, { left with pending := world.pending }) := by
  simp only [callEncoded, World.isolate, World.takeFault, native, pending]
  rfl

theorem callEncoded_value {enter : Entry κ} {world : World κ} {raw : RawValue} {value : Value κ}
    {heap : Heap κ}
    (native : function.callRaw enter raws { world with pending := none } = (.ok raw, left))
    (pending : left.pending = none)
    (read : decodeReturn left.memory raw function.type.signature.result left.heap =
      .ok (value, heap)) :
    function.callEncoded enter raws [] world =
      (.ok value, { left with heap := heap, pending := world.pending }) := by
  simp only [callEncoded, World.isolate, World.takeFault, native, pending, readBack, List.foldl_nil,
    read]

/-- Arguments with a NUL in a text are refused before anything runs. -/
theorem call_nul {args : List (Value κ)}
    (typed : List.Forall₂ Value.HasType args function.type.signature.parameters)
    (nul : ∃ value ∈ args, value.HasNul) (enter : Entry κ) (inner : EntryJournal κ)
    (now : World κ) :
    function.call enter args now = (.returned (.error MarshalError.interiorNul), now) ∧
      function.journal inner args now = [] := by
  have encoded : function.encoded args now = .returned (.error MarshalError.interiorNul) := by
    rw [ForeignFunction.encoded, if_pos typed.length_eq]
    exact encodeAll_nul typed nul now.heap
  constructor
  · rw [call_eq_encoded, encoded]
  · rw [journal, encoded]

/-- Other arguments are encoded to raw values that stand for them. -/
theorem encoded_ok {args : List (Value κ)} {now : World κ}
    (typed : List.Forall₂ Value.HasType args function.type.signature.parameters)
    (clean : ∀ value ∈ args, ¬ value.HasNul) (fits : (now.memory.keepAll args).Fits) :
    ∃ raws, function.encoded args now = .returned (.ok (raws, [], now.memory.keepAll args)) ∧
      List.Forall₂ (now.memory.keepAll args).Carries raws args := by
  obtain ⟨raws, encoded, carried⟩ := encodeAll_ok typed clean fits now.heap
  refine ⟨raws, ?_, carried⟩
  rw [ForeignFunction.encoded, if_pos typed.length_eq]
  exact encoded

/-- In a call through the address of a closure whose arguments can be decoded its host code runs
once. -/
theorem journal_accepted {closure : Closure κ} {body : List (Value κ) → Code κ}
    {args seen : List (Value κ)} {now : World κ} {lent : List LentBuffer} {memory : Memory}
    {writeBacks : List WriteBack} {heap : Heap κ} {depth : Nat}
    (encoded : function.encoded args now = .returned (.ok (raws, lent, memory)))
    (there : now.codeAt? function.address = some (.closure closure))
    (abis : raws.map RawValue.abi = function.type.signature.parameters.map HostType.abi)
    (handler : closure.handler = .function body) :
    let entry : ClosureCall κ := ⟨depth, function.address, closure, raws, nativeStart now memory⟩
    entry.accepted = .ok (seen, writeBacks, heap) →
      function.journal (enterJournal (depth + 1)) args now =
        (.entered entry ::
          (body seen).journal (enterAt depth) (enterJournal depth) .bare
            { entry.world with heap := heap } ++ entry.closing).map Event.deeper := by
  intro entry accepted
  have entered : (nativeStart now memory).codeAt? function.address = some (.closure closure) := there
  have native := rawJournal_closure entered abis depth
  rw [journal, encoded]
  simp only
  rw [native, ClosureCall.journal, ClosureCall.insideJournal, accepted, handler]
  rfl

/-- In a call through the address of a wrapper the wrapped function runs once. -/
theorem journal_wrapped {closure : Closure κ} {body : List (Value κ) → Code κ}
    {args : List (Value κ)} {now : World κ} (wraps : closure.Wraps function.type body)
    (there : now.codeAt? function.address = some (.closure closure))
    (typed : List.Forall₂ Value.HasType args function.type.signature.parameters)
    (clean : ∀ value ∈ args, ¬ value.HasNul) (fits : (now.memory.keepAll args).Fits) (depth : Nat) :
    ∃ entry : ClosureCall κ, entry.closure = closure ∧
      entry.world = nativeStart now (now.memory.keepAll args) ∧
      entry.accepted = .ok (args, [], now.heap) ∧
      function.journal (enterJournal (depth + 1)) args now =
        (.entered entry ::
          (body args).journal (enterAt depth) (enterJournal depth) .bare entry.world ++
            entry.closing).map Event.deeper := by
  obtain ⟨raws, encoded, carried⟩ := encoded_ok typed clean fits
  have accepted : ClosureCall.accepted ⟨depth, function.address, closure, raws,
      nativeStart now (now.memory.keepAll args)⟩ = .ok (args, [], now.heap) :=
    wraps.accepted typed clean carried depth function.address
  exact ⟨⟨depth, function.address, closure, raws, nativeStart now (now.memory.keepAll args)⟩, rfl,
    rfl, accepted,
    journal_accepted encoded there (abi_of_carried typed carried) wraps.handler accepted⟩

section

variable {closure : Closure κ} {args : List (Value κ)} {now : World κ} {memory : Memory}
  {depth : Nat}

theorem call_encoded {enter : Entry κ}
    (encoded : function.encoded args now = .returned (.ok (raws, [], memory))) :
    function.call enter args now =
      (.returned (function.callEncoded enter raws [] { now with memory := memory }).1,
        (function.callEncoded enter raws [] { now with memory := memory }).2) := by
  rw [call_eq_encoded, encoded]

/-- A fault that the entered closure raises is the error of the call. -/
theorem call_fault {raw : RawValue} {fault : Error}
    (encoded : function.encoded args now = .returned (.ok (raws, [], memory)))
    (there : now.codeAt? function.address = some (.closure closure))
    (abis : raws.map RawValue.abi = function.type.signature.parameters.map HostType.abi)
    (entered : closure.enter (enterAt depth) function.address raws (nativeStart now memory) =
      (raw, left.raise fault))
    (pending : left.pending = none) :
    function.call (enterAt (depth + 1)) args now =
      (.returned (.error fault), { left with pending := now.pending }) := by
  have found : (nativeStart now memory).codeAt? function.address = some (.closure closure) := there
  have native := callRaw_closure found abis depth
  have parked : (left.raise fault).pending = some fault := by
    rw [World.raise, pending]
    rfl
  rw [entered] at native
  rw [call_encoded encoded, callEncoded_fault native parked]
  rfl

/-- A value that the entered closure gives is what the call returns. -/
theorem call_value {raw : RawValue} {value : Value κ} {heap : Heap κ}
    (encoded : function.encoded args now = .returned (.ok (raws, [], memory)))
    (there : now.codeAt? function.address = some (.closure closure))
    (abis : raws.map RawValue.abi = function.type.signature.parameters.map HostType.abi)
    (entered : closure.enter (enterAt depth) function.address raws (nativeStart now memory) =
      (raw, left))
    (abi : raw.abi = function.type.signature.result.abi)
    (read : decodeReturn left.memory raw function.type.signature.result left.heap =
      .ok (value, heap))
    (pending : left.pending = none) :
    function.call (enterAt (depth + 1)) args now =
      (.returned (.ok value), { left with heap := heap, pending := now.pending }) := by
  have found : (nativeStart now memory).codeAt? function.address = some (.closure closure) := there
  have native := callRaw_closure found abis depth
  have passed : function.callRaw (enterAt (depth + 1)) raws (nativeStart now memory) =
      (.ok raw, left) := by
    rw [entered] at native
    rw [native, ← abi]
    exact congrArg (fun read => (Except.ok read, _)) raw.readResult_self
  rw [call_encoded encoded, callEncoded_value passed pending read]

end

/-- A call through the address of a wrapper ends as the run of the wrapped function ends. -/
theorem call_wrapped {closure : Closure κ} {body : List (Value κ) → Code κ} {args : List (Value κ)}
    {now : World κ} (wraps : closure.Wraps function.type body)
    (there : now.codeAt? function.address = some (.closure closure))
    (typed : List.Forall₂ Value.HasType args function.type.signature.parameters)
    (clean : ∀ value ∈ args, ¬ value.HasNul) (fits : (now.memory.keepAll args).Fits) (depth : Nat)
    {outcome : Outcome (Value κ)}
    (ran : (body args).run (enterAt depth) .bare (nativeStart now (now.memory.keepAll args)) =
      (outcome, left))
    (pending : left.pending = none) :
    let call := function.call (enterAt (depth + 1)) args now
    (∀ value, outcome = .returned (.ok value) →
      value.HasType function.type.signature.result →
        (¬ value.HasNul → (left.memory.keep value).Fits →
          call = (.returned (.ok value),
            { left.keepResult function.address value with pending := now.pending })) ∧
        (value.HasNul → call = (.returned (.error MarshalError.interiorNul),
          { left with pending := now.pending }))) ∧
      (∀ error, outcome = .returned (.error error) →
        call = (.returned (.error error), { left with pending := now.pending })) ∧
      (∀ message, outcome = .panicked message →
        call = (.returned (.error (.panicked (panicText message))),
          { left with pending := now.pending })) := by
  intro call
  obtain ⟨raws, encoded, carried⟩ := encoded_ok typed clean fits
  have abis := abi_of_carried typed carried
  let entry : ClosureCall κ :=
    ⟨depth, function.address, closure, raws, nativeStart now (now.memory.keepAll args)⟩
  have dispatched : entry.dispatched = entry.finish [] (outcome, left) := by
    rw [wraps.dispatched typed clean carried depth function.address, ran]
  have slot : closure.plan.result = .ofType function.type.signature.result := by
    rw [wraps.plan]
    rfl
  refine ⟨?_, ?_, ?_⟩
  · rintro value rfl result
    have finished : entry.finish [] (.returned (.ok value), left) =
        (.returned (closure.give function.address value left).1,
          (closure.give function.address value left).2) := rfl
    rw [finished] at dispatched
    constructor
    · intro whole room
      obtain ⟨raw, given, carried⟩ := Closure.give_ok slot result whole function.address left
      have stands : (left.keepResult function.address value).memory.Carries raw value := by
        rw [left.keepResult_memory]
        exact carried room
      rw [given] at dispatched
      have abi : raw.abi = function.type.signature.result.abi := result.abi_eq stands
      have entered := entry.enter_returned dispatched (by rw [abi, wraps.sameType])
      have empty : (left.keepResult function.address value).pending = none :=
        (left.keepResult_quiet function.address value).pending.trans pending
      exact call_value encoded there abis entered abi (result.decodeReturn_ok whole stands _) empty
    · intro nul
      rw [Closure.give_nul slot result nul] at dispatched
      exact call_fault encoded there abis (entry.enter_failed dispatched) pending
  · rintro error rfl
    exact call_fault encoded there abis (entry.enter_failed dispatched) pending
  · rintro message rfl
    exact call_fault encoded there abis (entry.enter_panicked dispatched) pending

end ForeignFunction

/-! ### Wrapping and calling back -/

/-- All parameters and the result have plain types. -/
structure Signature.IsPlain (signature : Signature κ) : Prop where
  parameters : ∀ type ∈ signature.parameters, type.IsPlain
  result : signature.result.IsPlain

theorem MarshalPlan.parameterHandleFault_none {types : List (HostType κ)}
    (plain : ∀ type ∈ types, type.IsPlain) (index : Nat) :
    parameterHandleFault index (types.map .ofType) = none := by
  induction types generalizing index with
  | nil => rfl
  | cons type types ih =>
    have first := (plain type List.mem_cons_self).byHandle
    have rest := ih (fun other found => plain other (List.mem_cons_of_mem _ found)) (index + 1)
    rw [List.map_cons, parameterHandleFault, first, rest]
    rfl

namespace World

/-- A function of plain values can be wrapped. -/
theorem wrap_plain {type : CallableType κ} (plain : type.signature.IsPlain) (world : World κ)
    (label : String) (body : List (Value κ) → Code κ) :
    world.wrap type label body = .ok (world.addCode (.closure ⟨type, label,
      .ofTypes type.signature.parameters type.signature.result, none, .function body, []⟩)) := by
  have parameters := MarshalPlan.parameterHandleFault_none plain.parameters 0
  have fault : (MarshalPlan.ofTypes type.signature.parameters type.signature.result).handleFault =
      none := by
    rw [MarshalPlan.handleFault, MarshalPlan.ofTypes, parameters, plain.result.byHandle]
    rfl
  rw [wrap, addClosure]
  simp only [fault]

/-- A host function of plain values is wrapped at an address, and calling the address at the same
type is running the function, whatever happens in between.  It runs exactly once, on the arguments
of the call, and the call ends as the run does: with its value, its error or its panic.  The
exceptions are texts with a NUL, as an argument before the function runs and as a result after it
has run.  A function over marshal types gets the tuple whose host values the arguments are.  There
must be native addresses for the closure and for the texts. -/
theorem call_wrap (world : World κ) (type : CallableType κ) (label : String)
    (body : List (Value κ) → Code κ) (plain : type.signature.IsPlain)
    (space : AddressRoom world.code.size) :
    ∃ address made, world.wrap type label body = .ok (address, made) ∧
      ForeignFunction.atAddress address type = .ok ⟨address, type⟩ ∧
      (∀ (now : World κ) depth args, made.KeepsClosures now →
        List.Forall₂ Value.HasType args type.signature.parameters →
        let function : ForeignFunction κ := ⟨address, type⟩
        let call := function.call (enterAt (depth + 1)) args now
        let journal := function.journal (enterJournal (depth + 1)) args now
        ((∃ value ∈ args, value.HasNul) →
          call = (.returned (.error MarshalError.interiorNul), now) ∧ journal = []) ∧
        ((∀ value ∈ args, ¬ value.HasNul) → (now.memory.keepAll args).Fits →
          let start := ForeignFunction.nativeStart now (now.memory.keepAll args)
          let ran := (body args).run (enterAt depth) .bare start
          (∃ entry : ClosureCall κ, entry.closure.handler = .function body ∧ entry.world = start ∧
            entry.accepted = .ok (args, [], now.heap) ∧
            journal = (.entered entry ::
              (body args).journal (enterAt depth) (enterJournal depth) .bare start ++
                entry.closing).map Event.deeper) ∧
          ((body args).MakesNoRawCall (enterAt depth) .bare start →
            (∀ value, ran.1 = .returned (.ok value) → value.HasType type.signature.result →
              (¬ value.HasNul → (ran.2.memory.keep value).Fits →
                call = (.returned (.ok value),
                  { ran.2.keepResult address value with pending := now.pending })) ∧
              (value.HasNul → call = (.returned (.error MarshalError.interiorNul),
                { ran.2 with pending := now.pending }))) ∧
            (∀ error, ran.1 = .returned (.error error) →
              call = (.returned (.error error), { ran.2 with pending := now.pending })) ∧
            (∀ message, ran.1 = .panicked message →
              call = (.returned (.error (.panicked (panicText message))),
                { ran.2 with pending := now.pending }))))) ∧
      (∀ (function : HostFunction κ) args, function.body = body →
        List.Forall₂ MarshalType.Admits function.parameters args →
        ∃ tuple : Tuple function.parameters,
          (∀ heap, Tuple.intoValues function.parameters tuple heap = (args, heap)) ∧
          ∀ (enter : Entry κ) frame start, (body args).run enter frame start =
            (Host.returning function.result (function.run tuple)).run enter frame start) := by
  let closure : Closure κ := ⟨type, label,
    .ofTypes type.signature.parameters type.signature.result, none, .function body, []⟩
  refine ⟨codeAddress world.code.size, (world.addCode (.closure closure)).2,
    world.wrap_plain plain label body, if_neg (codeAddress_ne_zero space), ?_, ?_⟩
  · intro now depth args kept typed function call journal
    have made : (world.addCode (.closure closure)).2.code[world.code.size]? =
        some (.closure closure) := Array.getElem?_push_size
    obtain ⟨returned, stands⟩ := kept _ closure made
    have there : now.codeAt? function.address =
        some (.closure { closure with returned := returned }) := codeAt?_codeAddress stands space
    have wraps : Closure.Wraps { closure with returned := returned } function.type body :=
      ⟨rfl, rfl, rfl⟩
    constructor
    · intro nul
      exact ForeignFunction.call_nul typed nul _ _ now
    · intro clean fits start ran
      constructor
      · obtain ⟨entry, entered, begun, accepted, same⟩ :=
          ForeignFunction.journal_wrapped wraps there typed clean fits depth
        rw [begun] at same
        exact ⟨entry, by rw [entered], begun, accepted, same⟩
      · intro alone
        have pending : ran.2.pending = none := Code.run_pending alone
        exact ForeignFunction.call_wrapped wraps there typed clean fits depth rfl pending
  · rintro function args rfl admitted
    exact function.run_body admitted

end World

namespace Workbench

/-- A function that returns the text it gets. -/
def echoBody (args : List (Value Key)) : Code Key :=
  .done (.ok (args.headD .void))

/-- The callable type of functions from texts to texts. -/
def echoType : CallableType Key :=
  ⟨1, ⟨[.string], .string⟩⟩

theorem echoType_isPlain : echoType.signature.IsPlain := by
  refine ⟨?_, trivial⟩
  intro type found
  rw [List.mem_singleton.mp found]
  trivial

theorem echoBody_makesNoRawCall (args : List (Value Key)) (enter : Entry Key) (frame : Frame)
    (world : World Key) : (echoBody args).MakesNoRawCall enter frame world := by
  intro function raws next frame' now reached
  cases reached with
  | next stepped _ => cases stepped

/-- A text comes back from a wrapper of the function that returns it. -/
theorem call_wrap_echo :
    ∃ address made,
      (World.initial Globals.initial : World Key).wrap echoType "echo" echoBody =
        .ok (address, made) ∧
      (ForeignFunction.call (enterAt 1) ⟨address, echoType⟩ [.string "tick"] made).1 =
        .returned (.ok (.string "tick")) := by
  have typed : List.Forall₂ Value.HasType [Value.string "tick"] echoType.signature.parameters :=
    .cons (.string "tick") .nil
  have whole : ¬ (Value.string "tick" : Value Key).HasNul := by
    show '\x00' ∉ "tick".toList
    decide
  have clean (value : Value Key) (found : value ∈ [Value.string "tick"]) : ¬ value.HasNul := by
    rwa [List.mem_singleton.mp found]
  obtain ⟨address, made, wrapped, -, calls, -⟩ :=
    World.call_wrap (World.initial Globals.initial) echoType "echo" echoBody echoType_isPlain
      (by decide)
  have placed := Except.ok.inj (wrapped.symm.trans (World.wrap_plain echoType_isPlain ..))
  have memory : made.memory = .empty := congrArg (fun one => one.2.memory) placed
  obtain ⟨-, clear⟩ := calls made 0 _ (.of_same rfl) typed
  obtain ⟨-, ended⟩ := clear clean (by rw [memory]; decide)
  obtain ⟨value, -⟩ := ended (echoBody_makesNoRawCall _ _ _ _)
  obtain ⟨returned, -⟩ := value _ rfl (.string "tick")
  have kept : ((made.memory.keepAll [(Value.string "tick" : Value Key)]).keep
      (Value.string "tick" : Value Key)).Fits := by
    rw [memory]
    decide
  exact ⟨address, made, wrapped, congrArg Prod.fst (returned whole kept)⟩

end Workbench

end NativeBridge
