/-
Module: NativeBridge.Proofs.ThunkCalls
Purpose: What a call of a member's thunk does to its registry besides what the member does.
Main exports: Closure.IsThunk, World.synthesize_isThunk, ClosureCall.returned_object,
  ClosureCall.returned_noObject, ClosureCall.dead_handle
-/
import NativeBridge.Proofs.ClosureAddresses
import NativeBridge.Proofs.HandleLedger
import NativeBridge.Proofs.TypedMembers
import NativeBridge.Thunk

namespace NativeBridge

variable {κ : Type} [HostProgram κ]

/-!
A thunk touches its registry in two places.  Before the member runs, handles among the arguments are
looked up, from left to right; one that is not live ends the call.  After the member has returned an
object where one was declared, a handle is given out for it.
-/

/-- A closure is the thunk of a member, its handles in a registry. -/
structure Closure.IsThunk (closure : Closure κ) (registry : Nat) (member : Member κ) : Prop where
  signature : closure.type.signature = thunkSignature member
  plan : closure.plan = thunkPlan member
  registry : closure.registry = some registry
  handler : closure.handler = .member (Dispatch.ofMember member) member

/-- A closure that runs a member is the thunk of the member. -/
def Closure.IsProper (closure : Closure κ) : Prop :=
  ∀ dispatch member, closure.handler = .member dispatch member →
    ∃ registry, closure.IsThunk registry member

namespace World

/-- What is made for a member is its thunk. -/
theorem synthesize_isThunk {world after : World κ} {member : Member κ} {symbol : String}
    {registry : Nat} {thunk : Thunk κ}
    (made : world.synthesize member symbol registry = (.ok thunk, after)) :
    ∃ closure : Closure κ, closure.IsThunk registry member ∧
      thunk.address = codeAddress world.code.size ∧
      after.code = world.code.push (.closure closure) := by
  simp only [synthesize] at made
  cases interned : world.internType (thunkSignature member) with
  | error error =>
    rw [interned] at made
    cases made
  | ok typed =>
    rcases typed with ⟨type, middle⟩
    rcases internType_ok interned with ⟨signature, types, rfl⟩
    rw [interned] at made
    dsimp only at made
    split at made
    · cases made
    · next added =>
      rcases addClosure_ok added with ⟨rfl, rfl⟩
      cases made
      exact ⟨_, ⟨signature, rfl, rfl, rfl⟩, rfl, rfl⟩

end World

/-! ### Arguments -/

theorem length_receive (parameters : List (Lane × AbiType)) (words : List (Lane × UInt64)) :
    (receive parameters words).length = parameters.length := by
  induction parameters generalizing words with
  | nil => rfl
  | cons first rest ih =>
    rcases first with ⟨lane, type⟩
    simp only [receive, List.length_cons, ih]

/-- A callee gets as many arguments as it has parameters. -/
theorem length_deliver (types : List AbiType) (args : List RawValue) :
    (deliver types args).length = types.length := by
  rw [deliver, length_receive, List.length_zip, lanes, length_lanesWithin, Nat.min_self]

/-- The thunk of a member with a receiver takes a handle for it in front of the parameters. -/
theorem thunkParameters_receiver {member : Member κ}
    (receives : Dispatch.ofMember member ≠ .static) :
    thunkParameters member = .object member.owner :: member.parameters := by
  rw [thunkParameters]
  cases dispatch : Dispatch.ofMember member with
  | static => exact absurd dispatch receives
  | virtual | copied => rfl

theorem thunkPlan_receiver {member : Member κ} (receives : Dispatch.ofMember member ≠ .static) :
    (thunkPlan member).parameters =
      .ofType (.object member.owner) :: member.parameters.map MarshalSlot.ofType := by
  rw [thunkPlan, MarshalPlan.ofTypes, thunkParameters_receiver receives]
  rfl

/-- A thunk gets as many arguments as its plan has parameters. -/
theorem Closure.IsThunk.length_args {call : ClosureCall κ} {registry : Nat} {member : Member κ}
    (thunk : call.closure.IsThunk registry member) :
    call.args.length = (thunkPlan member).parameters.length := by
  simp [ClosureCall.args, length_deliver, thunk.signature, thunkSignature,
    MarshalPlan.boundaryParameters]

/-- Decoding fails with the first argument that cannot be decoded. -/
theorem acceptEach_stops {registry : Option (Registry κ)} {memory : Memory}
    {slot : MarshalSlot κ} {raw : RawValue} {error : Error}
    (fails : ∀ heap, accept registry memory slot raw heap = .error error)
    (slots : List (MarshalSlot κ)) (raws : List RawValue) (heap : Heap κ) (index : Nat)
    (hasSlot : slots[index]? = some slot) (hasRaw : raws[index]? = some raw)
    (front : ∃ decoded,
      acceptEach registry memory (slots.take index) (raws.take index) heap = .ok decoded) :
    acceptEach registry memory slots raws heap = .error error := by
  induction index generalizing slots raws heap with
  | zero =>
    cases slots with
    | nil => cases hasSlot
    | cons one slots =>
      cases raws with
      | nil => cases hasRaw
      | cons first raws =>
        obtain rfl : one = slot := by simpa using hasSlot
        obtain rfl : first = raw := by simpa using hasRaw
        simp only [acceptEach, fails heap]
        rfl
  | succ index ih =>
    cases slots with
    | nil => cases hasSlot
    | cons one slots =>
      cases raws with
      | nil => cases hasRaw
      | cons first raws =>
        rcases front with ⟨decoded, front⟩
        simp only [List.take_succ_cons, acceptEach] at front ⊢
        cases accepted : accept registry memory one first heap with
        | error other =>
          rw [accepted] at front
          cases front
        | ok part =>
          rcases part with ⟨value, writeBacks, heap⟩
          rw [accepted] at front
          simp only [bind, Except.bind] at front ⊢
          have rest := ih slots raws heap (by simpa using hasSlot) (by simpa using hasRaw)
          cases decodedRest :
            acceptEach registry memory (slots.take index) (raws.take index) heap with
          | error other =>
            rw [decodedRest] at front
            cases front
          | ok part =>
            rw [rest ⟨part, decodedRest⟩]

/-- An object parameter fails with a handle that is not live. -/
theorem accept_dead {registry : Registry κ} {memory : Memory} {type : ObjectType κ}
    {byHandle : Bool} {handle : UInt64} (dead : registry.isLive handle = false) (heap : Heap κ) :
    accept (some registry) memory ⟨.object type, byHandle⟩ (.pointer handle) heap =
      .error (.handle (.invalidHandle handle)) := by
  simp only [accept, addressOf, liftM, monadLift, MonadLift.monadLift, Except.mapError, bind,
    Except.bind, Registry.resolve_of_dead dead]

/-- A live handle is decoded as the object it stands for, which has to be of the declared class. -/
theorem accept_live {registry : Registry κ} {handle : UInt64} {object : HostObject κ}
    (found : registry.resolve handle = .ok object) (memory : Memory) (type : ObjectType κ)
    (byHandle : Bool) (heap : Heap κ) :
    accept (some registry) memory ⟨.object type, byHandle⟩ (.pointer handle) heap =
      if object.type = type then .ok (.object object, [], heap)
      else .error (MarshalError.typeMismatch type.name object.type.name) := by
  simp only [accept, addressOf, liftM, monadLift, MonadLift.monadLift, Except.mapError, bind,
    Except.bind, found, HostObject.expectType]
  by_cases same : object.type = type
  · simp only [if_pos same]
  · simp only [if_neg same]

/-! ### Results -/

theorem Handler.start_member {dispatch : Dispatch} {member : Member κ} {args : List (Value κ)}
    {world begun : World κ} {code : Code κ} {frame : Frame}
    (started : (Handler.member dispatch member).start args world = some (code, frame, begun)) :
    ∃ rest, code = member.body rest := by
  unfold Handler.start at started
  split at started
  · contradiction
  · next same =>
    rcases Handler.member.inj same with ⟨rfl, rfl⟩
    simp only [Option.some.injEq, Prod.mk.injEq] at started
    exact ⟨_, started.1.symm⟩
  · next same =>
    rcases Handler.member.inj same with ⟨rfl, rfl⟩
    simp only [Option.map_eq_some_iff, Prod.mk.injEq] at started
    rcases started with ⟨_, _, same, _⟩
    exact ⟨_, same.symm⟩
  · next same =>
    rcases Handler.member.inj same with ⟨rfl, rfl⟩
    split at started
    · simp only [Option.some.injEq, Prod.mk.injEq] at started
      exact ⟨_, started.1.symm⟩
    · cases started
  · cases started

/-- A typed member returns an instance where an object is declared. -/
theorem Member.Typed.returns {member : Member κ} (typed : member.Typed) {type : ObjectType κ}
    (declared : member.result = .object type) {dispatch : Dispatch} {enter : Entry κ}
    {args : List (Value κ)} {world left : World κ} {value : Value κ}
    (ran : (Handler.member dispatch member).run enter args world = (.returned (.ok value), left)) :
    ∃ object, value = .object object := by
  have started := (Handler.member dispatch member).run_start enter args world
  split at started
  · next code frame begun same =>
    rcases Handler.start_member same with ⟨rest, rfl⟩
    rcases started with ⟨-, outcome, -⟩
    rw [ran] at outcome
    exact typed type declared rest enter frame begun value
      ((member.body rest).run enter frame begun).2 (Prod.ext outcome.symm rfl)
  · rcases started with ⟨error, failed⟩
    rw [ran] at failed
    cases failed

namespace ClosureCall

variable {call : ClosureCall κ} {registry : Nat} {member : Member κ}

/-- A call whose first undecodable argument is an object parameter with a handle that is not live
fails with this handle, and its member is not run. -/
theorem dead_handle (thunk : call.closure.IsThunk registry member) {index : Nat}
    {type : ObjectType κ} {handle : UInt64}
    (declared : (thunkParameters member)[index]? = some (.object type))
    (sent : call.args[index]? = some (.pointer handle))
    (front : ∃ decoded, acceptEach (some (call.world.registry registry)) call.world.memory
      ((thunkPlan member).parameters.take index) (call.args.take index) call.world.heap =
        .ok decoded)
    (dead : (call.world.registry registry).isLive handle = false) :
    call.inside = none ∧ call.outcome = .returned (.error (.handle (.invalidHandle handle))) ∧
      call.fault? = some (.handle (.invalidHandle handle)) ∧
      call.after = call.world.raise (.handle (.invalidHandle handle)) := by
  have slot : (thunkPlan member).parameters[index]? = some (.ofType (.object type)) := by
    simp [thunkPlan, MarshalPlan.ofTypes, declared]
  have stopped : call.accepted = .error (.handle (.invalidHandle handle)) := by
    rw [accepted, acceptAll, thunk.plan, thunk.registry, if_pos thunk.length_args]
    exact acceptEach_stops (accept_dead dead) _ _ _ index slot sent front
  have dispatched :
      call.dispatched = (.returned (.error (.handle (.invalidHandle handle))), call.world) := by
    rw [dispatched_eq, stopped]
  have outcome : call.outcome = .returned (.error (.handle (.invalidHandle handle))) := by
    rw [ClosureCall.outcome, dispatched]
  have fault : call.fault? = some (.handle (.invalidHandle handle)) := by
    rw [fault?, outcome]
  refine ⟨?_, outcome, fault, ?_⟩
  · rw [inside, stopped]
  · rw [after, fault, dispatched]

/-- How a call came back with a value: its host code returned one, which was encoded. -/
theorem outcome_ok {raw : RawValue} (returned : call.outcome = .returned (.ok raw)) :
    ∃ value left, call.inside = some (.returned (.ok value), left) ∧
      ∃ written : World κ, left.Quiet written ∧
        (call.closure.give call.address value written).1 = .ok raw := by
  rw [outcome, dispatched_eq] at returned
  rw [inside]
  cases accepted : call.accepted with
  | error error =>
    rw [accepted] at returned
    cases returned
  | ok decoded =>
    rcases decoded with ⟨args, writeBacks, heap⟩
    rw [accepted] at returned
    dsimp only at returned ⊢
    generalize call.closure.handler.run (enterAt call.depth) args
      { call.world with heap := heap } = ran at returned ⊢
    rcases ran with ⟨ended, left⟩
    cases ended with
    | panicked message => cases returned
    | returned result =>
      cases result with
      | error error => cases returned
      | ok value =>
        refine ⟨value, left, rfl, applyWriteBacks writeBacks left, applyWriteBacks_quiet _ _, ?_⟩
        simpa [finish] using returned

theorem left_of_inside {outcome : Outcome (Value κ)} {left : World κ}
    (inside : call.inside = some (outcome, left)) : call.left = left := by
  rw [ClosureCall.left, inside]
  rfl

/-- The host code that was run is the handler's, on some arguments. -/
theorem ran_of_inside {outcome : Outcome (Value κ)} {left : World κ}
    (inside : call.inside = some (outcome, left)) :
    ∃ args heap, call.closure.handler.run (enterAt call.depth) args
      { call.world with heap := heap } = (outcome, left) := by
  rw [ClosureCall.inside] at inside
  split at inside
  · exact ⟨_, _, Option.some.inj inside⟩
  · cases inside

/-- A call of a thunk that comes back with a value, an object being declared, has given a handle out
for the instance that its member returned. -/
theorem returned_object (thunk : call.closure.IsThunk registry member) (typed : member.Typed)
    {type : ObjectType κ} (declared : member.result = .object type) {raw : RawValue}
    (returned : call.outcome = .returned (.ok raw)) :
    ∃ object, call.inside = some (.returned (.ok (.object object)), call.left) ∧
      call.handle? = some (registry, (call.left.registry registry).next, object) ∧
      raw = .pointer (call.left.registry registry).next ∧ call.fault? = none ∧
      call.after.registries = (call.left.allocateHandle registry object).2.registries := by
  rcases outcome_ok returned with ⟨value, left, inside, written, quiet, given⟩
  rcases ran_of_inside inside with ⟨args, heap, ran⟩
  rw [thunk.handler] at ran
  obtain ⟨object, rfl⟩ := typed.returns declared ran
  obtain rfl := left_of_inside inside
  have slot : call.closure.plan.result.type = .object type := by
    simp [thunk.plan, thunkPlan, MarshalPlan.ofTypes, MarshalSlot.ofType, declared]
  have effect := call.closure.give_effect call.address (.object object) written
  simp only [slot, thunk.registry] at effect
  by_cases same : object.type = type
  · rw [if_pos same] at effect
    have handed : raw = .pointer (call.left.registry registry).next := by
      rw [effect, World.registry_congr quiet.registries] at given
      exact (Except.ok.inj given).symm
    have pointer : call.closure.type.signature.result.abi = .pointer := by
      rw [thunk.signature]
      simp only [thunkSignature, thunkPlan, MarshalPlan.boundaryResult, MarshalPlan.ofTypes,
        declared]
      rfl
    have faultless : call.fault? = none := by
      simp [fault?, returned, handed, pointer, RawValue.abi]
    have issued : call.handle? = some (registry, (call.left.registry registry).next, object) := by
      simp [handle?, inside, slot, thunk.registry, same]
    have dispatched := call.dispatched_effect
    rw [issued] at dispatched
    refine ⟨object, inside, issued, handed, faultless, ?_⟩
    rw [after, faultless]
    exact dispatched.2.2.registries
  · rw [if_neg same] at effect
    rcases effect with ⟨error, failed⟩
    rw [failed] at given
    cases given

/-- A thunk gives out a handle only where an object is declared. -/
theorem declared_of_handle (thunk : call.closure.IsThunk registry member)
    {given : Nat × UInt64 × HostObject κ} (handed : call.handle? = some given) :
    ∃ type, member.result = .object type := by
  rw [handle?] at handed
  split at handed
  · next same _ =>
    exact ⟨_, by simpa [thunk.plan, thunkPlan, MarshalPlan.ofTypes, MarshalSlot.ofType] using same⟩
  · cases handed

/-- Every other call of a thunk leaves all registries as its member left them. -/
theorem returned_noObject (thunk : call.closure.IsThunk registry member)
    (other : ∀ raw type, call.outcome = .returned (.ok raw) → member.result ≠ .object type) :
    call.after.registries = call.left.registries := by
  have effect := call.dispatched_effect
  have kept : call.after.registries = call.dispatched.2.registries := by
    rw [after]
    cases call.fault? <;> rfl
  cases handed : call.handle? with
  | none =>
    rw [handed] at effect
    rw [kept, effect.registries]
  | some given =>
    rcases given with ⟨one, handle, object⟩
    rw [handed] at effect
    obtain ⟨type, declared⟩ := declared_of_handle thunk handed
    exact absurd declared (other _ type effect.1)

end ClosureCall

end NativeBridge
