/-
Module: NativeBridge.Proofs.TypedMembers
Purpose: Members made from host functions return what they declare.
Main exports: Host.Honest, Member.Typed, Member.ofConstructor_typed, Member.ofMethod_typed,
  Member.ofStaticMethod_typed, Member.ofGetter_typed, Member.ofStaticGetter_typed
-/
import NativeBridge.Description
import NativeBridge.Proofs.HostSteps

namespace NativeBridge

variable {κ : Type} [HostProgram κ]

/-!
A host function yields its result to the code that a member puts behind it, which turns it into a
value of the declared type.  So if a value comes out of a member, the code behind the function was
reached, and the value is what it made.
-/

/-- A stretch of host code ends with a value only by way of the code behind it. -/
def Host.Honest {α : Type} (host : Host κ α) : Prop :=
  ∀ next enter frame world value left,
    (host next).run enter frame world = (.returned (.ok value), left) →
      ∃ a frame' world', (next a).run enter frame' world' = (.returned (.ok value), left)

namespace Host.Honest

variable {α β : Type}

theorem pure (a : α) : (Pure.pure a : Host κ α).Honest :=
  fun _ _ frame world _ _ ended => ⟨a, frame, world, ended⟩

theorem bind {host : Host κ α} {next : α → Host κ β} (one : host.Honest)
    (two : ∀ a, (next a).Honest) : (host >>= next).Honest := by
  intro rest enter frame world value left ended
  obtain ⟨a, frame', world', ended⟩ := one (fun a => next a rest) enter frame world value left ended
  exact two a rest enter frame' world' value left ended

/-- A request is answered, or panics. -/
theorem of_step {host : Host κ α}
    (answered : ∀ next enter frame world,
      (∃ a frame' world', (host next).step enter frame world = .rest (next a) frame' world') ∨
        ∃ message world', (host next).step enter frame world = .ended (.panicked message) world') :
    host.Honest := by
  intro next enter frame world value left ended
  rw [Code.run_eq_step] at ended
  rcases answered next enter frame world with ⟨a, frame', world', stepped⟩ | ⟨_, _, stepped⟩
  · rw [stepped] at ended
    exact ⟨a, frame', world', ended⟩
  · rw [stepped] at ended
    cases ended

theorem callRaw (function : ForeignFunction κ) (args : List RawValue) :
    (Host.callRaw function args).Honest :=
  of_step fun _ _ _ _ => .inl ⟨_, _, _, rfl⟩

theorem call (function : ForeignFunction κ) (args : List (Value κ)) :
    (Host.call function args).Honest := by
  refine of_step fun next enter frame world => ?_
  simp only [Host.call, Code.step]
  cases function.call enter args world with
  | mk outcome left =>
    cases outcome with
    | panicked message => exact .inr ⟨_, _, rfl⟩
    | returned result => exact .inl ⟨_, _, _, rfl⟩

end Host.Honest

/-- A member ends with an instance where it declares an object. -/
def Member.Typed (member : Member κ) : Prop :=
  ∀ type, member.result = .object type →
    ∀ args enter frame world value left,
      (member.body args).run enter frame world = (.returned (.ok value), left) →
        ∃ object, value = .object object

/-- Every value that comes out of some code is an instance. -/
def Code.EndsWithObject (code : Code κ) : Prop :=
  ∀ enter frame world value left,
    code.run enter frame world = (.returned (.ok value), left) → ∃ object, value = .object object

namespace Code.EndsWithObject

theorem error (error : Error) : (Code.done (.error error) : Code κ).EndsWithObject := by
  intro enter frame world value left ended
  cases ended

theorem receiving {types : List (MarshalType κ)} {args : List (Value κ)}
    {body : Tuple types → Code κ} (ends : ∀ tuple, (body tuple).EndsWithObject) :
    (Host.receiving types args body).EndsWithObject := by
  intro enter frame world value left ended
  simp only [Host.receiving, Code.run] at ended
  cases read : Tuple.fromValues types args world.heap with
  | error reason =>
    rw [read] at ended
    exact error _ enter frame world value left ended
  | ok tuple =>
    rw [read] at ended
    exact ends tuple enter frame world value left ended

theorem withReceiver {type : ObjectType κ} {body : HostProgram.State type.key → Code κ}
    (ends : ∀ state, (body state).EndsWithObject) :
    (Member.withReceiver type body).EndsWithObject := by
  intro enter frame world value left ended
  simp only [Member.withReceiver, Code.run] at ended
  cases read : frame.receiver.bind (world.heap.stateAt? type.key) with
  | none =>
    rw [read] at ended
    exact error _ enter frame world value left ended
  | some state =>
    rw [read] at ended
    exact ends state enter frame world value left ended

/-- The result of an honest function is turned into an instance where one is declared. -/
theorem returning {result : MarshalType κ} {type : ObjectType κ}
    (declared : result.hostType = .object type) {host : Host κ (Carrier result)}
    (honest : host.Honest) : (Host.returning result host).EndsWithObject := by
  intro enter frame world value left ended
  obtain ⟨carried, frame', world', ended⟩ := honest _ enter frame world value left ended
  simp only [Code.run, Prod.mk.injEq, Outcome.returned.injEq, Except.ok.injEq] at ended
  obtain ⟨rfl, -⟩ := ended
  cases result with
  | shared key => exact ⟨_, rfl⟩
  | copied key => exact ⟨_, rfl⟩
  | _ => cases declared

end Code.EndsWithObject

namespace Member

variable {type : ObjectType κ} {parameters : List (MarshalType κ)} {result : MarshalType κ}

theorem ofConstructor_typed {make : Tuple parameters → Host κ (HostProgram.State type.key)}
    (honest : ∀ tuple, (make tuple).Honest) : (ofConstructor type parameters make).Typed := by
  intro declared _ args
  refine Code.EndsWithObject.receiving fun tuple => ?_
  intro enter frame world value left ended
  obtain ⟨state, frame', world', ended⟩ := honest tuple _ enter frame world value left ended
  simp only [Code.run, Prod.mk.injEq, Outcome.returned.injEq, Except.ok.injEq] at ended
  exact ⟨_, ended.1.symm⟩

theorem ofMethod_typed {name : String}
    {run : HostProgram.State type.key → Tuple parameters → Host κ (Carrier result)}
    (honest : ∀ state tuple, (run state tuple).Honest) :
    (ofMethod type name parameters result run).Typed := by
  intro object declared args
  refine Code.EndsWithObject.withReceiver fun state => .receiving fun tuple => ?_
  exact .returning declared (honest state tuple)

theorem ofStaticMethod_typed {name : String} {function : HostFunction κ}
    (honest : ∀ tuple, (function.run tuple).Honest) :
    (ofStaticMethod type name function).Typed := by
  intro object declared args
  refine Code.EndsWithObject.receiving fun tuple => ?_
  exact .returning declared (honest tuple)

theorem ofGetter_typed {kind : MemberKind} {name : String}
    {get : HostProgram.State type.key → Host κ (Carrier result)}
    (honest : ∀ state, (get state).Honest) : (ofGetter type kind name result get).Typed := by
  intro object declared args
  refine Code.EndsWithObject.receiving fun _ => .withReceiver fun state => ?_
  exact .returning declared (honest state)

theorem ofStaticGetter_typed {kind : MemberKind} {name : String} {get : Host κ (Carrier result)}
    (honest : get.Honest) : (ofStaticGetter type kind name result get).Typed := by
  intro object declared args
  refine Code.EndsWithObject.receiving fun _ => ?_
  exact .returning declared honest

end Member

end NativeBridge
