/-
Module: NativeBridge.Proofs.ConstructedInstances
Purpose: What a constructor returns is an instance that nobody had a handle for before.
Main exports: Moment.Closes, bracketed_law, Host.Arrives, Member.IsConstructor, EndsMaking.apart,
  ClosureCall.constructed, ClosureCall.hands
-/
import NativeBridge.Proofs.Courses
import NativeBridge.Proofs.TraceLaw

namespace NativeBridge

variable {σ κ : Type} [HostProgram κ]

/-!
A constructor makes its object with its last request, so that nothing happens between this moment and
the end of the call.  Every object that has a handle by the time of the end was therefore made before
the object, and is in another cell.
-/

/-! ### Calls within traces -/

/-- When the host code of a call has ended its trace has just gone by. -/
def Moment.Closes (past : List (Moment κ)) (moment : Moment κ) : Prop :=
  ∀ call, moment = .left call →
    ∃ front, past = front ++ .entered call :: call.insideTrace (enterTrace call.depth)

/-- In a trace every call ends after its host code. -/
abbrev Bracketed (trace : List (Moment κ)) : Prop :=
  Throughout Moment.Closes trace

namespace Bracketed

variable {trace more : List (Moment κ)}

theorem join (one : Bracketed trace) (two : Bracketed more) : Bracketed (trace ++ more) := by
  refine Throughout.join one two ?_
  intro front past moment closes call same
  obtain ⟨middle, rfl⟩ := closes call same
  exact ⟨front ++ middle, by rw [List.append_assoc]⟩

/-- A moment at which no call ends. -/
theorem single {moment : Moment κ} (other : ∀ call, moment ≠ .left call) : Bracketed [moment] := by
  have all : Bracketed ([] ++ [moment]) :=
    Throughout.nil.snoc fun call same => absurd same (other call)
  exact all

/-- A trace that begins with a moment at which no call ends. -/
theorem cons {moment : Moment κ} (other : ∀ call, moment ≠ .left call) (later : Bracketed trace) :
    Bracketed (moment :: trace) :=
  (single other).join later

end Bracketed

/-- In the trace of every run each call ends after its host code. -/
theorem bracketed_law : TraceLaw (κ := κ) Bracketed where
  nil := .nil
  join one two := one.join two
  outside given world := by
    refine .single fun other same => ?_
    cases same
  ended _ := by
    refine .single fun other same => ?_
    cases same
  request inner stepped nested later := by
    rw [Code.trace_rest stepped]
    refine .cons (fun other same => ?_) (nested.join later)
    cases same
  call call inside := by
    have entered : Bracketed (.entered call :: call.insideTrace (enterTrace call.depth)) := by
      refine .cons (fun other same => ?_) inside
      cases same
    have left : Bracketed
        (.entered call :: call.insideTrace (enterTrace call.depth) ++ [.left call]) := by
      refine Throughout.snoc entered ?_
      rintro _ ⟨⟩
      exact ⟨[], rfl⟩
    have answered : Bracketed [.answered call] := by
      refine .single fun other same => ?_
      cases same
    have whole := left.join answered
    rwa [List.cons_append, List.cons_append, List.append_assoc] at whole

/-! ### Constructors -/

namespace Code.Reaches

variable {enter : Entry κ} {code middle later : Code κ} {frame frame' frame'' : Frame}
  {world world' world'' : World κ}

theorem trans (one : Reaches enter code frame world middle frame' world')
    (two : Reaches enter middle frame' world' later frame'' world'') :
    Reaches enter code frame world later frame'' world'' := by
  induction one with
  | here => exact two
  | next stepped _ ih => exact .next stepped (ih two)

/-- The trace from a point that a run comes to is the end of the trace of the run. -/
theorem trace_end (reached : Reaches enter code frame world later frame' world')
    (inner : EntryTrace κ) :
    ∃ front, code.trace enter inner frame world = front ++ later.trace enter inner frame' world' := by
  induction reached with
  | here => exact ⟨[], rfl⟩
  | @next code _ _ frame _ _ world _ _ stepped _ ih =>
    obtain ⟨front, same⟩ := ih
    refine ⟨.working code frame world :: (code.nested inner world ++ front), ?_⟩
    rw [Code.trace_rest stepped, same, List.cons_append, List.append_assoc]

end Code.Reaches

/-- A stretch of host code ends with a value only by way of the code behind it, in the same run. -/
def Host.Arrives {α : Type} (host : Host κ α) : Prop :=
  ∀ next enter frame world value left,
    (host next).run enter frame world = (.returned (.ok value), left) →
      ∃ a frame' world', (host next).Reaches enter frame world (next a) frame' world'

namespace Host.Arrives

variable {α : Type}

theorem honest {host : Host κ α} (arrives : host.Arrives) : host.Honest := by
  intro next enter frame world value left ended
  obtain ⟨a, frame', world', reached⟩ := arrives next enter frame world value left ended
  exact ⟨a, frame', world', reached.run_eq ▸ ended⟩

theorem pure (a : α) : (Pure.pure a : Host κ α).Arrives :=
  fun _ _ frame world _ _ _ => ⟨a, frame, world, .here⟩

end Host.Arrives

/-- Code that reads its arguments ends with a value only if it can read them. -/
theorem Host.receiving_reaches {types : List (MarshalType κ)} {args : List (Value κ)}
    (body : Tuple types → Code κ) {enter : Entry κ} {frame : Frame} {world left : World κ}
    {value : Value κ}
    (ended : (Host.receiving types args body).run enter frame world =
      (.returned (.ok value), left)) :
    ∃ tuple, (Host.receiving types args body).Reaches enter frame world (body tuple) frame world := by
  cases read : Tuple.fromValues types args world.heap with
  | error error =>
    simp only [receiving, Code.run, read] at ended
    cases ended
  | ok tuple =>
    have stepped : (Host.receiving types args body).step enter frame world =
        .rest (body tuple) frame world := by
      simp only [receiving, Code.step, read]
    exact ⟨tuple, .next stepped .here⟩

/-- A member is a constructor of a class, shown or hidden, under whatever symbol. -/
def Member.IsConstructor (member : Member κ) : Prop :=
  ∃ type parameters, ∃ make : Tuple parameters → Host κ (HostProgram.State type.key),
    ∃ visibility symbol, (∀ tuple, (make tuple).Arrives) ∧
      member = { ofConstructor type parameters make with
        visibility := visibility, symbol := symbol }

/-- A new object is in the first free cell. -/
theorem Moment.makes_cell {moment : Moment κ} {object : HostObject κ}
    (makes : moment.makes = some object) : object.cell = moment.world.heap.cells.size := by
  cases moment with
  | working code frame world =>
    cases code with
    | newObject type state next =>
      cases makes
      rfl
    | marshal type carried next =>
      cases type with
      | copied key =>
        cases makes
        rfl
      | _ => cases makes
    | _ => cases makes
  | _ => cases makes

/-- No moment both makes an object and gives out a handle. -/
theorem Moment.issues_of_makes (moment : Moment κ) {object : HostObject κ}
    (makes : moment.makes = some object) : moment.issues = none := by
  cases moment with
  | working code frame world =>
    cases code with
    | allocateHandle registry object next => cases makes
    | _ => rfl
  | left call => cases makes
  | _ => rfl

/-- A run made an object with its last request, and gave out no handle after that. -/
def EndsMaking (trace : List (Moment κ)) (object : HostObject κ) : Prop :=
  ∃ front making last, trace = front ++ [making, last] ∧ making.makes = some object ∧
    last.issues = none

namespace Member.IsConstructor

variable {member : Member κ}

theorem dispatch (constructs : member.IsConstructor) : Dispatch.ofMember member = .static := by
  obtain ⟨_, _, _, _, _, -, rfl⟩ := constructs
  rfl

theorem typed (constructs : member.IsConstructor) : member.Typed := by
  obtain ⟨_, _, _, _, _, arrives, rfl⟩ := constructs
  exact ofConstructor_typed fun tuple => (arrives tuple).honest

theorem result (constructs : member.IsConstructor) : member.result = .object member.owner := by
  obtain ⟨_, _, _, _, _, -, rfl⟩ := constructs
  rfl

/-- The object that a constructor comes to was made by its last request. -/
theorem trace_body (constructs : member.IsConstructor) {args : List (Value κ)} {enter : Entry κ}
    {frame : Frame} {world left : World κ} {object : HostObject κ}
    (ended : (member.body args).run enter frame world = (.returned (.ok (.object object)), left))
    (inner : EntryTrace κ) : EndsMaking ((member.body args).trace enter inner frame world) object := by
  obtain ⟨type, parameters, make, _, _, arrives, rfl⟩ := constructs
  let create (state : HostProgram.State type.key) : Code κ :=
    .newObject type state fun object => .done (.ok (.object object))
  obtain ⟨tuple, received⟩ := Host.receiving_reaches (fun tuple => make tuple create) ended
  have made : (make tuple create).run enter frame world =
      (.returned (.ok (.object object)), left) := received.run_eq ▸ ended
  obtain ⟨state, frame', world', reached⟩ := arrives tuple create enter frame world _ left made
  obtain ⟨front, whole⟩ := (received.trans reached).trace_end inner
  cases reached.run_eq.symm.trans made
  let making : Moment κ := .working (create state) frame' world'
  have trace : (create state).trace enter inner frame' world' =
      [making, .working (.done (.ok (.object ⟨world'.heap.cells.size, type⟩))) frame'
        { world' with heap := (world'.heap.newObject type state).2 }] := by
    rw [Code.trace_rest rfl, Code.trace_ended rfl]
    rfl
  exact ⟨front, making, _, whole.trans (congrArg (front ++ ·) trace), rfl, rfl⟩

end Member.IsConstructor

namespace EndsMaking

variable {trace first second : List (Moment κ)} {object earlier : HostObject κ} {moment : Moment κ}
  {start last : World κ} {registry : Nat} {handle : UInt64}

theorem further (ends : EndsMaking trace object) (front : List (Moment κ)) :
    EndsMaking (front ++ trace) object := by
  obtain ⟨middle, making, last, rfl, makes, unissued⟩ := ends
  exact ⟨front ++ middle, making, last, by rw [List.append_assoc], makes, unissued⟩

/-- A moment that gives out a handle comes before the moment of making. -/
theorem issued_before (ends : EndsMaking (first ++ moment :: second) object)
    (issued : moment.issues = some (registry, handle, earlier)) :
    ∃ between making last, second = between ++ [making, last] ∧ making.makes = some object := by
  obtain ⟨front, making, last, parted, makes, unissued⟩ := ends
  have notMaking : moment ≠ making := by
    rintro rfl
    rw [moment.issues_of_makes makes] at issued
    cases issued
  have notLast : moment ≠ last := by
    rintro rfl
    rw [unissued] at issued
    cases issued
  rcases List.append_eq_append_iff.mp parted with ⟨between, -, behind⟩ | ⟨back, -, behind⟩
  · cases between with
    | nil => exact absurd (List.cons.inj behind).1 notMaking
    | cons one rest => exact ⟨rest, making, last, (List.cons.inj behind).2, makes⟩
  · rcases back with _ | ⟨one, _ | ⟨other, rest⟩⟩
    · exact absurd (List.cons.inj behind).1.symm notMaking
    · exact absurd (List.cons.inj (List.cons.inj behind).2).1.symm notLast
    · have long := congrArg List.length behind
      simp at long

/-- What had a handle before is not what was made. -/
theorem apart (ends : EndsMaking (first ++ moment :: second) object)
    (issued : moment.issues = some (registry, handle, earlier))
    (course : Course start (first ++ moment :: second) last) (genuine : Genuine [] start)
    (instances : Throughout Moment.IssuesInstances (first ++ moment :: second)) :
    earlier.cell ≠ object.cell := by
  obtain ⟨between, making, final, rfl, makes⟩ := ends.issued_before issued
  have regrouped : first ++ moment :: (between ++ [making, final]) =
      (first ++ moment :: between) ++ making :: [final] := by simp
  rw [regrouped] at course instances
  obtain ⟨middle, before, -, -⟩ := course.at_moment
  have standing : Genuine ([] ++ (first ++ moment :: between)) making.world :=
    genuine.course before instances.front
  have among : earlier ∈ handed ([] ++ (first ++ moment :: between)) :=
    mem_handed.mpr ⟨moment, by simp, registry, handle, issued⟩
  rw [Moment.makes_cell makes]
  exact Nat.ne_of_lt (standing.cell_lt among)

end EndsMaking

namespace ClosureCall

variable {call : ClosureCall κ} {registry : Nat} {member : Member κ} {object : HostObject κ}

/-- Nothing happens between the making of what a constructor returns and the end of its call. -/
theorem constructed (thunk : call.closure.IsThunk registry member)
    (constructs : member.IsConstructor) {left : World κ}
    (ended : call.inside = some (.returned (.ok (.object object)), left)) (inner : EntryTrace κ) :
    EndsMaking (call.insideTrace inner) object := by
  rw [inside] at ended
  rw [insideTrace]
  cases accepted : call.accepted with
  | error error =>
    rw [accepted] at ended
    cases ended
  | ok decoded =>
    rcases decoded with ⟨args, writeBacks, heap⟩
    rw [accepted, thunk.handler, constructs.dispatch] at ended
    simp only [thunk.handler, constructs.dispatch]
    exact constructs.trace_body (Option.some.inj ended) inner

/-- By the time that the call of a constructor is left its object was made with the last request. -/
theorem ends_making (thunk : call.closure.IsThunk registry member)
    (constructs : member.IsConstructor) {left : World κ}
    (ended : call.inside = some (.returned (.ok (.object object)), left))
    {before after : List (Moment κ)} (bracketed : Bracketed (before ++ .left call :: after)) :
    EndsMaking before object := by
  obtain ⟨front, rfl⟩ := Throughout.here bracketed call rfl
  have inner := constructed thunk constructs ended (enterTrace call.depth)
  have regrouped : front ++ .entered call :: call.insideTrace (enterTrace call.depth) =
      (front ++ [.entered call]) ++ call.insideTrace (enterTrace call.depth) := by simp
  rw [regrouped]
  exact inner.further _

/-! ### Handles for what members return -/

/-- A call came back with a handle for the very instance that its member returned. -/
structure Hands (call : ClosureCall κ) (registry : Nat) (handle : UInt64) (object : HostObject κ) :
    Prop where
  returned : call.inside = some (.returned (.ok (.object object)), call.left)
  outcome : call.outcome = .returned (.ok (.pointer handle))
  issued : (Moment.left call).issues = some (registry, handle, object)
  stands : (call.after.registry registry).resolve handle = .ok object

/-- A call of a thunk that comes back with a value, an object being declared, comes back with a
handle for what its member returned. -/
theorem hands (thunk : call.closure.IsThunk registry member) (typed : member.Typed)
    {type : ObjectType κ} (declared : member.result = .object type) {raw : RawValue}
    (returned : call.outcome = .returned (.ok raw)) (has : call.left.HasRegistry registry) :
    ∃ handle object, raw = .pointer handle ∧ call.Hands registry handle object := by
  obtain ⟨object, inside, issued, rfl, -, registries⟩ :=
    returned_object thunk typed declared returned
  refine ⟨_, object, rfl, inside, returned, issued, ?_⟩
  have given : (call.left.allocateHandle registry object).2.registry registry =
      ((call.left.registry registry).allocate object).2 := by
    simp only [World.allocateHandle, World.registry_setRegistry, has, and_self, if_true]
  rw [World.registry_congr registries, given, Registry.resolve_allocate, if_pos rfl]

end ClosureCall

end NativeBridge
