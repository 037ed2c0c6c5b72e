/-
Module: NativeBridge.Proofs.ReceiverClasses
Purpose: A call of a thunk fails before its member runs, or the member runs on an instance of its
  own class and finds it wherever it looks for it.
Main exports: Code.Reaches.keeps, Handler.start_own, ClosureCall.accepted_object,
  ClosureCall.RunsOnOwn, ClosureCall.KeepsClasses, Session.own_classes
-/
import NativeBridge.Proofs.HeldInstances
import NativeBridge.Proofs.InstanceClasses
import NativeBridge.Proofs.OwnInstances

namespace NativeBridge

variable {σ κ : Type} [HostProgram κ]

/-!
The type of an object is looked at once, where its handle is decoded as an argument: the class, the
semantics and so the name have to be those that the thunk declares.  Behind this check four looks at
the instance take its class for granted: a member's look for its receiver, the copy that a member of
a value class runs on, the copy of a value that is an argument, and a borrow of a shared instance.
As every object has an instance of its class, and keeps it, none of them finds another one.
-/

/-! ### Along a run -/

section

variable {enter : Entry κ} {code later : Code κ} {frame frame' : Frame} {world world' : World κ}

theorem Code.Effect.receiver (effect : Code.Effect enter frame world code frame' world') :
    frame'.receiver = frame.receiver := by
  cases effect with
  | borrows next granted =>
    obtain ⟨-, -, -, -, rfl, -⟩ := Frame.borrow_some granted
    rfl
  | returns object next =>
    unfold Frame.endBorrow
    split <;> rfl
  | _ => rfl

/-- Code runs on the same receiver at every later point of its run, and instances have kept their
classes there. -/
theorem Code.Reaches.keeps (balanced : enter.Balanced)
    (reached : Reaches enter code frame world later frame' world') :
    frame'.receiver = frame.receiver ∧
      ∀ object, world.Houses object → world'.Houses object := by
  induction reached with
  | here => exact ⟨rfl, fun _ houses => houses⟩
  | next stepped _ ih =>
    obtain ⟨receiver, kept⟩ := ih
    have effect := Code.step_effect stepped
    refine ⟨receiver.trans effect.receiver, fun object houses => kept object ?_⟩
    refine houses.of_instances fun cell one there => ?_
    obtain ⟨other, moved, key, -⟩ := effect.balances balanced cell one there
    exact ⟨other, moved, key⟩

end

/-! ### Where a member starts -/

theorem Dispatch.ofMember_receiving {member : Member κ}
    (receiving : Dispatch.ofMember member ≠ .static) :
    Dispatch.ofMember member = member.owner.semantics.dispatch := by
  cases bound : member.isStatic with
  | true => exact absurd (by rw [ofMember, if_pos bound]) receiving
  | false => exact ofMember_instance bound

/-- A member starts on an instance of its class: on a live one itself, and on a copy of a value. -/
structure Member.StartsOn (member : Member κ) (world : World κ) (target cell : Nat)
    (begun : World κ) : Prop where
  houses : begun.Houses ⟨cell, member.owner⟩
  live : member.owner.semantics = .reference → cell = target
  state : begun.heap.stateAt? member.owner.key cell =
    world.heap.stateAt? member.owner.key target

/-- A member whose receiver is an instance of its class either starts on it, or its receiver is
busy. -/
theorem Handler.start_own {member : Member κ} (receiving : Dispatch.ofMember member ≠ .static)
    {world : World κ} {target : Nat} (houses : world.Houses ⟨target, member.owner⟩)
    (args : List (Value κ)) (enter : Entry κ) :
    let handler := Handler.member (Dispatch.ofMember member) member
    let values := .object ⟨target, member.owner⟩ :: args
    (handler.start values world = none ∧ handler.run enter values world =
      (.returned (.error (HandleError.receiverBusy member.owner.name)), world)) ∨
    ∃ cell begun, handler.start values world =
      some (member.body args, .onReceiver cell, begun) ∧
        member.StartsOn world target cell begun := by
  intro handler values
  simp only [handler, values, Dispatch.ofMember_receiving receiving]
  cases semantics : member.owner.semantics with
  | reference =>
    simp only [Semantics.dispatch, start, run, runOnReceiver, runVirtual]
    cases granted : world.heap.borrowExclusive? target with
    | none => exact .inl ⟨rfl, rfl⟩
    | some heap =>
      obtain ⟨-, -, -, rfl⟩ := Heap.borrowExclusive?_cell granted
      let begun : World κ := { world with heap := world.heap.setBorrow target .exclusive }
      have housed : begun.Houses ⟨target, member.owner⟩ :=
        houses.gains (.setBorrow world target .exclusive)
      exact .inr ⟨target, begun, rfl, housed, fun _ => rfl, Heap.setBorrow_state _ _ _ _ _⟩
  | value =>
    simp only [Semantics.dispatch, start, run, runOnReceiver, runCopied]
    cases copied : world.heap.copyOut ⟨target, member.owner⟩ with
    | error error =>
      obtain rfl := houses.faithful.copy semantics error copied
      exact .inl ⟨rfl, rfl⟩
    | ok copy =>
      rcases copy with ⟨cell, heap⟩
      obtain ⟨-, one, state, there, -, holds, rfl, rfl⟩ := Heap.copyOut_ok copied
      let begun : World κ :=
        { world with heap := (world.heap.allocate member.owner.key state).2 }
      have same := Heap.stateAt?_allocate world.heap member.owner.key state
      refine .inr ⟨_, begun, rfl, ⟨_, Array.getElem?_push_size, rfl⟩, ?_, ?_⟩
      · intro reference
        rw [semantics] at reference
        cases reference
      · rw [same, Heap.stateAt?, there]
        exact holds.symm

/-! ### Objects among the arguments -/

/-- An object that is decoded stands behind the handle that was sent for it, and has the declared
type. -/
theorem acceptEach_object {registry : Option (Registry κ)} {memory : Memory}
    {slots : List (MarshalSlot κ)} {raws : List RawValue} {heap after : Heap κ}
    {values : List (Value κ)} {writeBacks : List WriteBack} {index : Nat} {type : ObjectType κ}
    (same : raws.length = slots.length)
    (accepted : acceptEach registry memory slots raws heap = .ok (values, writeBacks, after))
    (declared : slots[index]? = some (.ofType (.object type))) :
    ∃ handle cell table, raws[index]? = some (.pointer handle) ∧ registry = some table ∧
      table.resolve handle = .ok ⟨cell, type⟩ ∧ values[index]? = some (.object ⟨cell, type⟩) := by
  induction slots generalizing raws heap values writeBacks index with
  | nil => cases declared
  | cons slot slots ih =>
    cases raws with
    | nil => cases same
    | cons raw raws =>
      obtain ⟨value, first, middle, later, rest, one, others, rfl, rfl⟩ := acceptEach_cons accepted
      cases index with
      | zero =>
        cases declared
        obtain ⟨handle, cell, table, rfl, known, found, rfl⟩ := accept_object one
        exact ⟨handle, cell, table, rfl, known, found, rfl⟩
      | succ index => simpa using ih (Nat.succ.inj same) others (by simpa using declared)

namespace ClosureCall

variable {call : ClosureCall κ} {registry : Nat} {member : Member κ} {values : List (Value κ)}
  {writeBacks : List WriteBack} {heap : Heap κ} {index : Nat} {type : ObjectType κ}

theorem slot_of_declared (declared : (thunkParameters member)[index]? = some (.object type)) :
    (thunkPlan member).parameters[index]? = some (.ofType (.object type)) := by
  simp [thunkPlan, MarshalPlan.ofTypes, declared]

/-- What a thunk decodes where it declares an object is the object behind the handle that it was
sent, and this has the declared type. -/
theorem accepted_object (thunk : call.closure.IsThunk registry member)
    (accepted : call.accepted = .ok (values, writeBacks, heap))
    (declared : (thunkParameters member)[index]? = some (.object type)) :
    ∃ handle cell, call.args[index]? = some (.pointer handle) ∧
      (call.world.registry registry).resolve handle = .ok ⟨cell, type⟩ ∧
      values[index]? = some (.object ⟨cell, type⟩) := by
  have each := accepted_each accepted
  rw [thunk.plan, thunk.registry] at each
  obtain ⟨handle, cell, table, sent, known, found, value⟩ :=
    acceptEach_object thunk.length_args each (slot_of_declared declared)
  cases known
  exact ⟨handle, cell, sent, found, value⟩

/-- A call fails before any host code is run. -/
structure FailsBefore (call : ClosureCall κ) (error : Error) : Prop where
  notRun : call.inside = none
  outcome : call.outcome = .returned (.error error)

theorem failsBefore {error : Error} (failed : call.accepted = .error error) :
    call.FailsBefore error := by
  refine ⟨(refused failed).1, ?_⟩
  rw [outcome, dispatched_eq, failed]

/-- No argument before some index is refused. -/
def FrontTaken (call : ClosureCall κ) (index : Nat) : Prop :=
  ∀ (earlier : Nat) slot raw error, earlier < index →
    call.closure.plan.parameters[earlier]? = some slot → call.args[earlier]? = some raw →
    ¬ slot.type.Refuses (call.closure.registry.map call.world.registry) raw error

/-- A handle for an object of another type than the declared one makes a call fail with a type
mismatch, unless an argument before it is refused. -/
theorem other_type (thunk : call.closure.IsThunk registry member) {handle : UInt64}
    {object : HostObject κ} (declared : (thunkParameters member)[index]? = some (.object type))
    (sent : call.args[index]? = some (.pointer handle))
    (found : (call.world.registry registry).resolve handle = .ok object)
    (other : object.type ≠ type) :
    ∃ error, call.FailsBefore error ∧
      (call.FrontTaken index → error = MarshalError.typeMismatch type.name object.type.name) := by
  cases accepted : call.accepted with
  | ok decoded =>
    rcases decoded with ⟨values, writeBacks, heap⟩
    obtain ⟨_, cell, again, same, -⟩ := accepted_object thunk accepted declared
    rw [sent] at again
    cases again
    rw [found] at same
    cases same
    exact absurd rfl other
  | error error =>
    refine ⟨error, failsBefore accepted, fun front => ?_⟩
    have slot : call.closure.plan.parameters[index]? = some (.ofType (.object type)) := by
      rw [thunk.plan]
      exact slot_of_declared declared
    have refuses : HostType.Refuses (call.closure.registry.map call.world.registry)
        (.object type) (.pointer handle) (MarshalError.typeMismatch type.name object.type.name) := by
      rw [thunk.registry]
      exact .otherType rfl found other
    have length : call.args.length = call.closure.plan.parameters.length := by
      rw [thunk.plan]
      exact thunk.length_args
    have stops := accepted_error_iff.mpr
      (.inr ⟨length, index, _, _, slot, sent, refuses, front⟩)
    exact Except.error.inj (accepted.symm.trans stops)

/-! ### Calls of thunks -/

/-- A member runs on an instance of its own class: the one behind the handle, or a copy of it if it
is a value.  It is of this class at every point of the run, and wherever the member looks for its
receiver it goes on with a state of it. -/
structure RunsOnOwn (call : ClosureCall κ) (member : Member κ) (target : Nat) (args : List (Value κ))
    (heap : Heap κ) (cell : Nat) (begun : World κ) : Prop where
  started : call.closure.handler.start (.object ⟨target, member.owner⟩ :: args)
    { call.world with heap := heap } = some (member.body args, .onReceiver cell, begun)
  starts : member.StartsOn call.world target cell begun
  keeps : ∀ later frame now,
    (member.body args).Reaches (enterAt call.depth) (.onReceiver cell) begun later frame now →
      now.Houses ⟨cell, member.owner⟩
  finds : ∀ body frame now,
    (member.body args).Reaches (enterAt call.depth) (.onReceiver cell) begun
      (Member.withReceiver member.owner body) frame now →
    ∃ state, (Member.withReceiver member.owner body).step (enterAt call.depth) frame now =
      .rest (body state) frame now

theorem RunsOnOwn.of_started {target cell : Nat} {args : List (Value κ)} {begun : World κ}
    (started : call.closure.handler.start (.object ⟨target, member.owner⟩ :: args)
      { call.world with heap := heap } = some (member.body args, .onReceiver cell, begun))
    (starts : member.StartsOn call.world target cell begun) :
    call.RunsOnOwn member target args heap cell begun where
  started := started
  starts := starts
  keeps later frame now reached :=
    (reached.keeps (enterAt_balanced call.depth)).2 _ starts.houses
  finds body frame now reached := by
    obtain ⟨receiver, kept⟩ := reached.keeps (enterAt_balanced call.depth)
    obtain ⟨state, known⟩ := (kept _ starts.houses).state
    refine ⟨state, ?_⟩
    simp only [Member.withReceiver, Code.step, receiver, Frame.onReceiver, Option.bind_some, known]

/-- What a call of a thunk does about the classes of the objects it is sent.  It fails before its
member runs where a handle stands for an object of another type than the declared one, for the
receiver always with a type mismatch; and where its arguments are refused or its receiver is busy.
Otherwise its member runs on an instance of its own class, and all objects among the arguments have
the declared types. -/
structure KeepsClasses (call : ClosureCall κ) (registry : Nat) (member : Member κ)
    (known : HostObject κ → Prop) : Prop where
  receiver : Dispatch.ofMember member ≠ .static → ∀ handle object,
    call.args.head? = some (.pointer handle) →
    (call.world.registry registry).resolve handle = .ok object → object.type ≠ member.owner →
    call.FailsBefore (MarshalError.typeMismatch member.owner.name object.type.name)
  parameter : ∀ (index : Nat) type handle object,
    (thunkParameters member)[index]? = some (.object type) →
    call.args[index]? = some (.pointer handle) →
    (call.world.registry registry).resolve handle = .ok object → object.type ≠ type →
    ∃ error, call.FailsBefore error ∧
      (call.FrontTaken index → error = MarshalError.typeMismatch type.name object.type.name)
  refused : ∀ error, call.accepted = .error error → call.FailsBefore error
  objects : ∀ values writeBacks heap, call.accepted = .ok (values, writeBacks, heap) →
    ∀ (index : Nat) type, (thunkParameters member)[index]? = some (.object type) →
    ∃ handle cell, call.args[index]? = some (.pointer handle) ∧
      (call.world.registry registry).resolve handle = .ok ⟨cell, type⟩ ∧ known ⟨cell, type⟩ ∧
      values[index]? = some (.object ⟨cell, type⟩)
  runs : Dispatch.ofMember member ≠ .static → ∀ values writeBacks heap,
    call.accepted = .ok (values, writeBacks, heap) →
    call.IsBusy member ∨ ∃ target args cell begun,
      values = .object ⟨target, member.owner⟩ :: args ∧ known ⟨target, member.owner⟩ ∧
      call.RunsOnOwn member target args heap cell begun

theorem keepsClasses (thunk : call.closure.IsThunk registry member) {known : HostObject κ → Prop}
    (live : ∀ id handle object, (call.world.registry id).resolve handle = .ok object →
      known object)
    (houses : ∀ object, known object → call.world.Houses object) :
    call.KeepsClasses registry member known where
  receiver receiving handle object sent found other := by
    have declared : (thunkParameters member)[0]? = some (.object member.owner) := by
      rw [thunkParameters_receiver receiving]
      rfl
    obtain ⟨error, fails, mismatch⟩ := other_type thunk declared
      (List.head?_eq_getElem? ▸ sent) found other
    obtain rfl := mismatch fun _ _ _ _ before => absurd before (Nat.not_lt_zero _)
    exact fails
  parameter index type handle object declared sent found other :=
    other_type thunk declared sent found other
  refused error := failsBefore
  objects values writeBacks heap accepted index type declared := by
    obtain ⟨handle, cell, sent, found, value⟩ := accepted_object thunk accepted declared
    exact ⟨handle, cell, sent, found, live registry handle _ found, value⟩
  runs receiving values writeBacks heap accepted := by
    obtain ⟨handle, target, args, -, found, rfl⟩ := accepted_receiver thunk receiving accepted
    have among := live registry handle _ found
    have same := accepted_cells accepted
    have housed : World.Houses { call.world with heap := heap } ⟨target, member.owner⟩ :=
      (houses _ among).gains (.of_cells rfl same)
    obtain ⟨notStarted, ran⟩ | ⟨cell, begun, started, starts⟩ :=
      Handler.start_own receiving housed args (enterAt call.depth)
    · rw [← thunk.handler] at notStarted ran
      exact .inl (busy_of_unstarted accepted notStarted ran)
    · rw [← thunk.handler] at started
      have state := (Heap.reads_congr same member.owner.key target).1
      refine .inr ⟨target, args, cell, begun, rfl, among, .of_started started ?_⟩
      exact ⟨starts.houses, starts.live, starts.state.trans state⟩

end ClosureCall

/-! ### Sessions -/

namespace Session

variable [CompilationService σ κ]

/-- Over every run of bindings, calls in any nesting and releases in which a handle is given out
only for an object that there is, the instance of every object is at all times of the class that the
object's type names, and every live handle stands for such an object; so no look at an instance
finds one of another class.  Every call of a thunk, through whatever handles, fails before its
member runs or runs the member on an instance of the member's own class. -/
theorem own_classes (service : σ) (world : World κ) (deeds : List (Deed κ))
    (gently : AddsGently (κ := κ) σ) (gentle : ∀ deed ∈ deeds, deed.Gentle)
    (housed : ∀ id handle object, (world.registry id).resolve handle = .ok object →
      world.Houses object)
    (issues : Throughout (Moment.IssuesKnown world) (Deed.traces deeds (create service world))) :
    let trace := Deed.traces deeds (create service world)
    let last := (Deed.runs deeds (create service world)).2
    (∀ past now, StandsAfter trace last past now →
      (∀ object, Known world past object → now.Faithful object) ∧
      ∀ id handle object, (now.registry id).resolve handle = .ok object →
        Known world past object) ∧
    ∀ past call later registry member, trace = past ++ .entered call :: later →
      call.closure.IsThunk registry member →
      call.KeepsClasses registry member (Known world past) := by
  intro trace last
  have course := Deed.runs_course gently deeds gentle (create service world)
  have delivers := delivers_law.deeds deeds (create service world)
  have houses {past now} (stands : StandsAfter trace last past now) object
      (known : Known (create service world).2 past object) : now.Houses object :=
    known.houses delivers course stands
  have live {past now} (stands : StandsAfter trace last past now) :
      ∀ id handle object, (now.registry id).resolve handle = .ok object →
        Known world past object := by
    have begun : ∀ id handle object,
        ((create service world).2.registry id).resolve handle = .ok object →
        Known world [] object := by
      intro id handle object found
      rw [create_handles] at found
      exact .inr (housed id handle object found)
    exact (stands.course course).live_known begun (stands.throughout issues)
  constructor
  · intro past now stands
    exact ⟨fun object known => (houses stands object known).faithful, live stands⟩
  · intro past call later registry member parted thunk
    have stands : StandsAfter trace last past call.world := .inl ⟨_, later, parted, rfl⟩
    exact call.keepsClasses thunk (live stands) (houses stands)

end Session

namespace Workbench

/-- The class of the instances that have a tag. -/
def tagType : ObjectType Key := ⟨.widget .testClass, .reference⟩

/-- Another class of the same name. -/
def tagTwin : ObjectType Key := ⟨.widget .twin, .reference⟩

/-- The same class with the other semantics. -/
def tagCopy : ObjectType Key := ⟨.widget .testClass, .value⟩

/-- A method that tells the tag of its receiver. -/
def tagGet : Member Key :=
  .ofMethod tagType "tag" [] (.integer .i32) fun state _ => pure state.number

/-- The thunk of the method, its handles in the first registry. -/
def tagThunk : Closure Key :=
  ⟨⟨1, thunkSignature tagGet⟩, "tag", thunkPlan tagGet, some 0,
    .member (Dispatch.ofMember tagGet) tagGet, []⟩

/-- Host code that makes an instance and gets a handle for it. -/
def tagMake (type : ObjectType Key) (state : HostProgram.State type.key) : Code Key :=
  .newObject type state fun object => .allocateHandle 0 object fun _ => .done (.ok .void)

/-- The method, as native code sees it. -/
def tagFunction : ForeignFunction Key := ⟨World.codeAddress 0, ⟨1, thunkSignature tagGet⟩⟩

/-- Host code that calls the method while it writes to the instance. -/
def tagHold : Code Key :=
  .borrow ⟨0, tagType⟩ true fun _ =>
    .callRaw tagFunction [.pointer 1] fun _ => .done (.ok .void)

/-- A process with the thunk. -/
def tagWorld : World Key := { World.initial Globals.initial with code := #[.closure tagThunk] }

/-- Native code calls the method through each of the handles, and host code calls it while it writes
to the instance. -/
def tagCalls : List (Deed Key) :=
  [.native 1 (World.codeAddress 0) (.integer .i32) [.pointer 1],
    .native 1 (World.codeAddress 0) (.integer .i32) [.pointer 2],
    .native 1 (World.codeAddress 0) (.integer .i32) [.pointer 3], .host 1 tagHold]

/-- Host code makes an instance of the class, one of the class of the same name, and a value. -/
def tagDeeds : List (Deed Key) :=
  [.host 0 (tagMake tagType Widget.default), .host 0 (tagMake tagTwin Widget.default),
    .host 0 (tagMake tagCopy Widget.default)] ++ tagCalls

/-- The session and the process after some of these deeds. -/
def tagState (number : Nat) : Session ScriptedCompiler × World Key :=
  Deed.runs (tagDeeds.take number) (Session.create ScriptedCompiler.fresh tagWorld)

/-- The method is called through a handle. -/
def tagCall (handle : UInt64) (world : World Key) : ClosureCall Key :=
  ⟨0, World.codeAddress 0, tagThunk, [.pointer handle], world⟩

/-- The process while host code writes to the instance. -/
def tagHeld : World Key :=
  { (tagState 6).2 with heap := (tagState 6).2.heap.setBorrow 0 .exclusive }

theorem tagThunk_isThunk : tagThunk.IsThunk 0 tagGet := ⟨rfl, rfl, rfl, rfl⟩

/-- The thunk is where native code looks for it. -/
theorem tagThunk_placed {world : World Key} (there : world.code[0]? = some (.closure tagThunk))
    (handle : UInt64) :
    enterTrace 1 (World.codeAddress 0) [.pointer handle] world =
      (tagCall handle world).trace (enterTrace 0) :=
  enterTrace_closure (World.codeAt?_codeAddress there (by decide)) 0 [.pointer handle]

theorem tagGet_modest (args : List (Value Key)) : (tagGet.body args).Modest := by
  apply Code.Modest.readReceiver
  intro state
  cases state with
  | none => exact .done _
  | some state =>
    apply Code.Modest.unmarshal
    intro read
    cases read with
    | error error => exact .done _
    | ok tuple => exact .marshal fun _ => .done _

/-- A call of the method gives out no handle. -/
theorem tagCall_unissued (handle : UInt64) (world : World Key) :
    ∀ moment ∈ (tagCall handle world).trace (enterTrace 0), moment.issues = none := by
  have noObject : ∀ type, tagGet.result ≠ .object type := fun _ same => by cases same
  intro moment among
  exact (ClosureCall.trace_idle tagThunk_isThunk tagGet_modest noObject _ moment among).1

/-- The moments while host code writes to the instance and calls the method. -/
theorem tagHold_trace :
    Code.trace (enterAt 1) (enterTrace 1) tagHold .bare (tagState 6).2 =
      [.working tagHold .bare (tagState 6).2,
        .working (.callRaw tagFunction [.pointer 1] fun _ => .done (.ok .void))
          ⟨none, [⟨0, true⟩]⟩ tagHeld] ++
      (tagCall 1 tagHeld).trace (enterTrace 0) ++
      [.working (.done (.ok .void)) ⟨none, [⟨0, true⟩]⟩
        (tagFunction.callRaw (enterAt 1) [.pointer 1] tagHeld).2] := by
  have entered : tagFunction.rawTrace (enterTrace 1) [.pointer 1] tagHeld =
      (tagCall 1 tagHeld).trace (enterTrace 0) := by
    rw [ForeignFunction.rawTrace, if_pos ⟨rfl, rfl⟩]
    exact @tagThunk_placed tagHeld rfl 1
  have borrows : tagHold.step (enterAt 1) .bare (tagState 6).2 =
      .rest (.callRaw tagFunction [.pointer 1] fun _ => .done (.ok .void))
        ⟨none, [⟨0, true⟩]⟩ tagHeld := rfl
  rw [Code.trace_rest borrows, Code.trace_rest rfl, Code.trace_ended rfl]
  simp only [Code.nested, entered]
  rfl

/-- The moments of the calls. -/
theorem tagCalls_traces :
    Deed.traces tagCalls (tagState 3) =
      .outside none (tagState 3).2 :: ((tagCall 1 (tagState 3).2).trace (enterTrace 0) ++
      .outside none (tagState 4).2 :: ((tagCall 2 (tagState 4).2).trace (enterTrace 0) ++
      .outside none (tagState 5).2 :: ((tagCall 3 (tagState 5).2).trace (enterTrace 0) ++
      .outside none (tagState 6).2 ::
        Code.trace (enterAt 1) (enterTrace 1) tagHold .bare (tagState 6).2))) := by
  have parted : Deed.traces tagCalls (tagState 3) =
      .outside none (tagState 3).2 ::
        (enterTrace 1 (World.codeAddress 0) [.pointer 1] (tagState 3).2 ++
      .outside none (tagState 4).2 ::
        (enterTrace 1 (World.codeAddress 0) [.pointer 2] (tagState 4).2 ++
      .outside none (tagState 5).2 ::
        (enterTrace 1 (World.codeAddress 0) [.pointer 3] (tagState 5).2 ++
      .outside none (tagState 6).2 ::
        (Code.trace (enterAt 1) (enterTrace 1) tagHold .bare (tagState 6).2 ++ [])))) := rfl
  rw [parted, @tagThunk_placed (tagState 3).2 rfl, @tagThunk_placed (tagState 4).2 rfl,
    @tagThunk_placed (tagState 5).2 rfl, List.append_nil]

/-- No handle is given out by the calls. -/
theorem tagCalls_unissued : ∀ moment ∈ Deed.traces tagCalls (tagState 3), moment.issues = none := by
  rw [tagCalls_traces, tagHold_trace]
  simp only [List.forall_mem_cons, List.forall_mem_append]
  refine ⟨rfl, tagCall_unissued _ _, rfl, tagCall_unissued _ _, rfl, tagCall_unissued _ _, rfl,
    ⟨⟨rfl, rfl, List.forall_mem_nil _⟩, tagCall_unissued _ _⟩, rfl, List.forall_mem_nil _⟩

/-- An instance gets its handle after it was made. -/
theorem tagMake_issues {past : List (Moment Key)}
    (issues : Throughout (Moment.IssuesKnown tagWorld) past) (type : ObjectType Key)
    (state : HostProgram.State type.key) (before : Session ScriptedCompiler × World Key) :
    Throughout (Moment.IssuesKnown tagWorld)
      (past ++ (Deed.host 0 (tagMake type state)).trace before) := by
  let after : World Key := { before.2 with heap := (before.2.heap.newObject type state).2 }
  let object : HostObject Key := ⟨before.2.heap.cells.size, type⟩
  let outside : Moment Key := .outside none before.2
  let making : Moment Key := .working (tagMake type state) .bare before.2
  let giving : Moment Key :=
    .working (.allocateHandle 0 object fun _ => .done (.ok .void)) .bare after
  let ending : Moment Key :=
    .working (.done (.ok .void)) .bare (after.allocateHandle 0 object).2
  have trace : (Deed.host 0 (tagMake type state)).trace before =
      [outside, making, giving, ending] := by
    show _ :: Code.trace (enterAt 0) (enterTrace 0) (tagMake type state) .bare before.2 = _
    rw [Code.trace_rest rfl, Code.trace_rest rfl, Code.trace_ended rfl]
    rfl
  have known : giving.IssuesKnown tagWorld (past ++ [outside] ++ [making]) := by
    rintro _ _ _ ⟨⟩
    left
    rw [made_append]
    exact List.mem_append_right _ (List.mem_singleton_self object)
  have begun : Throughout (Moment.IssuesKnown tagWorld) (past ++ [outside]) :=
    issues.snoc (.of_none rfl)
  have made : Throughout (Moment.IssuesKnown tagWorld) (past ++ [outside] ++ [making]) :=
    begun.snoc (.of_none rfl)
  have all : Throughout (Moment.IssuesKnown tagWorld)
      (past ++ [outside] ++ [making] ++ [giving] ++ [ending]) :=
    (made.snoc known).snoc (.of_none rfl)
  rw [trace]
  simpa using all

/-- The moments of the deeds. -/
theorem tagDeeds_traces :
    Deed.traces tagDeeds (tagState 0) =
      (Deed.host 0 (tagMake tagType Widget.default)).trace (tagState 0) ++
      ((Deed.host 0 (tagMake tagTwin Widget.default)).trace (tagState 1) ++
      ((Deed.host 0 (tagMake tagCopy Widget.default)).trace (tagState 2) ++
      Deed.traces tagCalls (tagState 3))) := rfl

/-- Only objects that were made get handles in these deeds. -/
theorem tagDeeds_issues :
    Throughout (Moment.IssuesKnown tagWorld) (Deed.traces tagDeeds (tagState 0)) := by
  have first := tagMake_issues .nil tagType Widget.default (tagState 0)
  have second := tagMake_issues first tagTwin Widget.default (tagState 1)
  have third := tagMake_issues second tagCopy Widget.default (tagState 2)
  have all := third.append fun moment among _ => .of_none (tagCalls_unissued moment among)
  rw [tagDeeds_traces]
  simpa using all

/-- The calls of the method are among the moments of the deeds. -/
theorem tagDeeds_enter {call : ClosureCall Key}
    (among : call ∈ [tagCall 1 (tagState 3).2, tagCall 2 (tagState 4).2, tagCall 3 (tagState 5).2,
      tagCall 1 tagHeld]) : .entered call ∈ Deed.traces tagDeeds (tagState 0) := by
  rw [tagDeeds_traces, tagCalls_traces, tagHold_trace]
  simp only [List.mem_cons, List.not_mem_nil, or_false] at among
  obtain rfl | rfl | rfl | rfl := among <;> simp [ClosureCall.trace]

/-- A call through a live handle of the method's own class neither fails with a type mismatch nor
runs the method: host code writes to the instance meanwhile. -/
theorem tagHeld_busy :
    Throughout (Moment.IssuesKnown tagWorld) (Deed.traces tagDeeds (tagState 0)) ∧
      .entered (tagCall 1 tagHeld) ∈ Deed.traces tagDeeds (tagState 0) ∧
      (tagCall 1 tagHeld).closure.IsThunk 0 tagGet ∧ Dispatch.ofMember tagGet ≠ .static ∧
      (tagCall 1 tagHeld).args.head? = some (.pointer 1) ∧
      (tagHeld.registry 0).resolve 1 = .ok ⟨0, tagGet.owner⟩ ∧
      ¬ ((∃ expected found, (tagCall 1 tagHeld).outcome =
            .returned (.error (MarshalError.typeMismatch expected found))) ∨
          (tagCall 1 tagHeld).insideTrace (enterTrace (tagCall 1 tagHeld).depth) ≠ []) := by
  have busy : (tagCall 1 tagHeld).outcome =
      .returned (.error (HandleError.receiverBusy "TestClass")) := rfl
  have notRun : (tagCall 1 tagHeld).insideTrace (enterTrace 0) = [] := rfl
  refine ⟨tagDeeds_issues, tagDeeds_enter (by simp), tagThunk_isThunk, by decide, rfl, rfl, ?_⟩
  rintro (⟨expected, found, mismatch⟩ | ran)
  · rw [busy] at mismatch
    cases mismatch
  · exact ran notRun

/-- Through the first handle the method runs on an instance of its own class, and tells its tag; the
handles for the class of the same name and for the value are refused. -/
theorem tagDeeds_own :
    Session.AddsGently (κ := Key) ScriptedCompiler ∧ (∀ deed ∈ tagDeeds, deed.Gentle) ∧
      (∀ id handle object, (tagWorld.registry id).resolve handle = .ok object →
        tagWorld.Houses object) ∧
      Throughout (Moment.IssuesKnown tagWorld) (Deed.traces tagDeeds (tagState 0)) ∧
      (∃ cell begun,
        (tagCall 1 (tagState 3).2).RunsOnOwn tagGet 0 [] (tagState 3).2.heap cell begun) ∧
      (tagCall 2 (tagState 4).2).FailsBefore (MarshalError.typeMismatch "TestClass" "TestClass") ∧
      (tagCall 3 (tagState 5).2).FailsBefore (MarshalError.typeMismatch "TestClass" "TestClass") := by
  have gentle : ∀ deed ∈ tagDeeds, deed.Gentle := by simp [tagDeeds, tagCalls, Deed.Gentle]
  have housed : ∀ id handle object, (tagWorld.registry id).resolve handle = .ok object →
      tagWorld.Houses object := by
    intro id handle object found
    cases found
  have receiving : Dispatch.ofMember tagGet ≠ .static := by decide
  obtain ⟨-, calls⟩ := Session.own_classes ScriptedCompiler.fresh tagWorld tagDeeds
    scriptedCompiler_addsGently gentle housed tagDeeds_issues
  refine ⟨scriptedCompiler_addsGently, gentle, housed, tagDeeds_issues, ?own, ?twin, ?copy⟩
  case own =>
    obtain ⟨past, later, parted⟩ :=
      List.append_of_mem (@tagDeeds_enter (tagCall 1 (tagState 3).2) (by simp))
    have call := calls past _ later 0 tagGet parted tagThunk_isThunk
    obtain busy | ⟨target, args, cell, begun, shape, -, runs⟩ :=
      call.runs receiving [.object ⟨0, tagType⟩] [] (tagState 3).2.heap rfl
    · have ran : (tagCall 1 (tagState 3).2).outcome = .returned (.ok (.integer .i32 42)) := rfl
      rw [busy.outcome] at ran
      cases ran
    · cases shape
      exact ⟨cell, begun, runs⟩
  case twin =>
    obtain ⟨past, later, parted⟩ :=
      List.append_of_mem (@tagDeeds_enter (tagCall 2 (tagState 4).2) (by simp))
    have call := calls past _ later 0 tagGet parted tagThunk_isThunk
    exact call.receiver receiving 2 ⟨1, tagTwin⟩ rfl rfl (by decide)
  case copy =>
    obtain ⟨past, later, parted⟩ :=
      List.append_of_mem (@tagDeeds_enter (tagCall 3 (tagState 5).2) (by simp))
    have call := calls past _ later 0 tagGet parted tagThunk_isThunk
    exact call.receiver receiving 3 ⟨2, tagCopy⟩ rfl rfl (by decide)

end Workbench

end NativeBridge
