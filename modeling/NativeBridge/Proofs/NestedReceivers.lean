/-
Module: NativeBridge.Proofs.NestedReceivers
Purpose: What calls on instances come to while a member runs on a live instance.
Main exports: World.borrowed, ClosureCall.atTop, ClosureCall.AsAtTop, ClosureCall.nested_receivers
-/
import NativeBridge.Proofs.HeldInstances
import NativeBridge.Proofs.UndisturbedRuns
import NativeBridge.Proofs.WrapRoundTrip

namespace NativeBridge

variable {κ : Type} [HostProgram κ]

/-!
Below a member that runs on a live instance, native code may call any member on any instance.  On the
same instance the call is refused as busy.  On an instance that nobody holds it goes as it would at
the top level, where nobody holds any instance: the two runs go in step up to the first moment at
which an instance is asked for that was held when the call began.  There they may part, since at the
top level the instance is not held.
-/

/-- Whether somebody holds the instance in a cell. -/
def World.borrowed (world : World κ) (cell : Nat) : Bool :=
  (world.heap.borrowAt? cell).any (· ≠ .free)

theorem World.borrowed_free {world : World κ} {cell : Nat}
    (free : world.heap.borrowAt? cell = some .free) : world.borrowed cell = false := by
  simp [World.borrowed, free]

namespace ClosureCall

/-- The same call at the top level, where nobody holds an instance. -/
def atTop (call : ClosureCall κ) : ClosureCall κ :=
  call.freed call.world.borrowed

/-- A call goes as it would at the top level, as long as it asks for no instance that was held when
it began; and if it never does, the same comes of it. -/
structure AsAtTop (call : ClosureCall κ) : Prop where
  inStep : InStep call.world.borrowed (call.trace (enterTrace call.depth))
    (call.atTop.trace (enterTrace call.depth))
  outcome : Undisturbed call.world.borrowed (call.trace (enterTrace call.depth)) →
    call.atTop.outcome = call.outcome
  fault : Undisturbed call.world.borrowed (call.trace (enterTrace call.depth)) →
    call.atTop.fault? = call.fault?
  after : Undisturbed call.world.borrowed (call.trace (enterTrace call.depth)) →
    call.atTop.after = call.after.freed call.world.borrowed

theorem asAtTop (call : ClosureCall κ) : call.AsAtTop where
  inStep := trace_inStep (enterAt_freed _ call.depth) (enterTrace_inStep _ call.depth)
  outcome := outcome_freed (enterAt_freed _ call.depth)
  fault := fault?_freed (enterAt_freed _ call.depth)
  after := after_freed (enterAt_freed _ call.depth)

variable {call : ClosureCall κ} {registry : Nat} {member : Member κ} {cell : Nat}
  {args : List (Value κ)} {writeBacks : List WriteBack} {heap : Heap κ}

/-- A member that is called on a live instance which nobody holds runs on this instance. -/
structure RunsOn (call : ClosureCall κ) (member : Member κ) (cell : Nat) (args : List (Value κ))
    (heap : Heap κ) : Prop where
  started : call.closure.handler.start (.object ⟨cell, member.owner⟩ :: args)
      { call.world with heap := heap } =
    some (member.body args, .onReceiver cell,
      { call.world with heap := heap.setBorrow cell .exclusive })
  apart : ¬ (Moment.entered call).Asks call.world.borrowed

theorem runs_on (thunk : call.closure.IsThunk registry member)
    (dispatch : Dispatch.ofMember member = .virtual)
    (accepted : call.accepted = .ok (.object ⟨cell, member.owner⟩ :: args, writeBacks, heap))
    (free : call.world.heap.borrowAt? cell = some .free) : call.RunsOn member cell args heap where
  started := by
    have granted : heap.borrowExclusive? cell = some (heap.setBorrow cell .exclusive) := by
      have same : heap.borrowAt? cell = some .free := by
        rw [Heap.borrowAt?, accepted_cells accepted]
        exact free
      rw [Heap.borrowExclusive?, same]
      rfl
    rw [thunk.handler, dispatch]
    simp only [Handler.start, granted]
    rfl
  apart := by
    rintro ⟨object, receiver, lies⟩
    rw [receiver?, thunk.handler, dispatch, accepted] at receiver
    cases receiver
    rw [World.borrowed_free free] at lies
    cases lies

end ClosureCall

/-- After a call of a thunk every instance is borrowed as it was before.  While its member runs on a
live instance, a nested call of a member on this instance is refused as busy whatever handle it comes
through, and a nested call on an instance that nobody holds runs there.  Every nested call goes as at
the top level up to the first moment at which an instance is asked for that was held when it began; a
call whose arguments are refused comes to no such moment. -/
theorem ClosureCall.nested_receivers {call : ClosureCall κ} {registry : Nat} {member : Member κ}
    (thunk : call.closure.IsThunk registry member)
    (reference : member.owner.semantics = .reference) :
    call.world.Balanced call.after ∧
    ∀ cell args writeBacks heap, member.isStatic = false →
      call.accepted = .ok (.object ⟨cell, member.owner⟩ :: args, writeBacks, heap) →
      ∀ (nested : ClosureCall κ) id other,
        .entered nested ∈ call.insideTrace (enterTrace call.depth) →
        nested.closure.IsThunk id other →
        nested.AsAtTop ∧
        (∀ error, nested.accepted = .error error →
          Undisturbed nested.world.borrowed (nested.trace (enterTrace nested.depth))) ∧
        ∀ values writeBacks' heap', Dispatch.ofMember other ≠ .static →
          nested.accepted = .ok (values, writeBacks', heap') →
          ∃ handle cell' rest, nested.args.head? = some (.pointer handle) ∧
            (nested.world.registry id).resolve handle = .ok ⟨cell', other.owner⟩ ∧
            values = .object ⟨cell', other.owner⟩ :: rest ∧
            (cell' = cell → nested.IsBusy other) ∧
            (nested.world.heap.borrowAt? cell' = some .free →
              other.owner.semantics = .reference → nested.RunsOn other cell' rest heap') := by
  refine ⟨call.after_balanced (enterAt_balanced call.depth), ?_⟩
  intro cell args writeBacks heap called accepted nested id other among isThunk
  refine ⟨nested.asAtTop, fun error refused => undisturbed_refused refused, ?_⟩
  intro values writeBacks' heap' receiving decoded
  have dispatch : Dispatch.ofMember member = .virtual := by
    simp [Dispatch.ofMember, called, reference]
  have held : nested.world.Held cell :=
    call.receiver_held (by rw [thunk.handler, dispatch]) accepted _ among
  obtain ⟨handle, cell', rest, sent, found, rfl⟩ := accepted_receiver isThunk receiving decoded
  refine ⟨handle, cell', rest, sent, found, rfl, ?busy, ?free⟩
  case busy =>
    rintro rfl
    exact nested.busy_receiver isThunk receiving decoded held
  case free =>
    intro free live
    refine nested.runs_on isThunk ?_ decoded free
    cases dispatched : Dispatch.ofMember other with
    | static => exact absurd dispatched receiving
    | virtual => rfl
    | copied =>
      unfold Dispatch.ofMember at dispatched
      rw [live] at dispatched
      split at dispatched <;> cases dispatched

namespace Workbench

/-- The class of the instances that nudge each other. -/
def nudgedType : ObjectType Key := ⟨.widget .testClass, .reference⟩

/-- One of the methods that the instances have, as native code sees it. -/
def nudge (method : Nat) : ForeignFunction Key :=
  ⟨World.codeAddress method, ⟨1, ⟨[.pointer], .pointer⟩⟩⟩

/-- What an instance has answered. -/
def nudged : Except MarshalError RawValue → UInt64
  | .ok (.pointer answer) => answer
  | _ => 0

/-- A method that answers one. -/
def calmMember : Member Key :=
  .ofMethod nudgedType "calm" [] .pointer fun _ _ => pure (1 : UInt64)

/-- A method that passes on what the instance behind a handle answers. -/
def askMember (handle : UInt64) : Member Key :=
  .ofMethod nudgedType "ask" [] .pointer fun _ _ => do
    let answer ← Host.callRaw (nudge 0) [.pointer handle]
    pure (nudged answer)

/-- A method that nudges the instances behind two handles, the second to ask. -/
def visitMember : Member Key :=
  .ofMethod nudgedType "visit" [] .pointer fun _ _ => do
    let _ ← Host.callRaw (nudge 0) [.pointer 4]
    let answer ← Host.callRaw (nudge 1) [.pointer 2]
    pure (nudged answer)

/-- The thunk of a method, its handles in the first registry. -/
def nudgeThunk (member : Member Key) : Closure Key :=
  ⟨⟨1, thunkSignature member⟩, member.name, thunkPlan member, some 0,
    .member (Dispatch.ofMember member) member, []⟩

/-- A process with three instances; the first is behind two handles. -/
def nudgeWorld (handle : UInt64) : World Key :=
  let started : World Key := World.initial Globals.initial
  let one := Heap.empty.newObject nudgedType Widget.default
  let two := one.2.newObject nudgedType Widget.default
  let three := two.2.newObject nudgedType Widget.default
  let first := (Registry.empty.allocate one.1).2
  let second := (first.allocate two.1).2
  let third := (second.allocate three.1).2
  { started with
    heap := three.2
    registries := #[(third.allocate one.1).2]
    code := #[.closure (nudgeThunk calmMember), .closure (nudgeThunk (askMember handle)),
      .closure (nudgeThunk visitMember)] }

/-- The first instance is called to visit the second one, which asks the one behind a handle. -/
def visitCall (handle : UInt64) : ClosureCall Key :=
  ⟨2, World.codeAddress 2, nudgeThunk visitMember, [.pointer 1], nudgeWorld handle⟩

/-- The process while the first instance visits. -/
def visitBegun (handle : UInt64) : World Key :=
  { nudgeWorld handle with heap := (nudgeWorld handle).heap.setBorrow 0 .exclusive }

/-- The visiting instance calls itself, through its other handle. -/
def calmSame (handle : UInt64) : ClosureCall Key :=
  ⟨1, World.codeAddress 0, nudgeThunk calmMember, [.pointer 4], visitBegun handle⟩

/-- The visiting instance has the second one ask. -/
def askCall (handle : UInt64) : ClosureCall Key :=
  ⟨1, World.codeAddress 1, nudgeThunk (askMember handle), [.pointer 2], (calmSame handle).after⟩

/-- The process while the second instance asks. -/
def askBegun (handle : UInt64) : World Key :=
  { (askCall handle).world with heap := (askCall handle).world.heap.setBorrow 1 .exclusive }

/-- What is left of the visit after the first call. -/
def visitRest : Code Key :=
  .callRaw (nudge 1) [.pointer 2] fun answer =>
    .marshal .pointer (nudged answer) fun value => .done (.ok value)

theorem visitCall_enters (handle : UInt64) :
    .entered (calmSame handle) ∈ (visitCall handle).insideTrace (enterTrace 2) ∧
      .entered (askCall handle) ∈ (visitCall handle).insideTrace (enterTrace 2) := by
  have accepted : (visitCall handle).accepted =
      .ok ([.object ⟨0, nudgedType⟩], [], (nudgeWorld handle).heap) := rfl
  have trace : (visitCall handle).insideTrace (enterTrace 2) =
      (visitMember.body []).trace (enterAt 2) (enterTrace 2) (.onReceiver 0)
        (visitBegun handle) := by
    rw [ClosureCall.insideTrace_started accepted]
    rfl
  have there : (visitBegun handle).codeAt? (nudge 0).address =
      some (.closure (nudgeThunk calmMember)) :=
    World.codeAt?_codeAddress rfl (by decide)
  have still : (calmSame handle).after.codeAt? (nudge 1).address =
      some (.closure (nudgeThunk (askMember handle))) :=
    World.codeAt?_codeAddress rfl (by decide)
  have enters (moment : Moment Key)
      (later : moment ∈ Code.trace (enterAt 2) (enterTrace 2)
        (.callRaw (nudge 0) [.pointer 4] fun _ => visitRest) (.onReceiver 0)
          (visitBegun handle)) :
      moment ∈ (visitCall handle).insideTrace (enterTrace 2) := by
    rw [trace]
    exact Code.mem_trace_of_rest rfl (Code.mem_trace_of_rest rfl later)
  have passed : ((nudge 0).callRaw (enterAt 2) [.pointer 4] (visitBegun handle)).2 =
      (calmSame handle).after := by
    rw [ForeignFunction.callRaw_closure there rfl 1]
    exact JournalLaw.enter_after (nudgeThunk calmMember) 1 _ _ _
  have stepped : Code.step (enterAt 2) (.callRaw (nudge 0) [.pointer 4] fun _ => visitRest)
      (.onReceiver 0) (visitBegun handle) =
        .rest visitRest (.onReceiver 0) (calmSame handle).after :=
    congrArg (Progress.rest visitRest (.onReceiver 0)) passed
  have first : Moment.entered (calmSame handle) ∈
      enterTrace 2 (nudge 0).address [.pointer 4] (visitBegun handle) := by
    rw [enterTrace_closure there]
    exact List.mem_cons_self
  have second : Moment.entered (askCall handle) ∈
      enterTrace 2 (nudge 1).address [.pointer 2] (calmSame handle).after := by
    rw [enterTrace_closure still]
    exact List.mem_cons_self
  exact ⟨enters _ (Code.mem_trace_of_nested first),
    enters _ (Code.mem_trace_of_rest stepped (Code.mem_trace_of_nested second))⟩

theorem nothing_asked {held : Nat → Bool} {values : List (Value Key)} :
    ¬ Tuple.Asks held [] values := by
  rintro ⟨key, object, among, -⟩
  cases among

/-- The second instance asks the third one: the first one, which is held, is left alone. -/
theorem askCall_undisturbed :
    Undisturbed (askCall 3).world.borrowed ((askCall 3).trace (enterTrace 1)) := by
  have there : (askBegun 3).codeAt? (nudge 0).address = some (.closure (nudgeThunk calmMember)) :=
    World.codeAt?_codeAddress rfl (by decide)
  have below : Undisturbed (askCall 3).world.borrowed
      (enterTrace 1 (nudge 0).address [.pointer 3] (askBegun 3)) := by
    rw [enterTrace_closure there]
    apply ClosureCall.undisturbed_trace
    · rintro ⟨object, receiver, lies⟩
      cases receiver
      exact absurd lies (by decide)
    · show Undisturbed _ ((calmMember.body []).trace _ _ _ _)
      refine Code.undisturbed_rest rfl id (List.forall_mem_nil _) ?_
      refine Code.undisturbed_rest rfl nothing_asked (List.forall_mem_nil _) ?_
      refine Code.undisturbed_rest rfl id (List.forall_mem_nil _) ?_
      exact Code.undisturbed_done _ _ _
  apply ClosureCall.undisturbed_trace
  · rintro ⟨object, receiver, lies⟩
    cases receiver
    exact absurd lies (by decide)
  · show Undisturbed _ (((askMember 3).body []).trace _ (enterTrace 1) _ (askBegun 3))
    refine Code.undisturbed_rest rfl id (List.forall_mem_nil _) ?_
    refine Code.undisturbed_rest rfl nothing_asked (List.forall_mem_nil _) ?_
    refine Code.undisturbed_rest rfl id below ?_
    refine Code.undisturbed_rest rfl id (List.forall_mem_nil _) ?_
    exact Code.undisturbed_done _ _ _

/-- While the first instance visits, its call of itself is refused although it comes through another
handle.  The second instance runs, and as it asks the third one only, its answer is the one that it
gives at the top level. -/
theorem visitCall_receivers :
    visitMember.owner.semantics = .reference ∧
      (visitCall 3).closure.IsThunk 0 visitMember ∧
      (visitCall 3).world.Balanced (visitCall 3).after ∧ (calmSame 3).IsBusy calmMember ∧
      (askCall 3).AsAtTop ∧
      (askCall 3).RunsOn (askMember 3) 1 [] (askCall 3).world.heap ∧
      Undisturbed (askCall 3).world.borrowed ((askCall 3).trace (enterTrace 1)) ∧
      (askCall 3).outcome = .returned (.ok (.pointer 1)) ∧
      (askCall 3).atTop.outcome = (askCall 3).outcome := by
  have thunk : (visitCall 3).closure.IsThunk 0 visitMember := ⟨rfl, rfl, rfl, rfl⟩
  obtain ⟨balanced, nested⟩ := ClosureCall.nested_receivers thunk rfl
  obtain ⟨same, other⟩ := visitCall_enters 3
  have inside := nested 0 [] [] (nudgeWorld 3).heap rfl rfl
  obtain ⟨-, -, calm⟩ := inside (calmSame 3) 0 calmMember same ⟨rfl, rfl, rfl, rfl⟩
  obtain ⟨asAtTop, -, ask⟩ := inside (askCall 3) 0 (askMember 3) other ⟨rfl, rfl, rfl, rfl⟩
  obtain ⟨_, _, _, _, _, one, busy, -⟩ :=
    calm [.object ⟨0, nudgedType⟩] [] (visitBegun 3).heap (by decide) rfl
  obtain ⟨_, _, _, _, _, two, -, runs⟩ :=
    ask [.object ⟨1, nudgedType⟩] [] (askCall 3).world.heap (by decide) rfl
  cases one
  cases two
  exact ⟨rfl, thunk, balanced, busy rfl, asAtTop, runs rfl rfl, askCall_undisturbed, rfl,
    asAtTop.outcome askCall_undisturbed⟩

/-- A nested call on an instance that nobody holds need not come to what it comes to at the top level:
the second instance asks the first one, which is held because it visits, and gets no answer.  At the
top level it gets one. -/
theorem askCall_parted :
    visitMember.owner.semantics = .reference ∧
      (visitCall 1).closure.IsThunk 0 visitMember ∧
      (visitCall 1).accepted = .ok ([.object ⟨0, nudgedType⟩], [], (nudgeWorld 1).heap) ∧
      .entered (askCall 1) ∈ (visitCall 1).insideTrace (enterTrace 2) ∧
      (askCall 1).closure.IsThunk 0 (askMember 1) ∧
      (askCall 1).accepted =
        .ok ([.object ⟨1, nudgedType⟩], [], (askCall 1).world.heap) ∧
      (askCall 1).world.heap.borrowAt? 1 = some .free ∧
      (askCall 1).outcome = .returned (.ok (.pointer 0)) ∧
      (askCall 1).atTop.outcome = .returned (.ok (.pointer 1)) :=
  ⟨rfl, ⟨rfl, rfl, rfl, rfl⟩, rfl, (visitCall_enters 1).2, ⟨rfl, rfl, rfl, rfl⟩, rfl, rfl, rfl, rfl⟩

end Workbench

end NativeBridge
