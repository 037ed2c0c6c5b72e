/-
Module: NativeBridge.Proofs.HeldInstances
Purpose: An instance stays held while its member runs, and a call of a member on a held instance
  fails before the member runs.
Main exports: World.Held, Frame.Avoids, Code.step_held, Code.trace_held, enterTrace_held,
  ClosureCall.insideTrace_held, ClosureCall.IsBusy, ClosureCall.busy_receiver
-/
import NativeBridge.Proofs.BorrowBalance
import NativeBridge.Proofs.Moments
import NativeBridge.Proofs.StoredValueRuns

namespace NativeBridge

variable {κ : Type} [HostProgram κ]

/-!
A call of a member takes an exclusive borrow of its receiver.  No request of host code can take this
borrow away: code gives up only what it was granted, and it is granted nothing on an instance that
somebody writes to.  So the instance is held at every moment of the member's run, also while other
host code runs below it.
-/

/-- Somebody writes to the instance in a cell. -/
def World.Held (world : World κ) (cell : Nat) : Prop :=
  world.heap.borrowAt? cell = some .exclusive

/-- Host code holds no borrow of an instance. -/
def Frame.Avoids (frame : Frame) (cell : Nat) : Prop :=
  ∀ guard ∈ frame.guards, guard.cell ≠ cell

namespace Frame.Avoids

variable {frame frame' : Frame} {heap heap' : Heap κ} {cell : Nat}

theorem onReceiver (receiver cell : Nat) : (Frame.onReceiver receiver).Avoids cell :=
  List.forall_mem_nil _

theorem bare (cell : Nat) : Frame.bare.Avoids cell := List.forall_mem_nil _

/-- Giving up all borrows leaves an instance as it is that none of them is of. -/
theorem freed (avoids : frame.Avoids cell) (borrow : Borrow) : frame.freed cell borrow = borrow := by
  have none : frame.guards.filter (fun guard => guard.cell == cell) = [] :=
    List.filter_eq_nil_iff.mpr fun guard among => by simpa using avoids guard among
  rw [Frame.freed_filter, none]
  rfl

/-- Nothing is granted on an instance that somebody writes to. -/
theorem borrow (avoids : frame.Avoids cell) (held : heap.borrowAt? cell = some .exclusive)
    {wanted : Nat} {exclusive : Bool}
    (granted : frame.borrow wanted exclusive heap = some (frame', heap')) : frame'.Avoids cell := by
  obtain ⟨one, borrow, found, taken, rfl, rfl⟩ := Frame.borrow_some granted
  intro guard among
  rcases List.mem_cons.mp among with rfl | among
  · rintro rfl
    dsimp only at held
    rw [Heap.borrowAt?_of_cell found, Option.some.injEq] at held
    rw [held] at taken
    cases exclusive with
    | true => cases taken.1
    | false => cases taken
  · exact avoids guard among

theorem endBorrow (avoids : frame.Avoids cell) (given : Nat) (heap : Heap κ) :
    (frame.endBorrow given heap).1.Avoids cell := by
  unfold Frame.endBorrow
  split
  next => exact fun guard among => avoids guard (List.mem_of_mem_erase among)
  next => exact avoids

end Frame.Avoids

namespace World.Held

variable {world world' : World κ} {cell : Nat}

theorem balanced (held : world.Held cell) (balanced : world.Balanced world') :
    world'.Held cell := by
  obtain ⟨one, there, borrow⟩ := Option.map_eq_some_iff.mp held
  obtain ⟨other, moved, -, same⟩ := balanced cell one there
  rw [Held, Heap.borrowAt?_of_cell moved, same, borrow]

/-- An instance stays held while code works that holds nothing of it. -/
theorem balances (held : world.Held cell) {frame frame' : Frame} (before : frame.Avoids cell)
    (after : frame'.Avoids cell) (balances : frame.Balances world.heap frame' world'.heap) :
    world'.Held cell := by
  obtain ⟨one, there, borrow⟩ := Option.map_eq_some_iff.mp held
  obtain ⟨other, moved, -, same⟩ := balances cell one there
  rw [after.freed, before.freed] at same
  rw [Held, Heap.borrowAt?_of_cell moved, same, borrow]

end World.Held

/-! ### Runs under a held instance -/

section

variable {enter : Entry κ} {code rest : Code κ} {frame frame' : Frame} {world world' : World κ}
  {cell : Nat}

theorem Code.Effect.avoids (effect : Code.Effect enter frame world code frame' world')
    (held : world.Held cell) (avoids : frame.Avoids cell) : frame'.Avoids cell := by
  cases effect with
  | borrows next granted => exact avoids.borrow held granted
  | returns object next => exact avoids.endBorrow object.cell world.heap
  | _ => exact avoids

/-- No request takes the borrow of an instance that other code holds. -/
theorem Code.step_held (balanced : enter.Balanced)
    (stepped : code.step enter frame world = .rest rest frame' world') (held : world.Held cell)
    (avoids : frame.Avoids cell) : world'.Held cell ∧ frame'.Avoids cell := by
  have effect := Code.step_effect stepped
  have after := effect.avoids held avoids
  exact ⟨held.balances avoids after (effect.balances balanced), after⟩

/-- A trace that finds an instance held at each moment if it is held at the start. -/
def EntryTrace.KeepsHeld (inner : EntryTrace κ) (cell : Nat) : Prop :=
  ∀ address raws (world : World κ), world.Held cell →
    ∀ moment ∈ inner address raws world, moment.world.Held cell

variable {inner : EntryTrace κ}

theorem ForeignFunction.rawTrace_held (kept : inner.KeepsHeld cell) (function : ForeignFunction κ)
    (args : List RawValue) (held : world.Held cell) :
    ∀ moment ∈ function.rawTrace inner args world, moment.world.Held cell := by
  unfold ForeignFunction.rawTrace
  dsimp only
  split
  · exact kept _ _ world held
  · exact List.forall_mem_nil _

theorem Code.nested_held (kept : inner.KeepsHeld cell) (code : Code κ) (held : world.Held cell) :
    ∀ moment ∈ code.nested inner world, moment.world.Held cell := by
  cases code with
  | call function args next =>
    simp only [Code.nested, ForeignFunction.trace]
    split
    · exact function.rawTrace_held kept _ held
    · exact List.forall_mem_nil _
    · exact List.forall_mem_nil _
  | callRaw function args next => exact function.rawTrace_held kept args held
  | _ => exact List.forall_mem_nil _

/-- Host code that holds nothing of an instance finds it held at each moment of its run. -/
theorem Code.trace_held (balanced : enter.Balanced) (kept : inner.KeepsHeld cell) (code : Code κ)
    (frame : Frame) (world : World κ) (held : world.Held cell) (avoids : frame.Avoids cell) :
    ∀ moment ∈ code.trace enter inner frame world, moment.world.Held cell := by
  induction code using Code.follows_wellFounded.induction generalizing frame world with
  | _ code ih =>
    cases stepped : code.step enter frame world with
    | ended outcome left =>
      rw [Code.trace_ended stepped, List.forall_mem_cons]
      exact ⟨held, code.nested_held kept held⟩
    | rest rest frame' world' =>
      obtain ⟨heldAfter, avoidsAfter⟩ := Code.step_held balanced stepped held avoids
      rw [Code.trace_rest stepped, List.forall_mem_cons, List.forall_mem_append]
      exact ⟨held, code.nested_held kept held,
        ih rest ⟨_, _, _, _, _, stepped⟩ frame' world' heldAfter avoidsAfter⟩

/-- What a handler starts holds nothing yet. -/
theorem Handler.start_avoids {handler : Handler κ} {args : List (Value κ)}
    (started : handler.start args world = some (code, frame, world')) (cell : Nat) :
    frame.Avoids cell := by
  unfold Handler.start at started
  split at started
  · cases started
    exact .bare cell
  · cases started
    exact .bare cell
  · obtain ⟨heap, -, same⟩ := Option.map_eq_some_iff.mp started
    cases same
    exact .onReceiver _ cell
  · split at started
    · cases started
      exact .onReceiver _ cell
    · cases started
  · cases started

/-- A handler takes no borrow away where it starts its host code. -/
theorem Handler.start_held {handler : Handler κ} {args : List (Value κ)}
    (started : handler.start args world = some (code, frame, world')) (held : world.Held cell) :
    world'.Held cell := by
  unfold Handler.start at started
  split at started
  · cases started
    exact held
  · cases started
    exact held
  · obtain ⟨heap, granted, same⟩ := Option.map_eq_some_iff.mp started
    cases same
    obtain ⟨one, found, free, rfl⟩ := Heap.borrowExclusive?_cell granted
    obtain ⟨other, there, borrow⟩ := Option.map_eq_some_iff.mp held
    rw [World.Held, Heap.borrowAt?_of_cell (Heap.setBorrow_cell there _ _), apply_ite Cell.borrow,
      borrow, ite_self]
  · split at started
    · next copied =>
      cases started
      obtain ⟨-, -, state, -, -, -, -, rfl⟩ := Heap.copyOut_ok copied
      obtain ⟨other, there, borrow⟩ := Option.map_eq_some_iff.mp held
      rw [World.Held, Heap.borrowAt?_of_cell (Heap.allocate_cell there _ state), borrow]
    · cases started
  · cases started

end

namespace ClosureCall

variable {call : ClosureCall κ} {cell : Nat} {inner : EntryTrace κ}

/-- The moments inside a call whose arguments decode are those of the host code that is started. -/
theorem insideTrace_started {args : List (Value κ)} {writeBacks : List WriteBack} {heap : Heap κ}
    (accepted : call.accepted = .ok (args, writeBacks, heap)) (inner : EntryTrace κ) :
    call.insideTrace inner =
      match call.closure.handler.start args { call.world with heap := heap } with
      | some (code, frame, world) => code.trace (enterAt call.depth) inner frame world
      | none => [] := by
  rw [insideTrace, accepted]
  rfl

theorem insideTrace_held (kept : inner.KeepsHeld cell) (held : call.world.Held cell) :
    ∀ moment ∈ call.insideTrace inner, moment.world.Held cell := by
  cases accepted : call.accepted with
  | error error =>
    rw [insideTrace, accepted]
    exact List.forall_mem_nil _
  | ok decoded =>
    rcases decoded with ⟨args, writeBacks, heap⟩
    have begun : ({ call.world with heap := heap } : World κ).Held cell :=
      held.balanced (.of_cells (accepted_cells accepted))
    rw [insideTrace_started accepted]
    cases started : call.closure.handler.start args { call.world with heap := heap } with
    | none => exact List.forall_mem_nil _
    | some start =>
      rcases start with ⟨code, frame, world⟩
      exact code.trace_held (enterAt_balanced call.depth) kept frame world
        (Handler.start_held started begun) (Handler.start_avoids started cell)

theorem trace_held (kept : inner.KeepsHeld cell) (held : call.world.Held cell) :
    ∀ moment ∈ call.trace inner, moment.world.Held cell := by
  intro moment among
  rcases List.mem_cons.mp among with rfl | among
  · exact held
  rcases List.mem_append.mp among with inside | ending
  · exact call.insideTrace_held kept held moment inside
  have balanced : (enterAt (κ := κ) call.depth).Balanced := enterAt_balanced call.depth
  rcases List.mem_pair.mp ending with rfl | rfl
  · exact held.balanced (call.left_balanced balanced)
  · exact held.balanced (call.after_balanced balanced)

end ClosureCall

/-- An instance that is held when native code is entered is held until it comes back. -/
theorem enterTrace_held (depth cell : Nat) :
    (enterTrace depth : EntryTrace κ).KeepsHeld cell := by
  induction depth with
  | zero => exact fun _ _ _ _ => List.forall_mem_nil _
  | succ depth ih =>
    intro address raws world held
    cases found : world.codeAt? address with
    | none =>
      rw [enterTrace, found]
      exact List.forall_mem_nil _
    | some code =>
      cases code with
      | foreign parameters run =>
        rw [enterTrace, found]
        exact List.forall_mem_nil _
      | closure closure =>
        rw [enterTrace_closure found]
        exact ClosureCall.trace_held ih held

namespace ClosureCall

variable {call : ClosureCall κ} {registry : Nat} {member : Member κ} {cell : Nat}
  {args : List (Value κ)} {writeBacks : List WriteBack} {heap : Heap κ}

/-- While a member runs on a live instance the instance is held, however deep the calls nest below
the member. -/
theorem receiver_held (handler : call.closure.handler = .member .virtual member)
    (accepted : call.accepted = .ok (.object ⟨cell, member.owner⟩ :: args, writeBacks, heap)) :
    ∀ moment ∈ call.insideTrace (enterTrace call.depth), moment.world.Held cell := by
  rw [insideTrace_started accepted, handler]
  simp only [Handler.start]
  cases granted : heap.borrowExclusive? cell with
  | none => exact List.forall_mem_nil _
  | some taken =>
    obtain ⟨one, found, free, rfl⟩ := Heap.borrowExclusive?_cell granted
    have held : ({ call.world with heap := heap.setBorrow cell .exclusive } : World κ).Held cell := by
      rw [World.Held, Heap.borrowAt?_of_cell (Heap.setBorrow_cell found cell .exclusive),
        if_pos rfl]
    exact (member.body args).trace_held (enterAt_balanced call.depth)
      (enterTrace_held call.depth cell) _ _ held (.onReceiver cell cell)

/-! ### Calls on a held instance -/

/-- A call whose receiver somebody holds: it fails for that alone, its member is not run, and all
instances and handles are what they were. -/
structure IsBusy (call : ClosureCall κ) (member : Member κ) : Prop where
  notRun : call.insideTrace (enterTrace call.depth) = []
  outcome : call.outcome = .returned (.error (HandleError.receiverBusy member.owner.name))
  fault : call.fault? = some (.handle (.receiverBusy member.owner.name))
  cells : call.after.heap.cells = call.world.heap.cells
  registries : call.after.registries = call.world.registries

end ClosureCall

/-- There is no copy of an instance that somebody writes to. -/
theorem Heap.copyOut_held {heap : Heap κ} {cell : Nat} {type : ObjectType κ}
    (value : type.semantics = .value) (held : heap.borrowAt? cell = some .exclusive) :
    heap.copyOut ⟨cell, type⟩ = .error (HandleError.receiverBusy type.name) := by
  obtain ⟨one, there, borrow⟩ := Option.map_eq_some_iff.mp held
  simp [copyOut, value, readObject, there, borrow, Borrow.share?, busy]

theorem Heap.borrowExclusive?_held {heap : Heap κ} {cell : Nat}
    (held : heap.borrowAt? cell = some .exclusive) : heap.borrowExclusive? cell = none := by
  rw [borrowExclusive?, held]
  rfl

/-- Where the member of a thunk wants its receiver and somebody writes to it, no host code runs. -/
theorem Handler.busy {member : Member κ} (receiving : Dispatch.ofMember member ≠ .static)
    {cell : Nat} {world : World κ} (held : world.Held cell) (args : List (Value κ))
    (enter : Entry κ) :
    (Handler.member (Dispatch.ofMember member) member).start (.object ⟨cell, member.owner⟩ :: args)
        world = none ∧
      (Handler.member (Dispatch.ofMember member) member).run enter
        (.object ⟨cell, member.owner⟩ :: args) world =
          (.returned (.error (HandleError.receiverBusy member.owner.name)), world) := by
  cases dispatch : Dispatch.ofMember member with
  | static => exact absurd dispatch receiving
  | virtual =>
    simp [start, run, runOnReceiver, runVirtual, Heap.borrowExclusive?_held held, Heap.busy]
  | copied =>
    have value : member.owner.semantics = .value := by
      unfold Dispatch.ofMember at dispatch
      split at dispatch
      · cases dispatch
      · split at dispatch
        · cases dispatch
        · assumption
    simp [start, run, runOnReceiver, runCopied, Heap.copyOut_held value held]

namespace ClosureCall

variable {call : ClosureCall κ} {registry : Nat} {member : Member κ} {cell : Nat}
  {args : List (Value κ)} {writeBacks : List WriteBack} {heap : Heap κ}

/-- A call is busy where its arguments are decoded, but its member is not started. -/
theorem busy_of_unstarted {values : List (Value κ)}
    (accepted : call.accepted = .ok (values, writeBacks, heap))
    (notStarted : call.closure.handler.start values { call.world with heap := heap } = none)
    (ran : call.closure.handler.run (enterAt call.depth) values { call.world with heap := heap } =
      (.returned (.error (HandleError.receiverBusy member.owner.name)),
        { call.world with heap := heap })) : call.IsBusy member := by
  have dispatched : call.dispatched =
      (.returned (.error (HandleError.receiverBusy member.owner.name)),
        applyWriteBacks writeBacks { call.world with heap := heap }) := by
    rw [dispatched_eq, accepted]
    dsimp only
    rw [ran]
    rfl
  have outcome :
      call.outcome = .returned (.error (HandleError.receiverBusy member.owner.name)) := by
    rw [ClosureCall.outcome, dispatched]
  have fault : call.fault? = some (.handle (.receiverBusy member.owner.name)) := by
    rw [fault?, outcome]
  refine ⟨?notRun, outcome, fault, ?cells, ?registries⟩
  case notRun => rw [insideTrace_started accepted, notStarted]
  case cells =>
    rw [after, fault, dispatched]
    exact accepted_cells accepted
  case registries => rw [after, fault, dispatched]; rfl

/-- A call of a thunk whose receiver is an instance that somebody writes to is busy, whatever handle
names the instance. -/
theorem busy_receiver (thunk : call.closure.IsThunk registry member)
    (receiving : Dispatch.ofMember member ≠ .static)
    (accepted : call.accepted = .ok (.object ⟨cell, member.owner⟩ :: args, writeBacks, heap))
    (held : call.world.Held cell) : call.IsBusy member := by
  have begun : ({ call.world with heap := heap } : World κ).Held cell :=
    held.balanced (.of_cells (accepted_cells accepted))
  obtain ⟨notStarted, ran⟩ := Handler.busy receiving begun args (enterAt call.depth)
  rw [← thunk.handler] at notStarted ran
  exact busy_of_unstarted accepted notStarted ran

end ClosureCall

end NativeBridge
