/-
Module: NativeBridge.Proofs.UndisturbedRuns
Purpose: Whether somebody holds an instance makes no difference to a run that never asks for it, and
  to any other run up to the moment at which it does.
Main exports: Moment.Asks, Undisturbed, Code.run_freed, ClosureCall.dispatched_freed,
  ClosureCall.after_freed, enterAt_freed, InStep, Code.trace_inStep, enterTrace_inStep
-/
import NativeBridge.Proofs.FreedBorrows
import NativeBridge.Proofs.Moments

namespace NativeBridge

variable {κ : Type} [HostProgram κ]

/-!
Host code learns who holds an instance in three ways only: it tries to borrow the instance, it reads
an object of a value class that is the instance, or native code calls a member on it.  A run that
does none of these for the instances in some cells goes the same way when the borrows of these cells
are given up before it, and leaves the same process but for these borrows.
-/

section

variable {held : Nat → Bool}

/-! ### Calls -/

/-- A result with the process it leaves, in which the instances of some cells are free. -/
def freedAfter {α : Type} (held : Nat → Bool) (ended : α × World κ) : α × World κ :=
  (ended.1, ended.2.freed held)

/-- The instance that a call of a member is on. -/
def ClosureCall.receiver? (call : ClosureCall κ) : Option (HostObject κ) :=
  match call.closure.handler, call.accepted with
  | .member .virtual _, .ok (.object object :: _, _, _) => some object
  | .member .copied _, .ok (.object object :: _, _, _) => some object
  | _, _ => none

/-- At a moment of a run something is asked for that depends on who holds the instances in some
cells. -/
def Moment.Asks (held : Nat → Bool) : Moment κ → Prop
  | .working (.borrow object _ _) _ _ => held object.cell = true
  | .working (.unmarshal types values _) _ _ => Tuple.Asks held types values
  | .entered call => ∃ object, call.receiver? = some object ∧ held object.cell = true
  | _ => False

/-- A run that asks for none of the instances in some cells. -/
def Undisturbed (held : Nat → Bool) (trace : List (Moment κ)) : Prop :=
  ∀ moment ∈ trace, ¬ moment.Asks held

theorem undisturbed_append {trace more : List (Moment κ)} :
    Undisturbed held (trace ++ more) ↔ Undisturbed held trace ∧ Undisturbed held more :=
  List.forall_mem_append

theorem undisturbed_cons {moment : Moment κ} {trace : List (Moment κ)} :
    Undisturbed held (moment :: trace) ↔ ¬ moment.Asks held ∧ Undisturbed held trace :=
  List.forall_mem_cons

/-- A run asks for nothing if its first request does not, with what happens within it, and what is
left of it does not. -/
theorem Code.undisturbed_rest {enter : Entry κ} {inner : EntryTrace κ} {code rest : Code κ}
    {frame frame' : Frame} {world world' : World κ}
    (stepped : code.step enter frame world = .rest rest frame' world')
    (asks : ¬ (Moment.working code frame world).Asks held)
    (below : Undisturbed held (code.nested inner world))
    (later : Undisturbed held (rest.trace enter inner frame' world')) :
    Undisturbed held (code.trace enter inner frame world) := by
  rw [Code.trace_rest stepped, undisturbed_cons, undisturbed_append]
  exact ⟨asks, below, later⟩

theorem Code.undisturbed_done {enter : Entry κ} {inner : EntryTrace κ}
    (result : Except Error (Value κ)) (frame : Frame) (world : World κ) :
    Undisturbed held ((Code.done result).trace enter inner frame world) := by
  rw [Code.trace_ended rfl]
  exact List.forall_mem_singleton.mpr id

namespace ClosureCall

variable {call : ClosureCall κ} {inner : EntryTrace κ}

theorem undisturbed_trace (asks : ¬ (Moment.entered call).Asks held)
    (inside : Undisturbed held (call.insideTrace inner)) :
    Undisturbed held (call.trace inner) := by
  rw [trace, undisturbed_cons, undisturbed_append, undisturbed_cons]
  exact ⟨asks, inside, id, List.forall_mem_singleton.mpr id⟩

/-- A call whose arguments are refused asks for nothing. -/
theorem undisturbed_refused {error : Error} (refused : call.accepted = .error error) :
    Undisturbed held (call.trace inner) := by
  apply undisturbed_trace
  · rintro ⟨object, receiver, -⟩
    rw [receiver?, refused] at receiver
    split at receiver
    · next same => cases same
    · next same => cases same
    · cases receiver
  · rw [insideTrace, refused]
    exact List.forall_mem_nil _

end ClosureCall

/-- A way of calling native addresses that does the same when the instances of some cells are free,
where its trace does not ask for them. -/
def EntryFrees (held : Nat → Bool) (enter : Entry κ) (inner : EntryTrace κ) : Prop :=
  ∀ address result raws world, Undisturbed held (inner address raws world) →
    enter address result raws (world.freed held) =
      freedAfter held (enter address result raws world)

variable {enter : Entry κ} {inner : EntryTrace κ} {world : World κ}

theorem ForeignFunction.callRaw_freed (entry : EntryFrees held enter inner)
    (function : ForeignFunction κ) (args : List RawValue)
    (quiet : Undisturbed held (function.rawTrace inner args world)) :
    function.callRaw enter args (world.freed held) =
      freedAfter held (function.callRaw enter args world) := by
  simp only [ForeignFunction.rawTrace, ForeignFunction.callRaw] at quiet ⊢
  by_cases arity : args.length = function.type.signature.parameters.length
  · cases fault : ForeignFunction.rawFault function.type.signature.parameters args with
    | some error =>
      simp only [arity, if_true]
      rfl
    | none =>
      simp only [arity, fault, and_self, if_true] at quiet ⊢
      rw [entry _ function.type.signature.result.abi _ _ quiet]
      rfl
  · simp only [arity, if_false]
    rfl

theorem ForeignFunction.callEncoded_freed (entry : EntryFrees held enter inner)
    (function : ForeignFunction κ) (raws : List RawValue) (lent : List LentBuffer)
    (quiet : Undisturbed held (function.rawTrace inner raws { world with pending := none })) :
    function.callEncoded enter raws lent (world.freed held) =
      freedAfter held (function.callEncoded enter raws lent world) := by
  have called := ForeignFunction.callRaw_freed entry function raws quiet
  have started : ({ world.freed held with pending := none } : World κ) =
      World.freed held { world with pending := none } := rfl
  simp only [ForeignFunction.callEncoded, World.isolate, World.takeFault, started, called]
  generalize function.callRaw enter raws { world with pending := none } = ran
  rcases ran with ⟨result, left⟩
  simp only [freedAfter, World.freed, readBack_freed]
  cases left.pending with
  | some fault => rfl
  | none =>
    cases result with
    | error error => rfl
    | ok raw =>
      dsimp only
      rw [decodeReturn_freed]
      cases decodeReturn left.memory raw function.type.signature.result
        (readBack left.memory lent left.heap) <;> rfl

theorem ForeignFunction.encoded_freed (function : ForeignFunction κ) (args : List (Value κ))
    (world : World κ) : function.encoded args (world.freed held) = function.encoded args world := by
  unfold ForeignFunction.encoded
  dsimp only [World.freed]
  rw [encodeAll_freed]

theorem ForeignFunction.call_freed (entry : EntryFrees held enter inner)
    (function : ForeignFunction κ) (args : List (Value κ))
    (quiet : Undisturbed held (function.trace inner args world)) :
    function.call enter args (world.freed held) =
      freedAfter held (function.call enter args world) := by
  rw [ForeignFunction.call_eq_encoded, ForeignFunction.call_eq_encoded,
    ForeignFunction.encoded_freed]
  rw [ForeignFunction.trace] at quiet
  cases encoded : function.encoded args world with
  | panicked message => rfl
  | returned result =>
    cases result with
    | error error => rfl
    | ok result =>
      rcases result with ⟨raws, lent, memory⟩
      rw [encoded] at quiet
      have called : function.callEncoded enter raws lent
          (World.freed held { world with memory := memory }) =
            freedAfter held (function.callEncoded enter raws lent { world with memory := memory }) :=
        ForeignFunction.callEncoded_freed entry function raws lent quiet
      dsimp only
      exact congrArg (fun ended => (Outcome.returned ended.1, ended.2)) called

/-! ### Host code -/

/-- Where host code is, when the instances of some cells are free. -/
def Progress.freed (held : Nat → Bool) : Progress κ → Progress κ
  | .ended outcome world => .ended outcome (world.freed held)
  | .rest code frame world => .rest code frame (world.freed held)

theorem noteReturned_freed (world : World κ) (address text : UInt64) :
    (world.freed held).noteReturned address text =
      (world.noteReturned address text).freed held := by
  unfold World.noteReturned
  cases World.codeIndex? address <;> rfl

theorem releaseHandle_freed (world : World κ) (registry : Nat) (handle : UInt64) :
    (world.freed held).releaseHandle registry handle =
      freedAfter held (world.releaseHandle registry handle) := by
  have same : (world.freed held).registry registry = world.registry registry := rfl
  unfold World.releaseHandle
  rw [same]
  cases (world.registry registry).release handle <;> rfl

/-- One request that does not ask for an instance in one of the cells is answered alike. -/
theorem Code.step_freed (entry : EntryFrees held enter inner) (code : Code κ) (frame : Frame)
    (world : World κ) (asks : ¬ (Moment.working code frame world).Asks held)
    (quiet : Undisturbed held (code.nested inner world)) :
    code.step enter frame (world.freed held) = (code.step enter frame world).freed held := by
  cases code with
  | call function args next =>
    simp only [Code.step, ForeignFunction.call_freed entry function args quiet]
    rcases function.call enter args world with ⟨outcome, left⟩
    cases outcome with
    | panicked message =>
      simp only [freedAfter, Progress.freed, World.freed, frame.dropGuards_freed]
    | returned result => rfl
  | callRaw function args next =>
    simp only [Code.step, ForeignFunction.callRaw_freed entry function args quiet]
    rfl
  | borrow object exclusive next =>
    have apart : held object.cell = false := Bool.eq_false_iff.mpr asks
    simp only [Code.step, World.freed, frame.borrow_freed world.heap apart]
    cases frame.borrow object.cell exclusive world.heap <;> rfl
  | unmarshal types values next =>
    simp only [Code.step, World.freed, Tuple.fromValues_freed asks]
    rfl
  | endBorrow object next =>
    simp only [Code.step, World.freed, frame.endBorrow_freed]
    rfl
  | newObject type state next =>
    simp only [Code.step, World.freed, Heap.freed_newObject]
    rfl
  | marshal type carried next =>
    simp only [Code.step, World.freed, MarshalType.intoValue_freed]
    rfl
  | readObject object key next =>
    simp only [Code.step, World.freed, Heap.freed_stateAt?]
    rfl
  | writeObject object key state next =>
    simp only [Code.step, World.freed, ← Heap.freed_setState]
    split <;> rfl
  | readReceiver key next =>
    have read : (world.freed held).heap.stateAt? key = world.heap.stateAt? key :=
      funext (world.heap.freed_stateAt? key)
    simp only [Code.step, read]
    rfl
  | writeReceiver key state next =>
    simp only [Code.step, World.freed, ← Heap.freed_setState]
    split <;> rfl
  | releaseHandle registry handle next =>
    simp only [Code.step, releaseHandle_freed]
    rfl
  | done result | panic message =>
    simp only [Code.step, Progress.freed, World.freed, frame.dropGuards_freed]
  | _ => rfl

/-- A run of host code that asks for none of the instances in some cells goes the same way when they
are free. -/
theorem Code.run_freed (entry : EntryFrees held enter inner) (code : Code κ) (frame : Frame)
    (world : World κ) (quiet : Undisturbed held (code.trace enter inner frame world)) :
    code.run enter frame (world.freed held) = freedAfter held (code.run enter frame world) := by
  induction code using Code.follows_wellFounded.induction generalizing frame world with
  | _ code ih =>
    rw [Code.run_eq_step enter code frame world, Code.run_eq_step]
    cases stepped : code.step enter frame world with
    | ended outcome left =>
      rw [Code.trace_ended stepped, undisturbed_cons] at quiet
      rw [code.step_freed entry frame world quiet.1 quiet.2, stepped]
      rfl
    | rest rest frame' world' =>
      rw [Code.trace_rest stepped, undisturbed_cons, undisturbed_append] at quiet
      rcases quiet with ⟨here, below, later⟩
      rw [code.step_freed entry frame world here below, stepped]
      exact ih rest ⟨_, _, _, _, _, stepped⟩ frame' world' later

/-! ### Native code calls host code -/

/-- The host code that a handler starts, when the instances of some cells are free. -/
theorem Handler.start_freed (handler : Handler κ) (args : List (Value κ)) (world : World κ)
    (apart : ∀ dispatch member object rest, handler = .member dispatch member →
      dispatch ≠ .static → args = .object object :: rest → held object.cell = false) :
    handler.start args (world.freed held) =
      (handler.start args world).map fun (code, frame, begun) => (code, frame, begun.freed held) := by
  cases handler with
  | function body => rfl
  | member dispatch member =>
    cases dispatch with
    | static => rfl
    | virtual =>
      cases args with
      | nil => rfl
      | cons first rest =>
        cases first with
        | object object =>
          have free := apart _ _ object rest rfl (by simp) rfl
          simp only [Handler.start, World.freed, world.heap.borrowExclusive?_freed free,
            Option.map_map]
          rfl
        | _ => rfl
    | copied =>
      cases args with
      | nil => rfl
      | cons first rest =>
        cases first with
        | object object =>
          have free := apart _ _ object rest rfl (by simp) rfl
          simp only [Handler.start, World.freed, world.heap.freed_copyOut free]
          cases world.heap.copyOut object <;> rfl
        | _ => rfl

theorem Handler.run_freed (entry : EntryFrees held enter inner) (handler : Handler κ)
    (args : List (Value κ)) (world : World κ)
    (apart : ∀ dispatch member object rest, handler = .member dispatch member →
      dispatch ≠ .static → args = .object object :: rest → held object.cell = false)
    (quiet : Undisturbed held (handler.trace enter inner args world)) :
    handler.run enter args (world.freed held) = freedAfter held (handler.run enter args world) := by
  rw [Handler.trace] at quiet
  cases handler with
  | function body => exact (body args).run_freed entry .bare world quiet
  | member dispatch member =>
    cases dispatch with
    | static => exact (member.body args).run_freed entry .bare world quiet
    | virtual =>
      cases args with
      | nil => rfl
      | cons first rest =>
        cases first with
        | object object =>
          have free := apart _ _ object rest rfl (by simp) rfl
          simp only [Handler.start, Handler.run, runOnReceiver, runVirtual] at quiet ⊢
          simp only [World.freed, world.heap.borrowExclusive?_freed free]
          cases borrowed : world.heap.borrowExclusive? object.cell with
          | none => rfl
          | some heap =>
            rw [borrowed] at quiet
            have ran := (member.body rest).run_freed entry (.onReceiver object.cell)
              { world with heap := heap } quiet
            let giveBack (ended : Outcome (Value κ) × World κ) : Outcome (Value κ) × World κ :=
              (ended.1, { ended.2 with heap := ended.2.heap.endExclusive object.cell })
            have commutes (ended : Outcome (Value κ) × World κ) :
                giveBack (freedAfter held ended) = freedAfter held (giveBack ended) :=
              Prod.ext rfl (congrArg (fun heap => { ended.2 with heap := heap })
                (ended.2.heap.freed_setBorrow fun _ => rfl).symm)
            exact (congrArg giveBack ran).trans (commutes _)
        | _ => rfl
    | copied =>
      cases args with
      | nil => rfl
      | cons first rest =>
        cases first with
        | object object =>
          have free := apart _ _ object rest rfl (by simp) rfl
          simp only [Handler.start, Handler.run, runOnReceiver, runCopied] at quiet ⊢
          simp only [World.freed, world.heap.freed_copyOut free]
          cases copied : world.heap.copyOut object with
          | error error => rfl
          | ok made =>
            rcases made with ⟨cell, heap⟩
            rw [copied] at quiet
            exact (member.body rest).run_freed entry (.onReceiver cell)
              { world with heap := heap } quiet
        | _ => rfl

/-- Results are encoded alike. -/
theorem Closure.give_freed (closure : Closure κ) (address : UInt64) (value : Value κ)
    (world : World κ) :
    closure.give address value (world.freed held) =
      freedAfter held (closure.give address value world) := by
  unfold Closure.give
  cases closure.plan.result.type with
  | string =>
    cases value with
    | string text =>
      dsimp only
      cases cBytes text with
      | error error => rfl
      | ok bytes => exact Prod.ext rfl (noteReturned_freed (world.allocateCString bytes).2 _ _)
    | _ => rfl
  | stringBuffer =>
    cases value with
    | stringBuffer buffer =>
      dsimp only
      have text : (world.freed held).heap.text buffer = world.heap.text buffer := rfl
      rw [text]
      cases cBytes (world.heap.text buffer) with
      | error error => rfl
      | ok bytes => exact Prod.ext rfl (noteReturned_freed (world.allocateCString bytes).2 _ _)
    | _ => rfl
  | object type =>
    cases value with
    | object object =>
      dsimp only
      cases object.expectType type with
      | error error => rfl
      | ok fits => cases closure.registry <;> rfl
    | _ => rfl
  | _ => rfl

namespace ClosureCall

/-- The same call in the process in which the instances of some cells are free. -/
def freed (held : Nat → Bool) (call : ClosureCall κ) : ClosureCall κ :=
  { call with world := call.world.freed held }

variable {call : ClosureCall κ}

theorem accepted_freed (call : ClosureCall κ) :
    (call.freed held).accepted = call.accepted.map fun (args, writeBacks, heap) =>
      (args, writeBacks, heap.freed held) :=
  acceptAll_freed _ _ _ _ _

/-- A call that does not ask for an instance in one of the cells is on none of them. -/
theorem receiver_apart (asks : ¬ (Moment.entered call).Asks held) {args : List (Value κ)}
    {writeBacks : List WriteBack} {heap : Heap κ}
    (accepted : call.accepted = .ok (args, writeBacks, heap)) :
    ∀ dispatch member object rest, call.closure.handler = .member dispatch member →
      dispatch ≠ .static → args = .object object :: rest → held object.cell = false := by
  rintro dispatch member object rest handler receiving rfl
  refine Bool.eq_false_iff.mpr fun lies => asks ⟨object, ?_, lies⟩
  cases dispatch with
  | static => exact absurd rfl receiving
  | virtual | copied => rw [receiver?, handler, accepted]

theorem finish_freed (call : ClosureCall κ) (writeBacks : List WriteBack)
    (ended : Outcome (Value κ) × World κ) :
    call.finish writeBacks (freedAfter held ended) =
      freedAfter held (call.finish writeBacks ended) := by
  rcases ended with ⟨outcome, left⟩
  cases outcome with
  | panicked message => rfl
  | returned result =>
    cases result with
    | error error => rfl
    | ok value =>
      have written : applyWriteBacks writeBacks (left.freed held) =
          (applyWriteBacks writeBacks left).freed held := rfl
      simp only [finish, freedAfter, written, call.closure.give_freed]

theorem dispatched_freed (entry : EntryFrees held (enterAt call.depth) inner)
    (quiet : Undisturbed held (call.trace inner)) :
    (call.freed held).dispatched = freedAfter held call.dispatched := by
  rw [trace, undisturbed_cons, undisturbed_append] at quiet
  rcases quiet with ⟨asks, inside, -⟩
  rw [dispatched_eq, dispatched_eq, accepted_freed]
  rw [insideTrace] at inside
  cases accepted : call.accepted with
  | error error => rfl
  | ok decoded =>
    rcases decoded with ⟨args, writeBacks, heap⟩
    rw [accepted] at inside
    have ran := call.closure.handler.run_freed entry args { call.world with heap := heap }
      (receiver_apart asks accepted) inside
    refine Eq.trans ?_ (call.finish_freed writeBacks _)
    rw [← ran]
    rfl

theorem outcome_freed (entry : EntryFrees held (enterAt call.depth) inner)
    (quiet : Undisturbed held (call.trace inner)) : (call.freed held).outcome = call.outcome :=
  by
  rw [outcome, dispatched_freed entry quiet]
  rfl

theorem fault?_freed (entry : EntryFrees held (enterAt call.depth) inner)
    (quiet : Undisturbed held (call.trace inner)) : (call.freed held).fault? = call.fault? := by
  rw [fault?, outcome_freed entry quiet]
  rfl

theorem after_freed (entry : EntryFrees held (enterAt call.depth) inner)
    (quiet : Undisturbed held (call.trace inner)) :
    (call.freed held).after = call.after.freed held := by
  rw [after, fault?_freed entry quiet, dispatched_freed entry quiet, after]
  cases call.fault? <;> rfl

end ClosureCall

theorem Closure.enter_freed {depth : Nat} (entry : EntryFrees held (enterAt depth) inner)
    (closure : Closure κ) (address : UInt64) (raws : List RawValue)
    (quiet : Undisturbed held (ClosureCall.trace inner ⟨depth, address, closure, raws, world⟩)) :
    closure.enter (enterAt depth) address raws (world.freed held) =
      freedAfter held (closure.enter (enterAt depth) address raws world) := by
  let call : ClosureCall κ := ⟨depth, address, closure, raws, world⟩
  have dispatched : (call.freed held).dispatched = freedAfter held call.dispatched :=
    ClosureCall.dispatched_freed entry quiet
  simp only [call, ClosureCall.freed, ClosureCall.dispatched, ClosureCall.args] at dispatched
  simp only [Closure.enter, dispatched]
  generalize closure.dispatch (enterAt depth) address
    (deliver (closure.type.signature.parameters.map HostType.abi) raws) world = ended
  rcases ended with ⟨outcome, left⟩
  cases outcome with
  | panicked message => rfl
  | returned result =>
    cases result with
    | error error => rfl
    | ok raw =>
      simp only [freedAfter]
      split <;> rfl

end

/-- Native code that asks for none of the instances in some cells does the same when they are free,
however deep its calls nest. -/
theorem enterAt_freed (held : Nat → Bool) (depth : Nat) :
    EntryFrees held (enterAt depth) (enterTrace depth : EntryTrace κ) := by
  induction depth with
  | zero =>
    intro address result raws world quiet
    rfl
  | succ depth ih =>
    intro address result raws world quiet
    have same : (world.freed held).codeAt? address = world.codeAt? address := rfl
    simp only [enterAt, same]
    cases found : world.codeAt? address with
    | none => rfl
    | some code =>
      cases code with
      | foreign parameters run => rfl
      | closure closure =>
        rw [enterTrace_closure found] at quiet
        simp only [closure.enter_freed ih address raws quiet]
        rfl

/-! ### Two runs in step -/

/-- A moment in the process in which the instances of some cells are free. -/
def Moment.freed (held : Nat → Bool) : Moment κ → Moment κ
  | .working code frame world => .working code frame (world.freed held)
  | .entered call => .entered (call.freed held)
  | .left call => .left (call.freed held)
  | .answered call => .answered (call.freed held)
  | .outside given world => .outside given (world.freed held)

/-- Two runs go the same way, the second with the instances of some cells free, up to the first
moment at which one of these instances is asked for. -/
inductive InStep (held : Nat → Bool) : List (Moment κ) → List (Moment κ) → Prop
  | ended : InStep held [] []
  | along {moment : Moment κ} {rest rest' : List (Moment κ)} (quiet : ¬ moment.Asks held)
      (later : InStep held rest rest') : InStep held (moment :: rest) (moment.freed held :: rest')
  | parted {moment : Moment κ} (asks : moment.Asks held) (rest rest' : List (Moment κ)) :
      InStep held (moment :: rest) (moment.freed held :: rest')

namespace InStep

variable {held : Nat → Bool} {trace trace' more more' : List (Moment κ)}

theorem cons (moment : Moment κ) (later : ¬ moment.Asks held → InStep held trace trace') :
    InStep held (moment :: trace) (moment.freed held :: trace') := by
  by_cases asks : moment.Asks held
  · exact .parted asks trace trace'
  · exact .along asks (later asks)

theorem append (front : InStep held trace trace')
    (back : Undisturbed held trace → InStep held more more') :
    InStep held (trace ++ more) (trace' ++ more') := by
  induction front with
  | ended => exact back (List.forall_mem_nil _)
  | along quiet later ih =>
    exact .along quiet (ih fun undisturbed => back (undisturbed_cons.mpr ⟨quiet, undisturbed⟩))
  | parted asks rest rest' => exact .parted asks _ _

/-- Runs in step are the same if nothing is asked for. -/
theorem same (inStep : InStep held trace trace') (quiet : Undisturbed held trace) :
    trace' = trace.map (Moment.freed held) := by
  induction inStep with
  | ended => rfl
  | along _ later ih => rw [List.map_cons, ih (undisturbed_cons.mp quiet).2]
  | parted asks rest rest' => exact absurd asks (undisturbed_cons.mp quiet).1

end InStep

section

variable {held : Nat → Bool} {enter : Entry κ} {inner : EntryTrace κ} {world : World κ}

/-- A way of calling native addresses whose traces go in step when the instances of some cells are
free. -/
def EntryTrace.GoesInStep (held : Nat → Bool) (inner : EntryTrace κ) : Prop :=
  ∀ address raws world, InStep held (inner address raws world)
    (inner address raws (world.freed held))

theorem ForeignFunction.rawTrace_inStep (kept : inner.GoesInStep held)
    (function : ForeignFunction κ) (args : List RawValue) (world : World κ) :
    InStep held (function.rawTrace inner args world)
      (function.rawTrace inner args (world.freed held)) := by
  unfold ForeignFunction.rawTrace
  dsimp only
  split
  · exact kept _ _ world
  · exact .ended

theorem Code.nested_inStep (kept : inner.GoesInStep held) (code : Code κ) (world : World κ) :
    InStep held (code.nested inner world) (code.nested inner (world.freed held)) := by
  cases code with
  | call function args next =>
    simp only [Code.nested, ForeignFunction.trace, ForeignFunction.encoded_freed]
    cases function.encoded args world with
    | panicked message => exact .ended
    | returned result =>
      cases result with
      | error error => exact .ended
      | ok sent => exact function.rawTrace_inStep kept sent.1 (ForeignFunction.nativeStart world _)
  | callRaw function args next => exact function.rawTrace_inStep kept args world
  | _ => exact .ended

/-- A run of host code goes in step with itself when the instances of some cells are free. -/
theorem Code.trace_inStep (entry : EntryFrees held enter inner) (kept : inner.GoesInStep held)
    (code : Code κ) (frame : Frame) (world : World κ) :
    InStep held (code.trace enter inner frame world)
      (code.trace enter inner frame (world.freed held)) := by
  induction code using Code.follows_wellFounded.induction generalizing frame world with
  | _ code ih =>
    rw [Code.trace_eq_step, Code.trace_eq_step]
    refine .cons (.working code frame world) fun asks => ?_
    refine (code.nested_inStep kept world).append fun quiet => ?_
    -- After an undisturbed request both runs are at the same program.
    rw [code.step_freed entry frame world asks quiet]
    cases stepped : code.step enter frame world with
    | ended outcome left => exact .ended
    | rest rest frame' world' => exact ih rest ⟨_, _, _, _, _, stepped⟩ frame' world'

end

namespace ClosureCall

variable {held : Nat → Bool} {inner : EntryTrace κ}

theorem trace_inStep {call : ClosureCall κ} (entry : EntryFrees held (enterAt call.depth) inner)
    (kept : inner.GoesInStep held) :
    InStep held (call.trace inner) ((call.freed held).trace inner) := by
  refine .cons (.entered call) fun asks => ?_
  have inside : InStep held (call.insideTrace inner) ((call.freed held).insideTrace inner) := by
    rw [insideTrace, insideTrace, accepted_freed]
    cases accepted : call.accepted with
    | error error => exact .ended
    | ok decoded =>
      rcases decoded with ⟨args, writeBacks, heap⟩
      have started := call.closure.handler.start_freed args { call.world with heap := heap }
        (receiver_apart asks accepted)
      have start : (call.freed held).closure.handler.start args
          { (call.freed held).world with heap := heap.freed held } = _ := started
      dsimp only [Except.map]
      rw [Handler.trace, Handler.trace, start]
      cases call.closure.handler.start args { call.world with heap := heap } with
      | none => exact .ended
      | some begun => exact begun.1.trace_inStep entry kept begun.2.1 begun.2.2
  refine inside.append fun _ => ?_
  exact .cons (.left call) fun _ => .cons (.answered call) fun _ => .ended

end ClosureCall

/-- Native code goes in step with itself when the instances of some cells are free, however deep its
calls nest. -/
theorem enterTrace_inStep (held : Nat → Bool) (depth : Nat) :
    (enterTrace depth : EntryTrace κ).GoesInStep held := by
  induction depth with
  | zero => exact fun _ _ _ => .ended
  | succ depth ih =>
    intro address raws world
    have same : (world.freed held).codeAt? address = world.codeAt? address := rfl
    simp only [enterTrace, same]
    cases world.codeAt? address with
    | none => exact .ended
    | some code =>
      cases code with
      | foreign parameters run => exact .ended
      | closure closure => exact ClosureCall.trace_inStep (enterAt_freed held depth) ih

end NativeBridge
