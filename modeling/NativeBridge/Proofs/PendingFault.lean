/-
Module: NativeBridge.Proofs.PendingFault
Purpose: Every native call collects the first fault of its own level and leaves the pending fault of
  its caller alone.
Main exports: Parks, parks_law, ForeignFunction.decoded, ForeignFunction.call_collects_firstFault
-/
import NativeBridge.Proofs.JournalLaw

namespace NativeBridge

variable {κ : Type} [HostProgram κ]

/-!
The slot for the pending fault is one for the whole process, and every level of a tree of nested
calls works on it.  After any run it holds what it held before, else the first fault that the
journal has at the level of the run: a call with raw values adds its faults to that level, and a
call with host values shifts them one level down, out of sight of its caller.
-/

namespace Event

@[simp]
theorem faults_nil : faults ([] : List (Event κ)) = [] := rfl

@[simp]
theorem faults_append (events more : List (Event κ)) :
    faults (events ++ more) = faults events ++ faults more :=
  List.filterMap_append

/-- A collecting call has no fault at the level of its caller. -/
@[simp]
theorem faults_deeper (events : List (Event κ)) : faults (events.map deeper) = [] := by
  simp only [faults, List.filterMap_map, List.filterMap_eq_nil_iff]
  intro event _
  cases event <;> rfl

end Event

/-- At the end of a call there is at most the fault of that call. -/
theorem ClosureCall.faults_closing (call : ClosureCall κ) :
    Event.faults call.closing = call.fault?.toList := by
  have alone (event : Event κ) (more : List (Event κ)) (none : event.fault? = none) :
      Event.faults (event :: more) = Event.faults more := by
    simp [Event.faults, none]
  rw [closing, List.cons_append, List.cons_append, alone _ _ rfl, Event.faults_append,
    Event.faults_append]
  cases call.handle? <;> cases call.fault? <;> rfl

/-- A run keeps the pending fault, or parks the first fault raised at its level. -/
def Parks (before : World κ) (events : List (Event κ)) (after : World κ) : Prop :=
  after.pending = before.pending.or (Event.faults events).head?

namespace Parks

/-- A run without faults at its level keeps the pending fault. -/
theorem keeps {before after : World κ} {events : List (Event κ)} (none : Event.faults events = [])
    (same : after.pending = before.pending) : Parks before events after := by
  simp [Parks, none, same]

/-- A fault that is pending stays so. -/
theorem stays {before after : World κ} {events : List (Event κ)} {fault : Error}
    (parks : Parks before events after) (pending : before.pending = some fault) :
    after.pending = some fault := by
  rw [parks, pending]
  rfl

end Parks

/-- The first fault at the level of a run is the one that is parked, however calls nest. -/
theorem parks_law : JournalLaw (Parks : World κ → List (Event κ) → World κ → Prop) where
  quiet quiet := .keeps rfl quiet.pending
  append := by
    intro first middle last events more one two
    have parted : (Event.faults events ++ Event.faults more).head? =
        (Event.faults events).head?.or (Event.faults more).head? := List.head?_append
    rw [Parks, Event.faults_append, parted, ← Option.or_assoc, ← one]
    exact two
  collected := by
    intro before after events _
    exact .keeps (Event.faults_deeper events) rfl
  issued world registry object := .keeps rfl rfl
  released world registry handle live := by
    have same : (world.releaseHandle registry handle).2.pending = world.pending := by
      simp [World.releaseHandle, Registry.release, live, World.setRegistry]
    exact .keeps rfl same
  lookedUp world registry handle := .keeps rfl rfl
  exceeded world := rfl
  entered call := .keeps rfl rfl
  closing call := by
    have kept : call.dispatched.2.pending = call.left.pending := by
      have effect := call.dispatched_effect
      split at effect
      · exact effect.2.2.pending
      · exact effect.pending
    rw [Parks, call.faults_closing, ClosureCall.after]
    cases fault : call.fault? with
    | none => simpa using kept
    | some fault => simp [World.raise, kept]

namespace ForeignFunction

/-- The result of a call with host values in whose native part no fault was raised: what the native
part gave, decoded. -/
def decoded (function : ForeignFunction κ) (lent : List LentBuffer)
    (native : Except MarshalError RawValue × World κ) : Except Error (Value κ) :=
  match native with
  | (.error error, _) => .error error
  | (.ok raw, world) =>
      (decodeReturn world.memory raw function.type.signature.result
        (readBack world.memory lent world.heap)).map Prod.fst

/-- A call with host values leaves the pending fault as it was, and what was pending is nothing to
it. -/
theorem call_pending (enter : Entry κ) (function : ForeignFunction κ) (args : List (Value κ))
    (world : World κ) (pending : Option Error) :
    function.call enter args { world with pending := pending } =
      ((function.call enter args world).1,
        { (function.call enter args world).2 with pending := pending }) := by
  rw [call_eq_encoded, call_eq_encoded]
  have same : function.encoded args { world with pending := pending } =
      function.encoded args world := rfl
  rw [same]
  cases function.encoded args world with
  | panicked message => rfl
  | returned encoded =>
    cases encoded with
    | error error => rfl
    | ok encoded =>
      rcases encoded with ⟨raws, lent, memory⟩
      simp only [callEncoded, World.isolate, World.takeFault]
      split
      · rfl
      · split
        · rfl
        · split <;> rfl

/-- A call with encoded arguments fails with the first fault of its native part, and without a fault
gives what the native part gave. -/
theorem callEncoded_result (enter : Entry κ) (function : ForeignFunction κ) (raws : List RawValue)
    (lent : List LentBuffer) (world : World κ) :
    let native := function.callRaw enter raws { world with pending := none }
    (function.callEncoded enter raws lent world).1 =
      match native.2.pending with
      | some fault => .error fault
      | none => function.decoded lent native := by
  simp only [callEncoded, World.isolate, World.takeFault]
  generalize function.callRaw enter raws { world with pending := none } = native
  rcases native with ⟨result, left⟩
  cases left.pending with
  | some fault => rfl
  | none =>
    cases result with
    | error error => rfl
    | ok raw =>
      simp only [decoded]
      cases decodeReturn left.memory raw function.type.signature.result
        (readBack left.memory lent left.heap) <;> rfl

/-- Every call with host values leaves the pending fault exactly as it was, and is not influenced by
it.  It fails with the first fault that a closure raised at its own level, and gives the decoded
result only if there was none.  Calls with raw values, and entered closures, keep what is pending
and park the first fault of their level if nothing is. -/
theorem call_collects_firstFault (depth : Nat) (function : ForeignFunction κ) (world : World κ) :
    (∀ args pending,
      function.call (enterAt depth) args { world with pending := pending } =
        ((function.call (enterAt depth) args world).1,
          { (function.call (enterAt depth) args world).2 with pending := pending })) ∧
    (∀ args,
      (function.call (enterAt depth) args world).2.pending = world.pending) ∧
    (∀ args,
      (function.call (enterAt depth) args world).1 =
        (function.encoded args world).bind fun (raws, lent, memory) =>
          let start := nativeStart world memory
          match Event.faults (function.rawJournal (enterJournal depth) raws start) with
          | fault :: _ => .returned (.error fault)
          | [] =>
              .returned (function.decoded lent (function.callRaw (enterAt depth) raws start))) ∧
    (∀ args,
      let faults := Event.faults (function.rawJournal (enterJournal depth) args world)
      (function.callRaw (enterAt depth) args world).2.pending = world.pending.or faults.head?) ∧
    (∀ args fault, world.pending = some fault →
      (function.callRaw (enterAt depth) args world).2.pending = some fault) ∧
    (∀ (closure : Closure κ) address args,
      let call : ClosureCall κ := ⟨depth, address, closure, args, world⟩
      let faults := Event.faults (call.journal (enterJournal depth))
      (closure.enter (enterAt depth) address args world).2.pending =
        world.pending.or faults.head?) ∧
    (∀ (closure : Closure κ) address args fault, world.pending = some fault →
      (closure.enter (enterAt depth) address args world).2.pending = some fault) := by
  have entry := (parks_law (κ := κ)).enterAt depth
  have raw (args : List RawValue) (world : World κ) := parks_law.callRaw entry function args world
  have entered (closure : Closure κ) (address : UInt64) (args : List RawValue) :
      Parks world (ClosureCall.journal (enterJournal depth) ⟨depth, address, closure, args, world⟩)
        (closure.enter (enterAt depth) address args world).2 := by
    rw [JournalLaw.enter_after]
    exact parks_law.closure _ entry
  refine ⟨?unmoved, ?restored, ?collected, ?parked, ?rawStays, ?closureParked, ?closureStays⟩
  case unmoved =>
    intro args pending
    exact function.call_pending (enterAt depth) args world pending
  case restored =>
    intro args
    have same := congrArg (fun ended => ended.2.pending)
      (function.call_pending (enterAt depth) args world world.pending)
    exact same
  case collected =>
    intro args
    rw [call_eq_encoded]
    cases function.encoded args world with
    | panicked message => rfl
    | returned encoded =>
      cases encoded with
      | error error => rfl
      | ok encoded =>
        rcases encoded with ⟨raws, lent, memory⟩
        have parked : (function.callRaw (enterAt depth) raws (nativeStart world memory)).2.pending =
            (Event.faults (function.rawJournal (enterJournal depth) raws
              (nativeStart world memory))).head? :=
          raw raws (nativeStart world memory)
        have result := function.callEncoded_result (enterAt depth) raws lent
          { world with memory := memory }
        simp only [nativeStart] at parked
        simp only [Outcome.bind, nativeStart, result, parked]
        cases Event.faults (function.rawJournal (enterJournal depth) raws
          { world with memory := memory, pending := none }) <;> rfl
  case parked =>
    intro args
    exact raw args world
  case rawStays =>
    intro args fault pending
    exact (raw args world).stays pending
  case closureParked =>
    intro closure address args
    exact entered closure address args
  case closureStays =>
    intro closure address args fault pending
    exact (entered closure address args).stays pending

end ForeignFunction

end NativeBridge
