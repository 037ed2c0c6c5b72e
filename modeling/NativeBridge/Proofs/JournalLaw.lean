/-
Module: NativeBridge.Proofs.JournalLaw
Purpose: Relations between the process before a run, its journal and the process after it.
Main exports: World.Quiet, Handler.run_start, ClosureCall.dispatched_effect, JournalLaw,
  JournalLaw.run, JournalLaw.closure, JournalLaw.enterAt
-/
import NativeBridge.Proofs.Journal

namespace NativeBridge

variable {κ : Type} [HostProgram κ]

/-!
What a run does to the pending fault and to the registries is said by its journal.  A relation
between the process before, the journal and the process after holds of every run when it holds of
each single thing that can happen; `JournalLaw` lists these, and the theorems below it are the
induction over nested calls, which is done once.
-/

/-- Every closure stands where it stood; it may have returned more texts. -/
def World.KeepsClosures (before after : World κ) : Prop :=
  ∀ (index : Nat) (closure : Closure κ), before.code[index]? = some (.closure closure) →
    ∃ returned, after.code[index]? = some (.closure { closure with returned := returned })

namespace World.KeepsClosures

theorem of_same {before after : World κ} (same : after.code = before.code) :
    before.KeepsClosures after := by
  intro index closure there
  rw [same]
  exact ⟨closure.returned, there⟩

theorem trans {first middle last : World κ} (one : first.KeepsClosures middle)
    (two : middle.KeepsClosures last) : first.KeepsClosures last := by
  intro index closure there
  obtain ⟨returned, moved⟩ := one index closure there
  obtain ⟨more, last⟩ := two index _ moved
  exact ⟨more, last⟩

theorem noteReturned (world : World κ) (closure text : UInt64) :
    world.KeepsClosures (world.noteReturned closure text) := by
  unfold World.noteReturned
  cases World.codeIndex? closure with
  | none => exact of_same rfl
  | some noted =>
    intro index closure there
    by_cases same : noted = index
    · exact ⟨text :: closure.returned, by simp [Array.getElem?_modify, same, there]⟩
    · exact ⟨closure.returned, by simp [Array.getElem?_modify, same, there]⟩

end World.KeepsClosures

/-- A change of the process that touches neither the pending fault nor the registries, and leaves
the closures where they are. -/
structure World.Quiet (before after : World κ) : Prop where
  pending : after.pending = before.pending
  registries : after.registries = before.registries
  closures : before.KeepsClosures after

namespace World.Quiet

theorem of_same {before after : World κ} (pending : after.pending = before.pending)
    (registries : after.registries = before.registries) (code : after.code = before.code) :
    before.Quiet after :=
  ⟨pending, registries, .of_same code⟩

theorem refl (world : World κ) : world.Quiet world := .of_same rfl rfl rfl

theorem trans {first middle last : World κ} (one : first.Quiet middle) (two : middle.Quiet last) :
    first.Quiet last :=
  ⟨two.pending.trans one.pending, two.registries.trans one.registries,
    one.closures.trans two.closures⟩

end World.Quiet

/-- A handler runs one program to its end, between changes that are quiet, or fails and changes
nothing. -/
theorem Handler.run_start (enter : Entry κ) (handler : Handler κ) (args : List (Value κ))
    (world : World κ) :
    match handler.start args world with
    | some (code, frame, begun) =>
        world.Quiet begun ∧ (handler.run enter args world).1 = (code.run enter frame begun).1 ∧
          (code.run enter frame begun).2.Quiet (handler.run enter args world).2
    | none => ∃ error, handler.run enter args world = (.returned (.error error), world) := by
  cases handler with
  | function body => exact ⟨.refl world, rfl, .refl _⟩
  | member dispatch target =>
    cases dispatch with
    | static => exact ⟨.refl world, rfl, .refl _⟩
    | virtual =>
      cases args with
      | nil => exact ⟨_, rfl⟩
      | cons first rest =>
        cases first with
        | object object =>
          simp only [Handler.start, Handler.run, runOnReceiver, runVirtual]
          cases world.heap.borrowExclusive? object.cell with
          | none => exact ⟨_, rfl⟩
          | some heap => exact ⟨.of_same rfl rfl rfl, rfl, .of_same rfl rfl rfl⟩
        | _ => exact ⟨_, rfl⟩
    | copied =>
      cases args with
      | nil => exact ⟨_, rfl⟩
      | cons first rest =>
        cases first with
        | object object =>
          simp only [Handler.start, Handler.run, runOnReceiver, runCopied]
          cases world.heap.copyOut object with
          | error error => exact ⟨_, rfl⟩
          | ok copied => exact ⟨.of_same rfl rfl rfl, rfl, .refl _⟩
        | _ => exact ⟨_, rfl⟩

/-! ### The end of a call -/

theorem World.noteReturned_quiet (world : World κ) (closure text : UInt64) :
    world.Quiet (world.noteReturned closure text) := by
  refine ⟨?_, ?_, .noteReturned world closure text⟩
  all_goals
    unfold World.noteReturned
    cases World.codeIndex? closure <;> rfl

/-- Encoding a result gives out the handle of a returned object and is quiet otherwise. -/
theorem Closure.give_effect (closure : Closure κ) (address : UInt64) (value : Value κ)
    (world : World κ) :
    match closure.plan.result.type, closure.registry, value with
    | .object type, some registry, .object object =>
        if object.type = type then
          closure.give address value world =
            (.ok (.pointer (world.registry registry).next),
              (world.allocateHandle registry object).2)
        else (∃ error, closure.give address value world = (.error error, world))
    | _, _, _ => world.Quiet (closure.give address value world).2 := by
  have noted (bytes : List UInt8) :
      world.Quiet ((world.allocateCString bytes).2.noteReturned address
        (world.allocateCString bytes).1) := by
    have allocated : world.Quiet (world.allocateCString bytes).2 := .of_same rfl rfl rfl
    exact allocated.trans (World.noteReturned_quiet _ _ _)
  unfold Closure.give
  cases closure.plan.result.type with
  | void => exact .refl world
  | string =>
    cases value with
    | string text =>
      dsimp only
      cases cBytes text with
      | error error => exact .refl world
      | ok bytes => exact noted bytes
    | _ => exact .refl world
  | stringBuffer =>
    cases value with
    | stringBuffer buffer =>
      dsimp only
      cases cBytes (world.heap.text buffer) with
      | error error => exact .refl world
      | ok bytes => exact noted bytes
    | _ => exact .refl world
  | object type =>
    cases value with
    | object object =>
      by_cases same : object.type = type
      · cases closure.registry with
        | none => simp [HostObject.expectType, same, World.Quiet.refl]
        | some registry =>
          simp [HostObject.expectType, same, World.allocateHandle, Registry.allocate]
      · cases closure.registry with
        | none => simp [HostObject.expectType, same, World.Quiet.refl]
        | some registry => simp [HostObject.expectType, same]
    | _ => cases closure.registry <;> exact .refl world
  | _ => exact .refl world

theorem applyWriteBacks_quiet (writeBacks : List WriteBack) (world : World κ) :
    world.Quiet (applyWriteBacks writeBacks world) := .of_same rfl rfl rfl

theorem World.Quiet.allocateHandle {before after : World κ} (quiet : before.Quiet after)
    (registry : Nat) (object : HostObject κ) :
    (after.registry registry).next = (before.registry registry).next ∧
      (before.allocateHandle registry object).2.Quiet (after.allocateHandle registry object).2 := by
  have same : ∀ id, after.registry id = before.registry id := by
    intro id
    unfold World.registry
    rw [quiet.registries]
  refine ⟨by rw [same], quiet.pending, ?_, quiet.closures⟩
  simp only [World.allocateHandle, World.setRegistry, same, quiet.registries]

namespace ClosureCall

/-- After its host code a call gives out at most the handle of its result, else it is quiet. -/
theorem dispatched_effect (call : ClosureCall κ) :
    match call.handle? with
    | some (registry, handle, object) =>
        call.outcome = .returned (.ok (.pointer handle)) ∧
          handle = (call.left.registry registry).next ∧
          (call.left.allocateHandle registry object).2.Quiet call.dispatched.2
    | none => call.left.Quiet call.dispatched.2 := by
  rw [outcome, dispatched_eq, handle?, left, inside]
  cases call.accepted with
  | error error => exact .refl _
  | ok decoded =>
    rcases decoded with ⟨args, writeBacks, heap⟩
    dsimp only
    generalize call.closure.handler.run (enterAt call.depth) args
      { call.world with heap := heap } = ran
    rcases ran with ⟨ended, left⟩
    have written := applyWriteBacks_quiet writeBacks left
    cases ended with
    | panicked message => exact .refl _
    | returned result =>
      cases result with
      | error error => exact written
      | ok value =>
        have given := call.closure.give_effect call.address value (applyWriteBacks writeBacks left)
        revert given
        cases value with
        | object object =>
          cases call.closure.plan.result.type with
          | object type =>
            cases call.closure.registry with
            | none => exact written.trans
            | some registry =>
              dsimp only
              by_cases same : object.type = type
              · intro given
                obtain ⟨next, allocated⟩ := written.allocateHandle registry object
                simp_all [finish]
              · simp only [if_neg same]
                intro given
                rcases given with ⟨error, given⟩
                simpa [finish, given] using written
          | _ => exact written.trans
        | _ =>
          cases call.closure.plan.result.type <;> cases call.closure.registry <;>
            exact written.trans

end ClosureCall

/-! ### Runs -/

/-- A relation that every run has between the process before, its journal and the process after. -/
structure JournalLaw (R : World κ → List (Event κ) → World κ → Prop) : Prop where
  quiet : ∀ {before after : World κ}, before.Quiet after → R before [] after
  append : ∀ {first middle last : World κ} {events more : List (Event κ)},
    R first events middle → R middle more last → R first (events ++ more) last
  collected : ∀ {before after : World κ} {events : List (Event κ)},
    R { before with pending := none } events after →
      R before (events.map Event.deeper) { after with pending := before.pending }
  issued : ∀ (world : World κ) (registry : Nat) (object : HostObject κ),
    R world [.issued registry (world.registry registry).next object]
      (world.allocateHandle registry object).2
  released : ∀ (world : World κ) (registry : Nat) (handle : UInt64),
    (world.registry registry).isLive handle = true →
      R world [.released registry handle] (world.releaseHandle registry handle).2
  lookedUp : ∀ (world : World κ) (registry : Nat) (handle : UInt64),
    R world [.lookedUp registry handle] world
  exceeded : ∀ world : World κ, R world [.raised 0 depthFault] (world.raise depthFault)
  entered : ∀ call : ClosureCall κ, R call.world [.entered call] call.world
  closing : ∀ call : ClosureCall κ, R call.left call.closing call.after

namespace JournalLaw

variable {R : World κ → List (Event κ) → World κ → Prop} {enter : Entry κ} {inner : EntryJournal κ}

theorem quietAfter (law : JournalLaw R) {first middle last : World κ} {events : List (Event κ)}
    (some : R first events middle) (quiet : middle.Quiet last) : R first events last := by
  simpa using law.append some (law.quiet quiet)

theorem afterQuiet (law : JournalLaw R) {first middle last : World κ} {events : List (Event κ)}
    (quiet : first.Quiet middle) (some : R middle events last) : R first events last := by
  simpa using law.append (law.quiet quiet) some

/-- An entry follows a relation -/
def Entered (R : World κ → List (Event κ) → World κ → Prop) (enter : Entry κ)
    (inner : EntryJournal κ) : Prop :=
  ∀ address result raws world,
    R world (inner address raws world) (enter address result raws world).2

theorem callRaw (law : JournalLaw R) (entry : Entered R enter inner)
    (function : ForeignFunction κ) (args : List RawValue) (world : World κ) :
    R world (function.rawJournal inner args world) (function.callRaw enter args world).2 := by
  simp only [ForeignFunction.rawJournal, ForeignFunction.callRaw]
  by_cases arity : args.length = function.type.signature.parameters.length
  · cases fault : ForeignFunction.rawFault function.type.signature.parameters args with
    | some error =>
      simp only [arity]
      exact law.quiet (.refl world)
    | none =>
      simp only [arity, and_self, if_true]
      exact entry ..
  · simp only [arity, false_and, if_false]
    exact law.quiet (.refl world)

theorem callEncoded (law : JournalLaw R) (entry : Entered R enter inner)
    (function : ForeignFunction κ) (raws : List RawValue) (lent : List LentBuffer)
    (world : World κ) :
    R world ((function.rawJournal inner raws { world with pending := none }).map Event.deeper)
      (function.callEncoded enter raws lent world).2 := by
  have inside := law.callRaw entry function raws { world with pending := none }
  apply law.quietAfter (law.collected inside)
  simp only [ForeignFunction.callEncoded, World.isolate, World.takeFault]
  split
  · exact .of_same rfl rfl rfl
  · split
    · exact .of_same rfl rfl rfl
    · split <;> exact .of_same rfl rfl rfl

theorem call (law : JournalLaw R) (entry : Entered R enter inner)
    (function : ForeignFunction κ) (args : List (Value κ)) (world : World κ) :
    R world (function.journal inner args world) (function.call enter args world).2 := by
  rw [ForeignFunction.call_eq_encoded, ForeignFunction.journal]
  cases function.encoded args world with
  | panicked message => exact law.quiet (.refl world)
  | returned encoded =>
    cases encoded with
    | error error => exact law.quiet (.refl world)
    | ok encoded =>
      rcases encoded with ⟨raws, lent, memory⟩
      have called := law.callEncoded entry function raws lent { world with memory := memory }
      have prepared : world.Quiet { world with memory := memory } := .of_same rfl rfl rfl
      exact law.afterQuiet prepared called

theorem step (law : JournalLaw R) (entry : Entered R enter inner) (code : Code κ)
    (frame : Frame) (world : World κ) :
    R world (code.stepJournal inner world) (code.step enter frame world).world := by
  cases code with
  | call function args next =>
    have called := law.call entry function args world
    simp only [Code.step]
    split
    · next message last same =>
      rw [same] at called
      exact law.quietAfter called (.of_same rfl rfl rfl)
    · next result last same =>
      rw [same] at called
      exact called
  | callRaw function args next => exact law.callRaw entry function args world
  | allocateHandle registry object next => exact law.issued world registry object
  | resolveHandle registry handle next => exact law.lookedUp world registry handle
  | releaseHandle registry handle next =>
    simp only [Code.stepJournal]
    cases live : (world.registry registry).isLive handle with
    | true => exact law.released world registry handle live
    | false =>
      apply law.quietAfter (law.lookedUp world registry handle)
      simp [Code.step, World.releaseHandle, Registry.release, live, Progress.world,
        World.Quiet.refl]
  | borrow object exclusive next =>
    simp only [Code.step]
    cases frame.borrow object.cell exclusive world.heap <;> exact law.quiet (.of_same rfl rfl rfl)
  | writeObject object key state next =>
    simp only [Code.step]
    split <;> exact law.quiet (.of_same rfl rfl rfl)
  | writeReceiver key state next =>
    simp only [Code.step]
    split <;> exact law.quiet (.of_same rfl rfl rfl)
  | _ => exact law.quiet (.of_same rfl rfl rfl)

theorem run (law : JournalLaw R) (entry : Entered R enter inner) (code : Code κ)
    (frame : Frame) (world : World κ) :
    R world (code.journal enter inner frame world) (code.run enter frame world).2 := by
  -- What follows a request depends on its answer, so the induction is on what may follow.
  induction code using Code.follows_wellFounded.induction generalizing frame world with
  | _ code ih =>
    have stepped := law.step entry code frame world
    rw [Code.run_eq_step]
    cases same : code.step enter frame world with
    | ended outcome last =>
      rw [same] at stepped
      rw [Code.journal_ended same]
      exact stepped
    | rest rest frame' last =>
      rw [same] at stepped
      rw [Code.journal_rest same]
      exact law.append stepped (ih rest ⟨_, _, _, _, _, same⟩ frame' last)

theorem handler (law : JournalLaw R) (entry : Entered R enter inner) (handler : Handler κ)
    (args : List (Value κ)) (world : World κ) :
    R world (handler.journal enter inner args world) (handler.run enter args world).2 := by
  have started := handler.run_start enter args world
  simp only [Handler.journal]
  split
  · next code frame begun same =>
    rw [same] at started
    rcases started with ⟨moved, -, ended⟩
    exact law.afterQuiet moved (law.quietAfter (law.run entry code frame begun) ended)
  · next same =>
    rw [same] at started
    rcases started with ⟨error, same⟩
    rw [same]
    exact law.quiet (.refl world)

theorem inside (law : JournalLaw R) (call : ClosureCall κ)
    (entry : Entered R (enterAt call.depth) inner) :
    R call.world (call.insideJournal inner) call.left := by
  simp only [ClosureCall.insideJournal, ClosureCall.left, ClosureCall.inside]
  cases call.accepted with
  | ok decoded =>
    rcases decoded with ⟨args, writeBacks, heap⟩
    have moved : call.world.Quiet { call.world with heap := heap } := .of_same rfl rfl rfl
    exact law.afterQuiet moved (law.handler entry call.closure.handler args _)
  | error error => exact law.quiet (.refl call.world)

theorem closure (law : JournalLaw R) (call : ClosureCall κ)
    (entry : Entered R (enterAt call.depth) inner) :
    R call.world (call.journal inner) call.after :=
  law.append (law.append (law.entered call) (law.inside call entry)) (law.closing call)

theorem enter_after (closure : Closure κ) (depth : Nat) (address : UInt64) (raws : List RawValue)
    (world : World κ) :
    (closure.enter (enterAt depth) address raws world).2 =
      ClosureCall.after ⟨depth, address, closure, raws, world⟩ := by
  simp only [Closure.enter, ClosureCall.after, ClosureCall.fault?, ClosureCall.outcome,
    ClosureCall.dispatched, ClosureCall.args]
  generalize closure.dispatch (enterAt depth) address
    (deliver (closure.type.signature.parameters.map HostType.abi) raws) world = dispatched
  rcases dispatched with ⟨outcome, left⟩
  cases outcome with
  | panicked message => rfl
  | returned result =>
    cases result with
    | error error => rfl
    | ok raw =>
      by_cases same : raw.abi = closure.type.signature.result.abi
      · simp [same]
      · simp [same]

theorem enterAt (law : JournalLaw R) (depth : Nat) :
    Entered R (enterAt depth) (enterJournal depth) := by
  -- A closure entered at one depth enters others at the depth below only.
  induction depth with
  | zero =>
    intro address result raws world
    exact law.exceeded world
  | succ depth ih =>
    intro address result raws world
    simp only [enterJournal, NativeBridge.enterAt]
    cases world.codeAt? address with
    | none => exact law.quiet (.refl world)
    | some found =>
      cases found with
      | foreign parameters run => exact law.quiet (.of_same rfl rfl rfl)
      | closure closure =>
        have called := law.closure ⟨depth, address, closure, raws, world⟩ ih
        rw [← enter_after] at called
        exact called

end JournalLaw

end NativeBridge
