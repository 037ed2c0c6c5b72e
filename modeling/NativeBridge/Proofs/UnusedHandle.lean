/-
Module: NativeBridge.Proofs.UnusedHandle
Purpose: Whether a handle is live makes no difference to a run that does not use it.
Main exports: Event.Uses, Unused, World.AgreeExcept, Code.run_agrees, Handler.run_agrees
-/
import NativeBridge.Proofs.HandleLedger

namespace NativeBridge

variable {κ : Type} [HostProgram κ]

/-!
A run uses a handle when host code asks about it or gives it back, and when native code passes it as
an object.  Two processes that agree except for what one handle stands for can be told apart in no
other way, so a run that does not use the handle goes the same way in both.  In particular a member
goes on as before when the handle of its own receiver has been released under it.
-/

/-- An event that depends on whether a handle of a registry is live. -/
def Event.Uses (id : Nat) (handle : UInt64) : Event κ → Prop
  | released one used | lookedUp one used => one = id ∧ used = handle
  | entered call => call.closure.registry = some id ∧
      ∃ slot ∈ call.closure.plan.parameters.zip call.args,
        (∃ type, slot.1.type = .object type) ∧ slot.2 = .pointer handle
  | ended _ | answered _ | raised _ _ | issued _ _ _ => False

/-- A journal without a use of a handle. -/
def Unused (id : Nat) (handle : UInt64) (events : List (Event κ)) : Prop :=
  ∀ event ∈ events, ¬ event.Uses id handle

section Unused

variable {id : Nat} {handle : UInt64} {events more : List (Event κ)}

theorem unused_append :
    Unused id handle (events ++ more) ↔ Unused id handle events ∧ Unused id handle more :=
  List.forall_mem_append

theorem unused_deeper :
    Unused id handle (events.map Event.deeper) ↔ Unused id handle events := by
  simp only [Unused, List.forall_mem_map]
  refine forall₂_congr fun event _ => not_congr ?_
  cases event <;> rfl

end Unused

/-! ### Registries that agree -/

/-- Two tables of registries agree except for what one handle of one registry stands for. -/
structure RegistriesAgree (id : Nat) (handle : UInt64) (one other : Array (Registry κ)) : Prop where
  size : one.size = other.size
  elsewhere : ∀ k, k ≠ id → one.getD k .empty = other.getD k .empty
  next : (one.getD id .empty).next = (other.getD id .empty).next
  slots : (one.getD id .empty).without handle = (other.getD id .empty).without handle

/-- Two processes agree except for what one handle of one registry stands for. -/
def World.AgreeExcept (id : Nat) (handle : UInt64) (one other : World κ) : Prop :=
  ∃ registries, other = { one with registries := registries } ∧
    RegistriesAgree id handle one.registries registries

namespace World.AgreeExcept

variable {id : Nat} {handle : UInt64} {one other : World κ}

theorem refl (world : World κ) : world.AgreeExcept id handle world :=
  ⟨world.registries, rfl, rfl, fun _ _ => rfl, rfl, rfl⟩

theorem next (agree : one.AgreeExcept id handle other) (k : Nat) :
    (one.registry k).next = (other.registry k).next := by
  rcases agree with ⟨registries, rfl, agree⟩
  by_cases same : k = id
  · subst same
    exact agree.next
  · exact congrArg Registry.next (agree.elsewhere k same)

theorem resolve (agree : one.AgreeExcept id handle other) {k : Nat} {asked : UInt64}
    (different : ¬ (k = id ∧ asked = handle)) :
    (one.registry k).resolve asked = (other.registry k).resolve asked := by
  rcases agree with ⟨registries, rfl, agree⟩
  by_cases same : k = id
  · subst same
    have apart : asked ≠ handle := fun equal => different ⟨rfl, equal⟩
    have slots : ((one.registries.getD k .empty).without handle).lookup asked =
        ((registries.getD k .empty).without handle).lookup asked := by
      rw [agree.slots]
    rw [Registry.lookup_without, Registry.lookup_without, if_neg apart, if_neg apart] at slots
    simp only [World.registry, Registry.resolve, slots]
  · simp only [World.registry, agree.elsewhere k same]

theorem isLive (agree : one.AgreeExcept id handle other) {k : Nat} {asked : UInt64}
    (different : ¬ (k = id ∧ asked = handle)) :
    (one.registry k).isLive asked = (other.registry k).isLive asked := by
  rw [Bool.eq_iff_iff, Registry.isLive_iff_resolve, Registry.isLive_iff_resolve,
    agree.resolve different]

/-- Registries that agree still do after the same change of one of them. -/
theorem setRegistry (agree : one.AgreeExcept id handle other) (k : Nat)
    {left right : Registry κ} (same : k ≠ id → left = right)
    (alike : k = id →
      left.next = right.next ∧ left.without handle = right.without handle) :
    (one.setRegistry k left).AgreeExcept id handle (other.setRegistry k right) := by
  rcases agree with ⟨registries, rfl, agree⟩
  have has (j : Nat) : World.HasRegistry { one with registries := registries } j ↔
      one.HasRegistry j := by
    simp only [World.HasRegistry, agree.size]
  refine ⟨(World.setRegistry { one with registries := registries } k right).registries, rfl,
    by simp [World.setRegistry, agree.size], ?elsewhere, ?next, ?slots⟩
  case elsewhere =>
    intro j apart
    have before := agree.elsewhere j apart
    change (one.setRegistry k left).registry j =
      (World.setRegistry { one with registries := registries } k right).registry j
    simp only [World.registry_setRegistry, has]
    split
    · next there => exact same fun equal => apart (there.1 ▸ equal)
    · exact before
  case next =>
    change ((one.setRegistry k left).registry id).next =
      ((World.setRegistry { one with registries := registries } k right).registry id).next
    simp only [World.registry_setRegistry, has]
    split
    · next there => exact (alike there.1).1
    · exact agree.next
  case slots =>
    change ((one.setRegistry k left).registry id).without handle =
      ((World.setRegistry { one with registries := registries } k right).registry id).without handle
    simp only [World.registry_setRegistry, has]
    split
    · next there => exact (alike there.1).2
    · exact agree.slots

theorem slots_agree (agree : one.AgreeExcept id handle other) :
    (one.registry id).without handle = (other.registry id).without handle := by
  rcases agree with ⟨registries, rfl, agree⟩
  exact agree.slots

theorem elsewhere (agree : one.AgreeExcept id handle other) {k : Nat} (apart : k ≠ id) :
    one.registry k = other.registry k := by
  rcases agree with ⟨registries, rfl, agree⟩
  exact agree.elsewhere k apart

/-- Dropping the slots of a second handle keeps the agreement. -/
theorem without_agree (agree : one.AgreeExcept id handle other) (gone : UInt64) :
    ((one.registry id).without gone).filter (fun slot => slot.1 != handle) =
      ((other.registry id).without gone).filter (fun slot => slot.1 != handle) := by
  have swap (registry : Registry κ) :
      (registry.without gone).filter (fun slot => slot.1 != handle) =
        (registry.without handle).filter (fun slot => slot.1 != gone) := by
    simp only [Registry.without, List.filter_filter]
    exact List.filter_congr fun slot _ => Bool.and_comm _ _
  rw [swap, swap, agree.slots_agree]

/-- Agreeing processes give the same handle out. -/
theorem allocateHandle (agree : one.AgreeExcept id handle other) (k : Nat) (object : HostObject κ) :
    (one.allocateHandle k object).1 = (other.allocateHandle k object).1 ∧
      (one.allocateHandle k object).2.AgreeExcept id handle (other.allocateHandle k object).2 := by
  refine ⟨agree.next k, agree.setRegistry k ?same ?alike⟩
  case same =>
    intro apart
    exact congrArg (fun registry => (Registry.allocate registry object).2) (agree.elsewhere apart)
  case alike =>
    rintro rfl
    refine ⟨congrArg Registry.following (agree.next k), ?_⟩
    have rest := agree.without_agree (one.registry k).next
    rw [agree.next k] at rest
    simp only [Registry.without, List.filter_cons, agree.next k] at rest ⊢
    rw [rest]

/-- Agreeing processes take handles back alike, except for the one they differ in. -/
theorem releaseHandle (agree : one.AgreeExcept id handle other) {k : Nat} {gone : UInt64}
    (different : ¬ (k = id ∧ gone = handle)) :
    (one.releaseHandle k gone).1 = (other.releaseHandle k gone).1 ∧
      (one.releaseHandle k gone).2.AgreeExcept id handle (other.releaseHandle k gone).2 := by
  have live := agree.isLive different
  cases dead : (one.registry k).isLive gone with
  | false =>
    rw [dead] at live
    simp [World.releaseHandle, Registry.release, dead, ← live, agree]
  | true =>
    rw [dead] at live
    simp only [World.releaseHandle, Registry.release, dead, ← live, if_true, true_and]
    refine agree.setRegistry k ?same ?alike
    case same =>
      intro apart
      rw [agree.elsewhere apart]
    case alike =>
      rintro rfl
      exact ⟨agree.next k, agree.without_agree gone⟩

end World.AgreeExcept

/-! ### Runs that agree -/

/-- Two results with the processes they leave agree. -/
def Agree {α : Type} (id : Nat) (handle : UInt64) (one other : α × World κ) : Prop :=
  one.1 = other.1 ∧ one.2.AgreeExcept id handle other.2

/-- Two entries agree where the journal of the first does not use a handle. -/
def EntryAgrees (id : Nat) (handle : UInt64) (enter : Entry κ) (inner : EntryJournal κ) : Prop :=
  ∀ address result raws one other, one.AgreeExcept id handle other →
    Unused id handle (inner address raws one) →
      Agree id handle (enter address result raws one) (enter address result raws other)

section Calls

variable {id : Nat} {handle : UInt64} {enter : Entry κ} {inner : EntryJournal κ}
  {one other : World κ}

theorem ForeignFunction.callRaw_agrees (entry : EntryAgrees id handle enter inner)
    (agree : one.AgreeExcept id handle other) (function : ForeignFunction κ) (args : List RawValue)
    (unused : Unused id handle (function.rawJournal inner args one)) :
    Agree id handle (function.callRaw enter args one) (function.callRaw enter args other) := by
  simp only [ForeignFunction.rawJournal, ForeignFunction.callRaw] at unused ⊢
  by_cases arity : args.length = function.type.signature.parameters.length
  · cases fault : ForeignFunction.rawFault function.type.signature.parameters args with
    | some error =>
      simp only [arity, if_true]
      exact ⟨rfl, agree⟩
    | none =>
      simp only [arity, fault, and_self, if_true] at unused ⊢
      obtain ⟨result, left⟩ := entry _ function.type.signature.result.abi _ _ _ agree unused
      exact ⟨congrArg Except.ok result, left⟩
  · simp only [arity, if_false]
    exact ⟨rfl, agree⟩

theorem ForeignFunction.callEncoded_agrees (entry : EntryAgrees id handle enter inner)
    (agree : one.AgreeExcept id handle other) (function : ForeignFunction κ) (raws : List RawValue)
    (lent : List LentBuffer)
    (unused : Unused id handle (function.rawJournal inner raws { one with pending := none })) :
    Agree id handle (function.callEncoded enter raws lent one)
      (function.callEncoded enter raws lent other) := by
  rcases agree with ⟨registries, rfl, agree⟩
  have started : ({ one with pending := none } : World κ).AgreeExcept id handle
      { one with pending := none, registries := registries } := ⟨registries, rfl, agree⟩
  have called := ForeignFunction.callRaw_agrees entry started function raws unused
  revert called
  simp only [ForeignFunction.callEncoded, World.isolate, World.takeFault]
  generalize function.callRaw enter raws { one with pending := none } = first
  generalize function.callRaw enter raws
    { one with pending := none, registries := registries } = second
  intro called
  rcases first with ⟨result, left⟩
  rcases second with ⟨_, _⟩
  rcases called with ⟨rfl, registries, rfl, agree⟩
  dsimp only
  cases left.pending with
  | some fault => exact ⟨rfl, registries, rfl, agree⟩
  | none =>
    cases result with
    | error error => exact ⟨rfl, registries, rfl, agree⟩
    | ok raw =>
      dsimp only
      cases decodeReturn left.memory raw function.type.signature.result
        (readBack left.memory lent left.heap) with
      | error error => exact ⟨rfl, registries, rfl, agree⟩
      | ok decoded => exact ⟨rfl, registries, rfl, agree⟩

theorem ForeignFunction.call_agrees (entry : EntryAgrees id handle enter inner)
    (agree : one.AgreeExcept id handle other) (function : ForeignFunction κ) (args : List (Value κ))
    (unused : Unused id handle (function.journal inner args one)) :
    Agree id handle (function.call enter args one) (function.call enter args other) := by
  rcases agree with ⟨registries, rfl, agree⟩
  rw [ForeignFunction.call_eq_encoded, ForeignFunction.call_eq_encoded]
  have same : function.encoded args { one with registries := registries } =
      function.encoded args one := rfl
  rw [same]
  rw [ForeignFunction.journal] at unused
  cases encoded : function.encoded args one with
  | panicked message => exact ⟨rfl, registries, rfl, agree⟩
  | returned result =>
    cases result with
    | error error => exact ⟨rfl, registries, rfl, agree⟩
    | ok result =>
      rcases result with ⟨raws, lent, memory⟩
      rw [encoded] at unused
      have started : ({ one with memory := memory } : World κ).AgreeExcept id handle
          { one with memory := memory, registries := registries } := ⟨registries, rfl, agree⟩
      have called := ForeignFunction.callEncoded_agrees entry started function raws lent
        (unused_deeper.mp unused)
      exact ⟨congrArg Outcome.returned called.1, called.2⟩

/-- Two runs are at the same point, in processes that agree. -/
def Progress.Agree (id : Nat) (handle : UInt64) : Progress κ → Progress κ → Prop
  | .ended outcome world, .ended outcome' world' =>
      outcome = outcome' ∧ world.AgreeExcept id handle world'
  | .rest code frame world, .rest code' frame' world' =>
      code = code' ∧ frame = frame' ∧ world.AgreeExcept id handle world'
  | _, _ => False

/-- One request is answered alike. -/
theorem Code.step_agrees (entry : EntryAgrees id handle enter inner)
    (agree : one.AgreeExcept id handle other) (code : Code κ) (frame : Frame)
    (unused : Unused id handle (code.stepJournal inner one)) :
    Progress.Agree id handle (code.step enter frame one) (code.step enter frame other) := by
  cases code with
  | call function args next =>
    have called := ForeignFunction.call_agrees entry agree function args unused
    revert called
    simp only [Code.step]
    generalize function.call enter args one = first
    generalize function.call enter args other = second
    intro called
    rcases first with ⟨outcome, left⟩
    rcases second with ⟨_, _⟩
    rcases called with ⟨rfl, registries, rfl, agree⟩
    cases outcome with
    | panicked message => exact ⟨rfl, registries, rfl, agree⟩
    | returned result => exact ⟨rfl, rfl, registries, rfl, agree⟩
  | callRaw function args next =>
    obtain ⟨result, left⟩ := ForeignFunction.callRaw_agrees entry agree function args unused
    exact ⟨congrArg next result, rfl, left⟩
  | allocateHandle registry object next =>
    obtain ⟨given, left⟩ := agree.allocateHandle registry object
    exact ⟨congrArg next given, rfl, left⟩
  | resolveHandle registry asked next =>
    have different : ¬ (registry = id ∧ asked = handle) := unused _ (List.mem_singleton_self _)
    exact ⟨congrArg next (agree.resolve different), rfl, agree⟩
  | releaseHandle registry gone next =>
    have different : ¬ (registry = id ∧ gone = handle) := by
      simp only [Code.stepJournal] at unused
      split at unused
      · exact unused _ (List.mem_singleton_self _)
      · exact unused _ (List.mem_singleton_self _)
    rcases agree.releaseHandle different with ⟨result, left⟩
    exact ⟨congrArg next result, rfl, left⟩
  | borrow object exclusive next =>
    rcases agree with ⟨registries, rfl, agree⟩
    simp only [Code.step]
    cases frame.borrow object.cell exclusive one.heap <;>
      exact ⟨rfl, rfl, registries, rfl, agree⟩
  | writeObject object key state next =>
    rcases agree with ⟨registries, rfl, agree⟩
    simp only [Code.step]
    split <;> exact ⟨rfl, rfl, registries, rfl, agree⟩
  | writeReceiver key state next =>
    rcases agree with ⟨registries, rfl, agree⟩
    simp only [Code.step]
    split <;> exact ⟨rfl, rfl, registries, rfl, agree⟩
  | done result | panic message =>
    rcases agree with ⟨registries, rfl, agree⟩
    exact ⟨rfl, registries, rfl, agree⟩
  | _ =>
    rcases agree with ⟨registries, rfl, agree⟩
    exact ⟨rfl, rfl, registries, rfl, agree⟩

/-- A run that does not use a handle ends alike, whether the handle is live or not. -/
theorem Code.run_agrees (entry : EntryAgrees id handle enter inner)
    (agree : one.AgreeExcept id handle other) (code : Code κ) (frame : Frame)
    (unused : Unused id handle (code.journal enter inner frame one)) :
    Agree id handle (code.run enter frame one) (code.run enter frame other) := by
  induction code using Code.follows_wellFounded.induction generalizing frame one other with
  | _ code ih =>
    rw [Code.run_eq_step enter code frame one, Code.run_eq_step enter code frame other]
    cases first : code.step enter frame one with
    | ended outcome left =>
      rw [Code.journal_ended first] at unused
      have stepped := code.step_agrees entry agree frame unused
      rw [first] at stepped
      cases second : code.step enter frame other with
      | ended outcome' left' =>
        rw [second] at stepped
        exact stepped
      | rest code' frame' left' =>
        rw [second] at stepped
        exact stepped.elim
    | rest rest frame' left =>
      rw [Code.journal_rest first, unused_append] at unused
      have stepped := code.step_agrees entry agree frame unused.1
      rw [first] at stepped
      cases second : code.step enter frame other with
      | ended outcome' left' =>
        rw [second] at stepped
        exact stepped.elim
      | rest code' frame'' left' =>
        rw [second] at stepped
        rcases stepped with ⟨rfl, rfl, agree⟩
        exact ih rest ⟨_, _, _, _, _, first⟩ agree frame' unused.2

/-- A handler that does not use a handle ends alike, whether the handle is live or not. -/
theorem Handler.run_agrees (entry : EntryAgrees id handle enter inner)
    (agree : one.AgreeExcept id handle other) (handler : Handler κ) (args : List (Value κ))
    (unused : Unused id handle (handler.journal enter inner args one)) :
    Agree id handle (handler.run enter args one) (handler.run enter args other) := by
  rw [Handler.journal] at unused
  cases handler with
  | function body => exact Code.run_agrees entry agree (body args) .bare unused
  | member dispatch target =>
    cases dispatch with
    | static => exact Code.run_agrees entry agree (target.body args) .bare unused
    | virtual =>
      cases args with
      | nil => exact ⟨rfl, agree⟩
      | cons first rest =>
        cases first with
        | object object =>
          rcases agree with ⟨registries, rfl, agree⟩
          simp only [Handler.start, Handler.run, runOnReceiver, runVirtual] at unused ⊢
          cases borrowed : one.heap.borrowExclusive? object.cell with
          | none => exact ⟨rfl, registries, rfl, agree⟩
          | some heap =>
            rw [borrowed] at unused
            have started : ({ one with heap := heap } : World κ).AgreeExcept id handle
                { one with heap := heap, registries := registries } := ⟨registries, rfl, agree⟩
            obtain ⟨outcome, left⟩ :=
              Code.run_agrees entry started (target.body rest) (.onReceiver object.cell) unused
            rcases left with ⟨registries, same, agree⟩
            refine ⟨outcome, registries, ?_, agree⟩
            dsimp only
            rw [same]
        | _ => exact ⟨rfl, agree⟩
    | copied =>
      cases args with
      | nil => exact ⟨rfl, agree⟩
      | cons first rest =>
        cases first with
        | object object =>
          rcases agree with ⟨registries, rfl, agree⟩
          simp only [Handler.start, Handler.run, runOnReceiver, runCopied] at unused ⊢
          cases copied : one.heap.copyOut object with
          | error error => exact ⟨rfl, registries, rfl, agree⟩
          | ok made =>
            rcases made with ⟨cell, heap⟩
            rw [copied] at unused
            have started : ({ one with heap := heap } : World κ).AgreeExcept id handle
                { one with heap := heap, registries := registries } := ⟨registries, rfl, agree⟩
            exact Code.run_agrees entry started (target.body rest) (.onReceiver cell) unused
        | _ => exact ⟨rfl, agree⟩

/-! ### Closures that agree -/

/-- Registries that answer alike for the handles among some arguments decode them alike. -/
theorem accept_congr {left right : Registry κ} {slot : MarshalSlot κ} {raw : RawValue}
    (alike : ∀ type address, slot.type = .object type → raw = .pointer address →
      left.resolve address = right.resolve address) (memory : Memory) (heap : Heap κ) :
    accept (some left) memory slot raw heap = accept (some right) memory slot raw heap := by
  rcases slot with ⟨type, byHandle⟩
  cases type with
  | object type =>
    cases raw with
    | pointer address =>
      simp only [accept, addressOf, liftM, monadLift, MonadLift.monadLift, Except.mapError, bind,
        Except.bind, alike type address rfl rfl]
    | _ => rfl
  | _ => rfl

theorem acceptEach_congr {left right : Registry κ} {memory : Memory} (slots : List (MarshalSlot κ))
    (raws : List RawValue) (heap : Heap κ)
    (alike : ∀ one ∈ slots.zip raws, ∀ type address, one.1.type = .object type →
      one.2 = .pointer address → left.resolve address = right.resolve address) :
    acceptEach (some left) memory slots raws heap =
      acceptEach (some right) memory slots raws heap := by
  induction slots generalizing raws heap with
  | nil => rfl
  | cons slot slots ih =>
    cases raws with
    | nil => rfl
    | cons raw raws =>
      rw [List.zip_cons_cons, List.forall_mem_cons] at alike
      simp only [acceptEach, accept_congr alike.1]
      refine bind_congr fun decoded => ?_
      rw [ih _ _ alike.2]

/-- A call that does not use a handle decodes its arguments alike. -/
theorem ClosureCall.accepted_agrees {call : ClosureCall κ}
    (agree : call.world.AgreeExcept id handle other)
    (unused : ¬ (Event.entered call).Uses id handle) :
    { call with world := other }.accepted = call.accepted := by
  have alike (k : Nat) (same : call.closure.registry = some k) :
      ∀ one ∈ call.closure.plan.parameters.zip call.args, ∀ type address,
        one.1.type = .object type → one.2 = .pointer address →
          (other.registry k).resolve address = (call.world.registry k).resolve address := by
    intro one passed type address declared sent
    refine (agree.resolve ?_).symm
    rintro ⟨rfl, rfl⟩
    exact unused ⟨same, one, passed, ⟨type, declared⟩, sent⟩
  rcases agree with ⟨registries, rfl, agree⟩
  simp only [accepted, acceptAll, args] at alike ⊢
  cases named : call.closure.registry with
  | none => rfl
  | some k =>
    simp only [Option.map_some]
    rw [acceptEach_congr _ _ _ (alike k named)]
    rfl

theorem noteReturned_agrees (agree : one.AgreeExcept id handle other) (address text : UInt64) :
    (one.noteReturned address text).AgreeExcept id handle (other.noteReturned address text) := by
  rcases agree with ⟨registries, rfl, agree⟩
  simp only [World.noteReturned]
  cases World.codeIndex? address <;> exact ⟨registries, rfl, agree⟩

/-- Results are encoded alike. -/
theorem Closure.give_agrees (agree : one.AgreeExcept id handle other) (closure : Closure κ)
    (address : UInt64) (value : Value κ) :
    Agree id handle (closure.give address value one) (closure.give address value other) := by
  have issued (k : Nat) (object : HostObject κ) := agree.allocateHandle k object
  rcases agree with ⟨registries, rfl, agree⟩
  have copied (bytes : List UInt8) : (one.allocateCString bytes).2.AgreeExcept id handle
      (World.allocateCString { one with registries := registries } bytes).2 :=
    ⟨registries, rfl, agree⟩
  unfold Closure.give
  cases closure.plan.result.type with
  | string =>
    cases value with
    | string text =>
      dsimp only
      cases cBytes text with
      | error error => exact ⟨rfl, registries, rfl, agree⟩
      | ok bytes => exact ⟨rfl, noteReturned_agrees (copied bytes) _ _⟩
    | _ => exact ⟨rfl, registries, rfl, agree⟩
  | stringBuffer =>
    cases value with
    | stringBuffer buffer =>
      dsimp only
      cases cBytes (one.heap.text buffer) with
      | error error => exact ⟨rfl, registries, rfl, agree⟩
      | ok bytes => exact ⟨rfl, noteReturned_agrees (copied bytes) _ _⟩
    | _ => exact ⟨rfl, registries, rfl, agree⟩
  | object type =>
    cases value with
    | object object =>
      dsimp only
      cases object.expectType type with
      | error error => exact ⟨rfl, registries, rfl, agree⟩
      | ok fits =>
        cases closure.registry with
        | none => exact ⟨rfl, registries, rfl, agree⟩
        | some k =>
          obtain ⟨given, left⟩ := issued k object
          exact ⟨congrArg (fun handle => Except.ok (RawValue.pointer handle)) given, left⟩
    | _ => exact ⟨rfl, registries, rfl, agree⟩
  | _ => exact ⟨rfl, registries, rfl, agree⟩

theorem ClosureCall.finish_agrees (call : ClosureCall κ) (writeBacks : List WriteBack)
    {ran rerun : Outcome (Value κ) × World κ} (agree : Agree id handle ran rerun) :
    Agree id handle (call.finish writeBacks ran) (call.finish writeBacks rerun) := by
  rcases ran with ⟨outcome, left⟩
  rcases rerun with ⟨_, _⟩
  rcases agree with ⟨rfl, registries, rfl, agree⟩
  cases outcome with
  | panicked message => exact ⟨rfl, registries, rfl, agree⟩
  | returned result =>
    cases result with
    | error error => exact ⟨rfl, registries, rfl, agree⟩
    | ok value =>
      have written : (applyWriteBacks writeBacks left).AgreeExcept id handle
          (applyWriteBacks writeBacks { left with registries := registries }) :=
        ⟨registries, rfl, agree⟩
      obtain ⟨raw, rest⟩ := call.closure.give_agrees written call.address value
      exact ⟨congrArg Outcome.returned raw, rest⟩

/-- A call that does not use a handle ends alike, whether the handle is live or not. -/
theorem ClosureCall.dispatched_agrees {call : ClosureCall κ}
    (entry : EntryAgrees id handle (enterAt call.depth) inner)
    (agree : call.world.AgreeExcept id handle other)
    (unused : Unused id handle (call.journal inner)) :
    Agree id handle call.dispatched { call with world := other }.dispatched := by
  rw [journal, unused_append] at unused
  rcases unused with ⟨unused, -⟩
  have entered := unused _ List.mem_cons_self
  have unusedInside : Unused id handle (call.insideJournal inner) :=
    fun event found => unused event (List.mem_cons_of_mem _ found)
  rw [dispatched_eq, dispatched_eq, accepted_agrees agree entered]
  rw [insideJournal] at unusedInside
  rcases agree with ⟨registries, rfl, agree⟩
  cases decoded : call.accepted with
  | error error => exact ⟨rfl, registries, rfl, agree⟩
  | ok decoded' =>
    rcases decoded' with ⟨args, writeBacks, heap⟩
    rw [decoded] at unusedInside
    have started : ({ call.world with heap := heap } : World κ).AgreeExcept id handle
        { call.world with heap := heap, registries := registries } := ⟨registries, rfl, agree⟩
    have ran := Handler.run_agrees entry started call.closure.handler args unusedInside
    exact call.finish_agrees writeBacks ran

theorem World.AgreeExcept.raise (agree : one.AgreeExcept id handle other) (error : Error) :
    (one.raise error).AgreeExcept id handle (other.raise error) := by
  rcases agree with ⟨registries, rfl, agree⟩
  exact ⟨registries, rfl, agree⟩

theorem Closure.enter_agrees {depth : Nat} (entry : EntryAgrees id handle (enterAt depth) inner)
    (agree : one.AgreeExcept id handle other) (closure : Closure κ) (address : UInt64)
    (raws : List RawValue)
    (unused : Unused id handle (ClosureCall.journal inner ⟨depth, address, closure, raws, one⟩)) :
    Agree id handle (closure.enter (enterAt depth) address raws one)
      (closure.enter (enterAt depth) address raws other) := by
  have dispatched := ClosureCall.dispatched_agrees entry agree unused
  revert dispatched
  simp only [ClosureCall.dispatched, ClosureCall.args, Closure.enter]
  generalize closure.dispatch (enterAt depth) address
    (deliver (closure.type.signature.parameters.map HostType.abi) raws) one = first
  generalize closure.dispatch (enterAt depth) address
    (deliver (closure.type.signature.parameters.map HostType.abi) raws) other = second
  intro dispatched
  rcases first with ⟨outcome, left⟩
  rcases second with ⟨_, rest⟩
  rcases dispatched with ⟨rfl, agree⟩
  cases outcome with
  | panicked message => exact ⟨rfl, agree.raise _⟩
  | returned result =>
    cases result with
    | error error => exact ⟨rfl, agree.raise _⟩
    | ok raw =>
      dsimp only
      split
      · exact ⟨rfl, agree⟩
      · exact ⟨rfl, agree.raise _⟩

end Calls

/-- Calls of native addresses that do not use a handle end alike, however deep they nest. -/
theorem enterAt_agrees (id : Nat) (handle : UInt64) (depth : Nat) :
    EntryAgrees id handle (enterAt depth) (enterJournal depth : EntryJournal κ) := by
  induction depth with
  | zero =>
    intro address result raws one other agree _
    exact ⟨rfl, agree.raise _⟩
  | succ depth ih =>
    intro address result raws one other agree unused
    have code : other.codeAt? address = one.codeAt? address := by
      rcases agree with ⟨registries, rfl, -⟩
      rfl
    simp only [enterJournal] at unused
    simp only [enterAt, code]
    cases found : one.codeAt? address with
    | none => exact ⟨rfl, agree⟩
    | some native =>
      rw [found] at unused
      cases native with
      | foreign parameters run =>
        rcases agree with ⟨registries, rfl, agree⟩
        exact ⟨rfl, registries, rfl, agree⟩
      | closure closure =>
        obtain ⟨raw, left⟩ := closure.enter_agrees ih agree address raws unused
        exact ⟨congrArg (RawValue.readResult result) raw, left⟩

/-! ### Members whose receiver is released -/

/-- Host code comes to a later point of the same run. -/
inductive Code.Reaches (enter : Entry κ) :
    Code κ → Frame → World κ → Code κ → Frame → World κ → Prop
  | here {code : Code κ} {frame : Frame} {world : World κ} :
      Reaches enter code frame world code frame world
  | next {code rest later : Code κ} {frame frame' frame'' : Frame} {world world' world'' : World κ}
      (stepped : code.step enter frame world = .rest rest frame' world')
      (reached : Reaches enter rest frame' world' later frame'' world'') :
      Reaches enter code frame world later frame'' world''

/-- A run ends like the run from any point that it comes to. -/
theorem Code.Reaches.run_eq {enter : Entry κ} {code later : Code κ} {frame frame' : Frame}
    {world world' : World κ} (reached : Reaches enter code frame world later frame' world') :
    code.run enter frame world = later.run enter frame' world' := by
  induction reached with
  | here => rfl
  | next stepped _ ih =>
    rw [Code.run_eq_step, stepped]
    exact ih

/-- A process in which a handle stands for an object again, as before it was released. -/
def World.unreleased (world : World κ) (id : Nat) (handle : UInt64) (object : HostObject κ) :
    World κ :=
  world.setRegistry id
    ⟨(handle, object) :: (world.registry id).without handle, (world.registry id).next⟩

theorem World.unreleased_agrees (world : World κ) (id : Nat) (handle : UInt64)
    (object : HostObject κ) : world.AgreeExcept id handle (world.unreleased id handle object) := by
  have agree : (world.setRegistry id (world.registry id)).AgreeExcept id handle
      (world.unreleased id handle object) :=
    (World.AgreeExcept.refl world).setRegistry id (fun apart => absurd rfl apart) fun _ =>
      ⟨rfl, by simp [Registry.without]⟩
  rw [World.setRegistry_registry] at agree
  exact agree

/-- A member goes on as if a handle had not been released, at any point of its run from which on the
handle is not used any more; the handle of its own receiver is a case of this. -/
theorem ClosureCall.outlives_handle {call : ClosureCall κ} {args : List (Value κ)}
    {writeBacks : List WriteBack} {heap : Heap κ} {code later : Code κ} {frame frame' : Frame}
    {begun now : World κ} (id : Nat) (handle : UInt64) (object : HostObject κ)
    (accepted : call.accepted = .ok (args, writeBacks, heap))
    (started : call.closure.handler.start args { call.world with heap := heap } =
      some (code, frame, begun))
    (reached : code.Reaches (enterAt call.depth) frame begun later frame' now)
    (unused : Unused id handle
      (later.journal (enterAt call.depth) (enterJournal call.depth) frame' now)) :
    (∃ left, call.inside = some
      ((later.run (enterAt call.depth) frame' (now.unreleased id handle object)).1, left)) ∧
      Agree id handle (later.run (enterAt call.depth) frame' now)
        (later.run (enterAt call.depth) frame' (now.unreleased id handle object)) := by
  have agree := Code.run_agrees (enterAt_agrees id handle call.depth)
    (now.unreleased_agrees id handle object) later frame' unused
  refine ⟨⟨(call.closure.handler.run (enterAt call.depth) args
    { call.world with heap := heap }).2, ?_⟩, agree⟩
  have ran :=
    call.closure.handler.run_start (enterAt call.depth) args { call.world with heap := heap }
  rw [started] at ran
  have outcome := ran.2.1
  rw [reached.run_eq, agree.1] at outcome
  rw [inside, accepted, ← outcome]

end NativeBridge
