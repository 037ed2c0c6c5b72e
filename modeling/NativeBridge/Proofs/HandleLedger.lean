/-
Module: NativeBridge.Proofs.HandleLedger
Purpose: A registry holds exactly the handles that a journal issued and did not release.
Main exports: Registry.replay, Registry.Records, ledger_law, Holds, Registry.resolve_iff_holds,
  Registry.issued_once
-/
import Mathlib.Data.List.Induction
import NativeBridge.Proofs.JournalLaw

namespace NativeBridge

variable {κ : Type}

/-!
A journal says what was done to each registry, and with what registry each call began and ended.  It
records a registry when every event fits the registry as the events before have left it.  Runs
record all registries.  From there on this is a matter of one registry and a list: handles are given
out in rising order, so that up to the last number none is given out twice, and a handle stands for
the object it was issued for until it is released.
-/

/-! ### Single registries -/

namespace Registry

theorem lookup_cons_ne {handle one : UInt64} (other : handle ≠ one) (object : HostObject κ)
    (rest : List (UInt64 × HostObject κ)) :
    ((one, object) :: rest).lookup handle = rest.lookup handle := by
  have differ : (handle == one) = false := beq_eq_false_iff_ne.mpr other
  rw [List.lookup_cons, differ]

/-- The handles that are left stand for what they stood for. -/
theorem lookup_without (registry : Registry κ) (gone handle : UInt64) :
    (registry.without gone).lookup handle =
      if handle = gone then none else registry.slots.lookup handle := by
  simp only [without]
  induction registry.slots with
  | nil => simp
  | cons slot rest ih =>
    rcases slot with ⟨one, object⟩
    by_cases same : handle = one
    · subst same
      by_cases dropped : handle = gone
      · simpa [dropped] using ih
      · simp [dropped]
    · by_cases dropped : one = gone
      · subst dropped
        simpa [same, lookup_cons_ne same] using ih
      · simpa [dropped, lookup_cons_ne same] using ih

theorem resolve_eq_ok {registry : Registry κ} {handle : UInt64} {object : HostObject κ} :
    registry.resolve handle = .ok object ↔ registry.slots.lookup handle = some object := by
  simp only [resolve]
  cases registry.slots.lookup handle <;> simp

/-- A handle is live when it stands for an object. -/
theorem isLive_iff_resolve {registry : Registry κ} {handle : UInt64} :
    registry.isLive handle = true ↔ ∃ object, registry.resolve handle = .ok object := by
  simp only [resolve_eq_ok, isLive]
  induction registry.slots with
  | nil => simp
  | cons slot rest ih =>
    rcases slot with ⟨one, object⟩
    by_cases same : handle = one
    · simp [same]
    · have other : ¬ one = handle := fun equal => same equal.symm
      simpa [other, lookup_cons_ne same] using ih

/-- A handle that is not live is reported. -/
theorem resolve_of_dead {registry : Registry κ} {handle : UInt64}
    (dead : registry.isLive handle = false) :
    registry.resolve handle = .error (.invalidHandle handle) := by
  cases found : registry.resolve handle with
  | ok object =>
    have live := isLive_iff_resolve.mpr ⟨object, found⟩
    rw [dead] at live
    cases live
  | error error =>
    rw [resolve] at found
    split at found
    · cases found
    · exact found.symm

/-- What a registry answers after giving out a handle. -/
theorem resolve_allocate (registry : Registry κ) (fresh object : HostObject κ) (handle : UInt64) :
    (registry.allocate fresh).2.resolve handle = .ok object ↔
      if handle = registry.next then fresh = object else registry.resolve handle = .ok object := by
  rw [resolve_eq_ok, resolve_eq_ok]
  by_cases same : handle = registry.next
  · simp [allocate, same]
  · simp [allocate, lookup_cons_ne same, same, lookup_without]

/-- What a registry answers after taking a handle back. -/
theorem resolve_drop (registry : Registry κ) (gone handle : UInt64) (object : HostObject κ) :
    (Registry.mk (registry.without gone) registry.next).resolve handle = .ok object ↔
      handle ≠ gone ∧ registry.resolve handle = .ok object := by
  rw [resolve_eq_ok, resolve_eq_ok, lookup_without]
  by_cases same : handle = gone <;> simp [same]

end Registry

/-! ### Journals and registries -/

variable [HostProgram κ]

namespace World

/-- A process with a registry under an id. -/
def HasRegistry (world : World κ) (id : Nat) : Prop :=
  id < world.registries.size

instance (world : World κ) (id : Nat) : Decidable (world.HasRegistry id) :=
  inferInstanceAs (Decidable (id < world.registries.size))

theorem hasRegistry_setRegistry (world : World κ) (id one : Nat) (registry : Registry κ) :
    (world.setRegistry one registry).HasRegistry id ↔ world.HasRegistry id := by
  simp [HasRegistry, setRegistry]

theorem registry_setRegistry (world : World κ) (id one : Nat) (registry : Registry κ) :
    (world.setRegistry one registry).registry id =
      if one = id ∧ world.HasRegistry id then registry else world.registry id := by
  by_cases bound : id < world.registries.size
  · by_cases same : one = id
    · subst same
      simp [World.registry, setRegistry, Array.getD, HasRegistry, bound]
    · simp [World.registry, setRegistry, Array.getD, bound, same]
  · simp [World.registry, setRegistry, Array.getD, HasRegistry, bound]

theorem setRegistry_registry (world : World κ) (id : Nat) :
    world.setRegistry id (world.registry id) = world := by
  have same : world.registries.setIfInBounds id (world.registries.getD id .empty) =
      world.registries := by
    apply Array.ext_getElem?
    intro k
    rw [Array.getElem?_setIfInBounds]
    split
    · next equal =>
      subst equal
      split
      · next bound => simp [bound]
      · next bound => simp [Array.getElem?_eq_none (Nat.le_of_not_lt bound)]
    · rfl
  rw [setRegistry, World.registry, same]

theorem registry_congr {before after : World κ} (same : after.registries = before.registries)
    (id : Nat) : after.registry id = before.registry id := by
  rw [World.registry, same, World.registry]

end World

namespace Event

/-- What an event does to a registry. -/
def applyTo (id : Nat) (registry : Registry κ) : Event κ → Registry κ
  | issued one _ object => if one = id then (registry.allocate object).2 else registry
  | released one handle =>
      if one = id then { registry with slots := registry.without handle } else registry
  | _ => registry

/-- What an event says about a registry that it meets. -/
def Fits (id : Nat) (registry : Registry κ) : Event κ → Prop
  | issued one handle _ => one = id → handle = registry.next
  | released one handle => one = id → registry.isLive handle = true
  | entered call => call.world.HasRegistry id ∧ call.world.registry id = registry
  | ended call => call.left.HasRegistry id ∧ call.left.registry id = registry
  | answered call => call.after.HasRegistry id ∧ call.after.registry id = registry
  | raised _ _ | lookedUp _ _ => True

@[simp]
theorem applyTo_deeper (id : Nat) (registry : Registry κ) (event : Event κ) :
    event.deeper.applyTo id registry = event.applyTo id registry := by
  cases event <;> rfl

@[simp]
theorem fits_deeper (id : Nat) (registry : Registry κ) (event : Event κ) :
    event.deeper.Fits id registry ↔ event.Fits id registry := by
  cases event <;> rfl

end Event

namespace Registry

/-- A registry after the events of a journal. -/
def replay (id : Nat) (registry : Registry κ) (events : List (Event κ)) : Registry κ :=
  events.foldl (fun registry event => event.applyTo id registry) registry

/-- Every event of a journal fits the registry that the events before it have left. -/
def Records (id : Nat) : Registry κ → List (Event κ) → Prop
  | _, [] => True
  | registry, event :: rest =>
      event.Fits id registry ∧ Records id (event.applyTo id registry) rest

theorem replay_append (id : Nat) (registry : Registry κ) (events more : List (Event κ)) :
    registry.replay id (events ++ more) = (registry.replay id events).replay id more :=
  List.foldl_append

theorem records_append (id : Nat) (registry : Registry κ) (events more : List (Event κ)) :
    registry.Records id (events ++ more) ↔
      registry.Records id events ∧ (registry.replay id events).Records id more := by
  induction events generalizing registry with
  | nil => simp [Records, replay]
  | cons event rest ih =>
    simp only [List.cons_append, Records, ih, and_assoc]
    rfl

theorem replay_deeper (id : Nat) (registry : Registry κ) (events : List (Event κ)) :
    registry.replay id (events.map Event.deeper) = registry.replay id events := by
  simp [replay, List.foldl_map]

theorem records_deeper (id : Nat) (registry : Registry κ) (events : List (Event κ)) :
    registry.Records id (events.map Event.deeper) ↔ registry.Records id events := by
  induction events generalizing registry with
  | nil => rfl
  | cons event rest ih => simp [Records, ih]

end Registry

/-- A run keeps a registry, its journal records it, and what the journal did to it is what the run
has done. -/
structure Recorded (id : Nat) (before : World κ) (events : List (Event κ)) (after : World κ) :
    Prop where
  has : after.HasRegistry id ↔ before.HasRegistry id
  follows : before.HasRegistry id →
    (before.registry id).Records id events ∧
      after.registry id = (before.registry id).replay id events

namespace Recorded

variable {id : Nat} {before after : World κ}

/-- Nothing happened to a registry of which a journal says nothing. -/
theorem of_same (same : after.registries = before.registries) : Recorded id before [] after := by
  refine ⟨?_, fun _ => ⟨trivial, World.registry_congr same id⟩⟩
  rw [World.HasRegistry, same, World.HasRegistry]

/-- One event that says what became of a registry. -/
theorem of_event {event : Event κ}
    (has : after.HasRegistry id ↔ before.HasRegistry id)
    (fits : before.HasRegistry id → event.Fits id (before.registry id))
    (moved : before.HasRegistry id → after.registry id = event.applyTo id (before.registry id)) :
    Recorded id before [event] after :=
  ⟨has, fun there => ⟨⟨fits there, trivial⟩, moved there⟩⟩

theorem append {middle last : World κ} {events more : List (Event κ)}
    (one : Recorded id before events middle) (two : Recorded id middle more last) :
    Recorded id before (events ++ more) last := by
  refine ⟨two.has.trans one.has, fun has => ?_⟩
  rcases one.follows has with ⟨recorded, moved⟩
  obtain ⟨later, last⟩ := two.follows (one.has.mpr has)
  rw [Registry.records_append, Registry.replay_append, ← moved]
  exact ⟨⟨recorded, later⟩, last⟩

/-- A handle that is given out is on record. -/
theorem issued (world : World κ) (registry : Nat) (object : HostObject κ) :
    Recorded id world [.issued registry (world.registry registry).next object]
      (world.allocateHandle registry object).2 := by
  refine of_event ?has ?fits ?moved
  case has => exact World.hasRegistry_setRegistry ..
  case fits =>
    intro _ same
    rw [same]
  case moved =>
    intro has
    simp only [World.allocateHandle, World.registry_setRegistry, Event.applyTo]
    by_cases same : registry = id
    · subst same
      simp [has]
    · simp [same]

/-- A live handle that is taken back is on record. -/
theorem released (world : World κ) (registry : Nat) (handle : UInt64)
    (live : (world.registry registry).isLive handle = true) :
    Recorded id world [.released registry handle] (world.releaseHandle registry handle).2 := by
  simp only [World.releaseHandle, Registry.release, live, if_true]
  refine of_event ?has ?fits ?moved
  case has => exact World.hasRegistry_setRegistry ..
  case fits =>
    intro _ same
    rwa [← same]
  case moved =>
    intro has
    simp only [World.registry_setRegistry, Event.applyTo]
    by_cases same : registry = id
    · subst same
      simp [has]
    · simp [same]

/-- The end of a call is on record. -/
theorem closing (call : ClosureCall κ) : Recorded id call.left call.closing call.after := by
  have raised : call.after.registries = call.dispatched.2.registries := by
    rw [ClosureCall.after]
    cases call.fault? <;> rfl
  have parked : Recorded id call.dispatched.2 (call.fault?.map (.raised 0)).toList call.after := by
    cases call.fault? with
    | none => exact of_same raised
    | some fault =>
      refine of_event ?_ (fun _ => trivial) fun _ => World.registry_congr raised id
      rw [World.HasRegistry, World.HasRegistry, raised]
  have given : Recorded id call.left
      (call.handle?.map fun handed => .issued handed.1 handed.2.1 handed.2.2).toList
      call.dispatched.2 := by
    have effect := call.dispatched_effect
    cases handle : call.handle? with
    | none =>
      rw [handle] at effect
      exact of_same effect.registries
    | some handed =>
      rcases handed with ⟨registry, handle, object⟩
      rw [handle] at effect
      rcases effect with ⟨-, same, quiet⟩
      subst same
      simpa using (issued call.left registry object).append (of_same quiet.registries)
  have begun : Recorded id call.left [.ended call] call.left :=
    of_event .rfl (fun has => ⟨has, rfl⟩) fun _ => rfl
  have ended : Recorded id call.after [.answered call] call.after :=
    of_event .rfl (fun has => ⟨has, rfl⟩) fun _ => rfl
  have whole := ((begun.append given).append parked).append ended
  simpa [ClosureCall.closing] using whole

end Recorded

/-- Runs record every registry. -/
theorem ledger_law (id : Nat) :
    JournalLaw (Recorded id : World κ → List (Event κ) → World κ → Prop) where
  quiet quiet := .of_same quiet.registries
  append one two := one.append two
  collected inside := by
    refine ⟨inside.has, fun has => ?_⟩
    rw [Registry.records_deeper, Registry.replay_deeper]
    exact inside.follows has
  issued world registry object := .issued world registry object
  released world registry handle live := .released world registry handle live
  lookedUp world registry handle := .of_event .rfl (fun _ => trivial) fun _ => rfl
  exceeded world := .of_event .rfl (fun _ => trivial) fun _ => rfl
  entered call := .of_event .rfl (fun has => ⟨has, rfl⟩) fun _ => rfl
  closing call := .closing call

/-! ### Issued and not released -/

/-- Whether an event gave out a handle of a registry. -/
def Event.isIssue (id : Nat) : Event κ → Bool
  | issued one _ _ => one == id
  | _ => false

/-- How many handles of a registry a journal gave out. -/
def issues (id : Nat) (events : List (Event κ)) : Nat :=
  events.countP (Event.isIssue id)

/-- The number of handles there are. -/
def handleSupply : Nat := UInt64.size - 1

/-- A journal gave a handle of a registry out for an object and has not taken it back since. -/
def Holds (id : Nat) (events : List (Event κ)) (handle : UInt64) (object : HostObject κ) : Prop :=
  ∃ before after, events = before ++ .issued id handle object :: after ∧
    Event.released id handle ∉ after

theorem issues_append (id : Nat) (events more : List (Event κ)) :
    issues id (events ++ more) = issues id events + issues id more :=
  List.countP_append

/-- One event more: a handle is held if it was just issued, or held before and not released now. -/
theorem holds_snoc {id : Nat} {events : List (Event κ)} {event : Event κ} {handle : UInt64}
    {object : HostObject κ} :
    Holds id (events ++ [event]) handle object ↔
      event = .issued id handle object ∨
        Holds id events handle object ∧ event ≠ .released id handle := by
  constructor
  · rintro ⟨before, after, same, kept⟩
    rcases List.eq_nil_or_concat after with rfl | ⟨rest, final, rfl⟩
    · left
      have same : events ++ [event] = before ++ [.issued id handle object] := same
      obtain ⟨-, last⟩ := List.append_inj' same rfl
      simpa using last
    · right
      rw [List.concat_eq_append, ← List.cons_append, ← List.append_assoc] at same
      obtain ⟨front, last⟩ := List.append_inj' same rfl
      obtain rfl : event = final := by simpa using last
      refine ⟨⟨before, rest, front, fun found => kept ?_⟩, fun gone => kept ?_⟩
      · simp [found]
      · simp [gone]
  · rintro (rfl | ⟨⟨before, after, rfl, kept⟩, other⟩)
    · exact ⟨events, [], rfl, List.not_mem_nil⟩
    · refine ⟨before, after ++ [event], by simp, fun found => ?_⟩
      rcases List.mem_append.mp found with found | found
      · exact kept found
      · exact other (List.mem_singleton.mp found).symm

namespace Registry

variable {id : Nat} {events : List (Event κ)}

theorem replay_snoc (id : Nat) (registry : Registry κ) (events : List (Event κ)) (event : Event κ) :
    registry.replay id (events ++ [event]) = event.applyTo id (registry.replay id events) :=
  replay_append id registry events [event]

theorem records_snoc (id : Nat) (registry : Registry κ) (events : List (Event κ))
    (event : Event κ) :
    registry.Records id (events ++ [event]) ↔
      registry.Records id events ∧ event.Fits id (registry.replay id events) := by
  rw [records_append]
  simp [Records]

/-- The number after one, before the last. -/
theorem toNat_following {handle : UInt64} {count : Nat} (number : handle.toNat = count)
    (room : count < handleSupply) : (following handle).toNat = count + 1 := by
  have below : count + 1 < UInt64.size := by
    simp only [handleSupply] at room
    omega
  have stepped : (handle + 1).toNat = count + 1 := by
    rw [UInt64.toNat_add, UInt64.toNat_one, number]
    exact Nat.mod_eq_of_lt below
  have positive : handle + 1 ≠ 0 := by
    intro zero
    rw [zero] at stepped
    cases stepped
  rw [following, if_neg positive, stepped]

/-- While there are numbers left, the next one is one more than the handles given out so far. -/
theorem toNat_next (room : issues id events < handleSupply) :
    ((Registry.empty : Registry κ).replay id events).next.toNat = issues id events + 1 := by
  induction events using List.reverseRecOn with
  | nil => rfl
  | append_singleton events event ih =>
    rw [issues_append] at room ⊢
    have earlier := ih (by omega)
    have unmoved (none : event.isIssue id = false)
        (same : (event.applyTo id (Registry.empty.replay id events)).next =
          (Registry.empty.replay id events : Registry κ).next) :
        (Registry.empty.replay id (events ++ [event]) : Registry κ).next.toNat =
          issues id events + issues id [event] + 1 := by
      rw [replay_snoc, same, earlier]
      simp [issues, none]
    cases event with
    | issued one handle object =>
      by_cases same : one = id
      · subst same
        have single : issues one [Event.issued one handle object] = 1 := by
          simp [issues, Event.isIssue]
        rw [single] at room ⊢
        rw [replay_snoc, Event.applyTo, if_pos rfl]
        exact toNat_following earlier room
      · exact unmoved (by simpa [Event.isIssue] using same) (by simp [Event.applyTo, same])
    | released one handle =>
      apply unmoved rfl
      simp only [Event.applyTo]
      split <;> rfl
    | _ => exact unmoved rfl rfl

/-- As long as there are numbers left, a handle is given out under the number of handles given out
before it and one. -/
theorem toNat_issued {before after : List (Event κ)} {handle : UInt64} {object : HostObject κ}
    (recorded :
      (Registry.empty : Registry κ).Records id (before ++ .issued id handle object :: after))
    (room : issues id before < handleSupply) : handle.toNat = issues id before + 1 := by
  rw [records_append] at recorded
  have next : handle = (Registry.empty.replay id before : Registry κ).next := recorded.2.1 rfl
  rw [next]
  exact toNat_next room

theorem issues_before_issue {before after : List (Event κ)} {handle : UInt64}
    {object : HostObject κ} :
    issues id before < issues id (before ++ .issued id handle object :: after) := by
  rw [issues_append]
  have counted : 0 < issues id (.issued id handle object :: after) := by
    simp [issues, Event.isIssue]
  omega

/-- A handle that is given out is not zero and has not been given out before. -/
theorem issued_once {before after : List (Event κ)} {handle : UInt64} {object : HostObject κ}
    (recorded :
      (Registry.empty : Registry κ).Records id (before ++ .issued id handle object :: after))
    (supply : issues id (before ++ .issued id handle object :: after) ≤ handleSupply) :
    handle ≠ 0 ∧ ∀ other, Event.issued id handle other ∉ before := by
  have room : issues id before < handleSupply :=
    Nat.lt_of_lt_of_le issues_before_issue supply
  have number := toNat_issued recorded room
  constructor
  · intro zero
    rw [zero] at number
    cases number
  · intro other found
    rcases List.append_of_mem found with ⟨first, second, rfl⟩
    have fewer : issues id first < issues id (first ++ .issued id handle other :: second) :=
      issues_before_issue
    have recordedBefore := (records_append id _ _ _).mp recorded |>.1
    have earlier := toNat_issued recordedBefore (Nat.lt_trans fewer room)
    omega

/-- A registry that a journal records from the start holds exactly what the journal issued and did
not release, as long as no more handles were given out than there are. -/
theorem resolve_iff_holds (recorded : (Registry.empty : Registry κ).Records id events)
    (supply : issues id events ≤ handleSupply) (handle : UInt64) (object : HostObject κ) :
    ((Registry.empty : Registry κ).replay id events).resolve handle = .ok object ↔
      Holds id events handle object := by
  -- Whether a handle is held is decided by the last event that names it.
  induction events using List.reverseRecOn with
  | nil =>
    constructor
    · intro found
      cases found
    · rintro ⟨before, after, same, -⟩
      simp at same
  | append_singleton events event ih =>
    have fits := (records_snoc id _ _ _).mp recorded
    have held := ih fits.1 (by rw [issues_append] at supply; omega)
    rw [replay_snoc, holds_snoc]
    have unmoved (same : event.applyTo id (Registry.empty.replay id events) =
          (Registry.empty.replay id events : Registry κ))
        (issue : event ≠ .issued id handle object) (release : event ≠ .released id handle) :
        (event.applyTo id (Registry.empty.replay id events)).resolve handle = .ok object ↔
          event = .issued id handle object ∨
            Holds id events handle object ∧ event ≠ .released id handle := by
      rw [same, held]
      simp [issue, release]
    cases event with
    | issued one fresh given =>
      by_cases same : one = id
      · subst same
        have next : fresh = (Registry.empty.replay one events : Registry κ).next := fits.2 rfl
        have never := (issued_once recorded supply).2
        rw [Event.applyTo, if_pos rfl, resolve_allocate, ← next, held]
        by_cases equal : handle = fresh
        · subst equal
          have unheld : ¬ Holds one events handle object := by
            rintro ⟨before, after, rfl, -⟩
            exact never object (by simp)
          simp [unheld]
        · have other : fresh ≠ handle := fun swapped => equal swapped.symm
          simp [equal, other]
      · exact unmoved (by simp [Event.applyTo, same]) (by simp [same]) (by simp)
    | released one gone =>
      by_cases same : one = id
      · subst same
        rw [Event.applyTo, if_pos rfl, resolve_drop, held]
        have swap : handle ≠ gone ↔ gone ≠ handle := ne_comm
        simp [swap, and_comm]
      · exact unmoved (by simp [Event.applyTo, same]) (by simp) (by simp [same])
    | _ => exact unmoved rfl (by simp) (by simp)

end Registry

end NativeBridge
