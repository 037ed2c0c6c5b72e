/-
Module: NativeBridge.Proofs.StoredValues
Purpose: The state behind a handle of a value class stays what it was when the handle was given out.
Main exports: Moment.makes, Moment.issues, Moment.Respects, Noted, KeepsStates, Sound, World.Spares,
  Sound.spared, Sound.make, Sound.issue, Sound.release
-/
import NativeBridge.Proofs.BorrowBalance
import NativeBridge.Proofs.Moments

namespace NativeBridge

variable {κ : Type} [HostProgram κ]

/-!
Three kinds of instances are changed by host code: those it has borrowed for writing, the live
receiver of a member of a reference class, and the private copy that a member of a value class runs
on.  No private copy ever gets a handle, and an instance that has one as a value is never the live
receiver of anything, because an object is used only as what it was made as.  So a value with a
handle can be changed by an exclusive borrow only, and host code that respects stored values takes
none.
-/

/-! ### What a moment does -/

namespace Code

/-- The object that the next request makes. -/
def makes : Code κ → World κ → Option (HostObject κ)
  | .newObject type _ _, world => some ⟨world.heap.cells.size, type⟩
  | .marshal (.copied key) _ _, world => some ⟨world.heap.cells.size, ⟨key, .value⟩⟩
  | _, _ => none

/-- The handle that the next request gets for an object, with its registry. -/
def issues : Code κ → World κ → Option (Nat × UInt64 × HostObject κ)
  | .allocateHandle registry object _, world =>
      some (registry, (world.registry registry).next, object)
  | _, _ => none

/-- The handle that the next request gives back, with its registry. -/
def releases : Code κ → Option (Nat × UInt64)
  | .releaseHandle registry handle _ => some (registry, handle)
  | _ => none

/-- The instance that the next request borrows for writing. -/
def seizes : Code κ → World κ → Option Nat
  | .borrow object true _, world =>
      (world.heap.borrowExclusive? object.cell).map fun _ => object.cell
  | _, _ => none

theorem seizes_of_granted {frame frame' : Frame} {object : HostObject κ} {world : World κ}
    {heap : Heap κ} (granted : frame.borrow object.cell true world.heap = some (frame', heap))
    (next : Bool → Code κ) : (Code.borrow object true next).seizes world = some object.cell := by
  obtain ⟨taken, attempt, -⟩ := Option.map_eq_some_iff.mp granted
  have claimed : world.heap.borrowExclusive? object.cell = some taken := attempt
  simp [seizes, claimed]

end Code

namespace Moment

/-- The object made at a moment. -/
def makes : Moment κ → Option (HostObject κ)
  | working code _ world => code.makes world
  | _ => none

/-- The handle given out at a moment: to host code, or for the result of a call. -/
def issues : Moment κ → Option (Nat × UInt64 × HostObject κ)
  | working code _ world => code.issues world
  | left call => call.handle?
  | _ => none

/-- The handle given back at a moment. -/
def releases : Moment κ → Option (Nat × UInt64)
  | working code _ _ => code.releases
  | outside given _ => given
  | _ => none

/-- The instance that host code borrows for writing. -/
def seizes : Moment κ → Option Nat
  | working code _ world => code.seizes world
  | _ => none

/-- A handle is given out or given back. -/
def Touches (moment : Moment κ) (registry : Nat) (handle : UInt64) : Prop :=
  moment.releases = some (registry, handle) ∨
    ∃ object, moment.issues = some (registry, handle, object)

theorem untouched {moment : Moment κ} (unissued : moment.issues = none)
    (unreleased : moment.releases = none) (registry : Nat) (handle : UInt64) :
    ¬ moment.Touches registry handle := by
  rintro (gone | ⟨object, given⟩)
  · rw [unreleased] at gone
    cases gone
  · rw [unissued] at given
    cases given

end Moment

/-- All objects that were made in a trace. -/
def made (trace : List (Moment κ)) : List (HostObject κ) :=
  trace.filterMap Moment.makes

/-- Host code respects stored values: an object that gets a handle was made before, as the type it
has; a value is not being written to when it gets one; and no instance that has a handle as a value
is borrowed for writing. -/
structure Moment.Respects (past : List (Moment κ)) (moment : Moment κ) : Prop where
  known : ∀ registry handle object, moment.issues = some (registry, handle, object) →
    object ∈ made past
  unheld : ∀ registry handle object, moment.issues = some (registry, handle, object) →
    object.type.semantics = .value → moment.world.heap.isReadable object.cell = true
  unseized : ∀ cell, moment.seizes = some cell →
    ∀ registry handle object, (moment.world.registry registry).resolve handle = .ok object →
      object.type.semantics = .value → object.cell ≠ cell

/-- A moment that gives out no handle and borrows nothing for writing respects stored values. -/
theorem Moment.Respects.of_idle {past : List (Moment κ)} {moment : Moment κ}
    (unissued : moment.issues = none) (unseized : moment.seizes = none) :
    moment.Respects past where
  known registry handle object issued := by
    rw [unissued] at issued
    cases issued
  unheld registry handle object issued := by
    rw [unissued] at issued
    cases issued
  unseized cell seized := by
    rw [unseized] at seized
    cases seized

/-- The state an object had when a handle was given out for it, which was not given back since. -/
def Noted (trace : List (Moment κ)) (registry : Nat) (handle : UInt64) (object : HostObject κ)
    (state : HostProgram.State object.type.key) : Prop :=
  ∃ before moment after, trace = before ++ moment :: after ∧
    moment.issues = some (registry, handle, object) ∧
    moment.world.heap.stateAt? object.type.key object.cell = some state ∧
    ∀ later ∈ after, ¬ later.Touches registry handle

/-- Behind every handle of a value class is the state that was noted, and it can be read. -/
def KeepsStates (past : List (Moment κ)) (world : World κ) : Prop :=
  ∀ registry handle object, (world.registry registry).resolve handle = .ok object →
    object.type.semantics = .value →
      ∃ state, Noted past registry handle object state ∧
        world.heap.stateAt? object.type.key object.cell = some state ∧
        world.heap.isReadable object.cell = true

namespace Noted

variable {trace : List (Moment κ)} {registry : Nat} {handle : UInt64} {object : HostObject κ}
  {state : HostProgram.State object.type.key} {moment : Moment κ}

theorem later (noted : Noted trace registry handle object state)
    (untouched : ¬ moment.Touches registry handle) :
    Noted (trace ++ [moment]) registry handle object state := by
  obtain ⟨before, issue, after, rfl, issued, known, kept⟩ := noted
  refine ⟨before, issue, after ++ [moment], by simp, issued, known, ?_⟩
  intro later among
  rcases List.mem_append.mp among with among | among
  · exact kept later among
  · rw [List.mem_singleton.mp among]
    exact untouched

theorem now (issued : moment.issues = some (registry, handle, object))
    (known : moment.world.heap.stateAt? object.type.key object.cell = some state) :
    Noted (trace ++ [moment]) registry handle object state :=
  ⟨trace, moment, [], rfl, issued, known, List.forall_mem_nil _⟩

/-- No more than one state is noted for a handle: that of the latest time it was given out. -/
theorem unique {other : HostObject κ} {state' : HostProgram.State other.type.key}
    (one : Noted trace registry handle object state)
    (two : Noted trace registry handle other state') : object = other ∧ HEq state state' := by
  obtain ⟨before, issue, after, parted, issued, known, kept⟩ := one
  obtain ⟨before', issue', after', parted', issued', known', kept'⟩ := two
  rcases List.append_eq_append_iff.mp (parted.symm.trans parted') with
    ⟨front, -, behind⟩ | ⟨front, -, behind⟩
  · cases front with
    | nil =>
      obtain ⟨rfl, -⟩ := List.cons.inj behind
      rw [issued] at issued'
      cases issued'
      rw [known] at known'
      exact ⟨rfl, heq_of_eq (Option.some.inj known')⟩
    | cons first rest =>
      obtain ⟨-, rfl⟩ := List.cons.inj behind
      exact absurd (.inr ⟨other, issued'⟩) (kept issue' (by simp))
  · cases front with
    | nil =>
      obtain ⟨rfl, -⟩ := List.cons.inj behind
      rw [issued] at issued'
      cases issued'
      rw [known] at known'
      exact ⟨rfl, heq_of_eq (Option.some.inj known')⟩
    | cons first rest =>
      obtain ⟨-, rfl⟩ := List.cons.inj behind
      exact absurd (.inr ⟨object, issued⟩) (kept' issue (by simp))

end Noted

/-! ### Handles before and after -/

namespace World

variable {world : World κ} {registry id : Nat} {handle asked : UInt64} {object found : HostObject κ}

theorem hasRegistry_of_resolve (live : (world.registry id).resolve asked = .ok found) :
    world.HasRegistry id := by
  by_contra absent
  have empty : world.registry id = .empty := by
    have outside : ¬ id < world.registries.size := absent
    simp [World.registry, Array.getD, outside]
  rw [empty] at live
  cases live

/-- What resolves after a handle was given out is the new handle, or resolved before and is another
one. -/
theorem resolve_allocateHandle
    (live : ((world.allocateHandle registry object).2.registry id).resolve asked = .ok found) :
    (registry = id ∧ (world.registry registry).next = asked ∧ object = found) ∨
    ((world.registry id).resolve asked = .ok found ∧
      ¬ (registry = id ∧ (world.registry registry).next = asked)) := by
  rw [allocateHandle, registry_setRegistry] at live
  split at live
  next here =>
    obtain ⟨rfl, -⟩ := here
    rw [Registry.resolve_allocate] at live
    split at live
    next new => exact .inl ⟨rfl, new.symm, live⟩
    next other => exact .inr ⟨live, fun both => other both.2.symm⟩
  next elsewhere =>
    have there := hasRegistry_of_resolve live
    exact .inr ⟨live, fun both => elsewhere ⟨both.1, there⟩⟩

/-- What resolves after a handle was given back did so before, and is another handle. -/
theorem resolve_releaseHandle
    (live : ((world.releaseHandle registry handle).2.registry id).resolve asked = .ok found) :
    (world.registry id).resolve asked = .ok found ∧ ¬ (registry = id ∧ handle = asked) := by
  rw [releaseHandle, Registry.release] at live
  cases before : (world.registry registry).isLive handle with
  | true =>
    simp only [before, if_true, registry_setRegistry] at live
    split at live
    next here =>
      obtain ⟨rfl, -⟩ := here
      obtain ⟨other, still⟩ := (Registry.resolve_drop _ _ _ _).mp live
      exact ⟨still, fun both => other both.2.symm⟩
    next elsewhere =>
      have there := hasRegistry_of_resolve live
      exact ⟨live, fun both => elsewhere ⟨both.1, there⟩⟩
  | false =>
    simp only [before] at live
    refine ⟨live, ?_⟩
    rintro ⟨rfl, rfl⟩
    have now : (world.registry registry).isLive handle = true :=
      Registry.isLive_iff_resolve.mpr ⟨found, live⟩
    rw [before] at now
    cases now

theorem releaseHandle_aside (world : World κ) (registry : Nat) (handle : UInt64) :
    (world.releaseHandle registry handle).2.heap = world.heap ∧
      (world.releaseHandle registry handle).2.code = world.code := by
  rw [releaseHandle]
  cases (world.registry registry).release handle <;> exact ⟨rfl, rfl⟩

end World

/-! ### The invariant -/

/-- A run so far, in which all objects are used as what they were made as, and every stored value has
kept its state. -/
structure Sound (past : List (Moment κ)) (world : World κ) : Prop where
  thunks : world.OnlyThunks
  placed : ∀ object ∈ made past, ∃ one, world.heap.cells[object.cell]? = some one ∧
    one.key = object.type.key
  apart : ∀ one ∈ made past, ∀ other ∈ made past, one.cell = other.cell → one = other
  stored : ∀ registry handle object, (world.registry registry).resolve handle = .ok object →
    object ∈ made past
  kept : KeepsStates past world
  always : Throughout (fun before moment => KeepsStates before moment.world) past

/-- What can be read of instances depends on nothing else. -/
theorem Heap.reads_congr {before after : Heap κ} (cells : after.cells = before.cells) (key : κ)
    (cell : Nat) : after.stateAt? key cell = before.stateAt? key cell ∧
      after.isReadable cell = before.isReadable cell := by
  simp only [stateAt?, isReadable, borrowAt?, cells, and_self]

/-- An instance keeps its state, and can still be read if it could. -/
def Heap.SparesCell (before after : Heap κ) (cell : Nat) : Prop :=
  ∀ one, before.cells[cell]? = some one →
    ∃ borrow, after.cells[cell]? = some { one with borrow := borrow } ∧
      (one.borrow.share?.isSome = true → borrow.share?.isSome = true)

theorem Heap.SparesCell.of_same {before after : Heap κ} {cell : Nat}
    (same : ∀ one, before.cells[cell]? = some one → after.cells[cell]? = some one) :
    before.SparesCell after cell :=
  fun one there => ⟨one.borrow, same one there, id⟩

theorem Heap.SparesCell.reads {before after : Heap κ} {cell : Nat} {key : κ}
    {state : HostProgram.State key} (spares : before.SparesCell after cell)
    (known : before.stateAt? key cell = some state) (readable : before.isReadable cell = true) :
    after.stateAt? key cell = some state ∧ after.isReadable cell = true := by
  obtain ⟨one, there, holds⟩ := Option.bind_eq_some_iff.mp known
  rw [isReadable, borrowAt?_of_cell there] at readable
  obtain ⟨borrow, moved, still⟩ := spares one there
  constructor
  · rw [stateAt?, moved]
    exact holds
  · rw [isReadable, borrowAt?_of_cell moved]
    exact still readable

/-- A change of the process that leaves handles and all stored values alone. -/
structure World.Spares (before after : World κ) : Prop where
  registries : after.registries = before.registries
  thunks : before.OnlyThunks → after.OnlyThunks
  keys : ∀ (cell : Nat) (one : Cell κ), before.heap.cells[cell]? = some one →
    ∃ other, after.heap.cells[cell]? = some other ∧ other.key = one.key
  values : ∀ registry handle object, (before.registry registry).resolve handle = .ok object →
    object.type.semantics = .value → before.heap.isReadable object.cell = true →
      before.heap.SparesCell after.heap object.cell

theorem World.Aside.spares {before after : World κ} (aside : before.Aside after) :
    before.Spares after := by
  refine ⟨aside.registries, aside.thunks, ?_, ?_⟩
  · intro cell one there
    rw [aside.cells]
    exact ⟨one, there, rfl⟩
  · intro _ _ object _ _ _
    apply Heap.SparesCell.of_same
    intro one there
    rw [aside.cells]
    exact there

namespace Sound

variable {past : List (Moment κ)} {world world' : World κ} {moment : Moment κ}

theorem spared (sound : Sound past world) (spares : world.Spares world') : Sound past world' := by
  have same : ∀ id, world'.registry id = world.registry id :=
    fun id => World.registry_congr spares.registries id
  refine ⟨spares.thunks sound.thunks, ?_, sound.apart, ?_, ?_, sound.always⟩
  · intro object among
    obtain ⟨one, there, key⟩ := sound.placed object among
    obtain ⟨other, moved, key'⟩ := spares.keys _ one there
    exact ⟨other, moved, key'.trans key⟩
  · intro registry handle object found
    rw [same] at found
    exact sound.stored registry handle object found
  · intro registry handle object found value
    rw [same] at found
    obtain ⟨state, noted, known, readable⟩ := sound.kept registry handle object found value
    have spared := spares.values registry handle object found value readable
    exact ⟨state, noted, spared.reads known readable⟩

/-- A moment that makes nothing and touches no handle is only noted. -/
theorem note (sound : Sound past moment.world) (nothing : moment.makes = none)
    (untouched : ∀ registry handle, ¬ moment.Touches registry handle) :
    Sound (past ++ [moment]) moment.world := by
  have same : made (past ++ [moment]) = made past := by simp [made, nothing]
  refine ⟨sound.thunks, ?_, ?_, ?_, ?_, sound.always.snoc sound.kept⟩
  · rw [same]
    exact sound.placed
  · rw [same]
    exact sound.apart
  · rw [same]
    exact sound.stored
  · intro registry handle object found value
    obtain ⟨state, noted, reads⟩ := sound.kept registry handle object found value
    exact ⟨state, noted.later (untouched registry handle), reads⟩

/-- A new object is in a cell of its own. -/
theorem make (sound : Sound past moment.world) {type : ObjectType κ}
    (makes : moment.makes = some ⟨moment.world.heap.cells.size, type⟩)
    (untouched : ∀ registry handle, ¬ moment.Touches registry handle)
    (state : HostProgram.State type.key) :
    Sound (past ++ [moment])
      { moment.world with heap := (moment.world.heap.allocate type.key state).2 } := by
  have more : made (past ++ [moment]) =
      made past ++ [⟨moment.world.heap.cells.size, type⟩] := by simp [made, makes]
  have older : ∀ object ∈ made past, object.cell < moment.world.heap.cells.size := by
    intro object among
    obtain ⟨one, there, -⟩ := sound.placed object among
    exact (Array.getElem?_eq_some_iff.mp there).1
  refine ⟨sound.thunks, ?_, ?_, ?_, ?_, sound.always.snoc sound.kept⟩
  · rw [more]
    intro object among
    rcases List.mem_append.mp among with among | among
    · obtain ⟨one, there, key⟩ := sound.placed object among
      exact ⟨one, Heap.allocate_cell there type.key state, key⟩
    · rw [List.mem_singleton.mp among]
      exact ⟨_, Array.getElem?_push_size, rfl⟩
  · rw [more]
    intro one among other amongToo same
    rcases List.mem_append.mp among with among | among <;>
      rcases List.mem_append.mp amongToo with amongToo | amongToo
    · exact sound.apart one among other amongToo same
    · rw [List.mem_singleton.mp amongToo] at same
      exact absurd same (Nat.ne_of_lt (older one among))
    · rw [List.mem_singleton.mp among] at same
      exact absurd same.symm (Nat.ne_of_lt (older other amongToo))
    · rw [List.mem_singleton.mp among, List.mem_singleton.mp amongToo]
  · rw [more]
    intro registry handle object found
    exact List.mem_append_left _ (sound.stored registry handle object found)
  · intro registry handle object found value
    obtain ⟨held, noted, known, readable⟩ := sound.kept registry handle object found value
    have spared : moment.world.heap.SparesCell
        (moment.world.heap.allocate type.key state).2 object.cell :=
      .of_same fun _ there => Heap.allocate_cell there type.key state
    exact ⟨held, noted.later (untouched registry handle), spared.reads known readable⟩

/-- A value that gets a handle is noted with the state it has then. -/
theorem issue (sound : Sound past moment.world) (respects : moment.Respects past)
    (nothing : moment.makes = none) (unreleased : moment.releases = none)
    {registry : Nat} {object : HostObject κ}
    (issues : moment.issues = some (registry, (moment.world.registry registry).next, object))
    (aside : (moment.world.allocateHandle registry object).2.Aside world') :
    Sound (past ++ [moment]) world' := by
  have same : made (past ++ [moment]) = made past := by simp [made, nothing]
  have cells : world'.heap.cells = moment.world.heap.cells := aside.cells
  have found (id : Nat) (handle : UInt64) (other : HostObject κ)
      (now : (world'.registry id).resolve handle = .ok other) :
      (registry = id ∧ (moment.world.registry registry).next = handle ∧ object = other) ∨
      ((moment.world.registry id).resolve handle = .ok other ∧ ¬ moment.Touches id handle) := by
    rw [World.registry_congr aside.registries] at now
    obtain new | ⟨before, apart⟩ := World.resolve_allocateHandle now
    · exact .inl new
    · refine .inr ⟨before, ?_⟩
      rintro (gone | ⟨given, same⟩)
      · rw [unreleased] at gone
        cases gone
      · rw [issues] at same
        cases same
        exact apart ⟨rfl, rfl⟩
  have reads := Heap.reads_congr cells
  refine ⟨aside.thunks sound.thunks, ?_, ?_, ?_, ?_, sound.always.snoc sound.kept⟩
  · rw [same, cells]
    exact sound.placed
  · rw [same]
    exact sound.apart
  · rw [same]
    intro id handle other now
    obtain ⟨rfl, rfl, rfl⟩ | ⟨before, -⟩ := found id handle other now
    · exact respects.known _ _ _ issues
    · exact sound.stored id handle other before
  · intro id handle other now value
    rw [(reads other.type.key _).1, (reads other.type.key _).2]
    obtain ⟨rfl, rfl, rfl⟩ | ⟨before, untouched⟩ := found id handle other now
    · obtain ⟨one, there, key⟩ := sound.placed _ (respects.known _ _ _ issues)
      have known : ∃ state,
          moment.world.heap.stateAt? object.type.key object.cell = some state := by
        rw [Heap.stateAt?, there]
        simp [Cell.stateAs, key]
      obtain ⟨state, known⟩ := known
      exact ⟨state, .now issues known, known, respects.unheld _ _ _ issues value⟩
    · obtain ⟨state, noted, reads⟩ := sound.kept id handle other before value
      exact ⟨state, noted.later untouched, reads⟩

/-- A handle that is given back stands for nothing any longer. -/
theorem release (sound : Sound past moment.world) (nothing : moment.makes = none)
    (unissued : moment.issues = none) {registry : Nat} {handle : UInt64}
    (releases : moment.releases = some (registry, handle)) :
    Sound (past ++ [moment]) (moment.world.releaseHandle registry handle).2 := by
  have same : made (past ++ [moment]) = made past := by simp [made, nothing]
  obtain ⟨heap, code⟩ := moment.world.releaseHandle_aside registry handle
  have found (id : Nat) (asked : UInt64) (object : HostObject κ)
      (now : ((moment.world.releaseHandle registry handle).2.registry id).resolve asked =
        .ok object) :
      (moment.world.registry id).resolve asked = .ok object ∧ ¬ moment.Touches id asked := by
    obtain ⟨before, apart⟩ := World.resolve_releaseHandle now
    refine ⟨before, ?_⟩
    rintro (gone | ⟨given, same⟩)
    · rw [releases] at gone
      cases gone
      exact apart ⟨rfl, rfl⟩
    · rw [unissued] at same
      cases same
  refine ⟨?_, ?_, ?_, ?_, ?_, sound.always.snoc sound.kept⟩
  · rw [World.OnlyThunks, code]
    exact sound.thunks
  · rw [same, heap]
    exact sound.placed
  · rw [same]
    exact sound.apart
  · rw [same]
    intro id asked object now
    exact sound.stored id asked object (found id asked object now).1
  · intro id asked object now value
    obtain ⟨before, untouched⟩ := found id asked object now
    obtain ⟨state, noted, reads⟩ := sound.kept id asked object before value
    rw [heap]
    exact ⟨state, noted.later untouched, reads⟩

end Sound

end NativeBridge
