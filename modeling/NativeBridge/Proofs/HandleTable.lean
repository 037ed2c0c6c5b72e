/-
Module: NativeBridge.Proofs.HandleTable
Purpose: A registry behaves as the table that maps every handle to its object from the time it is
  given out to the time it is given back.
Main exports: Registry.Operation, Registry.performAll, HandleTable, HandleTable.Serves,
  HandleTable.Course, Registry.Shows, Registry.behaves_as_table
-/
import NativeBridge.Proofs.HandleLedger
import NativeBridge.Workbench.Classes

namespace NativeBridge

variable {κ : Type}

/-!
The table of handles is two lists that only grow: what was given out for which object, and what was
given back.  A handle stands for its object when it is in the first list and not in the second.  The
table leaves open which number is given out, as long as it is not zero and was not given out before.

A registry keeps much less, the handles that stand for something and the next number, and forgets
the others.  It can afford this because the next number is above all that were given out, up to the
last number there is.
-/

/-! ### Operations -/

namespace Registry

/-- What can be asked of a registry. -/
inductive Operation (κ : Type) where
  | allocate (object : HostObject κ)
  | resolve (handle : UInt64)
  | release (handle : UInt64)
  | isLive (handle : UInt64)
  | live
deriving Repr, DecidableEq

/-- What a registry answers. -/
inductive Answer (κ : Type) where
  | issued (handle : UInt64)
  | resolved (object : HostObject κ)
  | released
  | flag (live : Bool)
  | count (live : Nat)
  | refused (error : HandleError)
deriving Repr, DecidableEq

/-- Do one operation on a registry. -/
def perform (registry : Registry κ) : Operation κ → Answer κ × Registry κ
  | .allocate object => (.issued (registry.allocate object).1, (registry.allocate object).2)
  | .resolve handle =>
      match registry.resolve handle with
      | .ok object => (.resolved object, registry)
      | .error error => (.refused error, registry)
  | .release handle =>
      match registry.release handle with
      | .ok after => (.released, after)
      | .error error => (.refused error, registry)
  | .isLive handle => (.flag (registry.isLive handle), registry)
  | .live => (.count registry.live, registry)

section perform

variable {registry : Registry κ} {handle : UInt64}

theorem perform_resolve {object : HostObject κ} (found : registry.resolve handle = .ok object) :
    registry.perform (.resolve handle) = (.resolved object, registry) := by
  simp only [perform, found]

theorem perform_release (live : registry.isLive handle = true) :
    registry.perform (.release handle) =
      (.released, { registry with slots := registry.without handle }) := by
  simp only [perform, release, live, if_true]

theorem perform_resolve_dead (dead : registry.isLive handle = false) :
    registry.perform (.resolve handle) = (.refused (.invalidHandle handle), registry) := by
  simp only [perform, resolve_of_dead dead]

theorem perform_release_dead (dead : registry.isLive handle = false) :
    registry.perform (.release handle) = (.refused (.invalidHandle handle), registry) := by
  simp only [perform, release, dead, Bool.false_eq_true, if_false]

/-- An operation that is refused changes nothing. -/
theorem perform_refused {operation : Operation κ} {error : HandleError}
    (refused : (registry.perform operation).1 = .refused error) :
    (registry.perform operation).2 = registry := by
  cases operation with
  | allocate object => cases refused
  | resolve handle =>
    rw [perform]
    cases registry.resolve handle <;> rfl
  | release handle =>
    cases live : registry.isLive handle with
    | true =>
      rw [perform_release live] at refused
      cases refused
    | false => rw [perform_release_dead live]
  | isLive | live => rfl

end perform

/-- Do operations on a registry, one after another. -/
def performAll : List (Operation κ) → Registry κ → List (Answer κ) × Registry κ
  | [], registry => ([], registry)
  | operation :: rest, registry =>
      let (answer, registry) := registry.perform operation
      let (answers, registry) := performAll rest registry
      (answer :: answers, registry)

/-- How many handles an operation gives out. -/
def Operation.allocations : Operation κ → Nat
  | allocate _ => 1
  | _ => 0

/-- How many handles operations give out. -/
def allocations : List (Operation κ) → Nat
  | [] => 0
  | operation :: rest => operation.allocations + allocations rest

theorem allocations_append (before after : List (Operation κ)) :
    allocations (before ++ after) = allocations before + allocations after := by
  induction before with
  | nil => exact (Nat.zero_add _).symm
  | cons operation rest ih =>
    rw [List.cons_append, allocations, allocations, ih, Nat.add_assoc]

/-- How many handles were given back with an answer. -/
def Answer.releases : Answer κ → Nat
  | released => 1
  | _ => 0

/-- How many handles were given back with answers. -/
def releases : List (Answer κ) → Nat
  | [] => 0
  | answer :: rest => answer.releases + releases rest

/-- How many owners of the instance in a cell an operation adds to those in the registry. -/
def Operation.ownersTaken (cell : Nat) : Operation κ → Nat
  | allocate object => if object.cell = cell then 1 else 0
  | _ => 0

/-- How many owners of the instance in a cell a registry gives up for an operation. -/
def ownersGiven (registry : Registry κ) (cell : Nat) : Operation κ → Nat
  | .release handle =>
      match registry.resolve handle with
      | .ok object => if object.cell = cell then 1 else 0
      | .error _ => 0
  | _ => 0

end Registry

/-! ### The table -/

/-- All handles given out, with their objects, and all handles given back, latest first. -/
structure HandleTable (κ : Type) where
  issued : List (UInt64 × HostObject κ)
  released : List UInt64

namespace HandleTable

/-- A table from which nothing was given out. -/
def empty : HandleTable κ := ⟨[], []⟩

/-- The handles that were given out. -/
def handles (table : HandleTable κ) : List UInt64 :=
  table.issued.map Prod.fst

/-- A handle was given out for an object and was not given back. -/
def StandsFor (table : HandleTable κ) (handle : UInt64) (object : HostObject κ) : Prop :=
  (handle, object) ∈ table.issued ∧ handle ∉ table.released

/-- The handles that were given out and not given back, with their objects. -/
def held (table : HandleTable κ) : List (UInt64 × HostObject κ) :=
  table.issued.filter fun entry => decide (entry.1 ∉ table.released)

/-- The number of handles that stand for the instance in a cell. -/
def owners (table : HandleTable κ) (cell : Nat) : Nat :=
  table.held.countP fun entry => entry.2.cell == cell

theorem mem_held {table : HandleTable κ} {handle : UInt64} {object : HostObject κ} :
    (handle, object) ∈ table.held ↔ table.StandsFor handle object := by
  simp only [held, List.mem_filter, decide_eq_true_eq, StandsFor]

/-- The table after a handle was given out. -/
def add (table : HandleTable κ) (handle : UInt64) (object : HostObject κ) : HandleTable κ :=
  { table with issued := (handle, object) :: table.issued }

/-- The table after a handle was given back. -/
def drop (table : HandleTable κ) (handle : UInt64) : HandleTable κ :=
  { table with released := handle :: table.released }

open Registry (Operation Answer)

/-- How the table answers an operation, and what becomes of it. -/
inductive Serves (table : HandleTable κ) : Operation κ → Answer κ → HandleTable κ → Prop
  | allocate (object : HostObject κ) {handle : UInt64} (nonzero : handle ≠ 0)
      (fresh : handle ∉ table.handles) :
      Serves table (.allocate object) (.issued handle) (table.add handle object)
  | resolve {handle : UInt64} {object : HostObject κ} (stands : table.StandsFor handle object) :
      Serves table (.resolve handle) (.resolved object) table
  | resolveDead {handle : UInt64} (dead : ∀ object, ¬ table.StandsFor handle object) :
      Serves table (.resolve handle) (.refused (.invalidHandle handle)) table
  | release {handle : UInt64} {object : HostObject κ} (stands : table.StandsFor handle object) :
      Serves table (.release handle) .released (table.drop handle)
  | releaseDead {handle : UInt64} (dead : ∀ object, ¬ table.StandsFor handle object) :
      Serves table (.release handle) (.refused (.invalidHandle handle)) table
  | isLive {handle : UInt64} {live : Bool}
      (tells : live = true ↔ ∃ object, table.StandsFor handle object) :
      Serves table (.isLive handle) (.flag live) table
  | live : Serves table .live (.count (table.issued.length - table.released.length)) table

/-- How the table answers operations, one after another. -/
inductive Course : HandleTable κ → List (Operation κ) → List (Answer κ) → HandleTable κ → Prop
  | nil (table : HandleTable κ) : Course table [] [] table
  | cons {table middle last : HandleTable κ} {operation : Operation κ} {answer : Answer κ}
      {operations : List (Operation κ)} {answers : List (Answer κ)}
      (first : table.Serves operation answer middle)
      (rest : Course middle operations answers last) :
      Course table (operation :: operations) (answer :: answers) last

/-! ### What holds of every table -/

/-- No handle is zero or was given out twice, and what was given back was given out, and is given
back once. -/
structure Regular (table : HandleTable κ) : Prop where
  nonzero : 0 ∉ table.handles
  once : table.handles.Nodup
  returnedOnce : table.released.Nodup
  known : ∀ handle ∈ table.released, handle ∈ table.handles

theorem empty_regular : (empty : HandleTable κ).Regular :=
  ⟨List.not_mem_nil, List.nodup_nil, List.nodup_nil, fun _ found => absurd found List.not_mem_nil⟩

theorem StandsFor.mem_handles {table : HandleTable κ} {handle : UInt64} {object : HostObject κ}
    (stands : table.StandsFor handle object) : handle ∈ table.handles :=
  List.mem_map_of_mem stands.1

variable {table after : HandleTable κ} {operation : Operation κ} {answer : Answer κ}

/-- No answer makes a table irregular. -/
theorem Serves.regular (serves : table.Serves operation answer after) (regular : table.Regular) :
    after.Regular := by
  cases serves with
  | allocate object nonzero fresh =>
    constructor
    case nonzero =>
      intro zero
      cases List.mem_cons.mp zero with
      | inl here => exact nonzero here.symm
      | inr there => exact regular.nonzero there
    case once => exact List.nodup_cons.mpr ⟨fresh, regular.once⟩
    case returnedOnce => exact regular.returnedOnce
    case known =>
      intro handle found
      exact List.mem_cons_of_mem _ (regular.known handle found)
  | release stands =>
    constructor
    case nonzero => exact regular.nonzero
    case once => exact regular.once
    case returnedOnce => exact List.nodup_cons.mpr ⟨stands.2, regular.returnedOnce⟩
    case known =>
      intro handle found
      cases List.mem_cons.mp found with
      | inl here => exact here ▸ stands.mem_handles
      | inr there => exact regular.known handle there
  | resolve | resolveDead | releaseDead | isLive | live => exact regular

namespace Regular

variable (regular : table.Regular)
include regular

/-- Every handle given out stands for its object or was given back. -/
theorem length_held : table.held.length + table.released.length = table.issued.length := by
  have back : (table.handles.filter fun handle => decide (handle ∈ table.released)).Perm
      table.released := by
    apply (List.perm_ext_iff_of_nodup (regular.once.filter _) regular.returnedOnce).mpr
    intro handle
    simp only [List.mem_filter, decide_eq_true_eq, and_iff_right_iff_imp]
    exact regular.known handle
  have parted := List.length_eq_countP_add_countP
    (fun entry : UInt64 × HostObject κ => decide (entry.1 ∉ table.released)) (l := table.issued)
  have returned : table.issued.countP (fun entry => decide (entry.1 ∈ table.released)) =
      table.released.length := by
    rw [← back.length_eq, ← List.countP_eq_length_filter, handles, List.countP_map]
    rfl
  have kept : table.issued.countP (fun entry => decide (entry.1 ∉ table.released)) =
      table.held.length := List.countP_eq_length_filter
  simp only [decide_eq_true_eq, not_not] at parted
  omega

theorem held_once : (table.held.map Prod.fst).Nodup :=
  regular.once.sublist (List.filter_sublist.map Prod.fst)

end Regular

/-- A handle that is not there is not taken out. -/
theorem filter_others {entries : List (UInt64 × HostObject κ)} {handle : UInt64}
    (absent : handle ∉ entries.map Prod.fst) :
    (entries.filter fun entry => entry.1 != handle) = entries := by
  apply List.filter_eq_self.mpr
  intro entry among
  apply bne_iff_ne.mpr
  intro same
  exact absent (List.mem_map.mpr ⟨entry, among, same⟩)

/-- A list in which no handle is twice, with one entry taken to the front. -/
theorem perm_cons_others {entries : List (UInt64 × HostObject κ)} {handle : UInt64}
    {object : HostObject κ} (once : (entries.map Prod.fst).Nodup)
    (found : (handle, object) ∈ entries) :
    entries.Perm ((handle, object) :: entries.filter fun entry => entry.1 != handle) := by
  induction entries with
  | nil => cases found
  | cons entry rest ih =>
    obtain ⟨alone, later⟩ := List.nodup_cons.mp once
    cases List.mem_cons.mp found with
    | inl here =>
      subst here
      simp [filter_others alone]
    | inr there =>
      have other : entry.1 ≠ handle := fun same => alone (same ▸ List.mem_map_of_mem there)
      have moved := (ih later there).cons entry
      have kept : (entry :: rest).filter (fun entry => entry.1 != handle) =
          entry :: rest.filter fun entry => entry.1 != handle := by
        simp [other]
      rw [kept]
      exact moved.trans (List.Perm.swap ..)

/-- A handle that is not given out twice stands for one object. -/
theorem lookup_eq_some_iff_mem {entries : List (UInt64 × HostObject κ)} {handle : UInt64}
    {object : HostObject κ} (once : (entries.map Prod.fst).Nodup) :
    entries.lookup handle = some object ↔ (handle, object) ∈ entries := by
  induction entries with
  | nil => simp
  | cons entry rest ih =>
    rcases entry with ⟨one, given⟩
    obtain ⟨alone, later⟩ := List.nodup_cons.mp once
    by_cases same : handle = one
    · subst same
      have absent : (handle, object) ∉ rest :=
        fun found => alone (List.mem_map.mpr ⟨_, found, rfl⟩)
      simp [absent, eq_comm]
    · simp [Registry.lookup_cons_ne same, ih later, same]

theorem held_add {handle : UInt64} (object : HostObject κ) (unreturned : handle ∉ table.released) :
    (table.add handle object).held = (handle, object) :: table.held :=
  List.filter_cons_of_pos (decide_eq_true unreturned)

theorem held_drop (handle : UInt64) :
    (table.drop handle).held = table.held.filter fun entry => entry.1 != handle := by
  simp only [held, drop, List.filter_filter]
  apply List.filter_congr
  intro entry _
  rw [Bool.eq_iff_iff]
  simp

/-- One more owner in the table for a handle that is given out. -/
theorem owners_add {handle : UInt64} (object : HostObject κ) (unreturned : handle ∉ table.released)
    (cell : Nat) :
    (table.add handle object).owners cell =
      table.owners cell + if object.cell = cell then 1 else 0 := by
  rw [owners, held_add object unreturned, List.countP_cons]
  simp only [beq_iff_eq, owners]

/-- One owner fewer in the table for a handle that is given back. -/
theorem owners_drop (regular : table.Regular) {handle : UInt64} {object : HostObject κ}
    (stands : table.StandsFor handle object) (cell : Nat) :
    (table.drop handle).owners cell + (if object.cell = cell then 1 else 0) =
      table.owners cell := by
  have moved := perm_cons_others regular.held_once (mem_held.mpr stands)
  rw [owners, owners, held_drop, moved.countP_eq, List.countP_cons]
  simp only [beq_iff_eq]

/-- What becomes of the two lists. -/
theorem Serves.counted (serves : table.Serves operation answer after) :
    after.issued.length = table.issued.length + operation.allocations ∧
      after.released.length = table.released.length + answer.releases := by
  cases serves <;> exact ⟨rfl, rfl⟩

theorem Course.counted {first last : HandleTable κ} {operations : List (Operation κ)}
    {answers : List (Answer κ)} (course : Course first operations answers last) :
    last.issued.length = first.issued.length + Registry.allocations operations ∧
      last.released.length = first.released.length + Registry.releases answers := by
  induction course with
  | nil => exact ⟨rfl, rfl⟩
  | cons serves rest ih =>
    obtain ⟨issued, released⟩ := serves.counted
    obtain ⟨laterIssued, laterReleased⟩ := ih
    rw [Registry.allocations, Registry.releases]
    constructor <;> omega

end HandleTable

/-! ### Registries and tables -/

namespace Registry

open HandleTable

/-- A registry holds what a table holds, and its next number is above all that were given out, as
long as there is such a number. -/
structure Shows (registry : Registry κ) (table : HandleTable κ) : Prop where
  regular : table.Regular
  slots : registry.slots = table.held
  below : ∀ handle ∈ table.handles, handle.toNat ≤ table.issued.length
  next : table.issued.length < handleSupply → registry.next.toNat = table.issued.length + 1

theorem empty_shows : (Registry.empty : Registry κ).Shows .empty :=
  ⟨empty_regular, rfl, fun _ found => absurd found List.not_mem_nil, fun _ => rfl⟩

namespace Shows

variable {registry : Registry κ} {table : HandleTable κ} (shown : registry.Shows table)
include shown

theorem resolve (handle : UInt64) (object : HostObject κ) :
    registry.resolve handle = .ok object ↔ table.StandsFor handle object := by
  rw [resolve_eq_ok, shown.slots, lookup_eq_some_iff_mem shown.regular.held_once, mem_held]

theorem isLive (handle : UInt64) :
    registry.isLive handle = true ↔ ∃ object, table.StandsFor handle object := by
  simp only [isLive_iff_resolve, shown.resolve]

theorem dead {handle : UInt64} (dead : registry.isLive handle = false) (object : HostObject κ) :
    ¬ table.StandsFor handle object := by
  intro stands
  have live := (shown.isLive handle).mpr ⟨object, stands⟩
  rw [dead] at live
  cases live

theorem live : registry.live + table.released.length = table.issued.length := by
  rw [Registry.live, shown.slots]
  exact shown.regular.length_held

theorem owners (cell : Nat) : registry.owners cell = table.owners cell := by
  rw [Registry.owners, shown.slots, HandleTable.owners]

/-- The next number was neither given out nor given back. -/
theorem next_fresh (room : table.issued.length < handleSupply) :
    registry.next ≠ 0 ∧ registry.next ∉ table.handles ∧ registry.next ∉ table.released := by
  have number := shown.next room
  have fresh : registry.next ∉ table.handles := by
    intro found
    have below := shown.below _ found
    omega
  refine ⟨?_, fresh, fun found => fresh (shown.regular.known _ found)⟩
  intro zero
  rw [zero] at number
  cases number

theorem allocate (room : table.issued.length < handleSupply) (object : HostObject κ) :
    (registry.allocate object).2.Shows (table.add registry.next object) := by
  have number := shown.next room
  obtain ⟨nonzero, fresh, unreturned⟩ := shown.next_fresh room
  have others : registry.without registry.next = registry.slots := by
    apply filter_others
    rw [shown.slots]
    intro found
    exact fresh ((List.filter_sublist.map Prod.fst).subset found)
  constructor
  case regular => exact (Serves.allocate object nonzero fresh).regular shown.regular
  case slots => rw [Registry.allocate, others, shown.slots, held_add object unreturned]
  case below =>
    intro handle found
    cases List.mem_cons.mp found with
    | inl here => exact here ▸ Nat.le_of_eq number
    | inr there => exact Nat.le_succ_of_le (shown.below handle there)
  case next =>
    intro further
    exact toNat_following number further

/-- A handle is taken back from the registry as from the table. -/
theorem drop {handle : UInt64} {object : HostObject κ} (stands : table.StandsFor handle object) :
    (Registry.mk (registry.without handle) registry.next).Shows (table.drop handle) := by
  constructor
  case regular => exact (Serves.release stands).regular shown.regular
  case slots =>
    rw [held_drop, ← shown.slots]
    rfl
  case below => exact shown.below
  case next => exact shown.next

/-- A registry with numbers left does what the table does. -/
theorem perform (operation : Operation κ)
    (room : table.issued.length + operation.allocations ≤ handleSupply) :
    ∃ after, table.Serves operation (registry.perform operation).1 after ∧
      (registry.perform operation).2.Shows after := by
  cases operation with
  | allocate object =>
    obtain ⟨nonzero, fresh, -⟩ := shown.next_fresh room
    exact ⟨_, .allocate object nonzero fresh, shown.allocate room object⟩
  | resolve handle =>
    cases live : registry.isLive handle with
    | true =>
      obtain ⟨object, stands⟩ := (shown.isLive handle).mp live
      rw [perform_resolve ((shown.resolve handle object).mpr stands)]
      exact ⟨table, .resolve stands, shown⟩
    | false =>
      rw [perform_resolve_dead live]
      exact ⟨table, .resolveDead (shown.dead live), shown⟩
  | release handle =>
    cases live : registry.isLive handle with
    | true =>
      obtain ⟨object, stands⟩ := (shown.isLive handle).mp live
      rw [perform_release live]
      exact ⟨table.drop handle, .release stands, shown.drop stands⟩
    | false =>
      rw [perform_release_dead live]
      exact ⟨table, .releaseDead (shown.dead live), shown⟩
  | isLive handle => exact ⟨table, .isLive (shown.isLive handle), shown⟩
  | live =>
    have counted : registry.live = table.issued.length - table.released.length :=
      Nat.eq_sub_of_add_eq shown.live
    refine ⟨table, ?_, shown⟩
    rw [Registry.perform, counted]
    exact .live

/-- What an operation does to the owners of an instance that are in the registry. -/
theorem balance (operation : Operation κ)
    (room : table.issued.length + operation.allocations ≤ handleSupply) (cell : Nat) :
    (registry.perform operation).2.owners cell + registry.ownersGiven cell operation =
      registry.owners cell + operation.ownersTaken cell := by
  cases operation with
  | allocate object =>
    have unreturned := (shown.next_fresh room).2.2
    rw [Registry.perform, (shown.allocate room object).owners, owners_add object unreturned,
      shown.owners]
    rfl
  | release handle =>
    cases live : registry.isLive handle with
    | true =>
      obtain ⟨object, stands⟩ := (shown.isLive handle).mp live
      have given : registry.ownersGiven cell (.release handle) =
          if object.cell = cell then 1 else 0 := by
        simp only [ownersGiven, (shown.resolve handle object).mpr stands]
      rw [perform_release live, (shown.drop stands).owners, given,
        owners_drop shown.regular stands, shown.owners]
      rfl
    | false =>
      rw [perform_release_dead live]
      simp only [ownersGiven, resolve_of_dead live]
      rfl
  | resolve handle =>
    rw [Registry.perform]
    cases registry.resolve handle <;> rfl
  | isLive | live => rfl

/-- A registry goes on as the table does, as long as there are numbers left. -/
theorem performAll (operations : List (Operation κ))
    (room : table.issued.length + allocations operations ≤ handleSupply) :
    ∃ last, Course table operations (performAll operations registry).1 last ∧
      (performAll operations registry).2.Shows last := by
  induction operations generalizing registry table with
  | nil => exact ⟨table, .nil table, shown⟩
  | cons operation rest ih =>
    have split : allocations (operation :: rest) = operation.allocations + allocations rest := rfl
    obtain ⟨middle, serves, shownNext⟩ := shown.perform operation (by omega)
    have issued := serves.counted.1
    obtain ⟨last, course, shownLast⟩ := ih shownNext (by omega)
    exact ⟨last, .cons serves course, shownLast⟩

end Shows

/-- A registry that is asked for no more handles than there are answers any operations as the table
does that maps each handle to its object until it is released: no number is given out twice, and
none is zero; what was given out and not released is resolved and released, and anything else is
reported.  The number of live handles is that of the allocations less the releases.  In the registry
an instance has one owner for each live handle given out for it, of which a release gives up one and
no other operation any. -/
theorem behaves_as_table (operations : List (Operation κ))
    (supply : allocations operations ≤ handleSupply) :
    let run := performAll operations Registry.empty
    ∃ table : HandleTable κ,
      Course .empty operations run.1 table ∧ table.Regular ∧
      (∀ handle object, run.2.resolve handle = .ok object ↔ table.StandsFor handle object) ∧
      run.2.live + releases run.1 = allocations operations ∧
      (∀ cell, run.2.owners cell = table.owners cell) ∧
      ∀ before operation after, operations = before ++ operation :: after →
        let met := (performAll before Registry.empty).2
        (∀ error, (met.perform operation).1 = .refused error → (met.perform operation).2 = met) ∧
          ∀ cell, (met.perform operation).2.owners cell + met.ownersGiven cell operation =
            met.owners cell + operation.ownersTaken cell := by
  intro run
  have none_issued : (HandleTable.empty : HandleTable κ).issued.length = 0 := rfl
  obtain ⟨table, course, shown⟩ := empty_shows.performAll operations (by omega)
  obtain ⟨issued, released⟩ := course.counted
  refine ⟨table, course, shown.regular, shown.resolve, ?_, shown.owners, ?_⟩
  · have live : run.2.live + table.released.length = table.issued.length := shown.live
    have none_released : (HandleTable.empty : HandleTable κ).released.length = 0 := rfl
    change table.released.length = 0 + releases run.1 at released
    omega
  · intro before operation after parted met
    have split : allocations operations =
        allocations before + (operation.allocations + allocations after) := by
      rw [parted, allocations_append, allocations]
    obtain ⟨early, course, shown⟩ := empty_shows.performAll before (by omega)
    have issued := course.counted.1
    constructor
    · intro error refused
      exact perform_refused refused
    · intro cell
      exact shown.balance operation (by omega) cell

end Registry

namespace Workbench

/-- An instance that a registry is asked for handles of. -/
def sharedShape : HostObject Key := ⟨0, .shape, .reference⟩

/-- One instance gets two handles, one of which is given back twice, and then another. -/
def sharedOperations : List (Registry.Operation Key) :=
  [.allocate sharedShape, .allocate sharedShape, .release 1, .release 1, .resolve 0, .resolve 2,
    .allocate sharedShape, .isLive 1, .live]

/-- The handles of an instance that has had three, of which two are live. -/
theorem sharedOperations_table :
    Registry.allocations sharedOperations ≤ handleSupply ∧
      ∃ table : HandleTable Key,
        HandleTable.Course .empty sharedOperations
          [.issued 1, .issued 2, .released, .refused (.invalidHandle 1),
            .refused (.invalidHandle 0), .resolved sharedShape, .issued 3, .flag false, .count 2]
          table ∧
        table.StandsFor 3 sharedShape ∧ table.owners 0 = 2 := by
  have supply : Registry.allocations sharedOperations ≤ handleSupply := by decide
  obtain ⟨table, course, -, stands, -, owners, -⟩ :=
    Registry.behaves_as_table sharedOperations supply
  exact ⟨supply, table, course, (stands 3 sharedShape).mp rfl, (owners 0).symm⟩

end Workbench

end NativeBridge
