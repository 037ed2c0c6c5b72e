/-
Module: NativeBridge.Proofs.InstanceClasses
Purpose: At every point of a run the instance of each object is of the class that the object's type
  names, and every live handle stands for such an object.
Main exports: World.Houses, World.Faithful, Delivers, delivers_law, Known, Known.houses,
  Course.live_known
-/
import NativeBridge.Proofs.Courses
import NativeBridge.Proofs.RefusedArguments
import NativeBridge.Proofs.TraceLaw

namespace NativeBridge

variable {σ κ : Type} [HostProgram κ]

/-!
An object is a cell and a type, and nothing but the moment at which it is made puts the two
together.  From then on the cell keeps its class: states are written to it only as states of this
class.  Host code gets an object from where it was made, and passes it on; it cannot make one up.
So an object that a handle stands for is one that was made, and every look at it as an instance of
its class finds one.
-/

/-! ### Objects and their instances -/

/-- The instance of an object is of the class that the object's type names. -/
def World.Houses (world : World κ) (object : HostObject κ) : Prop :=
  ∃ one, world.heap.cells[object.cell]? = some one ∧ one.key = object.type.key

namespace World.Houses

variable {before after start last : World κ} {object : HostObject κ}

theorem of_instances (houses : before.Houses object)
    (instances : ∀ (cell : Nat) (one : Cell κ), before.heap.cells[cell]? = some one →
      ∃ other, after.heap.cells[cell]? = some other ∧ other.key = one.key) :
    after.Houses object := by
  obtain ⟨one, there, key⟩ := houses
  obtain ⟨other, moved, same⟩ := instances _ one there
  exact ⟨other, moved, same.trans key⟩

theorem gains {given : Option (Nat × UInt64 × HostObject κ)} (houses : before.Houses object)
    (gains : before.Gains given after) : after.Houses object :=
  houses.of_instances gains.instances

/-- No run changes the class of an instance. -/
theorem course {trace : List (Moment κ)} (houses : start.Houses object)
    (course : Course start trace last) : last.Houses object := by
  induction course with
  | ended gains => exact houses.gains gains
  | next before leads _ ih => exact ih ((houses.gains before).gains leads)

theorem state (houses : before.Houses object) :
    ∃ state, before.heap.stateAt? object.type.key object.cell = some state := by
  obtain ⟨one, there, key⟩ := houses
  exact Heap.stateAt?_of_key there key

end World.Houses

/-- Looking at an object as an instance of its class never finds another one.  Code that has borrowed
the instance reads a state of it; and where the object is a value, a copy for a member to run on and
a copy for an argument can be made unless somebody writes to the instance. -/
structure World.Faithful (world : World κ) (object : HostObject κ) : Prop where
  houses : world.Houses object
  read : ∀ enter frame next, frame.mayRead object.cell = true →
    ∃ state, (Code.readObject object object.type.key next).step enter frame world =
      .rest (next (some state)) frame world
  copy : object.type.semantics = .value → ∀ error, world.heap.copyOut object = .error error →
    error = HandleError.receiverBusy object.type.name
  argument : object.type.semantics = .value → ∀ error,
    MarshalType.copiedState object.type.key (.object object) world.heap = .error error →
      error = .typeMismatch object.type.name "busy instance"

theorem Heap.readObject_unreadable {heap : Heap κ} {object : HostObject κ}
    (unreadable : heap.isReadable object.cell = false) :
    heap.readObject object = .error (busy object) := by
  rw [readObject]
  cases there : heap.cells[object.cell]? with
  | none => rfl
  | some one =>
    rw [isReadable, borrowAt?_of_cell there] at unreadable
    have refused : one.borrow.share?.isSome = false := unreadable
    simp [refused]

theorem World.Houses.faithful {world : World κ} {object : HostObject κ}
    (houses : world.Houses object) : world.Faithful object := by
  obtain ⟨state, known⟩ := houses.state
  refine ⟨houses, ?read, ?copy, ?argument⟩
  case read =>
    intro enter frame next granted
    refine ⟨state, ?_⟩
    simp only [Code.step, granted, if_true, known]
  case copy =>
    intro value error failed
    cases readable : world.heap.isReadable object.cell with
    | true =>
      rw [(World.Stores.of_reads value known readable).receiver] at failed
      cases failed
    | false =>
      simp only [Heap.copyOut, value, Heap.readObject_unreadable readable] at failed
      cases failed
      rfl
  case argument =>
    intro value error failed
    cases readable : world.heap.isReadable object.cell with
    | true =>
      rw [(World.Stores.of_reads value known readable).argument] at failed
      cases failed
    | false =>
      rcases object with ⟨cell, key, semantics⟩
      obtain rfl : semantics = .value := value
      have same := HostObject.expectType_self (⟨cell, ⟨key, .value⟩⟩ : HostObject κ)
      simp only [MarshalType.copiedState, same, bind, Except.bind,
        Heap.readObject_unreadable readable] at failed
      cases failed
      rfl

/-! ### What is made is there -/

/-- What is made at a moment of a trace is an instance of its class at the moment after. -/
def Delivers (trace : List (Moment κ)) : Prop :=
  ∀ before moment after object, trace = before ++ moment :: after → moment.makes = some object →
    ∃ next rest, after = next :: rest ∧ next.world.Houses object

namespace Delivers

variable {trace more : List (Moment κ)} {moment next : Moment κ} {object : HostObject κ}

theorem nil : Delivers ([] : List (Moment κ)) := by
  intro before moment after object parted
  cases before <;> cases parted

theorem join (one : Delivers trace) (two : Delivers more) : Delivers (trace ++ more) := by
  intro before moment after object parted makes
  rcases List.append_eq_append_iff.mp parted with ⟨front, rfl, behind⟩ | ⟨back, rfl, behind⟩
  · exact two front moment after object behind makes
  · cases back with
    | nil => exact two [] moment after object behind.symm makes
    | cons first rest =>
      obtain ⟨rfl, rfl⟩ := List.cons.inj behind
      obtain ⟨next, tail, rfl, houses⟩ := one before moment rest object rfl makes
      exact ⟨next, tail ++ more, rfl, houses⟩

/-- A moment at which nothing is made. -/
theorem cons (nothing : moment.makes = none) (later : Delivers trace) :
    Delivers (moment :: trace) := by
  intro before found after object parted makes
  cases before with
  | nil =>
    obtain ⟨rfl, -⟩ := List.cons.inj parted
    rw [nothing] at makes
    cases makes
  | cons first rest => exact later rest found after object (List.cons.inj parted).2 makes

/-- A moment at which an object is made, and the next one. -/
theorem making (makes : moment.makes = some object) (houses : next.world.Houses object)
    (later : Delivers (next :: trace)) : Delivers (moment :: next :: trace) := by
  intro before found after other parted madeThere
  cases before with
  | nil =>
    obtain ⟨rfl, rfl⟩ := List.cons.inj parted
    rw [makes] at madeThere
    cases madeThere
    exact ⟨next, trace, rfl, houses⟩
  | cons first rest => exact later rest found after other (List.cons.inj parted).2 madeThere

end Delivers

/-- A request that makes an object does nothing else. -/
theorem Code.step_makes {enter : Entry κ} (inner : EntryTrace κ) {code rest : Code κ}
    {frame frame' : Frame} {world world' : World κ} {object : HostObject κ}
    (stepped : code.step enter frame world = .rest rest frame' world')
    (makes : (Moment.working code frame world).makes = some object) :
    code.nested inner world = [] ∧ world'.Houses object := by
  cases code with
  | newObject type state next =>
    cases stepped
    cases makes
    exact ⟨rfl, _, Array.getElem?_push_size, rfl⟩
  | marshal type carried next =>
    cases type with
    | copied key =>
      cases stepped
      cases makes
      exact ⟨rfl, _, Array.getElem?_push_size, rfl⟩
    | _ => cases makes
  | _ => cases makes

/-- What is made in a run is there at the next moment. -/
theorem delivers_law : TraceLaw (κ := κ) Delivers where
  nil := .nil
  join one two := one.join two
  outside _ _ := .cons rfl .nil
  ended stepped := by
    obtain ⟨-, nothing, -⟩ := Code.ended_alone (fun _ _ _ => []) stepped
    exact .cons nothing .nil
  request {_ code _ frame _ world _} inner stepped nested later := by
    rw [Code.trace_rest stepped]
    cases makes : (Moment.working code frame world).makes with
    | none => exact .cons makes (nested.join later)
    | some object =>
      obtain ⟨silent, houses⟩ := Code.step_makes inner stepped makes
      rw [silent, List.nil_append]
      -- The trace of what is left begins with its first request, in the process after the making.
      rw [Code.trace_eq_step] at later ⊢
      exact .making makes houses later
  call call inside := by
    have ending : Delivers [.left call, .answered call] := .cons rfl (.cons rfl .nil)
    exact .cons rfl (inside.join ending)

/-! ### The objects of a run -/

/-- The objects that there are after some moments of a run: those that were made in it, and those of
instances that there were when it began. -/
def Known (start : World κ) (past : List (Moment κ)) (object : HostObject κ) : Prop :=
  object ∈ made past ∨ start.Houses object

/-- A handle is given out only for an object that there is. -/
def Moment.IssuesKnown (start : World κ) (past : List (Moment κ)) (moment : Moment κ) : Prop :=
  ∀ registry handle object, moment.issues = some (registry, handle, object) →
    Known start past object

theorem Moment.IssuesKnown.of_none {start : World κ} {past : List (Moment κ)} {moment : Moment κ}
    (unissued : moment.issues = none) : moment.IssuesKnown start past := by
  intro registry handle object issued
  rw [unissued] at issued
  cases issued

section

variable {start begun last now : World κ} {past trace more : List (Moment κ)} {moment : Moment κ}
  {object : HostObject κ}

theorem Known.later (known : Known start past object) (more : List (Moment κ)) :
    Known start (past ++ more) object := by
  rw [Known, made_append]
  exact known.imp_left (List.mem_append_left _)

/-- What is left of a trace behind a moment before the point where the process stands. -/
theorem StandsAfter.behind {before between : List (Moment κ)}
    (stands : StandsAfter trace last (before ++ moment :: between) now) :
    ∃ after, trace = before ++ moment :: after ∧ StandsAfter after last between now := by
  obtain ⟨here, after, rfl, rfl⟩ | ⟨rfl, rfl⟩ := stands
  · exact ⟨between ++ here :: after, by simp, .inl ⟨here, after, rfl, rfl⟩⟩
  · exact ⟨between, rfl, .inr ⟨rfl, rfl⟩⟩

theorem Course.from_first (course : Course start (moment :: trace) last) :
    Course moment.world (moment :: trace) last := by
  cases course with
  | next before leads later => exact .cons leads later

/-- At every point of a run the instance of each object is of its class. -/
theorem Known.houses (known : Known start past object) (delivers : Delivers trace)
    (course : Course start trace last) (stands : StandsAfter trace last past now) :
    now.Houses object := by
  rcases known with among | there
  · obtain ⟨making, here, makes⟩ := List.mem_filterMap.mp among
    obtain ⟨before, between, rfl⟩ := List.append_of_mem here
    obtain ⟨after, rfl, behind⟩ := stands.behind
    obtain ⟨next, rest, rfl, houses⟩ := delivers before making after object rfl makes
    obtain ⟨middle, -, -, later⟩ := course.at_moment
    exact houses.course (behind.course later.from_first)
  · exact there.course (stands.course course)

/-- Every live handle stands for an object that there is, if only such get handles. -/
theorem Course.live_known (course : Course begun trace last)
    (live : ∀ id handle object, (begun.registry id).resolve handle = .ok object →
      Known start past object)
    (issues : Throughout (Moment.IssuesKnown start) (past ++ trace)) :
    ∀ id handle object, (last.registry id).resolve handle = .ok object →
      Known start (past ++ trace) object := by
  induction course generalizing past with
  | ended gains =>
    intro id handle object found
    rw [List.append_nil]
    exact live id handle object (gains.resolve_before found)
  | @next _ _ _ moment trace before leads _ ih =>
    have regrouped : past ++ moment :: trace = (past ++ [moment]) ++ trace := by simp
    rw [regrouped] at issues ⊢
    refine ih ?_ issues
    intro id handle object found
    have known : Known start past object := by
      obtain given | ⟨earlier, -⟩ := leads.handles id handle object found
      · exact issues.front.here id handle object given
      · exact live id handle object (before.resolve_before earlier)
    exact known.later [moment]

end

end NativeBridge
