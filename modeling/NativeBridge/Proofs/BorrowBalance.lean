/-
Module: NativeBridge.Proofs.BorrowBalance
Purpose: What one request of host code does to instances and handles, and that every run leaves each
  instance borrowed as it was.
Main exports: World.OnlyThunks, World.Aside, Code.Effect, Code.step_effect, World.Balanced,
  Code.run_balanced, Handler.run_balanced, enterAt_balanced
-/
import NativeBridge.Proofs.RunGrowth
import NativeBridge.Proofs.ThunkCalls

namespace NativeBridge

variable {κ : Type} [HostProgram κ]

/-!
Host code takes borrows and gives them up again, and what it still holds at its end is given up for
it.  So the borrows of a process are those from before a run, with those of the code that is running
on top.  A borrow is given up in any order; the law below therefore looks at what would be left if
the code gave up all of its borrows at once, which no request changes.
-/

/-! ### Changes aside from instances -/

/-- Closures that run members are the thunks of these members. -/
def World.OnlyThunks (world : World κ) : Prop :=
  ∀ (index : Nat) (closure : Closure κ), world.code[index]? = some (.closure closure) →
    closure.IsProper

/-- A change of the process that touches neither instances nor handles, and brings no closure that
runs a member in another way than its thunk does. -/
structure World.Aside (before after : World κ) : Prop where
  cells : after.heap.cells = before.heap.cells
  registries : after.registries = before.registries
  thunks : before.OnlyThunks → after.OnlyThunks

namespace World

theorem Aside.of_same {before after : World κ} (cells : after.heap.cells = before.heap.cells)
    (registries : after.registries = before.registries) (code : after.code = before.code) :
    before.Aside after :=
  ⟨cells, registries, fun thunks => by rwa [OnlyThunks, code]⟩

theorem Aside.refl (world : World κ) : world.Aside world := of_same rfl rfl rfl

theorem OnlyThunks.push {world : World κ} (thunks : world.OnlyThunks) {closure : Closure κ}
    (proper : closure.IsProper) : (world.addCode (.closure closure)).2.OnlyThunks := by
  intro index found there
  rw [addCode, Array.getElem?_push] at there
  split at there
  · obtain rfl : closure = found := by simpa using there
    exact proper
  · exact thunks index found there

theorem OnlyThunks.noteReturned {world : World κ} (thunks : world.OnlyThunks)
    (closure text : UInt64) : (world.noteReturned closure text).OnlyThunks := by
  unfold World.noteReturned
  cases codeIndex? closure with
  | none => exact thunks
  | some noted =>
    intro index found there
    rw [Array.getElem?_modify] at there
    split at there
    · obtain ⟨code, before, same⟩ := Option.map_eq_some_iff.mp there
      cases code with
      | foreign parameters run => cases same
      | closure entry =>
        cases same
        intro dispatch member handler
        obtain ⟨registry, thunk⟩ := thunks index entry before dispatch member handler
        exact ⟨registry, thunk.signature, thunk.plan, thunk.registry, thunk.handler⟩
    · exact thunks index found there

end World

/-! ### Cells -/

namespace Heap

variable {heap : Heap κ} {one : Cell κ} {cell : Nat}

theorem setBorrow_cell (there : heap.cells[cell]? = some one) (changed : Nat) (borrow : Borrow) :
    (heap.setBorrow changed borrow).cells[cell]? =
      some (if changed = cell then { one with borrow := borrow } else one) := by
  rw [setBorrow, Array.getElem?_modify, there]
  split <;> rfl

theorem borrowAt?_of_cell (there : heap.cells[cell]? = some one) :
    heap.borrowAt? cell = some one.borrow := by
  rw [borrowAt?, there]
  rfl

theorem stateAt?_of_key (there : heap.cells[cell]? = some one) {key : κ} (same : one.key = key) :
    ∃ state, heap.stateAt? key cell = some state := by
  subst same
  exact ⟨one.state, by simp [stateAt?, there, Cell.stateAs]⟩

/-- Writing a state leaves the class and the borrow of every instance. -/
theorem setState_cell (there : heap.cells[cell]? = some one) (changed : Nat) (key : κ)
    (state : HostProgram.State key) :
    ∃ other, (heap.setState changed key state).cells[cell]? = some other ∧
      other.key = one.key ∧ other.borrow = one.borrow ∧ (changed ≠ cell → other = one) := by
  rw [setState, Array.getElem?_modify, there]
  by_cases here : changed = cell
  · rw [if_pos here]
    by_cases same : one.key = key
    · exact ⟨_, rfl, by simp [same], by simp [same], fun apart => absurd here apart⟩
    · exact ⟨_, rfl, by simp [same], by simp [same], fun apart => absurd here apart⟩
  · rw [if_neg here]
    exact ⟨one, rfl, rfl, rfl, fun _ => rfl⟩

theorem allocate_cell (there : heap.cells[cell]? = some one) (key : κ)
    (state : HostProgram.State key) : (heap.allocate key state).2.cells[cell]? = some one := by
  obtain ⟨inside, -⟩ := Array.getElem?_eq_some_iff.mp there
  rw [allocate, Array.getElem?_push_lt inside, ← Array.getElem?_eq_getElem inside]
  exact there

end Heap

/-! ### Giving borrows up -/

/-- What a borrow is after a guard was dropped. -/
def Guard.dropAt (guard : Guard) (cell : Nat) (borrow : Borrow) : Borrow :=
  if guard.cell = cell then if guard.exclusive then .free else borrow.unshare else borrow

/-- What a borrow would be if a frame gave up all it holds. -/
def Frame.freed (frame : Frame) (cell : Nat) (borrow : Borrow) : Borrow :=
  frame.guards.foldl (fun borrow guard => guard.dropAt cell borrow) borrow

variable {heap heap' : Heap κ} {one : Cell κ} {cell : Nat}

theorem Guard.drop_cell (guard : Guard) (there : heap.cells[cell]? = some one) :
    (guard.drop heap).cells[cell]? =
      some { one with borrow := guard.dropAt cell one.borrow } := by
  unfold Guard.drop Guard.dropAt Heap.endExclusive Heap.endShared
  by_cases here : guard.cell = cell
  · subst here
    rw [Heap.borrowAt?_of_cell there]
    cases guard.exclusive <;> simp [Heap.setBorrow_cell there]
  · cases guard.exclusive with
    | true => simp [Heap.setBorrow_cell there, here]
    | false =>
      cases heap.borrowAt? guard.cell with
      | none => simp [here, there]
      | some borrow => simp [Heap.setBorrow_cell there, here]

theorem Frame.dropGuards_cell (frame : Frame) (there : heap.cells[cell]? = some one) :
    (frame.dropGuards heap).cells[cell]? =
      some { one with borrow := frame.freed cell one.borrow } := by
  unfold Frame.dropGuards Frame.freed
  induction frame.guards generalizing heap one with
  | nil => exact there
  | cons guard guards ih => exact ih (guard.drop_cell there)

/-- A borrow that a frame was granted. -/
theorem Frame.borrow_some {frame frame' : Frame} {wanted : Nat} {exclusive : Bool}
    (granted : frame.borrow wanted exclusive heap = some (frame', heap')) :
    ∃ one borrow, heap.cells[wanted]? = some one ∧
      (if exclusive then one.borrow = .free ∧ borrow = .exclusive
        else one.borrow.share? = some borrow) ∧
      frame' = { frame with guards := ⟨wanted, exclusive⟩ :: frame.guards } ∧
      heap' = heap.setBorrow wanted borrow := by
  rw [Frame.borrow] at granted
  obtain ⟨taken, attempt, same⟩ := Option.map_eq_some_iff.mp granted
  cases same
  cases exclusive with
  | true =>
    obtain ⟨borrow, claimed, rfl⟩ := Option.map_eq_some_iff.mp attempt
    obtain ⟨before, found, claimed⟩ := Option.bind_eq_some_iff.mp claimed
    obtain ⟨one, there, rfl⟩ := Option.map_eq_some_iff.mp found
    refine ⟨one, borrow, there, ?_, rfl, rfl⟩
    cases held : one.borrow <;> rw [held] at claimed <;> simp_all [Borrow.claim?]
  | false =>
    obtain ⟨borrow, shared, rfl⟩ := Option.map_eq_some_iff.mp attempt
    obtain ⟨before, found, shared⟩ := Option.bind_eq_some_iff.mp shared
    obtain ⟨one, there, rfl⟩ := Option.map_eq_some_iff.mp found
    exact ⟨one, borrow, there, shared, rfl, rfl⟩

theorem Borrow.unshare_of_share? {borrow more : Borrow} (shared : borrow.share? = some more) :
    more.unshare = borrow := by
  cases borrow <;> cases shared <;> rfl

/-- Within a run instances stay where they are, with their classes, and the borrows that are not the
running code's stay as they are. -/
def Frame.Balances (frame : Frame) (heap : Heap κ) (frame' : Frame) (heap' : Heap κ) : Prop :=
  ∀ (cell : Nat) (one : Cell κ), heap.cells[cell]? = some one →
    ∃ other, heap'.cells[cell]? = some other ∧ other.key = one.key ∧
      frame'.freed cell other.borrow = frame.freed cell one.borrow

theorem Frame.borrow_balances {frame frame' : Frame} {wanted : Nat} {exclusive : Bool}
    (granted : frame.borrow wanted exclusive heap = some (frame', heap')) :
    frame.Balances heap frame' heap' := by
  obtain ⟨held, borrow, found, taken, rfl, rfl⟩ := Frame.borrow_some granted
  intro cell one there
  refine ⟨_, Heap.setBorrow_cell there wanted borrow, by split <;> rfl, ?_⟩
  unfold Frame.freed
  rw [List.foldl_cons]
  congr 1
  unfold Guard.dropAt
  by_cases here : wanted = cell
  · subst here
    obtain rfl : held = one := by simpa [found] using there
    cases exclusive with
    | true => simpa using taken.1.symm
    | false => simpa using Borrow.unshare_of_share? (by simpa using taken)
  · simp [here]

/-- What is left of a frame's borrows of one instance when the latest is given up. -/
theorem filter_erase_found {guards : List Guard} {cell : Nat} {guard : Guard}
    (found : guards.find? (fun guard => guard.cell == cell) = some guard) :
    guards.filter (fun guard => guard.cell == cell) =
      guard :: (guards.erase guard).filter fun guard => guard.cell == cell := by
  induction guards with
  | nil => cases found
  | cons first rest ih =>
    cases here : first.cell == cell with
    | true =>
      simp only [List.find?_cons, here, Option.some.injEq] at found
      subst found
      rw [List.filter_cons, if_pos here, List.erase_cons_head]
    | false =>
      simp only [List.find?_cons, here] at found
      have matching := List.find?_some found
      have other : (first == guard) = false := by
        rw [beq_eq_false_iff_ne]
        rintro rfl
        rw [here] at matching
        cases matching
      rw [List.erase_cons_tail (by simp [other]), List.filter_cons, List.filter_cons, ih found]
      simp [here]

theorem filter_erase_other {guards : List Guard} {cell : Nat} {guard : Guard}
    (other : guard.cell ≠ cell) :
    (guards.erase guard).filter (fun guard => guard.cell == cell) =
      guards.filter fun guard => guard.cell == cell := by
  induction guards with
  | nil => rfl
  | cons first rest ih =>
    by_cases same : first = guard
    · subst same
      rw [List.erase_cons_head, List.filter_cons, if_neg (by simpa using other)]
    · rw [List.erase_cons_tail (by simpa using same), List.filter_cons, List.filter_cons, ih]

/-- Only the guards of an instance matter for its borrow. -/
theorem Frame.freed_filter (frame : Frame) (cell : Nat) (borrow : Borrow) :
    frame.freed cell borrow = (frame.guards.filter fun guard => guard.cell == cell).foldl
      (fun borrow guard => guard.dropAt cell borrow) borrow := by
  unfold Frame.freed
  induction frame.guards generalizing borrow with
  | nil => rfl
  | cons first rest ih =>
    rw [List.foldl_cons, ih, List.filter_cons]
    by_cases here : first.cell = cell
    · rw [if_pos (by simpa using here), List.foldl_cons]
    · rw [if_neg (by simpa using here), Guard.dropAt, if_neg here]

theorem Frame.endBorrow_balances (frame : Frame) (given : Nat) (heap : Heap κ) :
    frame.Balances heap (frame.endBorrow given heap).1 (frame.endBorrow given heap).2 := by
  intro cell one there
  rw [Frame.endBorrow]
  split
  next guard found =>
    refine ⟨_, guard.drop_cell there, rfl, ?_⟩
    have matching : guard.cell = given := by simpa using List.find?_some found
    rw [Frame.freed_filter, Frame.freed_filter]
    by_cases here : guard.cell = cell
    · obtain rfl : given = cell := matching.symm.trans here
      rw [filter_erase_found found, List.foldl_cons]
    · rw [filter_erase_other here, Guard.dropAt, if_neg here]
  next => exact ⟨one, there, rfl, rfl⟩

/-! ### What one request does -/

namespace Code

/-- A request that makes no instance, enters no native code and asks nothing of a registry. -/
def isPlain : Code κ → Bool
  | .newObject .. | .marshal (.copied _) .. | .call .. | .callRaw .. | .allocateHandle ..
  | .releaseHandle .. => false
  | _ => true

/-- What a request does to the instances and the handles, if the code goes on after it. -/
inductive Effect (enter : Entry κ) (frame : Frame) (world : World κ) :
    Code κ → Frame → World κ → Prop
  | aside {code : Code κ} {world' : World κ} (plain : code.isPlain = true)
      (aside : world.Aside world') : Effect enter frame world code frame world'
  | makes (type : ObjectType κ) (state : HostProgram.State type.key)
      (next : HostObject κ → Code κ) :
      Effect enter frame world (.newObject type state next) frame
        { world with heap := (world.heap.newObject type state).2 }
  | carries (key : κ) (state : HostProgram.State key) (next : Value κ → Code κ) :
      Effect enter frame world (.marshal (.copied key) state next) frame
        { world with heap := (world.heap.newObject ⟨key, .value⟩ state).2 }
  | borrows {object : HostObject κ} {exclusive : Bool} {frame' : Frame} {heap : Heap κ}
      (next : Bool → Code κ)
      (granted : frame.borrow object.cell exclusive world.heap = some (frame', heap)) :
      Effect enter frame world (.borrow object exclusive next) frame' { world with heap := heap }
  | returns (object : HostObject κ) (next : Code κ) :
      Effect enter frame world (.endBorrow object next)
        (frame.endBorrow object.cell world.heap).1
        { world with heap := (frame.endBorrow object.cell world.heap).2 }
  | writes {object : HostObject κ} (key : κ) (state : HostProgram.State key) (next : Code κ)
      (held : frame.mayWrite object.cell = true) :
      Effect enter frame world (.writeObject object key state next) frame
        { world with heap := world.heap.setState object.cell key state }
  | edits {cell : Nat} (key : κ) (state : HostProgram.State key) (next : Code κ)
      (receiver : frame.receiver = some cell) :
      Effect enter frame world (.writeReceiver key state next) frame
        { world with heap := world.heap.setState cell key state }
  | calls {function : ForeignFunction κ} {args : List (Value κ)}
      {result : Except Error (Value κ)} {world' : World κ}
      (next : Except Error (Value κ) → Code κ)
      (called : function.call enter args world = (.returned result, world')) :
      Effect enter frame world (.call function args next) frame world'
  | callsRaw (function : ForeignFunction κ) (args : List RawValue)
      (next : Except MarshalError RawValue → Code κ) :
      Effect enter frame world (.callRaw function args next) frame
        (function.callRaw enter args world).2
  | issues (registry : Nat) (object : HostObject κ) (next : UInt64 → Code κ) :
      Effect enter frame world (.allocateHandle registry object next) frame
        (world.allocateHandle registry object).2
  | releases (registry : Nat) (handle : UInt64) (next : Except HandleError Unit → Code κ) :
      Effect enter frame world (.releaseHandle registry handle next) frame
        (world.releaseHandle registry handle).2

variable {enter : Entry κ} {code rest : Code κ} {frame frame' : Frame} {world world' : World κ}

theorem step_effect (stepped : code.step enter frame world = .rest rest frame' world') :
    Effect enter frame world code frame' world' := by
  cases code with
  | done | panic => cases stepped
  | newObject type state next => cases stepped; exact .makes type state next
  | marshal type carried next =>
    cases stepped
    cases type with
    | copied key => exact .carries key carried next
    | _ => exact .aside rfl (.of_same rfl rfl rfl)
  | borrow object exclusive next =>
    simp only [step] at stepped
    split at stepped
    · cases stepped
      exact .borrows _ ‹_›
    · cases stepped
      exact .aside rfl (.refl world)
  | endBorrow object next => cases stepped; exact .returns object _
  | writeObject object key state next =>
    simp only [step] at stepped
    split at stepped
    · cases stepped
      exact .writes key state _ ‹_›
    · cases stepped
      exact .aside rfl (.refl world)
  | writeReceiver key state next =>
    simp only [step] at stepped
    split at stepped
    · cases stepped
      exact .edits key state _ ‹_›
    · cases stepped
      exact .aside rfl (.refl world)
  | call function args next =>
    simp only [step] at stepped
    split at stepped
    · cases stepped
    · cases stepped
      exact .calls _ ‹_›
  | callRaw function args next => cases stepped; exact .callsRaw function args next
  | allocateHandle registry object next => cases stepped; exact .issues registry object next
  | releaseHandle registry handle next => cases stepped; exact .releases registry handle next
  | _ => cases stepped; exact .aside rfl (.of_same rfl rfl rfl)

end Code

/-- A call with host values panics only while its arguments are encoded. -/
theorem ForeignFunction.call_panicked {enter : Entry κ} {function : ForeignFunction κ}
    {args : List (Value κ)} {world left : World κ} {message : Option String}
    (called : function.call enter args world = (.panicked message, left)) :
    left = world ∧ function.encoded args world = .panicked message := by
  rw [ForeignFunction.call_eq_encoded] at called
  split at called
  next other encoded =>
    cases called
    exact ⟨rfl, encoded⟩
  next => cases called
  next => cases called

/-- At the end of host code all it holds is given up. -/
theorem Code.step_ended {enter : Entry κ} {code : Code κ} {frame : Frame} {world left : World κ}
    {outcome : Outcome (Value κ)} (stepped : code.step enter frame world = .ended outcome left) :
    left = { world with heap := frame.dropGuards world.heap } := by
  cases code with
  | done | panic => cases stepped; rfl
  | call function args next =>
    simp only [Code.step] at stepped
    split at stepped
    next called =>
      cases stepped
      rw [(ForeignFunction.call_panicked called).1]
    next => cases stepped
  | borrow | writeObject | writeReceiver =>
    simp only [Code.step] at stepped
    split at stepped <;> cases stepped
  | _ => cases stepped

/-! ### Runs -/

/-- Instances stay where they are, with their classes, and are borrowed as they were. -/
def World.Balanced (before after : World κ) : Prop :=
  ∀ (cell : Nat) (one : Cell κ), before.heap.cells[cell]? = some one →
    ∃ other, after.heap.cells[cell]? = some other ∧ other.key = one.key ∧
      other.borrow = one.borrow

namespace World.Balanced

variable {before after last : World κ}

theorem of_cells (same : after.heap.cells = before.heap.cells) : before.Balanced after := by
  intro cell one there
  rw [same]
  exact ⟨one, there, rfl, rfl⟩

theorem refl (world : World κ) : world.Balanced world := of_cells rfl

theorem trans (one : before.Balanced after) (two : after.Balanced last) :
    before.Balanced last := by
  intro cell first there
  obtain ⟨second, moved, key, borrow⟩ := one cell first there
  obtain ⟨third, moved, key', borrow'⟩ := two cell second moved
  exact ⟨third, moved, key'.trans key, borrow'.trans borrow⟩

end World.Balanced

namespace Frame.Balances

variable {frame frame' frame'' : Frame} {heap heap' heap'' : Heap κ}

theorem trans (one : frame.Balances heap frame' heap') (two : frame'.Balances heap' frame'' heap'') :
    frame.Balances heap frame'' heap'' := by
  intro cell first there
  obtain ⟨second, moved, key, freed⟩ := one cell first there
  obtain ⟨third, moved, key', freed'⟩ := two cell second moved
  exact ⟨third, moved, key'.trans key, freed'.trans freed⟩

theorem of_balanced (frame : Frame) {world world' : World κ} (balanced : world.Balanced world') :
    frame.Balances world.heap frame world'.heap := by
  intro cell one there
  obtain ⟨other, moved, key, borrow⟩ := balanced cell one there
  exact ⟨other, moved, key, by rw [borrow]⟩

theorem setState (frame : Frame) (heap : Heap κ) (changed : Nat) (key : κ)
    (state : HostProgram.State key) :
    frame.Balances heap frame (heap.setState changed key state) := by
  intro cell one there
  obtain ⟨other, moved, key, borrow, -⟩ := Heap.setState_cell there changed key state
  exact ⟨other, moved, key, by rw [borrow]⟩

theorem allocate (frame : Frame) (heap : Heap κ) (key : κ) (state : HostProgram.State key) :
    frame.Balances heap frame (heap.allocate key state).2 :=
  fun _ one there => ⟨one, Heap.allocate_cell there key state, rfl, rfl⟩

end Frame.Balances

/-- A way of calling native addresses that leaves all instances borrowed as they were. -/
def Entry.Balanced (enter : Entry κ) : Prop :=
  ∀ address result raws (world : World κ), world.Balanced (enter address result raws world).2

section

variable {enter : Entry κ}

theorem ForeignFunction.callRaw_balanced (balanced : enter.Balanced)
    (function : ForeignFunction κ) (args : List RawValue) (world : World κ) :
    world.Balanced (function.callRaw enter args world).2 := by
  simp only [callRaw]
  split
  · split
    · exact .refl world
    · exact balanced _ _ _ world
  · exact .refl world

theorem readBack_cells (memory : Memory) (lent : List LentBuffer) (heap : Heap κ) :
    (readBack memory lent heap).cells = heap.cells := by
  unfold readBack
  induction lent generalizing heap with
  | nil => rfl
  | cons one rest ih => exact ih _

/-- After the native part of a call nothing happens to instances and handles. -/
theorem ForeignFunction.callEncoded_aside (function : ForeignFunction κ) (enter : Entry κ)
    (raws : List RawValue) (lent : List LentBuffer) (world : World κ) :
    (function.callRaw enter raws { world with pending := none }).2.Aside
      (function.callEncoded enter raws lent world).2 := by
  simp only [callEncoded, World.isolate, World.takeFault]
  split
  · exact .of_same (readBack_cells ..) rfl rfl
  · split
    · exact .of_same (readBack_cells ..) rfl rfl
    · split
      · exact .of_same (readBack_cells ..) rfl rfl
      · next decoded =>
        refine .of_same ?_ rfl rfl
        obtain same | ⟨text, same⟩ := decodeReturn_heap decoded
        all_goals
          rw [same]
          exact readBack_cells ..

theorem ForeignFunction.call_balanced (balanced : enter.Balanced) (function : ForeignFunction κ)
    (args : List (Value κ)) (world : World κ) :
    world.Balanced (function.call enter args world).2 := by
  rw [call_eq_encoded]
  split
  · exact .refl world
  · exact .refl world
  · next raws lent memory encoded =>
    have native := function.callRaw_balanced balanced raws
      { world with memory := memory, pending := none }
    have aside := function.callEncoded_aside enter raws lent { world with memory := memory }
    exact native.trans (.of_cells aside.cells)

/-- No request changes what would be left if the code gave up all it holds. -/
theorem Code.Effect.balances (balanced : enter.Balanced) {code : Code κ} {frame frame' : Frame}
    {world world' : World κ} (effect : Code.Effect enter frame world code frame' world') :
    frame.Balances world.heap frame' world'.heap := by
  cases effect with
  | aside plain aside => exact .of_balanced frame (.of_cells aside.cells)
  | makes type state next => exact .allocate frame world.heap type.key state
  | carries key state next => exact .allocate frame world.heap key state
  | borrows next granted => exact Frame.borrow_balances granted
  | returns object next => exact frame.endBorrow_balances object.cell world.heap
  | writes key state next held => exact .setState frame world.heap _ key state
  | edits key state next receiver => exact .setState frame world.heap _ key state
  | @calls function args _ _ next called =>
    have inner := function.call_balanced balanced args world
    rw [called] at inner
    exact .of_balanced frame inner
  | callsRaw function args next =>
    exact .of_balanced frame (function.callRaw_balanced balanced args world)
  | issues registry object next => exact .of_balanced frame (.refl world)
  | releases registry handle next =>
    refine .of_balanced frame (.of_cells ?_)
    unfold World.releaseHandle
    cases (world.registry registry).release handle <;> rfl

/-- Host code that holds nothing at its start leaves all instances borrowed as they were. -/
theorem Code.run_balances (balanced : enter.Balanced) (code : Code κ) (frame : Frame)
    (world : World κ) :
    frame.Balances world.heap { frame with guards := [] } (code.run enter frame world).2.heap := by
  induction code using Code.follows_wellFounded.induction generalizing frame world with
  | _ code ih =>
    rw [Code.run_eq_step]
    cases stepped : code.step enter frame world with
    | ended outcome last =>
      intro cell one there
      rw [Code.step_ended stepped]
      exact ⟨_, frame.dropGuards_cell there, rfl, rfl⟩
    | rest rest frame' last =>
      have effect := Code.step_effect stepped
      exact (effect.balances balanced).trans (ih rest ⟨_, _, _, _, _, stepped⟩ frame' last)

theorem Code.run_balanced (balanced : enter.Balanced) (code : Code κ) (receiver : Option Nat)
    (world : World κ) : world.Balanced (code.run enter ⟨receiver, []⟩ world).2 :=
  code.run_balances balanced ⟨receiver, []⟩ world

theorem Heap.borrowExclusive?_cell {heap taken : Heap κ} {claimed : Nat}
    (granted : heap.borrowExclusive? claimed = some taken) :
    ∃ one, heap.cells[claimed]? = some one ∧ one.borrow = .free ∧
      taken = heap.setBorrow claimed .exclusive := by
  obtain ⟨borrow, claimed, rfl⟩ := Option.map_eq_some_iff.mp granted
  obtain ⟨before, found, claimed⟩ := Option.bind_eq_some_iff.mp claimed
  obtain ⟨one, there, rfl⟩ := Option.map_eq_some_iff.mp found
  cases held : one.borrow with
  | free =>
    rw [held] at claimed
    cases claimed
    exact ⟨one, there, held, rfl⟩
  | _ =>
    rw [held] at claimed
    cases claimed

/-- What a private copy was made of: an instance of a value class that nobody writes to. -/
theorem Heap.copyOut_ok {heap copied : Heap κ} {object : HostObject κ} {cell : Nat}
    (made : heap.copyOut object = .ok (cell, copied)) :
    object.type.semantics = .value ∧ ∃ one state, heap.cells[object.cell]? = some one ∧
      one.borrow.share?.isSome = true ∧ one.stateAs object.type.key = some state ∧
      cell = heap.cells.size ∧ copied = (heap.allocate object.type.key state).2 := by
  rw [copyOut] at made
  split at made
  · cases made
  · next value =>
    refine ⟨value, ?_⟩
    rw [readObject] at made
    cases found : heap.cells[object.cell]? with
    | none =>
      rw [found] at made
      cases made
    | some one =>
      simp only [found] at made
      cases readable : one.borrow.share?.isSome with
      | false =>
        simp only [readable] at made
        cases made
      | true =>
        simp only [readable, if_true] at made
        cases held : one.stateAs object.type.key with
        | none =>
          rw [held] at made
          cases made
        | some state =>
          rw [held] at made
          cases made
          exact ⟨one, state, rfl, readable, held, rfl, rfl⟩

/-- A call on a live instance gives the instance back. -/
theorem runVirtual_balanced (balanced : enter.Balanced) (object : HostObject κ) (code : Code κ)
    (world : World κ) : world.Balanced (runVirtual enter object code world).2 := by
  rw [runVirtual]
  split
  · exact .refl world
  · next heap granted =>
    obtain ⟨held, found, free, rfl⟩ := Heap.borrowExclusive?_cell granted
    intro cell one there
    have inside := code.run_balanced balanced (some object.cell)
      { world with heap := world.heap.setBorrow object.cell .exclusive }
    obtain ⟨other, moved, key, borrow⟩ :=
      inside cell _ (Heap.setBorrow_cell there object.cell .exclusive)
    refine ⟨_, Heap.setBorrow_cell moved object.cell .free, ?_, ?_⟩
    · rw [apply_ite Cell.key, ite_self, key]
      split <;> rfl
    · by_cases here : object.cell = cell
      · subst here
        obtain rfl : held = one := by simpa [found] using there
        simp [free]
      · simp only [if_neg here] at borrow ⊢
        exact borrow

theorem runCopied_balanced (balanced : enter.Balanced) (object : HostObject κ) (code : Code κ)
    (world : World κ) : world.Balanced (runCopied enter object code world).2 := by
  rw [runCopied]
  split
  · exact .refl world
  · next cell heap copied =>
    obtain ⟨-, -, state, -, -, -, -, rfl⟩ := Heap.copyOut_ok copied
    have allocated : world.Balanced
        { world with heap := (world.heap.allocate object.type.key state).2 } :=
      fun _ one there => ⟨one, Heap.allocate_cell there _ state, rfl, rfl⟩
    exact allocated.trans (code.run_balanced balanced (some cell) _)

theorem Handler.run_balanced (balanced : enter.Balanced) (handler : Handler κ)
    (args : List (Value κ)) (world : World κ) :
    world.Balanced (handler.run enter args world).2 := by
  unfold Handler.run
  split
  · exact Code.run_balanced balanced _ none world
  · exact Code.run_balanced balanced _ none world
  · unfold runOnReceiver
    split
    · exact .refl world
    · split
      · exact runVirtual_balanced balanced _ _ world
      · exact runCopied_balanced balanced _ _ world
      · exact runCopied_balanced balanced _ _ world
    · exact .refl world

end

/-- Decoding arguments leaves instances alone. -/
theorem acceptEach_cells {registry : Option (Registry κ)} {memory : Memory}
    {slots : List (MarshalSlot κ)} {raws : List RawValue} {heap after : Heap κ}
    {values : List (Value κ)} {writeBacks : List WriteBack}
    (accepted : acceptEach registry memory slots raws heap = .ok (values, writeBacks, after)) :
    after.cells = heap.cells := by
  induction slots generalizing raws heap values writeBacks with
  | nil =>
    cases accepted
    rfl
  | cons slot slots ih =>
    cases raws with
    | nil =>
      cases accepted
      rfl
    | cons raw raws =>
      obtain ⟨value, first, middle, later, rest, one, others, rfl, rfl⟩ := acceptEach_cons accepted
      rw [ih others]
      obtain ⟨address, -, -, -, rfl⟩ | ⟨-, -, rfl⟩ := accept_cases one
      · rfl
      · rfl

namespace ClosureCall

variable {call : ClosureCall κ}

theorem accepted_cells {args : List (Value κ)} {writeBacks : List WriteBack} {heap : Heap κ}
    (accepted : call.accepted = .ok (args, writeBacks, heap)) :
    heap.cells = call.world.heap.cells :=
  acceptEach_cells (accepted_each accepted)

theorem accepted_aside {args : List (Value κ)} {writeBacks : List WriteBack} {heap : Heap κ}
    (accepted : call.accepted = .ok (args, writeBacks, heap)) :
    call.world.Aside { call.world with heap := heap } :=
  .of_same (accepted_cells accepted) rfl rfl

theorem left_balanced (call : ClosureCall κ) (balanced : (enterAt (κ := κ) call.depth).Balanced) :
    call.world.Balanced call.left := by
  rw [left, inside]
  cases accepted : call.accepted with
  | error error => exact .refl _
  | ok decoded =>
    rcases decoded with ⟨args, writeBacks, heap⟩
    have begun : call.world.Balanced { call.world with heap := heap } :=
      .of_cells (accepted_cells accepted)
    exact begun.trans (call.closure.handler.run_balanced balanced args _)

theorem after_balanced (call : ClosureCall κ)
    (balanced : (enterAt (κ := κ) call.depth).Balanced) : call.world.Balanced call.after :=
  (call.left_balanced balanced).trans (.of_cells (congrArg Heap.cells call.after_heap))

theorem finish_thunks (call : ClosureCall κ) (writeBacks : List WriteBack)
    {ended : Outcome (Value κ) × World κ} (thunks : ended.2.OnlyThunks) :
    (call.finish writeBacks ended).2.OnlyThunks := by
  rcases ended with ⟨outcome, left⟩
  cases outcome with
  | panicked message => exact thunks
  | returned result =>
    cases result with
    | error error => exact thunks
    | ok value =>
      rw [finish]
      obtain same | ⟨bytes, same⟩ | ⟨registry, object, same⟩ := call.closure.give_cases
        call.address value (applyWriteBacks writeBacks left)
      · rw [same]
        exact thunks
      · have written : ((applyWriteBacks writeBacks left).allocateCString bytes).2.OnlyThunks :=
          thunks
        rw [same]
        exact written.noteReturned _ _
      · rw [same]
        exact thunks

theorem after_thunks (call : ClosureCall κ) (thunks : call.left.OnlyThunks) :
    call.after.OnlyThunks := by
  have dispatched : call.dispatched.2.OnlyThunks := by
    rw [dispatched_eq]
    rw [left, inside] at thunks
    cases accepted : call.accepted with
    | error error =>
      rw [accepted] at thunks
      exact thunks
    | ok decoded =>
      rw [accepted] at thunks
      exact call.finish_thunks _ thunks
  rw [World.OnlyThunks, call.after_same.2.2]
  exact dispatched

end ClosureCall

/-- Native code leaves all instances borrowed as they were, whatever host code it enters. -/
theorem enterAt_balanced (depth : Nat) : (enterAt (κ := κ) depth).Balanced := by
  -- A closure entered at one depth enters others at the depth below only.
  induction depth with
  | zero =>
    intro address result raws world
    exact .refl world
  | succ depth ih =>
    intro address result raws world
    simp only [enterAt]
    cases world.codeAt? address with
    | none => exact .refl world
    | some code =>
      cases code with
      | foreign parameters run => exact .of_cells rfl
      | closure closure =>
        let call : ClosureCall κ := ⟨depth, address, closure, raws, world⟩
        have after : (closure.enter (enterAt depth) address raws world).2 = call.after :=
          JournalLaw.enter_after closure depth address raws world
        simp only [after]
        exact call.after_balanced ih

end NativeBridge
