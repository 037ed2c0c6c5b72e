/-
Module: NativeBridge.Proofs.StoredValueRuns
Purpose: Host code that respects stored values keeps them, in every run and under every nested call.
Main exports: Frame.Safe, Entry.KeepsValues, Code.Effect.spares, Code.step_sound, Code.trace_sound,
  Handler.trace_sound, ClosureCall.trace_sound, enterTrace_sound
-/
import Mathlib.Data.List.Nodup
import NativeBridge.Proofs.StoredValues

namespace NativeBridge

variable {κ : Type} [HostProgram κ]

/-!
The invariant is kept by one request after the other.  A request that is answered by native code
enters other host code, whose moments lie within it; so what is shown of a run at one depth is first
shown of the runs below it.
-/

/-! ### Running code -/

/-- Code that runs on no stored value, and holds for itself what it may write to. -/
structure Frame.Safe (past : List (Moment κ)) (frame : Frame) (world : World κ) : Prop where
  receiver : ∀ cell, frame.receiver = some cell → cell < world.heap.cells.size ∧
    ∀ object ∈ made past, object.cell = cell → object.type.semantics = .reference
  owned : ∀ guard ∈ frame.guards, guard.exclusive = true →
    world.heap.borrowAt? guard.cell = some .exclusive
  single : (frame.guards.filter Guard.exclusive).Nodup

/-- Objects made in a part of a trace are in new cells. -/
def Fresh (world : World κ) (events : List (Moment κ)) : Prop :=
  ∀ object ∈ made events, world.heap.cells.size ≤ object.cell

/-- Where every instance is still there, there are no fewer cells. -/
theorem Heap.size_le_of_cells {before after : Heap κ}
    (kept : ∀ (cell : Nat) (one : Cell κ), before.cells[cell]? = some one →
      ∃ other, after.cells[cell]? = some other) : before.cells.size ≤ after.cells.size := by
  rcases Nat.eq_zero_or_pos before.cells.size with empty | some_there
  · rw [empty]
    exact Nat.zero_le _
  · have last : before.cells.size - 1 < before.cells.size := Nat.sub_lt some_there Nat.one_pos
    obtain ⟨other, there⟩ := kept _ _ (Array.getElem?_eq_getElem last)
    have inside := (Array.getElem?_eq_some_iff.mp there).1
    omega

theorem Frame.Balances.size_le {frame frame' : Frame} {before after : Heap κ}
    (balances : frame.Balances before frame' after) : before.cells.size ≤ after.cells.size :=
  Heap.size_le_of_cells fun cell one there =>
    let ⟨other, moved, _⟩ := balances cell one there
    ⟨other, moved⟩

theorem World.Balanced.size_le {before after : World κ} (balanced : before.Balanced after) :
    before.heap.cells.size ≤ after.heap.cells.size :=
  (Frame.Balances.of_balanced .bare balanced).size_le

theorem made_append (events more : List (Moment κ)) :
    made (events ++ more) = made events ++ made more :=
  List.filterMap_append

namespace Fresh

variable {world world' : World κ} {events more : List (Moment κ)}

theorem of_none (nothing : made events = []) : Fresh world events := by
  intro object among
  rw [nothing] at among
  cases among

theorem earlier (grown : world.heap.cells.size ≤ world'.heap.cells.size)
    (fresh : Fresh world' events) : Fresh world events :=
  fun object among => Nat.le_trans grown (fresh object among)

theorem append (one : Fresh world events) (grown : world.heap.cells.size ≤ world'.heap.cells.size)
    (two : Fresh world' more) : Fresh world (events ++ more) := by
  intro object among
  rw [made_append] at among
  rcases List.mem_append.mp among with among | among
  · exact one object among
  · exact two.earlier grown object among

end Fresh

namespace Frame.Safe

variable {past events : List (Moment κ)} {frame : Frame} {world world' : World κ}

/-- Code stays safe while other code runs. -/
theorem after (safe : frame.Safe past world) (fresh : Fresh world events)
    (balanced : world.Balanced world') : frame.Safe (past ++ events) world' := by
  refine ⟨?_, ?_, safe.single⟩
  · intro cell receiver
    obtain ⟨inside, shared⟩ := safe.receiver cell receiver
    refine ⟨Nat.lt_of_lt_of_le inside balanced.size_le, ?_⟩
    intro object among here
    rw [made_append] at among
    rcases List.mem_append.mp among with among | among
    · exact shared object among here
    · have new := fresh object among
      omega
  · intro guard among exclusive
    obtain ⟨one, there, held⟩ := Option.map_eq_some_iff.mp (safe.owned guard among exclusive)
    obtain ⟨other, moved, -, borrow⟩ := balanced _ one there
    rw [Heap.borrowAt?_of_cell moved, borrow, held]

/-- Another borrow leaves code safe. -/
theorem borrow {frame' : Frame} {cell : Nat} {exclusive : Bool} {heap : Heap κ}
    (safe : frame.Safe past world)
    (granted : frame.borrow cell exclusive world.heap = some (frame', heap)) :
    frame'.Safe past { world with heap := heap } := by
  obtain ⟨one, borrow, there, taken, rfl, rfl⟩ := Frame.borrow_some granted
  -- The instance was not held for writing, so that the new guard is none of the old ones.
  have free : ∀ guard ∈ frame.guards, guard.exclusive = true → guard.cell ≠ cell := by
    rintro guard among held rfl
    have owned := safe.owned guard among held
    rw [Heap.borrowAt?_of_cell there] at owned
    have writing : one.borrow = .exclusive := Option.some.inj owned
    cases exclusive with
    | true => simp [writing] at taken
    | false => simp [writing, Borrow.share?] at taken
  refine ⟨?_, ?_, ?_⟩
  · intro receiver same
    obtain ⟨inside, shared⟩ := safe.receiver receiver same
    exact ⟨by simpa [Heap.setBorrow] using inside, shared⟩
  · intro guard among held
    rcases List.mem_cons.mp among with rfl | among
    · rw [Heap.borrowAt?_of_cell (Heap.setBorrow_cell there cell borrow), if_pos rfl]
      have writing : exclusive = true := held
      rw [writing, if_pos rfl] at taken
      exact congrArg some taken.2
    · obtain ⟨other, found, writing⟩ := Option.map_eq_some_iff.mp (safe.owned guard among held)
      have apart := free guard among held
      rw [Heap.borrowAt?_of_cell (Heap.setBorrow_cell found cell borrow), if_neg apart.symm,
        writing]
  · rw [List.filter_cons]
    split
    next writing =>
      refine List.nodup_cons.mpr ⟨?_, safe.single⟩
      intro among
      obtain ⟨among, held⟩ := List.mem_filter.mp among
      exact free _ among held rfl
    next => exact safe.single

/-- A borrow that is given up leaves code safe. -/
theorem endBorrow (safe : frame.Safe past world) (cell : Nat) :
    (frame.endBorrow cell world.heap).1.Safe past
      { world with heap := (frame.endBorrow cell world.heap).2 } := by
  rw [Frame.endBorrow]
  split
  next guard found =>
    have size : (guard.drop world.heap).cells.size = world.heap.cells.size := by
      unfold Guard.drop Heap.endExclusive Heap.endShared
      split
      · simp [Heap.setBorrow]
      · split <;> simp [Heap.setBorrow]
    refine ⟨?_, ?_, ?_⟩
    · intro receiver same
      obtain ⟨inside, shared⟩ := safe.receiver receiver same
      exact ⟨by rw [size]; exact inside, shared⟩
    · intro other among held
      have before := List.mem_of_mem_erase among
      obtain ⟨one, there, writing⟩ := Option.map_eq_some_iff.mp (safe.owned other before held)
      rw [Heap.borrowAt?_of_cell (guard.drop_cell there)]
      refine congrArg some ?_
      show guard.dropAt other.cell one.borrow = .exclusive
      unfold Guard.dropAt
      by_cases here : guard.cell = other.cell
      · cases exclusive : guard.exclusive with
        | true =>
          -- Two guards for writing to one instance are one guard.
          have same : guard = other := by
            rcases guard with ⟨cell, writes⟩
            rcases other with ⟨cell', writes'⟩
            simp_all
          subst same
          have once := List.nodup_iff_count_le_one.mp safe.single guard
          rw [List.count_filter held] at once
          have remaining := List.count_pos_iff.mpr among
          rw [List.count_erase_self] at remaining
          omega
        | false => simp [here, writing, Borrow.unshare]
      · simp [here, writing]
    · exact safe.single.sublist ((List.erase_sublist).filter _)
  next => exact safe

end Frame.Safe

/-- A moment of host code that makes nothing and asks nothing of a registry. -/
theorem Code.untouched_of_plain {code : Code κ} (plain : code.isPlain = true) (frame : Frame)
    (world : World κ) :
    (Moment.working code frame world).makes = none ∧
      (∀ registry handle, ¬ (Moment.working code frame world).Touches registry handle) ∧
      ∀ inner, code.nested inner world = [] := by
  cases code with
  | newObject | call | callRaw | allocateHandle | releaseHandle => cases plain
  | marshal type carried next =>
    cases type with
    | copied key => cases plain
    | _ => exact ⟨rfl, Moment.untouched rfl rfl, fun _ => rfl⟩
  | _ => exact ⟨rfl, Moment.untouched rfl rfl, fun _ => rfl⟩

/-- A way of calling native addresses under which stored values keep their states. -/
def Entry.KeepsValues (enter : Entry κ) (inner : EntryTrace κ) : Prop :=
  ∀ past address result raws world, Sound past world →
    Throughout Moment.Respects (past ++ inner address raws world) →
      Sound (past ++ inner address raws world) (enter address result raws world).2 ∧
        Fresh world (inner address raws world)

section

variable {enter : Entry κ} {inner : EntryTrace κ} {past : List (Moment κ)} {world : World κ}

theorem ForeignFunction.rawTrace_sound (entry : enter.KeepsValues inner)
    (function : ForeignFunction κ) (args : List RawValue) (sound : Sound past world)
    (respects : Throughout Moment.Respects (past ++ function.rawTrace inner args world)) :
    Sound (past ++ function.rawTrace inner args world) (function.callRaw enter args world).2 ∧
      Fresh world (function.rawTrace inner args world) := by
  have silent : Sound (past ++ []) world ∧ Fresh world [] :=
    ⟨by rwa [List.append_nil], .of_none rfl⟩
  rw [rawTrace] at respects ⊢
  simp only [callRaw] at respects ⊢
  by_cases arity : args.length = function.type.signature.parameters.length
  · cases fault : rawFault function.type.signature.parameters args with
    | some error =>
      simp only [fault, arity] at respects ⊢
      exact silent
    | none =>
      simp only [fault, arity, and_self, if_true] at respects ⊢
      exact entry past _ _ args world sound respects
  · simp only [arity, false_and, if_false] at respects ⊢
    exact silent

theorem ForeignFunction.trace_sound (entry : enter.KeepsValues inner)
    (function : ForeignFunction κ) (args : List (Value κ)) (sound : Sound past world)
    (respects : Throughout Moment.Respects (past ++ function.trace inner args world)) :
    Sound (past ++ function.trace inner args world) (function.call enter args world).2 ∧
      Fresh world (function.trace inner args world) := by
  have silent : Sound (past ++ []) world ∧ Fresh world [] :=
    ⟨by rwa [List.append_nil], .of_none rfl⟩
  rw [call_eq_encoded]
  rw [trace] at respects ⊢
  cases encoded : function.encoded args world with
  | panicked message => exact silent
  | returned encodes =>
    cases encodes with
    | error error => exact silent
    | ok parts =>
      rcases parts with ⟨raws, lent, memory⟩
      simp only [encoded] at respects ⊢
      have started : world.Aside (nativeStart world memory) := .of_same rfl rfl rfl
      obtain ⟨native, fresh⟩ := function.rawTrace_sound entry raws (sound.spared started.spares)
        respects
      have aside := function.callEncoded_aside enter raws lent { world with memory := memory }
      exact ⟨native.spared aside.spares, fresh⟩

/-- What the frame holds for writing is read by nobody. -/
theorem Frame.Safe.unreadable {frame : Frame} (safe : frame.Safe past world) {cell : Nat}
    (held : frame.mayWrite cell = true) : world.heap.isReadable cell = false := by
  obtain ⟨guard, among, matching⟩ := List.any_eq_true.mp held
  simp only [Bool.and_eq_true, beq_iff_eq] at matching
  obtain ⟨rfl, exclusive⟩ := matching
  rw [Heap.isReadable, safe.owned guard among exclusive]
  rfl

variable {code : Code κ} {frame frame' : Frame} {world' : World κ}

theorem Borrow.readable_of_share? {borrow more : Borrow} (shared : borrow.share? = some more) :
    more.share?.isSome = true := by
  cases borrow <;> cases shared <;> rfl

theorem Guard.dropAt_readable (guard : Guard) (cell : Nat) {borrow : Borrow}
    (readable : borrow.share?.isSome = true) :
    (guard.dropAt cell borrow).share?.isSome = true := by
  unfold Guard.dropAt
  split
  · split
    · rfl
    · cases borrow with
      | shared others => cases others <;> rfl
      | _ => exact readable
  · exact readable

/-- A request that makes nothing and asks nothing of a registry leaves stored values alone: host code
borrows none for writing, holds none for writing, and runs on none. -/
theorem Code.Effect.spares (effect : Code.Effect enter frame world code frame' world')
    (plain : code.isPlain = true) (balanced : enter.Balanced) (sound : Sound past world)
    (safe : frame.Safe past world) (respects : (Moment.working code frame world).Respects past) :
    world.Spares world' := by
  have keys : ∀ (cell : Nat) (one : Cell κ), world.heap.cells[cell]? = some one →
      ∃ other, world'.heap.cells[cell]? = some other ∧ other.key = one.key := by
    intro cell one there
    obtain ⟨other, moved, key, -⟩ := effect.balances balanced cell one there
    exact ⟨other, moved, key⟩
  cases effect with
  | makes | carries | calls | callsRaw | issues | releases => cases plain
  | aside _ aside => exact aside.spares
  | @borrows object exclusive _ heap next granted =>
    refine ⟨rfl, id, keys, ?_⟩
    intro registry handle stored found value readable one there
    obtain ⟨held, borrow, wanted, taken, -, rfl⟩ := Frame.borrow_some granted
    have moved := Heap.setBorrow_cell there object.cell borrow
    by_cases here : object.cell = stored.cell
    · rw [if_pos here] at moved
      rw [here] at wanted
      obtain rfl : held = one := by simpa [wanted] using there
      cases exclusive with
      | true =>
        have seized := Code.seizes_of_granted granted next
        exact absurd here.symm (respects.unseized _ seized registry handle stored found value)
      | false => exact ⟨borrow, moved, fun _ => Borrow.readable_of_share? (by simpa using taken)⟩
    · rw [if_neg here] at moved
      exact ⟨one.borrow, moved, id⟩
  | returns object next =>
    refine ⟨rfl, id, keys, ?_⟩
    intro registry handle stored found value readable one there
    simp only [Frame.endBorrow]
    split
    next guard _ =>
      exact ⟨_, guard.drop_cell there, fun readable => guard.dropAt_readable _ readable⟩
    next => exact ⟨one.borrow, there, id⟩
  | @writes object key state next held =>
    refine ⟨rfl, id, keys, ?_⟩
    intro registry handle stored found value readable one there
    obtain ⟨other, moved, -, -, same⟩ := Heap.setState_cell there object.cell key state
    have apart : object.cell ≠ stored.cell := by
      intro here
      rw [here] at held
      rw [safe.unreadable held] at readable
      cases readable
    rw [same apart] at moved
    exact ⟨one.borrow, moved, id⟩
  | @edits cell key state next receiver =>
    refine ⟨rfl, id, keys, ?_⟩
    intro registry handle stored found value readable one there
    obtain ⟨other, moved, -, -, same⟩ := Heap.setState_cell there cell key state
    have apart : cell ≠ stored.cell := by
      intro here
      have shared := (safe.receiver cell receiver).2 stored
        (sound.stored registry handle stored found) here.symm
      rw [value] at shared
      cases shared
    rw [same apart] at moved
    exact ⟨one.borrow, moved, id⟩

theorem World.balanced_setState (world : World κ) (cell : Nat) (key : κ)
    (state : HostProgram.State key) :
    world.Balanced { world with heap := world.heap.setState cell key state } := by
  intro other one there
  obtain ⟨moved, found, key, borrow, -⟩ := Heap.setState_cell there cell key state
  exact ⟨moved, found, key, borrow⟩

/-- Such a request leaves the code safe. -/
theorem Code.Effect.safe (effect : Code.Effect enter frame world code frame' world')
    (plain : code.isPlain = true) (safe : frame.Safe past world) :
    frame'.Safe past world' := by
  have kept {after : World κ} (balanced : world.Balanced after) : frame.Safe past after := by
    have fresh : Fresh world ([] : List (Moment κ)) := .of_none rfl
    simpa using safe.after fresh balanced
  cases effect with
  | makes | carries | calls | callsRaw | issues | releases => cases plain
  | aside _ aside => exact kept (.of_cells aside.cells)
  | borrows next granted => exact safe.borrow granted
  | returns object next => exact safe.endBorrow object.cell
  | writes key state next held => exact kept (world.balanced_setState _ key state)
  | edits key state next receiver => exact kept (world.balanced_setState _ key state)

theorem World.balanced_allocate (world : World κ) (key : κ) (state : HostProgram.State key) :
    world.Balanced { world with heap := (world.heap.allocate key state).2 } :=
  fun _ one there => ⟨one, Heap.allocate_cell there key state, rfl, rfl⟩

/-- A moment that makes nothing, with what is nested in it. -/
theorem Fresh.cons {moment : Moment κ} {events : List (Moment κ)} (nothing : moment.makes = none)
    (fresh : Fresh world events) : Fresh world (moment :: events) := by
  have same : made (moment :: events) = made events := by simp [made, nothing]
  rwa [Fresh, same]

/-- What a request that makes an object keeps. -/
theorem Sound.making {moment : Moment κ} (sound : Sound past moment.world)
    (safe : frame.Safe past moment.world) {type : ObjectType κ}
    (makes : moment.makes = some ⟨moment.world.heap.cells.size, type⟩)
    (untouched : ∀ registry handle, ¬ moment.Touches registry handle)
    (state : HostProgram.State type.key) :
    let after := { moment.world with heap := (moment.world.heap.allocate type.key state).2 }
    Sound (past ++ [moment]) after ∧ frame.Safe (past ++ [moment]) after ∧
      Fresh moment.world [moment] ∧
      moment.world.heap.cells.size ≤ after.heap.cells.size := by
  intro after
  have fresh : Fresh moment.world [moment] := by
    intro object among
    have same : object = ⟨moment.world.heap.cells.size, type⟩ := by
      simpa [made, makes] using among
    exact Nat.le_of_eq (congrArg HostObject.cell same).symm
  have balanced := moment.world.balanced_allocate type.key state
  exact ⟨sound.make makes untouched state, safe.after fresh balanced, fresh, balanced.size_le⟩

/-- What one request of host code keeps. -/
theorem Code.step_sound (entry : enter.KeepsValues inner) (balanced : enter.Balanced)
    {rest : Code κ} (stepped : code.step enter frame world = .rest rest frame' world')
    (sound : Sound past world) (safe : frame.Safe past world)
    (respects : Throughout Moment.Respects
      (past ++ .working code frame world :: code.nested inner world)) :
    let events := Moment.working code frame world :: code.nested inner world
    Sound (past ++ events) world' ∧ frame'.Safe (past ++ events) world' ∧
      Fresh world events ∧ world.heap.cells.size ≤ world'.heap.cells.size := by
  intro events
  have effect := Code.step_effect stepped
  have grown := (effect.balances balanced).size_le
  by_cases plain : code.isPlain = true
  · obtain ⟨nothing, untouched, silent⟩ := Code.untouched_of_plain plain frame world
    have alone : events = [.working code frame world] := by simp only [events, silent]
    have fresh : Fresh world events := alone ▸ .cons nothing (.of_none rfl)
    have noted : Sound (past ++ events) world := alone ▸ sound.note nothing untouched
    have spares := effect.spares plain balanced sound safe respects.here
    exact ⟨noted.spared spares, effect.safe plain (safe.after fresh (.refl world)), fresh, grown⟩
  · have regrouped (moment : Moment κ) (more : List (Moment κ)) :
        past ++ moment :: more = (past ++ [moment]) ++ more := by simp
    cases effect with
    | aside simple => exact absurd simple plain
    | borrows | returns | writes | edits => exact absurd rfl plain
    | makes type state next => exact sound.making safe rfl (Moment.untouched rfl rfl) state
    | carries key state next =>
      have makes : (Moment.working (.marshal (.copied key) state next) frame world).makes =
        some ⟨world.heap.cells.size, ⟨key, .value⟩⟩ := rfl
      exact sound.making safe makes (Moment.untouched rfl rfl) state
    | @calls function args result _ next called =>
      let moment := Moment.working (.call function args next) frame world
      have noted : Sound (past ++ [moment]) world := sound.note rfl (Moment.untouched rfl rfl)
      rw [regrouped] at respects
      obtain ⟨native, fresh⟩ := function.trace_sound entry args noted respects
      have kept := function.call_balanced balanced args world
      rw [called] at native kept
      have whole : Fresh world events := .cons rfl fresh
      refine ⟨?_, safe.after whole kept, whole, grown⟩
      rw [show events = moment :: function.trace inner args world from rfl, regrouped]
      exact native
    | callsRaw function args next =>
      let moment := Moment.working (.callRaw function args next) frame world
      have noted : Sound (past ++ [moment]) world := sound.note rfl (Moment.untouched rfl rfl)
      rw [regrouped] at respects
      obtain ⟨native, fresh⟩ := function.rawTrace_sound entry args noted respects
      have whole : Fresh world events := .cons rfl fresh
      refine ⟨?_, safe.after whole (function.callRaw_balanced balanced args world), whole, grown⟩
      rw [show events = moment :: function.rawTrace inner args world from rfl, regrouped]
      exact native
    | issues registry object next =>
      have whole : Fresh world events := .cons rfl (.of_none rfl)
      have same : world.Balanced (world.allocateHandle registry object).2 := .of_cells rfl
      exact ⟨sound.issue respects.here rfl rfl rfl (.refl _), safe.after whole same, whole, grown⟩
    | releases registry handle next =>
      have whole : Fresh world events := .cons rfl (.of_none rfl)
      have same : world.Balanced (world.releaseHandle registry handle).2 :=
        .of_cells (congrArg Heap.cells (world.releaseHandle_aside registry handle).1)
      exact ⟨sound.release rfl rfl rfl, safe.after whole same, whole, grown⟩

/-- Host code ends without entering native code. -/
theorem Code.ended_alone (inner : EntryTrace κ) {outcome : Outcome (Value κ)} {left : World κ}
    (stepped : code.step enter frame world = .ended outcome left) :
    code.nested inner world = [] ∧ (Moment.working code frame world).makes = none ∧
      ∀ registry handle, ¬ (Moment.working code frame world).Touches registry handle := by
  cases code with
  | done | panic => exact ⟨rfl, rfl, Moment.untouched rfl rfl⟩
  | call function args next =>
    refine ⟨?_, rfl, Moment.untouched rfl rfl⟩
    simp only [Code.step] at stepped
    split at stepped
    next called => rw [nested, ForeignFunction.trace, (ForeignFunction.call_panicked called).2]
    next => cases stepped
  | borrow | writeObject | writeReceiver =>
    simp only [Code.step] at stepped
    split at stepped <;> cases stepped
  | _ => cases stepped

theorem Frame.freed_readable (frame : Frame) (cell : Nat) {borrow : Borrow}
    (readable : borrow.share?.isSome = true) : (frame.freed cell borrow).share?.isSome = true := by
  unfold Frame.freed
  induction frame.guards generalizing borrow with
  | nil => exact readable
  | cons guard guards ih => exact ih (guard.dropAt_readable cell readable)

theorem World.spares_dropGuards (world : World κ) (frame : Frame) :
    world.Spares { world with heap := frame.dropGuards world.heap } := by
  refine ⟨rfl, id, ?_, ?_⟩
  · intro cell one there
    exact ⟨_, frame.dropGuards_cell there, rfl⟩
  · intro _ _ object _ _ _ one there
    exact ⟨_, frame.dropGuards_cell there, frame.freed_readable object.cell⟩

/-- What a run of host code keeps. -/
theorem Code.trace_sound (entry : enter.KeepsValues inner) (balanced : enter.Balanced)
    (sound : Sound past world) (safe : frame.Safe past world)
    (respects : Throughout Moment.Respects (past ++ code.trace enter inner frame world)) :
    Sound (past ++ code.trace enter inner frame world) (code.run enter frame world).2 ∧
      Fresh world (code.trace enter inner frame world) := by
  -- What follows a request depends on its answer, so the induction is on what may follow.
  induction code using Code.follows_wellFounded.induction generalizing past frame world with
  | _ code ih =>
    rw [Code.run_eq_step]
    cases stepped : code.step enter frame world with
    | ended outcome left =>
      obtain ⟨silent, nothing, untouched⟩ := Code.ended_alone inner stepped
      rw [Code.trace_ended stepped, silent]
      have noted : Sound (past ++ [.working code frame world]) world :=
        sound.note nothing untouched
      have dropped := noted.spared (world.spares_dropGuards frame)
      rw [← Code.step_ended stepped] at dropped
      exact ⟨dropped, .cons nothing (.of_none rfl)⟩
    | rest rest frame' last =>
      have parted : code.trace enter inner frame world =
          (.working code frame world :: code.nested inner world) ++
            rest.trace enter inner frame' last := by
        rw [Code.trace_rest stepped, List.cons_append]
      rw [parted, ← List.append_assoc] at respects
      obtain ⟨kept, still, fresh, grown⟩ :=
        Code.step_sound entry balanced stepped sound safe respects.front
      obtain ⟨last, later⟩ := ih rest ⟨_, _, _, _, _, stepped⟩ kept still respects
      rw [parted, ← List.append_assoc]
      exact ⟨last, fresh.append grown later⟩

/-- Code that is called on nothing is safe. -/
theorem Frame.Safe.bare : Frame.bare.Safe past world :=
  ⟨fun _ receiver => (by cases receiver), List.forall_mem_nil _, List.nodup_nil⟩

/-- A member may run on the live instance behind an object of a reference class. -/
theorem Sound.claim (sound : Sound past world) {object : HostObject κ} {heap : Heap κ}
    (known : object ∈ made past) (shared : object.type.semantics = .reference)
    (granted : world.heap.borrowExclusive? object.cell = some heap) :
    Sound past { world with heap := heap } ∧
      (Frame.onReceiver object.cell).Safe past { world with heap := heap } := by
  obtain ⟨held, there, free, rfl⟩ := Heap.borrowExclusive?_cell granted
  have alone : ∀ other ∈ made past, other.cell = object.cell →
      other.type.semantics = .reference := by
    intro other among same
    rw [sound.apart other among object known same]
    exact shared
  constructor
  · apply sound.spared
    refine ⟨rfl, id, ?_, ?_⟩
    · intro cell one there
      exact ⟨_, Heap.setBorrow_cell there _ _, by split <;> rfl⟩
    · intro registry handle stored found value readable one there
      refine ⟨one.borrow, ?_, id⟩
      have apart : object.cell ≠ stored.cell := by
        intro same
        have wrong := alone stored (sound.stored registry handle stored found) same.symm
        rw [value] at wrong
        cases wrong
      rw [Heap.setBorrow_cell there, if_neg apart]
  · refine ⟨?_, List.forall_mem_nil _, List.nodup_nil⟩
    rintro cell ⟨⟩
    have inside := (Array.getElem?_eq_some_iff.mp there).1
    exact ⟨by simpa [Heap.setBorrow] using inside, alone⟩

/-- A member may run on a private copy. -/
theorem Sound.copy (sound : Sound past world) {object : HostObject κ} {cell : Nat} {heap : Heap κ}
    (copied : world.heap.copyOut object = .ok (cell, heap)) :
    Sound past { world with heap := heap } ∧
      (Frame.onReceiver cell).Safe past { world with heap := heap } := by
  obtain ⟨-, one, state, -, -, -, rfl, rfl⟩ := Heap.copyOut_ok copied
  constructor
  · apply sound.spared
    refine ⟨rfl, id, ?_, ?_⟩
    · intro cell one there
      exact ⟨one, Heap.allocate_cell there _ state, rfl⟩
    · intro _ _ _ _ _ _
      exact .of_same fun _ there => Heap.allocate_cell there _ state
  · refine ⟨?_, List.forall_mem_nil _, List.nodup_nil⟩
    rintro cell ⟨⟩
    refine ⟨by simp [Heap.allocate], ?_⟩
    intro stored among here
    obtain ⟨_, there, -⟩ := sound.placed stored among
    have inside := (Array.getElem?_eq_some_iff.mp there).1
    omega

theorem World.spares_endExclusive (world : World κ) (cell : Nat) :
    world.Spares { world with heap := world.heap.endExclusive cell } := by
  refine ⟨rfl, id, ?_, ?_⟩
  · intro other one there
    exact ⟨_, Heap.setBorrow_cell there _ _, by split <;> rfl⟩
  · intro _ _ stored _ _ _ one there
    have moved := Heap.setBorrow_cell there cell .free
    by_cases here : cell = stored.cell
    · rw [if_pos here] at moved
      exact ⟨.free, moved, fun _ => rfl⟩
    · rw [if_neg here] at moved
      exact ⟨one.borrow, moved, id⟩

/-- What a run of the host code behind a closure keeps, if a live receiver is of a reference class. -/
theorem Handler.trace_sound (entry : enter.KeepsValues inner) (balanced : enter.Balanced)
    (handler : Handler κ) (args : List (Value κ)) (sound : Sound past world)
    (live : ∀ target object rest, handler = .member .virtual target →
      args = .object object :: rest → object ∈ made past ∧ object.type.semantics = .reference)
    (respects : Throughout Moment.Respects (past ++ handler.trace enter inner args world)) :
    Sound (past ++ handler.trace enter inner args world) (handler.run enter args world).2 ∧
      Fresh world (handler.trace enter inner args world) := by
  have silent : Sound (past ++ []) world ∧ Fresh world [] :=
    ⟨by rwa [List.append_nil], .of_none rfl⟩
  cases handler with
  | function body => exact Code.trace_sound entry balanced sound .bare respects
  | member dispatch target =>
    cases dispatch with
    | static => exact Code.trace_sound entry balanced sound .bare respects
    | virtual =>
      cases args with
      | nil => exact silent
      | cons first rest =>
        cases first with
        | object object =>
          obtain ⟨known, shared⟩ := live target object rest rfl rfl
          simp only [Handler.trace, Handler.start, Handler.run, runOnReceiver, runVirtual]
            at respects ⊢
          cases granted : world.heap.borrowExclusive? object.cell with
          | none =>
            simp only [granted] at respects ⊢
            exact silent
          | some heap =>
            simp only [granted] at respects ⊢
            obtain ⟨claimed, safe⟩ := sound.claim known shared granted
            obtain ⟨ran, fresh⟩ := Code.trace_sound entry balanced claimed safe respects
            obtain ⟨-, -, -, rfl⟩ := Heap.borrowExclusive?_cell granted
            refine ⟨ran.spared (World.spares_endExclusive _ object.cell), fresh.earlier ?_⟩
            simp [Heap.setBorrow]
        | _ => exact silent
    | copied =>
      cases args with
      | nil => exact silent
      | cons first rest =>
        cases first with
        | object object =>
          simp only [Handler.trace, Handler.start, Handler.run, runOnReceiver, runCopied]
            at respects ⊢
          cases copied : world.heap.copyOut object with
          | error error =>
            simp only [copied] at respects ⊢
            exact silent
          | ok copy =>
            rcases copy with ⟨cell, heap⟩
            simp only [copied] at respects ⊢
            obtain ⟨begun, safe⟩ := sound.copy copied
            obtain ⟨ran, fresh⟩ := Code.trace_sound entry balanced begun safe respects
            obtain ⟨-, -, state, -, -, -, -, rfl⟩ := Heap.copyOut_ok copied
            exact ⟨ran, fresh.earlier (world.balanced_allocate _ state).size_le⟩
        | _ => exact silent

end

/-! ### Calls of closures -/

/-- An object that is decoded stands behind the handle that was sent, and has the declared type. -/
theorem accept_object {registry : Option (Registry κ)} {memory : Memory} {type : ObjectType κ}
    {byHandle : Bool} {raw : RawValue} {heap after : Heap κ} {value : Value κ}
    {writeBacks : List WriteBack}
    (accepted : accept registry memory ⟨.object type, byHandle⟩ raw heap =
      .ok (value, writeBacks, after)) :
    ∃ handle cell table, raw = .pointer handle ∧ registry = some table ∧
      table.resolve handle = .ok ⟨cell, type⟩ ∧ value = .object ⟨cell, type⟩ := by
  cases raw with
  | pointer handle =>
    cases registry with
    | none => cases accepted
    | some table =>
      cases live : table.isLive handle with
      | false =>
        rw [accept_dead live] at accepted
        cases accepted
      | true =>
        obtain ⟨⟨cell, used⟩, found⟩ := Registry.isLive_iff_resolve.mp live
        rw [accept_live found] at accepted
        split at accepted
        · next same =>
          subst same
          cases accepted
          exact ⟨handle, cell, table, rfl, rfl, found, rfl⟩
        · cases accepted
  | _ => cases accepted

namespace ClosureCall

variable {call : ClosureCall κ} {registry : Nat} {member : Member κ}

/-- The receiver of a member is the object behind the first handle that its thunk was sent. -/
theorem accepted_receiver (thunk : call.closure.IsThunk registry member)
    (called : Dispatch.ofMember member ≠ .static) {values : List (Value κ)}
    {writeBacks : List WriteBack} {heap : Heap κ}
    (accepted : call.accepted = .ok (values, writeBacks, heap)) :
    ∃ handle cell args, call.args.head? = some (.pointer handle) ∧
      (call.world.registry registry).resolve handle = .ok ⟨cell, member.owner⟩ ∧
      values = .object ⟨cell, member.owner⟩ :: args := by
  have each := accepted_each accepted
  have length := thunk.length_args
  rw [thunk.plan, thunk.registry, thunkPlan_receiver called] at each
  rw [thunkPlan_receiver called] at length
  cases sent : call.args with
  | nil =>
    rw [sent] at length
    cases length
  | cons raw raws =>
    rw [sent] at each
    obtain ⟨value, first, middle, args, rest, one, -, rfl, -⟩ := acceptEach_cons each
    obtain ⟨handle, cell, table, rfl, known, found, rfl⟩ := accept_object one
    cases known
    exact ⟨handle, cell, args, rfl, found, rfl⟩

/-- After the host code of a call nothing happens to handles but that its result may get one. -/
theorem after_registries (call : ClosureCall κ) :
    call.after.registries =
      match call.handle? with
      | some (registry, _, object) => (call.left.allocateHandle registry object).2.registries
      | none => call.left.registries := by
  have effect := call.dispatched_effect
  have registries : call.after.registries = call.dispatched.2.registries := by
    rw [after]
    cases call.fault? <;> rfl
  rw [registries]
  cases handed : call.handle? with
  | none =>
    rw [handed] at effect
    exact effect.registries
  | some given =>
    rcases given with ⟨id, handle, object⟩
    rw [handed] at effect
    exact effect.2.2.registries

/-- After the host code of a call nothing happens but that its result may get a handle. -/
theorem after_aside (call : ClosureCall κ) (thunks : call.left.OnlyThunks) :
    match call.handle? with
    | some (registry, _, object) => (call.left.allocateHandle registry object).2.Aside call.after
    | none => call.left.Aside call.after := by
  have registries := call.after_registries
  have cells := congrArg Heap.cells call.after_heap
  have after := call.after_thunks thunks
  cases handed : call.handle? with
  | none =>
    rw [handed] at registries
    exact ⟨cells, registries, fun _ => after⟩
  | some given =>
    rcases given with ⟨id, handle, object⟩
    rw [handed] at registries
    exact ⟨cells, registries, fun _ => after⟩

theorem handle?_next {handle : UInt64} {object : HostObject κ}
    (handed : call.handle? = some (registry, handle, object)) :
    handle = (call.left.registry registry).next := by
  have effect := call.dispatched_effect
  rw [handed] at effect
  exact effect.2.1

variable {past : List (Moment κ)} {inner : EntryTrace κ}

/-- What the host code behind a closure keeps. -/
theorem insideTrace_sound (entry : (enterAt call.depth).KeepsValues inner)
    (sound : Sound past call.world) (proper : call.closure.IsProper)
    (respects : Throughout Moment.Respects (past ++ call.insideTrace inner)) :
    Sound (past ++ call.insideTrace inner) call.left ∧
      Fresh call.world (call.insideTrace inner) := by
  rw [insideTrace] at respects ⊢
  rw [left, inside]
  cases accepted : call.accepted with
  | error error => exact ⟨by simpa using sound, .of_none rfl⟩
  | ok decoded =>
    rcases decoded with ⟨values, writeBacks, heap⟩
    simp only [accepted] at respects ⊢
    have begun := sound.spared (accepted_aside accepted).spares
    have size : call.world.heap.cells.size ≤ heap.cells.size :=
      Nat.le_of_eq (congrArg Array.size (accepted_cells accepted)).symm
    have live : ∀ target object rest, call.closure.handler = .member .virtual target →
        values = .object object :: rest →
        object ∈ made past ∧ object.type.semantics = .reference := by
      intro target object rest handler same
      obtain ⟨registry, isThunk⟩ := proper _ target handler
      have dispatch : Dispatch.ofMember target = .virtual := by
        have same := handler.symm.trans isThunk.handler
        exact (Handler.member.inj same).1.symm
      obtain ⟨handle, cell, args, -, found, shape⟩ :=
        accepted_receiver isThunk (by rw [dispatch]; intro same; cases same) accepted
      rw [shape] at same
      cases same
      refine ⟨sound.stored registry handle _ found, ?_⟩
      show target.owner.semantics = .reference
      rw [Dispatch.ofMember] at dispatch
      split at dispatch
      · cases dispatch
      · split at dispatch
        · assumption
        · cases dispatch
    obtain ⟨ran, fresh⟩ := Handler.trace_sound entry (enterAt_balanced call.depth)
      call.closure.handler values begun live respects
    exact ⟨ran, fresh.earlier size⟩

/-- What a call of a closure keeps. -/
theorem trace_sound (entry : (enterAt call.depth).KeepsValues inner)
    (sound : Sound past call.world) (proper : call.closure.IsProper)
    (respects : Throughout Moment.Respects (past ++ call.trace inner)) :
    Sound (past ++ call.trace inner) call.after ∧ Fresh call.world (call.trace inner) := by
  have parted : past ++ call.trace inner =
      (((past ++ [.entered call]) ++ call.insideTrace inner) ++ [.left call]) ++
        [.answered call] := by
    simp [trace]
  rw [parted] at respects ⊢
  have entered : Sound (past ++ [.entered call]) (Moment.entered call).world :=
    sound.note rfl (Moment.untouched rfl rfl)
  obtain ⟨left, fresh⟩ := insideTrace_sound entry entered proper respects.front.front
  have effect := call.after_aside left.thunks
  have after : Sound (((past ++ [.entered call]) ++ call.insideTrace inner) ++ [.left call])
      call.after := by
    cases handed : call.handle? with
    | none =>
      rw [handed] at effect
      have noted : Sound (_ ++ [.left call]) (Moment.left call).world :=
        left.note rfl (Moment.untouched handed rfl)
      exact noted.spared effect.spares
    | some given =>
      rcases given with ⟨registry, handle, object⟩
      rw [handed] at effect
      obtain rfl := handle?_next handed
      have begun : Sound _ (Moment.left call).world := left
      exact begun.issue respects.front.here rfl rfl handed effect
  have answered : Sound (_ ++ [.answered call]) (Moment.answered call).world :=
    after.note rfl (Moment.untouched rfl rfl)
  refine ⟨answered, ?_⟩
  apply Fresh.cons rfl
  intro object among
  have inside : object ∈ made (call.insideTrace inner) := by
    rw [made_append] at among
    rcases List.mem_append.mp among with among | among
    · exact among
    · cases among
  exact fresh object inside

end ClosureCall

/-- Native code leaves stored values alone, whatever host code it enters. -/
theorem enterTrace_sound (depth : Nat) :
    (enterAt (κ := κ) depth).KeepsValues (enterTrace depth) := by
  -- A closure entered at one depth enters others at the depth below only.
  induction depth with
  | zero =>
    intro past address result raws world sound respects
    have raised : world.Aside (world.raise depthFault) := .of_same rfl rfl rfl
    show Sound (past ++ []) (world.raise depthFault) ∧ Fresh world ([] : List (Moment κ))
    rw [List.append_nil]
    exact ⟨sound.spared raised.spares, .of_none rfl⟩
  | succ depth ih =>
    intro past address result raws world sound respects
    simp only [enterAt]
    cases found : world.codeAt? address with
    | none =>
      simp only [enterTrace, found]
      exact ⟨by simpa using sound, .of_none rfl⟩
    | some code =>
      cases code with
      | foreign parameters run =>
        simp only [enterTrace, found]
        refine ⟨?_, .of_none rfl⟩
        rw [List.append_nil]
        let left : World κ := { world with memory := (run (deliver parameters raws) world.memory).2 }
        have aside : world.Aside left := .of_same rfl rfl rfl
        exact sound.spared aside.spares
      | closure closure =>
        rw [enterTrace_closure found] at respects ⊢
        let call : ClosureCall κ := ⟨depth, address, closure, raws, world⟩
        obtain ⟨index, -, there⟩ := Option.bind_eq_some_iff.mp found
        have called := call.trace_sound ih sound (sound.thunks index closure there) respects
        rw [← JournalLaw.enter_after] at called
        exact called

end NativeBridge
