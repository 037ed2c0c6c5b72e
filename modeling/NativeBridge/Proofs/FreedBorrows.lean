/-
Module: NativeBridge.Proofs.FreedBorrows
Purpose: Host data in which some instances are free: what is done with it comes out as before, but
  where it is asked who holds one of these instances.
Main exports: Heap.freed, World.freed, Guard.drop_freed, Frame.borrow_freed, Tuple.Asks,
  Tuple.fromValues_freed, acceptAll_freed, encodeAll_freed, decodeReturn_freed
-/
import NativeBridge.Call

namespace NativeBridge

variable {κ : Type} [HostProgram κ]

/-!
To compare a call with the same call at a time at which nobody holds an instance, the borrows of some
cells are given up.  Giving them up commutes with everything that host data is used for, apart from
taking a borrow of such a cell and from copying the instance in it.
-/

/-! ### Borrows given up -/

/-- The host data in which the instances of some cells are free. -/
def Heap.freed (held : Nat → Bool) (heap : Heap κ) : Heap κ :=
  { heap with
    cells := heap.cells.mapIdx fun cell one =>
      if held cell then { one with borrow := .free } else one }

/-- The process in which the instances of some cells are free. -/
def World.freed (held : Nat → Bool) (world : World κ) : World κ :=
  { world with heap := world.heap.freed held }

namespace Heap

variable {held : Nat → Bool}

theorem freed_cells (heap : Heap κ) (cell : Nat) :
    (heap.freed held).cells[cell]? = heap.cells[cell]?.map fun one =>
      if held cell then { one with borrow := .free } else one := by
  rw [freed, Array.getElem?_mapIdx]

theorem freed_size (heap : Heap κ) : (heap.freed held).cells.size = heap.cells.size := by
  rw [freed, Array.size_mapIdx]

/-- Two heaps are the same if they hold the same cells and the same texts. -/
theorem ext_cells {one other : Heap κ}
    (cells : ∀ cell : Nat, one.cells[cell]? = other.cells[cell]?) (texts : one.texts = other.texts) :
    one = other := by
  rcases one with ⟨first, _⟩
  rcases other with ⟨second, _⟩
  obtain rfl : first = second := Array.ext_getElem? cells
  obtain rfl := texts
  rfl

theorem freed_borrowAt? (heap : Heap κ) {cell : Nat} (apart : held cell = false) :
    (heap.freed held).borrowAt? cell = heap.borrowAt? cell := by
  rw [borrowAt?, freed_cells, apart]
  simp [borrowAt?]

theorem freed_stateAt? (heap : Heap κ) (key : κ) (cell : Nat) :
    (heap.freed held).stateAt? key cell = heap.stateAt? key cell := by
  rw [stateAt?, freed_cells, stateAt?]
  cases heap.cells[cell]? with
  | none => rfl
  | some one =>
    cases held cell <;> rfl

/-- A borrow may be taken before or after those of other cells are given up. -/
theorem freed_setBorrow (heap : Heap κ) {cell : Nat} {borrow : Borrow}
    (same : held cell = true → borrow = .free) :
    (heap.setBorrow cell borrow).freed held = (heap.freed held).setBorrow cell borrow := by
  refine ext_cells (fun other => ?_) rfl
  rw [freed_cells, setBorrow, setBorrow, Array.getElem?_modify, Array.getElem?_modify, freed_cells]
  by_cases here : cell = other
  · subst here
    cases lies : held cell with
    | true => cases heap.cells[cell]? <;> simp [same lies]
    | false => cases heap.cells[cell]? <;> simp
  · simp only [if_neg here]

theorem freed_setState (heap : Heap κ) (cell : Nat) (key : κ) (state : HostProgram.State key) :
    (heap.setState cell key state).freed held = (heap.freed held).setState cell key state := by
  refine ext_cells (fun other => ?_) rfl
  rw [freed_cells, setState, setState, Array.getElem?_modify, Array.getElem?_modify, freed_cells]
  by_cases here : cell = other
  · subst here
    cases heap.cells[cell]? with
    | none => simp
    | some one => by_cases same : one.key = key <;> cases held cell <;> simp [same]
  · simp only [if_neg here]

theorem freed_allocate (heap : Heap κ) (key : κ) (state : HostProgram.State key) :
    (heap.freed held).allocate key state =
      ((heap.allocate key state).1, (heap.allocate key state).2.freed held) := by
  refine Prod.ext (freed_size heap) (ext_cells (fun other => ?_) rfl)
  simp only [allocate, freed_cells, Array.getElem?_push, freed_size]
  split
  · cases held other <;> rfl
  · rfl

theorem freed_newObject (heap : Heap κ) (type : ObjectType κ) (state : HostProgram.State type.key) :
    (heap.freed held).newObject type state =
      ((heap.newObject type state).1, (heap.newObject type state).2.freed held) := by
  simp only [newObject, freed_allocate]

/-- An instance that nobody frees is read as it is. -/
theorem freed_readObject (heap : Heap κ) {object : HostObject κ} (apart : held object.cell = false) :
    (heap.freed held).readObject object = heap.readObject object := by
  simp only [readObject, freed_cells, apart]
  cases heap.cells[object.cell]? <;> rfl

theorem freed_copyOut (heap : Heap κ) {object : HostObject κ} (apart : held object.cell = false) :
    (heap.freed held).copyOut object =
      (heap.copyOut object).map fun (cell, heap) => (cell, heap.freed held) := by
  simp only [copyOut, freed_readObject heap apart]
  cases object.type.semantics with
  | reference => rfl
  | value =>
    cases heap.readObject object with
    | error busy => rfl
    | ok one =>
      dsimp only
      cases one.stateAs object.type.key with
      | none => rfl
      | some state => exact congrArg Except.ok (freed_allocate heap object.type.key state)

end Heap

section

variable {held : Nat → Bool}

theorem Guard.drop_freed (guard : Guard) (heap : Heap κ) :
    (guard.drop heap).freed held = guard.drop (heap.freed held) := by
  unfold Guard.drop
  cases guard.exclusive with
  | true => exact heap.freed_setBorrow fun _ => rfl
  | false =>
    simp only [Bool.false_eq_true, if_false, Heap.endShared, Heap.borrowAt?, Heap.freed_cells]
    cases found : heap.cells[guard.cell]? with
    | none => rfl
    | some one =>
      dsimp only [Option.map_some]
      cases lies : held guard.cell with
      | true =>
        -- In a free cell there is no reader less, and whatever is left here is given up.
        refine Heap.ext_cells (fun other => ?_) rfl
        rw [if_pos rfl, Heap.freed_cells, Heap.setBorrow, Heap.setBorrow, Array.getElem?_modify,
          Array.getElem?_modify, Heap.freed_cells]
        by_cases here : guard.cell = other
        · simp [← here, found, lies, Borrow.unshare]
        · simp only [if_neg here]
      | false =>
        exact heap.freed_setBorrow fun free => by rw [lies] at free; cases free

theorem Frame.dropGuards_freed (frame : Frame) (heap : Heap κ) :
    (frame.dropGuards heap).freed held = frame.dropGuards (heap.freed held) := by
  unfold Frame.dropGuards
  induction frame.guards generalizing heap with
  | nil => rfl
  | cons guard guards ih => rw [List.foldl_cons, List.foldl_cons, ih, guard.drop_freed]

theorem Heap.borrowExclusive?_freed (heap : Heap κ) {cell : Nat} (apart : held cell = false) :
    (heap.freed held).borrowExclusive? cell =
      (heap.borrowExclusive? cell).map (Heap.freed held) := by
  unfold borrowExclusive?
  rw [heap.freed_borrowAt? apart, Option.map_map]
  congr 1
  exact funext fun borrow => (heap.freed_setBorrow fun free => by rw [apart] at free; cases free).symm

theorem Heap.borrowShared?_freed (heap : Heap κ) {cell : Nat} (apart : held cell = false) :
    (heap.freed held).borrowShared? cell = (heap.borrowShared? cell).map (Heap.freed held) := by
  unfold borrowShared?
  rw [heap.freed_borrowAt? apart, Option.map_map]
  congr 1
  exact funext fun borrow => (heap.freed_setBorrow fun free => by rw [apart] at free; cases free).symm

theorem Frame.borrow_freed (frame : Frame) (heap : Heap κ) {cell : Nat} (apart : held cell = false)
    (exclusive : Bool) :
    frame.borrow cell exclusive (heap.freed held) =
      (frame.borrow cell exclusive heap).map fun (frame, heap) => (frame, heap.freed held) := by
  unfold Frame.borrow
  cases exclusive with
  | true =>
    simp only [if_true, heap.borrowExclusive?_freed apart, Option.map_map]
    rfl
  | false =>
    simp only [Bool.false_eq_true, if_false, heap.borrowShared?_freed apart, Option.map_map]
    rfl

theorem Frame.endBorrow_freed (frame : Frame) (cell : Nat) (heap : Heap κ) :
    frame.endBorrow cell (heap.freed held) =
      ((frame.endBorrow cell heap).1, (frame.endBorrow cell heap).2.freed held) := by
  unfold Frame.endBorrow
  split
  · rw [Guard.drop_freed]
  · rfl

/-! ### Values -/

theorem MarshalType.intoValue_freed (type : MarshalType κ) (carried : Carrier type)
    (heap : Heap κ) :
    type.intoValue carried (heap.freed held) =
      ((type.intoValue carried heap).1, (type.intoValue carried heap).2.freed held) := by
  cases type with
  | copied key => simp only [intoValue, Heap.freed_newObject]
  | _ => rfl

/-- Reading some values as a tuple looks at who holds the instance in a cell. -/
def Tuple.Asks (held : Nat → Bool) (types : List (MarshalType κ)) (values : List (Value κ)) : Prop :=
  ∃ key object, (MarshalType.copied key, Value.object object) ∈ types.zip values ∧
    held object.cell = true

theorem MarshalType.fromValue_freed {type : MarshalType κ} {value : Value κ}
    (apart : ∀ key object, type = .copied key → value = .object object → held object.cell = false)
    (heap : Heap κ) : type.fromValue value (heap.freed held) = type.fromValue value heap := by
  cases type with
  | copied key =>
    cases value with
    | object object =>
      have read := heap.freed_readObject (apart key object rfl rfl)
      simp only [fromValue, copiedState, read]
    | _ => rfl
  | _ => cases value <;> rfl

theorem Tuple.readValues_freed {types : List (MarshalType κ)} {values : List (Value κ)}
    (length : values.length = types.length) (apart : ¬ Tuple.Asks held types values)
    (heap : Heap κ) : readValues types values (heap.freed held) = readValues types values heap := by
  induction types generalizing values with
  | nil => rfl
  | cons type types ih =>
    cases values with
    | nil => cases length
    | cons value values =>
      have first : type.fromValue value (heap.freed held) = type.fromValue value heap := by
        refine MarshalType.fromValue_freed (fun key object typed valued => ?_) heap
        subst typed valued
        exact Bool.eq_false_iff.mpr fun lies =>
          apart ⟨key, object, by rw [List.zip_cons_cons]; exact List.mem_cons_self, lies⟩
      have later : ¬ Tuple.Asks held types values := fun ⟨key, object, among, lies⟩ =>
        apart ⟨key, object, by rw [List.zip_cons_cons]; exact List.mem_cons_of_mem _ among, lies⟩
      have rest := ih (Nat.succ.inj length) later
      simp only [readValues, List.headD_cons, List.tail_cons, first, rest]

theorem Tuple.fromValues_freed {types : List (MarshalType κ)} {values : List (Value κ)}
    (apart : ¬ Tuple.Asks held types values) (heap : Heap κ) :
    fromValues types values (heap.freed held) = fromValues types values heap := by
  unfold fromValues
  split
  next length => exact readValues_freed length apart heap
  next => rfl

/-! ### Arguments and results -/

theorem accept_freed (registry : Option (Registry κ)) (memory : Memory) (slot : MarshalSlot κ)
    (raw : RawValue) (heap : Heap κ) :
    accept registry memory slot raw (heap.freed held) =
      (accept registry memory slot raw heap).map fun (value, writeBacks, heap) =>
        (value, writeBacks, heap.freed held) := by
  have direct (type : HostType κ) :
      (liftM (Value.fromRaw raw type) >>= fun value => .ok (value, [], heap.freed held) :
        Except Error (Value κ × List WriteBack × Heap κ)) =
      Except.map (fun (value, writeBacks, heap) => (value, writeBacks, heap.freed held))
        (liftM (Value.fromRaw raw type) >>= fun value => .ok (value, [], heap)) := by
    cases Value.fromRaw raw type <;> rfl
  rcases slot with ⟨type, byHandle⟩
  cases type with
  | object type =>
    simp only [accept, liftM, monadLift, MonadLift.monadLift]
    cases addressOf raw (.object type) with
    | error error => rfl
    | ok address =>
      cases registry with
      | none => rfl
      | some registry =>
        dsimp only [Except.mapError, bind, Except.bind]
        cases registry.resolve address with
        | error error => rfl
        | ok object =>
          dsimp only
          cases object.expectType type <;> rfl
  | string =>
    simp only [accept, liftM, monadLift, MonadLift.monadLift]
    cases addressOf raw (.string : HostType κ) with
    | error error => rfl
    | ok address =>
      dsimp only [Except.mapError, bind, Except.bind]
      cases cStringAt memory address <;> rfl
  | stringBuffer =>
    simp only [accept, liftM, monadLift, MonadLift.monadLift]
    cases addressOf raw (.stringBuffer : HostType κ) with
    | error error => rfl
    | ok address =>
      dsimp only [Except.mapError, bind, Except.bind]
      cases cStringAt memory address <;> rfl
  | _ => exact direct _

theorem acceptEach_freed (registry : Option (Registry κ)) (memory : Memory)
    (slots : List (MarshalSlot κ)) (raws : List RawValue) (heap : Heap κ) :
    acceptEach registry memory slots raws (heap.freed held) =
      (acceptEach registry memory slots raws heap).map fun (values, writeBacks, heap) =>
        (values, writeBacks, heap.freed held) := by
  induction slots generalizing raws heap with
  | nil => rfl
  | cons slot slots ih =>
    cases raws with
    | nil => rfl
    | cons raw raws =>
      simp only [acceptEach, accept_freed]
      cases accept registry memory slot raw heap with
      | error error => rfl
      | ok one =>
        rcases one with ⟨value, first, heap⟩
        dsimp only [Except.map, bind, Except.bind]
        rw [ih]
        cases acceptEach registry memory slots raws heap <;> rfl

theorem acceptAll_freed (registry : Option (Registry κ)) (memory : Memory)
    (slots : List (MarshalSlot κ)) (raws : List RawValue) (heap : Heap κ) :
    acceptAll registry memory slots raws (heap.freed held) =
      (acceptAll registry memory slots raws heap).map fun (values, writeBacks, heap) =>
        (values, writeBacks, heap.freed held) := by
  unfold acceptAll
  split
  · exact acceptEach_freed registry memory slots raws heap
  · rfl

theorem encodeAll_freed (heap : Heap κ) (types : List (HostType κ)) (values : List (Value κ))
    (memory : Memory) :
    encodeAll (heap.freed held) types values memory = encodeAll heap types values memory := by
  induction types generalizing values memory with
  | nil => rfl
  | cons type types ih =>
    cases values with
    | nil => rfl
    | cons value values =>
      have one : encodeOne (heap.freed held) type value memory =
          encodeOne heap type value memory := rfl
      simp only [encodeAll, one, ih]

theorem decodeReturn_freed (memory : Memory) (raw : RawValue) (type : HostType κ) (heap : Heap κ) :
    decodeReturn memory raw type (heap.freed held) =
      (decodeReturn memory raw type heap).map fun (value, heap) => (value, heap.freed held) := by
  have direct (type : HostType κ) :
      (liftM (Value.fromRaw raw type) >>= fun value => .ok (value, heap.freed held) :
        Except Error (Value κ × Heap κ)) =
      Except.map (fun (value, heap) => (value, heap.freed held))
        (liftM (Value.fromRaw raw type) >>= fun value => .ok (value, heap)) := by
    cases Value.fromRaw raw type <;> rfl
  cases type with
  | string =>
    simp only [decodeReturn, liftM, monadLift, MonadLift.monadLift]
    cases addressOf raw (.string : HostType κ) with
    | error error => rfl
    | ok address =>
      dsimp only [Except.mapError, bind, Except.bind]
      cases cStringAt memory address <;> rfl
  | stringBuffer =>
    simp only [decodeReturn, liftM, monadLift, MonadLift.monadLift]
    cases addressOf raw (.stringBuffer : HostType κ) with
    | error error => rfl
    | ok address =>
      dsimp only [Except.mapError, bind, Except.bind]
      cases cStringAt memory address <;> rfl
  | _ => exact direct _

theorem readBack_freed (memory : Memory) (lent : List LentBuffer) (heap : Heap κ) :
    readBack memory lent (heap.freed held) = (readBack memory lent heap).freed held := by
  unfold readBack
  induction lent generalizing heap with
  | nil => rfl
  | cons one rest ih =>
    rw [List.foldl_cons, List.foldl_cons, ← ih]
    rfl

end

end NativeBridge
