/-
Module: NativeBridge.Proofs.OwnInstances
Purpose: What a getter and a setter do that read and write only the instance they are called on.
Main exports: Host.Settles, TypeBuilder.Accessor.ReadsOwn, TypeBuilder.Accessor.Lawful,
  Member.IsGetter, Member.IsSetter, Member.IsGetter.run_free, Member.IsSetter.run_free,
  Member.IsGetter.run_told
-/
import NativeBridge.Description
import NativeBridge.Proofs.BorrowBalance
import NativeBridge.Proofs.FreedBorrows
import NativeBridge.Proofs.PlainValues

namespace NativeBridge

variable {κ : Type} [HostProgram κ]

/-!
An accessor that stays with its own instance is a pair of functions: the getter is one of the state,
and the setter one of the state and the new value.  So what a getter comes to is determined by the
cell that it is called on, whoever holds the instance and whatever else there is in the process.
-/

/-! ### Host code that only computes -/

/-- The code that goes on after an outcome. -/
def Outcome.code {α : Type} (outcome : Outcome α) (next : α → Code κ) : Code κ :=
  match outcome with
  | .returned (.ok a) => next a
  | .returned (.error error) => .done (.error error)
  | .panicked message => .panic message

/-- A stretch of host code that comes to the same outcome in every process and asks for nothing on
its way. -/
def Host.Settles {α : Type} (host : Host κ α) (outcome : Outcome α) : Prop :=
  ∀ next enter frame world,
    (host next).run enter frame world = (outcome.code next).run enter frame world

theorem Host.Settles.pure {α : Type} (a : α) :
    (Pure.pure a : Host κ α).Settles (.returned (.ok a)) :=
  fun _ _ _ _ => rfl

namespace TypeBuilder.Accessor

variable {type : ObjectType κ}

/-- The getter looks at nothing but the state of its instance. -/
def ReadsOwn (accessor : Accessor type) : Prop :=
  ∀ state, ∃ outcome, (accessor.get state).Settles outcome

/-- Getter and setter look at nothing but the state of their instance, and what was set is got. -/
def Lawful (accessor : Accessor type) : Prop :=
  ∀ state carried, ∃ written, (accessor.set state carried).Settles (.returned (.ok written)) ∧
    (accessor.get written).Settles (.returned (.ok carried))

end TypeBuilder.Accessor

/-! ### The members of an accessor -/

namespace Member

variable {type : ObjectType κ}

/-- A member is the getter of a property or field, shown or hidden, under whatever symbol. -/
def IsGetter (member : Member κ) (accessor : TypeBuilder.Accessor type) : Prop :=
  ∃ kind name visibility symbol, member =
    { ofGetter type kind name accessor.value accessor.get with
      visibility := visibility, symbol := symbol }

/-- A member is the setter of a property or field, shown or hidden, under whatever symbol. -/
def IsSetter (member : Member κ) (accessor : TypeBuilder.Accessor type) : Prop :=
  ∃ kind name visibility symbol, member =
    { ofSetter type kind name accessor.value accessor.set with
      visibility := visibility, symbol := symbol }

end Member

/-- How a member that has a receiver reaches it. -/
def Semantics.dispatch : Semantics → Dispatch
  | .reference => .virtual
  | .value => .copied

theorem Semantics.dispatch_ne_static (semantics : Semantics) : semantics.dispatch ≠ .static := by
  intro same
  cases semantics <;> cases same

/-- A member that is not static has a receiver, which its class says how to reach. -/
theorem Dispatch.ofMember_instance {member : Member κ} (bound : member.isStatic = false) :
    Dispatch.ofMember member = member.owner.semantics.dispatch := by
  rw [Dispatch.ofMember, bound]
  cases member.owner.semantics <;> rfl

namespace Member

variable {type : ObjectType κ} {accessor : TypeBuilder.Accessor type} {member : Member κ}
  {enter : Entry κ} {world : World κ} {cell : Nat}

namespace IsGetter

theorem owner (getter : member.IsGetter accessor) : member.owner = type := by
  obtain ⟨_, _, _, _, rfl⟩ := getter
  rfl

theorem parameters (getter : member.IsGetter accessor) : member.parameters = [] := by
  obtain ⟨_, _, _, _, rfl⟩ := getter
  rfl

theorem result (getter : member.IsGetter accessor) :
    member.result = accessor.value.hostType := by
  obtain ⟨_, _, _, _, rfl⟩ := getter
  rfl

theorem dispatch (getter : member.IsGetter accessor) :
    Dispatch.ofMember member = type.semantics.dispatch := by
  obtain ⟨_, _, _, _, rfl⟩ := getter
  exact Dispatch.ofMember_instance rfl

theorem receives (getter : member.IsGetter accessor) : Dispatch.ofMember member ≠ .static := by
  rw [getter.dispatch]
  exact type.semantics.dispatch_ne_static

/-- A getter runs the accessor on the state of its receiver. -/
theorem run_body (getter : member.IsGetter accessor) {state : HostProgram.State type.key}
    (known : world.heap.stateAt? type.key cell = some state)
    {outcome : Outcome (Carrier accessor.value)}
    (settles : (accessor.get state).Settles outcome) :
    (member.body []).run enter (.onReceiver cell) world =
      (outcome.code fun carried => .marshal accessor.value carried fun value =>
        .done (.ok value)).run enter (.onReceiver cell) world := by
  obtain ⟨_, _, _, _, rfl⟩ := getter
  have nothing : Tuple.fromValues [] [] world.heap = .ok () := rfl
  rw [← settles]
  simp only [ofGetter, plain, Host.receiving, withReceiver, Code.run, nothing, Frame.onReceiver,
    Option.bind_some, known]
  rfl

/-- A getter fails on what is no instance of its class. -/
theorem run_missing (getter : member.IsGetter accessor)
    (missing : world.heap.stateAt? type.key cell = none) :
    (member.body []).run enter (.onReceiver cell) world =
      (.returned (.error (MarshalError.typeMismatch type.name "missing receiver")), world) := by
  obtain ⟨_, _, _, _, rfl⟩ := getter
  have nothing : Tuple.fromValues [] [] world.heap = .ok () := rfl
  simp only [ofGetter, plain, Host.receiving, withReceiver, Code.run, nothing, Frame.onReceiver,
    Option.bind_some, missing]
  rfl

end IsGetter

namespace IsSetter

theorem owner (setter : member.IsSetter accessor) : member.owner = type := by
  obtain ⟨_, _, _, _, rfl⟩ := setter
  rfl

theorem parameters (setter : member.IsSetter accessor) :
    member.parameters = [accessor.value.hostType] := by
  obtain ⟨_, _, _, _, rfl⟩ := setter
  rfl

theorem result (setter : member.IsSetter accessor) : member.result = .void := by
  obtain ⟨_, _, _, _, rfl⟩ := setter
  rfl

theorem dispatch (setter : member.IsSetter accessor) :
    Dispatch.ofMember member = type.semantics.dispatch := by
  obtain ⟨_, _, _, _, rfl⟩ := setter
  exact Dispatch.ofMember_instance rfl

theorem receives (setter : member.IsSetter accessor) : Dispatch.ofMember member ≠ .static := by
  rw [setter.dispatch]
  exact type.semantics.dispatch_ne_static

/-- A setter puts the state that the accessor gives in place of that of its receiver. -/
theorem run_body (setter : member.IsSetter accessor) {state written : HostProgram.State type.key}
    (known : world.heap.stateAt? type.key cell = some state) {value : Value κ}
    {carried : Carrier accessor.value}
    (read : accessor.value.fromValue value world.heap = .ok carried)
    (settles : (accessor.set state carried).Settles (.returned (.ok written))) :
    (member.body [value]).run enter (.onReceiver cell) world =
      (.returned (.ok .void),
        { world with heap := world.heap.setState cell type.key written }) := by
  obtain ⟨_, _, _, _, rfl⟩ := setter
  have tuple : Tuple.fromValues [accessor.value] [value] world.heap = .ok (carried, ()) := by
    simp [Tuple.fromValues, Tuple.readValues, read, bind, Except.bind]
  simp only [ofSetter, plain, Host.receiving, withReceiver, Code.run, tuple, Frame.onReceiver,
    Option.bind_some, known]
  exact settles _ enter (.onReceiver cell) world

end IsSetter

end Member

/-! ### On a live instance -/

namespace Heap

variable {heap : Heap κ} {cell : Nat}

theorem setBorrow_state (heap : Heap κ) (changed cell : Nat) (borrow : Borrow) (key : κ) :
    (heap.setBorrow changed borrow).stateAt? key cell = heap.stateAt? key cell := by
  rw [stateAt?, stateAt?]
  cases there : heap.cells[cell]? with
  | none => simp [setBorrow, Array.getElem?_modify, there]
  | some one =>
    rw [setBorrow_cell there]
    split <;> rfl

/-- An instance that nobody holds is as before when a writer of it is done. -/
theorem endExclusive_claimed (free : heap.borrowAt? cell = some .free) :
    (heap.setBorrow cell .exclusive).endExclusive cell = heap := by
  obtain ⟨one, there, borrow⟩ := Option.map_eq_some_iff.mp free
  refine ext_cells (fun other => ?_) rfl
  rw [endExclusive, setBorrow, setBorrow, Array.getElem?_modify, Array.getElem?_modify]
  by_cases here : cell = other
  · subst here
    rw [if_pos rfl, if_pos rfl, there]
    rcases one with ⟨key, state, held⟩
    obtain rfl : held = .free := borrow
    rfl
  · rw [if_neg here, if_neg here]

/-- What is written to an instance that nobody holds is what a writer of it leaves. -/
theorem endExclusive_written (free : heap.borrowAt? cell = some .free) (key : κ)
    (state : HostProgram.State key) :
    ((heap.setBorrow cell .exclusive).setState cell key state).endExclusive cell =
      heap.setState cell key state := by
  obtain ⟨one, there, borrow⟩ := Option.map_eq_some_iff.mp free
  refine ext_cells (fun other => ?_) rfl
  rw [endExclusive, setBorrow, setBorrow, setState, setState, Array.getElem?_modify,
    Array.getElem?_modify, Array.getElem?_modify, Array.getElem?_modify]
  by_cases here : cell = other
  · subst here
    rw [if_pos rfl, if_pos rfl, if_pos rfl, if_pos rfl, there]
    rcases one with ⟨key', state', held⟩
    obtain rfl : held = .free := borrow
    by_cases same : key' = key <;> simp [same]
  · rw [if_neg here, if_neg here, if_neg here, if_neg here]

/-- The state that was written is read. -/
theorem stateAt?_setState {key : κ} {state : HostProgram.State key}
    (known : heap.stateAt? key cell = some state) (written : HostProgram.State key) :
    (heap.setState cell key written).stateAt? key cell = some written := by
  obtain ⟨one, there, holds⟩ := Option.bind_eq_some_iff.mp known
  rw [stateAt?, setState, Array.getElem?_modify, if_pos rfl, there]
  unfold Cell.stateAs at holds
  split at holds
  · next same => simp [Cell.stateAs, same]
  · cases holds

theorem borrowAt?_setState (heap : Heap κ) (changed : Nat) (key : κ) (state : HostProgram.State key)
    (cell : Nat) : (heap.setState changed key state).borrowAt? cell = heap.borrowAt? cell := by
  cases there : heap.cells[cell]? with
  | none =>
    simp [borrowAt?, setState, Array.getElem?_modify, there]
  | some one =>
    obtain ⟨other, moved, -, borrow, -⟩ := setState_cell there changed key state
    rw [borrowAt?_of_cell moved, borrowAt?_of_cell there, borrow]

end Heap

/-- A member runs on a live instance that nobody holds. -/
theorem runVirtual_free {enter : Entry κ} {object : HostObject κ} {code : Code κ} {world : World κ}
    (free : world.heap.borrowAt? object.cell = some .free) :
    runVirtual enter object code world =
      let ran := code.run enter (.onReceiver object.cell)
        { world with heap := world.heap.setBorrow object.cell .exclusive }
      (ran.1, { ran.2 with heap := ran.2.heap.endExclusive object.cell }) := by
  have granted : world.heap.borrowExclusive? object.cell =
      some (world.heap.setBorrow object.cell .exclusive) := by
    rw [Heap.borrowExclusive?, free]
    rfl
  rw [runVirtual, granted]

namespace Member

variable {type : ObjectType κ} {accessor : TypeBuilder.Accessor type} {member : Member κ}
  {enter : Entry κ} {world : World κ} {cell : Nat} {value : Value κ} {carried : Carrier accessor.value}
  {state written : HostProgram.State type.key}

/-- A setter on an instance that nobody holds changes its state and nothing else. -/
theorem IsSetter.run_free (setter : member.IsSetter accessor)
    (reference : type.semantics = .reference)
    (known : world.heap.stateAt? type.key cell = some state)
    (free : world.heap.borrowAt? cell = some .free)
    (read : ∀ heap, accessor.value.fromValue value heap = .ok carried)
    (settles : (accessor.set state carried).Settles (.returned (.ok written))) :
    (Handler.member (Dispatch.ofMember member) member).run enter [.object ⟨cell, type⟩, value] world =
      (.returned (.ok .void),
        { world with heap := world.heap.setState cell type.key written }) := by
  let held : World κ := { world with heap := world.heap.setBorrow cell .exclusive }
  have begun : held.heap.stateAt? type.key cell = some state := by
    rw [Heap.setBorrow_state, known]
  have ran : (member.body [value]).run enter (.onReceiver cell) held = (.returned (.ok .void),
      { held with heap := held.heap.setState cell type.key written }) :=
    setter.run_body begun (read held.heap) settles
  rw [setter.dispatch, reference]
  show runVirtual enter ⟨cell, type⟩ (member.body [value]) world = _
  rw [runVirtual_free free, ran]
  simp only [held, Heap.endExclusive_written free]

/-- A getter on an instance that nobody holds changes nothing. -/
theorem IsGetter.run_free (getter : member.IsGetter accessor)
    (reference : type.semantics = .reference)
    (known : world.heap.stateAt? type.key cell = some state)
    (free : world.heap.borrowAt? cell = some .free)
    (shown : ∀ heap, accessor.value.intoValue carried heap = (value, heap))
    (settles : (accessor.get state).Settles (.returned (.ok carried))) :
    (Handler.member (Dispatch.ofMember member) member).run enter [.object ⟨cell, type⟩] world =
      (.returned (.ok value), world) := by
  let held : World κ := { world with heap := world.heap.setBorrow cell .exclusive }
  have begun : held.heap.stateAt? type.key cell = some state := by
    rw [Heap.setBorrow_state, known]
  have ran : (member.body []).run enter (.onReceiver cell) held = (.returned (.ok value), held) := by
    rw [getter.run_body begun settles]
    simp only [Outcome.code, Code.run, shown, Frame.onReceiver, Frame.dropGuards, List.foldl_nil]
  rw [getter.dispatch, reference]
  show runVirtual enter ⟨cell, type⟩ (member.body []) world = _
  rw [runVirtual_free free, ran]
  simp only [held, Heap.endExclusive_claimed free]

end Member

/-! ### On any instance -/

namespace MarshalType

/-- The host value of a carried value, where so many instances are there. -/
def asValue : (type : MarshalType κ) → Carrier type → Nat → Value κ
  | .copied key, _, size => .object ⟨size, ⟨key, .value⟩⟩
  | type, carried, _ => (type.intoValue carried .empty).1

theorem intoValue_asValue (type : MarshalType κ) (carried : Carrier type) (heap : Heap κ) :
    (type.intoValue carried heap).1 = type.asValue carried heap.cells.size := by
  cases type <;> rfl

/-- What host code comes to that comes to something carried. -/
def told (type : MarshalType κ) (outcome : Outcome (Carrier type)) (size : Nat) :
    Outcome (Value κ) := do
  return type.asValue (← outcome) size

/-- A value that host code comes to is that of something carried. -/
theorem told_value {type : MarshalType κ} {outcome : Outcome (Carrier type)} {size : Nat}
    {value : Value κ} (told : type.told outcome size = .returned (.ok value)) :
    ∃ carried, value = type.asValue carried size := by
  cases outcome with
  | panicked message => cases told
  | returned result =>
    cases result with
    | error error => cases told
    | ok carried =>
      cases told
      exact ⟨carried, rfl⟩

/-- Marshaling the outcome of host code leaves all texts alone. -/
theorem run_told (type : MarshalType κ) (outcome : Outcome (Carrier type)) (enter : Entry κ)
    (cell : Nat) (world : World κ) :
    ∃ heap, heap.texts = world.heap.texts ∧
      (outcome.code fun carried => .marshal type carried fun value =>
        .done (.ok value)).run enter (.onReceiver cell) world =
          (type.told outcome world.heap.cells.size, { world with heap := heap }) := by
  cases outcome with
  | panicked message => exact ⟨world.heap, rfl, rfl⟩
  | returned result =>
    cases result with
    | error error => exact ⟨world.heap, rfl, rfl⟩
    | ok carried =>
      refine ⟨(type.intoValue carried world.heap).2, type.intoValue_texts carried world.heap, ?_⟩
      simp only [Outcome.code, Code.run, Frame.onReceiver, Frame.dropGuards, List.foldl_nil,
        type.intoValue_asValue carried world.heap]
      rfl

end MarshalType

/-- What the host code behind a closure comes to is determined by one cell, up to the number of cells
where it makes an instance, and it leaves all texts and handles alone. -/
def Handler.TellsOf (handler : Handler κ) (args : List (Value κ)) (type : MarshalType κ) (cell : Nat)
    (content : Option (Cell κ)) : Prop :=
  ∃ outcome more, ∀ (enter : Entry κ) (world : World κ), world.heap.cells[cell]? = content →
    ∃ heap, heap.texts = world.heap.texts ∧
      handler.run enter args world =
        (type.told outcome (world.heap.cells.size + more), { world with heap := heap })

/-- An error that comes before anything else is one outcome. -/
theorem Handler.TellsOf.error {handler : Handler κ} {args : List (Value κ)} {type : MarshalType κ}
    {cell : Nat} {content : Option (Cell κ)} (error : Error)
    (fails : ∀ (enter : Entry κ) (world : World κ), world.heap.cells[cell]? = content →
      handler.run enter args world = (.returned (.error error), world)) :
    handler.TellsOf args type cell content :=
  ⟨.returned (.error error), 0, fun enter world there => ⟨world.heap, rfl, fails enter world there⟩⟩

namespace Member.IsGetter

variable {type : ObjectType κ} {accessor : TypeBuilder.Accessor type} {member : Member κ}

/-- What the code of a getter comes to is determined by the state that it finds. -/
theorem body_told (getter : member.IsGetter accessor) (reads : accessor.ReadsOwn)
    (state : Option (HostProgram.State type.key)) :
    ∃ outcome, ∀ (enter : Entry κ) (cell : Nat) (world : World κ),
      world.heap.stateAt? type.key cell = state →
        ∃ heap, heap.texts = world.heap.texts ∧
          (member.body []).run enter (.onReceiver cell) world =
            (accessor.value.told outcome world.heap.cells.size, { world with heap := heap }) := by
  cases state with
  | none =>
    refine ⟨.returned (.error (MarshalError.typeMismatch type.name "missing receiver")), ?_⟩
    intro enter cell world missing
    exact ⟨world.heap, rfl, getter.run_missing missing⟩
  | some state =>
    obtain ⟨outcome, settles⟩ := reads state
    refine ⟨outcome, ?_⟩
    intro enter cell world known
    rw [getter.run_body known settles]
    exact accessor.value.run_told outcome enter cell world

/-- A getter on a live instance. -/
theorem virtual_told (getter : member.IsGetter accessor) (reads : accessor.ReadsOwn) (cell : Nat)
    (content : Option (Cell κ)) :
    (Handler.member .virtual member).TellsOf [.object ⟨cell, type⟩] accessor.value cell content := by
  by_cases free : content.map Cell.borrow = some .free
  · obtain ⟨one, rfl, -⟩ := Option.map_eq_some_iff.mp free
    obtain ⟨outcome, ran⟩ := getter.body_told reads (one.stateAs type.key)
    refine ⟨outcome, 0, ?_⟩
    intro enter world there
    have unheld : world.heap.borrowAt? cell = some .free := by
      rw [Heap.borrowAt?, there]
      exact free
    have known : (world.heap.setBorrow cell .exclusive).stateAt? type.key cell =
        one.stateAs type.key := by
      rw [Heap.setBorrow_state, Heap.stateAt?, there]
      rfl
    obtain ⟨heap, texts, told⟩ := ran enter cell
      { world with heap := world.heap.setBorrow cell .exclusive } known
    refine ⟨heap.endExclusive cell, texts, ?_⟩
    show runVirtual enter ⟨cell, type⟩ (member.body []) world = _
    rw [runVirtual_free unheld, told]
    simp [Heap.setBorrow]
  · refine .error (Heap.busy ⟨cell, type⟩) ?_
    intro enter world there
    have refused : world.heap.borrowExclusive? cell = none := by
      rw [Heap.borrowExclusive?, Heap.borrowAt?, there]
      cases content with
      | none => rfl
      | some one =>
        rcases one with ⟨key, state, borrow⟩
        cases borrow with
        | free => exact absurd rfl free
        | _ => rfl
    show runVirtual enter ⟨cell, type⟩ (member.body []) world = _
    rw [runVirtual, refused]

/-- A getter on a private copy. -/
theorem copied_told (getter : member.IsGetter accessor) (reads : accessor.ReadsOwn)
    (semantics : type.semantics = .value) (cell : Nat) (content : Option (Cell κ)) :
    (Handler.member .copied member).TellsOf [.object ⟨cell, type⟩] accessor.value cell content := by
  cases content with
  | none =>
    refine .error (Heap.busy ⟨cell, type⟩) ?_
    intro enter world there
    simp only [Handler.run, runOnReceiver, runCopied, Heap.copyOut, semantics, Heap.readObject, there]
  | some one =>
    cases shared : one.borrow.share?.isSome with
    | false =>
      refine .error (Heap.busy ⟨cell, type⟩) ?_
      intro enter world there
      simp only [Handler.run, runOnReceiver, runCopied, Heap.copyOut, semantics, Heap.readObject,
        there, shared]
      rfl
    | true =>
      cases holds : one.stateAs type.key with
      | none =>
        refine .error (MarshalError.typeMismatch type.name "foreign instance") ?_
        intro enter world there
        simp only [Handler.run, runOnReceiver, runCopied, Heap.copyOut, semantics, Heap.readObject,
          there, shared, if_true, holds]
      | some state =>
        obtain ⟨outcome, ran⟩ := getter.body_told reads (some state)
        refine ⟨outcome, 1, ?_⟩
        intro enter world there
        have copied : world.heap.copyOut ⟨cell, type⟩ =
            .ok (world.heap.allocate type.key state) := by
          simp only [Heap.copyOut, semantics, Heap.readObject, there, shared, if_true, holds]
        have known : (world.heap.allocate type.key state).2.stateAt? type.key
            world.heap.cells.size = some state := by
          simp [Heap.allocate, Heap.stateAt?, Cell.stateAs]
        obtain ⟨heap, texts, told⟩ := ran enter world.heap.cells.size
          { world with heap := (world.heap.allocate type.key state).2 } known
        refine ⟨heap, texts, ?_⟩
        show runCopied enter ⟨cell, type⟩ (member.body []) world = _
        rw [runCopied, copied]
        simp only [Heap.allocate] at told ⊢
        rw [told, Array.size_push]

theorem run_told (getter : member.IsGetter accessor) (reads : accessor.ReadsOwn) (cell : Nat)
    (content : Option (Cell κ)) :
    (Handler.member (Dispatch.ofMember member) member).TellsOf [.object ⟨cell, type⟩] accessor.value
      cell content := by
  rw [getter.dispatch]
  cases semantics : type.semantics with
  | reference => exact getter.virtual_told reads cell content
  | value => exact getter.copied_told reads semantics cell content

end Member.IsGetter

end NativeBridge
