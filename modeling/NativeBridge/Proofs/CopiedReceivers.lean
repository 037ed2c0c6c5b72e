/-
Module: NativeBridge.Proofs.CopiedReceivers
Purpose: A member of a value class runs on a new copy of the noted state, and what it computes depends
  on this state and its arguments alone.
Main exports: World.Stores, KeepsStates.stores, Host.Yields, Member.Computes,
  ClosureCall.accepted_neverBusy, ClosureCall.runs_copied
-/
import NativeBridge.Proofs.StoredValueRuns

namespace NativeBridge

variable {κ : Type} [HostProgram κ]

/-! ### Copies -/

/-- An instance of a value class has a state, and so have the copies that are made of it: the one a
member runs on, and the one that stands for an argument. -/
structure World.Stores (world : World κ) (object : HostObject κ)
    (state : HostProgram.State object.type.key) : Prop where
  behind : world.heap.stateAt? object.type.key object.cell = some state
  receiver : world.heap.copyOut object = .ok (world.heap.allocate object.type.key state)
  argument : MarshalType.copiedState object.type.key (.object object) world.heap = .ok state

theorem Heap.stateAt?_allocate (heap : Heap κ) (key : κ) (state : HostProgram.State key) :
    (heap.allocate key state).2.stateAt? key heap.cells.size = some state := by
  simp [allocate, stateAt?, Cell.stateAs]

theorem Heap.readObject_of_reads {heap : Heap κ} {object : HostObject κ}
    {state : HostProgram.State object.type.key}
    (known : heap.stateAt? object.type.key object.cell = some state)
    (readable : heap.isReadable object.cell = true) :
    ∃ one, heap.readObject object = .ok one ∧ one.stateAs object.type.key = some state := by
  obtain ⟨one, there, holds⟩ := Option.bind_eq_some_iff.mp known
  rw [isReadable, borrowAt?_of_cell there] at readable
  have shared : one.borrow.share?.isSome = true := readable
  exact ⟨one, by simp only [readObject, there, shared, if_true], holds⟩

theorem World.Stores.of_reads {world : World κ} {object : HostObject κ}
    {state : HostProgram.State object.type.key} (value : object.type.semantics = .value)
    (known : world.heap.stateAt? object.type.key object.cell = some state)
    (readable : world.heap.isReadable object.cell = true) : world.Stores object state := by
  obtain ⟨one, read, holds⟩ := Heap.readObject_of_reads known readable
  refine ⟨known, ?_, ?_⟩
  · simp only [Heap.copyOut, value, read, holds]
  · rcases object with ⟨cell, key, semantics⟩
    obtain rfl : semantics = .value := value
    have same : HostObject.expectType (⟨cell, ⟨key, .value⟩⟩ : HostObject κ) ⟨key, .value⟩ = .ok () :=
      if_pos rfl
    simp only [MarshalType.copiedState, same, bind, Except.bind, read, holds]

/-- What is kept can be copied. -/
theorem KeepsStates.stores {past : List (Moment κ)} {world : World κ} (keeps : KeepsStates past world)
    {registry : Nat} {handle : UInt64} {object : HostObject κ}
    (found : (world.registry registry).resolve handle = .ok object)
    (value : object.type.semantics = .value) :
    ∃ state, Noted past registry handle object state ∧ world.Stores object state := by
  obtain ⟨state, noted, known, readable⟩ := keeps registry handle object found value
  exact ⟨state, noted, .of_reads value known readable⟩

/-! ### Members that only compute -/

/-- A stretch of host code that yields a result in whatever process, and at most edits instances. -/
def Host.Yields {α : Type} (host : Host κ α) (a : α) : Prop :=
  ∀ next enter frame world, ∃ heap, (host next).run enter frame world =
    (next a).run enter frame { world with heap := heap }

namespace Host.Yields

variable {α β : Type}

theorem pure (a : α) : (Pure.pure a : Host κ α).Yields a :=
  fun _ _ _ world => ⟨world.heap, rfl⟩

theorem bind {host : Host κ α} {next : α → Host κ β} {a : α} {b : β} (one : host.Yields a)
    (two : (next a).Yields b) : (host >>= next).Yields b := by
  intro rest enter frame world
  obtain ⟨middle, first⟩ := one (fun a => next a rest) enter frame world
  obtain ⟨heap, second⟩ := two rest enter frame { world with heap := middle }
  exact ⟨heap, first.trans second⟩

theorem updateReceiver {key : κ} (state : HostProgram.State key) :
    (Host.updateReceiver state : Host κ Unit).Yields () := by
  intro next enter frame world
  simp only [Host.updateReceiver, Code.run]
  cases frame.receiver with
  | none => exact ⟨world.heap, rfl⟩
  | some cell => exact ⟨world.heap.setState cell key state, rfl⟩

end Host.Yields

/-- A member whose result is a function of its receiver's state and of its arguments. -/
def Member.Computes (member : Member κ) (parameters : List (MarshalType κ))
    (result : MarshalType κ)
    (answer : HostProgram.State member.owner.key → Tuple parameters → Carrier result) : Prop :=
  ∀ enter cell world state args tuple,
    world.heap.stateAt? member.owner.key cell = some state →
    Tuple.fromValues parameters args world.heap = .ok tuple →
    ∃ heap, (member.body args).run enter (.onReceiver cell) world =
      (.returned (.ok (result.intoValue (answer state tuple) heap).1),
        { world with heap := (result.intoValue (answer state tuple) heap).2 })

namespace Member

variable {type : ObjectType κ} {parameters : List (MarshalType κ)} {result : MarshalType κ}

theorem ofMethod_computes (name : String)
    {run : HostProgram.State type.key → Tuple parameters → Host κ (Carrier result)}
    {answer : HostProgram.State type.key → Tuple parameters → Carrier result}
    (yields : ∀ state tuple, (run state tuple).Yields (answer state tuple)) :
    (ofMethod type name parameters result run).Computes parameters result answer := by
  intro enter cell world state args tuple known read
  have known : world.heap.stateAt? type.key cell = some state := known
  obtain ⟨heap, yielded⟩ := yields state tuple
    (fun carried => .marshal result carried fun value => .done (.ok value)) enter
    (.onReceiver cell) world
  refine ⟨heap, ?_⟩
  simp only [ofMethod, plain, withReceiver, Host.receiving, Code.run, Frame.onReceiver,
    Option.bind_some, known, read]
  exact yielded

theorem ofGetter_computes (kind : MemberKind) (name : String)
    {get : HostProgram.State type.key → Host κ (Carrier result)}
    {answer : HostProgram.State type.key → Carrier result}
    (yields : ∀ state, (get state).Yields (answer state)) :
    (ofGetter type kind name result get).Computes [] result fun state _ => answer state := by
  intro enter cell world state args tuple known read
  have known : world.heap.stateAt? type.key cell = some state := known
  obtain ⟨heap, yielded⟩ := yields state
    (fun carried => .marshal result carried fun value => .done (.ok value)) enter
    (.onReceiver cell) world
  refine ⟨heap, ?_⟩
  simp only [ofGetter, plain, withReceiver, Host.receiving, Code.run, Frame.onReceiver,
    Option.bind_some, known, read]
  exact yielded

theorem ofSetter_computes (kind : MemberKind) (name : String) {value : MarshalType κ}
    {set : HostProgram.State type.key → Carrier value → Host κ (HostProgram.State type.key)}
    {answer : HostProgram.State type.key → Carrier value → HostProgram.State type.key}
    (yields : ∀ state carried, (set state carried).Yields (answer state carried)) :
    (ofSetter type kind name value set).Computes [value] .unit fun _ _ => () := by
  intro enter cell world state args tuple known read
  rcases tuple with ⟨carried, rest⟩
  have known : world.heap.stateAt? type.key cell = some state := known
  obtain ⟨heap, yielded⟩ := yields state carried
    (fun state => .writeReceiver type.key state (.done (.ok .void))) enter
    (.onReceiver cell) world
  refine ⟨heap.setState cell type.key (answer state carried), ?_⟩
  simp only [ofSetter, plain, withReceiver, Host.receiving, Code.run, Frame.onReceiver,
    Option.bind_some, known, read]
  exact yielded

end Member

/-! ### Calls -/

/-- No failure of an instance that somebody else holds. -/
def NeverBusy {α : Type} (result : Except Error α) : Prop :=
  ∀ name, result ≠ .error (.handle (.receiverBusy name))

namespace NeverBusy

variable {α β : Type}

theorem ok (a : α) : NeverBusy (.ok a) := fun _ same => by cases same

theorem bind {result : Except Error α} {next : α → Except Error β} (one : NeverBusy result)
    (two : ∀ a, NeverBusy (next a)) : NeverBusy (result >>= next) := by
  cases result with
  | error error => exact fun name same => one name (by cases same; rfl)
  | ok a => exact two a

theorem marshal (cause : MarshalError) : NeverBusy (.error (.marshal cause) : Except Error α) :=
  fun _ same => by cases same

theorem callable (cause : CallableError) :
    NeverBusy (.error (.callable cause) : Except Error α) :=
  fun _ same => by cases same

theorem ofMarshal (result : Except MarshalError α) :
    NeverBusy (liftM result : Except Error α) := by
  rintro name same
  cases result <;> cases same

omit [HostProgram κ] in
theorem resolve (registry : Registry κ) (handle : UInt64) :
    NeverBusy (liftM (registry.resolve handle) : Except Error (HostObject κ)) := by
  rintro name same
  rw [Registry.resolve] at same
  cases found : registry.slots.lookup handle <;> rw [found] at same <;> cases same

end NeverBusy

/-- Decoding an argument waits for nobody. -/
theorem accept_neverBusy (registry : Option (Registry κ)) (memory : Memory) (slot : MarshalSlot κ)
    (raw : RawValue) (heap : Heap κ) : NeverBusy (accept registry memory slot raw heap) := by
  rcases slot with ⟨type, byHandle⟩
  cases type with
  | object type =>
    refine .bind (.ofMarshal _) fun address => ?_
    cases registry with
    | none => exact .callable _
    | some registry => exact .bind (.resolve _ _) fun _ => .bind (.ofMarshal _) fun _ => .ok _
  | string | stringBuffer =>
    exact .bind (.ofMarshal _) fun _ => .bind (.ofMarshal _) fun _ => .ok _
  | _ => exact .bind (.ofMarshal _) fun _ => .ok _

theorem acceptEach_neverBusy (registry : Option (Registry κ)) (memory : Memory)
    (slots : List (MarshalSlot κ)) (raws : List RawValue) (heap : Heap κ) :
    NeverBusy (acceptEach registry memory slots raws heap) := by
  induction slots generalizing raws heap with
  | nil => exact .ok _
  | cons slot slots ih =>
    cases raws with
    | nil => exact .ok _
    | cons raw raws =>
      rw [acceptEach]
      exact .bind (accept_neverBusy registry memory slot raw heap)
        fun _ => .bind (ih _ _) fun _ => .ok _

theorem giveDirect_neverBusy (type : HostType κ) (value : Value κ) :
    NeverBusy (giveDirect type value) := by
  rw [giveDirect]
  cases value.toRaw? with
  | none => exact .marshal _
  | some raw =>
    dsimp only
    split
    · exact .ok _
    · exact .marshal _

/-- Encoding a result waits for nobody. -/
theorem Closure.give_neverBusy (closure : Closure κ) (address : UInt64) (value : Value κ)
    (world : World κ) : NeverBusy (closure.give address value world).1 := by
  unfold Closure.give
  dsimp only
  split
  · exact .ok _
  · next type object _ =>
    cases object.expectType type with
    | error error => exact .marshal _
    | ok done =>
      cases closure.registry with
      | none => exact .callable _
      | some registry => exact .ok _
  · next text _ =>
    cases cBytes text with
    | error error => exact .marshal _
    | ok bytes => exact .ok _
  · next buffer _ =>
    cases cBytes (world.heap.text buffer) with
    | error error => exact .marshal _
    | ok bytes => exact .ok _
  · exact giveDirect_neverBusy _ _

namespace ClosureCall

variable {call : ClosureCall κ} {registry : Nat} {member : Member κ} {past : List (Moment κ)}

theorem accepted_neverBusy (call : ClosureCall κ) : NeverBusy call.accepted := by
  rw [accepted, acceptAll]
  split
  · exact acceptEach_neverBusy _ _ _ _ _
  · exact .marshal _

/-- A call fails with an instance that is held elsewhere only if its host code does. -/
theorem busy_inside {name : String}
    (busy : call.outcome = .returned (.error (.handle (.receiverBusy name)))) :
    call.inside = some (.returned (.error (.handle (.receiverBusy name))), call.left) := by
  have never := call.accepted_neverBusy
  rw [outcome, dispatched_eq] at busy
  rw [left, inside]
  cases accepted : call.accepted with
  | error error =>
    rw [accepted] at busy never
    cases busy
    exact absurd rfl (never name)
  | ok decoded =>
    rcases decoded with ⟨args, writeBacks, heap⟩
    rw [accepted] at busy
    dsimp only at busy ⊢
    generalize call.closure.handler.run (enterAt call.depth) args
      { call.world with heap := heap } = ran at busy ⊢
    rcases ran with ⟨ended, left⟩
    cases ended with
    | panicked message => cases busy
    | returned result =>
      cases result with
      | error error =>
        cases busy
        rfl
      | ok value =>
        have given := call.closure.give_neverBusy call.address value
          (applyWriteBacks writeBacks left)
        exact absurd (Outcome.returned.inj busy) (given name)

/-- A call runs a member on a new copy of a state, and nothing but the member makes it fail as an
instance that is held elsewhere does.  If the member only computes, what comes of it is computed from
the state and the arguments. -/
structure RunsOnCopy (call : ClosureCall κ) (member : Member κ)
    (state : HostProgram.State member.owner.key) (args : List (Value κ)) (heap : Heap κ) : Prop where
  inside : call.inside = some ((member.body args).run (enterAt call.depth)
    (.onReceiver heap.cells.size)
    { call.world with heap := (heap.allocate member.owner.key state).2 })
  busy : ∀ name, call.outcome = .returned (.error (.handle (.receiverBusy name))) →
    ((member.body args).run (enterAt call.depth) (.onReceiver heap.cells.size)
      { call.world with heap := (heap.allocate member.owner.key state).2 }).1 =
        .returned (.error (.handle (.receiverBusy name)))
  computed : ∀ parameters result answer tuple, member.Computes parameters result answer →
    Tuple.fromValues parameters args (heap.allocate member.owner.key state).2 = .ok tuple →
    ∃ edited, call.inside =
      some (.returned (.ok (result.intoValue (answer state tuple) edited).1),
        { call.world with heap := (result.intoValue (answer state tuple) edited).2 })

theorem RunsOnCopy.of_inside {state : HostProgram.State member.owner.key} {args : List (Value κ)}
    {heap : Heap κ} (inside : call.inside = some ((member.body args).run (enterAt call.depth)
      (.onReceiver heap.cells.size)
      { call.world with heap := (heap.allocate member.owner.key state).2 })) :
    call.RunsOnCopy member state args heap where
  inside := inside
  busy name busy := by
    have failed := busy_inside busy
    rw [inside] at failed
    exact congrArg Prod.fst (Option.some.inj failed)
  computed parameters result answer tuple computes read := by
    obtain ⟨edited, answered⟩ := computes (enterAt call.depth) heap.cells.size
      { call.world with heap := (heap.allocate member.owner.key state).2 } state args tuple
      (Heap.stateAt?_allocate heap member.owner.key state) read
    exact ⟨edited, inside.trans (congrArg some answered)⟩

/-- A member of a value class runs on a copy of the state that was noted for the handle in its first
argument. -/
theorem runs_copied (keeps : KeepsStates past call.world)
    (thunk : call.closure.IsThunk registry member) (called : member.isStatic = false)
    (value : member.owner.semantics = .value) {values : List (Value κ)}
    {writeBacks : List WriteBack} {heap : Heap κ}
    (accepted : call.accepted = .ok (values, writeBacks, heap)) :
    ∃ handle cell args state, call.args.head? = some (.pointer handle) ∧
      (call.world.registry registry).resolve handle = .ok ⟨cell, member.owner⟩ ∧
      values = .object ⟨cell, member.owner⟩ :: args ∧
      Noted past registry handle ⟨cell, member.owner⟩ state ∧
      call.RunsOnCopy member state args heap := by
  have dispatch : Dispatch.ofMember member = .copied := by
    simp [Dispatch.ofMember, called, value]
  have receiving : Dispatch.ofMember member ≠ .static := by
    rw [dispatch]
    intro same
    cases same
  obtain ⟨handle, cell, args, sent, found, rfl⟩ := accepted_receiver thunk receiving accepted
  obtain ⟨state, noted, known, readable⟩ := keeps registry handle _ found value
  have begun : World.Stores { call.world with heap := heap } ⟨cell, member.owner⟩ state := by
    obtain ⟨state', readable'⟩ := Heap.reads_congr (accepted_cells accepted) member.owner.key cell
    exact .of_reads value (state'.trans known) (readable'.trans readable)
  refine ⟨handle, cell, args, state, sent, found, rfl, noted, .of_inside ?_⟩
  rw [inside, accepted, thunk.handler, dispatch]
  simp only [Handler.run, runOnReceiver, runCopied, begun.receiver]
  rfl

end ClosureCall

end NativeBridge
