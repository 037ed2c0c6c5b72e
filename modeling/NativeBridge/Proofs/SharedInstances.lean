/-
Module: NativeBridge.Proofs.SharedInstances
Purpose: What is set through one handle of an instance is got through all of them, and nothing else
  changes.
Main exports: Member.IsSetter.call_free, Member.IsGetter.call_free, Member.IsGetter.call_congr,
  World.SharesSet, Genuine.set_shared, ClosureCall.Lends, Course.lends, Session.instances_shared
-/
import NativeBridge.Proofs.ConstructedInstances
import NativeBridge.Proofs.ThunkAnswers

namespace NativeBridge

variable {σ κ : Type} [HostProgram κ]

/-!
Two live handles resolve to one cell or to two, and that alone decides whether they share an
instance.  A setter writes the cell of its receiver and nothing else, so a getter is determined by the
handles as they were and by the one cell that it reads.  Which handles share a cell is a matter of
where they come from: the trace up to now says for which object each was given out last.
-/

/-! ### Calls of accessors -/

omit [HostProgram κ] in
theorem MarshalType.Admits.hasType {type : MarshalType κ} {value : Value κ}
    (admits : type.Admits value) : value.HasType type.hostType := by
  cases admits <;> constructor

namespace World.HasThunk

variable {now after : World κ} {function : ForeignFunction κ} {registry : Nat} {member : Member κ}

/-- A thunk stays where it is while all code does. -/
theorem congr (thunk : now.HasThunk function registry member) (same : after.code = now.code) :
    after.HasThunk function registry member := by
  obtain ⟨closure, there, isThunk⟩ := thunk.placed
  refine ⟨thunk.signature, closure, ?_, isThunk⟩
  rw [World.codeAt?, same]
  exact there

end World.HasThunk

namespace Member

variable {type : ObjectType κ} {accessor : TypeBuilder.Accessor type} {member : Member κ}
  {now after : World κ} {function : ForeignFunction κ} {registry cell : Nat} {handle : UInt64}
  {value : Value κ} {carried : Carrier accessor.value} {state written : HostProgram.State type.key}

/-- A call of a setter through a handle of an instance that nobody holds changes the state of the
instance, and nothing else but that a text is copied. -/
theorem IsSetter.call_free (setter : member.IsSetter accessor)
    (reference : type.semantics = .reference) (thunk : now.HasThunk function registry member)
    (found : (now.registry registry).resolve handle = .ok ⟨cell, type⟩)
    (known : now.heap.stateAt? type.key cell = some state)
    (free : now.heap.borrowAt? cell = some .free)
    (typed : value.HasType accessor.value.hostType) (clean : ¬ value.HasNul)
    (read : ∀ heap, accessor.value.fromValue value heap = .ok carried)
    (settles : (accessor.set state carried).Settles (.returned (.ok written)))
    (fits : (now.memory.keep value).Fits) (depth : Nat) :
    function.call (enterAt (depth + 1)) [.pointer handle, value] now =
      (.returned (.ok .void), { now with
        memory := now.memory.keep value
        heap := now.heap.setState cell type.key written }) := by
  have args : List.Forall₂ Value.HasType [value] member.parameters := by
    rw [setter.parameters]
    exact .cons typed .nil
  have cleanAll : ∀ one ∈ [value], ¬ one.HasNul := List.forall_mem_singleton.mpr clean
  let start := ForeignFunction.nativeStart now (now.memory.keep value)
  have ran : (Handler.member (Dispatch.ofMember member) member).run (enterAt depth)
      [.object ⟨cell, type⟩, value] start =
        (.returned (.ok .void), { start with heap := now.heap.setState cell type.key written }) :=
    setter.run_free reference known free read settles
  exact thunk.call_void setter.receives setter.result args cleanAll fits found setter.owner.symm
    ran rfl

/-- A call of a getter through a handle of an instance that nobody holds gives what the accessor
gets. -/
theorem IsGetter.call_free (getter : member.IsGetter accessor)
    (reference : type.semantics = .reference) (thunk : now.HasThunk function registry member)
    (found : (now.registry registry).resolve handle = .ok ⟨cell, type⟩)
    (known : now.heap.stateAt? type.key cell = some state)
    (free : now.heap.borrowAt? cell = some .free)
    (typed : value.HasType accessor.value.hostType) (clean : ¬ value.HasNul)
    (shown : ∀ heap, accessor.value.intoValue carried heap = (value, heap))
    (settles : (accessor.get state).Settles (.returned (.ok carried)))
    (fits : now.memory.Fits) (depth : Nat)
    (room : (function.call (enterAt (depth + 1)) [.pointer handle] now).2.memory.Fits) :
    (function.call (enterAt (depth + 1)) [.pointer handle] now).1 = .returned (.ok value) := by
  have args : List.Forall₂ Value.HasType [] member.parameters := by
    rw [getter.parameters]
    exact .nil
  let start := ForeignFunction.nativeStart now now.memory
  have ran : (Handler.member (Dispatch.ofMember member) member).run (enterAt depth)
      [.object ⟨cell, type⟩] start = (.returned (.ok value), start) :=
    getter.run_free reference known free shown settles
  have told : ∀ one, Outcome.returned (.ok value) = .returned (.ok one) →
      ∃ carried size, one = accessor.value.asValue carried size := by
    rintro _ ⟨⟩
    refine ⟨carried, now.heap.cells.size, ?_⟩
    rw [← accessor.value.intoValue_asValue carried now.heap, shown]
  have answer := thunk.call_answer getter.receives getter.result args (List.forall_mem_nil _) fits
    found getter.owner.symm ran told rfl room
  have arrives : start.answer registry (.returned (.ok value)) = start.plainAnswer (.ok value) :=
    typed.arrival_ok clean start registry
  rw [arrives] at answer
  exact congrArg Answer.outcome answer

/-- A getter that reads its own instance alone gives the same answer wherever the instance, all texts
and all handles are the same. -/
theorem IsGetter.call_congr (getter : member.IsGetter accessor) (reads : accessor.ReadsOwn)
    (one other : World κ) {object : HostObject κ} (thunk : one.HasThunk function registry member)
    (code : other.code = one.code) (registries : other.registries = one.registries)
    (texts : other.heap.texts = one.heap.texts)
    (content : other.heap.cells[object.cell]? = one.heap.cells[object.cell]?)
    (size : other.heap.cells.size = one.heap.cells.size)
    (found : (one.registry registry).resolve handle = .ok object)
    (fits : one.memory.Fits) (fits' : other.memory.Fits) (depth : Nat)
    (room : (function.call (enterAt (depth + 1)) [.pointer handle] one).2.memory.Fits)
    (room' : (function.call (enterAt (depth + 1)) [.pointer handle] other).2.memory.Fits) :
    Answer.ofCall (function.call (enterAt (depth + 1)) [.pointer handle] other) =
      Answer.ofCall (function.call (enterAt (depth + 1)) [.pointer handle] one) := by
  have args : List.Forall₂ Value.HasType [] member.parameters := by
    rw [getter.parameters]
    exact .nil
  have thunk' := thunk.congr code
  have found' : (other.registry registry).resolve handle = .ok object := by
    rw [World.registry_congr registries]
    exact found
  by_cases same : object.type = member.owner
  · rcases object with ⟨cell, used⟩
    obtain rfl : used = type := same.trans getter.owner
    obtain ⟨outcome, more, ran⟩ := getter.run_told reads cell one.heap.cells[cell]?
    obtain ⟨heap, kept, ran₁⟩ :=
      ran (enterAt depth) (ForeignFunction.nativeStart one one.memory) rfl
    obtain ⟨heap', kept', ran₂⟩ :=
      ran (enterAt depth) (ForeignFunction.nativeStart other other.memory) content
    rw [show (ForeignFunction.nativeStart other other.memory).heap.cells.size =
      (ForeignFunction.nativeStart one one.memory).heap.cells.size from size] at ran₂
    have told (value : Value κ) (came : accessor.value.told outcome
        ((ForeignFunction.nativeStart one one.memory).heap.cells.size + more) =
          .returned (.ok value)) :
        ∃ carried size, value = accessor.value.asValue carried size := by
      obtain ⟨carried, rfl⟩ := MarshalType.told_value came
      exact ⟨carried, _, rfl⟩
    rw [thunk.call_answer getter.receives getter.result args (List.forall_mem_nil _) fits found
        same ran₁ told rfl room,
      thunk'.call_answer getter.receives getter.result args (List.forall_mem_nil _) fits' found'
        same ran₂ told rfl room']
    apply World.answer_congr
    · exact kept'.trans (texts.trans kept.symm)
    · exact registries
  · rw [thunk.call_foreign getter.receives args (List.forall_mem_nil _) fits found same,
      thunk'.call_foreign getter.receives args (List.forall_mem_nil _) fits' found' same]
    exact World.answer_congr texts registries registry (.returned (.error _))

end Member

/-! ### Setting in a process -/

/-- Other instances are as before when the state of one was written. -/
theorem Heap.setState_other (heap : Heap κ) {cell other : Nat} (apart : other ≠ cell) (key : κ)
    (state : HostProgram.State key) :
    (heap.setState cell key state).cells[other]? = heap.cells[other]? := by
  rw [setState, Array.getElem?_modify, if_neg apart.symm]

/-- A value was set that all handles of an instance share: it is got through each of them, and what
getters tell of other instances is what they told before. -/
structure World.SharesSet (before after : World κ) {type : ObjectType κ}
    (accessor : TypeBuilder.Accessor type) (cell : Nat) (value : Value κ) : Prop where
  registries : after.registries = before.registries
  got : ∀ getter id get depth handle object, getter.IsGetter accessor →
    before.HasThunk get id getter → (before.registry id).resolve handle = .ok object →
    object.cell = cell →
    let call := get.call (enterAt (depth + 1)) [.pointer handle] after
    call.2.memory.Fits → call.1 = .returned (.ok value)
  untouched : ∀ (other : ObjectType κ) (accessor' : TypeBuilder.Accessor other) getter id get depth
    handle object, accessor'.ReadsOwn → getter.IsGetter accessor' → before.HasThunk get id getter →
    (before.registry id).resolve handle = .ok object → object.cell ≠ cell →
    let call := get.call (enterAt (depth + 1)) [.pointer handle]
    (call before).2.memory.Fits → (call after).2.memory.Fits →
    Answer.ofCall (call after) = Answer.ofCall (call before)

/-- A setter that is called through a genuine handle of an instance that nobody holds. -/
theorem Genuine.set_shared {past : List (Moment κ)} {now : World κ} (genuine : Genuine past now)
    {type : ObjectType κ} {accessor : TypeBuilder.Accessor type} {setter : Member κ}
    {set : ForeignFunction κ} {registry cell : Nat} {handle : UInt64} {value : Value κ}
    (lawful : accessor.Lawful) (reference : type.semantics = .reference)
    (sets : setter.IsSetter accessor) (thunk : now.HasThunk set registry setter)
    (found : (now.registry registry).resolve handle = .ok ⟨cell, type⟩)
    (free : now.heap.borrowAt? cell = some .free) (admits : accessor.value.Admits value)
    (clean : ¬ value.HasNul) (fits : (now.memory.keep value).Fits) (depth : Nat) :
    ∃ after, set.call (enterAt (depth + 1)) [.pointer handle, value] now =
        (.returned (.ok .void), after) ∧ now.SharesSet after accessor cell value := by
  have among := genuine.stored registry handle _ found
  obtain ⟨one, there, key⟩ := genuine.placed _ among
  obtain ⟨state, known⟩ := Heap.stateAt?_of_key there key
  obtain ⟨carried, crosses⟩ := admits.carried
  obtain ⟨written, settles, gets⟩ := lawful state carried
  let after : World κ := { now with
    memory := now.memory.keep value
    heap := now.heap.setState cell type.key written }
  refine ⟨after, sets.call_free reference thunk found known free admits.hasType clean
    (fun heap => (crosses heap).1) settles fits depth, rfl, ?_, ?_⟩
  · intro getter id get depth handle object isGetter isThunk resolved same call room
    obtain rfl : object = ⟨cell, type⟩ :=
      genuine.apart _ (genuine.stored id handle _ resolved) _ among same
    have later : after.HasThunk get id getter := isThunk.congr rfl
    have unheld : after.heap.borrowAt? cell = some .free := by
      rw [Heap.borrowAt?_setState, free]
    exact isGetter.call_free reference later resolved (Heap.stateAt?_setState known written) unheld
      admits.hasType clean (fun heap => (crosses heap).2) gets fits depth room
  · intro other accessor' getter id get depth handle object reads isGetter isThunk resolved apart
      call room room'
    have earlier : now.memory.Fits := (now.memory.keep_extends value).fits fits
    have content := now.heap.setState_other apart type.key written
    exact isGetter.call_congr reads now after isThunk rfl rfl rfl content Array.size_modify resolved
      earlier fits depth room room'

/-! ### Handles that calls return -/

/-- A handle of a registry is not given out at any moment of a trace. -/
def Withheld (trace : List (Moment κ)) (id : Nat) (handle : UInt64) : Prop :=
  ∀ moment ∈ trace, ∀ object, moment.issues ≠ some (id, handle, object)

/-- A call came back with a handle for the instance that its member returned, and after some more
moments the handle, if it is live and was not given out again, still stands for this instance. -/
structure ClosureCall.Lends (call : ClosureCall κ) (later : List (Moment κ)) (now : World κ)
    (registry : Nat) (handle : UInt64) (object : HostObject κ) : Prop where
  hands : call.Hands registry handle object
  lasts : Withheld later registry handle →
    ∀ found, (now.registry registry).resolve handle = .ok found → found = object

/-- A call of a thunk in a course that comes back with a value, an object being declared, comes back
with a handle for what its member returned. -/
theorem Course.lends {begun now : World κ} {before later : List (Moment κ)} {call : ClosureCall κ}
    (course : Course begun (before ++ .left call :: later) now) {registry : Nat}
    (has : begun.HasRegistry registry) {member : Member κ}
    (thunk : call.closure.IsThunk registry member) (typed : member.Typed) {type : ObjectType κ}
    (declared : member.result = .object type) {raw : RawValue}
    (returned : call.outcome = .returned (.ok raw)) :
    ∃ handle object, raw = .pointer handle ∧ call.Lends later now registry handle object := by
  obtain ⟨-, front, -, -⟩ := course.at_moment
  obtain ⟨handle, object, same, hands⟩ :=
    call.hands thunk typed declared returned (front.hasRegistry has)
  exact ⟨handle, object, same, hands, fun withheld _ => course.resolve_issued hands.issued withheld⟩

namespace Session

variable [CompilationService σ κ]

/-- At all times in every run of bindings, calls in any nesting and releases, the handles of a session
share instances as host references do.  What the setter of a lawful property or field sets through
one handle of an instance that nobody holds, the getter gives through every handle of the instance,
and through handles of all other instances getters give what they gave before.  Two calls of
constructors return handles for different instances.  A handle that is returned for an object is for
the very instance that the member returned. -/
theorem instances_shared (service : σ) (world : World κ) (deeds : List (Deed κ))
    (gently : AddsGently (κ := κ) σ) (gentle : ∀ deed ∈ deeds, deed.Gentle)
    (unused : ∀ registry handle object, (world.registry registry).resolve handle ≠ .ok object)
    (instances : Throughout Moment.IssuesInstances (Deed.traces deeds (create service world))) :
    let begun := (create service world).2
    let trace := Deed.traces deeds (create service world)
    let last := (Deed.runs deeds (create service world)).2
    ∀ past now, StandsAfter trace last past now →
      (∀ (type : ObjectType κ) (accessor : TypeBuilder.Accessor type) setter set registry handle cell
        value depth, type.semantics = .reference → accessor.Lawful → setter.IsSetter accessor →
        now.HasThunk set registry setter →
        (now.registry registry).resolve handle = .ok ⟨cell, type⟩ →
        now.heap.borrowAt? cell = some .free →
        accessor.value.Admits value → ¬ value.HasNul → (now.memory.keep value).Fits →
        ∃ after, set.call (enterAt (depth + 1)) [.pointer handle, value] now =
          (.returned (.ok .void), after) ∧ now.SharesSet after accessor cell value) ∧
      (∀ first one second other third registry registry' maker maker' raw raw',
        past = first ++ .left one :: (second ++ .left other :: third) →
        begun.HasRegistry registry → begun.HasRegistry registry' →
        one.closure.IsThunk registry maker → maker.IsConstructor →
        other.closure.IsThunk registry' maker' → maker'.IsConstructor →
        one.outcome = .returned (.ok raw) → other.outcome = .returned (.ok raw') →
        ∃ handle object handle' object', raw = .pointer handle ∧ raw' = .pointer handle' ∧
          one.Lends (second ++ .left other :: third) now registry handle object ∧
          other.Lends third now registry' handle' object' ∧ object.cell ≠ object'.cell) ∧
      (∀ before call later registry member type raw, past = before ++ .left call :: later →
        begun.HasRegistry registry → call.closure.IsThunk registry member → member.Typed →
        member.result = .object type → call.outcome = .returned (.ok raw) →
        ∃ handle object, raw = .pointer handle ∧ call.Lends later now registry handle object) := by
  intro begun trace last past now stands
  have course : Course begun past now := stands.course (Deed.runs_course gently deeds gentle _)
  have start : Genuine [] begun := .nil (create_unused service unused)
  have issued : Throughout Moment.IssuesInstances past := stands.throughout instances
  have bracketed : Bracketed past := stands.throughout (bracketed_law.deeds deeds _)
  refine ⟨?set, ?constructed, ?returned⟩
  case set =>
    intro type accessor setter set registry handle cell value depth reference lawful sets thunk found
      free admits clean fits
    have genuine : Genuine ([] ++ past) now := start.course course issued
    exact genuine.set_shared lawful reference sets thunk found free admits clean fits depth
  case constructed =>
    rintro first one second other third registry registry' maker maker' raw raw' rfl has has' thunk
      constructs thunk' constructs' returned returned'
    obtain ⟨handle, object, same, lends⟩ :=
      course.lends has thunk constructs.typed constructs.result returned
    have regrouped : first ++ .left one :: (second ++ .left other :: third) =
        (first ++ .left one :: second) ++ .left other :: third := by simp
    rw [regrouped] at course issued bracketed
    obtain ⟨handle', object', same', lends'⟩ :=
      course.lends has' thunk' constructs'.typed constructs'.result returned'
    obtain ⟨-, front, -, -⟩ := course.at_moment
    have ends : EndsMaking (first ++ .left one :: second) object' :=
      ClosureCall.ends_making thunk' constructs' lends'.hands.returned bracketed
    exact ⟨handle, object, handle', object', same, same', lends, lends',
      ends.apart lends.hands.issued front start issued.front⟩
  case returned =>
    rintro before call later registry member type raw rfl has thunk typed declared returned
    exact course.lends has thunk typed declared returned

end Session

namespace Workbench

/-- A class of boxes that are shared. -/
def boxType : ObjectType Key := ⟨.widget .testClass, .reference⟩

/-- The text in a box. -/
def boxText : TypeBuilder.Accessor boxType where
  value := .string
  get state := pure state.text
  set state text := pure { state with text := text }

/-- The constructor of boxes. -/
def boxNew : Member Key :=
  TypeBuilder.withSymbol "new" (.ofConstructor boxType [] fun _ => pure Widget.default)

/-- The getter of the text. -/
def boxGet : Member Key :=
  TypeBuilder.withSymbol "get" (.ofGetter boxType .propertyGetter "Text" boxText.value boxText.get)

/-- The setter of the text. -/
def boxSet : Member Key :=
  TypeBuilder.withSymbol "set" (.ofSetter boxType .propertySetter "Text" boxText.value boxText.set)

/-- Host code that gets one more handle for the first box. -/
def boxShare : Code Key :=
  .allocateHandle 0 ⟨0, boxType⟩ fun _ => .done (.ok .void)

/-- The thunk of a member, its handles in the first registry. -/
def boxThunk (id : Nat) (symbol : String) (member : Member Key) : Closure Key :=
  ⟨⟨id, thunkSignature member⟩, symbol, thunkPlan member, some 0,
    .member (Dispatch.ofMember member) member, []⟩

theorem boxThunk_isThunk (id : Nat) (symbol : String) (member : Member Key) :
    (boxThunk id symbol member).IsThunk 0 member := ⟨rfl, rfl, rfl, rfl⟩

/-- A process in which the thunks of the members were made. -/
def boxWorld : World Key :=
  { World.initial Globals.initial with
    code := #[.closure (boxThunk 1 "new" boxNew), .closure (boxThunk 2 "get" boxGet),
      .closure (boxThunk 3 "set" boxSet)] }

/-- Native code makes two boxes, and host code shares the first. -/
def boxDeeds : List (Deed Key) :=
  [.native 1 (World.codeAddress 0) .pointer [], .native 1 (World.codeAddress 0) .pointer [],
    .host 0 boxShare]

/-- The session and the process after some of these deeds. -/
def boxState (number : Nat) : Session ScriptedCompiler × World Key :=
  Deed.runs (boxDeeds.take number) (Session.create ScriptedCompiler.fresh boxWorld)

/-- Native code makes a box. -/
def boxCall (world : World Key) : ClosureCall Key :=
  ⟨0, World.codeAddress 0, boxThunk 1 "new" boxNew, [], world⟩

/-- The moments of the deeds. -/
def boxTrace : List (Moment Key) :=
  .outside none (boxState 0).2 :: (boxCall (boxState 0).2).trace (enterTrace 0) ++
    (.outside none (boxState 1).2 :: (boxCall (boxState 1).2).trace (enterTrace 0) ++
      [.outside none (boxState 2).2, .working boxShare .bare (boxState 2).2,
        .working (.done (.ok .void)) .bare (boxState 3).2])

theorem boxDeeds_traces : Deed.traces boxDeeds (boxState 0) = boxTrace := by
  have placed {world : World Key}
      (there : world.code[0]? = some (.closure (boxThunk 1 "new" boxNew))) :
      enterTrace 1 (World.codeAddress 0) [] world = (boxCall world).trace (enterTrace 0) :=
    enterTrace_closure (World.codeAt?_codeAddress there (by decide)) 0 []
  have first := @placed (boxState 0).2 rfl
  have second := @placed (boxState 1).2 rfl
  have sharing : Code.trace (enterAt 0) (enterTrace 0) boxShare .bare (boxState 2).2 =
      [.working boxShare .bare (boxState 2).2,
        .working (.done (.ok .void)) .bare (boxState 3).2] := by
    rw [boxShare, Code.trace_rest rfl, Code.trace_ended rfl]
    rfl
  have parted : Deed.traces boxDeeds (boxState 0) =
      .outside none (boxState 0).2 :: enterTrace 1 (World.codeAddress 0) [] (boxState 0).2 ++
        (.outside none (boxState 1).2 :: enterTrace 1 (World.codeAddress 0) [] (boxState 1).2 ++
          (.outside none (boxState 2).2 ::
            Code.trace (enterAt 0) (enterTrace 0) boxShare .bare (boxState 2).2 ++ [])) := rfl
  rw [parted, first, second, sharing]
  rfl

/-- While a box is made no handle is given out. -/
theorem boxCall_inside (world : World Key) :
    ∀ moment ∈ (boxCall world).insideTrace (enterTrace 0), moment.issues = none := by
  have trace : (boxCall world).insideTrace (enterTrace 0) =
      (boxNew.body []).trace (enterAt 0) (enterTrace 0) .bare world := rfl
  have body : (boxNew.body []).trace (enterAt 0) (enterTrace 0) .bare world =
      [.working (boxNew.body []) .bare world, .working (.newObject boxType Widget.default
        fun object => .done (.ok (.object object))) .bare world,
        .working (.done (.ok (.object ⟨world.heap.cells.size, boxType⟩))) .bare
          { world with heap := (world.heap.newObject boxType Widget.default).2 }] := by
    rw [Code.trace_rest rfl, Code.trace_rest rfl, Code.trace_ended rfl]
    rfl
  intro moment among
  rw [trace, body] at among
  simp only [List.mem_cons, List.not_mem_nil, or_false] at among
  obtain rfl | rfl | rfl := among <;> rfl

theorem boxDeeds_instances :
    Throughout Moment.IssuesInstances (Deed.traces boxDeeds (boxState 0)) := by
  rw [boxDeeds_traces]
  refine Moment.issuesInstances_of_one boxType ?_
  have called (world : World Key) (moment : Moment Key)
      (among : moment ∈ (boxCall world).trace (enterTrace 0)) (registry : Nat) (handle : UInt64)
      (object : HostObject Key) (issued : moment.issues = some (registry, handle, object)) :
      moment = .left (boxCall world) := by
    rcases List.mem_cons.mp among with rfl | among
    · cases issued
    · rcases List.mem_append.mp among with inside | ending
      · rw [boxCall_inside world moment inside] at issued
        cases issued
      · simp only [List.mem_cons, List.not_mem_nil, or_false] at ending
        obtain rfl | rfl := ending
        · rfl
        · cases issued
  intro moment among registry handle object issued
  simp only [boxTrace, List.cons_append, List.mem_cons, List.mem_append, List.not_mem_nil,
    or_false] at among
  obtain rfl | among | rfl | among | rfl | rfl | rfl := among
  · cases issued
  · obtain rfl := called _ _ among _ _ _ issued
    cases issued
    exact ⟨rfl, _, rfl, rfl⟩
  · cases issued
  · obtain rfl := called _ _ among _ _ _ issued
    cases issued
    exact ⟨rfl, _, rfl, rfl⟩
  · cases issued
  · cases issued
    exact ⟨rfl, _, rfl, rfl⟩
  · cases issued

/-- A thunk in the process after the deeds. -/
theorem boxThunk_placed {index id : Nat} {symbol : String} {member : Member Key}
    (there : (boxState 3).2.code[index]? = some (.closure (boxThunk id symbol member)))
    (space : World.AddressRoom index) :
    (boxState 3).2.HasThunk ⟨World.codeAddress index, ⟨id, thunkSignature member⟩⟩ 0 member :=
  ⟨rfl, _, World.codeAt?_codeAddress there space, rfl, rfl, rfl, rfl⟩

theorem boxText_lawful : boxText.Lawful :=
  fun state text => ⟨{ state with text := text }, .pure _, .pure _⟩

theorem boxNew_isConstructor : boxNew.IsConstructor :=
  ⟨boxType, [], fun _ => pure Widget.default, .shown, some "new", fun _ => .pure _, rfl⟩

/-- The setter of the text at its address. -/
def boxSetter : ForeignFunction Key := ⟨World.codeAddress 2, ⟨3, thunkSignature boxSet⟩⟩

/-- The getter of the text at its address. -/
def boxGetter : ForeignFunction Key := ⟨World.codeAddress 1, ⟨2, thunkSignature boxGet⟩⟩

/-- What is written into the first box through one handle is read through the other, the second box
keeps its text, and the constructor has made two boxes. -/
theorem boxes_shared :
    Session.AddsGently (κ := Key) ScriptedCompiler ∧ (∀ deed ∈ boxDeeds, deed.Gentle) ∧
      (∀ registry handle object, (boxWorld.registry registry).resolve handle ≠ .ok object) ∧
      Throughout Moment.IssuesInstances (Deed.traces boxDeeds (boxState 0)) ∧
      (∃ after, boxSetter.call (enterAt 1) [.pointer 1, .string "ink"] (boxState 3).2 =
          (.returned (.ok .void), after) ∧
        (boxGetter.call (enterAt 1) [.pointer 3] after).1 = .returned (.ok (.string "ink")) ∧
        Answer.ofCall (boxGetter.call (enterAt 1) [.pointer 2] after) =
          Answer.ofCall (boxGetter.call (enterAt 1) [.pointer 2] (boxState 3).2)) ∧
      ∃ object object', (boxCall (boxState 0).2).Hands 0 1 object ∧
        (boxCall (boxState 1).2).Hands 0 2 object' ∧ object.cell ≠ object'.cell := by
  have gentle : ∀ deed ∈ boxDeeds, deed.Gentle := by simp [boxDeeds, Deed.Gentle]
  have unused : ∀ registry handle object,
      (boxWorld.registry registry).resolve handle ≠ .ok object := by
    intro registry handle object found
    cases found
  obtain ⟨set, constructed, -⟩ := Session.instances_shared ScriptedCompiler.fresh boxWorld boxDeeds
    scriptedCompiler_addsGently gentle unused boxDeeds_instances _ _ (.inr ⟨rfl, rfl⟩)
  refine ⟨scriptedCompiler_addsGently, gentle, unused, boxDeeds_instances, ?_, ?_⟩
  · have clean : ¬ (Value.string "ink" : Value Key).HasNul := by
      show '\x00' ∉ "ink".toList
      decide
    obtain ⟨after, called, shares⟩ := set boxType boxText boxSet boxSetter 0 1 0 (.string "ink") 0 rfl
      boxText_lawful ⟨_, _, _, _, rfl⟩ (boxThunk_placed rfl (by decide)) rfl rfl (.string "ink") clean
      (by decide)
    obtain rfl : (boxSetter.call (enterAt 1) [.pointer 1, .string "ink"] (boxState 3).2).2 = after :=
      congrArg Prod.snd called
    have getter : boxGet.IsGetter boxText := ⟨_, _, _, _, rfl⟩
    have placed : (boxState 3).2.HasThunk boxGetter 0 boxGet := boxThunk_placed rfl (by decide)
    refine ⟨_, called, ?_, ?_⟩
    · exact shares.got boxGet 0 boxGetter 0 3 ⟨0, boxType⟩ getter placed rfl rfl (by decide +kernel)
    · exact shares.untouched boxType boxText boxGet 0 boxGetter 0 2 ⟨1, boxType⟩
        (fun state => ⟨_, .pure _⟩) getter placed rfl (by decide) (by decide +kernel)
        (by decide +kernel)
  · let one := boxCall (boxState 0).2
    let other := boxCall (boxState 1).2
    have parted : Deed.traces boxDeeds (boxState 0) =
        (.outside none one.world :: .entered one :: one.insideTrace (enterTrace 0)) ++ .left one ::
          ((.answered one :: .outside none other.world :: .entered other ::
            other.insideTrace (enterTrace 0)) ++ .left other ::
              [.answered other, .outside none (boxState 2).2, .working boxShare .bare (boxState 2).2,
                .working (.done (.ok .void)) .bare (boxState 3).2]) := by
      rw [boxDeeds_traces]
      simp [boxTrace, ClosureCall.trace, one, other, boxCall]
    obtain ⟨handle, object, handle', object', same, same', lends, lends', apart⟩ := constructed _ one
      _ other _ 0 0 boxNew boxNew _ _ parted (by decide) (by decide) (boxThunk_isThunk ..)
      boxNew_isConstructor (boxThunk_isThunk ..) boxNew_isConstructor rfl rfl
    cases same
    cases same'
    exact ⟨object, object', lends.hands, lends'.hands, apart⟩

end Workbench

end NativeBridge
