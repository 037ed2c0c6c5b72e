/-
Module: NativeBridge.Proofs.Courses
Purpose: The course of instances and handles from moment to moment of a run, and where the handles
  that are live at a moment come from.
Main exports: World.Gains, Course, Course.parts, Course.resolve_issued, enterTrace_course,
  Deed.runs_course, Genuine, Genuine.course, StandsAfter
-/
import NativeBridge.Proofs.ValueClasses

namespace NativeBridge

variable {σ κ : Type} [HostProgram κ]

/-!
From one moment of a run to the next instances stay in their cells, and a handle comes to stand for
an object only at a moment that gives it out.  A course says this of a whole trace.  So a handle that
is live at some moment stands for the object that it was given out for last.
-/

/-! ### Between moments -/

/-- A change of the process that leaves instances where they are, with their classes, and makes no
handle stand for an object but one that is given out. -/
structure World.Gains (given : Option (Nat × UInt64 × HostObject κ)) (before after : World κ) :
    Prop where
  instances : ∀ (cell : Nat) (one : Cell κ), before.heap.cells[cell]? = some one →
    ∃ other, after.heap.cells[cell]? = some other ∧ other.key = one.key
  handles : ∀ id handle object, (after.registry id).resolve handle = .ok object →
    given = some (id, handle, object) ∨
      ((before.registry id).resolve handle = .ok object ∧
        ∀ other, given ≠ some (id, handle, other))
  registries : after.registries.size = before.registries.size

namespace World.Gains

variable {given : Option (Nat × UInt64 × HostObject κ)} {before middle after : World κ}

/-- A change that leaves all registries alone. -/
theorem of_instances (registries : after.registries = before.registries)
    (instances : ∀ (cell : Nat) (one : Cell κ), before.heap.cells[cell]? = some one →
      ∃ other, after.heap.cells[cell]? = some other ∧ other.key = one.key) :
    before.Gains none after where
  instances := instances
  handles id handle object found := by
    rw [World.registry_congr registries] at found
    exact .inr ⟨found, fun _ same => by cases same⟩
  registries := congrArg Array.size registries

theorem of_balances {frame frame' : Frame} (registries : after.registries = before.registries)
    (balances : frame.Balances before.heap frame' after.heap) : before.Gains none after :=
  .of_instances registries fun cell one there =>
    let ⟨other, moved, key, _⟩ := balances cell one there
    ⟨other, moved, key⟩

theorem of_cells (registries : after.registries = before.registries)
    (cells : after.heap.cells = before.heap.cells) : before.Gains none after :=
  .of_instances registries fun _ one there => ⟨one, cells ▸ there, rfl⟩

theorem of_aside (aside : before.Aside after) : before.Gains none after :=
  .of_cells aside.registries aside.cells

theorem of_keepsInstances (keeps : before.KeepsInstances after) : before.Gains none after :=
  .of_instances keeps.registries fun cell one there => ⟨one, keeps.instances cell one there, rfl⟩

theorem refl (world : World κ) : world.Gains none world := .of_cells rfl rfl

theorem setBorrow (world : World κ) (cell : Nat) (borrow : Borrow) :
    world.Gains none { world with heap := world.heap.setBorrow cell borrow } :=
  .of_instances rfl fun _ _ there =>
    ⟨_, Heap.setBorrow_cell there cell borrow, by split <;> rfl⟩

/-- What a quiet change leaves resolves before it. -/
theorem resolve_before (gains : before.Gains none after) {id : Nat} {handle : UInt64}
    {object : HostObject κ} (found : (after.registry id).resolve handle = .ok object) :
    (before.registry id).resolve handle = .ok object := by
  obtain given | ⟨before, -⟩ := gains.handles id handle object found
  · cases given
  · exact before

theorem instances_trans {given' : Option (Nat × UInt64 × HostObject κ)}
    (one : before.Gains given middle) (two : middle.Gains given' after) (cell : Nat)
    (first : Cell κ) (there : before.heap.cells[cell]? = some first) :
    ∃ other, after.heap.cells[cell]? = some other ∧ other.key = first.key := by
  obtain ⟨second, moved, key⟩ := one.instances cell first there
  obtain ⟨third, last, key'⟩ := two.instances cell second moved
  exact ⟨third, last, key'.trans key⟩

theorem trans_none (one : before.Gains given middle) (two : middle.Gains none after) :
    before.Gains given after where
  instances := instances_trans one two
  handles id handle object found := one.handles id handle object (two.resolve_before found)
  registries := two.registries.trans one.registries

theorem trans (one : before.Gains none middle) (two : middle.Gains given after) :
    before.Gains given after where
  instances := instances_trans one two
  handles id handle object found := by
    obtain given | ⟨found, other⟩ := two.handles id handle object found
    · exact .inl given
    · exact .inr ⟨one.resolve_before found, other⟩
  registries := two.registries.trans one.registries

theorem hasRegistry (gains : before.Gains given after) {id : Nat} (has : before.HasRegistry id) :
    after.HasRegistry id := by
  rw [HasRegistry, gains.registries]
  exact has

/-- Giving out a handle. -/
theorem allocateHandle (world : World κ) (registry : Nat) (object : HostObject κ) :
    world.Gains (some (registry, (world.registry registry).next, object))
      (world.allocateHandle registry object).2 where
  instances _ one there := ⟨one, there, rfl⟩
  handles id handle found now := by
    obtain ⟨rfl, rfl, rfl⟩ | ⟨before, apart⟩ := World.resolve_allocateHandle now
    · exact .inl rfl
    · refine .inr ⟨before, ?_⟩
      rintro other ⟨⟩
      exact apart ⟨rfl, rfl⟩
  registries := by simp [World.allocateHandle, World.setRegistry]

/-- Giving a handle back. -/
theorem releaseHandle (world : World κ) (registry : Nat) (handle : UInt64) :
    world.Gains none (world.releaseHandle registry handle).2 where
  instances cell one there := by
    rw [(world.releaseHandle_aside registry handle).1]
    exact ⟨one, there, rfl⟩
  handles id asked object now :=
    .inr ⟨(World.resolve_releaseHandle now).1, fun _ same => by cases same⟩
  registries := by
    rw [World.releaseHandle]
    cases (world.registry registry).release handle with
    | error error => rfl
    | ok table => simp [World.setRegistry]

end World.Gains

/-! ### Courses -/

/-- A moment that touches no handle gives none out. -/
theorem Moment.issues_none {moment : Moment κ}
    (untouched : ∀ registry handle, ¬ moment.Touches registry handle) : moment.issues = none := by
  cases issued : moment.issues with
  | none => rfl
  | some given => exact absurd (.inr ⟨_, issued⟩) (untouched given.1 given.2.1)

/-- The course of instances and handles through a trace. -/
inductive Course : World κ → List (Moment κ) → World κ → Prop
  | ended {start last : World κ} (gains : start.Gains none last) : Course start [] last
  | next {start middle last : World κ} {moment : Moment κ} {trace : List (Moment κ)}
      (before : start.Gains none moment.world) (leads : moment.world.Gains moment.issues middle)
      (later : Course middle trace last) : Course start (moment :: trace) last

namespace Course

variable {start middle last : World κ} {trace more before after : List (Moment κ)}
  {moment : Moment κ}

theorem after_gains (gains : start.Gains none middle) (course : Course middle trace last) :
    Course start trace last := by
  cases course with
  | ended later => exact .ended (gains.trans later)
  | next before leads later => exact .next (gains.trans before) leads later

theorem append (one : Course start trace middle) (two : Course middle more last) :
    Course start (trace ++ more) last := by
  induction one with
  | ended gains => exact two.after_gains gains
  | next before leads _ ih => exact .next before leads (ih two)

/-- A course through one moment. -/
theorem single (leads : moment.world.Gains moment.issues last) : Course moment.world [moment] last :=
  .next (.refl _) leads (.ended (.refl _))

/-- A trace that begins at a moment. -/
theorem cons (leads : moment.world.Gains moment.issues middle) (later : Course middle trace last) :
    Course moment.world (moment :: trace) last :=
  .next (.refl _) leads later

/-- The course of a trace is that of its front and that of the rest. -/
theorem parts (course : Course start (trace ++ more) last) :
    ∃ middle, Course start trace middle ∧ Course middle more last := by
  induction trace generalizing start with
  | nil => exact ⟨start, .ended (.refl start), course⟩
  | cons moment trace ih =>
    cases course with
    | next before leads later =>
      obtain ⟨middle, front, rest⟩ := ih later
      exact ⟨middle, .next before leads front, rest⟩

/-- The course up to a moment, and from it on. -/
theorem at_moment (course : Course start (before ++ moment :: after) last) :
    ∃ middle, Course start before moment.world ∧ moment.world.Gains moment.issues middle ∧
      Course middle after last := by
  obtain ⟨front, one, rest⟩ := course.parts
  cases rest with
  | next gains leads later =>
    refine ⟨_, ?_, leads, later⟩
    have joined := one.append (.ended gains)
    rwa [List.append_nil] at joined

theorem hasRegistry (course : Course start trace last) {id : Nat} (has : start.HasRegistry id) :
    last.HasRegistry id := by
  induction course with
  | ended gains => exact gains.hasRegistry has
  | next before leads _ ih => exact ih (leads.hasRegistry (before.hasRegistry has))

/-- A handle that is live at the end and was not given out on the way stood for the same object at
the start. -/
theorem resolve_start (course : Course start trace last) {id : Nat} {handle : UInt64}
    {object : HostObject κ}
    (unissued : ∀ moment ∈ trace, ∀ other, moment.issues ≠ some (id, handle, other))
    (found : (last.registry id).resolve handle = .ok object) :
    (start.registry id).resolve handle = .ok object := by
  induction course with
  | ended gains => exact gains.resolve_before found
  | next before leads _ ih =>
    obtain ⟨first, rest⟩ := List.forall_mem_cons.mp unissued
    obtain given | ⟨earlier, -⟩ := leads.handles _ _ _ (ih rest found)
    · exact absurd given (first object)
    · exact before.resolve_before earlier

/-- A handle stands for the object that it was given out for last. -/
theorem resolve_issued (course : Course start (before ++ moment :: after) last) {id : Nat}
    {handle : UInt64} {object found : HostObject κ}
    (issued : moment.issues = some (id, handle, object))
    (unissued : ∀ later ∈ after, ∀ other, later.issues ≠ some (id, handle, other))
    (now : (last.registry id).resolve handle = .ok found) : found = object := by
  obtain ⟨middle, -, leads, later⟩ := course.at_moment
  obtain given | ⟨-, other⟩ := leads.handles _ _ _ (later.resolve_start unissued now)
  · rw [issued] at given
    cases given
    rfl
  · exact absurd issued (other object)

end Course

/-! ### Courses of runs -/

/-- A way of calling native addresses with a course from each call to its end. -/
def Entry.Courses (enter : Entry κ) (inner : EntryTrace κ) : Prop :=
  ∀ address result raws world,
    Course world (inner address raws world) (enter address result raws world).2

section

variable {enter : Entry κ} {inner : EntryTrace κ}

theorem ForeignFunction.rawTrace_course (entry : enter.Courses inner)
    (function : ForeignFunction κ) (args : List RawValue) (world : World κ) :
    Course world (function.rawTrace inner args world) (function.callRaw enter args world).2 := by
  simp only [rawTrace, callRaw]
  by_cases arity : args.length = function.type.signature.parameters.length
  · cases fault : rawFault function.type.signature.parameters args with
    | some error =>
      simp only [arity]
      exact .ended (.refl world)
    | none =>
      simp only [arity, and_self, if_true]
      exact entry _ _ args world
  · simp only [arity, false_and, if_false]
    exact .ended (.refl world)

theorem ForeignFunction.trace_course (entry : enter.Courses inner) (function : ForeignFunction κ)
    (args : List (Value κ)) (world : World κ) :
    Course world (function.trace inner args world) (function.call enter args world).2 := by
  rw [call_eq_encoded, trace]
  cases encoded : function.encoded args world with
  | panicked message => exact .ended (.refl world)
  | returned encodes =>
    cases encodes with
    | error error => exact .ended (.refl world)
    | ok parts =>
      rcases parts with ⟨raws, lent, memory⟩
      have started : world.Gains none (nativeStart world memory) := .of_cells rfl rfl
      have native := function.rawTrace_course entry raws (nativeStart world memory)
      have aside := function.callEncoded_aside enter raws lent { world with memory := memory }
      have ended := (native.after_gains started).append (.ended (.of_aside aside))
      rwa [List.append_nil] at ended

variable {code rest : Code κ} {frame frame' : Frame} {world world' : World κ}

/-- The course of one request, with what happens within it. -/
theorem Code.step_course (entry : enter.Courses inner) (balanced : enter.Balanced)
    (stepped : code.step enter frame world = .rest rest frame' world') :
    Course world (.working code frame world :: code.nested inner world) world' := by
  let moment := Moment.working code frame world
  have effect := Code.step_effect stepped
  have balances := effect.balances balanced
  by_cases plain : code.isPlain = true
  · obtain ⟨-, untouched, silent⟩ := Code.untouched_of_plain plain frame world
    have unissued : moment.issues = none := Moment.issues_none untouched
    have registries : world'.registries = world.registries := by
      cases effect with
      | aside _ aside => exact aside.registries
      | borrows | returns | writes | edits => rfl
      | makes | carries | calls | callsRaw | issues | releases => cases plain
    have gains : moment.world.Gains moment.issues world' := by
      rw [unissued]
      exact .of_balances registries balances
    rw [silent]
    exact .single gains
  · cases effect with
    | aside simple => exact absurd simple plain
    | borrows | returns | writes | edits => exact absurd rfl plain
    | makes type state next =>
      have gains : moment.world.Gains moment.issues
          { world with heap := (world.heap.newObject type state).2 } := .of_balances rfl balances
      exact .single gains
    | carries key state next =>
      have gains : moment.world.Gains moment.issues
          { world with heap := (world.heap.newObject ⟨key, .value⟩ state).2 } :=
        .of_balances rfl balances
      exact .single gains
    | @calls function args result _ next called =>
      have native := function.trace_course entry args world
      rw [called] at native
      have gains : moment.world.Gains moment.issues world := .refl world
      exact .cons gains native
    | callsRaw function args next =>
      have gains : moment.world.Gains moment.issues world := .refl world
      exact .cons gains (function.rawTrace_course entry args world)
    | issues registry object next =>
      have gains : moment.world.Gains moment.issues _ := .allocateHandle world registry object
      exact .single gains
    | releases registry handle next =>
      have gains : moment.world.Gains moment.issues _ := .releaseHandle world registry handle
      exact .single gains

/-- The course of a run of host code. -/
theorem Code.trace_course (entry : enter.Courses inner) (balanced : enter.Balanced) (code : Code κ)
    (frame : Frame) (world : World κ) :
    Course world (code.trace enter inner frame world) (code.run enter frame world).2 := by
  induction code using Code.follows_wellFounded.induction generalizing frame world with
  | _ code ih =>
    rw [Code.run_eq_step]
    cases stepped : code.step enter frame world with
    | ended outcome left =>
      obtain ⟨silent, -, untouched⟩ := Code.ended_alone inner stepped
      have unissued : (Moment.working code frame world).issues = none :=
        Moment.issues_none untouched
      have dropped : world.Gains none left := by
        rw [Code.step_ended stepped]
        exact .of_instances rfl fun cell one there => ⟨_, frame.dropGuards_cell there, rfl⟩
      rw [Code.trace_ended stepped, silent]
      rw [← unissued] at dropped
      exact .single dropped
    | rest rest frame' last =>
      rw [Code.trace_rest stepped, ← List.cons_append]
      exact (Code.step_course entry balanced stepped).append
        (ih rest ⟨_, _, _, _, _, stepped⟩ frame' last)

/-- The course of a run of the host code behind a closure. -/
theorem Handler.trace_course (entry : enter.Courses inner) (balanced : enter.Balanced)
    (handler : Handler κ) (args : List (Value κ)) (world : World κ) :
    Course world (handler.trace enter inner args world) (handler.run enter args world).2 := by
  have silent : Course world [] world := .ended (.refl world)
  cases handler with
  | function body => exact Code.trace_course entry balanced _ _ world
  | member dispatch target =>
    cases dispatch with
    | static => exact Code.trace_course entry balanced _ _ world
    | virtual =>
      cases args with
      | nil => exact silent
      | cons first rest =>
        cases first with
        | object object =>
          simp only [Handler.trace, Handler.start, Handler.run, runOnReceiver, runVirtual]
          cases granted : world.heap.borrowExclusive? object.cell with
          | none => exact silent
          | some heap =>
            obtain ⟨-, -, -, rfl⟩ := Heap.borrowExclusive?_cell granted
            have claimed : world.Gains none
                { world with heap := world.heap.setBorrow object.cell .exclusive } :=
              .setBorrow world object.cell .exclusive
            have ran := Code.trace_course entry balanced (target.body rest)
              (.onReceiver object.cell)
              { world with heap := world.heap.setBorrow object.cell .exclusive }
            have given := (ran.after_gains claimed).append
              (.ended (.setBorrow _ object.cell .free))
            rwa [List.append_nil] at given
        | _ => exact silent
    | copied =>
      cases args with
      | nil => exact silent
      | cons first rest =>
        cases first with
        | object object =>
          simp only [Handler.trace, Handler.start, Handler.run, runOnReceiver, runCopied]
          cases copied : world.heap.copyOut object with
          | error error => exact silent
          | ok copy =>
            rcases copy with ⟨cell, heap⟩
            obtain ⟨-, -, state, -, -, -, -, rfl⟩ := Heap.copyOut_ok copied
            have begun : world.Gains none
                { world with heap := (world.heap.allocate object.type.key state).2 } :=
              .of_instances rfl fun _ one there => ⟨one, Heap.allocate_cell there _ state, rfl⟩
            exact (Code.trace_course entry balanced _ _ _).after_gains begun
        | _ => exact silent

end

namespace ClosureCall

variable {inner : EntryTrace κ}

theorem insideTrace_course (call : ClosureCall κ) (entry : (enterAt call.depth).Courses inner) :
    Course call.world (call.insideTrace inner) call.left := by
  rw [insideTrace, left, inside]
  cases accepted : call.accepted with
  | error error => exact .ended (.refl _)
  | ok decoded =>
    rcases decoded with ⟨values, writeBacks, heap⟩
    have begun : call.world.Gains none { call.world with heap := heap } :=
      .of_aside (accepted_aside accepted)
    exact (call.closure.handler.trace_course entry (enterAt_balanced call.depth) values
      { call.world with heap := heap }).after_gains begun

/-- After the host code of a call nothing happens but that its result may get a handle. -/
theorem left_gains (call : ClosureCall κ) : call.left.Gains call.handle? call.after := by
  have registries := call.after_registries
  have cells : call.after.heap.cells = call.left.heap.cells := congrArg Heap.cells call.after_heap
  cases handed : call.handle? with
  | none =>
    rw [handed] at registries
    exact .of_cells registries cells
  | some given =>
    rcases given with ⟨id, handle, object⟩
    rw [handed] at registries
    obtain rfl := handle?_next handed
    have issued := World.Gains.allocateHandle call.left id object
    exact issued.trans_none (.of_cells registries cells)

/-- The course of a call of a closure. -/
theorem trace_course (call : ClosureCall κ) (entry : (enterAt call.depth).Courses inner) :
    Course call.world (call.trace inner) call.after := by
  have entered : (Moment.entered call).world.Gains (Moment.entered call).issues call.world :=
    .refl _
  have left : (Moment.left call).world.Gains (Moment.left call).issues call.after :=
    call.left_gains
  have answered : (Moment.answered call).world.Gains (Moment.answered call).issues call.after :=
    .refl _
  exact .cons entered ((call.insideTrace_course entry).append (.cons left (.single answered)))

end ClosureCall

/-- Native code has a course, whatever host code it enters. -/
theorem enterTrace_course (depth : Nat) : (enterAt (κ := κ) depth).Courses (enterTrace depth) := by
  -- A closure entered at one depth enters others at the depth below only.
  induction depth with
  | zero =>
    intro address result raws world
    exact .ended (.of_cells rfl rfl)
  | succ depth ih =>
    intro address result raws world
    simp only [enterAt]
    cases found : world.codeAt? address with
    | none =>
      simp only [enterTrace, found]
      exact .ended (.refl world)
    | some code =>
      cases code with
      | foreign parameters run =>
        simp only [enterTrace, found]
        exact .ended (.of_cells rfl rfl)
      | closure closure =>
        rw [enterTrace_closure found]
        let call : ClosureCall κ := ⟨depth, address, closure, raws, world⟩
        have called := call.trace_course ih
        rwa [← JournalLaw.enter_after] at called

namespace Deed

variable [CompilationService σ κ]

/-- The course of a deed. -/
theorem run_course (gently : Session.AddsGently (κ := κ) σ) (deed : Deed κ) (gentle : deed.Gentle)
    (state : Session σ × World κ) : Course state.2 (deed.trace state) (deed.run state).2 := by
  rcases state with ⟨session, world⟩
  let moment : Moment κ := .outside (deed.given session) world
  have quiet : moment.world.Gains moment.issues world := .refl world
  cases deed with
  | bind description rules =>
    have bound := Session.bind_keepsInstances gently description rules session world
    exact .cons quiet (.ended (.of_keepsInstances bound))
  | release handle =>
    have released : moment.world.Gains moment.issues
        (world.releaseHandle session.registry handle).2 := .releaseHandle world _ handle
    simpa only [trace, inside, run, Session.releaseHandle_apply] using .single released
  | host depth code =>
    exact .cons quiet
      (Code.trace_course (enterTrace_course depth) (enterAt_balanced depth) code .bare world)
  | native depth address result args =>
    exact .cons quiet (enterTrace_course depth address result args world)
  | elsewhere change still =>
    exact .cons quiet (.ended (.of_keepsInstances (gentle world)))

/-- The course of some deeds. -/
theorem runs_course (gently : Session.AddsGently (κ := κ) σ) (deeds : List (Deed κ))
    (gentle : ∀ deed ∈ deeds, deed.Gentle) (state : Session σ × World κ) :
    Course state.2 (traces deeds state) (runs deeds state).2 := by
  induction deeds generalizing state with
  | nil => exact .ended (.refl state.2)
  | cons deed rest ih =>
    obtain ⟨first, others⟩ := List.forall_mem_cons.mp gentle
    exact (deed.run_course gently first state).append (ih others (deed.run state))

end Deed

/-! ### Where live handles come from -/

/-- The objects that got handles in a trace. -/
def handed (trace : List (Moment κ)) : List (HostObject κ) :=
  trace.filterMap fun moment => moment.issues.map fun given => given.2.2

theorem mem_handed {trace : List (Moment κ)} {object : HostObject κ} :
    object ∈ handed trace ↔ ∃ moment ∈ trace, ∃ registry handle,
      moment.issues = some (registry, handle, object) := by
  simp [handed]

theorem handed_append (trace more : List (Moment κ)) :
    handed (trace ++ more) = handed trace ++ handed more :=
  List.filterMap_append

/-- What gets a handle is an instance of its class, and no instance is used as two types. -/
def Moment.IssuesInstances (past : List (Moment κ)) (moment : Moment κ) : Prop :=
  ∀ registry handle object, moment.issues = some (registry, handle, object) →
    (∃ one, moment.world.heap.cells[object.cell]? = some one ∧ one.key = object.type.key) ∧
      ∀ earlier ∈ handed past, earlier.cell = object.cell → earlier.type = object.type

/-- All objects that got handles are instances of their classes, one to an instance, and every live
handle stands for one of them. -/
structure Genuine (past : List (Moment κ)) (world : World κ) : Prop where
  placed : ∀ object ∈ handed past, ∃ one, world.heap.cells[object.cell]? = some one ∧
    one.key = object.type.key
  apart : ∀ one ∈ handed past, ∀ other ∈ handed past, one.cell = other.cell → one = other
  stored : ∀ id handle object, (world.registry id).resolve handle = .ok object →
    object ∈ handed past

namespace Genuine

variable {past trace : List (Moment κ)} {world start last after : World κ} {moment : Moment κ}

/-- A process in which no handle was given out is a start. -/
theorem nil (unused : ∀ id handle object, (world.registry id).resolve handle ≠ .ok object) :
    Genuine [] world where
  placed := List.forall_mem_nil _
  apart := List.forall_mem_nil _
  stored id handle object found := absurd found (unused id handle object)

theorem gains (genuine : Genuine past world) (gains : world.Gains none after) :
    Genuine past after where
  placed object among := by
    obtain ⟨one, there, key⟩ := genuine.placed object among
    obtain ⟨other, moved, key'⟩ := gains.instances _ one there
    exact ⟨other, moved, key'.trans key⟩
  apart := genuine.apart
  stored id handle object found := genuine.stored id handle object (gains.resolve_before found)

/-- Every object that got a handle is in a cell that is taken. -/
theorem cell_lt (genuine : Genuine past world) {object : HostObject κ}
    (among : object ∈ handed past) : object.cell < world.heap.cells.size := by
  obtain ⟨one, there, -⟩ := genuine.placed object among
  exact (Array.getElem?_eq_some_iff.mp there).1

theorem step (genuine : Genuine past moment.world) (issues : moment.IssuesInstances past)
    (gains : moment.world.Gains moment.issues after) : Genuine (past ++ [moment]) after := by
  have new (object : HostObject κ) (among : object ∈ handed [moment]) :
      ∃ registry handle, moment.issues = some (registry, handle, object) := by
    obtain ⟨_, here, given⟩ := mem_handed.mp among
    rwa [List.mem_singleton.mp here] at given
  have same (one other : HostObject κ) (cell : one.cell = other.cell) (type : one.type = other.type) :
      one = other := by
    rcases one with ⟨cell', type'⟩
    subst cell type
    rfl
  refine ⟨?_, ?_, ?_⟩
  · intro object among
    have before : ∃ one, moment.world.heap.cells[object.cell]? = some one ∧
        one.key = object.type.key := by
      rcases List.mem_append.mp (handed_append past [moment] ▸ among) with among | among
      · exact genuine.placed object among
      · obtain ⟨registry, handle, given⟩ := new object among
        exact (issues registry handle object given).1
    obtain ⟨one, there, key⟩ := before
    obtain ⟨other, moved, key'⟩ := gains.instances _ one there
    exact ⟨other, moved, key'.trans key⟩
  · intro one among other amongToo cell
    rcases List.mem_append.mp (handed_append past [moment] ▸ among) with among | among <;>
      rcases List.mem_append.mp (handed_append past [moment] ▸ amongToo) with amongToo | amongToo
    · exact genuine.apart one among other amongToo cell
    · obtain ⟨registry, handle, given⟩ := new other amongToo
      exact same one other cell ((issues registry handle other given).2 one among cell)
    · obtain ⟨registry, handle, given⟩ := new one among
      have type := (issues registry handle one given).2 other amongToo cell.symm
      exact same one other cell type.symm
    · obtain ⟨registry, handle, given⟩ := new one among
      obtain ⟨registry', handle', given'⟩ := new other amongToo
      rw [given] at given'
      cases given'
      rfl
  · intro id handle object found
    obtain given | ⟨before, -⟩ := gains.handles id handle object found
    · exact mem_handed.mpr ⟨moment, by simp, id, handle, given⟩
    · rw [handed_append]
      exact List.mem_append_left _ (genuine.stored id handle object before)

/-- In every run handles stand for instances of their classes, if only such get handles. -/
theorem course (genuine : Genuine past start) (course : Course start trace last)
    (issues : Throughout Moment.IssuesInstances (past ++ trace)) : Genuine (past ++ trace) last := by
  induction course generalizing past with
  | ended gains => simpa using genuine.gains gains
  | @next _ _ _ moment trace before leads _ ih =>
    have regrouped : past ++ moment :: trace = (past ++ [moment]) ++ trace := by simp
    rw [regrouped] at issues ⊢
    exact ih ((genuine.gains before).step issues.front.here leads) issues

end Genuine

/-- Where all handles are for instances of one class, used as one type, no more has to be known. -/
theorem Moment.issuesInstances_of_one {trace : List (Moment κ)} (type : ObjectType κ)
    (each : ∀ moment ∈ trace, ∀ registry handle object,
      moment.issues = some (registry, handle, object) → object.type = type ∧
        ∃ one, moment.world.heap.cells[object.cell]? = some one ∧ one.key = type.key) :
    Throughout Moment.IssuesInstances trace := by
  rintro before moment after rfl registry handle object issued
  obtain ⟨rfl, placed⟩ := each moment (by simp) registry handle object issued
  refine ⟨placed, ?_⟩
  intro earlier among _
  obtain ⟨first, there, registry', handle', given⟩ := mem_handed.mp among
  exact (each first (by simp [there]) registry' handle' earlier given).1

/-- A process stands after a part of a trace: at the moment that comes next, or at the end. -/
def StandsAfter (trace : List (Moment κ)) (last : World κ) (past : List (Moment κ))
    (now : World κ) : Prop :=
  (∃ moment after, trace = past ++ moment :: after ∧ now = moment.world) ∨
    (trace = past ∧ now = last)

namespace StandsAfter

variable {trace past : List (Moment κ)} {start last now : World κ}

theorem course (stands : StandsAfter trace last past now) (course : Course start trace last) :
    Course start past now := by
  obtain ⟨moment, after, rfl, rfl⟩ | ⟨rfl, rfl⟩ := stands
  · obtain ⟨-, front, -, -⟩ := course.at_moment
    exact front
  · exact course

theorem throughout (stands : StandsAfter trace last past now)
    {holds : List (Moment κ) → Moment κ → Prop} (all : Throughout holds trace) :
    Throughout holds past := by
  obtain ⟨moment, after, rfl, -⟩ | ⟨rfl, -⟩ := stands
  · exact all.front
  · exact all

end StandsAfter

end NativeBridge
