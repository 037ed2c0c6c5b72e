/-
Module: NativeBridge.Proofs.ValueClasses
Purpose: Over every run of a session no call changes a stored value, and members of value classes run
  on copies.
Main exports: World.KeepsInstances, Deed.trace, Deed.runs_sound, Code.Modest, Session.values_kept
-/
import NativeBridge.Proofs.CopiedReceivers
import NativeBridge.Proofs.HandleRuns

namespace NativeBridge

variable {σ κ : Type} [HostProgram κ]

/-!
A session binds value classes and others, host code and native code call each other to any depth,
and handles are given back, in any order.  The invariant of stored values holds at every moment of
such a run.  So the copy that a member of a value class gets is always one of the state that was
noted when the handle was given out.
-/

/-! ### Around host code -/

/-- A change of the process that leaves handles and all instances alone; it may bring new ones. -/
structure World.KeepsInstances (before after : World κ) : Prop where
  registries : after.registries = before.registries
  thunks : before.OnlyThunks → after.OnlyThunks
  instances : ∀ (cell : Nat) (one : Cell κ), before.heap.cells[cell]? = some one →
    after.heap.cells[cell]? = some one

namespace World.KeepsInstances

theorem of_aside {before after : World κ} (aside : before.Aside after) :
    before.KeepsInstances after :=
  ⟨aside.registries, aside.thunks, fun _ _ there => aside.cells ▸ there⟩

theorem trans {first middle last : World κ} (one : first.KeepsInstances middle)
    (two : middle.KeepsInstances last) : first.KeepsInstances last :=
  ⟨two.registries.trans one.registries, fun thunks => two.thunks (one.thunks thunks),
    fun cell held there => two.instances cell held (one.instances cell held there)⟩

theorem spares {before after : World κ} (keeps : before.KeepsInstances after) :
    before.Spares after where
  registries := keeps.registries
  thunks := keeps.thunks
  keys cell one there := ⟨one, keeps.instances cell one there, rfl⟩
  values _ _ object _ _ _ := .of_same (keeps.instances object.cell)

end World.KeepsInstances

namespace Session

variable [CompilationService σ κ]

/-- A compilation service that leaves instances alone when it is given a symbol. -/
def AddsGently (σ : Type) [CompilationService σ κ] : Prop :=
  ∀ (name : String) (address : UInt64) (service : σ) (world : World κ),
    world.KeepsInstances (CompilationService.perform (.addSymbol name address) service world).2.2

theorem AddsGently.registrable (gently : AddsGently (κ := κ) σ) :
    Registrable σ (World.KeepsInstances : World κ → World κ → Prop) where
  refl world := .of_aside (.refl world)
  trans := .trans
  typed _ _ := .of_aside (.of_same rfl rfl rfl)
  placed _ _ proper := .of_aside ⟨rfl, rfl, fun thunks => thunks.push proper⟩
  added := gently

/-- Binding a type leaves instances alone. -/
theorem bind_keepsInstances (gently : AddsGently (κ := κ) σ) (description : TypeDescription κ)
    (rules : Naming.NamingRules) (session : Session σ) (world : World κ) :
    world.KeepsInstances
      ((bind description rules : SessionM σ κ (List String)) (session, world)).2.2 := by
  rw [bind_state]
  exact gently.registrable.perform rfl session world

end Session

/-! ### Runs -/

namespace Deed

/-- What happens elsewhere leaves instances alone. -/
def Gentle : Deed κ → Prop
  | elsewhere change _ => ∀ world : World κ, world.KeepsInstances (change world)
  | bind _ _ | release _ | host _ _ | native _ _ _ _ => True

/-- The handle of a session that a deed gives back. -/
def given (session : Session σ) : Deed κ → Option (Nat × UInt64)
  | release handle => some (session.registry, handle)
  | bind _ _ | host _ _ | native _ _ _ _ | elsewhere _ _ => none

/-- The moments at which host code is run in a deed. -/
def inside (world : World κ) : Deed κ → List (Moment κ)
  | host depth code => code.trace (enterAt depth) (enterTrace depth) .bare world
  | native depth address _ args => enterTrace depth address args world
  | bind _ _ | release _ | elsewhere _ _ => []

/-- The trace of a deed. -/
def trace (deed : Deed κ) (state : Session σ × World κ) : List (Moment κ) :=
  .outside (deed.given state.1) state.2 :: deed.inside state.2

variable [CompilationService σ κ]

/-- The trace of some deeds. -/
def traces : List (Deed κ) → Session σ × World κ → List (Moment κ)
  | [], _ => []
  | deed :: rest, state => deed.trace state ++ traces rest (deed.run state)

variable {past : List (Moment κ)} {state : Session σ × World κ}

/-- A deed keeps stored values. -/
theorem run_sound (gently : Session.AddsGently (κ := κ) σ) (deed : Deed κ) (gentle : deed.Gentle)
    (sound : Sound past state.2)
    (respects : Throughout Moment.Respects (past ++ deed.trace state)) :
    Sound (past ++ deed.trace state) (deed.run state).2 := by
  rcases state with ⟨session, world⟩
  have noted : Sound (past ++ [.outside none world]) (Moment.outside none world).world :=
    sound.note rfl (Moment.untouched rfl rfl)
  have parted : past ++ deed.trace (session, world) =
      (past ++ [.outside (deed.given session) world]) ++ deed.inside world := by
    rw [trace, List.append_assoc, List.singleton_append]
  rw [parted] at respects ⊢
  cases deed with
  | bind description rules =>
    have bound := Session.bind_keepsInstances gently description rules session world
    simpa [inside, given, run] using noted.spared bound.spares
  | release handle =>
    have begun : Sound past (Moment.outside (some (session.registry, handle)) world).world := sound
    have released : Sound _ (world.releaseHandle session.registry handle).2 :=
      begun.release rfl rfl rfl
    simpa [inside, given, run, Session.releaseHandle_apply] using released
  | host depth code =>
    exact (Code.trace_sound (enterTrace_sound depth) (enterAt_balanced depth) noted .bare
      respects).1
  | native depth address result args =>
    exact (enterTrace_sound depth _ address result args world noted respects).1
  | elsewhere change quiet =>
    simpa [inside, given, run] using noted.spared (gentle world).spares

theorem runs_sound (gently : Session.AddsGently (κ := κ) σ) (deeds : List (Deed κ))
    (gentle : ∀ deed ∈ deeds, deed.Gentle) (sound : Sound past state.2)
    (respects : Throughout Moment.Respects (past ++ traces deeds state)) :
    Sound (past ++ traces deeds state) (runs deeds state).2 := by
  induction deeds generalizing past state with
  | nil => simpa [traces, runs] using sound
  | cons deed rest ih =>
    rw [traces, ← List.append_assoc] at respects ⊢
    have done := deed.run_sound gently (gentle deed List.mem_cons_self) sound respects.front
    exact ih (fun later among => gentle later (List.mem_cons_of_mem _ among)) done respects

end Deed

/-- Making a session leaves all handles what they are. -/
theorem Session.create_handles (service : σ) (world : World κ) (registry : Nat) :
    (create service world).2.registry registry = world.registry registry := by
  simp only [create, World.addRegistry, World.registry, Array.getD_eq_getD_getElem?,
    Array.getElem?_push]
  split
  · next last =>
    subst last
    simp
  · rfl

/-- The registry of a new session has given out nothing. -/
theorem Session.create_unused (service : σ) {world : World κ}
    (unused : ∀ registry handle object, (world.registry registry).resolve handle ≠ .ok object)
    (registry : Nat) (handle : UInt64) (object : HostObject κ) :
    ((create service world).2.registry registry).resolve handle ≠ .ok object := by
  rw [create_handles]
  exact unused registry handle object

/-- A process in which no handle was given out is a start. -/
theorem Sound.start {world : World κ} (thunks : world.OnlyThunks)
    (unused : ∀ registry handle object, (world.registry registry).resolve handle ≠ .ok object) :
    Sound [] world where
  thunks := thunks
  placed := List.forall_mem_nil _
  apart := List.forall_mem_nil _
  stored registry handle object found := absurd found (unused registry handle object)
  kept registry handle object found := absurd found (unused registry handle object)
  always := .nil

/-! ### Modest host code -/

/-- Host code that in no run gives out a handle or borrows for writing. -/
def Code.Modest (code : Code κ) : Prop :=
  ∀ enter inner frame world, ∀ moment ∈ code.trace enter inner frame world,
    moment.issues = none ∧ moment.seizes = none

namespace Code.Modest

/-- Code is modest if its first request is, and what may follow. -/
theorem of_request {code : Code κ} (issues : ∀ world, code.issues world = none)
    (seizes : ∀ world, code.seizes world = none) (alone : ∀ inner world, code.nested inner world = [])
    (later : ∀ enter frame world rest frame' world',
      code.step enter frame world = .rest rest frame' world' → rest.Modest) : code.Modest := by
  intro enter inner frame world
  have first : (Moment.working code frame world).issues = none ∧
    (Moment.working code frame world).seizes = none := ⟨issues world, seizes world⟩
  cases stepped : code.step enter frame world with
  | ended outcome left =>
    rw [Code.trace_ended stepped, alone]
    exact List.forall_mem_singleton.mpr first
  | rest rest frame' left =>
    rw [Code.trace_rest stepped, alone, List.nil_append]
    exact List.forall_mem_cons.mpr
      ⟨first, later enter frame world rest frame' left stepped enter inner frame' left⟩

theorem done (result : Except Error (Value κ)) : (Code.done result).Modest :=
  .of_request (fun _ => rfl) (fun _ => rfl) (fun _ _ => rfl)
    fun _ _ _ _ _ _ stepped => by cases stepped

theorem readReceiver {key : κ} {next : Option (HostProgram.State key) → Code κ}
    (later : ∀ state, (next state).Modest) : (Code.readReceiver key next).Modest :=
  .of_request (fun _ => rfl) (fun _ => rfl) (fun _ _ => rfl)
    fun _ _ _ _ _ _ stepped => by cases stepped; exact later _

theorem writeReceiver {key : κ} {state : HostProgram.State key} {next : Code κ}
    (later : next.Modest) : (Code.writeReceiver key state next).Modest := by
  refine .of_request (fun _ => rfl) (fun _ => rfl) (fun _ _ => rfl) ?_
  intro enter frame world rest frame' left stepped
  simp only [Code.step] at stepped
  split at stepped <;> (cases stepped; exact later)

theorem unmarshal {types : List (MarshalType κ)} {args : List (Value κ)}
    {next : Except MarshalError (Tuple types) → Code κ} (later : ∀ read, (next read).Modest) :
    (Code.unmarshal types args next).Modest :=
  .of_request (fun _ => rfl) (fun _ => rfl) (fun _ _ => rfl)
    fun _ _ _ _ _ _ stepped => by cases stepped; exact later _

theorem marshal {type : MarshalType κ} {carried : Carrier type} {next : Value κ → Code κ}
    (later : ∀ value, (next value).Modest) : (Code.marshal type carried next).Modest :=
  .of_request (fun _ => rfl) (fun _ => rfl) (fun _ _ => rfl)
    fun _ _ _ _ _ _ stepped => by cases stepped; exact later _

end Code.Modest

/-- A call of a modest member that declares no object gives out no handle and borrows nothing for
writing. -/
theorem ClosureCall.trace_idle {call : ClosureCall κ} {registry : Nat} {member : Member κ}
    (thunk : call.closure.IsThunk registry member) (modest : ∀ args, (member.body args).Modest)
    (noObject : ∀ type, member.result ≠ .object type) (inner : EntryTrace κ) :
    ∀ moment ∈ call.trace inner, moment.issues = none ∧ moment.seizes = none := by
  have unissued : call.handle? = none := by
    cases handed : call.handle? with
    | none => rfl
    | some given =>
      obtain ⟨type, declared⟩ := declared_of_handle thunk handed
      exact absurd declared (noObject type)
  have inside : ∀ moment ∈ call.insideTrace inner, moment.issues = none ∧ moment.seizes = none := by
    rw [insideTrace]
    split
    · rw [Handler.trace, thunk.handler]
      split
      · next code frame begun started =>
        obtain ⟨args, rfl⟩ := Handler.start_member started
        exact modest args _ _ _ _
      · exact List.forall_mem_nil _
    · exact List.forall_mem_nil _
  refine List.forall_mem_cons.mpr ⟨⟨rfl, rfl⟩, ?_⟩
  intro moment among
  rcases List.mem_append.mp among with among | among
  · exact inside moment among
  · have ends : ∀ moment ∈ [Moment.left call, .answered call],
        moment.issues = none ∧ moment.seizes = none :=
      List.forall_mem_cons.mpr ⟨⟨unissued, rfl⟩, List.forall_mem_singleton.mpr ⟨rfl, rfl⟩⟩
    exact ends moment among

/-! ### Sessions -/

namespace Session

variable [CompilationService σ κ]

/-- Over every run of bindings, calls in any nesting and releases in which host code respects stored
values, the state behind every live handle of a value class is at all times the one it had when the
handle was given out, and every copy is a copy of it.  A member of a value class runs on such a copy
of its own, so that no call through a handle of the class fails because another one is going on; and
what a member that only computes comes to is a function of this state and its arguments. -/
theorem values_kept (service : σ) (world : World κ) (deeds : List (Deed κ))
    (gently : AddsGently (κ := κ) σ) (gentle : ∀ deed ∈ deeds, deed.Gentle)
    (thunks : world.OnlyThunks)
    (unused : ∀ registry handle object, (world.registry registry).resolve handle ≠ .ok object)
    (respects : Throughout Moment.Respects (Deed.traces deeds (create service world))) :
    let trace := Deed.traces deeds (create service world)
    let last := (Deed.runs deeds (create service world)).2
    (∀ registry handle object, (last.registry registry).resolve handle = .ok object →
      object.type.semantics = .value →
      ∃ state, Noted trace registry handle object state ∧ last.Stores object state) ∧
    (∀ before moment after, trace = before ++ moment :: after →
      ∀ registry handle object, (moment.world.registry registry).resolve handle = .ok object →
        object.type.semantics = .value →
        ∃ state, Noted before registry handle object state ∧ moment.world.Stores object state) ∧
    (∀ before call after registry member, trace = before ++ .entered call :: after →
      call.closure.IsThunk registry member → member.isStatic = false →
      member.owner.semantics = .value →
      (∀ name, call.accepted ≠ .error (.handle (.receiverBusy name))) ∧
      ∀ values writeBacks heap, call.accepted = .ok (values, writeBacks, heap) →
        ∃ handle cell args state, call.args.head? = some (.pointer handle) ∧
          (call.world.registry registry).resolve handle = .ok ⟨cell, member.owner⟩ ∧
          values = .object ⟨cell, member.owner⟩ :: args ∧
          Noted before registry handle ⟨cell, member.owner⟩ state ∧
          call.RunsOnCopy member state args heap) := by
  intro trace last
  obtain ⟨onlyThunks, noHandles⟩ : (create service world).2.OnlyThunks ∧
      ∀ registry handle object,
        ((create service world).2.registry registry).resolve handle ≠ .ok object :=
    ⟨thunks, create_unused service unused⟩
  have sound : Sound trace last :=
    Deed.runs_sound gently deeds gentle (.start onlyThunks noHandles) respects
  refine ⟨?_, ?_, ?_⟩
  · intro registry handle object found value
    exact sound.kept.stores found value
  · intro before moment after parted registry handle object found value
    exact (sound.always before moment after parted).stores found value
  · intro before call after registry member parted thunk called value
    have keeps : KeepsStates before call.world := sound.always before _ after parted
    refine ⟨call.accepted_neverBusy, ?_⟩
    intro values writeBacks heap accepted
    exact ClosureCall.runs_copied keeps thunk called value accepted

end Session

namespace Workbench

theorem scriptedCompiler_addsGently : Session.AddsGently (κ := Key) ScriptedCompiler := by
  intro name address service world
  exact .of_aside (.of_same rfl rfl rfl)

/-- A class of values that are counted up. -/
def gaugeType : ObjectType Key := ⟨.widget .testClass, .value⟩

/-- A method that counts its receiver up and tells what it came to. -/
def gaugeRaise : Member Key :=
  TypeBuilder.withSymbol "raise"
    (.ofMethod gaugeType "raise" [] (.integer .i32) fun state _ => do
      @Host.updateReceiver Key _ (.widget .testClass) { state with number := state.number + 1 }
      return state.number + 1)

/-- Host code that makes a gauge and gets a handle for it. -/
def gaugeMake : Code Key :=
  .newObject gaugeType Widget.default fun object =>
    .allocateHandle 0 object fun _ => .done (.ok .void)

/-- The method is bound, host code makes a gauge, and native code raises it twice. -/
def gaugeDeeds : List (Deed Key) :=
  [.bind ⟨gaugeType, [gaugeRaise]⟩ .builtin, .host 0 gaugeMake,
    .native 1 (World.codeAddress 0) (.integer .i32) [.pointer 1],
    .native 1 (World.codeAddress 0) (.integer .i32) [.pointer 1]]

/-- The process before any of these deeds. -/
def gaugeWorld : World Key := World.initial Globals.initial

/-- The session and the process after some of these deeds. -/
def gaugeState (number : Nat) : Session ScriptedCompiler × World Key :=
  Deed.runs (gaugeDeeds.take number) (Session.create ScriptedCompiler.fresh gaugeWorld)

/-- The thunk of the method, its handles in the first registry. -/
def gaugeThunk : Closure Key :=
  ⟨⟨1, thunkSignature gaugeRaise⟩, "raise", thunkPlan gaugeRaise, some 0,
    .member (Dispatch.ofMember gaugeRaise) gaugeRaise, []⟩

/-- The gauge is raised. -/
def gaugeCall (world : World Key) : ClosureCall Key :=
  ⟨0, World.codeAddress 0, gaugeThunk, [.pointer 1], world⟩

theorem gaugeRaise_computes :
    gaugeRaise.Computes [] (.integer .i32) fun state _ => state.number + 1 :=
  Member.ofMethod_computes "raise" fun _ _ => .bind (.updateReceiver _) (.pure _)

/-- The method gives out no handle and borrows nothing. -/
theorem gaugeRaise_modest (args : List (Value Key)) : (gaugeRaise.body args).Modest := by
  apply Code.Modest.readReceiver
  intro state
  cases state with
  | none => exact .done _
  | some state =>
    apply Code.Modest.unmarshal
    intro read
    cases read with
    | error error => exact .done _
    | ok tuple => exact .writeReceiver (.marshal fun _ => .done _)

/-- The thunk is where the deeds look for it. -/
theorem gaugeThunk_placed {world : World Key} (there : world.code[0]? = some (.closure gaugeThunk)) :
    enterTrace 1 (World.codeAddress 0) [.pointer 1] world =
      (gaugeCall world).trace (enterTrace 0) :=
  enterTrace_closure (World.codeAt?_codeAddress there (by decide)) 0 [.pointer 1]

theorem gaugeThunk_isThunk : gaugeThunk.IsThunk 0 gaugeRaise := ⟨rfl, rfl, rfl, rfl⟩

/-- The moments of the deeds, up to the one at which the gauge gets its handle. -/
def gaugeBefore : List (Moment Key) :=
  [.outside none (gaugeState 0).2, .outside none (gaugeState 1).2,
    .working gaugeMake .bare (gaugeState 1).2]

/-- The gauge gets its handle. -/
def gaugeIssue : Moment Key :=
  .working (.allocateHandle 0 ⟨0, gaugeType⟩ fun _ => .done (.ok .void)) .bare
    { (gaugeState 1).2 with
      heap := ((gaugeState 1).2.heap.allocate gaugeType.key Widget.default).2 }

/-- The moments after the one at which the gauge gets its handle, up to the second raise. -/
def gaugeMiddle : List (Moment Key) :=
  [.working (.done (.ok .void)) .bare (gaugeState 2).2, .outside none (gaugeState 2).2] ++
    (gaugeCall (gaugeState 2).2).trace (enterTrace 0) ++ [.outside none (gaugeState 3).2]

theorem gaugeDeeds_traces :
    Deed.traces gaugeDeeds (gaugeState 0) =
      gaugeBefore ++ gaugeIssue ::
        (gaugeMiddle ++ (gaugeCall (gaugeState 3).2).trace (enterTrace 0)) := by
  have making : Code.trace (enterAt 0) (enterTrace 0) gaugeMake .bare (gaugeState 1).2 =
      [.working gaugeMake .bare (gaugeState 1).2, gaugeIssue,
        .working (.done (.ok .void)) .bare (gaugeState 2).2] := by
    rw [gaugeMake, Code.trace_rest rfl, Code.trace_rest rfl, Code.trace_ended rfl]
    rfl
  have first := @gaugeThunk_placed (gaugeState 2).2 rfl
  have second := @gaugeThunk_placed (gaugeState 3).2 rfl
  have parted : Deed.traces gaugeDeeds (gaugeState 0) =
      [.outside none (gaugeState 0).2, .outside none (gaugeState 1).2] ++
        (Code.trace (enterAt 0) (enterTrace 0) gaugeMake .bare (gaugeState 1).2 ++
          (.outside none (gaugeState 2).2 ::
            (enterTrace 1 (World.codeAddress 0) [.pointer 1] (gaugeState 2).2 ++
              (.outside none (gaugeState 3).2 ::
                (enterTrace 1 (World.codeAddress 0) [.pointer 1] (gaugeState 3).2 ++ []))))) := rfl
  rw [parted, making, first, second]
  simp [gaugeBefore, gaugeMiddle]

theorem gaugeDeeds_respects : Throughout Moment.Respects (Deed.traces gaugeDeeds (gaugeState 0)) := by
  have raised (world : World Key) (past : List (Moment Key)) :
      ∀ moment ∈ (gaugeCall world).trace (enterTrace 0), moment.Respects past := by
    intro moment among
    have noObject : ∀ type, gaugeRaise.result ≠ .object type := fun _ same => by cases same
    obtain ⟨unissued, unseized⟩ :=
      ClosureCall.trace_idle gaugeThunk_isThunk gaugeRaise_modest noObject _ moment among
    exact .of_idle unissued unseized
  have front : Throughout Moment.Respects gaugeBefore := by
    have each : ∀ moment ∈ gaugeBefore, ∀ past, moment.Respects past := by
      intro moment among past
      simp only [gaugeBefore, List.mem_cons, List.not_mem_nil, or_false] at among
      obtain rfl | rfl | rfl := among <;> exact .of_idle rfl rfl
    simpa using Throughout.nil.append each
  have issue : gaugeIssue.Respects gaugeBefore := by
    refine ⟨?_, ?_, ?_⟩
    · rintro _ _ _ ⟨⟩
      exact List.mem_singleton_self _
    · rintro _ _ _ ⟨⟩ -
      rfl
    · rintro _ ⟨⟩
  have behind : ∀ moment ∈ gaugeMiddle ++ (gaugeCall (gaugeState 3).2).trace (enterTrace 0),
      ∀ past, moment.Respects past := by
    intro moment among past
    simp only [gaugeMiddle, List.mem_append, List.mem_cons, List.not_mem_nil, or_false] at among
    obtain (((rfl | rfl) | among) | rfl) | among := among
    · exact .of_idle rfl rfl
    · exact .of_idle rfl rfl
    · exact raised _ past moment among
    · exact .of_idle rfl rfl
    · exact raised _ past moment among
  rw [gaugeDeeds_traces]
  have all := (front.snoc issue).append behind
  simpa using all

/-- The gauge keeps the state that host code made it with, although it is raised twice, and the
second raise starts from this state as well. -/
theorem gauge_kept :
    Session.AddsGently (κ := Key) ScriptedCompiler ∧ (∀ deed ∈ gaugeDeeds, deed.Gentle) ∧
      gaugeWorld.OnlyThunks ∧
      (∀ registry handle object, (gaugeWorld.registry registry).resolve handle ≠ .ok object) ∧
      Throughout Moment.Respects (Deed.traces gaugeDeeds (gaugeState 0)) ∧
      (∃ state, Noted (Deed.traces gaugeDeeds (gaugeState 0)) 0 1 ⟨0, gaugeType⟩ state ∧
        (gaugeState 4).2.Stores ⟨0, gaugeType⟩ state) ∧
      ∃ before state left, Noted before 0 1 ⟨0, gaugeType⟩ state ∧
        (gaugeCall (gaugeState 3).2).inside =
          some (.returned (.ok (.integer .i32 (state.number + 1))), left) := by
  have gentle : ∀ deed ∈ gaugeDeeds, deed.Gentle := by simp [gaugeDeeds, Deed.Gentle]
  have thunks : gaugeWorld.OnlyThunks := by
    intro index closure there
    cases there
  have unused : ∀ registry handle object,
      (gaugeWorld.registry registry).resolve handle ≠ .ok object := by
    intro registry handle object found
    cases found
  obtain ⟨last, -, calls⟩ := Session.values_kept ScriptedCompiler.fresh gaugeWorld gaugeDeeds
    scriptedCompiler_addsGently gentle thunks unused gaugeDeeds_respects
  refine ⟨scriptedCompiler_addsGently, gentle, thunks, unused, gaugeDeeds_respects,
    last 0 1 ⟨0, gaugeType⟩ rfl rfl, ?_⟩
  have parted : Deed.traces gaugeDeeds (gaugeState 0) =
      (gaugeBefore ++ gaugeIssue :: gaugeMiddle) ++ .entered (gaugeCall (gaugeState 3).2) ::
        ((gaugeCall (gaugeState 3).2).insideTrace (enterTrace 0) ++
          [.left (gaugeCall (gaugeState 3).2), .answered (gaugeCall (gaugeState 3).2)]) := by
    rw [gaugeDeeds_traces]
    simp [ClosureCall.trace]
  have accepted : (gaugeCall (gaugeState 3).2).accepted =
      .ok ([.object ⟨0, gaugeType⟩], [], (gaugeState 3).2.heap) := rfl
  obtain ⟨-, copied⟩ := calls _ _ _ 0 gaugeRaise parted gaugeThunk_isThunk rfl rfl
  obtain ⟨handle, cell, args, state, sent, -, shape, noted, runs⟩ := copied _ _ _ accepted
  obtain ⟨object, rfl⟩ := List.cons.inj shape
  cases sent
  cases object
  obtain ⟨edited, raised⟩ := runs.computed [] (.integer .i32) _ () gaugeRaise_computes rfl
  exact ⟨_, state, _, noted, raised⟩

end Workbench

end NativeBridge
