/-
Module: NativeBridge.Proofs.HandleRuns
Purpose: The handles of a session over every run of bindings, calls and releases.
Main exports: Deed, Deed.runs, Deed.journals, Deed.law_runs, Session.handles_of_run
-/
import NativeBridge.Proofs.SessionTransitions
import NativeBridge.Proofs.UnusedHandle
import NativeBridge.Workbench.Compilers

namespace NativeBridge

variable {σ κ : Type} [HostProgram κ]

/-!
A session is created with a registry of its own.  Afterwards types are bound, host code and native
code run, and handles are released from the host, in any order; what else happens leaves registries
alone.  The journal of such a run is the journal of its deeds one after the other.
-/

/-! ### What binding leaves alone -/

namespace Session

theorem releaseHandle_apply (handle : UInt64) (session : Session σ) (world : World κ) :
    (releaseHandle handle : SessionM σ κ Unit) (session, world) =
      ((world.releaseHandle session.registry handle).1.mapError Error.handle, session,
        (world.releaseHandle session.registry handle).2) := by
  rw [releaseHandle, SessionM.bind_apply]
  exact SessionM.inWorld_apply _ session world

variable [CompilationService σ κ]

/-- A compilation service to which a symbol is only a name and an address. -/
def AddsQuietly (σ : Type) [CompilationService σ κ] : Prop :=
  ∀ (name : String) (address : UInt64) (service : σ) (world : World κ),
    (CompilationService.perform (.addSymbol name address) service world).2.2.registries =
      world.registries

theorem AddsQuietly.registrable (quiet : AddsQuietly (κ := κ) σ) :
    Registrable σ fun before after : World κ => after.registries = before.registries where
  refl _ := rfl
  trans one two := two.trans one
  typed _ _ := rfl
  placed _ _ _ := rfl
  added := quiet

theorem bind_state (description : TypeDescription κ) (rules : Naming.NamingRules)
    (state : Session σ × World κ) :
    ((bind description rules : SessionM σ κ (List String)) state).2 =
      ((Operation.bind description rules).perform state).2 :=
  (SessionM.then_pure_state (bind description rules) () state).symm

/-- Binding a type leaves the session its registry and touches none. -/
theorem bind_keepsRegistries (quiet : AddsQuietly (κ := κ) σ) (description : TypeDescription κ)
    (rules : Naming.NamingRules) (session : Session σ) (world : World κ) :
    let after := ((bind description rules : SessionM σ κ (List String)) (session, world)).2
    after.1.registry = session.registry ∧ after.2.registries = world.registries := by
  rw [bind_state]
  exact ⟨Operation.perform_registry _ session world, quiet.registrable.perform rfl session world⟩

end Session

/-! ### Runs -/

/-- One thing that is done with a session and the process around it. -/
inductive Deed (κ : Type) [HostProgram κ] where
  /-- The members of a type are bound. -/
  | bind (description : TypeDescription κ) (rules : Naming.NamingRules)
  /-- The host releases a handle of the session. -/
  | release (handle : UInt64)
  /-- Host code runs, and calls what it likes. -/
  | host (depth : Nat) (code : Code κ)
  /-- Native code calls an address. -/
  | native (depth : Nat) (address : UInt64) (result : AbiType) (args : List RawValue)
  /-- Something else happens, which leaves registries alone. -/
  | elsewhere (change : World κ → World κ)
      (quiet : ∀ world, (change world).registries = world.registries)

namespace Deed

variable [CompilationService σ κ]

/-- The session and the process after a deed. -/
def run (deed : Deed κ) (state : Session σ × World κ) : Session σ × World κ :=
  match deed, state with
  | .bind description rules, state =>
      ((Session.bind description rules : SessionM σ κ (List String)) state).2
  | .release handle, state => ((Session.releaseHandle handle : SessionM σ κ Unit) state).2
  | .host depth code, (session, world) => (session, (code.run (enterAt depth) .bare world).2)
  | .native depth address result args, (session, world) =>
      (session, (enterAt depth address result args world).2)
  | .elsewhere change _, (session, world) => (session, change world)

/-- The journal of a deed. -/
def journal (deed : Deed κ) (state : Session σ × World κ) : List (Event κ) :=
  match deed, state with
  | .bind _ _, _ | .elsewhere _ _, _ => []
  | .release handle, (session, world) =>
      if (world.registry session.registry).isLive handle then [.released session.registry handle]
      else [.lookedUp session.registry handle]
  | .host depth code, (_, world) =>
      code.journal (enterAt depth) (enterJournal depth) .bare world
  | .native depth address _ args, (_, world) => enterJournal depth address args world

/-- The session and the process after some deeds. -/
def runs : List (Deed κ) → Session σ × World κ → Session σ × World κ
  | [], state => state
  | deed :: rest, state => runs rest (deed.run state)

/-- The journal of some deeds. -/
def journals : List (Deed κ) → Session σ × World κ → List (Event κ)
  | [], _ => []
  | deed :: rest, state => deed.journal state ++ journals rest (deed.run state)

/-- A deed does to the process what its journal says, by any law of journals that leaves out the
pending fault. -/
theorem law_run {R : World κ → List (Event κ) → World κ → Prop} (law : JournalLaw R)
    (still : ∀ {before after : World κ}, after.registries = before.registries → R before [] after)
    (quiet : Session.AddsQuietly (κ := κ) σ) (deed : Deed κ) (state : Session σ × World κ) :
    (deed.run state).1.registry = state.1.registry ∧
      R state.2 (deed.journal state) (deed.run state).2 := by
  rcases state with ⟨session, world⟩
  cases deed with
  | bind description rules =>
    obtain ⟨same, kept⟩ := Session.bind_keepsRegistries quiet description rules session world
    exact ⟨same, still kept⟩
  | release handle =>
    simp only [run, journal, Session.releaseHandle_apply]
    refine ⟨trivial, ?_⟩
    cases live : (world.registry session.registry).isLive handle with
    | true => exact law.released world session.registry handle live
    | false =>
      have asked := law.lookedUp world session.registry handle
      simpa [World.releaseHandle, Registry.release, live] using asked
  | host depth code => exact ⟨rfl, law.run (law.enterAt depth) code .bare world⟩
  | native depth address result args => exact ⟨rfl, law.enterAt depth address result args world⟩
  | elsewhere change quiet => exact ⟨rfl, still (quiet world)⟩

theorem law_runs {R : World κ → List (Event κ) → World κ → Prop} (law : JournalLaw R)
    (still : ∀ {before after : World κ}, after.registries = before.registries → R before [] after)
    (quiet : Session.AddsQuietly (κ := κ) σ) (deeds : List (Deed κ)) (state : Session σ × World κ) :
    (runs deeds state).1.registry = state.1.registry ∧
      R state.2 (journals deeds state) (runs deeds state).2 := by
  induction deeds generalizing state with
  | nil => exact ⟨rfl, still rfl⟩
  | cons deed rest ih =>
    obtain ⟨same, done⟩ := deed.law_run law still quiet state
    obtain ⟨later, others⟩ := ih (deed.run state)
    exact ⟨later.trans same, law.append done others⟩

end Deed

/-! ### Where results are issued -/

/-- The handle for the result of a call is issued right after its host code. -/
def IssuesFollow (events : List (Event κ)) : Prop :=
  ∀ before call after, events = before ++ .ended call :: after →
    ∀ registry handle object, call.handle? = some (registry, handle, object) →
      ∃ rest, after = .issued registry handle object :: rest

namespace IssuesFollow

theorem of_none {events : List (Event κ)} (none : ∀ call, Event.ended call ∉ events) :
    IssuesFollow events := by
  rintro before call after rfl
  exact absurd (by simp) (none call)

theorem append {events more : List (Event κ)} (one : IssuesFollow events)
    (two : IssuesFollow more) : IssuesFollow (events ++ more) := by
  intro before call after same registry handle object handed
  rcases List.append_eq_append_iff.mp same with ⟨front, rfl, behind⟩ | ⟨back, rfl, behind⟩
  · exact two front call after behind registry handle object handed
  · cases back with
    | nil => exact two [] call after (by simpa using behind.symm) registry handle object handed
    | cons first rest =>
      rw [List.cons_append] at behind
      rcases List.cons.inj behind with ⟨rfl, rfl⟩
      obtain ⟨rest', rfl⟩ := one before call rest rfl registry handle object handed
      exact ⟨rest' ++ more, rfl⟩

theorem deeper {events : List (Event κ)} (one : IssuesFollow events) :
    IssuesFollow (events.map Event.deeper) := by
  intro before call after same registry handle object handed
  rcases List.map_eq_append_iff.mp same with ⟨front, back, rfl, rfl, behind⟩
  rcases List.map_eq_cons_iff.mp behind with ⟨event, rest, rfl, ended, rfl⟩
  obtain rfl : event = .ended call := by
    cases event <;> simp_all [Event.deeper]
  obtain ⟨rest', rfl⟩ := one front call rest rfl registry handle object handed
  exact ⟨rest'.map Event.deeper, rfl⟩

theorem closing (call : ClosureCall κ) : IssuesFollow call.closing := by
  intro before ended after same registry handle object handed
  rw [ClosureCall.closing, List.cons_append, List.cons_append] at same
  cases before with
  | nil =>
    rcases List.cons.inj same with ⟨equal, rfl⟩
    obtain rfl : call = ended := by simpa using equal
    rw [handed]
    exact ⟨_, rfl⟩
  | cons first rest =>
    have found : Event.ended ended ∈ rest ++ .ended ended :: after := by simp
    have tail := (List.cons.inj (same.trans (List.cons_append ..))).2
    rw [← tail] at found
    simp at found

end IssuesFollow

theorem issuesFollow_law :
    JournalLaw (fun (_ : World κ) events (_ : World κ) => IssuesFollow events) where
  quiet _ := .of_none (by simp)
  append one two := one.append two
  collected inside := inside.deeper
  issued _ _ _ := .of_none (by simp)
  released _ _ _ _ := .of_none (by simp)
  lookedUp _ _ _ := .of_none (by simp)
  exceeded _ := .of_none (by simp)
  entered _ := .of_none (by simp)
  closing call := .closing call

/-- A call gives out at most one handle after its host code. -/
theorem ClosureCall.issues_closing (id : Nat) (call : ClosureCall κ) :
    issues id call.closing ≤ 1 := by
  have alone (event : Event κ) (more : List (Event κ)) (other : event.isIssue id = false) :
      issues id (event :: more) = issues id more := by
    simp [issues, other]
  rw [closing, List.cons_append, List.cons_append, alone _ _ rfl, issues_append, issues_append]
  have handed (given : Option (Event κ)) : issues id given.toList ≤ 1 := by
    cases given with
    | none => exact Nat.zero_le 1
    | some event => exact List.countP_le_length
  have raised : issues id (call.fault?.map (Event.raised 0) : Option (Event κ)).toList = 0 := by
    cases call.fault? <;> rfl
  have answered : issues id [Event.answered call] = 0 := rfl
  rw [raised, answered]
  exact handed _

/-! ### The handles of a session -/

/-- A process whose registry is what a journal made of an empty one. -/
structure Kept (id : Nat) (events : List (Event κ)) (now : World κ) : Prop where
  recorded : (Registry.empty : Registry κ).Records id events
  supply : issues id events ≤ handleSupply
  final : now.registry id = Registry.empty.replay id events

namespace Kept

variable {id : Nat} {events before after : List (Event κ)} {last : World κ} {call : ClosureCall κ}
  {member : Member κ}

theorem resolve_iff (kept : Kept id events last) (handle : UInt64) (object : HostObject κ) :
    (last.registry id).resolve handle = .ok object ↔ Holds id events handle object := by
  rw [kept.final]
  exact Registry.resolve_iff_holds kept.recorded kept.supply handle object

theorem isLive_iff (kept : Kept id events last) (handle : UInt64) :
    (last.registry id).isLive handle = true ↔ ∃ object, Holds id events handle object := by
  simp only [Registry.isLive_iff_resolve, kept.resolve_iff]

/-- What holds at the end of a run holds at each event that names a process. -/
theorem at_event {event : Event κ} {now : World κ} (kept : Kept id events last)
    (parted : events = before ++ event :: after)
    (names : ∀ registry, event.Fits id registry → now.registry id = registry) :
    Kept id before now := by
  subst parted
  obtain ⟨recorded, fits, -⟩ := (Registry.records_append id _ _ _).mp kept.recorded
  have supply := kept.supply
  rw [issues_append] at supply
  exact ⟨recorded, by omega, names _ fits⟩

theorem at_entered (kept : Kept id events last)
    (parted : events = before ++ .entered call :: after) : Kept id before call.world :=
  kept.at_event parted fun _ fits => fits.2

theorem hasRegistry (kept : Kept id events last)
    (parted : events = before ++ .ended call :: after) : call.left.HasRegistry id := by
  subst parted
  exact ((Registry.records_append id _ _ _).mp kept.recorded).2.1.1

/-- A thunk that comes back with a value, an object being declared, adds one handle that was never
given out before, for the instance that its member returned. -/
theorem adds_handle (kept : Kept id events last) (results : IssuesFollow events)
    (parted : events = before ++ .ended call :: after) (thunk : call.closure.IsThunk id member)
    (typed : member.Typed) {type : ObjectType κ} (declared : member.result = .object type)
    {raw : RawValue} (returned : call.outcome = .returned (.ok raw)) :
    ∃ handle object, raw = .pointer handle ∧
      call.inside = some (.returned (.ok (.object object)), call.left) ∧
      handle ≠ 0 ∧ (∀ other, Event.issued id handle other ∉ before) ∧
      ∀ asked found, (call.after.registry id).resolve asked = .ok found ↔
        if asked = handle then object = found
        else (call.left.registry id).resolve asked = .ok found := by
  obtain ⟨object, inside, issued, handed, -, registries⟩ :=
    ClosureCall.returned_object thunk typed declared returned
  obtain ⟨rest, rfl⟩ := results before call after parted _ _ _ issued
  subst parted
  have regroup : before ++ .ended call :: .issued id (call.left.registry id).next object :: rest =
      (before ++ [.ended call]) ++ .issued id (call.left.registry id).next object :: rest := by
    simp
  have recorded := kept.recorded
  have supply := kept.supply
  rw [regroup] at recorded supply
  obtain ⟨nonzero, never⟩ := Registry.issued_once recorded supply
  refine ⟨(call.left.registry id).next, object, handed, inside, nonzero, ?_, ?_⟩
  · intro other found
    exact never other (List.mem_append_left _ found)
  · intro asked found
    rw [World.registry_congr registries id, World.allocateHandle, World.registry_setRegistry,
      if_pos ⟨rfl, kept.hasRegistry rfl⟩]
    exact Registry.resolve_allocate _ object found asked

/-- A thunk whose first undecodable argument is an object parameter with a handle that is not held
reports this handle and does not run its member. -/
theorem reports_handle (kept : Kept id events last)
    (parted : events = before ++ .entered call :: after) (thunk : call.closure.IsThunk id member)
    {index : Nat} {type : ObjectType κ} {handle : UInt64}
    (declared : (thunkParameters member)[index]? = some (.object type))
    (sent : call.args[index]? = some (.pointer handle))
    (front : ∃ decoded, acceptEach (some (call.world.registry id)) call.world.memory
      ((thunkPlan member).parameters.take index) (call.args.take index) call.world.heap =
        .ok decoded)
    (unheld : ∀ object, ¬ Holds id before handle object) :
    call.inside = none ∧ call.outcome = .returned (.error (.handle (.invalidHandle handle))) ∧
      call.after = call.world.raise (.handle (.invalidHandle handle)) := by
  have dead : (call.world.registry id).isLive handle = false := by
    cases live : (call.world.registry id).isLive handle with
    | false => rfl
    | true =>
      obtain ⟨object, held⟩ := ((kept.at_entered parted).isLive_iff handle).mp live
      exact absurd held (unheld object)
  obtain ⟨inside, outcome, -, after⟩ := ClosureCall.dead_handle thunk declared sent front dead
  exact ⟨inside, outcome, after⟩

end Kept

namespace Session

/-- A session starts with an empty registry of its own. -/
theorem create_registry (service : σ) (world : World κ) :
    (create service world).2.HasRegistry (create service world).1.registry ∧
      (create service world).2.registry (create service world).1.registry = .empty := by
  constructor
  · show world.registries.size < (world.registries.push Registry.empty).size
    simp
  · show (world.registries.push Registry.empty).getD world.registries.size .empty = _
    simp [Array.getD]

variable [CompilationService σ κ]

/-- Over every run that gives out no more handles than there are, the session's registry holds
exactly the handles that were issued and not released.  A thunk that comes back with an object has
added one handle for the very instance its member returned, and no call adds or removes a handle
otherwise than through what its member does.  A handle that is not live is reported in place of a
run of the member, and a member whose handle is released under it goes on as if it were not. -/
theorem handles_of_run (service : σ) (world : World κ) (deeds : List (Deed κ))
    (quiet : AddsQuietly (κ := κ) σ)
    (supply : issues (create service world).1.registry
      (Deed.journals deeds (create service world)) ≤ handleSupply) :
    let id := (create service world).1.registry
    let events := Deed.journals deeds (create service world)
    let last := (Deed.runs deeds (create service world)).2
    (∀ handle object,
      (last.registry id).resolve handle = .ok object ↔ Holds id events handle object) ∧
    (∀ handle, (last.registry id).isLive handle = true ↔ ∃ object, Holds id events handle object) ∧
    (∀ before call after member, events = before ++ .ended call :: after →
      call.closure.IsThunk id member →
      call.left.registry id =
          (call.world.registry id).replay id (call.insideJournal (enterJournal call.depth)) ∧
        (∀ type raw, member.Typed → member.result = .object type →
          call.outcome = .returned (.ok raw) →
          ∃ handle object, raw = .pointer handle ∧
            call.inside = some (.returned (.ok (.object object)), call.left) ∧
            handle ≠ 0 ∧ (∀ other, Event.issued id handle other ∉ before) ∧
            ∀ asked found, (call.after.registry id).resolve asked = .ok found ↔
              if asked = handle then object = found
              else (call.left.registry id).resolve asked = .ok found) ∧
        ((∀ raw type, call.outcome = .returned (.ok raw) → member.result ≠ .object type) →
          call.after.registry id = call.left.registry id)) ∧
    (∀ before call after member index type handle, events = before ++ .entered call :: after →
      call.closure.IsThunk id member →
      (thunkParameters member)[index]? = some (.object type) →
      call.args[index]? = some (.pointer handle) →
      (∃ decoded, acceptEach (some (call.world.registry id)) call.world.memory
        ((thunkPlan member).parameters.take index) (call.args.take index) call.world.heap =
          .ok decoded) →
      (∀ object, ¬ Holds id before handle object) →
      call.inside = none ∧ call.outcome = .returned (.error (.handle (.invalidHandle handle))) ∧
        call.after = call.world.raise (.handle (.invalidHandle handle))) ∧
    (∀ before call after, events = before ++ .entered call :: after →
      ∀ args writeBacks heap code frame begun later frame' now handle object,
      call.accepted = .ok (args, writeBacks, heap) →
      call.closure.handler.start args { call.world with heap := heap } = some (code, frame, begun) →
      code.Reaches (enterAt call.depth) frame begun later frame' now →
      Unused id handle
        (later.journal (enterAt call.depth) (enterJournal call.depth) frame' now) →
      (∃ left, call.inside = some
        ((later.run (enterAt call.depth) frame' (now.unreleased id handle object)).1, left)) ∧
        Agree id handle (later.run (enterAt call.depth) frame' now)
          (later.run (enterAt call.depth) frame' (now.unreleased id handle object))) := by
  intro id events last
  obtain ⟨has, empty⟩ := create_registry service world
  have recorded := (Deed.law_runs (ledger_law id) .of_same quiet deeds (create service world)).2
  have results := (Deed.law_runs issuesFollow_law (fun _ => .of_none (by simp)) quiet deeds
    (create service world)).2
  rcases recorded.follows has with ⟨records, final⟩
  rw [empty] at records final
  have kept : Kept id events last := ⟨records, supply, final⟩
  refine ⟨kept.resolve_iff, kept.isLive_iff, ?_, ?_, ?_⟩
  · intro before call after member parted thunk
    refine ⟨?_, ?_, ?_⟩
    · have inside := (ledger_law id).inside call ((ledger_law id).enterAt call.depth)
      exact (inside.follows (inside.has.mp (kept.hasRegistry parted))).2
    · intro type raw typed declared returned
      exact kept.adds_handle results parted thunk typed declared returned
    · intro other
      exact World.registry_congr (ClosureCall.returned_noObject thunk other) id
  · intro before call after member index type handle parted thunk declared sent front unheld
    exact kept.reports_handle parted thunk declared sent front unheld
  · intro before call after _ args writeBacks heap code frame begun later frame' now handle object
      accepted started reached unused
    exact ClosureCall.outlives_handle id handle object accepted started reached unused

end Session

namespace Workbench

theorem scriptedCompiler_addsQuietly : Session.AddsQuietly (κ := Key) ScriptedCompiler := by
  intro name address service world
  rfl

/-- A constructor of squares. -/
def squareMember : Member Key :=
  TypeBuilder.withSymbol "square"
    (.ofConstructor ⟨.shape, .reference⟩ [] fun _ => pure (.square F64.one))

/-- The thunk of the constructor, its handles in the first registry. -/
def squareThunk : Closure Key :=
  ⟨⟨1, thunkSignature squareMember⟩, "square", thunkPlan squareMember, some 0,
    .member (Dispatch.ofMember squareMember) squareMember, []⟩

/-- Squares are bound, native code makes one, and the host releases it. -/
def squareDeeds : List (Deed Key) :=
  [.bind ⟨⟨.shape, .reference⟩, [squareMember]⟩ .builtin,
    .native 1 (World.codeAddress 0) .pointer [], .release 1]

/-- The session and the process when squares are bound in a new process. -/
def squareBound : Session ScriptedCompiler × World Key :=
  (Deed.bind ⟨⟨.shape, .reference⟩, [squareMember]⟩ .builtin).run
    (Session.create ScriptedCompiler.fresh (World.initial Globals.initial))

/-- Making a square needs no call and no handle inside the constructor. -/
theorem squareThunk_insideJournal (world : World Key) :
    ClosureCall.insideJournal (enterJournal 0)
      ⟨0, World.codeAddress 0, squareThunk, [], world⟩ = [] := by
  have accepted : ClosureCall.accepted ⟨0, World.codeAddress 0, squareThunk, [], world⟩ =
      .ok ([], [], world.heap) := rfl
  rw [ClosureCall.insideJournal, accepted]
  show Code.journal _ _ (squareMember.body []) .bare _ = []
  rw [Code.journal_rest rfl, Code.journal_rest rfl, Code.journal_ended rfl]
  rfl

theorem squareDeeds_supply :
    let start : Session ScriptedCompiler × World Key :=
      Session.create ScriptedCompiler.fresh (World.initial Globals.initial)
    issues start.1.registry (Deed.journals squareDeeds start) ≤ handleSupply := by
  intro start
  let call : ClosureCall Key := ⟨0, World.codeAddress 0, squareThunk, [], squareBound.2⟩
  have thunk : squareBound.2.code[0]? = some (.closure squareThunk) := rfl
  have placed := World.codeAt?_codeAddress thunk (by decide)
  have journal : (Deed.native 1 (World.codeAddress 0) .pointer []).journal squareBound =
      call.journal (enterJournal 0) :=
    enterJournal_closure placed 0 []
  have called : issues start.1.registry (call.journal (enterJournal 0)) ≤ 1 := by
    rw [ClosureCall.journal, squareThunk_insideJournal, issues_append]
    have closing := call.issues_closing start.1.registry
    have entered : issues start.1.registry [Event.entered call] = 0 := rfl
    omega
  have released (state : Session ScriptedCompiler × World Key) :
      issues start.1.registry ((Deed.release 1).journal state) = 0 := by
    simp only [Deed.journal]
    split <;> rfl
  have events : Deed.journals squareDeeds start =
      (Deed.native 1 (World.codeAddress 0) .pointer []).journal squareBound ++
        ((Deed.release 1).journal
          ((Deed.native 1 (World.codeAddress 0) .pointer []).run squareBound) ++ []) := rfl
  rw [events, journal, issues_append, issues_append, released]
  exact Nat.le_trans called (by decide)

/-- The handles of a session in which one square was made and released. -/
theorem handles_of_squareDeeds :
    let start : Session ScriptedCompiler × World Key :=
      Session.create ScriptedCompiler.fresh (World.initial Globals.initial)
    Session.AddsQuietly (κ := Key) ScriptedCompiler ∧
      issues start.1.registry (Deed.journals squareDeeds start) ≤ handleSupply ∧
      ∀ handle object,
        ((Deed.runs squareDeeds start).2.registry start.1.registry).resolve handle = .ok object ↔
          Holds start.1.registry (Deed.journals squareDeeds start) handle object := by
  intro start
  have supply : issues start.1.registry (Deed.journals squareDeeds start) ≤ handleSupply :=
    squareDeeds_supply
  have handles := Session.handles_of_run (κ := Key) ScriptedCompiler.fresh
    (World.initial Globals.initial) squareDeeds scriptedCompiler_addsQuietly supply
  rcases handles with ⟨held, -⟩
  exact ⟨scriptedCompiler_addsQuietly, supply, held⟩

end Workbench

end NativeBridge
