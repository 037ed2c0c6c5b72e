/-
Module: NativeBridge.Proofs.WaitingLibraries
Purpose: Where the libraries go that a session is told of: they wait, the compiler is asked for
  them, or they are lost behind one that the compiler refuses.
Main exports: librariesIn, Session.lostBetween, Session.CutShort, Session.setOutputMode_cases,
  Session.libraries_kept_iff
-/
import Mathlib.Data.List.Count
import NativeBridge.Proofs.SessionTransitions
import NativeBridge.Workbench.Compilers

namespace NativeBridge

open scoped List

variable {σ κ : Type} [HostProgram κ]

/-!
A library that is named before the output mode is chosen waits.  Choosing the mode empties the list
of those that wait before the compiler is asked for the first of them, and the asking stops at one
that the compiler refuses.  Those behind it wait no longer, and nobody has asked for them.
-/

/-- The library that a service was asked for. -/
def Exchange.library? : Exchange → Option String
  | performed (.addLibrary name) _ => some name
  | _ => none

/-- The libraries that a service was asked for, latest first. -/
def librariesIn (log : List Exchange) : List String :=
  log.filterMap Exchange.library?

/-- A service was given a library. -/
def Exchange.given (name : String) : Exchange :=
  .performed (.addLibrary name) true

theorem librariesIn_given (names : List String) (log : List Exchange) :
    librariesIn (names.map Exchange.given ++ log) = names ++ librariesIn log := by
  induction names with
  | nil => rfl
  | cons name names ih => exact congrArg (name :: ·) ih

namespace Session

/-! ### Operations that are not about libraries -/

/-- The same libraries wait, and the service was asked for no other. -/
def KeepsLibraries (before after : Session (Logged σ) × World κ) : Prop :=
  after.1.pendingLibraries = before.1.pendingLibraries ∧
    librariesIn after.1.service.log = librariesIn before.1.service.log

variable [CompilationService σ κ]

/-- The library that an operation names. -/
def Operation.library? : Operation κ → Option String
  | .addLibrary name => some name
  | _ => none

/-- A library is asked for only by an operation that names it or that chooses the output mode. -/
theorem Operation.Asks.library {operation : Operation κ} {name : String}
    (due : operation.Asks (.addLibrary name)) :
    operation.library? = some name ∨ ∃ mode, operation = .setOutputMode mode := by
  cases operation with
  | addLibrary named =>
    cases due
    exact .inl rfl
  | setOutputMode mode => exact .inr ⟨mode, rfl⟩
  | bind | bindType | register | addSymbol | addDynamicSymbol | ensureReleaseSymbol =>
    obtain ⟨-, _, _, same⟩ := due
    cases same
  | withNaming | setDiagnosticHandler | releaseHandle | run | symbolAddress | getSymbol | function
  | elsewhere => cases due.1
  | _ => cases due

/-- A call that no library is asked for with leaves the libraries alone. -/
theorem Point.asked_keepsLibraries {operation : Operation κ} (unnamed : operation.library? = none)
    (other : ∀ mode, operation ≠ .setOutputMode mode) {call : ServiceCall}
    (due : operation.Asks call) (point : Point (Logged σ) κ) :
    librariesIn (point.asked call).session.service.log = librariesIn point.session.service.log := by
  apply List.filterMap_cons_none
  cases call with
  | addLibrary name =>
    rcases due.library with named | ⟨mode, same⟩
    · rw [unnamed] at named
      cases named
    · exact absurd same (other mode)
  | _ => rfl

/-- All other operations leave the libraries alone. -/
theorem Operation.perform_keepsLibraries {operation : Operation κ}
    (unnamed : operation.library? = none) (other : ∀ mode, operation ≠ .setOutputMode mode) :
    (operation.perform : SessionM (Logged σ) κ Unit).Respects KeepsLibraries := by
  rintro ⟨session, world⟩
  obtain ⟨reached, chain, state, -⟩ := operation.perform_chains ⟨session, world, []⟩
  rw [state]
  clear state
  induction chain with
  | refl => exact ⟨rfl, rfl⟩
  | @tail middle last _ step ih =>
    have kept : KeepsLibraries (middle.session, middle.world) (last.session, last.world) := by
      cases step with
      | chosen due => exact absurd due (other _)
      | waits due =>
        rw [due] at unnamed
        cases unnamed
      | asked due => exact ⟨rfl, Point.asked_keepsLibraries unnamed other due middle⟩
      | compiled due => exact ⟨rfl, Point.asked_keepsLibraries unnamed other due middle⟩
      | registered due => exact ⟨rfl, Point.asked_keepsLibraries unnamed other due middle⟩
      | relocated due =>
        have due : operation.Asks .relocate := due ▸ rfl
        exact ⟨rfl, Point.asked_keepsLibraries unnamed other due middle⟩
      | _ => exact ⟨rfl, rfl⟩
    exact ⟨kept.1.trans ih.1, kept.2.trans ih.2⟩

/-! ### Choosing the output mode -/

/-- The libraries that wait, and those that the service was asked for. -/
def held (session : Session (Logged σ)) : List String :=
  session.pendingLibraries ++ librariesIn session.service.log

/-- The libraries that were held before and are not held after, each as often as it is missing. -/
def lostBetween (before after : Session (Logged σ)) : List String :=
  before.held.diff after.held

/-- The mode was chosen and the libraries in front were handed over, but the next one was refused,
and those behind it wait no longer. -/
structure CutShort (mode : OutputMode) (before after : Session (Logged σ)) (front : List String)
    (refused : String) (behind : List String) : Prop where
  waited : before.pendingLibraries = front ++ refused :: behind
  emptied : after.pendingLibraries = []
  log : after.service.log =
    .performed (.addLibrary refused) false :: front.reverse.map Exchange.given ++
      .performed (.setOutputMode mode) true :: before.service.log

/-- Libraries are handed over in order, up to the first one that is refused. -/
theorem handOver_cases (names : List String) (session : Session (Logged σ)) (world : World κ) :
    (∃ service left, (names.forM fun name => request (.addLibrary name) :
        SessionM (Logged σ) κ Unit) (session, world) =
      (.ok (), { session with
        service := ⟨service, names.reverse.map Exchange.given ++ session.service.log⟩ }, left)) ∨
    ∃ front refused behind error service left, names = front ++ refused :: behind ∧
      (names.forM fun name => request (.addLibrary name) : SessionM (Logged σ) κ Unit)
        (session, world) =
      (.error error, { session with
        service := ⟨service, .performed (.addLibrary refused) false ::
          front.reverse.map Exchange.given ++ session.service.log⟩ }, left) := by
  induction names generalizing session world with
  | nil => exact .inl ⟨session.service.service, world, rfl⟩
  | cons name names ih =>
    have parted : ((name :: names).forM fun name => request (.addLibrary name) :
        SessionM (Logged σ) κ Unit) =
      request (.addLibrary name) >>= fun _ => names.forM fun name => request (.addLibrary name) :=
      rfl
    rw [parted, SessionM.bind_apply]
    obtain ⟨error, service, left, answer⟩ | ⟨service, left, answer⟩ :=
      SessionM.request_cases (.addLibrary name) session world
    · rw [answer]
      exact .inr ⟨[], name, names, error, service, left, rfl, rfl⟩
    · rw [answer]
      dsimp only
      -- The one that was just given comes before the others in the log.
      have later (given : List String) :
          given.reverse.map Exchange.given ++ (Exchange.given name :: session.service.log) =
            (name :: given).reverse.map Exchange.given ++ session.service.log := by simp
      obtain ⟨last, ended, answers⟩ |
          ⟨front, refused, behind, error, last, ended, rfl, answers⟩ :=
        ih { session with service := ⟨service, Exchange.given name :: session.service.log⟩ } left
      · refine .inl ⟨last, ended, ?_⟩
        rw [← later]
        exact answers
      · refine .inr ⟨name :: front, refused, behind, error, last, ended, rfl, ?_⟩
        rw [List.cons_append, ← later]
        exact answers

/-- Choosing the mode is refused and nothing is handed over, or all libraries that waited are handed
over, or it is cut short. -/
theorem setOutputMode_cases (mode : OutputMode) (session : Session (Logged σ)) (world : World κ) :
    let answer := (setOutputMode mode : SessionM (Logged σ) κ Unit) (session, world)
    (KeepsLibraries (session, world) answer.2) ∨
    (answer.2.1.pendingLibraries = [] ∧ librariesIn answer.2.1.service.log =
      session.pendingLibraries.reverse ++ librariesIn session.service.log) ∨
    ∃ front refused behind, CutShort mode session answer.2.1 front refused behind := by
  intro answer
  by_cases begun : session.stage ≠ .empty
  · have refused : answer = (.error CompileError.outputModeLocked, session, world) :=
      setOutputMode_locked begun mode world
    rw [refused]
    exact .inl ⟨rfl, rfl⟩
  · have asked := setOutputMode_open (not_ne_iff.mp begun) mode world
    rw [show answer = _ from asked, SessionM.bind_apply]
    obtain ⟨error, service, left, answered⟩ | ⟨service, left, answered⟩ :=
      SessionM.request_cases (.setOutputMode mode) session world
    · rw [answered]
      exact .inl ⟨rfl, rfl⟩
    · rw [answered]
      dsimp only
      rw [SessionM.bind_apply, SessionM.current_apply]
      dsimp only
      rw [SessionM.bind_apply]
      obtain ⟨last, ended, given⟩ | ⟨front, refused, behind, error, last, ended, parted, cut⟩ :=
        handOver_cases session.pendingLibraries
          { session with
            service := ⟨service, .performed (.setOutputMode mode) true :: session.service.log⟩
            output := some mode
            pendingLibraries := [] } left
      · refine .inr (.inl ?_)
        exact ⟨congrArg (fun answer => answer.2.1.pendingLibraries) given,
          (congrArg (fun answer => librariesIn answer.2.1.service.log) given).trans
            (librariesIn_given _ _)⟩
      · refine .inr (.inr ⟨front, refused, behind, parted, ?_, ?_⟩)
        · exact congrArg (fun answer => answer.2.1.pendingLibraries) cut
        · exact congrArg (fun answer => answer.2.1.service.log) cut

/-! ### One operation -/

/-- The libraries that a session holds are those it held and the one it was told of, but for those
that are lost, and those that wait after an operation waited before or were accepted by it. -/
structure Accounts (operation : Operation κ) (before : Session (Logged σ))
    (result : Except Error Unit) (after : Session (Logged σ)) : Prop where
  balance : (operation.library?.toList ++ before.held).Perm
    (after.held ++ before.lostBetween after)
  cut : before.lostBetween after ≠ [] → ∃ mode front refused behind,
    operation = .setOutputMode mode ∧ CutShort mode before after front refused behind ∧
      (before.lostBetween after).Perm behind
  lost : ∀ name ∈ before.lostBetween after, name ∈ before.pendingLibraries
  waits : ∀ name ∈ after.pendingLibraries, name ∈ before.pendingLibraries ∨
    operation.library? = some name ∧ result = .ok ()

omit [HostProgram κ] in
/-- What is left over once some are taken away. -/
theorem diff_perm {names taken others : List String} (parted : names.Perm (taken ++ others)) :
    (names.diff taken).Perm others := by
  rw [List.perm_iff_count]
  intro name
  rw [List.count_diff, parted.count_eq, List.count_append]
  omega

omit [CompilationService σ κ] in
/-- Nothing is lost by an operation after which all is held that was held, or is new. -/
theorem Accounts.of_none_lost {operation : Operation κ} {before after : Session (Logged σ)}
    {result : Except Error Unit}
    (held : after.held.Perm (operation.library?.toList ++ before.held))
    (waits : ∀ name ∈ after.pendingLibraries, name ∈ before.pendingLibraries ∨
      operation.library? = some name ∧ result = .ok ()) :
    Accounts operation before result after := by
  have none_lost : before.lostBetween after = [] := by
    rw [lostBetween, (held.trans List.perm_append_comm).diff_left, List.diff_append,
      (diff_perm (List.Perm.of_eq (List.append_nil _).symm)).eq_nil, List.nil_diff]
  refine ⟨?_, ?_, ?_, waits⟩
  · rw [none_lost, List.append_nil]
    exact held.symm
  · intro lost
    exact absurd none_lost lost
  · rw [none_lost]
    intro name found
    cases found

omit [CompilationService σ κ] in
theorem KeepsLibraries.accounts {operation : Operation κ} {before after : Session (Logged σ)}
    {result : Except Error Unit} {world left : World κ} (unnamed : operation.library? = none)
    (keeps : KeepsLibraries (before, world) (after, left)) :
    Accounts operation before result after := by
  apply Accounts.of_none_lost
  · rw [unnamed, held, held, keeps.1, keeps.2]
    exact .refl _
  · intro name waiting
    rw [keeps.1] at waiting
    exact .inl waiting

theorem addLibrary_accounts (name : String) (session : Session (Logged σ)) (world : World κ) :
    let answer := (addLibrary name : SessionM (Logged σ) κ Unit) (session, world)
    Accounts (Operation.addLibrary (κ := κ) name) session answer.1 answer.2.1 := by
  intro answer
  have looked : answer = (if session.output.isNone then update (fun session =>
        { session with pendingLibraries := session.pendingLibraries ++ [name] })
      else request (.addLibrary name) : SessionM (Logged σ) κ Unit) (session, world) := by
    simp only [answer, addLibrary, SessionM.bind_apply, SessionM.current_apply]
  rw [looked]
  split
  · apply Accounts.of_none_lost
    · have moved : (session.pendingLibraries ++ [name]).Perm ([name] ++ session.pendingLibraries) :=
        List.perm_append_comm
      exact moved.append_right _
    · intro other waiting
      rcases List.mem_append.mp waiting with waited | new
      · exact .inl waited
      · exact .inr ⟨congrArg some (List.mem_singleton.mp new).symm, rfl⟩
  · obtain ⟨error, service, left, answered⟩ | ⟨service, left, answered⟩ :=
      SessionM.request_cases (.addLibrary name) session world
    · rw [answered]
      exact .of_none_lost List.perm_middle fun _ waiting => .inl waiting
    · rw [answered]
      exact .of_none_lost List.perm_middle fun _ waiting => .inl waiting

omit [CompilationService σ κ] in
/-- Those behind the library that was refused are lost, and no others. -/
theorem CutShort.lost {mode : OutputMode} {before after : Session (Logged σ)}
    {front behind : List String} {refused : String}
    (short : CutShort mode before after front refused behind) :
    before.held.Perm (after.held ++ behind) := by
  have asked : after.held = refused :: front.reverse ++ librariesIn before.service.log := by
    rw [held, short.emptied, short.log]
    exact congrArg (refused :: ·) (librariesIn_given _ _)
  have handed : (front ++ [refused]).Perm (refused :: front.reverse) :=
    List.perm_append_comm.trans ((List.reverse_perm front).symm.cons refused)
  calc before.held
    _ = front ++ [refused] ++ (behind ++ librariesIn before.service.log) := by
        rw [held, short.waited]
        simp
    _ ~ refused :: front.reverse ++ (librariesIn before.service.log ++ behind) :=
        handed.append List.perm_append_comm
    _ = after.held ++ behind := by rw [asked, List.append_assoc]

theorem setOutputMode_accounts (mode : OutputMode) (session : Session (Logged σ))
    (world : World κ) :
    let answer := (setOutputMode mode : SessionM (Logged σ) κ Unit) (session, world)
    Accounts (Operation.setOutputMode (κ := κ) mode) session answer.1 answer.2.1 := by
  intro answer
  obtain keeps | ⟨emptied, handed⟩ | ⟨front, refused, behind, short⟩ :=
    setOutputMode_cases mode session world
  · exact keeps.accounts rfl
  · apply Accounts.of_none_lost
    · rw [held, emptied, handed]
      exact (List.reverse_perm _).append_right _
    · intro name waiting
      rw [emptied] at waiting
      cases waiting
  · have lost : (session.lostBetween answer.2.1).Perm behind := diff_perm short.lost
    refine ⟨?_, ?_, ?_, ?_⟩
    · exact short.lost.trans (lost.symm.append_left _)
    · intro _
      exact ⟨mode, front, refused, behind, rfl, short, lost⟩
    · intro name found
      rw [short.waited]
      exact List.mem_append_right _ (List.mem_cons_of_mem _ (lost.mem_iff.mp found))
    · intro name waiting
      rw [short.emptied] at waiting
      cases waiting

/-- Every operation accounts for the libraries. -/
theorem Operation.perform_accounts (operation : Operation κ) (state : Session (Logged σ) × World κ) :
    Accounts operation state.1 (operation.perform state).1 (operation.perform state).2.1 := by
  have kept (unnamed : operation.library? = none) (other : ∀ mode, operation ≠ .setOutputMode mode) :
      Accounts operation state.1 (operation.perform state).1 (operation.perform state).2.1 :=
    (perform_keepsLibraries unnamed other state).accounts unnamed
  cases operation with
  | addLibrary name => exact addLibrary_accounts name state.1 state.2
  | setOutputMode mode => exact setOutputMode_accounts mode state.1 state.2
  | _ => exact kept rfl fun _ same => by cases same

/-! ### Runs of operations -/

/-- The libraries that operations name. -/
def namedIn (operations : List (Operation κ)) : List String :=
  operations.filterMap Operation.library?

omit [CompilationService σ κ] in
theorem namedIn_cons (operation : Operation κ) (rest : List (Operation κ)) :
    namedIn (operation :: rest) = operation.library?.toList ++ namedIn rest := by
  cases named : operation.library? with
  | none => exact List.filterMap_cons_none named
  | some name => exact List.filterMap_cons_some named

/-- The library that an operation names, if the session accepts it. -/
def Operation.accepted (operation : Operation κ) : Except Error Unit → List String
  | .ok () => operation.library?.toList
  | .error _ => []

/-- The libraries that a session accepts in the course of operations. -/
def acceptedIn : List (Operation κ) → Session σ × World κ → List String
  | [], _ => []
  | operation :: rest, state =>
      let answer := operation.perform state
      operation.accepted answer.1 ++ acceptedIn rest answer.2

/-- The libraries that a session loses in the course of operations. -/
def lostIn : List (Operation κ) → Session (Logged σ) × World κ → List String
  | [], _ => []
  | operation :: rest, state =>
      let after := (operation.perform state).2
      state.1.lostBetween after.1 ++ lostIn rest after

/-- Libraries that were held or are named are held in the end, or lost. -/
theorem performAll_balance (operations : List (Operation κ))
    (state : Session (Logged σ) × World κ) :
    (namedIn operations ++ state.1.held).Perm
      ((performAll operations state).1.held ++ lostIn operations state) := by
  induction operations generalizing state with
  | nil =>
    rw [lostIn, List.append_nil]
    exact .refl _
  | cons operation rest ih =>
    let after := (operation.perform state).2
    calc namedIn (operation :: rest) ++ state.1.held
      _ ~ namedIn rest ++ (operation.library?.toList ++ state.1.held) := by
          rw [namedIn_cons, ← List.append_assoc]
          exact List.perm_append_comm.append_right _
      _ ~ namedIn rest ++ (after.1.held ++ state.1.lostBetween after.1) :=
          (operation.perform_accounts state).balance.append_left _
      _ = namedIn rest ++ after.1.held ++ state.1.lostBetween after.1 :=
          (List.append_assoc _ _ _).symm
      _ ~ (performAll rest after).1.held ++ lostIn rest after ++ state.1.lostBetween after.1 :=
          (ih after).append_right _
      _ ~ (performAll rest after).1.held ++ (state.1.lostBetween after.1 ++ lostIn rest after) := by
          rw [List.append_assoc]
          exact List.perm_append_comm.append_left _

/-- A library that is lost waited at first, or was accepted. -/
theorem lostIn_accepted (operations : List (Operation κ)) (state : Session (Logged σ) × World κ)
    {name : String} (lost : name ∈ lostIn operations state) :
    name ∈ state.1.pendingLibraries ∨ name ∈ acceptedIn operations state := by
  induction operations generalizing state with
  | nil => cases lost
  | cons operation rest ih =>
    have accounts := operation.perform_accounts state
    rw [acceptedIn]
    rcases List.mem_append.mp lost with now | later
    · exact .inl (accounts.lost name now)
    · rcases ih (operation.perform state).2 later with waits | accepted
      · rcases accounts.waits name waits with waited | ⟨named, granted⟩
        · exact .inl waited
        · refine .inr (List.mem_append_left _ ?_)
          rw [granted, Operation.accepted, named]
          exact List.mem_singleton_self name
      · exact .inr (List.mem_append_right _ accepted)

/-- Libraries that are accepted are named. -/
theorem acceptedIn_subset (operations : List (Operation κ)) (state : Session σ × World κ) :
    acceptedIn operations state ⊆ namedIn operations := by
  induction operations generalizing state with
  | nil => exact List.Subset.refl _
  | cons operation rest ih =>
    intro name accepted
    rw [acceptedIn] at accepted
    rw [namedIn, List.mem_filterMap]
    rcases List.mem_append.mp accepted with now | later
    · refine ⟨operation, List.mem_cons_self, ?_⟩
      cases answered : (operation.perform state).1 with
      | ok granted =>
        rw [answered] at now
        exact Option.mem_toList.mp now
      | error error =>
        rw [answered] at now
        cases now
    · obtain ⟨one, among, named⟩ := List.mem_filterMap.mp (ih _ later)
      exact ⟨one, List.mem_cons_of_mem _ among, named⟩

/-- The libraries that a new session is told of are those it holds in the end and those it lost.
A library is lost only where choosing the output mode is cut short by one that is refused, and then
those are lost that waited behind it.  So every library that was accepted is held, which means that
it still waits or that the service was asked for it, just if each library that was lost is held all
the same, because it was named twice. -/
theorem libraries_kept_iff (service : σ) (world : World κ) (operations : List (Operation κ)) :
    let start := create (⟨service, []⟩ : Logged σ) world
    let reached := (performAll operations start).1
    ((∀ name ∈ acceptedIn operations start,
        name ∈ reached.pendingLibraries ∨ name ∈ librariesIn reached.service.log) ↔
      ∀ name ∈ lostIn operations start,
        name ∈ reached.pendingLibraries ∨ name ∈ librariesIn reached.service.log) ∧
    (namedIn operations).Perm (reached.held ++ lostIn operations start) ∧
    ∀ (operation : Operation κ) (before : Session (Logged σ) × World κ),
      let after := (operation.perform before).2
      before.1.lostBetween after.1 ≠ [] →
        ∃ mode front refused behind, operation = .setOutputMode mode ∧
          CutShort mode before.1 after.1 front refused behind ∧
          (before.1.lostBetween after.1).Perm behind := by
  intro start reached
  have balance : (namedIn operations).Perm (reached.held ++ lostIn operations start) := by
    have parted := performAll_balance operations start
    have none_held : start.1.held = [] := rfl
    rw [none_held, List.append_nil] at parted
    exact parted
  refine ⟨⟨?_, ?_⟩, balance, ?_⟩
  · intro kept name lost
    rcases lostIn_accepted operations start lost with waited | accepted
    · cases waited
    · exact kept name accepted
  · intro kept name accepted
    have named := acceptedIn_subset operations start accepted
    rcases List.mem_append.mp (balance.mem_iff.mp named) with here | lost
    · exact List.mem_append.mp here
    · exact kept name lost
  · intro operation before after lost
    exact (operation.perform_accounts before).cut lost

end Session

namespace Workbench

/-- Two libraries are named, the first of which the compiler refuses, and then the output mode is
chosen twice. -/
def twoLibraries : List (Session.Operation Key) :=
  [.addLibrary "zzfail", .addLibrary "m", .setOutputMode .memory, .setOutputMode .memory]

/-- The second library was accepted.  It does not wait, and the compiler was never asked for it. -/
theorem library_lost_behind_refused :
    let start := Session.create (⟨ScriptedCompiler.fresh, []⟩ : Logged ScriptedCompiler)
      (World.initial Globals.initial)
    let reached := (Session.performAll twoLibraries start).1
    "m" ∈ Session.acceptedIn twoLibraries start ∧
      ¬ ("m" ∈ reached.pendingLibraries ∨ "m" ∈ librariesIn reached.service.log) := by
  decide

end Workbench

end NativeBridge
