/-
Module: NativeBridge.Proofs.HollowRuns
Purpose: When a run that the library never enters changes the session, and when a name is looked up
  in a library that was neither told to link nor to run.
Main exports: LinkedBy, Session.HollowAt, Session.run_enters, Session.Operation.perform_fits,
  Session.lookups_linked
-/
import NativeBridge.Proofs.LibraryTrace
import NativeBridge.Proofs.SessionTransitions
import NativeBridge.Workbench.Compilers

namespace NativeBridge

open Relation (ReflTransGen)

variable {τ κ : Type} [HostProgram κ]

/-!
A session lets a run pass when something is compiled for memory and nothing is linked.  The library
is not entered all the same if one of the arguments holds a NUL.  Such a run is hollow: it fails,
nothing was linked, and the session counts as linked from then on.  All other runs that fail before
the library is entered leave the session as it is.
-/

/-- The library was told to link, or to run. -/
def LinkedBy (trace : List LibraryEvent) : Prop :=
  ∃ event ∈ trace, event = .called .relocate ∨ ∃ args, event = .called (.run args)

theorem linkedBy_cons {event : LibraryEvent} {trace : List LibraryEvent} (linked : LinkedBy trace) :
    LinkedBy (event :: trace) := by
  rcases linked with ⟨one, found, links⟩
  exact ⟨one, List.mem_cons_of_mem _ found, links⟩

/-- Names were looked up only after the library was told to link, or to run. -/
def LookupsLinked (trace : List LibraryEvent) : Prop :=
  ∀ later name earlier, trace = later ++ .lookedUp name :: earlier → LinkedBy earlier

theorem lookupsLinked_cons {event : LibraryEvent} {trace : List LibraryEvent}
    (linked : LookupsLinked trace) (first : ∀ name, event = .lookedUp name → LinkedBy trace) :
    LookupsLinked (event :: trace) := by
  intro later name earlier parted
  cases later with
  | nil =>
    obtain ⟨rfl, rfl⟩ := List.cons.inj parted
    exact first name rfl
  | cons one later =>
    obtain ⟨-, parted⟩ := List.cons.inj parted
    exact linked later name earlier parted

namespace Session

/-! ### One run -/

/-- A run passes the session but cannot cross to the library. -/
def HollowAt {σ : Type} (session : Session σ) (args : List String) : Prop :=
  session.Ready ∧ ∃ text ∈ args, LibraryCompiler.isCText text = false

variable [CompilerLibrary τ κ] {session : Session (LibraryCompiler (Traced τ) κ)}

/-- A run does not pass the session, or it is hollow, or the library is entered. -/
theorem run_enters (session : Session (LibraryCompiler (Traced τ) κ)) (world : World κ)
    (args : List String) :
    let answer := (run args : SessionM (LibraryCompiler (Traced τ) κ) κ Int32) (session, world)
    (¬ session.Ready ∧ ∃ error, answer = (.error error, session, world)) ∨
    (session.HollowAt args ∧ ∃ text ∈ args, LibraryCompiler.isCText text = false ∧
      answer = (.error (CompileError.invalidArgument text), { session with stage := .relocated },
        world)) ∨
    (session.Ready ∧ (∀ text ∈ args, LibraryCompiler.isCText text = true) ∧
      answer.2.1.service.trace = .called (.run args) :: session.service.trace) := by
  by_cases ready : session.Ready
  · have ran := run_ready ready args world
    obtain ⟨text, among, uncrossing, refused⟩ | ⟨crossing, entered⟩ :=
      session.service.run_cases { world with pending := none } args
    · refine .inr (.inl ⟨⟨ready, text, among, uncrossing⟩, text, among, uncrossing, ?_⟩)
      rw [ran]
      simp only [CompilationService.run, refused]
      rfl
    · refine .inr (.inr ⟨ready, crossing, ?_⟩)
      rw [ran]
      exact entered
  · exact .inl ⟨ready, run_unready ready args world⟩

/-- A hollow run fails, and the session counts as linked. -/
theorem HollowAt.run {args : List String} (hollow : session.HollowAt args) (world : World κ) :
    ∃ error, (Session.run args : SessionM (LibraryCompiler (Traced τ) κ) κ Int32)
      (session, world) = (.error error, { session with stage := .relocated }, world) := by
  obtain ⟨unready, -⟩ | ⟨-, text, -, -, failed⟩ | ⟨-, crosses, -⟩ := session.run_enters world args
  · exact absurd hollow.1 unready
  · exact ⟨_, failed⟩
  · obtain ⟨-, text, among, uncrossing⟩ := hollow
    rw [crosses text among] at uncrossing
    cases uncrossing

/-! ### Operations -/

/-- A session that counts as linked only if its library was told to link or to run, and that has
looked names up only then. -/
structure Fits (session : Session (LibraryCompiler (Traced τ) κ)) : Prop where
  linked : session.stage = .relocated → LinkedBy session.service.trace
  lookups : LookupsLinked session.service.trace

variable {operation : Operation κ} {point reached : Point (LibraryCompiler (Traced τ) κ) κ}

/-- The library is entered when it is asked for something, or else the call is refused. -/
theorem Point.asked_trace (point : Point (LibraryCompiler (Traced τ) κ) κ) (call : ServiceCall) :
    (point.asked call).session.service.trace =
        .called call.asLibrary :: point.session.service.trace ∨
      (point.asked call).session.service.trace = point.session.service.trace ∧
        ¬ point.Grants call := by
  obtain entered | ⟨same, error, refused⟩ :=
    (LibraryCompiler.perform_carried point.session.service point.world call).trace
  · exact .inl entered
  · refine .inr ⟨same, ?_⟩
    rw [Point.Grants]
    intro granted
    cases refused.symm.trans granted

/-- A session still fits after something was asked for, at any stage that fits. -/
theorem Fits.asked (fits : point.session.Fits) (call : ServiceCall)
    {after : Session (LibraryCompiler (Traced τ) κ)}
    (service : after.service = (point.asked call).session.service)
    (linked : after.stage = .relocated → point.session.stage = .relocated ∨
      call = .relocate ∧ point.Grants call) : after.Fits := by
  constructor
  · intro stage
    rw [service]
    obtain entered | ⟨same, refused⟩ := point.asked_trace call
    · rw [entered]
      rcases linked stage with before | ⟨rfl, -⟩
      · exact linkedBy_cons (fits.linked before)
      · exact ⟨_, List.mem_cons_self, .inl rfl⟩
    · rw [same]
      rcases linked stage with before | ⟨-, granted⟩
      · exact fits.linked before
      · exact absurd granted refused
  · rw [service]
    obtain entered | ⟨same, -⟩ := point.asked_trace call
    · rw [entered]
      exact lookupsLinked_cons fits.lookups fun _ same => by cases same
    · rw [same]
      exact fits.lookups

/-- Every transition keeps a session fitting, if the arguments of a run can cross. -/
theorem Transition.fits (step : Transition operation point reached)
    (crossing : ∀ args, operation = .run args → ∀ text ∈ args, LibraryCompiler.isCText text = true)
    (fits : point.session.Fits) : reached.session.Fits := by
  cases step with
  | named | elsewhere | typed | placed | released | handled | waits | noted =>
    exact ⟨fits.linked, fits.lookups⟩
  | @asked call => exact fits.asked call rfl .inl
  | @chosen mode due empty => exact fits.asked (.setOutputMode mode) rfl .inl
  | @compiled call => exact fits.asked call rfl fun same => by cases same
  | @registered name address => exact fits.asked (.addSymbol name address) rfl .inl
  | relocated due ready grants => exact fits.asked .relocate rfl fun _ => .inr ⟨rfl, grants⟩
  | @ran args due ready =>
    obtain ⟨text, among, uncrossing, -⟩ | ⟨-, entered⟩ :=
      point.session.service.run_cases { point.world with pending := none } args
    · rw [crossing args due text among] at uncrossing
      cases uncrossing
    · have trace : ((point.ran args).update fun session =>
          { session with stage := .relocated }).session.service.trace =
          .called (.run args) :: point.session.service.trace := entered
      constructor
      · intro _
        rw [trace]
        exact ⟨_, List.mem_cons_self, .inr ⟨args, rfl⟩⟩
      · rw [trace]
        exact lookupsLinked_cons fits.lookups fun _ same => by cases same
  | lookedUp name due linked =>
    have trace : (point.lookedUp name).session.service.trace =
        if LibraryCompiler.isCText name then .lookedUp name :: point.session.service.trace
        else point.session.service.trace :=
      point.session.service.symbolAddress_trace point.world name
    have before := fits.linked linked
    constructor
    · intro _
      rw [trace]
      split
      · exact linkedBy_cons before
      · exact before
    · rw [trace]
      split
      · exact lookupsLinked_cons fits.lookups fun _ _ => before
      · exact fits.lookups

/-- An operation keeps a session fitting unless it is a hollow run and the library was not told to
link or to run before. -/
theorem Operation.perform_fits (operation : Operation κ)
    {session : Session (LibraryCompiler (Traced τ) κ)} (world : World κ) (fits : session.Fits)
    (solid : ∀ args, operation = .run args → session.HollowAt args →
      LinkedBy session.service.trace) :
    (operation.perform (session, world)).2.1.Fits := by
  by_cases crossing :
      ∀ args, operation = .run args → ∀ text ∈ args, LibraryCompiler.isCText text = true
  · obtain ⟨reached, chain, state, -⟩ := operation.perform_chains ⟨session, world, []⟩
    rw [state]
    clear state
    induction chain with
    | refl => exact fits
    | tail _ step ih => exact step.fits crossing ih
  · -- The operation is a run with an argument that cannot cross.
    cases operation with
    | run args =>
      have performed := SessionM.then_pure_state
        (Session.run args : SessionM (LibraryCompiler (Traced τ) κ) κ Int32) () (session, world)
      rw [Operation.perform, performed]
      obtain ⟨-, error, refused⟩ | ⟨hollow, text, -, -, failed⟩ | ⟨-, crosses, -⟩ :=
        session.run_enters world args
      · rw [refused]
        exact fits
      · rw [failed]
        exact ⟨fun _ => solid args rfl hollow, fits.lookups⟩
      · refine absurd ?_ crossing
        rintro _ ⟨⟩
        exact crosses
    | _ => exact absurd (fun _ same => by cases same) crossing

/-- A session keeps fitting as long as no run is hollow. -/
theorem performAll_fits (operations : List (Operation κ))
    {session : Session (LibraryCompiler (Traced τ) κ)} (world : World κ) (fits : session.Fits)
    (solid : ∀ before args after, operations = before ++ .run args :: after →
      let there := (performAll before (session, world)).1
      there.HollowAt args → LinkedBy there.service.trace) :
    (performAll operations (session, world)).1.Fits := by
  induction operations generalizing session world with
  | nil => exact fits
  | cons operation rest ih =>
    have first := operation.perform_fits world fits fun args same =>
      solid [] args rest (congrArg (· :: rest) same)
    apply ih _ first
    intro before args after parted
    exact solid (operation :: before) args after (congrArg (operation :: ·) parted)

/-- A run that ends before the library is entered leaves the session as it is, unless it is hollow,
and then the session counts as linked.  As long as no run is hollow, a name is looked up only in a
library that was told to link or to run; after a hollow run, a name is looked up at once.  This
holds for any library; that the library keeps a trace makes no difference. -/
theorem lookups_linked (state : τ) (world : World κ) (operations : List (Operation κ)) :
    let start := create (⟨⟨state, []⟩, .empty⟩ : LibraryCompiler (Traced τ) κ) world
    let reached := performAll operations start
    (∀ (session : Session (LibraryCompiler (Traced τ) κ)) (world : World κ) (args : List String),
      let answer := (run args : SessionM (LibraryCompiler (Traced τ) κ) κ Int32) (session, world)
      (¬ session.Ready ∧ ∃ error, answer = (.error error, session, world)) ∨
      (session.HollowAt args ∧ ∃ text ∈ args, LibraryCompiler.isCText text = false ∧
        answer = (.error (CompileError.invalidArgument text),
          { session with stage := .relocated }, world)) ∨
      (session.Ready ∧ (∀ text ∈ args, LibraryCompiler.isCText text = true) ∧
        answer.2.1.service.trace = .called (.run args) :: session.service.trace)) ∧
    ((∀ before args after, operations = before ++ .run args :: after →
        let there := (performAll before start).1
        there.HollowAt args → LinkedBy there.service.trace) →
      LookupsLinked reached.1.service.trace) ∧
    (∀ args name, reached.1.HollowAt args → LibraryCompiler.isCText name = true →
      (performAll [.run args, .symbolAddress name] reached).1.service.trace =
        .lookedUp name :: reached.1.service.trace) ∧
    performAll operations (create (⟨state, .empty⟩ : LibraryCompiler τ κ) world) =
      (reached.1.mapService LibraryCompiler.dropTrace, reached.2) := by
  intro start reached
  have fresh : start.1.Fits := by
    constructor
    · intro linked
      cases linked
    · intro later name earlier parted
      cases later <;> cases parted
  refine ⟨run_enters, ?_, ?_, ?_⟩
  · intro solid
    exact (performAll_fits operations _ fresh solid).lookups
  · intro args name hollow crosses
    obtain ⟨error, failed⟩ := hollow.run reached.2
    have ran := SessionM.then_pure_state
      (Session.run args : SessionM (LibraryCompiler (Traced τ) κ) κ Int32) () reached
    have looked := SessionM.then_pure_state
      (Session.symbolAddress name : SessionM (LibraryCompiler (Traced τ) κ) κ UInt64) ()
      ({ reached.1 with stage := .relocated }, reached.2)
    have trace := reached.1.service.symbolAddress_trace reached.2 name
    rw [if_pos crosses] at trace
    rw [failed] at ran
    rw [performAll, List.foldl_cons, List.foldl_cons, List.foldl_nil, Operation.perform, ran,
      Operation.perform, looked, SessionM.symbolAddress_apply name rfl]
    exact trace
  · exact performAll_along LibraryCompiler.dropTrace_serviceMap operations start.1 start.2

end Session

namespace Workbench

open Session

/-- A session on a library that keeps a trace, in which something is compiled for memory. -/
def compiledForMemory :
    Session (LibraryCompiler (Traced ScriptedCompiler) Key) × World Key :=
  performAll [.setOutputMode .memory, .compileString "int main(void);"]
    (create ⟨⟨.fresh, []⟩, .empty⟩ (World.initial Globals.initial))

/-- The session after a run with an argument that holds a NUL. -/
def ranHollow : Session (LibraryCompiler (Traced ScriptedCompiler) Key) × World Key :=
  performAll [.run ["a\x00b"]] compiledForMemory

/-- The run fails and the library is not entered, but linking, which would be granted, is refused
after it.  A name is looked up all the same, in a library that was only told to compile. -/
theorem hollow_run_links :
    let compiled := compiledForMemory
    let ran : SessionM (LibraryCompiler (Traced ScriptedCompiler) Key) Key Int32 := run ["a\x00b"]
    let link : SessionM (LibraryCompiler (Traced ScriptedCompiler) Key) Key Unit := relocate
    (ran compiled).1 = .error (CompileError.invalidArgument "a\x00b") ∧
      ranHollow.1.service.trace = compiled.1.service.trace ∧
      (link compiled).1 = .ok () ∧ (link ranHollow).1 = .error (.link .alreadyRelocated) ∧
      (performAll [.symbolAddress "main"] ranHollow).1.service.trace =
        [.lookedUp "main", .called (.compileString "int main(void);"), .called (.setOutputType 1)] ∧
      ¬ LookupsLinked (performAll [.symbolAddress "main"] ranHollow).1.service.trace := by
  refine ⟨rfl, rfl, rfl, rfl, rfl, ?_⟩
  intro linked
  obtain ⟨event, found, links⟩ := linked [] "main"
    [.called (.compileString "int main(void);"), .called (.setOutputType 1)] rfl
  have other : ∀ one ∈ ([.called (.compileString "int main(void);"),
      .called (.setOutputType 1)] : List LibraryEvent),
      one ≠ .called .relocate ∧ ∀ args, one ≠ .called (.run args) := by simp
  rcases links with links | ⟨args, links⟩
  · exact (other event found).1 links
  · exact (other event found).2 args links

end Workbench

end NativeBridge
