/-
Module: NativeBridge.Proofs.OutputModeLock
Purpose: When the output mode of a session can still be chosen.
Main exports: Session.setOutputMode_asks, Session.performAll_log, Session.Lawful.mode_unasked,
  Session.mode_locked_iff_compiled
-/
import NativeBridge.Proofs.SessionTransitions
import NativeBridge.Workbench.Compilers

namespace NativeBridge

variable {σ κ : Type} [HostProgram κ]

/-!
The stage of a session tells whether something was compiled, and choosing the output mode looks at
the stage alone.  A compilation that fails leaves the stage as it is.  So the mode is locked once some
compilation has succeeded, and stays open however many have been tried and have failed.
-/

namespace Session

variable [CompilationService σ κ]

/-! ### One choice of the mode -/

/-- While nothing is compiled the compiler is asked for the mode first of all. -/
theorem setOutputMode_asks {session : Session (Logged σ)} (empty : session.stage = .empty)
    (mode : OutputMode) (world : World κ) :
    ∃ recent accepted, ((setOutputMode mode : SessionM (Logged σ) κ Unit)
      (session, world)).2.1.service.log =
        recent ++ .performed (.setOutputMode mode) accepted :: session.service.log := by
  rw [setOutputMode_open empty, SessionM.bind_apply]
  obtain ⟨error, service, left, answered⟩ | ⟨service, left, answered⟩ :=
    SessionM.request_cases (.setOutputMode mode) session world
  · rw [answered]
    exact ⟨[], false, rfl⟩
  · rw [answered]
    dsimp only
    rw [SessionM.bind_apply, SessionM.current_apply]
    dsimp only
    rw [SessionM.bind_apply]
    -- The libraries that waited are handed over after the mode was taken.
    let chosen : Session (Logged σ) :=
      { session with
        service := ⟨service, .performed (.setOutputMode mode) true :: session.service.log⟩
        output := some mode
        pendingLibraries := [] }
    have handed : (session.pendingLibraries.forM fun library => request (.addLibrary library) :
        SessionM (Logged σ) κ Unit).KeepsAt chosen left :=
      .forM (fun library => request_free (addLibrary_isFree library)) _ _ _
    obtain ⟨recent, log⟩ := handed.log
    exact ⟨recent, true, log⟩

/-! ### Runs of operations -/

/-- The log of a service only grows. -/
theorem performAll_log (operations : List (Operation κ)) (state : Session (Logged σ) × World κ) :
    ∃ recent, (performAll operations state).1.service.log = recent ++ state.1.service.log := by
  induction operations generalizing state with
  | nil => exact ⟨[], rfl⟩
  | cons operation rest ih =>
    obtain ⟨first, asked⟩ := (operation.perform_orderly state.1 state.2).log
    obtain ⟨later, more⟩ := ih (operation.perform state).2
    exact ⟨later ++ first, by rw [List.append_assoc, ← asked]; exact more⟩

omit [CompilationService σ κ] in
/-- The stage of a lawful session tells whether something was compiled. -/
theorem Lawful.empty_iff {session : Session (Logged σ)} (lawful : session.Lawful) :
    session.stage = .empty ↔ ¬ CompiledIn session.service.log := by
  constructor
  · intro stage
    have fits := lawful.stage
    rw [stage] at fits
    exact fits.1
  · intro uncompiled
    by_contra begun
    exact uncompiled (lawful.compiled begun)

/-- After something was compiled the compiler is never asked for a mode again. -/
theorem Lawful.mode_unasked {before after : Session (Logged σ)} (lawful : after.Lawful)
    (compiled : CompiledIn before.service.log) {recent : List Exchange}
    (grown : after.service.log = recent ++ before.service.log) (mode : OutputMode)
    (accepted : Bool) : .performed (.setOutputMode mode) accepted ∉ recent := by
  intro asked
  obtain ⟨later, earlier, rfl⟩ := List.append_of_mem asked
  rw [List.append_assoc, List.cons_append] at grown
  obtain ⟨uncompiled, -⟩ := lawful.inOrder.timely grown
  obtain ⟨exchange, among, compiles⟩ := compiled
  exact uncompiled ⟨exchange, List.mem_append_right _ among, compiles⟩

/-- Whatever operations are performed on a new session, its output mode is locked just if something
was compiled: then choosing a mode is refused and changes nothing, and whatever is done afterwards
the compiler is never asked for a mode again.  As long as nothing was compiled, though compilations
may have been tried and have failed, the compiler is asked for every mode that is chosen. -/
theorem mode_locked_iff_compiled (service : σ) (world : World κ) (operations : List (Operation κ)) :
    let reached := performAll operations (create (⟨service, []⟩ : Logged σ) world)
    let log := reached.1.service.log
    (∀ mode, (setOutputMode mode : SessionM (Logged σ) κ Unit) reached =
      (.error CompileError.outputModeLocked, reached) ↔ CompiledIn log) ∧
    (CompiledIn log → ∀ more, ∃ recent,
      (performAll more reached).1.service.log = recent ++ log ∧
        ∀ mode accepted, .performed (.setOutputMode mode) accepted ∉ recent) ∧
    (¬ CompiledIn log → ∀ mode, ∃ recent accepted,
      ((setOutputMode mode : SessionM (Logged σ) κ Unit) reached).2.1.service.log =
        recent ++ .performed (.setOutputMode mode) accepted :: log) ∧
    performAll operations (create service world) = (reached.1.dropLog, reached.2) := by
  intro reached log
  have lawful : reached.1.Lawful := lawful_performAll operations (create_lawful service world) _
  have empty : reached.1.stage = .empty ↔ ¬ CompiledIn log := lawful.empty_iff
  refine ⟨fun mode => ⟨?_, ?_⟩, ?_, ?_, ?_⟩
  · intro refused
    by_contra uncompiled
    obtain ⟨recent, accepted, asked⟩ := setOutputMode_asks (empty.mpr uncompiled) mode reached.2
    have kept := congrArg (fun answer => answer.2.1.service.log) refused
    have long := congrArg List.length (kept.symm.trans asked)
    simp at long
    omega
  · intro compiled
    exact setOutputMode_locked (fun stage => empty.mp stage compiled) mode reached.2
  · intro compiled more
    obtain ⟨recent, grown⟩ := performAll_log more reached
    have later : (performAll more reached).1.Lawful := lawful_performAll more lawful _
    exact ⟨recent, grown, later.mode_unasked compiled grown⟩
  · intro uncompiled mode
    exact setOutputMode_asks (empty.mpr uncompiled) mode reached.2
  · exact performAll_agrees operations (create (⟨service, []⟩ : Logged σ) world).1 _

end Session

namespace Workbench

/-- The first compilation fails. -/
def failedStart : List (Session.Operation Key) :=
  [.setOutputMode .memory, .compileString "zzfail"]

/-- The compiler was asked to compile and is asked for another mode afterwards, which it takes. -/
theorem mode_changed_after_failure :
    let reached := Session.performAll failedStart
      (Session.create (⟨ScriptedCompiler.fresh, []⟩ : Logged ScriptedCompiler)
        (World.initial Globals.initial))
    let answer := (Session.setOutputMode .obj : SessionM (Logged ScriptedCompiler) Key Unit) reached
    .performed (.compileString "zzfail") false ∈ reached.1.service.log ∧
      answer.1.isOk = true ∧
      answer.2.1.service.log =
        .performed (.setOutputMode .obj) true :: reached.1.service.log ∧
      reached.1.output = some .memory ∧ answer.2.1.output = some .obj := by
  decide

end Workbench

end NativeBridge
