/-
Module: NativeBridge.Proofs.ConfiguredSessions
Purpose: What a compiler is asked for when a session is set up from a configuration, and when the
  libraries of the configuration reach it.
Main exports: Config.setupCalls, Session.configured, Session.applySettings_requests,
  Session.ofConfig_eq, Session.performAll_waits, Session.performAll_links,
  Session.ofConfig_asks
-/
import NativeBridge.Proofs.DefinitionOrder
import NativeBridge.Proofs.RegistrationLedger
import NativeBridge.Proofs.RequestsInTurn
import NativeBridge.Proofs.WaitingLibraries

namespace NativeBridge

variable {σ κ : Type} [HostProgram κ]

/-!
The calls that a configuration asks for are listed here from its settings alone.  A session is set
up by just these calls, in turn; what is left of the configuration are the libraries, which wait in
the session if no output mode is configured.
-/

namespace Config

/-- The calls that choose an output mode, with the libraries that wait for it. -/
def linkCalls (libraries : List String) : Option OutputMode → List ServiceCall
  | none => []
  | some mode => .setOutputMode mode :: libraries.map .addLibrary

/-- The calls that a configuration asks for, in order: relative directories of the project are
resolved, and libraries are asked for only behind an output mode. -/
def setupCalls (config : Config) : List ServiceCall :=
  let settings := config.project.settings
  config.libPath.toList.map .setLibPath ++
    settings.includePaths.map (fun path => .addIncludePath (config.resolve path)) ++
    settings.sysincludePaths.map (fun path => .addSysincludePath (config.resolve path)) ++
    settings.libraryPaths.map (fun path => .addLibraryPath (config.resolve path)) ++
    settings.defines.map (fun define => .defineSymbol define.1 (some define.2)) ++
    settings.options.toList.map .setOptions ++
    linkCalls settings.libraries config.output

/-- The libraries that wait if this output mode is configured. -/
def waiting (libraries : List String) : Option OutputMode → List String
  | none => libraries
  | some _ => []

/-- The calls that settings ask for before the output mode. -/
def placeCalls (settings : CompilerSection) : List ServiceCall :=
  settings.libPath.toList.map .setLibPath ++
    (settings.includePaths.map .addIncludePath ++
      (settings.sysincludePaths.map .addSysincludePath ++
        (settings.libraryPaths.map .addLibraryPath ++
          (settings.defines.map (fun define => .defineSymbol define.1 (some define.2)) ++
            settings.options.toList.map .setOptions))))

theorem setupCalls_eq (config : Config) :
    config.setupCalls =
      placeCalls config.compiler ++ linkCalls config.compiler.libraries config.output := by
  simp only [setupCalls, placeCalls, compiler, ProjectConfig.settings, List.map_map,
    List.append_assoc]
  rfl

/-- No library is asked for before the output mode, and nothing is registered. -/
theorem placeCalls_other {settings : CompilerSection} {call : ServiceCall}
    (among : call ∈ placeCalls settings) :
    (Exchange.performed call true).library? = none ∧
      (Exchange.performed call true).registration? = none := by
  simp only [placeCalls, List.mem_append, List.mem_map] at among
  obtain ⟨_, -, rfl⟩ | ⟨_, -, rfl⟩ | ⟨_, -, rfl⟩ | ⟨_, -, rfl⟩ | ⟨_, -, rfl⟩ | ⟨_, -, rfl⟩ := among
  all_goals exact ⟨rfl, rfl⟩

end Config

/-- Load a service and keep a log of what it is asked for. -/
def Logged.loading (load : String → World κ → Except Error σ × World κ) (library : String)
    (world : World κ) : Except Error (Logged σ) × World κ :=
  ((load library world).1.map fun service => ⟨service, []⟩, (load library world).2)

theorem Logged.loading_eq {load : String → World κ → Except Error σ × World κ} {library : String}
    {world loaded : World κ} {service : σ} (loads : load library world = (.ok service, loaded)) :
    Logged.loading load library world = (.ok ⟨service, []⟩, loaded) := by
  rw [Logged.loading, loads]
  rfl

namespace Session

open Config (placeCalls linkCalls waiting)

/-! ### Setting up -/

section

variable [CompilationService σ κ]

/-- While no output mode is chosen a library is noted in the session. -/
theorem addLibrary_waits (name : String) {session : Session σ} (unset : session.output = none)
    (world : World κ) :
    (addLibrary name : SessionM σ κ Unit) (session, world) =
      (.ok (), { session with pendingLibraries := session.pendingLibraries ++ [name] },
        world) := by
  rcases session with ⟨service, registry, naming, output, stage, pending, symbols, release, kept⟩
  obtain rfl : output = none := unset
  rfl

/-- Once an output mode is chosen the compiler is asked for a library at once. -/
theorem addLibrary_asks (name : String) {session : Session σ}
    (chosen : session.output.isSome = true) (world : World κ) :
    (addLibrary name : SessionM σ κ Unit) (session, world) =
      (request (.addLibrary name) : SessionM σ κ Unit) (session, world) := by
  rcases session with ⟨service, registry, naming, output, stage, pending, symbols, release, kept⟩
  obtain ⟨mode, rfl⟩ : ∃ mode, output = some mode := Option.isSome_iff_exists.mp chosen
  rfl

/-- Libraries are noted in order. -/
theorem addLibraries_wait (names : List String) {session : Session σ}
    (unset : session.output = none) (world : World κ) :
    (names.forM addLibrary : SessionM σ κ Unit) (session, world) =
      (.ok (), { session with pendingLibraries := session.pendingLibraries ++ names }, world) := by
  induction names generalizing session with
  | nil =>
    show (Except.ok (), session, world) = _
    rw [List.append_nil]
  | cons name names ih =>
    let noted : Session σ :=
      { session with pendingLibraries := session.pendingLibraries ++ [name] }
    have later : (names.forM addLibrary : SessionM σ κ Unit) (noted, world) = _ := ih unset
    rw [List.append_assoc, List.singleton_append] at later
    show (addLibrary name >>= fun _ => names.forM addLibrary : SessionM σ κ Unit)
      (session, world) = _
    rw [SessionM.bind_apply, addLibrary_waits name unset]
    exact later

/-- The settings that come before the libraries. -/
def applyPlaces (settings : Config.CompilerSection) : SessionM σ κ Unit := do
  settings.libPath.forM setLibPath
  settings.includePaths.forM addIncludePath
  settings.sysincludePaths.forM addSysincludePath
  settings.libraryPaths.forM addLibraryPath
  settings.defines.forM fun (name, value) => defineSymbol name (some value)
  settings.options.forM setOptions

theorem applySettings_eq (settings : Config.CompilerSection) (output : Option OutputMode) :
    (applySettings settings output : SessionM σ κ Unit) = (do
      applyPlaces settings
      settings.libraries.forM addLibrary
      output.forM setOutputMode) := by
  rw [applySettings, applyPlaces]
  simp only [bind_assoc]

theorem applyPlaces_requests (settings : Config.CompilerSection) :
    (applyPlaces settings : SessionM σ κ Unit).Requests (placeCalls settings) := by
  have define (define : String × String) :
      (defineSymbol define.1 (some define.2) : SessionM σ κ Unit).Requests
        [.defineSymbol define.1 (some define.2)] := .request _
  rw [applyPlaces, placeCalls]
  refine .bind (.ifGiven (fun path => .request (.setLibPath path)) settings.libPath) ?_
  refine .bind (.forM (fun path => .request (.addIncludePath path)) settings.includePaths) ?_
  refine .bind (.forM (fun path => .request (.addSysincludePath path)) settings.sysincludePaths) ?_
  refine .bind (.forM (fun path => .request (.addLibraryPath path)) settings.libraryPaths) ?_
  refine .bind (.forM define settings.defines) ?_
  exact .ifGiven (fun options => .request (.setOptions options)) settings.options

/-- Settings are applied by the calls that they ask for, in turn.  If all are granted the session
has the output mode, and the libraries wait in it if there is none. -/
theorem applySettings_requests (settings : Config.CompilerSection) (output : Option OutputMode)
    {session : Session σ} (unset : session.output = none) (empty : session.stage = .empty)
    (idle : session.pendingLibraries = []) (world : World κ) :
    let asked := askAll (placeCalls settings ++ linkCalls settings.libraries output)
      session.service world
    ComesOf asked ((applySettings settings output : SessionM σ κ Unit) (session, world))
      { session with
        service := asked.2.1
        output := output
        pendingLibraries := waiting settings.libraries output } := by
  rcases session with ⟨start, registry, naming, chosen, stage, pending, symbols, release, kept⟩
  obtain rfl : chosen = none := unset
  obtain rfl : pending = [] := idle
  intro asked
  simp only [asked]
  rw [applySettings_eq, SessionM.bind_apply, applyPlaces_requests settings, askAll_append]
  rcases askAll (placeCalls settings) start world with ⟨error | _, service, left⟩
  · exact ⟨rfl, rfl, rfl, fun granted => by cases granted⟩
  · let placed : Session σ :=
      ⟨service, registry, naming, none, stage, [], symbols, release, kept⟩
    have unset : placed.output = none := rfl
    have waits := addLibraries_wait settings.libraries unset left
    dsimp only
    rw [SessionM.bind_apply, waits]
    cases output with
    | none => exact ⟨rfl, rfl, rfl, fun _ => rfl⟩
    | some mode =>
      let ready : Session σ := { placed with pendingLibraries := settings.libraries }
      have empty : ready.stage = .empty := empty
      exact setOutputMode_requests empty mode left

/-- The session that a configuration asks for, on a service that has granted all calls. -/
def configured (config : Config) (naming : Naming.NamingRules) (registry : Nat) (service : σ) :
    Session σ :=
  ⟨service, registry, naming, config.output, .empty,
    waiting config.project.settings.libraries config.output, [], [], []⟩

/-- What a compiler that was asked for all that a configuration asks for is made into: a session, or
nothing if it refused something, and then it is given up. -/
def madeOf (config : Config) (naming : Naming.NamingRules) (registry : Nat) :
    Except Error Unit × σ × World κ → Except Error (Session σ) × World κ
  | (.ok (), service, left) => (.ok (configured config naming registry service), left)
  | (.error error, service, left) => (.error error, CompilationService.close service left)

/-- A session from a configuration comes of the calls that the configuration asks for, in turn. -/
theorem ofConfig_eq {config : Config} {load : String → World κ → Except Error σ × World κ}
    {world loaded : World κ} {service : σ} {naming : Naming.NamingRules}
    (loads : load config.library world = (.ok service, loaded))
    (accepts : Naming.NamingRules.fromConfig config.naming = .ok naming) :
    let fresh := loaded.addRegistry
    let asked := askAll config.setupCalls service fresh.2
    ofConfig config load world = madeOf config naming fresh.1 asked := by
  intro fresh asked
  let start : Session σ := (create service loaded).1.withNaming naming
  have unset : start.output = none := rfl
  have settled : ComesOf asked
      ((applySettings config.compiler config.output : SessionM σ κ Unit) (start, fresh.2))
      (configured config naming fresh.1 asked.2.1) := by
    simp only [asked, config.setupCalls_eq]
    exact applySettings_requests config.compiler config.output unset rfl rfl fresh.2
  rcases reached : (applySettings config.compiler config.output : SessionM σ κ Unit)
    ((create service loaded).1.withNaming naming, (create service loaded).2)
    with ⟨given, session, after⟩
  replace settled : ComesOf asked (given, session, after) _ := reached ▸ settled
  simp only [ofConfig, loads, accepts, reached]
  clear_value asked
  obtain ⟨error | _, last, ended⟩ := asked
  · obtain rfl : given = .error error := settled.result
    have given : session.service = last := settled.service
    obtain rfl : after = ended := settled.world
    show (Except.error error, CompilationService.close session.service after) = _
    rw [given]
    rfl
  · obtain rfl : given = .ok () := settled.result
    obtain rfl : session = _ := settled.session rfl
    obtain rfl : after = ended := settled.world
    rfl

/-! ### The output mode over time -/

/-- A transition chooses the output mode that the operation is to choose, or none. -/
theorem Transition.output {operation : Operation κ} {point reached : Point σ κ}
    (step : Transition operation point reached) :
    reached.session.output = point.session.output ∨
      ∃ mode, operation = .setOutputMode mode ∧ reached.session.output = some mode := by
  cases step with
  | chosen due => exact .inr ⟨_, due, rfl⟩
  | _ => exact .inl rfl

theorem Operation.perform_output (operation : Operation κ) (state : Session σ × World κ) :
    (operation.perform state).2.1.output = state.1.output ∨
      ∃ mode, operation = .setOutputMode mode ∧
        (operation.perform state).2.1.output = some mode := by
  obtain ⟨reached, chain, ended, -⟩ := operation.perform_chains ⟨state.1, state.2, []⟩
  rw [show (operation.perform state).2 = _ from ended]
  clear ended
  induction chain with
  | refl => exact .inl rfl
  | tail _ step ih =>
    rcases step.output with same | chosen
    · rcases ih with before | ⟨mode, due, before⟩
      · exact .inl (same.trans before)
      · exact .inr ⟨mode, due, same.trans before⟩
    · exact .inr chosen

/-- Only choosing an output mode chooses one. -/
theorem performAll_unchosen {operations : List (Operation κ)}
    (others : ∀ mode, .setOutputMode mode ∉ operations) {state : Session σ × World κ}
    (unset : state.1.output = none) : (performAll operations state).1.output = none := by
  induction operations generalizing state with
  | nil => exact unset
  | cons operation rest ih =>
    apply ih fun mode among => others mode (List.mem_cons_of_mem _ among)
    rcases operation.perform_output state with same | ⟨mode, due, -⟩
    · exact same.trans unset
    · exact absurd (due ▸ List.mem_cons_self) (others mode)

end

variable [CompilationService σ κ]

/-! ### Libraries before the output mode is chosen -/

/-- If no output mode is chosen afterwards, the libraries wait as before. -/
theorem setOutputMode_unchosen {mode : OutputMode} {session : Session (Logged σ)} {world : World κ}
    (unchosen : ((setOutputMode mode : SessionM (Logged σ) κ Unit)
      (session, world)).2.1.output = none) :
    KeepsLibraries (session, world)
      ((setOutputMode mode : SessionM (Logged σ) κ Unit) (session, world)).2 := by
  by_cases begun : session.stage ≠ .empty
  · rw [setOutputMode_locked begun]
    exact ⟨rfl, rfl⟩
  · rw [setOutputMode_eq (not_ne_iff.mp begun)] at unchosen ⊢
    have unasked : librariesIn
        (CompilationService.perform (.setOutputMode mode) session.service world).2.1.log =
          librariesIn session.service.log := rfl
    revert unasked unchosen
    rcases CompilationService.perform (.setOutputMode mode) session.service world with
      ⟨error | _, service, left⟩
    · intro _ unasked
      exact ⟨rfl, unasked⟩
    · -- A mode that was taken stays chosen, whatever becomes of the libraries.
      intro unchosen
      cases unchosen

/-- As long as no output mode is chosen an operation adds the library that it names to those that
wait, and the compiler is asked for none. -/
theorem Operation.perform_waits (operation : Operation κ) {state : Session (Logged σ) × World κ}
    (unchosen : (operation.perform state).2.1.output = none) :
    let after := (operation.perform state).2.1
    state.1.output = none ∧
      after.pendingLibraries = state.1.pendingLibraries ++ operation.library?.toList ∧
      librariesIn after.service.log = librariesIn state.1.service.log := by
  intro after
  have unset : state.1.output = none := by
    rcases operation.perform_output state with same | ⟨mode, -, chosen⟩
    · exact same.symm.trans unchosen
    · cases chosen.symm.trans unchosen
  refine ⟨unset, ?_⟩
  have kept (unnamed : operation.library? = none)
      (keeps : KeepsLibraries state (operation.perform state).2) :
      after.pendingLibraries = state.1.pendingLibraries ++ operation.library?.toList ∧
        librariesIn after.service.log = librariesIn state.1.service.log := by
    rw [unnamed, Option.toList_none, List.append_nil]
    exact keeps
  cases operation with
  | addLibrary name =>
    have waits := addLibrary_waits name unset state.2
    exact ⟨congrArg (·.2.1.pendingLibraries) waits,
      congrArg (fun answer => librariesIn answer.2.1.service.log) waits⟩
  | setOutputMode mode => exact kept rfl (setOutputMode_unchosen unchosen)
  | _ => exact kept rfl (perform_keepsLibraries rfl (fun _ same => by cases same) state)

/-- The libraries that a run of operations names wait, behind those that waited before, if no output
mode is chosen in the end. -/
theorem performAll_waits (operations : List (Operation κ)) {state : Session (Logged σ) × World κ}
    (unchosen : (performAll operations state).1.output = none) :
    let reached := (performAll operations state).1
    state.1.output = none ∧
      reached.pendingLibraries = state.1.pendingLibraries ++ namedIn operations ∧
      librariesIn reached.service.log = librariesIn state.1.service.log := by
  induction operations generalizing state with
  | nil => exact ⟨unchosen, (List.append_nil _).symm, rfl⟩
  | cons operation rest ih =>
    obtain ⟨unset, pending, log⟩ := ih unchosen
    obtain ⟨first, named, unasked⟩ := operation.perform_waits unset
    refine ⟨first, ?_, log.trans unasked⟩
    rw [namedIn_cons, ← List.append_assoc, ← named]
    exact pending

/-! ### Libraries behind the output mode -/

/-- Once an output mode is chosen no library waits, and an operation has the compiler asked for the
library that it names. -/
theorem Operation.perform_links (operation : Operation κ) {state : Session (Logged σ) × World κ}
    (accounted : state.1.Accounted) (chosen : state.1.output.isSome = true) :
    let after := (operation.perform state).2.1
    after.output.isSome = true ∧
      librariesIn after.service.log =
        operation.library?.toList ++ librariesIn state.1.service.log := by
  intro after
  have stays : after.output.isSome = true := by
    rcases operation.perform_output state with same | ⟨mode, -, again⟩
    · exact (congrArg Option.isSome same).trans chosen
    · exact congrArg Option.isSome again
  refine ⟨stays, ?_⟩
  cases operation with
  | addLibrary name =>
    have asks := addLibrary_asks name chosen state.2
    refine (congrArg (fun answer => librariesIn answer.2.1.service.log) asks).trans ?_
    obtain ⟨error, service, left, answered⟩ | ⟨service, left, answered⟩ :=
      SessionM.request_cases (.addLibrary name) state.1 state.2
    · rw [answered]
      rfl
    · rw [answered]
      rfl
  | setOutputMode mode =>
    have idle : state.1.pendingLibraries = [] := by
      by_contra waits
      rw [accounted.waiting waits] at chosen
      cases chosen
    obtain keeps | ⟨-, handed⟩ | ⟨front, refused, behind, cut⟩ :=
      setOutputMode_cases mode state.1 state.2
    · exact keeps.2
    · rw [idle] at handed
      exact handed
    · have waited := cut.waited
      rw [idle] at waited
      cases front <;> cases waited
  | _ => exact (perform_keepsLibraries rfl (fun _ same => by cases same) state).2

/-- Once an output mode is chosen the compiler is asked for the libraries that a run of operations
names, in order. -/
theorem performAll_links (operations : List (Operation κ)) {state : Session (Logged σ) × World κ}
    (accounted : state.1.Accounted) (chosen : state.1.output.isSome = true) :
    librariesIn (performAll operations state).1.service.log =
      (namedIn operations).reverse ++ librariesIn state.1.service.log := by
  induction operations generalizing state with
  | nil => rfl
  | cons operation rest ih =>
    obtain ⟨stays, asked⟩ := operation.perform_links accounted chosen
    have later := ih (operation.perform_accounted state.2 accounted) stays
    have single : operation.library?.toList.reverse = operation.library?.toList := by
      cases operation.library? <;> rfl
    rw [namedIn_cons, List.reverse_append, single, List.append_assoc, ← asked]
    exact later

/-- When the output mode is chosen the compiler is asked for it and for the libraries that wait.  If
all is granted, these are followed by the libraries that are named later. -/
theorem setOutputMode_hands {state : Session (Logged σ) × World κ} (accounted : state.1.Accounted)
    (unchosen : state.1.output = none) (unasked : librariesIn state.1.service.log = [])
    (mode : OutputMode) :
    let names := state.1.pendingLibraries
    let asked := askAll (linkCalls names (some mode)) state.1.service state.2
    let chosen := (setOutputMode mode : SessionM (Logged σ) κ Unit) state
    ComesOf asked chosen
        { state.1 with service := asked.2.1, output := some mode, pendingLibraries := [] } ∧
      (chosen.1 = .ok () → ∀ later : List (Operation κ),
        librariesIn (performAll later chosen.2).1.service.log =
          (names ++ namedIn later).reverse) := by
  intro names asked chosen
  have empty : state.1.stage = .empty := by
    by_contra begun
    have set := accounted.chosen begun
    rw [unchosen] at set
    cases set
  have comes : ComesOf asked chosen _ := setOutputMode_requests empty mode state.2
  refine ⟨comes, fun granted later => ?_⟩
  have granted : asked.1 = .ok () := comes.result.symm.trans granted
  have settled := comes.session granted
  have kept : chosen.2.1.Accounted :=
    (Operation.setOutputMode mode).perform_accounted state.2 accounted
  have set : chosen.2.1.output.isSome = true := by
    rw [settled]
    rfl
  obtain ⟨recent, inTurn, logged⟩ :=
    askAll_logged (linkCalls names (some mode)) state.1.service state.2
  have log : chosen.2.1.service.log = names.reverse.map Exchange.given ++
      .performed (.setOutputMode mode) true :: state.1.service.log := by
    have answers := congrArg (·.1) logged
    rw [show (askAll _ state.1.service state.2).1 = _ from granted] at answers
    dsimp only at answers inTurn
    rw [← answers] at inTurn
    rw [comes.service, show asked = _ from logged, inTurn.log_of_ok]
    simp [linkCalls, Exchange.given]
  have handed : librariesIn chosen.2.1.service.log = names.reverse := by
    rw [log, librariesIn_given]
    show names.reverse ++ librariesIn state.1.service.log = _
    rw [unasked, List.append_nil]
  rw [performAll_links later kept set, handed, List.reverse_append]

/-! ### Sessions from a configuration -/

section

variable {config : Config} {load : String → World κ → Except Error σ × World κ}
  {world loaded : World κ} {service : σ} {naming : Naming.NamingRules}

/-- A session from a configuration without an output mode: all libraries wait in it, and the
compiler was asked for none. -/
theorem ofConfig_unset (loads : load config.library world = (.ok service, loaded))
    (accepts : Naming.NamingRules.fromConfig config.naming = .ok naming)
    (unset : config.output = none) {session : Session (Logged σ)} {left : World κ}
    (made : ofConfig config (Logged.loading load) world = (.ok session, left)) :
    session.Accounted ∧ session.output = none ∧
      session.pendingLibraries = config.project.settings.libraries ∧
      librariesIn session.service.log = [] := by
  have calls : config.setupCalls = placeCalls config.compiler := by
    rw [config.setupCalls_eq, unset]
    exact List.append_nil _
  obtain ⟨log, inTurn, asked⟩ := askAll_logged config.setupCalls (⟨service, []⟩ : Logged σ)
    loaded.addRegistry.2
  rw [List.append_nil] at asked
  rw [ofConfig_eq (Logged.loading_eq loads) accepts, asked] at made
  dsimp only at made inTurn
  generalize askAll config.setupCalls service loaded.addRegistry.2 = plain at made inTurn
  obtain ⟨error | _, last, ended⟩ := plain
  · cases made
  · cases made
    have other {exchange : Exchange} (among : exchange ∈ log) :
        exchange.library? = none ∧ exchange.registration? = none := by
      rw [inTurn.log_of_ok, calls] at among
      obtain ⟨call, asked, rfl⟩ := List.mem_map.mp among
      exact Config.placeCalls_other (List.mem_reverse.mp asked)
    have waits : waiting config.project.settings.libraries config.output =
        config.project.settings.libraries := by
      rw [unset]
      rfl
    refine ⟨?_, unset, waits, List.filterMap_eq_nil_iff.mpr fun _ among => (other among).1⟩
    exact {
      counted := rfl
      accepted := List.filterMap_eq_nil_iff.mpr fun _ among => (other among).2
      distinct := List.nodup_nil
      identifiers := fun _ among => by cases among
      releases := List.Subset.refl _
      chosen := fun begun => absurd rfl begun
      memory := fun linked => by cases linked
      waiting := fun _ => unset }

/-- The calls that a configuration asks for are made in turn, each once, if its library loads and its
names are accepted.  The first refusal is the answer, and then the compiler is given up and nothing
else is asked.  If all are granted, the session has the output mode and the names of the
configuration; its definitions were made in rising order of their names.

Without an output mode no library reaches the compiler, whatever is done with the session, until a
mode is chosen.  Then the compiler is asked for the mode and, in turn, for the libraries of the
configuration and those that were named since.  If it grants these, it is asked later for no other
libraries than those that are named later, and always in order. -/
theorem ofConfig_asks (loads : load config.library world = (.ok service, loaded))
    (accepts : Naming.NamingRules.fromConfig config.naming = .ok naming) :
    let fresh := loaded.addRegistry
    let asked := askAll config.setupCalls service fresh.2
    let libraries := config.project.settings.libraries
    ofConfig config load world = madeOf config naming fresh.1 asked ∧
    (∃ log, InTurn config.setupCalls asked.1 log ∧
      let logged := (asked.1, (⟨asked.2.1, log⟩ : Logged σ), asked.2.2)
      askAll config.setupCalls (⟨service, []⟩ : Logged σ) fresh.2 = logged ∧
        ofConfig config (Logged.loading load) world = madeOf config naming fresh.1 logged) ∧
    (∀ (origin : Config.Origin) surroundings globalPath,
      origin.load surroundings globalPath = .ok config →
        Config.Rising config.project.settings.defines) ∧
    ∀ (session : Session (Logged σ)) (left : World κ), config.output = none →
      ofConfig config (Logged.loading load) world = (.ok session, left) →
      ∀ between : List (Operation κ),
        let reached := performAll between (session, left)
        ((∀ mode, .setOutputMode mode ∉ between) → reached.1.output = none) ∧
        (reached.1.output = none → librariesIn reached.1.service.log = [] ∧ ∀ mode,
          let asked := askAll (linkCalls (libraries ++ namedIn between) (some mode))
            reached.1.service reached.2
          let chosen := (setOutputMode mode : SessionM (Logged σ) κ Unit) reached
          ComesOf asked chosen { reached.1 with
            service := asked.2.1, output := some mode, pendingLibraries := [] } ∧
          (chosen.1 = .ok () → ∀ later : List (Operation κ),
            librariesIn (performAll later chosen.2).1.service.log =
              (libraries ++ namedIn between ++ namedIn later).reverse)) := by
  intro fresh asked libraries
  refine ⟨ofConfig_eq loads accepts, ?_, ?_, ?_⟩
  · obtain ⟨log, inTurn, same⟩ := askAll_logged config.setupCalls (⟨service, []⟩ : Logged σ) fresh.2
    rw [List.append_nil] at same
    refine ⟨log, inTurn, same, ?_⟩
    rw [ofConfig_eq (Logged.loading_eq loads) accepts, same]
  · intro origin surroundings globalPath loaded
    exact Config.Origin.load_rising loaded
  · intro session left unset made between reached
    obtain ⟨accounted, initially, waits, unasked⟩ := ofConfig_unset loads accepts unset made
    refine ⟨fun others => performAll_unchosen others initially, ?_⟩
    intro unchosen
    obtain ⟨-, pending, log⟩ := performAll_waits between unchosen
    have unasked : librariesIn reached.1.service.log = [] := log.trans unasked
    have pending : reached.1.pendingLibraries = libraries ++ namedIn between :=
      pending.trans (congrArg (· ++ _) waits)
    refine ⟨unasked, ?_⟩
    rw [← pending]
    exact setOutputMode_hands (performAll_accounted between left accounted) unchosen unasked

end

end Session

namespace Workbench

/-- A configuration with something of each sort, but no output mode. -/
def workshop : Config where
  project := ⟨some { Config.CompilerSection.empty with
      libPath := some "rt", includePaths := ["i", "/j"], sysincludePaths := ["s"],
      libraryPaths := ["l"], libraries := ["m", "c"], defines := [("A", "1"), ("B", "2")],
      options := some "-Wall" }, none⟩
  defaults := .empty
  projectRoot := some "/p"

/-- What the compiler is asked for when a session is set up in the workshop. -/
def workshopCalls : List ServiceCall :=
  [.setLibPath "/p/rt", .addIncludePath "/p/i", .addIncludePath "/j", .addSysincludePath "/p/s",
    .addLibraryPath "/p/l", .defineSymbol "A" (some "1"), .defineSymbol "B" (some "2"),
    .setOptions "-Wall"]

/-- The libraries of the workshop wait, with one that is named next, for the output mode, and one
that is named behind it follows them. -/
theorem workshop_asks :
    let world := World.initial Globals.initial
    ∃ session left,
      Session.ofConfig workshop (Logged.loading fun _ world => (.ok ScriptedCompiler.fresh, world))
        world = (.ok session, left) ∧
      session.service.log = workshopCalls.reverse.map (fun call => .performed call true) ∧
      let reached := Session.performAll [.addLibrary "n"] (session, left)
      let chosen := (Session.setOutputMode .memory : SessionM (Logged ScriptedCompiler) Key Unit) reached
      chosen.1 = .ok () ∧
      librariesIn (Session.performAll [.addLibrary "z"] chosen.2).1.service.log =
        ["z", "n", "c", "m"] := by
  intro world
  let load (_ : String) (world : World Key) : Except Error ScriptedCompiler × World Key :=
    (.ok .fresh, world)
  have loads : load workshop.library world = (.ok .fresh, world) := rfl
  have accepts : Naming.NamingRules.fromConfig workshop.naming = .ok .builtin := by decide
  have calls : workshop.setupCalls = workshopCalls := by decide
  have granted : (askAll workshop.setupCalls ScriptedCompiler.fresh world.addRegistry.2).1 =
      .ok () := by
    rfl
  obtain ⟨-, ⟨log, inTurn, -, made⟩, -, later⟩ := Session.ofConfig_asks loads accepts
  rw [granted] at inTurn made
  rw [calls] at inTurn
  obtain ⟨waits, hands⟩ := later _ _ rfl made [.addLibrary "n"]
  obtain ⟨-, hands⟩ := hands rfl
  have chosen := (hands .memory).2
  refine ⟨_, _, made, inTurn.log_of_ok, ?_, ?_⟩
  · rfl
  · exact chosen rfl [.addLibrary "z"]

end Workbench

end NativeBridge
