/-
Module: NativeBridge.Proofs.CollectedDiagnostics
Purpose: Which diagnostics are found collected when a library function comes back, and which of them
  an answer tells or is decided by.
Main exports: LibraryRun.reported, LibraryRun.run_collects, LibraryCompiler.Use,
  LibraryCompiler.leftBy, LibraryCompiler.mem_leftBy_iff,
  LibraryCompiler.answers_by_collected
-/
import NativeBridge.Proofs.LibraryTrace
import NativeBridge.Workbench.Compilers

namespace NativeBridge

variable {τ κ : Type} [HostProgram κ]

/-!
All functions of a library report to one sink, and not every service call takes out what it finds
there.  What a library function reports is therefore said of the function alone, without the sink:
the sink is then seen to hold what was left in it and, behind that, what the function reported.
-/

/-! ### Reports of one library function -/

/-- The diagnostics that a library call reports, in order. -/
def LibraryRun.reported {α : Type} :
    LibraryRun τ κ α → Option (DiagnosticHandler κ) → World κ → List Diagnostic
  | .finish _ _, _, _ => []
  | .report line rest, handler, world =>
      let diagnostic := Diagnostic.parse (Text.Utf8.decodeLossy line)
      let shown := handler.elim world fun handler => handler diagnostic world
      diagnostic :: rest.reported handler shown
  | .act step next, handler, world =>
      (next (step world).1).reported handler (step world).2

theorem DiagnosticSink.receive_eq (sink : DiagnosticSink κ) (line : List UInt8) (world : World κ) :
    sink.receive line world =
      let diagnostic := Diagnostic.parse (Text.Utf8.decodeLossy line)
      (⟨sink.collected ++ [diagnostic], sink.handler⟩,
        sink.handler.elim world fun handler => handler diagnostic world) := by
  rcases sink with ⟨collected, _ | handler⟩ <;> rfl

/-- A call adds what it reports to what was collected before, and changes nothing else of the
sink. -/
theorem LibraryRun.run_collects {α : Type} (call : LibraryRun τ κ α) (sink : DiagnosticSink κ)
    (world : World κ) :
    (call.run sink world).2.2.1 =
      ⟨sink.collected ++ call.reported sink.handler world, sink.handler⟩ := by
  induction call generalizing sink world with
  | finish answer state => rw [run, reported, List.append_nil]
  | report line rest ih =>
    rw [run, DiagnosticSink.receive_eq]
    dsimp only
    rw [ih, reported, List.append_assoc]
    rfl
  | act step next ih => exact ih _ _ _

/-- The texts of a service call that have to cross as C strings. -/
def ServiceCall.texts : ServiceCall → List String
  | .setLibPath text | .setOptions text | .addIncludePath text | .addSysincludePath text
  | .undefineSymbol text | .addFile text | .compileString text | .addLibraryPath text
  | .addLibrary text | .addSymbol text _ | .outputFile text => [text]
  | .defineSymbol name value => name :: value.toList
  | .setOutputMode _ | .relocate => []

/-- Whether a service call leaves in the sink what its library function reports. -/
def ServiceCall.leaves : ServiceCall → Bool
  | .setLibPath _ | .defineSymbol _ _ | .undefineSymbol _ => true
  | _ => false

namespace LibraryCompiler

variable [CompilerLibrary τ κ]

/-- The number that a library function would come back with. -/
def code (compiler : LibraryCompiler τ κ) (call : LibraryCall) (world : World κ) : Int32 :=
  (compiler.invoke call world).1

/-- The diagnostics that a library function would report. -/
def reports (compiler : LibraryCompiler τ κ) (call : LibraryCall) (world : World κ) :
    List Diagnostic :=
  (CompilerLibrary.call call compiler.state).reported compiler.sink.handler world

theorem invoke_collected (compiler : LibraryCompiler τ κ) (call : LibraryCall) (world : World κ) :
    (compiler.invoke call world).2.1.sink.collected =
      compiler.sink.collected ++ compiler.reports call world :=
  congrArg DiagnosticSink.collected
    (LibraryRun.run_collects (CompilerLibrary.call call compiler.state) compiler.sink world)

/-! ### Service calls -/

theorem check_eq (compiler : LibraryCompiler τ κ) (call : LibraryCall)
    (failure : List Diagnostic → Error) (world : World κ) :
    compiler.check call failure world =
      (if compiler.code call world < 0 then
          .error (failure (compiler.sink.collected ++ compiler.reports call world))
        else .ok (),
        (compiler.invoke call world).2.1.drained, (compiler.invoke call world).2.2) := by
  rw [check, code, ← invoke_collected]
  rcases compiler.invoke call world with ⟨code, after, left⟩
  dsimp only
  split <;> rfl

theorem checkOptions_eq (compiler : LibraryCompiler τ κ) (options : String) (world : World κ) :
    let call := LibraryCall.setOptions options
    compiler.checkOptions options world =
      (if (compiler.sink.collected ++ compiler.reports call world).any Diagnostic.isError then
          .error (CompileError.invalidOption options)
        else .ok (),
        (compiler.invoke call world).2.1.drained, (compiler.invoke call world).2.2) := by
  intro call
  rw [checkOptions, ← invoke_collected]
  rcases compiler.invoke call world with ⟨code, after, left⟩
  dsimp only
  split <;> rfl

omit [HostProgram κ] [CompilerLibrary τ κ] in
theorem all_isCText (texts : List String) :
    texts.all isCText = (texts.find? fun text => !isCText text).isNone := by
  rw [Bool.eq_iff_iff]
  simp

omit [CompilerLibrary τ κ] in
theorem withTexts_state (texts : List String) (compiler : LibraryCompiler τ κ) (world : World κ)
    (next : Reply τ κ) :
    (withTexts texts compiler world next).2 =
      if texts.all isCText then next.2 else (compiler, world) := by
  rw [withTexts, all_isCText]
  cases texts.find? fun text => !isCText text <;> rfl

omit [CompilerLibrary τ κ] in
theorem withTexts_single (text : String) (compiler : LibraryCompiler τ κ) (world : World κ)
    (next : Reply τ κ) :
    withTexts [text] compiler world next =
      if isCText text then next
      else (.error (CompileError.invalidArgument text), compiler, world) := by
  rw [withTexts, List.find?_cons]
  cases isCText text <;> rfl

/-- What a service call comes to, but for its answer: its library function is entered if all texts
can cross. -/
theorem perform_state (call : ServiceCall) (compiler : LibraryCompiler τ κ) (world : World κ) :
    (perform call compiler world).2 =
      if call.texts.all isCText then
        let entered := (compiler.invoke call.asLibrary world).2
        (if call.leaves then entered.1 else entered.1.drained, entered.2)
      else (compiler, world) := by
  cases call with
  | setLibPath path => exact withTexts_state ..
  | defineSymbol name value => exact withTexts_state ..
  | undefineSymbol name => exact withTexts_state ..
  | setOptions options =>
    rw [perform, withTexts_state, checkOptions_eq]
    rfl
  | setOutputMode mode =>
    rw [perform, check_eq]
    rfl
  | relocate =>
    rw [perform, check_eq]
    rfl
  | addSymbol name address =>
    have single : [name].all isCText = isCText name := by simp
    rw [perform, check_eq, ServiceCall.texts, single]
    split <;> rfl
  | addIncludePath path => rw [perform, withTexts_state, check_eq]; rfl
  | addSysincludePath path => rw [perform, withTexts_state, check_eq]; rfl
  | addFile path => rw [perform, withTexts_state, check_eq]; rfl
  | compileString source => rw [perform, withTexts_state, check_eq]; rfl
  | addLibraryPath path => rw [perform, withTexts_state, check_eq]; rfl
  | addLibrary name => rw [perform, withTexts_state, check_eq]; rfl
  | outputFile path => rw [perform, withTexts_state, check_eq]; rfl

/-- What a run of the program comes to, but for its answer. -/
theorem run_state (args : List String) (compiler : LibraryCompiler τ κ) (world : World κ) :
    (run args compiler world).2 =
      if args.all isCText then
        ((compiler.invoke (.run args) world).2.1.drained, (compiler.invoke (.run args) world).2.2)
      else (compiler, world) := by
  rw [run, all_isCText]
  cases args.find? fun text => !isCText text <;> rfl

/-! ### Uses of a compiler -/

/-- Something that happens to a compiler, or around it. -/
inductive Use (κ : Type) [HostProgram κ] where
  | perform (call : ServiceCall)
  | run (args : List String)
  | symbolAddress (name : String)
  | setDiagnosticHandler (handler : DiagnosticHandler κ)
  /-- The world changes without the compiler. -/
  | elsewhere (step : World κ → World κ)

/-- What becomes of a compiler and the world. -/
def Use.after : Use κ → LibraryCompiler τ κ × World κ → LibraryCompiler τ κ × World κ
  | perform call, (compiler, world) => (LibraryCompiler.perform call compiler world).2
  | run args, (compiler, world) => (LibraryCompiler.run args compiler world).2
  | symbolAddress name, (compiler, world) =>
      (LibraryCompiler.symbolAddress name compiler world).2
  | setDiagnosticHandler handler, (compiler, world) =>
      LibraryCompiler.setDiagnosticHandler handler compiler world
  | elsewhere step, (compiler, world) => (compiler, step world)

/-- The diagnostics that a library reports meanwhile.  It is not entered if a text cannot cross. -/
def Use.reported : Use κ → LibraryCompiler τ κ × World κ → List Diagnostic
  | perform call, (compiler, world) =>
      if call.texts.all isCText then compiler.reports call.asLibrary world else []
  | run args, (compiler, world) =>
      if args.all isCText then compiler.reports (.run args) world else []
  | symbolAddress name, (compiler, world) =>
      if isCText name then
        (CompilerLibrary.symbol name compiler.state).reported compiler.sink.handler world
      else []
  | setDiagnosticHandler _, _ | elsewhere _, _ => []

/-- Whether all diagnostics are taken out of the sink in the end. -/
def Use.takesOut : Use κ → Bool
  | perform call => call.texts.all isCText && !call.leaves
  | run args => args.all isCText
  | symbolAddress _ | setDiagnosticHandler _ | elsewhere _ => false

/-- Whether the diagnostics reported meanwhile are left in the sink: this is so of the library path,
of defining and undefining symbols and of looking addresses up. -/
def Use.leaves : Use κ → Bool
  | perform call => call.leaves
  | symbolAddress _ => true
  | run _ | setDiagnosticHandler _ | elsewhere _ => false

/-- One use adds what is reported meanwhile to what was collected before, or takes all out. -/
theorem Use.after_collected (use : Use κ) (state : LibraryCompiler τ κ × World κ) :
    (use.after state).1.sink.collected =
      if use.takesOut then [] else state.1.sink.collected ++ use.reported state := by
  obtain ⟨compiler, world⟩ := state
  cases use with
  | perform call =>
    rw [after, perform_state, takesOut, reported]
    cases call.texts.all isCText with
    | false => simp
    | true =>
      cases leaves : call.leaves with
      | true => simpa [leaves] using invoke_collected compiler call.asLibrary world
      | false => rfl
  | run args =>
    rw [after, run_state, takesOut, reported]
    cases args.all isCText with
    | false => simp
    | true => rfl
  | symbolAddress name =>
    rw [after, LibraryCompiler.symbolAddress, takesOut, reported]
    cases isCText name with
    | false => simp
    | true =>
      have collects := LibraryRun.run_collects (CompilerLibrary.symbol name compiler.state)
        compiler.sink world
      exact congrArg DiagnosticSink.collected collects
  | setDiagnosticHandler handler => exact (List.append_nil _).symm
  | elsewhere step => exact (List.append_nil _).symm

/-- What is reported is taken out at once, unless it is left. -/
theorem Use.takesOut_of_reported {use : Use κ} {state : LibraryCompiler τ κ × World κ}
    {diagnostic : Diagnostic} (reports : diagnostic ∈ use.reported state) :
    use.takesOut = !use.leaves := by
  cases use with
  | perform call =>
    rw [reported] at reports
    split at reports
    · rename_i crossed
      rw [takesOut, leaves, crossed, Bool.true_and]
    · cases reports
  | run args =>
    rw [reported] at reports
    split at reports
    · assumption
    · cases reports
  | symbolAddress name => rfl
  | setDiagnosticHandler handler => cases reports
  | elsewhere step => cases reports

/-! ### Runs -/

/-- What becomes of a compiler and the world in the course of uses. -/
def useAll (uses : List (Use κ)) (state : LibraryCompiler τ κ × World κ) :
    LibraryCompiler τ κ × World κ :=
  uses.foldl (fun state use => use.after state) state

/-- The diagnostics that are reported in the course of uses and never taken out. -/
def leftBy : List (Use κ) → LibraryCompiler τ κ × World κ → List Diagnostic
  | [], _ => []
  | use :: rest, state =>
      (if (use :: rest).any Use.takesOut then [] else use.reported state) ++
        leftBy rest (use.after state)

/-- What is collected in the end was reported in the course of the uses and never taken out, or is
there from the start because nothing was ever taken out. -/
theorem useAll_collected (uses : List (Use κ)) (state : LibraryCompiler τ κ × World κ) :
    (useAll uses state).1.sink.collected =
      (if uses.any Use.takesOut then [] else state.1.sink.collected) ++ leftBy uses state := by
  induction uses generalizing state with
  | nil => exact (List.append_nil _).symm
  | cons use rest ih =>
    have later := ih (use.after state)
    rw [use.after_collected] at later
    rw [leftBy, List.any_cons]
    refine later.trans ?_
    cases rest.any Use.takesOut with
    | true => simp
    | false => cases use.takesOut <;> simp

/-- The diagnostics that are never taken out are those that some use reports and leaves, and that
no later use takes out. -/
theorem mem_leftBy_iff (uses : List (Use κ)) (state : LibraryCompiler τ κ × World κ)
    (diagnostic : Diagnostic) :
    diagnostic ∈ leftBy uses state ↔
      ∃ front use back, uses = front ++ use :: back ∧ use.leaves = true ∧
        diagnostic ∈ use.reported (useAll front state) ∧ back.any Use.takesOut = false := by
  induction uses generalizing state with
  | nil => simp [leftBy]
  | cons first rest ih =>
    rw [leftBy, List.mem_append, ih]
    constructor
    · rintro (now | ⟨front, use, back, parted, leaves, reports, kept⟩)
      · split at now
        · cases now
        · rename_i never
          rw [List.any_cons, Bool.or_eq_true, not_or, Bool.not_eq_true, Bool.not_eq_true] at never
          have taken := Use.takesOut_of_reported now
          rw [never.1] at taken
          exact ⟨[], first, rest, rfl, by simpa using taken.symm, now, never.2⟩
      · exact ⟨first :: front, use, back, by rw [parted]; rfl, leaves, reports, kept⟩
    · rintro ⟨front, use, back, parted, leaves, reports, kept⟩
      cases front with
      | nil =>
        obtain ⟨rfl, rfl⟩ := List.cons.inj parted
        refine .inl ?_
        have taken := Use.takesOut_of_reported reports
        rw [List.any_cons, kept, taken, leaves]
        exact reports
      | cons one front =>
        obtain ⟨rfl, rfl⟩ := List.cons.inj parted
        exact .inr ⟨front, use, back, rfl, leaves, reports, kept⟩

/-! ### Answers -/

/-- Nothing is collected in the beginning, so what is left by uses is all that is found later. -/
theorem useAll_empty_collected (state : τ) (world : World κ) (uses : List (Use κ)) :
    (useAll uses ((⟨state, .empty⟩ : LibraryCompiler τ κ), world)).1.sink.collected =
      leftBy uses ((⟨state, .empty⟩ : LibraryCompiler τ κ), world) := by
  rw [useAll_collected]
  exact congrArg (· ++ _) (ite_self _)

/-- Whatever has been done with a compiler, a compilation or linking that the library fails with a
negative number is told with the diagnostics that were left collected and, behind them, those that
the library reports meanwhile, and options are refused just if an error is among these.  Only the
library path, the definition and undefinition of symbols and the lookup of addresses leave
diagnostics, and these stay as long as nothing else is asked for that takes them out. -/
theorem answers_by_collected (state : τ) (world : World κ) (uses : List (Use κ)) :
    let start : LibraryCompiler τ κ × World κ := (⟨state, .empty⟩, world)
    let reached := useAll uses start
    let answer (call : ServiceCall) := (perform call reached.1 reached.2).1
    let fails (call : LibraryCall) := reached.1.code call reached.2 < 0
    let found (call : LibraryCall) := leftBy uses start ++ reached.1.reports call reached.2
    (∀ path, answer (.addFile path) =
      if isCText path then
        if fails (.addFile path) then .error (CompileError.failed (found (.addFile path)))
        else .ok ()
      else .error (CompileError.invalidArgument path)) ∧
    (∀ source, answer (.compileString source) =
      if isCText source then
        if fails (.compileString source) then
          .error (CompileError.failed (found (.compileString source)))
        else .ok ()
      else .error (CompileError.invalidArgument source)) ∧
    (answer .relocate =
      if fails .relocate then .error (LinkError.relocationFailed (found .relocate)) else .ok ()) ∧
    (∀ options, answer (.setOptions options) =
      if isCText options then
        if (found (.setOptions options)).any Diagnostic.isError then
          .error (CompileError.invalidOption options)
        else .ok ()
      else .error (CompileError.invalidArgument options)) ∧
    ∀ diagnostic, diagnostic ∈ leftBy uses start ↔
      ∃ front use back, uses = front ++ use :: back ∧ use.leaves = true ∧
        diagnostic ∈ use.reported (useAll front start) ∧ back.any Use.takesOut = false := by
  intro start reached answer fails found
  have collected : reached.1.sink.collected = leftBy uses start :=
    useAll_empty_collected state world uses
  refine ⟨fun path => ?_, fun source => ?_, ?_, fun options => ?_, mem_leftBy_iff uses start⟩
  · simp only [answer, perform, withTexts_single, check_eq, collected]
    split <;> rfl
  · simp only [answer, perform, withTexts_single, check_eq, collected]
    split <;> rfl
  · simp only [answer, perform, check_eq, collected]
    rfl
  · simp only [answer, perform, withTexts_single, checkOptions_eq, collected]
    split <;> rfl

end LibraryCompiler

namespace Workbench

open LibraryCompiler

/-- Defining a symbol reports an error. -/
def noisyDefinition : List (Use Key) :=
  [.perform (.defineSymbol "A\n@diag error: left over" none)]

/-- Neither the options nor the compilation report anything.  The options are refused all the same,
and the compilation that fails is told with what the definition had reported. -/
theorem leftover_told :
    let start : LibraryCompiler ScriptedCompiler Key × World Key :=
      (⟨.fresh, .empty⟩, World.initial Globals.initial)
    let reached := useAll noisyDefinition start
    reached.1.reports (.setOptions "-Wall") reached.2 = [] ∧
      (perform (.setOptions "-Wall") reached.1 reached.2).1 =
        .error (CompileError.invalidOption "-Wall") ∧
      reached.1.reports (.compileString "zzfail") reached.2 = [] ∧
      (perform (.compileString "zzfail") reached.1 reached.2).1 =
        .error (CompileError.failed [.plain .error "left over"]) := by
  intro start reached
  have left : reached.1.sink.collected = [.plain .error "left over"] := by decide +kernel
  have quietOptions : reached.1.reports (.setOptions "-Wall") reached.2 = [] := by decide +kernel
  have quietSource : reached.1.reports (.compileString "zzfail") reached.2 = [] := by
    decide +kernel
  have fails : reached.1.code (.compileString "zzfail") reached.2 < 0 := by decide +kernel
  refine ⟨quietOptions, ?_, quietSource, ?_⟩
  · rw [perform, withTexts_single, checkOptions_eq, left, quietOptions]
    rfl
  · rw [perform, withTexts_single, check_eq, left, quietSource, if_pos fails]
    rfl

end Workbench

end NativeBridge
