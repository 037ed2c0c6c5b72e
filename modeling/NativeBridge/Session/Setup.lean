/-
Module: NativeBridge.Session.Setup
Purpose: Setting a session up from a configuration.
Main exports: Session.applySettings, Session.ofConfig
-/
import NativeBridge.Config.Load
import NativeBridge.Session.Basic

namespace NativeBridge

variable {σ κ : Type} [HostProgram κ] [CompilationService σ κ]

namespace Session

/-- Apply the settings of a configuration: paths, definitions, options and libraries, and the output
mode last, so that libraries wait for it. -/
def applySettings (settings : Config.CompilerSection) (output : Option OutputMode) :
    SessionM σ κ Unit := do
  settings.libPath.forM setLibPath
  settings.includePaths.forM addIncludePath
  settings.sysincludePaths.forM addSysincludePath
  settings.libraryPaths.forM addLibraryPath
  settings.defines.forM fun (name, value) => defineSymbol name (some value)
  settings.options.forM setOptions
  settings.libraries.forM addLibrary
  output.forM setOutputMode

/-- A session on the compiler that a configuration names, set up as it says.  The compiler is loaded
first; if anything fails after that, it is given up. -/
def ofConfig (config : Config) (load : String → World κ → Except Error σ × World κ)
    (world : World κ) : Except Error (Session σ) × World κ :=
  match load config.library world with
  | (.error error, world) => (.error error, world)
  | (.ok service, world) =>
      let (session, world) := create service world
      match Naming.NamingRules.fromConfig config.naming with
      | .error error => (.error error, session.close world)
      | .ok naming =>
          let settings : SessionM σ κ Unit := applySettings config.compiler config.output
          match settings (session.withNaming naming, world) with
          | (.ok (), session, world) => (.ok session, world)
          | (.error error, session, world) => (.error error, session.close world)

end Session

end NativeBridge
