/-
Module: NativeBridge.Config.Project
Purpose: The configuration of a project and the defaults of a user: their sections, validation and
  merging.
Main exports: CompilerSection, ProjectConfig, ProjectConfig.validate, ProjectConfig.merge,
  DefaultsSection, GlobalConfig, GlobalConfig.validate
-/
import NativeBridge.Config.Naming
import NativeBridge.OutputMode
import NativeBridge.Text.Blank

namespace NativeBridge.Config

/-- The compiler settings of a project.  Definitions are in rising order of their names. -/
structure CompilerSection where
  library : Option String
  libPath : Option String
  includePaths : List String
  sysincludePaths : List String
  libraryPaths : List String
  libraries : List String
  defines : List (String × String)
  options : Option String
  output : Option OutputMode
deriving Repr, Inhabited, DecidableEq

/-- Compiler settings that set nothing. -/
def CompilerSection.empty : CompilerSection := ⟨none, none, [], [], [], [], [], none, none⟩

/-- The configuration of a project. -/
structure ProjectConfig where
  compiler : Option CompilerSection
  naming : Option NamingSection
deriving Repr, Inhabited, DecidableEq

/-- Check that a library is named by more than white space. -/
def validateLibrary (field : String) : Option String → Except ConfigError Unit
  | none => .ok ()
  | some library =>
      if Text.isAllBlank library then
        .error (.invalidValue field "library cannot be empty")
      else .ok ()

/-- Check that each definition can be spelled in C. -/
def validateDefines : List (String × String) → Except ConfigError Unit
  | [] => .ok ()
  | (name, _) :: rest =>
      if Text.isIdentifier name then validateDefines rest
      else .error (.invalidValue ("compiler.defines." ++ name)
        "macro name must be a C identifier")

/-- Check compiler settings. -/
def CompilerSection.validate (compiler : CompilerSection) : Except ConfigError Unit := do
  validateLibrary "compiler.library" compiler.library
  validateDefines compiler.defines

namespace ProjectConfig

/-- A configuration that sets nothing. -/
def empty : ProjectConfig := ⟨none, none⟩

/-- Check the sections that are there, the compiler's first. -/
def validate (config : ProjectConfig) : Except ConfigError Unit := do
  match config.compiler with
  | some compiler => compiler.validate
  | none => .ok ()
  match config.naming with
  | some naming => naming.validate
  | none => .ok ()

/-- The output mode a project asks for. -/
def output (config : ProjectConfig) : Option OutputMode :=
  config.compiler.bind CompilerSection.output

/-- A configuration with another put on top: compiler settings are replaced as a whole, naming entry
by entry. -/
def merge (base top : ProjectConfig) : ProjectConfig where
  compiler := top.compiler.or base.compiler
  naming :=
    match base.naming, top.naming with
    | some mine, some theirs => some (mine.merge theirs)
    | none, theirs => theirs
    | mine, none => mine

end ProjectConfig

/-- Where the compiler lives on a machine. -/
structure DefaultsSection where
  library : Option String
  libPath : Option String
deriving Repr, Inhabited, DecidableEq

/-- The defaults of a user. -/
structure GlobalConfig where
  defaults : Option DefaultsSection
  naming : Option NamingSection
deriving Repr, Inhabited, DecidableEq

namespace GlobalConfig

/-- Defaults that set nothing. -/
def empty : GlobalConfig := ⟨none, none⟩

/-- Check the default library. -/
def validate (config : GlobalConfig) : Except ConfigError Unit :=
  match config.defaults with
  | some defaults => validateLibrary "defaults.library" defaults.library
  | none => .ok ()

/-- The default library. -/
def library (config : GlobalConfig) : Option String :=
  config.defaults.bind DefaultsSection.library

/-- The default compiler directory. -/
def libPath (config : GlobalConfig) : Option String :=
  config.defaults.bind DefaultsSection.libPath

end GlobalConfig

end NativeBridge.Config
