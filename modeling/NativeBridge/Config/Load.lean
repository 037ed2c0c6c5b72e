/-
Module: NativeBridge.Config.Load
Purpose: Loading the configuration of a project: the search for its file, the user's defaults, and
  the environment on top.
Main exports: Environment, Surroundings, loadProjectFile, loadGlobalFile,
  findProject, Config, loadFromDirectory, loadFromFile, Config.library, Config.libPath,
  Config.output, Config.compiler, Config.naming
-/
import NativeBridge.Config.Decode
import NativeBridge.FileSystem

namespace NativeBridge.Config

/-!
A project's file is looked for in the start directory and then in each directory above it; the
nearest one is used, or the load fails.  A user's defaults never make a load fail: a file that is
missing, or that cannot be read, sets nothing.  Variables of the environment override the project's
settings one by one, and the result is validated once more.
-/

/-- What a program finds around it: variables, as bytes, and the home directory of the account it
runs under. -/
structure Environment where
  bytesOf : String → Option (List UInt8)
  accountHome : Option String

namespace Environment

/-- The text of a variable; one that is not UTF-8 counts as unset. -/
def text? (environment : Environment) (name : String) : Option String :=
  (environment.bytesOf name).bind Text.Utf8.decode?

/-- The home directory: that of its variable, else that of the account.  An empty variable counts as
unset, and bytes that are not UTF-8 are replaced. -/
def home? (environment : Environment) : Option String :=
  match environment.bytesOf "HOME" with
  | some (byte :: bytes) => some (Text.Utf8.decodeLossy (byte :: bytes))
  | some [] | none => environment.accountHome

end Environment

/-- What loading a configuration can see. -/
structure Surroundings where
  files : FileSystem
  environment : Environment

/-- The name of a project's file. -/
def projectFile : String := "tccbind.toml"

/-- The version of this library. -/
def version : String := "0.1.0"

/-- The library used when nothing else is configured. -/
def defaultLibrary : String := "tcc"

/-! ### Files -/

/-- Read the text of a configuration file. -/
def readConfigFile (files : FileSystem) (path : String) : Except ConfigError String :=
  match files.readText path with
  | .text content => .ok content
  | .notFound => .error (.notFound path)
  | .failed => .error (.unreadable path)

/-- Load a project's file. -/
def loadProjectFile (files : FileSystem) (path : String) : Except ConfigError ProjectConfig := do
  let content ← readConfigFile files path
  match ProjectConfig.parse content with
  | none => .error (.malformed path)
  | some config => do
      config.validate
      .ok config

/-- Load a user's defaults file. -/
def loadGlobalFile (files : FileSystem) (path : String) : Except ConfigError GlobalConfig := do
  let content ← readConfigFile files path
  match GlobalConfig.parse content with
  | none => .error (.malformed path)
  | some config => do
      config.validate
      .ok config

/-- The nearest directory of a list that holds a project file. -/
def nearestProject (files : FileSystem) (directories : List String) : Option String :=
  directories.find? fun directory => files.exists? (Path.join directory projectFile)

/-- The project of a start directory: where its file is, and what the file says. -/
def findProject (files : FileSystem) (start : String) :
    Except ConfigError (Option String × ProjectConfig) :=
  match nearestProject files (Path.ancestors start) with
  | some directory => do
      let config ← loadProjectFile files (Path.join directory projectFile)
      .ok (some directory, config)
  | none => .ok (none, .empty)

/-- The directory of a user's defaults. -/
def globalDirectory (environment : Environment) : Except ConfigError String :=
  match environment.home? with
  | some home => .ok (Path.join home ".tccbind")
  | none => .error .homeNotFound

/-- The file of a user's defaults: the one asked for, else the one in the home directory. -/
def globalFile (environment : Environment) : Option String → Except ConfigError String
  | some path => .ok path
  | none => (globalDirectory environment).map fun directory => Path.join directory "config.toml"

/-- A user's defaults; they are empty if there is no file or the file is not usable. -/
def globalDefaults (surroundings : Surroundings) (path : Option String) : GlobalConfig :=
  match globalFile surroundings.environment path with
  | .error _ => .empty
  | .ok path =>
      if surroundings.files.exists? path then
        match loadGlobalFile surroundings.files path with
        | .ok config => config
        | .error _ => .empty
      else .empty

/-! ### The environment on top -/

/-- Change the compiler settings of a project, which are made if they are missing. -/
def onCompiler (config : ProjectConfig) (change : CompilerSection → CompilerSection) :
    ProjectConfig :=
  { config with compiler := some (change (config.compiler.getD .empty)) }

/-- The library that the environment sets. -/
def overrideLibrary (environment : Environment) (config : ProjectConfig) : ProjectConfig :=
  match environment.text? "TCCBIND_LIBRARY" with
  | some library => onCompiler config fun c => { c with library := some library }
  | none => config

/-- The compiler directory that the environment sets. -/
def overrideLibPath (environment : Environment) (config : ProjectConfig) : ProjectConfig :=
  match environment.text? "TCCBIND_LIB_PATH" with
  | some path => onCompiler config fun c => { c with libPath := some path }
  | none => config

/-- The output mode that the environment sets. -/
def overrideOutput (environment : Environment) (config : ProjectConfig) :
    Except ConfigError ProjectConfig :=
  match environment.text? "TCCBIND_OUTPUT" with
  | none => .ok config
  | some word =>
      match OutputMode.parse? word with
      | some mode => .ok (onCompiler config fun c => { c with output := some mode })
      | none => .error (.invalidValue "TCCBIND_OUTPUT"
          s!"'{word}' is not one of memory, exe, dll, obj, preprocess")

/-- The settings of a project with those of the environment on top, validated. -/
def overrideFromEnvironment (environment : Environment) (config : ProjectConfig) :
    Except ConfigError ProjectConfig := do
  let config ← overrideOutput environment
    (overrideLibPath environment (overrideLibrary environment config))
  config.validate
  .ok config

end NativeBridge.Config

namespace NativeBridge

open NativeBridge.Config

/-- A loaded configuration. -/
structure Config where
  project : ProjectConfig
  defaults : GlobalConfig
  /-- The directory of the project's file. -/
  projectRoot : Option String
deriving Repr, Inhabited, DecidableEq

namespace Config

/-- Load the configuration of a directory. -/
def loadFromDirectory (surroundings : Surroundings) (globalPath : Option String)
    (start : String) : Except ConfigError Config := do
  let (root, project) ← findProject surroundings.files start
  let project ← overrideFromEnvironment surroundings.environment project
  .ok ⟨project, globalDefaults surroundings globalPath, root⟩

/-- Load the configuration of a project file. -/
def loadFromFile (surroundings : Surroundings) (globalPath : Option String) (path : String) :
    Except ConfigError Config := do
  let project ← loadProjectFile surroundings.files path
  let project ← overrideFromEnvironment surroundings.environment project
  .ok ⟨project, globalDefaults surroundings globalPath, Path.parent? path⟩

/-- A path with the project's directory in front of it, if it is relative and the directory is
known. -/
def resolve (config : Config) (path : String) : String :=
  match config.projectRoot with
  | some root => if Path.isRelative path then Path.join root path else path
  | none => path

/-- The library to load: the project's, else the user's, else the usual one. -/
def library (config : Config) : String :=
  ((config.project.compiler.bind CompilerSection.library).or config.defaults.library).getD
    defaultLibrary

/-- The compiler's directory: the project's, resolved, else the user's. -/
def libPath (config : Config) : Option String :=
  ((config.project.compiler.bind CompilerSection.libPath).map config.resolve).or
    config.defaults.libPath

/-- The output mode, if one is configured. -/
def output (config : Config) : Option OutputMode :=
  config.project.output

/-- The compiler settings with relative directories resolved. -/
def compiler (config : Config) : CompilerSection :=
  let settings := config.project.compiler.getD .empty
  { settings with
    library := some config.library
    libPath := config.libPath
    includePaths := settings.includePaths.map config.resolve
    sysincludePaths := settings.sysincludePaths.map config.resolve
    libraryPaths := settings.libraryPaths.map config.resolve }

/-- The naming settings: the user's, with the project's on top. -/
def naming (config : Config) : NamingSection :=
  let base := config.defaults.naming.getD .empty
  match config.project.naming with
  | some top => base.merge top
  | none => base

/-- Whether a project file was found. -/
def isProject (config : Config) : Bool :=
  config.projectRoot.isSome

end Config

end NativeBridge
