/-
Module: NativeBridge.Proofs.SettingPrecedence
Purpose: Which of the variables, the project and the user decides each setting of a loaded
  configuration.
Main exports: Config.Origin, Config.Layers, Config.Layers.Resolves, Config.Layers.Found,
  Config.Layers.Settle, Config.settings_layered
-/
import NativeBridge.Proofs.UsableNaming
import Mathlib.Data.List.Forall2

namespace NativeBridge

open Config (CompilerSection NamingSection ProjectConfig GlobalConfig Environment Surroundings)

/-!
Every setting is looked up from the top: a variable, then the project's file, then the user's
defaults.  Loading mixes the variables into the project's settings, which are made if the file has
none, and the getters of a configuration look below them.  The layers are described here on their
own, and every setting is read off them.
-/

namespace Config

/-! ### The layers -/

/-- Where a load starts: in a directory, or at a project's file. -/
inductive Origin where
  | directory (start : String)
  | file (path : String)
deriving Repr, Inhabited, DecidableEq

namespace Origin

/-- Load what starts here. -/
def load (surroundings : Surroundings) (globalPath : Option String) :
    Origin → Except ConfigError Config
  | directory start => loadFromDirectory surroundings globalPath start
  | file path => loadFromFile surroundings globalPath path

/-- The directory of the project's file, if there is such a file. -/
def root? (files : FileSystem) : Origin → Option String
  | directory start => nearestProject files (Path.ancestors start)
  | file path => Path.parent? path

/-- The project's file, if there is one. -/
def file? (files : FileSystem) : Origin → Option String
  | directory start =>
      (nearestProject files (Path.ancestors start)).map fun root => Path.join root projectFile
  | file path => some path

end Origin

/-- What the files say, before any variable. -/
structure Layers where
  project : ProjectConfig
  user : GlobalConfig
  root : Option String
deriving Repr, Inhabited, DecidableEq

/-- The compiler settings of a project; they set nothing if the project has none. -/
def ProjectConfig.settings (project : ProjectConfig) : CompilerSection :=
  project.compiler.getD .empty

/-- The settings of a compiler that are lists of directories. -/
def CompilerSection.directoryLists : List (CompilerSection → List String) :=
  [includePaths, sysincludePaths, libraryPaths]

/-- The entries of naming settings. -/
def NamingSection.entries : List (NamingSection → Option String) :=
  [method, property, field, constructor, releaseSymbol]

namespace Layers

/-- What a path among the project's settings stands for. -/
inductive Resolves (layers : Layers) : String → String → Prop where
  | absolute {path : String} : Path.isAbsolute path = true → Resolves layers path path
  | rootless {path : String} : layers.root = none → Resolves layers path path
  | beneath {root path : String} : layers.root = some root → Path.isRelative path = true →
      Resolves layers path (Path.join root path)

/-- The layers are those that a load finds.  A user's file that is missing or rejected counts as
empty, and so does a project without a file. -/
structure Found (layers : Layers) (surroundings : Surroundings) (globalPath : Option String)
    (origin : Origin) : Prop where
  project : match origin.file? surroundings.files with
    | some path => loadProjectFile surroundings.files path = .ok layers.project
    | none => layers.project = .empty
  user : layers.user = ((globalFile surroundings.environment globalPath >>=
    loadGlobalFile surroundings.files).toOption).getD .empty
  root : layers.root = origin.root? surroundings.files

/-- The layers below the variables of an environment make up the settings of a configuration. -/
structure Settle (layers : Layers) (environment : Environment) (config : Config) :
    Prop where
  root : config.projectRoot = layers.root
  library : config.library =
    ((environment.text? "TCCBIND_LIBRARY").or
      (layers.project.settings.library.or layers.user.library)).getD "tcc"
  libPath : match (environment.text? "TCCBIND_LIB_PATH").or layers.project.settings.libPath with
    | some path => ∃ resolved, layers.Resolves path resolved ∧ config.libPath = some resolved
    | none => config.libPath = layers.user.libPath
  output : match environment.text? "TCCBIND_OUTPUT" with
    | some word => ∃ mode, OutputMode.parse? word = some mode ∧ config.output = some mode
    | none => config.output = layers.project.settings.output
  naming : ∀ entry ∈ NamingSection.entries,
    entry config.naming =
      (layers.project.naming.bind entry).or (layers.user.naming.bind entry)
  compilerLibrary : config.compiler.library = some config.library
  compilerLibPath : config.compiler.libPath = config.libPath
  compilerOutput : config.compiler.output = config.output
  directories : ∀ list ∈ CompilerSection.directoryLists,
    List.Forall₂ layers.Resolves (list layers.project.settings) (list config.compiler)
  libraries : config.compiler.libraries = layers.project.settings.libraries
  defines : config.compiler.defines = layers.project.settings.defines
  options : config.compiler.options = layers.project.settings.options

end Layers

/-- The compiler settings that no variable sets. -/
def CompilerSection.unvaried (settings : CompilerSection) : CompilerSection :=
  { settings with library := none, libPath := none, output := none }

/-- Two configurations, each under its environment, differ just in the settings whose variables
differ. -/
structure Undisturbed (before after : Environment) (config changed : Config) : Prop where
  library : after.text? "TCCBIND_LIBRARY" = before.text? "TCCBIND_LIBRARY" →
    changed.library = config.library
  libPath : after.text? "TCCBIND_LIB_PATH" = before.text? "TCCBIND_LIB_PATH" →
    changed.libPath = config.libPath
  output : after.text? "TCCBIND_OUTPUT" = before.text? "TCCBIND_OUTPUT" →
    changed.output = config.output
  root : changed.projectRoot = config.projectRoot
  naming : changed.naming = config.naming
  compiler : changed.compiler.unvaried = config.compiler.unvaried

/-! ### Paths -/

theorem Layers.Resolves.unique {layers : Layers} : Relator.RightUnique layers.Resolves := by
  intro path one other first second
  cases first <;> cases second <;> simp_all [Path.isRelative]

theorem Layers.resolves_iff {layers : Layers} {config : Config}
    (rooted : config.projectRoot = layers.root) {path resolved : String} :
    layers.Resolves path resolved ↔ resolved = config.resolve path := by
  rw [resolve, rooted]
  constructor
  · intro resolves
    cases resolves with
    | absolute leads => cases layers.root <;> simp [Path.isRelative, leads]
    | rootless unknown => simp [unknown]
    | beneath known relative => simp [known, relative]
  · rintro rfl
    cases known : layers.root with
    | none => exact .rootless known
    | some root =>
      cases leads : Path.isAbsolute path with
      | true => simpa [Path.isRelative, leads] using Resolves.absolute leads
      | false =>
        have relative : Path.isRelative path = true := by simp [Path.isRelative, leads]
        simpa [relative] using Resolves.beneath known relative

theorem Layers.resolves_all {layers : Layers} {config : Config}
    (rooted : config.projectRoot = layers.root) (paths : List String) :
    List.Forall₂ layers.Resolves paths (paths.map config.resolve) := by
  rw [List.forall₂_map_right_iff, List.forall₂_same]
  intro path _
  exact (resolves_iff rooted).mpr rfl

/-! ### The variables on top of the project -/

section Variables

variable {environment : Environment} {read result : ProjectConfig}

theorem settings_bind {α : Type} (project : ProjectConfig)
    {setting : CompilerSection → Option α} (unset : setting .empty = none) :
    project.compiler.bind setting = setting project.settings := by
  unfold ProjectConfig.settings
  cases project.compiler with
  | none => exact unset.symm
  | some settings => rfl

theorem overrideLibrary_settings (environment : Environment) (read : ProjectConfig) :
    (overrideLibrary environment read).settings =
      { read.settings with
        library := (environment.text? "TCCBIND_LIBRARY").or read.settings.library } ∧
    (overrideLibrary environment read).naming = read.naming := by
  unfold overrideLibrary
  cases environment.text? "TCCBIND_LIBRARY" <;> simp [onCompiler, ProjectConfig.settings]

theorem overrideLibPath_settings (environment : Environment) (read : ProjectConfig) :
    (overrideLibPath environment read).settings =
      { read.settings with
        libPath := (environment.text? "TCCBIND_LIB_PATH").or read.settings.libPath } ∧
    (overrideLibPath environment read).naming = read.naming := by
  unfold overrideLibPath
  cases environment.text? "TCCBIND_LIB_PATH" <;> simp [onCompiler, ProjectConfig.settings]

/-- A word for the output mode is known if the override succeeds. -/
theorem overrideOutput_settings (overridden : overrideOutput environment read = .ok result) :
    ∃ mode, (match environment.text? "TCCBIND_OUTPUT" with
        | some word => ∃ known, OutputMode.parse? word = some known ∧ mode = some known
        | none => mode = read.settings.output) ∧
      result.settings = { read.settings with output := mode } ∧ result.naming = read.naming := by
  unfold overrideOutput at overridden
  cases sets : environment.text? "TCCBIND_OUTPUT" with
  | none =>
    simp only [sets] at overridden
    cases overridden
    exact ⟨_, rfl, rfl, rfl⟩
  | some word =>
    simp only [sets] at overridden
    cases known : OutputMode.parse? word with
    | none => simp [known] at overridden
    | some mode =>
      simp only [known] at overridden
      cases overridden
      exact ⟨some mode, ⟨mode, known, rfl⟩, rfl, rfl⟩

/-- The variables replace their own settings, one by one, and leave all others. -/
theorem overrideFromEnvironment_settings
    (overridden : overrideFromEnvironment environment read = .ok result) :
    ∃ mode, (match environment.text? "TCCBIND_OUTPUT" with
        | some word => ∃ known, OutputMode.parse? word = some known ∧ mode = some known
        | none => mode = read.settings.output) ∧
      result.settings =
        { read.settings with
          library := (environment.text? "TCCBIND_LIBRARY").or read.settings.library
          libPath := (environment.text? "TCCBIND_LIB_PATH").or read.settings.libPath
          output := mode } ∧
      result.naming = read.naming := by
  obtain ⟨changed, overridden, validated⟩ := checked_then overridden
  obtain ⟨-, -, kept⟩ := checked_then validated
  cases kept
  obtain ⟨library, libraryNaming⟩ := overrideLibrary_settings environment read
  obtain ⟨libPath, libPathNaming⟩ :=
    overrideLibPath_settings environment (overrideLibrary environment read)
  obtain ⟨mode, word, settings, naming⟩ := overrideOutput_settings overridden
  rw [libPathNaming, libraryNaming] at naming
  rw [libPath, library] at settings word
  exact ⟨mode, word, settings, naming⟩

end Variables

/-! ### What a load finds -/

/-- Whether a user's file is there need not be asked: reading one that is missing fails. -/
theorem globalDefaults_eq (surroundings : Surroundings) (globalPath : Option String) :
    globalDefaults surroundings globalPath =
      ((globalFile surroundings.environment globalPath >>=
        loadGlobalFile surroundings.files).toOption).getD .empty := by
  unfold globalDefaults
  cases globalFile surroundings.environment globalPath with
  | error => rfl
  | ok path =>
    change _ = ((loadGlobalFile surroundings.files path).toOption).getD .empty
    cases loaded : loadGlobalFile surroundings.files path with
    | error => simp [loaded, Except.toOption]
    | ok user =>
      have there : surroundings.files.exists? path = true := by
        obtain ⟨content, read, -⟩ := checked_then loaded
        unfold readConfigFile FileSystem.readText at read
        unfold FileSystem.exists?
        cases found : surroundings.files.lookup path with
        | found => rfl
        | notFound => simp [found] at read
        | failed => simp [found] at read
      simp [there, loaded, Except.toOption]

/-- A load takes the project's settings from its file, puts the variables on top, and keeps the
user's defaults as they are. -/
theorem Origin.load_parts {surroundings : Surroundings} {globalPath : Option String}
    {origin : Origin} {config : Config}
    (loaded : origin.load surroundings globalPath = .ok config) :
    ∃ read : ProjectConfig,
      (match origin.file? surroundings.files with
        | some path => loadProjectFile surroundings.files path = .ok read
        | none => read = .empty) ∧
      overrideFromEnvironment surroundings.environment read = .ok config.project ∧
      config.defaults = globalDefaults surroundings globalPath ∧
      config.projectRoot = origin.root? surroundings.files := by
  cases origin with
  | directory start =>
    obtain ⟨⟨root, read⟩, found, loaded⟩ := checked_then loaded
    obtain ⟨project, overridden, loaded⟩ := checked_then loaded
    cases loaded
    unfold findProject at found
    cases nearest : nearestProject surroundings.files (Path.ancestors start) with
    | none =>
      simp only [nearest] at found
      cases found
      exact ⟨_, by simp [file?, nearest], overridden, rfl, by simp [root?, nearest]⟩
    | some directory =>
      simp only [nearest] at found
      obtain ⟨config, readable, found⟩ := checked_then found
      cases found
      exact ⟨_, by simpa [file?, nearest] using readable, overridden, rfl,
        by simp [root?, nearest]⟩
  | file path =>
    obtain ⟨read, readable, loaded⟩ := checked_then loaded
    obtain ⟨project, overridden, loaded⟩ := checked_then loaded
    cases loaded
    exact ⟨read, readable, overridden, rfl, rfl⟩

/-- A load finds some layers, and puts its configuration together from them. -/
theorem Origin.load_found {surroundings : Surroundings} {globalPath : Option String}
    {origin : Origin} {config : Config}
    (loaded : origin.load surroundings globalPath = .ok config) :
    ∃ layers : Layers, layers.Found surroundings globalPath origin ∧
      overrideFromEnvironment surroundings.environment layers.project = .ok config.project ∧
      config.defaults = layers.user ∧ config.projectRoot = layers.root := by
  obtain ⟨read, readable, overridden, user, root⟩ := load_parts loaded
  refine ⟨⟨read, globalDefaults surroundings globalPath, origin.root? surroundings.files⟩,
    ⟨readable, ?_, rfl⟩, overridden, user, root⟩
  exact globalDefaults_eq surroundings globalPath

/-- The layers do not depend on any variable but the one of the home directory. -/
theorem Layers.Found.unique {one other : Layers} {surroundings : Surroundings}
    {globalPath : Option String} {origin : Origin} {environment : Environment}
    (found : one.Found surroundings globalPath origin)
    (again : other.Found { surroundings with environment := environment } globalPath origin)
    (home : environment.home? = surroundings.environment.home?) : other = one := by
  have place : globalFile environment globalPath =
      globalFile surroundings.environment globalPath := by
    unfold globalFile globalDirectory
    rw [home]
  have project : other.project = one.project := by
    have first := found.project
    have second := again.project
    cases file : origin.file? surroundings.files with
    | none =>
      simp only [file] at first second
      rw [first, second]
    | some path =>
      simp only [file] at first second
      exact Except.ok.inj (second.symm.trans first)
  have user : other.user = one.user := by
    rw [again.user, found.user, place]
  have root : other.root = one.root := again.root.trans found.root.symm
  cases one
  cases other
  simp_all

/-! ### Settings -/

theorem naming_entries (config : Config) :
    ∀ entry ∈ NamingSection.entries,
      entry config.naming =
        (config.project.naming.bind entry).or (config.defaults.naming.bind entry) := by
  rw [naming_eq_merge]
  unfold projectNaming NamingSection.entries
  simp only [List.forall_mem_cons, List.not_mem_nil, false_implies, implies_true, and_true]
  cases config.project.naming <;> cases config.defaults.naming <;>
    simp [NamingSection.merge, NamingSection.empty]

/-- A configuration put together from some layers has the settings that they give it. -/
theorem Layers.settle {layers : Layers} {environment : Environment} {config : Config}
    (overridden : overrideFromEnvironment environment layers.project = .ok config.project)
    (user : config.defaults = layers.user) (root : config.projectRoot = layers.root) :
    layers.Settle environment config := by
  obtain ⟨mode, word, settings, naming⟩ := overrideFromEnvironment_settings overridden
  have compiler : config.compiler =
      { layers.project.settings with
        library := some config.library
        libPath := config.libPath
        includePaths := layers.project.settings.includePaths.map config.resolve
        sysincludePaths := layers.project.settings.sysincludePaths.map config.resolve
        libraryPaths := layers.project.settings.libraryPaths.map config.resolve
        output := mode } := by
    rw [Config.compiler, ← ProjectConfig.settings, settings]
  have output : config.output = mode := by
    rw [Config.output, ProjectConfig.output, settings_bind _ rfl, settings]
  refine ⟨root, ?_, ?_, ?_, ?_, ?_, ?_, ?_, ?_, ?_, ?_, ?_⟩
  · rw [library, settings_bind _ rfl, settings, user, Option.or_assoc]
    rfl
  · have effective : config.libPath =
        (((environment.text? "TCCBIND_LIB_PATH").or layers.project.settings.libPath).map
          config.resolve).or layers.user.libPath := by
      rw [libPath, settings_bind _ rfl, settings, user]
    rw [effective]
    cases (environment.text? "TCCBIND_LIB_PATH").or layers.project.settings.libPath with
    | none => rfl
    | some path => exact ⟨_, (resolves_iff root).mpr rfl, rfl⟩
  · rw [output]
    exact word
  · intro entry among
    rw [← naming, ← user]
    exact config.naming_entries entry among
  · rw [compiler]
  · rw [compiler]
  · rw [compiler, output]
  · unfold CompilerSection.directoryLists
    rw [compiler]
    simp only [List.forall_mem_cons, List.not_mem_nil, false_implies, implies_true, and_true]
    exact ⟨resolves_all root _, resolves_all root _, resolves_all root _⟩
  · rw [compiler]
  · rw [compiler]
  · rw [compiler]

theorem NamingSection.eq_of_entries {one other : NamingSection}
    (same : ∀ entry ∈ entries, entry other = entry one) : other = one := by
  unfold entries at same
  simp only [List.forall_mem_cons, List.not_mem_nil, false_implies, implies_true, and_true] at same
  obtain ⟨method, property, field, constructor, releaseSymbol⟩ := same
  cases one
  cases other
  simp_all

theorem CompilerSection.unvaried_eq {one other : CompilerSection}
    (directories : ∀ list ∈ directoryLists, list other = list one)
    (libraries : other.libraries = one.libraries) (defines : other.defines = one.defines)
    (options : other.options = one.options) : other.unvaried = one.unvaried := by
  unfold directoryLists at directories
  simp only [List.forall_mem_cons, List.not_mem_nil, false_implies, implies_true, and_true]
    at directories
  obtain ⟨includePaths, sysincludePaths, libraryPaths⟩ := directories
  simp [unvaried, *]

/-- The same layers below two environments. -/
theorem Layers.Settle.undisturbed {layers : Layers} {before after : Environment}
    {config changed : Config} (settled : layers.Settle before config)
    (again : layers.Settle after changed) : Undisturbed before after config changed where
  library := by
    intro same
    rw [again.library, settled.library, same]
  libPath := by
    intro same
    have first := settled.libPath
    have second := again.libPath
    rw [same] at second
    split at first
    · next path sets =>
      simp only [sets] at second
      obtain ⟨resolved, resolves, left⟩ := first
      obtain ⟨resolved', resolves', right⟩ := second
      rw [left, right, Resolves.unique resolves' resolves]
    · next unset =>
      simp only [unset] at second
      rw [first, second]
  output := by
    intro same
    have first := settled.output
    have second := again.output
    rw [same] at second
    split at first
    · next word sets =>
      simp only [sets] at second
      obtain ⟨mode, known, left⟩ := first
      obtain ⟨mode', known', right⟩ := second
      rw [left, right, ← known, known']
    · next unset =>
      simp only [unset] at second
      rw [first, second]
  root := again.root.trans settled.root.symm
  naming := by
    apply NamingSection.eq_of_entries
    intro entry among
    rw [again.naming entry among, settled.naming entry among]
  compiler := by
    apply CompilerSection.unvaried_eq
    · intro list among
      exact List.right_unique_forall₂' Resolves.unique (again.directories list among)
        (settled.directories list among)
    · rw [again.libraries, settled.libraries]
    · rw [again.defines, settled.defines]
    · rw [again.options, settled.options]

/-- A configuration that loads has each of its settings from the topmost layer that sets it: from a
variable, else from the project's file, else from the user's defaults.  Under other variables the
same layers settle it, so that a variable never disturbs a setting other than its own. -/
theorem settings_layered {surroundings : Surroundings} {globalPath : Option String}
    {origin : Origin} {config : Config}
    (loaded : origin.load surroundings globalPath = .ok config) :
    ∃ layers : Layers, layers.Found surroundings globalPath origin ∧
      layers.Settle surroundings.environment config ∧
      ∀ environment changed, environment.home? = surroundings.environment.home? →
        origin.load { surroundings with environment := environment } globalPath = .ok changed →
        layers.Settle environment changed ∧
          Undisturbed surroundings.environment environment config changed := by
  obtain ⟨layers, found, overridden, user, root⟩ := Origin.load_found loaded
  have settled : layers.Settle surroundings.environment config :=
    Layers.settle overridden user root
  refine ⟨layers, found, settled, ?_⟩
  intro environment changed home reloaded
  obtain ⟨others, again, overridden', user', root'⟩ := Origin.load_found reloaded
  cases found.unique again home
  have resettled : layers.Settle environment changed := Layers.settle overridden' user' root'
  exact ⟨resettled, settled.undisturbed resettled⟩

end Config

namespace Workbench

open Config (Environment Surroundings Origin Layers Undisturbed)

/-- Variables with these texts. -/
def textVariables (texts : List (String × String)) : Environment :=
  ⟨fun name => (texts.lookup name).map Text.Utf8.encode, some "/home/u"⟩

/-- A project and a user that both set names and places, with these variables on top. -/
def threeLayers (texts : List (String × String)) : Surroundings :=
  { twoFiles
      ("[compiler]\nlibrary = 'a'\nlib_path = 'rt'\ninclude_paths = ['i', '/j']\n" ++
        "[naming]\nmethod = 'm'")
      "[defaults]\nlibrary = 'b'\nlib_path = 'k'\n[naming]\nmethod = 'n'\nfield = 'f'" with
    environment := textVariables texts }

/-- What the three layers give with this library and this output mode. -/
def layeredConfig (library : String) (output : Option OutputMode) : Config where
  project := ⟨some { Config.CompilerSection.empty with
      library := some library, libPath := some "rt", includePaths := ["i", "/j"],
      output := output },
    some { Config.NamingSection.empty with method := some "m" }⟩
  defaults := ⟨some ⟨some "b", some "k"⟩,
    some { Config.NamingSection.empty with method := some "n", field := some "f" }⟩
  projectRoot := some "/p"

theorem threeLayers_load :
    (Origin.directory "/p/q").load (threeLayers [("TCCBIND_LIBRARY", "c")]) (some "/g.toml") =
      .ok (layeredConfig "c" none) ∧
    (Origin.directory "/p/q").load (threeLayers [("TCCBIND_OUTPUT", "obj")]) (some "/g.toml") =
      .ok (layeredConfig "a" (some .obj)) := by
  decide +kernel

/-- A variable that takes the place of the project's library, and one for the output mode in its
stead. -/
theorem threeLayers_settled :
    ∃ layers : Layers,
      layers.Found (threeLayers [("TCCBIND_LIBRARY", "c")]) (some "/g.toml") (.directory "/p/q") ∧
      layers.Settle (textVariables [("TCCBIND_LIBRARY", "c")]) (layeredConfig "c" none) ∧
      layers.Settle (textVariables [("TCCBIND_OUTPUT", "obj")])
        (layeredConfig "a" (some .obj)) ∧
      Undisturbed (textVariables [("TCCBIND_LIBRARY", "c")])
        (textVariables [("TCCBIND_OUTPUT", "obj")])
        (layeredConfig "c" none) (layeredConfig "a" (some .obj)) := by
  obtain ⟨layers, found, settled, others⟩ := Config.settings_layered threeLayers_load.1
  obtain ⟨resettled, undisturbed⟩ :=
    others (textVariables [("TCCBIND_OUTPUT", "obj")]) _ rfl threeLayers_load.2
  exact ⟨layers, found, settled, resettled, undisturbed⟩

end Workbench

end NativeBridge
