/-
Module: NativeBridge.Proofs.RelativeSearch
Purpose: A load from a relative path compared with the load from the same directory spelled as an
  absolute path.
Main exports: Config.Spellings, Config.LoadedAlike, Config.Unmissed, Config.Missed,
  Config.relative_load
-/
import Mathlib.Data.List.Find
import NativeBridge.Proofs.ProjectSearch

namespace NativeBridge

/-!
Going up from a relative path ends where the process runs, while going up from an absolute path ends
at the root.  The two loads agree as long as the project's file is found at or below the working
directory, or nowhere at all.  A file above the working directory is found from the absolute path
only.
-/

namespace Config

/-! ### What is compared -/

/-- A relative and an absolute path of one directory, both without a step up and not too long. -/
structure Spellings (files : FileSystem) (relative absolute : String) : Prop where
  inner : Path.isAbsolute relative = false
  outer : Path.isAbsolute absolute = true
  innerDescends : Path.Descends relative
  outerDescends : Path.Descends absolute
  same : files.placeOf relative = files.placeOf absolute
  innerFits : Path.Fits (Path.join relative projectFile)
  outerFits : Path.Fits (Path.join absolute projectFile)

/-- Two loads both fail, or give the same settings of a project at the same place, if any. -/
inductive LoadedAlike (files : FileSystem) :
    Except ConfigError Config → Except ConfigError Config → Prop
  | failed (fault other : ConfigError) : LoadedAlike files (.error fault) (.error other)
  | loaded {config other : Config} (project : config.project = other.project)
      (defaults : config.defaults = other.defaults)
      (root : config.projectRoot.map files.placeOf = other.projectRoot.map files.placeOf) :
      LoadedAlike files (.ok config) (.ok other)

/-- A place is above the working directory. -/
def AboveWorking (files : FileSystem) (place : List (List Char)) : Prop :=
  place <:+ files.workingPlace ∧ place ≠ files.workingPlace

/-- A relative path leads to a project's file, or there is none above the working directory. -/
def Unmissed (files : FileSystem) (relative : String) : Prop :=
  (∃ directory ∈ Path.ancestors relative, HasProject files directory) ∨
    ∀ place, AboveWorking files place → ¬HoldsProject files place

/-- A load from a relative path does without a project, which the absolute path leads to. -/
structure Missed (surroundings : Surroundings) (globalPath : Option String)
    (relative absolute : String) : Prop where
  unset : loadFromDirectory surroundings globalPath relative =
    settle surroundings globalPath none .empty
  above : ∃ directory, Nearest surroundings.files absolute directory ∧
    AboveWorking surroundings.files (surroundings.files.placeOf directory)
  apart (config other : Config) :
    loadFromDirectory surroundings globalPath relative = .ok config →
    loadFromDirectory surroundings globalPath absolute = .ok other →
    config.isProject = false ∧ other.isProject = true

section

variable {files : FileSystem} {relative absolute : String}

theorem Spellings.working (spellings : Spellings files relative absolute) :
    files.base relative = files.workingPlace :=
  if_neg (by simp [spellings.inner])

theorem Spellings.inside (spellings : Spellings files relative absolute)
    (grounded : files.Enclosed files.workingPlace) : files.Enclosed (files.base relative) :=
  spellings.working ▸ grounded

theorem Spellings.outside (spellings : Spellings files relative absolute) :
    files.Enclosed (files.base absolute) := by
  rw [FileSystem.base, if_pos spellings.outer]
  trivial

end

/-! ### The places of the search -/

section

open Classical

variable {files : FileSystem} {start relative absolute : String}

/-- The search finds the first place that holds a project's file. -/
theorem nearestProject_place (descends : Path.Descends start)
    (inside : files.Enclosed (files.base start))
    (fits : Path.Fits (Path.join start projectFile)) :
    (nearestProject files (Path.ancestors start)).map files.placeOf =
      ((Path.ancestors start).map files.placeOf).find? fun place => HoldsProject files place := by
  rw [nearestProject, List.find?_map]
  congr 1
  apply List.find?_congr
  intro above among
  obtain ⟨goesDown, same⟩ := files.ancestors_descend descends above among
  rw [Bool.eq_iff_iff, exists_projectFile_iff goesDown (same ▸ inside), hasProject_iff fits among]
  simp

/-- The places that are looked at from an absolute path are those that are looked at from a relative
one, and then those above the working directory. -/
theorem spelled_places (spellings : Spellings files relative absolute)
    (grounded : files.Enclosed files.workingPlace) :
    (nearestProject files (Path.ancestors absolute)).map files.placeOf =
      ((nearestProject files (Path.ancestors relative)).map files.placeOf).or
        (files.workingPlace.tails.tail.find? fun place => HoldsProject files place) := by
  rw [nearestProject_place spellings.outerDescends spellings.outside spellings.outerFits,
    nearestProject_place spellings.innerDescends (spellings.inside grounded) spellings.innerFits,
    files.absolute_places spellings.outer spellings.outerDescends, ← spellings.same,
    files.placeOf_eq spellings.innerDescends, files.ancestors_places spellings.innerDescends,
    spellings.working, List.tails_append, List.find?_append, List.find?_append]
  congr 1
  -- a dot in front only repeats the working directory, which is among the places already
  cases found : ((Path.names relative.toList).reverse.tails.map (· ++ files.workingPlace)).find?
      fun place => HoldsProject files place with
  | some place => simp
  | none =>
    have nothing := List.find?_eq_none.mp found files.workingPlace (by simp)
    split
    · simpa using nothing
    · rfl

/-- The places above the working directory are those behind it in the search from an absolute
path. -/
theorem aboveWorking_iff {place : List (List Char)} :
    AboveWorking files place ↔ place ∈ files.workingPlace.tails.tail := by
  unfold AboveWorking
  cases files.workingPlace with
  | nil => simp
  | cons name above =>
    rw [List.tails_cons, List.tail_cons, List.mem_tails, List.suffix_cons_iff]
    constructor
    · rintro ⟨same | behind, other⟩
      · exact absurd same other
      · exact behind
    · intro behind
      refine ⟨.inr behind, ?_⟩
      rintro rfl
      exact absurd behind.length_le (Nat.not_succ_le_self _)

/-- Both searches end at the same place if the relative path misses nothing. -/
theorem same_place (spellings : Spellings files relative absolute)
    (grounded : files.Enclosed files.workingPlace) (unmissed : Unmissed files relative) :
    (nearestProject files (Path.ancestors relative)).map files.placeOf =
      (nearestProject files (Path.ancestors absolute)).map files.placeOf := by
  rw [spelled_places spellings grounded]
  cases found : nearestProject files (Path.ancestors relative) with
  | some directory => rfl
  | none =>
    have nothing := (nearestProject_none spellings.innerDescends (spellings.inside grounded)).mp found
    obtain ⟨directory, among, has⟩ | nowhere := unmissed
    · exact absurd has (nothing directory among)
    · refine (List.find?_eq_none.mpr fun place among => ?_).symm
      simpa using nowhere place (aboveWorking_iff.mpr among)

/-- A search that misses a file finds none, and the other ends above the working directory. -/
theorem missed_place (spellings : Spellings files relative absolute)
    (grounded : files.Enclosed files.workingPlace) (missed : ¬Unmissed files relative) :
    nearestProject files (Path.ancestors relative) = none ∧
      ∃ directory, nearestProject files (Path.ancestors absolute) = some directory ∧
        AboveWorking files (files.placeOf directory) := by
  unfold Unmissed at missed
  push Not at missed
  obtain ⟨nothing, place, above, holds⟩ := missed
  have none := (nearestProject_none spellings.innerDescends (spellings.inside grounded)).mpr nothing
  refine ⟨none, ?_⟩
  have places := spelled_places spellings grounded
  rw [none, Option.map_none, Option.none_or] at places
  cases farther : files.workingPlace.tails.tail.find? fun place => HoldsProject files place with
  | none =>
    have without := List.find?_eq_none.mp farther place (aboveWorking_iff.mp above)
    exact absurd holds (by simpa using without)
  | some found =>
    rw [farther] at places
    obtain ⟨directory, nearest, rfl⟩ := Option.map_eq_some_iff.mp places
    exact ⟨directory, nearest, aboveWorking_iff.mpr (List.mem_of_find?_eq_some farther)⟩

end

/-! ### The two loads -/

section

variable {surroundings : Surroundings} {globalPath : Option String} {relative absolute : String}

theorem settle_alike {root other : Option String} (read : ProjectConfig)
    (same : root.map surroundings.files.placeOf = other.map surroundings.files.placeOf) :
    LoadedAlike surroundings.files (settle surroundings globalPath root read)
      (settle surroundings globalPath other read) := by
  unfold settle
  cases overrideFromEnvironment surroundings.environment read with
  | error fault => exact .failed fault fault
  | ok => exact .loaded rfl rfl same

/-- Loads that find their files at the same place are alike. -/
theorem alike_of_same_place (spellings : Spellings surroundings.files relative absolute)
    (grounded : surroundings.files.Enclosed surroundings.files.workingPlace)
    (same : (nearestProject surroundings.files (Path.ancestors relative)).map
        surroundings.files.placeOf =
      (nearestProject surroundings.files (Path.ancestors absolute)).map surroundings.files.placeOf) :
    LoadedAlike surroundings.files (loadFromDirectory surroundings globalPath relative)
      (loadFromDirectory surroundings globalPath absolute) := by
  have inside := spellings.inside grounded
  cases inner : nearestProject surroundings.files (Path.ancestors relative) with
  | none =>
    rw [inner, Option.map_none, eq_comm, Option.map_eq_none_iff] at same
    rw [load_unset inner, load_unset same]
    exact settle_alike .empty rfl
  | some directory =>
    rw [inner, Option.map_some, eq_comm, Option.map_eq_some_iff] at same
    obtain ⟨other, outer, place⟩ := same
    have agree (project : ProjectConfig) :
        loadProjectFile surroundings.files (Path.join directory projectFile) = .ok project ↔
          loadProjectFile surroundings.files (Path.join other projectFile) = .ok project := by
      rw [((nearestProject_iff spellings.innerDescends inside).mp inner).loads
          spellings.innerDescends inside,
        ((nearestProject_iff spellings.outerDescends spellings.outside).mp outer).loads
          spellings.outerDescends spellings.outside, place]
    rw [load_found inner, load_found outer]
    cases one : loadProjectFile surroundings.files (Path.join directory projectFile) with
    | ok project =>
      rw [(agree project).mp one]
      exact settle_alike project (congrArg some place.symm)
    | error fault =>
      cases two : loadProjectFile surroundings.files (Path.join other projectFile) with
      | ok project => cases one.symm.trans ((agree project).mpr two)
      | error farther => exact .failed fault farther

end

/-- A load from a relative path is like the load from the same directory spelled as an absolute path,
unless the nearest project's file is above the working directory: then it does without. -/
theorem relative_load {surroundings : Surroundings} (globalPath : Option String)
    {relative absolute : String} (spellings : Spellings surroundings.files relative absolute)
    (grounded : surroundings.files.Enclosed surroundings.files.workingPlace) :
    (Unmissed surroundings.files relative →
      LoadedAlike surroundings.files (loadFromDirectory surroundings globalPath relative)
        (loadFromDirectory surroundings globalPath absolute)) ∧
    (¬Unmissed surroundings.files relative → Missed surroundings globalPath relative absolute) := by
  constructor
  · intro unmissed
    exact alike_of_same_place spellings grounded (same_place spellings grounded unmissed)
  · intro missed
    obtain ⟨none, directory, found, above⟩ := missed_place spellings grounded missed
    refine ⟨load_unset none, ⟨directory, ?_, above⟩, fun config other loaded further => ?_⟩
    · exact (nearestProject_iff spellings.outerDescends spellings.outside).mp found
    · unfold Config.isProject
      rw [load_root loaded, load_root further, none, found]
      exact ⟨rfl, rfl⟩

end Config

namespace Workbench

open Config (Surroundings Spellings LoadedAlike Unmissed Missed)

/-- The nested projects, seen by a process that runs in a directory. -/
def runIn (directory : String) : Surroundings :=
  { nestedProjects with
    files := { nestedProjects.files with workingDirectory := directory } }

theorem runIn_project_spellings : Spellings (runIn "/p").files "s" "/p/./s" where
  inner := by decide +kernel
  outer := by decide +kernel
  innerDescends := by unfold Path.Descends; decide +kernel
  outerDescends := by unfold Path.Descends; decide +kernel
  same := by decide +kernel
  innerFits := by unfold Path.Fits; decide +kernel
  outerFits := by unfold Path.Fits; decide +kernel

theorem runIn_below_spellings : Spellings (runIn "/p/s").files "." "/p/s" where
  inner := by decide +kernel
  outer := by decide +kernel
  innerDescends := by unfold Path.Descends; decide +kernel
  outerDescends := by unfold Path.Descends; decide +kernel
  same := by decide +kernel
  innerFits := by unfold Path.Fits; decide +kernel
  outerFits := by unfold Path.Fits; decide +kernel

/-- From the project's own directory nothing is missed; from a directory in it the project is. -/
theorem runIn_relative :
    LoadedAlike (runIn "/p").files (Config.loadFromDirectory (runIn "/p") none "s")
        (Config.loadFromDirectory (runIn "/p") none "/p/./s") ∧
      Missed (runIn "/p/s") none "." "/p/s" := by
  constructor
  · have grounded : (runIn "/p").files.Enclosed (runIn "/p").files.workingPlace :=
      ⟨⟨by decide +kernel, by decide +kernel⟩, by decide +kernel, trivial⟩
    have inside := runIn_project_spellings.inside grounded
    refine (Config.relative_load none runIn_project_spellings grounded).1 (.inl ⟨"", ?_, ?_⟩)
    · decide +kernel
    · exact ((Config.nearestProject_iff runIn_project_spellings.innerDescends inside).mp
        (by decide +kernel)).found
  · have grounded : (runIn "/p/s").files.Enclosed (runIn "/p/s").files.workingPlace :=
      ⟨⟨by decide +kernel, by decide +kernel⟩, by decide +kernel,
        ⟨by decide +kernel, by decide +kernel⟩, by decide +kernel, trivial⟩
    have inside := runIn_below_spellings.inside grounded
    refine (Config.relative_load none runIn_below_spellings grounded).2 ?_
    rintro (⟨directory, among, has⟩ | nowhere)
    · exact (Config.nearestProject_none runIn_below_spellings.innerDescends inside).mp
        (by decide +kernel) directory among has
    · refine nowhere [['p']] ⟨by decide +kernel, by decide +kernel⟩ ⟨?_, ?_⟩
      · exact ⟨Config.projectFile_name.toIsName, by decide +kernel,
          ⟨by decide +kernel, by decide +kernel⟩, by decide +kernel, trivial⟩
      · exact Option.isSome_iff_exists.mp (by decide +kernel)

/-- The project that a process runs in is found from the absolute path of its directory, and not from
a dot. -/
theorem runIn_unlike : Spellings (runIn "/p/s").files "." "/p/s" ∧
    Config.loadFromDirectory (runIn "/p/s") none "." = .ok ⟨.empty, .empty, none⟩ ∧
    Config.loadFromDirectory (runIn "/p/s") none "/p/s" = .ok outerProject ∧
    ¬LoadedAlike (runIn "/p/s").files (Config.loadFromDirectory (runIn "/p/s") none ".")
      (Config.loadFromDirectory (runIn "/p/s") none "/p/s") := by
  have dot : Config.loadFromDirectory (runIn "/p/s") none "." = .ok ⟨.empty, .empty, none⟩ := by
    decide +kernel
  have spelled : Config.loadFromDirectory (runIn "/p/s") none "/p/s" = .ok outerProject := by
    decide +kernel
  refine ⟨runIn_below_spellings, dot, spelled, fun alike => ?_⟩
  rw [dot, spelled] at alike
  cases alike with
  | loaded project => exact absurd project (by decide)

end Workbench

end NativeBridge
