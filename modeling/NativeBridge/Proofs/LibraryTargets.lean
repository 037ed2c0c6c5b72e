/-
Module: NativeBridge.Proofs.LibraryTargets
Purpose: When a load tells a library that is not found from one that is found and refused.
Main exports: LibraryLoader.IsBare, LibraryLoader.ToldApart, LibraryLoader.load_refused,
  LibraryLoader.bare_found_iff, LibraryLoader.toldApart_unless_bare
-/
import NativeBridge.LibraryLoader
import NativeBridge.Proofs.PathLookup

namespace NativeBridge

open NativeBridge.Path (names)

namespace LibraryLoader

/-!
A load hands a target to the system: the file that was found, or the usual file name if none was.
When the system refuses, the load looks at the target alone.  One that leads through a directory
counts as a file that could not be loaded, and a bare file name as a library that was not found.
Bare targets can be found files too: names that have an extension and no directory, and short names
that are found in a search directory whose path is empty.
-/

/-- A target that neither starts at the root nor leads through a directory. -/
def IsBare (target : String) : Prop :=
  Path.isAbsolute target = false ∧ hasDirectory target = false

/-- Whatever the system refuses, a load reports a library as not found only if there is no file for
its name, and as failed if there is one. -/
structure ToldApart (loader : LibraryLoader) (files : FileSystem) (name : String) : Prop where
  missing {ι : Type} (system : SystemLoader ι) (named : String) :
    loader.load files system name = .error (.libraryNotFound named) →
      loader.resolve files name = none
  refused {ι : Type} (system : SystemLoader ι) (path reason : String) :
    loader.resolve files name = some path → system path = .error reason →
      loader.load files system name = .error (.loadFailed reason)

/-! ### Bare targets -/

theorem names_append (front rest : List Char) :
    names (front ++ '/' :: rest) = names front ++ names rest := by
  simp only [names, Path.splitSlashes_append, List.filter_append]

theorem length_components (path : String) : (Path.components path).length =
    (Path.start path.toList).toList.length + (names path.toList).length := by
  rw [Path.components, Path.componentsOf, Path.names_bodyPieces, List.length_append,
    List.length_map]

theorem direct_iff {path : String} : hasDirectory path = false ↔
    (Path.start path.toList).toList.length + (names path.toList).length ≤ 1 := by
  rw [hasDirectory, length_components, decide_eq_false_iff_not, not_lt]

/-- A path without a slash is bare. -/
theorem isBare_plain {path : String} (plain : '/' ∉ path.toList) : IsBare path := by
  refine ⟨Path.isAbsolute_plain plain, direct_iff.mpr ?_⟩
  generalize path.toList = chars at plain ⊢
  cases Path.starts chars with
  | root | inside => simp at plain
  | dot | empty => decide
  | name unstarted =>
    rw [unstarted, names, Path.splitSlashes_piece plain, Option.toList_none, List.length_nil,
      Nat.zero_add]
    exact List.length_filter_le _ _

/-- A relative path leads through a directory if there is a name behind a slash. -/
theorem not_isBare_of_slash {path : String} {front rest : List Char}
    (text : path.toList = front ++ '/' :: rest) (named : names rest ≠ []) : ¬IsBare path := by
  rintro ⟨relative, direct⟩
  rw [direct_iff] at direct
  have behind : 0 < (names rest).length := List.length_pos_iff.mpr named
  rw [text, names_append, List.length_append, ← text] at direct
  rw [Path.isAbsolute] at relative
  generalize path.toList = chars at text direct relative
  cases Path.starts chars with
  | root => simp at relative
  | inside rest =>
    simp only [Path.start, Option.toList_some, List.length_singleton] at direct
    omega
  | dot | empty => cases front <;> simp at text
  | name unstarted cut filled other =>
    rw [text, Path.splitSlashes_append] at cut
    cases first : Path.splitSlashes front with
    | nil => exact Path.splitSlashes_ne_nil front first
    | cons piece pieces =>
      rw [first, List.cons_append] at cut
      cases cut
      have leads : 0 < (names front).length := by
        simp [names, first, Path.isSkipped, filled, other]
      omega

/-- What has an extension is named. -/
theorem named_of_extension {path : String} (extended : Path.hasExtension path = true) :
    names path.toList ≠ [] := by
  intro unnamed
  rw [Path.hasExtension, Path.fileNameOf] at extended
  have passed : (Path.bodyPieces path.toList).reverse.dropWhile Path.isSkipped = [] := by
    rw [← Path.names_bodyPieces, List.filter_eq_nil_iff] at unnamed
    rw [List.dropWhile_eq_nil_iff]
    intro piece among
    simpa using unnamed piece (List.mem_reverse.mp among)
  rw [passed] at extended
  cases extended

/-- A file name with an extension is a bare target unless it leads through a directory. -/
theorem isBare_path {name : String} (path : isPath name = true) :
    IsBare name ↔ hasDirectory name = false := by
  refine ⟨And.right, fun direct => ⟨?_, direct⟩⟩
  have extended : Path.hasExtension name = true := by simpa [isPath, direct] using path
  have named : 0 < (names name.toList).length :=
    List.length_pos_iff.mpr (named_of_extension extended)
  rw [direct_iff] at direct
  rw [Path.isAbsolute]
  generalize name.toList = chars at direct named
  cases Path.starts chars with
  | root rest =>
    simp only [Path.start, Option.toList_some, List.length_singleton] at direct
    omega
  | dot | inside | empty => rfl
  | name unstarted cut =>
    cases chars with
    | nil => rfl
    | cons c rest =>
      have other : c ≠ '/' := by
        rintro rfl
        simp [Path.start] at unstarted
      simpa using other

/-! ### Short names -/

/-- The file name of a library ends in its extension. -/
theorem candidateNames_text {name file : String} (among : file ∈ candidateNames name) :
    ∃ front, file.toList = front ++ ['.', 's', 'o'] ∧ ('/' ∈ front ↔ '/' ∈ name.toList) := by
  rcases List.mem_cons.mp among with rfl | among
  · exact ⟨"lib".toList ++ name.toList, by simp [usualName], by simp⟩
  · cases List.mem_singleton.mp among
    exact ⟨name.toList, by simp, Iff.rfl⟩

/-- A path that ends in the extension of libraries is bare if it has no slash. -/
theorem isBare_library {path : String} {front : List Char}
    (text : path.toList = front ++ ['.', 's', 'o']) : IsBare path ↔ '/' ∉ path.toList := by
  refine ⟨fun bare slash => ?_, isBare_plain⟩
  have inside : '/' ∈ front := by simpa [text] using slash
  obtain ⟨before, rest, rfl⟩ := List.append_of_mem inside
  rw [List.append_assoc, List.cons_append] at text
  refine not_isBare_of_slash text ?_ bare
  have letter : 's' ∈ rest ++ ['.', 's', 'o'] := by simp
  obtain ⟨piece, among, within⟩ := (Path.mem_splitSlashes (by decide) _).mp letter
  refine List.ne_nil_of_mem (List.mem_filter.mpr ⟨among, ?_⟩)
  rw [Bool.not_eq_true', Path.isSkipped, Bool.or_eq_false_iff]
  constructor
  · rw [beq_eq_false_iff_ne]
    rintro rfl
    cases within
  · rw [beq_eq_false_iff_ne]
    rintro rfl
    simp at within

/-- What continues a path is there as it is, or behind a slash. -/
theorem join_text (directory file : String) :
    (Path.join directory file = file ∧ (directory = "" ∨ '/' ∈ file.toList)) ∨
      ∃ front, (Path.join directory file).toList = front ++ '/' :: file.toList := by
  cases absolute : Path.isAbsolute file with
  | true =>
    have slash : '/' ∈ file.toList := List.mem_of_head? (by simpa [Path.isAbsolute] using absolute)
    exact .inl ⟨by simp [Path.join, absolute], .inr slash⟩
  | false =>
    obtain ⟨empty, joined⟩ | ⟨front, joined, -⟩ := Path.join_cases directory absolute
    · exact .inl ⟨joined, .inl (by simpa using empty)⟩
    · exact .inr ⟨front, joined⟩

section

variable {loader : LibraryLoader} {files : FileSystem} {name path : String}

theorem resolve_path (spelled : isPath name = true) :
    loader.resolve files name = some path ↔ files.exists? name = true ∧ path = name := by
  rw [resolve, if_pos spelled]
  split
  · next there => simp [there, eq_comm]
  · next missing => simp [missing]

/-- The file that was found for a short name is one of the places it is looked for. -/
theorem mem_candidates (short : isPath name = false)
    (found : loader.resolve files name = some path) : path ∈ loader.candidates name := by
  rw [resolve, if_neg (by simp [short])] at found
  exact List.mem_of_find?_eq_some found

/-- A short name is found at a bare target if it has no slash and is found in a search directory
with an empty path. -/
theorem isBare_short (short : isPath name = false)
    (found : loader.resolve files name = some path) :
    IsBare path ↔ "" ∈ loader.searchPaths ∧ path ∈ candidateNames name ∧ '/' ∉ name.toList := by
  constructor
  · intro bare
    obtain ⟨directory, listed, file, among, rfl⟩ : ∃ directory ∈ loader.searchPaths,
        ∃ file ∈ candidateNames name, Path.join directory file = path := by
      simpa [candidates] using mem_candidates short found
    obtain ⟨front, text, slashes⟩ := candidateNames_text among
    obtain ⟨joined, empty⟩ | ⟨before, joined⟩ := join_text directory file
    · rw [joined, isBare_library text] at bare
      have same : directory = "" := empty.resolve_right bare
      refine ⟨same ▸ listed, joined.symm ▸ among, fun slash => bare ?_⟩
      rw [text]
      exact List.mem_append_left _ (slashes.mpr slash)
    · rw [text, ← List.cons_append, ← List.append_assoc] at joined
      have plain := (isBare_library joined).mp bare
      simp [joined] at plain
  · rintro ⟨-, among, plain⟩
    obtain ⟨front, text, slashes⟩ := candidateNames_text among
    rw [isBare_library text, text]
    simpa [slashes] using plain

/-- What is found is a bare target if the name is a bare file name with an extension, or a short name
that is found in a search directory with an empty path. -/
theorem bare_found_iff (found : loader.resolve files name = some path) :
    IsBare path ↔ isPath name = true ∧ hasDirectory name = false ∨
      isPath name = false ∧ "" ∈ loader.searchPaths ∧ path ∈ candidateNames name ∧
        '/' ∉ name.toList := by
  cases spelled : isPath name with
  | true =>
    obtain ⟨-, rfl⟩ := (resolve_path spelled).mp found
    simp [isBare_path spelled]
  | false => simp [isBare_short spelled found]

/-! ### Loads -/

/-- A file that is found and refused is reported by the shape of its path. -/
theorem load_refused {ι : Type} {system : SystemLoader ι} {reason : String}
    (found : loader.resolve files name = some path) (refusal : system path = .error reason) :
    (IsBare path → loader.load files system name = .error (.libraryNotFound name)) ∧
      (¬IsBare path → loader.load files system name = .error (.loadFailed reason)) := by
  have target : loader.target files name = .ok path := by rw [LibraryLoader.target, found]
  rw [load, target]
  simp only [refusal]
  constructor
  · rintro ⟨relative, direct⟩
    rw [if_neg (by simp [relative, direct])]
  · intro leads
    rw [if_pos]
    rw [Bool.or_eq_true]
    by_contra neither
    rw [not_or, Bool.not_eq_true, Bool.not_eq_true] at neither
    exact leads neither

/-- A found file that the system does not refuse is loaded. -/
theorem load_accepted {ι : Type} {system : SystemLoader ι} {image : ι}
    (found : loader.resolve files name = some path) (loaded : system path = .ok image) :
    loader.load files system name = .ok image := by
  rw [load, LibraryLoader.target, found]
  simp only [loaded]

/-- A load tells what is not found from what is refused unless it finds a bare target.  A bare target
is found for a file name that has an extension and no directory, and for a short name in a search
directory with an empty path; if the system refuses it, the library is reported as not found. -/
theorem toldApart_unless_bare (loader : LibraryLoader) (files : FileSystem) (name : String) :
    (loader.ToldApart files name ↔
      ∀ path, loader.resolve files name = some path → ¬IsBare path) ∧
    (∀ path, loader.resolve files name = some path →
      (IsBare path ↔ isPath name = true ∧ hasDirectory name = false ∨
        isPath name = false ∧ "" ∈ loader.searchPaths ∧ path ∈ candidateNames name ∧
          '/' ∉ name.toList)) ∧
    (∀ {ι : Type} (system : SystemLoader ι) path reason,
      loader.resolve files name = some path → system path = .error reason → IsBare path →
        loader.load files system name = .error (.libraryNotFound name)) := by
  refine ⟨⟨?_, ?_⟩, fun path => bare_found_iff, ?_⟩
  · intro apart path found bare
    let refusing : SystemLoader Unit := fun _ => .error ""
    have refusal : refusing path = .error "" := rfl
    cases ((load_refused found refusal).1 bare).symm.trans
      (apart.refused refusing path "" found refusal)
  · intro never
    refine ⟨?_, ?_⟩
    · intro ι system named answer
      cases found : loader.resolve files name with
      | none => rfl
      | some path =>
        cases said : system path with
        | ok image => cases answer.symm.trans (load_accepted found said)
        | error reason => cases answer.symm.trans ((load_refused found said).2 (never path found))
    · intro ι system path reason found refusal
      exact (load_refused found refusal).2 (never path found)
  · intro ι system path reason found refusal bare
    exact (load_refused found refusal).1 bare

end

end LibraryLoader

namespace Workbench

open LibraryLoader (IsBare ToldApart)

/-- Two libraries that no system loads, one of them where the system keeps its own. -/
def brokenLibraries : FileSystem :=
  FileSystem.ofListing [] [("/w/broken.so", []), ("/usr/lib/libworn.so", [])] "/w"

/-- The loader of a process in the directory of the first. -/
def homeLoader : LibraryLoader := .ofWorkingDirectory "/w"

theorem brokenLibraries_found :
    homeLoader.resolve brokenLibraries "worn" = some "/usr/lib/libworn.so" ∧
    homeLoader.resolve brokenLibraries "broken.so" = some "broken.so" := by
  decide +kernel

/-- A file that is there and refused is reported as not found. -/
theorem brokenLibrary_untold : ¬homeLoader.ToldApart brokenLibraries "broken.so" := by
  intro apart
  let refusing : SystemLoader Unit := fun _ => .error "invalid ELF header"
  have answer : homeLoader.load brokenLibraries refusing "broken.so" =
      .error (.libraryNotFound "broken.so") := by
    decide +kernel
  cases brokenLibraries_found.2.symm.trans (apart.missing refusing _ answer)

/-- The library the system keeps is told apart, and the one in the working directory is not, whatever
the system's reason is. -/
theorem brokenLibraries_told :
    homeLoader.ToldApart brokenLibraries "worn" ∧
    IsBare "broken.so" ∧
    ∀ reason, homeLoader.load brokenLibraries (fun _ => .error reason : SystemLoader Unit)
      "broken.so" = .error (.libraryNotFound "broken.so") := by
  obtain ⟨worn, broken⟩ := brokenLibraries_found
  obtain ⟨told, wornShape, -⟩ :=
    LibraryLoader.toldApart_unless_bare homeLoader brokenLibraries "worn"
  obtain ⟨-, brokenShape, unloaded⟩ :=
    LibraryLoader.toldApart_unless_bare homeLoader brokenLibraries "broken.so"
  have bare : IsBare "broken.so" := (brokenShape _ broken).mpr (.inl (by decide))
  refine ⟨told.mpr fun path found shape => ?_, bare, fun reason => ?_⟩
  · rcases (wornShape path found).mp shape with ⟨spelled, -⟩ | ⟨-, listed, -⟩
    · exact absurd spelled (by decide)
    · exact absurd listed (by decide)
  · exact unloaded (fun _ => .error reason) _ reason broken rfl bare

end Workbench

end NativeBridge
