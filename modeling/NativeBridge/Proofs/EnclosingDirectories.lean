/-
Module: NativeBridge.Proofs.EnclosingDirectories
Purpose: The directories above a path are the places that are left when its names are taken off one
  by one from the end.
Main exports: Path.names, Path.Descends, Path.splitSlashes_append, Path.parentOf_names,
  Path.ancestorsOf_names, FileSystem.base, FileSystem.placeOf_eq, FileSystem.ancestors_places,
  FileSystem.absolute_places
-/
import Mathlib.Data.List.DropRight
import Mathlib.Data.List.Infix
import NativeBridge.FileSystem

namespace NativeBridge

/-!
A path is cut at its slashes, and the pieces that are neither empty nor a dot are its names.  Going
up takes the last name off, with all that stands behind it, and leaves the text in front as it is.
A path that starts with a dot goes up once more than it has names, from the dot to the empty path,
which is the same place.  A path that takes no step up spells the place of its names, from the root
or from where the process runs.
-/

namespace Path

/-- The names that a path spells. -/
def names (path : List Char) : List (List Char) :=
  (splitSlashes path).filter fun piece => !isSkipped piece

/-- A path takes no step up. -/
def Descends (path : String) : Prop :=
  Component.up ∉ components path

/-! ### Cutting and joining -/

theorem splitSlashes_plain (path : List Char) : ∀ piece ∈ splitSlashes path, '/' ∉ piece := by
  induction path with
  | nil => simp [splitSlashes]
  | cons c rest ih =>
    rw [splitSlashes]
    by_cases slash : c = '/'
    · rw [if_pos slash]
      intro piece among
      rcases List.mem_cons.mp among with rfl | among
      · exact List.not_mem_nil
      · exact ih piece among
    · rw [if_neg slash]
      cases cut : splitSlashes rest with
      | nil => exact absurd cut (splitSlashes_ne_nil rest)
      | cons first pieces =>
        rw [cut] at ih
        intro piece among
        rcases List.mem_cons.mp among with rfl | among
        · intro inside
          rcases List.mem_cons.mp inside with same | inside
          · exact slash same.symm
          · exact ih first List.mem_cons_self inside
        · exact ih piece (List.mem_cons_of_mem _ among)

/-- A slash cuts what is in front of it from what is behind it. -/
theorem splitSlashes_append (front rest : List Char) :
    splitSlashes (front ++ '/' :: rest) = splitSlashes front ++ splitSlashes rest := by
  induction front with
  | nil => rfl
  | cons c front ih =>
    rw [List.cons_append, splitSlashes, splitSlashes, ih]
    by_cases slash : c = '/'
    · rw [if_pos slash, if_pos slash, List.cons_append]
    · rw [if_neg slash, if_neg slash]
      cases cut : splitSlashes front with
      | nil => exact absurd cut (splitSlashes_ne_nil front)
      | cons => rfl

theorem splitSlashes_piece {piece : List Char} (plain : '/' ∉ piece) :
    splitSlashes piece = [piece] := by
  induction piece with
  | nil => rfl
  | cons c rest ih =>
    have other : ¬ c = '/' := fun same => plain (same ▸ List.mem_cons_self)
    have later : '/' ∉ rest := fun inside => plain (List.mem_cons_of_mem _ inside)
    rw [splitSlashes, if_neg other, ih later]

theorem joinSlashes_cons {piece : List Char} {pieces : List (List Char)} (more : pieces ≠ []) :
    joinSlashes (piece :: pieces) = piece ++ '/' :: joinSlashes pieces := by
  cases pieces with
  | nil => exact absurd rfl more
  | cons => rfl

theorem splitSlashes_joinSlashes {pieces : List (List Char)} (some : pieces ≠ [])
    (plain : ∀ piece ∈ pieces, '/' ∉ piece) : splitSlashes (joinSlashes pieces) = pieces := by
  induction pieces with
  | nil => exact absurd rfl some
  | cons piece pieces ih =>
    have first := splitSlashes_piece (plain piece List.mem_cons_self)
    by_cases more : pieces = []
    · subst more
      exact first
    · rw [joinSlashes_cons more, splitSlashes_append, first,
        ih more fun other among => plain other (List.mem_cons_of_mem _ among)]
      rfl

/-- The text of some pieces goes on as the text of more pieces does. -/
theorem joinSlashes_front {front pieces : List (List Char)} (before : front <+: pieces) :
    joinSlashes front <+: joinSlashes pieces := by
  obtain ⟨rest, rfl⟩ := before
  induction front with
  | nil => exact List.nil_prefix
  | cons piece front ih =>
    by_cases last : front = []
    · subst last
      cases rest with
      | nil => exact List.prefix_rfl
      | cons => exact List.prefix_append _ _
    · have more : front ++ rest ≠ [] := fun none => last (List.append_eq_nil_iff.mp none).1
      rw [joinSlashes_cons last, List.cons_append, joinSlashes_cons more]
      exact (List.prefix_append_right_inj _).mpr (List.cons_prefix_cons.mpr ⟨rfl, ih⟩)

/-! ### What a path starts with -/

/-- A path starts at the root, with a dot, with a name, or not at all. -/
inductive Starts : List Char → Prop
  | root (rest : List Char) : Starts ('/' :: rest)
  | dot : Starts ['.']
  | inside (rest : List Char) : Starts ('.' :: '/' :: rest)
  | empty : Starts []
  | name {path first : List Char} {pieces : List (List Char)} (start : Path.start path = none)
      (cut : splitSlashes path = first :: pieces) (some : first ≠ []) (other : first ≠ ['.']) :
      Starts path

/-- A piece that does not start with a slash is longer than what follows the first character. -/
theorem splitSlashes_cons {c : Char} (other : c ≠ '/') (rest : List Char) :
    ∃ piece pieces, splitSlashes rest = piece :: pieces ∧
      splitSlashes (c :: rest) = (c :: piece) :: pieces := by
  cases cut : splitSlashes rest with
  | nil => exact absurd cut (splitSlashes_ne_nil rest)
  | cons piece pieces => exact ⟨piece, pieces, rfl, by rw [splitSlashes, if_neg other, cut]⟩

theorem start_other {c : Char} (slash : c ≠ '/') (dot : c ≠ '.') (rest : List Char) :
    start (c :: rest) = none := by
  simp [start, slash, dot]

theorem start_hidden {c : Char} (slash : c ≠ '/') (rest : List Char) :
    start ('.' :: c :: rest) = none := by
  simp [start, slash]

theorem starts (path : List Char) : Starts path := by
  cases path with
  | nil => exact .empty
  | cons c rest =>
    by_cases slash : c = '/'
    · exact slash ▸ .root rest
    obtain ⟨piece, pieces, behind, cut⟩ := splitSlashes_cons slash rest
    by_cases dot : c = '.'
    · subst dot
      cases rest with
      | nil => exact .dot
      | cons d rest =>
        by_cases inner : d = '/'
        · exact inner ▸ .inside rest
        · obtain ⟨_, _, _, longer⟩ := splitSlashes_cons inner rest
          cases behind.symm.trans longer
          exact .name (start_hidden inner rest) cut (List.cons_ne_nil _ _) (by simp)
    · exact .name (start_other slash dot rest) cut (List.cons_ne_nil _ _)
        (fun same => dot (List.cons.inj same).1)

/-- A path that starts with a name does so wherever it is cut off. -/
theorem start_joinSlashes {first : List Char} (some : first ≠ []) (other : first ≠ ['.'])
    (plain : '/' ∉ first) (pieces : List (List Char)) :
    start (joinSlashes (first :: pieces)) = none := by
  obtain ⟨rest, text⟩ : ∃ rest, joinSlashes (first :: pieces) = first ++ rest := by
    by_cases more : pieces = []
    · exact ⟨[], by simp [more, joinSlashes]⟩
    · exact ⟨_, joinSlashes_cons more⟩
  rw [text]
  rcases first with _ | ⟨c, _ | ⟨d, first⟩⟩
  · exact absurd rfl some
  · have slash : c ≠ '/' := fun same => plain (same ▸ List.mem_cons_self)
    have dot : c ≠ '.' := fun same => other (same ▸ rfl)
    exact start_other slash dot rest
  · have slash : c ≠ '/' := fun same => plain (same ▸ List.mem_cons_self)
    have inner : d ≠ '/' := fun same => plain (same ▸ List.mem_cons_of_mem _ List.mem_cons_self)
    by_cases dot : c = '.'
    · exact dot ▸ start_hidden inner _
    · exact start_other slash dot _

theorem bodyPieces_plain (path : List Char) : ∀ piece ∈ bodyPieces path, '/' ∉ piece := by
  unfold bodyPieces
  split <;> split
  · exact fun _ among => absurd among List.not_mem_nil
  · exact splitSlashes_plain _
  · exact fun _ among => absurd among List.not_mem_nil
  · exact splitSlashes_plain _

theorem bodyPieces_name {path first : List Char} {pieces : List (List Char)}
    (unstarted : start path = none) (cut : splitSlashes path = first :: pieces) (some : first ≠ []) :
    bodyPieces path = first :: pieces := by
  have full : path ≠ [] := by
    rintro rfl
    cases cut
    exact some rfl
  simp [bodyPieces, unstarted, full, cut]

theorem startText_name {path : List Char} (unstarted : start path = none) : startText path = [] := by
  simp [startText, unstarted]

theorem joinSlashes_ne_nil {pieces : List (List Char)} (some : pieces ≠ [])
    (ends : isSkipped (pieces.getLast some) = false) : joinSlashes pieces ≠ [] := by
  cases pieces with
  | nil => exact absurd rfl some
  | cons piece pieces =>
    by_cases last : pieces = []
    · subst last
      intro none
      have empty : piece = [] := none
      simp [isSkipped, empty] at ends
    · rw [joinSlashes_cons last]
      exact List.append_ne_nil_of_right_ne_nil _ (List.cons_ne_nil _ _)

/-- Some of the pieces of a path, up to a name, make a path that starts as the path does and has just
these pieces. -/
theorem rejoined {path : List Char} {front : List (List Char)} (before : front <+: bodyPieces path)
    (some : front ≠ []) (ends : isSkipped (front.getLast some) = false) :
    start (startText path ++ joinSlashes front) = start path ∧
      bodyPieces (startText path ++ joinSlashes front) = front := by
  have nonempty := joinSlashes_ne_nil some ends
  have plain (piece : List Char) (among : piece ∈ front) : '/' ∉ piece :=
    bodyPieces_plain path piece (before.subset among)
  have cut := splitSlashes_joinSlashes some plain
  cases starts path with
  | root rest =>
    refine ⟨rfl, ?_⟩
    show bodyPieces ('/' :: joinSlashes front) = front
    cases text : joinSlashes front with
    | nil => exact absurd text nonempty
    | cons c others => exact (congrArg splitSlashes text).symm.trans cut
  | dot => exact absurd (List.prefix_nil.mp before) some
  | inside rest =>
    have body : bodyPieces ('.' :: '/' :: rest) = [] :: splitSlashes rest := rfl
    rw [body] at before
    cases front with
    | nil => exact absurd rfl some
    | cons piece more =>
      obtain ⟨rfl, -⟩ := List.cons_prefix_cons.mp before
      have longer : more ≠ [] := by
        rintro rfl
        simp [isSkipped] at ends
      rw [joinSlashes_cons longer] at cut ⊢
      exact ⟨rfl, cut⟩
  | empty => exact absurd (List.prefix_nil.mp before) some
  | @name _ first pieces unstarted split named other =>
    rw [bodyPieces_name unstarted split named] at before
    cases front with
    | nil => exact absurd rfl some
    | cons piece more =>
      obtain ⟨rfl, -⟩ := List.cons_prefix_cons.mp before
      have again : start (joinSlashes (piece :: more)) = none :=
        start_joinSlashes named other (plain piece List.mem_cons_self) more
      rw [startText_name unstarted, List.nil_append, unstarted]
      exact ⟨again, bodyPieces_name again cut named⟩

/-! ### Names -/

/-- A piece is a name or is passed over. -/
theorem names_bodyPieces (path : List Char) :
    (bodyPieces path).filter (fun piece => !isSkipped piece) = names path := by
  cases starts path with
  | root rest => cases rest <;> rfl
  | dot => rfl
  | inside rest => rfl
  | empty => rfl
  | name unstarted cut named => rw [bodyPieces_name unstarted cut named, names, cut]

theorem start_ne_up (path : List Char) : start path ≠ some .up := by
  unfold start
  split <;> simp

/-- A path takes no step up if none of its names is two dots. -/
theorem descends_iff {path : String} : Descends path ↔ ['.', '.'] ∉ names path.toList := by
  have step (piece : List Char) : componentOf piece = .up ↔ piece = ['.', '.'] := by
    unfold componentOf
    split <;> simp_all
  have started : Component.up ∉ (start path.toList).toList := by
    simpa using start_ne_up path.toList
  unfold Descends components componentsOf
  rw [names_bodyPieces]
  simp [started, step]

/-- A path is the text of its start and of its pieces. -/
theorem startText_append (path : List Char) :
    startText path ++ joinSlashes (bodyPieces path) = path := by
  cases starts path with
  | root rest =>
    cases rest with
    | nil => rfl
    | cons c rest => exact congrArg ('/' :: ·) (joinSlashes_splitSlashes (c :: rest))
  | dot => rfl
  | inside rest => exact congrArg ('.' :: ·) (joinSlashes_splitSlashes ('/' :: rest))
  | empty => rfl
  | name unstarted cut named =>
    rw [startText_name unstarted, bodyPieces_name unstarted cut named, ← cut, List.nil_append,
      joinSlashes_splitSlashes]

/-- What a path starts with is itself a path that starts so, and that has no names. -/
theorem startText_names (path : List Char) :
    start (startText path) = start path ∧ names (startText path) = [] := by
  cases starts path with
  | name unstarted =>
    rw [startText_name unstarted, unstarted]
    exact ⟨rfl, rfl⟩
  | _ => exact ⟨rfl, rfl⟩

theorem filter_dropWhile_skipped (pieces : List (List Char)) :
    (pieces.dropWhile isSkipped).filter (fun piece => !isSkipped piece) =
      pieces.filter fun piece => !isSkipped piece := by
  induction pieces with
  | nil => rfl
  | cons piece pieces ih =>
    cases skipped : isSkipped piece with
    | true => simp [skipped, ih]
    | false => simp [skipped]

/-- The pieces of a path that are put together again, up to the last name among them, make a path
that starts as the path does and spells the same names. -/
theorem cut_names {path : List Char} {pieces : List (List Char)}
    (before : pieces <+: bodyPieces path) :
    start (startText path ++ joinSlashes (pieces.reverse.dropWhile isSkipped).reverse) =
        start path ∧
      names (startText path ++ joinSlashes (pieces.reverse.dropWhile isSkipped).reverse) =
        pieces.filter fun piece => !isSkipped piece := by
  have kept :
      (pieces.reverse.dropWhile isSkipped).reverse.filter (fun piece => !isSkipped piece) =
        pieces.filter fun piece => !isSkipped piece := by
    rw [List.filter_reverse, filter_dropWhile_skipped, List.filter_reverse, List.reverse_reverse]
  by_cases none : (pieces.reverse.dropWhile isSkipped).reverse = []
  · rw [none] at kept ⊢
    rw [joinSlashes, List.append_nil, ← kept]
    exact startText_names path
  · have front : (pieces.reverse.dropWhile isSkipped).reverse <+: bodyPieces path :=
      ( List.rdropWhile_prefix isSkipped pieces).trans before
    have ends : isSkipped ((pieces.reverse.dropWhile isSkipped).reverse.getLast none) = false :=
      Bool.eq_false_iff.mpr (pieces.rdropWhile_last_not isSkipped none)
    obtain ⟨same, body⟩ := rejoined front none ends
    refine ⟨same, ?_⟩
    rw [← names_bodyPieces, body, kept]

/-- The pieces of a path end in nothing but pieces that are passed over, or in its last name with
such pieces behind it. -/
theorem trailing_cases (path : List Char) :
    ((bodyPieces path).reverse.dropWhile isSkipped = [] ∧ names path = []) ∨
    ∃ last rest, (bodyPieces path).reverse.dropWhile isSkipped = last :: rest ∧
      rest.reverse <+: bodyPieces path ∧
      names path = rest.reverse.filter (fun piece => !isSkipped piece) ++ [last] := by
  have same := filter_dropWhile_skipped (bodyPieces path).reverse
  rw [List.filter_reverse, names_bodyPieces] at same
  cases found : (bodyPieces path).reverse.dropWhile isSkipped with
  | nil =>
    rw [found] at same
    exact .inl ⟨rfl, List.reverse_eq_nil_iff.mp same.symm⟩
  | cons last rest =>
    have kept := List.rdropWhile_prefix isSkipped (bodyPieces path)
    rw [List.rdropWhile, found, List.reverse_cons] at kept
    have named : isSkipped last = false := by
      have head := List.head?_dropWhile_not isSkipped (bodyPieces path).reverse
      simpa [found] using head
    rw [found, List.filter_cons_of_pos (by simp [named])] at same
    refine .inr ⟨last, rest, rfl, (List.prefix_append _ _).trans kept, ?_⟩
    rw [← List.reverse_reverse (names path), ← same, List.reverse_cons, List.filter_reverse]

/-- Going up from a path that has names takes off its last name. -/
theorem parentOf_names {path : List Char} (named : names path ≠ []) :
    ∃ parent, parentOf path = some parent ∧ start parent = start path ∧
      names parent = (names path).dropLast ∧ parent <+: path := by
  obtain ⟨-, nameless⟩ | ⟨last, rest, found, before, spelled⟩ := trailing_cases path
  · exact absurd nameless named
  · obtain ⟨started, kept⟩ := cut_names before
    rw [List.reverse_reverse] at started kept
    refine ⟨_, by rw [parentOf, found], started, by rw [kept, spelled, List.dropLast_concat], ?_⟩
    have front : (rest.dropWhile isSkipped).reverse <+: bodyPieces path := by
      have cut := List.rdropWhile_prefix isSkipped rest.reverse
      rw [List.rdropWhile, List.reverse_reverse] at cut
      exact cut.trans before
    have longer := (List.prefix_append_right_inj (startText path)).mpr (joinSlashes_front front)
    rwa [startText_append] at longer

/-- A path that has no names has nothing above it, but for the empty path above a dot. -/
theorem parentOf_nameless {path : List Char} (nameless : names path = []) :
    parentOf path = if start path = some .current then some [] else none := by
  obtain ⟨found, -⟩ | ⟨last, rest, -, -, spelled⟩ := trailing_cases path
  · rw [parentOf, found]
  · rw [nameless] at spelled
    exact absurd spelled.symm (List.append_ne_nil_of_right_ne_nil _ (List.cons_ne_nil _ _))

theorem ancestorsOf_some {path parent : List Char} (found : parentOf path = some parent) :
    ancestorsOf path = path :: ancestorsOf parent := by
  rw [ancestorsOf]
  split
  · next _ same =>
    cases found.symm.trans same
    rfl
  · next none => cases found.symm.trans none

theorem ancestorsOf_none {path : List Char} (none : parentOf path = none) :
    ancestorsOf path = [path] := by
  rw [ancestorsOf]
  split
  · next some => cases none.symm.trans some
  · rfl

/-- A path and those above it spell the names of the path with fewer and fewer of the last ones; only
a path that starts with a dot has one more above it, which is empty. -/
theorem ancestorsOf_names (path : List Char) :
    (ancestorsOf path).map names = (names path).inits.reverse ++
      if start path = some .current then [[]] else [] := by
  induction path using ancestorsOf.induct with
  | case1 path parent found ih =>
    rw [ancestorsOf_some found, List.map_cons, ih]
    by_cases nameless : names path = []
    · rw [parentOf_nameless nameless] at found
      split at found
      · next dot =>
        cases found
        rw [nameless, if_pos dot]
        rfl
      · cases found
    · obtain ⟨_, again, started, kept, -⟩ := parentOf_names nameless
      cases found.symm.trans again
      have last := List.dropLast_append_getLast nameless
      rw [started, kept, ← List.cons_append]
      congr 1
      conv => rhs; rw [← last, List.inits_append]
      simpa using last.symm
  | case2 path found =>
    have nameless : names path = [] := by
      by_contra named
      obtain ⟨_, some, -⟩ := parentOf_names named
      cases found.symm.trans some
    rw [ancestorsOf_none found]
    rw [parentOf_nameless nameless] at found
    split at found
    · cases found
    · next undotted => simp [nameless, undotted]

/-- Going up leaves the front of a path, and takes no more than a name. -/
theorem parentOf_front {path parent : List Char} (found : parentOf path = some parent) :
    parent <+: path ∧ names parent <+: names path ∧
      (start parent = some .root ↔ start path = some .root) := by
  by_cases nameless : names path = []
  · rw [parentOf_nameless nameless] at found
    split at found
    · next dot =>
      cases found
      exact ⟨List.nil_prefix, List.nil_prefix, by rw [dot]; simp [start]⟩
    · cases found
  · obtain ⟨_, again, started, kept, before⟩ := parentOf_names nameless
    cases found.symm.trans again
    exact ⟨before, kept ▸ List.dropLast_prefix _, by rw [started]⟩

/-- What is above a path is a front of it. -/
theorem ancestorsOf_front (path : List Char) : ∀ above ∈ ancestorsOf path,
    above <+: path ∧ names above <+: names path ∧
      (start above = some .root ↔ start path = some .root) := by
  induction path using ancestorsOf.induct with
  | case1 path parent found ih =>
    rw [ancestorsOf_some found]
    obtain ⟨front, fewer, rooted⟩ := parentOf_front found
    intro above among
    rcases List.mem_cons.mp among with rfl | among
    · exact ⟨List.prefix_rfl, List.prefix_rfl, Iff.rfl⟩
    · obtain ⟨text, spelled, started⟩ := ih above among
      exact ⟨text.trans front, spelled.trans fewer, started.trans rooted⟩
  | case2 path found =>
    rw [ancestorsOf_none found]
    intro above among
    cases List.mem_singleton.mp among
    exact ⟨List.prefix_rfl, List.prefix_rfl, Iff.rfl⟩

theorem isAbsolute_iff {path : String} :
    isAbsolute path = true ↔ start path.toList = some .root := by
  unfold isAbsolute
  cases path.toList with
  | nil => simp [start]
  | cons c rest =>
    by_cases slash : c = '/'
    · subst slash
      simp [start]
    · have unrooted : start (c :: rest) ≠ some .root := by
        unfold start
        split
        · next same => exact absurd (List.cons.inj same).1 slash
        all_goals simp
      simp [slash, unrooted]

end Path

/-! ### Places -/

namespace FileSystem

variable {files : FileSystem} {path : String}

/-- Where a path is followed from, as names in reverse. -/
def base (files : FileSystem) (path : String) : List (List Char) :=
  if Path.isAbsolute path then [] else files.workingPlace

/-- Where one piece of a path leads. -/
def stepTo (place : List (List Char)) (piece : List Char) : List (List Char) :=
  if Path.isSkipped piece then place
  else if piece = ['.', '.'] then place.drop 1
  else piece :: place

/-- Pieces that are not two dots lead down their names. -/
theorem foldl_stepTo {pieces : List (List Char)} (descends : ['.', '.'] ∉ pieces)
    (place : List (List Char)) :
    pieces.foldl stepTo place =
      (pieces.filter fun piece => !Path.isSkipped piece).reverse ++ place := by
  induction pieces generalizing place with
  | nil => rfl
  | cons piece pieces ih =>
    have other : ¬ piece = ['.', '.'] := fun same => descends (same ▸ List.mem_cons_self)
    rw [List.foldl_cons, ih fun among => descends (List.mem_cons_of_mem _ among)]
    cases skipped : Path.isSkipped piece with
    | true => simp [stepTo, skipped]
    | false => simp [stepTo, skipped, other]

/-- A path that takes no step up spells the place of its names. -/
theorem placeOf_eq (files : FileSystem) (descends : Path.Descends path) :
    files.placeOf path = (Path.names path.toList).reverse ++ files.base path := by
  have body : ['.', '.'] ∉ Path.bodyPieces path.toList := by
    intro among
    have name : ['.', '.'] ∈ Path.names path.toList := by
      rw [← Path.names_bodyPieces]
      exact List.mem_filter.mpr ⟨among, rfl⟩
    exact Path.descends_iff.mp descends name
  rw [← Path.names_bodyPieces]
  exact foldl_stepTo body (files.base path)

/-- What is above a path that takes no step up takes none either, and is followed from where the path
is. -/
theorem ancestors_descend (files : FileSystem) (descends : Path.Descends path) :
    ∀ above ∈ Path.ancestors path, Path.Descends above ∧ files.base above = files.base path := by
  intro above among
  obtain ⟨text, listed, rfl⟩ := List.mem_map.mp among
  obtain ⟨-, fewer, rooted⟩ := Path.ancestorsOf_front path.toList text listed
  have spelled : (String.ofList text).toList = text := String.toList_ofList
  constructor
  · rw [Path.descends_iff, spelled]
    exact fun up => Path.descends_iff.mp descends (fewer.subset up)
  · have same : Path.isAbsolute (String.ofList text) = Path.isAbsolute path := by
      rw [Bool.eq_iff_iff, Path.isAbsolute_iff, Path.isAbsolute_iff, spelled, rooted]
    rw [base, base, same]

/-- The directories above a path that takes no step up are the places above its own, nearest first,
up to where the path is followed from. -/
theorem ancestors_places (files : FileSystem) (descends : Path.Descends path) :
    (Path.ancestors path).map files.placeOf =
      (Path.names path.toList).reverse.tails.map (· ++ files.base path) ++
        if Path.start path.toList = some .current then [files.base path] else [] := by
  have placed : (Path.ancestors path).map files.placeOf =
      ((Path.ancestorsOf path.toList).map Path.names).map fun names =>
        names.reverse ++ files.base path := by
    rw [Path.ancestors, List.map_map, List.map_map]
    apply List.map_congr_left
    intro text listed
    obtain ⟨descends, same⟩ := files.ancestors_descend descends _ (List.mem_map_of_mem listed)
    rw [Function.comp_apply, Function.comp_apply, files.placeOf_eq descends, same,
      String.toList_ofList]
  rw [placed, Path.ancestorsOf_names, List.map_append, List.tails_eq_inits, List.reverse_reverse,
    ← List.map_reverse, List.map_map]
  congr 1
  split <;> rfl

/-- The directories above an absolute path are the places above its own, up to the root. -/
theorem absolute_places (files : FileSystem) (absolute : Path.isAbsolute path = true)
    (descends : Path.Descends path) :
    (Path.ancestors path).map files.placeOf = (files.placeOf path).tails := by
  have undotted : Path.start path.toList ≠ some .current := by
    rw [Path.isAbsolute_iff.mp absolute]
    simp
  have top : files.base path = [] := if_pos absolute
  rw [files.ancestors_places descends, if_neg undotted, files.placeOf_eq descends, top]
  simp

end FileSystem

end NativeBridge
