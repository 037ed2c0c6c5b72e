/-
Module: NativeBridge.Proofs.PathLookup
Purpose: A path that takes no step up leads to what stands at the place it spells.
Main exports: IsName, IsFileName, Path.Fits, FileSystem.Enclosed, Path.splitSlashes_join,
  Path.fits_above, FileSystem.follow_found, FileSystem.lookup_join
-/
import NativeBridge.Proofs.EnclosingDirectories
import NativeBridge.Proofs.TextCut

namespace NativeBridge

/-!
Following a path asks at every piece whether the place reached so far is a directory.  A path that
ends in a name and takes no step up is followed to its end exactly if all the places above its own
are directories; what is found there depends on the place alone, and on how long the path's text is,
but not on how the path is spelled.
-/

/-- A name that can be part of a path: it has no NUL, and is not too long. -/
structure IsName (name : List Char) : Prop where
  text : '\x00' ∉ name
  fits : (Text.Utf8.encodeChars name).length ≤ FileSystem.maxNameBytes

/-- A name that a file can have, and that no path passes over or steps up at. -/
structure IsFileName (name : List Char) : Prop extends IsName name where
  plain : '/' ∉ name
  named : Path.isSkipped name = false
  other : name ≠ ['.', '.']

/-- A path that is not too long to be followed. -/
def Path.Fits (path : String) : Prop :=
  (Text.Utf8.encode path).length ≤ FileSystem.maxPathBytes

/-- All the places above a place are directories, and the names down to it can be names. -/
def FileSystem.Enclosed (files : FileSystem) : List (List Char) → Prop
  | [] => True
  | name :: above =>
      IsName name ∧ files.entry above.reverse = some .directory ∧ files.Enclosed above

/-! ### The pieces of a joined path -/

namespace Path

/-- What is not a slash stands in a path if it stands in one of its pieces. -/
theorem mem_splitSlashes {c : Char} (other : c ≠ '/') (path : List Char) :
    c ∈ path ↔ ∃ piece ∈ splitSlashes path, c ∈ piece := by
  induction path with
  | nil => simp [splitSlashes]
  | cons d rest ih =>
    by_cases slash : d = '/'
    · subst slash
      simp [splitSlashes, other, ih]
    · obtain ⟨piece, pieces, behind, cut⟩ := splitSlashes_cons slash rest
      rw [behind] at ih
      rw [cut, List.mem_cons, ih]
      simp [or_assoc]

/-- Pieces have no NUL if the names among them have none. -/
theorem texts_of_names {pieces : List (List Char)}
    (texts : ∀ name ∈ pieces.filter fun piece => !isSkipped piece, '\x00' ∉ name) :
    ∀ piece ∈ pieces, '\x00' ∉ piece := by
  intro piece among
  cases skipped : isSkipped piece with
  | true =>
    obtain rfl | rfl : piece = [] ∨ piece = ['.'] := by simpa [isSkipped] using skipped
    · exact List.not_mem_nil
    · decide
  | false => exact texts piece (List.mem_filter.mpr ⟨among, by simp [skipped]⟩)

/-- A name is put behind a path as it is if the path is empty, and behind a slash otherwise, which may
be the one the path ends in. -/
theorem join_cases (directory : String) {name : String} (relative : isAbsolute name = false) :
    (directory.toList = [] ∧ join directory name = name) ∨
    ∃ front, (join directory name).toList = front ++ '/' :: name.toList ∧
      (directory.toList = front ++ ['/'] ∨ directory.toList = front ∧ front ≠ []) := by
  unfold join
  by_cases empty : directory.isEmpty = true
  · exact .inl ⟨by simp [String.isEmpty_iff.mp empty], by rw [if_pos (by simp [empty])]⟩
  · have nonempty : directory.toList ≠ [] := by simpa [String.isEmpty_iff] using empty
    rw [if_neg (by simp [relative, empty])]
    by_cases slash : directory.toList.getLast? = some '/'
    · obtain ⟨front, text⟩ := List.getLast?_eq_some_iff.mp slash
      exact .inr ⟨front, by simp [text], .inl text⟩
    · exact .inr ⟨directory.toList, by simp [slash], .inr ⟨rfl, nonempty⟩⟩

theorem isAbsolute_plain {name : String} (plain : '/' ∉ name.toList) : isAbsolute name = false := by
  unfold isAbsolute
  cases chars : name.toList with
  | nil => rfl
  | cons c rest =>
    have other : c ≠ '/' := fun same => plain (chars ▸ same ▸ List.mem_cons_self)
    simpa using other

theorem isAbsolute_join (directory : String) {name : String} (plain : '/' ∉ name.toList) :
    isAbsolute (join directory name) = isAbsolute directory := by
  have relative := isAbsolute_plain plain
  obtain ⟨empty, joined⟩ | ⟨front, joined, text⟩ := join_cases directory relative
  · rw [joined, relative, isAbsolute, empty]
    rfl
  · rw [isAbsolute, isAbsolute, joined]
    cases front with
    | nil =>
      obtain text | ⟨-, some⟩ := text
      · rw [text]
        rfl
      · exact absurd rfl some
    | cons c front =>
      obtain text | ⟨text, -⟩ := text <;> rw [text] <;> rfl

/-- A name continues a path as its last piece; the pieces in front of it spell the path. -/
theorem splitSlashes_join (directory : String) {name : String} (plain : '/' ∉ name.toList) :
    ∃ front, splitSlashes (join directory name).toList = front ++ [name.toList] ∧
      front.filter (fun piece => !isSkipped piece) = names directory.toList := by
  have last := splitSlashes_piece plain
  obtain ⟨empty, joined⟩ | ⟨front, joined, text⟩ := join_cases directory (isAbsolute_plain plain)
  · exact ⟨[], by rw [joined, last, List.nil_append], by rw [empty]; rfl⟩
  · refine ⟨splitSlashes front, by rw [joined, splitSlashes_append, last], ?_⟩
    obtain text | ⟨text, -⟩ := text
    · rw [names, text, splitSlashes_append, List.filter_append]
      simp [splitSlashes, isSkipped]
    · rw [text, names]

/-- A name behind a path adds its own length, and that of a slash at most. -/
theorem join_length (directory : String) {name : String} (relative : isAbsolute name = false) :
    (Text.Utf8.encode directory).length + (Text.Utf8.encode name).length ≤
        (Text.Utf8.encode (join directory name)).length ∧
      (Text.Utf8.encode (join directory name)).length ≤
        (Text.Utf8.encode directory).length + 1 + (Text.Utf8.encode name).length := by
  have slash : (Text.Utf8.encodeChars ['/']).length = 1 := rfl
  have longer (rest : List Char) : (Text.Utf8.encodeChars ('/' :: rest)).length =
      1 + (Text.Utf8.encodeChars rest).length := by
    rw [← List.singleton_append, Text.Utf8.encodeChars_append, List.length_append, slash]
  unfold Text.Utf8.encode
  obtain ⟨empty, joined⟩ | ⟨front, joined, text⟩ := join_cases directory relative
  · rw [joined, empty]
    simp [Text.Utf8.encodeChars]
  · rw [joined, Text.Utf8.encodeChars_append, List.length_append, longer]
    obtain text | ⟨text, -⟩ := text
    · rw [text, Text.Utf8.encodeChars_append, List.length_append, slash]
      omega
    · rw [text]
      omega

/-- What is in front of a path is not longer with a name behind it than the path is. -/
theorem fits_above {above start name : String} (relative : isAbsolute name = false)
    (front : above.toList <+: start.toList) (fits : Fits (join start name)) :
    Fits (join above name) := by
  obtain ⟨rest, text⟩ := front
  cases rest with
  | nil =>
    rw [List.append_nil, String.toList_inj] at text
    exact text ▸ fits
  | cons c rest =>
    have shorter : (Text.Utf8.encode above).length + 1 ≤ (Text.Utf8.encode start).length := by
      obtain ⟨byte, more, bytes, -⟩ := Text.Utf8.encodeChar_bytes c
      unfold Text.Utf8.encode
      rw [← text, Text.Utf8.encodeChars_append, Text.Utf8.encodeChars_cons, bytes]
      simp only [List.length_append, List.length_cons]
      omega
    have least := (join_length start relative).1
    have most := (join_length above relative).2
    unfold Fits at fits ⊢
    omega

end Path

theorem IsFileName.ne_nil {name : List Char} (file : IsFileName name) : name ≠ [] := by
  rintro rfl
  exact Bool.noConfusion file.named

namespace FileSystem

variable {files : FileSystem} {place : List (List Char)} {entry : FileEntry}

theorem Enclosed.above (below : List (List Char)) (enclosed : files.Enclosed (below ++ place)) :
    files.Enclosed place := by
  induction below with
  | nil => exact enclosed
  | cons name below ih => exact ih enclosed.2.2

/-- What is above an enclosed place is a directory. -/
theorem Enclosed.directory {name : List Char} {below : List (List Char)}
    (enclosed : files.Enclosed (name :: (below ++ place))) :
    files.entry place.reverse = some .directory := by
  induction below generalizing name with
  | nil => exact enclosed.2.1
  | cons inner below ih => exact ih enclosed.2.2

/-- A step to an enclosed place goes from a directory, and takes no name that is too long. -/
theorem Enclosed.stepped {last piece : List Char} {below : List (List Char)}
    (other : piece ≠ ['.', '.']) (enclosed : files.Enclosed (last :: (below ++ stepTo place piece))) :
    files.entry place.reverse = some .directory ∧
      (Path.isSkipped piece = false → (Text.Utf8.encodeChars piece).length ≤ maxNameBytes) := by
  cases skipped : Path.isSkipped piece with
  | true =>
    have stays : stepTo place piece = place := by simp [stepTo, skipped]
    rw [stays] at enclosed
    exact ⟨enclosed.directory, fun named => Bool.noConfusion named⟩
  | false =>
    have goes : stepTo place piece = piece :: place := by simp [stepTo, skipped, other]
    rw [goes] at enclosed
    obtain ⟨name, standing, -⟩ := Enclosed.above (last :: below) enclosed
    exact ⟨standing, fun _ => name.fits⟩

/-- One piece is followed if it is looked for in a directory, and if its name is not too long. -/
theorem follow_cons {piece : List Char} {pieces : List (List Char)} (other : piece ≠ ['.', '.']) :
    files.follow place (piece :: pieces) = .found entry ↔
      files.entry place.reverse = some .directory ∧
        (Path.isSkipped piece = false →
          (Text.Utf8.encodeChars piece).length ≤ maxNameBytes) ∧
        files.follow (stepTo place piece) pieces = .found entry := by
  rw [follow]
  split
  · next standing => simp [standing]
  · next standing => simp [standing]
  · next standing =>
    cases skipped : Path.isSkipped piece with
    | true => simp [standing, stepTo, skipped]
    | false =>
      by_cases long : maxNameBytes < (Text.Utf8.encodeChars piece).length
      · simp [standing, long, other, Nat.not_le.mpr long]
      · simp [standing, stepTo, skipped, long, other, Nat.not_lt.mp long]

/-- Pieces that end in a name are followed to what stands at the place of their names, if all that is
above it are directories. -/
theorem follow_found {front : List (List Char)} {last : List Char}
    (descends : ['.', '.'] ∉ front) (texts : ∀ piece ∈ front, '\x00' ∉ piece)
    (ends : IsFileName last) (inside : files.Enclosed place) :
    files.follow place (front ++ [last]) = .found entry ↔
      files.Enclosed (last :: front.foldl stepTo place) ∧
        files.entry (last :: front.foldl stepTo place).reverse = some entry := by
  induction front generalizing place with
  | nil =>
    have arrived : stepTo place last = last :: place := by simp [stepTo, ends.named, ends.other]
    rw [List.nil_append, follow_cons ends.other, arrived, List.foldl_nil]
    constructor
    · rintro ⟨standing, -, found⟩
      refine ⟨⟨ends.toIsName, standing, inside⟩, ?_⟩
      rw [follow] at found
      split at found
      · next stands =>
        cases found
        exact stands
      · cases found
    · rintro ⟨⟨-, standing, -⟩, stands⟩
      exact ⟨standing, fun _ => ends.fits, by rw [follow, stands]⟩
  | cons piece front ih =>
    have first : piece ≠ ['.', '.'] := fun same => descends (same ▸ List.mem_cons_self)
    have later : ['.', '.'] ∉ front := fun among => descends (List.mem_cons_of_mem _ among)
    have laterTexts : ∀ piece ∈ front, '\x00' ∉ piece := fun other among =>
      texts other (List.mem_cons_of_mem _ among)
    rw [List.cons_append, follow_cons first, List.foldl_cons]
    constructor
    · rintro ⟨standing, fits, found⟩
      refine (ih later laterTexts ?_).mp found
      unfold stepTo
      cases skipped : Path.isSkipped piece with
      | true => exact inside
      | false =>
        rw [if_neg Bool.false_ne_true, if_neg first]
        exact ⟨⟨texts piece List.mem_cons_self, fits skipped⟩, standing, inside⟩
    · rintro ⟨enclosed, stands⟩
      have whole := enclosed
      rw [foldl_stepTo later] at enclosed
      obtain ⟨standing, fits⟩ := enclosed.stepped first
      refine ⟨standing, fits, (ih later laterTexts ?_).mpr ⟨whole, stands⟩⟩
      exact Enclosed.above (last :: _) enclosed

/-- A piece that is passed over changes nothing in front of another. -/
theorem follow_skipped {piece : List Char} {pieces : List (List Char)}
    (skipped : Path.isSkipped piece = true) (more : pieces ≠ []) :
    files.follow place (piece :: pieces) = files.follow place pieces := by
  cases pieces with
  | nil => exact absurd rfl more
  | cons next pieces =>
    rw [follow]
    split
    · next standing => simp [follow, standing]
    · next standing => simp [follow, standing]
    · rw [if_pos skipped]

/-- A path is found if it can be read and its pieces lead somewhere. -/
theorem lookup_found {path : String} (some : path.toList ≠ []) :
    files.lookup path = .found entry ↔
      '\x00' ∉ path.toList ∧ Path.Fits path ∧
        files.follow (files.base path) (Path.splitSlashes path.toList) = .found entry := by
  have followed : (if Path.isAbsolute path then
      files.follow [] (Path.splitSlashes (path.toList.drop 1))
      else files.follow files.workingPlace (Path.splitSlashes path.toList)) =
      files.follow (files.base path) (Path.splitSlashes path.toList) := by
    unfold base
    split
    · next absolute =>
      cases chars : path.toList with
      | nil => exact absurd chars some
      | cons c rest =>
        have slash : c = '/' := by simpa [Path.isAbsolute, chars] using absolute
        subst slash
        exact (follow_skipped rfl (Path.splitSlashes_ne_nil rest)).symm
    · rfl
  simp only [lookup, followed]
  by_cases nul : '\x00' ∈ path.toList
  · simp [nul]
  · by_cases long : maxPathBytes < (Text.Utf8.encodeChars path.toList).length
    · simp [nul, some, long, Path.Fits, Text.Utf8.encode, Nat.not_le.mpr long]
    · simp [nul, some, long, Path.Fits, Text.Utf8.encode, Nat.not_lt.mp long]

/-- The names down to an enclosed place have no NUL. -/
theorem Enclosed.texts (enclosed : files.Enclosed place) : ∀ name ∈ place, '\x00' ∉ name := by
  induction place with
  | nil => exact fun _ among => absurd among List.not_mem_nil
  | cons first above ih =>
    intro name among
    rcases List.mem_cons.mp among with rfl | among
    · exact enclosed.1.text
    · exact ih enclosed.2.2 name among

/-- A file in a directory is found if the path to it is not too long, all that is above it are
directories, and it stands there. -/
theorem lookup_join {directory name : String} (descends : Path.Descends directory)
    (ends : IsFileName name.toList) (inside : files.Enclosed (files.base directory)) :
    files.lookup (Path.join directory name) = .found entry ↔
      Path.Fits (Path.join directory name) ∧
        files.Enclosed (name.toList :: files.placeOf directory) ∧
        files.entry (name.toList :: files.placeOf directory).reverse = some entry := by
  obtain ⟨front, cut, spelled⟩ := Path.splitSlashes_join directory ends.plain
  have goesDown : ['.', '.'] ∉ front := by
    intro among
    apply Path.descends_iff.mp descends
    rw [← spelled]
    exact List.mem_filter.mpr ⟨among, rfl⟩
  have arrived : front.foldl stepTo (files.base directory) = files.placeOf directory := by
    rw [foldl_stepTo goesDown, spelled, files.placeOf_eq descends]
  have same : files.base (Path.join directory name) = files.base directory := by
    rw [base, base, Path.isAbsolute_join directory ends.plain]
  have nonempty : (Path.join directory name).toList ≠ [] := by
    intro none
    rw [none] at cut
    have last := congrArg List.getLast? cut
    simp only [Path.splitSlashes, List.getLast?_singleton, List.getLast?_concat] at last
    exact ends.ne_nil (Option.some.inj last).symm
  have nul := Path.mem_splitSlashes (c := '\x00') (by decide) (Path.join directory name).toList
  rw [cut] at nul
  rw [lookup_found nonempty, cut, same, nul]
  constructor
  · rintro ⟨text, fits, found⟩
    have texts (piece : List Char) (among : piece ∈ front) : '\x00' ∉ piece := fun inside =>
      text ⟨piece, List.mem_append_left _ among, inside⟩
    rw [follow_found goesDown texts ends inside, arrived] at found
    exact ⟨fits, found⟩
  · rintro ⟨fits, enclosed, stands⟩
    have texts : ∀ piece ∈ front, '\x00' ∉ piece := by
      refine Path.texts_of_names fun name among => enclosed.texts name ?_
      rw [spelled] at among
      rw [files.placeOf_eq descends]
      exact List.mem_cons_of_mem _ (List.mem_append_left _ (List.mem_reverse.mpr among))
    refine ⟨?_, fits, (follow_found goesDown texts ends inside).mpr (arrived ▸ ⟨enclosed, stands⟩)⟩
    rintro ⟨piece, among, within⟩
    rcases List.mem_append.mp among with among | among
    · exact texts piece among within
    · cases List.mem_singleton.mp among
      exact ends.text within

end FileSystem

end NativeBridge
