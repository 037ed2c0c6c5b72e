/-
Module: NativeBridge.Path
Purpose: File paths as text: their components, parents and extensions, and joining them.
Main exports: Path.Component, Path.components, Path.isAbsolute, Path.isRelative, Path.join,
  Path.parent?, Path.hasExtension, Path.ancestors
-/

namespace NativeBridge.Path

/-!
Paths are looked at lexically, without a file system.  Repeated and trailing slashes and inner dots
are no components; a leading dot is one, and two dots are never taken back.
-/

/-- One step of a path. -/
inductive Component where
  | root
  | current
  | up
  | normal (name : List Char)
deriving Repr, Inhabited, DecidableEq

/-- The pieces of a list of characters between slashes; at least one. -/
def splitSlashes : List Char → List (List Char)
  | [] => [[]]
  | c :: rest =>
      if c = '/' then [] :: splitSlashes rest
      else
        match splitSlashes rest with
        | piece :: pieces => (c :: piece) :: pieces
        | [] => [[c]]

/-- The pieces put together again, with slashes between them. -/
def joinSlashes : List (List Char) → List Char
  | [] => []
  | [piece] => piece
  | piece :: pieces => piece ++ '/' :: joinSlashes pieces

/-- Whether a piece is no component inside a path. -/
def isSkipped (piece : List Char) : Bool :=
  piece == [] || piece == ['.']

/-- The component of a piece that is one. -/
def componentOf (piece : List Char) : Component :=
  if piece = ['.', '.'] then .up else .normal piece

/-- What a path starts with: a root, a dot, or nothing of its own. -/
def start (path : List Char) : Option Component :=
  match path with
  | '/' :: _ => some .root
  | ['.'] => some .current
  | '.' :: '/' :: _ => some .current
  | _ => none

/-- The pieces after what a path starts with. -/
def bodyPieces (path : List Char) : List (List Char) :=
  match start path with
  | some _ =>
      match path.drop 1 with
      | [] => []
      | rest => splitSlashes rest
  | none => if path.isEmpty then [] else splitSlashes path

/-- The components of a path, from its start on. -/
def componentsOf (path : List Char) : List Component :=
  (start path).toList ++
    ((bodyPieces path).filter fun piece => !isSkipped piece).map componentOf

/-- The components of a path, from its start on. -/
def components (path : String) : List Component :=
  componentsOf path.toList

/-- Whether a path starts at the root. -/
def isAbsolute (path : String) : Bool :=
  path.toList.head? == some '/'

/-- Whether a path starts where the process is. -/
def isRelative (path : String) : Bool :=
  !isAbsolute path

/-- Continue a path with another; an absolute one replaces it. -/
def join (path next : String) : String :=
  if isAbsolute next || path.isEmpty then next
  else if path.toList.getLast? == some '/' then path ++ next
  else path ++ "/" ++ next

/-- The text of what a path starts with. -/
def startText (path : List Char) : List Char :=
  match start path with
  | some _ => path.take 1
  | none => []

/-- A path without its last component, as the text before it; the root and the empty path have
none. -/
def parentOf (path : List Char) : Option (List Char) :=
  match (bodyPieces path).reverse.dropWhile isSkipped with
  | _ :: rest =>
      some (startText path ++ joinSlashes (rest.dropWhile isSkipped).reverse)
  | [] => if start path = some .current then some [] else none

/-- A path without its last component. -/
def parent? (path : String) : Option String :=
  (parentOf path.toList).map String.ofList

/-- The last component of a path, if it is a name. -/
def fileNameOf (path : List Char) : Option (List Char) :=
  match (bodyPieces path).reverse.dropWhile isSkipped with
  | piece :: _ => if piece = ['.', '.'] then none else some piece
  | [] => none

/-- Whether the name a path ends in has a dot after its first character. -/
def hasExtension (path : String) : Bool :=
  match fileNameOf path.toList with
  | some name => (name.drop 1).contains '.'
  | none => false

theorem length_lt_of_mem_joinSlashes (before : List (List Char)) (piece : List Char)
    (after : List (List Char)) (h : piece ≠ []) :
    (joinSlashes before).length < (joinSlashes (before ++ piece :: after)).length := by
  induction before with
  | nil =>
    have hp : 0 < piece.length := List.length_pos_iff.mpr h
    cases after with
    | nil => simpa [joinSlashes] using hp
    | cons =>
      simp only [joinSlashes, List.nil_append, List.length_append, List.length_nil]
      omega
  | cons first rest ih =>
    cases rest with
    | nil => simp [joinSlashes]
    | cons second rest => simpa [joinSlashes] using ih

theorem length_joinSlashes_append (before after : List (List Char)) :
    (joinSlashes before).length ≤ (joinSlashes (before ++ after)).length := by
  induction before with
  | nil => simp [joinSlashes]
  | cons first rest ih =>
    cases rest with
    | nil => cases after <;> simp [joinSlashes]
    | cons second rest => simpa [joinSlashes] using ih

theorem splitSlashes_ne_nil (s : List Char) : splitSlashes s ≠ [] := by
  cases s with
  | nil => simp [splitSlashes]
  | cons c rest =>
    unfold splitSlashes
    split
    · simp
    · split <;> simp

theorem joinSlashes_splitSlashes (s : List Char) :
    joinSlashes (splitSlashes s) = s := by
  induction s with
  | nil => rfl
  | cons c rest ih =>
    unfold splitSlashes
    split
    · next h =>
      subst h
      cases hs : splitSlashes rest with
      | nil => exact absurd hs (splitSlashes_ne_nil rest)
      | cons piece pieces => rw [hs] at ih; simp [joinSlashes, ih]
    · split
      · next piece pieces hs =>
        rw [hs] at ih
        cases pieces with
        | nil => simp [joinSlashes] at ih ⊢; exact ih
        | cons second pieces => simp [joinSlashes] at ih ⊢; exact ih
      · next hs => exact absurd hs (splitSlashes_ne_nil rest)

theorem length_bodyPieces (path : List Char) :
    (startText path).length + (joinSlashes (bodyPieces path)).length ≤
      path.length := by
  unfold startText bodyPieces
  split
  · split
    · next h =>
      simp only [joinSlashes, List.length_take, List.length_nil]
      omega
    · next h =>
      rw [joinSlashes_splitSlashes]
      simp only [List.length_take, List.length_drop]
      omega
  · split
    · simp [joinSlashes]
    · rw [joinSlashes_splitSlashes]; simp

theorem length_parentOf {path parent : List Char} (h : parentOf path = some parent) :
    parent.length < path.length := by
  unfold parentOf at h
  split at h
  · next piece rest hrest =>
    simp only [Option.some.injEq] at h
    subst h
    have hsuffix := List.dropWhile_suffix (l := (bodyPieces path).reverse) isSkipped
    rw [hrest] at hsuffix
    obtain ⟨skipped, hskipped⟩ := hsuffix
    have hpiece : piece ≠ [] := by
      intro hp
      have := List.head?_dropWhile_not isSkipped (bodyPieces path).reverse
      rw [hrest] at this
      simp [hp, isSkipped] at this
    obtain ⟨skipped', hskipped'⟩ := List.dropWhile_suffix (l := rest) isSkipped
    have hbody : bodyPieces path =
        (rest.dropWhile isSkipped).reverse ++ (skipped'.reverse ++ piece :: skipped.reverse) := by
      have := congrArg List.reverse hskipped
      rw [List.reverse_reverse] at this
      rw [← this]
      conv => lhs; rw [← hskipped']
      simp
    have hlength := length_bodyPieces path
    have hlt := length_lt_of_mem_joinSlashes
      ((rest.dropWhile isSkipped).reverse ++ skipped'.reverse) piece skipped.reverse hpiece
    have hle := length_joinSlashes_append (rest.dropWhile isSkipped).reverse skipped'.reverse
    rw [hbody] at hlength
    simp only [List.append_assoc] at hlt
    simp only [List.length_append]
    omega
  · split at h
    · next hstart =>
      simp only [Option.some.injEq] at h
      subst h
      cases path with
      | nil => simp [start] at hstart
      | cons => simp
    · simp at h

/-- A directory and the directories above it, nearest first. -/
def ancestorsOf (path : List Char) : List (List Char) :=
  match _h : parentOf path with
  | some parent => path :: ancestorsOf parent
  | none => [path]
termination_by path.length
decreasing_by exact length_parentOf _h

/-- A directory and the directories above it, nearest first. -/
def ancestors (path : String) : List String :=
  (ancestorsOf path.toList).map String.ofList

end NativeBridge.Path
