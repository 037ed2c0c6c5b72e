/-
Module: NativeBridge.FileSystem
Purpose: A read-only view of the files a program finds, and the lookup of paths in it.
Main exports: FileSystem, FileSystem.lookup, FileSystem.exists?, FileSystem.samePath,
  FileSystem.readText, FileSystem.ofListing
-/
import NativeBridge.Path
import NativeBridge.Text.Utf8

namespace NativeBridge

/-!
A file system maps lists of names, from the root down, to directories and files.  A path is followed
name by name from the root or from the working directory.  Only a missing name counts as not found;
going through a file, a name that is too long, or a NUL in the path is a failure of another kind.
-/

/-- What a name stands for. -/
inductive FileEntry where
  | directory
  | file (content : List UInt8)
deriving Repr, Inhabited, DecidableEq

/-- The files a program finds and where it runs. -/
structure FileSystem where
  entry : List (List Char) → Option FileEntry
  workingDirectory : String

/-- The result of following a path. -/
inductive Lookup where
  | found (entry : FileEntry)
  | notFound
  | failed
deriving Repr, Inhabited, DecidableEq

/-- The result of reading a file as text. -/
inductive ReadResult where
  | text (content : String)
  | notFound
  | failed
deriving Repr, Inhabited, DecidableEq

namespace FileSystem

/-- The names that a path spells from the root down. -/
def namesOf (path : String) : List (List Char) :=
  (Path.bodyPieces path.toList).filter fun piece => !Path.isSkipped piece

/-- The file system of some directories and files, with all directories above them. -/
def ofListing (directories : List String) (listed : List (String × List UInt8))
    (workingDirectory : String) : FileSystem :=
  let files := listed.map fun (path, content) => (namesOf path, content)
  let places := (workingDirectory :: directories).map namesOf ++ files.map fun file =>
    file.1.dropLast
  { entry := fun names =>
      match files.lookup names with
      | some content => some (.file content)
      | none => if places.any fun place => names.isPrefixOf place then some .directory else none
    workingDirectory := workingDirectory }

/-- The most bytes a name may have. -/
def maxNameBytes : Nat := 255

/-- The most bytes a path may have. -/
def maxPathBytes : Nat := 4095

/-- Follow pieces of a path from a directory, given as its names in reverse.  A piece that follows
what is not a directory fails, an empty one or a dot too. -/
def follow (files : FileSystem) : List (List Char) → List (List Char) → Lookup
  | place, [] =>
      match files.entry place.reverse with
      | some entry => .found entry
      | none => .notFound
  | place, piece :: pieces =>
      match files.entry place.reverse with
      | none => .notFound
      | some (.file _) => .failed
      | some .directory =>
          if Path.isSkipped piece then files.follow place pieces
          else if piece = ['.', '.'] then files.follow (place.drop 1) pieces
          else if maxNameBytes < (Text.Utf8.encodeChars piece).length then .failed
          else files.follow (piece :: place) pieces

/-- The names of the working directory, in reverse. -/
def workingPlace (files : FileSystem) : List (List Char) :=
  ((Path.bodyPieces files.workingDirectory.toList).filter fun piece =>
    !Path.isSkipped piece).reverse

/-- Follow a path. -/
def lookup (files : FileSystem) (path : String) : Lookup :=
  let chars := path.toList
  if chars.contains '\x00' then .failed
  else if chars.isEmpty then .notFound
  else if maxPathBytes < (Text.Utf8.encodeChars chars).length then .failed
  else if Path.isAbsolute path then files.follow [] (Path.splitSlashes (chars.drop 1))
  else files.follow files.workingPlace (Path.splitSlashes chars)

/-- The names from the root that a path spells, those of the working directory in front if it is
relative; two dots take one name back. -/
def placeOf (files : FileSystem) (path : String) : List (List Char) :=
  let start := if Path.isAbsolute path then [] else files.workingPlace
  (Path.bodyPieces path.toList).foldl (fun place piece =>
    if Path.isSkipped piece then place
    else if piece = ['.', '.'] then place.drop 1
    else piece :: place) start

/-- Whether two paths spell the same place. -/
def samePath (files : FileSystem) (a b : String) : Bool :=
  files.placeOf a == files.placeOf b

/-- Whether a path leads anywhere. -/
def exists? (files : FileSystem) (path : String) : Bool :=
  match files.lookup path with
  | .found _ => true
  | .notFound | .failed => false

/-- Read the text a path leads to; directories and bytes that are not UTF-8 cannot be read. -/
def readText (files : FileSystem) (path : String) : ReadResult :=
  match files.lookup path with
  | .found (.file content) =>
      match Text.Utf8.decode? content with
      | some text => .text text
      | none => .failed
  | .found .directory | .failed => .failed
  | .notFound => .notFound

end FileSystem

end NativeBridge
