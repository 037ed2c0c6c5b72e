/-
Module: NativeBridge.LibraryLoader
Purpose: Finding and loading the shared library of a native compiler by short name or path.
Main exports: LibraryLoader, LibraryLoader.ofWorkingDirectory, LibraryLoader.addSearchPath,
  LibraryLoader.resolve, SystemLoader, LibraryLoader.load
-/
import NativeBridge.Error
import NativeBridge.FileSystem

namespace NativeBridge

/-!
A name with a directory or an extension is a path and has to exist as it is.  Any other name is
short: it is looked for in the search directories, with the usual start and without it.  A name that
is not found is still handed to the system loader as a bare file name, unless it names a directory.
-/

/-- The directories a short name is looked for in, first to last. -/
structure LibraryLoader where
  searchPaths : List String
deriving Repr, Inhabited, DecidableEq

/-- What the system does with a target: load it, or say why not. -/
def SystemLoader (ι : Type) : Type := String → Except String ι

namespace LibraryLoader

/-- Where systems keep their libraries. -/
def systemPaths : List String :=
  ["/usr/lib", "/usr/local/lib", "/lib", "/usr/lib64", "/lib64", "/usr/lib/x86_64-linux-gnu",
    "/usr/lib/aarch64-linux-gnu"]

/-- The loader of a process: its working directory, then the system's directories. -/
def ofWorkingDirectory (directory : String) : LibraryLoader :=
  ⟨directory :: systemPaths⟩

/-- Look in another directory before all others. -/
def addSearchPath (loader : LibraryLoader) (path : String) : LibraryLoader :=
  ⟨path :: loader.searchPaths⟩

/-- The usual file name of a short name. -/
def usualName (name : String) : String := "lib" ++ name ++ ".so"

/-- The file names to try for a short name. -/
def candidateNames (name : String) : List String :=
  [usualName name, name ++ ".so"]

/-- Whether a name leads through a directory. -/
def hasDirectory (name : String) : Bool :=
  1 < (Path.components name).length

/-- Whether a name is a path and not a short name. -/
def isPath (name : String) : Bool :=
  hasDirectory name || Path.hasExtension name

/-- The files to try for a short name, in order. -/
def candidates (loader : LibraryLoader) (name : String) : List String :=
  loader.searchPaths.flatMap fun directory =>
    (candidateNames name).map fun file => Path.join directory file

/-- The existing file a name or path stands for. -/
def resolve (loader : LibraryLoader) (files : FileSystem) (name : String) : Option String :=
  if isPath name then
    if files.exists? name then some name else none
  else (loader.candidates name).find? files.exists?

/-- What the system loader is given for a name. -/
def target (loader : LibraryLoader) (files : FileSystem) (name : String) :
    Except LoadError String :=
  match loader.resolve files name with
  | some path => .ok path
  | none => if hasDirectory name then .error (.libraryNotFound name) else .ok (usualName name)

/-- Load a library by short name or path.  A refusal of the system loader is a failed load if the
target leads through a directory, and a missing library if it is a bare file name. -/
def load {ι : Type} (loader : LibraryLoader) (files : FileSystem) (system : SystemLoader ι)
    (name : String) : Except LoadError ι :=
  match loader.target files name with
  | .error error => .error error
  | .ok target =>
      match system target with
      | .ok image => .ok image
      | .error reason =>
          if Path.isAbsolute target || hasDirectory target then .error (.loadFailed reason)
          else .error (.libraryNotFound name)

end LibraryLoader

end NativeBridge
