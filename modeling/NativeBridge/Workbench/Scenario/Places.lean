/-
Module: NativeBridge.Workbench.Scenario.Places
Purpose: The directories, files and variables a scenario starts with.
Main exports: Places.expand, Places.collapse, Places.files, Places.environment
-/
import NativeBridge.Config.Load
import NativeBridge.Workbench.Compilers

namespace NativeBridge.Workbench.Places

/-!
A scenario has two directories of its own: one for its files, which holds an empty home directory,
and the one it runs in, which holds the libraries.  Texts of a scenario refer to them by marks, so
that no answer depends on where they are.
-/

/-- The directory of the files. -/
def scratch : String := "/workbench-scratch-9c41d7"

/-- The directory of the libraries. -/
def libraries : String := "/workbench-library-5e08b2"

/-- The home directory. -/
def home : String := scratch ++ "/home"

/-- The home directory of the account that scenarios run under. -/
def accountHome : String := "/root"

/-- A text with directories in place of their marks. -/
def expand (text : String) : String :=
  (text.replace "$ROOT" scratch).replace "$CWD" libraries

/-- A text with marks in place of the directories. -/
def collapse (text : String) : String :=
  (text.replace scratch "$ROOT").replace libraries "$CWD"

/-- The directories that are there in every scenario. -/
def usualDirectories : List String :=
  ["/usr/lib", "/usr/local/lib", "/lib", "/usr/lib64", "/lib64", "/usr/lib/x86_64-linux-gnu",
    "/tmp", "/etc", home]

/-- The files of a scenario: directories and files of its own, and the libraries. -/
def files (directories : List String) (listed : List (String × List UInt8)) : FileSystem :=
  let own := listed.map fun (path, content) => (Path.join scratch path, content)
  let given := libraryFiles.map fun entry => (Path.join libraries entry.1, [])
  FileSystem.ofListing (usualDirectories ++ directories.map (Path.join scratch)) (own ++ given)
    libraries

/-- The variables of a scenario; the home directory is the usual one unless it says otherwise. -/
def environment (listed : List (String × Option (List UInt8))) : Config.Environment :=
  let all := listed ++ [("HOME", some (Text.Utf8.encode home))]
  ⟨fun name => (all.lookup name).getD none, some accountHome⟩

end NativeBridge.Workbench.Places
