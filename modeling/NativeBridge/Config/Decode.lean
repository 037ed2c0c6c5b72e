/-
Module: NativeBridge.Config.Decode
Purpose: Reading configuration sections from the values of a TOML document.
Main exports: Decoder, decodeNaming, decodeCompiler, ProjectConfig.decode, GlobalConfig.decode,
  ProjectConfig.parse, GlobalConfig.parse
-/
import NativeBridge.Config.Project
import NativeBridge.Toml.Document

namespace NativeBridge.Config

/-!
A section is a table whose keys must all be known, or an array that lists its settings in their
fixed order.  In an array only lists and definitions may be left out, and what follows the last
setting is ignored.  A date where definitions are wanted reads as one definition of a reserved name.
-/

/-- Read a value of one type from a TOML value. -/
abbrev Decoder (α : Type) : Type := Toml → Option α

/-- A text. -/
def decodeText : Decoder String
  | .string text => some text
  | _ => none

/-- A list of texts. -/
def decodeTexts : Decoder (List String)
  | .array items => items.mapM decodeText
  | _ => none

/-- The reserved name under which a date is passed on. -/
def dateKey : String := "$__toml_private_datetime"

/-- Put a definition in its place by name. -/
def insertDefine (name value : String) : List (String × String) → List (String × String)
  | [] => [(name, value)]
  | (other, otherValue) :: rest =>
      if name < other then (name, value) :: (other, otherValue) :: rest
      else if name = other then (name, value) :: rest
      else (other, otherValue) :: insertDefine name value rest

/-- Definitions, in rising order of their names. -/
def decodeDefines : Decoder (List (String × String))
  | .table _ entries => do
      let pairs ← entries.mapM fun (name, value) => (decodeText value).map fun text => (name, text)
      some (pairs.foldl (fun sorted (name, text) => insertDefine name text sorted) [])
  | .datetime text => some [(dateKey, text)]
  | _ => none

/-- The output mode of a word as it is written in files. -/
def modeOfWord (word : String) : Option OutputMode :=
  OutputMode.all.find? fun mode => mode.word == word

/-- Whether a value holds nothing: an empty array or table. -/
def isEmptyValue : Toml → Bool
  | .array items => items.isEmpty
  | .table _ entries => entries.isEmpty
  | .tables elements => elements.isEmpty
  | _ => false

/-- An output mode: its word, or a table with the word as only key and nothing under it. -/
def decodeMode : Decoder OutputMode
  | .string word => modeOfWord word
  | .table _ [(word, value)] => if isEmptyValue value then modeOfWord word else none
  | _ => none

/-- A setting of a section: read it from the section's table, or leave it out. -/
def setting {α : Type} (decode : Decoder α) (key : String) (entries : Toml.Entries) :
    Option (Option α) :=
  match entries.lookup key with
  | none => some none
  | some value => (decode value).map some

/-- Whether all keys of a table are known. -/
def onlyKeys (known : List String) (entries : Toml.Entries) : Bool :=
  entries.all fun entry => known.contains entry.1

/-- The keys of a naming section, in order. -/
def namingKeys : List String := ["method", "property", "field", "constructor", "release_symbol"]

/-- The items of a section written as an array. -/
def sectionItems : Toml → Option (List Toml)
  | .array items => some items
  | .tables elements => some (elements.map (.table .headed))
  | _ => none

/-- A naming section. -/
def decodeNaming : Decoder NamingSection
  | .table _ entries =>
      if onlyKeys namingKeys entries then do
        let method ← setting decodeText "method" entries
        let property ← setting decodeText "property" entries
        let field ← setting decodeText "field" entries
        let constructor ← setting decodeText "constructor" entries
        let releaseSymbol ← setting decodeText "release_symbol" entries
        some ⟨method, property, field, constructor, releaseSymbol⟩
      else none
  | value => do
      match ← sectionItems value with
      | method :: property :: field :: constructor :: releaseSymbol :: _ => do
          let method ← decodeText method
          let property ← decodeText property
          let field ← decodeText field
          let constructor ← decodeText constructor
          let releaseSymbol ← decodeText releaseSymbol
          some ⟨some method, some property, some field, some constructor, some releaseSymbol⟩
      | _ => none

/-- The keys of a compiler section, in order. -/
def compilerKeys : List String :=
  ["library", "lib_path", "include_paths", "sysinclude_paths", "library_paths", "libraries",
    "defines", "options", "output"]

/-- A compiler section. -/
def decodeCompiler : Decoder CompilerSection
  | .table _ entries =>
      if onlyKeys compilerKeys entries then do
        let library ← setting decodeText "library" entries
        let libPath ← setting decodeText "lib_path" entries
        let includePaths ← setting decodeTexts "include_paths" entries
        let sysincludePaths ← setting decodeTexts "sysinclude_paths" entries
        let libraryPaths ← setting decodeTexts "library_paths" entries
        let libraries ← setting decodeTexts "libraries" entries
        let defines ← setting decodeDefines "defines" entries
        let options ← setting decodeText "options" entries
        let output ← setting decodeMode "output" entries
        some ⟨library, libPath, includePaths.getD [], sysincludePaths.getD [],
          libraryPaths.getD [], libraries.getD [], defines.getD [], options, output⟩
      else none
  | value => do
      match ← sectionItems value with
      | library :: libPath :: includePaths :: sysincludePaths :: libraryPaths :: libraries ::
          defines :: options :: output :: _ => do
          let library ← decodeText library
          let libPath ← decodeText libPath
          let includePaths ← decodeTexts includePaths
          let sysincludePaths ← decodeTexts sysincludePaths
          let libraryPaths ← decodeTexts libraryPaths
          let libraries ← decodeTexts libraries
          let defines ← decodeDefines defines
          let options ← decodeText options
          let output ← decodeMode output
          some ⟨some library, some libPath, includePaths, sysincludePaths, libraryPaths,
            libraries, defines, some options, some output⟩
      | _ => none

/-- A section with defaults. -/
def decodeDefaults : Decoder DefaultsSection
  | .table _ entries =>
      if onlyKeys ["library", "lib_path"] entries then do
        let library ← setting decodeText "library" entries
        let libPath ← setting decodeText "lib_path" entries
        some ⟨library, libPath⟩
      else none
  | value => do
      match ← sectionItems value with
      | library :: libPath :: _ => do
          let library ← decodeText library
          let libPath ← decodeText libPath
          some ⟨some library, some libPath⟩
      | _ => none

/-- The configuration of a project. -/
def ProjectConfig.decode : Decoder ProjectConfig
  | .table _ entries =>
      if onlyKeys ["compiler", "naming"] entries then do
        let compiler ← setting decodeCompiler "compiler" entries
        let naming ← setting decodeNaming "naming" entries
        some ⟨compiler, naming⟩
      else none
  | _ => none

/-- The defaults of a user. -/
def GlobalConfig.decode : Decoder GlobalConfig
  | .table _ entries =>
      if onlyKeys ["defaults", "naming"] entries then do
        let defaults ← setting decodeDefaults "defaults" entries
        let naming ← setting decodeNaming "naming" entries
        some ⟨defaults, naming⟩
      else none
  | _ => none

/-- Read the text of a project file. -/
def ProjectConfig.parse (text : String) : Option ProjectConfig :=
  (Toml.parse text).bind ProjectConfig.decode

/-- Read the text of a defaults file. -/
def GlobalConfig.parse (text : String) : Option GlobalConfig :=
  (Toml.parse text).bind GlobalConfig.decode

end NativeBridge.Config
