/-
Module: NativeBridge.Diagnostic
Purpose: Messages of a native compiler: reading them off a line of text and printing them back.
Main exports: Severity, Diagnostic, Diagnostic.parse, Diagnostic.text
-/
import NativeBridge.Text.Blank
import NativeBridge.Text.Numeral
import NativeBridge.Text.Search

namespace NativeBridge

/-!
A compiler reports one line per diagnostic, such as `main.c:10: warning: unused variable`.  A line
that starts with a severity has no location.  Otherwise the earliest severity marker divides the
location from the message.  A line without any marker is an error as a whole.  Trailing white space
is never part of a message.
-/

/-- How grave a diagnostic is. -/
inductive Severity where
  | error
  | warning
  | note
deriving Repr, Inhabited, DecidableEq

namespace Severity

/-- The word a compiler uses for a severity. -/
def label : Severity → String
  | error => "error"
  | warning => "warning"
  | note => "note"

/-- All severities, gravest first. -/
def all : List Severity := [error, warning, note]

/-- The text that starts a message without a location. -/
def leadingMark (severity : Severity) : List Char :=
  severity.label.toList ++ [':', ' ']

/-- The text that divides a location from its message. -/
def dividingMark (severity : Severity) : List Char :=
  ':' :: ' ' :: severity.leadingMark

end Severity

/-- One message of a native compiler. -/
structure Diagnostic where
  severity : Severity
  file : Option String
  line : Option UInt32
  message : String
deriving Repr, Inhabited, DecidableEq

namespace Diagnostic

/-- A diagnostic without a location. -/
def plain (severity : Severity) (message : String) : Diagnostic :=
  ⟨severity, none, none, message⟩

/-- The same diagnostic at a line of a file. -/
def locatedAt (diagnostic : Diagnostic) (file : String) (line : UInt32) : Diagnostic :=
  { diagnostic with file := some file, line := some line }

/-- Whether a diagnostic reports an error. -/
def isError (diagnostic : Diagnostic) : Bool :=
  diagnostic.severity == .error

/-- The file and line a location names: what follows the last colon is the line if it reads as a
number, else the whole location is the file. -/
def splitLocation (location : List Char) : String × Option UInt32 :=
  match Text.splitLast? ':' location with
  | some (file, line) =>
      match Text.parseUInt32 (Text.trimChars line) with
      | some n => (String.ofList file, some n)
      | none => (String.ofList location, none)
  | none => (String.ofList location, none)

/-- The message after a severity the text starts with. -/
def parseLeading (text : List Char) : Option Diagnostic :=
  Severity.all.findSome? fun severity =>
    (Text.stripStart? severity.leadingMark text).map fun message =>
      plain severity (String.ofList message)

/-- Where a text is divided by the marker of a severity. -/
structure Division where
  severity : Severity
  before : List Char
  after : List Char
deriving Repr, Inhabited, DecidableEq

/-- The first division of a text by each severity's marker. -/
def divisions (text : List Char) : List Division :=
  Severity.all.filterMap fun severity =>
    (Text.splitFirst? severity.dividingMark text).map fun parts =>
      ⟨severity, parts.1, parts.2⟩

/-- The earlier of two divisions, the first one if they start together. -/
def earlier (a b : Division) : Division :=
  if b.before.length < a.before.length then b else a

/-- The earliest division of a list. -/
def earliest : List Division → Option Division
  | [] => none
  | d :: rest => some (rest.foldl earlier d)

/-- Read one line of compiler output given as characters without trailing white space. -/
def parseChars (text : List Char) : Diagnostic :=
  match parseLeading text with
  | some diagnostic => diagnostic
  | none =>
      match earliest (divisions text) with
      | some division =>
          let (file, line) := splitLocation division.before
          ⟨division.severity, some file, line, String.ofList division.after⟩
      | none => plain .error (String.ofList text)

/-- Read one line of compiler output. -/
def parse (text : String) : Diagnostic :=
  parseChars (Text.trimEndChars text.toList)

/-- The location part of the printed form. -/
def locationText (diagnostic : Diagnostic) : String :=
  match diagnostic.file, diagnostic.line with
  | some file, some line => file ++ ":" ++ toString line.toNat ++ ": "
  | some file, none => file ++ ": "
  | none, _ => ""

/-- The printed form of a diagnostic: location, severity and message. -/
def text (diagnostic : Diagnostic) : String :=
  diagnostic.locationText ++ diagnostic.severity.label ++ ": " ++ diagnostic.message

end Diagnostic

end NativeBridge
