/-
Module: NativeBridge.Naming.Format
Purpose: Format specifiers: the letter-case changes a naming token can ask for.
Main exports: FormatStep, FormatStep.apply, applyFormat
-/
import NativeBridge.Text.Case

namespace NativeBridge.Naming

/-!
Each character of a specifier names one change, and the changes are made from left to right.
Characters that name none leave the value alone.
-/

/-- One change of letter case or spelling. -/
inductive FormatStep where
  | upper
  | lower
  | upperFirst
  | lowerFirst
  | splitWords
  | keep
deriving Repr, Inhabited, DecidableEq

namespace FormatStep

/-- The change a specifier character names. -/
def ofChar : Char → FormatStep
  | 'U' => upper
  | 'L' => lower
  | 'u' => upperFirst
  | 'l' => lowerFirst
  | 's' => splitWords
  | _ => keep

/-- Change the first character only. -/
def mapFirst (change : Char → List Char) : List Char → List Char
  | [] => []
  | c :: rest => change c ++ rest

/-- Put an underscore before every upper-case character. -/
def underscoreCapitals (s : List Char) : List Char :=
  s.flatMap fun c => if Text.isUppercase c then ['_', c] else [c]

/-- Put an underscore before every upper-case character but the first character. -/
def splitCapitals : List Char → List Char
  | [] => []
  | c :: rest => c :: underscoreCapitals rest

/-- Make one change. -/
def apply : FormatStep → List Char → List Char
  | upper, s => Text.upperChars s
  | lower, s => Text.lowerChars s
  | upperFirst, s => mapFirst Text.upperChar s
  | lowerFirst, s => mapFirst Text.lowerChar s
  | splitWords, s => splitCapitals s
  | keep, s => s

end FormatStep

/-- Make the changes a specifier names, from left to right. -/
def formatChars (value spec : List Char) : List Char :=
  spec.foldl (fun s c => (FormatStep.ofChar c).apply s) value

/-- Make the changes a specifier names, from left to right. -/
def applyFormat (value spec : String) : String :=
  String.ofList (formatChars value.toList spec.toList)

end NativeBridge.Naming
