/-
Module: NativeBridge.Text.Search
Purpose: Finding one text in another and taking a text apart around what was found.
Main exports: stripStart?, splitFirst?, splitLast?, splitLines
-/

namespace NativeBridge.Text

/-- What follows a pattern that a list of characters starts with. -/
def stripStart? : List Char → List Char → Option (List Char)
  | [], s => some s
  | _ :: _, [] => none
  | p :: pattern, c :: s => if p = c then stripStart? pattern s else none

/-- The characters before and after the first occurrence of a pattern. -/
def splitFirst? (pattern : List Char) : List Char → Option (List Char × List Char)
  | [] => if pattern.isEmpty then some ([], []) else none
  | c :: s =>
      match stripStart? pattern (c :: s) with
      | some after => some ([], after)
      | none => (splitFirst? pattern s).map fun parts => (c :: parts.1, parts.2)

/-- The characters before and after the last occurrence of one character. -/
def splitLast? (mark : Char) : List Char → Option (List Char × List Char)
  | [] => none
  | c :: s =>
      match splitLast? mark s with
      | some (before, after) => some (c :: before, after)
      | none => if c = mark then some ([], s) else none

/-- Whether a text occurs in another. -/
def occursIn (pattern text : String) : Bool :=
  (splitFirst? pattern.toList text.toList).isSome

/-- The lines of a list of characters: pieces between newlines, a last empty piece left out and a
carriage return before a newline removed. -/
def splitLineChars : List Char → List Char → List (List Char)
  | [], [] => []
  | line, [] => [line.reverse]
  | line, c :: s =>
      if c = '\n' then
        (match line with
          | '\r' :: line' => line'.reverse
          | _ => line.reverse) :: splitLineChars [] s
      else splitLineChars (c :: line) s

/-- The lines of a text. -/
def splitLines (text : String) : List String :=
  (splitLineChars [] text.toList).map String.ofList

end NativeBridge.Text
