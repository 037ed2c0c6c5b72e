/-
Module: NativeBridge.Text.Case
Purpose: Upper and lower case of characters and texts, with full mappings and the final sigma.
Main exports: isUppercase, upperChar, lowerChar, toUpper, toLower, toAsciiLower
-/
import NativeBridge.Text.CaseTable

namespace NativeBridge.Text

/-!
The mappings are the full ones of the Unicode standard, without regard to language: one character
may become several.  The one mapping that looks around itself is the capital sigma, which becomes
the final small sigma at the end of a word.
-/

/-- The Unicode property Uppercase. -/
def isUppercase (c : Char) : Bool :=
  let n := c.toNat
  if n < 0x80 then c.isUpper
  else uppercaseSteps.any fun (first, last, step) =>
    first ≤ n && n ≤ last && (n - first) % step == 0

/-- The case mapping of one character: the several characters a special entry gives, else the one
character a run gives, else the character itself. -/
def mapCase (specials : List (Nat × List Nat)) (runs : List CaseRun) (c : Char) : List Char :=
  match specials.lookup c.toNat with
  | some codes => codes.map Char.ofNat
  | none =>
      match CaseRun.lookup runs c.toNat with
      | some n => [Char.ofNat n]
      | none => [c]

/-- The upper case of one character. -/
def upperChar (c : Char) : List Char :=
  if c.toNat < 0x80 then [c.toUpper] else mapCase upperSpecials upperRuns c

/-- The lower case of one character. -/
def lowerChar (c : Char) : List Char :=
  if c.toNat < 0x80 then [c.toLower] else mapCase lowerSpecials lowerRuns c

/-- Whether the first character that is not ignored in case matters is a cased one. -/
def startsCased (s : List Char) : Bool :=
  match s.dropWhile (fun c => inSpans caseIgnorableSpans c.toNat) with
  | c :: _ => inSpans casedSpans c.toNat
  | [] => false

/-- The lower case of a list of characters, given the characters before it in reverse.  A capital
sigma that ends a word, with a cased character before it and none after it, becomes final. -/
def lowerFrom : List Char → List Char → List Char
  | _, [] => []
  | before, 'Σ' :: rest =>
      (if startsCased before && !startsCased rest then 'ς' else 'σ') ::
        lowerFrom ('Σ' :: before) rest
  | before, c :: rest => lowerChar c ++ lowerFrom (c :: before) rest

/-- The upper case of a list of characters. -/
def upperChars (s : List Char) : List Char :=
  s.flatMap upperChar

/-- The lower case of a list of characters. -/
def lowerChars (s : List Char) : List Char :=
  lowerFrom [] s

/-- The upper case of a text. -/
def toUpper (text : String) : String :=
  String.ofList (upperChars text.toList)

/-- The lower case of a text. -/
def toLower (text : String) : String :=
  String.ofList (lowerChars text.toList)

/-- A text with its ASCII capitals, and no others, made small. -/
def toAsciiLower (text : String) : String :=
  String.ofList (text.toList.map Char.toLower)

end NativeBridge.Text
