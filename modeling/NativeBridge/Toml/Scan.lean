/-
Module: NativeBridge.Toml.Scan
Purpose: The lexical layer of TOML: blanks, line ends, comments, keys and strings.
Main exports: Scan, skipBlanks, newline?, skipComment, endOfLine, skipLayout, bareKey, quotedText,
  simpleKey, dottedKey
-/

namespace NativeBridge.Toml

/-!
A scan takes a piece off the front of the text and returns it with what is left, or fails.  Scans
that repeat take a bound on the number of repetitions; each repetition takes at least one character,
so the length of the text is enough.
-/

/-- Take a piece off the front of a text. -/
abbrev Scan (α : Type) : Type := List Char → Option (α × List Char)

/-- Blanks inside a line. -/
def isInlineBlank (c : Char) : Bool :=
  c == ' ' || c == '\t'

/-- Leave out blanks. -/
def skipBlanks (s : List Char) : List Char :=
  s.dropWhile isInlineBlank

/-- What follows a line end. -/
def newline? : List Char → Option (List Char)
  | '\n' :: rest => some rest
  | '\r' :: '\n' :: rest => some rest
  | _ => none

/-- The characters a comment may hold: all but control characters, tabs allowed. -/
def isCommentChar (c : Char) : Bool :=
  c == '\t' || (0x20 ≤ c.toNat && c.toNat != 0x7F)

/-- Leave out a comment, if there is one. -/
def skipComment : List Char → List Char
  | '#' :: rest => rest.dropWhile isCommentChar
  | s => s

/-- What follows the end of a line, a comment before it allowed. -/
def endOfLine (s : List Char) : Option (List Char) :=
  match skipComment (skipBlanks s) with
  | [] => some []
  | rest => newline? rest

/-- Leave out blanks, line ends and comments, at most a number of them. -/
def skipLayout : Nat → List Char → List Char
  | 0, s => s
  | fuel + 1, s =>
      match skipBlanks s with
      | '#' :: rest => skipLayout fuel (rest.dropWhile isCommentChar)
      | rest =>
          match newline? rest with
          | some rest => skipLayout fuel rest
          | none => rest

/-- Leave out all blanks, line ends and comments at the front. -/
def layout (s : List Char) : List Char :=
  skipLayout s.length s

/-! ### Strings -/

/-- The value of a hexadecimal digit. -/
def hexDigit? (c : Char) : Option Nat :=
  if c.isDigit then some (c.toNat - '0'.toNat)
  else if 'a' ≤ c ∧ c ≤ 'f' then some (c.toNat - 'a'.toNat + 10)
  else if 'A' ≤ c ∧ c ≤ 'F' then some (c.toNat - 'A'.toNat + 10)
  else none

/-- The character of a code point in a fixed number of hexadecimal digits. -/
def hexEscape (digits : Nat) (s : List Char) : Option (Char × List Char) :=
  if (s.take digits).length = digits then
    match (s.take digits).mapM hexDigit? with
    | some values =>
        let code := values.foldl (fun n digit => n * 16 + digit) 0
        if code.isValidChar then some (Char.ofNat code, s.drop digits) else none
    | none => none
  else none

/-- The character of an escape, after its backslash. -/
def escape : Scan Char
  | 'b' :: rest => some ('\x08', rest)
  | 't' :: rest => some ('\t', rest)
  | 'n' :: rest => some ('\n', rest)
  | 'f' :: rest => some ('\x0c', rest)
  | 'r' :: rest => some ('\r', rest)
  | '"' :: rest => some ('"', rest)
  | '\\' :: rest => some ('\\', rest)
  | 'u' :: rest => hexEscape 4 rest
  | 'U' :: rest => hexEscape 8 rest
  | _ => none

/-- The characters that stand for themselves in strings with escapes. -/
def isPlainChar (c : Char) : Bool :=
  isCommentChar c && c != '"' && c != '\\'

/-- The characters that stand for themselves in strings without escapes. -/
def isLiteralChar (c : Char) : Bool :=
  isCommentChar c && c != '\''

/-- A string with escapes on one line, after its opening quote. -/
def basicBody : Nat → Scan (List Char)
  | 0, _ => none
  | _, [] => none
  | fuel + 1, c :: rest =>
      if c = '"' then some ([], rest)
      else if c = '\\' then do
        let (c, rest) ← escape rest
        let (text, rest) ← basicBody fuel rest
        some (c :: text, rest)
      else if isPlainChar c then do
        let (text, rest) ← basicBody fuel rest
        some (c :: text, rest)
      else none

/-- A string without escapes on one line, after its opening quote. -/
def literalBody (s : List Char) : Option (List Char × List Char) :=
  match s.dropWhile isLiteralChar with
  | '\'' :: rest => some (s.takeWhile isLiteralChar, rest)
  | _ => none

/-- The text after a run of quotes in a string over several lines.  Three or more quotes end the
string, and up to two quotes before the last three belong to it. -/
inductive QuoteRun where
  | inside (quotes : List Char) (rest : List Char)
  | closing (quotes : List Char) (rest : List Char)

/-- Look at the run of quotes at the front of a text. -/
def quoteRun (quote : Char) (s : List Char) : QuoteRun :=
  let count := (s.takeWhile (· == quote)).length
  if count < 3 then .inside (List.replicate count quote) (s.drop count)
  else
    let extra := min (count - 3) 2
    .closing (List.replicate extra quote) (s.drop (extra + 3))

/-- Leave out blanks and line ends, at most a number of line ends. -/
def skipBlankLines : Nat → List Char → List Char
  | 0, s => s
  | fuel + 1, s =>
      match newline? (skipBlanks s) with
      | some rest => skipBlankLines fuel rest
      | none => skipBlanks s

/-- What follows a backslash at the end of a line: the text after all blanks and line ends. -/
def lineContinuation? (s : List Char) : Option (List Char) :=
  (newline? (skipBlanks s)).map fun rest => skipBlankLines rest.length rest

/-- A string with escapes over several lines, after its opening quotes. -/
def multilineBasicBody : Nat → Scan (List Char)
  | 0, _ => none
  | _, [] => none
  | fuel + 1, c :: rest =>
      if c = '"' then
        match quoteRun '"' (c :: rest) with
        | .closing quotes rest => some (quotes, rest)
        | .inside quotes rest => do
            let (text, rest) ← multilineBasicBody fuel rest
            some (quotes ++ text, rest)
      else if c = '\\' then
        match lineContinuation? rest with
        | some rest => multilineBasicBody fuel rest
        | none => do
            let (c, rest) ← escape rest
            let (text, rest) ← multilineBasicBody fuel rest
            some (c :: text, rest)
      else
        match newline? (c :: rest) with
        | some rest => do
            let (text, rest) ← multilineBasicBody fuel rest
            some ('\n' :: text, rest)
        | none =>
            if isPlainChar c then do
              let (text, rest) ← multilineBasicBody fuel rest
              some (c :: text, rest)
            else none

/-- A string without escapes over several lines, after its opening quotes. -/
def multilineLiteralBody : Nat → Scan (List Char)
  | 0, _ => none
  | _, [] => none
  | fuel + 1, c :: rest =>
      if c = '\'' then
        match quoteRun '\'' (c :: rest) with
        | .closing quotes rest => some (quotes, rest)
        | .inside quotes rest => do
            let (text, rest) ← multilineLiteralBody fuel rest
            some (quotes ++ text, rest)
      else
        match newline? (c :: rest) with
        | some rest => do
            let (text, rest) ← multilineLiteralBody fuel rest
            some ('\n' :: text, rest)
        | none =>
            if isLiteralChar c then do
              let (text, rest) ← multilineLiteralBody fuel rest
              some (c :: text, rest)
            else none

/-- Leave out the line end that may follow opening quotes. -/
def skipNewline (s : List Char) : List Char :=
  (newline? s).getD s

/-- A string of any of the four kinds. -/
def quotedText : Scan (List Char)
  | '"' :: '"' :: '"' :: rest => multilineBasicBody (rest.length + 1) (skipNewline rest)
  | '"' :: rest => basicBody (rest.length + 1) rest
  | '\'' :: '\'' :: '\'' :: rest => multilineLiteralBody (rest.length + 1) (skipNewline rest)
  | '\'' :: rest => literalBody rest
  | _ => none

/-! ### Keys -/

/-- The characters of a key without quotes. -/
def isBareKeyChar (c : Char) : Bool :=
  c.isAlphanum || c == '_' || c == '-'

/-- A key without quotes. -/
def bareKey (s : List Char) : Option (List Char × List Char) :=
  match s.takeWhile isBareKeyChar with
  | [] => none
  | name => some (name, s.dropWhile isBareKeyChar)

/-- A single key: bare, or a string on one line. -/
def simpleKey : Scan (List Char)
  | '"' :: rest => basicBody (rest.length + 1) rest
  | '\'' :: rest => literalBody rest
  | s => bareKey s

/-- The keys of a dotted key, blanks around each of them left out, at most a number of keys. -/
def keyPath : Nat → Scan (List String)
  | 0, _ => none
  | fuel + 1, s => do
      let (name, rest) ← simpleKey (skipBlanks s)
      match skipBlanks rest with
      | '.' :: rest => do
          let (names, rest) ← keyPath fuel rest
          some (String.ofList name :: names, rest)
      | rest => some ([String.ofList name], rest)

/-- The number of levels that keys and values may be nested. -/
def maxDepth : Nat := 79

/-- A dotted key, not deeper than values may be nested. -/
def dottedKey : Scan (List String) :=
  keyPath maxDepth

end NativeBridge.Toml
