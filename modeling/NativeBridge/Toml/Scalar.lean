/-
Module: NativeBridge.Toml.Scalar
Purpose: Numbers, dates and times of TOML.
Main exports: integerLiteral, floatLiteral, dateTimeLiteral, scalar
-/
import NativeBridge.Toml.Scan
import NativeBridge.Toml.Value

namespace NativeBridge.Toml

/-! ### Digits -/

/-- Digits of a kind with single underscores between them, after the first digit. -/
def moreDigits (isDigit : Char → Bool) : Scan (List Char)
  | '_' :: c :: rest =>
      if isDigit c then (moreDigits isDigit rest).map fun (digits, rest) => (c :: digits, rest)
      else none
  | '_' :: [] => none
  | c :: rest =>
      if isDigit c then (moreDigits isDigit rest).map fun (digits, rest) => (c :: digits, rest)
      else some ([], c :: rest)
  | [] => some ([], [])

/-- One or more digits of a kind with single underscores between them. -/
def someDigits (isDigit : Char → Bool) : Scan (List Char)
  | c :: rest =>
      if isDigit c then (moreDigits isDigit rest).map fun (digits, rest) => (c :: digits, rest)
      else none
  | [] => none

/-- An optional sign; tells whether it is a minus. -/
def sign : List Char → Bool × List Char
  | '+' :: rest => (false, rest)
  | '-' :: rest => (true, rest)
  | s => (false, s)

/-- A decimal integer: a sign and digits that start with zero only if there is no other digit. -/
def decimalDigits (s : List Char) : Option ((Bool × List Char) × List Char) :=
  let (negative, s) := sign s
  match s with
  | '0' :: rest => some ((negative, ['0']), rest)
  | _ => (someDigits Char.isDigit s).map fun (digits, rest) => ((negative, digits), rest)

/-- The value of digits in a base. -/
def digitsValue (base : Nat) (digits : List Char) : Nat :=
  digits.foldl (fun n c => n * base + (hexDigit? c).getD 0) 0

/-- An integer if it fits 64 signed bits. -/
def boundedInteger (n : Int) : Option Toml :=
  if Int64.minValue.toInt ≤ n ∧ n ≤ Int64.maxValue.toInt then some (.integer n) else none

/-- An integer in a base written after its mark. -/
def markedInteger (base : Nat) (isDigit : Char → Bool) (s : List Char) :
    Option (Toml × List Char) := do
  let (digits, rest) ← someDigits isDigit s
  let value ← boundedInteger (digitsValue base digits)
  some (value, rest)

/-- An integer: hexadecimal, octal, binary or decimal. -/
def integerLiteral : Scan Toml
  | '0' :: 'x' :: rest => markedInteger 16 (fun c => (hexDigit? c).isSome) rest
  | '0' :: 'o' :: rest => markedInteger 8 (fun c => '0' ≤ c && c ≤ '7') rest
  | '0' :: 'b' :: rest => markedInteger 2 (fun c => c == '0' || c == '1') rest
  | s => do
      let ((negative, digits), rest) ← decimalDigits s
      let n := digitsValue 10 digits
      let value ← boundedInteger (if negative then -(n : Int) else n)
      some (value, rest)

/-! ### Floating-point numbers -/

/-- The fraction of a number, if there is one. -/
def fraction : List Char → Option (Option (List Char) × List Char)
  | '.' :: rest => (someDigits Char.isDigit rest).map fun (digits, rest) => (some digits, rest)
  | s => some (none, s)

/-- The exponent of a number, if there is one. -/
def exponent : List Char → Option (Option (Bool × List Char) × List Char)
  | c :: rest =>
      if c = 'e' ∨ c = 'E' then
        let (negative, rest) := sign rest
        (someDigits Char.isDigit rest).map fun (digits, rest) => (some (negative, digits), rest)
      else some (none, c :: rest)
  | [] => some (none, [])

/-- The least integer that is too large for a double-precision number: halfway from the largest one
to the next power of two. -/
def doubleBound : Nat :=
  Nat.pow 2 1024 - Nat.pow 2 970

/-- Whether digits times a power of ten are too large for a double-precision number. -/
def exceedsDouble (digits : List Char) (power : Int) : Bool :=
  let n := digitsValue 10 digits
  let magnitude := (Nat.toDigits 10 n).length + power
  if n = 0 then false
  else if 400 < magnitude then true
  else if magnitude < 300 then false
  else if 0 ≤ power then decide (doubleBound ≤ n * Nat.pow 10 power.toNat)
  else decide (doubleBound * Nat.pow 10 (-power).toNat ≤ n)

/-- The number an exponent stands for. -/
def exponentValue : Option (Bool × List Char) → Int
  | some (negative, digits) =>
      let n : Int := digitsValue 10 digits
      if negative then -n else n
  | none => 0

/-- Infinity or not-a-number, with an optional sign. -/
def specialFloat (s : List Char) : Option (Toml × List Char) :=
  match (sign s).2 with
  | 'i' :: 'n' :: 'f' :: rest => some (.float "inf", rest)
  | 'n' :: 'a' :: 'n' :: rest => some (.float "nan", rest)
  | _ => none

/-- A floating-point number: a decimal integer with a fraction, an exponent or both.  A number so
large that it would become positive infinity is refused. -/
def floatLiteral (s : List Char) : Option (Toml × List Char) :=
  match decimalDigits s with
  | none => specialFloat s
  | some ((negative, whole), rest) => do
      let (fractionDigits, rest) ← fraction rest
      let (exponentDigits, rest) ← exponent rest
      if fractionDigits.isNone && exponentDigits.isNone then none
      else
        let after := fractionDigits.getD []
        let power := exponentValue exponentDigits - after.length
        if !negative && exceedsDouble (whole ++ after) power then none
        else some (.float (String.ofList (s.take (s.length - rest.length))), rest)

/-! ### Dates and times -/

/-- A fixed number of decimal digits. -/
def fixedDigits (count : Nat) (s : List Char) : Option (Nat × List Char) :=
  let digits := s.take count
  if digits.length = count ∧ digits.all Char.isDigit then
    some (digitsValue 10 digits, s.drop count)
  else none

/-- A character that must come next. -/
def expect (c : Char) : List Char → Option (List Char)
  | first :: rest => if first = c then some rest else none
  | [] => none

/-- The number of days of a month. -/
def daysInMonth (year month : Nat) : Nat :=
  if month = 2 then
    if year % 4 = 0 ∧ (year % 100 ≠ 0 ∨ year % 400 = 0) then 29 else 28
  else if month = 4 ∨ month = 6 ∨ month = 9 ∨ month = 11 then 30
  else 31

/-- A number with zeros in front up to a width. -/
def padded (width n : Nat) : String :=
  String.ofList (List.replicate (width - (toString n).length) '0') ++ toString n

/-- A date of the calendar, in normal form. -/
def dateLiteral (s : List Char) : Option (String × List Char) := do
  let (year, rest) ← fixedDigits 4 s
  let rest ← expect '-' rest
  let (month, rest) ← fixedDigits 2 rest
  let rest ← expect '-' rest
  let (day, rest) ← fixedDigits 2 rest
  if 1 ≤ month ∧ month ≤ 12 ∧ 1 ≤ day ∧ day ≤ daysInMonth year month then
    some (padded 4 year ++ "-" ++ padded 2 month ++ "-" ++ padded 2 day, rest)
  else none

/-- The digits of a fraction of a second in normal form: nine at most, no zeros at the end. -/
def secondFraction (digits : List Char) : String :=
  match ((digits.take 9).reverse.dropWhile (· == '0')).reverse with
  | [] => ""
  | kept => "." ++ String.ofList kept

/-- A time of day, in normal form. -/
def timeLiteral (s : List Char) : Option (String × List Char) := do
  let (hour, rest) ← fixedDigits 2 s
  let rest ← expect ':' rest
  let (minute, rest) ← fixedDigits 2 rest
  let rest ← expect ':' rest
  let (second, rest) ← fixedDigits 2 rest
  if hour ≤ 23 ∧ minute ≤ 59 ∧ second ≤ 60 then
    let text := padded 2 hour ++ ":" ++ padded 2 minute ++ ":" ++ padded 2 second
    match rest with
    | '.' :: rest' =>
        match rest'.takeWhile Char.isDigit with
        | [] => some (text, rest)
        | digits => some (text ++ secondFraction digits, rest'.dropWhile Char.isDigit)
    | _ => some (text, rest)
  else none

/-- A distance from universal time, if there is one, in normal form; no distance counts as one to
the east. -/
def offsetLiteral (s : List Char) : Option (String × List Char) :=
  match s with
  | 'Z' :: rest | 'z' :: rest => some ("Z", rest)
  | c :: rest =>
      if c = '+' ∨ c = '-' then do
        let (hour, rest) ← fixedDigits 2 rest
        let rest ← expect ':' rest
        let (minute, rest) ← fixedDigits 2 rest
        if hour ≤ 23 ∧ minute ≤ 59 then
          let sign := if hour = 0 ∧ minute = 0 then '+' else c
          some (String.ofList [sign] ++ padded 2 hour ++ ":" ++ padded 2 minute, rest)
        else none
      else some ("", s)
  | [] => some ("", [])

/-- The time after a date, if there is one. -/
def timeAfterDate (s : List Char) : Option (String × List Char) :=
  match s with
  | c :: rest =>
      if c = 'T' ∨ c = 't' ∨ c = ' ' then
        match timeLiteral rest with
        | some (time, rest) =>
            (offsetLiteral rest).map fun (offset, rest) => ("T" ++ time ++ offset, rest)
        | none => some ("", s)
      else some ("", s)
  | [] => some ("", [])

/-- A date, a date with a time, or a time. -/
def dateTimeLiteral (s : List Char) : Option (Toml × List Char) :=
  match dateLiteral s with
  | some (date, rest) =>
      (timeAfterDate rest).map fun (time, rest) => (.datetime (date ++ time), rest)
  | none => (timeLiteral s).map fun (time, rest) => (.datetime time, rest)

/-- A word that stands for a value. -/
def wordLiteral : Scan Toml
  | 't' :: 'r' :: 'u' :: 'e' :: rest => some (.boolean true, rest)
  | 'f' :: 'a' :: 'l' :: 's' :: 'e' :: rest => some (.boolean false, rest)
  | s => specialFloat s

/-- A number, a date or a time. -/
def numberLiteral (s : List Char) : Option (Toml × List Char) :=
  (dateTimeLiteral s).or ((floatLiteral s).or (integerLiteral s))

/-- A value that is neither an array nor a table. -/
def scalar (s : List Char) : Option (Toml × List Char) :=
  match s with
  | [] => none
  | c :: _ =>
      if c = '"' ∨ c = '\'' then
        (quotedText s).map fun (text, rest) => (.string (String.ofList text), rest)
      else if c = '+' ∨ c = '-' ∨ c.isDigit then numberLiteral s
      else if c = 't' ∨ c = 'f' ∨ c = 'i' ∨ c = 'n' then wordLiteral s
      else none

end NativeBridge.Toml
