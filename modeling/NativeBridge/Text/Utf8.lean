/-
Module: NativeBridge.Text.Utf8
Purpose: UTF-8 bytes of a text, tolerant and strict decoding, and cutting a text to a byte budget.
Main exports: encode, decodeNext, decodeLossy, decode?, isBoundary, floorBoundary, truncate
-/

namespace NativeBridge.Text.Utf8

/-!
Native code sees text as bytes.  Bytes that are not UTF-8 are still readable: `decodeLossy` puts one
replacement character for each maximal run of bytes that starts like a character and is then cut
short, as the Unicode standard recommends.  `truncate` cuts a text to a number of bytes by walking
back from the cut to the nearest boundary between characters.
-/

/-- The character that stands for bytes that are not UTF-8. -/
def replacement : Char := '\uFFFD'

/-- The UTF-8 bytes of a list of characters. -/
def encodeChars (s : List Char) : List UInt8 :=
  s.flatMap String.utf8EncodeChar

/-- The UTF-8 bytes of a text. -/
def encode (text : String) : List UInt8 :=
  encodeChars text.toList

/-- Whether a byte continues a character. -/
def isContinuation (b : UInt8) : Bool :=
  0x80 ≤ b && b ≤ 0xBF

/-- The six payload bits of a continuation byte. -/
def payload (b : UInt8) : Nat :=
  b.toNat % 0x40

/-- The second bytes that may follow the first byte of a three-byte character. -/
def isSecondOfThree (first second : UInt8) : Bool :=
  if first == 0xE0 then 0xA0 ≤ second && second ≤ 0xBF
  else if first == 0xED then 0x80 ≤ second && second ≤ 0x9F
  else isContinuation second

/-- The second bytes that may follow the first byte of a four-byte character. -/
def isSecondOfFour (first second : UInt8) : Bool :=
  if first == 0xF0 then 0x90 ≤ second && second ≤ 0xBF
  else if first == 0xF4 then 0x80 ≤ second && second ≤ 0x8F
  else isContinuation second

/-- The rest of a two-byte character, or the replacement character. -/
def decodeTwo (first : UInt8) : List UInt8 → Char × List UInt8
  | b :: rest =>
      if isContinuation b then (Char.ofNat ((first.toNat % 0x20) * 0x40 + payload b), rest)
      else (replacement, b :: rest)
  | [] => (replacement, [])

/-- The rest of a three-byte character, or the replacement character. -/
def decodeThree (first : UInt8) : List UInt8 → Char × List UInt8
  | b :: rest =>
      if isSecondOfThree first b then
        match rest with
        | c :: rest' =>
            if isContinuation c then
              (Char.ofNat ((first.toNat % 0x10) * 0x1000 + payload b * 0x40 + payload c), rest')
            else (replacement, c :: rest')
        | [] => (replacement, [])
      else (replacement, b :: rest)
  | [] => (replacement, [])

/-- The rest of a four-byte character, or the replacement character. -/
def decodeFour (first : UInt8) : List UInt8 → Char × List UInt8
  | b :: rest =>
      if isSecondOfFour first b then
        match rest with
        | c :: rest' =>
            if isContinuation c then
              match rest' with
              | d :: rest'' =>
                  if isContinuation d then
                    (Char.ofNat ((first.toNat % 0x8) * 0x40000 + payload b * 0x1000 +
                      payload c * 0x40 + payload d), rest'')
                  else (replacement, d :: rest'')
              | [] => (replacement, [])
            else (replacement, c :: rest')
        | [] => (replacement, [])
      else (replacement, b :: rest)
  | [] => (replacement, [])

/-- One character off a byte sequence whose first byte is given, and the bytes after it. -/
def decodeNext (first : UInt8) (rest : List UInt8) : Char × List UInt8 :=
  if first < 0x80 then (Char.ofNat first.toNat, rest)
  else if 0xC2 ≤ first && first ≤ 0xDF then decodeTwo first rest
  else if 0xE0 ≤ first && first ≤ 0xEF then decodeThree first rest
  else if 0xF0 ≤ first && first ≤ 0xF4 then decodeFour first rest
  else (replacement, rest)

theorem length_decodeNext_le (first : UInt8) (rest : List UInt8) :
    (decodeNext first rest).2.length ≤ rest.length := by
  unfold decodeNext
  split
  · simp
  split
  · unfold decodeTwo
    repeat' split
    all_goals simp
  split
  · unfold decodeThree
    repeat' split
    all_goals (simp only [List.length_cons, List.length_nil]; omega)
  split
  · unfold decodeFour
    repeat' split
    all_goals (simp only [List.length_cons, List.length_nil]; omega)
  · simp

/-- Decode bytes, with one replacement character for each maximal malformed run. -/
def decodeLossyChars : List UInt8 → List Char
  | [] => []
  | first :: rest =>
      (decodeNext first rest).1 :: decodeLossyChars (decodeNext first rest).2
termination_by bytes => bytes.length
decreasing_by
  have := length_decodeNext_le first rest
  simp only [List.length_cons]
  omega

/-- Decode bytes to a text, with one replacement character for each maximal malformed run. -/
def decodeLossy (bytes : List UInt8) : String :=
  String.ofList (decodeLossyChars bytes)

/-- Decode bytes that must be UTF-8 throughout: only then does encoding the decoded text give them
back. -/
def decode? (bytes : List UInt8) : Option String :=
  let chars := decodeLossyChars bytes
  if encodeChars chars == bytes then some (String.ofList chars) else none

/-- Whether position `n` lies between two characters, or at an end, of a byte sequence. -/
def isBoundary (bytes : List UInt8) (n : Nat) : Bool :=
  match bytes[n]? with
  | some b => n == 0 || !isContinuation b
  | none => n == 0 || n == bytes.length

/-- The nearest boundary at or below a position. -/
def floorBoundary (bytes : List UInt8) : Nat → Nat
  | 0 => 0
  | n + 1 => if isBoundary bytes (n + 1) then n + 1 else floorBoundary bytes n

/-- The text cut to at most `capacity` bytes, at a boundary between characters. -/
def truncate (text : String) (capacity : Nat) : String :=
  let bytes := encode text
  decodeLossy (bytes.take (floorBoundary bytes (min bytes.length capacity)))

end NativeBridge.Text.Utf8
