/-
Module: NativeBridge.Proofs.TextSearch
Purpose: What trimming leaves of a text, where a text is divided when it is searched, and which
  spellings of a number are read and written.
Main exports: Text.EndsInText, Text.DividesFirst, Text.splitFirst?_eq_some_iff,
  Text.splitLast?_eq_some_iff, Text.IsPlainNumeral, Text.isPlainNumeral_iff
-/
import Mathlib.Data.List.Infix
import Mathlib.Data.List.TakeWhile
import NativeBridge.Text.Blank
import NativeBridge.Text.Numeral
import NativeBridge.Text.Search

namespace NativeBridge.Text

/-! ### Ends of a text -/

/-- A text has an end that is not white space. -/
def EndsInText (s : List Char) : Prop :=
  ∃ front last, s = front ++ [last] ∧ isBlank last = false

theorem EndsInText.append {s : List Char} (ends : EndsInText s) (front : List Char) :
    EndsInText (front ++ s) := by
  obtain ⟨middle, last, rfl, solid⟩ := ends
  exact ⟨front ++ middle, last, (List.append_assoc _ _ _).symm, solid⟩

/-- What a text ends in ends as the text does, unless nothing is left. -/
theorem EndsInText.of_append {front s : List Char} (ends : EndsInText (front ++ s))
    (nonempty : s ≠ []) : EndsInText s := by
  obtain ⟨whole, last, parted, solid⟩ := ends
  refine ⟨s.dropLast, s.getLast nonempty, (List.dropLast_concat_getLast nonempty).symm, ?_⟩
  have same : (front ++ s).getLast? = (whole ++ [last]).getLast? := congrArg List.getLast? parted
  rw [List.getLast?_append_of_ne_nil _ nonempty, List.getLast?_concat,
    List.getLast?_eq_some_getLast nonempty] at same
  rw [Option.some.inj same]
  exact solid

/-- Something that ends in text is behind white space. -/
theorem EndsInText.behind_blank {front s : List Char} {c : Char}
    (ends : EndsInText (front ++ c :: s)) (blank : isBlank c = true) : EndsInText s := by
  have behind : EndsInText ([c] ++ s) := ends.of_append (List.cons_ne_nil c s)
  apply behind.of_append
  rintro rfl
  obtain ⟨before, last, parted, solid⟩ := behind
  have same : c = last := by simpa using congrArg List.getLast? parted
  rw [← same, blank] at solid
  cases solid

theorem EndsInText.trimEndChars_eq {s : List Char} (ends : EndsInText s) : trimEndChars s = s := by
  obtain ⟨front, last, rfl, solid⟩ := ends
  simp [trimEndChars, solid]

theorem trimEndChars_endsInText {s : List Char} (solid : ∃ c ∈ s, isBlank c = false) :
    EndsInText (trimEndChars s) := by
  have left : s.reverse.dropWhile isBlank ≠ [] := by
    intro none_left
    obtain ⟨c, found, shown⟩ := solid
    have blank := List.dropWhile_eq_nil_iff.mp none_left _ (List.mem_reverse.mpr found)
    rw [shown] at blank
    cases blank
  obtain ⟨last, rest, parted⟩ := List.exists_cons_of_ne_nil left
  refine ⟨rest.reverse, last, ?_, ?_⟩
  · rw [trimEndChars, parted, List.reverse_cons]
  · have stopped := List.head?_dropWhile_not isBlank s.reverse
    simpa [parted] using stopped

theorem trimChars_eq {s : List Char} (solid : ∀ c ∈ s, isBlank c = false) : trimChars s = s := by
  have kept (text : List Char) (shown : ∀ c ∈ text, isBlank c = false) :
      text.dropWhile isBlank = text := by
    cases text with
    | nil => rfl
    | cons c rest => rw [List.dropWhile_cons_of_neg (by simp [shown c List.mem_cons_self])]
  rw [trimChars, kept s solid, trimEndChars, kept s.reverse, List.reverse_reverse]
  intro c found
  exact solid c (List.mem_reverse.mp found)

/-! ### Searching -/

theorem stripStart?_eq_some_iff {pattern s rest : List Char} :
    stripStart? pattern s = some rest ↔ s = pattern ++ rest := by
  induction pattern generalizing s with
  | nil => simp [stripStart?]
  | cons p pattern ih =>
    cases s with
    | nil => simp [stripStart?]
    | cons c s =>
      rw [stripStart?]
      split
      next same => simp [ih, same]
      next differs => simp [Ne.symm differs]

theorem stripStart?_eq_none_iff {pattern s : List Char} :
    stripStart? pattern s = none ↔ ¬ pattern <+: s := by
  rw [Option.eq_none_iff_forall_ne_some]
  constructor
  · rintro refused ⟨rest, rfl⟩
    exact refused rest (stripStart?_eq_some_iff.mpr rfl)
  · intro absent rest found
    exact absent ⟨rest, (stripStart?_eq_some_iff.mp found).symm⟩

/-- A text is divided at the first place where a pattern occurs. -/
structure DividesFirst (pattern s before after : List Char) : Prop where
  parted : s = before ++ (pattern ++ after)
  first : ∀ front back, s = front ++ (pattern ++ back) → before.length ≤ front.length

theorem DividesFirst.unique {pattern s before after front back : List Char}
    (one : DividesFirst pattern s before after) (other : DividesFirst pattern s front back) :
    front = before ∧ back = after := by
  have lengths : before.length = front.length :=
    Nat.le_antisymm (one.first _ _ other.parted) (other.first _ _ one.parted)
  obtain ⟨fronts, backs⟩ := List.append_inj (one.parted.symm.trans other.parted) lengths
  exact ⟨fronts.symm, (List.append_cancel_left backs).symm⟩

theorem splitFirst?_cases (pattern s : List Char) :
    (splitFirst? pattern s = none ∧ ¬ pattern <:+: s) ∨
      ∃ before after, splitFirst? pattern s = some (before, after) ∧
        DividesFirst pattern s before after := by
  induction s with
  | nil =>
    cases pattern with
    | nil => exact .inr ⟨[], [], rfl, rfl, fun _ _ _ => Nat.zero_le _⟩
    | cons p pattern => exact .inl ⟨rfl, by simp⟩
  | cons c s ih =>
    rw [splitFirst?]
    cases stripped : stripStart? pattern (c :: s) with
    | some after =>
      have parted := stripStart?_eq_some_iff.mp stripped
      exact .inr ⟨[], after, rfl, parted, fun _ _ _ => Nat.zero_le _⟩
    | none =>
      have absent := stripStart?_eq_none_iff.mp stripped
      rcases ih with ⟨none_left, nowhere⟩ | ⟨before, after, found, divides⟩
      · refine .inl ⟨by simp [none_left], ?_⟩
        rw [List.infix_cons_iff]
        exact not_or.mpr ⟨absent, nowhere⟩
      · refine .inr ⟨c :: before, after, by simp [found], ?_, ?_⟩
        · rw [divides.parted, List.cons_append]
        · intro front back parted
          cases front with
          | nil => exact absurd ⟨back, parted.symm⟩ absent
          | cons first front =>
            have later := divides.first front back (List.cons.inj parted).2
            exact Nat.succ_le_succ later

theorem splitFirst?_eq_some_iff {pattern s before after : List Char} :
    splitFirst? pattern s = some (before, after) ↔ DividesFirst pattern s before after := by
  obtain ⟨none_found, nowhere⟩ | ⟨front, back, found, divides⟩ := splitFirst?_cases pattern s
  · rw [none_found]
    refine iff_of_false (by simp) fun divided => nowhere ?_
    exact ⟨before, after, by rw [divided.parted, List.append_assoc]⟩
  · rw [found]
    constructor
    · intro same
      cases same
      exact divides
    · intro divided
      obtain ⟨rfl, rfl⟩ := divides.unique divided
      rfl

theorem splitLast?_eq_none_iff {mark : Char} {s : List Char} :
    splitLast? mark s = none ↔ mark ∉ s := by
  induction s with
  | nil => simp [splitLast?]
  | cons c s ih =>
    rw [splitLast?]
    cases later : splitLast? mark s with
    | some parts =>
      have among : mark ∈ s := by simpa [later] using ih
      simp [among]
    | none =>
      have absent := ih.mp later
      by_cases here : c = mark
      · simp [here]
      · simp [here, absent, Ne.symm here]

/-- A text is divided at the last place of a character: none is behind it. -/
theorem splitLast?_eq_some_iff {mark : Char} {s before after : List Char} :
    splitLast? mark s = some (before, after) ↔ s = before ++ mark :: after ∧ mark ∉ after := by
  induction s generalizing before after with
  | nil => simp [splitLast?]
  | cons c s ih =>
    rw [splitLast?]
    cases later : splitLast? mark s with
    | some parts =>
      obtain ⟨front, back⟩ := parts
      obtain ⟨parted, last⟩ := ih.mp later
      constructor
      · intro same
        cases same
        exact ⟨by rw [parted, List.cons_append], last⟩
      · rintro ⟨whole, ends⟩
        cases before with
        | nil =>
          obtain ⟨-, rfl⟩ := List.cons.inj whole
          exact absurd (by simp [parted]) ends
        | cons first before =>
          obtain ⟨rfl, behind⟩ := List.cons.inj whole
          have same := ih.mpr ⟨behind, ends⟩
          rw [later] at same
          cases same
          rfl
    | none =>
      have absent := splitLast?_eq_none_iff.mp later
      constructor
      · intro same
        dsimp only at same
        split at same
        next here =>
          cases same
          exact ⟨by rw [here, List.nil_append], absent⟩
        next => cases same
      · rintro ⟨whole, -⟩
        cases before with
        | nil =>
          obtain ⟨rfl, rfl⟩ := List.cons.inj whole
          simp
        | cons first before =>
          obtain ⟨-, rfl⟩ := List.cons.inj whole
          exact absurd (by simp) absent

/-! ### Numbers -/

/-- Digits as a number is written: at least one, and no needless zero in front. -/
structure IsPlainNumeral (digits : List Char) : Prop where
  nonempty : digits ≠ []
  decimal : ∀ c ∈ digits, c.isDigit = true
  unpadded : digits.head? = some '0' → digits = ['0']

theorem decimalValue_eq_some_iff {digits : List Char} {start value : Nat} :
    decimalValue digits start = some value ↔
      (∀ c ∈ digits, c.isDigit = true) ∧ Nat.ofDigitChars 10 digits start = value := by
  induction digits generalizing start with
  | nil => simp [decimalValue]
  | cons c rest ih =>
    rw [decimalValue]
    split
    next digit =>
      rw [ih, Nat.ofDigitChars_cons, Nat.mul_comm]
      simp [digit]
    next other => simp [other]

theorem digitChar_of_isDigit {c : Char} (digit : c.isDigit = true) :
    c.toNat - '0'.toNat < 10 ∧ Nat.digitChar (c.toNat - '0'.toNat) = c := by
  have bounds := Char.isDigit_iff_toNat.mp digit
  have zero : '0'.toNat = 48 := rfl
  have nine : '9'.toNat = 57 := rfl
  have small : c.toNat - '0'.toNat < 10 := by omega
  refine ⟨small, Char.toNat_inj.mp ?_⟩
  rw [Nat.toNat_digitChar_of_lt_ten small]
  omega

theorem isBlank_of_isDigit {c : Char} (digit : c.isDigit = true) : isBlank c = false := by
  have bounds : 48 ≤ c.toNat ∧ c.toNat ≤ 57 := Char.isDigit_iff_toNat.mp digit
  simp only [isBlank, Bool.or_eq_false_iff, Bool.and_eq_false_iff, decide_eq_false_iff_not,
    beq_eq_false_iff_ne]
  omega

/-- A plain numeral is the decimal form of its value. -/
theorem IsPlainNumeral.toDigits_eq {digits : List Char} (plain : IsPlainNumeral digits) :
    Nat.toDigits 10 (Nat.ofDigitChars 10 digits 0) = digits := by
  induction digits using List.reverseRecOn with
  | nil => exact absurd rfl plain.nonempty
  | append_singleton front c ih =>
    obtain ⟨small, same⟩ := digitChar_of_isDigit (plain.decimal c (by simp))
    rcases List.eq_nil_or_concat front with rfl | ⟨most, last, parted⟩
    · simp only [List.nil_append, Nat.ofDigitChars_cons, Nat.ofDigitChars_nil]
      rw [Nat.mul_zero, Nat.zero_add, Nat.toDigits_of_lt_base small, same]
    · have nonempty : front ≠ [] := by simp [parted]
      have headed : (front ++ [c]).head? = front.head? := List.head?_append_of_ne_nil _ nonempty
      have unpadded : front.head? ≠ some '0' := by
        intro zero
        have single := plain.unpadded (headed.trans zero)
        have lengths := congrArg List.length single
        simp [parted] at lengths
      have shorter := ih ⟨nonempty, fun d among => plain.decimal d (by simp [among]),
        fun zero => absurd zero unpadded⟩
      have positive : 0 < Nat.ofDigitChars 10 front 0 := by
        rw [Nat.pos_iff_ne_zero]
        intro zero
        rw [zero] at shorter
        exact unpadded (by rw [← shorter]; rfl)
      rw [Nat.ofDigitChars_append, Nat.ofDigitChars_cons, Nat.ofDigitChars_nil,
        ← Nat.toDigits_append_toDigits (by decide) positive small, shorter,
        Nat.toDigits_of_lt_base small, same]

/-- The decimal form of a number is a plain numeral. -/
theorem isPlainNumeral_toDigits (n : Nat) : IsPlainNumeral (Nat.toDigits 10 n) where
  nonempty := Nat.toDigits_ne_nil
  decimal _ among := Nat.isDigit_of_mem_toDigits (by decide) (by decide) among
  unpadded := by
    induction n using Nat.strongRecOn with
    | ind n ih =>
      by_cases small : n < 10
      · rw [Nat.toDigits_of_lt_base small]
        intro zero
        rw [Option.some.inj zero]
      · have large : 10 ≤ n := Nat.le_of_not_lt small
        rw [Nat.toDigits_of_base_le (by decide) large,
          List.head?_append_of_ne_nil _ Nat.toDigits_ne_nil]
        intro zero
        have single := ih (n / 10) (by omega) zero
        have value : Nat.ofDigitChars 10 (Nat.toDigits 10 (n / 10)) 0 = 0 := by
          rw [single]
          rfl
        rw [Nat.ofDigitChars_ten_toDigits] at value
        omega

/-- A plain numeral is read as its value, if that is not too large. -/
theorem IsPlainNumeral.parseUInt32_eq {digits : List Char} (plain : IsPlainNumeral digits) :
    parseUInt32 digits =
      if Nat.ofDigitChars 10 digits 0 < UInt32.size then
        some (UInt32.ofNat (Nat.ofDigitChars 10 digits 0))
      else none := by
  have value : decimalValue digits 0 = some (Nat.ofDigitChars 10 digits 0) :=
    decimalValue_eq_some_iff.mpr ⟨plain.decimal, rfl⟩
  cases digits with
  | nil => exact absurd rfl plain.nonempty
  | cons first rest =>
    have unsigned : first ≠ '+' := by
      rintro rfl
      have digit := plain.decimal '+' List.mem_cons_self
      cases digit
    simp [parseUInt32, value, unsigned]

/-- A number is read from its decimal form. -/
theorem parseUInt32_toDigits (n : UInt32) : parseUInt32 (Nat.toDigits 10 n.toNat) = some n := by
  rw [(isPlainNumeral_toDigits n.toNat).parseUInt32_eq, Nat.ofDigitChars_ten_toDigits,
    if_pos n.toNat_lt_size, UInt32.ofNat_toNat]

/-- A spelling that is read as a number is its decimal form just if it is a plain numeral. -/
theorem isPlainNumeral_iff {digits : List Char} {n : UInt32}
    (reads : parseUInt32 digits = some n) :
    IsPlainNumeral digits ↔ digits = Nat.toDigits 10 n.toNat := by
  constructor
  · intro plain
    rw [plain.parseUInt32_eq] at reads
    split at reads
    next small =>
      cases reads
      rw [UInt32.toNat_ofNat_of_lt' small, plain.toDigits_eq]
    next => cases reads
  · rintro rfl
    exact isPlainNumeral_toDigits n.toNat

end NativeBridge.Text
