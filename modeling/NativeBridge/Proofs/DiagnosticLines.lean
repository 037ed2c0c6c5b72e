/-
Module: NativeBridge.Proofs.DiagnosticLines
Purpose: What a line of compiler output is read as, which diagnostics are read back from their
  printed form, and which lines are printed back as they were.
Main exports: Severity.SpacesColons, Diagnostic.DividedAt, Diagnostic.Reads,
  Diagnostic.parseChars_reads, Diagnostic.parse_text, Diagnostic.parse_stable
-/
import NativeBridge.Diagnostic
import NativeBridge.Proofs.TextSearch

namespace NativeBridge

open Text (EndsInText DividesFirst IsPlainNumeral)

/-!
A line is read by searching it for three marks that overlap, and by searching the location in front
of the earliest one for its last colon.  In every mark a blank follows each colon, and in a printed
line number a digit follows its colon.  So no mark reaches over that colon, and what is printed is
divided where it was put together.
-/

/-! ### Marks -/

namespace Severity

/-- A mark in which a blank follows every colon. -/
def SpacesColons (mark : List Char) : Prop :=
  ∀ i < mark.length, mark[i]? = some ':' → mark[i + 1]? = some ' '

theorem leadingMark_spaces (severity : Severity) : SpacesColons severity.leadingMark := by
  unfold SpacesColons
  cases severity <;> decide

theorem dividingMark_spaces (severity : Severity) : SpacesColons severity.dividingMark := by
  unfold SpacesColons
  cases severity <;> decide

/-- A mark does not reach over a colon that no blank follows: it ends before, or begins behind. -/
theorem SpacesColons.apart {mark front back file rest : List Char} {c : Char}
    (spaces : SpacesColons mark) (solid : c ≠ ' ')
    (parted : file ++ ':' :: c :: rest = front ++ (mark ++ back)) :
    (∃ behind, file = front ++ (mark ++ behind)) ∨ ∃ skipped, front = file ++ ':' :: skipped := by
  have whole : front <+: file ++ ':' :: c :: rest := ⟨_, parted.symm⟩
  by_cases before : front.length + mark.length ≤ file.length
  · have marked : front ++ mark <+: file ++ ':' :: c :: rest := by
      rw [parted, ← List.append_assoc]
      exact List.prefix_append _ _
    obtain ⟨behind, same⟩ := List.prefix_of_prefix_length_le marked (List.prefix_append file _)
      (by simpa using before)
    exact .inl ⟨behind, by rw [← same, List.append_assoc]⟩
  · by_cases behind : file.length < front.length
    · have named : file ++ [':'] <+: file ++ ':' :: c :: rest := ⟨c :: rest, by simp⟩
      obtain ⟨skipped, same⟩ := List.prefix_of_prefix_length_le named whole
        (by simpa [Nat.succ_le_iff] using behind)
      exact .inr ⟨skipped, by rw [← same, List.append_assoc, List.singleton_append]⟩
    · -- The colon is inside the mark, so the blank that follows it there is the character `c`.
      exfalso
      have inside : file.length - front.length < mark.length := by omega
      have at_mark (i : Nat) (within : file.length - front.length + i < mark.length) :
          (file ++ ':' :: c :: rest)[file.length + i]? =
            mark[file.length - front.length + i]? := by
        rw [parted, List.getElem?_append_right (by omega), List.getElem?_append_left (by omega)]
        congr 1
        omega
      have colon : mark[file.length - front.length]? = some ':' := by
        rw [← Nat.add_zero (file.length - front.length), ← at_mark 0 inside]
        simp
      have blank := spaces _ inside colon
      have next := at_mark 1 (List.getElem?_eq_some_iff.mp blank).1
      rw [blank] at next
      simp [solid] at next

theorem leadingMark_inj {one other : Severity} {front back : List Char}
    (same : one.leadingMark ++ front = other.leadingMark ++ back) : one = other := by
  have first := congrArg List.head? same
  revert first
  cases one <;> cases other <;> simp [leadingMark, label]

theorem mem_all (severity : Severity) : severity ∈ all := by
  cases severity <;> decide

theorem exists_iff {p : Severity → Prop} : (∃ severity, p severity) ↔ ∃ severity ∈ all, p severity :=
  exists_congr fun severity => (and_iff_right (mem_all severity)).symm

end Severity

namespace Diagnostic

open Severity (mem_all)

variable {line before after file written : List Char} {severity : Severity} {n : UInt32}

/-! ### How a line is read -/

/-- A line starts with a severity. -/
def Led (line : List Char) : Prop :=
  ∃ severity : Severity, severity.leadingMark <+: line

instance : Decidable (Led line) :=
  decidable_of_iff _ Severity.exists_iff.symm

/-- A severity is recognised in a line. -/
def Marked (line : List Char) : Prop :=
  Led line ∨ ∃ severity : Severity, severity.dividingMark <:+: line

instance : Decidable (Marked line) :=
  haveI : Decidable (∃ severity : Severity, severity.dividingMark <:+: line) :=
    decidable_of_iff _ Severity.exists_iff.symm
  inferInstanceAs (Decidable (Led line ∨ _))

/-- A line is divided by the mark of a severity, and no mark of any severity starts earlier. -/
structure DividedAt (line : List Char) (severity : Severity) (before after : List Char) : Prop where
  parted : line = before ++ (severity.dividingMark ++ after)
  first : ∀ (other : Severity) (front back : List Char),
    line = front ++ (other.dividingMark ++ back) → before.length ≤ front.length

/-- A location ends in a line number, which is written behind its last colon. -/
structure NumberedBy (location file written : List Char) (n : UInt32) : Prop where
  parted : location = file ++ ':' :: written
  last : ':' ∉ written
  reads : Text.parseUInt32 (Text.trimChars written) = some n

/-- A line without white space at its end, and the diagnostic that it is read as. -/
inductive Reads (line : List Char) : Diagnostic → Prop
  | leading {severity : Severity} {message : List Char}
      (starts : line = severity.leadingMark ++ message) :
      Reads line (plain severity (String.ofList message))
  | numbered {severity : Severity} {before after file written : List Char} {n : UInt32}
      (unled : ¬ Led line) (divided : DividedAt line severity before after)
      (number : NumberedBy before file written n) :
      Reads line ⟨severity, some (String.ofList file), some n, String.ofList after⟩
  | unnumbered {severity : Severity} {before after : List Char}
      (unled : ¬ Led line) (divided : DividedAt line severity before after)
      (unnumbered : ∀ file written n, ¬ NumberedBy before file written n) :
      Reads line ⟨severity, some (String.ofList before), none, String.ofList after⟩
  | unmarked (unmarked : ¬ Marked line) : Reads line (plain .error (String.ofList line))

theorem DividedAt.unique {one other : Severity} {front back : List Char}
    (divided : DividedAt line one before after) (again : DividedAt line other front back) :
    other = one ∧ front = before ∧ back = after := by
  have lengths : before.length = front.length :=
    Nat.le_antisymm (divided.first _ _ _ again.parted) (again.first _ _ _ divided.parted)
  obtain ⟨fronts, marks⟩ := List.append_inj (divided.parted.symm.trans again.parted) lengths
  have severities : one = other :=
    Severity.leadingMark_inj (List.cons.inj (List.cons.inj marks).2).2
  subst severities
  exact ⟨rfl, fronts.symm, (List.append_cancel_left marks).symm⟩

theorem DividedAt.marked (divided : DividedAt line severity before after) : Marked line :=
  .inr ⟨severity, before, after, by rw [divided.parted, List.append_assoc]⟩

/-- In front of its mark no severity is recognised in a line. -/
theorem DividedAt.unmarked (divided : DividedAt line severity before after) (unled : ¬ Led line)
    {front back : List Char} (parted : before = front ++ back) : ¬ Marked front := by
  rintro (⟨other, starts⟩ | ⟨other, some, more, among⟩)
  · refine unled ⟨other, starts.trans ?_⟩
    rw [divided.parted, parted, List.append_assoc]
    exact List.prefix_append _ _
  · have sooner := divided.first other some (more ++ (back ++ (severity.dividingMark ++ after)))
      (by rw [divided.parted, parted, ← among]; simp only [List.append_assoc])
    rw [parted, ← among] at sooner
    simp only [List.length_append, Severity.dividingMark, List.length_cons] at sooner
    omega

theorem NumberedBy.unique {other spelling : List Char} {m : UInt32} {location : List Char}
    (number : NumberedBy location file written n) (again : NumberedBy location other spelling m) :
    other = file ∧ spelling = written ∧ m = n := by
  have found := Text.splitLast?_eq_some_iff.mpr ⟨number.parted, number.last⟩
  rw [Text.splitLast?_eq_some_iff.mpr ⟨again.parted, again.last⟩] at found
  cases found
  have read := again.reads
  rw [number.reads] at read
  exact ⟨rfl, rfl, (Option.some.inj read).symm⟩

/-! ### Reading a line -/

theorem parseLeading_cases (line : List Char) :
    (∃ severity message, line = Severity.leadingMark severity ++ message ∧
      parseLeading line = some (plain severity (String.ofList message))) ∨
    ¬ Led line ∧ parseLeading line = none := by
  cases found : parseLeading line with
  | some diagnostic =>
    obtain ⟨severity, -, stripped⟩ := List.exists_of_findSome?_eq_some found
    obtain ⟨message, starts, rfl⟩ := Option.map_eq_some_iff.mp stripped
    exact .inl ⟨severity, message, Text.stripStart?_eq_some_iff.mp starts, rfl⟩
  | none =>
    refine .inr ⟨?_, rfl⟩
    rintro ⟨severity, starts⟩
    have unstripped := List.findSome?_eq_none_iff.mp found severity (mem_all severity)
    exact Text.stripStart?_eq_none_iff.mp (Option.map_eq_none_iff.mp unstripped) starts

theorem mem_divisions :
    ⟨severity, before, after⟩ ∈ divisions line ↔
      DividesFirst severity.dividingMark line before after := by
  rw [← Text.splitFirst?_eq_some_iff, divisions, List.mem_filterMap]
  constructor
  · rintro ⟨one, -, found⟩
    obtain ⟨⟨front, back⟩, split, same⟩ := Option.map_eq_some_iff.mp found
    cases same
    exact split
  · intro split
    exact ⟨severity, mem_all severity, by rw [split]; rfl⟩

/-- The earliest of some divisions is one of them, and no other one is earlier. -/
theorem earliest_least {parts : List Division} {least : Division}
    (found : earliest parts = some least) :
    least ∈ parts ∧ ∀ part ∈ parts, least.before.length ≤ part.before.length := by
  cases parts with
  | nil => cases found
  | cons part rest =>
    cases found
    induction rest generalizing part with
    | nil => simp
    | cons next rest ih =>
      obtain ⟨among, least⟩ := ih (earlier part next)
      rw [List.foldl_cons]
      have chosen : (earlier part next = part ∨ earlier part next = next) ∧
          (earlier part next).before.length ≤ part.before.length ∧
          (earlier part next).before.length ≤ next.before.length := by
        rw [earlier]
        split
        next sooner => exact ⟨.inr rfl, Nat.le_of_lt sooner, Nat.le_refl _⟩
        next later => exact ⟨.inl rfl, Nat.le_refl _, Nat.le_of_not_lt later⟩
      have bound := least (earlier part next) List.mem_cons_self
      refine ⟨?_, ?_⟩
      · rcases List.mem_cons.mp among with same | among
        · rw [same]
          rcases chosen.1 with same | same
          · simp [same]
          · simp [same]
        · exact List.mem_cons_of_mem _ (List.mem_cons_of_mem _ among)
      · rintro other (_ | ⟨_, _ | ⟨_, among⟩⟩)
        · exact bound.trans chosen.2.1
        · exact bound.trans chosen.2.2
        · exact least other (List.mem_cons_of_mem _ among)

theorem earliest_cases (line : List Char) :
    (∃ severity before after, earliest (divisions line) = some ⟨severity, before, after⟩ ∧
      DividedAt line severity before after) ∨
    earliest (divisions line) = none ∧ ∀ severity, ¬ Severity.dividingMark severity <:+: line := by
  have listed (other : Severity) (front back : List Char)
      (parted : line = front ++ (other.dividingMark ++ back)) :
      ∃ front' back', ⟨other, front', back'⟩ ∈ divisions line ∧ front'.length ≤ front.length := by
    obtain ⟨-, nowhere⟩ | ⟨front', back', -, divides⟩ :=
      Text.splitFirst?_cases other.dividingMark line
    · exact absurd ⟨front, back, by rw [parted, List.append_assoc]⟩ nowhere
    · exact ⟨front', back', mem_divisions.mpr divides, divides.first _ _ parted⟩
  cases found : earliest (divisions line) with
  | some least =>
    obtain ⟨severity, before, after⟩ := least
    obtain ⟨among, least⟩ := earliest_least found
    refine .inl ⟨severity, before, after, rfl, (mem_divisions.mp among).parted, ?_⟩
    intro other front back parted
    obtain ⟨front', back', divides, sooner⟩ := listed other front back parted
    exact (least _ divides).trans sooner
  | none =>
    refine .inr ⟨rfl, ?_⟩
    rintro severity ⟨front, back, parted⟩
    obtain ⟨front', back', among, -⟩ :=
      listed severity front back (by rw [← parted, List.append_assoc])
    cases parts : divisions line with
    | nil =>
      rw [parts] at among
      cases among
    | cons part rest =>
      rw [parts] at found
      cases found

theorem splitLocation_cases (location : List Char) :
    (∃ file written n, NumberedBy location file written n ∧
      splitLocation location = (String.ofList file, some n)) ∨
    (∀ file written n, ¬ NumberedBy location file written n) ∧
      splitLocation location = (String.ofList location, none) := by
  rw [splitLocation]
  cases found : Text.splitLast? ':' location with
  | none =>
    refine .inr ⟨?_, rfl⟩
    intro file written n number
    rw [Text.splitLast?_eq_some_iff.mpr ⟨number.parted, number.last⟩] at found
    cases found
  | some parts =>
    obtain ⟨file, written⟩ := parts
    obtain ⟨parted, last⟩ := Text.splitLast?_eq_some_iff.mp found
    dsimp only
    cases reads : Text.parseUInt32 (Text.trimChars written) with
    | some n => exact .inl ⟨file, written, n, ⟨parted, last, reads⟩, rfl⟩
    | none =>
      refine .inr ⟨?_, rfl⟩
      intro other spelling n number
      rw [Text.splitLast?_eq_some_iff.mpr ⟨number.parted, number.last⟩] at found
      cases found
      rw [number.reads] at reads
      cases reads

/-- A line is read as the rules of reading say. -/
theorem parseChars_reads (line : List Char) : Reads line (parseChars line) := by
  rw [parseChars]
  obtain ⟨severity, message, starts, found⟩ | ⟨unled, absent⟩ := parseLeading_cases line
  · rw [found]
    exact .leading starts
  · rw [absent]
    obtain ⟨severity, before, after, found, divided⟩ | ⟨absent, nowhere⟩ := earliest_cases line
    · rw [found]
      dsimp only
      obtain ⟨file, written, n, number, split⟩ | ⟨unnumbered, split⟩ := splitLocation_cases before
      · rw [split]
        exact .numbered unled divided number
      · rw [split]
        exact .unnumbered unled divided unnumbered
    · rw [absent]
      refine .unmarked ?_
      rintro (led | ⟨severity, among⟩)
      · exact unled led
      · exact nowhere severity among

/-- The rules of reading leave no choice. -/
theorem Reads.unique {one other : Diagnostic} (reads : Reads line one) (again : Reads line other) :
    one = other := by
  cases reads with
  | @leading severity message starts =>
    have led : Led line := ⟨severity, message, starts.symm⟩
    cases again with
    | leading starts' =>
      rw [starts] at starts'
      cases Severity.leadingMark_inj starts'
      rw [List.append_cancel_left starts']
    | numbered unled => exact absurd led unled
    | unnumbered unled => exact absurd led unled
    | unmarked unmarked => exact absurd (.inl led) unmarked
  | numbered unled divided number =>
    cases again with
    | leading starts => exact absurd ⟨_, _, starts.symm⟩ unled
    | numbered _ divided' number' =>
      obtain ⟨rfl, rfl, rfl⟩ := divided'.unique divided
      obtain ⟨rfl, rfl, rfl⟩ := number'.unique number
      rfl
    | unnumbered _ divided' unnumbered =>
      obtain ⟨rfl, rfl, rfl⟩ := divided'.unique divided
      exact absurd number (unnumbered _ _ _)
    | unmarked unmarked => exact absurd divided.marked unmarked
  | unnumbered unled divided unnumbered =>
    cases again with
    | leading starts => exact absurd ⟨_, _, starts.symm⟩ unled
    | numbered _ divided' number =>
      obtain ⟨rfl, rfl, rfl⟩ := divided'.unique divided
      exact absurd number (unnumbered _ _ _)
    | unnumbered _ divided' _ =>
      obtain ⟨rfl, rfl, rfl⟩ := divided'.unique divided
      rfl
    | unmarked unmarked => exact absurd divided.marked unmarked
  | unmarked unmarked =>
    cases again with
    | leading starts => exact absurd (.inl ⟨_, _, starts.symm⟩) unmarked
    | numbered _ divided => exact absurd divided.marked unmarked
    | unnumbered _ divided => exact absurd divided.marked unmarked
    | unmarked => rfl

theorem Reads.parse_eq {text : String} {diagnostic : Diagnostic} (ends : EndsInText text.toList)
    (reads : Reads text.toList diagnostic) : parse text = diagnostic := by
  rw [parse, ends.trimEndChars_eq]
  exact (parseChars_reads _).unique reads

/-! ### Printed forms -/

theorem text_plain (severity : Severity) (message : String) :
    (plain severity message).text.toList = severity.leadingMark ++ message.toList := by
  simp [text, locationText, plain, Severity.leadingMark]

theorem text_unnumbered (severity : Severity) (file message : String) :
    (Diagnostic.mk severity (some file) none message).text.toList =
      file.toList ++ (severity.dividingMark ++ message.toList) := by
  simp [text, locationText, Severity.leadingMark, Severity.dividingMark]

theorem text_numbered (severity : Severity) (file message : String) (n : UInt32) :
    (Diagnostic.mk severity (some file) (some n) message).text.toList =
      file.toList ++ ':' :: (Nat.toDigits 10 n.toNat ++
        (severity.dividingMark ++ message.toList)) := by
  simp [text, locationText, Severity.leadingMark, Severity.dividingMark, Nat.repr_eq_ofList_toDigits]

/-- A line is divided behind a file name and a line number if no severity is recognised in the
name. -/
theorem divided_toDigits (unmarked : ¬ Marked file) (n : Nat) (severity : Severity)
    (after : List Char) :
    let line := file ++ ':' :: (Nat.toDigits 10 n ++ (severity.dividingMark ++ after))
    ¬ Led line ∧ DividedAt line severity (file ++ ':' :: Nat.toDigits 10 n) after := by
  intro line
  have plain := Text.isPlainNumeral_toDigits n
  obtain ⟨digit, digits, numeral⟩ := List.exists_cons_of_ne_nil plain.nonempty
  have solid : digit ≠ ' ' := by
    rintro rfl
    have decimal := plain.decimal ' ' (by simp [numeral])
    cases decimal
  have opened : line = file ++ ':' :: digit :: (digits ++ (severity.dividingMark ++ after)) := by
    simp only [line, numeral, List.cons_append]
  refine ⟨?_, by simp [line], ?_⟩
  · rintro ⟨other, back, starts⟩
    have parted : file ++ ':' :: digit :: (digits ++ (severity.dividingMark ++ after)) =
        [] ++ (other.leadingMark ++ back) := opened.symm.trans starts.symm
    obtain ⟨behind, inside⟩ | ⟨skipped, same⟩ := other.leadingMark_spaces.apart solid parted
    · exact unmarked (.inl ⟨other, behind, inside.symm⟩)
    · cases file <;> cases same
  · intro other front back parted
    obtain ⟨behind, inside⟩ | ⟨skipped, same⟩ :=
      other.dividingMark_spaces.apart solid (opened.symm.trans parted)
    · refine absurd (.inr ⟨other, front, behind, ?_⟩) unmarked
      rw [inside, List.append_assoc]
    · -- The mark begins behind the colon, and among digits it cannot begin.
      have rest : Nat.toDigits 10 n ++ (severity.dividingMark ++ after) =
          skipped ++ (other.dividingMark ++ back) := by
        have whole := parted
        simp only [line, same, List.append_assoc, List.cons_append] at whole
        exact (List.cons.inj (List.append_cancel_left whole)).2
      rw [same]
      simp only [List.length_append, List.length_cons]
      suffices (Nat.toDigits 10 n).length ≤ skipped.length by omega
      by_contra short
      have among : (Nat.toDigits 10 n)[skipped.length]? = some ':' := by
        have at_mark := congrArg (fun text => text[skipped.length]?) rest
        rw [List.getElem?_append_left (by omega), List.getElem?_append_right (Nat.le_refl _),
          Nat.sub_self] at at_mark
        exact at_mark
      have decimal := plain.decimal ':' (List.mem_of_getElem? among)
      cases decimal

/-- A line number is read from its decimal form behind the last colon. -/
theorem numberedBy_toDigits (file : List Char) (n : UInt32) :
    NumberedBy (file ++ ':' :: Nat.toDigits 10 n.toNat) file (Nat.toDigits 10 n.toNat) n where
  parted := rfl
  last among := by
    have decimal := (Text.isPlainNumeral_toDigits n.toNat).decimal ':' among
    cases decimal
  reads := by
    rw [Text.trimChars_eq]
    · exact Text.parseUInt32_toDigits n
    · intro c among
      exact Text.isBlank_of_isDigit ((Text.isPlainNumeral_toDigits n.toNat).decimal c among)

/-- The printed form of a diagnostic at a line of a file is read as that diagnostic. -/
theorem text_numbered_reads {file : String} (unmarked : ¬ Marked file.toList) (severity : Severity)
    (n : UInt32) (message : String) :
    let diagnostic : Diagnostic := ⟨severity, some file, some n, message⟩
    Reads diagnostic.text.toList diagnostic := by
  intro diagnostic
  obtain ⟨unled, divided⟩ := divided_toDigits unmarked n.toNat severity message.toList
  rw [← text_numbered] at unled divided
  have reads := Reads.numbered unled divided (numberedBy_toDigits file.toList n)
  rw [String.ofList_toList, String.ofList_toList] at reads
  exact reads

theorem text_plain_reads (severity : Severity) (message : String) :
    Reads (plain severity message).text.toList (plain severity message) := by
  have reads := Reads.leading (text_plain severity message)
  rw [String.ofList_toList] at reads
  exact reads

theorem text_endsInText {diagnostic : Diagnostic} (ends : EndsInText diagnostic.message.toList) :
    EndsInText diagnostic.text.toList := by
  rw [text, String.toList_append]
  exact ends.append _

/-- A diagnostic whose message ends in text is read back from its printed form: without a location,
and at any line of a file in whose name no severity is recognised. -/
theorem parse_text (severity : Severity) {message : String} (ends : EndsInText message.toList) :
    parse (plain severity message).text = plain severity message ∧
    ∀ (file : String) (n : UInt32), ¬ Marked file.toList →
      parse ((plain severity message).locatedAt file n).text =
        (plain severity message).locatedAt file n := by
  constructor
  · exact (text_plain_reads severity message).parse_eq (text_endsInText ends)
  · intro file n unmarked
    exact (text_numbered_reads unmarked severity n message).parse_eq (text_endsInText ends)

/-- A file name and a message that look like severities and line numbers themselves. -/
theorem parse_text_lookalike :
    EndsInText "see error: below:7: note: b".toList ∧ ¬ Marked "error:12: note:".toList ∧
    parse "error:12: note::10: warning: see error: below:7: note: b" =
      ⟨.warning, some "error:12: note:", some 10, "see error: below:7: note: b"⟩ := by
  have ends : EndsInText "see error: below:7: note: b".toList :=
    ⟨"see error: below:7: note: ".toList, 'b', by decide, by decide⟩
  have unmarked : ¬ Marked "error:12: note:".toList := by decide
  exact ⟨ends, unmarked, (parse_text .warning ends).2 "error:12: note:" 10 unmarked⟩

/-! ### Reading what was printed -/

/-- The line number that is recognised in a line is written as a plain numeral. -/
def PlainlyNumbered (line : List Char) : Prop :=
  ∀ (severity : Severity) (before after file written : List Char) (n : UInt32), ¬ Led line →
    DividedAt line severity before after → NumberedBy before file written n →
    IsPlainNumeral written

theorem NumberedBy.isPlainNumeral_iff {location : List Char}
    (number : NumberedBy location file written n) :
    IsPlainNumeral written ↔ written = Nat.toDigits 10 n.toNat := by
  constructor
  · intro plain
    have reads := number.reads
    rw [Text.trimChars_eq fun c among => Text.isBlank_of_isDigit (plain.decimal c among)] at reads
    exact (Text.isPlainNumeral_iff reads).mp plain
  · rintro rfl
    exact Text.isPlainNumeral_toDigits n.toNat

/-- What a line is read as has a message that ends as the line does. -/
theorem Reads.message_ends {diagnostic : Diagnostic} (reads : Reads line diagnostic)
    (ends : EndsInText line) : EndsInText diagnostic.message.toList := by
  have behind_mark (front after : List Char) (severity : Severity)
      (parted : line = front ++ (severity.leadingMark ++ after)) : EndsInText after := by
    have blank : Text.isBlank ' ' = true := by decide
    have spaced : line = (front ++ (severity.label.toList ++ [':'])) ++ ' ' :: after := by
      simp [parted, Severity.leadingMark]
    rw [spaced] at ends
    exact ends.behind_blank blank
  have behind_division {severity : Severity} {before after : List Char}
      (divided : DividedAt line severity before after) : EndsInText after :=
    behind_mark (before ++ [':', ' ']) after severity
      (by simp [divided.parted, Severity.dividingMark])
  cases reads with
  | leading starts => simpa [plain] using behind_mark [] _ _ starts
  | numbered _ divided => simpa using behind_division divided
  | unnumbered _ divided => simpa using behind_division divided
  | unmarked => simpa [plain] using ends

/-- The printed form of what a line is read as is read as the same. -/
theorem Reads.text_reads {diagnostic : Diagnostic} (reads : Reads line diagnostic) :
    Reads diagnostic.text.toList diagnostic := by
  cases reads with
  | leading => exact text_plain_reads _ _
  | @numbered severity before after file written n unled divided number =>
    apply text_numbered_reads
    rw [String.toList_ofList]
    exact divided.unmarked unled number.parted
  | @unnumbered severity before after unled divided unnumbered =>
    have same : (Diagnostic.mk severity (some (String.ofList before)) none
        (String.ofList after)).text.toList = line := by
      rw [text_unnumbered, String.toList_ofList, String.toList_ofList, divided.parted]
    rw [same]
    exact .unnumbered unled divided unnumbered
  | unmarked => exact text_plain_reads _ _

/-- What a line is read as prints as the line just if a severity is recognised in the line and the
line number, if there is one, is written as it is printed. -/
theorem Reads.text_eq_iff {diagnostic : Diagnostic} (reads : Reads line diagnostic) :
    diagnostic.text.toList = line ↔ Marked line ∧ PlainlyNumbered line := by
  cases reads with
  | @leading severity message starts =>
    have led : Led line := ⟨severity, message, starts.symm⟩
    refine iff_of_true ?_ ⟨.inl led, fun _ _ _ _ _ _ unled => absurd led unled⟩
    rw [text_plain, String.toList_ofList, starts]
  | @numbered severity before after file written n unled divided number =>
    have numbered : PlainlyNumbered line ↔ IsPlainNumeral written := by
      constructor
      · intro plainly
        exact plainly _ _ _ _ _ _ unled divided number
      · intro plain _ _ _ _ _ _ _ divided' number'
        obtain ⟨rfl, rfl, rfl⟩ := divided'.unique divided
        obtain ⟨rfl, rfl, rfl⟩ := number'.unique number
        exact plain
    have printed : (Diagnostic.mk severity (some (String.ofList file)) (some n)
        (String.ofList after)).text.toList = line ↔ Nat.toDigits 10 n.toNat = written := by
      rw [text_numbered, divided.parted, number.parted, String.toList_ofList, String.toList_ofList]
      simp
    rw [printed, numbered, number.isPlainNumeral_iff]
    exact ⟨fun same => ⟨divided.marked, same.symm⟩, fun both => both.2.symm⟩
  | @unnumbered severity before after unled divided unnumbered =>
    refine iff_of_true ?_ ⟨divided.marked, ?_⟩
    · rw [text_unnumbered, String.toList_ofList, String.toList_ofList, divided.parted]
    · intro _ _ _ _ _ _ _ divided' number
      obtain ⟨rfl, rfl, rfl⟩ := divided'.unique divided
      exact absurd number (unnumbered _ _ _)
  | unmarked unmarked =>
    refine iff_of_false ?_ fun both => unmarked both.1
    intro same
    have lengths := congrArg List.length same
    rw [text_plain, String.toList_ofList, List.length_append, Severity.leadingMark,
      List.length_append, List.length_cons] at lengths
    omega

/-- Whatever is read off a text that is not all white space is read back from its printed form.  The
printed form is the text itself, less the white space it ends in, just if a severity is recognised
in the text and the line number, if one is recognised, is written as a plain numeral. -/
theorem parse_stable {text : String} (solid : Text.isAllBlank text = false) :
    parse (parse text).text = parse text ∧
    ((parse text).text = Text.trimEnd text ↔
      Marked (Text.trimEndChars text.toList) ∧ PlainlyNumbered (Text.trimEndChars text.toList)) := by
  have shown : ∃ c ∈ text.toList, Text.isBlank c = false := by
    simpa [Text.isAllBlank] using solid
  have reads : Reads (Text.trimEndChars text.toList) (parse text) := parseChars_reads _
  have ends := reads.message_ends (Text.trimEndChars_endsInText shown)
  refine ⟨reads.text_reads.parse_eq (text_endsInText ends), ?_⟩
  rw [← reads.text_eq_iff, Text.trimEnd, ← String.toList_inj, String.toList_ofList]

/-- A padded line number is printed without its padding, and then read as the same. -/
theorem parse_stable_padded :
    Text.isAllBlank "a:b: 007 : error: x: note: y \n" = false ∧
    parse "a:b: 007 : error: x: note: y \n" = ⟨.error, some "a:b", some 7, "x: note: y"⟩ ∧
    parse "a:b:7: error: x: note: y" = ⟨.error, some "a:b", some 7, "x: note: y"⟩ := by
  have solid : Text.isAllBlank "a:b: 007 : error: x: note: y \n" = false := by decide
  have read : parse "a:b: 007 : error: x: note: y \n" =
      ⟨.error, some "a:b", some 7, "x: note: y"⟩ := by decide +kernel
  have again := (parse_stable solid).1
  rw [read] at again
  exact ⟨solid, read, again⟩

end Diagnostic

end NativeBridge
