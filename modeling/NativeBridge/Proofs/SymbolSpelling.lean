/-
Module: NativeBridge.Proofs.SymbolSpelling
Purpose: Symbols made from identifiers are identifiers, whatever changes of letter case a template
  asks for.
Main exports: Text.IsIdentifierTail, Text.KeepsSpelling, Naming.FormatStep.keepsSpelling,
  Naming.Template.SpellsNames, Naming.IsSpelled, Naming.symbols_spelled
-/
import NativeBridge.Proofs.ConstructorSymbols
import NativeBridge.Proofs.TemplateGrammar

namespace NativeBridge

/-!
An identifier is made of ASCII characters.  Among those a change of letter case makes one letter of
one letter, and an underscore that is put between two characters is never the first one.  So no
format specifier can spoil an identifier.  But the mutator and the arguments of a member can be empty,
and a literal behind them may start with a digit.  So what a template starts with decides: it must be
the class, or a literal that starts as identifiers do.
-/

/-! ### Identifiers -/

namespace Text

/-- A text that an identifier can go on with. -/
def IsIdentifierTail (s : List Char) : Prop :=
  ∀ c ∈ s, isIdentifierPart c = true

instance (s : List Char) : Decidable (IsIdentifierTail s) :=
  decidable_of_iff (s.all isIdentifierPart = true) List.all_eq_true

variable {first c : Char} {s rest : List Char}

theorem isIdentifierPart_of_start (start : isIdentifierStart c = true) :
    isIdentifierPart c = true := by
  simp only [isIdentifierStart, isIdentifierPart, Char.isAlphanum, Bool.or_eq_true] at start ⊢
  exact start.imp_right .inl

theorem isIdentifierSpelling_cons :
    isIdentifierSpelling (first :: rest) = true ↔
      isIdentifierStart first = true ∧ IsIdentifierTail rest := by
  rw [isIdentifierSpelling, Bool.and_eq_true, List.all_eq_true, IsIdentifierTail]

theorem isIdentifierTail_cons :
    IsIdentifierTail (c :: rest) ↔ isIdentifierPart c = true ∧ IsIdentifierTail rest :=
  List.forall_mem_cons

theorem isIdentifierTail_append :
    IsIdentifierTail (s ++ rest) ↔ IsIdentifierTail s ∧ IsIdentifierTail rest :=
  List.forall_mem_append

theorem isIdentifierTail_of_spelling (spelled : isIdentifierSpelling s = true) :
    IsIdentifierTail s := by
  cases s with
  | nil => cases spelled
  | cons first rest =>
    obtain ⟨start, tail⟩ := isIdentifierSpelling_cons.mp spelled
    exact isIdentifierTail_cons.mpr ⟨isIdentifierPart_of_start start, tail⟩

theorem isIdentifierSpelling_append (spelled : isIdentifierSpelling s = true)
    (tail : IsIdentifierTail rest) : isIdentifierSpelling (s ++ rest) = true := by
  cases s with
  | nil => cases spelled
  | cons first more =>
    obtain ⟨start, going⟩ := isIdentifierSpelling_cons.mp spelled
    exact isIdentifierSpelling_cons.mpr ⟨start, isIdentifierTail_append.mpr ⟨going, tail⟩⟩

/-! ### Changes of letter case -/

theorem toNat_lt_of_part (part : isIdentifierPart c = true) : c.toNat < 0x80 := by
  rw [isIdentifierPart, Bool.or_eq_true, beq_iff_eq, Char.isAlphanum, Bool.or_eq_true] at part
  rcases part with rfl | letter | digit
  · decide
  · obtain upper | lower := Bool.or_eq_true_iff.mp letter
    · have last : c.val ≤ 'Z'.val := (of_decide_eq_true upper).2
      exact Nat.lt_of_le_of_lt last (by decide)
    · have last : c.val ≤ 'z'.val := of_decide_eq_true (Bool.and_eq_true_iff.mp lower).2
      exact Nat.lt_of_le_of_lt last (by decide)
  · have last : c.val ≤ '9'.val := of_decide_eq_true (Bool.and_eq_true_iff.mp digit).2
    exact Nat.lt_of_le_of_lt last (by decide)

theorem exists_ascii (ascii : c.toNat < 0x80) : ∃ n : Fin 0x80, c = Char.ofNat n :=
  ⟨⟨c.toNat, ascii⟩, (Char.ofNat_toNat c).symm⟩

/-- A change of characters that makes nothing else of the characters of identifiers. -/
structure KeepsLetters (change : Char → Char) : Prop where
  part : ∀ c, isIdentifierPart c = true → isIdentifierPart (change c) = true
  start : ∀ c, isIdentifierStart c = true → isIdentifierStart (change c) = true

/-- There are so few characters in identifiers that they can be looked at one by one. -/
theorem keepsLetters_of_ascii {change : Char → Char}
    (listed : ∀ n : Fin 0x80,
      (isIdentifierPart (Char.ofNat n) = true →
        isIdentifierPart (change (Char.ofNat n)) = true) ∧
      (isIdentifierStart (Char.ofNat n) = true →
        isIdentifierStart (change (Char.ofNat n)) = true)) : KeepsLetters change where
  part c part := by
    obtain ⟨n, rfl⟩ := exists_ascii (toNat_lt_of_part part)
    exact (listed n).1 part
  start c start := by
    obtain ⟨n, rfl⟩ := exists_ascii (toNat_lt_of_part (isIdentifierPart_of_start start))
    exact (listed n).2 start

theorem toUpper_keepsLetters : KeepsLetters Char.toUpper :=
  keepsLetters_of_ascii (by decide)

theorem toLower_keepsLetters : KeepsLetters Char.toLower :=
  keepsLetters_of_ascii (by decide)

theorem upperChar_eq (part : isIdentifierPart c = true) : upperChar c = [c.toUpper] :=
  if_pos (toNat_lt_of_part part)

theorem lowerChar_eq (part : isIdentifierPart c = true) : lowerChar c = [c.toLower] :=
  if_pos (toNat_lt_of_part part)

theorem upperChars_eq_map (tail : IsIdentifierTail s) : upperChars s = s.map Char.toUpper := by
  induction s with
  | nil => rfl
  | cons c s ih =>
    obtain ⟨part, tail⟩ := isIdentifierTail_cons.mp tail
    rw [upperChars, List.flatMap_cons, upperChar_eq part, ← upperChars, ih tail]
    rfl

theorem lowerFrom_eq_map (tail : IsIdentifierTail s) (before : List Char) :
    lowerFrom before s = s.map Char.toLower := by
  induction s generalizing before with
  | nil => rfl
  | cons c s ih =>
    obtain ⟨part, tail⟩ := isIdentifierTail_cons.mp tail
    have plain : c ≠ 'Σ' := by
      rintro rfl
      cases part
    rw [lowerFrom, lowerChar_eq part, ih tail]
    · rfl
    · exact plain

/-- A change of texts that keeps identifiers identifiers, and what identifiers can go on with. -/
structure KeepsSpelling (change : List Char → List Char) : Prop where
  tail : ∀ s, IsIdentifierTail s → IsIdentifierTail (change s)
  start : ∀ s, isIdentifierSpelling s = true → isIdentifierSpelling (change s) = true

namespace KeepsSpelling

variable {change other : List Char → List Char} {recase : Char → Char}

theorem id : KeepsSpelling fun s => s :=
  ⟨fun _ tail => tail, fun _ spelled => spelled⟩

theorem comp (first : KeepsSpelling change) (second : KeepsSpelling other) :
    KeepsSpelling fun s => other (change s) where
  tail s tail := second.tail _ (first.tail s tail)
  start s spelled := second.start _ (first.start s spelled)

/-- Only what a change does to the texts in question counts. -/
theorem congr (keeps : KeepsSpelling other)
    (same : ∀ s, IsIdentifierTail s → change s = other s) : KeepsSpelling change where
  tail s tail := same s tail ▸ keeps.tail s tail
  start s spelled := same s (isIdentifierTail_of_spelling spelled) ▸ keeps.start s spelled

/-- A change that makes one character of the first one and keeps what identifiers go on with. -/
theorem of_first {rest : List Char → List Char} (keeps : KeepsLetters recase)
    (tails : ∀ s, IsIdentifierTail s → IsIdentifierTail (rest s)) (none : change [] = [])
    (some : ∀ c s, isIdentifierPart c = true → change (c :: s) = recase c :: rest s) :
    KeepsSpelling change where
  tail s tail := by
    cases s with
    | nil =>
      rw [none]
      exact tail
    | cons c s =>
      obtain ⟨part, tail⟩ := isIdentifierTail_cons.mp tail
      rw [some c s part]
      exact isIdentifierTail_cons.mpr ⟨keeps.part c part, tails s tail⟩
  start s spelled := by
    cases s with
    | nil => cases spelled
    | cons c s =>
      obtain ⟨start, tail⟩ := isIdentifierSpelling_cons.mp spelled
      rw [some c s (isIdentifierPart_of_start start)]
      exact isIdentifierSpelling_cons.mpr ⟨keeps.start c start, tails s tail⟩

theorem map (keeps : KeepsLetters recase) : KeepsSpelling (List.map recase) := by
  apply of_first keeps _ List.map_nil fun c s _ => List.map_cons
  intro s tail
  exact List.forall_mem_map.mpr fun c among => keeps.part c (tail c among)

end KeepsSpelling

theorem upperChars_keepsSpelling : KeepsSpelling upperChars :=
  (KeepsSpelling.map toUpper_keepsLetters).congr fun _ => upperChars_eq_map

theorem lowerChars_keepsSpelling : KeepsSpelling lowerChars :=
  (KeepsSpelling.map toLower_keepsLetters).congr fun _ tail => lowerFrom_eq_map tail []

end Text

/-! ### Format specifiers -/

namespace Naming

open Text

namespace FormatStep

theorem underscoreCapitals_tail {s : List Char} (tail : IsIdentifierTail s) :
    IsIdentifierTail (underscoreCapitals s) := by
  intro c among
  obtain ⟨d, there, among⟩ := List.mem_flatMap.mp among
  split at among
  · rcases List.mem_pair.mp among with rfl | rfl
    · decide
    · exact tail _ there
  · rw [List.mem_singleton.mp among]
    exact tail _ there

theorem keepsSpelling (step : FormatStep) : KeepsSpelling step.apply := by
  cases step with
  | upper => exact upperChars_keepsSpelling
  | lower => exact lowerChars_keepsSpelling
  | upperFirst =>
    apply KeepsSpelling.of_first toUpper_keepsLetters (fun _ tail => tail) rfl
    intro c s part
    rw [apply, mapFirst, upperChar_eq part, List.singleton_append]
  | lowerFirst =>
    apply KeepsSpelling.of_first toLower_keepsLetters (fun _ tail => tail) rfl
    intro c s part
    rw [apply, mapFirst, lowerChar_eq part, List.singleton_append]
  | splitWords =>
    have same : KeepsLetters fun c => c := ⟨fun _ part => part, fun _ start => start⟩
    exact .of_first same (fun _ => underscoreCapitals_tail) rfl fun _ _ _ => rfl
  | keep => exact .id

end FormatStep

/-- No specifier spoils an identifier, whatever characters are in it. -/
theorem formatChars_keepsSpelling (spec : List Char) :
    KeepsSpelling fun value => formatChars value spec := by
  induction spec with
  | nil => exact .id
  | cons c spec ih => exact (FormatStep.ofChar c).keepsSpelling.comp ih

theorem applyFormat_isIdentifier {value : String} (spelled : isIdentifier value = true)
    (spec : String) : isIdentifier (applyFormat value spec) = true := by
  rw [isIdentifier, applyFormat, String.toList_ofList]
  exact (formatChars_keepsSpelling spec.toList).start _ spelled

theorem applyFormat_tail {value : String} (tail : IsIdentifierTail value.toList) (spec : String) :
    IsIdentifierTail (applyFormat value spec).toList := by
  rw [applyFormat, String.toList_ofList]
  exact (formatChars_keepsSpelling spec.toList).tail _ tail

/-! ### Templates -/

/-- A template starts with the class, or with a literal that starts as identifiers do. -/
inductive StartsName : List Part → Prop where
  | owner (spec : String) (rest : List Part) : StartsName (.token .owner spec :: rest)
  | literal {first : Char} (text : List Char) (rest : List Part)
      (start : isIdentifierStart first = true) :
      StartsName (.literal (String.ofList (first :: text)) :: rest)

/-- A template whose literals have only ASCII letters, digits and underscores, and that starts as
names do.  Its tokens and their specifiers can be any. -/
structure Template.SpellsNames (template : Template) : Prop where
  literals : IsIdentifierTail (literalText template.parts)
  starts : StartsName template.parts

section Rendering

variable {context : NameContext} {template : Template} {part : Part} {parts : List Part}

theorem Part.render_tail (values : ∀ which, IsIdentifierTail (context.value which).toList)
    (literals : IsIdentifierTail part.literalChars) :
    IsIdentifierTail (part.render context).toList := by
  cases part with
  | literal text => exact literals
  | token which spec => exact applyFormat_tail (values which) spec

theorem renderParts_tail (values : ∀ which, IsIdentifierTail (context.value which).toList)
    (literals : IsIdentifierTail (literalText parts)) :
    IsIdentifierTail (renderParts context parts).toList := by
  induction parts with
  | nil => exact List.forall_mem_nil _
  | cons part parts ih =>
    rw [literalText_cons, isIdentifierTail_append] at literals
    rw [renderParts_cons, String.toList_append, isIdentifierTail_append]
    exact ⟨Part.render_tail values literals.1, ih literals.2⟩

/-- What a template gives is an identifier if the class is one and all other values can stand in
one. -/
theorem Template.SpellsNames.render_isIdentifier (spells : template.SpellsNames)
    (owner : isIdentifier context.owner = true)
    (values : ∀ which, IsIdentifierTail (context.value which).toList) :
    isIdentifier (template.render context) = true := by
  obtain ⟨source, parts⟩ := template
  obtain ⟨literals, starts⟩ := spells
  cases starts with
  | owner spec rest =>
    rw [literalText_cons, isIdentifierTail_append] at literals
    rw [Template.render, renderParts_cons, isIdentifier, String.toList_append]
    exact isIdentifierSpelling_append (applyFormat_isIdentifier owner spec)
      (renderParts_tail values literals.2)
  | literal text rest start =>
    rw [literalText_cons, isIdentifierTail_append, Part.literalChars, String.toList_ofList,
      isIdentifierTail_cons] at literals
    rw [Template.render, renderParts_cons, isIdentifier, String.toList_append, Part.render,
      String.toList_ofList]
    exact isIdentifierSpelling_append (isIdentifierSpelling_cons.mpr ⟨start, literals.1.2⟩)
      (renderParts_tail values literals.2)

end Rendering

/-! ### Symbols -/

variable {κ : Type} [HostProgram κ] {member : Member κ} {rules : NamingRules}

/-- A member without a symbol of its own that has only identifiers as names: its own, that of its
class and those of the enumerations and classes among its parameter types. -/
structure IsSpelled (member : Member κ) : Prop where
  unnamed : member.symbol = none
  owner : isIdentifier member.owner.name = true
  name : isIdentifier member.name = true
  parameters : ∀ type ∈ member.parameters, IsNamed type → isIdentifier type.name = true

theorem builtinNames_tail : ∀ name ∈ builtinNames, IsIdentifierTail name.toList := by
  decide

theorem lowerName_tail {type : HostType κ}
    (spelled : IsNamed type → isIdentifier type.name = true) :
    IsIdentifierTail (lowerName type).toList := by
  by_cases named : IsNamed type
  · rw [lowerName, toLower, String.toList_ofList]
    exact lowerChars_keepsSpelling.tail _ (isIdentifierTail_of_spelling (spelled named))
  · exact builtinNames_tail _ (lowerName_builtin named)

theorem encodeArguments_tail {parameters : List (HostType κ)}
    (spelled : ∀ type ∈ parameters, IsNamed type → isIdentifier type.name = true) :
    IsIdentifierTail (encodeArguments parameters).toList := by
  rw [encodeArguments]
  split
  · exact List.forall_mem_nil _
  · rw [String.toList_append, isIdentifierTail_append, String.toList_join]
    refine ⟨by decide, ?_⟩
    intro c among
    obtain ⟨text, listed, among⟩ := List.mem_flatMap.mp among
    obtain ⟨type, there, rfl⟩ := List.mem_map.mp listed
    exact lowerName_tail (spelled type there) c among

theorem mutatorWord_tail (kind : MemberKind) :
    IsIdentifierTail ((kind.mutator?.map Mutator.word).getD "").toList := by
  cases kind <;> decide

/-- The values of a member whose names are identifiers can all stand in one. -/
theorem IsSpelled.value_tail (spelled : IsSpelled member) (which : Token) :
    IsIdentifierTail ((NamingRules.contextOf member).value which).toList := by
  cases which with
  | owner => exact isIdentifierTail_of_spelling spelled.owner
  | method | property | field => exact isIdentifierTail_of_spelling spelled.name
  | mutator => exact mutatorWord_tail member.kind
  | arguments => exact encodeArguments_tail spelled.parameters

theorem IsSpelled.symbolFor_isIdentifier (spelled : IsSpelled member)
    (spells : (rules.templateFor member.kind).SpellsNames) :
    isIdentifier (rules.symbolFor member) = true := by
  rw [NamingRules.symbolFor, spelled.unnamed]
  exact spells.render_isIdentifier spelled.owner spelled.value_tail

theorem builtin_spellsNames (kind : MemberKind) :
    (NamingRules.builtin.templateFor kind).SpellsNames := by
  constructor
  · cases kind <;> decide
  · cases kind <;> exact .owner "L" _

/-- No plan refuses an identifier as none. -/
theorem planSymbols_ne_invalid {symbol : String} (spelled : isIdentifier symbol = true)
    (description : TypeDescription κ) :
    planSymbols description rules ≠ .error (.invalidSymbol symbol) := by
  intro failed
  cases planSymbols_failed failed with
  | invalid told parted usable spelling =>
    rw [spelled] at spelling
    cases spelling

/-- A template whose literals have only characters of identifiers, and that starts with the class or
with a literal that starts as identifiers do, gives an identifier for every member without a symbol
of its own that has only identifiers as names, whatever specifiers its tokens carry.  So no plan
fails on the spelling of such a member's symbol.  The built-in templates are of this kind. -/
theorem symbols_spelled :
    (∀ (rules : NamingRules) (member : Member κ), (rules.templateFor member.kind).SpellsNames →
      IsSpelled member →
      isIdentifier (rules.symbolFor member) = true ∧
        ∀ description : TypeDescription κ,
          planSymbols description rules ≠ .error (.invalidSymbol (rules.symbolFor member))) ∧
    ∀ kind, (NamingRules.builtin.templateFor kind).SpellsNames := by
  refine ⟨fun rules member spells spelled => ?_, builtin_spellsNames⟩
  have identifier := spelled.symbolFor_isIdentifier spells
  exact ⟨identifier, planSymbols_ne_invalid identifier⟩

end Naming

namespace Workbench

open Naming

/-- Rules whose constructor template puts a digit second, then a value that is empty, and then the
class in capitals, with a specifier that means nothing. -/
def digitRules : NamingRules :=
  { NamingRules.builtin with constructor :=
    ⟨"_9\x7bmutator:u\x7d\x7bclass:sUé\x7d\x7bargs:l\x7d", [.literal "_9", .token .mutator "u",
      .token .owner "sUé", .token .arguments "l"]⟩ }

theorem digitRules_symbol :
    let member := twoWayFrom [.string, .enumeration bufferMode]
    (digitRules.templateFor member.kind).SpellsNames ∧ IsSpelled member ∧
      digitRules.symbolFor member = "_9TEST_CLASS_stringbuffer" ∧
      Text.isIdentifier (digitRules.symbolFor member) = true ∧
      ∀ description : TypeDescription Key,
        planSymbols description digitRules ≠
          .error (.invalidSymbol (digitRules.symbolFor member)) := by
  intro member
  have spells : (digitRules.templateFor member.kind).SpellsNames :=
    ⟨by decide, .literal ['9'] _ rfl⟩
  have types : ∀ type ∈ member.parameters, Text.isIdentifier type.name = true := by decide
  have spelled : IsSpelled member :=
    ⟨rfl, by decide, by decide, fun type among _ => types type among⟩
  obtain ⟨identifier, planned⟩ := symbols_spelled.1 digitRules member spells spelled
  exact ⟨spells, spelled, by decide +kernel, identifier, planned⟩

end Workbench

end NativeBridge
