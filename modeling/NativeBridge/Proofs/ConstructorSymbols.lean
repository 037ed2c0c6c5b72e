/-
Module: NativeBridge.Proofs.ConstructorSymbols
Purpose: How far the parameter types of constructors tell their symbols apart.
Main exports: Naming.lowerNames, Naming.Separated, Naming.Separated.eq_of_flatten_eq,
  Naming.constructors_told_apart
-/
import NativeBridge.Proofs.SymbolPlans
import NativeBridge.Workbench.Classes

namespace NativeBridge.Naming

variable {κ : Type} [HostProgram κ]

/-!
The names of parameter types are joined with nothing in between.  So two lists of them can read
alike, as `string` with an enumeration `Buffer` behind it and a string buffer alone do.  Among the
built-in types this cannot happen: only `string` begins another name, `stringbuffer`, and no built-in
name begins as the rest of that does.  It takes the name of an enumeration or of a class.
-/

/-! ### Names that are joined -/

/-- One of two names begins with the other. -/
def Meets (one other : List Char) : Prop :=
  one <+: other ∨ other <+: one

instance (one other : List Char) : Decidable (Meets one other) :=
  inferInstanceAs (Decidable (_ ∨ _))

theorem Meets.symm {one other : List Char} (meets : Meets one other) : Meets other one :=
  Or.symm meets

theorem meets_of_append_eq {one other rest others : List Char}
    (same : one ++ rest = other ++ others) : Meets one other :=
  List.prefix_or_prefix_of_prefix (List.prefix_append one rest) ⟨others, same.symm⟩

/-- The name that another built-in one begins with. -/
def stem : List Char := "string".toList

/-- How the longer of these two names goes on. -/
def ending : List Char := "buffer".toList

/-- Names that can be told apart from the left, as the built-in ones can: two of them begin alike only
if they are the same or the two that may, and none begins as these go on. -/
structure Separated (names : List (List Char)) : Prop where
  apart : ∀ one ∈ names, ∀ other ∈ names, Meets one other → one = other ∨
    (one = stem ∧ other = stem ++ ending) ∨ (other = stem ∧ one = stem ++ ending)
  ending : ∀ name ∈ names, ¬ Meets name ending

namespace Separated

variable {known names others : List (List Char)}

theorem nonempty (separated : Separated known) {name : List Char} (among : name ∈ known) :
    name ≠ [] := by
  rintro rfl
  exact separated.ending [] among (.inl List.nil_prefix)

/-- No names go on as the longer of the two does behind the shorter. -/
theorem flatten_ne_ending (separated : Separated known) (among : ∀ name ∈ names, name ∈ known)
    (rest : List Char) : names.flatten ≠ Naming.ending ++ rest := by
  intro same
  cases names with
  | nil => cases same
  | cons name names =>
    exact separated.ending name (among name List.mem_cons_self) (meets_of_append_eq same)

/-- Joined names are read back. -/
theorem eq_of_flatten_eq (separated : Separated known) (among : ∀ name ∈ names, name ∈ known)
    (amongOthers : ∀ name ∈ others, name ∈ known) (same : names.flatten = others.flatten) :
    names = others := by
  induction names generalizing others with
  | nil =>
    cases others with
    | nil => rfl
    | cons other others =>
      have missing := (List.append_eq_nil_iff.mp same.symm).1
      exact absurd missing (separated.nonempty (amongOthers other List.mem_cons_self))
  | cons name names ih =>
    obtain ⟨here, later⟩ := List.forall_mem_cons.mp among
    cases others with
    | nil => exact absurd (List.append_eq_nil_iff.mp same).1 (separated.nonempty here)
    | cons other others =>
      obtain ⟨there, further⟩ := List.forall_mem_cons.mp amongOthers
      rw [List.flatten_cons, List.flatten_cons] at same
      obtain rfl | ⟨rfl, rfl⟩ | ⟨rfl, rfl⟩ :=
        separated.apart name here other there (meets_of_append_eq same)
      · rw [ih later further (List.append_cancel_left same)]
      · rw [List.append_assoc] at same
        exact absurd (List.append_cancel_left same) (separated.flatten_ne_ending later _)
      · rw [List.append_assoc] at same
        exact absurd (List.append_cancel_left same).symm (separated.flatten_ne_ending further _)

end Separated

/-! ### Names of types -/

/-- The name of a type in a symbol. -/
def lowerName (type : HostType κ) : String :=
  Text.toLower type.name

/-- The names of parameter types in a symbol. -/
def lowerNames (parameters : List (HostType κ)) : List String :=
  parameters.map lowerName

/-- The host program names the type: it is an enumeration or a class. -/
def IsNamed : HostType κ → Prop
  | .enumeration _ _ | .object _ => True
  | _ => False

/-- The names of the types that the host program does not name. -/
def builtinNames : List String :=
  ["void", "pointer", "char", "f32", "f64", "string", "stringbuffer"] ++
    IntegerType.all.map IntegerType.name

theorem builtinNames_lower : ∀ name ∈ builtinNames, Text.toLower name = name := by
  decide

theorem lowerName_builtin {type : HostType κ} (builtin : ¬ IsNamed type) :
    lowerName type ∈ builtinNames := by
  have named : type.name ∈ builtinNames := by
    cases type with
    | enumeration name repr => exact absurd trivial builtin
    | object type => exact absurd trivial builtin
    | integer type =>
      have listed : type ∈ IntegerType.all := by cases type <;> decide
      exact List.mem_append_right _ (List.mem_map_of_mem listed)
    | _ => simp [HostType.name, builtinNames]
  rw [lowerName, builtinNames_lower _ named]
  exact named

/-- The built-in names can be told apart. -/
theorem separated_builtin : Separated (builtinNames.map String.toList) := by
  constructor <;> decide

/-- A type that can make a list of types read like another: it is named by the host program, and its
name begins with that of another of the types or as `buffer` does, or the other way round. -/
structure Confusable (types : List (HostType κ)) (type : HostType κ) : Prop where
  named : IsNamed type
  meets : Meets (lowerName type).toList ending ∨ ∃ other ∈ types,
    lowerName other ≠ lowerName type ∧ Meets (lowerName type).toList (lowerName other).toList

/-- Without such a type all names can be told apart. -/
theorem separated_of_clear {types : List (HostType κ)}
    (clear : ∀ type ∈ types, ¬ Confusable types type) :
    Separated (types.map fun type => (lowerName type).toList) := by
  have builtin {type : HostType κ} (unnamed : ¬ IsNamed type) :
      (lowerName type).toList ∈ builtinNames.map String.toList :=
    List.mem_map_of_mem (lowerName_builtin unnamed)
  have same_of_named {one other : HostType κ} (among : one ∈ types) (there : other ∈ types)
      (named : IsNamed one) (meets : Meets (lowerName one).toList (lowerName other).toList) :
      lowerName one = lowerName other := by
    by_contra different
    exact clear one among ⟨named, .inr ⟨other, there, Ne.symm different, meets⟩⟩
  constructor
  · simp only [List.forall_mem_map]
    intro one among other there meets
    by_cases named : IsNamed one
    · exact .inl (congrArg String.toList (same_of_named among there named meets))
    · by_cases otherNamed : IsNamed other
      · exact .inl (congrArg String.toList (same_of_named there among otherNamed meets.symm)).symm
      · exact separated_builtin.apart _ (builtin named) _ (builtin otherNamed) meets
  · simp only [List.forall_mem_map]
    intro type among meets
    by_cases named : IsNamed type
    · exact clear type among ⟨named, .inl meets⟩
    · exact separated_builtin.ending _ (builtin named) meets

/-- Lists of types that read alike have the same names, or one of the types is to blame. -/
theorem lowerNames_eq_of_joined_eq {one other : List (HostType κ)}
    (clear : ∀ type ∈ one ++ other, ¬ Confusable (one ++ other) type)
    (same : String.join (lowerNames one) = String.join (lowerNames other)) :
    lowerNames one = lowerNames other := by
  have spelled (types : List (HostType κ)) : (String.join (lowerNames types)).toList =
      (types.map fun type => (lowerName type).toList).flatten := by
    rw [String.toList_join, lowerNames, List.flatMap_map, List.flatMap]
  have characters := congrArg String.toList same
  rw [spelled, spelled] at characters
  have equal := (separated_of_clear clear).eq_of_flatten_eq
    (fun name among => by
      obtain ⟨type, found, rfl⟩ := List.mem_map.mp among
      exact List.mem_map.mpr ⟨type, List.mem_append_left _ found, rfl⟩)
    (fun name among => by
      obtain ⟨type, found, rfl⟩ := List.mem_map.mp among
      exact List.mem_map.mpr ⟨type, List.mem_append_right _ found, rfl⟩) characters
  have split (types : List (HostType κ)) :
      (types.map fun type => (lowerName type).toList) = (lowerNames types).map String.toList := by
    rw [lowerNames, List.map_map]
    rfl
  rw [split, split] at equal
  exact List.map_injective_iff.mpr (fun _ _ => String.toList_inj.mp) equal

/-- Parameter lists read alike in a symbol if both are empty or neither, and their joined names are
the same. -/
theorem encodeArguments_eq_iff {one other : List (HostType κ)} :
    encodeArguments one = encodeArguments other ↔
      (one = [] ↔ other = []) ∧
        String.join (lowerNames one) = String.join (lowerNames other) := by
  have spelled {types : List (HostType κ)} (some : types ≠ []) :
      encodeArguments types = "_" ++ String.join (lowerNames types) :=
    if_neg (mt List.isEmpty_iff.mp some)
  have unlike (text : String) : "" ≠ "_" ++ text := by
    intro same
    have characters := congrArg String.toList same
    rw [String.toList_append] at characters
    cases characters
  by_cases none : one = []
  · subst none
    by_cases none : other = []
    · subst none
      simp
    · rw [spelled none]
      exact ⟨fun same => absurd same (unlike _), fun same => absurd (same.1.mp rfl) none⟩
  · by_cases otherNone : other = []
    · subst otherNone
      rw [spelled none]
      exact ⟨fun same => absurd same.symm (unlike _), fun same => absurd (same.1.mpr rfl) none⟩
    · rw [spelled none, spelled otherNone, String.append_right_inj]
      simp [none, otherNone]

/-! ### Symbols of constructors -/

/-- A constructor that has no symbol of its own. -/
structure IsPlainConstructor (member : Member κ) : Prop where
  kind : member.kind = .constructor
  unnamed : member.symbol = none

namespace IsPlainConstructor

variable {one other : Member κ}

theorem symbolFor (plain : IsPlainConstructor one) :
    NamingRules.builtin.symbolFor one =
      applyFormat one.owner.name "L" ++ "_new" ++ encodeArguments one.parameters := by
  have unformatted (text : String) : applyFormat text "" = text :=
    String.ofList_toList
  rw [NamingRules.symbolFor, plain.unnamed, plain.kind]
  show applyFormat one.owner.name "L" ++ ("_new" ++
    (applyFormat (encodeArguments one.parameters) "" ++ "")) = _
  rw [unformatted, String.append_empty, String.append_assoc]

/-- No constructor is named like the release function. -/
theorem symbolFor_ne_release (plain : IsPlainConstructor one) :
    NamingRules.builtin.symbolFor one ≠ NamingRules.builtin.releaseSymbol := by
  intro same
  have characters := congrArg String.toList same
  rw [plain.symbolFor, String.toList_append, String.toList_append] at characters
  have newness : 'w' ∈ NamingRules.builtin.releaseSymbol.toList := by
    rw [← characters]
    exact List.mem_append_left _ (List.mem_append_right _ (by decide))
  exact absurd newness (by decide)

/-- Constructors never overload each other. -/
theorem not_overloads (plain : IsPlainConstructor one) : ¬ Overloads one other :=
  fun overloads => overloads.unlike plain.kind

theorem symbolFor_eq_iff (plain : IsPlainConstructor one) (otherPlain : IsPlainConstructor other)
    (sameClass : one.owner = other.owner) :
    NamingRules.builtin.symbolFor one = NamingRules.builtin.symbolFor other ↔
      encodeArguments one.parameters = encodeArguments other.parameters := by
  rw [plain.symbolFor, otherPlain.symbolFor, sameClass, String.append_right_inj]

end IsPlainConstructor

/-- Where symbols are different, and none is that of the release function, no symbol is taken. -/
theorem planSymbols_ne_duplicate {description : TypeDescription κ} {rules : NamingRules}
    (distinct : description.shownMembers.Pairwise fun earlier later =>
      rules.symbolFor earlier ≠ rules.symbolFor later)
    (unreserved : ∀ member ∈ description.shownMembers,
      rules.symbolFor member ≠ rules.releaseSymbol) (symbol className : String) :
    planSymbols description rules ≠ .error (.duplicateSymbol symbol className) := by
  intro failed
  cases planSymbols_failed failed with
  | @taken front back member told parted usable identifier taken =>
    rw [parted] at distinct unreserved
    obtain reserved | ⟨earlier, before, same⟩ := taken
    · exact unreserved member (by simp) reserved
    · exact (List.pairwise_append.mp distinct).2.2 earlier before member (by simp) same

/-- Of two constructors with one symbol the second is rejected. -/
theorem planSymbols_duplicate {description : TypeDescription κ} {one other : Member κ}
    (shown : description.shownMembers = [one, other]) (plain : IsPlainConstructor one)
    (identifier : Text.isIdentifier (NamingRules.builtin.symbolFor one) = true)
    (same : NamingRules.builtin.symbolFor one = NamingRules.builtin.symbolFor other) :
    planSymbols description .builtin = .error
      (.duplicateSymbol (NamingRules.builtin.symbolFor other) description.type.name) := by
  have told : Distinguished description.shownMembers := by
    rw [shown]
    exact List.pairwise_pair.mpr plain.not_overloads
  have usable : NamingRules.builtin.Usable ([] ++ [one]) := by
    refine usable_concat.mpr ⟨usable_nil, identifier, ?_⟩
    rintro (reserved | ⟨earlier, among, -⟩)
    · exact plain.symbolFor_ne_release reserved
    · cases among
  apply planSymbols_refused
  exact .taken told shown usable (same ▸ identifier) (.inr ⟨one, List.mem_singleton_self one, same⟩)

/-- Two constructors of a class whose parameter types have different names, under the built-in rules.
They have the same symbol just if both have parameters and the names, with nothing in between, give
the same text.  That takes an enumeration or a class among the types whose name begins with the
different name of another of them or as `buffer` does, or the other way round; so no two lists of
built-in types do it.  And only then are the two in each other's way: a type that shows them, and
whose members have no other symbol in common, with each other or with the release function, has no
plan that fails because a symbol is taken, unless they have the same one. -/
theorem constructors_told_apart {one other : Member κ} (plain : IsPlainConstructor one)
    (otherPlain : IsPlainConstructor other) (sameClass : one.owner = other.owner)
    (different : lowerNames one.parameters ≠ lowerNames other.parameters) :
    let symbolOf : Member κ → String := NamingRules.builtin.symbolFor
    let types := one.parameters ++ other.parameters
    (symbolOf one = symbolOf other ↔ one.parameters ≠ [] ∧ other.parameters ≠ [] ∧
      String.join (lowerNames one.parameters) = String.join (lowerNames other.parameters)) ∧
    (symbolOf one = symbolOf other → ∃ type ∈ types, Confusable types type) ∧
    ∀ description : TypeDescription κ,
      (description.shownMembers.Pairwise fun earlier later =>
        symbolOf earlier = symbolOf later → earlier = one ∧ later = other) →
      (∀ member ∈ description.shownMembers, member ≠ one → member ≠ other →
        symbolOf member ≠ NamingRules.builtin.releaseSymbol) →
      ∀ symbol className : String,
        planSymbols description .builtin = .error (.duplicateSymbol symbol className) →
          symbolOf one = symbolOf other := by
  intro symbolOf types
  have alike : symbolOf one = symbolOf other ↔ (one.parameters = [] ↔ other.parameters = []) ∧
      String.join (lowerNames one.parameters) = String.join (lowerNames other.parameters) :=
    (plain.symbolFor_eq_iff otherPlain sameClass).trans encodeArguments_eq_iff
  refine ⟨alike.trans ⟨?_, ?_⟩, ?_, ?_⟩
  · rintro ⟨together, same⟩
    have some : one.parameters ≠ [] := by
      intro none
      rw [none, together.mp none] at different
      exact different rfl
    exact ⟨some, mt together.mpr some, same⟩
  · rintro ⟨some, otherSome, same⟩
    exact ⟨iff_of_false some otherSome, same⟩
  · intro same
    by_contra clear
    apply different
    apply lowerNames_eq_of_joined_eq _ (alike.mp same).2
    intro type among confusable
    exact clear ⟨type, among, confusable⟩
  · intro description alone unreserved symbol className failed
    by_contra apart
    apply planSymbols_ne_duplicate _ _ symbol className failed
    · refine alone.imp fun {earlier later} pair same => ?_
      obtain ⟨rfl, rfl⟩ := pair same
      exact apart same
    · intro member among
      by_cases first : member = one
      · rw [first]
        exact plain.symbolFor_ne_release
      · by_cases second : member = other
        · rw [second]
          exact otherPlain.symbolFor_ne_release
        · exact unreserved member among first second

end NativeBridge.Naming

namespace NativeBridge.Workbench

open Naming

/-- A class with two constructors. -/
def twoWayType : ObjectType Key := ⟨.widget .testClass, .reference⟩

/-- A constructor of this class that has no use for what it is given. -/
def twoWayFrom (parameters : List (MarshalType Key)) : Member Key :=
  .ofConstructor twoWayType parameters fun _ => pure Widget.default

theorem twoWayFrom_plain (parameters : List (MarshalType Key)) :
    IsPlainConstructor (twoWayFrom parameters) :=
  ⟨rfl, rfl⟩

/-- The class with two such constructors. -/
def twoWay (first second : List (MarshalType Key)) : TypeDescription Key :=
  TypeBuilder.empty twoWayType
    |>.constructor first (fun _ => pure Widget.default)
    |>.constructor second (fun _ => pure Widget.default)
    |>.build

/-- A text and a buffer, though the name of the one begins that of the other. -/
theorem string_stringBuffer_apart :
    NamingRules.builtin.symbolFor (twoWayFrom [.string]) ≠
      NamingRules.builtin.symbolFor (twoWayFrom [.stringBuffer]) ∧
    ∀ symbol className : String, planSymbols (twoWay [.string] [.stringBuffer]) .builtin ≠
      .error (.duplicateSymbol symbol className) := by
  obtain ⟨alike, -, planned⟩ := constructors_told_apart (twoWayFrom_plain [.string])
    (twoWayFrom_plain [.stringBuffer]) rfl (by decide)
  have apart := mt alike.mp (by decide)
  refine ⟨apart, fun symbol className failed => ?_⟩
  have shown : (twoWay [.string] [.stringBuffer]).shownMembers =
      [twoWayFrom [.string], twoWayFrom [.stringBuffer]] := rfl
  apply apart
  apply planned _ _ _ symbol className failed
  · rw [shown, List.pairwise_pair]
    exact fun _ => ⟨rfl, rfl⟩
  · rw [shown]
    simp

/-- An enumeration that is named as the longer of these two names goes on. -/
def bufferMode : EnumSpec := ⟨"Buffer", .i32, [0]⟩

/-- A text with that enumeration behind it and a buffer have different names, and the constructors of
the class that take the one and the other have one symbol. -/
theorem string_bufferMode_confused :
    let one := twoWayFrom [.string, .enumeration bufferMode]
    let other := twoWayFrom [.stringBuffer]
    let description := twoWay [.string, .enumeration bufferMode] [.stringBuffer]
    description.shownMembers = [one, other] ∧
    IsPlainConstructor one ∧ IsPlainConstructor other ∧ one.owner = other.owner ∧
    lowerNames one.parameters ≠ lowerNames other.parameters ∧
    NamingRules.builtin.symbolFor one = NamingRules.builtin.symbolFor other ∧
    planSymbols description .builtin =
      .error (.duplicateSymbol "testclass_new_stringbuffer" "TestClass") := by
  intro one other description
  have named : NamingRules.builtin.symbolFor one = "testclass_new_stringbuffer" ∧
      NamingRules.builtin.symbolFor other = "testclass_new_stringbuffer" := by
    decide +kernel
  have identifier : Text.isIdentifier "testclass_new_stringbuffer" = true := by decide +kernel
  have shown : description.shownMembers = [one, other] := rfl
  have same := named.1.trans named.2.symm
  refine ⟨shown, twoWayFrom_plain _, twoWayFrom_plain _, rfl, by decide, same, ?_⟩
  rw [planSymbols_duplicate shown (twoWayFrom_plain _) (named.1 ▸ identifier) same, named.2]
  rfl

end NativeBridge.Workbench
