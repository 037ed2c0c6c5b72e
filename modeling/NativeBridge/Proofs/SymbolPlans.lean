/-
Module: NativeBridge.Proofs.SymbolPlans
Purpose: Which types have a symbol for every shown member, which symbols these are, and on which
  member a plan fails otherwise.
Main exports: Naming.first_failure, Naming.Overloads, NamingRules.Usable, Naming.PlanRefused,
  Naming.planSymbols_ok, Naming.planSymbols_members, Naming.plan_exact
-/
import NativeBridge.Naming.Plan
import Mathlib.Data.List.Induction
import Mathlib.Data.List.Nodup

namespace NativeBridge.Naming

variable {κ : Type} [HostProgram κ]

/-!
A plan goes over the members twice.  The first time it looks at kinds and names, and passes over
constructors and members with a symbol of their own; the second time it looks at symbols, and passes
over nothing.  Each time it stops at the first member that spoils what was in order up to it, and a
member that spoils the kinds and names counts before any that spoils the symbols.
-/

/-- If something holds of no elements and not of all of them, there is a first one that spoils it. -/
theorem first_failure {α : Type} (good : List α → Prop) (start : good []) (list : List α) :
    good list ∨ ∃ front one back, list = front ++ one :: back ∧ good front ∧
      ¬ good (front ++ [one]) := by
  induction list using List.reverseRecOn with
  | nil => exact .inl start
  | append_singleton before last ih =>
    obtain ⟨fine⟩ | ⟨front, one, back, rfl, fine, spoilt⟩ := ih
    · by_cases still : good (before ++ [last])
      · exact .inl still
      · exact .inr ⟨before, last, [], rfl, fine, still⟩
    · exact .inr ⟨front, one, back ++ [last], by simp, fine, spoilt⟩

/-! ### Kinds and names -/

/-- Members that neither their kinds and names tell apart nor a symbol given by hand.  Constructors
are told apart by their parameters. -/
structure Overloads (one other : Member κ) : Prop where
  kind : other.kind = one.kind
  name : other.name = one.name
  unlike : one.kind ≠ .constructor
  unnamed : one.symbol = none ∧ other.symbol = none

/-- No two members overload each other. -/
def Distinguished (members : List (Member κ)) : Prop :=
  members.Pairwise fun one other => ¬ Overloads one other

/-- What a member is known by when it has no symbol of its own. -/
def keyOf (member : Member κ) : MemberKind × String :=
  (member.kind, member.name)

theorem isNamedByKind_iff {member : Member κ} :
    isNamedByKind member = true ↔ member.kind ≠ .constructor ∧ member.symbol = none := by
  simp [isNamedByKind]

/-- The keys of the members that are known by them, the last one first. -/
def keysSeen (members : List (Member κ)) : List (MemberKind × String) :=
  ((members.filter isNamedByKind).map keyOf).reverse

theorem mem_keysSeen {members : List (Member κ)} {member : Member κ}
    (known : isNamedByKind member = true) :
    keyOf member ∈ keysSeen members ↔ ∃ earlier ∈ members, Overloads earlier member := by
  obtain ⟨unlike, unnamed⟩ := isNamedByKind_iff.mp known
  simp only [keysSeen, List.mem_reverse, List.mem_map, List.mem_filter]
  constructor
  · rintro ⟨earlier, ⟨among, alike⟩, same⟩
    obtain ⟨kind, name⟩ := Prod.mk.inj same
    obtain ⟨other, symbol⟩ := isNamedByKind_iff.mp alike
    exact ⟨earlier, among, ⟨kind.symm, name.symm, other, symbol, unnamed⟩⟩
  · rintro ⟨earlier, among, overloads⟩
    refine ⟨earlier, ⟨among, isNamedByKind_iff.mpr ⟨overloads.unlike, overloads.unnamed.1⟩⟩, ?_⟩
    rw [keyOf, keyOf, overloads.kind, overloads.name]

theorem distinguished_concat {front : List (Member κ)} {member : Member κ} :
    Distinguished (front ++ [member]) ↔
      Distinguished front ∧ ¬ ∃ earlier ∈ front, Overloads earlier member := by
  simp [Distinguished, List.pairwise_append]

/-- Members that are told apart are passed by. -/
theorem overloadedAmong_append {front : List (Member κ)} (told : Distinguished front)
    (rest : List (Member κ)) :
    overloadedMember? (front ++ rest) =
      overloadedAmong (keysSeen front) (rest.filter isNamedByKind) := by
  induction front using List.reverseRecOn generalizing rest with
  | nil => rfl
  | append_singleton before last ih =>
    obtain ⟨told, fresh⟩ := distinguished_concat.mp told
    rw [List.append_assoc, ih told, List.singleton_append]
    by_cases known : isNamedByKind last = true
    · have unseen : (keysSeen before).contains (last.kind, last.name) = false := by
        rw [← mem_keysSeen known] at fresh
        simpa [keyOf] using fresh
      rw [List.filter_cons_of_pos known, overloadedAmong, unseen]
      simp [keysSeen, keyOf, known]
    · rw [List.filter_cons_of_neg known]
      simp [keysSeen, known]

theorem overloadedMember?_none {members : List (Member κ)} (told : Distinguished members) :
    overloadedMember? members = none := by
  have passed := overloadedAmong_append told []
  rw [List.append_nil] at passed
  exact passed

theorem overloadedMember?_some {front back : List (Member κ)} {member : Member κ}
    (told : Distinguished front) (repeats : ∃ earlier ∈ front, Overloads earlier member) :
    overloadedMember? (front ++ member :: back) = some member := by
  obtain ⟨earlier, -, overloads⟩ := id repeats
  have known : isNamedByKind member = true :=
    isNamedByKind_iff.mpr ⟨overloads.kind ▸ overloads.unlike, overloads.unnamed.2⟩
  have seen : (keysSeen front).contains (member.kind, member.name) = true :=
    List.contains_iff_mem.mpr ((mem_keysSeen known).mpr repeats)
  rw [overloadedAmong_append told, List.filter_cons_of_pos known, overloadedAmong, if_pos seen]

/-! ### Symbols -/

/-- The member with its symbol. -/
def NamingRules.planned (rules : NamingRules) (member : Member κ) : PlannedSymbol κ :=
  ⟨rules.symbolFor member, member⟩

/-- The symbols of members can all be given out. -/
structure NamingRules.Usable (rules : NamingRules) (members : List (Member κ)) : Prop where
  identifiers : ∀ member ∈ members, Text.isIdentifier (rules.symbolFor member) = true
  distinct : (members.map rules.symbolFor).Nodup
  unreserved : rules.releaseSymbol ∉ members.map rules.symbolFor

/-- The symbol of a member is given out already. -/
def NamingRules.Taken (rules : NamingRules) (front : List (Member κ)) (member : Member κ) : Prop :=
  rules.symbolFor member = rules.releaseSymbol ∨
    ∃ earlier ∈ front, rules.symbolFor earlier = rules.symbolFor member

/-- The symbols that are given out after some members, the last one first. -/
def NamingRules.takenAfter (rules : NamingRules) (front : List (Member κ)) : List String :=
  (front.map rules.symbolFor).reverse ++ [rules.releaseSymbol]

section Symbols

variable {rules : NamingRules} {front : List (Member κ)} {member : Member κ}

theorem usable_nil : rules.Usable ([] : List (Member κ)) :=
  ⟨List.forall_mem_nil _, List.nodup_nil, List.not_mem_nil⟩

theorem mem_takenAfter :
    rules.symbolFor member ∈ rules.takenAfter front ↔ rules.Taken front member := by
  simp [NamingRules.takenAfter, NamingRules.Taken, or_comm]

theorem usable_concat :
    rules.Usable (front ++ [member]) ↔ rules.Usable front ∧
      Text.isIdentifier (rules.symbolFor member) = true ∧ ¬ rules.Taken front member := by
  have apart : rules.Taken front member ↔ rules.symbolFor member = rules.releaseSymbol ∨
      rules.symbolFor member ∈ front.map rules.symbolFor := by
    rw [NamingRules.Taken, List.mem_map]
  rw [apart]
  constructor
  · rintro ⟨identifiers, distinct, unreserved⟩
    rw [List.forall_mem_append, List.forall_mem_singleton] at identifiers
    rw [List.map_append, List.map_singleton] at distinct unreserved
    rw [← List.concat_eq_append, List.nodup_concat] at distinct
    rw [List.mem_append, List.mem_singleton, not_or] at unreserved
    refine ⟨⟨identifiers.1, distinct.2, unreserved.1⟩, identifiers.2, ?_⟩
    rintro (reserved | among)
    · exact unreserved.2 reserved.symm
    · exact distinct.1 among
  · rintro ⟨⟨identifiers, distinct, unreserved⟩, identifier, free⟩
    rw [not_or] at free
    refine ⟨?_, ?_, ?_⟩
    · exact List.forall_mem_append.mpr ⟨identifiers, List.forall_mem_singleton.mpr identifier⟩
    · rw [List.map_append, List.map_singleton, ← List.concat_eq_append, List.nodup_concat]
      exact ⟨free.2, distinct⟩
    · rw [List.map_append, List.map_singleton, List.mem_append, List.mem_singleton, not_or]
      exact ⟨unreserved, fun reserved => free.1 reserved.symm⟩

/-! One member is named, or it is refused. -/

variable (className : String) {taken : List String} {rest : List (Member κ)}

theorem nameMembers_free (identifier : Text.isIdentifier (rules.symbolFor member) = true)
    (free : rules.symbolFor member ∉ taken) :
    nameMembers className rules taken (member :: rest) =
      (nameMembers className rules (rules.symbolFor member :: taken) rest).map
        (rules.planned member :: ·) := by
  simp only [nameMembers, identifier, free, List.contains_eq_mem]
  cases nameMembers className rules (rules.symbolFor member :: taken) rest <;> rfl

theorem nameMembers_invalid (spelling : Text.isIdentifier (rules.symbolFor member) = false) :
    nameMembers className rules taken (member :: rest) =
      .error (.invalidSymbol (rules.symbolFor member)) := by
  simp [nameMembers, spelling]

theorem nameMembers_taken (identifier : Text.isIdentifier (rules.symbolFor member) = true)
    (among : rules.symbolFor member ∈ taken) :
    nameMembers className rules taken (member :: rest) =
      .error (.duplicateSymbol (rules.symbolFor member) className) := by
  simp [nameMembers, identifier, among]

/-- Members whose symbols can be given out are named. -/
theorem nameMembers_append (usable : rules.Usable front) (rest : List (Member κ)) :
    nameMembers className rules [rules.releaseSymbol] (front ++ rest) =
      (nameMembers className rules (rules.takenAfter front) rest).map
        (front.map rules.planned ++ ·) := by
  induction front using List.reverseRecOn generalizing rest with
  | nil =>
    show nameMembers className rules [rules.releaseSymbol] rest =
      (nameMembers className rules [rules.releaseSymbol] rest).map ([] ++ ·)
    cases nameMembers className rules [rules.releaseSymbol] rest <;> rfl
  | append_singleton before last ih =>
    obtain ⟨usable, identifier, free⟩ := usable_concat.mp usable
    have next : rules.takenAfter (before ++ [last]) =
        rules.symbolFor last :: rules.takenAfter before := by
      simp [NamingRules.takenAfter]
    rw [List.append_assoc, ih usable, List.singleton_append,
      nameMembers_free className identifier (mt mem_takenAfter.mp free), next]
    cases nameMembers className rules (rules.symbolFor last :: rules.takenAfter before) rest with
    | error error => rfl
    | ok later => simp [Except.map]

end Symbols

/-! ### Plans -/

/-- Why a type with these shown members has no plan: its first member that overloads an earlier one,
or, if there is none, the first one whose symbol is no identifier or is given out already. -/
inductive PlanRefused (className : String) (rules : NamingRules) (members : List (Member κ)) :
    BindError → Prop where
  | overloaded {front back : List (Member κ)} {member : Member κ}
      (parted : members = front ++ member :: back) (told : Distinguished front)
      (repeats : ∃ earlier ∈ front, Overloads earlier member) :
      PlanRefused className rules members (.overloadedMember className member.name)
  | invalid {front back : List (Member κ)} {member : Member κ} (told : Distinguished members)
      (parted : members = front ++ member :: back) (usable : rules.Usable front)
      (spelling : Text.isIdentifier (rules.symbolFor member) = false) :
      PlanRefused className rules members (.invalidSymbol (rules.symbolFor member))
  | taken {front back : List (Member κ)} {member : Member κ} (told : Distinguished members)
      (parted : members = front ++ member :: back) (usable : rules.Usable front)
      (identifier : Text.isIdentifier (rules.symbolFor member) = true)
      (taken : rules.Taken front member) :
      PlanRefused className rules members
        (.duplicateSymbol (rules.symbolFor member) className)

section Plans

variable {description : TypeDescription κ} {rules : NamingRules}

theorem planSymbols_usable (told : Distinguished description.shownMembers)
    (usable : rules.Usable description.shownMembers) :
    planSymbols description rules = .ok (description.shownMembers.map rules.planned) := by
  have named := nameMembers_append description.type.name usable []
  rw [List.append_nil, nameMembers] at named
  simp only [planSymbols, overloadedMember?_none told, named]
  exact congrArg Except.ok (List.append_nil _)

/-- A plan fails for the reason that there is. -/
theorem planSymbols_refused {error : BindError}
    (refused : PlanRefused description.type.name rules description.shownMembers error) :
    planSymbols description rules = .error error := by
  cases refused with
  | overloaded parted told repeats =>
    simp only [planSymbols, parted, overloadedMember?_some told repeats]
  | invalid told parted usable spelling =>
    simp only [planSymbols, overloadedMember?_none told]
    rw [parted, nameMembers_append _ usable, nameMembers_invalid _ spelling]
    rfl
  | taken told parted usable identifier taken =>
    simp only [planSymbols, overloadedMember?_none told]
    rw [parted, nameMembers_append _ usable,
      nameMembers_taken _ identifier (mem_takenAfter.mpr taken)]
    rfl

/-- There is a plan, or there is a reason against it. -/
theorem plan_cases (className : String) (rules : NamingRules) (members : List (Member κ)) :
    (Distinguished members ∧ rules.Usable members) ∨
      ∃ error, PlanRefused className rules members error := by
  obtain told | ⟨front, member, back, parted, told, spoilt⟩ :=
    first_failure Distinguished .nil members
  · obtain usable | ⟨front, member, back, parted, usable, spoilt⟩ :=
      first_failure rules.Usable usable_nil members
    · exact .inl ⟨told, usable⟩
    · cases spelling : Text.isIdentifier (rules.symbolFor member) with
      | false => exact .inr ⟨_, .invalid told parted usable spelling⟩
      | true =>
        refine .inr ⟨_, .taken told parted usable spelling ?_⟩
        by_contra free
        exact spoilt (usable_concat.mpr ⟨usable, spelling, free⟩)
  · refine .inr ⟨_, .overloaded parted told ?_⟩
    by_contra fresh
    exact spoilt (distinguished_concat.mpr ⟨told, fresh⟩)

/-- A type that has a plan has it for a reason. -/
theorem planSymbols_named {planned : List (PlannedSymbol κ)}
    (named : planSymbols description rules = .ok planned) :
    Distinguished description.shownMembers ∧ rules.Usable description.shownMembers ∧
      planned = description.shownMembers.map rules.planned := by
  obtain ⟨told, usable⟩ | ⟨error, refused⟩ :=
    plan_cases description.type.name rules description.shownMembers
  · rw [planSymbols_usable told usable] at named
    exact ⟨told, usable, (Except.ok.inj named).symm⟩
  · rw [planSymbols_refused refused] at named
    cases named

/-- A plan fails only for the reason that there is. -/
theorem planSymbols_failed {error : BindError}
    (failed : planSymbols description rules = .error error) :
    PlanRefused description.type.name rules description.shownMembers error := by
  obtain ⟨told, usable⟩ | ⟨reason, refused⟩ :=
    plan_cases description.type.name rules description.shownMembers
  · rw [planSymbols_usable told usable] at failed
    cases failed
  · rw [planSymbols_refused refused] at failed
    cases failed
    exact refused

/-- Planned symbols are different identifiers, none the symbol that releases handles. -/
theorem planSymbols_ok {planned : List (PlannedSymbol κ)}
    (named : planSymbols description rules = .ok planned) :
    (∀ one ∈ planned, Text.isIdentifier one.symbol = true ∧ one.symbol ≠ rules.releaseSymbol) ∧
      (planned.map PlannedSymbol.symbol).Nodup := by
  obtain ⟨-, usable, rfl⟩ := planSymbols_named named
  constructor
  · intro one found
    obtain ⟨member, among, rfl⟩ := List.mem_map.mp found
    refine ⟨usable.identifiers member among, ?_⟩
    intro reserved
    apply usable.unreserved
    rw [← reserved]
    exact List.mem_map_of_mem among
  · rw [List.map_map]
    exact usable.distinct

/-- All shown members are planned, in the order in which they were declared. -/
theorem planSymbols_members {planned : List (PlannedSymbol κ)}
    (named : planSymbols description rules = .ok planned) :
    planned = description.shownMembers.map fun member => ⟨rules.symbolFor member, member⟩ :=
  (planSymbols_named named).2.2

end Plans

/-- The plan of a type, for any naming rules.  There is one just if no two shown members overload each
other and all of their symbols can be given out; then it lists the shown members in the order in which
they were declared, each with its own symbol or else the one its template gives.  If there is none,
the error is for the first member that overloads an earlier one, and if there is no such member for
the first one whose symbol is no identifier, or that of an earlier member, or the release symbol. -/
theorem plan_exact (description : TypeDescription κ) (rules : NamingRules) :
    let members := description.shownMembers
    ((∃ planned, planSymbols description rules = .ok planned) ↔
      Distinguished members ∧ rules.Usable members) ∧
    (∀ planned, planSymbols description rules = .ok planned →
      planned = members.map fun member =>
        ⟨member.symbol.getD
          ((rules.templateFor member.kind).render (NamingRules.contextOf member)), member⟩) ∧
    ∀ error, planSymbols description rules = .error error ↔
      PlanRefused description.type.name rules members error := by
  intro members
  have symbols : (fun member : Member κ => (⟨member.symbol.getD
      ((rules.templateFor member.kind).render (NamingRules.contextOf member)), member⟩ :
        PlannedSymbol κ)) = rules.planned := by
    funext member
    rw [NamingRules.planned, NamingRules.symbolFor]
    cases member.symbol <;> rfl
  rw [symbols]
  refine ⟨⟨?_, ?_⟩, ?_, fun error => ⟨planSymbols_failed, planSymbols_refused⟩⟩
  · rintro ⟨planned, named⟩
    obtain ⟨told, usable, -⟩ := planSymbols_named named
    exact ⟨told, usable⟩
  · rintro ⟨told, usable⟩
    exact ⟨_, planSymbols_usable told usable⟩
  · intro planned named
    exact (planSymbols_named named).2.2

end NativeBridge.Naming
