/-
Module: NativeBridge.Naming.Plan
Purpose: The symbols under which the members of a type are exposed, planned as a whole.
Main exports: PlannedSymbol, overloadedMember?, planSymbols
-/
import NativeBridge.Description
import NativeBridge.Naming.Rules

namespace NativeBridge.Naming

variable {κ : Type} [HostProgram κ]

/-!
A plan fails on the first member that repeats the kind and name of an earlier one without a symbol
of its own; constructors may repeat.  Then it fails on the first symbol that is no identifier or is
taken, the release symbol counting as taken from the start.
-/

/-- A member with the symbol it is exposed as. -/
structure PlannedSymbol (κ : Type) [HostProgram κ] where
  symbol : String
  member : Member κ

/-- Whether a member is named by its kind and name alone. -/
def isNamedByKind (member : Member κ) : Bool :=
  member.kind != .constructor && member.symbol.isNone

/-- The first member whose kind and name are among those seen. -/
def overloadedAmong (seen : List (MemberKind × String)) : List (Member κ) → Option (Member κ)
  | [] => none
  | member :: rest =>
      if seen.contains (member.kind, member.name) then some member
      else overloadedAmong ((member.kind, member.name) :: seen) rest

/-- The first member that overloads an earlier one. -/
def overloadedMember? (members : List (Member κ)) : Option (Member κ) :=
  overloadedAmong [] (members.filter isNamedByKind)

/-- Name members in order, none by a symbol that is taken. -/
def nameMembers (className : String) (rules : NamingRules) :
    List String → List (Member κ) → Except BindError (List (PlannedSymbol κ))
  | _, [] => .ok []
  | taken, member :: rest =>
      let symbol := rules.symbolFor member
      if !Text.isIdentifier symbol then .error (.invalidSymbol symbol)
      else if taken.contains symbol then .error (.duplicateSymbol symbol className)
      else do
        let planned ← nameMembers className rules (symbol :: taken) rest
        .ok (⟨symbol, member⟩ :: planned)

/-- Name every exposed member of a type. -/
def planSymbols (description : TypeDescription κ) (rules : NamingRules) :
    Except BindError (List (PlannedSymbol κ)) :=
  let className := description.type.name
  match overloadedMember? description.shownMembers with
  | some member => .error (.overloadedMember className member.name)
  | none => nameMembers className rules [rules.releaseSymbol] description.shownMembers

end NativeBridge.Naming
