/-
Module: NativeBridge.Proofs.MemberTables
Purpose: The table of members that any sequence of calls on a builder leaves.
Main exports: TypeBuilder.Call, TypeDescription.ofCalls, Member.settled, MemberTable,
  TypeDescription.members_settled
-/
import Mathlib.Data.List.Induction
import Mathlib.Data.List.TakeWhile
import NativeBridge.Workbench.Members

namespace NativeBridge

variable {κ : Type} [HostProgram κ]

/-!
A builder takes calls that add members and calls that modify the members added last, in any order.
What comes of a member is decided by the modifiers between the call that adds it and the next call
that adds any.  They are looked at here from the whole sequence of calls, which the builder never
sees.

The builder keeps the last group apart.  A table of all members with the range of the last group
comes to the same; there a modifier would fail if the range left the table.
-/

namespace TypeBuilder

variable {type : ObjectType κ}

/-! ### Calls -/

/-- A call on a builder: ten that add members, and four that modify them. -/
inductive Call (type : ObjectType κ) where
  | constructor (parameters : List (MarshalType κ))
      (make : Tuple parameters → Host κ (HostProgram.State type.key))
  | method (name : String) (parameters : List (MarshalType κ)) (result : MarshalType κ)
      (run : HostProgram.State type.key → Tuple parameters → Host κ (Carrier result))
  | staticMethod (name : String) (function : HostFunction κ)
  | property (name : String) (accessor : Accessor type)
  | getter (name : String) (accessor : Accessor type)
  | setter (name : String) (accessor : Accessor type)
  | field (name : String) (accessor : Accessor type)
  | staticGetter (name : String) (accessor : StaticAccessor κ)
  | staticSetter (name : String) (accessor : StaticAccessor κ)
  | staticField (name : String) (accessor : StaticAccessor κ)
  | hide
  | symbol (name : String)
  | getterSymbol (name : String)
  | setterSymbol (name : String)

namespace Call

/-- Make a call. -/
def apply (builder : TypeBuilder type) : Call type → TypeBuilder type
  | constructor parameters make => builder.constructor parameters make
  | method name parameters result run => builder.method name parameters result run
  | staticMethod name function => builder.staticMethod name function
  | property name accessor => builder.property name accessor
  | getter name accessor => builder.getter name accessor
  | setter name accessor => builder.setter name accessor
  | field name accessor => builder.field name accessor
  | staticGetter name accessor => builder.staticGetter name accessor
  | staticSetter name accessor => builder.staticSetter name accessor
  | staticField name accessor => builder.staticField name accessor
  | hide => builder.hide
  | symbol name => builder.symbol name
  | getterSymbol name => builder.getterSymbol name
  | setterSymbol name => builder.setterSymbol name

/-- The members a call adds, as they are before anything modifies them. -/
def added : Call type → List (Member κ)
  | constructor parameters make => [.ofConstructor type parameters make]
  | method name parameters result run => [.ofMethod type name parameters result run]
  | staticMethod name function => [.ofStaticMethod type name function]
  | property name accessor =>
      [.ofGetter type .propertyGetter name accessor.value accessor.get,
        .ofSetter type .propertySetter name accessor.value accessor.set]
  | getter name accessor => [.ofGetter type .propertyGetter name accessor.value accessor.get]
  | setter name accessor => [.ofSetter type .propertySetter name accessor.value accessor.set]
  | field name accessor =>
      [.ofGetter type .fieldGetter name accessor.value accessor.get,
        .ofSetter type .fieldSetter name accessor.value accessor.set]
  | staticGetter name accessor =>
      [.ofStaticGetter type .propertyGetter name accessor.value accessor.get]
  | staticSetter name accessor =>
      [.ofStaticSetter type .propertySetter name accessor.value accessor.set]
  | staticField name accessor =>
      [.ofStaticGetter type .fieldGetter name accessor.value accessor.get,
        .ofStaticSetter type .fieldSetter name accessor.value accessor.set]
  | hide | symbol _ | getterSymbol _ | setterSymbol _ => []

/-- The kinds of member a call adds. -/
def kinds : Call type → List MemberKind
  | constructor .. => [.constructor]
  | method .. | staticMethod .. => [.method]
  | getter .. | staticGetter .. => [.propertyGetter]
  | setter .. | staticSetter .. => [.propertySetter]
  | property .. => [.propertyGetter, .propertySetter]
  | field .. | staticField .. => [.fieldGetter, .fieldSetter]
  | hide | symbol _ | getterSymbol _ | setterSymbol _ => []

/-- Whether a call hides members. -/
def isHide : Call type → Bool
  | hide => true
  | _ => false

/-- Whether a call modifies members and adds none. -/
def isModifier : Call type → Bool
  | hide | symbol _ | getterSymbol _ | setterSymbol _ => true
  | _ => false

/-- The symbol that a call gives to a member of the group added last, by whether it is the last one
in it and by its kind. -/
def symbolFor (last : Bool) (kind : MemberKind) : Call type → Option String
  | symbol name => if last then some name else none
  | getterSymbol name => if kind.mutator? = some .get then some name else none
  | setterSymbol name => if kind.mutator? = some .set then some name else none
  | _ => none

/-- What a modifier does to the members it works on. -/
def change : Call type → List (Member κ) → List (Member κ)
  | hide => List.map fun member => { member with visibility := .hidden }
  | symbol name => mapLast (withSymbol name)
  | getterSymbol name =>
      mapFirst (fun member => member.kind.mutator? == some .get) (withSymbol name)
  | setterSymbol name =>
      mapFirst (fun member => member.kind.mutator? == some .set) (withSymbol name)
  | _ => id

end Call

end TypeBuilder

open TypeBuilder (Call)

/-- The description that a sequence of calls puts together. -/
def TypeDescription.ofCalls {type : ObjectType κ} (calls : List (Call type)) : TypeDescription κ :=
  (calls.foldl Call.apply (TypeBuilder.empty type)).build

open TypeDescription (ofCalls)

variable {type : ObjectType κ}

/-- A member as some modifiers leave it: hidden if one of them hides, and with the symbol of the last
one that gives it any. -/
def Member.settled (member : Member κ) (last : Bool) (modifiers : List (Call type)) : Member κ :=
  { member with
    visibility := if modifiers.any Call.isHide then .hidden else .shown
    symbol := (modifiers.filterMap (Call.symbolFor last member.kind)).getLast? }

/-- A table of members with a range, which need not lie in the table. -/
structure MemberTable (κ : Type) [HostProgram κ] where
  members : List (Member κ)
  first : Nat
  past : Nat

namespace MemberTable

/-- A table without members. -/
def empty : MemberTable κ := ⟨[], 0, 0⟩

/-- Change the members in the range; that fails if the range is none of the table. -/
def onRange? (table : MemberTable κ) (change : List (Member κ) → List (Member κ)) :
    Option (MemberTable κ) :=
  if table.first ≤ table.past ∧ table.past ≤ table.members.length then
    some { table with
      members := table.members.take table.first ++
        change ((table.members.take table.past).drop table.first) ++
        table.members.drop table.past }
  else none

/-- Make a call on a table: what is added becomes the range, and modifiers work on the range, but
the one for the member added last works on the whole table. -/
def onCall? (table : MemberTable κ) (call : Call type) : Option (MemberTable κ) :=
  match call with
  | .symbol _ => some { table with members := call.change table.members }
  | .hide | .getterSymbol _ | .setterSymbol _ => table.onRange? call.change
  | _ =>
      some ⟨table.members ++ call.added, table.members.length,
        (table.members ++ call.added).length⟩

end MemberTable

/-! ### Lists of members -/

namespace TypeBuilder

theorem getElem?_mapLast (change : Member κ → Member κ) (members : List (Member κ)) (i : Nat) :
    (mapLast change members)[i]? =
      members[i]?.map fun member => if i + 1 = members.length then change member else member := by
  induction members using mapLast.induct generalizing i with
  | case1 => rfl
  | case2 last => cases i <;> simp [mapLast]
  | case3 first second rest ih =>
    cases i with
    | zero => simp [mapLast]
    | succ i => simp [mapLast, ih]

/-- The last member of two lists in a row is that of the second one. -/
theorem mapLast_append (change : Member κ → Member κ) (front : List (Member κ))
    {back : List (Member κ)} (filled : back ≠ []) :
    mapLast change (front ++ back) = front ++ mapLast change back := by
  induction front with
  | nil => rfl
  | cons first front ih =>
    have longer : front ++ back ≠ [] := List.append_ne_nil_of_right_ne_nil front filled
    obtain ⟨second, rest, more⟩ := List.exists_cons_of_ne_nil longer
    rw [List.cons_append, more, mapLast, ← more, ih, List.cons_append]

/-- Where no two members pass a test, the first one that does is every one that does. -/
theorem getElem?_mapFirst {test : Member κ → Bool} (change : Member κ → Member κ)
    {members : List (Member κ)}
    (apart : members.Pairwise fun one other => test one = true → test other = false) (i : Nat) :
    (mapFirst test change members)[i]? =
      members[i]?.map fun member => if test member then change member else member := by
  induction members generalizing i with
  | nil => rfl
  | cons first rest ih =>
    obtain ⟨others, apart⟩ := List.pairwise_cons.mp apart
    rw [mapFirst]
    split
    · next passes =>
      cases i with
      | zero => simp [passes]
      | succ i =>
        cases found : rest[i]? with
        | none => simp [found]
        | some member => simp [found, others member (List.mem_of_getElem? found) passes]
    · next fails =>
      cases i with
      | zero => simp [fails]
      | succ i => simpa using ih apart i

theorem map_kind_mapLast (name : String) (members : List (Member κ)) :
    (mapLast (withSymbol name) members).map Member.kind = members.map Member.kind := by
  induction members using mapLast.induct with
  | case1 => rfl
  | case2 last => rfl
  | case3 first second rest ih => simpa [mapLast] using ih

theorem map_kind_mapFirst (test : Member κ → Bool) (name : String) (members : List (Member κ)) :
    (mapFirst test (withSymbol name) members).map Member.kind = members.map Member.kind := by
  induction members with
  | nil => rfl
  | cons first rest ih =>
    rw [mapFirst]
    split
    · rfl
    · rw [List.map_cons, ih, List.map_cons]

/-! ### One call -/

namespace Call

variable {call : Call type}

theorem apply_adding (adding : call.isModifier = false) (builder : TypeBuilder type) :
    apply builder call = builder.addGroup call.added := by
  cases call with
  | hide | symbol | getterSymbol | setterSymbol => cases adding
  | _ => rfl

theorem apply_modifier (modifying : call.isModifier = true) (builder : TypeBuilder type) :
    apply builder call = { builder with group := call.change builder.group } := by
  cases call with
  | hide | symbol | getterSymbol | setterSymbol => rfl
  | _ => cases modifying

theorem map_kind_added (call : Call type) : call.added.map Member.kind = call.kinds := by
  cases call <;> rfl

theorem added_ne_nil (adding : call.isModifier = false) : call.added ≠ [] := by
  cases call with
  | hide | symbol | getterSymbol | setterSymbol => cases adding
  | _ => exact List.cons_ne_nil _ _

theorem added_modifier (modifying : call.isModifier = true) : call.added = [] := by
  cases call with
  | hide | symbol | getterSymbol | setterSymbol => rfl
  | _ => cases modifying

/-- Nothing has modified a member that was just added. -/
theorem added_plain (call : Call type) :
    ∀ member ∈ call.added, member.visibility = .shown ∧ member.symbol = none := by
  cases call <;> simp [added, Member.ofConstructor, Member.ofMethod, Member.ofStaticMethod,
    Member.ofGetter, Member.ofSetter, Member.ofStaticGetter, Member.ofStaticSetter, Member.plain]

/-- A call adds no two members that do the same to their property or field. -/
theorem kinds_apart (call : Call type) : (call.kinds.map MemberKind.mutator?).Nodup := by
  cases call <;> simp [kinds, MemberKind.mutator?]

theorem map_kind_change (call : Call type) (group : List (Member κ)) :
    (call.change group).map Member.kind = group.map Member.kind := by
  cases call with
  | hide => simp [change]
  | symbol name => exact map_kind_mapLast name group
  | getterSymbol name | setterSymbol name => exact map_kind_mapFirst _ name group
  | _ => rfl

theorem length_change (call : Call type) (group : List (Member κ)) :
    (call.change group).length = group.length := by
  simpa using congrArg List.length (call.map_kind_change group)

/-- What a call does to one member of the group it works on. -/
def touch (call : Call type) (last : Bool) (member : Member κ) : Member κ :=
  { member with
    visibility := if call.isHide then .hidden else member.visibility
    symbol := (call.symbolFor last member.kind).or member.symbol }

/-- A modifier works on each member of a group by itself. -/
theorem getElem?_change (modifying : call.isModifier = true) {group : List (Member κ)}
    (apart : (group.map fun member => member.kind.mutator?).Nodup) (i : Nat) :
    (call.change group)[i]? =
      group[i]?.map (call.touch (decide (i + 1 = group.length))) := by
  have alone (mutator : Mutator) : group.Pairwise fun one other =>
      (one.kind.mutator? == some mutator) = true →
        (other.kind.mutator? == some mutator) = false := by
    refine (List.pairwise_map.mp apart).imp fun {one other} differ passes => ?_
    rw [beq_iff_eq] at passes
    rw [beq_eq_false_iff_ne, ← passes]
    exact differ.symm
  cases call with
  | hide =>
    rw [change, List.getElem?_map]
    rfl
  | symbol name =>
    rw [change, getElem?_mapLast]
    congr 1
    funext member
    by_cases last : i + 1 = group.length <;> simp [touch, isHide, symbolFor, withSymbol, last]
  | getterSymbol name =>
    rw [change, getElem?_mapFirst _ (alone .get)]
    congr 1
    funext member
    by_cases gets : member.kind.mutator? = some .get <;>
      simp [touch, isHide, symbolFor, withSymbol, gets]
  | setterSymbol name =>
    rw [change, getElem?_mapFirst _ (alone .set)]
    congr 1
    funext member
    by_cases sets : member.kind.mutator? = some .set <;>
      simp [touch, isHide, symbolFor, withSymbol, sets]
  | _ => cases modifying

/-- One more modifier touches a member as the ones before it left it. -/
theorem touch_settled (call : Call type) (last : Bool) (member : Member κ)
    (modifiers : List (Call type)) :
    call.touch last (member.settled last modifiers) =
      member.settled last (modifiers ++ [call]) := by
  cases hides : call.isHide <;> cases named : call.symbolFor last member.kind <;>
    simp [touch, Member.settled, hides, named]

end Call

/-! ### Modifiers in a row -/

/-- The members of a group as modifiers in a row leave them. -/
def changeAll (group : List (Member κ)) (modifiers : List (Call type)) : List (Member κ) :=
  modifiers.foldl (fun group call => call.change group) group

theorem map_kind_changeAll (group : List (Member κ)) (modifiers : List (Call type)) :
    (changeAll group modifiers).map Member.kind = group.map Member.kind := by
  induction modifiers generalizing group with
  | nil => rfl
  | cons call modifiers ih => exact (ih _).trans (call.map_kind_change group)

theorem foldl_modifiers {modifiers : List (Call type)}
    (modifying : ∀ call ∈ modifiers, call.isModifier = true) (builder : TypeBuilder type) :
    modifiers.foldl Call.apply builder =
      { builder with group := changeAll builder.group modifiers } := by
  induction modifiers generalizing builder with
  | nil => rfl
  | cons call modifiers ih =>
    have later : ∀ call ∈ modifiers, call.isModifier = true := fun other among =>
      modifying other (List.mem_cons_of_mem _ among)
    rw [List.foldl_cons, ih later, Call.apply_modifier (modifying call List.mem_cons_self)]
    rfl

/-- The members a call adds are settled by the modifiers behind it. -/
theorem getElem?_changeAll (call : Call type) {modifiers : List (Call type)}
    (modifying : ∀ call ∈ modifiers, call.isModifier = true) (i : Nat) :
    (changeAll call.added modifiers)[i]? =
      call.added[i]?.map fun member =>
        member.settled (decide (i + 1 = call.added.length)) modifiers := by
  induction modifiers using List.reverseRecOn with
  | nil =>
    cases found : call.added[i]? with
    | none => simpa [changeAll] using found
    | some member =>
      obtain ⟨shown, unnamed⟩ := call.added_plain member (List.mem_of_getElem? found)
      simp [changeAll, found, Member.settled, ← shown, ← unnamed]
  | append_singleton modifiers next ih =>
    have earlier : ∀ call ∈ modifiers, call.isModifier = true := fun other among =>
      modifying other (List.mem_append_left _ among)
    have kinds := map_kind_changeAll call.added modifiers
    have apart : ((changeAll call.added modifiers).map fun member =>
        member.kind.mutator?).Nodup := by
      have all := call.kinds_apart
      rw [← call.map_kind_added, ← kinds, List.map_map] at all
      exact all
    have length : (changeAll call.added modifiers).length = call.added.length := by
      simpa using congrArg List.length kinds
    have last : next.isModifier = true :=
      modifying next (List.mem_append_right _ List.mem_cons_self)
    have step : changeAll call.added (modifiers ++ [next]) =
        next.change (changeAll call.added modifiers) := by
      simp [changeAll]
    rw [step, Call.getElem?_change last apart, ih earlier, length, Option.map_map]
    congr 1
    funext member
    exact next.touch_settled _ member modifiers

/-! ### Sequences of calls -/

/-- What is in front of the last group stays in front. -/
theorem earlier_prefix (calls : List (Call type)) (builder : TypeBuilder type) :
    builder.earlier <+: (calls.foldl Call.apply builder).earlier := by
  induction calls generalizing builder with
  | nil => exact List.prefix_rfl
  | cons call calls ih =>
    refine List.IsPrefix.trans ?_ (ih (Call.apply builder call))
    cases modifying : call.isModifier with
    | true =>
      have same : (Call.apply builder call).earlier = builder.earlier := by
        rw [Call.apply_modifier modifying]
      exact same.symm ▸ List.prefix_rfl
    | false =>
      rw [Call.apply_adding modifying]
      exact List.prefix_append _ _

/-- Once a call has added members, no call changes a member that was there before. -/
theorem members_prefix {call : Call type} (adding : call.isModifier = false)
    (after : List (Call type)) (builder : TypeBuilder type) :
    builder.build.members <+: ((call :: after).foldl Call.apply builder).build.members := by
  have front := earlier_prefix after (Call.apply builder call)
  rw [Call.apply_adding adding] at front
  rw [List.foldl_cons, Call.apply_adding adding]
  exact front.trans (List.prefix_append _ _)

theorem map_kind_foldl (calls : List (Call type)) (builder : TypeBuilder type) :
    (calls.foldl Call.apply builder).build.members.map Member.kind =
      builder.build.members.map Member.kind ++ calls.flatMap Call.kinds := by
  induction calls generalizing builder with
  | nil => simp
  | cons call calls ih =>
    rw [List.foldl_cons, ih, List.flatMap_cons, ← List.append_assoc]
    congr 1
    cases modifying : call.isModifier with
    | true =>
      have none : call.kinds = [] := by
        rw [← call.map_kind_added, call.added_modifier modifying]
        rfl
      rw [Call.apply_modifier modifying, none, List.append_nil]
      simp [build, call.map_kind_change]
    | false =>
      rw [Call.apply_adding modifying, ← call.map_kind_added]
      simp [build, addGroup]

theorem map_kind_ofCalls (calls : List (Call type)) :
    (ofCalls calls).members.map Member.kind = calls.flatMap Call.kinds := by
  simpa [build, empty, ofCalls] using map_kind_foldl calls (empty type)

theorem length_ofCalls (calls : List (Call type)) :
    (ofCalls calls).members.length = (calls.flatMap Call.added).length := by
  have added : (calls.flatMap Call.added).map Member.kind = calls.flatMap Call.kinds := by
    simp [List.map_flatMap, Call.map_kind_added]
  simpa using congrArg List.length ((map_kind_ofCalls calls).trans added.symm)

/-- A member is found where the calls before its own leave off, as the modifiers behind its call
leave it. -/
theorem getElem?_ofCalls (before : List (Call type)) {call : Call type}
    (after : List (Call type)) {i : Nat} {member : Member κ} (adds : call.added[i]? = some member) :
    (ofCalls (before ++ call :: after)).members[(before.flatMap Call.added).length + i]? =
      some (member.settled (decide (i + 1 = call.added.length))
        (after.takeWhile Call.isModifier)) := by
  have adding : call.isModifier = false := by
    rw [Bool.eq_false_iff]
    intro modifying
    simp [call.added_modifier modifying] at adds
  have modifying : ∀ call ∈ after.takeWhile Call.isModifier, call.isModifier = true :=
    fun _ among => List.mem_takeWhile_imp among
  -- The members up to the next call that adds any, which are there to stay.
  have front : (ofCalls (before ++ call :: after.takeWhile Call.isModifier)).members <+:
      (ofCalls (before ++ call :: after)).members := by
    conv => rhs; rw [← List.takeWhile_append_dropWhile (p := Call.isModifier) (l := after)]
    cases behind : after.dropWhile Call.isModifier with
    | nil => simp
    | cons next rest =>
      have stops : next.isModifier = false := by
        simpa [behind] using List.head?_dropWhile_not Call.isModifier after
      have kept := members_prefix stops rest
        ((before ++ call :: after.takeWhile Call.isModifier).foldl Call.apply (empty type))
      rwa [← List.foldl_append, List.append_assoc, List.cons_append] at kept
  have group : (ofCalls (before ++ call :: after.takeWhile Call.isModifier)).members =
      (ofCalls before).members ++
        changeAll call.added (after.takeWhile Call.isModifier) := by
    rw [ofCalls, List.foldl_append, List.foldl_cons, Call.apply_adding adding,
      foldl_modifiers modifying]
    rfl
  have found : (changeAll call.added (after.takeWhile Call.isModifier))[i]? = _ :=
    getElem?_changeAll call modifying i
  rw [adds, Option.map_some] at found
  obtain ⟨rest, joined⟩ := front
  rw [← joined, group, ← length_ofCalls, List.append_assoc,
    List.getElem?_append_right (Nat.le_add_right _ _), Nat.add_sub_cancel_left,
    List.getElem?_append_left (List.getElem?_eq_some_iff.mp found).1, found]

end TypeBuilder

/-! ### Tables with a range -/

namespace MemberTable

/-- A table holds what a builder does, and its range is that of the last group. -/
structure Shows (table : MemberTable κ) (builder : TypeBuilder type) : Prop where
  members : table.members = builder.earlier ++ builder.group
  first : table.first = builder.earlier.length
  past : table.past = table.members.length
  grouped : builder.group = [] → builder.earlier = []

theorem Shows.onRange? {table : MemberTable κ} {builder : TypeBuilder type}
    (shows : table.Shows builder) (change : List (Member κ) → List (Member κ)) :
    table.onRange? change =
      some { table with members := builder.earlier ++ change builder.group } := by
  have past := shows.past
  have within : table.first ≤ table.past ∧ table.past ≤ table.members.length := by
    rw [past, shows.first, shows.members, List.length_append]
    omega
  rw [MemberTable.onRange?, if_pos within, past, shows.first, shows.members]
  simp only [List.take_length, List.take_left, List.drop_left, List.drop_length, List.append_nil]

/-- A call on a table does not fail, and does to it what it does to the builder. -/
theorem Shows.onCall? {table : MemberTable κ} {builder : TypeBuilder type}
    (shows : table.Shows builder) (call : Call type) :
    ∃ next, table.onCall? call = some next ∧ next.Shows (Call.apply builder call) := by
  cases modifying : call.isModifier with
  | false =>
    refine ⟨⟨table.members ++ call.added, table.members.length,
      (table.members ++ call.added).length⟩, ?_, ?_⟩
    · cases call with
      | hide | symbol | getterSymbol | setterSymbol => cases modifying
      | _ => rfl
    · rw [Call.apply_adding modifying]
      refine ⟨?_, ?_, rfl, fun none => absurd none (Call.added_ne_nil modifying)⟩
      · rw [shows.members]
        rfl
      · exact congrArg List.length shows.members
  | true =>
    have length := call.length_change builder.group
    have changed : table.onCall? call =
        some { table with members := builder.earlier ++ call.change builder.group } := by
      cases call with
      | hide | getterSymbol | setterSymbol => exact shows.onRange? _
      | symbol name =>
        -- The last member of the table is that of the group, unless there is none.
        rw [MemberTable.onCall?, shows.members]
        by_cases none : builder.group = []
        · rw [none, shows.grouped none]
          rfl
        · rw [Call.change, TypeBuilder.mapLast_append _ _ none]
      | _ => cases modifying
    refine ⟨_, changed, ?_⟩
    rw [Call.apply_modifier modifying]
    refine ⟨rfl, shows.first, ?_, fun none => shows.grouped ?_⟩
    · rw [shows.past, shows.members]
      simp [length]
    · rw [← List.length_eq_zero_iff] at none ⊢
      rw [← length]
      exact none

/-- No call of a sequence fails on a table. -/
theorem Shows.foldlM {table : MemberTable κ} {builder : TypeBuilder type}
    (shows : table.Shows builder) (calls : List (Call type)) :
    ∃ last, calls.foldlM MemberTable.onCall? table = some last ∧
      last.Shows (calls.foldl Call.apply builder) := by
  induction calls generalizing table builder with
  | nil => exact ⟨table, rfl, shows⟩
  | cons call calls ih =>
    obtain ⟨next, applied, shows⟩ := shows.onCall? call
    obtain ⟨last, rest, shows⟩ := ih shows
    exact ⟨last, by rw [List.foldlM_cons, applied]; exact rest, shows⟩

end MemberTable

/-- The table lists the members in the order of the calls that add them, getters before setters.  A
member is hidden, and has a symbol, just as the modifiers say that stand behind its call and before
the next one that adds members; what there was before that call is as it would be without it.  And no
modifier ever looks for a group where the table has none. -/
theorem TypeDescription.members_settled (calls : List (Call type)) :
    (ofCalls calls).members.map Member.kind = calls.flatMap Call.kinds ∧
    (∀ before call after, calls = before ++ call :: after →
      ∀ i member, call.added[i]? = some member →
        (ofCalls calls).members[(before.flatMap Call.added).length + i]? =
          some (member.settled (decide (i + 1 = call.added.length))
            (after.takeWhile Call.isModifier))) ∧
    (∀ before call after, calls = before ++ call :: after → call.isModifier = false →
      (ofCalls before).members <+: (ofCalls calls).members) ∧
    ∃ table, calls.foldlM MemberTable.onCall? MemberTable.empty = some table ∧
      table.members = (ofCalls calls).members := by
  refine ⟨?_, ?_, ?_, ?_⟩
  · exact TypeBuilder.map_kind_ofCalls calls
  · rintro before call after rfl i member adds
    exact TypeBuilder.getElem?_ofCalls before after adds
  · rintro before call after rfl adding
    rw [ofCalls, ofCalls, List.foldl_append]
    exact TypeBuilder.members_prefix adding after _
  · have shows : (MemberTable.empty : MemberTable κ).Shows (TypeBuilder.empty type) :=
      ⟨rfl, rfl, rfl, fun _ => rfl⟩
    obtain ⟨table, applied, shows⟩ := shows.foldlM calls
    exact ⟨table, applied, shows.members⟩

namespace Workbench

/-- A property and a static getter, with modifiers in front of them, repeated ones between them, and
one behind them that has nothing to work on. -/
def mixedCalls : List (Call (widgetType .testClass .reference)) :=
  [.symbol "early", .hide, .property "Text" (bufferSlot.accessor .testClass .reference),
    .getterSymbol "first", .hide, .symbol "put", .getterSymbol "text",
    .staticGetter "Shared" sharedTextSlot, .setterSymbol "none"]

/-- The property is hidden and its accessors have the symbols given last; the static getter is as it
was added. -/
theorem mixedCalls_settled :
    let members := (ofCalls mixedCalls).members
    let shown (member : Member Key) := (member.name, member.visibility, member.symbol)
    members.map Member.kind = [.propertyGetter, .propertySetter, .propertyGetter] ∧
    members[0]?.map shown = some ("Text", .hidden, some "text") ∧
    members[1]?.map shown = some ("Text", .hidden, some "put") ∧
    members[2]?.map shown = some ("Shared", .shown, none) ∧
    (ofCalls (mixedCalls.take 7)).members <+: members ∧
    ∃ table, mixedCalls.foldlM MemberTable.onCall? MemberTable.empty = some table ∧
      table.members = members := by
  intro members shown
  obtain ⟨kinds, settled, kept, table⟩ :=
    TypeDescription.members_settled mixedCalls
  have getter : members[0]? = some _ := settled (mixedCalls.take 2) _ (mixedCalls.drop 3) rfl 0 _ rfl
  have setter : members[1]? = some _ := settled (mixedCalls.take 2) _ (mixedCalls.drop 3) rfl 1 _ rfl
  have static : members[2]? = some _ := settled (mixedCalls.take 7) _ (mixedCalls.drop 8) rfl 0 _ rfl
  refine ⟨kinds, ?_, ?_, ?_, kept (mixedCalls.take 7) _ (mixedCalls.drop 8) rfl rfl, table⟩
  · rw [getter]
    rfl
  · rw [setter]
    rfl
  · rw [static]
    rfl

end Workbench

end NativeBridge
