/-
Module: NativeBridge.Proofs.TupleConversions
Purpose: A parameter tuple comes back from the host values it is turned into, and any other list of
  values is refused for its length or for its leftmost unreadable element.
Main exports: MarshalType.Stands, Tuple.Stands, Tuple.Passed, MarshalType.Refuses,
  Tuple.FirstUnreadable, Tuple.Refuses, fromValue_eq_ok_iff, fromValue_eq_error_iff, tuples_exchanged
-/
import NativeBridge.Proofs.BorrowBalance
import NativeBridge.Proofs.Discriminants
import NativeBridge.Proofs.RefusedArguments

namespace NativeBridge

variable {κ : Type} [HostProgram κ]

/-!
A value stands for an element of a tuple by itself, unless the element is an instance.  A shared
instance is the same instance on both sides.  A copied one becomes an instance of its own, in a cell
that nothing else refers to, and is read back as the state in that cell; so between the value and
what is read there is nothing that both hold on to.

Objects are made together with their instances, and no instance changes its class.  Whoever reads a
list of values may therefore assume that an object in it has an instance of the class it names.
-/

/-! ### What values stand for -/

/-- No two variants of an enumeration share a discriminant. -/
def MarshalType.IsDistinct : MarshalType κ → Prop
  | .enumeration spec => spec.discriminants.Nodup
  | _ => True

/-- A value stands for what a marshal type carries, given the instances that there are. -/
inductive MarshalType.Stands (heap : Heap κ) : (type : MarshalType κ) → Carrier type → Value κ → Prop
  | unit : Stands heap .unit () .void
  | pointer (address : UInt64) : Stands heap .pointer address (.pointer address)
  | integer (type : IntegerType) (n : type.Word) : Stands heap (.integer type) n (.integer type n)
  | char (c : Char) : Stands heap .char c (.char c)
  | f32 (x : F32) : Stands heap .f32 x (.f32 x)
  | f64 (x : F64) : Stands heap .f64 x (.f64 x)
  | string (text : String) : Stands heap .string text (.string text)
  | stringBuffer (buffer : StringBuffer) : Stands heap .stringBuffer buffer (.stringBuffer buffer)
  | enumeration (spec : EnumSpec) (variant : Fin spec.discriminants.length) :
      Stands heap (.enumeration spec) variant (.integer spec.repr (spec.discriminants.get variant))
  | shared {key : κ} (ref : Ref key) : Stands heap (.shared key) ref (.object ref.object)
  | copied {key : κ} {state : HostProgram.State key} {cell : Nat} {borrow : Borrow}
      (there : heap.cells[cell]? = some ⟨key, state, borrow⟩) (readable : borrow ≠ .exclusive) :
      Stands heap (.copied key) state (.object ⟨cell, ⟨key, .value⟩⟩)

/-- Values stand for the elements of a tuple, one by one. -/
inductive Tuple.Stands (heap : Heap κ) : (types : List (MarshalType κ)) → Tuple types →
    List (Value κ) → Prop
  | nil : Stands heap [] () []
  | cons {type : MarshalType κ} {types : List (MarshalType κ)} {first : Carrier type}
      {rest : Tuple types} {value : Value κ} {values : List (Value κ)}
      (here : type.Stands heap first value) (later : Stands heap types rest values) :
      Stands heap (type :: types) (first, rest) (value :: values)

/-- The cell of an object that is used as a copy. -/
def Value.copy? : Value κ → Option Nat
  | .object ⟨cell, ⟨_, .value⟩⟩ => some cell
  | _ => none

/-- Later host data has all instances and texts of earlier data, as they were. -/
structure Heap.Extends (before after : Heap κ) : Prop where
  cells : ∀ (cell : Nat) (one : Cell κ), before.cells[cell]? = some one →
    after.cells[cell]? = some one
  texts : after.texts = before.texts

/-- A tuple is passed as some values: they stand for its elements, and each copy among them is an
instance of its own, which was not there before. -/
structure Tuple.Passed (before : Heap κ) (types : List (MarshalType κ)) (tuple : Tuple types)
    (values : List (Value κ)) (after : Heap κ) : Prop where
  stands : Tuple.Stands after types tuple values
  new : ∀ cell ∈ values.filterMap Value.copy?, before.cells.size ≤ cell
  apart : (values.filterMap Value.copy?).Nodup
  kept : before.Extends after

namespace Heap.Extends

variable {before middle after : Heap κ}

theorem refl (heap : Heap κ) : heap.Extends heap := ⟨fun _ _ there => there, rfl⟩

theorem trans (one : before.Extends middle) (two : middle.Extends after) : before.Extends after :=
  ⟨fun cell found there => two.cells cell found (one.cells cell found there),
    two.texts.trans one.texts⟩

theorem size_le (extends_ : before.Extends after) : before.cells.size ≤ after.cells.size := by
  by_contra larger
  have inside : after.cells.size < before.cells.size := Nat.not_le.mp larger
  have there := extends_.cells _ _ (Array.getElem?_eq_getElem inside)
  rw [Array.getElem?_eq_none (Nat.le_refl _)] at there
  cases there

end Heap.Extends

/-! ### From tuples to values -/

namespace MarshalType

variable {heap after : Heap κ} {type : MarshalType κ} {carried : Carrier type} {value : Value κ}

theorem Stands.extend (stands : type.Stands heap carried value) (grown : heap.Extends after) :
    type.Stands after carried value := by
  cases stands with
  | copied there readable => exact .copied (grown.cells _ _ there) readable
  | _ => constructor

/-- A copy is in a cell that is there. -/
theorem Stands.copy_lt (stands : type.Stands heap carried value) {cell : Nat}
    (copy : value.copy? = some cell) : cell < heap.cells.size := by
  cases stands with
  | copied there readable =>
    cases copy
    exact (Array.getElem?_eq_some_iff.mp there).1
  | shared ref => cases copy
  | _ => cases copy

/-- Turning something into a value makes an instance of its own if it is to be a copy, and nothing
else. -/
theorem intoValue_stands (type : MarshalType κ) (carried : Carrier type) (heap : Heap κ) :
    type.Stands (type.intoValue carried heap).2 carried (type.intoValue carried heap).1 ∧
      heap.Extends (type.intoValue carried heap).2 ∧
      ∀ cell, (type.intoValue carried heap).1.copy? = some cell → heap.cells.size ≤ cell := by
  cases type with
  | copied key =>
    have there : (heap.cells.push ⟨key, carried, .free⟩)[heap.cells.size]? =
        some ⟨key, carried, .free⟩ := Array.getElem?_push_size
    refine ⟨.copied there (by simp), ⟨?_, rfl⟩, ?_⟩
    · intro cell one found
      have inside : cell < heap.cells.size := (Array.getElem?_eq_some_iff.mp found).1
      exact (Array.getElem?_push_lt inside).trans ((Array.getElem?_eq_getElem inside).symm.trans found)
    · intro cell copy
      cases copy
      exact Nat.le_refl _
  | shared key => exact ⟨.shared carried, .refl heap, fun cell copy => by cases copy⟩
  | _ => exact ⟨by constructor, .refl heap, fun cell copy => by cases copy⟩

end MarshalType

namespace Tuple

variable {types : List (MarshalType κ)} {tuple : Tuple types} {values : List (Value κ)}
  {before after : Heap κ}

theorem Stands.copy_lt (stands : Tuple.Stands after types tuple values) {cell : Nat}
    (copy : cell ∈ values.filterMap Value.copy?) : cell < after.cells.size := by
  induction stands with
  | nil => cases copy
  | cons here _ ih =>
    obtain ⟨value, among, found⟩ := List.mem_filterMap.mp copy
    rcases List.mem_cons.mp among with rfl | among
    · exact here.copy_lt found
    · exact ih (List.mem_filterMap.mpr ⟨value, among, found⟩)

/-- Every tuple is passed as the values that it is turned into. -/
theorem intoValues_passed (types : List (MarshalType κ)) (tuple : Tuple types) (heap : Heap κ) :
    Passed heap types tuple (intoValues types tuple heap).1 (intoValues types tuple heap).2 := by
  induction types generalizing heap with
  | nil => exact ⟨.nil, by simp [intoValues], List.nodup_nil, .refl heap⟩
  | cons type types ih =>
    obtain ⟨first, rest⟩ := tuple
    obtain ⟨here, grown, fresh⟩ := type.intoValue_stands first heap
    have later := ih rest (type.intoValue first heap).2
    have grows := grown.size_le
    simp only [intoValues]
    refine ⟨.cons (here.extend later.kept) later.stands, ?_, ?_, grown.trans later.kept⟩
    · intro cell copy
      obtain ⟨value, among, found⟩ := List.mem_filterMap.mp copy
      rcases List.mem_cons.mp among with rfl | among
      · exact fresh cell found
      · exact Nat.le_trans grows (later.new cell (List.mem_filterMap.mpr ⟨value, among, found⟩))
    · rw [List.filterMap_cons]
      cases copy : (type.intoValue first heap).1.copy? with
      | none => exact later.apart
      | some cell =>
        refine List.nodup_cons.mpr ⟨?_, later.apart⟩
        intro again
        have inside := here.copy_lt copy
        have outside := later.new cell again
        omega

end Tuple

/-! ### From values to tuples -/

/-- The host type that a value must have to be read as a marshal type: an enumeration is read from
its underlying integer. -/
def MarshalType.readType : MarshalType κ → HostType κ
  | .enumeration spec => .integer spec.repr
  | type => type.hostType

/-- A value is of the type that a marshal type is read from; which object it is does not matter. -/
def MarshalType.Suits : MarshalType κ → Value κ → Prop
  | .unit, .void | .pointer, .pointer _ | .char, .char _ | .f32, .f32 _ | .f64, .f64 _
  | .string, .string _ | .stringBuffer, .stringBuffer _ | .shared _, .object _
  | .copied _, .object _ => True
  | .integer type, .integer found _ => found = type
  | .enumeration spec, .integer found _ => found = spec.repr
  | _, _ => False

/-- The object type that a marshal type is read from, if it is a class. -/
def MarshalType.objectType? : MarshalType κ → Option (ObjectType κ)
  | .shared key => some ⟨key, .reference⟩
  | .copied key => some ⟨key, .value⟩
  | _ => none

/-- A marshal type cannot be read from a value, and this is the error. -/
inductive MarshalType.Refuses (heap : Heap κ) : MarshalType κ → Value κ → MarshalError → Prop
  | otherType {type : MarshalType κ} {value : Value κ} (unsuited : ¬ type.Suits value) :
      Refuses heap type value (.typeMismatch type.readType.name value.kind)
  | otherClass {type : MarshalType κ} {expected : ObjectType κ} {object : HostObject κ}
      (declared : type.objectType? = some expected) (other : object.type ≠ expected) :
      Refuses heap type (.object object) (.typeMismatch expected.name object.type.name)
  | unknown {spec : EnumSpec} {n : spec.repr.Word} (unlisted : n ∉ spec.discriminants) :
      Refuses heap (.enumeration spec) (.integer spec.repr n)
        (.invalidEnum spec.name (spec.repr.toInt64 n))
  | busy {key : κ} {cell : Nat} (held : heap.borrowAt? cell = some .exclusive) :
      Refuses heap (.copied key) (.object ⟨cell, ⟨key, .value⟩⟩)
        (.typeMismatch (HostProgram.className key) "busy instance")

/-- The error of the leftmost value that cannot be read at its place. -/
inductive Tuple.FirstUnreadable (heap : Heap κ) :
    List (MarshalType κ) → List (Value κ) → MarshalError → Prop
  | here {type : MarshalType κ} {types : List (MarshalType κ)} {value : Value κ}
      {values : List (Value κ)} {error : MarshalError} (refused : type.Refuses heap value error) :
      FirstUnreadable heap (type :: types) (value :: values) error
  | later {type : MarshalType κ} {types : List (MarshalType κ)} {value : Value κ}
      {values : List (Value κ)} {error : MarshalError}
      (readable : ∀ fault, ¬ type.Refuses heap value fault)
      (rest : FirstUnreadable heap types values error) :
      FirstUnreadable heap (type :: types) (value :: values) error

/-- A parameter list refuses some values with an error: that of their number, if it is wrong, and
else that of the leftmost value that cannot be read. -/
inductive Tuple.Refuses (heap : Heap κ) (types : List (MarshalType κ)) (values : List (Value κ)) :
    MarshalError → Prop
  | arity (differ : values.length ≠ types.length) :
      Refuses heap types values (.arityMismatch types.length values.length)
  | element {error : MarshalError} (same : values.length = types.length)
      (first : Tuple.FirstUnreadable heap types values error) : Refuses heap types values error

/-- An object has an instance of the class that it names. -/
def Value.IsHoused (heap : Heap κ) (value : Value κ) : Prop :=
  ∀ object, value = .object object →
    ∃ one, heap.cells[object.cell]? = some one ∧ one.key = object.type.key

namespace MarshalType

variable {heap : Heap κ} {type : MarshalType κ} {value : Value κ} {error : MarshalError}

theorem expectType_declared (cell : Nat) (type : ObjectType κ) :
    (⟨cell, type⟩ : HostObject κ).expectType type = .ok () := if_pos rfl

theorem copiedState_readable {cell : Nat} {key : κ} {state : HostProgram.State key} {borrow : Borrow}
    (there : heap.cells[cell]? = some ⟨key, state, borrow⟩) (readable : borrow ≠ .exclusive) :
    copiedState key (.object ⟨cell, ⟨key, .value⟩⟩) heap = .ok state := by
  have shared : borrow.share?.isSome = true := by
    cases borrow with
    | exclusive => exact absurd rfl readable
    | _ => rfl
  simp [copiedState, expectType_declared, bind, Except.bind, Heap.readObject, there, shared,
    Cell.stateAs]

theorem copiedState_busy {cell : Nat} {key : κ} (held : heap.borrowAt? cell = some .exclusive) :
    copiedState key (.object ⟨cell, ⟨key, .value⟩⟩) heap =
      .error (.typeMismatch (HostProgram.className key) "busy instance") := by
  obtain ⟨one, there, writes⟩ := Option.map_eq_some_iff.mp held
  simp [copiedState, expectType_declared, bind, Except.bind, Heap.readObject, there, writes,
    Borrow.share?]

/-- A value that stands for something is read as this. -/
theorem Stands.fromValue {carried : Carrier type} (stands : type.Stands heap carried value)
    (distinct : type.IsDistinct) : type.fromValue value heap = .ok carried := by
  cases stands with
  | integer type n => exact wordOf_integer type n
  | enumeration spec variant =>
    rw [fromValue_enumeration]
    exact (variantOf_eq_ok_iff distinct).mpr rfl
  | shared ref =>
    simp only [MarshalType.fromValue, Ref.object, expectType_declared, bind, Except.bind]
  | copied there readable => exact copiedState_readable there readable
  | _ => rfl

/-- A value of another type is refused. -/
theorem fromValue_unsuited (unsuited : ¬ type.Suits value) :
    type.fromValue value heap = .error (.typeMismatch type.readType.name value.kind) := by
  cases type with
  | integer type =>
    cases value with
    | integer found n => exact dif_neg unsuited
    | _ => rfl
  | enumeration spec =>
    cases value with
    | integer found n =>
      have refused : wordOf (κ := κ) spec.repr (.integer found n) =
          .error (.typeMismatch spec.repr.name found.name) := dif_neg unsuited
      rw [MarshalType.fromValue, refused]
      rfl
    | _ => rfl
  | unit =>
    cases value with
    | void => exact absurd trivial unsuited
    | _ => rfl
  | pointer =>
    cases value with
    | pointer _ => exact absurd trivial unsuited
    | _ => rfl
  | char =>
    cases value with
    | char _ => exact absurd trivial unsuited
    | _ => rfl
  | f32 =>
    cases value with
    | f32 _ => exact absurd trivial unsuited
    | _ => rfl
  | f64 =>
    cases value with
    | f64 _ => exact absurd trivial unsuited
    | _ => rfl
  | string =>
    cases value with
    | string _ => exact absurd trivial unsuited
    | _ => rfl
  | stringBuffer =>
    cases value with
    | stringBuffer _ => exact absurd trivial unsuited
    | _ => rfl
  | shared _ | copied _ =>
    cases value with
    | object _ => exact absurd trivial unsuited
    | _ => rfl

theorem Refuses.fromValue (refused : type.Refuses heap value error) :
    type.fromValue value heap = .error error := by
  cases refused with
  | otherType unsuited => exact fromValue_unsuited unsuited
  | otherClass declared other =>
    cases type with
    | shared key =>
      cases declared
      simp only [MarshalType.fromValue, HostObject.expectType_other other, bind, Except.bind]
    | copied key =>
      cases declared
      simp only [MarshalType.fromValue, copiedState, HostObject.expectType_other other, bind,
        Except.bind]
    | _ => cases declared
  | unknown unlisted =>
    rw [fromValue_enumeration]
    exact variantOf_unknown unlisted
  | busy held => exact copiedState_busy held

/-- An object is a copy of an instance, unless it is of another class or somebody writes to its
instance. -/
theorem copied_cases {key : κ} {object : HostObject κ}
    (housed : (Value.object object).IsHoused heap) :
    (∃ state, (copied key).Stands heap state (.object object)) ∨
      ∃ error, (copied key).Refuses heap (.object object) error := by
  by_cases same : object.type = ⟨key, .value⟩
  · obtain ⟨one, there, found⟩ := housed object rfl
    rcases object with ⟨cell, type⟩
    obtain rfl : type = ⟨key, .value⟩ := same
    rcases one with ⟨_, state, borrow⟩
    obtain rfl := found
    by_cases held : borrow = .exclusive
    · subst held
      exact .inr ⟨_, .busy (Heap.borrowAt?_of_cell there)⟩
    · exact .inl ⟨state, .copied there held⟩
  · exact .inr ⟨_, .otherClass rfl same⟩

/-- A value either stands for something or is refused. -/
theorem stands_or_refuses (type : MarshalType κ) (housed : value.IsHoused heap) :
    (∃ carried, type.Stands heap carried value) ∨ ∃ error, type.Refuses heap value error := by
  by_cases suits : type.Suits value
  · cases type with
    | integer type =>
      cases value <;> cases suits
      exact .inl ⟨_, .integer _ _⟩
    | enumeration spec =>
      cases value <;> cases suits
      next n =>
      by_cases known : n ∈ spec.discriminants
      · obtain ⟨variant, -, same⟩ := variantOf_known known
        exact .inl ⟨variant, same ▸ .enumeration spec variant⟩
      · exact .inr ⟨_, .unknown known⟩
    | shared key =>
      cases value <;> cases suits
      next object =>
      by_cases same : object.type = ⟨key, .reference⟩
      · rcases object with ⟨cell, type⟩
        obtain rfl : type = ⟨key, .reference⟩ := same
        exact .inl ⟨⟨cell⟩, .shared _⟩
      · exact .inr ⟨_, .otherClass rfl same⟩
    | copied key =>
      cases value <;> cases suits
      exact copied_cases housed
    | unit | pointer | char | f32 | f64 | string | stringBuffer =>
      cases value <;> cases suits
      exact .inl ⟨_, by constructor⟩
  · exact .inr ⟨_, .otherType suits⟩

/-- A value is read exactly as what it stands for. -/
theorem fromValue_eq_ok_iff {carried : Carrier type} (distinct : type.IsDistinct)
    (housed : value.IsHoused heap) :
    type.fromValue value heap = .ok carried ↔ type.Stands heap carried value := by
  constructor
  · intro read
    obtain ⟨other, stands⟩ | ⟨error, refused⟩ := type.stands_or_refuses housed
    · cases read.symm.trans (stands.fromValue distinct)
      exact stands
    · cases read.symm.trans refused.fromValue
  · exact fun stands => stands.fromValue distinct

/-- Reading a value fails exactly if it is refused, and with this error. -/
theorem fromValue_eq_error_iff (distinct : type.IsDistinct) (housed : value.IsHoused heap) :
    type.fromValue value heap = .error error ↔ type.Refuses heap value error := by
  constructor
  · intro failed
    obtain ⟨carried, stands⟩ | ⟨other, refused⟩ := type.stands_or_refuses housed
    · cases failed.symm.trans (stands.fromValue distinct)
    · cases failed.symm.trans refused.fromValue
      exact refused
  · exact Refuses.fromValue

/-- What stands for something is not refused. -/
theorem Stands.readable {carried : Carrier type} (stands : type.Stands heap carried value)
    (distinct : type.IsDistinct) (fault : MarshalError) : ¬ type.Refuses heap value fault := by
  intro refused
  cases (stands.fromValue distinct).symm.trans refused.fromValue

end MarshalType

/-! ### Lists of values -/

namespace Tuple

variable {heap : Heap κ} {types : List (MarshalType κ)} {values : List (Value κ)}
  {error : MarshalError}

/-- Values that stand for a tuple are read as this tuple. -/
theorem Stands.readValues {tuple : Tuple types} (stands : Tuple.Stands heap types tuple values)
    (distinct : ∀ type ∈ types, type.IsDistinct) :
    Tuple.readValues types values heap = .ok tuple := by
  induction stands with
  | nil => rfl
  | cons here _ ih =>
    have first := here.fromValue (distinct _ List.mem_cons_self)
    have rest := ih fun type among => distinct type (List.mem_cons_of_mem _ among)
    simp only [Tuple.readValues, List.headD_cons, List.tail_cons, first, rest, bind, Except.bind]

theorem Stands.length_eq {tuple : Tuple types} (stands : Tuple.Stands heap types tuple values) :
    values.length = types.length := by
  induction stands with
  | nil => rfl
  | cons _ _ ih => rw [List.length_cons, List.length_cons, ih]

theorem Stands.fromValues {tuple : Tuple types} (stands : Tuple.Stands heap types tuple values)
    (distinct : ∀ type ∈ types, type.IsDistinct) :
    Tuple.fromValues types values heap = .ok tuple := by
  rw [Tuple.fromValues, if_pos stands.length_eq]
  exact stands.readValues distinct

/-- Reading stops at the leftmost value that is refused. -/
theorem readValues_unreadable (first : FirstUnreadable heap types values error)
    (distinct : ∀ type ∈ types, type.IsDistinct) (housed : ∀ value ∈ values, value.IsHoused heap) :
    Tuple.readValues types values heap = .error error := by
  induction first with
  | here refused =>
    simp only [Tuple.readValues, List.headD_cons, refused.fromValue, bind, Except.bind]
  | @later type _ value _ _ readable _ ih =>
    have rest := ih (fun type among => distinct type (List.mem_cons_of_mem _ among))
      (fun value among => housed value (List.mem_cons_of_mem _ among))
    obtain ⟨carried, stands⟩ | ⟨fault, refused⟩ :=
      type.stands_or_refuses (housed value List.mem_cons_self)
    · have read := stands.fromValue (distinct type List.mem_cons_self)
      simp only [Tuple.readValues, List.headD_cons, List.tail_cons, read, rest, bind, Except.bind]
    · exact absurd refused (readable fault)

/-- Every value can be read at its place. -/
def Readable (heap : Heap κ) (types : List (MarshalType κ)) (values : List (Value κ)) : Prop :=
  List.Forall₂ (fun type value => ∀ fault, ¬ MarshalType.Refuses heap type value fault) types values

theorem Stands.readable {tuple : Tuple types} (stands : Tuple.Stands heap types tuple values)
    (distinct : ∀ type ∈ types, type.IsDistinct) : Readable heap types values := by
  induction stands with
  | nil => exact .nil
  | cons here _ ih =>
    exact .cons (here.readable (distinct _ List.mem_cons_self))
      (ih fun type among => distinct type (List.mem_cons_of_mem _ among))

/-- As many values as there are types stand for a tuple, or one of them is the leftmost that is
refused. -/
theorem stands_or_unreadable (same : values.length = types.length)
    (distinct : ∀ type ∈ types, type.IsDistinct) (housed : ∀ value ∈ values, value.IsHoused heap) :
    (∃ tuple, Tuple.Stands heap types tuple values) ∨
      ∃ error, FirstUnreadable heap types values error := by
  induction types generalizing values with
  | nil =>
    cases values with
    | nil => exact .inl ⟨(), .nil⟩
    | cons => cases same
  | cons type types ih =>
    cases values with
    | nil => cases same
    | cons value values =>
      obtain ⟨carried, here⟩ | ⟨error, refused⟩ :=
        type.stands_or_refuses (housed value List.mem_cons_self)
      · have readable := here.readable (distinct type List.mem_cons_self)
        obtain ⟨tuple, later⟩ | ⟨error, rest⟩ := ih (Nat.succ.inj same)
          (fun type among => distinct type (List.mem_cons_of_mem _ among))
          (fun value among => housed value (List.mem_cons_of_mem _ among))
        · exact .inl ⟨(carried, tuple), .cons here later⟩
        · exact .inr ⟨error, .later readable rest⟩
      · exact .inr ⟨error, .here refused⟩

theorem Refuses.fromValues (refused : Tuple.Refuses heap types values error)
    (distinct : ∀ type ∈ types, type.IsDistinct) (housed : ∀ value ∈ values, value.IsHoused heap) :
    Tuple.fromValues types values heap = .error error := by
  cases refused with
  | arity differ => rw [Tuple.fromValues, if_neg differ]
  | element same first =>
    rw [Tuple.fromValues, if_pos same]
    exact readValues_unreadable first distinct housed

/-- A list of values either stands for a tuple or is refused. -/
theorem stands_or_refuses (distinct : ∀ type ∈ types, type.IsDistinct)
    (housed : ∀ value ∈ values, value.IsHoused heap) :
    (∃ tuple, Tuple.Stands heap types tuple values) ∨
      ∃ error, Tuple.Refuses heap types values error := by
  by_cases same : values.length = types.length
  · obtain stands | ⟨error, first⟩ := stands_or_unreadable same distinct housed
    · exact .inl stands
    · exact .inr ⟨error, .element same first⟩
  · exact .inr ⟨_, .arity same⟩

/-- A list of values is read as a tuple exactly if the values stand for it. -/
theorem fromValues_eq_ok_iff {tuple : Tuple types} (distinct : ∀ type ∈ types, type.IsDistinct)
    (housed : ∀ value ∈ values, value.IsHoused heap) :
    Tuple.fromValues types values heap = .ok tuple ↔ Tuple.Stands heap types tuple values := by
  constructor
  · intro read
    obtain ⟨other, stands⟩ | ⟨error, refused⟩ := stands_or_refuses distinct housed
    · cases read.symm.trans (stands.fromValues distinct)
      exact stands
    · cases read.symm.trans (refused.fromValues distinct housed)
  · exact fun stands => stands.fromValues distinct

/-- Reading a list of values fails exactly if it is refused, and with this error. -/
theorem fromValues_eq_error_iff (distinct : ∀ type ∈ types, type.IsDistinct)
    (housed : ∀ value ∈ values, value.IsHoused heap) :
    Tuple.fromValues types values heap = .error error ↔ Tuple.Refuses heap types values error := by
  constructor
  · intro failed
    obtain ⟨tuple, stands⟩ | ⟨other, refused⟩ := stands_or_refuses distinct housed
    · cases failed.symm.trans (stands.fromValues distinct)
    · cases failed.symm.trans (refused.fromValues distinct housed)
      exact refused
  · exact fun refused => refused.fromValues distinct housed

/-- No value is refused for the number of values. -/
theorem FirstUnreadable.ne_arity (first : FirstUnreadable heap types values error)
    (expected got : Nat) : error ≠ .arityMismatch expected got := by
  induction first with
  | here refused => cases refused <;> simp
  | later _ _ ih => exact ih

theorem FirstUnreadable.not_readable (first : FirstUnreadable heap types values error) :
    ¬ Readable heap types values := by
  induction first with
  | here refused =>
    intro readable
    cases readable with
    | cons here _ => exact here _ refused
  | later _ _ ih =>
    intro readable
    cases readable with
    | cons _ rest => exact ih rest

end Tuple

/-- A tuple that is turned into values is read back from them: its shared instances are the same
ones, and its copied ones are new instances, of which what is read back has nothing but the state, so
that turning it into values again makes other instances.  Any list of values is refused with the
error of its length just if this is wrong, and else with the error of its leftmost value of another
type, of another class, with an unknown discriminant or with an instance that somebody writes to; if
there is no such value, the values are read as the tuple that they stand for. -/
theorem tuples_exchanged {types : List (MarshalType κ)}
    (distinct : ∀ type ∈ types, type.IsDistinct) :
    (∀ (tuple : Tuple types) (heap : Heap κ), ∃ values after,
      Tuple.intoValues types tuple heap = (values, after) ∧
      Tuple.Passed heap types tuple values after ∧
      Tuple.fromValues types values after = .ok tuple ∧
      ∀ later : Heap κ, after.cells.size ≤ later.cells.size →
        ∀ cell ∈ (Tuple.intoValues types tuple later).1.filterMap Value.copy?,
          cell ∉ values.filterMap Value.copy?) ∧
    ∀ (values : List (Value κ)) (heap : Heap κ), (∀ value ∈ values, value.IsHoused heap) →
      ((∃ expected got, Tuple.fromValues types values heap =
        .error (.arityMismatch expected got)) ↔ values.length ≠ types.length) ∧
      (∀ error, Tuple.fromValues types values heap = .error error ↔
        Tuple.Refuses heap types values error) ∧
      ((∃ tuple, Tuple.fromValues types values heap = .ok tuple) ↔
        Tuple.Readable heap types values) ∧
      ∀ tuple, Tuple.fromValues types values heap = .ok tuple ↔
        Tuple.Stands heap types tuple values := by
  constructor
  · intro tuple heap
    have passed := Tuple.intoValues_passed types tuple heap
    refine ⟨_, _, rfl, passed, passed.stands.fromValues distinct, ?_⟩
    intro later grown cell again before
    have inside := passed.stands.copy_lt before
    have outside := (Tuple.intoValues_passed types tuple later).new cell again
    omega
  · intro values heap housed
    have refused_iff (error : MarshalError) : Tuple.fromValues types values heap = .error error ↔
        Tuple.Refuses heap types values error := Tuple.fromValues_eq_error_iff distinct housed
    refine ⟨?_, refused_iff, ?_, fun tuple => Tuple.fromValues_eq_ok_iff distinct housed⟩
    · constructor
      · rintro ⟨expected, got, failed⟩
        cases (refused_iff _).mp failed with
        | arity differ => exact differ
        | element _ first => exact absurd rfl (first.ne_arity expected got)
      · intro differ
        exact ⟨_, _, (refused_iff _).mpr (.arity differ)⟩
    · constructor
      · rintro ⟨tuple, read⟩
        exact ((Tuple.fromValues_eq_ok_iff distinct housed).mp read).readable distinct
      · intro readable
        obtain ⟨tuple, stands⟩ | ⟨error, refused⟩ := Tuple.stands_or_refuses distinct housed
        · exact ⟨tuple, stands.fromValues distinct⟩
        · cases refused with
          | arity differ => exact absurd readable.length_eq.symm differ
          | element _ first => exact absurd readable first.not_readable

namespace Workbench

/-- The class of the instances that are handed on. -/
def relayedKey : Key := .widget .testClass

/-- The parameters of a function that hands on a number, a level, an instance and a copy. -/
def relayTypes : List (MarshalType Key) :=
  [.integer .i32, .enumeration level, .shared relayedKey, .copied relayedKey]

/-- Arguments for it: a number, the last level, the instance that there is, and a state. -/
def relayTuple : Tuple relayTypes :=
  ((7 : Int32), Fin.last 2, ⟨0⟩, Widget.default, ())

/-- One instance, which somebody writes to. -/
def relayHeap : Heap Key := ⟨#[⟨relayedKey, Widget.default, .exclusive⟩], #[]⟩

/-- Values with an unknown level, and with the instance in place of a copy behind it. -/
def relayValues : List (Value Key) :=
  [.integer .i32 7, .integer .u8 4, .object ⟨0, ⟨relayedKey, .reference⟩⟩,
    .object ⟨0, ⟨relayedKey, .value⟩⟩]

/-- The arguments come back, the shared instance though it is held; of two bad values the left one
is reported. -/
theorem relay_exchanged :
    (∀ type ∈ relayTypes, type.IsDistinct) ∧
    (∃ values after, Tuple.intoValues relayTypes relayTuple relayHeap = (values, after) ∧
      Tuple.Passed relayHeap relayTypes relayTuple values after ∧
      Tuple.fromValues relayTypes values after = .ok relayTuple) ∧
    (∀ value ∈ relayValues, value.IsHoused relayHeap) ∧
    Tuple.Refuses relayHeap relayTypes relayValues (.invalidEnum "Level" 4) ∧
    ¬ Tuple.Readable relayHeap relayTypes relayValues := by
  have distinct : ∀ type ∈ relayTypes, type.IsDistinct := by
    have levels : level.discriminants.Nodup := by decide
    simp [relayTypes, MarshalType.IsDistinct, levels]
  have housed : ∀ value ∈ relayValues, value.IsHoused relayHeap := by
    simp [relayValues, relayHeap, Value.IsHoused]
  have law := tuples_exchanged distinct
  obtain ⟨values, after, turned, passed, read, -⟩ := law.1 relayTuple relayHeap
  obtain ⟨-, refused_iff, readable_iff, -⟩ := law.2 relayValues relayHeap housed
  have failed : Tuple.fromValues relayTypes relayValues relayHeap =
      .error (.invalidEnum "Level" 4) := rfl
  refine ⟨distinct, ⟨values, after, turned, passed, read⟩, housed, (refused_iff _).mp failed, ?_⟩
  intro readable
  obtain ⟨tuple, taken⟩ := readable_iff.mpr readable
  cases failed.symm.trans taken

end Workbench

end NativeBridge
