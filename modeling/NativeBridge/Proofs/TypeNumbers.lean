/-
Module: NativeBridge.Proofs.TypeNumbers
Purpose: Callable types are numbered in the order in which their signatures are first asked for, and
  a type stands for one signature; what is refused leaves no trace.
Main exports: Signature.RefusedFor, Signature.fault_cases, TypeCache.Numbers, TypeCache.intern_cases,
  TypeRequest, World.askTypes, World.types_numbered
-/
import NativeBridge.Workbench.Classes
import NativeBridge.World
import Mathlib.Data.Finset.Card
import Mathlib.Data.List.Nodup

namespace NativeBridge

variable {κ : Type}

/-!
The signatures that were given a type are kept in the order in which they came, and the number of a
type is the place of its signature.  So numbers are never taken back, and as no signature is kept
twice, types with one number have one signature.  What counts is the whole signature: enumerations
with one name and different representations look alike in the text of a signature, and make
different signatures nevertheless.
-/

/-! ### Numbers -/

namespace CallableType

theorem sameType_iff {one other : CallableType κ} :
    one.sameType other = true ↔ one.id = other.id := beq_iff_eq

theorem name_eq_iff {one other : CallableType κ} : one.name = other.name ↔ one.id = other.id := by
  constructor
  · intro same
    have digits : Nat.toDigits 10 one.id = Nat.toDigits 10 other.id := by
      have texts : "callable" ++ Nat.repr one.id = "callable" ++ Nat.repr other.id := same
      exact String.ofList_inj.mp ((String.append_right_inj "callable").mp texts)
    have read (n : Nat) : Nat.ofDigitChars 10 (Nat.toDigits 10 n) 0 = n :=
      Nat.ofDigitChars_toDigits (by decide) (by decide)
    rw [← read one.id, digits, read]
  · intro same
    rw [name, name, same]

end CallableType

namespace TypeCache

/-- A type has the number of its signature, which is the place of that signature counted from
one. -/
def Numbers (cache : TypeCache κ) (type : CallableType κ) : Prop :=
  ∃ place, type.id = place + 1 ∧ cache.signatures[place]? = some type.signature

theorem Numbers.later {cache after : TypeCache κ} {type : CallableType κ}
    (numbered : cache.Numbers type) (grown : cache.signatures <+: after.signatures) :
    after.Numbers type := by
  obtain ⟨place, number, found⟩ := numbered
  obtain ⟨rest, whole⟩ := grown
  refine ⟨place, number, ?_⟩
  rw [← whole, List.getElem?_append_left (List.getElem?_eq_some_iff.mp found).1]
  exact found

/-- Where no signature is kept twice, a number belongs to one signature. -/
theorem Numbers.id_eq_iff {cache : TypeCache κ} (distinct : cache.signatures.Nodup)
    {one other : CallableType κ} (first : cache.Numbers one) (second : cache.Numbers other) :
    one.id = other.id ↔ one.signature = other.signature := by
  obtain ⟨place, number, found⟩ := first
  obtain ⟨otherPlace, otherNumber, otherFound⟩ := second
  rw [number, otherNumber, Nat.add_right_cancel_iff]
  constructor
  · rintro rfl
    exact Option.some.inj (found.symm.trans otherFound)
  · intro same
    have inside := (List.getElem?_eq_some_iff.mp found).1
    rw [same, ← otherFound] at found
    exact (List.getElem?_inj inside distinct).mp found

end TypeCache

variable [HostProgram κ]

/-! ### Signatures that have no type -/

/-- A type that a parameter can have where there are no handles. -/
def HostType.IsParameter (type : HostType κ) : Prop :=
  type ≠ .void ∧ type.passing = .direct

instance (type : HostType κ) : Decidable type.IsParameter :=
  inferInstanceAs (Decidable (_ ∧ _))

namespace Signature

/-- No parameter is void, and nothing in the signature is passed by handle. -/
def Valid (signature : Signature κ) : Prop :=
  (∀ type ∈ signature.parameters, type.IsParameter) ∧ signature.result.passing = .direct

instance (signature : Signature κ) : Decidable signature.Valid :=
  inferInstanceAs (Decidable (_ ∧ _))

/-- Why a signature has no type: the leftmost of its parameters that is void or a host object, and
its result only if there is no such parameter. -/
inductive RefusedFor (signature : Signature κ) : CallableError → Prop where
  | void {before after : List (HostType κ)}
      (parted : signature.parameters = before ++ .void :: after)
      (leftmost : ∀ type ∈ before, type.IsParameter) :
      RefusedFor signature (.voidParameter (parameterPosition before.length))
  | object {before after : List (HostType κ)} {type : ObjectType κ}
      (parted : signature.parameters = before ++ .object type :: after)
      (leftmost : ∀ type ∈ before, type.IsParameter) :
      RefusedFor signature (.opaqueSignature (parameterPosition before.length) type.name)
  | result {type : ObjectType κ} (given : signature.result = .object type)
      (plain : ∀ type ∈ signature.parameters, type.IsParameter) :
      RefusedFor signature (.opaqueSignature "return" type.name)

/-- Only void and host objects are no types of a parameter. -/
theorem parameterFault_eq_none_iff (index : Nat) (type : HostType κ) :
    parameterFault index type = none ↔ type.IsParameter := by
  cases type <;> simp [parameterFault, HostType.IsParameter, HostType.passing]

/-- The parameters have no fault, or it is that of the first one that is void or a host object. -/
theorem parametersFault_cases (index : Nat) (parameters : List (HostType κ)) :
    (parametersFault index parameters = none ∧ ∀ type ∈ parameters, type.IsParameter) ∨
    ∃ before type after, parameters = before ++ type :: after ∧
      (∀ type ∈ before, type.IsParameter) ∧ ¬ type.IsParameter ∧
      parametersFault index parameters = parameterFault (index + before.length) type := by
  induction parameters generalizing index with
  | nil => exact .inl ⟨rfl, List.forall_mem_nil _⟩
  | cons type rest ih =>
    cases fault : parameterFault index type with
    | some error =>
      refine .inr ⟨[], type, rest, rfl, List.forall_mem_nil _, ?_, ?_⟩
      · rw [← parameterFault_eq_none_iff index, fault]
        exact Option.some_ne_none error
      · rw [parametersFault, fault, Option.some_or]
        exact fault.symm
    | none =>
      have plain := (parameterFault_eq_none_iff index type).mp fault
      rw [parametersFault, fault, Option.none_or]
      obtain ⟨clean, all⟩ | ⟨before, faulty, after, rfl, plains, unfit, found⟩ := ih (index + 1)
      · exact .inl ⟨clean, List.forall_mem_cons.mpr ⟨plain, all⟩⟩
      · refine .inr ⟨type :: before, faulty, after, rfl, List.forall_mem_cons.mpr ⟨plain, plains⟩,
          unfit, ?_⟩
        rw [found, List.length_cons, Nat.add_right_comm, Nat.add_assoc]

/-- A signature is valid, or there is a reason why it is not. -/
theorem fault_cases (signature : Signature κ) :
    (signature.fault = none ∧ signature.Valid) ∨
      ∃ error, signature.fault = some error ∧ signature.RefusedFor error ∧ ¬ signature.Valid := by
  obtain ⟨clean, plain⟩ | ⟨before, type, after, parted, leftmost, unfit, found⟩ :=
    parametersFault_cases 0 signature.parameters
  · rw [fault, clean, Option.none_or]
    cases given : signature.result with
    | object type =>
      refine .inr ⟨_, rfl, .result given plain, fun valid => ?_⟩
      have direct := valid.2
      rw [given] at direct
      cases direct
    | _ =>
      refine .inl ⟨rfl, plain, ?_⟩
      rw [given]
      rfl
  · have invalid : ¬ signature.Valid := fun valid => unfit (valid.1 type (by simp [parted]))
    rw [Nat.zero_add] at found
    rw [fault, found]
    cases type with
    | void => exact .inr ⟨_, rfl, .void parted leftmost, invalid⟩
    | object type => exact .inr ⟨_, rfl, .object parted leftmost, invalid⟩
    | _ => exact absurd ((parameterFault_eq_none_iff 0 _).mp rfl) unfit

end Signature

/-! ### Asking for types -/

/-- What comes of asking for the type of a signature: a refusal, the type that there is, or a new
one. -/
theorem TypeCache.intern_cases (cache : TypeCache κ) (signature : Signature κ) :
    (∃ error, cache.intern signature = .error error ∧ signature.RefusedFor error ∧
      ¬ signature.Valid) ∨
    ∃ type after, cache.intern signature = .ok (type, after) ∧ signature.Valid ∧
      type.signature = signature ∧ after.Numbers type ∧
      after.signatures =
        if signature ∈ cache.signatures then cache.signatures
        else cache.signatures ++ [signature] := by
  obtain ⟨clean, valid⟩ | ⟨error, fault, refused, invalid⟩ := signature.fault_cases
  · refine .inr ?_
    rw [intern, clean]
    cases known : cache.signatures.idxOf? signature with
    | none =>
      have absent := List.idxOf?_eq_none_iff.mp known
      rw [find?, known, if_neg absent]
      exact ⟨_, _, rfl, valid, rfl, ⟨cache.size, rfl, List.getElem?_concat_length⟩, rfl⟩
    | some place =>
      obtain ⟨inside, found, -⟩ := List.idxOf?_eq_some_iff.mp known
      have there : signature ∈ cache.signatures := found ▸ List.getElem_mem inside
      rw [find?, known, if_pos there]
      exact ⟨_, _, rfl, valid, rfl,
        ⟨place, rfl, List.getElem?_eq_some_iff.mpr ⟨inside, found⟩⟩, rfl⟩
  · rw [intern, fault]
    exact .inl ⟨error, rfl, refused, invalid⟩

/-- A call that asks for a callable type. -/
inductive TypeRequest (κ : Type) where
  /-- Of a result and parameters. -/
  | ofHostTypes (result : HostType κ) (parameters : List (HostType κ))
  /-- Of a host function over marshal types. -/
  | ofMarshal (parameters : List (MarshalType κ)) (result : MarshalType κ)

/-- The signature whose type is asked for. -/
def TypeRequest.signature : TypeRequest κ → Signature κ
  | ofHostTypes result parameters => ⟨parameters, result⟩
  | ofMarshal parameters result => .ofMarshal parameters result

/-- The different valid signatures that are asked for, in the order in which each comes first. -/
def firstSignatures (requests : List (TypeRequest κ)) : List (Signature κ) :=
  ((requests.map TypeRequest.signature).filter fun signature => signature.Valid).eraseDups

theorem mem_firstSignatures {requests : List (TypeRequest κ)} {signature : Signature κ} :
    signature ∈ firstSignatures requests ↔
      signature.Valid ∧ ∃ request ∈ requests, request.signature = signature := by
  simp [firstSignatures, and_comm]

/-- More requests add what is valid among them and has not come before. -/
theorem firstSignatures_append (requests more : List (TypeRequest κ)) :
    firstSignatures (requests ++ more) = firstSignatures requests ++
      (((more.map TypeRequest.signature).filter fun signature => signature.Valid).removeAll
        ((requests.map TypeRequest.signature).filter fun signature => signature.Valid)).eraseDups := by
  rw [firstSignatures, List.map_append, List.filter_append, List.eraseDups_append]
  rfl

theorem firstSignatures_prefix (requests more : List (TypeRequest κ)) :
    firstSignatures requests <+: firstSignatures (requests ++ more) := by
  rw [firstSignatures_append]
  exact List.prefix_append _ _

theorem firstSignatures_invalid {request : TypeRequest κ} (invalid : ¬ request.signature.Valid)
    (requests : List (TypeRequest κ)) :
    firstSignatures (requests ++ [request]) = firstSignatures requests := by
  rw [firstSignatures_append]
  simp [invalid, List.removeAll]

theorem firstSignatures_valid {request : TypeRequest κ} (valid : request.signature.Valid)
    (requests : List (TypeRequest κ)) :
    firstSignatures (requests ++ [request]) =
      if request.signature ∈ firstSignatures requests then firstSignatures requests
      else firstSignatures requests ++ [request.signature] := by
  have added : ([request].map TypeRequest.signature).filter (fun signature => signature.Valid) =
      [request.signature] := by simp [valid]
  rw [firstSignatures_append, added, firstSignatures]
  generalize (requests.map TypeRequest.signature).filter (fun signature => signature.Valid) = before
  rw [List.removeAll]
  split
  · next known =>
    have among := List.mem_eraseDups.mp known
    rw [List.filter_cons_of_neg (by simpa using among)]
    exact List.append_nil _
  · next new =>
    have absent := fun among => new (List.mem_eraseDups.mpr among)
    rw [List.filter_cons_of_pos (by simpa using absent)]
    rfl

namespace World

/-- Ask for a callable type.  Where there is none nothing changes. -/
def askType (world : World κ) (request : TypeRequest κ) :
    Except CallableError (CallableType κ) × World κ :=
  match world.internType request.signature with
  | .ok (type, after) => (.ok type, after)
  | .error error => (.error error, world)

/-- Ask for callable types, one after the other. -/
def askTypes (world : World κ) :
    List (TypeRequest κ) → List (Except CallableError (CallableType κ)) × World κ
  | [] => ([], world)
  | request :: rest =>
      let (answer, world) := world.askType request
      let (answers, world) := world.askTypes rest
      (answer :: answers, world)

/-- Who asks is refused, for the reason that the signature has, and nothing changes; or gets the type
of the signature, which is kept. -/
theorem askType_cases (world : World κ) (request : TypeRequest κ) :
    (∃ error, world.askType request = (.error error, world) ∧
      request.signature.RefusedFor error ∧ ¬ request.signature.Valid) ∨
    ∃ type types, world.askType request = (.ok type, { world with types := types }) ∧
      request.signature.Valid ∧ type.signature = request.signature ∧ types.Numbers type ∧
      types.signatures =
        if request.signature ∈ world.types.signatures then world.types.signatures
        else world.types.signatures ++ [request.signature] := by
  rw [askType, internType]
  obtain ⟨error, refused, reason, invalid⟩ | ⟨type, types, given, valid, same, numbered, kept⟩ :=
    world.types.intern_cases request.signature
  · rw [refused]
    exact .inl ⟨error, rfl, reason, invalid⟩
  · rw [given]
    exact .inr ⟨type, types, rfl, valid, same, numbered, kept⟩

theorem askTypes_cons (world : World κ) (request : TypeRequest κ) (rest : List (TypeRequest κ)) :
    world.askTypes (request :: rest) =
      ((world.askType request).1 :: ((world.askType request).2.askTypes rest).1,
        ((world.askType request).2.askTypes rest).2) := rfl

theorem askTypes_append (world : World κ) (requests more : List (TypeRequest κ)) :
    world.askTypes (requests ++ more) =
      ((world.askTypes requests).1 ++ ((world.askTypes requests).2.askTypes more).1,
        ((world.askTypes requests).2.askTypes more).2) := by
  induction requests generalizing world with
  | nil => rfl
  | cons request rest ih =>
    rw [List.cons_append, askTypes_cons, ih, askTypes_cons]
    rfl

/-- Every request is answered as it is after the requests before it. -/
theorem askTypes_at {requests : List (TypeRequest κ)} {index : Nat} {request : TypeRequest κ}
    (asked : requests[index]? = some request) (world : World κ) :
    let before := (world.askTypes (requests.take index)).2
    (world.askTypes requests).1[index]? = some (before.askType request).1 ∧
      (world.askTypes (requests.take (index + 1))).2 = (before.askType request).2 := by
  induction requests generalizing world index with
  | nil => cases asked
  | cons first rest ih =>
    cases index with
    | zero =>
      cases asked
      exact ⟨rfl, rfl⟩
    | succ index =>
      have later : rest[index]? = some request := asked
      exact ih later (world.askType first).2

/-- The signatures that are kept are those that were asked for. -/
theorem askTypes_signatures {world : World κ} (fresh : world.types = .empty)
    (requests : List (TypeRequest κ)) :
    (world.askTypes requests).2.types.signatures = firstSignatures requests ∧
      (firstSignatures requests).Nodup := by
  induction requests using List.reverseRecOn with
  | nil =>
    rw [askTypes, fresh]
    exact ⟨rfl, List.nodup_nil⟩
  | append_singleton before request ih =>
    obtain ⟨kept, distinct⟩ := ih
    rw [askTypes_append]
    obtain ⟨error, refused, -, invalid⟩ | ⟨type, types, given, valid, -, -, grown⟩ :=
      (world.askTypes before).2.askType_cases request
    · rw [firstSignatures_invalid invalid, askTypes, refused]
      exact ⟨kept, distinct⟩
    · rw [firstSignatures_valid valid, askTypes, given]
      rw [kept] at grown
      refine ⟨grown, ?_⟩
      split
      · exact distinct
      · next new =>
        rw [List.nodup_append]
        refine ⟨distinct, List.nodup_singleton _, ?_⟩
        rintro one among other found rfl
        cases List.mem_singleton.mp found
        exact new among

theorem length_askTypes (world : World κ) (requests : List (TypeRequest κ)) :
    (world.askTypes requests).1.length = requests.length := by
  induction requests generalizing world with
  | nil => rfl
  | cons request rest ih => rw [askTypes_cons, List.length_cons, ih, List.length_cons]

section Fresh

variable {world : World κ} (fresh : world.types = .empty)

include fresh

theorem askTypes_grown (requests more : List (TypeRequest κ)) :
    (world.askTypes requests).2.types.signatures <+:
      (world.askTypes (requests ++ more)).2.types.signatures := by
  rw [(askTypes_signatures fresh _).1, (askTypes_signatures fresh _).1]
  exact firstSignatures_prefix requests more

/-- A type that is given has the number it gets then for ever. -/
theorem askTypes_numbers {requests : List (TypeRequest κ)} {index : Nat} {type : CallableType κ}
    (given : (world.askTypes requests).1[index]? = some (.ok type)) :
    (world.askTypes requests).2.types.Numbers type := by
  have inside : index < requests.length := by
    rw [← length_askTypes world]
    exact (List.getElem?_eq_some_iff.mp given).1
  obtain ⟨answered, left⟩ := askTypes_at (List.getElem?_eq_getElem inside) world
  rw [answered] at given
  have grown := askTypes_grown fresh (requests.take (index + 1)) (requests.drop (index + 1))
  rw [List.take_append_drop, left] at grown
  obtain ⟨error, refused, -, -⟩ | ⟨found, types, made, -, -, numbered, -⟩ :=
    (world.askTypes (requests.take index)).2.askType_cases requests[index]
  · rw [refused] at given
    cases given
  · rw [made] at given grown
    cases given
    exact numbered.later grown

/-- A request is answered with a refusal of its signature, which changes nothing, or with a type whose
number is the place of its signature. -/
theorem askTypes_answer {requests : List (TypeRequest κ)} {index : Nat} {request : TypeRequest κ}
    (asked : requests[index]? = some request) :
    (∃ error, (world.askTypes requests).1[index]? = some (.error error) ∧
      request.signature.RefusedFor error ∧ ¬ request.signature.Valid ∧
      (world.askTypes (requests.take (index + 1))).2 =
        (world.askTypes (requests.take index)).2) ∨
    ∃ type, (world.askTypes requests).1[index]? = some (.ok type) ∧
      request.signature.Valid ∧ type.signature = request.signature ∧
      ∃ place, (firstSignatures requests)[place]? = some request.signature ∧
        type.id = place + 1 := by
  obtain ⟨answered, left⟩ := askTypes_at asked world
  obtain ⟨error, refused, reason, invalid⟩ | ⟨type, types, made, valid, same, -, -⟩ :=
    (world.askTypes (requests.take index)).2.askType_cases request
  · rw [refused] at answered left
    exact .inl ⟨error, answered, reason, invalid, left⟩
  · rw [made] at answered
    obtain ⟨place, number, found⟩ := askTypes_numbers fresh answered
    rw [(askTypes_signatures fresh requests).1, same] at found
    exact .inr ⟨type, answered, valid, same, place, found, number⟩

/-- A signature that was asked for first is answered with its type. -/
theorem askTypes_first {requests : List (TypeRequest κ)} {place : Nat} {signature : Signature κ}
    (found : (firstSignatures requests)[place]? = some signature) :
    ∃ (index : Nat) (type : CallableType κ),
      (world.askTypes requests).1[index]? = some (.ok type) ∧ type.signature = signature ∧
        type.id = place + 1 := by
  have distinct := (askTypes_signatures fresh requests).2
  obtain ⟨valid, request, among, rfl⟩ := mem_firstSignatures.mp (List.mem_of_getElem? found)
  obtain ⟨index, asked⟩ := List.mem_iff_getElem?.mp among
  obtain ⟨error, -, -, invalid, -⟩ | ⟨type, answered, -, same, other, there, number⟩ :=
    askTypes_answer fresh asked
  · exact absurd valid invalid
  · have inside := (List.getElem?_eq_some_iff.mp there).1
    rw [(List.getElem?_inj inside distinct).mp (there.trans found.symm)] at number
    exact ⟨index, type, answered, same, number⟩

end Fresh

/-- Enumerations that differ only in their representation read alike. -/
theorem text_of_representation (before after : List (HostType κ)) (result : HostType κ)
    (name : String) {repr other : AbiType} (different : repr ≠ other) :
    let signature (repr : AbiType) : Signature κ :=
      ⟨before ++ .enumeration name repr :: after, result⟩
    (signature repr).text = (signature other).text ∧ signature repr ≠ signature other := by
  intro signature
  refine ⟨by simp [signature, Signature.text, HostType.name], ?_⟩
  intro same
  exact different (by simpa [signature] using same)

/-- Callable types in a process that has none yet, whatever is asked for and in whatever order.
Asking fails just for a signature that is not valid, for its leftmost parameter that is void or a
host object and else for its result, and then nothing changes.  Types are the same, and have the same
name, just if their signatures are equal, and it does not help that two signatures read alike.  There
is one type for each valid signature that was asked for, and the types are numbered from one in the
order in which their signatures came first. -/
theorem types_numbered (world : World κ) (fresh : world.types = .empty)
    (requests : List (TypeRequest κ)) :
    let answers := (world.askTypes requests).1
    let known := firstSignatures requests
    (∀ index request, requests[index]? = some request →
      ∃ answer, answers[index]? = some answer ∧
        ((∃ error, answer = .error error) ↔ ¬ request.signature.Valid) ∧
        (∀ error, answer = .error error → request.signature.RefusedFor error ∧
          (world.askTypes (requests.take (index + 1))).2 =
            (world.askTypes (requests.take index)).2) ∧
        ∀ type, answer = .ok type → type.signature = request.signature ∧
          ∃ place, known[place]? = some request.signature ∧ type.id = place + 1) ∧
    (∀ (one other : Nat) (type otherType : CallableType κ),
      answers[one]? = some (.ok type) → answers[other]? = some (.ok otherType) →
        (type.sameType otherType = true ↔ type.signature = otherType.signature) ∧
        (type.name = otherType.name ↔ type.signature = otherType.signature)) ∧
    (∀ (before after : List (HostType κ)) (result : HostType κ) (name : String)
      (repr other : AbiType), repr ≠ other →
        let signature (repr : AbiType) : Signature κ :=
          ⟨before ++ .enumeration name repr :: after, result⟩
        (signature repr).text = (signature other).text ∧ signature repr ≠ signature other) ∧
    (world.askTypes requests).2.types.size = known.toFinset.card ∧
    (∀ signature, signature ∈ known ↔
      signature.Valid ∧ ∃ request ∈ requests, request.signature = signature) ∧
    ∀ (place : Nat) (signature : Signature κ), known[place]? = some signature →
      ∃ (index : Nat) (type : CallableType κ), answers[index]? = some (.ok type) ∧
        type.signature = signature ∧ type.id = place + 1 := by
  intro answers known
  obtain ⟨kept, distinct⟩ := askTypes_signatures fresh requests
  refine ⟨?_, ?_, ?_, ?_, fun signature => mem_firstSignatures, ?_⟩
  · intro index request asked
    obtain ⟨error, answered, reason, invalid, left⟩ | ⟨type, answered, valid, same, numbered⟩ :=
      askTypes_answer fresh asked
    · refine ⟨.error error, answered, ⟨fun _ => invalid, fun _ => ⟨error, rfl⟩⟩, ?_, ?_⟩
      · rintro _ ⟨⟩
        exact ⟨reason, left⟩
      · rintro _ ⟨⟩
    · refine ⟨.ok type, answered, ⟨?_, fun invalid => absurd valid invalid⟩, ?_, ?_⟩
      · rintro ⟨_, ⟨⟩⟩
      · rintro _ ⟨⟩
      · rintro _ ⟨⟩
        exact ⟨same, numbered⟩
  · intro one other type otherType first second
    rw [CallableType.sameType_iff, CallableType.name_eq_iff, and_self]
    rw [← kept] at distinct
    exact TypeCache.Numbers.id_eq_iff distinct (askTypes_numbers fresh first)
      (askTypes_numbers fresh second)
  · intro before after result name repr other different
    exact text_of_representation before after result name different
  · rw [List.toFinset_card_of_nodup distinct, TypeCache.size, kept]
  · intro place signature found
    exact askTypes_first fresh found

end World

namespace Workbench

/-- An enumeration is asked for twice, and one of its name with another representation; in between a
void parameter is refused. -/
def modeRequests : List (TypeRequest Key) :=
  [.ofMarshal [.enumeration mode] .unit,
    .ofHostTypes .void [.char, .void, .object ⟨.shape, .reference⟩],
    .ofHostTypes .void [.enumeration mode.name (.integer .u8)],
    .ofHostTypes .void [.enumeration mode.name (.integer .i32)]]

/-- The two enumerations read alike and have types of their own. -/
theorem modes_numbered :
    ∃ one other : CallableType Key,
      ((World.initial Globals.initial).askTypes modeRequests).1 =
        [.ok one, .error (.voidParameter "parameter 1"), .ok other, .ok one] ∧
      one.signature.text = other.signature.text ∧ one.name ≠ other.name := by
  refine ⟨_, _, rfl, rfl, ?_⟩
  rw [Ne, ((World.types_numbered (World.initial Globals.initial) rfl modeRequests).2.1
    0 2 _ _ rfl rfl).2]
  decide

end Workbench

end NativeBridge
