/-
Module: NativeBridge.Proofs.ReturnedTexts
Purpose: What a closure that returns a text leaves in native memory, and with whom it stays.
Main exports: ReturnedText, ClosureCall.text?, ClosureCall.returned?, ClosureCall.text_comes,
  ClosureCall.after_cases, ClosureCall.after_returned, World.Keeps, World.Retains
-/
import NativeBridge.Proofs.ClosureAddresses
import NativeBridge.Proofs.PlainValues
import NativeBridge.Proofs.RunGrowth

namespace NativeBridge

variable {κ : Type} [HostProgram κ]

/-!
A text that host code returns is copied to new memory, and the closure keeps a note of where.
Native code gets the address.  It may hold on to it as long as it likes, so whatever happens later
has to leave both the bytes and the note.
-/

/-- A text that a closure has returned, and the address that native code got for it. -/
structure ReturnedText where
  closure : UInt64
  pointer : UInt64
  text : String
deriving Repr, Inhabited, DecidableEq

namespace ReturnedText

/-- The bytes of the text, without terminator. -/
def bytes (one : ReturnedText) : List UInt8 :=
  Text.Utf8.encode one.text

/-- A place that one of the bytes is at, or the terminator. -/
def Covers (one : ReturnedText) (place : Nat) : Prop :=
  one.pointer.toNat ≤ place ∧ place ≤ one.pointer.toNat + one.bytes.length

end ReturnedText

/-! ### Where a text stays -/

/-- No memory is taken back, and some texts are left as they are. -/
structure Memory.Spares (texts : List ReturnedText) (before after : Memory) : Prop where
  size : before.size ≤ after.size
  read : ∀ one ∈ texts, ∀ place, one.Covers place → after.read place = before.read place

theorem Memory.Spares.holds {texts : List ReturnedText} {before after : Memory}
    (spares : before.Spares texts after) {one : ReturnedText} (among : one ∈ texts)
    (holds : before.HoldsCString one.pointer one.bytes) :
    after.HoldsCString one.pointer one.bytes := by
  have size := spares.size
  have upper := holds.upper
  refine ⟨holds.lower, by omega, ?_⟩
  intro index byte found
  have inside : index < (one.bytes ++ [0]).length := (List.getElem?_eq_some_iff.mp found).1
  rw [List.length_append, List.length_singleton] at inside
  rw [spares.read one among _ ⟨by omega, by omega⟩]
  exact holds.written index byte found

namespace World

/-- A text can still be read where native code was told, and its closure has kept the note of it. -/
structure Keeps (world : World κ) (one : ReturnedText) : Prop where
  clean : '\x00' ∉ one.text.toList
  holds : world.memory.HoldsCString one.pointer one.bytes
  noted : ∃ closure, world.closureAt? one.closure = some closure ∧ one.pointer ∈ closure.returned

/-- What stands at an address as a closure. -/
theorem closureAt?_iff {world : World κ} {address : UInt64} {closure : Closure κ} :
    world.closureAt? address = some closure ↔
      ∃ index, codeIndex? address = some index ∧ world.code[index]? = some (.closure closure) := by
  unfold closureAt? codeAt?
  cases codeIndex? address with
  | none => simp
  | some index =>
    cases found : world.code[index]? with
    | none => simp [found]
    | some code => cases code <;> simp [found]

/-- A text that is kept is read in full. -/
theorem Keeps.cString_eq {world : World κ} {one : ReturnedText} (keeps : world.Keeps one) :
    world.memory.cString one.pointer = one.bytes :=
  keeps.holds.cString_eq fun zero => keeps.clean ((Text.Utf8.zero_mem_encode one.text).mp zero)

/-- Every closure stands where it stood, with its notes and perhaps more. -/
def KeepsNotes (before after : World κ) : Prop :=
  ∀ (index : Nat) (closure : Closure κ), before.code[index]? = some (.closure closure) →
    ∃ more, after.code[index]? =
      some (.closure { closure with returned := more ++ closure.returned })

namespace KeepsNotes

variable {before middle after : World κ}

theorem of_same (code : after.code = before.code) : before.KeepsNotes after := by
  intro index closure there
  exact ⟨[], by simpa [code] using there⟩

theorem trans (one : before.KeepsNotes middle) (two : middle.KeepsNotes after) :
    before.KeepsNotes after := by
  intro index closure there
  obtain ⟨more, moved⟩ := one index closure there
  obtain ⟨last, moved'⟩ := two index _ moved
  exact ⟨last ++ more, by simpa using moved'⟩

/-- Noting a text leaves all notes that there are. -/
theorem noteReturned (world : World κ) (closure text : UInt64) :
    world.KeepsNotes (world.noteReturned closure text) := by
  unfold World.noteReturned
  cases codeIndex? closure with
  | none => exact of_same rfl
  | some noted =>
    intro index found there
    by_cases same : noted = index
    · exact ⟨[text], by simp [Array.getElem?_modify, same, there]⟩
    · exact ⟨[], by simp [Array.getElem?_modify, same, there]⟩

/-- New code is put behind all that there is. -/
theorem addCode (world : World κ) (code : NativeCode κ) :
    world.KeepsNotes (world.addCode code).2 := by
  intro index closure there
  have inside := (Array.getElem?_eq_some_iff.mp there).1
  have moved : (world.code.push code)[index]? = some (.closure closure) := by
    rw [Array.getElem?_push_lt inside, ← there, Array.getElem?_eq_getElem inside]
  exact ⟨[], by simpa [World.addCode] using moved⟩

end KeepsNotes

/-- A change of the process that takes no memory back, and leaves some texts where they are and
every closure with its notes. -/
structure Retains (texts : List ReturnedText) (before after : World κ) : Prop where
  size : before.memory.size ≤ after.memory.size
  memory : ∀ one ∈ texts, before.memory.HoldsCString one.pointer one.bytes →
    after.memory.HoldsCString one.pointer one.bytes
  notes : before.KeepsNotes after

namespace Retains

variable {texts : List ReturnedText} {before middle after : World κ}

/-- Handing out more memory leaves all texts. -/
theorem of_extends (grown : before.memory.Extends after.memory) (notes : before.KeepsNotes after) :
    before.Retains texts after :=
  ⟨grown.size, fun _ _ holds => holds.extend grown, notes⟩

theorem of_spares (spares : before.memory.Spares texts after.memory)
    (notes : before.KeepsNotes after) : before.Retains texts after :=
  ⟨spares.size, fun _ among holds => spares.holds among holds, notes⟩

theorem of_same (memory : after.memory = before.memory) (code : after.code = before.code) :
    before.Retains texts after :=
  of_extends (by rw [memory]; exact .refl _) (.of_same code)

theorem trans (one : before.Retains texts middle) (two : middle.Retains texts after) :
    before.Retains texts after :=
  ⟨Nat.le_trans one.size two.size,
    fun text among holds => two.memory text among (one.memory text among holds),
    one.notes.trans two.notes⟩

theorem keeps (retains : before.Retains texts after) {one : ReturnedText} (among : one ∈ texts)
    (kept : before.Keeps one) : after.Keeps one := by
  refine ⟨kept.clean, retains.memory one among kept.holds, ?_⟩
  obtain ⟨closure, found, noted⟩ := kept.noted
  obtain ⟨index, place, there⟩ := closureAt?_iff.mp found
  obtain ⟨more, moved⟩ := retains.notes index closure there
  exact ⟨_, closureAt?_iff.mpr ⟨index, place, moved⟩, List.mem_append_right more noted⟩

end Retains

/-- A text is noted with the closure that returns it. -/
theorem noteReturned_noted {world : World κ} {address : UInt64} {closure : Closure κ}
    (found : world.closureAt? address = some closure) (text : UInt64) :
    ∃ noted, (world.noteReturned address text).closureAt? address = some noted ∧
      text ∈ noted.returned := by
  obtain ⟨index, place, there⟩ := closureAt?_iff.mp found
  refine ⟨{ closure with returned := text :: closure.returned }, ?_, List.mem_cons_self⟩
  apply closureAt?_iff.mpr
  refine ⟨index, place, ?_⟩
  rw [World.noteReturned, place]
  simp [Array.getElem?_modify, there]

end World

/-! ### What is returned -/

/-- The text that a value goes to native code as, at a result type. -/
def Value.textAs? (value : Value κ) (type : HostType κ) (heap : Heap κ) : Option String :=
  match type, value with
  | .string, .string text => some text
  | .stringBuffer, .stringBuffer buffer => some (heap.text buffer)
  | _, _ => none

namespace Closure

variable {closure : Closure κ} {value : Value κ} {world : World κ}

/-- A text is copied and noted, unless it has a NUL in it. -/
theorem give_text {text : String}
    (found : value.textAs? closure.plan.result.type world.heap = some text) (address : UInt64) :
    closure.give address value world =
      match cBytes text with
      | .error error => (.error error, world)
      | .ok bytes =>
          (.ok (.pointer (world.allocateCString bytes).1),
            (world.allocateCString bytes).2.noteReturned address
              (world.allocateCString bytes).1) := by
  revert found
  unfold give Value.textAs?
  cases closure.plan.result.type with
  | string =>
    cases value with
    | string own =>
      rintro ⟨⟩
      rfl
    | _ => rintro ⟨⟩
  | stringBuffer =>
    cases value with
    | stringBuffer buffer =>
      rintro ⟨⟩
      rfl
    | _ => rintro ⟨⟩
  | _ => rintro ⟨⟩

/-- Where no text is returned nothing is copied. -/
theorem give_textless (textless : value.textAs? closure.plan.result.type world.heap = none)
    (address : UInt64) :
    (closure.give address value world).2.memory = world.memory ∧
      (closure.give address value world).2.code = world.code := by
  unfold give
  cases type : closure.plan.result.type with
  | string =>
    cases value with
    | string text => simp [Value.textAs?, type] at textless
    | _ => exact ⟨rfl, rfl⟩
  | stringBuffer =>
    cases value with
    | stringBuffer buffer => simp [Value.textAs?, type] at textless
    | _ => exact ⟨rfl, rfl⟩
  | object class_ =>
    cases value with
    | object object =>
      dsimp only
      cases object.expectType class_ with
      | error error => exact ⟨rfl, rfl⟩
      | ok expected => cases closure.registry <;> exact ⟨rfl, rfl⟩
    | _ => exact ⟨rfl, rfl⟩
  | _ => exact ⟨rfl, rfl⟩

end Closure

namespace ClosureCall

/-- The text that the host code of a call has returned. -/
def text? (call : ClosureCall κ) : Option String :=
  match call.inside with
  | some (.returned (.ok value), left) => value.textAs? call.closure.plan.result.type left.heap
  | _ => none

/-- The text that a call returns to native code, with its address. -/
def returned? (call : ClosureCall κ) : Option ReturnedText :=
  match call.text?, call.outcome with
  | some text, .returned (.ok (.pointer pointer)) => some ⟨call.address, pointer, text⟩
  | _, _ => none

/-- What native code gets from a call. -/
def answer (call : ClosureCall κ) : RawValue :=
  (call.closure.enter (enterAt call.depth) call.address call.sent call.world).1

/-- The process when the host code of a call has ended and its text buffers are written back. -/
def written (call : ClosureCall κ) : World κ :=
  match call.accepted, call.inside with
  | .ok (_, writeBacks, _), some (.returned _, left) => applyWriteBacks writeBacks left
  | _, _ => call.left

/-- Buffers are written back if host code was run and did not panic. -/
theorem written_cases (call : ClosureCall κ) :
    (call.written = call.left ∧ ∀ result left, call.inside ≠ some (.returned result, left)) ∨
    ∃ args writeBacks heap, call.accepted = .ok (args, writeBacks, heap) ∧
      (∃ result left, call.inside = some (.returned result, left)) ∧
      call.written = applyWriteBacks writeBacks call.left := by
  cases accepted : call.accepted with
  | error error => simp [written, inside, accepted]
  | ok decoded =>
    obtain ⟨args, writeBacks, heap⟩ := decoded
    cases ran : call.inside with
    | none => simp [written, accepted, ran]
    | some ended =>
      obtain ⟨outcome, left⟩ := ended
      cases outcome with
      | panicked message => simp [written, accepted, ran]
      | returned result =>
        right
        exact ⟨args, writeBacks, heap, rfl, ⟨result, left, rfl⟩,
          by simp [written, ClosureCall.left, accepted, ran]⟩

theorem written_same (call : ClosureCall κ) :
    call.written.memory.size = call.left.memory.size ∧ call.written.code = call.left.code ∧
      call.written.heap = call.left.heap := by
  obtain ⟨same, -⟩ | ⟨args, writeBacks, heap, -, -, written⟩ := call.written_cases
  · rw [same]
    simp
  · rw [written]
    exact ⟨applyWriteBacks_size writeBacks call.left, rfl, rfl⟩

/-- After the text buffers a value is encoded, if there is one. -/
theorem dispatched_written (call : ClosureCall κ) :
    match call.inside with
    | some (.returned (.ok value), _) =>
        call.dispatched =
          (.returned (call.closure.give call.address value call.written).1,
            (call.closure.give call.address value call.written).2)
    | _ => (∀ raw, call.outcome ≠ .returned (.ok raw)) ∧ call.dispatched.2 = call.written := by
  rw [outcome, dispatched_eq, written, left]
  cases accepted : call.accepted with
  | error error => simp [inside, accepted]
  | ok decoded =>
    rcases decoded with ⟨args, writeBacks, heap⟩
    simp only [inside, accepted]
    rcases call.closure.handler.run (enterAt call.depth) args
      { call.world with heap := heap } with ⟨outcome, left⟩
    cases outcome with
    | panicked message => simp [finish]
    | returned result => cases result <;> simp [finish]

/-- What comes of a call whose host code has returned a text: a NUL in it is an error, and any other
text is copied to new memory and noted. -/
theorem text_dispatched {call : ClosureCall κ} {text : String} (returns : call.text? = some text) :
    ('\x00' ∈ text.toList ∧
      call.dispatched = (.returned (.error MarshalError.interiorNul), call.written)) ∨
    ('\x00' ∉ text.toList ∧
      let copied := call.written.allocateCString (Text.Utf8.encode text)
      call.dispatched = (.returned (.ok (.pointer copied.1)),
        copied.2.noteReturned call.address copied.1)) := by
  have dispatched := call.dispatched_written
  obtain ⟨-, -, heap⟩ := call.written_same
  unfold text? at returns
  split at returns
  next value left ran =>
    have last : call.left = left := by rw [ClosureCall.left, ran]; rfl
    rw [← last, ← heap] at returns
    rw [ran] at dispatched
    dsimp only at dispatched
    rw [Closure.give_text returns] at dispatched
    by_cases nul : '\x00' ∈ text.toList
    · rw [cBytes_nul nul] at dispatched
      exact .inl ⟨nul, dispatched⟩
    · rw [cBytes_ok nul] at dispatched
      exact .inr ⟨nul, dispatched⟩
  next => cases returns

/-- Nothing is copied or noted where no text is returned. -/
theorem textless_dispatched {call : ClosureCall κ} (textless : call.text? = none) :
    call.dispatched.2.memory = call.written.memory ∧
      call.dispatched.2.code = call.written.code := by
  have dispatched := call.dispatched_written
  obtain ⟨-, -, heap⟩ := call.written_same
  unfold text? at textless
  split at textless
  next value left ran =>
    have last : call.left = left := by rw [ClosureCall.left, ran]; rfl
    rw [← last, ← heap] at textless
    rw [ran] at dispatched
    dsimp only at dispatched
    rw [dispatched]
    exact Closure.give_textless textless call.address
  next other =>
    split at dispatched
    next value left ran => exact absurd ran (other value left)
    next => rw [dispatched.2]; exact ⟨rfl, rfl⟩

theorem answer_error {call : ClosureCall κ} {error : Error}
    (failed : call.outcome = .returned (.error error)) :
    call.answer = .zero call.closure.type.signature.result.abi ∧ call.fault? = some error := by
  refine ⟨?_, by rw [fault?, failed]⟩
  unfold answer Closure.enter
  unfold outcome dispatched args at failed
  dsimp only
  split <;> simp_all

theorem answer_pointer {call : ClosureCall κ} {pointer : UInt64}
    (came : call.outcome = .returned (.ok (.pointer pointer)))
    (agrees : call.closure.type.signature.result.abi = .pointer) :
    call.answer = .pointer pointer ∧ call.fault? = none := by
  have abi : (RawValue.pointer pointer).abi = .pointer := rfl
  refine ⟨?_, by rw [fault?, came, agrees]; simp [abi]⟩
  unfold answer Closure.enter
  unfold outcome dispatched args at came
  dsimp only
  split <;> simp_all

/-- Native code gets the address of a text that host code has returned.  A text with a NUL in it is
a fault instead, and native code gets a zero. -/
theorem text_comes {call : ClosureCall κ} {text : String} (returns : call.text? = some text) :
    ('\x00' ∈ text.toList →
      call.outcome = .returned (.error MarshalError.interiorNul) ∧
      call.fault? = some (.marshal .interiorNul) ∧
      call.answer = .zero call.closure.type.signature.result.abi ∧ call.returned? = none) ∧
    ('\x00' ∉ text.toList →
      ∃ pointer, call.outcome = .returned (.ok (.pointer pointer)) ∧
        call.returned? = some ⟨call.address, pointer, text⟩ ∧
        (call.closure.type.signature.result.abi = .pointer →
          call.answer = .pointer pointer ∧ call.fault? = none)) := by
  obtain ⟨nul, dispatched⟩ | ⟨clean, dispatched⟩ := text_dispatched returns
  · have failed : call.outcome = .returned (.error MarshalError.interiorNul) := by
      rw [outcome, dispatched]
    obtain ⟨answer, fault⟩ := answer_error failed
    refine ⟨fun _ => ⟨failed, fault, answer, ?_⟩, fun clean => absurd nul clean⟩
    rw [returned?, returns, failed]
  · have came : call.outcome = .returned (.ok (.pointer
        (call.written.allocateCString (Text.Utf8.encode text)).1)) := by
      rw [outcome, dispatched]
    refine ⟨fun nul => absurd nul clean, fun _ => ⟨_, came, ?_, answer_pointer came⟩⟩
    rw [returned?, returns, came]

/-- The process after a call, as far as texts are concerned. -/
theorem after_cases (call : ClosureCall κ) :
    (call.returned? = none ∧ call.after.memory = call.written.memory ∧
      call.after.code = call.written.code) ∨
    ∃ text, '\x00' ∉ text.toList ∧
      let copied := call.written.allocateCString (Text.Utf8.encode text)
      call.returned? = some ⟨call.address, copied.1, text⟩ ∧
      call.after.memory = copied.2.memory ∧
      call.after.code = (copied.2.noteReturned call.address copied.1).code := by
  obtain ⟨-, memory, code⟩ := call.after_same
  rw [memory, code]
  cases returns : call.text? with
  | none =>
    left
    refine ⟨?_, textless_dispatched returns⟩
    rw [returned?, returns]
  | some text =>
    obtain ⟨nul, dispatched⟩ | ⟨clean, dispatched⟩ := text_dispatched returns
    · left
      have failed := ((text_comes returns).1 nul).2.2.2
      rw [dispatched]
      exact ⟨failed, rfl, rfl⟩
    · right
      refine ⟨text, clean, ?_, ?_, ?_⟩
      · rw [returned?, returns, outcome, dispatched]
      · rw [dispatched]
        unfold World.noteReturned
        split <;> rfl
      · rw [dispatched]

/-- What comes after the buffers is put behind what is handed out. -/
theorem written_extends (call : ClosureCall κ) :
    call.written.memory.Extends call.after.memory := by
  obtain ⟨-, memory, -⟩ | ⟨text, -, -, memory, -⟩ := call.after_cases
  · rw [memory]
    exact .refl _
  · rw [memory]
    exact call.written.memory.allocateCString_extends _

/-- After the text buffers a call puts no more than its text into memory, behind all that was handed
out, and notes it. -/
theorem after_returned (call : ClosureCall κ)
    (stands : ∃ closure, call.left.closureAt? call.address = some closure)
    (fits : call.after.memory.Fits) :
    (∀ texts, call.written.Retains texts call.after) ∧
      ∀ one, call.returned? = some one → call.after.Keeps one ∧
        one.pointer.toNat = Memory.base + call.written.memory.size := by
  obtain ⟨none, memory, code⟩ | ⟨text, clean, some, memory, code⟩ := call.after_cases
  · refine ⟨fun _ => .of_same memory code, ?_⟩
    intro one returned
    rw [none] at returned
    cases returned
  · let copied := call.written.allocateCString (Text.Utf8.encode text)
    rw [memory] at fits
    have notes : copied.2.KeepsNotes call.after :=
      (World.KeepsNotes.noteReturned copied.2 call.address copied.1).trans (.of_same code)
    refine ⟨fun _ => .of_extends call.written_extends ?_, ?_⟩
    · exact (World.KeepsNotes.of_same rfl : call.written.KeepsNotes copied.2).trans notes
    intro one returned
    rw [some] at returned
    obtain rfl := Option.some.inj returned
    refine ⟨⟨clean, by rw [memory]; exact Memory.allocateCString_holds fits, ?_⟩,
      Memory.allocateCString_toNat fits⟩
    obtain ⟨closure, found⟩ := stands
    have there : copied.2.closureAt? call.address = Option.some closure := by
      rw [World.closureAt?, World.codeAt?] at found ⊢
      rwa [← call.written_same.2.1] at found
    obtain ⟨other, place, among⟩ := World.noteReturned_noted there copied.1
    refine ⟨other, ?_, among⟩
    rw [World.closureAt?, World.codeAt?] at place ⊢
    rwa [code]

end ClosureCall

end NativeBridge
