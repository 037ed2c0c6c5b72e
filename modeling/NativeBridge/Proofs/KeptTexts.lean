/-
Module: NativeBridge.Proofs.KeptTexts
Purpose: The texts that closures have returned stay readable over every run, each at an address of
  its own.
Main exports: returnedTexts, Moment.NativeSpares, Moment.LeavesTexts, Retained,
  Code.trace_retained, enterTrace_retained, Deed.NativeSpares, Deed.SpareTexts, Session.texts_kept
-/
import NativeBridge.Proofs.Courses
import NativeBridge.Proofs.TextArguments

namespace NativeBridge

variable {σ κ : Type} [HostProgram κ]

/-!
Native code may keep the address of a text across any later calls, also across calls of the closure
that returned it, and while calls are still going on.  A text can only be lost if somebody writes
through its address: a native function, or the writing back of a text buffer that native code passed
over it and that host code has left with something else.  Everything else that a run does to memory
puts something where nothing was handed out.
-/

/-! ### Texts of a trace -/

/-- The text that native code gets after a moment. -/
def Moment.returns : Moment κ → Option ReturnedText
  | left call => call.returned?
  | working _ _ _ | entered _ | answered _ | outside _ _ => none

/-- The texts that were returned in a trace, in order. -/
def returnedTexts (trace : List (Moment κ)) : List ReturnedText :=
  trace.filterMap Moment.returns

theorem returnedTexts_append (trace more : List (Moment κ)) :
    returnedTexts (trace ++ more) = returnedTexts trace ++ returnedTexts more :=
  List.filterMap_append

theorem returnedTexts_silent (trace : List (Moment κ)) {moment : Moment κ}
    (silent : moment.returns = none) : returnedTexts (trace ++ [moment]) = returnedTexts trace := by
  rw [returnedTexts_append]
  simp [returnedTexts, silent]

/-! ### What is not done to texts -/

/-- A native function at an address does not write through the addresses of some texts, if it is
called now. -/
def World.NativeSpares (world : World κ) (texts : List ReturnedText) (address : UInt64)
    (raws : List RawValue) : Prop :=
  ∀ parameters run, world.codeAt? address = some (.foreign parameters run) →
    world.memory.Spares texts (run (deliver parameters raws) world.memory).2

/-- Raw arguments that a function can be called with. -/
def ForeignFunction.Takes (function : ForeignFunction κ) (raws : List RawValue) : Prop :=
  raws.length = function.type.signature.parameters.length ∧
    rawFault function.type.signature.parameters raws = none

namespace Code

/-- The function that host code is about to call, with which raw arguments, and the process then. -/
def nativeCall? : Code κ → World κ → Option (ForeignFunction κ × List RawValue × World κ)
  | .call function args _, world =>
      match function.encoded args world with
      | .returned (.ok (raws, _, memory)) =>
          some (function, raws, ForeignFunction.nativeStart world memory)
      | .returned (.error _) | .panicked _ => none
  | .callRaw function args _, world => some (function, args, world)
  | _, _ => none

/-- What host code is about to call does not write through the addresses of some texts. -/
def SparesTexts (code : Code κ) (texts : List ReturnedText) (world : World κ) : Prop :=
  ∀ function raws begun, code.nativeCall? world = some (function, raws, begun) →
    function.Takes raws → begun.NativeSpares texts function.address raws

end Code

/-- Host code that is about to do something else than call a native function. -/
theorem Code.sparesTexts_silent {code : Code κ} {world : World κ}
    (silent : code.nativeCall? world = none) (texts : List ReturnedText) :
    code.SparesTexts texts world := by
  intro function raws begun called
  rw [silent] at called
  cases called

/-- Host code does not have native code write through the address of a text that was returned before
a moment. -/
def Moment.NativeSpares (past : List (Moment κ)) : Moment κ → Prop
  | working code _ world => code.SparesTexts (returnedTexts past) world
  | entered _ | left _ | answered _ | outside _ _ => True

/-- Where native code has passed texts on that were returned before a moment, host code leaves in the
text buffers what was there. -/
def Moment.LeavesTexts (past : List (Moment κ)) : Moment κ → Prop
  | left call => call.LeavesTexts (returnedTexts past)
  | working _ _ _ | entered _ | answered _ | outside _ _ => True

/-- Nothing else is put where a text is that was returned before a moment, and memory has not run out
of addresses. -/
structure Moment.SparesTexts (past : List (Moment κ)) (moment : Moment κ) : Prop where
  native : moment.NativeSpares past
  leaves : moment.LeavesTexts past
  fits : moment.world.memory.Fits

/-! ### The invariant -/

/-- All texts that were returned are kept, now and at every moment since they were, and no two are
at one address.  Memory only grows, and a text lies above all memory that was handed out at a moment
before it. -/
structure Retained (past : List (Moment κ)) (world : World κ) : Prop where
  kept : ∀ one ∈ returnedTexts past, world.Keeps one
  apart : ((returnedTexts past).map ReturnedText.pointer).Nodup
  always : Throughout (fun before moment => ∀ one ∈ returnedTexts before, moment.world.Keeps one)
    past
  grown : ∀ moment ∈ past, moment.world.memory.size ≤ world.memory.size
  above : Throughout (fun before moment => ∀ one, moment.returns = some one →
    ∀ earlier ∈ before, Memory.base + earlier.world.memory.size ≤ one.pointer.toNat) past

namespace Retained

variable {past : List (Moment κ)} {world after : World κ}

theorem nil (world : World κ) : Retained [] world :=
  ⟨List.forall_mem_nil _, List.nodup_nil, .nil, List.forall_mem_nil _, .nil⟩

theorem retains (retained : Retained past world)
    (retains : world.Retains (returnedTexts past) after) : Retained past after :=
  ⟨fun one among => retains.keeps among (retained.kept one among), retained.apart, retained.always,
    fun moment among => Nat.le_trans (retained.grown moment among) retains.size, retained.above⟩

/-- A moment that returns nothing. -/
theorem note (moment : Moment κ) (retained : Retained past moment.world)
    (silent : moment.returns = none) : Retained (past ++ [moment]) moment.world := by
  have same := returnedTexts_silent past silent
  refine ⟨?_, ?_, retained.always.snoc retained.kept, ?_, retained.above.snoc ?_⟩
  · rw [same]
    exact retained.kept
  · rw [same]
    exact retained.apart
  · exact List.forall_mem_append.mpr
      ⟨retained.grown, List.forall_mem_singleton.mpr (Nat.le_refl _)⟩
  · intro one returns
    rw [silent] at returns
    cases returns

/-- A text was there when a call was made, or it has come since, and lies above what had been handed
out by then. -/
theorem origin {call : ClosureCall κ} {front inside : List (Moment κ)}
    (retained : Retained past world) (parted : past = front ++ .entered call :: inside) :
    ∀ one ∈ returnedTexts past, call.world.memory.HoldsCString one.pointer one.bytes ∨
      Memory.base + call.world.memory.size ≤ one.pointer.toNat := by
  intro one among
  rw [parted, returnedTexts_append] at among
  obtain before | since := List.mem_append.mp among
  · exact .inl (retained.always front (.entered call) inside parted one before).holds
  · obtain ⟨moment, found, returns⟩ := List.mem_filterMap.mp since
    obtain rfl | found := List.mem_cons.mp found
    · cases returns
    obtain ⟨early, late, rfl⟩ := List.append_of_mem found
    exact .inr (retained.above (front ++ .entered call :: early) moment late (by simp [parted]) one
      returns (.entered call) (by simp))

/-- A call ends, and its text has an address that no text before it has. -/
theorem leave {call : ClosureCall κ} {front inside : List (Moment κ)}
    (retained : Retained past call.left) (parted : past = front ++ .entered call :: inside)
    (stands : ∃ closure, call.left.closureAt? call.address = some closure)
    (leaves : call.LeavesTexts (returnedTexts past)) (fits : call.after.memory.Fits) :
    Retained (past ++ [.left call]) call.after := by
  have written : call.left.Retains (returnedTexts past) call.written :=
    leaves.written (fun one among => (retained.kept one among).holds) (retained.origin parted)
  have before : Retained past call.written := retained.retains written
  obtain ⟨retains, fresh⟩ := call.after_returned stands fits
  have ended : Retained past call.after := before.retains (retains _)
  have returns : returnedTexts (past ++ [.left call]) =
      returnedTexts past ++ call.returned?.toList := by
    rw [returnedTexts_append]
    cases found : call.returned? <;> simp [returnedTexts, Moment.returns, found]
  refine ⟨?kept, ?apart, retained.always.snoc retained.kept, ?grown, retained.above.snoc ?above⟩
  case kept =>
    rw [returns, List.forall_mem_append]
    exact ⟨ended.kept, fun one among => (fresh one (Option.mem_toList.mp among)).1⟩
  case apart =>
    rw [returns, List.map_append]
    refine List.Nodup.append ended.apart (by cases call.returned? <;> simp) ?_
    intro pointer old new
    -- What was handed out before the new text lies below it.
    obtain ⟨one, among, rfl⟩ := List.mem_map.mp old
    obtain ⟨last, among', same⟩ := List.mem_map.mp new
    have below := (before.kept one among).holds.upper
    have place := (fresh last (Option.mem_toList.mp among')).2
    rw [same] at place
    omega
  case grown =>
    refine List.forall_mem_append.mpr ⟨ended.grown, List.forall_mem_singleton.mpr ?_⟩
    exact Nat.le_trans written.size (retains (returnedTexts past)).size
  case above =>
    intro one returned earlier among
    have place := (fresh one returned).2
    have below := before.grown earlier among
    omega

end Retained

/-! ### Runs of host code -/

/-- A way of calling native addresses keeps texts, if nobody writes through their addresses. -/
def Entry.Retaining (enter : Entry κ) (inner : EntryTrace κ) : Prop :=
  ∀ past address result raws world, Retained past world →
    world.NativeSpares (returnedTexts past) address raws →
    Throughout Moment.SparesTexts (past ++ inner address raws world) →
    Retained (past ++ inner address raws world) (enter address result raws world).2

section

variable {enter : Entry κ} {inner : EntryTrace κ} {past : List (Moment κ)} {world : World κ}

theorem ForeignFunction.rawTrace_retained (entry : enter.Retaining inner)
    (retained : Retained past world) (function : ForeignFunction κ) (args : List RawValue)
    (native : function.Takes args → world.NativeSpares (returnedTexts past) function.address args)
    (spares : Throughout Moment.SparesTexts (past ++ function.rawTrace inner args world)) :
    Retained (past ++ function.rawTrace inner args world)
      (function.callRaw enter args world).2 := by
  simp only [rawTrace] at spares ⊢
  simp only [callRaw]
  by_cases arity : args.length = function.type.signature.parameters.length
  · cases fault : rawFault function.type.signature.parameters args with
    | some error => simpa [arity, fault] using retained
    | none =>
      simp only [arity, fault, and_self, if_true] at spares ⊢
      exact entry past _ _ args world retained (native ⟨arity, fault⟩) spares
  · simpa [arity] using retained

theorem ForeignFunction.trace_retained (entry : enter.Retaining inner)
    (retained : Retained past world) (function : ForeignFunction κ) (args : List (Value κ))
    (native : ∀ raws lent memory,
      function.encoded args world = .returned (.ok (raws, lent, memory)) → function.Takes raws →
      (nativeStart world memory).NativeSpares (returnedTexts past) function.address raws)
    (spares : Throughout Moment.SparesTexts (past ++ function.trace inner args world)) :
    Retained (past ++ function.trace inner args world) (function.call enter args world).2 := by
  rw [call_eq_encoded]
  rw [trace] at spares ⊢
  cases encoded : function.encoded args world with
  | panicked message => simpa using retained
  | returned encodes =>
    cases encodes with
    | error error => simpa using retained
    | ok parts =>
      rcases parts with ⟨raws, lent, memory⟩
      simp only [encoded] at spares
      have grown : world.memory.Extends memory := by
        rw [ForeignFunction.encoded] at encoded
        split at encoded
        · exact encodeAll_extends encoded
        · cases encoded
      have started : Retained past (nativeStart world memory) :=
        retained.retains (.of_extends grown (.of_same rfl))
      have called := function.rawTrace_retained entry started raws (native raws lent memory encoded)
        spares
      obtain ⟨-, memory', code⟩ :=
        function.callEncoded_heap enter raws lent { world with memory := memory }
      exact called.retains (.of_same memory' code)

/-- One request of host code, with what happens within it, keeps texts. -/
theorem Code.step_retained (entry : enter.Retaining inner) (retained : Retained past world)
    (code : Code κ) (frame : Frame)
    (spares : Throughout Moment.SparesTexts
      (past ++ .working code frame world :: code.nested inner world)) :
    Retained (past ++ .working code frame world :: code.nested inner world)
      (code.step enter frame world).world := by
  have noted : Retained (past ++ [.working code frame world]) world :=
    retained.note (.working code frame world) rfl
  have native : code.SparesTexts (returnedTexts (past ++ [.working code frame world])) world := by
    rw [returnedTexts_silent past rfl]
    exact spares.here.native
  rw [← List.singleton_append, ← List.append_assoc] at spares ⊢
  have quiet {after : World κ} (memory : after.memory = world.memory)
      (same : after.code = world.code) : Retained (past ++ [.working code frame world]) after :=
    noted.retains (.of_same memory same)
  cases code with
  | call function args next =>
    have called := function.trace_retained entry noted args
      (fun raws lent memory encoded => native function raws _ (by rw [nativeCall?, encoded]))
      spares
    simp only [Code.step]
    split
    · next message last same =>
      rw [same] at called
      exact called.retains (.of_same rfl rfl)
    · next result last same =>
      rw [same] at called
      exact called
  | callRaw function args next =>
    exact function.rawTrace_retained entry noted args (native function args world rfl) spares
  | nativeText text next =>
    have copied : Retained _ (world.allocateCString (Text.Utf8.encode text)).2 :=
      noted.retains (.of_extends (world.memory.allocateCString_extends _) (.of_same rfl))
    simp only [nested, List.append_nil]
    exact copied
  | borrow object exclusive next =>
    simp only [Code.step, nested, List.append_nil]
    cases frame.borrow object.cell exclusive world.heap <;> exact quiet rfl rfl
  | writeObject object key state next =>
    simp only [Code.step, nested, List.append_nil]
    split <;> exact quiet rfl rfl
  | writeReceiver key state next =>
    simp only [Code.step, nested, List.append_nil]
    split <;> exact quiet rfl rfl
  | releaseHandle registry handle next =>
    simp only [Code.step, nested, List.append_nil, World.releaseHandle]
    cases (world.registry registry).release handle <;> exact quiet rfl rfl
  | _ =>
    simp only [nested, List.append_nil]
    exact quiet rfl rfl

/-- A run of host code keeps texts. -/
theorem Code.trace_retained (entry : enter.Retaining inner) (code : Code κ) (frame : Frame)
    (retained : Retained past world)
    (spares : Throughout Moment.SparesTexts (past ++ code.trace enter inner frame world)) :
    Retained (past ++ code.trace enter inner frame world) (code.run enter frame world).2 := by
  induction code using Code.follows_wellFounded.induction generalizing past frame world with
  | _ code ih =>
    rw [Code.run_eq_step]
    cases stepped : code.step enter frame world with
    | ended outcome left =>
      rw [Code.trace_ended stepped] at spares ⊢
      have last := Code.step_retained entry retained code frame spares
      rwa [stepped] at last
    | rest rest frame' last =>
      rw [Code.trace_rest stepped, ← List.cons_append, ← List.append_assoc] at spares ⊢
      have next := Code.step_retained entry retained code frame spares.front
      rw [stepped] at next
      exact ih rest ⟨_, _, _, _, _, stepped⟩ frame' next spares

theorem Handler.trace_retained (entry : enter.Retaining inner) (retained : Retained past world)
    (handler : Handler κ) (args : List (Value κ))
    (spares : Throughout Moment.SparesTexts (past ++ handler.trace enter inner args world)) :
    Retained (past ++ handler.trace enter inner args world) (handler.run enter args world).2 := by
  have runs := handler.run_begun enter args world
  rw [trace] at spares ⊢
  cases started : handler.start args world with
  | some first =>
    rcases first with ⟨code, frame, begun⟩
    rw [started] at runs spares
    obtain ⟨heap, outcome, left, closed, rfl, -, ran, same, -⟩ := runs
    have begins : Retained past { world with heap := heap } := retained.retains (.of_same rfl rfl)
    have retained := Code.trace_retained entry code frame begins spares
    rw [ran] at retained
    rw [same]
    exact retained.retains (.of_same rfl rfl)
  | none =>
    rw [started] at runs
    obtain ⟨error, same⟩ := runs
    rw [same]
    simpa using retained

end

/-! ### Calls of closures -/

namespace ClosureCall

variable {inner : EntryTrace κ} {past : List (Moment κ)}

/-- A closure is still at its address when its host code has ended. -/
theorem left_stands (call : ClosureCall κ)
    (there : call.world.codeAt? call.address = some (.closure call.closure)) :
    ∃ closure, call.left.closureAt? call.address = some closure := by
  have found : call.world.closureAt? call.address = some call.closure := by
    rw [World.closureAt?, there]
  obtain ⟨index, place, stands⟩ := World.closureAt?_iff.mp found
  have kept : call.world.KeepsClosures call.left :=
    keepsClosures_law.inside call (keepsClosures_law.enterAt call.depth)
  obtain ⟨returned, moved⟩ := kept index _ stands
  exact ⟨_, World.closureAt?_iff.mpr ⟨index, place, moved⟩⟩

theorem insideTrace_retained (call : ClosureCall κ)
    (entry : (enterAt call.depth).Retaining inner) (retained : Retained past call.world)
    (spares : Throughout Moment.SparesTexts (past ++ call.insideTrace inner)) :
    Retained (past ++ call.insideTrace inner) call.left := by
  rw [insideTrace] at spares ⊢
  rw [left, inside]
  cases accepted : call.accepted with
  | error error => simpa using retained
  | ok decoded =>
    rcases decoded with ⟨values, writeBacks, heap⟩
    rw [accepted] at spares
    have begun : Retained past { call.world with heap := heap } :=
      retained.retains (.of_same rfl rfl)
    exact Handler.trace_retained entry begun call.closure.handler values spares

/-- A call of a closure keeps all texts, and its own. -/
theorem trace_retained (call : ClosureCall κ) (entry : (enterAt call.depth).Retaining inner)
    (there : call.world.codeAt? call.address = some (.closure call.closure))
    (retained : Retained past call.world)
    (spares : Throughout Moment.SparesTexts (past ++ call.trace inner)) :
    Retained (past ++ call.trace inner) call.after := by
  have entered : Retained (past ++ [.entered call]) call.world :=
    retained.note (.entered call) rfl
  have parted : past ++ call.trace inner =
      (past ++ [.entered call] ++ call.insideTrace inner ++ [.left call]) ++ [.answered call] := by
    simp [trace]
  rw [parted] at spares ⊢
  have inside := call.insideTrace_retained entry entered spares.front.front
  have left := inside.leave (List.append_assoc _ _ _) (call.left_stands there)
    spares.front.here.leaves spares.here.fits
  exact left.note (.answered call) rfl

end ClosureCall

/-- Whatever native code calls, texts are kept. -/
theorem enterTrace_retained (depth : Nat) :
    (enterAt (κ := κ) depth).Retaining (enterTrace depth) := by
  -- A closure entered at one depth enters others at the depth below only.
  induction depth with
  | zero =>
    intro past address result raws world retained native spares
    have raised : Retained past (world.raise (.panicked "call depth exceeded")) :=
      retained.retains (.of_same rfl rfl)
    rw [enterTrace, List.append_nil]
    exact raised
  | succ depth ih =>
    intro past address result raws world retained native spares
    simp only [enterAt]
    cases found : world.codeAt? address with
    | none => simpa [enterTrace, found] using retained
    | some code =>
      cases code with
      | foreign parameters run =>
        have ran : Retained past
            { world with memory := (run (deliver parameters raws) world.memory).2 } :=
          retained.retains (.of_spares (native parameters run found) (.of_same rfl))
        simpa [enterTrace, found] using ran
      | closure closure =>
        rw [enterTrace_closure found] at spares ⊢
        have called := ClosureCall.trace_retained ⟨depth, address, closure, raws, world⟩ ih found
          retained spares
        rwa [← JournalLaw.enter_after] at called

/-! ### Sessions -/

namespace Session

variable [CompilationService σ κ]

/-- A compilation service that hands out memory at most, and leaves closures alone, when it is given
a symbol. -/
def AddsLightly (σ : Type) [CompilationService σ κ] : Prop :=
  ∀ (name : String) (address : UInt64) (service : σ) (world : World κ),
    let after := (CompilationService.perform (.addSymbol name address) service world).2.2
    world.memory.Extends after.memory ∧ world.KeepsNotes after

theorem AddsLightly.registrable (lightly : AddsLightly (κ := κ) σ) :
    Registrable σ fun before after : World κ => ∀ texts, before.Retains texts after where
  refl _ _ := .of_same rfl rfl
  trans one two texts := (one texts).trans (two texts)
  typed _ _ _ := .of_same rfl rfl
  placed world closure _ _ := .of_extends (.refl _) (.addCode world (.closure closure))
  added name address service world _ :=
    let ⟨grown, notes⟩ := lightly name address service world
    .of_extends grown notes

/-- Binding a type leaves texts alone. -/
theorem bind_retains (lightly : AddsLightly (κ := κ) σ) (description : TypeDescription κ)
    (rules : Naming.NamingRules) (session : Session σ) (world : World κ)
    (texts : List ReturnedText) :
    world.Retains texts
      ((bind description rules : SessionM σ κ (List String)) (session, world)).2.2 := by
  rw [bind_state]
  exact lightly.registrable.perform rfl session world texts

end Session

namespace Deed

variable [CompilationService σ κ]

/-- What is done from outside does not write through the address of a text that was returned
before. -/
def SparesTexts (deed : Deed κ) (past : List (Moment κ)) (world : World κ) : Prop :=
  match deed with
  | .native _ address _ args => world.NativeSpares (returnedTexts past) address args
  | .elsewhere change _ => world.memory.Spares (returnedTexts past) (change world).memory ∧
      world.KeepsNotes (change world)
  | .bind _ _ | .release _ | .host _ _ => True

/-- In a whole run native code does not write through the address of a text that was returned
before. -/
structure NativeSpares (deeds : List (Deed κ)) (state : Session σ × World κ) : Prop where
  outside : ∀ front deed rest, deeds = front ++ deed :: rest →
    deed.SparesTexts (traces front state) (runs front state).2
  within : Throughout Moment.NativeSpares (traces deeds state)

/-- In a whole run nothing else is put where a text is that was returned before: native code does not
write through its address, and where it passes the text on as a text buffer host code leaves there
what was there.  Memory does not run out of addresses. -/
structure SpareTexts (deeds : List (Deed κ)) (state : Session σ × World κ) : Prop where
  native : NativeSpares deeds state
  leaves : Throughout Moment.LeavesTexts (traces deeds state)
  fits : Throughout (fun _ moment => moment.world.memory.Fits) (traces deeds state)

theorem SpareTexts.within {deeds : List (Deed κ)} {state : Session σ × World κ}
    (spares : SpareTexts deeds state) : Throughout Moment.SparesTexts (traces deeds state) :=
  fun before moment after parted =>
    ⟨spares.native.within before moment after parted, spares.leaves before moment after parted,
      spares.fits before moment after parted⟩

variable {past : List (Moment κ)} {state : Session σ × World κ}

/-- A deed keeps texts. -/
theorem run_retained (lightly : Session.AddsLightly (κ := κ) σ) (deed : Deed κ)
    (retained : Retained past state.2) (outside : deed.SparesTexts past state.2)
    (within : Throughout Moment.SparesTexts (past ++ deed.trace state)) :
    Retained (past ++ deed.trace state) (deed.run state).2 := by
  rcases state with ⟨session, world⟩
  let moment : Moment κ := .outside (deed.given session) world
  have noted : Retained (past ++ [moment]) world := retained.note moment rfl
  have parted : past ++ deed.trace (session, world) = past ++ [moment] ++ deed.inside world := by
    rw [trace, List.append_assoc, List.singleton_append]
  have same : returnedTexts (past ++ [moment]) = returnedTexts past := returnedTexts_silent past rfl
  rw [parted] at within ⊢
  cases deed with
  | bind description rules =>
    have bound := Session.bind_retains lightly description rules session world
    rw [inside, List.append_nil]
    exact noted.retains (bound _)
  | release handle =>
    have released : world.Retains (returnedTexts (past ++ [moment]))
        (world.releaseHandle session.registry handle).2 := by
      unfold World.releaseHandle
      split <;> exact .of_same rfl rfl
    rw [inside, List.append_nil, run, Session.releaseHandle_apply]
    exact noted.retains released
  | host depth code =>
    exact Code.trace_retained (enterTrace_retained depth) code .bare noted within
  | native depth address result args =>
    have spares : world.NativeSpares (returnedTexts (past ++ [moment])) address args :=
      same ▸ outside
    exact enterTrace_retained depth _ address result args world noted spares within
  | elsewhere change still =>
    obtain ⟨spares, notes⟩ := outside
    rw [inside, List.append_nil]
    exact noted.retains (.of_spares (same ▸ spares) notes)

theorem runs_retained (lightly : Session.AddsLightly (κ := κ) σ) (deeds : List (Deed κ))
    (retained : Retained past state.2)
    (outside : ∀ front deed rest, deeds = front ++ deed :: rest →
      deed.SparesTexts (past ++ traces front state) (runs front state).2)
    (within : Throughout Moment.SparesTexts (past ++ traces deeds state)) :
    Retained (past ++ traces deeds state) (runs deeds state).2 := by
  induction deeds generalizing past state with
  | nil =>
    rw [traces, List.append_nil]
    exact retained
  | cons deed rest ih =>
    have first : deed.SparesTexts past state.2 := by
      simpa [traces, runs] using outside [] deed rest rfl
    rw [traces, ← List.append_assoc] at within ⊢
    have done := deed.run_retained lightly retained first within.front
    apply ih done ?_ within
    intro front later more parted
    have spared := outside (deed :: front) later more (by rw [parted]; rfl)
    rwa [traces, ← List.append_assoc] at spared

end Deed

namespace Session

variable [CompilationService σ κ]

/-- Over every run of bindings, calls in any nesting and releases in which native code does not write
through the address of a returned text, and host code leaves what was there in the text buffers that
are passed over one, all these addresses are different, also for equal texts, and at every moment
after a text was returned its address still reads as just this text, and its closure still has a note
of it.  A text with a NUL in it is a fault of the call, which returns no address. -/
theorem texts_kept (service : σ) (world : World κ) (deeds : List (Deed κ))
    (lightly : AddsLightly (κ := κ) σ)
    (spares : Deed.SpareTexts deeds (create service world)) :
    let trace := Deed.traces deeds (create service world)
    let last := (Deed.runs deeds (create service world)).2
    ((returnedTexts trace).map ReturnedText.pointer).Nodup ∧
    (∀ past now, StandsAfter trace last past now → ∀ one ∈ returnedTexts past,
      one.pointer ≠ 0 ∧ now.memory.cString one.pointer = Text.Utf8.encode one.text ∧
        ∃ closure, now.closureAt? one.closure = some closure ∧ one.pointer ∈ closure.returned) ∧
    ∀ before call after text, trace = before ++ .left call :: after → call.text? = some text →
      ('\x00' ∈ text.toList →
        call.outcome = .returned (.error MarshalError.interiorNul) ∧
        call.fault? = some (.marshal .interiorNul) ∧
        call.answer = .zero call.closure.type.signature.result.abi ∧
        returnedTexts (before ++ [.left call]) = returnedTexts before) ∧
      ('\x00' ∉ text.toList →
        ∃ pointer, call.outcome = .returned (.ok (.pointer pointer)) ∧
          returnedTexts (before ++ [.left call]) =
            returnedTexts before ++ [⟨call.address, pointer, text⟩] ∧
          (call.closure.type.signature.result.abi = .pointer →
            call.answer = .pointer pointer ∧ call.fault? = none)) := by
  intro trace last
  have retained : Retained trace last :=
    Deed.runs_retained lightly deeds (.nil _) spares.native.outside spares.within
  refine ⟨retained.apart, ?_, ?_⟩
  · intro past now stands one among
    have keeps : now.Keeps one := by
      obtain ⟨moment, after, parted, rfl⟩ | ⟨rfl, rfl⟩ := stands
      · exact retained.always past moment after parted one among
      · exact retained.kept one among
    exact ⟨keeps.holds.nonnull, keeps.cString_eq, keeps.noted⟩
  · intro before call after text _ returns
    obtain ⟨refused, came⟩ := ClosureCall.text_comes returns
    constructor
    · intro nul
      obtain ⟨outcome, fault, answer, none⟩ := refused nul
      exact ⟨outcome, fault, answer, returnedTexts_silent before none⟩
    · intro clean
      obtain ⟨pointer, outcome, some, received⟩ := came clean
      refine ⟨pointer, outcome, ?_, received⟩
      rw [returnedTexts_append]
      simp [returnedTexts, Moment.returns, some]

end Session

namespace Workbench

theorem scriptedCompiler_addsLightly : Session.AddsLightly (κ := Key) ScriptedCompiler := by
  intro name address service world
  exact ⟨.refl _, .of_same rfl⟩

/-- A closure that returns a text, with the notes it has made. -/
def tells (text : String) (notes : List UInt64) : Closure Key :=
  ⟨⟨1, ⟨[], .string⟩⟩, "tells", .ofTypes [] .string, none,
    .function fun _ => .done (.ok (.string text)), notes⟩

/-- A native function that writes into memory of its own. -/
def scribble : NativeCode Key :=
  .foreign [] fun _ memory => (.void, memory.writeAll 16 [7])

/-- A function that empties a buffer. -/
def blankBody : List (Value Key) → Code Key
  | [.stringBuffer buffer] => .writeBuffer buffer "" (.done (.ok .void))
  | _ => .done (.ok .void)

/-- The closure of the function. -/
def blank : Closure Key :=
  ⟨⟨2, ⟨[.stringBuffer], .void⟩⟩, "blank", .ofTypes [.stringBuffer] .void, none,
    .function blankBody, []⟩

/-- A closure that returns the empty text and one that returns another, the native function, and two
closures that texts are passed to as text buffers. -/
def talkWorld : World Key :=
  { (World.initial Globals.initial : World Key) with
    code := #[.closure (tells "" []), scribble, .closure (tells "hail" []), .closure peek,
      .closure blank] }

/-- Native code calls a closure that takes nothing, or the native function. -/
def calls (index : Nat) (result : AbiType) : Deed Key :=
  .native 1 (World.codeAddress index) result []

/-- Native code passes the address of a text on. -/
def passes (index : Nat) (result : AbiType) (text : UInt64) : Deed Key :=
  .native 1 (World.codeAddress index) result [.pointer text]

/-- The empty text is returned twice, with the native function in between, then the other text, and
this is passed on to a closure that only reads it. -/
def talkDeeds : List (Deed Key) :=
  [calls 0 .pointer, calls 1 .void, calls 0 .pointer, calls 2 .pointer,
    passes 3 .pointer 0x100000002]

/-- A text is returned and passed on to the closure that empties it. -/
def blankDeeds : List (Deed Key) :=
  [calls 2 .pointer, passes 4 .void 0x100000000]

/-- The session and the process after some deeds. -/
def talkState (deeds : List (Deed Key)) : Session ScriptedCompiler × World Key :=
  Deed.runs deeds (Session.create ScriptedCompiler.fresh talkWorld)

/-- A call of a closure that returns a text. -/
def tellsCall (index : Nat) (text : String) (notes : List UInt64) (world : World Key) :
    ClosureCall Key :=
  ⟨0, World.codeAddress index, tells text notes, [], world⟩

theorem tellsCall_trace (index : Nat) (text : String) (notes : List UInt64) (world : World Key) :
    (tellsCall index text notes world).trace (enterTrace 0) =
      [.entered (tellsCall index text notes world),
        .working (.done (.ok (.string text))) .bare world,
        .left (tellsCall index text notes world), .answered (tellsCall index text notes world)] := by
  have inside : (tellsCall index text notes world).insideTrace (enterTrace 0) =
      Code.trace (enterAt 0) (enterTrace 0) (.done (.ok (.string text))) .bare world := rfl
  rw [ClosureCall.trace, inside, Code.trace_ended rfl]
  rfl

/-- A closure is not a native function. -/
theorem nativeSpares_closure {world : World Key} {index : Nat} {closure : Closure Key}
    (there : world.code[index]? = some (.closure closure)) (room : World.AddressRoom index)
    (texts : List ReturnedText) (raws : List RawValue) :
    world.NativeSpares texts (World.codeAddress index) raws := by
  intro parameters run found
  rw [World.codeAt?_codeAddress there room] at found
  cases found

/-- A closure that only returns a text calls nothing, and no text buffer is passed to it. -/
theorem tellsCall_spares {index : Nat} {text : String} {notes : List UInt64} {world : World Key}
    (before : world.memory.Fits) (after : (tellsCall index text notes world).after.memory.Fits) :
    ∀ moment ∈ (tellsCall index text notes world).trace (enterTrace 0), ∀ past,
      moment.SparesTexts past := by
  have buffers (texts : List ReturnedText) :
      (tellsCall index text notes world).LeavesTexts texts := by
    intro result left ran index address passed
    cases passed
  rw [tellsCall_trace]
  simp only [List.forall_mem_cons, List.not_mem_nil, false_implies, implies_true, and_true]
  exact ⟨fun _ => ⟨trivial, trivial, before⟩,
    fun _ => ⟨Code.sparesTexts_silent rfl _, trivial, before⟩,
    fun _ => ⟨trivial, buffers _, before⟩, fun _ => ⟨trivial, trivial, after⟩⟩

theorem tellsCall_returns (index : Nat) (text : String) (notes : List UInt64) (world : World Key)
    (clean : '\x00' ∉ text.toList) :
    returnedTexts ((tellsCall index text notes world).trace (enterTrace 0)) =
      [⟨World.codeAddress index, UInt64.ofNat (Memory.base + world.memory.size), text⟩] := by
  have returns : (tellsCall index text notes world).text? = some text := rfl
  obtain ⟨nul, -⟩ | ⟨-, dispatched⟩ := ClosureCall.text_dispatched returns
  · exact absurd nul clean
  have returned : (tellsCall index text notes world).returned? =
      some ⟨World.codeAddress index, UInt64.ofNat (Memory.base + world.memory.size), text⟩ := by
    rw [ClosureCall.returned?, returns, ClosureCall.outcome, dispatched]
    rfl
  rw [tellsCall_trace]
  simp only [returnedTexts, List.filterMap_cons, List.filterMap_nil, Moment.returns, returned]

/-- The text that is passed on to the closure that reads it. -/
def peekBack : ClosureCall Key :=
  ⟨0, World.codeAddress 3, peek, [.pointer 0x100000002], (talkState (talkDeeds.take 4)).2⟩

theorem peekBack_keeps : peekBack.world.Keeps ⟨World.codeAddress 2, 0x100000002, "hail"⟩ := by
  have fits : ((talkState (talkDeeds.take 3)).2.memory.allocateCString
      (Text.Utf8.encode "hail")).2.Fits := by decide
  refine ⟨by decide, Memory.allocateCString_holds fits, tells "hail" [0x100000002], ?_, by decide⟩
  have there : peekBack.world.code[2]? = some (.closure (tells "hail" [0x100000002])) := rfl
  rw [World.closureAt?, World.codeAt?_codeAddress there (by decide)]

theorem peekBack_inside :
    ∃ world, peekBack.insideTrace (enterTrace 0) =
        [.working (.readBuffer ⟨0, 4⟩ fun text => .done (.ok (.string text))) .bare world,
          .working (.done (.ok (.string (world.heap.text ⟨0, 4⟩)))) .bare world] ∧
      world.memory = peekBack.world.memory := by
  obtain ⟨heap, accepted⟩ : ∃ heap, peekBack.accepted =
      .ok ([.stringBuffer ⟨0, 4⟩], [⟨0x100000002, ⟨0, 4⟩⟩], heap) := ⟨_, rfl⟩
  refine ⟨{ peekBack.world with heap := heap }, ?_, rfl⟩
  rw [ClosureCall.insideTrace, accepted]
  show Code.trace (enterAt 0) (enterTrace 0)
    (.readBuffer ⟨0, 4⟩ fun text => .done (.ok (.string text))) _ _ = _
  rw [Code.trace_rest rfl, Code.trace_ended rfl]
  rfl

/-- The closure edits nothing, so the text is left as it is. -/
theorem peekBack_spares :
    ∀ moment ∈ peekBack.trace (enterTrace 0), ∀ past, moment.SparesTexts past := by
  have before : peekBack.world.memory.Fits := by decide
  have left : peekBack.left.memory.Fits := by decide
  have after : peekBack.after.memory.Fits := by decide +kernel
  have leaves (texts : List ReturnedText) : peekBack.LeavesTexts texts := by
    intro result left ran index address passed overlap
    cases index with
    | zero =>
      obtain rfl : 0x100000002 = address := Option.some.inj passed
      exact (peek_reads rfl).unedited.1.leaves_returned peekBack_keeps passed
    | succ index => cases passed
  obtain ⟨world, inside, memory⟩ := peekBack_inside
  have fits : world.memory.Fits := memory ▸ before
  rw [ClosureCall.trace, inside]
  simp only [List.forall_mem_cons, List.forall_mem_append, List.not_mem_nil, false_implies,
    implies_true, and_true]
  exact ⟨fun _ => ⟨trivial, trivial, before⟩,
    ⟨fun _ => ⟨Code.sparesTexts_silent rfl _, trivial, fits⟩,
      fun _ => ⟨Code.sparesTexts_silent rfl _, trivial, fits⟩⟩,
    fun _ => ⟨trivial, leaves _, left⟩, fun _ => ⟨trivial, trivial, after⟩⟩

theorem peekBack_returns : returnedTexts (peekBack.trace (enterTrace 0)) =
    [⟨World.codeAddress 3, 0x100000007, "hail"⟩] := by
  have returned : peekBack.returned? = some ⟨World.codeAddress 3, 0x100000007, "hail"⟩ := by
    decide +kernel
  obtain ⟨world, inside, -⟩ := peekBack_inside
  rw [ClosureCall.trace, inside]
  simp only [returnedTexts, List.cons_append, List.nil_append, List.filterMap_cons,
    List.filterMap_nil, Moment.returns, returned]

/-! ### Runs of these calls -/

section

variable {state : Session ScriptedCompiler × World Key} {index : Nat} {closure : Closure Key}
  (there : state.2.code[index]? = some (.closure closure)) (room : World.AddressRoom index)
  (result : AbiType) (raws : List RawValue)
include there room

theorem native_trace :
    (Deed.native 1 (World.codeAddress index) result raws).trace state =
      .outside none state.2 ::
        ClosureCall.trace (enterTrace 0) ⟨0, World.codeAddress index, closure, raws, state.2⟩ := by
  have found := World.codeAt?_codeAddress there room
  rw [Deed.trace, Deed.inside, enterTrace_closure found]
  rfl

/-- What holds at the start of the deed and at every moment of the call holds throughout. -/
theorem native_each {holds : List (Moment Key) → Moment Key → Prop}
    (start : ∀ past, holds past (.outside none state.2))
    (each : ∀ moment ∈ ClosureCall.trace (enterTrace 0)
      ⟨0, World.codeAddress index, closure, raws, state.2⟩, ∀ past, holds past moment) :
    ∀ moment ∈ (Deed.native 1 (World.codeAddress index) result raws).trace state, ∀ past,
      holds past moment := by
  rw [native_trace there room]
  exact List.forall_mem_cons.mpr ⟨start, each⟩

theorem native_returns :
    returnedTexts ((Deed.native 1 (World.codeAddress index) result raws).trace state) =
      returnedTexts (ClosureCall.trace (enterTrace 0)
        ⟨0, World.codeAddress index, closure, raws, state.2⟩) := by
  rw [native_trace there room]
  rfl

end

/-- The native function writes below all memory that is handed out. -/
theorem scribble_spares {texts : List ReturnedText} {memory : Memory}
    (above : ∀ one ∈ texts, Memory.base ≤ one.pointer.toNat) :
    memory.Spares texts (memory.writeAll 16 [7]) := by
  refine ⟨Nat.le_refl _, ?_⟩
  rintro one among place ⟨lower, -⟩
  have placed := above one among
  have apart : ¬ (16 ≤ place ∧ place < 16 + [(7 : UInt8)].length) := by
    rw [Memory.base] at placed
    simp only [List.length_singleton]
    omega
  rw [Memory.read_writeAll, if_neg apart]

/-- The session and the process after some of the deeds. -/
def talk (number : Nat) : Session ScriptedCompiler × World Key :=
  talkState (talkDeeds.take number)

theorem talkDeeds_traces :
    Deed.traces talkDeeds (talk 0) =
      (calls 0 .pointer).trace (talk 0) ++ ((calls 1 .void).trace (talk 1) ++
        ((calls 0 .pointer).trace (talk 2) ++ ((calls 2 .pointer).trace (talk 3) ++
          ((passes 3 .pointer 0x100000002).trace (talk 4) ++ [])))) := rfl

theorem talkDeeds_first : returnedTexts ((calls 0 .pointer).trace (talk 0)) =
    [⟨World.codeAddress 0, 0x100000000, ""⟩] :=
  (native_returns rfl (by decide) _ _).trans (tellsCall_returns 0 "" [] (talk 0).2 (by decide))

theorem talkDeeds_returns : returnedTexts (Deed.traces talkDeeds (talk 0)) =
    [⟨World.codeAddress 0, 0x100000000, ""⟩, ⟨World.codeAddress 0, 0x100000001, ""⟩,
      ⟨World.codeAddress 2, 0x100000002, "hail"⟩, ⟨World.codeAddress 3, 0x100000007, "hail"⟩] := by
  have second : returnedTexts ((calls 0 .pointer).trace (talk 2)) =
      [⟨World.codeAddress 0, 0x100000001, ""⟩] :=
    (native_returns rfl (by decide) _ _).trans
      (tellsCall_returns 0 "" [0x100000000] (talk 2).2 (by decide))
  have third : returnedTexts ((calls 2 .pointer).trace (talk 3)) =
      [⟨World.codeAddress 2, 0x100000002, "hail"⟩] :=
    (native_returns rfl (by decide) _ _).trans
      (tellsCall_returns 2 "hail" [] (talk 3).2 (by decide))
  have last : returnedTexts ((passes 3 .pointer 0x100000002).trace (talk 4)) =
      [⟨World.codeAddress 3, 0x100000007, "hail"⟩] :=
    (native_returns rfl (by decide) _ _).trans peekBack_returns
  have native : returnedTexts ((calls 1 .void).trace (talk 1)) = [] := rfl
  rw [talkDeeds_traces]
  simp only [returnedTexts_append, talkDeeds_first, native, second, third, last]
  rfl

/-- The deeds leave returned texts alone: the last one passes a text on, but to code that only reads
it. -/
theorem talkDeeds_spare : Deed.SpareTexts talkDeeds (talk 0) := by
  have scribbled : Deed.SparesTexts (calls 1 .void) ((calls 0 .pointer).trace (talk 0))
      (talk 1).2 := by
    intro parameters run found
    have there : (talk 1).2.code[1]? = some scribble := rfl
    rw [World.codeAt?_codeAddress there (by decide)] at found
    cases found
    apply scribble_spares
    rw [talkDeeds_first]
    exact List.forall_mem_singleton.mpr (by decide)
  have outside : ∀ front deed rest, talkDeeds = front ++ deed :: rest →
      deed.SparesTexts (Deed.traces front (talk 0)) (Deed.runs front (talk 0)).2 := by
    intro front deed rest parted
    rcases front with _ | ⟨one, _ | ⟨two, _ | ⟨three, _ | ⟨four, _ | ⟨five, front⟩⟩⟩⟩⟩
    · cases parted
      exact nativeSpares_closure rfl (by decide) _ _
    · cases parted
      rw [Deed.traces, Deed.traces, List.append_nil]
      exact scribbled
    · cases parted
      exact nativeSpares_closure rfl (by decide) _ _
    · cases parted
      exact nativeSpares_closure rfl (by decide) _ _
    · cases parted
      exact nativeSpares_closure rfl (by decide) _ _
    · simp [talkDeeds] at parted
  have each : ∀ moment ∈ Deed.traces talkDeeds (talk 0), ∀ past, moment.SparesTexts past := by
    rw [talkDeeds_traces]
    simp only [List.forall_mem_append, List.not_mem_nil, false_implies, implies_true, and_true]
    refine ⟨?first, ?native, ?second, ?third, ?last⟩
    case first =>
      exact native_each rfl (by decide) _ _ (fun _ => ⟨trivial, trivial, by decide⟩)
        (tellsCall_spares (by decide) (by decide))
    case native =>
      exact List.forall_mem_singleton.mpr fun _ => ⟨trivial, trivial, by decide⟩
    case second =>
      exact native_each rfl (by decide) _ _ (fun _ => ⟨trivial, trivial, by decide⟩)
        (tellsCall_spares (by decide) (by decide))
    case third =>
      exact native_each rfl (by decide) _ _ (fun _ => ⟨trivial, trivial, by decide⟩)
        (tellsCall_spares (by decide) (by decide))
    case last =>
      exact native_each rfl (by decide) _ _ (fun _ => ⟨trivial, trivial, by decide⟩)
        peekBack_spares
  have all : Throughout Moment.SparesTexts (Deed.traces talkDeeds (talk 0)) :=
    Throughout.nil.append each
  exact ⟨⟨outside, fun before moment after parted => (all before moment after parted).native⟩,
    fun before moment after parted => (all before moment after parted).leaves,
    fun before moment after parted => (all before moment after parted).fits⟩

/-- The empty text was returned twice and another one twice, the second time by code that was passed
the first.  All four are at addresses of their own, and read as they did. -/
theorem talkDeeds_kept :
    Session.AddsLightly (κ := Key) ScriptedCompiler ∧ Deed.SpareTexts talkDeeds (talk 0) ∧
      returnedTexts (Deed.traces talkDeeds (talk 0)) =
        [⟨World.codeAddress 0, 0x100000000, ""⟩, ⟨World.codeAddress 0, 0x100000001, ""⟩,
          ⟨World.codeAddress 2, 0x100000002, "hail"⟩,
          ⟨World.codeAddress 3, 0x100000007, "hail"⟩] ∧
      ∀ one ∈ returnedTexts (Deed.traces talkDeeds (talk 0)),
        (talk 5).2.memory.cString one.pointer = Text.Utf8.encode one.text := by
  obtain ⟨-, kept, -⟩ := Session.texts_kept ScriptedCompiler.fresh talkWorld talkDeeds
    scriptedCompiler_addsLightly talkDeeds_spare
  refine ⟨scriptedCompiler_addsLightly, talkDeeds_spare, talkDeeds_returns, ?_⟩
  intro one among
  exact (kept _ _ (.inr ⟨rfl, rfl⟩) one among).2.1

/-- The text that is passed on to the closure that empties it. -/
def blankBack : ClosureCall Key :=
  ⟨0, World.codeAddress 4, blank, [.pointer 0x100000000], (talkState [calls 2 .pointer]).2⟩

theorem blankBack_trace :
    ∃ world later, blankBack.trace (enterTrace 0) =
        [.entered blankBack, .working (.writeBuffer ⟨0, 4⟩ "" (.done (.ok .void))) .bare world,
          .working (.done (.ok .void)) .bare later, .left blankBack, .answered blankBack] ∧
      world.memory = blankBack.world.memory ∧ later.memory = blankBack.world.memory := by
  obtain ⟨heap, accepted⟩ : ∃ heap, blankBack.accepted =
      .ok ([.stringBuffer ⟨0, 4⟩], [⟨0x100000000, ⟨0, 4⟩⟩], heap) := ⟨_, rfl⟩
  refine ⟨{ blankBack.world with heap := heap },
    { blankBack.world with heap := heap.setText ⟨0, 4⟩ "" }, ?_, rfl, rfl⟩
  have inside : blankBack.insideTrace (enterTrace 0) =
      Code.trace (enterAt 0) (enterTrace 0) (.writeBuffer ⟨0, 4⟩ "" (.done (.ok .void))) .bare
        { blankBack.world with heap := heap } := by
    rw [ClosureCall.insideTrace, accepted]
    rfl
  have ran (world : World Key) : Code.trace (enterAt 0) (enterTrace 0)
      (.writeBuffer ⟨0, 4⟩ "" (.done (.ok .void))) .bare world =
        [.working (.writeBuffer ⟨0, 4⟩ "" (.done (.ok .void))) .bare world,
          .working (.done (.ok .void)) .bare
            { world with heap := world.heap.setText ⟨0, 4⟩ "" }] := by
    rw [Code.trace_rest rfl, Code.trace_ended rfl]
    rfl
  rw [ClosureCall.trace, inside, ran, List.cons_append, List.cons_append, List.nil_append]

/-- A text is lost although native code writes nothing: it is passed on as a text buffer, host code
empties the buffer, and the buffer is written back. -/
theorem blankDeeds_lose :
    Session.AddsLightly (κ := Key) ScriptedCompiler ∧
      Deed.NativeSpares blankDeeds (talkState []) ∧
      Throughout (fun _ moment => moment.world.memory.Fits)
        (Deed.traces blankDeeds (talkState [])) ∧
      returnedTexts (Deed.traces blankDeeds (talkState [])) =
        [⟨World.codeAddress 2, 0x100000000, "hail"⟩] ∧
      (talkState blankDeeds).2.memory.cString 0x100000000 = [] := by
  have traces : Deed.traces blankDeeds (talkState []) =
      (calls 2 .pointer).trace (talkState []) ++
        ((passes 4 .void 0x100000000).trace (talkState [calls 2 .pointer]) ++ []) := rfl
  obtain ⟨world, later, blanked, same, same'⟩ := blankBack_trace
  have outside : ∀ front deed rest, blankDeeds = front ++ deed :: rest →
      deed.SparesTexts (Deed.traces front (talkState [])) (Deed.runs front (talkState [])).2 := by
    intro front deed rest parted
    rcases front with _ | ⟨one, _ | ⟨two, front⟩⟩
    · cases parted
      exact nativeSpares_closure rfl (by decide) _ _
    · cases parted
      exact nativeSpares_closure rfl (by decide) _ _
    · simp [blankDeeds] at parted
  have told : ∀ moment ∈ (calls 2 .pointer).trace (talkState []), ∀ past,
      moment.SparesTexts past :=
    native_each rfl (by decide) _ _ (fun _ => ⟨trivial, trivial, by decide⟩)
      (tellsCall_spares (by decide) (by decide))
  have each : ∀ moment ∈ Deed.traces blankDeeds (talkState []), ∀ past,
      Moment.NativeSpares past moment ∧ moment.world.memory.Fits := by
    have fits : blankBack.world.memory.Fits := by decide
    have after : blankBack.after.memory.Fits := by decide
    rw [traces, List.append_nil]
    refine List.forall_mem_append.mpr
      ⟨fun moment among past => ⟨(told moment among past).native, (told moment among past).fits⟩, ?_⟩
    refine native_each rfl (by decide) _ _ (fun _ => ⟨trivial, fits⟩) ?_
    show ∀ moment ∈ blankBack.trace (enterTrace 0), _
    rw [blanked]
    simp only [List.forall_mem_cons, List.not_mem_nil, false_implies, implies_true, and_true]
    exact ⟨fun _ => ⟨trivial, fits⟩, fun _ => ⟨Code.sparesTexts_silent rfl _, same ▸ fits⟩,
      fun _ => ⟨Code.sparesTexts_silent rfl _, same' ▸ fits⟩, fun _ => ⟨trivial, by decide⟩,
      fun _ => ⟨trivial, after⟩⟩
  have all := Throughout.nil.append each
  refine ⟨scriptedCompiler_addsLightly,
    ⟨outside, fun before moment after parted => (all before moment after parted).1⟩,
    fun before moment after parted => (all before moment after parted).2, ?_, by decide +kernel⟩
  have first : returnedTexts ((calls 2 .pointer).trace (talkState [])) =
      [⟨World.codeAddress 2, 0x100000000, "hail"⟩] :=
    (native_returns rfl (by decide) _ _).trans (tellsCall_returns 2 "hail" [] _ (by decide))
  have second : returnedTexts
      ((passes 4 .void 0x100000000).trace (talkState [calls 2 .pointer])) = [] := by
    refine (native_returns rfl (by decide) _ _).trans ?_
    show returnedTexts (blankBack.trace (enterTrace 0)) = []
    rw [blanked]
    rfl
  rw [traces, returnedTexts_append, returnedTexts_append, first, second]
  rfl

end Workbench

end NativeBridge
