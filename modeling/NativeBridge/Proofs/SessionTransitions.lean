/-
Module: NativeBridge.Proofs.SessionTransitions
Purpose: Every session operation is a chain of transitions, each with what it presupposes and with
  what it changes.
Main exports: World.Stands, Session.Point, Session.Operation.Asks, Session.Transition,
  Session.Operation.perform_chains, Session.Registrable.perform
-/
import Mathlib.Logic.Relation
import NativeBridge.Proofs.SessionOrder
import NativeBridge.Proofs.ThunkCalls

namespace NativeBridge

open Relation (ReflTransGen)

variable {σ κ : Type} [HostProgram κ]

/-!
An operation works on the session and the process a bit at a time: it puts closures at addresses,
asks the compiler, and changes the session when the compiler grants what was asked.  What holds of
every single transition, or is kept by it, holds of all operations.

The compiler may do anything to the process when it is asked.  So that a name can still be traced to
the closure behind it, an operation carries along the closures that it has put so far.
-/

/-- A closure and the address it was put at. -/
structure Placement (κ : Type) [HostProgram κ] where
  address : UInt64
  closure : Closure κ

namespace World

/-- The closure stands where it was put; it may have returned texts since. -/
def Stands (world : World κ) (placement : Placement κ) : Prop :=
  ∃ index returned, placement.address = codeAddress index ∧
    world.code[index]? = some (.closure { placement.closure with returned := returned })

theorem Stands.kept {before after : World κ} {placement : Placement κ}
    (stands : before.Stands placement) (kept : before.KeepsClosures after) :
    after.Stands placement := by
  obtain ⟨index, returned, address, there⟩ := stands
  obtain ⟨more, moved⟩ := kept index _ there
  exact ⟨index, more, address, moved⟩

/-- The placement of the next closure. -/
def nextPlacement (world : World κ) (closure : Closure κ) : Placement κ :=
  ⟨codeAddress world.code.size, closure⟩

theorem nextPlacement_stands (world : World κ) (closure : Closure κ) :
    (world.addCode (.closure closure)).2.Stands (world.nextPlacement closure) :=
  ⟨world.code.size, closure.returned, rfl, Array.getElem?_push_size⟩

theorem KeepsClosures.addCode (world : World κ) (code : NativeCode κ) :
    world.KeepsClosures (world.addCode code).2 := by
  intro index closure there
  obtain ⟨inside, -⟩ := Array.getElem?_eq_some_iff.mp there
  refine ⟨closure.returned, ?_⟩
  rw [World.addCode, Array.getElem?_push_lt inside, ← Array.getElem?_eq_getElem inside]
  exact there

theorem KeepsClosures.releaseHandle (world : World κ) (id : Nat) (handle : UInt64) :
    world.KeepsClosures (world.releaseHandle id handle).2 := by
  rw [World.releaseHandle]
  cases (world.registry id).release handle <;> exact of_same rfl

end World

/-- The call changes nothing but the compiler itself, also if it is granted. -/
def ServiceCall.isPlain : ServiceCall → Bool
  | .setOutputMode _ | .compileString _ | .addFile _ | .addSymbol _ _ | .relocate => false
  | _ => true

/-- The call compiles something. -/
def ServiceCall.compiles : ServiceCall → Bool
  | .compileString _ | .addFile _ => true
  | _ => false

namespace Session

/-! ### Points and transitions -/

/-- The operation may register closures. -/
def Operation.registers : Operation κ → Bool
  | .register .. | .addSymbol .. | .addDynamicSymbol .. | .ensureReleaseSymbol _ | .bind ..
  | .bindType _ => true
  | _ => false

/-- The calls that an operation may make. -/
def Operation.Asks : Operation κ → ServiceCall → Prop
  | .setOutputMode mode, call => call = .setOutputMode mode ∨ ∃ name, call = .addLibrary name
  | .setLibPath path, call => call = .setLibPath path
  | .setOptions options, call => call = .setOptions options
  | .addIncludePath path, call => call = .addIncludePath path
  | .addSysincludePath path, call => call = .addSysincludePath path
  | .addLibraryPath path, call => call = .addLibraryPath path
  | .defineSymbol name value, call => call = .defineSymbol name value
  | .undefineSymbol name, call => call = .undefineSymbol name
  | .addLibrary name, call => call = .addLibrary name
  | .compileString source, call => call = .compileString source
  | .addFile path, call => call = .addFile path
  | .relocate, call => call = .relocate
  | .outputFile path, call => call = .outputFile path
  | operation, call => operation.registers = true ∧ ∃ name address, call = .addSymbol name address

theorem Operation.Asks.addSymbol {operation : Operation κ} (registers : operation.registers = true)
    (name : String) (address : UInt64) : operation.Asks (.addSymbol name address) := by
  cases operation with
  | register | addSymbol | addDynamicSymbol | ensureReleaseSymbol | bind | bindType =>
    exact ⟨rfl, name, address, rfl⟩
  | _ => cases registers

/-- How far an operation has come. -/
structure Point (σ κ : Type) [HostProgram κ] where
  session : Session σ
  world : World κ
  /-- The closures that the operation has put, latest first. -/
  made : List (Placement κ)

namespace Point

variable (point : Point σ κ)

/-- The point after a change of the session. -/
def update (change : Session σ → Session σ) : Point σ κ :=
  { point with session := change point.session }

variable [CompilationService σ κ]

/-- The compiler grants a call here. -/
def Grants (call : ServiceCall) : Prop :=
  (CompilationService.perform call point.session.service point.world).1 = .ok ()

/-- The point after the compiler has answered a call. -/
def asked (call : ServiceCall) : Point σ κ :=
  let answer := CompilationService.perform call point.session.service point.world
  { point with session := { point.session with service := answer.2.1 }, world := answer.2.2 }

/-- The point after the compiler has looked a name up. -/
def lookedUp (name : String) : Point σ κ :=
  let answer := CompilationService.symbolAddress name point.session.service point.world
  { point with session := { point.session with service := answer.2.1 }, world := answer.2.2 }

/-- The point after the compiler has taken a handler. -/
def handled (handler : DiagnosticHandler κ) : Point σ κ :=
  let answer :=
    CompilationService.setDiagnosticHandler handler point.session.service point.world
  { point with session := { point.session with service := answer.1 }, world := answer.2 }

/-- The point after the compiler was let run the program. -/
def ran (args : List String) : Point σ κ :=
  let answer := CompilationService.run args point.session.service
    { point.world with pending := none }
  { point with
    session := { point.session with service := answer.2.1 }
    world := { answer.2.2 with pending := point.world.pending } }

end Point

variable [CompilationService σ κ]

/-- One transition within an operation. -/
inductive Transition (operation : Operation κ) : Point σ κ → Point σ κ → Prop
  /-- Other naming rules are put in force. -/
  | named {naming : Naming.NamingRules} (due : operation = .withNaming naming)
      (point : Point σ κ) :
      Transition operation point (point.update fun session => session.withNaming naming)
  /-- Something else happens in the process. -/
  | elsewhere {change : World κ → World κ} (due : operation = .elsewhere change)
      (point : Point σ κ) :
      Transition operation point { point with world := change point.world }
  /-- A callable type is made. -/
  | typed (types : TypeCache κ) (point : Point σ κ) :
      Transition operation point { point with world := { point.world with types := types } }
  /-- A closure is put at the next address. -/
  | placed {closure : Closure κ} (proper : closure.IsProper) (point : Point σ κ) :
      Transition operation point
        { point with
          world := (point.world.addCode (.closure closure)).2
          made := point.world.nextPlacement closure :: point.made }
  /-- A handle of the session's registry is released. -/
  | released {handle : UInt64} (due : operation = .releaseHandle handle) (point : Point σ κ) :
      Transition operation point
        { point with world := (point.world.releaseHandle point.session.registry handle).2 }
  /-- The compiler takes a handler for diagnostics. -/
  | handled {handler : DiagnosticHandler κ} (due : operation = .setDiagnosticHandler handler)
      (point : Point σ κ) : Transition operation point (point.handled handler)
  /-- The compiler answers a call, and the session takes no notice of it. -/
  | asked {call : ServiceCall} (due : operation.Asks call) {point : Point σ κ}
      (plain : call.isPlain = true ∨ ¬ point.Grants call) :
      Transition operation point (point.asked call)
  /-- The output mode is chosen, and no library waits for it any longer. -/
  | chosen {mode : OutputMode} (due : operation = .setOutputMode mode) {point : Point σ κ}
      (empty : point.session.stage = .empty) (grants : point.Grants (.setOutputMode mode)) :
      Transition operation point ((point.asked (.setOutputMode mode)).update fun session =>
        { session with output := some mode, pendingLibraries := [] })
  /-- A library waits for the output mode. -/
  | waits {name : String} (due : operation = .addLibrary name) {point : Point σ κ}
      (unset : point.session.output = none) :
      Transition operation point (point.update fun session =>
        { session with pendingLibraries := session.pendingLibraries ++ [name] })
  /-- Something is compiled. -/
  | compiled {call : ServiceCall} (due : operation.Asks call) (compiles : call.compiles = true)
      {point : Point σ κ} (set : point.session.output.isSome = true)
      (unlinked : point.session.stage ≠ .relocated) (grants : point.Grants call) :
      Transition operation point ((point.asked call).update fun session =>
        { session with stage := .compiled })
  /-- A closure is registered under a name. -/
  | registered {name : String} {address : UInt64}
      (due : operation.Asks (.addSymbol name address)) {point : Point σ κ}
      (given : operation = .register name address ∨
        ∃ closure, ⟨address, closure⟩ ∈ point.made)
      (identifier : Text.isIdentifier name = true) (unlinked : point.session.stage ≠ .relocated)
      (fresh : name ∉ point.session.symbols) (grants : point.Grants (.addSymbol name address)) :
      Transition operation point ((point.asked (.addSymbol name address)).update fun session =>
        { session with
          symbols := name :: session.symbols
          retained := session.retained ++ [address] })
  /-- The name that was registered last is noted as one that releases handles. -/
  | noted {name : String} {symbols : List String} {retained : List UInt64}
      {placement : Placement κ} {point : Point σ κ}
      (symbol : point.session.symbols = name :: symbols)
      (behind : point.session.retained = retained ++ [placement.address])
      (made : placement ∈ point.made)
      (releases : ∃ type, type.signature = releaseSignature ∧ placement.closure =
        ⟨type, name, .ofTypes [.pointer] .void, none,
          .function (releaseBody point.session.registry), []⟩) :
      Transition operation point (point.update fun session =>
        { session with releaseSymbols := name :: session.releaseSymbols })
  /-- What was compiled is linked. -/
  | relocated (due : operation = .relocate) {point : Point σ κ} (ready : point.session.Ready)
      (grants : point.Grants .relocate) :
      Transition operation point ((point.asked .relocate).update fun session =>
        { session with stage := .relocated })
  /-- The compiler is let run the program. -/
  | ran {args : List String} (due : operation = .run args) {point : Point σ κ}
      (ready : point.session.Ready) :
      Transition operation point ((point.ran args).update fun session =>
        { session with stage := .relocated })
  /-- The compiler looks a name up in linked code. -/
  | lookedUp (name : String) {point : Point σ κ} (due : operation.registers = false)
      (linked : point.session.stage = .relocated) :
      Transition operation point (point.lookedUp name)

/-! ### Chains of transitions -/

variable {α β : Type} {operation : Operation κ} {point reached : Point σ κ}

/-- A part of an operation is a chain of transitions, and what it answers fits where it ends. -/
def Chains (operation : Operation κ) (part : SessionM σ κ α) (point : Point σ κ)
    (gives : α → Point σ κ → Prop) : Prop :=
  ∃ reached, ReflTransGen (Transition operation) point reached ∧
    (part (point.session, point.world)).2 = (reached.session, reached.world) ∧
    ∀ a, (part (point.session, point.world)).1 = .ok a → gives a reached

namespace Chains

variable {part : SessionM σ κ α} {next : α → SessionM σ κ β} {gives middle : α → Point σ κ → Prop}
  {ends : β → Point σ κ → Prop}

theorem weaken (chains : Chains operation part point middle)
    (weaker : ∀ a reached, middle a reached → gives a reached) :
    Chains operation part point gives := by
  obtain ⟨reached, chain, state, answer⟩ := chains
  exact ⟨reached, chain, state, fun a same => weaker a reached (answer a same)⟩

theorem bind (chains : Chains operation part point middle)
    (later : ∀ a reached, middle a reached → Chains operation (next a) reached ends) :
    Chains operation (part >>= next) point ends := by
  obtain ⟨reached, chain, state, answer⟩ := chains
  rw [Chains, SessionM.bind_apply]
  revert state answer
  obtain ⟨result, after⟩ := part (point.session, point.world)
  rintro rfl answer
  cases result with
  | error error => exact ⟨reached, chain, rfl, fun _ same => by cases same⟩
  | ok a =>
    obtain ⟨last, more, same, gives⟩ := later a reached (answer a rfl)
    exact ⟨last, chain.trans more, same, gives⟩

/-- A part that leaves everything as it is. -/
theorem silent (kept : (part (point.session, point.world)).2 = (point.session, point.world)) :
    Chains operation part point fun a reached =>
      (part (point.session, point.world)).1 = .ok a ∧ reached = point :=
  ⟨point, .refl, kept, fun _ same => ⟨same, rfl⟩⟩

theorem pure (a : α) : Chains operation (Pure.pure a : SessionM σ κ α) point fun given reached =>
    given = a ∧ reached = point := by
  refine (silent rfl).weaken ?_
  rintro _ _ ⟨same, stays⟩
  cases same
  exact ⟨rfl, stays⟩

theorem throw (error : Error) (gives : α → Point σ κ → Prop) :
    Chains operation (MonadExcept.throw error : SessionM σ κ α) point gives := by
  refine (silent rfl).weaken ?_
  rintro _ _ ⟨same, -⟩
  cases same

theorem current {next : Session σ → SessionM σ κ β}
    (later : Chains operation (next point.session) point ends) :
    Chains operation (Session.current >>= next) point ends := by
  apply (silent rfl).bind
  rintro _ _ ⟨same, rfl⟩
  cases same
  exact later

theorem ofExcept {result : Except Error α}
    (later : ∀ a, result = .ok a → Chains operation (next a) point ends) :
    Chains operation (MonadExcept.ofExcept result >>= next) point ends := by
  have passed := SessionM.ofExcept_apply result (point.session, point.world)
  have kept := congrArg Prod.snd passed
  apply (silent kept).bind
  rintro a _ ⟨same, rfl⟩
  rw [passed] at same
  exact later a same

theorem require {condition : Bool} {error : Error} {next : Unit → SessionM σ κ β}
    (later : condition = true → Chains operation (next ()) point ends) :
    Chains operation (Session.require condition error >>= next) point ends := by
  cases condition with
  | true =>
    refine (pure ()).bind ?_
    rintro _ _ ⟨-, rfl⟩
    exact later rfl
  | false => exact (throw error fun _ _ => False).bind fun _ _ never => never.elim

/-- A part that is one transition. -/
theorem one (step : Transition operation point reached)
    (state : (part (point.session, point.world)).2 = (reached.session, reached.world)) :
    Chains operation part point fun a last =>
      (part (point.session, point.world)).1 = .ok a ∧ last = reached :=
  ⟨reached, .single step, state, fun _ same => ⟨same, rfl⟩⟩

/-- Something in the process alone, which is a chain of transitions. -/
theorem inWorld {step : World κ → Except Error α × World κ}
    (chain : ReflTransGen (Transition operation) point reached)
    (session : reached.session = point.session) (world : reached.world = (step point.world).2) :
    Chains operation (Session.inWorld step) point fun a last =>
      (step point.world).1 = .ok a ∧ last = reached := by
  refine ⟨reached, chain, ?_, ?_⟩
  · rw [SessionM.inWorld_apply, session, world]
  · intro a same
    rw [SessionM.inWorld_apply] at same
    exact ⟨same, rfl⟩

/-- A call of which the session takes notice when it is granted, and then something else. -/
theorem request_then {call : ServiceCall} {next : Unit → SessionM σ κ α} (due : operation.Asks call)
    (granted : point.Grants call → ∃ (rest : SessionM σ κ α) (noticed : Point σ κ),
      Transition operation point noticed ∧
        next () ((point.asked call).session, (point.asked call).world) =
          rest (noticed.session, noticed.world) ∧ Chains operation rest noticed gives) :
    Chains operation (Session.request call >>= next) point gives := by
  have asked : (Session.request call : SessionM σ κ Unit) (point.session, point.world) =
      ((CompilationService.perform call point.session.service point.world).1,
        (point.asked call).session, (point.asked call).world) :=
    SessionM.request_apply call point.session point.world
  rw [Chains, SessionM.bind_apply, asked]
  cases answer : (CompilationService.perform call point.session.service point.world).1 with
  | error error =>
    have refused : ¬ point.Grants call := by
      rw [Point.Grants, answer]
      intro same
      cases same
    exact ⟨point.asked call, .single (.asked due (.inr refused)), rfl, fun _ same => by cases same⟩
  | ok done =>
    obtain ⟨rest, noticed, step, same, reached, chain, state, ends⟩ := granted answer
    dsimp only
    rw [same]
    exact ⟨reached, .head step chain, state, ends⟩

/-- A call of which the session takes notice when it is granted. -/
theorem request_update {call : ServiceCall} {change : Session σ → Session σ}
    (due : operation.Asks call)
    (granted : point.Grants call → Transition operation point ((point.asked call).update change)) :
    Chains operation (Session.request call >>= fun _ => Session.update change) point
      fun _ reached => reached = (point.asked call).update change := by
  apply request_then due
  intro grants
  refine ⟨Pure.pure (), _, granted grants, rfl, (pure ()).weaken ?_⟩
  rintro _ _ ⟨-, stays⟩
  exact stays

/-- A call of which the session takes no notice. -/
theorem request {call : ServiceCall} (due : operation.Asks call) (plain : call.isPlain = true) :
    Chains operation (Session.request call) point fun _ _ => True := by
  refine ⟨point.asked call, .single (.asked due (.inl plain)), ?_, fun _ _ => trivial⟩
  rw [SessionM.request_apply]
  rfl

theorem forM {step : α → SessionM σ κ Unit}
    (each : ∀ a point, Chains operation (step a) point fun _ _ => True) (items : List α)
    (point : Point σ κ) : Chains operation (items.forM step) point fun _ _ => True := by
  induction items generalizing point with
  | nil => exact (pure ()).weaken fun _ _ _ => trivial
  | cons first rest ih => exact (each first point).bind fun _ reached _ => ih reached

/-- Whatever an operation answers can be dropped. -/
theorem dropped (chains : Chains operation part point gives) :
    Chains operation (part >>= fun _ => Pure.pure () : SessionM σ κ Unit) point
      fun _ _ => True :=
  chains.bind fun _ _ _ => (pure ()).weaken fun _ _ _ => trivial

end Chains

/-! ### Checks -/

theorem requireOutput_chains {next : OutputMode → SessionM σ κ α} {gives : α → Point σ κ → Prop}
    (later : ∀ mode, point.session.output = some mode → Chains operation (next mode) point gives) :
    Chains operation (requireOutput >>= next) point gives := by
  have checked := SessionM.requireOutput_apply (κ := κ) point.session point.world
  apply (Chains.silent (congrArg Prod.snd checked)).bind
  rintro mode reached ⟨same, stays⟩
  rw [stays]
  rw [checked] at same
  cases output : point.session.output with
  | none =>
    rw [output] at same
    cases same
  | some chosen =>
    rw [output] at same
    cases same
    exact later mode output

theorem requireMemory_chains {next : Unit → SessionM σ κ α} {gives : α → Point σ κ → Prop}
    (later : point.session.output = some .memory → Chains operation (next ()) point gives) :
    Chains operation (requireMemory >>= next) point gives := by
  rw [requireMemory, bind_assoc]
  apply requireOutput_chains
  intro mode output
  apply Chains.require
  intro same
  rw [eq_of_beq same] at output
  exact later output

theorem requireCompiled_chains {next : Unit → SessionM σ κ α} {gives : α → Point σ κ → Prop}
    (later : point.session.stage = .compiled → Chains operation (next ()) point gives) :
    Chains operation (requireCompiled >>= next) point gives := by
  rw [requireCompiled, bind_assoc]
  apply Chains.current
  cases stage : point.session.stage with
  | empty => exact (Chains.throw _ fun _ _ => False).bind fun _ _ never => never.elim
  | relocated => exact (Chains.throw _ fun _ _ => False).bind fun _ _ never => never.elim
  | compiled =>
    refine (Chains.pure ()).bind ?_
    rintro _ _ ⟨-, rfl⟩
    exact later stage

/-! ### Configuration and compilation -/

theorem setOutputMode_chains (mode : OutputMode) (point : Point σ κ) :
    Chains (.setOutputMode mode) (setOutputMode mode) point fun _ _ => True := by
  apply Chains.current
  apply Chains.require
  intro empty
  have due : (Operation.setOutputMode mode : Operation κ).Asks (.setOutputMode mode) := .inl rfl
  have also (library : String) :
      (Operation.setOutputMode mode : Operation κ).Asks (.addLibrary library) :=
    .inr ⟨library, rfl⟩
  apply Chains.request_then due
  intro grants
  refine ⟨point.session.pendingLibraries.forM fun library => request (.addLibrary library), _,
    .chosen rfl (eq_of_beq empty) grants, rfl, ?_⟩
  exact .forM (fun library point => .request (also library) rfl) _ _

theorem addLibrary_chains (name : String) (point : Point σ κ) :
    Chains (.addLibrary name) (addLibrary name) point fun _ _ => True := by
  apply Chains.current
  split
  · next unset =>
    have waits : Transition (.addLibrary name) point (point.update fun session =>
        { session with pendingLibraries := session.pendingLibraries ++ [name] }) :=
      .waits rfl (by simpa using unset)
    exact (Chains.one waits rfl).weaken fun _ _ _ => trivial
  · exact .request rfl rfl

theorem compileWith_chains {call : ServiceCall} (due : operation.Asks call)
    (compiles : call.compiles = true) (point : Point σ κ) :
    Chains operation (compileWith call) point fun _ _ => True := by
  apply requireOutput_chains
  intro mode output
  apply Chains.current
  apply Chains.require
  intro unlinked
  have set : point.session.output.isSome = true := by rw [output]; rfl
  have stage : point.session.stage ≠ .relocated := by simpa using unlinked
  exact (Chains.request_update due (.compiled due compiles set stage)).weaken
    fun _ _ _ => trivial

/-! ### Symbols -/

/-- The name and the address that were registered last. -/
def Point.LastRegistered (point : Point σ κ) (name : String) (address : UInt64) : Prop :=
  ∃ symbols retained, point.session.symbols = name :: symbols ∧
    point.session.retained = retained ++ [address]

theorem register_chains (registers : operation.registers = true) (name : String) (address : UInt64)
    (given : operation = .register name address ∨ ∃ closure, ⟨address, closure⟩ ∈ point.made) :
    Chains operation (register name address) point fun _ reached =>
      reached.LastRegistered name address ∧ reached.made = point.made ∧
        reached.session.registry = point.session.registry := by
  apply Chains.current
  apply Chains.require
  intro identifier
  apply Chains.require
  intro unlinked
  apply Chains.require
  intro fresh
  have stage : point.session.stage ≠ .relocated := by simpa using unlinked
  have unknown : name ∉ point.session.symbols := by simpa [isRegistered] using fresh
  have due : operation.Asks (.addSymbol name address) := .addSymbol registers name address
  refine (Chains.request_update due (.registered due given identifier stage unknown)).weaken ?_
  rintro _ _ rfl
  exact ⟨⟨_, _, rfl, rfl⟩, rfl, rfl⟩

/-- The point after a callable type was made. -/
def Point.typed (point : Point σ κ) (types : TypeCache κ) : Point σ κ :=
  { point with world := { point.world with types := types } }

/-- A chain of transitions that prepare something in the process alone. -/
structure Prepares (operation : Operation κ) (point reached : Point σ κ) (after : World κ) :
    Prop where
  chain : ReflTransGen (Transition operation) point reached
  session : reached.session = point.session
  world : reached.world = after
  kept : point.made ⊆ reached.made

theorem Prepares.refl (operation : Operation κ) (point : Point σ κ) :
    Prepares operation point point point.world :=
  ⟨.refl, rfl, rfl, List.Subset.refl _⟩

theorem Prepares.trans {middle last : Point σ κ} {first second : World κ}
    (one : Prepares operation point middle first) (two : Prepares operation middle last second) :
    Prepares operation point last second :=
  ⟨one.chain.trans two.chain, two.session.trans one.session, two.world,
    List.Subset.trans one.kept two.kept⟩

theorem Prepares.typed (operation : Operation κ) (point : Point σ κ) (types : TypeCache κ) :
    Prepares operation point (point.typed types) (point.typed types).world :=
  ⟨.single (.typed types point), rfl, rfl, List.Subset.refl _⟩

/-- Something in the process alone, which transitions prepare. -/
theorem Chains.prepared {step : World κ → Except Error α × World κ}
    (prepares : Prepares operation point reached (step point.world).2) :
    Chains operation (Session.inWorld step) point fun a last =>
      (step point.world).1 = .ok a ∧ last = reached :=
  .inWorld prepares.chain prepares.session prepares.world

theorem addClosure_prepares (operation : Operation κ) (point : Point σ κ) {type : CallableType κ}
    {label : String} {plan : MarshalPlan κ} {registry : Option Nat} {handler : Handler κ}
    {address : UInt64} {after : World κ}
    (proper : (⟨type, label, plan, registry, handler, []⟩ : Closure κ).IsProper)
    (added : point.world.addClosure type label plan registry handler = .ok (address, after)) :
    ∃ reached, Prepares operation point reached after ∧
      reached.made = ⟨address, type, label, plan, registry, handler, []⟩ :: point.made := by
  obtain ⟨rfl, rfl⟩ := World.addClosure_ok added
  exact ⟨_, ⟨.single (.placed proper point), rfl, rfl, List.subset_cons_self _ _⟩, rfl⟩

/-- A closure around host code runs no member. -/
theorem function_isProper {type : CallableType κ} {label : String} {plan : MarshalPlan κ}
    {body : List (Value κ) → Code κ} :
    (⟨type, label, plan, none, .function body, []⟩ : Closure κ).IsProper :=
  fun _ _ runs => by cases runs

theorem callableType_chains (signature : Signature κ) :
    Chains operation (callableType signature) point fun type reached =>
      type.signature = signature ∧ reached.session = point.session ∧
        reached.made = point.made := by
  cases interned : point.world.internType signature with
  | error error =>
    refine (Chains.inWorld .refl rfl ?_).weaken ?_
    · rw [interned]
    · rintro type _ ⟨same, -⟩
      rw [interned] at same
      cases same
  | ok made =>
    obtain ⟨signed, types, changed⟩ := World.internType_ok interned
    refine (Chains.inWorld (.single (.typed types point)) rfl ?_).weaken ?_
    · rw [interned, changed]
    · rintro type _ ⟨same, rfl⟩
      rw [interned] at same
      cases same
      exact ⟨signed, rfl, rfl⟩

theorem wrapUnder_chains (type : CallableType κ) (label : String)
    (body : List (Value κ) → Code κ) :
    Chains operation (wrapUnder type label body) point fun address reached =>
      reached.session = point.session ∧ reached.made = ⟨address, type, label,
        .ofTypes type.signature.parameters type.signature.result, none, .function body, []⟩ ::
          point.made := by
  cases wrapped : point.world.wrap type label body with
  | error error =>
    refine (Chains.inWorld .refl rfl ?_).weaken ?_
    · rw [wrapped]
    · rintro address _ ⟨same, -⟩
      rw [wrapped] at same
      cases same
  | ok put =>
    rcases put with ⟨address, after⟩
    rw [World.wrap] at wrapped
    obtain ⟨reached, prepares, made⟩ :=
      addClosure_prepares operation point function_isProper wrapped
    refine (Chains.inWorld prepares.chain prepares.session ?_).weaken ?_
    · rw [World.wrap, wrapped, prepares.world]
    · rintro _ _ ⟨same, rfl⟩
      rw [World.wrap, wrapped] at same
      cases same
      exact ⟨prepares.session, made⟩

/-- The callable type of a host function is made even if the closure is refused. -/
theorem wrapFunction_prepares (operation : Operation κ) (function : HostFunction κ)
    (label : String) (point : Point σ κ) :
    ∃ reached, Prepares operation point reached (point.world.wrapFunction function label).2 ∧
      ∀ address, (point.world.wrapFunction function label).1 = .ok address →
        ∃ closure, ⟨address, closure⟩ ∈ reached.made := by
  rw [World.wrapFunction]
  cases interned : point.world.internType function.signature with
  | error error => exact ⟨point, .refl operation point, fun _ put => by cases put⟩
  | ok made =>
    rcases made with ⟨type, after⟩
    obtain ⟨-, types, rfl⟩ := World.internType_ok interned
    have typed : Prepares operation point (point.typed types) _ := .typed operation point types
    dsimp only
    cases wrapped : World.wrap { point.world with types := types } type label function.body with
    | error error => exact ⟨_, typed, fun _ put => by cases put⟩
    | ok put =>
      rcases put with ⟨address, after⟩
      rw [World.wrap] at wrapped
      obtain ⟨reached, prepares, made⟩ :=
        addClosure_prepares operation (point.typed types) function_isProper wrapped
      refine ⟨reached, typed.trans prepares, ?_⟩
      rintro _ ⟨⟩
      exact ⟨_, made ▸ List.mem_cons_self⟩

theorem addSymbol_chains (name : String) (function : HostFunction κ) (point : Point σ κ) :
    Chains (.addSymbol name function) (addSymbol name function) point fun _ _ => True := by
  have wrapped : Chains (.addSymbol name function) (Session.inWorld fun world =>
      ((world.wrapFunction function name).1.mapError Error.callable,
        (world.wrapFunction function name).2)) point
      fun address reached => ∃ closure, ⟨address, closure⟩ ∈ reached.made := by
    obtain ⟨reached, prepares, puts⟩ :=
      wrapFunction_prepares (.addSymbol name function) function name point
    apply (Chains.prepared prepares).weaken
    rintro address _ ⟨same, rfl⟩
    cases result : (point.world.wrapFunction function name).1 with
    | error error =>
      rw [result] at same
      cases same
    | ok put =>
      rw [result] at same
      cases same
      exact puts address result
  apply wrapped.bind
  intro address reached made
  exact (register_chains rfl name _ (.inr made)).weaken fun _ _ _ => trivial

theorem addDynamicSymbol_chains (name : String) (type : CallableType κ)
    (body : List (Value κ) → Code κ) (point : Point σ κ) :
    Chains (.addDynamicSymbol name type body) (addDynamicSymbol name type body) point
      fun _ _ => True := by
  apply (wrapUnder_chains type name body).bind
  rintro address reached ⟨-, made⟩
  have among : ∃ closure, ⟨address, closure⟩ ∈ reached.made := ⟨_, made ▸ List.mem_cons_self⟩
  exact (register_chains rfl name _ (.inr among)).weaken fun _ _ _ => trivial

theorem ensureReleaseSymbol_chains (registers : operation.registers = true) (name : String)
    (point : Point σ κ) :
    Chains operation (ensureReleaseSymbol name) point fun _ reached =>
      point.made ⊆ reached.made := by
  apply Chains.current
  split
  · refine (Chains.pure ()).weaken ?_
    rintro _ _ ⟨-, rfl⟩
    exact List.Subset.refl _
  · apply (callableType_chains releaseSignature).bind
    rintro type typed ⟨signed, session, kept⟩
    apply (wrapUnder_chains type name (releaseBody point.session.registry)).bind
    rintro address put ⟨same, made⟩
    have among := made ▸ List.mem_cons_self
    apply (register_chains registers name address (.inr ⟨_, among⟩)).bind
    rintro _ registered ⟨⟨symbols, retained, symbol, behind⟩, stays, registry⟩
    have noted : Transition operation registered (registered.update fun session =>
        { session with releaseSymbols := name :: session.releaseSymbols }) := by
      refine .noted symbol behind (stays ▸ among) ⟨type, signed, ?_⟩
      rw [registry, same, session, signed]
      rfl
    refine (Chains.one noted rfl).weaken ?_
    rintro _ _ ⟨-, rfl⟩
    show point.made ⊆ registered.made
    rw [stays, made, kept]
    exact List.subset_cons_self _ _

theorem synthesize_prepares (operation : Operation κ) (member : Member κ) (symbol : String)
    (registry : Nat) (point : Point σ κ) :
    ∃ reached, Prepares operation point reached (point.world.synthesize member symbol registry).2 ∧
      ∀ thunk, (point.world.synthesize member symbol registry).1 = .ok thunk →
        ∃ closure, ⟨thunk.address, closure⟩ ∈ reached.made := by
  rw [World.synthesize]
  cases interned : point.world.internType (thunkSignature member) with
  | error error =>
    refine ⟨point, .refl operation point, ?_⟩
    intro thunk made
    cases made
  | ok made =>
    rcases made with ⟨type, after⟩
    obtain ⟨signed, types, rfl⟩ := World.internType_ok interned
    have typed : Prepares operation point (point.typed types) _ := .typed operation point types
    dsimp only
    cases added : World.addClosure { point.world with types := types } type symbol
        (thunkPlan member) (some registry) (.member (Dispatch.ofMember member) member) with
    | error error =>
      refine ⟨_, typed, ?_⟩
      intro thunk made
      cases made
    | ok put =>
      rcases put with ⟨address, after⟩
      have proper : (⟨type, symbol, thunkPlan member, some registry,
          .member (Dispatch.ofMember member) member, []⟩ : Closure κ).IsProper := by
        rintro _ _ ⟨⟩
        exact ⟨registry, signed, rfl, rfl, rfl⟩
      obtain ⟨reached, prepares, made⟩ :=
        addClosure_prepares operation (point.typed types) proper added
      refine ⟨reached, typed.trans prepares, ?_⟩
      rintro _ ⟨⟩
      exact ⟨_, made ▸ List.mem_cons_self⟩

/-- Thunks are made in order, and those before one that cannot be made stay. -/
theorem synthesizeAll_prepares (operation : Operation κ) (registry : Nat)
    (planned : List (Naming.PlannedSymbol κ)) (point : Point σ κ) :
    ∃ reached, Prepares operation point reached
        (World.synthesizeAll registry planned point.world).2 ∧
      ∀ thunks, (World.synthesizeAll registry planned point.world).1 = .ok thunks →
        ∀ thunk ∈ thunks, ∃ closure, ⟨thunk.address, closure⟩ ∈ reached.made := by
  induction planned generalizing point with
  | nil =>
    refine ⟨point, .refl operation point, ?_⟩
    rintro _ ⟨⟩ thunk found
    cases found
  | cons first rest ih =>
    obtain ⟨middle, one, put⟩ :=
      synthesize_prepares operation first.member first.symbol registry point
    rw [World.synthesizeAll]
    revert one put
    obtain ⟨result, left⟩ := point.world.synthesize first.member first.symbol registry
    intro one put
    cases result with
    | error error => exact ⟨middle, one, fun _ made => by cases made⟩
    | ok thunk =>
      obtain ⟨reached, others, each⟩ := ih middle
      rw [one.world] at others each
      revert others each
      dsimp only
      obtain ⟨result, last⟩ := World.synthesizeAll registry rest left
      intro others each
      cases result with
      | error error => exact ⟨reached, one.trans others, fun _ made => by cases made⟩
      | ok thunks =>
        refine ⟨reached, one.trans others, ?_⟩
        rintro _ ⟨⟩ later found
        rcases List.mem_cons.mp found with rfl | found
        · obtain ⟨closure, among⟩ := put later rfl
          exact ⟨closure, others.kept among⟩
        · exact each thunks rfl later found

theorem registerThunks_chains {thunks : List (Thunk κ)}
    (registers : operation.registers = true)
    (put : ∀ thunk ∈ thunks, ∃ closure, ⟨thunk.address, closure⟩ ∈ point.made) :
    Chains operation (registerThunks thunks) point fun _ _ => True := by
  induction thunks generalizing point with
  | nil => exact (Chains.pure ()).weaken fun _ _ _ => trivial
  | cons first rest ih =>
    have put' := put first List.mem_cons_self
    apply (register_chains registers first.symbol first.address (.inr put')).bind
    rintro _ registered ⟨-, made, -⟩
    apply ih
    intro thunk found
    rw [made]
    exact put thunk (List.mem_cons_of_mem _ found)

theorem bind_chains (description : TypeDescription κ) (rules : Naming.NamingRules)
    (registers : operation.registers = true) (point : Point σ κ) :
    Chains operation (bind description rules) point fun _ _ => True := by
  apply Chains.current
  apply Chains.ofExcept
  intro planned named
  split
  · exact .throw _ _
  · obtain ⟨reached, prepares, put⟩ :=
      synthesizeAll_prepares operation point.session.registry planned point
    apply (Chains.prepared prepares).bind
    rintro thunks _ ⟨made, rfl⟩
    apply (ensureReleaseSymbol_chains registers _ _).bind
    intro _ released kept
    have still : ∀ thunk ∈ thunks, ∃ closure, ⟨thunk.address, closure⟩ ∈ released.made := by
      intro thunk found
      obtain ⟨closure, among⟩ := put thunks made thunk found
      exact ⟨closure, kept among⟩
    apply (registerThunks_chains registers still).bind
    intro _ _ _
    exact (Chains.pure _).weaken fun _ _ _ => trivial

/-! ### Linking and running -/

theorem relocate_chains (point : Point σ κ) :
    Chains .relocate relocate point fun _ _ => True := by
  apply requireMemory_chains
  intro memory
  apply requireCompiled_chains
  intro ready
  have due : (Operation.relocate : Operation κ).Asks .relocate := rfl
  exact (Chains.request_update due (.relocated rfl ⟨memory, ready⟩)).weaken fun _ _ _ => trivial

theorem run_chains (args : List String) (point : Point σ κ) :
    Chains (.run args) (run args) point fun _ _ => True := by
  by_cases ready : point.session.Ready
  · have step : Transition (.run args) point ((point.ran args).update fun session =>
        { session with stage := .relocated }) := .ran rfl ready
    have ran := run_ready ready args point.world
    exact (Chains.one step (congrArg Prod.snd ran)).weaken fun _ _ _ => trivial
  · obtain ⟨error, refused⟩ := run_unready ready args point.world
    exact (Chains.silent (congrArg Prod.snd refused)).weaken fun _ _ _ => trivial

theorem outputFile_chains (path : String) (point : Point σ κ) :
    Chains (.outputFile path) (outputFile path) point fun _ _ => True := by
  apply requireOutput_chains
  intro mode _
  apply Chains.require
  intro _
  apply Chains.current
  apply Chains.require
  intro _
  have due : (Operation.outputFile path : Operation κ).Asks (.outputFile path) := rfl
  exact .request due rfl

theorem symbolAddress_chains (name : String) (due : operation.registers = false)
    (point : Point σ κ) :
    Chains operation (symbolAddress name) point fun _ _ => True := by
  cases stage : point.session.stage with
  | relocated =>
    have answered := SessionM.symbolAddress_apply name stage point.world
    refine (Chains.one (.lookedUp name due stage) ?_).weaken fun _ _ _ => trivial
    rw [answered]
    rfl
  | _ =>
    apply Chains.current
    rw [stage]
    exact .throw _ _

theorem getSymbol_chains (name : String) (type : CallableType κ)
    (due : operation.registers = false) (point : Point σ κ) :
    Chains operation (getSymbol name type) point fun _ _ => True := by
  apply (symbolAddress_chains name due point).bind
  intro address reached _
  have kept := SessionM.ofExcept_apply
    ((ForeignFunction.atAddress address type).mapError Error.callable)
    (reached.session, reached.world)
  exact (Chains.silent (congrArg Prod.snd kept)).weaken fun _ _ _ => trivial

theorem function_chains (name : String) (parameters : List (MarshalType κ))
    (result : MarshalType κ) (due : operation.registers = false) (point : Point σ κ) :
    Chains operation (function name parameters result) point fun _ _ => True := by
  apply (callableType_chains (.ofMarshal parameters result)).bind
  intro type reached _
  exact getSymbol_chains name type due reached

/-! ### Operations -/

/-- Every operation is a chain of transitions. -/
theorem Operation.perform_chains (operation : Operation κ) (point : Point σ κ) :
    Chains operation operation.perform point fun _ _ => True := by
  have single {reached : Point σ κ} (step : Transition operation point reached)
      (state : (operation.perform (point.session, point.world)).2 =
        (reached.session, reached.world)) :
      Chains operation operation.perform point fun _ _ => True :=
    (Chains.one step state).weaken fun _ _ _ => trivial
  cases operation with
  | withNaming naming => exact single (.named rfl point) rfl
  | setOutputMode mode => exact setOutputMode_chains mode point
  | setLibPath path => exact .request rfl rfl
  | setOptions options => exact .request rfl rfl
  | addIncludePath path => exact .request rfl rfl
  | addSysincludePath path => exact .request rfl rfl
  | addLibraryPath path => exact .request rfl rfl
  | defineSymbol name value => exact .request rfl rfl
  | undefineSymbol name => exact .request rfl rfl
  | addLibrary name => exact addLibrary_chains name point
  | setDiagnosticHandler handler => exact single (.handled rfl point) rfl
  | compileString source =>
    have due : (Operation.compileString source : Operation κ).Asks (.compileString source) := rfl
    exact compileWith_chains due rfl point
  | addFile path =>
    have due : (Operation.addFile path : Operation κ).Asks (.addFile path) := rfl
    exact compileWith_chains due rfl point
  | register name address => exact (register_chains rfl name _ (.inl rfl)).weaken fun _ _ _ => trivial
  | addSymbol name called => exact addSymbol_chains name called point
  | addDynamicSymbol name type body => exact addDynamicSymbol_chains name type body point
  | ensureReleaseSymbol name =>
    exact (ensureReleaseSymbol_chains rfl name point).weaken fun _ _ _ => trivial
  | releaseHandle handle =>
    apply Chains.current
    have step : Transition (.releaseHandle handle) point _ := .released rfl point
    exact (Chains.inWorld (.single step) rfl rfl).weaken fun _ _ _ => trivial
  | bind description rules => exact (bind_chains description rules rfl point).dropped
  | bindType description =>
    exact (Chains.current (bind_chains description _ rfl point)).dropped
  | relocate => exact relocate_chains point
  | run args => exact (run_chains args point).dropped
  | outputFile path => exact outputFile_chains path point
  | symbolAddress name => exact (symbolAddress_chains name rfl point).dropped
  | getSymbol name type => exact (getSymbol_chains name type rfl point).dropped
  | function name parameters result =>
    exact (function_chains name parameters result rfl point).dropped
  | elsewhere change => exact single (.elsewhere rfl point) rfl

/-- Every transition leaves a session its registry. -/
theorem Transition.registry {point reached : Point σ κ}
    (step : Transition operation point reached) :
    reached.session.registry = point.session.registry := by
  cases step <;> rfl

/-- Every operation leaves a session its registry. -/
theorem Operation.perform_registry (operation : Operation κ) (session : Session σ)
    (world : World κ) :
    (operation.perform (session, world)).2.1.registry = session.registry := by
  obtain ⟨reached, chain, state, -⟩ := operation.perform_chains ⟨session, world, []⟩
  rw [state]
  clear state
  induction chain with
  | refl => rfl
  | tail _ step ih => exact step.registry.trans ih

/-! ### Registering -/

theorem Operation.Asks.of_registers {call : ServiceCall} (asks : operation.Asks call)
    (registers : operation.registers = true) : ∃ name address, call = .addSymbol name address := by
  cases operation with
  | register | addSymbol | addDynamicSymbol | ensureReleaseSymbol | bind | bindType =>
    exact asks.2
  | _ => cases registers

/-- A relation between processes that holds of all that is done to register closures. -/
structure Registrable (σ : Type) [CompilationService σ κ] (R : World κ → World κ → Prop) :
    Prop where
  refl : ∀ world, R world world
  trans : ∀ {first middle last}, R first middle → R middle last → R first last
  typed : ∀ world types, R world { world with types := types }
  placed : ∀ (world : World κ) (closure : Closure κ), closure.IsProper →
    R world (world.addCode (.closure closure)).2
  added : ∀ name address (service : σ) world,
    R world (CompilationService.perform (.addSymbol name address) service world).2.2

namespace Registrable

variable {R : World κ → World κ → Prop}

theorem transition (holds : Registrable σ R) (registers : operation.registers = true)
    (step : Transition operation point reached) : R point.world reached.world := by
  have asked {call : ServiceCall} (due : operation.Asks call) (point : Point σ κ) :
      R point.world (point.asked call).world := by
    obtain ⟨name, address, rfl⟩ := due.of_registers registers
    exact holds.added name address _ _
  cases step with
  | named due | elsewhere due | released due | handled due | chosen due | relocated due
  | ran due =>
    rw [due] at registers
    cases registers
  | waits | noted => exact holds.refl _
  | typed types => exact holds.typed _ types
  | placed proper => exact holds.placed _ _ proper
  | asked due | compiled due | registered due => exact asked due _
  | lookedUp name due =>
    rw [due] at registers
    cases registers

/-- The relation holds of every operation that registers closures. -/
theorem perform (holds : Registrable σ R) (registers : operation.registers = true)
    (session : Session σ) (world : World κ) :
    R world (operation.perform (session, world)).2.2 := by
  obtain ⟨reached, chain, state, -⟩ := operation.perform_chains ⟨session, world, []⟩
  rw [state]
  clear state
  induction chain with
  | refl => exact holds.refl world
  | tail _ step ih => exact holds.trans ih (holds.transition registers step)

end Registrable

end Session

end NativeBridge
