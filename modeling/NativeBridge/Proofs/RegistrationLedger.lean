/-
Module: NativeBridge.Proofs.RegistrationLedger
Purpose: The names a session has registered, the closures behind them and what its compilation
  service has accepted agree, whatever is done with the session.
Main exports: registrationsIn, Session.registrations, Session.Accounted, Closure.ReleasesIn,
  Harmless, Session.Backed, Session.operations_accounted
-/
import Mathlib.Data.List.Nodup
import NativeBridge.Proofs.SessionTransitions
import NativeBridge.Proofs.TypeBinding
import NativeBridge.Workbench.Compilers
import NativeBridge.Workbench.Functions

namespace NativeBridge

open Relation (ReflTransGen)

variable {σ κ : Type} [HostProgram κ]

/-!
A session keeps its names and the addresses of its closures apart, the names latest first and the
addresses in order.  Read together they are the registrations that the service has accepted.  That
the closures still stand at their addresses takes more than the session: a service or another part
of the process could overwrite them.  So that part is said of services that leave closures alone.
-/

/-! ### Accounts -/

/-- The registration that a service has accepted. -/
def Exchange.registration? : Exchange → Option Registration
  | performed (.addSymbol name address) true => some ⟨name, address⟩
  | _ => none

/-- The registrations that a service has accepted, latest first. -/
def registrationsIn (log : List Exchange) : List Registration :=
  log.filterMap Exchange.registration?

/-- The addresses that a service has accepted under a name. -/
def addressesIn (log : List Exchange) (name : String) : List UInt64 :=
  ((registrationsIn log).filter fun one => one.symbol = name).map Registration.address

namespace Session

/-- The names and the addresses of a session, latest first. -/
def registrations {σ : Type} (session : Session σ) : List Registration :=
  List.zipWith Registration.mk session.symbols session.retained.reverse

/-- What the session says of its symbols is what its service has accepted, and its mode and its
stage fit what waits for them. -/
structure Accounted (session : Session (Logged σ)) : Prop where
  counted : session.retained.length = session.symbols.length
  accepted : registrationsIn session.service.log = session.registrations
  distinct : session.symbols.Nodup
  identifiers : ∀ name ∈ session.symbols, Text.isIdentifier name = true
  releases : session.releaseSymbols ⊆ session.symbols
  chosen : session.stage ≠ .empty → session.output.isSome = true
  memory : session.stage = .relocated → session.output = some .memory
  waiting : session.pendingLibraries ≠ [] → session.output = none

theorem create_accounted (service : σ) (world : World κ) :
    (create (⟨service, []⟩ : Logged σ) world).1.Accounted where
  counted := rfl
  accepted := rfl
  distinct := List.nodup_nil
  identifiers _ among := by cases among
  releases := List.Subset.refl _
  chosen stays := absurd rfl stays
  memory linked := by cases linked
  waiting stays := absurd rfl stays

/-- Of two names as many as addresses, the latest stands for the latest. -/
theorem registrations_cons {σ : Type} (session : Session σ) (name : String) (address : UInt64) :
    ({ session with
      symbols := name :: session.symbols
      retained := session.retained ++ [address] }).registrations =
        ⟨name, address⟩ :: session.registrations := by
  simp [registrations]

variable [CompilationService σ κ] {operation : Operation κ} {point reached : Point (Logged σ) κ}

/-- A call is logged with whether it was granted. -/
theorem Point.asked_log (point : Point (Logged σ) κ) (call : ServiceCall) :
    (point.Grants call ∧
        (point.asked call).session.service.log =
          .performed call true :: point.session.service.log) ∨
      (¬ point.Grants call ∧
        (point.asked call).session.service.log =
          .performed call false :: point.session.service.log) := by
  have logged : (point.asked call).session.service.log = .performed call
      (CompilationService.perform call point.session.service point.world).1.isOk ::
        point.session.service.log := rfl
  rw [logged, Point.Grants]
  cases (CompilationService.perform call point.session.service point.world).1 with
  | ok done => exact .inl ⟨rfl, rfl⟩
  | error error => exact .inr ⟨fun same => (by cases same), rfl⟩

/-- Only a name that is granted adds to the accepted registrations. -/
theorem Point.asked_registrations (point : Point (Logged σ) κ) (call : ServiceCall)
    (other : (∀ name address, call ≠ .addSymbol name address) ∨ ¬ point.Grants call) :
    registrationsIn (point.asked call).session.service.log =
      registrationsIn point.session.service.log := by
  obtain ⟨granted, log⟩ | ⟨-, log⟩ := point.asked_log call
  · have unnamed := other.resolve_right (not_not_intro granted)
    rw [log]
    cases call with
    | addSymbol name address => exact absurd rfl (unnamed name address)
    | _ => rfl
  · rw [log]
    cases call <;> rfl

/-- A transition keeps the accounts of a session. -/
theorem Transition.accounted (step : Transition operation point reached)
    (accounted : point.session.Accounted) : reached.session.Accounted := by
  cases step with
  | named | elsewhere | typed | placed | released => exact { accounted with }
  | handled => exact { accounted with }
  | @asked call due _ plain =>
    have same := point.asked_registrations call (plain.imp_left fun plain => by
      rintro name address rfl
      cases plain)
    exact { accounted with accepted := same.trans accounted.accepted }
  | @chosen mode due _ empty grants =>
    have same := point.asked_registrations (.setOutputMode mode)
      (.inl fun _ _ same => by cases same)
    exact { accounted with
      accepted := same.trans accounted.accepted
      chosen := fun _ => rfl
      memory := fun linked => by cases empty.symm.trans linked
      waiting := fun waits => absurd rfl waits }
  | waits due unset => exact { accounted with waiting := fun _ => unset }
  | @compiled call due compiles _ set unlinked grants =>
    have same := point.asked_registrations call (.inl (by
      rintro name address rfl
      cases compiles))
    exact { accounted with
      accepted := same.trans accounted.accepted
      chosen := fun _ => set
      memory := fun linked => by cases linked }
  | @registered name address due _ given identifier unlinked fresh grants =>
    obtain ⟨-, log⟩ | ⟨refused, -⟩ := point.asked_log (.addSymbol name address)
    · exact { accounted with
        counted := by
          show (point.session.retained ++ [address]).length = (name :: point.session.symbols).length
          rw [List.length_append, accounted.counted]
          rfl
        accepted := by
          have granted : registrationsIn (point.asked (.addSymbol name address)).session.service.log =
              ⟨name, address⟩ :: registrationsIn point.session.service.log := by
            rw [log]
            rfl
          exact (granted.trans (congrArg _ accounted.accepted)).trans
            (point.session.registrations_cons name address).symm
        distinct := List.nodup_cons.mpr ⟨fresh, accounted.distinct⟩
        identifiers := List.forall_mem_cons.mpr ⟨identifier, accounted.identifiers⟩
        releases := List.subset_cons_of_subset name accounted.releases }
    · exact absurd grants refused
  | noted symbol behind made releases =>
    have among : _ ∈ point.session.symbols := symbol ▸ List.mem_cons_self
    exact { accounted with releases := List.cons_subset.mpr ⟨among, accounted.releases⟩ }
  | relocated due ready grants =>
    have same := point.asked_registrations .relocate (.inl fun _ _ same => by cases same)
    exact { accounted with
      accepted := same.trans accounted.accepted
      chosen := fun _ => congrArg Option.isSome ready.1
      memory := fun _ => ready.1 }
  | ran due ready =>
    exact { accounted with
      accepted := accounted.accepted
      chosen := fun _ => congrArg Option.isSome ready.1
      memory := fun _ => ready.1 }
  | lookedUp name due linked => exact { accounted with }

/-- Every operation keeps the accounts of a session. -/
theorem Operation.perform_accounted (operation : Operation κ) {session : Session (Logged σ)}
    (world : World κ) (accounted : session.Accounted) :
    (operation.perform (session, world)).2.1.Accounted := by
  obtain ⟨reached, chain, state, -⟩ := operation.perform_chains ⟨session, world, []⟩
  rw [state]
  clear state
  induction chain with
  | refl => exact accounted
  | tail _ step ih => exact step.accounted ih

theorem performAll_accounted (operations : List (Operation κ)) {session : Session (Logged σ)}
    (world : World κ) (accounted : session.Accounted) :
    (performAll operations (session, world)).1.Accounted := by
  induction operations generalizing session world with
  | nil => exact accounted
  | cons operation rest ih => exact ih _ (operation.perform_accounted world accounted)

theorem zipped_symbols {names : List String} {addresses : List UInt64}
    (counted : names.length ≤ addresses.length) :
    (List.zipWith Registration.mk names addresses).map Registration.symbol = names := by
  rw [← List.map_uncurry_zip_eq_zipWith, List.map_map]
  exact List.map_fst_zip counted

/-- Of different names with as many addresses, each stands for one address. -/
theorem zipped_once {names : List String} {addresses : List UInt64}
    (counted : addresses.length = names.length) (distinct : names.Nodup) {name : String}
    (among : name ∈ names) :
    ∃ address ∈ addresses, ⟨name, address⟩ ∈ List.zipWith Registration.mk names addresses ∧
      (List.zipWith Registration.mk names addresses).filter (fun one => one.symbol = name) =
        [⟨name, address⟩] := by
  induction names generalizing addresses with
  | nil => cases among
  | cons first names ih =>
    cases addresses with
    | nil => cases counted
    | cons address addresses =>
      obtain ⟨apart, distinct⟩ := List.nodup_cons.mp distinct
      rw [List.zipWith_cons_cons, List.filter_cons]
      rcases List.mem_cons.mp among with rfl | among
      · have others : (List.zipWith Registration.mk names addresses).filter
            (fun one => one.symbol = name) = [] := by
          rw [List.filter_eq_nil_iff]
          intro one found same
          apply apart
          rw [← zipped_symbols (Nat.le_of_eq (Nat.succ.inj counted).symm),
            ← of_decide_eq_true same]
          exact List.mem_map_of_mem found
        refine ⟨address, List.mem_cons_self, List.mem_cons_self, ?_⟩
        simp [others]
      · have other : first ≠ name := by
          rintro rfl
          exact apart among
        obtain ⟨later, kept, found, once⟩ := ih (Nat.succ.inj counted) distinct among
        refine ⟨later, List.mem_cons_of_mem _ kept, List.mem_cons_of_mem _ found, ?_⟩
        simpa [other] using once

omit [CompilationService σ κ] in
/-- A registered name was accepted once, under an address that is retained. -/
theorem Accounted.accepted_once {session : Session (Logged σ)} (accounted : session.Accounted)
    {name : String} (registered : name ∈ session.symbols) :
    ∃ address ∈ session.retained, addressesIn session.service.log name = [address] ∧
      ⟨name, address⟩ ∈ session.registrations := by
  have counted : session.retained.reverse.length = session.symbols.length := by
    rw [List.length_reverse]
    exact accounted.counted
  obtain ⟨address, kept, found, once⟩ := zipped_once counted accounted.distinct registered
  refine ⟨address, List.mem_reverse.mp kept, ?_, found⟩
  rw [addressesIn, accounted.accepted, registrations, once]
  rfl

omit [CompilationService σ κ] in
/-- The name that was registered last stands for the address that was retained last. -/
theorem Accounted.latest_address {session : Session (Logged σ)} (accounted : session.Accounted)
    {name : String} {symbols : List String} {retained : List UInt64} {address : UInt64}
    (symbol : session.symbols = name :: symbols) (behind : session.retained = retained ++ [address])
    {one : Registration} (found : one ∈ session.registrations) (latest : one.symbol = name) :
    one.address = address := by
  have distinct := accounted.distinct
  have counted := accounted.counted
  rw [symbol, behind, List.length_append] at counted
  rw [symbol] at distinct
  rw [registrations, symbol, behind, List.reverse_append] at found
  rcases List.mem_cons.mp found with rfl | found
  · rfl
  · have symbols : one.symbol ∈ symbols := by
      have length : symbols.length ≤ retained.reverse.length := by
        rw [List.length_reverse]
        exact Nat.le_of_succ_le_succ (Nat.le_of_eq counted.symm)
      rw [← zipped_symbols length]
      exact List.mem_map_of_mem found
    exact absurd (latest ▸ symbols) (List.nodup_cons.mp distinct).1

end Session

/-! ### Closures that stand -/

/-- Entering the closure with a handle releases the handle in a registry, or parks the fault that
there is no such handle. -/
def Closure.ReleasesIn (closure : Closure κ) (registry : Nat) : Prop :=
  ∀ enter address handle world,
    closure.enter enter address [.pointer handle] world =
      match (world.registry registry).release handle with
      | .ok left => (.void, world.setRegistry registry left)
      | .error error => (.void, world.raise (.handle error))

/-- The code that releases handles asks for one release and tells what came of it. -/
theorem Session.releaseBody_run (enter : Entry κ) (registry : Nat) (handle : UInt64)
    (world : World κ) :
    (releaseBody registry [.pointer handle]).run enter .bare world =
      match (world.registry registry).release handle with
      | .ok left => (.returned (.ok .void), world.setRegistry registry left)
      | .error error => (.returned (.error (.handle error)), world) := by
  have read : Tuple.fromValues [MarshalType.pointer] [.pointer handle] world.heap =
    .ok (handle, ()) := rfl
  rw [releaseBody, Host.receiving, Code.run, read]
  dsimp only
  rw [Code.run, World.releaseHandle]
  cases (world.registry registry).release handle with
  | ok left => rfl
  | error error => rfl

/-- The closure behind a symbol that releases handles does so. -/
theorem Session.releaseBody_releasesIn {type : CallableType κ} (label : String) (registry : Nat)
    (returned : List UInt64) (signed : type.signature = releaseSignature) :
    Closure.ReleasesIn ⟨type, label, .ofTypes [.pointer] .void, none,
      .function (releaseBody registry), returned⟩ registry := by
  intro enter address handle world
  have delivered : deliver (releaseSignature.parameters.map (HostType.abi : HostType κ → AbiType))
      [.pointer handle] = [.pointer handle] := rfl
  have accepted : acceptAll none world.memory
      (MarshalPlan.ofTypes [.pointer] .void : MarshalPlan κ).parameters [.pointer handle]
      world.heap = .ok ([.pointer handle], [], world.heap) := rfl
  have ran : (Handler.function (releaseBody registry)).run enter [.pointer handle] world = _ :=
    releaseBody_run enter registry handle world
  simp only [Closure.enter, Closure.dispatch, signed, delivered, Option.map_none, accepted, ran]
  cases (world.registry registry).release handle with
  | ok left => rfl
  | error error => rfl

/-- A kind of states in which a service leaves all closures where they are. -/
structure Harmless [CompilationService σ κ] (Kind : σ → Prop) : Prop where
  perform : ∀ {service} call (world : World κ), Kind service →
    let answer := CompilationService.perform call service world
    Kind answer.2.1 ∧ world.KeepsClosures answer.2.2
  run : ∀ {service} args (world : World κ), Kind service →
    let answer := CompilationService.run args service world
    Kind answer.2.1 ∧ world.KeepsClosures answer.2.2
  symbolAddress : ∀ {service} name (world : World κ), Kind service →
    let answer := CompilationService.symbolAddress name service world
    Kind answer.2.1 ∧ world.KeepsClosures answer.2.2
  setDiagnosticHandler : ∀ {service} (handler : DiagnosticHandler κ) (world : World κ),
    Kind service → (∀ diagnostic (world : World κ), world.KeepsClosures (handler diagnostic world)) →
      let answer := CompilationService.setDiagnosticHandler handler service world
      Kind answer.1 ∧ world.KeepsClosures answer.2

namespace Session

/-- An operation that is given the address of a closure, and that leaves closures where they are if
it brings in code from elsewhere. -/
def Operation.SoundAt (operation : Operation κ) (world : World κ) : Prop :=
  match operation with
  | .register _ address => ∃ closure, world.Stands ⟨address, closure⟩
  | .setDiagnosticHandler handler =>
      ∀ diagnostic (world : World κ), world.KeepsClosures (handler diagnostic world)
  | .elsewhere change => world.KeepsClosures (change world)
  | _ => True

/-- Every registration stands for a closure, and those that are to release handles do so. -/
def Backed (session : Session σ) (world : World κ) : Prop :=
  ∀ one ∈ session.registrations, ∃ closure, world.Stands ⟨one.address, closure⟩ ∧
    (one.symbol ∈ session.releaseSymbols →
      ∀ returned, ({ closure with returned := returned }).ReleasesIn session.registry)

theorem Backed.kept {session : Session σ} {before after : World κ} (backed : session.Backed before)
    (kept : before.KeepsClosures after) : session.Backed after := by
  intro one found
  obtain ⟨closure, stands, releases⟩ := backed one found
  exact ⟨closure, stands.kept kept, releases⟩

/-- What an operation relies on while it goes on: a service that does no harm, and closures behind
all that was registered, made and given. -/
structure Rooted (Kind : σ → Prop) (operation : Operation κ) (point : Point (Logged σ) κ) :
    Prop where
  kind : Kind point.session.service.service
  made : ∀ placement ∈ point.made, point.world.Stands placement
  given : ∀ name address, operation = .register name address →
    ∃ closure, point.world.Stands ⟨address, closure⟩
  backed : point.session.Backed point.world

variable {Kind : σ → Prop} {operation : Operation κ} {point reached : Point (Logged σ) κ}

/-- As long as closures stay, an operation can rely on what it relied on. -/
theorem Rooted.kept (rooted : Rooted Kind operation point)
    (kept : point.world.KeepsClosures reached.world) (made : reached.made = point.made)
    (kind : Kind reached.session.service.service)
    (backed : point.session.Backed reached.world → reached.session.Backed reached.world) :
    Rooted Kind operation reached where
  kind := kind
  made placement among := (rooted.made placement (made ▸ among)).kept kept
  given name address due := by
    obtain ⟨closure, stands⟩ := rooted.given name address due
    exact ⟨closure, stands.kept kept⟩
  backed := backed (rooted.backed.kept kept)

/-- The session changes, and what was registered stays. -/
theorem Rooted.update (rooted : Rooted Kind operation point)
    {change : Session (Logged σ) → Session (Logged σ)}
    (kind : (change point.session).service = point.session.service)
    (backed : point.session.Backed point.world → (change point.session).Backed point.world) :
    Rooted Kind operation (point.update change) :=
  rooted.kept (.of_same rfl) rfl (kind ▸ rooted.kind) backed

variable [CompilationService σ κ]

/-- A call does no harm. -/
theorem Rooted.asked (harmless : Harmless Kind) (rooted : Rooted Kind operation point)
    (call : ServiceCall) : Rooted Kind operation (point.asked call) := by
  have answered := harmless.perform call point.world rooted.kind
  exact rooted.kept answered.2 rfl answered.1 id

/-- A run of the program does no harm. -/
theorem Rooted.ran (harmless : Harmless Kind) (rooted : Rooted Kind operation point)
    (args : List String) : Rooted Kind operation (point.ran args) := by
  have answered := harmless.run args { point.world with pending := none } rooted.kind
  have before : point.world.KeepsClosures { point.world with pending := none } := .of_same rfl
  exact rooted.kept ((before.trans answered.2).trans (.of_same rfl)) rfl answered.1 id

/-- A transition keeps what an operation relies on. -/
theorem Transition.rooted (harmless : Harmless Kind)
    (step : Transition operation point reached) (here : ∀ change, operation ≠ .elsewhere change)
    (mild : ∀ handler, operation = .setDiagnosticHandler handler →
      ∀ diagnostic (world : World κ), world.KeepsClosures (handler diagnostic world))
    (accounted : point.session.Accounted)
    (rooted : Rooted Kind operation point) : Rooted Kind operation reached := by
  cases step with
  | elsewhere due => exact absurd due (here _)
  | named | waits => exact rooted.update rfl id
  | typed => exact rooted.kept (.of_same rfl) rfl rooted.kind id
  | @placed closure =>
    have kept : point.world.KeepsClosures (point.world.addCode (.closure closure)).2 :=
      .addCode _ _
    exact {
      kind := rooted.kind
      made := List.forall_mem_cons.mpr
        ⟨World.nextPlacement_stands _ _, fun placement among =>
          (rooted.made placement among).kept kept⟩
      given := fun name address due => by
        obtain ⟨closure, stands⟩ := rooted.given name address due
        exact ⟨closure, stands.kept kept⟩
      backed := rooted.backed.kept kept }
  | @released handle =>
    exact rooted.kept (.releaseHandle _ _ _) rfl rooted.kind id
  | @handled handler due =>
    have answered := harmless.setDiagnosticHandler handler point.world rooted.kind (mild handler due)
    exact rooted.kept answered.2 rfl answered.1 id
  | @asked call => exact rooted.asked harmless call
  | @chosen mode => exact (rooted.asked harmless (.setOutputMode mode)).update rfl id
  | @compiled call => exact (rooted.asked harmless call).update rfl id
  | @registered name address due _ given identifier unlinked fresh grants =>
    have asked := rooted.asked harmless (.addSymbol name address)
    apply asked.update rfl
    intro backed
    have standing : ∃ closure,
        (point.asked (.addSymbol name address)).world.Stands ⟨address, closure⟩ := by
      rcases given with due | ⟨closure, made⟩
      · exact asked.given name address due
      · exact ⟨closure, asked.made _ made⟩
    obtain ⟨closure, stands⟩ := standing
    rw [Backed, registrations_cons]
    refine List.forall_mem_cons.mpr ⟨⟨closure, stands, ?_⟩, backed⟩
    intro noted
    exact absurd (accounted.releases noted) fresh
  | @noted name symbols retained placement _ symbol behind made releases =>
    apply rooted.update rfl
    intro backed one found
    by_cases latest : one.symbol = name
    · obtain ⟨type, signed, same⟩ := releases
      have address := accounted.latest_address symbol behind found latest
      refine ⟨placement.closure, address ▸ rooted.made placement made, ?_⟩
      intro _ returned
      rw [same]
      exact releaseBody_releasesIn name _ returned signed
    · obtain ⟨closure, stands, releasing⟩ := backed one found
      refine ⟨closure, stands, ?_⟩
      intro noted
      exact releasing ((List.mem_cons.mp noted).resolve_left latest)
  | relocated => exact (rooted.asked harmless .relocate).update rfl id
  | @ran args => exact (rooted.ran harmless args).update rfl id
  | lookedUp name =>
    have answered := harmless.symbolAddress name point.world rooted.kind
    exact rooted.kept answered.2 rfl answered.1 id

theorem performAll_registry (operations : List (Operation κ)) (session : Session σ)
    (world : World κ) :
    (performAll operations (session, world)).1.registry = session.registry := by
  induction operations generalizing session world with
  | nil => rfl
  | cons operation rest ih => exact (ih _ _).trans (operation.perform_registry session world)

/-- A sound operation keeps closures behind all registrations. -/
theorem Operation.perform_backed (harmless : Harmless Kind) (operation : Operation κ)
    {session : Session (Logged σ)} {world : World κ} (sound : operation.SoundAt world)
    (accounted : session.Accounted) (kind : Kind session.service.service)
    (backed : session.Backed world) :
    let after := (operation.perform (session, world)).2
    Kind after.1.service.service ∧ after.1.Backed after.2 := by
  by_cases elsewhere : ∃ change, operation = .elsewhere change
  · obtain ⟨change, rfl⟩ := elsewhere
    exact ⟨kind, backed.kept sound⟩
  · have here : ∀ change, operation ≠ .elsewhere change := fun change same =>
      elsewhere ⟨change, same⟩
    have mild : ∀ handler, operation = .setDiagnosticHandler handler →
        ∀ diagnostic (world : World κ), world.KeepsClosures (handler diagnostic world) := by
      rintro handler rfl
      exact sound
    have rooted : Rooted Kind operation ⟨session, world, []⟩ := {
      kind := kind
      made := fun _ among => by cases among
      given := by
        rintro name address rfl
        exact sound
      backed := backed }
    intro after
    obtain ⟨reached, chain, state, -⟩ := operation.perform_chains ⟨session, world, []⟩
    have both : reached.session.Accounted ∧ Rooted Kind operation reached := by
      clear state
      induction chain with
      | refl => exact ⟨accounted, rooted⟩
      | tail _ step ih => exact ⟨step.accounted ih.1, step.rooted harmless here mild ih.1 ih.2⟩
    have same : after = (reached.session, reached.world) := state
    rw [same]
    exact ⟨both.2.kind, both.2.backed⟩

/-- Operations that are sound where they are performed. -/
def SoundAlong (operations : List (Operation κ)) (state : Session σ × World κ) : Prop :=
  ∀ before operation after, operations = before ++ operation :: after →
    operation.SoundAt (performAll before state).2

theorem performAll_backed (harmless : Harmless Kind) (operations : List (Operation κ))
    {session : Session (Logged σ)} {world : World κ} (sound : SoundAlong operations (session, world))
    (accounted : session.Accounted) (kind : Kind session.service.service)
    (backed : session.Backed world) :
    let reached := performAll operations (session, world)
    reached.1.Backed reached.2 := by
  induction operations generalizing session world with
  | nil => exact backed
  | cons operation rest ih =>
    have first : operation.SoundAt world := sound [] operation rest rfl
    obtain ⟨kind', backed'⟩ := operation.perform_backed harmless first accounted kind backed
    apply ih _ (operation.perform_accounted world accounted) kind' backed'
    intro before later after parted
    exact sound (operation :: before) later after (congrArg (operation :: ·) parted)

/-- Whatever operations are performed on a new session and however its service answers, there are as
many closures retained as names registered.  Each name is an identifier, the service accepted it
once, and the address it accepted is retained.  As long as nothing that is brought in overwrites
closures, a closure stands at that address, and those of the names that are to release handles
release handles of the session's registry.  The names that release handles are among the
registered ones.  Something is compiled only when an output mode is chosen, and linked only in
memory; libraries wait only until a mode is chosen. -/
theorem operations_accounted (service : σ) (world : World κ) (operations : List (Operation κ)) :
    let start := create (⟨service, []⟩ : Logged σ) world
    let reached := performAll operations start
    let session := reached.1
    session.retained.length = session.symbols.length ∧
    (∀ name ∈ session.symbols, Text.isIdentifier name = true ∧
      ∃ address ∈ session.retained, addressesIn session.service.log name = [address] ∧
        ∀ Kind : σ → Prop, Harmless Kind → Kind service → SoundAlong operations start →
          ∃ index closure, address = World.codeAddress index ∧
            reached.2.code[index]? = some (.closure closure) ∧
            (name ∈ session.releaseSymbols → closure.ReleasesIn start.1.registry)) ∧
    (∀ name, name ∉ session.symbols → addressesIn session.service.log name = []) ∧
    session.releaseSymbols ⊆ session.symbols ∧ session.registry = start.1.registry ∧
    (session.stage ≠ .empty → session.output.isSome = true) ∧
    (session.stage = .relocated → session.output = some .memory) ∧
    (session.pendingLibraries ≠ [] → session.output = none) ∧
    performAll operations (create service world) = (session.dropLog, reached.2) := by
  intro start reached session
  have fresh : start.1.Accounted := create_accounted service world
  have accounted : session.Accounted := performAll_accounted operations start.2 fresh
  have registry : session.registry = start.1.registry := performAll_registry operations _ _
  refine ⟨accounted.counted, ?_, ?_, accounted.releases, registry, accounted.chosen,
    accounted.memory, accounted.waiting, performAll_agrees operations start.1 start.2⟩
  · intro name registered
    refine ⟨accounted.identifiers name registered, ?_⟩
    obtain ⟨address, kept, once, found⟩ := accounted.accepted_once registered
    refine ⟨address, kept, once, ?_⟩
    intro Kind harmless kind sound
    have empty : start.1.Backed start.2 := fun _ found => by cases found
    have backed := performAll_backed harmless operations sound fresh kind empty
    obtain ⟨closure, ⟨index, returned, place, there⟩, releases⟩ := backed _ found
    refine ⟨index, _, place, there, ?_⟩
    rw [← registry]
    exact fun noted => releases noted returned
  · intro name unregistered
    have counted : session.symbols.length ≤ session.retained.reverse.length := by
      rw [List.length_reverse]
      exact Nat.le_of_eq accounted.counted.symm
    rw [addressesIn, accounted.accepted, List.map_eq_nil_iff, List.filter_eq_nil_iff]
    intro one found same
    apply unregistered
    rw [← zipped_symbols counted, ← of_decide_eq_true same]
    exact List.mem_map_of_mem found

end Session

namespace Workbench

open Session

/-- A compiler without a program leaves closures where they are. -/
theorem scriptedCompiler_harmless :
    Harmless fun compiler : ScriptedCompiler => compiler.program.calls = [] where
  perform call world idle := by
    cases call with
    | addSymbol name address =>
      refine ⟨?_, .of_same rfl⟩
      show (if _ then ScriptedCompiler.withSymbol _ name address else _).program.calls = []
      split
      · exact idle
      · exact idle
    | _ => exact ⟨idle, .of_same rfl⟩
  run args world idle := by
    have ran (symbols : Names UInt64) (world : World Key) :
        performCalls symbols [] .empty world = ([], world) := rfl
    simp only [CompilationService.run, ScriptedCompiler.run, ScriptedCompiler.execute, idle, ran]
    exact ⟨trivial, .of_same rfl⟩
  symbolAddress name world idle := ⟨idle, .of_same rfl⟩
  setDiagnosticHandler handler world idle _ := ⟨idle, .of_same rfl⟩

/-- A function and the one that releases handles are registered, and the program is run. -/
def adderOperations : List (Operation Key) :=
  [.setOutputMode .memory, .ensureReleaseSymbol "drop_handle", .addSymbol "add" add,
    .compileString "int main(void);", .run []]

/-- The operations bring in no code from elsewhere. -/
theorem adderOperations_sound (state : Session (Logged ScriptedCompiler) × World Key) :
    SoundAlong adderOperations state := by
  intro before operation after parted
  have among : operation ∈ adderOperations := by
    rw [parted]
    exact List.mem_append_right _ List.mem_cons_self
  simp only [adderOperations, List.mem_cons, List.not_mem_nil, or_false] at among
  rcases among with rfl | rfl | rfl | rfl | rfl <;> exact trivial

/-- Both names were accepted once, and a closure stands behind the one that releases handles. -/
theorem adder_accounted :
    let start := create (⟨.fresh, []⟩ : Logged ScriptedCompiler) (World.initial Globals.initial)
    let reached := performAll adderOperations start
    reached.1.symbols = ["add", "drop_handle"] ∧
      Harmless (fun compiler : ScriptedCompiler => compiler.program.calls = []) ∧
      SoundAlong adderOperations start ∧
      ∃ address ∈ reached.1.retained,
        addressesIn reached.1.service.log "drop_handle" = [address] ∧
          ∃ index closure, address = World.codeAddress index ∧
            reached.2.code[index]? = some (.closure closure) ∧
            closure.ReleasesIn start.1.registry := by
  intro start reached
  have symbols : reached.1.symbols = ["add", "drop_handle"] := rfl
  have sound : SoundAlong adderOperations start := adderOperations_sound start
  obtain ⟨-, each, -⟩ :=
    operations_accounted ScriptedCompiler.fresh (World.initial Globals.initial) adderOperations
  have registered : "drop_handle" ∈ reached.1.symbols := by
    rw [symbols]
    exact List.mem_cons_of_mem _ List.mem_cons_self
  obtain ⟨-, address, kept, once, stands⟩ := each "drop_handle" registered
  obtain ⟨index, closure, place, there, releases⟩ :=
    stands _ scriptedCompiler_harmless rfl sound
  exact ⟨symbols, scriptedCompiler_harmless, sound, address, kept, once, index, closure, place,
    there, releases List.mem_cons_self⟩

end Workbench

end NativeBridge
