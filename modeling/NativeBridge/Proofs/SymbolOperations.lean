/-
Module: NativeBridge.Proofs.SymbolOperations
Purpose: Registering symbols and binding types move a session as they should: once the compiler was
  asked for a symbol, no later symbol of the same operation is refused by the session.
Main exports: World.synthesizeAll_symbols, Session.register_orderly,
  Session.ensureReleaseSymbol_orderly, Session.bind_orderly
-/
import NativeBridge.Proofs.SessionOperations
import NativeBridge.Proofs.SymbolPlans
import NativeBridge.Session.Symbols

namespace NativeBridge

variable {σ κ : Type} [HostProgram κ]

/-! ### Symbols of thunks -/

namespace World

theorem synthesize_symbol {world left : World κ} {member : Member κ} {symbol : String}
    {registry : Nat} {thunk : Thunk κ}
    (made : world.synthesize member symbol registry = (.ok thunk, left)) :
    thunk.symbol = symbol := by
  rw [synthesize] at made
  split at made
  · cases made
  · split at made
    · cases made
    · cases made
      rfl

/-- Thunks are made under the planned symbols. -/
theorem synthesizeAll_symbols {registry : Nat} {planned : List (Naming.PlannedSymbol κ)}
    {world : World κ} {thunks : List (Thunk κ)}
    (made : (synthesizeAll registry planned world).1 = .ok thunks) :
    thunks.map Thunk.symbol = planned.map Naming.PlannedSymbol.symbol := by
  induction planned generalizing world thunks with
  | nil =>
    cases made
    rfl
  | cons first rest ih =>
    rw [synthesizeAll] at made
    split at made
    · cases made
    · next thunk left one =>
      split at made
      · cases made
      · next later left' others =>
        cases made
        have same := ih (congrArg Prod.fst others)
        rw [List.map_cons, List.map_cons, same, synthesize_symbol one]

end World

/-! ### Registering -/

namespace Session

variable {session : Session (Logged σ)} {world : World κ}

/-- A name that a session takes as a new symbol. -/
structure Takes (session : Session (Logged σ)) (name : String) : Prop where
  identifier : Text.isIdentifier name = true
  unlinked : session.stage ≠ .relocated
  fresh : session.isRegistered name = false

/-- Either an operation has not asked the compiler for a symbol, or nothing is linked and the symbol
is registered once the compiler grants it. -/
def RegistersAt (name : String) (operation : SessionM (Logged σ) κ Unit)
    (session : Session (Logged σ)) (world : World κ) : Prop :=
  (operation (session, world)).2.1 = session ∨
    session.stage ≠ .relocated ∧
      session.Keeps (operation (session, world)).1 (operation (session, world)).2.1 ∧
      ((operation (session, world)).1 = .ok () →
        (operation (session, world)).2.1.symbols = name :: session.symbols)

theorem RegistersAt.inWorld {α : Type} {name : String} {step : World κ → Except Error α × World κ}
    {next : α → SessionM (Logged σ) κ Unit}
    (later : ∀ a left, RegistersAt name (next a) session left) :
    RegistersAt name (inWorld step >>= next) session world := by
  rw [RegistersAt, SessionM.bind_apply, SessionM.inWorld_apply]
  cases (step world).1 with
  | error error => exact .inl rfl
  | ok a => exact later a _

/-- Thunks of planned members that the session does not know have different identifiers as symbols,
none of them known and none the one that releases handles. -/
theorem thunks_unknown {description : TypeDescription κ} {rules : Naming.NamingRules}
    {planned : List (Naming.PlannedSymbol κ)} {registry : Nat} {thunks : List (Thunk κ)}
    (named : Naming.planSymbols description rules = .ok planned)
    (free : planned.find? (fun one => session.isRegistered one.symbol) = none)
    (made : (World.synthesizeAll registry planned world).1 = .ok thunks) :
    (∀ thunk ∈ thunks, Text.isIdentifier thunk.symbol = true ∧
      session.isRegistered thunk.symbol = false ∧ thunk.symbol ≠ rules.releaseSymbol) ∧
      (thunks.map Thunk.symbol).Nodup := by
  obtain ⟨each, distinct⟩ := Naming.planSymbols_ok named
  have symbols := World.synthesizeAll_symbols made
  constructor
  · intro thunk found
    have among : thunk.symbol ∈ planned.map Naming.PlannedSymbol.symbol := by
      rw [← symbols]
      exact List.mem_map_of_mem found
    obtain ⟨one, among, same⟩ := List.mem_map.mp among
    have unknown := List.find?_eq_none.mp free one among
    rw [← same]
    exact ⟨(each one among).1, by simpa using unknown, (each one among).2⟩
  · rw [symbols]
    exact distinct

variable [CompilationService σ κ]

/-- Whether a symbol that a session takes is registered is up to the compiler. -/
theorem register_asked {name : String} (takes : session.Takes name) (address : UInt64)
    (world : World κ) :
    (register name address : SessionM (Logged σ) κ Unit) (session, world) =
      (request (.addSymbol name address) >>= fun _ => update fun session =>
        { session with
          symbols := name :: session.symbols
          retained := session.retained ++ [address] } : SessionM (Logged σ) κ Unit)
        (session, world) := by
  have unlinked : (session.stage != .relocated) = true := by simpa using takes.unlinked
  have fresh : (!session.isRegistered name) = true := by simpa using takes.fresh
  rw [register, SessionM.bind_apply, SessionM.current_apply]
  dsimp only
  rw [takes.identifier, unlinked, fresh]
  rfl

/-- The compiler is asked for every symbol that a session takes, and a symbol that it grants is
registered. -/
theorem register_taken {name : String} (takes : session.Takes name) (address : UInt64)
    (world : World κ) :
    ∃ result after left,
      (register name address : SessionM (Logged σ) κ Unit) (session, world) =
        (result, after, left) ∧
      session.Keeps result after ∧
      (result = .ok () → after.symbols = name :: session.symbols) := by
  have timely (lawful : session.Lawful) (accepted : Bool) :
      Timely session.service.log (.performed (.addSymbol name address) accepted) :=
    lawful.not_linked takes.unlinked
  rw [register_asked takes, SessionM.bind_apply]
  obtain ⟨error, service, left, answer⟩ | ⟨service, left, answer⟩ :=
    SessionM.request_cases (.addSymbol name address) session world
  · rw [answer]
    refine ⟨_, _, _, rfl, SessionM.refused_keeps (fun lawful => timely lawful false)
      ⟨rfl, rfl, rfl⟩, ?_⟩
    intro granted
    cases granted
  · rw [answer]
    refine ⟨_, _, _, rfl, ?_, fun _ => rfl⟩
    exact {
      lawful := fun lawful => lawful.neutral (.performed (.addSymbol name address) true)
        (timely lawful true) ⟨rfl, rfl, rfl⟩ rfl rfl rfl
      stage := rfl
      log := ⟨[.performed (.addSymbol name address) true], rfl⟩
      failure := fun _ same => by cases same }

/-- A session refuses any other symbol, and is as before. -/
theorem register_refused {name : String} (refuses : ¬ session.Takes name) (address : UInt64)
    (world : World κ) :
    ∃ error, (register name address : SessionM (Logged σ) κ Unit) (session, world) =
      (.error error, session, world) := by
  rw [register, SessionM.bind_apply, SessionM.current_apply]
  dsimp only
  cases identifier : Text.isIdentifier name with
  | false => exact ⟨_, rfl⟩
  | true =>
    cases unlinked : session.stage != .relocated with
    | false => exact ⟨_, rfl⟩
    | true =>
      cases fresh : !session.isRegistered name with
      | false => exact ⟨_, rfl⟩
      | true => exact absurd ⟨identifier, by simpa using unlinked, by simpa using fresh⟩ refuses

theorem register_orderly (name : String) (address : UInt64) (session : Session (Logged σ))
    (world : World κ) :
    (register name address : SessionM (Logged σ) κ Unit).OrderlyAt session world := by
  rw [SessionM.OrderlyAt]
  by_cases takes : session.Takes name
  · obtain ⟨result, after, left, registered, keeps, -⟩ := register_taken takes address world
    rw [registered]
    exact keeps.moves
  · obtain ⟨error, refused⟩ := register_refused takes address world
    rw [refused]
    exact .same _ _

theorem addSymbol_orderly (name : String) (function : HostFunction κ) (session : Session (Logged σ))
    (world : World κ) :
    (addSymbol name function : SessionM (Logged σ) κ Unit).OrderlyAt session world := by
  apply SessionM.OrderlyAt.inWorld
  intro address left
  exact register_orderly name address session left

theorem addDynamicSymbol_orderly (name : String) (type : CallableType κ)
    (body : List (Value κ) → Code κ) (session : Session (Logged σ)) (world : World κ) :
    (addDynamicSymbol name type body : SessionM (Logged σ) κ Unit).OrderlyAt session world := by
  apply SessionM.OrderlyAt.inWorld
  intro address left
  exact register_orderly name address session left

/-! ### Binding -/

theorem ensureReleaseSymbol_registers (name : String) (session : Session (Logged σ))
    (world : World κ) : RegistersAt name (ensureReleaseSymbol name) session world := by
  have looked : (ensureReleaseSymbol name : SessionM (Logged σ) κ Unit) (session, world) =
      (if session.releaseSymbols.contains name then Pure.pure () else
        callableType releaseSignature >>= fun type =>
          wrapUnder type name (releaseBody session.registry) >>= fun address =>
            register name address >>= fun _ => update fun session =>
              { session with releaseSymbols := name :: session.releaseSymbols } :
        SessionM (Logged σ) κ Unit) (session, world) := rfl
  rw [RegistersAt, looked]
  split
  · exact .inl rfl
  · apply RegistersAt.inWorld
    intro type left
    apply RegistersAt.inWorld
    intro address left
    rw [RegistersAt, SessionM.bind_apply]
    by_cases takes : session.Takes name
    · obtain ⟨result, after, left, registered, keeps, grants⟩ := register_taken takes address left
      rw [registered]
      cases result with
      | error error =>
        refine .inr ⟨takes.unlinked, keeps, ?_⟩
        intro granted
        cases granted
      | ok granted =>
        refine .inr ⟨takes.unlinked, keeps.trans (.of_ok () rfl rfl rfl), ?_⟩
        intro _
        exact grants rfl
    · obtain ⟨error, refused⟩ := register_refused takes address left
      rw [refused]
      exact .inl rfl

theorem ensureReleaseSymbol_orderly (name : String) (session : Session (Logged σ))
    (world : World κ) :
    (ensureReleaseSymbol name : SessionM (Logged σ) κ Unit).OrderlyAt session world := by
  rw [SessionM.OrderlyAt]
  rcases ensureReleaseSymbol_registers name session world with unchanged | ⟨-, keeps, -⟩
  · rw [unchanged]
    exact .same _ _
  · exact keeps.moves

theorem registerThunks_cons (first : Thunk κ) (rest : List (Thunk κ)) :
    (registerThunks (first :: rest) : SessionM (Logged σ) κ Unit) =
      register first.symbol first.address >>= fun _ => registerThunks rest := rfl

/-- Thunks are all registered, or the compiler refuses one, if the session takes their symbols. -/
theorem registerThunks_keeps {thunks : List (Thunk κ)} {session : Session (Logged σ)}
    (unlinked : session.stage ≠ .relocated)
    (each : ∀ thunk ∈ thunks, Text.isIdentifier thunk.symbol = true ∧
      session.isRegistered thunk.symbol = false)
    (distinct : (thunks.map Thunk.symbol).Nodup) (world : World κ) :
    (registerThunks thunks : SessionM (Logged σ) κ Unit).KeepsAt session world := by
  induction thunks generalizing session world with
  | nil => exact .of_ok () rfl rfl rfl
  | cons first rest ih =>
    obtain ⟨identifier, fresh⟩ := each first List.mem_cons_self
    obtain ⟨result, after, left, registered, keeps, grants⟩ :=
      register_taken ⟨identifier, unlinked, fresh⟩ first.address world
    rcases List.nodup_cons.mp distinct with ⟨apart, distinct⟩
    rw [registerThunks_cons]
    refine .bind ?_ ?_
    · rw [SessionM.KeepsAt, registered]
      exact keeps
    · intro granted same
      rw [registered] at same ⊢
      refine ih ?_ ?_ distinct left
      · rw [keeps.stage]
        exact unlinked
      · -- The symbol that was just registered is none of those to come.
        intro thunk found
        obtain ⟨named, unknown⟩ := each thunk (List.mem_cons_of_mem _ found)
        refine ⟨named, ?_⟩
        have other : thunk.symbol ≠ first.symbol := by
          intro same
          apply apart
          rw [← same]
          exact List.mem_map_of_mem found
        rw [isRegistered, grants same]
        simpa [isRegistered, other] using unknown

theorem registerThunks_orderly {thunks : List (Thunk κ)} {session : Session (Logged σ)}
    (each : ∀ thunk ∈ thunks, Text.isIdentifier thunk.symbol = true ∧
      session.isRegistered thunk.symbol = false)
    (distinct : (thunks.map Thunk.symbol).Nodup) (world : World κ) :
    (registerThunks thunks : SessionM (Logged σ) κ Unit).OrderlyAt session world := by
  by_cases unlinked : session.stage = .relocated
  · cases thunks with
    | nil => exact .same _ _
    | cons first rest =>
      have refuses : ¬ session.Takes first.symbol := fun takes => takes.unlinked unlinked
      obtain ⟨error, refused⟩ := register_refused refuses first.address world
      rw [registerThunks_cons, SessionM.OrderlyAt, SessionM.bind_apply, refused]
      exact .same _ _
  · exact (registerThunks_keeps unlinked each distinct world).moves

/-- Once the compiler was asked for one symbol of a binding, the session takes the others. -/
theorem bind_orderly (description : TypeDescription κ) (rules : Naming.NamingRules)
    (session : Session (Logged σ)) (world : World κ) :
    (bind description rules : SessionM (Logged σ) κ (List String)).OrderlyAt session world := by
  apply SessionM.OrderlyAt.current
  apply SessionM.OrderlyAt.ofExcept
  intro planned named
  have named : Naming.planSymbols description rules = .ok planned := by
    cases plan : Naming.planSymbols description rules with
    | error error =>
      rw [plan] at named
      cases named
    | ok symbols =>
      rw [plan] at named
      cases named
      rfl
  split
  · exact .throw _
  · next free =>
    refine .silent ?_ ?_
    · rw [SessionM.inWorld_apply]
    intro thunks made
    rw [SessionM.inWorld_apply] at made ⊢
    obtain ⟨unknown, apart⟩ := thunks_unknown named free made
    have known (thunk : Thunk κ) (found : thunk ∈ thunks) :
        Text.isIdentifier thunk.symbol = true ∧ session.isRegistered thunk.symbol = false :=
      ⟨(unknown thunk found).1, (unknown thunk found).2.1⟩
    -- The symbol that releases handles is registered first, if it is not yet.
    rcases ensureReleaseSymbol_registers rules.releaseSymbol session
      (World.synthesizeAll session.registry planned world).2
      with unchanged | ⟨unlinked, keeps, grants⟩
    · refine .silent unchanged ?_
      intro _ _
      exact (registerThunks_orderly known apart _).then_pure _
    · apply Keeps.moves
      refine SessionM.KeepsAt.bind keeps ?_
      intro _ granted
      refine .bind (registerThunks_keeps ?_ ?_ apart _) fun _ _ => .of_ok _ rfl rfl rfl
      · rw [keeps.stage]
        exact unlinked
      · intro thunk found
        obtain ⟨identifier, fresh, other⟩ := unknown thunk found
        refine ⟨identifier, ?_⟩
        rw [isRegistered, grants granted]
        simpa [isRegistered, other] using fresh

theorem bindType_orderly (description : TypeDescription κ) (session : Session (Logged σ))
    (world : World κ) :
    (bindType description : SessionM (Logged σ) κ (List String)).OrderlyAt session world := by
  apply SessionM.OrderlyAt.current
  exact bind_orderly description session.naming session world

end Session

end NativeBridge
