/-
Module: NativeBridge.Proofs.TypeBinding
Purpose: Binding a type is tried out before the compiler is asked for anything; from then on only
  the compiler can stop it, and what was registered up to then stays registered.
Main exports: Session.CanBind, Session.enrolled, Session.Registers, Session.bind_registers
-/
import NativeBridge.Proofs.ClosureAddresses
import NativeBridge.Proofs.KeptLog
import NativeBridge.Proofs.SymbolOperations

namespace NativeBridge

variable {σ κ : Type} [HostProgram κ]

/-!
The symbols that are due for a type are the one that releases handles, unless the session has
registered it as such, and then one for each member that is shown.  A type can be bound if the
session takes all of them and every thunk has a valid signature.  If it cannot, the session is left
as it is.  If it can, the symbols are registered in order, up to one that the compiler refuses.
-/

/-- A symbol and the address of the closure that it stands for. -/
structure Registration where
  symbol : String
  address : UInt64
deriving Repr, DecidableEq

/-- The call that asks a compiler for a symbol. -/
def Registration.call (one : Registration) : ServiceCall :=
  .addSymbol one.symbol one.address

/-- The compiler grants a symbol. -/
def Registration.granted (one : Registration) : Exchange :=
  .performed one.call true

/-- The registration of a thunk. -/
def Thunk.registration (thunk : Thunk κ) : Registration :=
  ⟨thunk.symbol, thunk.address⟩

/-! ### What can be made -/

namespace World

/-- A signature has a callable type just if it is valid. -/
theorem internType_cases (world : World κ) (signature : Signature κ) :
    (∃ error, signature.fault = some error ∧ world.internType signature = .error error) ∨
      ∃ type left, signature.fault = none ∧ world.internType signature = .ok (type, left) := by
  cases valid : signature.fault with
  | some error =>
    refine .inl ⟨error, rfl, ?_⟩
    rw [internType, TypeCache.intern, valid]
    rfl
  | none =>
    rw [internType, TypeCache.intern, valid]
    cases world.types.find? signature with
    | none => exact .inr ⟨_, _, rfl, rfl⟩
    | some type => exact .inr ⟨_, _, rfl, rfl⟩

/-- A thunk is made just if its signature is valid. -/
theorem synthesize_cases (world : World κ) (member : Member κ) (symbol : String) (registry : Nat) :
    (∃ error left, (thunkSignature member).fault ≠ none ∧
      world.synthesize member symbol registry = (.error error, left)) ∨
    ∃ thunk left, (thunkSignature member).fault = none ∧
      world.synthesize member symbol registry = (.ok thunk, left) := by
  rw [synthesize]
  obtain ⟨error, fault, refused⟩ | ⟨type, left, valid, interned⟩ :=
    world.internType_cases (thunkSignature member)
  · rw [refused]
    refine .inl ⟨error, world, ?_, rfl⟩
    rw [fault]
    exact Option.some_ne_none error
  · rw [interned]
    simp only [addClosure]
    exact .inr ⟨_, _, valid, rfl⟩

/-- Thunks are made just if their signatures are all valid. -/
theorem synthesizeAll_cases (registry : Nat) (planned : List (Naming.PlannedSymbol κ))
    (world : World κ) :
    (∃ error left, (¬ ∀ one ∈ planned, (thunkSignature one.member).fault = none) ∧
      synthesizeAll registry planned world = (.error error, left)) ∨
    ∃ thunks left, (∀ one ∈ planned, (thunkSignature one.member).fault = none) ∧
      synthesizeAll registry planned world = (.ok thunks, left) := by
  induction planned generalizing world with
  | nil => exact .inr ⟨[], world, List.forall_mem_nil _, rfl⟩
  | cons first rest ih =>
    rw [synthesizeAll]
    obtain ⟨error, left, fault, refused⟩ | ⟨thunk, left, valid, made⟩ :=
      world.synthesize_cases first.member first.symbol registry
    · rw [refused]
      refine .inl ⟨error, left, ?_, rfl⟩
      intro each
      exact fault (each first List.mem_cons_self)
    · rw [made]
      obtain ⟨error, last, fault, refused⟩ | ⟨thunks, last, each, others⟩ := ih left
      · refine .inl ⟨error, last, ?_, ?_⟩
        · intro each
          exact fault fun one found => each one (List.mem_cons_of_mem _ found)
        · dsimp only
          rw [refused]
      · refine .inr ⟨thunk :: thunks, last, ?_, ?_⟩
        · exact List.forall_mem_cons.mpr ⟨valid, each⟩
        · dsimp only
          rw [others]

end World

namespace Session

/-! ### Registering in order -/

/-- A session in which symbols are registered, latest last.  One of them may be the one that
releases handles. -/
def enrolled (session : Session σ) (release : String) (done : List Registration) : Session σ :=
  { session with
    symbols := (done.map Registration.symbol).reverse ++ session.symbols
    retained := session.retained ++ done.map Registration.address
    releaseSymbols :=
      if release ∈ done.map Registration.symbol then release :: session.releaseSymbols
      else session.releaseSymbols }

theorem enrolled_nil (session : Session σ) (release : String) :
    session.enrolled release [] = session := by
  simp [enrolled]

/-- Registering different symbols one after another is the same as registering all of them. -/
theorem enrolled_cons {session middle : Session σ} {release : String} {one : Registration}
    {rest : List Registration}
    (first : middle = { session.enrolled release [one] with service := middle.service })
    (apart : one.symbol ∉ rest.map Registration.symbol) (service : σ) :
    { middle.enrolled release rest with service := service } =
      { session.enrolled release (one :: rest) with service := service } := by
  rw [first]
  by_cases same : release = one.symbol
  · subst same
    simp only [enrolled, List.map_cons, List.map_nil, List.mem_cons, true_or, if_true, apart,
      if_false]
    simp
  · simp [enrolled, same]

variable {α β : Type} {session : Session (Logged σ)} {release : String} {world : World κ}

/-- Every symbol is granted and registered. -/
structure AllGranted (session : Session (Logged σ)) (release : String)
    (answer : Except Error α × Session (Logged σ) × World κ) (a : α) (due : List Registration) :
    Prop where
  result : answer.1 = .ok a
  after : answer.2.1 = { session.enrolled release due with service := answer.2.1.service }
  log : answer.2.1.service.log = due.reverse.map Registration.granted ++ session.service.log

variable [CompilationService σ κ]

/-- Symbols are granted and registered up to one that the compiler refuses, and what it answers to
that is why the operation fails. -/
structure RefusedAt (session : Session (Logged σ)) (release : String)
    (answer : Except Error α × Session (Logged σ) × World κ) (done : List Registration)
    (refused : Registration) : Prop where
  after : answer.2.1 = { session.enrolled release done with service := answer.2.1.service }
  log : answer.2.1.service.log = .performed refused.call false ::
    done.reverse.map Registration.granted ++ session.service.log
  error : ∃ error asked world, answer.1 = .error error ∧
    (CompilationService.perform refused.call asked world : Except Error Unit × Logged σ × World κ) =
      (.error error, answer.2.1.service, answer.2.2)

/-- The compiler is asked for symbols in order, up to one that it refuses. -/
def Registers (session : Session (Logged σ)) (release : String)
    (answer : Except Error α × Session (Logged σ) × World κ) (a : α) (due : List Registration) :
    Prop :=
  AllGranted session release answer a due ∨
    ∃ done refused rest, due = done ++ refused :: rest ∧ RefusedAt session release answer done refused

namespace Registers

theorem none_due (session : Session (Logged σ)) (release : String) (a : α) (world : World κ) :
    Registers session release (.ok a, session, world) a [] := by
  refine .inl ⟨rfl, ?_, rfl⟩
  rw [enrolled_nil]

/-- One symbol is registered if the compiler grants it, and then the others. -/
theorem cons {first : SessionM (Logged σ) κ Unit} {next : Unit → SessionM (Logged σ) κ α} {a : α}
    {one : Registration} {rest : List Registration}
    (apart : one.symbol ∉ rest.map Registration.symbol)
    (offered : Registers session release (first (session, world)) () [one])
    (later : ∀ service left,
      let granted : Session (Logged σ) := { session.enrolled release [one] with service := service }
      Registers granted release (next () (granted, left)) a rest) :
    Registers session release ((first >>= next) (session, world)) a (one :: rest) := by
  rw [SessionM.bind_apply]
  revert offered
  obtain ⟨result, middle, left⟩ := first (session, world)
  rintro (⟨rfl, granted, log⟩ | ⟨done, refused, others, parted, stopped⟩)
  · dsimp only at granted log ⊢
    have later := later middle.service left
    dsimp only at later
    rw [← granted] at later
    obtain all | ⟨done, refused, others, rfl, stopped⟩ := later
    · refine .inl ⟨all.result, ?_, ?_⟩
      · exact all.after.trans (enrolled_cons granted apart _)
      · rw [all.log, log]
        simp
    · have before : one.symbol ∉ done.map Registration.symbol := by
        rw [List.map_append] at apart
        exact fun among => apart (List.mem_append_left _ among)
      refine .inr ⟨one :: done, refused, others, rfl, ?_, ?_, stopped.error⟩
      · exact stopped.after.trans (enrolled_cons granted before _)
      · rw [stopped.log, log]
        simp
  · -- The compiler refuses the first symbol, and nothing else is tried.
    obtain ⟨rfl, rfl, rfl⟩ : done = [] ∧ refused = one ∧ others = [] := by
      cases done with
      | nil =>
        cases parted
        exact ⟨rfl, rfl, rfl⟩
      | cons first done => cases done <;> cases parted
    obtain ⟨error, asked, there, failed, answered⟩ := stopped.error
    dsimp only at failed
    subst failed
    exact .inr ⟨[], refused, rest, rfl, stopped.after, stopped.log, error, asked, there, rfl,
      answered⟩

/-- A symbol is registered once the compiler grants it. -/
theorem of_request {name : String} {address : UInt64}
    {change : Session (Logged σ) → Session (Logged σ)}
    (changed : ∀ service, change { session with service := service } =
      { session.enrolled release [⟨name, address⟩] with service := service }) :
    Registers session release ((request (.addSymbol name address) >>= fun _ => update change :
      SessionM (Logged σ) κ Unit) (session, world)) () [⟨name, address⟩] := by
  rw [SessionM.bind_apply, SessionM.request_apply]
  generalize asked : CompilationService.perform (.addSymbol name address) session.service world =
    answer
  have logged : answer.2.1.log =
      .performed (.addSymbol name address) answer.1.isOk :: session.service.log := by
    rw [← asked]
    rfl
  rcases answer with ⟨result, service, left⟩
  cases result with
  | error error =>
    refine .inr ⟨[], _, [], rfl, ?_, logged, error, session.service, world, rfl, asked⟩
    rw [enrolled_nil]
  | ok granted =>
    have done : (update change ({ session with service := service }, left) :
        Except Error Unit × Session (Logged σ) × World κ) =
      (.ok (), { session.enrolled release [⟨name, address⟩] with service := service }, left) := by
      rw [← changed service]
      rfl
    dsimp only
    rw [done]
    exact .inl ⟨rfl, rfl, logged⟩

/-- What is done with the session after that changes the answer only. -/
theorem then_pure {operation : SessionM (Logged σ) κ α} {a : α} {due : List Registration}
    (registers : Registers session release (operation (session, world)) a due) (b : β) :
    Registers session release ((operation >>= fun _ => Pure.pure b) (session, world)) b due := by
  rw [SessionM.bind_apply]
  revert registers
  obtain ⟨result, after, left⟩ := operation (session, world)
  rintro (⟨rfl, granted, log⟩ |
    ⟨done, refused, others, parted, after, log, error, asked, there, rfl, answered⟩)
  · exact .inl ⟨rfl, granted, log⟩
  · exact .inr ⟨done, refused, others, parted, after, log, error, asked, there, rfl, answered⟩

end Registers

/-- A symbol that a session takes is registered if the compiler grants it. -/
theorem register_registers {name : String} (takes : session.Takes name) (address : UInt64)
    (other : release ≠ name) (world : World κ) :
    Registers session release ((register name address : SessionM (Logged σ) κ Unit)
      (session, world)) () [⟨name, address⟩] := by
  rw [register_asked takes]
  apply Registers.of_request
  intro service
  simp [enrolled, other]

omit [CompilationService σ κ] in
/-- A session that has registered one symbol still takes any other that it took. -/
theorem Takes.enrolled {name : String} (takes : session.Takes name) {one : Registration}
    (other : name ≠ one.symbol) (service : Logged σ) :
    ({ session.enrolled release [one] with service := service }).Takes name where
  identifier := takes.identifier
  unlinked := takes.unlinked
  fresh := by
    have unknown := takes.fresh
    simpa [isRegistered, Session.enrolled, other] using unknown

/-- Thunks are registered in order if the session takes all their symbols. -/
theorem registerThunks_registers {thunks : List (Thunk κ)} {session : Session (Logged σ)}
    (takes : ∀ thunk ∈ thunks, session.Takes thunk.symbol ∧ release ≠ thunk.symbol)
    (distinct : (thunks.map Thunk.symbol).Nodup) (world : World κ) :
    Registers session release ((registerThunks thunks : SessionM (Logged σ) κ Unit)
      (session, world)) () (thunks.map Thunk.registration) := by
  induction thunks generalizing session world with
  | nil => exact .none_due session release () world
  | cons first rest ih =>
    obtain ⟨taken, other⟩ := takes first List.mem_cons_self
    rcases List.nodup_cons.mp distinct with ⟨apart, distinct⟩
    have symbols : (rest.map Thunk.registration).map Registration.symbol =
        rest.map Thunk.symbol := by simp [Thunk.registration]
    rw [registerThunks_cons]
    refine .cons ?_ (register_registers taken first.address other world) ?_
    · rw [symbols]
      exact apart
    · intro service left granted
      apply ih _ distinct
      -- The symbol that was just registered is none of those to come.
      intro thunk found
      obtain ⟨taken, other⟩ := takes thunk (List.mem_cons_of_mem _ found)
      refine ⟨taken.enrolled ?_ service, other⟩
      intro same
      have among : thunk.symbol ∈ rest.map Thunk.symbol := List.mem_map_of_mem found
      rw [same] at among
      exact apart among

/-! ### The symbol that releases handles -/

omit [CompilationService σ κ] in
/-- The function that releases handles can always be given an address. -/
theorem wrapRelease_ok (name : String) (session : Session (Logged σ)) (world : World κ) :
    ∃ address left, (callableType releaseSignature >>= fun type =>
        wrapUnder type name (releaseBody session.registry) : SessionM (Logged σ) κ UInt64)
      (session, world) = (.ok address, session, left) := by
  rw [SessionM.bind_apply, callableType, SessionM.inWorld_apply]
  obtain ⟨error, fault, -⟩ | ⟨type, left, -, interned⟩ :=
    world.internType_cases releaseSignature
  · cases fault
  · have signature := (World.internType_ok interned).1
    rw [interned]
    dsimp only
    rw [wrapUnder, SessionM.inWorld_apply, World.wrap, World.addClosure, signature]
    exact ⟨_, _, rfl⟩

variable {name : String}

theorem ensureReleaseSymbol_known (known : session.releaseSymbols.contains name = true)
    (world : World κ) :
    (ensureReleaseSymbol name : SessionM (Logged σ) κ Unit) (session, world) =
      (.ok (), session, world) := by
  rw [ensureReleaseSymbol, SessionM.bind_apply, SessionM.current_apply]
  dsimp only
  rw [known]
  rfl

/-- A new symbol that releases handles is registered like any other, and noted as such. -/
theorem ensureReleaseSymbol_new (unknown : session.releaseSymbols.contains name = false)
    (world : World κ) :
    ∃ address left, (ensureReleaseSymbol name : SessionM (Logged σ) κ Unit) (session, world) =
      (register name address >>= fun _ => update fun session =>
        { session with releaseSymbols := name :: session.releaseSymbols } :
          SessionM (Logged σ) κ Unit) (session, left) := by
  obtain ⟨address, left, wrapped⟩ := wrapRelease_ok name session world
  refine ⟨address, left, ?_⟩
  have looked : (ensureReleaseSymbol name : SessionM (Logged σ) κ Unit) (session, world) =
      ((callableType releaseSignature >>= fun type =>
          wrapUnder type name (releaseBody session.registry)) >>= fun address =>
        register name address >>= fun _ => update fun session =>
          { session with releaseSymbols := name :: session.releaseSymbols } :
        SessionM (Logged σ) κ Unit) (session, world) := by
    rw [ensureReleaseSymbol, SessionM.bind_apply, SessionM.current_apply, bind_assoc]
    dsimp only
    rw [unknown]
    rfl
  rw [looked, SessionM.bind_apply, wrapped]

theorem ensureReleaseSymbol_refused (unknown : session.releaseSymbols.contains name = false)
    (refuses : ¬ session.Takes name) (world : World κ) :
    ∃ error left, (ensureReleaseSymbol name : SessionM (Logged σ) κ Unit) (session, world) =
      (.error error, session, left) := by
  obtain ⟨address, left, asked⟩ := ensureReleaseSymbol_new unknown world
  obtain ⟨error, refused⟩ := register_refused refuses address left
  exact ⟨error, left, by rw [asked, SessionM.bind_apply, refused]⟩

theorem ensureReleaseSymbol_taken (unknown : session.releaseSymbols.contains name = false)
    (takes : session.Takes name) (world : World κ) :
    ∃ address, Registers session name
      ((ensureReleaseSymbol name : SessionM (Logged σ) κ Unit) (session, world)) ()
      [⟨name, address⟩] := by
  obtain ⟨address, left, asked⟩ := ensureReleaseSymbol_new unknown world
  refine ⟨address, ?_⟩
  -- The two changes to the session are one.
  have once : (ensureReleaseSymbol name : SessionM (Logged σ) κ Unit) (session, world) =
      (request (.addSymbol name address) >>= fun _ => update fun session =>
        { session with
          symbols := name :: session.symbols
          retained := session.retained ++ [address]
          releaseSymbols := name :: session.releaseSymbols } : SessionM (Logged σ) κ Unit)
        (session, left) := by
    rw [asked, SessionM.bind_apply, register_asked takes, SessionM.bind_apply, SessionM.bind_apply]
    rcases (request (.addSymbol name address) : SessionM (Logged σ) κ Unit) (session, left) with
      ⟨_ | _, _⟩ <;> rfl
  rw [once]
  apply Registers.of_request
  intro service
  simp [enrolled]

/-! ### Binding a type -/

/-- The symbols that are due for a type whose members have these names. -/
def dueNames (session : Session σ) (rules : Naming.NamingRules) (names : List String) :
    List String :=
  if session.releaseSymbols.contains rules.releaseSymbol then names
  else rules.releaseSymbol :: names

/-- A type can be bound, its members under these names. -/
structure CanBind (session : Session (Logged σ)) (description : TypeDescription κ)
    (rules : Naming.NamingRules) (names : List String) : Prop where
  named : bindingNames description rules = .ok names
  takes : ∀ name ∈ session.dueNames rules names, session.Takes name
  valid : ∀ member ∈ description.shownMembers, (thunkSignature member).fault = none

/-- What is due for a type: different symbols, those of the members in the order in which they were
declared, and each for the thunk of its member. -/
structure DueFor (session : Session (Logged σ)) (world : World κ) (description : TypeDescription κ)
    (rules : Naming.NamingRules) (names : List String) (due : List Registration) : Prop where
  members : names = description.shownMembers.map rules.symbolFor
  symbols : due.map Registration.symbol = session.dueNames rules names
  distinct : (due.map Registration.symbol).Nodup
  thunks : ∃ planned thunks, Naming.planSymbols description rules = .ok planned ∧
    (World.synthesizeAll session.registry planned world).1 = .ok thunks ∧
    thunks.map Thunk.registration <:+ due

theorem bindingNames_ok {description : TypeDescription κ} {rules : Naming.NamingRules}
    {planned : List (Naming.PlannedSymbol κ)}
    (named : Naming.planSymbols description rules = .ok planned) :
    bindingNames description rules = .ok (planned.map Naming.PlannedSymbol.symbol) := by
  rw [bindingNames, named]
  rfl

omit [CompilationService σ κ] in
/-- Names of members are among those due. -/
theorem mem_dueNames {rules : Naming.NamingRules} {names : List String} {name : String}
    (among : name ∈ names) : name ∈ session.dueNames rules names := by
  rw [dueNames]
  split
  · exact among
  · exact List.mem_cons_of_mem _ among

omit [CompilationService σ κ] in
/-- While nothing is linked, a session takes the symbols of thunks that it finds no fault with. -/
theorem thunks_taken {description : TypeDescription κ} {rules : Naming.NamingRules}
    {planned : List (Naming.PlannedSymbol κ)} {thunks : List (Thunk κ)}
    (named : Naming.planSymbols description rules = .ok planned)
    (free : planned.find? (fun one => session.isRegistered one.symbol) = none)
    (made : (World.synthesizeAll session.registry planned world).1 = .ok thunks)
    (unlinked : session.stage ≠ .relocated) :
    ∀ thunk ∈ thunks, session.Takes thunk.symbol ∧ rules.releaseSymbol ≠ thunk.symbol := by
  intro thunk found
  obtain ⟨identifier, fresh, other⟩ := (thunks_unknown named free made).1 thunk found
  exact ⟨⟨identifier, unlinked, fresh⟩, other.symm⟩

/-- The symbol that releases handles is registered unless it is, and then thunks. -/
def registerDue (rules : Naming.NamingRules) (thunks : List (Thunk κ)) :
    SessionM (Logged σ) κ (List String) :=
  ensureReleaseSymbol rules.releaseSymbol >>= fun _ =>
    registerThunks thunks >>= fun _ => Pure.pure (thunks.map Thunk.symbol)

/-- Once something is linked no thunk is registered. -/
theorem registerThunks_linked {thunks : List (Thunk κ)} (linked : session.stage = .relocated)
    (some_due : thunks ≠ []) (world : World κ) :
    ∃ error, (registerThunks thunks : SessionM (Logged σ) κ Unit) (session, world) =
      (.error error, session, world) := by
  obtain ⟨first, rest, rfl⟩ := List.exists_cons_of_ne_nil some_due
  have refuses : ¬ session.Takes first.symbol := fun takes => takes.unlinked linked
  obtain ⟨error, refused⟩ := register_refused refuses first.address world
  exact ⟨error, by rw [registerThunks_cons, SessionM.bind_apply, refused]⟩

/-- Nothing is registered unless the session takes all that is due. -/
theorem registerDue_refused {rules : Naming.NamingRules} {thunks : List (Thunk κ)}
    (taken : session.stage ≠ .relocated → ∀ thunk ∈ thunks, session.Takes thunk.symbol)
    (refuses : ¬ ∀ name ∈ session.dueNames rules (thunks.map Thunk.symbol), session.Takes name)
    (world : World κ) :
    ∃ error left, (registerDue rules thunks : SessionM (Logged σ) κ (List String))
      (session, world) = (.error error, session, left) := by
  rw [registerDue, SessionM.bind_apply]
  cases known : session.releaseSymbols.contains rules.releaseSymbol with
  | true =>
    -- Only that something is linked can be wrong with the thunks that there are.
    have linked : session.stage = .relocated := by
      refine Decidable.byContradiction fun unlinked => refuses ?_
      intro name due
      rw [dueNames, known] at due
      obtain ⟨thunk, among, rfl⟩ := List.mem_map.mp due
      exact taken unlinked thunk among
    have some_due : thunks ≠ [] := by
      rintro rfl
      apply refuses
      intro name due
      rw [dueNames, known] at due
      cases due
    obtain ⟨error, refused⟩ := registerThunks_linked linked some_due world
    rw [ensureReleaseSymbol_known known]
    dsimp only
    rw [SessionM.bind_apply, refused]
    exact ⟨error, world, rfl⟩
  | false =>
    have refused : ¬ session.Takes rules.releaseSymbol := by
      intro takes
      apply refuses
      intro name due
      rw [dueNames, known] at due
      rcases List.mem_cons.mp due with rfl | among
      · exact takes
      · obtain ⟨thunk, here, rfl⟩ := List.mem_map.mp among
        exact taken takes.unlinked thunk here
    obtain ⟨error, left, failed⟩ := ensureReleaseSymbol_refused known refused world
    rw [failed]
    exact ⟨error, left, rfl⟩

/-- All that is due is registered in order, up to a symbol that the compiler refuses. -/
theorem registerDue_taken {rules : Naming.NamingRules} {thunks : List (Thunk κ)}
    (takes : ∀ name ∈ session.dueNames rules (thunks.map Thunk.symbol), session.Takes name)
    (distinct : (rules.releaseSymbol :: thunks.map Thunk.symbol).Nodup) (world : World κ) :
    ∃ due, due.map Registration.symbol = session.dueNames rules (thunks.map Thunk.symbol) ∧
      thunks.map Thunk.registration <:+ due ∧
      Registers session rules.releaseSymbol
        ((registerDue rules thunks : SessionM (Logged σ) κ (List String)) (session, world))
        (thunks.map Thunk.symbol) due := by
  rcases List.nodup_cons.mp distinct with ⟨apart, distinct⟩
  have symbols : (thunks.map Thunk.registration).map Registration.symbol =
      thunks.map Thunk.symbol := by simp [Thunk.registration]
  have each (thunk : Thunk κ) (among : thunk ∈ thunks) :
      session.Takes thunk.symbol ∧ rules.releaseSymbol ≠ thunk.symbol := by
    have named : thunk.symbol ∈ thunks.map Thunk.symbol := List.mem_map_of_mem among
    refine ⟨takes _ (mem_dueNames named), ?_⟩
    intro same
    rw [same] at apart
    exact apart named
  cases known : session.releaseSymbols.contains rules.releaseSymbol with
  | true =>
    refine ⟨thunks.map Thunk.registration, ?_, List.suffix_rfl, ?_⟩
    · rw [symbols, dueNames, known]
      rfl
    · rw [registerDue, SessionM.bind_apply, ensureReleaseSymbol_known known]
      exact (registerThunks_registers each distinct world).then_pure _
  | false =>
    have released : session.Takes rules.releaseSymbol := by
      apply takes
      rw [dueNames, known]
      exact List.mem_cons_self
    obtain ⟨address, offered⟩ := ensureReleaseSymbol_taken known released world
    refine ⟨⟨rules.releaseSymbol, address⟩ :: thunks.map Thunk.registration, ?_,
      List.suffix_cons _ _, ?_⟩
    · rw [List.map_cons, symbols, dueNames, known]
      rfl
    · refine .cons ?_ offered ?_
      · rw [symbols]
        exact apart
      · intro service left granted
        refine (registerThunks_registers ?_ distinct left).then_pure _
        intro thunk among
        obtain ⟨taken, other⟩ := each thunk among
        exact ⟨taken.enrolled other.symm service, other⟩

/-- Binding a type that the session finds no fault with is registering its thunks. -/
theorem bind_planned {description : TypeDescription κ} {rules : Naming.NamingRules}
    {planned : List (Naming.PlannedSymbol κ)}
    (named : Naming.planSymbols description rules = .ok planned)
    (free : planned.find? (fun one => session.isRegistered one.symbol) = none) :
    (bind description rules : SessionM (Logged σ) κ (List String)) (session, world) =
      (inWorld (World.synthesizeAll session.registry planned) >>= fun thunks =>
        ensureReleaseSymbol rules.releaseSymbol >>= fun _ =>
          registerThunks thunks >>= fun _ => Pure.pure (thunks.map Thunk.symbol) :
        SessionM (Logged σ) κ (List String)) (session, world) := by
  rw [bind, SessionM.bind_apply, SessionM.current_apply]
  dsimp only
  have mapped : (Except.ok planned : Except BindError _).mapError Error.bind = .ok planned := rfl
  rw [SessionM.bind_apply, named, SessionM.ofExcept_apply, mapped]
  dsimp only
  rw [free]

theorem bind_unplanned {description : TypeDescription κ} {rules : Naming.NamingRules}
    (unnamed : ∀ planned, Naming.planSymbols description rules = .ok planned →
      planned.find? (fun one => session.isRegistered one.symbol) ≠ none) :
    ∃ error, (bind description rules : SessionM (Logged σ) κ (List String)) (session, world) =
      (.error error, session, world) := by
  rw [bind, SessionM.bind_apply, SessionM.current_apply]
  dsimp only
  rw [SessionM.bind_apply, SessionM.ofExcept_apply]
  cases named : Naming.planSymbols description rules with
  | error error => exact ⟨_, rfl⟩
  | ok planned =>
    have mapped : (Except.ok planned : Except BindError _).mapError Error.bind = .ok planned := rfl
    rw [mapped]
    dsimp only
    cases found : planned.find? fun one => session.isRegistered one.symbol with
    | none => exact absurd found (unnamed planned named)
    | some taken => exact ⟨_, rfl⟩

omit [CompilationService σ κ] in
/-- Thunks that a session finds no fault with can be bound. -/
theorem CanBind.of_taken {description : TypeDescription κ} {rules : Naming.NamingRules}
    {planned : List (Naming.PlannedSymbol κ)}
    (named : Naming.planSymbols description rules = .ok planned)
    (takes : ∀ name ∈ session.dueNames rules (planned.map Naming.PlannedSymbol.symbol),
      session.Takes name)
    (valid : ∀ one ∈ planned, (thunkSignature one.member).fault = none) :
    session.CanBind description rules (planned.map Naming.PlannedSymbol.symbol) where
  named := bindingNames_ok named
  takes := takes
  valid := by
    intro member shown
    rw [Naming.planSymbols_members named] at valid
    exact valid _ (List.mem_map_of_mem shown)

/-- Binding a type that cannot be bound fails and leaves the session as it is. -/
theorem bind_refused {description : TypeDescription κ} {rules : Naming.NamingRules}
    (refuses : ¬ ∃ names, session.CanBind description rules names) :
    ∃ error left, (bind description rules : SessionM (Logged σ) κ (List String))
      (session, world) = (.error error, session, left) := by
  by_cases found : ∃ planned, Naming.planSymbols description rules = .ok planned ∧
      planned.find? (fun one => session.isRegistered one.symbol) = none
  · obtain ⟨planned, named, free⟩ := found
    rw [bind_planned named free, SessionM.bind_apply, SessionM.inWorld_apply]
    obtain ⟨error, made, -, failed⟩ | ⟨thunks, made, valid, synthesized⟩ :=
      World.synthesizeAll_cases session.registry planned world
    · rw [failed]
      exact ⟨error, made, rfl⟩
    · have symbols := World.synthesizeAll_symbols (congrArg Prod.fst synthesized)
      have taken := thunks_taken named free (congrArg Prod.fst synthesized)
      rw [synthesized]
      apply registerDue_refused fun unlinked thunk among => (taken unlinked thunk among).1
      rw [symbols]
      intro takes
      exact refuses ⟨_, .of_taken named takes valid⟩
  · have unnamed (planned : List (Naming.PlannedSymbol κ))
        (named : Naming.planSymbols description rules = .ok planned) :
        planned.find? (fun one => session.isRegistered one.symbol) ≠ none :=
      fun free => found ⟨planned, named, free⟩
    obtain ⟨error, failed⟩ : ∃ error, (bind description rules : SessionM (Logged σ) κ
        (List String)) (session, world) = (.error error, session, world) := bind_unplanned unnamed
    exact ⟨error, world, failed⟩

/-- The symbols that are due for a type that can be bound are registered in order, up to one that
the compiler refuses. -/
theorem bind_taken {description : TypeDescription κ} {rules : Naming.NamingRules}
    {names : List String} (can : session.CanBind description rules names) :
    ∃ due, session.DueFor world description rules names due ∧
      Registers session rules.releaseSymbol
        ((bind description rules : SessionM (Logged σ) κ (List String)) (session, world))
        names due := by
  cases named : Naming.planSymbols description rules with
  | error error =>
    have unnamed := can.named
    rw [bindingNames, named] at unnamed
    cases unnamed
  | ok planned =>
    obtain rfl : planned.map Naming.PlannedSymbol.symbol = names :=
      Except.ok.inj ((bindingNames_ok named).symm.trans can.named)
    have free : planned.find? (fun one => session.isRegistered one.symbol) = none := by
      rw [List.find?_eq_none]
      intro one among
      have takes := can.takes _ (mem_dueNames (List.mem_map_of_mem among))
      simp [takes.fresh]
    rw [bind_planned named free, SessionM.bind_apply, SessionM.inWorld_apply]
    obtain ⟨error, made, fault, -⟩ | ⟨thunks, made, -, synthesized⟩ :=
      World.synthesizeAll_cases session.registry planned world
    · refine absurd ?_ fault
      rw [Naming.planSymbols_members named]
      intro one among
      obtain ⟨member, shown, rfl⟩ := List.mem_map.mp among
      exact can.valid member shown
    · have symbols := World.synthesizeAll_symbols (congrArg Prod.fst synthesized)
      obtain ⟨each, apart⟩ := Naming.planSymbols_ok named
      have distinct : (rules.releaseSymbol :: thunks.map Thunk.symbol).Nodup := by
        rw [symbols, List.nodup_cons]
        refine ⟨?_, apart⟩
        intro released
        obtain ⟨one, among, same⟩ := List.mem_map.mp released
        exact (each one among).2 same
      have takes := can.takes
      rw [← symbols] at takes
      obtain ⟨due, names, held, registers⟩ := registerDue_taken takes distinct made
      rw [synthesized]
      refine ⟨due, ⟨?_, ?_, ?_, planned, thunks, named, congrArg Prod.fst synthesized, held⟩, ?_⟩
      · rw [Naming.planSymbols_members named, List.map_map]
        rfl
      · rw [names, symbols]
      · rw [names, dueNames]
        split
        · exact (List.nodup_cons.mp distinct).2
        · exact distinct
      · rw [← symbols]
        exact registers

/-- Binding a type under naming rules, whatever the session and however its compiler answers.  If the
type cannot be bound, binding fails, the compiler is asked for nothing, and the session is left as
it is.  If it can, the symbols due for it, none of which is registered, are asked for in order: the
one that releases handles, unless the session has registered it as such, and then one for each
member that is shown, in the order in which the members were declared.  Either all of them are
granted, and the names of the members are returned, as they can be told beforehand; or one is
refused, binding fails with the compiler's error, and just those before it stay registered.  That
the compiler keeps a log makes no difference. -/
theorem bind_registers (session : Session (Logged σ)) (world : World κ)
    (description : TypeDescription κ) (rules : Naming.NamingRules) :
    let answer := (bind description rules : SessionM (Logged σ) κ (List String)) (session, world)
    ((¬ ∃ names, session.CanBind description rules names) ∧
        (∃ error, answer.1 = .error error) ∧ answer.2.1 = session ∨
      ∃ names due, session.CanBind description rules names ∧
        bindingNames description rules = .ok names ∧
        session.DueFor world description rules names due ∧
        (∀ one ∈ due, session.isRegistered one.symbol = false) ∧
        (AllGranted session rules.releaseSymbol answer names due ∨
          ∃ done refused rest, due = done ++ refused :: rest ∧
            RefusedAt session rules.releaseSymbol answer done refused)) ∧
    (bind description rules : SessionM σ κ (List String)) (session.dropLog, world) =
      (answer.1, answer.2.1.dropLog, answer.2.2) := by
  intro answer
  refine ⟨?_, bind_agrees description rules session world⟩
  by_cases can : ∃ names, session.CanBind description rules names
  · obtain ⟨names, can⟩ := can
    obtain ⟨due, dueFor, registers⟩ : ∃ due, session.DueFor world description rules names due ∧ _ :=
      bind_taken can
    refine .inr ⟨names, due, can, can.named, dueFor, ?_, registers⟩
    intro one among
    have named : one.symbol ∈ session.dueNames rules names := by
      rw [← dueFor.symbols]
      exact List.mem_map_of_mem among
    exact (can.takes _ named).fresh
  · obtain ⟨error, left, failed⟩ : ∃ error left, answer = (.error error, session, left) :=
      bind_refused can
    exact .inl ⟨can, ⟨error, congrArg Prod.fst failed⟩, congrArg (fun answer => answer.2.1) failed⟩

end Session

end NativeBridge
