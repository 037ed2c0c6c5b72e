/-
Module: NativeBridge.Proofs.UsableNaming
Purpose: When the naming settings of a loaded configuration give naming rules.
Main exports: StrayBrace, readParts_cases, NamingRules.fromConfig_cases,
  NamingRules.fromConfig_ok_iff, Config.naming_usable
-/
import NativeBridge.Config.Load
import NativeBridge.Naming.Rules
import Mathlib.Data.List.ReduceOption
import Mathlib.Data.List.TakeWhile
import Mathlib.Tactic.Tauto

namespace NativeBridge

/-!
A configuration checks the templates of a project when it loads them, and naming rules read them
once more.  The check lets closing braces pass that open no token.  Reading lets them pass too as
long as a token follows, and refuses them behind the last one.  The templates a user sets as
defaults are not checked at all, and neither is the user's release symbol.
-/

namespace Naming

/-! ### Closing braces behind the last token -/

/-- What stands behind the last opening brace, from the end on; all characters if there is none. -/
def lastStretch (source : List Char) : List Char :=
  source.reverse.takeWhile (· != openBrace)

/-- A closing brace is left behind the last token, which takes one for itself. -/
def StrayBrace (source : List Char) : Prop :=
  (if openBrace ∈ source then 1 else 0) < (lastStretch source).count closeBrace

instance (source : List Char) : Decidable (StrayBrace source) := by
  unfold StrayBrace
  infer_instance

theorem lastStretch_append (before rest : List Char) :
    lastStretch (before ++ rest) =
      if openBrace ∈ rest then lastStretch rest else rest.reverse ++ lastStretch before := by
  unfold lastStretch
  rw [List.reverse_append]
  split
  next opened =>
    obtain ⟨front, back, rfl⟩ := List.append_of_mem opened
    simp only [List.reverse_append, List.reverse_cons, List.append_assoc]
    simp [List.takeWhile_append]
  next unopened =>
    apply List.takeWhile_append_of_pos
    intro c among
    have apart : c ≠ openBrace := fun same => unopened (same ▸ List.mem_reverse.mp among)
    simpa using apart

theorem lastStretch_unopened {source : List Char} (unopened : openBrace ∉ source) :
    lastStretch source = source.reverse := by
  have parted := lastStretch_append [] source
  rw [if_neg unopened, List.nil_append] at parted
  rw [parted]
  exact List.append_nil _

/-- A whole token in front changes nothing. -/
theorem strayBrace_behind_token (literals : List Char) {body : List Char} (rest : List Char)
    (unclosed : closeBrace ∉ body) :
    StrayBrace (literals ++ openBrace :: (body ++ closeBrace :: rest)) ↔ StrayBrace rest := by
  have inside : closeBrace ∉ lastStretch (literals ++ openBrace :: body) := by
    intro among
    rw [lastStretch, List.reverse_append, List.reverse_cons, List.append_assoc,
      List.takeWhile_append] at among
    split at among
    · simp [unclosed] at among
    · exact unclosed (List.mem_reverse.mp ((List.takeWhile_prefix _).mem among))
  have regrouped : literals ++ openBrace :: (body ++ closeBrace :: rest) =
      (literals ++ openBrace :: body) ++ closeBrace :: rest := by simp
  have distinct : openBrace ≠ closeBrace := by decide
  rw [StrayBrace, StrayBrace, regrouped, lastStretch_append]
  by_cases opened : openBrace ∈ rest
  · have counted : lastStretch (closeBrace :: rest) = lastStretch rest := by
      rw [← List.singleton_append, lastStretch_append, if_pos opened]
    simp [opened, counted]
  · have unseen := List.count_eq_zero.mpr inside
    simp [opened, distinct, lastStretch_unopened opened, unseen]

variable {source after rest : List Char} {opening closing : Char}

/-- The stretches of a text up to its first token, of the token, and behind it. -/
theorem parted_at_braces (opened : source.dropWhile (· != openBrace) = opening :: after)
    (closed : after.dropWhile (· != closeBrace) = closing :: rest) :
    source = source.takeWhile (· != openBrace) ++
      openBrace :: (after.takeWhile (· != closeBrace) ++ closeBrace :: rest) := by
  have starts : opening = openBrace := by
    have stopped := List.head?_dropWhile_not (· != openBrace) source
    simpa [opened] using stopped
  have ends : closing = closeBrace := by
    have stopped := List.head?_dropWhile_not (· != closeBrace) after
    simpa [closed] using stopped
  subst starts ends
  rw [← closed, List.takeWhile_append_dropWhile, ← opened, List.takeWhile_append_dropWhile]

/-! ### Reading, case by case -/

theorem readParts_unopened (unopened : source.dropWhile (· != openBrace) = []) :
    readParts source =
      if source.contains closeBrace then .error .unmatchedBrace else .ok (literalPart source) := by
  rw [readParts]
  split
  next => rfl
  next start => rw [unopened] at start; cases start

theorem readParts_unclosed (opened : source.dropWhile (· != openBrace) = opening :: after)
    (unclosed : after.dropWhile (· != closeBrace) = []) :
    readParts source = .error .unterminatedToken := by
  rw [readParts]
  split
  next unopened => rw [opened] at unopened; cases unopened
  next start =>
    rw [opened] at start
    cases start
    split
    next => rfl
    next stop => rw [unclosed] at stop; cases stop

theorem readParts_token (opened : source.dropWhile (· != openBrace) = opening :: after)
    (closed : after.dropWhile (· != closeBrace) = closing :: rest) :
    readParts source = (do
      let part ← bodyPart (after.takeWhile (· != closeBrace))
      let parts ← readParts rest
      .ok (literalPart (source.takeWhile (· != openBrace)) ++ part :: parts)) := by
  rw [readParts]
  split
  next unopened => rw [opened] at unopened; cases unopened
  next start =>
    rw [opened] at start
    cases start
    split
    next unclosed => rw [closed] at unclosed; cases unclosed
    next stop =>
      rw [closed] at stop
      cases stop
      rfl

end Naming

namespace Config

open Naming (openBrace closeBrace readParts bodyPart Template TemplateFault StrayBrace NamingRules)

variable {source after rest : List Char} {opening closing : Char}

/-! ### The check, case by case -/

theorem tokenFault_unopened (unopened : source.dropWhile (· != openBrace) = []) :
    tokenFault source = none := by
  rw [tokenFault]
  split
  next => rfl
  next start => rw [unopened] at start; cases start

theorem tokenFault_unclosed (opened : source.dropWhile (· != openBrace) = opening :: after)
    (unclosed : after.dropWhile (· != closeBrace) = []) :
    tokenFault source = some .unterminated := by
  rw [tokenFault]
  split
  next unopened => rw [opened] at unopened; cases unopened
  next start =>
    rw [opened] at start
    cases start
    split
    next => rfl
    next stop => rw [unclosed] at stop; cases stop

theorem tokenFault_token (opened : source.dropWhile (· != openBrace) = opening :: after)
    (closed : after.dropWhile (· != closeBrace) = closing :: rest) :
    tokenFault source =
      match Naming.Token.ofName? (Naming.splitBody (after.takeWhile (· != closeBrace))).1 with
      | some _ => tokenFault rest
      | none => some (.unknown
          (String.ofList (Naming.splitBody (after.takeWhile (· != closeBrace))).1)) := by
  rw [tokenFault]
  split
  next unopened => rw [opened] at unopened; cases unopened
  next start =>
    rw [opened] at start
    cases start
    split
    next unclosed => rw [closed] at unclosed; cases unclosed
    next stop =>
      rw [closed] at stop
      cases stop
      rfl

/-- The fault that reading a template finds in place of the one its check finds. -/
def TokenFault.whenRead : TokenFault → TemplateFault
  | unterminated => .unterminatedToken
  | unknown name => .unknownToken name

/-- Reading a template finds the fault that its check finds.  Past the check, it fails just on a
brace that closes nothing behind the last token. -/
theorem readParts_cases (source : List Char) :
    (∃ fault, tokenFault source = some fault ∧ readParts source = .error fault.whenRead) ∨
    (tokenFault source = none ∧ StrayBrace source ∧ readParts source = .error .unmatchedBrace) ∨
    (tokenFault source = none ∧ ¬ StrayBrace source ∧ ∃ parts, readParts source = .ok parts) := by
  induction source using tokenFault.induct with
  | case1 source unopened =>
    have absent : openBrace ∉ source := by
      intro among
      have kept := List.dropWhile_eq_nil_iff.mp unopened _ among
      simp at kept
    rw [tokenFault_unopened unopened, Naming.readParts_unopened unopened]
    simp only [StrayBrace, absent, if_false, Naming.lastStretch_unopened absent,
      List.count_reverse, List.count_pos_iff, List.contains_iff_mem]
    split
    next stray => exact .inr (.inl ⟨trivial, stray, rfl⟩)
    next unstrayed => exact .inr (.inr ⟨trivial, unstrayed, _, rfl⟩)
  | case2 source opening after opened unclosed =>
    exact .inl ⟨_, tokenFault_unclosed opened unclosed, Naming.readParts_unclosed opened unclosed⟩
  | case3 source opening after opened closing rest closed name token known ih =>
    have unclosed : closeBrace ∉ after.takeWhile (· != closeBrace) := by
      intro among
      have kept := List.mem_takeWhile_imp among
      simp at kept
    have behind := Naming.strayBrace_behind_token (source.takeWhile (· != openBrace)) rest unclosed
    rw [← Naming.parted_at_braces opened closed] at behind
    have part : bodyPart (after.takeWhile (· != closeBrace)) = .ok (.token token
        (String.ofList (Naming.splitBody (after.takeWhile (· != closeBrace))).2)) := by
      rw [bodyPart, Naming.splitBody, known]
    have checked : tokenFault source = tokenFault rest := by
      rw [tokenFault_token opened closed, Naming.splitBody, known]
    rw [checked, behind, Naming.readParts_token opened closed, part]
    rcases ih with ⟨fault, found, read⟩ | ⟨clean, stray, read⟩ | ⟨clean, unstrayed, parts, read⟩
    · exact .inl ⟨fault, found, by rw [read]; rfl⟩
    · exact .inr (.inl ⟨clean, stray, by rw [read]; rfl⟩)
    · exact .inr (.inr ⟨clean, unstrayed, _, by rw [read]; rfl⟩)
  | case4 source opening after opened closing rest closed name unknown =>
    have refused : bodyPart (after.takeWhile (· != closeBrace)) =
        .error (.unknownToken (String.ofList name)) := by
      rw [bodyPart, Naming.splitBody, unknown]
    refine .inl ⟨.unknown (String.ofList name), ?_, ?_⟩
    · rw [tokenFault_token opened closed, Naming.splitBody, unknown]
    · rw [Naming.readParts_token opened closed, refused]
      rfl

/-- A template is read just if its check finds nothing and no brace is left behind its last
token. -/
theorem parse_ok_iff (source : String) :
    (∃ template, Template.parse source = .ok template) ↔
      tokenFault source.toList = none ∧ ¬ StrayBrace source.toList := by
  rw [Template.parse]
  obtain ⟨fault, found, read⟩ | ⟨-, stray, read⟩ | ⟨clean, unstrayed, parts, read⟩ :=
    readParts_cases source.toList
  · simp [read, found, Except.map]
  · simp [read, stray, Except.map]
  · simp [read, clean, unstrayed, Except.map]

/-- A template that its check lets pass is refused for one reason only. -/
theorem parse_refused {source : String} {fault : TemplateFault}
    (clean : tokenFault source.toList = none) (unread : Template.parse source = .error fault) :
    StrayBrace source.toList ∧ fault = .unmatchedBrace := by
  rw [Template.parse] at unread
  obtain ⟨fault, found, -⟩ | ⟨-, stray, read⟩ | ⟨-, -, parts, read⟩ :=
    readParts_cases source.toList
  · rw [found] at clean
    cases clean
  · rw [read] at unread
    cases unread
    exact ⟨stray, rfl⟩
  · rw [read] at unread
    cases unread

/-! ### Sections -/

namespace NamingSection

/-- The templates a section sets, in the order in which they are checked and read. -/
def templates (naming : NamingSection) : List String :=
  [naming.method, naming.property, naming.field, naming.constructor].reduceOption

/-- The entries of a section that another one on top of it leaves open. -/
def beneath (base top : NamingSection) : NamingSection where
  method := if top.method.isSome then none else base.method
  property := if top.property.isSome then none else base.property
  field := if top.field.isSome then none else base.field
  constructor := if top.constructor.isSome then none else base.constructor
  releaseSymbol := if top.releaseSymbol.isSome then none else base.releaseSymbol

theorem some_or_iff {α : Type} {top base : Option α} {value : α} :
    top.or base = some value ↔
      top = some value ∨ (if top.isSome then none else base) = some value := by
  cases top <;> simp

theorem mem_templates {naming : NamingSection} {template : String} :
    template ∈ naming.templates ↔ naming.method = some template ∨
      naming.property = some template ∨ naming.field = some template ∨
      naming.constructor = some template := by
  simp only [templates, List.reduceOption_mem_iff, List.mem_cons, List.not_mem_nil, or_false]
  simp only [eq_comm]

/-- A merged section has the templates of the one on top, and those below it that show. -/
theorem mem_templates_merge {base top : NamingSection} {template : String} :
    template ∈ (base.merge top).templates ↔
      template ∈ top.templates ∨ template ∈ (base.beneath top).templates := by
  simp only [mem_templates, merge, beneath, some_or_iff]
  tauto

end NamingSection

/-! ### The check of a section -/

theorem checked_then {α β : Type} {first : Except ConfigError α} {next : α → Except ConfigError β}
    {result : β} (done : (first >>= next) = .ok result) :
    ∃ value, first = .ok value ∧ next value = .ok result := by
  cases first with
  | ok value => exact ⟨value, rfl, done⟩
  | error => cases done

theorem validateField_ok {field : String} {entry : Option String}
    (passed : validateField field entry = .ok ()) {template : String}
    (sets : entry = some template) : tokenFault template.toList = none := by
  subst sets
  rw [validateField, validateTemplate] at passed
  split at passed
  · assumption
  · cases passed

/-- A section that passes its check has templates without a fault of a token, and an identifier as
its release symbol. -/
theorem NamingSection.validate_ok {naming : NamingSection} (passed : naming.validate = .ok ()) :
    (∀ template ∈ naming.templates, tokenFault template.toList = none) ∧
      ∀ symbol, naming.releaseSymbol = some symbol → Text.isIdentifier symbol = true := by
  rw [NamingSection.validate] at passed
  obtain ⟨⟨⟩, methodPassed, passed⟩ := checked_then passed
  obtain ⟨⟨⟩, propertyPassed, passed⟩ := checked_then passed
  obtain ⟨⟨⟩, fieldPassed, passed⟩ := checked_then passed
  obtain ⟨⟨⟩, constructorPassed, passed⟩ := checked_then passed
  constructor
  · intro template among
    rcases mem_templates.mp among with sets | sets | sets | sets
    · exact validateField_ok methodPassed sets
    · exact validateField_ok propertyPassed sets
    · exact validateField_ok fieldPassed sets
    · exact validateField_ok constructorPassed sets
  · intro symbol sets
    rw [sets, validateReleaseSymbol] at passed
    split at passed
    · assumption
    · cases passed

end Config

namespace Naming

open Config (NamingSection)

/-! ### The rules of a section -/

/-- An entry is read, or it sets a text that is no template. -/
theorem readTemplateOr_cases (default : Template) (entry : Option String) :
    (∃ template, readTemplateOr default entry = .ok template ∧
      ∀ source, entry = some source → ∃ template, Template.parse source = .ok template) ∨
    (∃ source fault, entry = some source ∧ Template.parse source = .error fault ∧
      readTemplateOr default entry = .error (.invalidTemplate source fault.message)) := by
  cases entry with
  | none => exact .inl ⟨default, rfl, fun _ sets => by cases sets⟩
  | some source =>
    rw [readTemplateOr, readTemplate]
    cases read : Template.parse source with
    | ok template => exact .inl ⟨template, rfl, fun _ sets => by cases sets; exact ⟨_, read⟩⟩
    | error fault => exact .inr ⟨source, fault, rfl, read, rfl⟩

/-- A section gives rules, or one of its templates cannot be read, or its release symbol is no
identifier. -/
theorem NamingRules.fromConfig_cases (naming : NamingSection) :
    (∃ rules, fromConfig naming = .ok rules ∧
      (∀ source ∈ naming.templates, ∃ template, Template.parse source = .ok template) ∧
      ∀ symbol, naming.releaseSymbol = some symbol → Text.isIdentifier symbol = true) ∨
    (∃ source ∈ naming.templates, ∃ fault, Template.parse source = .error fault ∧
      fromConfig naming = .error (.invalidTemplate source fault.message)) ∨
    (∃ symbol, naming.releaseSymbol = some symbol ∧ Text.isIdentifier symbol = false ∧
      fromConfig naming = .error (.invalidSymbol symbol)) := by
  simp only [NamingSection.mem_templates, fromConfig]
  obtain ⟨method, one, methods⟩ | ⟨source, fault, sets, unread, refused⟩ :=
    readTemplateOr_cases builtin.method naming.method
  swap
  · exact .inr (.inl ⟨source, .inl sets, fault, unread, by rw [refused]; rfl⟩)
  obtain ⟨property, two, properties⟩ | ⟨source, fault, sets, unread, refused⟩ :=
    readTemplateOr_cases builtin.property naming.property
  swap
  · exact .inr (.inl ⟨source, .inr (.inl sets), fault, unread, by rw [one, refused]; rfl⟩)
  obtain ⟨field, three, fields⟩ | ⟨source, fault, sets, unread, refused⟩ :=
    readTemplateOr_cases builtin.field naming.field
  swap
  · exact .inr (.inl ⟨source, .inr (.inr (.inl sets)), fault, unread,
      by rw [one, two, refused]; rfl⟩)
  obtain ⟨constructor, four, constructors⟩ | ⟨source, fault, sets, unread, refused⟩ :=
    readTemplateOr_cases builtin.constructor naming.constructor
  swap
  · exact .inr (.inl ⟨source, .inr (.inr (.inr sets)), fault, unread,
      by rw [one, two, three, refused]; rfl⟩)
  have readable : ∀ source, (naming.method = some source ∨ naming.property = some source ∨
      naming.field = some source ∨ naming.constructor = some source) →
      ∃ template, Template.parse source = .ok template := by
    rintro source (sets | sets | sets | sets)
    · exact methods source sets
    · exact properties source sets
    · exact fields source sets
    · exact constructors source sets
  rw [one, two, three, four]
  cases named : naming.releaseSymbol with
  | none => exact .inl ⟨_, rfl, readable, fun _ sets => by cases sets⟩
  | some symbol =>
    cases spelled : Text.isIdentifier symbol with
    | true =>
      refine .inl ⟨⟨method, property, field, constructor, symbol⟩, ?_, readable,
        fun _ sets => by cases sets; exact spelled⟩
      change withReleaseSymbol _ symbol = _
      rw [withReleaseSymbol, if_pos spelled]
    | false =>
      refine .inr (.inr ⟨symbol, rfl, spelled, ?_⟩)
      change withReleaseSymbol _ symbol = _
      rw [withReleaseSymbol, if_neg (by rw [spelled]; exact Bool.false_ne_true)]

theorem NamingRules.fromConfig_ok_iff (naming : NamingSection) :
    (∃ rules, fromConfig naming = .ok rules) ↔
      (∀ source ∈ naming.templates, ∃ template, Template.parse source = .ok template) ∧
      ∀ symbol, naming.releaseSymbol = some symbol → Text.isIdentifier symbol = true := by
  obtain ⟨rules, made, readable, spelled⟩ | ⟨source, among, fault, unread, refused⟩ |
    ⟨symbol, sets, unspelled, refused⟩ := fromConfig_cases naming
  · exact ⟨fun _ => ⟨readable, spelled⟩, fun _ => ⟨rules, made⟩⟩
  · constructor
    · rintro ⟨_, made⟩
      rw [refused] at made
      cases made
    · rintro ⟨readable, -⟩
      obtain ⟨_, read⟩ := readable source among
      rw [unread] at read
      cases read
  · constructor
    · rintro ⟨_, made⟩
      rw [refused] at made
      cases made
    · rintro ⟨-, spelled⟩
      rw [spelled symbol sets] at unspelled
      cases unspelled

end Naming

/-! ### Loaded configurations -/

namespace Config

open Naming (NamingRules StrayBrace Template)

/-- One of the two ways to load gives this configuration. -/
def Loads (surroundings : Surroundings) (globalPath : Option String) (config : Config) : Prop :=
  (∃ start, loadFromDirectory surroundings globalPath start = .ok config) ∨
    ∃ path, loadFromFile surroundings globalPath path = .ok config

/-- The naming settings of the project. -/
def projectNaming (config : Config) : NamingSection :=
  config.project.naming.getD .empty

/-- The naming settings of the user that the project leaves open. -/
def inheritedNaming (config : Config) : NamingSection :=
  (config.defaults.naming.getD .empty).beneath config.projectNaming

theorem naming_eq_merge (config : Config) :
    config.naming = (config.defaults.naming.getD .empty).merge config.projectNaming := by
  unfold naming projectNaming
  cases config.project.naming <;> rfl

theorem overrideFromEnvironment_checked {environment : Environment} {read result : ProjectConfig}
    (overridden : overrideFromEnvironment environment read = .ok result) :
    result.validate = .ok () := by
  obtain ⟨changed, -, rest⟩ := checked_then overridden
  obtain ⟨⟨⟩, passed, rest⟩ := checked_then rest
  cases rest
  exact passed

/-- The project of a loaded configuration passes its check. -/
theorem Loads.checked {surroundings : Surroundings} {globalPath : Option String} {config : Config}
    (loads : Loads surroundings globalPath config) : config.project.validate = .ok () := by
  rcases loads with ⟨start, loaded⟩ | ⟨path, loaded⟩
  · obtain ⟨⟨root, read⟩, -, loaded⟩ := checked_then loaded
    obtain ⟨project, overridden, loaded⟩ := checked_then loaded
    cases loaded
    exact overrideFromEnvironment_checked overridden
  · obtain ⟨read, -, loaded⟩ := checked_then loaded
    obtain ⟨project, overridden, loaded⟩ := checked_then loaded
    cases loaded
    exact overrideFromEnvironment_checked overridden

theorem projectNaming_checked {config : Config} (checked : config.project.validate = .ok ()) :
    config.projectNaming.validate = .ok () := by
  unfold projectNaming
  cases sets : config.project.naming with
  | none => rfl
  | some naming =>
    rw [ProjectConfig.validate, sets] at checked
    cases compiler : config.project.compiler with
    | none =>
      rw [compiler] at checked
      exact checked
    | some compiler =>
      simp only [compiler] at checked
      obtain ⟨⟨⟩, -, passed⟩ := checked_then checked
      exact passed

/-- The naming settings of a loaded configuration give rules just if no template of the project has
a brace left behind its last token and what the user's defaults add to the project's settings can be
read.  If they give none, then the error is about one of these. -/
theorem naming_usable {surroundings : Surroundings} {globalPath : Option String} {config : Config}
    (loads : Loads surroundings globalPath config) :
    ((∃ rules, NamingRules.fromConfig config.naming = .ok rules) ↔
      (∀ source ∈ config.projectNaming.templates, ¬ StrayBrace source.toList) ∧
      (∀ source ∈ config.inheritedNaming.templates,
        tokenFault source.toList = none ∧ ¬ StrayBrace source.toList) ∧
      ∀ symbol, config.inheritedNaming.releaseSymbol = some symbol →
        Text.isIdentifier symbol = true) ∧
    ∀ error, NamingRules.fromConfig config.naming = .error error →
      (∃ source ∈ config.projectNaming.templates, StrayBrace source.toList ∧
        error = .invalidTemplate source "unmatched '\x7d'") ∨
      (∃ source ∈ config.inheritedNaming.templates, ∃ fault,
        Template.parse source = .error fault ∧ error = .invalidTemplate source fault.message) ∨
      ∃ symbol, config.inheritedNaming.releaseSymbol = some symbol ∧
        Text.isIdentifier symbol = false ∧ error = .invalidSymbol symbol := by
  obtain ⟨clean, spelled⟩ := NamingSection.validate_ok (projectNaming_checked loads.checked)
  have merged := config.naming_eq_merge
  have templates : ∀ source, source ∈ config.naming.templates ↔
      source ∈ config.projectNaming.templates ∨ source ∈ config.inheritedNaming.templates := by
    intro source
    rw [merged]
    exact NamingSection.mem_templates_merge
  have symbols : ∀ symbol, config.naming.releaseSymbol = some symbol ↔
      config.projectNaming.releaseSymbol = some symbol ∨
        config.inheritedNaming.releaseSymbol = some symbol := by
    intro symbol
    rw [merged]
    exact NamingSection.some_or_iff
  constructor
  · simp only [NamingRules.fromConfig_ok_iff, parse_ok_iff, templates, symbols]
    constructor
    · rintro ⟨readable, identifiers⟩
      exact ⟨fun source among => (readable source (.inl among)).2,
        fun source among => readable source (.inr among),
        fun symbol sets => identifiers symbol (.inr sets)⟩
    · rintro ⟨unstrayed, readable, identifiers⟩
      constructor
      · rintro source (among | among)
        · exact ⟨clean source among, unstrayed source among⟩
        · exact readable source among
      · rintro symbol (sets | sets)
        · exact spelled symbol sets
        · exact identifiers symbol sets
  · intro error failed
    obtain ⟨rules, made, -⟩ | ⟨source, among, fault, unread, refused⟩ |
      ⟨symbol, sets, unspelled, refused⟩ := NamingRules.fromConfig_cases config.naming
    · rw [made] at failed
      cases failed
    · rw [refused] at failed
      cases failed
      rcases (templates source).mp among with among | among
      · obtain ⟨stray, rfl⟩ := parse_refused (clean source among) unread
        exact .inl ⟨source, among, stray, rfl⟩
      · exact .inr (.inl ⟨source, among, fault, unread, rfl⟩)
    · rw [refused] at failed
      cases failed
      rcases (symbols symbol).mp sets with sets | sets
      · rw [spelled symbol sets] at unspelled
        cases unspelled
      · exact .inr (.inr ⟨symbol, sets, unspelled, rfl⟩)

end Config

namespace Workbench

open Config (NamingSection Surroundings)
open Naming (NamingRules)

/-- A project's file and a user's defaults, with nothing set in the environment. -/
def twoFiles (project user : String) : Surroundings where
  files := .ofListing []
    [("/p/tccbind.toml", Text.Utf8.encode project), ("/g.toml", Text.Utf8.encode user)] "/p"
  environment := ⟨fun _ => none, none⟩

/-- The configuration of a project and a user that set names only. -/
def namesOnly (project user : NamingSection) : Config :=
  ⟨⟨none, some project⟩, ⟨none, some user⟩, some "/p"⟩

/-- A user's field template that is cut off, with one of the project on top. -/
def coveredFault : Config :=
  namesOnly { NamingSection.empty with field := some "\x7bfield\x7d" }
    { NamingSection.empty with field := some "\x7bfield", releaseSymbol := some "drop" }

theorem coveredFault_loads : Config.Loads
    (twoFiles "[naming]\nfield = '\x7bfield\x7d'"
      "[naming]\nfield = '\x7bfield'\nrelease_symbol = 'drop'")
    (some "/g.toml") coveredFault := by
  refine .inr ⟨"/p/tccbind.toml", ?_⟩
  decide +kernel

/-- The user's cut-off template does no harm as long as the project sets the entry. -/
theorem coveredFault_usable :
    Config.Loads
      (twoFiles "[naming]\nfield = '\x7bfield\x7d'"
        "[naming]\nfield = '\x7bfield'\nrelease_symbol = 'drop'")
      (some "/g.toml") coveredFault ∧
    ∃ rules, NamingRules.fromConfig coveredFault.naming = .ok rules := by
  refine ⟨coveredFault_loads, (Config.naming_usable coveredFault_loads).1.mpr ⟨?_, ?_, ?_⟩⟩
  · decide
  · decide
  · rintro symbol ⟨⟩
    decide

/-- A configuration whose only name is a method template of the project with a brace too many. -/
def strayMethod : Config :=
  namesOnly { NamingSection.empty with method := some "a\x7d" } .empty

/-- A configuration whose only name is a method template of the user that is cut off. -/
def cutMethod : Config :=
  namesOnly .empty { NamingSection.empty with method := some "\x7bclass" }

/-- Two configurations that load and give no naming rules: the check of a project lets a brace pass
that reading refuses, and nothing checks what a user sets. -/
theorem loaded_unusable :
    (Config.loadFromFile (twoFiles "[naming]\nmethod = 'a\x7d'" "[naming]")
        (some "/g.toml") "/p/tccbind.toml" = .ok strayMethod ∧
      NamingRules.fromConfig strayMethod.naming =
        .error (.invalidTemplate "a\x7d" "unmatched '\x7d'")) ∧
    Config.loadFromFile (twoFiles "[naming]" "[naming]\nmethod = '\x7bclass'")
        (some "/g.toml") "/p/tccbind.toml" = .ok cutMethod ∧
      NamingRules.fromConfig cutMethod.naming =
        .error (.invalidTemplate "\x7bclass" "unterminated token") := by
  decide +kernel

end Workbench

end NativeBridge
