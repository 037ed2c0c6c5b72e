/-
Module: NativeBridge.Proofs.MergedSettings
Purpose: The laws of putting project configurations on top of each other.
Main exports: Config.NamingSection.entry_merge, Config.NamingSection.validate_ok_iff,
  Config.ProjectConfig.validate_ok_iff, Config.ProjectConfig.merge_laws
-/
import NativeBridge.Proofs.SettingPrecedence

namespace NativeBridge

namespace Config

/-!
A configuration on top of another brings its compiler settings as a whole and its naming entry by
entry.  So every setting of the result stands in one of the two, and what is checked on its own is
still right beside other settings.
-/

/-! ### Naming -/

/-- Every check passes if one after the other does. -/
theorem checked_both {first next : Except ConfigError Unit} :
    (first >>= fun _ => next) = .ok () ↔ first = .ok () ∧ next = .ok () := by
  constructor
  · intro passed
    obtain ⟨⟨⟩, before, after⟩ := checked_then passed
    exact ⟨before, after⟩
  · rintro ⟨before, after⟩
    rw [before, after]
    rfl

theorem validateField_ok_iff {field : String} {entry : Option String} :
    validateField field entry = .ok () ↔
      ∀ template, entry = some template → tokenFault template.toList = none := by
  refine ⟨fun passed template => validateField_ok passed, fun clean => ?_⟩
  cases entry with
  | none => rfl
  | some template => rw [validateField, validateTemplate, clean template rfl]

theorem validateReleaseSymbol_ok_iff {entry : Option String} :
    validateReleaseSymbol entry = .ok () ↔
      ∀ symbol, entry = some symbol → Text.isIdentifier symbol = true := by
  cases entry with
  | none => simp [validateReleaseSymbol]
  | some symbol => simp [validateReleaseSymbol]

namespace NamingSection

/-- An entry is the one of the section on top, if that sets it. -/
theorem entry_merge (base top : NamingSection) :
    ∀ entry ∈ entries, entry (base.merge top) = (entry top).or (entry base) := by
  simp [entries, merge]

instance : Std.Associative merge where
  assoc first second third := eq_of_entries fun entry among => by
    simp only [entry_merge _ _ entry among, Option.or_assoc]

instance : Std.IdempotentOp merge where
  idempotent naming := eq_of_entries fun entry among => by
    rw [entry_merge _ _ entry among, Option.or_self]

/-- The check passes just if each template has tokens that are closed and known, and the release
symbol is an identifier. -/
theorem validate_ok_iff {naming : NamingSection} :
    naming.validate = .ok () ↔
      (∀ template ∈ naming.templates, tokenFault template.toList = none) ∧
        ∀ symbol, naming.releaseSymbol = some symbol → Text.isIdentifier symbol = true := by
  refine ⟨validate_ok, ?_⟩
  rintro ⟨clean, identifier⟩
  simp only [mem_templates, or_imp, forall_and] at clean
  obtain ⟨method, property, field, constructor⟩ := clean
  simp only [validate, checked_both, validateField_ok_iff, validateReleaseSymbol_ok_iff]
  exact ⟨method, property, field, constructor, identifier⟩

/-- The templates that show below a section are templates of the section below. -/
theorem mem_templates_of_beneath {base top : NamingSection} {template : String}
    (shows : template ∈ (base.beneath top).templates) : template ∈ base.templates := by
  simp only [mem_templates, beneath, Option.ite_none_left_eq_some] at shows ⊢
  tauto

theorem validate_merge {base top : NamingSection} (below : base.validate = .ok ())
    (above : top.validate = .ok ()) : (base.merge top).validate = .ok () := by
  rw [validate_ok_iff] at below above ⊢
  constructor
  · intro template among
    rcases mem_templates_merge.mp among with sets | shows
    · exact above.1 template sets
    · exact below.1 template (mem_templates_of_beneath shows)
  · intro symbol sets
    rcases Option.or_eq_some_iff.mp sets with sets | ⟨-, shows⟩
    · exact above.2 symbol sets
    · exact below.2 symbol shows

end NamingSection

/-! ### Configurations -/

namespace ProjectConfig

/-- The check passes just if that of each section does. -/
theorem validate_ok_iff {config : ProjectConfig} :
    config.validate = .ok () ↔
      (∀ compiler ∈ config.compiler, compiler.validate = .ok ()) ∧
        ∀ naming ∈ config.naming, naming.validate = .ok () := by
  cases config with
  | mk compiler naming =>
    cases compiler <;> cases naming <;> simp [validate, checked_both]

/-- Compiler settings on top hide those below, and naming settings are merged if both are there. -/
theorem merge_eq (base top : ProjectConfig) :
    base.merge top =
      ⟨top.compiler.or base.compiler, base.naming.merge NamingSection.merge top.naming⟩ := by
  rw [merge, mk.injEq]
  refine ⟨rfl, ?_⟩
  cases base.naming <;> cases top.naming <;> rfl

theorem merge_assoc (first second third : ProjectConfig) :
    (first.merge second).merge third = first.merge (second.merge third) := by
  simp only [merge_eq, mk.injEq]
  exact ⟨Option.or_assoc.symm, Std.Associative.assoc first.naming second.naming third.naming⟩

theorem empty_merge (config : ProjectConfig) : empty.merge config = config := by
  rw [merge_eq, empty, Option.or_none, Option.merge_none_left]

theorem merge_empty (config : ProjectConfig) : config.merge empty = config := by
  rw [merge_eq, empty, Option.none_or, Option.merge_none_right]

theorem merge_self (config : ProjectConfig) : config.merge config = config := by
  have same : config.naming.merge NamingSection.merge config.naming = config.naming :=
    Std.IdempotentOp.idempotent config.naming
  rw [merge_eq, Option.or_self, same]

/-- An entry is the one of the configuration on top, if that sets it, whether or not there is a
naming section on either side. -/
theorem entry_merge (base top : ProjectConfig) :
    ∀ entry ∈ NamingSection.entries,
      (base.merge top).naming.bind entry = (top.naming.bind entry).or (base.naming.bind entry) := by
  intro entry among
  rw [merge_eq]
  cases base.naming with
  | none => rw [Option.merge_none_left, Option.bind_none, Option.or_none]
  | some mine =>
    cases top.naming with
    | none => rw [Option.merge_none_right, Option.bind_none, Option.none_or]
    | some theirs =>
      rw [Option.merge_some_some]
      exact mine.entry_merge theirs entry among

theorem validate_merge {base top : ProjectConfig} (below : base.validate = .ok ())
    (above : top.validate = .ok ()) : (base.merge top).validate = .ok () := by
  rw [merge_eq]
  rw [validate_ok_iff] at below above ⊢
  constructor
  · intro compiler shows
    rcases Option.or_eq_some_iff.mp shows with set | ⟨-, set⟩
    · exact above.1 compiler set
    · exact below.1 compiler set
  · intro naming shows
    rcases Option.merge_eq_some_iff.mp shows with
      ⟨set, -⟩ | ⟨-, set⟩ | ⟨mine, theirs, set, shown, rfl⟩
    · exact below.2 naming set
    · exact above.2 naming set
    · exact NamingSection.validate_merge (below.2 mine set) (above.2 theirs shown)

/-- Configurations can be put on top of each other in any grouping; one that sets nothing changes
nothing, above or below, and neither does the same one again.  A naming entry is the one on top, if
that is set, and configurations that pass the check still do together. -/
theorem merge_laws (first second third : ProjectConfig) :
    (first.merge second).merge third = first.merge (second.merge third) ∧
    empty.merge first = first ∧
    first.merge empty = first ∧
    first.merge first = first ∧
    (∀ entry ∈ NamingSection.entries,
      (first.merge second).naming.bind entry =
        (second.naming.bind entry).or (first.naming.bind entry)) ∧
    (first.validate = .ok () → second.validate = .ok () →
      (first.merge second).validate = .ok ()) :=
  ⟨merge_assoc first second third, empty_merge first, merge_empty first, merge_self first,
    entry_merge first second, validate_merge⟩

end ProjectConfig

end Config

namespace Workbench

open Config (CompilerSection NamingSection ProjectConfig)

/-- A project with a library and two naming entries. -/
def plainProject : ProjectConfig :=
  ⟨some { CompilerSection.empty with library := some "tcc" },
    some { NamingSection.empty with
      method := some "\x7bclass\x7d_\x7bmethod\x7d", field := some "f" }⟩

/-- Naming entries of which one is set in the plain project too. -/
def namingOnTop : ProjectConfig :=
  ⟨none, some { NamingSection.empty with method := some "m", releaseSymbol := some "drop" }⟩

/-- Definitions, and nothing about names. -/
def definesOnTop : ProjectConfig :=
  ⟨some { CompilerSection.empty with defines := [("DEBUG", "1")] }, none⟩

/-- Three configurations that pass the check, in both groupings. -/
theorem threeProjects_merged :
    (plainProject.merge namingOnTop).merge definesOnTop =
      plainProject.merge (namingOnTop.merge definesOnTop) ∧
    (plainProject.merge namingOnTop).naming.bind NamingSection.method = some "m" ∧
    (plainProject.merge namingOnTop).naming.bind NamingSection.field = some "f" ∧
    (plainProject.merge namingOnTop).validate = .ok () := by
  have plainPasses : plainProject.validate = .ok () := by decide +kernel
  have namingPasses : namingOnTop.validate = .ok () := by decide +kernel
  obtain ⟨grouped, -, -, -, entries, kept⟩ :=
    ProjectConfig.merge_laws plainProject namingOnTop definesOnTop
  refine ⟨grouped, ?_, ?_, kept plainPasses namingPasses⟩
  · exact entries NamingSection.method (by simp [NamingSection.entries])
  · exact entries NamingSection.field (by simp [NamingSection.entries])

end Workbench

end NativeBridge
