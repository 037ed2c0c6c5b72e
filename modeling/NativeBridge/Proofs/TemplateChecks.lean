/-
Module: NativeBridge.Proofs.TemplateChecks
Purpose: The check of a template and its reading stop at the same place of the text.
Main exports: Config.tokenFault_eq_some_iff, Config.validateTemplate_reports_iff,
  Config.check_agrees
-/
import NativeBridge.Proofs.TemplateGrammar

namespace NativeBridge

/-!
A configuration checks a template with a scanner of its own, which keeps nothing of what it passes.
Both scanners look for the next opening brace and then for the closing one, so a token that the one
stops at is the first bad one for the other too.  Only a closing brace behind the last token makes a
difference: the check does not look there.
-/

/-! ### Wordings -/

namespace Naming.TemplateFault

theorem message_unterminated : unterminatedToken.message = "unterminated token" := rfl

theorem message_unknown (name : String) :
    (unknownToken name).message = "unknown token '" ++ name ++ "'" := rfl

theorem message_unmatched : unmatchedBrace.message = "unmatched '\x7d'" := rfl

/-- Faults are told apart by their wording, and tokens by their names in it. -/
theorem message_inj {one other : TemplateFault} : one.message = other.message ↔ one = other := by
  refine ⟨fun same => ?_, congrArg message⟩
  have spelled := congrArg String.toList same
  cases one <;> cases other <;>
    simp [message_unterminated, message_unknown, message_unmatched, String.toList_inj] at spelled ⊢
  exact spelled

end Naming.TemplateFault

namespace Config

open Naming (FailsWith Template TemplateFault readTemplate)

namespace TokenFault

variable {template : String} {one other : TokenFault}

theorem message_unterminated (template : String) :
    unterminated.message template = "unterminated token in '" ++ template ++ "'" := rfl

theorem message_unknown (template name : String) :
    (unknown name).message template = "unknown token '\x7b" ++ name ++ "\x7d'" := rfl

theorem message_inj : one.message template = other.message template ↔ one = other := by
  refine ⟨fun same => ?_, congrArg (message template)⟩
  have spelled := congrArg String.toList same
  cases one <;> cases other <;>
    simp [message_unterminated, message_unknown, String.toList_inj] at spelled ⊢
  exact spelled

theorem whenRead_inj : one.whenRead = other.whenRead ↔ one = other := by
  cases one <;> cases other <;> simp [whenRead]

end TokenFault

/-! ### Faults -/

variable {source field : String} {fault : TokenFault}

/-- The check finds the fault of a text, unless that is a brace left over. -/
theorem tokenFault_eq_some_iff {source : List Char} :
    tokenFault source = some fault ↔ FailsWith source fault.whenRead := by
  rw [← Naming.readParts_eq_error_iff]
  obtain ⟨found, checked, read⟩ | ⟨clean, -, read⟩ | ⟨clean, -, parts, read⟩ :=
    readParts_cases source
  · rw [checked, read, Option.some_inj, Except.error.injEq, TokenFault.whenRead_inj]
  · rw [clean, read]
    cases fault <;> simp [TokenFault.whenRead]
  · simp [clean, read]

theorem validateTemplate_eq_error_iff {error : ConfigError} :
    validateTemplate field source = .error error ↔
      ∃ fault : TokenFault, FailsWith source.toList fault.whenRead ∧
        error = .invalidValue field (fault.message source) := by
  simp only [← tokenFault_eq_some_iff]
  rw [validateTemplate]
  cases tokenFault source.toList <;> simp [eq_comm]

theorem validateTemplate_reports_iff :
    validateTemplate field source = .error (.invalidValue field (fault.message source)) ↔
      FailsWith source.toList fault.whenRead := by
  rw [validateTemplate_eq_error_iff]
  constructor
  · rintro ⟨found, fails, same⟩
    rw [ConfigError.invalidValue.injEq, TokenFault.message_inj] at same
    rw [same.2]
    exact fails
  · intro fails
    exact ⟨fault, fails, rfl⟩

theorem readTemplate_reports_iff {fault : TemplateFault} :
    readTemplate source = .error (.invalidTemplate source fault.message) ↔
      FailsWith source.toList fault := by
  simp only [Naming.readTemplate_eq_error_iff, Naming.parse_eq_error_iff]
  constructor
  · rintro ⟨found, fails, same⟩
    rw [BindError.invalidTemplate.injEq, TemplateFault.message_inj] at same
    rw [same.2]
    exact fails
  · intro fails
    exact ⟨fault, fails, rfl⟩

/-- The check of a template and its reading find the same first fault.  The check reports a token
that is not terminated, or one whose name is not known, just if reading does, and it reports nothing
else; what it reports is the first fault of the text.  So a text that is read passes the check. -/
theorem check_agrees (field source : String) :
    (validateTemplate field source =
        .error (.invalidValue field s!"unterminated token in '{source}'") ↔
      readTemplate source = .error (.invalidTemplate source "unterminated token")) ∧
    (∀ name : String,
      validateTemplate field source =
          .error (.invalidValue field s!"unknown token '\x7b{name}\x7d'") ↔
        readTemplate source = .error (.invalidTemplate source s!"unknown token '{name}'")) ∧
    (∀ error, validateTemplate field source = .error error ↔
      ∃ fault : TokenFault, FailsWith source.toList fault.whenRead ∧
        error = .invalidValue field (fault.message source)) ∧
    ((∃ template, readTemplate source = .ok template) →
      validateTemplate field source = .ok ()) := by
  have alike (fault : TokenFault) :
      validateTemplate field source = .error (.invalidValue field (fault.message source)) ↔
        readTemplate source = .error (.invalidTemplate source fault.whenRead.message) :=
    validateTemplate_reports_iff.trans readTemplate_reports_iff.symm
  refine ⟨alike .unterminated, fun name => alike (.unknown name),
    fun error => validateTemplate_eq_error_iff, ?_⟩
  rintro ⟨template, read⟩
  cases checked : validateTemplate field source with
  | ok passed => rfl
  | error error =>
    obtain ⟨fault, -, rfl⟩ := validateTemplate_eq_error_iff.mp checked
    rw [(alike fault).mp checked] at read
    cases read

end Config

end NativeBridge
