/-
Module: NativeBridge.Proofs.TemplateGrammar
Purpose: Which texts are naming templates, what they are read as and where the others fail; and what
  becomes of two templates whose texts are put together.
Main exports: IsBody, scan_induction, Reads, FailsWith, readParts_eq_ok_iff, readParts_eq_error_iff,
  WellFormed, readTemplate_exact, joinParts, Reads.append, parse_append
-/
import NativeBridge.Proofs.UsableNaming

namespace NativeBridge.Naming

/-!
A template is literal text with tokens in braces.  An opening brace always starts a token, and the
token runs to the next closing brace, whatever stands between.  So a text is cut from the left, in
one way only: the text before its first opening brace, the body of the token, and the rest, which is
cut in the same way.

Closing braces that end no token are looked for only behind the last token.  In front of a token
they are literal text, and this is all that sets the texts that are read apart from the well-formed
ones.
-/

/-! ### The body of a token -/

/-- The body of a token is a name, or a name and a specifier with a colon between them. -/
inductive IsBody : (body name spec : List Char) → Prop where
  | plain {name : List Char} (solid : ':' ∉ name) : IsBody name name []
  | formatted {name : List Char} (spec : List Char) (solid : ':' ∉ name) :
      IsBody (name ++ ':' :: spec) name spec

section Cuts

variable {front : List Char} {mark : Char}

theorem differs_of_absent (absent : mark ∉ front) : ∀ c ∈ front, (c != mark) = true :=
  fun _ among => bne_iff_ne.mpr fun same => absent (same ▸ among)

theorem takeWhile_ne_append (absent : mark ∉ front) (back : List Char) :
    (front ++ mark :: back).takeWhile (· != mark) = front := by
  rw [List.takeWhile_append_of_pos (differs_of_absent absent),
    List.takeWhile_cons_of_neg (by simp), List.append_nil]

theorem dropWhile_ne_append (absent : mark ∉ front) (back : List Char) :
    (front ++ mark :: back).dropWhile (· != mark) = mark :: back := by
  rw [List.dropWhile_append_of_pos (differs_of_absent absent),
    List.dropWhile_cons_of_neg (by simp)]

theorem takeWhile_ne_self (absent : mark ∉ front) : front.takeWhile (· != mark) = front :=
  List.takeWhile_eq_self_iff.mpr (differs_of_absent absent)

theorem dropWhile_ne_self (absent : mark ∉ front) : front.dropWhile (· != mark) = [] :=
  List.dropWhile_eq_nil_iff.mpr (differs_of_absent absent)

end Cuts

theorem IsBody.splitBody_eq {body name spec : List Char} (parted : IsBody body name spec) :
    splitBody body = (name, spec) := by
  cases parted with
  | plain solid => rw [splitBody, takeWhile_ne_self solid, dropWhile_ne_self solid, List.drop_nil]
  | formatted spec solid =>
    rw [splitBody, takeWhile_ne_append solid, dropWhile_ne_append solid, List.drop_one,
      List.tail_cons]

/-- Every body is divided in this way, at its first colon. -/
theorem isBody_splitBody (body : List Char) :
    IsBody body (splitBody body).1 (splitBody body).2 := by
  by_cases colon : ':' ∈ body
  · obtain ⟨name, spec, rfl, solid⟩ := List.eq_append_cons_of_mem colon
    rw [(IsBody.formatted spec solid).splitBody_eq]
    exact .formatted spec solid
  · rw [(IsBody.plain colon).splitBody_eq]
    exact .plain colon

theorem Token.ofName?_eq_some_iff {name : List Char} {which : Token} :
    Token.ofName? name = some which ↔ which.name.toList = name := by
  constructor
  · intro found
    simpa using List.find?_some found
  · rintro rfl
    cases which <;> decide

theorem Token.ofName?_eq_none_iff {name : List Char} :
    Token.ofName? name = none ↔ ∀ which : Token, which.name.toList ≠ name := by
  rw [Option.eq_none_iff_forall_ne_some]
  exact forall_congr' fun which => not_congr Token.ofName?_eq_some_iff

theorem IsBody.bodyPart_known {body spec : List Char} {which : Token}
    (parted : IsBody body which.name.toList spec) :
    bodyPart body = .ok (.token which (String.ofList spec)) := by
  rw [bodyPart, parted.splitBody_eq, Token.ofName?_eq_some_iff.mpr rfl]

theorem IsBody.bodyPart_unknown {body name spec : List Char} (parted : IsBody body name spec)
    (unknown : ∀ which : Token, which.name.toList ≠ name) :
    bodyPart body = .error (.unknownToken (String.ofList name)) := by
  rw [bodyPart, parted.splitBody_eq, Token.ofName?_eq_none_iff.mpr unknown]

/-! ### Scanning -/

/-- A text that starts with literals and a token. -/
def withToken (literals body rest : List Char) : List Char :=
  literals ++ openBrace :: (body ++ closeBrace :: rest)

/-- What holds of texts without an opening brace, of those whose first one is never closed, and of
those that a token is put in front of, holds of all texts. -/
@[elab_as_elim]
theorem scan_induction {motive : List Char → Prop}
    (text : ∀ source, openBrace ∉ source → motive source)
    (cut : ∀ literals after, openBrace ∉ literals → closeBrace ∉ after →
      motive (literals ++ openBrace :: after))
    (token : ∀ literals body rest, openBrace ∉ literals → closeBrace ∉ body → motive rest →
      motive (withToken literals body rest)) (source : List Char) : motive source := by
  -- A token takes its two braces away from the rest at least.
  induction size : source.length using Nat.strongRecOn generalizing source with
  | ind n ih =>
    by_cases opened : openBrace ∈ source
    · obtain ⟨literals, after, rfl, unopened⟩ := List.eq_append_cons_of_mem opened
      by_cases closed : closeBrace ∈ after
      · obtain ⟨body, rest, rfl, unclosed⟩ := List.eq_append_cons_of_mem closed
        have shorter : rest.length < n := by
          simp only [List.length_append, List.length_cons] at size
          omega
        exact token literals body rest unopened unclosed (ih _ shorter rest rfl)
      · exact cut literals after unopened closed
    · exact text source opened

section Steps

variable {source literals after body rest : List Char}

theorem readParts_text (unopened : openBrace ∉ source) :
    readParts source =
      if closeBrace ∈ source then .error .unmatchedBrace else .ok (literalPart source) := by
  rw [readParts_unopened (dropWhile_ne_self unopened)]
  simp only [List.contains_iff_mem]

theorem readParts_cut (unopened : openBrace ∉ literals) (unclosed : closeBrace ∉ after) :
    readParts (literals ++ openBrace :: after) = .error .unterminatedToken :=
  readParts_unclosed (dropWhile_ne_append unopened after) (dropWhile_ne_self unclosed)

theorem readParts_withToken (unopened : openBrace ∉ literals) (unclosed : closeBrace ∉ body) :
    readParts (withToken literals body rest) = (do
      let part ← bodyPart body
      let parts ← readParts rest
      .ok (literalPart literals ++ part :: parts)) := by
  rw [withToken, readParts_token (dropWhile_ne_append unopened _)
    (dropWhile_ne_append unclosed rest), takeWhile_ne_append unopened, takeWhile_ne_append unclosed]

end Steps

/-! ### Reading and failing -/

/-- A text is read as these parts: literals and tokens with known names in turn, and behind the last
token text without any brace. -/
inductive Reads : List Char → List Part → Prop where
  | text {source : List Char} (unopened : openBrace ∉ source) (unclosed : closeBrace ∉ source) :
      Reads source (literalPart source)
  | token {literals body spec rest : List Char} {which : Token} {parts : List Part}
      (unopened : openBrace ∉ literals) (unclosed : closeBrace ∉ body)
      (parted : IsBody body which.name.toList spec) (behind : Reads rest parts) :
      Reads (withToken literals body rest)
        (literalPart literals ++ .token which (String.ofList spec) :: parts)

/-- A text is no template, for this reason: behind tokens with known names stands a token that is
never closed, one whose name is unknown, or, if there is no token left, a closing brace. -/
inductive FailsWith : List Char → TemplateFault → Prop where
  | stray {source : List Char} (unopened : openBrace ∉ source) (closed : closeBrace ∈ source) :
      FailsWith source .unmatchedBrace
  | cut {literals after : List Char} (unopened : openBrace ∉ literals)
      (unclosed : closeBrace ∉ after) :
      FailsWith (literals ++ openBrace :: after) .unterminatedToken
  | unknown {literals body name spec : List Char} (rest : List Char)
      (unopened : openBrace ∉ literals) (unclosed : closeBrace ∉ body)
      (parted : IsBody body name spec) (unknown : ∀ which : Token, which.name.toList ≠ name) :
      FailsWith (withToken literals body rest) (.unknownToken (String.ofList name))
  | behind {literals body spec rest : List Char} {which : Token} {fault : TemplateFault}
      (unopened : openBrace ∉ literals) (unclosed : closeBrace ∉ body)
      (parted : IsBody body which.name.toList spec) (later : FailsWith rest fault) :
      FailsWith (withToken literals body rest) fault

section Judgements

variable {source : List Char} {parts : List Part} {fault : TemplateFault}

theorem Reads.nothing : Reads [] [] :=
  .text List.not_mem_nil List.not_mem_nil

theorem Reads.readParts_eq (reads : Reads source parts) : readParts source = .ok parts := by
  induction reads with
  | text unopened unclosed => rw [readParts_text unopened, if_neg unclosed]
  | token unopened unclosed parted behind ih =>
    rw [readParts_withToken unopened unclosed, parted.bodyPart_known, ih]
    rfl

theorem FailsWith.readParts_eq (fails : FailsWith source fault) :
    readParts source = .error fault := by
  induction fails with
  | stray unopened closed => rw [readParts_text unopened, if_pos closed]
  | cut unopened unclosed => exact readParts_cut unopened unclosed
  | unknown rest unopened unclosed parted unknown =>
    rw [readParts_withToken unopened unclosed, parted.bodyPart_unknown unknown]
    rfl
  | behind unopened unclosed parted later ih =>
    rw [readParts_withToken unopened unclosed, parted.bodyPart_known, ih]
    rfl

/-- Every text is read as something or fails for some reason. -/
theorem reads_or_fails (source : List Char) :
    (∃ parts, Reads source parts) ∨ ∃ fault, FailsWith source fault := by
  induction source using scan_induction with
  | text source unopened =>
    by_cases closed : closeBrace ∈ source
    · exact .inr ⟨_, .stray unopened closed⟩
    · exact .inl ⟨_, .text unopened closed⟩
  | cut literals after unopened unclosed => exact .inr ⟨_, .cut unopened unclosed⟩
  | token literals body rest unopened unclosed ih =>
    have parted := isBody_splitBody body
    cases named : Token.ofName? (splitBody body).1 with
    | none =>
      have unknown := Token.ofName?_eq_none_iff.mp named
      exact .inr ⟨_, .unknown rest unopened unclosed parted unknown⟩
    | some which =>
      rw [← Token.ofName?_eq_some_iff.mp named] at parted
      obtain ⟨parts, reads⟩ | ⟨fault, fails⟩ := ih
      · exact .inl ⟨_, .token unopened unclosed parted reads⟩
      · exact .inr ⟨_, .behind unopened unclosed parted fails⟩

theorem readParts_eq_ok_iff : readParts source = .ok parts ↔ Reads source parts := by
  refine ⟨fun read => ?_, Reads.readParts_eq⟩
  obtain ⟨others, reads⟩ | ⟨fault, fails⟩ := reads_or_fails source
  · rw [reads.readParts_eq] at read
    cases read
    exact reads
  · rw [fails.readParts_eq] at read
    cases read

theorem readParts_eq_error_iff : readParts source = .error fault ↔ FailsWith source fault := by
  refine ⟨fun refused => ?_, FailsWith.readParts_eq⟩
  obtain ⟨parts, reads⟩ | ⟨reason, fails⟩ := reads_or_fails source
  · rw [reads.readParts_eq] at refused
    cases refused
  · rw [fails.readParts_eq] at refused
    cases refused
    exact fails

end Judgements

theorem parse_eq_ok_iff {source : String} {template : Template} :
    Template.parse source = .ok template ↔
      template.source = source ∧ Reads source.toList template.parts := by
  rw [← readParts_eq_ok_iff, Template.parse]
  cases readParts source.toList with
  | error fault => simp [Except.map]
  | ok parts =>
    obtain ⟨text, others⟩ := template
    simp [Except.map, eq_comm]

theorem parse_eq_error_iff {source : String} {fault : TemplateFault} :
    Template.parse source = .error fault ↔ FailsWith source.toList fault := by
  rw [← readParts_eq_error_iff, Template.parse]
  cases readParts source.toList <;> simp [Except.map]

theorem readTemplate_eq_ok_iff {source : String} {template : Template} :
    readTemplate source = .ok template ↔ Template.parse source = .ok template := by
  rw [readTemplate]
  cases Template.parse source <;> simp

theorem readTemplate_eq_error_iff {source : String} {error : BindError} :
    readTemplate source = .error error ↔
      ∃ fault, Template.parse source = .error fault ∧
        error = .invalidTemplate source fault.message := by
  rw [readTemplate]
  cases Template.parse source <;> simp [eq_comm]

/-! ### Texts put together -/

/-- Parts with others behind them: literals that meet are one. -/
def joinParts : List Part → List Part → List Part
  | [], others => others
  | [.literal text], .literal more :: others => .literal (text ++ more) :: others
  | part :: parts, others => part :: joinParts parts others

theorem renderParts_cons (context : NameContext) (part : Part) (parts : List Part) :
    renderParts context (part :: parts) = part.render context ++ renderParts context parts :=
  rfl

theorem renderParts_joinParts (context : NameContext) (parts others : List Part) :
    renderParts context (joinParts parts others) =
      renderParts context parts ++ renderParts context others := by
  fun_induction joinParts parts others with
  | case1 others => simp [renderParts]
  | case2 text more others => simp [renderParts, Part.render, String.append_assoc]
  | case3 part parts others separate ih => simp only [renderParts_cons, ih, String.append_assoc]

theorem renderParts_literalPart (text : String) (context : NameContext) :
    renderParts context (literalPart text.toList) = text := by
  by_cases empty : text = ""
  · subst empty
    rfl
  · simp [literalPart, renderParts, Part.render, empty]

/-- A list of parts is extended behind its last token. -/
theorem joinParts_token (literals : List Char) (which : Token) (spec : String)
    (parts others : List Part) :
    joinParts (literalPart literals ++ .token which spec :: parts) others =
      literalPart literals ++ .token which spec :: joinParts parts others := by
  by_cases none : literals.isEmpty <;> simp [literalPart, none, joinParts]

/-- Literals are extended by the literals that come next. -/
theorem joinParts_literals (literals more : List Char) {others : List Part}
    (apart : ∀ text, others.head? ≠ some (.literal text)) :
    joinParts (literalPart literals) (literalPart more ++ others) =
      literalPart (literals ++ more) ++ others := by
  cases literals with
  | nil => rfl
  | cons c literals =>
    cases more with
    | cons d more => simp [literalPart, joinParts, String.append_assoc]
    | nil =>
      cases others with
      | nil => simp [literalPart, joinParts]
      | cons part others =>
        cases part with
        | literal text => exact absurd rfl (apart text)
        | token which spec => simp [literalPart, joinParts]

/-- Where two texts meet, the scanner is as it was at the start of the second.  The literals on both
sides are cut off as one. -/
theorem Reads.append {source more : List Char} {parts others : List Part}
    (reads : Reads source parts) (behind : Reads more others) :
    Reads (source ++ more) (joinParts parts others) := by
  induction reads with
  | @text source unopened unclosed =>
    cases behind with
    | text unopened' unclosed' =>
      have joined := @joinParts_literals source more [] (by simp)
      rw [List.append_nil, List.append_nil] at joined
      rw [joined]
      exact .text (List.not_mem_append unopened unopened') (List.not_mem_append unclosed unclosed')
    | @token literals body spec rest which parts unopened' unclosed' parted behind =>
      rw [joinParts_literals _ _ (by simp), withToken, ← List.append_assoc]
      exact .token (List.not_mem_append unopened unopened') unclosed' parted behind
  | token unopened unclosed parted _ ih =>
    rw [joinParts_token, withToken, List.append_assoc, List.cons_append, List.append_assoc,
      List.cons_append]
    exact .token unopened unclosed parted ih

/-- Two templates put together are a template, which is read as the parts of the one and then those
of the other, and gives the text of the one and then that of the other; and a text without braces is
a template that gives this text. -/
theorem parse_append :
    (∀ {source more : String} {one other : Template}, Template.parse source = .ok one →
      Template.parse more = .ok other →
      ∃ whole, Template.parse (source ++ more) = .ok whole ∧
        whole.parts = joinParts one.parts other.parts ∧
        ∀ context, whole.render context = one.render context ++ other.render context) ∧
    ∀ text : String, openBrace ∉ text.toList → closeBrace ∉ text.toList →
      ∃ template, Template.parse text = .ok template ∧
        ∀ context, template.render context = text := by
  constructor
  · intro source more one other first second
    obtain ⟨-, reads⟩ := parse_eq_ok_iff.mp first
    obtain ⟨-, behind⟩ := parse_eq_ok_iff.mp second
    refine ⟨⟨source ++ more, joinParts one.parts other.parts⟩, ?_, rfl, ?_⟩
    · rw [parse_eq_ok_iff, String.toList_append]
      exact ⟨rfl, reads.append behind⟩
    · intro context
      exact renderParts_joinParts context one.parts other.parts
  · intro text unopened unclosed
    refine ⟨⟨text, literalPart text.toList⟩, ?_, ?_⟩
    · exact parse_eq_ok_iff.mpr ⟨rfl, .text unopened unclosed⟩
    · exact renderParts_literalPart text

/-- The built-in template for constructors is cut inside a literal and put together again. -/
theorem builtinConstructor_rejoined :
    let one : Template := ⟨"\x7bclass:L\x7d_n", [.token .owner "L", .literal "_n"]⟩
    let other : Template := ⟨"ew\x7bargs\x7d", [.literal "ew", .token .arguments ""]⟩
    Template.parse one.source = .ok one ∧ Template.parse other.source = .ok other ∧
      ∃ whole, Template.parse (one.source ++ other.source) = .ok whole ∧
        whole.parts = builtinConstructor.parts ∧
        ∀ context, whole.render context = one.render context ++ other.render context := by
  intro one other
  have first : Template.parse one.source = .ok one := by decide +kernel
  have second : Template.parse other.source = .ok other := by decide +kernel
  obtain ⟨whole, read, parts, rendered⟩ := parse_append.1 first second
  exact ⟨first, second, whole, read, parts.trans (by decide), rendered⟩

/-! ### Well-formed texts -/

/-- A piece of a well-formed template: text without braces, or a token with a known name. -/
inductive IsPiece : List Char → Prop where
  | literal {text : List Char} (unopened : openBrace ∉ text) (unclosed : closeBrace ∉ text) :
      IsPiece text
  | token (which : Token) : IsPiece (openBrace :: (which.name.toList ++ [closeBrace]))
  | formatted (which : Token) {spec : List Char} (unclosed : closeBrace ∉ spec) :
      IsPiece (openBrace :: (which.name.toList ++ ':' :: (spec ++ [closeBrace])))

/-- A text is made of such pieces. -/
def WellFormed (source : List Char) : Prop :=
  ∃ pieces : List (List Char), source = pieces.flatten ∧ ∀ piece ∈ pieces, IsPiece piece

/-- The literal characters of a part. -/
def Part.literalChars : Part → List Char
  | literal text => text.toList
  | token _ _ => []

/-- The literal characters of a template. -/
def literalText (parts : List Part) : List Char :=
  parts.flatMap Part.literalChars

theorem literalText_cons {part : Part} {parts : List Part} :
    literalText (part :: parts) = part.literalChars ++ literalText parts :=
  List.flatMap_cons

theorem literalText_literalPart (text : List Char) : literalText (literalPart text) = text := by
  cases text <;> simp [literalText, literalPart, Part.literalChars]

theorem literalText_token (literals : List Char) (which : Token) (spec : String)
    (parts : List Part) :
    literalText (literalPart literals ++ .token which spec :: parts) =
      literals ++ literalText parts := by
  rw [literalText, List.flatMap_append, List.flatMap_cons]
  exact congrArg (· ++ literalText parts) (literalText_literalPart literals)

theorem literalText_joinParts (parts others : List Part) :
    literalText (joinParts parts others) = literalText parts ++ literalText others := by
  fun_induction joinParts parts others with
  | case1 others => rfl
  | case2 text more others => simp [literalText, Part.literalChars]
  | case3 part parts others separate ih => simp only [literalText_cons, ih, List.append_assoc]

theorem Token.name_plain (which : Token) :
    ':' ∉ which.name.toList ∧ closeBrace ∉ which.name.toList := by
  cases which <;> decide

/-- A piece is read, with no closing brace in a literal. -/
theorem IsPiece.reads {piece : List Char} (well : IsPiece piece) :
    ∃ parts, Reads piece parts ∧ closeBrace ∉ literalText parts := by
  cases well with
  | literal unopened unclosed =>
    refine ⟨_, .text unopened unclosed, ?_⟩
    rw [literalText_literalPart]
    exact unclosed
  | token which =>
    have reads : Reads (withToken [] which.name.toList []) _ :=
      .token List.not_mem_nil which.name_plain.2 (.plain which.name_plain.1) .nothing
    exact ⟨_, reads, List.not_mem_nil⟩
  | @formatted which spec unclosed =>
    have body : closeBrace ∉ which.name.toList ++ ':' :: spec := by
      simp only [List.mem_append, List.mem_cons, not_or]
      exact ⟨which.name_plain.2, by decide, unclosed⟩
    have reads : Reads (withToken [] (which.name.toList ++ ':' :: spec) []) _ :=
      .token List.not_mem_nil body (.formatted spec which.name_plain.1) .nothing
    rw [withToken, List.append_assoc] at reads
    exact ⟨_, reads, List.not_mem_nil⟩

theorem isPiece_of_body {body spec : List Char} {which : Token} (unclosed : closeBrace ∉ body)
    (parted : IsBody body which.name.toList spec) :
    IsPiece (openBrace :: (body ++ [closeBrace])) := by
  cases parted with
  | plain => exact .token which
  | formatted =>
    rw [List.append_assoc, List.cons_append]
    apply IsPiece.formatted which
    intro among
    exact unclosed (List.mem_append_right _ (List.mem_cons_of_mem _ among))

/-- A text is well-formed just if it is read with no closing brace in a literal. -/
theorem wellFormed_iff {source : List Char} :
    WellFormed source ↔ ∃ parts, Reads source parts ∧ closeBrace ∉ literalText parts := by
  constructor
  · rintro ⟨pieces, rfl, well⟩
    induction pieces with
    | nil => exact ⟨[], .nothing, List.not_mem_nil⟩
    | cons piece pieces ih =>
      -- Literal pieces that follow each other are read as one, so the parts are joined.
      obtain ⟨here, later⟩ := List.forall_mem_cons.mp well
      obtain ⟨parts, reads, unclosed⟩ := here.reads
      obtain ⟨others, behind, unclosed'⟩ := ih later
      refine ⟨joinParts parts others, reads.append behind, ?_⟩
      rw [literalText_joinParts]
      exact List.not_mem_append unclosed unclosed'
  · rintro ⟨parts, reads, clean⟩
    induction reads with
    | @text source unopened unclosed =>
      refine ⟨[source], by simp, ?_⟩
      exact List.forall_mem_singleton.mpr (.literal unopened unclosed)
    | @token literals body spec rest which parts unopened unclosed parted behind ih =>
      rw [literalText_token, List.mem_append, not_or] at clean
      obtain ⟨pieces, rfl, well⟩ := ih clean.2
      refine ⟨literals :: (openBrace :: (body ++ [closeBrace])) :: pieces, ?_, ?_⟩
      · simp [withToken]
      · rw [List.forall_mem_cons, List.forall_mem_cons]
        exact ⟨.literal unopened clean.1, isPiece_of_body unclosed parted, well⟩

/-- Which texts are templates.  A text is read as one just if it consists of literals and tokens
with known names and no brace is left behind the last token, and every other text is refused for the
first fault in it.  The well-formed texts are those among the readable ones that have no closing
brace in a literal, which only literals in front of a token can have. -/
theorem readTemplate_exact (source : String) :
    (∀ template, readTemplate source = .ok template ↔
      template.source = source ∧ Reads source.toList template.parts) ∧
    (∀ error, readTemplate source = .error error ↔
      ∃ fault, FailsWith source.toList fault ∧ error = .invalidTemplate source fault.message) ∧
    (WellFormed source.toList ↔
      ∃ template, readTemplate source = .ok template ∧
        closeBrace ∉ literalText template.parts) := by
  refine ⟨fun template => ?_, fun error => ?_, ?_⟩
  · rw [readTemplate_eq_ok_iff, parse_eq_ok_iff]
  · simp only [readTemplate_eq_error_iff, parse_eq_error_iff]
  · simp only [wellFormed_iff, readTemplate_eq_ok_iff, parse_eq_ok_iff]
    constructor
    · rintro ⟨parts, reads, clean⟩
      exact ⟨⟨source, parts⟩, ⟨rfl, reads⟩, clean⟩
    · rintro ⟨template, ⟨-, reads⟩, clean⟩
      exact ⟨template.parts, reads, clean⟩

/-- A closing brace in front of a token is no part of a well-formed template, and it is read. -/
theorem brace_in_front_read :
    readTemplate "\x7d\x7bclass\x7d" =
      .ok ⟨"\x7d\x7bclass\x7d", [.literal "\x7d", .token .owner ""]⟩ ∧
    ¬ WellFormed "\x7d\x7bclass\x7d".toList := by
  have reads : Reads (withToken [closeBrace] Token.owner.name.toList [])
      [.literal "\x7d", .token .owner ""] :=
    .token (by decide) Token.owner.name_plain.2 (.plain Token.owner.name_plain.1) .nothing
  refine ⟨readTemplate_eq_ok_iff.mpr (parse_eq_ok_iff.mpr ⟨rfl, reads⟩), ?_⟩
  rw [wellFormed_iff]
  rintro ⟨parts, others, clean⟩
  have same := reads.readParts_eq.symm.trans others.readParts_eq
  cases same
  exact clean (by decide)

end NativeBridge.Naming
