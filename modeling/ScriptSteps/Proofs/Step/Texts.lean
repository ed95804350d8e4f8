import Mathlib
import ScriptSteps.Proofs.Grammar.Blames
import ScriptSteps.Proofs.Grammar.WellShaped
import ScriptSteps.Proofs.Step.Walk
import ScriptSteps.Proofs.Tree.Tidy

/-!
# Texts of steps and of messages

The texts of a step are those that its kind asks for, and whatever the strings of a script hold, all
that is shown of it keeps to its line. A step takes its texts from the construct it belongs to, a
construct is well-shaped as all of a parsed program is, and well-shaped trees are written so.

## Main definitions

* `Step.FollowsKind`: a step has the texts of its kind
* `Step.Proper`: a step has these, each on one line and without a blank at its end

## Main statements

* `proper_of_flatten`: the steps of a well-shaped program are proper
* `analyze_inline`: neither steps nor messages hold a character that leaves its line
* `analyze_followsKind`: every step of a text has the texts of its kind
-/

namespace ScriptSteps

open Text

/-! ## Well-shaped constructs -/

/-- The well-shaped constructs over a vocabulary. -/
def Construct.Fits (v : Vocabulary) : Construct → Prop
  | statement s => s.Fits v
  | elseIf chain => chain.Fits v
  | else_ body => body.Fits v

section Constructs

variable {v : Vocabulary}

mutual

theorem Statement.fits_of_mem_constructs :
    (s : Statement) → s.Fits v → ∀ k ∈ s.constructs, k.Fits v
  | .function id params body line, h => by
    rw [Statement.constructs, List.forall_mem_cons]
    exact ⟨h, fits_of_mem_statementConstructs body h.2.2.1⟩
  | .while_ test body line, h => by
    rw [Statement.constructs, List.forall_mem_cons]
    exact ⟨h, body.fits_of_mem_constructs h.2.1⟩
  | .for_ init test update body line, h => by
    rw [Statement.constructs, List.forall_mem_cons]
    exact ⟨h, body.fits_of_mem_constructs h.2.2.2.1⟩
  | .if_ chain, h => by
    rw [Statement.constructs, List.forall_mem_cons]
    exact ⟨h, chain.fits_of_mem_constructs h⟩
  | .declaration _, h | .expression _ _, h | .block _, h | .switch _ _ _, h | .doWhile _ _ _, h
  | .return_ _ _, h | .break_ _ _, h | .continue_ _ _, h | .throw _ _, h | .try_ _ _ _ _, h
  | .empty _, h => List.forall_mem_singleton.2 h

/-- What a walk over well-shaped statements meets is well-shaped. -/
theorem fits_of_mem_statementConstructs : (ss : List Statement) → statementsFit v ss →
    ∀ k ∈ statementConstructs ss, k.Fits v
  | [], _ => by simp [statementConstructs]
  | first :: rest, h => by
    rw [statementConstructs, List.forall_mem_append]
    exact ⟨first.fits_of_mem_constructs h.1, fits_of_mem_statementConstructs rest h.2⟩

theorem Body.fits_of_mem_constructs : (body : Body) → body.Fits v → ∀ k ∈ body.constructs, k.Fits v
  | .block (.mk body _), h => fits_of_mem_statementConstructs body h.1
  | .single s, h => s.fits_of_mem_constructs h.2

theorem IfStatement.fits_of_mem_constructs :
    (chain : IfStatement) → chain.Fits v → ∀ k ∈ chain.constructs, k.Fits v
  | .mk _ consequent alternate _, h => by
    rw [IfStatement.constructs, List.forall_mem_append]
    exact ⟨consequent.fits_of_mem_constructs h.2.1,
      fits_of_mem_alternateConstructs alternate h.2.2.1⟩

theorem fits_of_mem_alternateConstructs : (alternate : Option Alternate) →
    alternateFits v alternate → ∀ k ∈ alternateConstructs alternate, k.Fits v
  | none, _ => by simp [alternateConstructs]
  | some (.elseIf next), h => by
    rw [alternateConstructs, List.forall_mem_cons]
    exact ⟨h, next.fits_of_mem_constructs h⟩
  | some (.else_ body), h => by
    rw [alternateConstructs, List.forall_mem_cons]
    exact ⟨h.2, body.fits_of_mem_constructs h.2⟩

end

end Constructs

/-! ## Texts by kind -/

/-- A step has the texts of its kind: those that go with it, and no others. -/
def Step.FollowsKind (s : Step) : Prop :=
  match s.kind with
  | .functionDeclaration => s.name ≠ "" ∧ s.condition = "" ∧ s.value = ""
  | .variableDeclaration => s.name ≠ "" ∧ s.condition = ""
  | .updateExpression =>
    s.name ≠ "" ∧ s.condition = "" ∧ s.value ≠ ""
      ∧ (s.value = s.name ++ " + 1" ∨ s.value = s.name ++ " - 1")
  | .assignmentExpression => s.name ≠ "" ∧ s.condition = "" ∧ s.value ≠ ""
  | .whileStatement | .ifStatement | .elseIfStatement =>
    s.name = "" ∧ s.condition ≠ "" ∧ s.value = ""
  | .elseStatement => s.name = "" ∧ s.condition = "" ∧ s.value = ""
  | .returnStatement => s.name = "" ∧ s.condition = ""
  | .forStatement => s.name = "" ∧ s.value = "" ∧ 2 ≤ s.condition.toList.count ';'

/-- The texts of a step. -/
def Step.texts (s : Step) : List String := [s.name, s.condition, s.value]

/-- A step has the texts of its kind, and each that is not empty keeps to its line and does not end
in a blank. -/
structure Step.Proper (s : Step) : Prop where
  kind : s.FollowsKind
  texts : ∀ text ∈ s.texts, text = "" ∨ Tidy text

theorem Text.inline_of_empty_or_tidy {s : String} (h : s = "" ∨ Tidy s) : Inline s := by
  rcases h with rfl | h
  · decide
  · exact h.inline

namespace Step

theorem proper_ofFunction {id : Identifier} (hname : Tidy id.name) (line : ℕ) :
    (ofFunction id line).Proper :=
  ⟨⟨hname.ne_empty, rfl, rfl⟩, by simp [texts, ofFunction, hname]⟩

theorem proper_ofParameter {id : Identifier} (hname : Tidy id.name) : (ofParameter id).Proper :=
  ⟨⟨hname.ne_empty, rfl⟩, by simp [texts, ofParameter, hname]⟩

/-- A step with a condition and nothing else. -/
theorem proper_ofTest {r : Renderer} {kind : StepKind} {test : Expression}
    (hkind : kind ∈ [.whileStatement, .ifStatement, .elseIfStatement])
    (htest : Tidy (r.expression test)) (line : ℕ) : (ofTest r kind test line).Proper := by
  refine ⟨?_, by simp [texts, ofTest, htest]⟩
  simp only [List.mem_cons, List.not_mem_nil, or_false] at hkind
  rcases hkind with rfl | rfl | rfl <;> exact ⟨rfl, htest.ne_empty, rfl⟩

theorem proper_ofElse (body : Body) : (ofElse body).Proper :=
  ⟨⟨rfl, rfl, rfl⟩, by simp [texts, ofElse]⟩

theorem proper_ofUpdate {r : Renderer} {argument : Expression}
    (htarget : Tidy (r.expression argument)) (operator : UpdateOperator) (line : ℕ) :
    (ofUpdate r operator argument line).Proper := by
  have hone : ∀ {change : String}, Tidy change → Tidy (r.expression argument ++ change) :=
    fun hchange => hchange.after htarget.inline
  cases operator with
  | increment =>
    have hvalue : Tidy (r.expression argument ++ " + 1") := hone ⟨by decide, '1', rfl, by decide⟩
    exact ⟨⟨htarget.ne_empty, rfl, hvalue.ne_empty, .inl rfl⟩,
      by simp [texts, ofUpdate, htarget, hvalue]⟩
  | decrement =>
    have hvalue : Tidy (r.expression argument ++ " - 1") := hone ⟨by decide, '1', rfl, by decide⟩
    exact ⟨⟨htarget.ne_empty, rfl, hvalue.ne_empty, .inr rfl⟩,
      by simp [texts, ofUpdate, htarget, hvalue]⟩

theorem tidy_of_assignedValue? {operator : AssignmentOperator} {target value stored : String}
    (htarget : Tidy target) (hvalue : Tidy value)
    (h : assignedValue? operator target value = some stored) : Tidy stored := by
  unfold assignedValue? at h
  split at h
  · exact Option.some.inj h ▸ hvalue
  · exact Option.some.inj h ▸ hvalue.after (inline_append.2 ⟨htarget.inline, by decide⟩)
  · exact Option.some.inj h ▸ hvalue.after (inline_append.2 ⟨htarget.inline, by decide⟩)
  · cases h

theorem proper_assignment {target value : String} (htarget : Tidy target) (hvalue : Tidy value)
    (line : ℕ) : (⟨line, .assignmentExpression, target, "", value⟩ : Step).Proper :=
  ⟨⟨htarget.ne_empty, rfl, hvalue.ne_empty⟩, by simp [texts, htarget, hvalue]⟩

section Trees

variable {v : Vocabulary} (hv : v.NamesTidy)

include hv

/-- A text that may be left out. -/
theorem tidy_option {part : Option Expression} (h : ∀ e ∈ part, e.Fits v) :
    (part.map Expression.render).getD "" = ""
      ∨ Tidy ((part.map Expression.render).getD "") := by
  cases part with
  | none => exact .inl rfl
  | some e => exact .inr (e.tidy_render hv (h e rfl))

theorem proper_ofDeclarator {d : VariableDeclarator} (h : d.Fits v) :
    (ofDeclarator .canonical d).Proper := by
  have hname := hv d.id.name h.1.1
  have hvalue := tidy_option hv h.2
  refine ⟨⟨hname.ne_empty, rfl⟩, ?_⟩
  simpa [texts, ofDeclarator, hname, Renderer.canonical] using hvalue

theorem proper_ofReturn {argument : Option Expression} (h : ∀ e ∈ argument, e.Fits v) (line : ℕ) :
    (ofReturn .canonical argument line).Proper := by
  refine ⟨⟨rfl, rfl⟩, ?_⟩
  simpa [texts, ofReturn, Renderer.canonical] using tidy_option hv h

theorem inline_forInitText {init : Option ForInit} (h : ∀ start ∈ init, start.Fits v) :
    Inline (forInitText .canonical init) := by
  rcases init with _ | declared | e
  · decide
  · exact (VariableDeclaration.tidy_render hv (h _ rfl)).inline
  · exact (e.tidy_render hv (h _ rfl)).inline

/-- The clauses of a `for` loop are set apart by semicolons; a clause that is left out at the end
leaves a semicolon there. -/
theorem proper_ofFor {init : Option ForInit} {test update : Option Expression}
    (hinit : ∀ start ∈ init, start.Fits v) (htest : ∀ e ∈ test, e.Fits v)
    (hupdate : ∀ e ∈ update, e.Fits v) (line : ℕ) :
    (ofFor .canonical init test update line).Proper := by
  have hinner := inline_of_empty_or_tidy (tidy_option hv htest)
  have hclosed : Tidy (forInitText .canonical init ++ ";"
      ++ (test.map Expression.render).getD "" ++ ";") := by
    have hsemicolon : Tidy ";" := ⟨by decide, ';', rfl, by decide⟩
    refine hsemicolon.after ?_
    simp only [inline_append]
    exact ⟨⟨inline_forInitText hv hinit, by decide⟩, hinner⟩
  have hcondition : Tidy (forInitText .canonical init ++ ";"
      ++ (test.map Expression.render).getD "" ++ ";"
      ++ (update.map Expression.render).getD "") := by
    rcases tidy_option hv hupdate with hempty | htidy
    · simpa [hempty] using hclosed
    · exact htidy.after hclosed.inline
  refine ⟨⟨rfl, rfl, ?_⟩, by simpa [texts, ofFor, Renderer.canonical] using hcondition⟩
  simp only [ofFor, String.toList_append, List.count_append, show ";".toList = [';'] from rfl,
    List.count_singleton_self]
  omega

end Trees

end Step

/-! ## Steps of a program -/

section Program

variable {v : Vocabulary} (hv : v.NamesTidy)

include hv

theorem IfStatement.proper_step {kind : StepKind} (hkind : kind ∈ [.ifStatement, .elseIfStatement])
    {chain : IfStatement} (h : chain.Fits v) : (chain.step .canonical kind).Proper := by
  obtain ⟨test, consequent, alternate, line⟩ := chain
  exact Step.proper_ofTest (List.mem_cons_of_mem _ hkind) (test.tidy_render hv h.1) line

/-- The steps of a well-shaped construct are proper. -/
theorem Construct.proper_steps {construct : Construct} (h : construct.Fits v) :
    ∀ step ∈ construct.steps .canonical, step.Proper := by
  unfold steps
  split
  case h_1 id params body line =>
    rw [List.forall_mem_cons, List.forall_mem_map]
    exact ⟨Step.proper_ofFunction (hv id.name h.1.1) line,
      fun param hparam => Step.proper_ofParameter (hv param.name (h.2.1 param hparam).1)⟩
  case h_2 declared =>
    rw [List.forall_mem_map]
    exact fun d hd => Step.proper_ofDeclarator hv (h.2.1 d hd)
  case h_3 operator argument isPrefix line outer =>
    rw [List.forall_mem_singleton]
    exact Step.proper_ofUpdate (argument.tidy_render hv h.1.2.1) operator line
  case h_4 operator left right line outer =>
    obtain ⟨⟨-, hleft, hright, -⟩, -⟩ := h
    have htarget := left.tidy_render hv hleft
    rw [List.forall_mem_map]
    intro value hvalue
    exact Step.proper_assignment htarget (Step.tidy_of_assignedValue? htarget
      (right.tidy_render hv hright) (Option.mem_toList.1 hvalue)) line
  case h_5 argument line =>
    rw [List.forall_mem_singleton]
    exact Step.proper_ofReturn hv h.1 line
  case h_6 test body line =>
    rw [List.forall_mem_singleton]
    exact Step.proper_ofTest (List.mem_cons_self ..) (test.tidy_render hv h.1) line
  case h_7 init test update body line =>
    rw [List.forall_mem_singleton]
    exact Step.proper_ofFor hv h.1 h.2.1 h.2.2.1 line
  case h_8 chain =>
    rw [List.forall_mem_singleton]
    exact chain.proper_step hv (by simp) h
  case h_9 => simp
  case h_10 chain =>
    rw [List.forall_mem_singleton]
    exact chain.proper_step hv (by simp) h
  case h_11 body =>
    rw [List.forall_mem_singleton]
    exact Step.proper_ofElse body

/-- The steps of a well-shaped program are proper. -/
theorem proper_of_flatten {program : List Statement} (h : statementsFit v program) {m : Model}
    (hm : flatten .canonical program = .ok m) : ∀ step ∈ m, step.Proper := by
  rw [flatten_eq_gather] at hm
  split at hm
  · cases hm
  · obtain rfl := Except.ok.inj hm
    intro step hstep
    obtain ⟨construct, hmem, hsteps⟩ := List.mem_flatMap.1 hstep
    have hconstruct := fits_of_mem_statementConstructs program h construct hmem
    exact construct.proper_steps hv hconstruct step hsteps

end Program

/-! ## Messages -/

theorem Keyword.inline_text (word : Keyword) : Inline word.text := by
  cases word <;> decide

theorem Punctuator.inline_text (sign : Punctuator) : Inline sign.text := by
  cases sign <;> decide

section Messages

variable {v : Vocabulary} (hv : v.NamesTidy)

include hv

/-- A token is named in a message by its text, a string among quotes. -/
theorem TokenKind.inline_describe {kind : TokenKind} (h : v.AdmitsKind kind) :
    Inline kind.describe := by
  cases kind with
  | number x =>
    have hnumber : Tidy (messageNumbers.write x) :=
      NumberLayout.tidy_write (tidy_of_isName (by decide)) (tidy_of_isName (by decide)) x
    exact inline_append.2 ⟨by decide, hnumber.inline⟩
  | string s => exact inline_append.2 ⟨by decide, inline_quoted s⟩
  | identifier name =>
    unfold describe
    simp only [inline_append]
    exact ⟨⟨by decide, (hv name h).inline⟩, by decide⟩
  | keyword word =>
    unfold describe
    simp only [inline_append]
    exact ⟨⟨by decide, word.inline_text⟩, by decide⟩
  | punctuator sign =>
    unfold describe
    simp only [inline_append]
    exact ⟨⟨by decide, sign.inline_text⟩, by decide⟩
  | endOfInput => decide
  | invalid => decide

theorem Problem.inline_message {problem : Problem} (h : problem.Fits v) :
    Inline problem.message := by
  cases problem with
  | unexpected found =>
    unfold message
    simp only [inline_append]
    exact ⟨by decide, found.inline_describe hv h⟩
  | expected wanted found =>
    unfold message
    simp only [inline_append]
    exact ⟨⟨⟨by decide, wanted.inline_describe hv h.1⟩, by decide⟩, found.inline_describe hv h.2⟩
  | expectedIdentifier found =>
    unfold message
    simp only [inline_append]
    exact ⟨by decide, found.inline_describe hv h⟩
  | _ => decide

end Messages

theorem inline_unsupported {construct : String} (h : Inline construct) (line : ℕ) :
    Inline (Error.unsupported construct line).message := by
  unfold Error.message
  simp only [inline_append]
  exact ⟨⟨⟨⟨by decide, h⟩, by decide⟩, (tidy_toString line).inline⟩, by decide⟩

/-- What is said of a parse that failed at tokens over a vocabulary. -/
theorem Error.inline_message {v : Vocabulary} (hv : v.NamesTidy) {e : Error} (h : e.Fits v) :
    Inline e.message := by
  cases e with
  | malformed problem line =>
    unfold message
    simp only [inline_append]
    exact ⟨⟨⟨⟨by decide, problem.inline_message hv h⟩, by decide⟩,
      (tidy_toString line).inline⟩, by decide⟩
  | unsupported construct line =>
    have hall : (Grammar.withoutRule.all fun construct => Inline construct) = true := by
      decide
    simp only [List.all_eq_true, decide_eq_true_eq] at hall
    exact inline_unsupported (hall construct h) line
  | unreadable path reason => cases h

theorem Expression.inline_typeName (e : Expression) : Inline e.typeName := by
  cases e with
  | binary operator left right =>
    simp only [typeName]
    split <;> decide
  | _ =>
    simp only [typeName]
    decide

/-- What is said of a statement without steps. -/
theorem Statement.Unsupported.inline {s : Statement} {construct : String} {line : ℕ}
    (h : s.Unsupported construct line) : Inline construct := by
  cases h with
  | expression e => exact e.inline_typeName
  | assignment operator => exact operator.inline_text
  | _ => decide

theorem inline_message_of_flatten {r : Renderer} {program : List Statement} {e : Error}
    (h : flatten r program = .error e) : Inline e.message := by
  rw [flatten_eq_gather] at h
  split at h
  · next hfound =>
    obtain rfl := Except.error.inj h
    obtain ⟨s, -, hobstacle⟩ := List.exists_of_findSome?_eq_some hfound
    obtain ⟨construct, line, hunsupported, rfl⟩ := Statement.obstacle?_eq_some_iff.1 hobstacle
    exact inline_unsupported hunsupported.inline line
  · cases h

/-! ## Texts of an analysis -/

theorem Vocabulary.namesTidy_scanned (source : String) : (Vocabulary.scanned source).NamesTidy :=
  fun _ => tidy_of_isName

/-- An analysis is a parse and, if that succeeds, the walk over the program. -/
theorem analyze_cases (source : String) :
    (∃ cause, parseProgram source = .error cause ∧ analyze source = .error cause)
      ∨ ∃ program, parseProgram source = .ok program
        ∧ analyze source = flatten .canonical program := by
  unfold analyze
  cases parseProgram source with
  | error cause => exact .inl ⟨cause, rfl, rfl⟩
  | ok program => exact .inr ⟨program, rfl, rfl⟩

/-- The steps of a text are proper. -/
theorem proper_of_analyze {source : String} {m : Model} (h : analyze source = .ok m) :
    ∀ step ∈ m, step.Proper := by
  obtain ⟨cause, -, hanalyze⟩ | ⟨program, hparse, hanalyze⟩ := analyze_cases source
  · rw [hanalyze] at h
    cases h
  · obtain ⟨rest, hread⟩ := (Grammar.program_from _).of_ok hparse
    exact proper_of_flatten (Vocabulary.namesTidy_scanned source)
      (hread.fits.admitted fun _ ht => ht) (hanalyze.symm.trans h)

/-- What is said of a text without steps keeps to its line. -/
theorem inline_message_of_analyze {source : String} {e : Error} (h : analyze source = .error e) :
    Inline e.message := by
  obtain ⟨cause, hparse, hanalyze⟩ | ⟨program, -, hanalyze⟩ := analyze_cases source
  · obtain rfl : cause = e := Except.error.inj (hanalyze.symm.trans h)
    have hover : (Cursor.ofSource source).Over (.scanned source) := fun t ht =>
      (Cursor.admits_ofSource source t ht).2
    exact cause.inline_message (Vocabulary.namesTidy_scanned source)
      ((Grammar.program_blames hover).of_error hparse)
  · exact inline_message_of_flatten (hanalyze.symm.trans h)

/-- Nothing that is shown of a text holds a control character: neither the texts of its steps, which
do not hold a separator of lines or paragraphs either, nor the message of its error. -/
theorem analyze_inline (source : String) :
    (∀ m, analyze source = .ok m → ∀ step ∈ m, ∀ text ∈ step.texts, ∀ c ∈ text.toList,
      isControl c = false ∧ c ≠ '\u2028' ∧ c ≠ '\u2029')
    ∧ ∀ e, analyze source = .error e → ∀ c ∈ e.message.toList, isControl c = false := by
  constructor
  · intro m hm step hstep text htext c hc
    have htidy := (proper_of_analyze hm step hstep).texts text htext
    exact isInline_iff.1 (inline_of_empty_or_tidy htidy c hc)
  · intro e he c hc
    exact (isInline_iff.1 (inline_message_of_analyze he c hc)).1

/-- An escape character and a line separator in a string that is assigned, and an escape character
in a string that is not expected. -/
theorem analyze_inline_escapes :
    let m : Model := [⟨1, .assignmentExpression, "x", "", "'\\x1B\\u2028'"⟩]
    let e : Error := .malformed (.unexpected (.string "\x1b")) 1
    (analyze "x='\x1b\u2028'" = .ok m ∧ ∀ step ∈ m, ∀ text ∈ step.texts, ∀ c ∈ text.toList,
        isControl c = false ∧ c ≠ '\u2028' ∧ c ≠ '\u2029')
      ∧ analyze "x'\x1b'" = .error e ∧ ∀ c ∈ e.message.toList, isControl c = false := by
  intro m e
  have hsteps : analyze "x='\x1b\u2028'" = .ok m := by decide +kernel
  have herror : analyze "x'\x1b'" = .error e := by decide +kernel
  exact ⟨⟨hsteps, (analyze_inline _).1 m hsteps⟩, herror, (analyze_inline _).2 e herror⟩

/-- Every step of a text has the texts of its kind. -/
theorem analyze_followsKind (source : String) :
    ∀ m, analyze source = .ok m → ∀ step ∈ m, step.FollowsKind :=
  fun _ hm step hstep => (proper_of_analyze hm step hstep).kind

/-- A loop without its first and last clause, and an update in it. -/
theorem analyze_followsKind_for :
    let m : Model := [⟨1, .forStatement, "", ";x;", ""⟩, ⟨1, .updateExpression, "x", "", "x - 1"⟩]
    analyze "for(;x;)x--" = .ok m ∧ ∀ step ∈ m, step.FollowsKind := by
  intro m
  have hsteps : analyze "for(;x;)x--" = .ok m := by decide +kernel
  exact ⟨hsteps, analyze_followsKind _ m hsteps⟩

end ScriptSteps
