import Mathlib
import ScriptSteps.Grammar
import ScriptSteps.Proofs.Grammar.Brackets
import ScriptSteps.Proofs.Grammar.StatementShape

/-!
# Loops of the grammar

Lists of the grammar are read by loops: a turn reads one item and goes on, or it ends the loop, or
it fails. Each turn after which a loop goes on has read a token, so a loop never goes on at the end
of a text, and it has ended after one turn more than there are tokens. What it gives then is what
the rule gives that reads the whole list.

## Main definitions

* `Cursor.Advances`: at least one token lies between two cursors
* `Turn`, `runLoop`: a turn of a loop, and a loop that is given a number of turns
* `Computes`: a loop that always reads on, ends, and gives what a rule does
* `Grammar.statementsTurn` and the others: one turn of each loop

## Main statements

* `computes_of_unrolls`: a loop that reads on, and whose rule starts with one turn of it
* `parseProgram_terminates`: rules and loops read on, and the loop over a whole text ends
-/

namespace ScriptSteps

/-! ## Reading on -/

/-- Cursors of which the second comes after the first and at least one token. -/
def Cursor.Advances (c d : Cursor) : Prop := ∃ used, used ≠ [] ∧ c.Passes used d

namespace Cursor

variable {c d e : Cursor} {p : Vocabulary → Prop}

theorem Advances.size_lt (h : c.Advances d) : d.size < c.size := by
  obtain ⟨used, hused, hpasses⟩ := h
  have := List.length_pos_iff.2 hused
  simp only [size, hpasses.terminals, List.length_append]
  omega

theorem Spans.advances (h : c.Spans d p) (hlt : d.size < c.size) : c.Advances d := by
  obtain ⟨used, hpasses, -⟩ := h
  refine ⟨used, ?_, hpasses⟩
  rintro rfl
  simp [size, hpasses.terminals] at hlt

theorem Advances.trans_spans (h : c.Advances d) (h' : d.Spans e p) : c.Advances e := by
  obtain ⟨used, hused, hpasses⟩ := h
  obtain ⟨more, hmore, -⟩ := h'
  exact ⟨used ++ more, by simp [hused], hpasses.trans hmore⟩

theorem advances_of_eatKind? {k : TokenKind} {h : d.size < c.size}
    (heat : c.eatKind? k = some ⟨d, h⟩) : c.Advances d :=
  (spans_of_eatKind? heat).advances h

theorem advances_of_next? {k : TokenKind} {h : d.size < c.size}
    (hnext : c.next? = some (k, ⟨d, h⟩)) : c.Advances d :=
  (spans_of_next? hnext).advances h

theorem advances_of_take? {α : Type} {meaning : TokenKind → Option α} {value : α}
    {h : d.size < c.size} (htake : c.take? meaning = some (value, ⟨d, h⟩)) : c.Advances d := by
  obtain ⟨k, -, hspans⟩ := spans_of_take? htake
  exact hspans.advances h

end Cursor

/-! ## Turns -/

/-- What one turn of a loop gives: the state and the cursor to go on with, the value of the loop and
the cursor after it, or an error. -/
inductive Turn (σ α : Type) where
  | again (state : σ) (rest : Cursor)
  | ends (value : α) (rest : Cursor)
  | fails (cause : Error)

section Loop

variable {σ α : Type}

/-- What a loop gives that starts in a state at a cursor: none if it still goes on after the given
number of turns. -/
def runLoop (turn : σ → Cursor → Turn σ α) : ℕ → σ → Cursor → Option (Except Error (α × Cursor))
  | 0, _, _ => none
  | n + 1, s, c =>
    match turn s c with
    | .again state rest => runLoop turn n state rest
    | .ends value rest => some (.ok (value, rest))
    | .fails cause => some (.error cause)

/-- What a loop gives after a turn, if a rule says what it gives when it goes on. -/
def Turn.finish (rule : σ → Cursor → Except Error (α × Cursor)) :
    Turn σ α → Except Error (α × Cursor)
  | again state rest => rule state rest
  | ends value rest => .ok (value, rest)
  | fails cause => .error cause

/-- If the loop goes on, a token has been read. -/
def Turn.ReadsOn (c : Cursor) : Turn σ α → Prop
  | again _ rest => c.Advances rest
  | ends _ _ | fails _ => True

/-- A loop that always reads on, ends, and gives what a rule does. -/
structure Computes (turn : σ → Cursor → Turn σ α)
    (rule : σ → Cursor → Except Error (α × Cursor)) : Prop where
  /-- A turn after which the loop goes on leaves fewer tokens. -/
  advances : ∀ s c state rest, turn s c = .again state rest →
    c.Advances rest ∧ rest.size < c.size
  /-- The loop does not go on at the end of a text. -/
  stops : ∀ s c state rest, c.terminals = [] → turn s c ≠ .again state rest
  /-- After one turn more than there are tokens, the loop has given what the rule does. -/
  run : ∀ s c, runLoop turn (c.size + 1) s c = some (rule s c)

theorem runLoop_eq_some {turn : σ → Cursor → Turn σ α}
    {rule : σ → Cursor → Except Error (α × Cursor)} (hreads : ∀ s c, (turn s c).ReadsOn c)
    (hunrolls : ∀ s c, rule s c = (turn s c).finish rule) {n : ℕ} (s : σ) (c : Cursor)
    (hn : c.size < n) : runLoop turn n s c = some (rule s c) := by
  -- The turns that are left outnumber the tokens that are left.
  induction n generalizing s c with
  | zero => omega
  | succ n ih =>
    have hturn := hreads s c
    rw [hunrolls, runLoop]
    cases h : turn s c with
    | again state rest =>
      rw [h] at hturn
      have hshorter : rest.size < c.size := Cursor.Advances.size_lt hturn
      exact ih state rest (by omega)
    | ends value rest => rfl
    | fails cause => rfl

/-- A loop that reads on computes the rule that starts with one turn of it. -/
theorem computes_of_unrolls {turn : σ → Cursor → Turn σ α}
    {rule : σ → Cursor → Except Error (α × Cursor)} (hreads : ∀ s c, (turn s c).ReadsOn c)
    (hunrolls : ∀ s c, rule s c = (turn s c).finish rule) : Computes turn rule := by
  have hadvances : ∀ s c state rest, turn s c = .again state rest → c.Advances rest := by
    intro s c state rest hturn
    simpa [hturn, Turn.ReadsOn] using hreads s c
  refine ⟨?_, ?_, fun s c => runLoop_eq_some hreads hunrolls s c (Nat.lt_succ_self _)⟩
  · intro s c state rest hturn
    exact ⟨hadvances s c state rest hturn, (hadvances s c state rest hturn).size_lt⟩
  · intro s c state rest hend hturn
    have hlt := (hadvances s c state rest hturn).size_lt
    simp [Cursor.size, hend] at hlt

end Loop

namespace Parsed

variable {α β γ σ : Type} {m n : ℕ} {c d : Cursor} {q : α → Cursor → Prop}

/-- The value and the cursor after it, or the error. -/
def outcome : Parsed α n → Except Error (α × Cursor)
  | ok value rest _ => .ok (value, rest)
  | error cause _ => .error cause

/-- Goes on with a turn, or fails it. -/
def turn : Parsed α n → (α → Cursor → Turn σ β) → Turn σ β
  | ok value rest _, next => next value rest
  | error cause _, _ => .fails cause

@[simp] theorem outcome_ok (value : α) (rest : Cursor) (fewer : rest.size < n) :
    (ok value rest fewer).outcome = .ok (value, rest) := rfl

@[simp] theorem outcome_done (value : α) (rest : Cursor) :
    (done value rest).outcome = .ok (value, rest) := rfl

@[simp] theorem outcome_widen (p : Parsed α m) (h : m ≤ n) : (p.widen h).outcome = p.outcome := by
  cases p <;> rfl

@[simp] theorem map_ok (value : α) (rest : Cursor) (fewer : rest.size < n) (f : α → β) :
    (ok value rest fewer).map f = ok (f value) rest fewer := rfl

@[simp] theorem map_done (value : α) (rest : Cursor) (f : α → β) :
    (done value rest).map f = done (f value) rest := rfl

@[simp] theorem map_widen (p : Parsed α m) (h : m ≤ n) (f : α → β) :
    (p.widen h).map f = (p.map f).widen h := by
  cases p <;> rfl

@[simp] theorem map_map (p : Parsed α n) (f : α → β) (g : β → γ) :
    (p.map f).map g = p.map fun value => g (f value) := by
  cases p <;> rfl

@[simp] theorem map_bind (p : Parsed α n)
    (f : α → (rest : Cursor) → rest.size < n → Parsed β rest.size) (g : β → γ) :
    (p.bind f).map g = p.bind fun value rest fewer => (f value rest fewer).map g := by
  cases p with
  | ok value rest fewer => exact map_widen _ (Nat.le_of_lt fewer) g
  | error cause stop => rfl

@[simp] theorem map_bindLoose (p : Parsed α n)
    (f : α → (rest : Cursor) → rest.size < n → Parsed β (rest.size + 1)) (g : β → γ) :
    (p.bindLoose f).map g = p.bindLoose fun value rest fewer => (f value rest fewer).map g := by
  cases p with
  | ok value rest fewer => exact map_widen _ fewer g
  | error cause stop => rfl

section Finish

variable {p : Parsed α n} {next : α → Cursor → Turn σ γ}
  {rule : σ → Cursor → Except Error (γ × Cursor)}

theorem outcome_bind {f : α → (rest : Cursor) → rest.size < n → Parsed γ rest.size}
    (h : ∀ value rest fewer, (f value rest fewer).outcome = (next value rest).finish rule) :
    (p.bind f).outcome = (p.turn next).finish rule := by
  cases p with
  | ok value rest fewer => exact (outcome_widen _ (Nat.le_of_lt fewer)).trans (h value rest fewer)
  | error cause stop => rfl

theorem outcome_bindLoose {f : α → (rest : Cursor) → rest.size < n → Parsed γ (rest.size + 1)}
    (h : ∀ value rest fewer, (f value rest fewer).outcome = (next value rest).finish rule) :
    (p.bindLoose f).outcome = (p.turn next).finish rule := by
  cases p with
  | ok value rest fewer => exact (outcome_widen _ fewer).trans (h value rest fewer)
  | error cause stop => rfl

theorem outcome_map {f : α → γ}
    (h : ∀ value rest, (next value rest).finish rule = .ok (f value, rest)) :
    (p.map f).outcome = (p.turn next).finish rule := by
  cases p with
  | ok value rest fewer => exact (h value rest).symm
  | error cause stop => rfl

end Finish

/-- A turn that starts with a rule. -/
theorem From.readsOn {p : Parsed α c.size} (hp : p.From c q) {next : α → Cursor → Turn σ β}
    (hnext : ∀ value rest, c.Advances rest → (next value rest).ReadsOn c) :
    (p.turn next).ReadsOn c := by
  cases p with
  | ok value rest fewer => exact hnext value rest (hp.1.advances fewer)
  | error cause stop => trivial

/-- A turn that goes on with a rule after something has been read. -/
theorem From.readsOnAfter {p : Parsed α n} (hp : p.From d q) (h : c.Advances d)
    {next : α → Cursor → Turn σ β}
    (hnext : ∀ value rest, c.Advances rest → (next value rest).ReadsOn c) :
    (p.turn next).ReadsOn c := by
  cases p with
  | ok value rest fewer => exact hnext value rest (h.trans_spans hp.1)
  | error cause stop => trivial

end Parsed

/-! ## Loops over statements -/

namespace Grammar

open Cursor

/-- Statements up to a token that ends them. -/
def statementsTurn (stops : TokenKind → Prop) [DecidablePred stops] (found : List Statement)
    (c : Cursor) : Turn (List Statement) (List Statement) :=
  if stops c.kind then .ends found c
  else (statement c).turn fun next c₁ => .again (found ++ [next]) c₁

theorem statementsTurn_computes (stops : TokenKind → Prop) [DecidablePred stops]
    {rule : (c : Cursor) → Parsed (List Statement) (c.size + 1)}
    (hrule : ∀ c, rule c = if stops c.kind then .done [] c
      else .relax <| (statement c).bindLoose fun first c₁ _ => (rule c₁).map (first :: ·)) :
    Computes (statementsTurn stops) fun found c => ((rule c).map (found ++ ·)).outcome := by
  refine computes_of_unrolls (fun found c => ?_) fun found c => ?_
  · unfold statementsTurn
    split
    · trivial
    · exact (statement_from c).readsOn fun _ _ h => h
  · rw [hrule, statementsTurn]
    split
    · simp [Turn.finish]
    · simp only [Parsed.relax, Parsed.map_widen, Parsed.map_bindLoose, Parsed.outcome_widen]
      exact Parsed.outcome_bindLoose fun next c₁ _ => by simp [Turn.finish]

/-- The cases of a `switch`, up to the closing brace. -/
def casesTurn (found : List SwitchCase) (c : Cursor) : Turn (List SwitchCase) (List SwitchCase) :=
  match c.eat? .rightBrace with
  | some ⟨c₁, _⟩ => .ends found c₁
  | none =>
    (caseTest c).turn fun test c₁ =>
    (caseBody c₁).turn fun consequent c₂ => .again (found ++ [.mk test consequent]) c₂

theorem casesTurn_computes : Computes casesTurn
    fun found c => ((cases c).map (found ++ ·)).outcome := by
  refine computes_of_unrolls (fun found c => ?_) fun found c => ?_
  · unfold casesTurn
    split
    · trivial
    · refine (caseTest_from c).readsOn fun _ c₁ h₁ => ?_
      exact (caseBody_from c₁).readsOnAfter h₁ fun _ _ h₂ => h₂
  · rw [cases, casesTurn]
    cases c.eat? .rightBrace with
    | some later => simp [Turn.finish]
    | none =>
      simp only [Parsed.map_bindLoose, Parsed.map_bind]
      refine Parsed.outcome_bindLoose fun test c₁ _ => Parsed.outcome_bind fun consequent c₂ _ => ?_
      simp [Turn.finish]

/-- The tests of an `if` chain after the first one, and its final `else`. -/
def rungsTurn (found : List Rung) (c : Cursor) : Turn (List Rung) (List Rung × Option Body) :=
  match c.eatWord? .else_ with
  | none => .ends (found, none) c
  | some ⟨c₁, _⟩ =>
    match c₁.eatWord? .if_ with
    | some ⟨c₂, _⟩ => (rung c₁.line c₂).turn fun next c₃ => .again (found ++ [next]) c₃
    | none => (body c₁).turn fun last c₂ => .ends (found, some last) c₂

theorem rungsTurn_computes : Computes rungsTurn
    fun found c => ((rungs c).map fun (rest, last) => (found ++ rest, last)).outcome := by
  refine computes_of_unrolls (fun found c => ?_) fun found c => ?_
  · unfold rungsTurn
    split
    · trivial
    · next c₁ h₁ helse =>
      split
      · next c₂ h₂ hif =>
        have hread := (advances_of_eatKind? helse).trans_spans (spans_of_eatKind? hif)
        exact (rung_from _ c₂).readsOnAfter hread fun _ _ h => h
      · exact (body_from c₁).readsOnAfter (advances_of_eatKind? helse) fun _ _ _ => trivial
  · rw [rungs, rungsTurn]
    cases c.eatWord? .else_ with
    | none => simp [Turn.finish]
    | some later =>
      obtain ⟨c₁, h₁⟩ := later
      dsimp only
      cases c₁.eatWord? .if_ with
      | some later =>
        simp only [Parsed.relax, Parsed.resume, Parsed.map_widen, Parsed.map_bindLoose,
          Parsed.outcome_widen]
        exact Parsed.outcome_bindLoose fun next c₃ _ => by simp [Turn.finish]
      | none =>
        simp only [Parsed.relax, Parsed.resume, Parsed.map_widen, Parsed.map_map,
          Parsed.outcome_widen]
        exact Parsed.outcome_map fun last c₂ => by simp [Turn.finish]

/-- The variables of a declaration. -/
def declaratorsTurn (kind : VariableKind) (found : List VariableDeclarator) (c : Cursor) :
    Turn (List VariableDeclarator) (List VariableDeclarator) :=
  c.expectName.turn fun id c₁ =>
  (initializer kind c₁).turn fun init c₂ =>
  match c₂.eat? .comma with
  | some ⟨c₃, _⟩ => .again (found ++ [⟨id, init⟩]) c₃
  | none => .ends (found ++ [⟨id, init⟩]) c₂

theorem declaratorsTurn_computes (kind : VariableKind) : Computes (declaratorsTurn kind)
    fun found c => ((declarators kind c).map (found ++ ·)).outcome := by
  refine computes_of_unrolls (fun found c => ?_) fun found c => ?_
  · refine c.expectName_from.readsOn fun id c₁ h₁ => ?_
    refine (initializer_from kind c₁).readsOnAfter h₁ fun init c₂ h₂ => ?_
    split
    · next c₃ h₃ heat => exact h₂.trans_spans (spans_of_eatKind? heat)
    · trivial
  · rw [declarators, declaratorsTurn]
    simp only [Parsed.map_bindLoose]
    refine Parsed.outcome_bindLoose fun id c₁ _ => Parsed.outcome_bindLoose fun init c₂ _ => ?_
    cases c₂.eat? .comma with
    | some later => simp [Turn.finish, Parsed.relax, Parsed.resume]
    | none => simp [Turn.finish]

/-! ## Loops over expressions -/

/-- Items with commas between them, up to the closing parenthesis. -/
def listTurn {α : Type} (item : (c : Cursor) → Parsed α c.size) (found : List α) (c : Cursor) :
    Turn (List α) (List α) :=
  match c.eat? .rightParen with
  | some ⟨c₁, _⟩ => .ends found c₁
  | none =>
    (item c).turn fun next c₁ =>
    match c₁.eat? .comma with
    | some ⟨c₂, _⟩ => .again (found ++ [next]) c₂
    | none => (c₁.expect .rightParen).turn fun _ c₂ => .ends (found ++ [next]) c₂

theorem listTurn_computes {α : Type} {item : (c : Cursor) → Parsed α c.size}
    {q : Cursor → α → Cursor → Prop} (hitem : ∀ c, (item c).From c (q c))
    {list : (c : Cursor) → Parsed (List α) c.size}
    (hlist : ∀ c, list c = match c.eat? .rightParen with
      | some ⟨c₁, h₁⟩ => .ok [] c₁ h₁
      | none =>
        (item c).bind fun next c₁ _ =>
        match c₁.eat? .comma with
        | some ⟨c₂, h₂⟩ => .resume h₂ <| (list c₂).map fun rest => next :: rest
        | none => (c₁.expect .rightParen).map fun _ => [next]) :
    Computes (listTurn item) fun found c => ((list c).map (found ++ ·)).outcome := by
  refine computes_of_unrolls (fun found c => ?_) fun found c => ?_
  · unfold listTurn
    split
    · trivial
    · refine (hitem c).readsOn fun next c₁ h₁ => ?_
      split
      · next c₂ h₂ heat => exact h₁.trans_spans (spans_of_eatKind? heat)
      · exact (c₁.expect_from .rightParen).readsOnAfter h₁ fun _ _ _ => trivial
  · rw [hlist, listTurn]
    cases c.eat? .rightParen with
    | some later => simp [Turn.finish]
    | none =>
      simp only [Parsed.map_bind]
      refine Parsed.outcome_bind fun next c₁ _ => ?_
      cases c₁.eat? .comma with
      | some later => simp [Turn.finish, Parsed.resume]
      | none =>
        simp only [Parsed.map_map]
        exact Parsed.outcome_map fun _ _ => rfl

/-- The items of a sequence after the first one. -/
def sequenceTurn (found : List Expression) (c : Cursor) :
    Turn (List Expression) (List Expression) :=
  match c.eat? .comma with
  | none => .ends found c
  | some ⟨c₁, _⟩ => (assignment c₁).turn fun next c₂ => .again (found ++ [next]) c₂

theorem sequenceTurn_computes : Computes sequenceTurn
    fun found c => ((sequenceRest c).map (found ++ ·)).outcome := by
  refine computes_of_unrolls (fun found c => ?_) fun found c => ?_
  · unfold sequenceTurn
    split
    · trivial
    · next c₁ h₁ heat =>
      exact (assignment_from c₁).readsOnAfter (advances_of_eatKind? heat) fun _ _ h => h
  · rw [sequenceRest, sequenceTurn]
    cases c.eat? .comma with
    | none => simp [Turn.finish]
    | some later =>
      simp only [Parsed.relax, Parsed.resume, Parsed.map_widen, Parsed.map_bindLoose,
        Parsed.outcome_widen]
      exact Parsed.outcome_bindLoose fun next c₂ _ => by simp [Turn.finish]

/-- The operators after an operand that bind tighter than `floor`. -/
def operatorsTurn (floor : Level) (left : Expression) (c : Cursor) : Turn Expression Expression :=
  match c.take? BinaryOperator.ofKind? with
  | none => .ends left c
  | some (operator, ⟨c₁, _⟩) =>
    if operator.level ≤ floor then .ends left c
    else (binary operator.level c₁).turn fun right c₂ => .again (.binary operator left right) c₂

theorem operatorsTurn_computes (floor : Level) : Computes (operatorsTurn floor)
    fun left c => (binaryRest floor left c).outcome := by
  refine computes_of_unrolls (fun left c => ?_) fun left c => ?_
  · unfold operatorsTurn
    split
    · trivial
    · next operator c₁ h₁ htake =>
      split
      · trivial
      · exact (binary_from operator.level c₁).readsOnAfter (advances_of_take? htake)
          fun _ _ h => h
  · rw [binaryRest, operatorsTurn]
    cases c.take? BinaryOperator.ofKind? with
    | none => rfl
    | some taken =>
      dsimp only
      split
      · rfl
      · simp only [Parsed.relax, Parsed.resume, Parsed.outcome_widen]
        exact Parsed.outcome_bindLoose fun _ _ _ => rfl

/-- The accesses after an expression and, if `calls` is set, the argument lists. -/
def suffixesTurn (calls : Bool) (object : Expression) (c : Cursor) : Turn Expression Expression :=
  match c.next? with
  | some (.punctuator .dot, ⟨c₁, _⟩) =>
    c₁.expectName.turn fun property c₂ => .again (.member object property) c₂
  | some (.punctuator .leftBracket, ⟨c₁, _⟩) =>
    (expression c₁).turn fun property c₂ =>
    (c₂.expect .rightBracket).turn fun _ c₃ => .again (.index object property) c₃
  | some (.punctuator .leftParen, ⟨c₁, _⟩) =>
    if calls then
      (arguments c₁).turn fun arguments c₂ => .again (.call object arguments) c₂
    else .ends object c
  | _ => .ends object c

theorem suffixesTurn_computes (calls : Bool) : Computes (suffixesTurn calls)
    fun object c => (suffixes calls object c).outcome := by
  refine computes_of_unrolls (fun object c => ?_) fun object c => ?_
  · unfold suffixesTurn
    split
    · next c₁ h₁ hnext =>
      exact c₁.expectName_from.readsOnAfter (advances_of_next? hnext) fun _ _ h => h
    · next c₁ h₁ hnext =>
      refine (expression_from c₁).readsOnAfter (advances_of_next? hnext) fun _ c₂ h₂ => ?_
      exact (c₂.expect_from .rightBracket).readsOnAfter h₂ fun _ _ h => h
    · next c₁ h₁ hnext =>
      split
      · exact (arguments_from c₁).readsOnAfter (advances_of_next? hnext) fun _ _ h => h
      · trivial
    · trivial
  · fun_cases suffixesTurn calls object c with
    | case1 c₁ h₁ hnext =>
      rw [suffixes, hnext]
      simp only [Parsed.relax, Parsed.resume, Parsed.outcome_widen]
      exact Parsed.outcome_bindLoose fun _ _ _ => rfl
    | case2 c₁ h₁ hnext =>
      rw [suffixes, hnext]
      simp only [Parsed.relax, Parsed.resume, Parsed.outcome_widen]
      exact Parsed.outcome_bind fun _ _ _ => Parsed.outcome_bindLoose fun _ _ _ => rfl
    | case3 c₁ h₁ hnext hcalls =>
      rw [suffixes, hnext]
      dsimp only
      rw [if_pos hcalls]
      simp only [Parsed.relax, Parsed.resume, Parsed.outcome_widen]
      exact Parsed.outcome_bindLoose fun _ _ _ => rfl
    | case4 c₁ h₁ hnext hcalls =>
      rw [suffixes, hnext]
      dsimp only
      rw [if_neg hcalls]
      rfl
    | case5 hdot hbracket hparen =>
      rw [suffixes]
      split
      · next hnext => exact absurd hnext (hdot _ _)
      · next hnext => exact absurd hnext (hbracket _ _)
      · next hnext => exact absurd hnext (hparen _ _)
      · rfl

/-- Goes on with an item after the comma behind it, or before the sign that closes the list. -/
def separated {σ α : Type} (close : Punctuator) (state : σ) (c : Cursor) : Turn σ α :=
  match c.eat? close with
  | some _ => .again state c
  | none => (c.expect .comma).turn fun _ c₁ => .again state c₁

theorem readsOn_separated {σ α : Type} {close : Punctuator} {state : σ} {c d : Cursor}
    (h : c.Advances d) : (separated close state d : Turn σ α).ReadsOn c := by
  unfold separated
  split
  · exact h
  · exact (d.expect_from .comma).readsOnAfter h fun _ _ h₁ => h₁

/-- The elements of an array literal, up to the closing bracket. -/
def elementsTurn (found : List (Option Expression)) (c : Cursor) :
    Turn (List (Option Expression)) (List (Option Expression)) :=
  match c.eat? .rightBracket with
  | some ⟨c₁, _⟩ => .ends found c₁
  | none =>
    match c.eat? .comma with
    | some ⟨c₁, _⟩ => .again (found ++ [none]) c₁
    | none => (assignment c).turn fun item c₁ => separated .rightBracket (found ++ [some item]) c₁

theorem elementsTurn_computes : Computes elementsTurn
    fun found c => ((elements c).map (found ++ ·)).outcome := by
  refine computes_of_unrolls (fun found c => ?_) fun found c => ?_
  · unfold elementsTurn
    split
    · trivial
    · split
      · next c₁ h₁ heat => exact advances_of_eatKind? heat
      · exact (assignment_from c).readsOn fun _ _ h => readsOn_separated h
  · rw [elements, elementsTurn]
    cases c.eat? .rightBracket with
    | some later => simp [Turn.finish]
    | none =>
      dsimp only
      cases c.eat? .comma with
      | some later => simp [Turn.finish, Parsed.resume]
      | none =>
        simp only [Parsed.map_bind]
        refine Parsed.outcome_bind fun item c₁ _ => ?_
        rw [separated]
        -- The rule takes the bracket after the last element at once, the loop with one more turn.
        cases hclose : c₁.eat? .rightBracket with
        | some later => simp [Turn.finish, elements.eq_1 c₁, hclose]
        | none =>
          simp only [Parsed.map_bind]
          exact Parsed.outcome_bind fun _ c₂ _ => by simp [Turn.finish]

/-- The properties of an object literal, up to the closing brace. -/
def propertiesTurn (found : List (PropertyKey × Expression)) (c : Cursor) :
    Turn (List (PropertyKey × Expression)) (List (PropertyKey × Expression)) :=
  match c.eat? .rightBrace with
  | some ⟨c₁, _⟩ => .ends found c₁
  | none =>
    (propertyKey c).turn fun key c₁ =>
    (c₁.expect .colon).turn fun _ c₂ =>
    (assignment c₂).turn fun value c₃ => separated .rightBrace (found ++ [(key, value)]) c₃

theorem propertiesTurn_computes : Computes propertiesTurn
    fun found c => ((properties c).map (found ++ ·)).outcome := by
  refine computes_of_unrolls (fun found c => ?_) fun found c => ?_
  · unfold propertiesTurn
    split
    · trivial
    · refine (propertyKey_from c).readsOn fun _ c₁ h₁ => ?_
      refine (c₁.expect_from .colon).readsOnAfter h₁ fun _ c₂ h₂ => ?_
      exact (assignment_from c₂).readsOnAfter h₂ fun _ _ h₃ => readsOn_separated h₃
  · rw [properties, propertiesTurn]
    cases c.eat? .rightBrace with
    | some later => simp [Turn.finish]
    | none =>
      simp only [Parsed.map_bind]
      refine Parsed.outcome_bind fun key c₁ _ => Parsed.outcome_bind fun _ c₂ _ =>
        Parsed.outcome_bind fun value c₃ _ => ?_
      rw [separated]
      cases hclose : c₃.eat? .rightBrace with
      | some later => simp [Turn.finish, properties.eq_1 c₃, hclose]
      | none =>
        simp only [Parsed.map_bind]
        exact Parsed.outcome_bind fun _ c₄ _ => by simp [Turn.finish]

end Grammar

/-! ## All of the grammar -/

/-- A rule that never succeeds without reading a token. -/
def Consumes {α : Type} {n : Cursor → ℕ} (rule : (c : Cursor) → Parsed α (n c)) : Prop :=
  ∀ c value rest, (rule c).outcome = .ok (value, rest) → c.Advances rest ∧ rest.size < c.size

theorem consumes_of_from {α : Type} {q : Cursor → α → Cursor → Prop}
    {rule : (c : Cursor) → Parsed α c.size} (h : ∀ c, (rule c).From c (q c)) : Consumes rule := by
  intro c value rest houtcome
  have hfrom := h c
  cases hrule : rule c with
  | ok value' rest' fewer =>
    rw [hrule] at hfrom houtcome
    obtain ⟨rfl, rfl⟩ := Prod.mk.inj (Except.ok.inj houtcome)
    exact ⟨hfrom.1.advances fewer, fewer⟩
  | error cause stop =>
    rw [hrule] at houtcome
    cases houtcome

open Grammar

/-- The rules of the grammar read a token if they succeed, and its loops read one with every turn
after which they go on. So the loop over the statements of a text ends, whatever the text is, and
if it succeeds it has read the whole text. -/
theorem parseProgram_terminates :
    (Consumes statement ∧ Consumes expression ∧ Consumes assignment ∧ Consumes unary
        ∧ Consumes primary ∧ Consumes block ∧ Consumes Cursor.expectName)
      ∧ ((∀ close, Computes (statementsTurn fun k => k = close ∨ k = .endOfInput)
            fun found c => ((statements close c).map (found ++ ·)).outcome)
        ∧ (Computes casesTurn fun found c => ((cases c).map (found ++ ·)).outcome)
        ∧ (Computes (statementsTurn fun k => k = .keyword .case ∨ k = .keyword .default
              ∨ k = .punctuator .rightBrace ∨ k = .endOfInput)
            fun found c => ((caseBody c).map (found ++ ·)).outcome)
        ∧ (Computes rungsTurn fun found c =>
            ((rungs c).map fun (rest, last) => (found ++ rest, last)).outcome)
        ∧ (∀ kind, Computes (declaratorsTurn kind)
            fun found c => ((declarators kind c).map (found ++ ·)).outcome)
        ∧ (Computes (listTurn Cursor.expectName)
            fun found c => ((parameters c).map (found ++ ·)).outcome)
        ∧ (Computes (listTurn assignment)
            fun found c => ((arguments c).map (found ++ ·)).outcome)
        ∧ (Computes sequenceTurn fun found c => ((sequenceRest c).map (found ++ ·)).outcome)
        ∧ (∀ floor, Computes (operatorsTurn floor)
            fun left c => (binaryRest floor left c).outcome)
        ∧ (∀ calls, Computes (suffixesTurn calls)
            fun object c => (suffixes calls object c).outcome)
        ∧ (Computes elementsTurn fun found c => ((elements c).map (found ++ ·)).outcome)
        ∧ Computes propertiesTurn fun found c => ((properties c).map (found ++ ·)).outcome)
      ∧ ∀ source, ∃ outcome,
        runLoop (statementsTurn fun k => k = .endOfInput ∨ k = .endOfInput)
            ((Cursor.ofSource source).size + 1) [] (.ofSource source) = some outcome
          ∧ parseProgram source = outcome.map Prod.fst
          ∧ ∀ program rest, outcome = .ok (program, rest) → rest.terminals = [] := by
  have hstatements (close) : Computes (statementsTurn fun k => k = close ∨ k = .endOfInput)
      fun found c => ((statements close c).map (found ++ ·)).outcome :=
    statementsTurn_computes _ (statements.eq_1 close)
  refine ⟨⟨consumes_of_from statement_from, consumes_of_from expression_from,
    consumes_of_from assignment_from, consumes_of_from unary_from, consumes_of_from primary_from,
    consumes_of_from block_from, consumes_of_from Cursor.expectName_from⟩,
    ⟨hstatements, casesTurn_computes, ?_, rungsTurn_computes, declaratorsTurn_computes, ?_, ?_,
      sequenceTurn_computes, operatorsTurn_computes, suffixesTurn_computes, elementsTurn_computes,
      propertiesTurn_computes⟩, ?_⟩
  · exact statementsTurn_computes _ caseBody.eq_1
  · exact listTurn_computes Cursor.expectName_from parameters.eq_1
  · exact listTurn_computes assignment_from arguments.eq_1
  · intro source
    have hrun := (hstatements .endOfInput).run [] (.ofSource source)
    have hsettles := program_settles source
    refine ⟨_, hrun, ?_⟩
    rw [parseProgram]
    rw [program] at *
    cases hprogram : statements .endOfInput (.ofSource source) with
    | ok value rest fewer =>
      rw [hprogram] at hsettles
      refine ⟨rfl, ?_⟩
      rintro _ _ ⟨⟩
      exact hsettles.2
    | error cause stop =>
      refine ⟨rfl, ?_⟩
      rintro _ _ ⟨⟩

end ScriptSteps
