import Mathlib
import ScriptSteps.Grammar
import ScriptSteps.Proofs.Grammar.Seam
import ScriptSteps.Proofs.Token.Front

/-!
# Expressions in parentheses

No rule for expressions looks further than the closing parenthesis after one: an expression is read
there as at the end of a text. What stands in parentheses is an operand, so parentheses around a
whole expression change nothing, not even the lines.

## Main statements

* `Grammar.ahead_ofSource`: an expression with a closing parenthesis after it
* `Grammar.expression_of_gives_primary`: an operand alone is an expression
* `Grammar.parseExpression_parens`: an expression in parentheses is that expression
-/

namespace ScriptSteps

/-! ## Staying on the same lines -/

theorem PropertyKey.addLines_zero (key : PropertyKey) : key.addLines 0 = key := by
  cases key <;> rfl

/-- What stays on its lines stays as it is. -/
theorem Expression.addLines_zero (e : Expression) : e.addLines 0 = e := by
  have hitems {items : List Expression} (h : ∀ item ∈ items, item.addLines 0 = item) :
      items.map (moved 0) = items := (List.map_congr_left h).trans items.map_id
  induction e using Expression.induction with
  | array elements ih =>
    have helements : elements.map (moved 0) = elements := by
      refine (List.map_congr_left fun element hmem => ?_).trans elements.map_id
      cases element with
      | none => rfl
      | some element => exact congrArg some (ih element hmem)
    simp [helements]
  | object properties ih =>
    have hproperties : properties.map (moved 0) = properties := by
      refine (List.map_congr_left fun property hmem => ?_).trans properties.map_id
      exact Prod.ext property.1.addLines_zero (ih property hmem)
    simp [hproperties]
  | sequence items ih => simp [hitems ih]
  | call callee items ihcallee ihitems => simp [ihcallee, hitems ihitems]
  | new callee items ihcallee ihitems => simp [ihcallee, hitems ihitems]
  | _ => simp_all

namespace Grammar

variable {c d rest : Cursor} {value : Expression}

/-! ## Before a closing parenthesis -/

/-- The text of an expression and a closing parenthesis after it. -/
theorem ahead_ofSource {e : String} (hvalue : (expression (.ofSource e)).Gives value rest)
    (hrest : rest.terminals = []) (hend : ∃ t ∈ (scan e).1.getLast?, t.stop = e.utf8ByteSize)
    (tail : List Char) :
    ∃ (j : Joint) (t : Terminal), j.lines = 0
      ∧ j.more = some (t :: (cursorFrom (scan e).2 tail).terminals)
      ∧ t.kind = .punctuator .rightParen
      ∧ j.Ahead .next (.ofSource e) (cursorFrom .start (e.toList ++ ')' :: tail)) := by
  have hopen : (Cursor.ofSource e).terminals ≠ [] := by
    intro hnil
    have hless := hvalue.fewer
    simp [Cursor.size, hnil] at hless
  have hends : EndsWithToken (scan e) := by
    obtain ⟨t, ht, hstop⟩ := hend
    refine ⟨t, ht, fun hinvalid => ?_, by rw [hstop, offset_scan]⟩
    -- No expression reads on to an invalid token.
    have hlast : (Cursor.ofSource e).terminals.getLast? = some ⟨t.kind, t.line⟩ := by
      rw [Cursor.ofSource, List.getLast?_map, ht]
      rfl
    exact expression_ends_foreign hlast (by rw [hinvalid]; rfl) hvalue hrest
  have hparen : cursorFrom (scan e).2 (')' :: tail)
      = (cursorFrom (scan e).2 tail).push (.punctuator .rightParen) := by
    refine cursorFrom_sign .rightParen ?_ _
    have hclosed : Punctuator.rightParen.continuations = [] := by decide
    simp [hclosed]
  have hboth := cursorFrom_append hends (separates_cons (by decide : separates ')' = true) tail)
  rw [hparen] at hboth
  have hstays : moved 0 (Cursor.ofSource e).terminals = (Cursor.ofSource e).terminals :=
    List.map_id _
  refine ⟨⟨0, some ((cursorFrom (scan e).2 tail).push (.punctuator .rightParen)).terminals,
    (cursorFrom (scan e).2 tail).endLine, by simp⟩, _, rfl, rfl, rfl, ?_⟩
  refine ⟨⟨?_, ?_, by simp, by simp, .inr ⟨_, rfl, rfl⟩⟩, fun hnil => absurd hnil hopen⟩
  · rw [hboth]
    exact congrArg (· ++ _) hstays.symm
  · rw [hboth]
    rfl

/-! ## An operand alone -/

/-- What is read as an operand after a parenthesis, with nothing after it that goes on with it, is
an expression. -/
theorem expression_of_gives_primary
    (h : (primary (c.push (.punctuator .leftParen))).Gives value rest)
    (hrest : rest.EndsExpression) :
    (expression (c.push (.punctuator .leftParen))).Gives value rest := by
  have hcall : (call (c.push (.punctuator .leftParen))).Gives value rest := by
    rw [call, operand]
    refine Parsed.Gives.bindLoose h fun _ => ?_
    rw [suffixes_of_endsExpression hrest]
    exact Parsed.gives_done _ _
  have hunary : (unary (c.push (.punctuator .leftParen))).Gives value rest := by
    have hpostfix : (postfix_ (c.push (.punctuator .leftParen))).Gives value rest := by
      rw [postfix_]
      refine hcall.bindLoose fun _ => ?_
      rw [hrest.take? fun _ _ h => by simp [joins_of_update h]]
      exact Parsed.gives_done _ _
    rw [unary]
    exact hpostfix
  have hbinary : (binary .conditional (c.push (.punctuator .leftParen))).Gives value rest := by
    have hexponent : (exponent (c.push (.punctuator .leftParen))).Gives value rest := by
      rw [exponent]
      refine hunary.bindLoose fun _ => ?_
      rw [hrest.eat? (by decide)]
      exact Parsed.gives_done _ _
    rw [binary]
    refine hexponent.bindLoose fun _ => ?_
    rw [binaryRest, hrest.take? fun _ _ h => by simp [joins_of_binary h]]
    exact Parsed.gives_done _ _
  have hconditional : (conditional (c.push (.punctuator .leftParen))).Gives value rest := by
    rw [conditional]
    refine hbinary.bindLoose fun _ => ?_
    rw [hrest.eat? (by decide)]
    exact Parsed.gives_done _ _
  have hassignment : (assignment (c.push (.punctuator .leftParen))).Gives value rest := by
    rw [assignment]
    refine hconditional.bindLoose fun _ => ?_
    rw [hrest.take? fun _ _ h => by simp [joins_of_assignment h]]
    exact Parsed.gives_done _ _
  rw [expression]
  refine hassignment.bindLoose fun _ => ?_
  rw [sequenceRest, hrest.eat? (by decide)]
  exact (Parsed.gives_done [] rest).map _

/-- An expression up to a closing parenthesis that ends the text, read from the opening one on. -/
theorem expression_parens {t : Terminal} (h : (expression c).Gives value d)
    (hd : d.terminals = [t]) (ht : t.kind = .punctuator .rightParen) :
    (expression (c.push (.punctuator .leftParen))).Gives value ⟨t.line, [], d.endLine⟩ := by
  refine expression_of_gives_primary ?_ (by simp [Cursor.EndsExpression])
  have hclose : (d.expect .rightParen).Gives () ⟨t.line, [], d.endLine⟩ := by
    obtain ⟨previous, terminals, endLine⟩ := d
    subst hd
    refine ⟨by simp [Cursor.size], ?_⟩
    simp [Cursor.expect, Cursor.expectKind, Cursor.eatKind?, Cursor.next?, ht]
  rw [primary]
  exact (h.bind fun _ => hclose.map _).resume (c.size_lt_push _)

/-- Parentheses around a whole expression change nothing. -/
theorem parseExpression_parens {source : String} {e : Expression}
    (hparse : parseExpression source = .ok e)
    (hall : (expression (.ofSource source)).cursor.terminals = [])
    (hend : ∃ t ∈ (scan source).1.getLast?, t.stop = source.utf8ByteSize) :
    parseExpression ("(" ++ source ++ ")") = .ok e
      ∧ (expression (.ofSource ("(" ++ source ++ ")"))).cursor.terminals = [] := by
  obtain ⟨rest, hvalue, hrest⟩ : ∃ rest, (expression (.ofSource source)).Gives e rest
      ∧ rest.terminals = [] := by
    unfold parseExpression at hparse
    cases hresult : expression (.ofSource source) with
    | error cause stop => simp [hresult, Parsed.toExcept] at hparse
    | ok value rest fewer =>
      rw [hresult] at hparse hall
      obtain rfl : value = e := Except.ok.inj hparse
      exact ⟨rest, Parsed.gives_ok _ _ _, hall⟩
  obtain ⟨j, t, hlines, hmore, hparen, hahead⟩ := ahead_ofSource hvalue hrest hend []
  obtain ⟨rest', hvalue', hreaches⟩ := hvalue.joined (expression_reaches hahead)
  rw [hlines, moved_expression, e.addLines_zero] at hvalue'
  have hlast : rest'.terminals = [t] := by
    rw [hreaches.terminals, hrest, hmore, cursorFrom_nil rfl]
    rfl
  have hopen : Cursor.ofSource ("(" ++ source ++ ")")
      = (cursorFrom .start (source.toList ++ [')'])).push (.punctuator .leftParen) := by
    have hclosed : Punctuator.leftParen.continuations = [] := by decide +kernel
    rw [← cursorFrom_sign .leftParen (by simp [hclosed]), ofSource_eq_cursorFrom]
    simp [Punctuator.text]
  obtain ⟨_, hwhole⟩ := expression_parens hvalue' hlast hparen
  rw [parseExpression, hopen, hwhole]
  exact ⟨rfl, rfl⟩

/-- A sequence on two lines that ends with a `new` without arguments. -/
theorem parseExpression_parens_sequence :
    let source := "x,\nnew y"
    let e : Expression := .sequence [.identifier ⟨"x", 1⟩, .new (.identifier ⟨"y", 2⟩) []]
    (parseExpression source = .ok e ∧ (expression (.ofSource source)).cursor.terminals = []
        ∧ ∃ t ∈ (scan source).1.getLast?, t.stop = source.utf8ByteSize)
      ∧ parseExpression ("(" ++ source ++ ")") = .ok e
      ∧ (expression (.ofSource ("(" ++ source ++ ")"))).cursor.terminals = [] := by
  intro source e
  have hscan : scan source = ([⟨.identifier "x", 0, 1, 1⟩, ⟨.punctuator .comma, 1, 2, 1⟩,
      ⟨.keyword .new, 3, 6, 2⟩, ⟨.identifier "y", 7, 8, 2⟩], ⟨8, 2⟩) := by
    decide +kernel
  have hread : (expression (.ofSource source)).Gives e ⟨2, [], 2⟩ := by
    rw [Cursor.ofSource, hscan]
    exact ⟨by decide, by cbv⟩
  obtain ⟨_, hread⟩ := hread
  have hparse : parseExpression source = .ok e := by
    rw [parseExpression, hread]
    rfl
  have hall : (expression (.ofSource source)).cursor.terminals = [] := by
    rw [hread]
    rfl
  have hend : ∃ t ∈ (scan source).1.getLast?, t.stop = source.utf8ByteSize := by
    rw [hscan]
    exact ⟨_, rfl, rfl⟩
  exact ⟨⟨hparse, hall, hend⟩, parseExpression_parens hparse hall hend⟩

end Grammar

end ScriptSteps
