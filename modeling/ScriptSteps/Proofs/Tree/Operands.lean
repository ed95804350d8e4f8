import Mathlib
import ScriptSteps.Proofs.Tree.Written

/-!
# The operands of an expression

An expression is written round its operands, and some of them are written in parentheses. Most of
these pairs are there because the text would be read differently without them. Three kinds are not:
`&&` and `||` right under `??`, a number without a point before an access, and a `new` that is the
callee of `new`.

## Main definitions

* `Expression.Operand`: an operand and the text on both sides of it
* `Expression.sparesParens`: the pairs that are not needed to read the text
* `Expression.Groups`: a pair of parentheses in the text of an expression

## Main statements

* `Expression.Operand.render`: the text of an expression round one of its operands
* `Expression.Groups.render`: the text of an expression round a pair of parentheses
-/

namespace ScriptSteps

/-! ## Lists of texts -/

/-- Texts before an item of a list, each with its comma. -/
def leadingTexts (texts : List String) : String := String.join (texts.map (· ++ ", "))

/-- Texts after an item of a list, each with its comma. -/
def trailingTexts (texts : List String) : String := String.join (texts.map (", " ++ ·))

/-- The comma of its own that a hole at the end of an array has. -/
def holeText (elements : List (Option Expression)) : String :=
  match elements.getLast? with
  | some none => ","
  | _ => ""

theorem commaSeparated_cons (text : String) (texts : List String) :
    commaSeparated (text :: texts) = text ++ trailingTexts texts := by
  induction texts generalizing text with
  | nil => simp [commaSeparated, trailingTexts]
  | cons next texts ih =>
    have hcomma : commaSeparated (text :: next :: texts)
        = text ++ ", " ++ commaSeparated (next :: texts) := by
      simp [commaSeparated, String.append_assoc]
    rw [hcomma, ih, trailingTexts, trailingTexts, List.map_cons, String.join_cons,
      String.append_assoc, String.append_assoc]

theorem commaSeparated_append_cons (before after : List String) (text : String) :
    commaSeparated (before ++ text :: after)
      = leadingTexts before ++ text ++ trailingTexts after := by
  induction before with
  | nil => simp [leadingTexts, commaSeparated_cons]
  | cons first before ih =>
    have hcomma : commaSeparated (first :: (before ++ text :: after))
        = first ++ ", " ++ commaSeparated (before ++ text :: after) := by
      cases before <;> simp [commaSeparated, String.append_assoc]
    rw [List.cons_append, hcomma, ih]
    simp [leadingTexts, String.append_assoc]

theorem renderItems_append (before after : List Expression) :
    renderItems (before ++ after) = renderItems before ++ renderItems after := by
  induction before with
  | nil => rfl
  | cons item before ih => rw [List.cons_append, renderItems, renderItems, ih, List.cons_append]

theorem renderElements_append (before after : List (Option Expression)) :
    renderElements (before ++ after) = renderElements before ++ renderElements after := by
  induction before with
  | nil => rfl
  | cons element before ih => cases element <;> simp [renderElements, ih]

theorem renderProperties_append (before after : List (PropertyKey × Expression)) :
    renderProperties (before ++ after) = renderProperties before ++ renderProperties after := by
  induction before with
  | nil => rfl
  | cons property before ih => simp [renderProperties, ih]

namespace Expression

/-! ## Operands -/

/-- An operand of an expression, whether it is written in parentheses, and the text on both sides
of it. -/
inductive Operand : Expression → Bool → Expression → String → String → Prop
  | left {operator left right} : Operand (.binary operator left right)
      (leftNeedsParens operator left) left ""
      (" " ++ operator.text ++ " "
        ++ parenthesizeIf (rightNeedsParens operator right) right.render)
  | right {operator left right} : Operand (.binary operator left right)
      (rightNeedsParens operator right) right
      (parenthesizeIf (leftNeedsParens operator left) left.render ++ " " ++ operator.text ++ " ") ""
  | argument {operator argument} : Operand (.unary operator argument)
      (decide (argument.level < .unary)) argument
      (operator.text ++ (if spacesOperand operator
        (parenthesizeIf (decide (argument.level < .unary)) argument.render) then " " else "")) ""
  | target {operator left right line} : Operand (.assignment operator left right line) false left ""
      (" " ++ operator.text ++ " "
        ++ parenthesizeIf (decide (right.level < .assignment)) right.render)
  | value {operator left right line} : Operand (.assignment operator left right line)
      (decide (right.level < .assignment)) right (left.render ++ " " ++ operator.text ++ " ") ""
  | callee {callee arguments} : Operand (.call callee arguments)
      (decide (callee.level < .call)) callee ""
      ("(" ++ commaSeparated (renderItems arguments) ++ ")")
  | callArgument {callee before item after} : Operand (.call callee (before ++ item :: after))
      (decide (item.level < .assignment)) item
      (parenthesizeIf (decide (callee.level < .call)) callee.render ++ "("
        ++ leadingTexts (renderItems before))
      (trailingTexts (renderItems after) ++ ")")
  | memberObject {object property} : Operand (.member object property)
      (!object.isBeforeDot) object "" ("." ++ property.name)
  | indexObject {object property} : Operand (.index object property)
      (!object.isBeforeDot) object "" ("[" ++ property.render ++ "]")
  | indexProperty {object property} : Operand (.index object property) false property
      (parenthesizeIf (!object.isBeforeDot) object.render ++ "[") "]"
  | test {test consequent alternate} : Operand (.conditional test consequent alternate)
      (decide (test.level < .coalesce)) test ""
      (" ? " ++ parenthesizeIf (decide (consequent.level < .assignment)) consequent.render
        ++ " : " ++ parenthesizeIf (decide (alternate.level < .assignment)) alternate.render)
  | consequent {test consequent alternate} : Operand (.conditional test consequent alternate)
      (decide (consequent.level < .assignment)) consequent
      (parenthesizeIf (decide (test.level < .coalesce)) test.render ++ " ? ")
      (" : " ++ parenthesizeIf (decide (alternate.level < .assignment)) alternate.render)
  | alternate {test consequent alternate} : Operand (.conditional test consequent alternate)
      (decide (alternate.level < .assignment)) alternate
      (parenthesizeIf (decide (test.level < .coalesce)) test.render ++ " ? "
        ++ parenthesizeIf (decide (consequent.level < .assignment)) consequent.render ++ " : ") ""
  | newCallee {callee arguments} : Operand (.new callee arguments)
      (containsCall callee || decide (callee.level < .member)) callee "new "
      ("(" ++ commaSeparated (renderItems arguments) ++ ")")
  | newArgument {callee before item after} : Operand (.new callee (before ++ item :: after))
      (decide (item.level < .assignment)) item
      ("new " ++ parenthesizeIf (containsCall callee || decide (callee.level < .member))
        callee.render ++ "(" ++ leadingTexts (renderItems before))
      (trailingTexts (renderItems after) ++ ")")
  | updatedAfter {operator argument line} : Operand (.update operator argument true line)
      (decide (argument.level < .postfix_)) argument operator.text ""
  | updatedBefore {operator argument line} : Operand (.update operator argument false line)
      (decide (argument.level < .postfix_)) argument "" operator.text
  | item {before item after} : Operand (.sequence (before ++ item :: after))
      (decide (item.level < .assignment)) item
      (leadingTexts (renderItems before)) (trailingTexts (renderItems after))
  | element {before element after} : Operand (.array (before ++ some element :: after))
      (decide (element.level < .assignment)) element
      ("[" ++ leadingTexts (renderElements before))
      (trailingTexts (renderElements after) ++ holeText (some element :: after) ++ "]")
  | property {before key value after} : Operand (.object (before ++ (key, value) :: after))
      (decide (value.level < .assignment)) value
      ("\x7b " ++ leadingTexts (renderProperties before) ++ key.render ++ ": ")
      (trailingTexts (renderProperties after) ++ " \x7d")

/-- The operands whose parentheses are not needed to read the text. -/
def sparesParens : Expression → Expression → Bool
  | .binary .nullishCoalescing _ _, .binary .logicalAnd _ _ => true
  | .binary .nullishCoalescing _ _, .binary .logicalOr _ _ => true
  | .member _ _, .literal (.number _) => true
  | .index _ _, .literal (.number _) => true
  | .new _ _, .new _ _ => true
  | _, _ => false

/-- A pair of parentheses in the text of an expression that groups an operand and is needed there:
what is written before it, the operand, and what is written after it. -/
inductive Groups : Expression → String → Expression → String → Prop
  | operand {e operand before after} : Operand e true operand before after →
      sparesParens e operand = false → Groups e before operand after
  | inside {e needed part before after before' operand after'} :
      Operand e needed part before after → Groups part before' operand after' →
      Groups e (before ++ (if needed then "(" else "") ++ before') operand
        (after' ++ (if needed then ")" else "") ++ after)

variable {e operand : Expression} {needed : Bool} {before after : String}

/-- An expression is written round its operands. -/
theorem Operand.render (h : Operand e needed operand before after) :
    e.render = before ++ parenthesizeIf needed operand.render ++ after := by
  cases h with
  | left | right | value | callee | test | consequent | alternate | newCallee =>
    simp [Expression.render, String.append_assoc]
  | target => simp [Expression.render, parenthesizeIf, String.append_assoc]
  | argument => simp [Expression.render]
  | memberObject | indexObject =>
    simp [Expression.render, accessed_render, String.append_assoc]
  | indexProperty =>
    simp [Expression.render, accessed_render, parenthesizeIf, String.append_assoc]
  | updatedAfter | updatedBefore => simp [Expression.render]
  | callArgument | newArgument | item =>
    simp [Expression.render, renderItems_append, renderItems, commaSeparated_append_cons,
      String.append_assoc]
  | @element before _ after =>
    obtain ⟨last, hlast⟩ : ∃ last, (some operand :: after).getLast? = some last :=
      ⟨_, List.getLast?_eq_some_getLast (by simp)⟩
    cases last <;>
      simp [Expression.render, renderElements_append, renderElements, commaSeparated_append_cons,
        String.append_assoc, holeText, hlast]
  | property =>
    simp [Expression.render, renderProperties_append, renderProperties,
      commaSeparated_append_cons, String.append_assoc]

/-- An expression is written round each pair of its parentheses. -/
theorem Groups.render (h : Groups e before operand after) :
    e.render = before ++ "(" ++ operand.render ++ ")" ++ after := by
  induction h with
  | operand h hspares => simpa [parenthesizeIf, String.append_assoc] using h.render
  | @inside e needed part before after before' operand after' h hpart ih =>
    rw [h.render, ih]
    cases needed <;> simp [parenthesizeIf, String.append_assoc]

end Expression

end ScriptSteps
