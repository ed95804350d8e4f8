import Mathlib
import ScriptSteps.Proofs.Grammar.Fused
import ScriptSteps.Proofs.Grammar.Places

/-!
# What is written round an operand

The text before an operand and the text after it are cut into tokens of their own, whatever stands
between them, but for two places: a sign right before its operand, and a dot right after one. Each
kind of operand has a lemma on what is written round it.

## Main definitions

* `Expression.Lead`: what may stand before an operand
* `Expression.Bounds`: the texts that end an operand
* `Expression.Place`: what is written round an operand, with its tokens

## Main statements

* `Expression.leads_render`: no expression starts with signs and then an equals sign
* `Expression.Operand.place`: every operand has its place
-/

namespace ScriptSteps

/-! ## The starts of texts -/

section Starts

variable {c : Char} {text front : List Char}

theorem Leads.prepend (h : Leads c text) (hfront : ∀ d ∈ front, d ≠ '=') :
    Leads c (front ++ text) := by
  induction front with
  | nil => exact h
  | cons d front ih =>
    have htail := ih fun e he => hfront e (List.mem_cons_of_mem d he)
    by_cases hd : d = c
    · exact hd ▸ htail.cons
    · exact leads_cons hd (hfront d List.mem_cons_self) _

theorem leads_of_ne {first : Char} (hc : c = '+' ∨ c = '-')
    (hfirst : first ≠ '+' ∧ first ≠ '-' ∧ first ≠ '=') (more : List Char) :
    Leads c (first :: more) := by
  obtain ⟨hplus, hminus, hequal⟩ := hfirst
  refine leads_cons ?_ hequal more
  rcases hc with rfl | rfl <;> assumption

theorem leads_of_isNamePart (hc : c = '+' ∨ c = '-')
    (h : ∃ first ∈ text.head?, Text.isNamePart first = true) : Leads c text := by
  obtain ⟨first, hfirst, hpart⟩ := h
  obtain ⟨more, rfl⟩ : ∃ more, text = first :: more := by
    cases text with
    | nil => cases hfirst
    | cons d more => exact ⟨more, by rw [Option.some.inj hfirst]⟩
  refine leads_of_ne hc ⟨?_, ?_, ?_⟩ more <;> rintro rfl <;> exact absurd hpart (by decide)

theorem leads_name {name : String} (hc : c = '+' ∨ c = '-') (h : isName name = true) :
    Leads c name.toList := by
  simp only [isName, Bool.and_eq_true] at h
  refine leads_of_isNamePart hc ?_
  cases hchars : name.toList with
  | nil => simp [hchars, isWord] at h
  | cons first tail => exact ⟨first, rfl, isNamePart_of_isWord h.1 first (by simp [hchars])⟩

theorem leads_number {x : Binary64} (hc : c = '+' ∨ c = '-') (h : x.IsMagnitude) :
    Leads c (scriptNumbers.write x).toList := by
  cases hinfinite : x.isInfinite with
  | true =>
    rw [scriptNumbers_write_infinite h hinfinite]
    exact leads_name hc (by decide)
  | false =>
    obtain ⟨value, ⟨n, hwritten, htext, -⟩, -⟩ := exists_writes_scriptNumber h hinfinite
    obtain ⟨hne, hdigits⟩ := hwritten.whole
    obtain ⟨first, tail, hwhole⟩ := List.exists_cons_of_ne_nil hne
    refine leads_of_isNamePart hc ⟨first, ?_, ?_⟩
    · rw [← htext, DecimalLiteral.text, hwhole]
      rfl
    · exact Text.isNamePart_of_isDigit (hdigits first (by simp [hwhole]))

theorem leads_parenthesizeIf {text : String} (hc : c = '+' ∨ c = '-') (needed : Bool)
    (h : Leads c text.toList) : Leads c (parenthesizeIf needed text).toList := by
  cases needed with
  | false => exact h
  | true =>
    rw [parenthesizeIf, if_pos rfl, String.toList_append, String.toList_append, List.append_assoc]
    exact leads_of_ne hc (by decide) _

end Starts

namespace Expression

/-- An expression starts with a number of signs, if any, and no equals sign after them. -/
theorem leads_render {c : Char} (hc : c = '+' ∨ c = '-') (e : Expression) (h : e.Fits .written) :
    Leads c e.render.toList := by
  -- The text of all but a few expressions starts with that of their first part.
  have hpart : ∀ {part : Expression} {needed : Bool}, Leads c part.render.toList →
      ∀ more, Leads c ((parenthesizeIf needed part.render).toList ++ more) :=
    fun hleads more => (leads_parenthesizeIf hc _ hleads).append more
  induction e using Expression.induction with
  | literal value =>
    cases value with
    | number value => exact leads_number hc h
    | string value =>
      simpa [Expression.render, Literal.render, renderString] using leads_of_ne hc (by decide) _
    | boolean value =>
      cases value <;> exact leads_of_ne hc (by decide) _
    | null => exact leads_of_ne hc (by decide) _
  | identifier id => exact leads_name hc h.1
  | this => exact leads_of_ne hc (by decide) _
  | array elements _ =>
    simpa [Expression.render] using leads_of_ne hc (by decide) _
  | object properties _ =>
    rw [Expression.render]
    split
    · exact leads_of_ne hc (by decide) _
    · simpa using leads_of_ne hc (by decide) _
  | binary operator left right ihleft _ =>
    simpa [Expression.render] using hpart (ihleft h.1) _
  | unary operator argument ih =>
    have hsign : ∀ d ∈ operator.text.toList ++ [' '], d ≠ '=' := by
      cases operator <;> simp [UnaryOperator.text]
    have hargument := leads_parenthesizeIf hc (decide (argument.level < .unary)) (ih h)
    rw [Expression.render]
    split
    · simpa using hargument.prepend hsign
    · simpa using hargument.prepend fun d hd => hsign d (List.mem_append_left _ hd)
  | assignment operator left right line ihleft _ =>
    simpa [Expression.render] using (ihleft h.2.1).append _
  | call callee arguments ihcallee _ =>
    simpa [Expression.render] using hpart (ihcallee h.1) _
  | member object property ih =>
    simpa [Expression.render, accessed_render] using hpart (ih h.1) _
  | index object property ihobject _ =>
    simpa [Expression.render, accessed_render] using hpart (ihobject h.1) _
  | conditional test consequent alternate ihtest _ _ =>
    simpa [Expression.render] using hpart (ihtest h.1) _
  | new callee arguments _ _ =>
    simpa [Expression.render] using leads_of_ne hc (by decide) _
  | update operator argument isPrefix line ih =>
    have hsign : ∀ d ∈ operator.text.toList, d ≠ '=' := by
      cases operator <;> simp [UpdateOperator.text]
    have hargument := ih h.2.1
    cases isPrefix with
    | true =>
      simpa [Expression.render] using
        (leads_parenthesizeIf hc (decide (argument.level < .postfix_)) hargument).prepend hsign
    | false => simpa [Expression.render] using hpart hargument _
  | sequence expressions ih =>
    obtain ⟨hlength, hitems⟩ := h
    obtain _ | ⟨first, _ | ⟨second, rest⟩⟩ := expressions
    · simp at hlength
    · simp at hlength
    · have hfirst := ih first (by simp) (itemsFit_iff.1 hitems first (by simp))
      simpa [Expression.render, commaSeparated, renderItems] using
        @hpart first (decide (first.level < .assignment)) hfirst _

/-! ## Surroundings -/

/-- What may stand before an operand: a text that ends before every character, or a sign that the
operand does not start with. -/
inductive Lead (e : Expression) (needed : Bool) (operand : Expression) (before : String) :
    List TokenKind → Prop
  | apart {kinds} : Scanned (· != '=') before.toList kinds → Lead e needed operand before kinds
  | sign {c sign double operator} : Doubles c sign double → e = .unary operator operand →
      before.toList = [c] → (∀ d ∈ (parenthesizeIf needed operand.render).toList.head?, d ≠ c) →
      Lead e needed operand before [.punctuator sign]

/-- The texts that end an operand: they start with a character that neither goes on with its last
token nor is a sign. -/
def Bounds (text : List Char) : Prop :=
  ∃ c ∈ text.head?, endsOperand false c = true ∧ c ≠ '+' ∧ c ≠ '-'

/-- What is written round an operand, and the tokens of both sides. -/
structure Place (e : Expression) (needed : Bool) (operand : Expression) (before after : String)
    (kindsBefore kindsAfter : List TokenKind) : Prop where
  fits : operand.Fits .written
  keeps : e.Keeps needed operand kindsBefore kindsAfter
  kinds : e.kinds = kindsBefore ++ (parenthesizeKindsIf needed operand.kinds ++ kindsAfter)
  lead : Lead e needed operand before kindsBefore
  scanned : Scanned (endsOperand e.isBeforeDot) after.toList kindsAfter
  ends : ∀ c ∈ after.toList.head?, endsOperand (needed || operand.isBeforeDot) c = true
  calm : after ≠ "" → ∀ rest, Calm (after.toList ++ rest)
  loose : after = "" → e.isBeforeDot = false
  dot : after.toList.head? = some '.' →
    ∃ property, e = .member operand property ∧ before = "" ∧ after = "." ++ property.name

section Places

variable {e x y z : Expression} {needed : Bool} {before after : String}
  {kindsBefore kindsAfter : List TokenKind}

theorem endsOperand_of_endsOperand_false {b : Bool} {c : Char} (h : endsOperand false c = true) :
    endsOperand b c = true := by
  simp only [endsOperand, Bool.and_eq_true, Bool.false_or] at h ⊢
  exact ⟨h.1, by simp [h.2]⟩

theorem isBeforeDot_eq_false_of_lt (h : e.level < .call) : e.isBeforeDot = false := by
  rw [Bool.eq_false_iff]
  exact fun hdot => not_le_of_gt h (call_le_of_isBeforeDot hdot)

/-- The place of an operand at the end of an expression. -/
theorem Place.of_last (fits : x.Fits .written) (keeps : e.Keeps needed x kindsBefore [])
    (kinds : e.kinds = kindsBefore ++ (parenthesizeKindsIf needed x.kinds ++ []))
    (lead : Lead e needed x before kindsBefore) (hlevel : e.level < .call) :
    e.Place needed x before "" kindsBefore [] where
  fits := fits
  keeps := keeps
  kinds := kinds
  lead := lead
  scanned := .nil
  ends := by simp
  calm := fun h => absurd rfl h
  loose := fun _ => isBeforeDot_eq_false_of_lt hlevel
  dot := by simp

/-- The place of an operand that is followed by something else than a sign. -/
theorem Place.of_bounds (fits : x.Fits .written) (keeps : e.Keeps needed x kindsBefore kindsAfter)
    (kinds : e.kinds = kindsBefore ++ (parenthesizeKindsIf needed x.kinds ++ kindsAfter))
    (lead : Lead e needed x before kindsBefore)
    (scanned : Scanned (endsOperand e.isBeforeDot) after.toList kindsAfter)
    (bounds : Bounds after.toList) : e.Place needed x before after kindsBefore kindsAfter := by
  obtain ⟨c, hc, hends, hplus, hminus⟩ := bounds
  obtain ⟨tail, htext⟩ : ∃ tail, after.toList = c :: tail := by
    cases htext : after.toList with
    | nil => simp [htext] at hc
    | cons d tail =>
      rw [htext] at hc
      exact ⟨tail, by rw [Option.some.inj hc]⟩
  refine ⟨fits, keeps, kinds, lead, scanned, ?_, ?_, ?_, ?_⟩
  · intro d hd
    rw [← Option.some.inj (hc.symm.trans hd)]
    exact endsOperand_of_endsOperand_false hends
  · intro _ rest d more heq hsign
    rw [htext] at heq
    obtain rfl := (List.cons.inj heq).1
    tauto
  · rintro rfl
    cases htext
  · intro hdot
    obtain rfl : c = '.' := Option.some.inj (hc.symm.trans hdot)
    cases hends

theorem Lead.of_scanned (h : Scanned anything before.toList kindsBefore) :
    Lead e needed x before kindsBefore := .apart (h.mono fun _ _ => rfl)

theorem lead_nil : Lead e needed x "" [] := .of_scanned .nil

/-! ### Operators -/

/-- An operand with the operator after it. -/
theorem scanned_beforeOperator (hx : x.Fits .written) (needed : Bool) (sign : String)
    (hsign : TokenKind.ofText sign ≠ .invalid) :
    Scanned anything (parenthesizeIf needed x.render ++ " " ++ sign ++ " ").toList
      (parenthesizeKindsIf needed x.kinds ++ [TokenKind.ofText sign]) := by
  have hnone : Scanned anything "".toList [] := .nil
  simpa using ((x.scanned_render hx).parenthesizeIf needed).operator sign hsign hnone rfl

/-- An operand with the operator before it. -/
theorem scanned_afterOperator (hy : y.Fits .written) (needed : Bool) (sign : String)
    (hsign : TokenKind.ofText sign ≠ .invalid) :
    Scanned (endsOperand false) (" " ++ sign ++ " " ++ parenthesizeIf needed y.render).toList
      (.ofText sign :: parenthesizeKindsIf needed y.kinds) := by
  have hnone : Scanned anything "".toList [] := .nil
  simpa using hnone.operator sign hsign ((y.scanned_render hy).parenthesizeIf needed) rfl

theorem bounds_cons {c : Char} (h : endsOperand false c = true ∧ c ≠ '+' ∧ c ≠ '-')
    (text : List Char) : Bounds (c :: text) := ⟨c, rfl, h⟩

theorem place_left {operator : BinaryOperator} (h : (binary operator x y).Fits .written) :
    (binary operator x y).Place (leftNeedsParens operator x) x ""
      (" " ++ operator.text ++ " " ++ parenthesizeIf (rightNeedsParens operator y) y.render) []
      (.ofText operator.text :: parenthesizeKindsIf (rightNeedsParens operator y) y.kinds) := by
  have hlevel : (binary operator x y).level < .call :=
    operator.level_le_exponent.trans_lt (by decide)
  refine .of_bounds h.1 (keeps_left h) (by simp [Expression.kinds]) lead_nil ?_ ?_
  · rw [isBeforeDot_eq_false_of_lt hlevel]
    exact scanned_afterOperator h.2 _ _ operator.ofText_ne_invalid
  · simpa using bounds_cons (by decide) _

theorem place_right {operator : BinaryOperator} (h : (binary operator x y).Fits .written) :
    (binary operator x y).Place (rightNeedsParens operator y) y
      (parenthesizeIf (leftNeedsParens operator x) x.render ++ " " ++ operator.text ++ " ") ""
      (parenthesizeKindsIf (leftNeedsParens operator x) x.kinds
        ++ [TokenKind.ofText operator.text]) [] :=
  .of_last h.2 (keeps_right h) (by simp [Expression.kinds])
    (.of_scanned (scanned_beforeOperator h.1 _ _ operator.ofText_ne_invalid))
    (operator.level_le_exponent.trans_lt (by decide))

theorem lead_argument (operator : UnaryOperator) (x : Expression) (needed : Bool) :
    Lead (unary operator x) needed x
      (operator.text
        ++ if spacesOperand operator (parenthesizeIf needed x.render) then " " else "")
      [.ofText operator.text] := by
  have hbang : Punctuator.bang.continuations = ['=', '='] := by decide
  have htilde : Punctuator.tilde.continuations = [] := by decide
  by_cases hspace : spacesOperand operator (parenthesizeIf needed x.render) = true
  · have hvalid := TokenKind.ofText_ne_invalid operator.ofKind?_ofText rfl
    refine .of_scanned ?_
    simpa [hspace] using scanned_ofText hvalid
  · rw [if_neg hspace, String.append_empty]
    cases operator with
    | typeof | void | delete => exact absurd rfl hspace
    | minus =>
      refine .sign .minus rfl rfl fun d hd => ?_
      rintro rfl
      exact hspace (by simp [spacesOperand, Option.mem_def.1 hd])
    | plus =>
      refine .sign .plus rfl rfl fun d hd => ?_
      rintro rfl
      exact hspace (by simp [spacesOperand, Option.mem_def.1 hd])
    | logicalNot => exact .apart ((scanned_sign .bang).mono fun c hc => by simpa [hbang] using hc)
    | bitwiseNot => exact .apart ((scanned_sign .tilde).mono fun c _ => by simp [htilde])

theorem place_argument {operator : UnaryOperator} (h : (unary operator x).Fits .written) :
    (unary operator x).Place (decide (x.level < .unary)) x
      (operator.text ++ (if spacesOperand operator
        (parenthesizeIf (decide (x.level < .unary)) x.render) then " " else "")) ""
      [.ofText operator.text] [] :=
  .of_last h (keeps_argument h) (by simp [Expression.kinds]) (lead_argument operator x _)
    (by decide : Level.unary < .call)

theorem place_updatedAfter {operator : UpdateOperator} {line : ℕ}
    (h : (update operator x true line).Fits .written) :
    (update operator x true line).Place (decide (x.level < .postfix_)) x operator.text ""
      [.ofText operator.text] [] :=
  .of_last h.2.1 (keeps_updatedAfter h) (by simp [Expression.kinds])
    (.of_scanned (scanned_update operator)) (by decide : Level.unary < .call)

theorem place_updatedBefore {operator : UpdateOperator} {line : ℕ}
    (h : (update operator x false line).Fits .written) :
    (update operator x false line).Place (decide (x.level < .postfix_)) x "" operator.text []
      [.ofText operator.text] where
  fits := h.2.1
  keeps := keeps_updatedBefore h
  kinds := by simp [Expression.kinds]
  lead := lead_nil
  scanned := (scanned_update operator).mono fun _ _ => rfl
  ends := by
    have hsign : ∀ b c, c ∈ operator.text.toList.head? → endsOperand b c = true := by
      cases operator <;> simp [UpdateOperator.text] <;> decide
    exact hsign _
  calm := by
    -- The second sign is no digit.
    rintro - rest c more heq -
    cases operator with
    | increment =>
      obtain rfl : '+' :: rest = more := (List.cons.inj heq).2
      intro d hd
      obtain rfl := Option.some.inj hd
      decide
    | decrement =>
      obtain rfl : '-' :: rest = more := (List.cons.inj heq).2
      intro d hd
      obtain rfl := Option.some.inj hd
      decide
  loose := by cases operator <;> simp [UpdateOperator.text]
  dot := by cases operator <;> simp [UpdateOperator.text]

theorem place_target {operator : AssignmentOperator} {line : ℕ}
    (h : (assignment operator x y line).Fits .written) :
    (assignment operator x y line).Place false x ""
      (" " ++ operator.text ++ " " ++ parenthesizeIf (decide (y.level < .assignment)) y.render) []
      (.ofText operator.text :: parenthesizeKindsIf (decide (y.level < .assignment)) y.kinds) := by
  have hvalid := TokenKind.ofText_ne_invalid operator.ofKind?_ofText rfl
  refine .of_bounds h.2.1 (keeps_target h) (by simp [Expression.kinds, parenthesizeKindsIf])
    lead_nil ?_ ?_
  · exact scanned_afterOperator h.2.2.1 _ _ hvalid
  · simpa using bounds_cons (by decide) _

theorem place_value {operator : AssignmentOperator} {line : ℕ}
    (h : (assignment operator x y line).Fits .written) :
    (assignment operator x y line).Place (decide (y.level < .assignment)) y
      (x.render ++ " " ++ operator.text ++ " ") ""
      (x.kinds ++ [TokenKind.ofText operator.text]) [] := by
  have hvalid := TokenKind.ofText_ne_invalid operator.ofKind?_ofText rfl
  exact .of_last h.2.2.1 (keeps_value h) (by simp [Expression.kinds])
    (.of_scanned (scanned_beforeOperator h.2.1 false _ hvalid))
    (by decide : Level.assignment < .call)

theorem ofText_question : TokenKind.ofText "?" = .punctuator .question := by decide

theorem ofText_colon : TokenKind.ofText ":" = .punctuator .colon := by decide

theorem isBeforeDot_conditional : (conditional x y z).isBeforeDot = false :=
  isBeforeDot_eq_false_of_lt (by decide : Level.conditional < .call)

theorem place_test (h : (conditional x y z).Fits .written) :
    (conditional x y z).Place (decide (x.level < .coalesce)) x ""
      (" ? " ++ parenthesizeIf (decide (y.level < .assignment)) y.render
        ++ " : " ++ parenthesizeIf (decide (z.level < .assignment)) z.render) []
      (.punctuator .question :: (parenthesizeKindsIf (decide (y.level < .assignment)) y.kinds
        ++ .punctuator .colon
          :: parenthesizeKindsIf (decide (z.level < .assignment)) z.kinds)) := by
  have hconsequent := (y.scanned_render h.2.1).parenthesizeIf (decide (y.level < .assignment))
  have halternate := (z.scanned_render h.2.2).parenthesizeIf (decide (z.level < .assignment))
  have hchoice := hconsequent.operator ":" (by simp [ofText_colon]) halternate (by decide)
  have hnone : Scanned anything "".toList [] := .nil
  have htext := hnone.operator "?" (by simp [ofText_question]) hchoice rfl
  refine .of_bounds h.1 (keeps_test h) (by simp [Expression.kinds]) lead_nil ?_ ?_
  · rw [isBeforeDot_conditional]
    simpa [ofText_question, ofText_colon] using htext
  · simpa using bounds_cons (by decide) _

theorem place_consequent (h : (conditional x y z).Fits .written) :
    (conditional x y z).Place (decide (y.level < .assignment)) y
      (parenthesizeIf (decide (x.level < .coalesce)) x.render ++ " ? ")
      (" : " ++ parenthesizeIf (decide (z.level < .assignment)) z.render)
      (parenthesizeKindsIf (decide (x.level < .coalesce)) x.kinds
        ++ [TokenKind.punctuator .question])
      (.punctuator .colon :: parenthesizeKindsIf (decide (z.level < .assignment)) z.kinds) := by
  have hbefore := scanned_beforeOperator h.1 (decide (x.level < .coalesce)) "?"
    (by simp [ofText_question])
  have hafter := scanned_afterOperator h.2.2 (decide (z.level < .assignment)) ":"
    (by simp [ofText_colon])
  refine .of_bounds h.2.1 (keeps_consequent h) (by simp [Expression.kinds]) (.of_scanned ?_) ?_ ?_
  · simpa [ofText_question] using hbefore
  · rw [isBeforeDot_conditional]
    simpa [ofText_colon] using hafter
  · simpa using bounds_cons (by decide) _

theorem place_alternate (h : (conditional x y z).Fits .written) :
    (conditional x y z).Place (decide (z.level < .assignment)) z
      (parenthesizeIf (decide (x.level < .coalesce)) x.render ++ " ? "
        ++ parenthesizeIf (decide (y.level < .assignment)) y.render ++ " : ") ""
      (parenthesizeKindsIf (decide (x.level < .coalesce)) x.kinds ++ .punctuator .question
        :: (parenthesizeKindsIf (decide (y.level < .assignment)) y.kinds
          ++ [TokenKind.punctuator .colon])) [] := by
  have hbefore := ((x.scanned_render h.1).parenthesizeIf (decide (x.level < .coalesce))).operator
    "?" (by simp [ofText_question])
    (scanned_beforeOperator h.2.1 (decide (y.level < .assignment)) ":"
      (by simp [ofText_colon])) (by decide)
  refine .of_last h.2.2 (keeps_alternate h) (by simp [Expression.kinds]) (.of_scanned ?_)
    (by decide : Level.conditional < .call)
  simpa [ofText_question, ofText_colon] using hbefore

/-! ### Accesses and calls -/

/-- The object of an access. -/
theorem scanned_object (hx : x.Fits .written) :
    Scanned (endsOperand true) (parenthesizeIf (!x.isBeforeDot) x.render).toList
      (parenthesizeKindsIf (!x.isBeforeDot) x.kinds) := by
  have hobject := (x.scanned_render hx).accessed
  rwa [accessed_render] at hobject

theorem place_memberObject {property : Identifier} (h : (member x property).Fits .written) :
    (member x property).Place (!x.isBeforeDot) x "" ("." ++ property.name) []
      [.punctuator .dot, .identifier property.name] := by
  have hdot : Scanned anything ['.'] [.punctuator .dot] :=
    scanned_closed (p := .dot) (by simp [Punctuator.closed])
  refine ⟨h.1, keeps_memberObject h, by simp [Expression.kinds], lead_nil, ?_, ?_, ?_, ?_, ?_⟩
  · have hbefore : (member x property).isBeforeDot = true := rfl
    rw [hbefore]
    simpa using hdot.append_of_anything (scanned_name h.2.1)
  · intro c hc
    obtain rfl : '.' = c := by simpa using hc
    cases x.isBeforeDot <;> decide
  · intro _ rest c more heq hsign
    rw [String.toList_append] at heq
    have hc : '.' = c := (List.cons.inj heq).1
    subst hc
    simp at hsign
  · simp
  · exact fun _ => ⟨property, rfl, rfl, rfl⟩

theorem place_indexObject (h : (index x y).Fits .written) :
    (index x y).Place (!x.isBeforeDot) x "" ("[" ++ y.render ++ "]") []
      (.punctuator .leftBracket :: (y.kinds ++ [TokenKind.punctuator .rightBracket])) := by
  have hproperty := Scanned.brackets (y.scanned_render h.2) (by cases y.isBeforeDot <;> decide)
  refine .of_bounds h.1 (keeps_indexObject h) (by simp [Expression.kinds]) lead_nil ?_ ?_
  · simpa using hproperty.mono fun _ _ => rfl
  · simpa using bounds_cons (by decide) _

theorem place_indexProperty (h : (index x y).Fits .written) :
    (index x y).Place false y (parenthesizeIf (!x.isBeforeDot) x.render ++ "[") "]"
      (parenthesizeKindsIf (!x.isBeforeDot) x.kinds ++ [TokenKind.punctuator .leftBracket])
      [.punctuator .rightBracket] := by
  have hopen : Scanned anything ['['] [.punctuator .leftBracket] :=
    scanned_closed (p := .leftBracket) (by simp [Punctuator.closed])
  have hclose : Scanned anything [']'] [.punctuator .rightBracket] :=
    scanned_closed (p := .rightBracket) (by simp [Punctuator.closed])
  refine .of_bounds h.2 (keeps_indexProperty h) (by simp [Expression.kinds, parenthesizeKindsIf])
    (.of_scanned ?_) (hclose.mono fun _ _ => rfl) (bounds_cons (by decide) _)
  simpa using (scanned_object h.1).append_cons hopen (by decide)

/-! ### Items of lists -/

section Lists

variable {texts : List String} {lists : List (List TokenKind)} {text : List Char}

theorem scanned_leadingTexts (h : ScannedAll texts lists) :
    Scanned anything (leadingTexts texts).toList (leadingKinds lists) := by
  induction h with
  | nil => exact .nil
  | cons hhead htail ih =>
    have hcomma := hhead.append_cons (scanned_comma.append_of_anything ih.space) (by decide)
    simpa [leadingTexts, leadingKinds] using hcomma

theorem bounds_trailingTexts (h : Bounds text) (texts : List String) :
    Bounds ((trailingTexts texts).toList ++ text) := by
  cases texts with
  | nil => simpa [trailingTexts] using h
  | cons first texts => simpa [trailingTexts] using bounds_cons (by decide) _

theorem scanned_trailingTexts (h : ScannedAll texts lists) :
    Scanned (endsOperand false) (trailingTexts texts).toList (trailingKinds lists) := by
  induction h with
  | nil => exact .nil
  | @cons first ts texts lists hhead htail ih =>
    have hrest : ∀ c ∈ (trailingTexts texts).toList.head?, endsOperand false c = true := by
      cases texts with
      | nil => simp [trailingTexts]
      | cons next texts =>
        intro c hc
        obtain rfl : ',' = c := by simpa [trailingTexts] using hc
        decide
    have hmore := scanned_comma.append_of_anything (hhead.append ih hrest fun _ _ hc => hc).space
    simpa [trailingTexts, trailingKinds] using hmore

theorem scannedAll_itemsFit {items : List Expression} (h : itemsFit .written items) :
    ScannedAll (renderItems items) (itemKinds items) :=
  scannedAll_items fun item hmem => item.scanned_render (itemsFit_iff.1 h item hmem)

theorem scannedAll_elementsFit {elements : List (Option Expression)}
    (h : ∀ element, some element ∈ elements → element.Fits .written) :
    ScannedAll (renderElements elements) (elementKinds elements) :=
  scannedAll_elements fun element hmem => element.scanned_render (h element hmem)

theorem scannedAll_propertiesFit {properties : List (PropertyKey × Expression)}
    (h : ∀ property ∈ properties, property.1.Fits .written ∧ property.2.Fits .written) :
    ScannedAll (renderProperties properties) (propertyKinds properties) :=
  scannedAll_properties fun property hmem =>
    ⟨(h property hmem).1, property.2.scanned_render (h property hmem).2⟩

/-- The end of a list of items and the parenthesis after it. -/
theorem scanned_trailing_paren (h : ScannedAll texts lists) :
    Scanned anything (trailingTexts texts ++ ")").toList
      (trailingKinds lists ++ [TokenKind.punctuator .rightParen]) := by
  have hclose : Scanned anything [')'] [.punctuator .rightParen] :=
    scanned_closed (p := .rightParen) (by simp [Punctuator.closed])
  simpa using (scanned_trailingTexts h).append_cons hclose (by decide)

theorem bounds_trailing_paren (texts : List String) :
    Bounds (trailingTexts texts ++ ")").toList := by
  rw [String.toList_append]
  exact bounds_trailingTexts (bounds_cons (by decide) []) texts

/-- A callee with the start of its arguments. -/
theorem scanned_leading_paren (hx : x.Fits .written) (needed : Bool) (h : ScannedAll texts lists) :
    Scanned anything (parenthesizeIf needed x.render ++ "(" ++ leadingTexts texts).toList
      (parenthesizeKindsIf needed x.kinds ++ .punctuator .leftParen :: leadingKinds lists) := by
  have hopen : Scanned anything ['('] [.punctuator .leftParen] :=
    scanned_closed (p := .leftParen) (by simp [Punctuator.closed])
  have htext := ((x.scanned_render hx).parenthesizeIf needed).append_cons
    (hopen.append_of_anything (scanned_leadingTexts h)) (by decide)
  simpa using htext

theorem scanned_new : Scanned anything "new ".toList [.keyword .new] := by
  simpa [Keyword.text] using (scanned_keyword .new).append_space (by decide)

end Lists

theorem place_callee {arguments : List Expression} (h : (call x arguments).Fits .written) :
    (call x arguments).Place (decide (x.level < .call)) x ""
      ("(" ++ commaSeparated (renderItems arguments) ++ ")") []
      (.punctuator .leftParen
        :: (commaSeparatedKinds (itemKinds arguments) ++ [TokenKind.punctuator .rightParen])) := by
  have harguments := scanned_arguments (scannedAll_itemsFit h.2)
  refine .of_bounds h.1 (keeps_callee h) (by simp [Expression.kinds]) lead_nil ?_ ?_
  · simpa using harguments.mono fun _ _ => rfl
  · simpa using bounds_cons (by decide) _

theorem place_newCallee {arguments : List Expression} (h : (new x arguments).Fits .written) :
    (new x arguments).Place (containsCall x || decide (x.level < .member)) x "new "
      ("(" ++ commaSeparated (renderItems arguments) ++ ")") [.keyword .new]
      (.punctuator .leftParen
        :: (commaSeparatedKinds (itemKinds arguments) ++ [TokenKind.punctuator .rightParen])) := by
  have harguments := scanned_arguments (scannedAll_itemsFit h.2)
  refine .of_bounds h.1 (keeps_newCallee h) (by simp [Expression.kinds]) (.of_scanned scanned_new)
    ?_ ?_
  · simpa using harguments.mono fun _ _ => rfl
  · simpa using bounds_cons (by decide) _

theorem place_callArgument {first last : List Expression}
    (h : (call y (first ++ x :: last)).Fits .written) :
    (call y (first ++ x :: last)).Place (decide (x.level < .assignment)) x
      (parenthesizeIf (decide (y.level < .call)) y.render ++ "("
        ++ leadingTexts (renderItems first))
      (trailingTexts (renderItems last) ++ ")")
      (parenthesizeKindsIf (decide (y.level < .call)) y.kinds
        ++ .punctuator .leftParen :: leadingKinds (itemKinds first))
      (trailingKinds (itemKinds last) ++ [TokenKind.punctuator .rightParen]) := by
  obtain ⟨hfirst, hx, hlast⟩ := itemsFit_append_cons h.2
  refine .of_bounds hx (keeps_callArgument h) ?_
    (.of_scanned (scanned_leading_paren h.1 _ (scannedAll_itemsFit hfirst)))
    ((scanned_trailing_paren (scannedAll_itemsFit hlast)).mono fun _ _ => rfl)
    (bounds_trailing_paren _)
  simp [Expression.kinds, itemKinds_append, itemKinds, commaSeparatedKinds_append_cons]

theorem place_newArgument {first last : List Expression}
    (h : (new y (first ++ x :: last)).Fits .written) :
    (new y (first ++ x :: last)).Place (decide (x.level < .assignment)) x
      ("new " ++ parenthesizeIf (containsCall y || decide (y.level < .member)) y.render ++ "("
        ++ leadingTexts (renderItems first))
      (trailingTexts (renderItems last) ++ ")")
      (.keyword .new
        :: (parenthesizeKindsIf (containsCall y || decide (y.level < .member)) y.kinds
          ++ .punctuator .leftParen :: leadingKinds (itemKinds first)))
      (trailingKinds (itemKinds last) ++ [TokenKind.punctuator .rightParen]) := by
  obtain ⟨hfirst, hx, hlast⟩ := itemsFit_append_cons h.2
  refine .of_bounds hx (keeps_newArgument h) ?_ (.of_scanned ?_)
    ((scanned_trailing_paren (scannedAll_itemsFit hlast)).mono fun _ _ => rfl)
    (bounds_trailing_paren _)
  · simp [Expression.kinds, itemKinds_append, itemKinds, commaSeparatedKinds_append_cons]
  · simpa using scanned_new.append_of_anything
      (scanned_leading_paren h.1 (containsCall y || decide (y.level < .member))
        (scannedAll_itemsFit hfirst))

theorem place_item {first last : List Expression}
    (h : (sequence (first ++ x :: last)).Fits .written) :
    (sequence (first ++ x :: last)).Place (decide (x.level < .assignment)) x
      (leadingTexts (renderItems first)) (trailingTexts (renderItems last))
      (leadingKinds (itemKinds first)) (trailingKinds (itemKinds last)) := by
  obtain ⟨hfirst, hx, hlast⟩ := itemsFit_append_cons h.2
  have hlead := scanned_leadingTexts (scannedAll_itemsFit hfirst)
  have hkeeps := keeps_item h
  have hkinds : (sequence (first ++ x :: last)).kinds = leadingKinds (itemKinds first)
      ++ (parenthesizeKindsIf (decide (x.level < .assignment)) x.kinds
        ++ trailingKinds (itemKinds last)) := by
    simp [Expression.kinds, itemKinds_append, itemKinds, commaSeparatedKinds_append_cons]
  have hlevel : (sequence (first ++ x :: last)).level < .call :=
    (by decide : Level.sequence < .call)
  cases last with
  | nil => exact .of_last hx hkeeps hkinds (.of_scanned hlead) hlevel
  | cons next last =>
    refine .of_bounds hx hkeeps hkinds (.of_scanned hlead) ?_ ?_
    · rw [isBeforeDot_eq_false_of_lt hlevel]
      exact scanned_trailingTexts (scannedAll_itemsFit hlast)
    · simpa [renderItems, trailingTexts] using bounds_cons (by decide) _

theorem place_element {first last : List (Option Expression)}
    (h : (array (first ++ some x :: last)).Fits .written) :
    (array (first ++ some x :: last)).Place (decide (x.level < .assignment)) x
      ("[" ++ leadingTexts (renderElements first))
      (trailingTexts (renderElements last) ++ holeText (some x :: last) ++ "]")
      (.punctuator .leftBracket :: leadingKinds (elementKinds first))
      (trailingKinds (elementKinds last)
        ++ (holeKinds (some x :: last) ++ [TokenKind.punctuator .rightBracket])) := by
  have hfits := elementsFit_iff.1 h
  have hfirst := scannedAll_elementsFit fun e hmem => hfits e (List.mem_append_left _ hmem)
  have hlast := scannedAll_elementsFit fun e hmem =>
    hfits e (List.mem_append_right _ (List.mem_cons_of_mem _ hmem))
  have hopen : Scanned anything ['['] [.punctuator .leftBracket] :=
    scanned_closed (p := .leftBracket) (by simp [Punctuator.closed])
  have hclose : Scanned anything [']'] [.punctuator .rightBracket] :=
    scanned_closed (p := .rightBracket) (by simp [Punctuator.closed])
  have hbefore := hopen.append_of_anything (scanned_leadingTexts hfirst)
  have htrailing := scanned_trailingTexts hlast
  obtain ⟨end_, hend⟩ : ∃ end_, (some x :: last).getLast? = some end_ :=
    ⟨_, List.getLast?_eq_some_getLast (by simp)⟩
  refine .of_bounds (hfits x (by simp)) (keeps_element h) ?_ (.of_scanned (by simpa using hbefore))
    (Scanned.mono (f := anything) ?_ fun _ _ => rfl) ?_
  · simp [Expression.kinds, elementKinds_append, elementKinds, commaSeparatedKinds_append_cons,
      holeKinds_append_cons]
  · -- A hole at the end has a comma of its own.
    cases end_ with
    | none =>
      have hafter := htrailing.append_cons (scanned_comma.append_of_anything hclose) (by decide)
      simpa [holeText, holeKinds, hend] using hafter
    | some e =>
      have hafter := htrailing.append_cons hclose (by decide)
      simpa [holeText, holeKinds, hend] using hafter
  · rw [String.append_assoc, String.toList_append]
    refine bounds_trailingTexts ?_ _
    cases end_ with
    | none => simpa [holeText, hend] using bounds_cons (by decide) _
    | some e => simpa [holeText, hend] using bounds_cons (by decide) _

theorem place_property {first last : List (PropertyKey × Expression)} {key : PropertyKey}
    (h : (object (first ++ (key, x) :: last)).Fits .written) :
    (object (first ++ (key, x) :: last)).Place (decide (x.level < .assignment)) x
      ("\x7b " ++ leadingTexts (renderProperties first) ++ key.render ++ ": ")
      (trailingTexts (renderProperties last) ++ " \x7d")
      (.punctuator .leftBrace
        :: (leadingKinds (propertyKinds first) ++ [key.kind, .punctuator .colon]))
      (trailingKinds (propertyKinds last) ++ [TokenKind.punctuator .rightBrace]) := by
  have hfits := propertiesFit_iff.1 h
  have hfirst := scannedAll_propertiesFit fun p hmem => hfits p (List.mem_append_left _ hmem)
  have hlast := scannedAll_propertiesFit fun p hmem =>
    hfits p (List.mem_append_right _ (List.mem_cons_of_mem _ hmem))
  have hkey := PropertyKey.scanned_render (hfits (key, x) (by simp)).1
  have hopen : Scanned anything ['\x7b'] [.punctuator .leftBrace] :=
    scanned_closed (p := .leftBrace) (by simp [Punctuator.closed])
  have hcolon : Scanned anything [':'] [.punctuator .colon] :=
    scanned_closed (p := .colon) (by simp [Punctuator.closed])
  have hclose : Scanned anything ['\x7d'] [.punctuator .rightBrace] :=
    scanned_closed (p := .rightBrace) (by simp [Punctuator.closed])
  have hbefore := hopen.append_of_anything ((scanned_leadingTexts hfirst).append_of_anything
    (hkey.append_cons (hcolon.append_space rfl) (by decide))).space
  have hafter := (scanned_trailingTexts hlast).append_cons hclose.space (by decide)
  refine .of_bounds (hfits (key, x) (by simp)).2 (keeps_property h) ?_
    (.of_scanned (by simpa using hbefore))
    (Scanned.mono (f := anything) (by simpa using hafter) fun _ _ => rfl) ?_
  · simp [Expression.kinds, propertyKinds_append, propertyKinds, commaSeparatedKinds_append_cons]
  · rw [String.toList_append]
    exact bounds_trailingTexts (by simpa using bounds_cons (by decide) _) _

/-- Every operand has its place. -/
theorem Operand.place (h : Operand e needed x before after) (hfits : e.Fits .written) :
    ∃ kindsBefore kindsAfter, e.Place needed x before after kindsBefore kindsAfter := by
  cases h with
  | left => exact ⟨_, _, place_left hfits⟩
  | right => exact ⟨_, _, place_right hfits⟩
  | argument => exact ⟨_, _, place_argument hfits⟩
  | target => exact ⟨_, _, place_target hfits⟩
  | value => exact ⟨_, _, place_value hfits⟩
  | callee => exact ⟨_, _, place_callee hfits⟩
  | callArgument => exact ⟨_, _, place_callArgument hfits⟩
  | memberObject => exact ⟨_, _, place_memberObject hfits⟩
  | indexObject => exact ⟨_, _, place_indexObject hfits⟩
  | indexProperty => exact ⟨_, _, place_indexProperty hfits⟩
  | test => exact ⟨_, _, place_test hfits⟩
  | consequent => exact ⟨_, _, place_consequent hfits⟩
  | alternate => exact ⟨_, _, place_alternate hfits⟩
  | newCallee => exact ⟨_, _, place_newCallee hfits⟩
  | newArgument => exact ⟨_, _, place_newArgument hfits⟩
  | updatedAfter => exact ⟨_, _, place_updatedAfter hfits⟩
  | updatedBefore => exact ⟨_, _, place_updatedBefore hfits⟩
  | item => exact ⟨_, _, place_item hfits⟩
  | element => exact ⟨_, _, place_element hfits⟩
  | property => exact ⟨_, _, place_property hfits⟩

end Places

end Expression

end ScriptSteps
