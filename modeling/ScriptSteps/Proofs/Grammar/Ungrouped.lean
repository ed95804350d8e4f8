import Mathlib
import ScriptSteps.Proofs.Grammar.Surroundings

/-!
# Texts without a pair of their parentheses

A written expression that loses a pair of parentheses is read as something else, or not at all.
Where the tokens stay the same but for the two that are gone, they have the weight of the expression
and are balanced, and still are no phrase of the grammar for it. Signs that run together change
neither. A number that takes in the dot after it does: then a token is invalid, or the text is too
light. Both survive what is written round the text, so an induction along the nested operands brings
them to the top.

## Main definitions

* `Expression.Dotted`: the two ways in which the text of an expression ends
* `Expression.Misreads`, `Expression.Spoils`: what becomes of the text of an expression
* `Expression.Cut`: a text that is not read as an expression

## Main statements

* `Expression.Place.cut`: what stands in the place of an operand, with what is written round it
* `Expression.Operand.cut`: an operand without its parentheses
* `Expression.Groups.cut`: an expression without a pair of its parentheses
* `parseExpression_ungrouped`: the parentheses of a text are needed to read it
-/

namespace ScriptSteps

namespace Expression

variable {e x : Expression} {needed : Bool} {before after : String}
  {kb ka ts us xs : List TokenKind}

/-! ## The ends of texts -/

/-- An expression that may stand before a dot as it is, or one whose text ends with the digits of a
number. -/
inductive Dotted (e : Expression) : Prop
  | apart : Scanned (endsOperand true) e.render.toList e.kinds → Dotted e
  | digits {front digits kinds} : e.render.toList = front ++ digits → IsNumeral digits →
      e.kinds = kinds ++ kindsOf digits → Scanned Char.isDigit front kinds → Dotted e

/-- What stands before an operand is cut into its tokens if the operand follows it. -/
theorem Lead.scanned (h : Lead e needed x before kb) (hfits : x.Fits .written) :
    ∃ f, Scanned f before.toList kb ∧ (∀ c, c.isDigit = true → f c = true)
      ∧ ∀ c ∈ (parenthesizeIf needed x.render).toList.head?, f c = true := by
  have hequal : ∀ c ∈ (parenthesizeIf needed x.render).toList.head?, c ≠ '=' := by
    obtain ⟨d, hd, hne⟩ := starts_parenthesizeIf needed (x.starts_render hfits)
    intro c hc
    rwa [← Option.some.inj (hd.symm.trans hc)]
  cases h with
  | apart h =>
    refine ⟨_, h, fun c hc => ?_, fun c hc => by simpa using hequal c hc⟩
    rw [bne_iff_ne]
    rintro rfl
    exact absurd hc (by decide)
  | @sign c sign double operator hdouble he hbefore hhead =>
    have htext : sign.text.toList = [c] ∧ sign.continuations = [c, '='] := by
      cases hdouble <;> decide +kernel
    have hsign := scanned_sign sign
    rw [htext.1, htext.2, ← hbefore] at hsign
    refine ⟨_, hsign, fun d hd => ?_, fun d hd => ?_⟩
    · have hc : c.isDigit = false := by cases hdouble <;> decide
      simp only [List.mem_cons, List.not_mem_nil, or_false, decide_eq_true_eq]
      rintro (rfl | rfl)
      · simp [hd] at hc
      · exact absurd hd (by decide)
    · simpa using ⟨hhead d hd, hequal d hd⟩

/-- The end of an expression is that of its last operand. -/
theorem Operand.dotted (h : Operand e needed x before "") (hfits : e.Fits .written)
    (hx : Dotted x) : Dotted e := by
  obtain ⟨kb, ka, hplace⟩ := h.place hfits
  obtain rfl : ka = [] := by
    have hnone := hplace.scanned.scans [] (by simp)
    simpa using hnone.symm
  obtain ⟨f, hbefore, hdigit, hhead⟩ := hplace.lead.scanned hplace.fits
  have hrender : e.render.toList
      = before.toList ++ (parenthesizeIf needed x.render).toList := by
    rw [h.render]
    simp
  have hkinds : e.kinds = kb ++ parenthesizeKindsIf needed x.kinds := by
    rw [hplace.kinds, List.append_nil]
  have hstarts := starts_parenthesizeIf needed (x.starts_render hplace.fits)
  have hnonempty : (parenthesizeIf needed x.render).toList ≠ [] := by
    obtain ⟨c, hc, -⟩ := hstarts
    intro hnil
    simp [hnil] at hc
  cases needed with
  | true =>
    have hparens : Scanned (endsOperand (true || x.isBeforeDot))
        (parenthesizeIf true x.render).toList (parenthesizeKindsIf true x.kinds) :=
      scanned_parenthesizeIf (x.scanned_render hplace.fits)
    refine .apart ?_
    rw [hrender, hkinds]
    exact hbefore.append hparens hhead fun hnil => absurd hnil hnonempty
  | false =>
    cases hx with
    | apart hx =>
      refine .apart ?_
      rw [hrender, hkinds]
      exact hbefore.append hx hhead fun hnil => absurd hnil hnonempty
    | @digits front digits kinds hrender' hdigits hkinds' hfront =>
      have htext : (parenthesizeIf false x.render).toList = front ++ digits := hrender'
      have hfronts : Scanned Char.isDigit (before.toList ++ front) (kb ++ kinds) := by
        refine hbefore.append hfront (fun c hc => hhead c ?_) fun _ c hc => hdigit c hc
        rw [htext, List.head?_append, Option.mem_def.1 hc]
        rfl
      refine .digits ?_ hdigits ?_ hfronts
      · rw [hrender, List.append_assoc, htext]
      · rw [hkinds, List.append_assoc, ← hkinds']
        rfl

theorem dotted_of_isBeforeDot (hfits : e.Fits .written) (h : e.isBeforeDot = true) :
    Dotted e := by
  have hscanned := e.scanned_render hfits
  rw [IsScanned, h] at hscanned
  exact .apart hscanned

theorem dotted_number {value : Binary64} (h : value.IsMagnitude) :
    Dotted (literal (.number value)) := by
  by_cases hall : (scriptNumbers.write value).toList.all Char.isDigit = true
  · have hrender : (literal (.number value)).render = scriptNumbers.write value := by
      simp [Expression.render, Literal.render]
    have hnumber := (scanned_number h).scans [] (by simp)
    have hne : (scriptNumbers.write value).toList ≠ [] := by
      obtain ⟨c, hc, -⟩ := starts_number h
      intro hnil
      simp [hnil] at hc
    have hnone : Scanned Char.isDigit [] [] := .nil
    refine .digits ?_ ⟨hne, by simpa using hall⟩ ?_ hnone
    · rw [hrender, List.nil_append]
    · simpa [Expression.kinds, Literal.kind] using hnumber.symm
  · exact dotted_of_isBeforeDot h (by simpa [isBeforeDot] using hall)

/-- Every expression ends one way or the other. -/
theorem dotted (e : Expression) (h : e.Fits .written) : Dotted e := by
  induction e using Expression.induction with
  | literal value =>
    cases value with
    | number value => exact dotted_number h
    | _ => exact dotted_of_isBeforeDot h rfl
  | binary operator left right _ ih => exact Operand.right.dotted h (ih h.2)
  | unary operator argument ih => exact Operand.argument.dotted h (ih h)
  | assignment operator left right line _ ih => exact Operand.value.dotted h (ih h.2.2.1)
  | conditional test consequent alternate _ _ ih => exact Operand.alternate.dotted h (ih h.2.2)
  | update operator argument isPrefix line ih =>
    cases isPrefix with
    | true => exact Operand.updatedAfter.dotted h (ih h.2.1)
    | false =>
      have hsign : ∀ c ∈ operator.text.toList.head?, endsOperand false c = true := by
        cases operator <;> simp [UpdateOperator.text] <;> decide
      have hnonempty : operator.text.toList ≠ [] := by cases operator <;> decide
      have htext := ((argument.scanned_render h.2.1).parenthesizeIf
        (decide (argument.level < .postfix_))).append (scanned_update operator) hsign
        fun hnil => absurd hnil hnonempty
      refine .apart (Scanned.mono (f := anything) ?_ fun _ _ => rfl)
      simpa [Expression.render, Expression.kinds] using htext
  | sequence expressions ih =>
    obtain ⟨hlength, hitems⟩ := h
    obtain ⟨first, last, rfl⟩ := (List.eq_nil_or_concat' expressions).resolve_left (by
      rintro rfl
      simp at hlength)
    have hlast : Operand (.sequence (first ++ [last])) (decide (last.level < .assignment)) last
        (leadingTexts (renderItems first)) "" := .item
    exact hlast.dotted ⟨hlength, hitems⟩ (ih last (by simp) (itemsFit_append_cons hitems).2.1)
  | _ => exact dotted_of_isBeforeDot h rfl

/-! ## Misread texts -/

/-- Tokens that have the weight of an expression but are not read as it. -/
structure Misreads (e : Expression) (ts : List TokenKind) : Prop where
  matched : Matches e.reread ts
  wrong : ¬ Derives (.expression .sequence e.reread) ts

/-- A text that is not read as an expression whatever follows it: one of its tokens is invalid, or
it has too few. -/
def Spoils (e : Expression) (text : String) : Prop :=
  ∀ rest : List Char, (∀ c ∈ rest.head?, endsOperand e.isBeforeDot c = true) → Calm rest →
    .invalid ∈ kindsOf (text.toList ++ rest)
      ∨ weightOf (kindsOf (text.toList ++ rest)) < e.weight + weightOf (kindsOf rest)

/-- A text that is not read as an expression. -/
inductive Cut (e : Expression) (text : String) : Prop
  | misread {kinds : List TokenKind} : Scanned (endsOperand e.isBeforeDot) text.toList kinds →
      Misreads e kinds → Cut e text
  | spoiled : Spoils e text → Cut e text

/-- What is read as an expression is no such text. -/
theorem Cut.not_derives {text : String} (h : Cut e text) :
    ¬ Derives (.expression .sequence e.reread) (kindsOf text.toList) := by
  intro hderives
  cases h with
  | @misread kinds hscanned hmisreads =>
    have hkinds : kindsOf text.toList = kinds := by simpa using hscanned.scans [] (by simp)
    exact hmisreads.wrong (hkinds ▸ hderives)
  | spoiled h =>
    have hend := h [] (by simp) (by rintro c more heq; cases heq)
    rw [List.append_nil, kindsOf_nil, weightOf_nil] at hend
    rcases hend with hinvalid | hlight
    · exact hderives.valid hinvalid
    · have hle := hderives.weight_le
      rw [Phrase.weight, weight_reread] at hle
      omega

/-! ### Tokens of places -/

theorem Place.weight (h : e.Place needed x before after kb ka) :
    e.weight = weightOf kb + x.weight + weightOf ka := by
  rw [Expression.weight, h.kinds, weightOf_append, weightOf_append,
    weightOf_parenthesizeKindsIf, ← Expression.weight, add_assoc]

/-- What may stand for an operand makes what may stand for the expression. -/
theorem Place.matches (h : e.Place needed x before after kb ka) (hfits : e.Fits .written)
    (hxs : Matches x.reread xs) : Matches e.reread (kb ++ (xs ++ ka)) := by
  refine ⟨by simp [hxs.nonempty], ?_, ?_⟩
  · rw [weight_reread, h.weight, weightOf_append, weightOf_append, hxs.weight, weight_reread,
      add_assoc]
  · have hwhole := (matches_kinds hfits).balanced
    rw [h.kinds] at hwhole
    exact (Balanced.append_append_iff (matches_parenthesizeKindsIf h.fits needed).balanced
      hxs.balanced).1 hwhole

/-- An operand that is not read as itself makes an expression that is not. -/
theorem Place.misreads (h : e.Place needed x before after kb ka) (hfits : e.Fits .written)
    (hts : Misreads x ts) : Misreads e (kb ++ (parenthesizeKindsIf needed ts ++ ka)) := by
  have hmatches : Matches x.reread (parenthesizeKindsIf needed ts) := by
    cases needed with
    | false => exact hts.matched
    | true =>
      refine ⟨by simp [parenthesizeKindsIf], ?_, hts.matched.balanced.enclosed rfl⟩
      rw [weightOf_parenthesizeKindsIf, hts.matched.weight]
  refine ⟨h.matches hfits hmatches, fun hderives => ?_⟩
  obtain ⟨l, hoperand, -⟩ := h.keeps _ hmatches
    (fun hneeded _ => by simp [hneeded, parenthesizeKindsIf]) hderives
  cases needed with
  | false => exact hts.wrong (hoperand.loosen (by cases l <;> decide))
  | true => exact hts.wrong (hoperand.of_parens hts.matched.balanced)

/-- An operand without the parentheses that it needs is not read as it was. -/
theorem Place.misreads_bare (h : e.Place true x before after kb ka) (hfits : e.Fits .written)
    (hspares : sparesParens e x = false) : Misreads e (kb ++ (x.kinds ++ ka)) := by
  have hmatches := matches_kinds h.fits
  refine ⟨h.matches hfits hmatches, fun hderives => ?_⟩
  obtain ⟨l, -, hbare⟩ := h.keeps _ hmatches (fun _ hspared => by simp [hspares] at hspared)
    hderives
  exact hbare rfl hspares rfl

/-- Two signs that have run together are not read as the first of them. -/
theorem Misreads.fused {c : Char} {sign double : Punctuator} {operator : UnaryOperator} {n : ℕ}
    (hdouble : Doubles c sign double)
    (h : Matches (unary operator x).reread (.punctuator sign :: (signKinds sign double n ++ us)))
    (hn : n ≠ 0) : Misreads (unary operator x) (signKinds sign double (n + 1) ++ us) := by
  have hsign := weightOf_signKinds hdouble
  have hweight : (TokenKind.punctuator sign).weight = 1 := hsign 1
  have hplain : (TokenKind.punctuator sign).isPlain = true := by cases hdouble <;> rfl
  obtain ⟨m, rfl⟩ := Nat.exists_eq_succ_of_ne_zero hn
  refine ⟨⟨by simp [signKinds], ?_, ?_⟩, fun hderives => ?_⟩
  · rw [← h.weight]
    simp only [weightOf_append, weightOf_cons, hsign, hweight]
    omega
  · have hbalanced := (balanced_cons_iff hplain).1 h.balanced
    rw [(balanced_signKinds hdouble _).append_iff] at hbalanced
    exact (balanced_signKinds hdouble _).append hbalanced
  · rw [reread] at hderives
    have hfirst := (hderives.of_unary (by cases hdouble <;> decide)).1
    cases hdouble <;> cases hfirst

/-! ### Texts of places -/

/-- What stands in the place of an operand, with what is written round it. -/
theorem Place.cut {text : String} {f : Char → Bool} (h : e.Place needed x before after kb ka)
    (hleads : ∀ c, c = '+' ∨ c = '-' → Leads c text.toList) (hscanned : Scanned f text.toList xs)
    (hends : ∀ c ∈ after.toList.head?, f c = true)
    (hloose : ∀ c, endsOperand false c = true → f c = true)
    (hmisreads : Misreads e (kb ++ (xs ++ ka))) : Cut e (before ++ text ++ after) := by
  have hright : Scanned (endsOperand e.isBeforeDot) (text.toList ++ after.toList) (xs ++ ka) := by
    refine hscanned.append h.scanned hends fun hnil c hc => hloose c ?_
    rwa [h.loose (String.toList_injective hnil)] at hc
  have hhead := ((hleads '+' (.inl rfl)).append after.toList).ne_equal (by decide)
  have htext : (before ++ text ++ after).toList
      = before.toList ++ (text.toList ++ after.toList) := by simp
  cases h.lead with
  | apart hbefore =>
    refine .misread ?_ hmisreads
    rw [htext]
    refine hbefore.append hright (fun c hc => by simpa using hhead c hc) fun hnil => ?_
    obtain ⟨n, first, more, htext, -⟩ := hleads '+' (.inl rfl)
    simp [htext] at hnil
  | @sign c sign double operator hdouble he hbefore hfirst =>
    have hc : c = '+' ∨ c = '-' := by cases hdouble <;> simp
    obtain ⟨n, us, hts, hfused⟩ := hright.after_sign hdouble ((hleads c hc).append _)
    have hscanned' : Scanned (endsOperand e.isBeforeDot) (before ++ text ++ after).toList
        (signKinds sign double (n + 1) ++ us) := by
      rw [htext, hbefore]
      exact hfused
    refine .misread hscanned' ?_
    rw [hts] at hmisreads
    by_cases hn : n = 0
    · subst hn
      exact hmisreads
    · subst he
      exact .fused hdouble hmisreads.matched hn

/-- What stands before an operand adds its tokens to those of what follows it, or runs together with
the first of them. -/
theorem Place.kindsOf_before {text : List Char} (h : e.Place needed x before after kb ka)
    (hleads : ∀ c, c = '+' ∨ c = '-' → Leads c text) :
    (.invalid ∈ kindsOf text → .invalid ∈ kindsOf (before.toList ++ text))
      ∧ weightOf (kindsOf (before.toList ++ text)) = weightOf kb + weightOf (kindsOf text) := by
  have hhead := (hleads '+' (.inl rfl)).ne_equal (by decide)
  cases h.lead with
  | apart hbefore =>
    have hkinds := hbefore.scans text fun c hc => by simpa using hhead c hc
    rw [hkinds, weightOf_append]
    exact ⟨List.mem_append_right kb, rfl⟩
  | @sign c sign double operator hdouble _ htext _ =>
    have hc : c = '+' ∨ c = '-' := by cases hdouble <;> simp
    have hweight : weightOf [.punctuator sign] = 1 := weightOf_signKinds hdouble 1
    rw [htext, List.singleton_append, weightOf_kindsOf_cons hdouble (hleads c hc), hweight]
    exact ⟨invalid_mem_kindsOf_cons hdouble (hleads c hc), rfl⟩

/-- A text that is not read as an operand is not read as one in parentheses either. -/
theorem Spoils.parenthesizeIf {text : String} (h : Spoils x text) (needed : Bool)
    (more : List Char)
    (hends : needed = false → ∀ c ∈ more.head?, endsOperand x.isBeforeDot c = true)
    (hcalm : needed = false → Calm more) :
    .invalid ∈ kindsOf ((parenthesizeIf needed text).toList ++ more)
      ∨ weightOf (kindsOf ((parenthesizeIf needed text).toList ++ more))
        < x.weight + weightOf (kindsOf more) := by
  cases needed with
  | false => exact h more (hends rfl) (hcalm rfl)
  | true =>
    have hparen : ∀ {p : Punctuator}, p ∈ Punctuator.closed → ∀ rest,
        kindsOf (p.text.toList ++ rest) = .punctuator p :: kindsOf rest :=
      fun hp rest => (scanned_closed hp).scans rest fun _ _ => rfl
    have hopen := hparen (p := .leftParen) (by simp [Punctuator.closed])
    have hclose := hparen (p := .rightParen) (by simp [Punctuator.closed])
    have hends' : ∀ c ∈ (')' :: more).head?, endsOperand x.isBeforeDot c = true := by
      intro c hc
      obtain rfl : ')' = c := Option.some.inj hc
      cases x.isBeforeDot <;> decide
    have hcalm' : Calm (')' :: more) := by
      intro c tail heq hsign
      obtain rfl : ')' = c := (List.cons.inj heq).1
      simp at hsign
    have hkinds : kindsOf ((ScriptSteps.parenthesizeIf true text).toList ++ more)
        = .punctuator .leftParen :: kindsOf (text.toList ++ ')' :: more) := by
      rw [← hopen]
      simp [ScriptSteps.parenthesizeIf, Punctuator.text]
    have hmore : kindsOf (')' :: more) = .punctuator .rightParen :: kindsOf more := hclose more
    rw [hkinds]
    rcases h _ hends' hcalm' with hinvalid | hlight
    · exact .inl (List.mem_cons_of_mem _ hinvalid)
    · refine .inr ?_
      simpa [hmore] using hlight

/-- What is written round a text that is not read as an operand does not help. -/
theorem Place.spoils {text : String} (h : e.Place needed x before after kb ka)
    (hleads : ∀ c, c = '+' ∨ c = '-' → Leads c text.toList) (hspoils : Spoils x text) :
    Spoils e (before ++ parenthesizeIf needed text ++ after) := by
  intro rest hrest hcalm
  have hafter := h.scanned.scans rest hrest
  have hinner := hspoils.parenthesizeIf needed (after.toList ++ rest)
    (fun hneeded c hc => ?_) (fun _ => ?_)
  · have hbefore := h.kindsOf_before
      fun c hc => (leads_parenthesizeIf hc needed (hleads c hc)).append (after.toList ++ rest)
    have htext : (before ++ parenthesizeIf needed text ++ after).toList ++ rest = before.toList
        ++ ((parenthesizeIf needed text).toList ++ (after.toList ++ rest)) := by simp
    rw [htext, hbefore.2, h.weight]
    rw [hafter, weightOf_append] at hinner
    rcases hinner with hinvalid | hlight
    · exact .inl (hbefore.1 hinvalid)
    · refine .inr ?_
      omega
  · cases hchars : after.toList with
    | nil =>
      rw [hchars, List.nil_append] at hc
      have hends := hrest c hc
      rw [h.loose (String.toList_injective hchars)] at hends
      exact endsOperand_of_endsOperand_false hends
    | cons d tail =>
      have hends := h.ends c
      rw [hchars] at hc hends
      rw [hneeded] at hends
      exact hends hc
  · by_cases hempty : after = ""
    · subst hempty
      exact hcalm
    · exact h.calm hempty rest

/-! ### Objects of accesses -/

/-- The tokens round the object of an access by name. -/
theorem Place.kinds_member {property : Identifier}
    (h : (member x property).Place needed x "" ("." ++ property.name) kb ka)
    (hname : isName property.name = true) :
    kb = [] ∧ ka = [.punctuator .dot, .identifier property.name] := by
  have hdot : Scanned anything ['.'] [.punctuator .dot] :=
    scanned_closed (p := .dot) (by simp [Punctuator.closed])
  have hkinds := (hdot.append_of_anything (scanned_name hname)).scans [] (by simp)
  have hafter := h.scanned.scans [] (by simp)
  refine ⟨?_, ?_⟩
  · cases h.lead with
    | apart hbefore => simpa using (hbefore.scans [] (by simp)).symm
    | sign _ _ htext => cases htext
  · have hsame : ("." ++ property.name).toList = ['.'] ++ property.name.toList := by simp
    rw [hsame, hkinds] at hafter
    simpa using hafter.symm

/-- The object of an access without the parentheses that it needs. -/
theorem cut_member {property : Identifier} (hfits : (member x property).Fits .written)
    (h : (member x property).Place true x "" ("." ++ property.name) kb ka)
    (hspares : sparesParens (member x property) x = false) :
    Cut (member x property) ("" ++ x.render ++ ("." ++ property.name)) := by
  have hbare := h.misreads_bare hfits hspares
  have hleads : ∀ c, c = '+' ∨ c = '-' → Leads c x.render.toList :=
    fun c hc => leads_render hc x hfits.1
  cases dotted x hfits.1 with
  | apart hscanned =>
    refine h.cut hleads hscanned (fun c hc => ?_) (fun c => endsOperand_of_endsOperand_false) hbare
    obtain rfl : '.' = c := by simpa using hc
    decide
  | @digits front digits kinds hrender hdigits hkinds hfront =>
    obtain ⟨rfl, rfl⟩ := h.kinds_member hfits.2.1
    have htext : ∀ rest, kindsOf (("" ++ x.render ++ ("." ++ property.name)).toList ++ rest)
        = kinds ++ kindsOf (digits ++ '.' :: (property.name.toList ++ rest)) := by
      intro rest
      obtain ⟨digit, tail, rfl⟩ := List.exists_cons_of_ne_nil hdigits.1
      rw [← hfront.scans]
      · simp [hrender]
      · intro c hc
        obtain rfl : digit = c := Option.some.inj hc
        exact hdigits.2 digit List.mem_cons_self
    have hstops : ∀ {rest : List Char}, (∀ c ∈ rest.head?,
        endsOperand (member x property).isBeforeDot c = true) → Stops Text.isNamePart rest := by
      intro rest hrest c hc
      have hends := hrest c hc
      simp only [endsOperand, Bool.and_eq_true, Bool.not_eq_true'] at hends
      exact hends.1
    by_cases hmark : ∀ c ∈ property.name.toList.head?, c ≠ 'e' ∧ c ≠ 'E'
    · refine .misread ⟨?_, fun rest hrest => ?_⟩ hbare
      · intro c hc
        rw [String.toList_append, String.toList_append, List.mem_append] at hc
        exact hc.elim ((x.scanned_render hfits.1).oneLine c) (h.scanned.oneLine c)
      · rw [htext, kindsOf_digits_dot hdigits hfits.2.1 hmark (hstops hrest), hkinds]
        simp
    · refine .spoiled fun rest hrest hcalm => ?_
      have hnumber : 1 ≤ weightOf (kindsOf digits) := by
        have hplain := kindsOf_digits hdigits [] (by simp) rfl
        rw [List.append_nil] at hplain
        rw [hplain, weightOf_cons, DecimalLiteral.weight_kind]
        omega
      have hweight : (member x property).weight
          = weightOf kinds + weightOf (kindsOf digits) + 2 := by
        rw [weight_member, Expression.weight, hkinds, weightOf_append]
      rw [htext, weightOf_append, hweight]
      rcases spoiled_digits_dot hdigits hfits.2.1 hmark (hstops hrest) hcalm with hinvalid | hlight
      · exact .inl (List.mem_append_right kinds hinvalid)
      · refine .inr ?_
        omega

/-! ### Pairs of parentheses -/

/-- An operand without the parentheses that it needs. -/
theorem Operand.cut (h : Operand e true x before after) (hfits : e.Fits .written)
    (hspares : sparesParens e x = false) : Cut e (before ++ x.render ++ after) := by
  obtain ⟨kb, ka, hplace⟩ := h.place hfits
  by_cases hdot : after.toList.head? = some '.'
  · obtain ⟨property, rfl, rfl, rfl⟩ := hplace.dot hdot
    exact cut_member hfits hplace hspares
  · refine hplace.cut (fun c hc => leads_render hc x hplace.fits) (x.scanned_render hplace.fits)
      (fun c hc => ?_) (fun c => endsOperand_of_endsOperand_false)
      (hplace.misreads_bare hfits hspares)
    have hends := hplace.ends c hc
    have hne : c ≠ '.' := by
      rintro rfl
      exact hdot hc
    simp only [Bool.true_or, endsOperand, Bool.and_eq_true] at hends ⊢
    exact ⟨hends.1, by simp [hne]⟩

/-- What is in parentheses inside a well-formed expression is well-formed. -/
theorem Groups.fits (h : Groups e before x after) (hfits : e.Fits .written) : x.Fits .written := by
  induction h with
  | operand h =>
    obtain ⟨kb, ka, hplace⟩ := h.place hfits
    exact hplace.fits
  | inside h _ ih =>
    obtain ⟨kb, ka, hplace⟩ := h.place hfits
    exact ih hplace.fits

/-- The text of an expression without a pair of parentheses starts with signs where that with it
does, or where what was in it does. -/
theorem Groups.leads {c : Char} (h : Groups e before x after) (hfits : e.Fits .written)
    (hc : c = '+' ∨ c = '-') : Leads c (before ++ x.render ++ after).toList := by
  have hwhole := leads_render hc e hfits
  have hoperand := leads_render hc x (h.fits hfits)
  have hparen : '(' ≠ c := by rcases hc with rfl | rfl <;> decide
  rw [h.render] at hwhole
  simp only [String.toList_append, List.append_assoc] at hwhole ⊢
  exact Leads.replace hwhole hparen (hoperand.append _)

/-- The text of an expression without a pair of parentheses that it needs is not read as it. -/
theorem Groups.cut (h : Groups e before x after) (hfits : e.Fits .written) :
    Cut e (before ++ x.render ++ after) := by
  induction h with
  | operand h hspares => exact h.cut hfits hspares
  | @inside e needed part before after before' operand after' h hpart ih =>
    obtain ⟨kb, ka, hplace⟩ := h.place hfits
    have hleads : ∀ c, c = '+' ∨ c = '-' →
        Leads c (before' ++ operand.render ++ after').toList :=
      fun c hc => hpart.leads hplace.fits hc
    have htext : before ++ (if needed then "(" else "") ++ before' ++ operand.render
        ++ (after' ++ (if needed then ")" else "") ++ after)
        = before ++ parenthesizeIf needed (before' ++ operand.render ++ after') ++ after := by
      cases needed <;> simp [parenthesizeIf, String.append_assoc]
    rw [htext]
    cases ih hplace.fits with
    | misread hscanned hmisreads =>
      refine hplace.cut (fun c hc => leads_parenthesizeIf hc needed (hleads c hc))
        (scanned_parenthesizeIf hscanned) hplace.ends
        (fun c => endsOperand_of_endsOperand_false) (hplace.misreads hfits hmisreads)
    | spoiled hspoils => exact .spoiled (hplace.spoils hleads hspoils)

end Expression

open Grammar in
/-- Parentheses are written only where they are needed: the text of an expression without one pair
of them is not read, to its end, as what the whole text is read as. This is so of all pairs but
those round `&&` and `||` right under `??`, round a number before an access, and round a `new` that
is the callee of `new`. -/
theorem parseExpression_ungrouped {source : String} {e : Expression}
    (h : parseExpression source = .ok e) {before after : String} {operand : Expression}
    (hgroups : e.Groups before operand after) :
    Renderer.canonical.expression e = before ++ "(" ++ operand.render ++ ")" ++ after
      ∧ ∃ tree, parseExpression (Renderer.canonical.expression e) = .ok tree
        ∧ ¬(parseExpression (before ++ operand.render ++ after) = .ok tree
          ∧ (expression (.ofSource
              (before ++ operand.render ++ after))).cursor.terminals = []) := by
  have hfits := fits_written_of_parseExpression h
  refine ⟨hgroups.render, e.reread, (e.parse_render hfits).1, ?_⟩
  rintro ⟨hparse, hall⟩
  exact (hgroups.cut hfits).not_derives (derives_of_parseExpression hparse hall)

/-- A sign before a sum that starts with the same sign. -/
theorem parseExpression_ungrouped_sign :
    let a : Expression := .identifier ⟨"a", 1⟩
    let sum : Expression := .binary .add (.unary .minus a) (.identifier ⟨"b", 1⟩)
    let e : Expression := .unary .minus sum
    parseExpression "-(-a + b)" = .ok e ∧ e.Groups "-" sum ""
      ∧ ¬(parseExpression "--a + b" = .ok e
        ∧ (Grammar.expression (.ofSource "--a + b")).cursor.terminals = []) := by
  intro a sum e
  have hsum : sum.render = "-a + b" := by decide +kernel
  have hbefore : UnaryOperator.minus.text ++ (if spacesOperand .minus
      (parenthesizeIf (decide (sum.level < .unary)) sum.render) then " " else "") = "-" := by
    decide +kernel
  have hgroups : e.Groups "-" sum "" := by
    rw [← hbefore]
    exact .operand .argument rfl
  have hname : ∀ name, isName name = true → Identifier.Fits .written ⟨name, 1⟩ :=
    fun _ h => ⟨h, trivial⟩
  have hfits : e.Fits .written := ⟨hname "a" (by decide), hname "b" (by decide)⟩
  have hrender : e.render = "-(-a + b)" := by
    have htext := hgroups.render
    rw [hsum] at htext
    exact htext
  have hparse : parseExpression "-(-a + b)" = .ok e := hrender ▸ (e.parse_render hfits).1
  obtain ⟨-, tree, htree, hcut⟩ := parseExpression_ungrouped hparse hgroups
  have htext : Renderer.canonical.expression e = "-(-a + b)" := hrender
  rw [htext, hparse] at htree
  obtain rfl := Except.ok.inj htree
  rw [hsum] at hcut
  exact ⟨hparse, hgroups, hcut⟩

end ScriptSteps
