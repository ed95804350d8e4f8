import Mathlib
import ScriptSteps.Proofs.Grammar.Inversion
import ScriptSteps.Proofs.Token.Breaks

/-!
# Tokens that run together

Two things go wrong where a pair of parentheses is taken out of a text. A sign before it may run
together with the signs that the text in it starts with: a row of the same sign is cut into pairs
from its start. And a number at its end may take in the dot after it, with what follows the dot, if
that starts as an exponent does.

## Main definitions

* `Doubles`: the signs that come in pairs
* `Leads`: the texts that start with a row of a sign, or with something else

## Main statements

* `Scanned.after_sign`: a sign before a text that may start with that sign
* `kindsOf_digits_dot`: digits before a dot that they leave alone
* `spoiled_digits_dot`: digits before a dot that they take in
-/

namespace ScriptSteps

/-! ## Signs -/

/-- A character that is a sign, that sign, and the one that two of them make. -/
inductive Doubles : Char → Punctuator → Punctuator → Prop
  | plus : Doubles '+' .plus .plusPlus
  | minus : Doubles '-' .minus .minusMinus

/-- The tokens of a number of equal signs in a row. -/
def signKinds (sign double : Punctuator) : ℕ → List TokenKind
  | 0 => []
  | 1 => [.punctuator sign]
  | n + 2 => .punctuator double :: signKinds sign double n

/-- The texts that start with some number of signs, and then with another character that does not
go on with them. -/
def Leads (c : Char) (text : List Char) : Prop :=
  ∃ n first more, text = List.replicate n c ++ first :: more ∧ first ≠ c ∧ first ≠ '='

theorem Leads.append {c : Char} {text : List Char} (h : Leads c text) (more : List Char) :
    Leads c (text ++ more) := by
  obtain ⟨n, first, tail, rfl, hfirst, hequal⟩ := h
  exact ⟨n, first, tail ++ more, by simp, hfirst, hequal⟩

theorem Leads.cons {c : Char} {text : List Char} (h : Leads c text) : Leads c (c :: text) := by
  obtain ⟨n, first, tail, rfl, hfirst, hequal⟩ := h
  exact ⟨n + 1, first, tail, by simp [List.replicate_succ], hfirst, hequal⟩

theorem leads_cons {c first : Char} (hfirst : first ≠ c) (hequal : first ≠ '=')
    (more : List Char) : Leads c (first :: more) := ⟨0, first, more, rfl, hfirst, hequal⟩

theorem Leads.ne_equal {c : Char} {text : List Char} (h : Leads c text) (hc : c ≠ '=') :
    ∀ d ∈ text.head?, d ≠ '=' := by
  obtain ⟨n, first, more, rfl, -, hequal⟩ := h
  intro d hd
  cases n with
  | zero =>
    obtain rfl : first = d := Option.some.inj hd
    exact hequal
  | succ n =>
    obtain rfl : c = d := Option.some.inj hd
    exact hc

/-- Another text in the place of one that starts otherwise. -/
theorem Leads.replace {c first : Char} {front more text : List Char}
    (h : Leads c (front ++ first :: more)) (hfirst : first ≠ c) (htext : Leads c text) :
    Leads c (front ++ text) := by
  obtain ⟨n, other, tail, heq, hother, hequal⟩ := h
  induction front generalizing n with
  | nil => exact htext
  | cons d front ih =>
    cases n with
    | zero =>
      obtain ⟨rfl, -⟩ := List.cons.inj heq
      exact leads_cons hother hequal _
    | succ n =>
      rw [List.replicate_succ, List.cons_append, List.cons_append] at heq
      obtain ⟨rfl, heq⟩ := List.cons.inj heq
      exact (ih n heq).cons

section Signs

variable {c : Char} {sign double : Punctuator} {text : List Char} {ts : List TokenKind}
  {f : Char → Bool}

theorem weightOf_signKinds (h : Doubles c sign double) (n : ℕ) :
    weightOf (signKinds sign double n) = n := by
  have hsign : (TokenKind.punctuator sign).weight = 1 := by cases h <;> rfl
  have hdouble : (TokenKind.punctuator double).weight = 2 := by cases h <;> rfl
  induction n using Nat.twoStepInduction with
  | zero => rfl
  | one => simp [signKinds, hsign]
  | more n ih =>
    rw [signKinds, weightOf_cons, ih, hdouble]
    omega

theorem balanced_signKinds (h : Doubles c sign double) (n : ℕ) :
    Balanced (signKinds sign double n) := by
  have hsign : (TokenKind.punctuator sign).isPlain = true := by cases h <;> rfl
  have hdouble : (TokenKind.punctuator double).isPlain = true := by cases h <;> rfl
  induction n using Nat.twoStepInduction with
  | zero => exact balanced_nil
  | one => exact balanced_plain hsign
  | more n ih => exact (balanced_cons_iff hdouble).2 ih

theorem invalid_notMem_signKinds (sign double : Punctuator) (n : ℕ) :
    .invalid ∉ signKinds sign double n := by
  induction n using Nat.twoStepInduction <;> simp_all [signKinds]

/-- A row of signs is cut into pairs from its start. -/
theorem kindsOf_replicate (h : Doubles c sign double) {first : Char} (hfirst : first ≠ c)
    (hequal : first ≠ '=') (more : List Char) (n : ℕ) :
    kindsOf (List.replicate n c ++ first :: more)
      = signKinds sign double n ++ kindsOf (first :: more) := by
  have hsign : sign.text.toList = [c] ∧ sign.continuations = [c, '='] := by
    cases h <;> decide
  have hdouble : double.text.toList = [c, c] ∧ double.continuations = [] := by
    cases h <;> decide
  induction n using Nat.twoStepInduction with
  | zero => rfl
  | one =>
    have hone : kindsOf (sign.text.toList ++ first :: more) = .punctuator sign
        :: kindsOf (first :: more) := kindsOf_sign sign (by simp [hsign.2, hfirst, hequal])
    simpa [hsign.1, signKinds] using hone
  | more n ih =>
    have htwo : kindsOf (double.text.toList ++ (List.replicate n c ++ first :: more))
        = .punctuator double :: kindsOf (List.replicate n c ++ first :: more) :=
      kindsOf_sign double (by simp [hdouble.2])
    rw [ih] at htwo
    simpa [hdouble.1, signKinds, List.replicate_succ] using htwo

/-- A sign before a text that may start with that sign. -/
theorem Scanned.after_sign (hdouble : Doubles c sign double) (hleads : Leads c text)
    (h : Scanned f text ts) :
    ∃ n us, ts = signKinds sign double n ++ us
      ∧ Scanned f (c :: text) (signKinds sign double (n + 1) ++ us) := by
  obtain ⟨n, first, more, rfl, hfirst, hequal⟩ := hleads
  have hts : ts = signKinds sign double n ++ kindsOf (first :: more) := by
    have hend := h.scans [] (by simp)
    rw [List.append_nil, kindsOf_nil, List.append_nil,
      kindsOf_replicate hdouble hfirst hequal] at hend
    exact hend.symm
  refine ⟨n, kindsOf (first :: more), hts, fun d hd => ?_, fun rest hrest => ?_⟩
  · rcases List.mem_cons.1 hd with rfl | hd
    · cases hdouble <;> decide
    · exact h.oneLine d hd
  · have hscans := h.scans rest hrest
    rw [hts, List.append_assoc, List.append_assoc, List.cons_append,
      kindsOf_replicate hdouble hfirst hequal, List.append_cancel_left_eq] at hscans
    have hmore := kindsOf_replicate hdouble hfirst hequal (more ++ rest) (n + 1)
    rw [hscans] at hmore
    simpa [List.replicate_succ] using hmore

/-- A sign adds its weight to that of a text, whether it runs together with others or not. -/
theorem weightOf_kindsOf_cons (hdouble : Doubles c sign double) (hleads : Leads c text) :
    weightOf (kindsOf (c :: text)) = 1 + weightOf (kindsOf text) := by
  obtain ⟨n, first, more, rfl, hfirst, hequal⟩ := hleads
  have hmore := kindsOf_replicate hdouble hfirst hequal more (n + 1)
  rw [List.replicate_succ, List.cons_append] at hmore
  rw [hmore, kindsOf_replicate hdouble hfirst hequal, weightOf_append, weightOf_append,
    weightOf_signKinds hdouble, weightOf_signKinds hdouble]
  omega

/-- A sign makes no token of a text valid. -/
theorem invalid_mem_kindsOf_cons (hdouble : Doubles c sign double) (hleads : Leads c text)
    (h : .invalid ∈ kindsOf text) : .invalid ∈ kindsOf (c :: text) := by
  obtain ⟨n, first, more, rfl, hfirst, hequal⟩ := hleads
  have hmore := kindsOf_replicate hdouble hfirst hequal more (n + 1)
  rw [List.replicate_succ, List.cons_append] at hmore
  rw [kindsOf_replicate hdouble hfirst hequal] at h
  rw [hmore]
  exact List.mem_append_right _
    ((List.mem_append.1 h).resolve_left (invalid_notMem_signKinds sign double n))

end Signs

/-! ## Numbers -/

/-- The token of a decimal literal. -/
def DecimalLiteral.kind (n : DecimalLiteral) : TokenKind :=
  match n.value? with
  | some value => .number (.ofDecimal value)
  | none => .invalid

theorem DecimalLiteral.weight_kind (n : DecimalLiteral) : n.kind.weight = 1 := by
  unfold kind
  split <;> rfl

/-- The texts that do not go on with an exponent after its mark: no digits stand after a sign at
their start. -/
def Calm (rest : List Char) : Prop :=
  ∀ c more, rest = c :: more → c = '+' ∨ c = '-' → Stops isDigitOrGap more

section Numbers

variable {digits rest more : List Char} {name : String}

theorem ofChars_digits (h : IsNumeral digits) (hmore : ∀ c ∈ more.head?, c = '.') :
    DecimalLiteral.ofChars (digits ++ more) = ⟨digits, (DecimalLiteral.splitFraction more).1,
      DecimalLiteral.exponentAt? (DecimalLiteral.splitFraction more).2⟩ := by
  have hstops : Stops isDigitOrGap more := by
    intro c hc
    rw [hmore c hc]
    decide
  rw [DecimalLiteral.ofChars, takeWhile_append_of_stops h.isDigitOrGap hstops,
    dropWhile_append_of_stops h.isDigitOrGap hstops]

/-- Digits start a decimal literal. -/
theorem lexeme_digits {first : Char} {tail : List Char} (h : IsNumeral (first :: tail))
    (hmore : ∀ c ∈ more.head?, c = '.') :
    triviaLength (first :: (tail ++ more)) = 0
      ∧ lexeme first (tail ++ more) = decimalLexeme first (tail ++ more) := by
  have hdigit : first.isDigit = true := h.2 first List.mem_cons_self
  obtain ⟨htrivia, hquote⟩ :=
    triviaLength_of_isNamePart (Text.isNamePart_of_isDigit hdigit) (tail ++ more)
  have hradix : ∀ c ∈ (tail ++ more).head?, radixOf? c = none := by
    intro c hc
    apply DecimalLiteral.radixOf?_eq_none
    cases tail with
    | nil => exact .inr (.inl (hmore c hc))
    | cons d tail =>
      obtain rfl : d = c := Option.some.inj hc
      exact .inl (h.2 d (by simp))
  refine ⟨htrivia, ?_⟩
  rw [lexeme, if_neg hquote, if_pos hdigit]
  unfold numberLexeme
  split
  · next c ds htail =>
    rw [htail] at hradix ⊢
    rw [hradix c rfl]
  · rfl

/-- Digits are read with as much of what follows them as the literal that they start has. -/
theorem kindsOf_digits (h : IsNumeral digits) (more : List Char)
    (hmore : ∀ c ∈ more.head?, c = '.') {n : DecimalLiteral}
    (hn : DecimalLiteral.ofChars (digits ++ more) = n) :
    kindsOf (digits ++ more) = n.kind :: kindsOf (more.drop (n.length - digits.length)) := by
  obtain ⟨first, tail, rfl⟩ := List.exists_cons_of_ne_nil h.1
  obtain ⟨htrivia, hlexeme⟩ := lexeme_digits h hmore
  have hparts := hn ▸ ofChars_digits h hmore
  have hlength : (first :: tail).length ≤ n.length := by
    simp only [hparts, DecimalLiteral.length]
    omega
  rw [List.cons_append, kindsOf_lexeme htrivia, hlexeme, decimalLexeme, ← List.cons_append, hn]
  have hdrop : (tail ++ more).drop (n.length - 1)
      = more.drop (n.length - (first :: tail).length) := by
    rw [List.drop_append, List.drop_eq_nil_of_le (by simp at hlength; omega), List.nil_append]
    congr 1
    simp
    omega
  unfold DecimalLiteral.kind
  split <;> simp_all

/-- A dot after digits is left alone if what follows it does not look like an exponent. -/
theorem kindsOf_digits_dot (h : IsNumeral digits) (hname : isName name = true)
    (hmark : ∀ c ∈ name.toList.head?, c ≠ 'e' ∧ c ≠ 'E') (hrest : Stops Text.isNamePart rest) :
    kindsOf (digits ++ '.' :: (name.toList ++ rest))
      = kindsOf digits ++ .punctuator .dot :: .identifier name :: kindsOf rest := by
  have hdot : kindsOf ('.' :: (name.toList ++ rest))
      = .punctuator .dot :: .identifier name :: kindsOf rest := by
    have hscans := (scanned_closed (p := .dot) (by simp [Punctuator.closed])).scans
      (name.toList ++ rest) fun _ _ => rfl
    rw [kindsOf_name hname hrest] at hscans
    exact hscans
  have hsplit : DecimalLiteral.splitFraction ('.' :: (name.toList ++ rest))
      = (none, '.' :: (name.toList ++ rest)) := by
    simp only [isName, Bool.and_eq_true] at hname
    cases hchars : name.toList with
    | nil => simp [hchars, isWord] at hname
    | cons c more =>
      have hstart : Text.isNameStart c = true := by
        simp only [hchars, isWord, Bool.and_eq_true] at hname
        exact hname.1.1
      have hc := hmark c (by simp [hchars])
      simp [DecimalLiteral.splitFraction, hstart, hc]
  have hplain := kindsOf_digits h [] (by simp) rfl
  have hwhole := kindsOf_digits h ('.' :: (name.toList ++ rest)) (by simp) rfl
  rw [ofChars_digits h (by simp)] at hplain hwhole
  rw [hsplit] at hwhole
  rw [List.append_nil] at hplain
  rw [hwhole, ← hdot, hplain]
  simp [DecimalLiteral.splitFraction, DecimalLiteral.exponentAt?, DecimalLiteral.length]

/-- What is left of a name after an exponent is a single token, if it is one. -/
theorem kindsOf_nameParts {parts : List Char} (hparts : ∀ c ∈ parts, Text.isNamePart c = true)
    (hfirst : ∀ c ∈ parts.head?, c.isDigit = false) (hrest : Stops Text.isNamePart rest) :
    .invalid ∈ kindsOf (parts ++ rest)
      ∨ weightOf (kindsOf (parts ++ rest)) ≤ 1 + weightOf (kindsOf rest) := by
  cases parts with
  | nil => exact .inr (by simp)
  | cons first tail =>
    have hpart := hparts first List.mem_cons_self
    by_cases hstart : Text.isNameStart first = true
    · have hword : isWord (first :: tail) = true := by
        simp only [isWord, hstart, Bool.true_and, List.all_eq_true]
        exact fun c hc => hparts c (List.mem_cons_of_mem first hc)
      have hweight : ∀ word, (wordKind word).weight = 1 := by
        intro word
        unfold wordKind
        split <;> rfl
      refine .inr ?_
      rw [kindsOf_word hword hrest, weightOf_cons, hweight]
    · -- A character that only goes on with names stands for nothing at the start of a token.
      have hsign : punctuatorAt? (first :: (tail ++ rest)) = none := by
        refine Option.eq_none_iff_forall_ne_some.2 fun p hp => ?_
        have hsigns : (Punctuator.all.all fun q =>
            q.text.toList.head?.all fun c => !Text.isNamePart c) = true := by decide
        obtain ⟨more, hmore⟩ := prefix_of_punctuatorAt? hp
        obtain ⟨c, chars, htext⟩ := List.exists_cons_of_ne_nil p.toList_text_ne_nil
        have hp := List.all_eq_true.1 hsigns p p.mem_all
        rw [htext, List.cons_append] at hmore
        rw [htext, (List.cons.inj hmore).1] at hp
        simp [hpart] at hp
      obtain ⟨htrivia, hquote⟩ := triviaLength_of_isNamePart hpart (tail ++ rest)
      refine .inl ?_
      rw [List.cons_append, kindsOf_lexeme htrivia, lexeme, if_neg hquote,
        if_neg (by simp [hfirst first rfl]), if_neg hstart, signLexeme, hsign]
      exact List.mem_cons_self

/-- What is left of a name after the digits in it, likewise. -/
theorem kindsOf_dropWhile_digits {parts : List Char}
    (hparts : ∀ c ∈ parts, Text.isNamePart c = true) (hrest : Stops Text.isNamePart rest) :
    .invalid ∈ kindsOf (parts.dropWhile isDigitOrGap ++ rest)
      ∨ weightOf (kindsOf (parts.dropWhile isDigitOrGap ++ rest))
        ≤ 1 + weightOf (kindsOf rest) := by
  refine kindsOf_nameParts (fun c hc => hparts c ((List.dropWhile_suffix _).subset hc))
    (fun c hc => ?_) hrest
  have hstop := List.head?_dropWhile_not isDigitOrGap parts
  rw [hc] at hstop
  simp only [isDigitOrGap, Bool.or_eq_false_iff] at hstop
  exact hstop.1

/-- The mark of an exponent before what is left of a name: either there are no digits after it, or
those are the ones that the name goes on with. -/
theorem exponentAt?_mark {c : Char} {parts : List Char} (hmark : c = 'e' ∨ c = 'E')
    (hparts : ∀ d ∈ parts, Text.isNamePart d = true) (hrest : Stops Text.isNamePart rest)
    (hcalm : Calm rest) :
    (∃ sign, DecimalLiteral.exponentAt? (c :: (parts ++ rest)) = some (sign, []))
      ∨ DecimalLiteral.exponentAt? (c :: (parts ++ rest))
        = some ([], parts.takeWhile isDigitOrGap) := by
  have hdigits := (stops_isDigitOrGap hrest).takeWhile_append parts
  by_cases hsigned : ∃ sign ds, parts ++ rest = sign :: ds ∧ (sign = '+' ∨ sign = '-')
  · obtain ⟨sign, ds, heq, hsign⟩ := hsigned
    -- A sign is no part of a name, so it is the first character after the name.
    have hnone : ds.takeWhile isDigitOrGap = [] := by
      cases parts with
      | nil => exact (hcalm sign ds heq hsign).takeWhile_eq_nil
      | cons d parts =>
        obtain ⟨rfl, -⟩ := List.cons.inj heq
        have hd := hparts d List.mem_cons_self
        rcases hsign with rfl | rfl <;> exact absurd hd (by decide)
    refine .inl ⟨[sign], ?_⟩
    rw [heq]
    rcases hmark with rfl | rfl <;> rcases hsign with rfl | rfl <;>
      simp [DecimalLiteral.exponentAt?, hnone]
  · have hplus : ∀ ds, parts ++ rest ≠ '+' :: ds := fun ds heq => hsigned ⟨_, ds, heq, .inl rfl⟩
    have hminus : ∀ ds, parts ++ rest ≠ '-' :: ds := fun ds heq => hsigned ⟨_, ds, heq, .inr rfl⟩
    refine .inr ?_
    rcases hmark with rfl | rfl
    · rw [DecimalLiteral.exponentAt?.eq_3 _ hplus hminus, hdigits]
    · rw [DecimalLiteral.exponentAt?.eq_6 _ hplus hminus, hdigits]

/-- A dot after digits is taken in if what follows it looks like an exponent: either that has no
digits, or there are fewer tokens than there would be. -/
theorem spoiled_digits_dot (h : IsNumeral digits) (hname : isName name = true)
    (hmark : ¬ ∀ c ∈ name.toList.head?, c ≠ 'e' ∧ c ≠ 'E') (hrest : Stops Text.isNamePart rest)
    (hcalm : Calm rest) :
    .invalid ∈ kindsOf (digits ++ '.' :: (name.toList ++ rest))
      ∨ weightOf (kindsOf (digits ++ '.' :: (name.toList ++ rest)))
        ≤ 2 + weightOf (kindsOf rest) := by
  obtain ⟨c, parts, hchars, hc⟩ : ∃ c parts, name.toList = c :: parts ∧ (c = 'e' ∨ c = 'E') := by
    cases hchars : name.toList with
    | nil => simp [hchars] at hmark
    | cons c parts =>
      refine ⟨c, parts, rfl, ?_⟩
      simp only [hchars, List.head?_cons, Option.mem_some_iff, forall_eq'] at hmark
      tauto
  have hparts : ∀ d ∈ parts, Text.isNamePart d = true := by
    simp only [isName, Bool.and_eq_true] at hname
    intro d hd
    exact isNamePart_of_isWord hname.1 d (by simp [hchars, hd])
  have hsplit : DecimalLiteral.splitFraction ('.' :: c :: (parts ++ rest))
      = (some [], c :: (parts ++ rest)) := by
    rcases hc with rfl | rfl <;> simp [DecimalLiteral.splitFraction, isDigitOrGap]
  have hwhole := kindsOf_digits h ('.' :: c :: (parts ++ rest)) (by simp)
    (ofChars_digits h (by simp))
  rw [hsplit] at hwhole
  rw [hchars, List.cons_append, hwhole]
  rcases exponentAt?_mark hc hparts hrest hcalm with ⟨sign, hexponent⟩ | hexponent
  · have hinvalid : DecimalLiteral.kind ⟨digits, some [], some (sign, [])⟩ = .invalid := by
      simp [DecimalLiteral.kind, DecimalLiteral.value?, withoutGaps]
    simp [hexponent, hinvalid]
  · have hlength : DecimalLiteral.length ⟨digits, some [], some ([], parts.takeWhile isDigitOrGap)⟩
        - digits.length = (parts.takeWhile isDigitOrGap).length + 2 := by
      simp [DecimalLiteral.length]
      omega
    have hdrop : ('.' :: c :: (parts ++ rest)).drop ((parts.takeWhile isDigitOrGap).length + 2)
        = parts.dropWhile isDigitOrGap ++ rest := by
      have hparted : parts ++ rest
          = parts.takeWhile isDigitOrGap ++ (parts.dropWhile isDigitOrGap ++ rest) := by
        rw [← List.append_assoc, List.takeWhile_append_dropWhile]
      rw [List.drop_succ_cons, List.drop_succ_cons, hparted, List.drop_left]
    rw [hexponent, hlength, hdrop]
    rcases kindsOf_dropWhile_digits hparts hrest with hinvalid | hweight
    · exact .inl (List.mem_cons_of_mem _ hinvalid)
    · refine .inr ?_
      rw [weightOf_cons, DecimalLiteral.weight_kind]
      omega

end Numbers

end ScriptSteps
