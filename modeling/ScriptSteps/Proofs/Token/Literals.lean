import Mathlib
import ScriptSteps.Proofs.Number.Nearest
import ScriptSteps.Proofs.Token.Kinds
import ScriptSteps.Tree.Printer

/-!
# Reading written literals

A string literal is read back as its text, but for the few characters whose escapes the scanner
does not know: it drops their backslash. A number that is finite and has no sign is read back as
itself, whichever layout its digits were written in.

## Main definitions

* `rereadString`: what a string literal is read back as
* `DecimalLiteral.text`: the text of a decimal literal

## Main statements

* `kindsOf_renderString`: a written string is one token
* `DecimalLiteral.ofChars_text`: a decimal literal is cut into its own parts
* `kindsOf_scriptNumber`: a written number is one token
-/

namespace ScriptSteps

/-! ## Strings -/

/-- The control characters that have an escape of their own. -/
def hasEscape (c : Char) : Bool :=
  c == '\x08' || c == '\t' || c == '\n' || c == '\x0b' || c == '\x0c' || c == '\r'

/-- What a character of a string literal is read back as. -/
def rereadChar (c : Char) : List Char :=
  if c = '\u2028' then ['u', '2', '0', '2', '8']
  else if c = '\u2029' then ['u', '2', '0', '2', '9']
  else if Text.isControl c && !hasEscape c then 'x' :: hexByte c.toNat
  else [c]

/-- What a string literal is read back as. -/
def rereadString (s : String) : String := String.ofList (s.toList.flatMap rereadChar)

/-- Whether a character stands for itself between single quotes. -/
def isPlain (c : Char) : Bool := c != '\\' && c != '\n' && c != '\r' && c != '\''

theorem stringBody_extend_extend (first second : List Char) (m n : ℕ)
    (body : Option (List Char) × ℕ) :
    stringBody.extend first m (stringBody.extend second n body)
      = stringBody.extend (first ++ second) (m + n) body := by
  simp [stringBody.extend, Function.comp_def, Nat.add_assoc]

theorem stringBody_plain {c : Char} (h : isPlain c = true) (cs : List Char) :
    stringBody '\'' (c :: cs) = stringBody.extend [c] 1 (stringBody '\'' cs) := by
  simp only [isPlain, Bool.and_eq_true, bne_iff_ne] at h
  obtain ⟨⟨⟨hback, hfeed⟩, hreturn⟩, hquote⟩ := h
  rw [stringBody.eq_5 '\'' c cs (fun hc _ => hback hc) (fun _ hc _ => hback hc)
    (fun _ _ hc _ => hback hc), if_neg (by simp [hfeed, hreturn]), if_neg hquote]

theorem stringBody_plains {plain : List Char} (h : ∀ c ∈ plain, isPlain c = true)
    (cs : List Char) :
    stringBody '\'' (plain ++ cs) = stringBody.extend plain plain.length (stringBody '\'' cs) := by
  induction plain with
  | nil => simp [stringBody.extend]
  | cons c plain ih =>
    rw [List.cons_append, stringBody_plain (h c List.mem_cons_self),
      ih fun d hd => h d (List.mem_cons_of_mem c hd), stringBody_extend_extend,
      List.length_cons, Nat.add_comm 1, List.singleton_append]

theorem stringBody_escape {c : Char} (h : c ≠ '\r') (cs : List Char) :
    stringBody '\'' ('\\' :: c :: cs)
      = stringBody.extend (unescape c).toList 2 (stringBody '\'' cs) := by
  rw [stringBody.eq_4]
  rintro ds rfl -
  exact h rfl

/-- A backslash before a character that has no escape is dropped. -/
theorem stringBody_escape_plains {c : Char} (hc : unescape c = some c) (hreturn : c ≠ '\r')
    {plain : List Char} (h : ∀ d ∈ plain, isPlain d = true) (cs : List Char) :
    stringBody '\'' ('\\' :: c :: plain ++ cs)
      = stringBody.extend (c :: plain) (plain.length + 2) (stringBody '\'' cs) := by
  rw [List.cons_append, List.cons_append, stringBody_escape hreturn, stringBody_plains h, hc,
    stringBody_extend_extend, Nat.add_comm 2]
  rfl

theorem isPlain_of_mem_hexByte {n : ℕ} {c : Char} (h : c ∈ hexByte n) :
    isPlain c = true ∧ Text.isLineEnd c = false := by
  have hdigit : ∀ k < 16,
      isPlain (if k < 10 then Char.ofNat (48 + k) else Char.ofNat (55 + k)) = true
        ∧ Text.isLineEnd (if k < 10 then Char.ofNat (48 + k) else Char.ofNat (55 + k)) = false := by
    decide
  simp only [hexByte, List.mem_cons, List.not_mem_nil, or_false] at h
  rcases h with rfl | rfl <;> exact hdigit _ (Nat.mod_lt _ (by decide))

/-- How a character of a string is written and what it is read back as, without any line end. -/
inductive EscapedAs (c : Char) : (written reread : List Char) → Prop
  /-- An escape of one character that the scanner knows. -/
  | known {escape : Char} (hread : unescape escape = some c)
      (hline : Text.isLineEnd escape = false) : EscapedAs c ['\\', escape] [c]
  /-- An escape that the scanner does not know, of which it drops the backslash. -/
  | unknown {first : Char} {rest : List Char} (hread : unescape first = some first)
      (hline : Text.isLineEnd first = false)
      (hrest : ∀ d ∈ rest, isPlain d = true ∧ Text.isLineEnd d = false) :
      EscapedAs c ('\\' :: first :: rest) (first :: rest)
  | plain (h : isPlain c = true) (hline : Text.isLineEnd c = false) : EscapedAs c [c] [c]

theorem escapedChar_escapedAs (c : Char) : EscapedAs c (escapedChar c) (rereadChar c) := by
  by_cases hknown : c ∈ ['\'', '\\', '\n', '\r', '\t', '\x08', '\x0c', '\x0b']
  · have hescapes : ∀ d ∈ ['\'', '\\', '\n', '\r', '\t', '\x08', '\x0c', '\x0b'],
        ∃ escape, escapedChar d = ['\\', escape] ∧ rereadChar d = [d]
          ∧ unescape escape = some d ∧ Text.isLineEnd escape = false := by
      simp only [List.forall_mem_cons, List.not_mem_nil, false_implies, implies_true, and_true]
      exact ⟨⟨'\'', by decide⟩, ⟨'\\', by decide⟩, ⟨'n', by decide⟩, ⟨'r', by decide⟩,
        ⟨'t', by decide⟩, ⟨'b', by decide⟩, ⟨'f', by decide⟩, ⟨'v', by decide⟩⟩
    obtain ⟨escape, hwritten, hreread, hread, hline⟩ := hescapes c hknown
    rw [hwritten, hreread]
    exact .known hread hline
  simp only [List.mem_cons, List.not_mem_nil, or_false, not_or] at hknown
  obtain ⟨hquote, hback, hfeed, hreturn, htab, hbackspace, hform, hvertical⟩ := hknown
  by_cases hseparator : c = '\u2028' ∨ c = '\u2029'
  · have hescapes : ∀ d ∈ ['\u2028', '\u2029'], ∃ digits, escapedChar d = '\\' :: 'u' :: digits
        ∧ rereadChar d = 'u' :: digits
        ∧ ∀ d ∈ digits, isPlain d = true ∧ Text.isLineEnd d = false := by
      simp only [List.forall_mem_cons, List.not_mem_nil, false_implies, implies_true, and_true]
      exact ⟨⟨['2', '0', '2', '8'], by decide, by decide, by simp [isPlain, Text.isLineEnd]⟩,
        ⟨['2', '0', '2', '9'], by decide, by decide, by simp [isPlain, Text.isLineEnd]⟩⟩
    obtain ⟨digits, hwritten, hreread, hdigits⟩ := hescapes c (by simpa using hseparator)
    rw [hwritten, hreread]
    exact .unknown (by decide) (by decide) hdigits
  obtain ⟨hline, hparagraph⟩ := not_or.1 hseparator
  by_cases hcontrol : Text.isControl c = true
  · have hwritten : escapedChar c = '\\' :: 'x' :: hexByte c.toNat := by
      simp [escapedChar, *]
    have hreread : rereadChar c = 'x' :: hexByte c.toNat := by
      simp [rereadChar, hasEscape, *]
    rw [hwritten, hreread]
    exact .unknown rfl rfl fun _ hd => isPlain_of_mem_hexByte hd
  · have hwritten : escapedChar c = [c] := by simp [escapedChar, *]
    have hreread : rereadChar c = [c] := by simp [rereadChar, *]
    rw [hwritten, hreread]
    exact .plain (by simp [isPlain, *]) (by simp [Text.isLineEnd, *])

/-- One written character of a string is read back. -/
theorem stringBody_escapedChar (c : Char) (cs : List Char) :
    stringBody '\'' (escapedChar c ++ cs)
      = stringBody.extend (rereadChar c) (escapedChar c).length (stringBody '\'' cs) := by
  have hne : ∀ {d : Char}, Text.isLineEnd d = false → d ≠ '\r' := by
    rintro d hd rfl
    exact absurd hd (by decide)
  have hescaped := escapedChar_escapedAs c
  generalize escapedChar c = written, rereadChar c = reread at hescaped ⊢
  cases hescaped with
  | @known escape hread hline =>
    rw [List.cons_append, List.cons_append, List.nil_append, stringBody_escape (hne hline), hread]
    rfl
  | unknown hread hline hrest =>
    exact stringBody_escape_plains hread (hne hline) (fun d hd => (hrest d hd).1) cs
  | plain h hline => exact stringBody_plain h cs

theorem stringBody_written (value rest : List Char) :
    stringBody '\'' (value.flatMap escapedChar ++ '\'' :: rest)
      = (some (value.flatMap rereadChar), (value.flatMap escapedChar).length + 1) := by
  induction value with
  | nil => simp [stringBody.eq_5]
  | cons c value ih =>
    rw [List.flatMap_cons, List.append_assoc, stringBody_escapedChar, ih]
    simp [stringBody.extend, Nat.add_assoc]

/-- A written string is one token. -/
theorem kindsOf_renderString (s : String) (rest : List Char) :
    kindsOf ((renderString s).toList ++ rest) = .string (rereadString s) :: kindsOf rest := by
  have hbody := stringBody_written s.toList rest
  have htext : (renderString s).toList ++ rest
      = '\'' :: (s.toList.flatMap escapedChar ++ '\'' :: rest) := by
    simp [renderString]
  rw [htext]
  generalize s.toList.flatMap escapedChar = written at hbody ⊢
  have hlexeme : lexeme '\'' (written ++ '\'' :: rest)
      = (.string (rereadString s), written.length + 1) := by
    rw [lexeme, if_pos (Or.inr rfl), stringLexeme, hbody]
    rfl
  rw [kindsOf_lexeme (triviaLength_eq_zero (by decide) (by decide) _), hlexeme]
  simp

/-! ## Decimal literals -/

/-- Digits, at least one. -/
def IsNumeral (cs : List Char) : Prop := cs ≠ [] ∧ ∀ c ∈ cs, c.isDigit = true

theorem isNumeral_toDigits (n : ℕ) : IsNumeral (Nat.toDigits 10 n) :=
  ⟨Nat.toDigits_ne_nil, fun _ hc => Nat.isDigit_of_mem_toDigits (by decide) (by decide) hc⟩

theorem isNumeral_zero : IsNumeral ['0'] := ⟨by simp, by simp⟩

theorem IsNumeral.zeros_append {cs : List Char} (h : IsNumeral cs) (n : ℕ) :
    IsNumeral (List.replicate n '0' ++ cs) := by
  refine ⟨by simp [h.1], fun c hc => ?_⟩
  rcases List.mem_append.1 hc with hzero | hdigit
  · obtain rfl := List.eq_of_mem_replicate hzero
    decide
  · exact h.2 c hdigit

theorem IsNumeral.append_zeros {cs : List Char} (h : IsNumeral cs) (n : ℕ) :
    IsNumeral (cs ++ List.replicate n '0') := by
  refine ⟨by simp [h.1], fun c hc => ?_⟩
  rcases List.mem_append.1 hc with hdigit | hzero
  · exact h.2 c hdigit
  · obtain rfl := List.eq_of_mem_replicate hzero
    decide

theorem IsNumeral.isDigitOrGap {cs : List Char} (h : IsNumeral cs) :
    ∀ c ∈ cs, isDigitOrGap c = true := fun c hc => by simp [ScriptSteps.isDigitOrGap, h.2 c hc]

theorem IsNumeral.withoutGaps {cs : List Char} (h : IsNumeral cs) : withoutGaps cs = cs := by
  rw [ScriptSteps.withoutGaps, List.filter_eq_self]
  intro c hc
  have hdigit := h.2 c hc
  rw [bne_iff_ne]
  rintro rfl
  exact absurd hdigit (by decide)

theorem stops_isDigitOrGap {rest : List Char} (h : Stops Text.isNamePart rest) :
    Stops isDigitOrGap rest := by
  intro c hc
  have hpart := h c hc
  rw [isDigitOrGap, Bool.or_eq_false_iff]
  refine ⟨?_, ?_⟩
  · rw [Bool.eq_false_iff]
    intro hdigit
    rw [Text.isNamePart_of_isDigit hdigit] at hpart
    exact absurd hpart (by decide)
  · rw [beq_eq_false_iff_ne]
    rintro rfl
    exact absurd hpart (by decide)

namespace DecimalLiteral

/-- The fraction of a literal with its point. -/
def fractionText (n : DecimalLiteral) : List Char :=
  match n.fraction? with
  | none => []
  | some digits => '.' :: digits

/-- The exponent of a literal with its mark. -/
def exponentText (n : DecimalLiteral) : List Char :=
  match n.exponent? with
  | none => []
  | some (sign, digits) => 'e' :: (sign ++ digits)

/-- A literal as text. -/
def text (n : DecimalLiteral) : List Char := n.whole ++ (n.fractionText ++ n.exponentText)

/-- A literal all of whose parts have digits and whose exponent has a sign. -/
structure IsWritten (n : DecimalLiteral) : Prop where
  whole : IsNumeral n.whole
  fraction : ∀ digits ∈ n.fraction?, IsNumeral digits
  exponent : ∀ part ∈ n.exponent?, (part.1 = ['+'] ∨ part.1 = ['-']) ∧ IsNumeral part.2

/-- The digits of a literal before and after its point. -/
def digits (n : DecimalLiteral) : List Char := n.whole ++ n.fraction?.getD []

/-- The power of ten that a literal names. -/
def power (n : DecimalLiteral) : ℤ :=
  match n.exponent? with
  | none => 0
  | some (sign, digits) =>
    if sign = ['-'] then -(Nat.ofDigitChars 10 digits 0 : ℤ) else Nat.ofDigitChars 10 digits 0

/-- The value of a literal. -/
def value (n : DecimalLiteral) : ℚ :=
  Nat.ofDigitChars 10 n.digits 0 * (10 : ℚ) ^ (n.power - (n.fraction?.getD []).length)

variable {n : DecimalLiteral} {rest : List Char}

/-- The decimal that a written literal is read as has the literal's value. -/
theorem exists_value? (h : n.IsWritten) : ∃ d, n.value? = some d ∧ d.value = n.value := by
  have hfraction : withoutGaps (n.fraction?.getD []) = n.fraction?.getD [] := by
    cases hpart : n.fraction? with
    | none => rfl
    | some digits => exact (h.fraction digits hpart).withoutGaps
  unfold value? value power digits
  simp only [h.whole.withoutGaps, hfraction]
  cases hexponent : n.exponent? with
  | none => exact ⟨_, rfl, by simp [Decimal.value]⟩
  | some part =>
    obtain ⟨sign, digits⟩ := part
    have hnumeral := (h.exponent _ hexponent).2
    refine ⟨_, if_neg (by simpa [hnumeral.withoutGaps] using hnumeral.1), ?_⟩
    simp only [Decimal.value, hnumeral.withoutGaps]

theorem exponentAt?_text (h : n.IsWritten) (hrest : Stops Text.isNamePart rest) :
    exponentAt? (n.exponentText ++ rest) = n.exponent? := by
  have hdigits := stops_isDigitOrGap hrest
  unfold exponentText
  cases hexponent : n.exponent? with
  | none =>
    cases rest with
    | nil => rfl
    | cons c rest =>
      have hc := hrest c rfl
      rw [List.nil_append]
      unfold exponentAt?
      split
      case h_1 heq =>
        rw [(List.cons.inj heq).1] at hc
        exact absurd hc (by decide)
      case h_2 heq =>
        rw [(List.cons.inj heq).1] at hc
        exact absurd hc (by decide)
      case h_3 => rfl
  | some part =>
    obtain ⟨sign, digits⟩ := part
    obtain ⟨hsign, hnumeral⟩ := h.exponent _ hexponent
    have htake := takeWhile_append_of_stops hnumeral.isDigitOrGap hdigits
    rcases hsign with rfl | rfl <;> simp [exponentAt?, htake]

theorem stops_exponentText (hrest : Stops Text.isNamePart rest) :
    Stops isDigitOrGap (n.exponentText ++ rest) := by
  unfold exponentText
  split
  · exact stops_isDigitOrGap hrest
  · intro c hc
    obtain rfl : c = 'e' := by simpa using hc.symm
    decide

theorem splitFraction_text (h : n.IsWritten) (hrest : Stops Text.isNamePart rest)
    (hdot : n.fraction? = none → n.exponent? = none → ∀ c ∈ rest.head?, c ≠ '.') :
    splitFraction (n.fractionText ++ (n.exponentText ++ rest))
      = (n.fraction?, n.exponentText ++ rest) := by
  have hstops := stops_exponentText (n := n) hrest
  unfold fractionText
  cases hfraction : n.fraction? with
  | none =>
    have hhead : ∀ c ∈ (n.exponentText ++ rest).head?, c ≠ '.' := by
      unfold exponentText
      cases hexponent : n.exponent? with
      | none => exact hdot hfraction hexponent
      | some part =>
        intro c hc
        obtain rfl : c = 'e' := by simpa using hc.symm
        decide
    rw [List.nil_append]
    cases htext : n.exponentText ++ rest with
    | nil => rfl
    | cons c cs =>
      have hc : c ≠ '.' := hhead c (by simp [htext])
      unfold splitFraction
      split
      case h_1 heq => exact absurd (List.cons.inj heq).1 hc
      case h_2 => rfl
  | some digits =>
    have hnumeral := h.fraction digits hfraction
    have htake := takeWhile_append_of_stops hnumeral.isDigitOrGap hstops
    have hdrop := dropWhile_append_of_stops hnumeral.isDigitOrGap hstops
    cases digits with
    | nil => exact absurd rfl hnumeral.1
    | cons d digits =>
      have hstart := Text.isNameStart_eq_false_of_isDigit (hnumeral.2 d List.mem_cons_self)
      simp only [List.cons_append] at htake hdrop ⊢
      simp only [splitFraction, hstart, htake, hdrop, Bool.false_and, Bool.false_eq_true,
        if_false]

/-- A written literal is cut into its own parts. -/
theorem ofChars_text (h : n.IsWritten) (hrest : Stops Text.isNamePart rest)
    (hdot : n.fraction? = none → n.exponent? = none → ∀ c ∈ rest.head?, c ≠ '.') :
    ofChars (n.text ++ rest) = n := by
  have hstops : Stops isDigitOrGap (n.fractionText ++ (n.exponentText ++ rest)) := by
    unfold fractionText
    split
    · exact stops_exponentText hrest
    · intro c hc
      obtain rfl : c = '.' := by simpa using hc.symm
      decide
  have htext : n.text ++ rest = n.whole ++ (n.fractionText ++ (n.exponentText ++ rest)) := by
    simp [text]
  rw [ofChars, htext, takeWhile_append_of_stops h.whole.isDigitOrGap hstops,
    dropWhile_append_of_stops h.whole.isDigitOrGap hstops, splitFraction_text h hrest hdot]
  simp only [exponentAt?_text h hrest]

theorem length_eq_length_text (n : DecimalLiteral) : n.length = n.text.length := by
  obtain ⟨whole, fraction?, exponent?⟩ := n
  rcases fraction? with _ | digits <;> rcases exponent? with _ | ⟨sign, digits'⟩ <;>
    simp [length, text, fractionText, exponentText]
  omega

theorem radixOf?_eq_none {c : Char}
    (h : c.isDigit = true ∨ c = '.' ∨ c = 'e' ∨ Text.isNamePart c = false) :
    radixOf? c = none := by
  unfold radixOf?
  split <;> first | rfl | exact absurd h (by decide)

/-- The second character of a written literal selects no other base. -/
theorem radixOf?_second (h : n.IsWritten) (hrest : Stops Text.isNamePart rest) :
    ∀ c ∈ (n.text ++ rest).tail.head?, radixOf? c = none := by
  obtain ⟨⟨hne, hdigits⟩, -, -⟩ := h
  obtain ⟨d, digits, hwhole⟩ := List.exists_cons_of_ne_nil hne
  rw [hwhole] at hdigits
  have htail : (n.text ++ rest).tail
      = digits ++ (n.fractionText ++ (n.exponentText ++ rest)) := by
    simp [text, hwhole]
  intro c hc
  apply radixOf?_eq_none
  rw [htail] at hc
  cases digits with
  | cons e digits =>
    obtain rfl : c = e := by simpa using hc.symm
    exact .inl (hdigits c (by simp))
  | nil =>
    unfold fractionText exponentText at hc
    split at hc
    · split at hc
      · exact .inr (.inr (.inr (hrest c (by simpa using hc))))
      · exact .inr (.inr (.inl (by simpa using hc.symm)))
    · exact .inr (.inl (by simpa using hc.symm))

/-- A written literal is one token. -/
theorem kindsOf_text {d : Decimal} (h : n.IsWritten) (hvalue : n.value? = some d)
    (hrest : Stops Text.isNamePart rest)
    (hdot : n.fraction? = none → n.exponent? = none → ∀ c ∈ rest.head?, c ≠ '.') :
    kindsOf (n.text ++ rest) = .number (.ofDecimal d) :: kindsOf rest := by
  have hparts := ofChars_text h hrest hdot
  have hsecond := radixOf?_second h hrest
  have hlength := n.length_eq_length_text
  obtain ⟨first, tail, htext⟩ : ∃ first tail, n.text = first :: tail :=
    List.exists_cons_of_ne_nil (by simp [text, h.whole.1])
  have hdigit : first.isDigit = true := by
    apply h.whole.2
    obtain ⟨e, digits, hwhole⟩ := List.exists_cons_of_ne_nil h.whole.1
    rw [text, hwhole, List.cons_append] at htext
    simp [hwhole, (List.cons.inj htext).1]
  rw [htext, List.cons_append] at hparts hsecond ⊢
  have hdecimal : decimalLexeme first (tail ++ rest)
      = (.number (.ofDecimal d), tail.length) := by
    simp [decimalLexeme, hparts, hvalue, hlength, htext]
  have hnumber : numberLexeme first (tail ++ rest) = decimalLexeme first (tail ++ rest) := by
    unfold numberLexeme
    split
    case h_1 c cs heq =>
      rw [hsecond c (by simp [heq]), heq]
    case h_2 => rfl
  obtain ⟨htrivia, hquote⟩ :=
    triviaLength_of_isNamePart (Text.isNamePart_of_isDigit hdigit) (tail ++ rest)
  have hlexeme : lexeme first (tail ++ rest) = (.number (.ofDecimal d), tail.length) := by
    rw [lexeme, if_neg hquote, if_pos hdigit, hnumber, hdecimal]
  rw [kindsOf_lexeme htrivia, hlexeme]
  simp

end DecimalLiteral

/-! ## Written numbers -/

namespace Decimal

/-- What is left of the digits of a number without the zeros at their end. -/
theorem exists_zeros (d : Decimal) : ∃ zeros,
    Nat.toDigits 10 d.coefficient = d.significantDigits ++ List.replicate zeros '0' := by
  have hsplit := List.takeWhile_append_dropWhile (p := (· == '0'))
    (l := (Nat.toDigits 10 d.coefficient).reverse)
  have hzeros : (Nat.toDigits 10 d.coefficient).reverse.takeWhile (· == '0')
      = List.replicate ((Nat.toDigits 10 d.coefficient).reverse.takeWhile (· == '0')).length '0' :=
    List.eq_replicate_of_mem fun c hc => by simpa using List.mem_takeWhile_imp hc
  refine ⟨((Nat.toDigits 10 d.coefficient).reverse.takeWhile (· == '0')).length, ?_⟩
  rw [significantDigits, ← List.reverse_replicate, ← hzeros, ← List.reverse_append, hsplit,
    List.reverse_reverse]

/-- The digits of the coefficient without the zeros at their end, as a number. -/
def significand (d : Decimal) : ℕ := Nat.ofDigitChars 10 d.significantDigits 0

/-- A decimal through its significant digits. -/
theorem value_eq_significand (d : Decimal) :
    d.value = d.significand * (10 : ℚ) ^ (d.point - d.significantDigits.length) := by
  obtain ⟨zeros, hzeros⟩ := d.exists_zeros
  have hcoefficient : d.coefficient = 10 ^ zeros * d.significand := by
    have h := Nat.ofDigitChars_ten_toDigits (n := d.coefficient)
    rw [hzeros, Nat.ofDigitChars_append, Nat.ofDigitChars_replicate_zero] at h
    exact h.symm
  have hpoint : d.point - d.significantDigits.length = zeros + d.exponent := by
    rw [point, hzeros]
    simp only [List.length_append, List.length_replicate]
    push_cast
    ring
  rw [value, hpoint, zpow_add₀ (by norm_num), zpow_natCast, hcoefficient]
  push_cast
  ring

theorem isNumeral_significantDigits {d : Decimal} (h : d.coefficient ≠ 0) :
    IsNumeral d.significantDigits := by
  obtain ⟨zeros, hzeros⟩ := d.exists_zeros
  refine ⟨?_, fun c hc => ?_⟩
  · intro hnil
    have hvalue := Nat.ofDigitChars_ten_toDigits (n := d.coefficient)
    rw [hzeros, hnil, List.nil_append, Nat.ofDigitChars_replicate_zero, Nat.mul_zero] at hvalue
    exact h hvalue.symm
  · exact (isNumeral_toDigits d.coefficient).2 c (by simp [hzeros, hc])

end Decimal

/-- A text that is a written literal of the given value. -/
def Writes (cs : List Char) (value : ℚ) : Prop :=
  ∃ n : DecimalLiteral, n.IsWritten ∧ n.text = cs ∧ n.value = value

/-- Digits alone write the number that they spell. -/
theorem writes_whole {whole : List Char} (h : IsNumeral whole) :
    Writes whole (Nat.ofDigitChars 10 whole 0) := by
  refine ⟨⟨whole, none, none⟩, ⟨h, by simp, by simp⟩, ?_, ?_⟩
  · simp [DecimalLiteral.text, DecimalLiteral.fractionText, DecimalLiteral.exponentText]
  · simp [DecimalLiteral.value, DecimalLiteral.digits, DecimalLiteral.power]

/-- Digits on both sides of a point write a number with as many places as there are behind it. -/
theorem writes_fraction {whole fraction : List Char} (hwhole : IsNumeral whole)
    (hfraction : IsNumeral fraction) :
    Writes (whole ++ '.' :: fraction)
      (Nat.ofDigitChars 10 (whole ++ fraction) 0 * (10 : ℚ) ^ (-(fraction.length : ℤ))) := by
  refine ⟨⟨whole, some fraction, none⟩, ⟨hwhole, by simpa using hfraction, by simp⟩, ?_, ?_⟩
  · simp [DecimalLiteral.text, DecimalLiteral.fractionText, DecimalLiteral.exponentText]
  · simp [DecimalLiteral.value, DecimalLiteral.digits, DecimalLiteral.power]

theorem writes_zero : Writes ['0'] 0 := by
  simpa [Nat.ofDigitChars_cons] using writes_whole isNumeral_zero

namespace Decimal

theorem writes_positional {d : Decimal} (h : d.coefficient ≠ 0) : Writes d.positional d.value := by
  have hdigits := isNumeral_significantDigits h
  rw [d.value_eq_significand, significand]
  unfold positional
  generalize d.significantDigits = digits at hdigits ⊢
  generalize d.point = point
  dsimp only
  split_ifs with hsmall hwhole
  · -- Zeros up to the digits.
    have hwrites := writes_fraction isNumeral_zero (hdigits.zeros_append (-point).toNat)
    have hzeros : Nat.ofDigitChars 10 (['0'] ++ (List.replicate (-point).toNat '0' ++ digits)) 0
        = Nat.ofDigitChars 10 digits 0 := by
      simp [Nat.ofDigitChars_append, Nat.ofDigitChars_cons, Nat.ofDigitChars_replicate_zero]
    have hplaces : -((List.replicate (-point).toNat '0' ++ digits).length : ℤ)
        = point - digits.length := by
      simp only [List.length_append, List.length_replicate]
      omega
    rw [hzeros, hplaces] at hwrites
    exact hwrites
  · -- Zeros from the digits up to the point.
    have hwrites := writes_whole (hdigits.append_zeros (point.toNat - digits.length))
    have hplaces : point - digits.length = ((point.toNat - digits.length : ℕ) : ℤ) := by omega
    rw [hplaces, zpow_natCast]
    simpa [Nat.ofDigitChars_append, Nat.ofDigitChars_replicate_zero, mul_comm] using hwrites
  · -- The point stands between the digits.
    have htake : digits.take point.toNat ≠ [] := by
      rw [← List.length_pos_iff, List.length_take]
      omega
    have hdrop : digits.drop point.toNat ≠ [] := by
      rw [← List.length_pos_iff, List.length_drop]
      omega
    have hwrites := writes_fraction ⟨htake, fun c hc => hdigits.2 c (List.mem_of_mem_take hc)⟩
      ⟨hdrop, fun c hc => hdigits.2 c (List.mem_of_mem_drop hc)⟩
    have hplaces : -((digits.drop point.toNat).length : ℤ) = point - digits.length := by
      rw [List.length_drop]
      omega
    rwa [List.take_append_drop, hplaces] at hwrites

/-- The sign and the digits of an exponent as they are written. -/
def writtenExponent (power : ℤ) : List Char × List Char :=
  ([if power < 0 then '-' else '+'], Nat.toDigits 10 power.natAbs)

theorem isWritten_writtenExponent (power : ℤ) :
    ∀ part ∈ some (writtenExponent power),
      (part.1 = ['+'] ∨ part.1 = ['-']) ∧ IsNumeral part.2 := by
  intro part hpart
  obtain rfl := Option.some.inj hpart
  refine ⟨?_, isNumeral_toDigits _⟩
  rw [writtenExponent]
  split <;> simp

/-- A written exponent names its power. -/
theorem power_writtenExponent (whole : List Char) (fraction : Option (List Char)) (power : ℤ) :
    DecimalLiteral.power ⟨whole, fraction, some (writtenExponent power)⟩ = power := by
  simp only [DecimalLiteral.power, writtenExponent, Nat.ofDigitChars_ten_toDigits]
  rcases lt_or_ge power 0 with hnegative | hpositive
  · rw [if_pos hnegative, if_pos rfl]
    omega
  · rw [if_neg (not_lt.2 hpositive), if_neg (by decide)]
    omega

theorem writes_scientific {d : Decimal} (h : d.coefficient ≠ 0) :
    Writes d.scientific d.value := by
  have hdigits := isNumeral_significantDigits h
  rw [d.value_eq_significand, significand]
  unfold scientific
  generalize d.significantDigits = digits at hdigits ⊢
  generalize d.point = point
  have hexponent := isWritten_writtenExponent (point - 1)
  match digits, hdigits with
  | [], hdigits => exact absurd rfl hdigits.1
  | [digit], hdigits =>
    refine ⟨⟨[digit], none, some (writtenExponent (point - 1))⟩, ⟨hdigits, by simp, hexponent⟩,
      ?_, ?_⟩
    · simp [DecimalLiteral.text, DecimalLiteral.fractionText, DecimalLiteral.exponentText,
        writtenExponent]
    · simp [DecimalLiteral.value, DecimalLiteral.digits, power_writtenExponent]
  | digit :: next :: digits, hdigits =>
    have hwhole : IsNumeral [digit] := ⟨by simp, fun c hc => hdigits.2 c (by simp_all)⟩
    have hfraction : IsNumeral (next :: digits) :=
      ⟨by simp, fun c hc => hdigits.2 c (List.mem_cons_of_mem _ hc)⟩
    have hplaces : point - 1 - ((next :: digits).length : ℤ)
        = point - ((digit :: next :: digits).length : ℤ) := by
      simp only [List.length_cons]
      push_cast
      ring
    refine ⟨⟨[digit], some (next :: digits), some (writtenExponent (point - 1))⟩,
      ⟨hwhole, by simpa using hfraction, hexponent⟩, ?_, ?_⟩
    · simp [DecimalLiteral.text, DecimalLiteral.fractionText, DecimalLiteral.exponentText,
        writtenExponent]
    · simp only [DecimalLiteral.value, DecimalLiteral.digits, power_writtenExponent,
        Option.getD_some, hplaces, List.singleton_append]

end Decimal

theorem DecimalLiteral.all_isDigit_text {n : DecimalLiteral} (h : n.IsWritten)
    (hfraction : n.fraction? = none) (hexponent : n.exponent? = none) :
    n.text.all Char.isDigit = true := by
  rw [text, fractionText, exponentText, hfraction, hexponent]
  simpa using h.whole.2

theorem kindsOf_writes {cs rest : List Char} {value : ℚ} (h : Writes cs value)
    (hrest : Stops Text.isNamePart rest)
    (hdot : cs.all Char.isDigit = true → ∀ c ∈ rest.head?, c ≠ '.') :
    kindsOf (cs ++ rest) = .number (.nearest value) :: kindsOf rest := by
  obtain ⟨n, hwritten, rfl, rfl⟩ := h
  obtain ⟨d, hd, hvalue⟩ := n.exists_value? hwritten
  rw [n.kindsOf_text hwritten hd hrest fun hfraction hexponent =>
    hdot (n.all_isDigit_text hwritten hfraction hexponent), Binary64.ofDecimal_eq_nearest, hvalue]

/-- The token that a number without a sign is read back as. -/
def numberKind (x : Binary64) : TokenKind :=
  if x.isInfinite then .identifier "Infinity" else .number x

/-- The digits of a written number without a sign stand for a value that rounds to it. -/
theorem exists_writes_scriptNumber {x : Binary64} (h : x.IsMagnitude)
    (hfinite : x.isInfinite = false) :
    ∃ value, Writes (scriptNumbers.write x).toList value ∧ Binary64.nearest value = x := by
  obtain ⟨hnan, hsign⟩ := h
  have hmagnitude : x.magnitude < Binary64.infinityMagnitude := by
    simp only [Binary64.isNaN, Binary64.isInfinite, decide_eq_false_iff_not,
      beq_eq_false_iff_ne] at hnan hfinite
    omega
  by_cases hzero : x.isZero = true
  · obtain rfl : x = Binary64.zero :=
      Binary64.eq_of_magnitude_eq hsign (by decide) ((beq_iff_eq.1 hzero).trans (by decide))
    exact ⟨0, writes_zero, by decide +kernel⟩
  · have hread := Binary64.ofDecimal_shortest hsign hmagnitude
    have hcoefficient : x.shortest.coefficient ≠ 0 := by
      intro hnone
      rw [Binary64.ofDecimal, if_pos hnone] at hread
      rw [← hread] at hzero
      exact hzero (by decide)
    have hwrite : (scriptNumbers.write x).toList
        = if scriptNumbers.isPositional x.shortest.point then x.shortest.positional
          else x.shortest.scientific := by
      simp [NumberLayout.write, hnan, hfinite, hzero, hsign]
    refine ⟨x.shortest.value, ?_, by rw [← Binary64.ofDecimal_eq_nearest, hread]⟩
    rw [hwrite]
    split
    · exact Decimal.writes_positional hcoefficient
    · exact Decimal.writes_scientific hcoefficient

theorem scriptNumbers_write_infinite {x : Binary64} (h : x.IsMagnitude)
    (hinfinite : x.isInfinite = true) : scriptNumbers.write x = "Infinity" := by
  simp [NumberLayout.write, h.1, h.2, hinfinite, scriptNumbers]

/-- A written number without a sign is one token. -/
theorem kindsOf_scriptNumber {x : Binary64} (h : x.IsMagnitude) {rest : List Char}
    (hrest : Stops Text.isNamePart rest)
    (hdot : (scriptNumbers.write x).toList.all Char.isDigit = true →
      ∀ c ∈ rest.head?, c ≠ '.') :
    kindsOf ((scriptNumbers.write x).toList ++ rest) = numberKind x :: kindsOf rest := by
  cases hinfinite : x.isInfinite with
  | true =>
    rw [scriptNumbers_write_infinite h hinfinite, kindsOf_name (by decide) hrest, numberKind,
      if_pos hinfinite]
  | false =>
    obtain ⟨value, hwrites, hnearest⟩ := exists_writes_scriptNumber h hinfinite
    rw [kindsOf_writes hwrites hrest hdot, hnearest, numberKind, if_neg (by simp [hinfinite])]

end ScriptSteps
