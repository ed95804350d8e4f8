import Mathlib
import ScriptSteps.Proofs.Token.Scanned

/-!
# Texts that keep to their line

What is shown in a row or in a message has to keep to its line and must not steer the terminal. The
characters of a script may be anything; those that would do harm are escaped wherever a text is
written, or cannot stand there to begin with.

## Main definitions

* `Text.isInline`: the characters that do no harm
* `Text.Inline`: the texts of such characters
* `Text.Tidy`: those among them that do not end in a blank

## Main statements

* `Text.isInline_of_isNamePart`: names do no harm
* `Text.inline_quoted`, `tidy_renderString`: neither do texts between quotes
* `NumberLayout.tidy_write`: neither do numbers
-/

namespace ScriptSteps

namespace Text

/-! ## Characters -/

/-- Whether a character is neither a control character nor a separator of lines or paragraphs. -/
def isInline (c : Char) : Bool := !isControl c && c != '\u2028' && c != '\u2029'

theorem isInline_iff {c : Char} :
    isInline c = true ↔ isControl c = false ∧ c ≠ '\u2028' ∧ c ≠ '\u2029' := by
  simp [isInline, and_assoc]

theorem isNamePart_eq_false_of_isControl {c : Char} (h : isControl c = true) :
    isNamePart c = false := by
  simp only [isControl, Bool.or_eq_true, Bool.and_eq_true, decide_eq_true_eq] at h
  by_cases hascii : c.toNat < 128
  · obtain ⟨n, hn, rfl⟩ := exists_ofNat c
    rw [hn] at h hascii
    rcases h with hlow | ⟨hlow, -⟩ <;> interval_cases n <;> decide
  · -- Beyond ASCII no name has a character below the no-break space.
    have hlowest : ((nameStartRanges ++ namePartOnlyRanges).all fun range => 0xa0 ≤ range.1)
        = true := by decide +kernel
    simp only [List.all_eq_true, decide_eq_true_eq] at hlowest
    have hnone : (nameStartRanges ++ namePartOnlyRanges).has c = false := by
      rw [Bool.eq_false_iff]
      intro hhas
      obtain ⟨range, hrange, hle, -⟩ := Ranges.has_iff.1 hhas
      have := hlowest range hrange
      omega
    rw [Ranges.has_append, Bool.or_eq_false_iff] at hnone
    simp [isNamePart, isNameStart, hascii, hnone]

/-- The characters of names do no harm, and none of them is a blank. -/
theorem isInline_of_isNamePart {c : Char} (h : isNamePart c = true) :
    isInline c = true ∧ isBlank c = false := by
  have hblank := isBlank_eq_false_of_isNamePart h
  refine ⟨isInline_iff.2 ⟨?_, ?_, ?_⟩, hblank⟩
  · rw [Bool.eq_false_iff]
    intro hcontrol
    rw [isNamePart_eq_false_of_isControl hcontrol] at h
    exact absurd h (by decide)
  · rintro rfl
    exact absurd hblank (by decide)
  · rintro rfl
    exact absurd hblank (by decide)

/-- What can be shown by itself does no harm. -/
theorem isInline_of_isVisible {c : Char} (h : isVisible c = true) : isInline c = true := by
  refine isInline_iff.2 ⟨?_, ?_, ?_⟩
  · rw [Bool.eq_false_iff]
    intro hcontrol
    simp only [isControl, Bool.or_eq_true, Bool.and_eq_true, decide_eq_true_eq] at hcontrol
    unfold isVisible at h
    split at h
    · simp only [Bool.and_eq_true, decide_eq_true_eq] at h
      omega
    · have hshapeless : shapelessRanges.has c = true :=
        Ranges.has_iff.2 ⟨(0x80, 0xa0), by decide, by omega, by omega⟩
      simp [hshapeless] at h
  · rintro rfl
    exact absurd h (by decide +kernel)
  · rintro rfl
    exact absurd h (by decide +kernel)

theorem exists_of_mem_toDigits {base n : ℕ} {c : Char} (hbase : 1 < base)
    (h : c ∈ Nat.toDigits base n) : ∃ d < base, c = d.digitChar := by
  induction n using Nat.strong_induction_on with
  | _ n ih =>
    rw [Nat.toDigits_eq_if hbase] at h
    split at h
    · next hlt => exact ⟨n, hlt, List.mem_singleton.1 h⟩
    · next hge =>
      rcases List.mem_append.1 h with h | h
      · exact ih (n / base) (Nat.div_lt_self (by omega) hbase) h
      · exact ⟨n % base, Nat.mod_lt n (by omega), List.mem_singleton.1 h⟩

theorem isInline_of_mem_codePointEscape {c d : Char} (h : d ∈ codePointEscape c) :
    isInline d = true := by
  have hdigits : ∀ n < 16, isInline (Nat.digitChar n) = true := by decide
  simp only [codePointEscape, List.cons_append, List.nil_append, List.mem_cons, List.mem_append,
    List.not_mem_nil, or_false] at h
  rcases h with rfl | rfl | rfl | h | rfl
  · decide
  · decide
  · decide
  · obtain ⟨n, hn, rfl⟩ := exists_of_mem_toDigits (by decide) h
    exact hdigits n hn
  · decide

theorem isInline_of_mem_quotedChar {c d : Char} (h : d ∈ quotedChar c) : isInline d = true := by
  have hshort : (['\x00', '\t', '\r', '\n', '\\', '"'].all fun e => (quotedChar e).all isInline)
      = true := by decide
  simp only [List.all_eq_true] at hshort
  by_cases hmem : c ∈ ['\x00', '\t', '\r', '\n', '\\', '"']
  · exact hshort c hmem d h
  · simp only [List.mem_cons, List.not_mem_nil, or_false, not_or] at hmem
    obtain ⟨hnull, htab, hreturn, hfeed, hback, hquote⟩ := hmem
    simp only [quotedChar, hnull, htab, hreturn, hfeed, hback, hquote, if_false] at h
    split at h
    · next hvisible =>
      obtain rfl := List.mem_singleton.1 h
      exact isInline_of_isVisible hvisible
    · exact isInline_of_mem_codePointEscape h

theorem isInline_of_mem_hexByte {n : ℕ} {c : Char} (h : c ∈ hexByte n) : isInline c = true := by
  have hdigit : ∀ k < 16,
      isInline (if k < 10 then Char.ofNat (48 + k) else Char.ofNat (55 + k)) = true := by
    decide
  simp only [hexByte, List.mem_cons, List.not_mem_nil, or_false] at h
  rcases h with rfl | rfl <;> exact hdigit _ (Nat.mod_lt _ (by decide))

/-- A control character of a string is written with an escape of its own or by its code. -/
theorem isInline_of_mem_escapedChar {c d : Char} (h : d ∈ escapedChar c) : isInline d = true := by
  have hshort : (['\'', '\\', '\n', '\r', '\t', '\x08', '\x0c', '\x0b', '\u2028', '\u2029'].all
      fun e => (escapedChar e).all isInline) = true := by decide
  simp only [List.all_eq_true] at hshort
  by_cases hmem :
      c ∈ ['\'', '\\', '\n', '\r', '\t', '\x08', '\x0c', '\x0b', '\u2028', '\u2029']
  · exact hshort c hmem d h
  · simp only [List.mem_cons, List.not_mem_nil, or_false, not_or] at hmem
    obtain ⟨hquote, hback, hfeed, hreturn, htab, hbackspace, hform, hvertical, hline, hparagraph⟩ :=
      hmem
    simp only [escapedChar, hquote, hback, hfeed, hreturn, htab, hbackspace, hform, hvertical,
      hline, hparagraph, if_false] at h
    split at h
    · simp only [List.cons_append, List.nil_append, List.mem_cons] at h
      rcases h with rfl | rfl | h
      · decide
      · decide
      · exact isInline_of_mem_hexByte h
    · next hcontrol =>
      obtain rfl := List.mem_singleton.1 h
      exact isInline_iff.2 ⟨Bool.eq_false_iff.2 hcontrol, hline, hparagraph⟩

/-! ## Texts -/

/-- The texts that keep to their line. -/
def Inline (s : String) : Prop := ∀ c ∈ s.toList, isInline c = true

instance : DecidablePred Inline := fun s =>
  decidable_of_iff (s.toList.all isInline = true) List.all_eq_true

@[simp] theorem inline_append {s t : String} : Inline (s ++ t) ↔ Inline s ∧ Inline t := by
  simp [Inline, or_imp, forall_and]

theorem inline_intercalate {separator : String} (hseparator : Inline separator)
    {texts : List String} (h : ∀ t ∈ texts, Inline t) : Inline (separator.intercalate texts) := by
  induction texts with
  | nil => exact List.forall_mem_nil _
  | cons first rest ih =>
    simp only [List.forall_mem_cons] at h
    cases rest with
    | nil => simpa using h.1
    | cons second rest =>
      rw [String.intercalate_cons_cons, inline_append, inline_append]
      exact ⟨⟨h.1, hseparator⟩, ih h.2⟩

theorem inline_quoted (s : String) : Inline (quoted s) := by
  intro c hc
  simp only [quoted, String.toList_ofList, List.cons_append, List.mem_cons, List.mem_append,
    List.mem_flatMap, List.not_mem_nil, or_false] at hc
  obtain rfl | ⟨d, -, hd⟩ | rfl := hc
  · decide
  · exact isInline_of_mem_quotedChar hd
  · decide

/-- The texts that keep to their line and end in something other than a blank. -/
structure Tidy (s : String) : Prop where
  inline : Inline s
  ends : ∃ c ∈ s.toList.getLast?, isBlank c = false

namespace Tidy

variable {s t : String}

theorem ne_empty (h : Tidy s) : s ≠ "" := by
  rintro rfl
  obtain ⟨c, hc, -⟩ := h.ends
  simp at hc

theorem after (ht : Tidy t) (hs : Inline s) : Tidy (s ++ t) := by
  obtain ⟨c, hc, hblank⟩ := ht.ends
  refine ⟨inline_append.2 ⟨hs, ht.inline⟩, c, ?_, hblank⟩
  simp [List.getLast?_append, Option.mem_def.1 hc]

/-- A text without any blanks. -/
theorem of_forall (hne : s ≠ "") (h : ∀ c ∈ s.toList, isInline c = true ∧ isBlank c = false) :
    Tidy s := by
  have hlast : s.toList.getLast? ≠ none := by simpa using hne
  obtain ⟨c, hc⟩ := Option.ne_none_iff_exists'.1 hlast
  exact ⟨fun c hc => (h c hc).1, c, hc, (h c (List.mem_of_getLast? hc)).2⟩

end Tidy

theorem tidy_intercalate {separator : String} (hseparator : Inline separator)
    {texts : List String} (hne : texts ≠ []) (h : ∀ t ∈ texts, Tidy t) :
    Tidy (separator.intercalate texts) := by
  induction texts with
  | nil => exact absurd rfl hne
  | cons first rest ih =>
    simp only [List.forall_mem_cons] at h
    cases rest with
    | nil => simpa using h.1
    | cons second rest =>
      rw [String.intercalate_cons_cons]
      exact (ih (by simp) h.2).after (inline_append.2 ⟨h.1.inline, hseparator⟩)

end Text

open Text

theorem tidy_of_isName {name : String} (h : isName name = true) : Tidy name := by
  simp only [isName, Bool.and_eq_true] at h
  refine .of_forall ?_ fun c hc => isInline_of_isNamePart (isNamePart_of_isWord h.1 c hc)
  rintro rfl
  exact absurd h.1 (by decide)

theorem tidy_toString (n : ℕ) : Tidy (toString n) := by
  obtain ⟨hne, hdigits⟩ := isNumeral_toDigits n
  have hlist : (toString n).toList = Nat.toDigits 10 n := by
    rw [Nat.toString_eq_repr, Nat.toList_repr]
  refine .of_forall ?_ fun c hc => ?_
  · intro hempty
    rw [hempty] at hlist
    exact hne hlist.symm
  · exact isInline_of_isNamePart (isNamePart_of_isDigit (hdigits c (hlist ▸ hc)))

theorem tidy_renderString (s : String) : Tidy (renderString s) := by
  have hlast : (renderString s).toList.getLast? = some '\'' := by
    rw [renderString, String.toList_ofList]
    exact List.getLast?_concat
  refine ⟨fun c hc => ?_, '\'', hlast, by decide⟩
  simp only [renderString, String.toList_ofList, List.cons_append, List.mem_cons, List.mem_append,
    List.mem_flatMap, List.not_mem_nil, or_false] at hc
  obtain rfl | ⟨d, -, hd⟩ | rfl := hc
  · decide
  · exact isInline_of_mem_escapedChar hd
  · decide

/-! ## Numbers -/

/-- The characters that numbers are written with. -/
def isNumberChar (c : Char) : Bool := c.isDigit || c == '.' || c == 'e' || c == '+' || c == '-'

theorem isInline_of_isNumberChar {c : Char} (h : isNumberChar c = true) :
    isInline c = true ∧ isBlank c = false := by
  simp only [isNumberChar, Bool.or_eq_true, beq_iff_eq] at h
  obtain (((h | rfl) | rfl) | rfl) | rfl := h
  · exact isInline_of_isNamePart (isNamePart_of_isDigit h)
  all_goals decide

namespace Decimal

theorem isDigit_of_mem_significantDigits {d : Decimal} {c : Char} (h : c ∈ d.significantDigits) :
    c.isDigit = true := by
  obtain ⟨zeros, hzeros⟩ := d.exists_zeros
  exact (isNumeral_toDigits d.coefficient).2 c (by simp [hzeros, h])

theorem isNumberChar_of_mem_positional {d : Decimal} {c : Char} (h : c ∈ d.positional) :
    isNumberChar c = true := by
  have hdigit : ∀ c ∈ d.significantDigits, isNumberChar c = true := fun c hc => by
    simp [isNumberChar, isDigit_of_mem_significantDigits hc]
  have hzero : ∀ {n : ℕ}, ∀ c ∈ List.replicate n '0', isNumberChar c = true := fun c hc => by
    rw [List.eq_of_mem_replicate hc]
    decide
  unfold positional at h
  dsimp only at h
  split_ifs at h with hsmall hwhole
  · simp only [List.cons_append, List.mem_cons, List.mem_append] at h
    rcases h with rfl | rfl | h | h
    · decide
    · decide
    · exact hzero c h
    · exact hdigit c h
  · rcases List.mem_append.1 h with h | h
    · exact hdigit c h
    · exact hzero c h
  · simp only [List.mem_append, List.mem_cons] at h
    rcases h with h | rfl | h
    · exact hdigit c (List.mem_of_mem_take h)
    · decide
    · exact hdigit c (List.mem_of_mem_drop h)

theorem positional_ne_nil (d : Decimal) : d.positional ≠ [] := by
  unfold positional
  dsimp only
  split_ifs with hsmall hwhole
  · simp
  · rw [← List.length_pos_iff, List.length_append, List.length_replicate]
    omega
  · simp

theorem isNumberChar_of_mem_scientific {d : Decimal} {c : Char} (h : c ∈ d.scientific) :
    isNumberChar c = true := by
  have hdigit : ∀ {c : Char}, c.isDigit = true → isNumberChar c = true := fun hc => by
    simp [isNumberChar, hc]
  simp only [scientific, List.mem_append, List.mem_cons] at h
  rcases h with h | rfl | rfl | h
  · have hdigits := fun c => isDigit_of_mem_significantDigits (d := d) (c := c)
    split at h
    · next hnil => simp_all [isNumberChar]
    · next digit hsingle => exact hdigit (hdigits c (hsingle ▸ h))
    · next digit digits _ hmany =>
      rw [hmany] at hdigits
      simp only [List.mem_cons] at h hdigits
      rcases h with rfl | rfl | h
      · exact hdigit (hdigits c (.inl rfl))
      · decide
      · exact hdigit (hdigits c (.inr h))
  · decide
  · split <;> decide
  · exact hdigit ((isNumeral_toDigits _).2 c h)

theorem scientific_ne_nil (d : Decimal) : d.scientific ≠ [] := by simp [scientific]

end Decimal

/-- Numbers keep to their line if what stands for infinity and for no number does. -/
theorem NumberLayout.tidy_write {layout : NumberLayout} (hinfinity : Tidy layout.infinity)
    (hnotANumber : Tidy layout.notANumber) (x : Binary64) : Tidy (layout.write x) := by
  have hsign : Inline (if x.isNegative then "-" else "") := by split <;> decide
  have hzero : Tidy "0" := ⟨by decide, '0', rfl, by decide⟩
  have hdigits : ∀ {cs : List Char}, cs ≠ [] → (∀ c ∈ cs, isNumberChar c = true) →
      Tidy (String.ofList cs) := fun hne hcs =>
    .of_forall (by simpa using hne) fun c hc =>
      isInline_of_isNumberChar (hcs c (by simpa using hc))
  unfold write
  generalize (if x.isNegative then "-" else "") = sign at hsign ⊢
  dsimp only
  split_ifs
  · exact hnotANumber
  · exact hinfinity.after hsign
  · exact hzero.after hsign
  · exact hzero.after (by decide)
  · refine (hdigits (Decimal.positional_ne_nil _) ?_).after hsign
    exact fun c => Decimal.isNumberChar_of_mem_positional
  · refine (hdigits (Decimal.scientific_ne_nil _) ?_).after hsign
    exact fun c => Decimal.isNumberChar_of_mem_scientific

end ScriptSteps
