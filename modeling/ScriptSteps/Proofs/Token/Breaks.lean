import Mathlib
import ScriptSteps.Proofs.Token.Kinds

/-!
# Separators end tokens

Apart from strings no token goes on with a blank, the end of a line, a bracket or a semicolon after
its first character, so what such a token is does not depend on what such a character starts. A
string may go on with any of them; it does not depend on what comes after the place where it stops.

## Main definitions

* `separates`, `Separates`: a character, and a text, with which no token goes on
* `BreaksOff`: a text that is empty or starts with a line break
* `cursorFrom`: the cursor at the start of a text that stands anywhere

## Main statements

* `lexeme_append`: a token that is no string, before a separator
* `stringBody_take`: a string by itself, or before anything if it stops before the end
* `stringBody_append`: a string, before anything
* `trivia_append`: blanks and comments that end, before a separator
-/

namespace ScriptSteps

/-! ## Separators -/

/-- The characters that signs and comments go on with, that comments end with, and that stand in
numbers without being in a name. -/
def signTails : List Char := ['.', '/', '*', '+', '-', '=', '&', '|', '?', '<', '>']

/-- A character with which no token but a string goes on. -/
def separates (c : Char) : Bool := !Text.isNamePart c && !signTails.contains c

/-- A text that is empty or starts with such a character. -/
def Separates (tail : List Char) : Prop := ∀ c ∈ tail.head?, separates c = true

/-- A text that is empty or starts with a line break. -/
def BreaksOff (tail : List Char) : Prop := ∀ c ∈ tail.head?, c = '\n' ∨ c = '\r'

theorem separates_of_isBlank {c : Char} (h : Text.isBlank c = true) : separates c = true := by
  have hsigns : (signTails.all fun d => !Text.isBlank d) = true := rfl
  have hsign : c ∉ signTails := by
    intro hmem
    have hblank := List.all_eq_true.1 hsigns c hmem
    simp [h] at hblank
  simpa [separates, Text.isNamePart_eq_false_of_isBlank h] using hsign

theorem separates_eq_false_of_isNamePart {c : Char} (h : Text.isNamePart c = true) :
    separates c = false := by
  simp [separates, h]

theorem breaksOff_newline (cs : List Char) : BreaksOff ('\n' :: cs) := by simp [BreaksOff]

theorem BreaksOff.separates {tail : List Char} (h : BreaksOff tail) : Separates tail := by
  intro c hc
  rcases h c hc with rfl | rfl <;> decide

theorem separates_cons {c : Char} (h : separates c = true) (cs : List Char) :
    Separates (c :: cs) := by
  simpa [Separates] using h

theorem Separates.stops {tail : List Char} (h : Separates tail) {class_ : Char → Bool}
    (hclass : ∀ c, class_ c = true → separates c = false) : Stops class_ tail := by
  intro c hc
  by_contra hin
  have hjoins := hclass c (by simpa using hin)
  rw [h c hc] at hjoins
  cases hjoins

/-- A text before a separator starts as the two together do, unless with that separator. -/
theorem Separates.exists_cons {tail : List Char} (h : Separates tail) {c : Char}
    (hc : separates c = false) {cs ds : List Char} (heq : cs ++ tail = c :: ds) :
    ∃ es, cs = c :: es := by
  cases cs with
  | nil =>
    have hhead := h c (by rw [← List.nil_append tail, heq]; rfl)
    rw [hc] at hhead
    cases hhead
  | cons d cs => exact ⟨cs, by rw [(List.cons.inj heq).1]⟩

/-! ## Runs of characters -/

section Runs

variable {class_ : Char → Bool} {tail : List Char}

theorem Stops.takeWhile_eq_nil (h : Stops class_ tail) : tail.takeWhile class_ = [] := by
  cases tail with
  | nil => rfl
  | cons c tail => simp [h c rfl]

theorem Stops.dropWhile_eq_self (h : Stops class_ tail) : tail.dropWhile class_ = tail := by
  cases tail with
  | nil => rfl
  | cons c tail => simp [h c rfl]

theorem Stops.takeWhile_append (h : Stops class_ tail) (cs : List Char) :
    (cs ++ tail).takeWhile class_ = cs.takeWhile class_ := by
  induction cs with
  | nil => exact h.takeWhile_eq_nil
  | cons c cs ih =>
    rw [List.cons_append, List.takeWhile_cons, List.takeWhile_cons, ih]

theorem Stops.dropWhile_append (h : Stops class_ tail) (cs : List Char) :
    (cs ++ tail).dropWhile class_ = cs.dropWhile class_ ++ tail := by
  induction cs with
  | nil => exact h.dropWhile_eq_self
  | cons c cs ih =>
    rw [List.cons_append, List.dropWhile_cons, List.dropWhile_cons, ih]
    split <;> rfl

end Runs

/-! ## Numbers -/

theorem toNat_lt_of_isAlpha {c : Char} (h : c.isAlpha = true) : c.toNat < 128 := by
  have hval : c.toNat = c.val.toNat := rfl
  simp only [Char.isAlpha, Char.isUpper, Char.isLower, Bool.or_eq_true, Bool.and_eq_true,
    decide_eq_true_eq, UInt32.le_iff_toNat_le, ge_iff_le] at h
  grind

theorem separates_eq_false_of_isAlphanum {c : Char} (h : (c.isAlphanum || c == '_') = true) :
    separates c = false := by
  refine separates_eq_false_of_isNamePart ?_
  rw [Bool.or_eq_true, Char.isAlphanum, Bool.or_eq_true, beq_iff_eq] at h
  rcases h with (halpha | hdigit) | rfl
  · have hbelow := toNat_lt_of_isAlpha halpha
    exact Text.isNamePart_of_isNameStart (by simp [Text.isNameStart, hbelow, halpha])
  · exact Text.isNamePart_of_isDigit hdigit
  · decide

theorem separates_eq_false_of_isDigitOrGap {c : Char} (h : isDigitOrGap c = true) :
    separates c = false := by
  refine separates_eq_false_of_isAlphanum ?_
  rw [isDigitOrGap, Bool.or_eq_true] at h
  rw [Bool.or_eq_true, Char.isAlphanum, Bool.or_eq_true]
  exact h.imp_left .inr

namespace DecimalLiteral

theorem splitFraction_append {tail : List Char} (h : Separates tail) (cs : List Char) :
    splitFraction (cs ++ tail) = ((splitFraction cs).1, (splitFraction cs).2 ++ tail) := by
  have hstops : Stops isDigitOrGap tail := h.stops fun _ => separates_eq_false_of_isDigitOrGap
  have hname : Stops Text.isNameStart tail := h.stops fun _ hc =>
    separates_eq_false_of_isNamePart (Text.isNamePart_of_isNameStart hc)
  by_cases hdot : ∃ ds, cs = '.' :: ds
  · obtain ⟨ds, rfl⟩ := hdot
    have htake := hstops.takeWhile_append ds
    have hdrop := hstops.dropWhile_append ds
    cases ds with
    | nil =>
      cases tail with
      | nil => rfl
      | cons c tail => simp_all [splitFraction, hname c rfl]
    | cons c ds =>
      simp only [List.cons_append] at htake hdrop ⊢
      rw [splitFraction.eq_1, splitFraction.eq_1, htake, hdrop]
      split <;> rfl
  · rw [splitFraction.eq_3 cs fun ds hds => hdot ⟨ds, hds⟩, splitFraction.eq_3]
    exact fun ds hds => hdot (h.exists_cons (by decide) hds)

theorem exponentAt?_append {tail : List Char} (h : Separates tail) (cs : List Char) :
    exponentAt? (cs ++ tail) = exponentAt? cs := by
  have hstops : Stops isDigitOrGap tail := h.stops fun _ => separates_eq_false_of_isDigitOrGap
  have hfront : ∀ {c : Char} {ds : List Char}, separates c = false →
      (∀ es, ds = c :: es → False) → ∀ es, ds ++ tail = c :: es → False := by
    intro c ds hc hnone es hes
    obtain ⟨fs, hfs⟩ := h.exists_cons hc hes
    exact hnone fs hfs
  fun_cases exponentAt? cs with
  | case1 ds => simp [exponentAt?, hstops.takeWhile_append]
  | case2 ds => simp [exponentAt?, hstops.takeWhile_append]
  | case3 ds hplus hminus =>
    rw [List.cons_append, exponentAt?.eq_3, hstops.takeWhile_append]
    · exact hfront (by decide) hplus
    · exact hfront (by decide) hminus
  | case4 ds => simp [exponentAt?, hstops.takeWhile_append]
  | case5 ds => simp [exponentAt?, hstops.takeWhile_append]
  | case6 ds hplus hminus =>
    rw [List.cons_append, exponentAt?.eq_6, hstops.takeWhile_append]
    · exact hfront (by decide) hplus
    · exact hfront (by decide) hminus
  | case7 _ hlower hupper =>
    rw [exponentAt?.eq_7]
    · exact hfront (by decide) hlower
    · exact hfront (by decide) hupper

theorem ofChars_append {tail : List Char} (h : Separates tail) (cs : List Char) :
    ofChars (cs ++ tail) = ofChars cs := by
  have hstops : Stops isDigitOrGap tail := h.stops fun _ => separates_eq_false_of_isDigitOrGap
  simp only [ofChars, hstops.takeWhile_append, hstops.dropWhile_append, splitFraction_append h,
    exponentAt?_append h]

theorem length_splitFraction (cs : List Char) :
    ((splitFraction cs).1.map (·.length + 1)).getD 0 + (splitFraction cs).2.length
      = cs.length := by
  have hsplit (ds : List Char) : (ds.takeWhile isDigitOrGap).length
      + (ds.dropWhile isDigitOrGap).length = ds.length := by
    rw [← List.length_append, List.takeWhile_append_dropWhile]
  fun_cases splitFraction cs with
  | case1 ds => simp
  | case2 ds =>
    have := hsplit ds
    simp only [Option.map_some, Option.getD_some, List.length_cons]
    omega
  | case3 => simp

theorem length_exponentAt?_le (cs : List Char) :
    ((exponentAt? cs).map fun part => part.1.length + part.2.length + 1).getD 0
      ≤ cs.length := by
  have htake (ds : List Char) : (ds.takeWhile isDigitOrGap).length ≤ ds.length :=
    (List.takeWhile_prefix _).length_le
  fun_cases exponentAt? cs <;> simp <;> grind

theorem length_ofChars_le (cs : List Char) : (ofChars cs).length ≤ cs.length := by
  have hwhole : (cs.takeWhile isDigitOrGap).length + (cs.dropWhile isDigitOrGap).length
      = cs.length := by
    rw [← List.length_append, List.takeWhile_append_dropWhile]
  have hfraction := length_splitFraction (cs.dropWhile isDigitOrGap)
  have hexponent := length_exponentAt?_le (splitFraction (cs.dropWhile isDigitOrGap)).2
  simp only [ofChars, length]
  omega

end DecimalLiteral

theorem numberLexeme_append {tail : List Char} (h : Separates tail) (first : Char)
    (cs : List Char) : numberLexeme first (cs ++ tail) = numberLexeme first cs := by
  have hdecimal (ds : List Char) : decimalLexeme first (ds ++ tail) = decimalLexeme first ds := by
    rw [decimalLexeme, decimalLexeme, ← List.cons_append, DecimalLiteral.ofChars_append h]
  have halnum : Stops (fun c => c.isAlphanum || c == '_') tail := h.stops fun _ =>
    separates_eq_false_of_isAlphanum
  by_cases hzero : first = '0'
  · subst hzero
    cases cs with
    | nil =>
      cases tail with
      | nil => rfl
      | cons c tail =>
        have hradix : radixOf? c = none := by
          have hc : separates c = true := h c rfl
          unfold radixOf?
          split <;> first | rfl | exact absurd hc (by decide)
        simpa [numberLexeme, hradix] using hdecimal []
    | cons c cs =>
      simp only [List.cons_append, numberLexeme]
      cases radixOf? c with
      | none => exact hdecimal (c :: cs)
      | some radix => simp only [radixLexeme, halnum.takeWhile_append]
  · rw [numberLexeme.eq_2, numberLexeme.eq_2, hdecimal]
    all_goals exact fun _ _ hfirst => absurd hfirst hzero

theorem length_numberLexeme_le (first : Char) (cs : List Char) :
    (numberLexeme first cs).2 ≤ cs.length := by
  have hdecimal : (decimalLexeme first cs).2 ≤ cs.length := by
    have := DecimalLiteral.length_ofChars_le (first :: cs)
    rw [List.length_cons] at this
    unfold decimalLexeme
    dsimp only
    split <;> simp only <;> omega
  unfold numberLexeme
  split
  · split
    · unfold radixLexeme
      have htake (ds : List Char) : (ds.takeWhile fun c => c.isAlphanum || c == '_').length
          ≤ ds.length := (List.takeWhile_prefix _).length_le
      dsimp only
      split <;> simp only [List.length_cons] <;> grind
    · exact hdecimal
  · exact hdecimal

/-! ## Words and signs -/

theorem wordLexeme_append {tail : List Char} (h : Separates tail) (first : Char)
    (cs : List Char) : wordLexeme first (cs ++ tail) = wordLexeme first cs := by
  have hstops : Stops Text.isNamePart tail := h.stops fun _ => separates_eq_false_of_isNamePart
  simp only [wordLexeme, hstops.takeWhile_append]

theorem length_wordLexeme_le (first : Char) (cs : List Char) :
    (wordLexeme first cs).2 ≤ cs.length := by
  unfold wordLexeme
  dsimp only
  split <;> exact (List.takeWhile_prefix _).length_le

theorem Separates.prefix_of_append {tail : List Char} (h : Separates tail) {text cs : List Char}
    (htext : ∀ c ∈ text, separates c = false) (hstarts : text <+: cs ++ tail) : text <+: cs := by
  induction text generalizing cs with
  | nil => exact List.nil_prefix
  | cons c text ih =>
    obtain ⟨ds, hds⟩ := hstarts
    obtain ⟨es, rfl⟩ := h.exists_cons (htext c List.mem_cons_self) hds.symm
    rw [List.cons_append, List.cons_append, List.cons_inj_right] at hds
    exact List.cons_prefix_cons.2 ⟨rfl, ih (fun d hd => htext d (List.mem_cons_of_mem c hd))
      ⟨ds, hds⟩⟩

/-- A sign at the front of a text stands there before the first separator after it starts. -/
theorem Punctuator.prefix_append_iff {tail : List Char} (h : Separates tail) (p : Punctuator)
    (first : Char) (cs : List Char) :
    p.text.toList <+: first :: (cs ++ tail) ↔ p.text.toList <+: first :: cs := by
  refine ⟨fun hp => ?_, fun hp => hp.trans (List.prefix_append (first :: cs) tail)⟩
  have hjoins : (all.all fun q => q.text.toList.tail.all fun c => !separates c) = true := by
    decide +kernel
  have htext : ∀ c ∈ p.text.toList.tail, separates c = false := by
    simpa using List.all_eq_true.1 hjoins p p.mem_all
  cases hchars : p.text.toList with
  | nil => exact List.nil_prefix
  | cons c text =>
    rw [hchars] at hp htext
    obtain ⟨hfirst, hlater⟩ := List.cons_prefix_cons.1 hp
    exact List.cons_prefix_cons.2 ⟨hfirst, h.prefix_of_append htext hlater⟩

theorem prefix_of_punctuatorAt? {cs : List Char} {p : Punctuator} (h : punctuatorAt? cs = some p) :
    p.text.toList <+: cs := by
  obtain ⟨length, -, hfind⟩ := List.exists_of_findSome?_eq_some h
  have hp := List.find?_some hfind
  rw [Bool.and_eq_true] at hp
  exact List.isPrefixOf_iff_prefix.1 hp.2

theorem signLexeme_append {tail : List Char} (h : Separates tail) (first : Char)
    (cs : List Char) : signLexeme first (cs ++ tail) = signLexeme first cs := by
  have hstarts (p : Punctuator) : p.text.toList.isPrefixOf (first :: (cs ++ tail))
      = p.text.toList.isPrefixOf (first :: cs) := by
    rw [Bool.eq_iff_iff, List.isPrefixOf_iff_prefix, List.isPrefixOf_iff_prefix]
    exact p.prefix_append_iff h first cs
  simp only [signLexeme, punctuatorAt?, hstarts]

theorem length_signLexeme_le (first : Char) (cs : List Char) :
    (signLexeme first cs).2 ≤ cs.length := by
  unfold signLexeme
  split
  case h_1 p hp =>
    have := (prefix_of_punctuatorAt? hp).length_le
    rw [List.length_cons] at this
    exact Nat.sub_le_of_le_add this
  case h_2 => exact Nat.zero_le _

/-! ## Strings -/

theorem length_stringBody_le (quote : Char) (cs : List Char) :
    (stringBody quote cs).2 ≤ cs.length := by
  fun_induction stringBody quote cs <;> simp_all [stringBody.extend] <;> omega

/-- A character of a string that is no backslash. -/
theorem stringBody_cons {c : Char} (hc : c ≠ '\\') (quote : Char) (cs : List Char) :
    stringBody quote (c :: cs)
      = if c = '\n' ∨ c = '\r' then (none, 1)
        else if c = quote then (some [], 1)
        else stringBody.extend [c] 1 (stringBody quote cs) :=
  stringBody.eq_5 quote c cs (fun h _ => hc h) (fun _ h _ => hc h) (fun _ _ h _ => hc h)

/-- What cannot be followed by nothing nor by anything is not there. -/
theorem ne_of_no_rest {c d : Char} {cs : List Char} (hlast : c = d → cs = [] → False)
    (hback : ∀ e ds, c = d → cs = e :: ds → False) : c ≠ d := by
  intro hc
  cases cs with
  | nil => exact hlast hc rfl
  | cons e ds => exact hback e ds hc rfl

theorem snd_stringBody_extend (value : List Char) (n : ℕ) (body : Option (List Char) × ℕ) :
    (stringBody.extend value n body).2 = n + body.2 := rfl

/-- A string takes at least one character of what there is. -/
theorem stringBody_pos {quote : Char} {cs : List Char} (h : cs ≠ []) :
    0 < (stringBody quote cs).2 := by
  fun_cases stringBody quote cs <;> simp_all [snd_stringBody_extend]

/-- A string is read off its own characters, whatever follows if it stops before the end. -/
theorem stringBody_take {quote : Char} {cs tail : List Char}
    (h : tail = [] ∨ (stringBody quote cs).2 < cs.length) :
    stringBody quote (cs.take (stringBody quote cs).2 ++ tail) = stringBody quote cs := by
  fun_induction stringBody quote cs with
  | case1 => simp_all [stringBody]
  | case2 => simp_all [stringBody]
  | case3 cs ih =>
    rw [snd_stringBody_extend, List.length_cons, List.length_cons, List.length_cons] at h
    rw [snd_stringBody_extend, Nat.add_comm 3, List.take_succ_cons, List.take_succ_cons,
      List.take_succ_cons, List.cons_append, List.cons_append, List.cons_append, stringBody,
      ih (h.imp_right fun hlt => by omega)]
  | case4 c cs hreturn ih =>
    rw [snd_stringBody_extend, List.length_cons, List.length_cons] at h
    rw [snd_stringBody_extend, Nat.add_comm 2, List.take_succ_cons, List.take_succ_cons,
      List.cons_append, List.cons_append, stringBody.eq_4,
      ih (h.imp_right fun hlt => by omega)]
    -- A line feed would follow the escaped carriage return in the longer text, too.
    rintro ds rfl hds
    cases cs with
    | nil =>
      rcases h with rfl | hlt
      · simp at hds
      · rw [List.length_nil] at hlt
        omega
    | cons d cs =>
      have hpos : 0 < (stringBody quote (d :: cs)).2 := stringBody_pos (List.cons_ne_nil d cs)
      obtain ⟨n, hn⟩ := Nat.exists_eq_add_of_lt hpos
      rw [hn, Nat.zero_add, List.take_succ_cons] at hds
      exact hreturn cs rfl (by rw [(List.cons.inj hds).1])
  | case5 c cs hlast _ hback hbreak =>
    rw [List.take_succ_cons, List.cons_append, stringBody_cons (ne_of_no_rest hlast hback),
      if_pos hbreak]
  | case6 cs hlast _ hback hbreak =>
    rw [List.take_succ_cons, List.cons_append, stringBody_cons (ne_of_no_rest hlast hback),
      if_neg hbreak, if_pos rfl]
  | case7 c cs hlast _ hback hbreak hquote ih =>
    rw [snd_stringBody_extend, List.length_cons] at h
    rw [snd_stringBody_extend, Nat.add_comm 1, List.take_succ_cons, List.cons_append,
      stringBody_cons (ne_of_no_rest hlast hback), if_neg hbreak, if_neg hquote,
      ih (h.imp_right fun hlt => by omega)]

/-- A string that stops before the end of a text stops there whatever follows. -/
theorem stringBody_append {quote : Char} {cs : List Char}
    (h : (stringBody quote cs).2 < cs.length) (tail : List Char) :
    stringBody quote (cs ++ tail) = stringBody quote cs := by
  have hown : stringBody quote (cs.take (stringBody quote cs).2
      ++ (cs.drop (stringBody quote cs).2 ++ tail)) = stringBody quote cs :=
    stringBody_take (.inr h)
  rwa [← List.append_assoc, List.take_append_drop] at hown

theorem stringBody_extend_closed {value : List Char} {n : ℕ} {body : Option (List Char) × ℕ}
    (h : (stringBody.extend value n body).1 ≠ none) : body.1 ≠ none := by
  rintro hnone
  simp [stringBody.extend, hnone] at h

/-- A closed string stops at its closing quote, whatever follows. -/
theorem stringBody_closed {quote : Char} {cs : List Char}
    (h : (stringBody quote cs).1 ≠ none) :
    (cs.take (stringBody quote cs).2).getLast? = some quote
      ∧ ∀ tail, stringBody quote (cs ++ tail) = stringBody quote cs := by
  fun_induction stringBody quote cs with
  | case1 => exact absurd rfl h
  | case2 => exact absurd rfl h
  | case3 cs ih =>
    obtain ⟨hquote, happend⟩ := ih (stringBody_extend_closed h)
    refine ⟨?_, fun tail => ?_⟩
    · simp [stringBody.extend, Nat.add_comm 3, List.getLast?_cons, hquote]
    · simp only [List.cons_append, stringBody, happend]
  | case4 c cs hreturn ih =>
    have hclosed := stringBody_extend_closed h
    obtain ⟨hquote, happend⟩ := ih hclosed
    refine ⟨?_, fun tail => ?_⟩
    · simp [stringBody.extend, Nat.add_comm 2, List.getLast?_cons, hquote]
    · rw [List.cons_append, List.cons_append, stringBody.eq_4, happend]
      rintro ds hc hds
      -- Nothing is closed at once after an escape.
      cases cs with
      | nil => exact hclosed (by simp [stringBody])
      | cons d cs => exact hreturn cs hc (by rw [(List.cons.inj hds).1])
  | case5 c cs hlast _ hback hbreak => exact absurd rfl h
  | case6 cs hlast _ hback hbreak =>
    refine ⟨rfl, fun tail => ?_⟩
    rw [List.cons_append, stringBody_cons (ne_of_no_rest hlast hback), if_neg hbreak, if_pos rfl]
  | case7 c cs hlast _ hback hbreak hne ih =>
    obtain ⟨hquote, happend⟩ := ih (stringBody_extend_closed h)
    refine ⟨?_, fun tail => ?_⟩
    · simp [stringBody.extend, Nat.add_comm 1, List.getLast?_cons, hquote]
    · rw [List.cons_append, stringBody_cons (ne_of_no_rest hlast hback), if_neg hbreak,
        if_neg hne, happend]

theorem snd_stringLexeme (quote : Char) (cs : List Char) :
    (stringLexeme quote cs).2 = (stringBody quote cs).2 := by
  unfold stringLexeme
  split <;> simp_all

theorem stringLexeme_append {quote : Char} {cs : List Char}
    (h : (stringLexeme quote cs).2 < cs.length) (tail : List Char) :
    stringLexeme quote (cs ++ tail) = stringLexeme quote cs := by
  rw [snd_stringLexeme] at h
  rw [stringLexeme, stringLexeme, stringBody_append h]

/-! ## Any token -/

theorem length_lexeme_le (first : Char) (cs : List Char) : (lexeme first cs).2 ≤ cs.length := by
  unfold lexeme
  split
  · unfold stringLexeme
    have := length_stringBody_le first cs
    split <;> simp_all
  · split
    · exact length_numberLexeme_le first cs
    · split
      · exact length_wordLexeme_le first cs
      · exact length_signLexeme_le first cs

/-- A token that is no string does not go on with a separator. -/
theorem lexeme_append {first : Char} (hquote : ¬(first = '"' ∨ first = '\'')) {tail : List Char}
    (h : Separates tail) (cs : List Char) : lexeme first (cs ++ tail) = lexeme first cs := by
  simp only [lexeme, if_neg hquote, numberLexeme_append h, wordLexeme_append h,
    signLexeme_append h]

/-- Such a token has no separator after its first character. -/
theorem not_mem_lexeme {first : Char} (hquote : ¬(first = '"' ∨ first = '\'')) {c : Char}
    (hc : separates c = true) (cs : List Char) : c ∉ cs.take (lexeme first cs).2 := by
  intro hmem
  obtain ⟨i, hi, hget⟩ := List.mem_iff_getElem.1 hmem
  rw [List.length_take, Nat.lt_min] at hi
  have hcs : cs = cs.take i ++ c :: cs.drop (i + 1) := by
    rw [List.getElem_take] at hget
    rw [← hget, ← List.drop_eq_getElem_cons hi.2, List.take_append_drop]
  have hsame := lexeme_append hquote (separates_cons hc (cs.drop (i + 1))) (cs.take i)
  have hwithin := length_lexeme_le first (cs.take i)
  rw [← hcs] at hsame
  rw [← hsame, List.length_take] at hwithin
  omega

/-- Such a token is on one line. -/
theorem isLineEnd_of_mem_lexeme {first : Char} (hquote : ¬(first = '"' ∨ first = '\''))
    (hfirst : Text.isBlank first = false) {cs : List Char} {c : Char}
    (hc : c ∈ first :: cs.take (lexeme first cs).2) : Text.isLineEnd c = false := by
  rw [Bool.eq_false_iff]
  intro hline
  have hblank := Text.isBlank_of_isLineEnd hline
  rcases List.mem_cons.1 hc with rfl | hmem
  · simp [hfirst] at hblank
  · exact not_mem_lexeme hquote (separates_of_isBlank hblank) cs hmem

/-! ## Blanks and comments -/

theorem trivia_append {tail : List Char} (h : Separates tail) :
    (∀ cs, triviaLength cs < cs.length → triviaLength (cs ++ tail) = triviaLength cs)
    ∧ (∀ cs, blockCommentLength cs < cs.length →
        blockCommentLength (cs ++ tail) = blockCommentLength cs)
    ∧ ∀ cs, lineCommentLength cs < cs.length →
        lineCommentLength (cs ++ tail) = lineCommentLength cs := by
  have hfront : ∀ {c d : Char} {cs : List Char}, separates d = false →
      (∀ ds, c = '/' → cs = d :: ds → False) → ∀ ds, c = '/' → cs ++ tail = d :: ds → False := by
    intro c d cs hjoins hnone ds hc hds
    obtain ⟨es, hes⟩ := h.exists_cons hjoins hds
    exact hnone es hc hes
  apply triviaLength.mutual_induct
  case case1 => simp [triviaLength]
  case case2 =>
    intro cs ih hlt
    simp only [triviaLength, List.length_cons, List.cons_append] at hlt ⊢
    rw [ih (by omega)]
  case case3 =>
    intro cs ih hlt
    simp only [triviaLength, List.length_cons, List.cons_append] at hlt ⊢
    rw [ih (by omega)]
  case case4 =>
    intro c cs hline hblock hblank ih hlt
    rw [triviaLength.eq_4 c cs hline hblock, if_pos hblank] at hlt ⊢
    rw [List.length_cons] at hlt
    rw [List.cons_append, triviaLength.eq_4 c (cs ++ tail)
      (hfront (by decide) hline) (hfront (by decide) hblock),
      if_pos hblank, ih (by omega)]
  case case5 =>
    intro c cs hline hblock hblank _
    rw [triviaLength.eq_4 c cs hline hblock, List.cons_append, triviaLength.eq_4 c (cs ++ tail)
      (hfront (by decide) hline) (hfront (by decide) hblock),
      if_neg hblank, if_neg hblank]
  case case6 => simp [blockCommentLength]
  case case7 =>
    intro cs ih hlt
    simp only [blockCommentLength, List.length_cons, List.cons_append] at hlt ⊢
    rw [ih (by omega)]
  case case8 =>
    intro c cs hclose ih hlt
    rw [blockCommentLength.eq_3 c cs hclose] at hlt ⊢
    rw [List.length_cons] at hlt
    rw [List.cons_append, blockCommentLength.eq_3, ih (by omega)]
    intro ds hc hds
    obtain ⟨es, hes⟩ := h.exists_cons (by decide) hds
    exact hclose es hc hes
  case case9 => simp [lineCommentLength]
  case case10 =>
    intro c cs ihTrivia ihComment hlt
    simp only [lineCommentLength, List.length_cons, List.cons_append] at hlt ⊢
    split at hlt
    case isTrue hend => rw [if_pos hend, if_pos hend, ihTrivia (by omega)]
    case isFalse hend => rw [if_neg hend, if_neg hend, ihComment (by omega)]

/-- After blanks and comments there is no blank. -/
theorem trivia_stops :
    (∀ cs : List Char, Stops Text.isBlank (cs.drop (triviaLength cs)))
    ∧ (∀ cs : List Char, Stops Text.isBlank (cs.drop (blockCommentLength cs)))
    ∧ ∀ cs : List Char, Stops Text.isBlank (cs.drop (lineCommentLength cs)) := by
  apply triviaLength.mutual_induct
  case case5 =>
    intro c cs hline hblock hblank
    rw [triviaLength.eq_4 c cs hline hblock, if_neg hblank]
    simpa [Stops] using hblank
  case case8 =>
    intro c cs hclose ih
    rwa [blockCommentLength.eq_3 c cs hclose, Nat.add_comm, List.drop_succ_cons]
  case case4 =>
    intro c cs _ _ hblank ih
    rwa [triviaLength_blank hblank, Nat.add_comm, List.drop_succ_cons]
  case case10 =>
    intro c cs ihTrivia ihComment
    rw [lineCommentLength, Nat.add_comm, List.drop_succ_cons]
    split
    · exact ihTrivia
    · exact ihComment
  all_goals simp_all [Stops, triviaLength, blockCommentLength, lineCommentLength, Nat.add_comm 2]

/-- A token does not start with a blank. -/
theorem isBlank_of_drop_triviaLength {cs : List Char} {first : Char} {rest : List Char}
    (h : cs.drop (triviaLength cs) = first :: rest) : Text.isBlank first = false :=
  trivia_stops.1 cs first (by rw [h]; rfl)

/-! ## Cursors -/

/-- The cursor at the start of a text whose first character is at a place. -/
def cursorFrom (p : Position) (cs : List Char) : Cursor :=
  ⟨p.line, (scanFrom p cs).1.map fun t => ⟨t.kind, t.line⟩, (scanFrom p cs).2.line⟩

theorem ofSource_eq_cursorFrom (source : String) :
    Cursor.ofSource source = cursorFrom .start source.toList := rfl

theorem cursorFrom_nil {p : Position} {cs : List Char} (h : cs.drop (triviaLength cs) = []) :
    cursorFrom p cs = ⟨p.line, [], (p.past cs []).line⟩ := by
  rw [cursorFrom, scanFrom_nil h]
  rfl

theorem cursorFrom_blank {c : Char} (h : Text.isBlank c = true) (p : Position) (cs : List Char) :
    cursorFrom p (c :: cs) = { cursorFrom (p.step c cs.head?) cs with previousLine := p.line } := by
  rw [cursorFrom, scanFrom_blank h]
  rfl

theorem FirstToken.cursorFrom_eq {cs gap text rest : List Char} {kind : TokenKind}
    (h : FirstToken cs gap kind text rest) (p : Position) :
    cursorFrom p cs = ⟨p.line, ⟨kind, (p.past gap (text ++ rest)).line⟩
        :: (cursorFrom (p.past (gap ++ text) rest) rest).terminals,
      (cursorFrom (p.past (gap ++ text) rest) rest).endLine⟩ := by
  rw [cursorFrom, h.scanFrom_eq]
  rfl

end ScriptSteps
