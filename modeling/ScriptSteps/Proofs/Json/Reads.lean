import Mathlib
import ScriptSteps.Json.Reader
import ScriptSteps.Proofs.Token.Literals

/-!
# Written values are read back

A quoted text is read back as the same text, digits as their number, and arrays and objects as their
items and members in order. What follows the value does not matter, as long as it cannot go on as a
number.

## Main definitions

* `Json.Ends`: the texts that cannot go on as a number
* `Json.Reads`, `Json.ReadsMember`: what a text is read as, whatever follows

## Main statements

* `Json.string?_quote`: a quoted text is read back
* `Json.reads_toString`, `Json.reads_writeArray`, `Json.reads_writeObject`: so are numbers, arrays
  and objects
-/

namespace ScriptSteps.Json

/-! ## Strings -/

theorem hexValue?_hexDigit {n : ℕ} (h : n < 16) : Text.hexValue? (hexDigit n) = some n := by
  revert n
  decide

theorem hexNumber?_hexDigits {n : ℕ} (h : n < 0x20) :
    Text.hexNumber? ['0', '0', hexDigit (n / 16), hexDigit (n % 16)] = some n := by
  have hzero : Text.hexValue? '0' = some 0 := by decide
  have hhigh := hexValue?_hexDigit (show n / 16 < 16 by omega)
  have hlow := hexValue?_hexDigit (show n % 16 < 16 by omega)
  simp [Text.hexNumber?, hzero, hhigh, hlow, Nat.div_add_mod]

/-- One more unit at the start of a string that is read. -/
def addUnit (unit : ℕ) : Option (List ℕ × List Char) → Option (List ℕ × List Char) :=
  Option.map fun (units, rest) => (unit :: units, rest)

theorem units?_short {e c : Char} (h : shortEscape? e = some c) (rest : List Char) :
    units? ('\\' :: e :: rest) = addUnit c.toNat (units? rest) := by
  have hu : e ≠ 'u' := by
    rintro rfl
    cases h
  rw [units?.eq_4 e rest fun _ _ _ _ _ heq => absurd heq hu, h]
  cases units? rest <;> rfl

/-- The units of a string with a character in front are that character's and the others. -/
theorem units?_escapedChar (c : Char) (rest : List Char) :
    units? (escapedChar c ++ rest) = addUnit c.toNat (units? rest) := by
  unfold escapedChar
  split_ifs with hquote hbackslash hb hf hn hr ht hcontrol
  · subst hquote
    exact units?_short rfl rest
  · subst hbackslash
    exact units?_short rfl rest
  · exact hb ▸ units?_short rfl rest
  · exact hf ▸ units?_short rfl rest
  · exact hn ▸ units?_short rfl rest
  · exact hr ▸ units?_short rfl rest
  · exact ht ▸ units?_short rfl rest
  · simp only [List.cons_append, List.nil_append, units?, hexNumber?_hexDigits hcontrol]
    cases units? rest <;> rfl
  · rw [List.singleton_append, units?.eq_5 c rest hquote (fun _ _ _ _ _ heq _ => hbackslash heq)
      (fun _ _ heq _ => hbackslash heq), if_neg (by simp [hcontrol, hbackslash])]
    cases units? rest <;> rfl

theorem units?_quoted (cs rest : List Char) :
    units? (cs.flatMap escapedChar ++ '"' :: rest) = some (cs.map Char.toNat, rest) := by
  induction cs with
  | nil => simp [units?]
  | cons c cs ih =>
    rw [List.flatMap_cons, List.append_assoc, units?_escapedChar, ih]
    rfl

/-- No character is half of a surrogate pair. -/
theorem not_surrogate (c : Char) : ¬(0xd800 ≤ c.toNat ∧ c.toNat < 0xe000) := by
  have hvalid := c.valid
  simp only [UInt32.isValidChar, Nat.isValidChar] at hvalid
  change c.toNat < 0xd800 ∨ 0xdfff < c.toNat ∧ c.toNat < 0x110000 at hvalid
  omega

theorem textOfUnits?_map_toNat (cs : List Char) : textOfUnits? (cs.map Char.toNat) = some cs := by
  induction cs with
  | nil => rfl
  | cons c cs ih =>
    have hc := not_surrogate c
    cases cs with
    | nil =>
      rw [List.map_singleton, textOfUnits?.eq_3, if_neg hc, Char.ofNat_toNat]
    | cons d cs =>
      rw [List.map_cons] at ih
      rw [List.map_cons, List.map_cons, textOfUnits?.eq_2, if_neg (by omega), if_neg (by omega), ih,
        Char.ofNat_toNat]
      rfl

/-! ## Signs -/

theorem skipBlanks_cons {c : Char} (h : isBlank c = false) (cs : List Char) :
    skipBlanks (c :: cs) = c :: cs := by
  simp [skipBlanks, h]

theorem afterSign?_cons {sign : Char} (h : isBlank sign = false) (cs : List Char) :
    afterSign? sign (sign :: cs) = some ⟨cs, Nat.lt_succ_self _⟩ := by
  have hskip := skipBlanks_cons h cs
  unfold afterSign?
  split
  · simp_all
  · next c rest heq =>
    obtain ⟨rfl, rfl⟩ : sign = c ∧ cs = rest := by simpa [heq] using hskip.symm
    rw [if_pos rfl]

theorem afterSign?_eq_none {sign c : Char} (h : isBlank c = false) (hne : c ≠ sign)
    (cs : List Char) : afterSign? sign (c :: cs) = none := by
  have hskip := skipBlanks_cons h cs
  unfold afterSign?
  split
  · rfl
  · next d rest heq =>
    obtain ⟨rfl, rfl⟩ : c = d ∧ cs = rest := by simpa [heq] using hskip.symm
    rw [if_neg hne]

theorem checked?_some {α : Type} {cs rest : List Char} (h : rest.length < cs.length) (value : α) :
    checked? cs (some (value, rest)) = some (value, ⟨rest, h⟩) := by
  simp [checked?, h]

theorem toList_quote (s : String) (rest : List Char) :
    (quote s).toList ++ rest = '"' :: (s.toList.flatMap escapedChar ++ '"' :: rest) := by
  simp [quote]

/-- A quoted text is read back. -/
theorem string?_quote (s : String) (rest : List Char) :
    ∃ h, string? ((quote s).toList ++ rest) = some (some s, ⟨rest, h⟩) := by
  rw [toList_quote]
  refine ⟨by simp; omega, ?_⟩
  rw [string?, afterSign?_cons (by decide)]
  simp only [Option.bind_eq_bind, Option.bind_some, units?_quoted, Option.map_some,
    textOfUnits?_map_toNat, String.ofList_toList]
  exact checked?_some _ _

/-! ## Numbers -/

/-- Whether a character goes on with a number. -/
def extendsNumber (c : Char) : Bool := c.isDigit || c == '.' || c == 'e' || c == 'E'

/-- A text that cannot go on as a number. -/
def Ends (rest : List Char) : Prop := Stops extendsNumber rest

theorem ends_cons {c : Char} (h : extendsNumber c = false) (cs : List Char) : Ends (c :: cs) := by
  rintro d ⟨⟩
  exact h

theorem Ends.digits {rest : List Char} (h : Ends rest) : Stops Char.isDigit rest := by
  intro c hc
  have hnot := h c hc
  simp only [extendsNumber, Bool.or_eq_false_iff] at hnot
  exact hnot.1.1.1

theorem Ends.fraction? {rest : List Char} (h : Ends rest) :
    fraction? rest = some ([], rest) := by
  refine fraction?.eq_2 rest ?_
  rintro cs rfl
  exact absurd (h _ rfl) (by decide)

theorem Ends.exponent? {rest : List Char} (h : Ends rest) :
    exponent? rest = some ([], rest) := by
  rw [exponent?.eq_def]
  split
  · exact absurd (h _ rfl) (by decide)
  · exact absurd (h _ rfl) (by decide)
  · rfl

/-- Only zero is written with a zero in front. -/
theorem eq_zero_of_head?_toDigits {n : ℕ} (h : (Nat.toDigits 10 n).head? = some '0') : n = 0 := by
  induction n using Nat.strong_induction_on with
  | h n ih =>
    rw [Nat.toDigits_eq_if (by decide)] at h
    split at h
    · next hlt =>
      have hdigits : ∀ m < 10, Nat.digitChar m = '0' → m = 0 := by decide
      exact hdigits n hlt (by simpa using h)
    · next hle =>
      rw [List.head?_append_of_ne_nil _ Nat.toDigits_ne_nil] at h
      have hzero := ih (n / 10) (by omega) h
      omega

theorem number?_toDigits (n : ℕ) {rest : List Char} (h : Ends rest) :
    number? (Nat.toDigits 10 n ++ rest) = some (.natural n, rest) := by
  obtain ⟨hne, hdigits⟩ := isNumeral_toDigits n
  have htake := takeWhile_append_of_stops hdigits h.digits
  have hdrop := dropWhile_append_of_stops hdigits h.digits
  have hzero : ¬((Nat.toDigits 10 n).head? = some '0' ∧ (Nat.toDigits 10 n).length ≠ 1) := by
    rintro ⟨hhead, hlength⟩
    obtain rfl := eq_zero_of_head?_toDigits hhead
    exact hlength (by simp)
  have hsign : ∀ ds, Nat.toDigits 10 n ++ rest ≠ '-' :: ds := by
    intro ds heq
    obtain ⟨d, tail, hcons⟩ := List.exists_cons_of_ne_nil hne
    have hd := hdigits d (by simp [hcons])
    rw [hcons, List.cons_append, List.cons.injEq] at heq
    rw [heq.1] at hd
    exact absurd hd (by decide)
  rw [number?.eq_2 _ hsign]
  simp only [htake, hdrop, h.fraction?, h.exponent?, hne, hzero, or_self, if_false,
    Option.bind_eq_bind, Option.bind_some, and_self, if_true, Nat.ofDigitChars_ten_toDigits]
  rfl

/-! ## Values -/

section Heads

variable {cs tail : List Char}

theorem value?_of_quote (h : skipBlanks cs = '"' :: tail) :
    value? cs = (string? cs).map fun (text, rest) => (.string text, rest) := by
  rw [value?]
  split
  case h_2 => rfl
  case h_8 => simp_all
  all_goals next heq => simp [h] at heq

theorem value?_of_bracket (h : skipBlanks cs = '[' :: tail) :
    value? cs = (items? true tail).map fun (items, rest) =>
      (.array items, rest.within (length_lt_of_skipBlanks h)) := by
  rw [value?]
  split
  case h_3 rest heq =>
    obtain rfl : rest = tail := by simpa [h] using heq.symm
    cases items? true rest <;> rfl
  case h_8 => simp_all
  all_goals next heq => simp [h] at heq

theorem value?_of_brace (h : skipBlanks cs = '\x7b' :: tail) :
    value? cs = (members? true tail).map fun (members, rest) =>
      (.object members, rest.within (length_lt_of_skipBlanks h)) := by
  rw [value?]
  split
  case h_4 rest heq =>
    obtain rfl : rest = tail := by simpa [h] using heq.symm
    cases members? true rest <;> rfl
  case h_8 => simp_all
  all_goals next heq => simp [h] at heq

theorem value?_of_digit {c : Char} (hc : c.isDigit = true) (h : skipBlanks cs = c :: tail) :
    value? cs = checked? cs (number? (c :: tail)) := by
  -- None of the characters that select another rule is a digit.
  have hother (sign : Char) (hsign : sign.isDigit = false) (ds : List Char) :
      skipBlanks cs ≠ sign :: ds := by
    intro heq
    rw [h, List.cons.injEq] at heq
    rw [heq.1, hsign] at hc
    cases hc
  rw [value?]
  split
  case h_1 heq => simp [h] at heq
  case h_8 => rw [h]
  all_goals next heq => exact absurd heq (hother _ (by decide) _)

/-- No value starts with a closing bracket. -/
theorem value?_of_closing (h : skipBlanks cs = ']' :: tail) : value? cs = none := by
  rw [value?]
  split
  case h_8 =>
    rw [h, number?.eq_2 _ (by simp)]
    rfl
  all_goals next heq => simp [h] at heq

end Heads

/-- Whatever follows, the text is read as the value. -/
def Reads (text : String) (value : Json) : Prop :=
  ∀ rest, Ends rest → ∃ h, value? (text.toList ++ rest) = some (value, ⟨rest, h⟩)

/-- A text that is read as a value, whatever follows, is that value as a whole. -/
theorem Reads.parse? {text : String} {value : Json} (h : Reads text value) :
    parse? text = some value := by
  have hread := h [] (by simp [Ends, Stops])
  rw [List.append_nil] at hread
  obtain ⟨hless, hread⟩ := hread
  rw [Json.parse?, hread]
  rfl

theorem reads_quote (s : String) : Reads (quote s) (.string (some s)) := by
  intro rest _
  obtain ⟨hless, hread⟩ := string?_quote s rest
  refine ⟨hless, ?_⟩
  have hskip : skipBlanks ((quote s).toList ++ rest)
      = '"' :: (s.toList.flatMap escapedChar ++ '"' :: rest) := by
    rw [toList_quote]
    exact skipBlanks_cons (by decide) _
  rw [value?_of_quote hskip, hread]
  rfl

theorem isBlank_of_isDigit {c : Char} (h : c.isDigit = true) : isBlank c = false := by
  simp only [isBlank, Bool.or_eq_false_iff, beq_eq_false_iff_ne]
  refine ⟨⟨⟨?_, ?_⟩, ?_⟩, ?_⟩
  all_goals
    rintro rfl
    exact absurd h (by decide)

theorem reads_toString (n : ℕ) : Reads (toString n) (.natural n) := by
  intro rest hrest
  have hread := number?_toDigits n hrest
  obtain ⟨hne, hdigits⟩ := isNumeral_toDigits n
  obtain ⟨d, tail, hcons⟩ := List.exists_cons_of_ne_nil hne
  have hd := hdigits d (by simp [hcons])
  rw [Nat.toString_eq_repr, Nat.toList_repr, hcons, List.cons_append]
  rw [hcons, List.cons_append] at hread
  refine ⟨by simp, ?_⟩
  rw [value?_of_digit hd (skipBlanks_cons (isBlank_of_isDigit hd) _), hread]
  exact checked?_some _ _

/-! ## Arrays -/

section Arrays

variable {texts : List String} {rest : List Char}

/-- A text that a value is read off does not start with the end of an array. -/
theorem Reads.afterSign?_eq_none {text : String} {item : Json} (h : Reads text item)
    (hrest : Ends rest) : afterSign? ']' (text.toList ++ rest) = none := by
  obtain ⟨hless, hread⟩ := h rest hrest
  unfold afterSign?
  split
  · rfl
  · next c tail heq =>
    rw [if_neg]
    rintro rfl
    rw [value?_of_closing heq] at hread
    cases hread

theorem items?_last {text : String} {item : Json} (h : Reads text item) (first : Bool)
    (rest : List Char) :
    ∃ hless, items? first (text.toList ++ ']' :: rest) = some ([item], ⟨rest, hless⟩) := by
  have hends : Ends (']' :: rest) := ends_cons (by decide) rest
  obtain ⟨hless, hread⟩ := h _ hends
  refine ⟨by simp; omega, ?_⟩
  rw [items?, h.afterSign?_eq_none hends, ite_self]
  simp only [hread, Option.bind_eq_bind, Option.bind_some]
  rw [afterSign?_cons (by decide)]
  rfl

theorem items?_comma {text : String} {item : Json} (h : Reads text item) (first : Bool)
    {more : List Char} {items : List Json} {hless : rest.length < more.length}
    (hrest : items? false more = some (items, ⟨rest, hless⟩)) :
    ∃ hless', items? first (text.toList ++ ',' :: more) = some (item :: items, ⟨rest, hless'⟩) := by
  have hends : Ends (',' :: more) := ends_cons (by decide) more
  obtain ⟨_, hread⟩ := h _ hends
  refine ⟨by simp; omega, ?_⟩
  rw [items?, h.afterSign?_eq_none hends, ite_self]
  simp only [hread, Option.bind_eq_bind, Option.bind_some]
  rw [afterSign?_eq_none (by decide) (by decide), afterSign?_cons (by decide)]
  simp only [Option.bind_some, hrest]
  rfl

theorem items?_closed (rest : List Char) :
    items? true (']' :: rest) = some ([], ⟨rest, Nat.lt_succ_self _⟩) := by
  rw [items?, if_pos rfl, afterSign?_cons (by decide)]

/-- Items with commas between them are read up to the closing bracket. There may be none where the
array has just been opened. -/
theorem items?_intercalate {items : List Json} (h : List.Forall₂ Reads texts items) {first : Bool}
    (hfirst : texts = [] → first = true) (rest : List Char) :
    ∃ hless, items? first ([','].intercalate (texts.map String.toList) ++ ']' :: rest)
      = some (items, ⟨rest, hless⟩) := by
  induction h generalizing first with
  | nil =>
    obtain rfl := hfirst rfl
    exact ⟨_, items?_closed rest⟩
  | @cons text item texts items hitem htexts ih =>
    cases htexts with
    | nil =>
      rw [List.map_singleton, List.intercalate_singleton]
      exact items?_last hitem first rest
    | @cons next item' texts items hnext htexts =>
      obtain ⟨hless, hrest⟩ := ih (show next :: texts = [] → false = true by simp)
      rw [List.map_cons, List.intercalate_cons_of_ne_nil (by simp), List.append_assoc,
        List.append_assoc]
      exact items?_comma hitem first hrest

theorem reads_writeArray {items : List Json} (h : List.Forall₂ Reads texts items) :
    Reads (writeArray texts) (.array items) := by
  intro rest _
  have htext : (writeArray texts).toList ++ rest
      = '[' :: ([','].intercalate (texts.map String.toList) ++ ']' :: rest) := by
    simp [writeArray, String.toList_intercalate]
  obtain ⟨hless, hread⟩ := items?_intercalate h (fun _ => rfl) rest
  rw [htext, value?_of_bracket (skipBlanks_cons (by decide) _), hread]
  exact ⟨hless.trans (Nat.lt_succ_self _), rfl⟩

end Arrays

/-! ## Objects -/

/-- A key with a written value is read as a member. -/
def ReadsMember (written : String × String) (member : Option String × Json) : Prop :=
  member.1 = some written.1 ∧ Reads written.2 member.2

section Objects

variable {written : String × String} {member : Option String × Json} {more rest : List Char}

theorem toList_writeMember (written : String × String) (more : List Char) :
    (writeMember written).toList ++ more
      = (quote written.1).toList ++ ':' :: (written.2.toList ++ more) := by
  simp [writeMember]

theorem afterSign?_writeMember (written : String × String) (more : List Char) :
    afterSign? '\x7d' ((writeMember written).toList ++ more) = none := by
  rw [toList_writeMember, toList_quote]
  exact afterSign?_eq_none (by decide) (by decide) _

/-- The key, the colon and the value of a member one after the other. -/
theorem ReadsMember.parts (h : ReadsMember written member) (hmore : Ends more) :
    ∃ (colon value : List Char) (h₁ : colon.length < ((writeMember written).toList ++ more).length)
      (h₂ : value.length < colon.length) (h₃ : more.length < value.length),
      string? ((writeMember written).toList ++ more) = some (member.1, ⟨colon, h₁⟩)
        ∧ afterSign? ':' colon = some ⟨value, h₂⟩
        ∧ value? value = some (member.2, ⟨more, h₃⟩) := by
  obtain ⟨hkey, hvalue⟩ := h
  rw [toList_writeMember]
  obtain ⟨h₁, hstring⟩ := string?_quote written.1 (':' :: (written.2.toList ++ more))
  obtain ⟨h₃, hread⟩ := hvalue more hmore
  exact ⟨_, _, h₁, _, h₃, hkey ▸ hstring, afterSign?_cons (by decide) _, hread⟩

theorem members?_last (h : ReadsMember written member) (first : Bool) (rest : List Char) :
    ∃ hless, members? first ((writeMember written).toList ++ '\x7d' :: rest)
      = some ([member], ⟨rest, hless⟩) := by
  obtain ⟨colon, value, h₁, h₂, h₃, hkey, hcolon, hvalue⟩ :=
    h.parts (ends_cons (c := '\x7d') (by decide) rest)
  refine ⟨by simp; omega, ?_⟩
  rw [members?, afterSign?_writeMember, ite_self]
  simp only [hkey, hcolon, hvalue, Option.bind_eq_bind, Option.bind_some]
  rw [afterSign?_cons (by decide)]
  rfl

theorem members?_comma {members : List (Option String × Json)} (h : ReadsMember written member)
    (first : Bool) {hless : rest.length < more.length}
    (hrest : members? false more = some (members, ⟨rest, hless⟩)) :
    ∃ hless', members? first ((writeMember written).toList ++ ',' :: more)
      = some (member :: members, ⟨rest, hless'⟩) := by
  obtain ⟨colon, value, h₁, h₂, h₃, hkey, hcolon, hvalue⟩ :=
    h.parts (ends_cons (c := ',') (by decide) more)
  refine ⟨by simp; omega, ?_⟩
  rw [members?, afterSign?_writeMember, ite_self]
  simp only [hkey, hcolon, hvalue, Option.bind_eq_bind, Option.bind_some]
  rw [afterSign?_eq_none (by decide) (by decide), afterSign?_cons (by decide)]
  simp only [Option.bind_some, hrest]
  rfl

theorem members?_closed (rest : List Char) :
    members? true ('\x7d' :: rest) = some ([], ⟨rest, Nat.lt_succ_self _⟩) := by
  rw [members?, if_pos rfl, afterSign?_cons (by decide)]

variable {texts : List (String × String)} {members : List (Option String × Json)}

/-- Members with commas between them are read up to the closing brace. There may be none where the
object has just been opened. -/
theorem members?_intercalate (h : List.Forall₂ ReadsMember texts members) {first : Bool}
    (hfirst : texts = [] → first = true) (rest : List Char) :
    ∃ hless, members? first
        ([','].intercalate (texts.map fun text => (writeMember text).toList) ++ '\x7d' :: rest)
      = some (members, ⟨rest, hless⟩) := by
  induction h generalizing first with
  | nil =>
    obtain rfl := hfirst rfl
    exact ⟨_, members?_closed rest⟩
  | @cons text member texts members hmember htexts ih =>
    cases htexts with
    | nil =>
      rw [List.map_singleton, List.intercalate_singleton]
      exact members?_last hmember first rest
    | @cons next member' texts members hnext htexts =>
      obtain ⟨hless, hrest⟩ := ih (show next :: texts = [] → false = true by simp)
      rw [List.map_cons, List.intercalate_cons_of_ne_nil (by simp), List.append_assoc,
        List.append_assoc]
      exact members?_comma hmember first hrest

theorem reads_writeObject (h : List.Forall₂ ReadsMember texts members) :
    Reads (writeObject texts) (.object members) := by
  intro rest _
  have htext : (writeObject texts).toList ++ rest = '\x7b'
      :: ([','].intercalate (texts.map fun text => (writeMember text).toList)
        ++ '\x7d' :: rest) := by
    simp [writeObject, String.toList_intercalate, Function.comp_def]
  obtain ⟨hless, hread⟩ := members?_intercalate h (fun _ => rfl) rest
  rw [htext, value?_of_brace (skipBlanks_cons (by decide) _), hread]
  exact ⟨hless.trans (Nat.lt_succ_self _), rfl⟩

end Objects

end ScriptSteps.Json
