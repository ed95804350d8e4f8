import Mathlib
import ScriptSteps.Grammar.Cursor
import ScriptSteps.Proofs.Token.Lines

/-!
# Reading a text token by token

The kinds of the tokens of a text do not depend on where the text stands. A text that starts with a
word or a sign gives the kind of that word or sign and then the kinds of the rest, as long as the
rest does not go on with it.

## Main definitions

* `kindsOf`: the kinds of the tokens of a text
* `isName`: the words that are names
* `Cursor.flat`: a cursor over tokens that all stand on the first line

## Main statements

* `kindsOf_word`, `kindsOf_sign`: what is read at the front of a text
* `ofSource_eq_flat`: the cursor at the start of a text that is one line long
-/

namespace ScriptSteps

/-! ## Character classes -/

namespace Text

/-- Every character is the one with its own code point. -/
theorem exists_ofNat (c : Char) : ∃ n, c.toNat = n ∧ c = Char.ofNat n :=
  ⟨c.toNat, rfl, (Char.ofNat_toNat c).symm⟩

theorem isNamePart_eq_false_of_isBlank {c : Char} (h : isBlank c = true) :
    isNamePart c = false := by
  obtain ⟨blank, hblank, hlow, hhigh⟩ := Ranges.has_iff.1 h
  by_cases hascii : c.toNat < 128
  · obtain ⟨n, hn, rfl⟩ := exists_ofNat c
    have hranges : ∀ range ∈ blankRanges, range.1 < 128 →
        range = (0x9, 0xd) ∨ range = (0x20, 0x20) := by decide
    rw [hn] at hlow hhigh hascii
    rcases hranges blank hblank (by omega) with rfl | rfl <;> interval_cases n <;> decide
  · have hapart : (blankRanges.all fun range => (nameStartRanges ++ namePartOnlyRanges).all
        fun name => range.2 < name.1 || name.2 < range.1) = true := by decide +kernel
    simp only [List.all_eq_true, Bool.or_eq_true, decide_eq_true_eq] at hapart
    have hnone : (nameStartRanges ++ namePartOnlyRanges).has c = false := by
      rw [Bool.eq_false_iff]
      intro hhas
      obtain ⟨name, hname, hlow', hhigh'⟩ := Ranges.has_iff.1 hhas
      rcases hapart blank hblank name hname with hlt | hlt <;> omega
    rw [Ranges.has_append, Bool.or_eq_false_iff] at hnone
    simp [isNamePart, isNameStart, hascii, hnone]

theorem isBlank_eq_false_of_isNamePart {c : Char} (h : isNamePart c = true) :
    isBlank c = false := by
  rw [Bool.eq_false_iff]
  intro hblank
  rw [isNamePart_eq_false_of_isBlank hblank] at h
  exact absurd h (by decide)

theorem isDigit_iff {c : Char} : c.isDigit = true ↔ 48 ≤ c.toNat ∧ c.toNat ≤ 57 := by
  simp only [Char.isDigit, Bool.and_eq_true, decide_eq_true_eq, ge_iff_le,
    UInt32.le_iff_toNat_le]
  rfl

theorem isNameStart_eq_false_of_isDigit {c : Char} (h : c.isDigit = true) :
    isNameStart c = false := by
  obtain ⟨n, hn, rfl⟩ := exists_ofNat c
  obtain ⟨hlow, hhigh⟩ := isDigit_iff.1 h
  rw [hn] at hlow hhigh
  interval_cases n <;> decide

theorem isNamePart_of_isDigit {c : Char} (h : c.isDigit = true) : isNamePart c = true := by
  have hascii : c.toNat < 128 := by
    have := isDigit_iff.1 h
    omega
  simp [isNamePart, hascii, h]

end Text

/-! ## Kinds of tokens -/

/-- The kinds of the tokens of a text. -/
def kindsOf (cs : List Char) : List TokenKind := (scanFrom .start cs).1.map Token.kind

theorem map_kind_scanFrom (p q : Position) (cs : List Char) :
    (scanFrom p cs).1.map Token.kind = (scanFrom q cs).1.map Token.kind := by
  induction cs using scan_induction generalizing p q with
  | blank cs hdrop => rw [scanFrom_nil hdrop, scanFrom_nil hdrop]
  | token cs first rest hdrop ih =>
    obtain ⟨gap, kind, text, hfirst⟩ := exists_firstToken hdrop
    rw [hfirst.scanFrom_eq, hfirst.scanFrom_eq, List.map_cons, List.map_cons, ih]

theorem kindsOf_of_drop {cs : List Char} {first : Char} {rest : List Char}
    (h : cs.drop (triviaLength cs) = first :: rest) :
    kindsOf cs = (lexeme first rest).1 :: kindsOf (rest.drop (lexeme first rest).2) := by
  rw [kindsOf, (firstToken_of_drop h).scanFrom_eq, List.map_cons, kindsOf,
    map_kind_scanFrom _ .start]

@[simp] theorem kindsOf_nil : kindsOf [] = [] := by
  rw [kindsOf, scanFrom_nil (by simp)]
  rfl

/-- What holds of every token at the front of a text holds of all tokens. -/
theorem forall_mem_kindsOf {p : TokenKind → Prop} (h : ∀ first rest, p (lexeme first rest).1)
    (cs : List Char) : ∀ k ∈ kindsOf cs, p k := by
  induction cs using scan_induction with
  | blank cs hdrop =>
    rw [kindsOf, scanFrom_nil hdrop]
    simp
  | token cs first rest hdrop ih =>
    rw [kindsOf_of_drop hdrop]
    exact List.forall_mem_cons.2 ⟨h first rest, ih⟩

/-- The kinds of what stands between words and literals. -/
def TokenKind.isSign : TokenKind → Bool
  | .punctuator _ | .endOfInput => true
  | _ => false

/-- Only signs are read as signs. -/
theorem lexeme_eq_signLexeme {first : Char} {cs : List Char}
    (h : (lexeme first cs).1.isSign = true) : lexeme first cs = signLexeme first cs := by
  have hdecimal : (decimalLexeme first cs).1.isSign = false := by
    unfold decimalLexeme
    dsimp only
    split <;> rfl
  have hnumber : (numberLexeme first cs).1.isSign = false := by
    unfold numberLexeme
    split
    · split
      · unfold radixLexeme
        dsimp only
        split <;> rfl
      · exact hdecimal
    · exact hdecimal
  have hstring : (stringLexeme first cs).1.isSign = false := by
    unfold stringLexeme
    split <;> rfl
  have hword : (wordLexeme first cs).1.isSign = false := by
    unfold wordLexeme
    dsimp only
    split <;> rfl
  unfold lexeme at h ⊢
  split_ifs at h ⊢ <;> simp_all

theorem lexeme_ne_endOfInput (first : Char) (cs : List Char) :
    (lexeme first cs).1 ≠ .endOfInput := by
  intro hend
  have hsign : lexeme first cs = signLexeme first cs :=
    lexeme_eq_signLexeme (by rw [hend]; rfl)
  rw [hsign] at hend
  unfold signLexeme at hend
  split at hend <;> cases hend

theorem triviaLength_blank {c : Char} (h : Text.isBlank c = true) (cs : List Char) :
    triviaLength (c :: cs) = 1 + triviaLength cs := by
  have hslash : c ≠ '/' := by
    rintro rfl
    exact absurd h (by decide)
  rw [triviaLength.eq_4 c cs (fun _ hc => absurd hc hslash) (fun _ hc => absurd hc hslash),
    if_pos h]

/-- A blank at the front of a text is passed over. -/
theorem scanFrom_blank {c : Char} (h : Text.isBlank c = true) (p : Position) (cs : List Char) :
    scanFrom p (c :: cs) = scanFrom (p.step c cs.head?) cs := by
  have hdrop : (c :: cs).drop (triviaLength (c :: cs)) = cs.drop (triviaLength cs) := by
    rw [triviaLength_blank h, Nat.add_comm, List.drop_succ_cons]
  have hstart : tokenStart p (c :: cs) = tokenStart (p.step c cs.head?) cs := by
    rw [tokenStart, tokenStart, hdrop, triviaLength_blank h, Nat.add_comm, List.take_succ_cons,
      Position.past_cons, List.take_append_drop]
  cases hfirst : cs.drop (triviaLength cs) with
  | nil =>
    rw [scanFrom_nil hfirst, scanFrom_nil (hdrop.trans hfirst), Position.past_cons,
      List.append_nil]
  | cons first rest =>
    obtain ⟨stop, hstop, hscan⟩ := scanFrom_cons (p := p) (hdrop.trans hfirst)
    obtain ⟨stop', hstop', hscan'⟩ := scanFrom_cons (p := p.step c cs.head?) hfirst
    rw [hscan, hscan', hstop, hstop', hstart]

/-- A blank at the front of a text separates nothing. -/
theorem kindsOf_blank {c : Char} (h : Text.isBlank c = true) (cs : List Char) :
    kindsOf (c :: cs) = kindsOf cs := by
  rw [kindsOf, scanFrom_blank h, map_kind_scanFrom _ .start, kindsOf]

@[simp] theorem kindsOf_space (cs : List Char) : kindsOf (' ' :: cs) = kindsOf cs :=
  kindsOf_blank (by decide) cs

/-- A text that starts with neither a blank nor a comment starts with a token. -/
theorem kindsOf_lexeme {first : Char} {rest : List Char} (h : triviaLength (first :: rest) = 0) :
    kindsOf (first :: rest)
      = (lexeme first rest).1 :: kindsOf (rest.drop (lexeme first rest).2) :=
  kindsOf_of_drop (by rw [h, List.drop_zero])

theorem triviaLength_eq_zero {c : Char} (hblank : Text.isBlank c = false) (hslash : c ≠ '/')
    (cs : List Char) : triviaLength (c :: cs) = 0 := by
  rw [triviaLength.eq_4 c cs (fun _ hc => absurd hc hslash) (fun _ hc => absurd hc hslash)]
  simp [hblank]

/-- A character of names starts a token, and no string. -/
theorem triviaLength_of_isNamePart {c : Char} (h : Text.isNamePart c = true) (cs : List Char) :
    triviaLength (c :: cs) = 0 ∧ ¬(c = '"' ∨ c = '\'') := by
  have hslash : c ≠ '/' := by
    rintro rfl
    exact absurd h (by decide)
  refine ⟨triviaLength_eq_zero (Text.isBlank_eq_false_of_isNamePart h) hslash cs, ?_⟩
  rintro (rfl | rfl) <;> exact absurd h (by decide)

/-! ## Words -/

/-- Whether a text cannot go on with characters of a class. -/
def Stops (class_ : Char → Bool) (rest : List Char) : Prop :=
  ∀ c ∈ rest.head?, class_ c = false

theorem takeWhile_append_of_stops {class_ : Char → Bool} {cs rest : List Char}
    (hcs : ∀ c ∈ cs, class_ c = true) (hrest : Stops class_ rest) :
    (cs ++ rest).takeWhile class_ = cs := by
  rw [List.takeWhile_append_of_pos hcs]
  cases rest with
  | nil => simp
  | cons c rest => simp [hrest c (by simp)]

theorem dropWhile_append_of_stops {class_ : Char → Bool} {cs rest : List Char}
    (hcs : ∀ c ∈ cs, class_ c = true) (hrest : Stops class_ rest) :
    (cs ++ rest).dropWhile class_ = rest := by
  rw [List.dropWhile_append_of_pos hcs]
  cases rest with
  | nil => simp
  | cons c rest => simp [hrest c (by simp)]

/-- The kind of a word. -/
def wordKind (word : String) : TokenKind :=
  match Keyword.ofText? word with
  | some keyword => .keyword keyword
  | none => .identifier word

/-- The texts that start and go on as names do. -/
def isWord : List Char → Bool
  | [] => false
  | first :: tail => Text.isNameStart first && tail.all Text.isNamePart

/-- The words that are names: those that are not reserved. -/
def isName (word : String) : Bool := isWord word.toList && (Keyword.ofText? word).isNone

/-- A word is one token. -/
theorem lexeme_word {first : Char} {tail rest : List Char} (hword : isWord (first :: tail) = true)
    (hrest : Stops Text.isNamePart rest) :
    triviaLength (first :: (tail ++ rest)) = 0
      ∧ lexeme first (tail ++ rest)
        = (wordKind (String.ofList (first :: tail)), tail.length) := by
  simp only [isWord, Bool.and_eq_true, List.all_eq_true] at hword
  obtain ⟨hfirst, htail⟩ := hword
  obtain ⟨htrivia, hquote⟩ :=
    triviaLength_of_isNamePart (Text.isNamePart_of_isNameStart hfirst) (tail ++ rest)
  have hdigit : ¬first.isDigit = true := fun h => by
    rw [Text.isNameStart_eq_false_of_isDigit h] at hfirst
    exact absurd hfirst (by decide)
  refine ⟨htrivia, ?_⟩
  rw [lexeme, if_neg hquote, if_neg hdigit, if_pos hfirst, wordLexeme,
    takeWhile_append_of_stops htail hrest]
  unfold wordKind
  cases Keyword.ofText? (String.ofList (first :: tail)) <;> rfl

theorem kindsOf_word {word rest : List Char} (hword : isWord word = true)
    (hrest : Stops Text.isNamePart rest) :
    kindsOf (word ++ rest) = wordKind (String.ofList word) :: kindsOf rest := by
  cases word with
  | nil => exact absurd hword (by decide)
  | cons first tail =>
    obtain ⟨htrivia, hlexeme⟩ := lexeme_word hword hrest
    rw [List.cons_append, kindsOf_lexeme htrivia, hlexeme]
    simp

/-- A name is read as itself. -/
theorem kindsOf_name {name : String} (h : isName name = true) {rest : List Char}
    (hrest : Stops Text.isNamePart rest) :
    kindsOf (name.toList ++ rest) = .identifier name :: kindsOf rest := by
  simp only [isName, Bool.and_eq_true, Option.isNone_iff_eq_none] at h
  obtain ⟨hword, hreserved⟩ := h
  rw [kindsOf_word hword hrest, String.ofList_toList, wordKind, hreserved]

/-! ## Signs -/

namespace Punctuator

/-- The characters that make a longer sign, or a comment, out of this sign. -/
def continuations (p : Punctuator) : List Char :=
  (all.filterMap fun q =>
    if p.text.toList.isPrefixOf q.text.toList then
      (q.text.toList.drop p.text.toList.length).head?
    else none)
  ++ if p = .slash then ['/', '*'] else []

theorem text_injective {p q : Punctuator} (h : p.text = q.text) : p = q := by
  have hp := ofText?_text p
  rw [h, ofText?_text] at hp
  exact (Option.some.inj hp).symm

theorem toList_text_ne_nil (p : Punctuator) : p.text.toList ≠ [] := by
  have hnonempty : ∀ q ∈ all, q.text.toList ≠ [] := by decide
  exact hnonempty p p.mem_all

/-- A sign is the longest one at the front of a text that does not go on with it. -/
theorem length_le_of_prefix {p q : Punctuator} {rest : List Char}
    (hrest : ∀ c ∈ rest.head?, c ∉ p.continuations)
    (h : q.text.toList <+: p.text.toList ++ rest) :
    q.text.toList.length ≤ p.text.toList.length := by
  by_contra hlong
  have hp : p.text.toList <+: q.text.toList :=
    List.prefix_of_prefix_length_le (List.prefix_append _ _) h (by omega)
  obtain ⟨more, hmore⟩ := hp
  rw [← hmore, List.prefix_append_right_inj] at h
  cases more with
  | nil =>
    rw [← hmore] at hlong
    simp at hlong
  | cons c more =>
    obtain ⟨later, hlater⟩ := h
    refine hrest c (by rw [← hlater]; simp) (List.mem_append_left _ ?_)
    refine List.mem_filterMap.2 ⟨q, q.mem_all, ?_⟩
    rw [← hmore, if_pos (List.isPrefixOf_iff_prefix.2 (List.prefix_append _ _))]
    simp

theorem punctuatorAt?_text (p : Punctuator) {rest : List Char}
    (hrest : ∀ c ∈ rest.head?, c ∉ p.continuations) :
    punctuatorAt? (p.text.toList ++ rest) = some p := by
  have hlength : ∀ q ∈ all, 1 ≤ q.text.toList.length ∧ q.text.toList.length ≤ 4 := by
    decide
  -- Of each length the search finds nothing but `p` itself.
  have hfind : ∀ n, p.text.toList.length ≤ n → (all.find? fun q =>
      q.text.toList.length == n && q.text.toList.isPrefixOf (p.text.toList ++ rest))
      = if n = p.text.toList.length then some p else none := by
    intro n hn
    split
    case isTrue heq =>
      cases hfound : all.find? fun q =>
          q.text.toList.length == n && q.text.toList.isPrefixOf (p.text.toList ++ rest) with
      | none =>
        have := List.find?_eq_none.1 hfound p p.mem_all
        simp [heq, List.isPrefixOf_iff_prefix] at this
      | some q =>
        have hq := List.find?_some hfound
        simp only [Bool.and_eq_true, beq_iff_eq, List.isPrefixOf_iff_prefix] at hq
        obtain ⟨hlen, hpre⟩ := hq
        have hsame : q.text.toList = p.text.toList :=
          List.prefix_of_prefix_length_le hpre (List.prefix_append _ rest) (by omega)
            |>.eq_of_length (by omega)
        rw [text_injective (String.toList_injective hsame)]
    case isFalse hne =>
      rw [List.find?_eq_none]
      intro q _ hq
      simp only [Bool.and_eq_true, beq_iff_eq, List.isPrefixOf_iff_prefix] at hq
      have := length_le_of_prefix hrest hq.2
      omega
  obtain ⟨hone, hfour⟩ := hlength p p.mem_all
  have hlengths : (List.range maxLength).reverse.map (· + 1) = [4, 3, 2, 1] := by decide
  rw [punctuatorAt?, hlengths]
  generalize hp : p.text.toList.length = n at *
  interval_cases n <;> simp [List.findSome?, hfind]

end Punctuator

/-- A slash starts no comment unless a slash or a star follows. -/
theorem triviaLength_slash {cs : List Char} (h : ∀ c ∈ cs.head?, c ≠ '/' ∧ c ≠ '*') :
    triviaLength ('/' :: cs) = 0 := by
  rw [triviaLength.eq_4]
  · rfl
  · rintro rest - rfl
    exact (h '/' rfl).1 rfl
  · rintro rest - rfl
    exact (h '*' rfl).2 rfl

/-- A sign is one token. -/
theorem lexeme_sign {p : Punctuator} {first : Char} {tail rest : List Char}
    (htext : p.text.toList = first :: tail) (hrest : ∀ c ∈ rest.head?, c ∉ p.continuations) :
    triviaLength (first :: (tail ++ rest)) = 0
      ∧ lexeme first (tail ++ rest) = (.punctuator p, tail.length) := by
  have hstart : (Punctuator.all.all fun q => q.text.toList.head?.all fun first =>
      !Text.isBlank first && !(first == '"' || first == '\'') && !first.isDigit
        && !Text.isNameStart first && (first != '/' || q == .slash || q == .slashEqual))
      = true := by
    decide
  have hat := p.punctuatorAt?_text hrest
  have hfirst := List.all_eq_true.1 hstart p p.mem_all
  simp only [htext, List.head?_cons, Option.all_some, Bool.and_eq_true, Bool.not_eq_true',
    Bool.or_eq_true, Bool.or_eq_false_iff, bne_iff_ne, beq_iff_eq, beq_eq_false_iff_ne] at hfirst
  obtain ⟨⟨⟨⟨hblank, hdouble, hsingle⟩, hdigit⟩, hname⟩, hslash⟩ := hfirst
  refine ⟨?_, ?_⟩
  · by_cases hfirst : first = '/'
    · subst hfirst
      apply triviaLength_slash
      rcases hslash with (hslash | rfl) | rfl
      · exact absurd rfl hslash
      · obtain rfl : tail = [] := by simpa [Punctuator.text] using htext.symm
        intro c hc
        have := hrest c hc
        simp only [Punctuator.continuations, List.mem_append, not_or] at this
        simpa using this.2
      · obtain rfl : tail = ['='] := by simpa [Punctuator.text] using htext.symm
        intro c hc
        obtain rfl : c = '=' := by simpa using hc.symm
        decide
    · exact triviaLength_eq_zero hblank hfirst _
  · rw [lexeme, if_neg (by simp [hdouble, hsingle]), if_neg (by simp [hdigit]),
      if_neg (by simp [hname]), signLexeme, ← List.cons_append, ← htext, hat]
    simp [htext]

/-- A sign is read as itself. -/
theorem kindsOf_sign (p : Punctuator) {rest : List Char}
    (hrest : ∀ c ∈ rest.head?, c ∉ p.continuations) :
    kindsOf (p.text.toList ++ rest) = .punctuator p :: kindsOf rest := by
  cases htext : p.text.toList with
  | nil => exact absurd htext p.toList_text_ne_nil
  | cons first tail =>
    obtain ⟨htrivia, hlexeme⟩ := lexeme_sign htext hrest
    rw [List.cons_append, kindsOf_lexeme htrivia, hlexeme]
    simp

/-! ## Texts of one line -/

/-- A cursor over tokens that all stand on the first line. -/
def Cursor.flat (kinds : List TokenKind) : Cursor := ⟨1, kinds.map (⟨·, 1⟩), 1⟩

/-- At the start of a text without line ends every token is on the first line. -/
theorem ofSource_eq_flat {source : String} (h : ∀ c ∈ source.toList, Text.isLineEnd c = false) :
    Cursor.ofSource source = .flat (kindsOf source.toList) := by
  have hend : (scan source).2.line = 1 := by
    rw [scan, snd_scanFrom, Position.line_past_eq h]
    rfl
  have hfits : LinesFit source := by
    rw [LinesFit, lineEnds_eq_zero h]
    decide
  have hchain := isChain_lines_scanFrom hfits.start_line_add
  rw [List.isChain_iff_pairwise] at hchain
  -- Between the first line and the last there is only one.
  have hlines : ∀ t ∈ (scan source).1, t.line = 1 := by
    intro t ht
    have hmem := List.mem_map_of_mem (f := Token.line) ht
    rw [List.cons_append, List.pairwise_cons, List.pairwise_append] at hchain
    have hlow : 1 ≤ t.line := hchain.1 t.line (List.mem_append_left _ hmem)
    have hhigh : t.line ≤ (scan source).2.line := hchain.2.2.2 t.line hmem _ (by simp [scan])
    omega
  have hmap : (scan source).1.map (fun t => (⟨t.kind, t.line⟩ : Terminal))
      = (kindsOf source.toList).map (⟨·, 1⟩) := by
    rw [kindsOf, List.map_map]
    exact List.map_congr_left fun t ht => by simp [hlines t ht]
  simp only [Cursor.ofSource, Cursor.flat, hend, hmap]

end ScriptSteps
