import Mathlib
import ScriptSteps.Proofs.Token.Tiling

/-!
# Tokens with spaces between them

A token is read off its own characters: where they end it stops, whether the text ends there or a
separator follows. Only a string that is still open at the end of a text would go on, and nothing
comes after it. So the tokens of a text are read again from their texts with a space between each
two.

## Main definitions

* `Lexed`: the tokens of a text, each with its kind and its characters
* `Token.text?`: the characters of a token

## Main statements

* `lexeme_take`: a token is read off its own characters
* `Lexed.spaced`: the tokens of a text are those of their texts with a space between each two
* `scan_spaced`: the same for the tokens of a scan
-/

namespace ScriptSteps

/-! ## Runs of characters -/

section Runs

variable {class_ : Char → Bool} {cs : List Char}

theorem mem_head?_of_take {c : Char} {n : ℕ} (h : c ∈ (cs.take n).head?) : c ∈ cs.head? := by
  rw [List.head?_take, Option.mem_def, Option.ite_none_left_eq_some] at h
  exact h.2

theorem Stops.take (h : Stops class_ cs) (n : ℕ) : Stops class_ (cs.take n) :=
  fun c hc => h c (mem_head?_of_take hc)

theorem stops_dropWhile (class_ : Char → Bool) (cs : List Char) :
    Stops class_ (cs.dropWhile class_) := by
  intro c hc
  have hnot := List.head?_dropWhile_not class_ cs
  rwa [Option.mem_def.1 hc] at hnot

theorem take_length_takeWhile (class_ : Char → Bool) (cs : List Char) :
    cs.take (cs.takeWhile class_).length = cs.takeWhile class_ :=
  (List.prefix_iff_eq_take.1 (List.takeWhile_prefix class_)).symm

/-- What follows the characters of a class is cut off without changing them. -/
theorem take_takeWhile_add (class_ : Char → Bool) (cs : List Char) (n : ℕ) :
    cs.take ((cs.takeWhile class_).length + n)
      = cs.takeWhile class_ ++ (cs.dropWhile class_).take n := by
  have hsplit : cs = cs.takeWhile class_ ++ cs.dropWhile class_ :=
    List.takeWhile_append_dropWhile.symm
  generalize cs.takeWhile class_ = run, cs.dropWhile class_ = rest at hsplit
  rw [hsplit, List.take_length_add_append]

theorem takeWhile_take_add (class_ : Char → Bool) (cs : List Char) (n : ℕ) :
    (cs.take ((cs.takeWhile class_).length + n)).takeWhile class_ = cs.takeWhile class_ := by
  rw [take_takeWhile_add]
  exact takeWhile_append_of_stops (fun _ => List.mem_takeWhile_imp)
    ((stops_dropWhile class_ cs).take n)

theorem dropWhile_take_add (class_ : Char → Bool) (cs : List Char) (n : ℕ) :
    (cs.take ((cs.takeWhile class_).length + n)).dropWhile class_
      = (cs.dropWhile class_).take n := by
  rw [take_takeWhile_add]
  exact dropWhile_append_of_stops (fun _ => List.mem_takeWhile_imp)
    ((stops_dropWhile class_ cs).take n)

theorem takeWhile_take_length (class_ : Char → Bool) (cs : List Char) :
    (cs.take (cs.takeWhile class_).length).takeWhile class_ = cs.takeWhile class_ :=
  takeWhile_take_add class_ cs 0

end Runs

/-! ## Strings -/

theorem stringLexeme_take {quote : Char} {cs tail : List Char}
    (h : tail = [] ∨ (stringLexeme quote cs).2 < cs.length) :
    stringLexeme quote (cs.take (stringLexeme quote cs).2 ++ tail) = stringLexeme quote cs := by
  rw [snd_stringLexeme] at h ⊢
  rw [stringLexeme, stringBody_take h, stringLexeme]

/-! ## Numbers -/

namespace DecimalLiteral

/-- The characters of a fraction with its point. -/
def fractionLength (fraction? : Option (List Char)) : ℕ := (fraction?.map (·.length + 1)).getD 0

/-- The characters of an exponent with its mark. -/
def exponentLength (exponent? : Option (List Char × List Char)) : ℕ :=
  (exponent?.map fun (sign, digits) => sign.length + digits.length + 1).getD 0

theorem exponentAt?_take (cs : List Char) :
    exponentAt? (cs.take (exponentLength (exponentAt? cs))) = exponentAt? cs := by
  -- Digits do not start with a sign, so none comes up where there was none.
  have hsign {c : Char} (hc : isDigitOrGap c = false) (ds : List Char) :
      ∀ es, ds.take (ds.takeWhile isDigitOrGap).length = c :: es → False := by
    intro es hes
    rw [take_length_takeWhile] at hes
    have hin : isDigitOrGap c = true := List.mem_takeWhile_imp (hes ▸ List.mem_cons_self)
    simp [hc] at hin
  fun_cases exponentAt? cs with
  | case1 ds => simp [exponentLength, exponentAt?, Nat.add_comm 1, takeWhile_take_length]
  | case2 ds => simp [exponentLength, exponentAt?, Nat.add_comm 1, takeWhile_take_length]
  | case3 ds hplus hminus =>
    simp only [exponentLength, Option.map_some, Option.getD_some, List.length_nil, Nat.zero_add,
      List.take_succ_cons]
    rw [exponentAt?.eq_3 _ (hsign (by decide) ds) (hsign (by decide) ds), takeWhile_take_length]
  | case4 ds => simp [exponentLength, exponentAt?, Nat.add_comm 1, takeWhile_take_length]
  | case5 ds => simp [exponentLength, exponentAt?, Nat.add_comm 1, takeWhile_take_length]
  | case6 ds hplus hminus =>
    simp only [exponentLength, Option.map_some, Option.getD_some, List.length_nil, Nat.zero_add,
      List.take_succ_cons]
    rw [exponentAt?.eq_6 _ (hsign (by decide) ds) (hsign (by decide) ds), takeWhile_take_length]
  | case7 _ hlower hupper => simp [exponentLength, exponentAt?]

theorem exponentAt?_dot (cs : List Char) : exponentAt? ('.' :: cs) = none :=
  exponentAt?.eq_7 _ (by simp) (by simp)

/-- Whether a character makes the point before it a member access. -/
def startsMember (c : Char) : Bool := Text.isNameStart c && c != 'e' && c != 'E'

theorem splitFraction_dot {cs : List Char} (h : Stops startsMember cs) :
    splitFraction ('.' :: cs)
      = (some (cs.takeWhile isDigitOrGap), cs.dropWhile isDigitOrGap) := by
  cases cs with
  | nil => rfl
  | cons c cs =>
    have hc : startsMember c = false := h c rfl
    rw [startsMember] at hc
    simp only [splitFraction, hc, Bool.false_eq_true, if_false]

/-- The characters of a fraction and of the exponent after it have the same fraction. -/
theorem splitFraction_take (cs : List Char) :
    let (fraction?, rest) := splitFraction cs
    let n := exponentLength (exponentAt? rest)
    splitFraction (cs.take (fractionLength fraction? + n)) = (fraction?, rest.take n) := by
  fun_cases splitFraction cs with
  | case1 ds isMember hmember =>
    -- The point belongs to what follows the number, so there is no exponent.
    simp [exponentAt?_dot, exponentLength, fractionLength, splitFraction]
  | case2 ds isMember hmember =>
    have hstops : Stops startsMember ds := by
      cases ds with
      | nil => simp [Stops]
      | cons d ds => simpa [Stops, startsMember, isMember] using hmember
    simp only [fractionLength, Option.map_some, Option.getD_some, Nat.add_right_comm _ 1,
      List.take_succ_cons, splitFraction_dot (hstops.take _), takeWhile_take_add,
      dropWhile_take_add]
  | case3 cs hdot =>
    simp only [fractionLength, Option.map_none, Option.getD_none, Nat.zero_add]
    refine splitFraction.eq_3 _ fun ds hds => ?_
    have hhead : '.' ∈ cs.head? := mem_head?_of_take (congrArg List.head? hds)
    obtain ⟨es, hes⟩ := List.head?_eq_some_iff.1 hhead
    exact hdot es hes

theorem ofChars_take (cs : List Char) : ofChars (cs.take (ofChars cs).length) = ofChars cs := by
  have hsplit := splitFraction_take (cs.dropWhile isDigitOrGap)
  have hexponent := exponentAt?_take (splitFraction (cs.dropWhile isDigitOrGap)).2
  have hlength : (ofChars cs).length = (cs.takeWhile isDigitOrGap).length
      + (fractionLength (splitFraction (cs.dropWhile isDigitOrGap)).1
        + exponentLength (exponentAt? (splitFraction (cs.dropWhile isDigitOrGap)).2)) :=
    Nat.add_assoc ..
  rw [hlength, ofChars]
  simp only [takeWhile_take_add, dropWhile_take_add, hsplit, hexponent]
  rfl

theorem length_ofChars_pos {first : Char} (h : first.isDigit = true) (cs : List Char) :
    0 < (ofChars (first :: cs)).length := by
  simp [ofChars, length, isDigitOrGap, h]

end DecimalLiteral

theorem decimalLexeme_take {first : Char} (h : first.isDigit = true) (cs : List Char) :
    decimalLexeme first (cs.take (decimalLexeme first cs).2) = decimalLexeme first cs := by
  have hsnd : (decimalLexeme first cs).2 = (DecimalLiteral.ofChars (first :: cs)).length - 1 := by
    unfold decimalLexeme
    dsimp only
    split <;> rfl
  have hpos := DecimalLiteral.length_ofChars_pos h cs
  have htake := DecimalLiteral.ofChars_take (first :: cs)
  obtain ⟨n, hn⟩ := Nat.exists_eq_add_of_lt hpos
  rw [hsnd]
  rw [hn, Nat.zero_add, List.take_succ_cons] at htake
  rw [hn, Nat.zero_add, Nat.add_sub_cancel, decimalLexeme, htake, decimalLexeme]

theorem numberLexeme_eq_decimalLexeme {first : Char} {cs : List Char}
    (h : first = '0' → ∀ c ∈ cs.head?, radixOf? c = none) :
    numberLexeme first cs = decimalLexeme first cs := by
  fun_cases numberLexeme first cs with
  | case1 c ds radix hradix => simp [hradix] at h
  | case2 => rfl
  | case3 => rfl

theorem numberLexeme_take {first : Char} (h : first.isDigit = true) (cs : List Char) :
    numberLexeme first (cs.take (numberLexeme first cs).2) = numberLexeme first cs := by
  by_cases hdecimal : first = '0' → ∀ c ∈ cs.head?, radixOf? c = none
  · have hown (n : ℕ) : first = '0' → ∀ c ∈ (cs.take n).head?, radixOf? c = none :=
      fun hzero c hc => hdecimal hzero c (mem_head?_of_take hc)
    rw [numberLexeme_eq_decimalLexeme hdecimal, numberLexeme_eq_decimalLexeme (hown _),
      decimalLexeme_take h]
  · push Not at hdecimal
    obtain ⟨rfl, c, hc, hradix⟩ := hdecimal
    obtain ⟨ds, rfl⟩ := List.head?_eq_some_iff.1 hc
    obtain ⟨radix, hradix⟩ := Option.ne_none_iff_exists'.1 hradix
    have hlexeme (es : List Char) : numberLexeme '0' (c :: es) = radixLexeme radix es := by
      simp [numberLexeme, hradix]
    have hsnd : (radixLexeme radix ds).2
        = (ds.takeWhile fun c => c.isAlphanum || c == '_').length + 1 := by
      unfold radixLexeme
      dsimp only
      split <;> rfl
    rw [hlexeme, hsnd, List.take_succ_cons, hlexeme]
    simp only [radixLexeme, takeWhile_take_length]

/-! ## Words and signs -/

theorem wordLexeme_take (first : Char) (cs : List Char) :
    wordLexeme first (cs.take (wordLexeme first cs).2) = wordLexeme first cs := by
  have hsnd : (wordLexeme first cs).2 = (cs.takeWhile Text.isNamePart).length := by
    unfold wordLexeme
    dsimp only
    split <;> rfl
  rw [hsnd]
  simp only [wordLexeme, takeWhile_take_length]

theorem punctuatorAt?_ne_none {p : Punctuator} {cs : List Char} (h : p.text.toList <+: cs) :
    punctuatorAt? cs ≠ none := by
  have hlength : ∀ q ∈ Punctuator.all,
      q.text.toList.length ∈ (List.range Punctuator.maxLength).reverse.map (· + 1) := by
    decide
  intro hnone
  have hfind := List.findSome?_eq_none_iff.1 hnone _ (hlength p p.mem_all)
  simpa [h] using List.find?_eq_none.1 hfind p p.mem_all

theorem signLexeme_take (first : Char) (cs : List Char) :
    signLexeme first (cs.take (signLexeme first cs).2) = signLexeme first cs := by
  cases hsign : punctuatorAt? (first :: cs) with
  | some p =>
    have hfront := List.prefix_iff_eq_take.1 (prefix_of_punctuatorAt? hsign)
    have hown : punctuatorAt? (p.text.toList ++ []) = some p := p.punctuatorAt?_text (by simp)
    cases htext : p.text.toList with
    | nil => exact absurd htext p.toList_text_ne_nil
    | cons c tail =>
      rw [htext, List.length_cons, List.take_succ_cons] at hfront
      obtain ⟨rfl, htail⟩ := List.cons.inj hfront
      rw [List.append_nil, htext] at hown
      have hlexeme : signLexeme c cs = (.punctuator p, tail.length) := by
        simp [signLexeme, hsign, htext]
      rw [hlexeme, ← htail]
      simp [signLexeme, hown, htext]
  | none =>
    have hown : punctuatorAt? [first] = none := by
      by_contra hsome
      obtain ⟨p, hp⟩ := Option.ne_none_iff_exists'.1 hsome
      exact punctuatorAt?_ne_none ((prefix_of_punctuatorAt? hp).trans ⟨cs, rfl⟩) hsign
    simp [signLexeme, hsign, hown]

/-! ## Any token -/

/-- A token is read off its own characters. A separator may follow, unless a string is still open
at the end of the text. -/
theorem lexeme_take {first : Char} {rest tail : List Char} (hseparates : Separates tail)
    (h : tail = [] ∨ (lexeme first rest).2 < rest.length) :
    lexeme first (rest.take (lexeme first rest).2 ++ tail) = lexeme first rest := by
  by_cases hquote : first = '"' ∨ first = '\''
  · simp only [lexeme, if_pos hquote] at h ⊢
    exact stringLexeme_take h
  · rw [lexeme_append hquote hseparates]
    unfold lexeme
    split_ifs with hdigit hstart
    · exact numberLexeme_take hdigit rest
    · exact wordLexeme_take first rest
    · exact signLexeme_take first rest

/-! ## Tokens and their characters -/

theorem StartsToken.triviaLength_eq_zero {cs : List Char} (h : StartsToken cs) :
    triviaLength cs = 0 := by
  obtain ⟨⟨c, hc, hblank⟩, hline, hblock⟩ := h
  fun_cases triviaLength cs with
  | case1 => rfl
  | case2 cs => exact absurd ⟨cs, rfl⟩ hline
  | case3 cs => exact absurd ⟨cs, rfl⟩ hblock
  | case4 d cs _ _ hd =>
    obtain rfl : d = c := Option.some.inj hc
    simp [hd] at hblank
  | case5 => rfl

theorem startsToken_of_drop {cs : List Char} {first : Char} {rest : List Char}
    (h : cs.drop (triviaLength cs) = first :: rest) : StartsToken (first :: rest) := by
  have hstarts := (trivia_take cs).2
  rw [h] at hstarts
  exact hstarts (List.cons_ne_nil first rest)

/-- What starts no comment starts none with fewer characters before a separator. -/
theorem StartsToken.take {first : Char} {rest tail : List Char}
    (h : StartsToken (first :: rest)) (htail : Separates tail) (n : ℕ) :
    StartsToken (first :: (rest.take n ++ tail)) := by
  obtain ⟨hblank, hline, hblock⟩ := h
  have hfront {d : Char} (hd : separates d = false)
      (hslash : ['/', d] <+: first :: (rest.take n ++ tail)) : ['/', d] <+: first :: rest := by
    obtain ⟨hfirst, hlater⟩ := List.cons_prefix_cons.1 hslash
    have hd' : [d] <+: rest.take n := htail.prefix_of_append (by simpa using hd) hlater
    exact List.cons_prefix_cons.2 ⟨hfirst, hd'.trans (List.take_prefix n rest)⟩
  exact ⟨hblank, fun hslash => hline (hfront (by decide) hslash),
    fun hslash => hblock (hfront (by decide) hslash)⟩

/-- The tokens of a text, each with its kind and its characters. -/
inductive Lexed : List Char → List (TokenKind × List Char) → Prop
  | nil {cs : List Char} (h : cs.drop (triviaLength cs) = []) : Lexed cs []
  | cons {cs : List Char} {first : Char} {rest : List Char}
      {lexemes : List (TokenKind × List Char)} (h : cs.drop (triviaLength cs) = first :: rest)
      (hrest : Lexed (rest.drop (lexeme first rest).2) lexemes) :
      Lexed cs (((lexeme first rest).1, first :: rest.take (lexeme first rest).2) :: lexemes)

namespace Lexed

variable {cs : List Char} {lexemes : List (TokenKind × List Char)}

theorem exists_lexed (cs : List Char) : ∃ lexemes, Lexed cs lexemes := by
  induction cs using scan_induction with
  | blank cs hdrop => exact ⟨[], .nil hdrop⟩
  | token cs first rest hdrop ih =>
    obtain ⟨lexemes, hlexed⟩ := ih
    exact ⟨_, .cons hdrop hlexed⟩

theorem kindsOf_eq (h : Lexed cs lexemes) : kindsOf cs = lexemes.map Prod.fst := by
  induction h with
  | nil h =>
    rw [kindsOf, scanFrom_nil h]
    rfl
  | cons h hrest ih => rw [kindsOf_of_drop h, ih, List.map_cons]

theorem eq_nil (h : Lexed [] lexemes) : lexemes = [] := by
  cases h with
  | nil => rfl
  | cons h => simp at h

theorem space (h : Lexed cs lexemes) : Lexed (' ' :: cs) lexemes := by
  have hdrop : (' ' :: cs).drop (triviaLength (' ' :: cs)) = cs.drop (triviaLength cs) := by
    rw [triviaLength_blank (by decide), Nat.add_comm, List.drop_succ_cons]
  cases h with
  | nil h => exact .nil (hdrop.trans h)
  | cons h hrest => exact .cons (hdrop.trans h) hrest

/-- A token at the front of a text. -/
theorem token {first : Char} {text tail : List Char} {kind : TokenKind}
    (hstarts : StartsToken (first :: (text ++ tail)))
    (hlexeme : lexeme first (text ++ tail) = (kind, text.length)) (htail : Lexed tail lexemes) :
    Lexed (first :: (text ++ tail)) ((kind, first :: text) :: lexemes) := by
  have hdrop : (first :: (text ++ tail)).drop (triviaLength (first :: (text ++ tail)))
      = first :: (text ++ tail) := by rw [hstarts.triviaLength_eq_zero, List.drop_zero]
  have hrest : Lexed ((text ++ tail).drop (lexeme first (text ++ tail)).2) lexemes := by
    rw [hlexeme, List.drop_left]
    exact htail
  have hlexed := Lexed.cons hdrop hrest
  rwa [hlexeme, List.take_left] at hlexed

/-- The tokens of a text are those of their characters with a space between each two. -/
theorem spaced (h : Lexed cs lexemes) :
    Lexed ([' '].intercalate (lexemes.map Prod.snd)) lexemes := by
  induction h with
  | nil h => exact .nil rfl
  | @cons cs first rest lexemes h hrest ih =>
    have hstarts := startsToken_of_drop h
    have hwithin := length_lexeme_le first rest
    -- What follows the token: nothing, or a space and the tokens after it.
    obtain ⟨tail, hchars, hseparates, hopen, htail⟩ : ∃ tail,
        [' '].intercalate ((first :: rest.take (lexeme first rest).2) :: lexemes.map Prod.snd)
          = first :: (rest.take (lexeme first rest).2 ++ tail)
        ∧ Separates tail ∧ (tail = [] ∨ (lexeme first rest).2 < rest.length)
        ∧ Lexed tail lexemes := by
      cases lexemes with
      | nil => exact ⟨[], by simp, by simp [Separates], .inl rfl, .nil rfl⟩
      | cons later lexemes =>
        refine ⟨' ' :: [' '].intercalate ((later :: lexemes).map Prod.snd), ?_,
          separates_cons (by decide) _, .inr ?_, ih.space⟩
        · simp [List.intercalate_cons_cons]
        · by_contra hall
          rw [List.drop_of_length_le (by omega)] at hrest
          cases hrest.eq_nil
    have hlexeme := lexeme_take hseparates hopen
    generalize hlast : rest.take (lexeme first rest).2 = text at *
    have htext : text.length = (lexeme first rest).2 := by
      rw [← hlast, List.length_take, Nat.min_eq_left hwithin]
    rw [List.map_cons, hchars]
    refine token ?_ ?_ htail
    · rw [← hlast]
      exact hstarts.take hseparates _
    · rw [hlexeme, htext]

end Lexed

/-! ## Scans -/

/-- The characters of a token of a text; none if it does not start and stop between characters. -/
def Token.text? (source : String) (t : Token) : Option String :=
  (Text.slice? source.toList t.start t.stop).map String.ofList

/-- The places of the tokens of a text are those of their characters. -/
theorem Lexed.mapM_text? {source : String} {cs : List Char}
    {lexemes : List (TokenKind × List Char)} (h : Lexed cs lexemes) {p : Position}
    {before : List Char} (hsource : source.toList = before ++ cs)
    (hoffset : p.offset = Text.byteSize before) :
    (scanFrom p cs).1.mapM (·.text? source)
      = some (lexemes.map fun lexeme => String.ofList lexeme.2) := by
  induction h generalizing p before with
  | nil h =>
    rw [scanFrom_nil h]
    rfl
  | @cons cs first rest lexemes h hrest ih =>
    have hfirst := firstToken_of_drop h
    generalize first :: rest.take (lexeme first rest).2 = text at *
    generalize rest.drop (lexeme first rest).2 = after at *
    generalize cs.take (triviaLength cs) = gap at *
    have hchars : source.toList = before ++ gap ++ (text ++ after) := by
      rw [hsource, hfirst.chars_eq, List.append_assoc]
    have hstart : (p.past gap (text ++ after)).offset = Text.byteSize (before ++ gap) := by
      rw [Position.offset_past, hoffset, Text.byteSize_append]
    have hend : (p.past (gap ++ text) after).offset = Text.byteSize (before ++ gap ++ text) := by
      rw [Position.offset_past, hoffset, ← Text.byteSize_append, List.append_assoc]
    have hslice : Text.slice? source.toList (p.past gap (text ++ after)).offset
        (p.past (gap ++ text) after).offset = some text := by
      rw [hchars, hstart, hend, Text.byteSize_append (before ++ gap)]
      exact Text.slice?_append ..
    have hlater := ih (hchars.trans (List.append_assoc ..).symm) hend
    rw [hfirst.scanFrom_eq, List.mapM_cons, hlater]
    simp only [Token.text?, hslice]
    rfl

/-- The texts of the tokens of a text, with a space between each two, are scanned as tokens of the
same kinds with the same texts. -/
theorem scan_spaced (source : String) :
    ∃ texts, (scan source).1.mapM (·.text? source) = some texts
      ∧ (scan (" ".intercalate texts)).1.map Token.kind = (scan source).1.map Token.kind
      ∧ (scan (" ".intercalate texts)).1.mapM (·.text? (" ".intercalate texts)) = some texts := by
  obtain ⟨lexemes, hlexed⟩ := Lexed.exists_lexed source.toList
  have hjoined : (" ".intercalate (lexemes.map fun lexeme => String.ofList lexeme.2)).toList
      = [' '].intercalate (lexemes.map Prod.snd) := by
    simp [String.toList_intercalate, Function.comp_def]
  have hspaced := hlexed.spaced
  rw [← hjoined] at hspaced
  refine ⟨_, hlexed.mapM_text? (List.nil_append _).symm rfl, ?_,
    hspaced.mapM_text? (List.nil_append _).symm rfl⟩
  exact hspaced.kindsOf_eq.trans hlexed.kindsOf_eq.symm

/-- Without the spaces, tokens can run into one another. -/
example : (scan "a+ +b").1.map Token.kind ≠ (scan "a++b").1.map Token.kind := by decide +kernel

end ScriptSteps
