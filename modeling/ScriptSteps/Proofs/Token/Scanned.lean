import Mathlib
import ScriptSteps.Proofs.Token.Literals

/-!
# Texts and their tokens

A text that is cut into the same tokens whatever follows it, as long as that starts with a character
of a given class. Such texts are put together from words, signs, blanks and literals.

## Main definitions

* `Scanned`: a text with its tokens and the class of the characters that may follow
* `TokenKind.ofText`: the token of a reserved word or a sign

## Main statements

* `Scanned.append`: two texts one after the other
* `scanned_name`, `scanned_sign`, `scanned_string`, `scanned_number`: the parts
-/

namespace ScriptSteps

/-- A text on one line that is cut into the given tokens before the characters of a class. -/
structure Scanned (follows : Char → Bool) (text : List Char) (kinds : List TokenKind) : Prop where
  oneLine : ∀ c ∈ text, Text.isLineEnd c = false
  scans : ∀ rest : List Char, (∀ c ∈ rest.head?, follows c = true) →
    kindsOf (text ++ rest) = kinds ++ kindsOf rest

/-- The class of all characters. -/
def anything (_ : Char) : Bool := true

/-- The characters that end a word or, if a dot may follow, a number. -/
def endsOperand (beforeDot : Bool) (c : Char) : Bool :=
  !Text.isNamePart c && (beforeDot || c != '.')

namespace Scanned

variable {f g : Char → Bool} {text more : List Char} {kinds moreKinds : List TokenKind}

theorem nil : Scanned f [] [] := ⟨by simp, by simp⟩

theorem mono (h : Scanned f text kinds) (hclass : ∀ c, g c = true → f c = true) :
    Scanned g text kinds :=
  ⟨h.oneLine, fun rest hrest => h.scans rest fun c hc => hclass c (hrest c hc)⟩

/-- A text that may stand before a dot may also stand where no dot comes. -/
theorem operand {b b' : Bool} (h : Scanned (endsOperand b) text kinds)
    (hdot : b' = true → b = true) : Scanned (endsOperand b') text kinds := by
  refine h.mono fun c hc => ?_
  simp only [endsOperand, Bool.and_eq_true, Bool.or_eq_true] at hc ⊢
  exact ⟨hc.1, hc.2.imp_left hdot⟩

/-- Two texts one after the other. The second may be empty, and then what follows it has to suit
the first. -/
theorem append (h : Scanned f text kinds) (hmore : Scanned g more moreKinds)
    (hhead : ∀ c ∈ more.head?, f c = true) (hnil : more = [] → ∀ c, g c = true → f c = true) :
    Scanned g (text ++ more) (kinds ++ moreKinds) := by
  refine ⟨fun c hc => ?_, fun rest hrest => ?_⟩
  · rcases List.mem_append.1 hc with hc | hc
    · exact h.oneLine c hc
    · exact hmore.oneLine c hc
  · rw [List.append_assoc, List.append_assoc, h.scans, hmore.scans rest hrest]
    cases more with
    | nil => exact fun c hc => hnil rfl c (hrest c hc)
    | cons first tail => exact hhead

theorem append_cons (h : Scanned f text kinds) {c : Char} (hmore : Scanned g (c :: more) moreKinds)
    (hc : f c = true) : Scanned g (text ++ c :: more) (kinds ++ moreKinds) :=
  h.append hmore (by simpa using hc) (by simp)

theorem append_of_anything (h : Scanned anything text kinds) (hmore : Scanned g more moreKinds) :
    Scanned g (text ++ more) (kinds ++ moreKinds) :=
  h.append hmore (fun _ _ => rfl) (fun _ _ _ => rfl)

theorem space (h : Scanned f text kinds) : Scanned f (' ' :: text) kinds := by
  refine ⟨fun c hc => ?_, fun rest hrest => ?_⟩
  · rcases List.mem_cons.1 hc with rfl | hc
    · decide
    · exact h.oneLine c hc
  · rw [List.cons_append, kindsOf_space, h.scans rest hrest]

theorem append_space (h : Scanned f text kinds) (hspace : f ' ' = true) :
    Scanned anything (text ++ [' ']) kinds := by
  simpa using h.append_cons (nil (f := anything)).space hspace

end Scanned

/-! ## Words and signs -/

theorem isLineEnd_eq_false_of_isNamePart {c : Char} (h : Text.isNamePart c = true) :
    Text.isLineEnd c = false := by
  rw [Bool.eq_false_iff]
  intro hend
  rw [Text.isNamePart_eq_false_of_isBlank (Text.isBlank_of_isLineEnd hend)] at h
  exact absurd h (by decide)

theorem isNamePart_of_isWord {word : List Char} (h : isWord word = true) :
    ∀ c ∈ word, Text.isNamePart c = true := by
  cases word with
  | nil => simp
  | cons first tail =>
    simp only [isWord, Bool.and_eq_true, List.all_eq_true] at h
    intro c hc
    rcases List.mem_cons.1 hc with rfl | hc
    · exact Text.isNamePart_of_isNameStart h.1
    · exact h.2 c hc

theorem scanned_word {word : List Char} (h : isWord word = true) :
    Scanned (endsOperand true) word [wordKind (String.ofList word)] := by
  refine ⟨fun c hc => isLineEnd_eq_false_of_isNamePart (isNamePart_of_isWord h c hc),
    fun rest hrest => kindsOf_word h fun c hc => ?_⟩
  simpa [endsOperand] using hrest c hc

theorem scanned_name {name : String} (h : isName name = true) :
    Scanned (endsOperand true) name.toList [.identifier name] := by
  simp only [isName, Bool.and_eq_true, Option.isNone_iff_eq_none] at h
  simpa [wordKind, h.2] using scanned_word h.1

theorem scanned_keyword (k : Keyword) :
    Scanned (endsOperand true) k.text.toList [.keyword k] := by
  have hwords : ∀ l ∈ Keyword.all, isWord l.text.toList = true := by decide
  simpa [wordKind] using scanned_word (hwords k k.mem_all)

theorem scanned_sign (p : Punctuator) :
    Scanned (fun c => decide (c ∉ p.continuations)) p.text.toList [.punctuator p] := by
  have hlines : (Punctuator.all.all fun q =>
      q.text.toList.all fun c => !Text.isLineEnd c) = true := by
    decide
  refine ⟨fun c hc => ?_, fun rest hrest => kindsOf_sign p fun c hc => ?_⟩
  · simpa using List.all_eq_true.1 (List.all_eq_true.1 hlines p p.mem_all) c hc
  · simpa using hrest c hc

/-- Signs that are part of no longer one. -/
def Punctuator.closed : List Punctuator :=
  [leftParen, rightParen, leftBracket, rightBracket, leftBrace, rightBrace, comma, colon, dot,
   plusPlus, minusMinus]

/-- A sign that is part of no longer one is read as itself before anything. -/
theorem scanned_closed {p : Punctuator} (h : p ∈ Punctuator.closed) :
    Scanned anything p.text.toList [.punctuator p] := by
  have hclosed : ∀ q ∈ Punctuator.closed, q.continuations = [] := by decide
  exact (scanned_sign p).mono (by simp [hclosed p h])

/-- A text between two signs that are part of no longer ones. -/
theorem Scanned.enclosed {f : Char → Bool} {text : List Char} {kinds : List TokenKind}
    (h : Scanned f text kinds) {p q : Punctuator} (hp : p ∈ Punctuator.closed)
    (hq : q ∈ Punctuator.closed) (hclose : ∀ c ∈ q.text.toList.head?, f c = true) :
    Scanned anything (p.text.toList ++ (text ++ q.text.toList))
      (.punctuator p :: (kinds ++ [TokenKind.punctuator q])) := by
  exact (scanned_closed hp).append_of_anything
    (h.append (scanned_closed hq) hclose fun hnil => absurd hnil q.toList_text_ne_nil)

/-- The token that a reserved word or a sign is read as. -/
def TokenKind.ofText (text : String) : TokenKind :=
  match Keyword.ofText? text, Punctuator.ofText? text with
  | some word, _ => .keyword word
  | none, some sign => .punctuator sign
  | none, none => .invalid

/-- A reserved word or a sign with a space after it. -/
theorem scanned_ofText {text : String} (h : TokenKind.ofText text ≠ .invalid) :
    Scanned anything (text.toList ++ [' ']) [.ofText text] := by
  unfold TokenKind.ofText at h ⊢
  cases hword : Keyword.ofText? text with
  | some word =>
    obtain rfl : word.text = text := by simpa using List.find?_some hword
    exact (scanned_keyword word).append_space (by decide)
  | none =>
    cases hsign : Punctuator.ofText? text with
    | some sign =>
      obtain rfl : sign.text = text := by simpa using List.find?_some hsign
      have hspace : ∀ q ∈ Punctuator.all, ' ' ∉ q.continuations := by decide
      exact (scanned_sign sign).append_space (decide_eq_true (hspace sign sign.mem_all))
    | none => simp [hword, hsign] at h

/-! ## Literals -/

theorem isLineEnd_eq_false_of_mem_escapedChar {c d : Char} (h : d ∈ escapedChar c) :
    Text.isLineEnd d = false := by
  have hback : Text.isLineEnd '\\' = false := by decide
  have hescaped := escapedChar_escapedAs c
  generalize escapedChar c = written, rereadChar c = reread at hescaped h
  cases hescaped with
  | known hread hline =>
    simp only [List.mem_cons, List.not_mem_nil, or_false] at h
    rcases h with rfl | rfl
    · exact hback
    · exact hline
  | unknown hread hline hrest =>
    simp only [List.mem_cons] at h
    rcases h with rfl | rfl | hd
    · exact hback
    · exact hline
    · exact (hrest d hd).2
  | plain hplain hline =>
    obtain rfl := List.mem_singleton.1 h
    exact hline

theorem scanned_string (s : String) :
    Scanned anything (renderString s).toList [.string (rereadString s)] := by
  refine ⟨fun c hc => ?_, fun rest _ => kindsOf_renderString s rest⟩
  simp only [renderString, String.toList_ofList, List.cons_append, List.mem_cons, List.mem_append,
    List.mem_flatMap, List.not_mem_nil, or_false] at hc
  obtain rfl | ⟨d, -, hd⟩ | rfl := hc
  · decide
  · exact isLineEnd_eq_false_of_mem_escapedChar hd
  · decide

theorem DecimalLiteral.mem_text {n : DecimalLiteral} (h : n.IsWritten) {c : Char}
    (hc : c ∈ n.text) : c.isDigit = true ∨ c = '.' ∨ c = 'e' ∨ c = '+' ∨ c = '-' := by
  simp only [text, fractionText, exponentText, List.mem_append] at hc
  rcases hc with hc | hc | hc
  · exact .inl (h.whole.2 c hc)
  · cases hfraction : n.fraction? with
    | none => simp [hfraction] at hc
    | some digits =>
      rcases List.mem_cons.1 (by simpa [hfraction] using hc) with rfl | hc
      · exact .inr (.inl rfl)
      · exact .inl ((h.fraction digits hfraction).2 c hc)
  · cases hexponent : n.exponent? with
    | none => simp [hexponent] at hc
    | some part =>
      obtain ⟨hsign, hdigits⟩ := h.exponent part hexponent
      simp only [hexponent, List.mem_cons, List.mem_append] at hc
      rcases hc with rfl | hc | hc
      · exact .inr (.inr (.inl rfl))
      · rcases hsign with hsign | hsign <;> simp_all
      · exact .inl (hdigits.2 c hc)

theorem scanned_number {x : Binary64} (h : x.IsMagnitude) :
    Scanned (endsOperand !(scriptNumbers.write x).toList.all Char.isDigit)
      (scriptNumbers.write x).toList [numberKind x] := by
  refine ⟨?_, fun rest hrest => ?_⟩
  · cases hinfinite : x.isInfinite with
    | true =>
      rw [scriptNumbers_write_infinite h hinfinite]
      exact (scanned_name (by decide)).oneLine
    | false =>
      obtain ⟨value, ⟨n, hwritten, htext, -⟩, -⟩ := exists_writes_scriptNumber h hinfinite
      intro c hc
      rcases n.mem_text hwritten (htext ▸ hc) with hc | rfl | rfl | rfl | rfl
      · exact isLineEnd_eq_false_of_isNamePart (Text.isNamePart_of_isDigit hc)
      all_goals decide
  · simp only [endsOperand, Bool.and_eq_true, Bool.not_eq_true', Bool.or_eq_true,
      bne_iff_ne] at hrest
    refine kindsOf_scriptNumber h (fun c hc => (hrest c hc).1) fun hdigits c hc => ?_
    exact (hrest c hc).2.resolve_left (by simp [hdigits])

/-! ## First characters -/

/-- Whether a text starts with a character that cannot go on with a sign before it, unless it is
that sign again. -/
def Starts (text : List Char) : Prop := ∃ c ∈ text.head?, c ≠ '='

theorem Starts.append {text : List Char} (h : Starts text) (more : List Char) :
    Starts (text ++ more) := by
  obtain ⟨c, hc, hne⟩ := h
  exact ⟨c, by simp [List.head?_append, Option.mem_def.1 hc], hne⟩

theorem starts_cons {c : Char} (h : c ≠ '=') (text : List Char) : Starts (c :: text) :=
  ⟨c, rfl, h⟩

theorem starts_name {name : String} (h : isName name = true) : Starts name.toList := by
  simp only [isName, Bool.and_eq_true] at h
  cases hchars : name.toList with
  | nil => simp [hchars, isWord] at h
  | cons first tail =>
    have hpart := isNamePart_of_isWord h.1 first (by simp [hchars])
    refine starts_cons ?_ tail
    rintro rfl
    exact absurd hpart (by decide)

theorem starts_number {x : Binary64} (h : x.IsMagnitude) :
    Starts (scriptNumbers.write x).toList := by
  cases hinfinite : x.isInfinite with
  | true =>
    rw [scriptNumbers_write_infinite h hinfinite]
    exact starts_name (by decide)
  | false =>
    obtain ⟨value, ⟨n, hwritten, htext, -⟩, -⟩ := exists_writes_scriptNumber h hinfinite
    obtain ⟨hne, hdigits⟩ := hwritten.whole
    obtain ⟨first, tail, hwhole⟩ := List.exists_cons_of_ne_nil hne
    rw [← htext, DecimalLiteral.text, hwhole]
    refine starts_cons ?_ _
    rintro rfl
    exact absurd (hdigits '=' (by simp [hwhole])) (by decide)

end ScriptSteps
