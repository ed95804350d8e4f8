import Mathlib
import ScriptSteps.Proofs.Token.Appended
import ScriptSteps.Proofs.Token.Scanned

/-!
# Tokens at the front of a text

A word, a sign or a blank at the front of a text adds one token, on the line where the text starts,
or none. What stands after it is read as if it started there.

## Main definitions

* `Cursor.push`: a token before what a cursor reads

## Main statements

* `cursorFrom_word`, `cursorFrom_sign`: a word or a sign at the front of a text
* `cursorFrom_append`: the tokens of a text that ends with a token, and then those of another one
-/

namespace ScriptSteps

namespace Cursor

/-- The cursor at a token on the line of the one before, with what another cursor reads after it. -/
def push (kind : TokenKind) (c : Cursor) : Cursor :=
  ⟨c.previousLine, ⟨kind, c.previousLine⟩ :: c.terminals, c.endLine⟩

variable (kind : TokenKind) (c : Cursor)

theorem size_lt_push : c.size < (c.push kind).size := Nat.lt_succ_self _

@[simp] theorem next?_push : (c.push kind).next? = some (kind, ⟨c, c.size_lt_push kind⟩) := rfl

@[simp] theorem kind_push : (c.push kind).kind = kind := rfl

@[simp] theorem line_push : (c.push kind).line = c.previousLine := rfl

@[simp] theorem terminals_push : (c.push kind).terminals = ⟨kind, c.previousLine⟩ :: c.terminals :=
  rfl

@[simp] theorem eatKind?_push : (c.push kind).eatKind? kind = some ⟨c, c.size_lt_push kind⟩ := by
  simp [eatKind?]

end Cursor

/-! ## The front of a text -/

/-- A blank that ends no line is passed over. -/
theorem cursorFrom_space (p : Position) (cs : List Char) :
    cursorFrom p (' ' :: cs) = cursorFrom p cs := by
  have hends : Position.endsLine ' ' cs.head? = false := rfl
  have hline : (p.step ' ' cs.head?).line = p.line := by simp [Position.step, hends]
  rw [cursorFrom_blank (by decide), cursorFrom_congr hline]
  rfl

/-- A token at the front of a text. -/
theorem cursorFrom_lexeme {first : Char} {tail rest : List Char} {kind : TokenKind}
    (h : triviaLength (first :: (tail ++ rest)) = 0
      ∧ lexeme first (tail ++ rest) = (kind, tail.length))
    (hlines : ∀ c ∈ first :: tail, Text.isLineEnd c = false) (p : Position) :
    cursorFrom p (first :: (tail ++ rest)) = (cursorFrom p rest).push kind := by
  obtain ⟨htrivia, hlexeme⟩ := h
  have hdrop : (first :: (tail ++ rest)).drop (triviaLength (first :: (tail ++ rest)))
      = first :: (tail ++ rest) := by rw [htrivia, List.drop_zero]
  have hfirst := firstToken_of_drop hdrop
  rw [htrivia, hlexeme, List.take_zero, List.take_left, List.drop_left] at hfirst
  have hline : (p.past (first :: tail) rest).line = p.line := Position.line_past_eq hlines p rest
  rw [hfirst.cursorFrom_eq, List.nil_append, cursorFrom_congr hline]
  rfl

theorem cursorFrom_word {word rest : List Char} (hword : isWord word = true)
    (hrest : Stops Text.isNamePart rest) (p : Position) :
    cursorFrom p (word ++ rest)
      = (cursorFrom p rest).push (wordKind (String.ofList word)) := by
  have hlines := (scanned_word hword).oneLine
  cases word with
  | nil => exact absurd hword (by decide)
  | cons first tail => exact cursorFrom_lexeme (lexeme_word hword hrest) hlines p

theorem cursorFrom_name {name : String} (h : isName name = true) {rest : List Char}
    (hrest : Stops Text.isNamePart rest) (p : Position) :
    cursorFrom p (name.toList ++ rest) = (cursorFrom p rest).push (.identifier name) := by
  simp only [isName, Bool.and_eq_true, Option.isNone_iff_eq_none] at h
  rw [cursorFrom_word h.1 hrest, String.ofList_toList, wordKind, h.2]

theorem cursorFrom_keyword (word : Keyword) {rest : List Char}
    (hrest : Stops Text.isNamePart rest) (p : Position) :
    cursorFrom p (word.text.toList ++ rest) = (cursorFrom p rest).push (.keyword word) := by
  have hwords : ∀ other ∈ Keyword.all, isWord other.text.toList = true := by decide +kernel
  rw [cursorFrom_word (hwords word word.mem_all) hrest, String.ofList_toList, wordKind,
    Keyword.ofText?_text]

theorem cursorFrom_sign (sign : Punctuator) {rest : List Char}
    (hrest : ∀ c ∈ rest.head?, c ∉ sign.continuations) (p : Position) :
    cursorFrom p (sign.text.toList ++ rest) = (cursorFrom p rest).push (.punctuator sign) := by
  have hlines := (scanned_sign sign).oneLine
  cases htext : sign.text.toList with
  | nil => exact absurd htext sign.toList_text_ne_nil
  | cons first tail => exact cursorFrom_lexeme (lexeme_sign htext hrest) (htext ▸ hlines) p

/-! ## One text after another -/

/-- After a text that ends with a token come the tokens of what a separator starts. -/
theorem cursorFrom_append {source : String} {tail : List Char} (h : EndsWithToken (scan source))
    (htail : Separates tail) :
    cursorFrom .start (source.toList ++ tail)
      = ⟨1, (Cursor.ofSource source).terminals ++ (cursorFrom (scan source).2 tail).terminals,
          (cursorFrom (scan source).2 tail).endLine⟩ := by
  have hscan : scanFrom .start (source.toList ++ tail) = scanOn (scan source) tail :=
    scanFrom_append h htail
  rw [cursorFrom, hscan, scanOn, List.map_append]
  rfl

end ScriptSteps
