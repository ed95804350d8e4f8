import Mathlib
import ScriptSteps.Proofs.Token.Appended
import ScriptSteps.Proofs.Tree.Leaves

/-!
# Strings across writing and scanning

A token can carry any string, since every character can be written between quotes. The printer
writes any string as one token as well, but it also writes escapes by character code, which the
scanner does not know. So the string of that token is the one that was written exactly if none of
its characters is written that way.

## Main definitions

* `quotedChar`: a character between single quotes, without escapes by code

## Main statements

* `scan_renderString`: what a written string is scanned as, and when that is the string itself
-/

namespace ScriptSteps

/-! ## Texts of one token -/

/-- A text on one line that one lexeme takes up is scanned as that token. -/
theorem scan_of_lexeme {source : String} {first : Char} {rest : List Char} {kind : TokenKind}
    (hsource : source.toList = first :: rest) (htrivia : triviaLength (first :: rest) = 0)
    (hlexeme : lexeme first rest = (kind, rest.length))
    (hline : ∀ c ∈ source.toList, Text.isLineEnd c = false) :
    scan source = ([⟨kind, 0, source.utf8ByteSize, 1⟩], ⟨source.utf8ByteSize, 1⟩) := by
  have hfinish : Position.start.past (first :: rest) [] = ⟨source.utf8ByteSize, 1⟩ := by
    have hoffset := Position.start.offset_past (first :: rest) []
    have honeLine := Position.line_past_eq (hsource ▸ hline) .start []
    rw [← hsource, Text.byteSize_toList] at hoffset
    rw [← hsource] at honeLine ⊢
    generalize Position.start.past source.toList [] = finish at hoffset honeLine ⊢
    obtain ⟨offset, line⟩ := finish
    simp only [Position.start, Nat.zero_add] at hoffset honeLine
    rw [hoffset, honeLine]
  have hdrop : (first :: rest).drop (triviaLength (first :: rest)) = first :: rest := by
    rw [htrivia, List.drop_zero]
  obtain ⟨stop, hstop, hscan⟩ := scanFrom_cons (p := .start) hdrop
  have hstart : tokenStart .start (first :: rest) = .start := by
    rw [tokenStart, htrivia]
    rfl
  simp only [hlexeme, hstart, List.take_length, List.drop_length] at hstop hscan
  rw [scan, hsource, hscan, hstop, hfinish, scanFrom_nil (by rfl)]
  rfl

/-! ## Carried strings -/

/-- A character between single quotes: quotes, backslashes and the ends of lines that may not stand
there are escaped by one character. -/
def quotedChar (c : Char) : List Char :=
  if c = '\n' then ['\\', 'n']
  else if c = '\r' then ['\\', 'r']
  else if c = '\'' ∨ c = '\\' then ['\\', c]
  else [c]

theorem stringBody_quotedChar (c : Char) (cs : List Char) :
    stringBody '\'' (quotedChar c ++ cs)
      = stringBody.extend [c] (quotedChar c).length (stringBody '\'' cs) := by
  by_cases hescape : c ∈ ['\n', '\r', '\'', '\\']
  · simp only [List.mem_cons, List.not_mem_nil, or_false] at hescape
    rcases hescape with rfl | rfl | rfl | rfl
    all_goals exact stringBody_escape (by decide) cs
  · simp only [List.mem_cons, List.not_mem_nil, or_false, not_or] at hescape
    obtain ⟨hfeed, hreturn, hquote, hback⟩ := hescape
    have hchar : quotedChar c = [c] := by simp [quotedChar, *]
    rw [hchar]
    exact stringBody_plain (by simp [isPlain, *]) cs

theorem stringBody_quoted (value : List Char) :
    stringBody '\'' (value.flatMap quotedChar ++ ['\''])
      = (some value, (value.flatMap quotedChar).length + 1) := by
  induction value with
  | nil => simp [stringBody.eq_5]
  | cons c value ih =>
    rw [List.flatMap_cons, List.append_assoc, stringBody_quotedChar, ih]
    simp [stringBody.extend, Nat.add_assoc]

/-- Every string is that of some token. -/
theorem exists_scan_string (s : String) :
    ∃ source, (scan source).1.map Token.kind = [.string s] := by
  have hbody := stringBody_quoted s.toList
  generalize s.toList.flatMap quotedChar = written at hbody
  refine ⟨String.ofList ('\'' :: (written ++ ['\''])), ?_⟩
  have hlexeme : lexeme '\'' (written ++ ['\'']) = (.string s, written.length + 1) := by
    rw [lexeme, if_pos (Or.inr rfl), stringLexeme, hbody]
    simp
  have hkinds : kindsOf ('\'' :: (written ++ ['\''])) = [.string s] := by
    rw [kindsOf_lexeme (triviaLength_eq_zero (by decide) (by decide) _), hlexeme]
    simp
  rw [scan, String.toList_ofList]
  exact hkinds

/-! ## Written strings -/

theorem rereadChar_eq_or (c : Char) :
    (rereadChar c = [c] ∧ c ≠ '\u2028' ∧ c ≠ '\u2029' ∧ (Text.isControl c → hasEscape c))
      ∨ 2 ≤ (rereadChar c).length := by
  unfold rereadChar
  split
  · exact .inr (by decide)
  · split
    · exact .inr (by decide)
    · split
      · exact .inr (by simp [hexByte])
      · next hline hparagraph hcontrol => exact .inl ⟨rfl, hline, hparagraph, by grind⟩

/-- No character is left out, so a longer one cannot be made up for. -/
theorem length_le_flatMap_rereadChar (cs : List Char) :
    cs.length ≤ (cs.flatMap rereadChar).length := by
  induction cs with
  | nil => exact le_rfl
  | cons c cs ih =>
    have hpos : 1 ≤ (rereadChar c).length := by
      rcases rereadChar_eq_or c with ⟨hself, -⟩ | hlong
      · simp [hself]
      · omega
    simp only [List.flatMap_cons, List.length_append, List.length_cons]
    omega

theorem isPlain_of_flatMap_rereadChar {cs : List Char} (h : cs.flatMap rereadChar = cs) :
    ∀ c ∈ cs, c ≠ '\u2028' ∧ c ≠ '\u2029' ∧ (Text.isControl c → hasEscape c) := by
  induction cs with
  | nil => simp
  | cons c cs ih =>
    have hlength := congrArg List.length h
    have hcs := length_le_flatMap_rereadChar cs
    simp only [List.flatMap_cons, List.length_append, List.length_cons] at hlength
    obtain ⟨hself, hplain⟩ := (rereadChar_eq_or c).resolve_right (by omega)
    rw [List.flatMap_cons, hself, List.singleton_append] at h
    exact List.forall_mem_cons.2 ⟨hplain, ih (List.cons.inj h).2⟩

theorem rereadString_eq_self_iff (s : String) :
    rereadString s = s ↔ (Literal.string s).IsPlain := by
  constructor
  · intro h
    have hchars : (rereadString s).toList = s.toList.flatMap rereadChar := String.toList_ofList
    exact isPlain_of_flatMap_rereadChar (hchars.symm.trans (congrArg String.toList h))
  · intro h
    simpa [Literal.reread] using h.reread

/-- A written string is scanned as one token of kind string, followed by the end of the text.
Its value is the string again exactly if that has no line or paragraph separator, and no control
character but those with an escape of their own. Some token carries each string. -/
theorem scan_renderString (s : String) :
    scan (renderString s)
        = ([⟨.string (rereadString s), 0, (renderString s).utf8ByteSize, 1⟩],
          ⟨(renderString s).utf8ByteSize, 1⟩)
      ∧ (rereadString s = s ↔ ∀ c ∈ s.toList, c ≠ '\u2028' ∧ c ≠ '\u2029'
        ∧ (Text.isControl c = true → hasEscape c = true))
      ∧ ∃ source, (scan source).1.map Token.kind = [.string s] := by
  refine ⟨?_, rereadString_eq_self_iff s, exists_scan_string s⟩
  have hbody := stringBody_written s.toList []
  have htext : (renderString s).toList = '\'' :: (s.toList.flatMap escapedChar ++ ['\'']) := by
    simp [renderString]
  have honeLine := (scanned_string s).oneLine
  generalize s.toList.flatMap escapedChar = written at hbody htext
  refine scan_of_lexeme htext (triviaLength_eq_zero (by decide) (by decide) _) ?_ honeLine
  rw [lexeme, if_pos (Or.inr rfl), stringLexeme, hbody, List.length_append]
  rfl

/-- Not every string is scanned as itself: the character of code zero, which `'\0'` stands for, is
written as `'\x00'`, and that is scanned as the letter `x` and two digits. -/
theorem scan_renderString_zero :
    (scan "'\\0'").1.map Token.kind = [.string "\x00"]
      ∧ (scan (renderString "\x00")).1.map Token.kind = [.string "x00"]
      ∧ TokenKind.string "x00" ≠ .string "\x00" := by
  refine ⟨?_, ?_, by decide⟩ <;> decide +kernel

end ScriptSteps
