import Mathlib
import ScriptSteps.Token.Scan

/-!
# Lines of tokens

Lines are counted in 32 bits. While the count does not run over, reading on never goes back to an
earlier line, so the lines of the tokens of a text grow from the line it starts on to the line of
its end.

## Main definitions

* `lineEnds`: how many lines end in a text
* `LinesFit`: the texts whose lines can be counted in 32 bits
* `FirstToken`: a text cut at the end of its first token

## Main statements

* `Position.line_past_modEq`, `Position.line_past_add_lineEnds`: the line of a place, in general and
  while the count does not run over
* `scanFrom_cons`: one step of the scan
* `scan_induction`: induction over the tokens of a text
* `snd_scanFrom`: the scan ends at the end of the text
* `isChain_lines_scanFrom`: the lines of the tokens do not decrease
-/

namespace ScriptSteps

/-! ## Lines that end in a text -/

/-- How many lines end in a text. -/
def lineEnds : List Char → ℕ
  | [] => 0
  | c :: cs => (if Position.endsLine c cs.head? then 1 else 0) + lineEnds cs

/-- Only a character that ends lines ends one. -/
theorem Position.endsLine_eq_false {c : Char} (h : Text.isLineEnd c = false) (next : Option Char) :
    endsLine c next = false := by
  unfold endsLine
  split
  case isTrue hreturn =>
    subst hreturn
    exact absurd h (by decide)
  case isFalse => exact h

theorem lineEnds_eq_zero {cs : List Char} (h : ∀ c ∈ cs, Text.isLineEnd c = false) :
    lineEnds cs = 0 := by
  induction cs with
  | nil => rfl
  | cons c cs ih =>
    have hc := Position.endsLine_eq_false (h c List.mem_cons_self) cs.head?
    rw [lineEnds, hc, ih fun d hd => h d (List.mem_cons_of_mem c hd)]
    rfl

theorem lineEnds_le_append (passed rest : List Char) :
    lineEnds rest ≤ lineEnds (passed ++ rest) := by
  induction passed with
  | nil => exact le_rfl
  | cons c cs ih => exact ih.trans (Nat.le_add_left _ _)

/-- The lines of a text, counted from 1, fit in 32 bits. -/
def LinesFit (source : String) : Prop := lineEnds source.toList < UInt32.size - 1

instance (source : String) : Decidable (LinesFit source) :=
  inferInstanceAs (Decidable (lineEnds source.toList < UInt32.size - 1))

theorem LinesFit.start_line_add {source : String} (h : LinesFit source) :
    Position.start.line + lineEnds source.toList < UInt32.size := by
  have hfew : lineEnds source.toList < UInt32.size - 1 := h
  have hstart : Position.start.line = 1 := rfl
  omega

namespace Position

@[simp] theorem past_nil (p : Position) (rest : List Char) : p.past [] rest = p := rfl

theorem past_cons (p : Position) (c : Char) (cs rest : List Char) :
    p.past (c :: cs) rest = (p.step c (cs ++ rest).head?).past cs rest := by
  rw [past, List.head?_append]

theorem past_append (p : Position) (first second rest : List Char) :
    p.past (first ++ second) rest = (p.past first (second ++ rest)).past second rest := by
  induction first generalizing p with
  | nil => rfl
  | cons c cs ih => rw [List.cons_append, past_cons, past_cons, ih, List.append_assoc]

theorem line_past_lt {p : Position} (h : p.line < UInt32.size) (passed rest : List Char) :
    (p.past passed rest).line < UInt32.size := by
  induction passed generalizing p with
  | nil => exact h
  | cons c cs ih =>
    refine ih ?_
    unfold step
    split
    · exact Nat.mod_lt _ (by decide)
    · exact h

/-- From a place in a text to its end there are as many lines as end in between, counted in
32 bits. -/
theorem line_past_modEq (p : Position) (passed rest : List Char) :
    (p.past passed rest).line + lineEnds rest
      ≡ p.line + lineEnds (passed ++ rest) [MOD UInt32.size] := by
  induction passed generalizing p with
  | nil => rfl
  | cons c cs ih =>
    have hstep : (p.step c (cs ++ rest).head?).line
        ≡ p.line + (if endsLine c (cs ++ rest).head? then 1 else 0) [MOD UInt32.size] := by
      unfold step
      split
      · exact Nat.mod_modEq _ _
      · rfl
    rw [past_cons, List.cons_append, lineEnds, ← Nat.add_assoc]
    exact (ih _).trans (hstep.add_right _)

/-- Where the count does not run over, it is exact. -/
theorem line_past_add_lineEnds {p : Position} {passed rest : List Char}
    (h : p.line + lineEnds (passed ++ rest) < UInt32.size) :
    (p.past passed rest).line + lineEnds rest = p.line + lineEnds (passed ++ rest) := by
  induction passed generalizing p with
  | nil => rfl
  | cons c cs ih =>
    rw [List.cons_append, lineEnds, ← Nat.add_assoc] at h ⊢
    have hstep : (p.step c (cs ++ rest).head?).line
        = p.line + if endsLine c (cs ++ rest).head? then 1 else 0 := by
      unfold step
      split
      · next hends =>
        rw [if_pos hends] at h
        exact Nat.mod_eq_of_lt ((Nat.le_add_right _ _).trans_lt h)
      · rfl
    rw [← hstep] at h ⊢
    rw [past_cons, ih h]

/-- Line 0 comes after the last line that can be counted. -/
example : (Position.past ⟨0, UInt32.size - 1⟩ ['\n'] []).line = 0 := by decide

/-- If the count does not run over in a text, neither does it in the rest of it. -/
theorem line_past_add_lt {p : Position} {passed rest : List Char}
    (h : p.line + lineEnds (passed ++ rest) < UInt32.size) :
    (p.past passed rest).line + lineEnds rest < UInt32.size :=
  (line_past_add_lineEnds h).trans_lt h

theorem line_le_past {p : Position} {passed rest : List Char}
    (h : p.line + lineEnds (passed ++ rest) < UInt32.size) :
    p.line ≤ (p.past passed rest).line := by
  have hexact := line_past_add_lineEnds h
  have hfewer := lineEnds_le_append passed rest
  omega

theorem line_past_eq {passed : List Char} (h : ∀ c ∈ passed, Text.isLineEnd c = false)
    (p : Position) (rest : List Char) : (p.past passed rest).line = p.line := by
  induction passed generalizing p with
  | nil => rfl
  | cons c cs ih =>
    have hc := endsLine_eq_false (h c List.mem_cons_self) (cs.head?.or rest.head?)
    rw [past, ih (fun d hd => h d (List.mem_cons_of_mem c hd))]
    simp [step, hc]

end Position

/-! ## One step of the scan -/

/-- The place where the first token of a text starts. -/
def tokenStart (p : Position) (cs : List Char) : Position :=
  p.past (cs.take (triviaLength cs)) (cs.drop (triviaLength cs))

theorem scanFrom_nil {p : Position} {cs : List Char} (h : cs.drop (triviaLength cs) = []) :
    scanFrom p cs = ([], p.past cs []) := by
  have hall : cs.take (triviaLength cs) = cs :=
    List.take_of_length_le (List.drop_eq_nil_iff.1 h)
  rw [scanFrom]
  split
  case h_1 => rw [h, hall]
  case h_2 hcons => simp [h] at hcons

theorem scanFrom_cons {p : Position} {cs : List Char} {first : Char} {rest : List Char}
    (h : cs.drop (triviaLength cs) = first :: rest) :
    ∃ stop : Position,
      stop = (tokenStart p cs).past (first :: rest.take (lexeme first rest).2)
        (rest.drop (lexeme first rest).2)
      ∧ scanFrom p cs =
        (⟨(lexeme first rest).1, (tokenStart p cs).offset, stop.offset, (tokenStart p cs).line⟩
            :: (scanFrom stop (rest.drop (lexeme first rest).2)).1,
          (scanFrom stop (rest.drop (lexeme first rest).2)).2) := by
  refine ⟨_, rfl, ?_⟩
  rw [scanFrom]
  split
  case h_1 hnil => simp [h] at hnil
  case h_2 first' rest' hcons =>
    rw [h] at hcons
    obtain ⟨rfl, rfl⟩ := List.cons.inj hcons
    rfl

/-- The text after a token is shorter. -/
theorem length_drop_lexeme_lt {cs : List Char} {first : Char} {rest : List Char}
    (h : cs.drop (triviaLength cs) = first :: rest) (n : ℕ) :
    (rest.drop n).length < cs.length := by
  have := congrArg List.length h
  simp only [List.length_drop, List.length_cons] at this ⊢
  omega

/-- What holds of a text without tokens, and of a text with a token if it holds of what comes after
the token, holds of every text. -/
@[elab_as_elim]
theorem scan_induction {motive : List Char → Prop}
    (blank : ∀ cs, cs.drop (triviaLength cs) = [] → motive cs)
    (token : ∀ cs first rest, cs.drop (triviaLength cs) = first :: rest →
      motive (rest.drop (lexeme first rest).2) → motive cs) (cs : List Char) : motive cs := by
  induction hlength : cs.length using Nat.strong_induction_on generalizing cs with
  | _ n ih =>
    cases hdrop : cs.drop (triviaLength cs) with
    | nil => exact blank cs hdrop
    | cons first rest =>
      have hshort := length_drop_lexeme_lt hdrop (lexeme first rest).2
      exact token cs first rest hdrop (ih _ (hlength ▸ hshort) _ rfl)

/-- The first token of a text: the gap before it, its kind and its characters, and the text after
it, with what a scan makes of them from any place on. -/
structure FirstToken (cs gap : List Char) (kind : TokenKind) (text rest : List Char) : Prop where
  chars_eq : cs = gap ++ (text ++ rest)
  drop_eq : cs.drop (triviaLength cs) = text ++ rest
  scanFrom_eq (p : Position) : scanFrom p cs =
    (⟨kind, (p.past gap (text ++ rest)).offset, (p.past (gap ++ text) rest).offset,
        (p.past gap (text ++ rest)).line⟩ :: (scanFrom (p.past (gap ++ text) rest) rest).1,
      (scanFrom (p.past (gap ++ text) rest) rest).2)

theorem firstToken_of_drop {cs : List Char} {first : Char} {rest : List Char}
    (h : cs.drop (triviaLength cs) = first :: rest) :
    FirstToken cs (cs.take (triviaLength cs)) (lexeme first rest).1
      (first :: rest.take (lexeme first rest).2) (rest.drop (lexeme first rest).2) := by
  have hdrop : cs.drop (triviaLength cs)
      = first :: rest.take (lexeme first rest).2 ++ rest.drop (lexeme first rest).2 := by
    rw [List.cons_append, List.take_append_drop, h]
  refine ⟨?_, hdrop, fun p => ?_⟩
  · rw [← hdrop, List.take_append_drop]
  · obtain ⟨stop, hstop, hscan⟩ := scanFrom_cons (p := p) h
    rw [tokenStart, hdrop, ← Position.past_append] at hstop
    rw [hscan, ← hdrop, ← hstop]
    rfl

theorem exists_firstToken {cs : List Char} {first : Char} {rest : List Char}
    (h : cs.drop (triviaLength cs) = first :: rest) :
    ∃ gap kind text, FirstToken cs gap kind text (rest.drop (lexeme first rest).2) :=
  ⟨_, _, _, firstToken_of_drop h⟩

/-! ## Whole texts -/

/-- The scan ends at the end of the text. -/
theorem snd_scanFrom (p : Position) (cs : List Char) : (scanFrom p cs).2 = p.past cs [] := by
  induction cs using scan_induction generalizing p with
  | blank cs hdrop => rw [scanFrom_nil hdrop]
  | token cs first rest hdrop ih =>
    obtain ⟨gap, kind, text, hfirst⟩ := exists_firstToken hdrop
    rw [hfirst.scanFrom_eq, ih, hfirst.chars_eq, ← List.append_assoc, p.past_append (gap ++ text),
      List.append_nil]

/-- From the line a text starts on, over the lines of its tokens, to the line of its end, no step
goes back, unless the count of lines runs over. -/
theorem isChain_lines_scanFrom {p : Position} {cs : List Char}
    (h : p.line + lineEnds cs < UInt32.size) :
    (p.line :: (scanFrom p cs).1.map Token.line ++ [(scanFrom p cs).2.line]).IsChain (· ≤ ·) := by
  induction cs using scan_induction generalizing p with
  | blank cs hdrop =>
    rw [scanFrom_nil hdrop]
    have hend : p.line ≤ (p.past cs []).line := Position.line_le_past (by rwa [List.append_nil])
    simpa using hend
  | token cs first rest hdrop ih =>
    obtain ⟨gap, kind, text, hfirst⟩ := exists_firstToken hdrop
    rw [hfirst.scanFrom_eq]
    rw [hfirst.chars_eq] at h
    generalize rest.drop (lexeme first rest).2 = after at *
    have hstart : p.line ≤ (p.past gap (text ++ after)).line := Position.line_le_past h
    have htext : (p.past gap (text ++ after)).line + lineEnds (text ++ after) < UInt32.size :=
      Position.line_past_add_lt h
    have hend : (p.past gap (text ++ after)).line ≤ (p.past (gap ++ text) after).line := by
      rw [Position.past_append]
      exact Position.line_le_past htext
    have hafter : (p.past (gap ++ text) after).line + lineEnds after < UInt32.size := by
      rw [Position.past_append]
      exact Position.line_past_add_lt htext
    have hlater := ih hafter
    simp only [List.map_cons, List.cons_append, List.isChain_cons_cons]
    refine ⟨hstart, ?_⟩
    cases htail : (scanFrom (p.past (gap ++ text) after) after).1.map Token.line
        ++ [(scanFrom (p.past (gap ++ text) after) after).2.line] with
    | nil => exact .singleton _
    | cons line lines =>
      rw [List.cons_append, htail, List.isChain_cons_cons] at hlater
      exact List.isChain_cons_cons.2 ⟨hend.trans hlater.1, hlater.2⟩

end ScriptSteps
