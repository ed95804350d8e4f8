import Mathlib
import ScriptSteps.Proofs.Token.Appended
import ScriptSteps.Step.Flatten

/-!
# Texts with other line breaks

A line may be broken by a line feed, by a carriage return, or by both. Which of them a text uses
makes no difference to its steps, nor to the error it has instead.

A scan of the text with line feeds only runs alongside a scan of the text itself. The two are at the
same token at every moment, except after a string that is not closed on its line: one scan then
stands after the line break, the other may still stand inside it.

## Main definitions

* `unifyBreaks`, `withLineFeeds`: the same text with line feeds only

## Main statements

* `analyze_withLineFeeds`: the steps of a text do not depend on how its lines are broken
-/

namespace ScriptSteps

/-- The same text with a line feed for every carriage return, together with the line feed that may
follow it. -/
def unifyBreaks : List Char → List Char
  | [] => []
  | '\r' :: '\n' :: cs => '\n' :: unifyBreaks cs
  | '\r' :: cs => '\n' :: unifyBreaks cs
  | c :: cs => c :: unifyBreaks cs

/-- The same text with line feeds only. -/
def withLineFeeds (source : String) : String := String.ofList (unifyBreaks source.toList)

@[simp] theorem unifyBreaks_nil : unifyBreaks [] = [] := rfl

theorem unifyBreaks_cons {c : Char} (h : c ≠ '\r') (cs : List Char) :
    unifyBreaks (c :: cs) = c :: unifyBreaks cs :=
  unifyBreaks.eq_4 c cs (fun _ hc _ => h hc) h

@[simp] theorem unifyBreaks_newline (cs : List Char) :
    unifyBreaks ('\n' :: cs) = '\n' :: unifyBreaks cs := unifyBreaks_cons (by decide) cs

/-- A carriage return before a line feed is dropped; any other becomes a line feed. -/
theorem unifyBreaks_return (cs : List Char) :
    (∃ ds, cs = '\n' :: ds) ∧ unifyBreaks ('\r' :: cs) = unifyBreaks cs
    ∨ (∀ ds, cs ≠ '\n' :: ds) ∧ unifyBreaks ('\r' :: cs) = '\n' :: unifyBreaks cs := by
  by_cases h : ∃ ds, cs = '\n' :: ds
  · obtain ⟨ds, rfl⟩ := h
    exact .inl ⟨⟨ds, rfl⟩, by rw [unifyBreaks.eq_2, unifyBreaks_newline]⟩
  · exact .inr ⟨fun ds hds => h ⟨ds, hds⟩, unifyBreaks.eq_3 cs fun ds hds => h ⟨ds, hds⟩⟩

/-- The two texts start with the same character unless one starts with a line break. -/
theorem exists_cons_of_unifyBreaks {cs ds : List Char} {d : Char} (hd : d ≠ '\n')
    (h : unifyBreaks cs = d :: ds) : ∃ es, cs = d :: es := by
  cases cs with
  | nil => simp at h
  | cons c cs =>
    by_cases hc : c = '\r'
    · subst hc
      rcases unifyBreaks_return cs with ⟨⟨es, rfl⟩, hunify⟩ | ⟨-, hunify⟩
      · rw [hunify, unifyBreaks_newline] at h
        exact absurd (List.cons.inj h).1.symm hd
      · rw [hunify] at h
        exact absurd (List.cons.inj h).1.symm hd
    · rw [unifyBreaks_cons hc] at h
      exact ⟨cs, by rw [(List.cons.inj h).1]⟩

theorem unifyBreaks_append {line : List Char} (h : '\r' ∉ line) (tail : List Char) :
    unifyBreaks (line ++ tail) = line ++ unifyBreaks tail := by
  induction line with
  | nil => rfl
  | cons c line ih =>
    rw [List.mem_cons, not_or] at h
    rw [List.cons_append, unifyBreaks_cons (Ne.symm h.1), ih h.2, List.cons_append]

/-- Up to its first carriage return a text stays as it is. -/
theorem exists_before_return (cs : List Char) :
    ∃ line tail, cs = line ++ tail ∧ '\r' ∉ line ∧ BreaksOff tail
      ∧ BreaksOff (unifyBreaks tail) := by
  induction cs with
  | nil => exact ⟨[], [], rfl, by simp, by simp [BreaksOff], by simp [BreaksOff]⟩
  | cons c cs ih =>
    by_cases hc : c = '\r'
    · subst hc
      refine ⟨[], '\r' :: cs, rfl, by simp, by simp [BreaksOff], ?_⟩
      rcases unifyBreaks_return cs with ⟨⟨ds, rfl⟩, hunify⟩ | ⟨-, hunify⟩
      · rw [hunify, unifyBreaks_newline]
        exact breaksOff_newline _
      · rw [hunify]
        exact breaksOff_newline _
    · obtain ⟨line, tail, rfl, hline, htail, hunified⟩ := ih
      exact ⟨c :: line, tail, rfl, by simp [Ne.symm hc, hline], htail, hunified⟩

/-! ## Lines -/

theorem lineEnds_unifyBreaks (cs : List Char) : lineEnds (unifyBreaks cs) = lineEnds cs := by
  fun_induction unifyBreaks cs with
  | case1 => rfl
  | case2 cs ih => simp [lineEnds, Position.endsLine, Text.isLineEnd, ih]
  | case3 cs hfeed ih =>
    have hnext : cs.head? ≠ some '\n' := by
      intro hhead
      cases cs with
      | nil => simp at hhead
      | cons c cs => exact hfeed cs (by simp_all)
    simp [lineEnds, Position.endsLine, Text.isLineEnd, ih, hnext]
  | case4 c cs _ hreturn ih => simp_all [lineEnds, Position.endsLine]

/-! ## Blanks and comments -/

/-- Passing over one character, or over the two of a line break, goes alongside passing over one
character of the unified text. -/
theorem drop_unifyBreaks_cons {f g : List Char → ℕ} {c : Char} {cs : List Char}
    (hf : f (c :: cs) = 1 + g cs)
    (hbreak : c = '\r' → ∀ ds, f ('\n' :: ds) = 1 + g ds ∧ g ('\n' :: ds) = 1 + g ds)
    (hother : c ≠ '\r' → f (c :: unifyBreaks cs) = 1 + g (unifyBreaks cs))
    (ih : (unifyBreaks cs).drop (g (unifyBreaks cs)) = unifyBreaks (cs.drop (g cs))) :
    (unifyBreaks (c :: cs)).drop (f (unifyBreaks (c :: cs)))
      = unifyBreaks ((c :: cs).drop (f (c :: cs))) := by
  rw [hf, Nat.add_comm 1, List.drop_succ_cons, ← ih]
  by_cases hc : c = '\r'
  · subst hc
    have hbreak := hbreak rfl
    rcases unifyBreaks_return cs with ⟨⟨ds, rfl⟩, hunify⟩ | ⟨-, hunify⟩
    · rw [hunify, unifyBreaks_newline, (hbreak _).1, (hbreak _).2]
    · rw [hunify, (hbreak _).1, Nat.add_comm 1, List.drop_succ_cons]
  · rw [unifyBreaks_cons hc, hother hc, Nat.add_comm 1, List.drop_succ_cons]

theorem trivia_unifyBreaks :
    (∀ cs, (unifyBreaks cs).drop (triviaLength (unifyBreaks cs))
      = unifyBreaks (cs.drop (triviaLength cs)))
    ∧ (∀ cs, (unifyBreaks cs).drop (blockCommentLength (unifyBreaks cs))
      = unifyBreaks (cs.drop (blockCommentLength cs)))
    ∧ ∀ cs, (unifyBreaks cs).drop (lineCommentLength (unifyBreaks cs))
      = unifyBreaks (cs.drop (lineCommentLength cs)) := by
  have hnewline (ds : List Char) : triviaLength ('\n' :: ds) = 1 + triviaLength ds :=
    triviaLength_blank (by decide) ds
  apply triviaLength.mutual_induct
  case case1 => simp [triviaLength]
  case case2 =>
    intro cs ih
    simpa [unifyBreaks_cons, triviaLength, Nat.add_comm 2] using ih
  case case3 =>
    intro cs ih
    simpa [unifyBreaks_cons, triviaLength, Nat.add_comm 2] using ih
  case case4 =>
    intro c cs _ _ hblank ih
    exact drop_unifyBreaks_cons (triviaLength_blank hblank cs)
      (fun _ ds => ⟨hnewline ds, hnewline ds⟩) (fun _ => triviaLength_blank hblank _) ih
  case case5 =>
    intro c cs hline hblock hblank
    have hreturn : c ≠ '\r' := by
      rintro rfl
      exact hblank (by decide)
    rw [unifyBreaks_cons hreturn, triviaLength.eq_4 c cs hline hblock, if_neg hblank,
      triviaLength.eq_4, if_neg hblank, List.drop_zero, List.drop_zero, unifyBreaks_cons hreturn]
    · intro ds hc hds
      obtain ⟨es, hes⟩ := exists_cons_of_unifyBreaks (by decide) hds
      exact hline es hc hes
    · intro ds hc hds
      obtain ⟨es, hes⟩ := exists_cons_of_unifyBreaks (by decide) hds
      exact hblock es hc hes
  case case6 => simp [blockCommentLength]
  case case7 =>
    intro cs ih
    simpa [unifyBreaks_cons, blockCommentLength, Nat.add_comm 2] using ih
  case case8 =>
    intro c cs hclose ih
    have hbreak (ds : List Char) : blockCommentLength ('\n' :: ds) = 1 + blockCommentLength ds :=
      blockCommentLength.eq_3 '\n' ds (by simp)
    refine drop_unifyBreaks_cons (blockCommentLength.eq_3 c cs hclose)
      (fun _ ds => ⟨hbreak ds, hbreak ds⟩) (fun _ => blockCommentLength.eq_3 c _ ?_) ih
    intro ds hc hds
    obtain ⟨es, hes⟩ := exists_cons_of_unifyBreaks (by decide) hds
    exact hclose es hc hes
  case case9 => simp [lineCommentLength]
  case case10 =>
    intro c cs ihTrivia ihComment
    by_cases hend : Text.isLineEnd c
    · have hline (ds : List Char) (d : Char) (hd : Text.isLineEnd d = true) :
          lineCommentLength (d :: ds) = 1 + triviaLength ds := by
        rw [lineCommentLength, if_pos hd]
      exact drop_unifyBreaks_cons (hline cs c hend)
        (fun _ ds => ⟨hline ds '\n' (by decide), hnewline ds⟩) (fun _ => hline _ c hend) ihTrivia
    · have hline (ds : List Char) : lineCommentLength (c :: ds) = 1 + lineCommentLength ds := by
        rw [lineCommentLength, if_neg hend]
      refine drop_unifyBreaks_cons (hline cs) ?_ (fun _ => hline _) ihComment
      rintro rfl
      exact absurd (by decide) hend

/-! ## Tokens -/

/-- Where the scans of the two texts stand after a token: at the same place, or on the two sides of
a line feed that belongs to a carriage return before it. -/
def Alongside (unified original : List Char) : Prop :=
  unified = unifyBreaks original ∨ ∃ ds, original = '\n' :: ds ∧ unified = unifyBreaks ds

theorem stringBody_unifyBreaks {quote : Char} (hquote : quote = '"' ∨ quote = '\'')
    (cs : List Char) :
    (stringBody quote (unifyBreaks cs)).1 = (stringBody quote cs).1
    ∧ Alongside ((unifyBreaks cs).drop (stringBody quote (unifyBreaks cs)).2)
      (cs.drop (stringBody quote cs).2) := by
  have hreturn : quote ≠ '\r' := by rcases hquote with rfl | rfl <;> decide
  fun_induction stringBody quote cs with
  | case1 => exact ⟨rfl, .inl rfl⟩
  | case2 => exact ⟨rfl, .inl rfl⟩
  | case3 cs ih =>
    rw [unifyBreaks_cons (by decide), unifyBreaks.eq_2, stringBody.eq_4 _ _ _ (by simp)]
    simpa [stringBody.extend, unescape, Text.isLineEnd, Nat.add_comm _ (stringBody _ _).2] using ih
  | case4 c cs hfeed ih =>
    by_cases hc : c = '\r'
    · subst hc
      have hunify : unifyBreaks ('\r' :: cs) = '\n' :: unifyBreaks cs :=
        unifyBreaks.eq_3 cs fun ds => hfeed ds rfl
      rw [unifyBreaks_cons (by decide), hunify, stringBody.eq_4 _ _ _ (by simp)]
      simpa [stringBody.extend, unescape, Text.isLineEnd, Nat.add_comm _ (stringBody _ _).2]
        using ih
    · rw [unifyBreaks_cons (by decide), unifyBreaks_cons hc, stringBody.eq_4 _ _ _ (by simp [hc])]
      simpa [stringBody.extend, Nat.add_comm _ (stringBody _ _).2, ih.1] using ih.2
  | case5 c cs hlast _ hback hbreak =>
    rcases hbreak with rfl | rfl
    · rw [unifyBreaks_newline, stringBody_cons (by decide), if_pos (by simp)]
      exact ⟨rfl, .inl rfl⟩
    · rcases unifyBreaks_return cs with ⟨⟨ds, rfl⟩, hunify⟩ | ⟨-, hunify⟩
      · rw [hunify, unifyBreaks_newline, stringBody_cons (by decide), if_pos (by simp)]
        exact ⟨rfl, .inr ⟨ds, rfl, rfl⟩⟩
      · rw [hunify, stringBody_cons (by decide), if_pos (by simp)]
        exact ⟨rfl, .inl rfl⟩
  | case6 cs hlast _ hback hbreak =>
    rw [unifyBreaks_cons hreturn, stringBody_cons (ne_of_no_rest hlast hback), if_neg hbreak,
      if_pos rfl]
    exact ⟨rfl, .inl rfl⟩
  | case7 c cs hlast _ hback hbreak hquote ih =>
    rw [unifyBreaks_cons fun hc => hbreak (.inr hc), stringBody_cons (ne_of_no_rest hlast hback),
      if_neg hbreak, if_neg hquote]
    simpa [stringBody.extend, Nat.add_comm _ (stringBody _ _).2, ih.1] using ih.2

theorem stringLexeme_unifyBreaks {quote : Char} (hquote : quote = '"' ∨ quote = '\'')
    (cs : List Char) :
    (stringLexeme quote (unifyBreaks cs)).1 = (stringLexeme quote cs).1
    ∧ Alongside ((unifyBreaks cs).drop (stringLexeme quote (unifyBreaks cs)).2)
      (cs.drop (stringLexeme quote cs).2) := by
  have hlexeme (ds : List Char) : stringLexeme quote ds
      = (((stringBody quote ds).1.map fun value => TokenKind.string (String.ofList value)).getD
          .invalid, (stringBody quote ds).2) := by
    unfold stringLexeme
    split <;> simp_all
  obtain ⟨hvalue, hrest⟩ := stringBody_unifyBreaks hquote cs
  rw [hlexeme, hlexeme, hvalue]
  exact ⟨rfl, hrest⟩

theorem lexeme_unifyBreaks (first : Char) (cs : List Char) :
    (lexeme first (unifyBreaks cs)).1 = (lexeme first cs).1
    ∧ Alongside ((unifyBreaks cs).drop (lexeme first (unifyBreaks cs)).2)
      (cs.drop (lexeme first cs).2) := by
  by_cases hquote : first = '"' ∨ first = '\''
  · simpa only [lexeme, if_pos hquote] using stringLexeme_unifyBreaks hquote cs
  · -- Any other token ends before the first carriage return, and up to there nothing changes.
    obtain ⟨line, tail, rfl, hline, htail, hunified⟩ := exists_before_return cs
    have hlength := length_lexeme_le first line
    rw [unifyBreaks_append hline, lexeme_append hquote htail.separates,
      lexeme_append hquote hunified.separates,
      List.drop_append_of_le_length hlength, List.drop_append_of_le_length hlength]
    refine ⟨rfl, .inl (unifyBreaks_append (fun hmem => hline ?_) tail).symm⟩
    exact List.mem_of_mem_drop hmem

/-! ## Whole texts -/

/-- From one line, as many lines end in the two texts on the way to two places and after these. -/
theorem line_past_unifyBreaks_modEq (p : Position) {passed rest passed' rest' : List Char}
    (htext : passed' ++ rest' = unifyBreaks (passed ++ rest)) :
    (p.past passed' rest').line + lineEnds rest'
      ≡ (p.past passed rest).line + lineEnds rest [MOD UInt32.size] := by
  have hunified := p.line_past_modEq passed' rest'
  rw [htext, lineEnds_unifyBreaks] at hunified
  exact hunified.trans (p.line_past_modEq passed rest).symm

theorem Position.line_eq_of_modEq {p q : Position} {n : ℕ} (hp : p.line < UInt32.size)
    (hq : q.line < UInt32.size) (h : p.line + n ≡ q.line + n [MOD UInt32.size]) :
    p.line = q.line :=
  (h.add_right_cancel' n).eq_of_lt_of_lt hp hq

/-- Places in the two texts that have as many line ends after them are on the same line. -/
theorem line_past_unifyBreaks {p : Position} (hword : p.line < UInt32.size)
    {passed rest passed' rest' : List Char}
    (htext : passed' ++ rest' = unifyBreaks (passed ++ rest))
    (hrest : lineEnds rest' = lineEnds rest) :
    (p.past passed' rest').line = (p.past passed rest).line := by
  have hlines := line_past_unifyBreaks_modEq p htext
  rw [hrest] at hlines
  exact Position.line_eq_of_modEq (Position.line_past_lt hword _ _)
    (Position.line_past_lt hword _ _) hlines

/-- After a token, the scans of the two texts go on with the same tokens on the same lines, if those
of the text after the token do from one place. -/
theorem Alongside.cursorFrom_eq {p q : Position} {unified original : List Char}
    (h : Alongside unified original) (hp : p.line < UInt32.size) (hq : q.line < UInt32.size)
    (hlines : p.line + lineEnds unified ≡ q.line + lineEnds original [MOD UInt32.size])
    (ih : cursorFrom q (unifyBreaks original) = cursorFrom q original) :
    (cursorFrom p unified).terminals = (cursorFrom q original).terminals
      ∧ (cursorFrom p unified).endLine = (cursorFrom q original).endLine := by
  rcases h with rfl | ⟨ds, rfl, rfl⟩
  · rw [lineEnds_unifyBreaks] at hlines
    rw [cursorFrom_congr (Position.line_eq_of_modEq hp hq hlines), ih]
    exact ⟨rfl, rfl⟩
  · -- One scan stands before a line feed, which only separates tokens.
    have hline : p.line = (q.step '\n' (unifyBreaks ds).head?).line := by
      have hfeed : lineEnds ('\n' :: ds) = 1 + lineEnds ds := rfl
      rw [lineEnds_unifyBreaks, hfeed, ← Nat.add_assoc] at hlines
      refine Position.line_eq_of_modEq hp (Nat.mod_lt _ (by decide)) (hlines.trans ?_)
      exact (Nat.mod_modEq _ _).symm.add_right _
    rw [unifyBreaks_newline, cursorFrom_blank (by decide)] at ih
    rw [cursorFrom_congr hline, ← ih]
    exact ⟨rfl, rfl⟩

/-- The scans of the two texts give the same tokens on the same lines. -/
theorem cursorFrom_unifyBreaks {p : Position} (hword : p.line < UInt32.size) (cs : List Char) :
    cursorFrom p (unifyBreaks cs) = cursorFrom p cs := by
  induction cs using scan_induction generalizing p with
  | blank cs hdrop =>
    have hend : (p.past (unifyBreaks cs) []).line = (p.past cs []).line :=
      line_past_unifyBreaks hword (by simp) rfl
    have htrivia := trivia_unifyBreaks.1 cs
    rw [hdrop, unifyBreaks_nil] at htrivia
    rw [cursorFrom_nil htrivia, cursorFrom_nil hdrop, hend]
  | token cs first rest hdrop ih =>
    have hfirst : first ≠ '\r' := by
      rintro rfl
      exact absurd (trivia_stops.1 cs '\r' (by rw [hdrop]; rfl)) (by decide)
    have htrivia := trivia_unifyBreaks.1 cs
    rw [hdrop, unifyBreaks_cons hfirst] at htrivia
    have hunified := firstToken_of_drop htrivia
    have horiginal := firstToken_of_drop hdrop
    obtain ⟨hkind, hrest⟩ := lexeme_unifyBreaks first rest
    rw [hunified.cursorFrom_eq, horiginal.cursorFrom_eq, hkind]
    generalize (unifyBreaks cs).take (triviaLength (unifyBreaks cs)) = gap' at *
    generalize first :: (unifyBreaks rest).take (lexeme first (unifyBreaks rest)).2 = text' at *
    generalize (unifyBreaks rest).drop (lexeme first (unifyBreaks rest)).2 = after' at *
    generalize cs.take (triviaLength cs) = gap at *
    generalize first :: rest.take (lexeme first rest).2 = text at *
    generalize rest.drop (lexeme first rest).2 = after at *
    have htext : gap' ++ (text' ++ after') = unifyBreaks (gap ++ (text ++ after)) := by
      rw [← hunified.chars_eq, ← horiginal.chars_eq]
    have hstart : (p.past gap' (text' ++ after')).line = (p.past gap (text ++ after)).line := by
      refine line_past_unifyBreaks hword htext ?_
      rw [← hunified.drop_eq, ← horiginal.drop_eq, trivia_unifyBreaks.1, lineEnds_unifyBreaks]
    rw [← List.append_assoc, ← List.append_assoc] at htext
    obtain ⟨hterminals, hend⟩ := hrest.cursorFrom_eq (Position.line_past_lt hword _ _)
      (Position.line_past_lt hword _ _) (line_past_unifyBreaks_modEq p htext)
      (ih (Position.line_past_lt hword _ _))
    rw [hstart, hterminals, hend]

/-- The steps of a text, or the error it has instead, do not depend on how its lines are broken. -/
theorem analyze_withLineFeeds (source : String) :
    analyze (withLineFeeds source) = analyze source := by
  have hcursor : Cursor.ofSource (withLineFeeds source) = Cursor.ofSource source := by
    rw [ofSource_eq_cursorFrom, withLineFeeds, String.toList_ofList,
      cursorFrom_unifyBreaks (by decide), ofSource_eq_cursorFrom]
  rw [analyze, parseProgram, hcursor, analyze, parseProgram]

end ScriptSteps
