import Mathlib
import ScriptSteps.Proofs.Token.LineEnds
import ScriptSteps.Proofs.Grammar.Ladder

/-!
# Ends of statements

A statement that is no block and has no body ends with a semicolon, before a closing brace, at the
end of the text, or with its line. The last of these is decided by the lines on which two tokens
start, so that a line may also end inside the first one if that is in quotes. Lines are compared as
they are counted, in 32 bits.

## Main definitions

* `Statement.isSimple`: the statements that have to be ended
* `Token.terminal`: a token as the grammar sees it

## Main statements

* `Grammar.endStatement_iff_breaksAfter`: where a statement ends without a semicolon
-/

namespace ScriptSteps

/-- The statements that have to be ended. -/
def Statement.isSimple : Statement → Bool
  | declaration _ | expression _ _ | return_ _ _ | break_ _ _ | continue_ _ _ | throw _ _ => true
  | _ => false

/-- A token as the grammar sees it. -/
def Token.terminal (t : Token) : Terminal := ⟨t.kind, t.line⟩

theorem Cursor.terminals_ofSource (source : String) :
    (ofSource source).terminals = (scan source).1.map Token.terminal := rfl

theorem Cursor.Advances.trans_passes {c d e : Cursor} (h : c.Advances d) {used : List Terminal}
    (h' : d.Passes used e) : c.Advances e := by
  obtain ⟨before, hbefore, hpasses⟩ := h
  exact ⟨before ++ used, by simp [hbefore], hpasses.trans h'⟩

/-- A rule that succeeds stops at a later cursor. -/
theorem Parsed.From.passes {α : Type} {n : ℕ} {c : Cursor} {q : α → Cursor → Prop}
    {p : Parsed α n} (hp : p.From c q) : p.Ensures fun _ rest => ∃ used, c.Passes used rest := by
  cases p with
  | ok value rest fewer =>
    obtain ⟨⟨used, hpasses, -⟩, -⟩ := hp
    exact ⟨used, hpasses⟩
  | error cause stop => trivial

namespace Grammar

open Parsed

/-! ## What ends a statement -/

/-- A cursor at which a statement was ended after something had been read. -/
def EndsStatement (c rest : Cursor) : Prop := ∃ d, c.Advances d ∧ d.endStatement.Gives () rest

section Ends

variable {c d : Cursor}

theorem endStatement_ends (h : c.Advances d) {α : Type} (f : Unit → α) :
    (d.endStatement.map f).Ensures fun _ rest => EndsStatement c rest :=
  (ensures_gives _).map fun _ _ hgives => ⟨d, h, hgives⟩

/-- A statement that ends with an expression and its end. -/
theorem expression_ends (h : c.Advances d) {α : Type} (f : Expression → α) :
    ((expression d).bindLoose fun value d₁ _ => d₁.endStatement.map fun _ => f value).Ensures
      fun _ rest => EndsStatement c rest :=
  (expression_from d).passes.bindLoose fun _ _ _ ⟨_, hpasses⟩ =>
    endStatement_ends (h.trans_passes hpasses) _

theorem declarationStatement_ends (kind : VariableKind) (line : ℕ) (h : c.Advances d) :
    (declarationStatement kind line d).Ensures fun _ rest => EndsStatement c rest := by
  have hdeclared : (declaration kind line d).Ensures fun _ rest => ∃ used, d.Passes used rest :=
    (declarators_from kind d).passes.map fun _ _ h => h
  refine hdeclared.bindLoose fun declared d₁ _ ⟨used, hpasses⟩ => ?_
  exact endStatement_ends (h.trans_passes hpasses) _

theorem jump_ends (line : ℕ) (h : c.Advances d) :
    (jump line d).Ensures fun _ rest => EndsStatement c rest := by
  unfold jump
  split
  · next label d₁ h₁ heat =>
    split
    · obtain ⟨-, used, hpasses, -⟩ := Cursor.spans_of_eatName? heat
      exact .widen (.widen (endStatement_ends (h.trans_passes hpasses) _) _) _
    · exact endStatement_ends h _
  · exact endStatement_ends h _

theorem returned_ends (line : ℕ) (h : c.Advances d) :
    (returned line d).Ensures fun _ rest => EndsStatement c rest := by
  unfold returned
  split
  · exact endStatement_ends h _
  · exact .widen (expression_ends h some) _

theorem thrown_ends (line : ℕ) (h : c.Advances d) :
    (thrown line d).Ensures fun _ rest => EndsStatement c rest := by
  unfold thrown
  split
  · trivial
  · exact .widen (expression_ends h id) _

theorem expressionStatement_ends (c : Cursor) :
    (expressionStatement c).Ensures fun _ rest => EndsStatement c rest := by
  unfold expressionStatement
  split
  · trivial
  · have hread : (expression c).Ensures fun _ rest => c.Advances rest := by
      cases hexpression : expression c with
      | ok value rest fewer =>
        have hfrom := expression_from c
        rw [hexpression] at hfrom
        exact hfrom.1.advances fewer
      | error cause stop => trivial
    exact hread.bindLoose fun _ _ _ hadvances => endStatement_ends hadvances _

/-- A simple statement ends where a statement may end. -/
theorem statement_ends (c : Cursor) :
    (statement c).Ensures fun s rest => s.isSimple = true → EndsStatement c rest := by
  apply statement_ensures
  case declaration =>
    intro _ kind c₁ h₁ hnext
    have hends := declarationStatement_ends kind c.line (Cursor.advances_of_next? hnext)
    exact hends.mono fun _ _ h _ => h
  case return_ =>
    intro _ c₁ h₁ hnext
    exact (returned_ends c.line (Cursor.advances_of_next? hnext)).mono fun _ _ h _ => h
  case jump_ =>
    intro _ c₁ h₁ hnext
    have hends := jump_ends c.line (Cursor.advances_of_next? hnext)
    exact hends.mono fun _ _ h => ⟨fun _ => h, fun _ => h⟩
  case throw =>
    intro _ c₁ h₁ hnext
    exact (thrown_ends c.line (Cursor.advances_of_next? hnext)).mono fun _ _ h _ => h
  case expression => exact (expressionStatement_ends c).mono fun _ _ h _ => h
  case if_ =>
    intro c₁ _
    rw [ifStatement]
    exact ensures_true.bindLoose fun _ _ _ _ => ensures_map fun _ _ => nofun
  case while_ => exact fun _ _ _ => ensures_true.mono fun _ _ _ => nofun
  case for_ =>
    exact fun _ _ => ensures_true.mono fun _ _ _ _ => ensures_true.mono fun _ _ _ => nofun
  all_goals exact fun _ _ => nofun

/-- A semicolon that ends a statement is read. -/
theorem passes_of_endStatement (hsemicolon : c.kind = .punctuator .semicolon) {rest : Cursor}
    (h : c.endStatement.Gives () rest) : c.Passes [⟨.punctuator .semicolon, c.line⟩] rest := by
  unfold Cursor.endStatement at h
  split at h
  · next e he heat =>
    obtain ⟨-, -, rfl⟩ := Parsed.Gives.of_widen h
    exact Cursor.passes_of_next? (Cursor.next?_of_eatKind? heat)
  · next heat => exact absurd hsemicolon (Cursor.kind_ne_of_eatKind? heat (by simp))

/-- Without a semicolon, a statement ends before a closing brace, at the end of the text and where
the next token is on a later line. -/
theorem endStatement_gives_iff (hsemicolon : c.kind ≠ .punctuator .semicolon) (rest : Cursor) :
    c.endStatement.Gives () rest ↔ rest = c ∧ (c.kind = .punctuator .rightBrace
      ∨ c.kind = .endOfInput ∨ c.previousLine < c.line) := by
  have heat : c.eat? .semicolon = none := Cursor.eatKind?_eq_none hsemicolon
  rw [Cursor.endStatement, heat]
  dsimp only
  split
  · next hends =>
    refine ⟨?_, ?_⟩
    · intro hdone
      exact ⟨hdone.of_done.2, hends⟩
    · rintro ⟨rfl, -⟩
      exact gives_done () rest
  · next hends =>
    refine ⟨?_, fun h => absurd h.2 hends⟩
    rintro ⟨_, hdone⟩
    cases hdone

end Ends

/-! ## Ends in a text -/

/-- The last of the tokens before a cursor in a text. -/
theorem exists_last_token {source : String} {used : List Terminal} {c : Cursor}
    (h : (Cursor.ofSource source).Passes used c) (hused : used ≠ []) :
    ∃ earlier t later, (scan source).1 = earlier ++ t :: later
      ∧ used = (earlier ++ [t]).map Token.terminal ∧ c.terminals = later.map Token.terminal := by
  have hterminals := h.terminals
  rw [Cursor.terminals_ofSource] at hterminals
  obtain ⟨tokens, later, htokens, rfl, hlater⟩ := List.map_eq_append_iff.1 hterminals
  have htokens' : tokens ≠ [] := by simpa using hused
  refine ⟨tokens.dropLast, tokens.getLast htokens', later, ?_, ?_, hlater.symm⟩
  · rw [htokens, List.append_cons, List.dropLast_append_getLast]
  · rw [List.dropLast_append_getLast]

/-- Between two tokens of a text, of which the second is no semicolon, a statement ends only before
a closing brace or if a line ends after the start of the first; and there it does, unless the count
of lines runs over. -/
theorem endStatement_between {source : String} {earlier later : List Token} {t u : Token}
    (htokens : (scan source).1 = earlier ++ t :: u :: later) {c : Cursor}
    (hc : (Cursor.ofSource source).Passes ((earlier ++ [t]).map Token.terminal) c)
    (hsemicolon : u.kind ≠ .punctuator .semicolon) :
    (∀ rest, c.endStatement.Gives () rest →
        rest = c ∧ (u.kind = .punctuator .rightBrace ∨ BreaksAfter source t u))
      ∧ (LinesFit source → u.kind = .punctuator .rightBrace ∨ BreaksAfter source t u →
        c.endStatement.Gives () c) := by
  obtain ⟨before, text, gap, after, hadjacent⟩ := adjacent_scan htokens
  have hbreaks := hadjacent.lineEndIn_iff_breaksAfter
  have hterminals : c.terminals = u.terminal :: later.map Token.terminal := by
    have hall := hc.terminals
    rw [Cursor.terminals_ofSource, htokens] at hall
    simpa using hall.symm
  have hkind : c.kind = u.kind := by simp [Cursor.kind, hterminals, Token.terminal]
  have hline : c.line = u.line := by simp [Cursor.line, hterminals, Token.terminal]
  have hprevious : c.previousLine = t.line := by simpa [Token.terminal] using hc.previousLine
  have hend : u.kind ≠ .endOfInput := by
    have hmem : u.kind ∈ kindsOf source.toList :=
      List.mem_map_of_mem (f := Token.kind) (htokens ▸ by simp : u ∈ (scan source).1)
    exact forall_mem_kindsOf (p := (· ≠ .endOfInput)) lexeme_ne_endOfInput source.toList _ hmem
  have hgives := endStatement_gives_iff (hkind ▸ hsemicolon : c.kind ≠ .punctuator .semicolon)
  rw [hkind, hline, hprevious] at hgives
  constructor
  · intro rest hrest
    obtain ⟨rfl, hbrace | hnone | hlater⟩ := (hgives rest).1 hrest
    · exact ⟨rfl, .inl hbrace⟩
    · exact absurd hnone hend
    · exact ⟨rfl, .inr (hbreaks.1 (hadjacent.lineEndIn_of_line_lt hlater))⟩
  · rintro hfits (hbrace | hends)
    · exact (hgives c).2 ⟨rfl, .inl hbrace⟩
    · have hlater := hadjacent.line_lt_of_lineEndIn hfits (hbreaks.2 hends)
      exact (hgives c).2 ⟨rfl, .inr (.inr hlater)⟩

/-- Between two tokens of a text, the second of which is neither a semicolon nor a closing brace, a
statement ends, and nothing is read, only if a line ends after the start of the first token and
before that of the second: in the gap between them, or inside the first one, which then is in
quotes. If the lines of the text can be counted in 32 bits, it does end there. A statement that has
to be ended and is read anywhere in a text has a semicolon as its last token, or a closing brace or
the end of the text comes next, or a line ends in that way. -/
theorem endStatement_iff_breaksAfter (source : String) :
    (∀ earlier t u later c, (scan source).1 = earlier ++ t :: u :: later →
      (Cursor.ofSource source).Passes ((earlier ++ [t]).map Token.terminal) c →
      u.kind ≠ .punctuator .semicolon → u.kind ≠ .punctuator .rightBrace → ∀ rest,
        (c.endStatement.Gives () rest → rest = c ∧ LineEndIn source t.start u.start)
        ∧ (LinesFit source →
          (c.endStatement.Gives () rest ↔ rest = c ∧ LineEndIn source t.start u.start))
        ∧ (LineEndIn source t.start u.start ↔ BreaksAfter source t u))
    ∧ ∀ used c s rest, (Cursor.ofSource source).Passes used c → (statement c).Gives s rest →
      s.isSimple = true → ∃ earlier t later, (scan source).1 = earlier ++ t :: later
        ∧ (Cursor.ofSource source).Passes ((earlier ++ [t]).map Token.terminal) rest
        ∧ (t.kind = .punctuator .semicolon
          ∨ ∀ u ∈ later.head?, u.kind = .punctuator .rightBrace ∨ BreaksAfter source t u) := by
  refine ⟨?_, ?_⟩
  · intro earlier t u later c htokens hc hsemicolon hbrace rest
    obtain ⟨before, text, gap, after, hadjacent⟩ := adjacent_scan htokens
    have hbreaks := hadjacent.lineEndIn_iff_breaksAfter
    obtain ⟨honly, hthere⟩ := endStatement_between htokens hc hsemicolon
    have hends : c.endStatement.Gives () rest → rest = c ∧ LineEndIn source t.start u.start := by
      intro hgives
      obtain ⟨hrest, hat⟩ := honly rest hgives
      exact ⟨hrest, hbreaks.2 (hat.resolve_left hbrace)⟩
    refine ⟨hends, fun hfits => ⟨hends, ?_⟩, hbreaks⟩
    rintro ⟨rfl, hlineEnd⟩
    exact hthere hfits (.inr (hbreaks.1 hlineEnd))
  · intro used c s rest hc hs hsimple
    obtain ⟨d, ⟨more, hmore, hd⟩, hends⟩ := (statement_ends c).of_gives hs hsimple
    have hpasses := hc.trans hd
    by_cases hsemicolon : d.kind = .punctuator .semicolon
    · have hlast := hpasses.trans (passes_of_endStatement hsemicolon hends)
      obtain ⟨earlier, t, later, htokens, hused, -⟩ := exists_last_token hlast (by simp)
      rw [hused] at hlast
      rw [List.map_append] at hused
      have ht := (List.append_inj' hused rfl).2
      refine ⟨earlier, t, later, htokens, hlast, .inl ?_⟩
      simpa [Token.terminal] using (congrArg (List.map Terminal.kind) ht).symm
    · obtain ⟨earlier, t, later, htokens, hused, hlater⟩ :=
        exists_last_token hpasses (by simp [hmore])
      rw [hused] at hpasses
      obtain ⟨rfl, -⟩ := (endStatement_gives_iff hsemicolon rest).1 hends
      refine ⟨earlier, t, later, htokens, hpasses, .inr fun u hu => ?_⟩
      obtain ⟨others, rfl⟩ : ∃ others, later = u :: others := by
        cases later with
        | nil => simp at hu
        | cons u' others => exact ⟨others, by simpa using hu⟩
      have hkind : rest.kind = u.kind := by simp [Cursor.kind, hlater, Token.terminal]
      exact ((endStatement_between htokens hpasses (hkind ▸ hsemicolon)).1 rest hends).2

/-- A statement that ends with its line, and the tokens on both sides of its end. -/
theorem endStatement_iff_breaksAfter_newline :
    let source := "a\nb"
    let t : Token := ⟨.identifier "a", 0, 1, 1⟩
    let u : Token := ⟨.identifier "b", 2, 3, 2⟩
    let c : Cursor := ⟨1, [u.terminal], 2⟩
    (scan source).1 = [t, u]
      ∧ (Cursor.ofSource source).Passes [t.terminal] c ∧ LinesFit source
      ∧ (c.endStatement.Gives () c ↔ c = c ∧ LineEndIn source t.start u.start)
      ∧ (LineEndIn source t.start u.start ↔ BreaksAfter source t u)
      ∧ (statement (.ofSource source)).Gives (.expression (.identifier ⟨"a", 1⟩) 1) c
      ∧ ∃ earlier t' later, (scan source).1 = earlier ++ t' :: later
        ∧ (Cursor.ofSource source).Passes ((earlier ++ [t']).map Token.terminal) c
        ∧ (t'.kind = .punctuator .semicolon
          ∨ ∀ u ∈ later.head?, u.kind = .punctuator .rightBrace ∨ BreaksAfter source t' u) := by
  intro source t u c
  have htokens : (scan source).1 = [t, u] := by decide +kernel
  have hsource : Cursor.ofSource source = ⟨1, [t.terminal, u.terminal], 2⟩ := by decide +kernel
  have hpasses : (Cursor.ofSource source).Passes [t.terminal] c := by
    rw [hsource]
    exact ⟨rfl, rfl, rfl⟩
  have hread : (statement (.ofSource source)).Gives (.expression (.identifier ⟨"a", 1⟩) 1) c := by
    rw [hsource]
    exact ⟨by decide, by cbv⟩
  obtain ⟨hbetween, hended⟩ := endStatement_iff_breaksAfter source
  have hfits : LinesFit source := by decide +kernel
  obtain ⟨-, hends, hbreaks⟩ := hbetween [] t u [] c htokens hpasses (by decide) (by decide) c
  exact ⟨htokens, hpasses, hfits, hends hfits, hbreaks, hread, hended [] _ _ c (.refl _) hread rfl⟩

/-- Not every statement that ends so has the end of a line behind its last token: a string may go
on in the next line, and the next statement starts right after it. -/
theorem endStatement_without_lineEnd :
    let source := "'a\\\nb' y"
    let t : Token := ⟨.string "ab", 0, 6, 1⟩
    let u : Token := ⟨.identifier "y", 7, 8, 2⟩
    let c : Cursor := ⟨1, [u.terminal], 2⟩
    (scan source).1 = [t, u] ∧ (Cursor.ofSource source).Passes [t.terminal] c
      ∧ c.endStatement.Gives () c ∧ u.kind ≠ .punctuator .rightBrace
      ∧ Text.slice? source.toList t.stop u.start = some [' '] ∧ ¬LineEndIn source t.stop u.start
      ∧ parseProgram source = .ok
        [.expression (.literal (.string "ab")) 1, .expression (.identifier ⟨"y", 2⟩) 2] := by
  intro source t u c
  have htokens : (scan source).1 = [t, u] := by decide +kernel
  have hsource : Cursor.ofSource source = ⟨1, [t.terminal, u.terminal], 2⟩ := by decide +kernel
  have hgap : Text.slice? source.toList t.stop u.start = some [' '] := by decide +kernel
  refine ⟨htokens, ?_, ⟨_, rfl⟩, by simp [u], hgap, ?_, ?_⟩
  · rw [hsource]
    exact ⟨rfl, rfl, rfl⟩
  · rintro ⟨text, htext, hends⟩
    obtain rfl := Option.some.inj (hgap.symm.trans htext)
    simp [Text.isLineEnd] at hends
  · rw [parseProgram, hsource]
    cbv

end Grammar

end ScriptSteps
