import Mathlib
import ScriptSteps.Proofs.Token.Tiling

/-!
# Lines that end between tokens

If a token is on a later line than the one before it, a line ends after the start of the first and
before the start of the second; the converse holds while the count of lines does not run over. Only
a token in quotes can have the end of a line in itself; after any other, the line ends in the gap
before the next token.

## Main definitions

* `Adjacent`: two tokens one after the other, with the text of the first and the gap after it
* `LineEndIn`: the end of a line between two byte offsets of a text
* `BreaksAfter`: the two ways for a line to end after a token

## Main statements

* `adjacent_scan`: tokens that come one after the other in a text
* `Adjacent.lineEndIn_of_line_lt`, `Adjacent.line_lt_of_lineEndIn`: when the second of two tokens is
  on a later line
-/

namespace ScriptSteps

/-! ## Lines that end on the way -/

/-- If there are more lines behind the end of a way than before its start, a line ends on it. -/
theorem Position.exists_isLineEnd_of_line_lt {p : Position} {passed rest : List Char}
    (h : p.line < (p.past passed rest).line) : ∃ c ∈ passed, Text.isLineEnd c = true := by
  by_contra hnone
  have hline : ∀ c ∈ passed, Text.isLineEnd c = false := by simpa using hnone
  rw [line_past_eq hline] at h
  omega

/-- Fewer lines end after a way on which a line ends, unless it stops inside the two characters of
one line break. -/
theorem lineEnds_lt_append {passed rest : List Char} (hrest : rest.head? ≠ some '\n')
    (hends : ∃ c ∈ passed, Text.isLineEnd c = true) :
    lineEnds rest < lineEnds (passed ++ rest) := by
  induction passed with
  | nil => simp at hends
  | cons d ds ih =>
    rw [List.cons_append, lineEnds]
    by_cases hd : Position.endsLine d (ds ++ rest).head? = true
    · have hlater := lineEnds_le_append ds rest
      rw [if_pos hd]
      omega
    · -- A carriage return leaves it to the line feed that comes next.
      have hends' : ∃ e ∈ ds, Text.isLineEnd e = true := by
        rw [List.exists_mem_cons_iff] at hends
        rcases hends with hends | hlater
        · rw [Position.endsLine] at hd
          split at hd
          · cases ds with
            | nil => simp [hrest] at hd
            | cons e ds => exact ⟨'\n', by simp_all, by decide⟩
          · exact absurd hends hd
        · exact hlater
      exact (ih hends').trans_le (Nat.le_add_left _ _)

theorem Position.line_lt_past {p : Position} {passed rest : List Char}
    (hfits : p.line + lineEnds (passed ++ rest) < UInt32.size) (hrest : rest.head? ≠ some '\n')
    (hends : ∃ c ∈ passed, Text.isLineEnd c = true) : p.line < (p.past passed rest).line := by
  have hexact := line_past_add_lineEnds hfits
  have hfewer := lineEnds_lt_append hrest hends
  omega

/-! ## Two tokens in a row -/

/-- A token and the next one in a text: the text of the first with what stands before it, the gap
after it, and the rest from the second on. -/
structure Adjacent (chars : List Char) (t u : Token) (before text gap after : List Char) :
    Prop where
  chars_eq : chars = before ++ (text ++ (gap ++ after))
  start_eq : t.start = Text.byteSize before
  stop_eq : t.stop = Text.byteSize before + Text.byteSize text
  next_eq : u.start = t.stop + Text.byteSize gap
  ends_of_line_lt : t.line < u.line → ∃ c ∈ text ++ gap, Text.isLineEnd c = true
  line_lt_of_ends : lineEnds chars < UInt32.size - 1 →
    (∃ c ∈ text ++ gap, Text.isLineEnd c = true) → t.line < u.line
  quoted : (∃ c ∈ text, Text.isLineEnd c = true) → ∃ q ∈ text.head?, q = '"' ∨ q = '\''

/-- The first token of a text and the one after it. -/
theorem FirstToken.adjacent {p : Position} {front cs gap text after : List Char}
    {kind : TokenKind} {t u : Token} {later : List Token}
    (h : FirstToken cs gap kind text after) (hscan : (scanFrom p cs).1 = t :: u :: later)
    (hoffset : p.offset = Text.byteSize front)
    (hfits : lineEnds (front ++ cs) < UInt32.size - 1 → p.line + lineEnds cs < UInt32.size)
    (hquoted : (∃ c ∈ text, Text.isLineEnd c = true) → ∃ q ∈ text.head?, q = '"' ∨ q = '\'') :
    ∃ gap' after', Adjacent (front ++ cs) t u (front ++ gap) text gap' after' := by
  rw [h.scanFrom_eq] at hscan
  obtain ⟨rfl, hnext⟩ := List.cons.inj hscan
  cases hdrop : after.drop (triviaLength after) with
  | nil => simp [scanFrom_nil hdrop] at hnext
  | cons first rest =>
    obtain ⟨gap', kind', text', h'⟩ := exists_firstToken hdrop
    generalize rest.drop (lexeme first rest).2 = rest' at *
    rw [h'.scanFrom_eq] at hnext
    obtain ⟨rfl, -⟩ := List.cons.inj hnext
    have hfeed : (text' ++ rest').head? ≠ some '\n' := by
      intro hhead
      exact absurd (trivia_stops.1 after '\n' (by rw [h'.drop_eq, hhead]; rfl)) (by decide)
    obtain rfl := h'.chars_eq
    refine ⟨gap', text' ++ rest', ?_⟩
    constructor
    case chars_eq => simp [h.chars_eq]
    case start_eq => simp only [Position.offset_past, hoffset, Text.byteSize_append]
    case stop_eq => simp only [Position.offset_past, hoffset, Text.byteSize_append, Nat.add_assoc]
    case next_eq => simp only [Position.offset_past]
    case ends_of_line_lt =>
      dsimp only
      rw [p.past_append gap text, ← Position.past_append]
      exact Position.exists_isLineEnd_of_line_lt
    case line_lt_of_ends =>
      intro hfew hends
      have htext := Position.line_past_add_lt (h.chars_eq ▸ hfits hfew)
      dsimp only
      rw [p.past_append gap text, ← Position.past_append]
      exact Position.line_lt_past (by simpa using htext) hfeed hends
    case quoted => exact hquoted

theorem adjacent_scanFrom {p : Position} {cs : List Char} {earlier later : List Token}
    {t u : Token} (h : (scanFrom p cs).1 = earlier ++ t :: u :: later) {front : List Char}
    (hoffset : p.offset = Text.byteSize front)
    (hfits : lineEnds (front ++ cs) < UInt32.size - 1 → p.line + lineEnds cs < UInt32.size) :
    ∃ before text gap after, Adjacent (front ++ cs) t u before text gap after := by
  induction earlier generalizing p cs front with
  | nil =>
    cases hdrop : cs.drop (triviaLength cs) with
    | nil => simp [scanFrom_nil hdrop] at h
    | cons first rest =>
      have hquoted : (∃ c ∈ first :: rest.take (lexeme first rest).2, Text.isLineEnd c = true) →
          first = '"' ∨ first = '\'' := by
        rintro ⟨c, hc, hends⟩
        by_contra hno
        have hline := isLineEnd_of_mem_lexeme hno (isBlank_of_drop_triviaLength hdrop) hc
        simp [hends] at hline
      obtain ⟨gap, after, hadjacent⟩ := (firstToken_of_drop hdrop).adjacent h hoffset
        hfits fun hends => ⟨first, rfl, hquoted hends⟩
      exact ⟨_, _, gap, after, hadjacent⟩
  | cons s earlier ih =>
    cases hdrop : cs.drop (triviaLength cs) with
    | nil => simp [scanFrom_nil hdrop] at h
    | cons first rest =>
      obtain ⟨lead, kind, text, hfirst⟩ := exists_firstToken hdrop
      rw [hfirst.scanFrom_eq] at h
      have hpassed : (p.past (lead ++ text) (rest.drop (lexeme first rest).2)).offset
          = Text.byteSize (front ++ (lead ++ text)) := by
        rw [Position.offset_past, hoffset, ← Text.byteSize_append]
      have hchars : front ++ (lead ++ text) ++ rest.drop (lexeme first rest).2 = front ++ cs := by
        simp [hfirst.chars_eq]
      have hcount : p.line + lineEnds cs < UInt32.size →
          (p.past (lead ++ text) (rest.drop (lexeme first rest).2)).line
            + lineEnds (rest.drop (lexeme first rest).2) < UInt32.size := by
        rw [hfirst.chars_eq, ← List.append_assoc]
        exact Position.line_past_add_lt
      obtain ⟨before, text', gap, after, hadjacent⟩ := ih (List.cons.inj h).2 hpassed
        (hchars ▸ fun hfew => hcount (hfits hfew))
      exact ⟨before, text', gap, after, hchars ▸ hadjacent⟩

/-- Tokens that come one after the other in a text. -/
theorem adjacent_scan {source : String} {earlier later : List Token} {t u : Token}
    (h : (scan source).1 = earlier ++ t :: u :: later) :
    ∃ before text gap after, Adjacent source.toList t u before text gap after := by
  have hoffset : Position.start.offset = Text.byteSize [] := rfl
  exact adjacent_scanFrom h hoffset LinesFit.start_line_add

/-! ## Line ends by their places -/

/-- Whether a line ends between two byte offsets. -/
def LineEndIn (source : String) (start stop : ℕ) : Prop :=
  ∃ text, Text.slice? source.toList start stop = some text ∧ ∃ c ∈ text, Text.isLineEnd c = true

/-- Whether a token starts with a quote. -/
def Token.IsQuoted (source : String) (t : Token) : Prop :=
  ∃ text, Text.slice? source.toList t.start t.stop = some text
    ∧ ∃ q ∈ text.head?, q = '"' ∨ q = '\''

/-- Whether a line ends between two tokens, or inside the first one, which then is in quotes. -/
def BreaksAfter (source : String) (t u : Token) : Prop :=
  LineEndIn source t.stop u.start ∨ t.IsQuoted source ∧ LineEndIn source t.start t.stop

namespace Adjacent

variable {source : String} {t u : Token} {before text gap after : List Char}

theorem slice?_text (h : Adjacent source.toList t u before text gap after) :
    Text.slice? source.toList t.start t.stop = some text := by
  rw [h.chars_eq, h.start_eq, h.stop_eq]
  exact Text.slice?_append before text (gap ++ after)

theorem slice?_gap (h : Adjacent source.toList t u before text gap after) :
    Text.slice? source.toList t.stop u.start = some gap := by
  have hchars : before ++ (text ++ (gap ++ after)) = (before ++ text) ++ (gap ++ after) := by simp
  rw [h.chars_eq, hchars, h.next_eq, h.stop_eq, ← Text.byteSize_append]
  exact Text.slice?_append (before ++ text) gap after

theorem slice?_both (h : Adjacent source.toList t u before text gap after) :
    Text.slice? source.toList t.start u.start = some (text ++ gap) := by
  have hchars : before ++ (text ++ (gap ++ after)) = before ++ ((text ++ gap) ++ after) := by simp
  rw [h.chars_eq, hchars, h.next_eq, h.stop_eq, h.start_eq, Nat.add_assoc,
    ← Text.byteSize_append text]
  exact Text.slice?_append before (text ++ gap) after

/-- If the second token is on a later line, a line ends from the start of the first one on. -/
theorem lineEndIn_of_line_lt (h : Adjacent source.toList t u before text gap after)
    (hlt : t.line < u.line) : LineEndIn source t.start u.start :=
  ⟨text ++ gap, h.slice?_both, h.ends_of_line_lt hlt⟩

/-- If a line ends there, the second token is on a later line, unless the count of lines runs
over. -/
theorem line_lt_of_lineEndIn (h : Adjacent source.toList t u before text gap after)
    (hfits : LinesFit source) (hends : LineEndIn source t.start u.start) : t.line < u.line := by
  obtain ⟨both, hslice, hboth⟩ := hends
  obtain rfl := Option.some.inj (h.slice?_both.symm.trans hslice)
  exact h.line_lt_of_ends hfits hboth

/-- A line that ends there ends in the gap, or in a token in quotes. -/
theorem lineEndIn_iff_breaksAfter (h : Adjacent source.toList t u before text gap after) :
    LineEndIn source t.start u.start ↔ BreaksAfter source t u := by
  have hgap : LineEndIn source t.stop u.start ↔ ∃ c ∈ gap, Text.isLineEnd c = true := by
    simp [LineEndIn, h.slice?_gap]
  have htext : LineEndIn source t.start t.stop ↔ ∃ c ∈ text, Text.isLineEnd c = true := by
    simp [LineEndIn, h.slice?_text]
  have hboth : LineEndIn source t.start u.start
      ↔ (∃ c ∈ text, Text.isLineEnd c = true) ∨ ∃ c ∈ gap, Text.isLineEnd c = true := by
    simp only [LineEndIn, h.slice?_both, Option.some.injEq, exists_eq_left', List.mem_append,
      or_and_right, exists_or]
  rw [hboth, BreaksAfter, hgap, htext]
  constructor
  · rintro (hin | hin)
    · exact .inr ⟨⟨text, h.slice?_text, h.quoted hin⟩, hin⟩
    · exact .inl hin
  · rintro (hin | ⟨-, hin⟩)
    · exact .inr hin
    · exact .inl hin

end Adjacent

end ScriptSteps
