import Mathlib
import ScriptSteps.Proofs.Token.Tiling

/-!
# Line numbers count line breaks

The line of a token is one more than the number of lines that end before it, in 32 bits. A line ends
with a line feed, a line separator or a paragraph separator, and with a carriage return that no line
feed follows, wherever it stands: in blanks, in comments and in strings, open or closed.

## Main definitions

* `endsLineAt`: whether a line ends with the character at a byte offset
* `linesEndedBefore`: how many lines end before a byte offset

## Main statements

* `line_past_start`: the line of any place of a text
* `exists_past_of_mem_scanFrom`: a token starts at a place of the text
* `Scanner.line_token`: the lines of all tokens, and of the end of the text
-/

namespace ScriptSteps

/-! ## Line ends by their places -/

/-- Whether a line ends with the character at a byte offset. -/
def endsLineAt (cs : List Char) (offset : ℕ) : Bool :=
  match Text.splitAtByte? offset cs with
  | some (_, c :: after) =>
    c == '\n' || c == '\u2028' || c == '\u2029' || (c == '\r' && after.head? != some '\n')
  | _ => false

/-- How many lines end before a byte offset. -/
def linesEndedBefore (cs : List Char) (offset : ℕ) : ℕ :=
  (List.range offset).countP (endsLineAt cs)

variable {before after : List Char} {c : Char}

theorem endsLineAt_byteSize :
    endsLineAt (before ++ c :: after) (Text.byteSize before)
      = Position.endsLine c after.head? := by
  rw [endsLineAt, Text.splitAtByte?_byteSize]
  by_cases hreturn : c = '\r'
  · subst hreturn
    simp [Position.endsLine]
  · have hno : (c == '\r') = false := by simpa using hreturn
    simp [Position.endsLine, Text.isLineEnd, hreturn, hno]

/-- No line ends with the later bytes of a character. -/
theorem endsLineAt_inside {k : ℕ} (hpos : 0 < k) (hlt : k < c.utf8Size) :
    endsLineAt (before ++ c :: after) (Text.byteSize before + k) = false := by
  have hnone : Text.splitAtByte? (Text.byteSize before + k) (before ++ c :: after) = none := by
    rw [Option.eq_none_iff_forall_ne_some]
    rintro ⟨front, tail⟩ hsplit
    obtain ⟨hchars, hsize⟩ := Text.splitAtByte?_eq_some hsplit
    -- A cut there would be inside the character, since the bytes before it fall short.
    rcases List.append_eq_append_iff.1 hchars with ⟨more, rfl, hmore⟩ | ⟨more, rfl, -⟩
    · cases more with
      | nil =>
        simp at hsize
        omega
      | cons d more =>
        obtain ⟨rfl, -⟩ := List.cons.inj hmore
        simp only [Text.byteSize_append, Text.byteSize_cons] at hsize
        omega
    · simp only [Text.byteSize_append] at hsize
      omega
  rw [endsLineAt, hnone]

theorem linesEndedBefore_append_cons :
    linesEndedBefore (before ++ c :: after) (Text.byteSize before + c.utf8Size)
      = linesEndedBefore (before ++ c :: after) (Text.byteSize before)
        + if Position.endsLine c after.head? then 1 else 0 := by
  have hsize := c.utf8Size_pos
  obtain ⟨k, hk⟩ : ∃ k, c.utf8Size = k + 1 := ⟨c.utf8Size - 1, by omega⟩
  have hinside : (((List.range k).map Nat.succ).map (Text.byteSize before + ·)).countP
      (endsLineAt (before ++ c :: after)) = 0 := by
    rw [List.countP_eq_zero, List.forall_mem_map, List.forall_mem_map]
    intro j hj
    have hlt : j.succ < c.utf8Size := by
      have := List.mem_range.1 hj
      omega
    simp [endsLineAt_inside j.succ_pos hlt]
  rw [linesEndedBefore, linesEndedBefore, List.range_add, List.countP_append, hk,
    List.range_succ_eq_map, List.map_cons, List.countP_cons, hinside, Nat.add_zero, Nat.zero_add,
    endsLineAt_byteSize]

/-- Lines end in a text before a place in it or after. -/
theorem linesEndedBefore_add_lineEnds (before after : List Char) :
    linesEndedBefore (before ++ after) (Text.byteSize before) + lineEnds after
      = lineEnds (before ++ after) := by
  induction before using List.reverseRecOn generalizing after with
  | nil => simp [linesEndedBefore]
  | append_singleton before c ih =>
    rw [List.append_assoc, List.singleton_append, Text.byteSize_append, Text.byteSize_cons,
      Text.byteSize_nil, Nat.add_zero, linesEndedBefore_append_cons, ← ih, lineEnds, Nat.add_assoc]

/-- The line of a place is one more than the number of lines that end before it, in 32 bits. -/
theorem line_past_start (before after : List Char) :
    (Position.start.past before after).line
      = (1 + linesEndedBefore (before ++ after) (Text.byteSize before)) % UInt32.size := by
  have hcount := Position.start.line_past_modEq before after
  rw [← linesEndedBefore_add_lineEnds, ← Nat.add_assoc] at hcount
  have hsame := hcount.add_right_cancel' _
  have hword : (Position.start.past before after).line < UInt32.size :=
    Position.line_past_lt (by decide) before after
  rw [Nat.ModEq, Nat.mod_eq_of_lt hword] at hsame
  exact hsame

/-! ## Tokens -/

/-- A token starts at a place of the text: some of it is before and the rest after. -/
theorem exists_past_of_mem_scanFrom {p : Position} {cs : List Char} {t : Token}
    (h : t ∈ (scanFrom p cs).1) :
    ∃ before after, cs = before ++ after ∧ t.start = (p.past before after).offset
      ∧ t.line = (p.past before after).line := by
  induction cs using scan_induction generalizing p with
  | blank cs hdrop => simp [scanFrom_nil hdrop] at h
  | token cs first rest hdrop ih =>
    obtain ⟨gap, kind, text, hfirst⟩ := exists_firstToken hdrop
    generalize rest.drop (lexeme first rest).2 = later at *
    rw [hfirst.scanFrom_eq, List.mem_cons] at h
    rcases h with rfl | hlater
    · exact ⟨gap, text ++ later, hfirst.chars_eq, rfl, rfl⟩
    · obtain ⟨before, after, rfl, hstart, hline⟩ := ih hlater
      rw [← Position.past_append] at hstart hline
      exact ⟨gap ++ text ++ before, after, by simp [hfirst.chars_eq], hstart, hline⟩

/-- The line of every token that a scanner gives, the end included, is one more than the number of
lines that end before the token starts, counted in 32 bits; and that is the number itself if all
lines of the text can be counted so. -/
theorem Scanner.line_token (source : String) (n : ℕ) :
    ((Scanner.ofSource source).token n).line
        = (1 + linesEndedBefore source.toList ((Scanner.ofSource source).token n).start)
          % UInt32.size
      ∧ (LinesFit source → ((Scanner.ofSource source).token n).line
          = 1 + linesEndedBefore source.toList ((Scanner.ofSource source).token n).start
        ∧ ((Scanner.ofSource source).token n).line < UInt32.size) := by
  have htoken : (Scanner.ofSource source).token n
      = (scan source).1[n]?.getD (.ofEnd (scan source).2) := token_eq _ n
  generalize (Scanner.ofSource source).token n = t at htoken ⊢
  obtain ⟨before, after, hsource, hstart, hline⟩ : ∃ before after,
      source.toList = before ++ after ∧ t.start = (Position.start.past before after).offset
        ∧ t.line = (Position.start.past before after).line := by
    cases hget : (scan source).1[n]? with
    | none =>
      have hend : (scan source).2 = Position.start.past source.toList [] := snd_scanFrom _ _
      rw [hget, hend] at htoken
      exact ⟨source.toList, [], by simp, by rw [htoken]; rfl, by rw [htoken]; rfl⟩
    | some u =>
      rw [hget] at htoken
      exact htoken ▸ exists_past_of_mem_scanFrom (List.mem_of_getElem? hget)
  have hoffset : t.start = Text.byteSize before := by
    simp [hstart, Position.offset_past, Position.start]
  have hcount : t.line = (1 + linesEndedBefore source.toList t.start) % UInt32.size := by
    rw [hline, line_past_start, ← hsource, hoffset]
  refine ⟨hcount, fun hfits => ?_⟩
  have hall := linesEndedBefore_add_lineEnds before after
  rw [← hsource, ← hoffset] at hall
  have hbefore : 1 + linesEndedBefore source.toList t.start < UInt32.size := by
    have hfew : lineEnds source.toList < UInt32.size - 1 := hfits
    omega
  rw [Nat.mod_eq_of_lt hbefore] at hcount
  exact ⟨hcount, hcount.trans_lt hbefore⟩

/-- Lines that end in a string that goes on, in a string that is left open, in comments and in
blanks, some with two characters. -/
theorem Scanner.line_token_breaks :
    let source := "'a\\\r\nb' 'c\r\n/*\r\u2028*/d//\r\n\u2029e"
    let t := (Scanner.ofSource source).token 3
    LinesFit source ∧ t = ⟨.identifier "e", 28, 29, 7⟩
      ∧ t.line = 1 + linesEndedBefore source.toList t.start ∧ t.line < UInt32.size := by
  intro source t
  have hfits : LinesFit source := by decide +kernel
  have htoken : t = ⟨.identifier "e", 28, 29, 7⟩ := by
    rw [show t = (scan source).1[3]?.getD (.ofEnd (scan source).2) from token_eq _ 3]
    cbv
  obtain ⟨hline, hword⟩ := (Scanner.line_token source 3).2 hfits
  exact ⟨hfits, htoken, hline, hword⟩

end ScriptSteps
