import Mathlib
import ScriptSteps.Grammar.Cursor
import ScriptSteps.Proofs.Tree.Lines
import ScriptSteps.Proofs.Tree.Shape

/-!
# What a rule has read

A rule that succeeds has read the tokens from the cursor it started at to the cursor it stops at,
and everything at the leaves of its tree comes from these tokens. A rule that fails does so at a
line that the cursor it started at knows of.

## Main definitions

* `Vocabulary.Admits`: the tokens over a vocabulary
* `Cursor.Passes`: the tokens between two cursors
* `Cursor.Spans`: what holds over every vocabulary of the tokens between two cursors
* `Cursor.Ordered`: the lines of the tokens are in order
* `Parsed.From`: what is promised of a rule's result

## Main statements

* `Cursor.Spans.trans`: two stretches of tokens one after the other
* `Cursor.Spans.within`: the lines of a stretch of tokens are between those of its ends
* `Parsed.From.bind`, `Parsed.From.map`: what is promised of rules one after another
-/

namespace ScriptSteps

/-- The kinds of tokens over a vocabulary. -/
def Vocabulary.AdmitsKind (v : Vocabulary) : TokenKind → Prop
  | .identifier name => v.name name
  | .number value => v.number value
  | .string value => v.string value
  | .keyword _ | .punctuator _ | .endOfInput | .invalid => True

/-- The tokens over a vocabulary. -/
def Vocabulary.Admits (v : Vocabulary) (t : Terminal) : Prop := v.line t.line ∧ v.AdmitsKind t.kind

/-- The vocabulary of the lines between two bounds. -/
def Vocabulary.between (low high : ℕ) : Vocabulary where
  name _ := True
  number _ := True
  string _ := True
  line l := low ≤ l ∧ l ≤ high

namespace Cursor

variable {c d e : Cursor} {p q : Vocabulary → Prop}

/-! ## Stretches of tokens -/

/-- The second cursor comes after the first and the tokens between them. -/
structure Passes (c : Cursor) (used : List Terminal) (d : Cursor) : Prop where
  terminals : c.terminals = used ++ d.terminals
  endLine : d.endLine = c.endLine
  previousLine : d.previousLine = (used.getLast?.map Terminal.line).getD c.previousLine

theorem Passes.refl (c : Cursor) : c.Passes [] c := ⟨rfl, rfl, rfl⟩

theorem Passes.trans {first second : List Terminal} (h : c.Passes first d)
    (h' : d.Passes second e) : c.Passes (first ++ second) e := by
  refine ⟨?_, h'.endLine.trans h.endLine, ?_⟩
  · rw [h.terminals, h'.terminals, List.append_assoc]
  · rw [h'.previousLine, h.previousLine, List.getLast?_append]
    cases second.getLast? <;> rfl

theorem Passes.suffix {used : List Terminal} (h : c.Passes used d) : d.terminals <:+ c.terminals :=
  ⟨used, h.terminals.symm⟩

theorem passes_of_next? {k : TokenKind} {hd : d.size < c.size}
    (h : c.next? = some (k, ⟨d, hd⟩)) : c.Passes [⟨k, c.line⟩] d := by
  obtain ⟨previous, terminals, finish⟩ := c
  cases terminals with
  | nil => cases h
  | cons t ts =>
    simp only [next?, Option.some.injEq, Prod.mk.injEq] at h
    obtain ⟨rfl, hlater⟩ := h
    obtain rfl := congrArg Subtype.val hlater
    exact ⟨rfl, rfl, rfl⟩

/-- What holds over every vocabulary of the tokens between two cursors. -/
def Spans (c d : Cursor) (p : Vocabulary → Prop) : Prop :=
  ∃ used, c.Passes used d ∧ ∀ v : Vocabulary, (∀ t ∈ used, v.Admits t) → p v

theorem Spans.refl (h : ∀ v, p v) : c.Spans c p := ⟨[], .refl c, fun v _ => h v⟩

theorem Spans.mono (h : c.Spans d p) (hpq : ∀ v, p v → q v) : c.Spans d q := by
  obtain ⟨used, hpasses, hp⟩ := h
  exact ⟨used, hpasses, fun v hv => hpq v (hp v hv)⟩

theorem Spans.trans (h : c.Spans d p) (h' : d.Spans e q) : c.Spans e fun v => p v ∧ q v := by
  obtain ⟨first, hfirst, hp⟩ := h
  obtain ⟨second, hsecond, hq⟩ := h'
  refine ⟨first ++ second, hfirst.trans hsecond, fun v hv => ?_⟩
  refine ⟨hp v fun t ht => ?_, hq v fun t ht => ?_⟩
  · exact hv t (List.mem_append_left second ht)
  · exact hv t (List.mem_append_right first ht)

theorem Spans.suffix (h : c.Spans d p) : d.terminals <:+ c.terminals := by
  obtain ⟨used, hpasses, -⟩ := h
  exact hpasses.suffix

/-- If anything has been read, the first line is among those of the tokens. -/
theorem Spans.line (h : c.Spans d p) (hlt : d.size < c.size) :
    c.Spans d fun v => p v ∧ v.line c.line := by
  obtain ⟨used, hpasses, hp⟩ := h
  refine ⟨used, hpasses, fun v hv => ⟨hp v hv, ?_⟩⟩
  cases used with
  | nil =>
    rw [size, size, hpasses.terminals, List.nil_append] at hlt
    exact absurd hlt (Nat.lt_irrefl _)
  | cons first rest =>
    have hline : c.line = first.line := by simp [Cursor.line, hpasses.terminals]
    rw [hline]
    exact (hv first List.mem_cons_self).1

/-! ## Single tokens -/

theorem spans_of_next? {k : TokenKind} {hd : d.size < c.size}
    (h : c.next? = some (k, ⟨d, hd⟩)) : c.Spans d fun v => v.Admits ⟨k, c.line⟩ :=
  ⟨_, passes_of_next? h, fun _ hv => hv _ List.mem_cons_self⟩

theorem kind_of_next? {k : TokenKind} {later : c.Later} (h : c.next? = some (k, later)) :
    c.kind = k := by
  obtain ⟨previous, terminals, finish⟩ := c
  cases terminals with
  | nil => cases h
  | cons t ts =>
    simp only [next?, Option.some.injEq, Prod.mk.injEq] at h
    exact h.1

theorem passes_of_take? {α : Type} {meaning : TokenKind → Option α} {value : α}
    {hd : d.size < c.size} (h : c.take? meaning = some (value, ⟨d, hd⟩)) :
    ∃ k, meaning k = some value ∧ c.Passes [⟨k, c.line⟩] d := by
  unfold take? at h
  split at h
  · next k found hnext =>
    obtain ⟨value', hvalue, heq⟩ := Option.map_eq_some_iff.1 h
    obtain ⟨rfl, rfl⟩ := Prod.mk.inj heq
    exact ⟨k, hvalue, passes_of_next? hnext⟩
  · cases h

theorem spans_of_take? {α : Type} {meaning : TokenKind → Option α} {value : α}
    {hd : d.size < c.size} (h : c.take? meaning = some (value, ⟨d, hd⟩)) :
    ∃ k, meaning k = some value ∧ c.Spans d fun v => v.Admits ⟨k, c.line⟩ := by
  obtain ⟨k, hvalue, hpasses⟩ := passes_of_take? h
  exact ⟨k, hvalue, _, hpasses, fun _ hv => hv _ List.mem_cons_self⟩

theorem spans_of_eatKind? {k : TokenKind} {hd : d.size < c.size}
    (h : c.eatKind? k = some ⟨d, hd⟩) : c.Spans d fun v => v.Admits ⟨k, c.line⟩ := by
  unfold eatKind? at h
  split at h
  · next found later' hnext =>
    split at h
    · next hfound =>
      obtain rfl := Option.some.inj h
      exact hfound ▸ spans_of_next? hnext
    · cases h
  · cases h

theorem kind_ne_of_eatKind? {k : TokenKind} (h : c.eatKind? k = none) (hk : k ≠ .endOfInput) :
    c.kind ≠ k := by
  obtain ⟨previous, terminals, finish⟩ := c
  cases terminals with
  | nil => exact hk.symm
  | cons t ts =>
    rintro rfl
    simp [eatKind?, next?, kind] at h

theorem kind_of_eatKind? {k : TokenKind} {later : c.Later} (h : c.eatKind? k = some later) :
    c.kind = k := by
  unfold eatKind? at h
  split at h
  · next found later' hnext =>
    split at h
    · next hfound => exact (kind_of_next? hnext).trans hfound
    · cases h
  · cases h

theorem eatKind?_eq_none {k : TokenKind} (h : c.kind ≠ k) : c.eatKind? k = none := by
  by_contra hsome
  obtain ⟨later, hlater⟩ := Option.ne_none_iff_exists'.1 hsome
  exact h (kind_of_eatKind? hlater)

theorem spans_of_eatName? {id : Identifier} {hd : d.size < c.size}
    (h : c.eatName? = some (id, ⟨d, hd⟩)) :
    id.line = c.line ∧ c.Spans d fun v => id.Fits v := by
  obtain ⟨k, hk, hspans⟩ := spans_of_take? h
  split at hk
  · next name =>
    obtain rfl := Option.some.inj hk
    exact ⟨rfl, hspans.mono fun v hv => ⟨hv.2, hv.1⟩⟩
  · cases hk

/-! ## Order -/

/-- The lines of the tokens are in order. -/
def Ordered (c : Cursor) : Prop := Ascends c.previousLine (c.terminals.map Terminal.line) c.endLine

theorem Ordered.previousLine_le (h : c.Ordered) : c.previousLine ≤ c.line := by
  obtain ⟨previous, terminals, finish⟩ := c
  cases terminals with
  | nil => exact h
  | cons t ts => exact h.1

/-- Order is cut where a stretch of tokens ends. -/
theorem Passes.ascends {used : List Terminal} (h : c.Passes used d) (hc : c.Ordered) :
    Ascends c.previousLine (used.map Terminal.line) d.previousLine ∧ d.Ordered := by
  unfold Ordered at hc ⊢
  rw [h.terminals, List.map_append] at hc
  rw [h.previousLine, h.endLine, ← List.getLast?_map]
  exact hc.of_append

theorem Spans.ordered (h : c.Spans d p) (hc : c.Ordered) : d.Ordered := by
  obtain ⟨used, hpasses, -⟩ := h
  exact (hpasses.ascends hc).2

theorem Spans.previousLine_le (h : c.Spans d p) (hc : c.Ordered) :
    c.previousLine ≤ d.previousLine := by
  obtain ⟨used, hpasses, -⟩ := h
  exact (hpasses.ascends hc).1.le

/-- Everything in a stretch of tokens is between the lines of its ends. -/
theorem Spans.within (h : c.Spans d p) (hc : c.Ordered) : p (.between c.line d.previousLine) := by
  obtain ⟨used, hpasses, hp⟩ := h
  refine hp _ fun t ht => ⟨?_, by cases t.kind <;> trivial⟩
  have hascends := (hpasses.ascends hc).1
  cases used with
  | nil => simp at ht
  | cons first rest =>
    have hline : c.line = first.line := by simp [Cursor.line, hpasses.terminals]
    have hfrom : Ascends c.line ((first :: rest).map Terminal.line) d.previousLine :=
      ⟨hline.le, hascends.2⟩
    exact hfrom.pairwise.2 t.line (List.mem_map_of_mem ht)

theorem Spans.line_le (h : c.Spans d p) (hlt : d.size < c.size) (hc : c.Ordered) :
    c.line ≤ d.previousLine :=
  ((h.line hlt).within hc).2.2

/-! ## Lines of errors -/

/-- The lines that a cursor knows of. -/
def lines (c : Cursor) : List ℕ := c.previousLine :: c.terminals.map Terminal.line ++ [c.endLine]

/-- If the lines are in order, all of them are between the first and the last. -/
theorem Ordered.between (h : c.Ordered) {l : ℕ} (hl : l ∈ c.lines) :
    c.previousLine ≤ l ∧ l ≤ c.endLine := by
  simp only [lines, List.cons_append, List.mem_cons, List.mem_append, List.not_mem_nil,
    or_false] at hl
  rcases hl with rfl | hl | rfl
  · exact ⟨le_rfl, h.le⟩
  · exact h.pairwise.2 l hl
  · exact ⟨h.le, le_rfl⟩

theorem line_mem_lines_of_next? {k : TokenKind} {hd : d.size < c.size}
    (h : c.next? = some (k, ⟨d, hd⟩)) : c.line ∈ d.lines := by
  have hprevious : d.previousLine = c.line := (passes_of_next? h).previousLine
  simp [lines, hprevious]

theorem line_mem_lines (c : Cursor) : c.line ∈ c.lines := by
  obtain ⟨previous, terminals, finish⟩ := c
  cases terminals <;> simp [line, lines]

/-- A later cursor knows of no other lines. -/
theorem Spans.lines_subset (h : c.Spans d p) : d.lines ⊆ c.lines := by
  obtain ⟨used, hpasses, -⟩ := h
  have hprevious : d.previousLine ∈ c.previousLine :: used.map Terminal.line := by
    rw [hpasses.previousLine]
    cases hlast : used.getLast? with
    | none => simp
    | some t => simpa using .inr ⟨t, List.mem_of_getLast? hlast, rfl⟩
  intro l hl
  simp only [lines, hpasses.endLine, hpasses.terminals, List.map_append, List.cons_append,
    List.mem_cons, List.mem_append, List.not_mem_nil, or_false] at hl hprevious ⊢
  rcases hl with rfl | hl | hl
  · rcases hprevious with hl | hl
    · exact .inl hl
    · exact .inr (.inl (.inl hl))
  · exact .inr (.inl (.inr hl))
  · exact .inr (.inr hl)

end Cursor

/-- The error points at a line that a cursor knows of. -/
def Error.IsAt (e : Error) (c : Cursor) : Prop := ∃ l ∈ c.lines, e.line? = some l

theorem Cursor.isAt_fault (c : Cursor) (problem : Problem) : (c.fault problem).IsAt c :=
  ⟨c.line, c.line_mem_lines, rfl⟩

/-! ## Promises -/

namespace Parsed

variable {α β : Type} {m n : ℕ} {c d : Cursor} {q : α → Cursor → Prop} {q' : β → Cursor → Prop}

/-- A rule that started at a cursor ends at a later one, with a value of which something holds, or
with an error at a line that the cursor knows of. -/
def From (p : Parsed α n) (c : Cursor) (q : α → Cursor → Prop) : Prop :=
  match p with
  | ok value rest _ => (c.Spans rest fun _ => True) ∧ q value rest
  | error cause _ => cause.IsAt c

theorem from_ok {value : α} {rest : Cursor} {fewer : rest.size < n} {p : Vocabulary → Prop}
    (hspans : c.Spans rest p) (hq : q value rest) : (ok value rest fewer : Parsed α n).From c q :=
  ⟨hspans.mono fun _ _ => trivial, hq⟩

theorem from_done {value : α} (hq : q value c) : (done value c).From c q :=
  ⟨.refl fun _ => trivial, hq⟩

theorem from_fault {problem : Problem} : (error (c.fault problem) d : Parsed α n).From c q :=
  c.isAt_fault problem

theorem from_unsupported {construct : String} :
    (error (.unsupported construct c.line) d : Parsed α n).From c q :=
  ⟨c.line, c.line_mem_lines, rfl⟩

theorem From.of_ok {p : Parsed α n} (hp : p.From c q) {value : α} (h : p.toExcept = .ok value) :
    ∃ rest, q value rest := by
  cases p with
  | ok value' rest fewer =>
    obtain rfl : value' = value := Except.ok.inj h
    exact ⟨rest, hp.2⟩
  | error cause stop => cases h

theorem From.of_error {p : Parsed α n} (hp : p.From c q) {e : Error} (h : p.toExcept = .error e) :
    e.IsAt c := by
  cases p with
  | ok value rest fewer => cases h
  | error cause stop =>
    obtain rfl : cause = e := Except.error.inj h
    exact hp

theorem From.widen {p : Parsed α m} (hp : p.From c q) (h : m ≤ n) : (p.widen h).From c q := by
  cases p <;> exact hp

theorem From.relax {p : Parsed α n} (hp : p.From c q) : p.relax.From c q := hp.widen _

/-- The promise of a rule that starts later. -/
theorem From.shift {p : Parsed α n} {s : Vocabulary → Prop} (hp : p.From d q)
    (hspans : c.Spans d s) : p.From c q := by
  cases p with
  | ok value rest fewer =>
    exact ⟨(hspans.trans hp.1).mono fun _ _ => trivial, hp.2⟩
  | error cause stop =>
    obtain ⟨l, hl, hline⟩ := hp
    exact ⟨l, hspans.lines_subset hl, hline⟩

theorem From.resume {p : Parsed α d.size} {s : Vocabulary → Prop} (hp : p.From d q)
    (h : d.size < c.size) (hspans : c.Spans d s) : (p.resume h : Parsed α c.size).From c q :=
  (hp.shift hspans).widen _

theorem From.resumeLoose {p : Parsed α (d.size + 1)} {s : Vocabulary → Prop} (hp : p.From d q)
    (h : d.size < c.size) (hspans : c.Spans d s) : (p.resumeLoose h : Parsed α c.size).From c q :=
  (hp.shift hspans).widen _

theorem From.mono {p : Parsed α n} {r : α → Cursor → Prop} (hp : p.From c q)
    (h : ∀ value rest, rest.size < n → q value rest → r value rest) : p.From c r := by
  cases p with
  | ok value rest fewer => exact ⟨hp.1, h value rest fewer hp.2⟩
  | error cause stop => exact hp

theorem From.spanned {p : Parsed α n} (hp : p.From c q) :
    p.From c fun value rest => (c.Spans rest fun _ => True) ∧ q value rest := by
  cases p with
  | ok value rest fewer => exact ⟨hp.1, hp⟩
  | error cause stop => exact hp

theorem From.map {p : Parsed α n} {f : α → β} (hp : p.From c q)
    (hf : ∀ value rest, rest.size < n → q value rest → q' (f value) rest) :
    (p.map f).From c q' := by
  cases p with
  | ok value rest fewer => exact ⟨hp.1, hf value rest fewer hp.2⟩
  | error cause stop => exact hp

/-- The rest is promised from where the first rule started. -/
theorem From.bindAt {p : Parsed α n} (hp : p.From c q)
    {f : α → (rest : Cursor) → rest.size < n → Parsed β rest.size}
    (hf : ∀ value rest fewer, q value rest → (f value rest fewer).From c q') :
    (p.bind f).From c q' := by
  cases p with
  | ok value rest fewer => exact (hf value rest fewer hp.2).widen (Nat.le_of_lt fewer)
  | error cause stop => exact hp

theorem From.bindLooseAt {p : Parsed α n} (hp : p.From c q)
    {f : α → (rest : Cursor) → rest.size < n → Parsed β (rest.size + 1)}
    (hf : ∀ value rest fewer, q value rest → (f value rest fewer).From c q') :
    (p.bindLoose f).From c q' := by
  cases p with
  | ok value rest fewer => exact (hf value rest fewer hp.2).widen fewer
  | error cause stop => exact hp

/-- The rest is promised from where the first rule stopped. -/
theorem From.bind {p : Parsed α n} (hp : p.From c q)
    {f : α → (rest : Cursor) → rest.size < n → Parsed β rest.size}
    (hf : ∀ value rest fewer, q value rest → (f value rest fewer).From rest q') :
    (p.bind f).From c q' :=
  hp.spanned.bindAt fun value rest fewer hq => (hf value rest fewer hq.2).shift hq.1

theorem From.bindLoose {p : Parsed α n} (hp : p.From c q)
    {f : α → (rest : Cursor) → rest.size < n → Parsed β (rest.size + 1)}
    (hf : ∀ value rest fewer, q value rest → (f value rest fewer).From rest q') :
    (p.bindLoose f).From c q' :=
  hp.spanned.bindLooseAt fun value rest fewer hq => (hf value rest fewer hq.2).shift hq.1

end Parsed

namespace Cursor

variable (c : Cursor)

theorem expectKind_from (k : TokenKind) :
    (c.expectKind k).From c fun _ rest => c.Spans rest fun v => v.line c.line := by
  unfold expectKind
  split
  · next d h heat =>
    have hspans := spans_of_eatKind? heat
    exact Parsed.from_ok hspans (hspans.mono fun v hv => hv.1)
  · exact Parsed.from_fault

theorem expect_from (sign : Punctuator) :
    (c.expect sign).From c fun _ rest => c.Spans rest fun v => v.line c.line :=
  c.expectKind_from _

theorem expectName_from :
    c.expectName.From c fun id rest =>
      id.line = c.line ∧ c.Spans rest fun v => id.Fits v := by
  unfold expectName
  split
  · next id d h heat =>
    obtain ⟨hline, hspans⟩ := spans_of_eatName? heat
    exact Parsed.from_ok hspans ⟨hline, hspans⟩
  · exact Parsed.from_fault

theorem endStatement_from :
    c.endStatement.From c fun _ rest => c.Spans rest fun _ => True := by
  unfold endStatement
  split
  · next d h heat =>
    have hspans := spans_of_eatKind? heat
    exact .relax (Parsed.from_ok hspans (hspans.mono fun _ _ => trivial))
  · split
    · exact Parsed.from_done (.refl fun _ => trivial)
    · exact Parsed.from_fault

end Cursor

end ScriptSteps
