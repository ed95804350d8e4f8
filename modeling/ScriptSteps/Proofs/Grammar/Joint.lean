import Mathlib
import ScriptSteps.Proofs.Grammar.Crosses
import ScriptSteps.Proofs.Grammar.Reads
import ScriptSteps.Proofs.Tree.Moved

/-!
# Tokens inside a longer text

A text is read as part of a longer one: the same tokens stand some lines further down, and others
may follow them. A rule of the grammar reads the same there, as long as it does not come to the
place where the others begin. It comes there only after a semicolon, since a text that is followed
by another one ends with that.

## Main definitions

* `Joint`: how the tokens of a text stand in a longer one
* `Joint.Joins`, `Joint.Inside`, `Joint.Follows`, `Joint.Amid`: cursors at the same token of the two
* `Parsed.Joined`: a rule gives the same in both texts

## Main statements

* `Parsed.Joined.bind`, `Parsed.Joined.bindLoose`: one rule after another
-/

namespace ScriptSteps

instance : HasLines Terminal := ⟨fun k t => { t with line := t.line + k }⟩

@[simp] theorem moved_terminal (k : ℕ) (t : Terminal) : moved k t = ⟨t.kind, t.line + k⟩ := rfl

/-- An error on a later line. -/
def Error.addLines (k : ℕ) : Error → Error
  | malformed problem line => malformed problem (line + k)
  | unsupported construct line => unsupported construct (line + k)
  | unreadable path reason => unreadable path reason

instance : HasLines Error := ⟨Error.addLines⟩

instance {α : Type} [HasLines α] : HasLines (Except Error α) where
  moved k
    | .ok value => .ok (moved k value)
    | .error e => .error (moved k e)

/-- How the tokens of a text stand in a longer one. -/
structure Joint where
  /-- How many lines further down they stand. -/
  lines : ℕ
  /-- The tokens that follow them; none if both texts end with them. -/
  more : Option (List Terminal)
  /-- The line of the end of the longer text. -/
  endLine : ℕ
  /-- What follows does not go on with an `if`. -/
  noElse : ∀ t ∈ (more.getD []).head?, t.kind ≠ .keyword .else_

namespace Joint

/-- Cursors at the same token of the two texts. If other tokens follow, the last of these is a
semicolon. -/
structure Joins (j : Joint) (c c' : Cursor) : Prop where
  terminals : c'.terminals = moved j.lines c.terminals ++ j.more.getD []
  endLine : c'.endLine = j.endLine
  ends : j.more = none → j.endLine = c.endLine + j.lines
  last : j.more = none ∨ ∀ t ∈ c.terminals.getLast?, t.kind = .punctuator .semicolon

/-- Whether a cursor is at a token before the others, or at the end of both texts. -/
def Before (j : Joint) (c : Cursor) : Prop := c.terminals = [] → j.more = none

/-- Cursors at the same token of the two texts, before the others. -/
structure Inside (j : Joint) (c c' : Cursor) : Prop extends j.Joins c c' where
  before : j.Before c

/-- Cursors after the same token of the two texts. -/
structure Follows (j : Joint) (c c' : Cursor) : Prop extends j.Joins c c' where
  previousLine : c'.previousLine = c.previousLine + j.lines

/-- Cursors between the same tokens of the two texts. -/
structure Amid (j : Joint) (c c' : Cursor) : Prop extends j.Inside c c', j.Follows c c'

variable {j : Joint} {c c' : Cursor}

theorem Follows.amid (h : j.Follows c c') (hbefore : j.Before c) : j.Amid c c' :=
  ⟨⟨h.toJoins, hbefore⟩, h.previousLine⟩

end Joint

/-! ## The place where an expression ends -/

/-- The kinds of the tokens that no expression has and that may end a text. -/
def TokenKind.isForeign : TokenKind → Bool
  | punctuator .semicolon | invalid => true
  | _ => false

theorem isForeign_of_ne_semicolon {sign : Punctuator} (h : sign ≠ .semicolon) :
    (TokenKind.punctuator sign).isForeign = false := by
  cases sign <;> first | rfl | exact absurd rfl h

/-- What ends an expression where other tokens begin: the last token before them, which is of a
kind that no expression has, or the first of them, with which no expression goes on. -/
inductive Seam where
  | last (kind : TokenKind)
  | next

/-- What a seam says of the tokens before a place and of those after it. -/
def Seam.Holds : Seam → List Terminal → List Terminal → Prop
  | last kind, before, _ => ∀ t ∈ before.getLast?, t.kind = kind
  | next, _, after => ∃ t ∈ after.head?, t.kind.joins = none

namespace Joint

variable {j : Joint} {s : Seam} {c c' : Cursor}

/-- Cursors at the same token of the two texts. If other tokens follow, a seam is before them. -/
structure Meets (j : Joint) (s : Seam) (c c' : Cursor) : Prop where
  terminals : c'.terminals = moved j.lines c.terminals ++ j.more.getD []
  endLine : c'.endLine = j.endLine
  ends : j.more = none → j.endLine = c.endLine + j.lines
  foreign : ∀ k, s = .last k → k.isForeign = true
  seam : j.more = none ∨ s.Holds c.terminals (j.more.getD [])

/-- Cursors at the same token of the two texts, before the others. -/
structure Ahead (j : Joint) (s : Seam) (c c' : Cursor) : Prop extends j.Meets s c c' where
  before : j.Before c

/-- Cursors after the same token of the two texts. -/
structure Trails (j : Joint) (s : Seam) (c c' : Cursor) : Prop extends j.Meets s c c' where
  previousLine : c'.previousLine = c.previousLine + j.lines

/-- Cursors after the same token of the two texts, before the others or where no expression goes
on with them. -/
structure Reaches (j : Joint) (s : Seam) (c c' : Cursor) : Prop extends j.Trails s c c' where
  place : s = .next ∨ j.Before c

theorem Inside.ahead (h : j.Inside c c') : j.Ahead (.last (.punctuator .semicolon)) c c' where
  toMeets := ⟨h.terminals, h.endLine, h.ends, by rintro _ ⟨⟩; rfl, h.last⟩
  before := h.before

theorem Trails.follows (h : j.Trails (.last (.punctuator .semicolon)) c c') : j.Follows c c' where
  toJoins := ⟨h.terminals, h.endLine, h.ends, h.seam⟩
  previousLine := h.previousLine

theorem Reaches.amid (h : j.Reaches (.last (.punctuator .semicolon)) c c') : j.Amid c c' :=
  h.toTrails.follows.amid (h.place.resolve_left nofun)

/-! ## The next token -/

/-- Both cursors are at the end, or they are at the same token. -/
theorem Ahead.next? (h : j.Ahead s c c') :
    (c.next? = none ∧ c'.next? = none)
    ∨ ∃ k d hd d' hd', c.next? = some (k, ⟨d, hd⟩) ∧ c'.next? = some (k, ⟨d', hd'⟩)
      ∧ j.Trails s d d' ∧ (s ≠ .last k → j.Reaches s d d') := by
  obtain ⟨⟨hterminals, hend, hends, hforeign, hseam⟩, hbefore⟩ := h
  obtain ⟨previous, terminals, endLine⟩ := c
  obtain ⟨previous', terminals', endLine'⟩ := c'
  dsimp only at hterminals hend hends hseam
  cases terminals with
  | nil =>
    obtain rfl : terminals' = [] := by simpa [hbefore rfl] using hterminals
    exact .inl ⟨rfl, rfl⟩
  | cons t ts =>
    subst hterminals
    have htrails : j.Trails s ⟨t.line, ts, endLine⟩
        ⟨t.line + j.lines, moved j.lines ts ++ j.more.getD [], endLine'⟩ := by
      refine ⟨⟨rfl, hend, hends, hforeign, hseam.imp_right fun hholds => ?_⟩, rfl⟩
      cases s with
      | next => exact hholds
      | last kind =>
        intro t' ht'
        refine hholds t' ?_
        cases ts with
        | nil => simp at ht'
        | cons next rest => simpa using ht'
    refine .inr ⟨t.kind, _, _, _, _, rfl, rfl, htrails, fun hkind => ⟨htrails, ?_⟩⟩
    cases s with
    | next => exact .inl rfl
    | last kind =>
      refine .inr fun (hnil : ts = []) => hseam.resolve_right fun hholds => hkind ?_
      rw [hholds t (by simp [hnil])]

theorem Meets.ne_last (h : j.Meets s c c') {k : TokenKind} (hk : k.isForeign = false) :
    s ≠ .last k := by
  intro hs
  rw [h.foreign k hs] at hk
  cases hk

theorem Ahead.kind (h : j.Ahead s c c') : c'.kind = c.kind := by
  obtain ⟨⟨hterminals, -, -, -, -⟩, hbefore⟩ := h
  cases hc : c.terminals with
  | nil => simp [Cursor.kind, hterminals, hc, hbefore hc]
  | cons t ts => simp [Cursor.kind, hterminals, hc]

theorem Ahead.line (h : j.Ahead s c c') : c'.line = c.line + j.lines := by
  obtain ⟨⟨hterminals, hend, hends, -, -⟩, hbefore⟩ := h
  cases hc : c.terminals with
  | nil => simp [Cursor.line, hterminals, hc, hbefore hc, hend, hends]
  | cons t ts => simp [Cursor.line, hterminals, hc]

/-- A token that stands for something is not foreign, and both cursors have it next or none. -/
theorem Ahead.take? {α : Type} (h : j.Ahead s c c') (meaning : TokenKind → Option α)
    (hmeaning : meaning (.punctuator .semicolon) = none ∧ meaning .invalid = none) :
    (c.take? meaning = none ∧ c'.take? meaning = none)
    ∨ ∃ value d hd d' hd', c.take? meaning = some (value, ⟨d, hd⟩)
      ∧ c'.take? meaning = some (value, ⟨d', hd'⟩) ∧ j.Reaches s d d' := by
  unfold Cursor.take?
  obtain ⟨hnext, hnext'⟩ | ⟨k, d, hd, d', hd', hnext, hnext', -, hreaches⟩ := h.next?
  · exact .inl (by simp [hnext, hnext'])
  · rw [hnext, hnext']
    cases hk : meaning k with
    | none => exact .inl ⟨by simp [hk], by simp [hk]⟩
    | some value =>
      have hforeign : k.isForeign = false := by
        unfold TokenKind.isForeign
        split <;> simp_all
      exact .inr ⟨value, d, hd, d', hd', by simp [hk], by simp [hk],
        hreaches (h.ne_last hforeign)⟩

theorem Ahead.eatKind? (h : j.Ahead s c c') (k : TokenKind) :
    (c.eatKind? k = none ∧ c'.eatKind? k = none)
    ∨ ∃ d hd d' hd', c.eatKind? k = some ⟨d, hd⟩ ∧ c'.eatKind? k = some ⟨d', hd'⟩
      ∧ j.Trails s d d' ∧ (s ≠ .last k → j.Reaches s d d') := by
  unfold Cursor.eatKind?
  obtain ⟨hnext, hnext'⟩ | ⟨found, d, hd, d', hd', hnext, hnext', hafter⟩ := h.next?
  · exact .inl (by simp [hnext, hnext'])
  · rw [hnext, hnext']
    by_cases hfound : found = k
    · subst hfound
      exact .inr ⟨d, hd, d', hd', by simp, by simp, hafter⟩
    · exact .inl (by simp [hfound])

theorem Ahead.eat? (h : j.Ahead s c c') (sign : Punctuator) (hsign : sign ≠ .semicolon) :
    (c.eat? sign = none ∧ c'.eat? sign = none)
    ∨ ∃ d hd d' hd', c.eat? sign = some ⟨d, hd⟩ ∧ c'.eat? sign = some ⟨d', hd'⟩
      ∧ j.Reaches s d d' := by
  refine (h.eatKind? (.punctuator sign)).imp_right ?_
  rintro ⟨d, hd, d', hd', heat, heat', -, hreaches⟩
  exact ⟨d, hd, d', hd', heat, heat',
    hreaches (h.ne_last (isForeign_of_ne_semicolon hsign))⟩

theorem Ahead.eatWord? (h : j.Ahead s c c') (word : Keyword) :
    (c.eatWord? word = none ∧ c'.eatWord? word = none)
    ∨ ∃ d hd d' hd', c.eatWord? word = some ⟨d, hd⟩ ∧ c'.eatWord? word = some ⟨d', hd'⟩
      ∧ j.Reaches s d d' := by
  refine (h.eatKind? (.keyword word)).imp_right ?_
  rintro ⟨d, hd, d', hd', heat, heat', -, hreaches⟩
  exact ⟨d, hd, d', hd', heat, heat', hreaches (h.ne_last rfl)⟩

theorem Ahead.eatName? (h : j.Ahead s c c') :
    (c.eatName? = none ∧ c'.eatName? = none)
    ∨ ∃ id d hd d' hd', c.eatName? = some (id, ⟨d, hd⟩)
      ∧ c'.eatName? = some (moved j.lines id, ⟨d', hd'⟩) ∧ j.Reaches s d d' := by
  unfold Cursor.eatName? Cursor.take?
  obtain ⟨hnext, hnext'⟩ | ⟨k, d, hd, d', hd', hnext, hnext', -, hreaches⟩ := h.next?
  · exact .inl (by simp [hnext, hnext'])
  · rw [hnext, hnext']
    cases k with
    | identifier name =>
      exact .inr ⟨⟨name, c.line⟩, d, hd, d', hd', rfl, by simp [h.line],
        hreaches (h.ne_last rfl)⟩
    | _ => exact .inl ⟨rfl, rfl⟩

theorem Ahead.fault (h : j.Ahead s c c') (problem : Problem) :
    c'.fault problem = (c.fault problem).addLines j.lines := by
  simp [Cursor.fault, Error.addLines, h.line]

theorem Ahead.unexpected (h : j.Ahead s c c') :
    c'.unexpected = c.unexpected.addLines j.lines := by
  rw [Cursor.unexpected, h.kind, h.fault, Cursor.unexpected]

/-! ### Between statements -/

theorem Inside.kind (h : j.Inside c c') : c'.kind = c.kind := h.ahead.kind

theorem Inside.line (h : j.Inside c c') : c'.line = c.line + j.lines := h.ahead.line

theorem Inside.fault (h : j.Inside c c') (problem : Problem) :
    c'.fault problem = (c.fault problem).addLines j.lines := h.ahead.fault problem

theorem Inside.unexpected (h : j.Inside c c') :
    c'.unexpected = c.unexpected.addLines j.lines := h.ahead.unexpected

theorem Inside.next? (h : j.Inside c c') :
    (c.next? = none ∧ c'.next? = none)
    ∨ ∃ k d hd d' hd', c.next? = some (k, ⟨d, hd⟩) ∧ c'.next? = some (k, ⟨d', hd'⟩)
      ∧ j.Follows d d' ∧ (k ≠ .punctuator .semicolon → j.Before d) := by
  refine h.ahead.next?.imp_right ?_
  rintro ⟨k, d, hd, d', hd', hnext, hnext', htrails, hreaches⟩
  refine ⟨k, d, hd, d', hd', hnext, hnext', htrails.follows, fun hk => ?_⟩
  exact (hreaches (by simpa using hk.symm)).amid.before

theorem Inside.take? {α : Type} (h : j.Inside c c') (meaning : TokenKind → Option α)
    (hmeaning : meaning (.punctuator .semicolon) = none ∧ meaning .invalid = none) :
    (c.take? meaning = none ∧ c'.take? meaning = none)
    ∨ ∃ value d hd d' hd', c.take? meaning = some (value, ⟨d, hd⟩)
      ∧ c'.take? meaning = some (value, ⟨d', hd'⟩) ∧ j.Amid d d' := by
  refine (h.ahead.take? meaning hmeaning).imp_right ?_
  rintro ⟨value, d, hd, d', hd', htake, htake', hreaches⟩
  exact ⟨value, d, hd, d', hd', htake, htake', hreaches.amid⟩

theorem Inside.eatKind? (h : j.Inside c c') (k : TokenKind) :
    (c.eatKind? k = none ∧ c'.eatKind? k = none)
    ∨ ∃ d hd d' hd', c.eatKind? k = some ⟨d, hd⟩ ∧ c'.eatKind? k = some ⟨d', hd'⟩
      ∧ j.Follows d d' ∧ (k ≠ .punctuator .semicolon → j.Before d) := by
  refine (h.ahead.eatKind? k).imp_right ?_
  rintro ⟨d, hd, d', hd', heat, heat', htrails, hreaches⟩
  refine ⟨d, hd, d', hd', heat, heat', htrails.follows, fun hk => ?_⟩
  exact (hreaches (by simpa using hk.symm)).amid.before

theorem Inside.eat? (h : j.Inside c c') (sign : Punctuator) (hsign : sign ≠ .semicolon) :
    (c.eat? sign = none ∧ c'.eat? sign = none)
    ∨ ∃ d hd d' hd', c.eat? sign = some ⟨d, hd⟩ ∧ c'.eat? sign = some ⟨d', hd'⟩ ∧ j.Amid d d' := by
  refine (h.ahead.eat? sign hsign).imp_right ?_
  rintro ⟨d, hd, d', hd', heat, heat', hreaches⟩
  exact ⟨d, hd, d', hd', heat, heat', hreaches.amid⟩

theorem Inside.eatWord? (h : j.Inside c c') (word : Keyword) :
    (c.eatWord? word = none ∧ c'.eatWord? word = none)
    ∨ ∃ d hd d' hd', c.eatWord? word = some ⟨d, hd⟩ ∧ c'.eatWord? word = some ⟨d', hd'⟩
      ∧ j.Amid d d' := by
  refine (h.ahead.eatWord? word).imp_right ?_
  rintro ⟨d, hd, d', hd', heat, heat', hreaches⟩
  exact ⟨d, hd, d', hd', heat, heat', hreaches.amid⟩

theorem Inside.eatName? (h : j.Inside c c') :
    (c.eatName? = none ∧ c'.eatName? = none)
    ∨ ∃ id d hd d' hd', c.eatName? = some (id, ⟨d, hd⟩)
      ∧ c'.eatName? = some (moved j.lines id, ⟨d', hd'⟩) ∧ j.Amid d d' := by
  refine h.ahead.eatName?.imp_right ?_
  rintro ⟨id, d, hd, d', hd', heat, heat', hreaches⟩
  exact ⟨id, d, hd, d', hd', heat, heat', hreaches.amid⟩

/-- What follows a text does not go on with an `if`. -/
theorem Joins.eatElse? (h : j.Joins c c') :
    (c.eatWord? .else_ = none ∧ c'.eatWord? .else_ = none)
    ∨ ∃ d hd d' hd', c.eatWord? .else_ = some ⟨d, hd⟩ ∧ c'.eatWord? .else_ = some ⟨d', hd'⟩
      ∧ j.Amid d d' := by
  by_cases hbefore : j.Before c
  · exact Inside.eatWord? ⟨h, hbefore⟩ .else_
  · obtain ⟨hnil, -⟩ := Classical.not_imp.1 hbefore
    have hterminals : c'.terminals = j.more.getD [] := by rw [h.terminals, hnil]; rfl
    have hnone := j.noElse
    rw [← hterminals] at hnone
    obtain ⟨previous, terminals, endLine⟩ := c
    obtain ⟨previous', terminals', endLine'⟩ := c'
    obtain rfl : terminals = [] := hnil
    refine .inl ⟨rfl, ?_⟩
    cases terminals' with
    | nil => rfl
    | cons t ts => exact if_neg (hnone t rfl)

end Joint

/-! ## Rules in both texts -/

namespace Parsed

variable {j : Joint} {α β : Type} [HasLines α] [HasLines β] {R S : Cursor → Cursor → Prop}
variable {l m n : ℕ} {c c' d d' : Cursor}

/-- A rule gives the same in both texts: the same value on later lines and cursors that are related,
or, if nothing follows the text, the same error on a later line. -/
def Joined (j : Joint) (R : Cursor → Cursor → Prop) (p : Parsed α m) (p' : Parsed α n) : Prop :=
  match p with
  | ok value rest _ => ∃ rest' fewer, p' = ok (moved j.lines value) rest' fewer ∧ R rest rest'
  | error cause _ => j.more = none → ∃ stop, p' = error (cause.addLines j.lines) stop

theorem joined_ok {value value' : α} {fewer : c.size < m} {fewer' : c'.size < n}
    (h : R c c') (hvalue : value' = moved j.lines value) :
    (ok value c fewer : Parsed α m).Joined j R (ok value' c' fewer' : Parsed α n) :=
  ⟨c', fewer', by rw [hvalue], h⟩

theorem joined_done {value value' : α} (h : R c c') (hvalue : value' = moved j.lines value) :
    (done value c).Joined j R (done value' c') := joined_ok h hvalue

theorem joined_error {cause cause' : Error} {stop stop' : Cursor}
    (hcause : cause' = cause.addLines j.lines) :
    (error cause stop : Parsed α m).Joined j R (error cause' stop' : Parsed α n) :=
  fun _ => ⟨stop', by rw [hcause]⟩

namespace Joined

variable {p : Parsed α m} {p' : Parsed α n}

theorem mono (hp : p.Joined j R p') (h : ∀ c c', R c c' → S c c') : p.Joined j S p' := by
  cases p with
  | ok value rest fewer =>
    obtain ⟨rest', fewer', hp', hrest⟩ := hp
    exact ⟨rest', fewer', hp', h rest rest' hrest⟩
  | error cause stop => exact hp

/-- What holds between two tokens holds after the first. -/
theorem loose (hp : p.Joined j j.Amid p') : p.Joined j j.Follows p' :=
  hp.mono fun _ _ h => h.toFollows

theorem looser (hp : p.Joined j j.Follows p') : p.Joined j j.Joins p' :=
  hp.mono fun _ _ h => h.toJoins

theorem widen {m' n' : ℕ} (hp : p.Joined j R p') (h : m ≤ m') (h' : n ≤ n') :
    (p.widen h).Joined j R (p'.widen h') := by
  cases p with
  | ok value rest fewer =>
    obtain ⟨rest', fewer', rfl, hrest⟩ := hp
    exact ⟨rest', _, rfl, hrest⟩
  | error cause stop =>
    intro hnone
    obtain ⟨stop', rfl⟩ := hp hnone
    exact ⟨stop', rfl⟩

theorem relax (hp : p.Joined j R p') : p.relax.Joined j R p'.relax := hp.widen _ _

theorem resume {p : Parsed α d.size} {p' : Parsed α d'.size} (hp : p.Joined j R p')
    {h : d.size < c.size} {h' : d'.size < c'.size} :
    (p.resume h : Parsed α c.size).Joined j R (p'.resume h' : Parsed α c'.size) := hp.widen _ _

theorem resumeLoose {p : Parsed α (d.size + 1)} {p' : Parsed α (d'.size + 1)}
    (hp : p.Joined j R p') {h : d.size < c.size} {h' : d'.size < c'.size} :
    (p.resumeLoose h : Parsed α c.size).Joined j R (p'.resumeLoose h' : Parsed α c'.size) :=
  hp.widen _ _

theorem map {f f' : α → β} (hp : p.Joined j R p')
    (hf : ∀ value, f' (moved j.lines value) = moved j.lines (f value)) :
    (p.map f).Joined j R (p'.map f') := by
  cases p with
  | ok value rest fewer =>
    obtain ⟨rest', fewer', rfl, hrest⟩ := hp
    exact ⟨rest', fewer', by rw [← hf]; rfl, hrest⟩
  | error cause stop =>
    intro hnone
    obtain ⟨stop', rfl⟩ := hp hnone
    exact ⟨stop', rfl⟩

theorem bindLoose (hp : p.Joined j R p')
    {f : α → (rest : Cursor) → rest.size < m → Parsed β (rest.size + 1)}
    {f' : α → (rest : Cursor) → rest.size < n → Parsed β (rest.size + 1)}
    (hf : ∀ value rest rest' (fewer : rest.size < m) (fewer' : rest'.size < n), R rest rest' →
      (f value rest fewer).Joined j S (f' (moved j.lines value) rest' fewer')) :
    (p.bindLoose f).Joined j S (p'.bindLoose f') := by
  cases p with
  | ok value rest fewer =>
    obtain ⟨rest', fewer', rfl, hrest⟩ := hp
    exact (hf value rest rest' fewer fewer' hrest).widen fewer fewer'
  | error cause stop =>
    intro hnone
    obtain ⟨stop', rfl⟩ := hp hnone
    exact ⟨stop', rfl⟩

theorem bind (hp : p.Joined j R p')
    {f : α → (rest : Cursor) → rest.size < m → Parsed β rest.size}
    {f' : α → (rest : Cursor) → rest.size < n → Parsed β rest.size}
    (hf : ∀ value rest rest' (fewer : rest.size < m) (fewer' : rest'.size < n), R rest rest' →
      (f value rest fewer).Joined j S (f' (moved j.lines value) rest' fewer')) :
    (p.bind f).Joined j S (p'.bind f') := by
  cases p with
  | ok value rest fewer =>
    obtain ⟨rest', fewer', rfl, hrest⟩ := hp
    exact (hf value rest rest' fewer fewer' hrest).widen (Nat.le_of_lt fewer) (Nat.le_of_lt fewer')
  | error cause stop =>
    intro hnone
    obtain ⟨stop', rfl⟩ := hp hnone
    exact ⟨stop', rfl⟩

/-- At the place where other tokens begin, a rule that has to read something fails in the text that
ends there, and nothing is said of the other text. -/
theorem of_not_before (h : ¬j.Before c) (p : Parsed α c.size) (hle : c.size ≤ m) :
    (p.widen hle).Joined j R p' := by
  obtain ⟨hnil, hmore⟩ : c.terminals = [] ∧ j.more ≠ none := Classical.not_imp.1 h
  cases p with
  | ok value rest fewer => simp [Cursor.size, hnil] at fewer
  | error cause stop => exact fun hnone => absurd hnone hmore

/-- One rule after another, of which something is known only if it stops before other tokens. -/
theorem bindLooseBefore (hp : p.Joined j R p')
    {f : α → (rest : Cursor) → rest.size < m → Parsed β (rest.size + 1)}
    {f' : α → (rest : Cursor) → rest.size < n → Parsed β (rest.size + 1)}
    (hf : ∀ value rest rest' (fewer : rest.size < m) (fewer' : rest'.size < n), R rest rest' →
      (f value rest fewer).StopsAt j.Before →
      (f value rest fewer).Joined j S (f' (moved j.lines value) rest' fewer'))
    (hstops : (p.bindLoose f).StopsAt j.Before) :
    (p.bindLoose f).Joined j S (p'.bindLoose f') := by
  cases p with
  | ok value rest fewer =>
    obtain ⟨rest', fewer', rfl, hrest⟩ := hp
    exact (hf value rest rest' fewer fewer' hrest (.of_widen fewer hstops)).widen fewer fewer'
  | error cause stop =>
    intro hnone
    obtain ⟨stop', rfl⟩ := hp hnone
    exact ⟨stop', rfl⟩

/-- One rule after another that may stop where other tokens begin. -/
theorem bindBefore (hp : p.StopsAt j.Before → p.Joined j j.Joins p')
    {f : α → (rest : Cursor) → rest.size < m → Parsed β rest.size}
    {f' : α → (rest : Cursor) → rest.size < n → Parsed β rest.size}
    (hf : ∀ value rest rest' (fewer : rest.size < m) (fewer' : rest'.size < n),
      j.Inside rest rest' →
      (f value rest fewer).Joined j S (f' (moved j.lines value) rest' fewer')) :
    (p.bind f).Joined j S (p'.bind f') := by
  cases p with
  | ok value rest fewer =>
    by_cases hbefore : j.Before rest
    · obtain ⟨rest', fewer', rfl, hjoins⟩ := hp hbefore
      exact (hf value rest rest' fewer fewer' ⟨hjoins, hbefore⟩).widen (Nat.le_of_lt fewer)
        (Nat.le_of_lt fewer')
    · exact of_not_before hbefore (f value rest fewer) (Nat.le_of_lt fewer)
  | error cause stop =>
    intro hnone
    obtain ⟨stop', rfl⟩ := hp trivial hnone
    exact ⟨stop', rfl⟩

end Joined

end Parsed

/-! ## Reading single tokens -/

namespace Joint

variable {j : Joint} {s : Seam} {c c' : Cursor}

theorem Ahead.expectKind (h : j.Ahead s c c') (k : TokenKind) :
    (c.expectKind k).Joined j
      (fun d d' => j.Trails s d d' ∧ (s ≠ .last k → j.Reaches s d d')) (c'.expectKind k) := by
  unfold Cursor.expectKind
  obtain ⟨heat, heat'⟩ | ⟨d, hd, d', hd', heat, heat', hafter⟩ := h.eatKind? k
  · rw [heat, heat', h.kind, h.fault]
    exact Parsed.joined_error rfl
  · rw [heat, heat']
    exact Parsed.joined_ok hafter rfl

theorem Ahead.expect (h : j.Ahead s c c') (sign : Punctuator) (hsign : sign ≠ .semicolon) :
    (c.expect sign).Joined j (j.Reaches s) (c'.expect sign) :=
  (h.expectKind _).mono fun _ _ hafter => hafter.2 (h.ne_last (isForeign_of_ne_semicolon hsign))

theorem Ahead.expectName (h : j.Ahead s c c') :
    c.expectName.Joined j (j.Reaches s) c'.expectName := by
  unfold Cursor.expectName
  obtain ⟨heat, heat'⟩ | ⟨id, d, hd, d', hd', heat, heat', hreaches⟩ := h.eatName?
  · rw [heat, heat', h.kind, h.fault]
    exact Parsed.joined_error rfl
  · rw [heat, heat']
    exact Parsed.joined_ok hreaches rfl

theorem Inside.expect (h : j.Inside c c') (sign : Punctuator) (hsign : sign ≠ .semicolon) :
    (c.expect sign).Joined j j.Amid (c'.expect sign) :=
  (h.ahead.expect sign hsign).mono fun _ _ hreaches => hreaches.amid

theorem Inside.expectKind (h : j.Inside c c') (k : TokenKind) :
    (c.expectKind k).Joined j
      (fun d d' => j.Follows d d' ∧ (k ≠ .punctuator .semicolon → j.Before d))
      (c'.expectKind k) := by
  refine (h.ahead.expectKind k).mono fun d d' hafter => ⟨hafter.1.follows, fun hk => ?_⟩
  exact (hafter.2 (by simpa using hk.symm)).amid.before

theorem Inside.expectSemicolon (h : j.Inside c c') :
    (c.expect .semicolon).Joined j j.Follows (c'.expect .semicolon) :=
  (h.expectKind _).mono fun _ _ hafter => hafter.1

theorem Inside.expectWord (h : j.Inside c c') (word : Keyword) :
    (c.expectWord word).Joined j j.Amid (c'.expectWord word) :=
  (h.expectKind _).mono fun _ _ hafter => hafter.1.amid (hafter.2 (by simp))

theorem Inside.expectName (h : j.Inside c c') :
    c.expectName.Joined j j.Amid c'.expectName :=
  h.ahead.expectName.mono fun _ _ hreaches => hreaches.amid

/-- A statement ends at the same place, possibly with the semicolon before other tokens. -/
theorem Amid.endStatement (h : j.Amid c c') :
    c.endStatement.Joined j j.Follows c'.endStatement := by
  unfold Cursor.endStatement Cursor.eat?
  obtain ⟨heat, heat'⟩ | ⟨d, hd, d', hd', heat, heat', hfollows, -⟩ :=
    h.toInside.eatKind? (.punctuator .semicolon)
  · have hline : c'.previousLine < c'.line ↔ c.previousLine < c.line := by
      rw [h.previousLine, h.toInside.line, Nat.add_lt_add_iff_right]
    rw [heat, heat', h.toInside.kind]
    simp only [hline]
    split
    · exact Parsed.joined_done h.toFollows rfl
    · exact Parsed.joined_error h.toInside.unexpected
  · rw [heat, heat']
    exact Parsed.joined_ok hfollows rfl

end Joint

end ScriptSteps
