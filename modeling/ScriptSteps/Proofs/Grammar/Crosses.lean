import Mathlib
import ScriptSteps.Grammar.Statement
import ScriptSteps.Proofs.Grammar.Spans
import ScriptSteps.Proofs.Token.Kinds
import ScriptSteps.Session.Continuation

/-!
# Brackets and last tokens between two cursors

Tokens in a row are complete if they close each bracket they open, and no other, and if the last of
them waits for nothing. Complete tokens stay complete with balanced ones before them, with complete
ones after them and, up to a closing bracket, after the bracket that it closes.

## Main definitions

* `Balanced`, `Complete`, `Settled`, `UpTo`: tokens in a row with respect to their brackets
* `Cursor.Crosses`: what holds of the tokens between two cursors
* `Parsed.StopsAt`: what holds of the cursor that a rule stops at

## Main statements

* `Cursor.Crosses.complete`, `Cursor.Crosses.settled`: tokens one after another
* `Cursor.Crosses.enclosed`: tokens in brackets
-/

namespace ScriptSteps

/-! ## Tokens in a row -/

/-- Tokens that close every bracket they open, and no other. -/
def Balanced (kinds : List TokenKind) : Prop := ∀ closers, openAfter? closers kinds = some closers

/-- Balanced tokens, the last of which waits for nothing. -/
structure Complete (kinds : List TokenKind) : Prop where
  balanced : Balanced kinds
  last : ∃ k, kinds.getLast? = some k ∧ k.awaitsOperand = false

/-- No tokens, or complete ones. -/
def Settled (kinds : List TokenKind) : Prop := kinds = [] ∨ Complete kinds

/-- A single token of a given kind. -/
def Only (k : TokenKind) (kinds : List TokenKind) : Prop := kinds = [k]

/-- Balanced tokens and then a sign. -/
def UpTo (sign : Punctuator) (kinds : List TokenKind) : Prop :=
  ∃ inner, Balanced inner ∧ kinds = inner ++ [.punctuator sign]

/-- The tokens that are no brackets. -/
def TokenKind.isPlain : TokenKind → Bool
  | punctuator sign => sign.closer?.isNone && !sign.isCloser
  | _ => true

section Lists

variable {first second kinds : List TokenKind} {k : TokenKind} {sign opener : Punctuator}

theorem openAfter?_append (closers : List Punctuator) (first second : List TokenKind) :
    openAfter? closers (first ++ second) = (openAfter? closers first).bind (openAfter? · second) :=
  List.foldlM_append ..

theorem balanced_nil : Balanced [] := fun _ => rfl

theorem Balanced.append (h : Balanced first) (h' : Balanced second) :
    Balanced (first ++ second) := by
  intro closers
  rw [openAfter?_append, h closers, Option.bind_some, h' closers]

theorem balanced_plain (h : k.isPlain = true) : Balanced [k] := by
  intro closers
  cases k with
  | punctuator sign => cases sign <;> first | rfl | cases h
  | _ => rfl

theorem Balanced.complete (h : Balanced first) (h' : Complete second) :
    Complete (first ++ second) := by
  obtain ⟨k, hk, hwaits⟩ := h'.last
  exact ⟨h.append h'.balanced, k, by simp [hk], hwaits⟩

theorem Settled.balanced (h : Settled kinds) : Balanced kinds := by
  rcases h with rfl | h
  · exact balanced_nil
  · exact h.balanced

/-- What may be left out does not make complete tokens wait. -/
theorem Complete.settled (h : Complete first) (h' : Settled second) :
    Complete (first ++ second) := by
  rcases h' with rfl | h'
  · rwa [List.append_nil]
  · exact h.balanced.complete h'

/-- A sign that is no bracket leaves what stands before it balanced. -/
theorem UpTo.balanced (h : UpTo sign kinds) (hsign : (TokenKind.punctuator sign).isPlain = true) :
    Balanced kinds := by
  obtain ⟨inner, hinner, rfl⟩ := h
  exact hinner.append (balanced_plain hsign)

/-- The tokens from an opening bracket to the one that closes it. -/
theorem UpTo.enclosed (h : UpTo sign kinds) (hopener : opener.closer? = some sign) :
    Complete (.punctuator opener :: kinds) := by
  obtain ⟨inner, hinner, rfl⟩ := h
  have hclose : ∀ closers, openAfterToken? (sign :: closers) (.punctuator sign) = some closers := by
    intro closers
    cases opener <;> cases hopener <;> rfl
  have hwaits : sign.awaitsOperand = false := by cases opener <;> cases hopener <;> rfl
  have hlast : (TokenKind.punctuator opener :: (inner ++ [TokenKind.punctuator sign])).getLast?
      = some (.punctuator sign) := by rw [← List.cons_append, List.getLast?_concat]
  refine ⟨fun closers => ?_, .punctuator sign, hlast, hwaits⟩
  have hopen : openAfterToken? closers (.punctuator opener) = some (sign :: closers) := by
    simp [openAfterToken?, hopener]
  rw [openAfter?, List.foldlM_cons, hopen, Option.bind_eq_bind, Option.bind_some, ← openAfter?,
    openAfter?_append, hinner, Option.bind_some]
  simpa [openAfter?] using hclose closers

end Lists

/-! ## Tokens between two cursors -/

namespace Cursor

variable {c d e : Cursor} {p q r : List TokenKind → Prop} {k : TokenKind}
  {sign opener : Punctuator}

/-- The second cursor comes after the first, and something holds of the kinds of the tokens between
them. -/
def Crosses (c : Cursor) (p : List TokenKind → Prop) (d : Cursor) : Prop :=
  ∃ used, c.Passes used d ∧ p (used.map Terminal.kind)

theorem Crosses.refl (h : p []) : c.Crosses p c := ⟨[], .refl c, h⟩

theorem Crosses.mono (h : c.Crosses p d) (hpq : ∀ kinds, p kinds → q kinds) : c.Crosses q d := by
  obtain ⟨used, hpasses, hp⟩ := h
  exact ⟨used, hpasses, hpq _ hp⟩

theorem Crosses.trans (h : c.Crosses p d) (h' : d.Crosses q e)
    (hr : ∀ first second, p first → q second → r (first ++ second)) : c.Crosses r e := by
  obtain ⟨first, hfirst, hp⟩ := h
  obtain ⟨second, hsecond, hq⟩ := h'
  refine ⟨first ++ second, hfirst.trans hsecond, ?_⟩
  rw [List.map_append]
  exact hr _ _ hp hq

theorem Crosses.balanced (h : c.Crosses Complete d) : c.Crosses Balanced d :=
  h.mono fun _ h => h.balanced

theorem Crosses.balanced_of_settled (h : c.Crosses Settled d) : c.Crosses Balanced d :=
  h.mono fun _ h => h.balanced

theorem Crosses.append (h : c.Crosses Balanced d) (h' : d.Crosses Balanced e) :
    c.Crosses Balanced e :=
  h.trans h' fun _ _ => Balanced.append

theorem Crosses.complete (h : c.Crosses Balanced d) (h' : d.Crosses Complete e) :
    c.Crosses Complete e :=
  h.trans h' fun _ _ => Balanced.complete

theorem Crosses.settled (h : c.Crosses Complete d) (h' : d.Crosses Settled e) :
    c.Crosses Complete e :=
  h.trans h' fun _ _ => Complete.settled

theorem Crosses.optional (h : c.Crosses Complete d) : c.Crosses Settled d := h.mono fun _ => .inr

theorem Crosses.plain (h : c.Crosses (Only k) d) (hk : k.isPlain = true) : c.Crosses Balanced d :=
  h.mono fun _ h => h ▸ balanced_plain hk

/-- A token that is no bracket and waits for nothing. -/
theorem Crosses.single (h : c.Crosses (Only k) d) (hk : k.isPlain = true)
    (hwaits : k.awaitsOperand = false) : c.Crosses Complete d :=
  h.mono fun _ h => h ▸ ⟨balanced_plain hk, k, rfl, hwaits⟩

theorem Crosses.upTo (h : c.Crosses Balanced d) (h' : d.Crosses (Only (.punctuator sign)) e) :
    c.Crosses (UpTo sign) e :=
  h.trans h' fun first _ hfirst hsign => ⟨first, hfirst, hsign ▸ rfl⟩

theorem Crosses.only_upTo (h : c.Crosses (Only (.punctuator sign)) d) : c.Crosses (UpTo sign) d :=
  (refl balanced_nil).upTo h

theorem Crosses.before (h : c.Crosses Balanced d) (h' : d.Crosses (UpTo sign) e) :
    c.Crosses (UpTo sign) e := by
  refine h.trans h' fun first _ hfirst ⟨inner, hinner, heq⟩ => ?_
  exact ⟨first ++ inner, hfirst.append hinner, by rw [heq, List.append_assoc]⟩

theorem Crosses.enclosed (h : c.Crosses (Only (.punctuator opener)) d)
    (h' : d.Crosses (UpTo sign) e) (hopener : opener.closer? = some sign) :
    c.Crosses Complete e :=
  h.trans h' fun _ _ hopen hinner => hopen ▸ hinner.enclosed hopener

/-! ### Single tokens -/

theorem crosses_of_next? {hd : d.size < c.size} (h : c.next? = some (k, ⟨d, hd⟩)) :
    c.Crosses (Only k) d := ⟨_, passes_of_next? h, rfl⟩

theorem crosses_of_take? {α : Type} {meaning : TokenKind → Option α} {value : α}
    {hd : d.size < c.size} (h : c.take? meaning = some (value, ⟨d, hd⟩)) :
    ∃ k, meaning k = some value ∧ c.Crosses (Only k) d := by
  obtain ⟨k, hvalue, hpasses⟩ := passes_of_take? h
  exact ⟨k, hvalue, _, hpasses, rfl⟩

theorem crosses_of_eatKind? {hd : d.size < c.size} (h : c.eatKind? k = some ⟨d, hd⟩) :
    c.Crosses (Only k) d := by
  unfold eatKind? at h
  split at h
  · next found later' hnext =>
    split at h
    · next hfound =>
      obtain rfl := Option.some.inj h
      exact hfound ▸ crosses_of_next? hnext
    · cases h
  · cases h

theorem crosses_of_eatName? {id : Identifier} {hd : d.size < c.size}
    (h : c.eatName? = some (id, ⟨d, hd⟩)) : c.Crosses Complete d := by
  obtain ⟨k, hk, hcrosses⟩ := crosses_of_take? h
  split at hk
  · exact hcrosses.single rfl rfl
  · cases hk

/-- Only after the last token of a text does a cursor see the end. -/
theorem Crosses.terminals_eq_nil {source : String} (h : (ofSource source).Crosses p d)
    (hend : d.kind = .endOfInput) : d.terminals = [] := by
  obtain ⟨used, hpasses, -⟩ := h
  cases hterminals : d.terminals with
  | nil => rfl
  | cons t ts =>
    have hmem : t ∈ (ofSource source).terminals := by
      rw [hpasses.terminals, hterminals]
      simp
    obtain ⟨token, htoken, rfl⟩ := List.mem_map.1 hmem
    have hkind : token.kind = .endOfInput := by simpa [kind, hterminals] using hend
    have hne : ∀ k ∈ kindsOf source.toList, k ≠ .endOfInput :=
      forall_mem_kindsOf lexeme_ne_endOfInput source.toList
    exact absurd hkind (hne token.kind (List.mem_map_of_mem htoken))

end Cursor

section Operators

variable {k : TokenKind}

theorem isPlain_of_binary {operator : BinaryOperator}
    (h : BinaryOperator.ofKind? k = some operator) : k.isPlain = true := by
  cases k with
  | punctuator sign => cases sign <;> first | rfl | cases h
  | _ => rfl

theorem isPlain_of_unary {operator : UnaryOperator}
    (h : UnaryOperator.ofKind? k = some operator) : k.isPlain = true := by
  cases k with
  | punctuator sign => cases sign <;> first | rfl | cases h
  | _ => rfl

theorem isPlain_of_assignment {operator : AssignmentOperator}
    (h : AssignmentOperator.ofKind? k = some operator) : k.isPlain = true := by
  cases k with
  | punctuator sign => cases sign <;> first | rfl | cases h
  | _ => rfl

theorem isPlain_of_update {operator : UpdateOperator}
    (h : UpdateOperator.ofKind? k = some operator) :
    k.isPlain = true ∧ k.awaitsOperand = false := by
  cases k with
  | punctuator sign => cases sign <;> first | exact ⟨rfl, rfl⟩ | cases h
  | _ => cases h

theorem isPlain_of_literal {value : Literal} (h : Grammar.literalOf? k = some value) :
    k.isPlain = true ∧ k.awaitsOperand = false := by
  cases k with
  | punctuator sign => cases h
  | _ => exact ⟨rfl, rfl⟩

theorem isPlain_of_variableKind {kind : VariableKind} (h : Grammar.variableKindOf? k = some kind) :
    k.isPlain = true := by
  cases k with
  | punctuator sign => cases h
  | _ => rfl

end Operators

/-! ## Where rules stop -/

namespace Parsed

variable {α β : Type} {m n : ℕ} {c d : Cursor} {q r : Cursor → Prop}

/-- If the rule succeeds, something holds of the cursor it stops at. -/
def StopsAt (p : Parsed α n) (q : Cursor → Prop) : Prop :=
  match p with
  | ok _ rest _ => q rest
  | error _ _ => True

theorem stopsAt_done {value : α} (h : q c) : (done value c).StopsAt q := h

theorem stopsAt_error {cause : Error} {stop : Cursor} : (error cause stop : Parsed α n).StopsAt q :=
  trivial

theorem StopsAt.mono {p : Parsed α n} (hp : p.StopsAt q) (h : ∀ rest, q rest → r rest) :
    p.StopsAt r := by
  cases p with
  | ok value rest fewer => exact h rest hp
  | error cause stop => trivial

theorem StopsAt.and {p : Parsed α n} (hq : p.StopsAt q) (hr : p.StopsAt r) :
    p.StopsAt fun rest => q rest ∧ r rest := by
  cases p with
  | ok value rest fewer => exact ⟨hq, hr⟩
  | error cause stop => trivial

theorem StopsAt.of_ok {p : Parsed α n} (hp : p.StopsAt q) {value : α}
    (h : p.toExcept = .ok value) : ∃ rest, q rest := by
  cases p with
  | ok value' rest fewer => exact ⟨rest, hp⟩
  | error cause stop => cases h

theorem StopsAt.widen {p : Parsed α m} (hp : p.StopsAt q) (h : m ≤ n) : (p.widen h).StopsAt q := by
  cases p <;> exact hp

theorem StopsAt.of_widen {p : Parsed α m} (h : m ≤ n) (hp : (p.widen h).StopsAt q) :
    p.StopsAt q := by
  cases p <;> exact hp

theorem StopsAt.relax {p : Parsed α n} (hp : p.StopsAt q) : p.relax.StopsAt q := hp.widen _

theorem StopsAt.of_relax {p : Parsed α n} (hp : p.relax.StopsAt q) : p.StopsAt q := hp.of_widen _

theorem StopsAt.resume {p : Parsed α d.size} (hp : p.StopsAt q) (h : d.size < c.size) :
    (p.resume h : Parsed α c.size).StopsAt q := hp.widen _

theorem StopsAt.resumeLoose {p : Parsed α (d.size + 1)} (hp : p.StopsAt q) (h : d.size < c.size) :
    (p.resumeLoose h : Parsed α c.size).StopsAt q := hp.widen _

theorem StopsAt.map {p : Parsed α n} {f : α → β} (hp : p.StopsAt q) : (p.map f).StopsAt q := by
  cases p <;> exact hp

theorem StopsAt.of_map {p : Parsed α n} {f : α → β} (hp : (p.map f).StopsAt q) :
    p.StopsAt q := by
  cases p <;> exact hp

theorem StopsAt.bind {p : Parsed α n} (hp : p.StopsAt q)
    {f : α → (rest : Cursor) → rest.size < n → Parsed β rest.size}
    (hf : ∀ value rest fewer, q rest → (f value rest fewer).StopsAt r) : (p.bind f).StopsAt r := by
  cases p with
  | ok value rest fewer => exact (hf value rest fewer hp).widen (Nat.le_of_lt fewer)
  | error cause stop => trivial

theorem StopsAt.bindLoose {p : Parsed α n} (hp : p.StopsAt q)
    {f : α → (rest : Cursor) → rest.size < n → Parsed β (rest.size + 1)}
    (hf : ∀ value rest fewer, q rest → (f value rest fewer).StopsAt r) :
    (p.bindLoose f).StopsAt r := by
  cases p with
  | ok value rest fewer => exact (hf value rest fewer hp).widen fewer
  | error cause stop => trivial

end Parsed

namespace Cursor

variable (c : Cursor)

theorem expectKind_crosses (k : TokenKind) : (c.expectKind k).StopsAt (c.Crosses (Only k)) := by
  unfold expectKind
  split
  · next d h heat => exact crosses_of_eatKind? heat
  · exact Parsed.stopsAt_error

theorem expect_crosses (sign : Punctuator) :
    (c.expect sign).StopsAt (c.Crosses (Only (.punctuator sign))) := c.expectKind_crosses _

theorem expectName_completes : c.expectName.StopsAt (c.Crosses Complete) := by
  unfold expectName
  split
  · next id d h heat => exact crosses_of_eatName? heat
  · exact Parsed.stopsAt_error

theorem endStatement_settles : c.endStatement.StopsAt (c.Crosses Settled) := by
  unfold endStatement
  split
  · next d h heat => exact .relax ((crosses_of_eatKind? heat).single rfl rfl).optional
  · split
    · exact Parsed.stopsAt_done (.refl (.inl rfl))
    · exact Parsed.stopsAt_error

end Cursor

end ScriptSteps
