import Mathlib
import ScriptSteps.Grammar.Expression
import ScriptSteps.Proofs.Token.Kinds
import ScriptSteps.Proofs.Tree.Level

/-!
# What the rules read

A list of tokens that is read as a given expression at a given level is also read as that expression
by the rules of the looser levels, as long as the token after it does not go on with it. Two rules
loop, the one for operators and the one for accesses and calls; what they read is stated with the
rest of the loop to come.

## Main definitions

* `Parsed.Gives`: a rule that succeeds
* `TokenKind.joins`: the level of the rule that goes on with a token after an operand
* `Closes`, `Follows`: what may come after an expression of a level
* `Reads`: the tokens that are read as an expression of a level

## Main statements

* `Reads.expression`, `Reads.assignment`, `Reads.binary`, `Reads.unary` and so on: what is read at a
  level is read by the rules of the looser levels
* `reads_parens`: what stands in parentheses is read at the tightest level
-/

namespace ScriptSteps

/-! ## Success -/

namespace Parsed

variable {α β : Type} {m n : ℕ} {value value' : α} {result : β} {rest rest' stop : Cursor}

/-- The rule gives a value and stops at a cursor. -/
def Gives (p : Parsed α n) (value : α) (rest : Cursor) : Prop := ∃ fewer, p = .ok value rest fewer

theorem gives_ok (value : α) (rest : Cursor) (fewer : rest.size < n) :
    (ok value rest fewer : Parsed α n).Gives value rest := ⟨fewer, rfl⟩

theorem gives_done (value : α) (rest : Cursor) : (done value rest).Gives value rest := ⟨_, rfl⟩

theorem Gives.fewer {p : Parsed α n} (h : p.Gives value rest) : rest.size < n := by
  obtain ⟨fewer, -⟩ := h
  exact fewer

theorem Gives.unique {p : Parsed α n} (h : p.Gives value rest) (h' : p.Gives value' rest') :
    value = value' ∧ rest = rest' := by
  obtain ⟨_, rfl⟩ := h
  obtain ⟨_, h'⟩ := h'
  exact Parsed.ok.inj h'

theorem Gives.of_done {c : Cursor} (h : (done value c).Gives value' rest) :
    value' = value ∧ rest = c := h.unique (gives_done value c)

theorem Gives.widen {p : Parsed α m} (hp : p.Gives value rest) (h : m ≤ n) :
    (p.widen h).Gives value rest := by
  obtain ⟨fewer, rfl⟩ := hp
  exact ⟨_, rfl⟩

theorem Gives.of_widen {p : Parsed α m} {h : m ≤ n} (hp : (p.widen h).Gives value rest) :
    p.Gives value rest := by
  obtain ⟨_, hp⟩ := hp
  cases p with
  | error cause stop => cases hp
  | ok value' rest' fewer =>
    obtain ⟨rfl, rfl⟩ := Parsed.ok.inj hp
    exact gives_ok _ _ fewer

theorem Gives.relax {p : Parsed α n} (hp : p.Gives value rest) : p.relax.Gives value rest :=
  hp.widen _

theorem Gives.resume {c d : Cursor} {p : Parsed α d.size} (hp : p.Gives value rest)
    (h : d.size < c.size) : (p.resume h : Parsed α c.size).Gives value rest :=
  hp.widen _

theorem Gives.map {p : Parsed α n} (hp : p.Gives value rest) (f : α → β) :
    (p.map f).Gives (f value) rest := by
  obtain ⟨fewer, rfl⟩ := hp
  exact ⟨fewer, rfl⟩

theorem Gives.of_map {p : Parsed α n} {f : α → β} (h : (p.map f).Gives result rest) :
    ∃ value, p.Gives value rest ∧ f value = result := by
  cases p with
  | error cause stop =>
    obtain ⟨_, h⟩ := h
    cases h
  | ok value rest' fewer =>
    obtain ⟨hvalue, rfl⟩ := (gives_ok (f value) rest' fewer).unique h
    exact ⟨value, gives_ok _ _ _, hvalue⟩

theorem Gives.bind {p : Parsed α n} (hp : p.Gives value rest)
    {f : α → (rest : Cursor) → rest.size < n → Parsed β rest.size}
    (hf : ∀ fewer, (f value rest fewer).Gives result stop) : (p.bind f).Gives result stop := by
  obtain ⟨fewer, rfl⟩ := hp
  exact (hf fewer).widen (Nat.le_of_lt fewer)

theorem Gives.of_bind {p : Parsed α n}
    {f : α → (rest : Cursor) → rest.size < n → Parsed β rest.size}
    (h : (p.bind f).Gives result stop) :
    ∃ value rest, p.Gives value rest ∧ ∃ fewer, (f value rest fewer).Gives result stop := by
  cases p with
  | error cause stop' =>
    obtain ⟨_, h⟩ := h
    cases h
  | ok value rest fewer =>
    exact ⟨value, rest, ⟨fewer, rfl⟩, fewer, .of_widen (h := Nat.le_of_lt fewer) h⟩

theorem Gives.bindLoose {p : Parsed α n} (hp : p.Gives value rest)
    {f : α → (rest : Cursor) → rest.size < n → Parsed β (rest.size + 1)}
    (hf : ∀ fewer, (f value rest fewer).Gives result stop) :
    (p.bindLoose f).Gives result stop := by
  obtain ⟨fewer, rfl⟩ := hp
  exact (hf fewer).widen fewer

theorem Gives.of_bindLoose {p : Parsed α n}
    {f : α → (rest : Cursor) → rest.size < n → Parsed β (rest.size + 1)}
    (h : (p.bindLoose f).Gives result stop) :
    ∃ value rest, p.Gives value rest ∧ ∃ fewer, (f value rest fewer).Gives result stop := by
  cases p with
  | error cause stop' =>
    obtain ⟨_, h⟩ := h
    cases h
  | ok value rest fewer =>
    exact ⟨value, rest, ⟨fewer, rfl⟩, fewer, .of_widen (h := Nat.succ_le_of_lt fewer) h⟩

end Parsed

/-! ## Tokens on one line -/

namespace Cursor

theorem size_flat_lt (k : TokenKind) (ks : List TokenKind) :
    (flat ks).size < (flat (k :: ks)).size := by
  simp [flat, size]

@[simp] theorem next?_flat_cons (k : TokenKind) (ks : List TokenKind) :
    (flat (k :: ks)).next? = some (k, ⟨flat ks, size_flat_lt _ ks⟩) := rfl

@[simp] theorem kind_flat_cons (k : TokenKind) (ks : List TokenKind) :
    (flat (k :: ks)).kind = k := rfl

@[simp] theorem previousLine_flat (ks : List TokenKind) : (flat ks).previousLine = 1 := rfl

@[simp] theorem line_flat (ks : List TokenKind) : (flat ks).line = 1 := by cases ks <;> rfl

theorem eatKind?_flat_cons (k : TokenKind) (ks : List TokenKind) :
    (flat (k :: ks)).eatKind? k = some ⟨flat ks, size_flat_lt _ ks⟩ := by
  simp [eatKind?]

theorem eatKind?_flat_eq_none {k : TokenKind} {ks : List TokenKind}
    (h : ∀ k' ∈ ks.head?, k' ≠ k) : (flat ks).eatKind? k = none := by
  cases ks with
  | nil => rfl
  | cons k' ks => simp [eatKind?, h k' rfl]

theorem eat?_flat_cons (p : Punctuator) (ks : List TokenKind) :
    (flat (.punctuator p :: ks)).eat? p = some ⟨flat ks, size_flat_lt _ ks⟩ :=
  eatKind?_flat_cons _ ks

theorem eat?_flat_eq_none {p : Punctuator} {ks : List TokenKind}
    (h : ∀ k ∈ ks.head?, k ≠ .punctuator p) : (flat ks).eat? p = none :=
  eatKind?_flat_eq_none h

theorem take?_flat_cons {α : Type} {meaning : TokenKind → Option α} {k : TokenKind} {value : α}
    (h : meaning k = some value) (ks : List TokenKind) :
    (flat (k :: ks)).take? meaning = some (value, ⟨flat ks, size_flat_lt _ ks⟩) := by
  simp [take?, h]

theorem take?_flat_eq_none {α : Type} {meaning : TokenKind → Option α} {ks : List TokenKind}
    (h : ∀ k ∈ ks.head?, meaning k = none) : (flat ks).take? meaning = none := by
  cases ks with
  | nil => rfl
  | cons k ks => simp [take?, h k rfl]

theorem gives_expect (p : Punctuator) (ks : List TokenKind) :
    ((flat (.punctuator p :: ks)).expect p).Gives () (flat ks) := by
  refine ⟨size_flat_lt _ ks, ?_⟩
  simp [expect, expectKind, eatKind?]

theorem gives_expectName (name : String) (ks : List TokenKind) :
    ((flat (.identifier name :: ks)).expectName).Gives ⟨name, 1⟩ (flat ks) := by
  refine ⟨size_flat_lt _ ks, ?_⟩
  simp [expectName, eatName?, take?]

end Cursor

/-! ## What may follow -/

/-- The level of the rule that goes on with a token after an operand. -/
def TokenKind.joins (k : TokenKind) : Option Level :=
  match BinaryOperator.ofKind? k, AssignmentOperator.ofKind? k, UpdateOperator.ofKind? k, k with
  | some operator, _, _, _ => some operator.level
  | none, some _, _, _ => some .assignment
  | none, none, some _, _ => some .postfix_
  | none, none, none, .punctuator .comma => some .sequence
  | none, none, none, .punctuator .question => some .conditional
  | none, none, none, .punctuator .starStar => some .exponent
  | none, none, none, .punctuator .dot => some .call
  | none, none, none, .punctuator .leftBracket => some .call
  | none, none, none, .punctuator .leftParen => some .call
  | none, none, none, _ => none

/-- The next token, if it goes on with an expression, does so at a looser level. -/
def Closes (l : Level) (ks : List TokenKind) : Prop :=
  ∀ k ∈ ks.head?, ∀ joined ∈ k.joins, joined < l

/-- The next token, if it goes on with an expression, does so at this level or a looser one. -/
def Follows (l : Level) (ks : List TokenKind) : Prop :=
  ∀ k ∈ ks.head?, ∀ joined ∈ k.joins, joined ≤ l

section Follow

variable {l m : Level} {ks : List TokenKind} {k : TokenKind}

theorem Closes.mono (h : Closes l ks) (hle : l ≤ m) : Closes m ks :=
  fun k hk joined hjoined => (h k hk joined hjoined).trans_le hle

theorem Closes.follows (h : Closes l ks) : Follows l ks :=
  fun k hk joined hjoined => (h k hk joined hjoined).le

theorem Follows.mono (h : Follows l ks) (hle : l ≤ m) : Follows m ks :=
  fun k hk joined hjoined => (h k hk joined hjoined).trans hle

theorem Follows.closes (h : Follows l ks) (hlt : l < m) : Closes m ks :=
  fun k hk joined hjoined => (h k hk joined hjoined).trans_lt hlt

theorem closes_cons (h : ∀ joined ∈ k.joins, joined < l) (ks : List TokenKind) :
    Closes l (k :: ks) := by
  simpa [Closes] using h

theorem closes_of_none (h : k.joins = none) (ks : List TokenKind) : Closes l (k :: ks) :=
  closes_cons (by simp [h]) ks

theorem follows_cons (h : ∀ joined ∈ k.joins, joined ≤ l) (ks : List TokenKind) :
    Follows l (k :: ks) := by
  simpa [Follows] using h

/-- A token that joins at the level or tighter does not come next. -/
theorem Closes.ne (h : Closes l ks) (hk : k.joins = some m) (hle : l ≤ m) :
    ∀ k' ∈ ks.head?, k' ≠ k := by
  rintro k' hk' rfl
  exact absurd (h k' hk' m hk) (not_lt.2 hle)

theorem joins_of_binary {operator : BinaryOperator} (h : BinaryOperator.ofKind? k = some operator) :
    k.joins = some operator.level := by
  simp [TokenKind.joins, h]

theorem joins_of_assignment {operator : AssignmentOperator}
    (h : AssignmentOperator.ofKind? k = some operator) : k.joins = some .assignment := by
  cases k with
  | punctuator sign => cases sign <;> first | rfl | cases h
  | _ => cases h

theorem joins_of_update {operator : UpdateOperator} (h : UpdateOperator.ofKind? k = some operator) :
    k.joins = some .postfix_ := by
  cases k with
  | punctuator sign => cases sign <;> first | rfl | cases h
  | _ => cases h

theorem Closes.take?_assignment (h : Closes .assignment ks) :
    (Cursor.flat ks).take? AssignmentOperator.ofKind? = none := by
  refine Cursor.take?_flat_eq_none fun k hk => ?_
  cases hoperator : AssignmentOperator.ofKind? k with
  | none => rfl
  | some operator => exact absurd (h k hk _ (joins_of_assignment hoperator)) (by decide)

theorem Closes.take?_update (h : Closes .postfix_ ks) :
    (Cursor.flat ks).take? UpdateOperator.ofKind? = none := by
  refine Cursor.take?_flat_eq_none fun k hk => ?_
  cases hoperator : UpdateOperator.ofKind? k with
  | none => rfl
  | some operator => exact absurd (h k hk _ (joins_of_update hoperator)) (by decide)

end Follow

/-! ## Reading at a level -/

open Grammar

variable {ts ks : List TokenKind} {v w : Expression} {r : Cursor} {l : Level}

/-- A rule reads the tokens as an expression, whatever follows that closes a level. -/
def ReadBy (rule : (c : Cursor) → Parsed Expression c.size) (l : Level) (ts : List TokenKind)
    (v : Expression) : Prop :=
  ∀ ks, Closes l ks → (rule (.flat (ts ++ ks))).Gives v (.flat ks)

/-- An operand and the accesses after it, with argument lists if `calls` is set. -/
def suffixed (calls : Bool) (c : Cursor) : Parsed Expression c.size :=
  (operand c).bindLoose fun object c₁ _ => suffixes calls object c₁

/-- The tokens are read as an expression to which accesses are then added. -/
def ReadSuffixed (calls : Bool) (ts : List TokenKind) (v : Expression) : Prop :=
  ∀ ks w r, (suffixes calls v (.flat ks)).Gives w r → (suffixed calls (.flat (ts ++ ks))).Gives w r

/-- The tokens are read as an operand to which the operators are added that bind no tighter than
a level. -/
def ReadBinary (l : Level) (ts : List TokenKind) (v : Expression) : Prop :=
  ∀ floor ks w r, floor < l → Follows l ks → Closes .exponent ks →
    (binaryRest floor v (.flat ks)).Gives w r → (binary floor (.flat (ts ++ ks))).Gives w r

/-- Whether a token is an operator before an operand. -/
def TokenKind.isPrefix (k : TokenKind) : Bool :=
  (UnaryOperator.ofKind? k).isSome || (UpdateOperator.ofKind? k).isSome

/-- There is a first token, and it has a property. -/
def StartsWith (p : TokenKind → Prop) (ts : List TokenKind) : Prop := ∃ k ∈ ts.head?, p k

theorem StartsWith.mono {p q : TokenKind → Prop} (h : StartsWith p ts) (hpq : ∀ k, p k → q k) :
    StartsWith q ts := by
  obtain ⟨k, hk, hp⟩ := h
  exact ⟨k, hk, hpq k hp⟩

theorem StartsWith.append {p : TokenKind → Prop} (h : StartsWith p ts) (more : List TokenKind) :
    StartsWith p (ts ++ more) := by
  obtain ⟨k, hk, hp⟩ := h
  exact ⟨k, by simp [List.head?_append, Option.mem_def.1 hk], hp⟩

/-- What holds of the first token holds of the next one. -/
theorem StartsWith.forall_head {p : TokenKind → Prop} (h : StartsWith p ts) :
    ∀ k ∈ ts.head?, p k := by
  obtain ⟨k, hk, hp⟩ := h
  rintro k' hk'
  obtain rfl : k = k' := Option.some.inj (hk.symm.trans hk')
  exact hp

/-- The first token is not an operator. -/
def StartsOperand (ts : List TokenKind) : Prop := StartsWith (fun k => k.isPrefix = false) ts

/-- The tokens are read as an expression of a level. -/
def Reads (l : Level) (ts : List TokenKind) (v : Expression) : Prop :=
  match l with
  | .sequence => ReadBy expression .sequence ts v
  | .assignment => ReadBy assignment .assignment ts v
  | .conditional => ReadBy conditional .assignment ts v
  | .exponent => ReadBy exponent .exponent ts v
  | .unary => ReadBy unary .unary ts v
  | .postfix_ => ReadBy postfix_ .postfix_ ts v ∧ StartsOperand ts
  | .call | .new | .member | .primary => ReadSuffixed true ts v ∧ StartsOperand ts
  | _ => ReadBinary l ts v

/-- Nothing is added to an expression that no access follows. -/
theorem gives_suffixes_done (calls : Bool) (v : Expression) (h : Closes .call ks) :
    (suffixes calls v (.flat ks)).Gives v (.flat ks) := by
  have hdot := h.ne (k := .punctuator .dot) rfl le_rfl
  have hbracket := h.ne (k := .punctuator .leftBracket) rfl le_rfl
  have hparen := h.ne (k := .punctuator .leftParen) rfl le_rfl
  cases ks with
  | nil => rw [suffixes]; exact Parsed.gives_done _ _
  | cons k ks =>
    rw [suffixes, Cursor.next?_flat_cons]
    split
    · exact absurd (by simp_all) (hdot k rfl)
    · exact absurd (by simp_all) (hbracket k rfl)
    · exact absurd (by simp_all) (hparen k rfl)
    · exact Parsed.gives_done _ _

/-- Without calls an argument list is left alone. -/
theorem gives_suffixes_paren (v : Expression) (ks : List TokenKind) :
    (suffixes false v (.flat (.punctuator .leftParen :: ks))).Gives v
      (.flat (.punctuator .leftParen :: ks)) := by
  rw [suffixes, Cursor.next?_flat_cons]
  exact Parsed.gives_done _ _

/-- Nothing is added to an operand that no operator above the floor follows. -/
theorem gives_binaryRest_done {floor : Level} (v : Expression) (h : Follows floor ks) :
    (binaryRest floor v (.flat ks)).Gives v (.flat ks) := by
  rw [binaryRest]
  cases ks with
  | nil => exact Parsed.gives_done _ _
  | cons k ks =>
    cases hoperator : BinaryOperator.ofKind? k with
    | none =>
      rw [Cursor.take?_flat_eq_none (by simpa using hoperator)]
      exact Parsed.gives_done _ _
    | some operator =>
      rw [Cursor.take?_flat_cons hoperator]
      simp only
      rw [if_pos (h k rfl _ (joins_of_binary hoperator))]
      exact Parsed.gives_done _ _

namespace Reads

theorem suffixed (h : Reads l ts v) (hl : .call ≤ l) : ReadSuffixed true ts v := by
  cases l <;> first | exact h.1 | exact absurd hl (by decide)

theorem startsOperand (h : Reads l ts v) (hl : .postfix_ ≤ l) : StartsOperand ts := by
  cases l <;> first | exact h.2 | exact absurd hl (by decide)

theorem postfix_ (h : Reads l ts v) (hl : .postfix_ ≤ l) :
    ReadBy Grammar.postfix_ .postfix_ ts v := by
  rcases hl.eq_or_lt with rfl | hlt
  · exact h.1
  intro ks hks
  have hcall : (call (.flat (ts ++ ks))).Gives v (.flat ks) := by
    rw [call]
    exact h.suffixed (Level.next_le rfl hlt) ks v (.flat ks)
      (gives_suffixes_done true v (hks.mono (by decide)))
  rw [Grammar.postfix_]
  refine hcall.bindLoose fun _ => ?_
  rw [hks.take?_update]
  exact Parsed.gives_done _ _

theorem unary (h : Reads l ts v) (hl : .unary ≤ l) : ReadBy Grammar.unary .unary ts v := by
  rcases hl.eq_or_lt with rfl | hlt
  · exact h
  intro ks hks
  have hpostfix : Level.postfix_ ≤ l := Level.next_le rfl hlt
  have hhead := (StartsWith.append (h.startsOperand hpostfix) ks).forall_head
  simp only [TokenKind.isPrefix, Bool.or_eq_false_iff, Option.isSome_eq_false_iff,
    Option.isNone_iff_eq_none] at hhead
  rw [Grammar.unary, Cursor.take?_flat_eq_none fun k hk => (hhead k hk).2]
  simp only
  rw [Cursor.take?_flat_eq_none fun k hk => (hhead k hk).1]
  exact h.postfix_ hpostfix ks (hks.mono (by decide))

theorem exponent (h : Reads l ts v) (hl : .exponent ≤ l) :
    ReadBy Grammar.exponent .exponent ts v := by
  rcases hl.eq_or_lt with rfl | hlt
  · exact h
  intro ks hks
  rw [Grammar.exponent]
  refine (h.unary (Level.next_le rfl hlt) ks (hks.mono (by decide))).bindLoose fun _ => ?_
  rw [Cursor.eat?_flat_eq_none (hks.ne rfl le_rfl)]
  exact Parsed.gives_done _ _

theorem binary (h : Reads l ts v) (hl : .coalesce ≤ l) : ReadBinary l ts v := by
  by_cases hexponent : .exponent ≤ l
  · intro floor ks w r hfloor hfollows hcloses hrest
    rw [Grammar.binary]
    exact (h.exponent hexponent ks hcloses).bindLoose fun _ => hrest
  · cases l <;> first | exact h | exact absurd hl (by decide) | exact absurd (by decide) hexponent

/-- An operand is read up to the operators of the floor. -/
theorem operand {floor : Level} (h : Reads l ts v) (hl : .coalesce ≤ l) (hfloor : floor < l)
    (hexponent : floor < .exponent) (hks : Follows floor ks) :
    (Grammar.binary floor (.flat (ts ++ ks))).Gives v (.flat ks) :=
  h.binary hl floor ks v (.flat ks) hfloor (hks.mono hfloor.le) (hks.closes hexponent)
    (gives_binaryRest_done v hks)

/-- Something tighter than a choice is read up to a question mark. -/
theorem tighter_conditional (h : Reads l ts v) (hl : .coalesce ≤ l) :
    ReadBy Grammar.conditional .conditional ts v := by
  intro ks hks
  rw [Grammar.conditional]
  have hfloor : Level.conditional < l := hl.trans_lt' (by decide)
  refine (h.operand hl hfloor (by decide) hks.follows).bindLoose fun _ => ?_
  rw [Cursor.eat?_flat_eq_none (hks.ne rfl le_rfl)]
  exact Parsed.gives_done _ _

theorem conditional (h : Reads l ts v) (hl : .conditional ≤ l) :
    ReadBy Grammar.conditional .assignment ts v := by
  rcases hl.eq_or_lt with rfl | hlt
  · exact h
  exact fun ks hks => h.tighter_conditional (Level.next_le rfl hlt) ks (hks.mono (by decide))

theorem assignment (h : Reads l ts v) (hl : .assignment ≤ l) :
    ReadBy Grammar.assignment .assignment ts v := by
  rcases hl.eq_or_lt with rfl | hlt
  · exact h
  intro ks hks
  rw [Grammar.assignment]
  refine (h.conditional (Level.next_le rfl hlt) ks hks).bindLoose fun _ => ?_
  rw [hks.take?_assignment]
  exact Parsed.gives_done _ _

theorem expression (h : Reads l ts v) : ReadBy Grammar.expression .sequence ts v := by
  rcases (show Level.sequence ≤ l by cases l <;> decide).eq_or_lt with rfl | hlt
  · exact h
  intro ks hks
  rw [Grammar.expression]
  refine (h.assignment (Level.next_le rfl hlt) ks (hks.mono (by decide))).bindLoose fun _ => ?_
  have hrest : (sequenceRest (.flat ks)).Gives [] (.flat ks) := by
    rw [sequenceRest, Cursor.eat?_flat_eq_none (hks.ne rfl le_rfl)]
    exact Parsed.gives_done _ _
  exact hrest.map _

end Reads

/-! ## Primary expressions -/

/-- The tokens are read as a primary expression, whatever follows. -/
structure ReadPrimary (ts : List TokenKind) (v : Expression) : Prop where
  starts : StartsWith (fun k => k.isPrefix = false ∧ k ≠ .keyword .new) ts
  gives : ∀ ks, (primary (.flat (ts ++ ks))).Gives v (.flat ks)

theorem ReadPrimary.suffixed (h : ReadPrimary ts v) (calls : Bool) : ReadSuffixed calls ts v := by
  intro ks w r hrest
  have hoperand : (operand (.flat (ts ++ ks))).Gives v (.flat ks) := by
    rw [operand, Cursor.eatWord?,
      Cursor.eatKind?_flat_eq_none fun k hk => ((h.starts.append ks).forall_head k hk).2]
    exact h.gives ks
  exact hoperand.bindLoose fun _ => hrest

theorem ReadPrimary.reads (h : ReadPrimary ts v) : Reads .primary ts v := by
  exact ⟨h.suffixed true, h.starts.mono fun k hk => hk.1⟩

theorem Reads.parens (h : Reads l ts v) :
    ReadPrimary (.punctuator .leftParen :: (ts ++ [TokenKind.punctuator .rightParen])) v := by
  refine ⟨⟨_, rfl, rfl, by simp⟩, fun ks => ?_⟩
  rw [List.cons_append, List.append_assoc, primary]
  have hinner := h.expression (.punctuator .rightParen :: ks) (closes_of_none rfl ks)
  exact (hinner.bind fun _ => (Cursor.gives_expect .rightParen ks).map _).resume _

end ScriptSteps
