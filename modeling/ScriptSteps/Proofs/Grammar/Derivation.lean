import Mathlib
import ScriptSteps.Grammar
import ScriptSteps.Proofs.Grammar.Cascade
import ScriptSteps.Proofs.Grammar.Crosses

/-!
# The grammar as a relation

The rules of the grammar of expressions, as what tokens each kind of phrase is made of. Where a
place asks for an expression of some level, it takes one that binds at least as tightly, or any
expression in parentheses. The callee of `new` is a place of the level `new`: it takes no calls.

Whatever a rule reads is a phrase of this grammar. The relation says nothing of lines.

## Main definitions

* `Entry`: what stands between the commas of a list
* `Phrase`: an expression in a place, an entry, or a list of entries
* `Derives`: the tokens that a phrase is made of

## Main statements

* `Grammar.expression_derives`: what is read as an expression is a phrase of the grammar
* `Grammar.derives_of_parseExpression`: and so is a text that is read as one to its end
-/

namespace ScriptSteps

/-! ## Phrases -/

/-- What stands between the commas of a list: an expression, nothing at all, or a key with an
expression. -/
inductive Entry where
  | hole
  | item (e : Expression)
  | property (key : PropertyKey) (value : Expression)

/-- An element of an array as an entry. -/
def Entry.ofElement : Option Expression → Entry
  | none => hole
  | some e => item e

/-- A property of an object as an entry. -/
def Entry.ofProperty (property : PropertyKey × Expression) : Entry :=
  .property property.1 property.2

/-- An expression in a place that asks for a level, an entry, or the entries of a list, which may
be empty or end with a comma if `trailing` is set. -/
inductive Phrase where
  | expression (l : Level) (e : Expression)
  | entry (entry : Entry)
  | entries (trailing : Bool) (entries : List Entry)

/-- The token of a key. -/
def PropertyKey.IsToken : PropertyKey → TokenKind → Prop
  | identifier id, k => k = .identifier id.name
  | literal (.string value), k => k = .string value
  | literal (.number value), k => k = .number value
  | literal (.boolean _), _ | literal .null, _ => False

/-- The tokens that a phrase is made of. -/
inductive Derives : Phrase → List TokenKind → Prop
  | literal {l k value} : Grammar.literalOf? k = some value →
      Derives (.expression l (.literal value)) [k]
  | identifier {l} (id : Identifier) :
      Derives (.expression l (.identifier id)) [.identifier id.name]
  | this {l} : Derives (.expression l .this) [.keyword .this]
  | parens {l e ts} : Derives (.expression .sequence e) ts →
      Derives (.expression l e) (.punctuator .leftParen :: (ts ++ [.punctuator .rightParen]))
  | array {l elements ts} : Derives (.entries true (elements.map .ofElement)) ts →
      Derives (.expression l (.array elements))
        (.punctuator .leftBracket :: (ts ++ [.punctuator .rightBracket]))
  | object {l properties ts} : Derives (.entries true (properties.map .ofProperty)) ts →
      Derives (.expression l (.object properties))
        (.punctuator .leftBrace :: (ts ++ [.punctuator .rightBrace]))
  | binary {l m k operator x y xs ys} : BinaryOperator.ofKind? k = some operator →
      l ≤ operator.level → operator.level < m →
      Derives (.expression operator.level x) xs → Derives (.expression m y) ys →
      Derives (.expression l (.binary operator x y)) (xs ++ k :: ys)
  | exponent {l x y xs ys} : l ≤ .exponent → (∀ k ∈ xs.head?, UnaryOperator.ofKind? k = none) →
      Derives (.expression .unary x) xs → Derives (.expression .exponent y) ys →
      Derives (.expression l (.binary .exponent x y)) (xs ++ .punctuator .starStar :: ys)
  | unary {l k operator x xs} : UnaryOperator.ofKind? k = some operator → l ≤ .unary →
      Derives (.expression .unary x) xs → Derives (.expression l (.unary operator x)) (k :: xs)
  | updateBefore {l k operator x xs line} : UpdateOperator.ofKind? k = some operator →
      l ≤ .unary → x.isTarget = true → Derives (.expression .unary x) xs →
      Derives (.expression l (.update operator x true line)) (k :: xs)
  | updateAfter {l k operator x xs line} : UpdateOperator.ofKind? k = some operator →
      l ≤ .postfix_ → x.isTarget = true → Derives (.expression .call x) xs →
      Derives (.expression l (.update operator x false line)) (xs ++ [k])
  | assignment {l k operator x y xs ys line} : AssignmentOperator.ofKind? k = some operator →
      l ≤ .assignment → x.isTarget = true →
      Derives (.expression .conditional x) xs → Derives (.expression .assignment y) ys →
      Derives (.expression l (.assignment operator x y line)) (xs ++ k :: ys)
  | conditional {l x y z xs ys zs} : l ≤ .conditional → Derives (.expression .coalesce x) xs →
      Derives (.expression .assignment y) ys → Derives (.expression .assignment z) zs →
      Derives (.expression l (.conditional x y z))
        (xs ++ .punctuator .question :: (ys ++ .punctuator .colon :: zs))
  | call {l x arguments xs ys} : l ≤ .call → Derives (.expression .call x) xs →
      Derives (.entries true (arguments.map .item)) ys →
      Derives (.expression l (.call x arguments))
        (xs ++ .punctuator .leftParen :: (ys ++ [.punctuator .rightParen]))
  | member {l m x xs} {property : Identifier} : l ≤ m → m ≤ .new → .call ≤ m →
      Derives (.expression m x) xs →
      Derives (.expression l (.member x property))
        (xs ++ [.punctuator .dot, .identifier property.name])
  | index {l m x y xs ys} : l ≤ m → m ≤ .new → .call ≤ m → Derives (.expression m x) xs →
      Derives (.expression .sequence y) ys →
      Derives (.expression l (.index x y))
        (xs ++ .punctuator .leftBracket :: (ys ++ [.punctuator .rightBracket]))
  | new {l x arguments xs ys} : l ≤ .new → Derives (.expression .new x) xs →
      Derives (.entries true (arguments.map .item)) ys →
      Derives (.expression l (.new x arguments))
        (.keyword .new :: (xs ++ .punctuator .leftParen :: (ys ++ [.punctuator .rightParen])))
  | newBare {l x xs} : l ≤ .new → Derives (.expression .new x) xs →
      Derives (.expression l (.new x [])) (.keyword .new :: xs)
  | sequence {l items ts} : l ≤ .sequence → 2 ≤ items.length →
      Derives (.entries false (items.map .item)) ts →
      Derives (.expression l (.sequence items)) ts
  | hole : Derives (.entry .hole) []
  | item {e xs} : Derives (.expression .assignment e) xs → Derives (.entry (.item e)) xs
  | property {key k e xs} : key.IsToken k → Derives (.expression .assignment e) xs →
      Derives (.entry (.property key e)) (k :: .punctuator .colon :: xs)
  | nil : Derives (.entries true []) []
  | last {trailing entry xs} : entry ≠ .hole → Derives (.entry entry) xs →
      Derives (.entries trailing [entry]) xs
  | cons {trailing entry entries xs ys} : Derives (.entry entry) xs →
      Derives (.entries trailing entries) ys →
      Derives (.entries trailing (entry :: entries)) (xs ++ .punctuator .comma :: ys)

/-- A place takes what a place of a tighter level takes. -/
theorem Derives.loosen {l m : Level} {e : Expression} {ts : List TokenKind}
    (h : Derives (.expression m e) ts) (hle : l ≤ m) : Derives (.expression l e) ts := by
  cases h with
  | literal hk => exact .literal hk
  | identifier id => exact .identifier id
  | this => exact .this
  | parens h => exact .parens h
  | array h => exact .array h
  | object h => exact .object h
  | binary hk hl hm hx hy => exact .binary hk (hle.trans hl) hm hx hy
  | exponent hl hhead hx hy => exact .exponent (hle.trans hl) hhead hx hy
  | unary hk hl hx => exact .unary hk (hle.trans hl) hx
  | updateBefore hk hl htarget hx => exact .updateBefore hk (hle.trans hl) htarget hx
  | updateAfter hk hl htarget hx => exact .updateAfter hk (hle.trans hl) htarget hx
  | assignment hk hl htarget hx hy => exact .assignment hk (hle.trans hl) htarget hx hy
  | conditional hl hx hy hz => exact .conditional (hle.trans hl) hx hy hz
  | call hl hx hys => exact .call (hle.trans hl) hx hys
  | member hl hnew hcall hx => exact .member (hle.trans hl) hnew hcall hx
  | index hl hnew hcall hx hy => exact .index (hle.trans hl) hnew hcall hx hy
  | new hl hx hys => exact .new (hle.trans hl) hx hys
  | newBare hl hx => exact .newBare (hle.trans hl) hx
  | sequence hl hlength h => exact .sequence (hle.trans hl) hlength h

/-! ## Tokens taken -/

namespace Cursor

variable {c d e : Cursor} {xs ys : List TokenKind}

/-- The second cursor comes after the first and tokens of the given kinds. -/
def Takes (c : Cursor) (kinds : List TokenKind) (d : Cursor) : Prop := c.Crosses (· = kinds) d

theorem Takes.trans (h : c.Takes xs d) (h' : d.Takes ys e) : c.Takes (xs ++ ys) e :=
  Crosses.trans h h' (by rintro _ _ rfl rfl; rfl)

theorem takes_nil (c : Cursor) : c.Takes [] c := .refl rfl

/-- The first token taken is the next one. -/
theorem Takes.kind_eq {k : TokenKind} (h : c.Takes xs d) (hk : k ∈ xs.head?) : c.kind = k := by
  obtain ⟨used, hpasses, rfl⟩ := h
  cases used with
  | nil => cases hk
  | cons t used =>
    obtain rfl := Option.some.inj hk
    rw [kind, hpasses.terminals]
    rfl

theorem takes_of_expect {sign : Punctuator} {value : Unit} (h : (c.expect sign).Gives value d) :
    c.Takes [.punctuator sign] d := by
  obtain ⟨_, h⟩ := h
  have hcrosses := c.expect_crosses sign
  rw [h] at hcrosses
  exact hcrosses

theorem takes_of_expectName {id : Identifier} (h : c.expectName.Gives id d) :
    c.Takes [.identifier id.name] d := by
  obtain ⟨_, h⟩ := h
  unfold expectName at h
  split at h
  · next found d' hd heat =>
    obtain ⟨rfl, rfl⟩ := Parsed.ok.inj h
    obtain ⟨k, hk, hcrosses⟩ := crosses_of_take? heat
    split at hk
    · obtain rfl := Option.some.inj hk
      exact hcrosses
    · cases hk
  · cases h

end Cursor

/-- No rule that fails gives anything. -/
theorem Parsed.not_gives_error {α : Type} {n : ℕ} {cause : Error} {stop rest : Cursor}
    {value : α} : ¬(error cause stop : Parsed α n).Gives value rest := by
  rintro ⟨_, h⟩
  cases h

/-! ## What the rules read -/

namespace Grammar

theorem propertyKey_takes {c d : Cursor} {key : PropertyKey} (h : (propertyKey c).Gives key d) :
    ∃ k, key.IsToken k ∧ c.Takes [k] d := by
  unfold propertyKey at h
  split at h
  · next value d' hd hnext =>
    obtain ⟨rfl, rfl⟩ := h.unique (Parsed.gives_ok _ _ _)
    exact ⟨_, rfl, Cursor.crosses_of_next? hnext⟩
  · next value d' hd hnext =>
    obtain ⟨rfl, rfl⟩ := h.unique (Parsed.gives_ok _ _ _)
    exact ⟨_, rfl, Cursor.crosses_of_next? hnext⟩
  · obtain ⟨id, hid, rfl⟩ := h.of_map
    exact ⟨_, rfl, Cursor.takes_of_expectName hid⟩

/-- The level of the place that the object of an access is read in. -/
def suffixLevel (calls : Bool) : Level := if calls then .call else .new

theorem call_le_suffixLevel (calls : Bool) : .call ≤ suffixLevel calls := by cases calls <;> decide

theorem suffixLevel_le_new (calls : Bool) : suffixLevel calls ≤ .new := by cases calls <;> decide

mutual

theorem expression_derives {c d : Cursor} {e : Expression} (h : (expression c).Gives e d) :
    ∃ ts, c.Takes ts d ∧ Derives (.expression .sequence e) ts := by
  rw [expression] at h
  obtain ⟨first, c₁, hfirst, _, h⟩ := h.of_bindLoose
  obtain ⟨rest, hrest, rfl⟩ := h.of_map
  obtain ⟨xs, hxs, hx⟩ := assignment_derives hfirst
  obtain ⟨rfl, rfl⟩ | ⟨ys, hys, hy⟩ := sequenceRest_derives hrest
  · exact ⟨xs, hxs, hx.loosen (by decide)⟩
  · cases rest with
    | nil => cases hy
    | cons second rest => exact ⟨_, hxs.trans hys, .sequence le_rfl (by simp) (.cons (.item hx) hy)⟩
termination_by 16 * c.size + 10
decreasing_by all_goals omega

theorem sequenceRest_derives {c d : Cursor} {items : List Expression}
    (h : (sequenceRest c).Gives items d) :
    (items = [] ∧ d = c) ∨ ∃ ts, c.Takes (.punctuator .comma :: ts) d ∧
      Derives (.entries false (items.map .item)) ts := by
  rw [sequenceRest] at h
  split at h
  · exact .inl h.of_done
  · next c₁ h₁ heat =>
    have hcomma : c.Takes [.punctuator .comma] c₁ := Cursor.crosses_of_eatKind? heat
    obtain ⟨item, c₂, hitem, _, h⟩ := h.of_widen.of_widen.of_bindLoose
    obtain ⟨rest, hrest, rfl⟩ := h.of_map
    obtain ⟨xs, hxs, hx⟩ := assignment_derives hitem
    obtain ⟨rfl, rfl⟩ | ⟨ys, hys, hy⟩ := sequenceRest_derives hrest
    · exact .inr ⟨xs, hcomma.trans hxs, .last (by simp) (.item hx)⟩
    · exact .inr ⟨_, hcomma.trans (hxs.trans hys), .cons (.item hx) hy⟩
termination_by 16 * c.size
decreasing_by all_goals omega

theorem assignment_derives {c d : Cursor} {e : Expression} (h : (assignment c).Gives e d) :
    ∃ ts, c.Takes ts d ∧ Derives (.expression .assignment e) ts := by
  rw [assignment] at h
  obtain ⟨target, c₁, htarget, _, h⟩ := h.of_bindLoose
  obtain ⟨xs, hxs, hx⟩ := conditional_derives htarget
  split at h
  · obtain ⟨rfl, rfl⟩ := h.of_done
    exact ⟨xs, hxs, hx.loosen (by decide)⟩
  · next operator c₂ h₂ htake =>
    obtain ⟨k, hk, hoperator⟩ := Cursor.crosses_of_take? htake
    split at h
    · next hassigned =>
      obtain ⟨value, hvalue, rfl⟩ := h.of_widen.of_widen.of_map
      obtain ⟨ys, hys, hy⟩ := assignment_derives hvalue
      have htaken : c.Takes (xs ++ k :: ys) d := hxs.trans (Cursor.Takes.trans hoperator hys)
      exact ⟨_, htaken, .assignment hk le_rfl hassigned hx hy⟩
    · exact (Parsed.not_gives_error h).elim
termination_by 16 * c.size + 9
decreasing_by all_goals omega

theorem conditional_derives {c d : Cursor} {e : Expression} (h : (conditional c).Gives e d) :
    ∃ ts, c.Takes ts d ∧ Derives (.expression .conditional e) ts := by
  rw [conditional] at h
  obtain ⟨test, c₁, htest, _, h⟩ := h.of_bindLoose
  obtain ⟨l, hl, xs, hxs, hx⟩ := binary_derives (by decide) htest
  split at h
  · obtain ⟨rfl, rfl⟩ := h.of_done
    exact ⟨xs, hxs, hx.loosen hl.le⟩
  · next c₂ h₂ heat =>
    have hquestion : c₁.Takes [.punctuator .question] c₂ := Cursor.crosses_of_eatKind? heat
    obtain ⟨consequent, c₃, hconsequent, _, h⟩ := h.of_widen.of_widen.of_bind
    obtain ⟨_, c₄, hcolon, _, h⟩ := h.of_bind
    obtain ⟨alternate, halternate, rfl⟩ := h.of_map
    obtain ⟨ys, hys, hy⟩ := assignment_derives hconsequent
    obtain ⟨zs, hzs, hz⟩ := assignment_derives halternate
    have hbranches := hys.trans ((Cursor.takes_of_expect hcolon).trans hzs)
    exact ⟨_, hxs.trans (hquestion.trans hbranches),
      .conditional le_rfl (hx.loosen (Level.next_le rfl hl)) hy hz⟩
termination_by 16 * c.size + 8
decreasing_by all_goals omega

theorem binary_derives {floor : Level} {c d : Cursor} {e : Expression} (hfloor : floor < .exponent)
    (h : (binary floor c).Gives e d) :
    ∃ l, floor < l ∧ ∃ ts, c.Takes ts d ∧ Derives (.expression l e) ts := by
  rw [binary] at h
  obtain ⟨left, c₁, hleft, _, h⟩ := h.of_bindLoose
  obtain ⟨xs, hxs, hx⟩ := exponent_derives hleft
  obtain ⟨l, hl, ts, hts, hderives⟩ :=
    binaryRest_derives hfloor (c₁.settles_multiplicative.mono (by decide)) hx h
  exact ⟨l, hl, xs ++ ts, hxs.trans hts, hderives⟩
termination_by 16 * c.size + 7
decreasing_by all_goals omega

/-- The operator that comes next binds no tighter than the operand before it, so the operand keeps
its place on the left. -/
theorem binaryRest_derives {floor l : Level} {left e : Expression} {c d : Cursor}
    {xs : List TokenKind} (hfloor : floor < l) (hsettles : c.Settles l)
    (hleft : Derives (.expression l left) xs) (h : (binaryRest floor left c).Gives e d) :
    ∃ l, floor < l ∧ ∃ ts, c.Takes ts d ∧ Derives (.expression l e) (xs ++ ts) := by
  by_cases hdone : c.Settles floor
  · rw [binaryRest_of_settles hdone] at h
    obtain ⟨rfl, rfl⟩ := h.of_done
    exact ⟨l, hfloor, [], Cursor.takes_nil _, by rwa [List.append_nil]⟩
  · obtain ⟨operator, later, htake, hlt⟩ := Cursor.exists_of_not_settles hdone
    have hlater := later.2
    rw [binaryRest_of_lt htake hlt] at h
    obtain ⟨right, c₂, hright, _, h⟩ := h.of_widen.of_widen.of_bindLoose
    obtain ⟨k, hk, hoperator⟩ := Cursor.crosses_of_take? htake
    have htight := (BinaryOperator.level_le_of_ofKind? hk).trans_lt
      (by decide : Level.multiplicative < .exponent)
    obtain ⟨m, hm, ys, hys, hy⟩ := binary_derives htight hright
    have hwhole : Derives (.expression operator.level (.binary operator left right))
        (xs ++ k :: ys) :=
      .binary hk le_rfl hm (hleft.loosen (hsettles operator _ htake)) hy
    obtain ⟨n, hn, zs, hzs, hz⟩ :=
      binaryRest_derives hlt (settles_of_gives_binary hright) hwhole h
    have htaken : c.Takes (k :: ys ++ zs) d :=
      (Cursor.Takes.trans hoperator hys).trans hzs
    exact ⟨n, hn, _, htaken, by simpa using hz⟩
termination_by 16 * c.size
decreasing_by all_goals omega

theorem exponent_derives {c d : Cursor} {e : Expression} (h : (exponent c).Gives e d) :
    ∃ ts, c.Takes ts d ∧ Derives (.expression .exponent e) ts := by
  rw [exponent] at h
  obtain ⟨base, c₁, hbase, _, h⟩ := h.of_bindLoose
  obtain ⟨xs, hxs, hx⟩ := unary_derives hbase
  split at h
  · obtain ⟨rfl, rfl⟩ := h.of_done
    exact ⟨xs, hxs, hx.loosen (by decide)⟩
  · next c₂ h₂ heat =>
    have hsign : c₁.Takes [.punctuator .starStar] c₂ := Cursor.crosses_of_eatKind? heat
    split at h
    · exact (Parsed.not_gives_error h).elim
    · next hplain =>
      obtain ⟨power, hpower, rfl⟩ := h.of_widen.of_widen.of_map
      obtain ⟨ys, hys, hy⟩ := exponent_derives hpower
      have hhead : ∀ k ∈ xs.head?, UnaryOperator.ofKind? k = none := fun k hk => by
        simpa [hxs.kind_eq hk] using hplain
      exact ⟨_, hxs.trans (hsign.trans hys), .exponent le_rfl hhead hx hy⟩
termination_by 16 * c.size + 6
decreasing_by all_goals omega

theorem unary_derives {c d : Cursor} {e : Expression} (h : (unary c).Gives e d) :
    ∃ ts, c.Takes ts d ∧ Derives (.expression .unary e) ts := by
  rw [unary] at h
  split at h
  · next operator c₁ h₁ htake =>
    obtain ⟨k, hk, hoperator⟩ := Cursor.crosses_of_take? htake
    obtain ⟨argument, c₂, hargument, _, h⟩ := h.of_widen.of_bindLoose
    obtain ⟨xs, hxs, hx⟩ := unary_derives hargument
    split at h
    · next htarget =>
      obtain ⟨rfl, rfl⟩ := h.of_done
      exact ⟨_, Cursor.Takes.trans hoperator hxs, .updateBefore hk le_rfl htarget hx⟩
    · exact (Parsed.not_gives_error h).elim
  · split at h
    · next operator c₁ h₁ htake =>
      obtain ⟨k, hk, hoperator⟩ := Cursor.crosses_of_take? htake
      obtain ⟨argument, hargument, rfl⟩ := h.of_widen.of_map
      obtain ⟨xs, hxs, hx⟩ := unary_derives hargument
      exact ⟨_, Cursor.Takes.trans hoperator hxs, .unary hk le_rfl hx⟩
    · obtain ⟨xs, hxs, hx⟩ := postfix_derives h
      exact ⟨xs, hxs, hx.loosen (by decide)⟩
termination_by 16 * c.size + 5
decreasing_by all_goals omega

theorem postfix_derives {c d : Cursor} {e : Expression} (h : (postfix_ c).Gives e d) :
    ∃ ts, c.Takes ts d ∧ Derives (.expression .postfix_ e) ts := by
  rw [postfix_] at h
  obtain ⟨argument, c₁, hargument, _, h⟩ := h.of_bindLoose
  obtain ⟨xs, hxs, hx⟩ := call_derives hargument
  have hplain : ∃ ts, c.Takes ts c₁ ∧ Derives (.expression .postfix_ argument) ts :=
    ⟨xs, hxs, hx.loosen (by decide)⟩
  split at h
  · obtain ⟨rfl, rfl⟩ := h.of_done
    exact hplain
  · next operator c₂ h₂ htake =>
    obtain ⟨k, hk, hoperator⟩ := Cursor.crosses_of_take? htake
    split at h
    · split at h
      · next htarget =>
        obtain ⟨rfl, rfl⟩ := h.of_widen.unique (Parsed.gives_ok _ _ _)
        exact ⟨_, Cursor.Takes.trans hxs hoperator, .updateAfter hk le_rfl htarget hx⟩
      · exact (Parsed.not_gives_error h).elim
    · obtain ⟨rfl, rfl⟩ := h.of_done
      exact hplain
termination_by 16 * c.size + 4
decreasing_by all_goals omega

theorem call_derives {c d : Cursor} {e : Expression} (h : (call c).Gives e d) :
    ∃ ts, c.Takes ts d ∧ Derives (.expression .call e) ts := by
  rw [call] at h
  obtain ⟨callee, c₁, hcallee, _, h⟩ := h.of_bindLoose
  obtain ⟨xs, hxs, hx⟩ := operand_derives hcallee
  obtain ⟨ys, hys, hy⟩ := suffixes_derives (hx.loosen (suffixLevel_le_new true)) h
  exact ⟨_, hxs.trans hys, hy⟩
termination_by 16 * c.size + 3
decreasing_by all_goals omega

theorem operand_derives {c d : Cursor} {e : Expression} (h : (operand c).Gives e d) :
    ∃ ts, c.Takes ts d ∧ Derives (.expression .new e) ts := by
  rw [operand] at h
  split at h
  · obtain ⟨xs, hxs, hx⟩ := primary_derives h
    exact ⟨xs, hxs, hx.loosen (by decide)⟩
  · next c₁ h₁ heat =>
    have hword : c.Takes [.keyword .new] c₁ := Cursor.crosses_of_eatKind? heat
    obtain ⟨inner, c₂, hinner, _, h⟩ := h.of_widen.of_bindLoose
    obtain ⟨callee, c₃, hcallee, _, h⟩ := h.of_bindLoose
    obtain ⟨xs, hxs, hx⟩ := operand_derives hinner
    have hnew : Derives (.expression (suffixLevel false) inner) xs := hx
    obtain ⟨ys, hys, hy⟩ := suffixes_derives hnew hcallee
    have htaken := hword.trans (hxs.trans hys)
    split at h
    · obtain ⟨rfl, rfl⟩ := h.of_done
      exact ⟨_, htaken, .newBare le_rfl hy⟩
    · next c₄ h₄ heat₄ =>
      have hopen : c₃.Takes [.punctuator .leftParen] c₄ := Cursor.crosses_of_eatKind? heat₄
      obtain ⟨items, hitems, rfl⟩ := h.of_widen.of_widen.of_map
      obtain ⟨zs, hzs, hz⟩ := arguments_derives hitems
      exact ⟨_, by simpa using htaken.trans (hopen.trans hzs), .new le_rfl hy hz⟩
termination_by 16 * c.size + 2
decreasing_by all_goals omega

theorem suffixes_derives {calls : Bool} {object e : Expression} {c d : Cursor}
    {xs : List TokenKind} (hobject : Derives (.expression (suffixLevel calls) object) xs)
    (h : (suffixes calls object c).Gives e d) :
    ∃ ts, c.Takes ts d ∧ Derives (.expression (suffixLevel calls) e) (xs ++ ts) := by
  have hdone : ∃ ts, c.Takes ts c ∧ Derives (.expression (suffixLevel calls) object) (xs ++ ts) :=
    ⟨[], c.takes_nil, by rwa [List.append_nil]⟩
  rw [suffixes] at h
  split at h
  · next c₁ h₁ hnext =>
    have hdot : c.Takes [.punctuator .dot] c₁ := Cursor.crosses_of_next? hnext
    obtain ⟨property, c₂, hproperty, _, h⟩ := h.of_widen.of_widen.of_bindLoose
    have hmember : Derives (.expression (suffixLevel calls) (.member object property))
        (xs ++ [TokenKind.punctuator .dot, .identifier property.name]) :=
      .member le_rfl (suffixLevel_le_new calls) (call_le_suffixLevel calls) hobject
    obtain ⟨ts, hts, hderives⟩ := suffixes_derives hmember h
    have hname := (Cursor.takes_of_expectName hproperty).trans hts
    exact ⟨_, hdot.trans hname, by simpa using hderives⟩
  · next c₁ h₁ hnext =>
    have hopen : c.Takes [.punctuator .leftBracket] c₁ := Cursor.crosses_of_next? hnext
    obtain ⟨property, c₂, hproperty, _, h⟩ := h.of_widen.of_widen.of_bind
    obtain ⟨_, c₃, hclose, _, h⟩ := h.of_bindLoose
    obtain ⟨ys, hys, hy⟩ := expression_derives hproperty
    have hindex := Derives.index le_rfl (suffixLevel_le_new calls) (call_le_suffixLevel calls)
      hobject hy
    obtain ⟨ts, hts, hderives⟩ := suffixes_derives hindex h
    have hbracket := hys.trans ((Cursor.takes_of_expect hclose).trans hts)
    exact ⟨_, hopen.trans hbracket, by simpa using hderives⟩
  · next c₁ h₁ hnext =>
    have hopen : c.Takes [.punctuator .leftParen] c₁ := Cursor.crosses_of_next? hnext
    cases calls with
    | false =>
      obtain ⟨rfl, rfl⟩ := h.of_done
      exact hdone
    | true =>
      rw [if_pos rfl] at h
      obtain ⟨items, c₂, hitems, _, h⟩ := h.of_widen.of_widen.of_bindLoose
      obtain ⟨ys, hys, hy⟩ := arguments_derives hitems
      have hcall : Derives (.expression (suffixLevel true) (.call object items))
          (xs ++ .punctuator .leftParen :: (ys ++ [TokenKind.punctuator .rightParen])) :=
        .call le_rfl hobject hy
      obtain ⟨ts, hts, hderives⟩ := suffixes_derives hcall h
      exact ⟨_, hopen.trans (hys.trans hts), by simpa using hderives⟩
  · obtain ⟨rfl, rfl⟩ := h.of_done
    exact hdone
termination_by 16 * c.size
decreasing_by all_goals omega

theorem arguments_derives {c d : Cursor} {items : List Expression}
    (h : (arguments c).Gives items d) :
    ∃ ts, c.Takes (ts ++ [TokenKind.punctuator .rightParen]) d ∧
      Derives (.entries true (items.map .item)) ts := by
  rw [arguments] at h
  split at h
  · next c₁ h₁ heat =>
    obtain ⟨rfl, rfl⟩ := h.unique (Parsed.gives_ok _ _ _)
    exact ⟨[], Cursor.crosses_of_eatKind? heat, .nil⟩
  · obtain ⟨item, c₁, hitem, _, h⟩ := h.of_bind
    obtain ⟨xs, hxs, hx⟩ := assignment_derives hitem
    split at h
    · next c₂ h₂ heat =>
      have hcomma : c₁.Takes [.punctuator .comma] c₂ := Cursor.crosses_of_eatKind? heat
      obtain ⟨rest, hrest, rfl⟩ := h.of_widen.of_map
      obtain ⟨ys, hys, hy⟩ := arguments_derives hrest
      exact ⟨_, by simpa using hxs.trans (hcomma.trans hys), .cons (.item hx) hy⟩
    · obtain ⟨_, hclose, rfl⟩ := h.of_map
      exact ⟨xs, hxs.trans (Cursor.takes_of_expect hclose), .last (by simp) (.item hx)⟩
termination_by 16 * c.size + 10
decreasing_by all_goals omega

theorem primary_derives {c d : Cursor} {e : Expression} (h : (primary c).Gives e d) :
    ∃ ts, c.Takes ts d ∧ Derives (.expression .primary e) ts := by
  rw [primary] at h
  split at h
  · next value c₁ h₁ htake =>
    obtain ⟨k, hk, hliteral⟩ := Cursor.crosses_of_take? htake
    obtain ⟨rfl, rfl⟩ := h.unique (Parsed.gives_ok _ _ _)
    exact ⟨_, hliteral, .literal hk⟩
  · split at h
    · next name c₁ h₁ hnext =>
      obtain ⟨rfl, rfl⟩ := h.unique (Parsed.gives_ok _ _ _)
      exact ⟨_, Cursor.crosses_of_next? hnext, .identifier ⟨name, c.line⟩⟩
    · next c₁ h₁ hnext =>
      obtain ⟨rfl, rfl⟩ := h.unique (Parsed.gives_ok _ _ _)
      exact ⟨_, Cursor.crosses_of_next? hnext, .this⟩
    · next c₁ h₁ hnext =>
      have hopen : c.Takes [.punctuator .leftParen] c₁ := Cursor.crosses_of_next? hnext
      obtain ⟨inner, c₂, hinner, _, h⟩ := h.of_widen.of_bind
      obtain ⟨_, hclose, rfl⟩ := h.of_map
      obtain ⟨xs, hxs, hx⟩ := expression_derives hinner
      exact ⟨_, hopen.trans (hxs.trans (Cursor.takes_of_expect hclose)), .parens hx⟩
    · next c₁ h₁ hnext =>
      have hopen : c.Takes [.punctuator .leftBracket] c₁ := Cursor.crosses_of_next? hnext
      obtain ⟨items, hitems, rfl⟩ := h.of_widen.of_map
      obtain ⟨xs, hxs, hx⟩ := elements_derives hitems
      exact ⟨_, hopen.trans hxs, .array hx⟩
    · next c₁ h₁ hnext =>
      have hopen : c.Takes [.punctuator .leftBrace] c₁ := Cursor.crosses_of_next? hnext
      obtain ⟨items, hitems, rfl⟩ := h.of_widen.of_map
      obtain ⟨xs, hxs, hx⟩ := properties_derives hitems
      exact ⟨_, hopen.trans hxs, .object hx⟩
    · exact (Parsed.not_gives_error h).elim
    · exact (Parsed.not_gives_error h).elim
    · exact (Parsed.not_gives_error h).elim
termination_by 16 * c.size + 1
decreasing_by all_goals omega

theorem elements_derives {c d : Cursor} {items : List (Option Expression)}
    (h : (elements c).Gives items d) :
    ∃ ts, c.Takes (ts ++ [TokenKind.punctuator .rightBracket]) d ∧
      Derives (.entries true (items.map .ofElement)) ts := by
  rw [elements] at h
  split at h
  · next c₁ h₁ heat =>
    obtain ⟨rfl, rfl⟩ := h.unique (Parsed.gives_ok _ _ _)
    exact ⟨[], Cursor.crosses_of_eatKind? heat, .nil⟩
  · split at h
    · next c₁ h₁ heat =>
      have hcomma : c.Takes [.punctuator .comma] c₁ := Cursor.crosses_of_eatKind? heat
      obtain ⟨rest, hrest, rfl⟩ := h.of_widen.of_map
      obtain ⟨ys, hys, hy⟩ := elements_derives hrest
      have htaken : c.Takes (.punctuator .comma :: ys ++ [TokenKind.punctuator .rightBracket]) d :=
        hcomma.trans hys
      exact ⟨_, htaken, .cons .hole hy⟩
    · obtain ⟨item, c₁, hitem, _, h⟩ := h.of_bind
      obtain ⟨xs, hxs, hx⟩ := assignment_derives hitem
      split at h
      · next c₂ h₂ heat =>
        have hclose : c₁.Takes [.punctuator .rightBracket] c₂ := Cursor.crosses_of_eatKind? heat
        obtain ⟨rfl, rfl⟩ := h.unique (Parsed.gives_ok _ _ _)
        exact ⟨xs, hxs.trans hclose, .last (by simp [Entry.ofElement]) (.item hx)⟩
      · obtain ⟨_, c₂, hcomma, _, h⟩ := h.of_bind
        obtain ⟨rest, hrest, rfl⟩ := h.of_map
        obtain ⟨ys, hys, hy⟩ := elements_derives hrest
        have htaken := hxs.trans ((Cursor.takes_of_expect hcomma).trans hys)
        exact ⟨_, by simpa using htaken, .cons (.item hx) hy⟩
termination_by 16 * c.size + 10
decreasing_by all_goals omega

theorem properties_derives {c d : Cursor} {items : List (PropertyKey × Expression)}
    (h : (properties c).Gives items d) :
    ∃ ts, c.Takes (ts ++ [TokenKind.punctuator .rightBrace]) d ∧
      Derives (.entries true (items.map .ofProperty)) ts := by
  rw [properties] at h
  split at h
  · next c₁ h₁ heat =>
    obtain ⟨rfl, rfl⟩ := h.unique (Parsed.gives_ok _ _ _)
    exact ⟨[], Cursor.crosses_of_eatKind? heat, .nil⟩
  · obtain ⟨key, c₁, hkey, _, h⟩ := h.of_bind
    obtain ⟨_, c₂, hcolon, _, h⟩ := h.of_bind
    obtain ⟨value, c₃, hvalue, _, h⟩ := h.of_bind
    obtain ⟨k, hk, htoken⟩ := propertyKey_takes hkey
    obtain ⟨xs, hxs, hx⟩ := assignment_derives hvalue
    have hproperty := htoken.trans ((Cursor.takes_of_expect hcolon).trans hxs)
    split at h
    · next c₄ h₄ heat =>
      have hclose : c₃.Takes [.punctuator .rightBrace] c₄ := Cursor.crosses_of_eatKind? heat
      obtain ⟨rfl, rfl⟩ := h.unique (Parsed.gives_ok _ _ _)
      exact ⟨_, hproperty.trans hclose, .last (by simp [Entry.ofProperty]) (.property hk hx)⟩
    · obtain ⟨_, c₄, hcomma, _, h⟩ := h.of_bind
      obtain ⟨rest, hrest, rfl⟩ := h.of_map
      obtain ⟨ys, hys, hy⟩ := properties_derives hrest
      have htaken := hproperty.trans ((Cursor.takes_of_expect hcomma).trans hys)
      exact ⟨_, by simpa using htaken, .cons (.property hk hx) hy⟩
termination_by 16 * c.size + 10
decreasing_by all_goals omega

end

/-- A text that is read to its end as an expression is made of the tokens of that expression. -/
theorem derives_of_parseExpression {source : String} {e : Expression}
    (hparse : parseExpression source = .ok e)
    (hall : (expression (.ofSource source)).cursor.terminals = []) :
    Derives (.expression .sequence e) (kindsOf source.toList) := by
  unfold parseExpression at hparse
  cases hresult : expression (.ofSource source) with
  | error cause stop => simp [hresult, Parsed.toExcept] at hparse
  | ok value rest fewer =>
    rw [hresult] at hparse hall
    obtain rfl : value = e := Except.ok.inj hparse
    obtain ⟨ts, ⟨used, hpasses, rfl⟩, hderives⟩ := expression_derives ⟨fewer, hresult⟩
    have hrest : rest.terminals = [] := hall
    have hused : used = (Cursor.ofSource source).terminals := by
      rw [hpasses.terminals, hrest, List.append_nil]
    have hkinds : used.map Terminal.kind = kindsOf source.toList := by
      rw [hused, kindsOf, Cursor.ofSource, List.map_map]
      rfl
    rwa [hkinds] at hderives

end Grammar

end ScriptSteps
