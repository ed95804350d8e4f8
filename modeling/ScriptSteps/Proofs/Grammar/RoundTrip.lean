import Mathlib
import ScriptSteps.Grammar
import ScriptSteps.Proofs.Grammar.Reads
import ScriptSteps.Proofs.Grammar.WellShaped
import ScriptSteps.Proofs.Tree.Written

/-!
# Written expressions are read back

The tokens of a well-formed expression are read as that expression: parentheses stand wherever the
levels of the grammar would group the parts differently, and nowhere does the token after a part go
on with it. Together with the cutting of the text into tokens this gives the expression back from
its text.

## Main statements

* `Expression.reads`: the tokens of an expression are read at its level
* `parseExpression_render`: the text of an expression is read as that expression, to its end
-/

namespace ScriptSteps

open Grammar

/-! ## First tokens -/

/-- Whether a token ends an item of a list. -/
def TokenKind.endsItem (k : TokenKind) : Bool :=
  k == .punctuator .comma || k == .punctuator .rightParen || k == .punctuator .rightBracket

theorem startsWith_parenthesizeIf {p : TokenKind → Prop} {ts : List TokenKind} {needed : Bool}
    (hparen : p (.punctuator .leftParen)) (h : needed = false → StartsWith p ts) :
    StartsWith p (parenthesizeKindsIf needed ts) := by
  cases needed with
  | false => exact h rfl
  | true => exact ⟨_, rfl, hparen⟩

theorem call_le_of_isBeforeDot {e : Expression} (h : e.isBeforeDot = true) : .call ≤ e.level := by
  unfold Expression.isBeforeDot at h
  split at h
  · exact (by decide : Level.call ≤ .primary)
  · exact of_decide_eq_true h

theorem Literal.startsWith_kind (value : Literal) :
    value.kind.endsItem = false ∧ value.kind.isPrefix = false := by
  cases value with
  | number value =>
    rw [Literal.kind, numberKind]
    split <;> exact ⟨rfl, rfl⟩
  | boolean value => cases value <;> exact ⟨rfl, rfl⟩
  | string value => exact ⟨rfl, rfl⟩
  | null => exact ⟨rfl, rfl⟩

/-- The property of the first tokens of expressions of a level. -/
def Level.starts (l : Level) (k : TokenKind) : Prop :=
  k.endsItem = false ∧ (.postfix_ ≤ l → k.isPrefix = false)

theorem Level.starts_mono {l m : Level} (h : .postfix_ ≤ m → .postfix_ ≤ l) {k : TokenKind}
    (hk : l.starts k) : m.starts k := ⟨hk.1, fun hm => hk.2 (h hm)⟩

/-- No expression starts as the end of an item does, and only those of the looser levels start with
an operator. -/
theorem Expression.startsWith_kinds (e : Expression) (h : e.Fits .written) :
    StartsWith e.level.starts e.kinds := by
  -- The first part of a tight expression is tight itself or in parentheses.
  have hpart : ∀ {part : Expression} {needed : Bool} {l : Level},
      StartsWith part.level.starts part.kinds →
      (needed = false → .postfix_ ≤ l → .postfix_ ≤ part.level) →
      StartsWith l.starts (parenthesizeKindsIf needed part.kinds) := by
    intro part needed l hstarts hlevel
    refine startsWith_parenthesizeIf ⟨rfl, fun _ => rfl⟩ fun hneeded => ?_
    exact hstarts.mono fun k hk => Level.starts_mono (hlevel hneeded) hk
  induction e using Expression.induction with
  | literal value => exact ⟨_, rfl, value.startsWith_kind.1, fun _ => value.startsWith_kind.2⟩
  | identifier id => exact ⟨_, rfl, rfl, fun _ => rfl⟩
  | this => exact ⟨_, rfl, rfl, fun _ => rfl⟩
  | array elements _ => exact ⟨_, rfl, rfl, fun _ => rfl⟩
  | object properties _ => exact ⟨_, rfl, rfl, fun _ => rfl⟩
  | binary operator left right ihleft _ =>
    refine (hpart (ihleft h.1) fun _ hl => absurd hl ?_).append _
    exact not_le.2 (operator.level_le_exponent.trans_lt (by decide))
  | unary operator argument _ =>
    exact ⟨_, rfl, by cases operator <;> decide,
      fun hl => absurd hl (by decide : ¬Level.postfix_ ≤ .unary)⟩
  | assignment operator left right line ihleft _ =>
    refine (StartsWith.append ((ihleft h.2.1).mono fun k hk => ?_) _)
    exact Level.starts_mono (fun hl => absurd hl (by decide : ¬Level.postfix_ ≤ .assignment)) hk
  | call callee arguments ihcallee _ =>
    refine (hpart (ihcallee h.1) fun hneeded _ => ?_).append _
    exact (not_lt.1 (of_decide_eq_false hneeded)).trans' (by decide)
  | member object property ih =>
    refine (hpart (ih h.1) fun hneeded _ => ?_).append _
    exact (call_le_of_isBeforeDot (by simpa using hneeded)).trans' (by decide)
  | index object property ihobject _ =>
    refine (hpart (ihobject h.1) fun hneeded _ => ?_).append _
    exact (call_le_of_isBeforeDot (by simpa using hneeded)).trans' (by decide)
  | conditional test consequent alternate ihtest _ _ =>
    exact (hpart (ihtest h.1) fun _ hl =>
      absurd hl (by decide : ¬Level.postfix_ ≤ .conditional)).append _
  | new callee arguments _ _ => exact ⟨_, rfl, rfl, fun _ => rfl⟩
  | update operator argument isPrefix line ih =>
    cases isPrefix with
    | true =>
      exact ⟨_, rfl, by cases operator <;> decide,
      fun hl => absurd hl (by decide : ¬Level.postfix_ ≤ .unary)⟩
    | false =>
      refine (hpart (ih h.2.1) fun hneeded _ => ?_).append _
      exact not_lt.1 (of_decide_eq_false hneeded)
  | sequence expressions ih =>
    obtain ⟨hlength, hitems⟩ := h
    match expressions, hlength with
    | first :: second :: rest, _ =>
      have hfirst := ih first (by simp) (itemsFit_iff.1 hitems first (by simp))
      exact (hpart hfirst fun _ hl =>
        absurd hl (by decide : ¬Level.postfix_ ≤ .sequence)).append _

/-! ## Lists -/

/-- The tokens are read as an item of a list. -/
structure ReadsItem (ts : List TokenKind) (v : Expression) : Prop where
  starts : StartsWith (fun k => k.endsItem = false) ts
  reads : ReadBy Grammar.assignment .assignment ts v

section Lists

variable {ts ks : List TokenKind} {v : Expression} {lists : List (List TokenKind)}

theorem ReadsItem.eat?_eq_none (h : ReadsItem ts v) {p : Punctuator}
    (hp : (TokenKind.punctuator p).endsItem = true) (more : List TokenKind) :
    (Cursor.flat (ts ++ more)).eat? p = none := by
  refine Cursor.eat?_flat_eq_none fun k hk => ?_
  rintro rfl
  rw [(h.starts.append more).forall_head _ hk] at hp
  exact absurd hp (by decide)

theorem closes_assignment_of_endsItem {k : TokenKind} (h : k.endsItem = true) :
    Closes .assignment (k :: ks) := by
  simp only [TokenKind.endsItem, Bool.or_eq_true, beq_iff_eq] at h
  rcases h with (rfl | rfl) | rfl <;> exact closes_cons (by decide) ks

theorem gives_arguments {values : List Expression} (h : List.Forall₂ ReadsItem lists values)
    (ks : List TokenKind) :
    (arguments (.flat (commaSeparatedKinds lists ++ .punctuator .rightParen :: ks))).Gives values
      (.flat ks) := by
  induction h with
  | nil =>
    rw [arguments, commaSeparatedKinds, List.nil_append, Cursor.eat?_flat_cons]
    exact Parsed.gives_ok _ _ _
  | cons hitem hitems ih =>
    cases hitems with
    | nil =>
      rw [commaSeparatedKinds, arguments, hitem.eat?_eq_none rfl]
      refine (hitem.reads _ (closes_assignment_of_endsItem rfl)).bind fun _ => ?_
      rw [Cursor.eat?_flat_eq_none (by simp)]
      exact (Cursor.gives_expect .rightParen ks).map _
    | cons hnext hrest =>
      rw [commaSeparatedKinds, List.append_assoc, List.cons_append, arguments,
        hitem.eat?_eq_none rfl]
      · refine (hitem.reads _ (closes_assignment_of_endsItem rfl)).bind fun _ => ?_
        rw [Cursor.eat?_flat_cons]
        exact (ih.map _).resume _
      · simp

/-- The tokens are read as an element of an array; there are none for one left out. -/
def ReadsElement (ts : List TokenKind) : Option Expression → Prop
  | none => ts = []
  | some v => ReadsItem ts v

theorem gives_elements {values : List (Option Expression)}
    (h : List.Forall₂ ReadsElement lists values) (ks : List TokenKind) :
    (elements (.flat (commaSeparatedKinds lists
      ++ (holeKinds values ++ .punctuator .rightBracket :: ks)))).Gives values (.flat ks) := by
  induction h with
  | nil =>
    rw [elements, commaSeparatedKinds, List.nil_append, holeKinds, List.getLast?_nil,
      List.nil_append, Cursor.eat?_flat_cons]
    exact Parsed.gives_ok _ _ _
  | @cons ts value lists values helement helements ih =>
    cases value with
    | none =>
      obtain rfl : ts = [] := helement
      -- A hole is a comma, the one after it or its own.
      have hshape : commaSeparatedKinds ([] :: lists)
          ++ (holeKinds (none :: values) ++ .punctuator .rightBracket :: ks)
          = .punctuator .comma :: (commaSeparatedKinds lists
            ++ (holeKinds values ++ .punctuator .rightBracket :: ks)) := by
        cases helements <;> simp [commaSeparatedKinds, holeKinds]
      rw [hshape, elements, Cursor.eat?_flat_eq_none (by simp)]
      simp only [Cursor.eat?_flat_cons]
      exact (ih.map _).resume _
    | some v =>
      have hitem : ReadsItem ts v := helement
      cases helements with
      | nil =>
        have hshape : commaSeparatedKinds [ts]
            ++ (holeKinds [some v] ++ .punctuator .rightBracket :: ks)
            = ts ++ .punctuator .rightBracket :: ks := by
          simp [commaSeparatedKinds, holeKinds]
        rw [hshape, elements, hitem.eat?_eq_none rfl]
        simp only [hitem.eat?_eq_none (p := .comma) rfl]
        refine (hitem.reads _ (closes_assignment_of_endsItem rfl)).bind fun _ => ?_
        rw [Cursor.eat?_flat_cons]
        exact Parsed.gives_ok _ _ _
      | @cons next nextValue lists values hnext hrest =>
        have hshape : commaSeparatedKinds (ts :: next :: lists)
            ++ (holeKinds (some v :: nextValue :: values) ++ .punctuator .rightBracket :: ks)
            = ts ++ .punctuator .comma :: (commaSeparatedKinds (next :: lists)
              ++ (holeKinds (nextValue :: values) ++ .punctuator .rightBracket :: ks)) := by
          simp [commaSeparatedKinds, holeKinds]
        rw [hshape, elements, hitem.eat?_eq_none rfl]
        simp only [hitem.eat?_eq_none (p := .comma) rfl]
        refine (hitem.reads _ (closes_assignment_of_endsItem rfl)).bind fun _ => ?_
        rw [Cursor.eat?_flat_eq_none (by simp)]
        exact (Cursor.gives_expect .comma _).bind fun _ => ih.map _

/-- The tokens are read as a property of an object. -/
def ReadsProperty (ts : List TokenKind) (property : PropertyKey × Expression) : Prop :=
  ∃ key value, ts = key :: .punctuator .colon :: value ∧ key ≠ .punctuator .rightBrace
    ∧ (∀ ks, (propertyKey (.flat (key :: ks))).Gives property.1 (.flat ks))
    ∧ ReadBy Grammar.assignment .assignment value property.2

theorem gives_properties {values : List (PropertyKey × Expression)}
    (h : List.Forall₂ ReadsProperty lists values) (ks : List TokenKind) :
    (properties (.flat (commaSeparatedKinds lists ++ .punctuator .rightBrace :: ks))).Gives values
      (.flat ks) := by
  induction h with
  | nil =>
    rw [properties, commaSeparatedKinds, List.nil_append, Cursor.eat?_flat_cons]
    exact Parsed.gives_ok _ _ _
  | @cons ts property lists values hproperty hproperties ih =>
    obtain ⟨key, value, rfl, hbrace, hkey, hvalue⟩ := hproperty
    cases hproperties with
    | nil =>
      rw [commaSeparatedKinds, List.cons_append, List.cons_append, properties,
        Cursor.eat?_flat_eq_none (by simpa using hbrace)]
      refine (hkey _).bind fun _ => (Cursor.gives_expect .colon _).bind fun _ => ?_
      refine (hvalue _ (closes_of_none rfl ks)).bind fun _ => ?_
      rw [Cursor.eat?_flat_cons]
      exact Parsed.gives_ok _ _ _
    | @cons next nextProperty lists values hnext hrest =>
      have hshape : commaSeparatedKinds ((key :: .punctuator .colon :: value) :: next :: lists)
          ++ .punctuator .rightBrace :: ks
          = key :: .punctuator .colon :: (value ++ .punctuator .comma
            :: (commaSeparatedKinds (next :: lists) ++ .punctuator .rightBrace :: ks)) := by
        simp [commaSeparatedKinds]
      rw [hshape, properties, Cursor.eat?_flat_eq_none (by simpa using hbrace)]
      refine (hkey _).bind fun _ => (Cursor.gives_expect .colon _).bind fun _ => ?_
      refine (hvalue _ (closes_assignment_of_endsItem rfl)).bind fun _ => ?_
      rw [Cursor.eat?_flat_eq_none (by simp)]
      exact (Cursor.gives_expect .comma _).bind fun _ => ih.map _

theorem closes_flatMap_comma (lists : List (List TokenKind)) (hks : Closes .sequence ks) :
    Closes .assignment (lists.flatMap (.punctuator .comma :: ·) ++ ks) := by
  cases lists with
  | nil => exact hks.mono (by decide)
  | cons next lists => exact closes_assignment_of_endsItem rfl

theorem gives_sequenceRest {values : List Expression} (h : List.Forall₂ ReadsItem lists values)
    (hks : Closes .sequence ks) :
    (sequenceRest (.flat (lists.flatMap (.punctuator .comma :: ·) ++ ks))).Gives values
      (.flat ks) := by
  induction h with
  | nil =>
    rw [List.flatMap_nil, List.nil_append, sequenceRest,
      Cursor.eat?_flat_eq_none (hks.ne rfl le_rfl)]
    exact Parsed.gives_done _ _
  | @cons ts v lists values hitem hitems ih =>
    rw [List.flatMap_cons, List.cons_append, List.cons_append, List.append_assoc, sequenceRest,
      Cursor.eat?_flat_cons]
    refine .relax (.resume ?_ _)
    exact (hitem.reads _ (closes_flatMap_comma lists hks)).bindLoose fun _ => ih.map _

theorem commaSeparatedKinds_cons (ts : List TokenKind) (lists : List (List TokenKind)) :
    commaSeparatedKinds (ts :: lists) = ts ++ lists.flatMap (.punctuator .comma :: ·) := by
  induction lists generalizing ts with
  | nil => simp [commaSeparatedKinds]
  | cons next lists ih => rw [commaSeparatedKinds, ih, List.flatMap_cons, List.cons_append]; simp

/-- Two items or more with commas between them are read as a sequence. -/
theorem readBy_sequence {values : List Expression} (h : List.Forall₂ ReadsItem lists values)
    (htwo : 2 ≤ values.length) :
    ReadBy Grammar.expression .sequence (commaSeparatedKinds lists) (.sequence values) := by
  intro ks hks
  cases h with
  | nil => exact absurd htwo (by decide)
  | @cons ts v lists values hitem hitems =>
    have hrest := gives_sequenceRest hitems hks
    rw [commaSeparatedKinds_cons, List.append_assoc, Grammar.expression]
    refine (hitem.reads _ (closes_flatMap_comma lists hks)).bindLoose fun _ => ?_
    have hmap := hrest.map fun rest => if rest.isEmpty then v else .sequence (v :: rest)
    have hnonempty : values.isEmpty = false := by
      cases values with
      | nil => exact absurd htwo (by simp)
      | cons next values => rfl
    simpa [hnonempty] using hmap

end Lists

/-! ## Expressions -/

section Parts

variable {l m : Level} {ts ks : List TokenKind} {v : Expression} {needed calls : Bool}

/-- What is put in parentheses where it is too loose is read at a level that is tight enough. -/
theorem Reads.parenthesizeIf {p : Level → Prop} (h : Reads l ts v) (hprimary : p .primary)
    (hl : needed = false → p l) : ∃ l', p l' ∧ Reads l' (parenthesizeKindsIf needed ts) v := by
  cases needed with
  | false => exact ⟨l, hl rfl, h⟩
  | true => exact ⟨.primary, hprimary, h.parens.reads⟩

theorem ReadSuffixed.parenthesizeIf (h : needed = false → ReadSuffixed calls ts v)
    (hreads : Reads l ts v) : ReadSuffixed calls (parenthesizeKindsIf needed ts) v := by
  cases needed with
  | false => exact h rfl
  | true => exact hreads.parens.suffixed calls

theorem ReadSuffixed.member (h : ReadSuffixed calls ts v) (name : String) :
    ReadSuffixed calls (ts ++ [TokenKind.punctuator .dot, .identifier name])
      (.member v ⟨name, 1⟩) := by
  intro ks w r hrest
  rw [List.append_assoc]
  refine h _ w r ?_
  rw [List.cons_append, suffixes, Cursor.next?_flat_cons]
  refine .relax (.resume ?_ _)
  exact (Cursor.gives_expectName name ks).bindLoose fun _ => hrest

theorem ReadSuffixed.index {property : List TokenKind} {p : Expression}
    (h : ReadSuffixed calls ts v) (hproperty : Reads l property p) :
    ReadSuffixed calls
      (ts ++ .punctuator .leftBracket :: (property ++ [TokenKind.punctuator .rightBracket]))
      (.index v p) := by
  intro ks w r hrest
  rw [List.append_assoc]
  refine h _ w r ?_
  rw [List.cons_append, suffixes, Cursor.next?_flat_cons, List.append_assoc]
  refine .relax (.resume ?_ _)
  refine (hproperty.expression _ (closes_of_none rfl ks)).bind fun _ => ?_
  exact (Cursor.gives_expect .rightBracket ks).bindLoose fun _ => hrest

theorem ReadSuffixed.call {lists : List (List TokenKind)} {values : List Expression}
    (h : ReadSuffixed true ts v) (hitems : List.Forall₂ ReadsItem lists values) :
    ReadSuffixed true
      (ts ++ .punctuator .leftParen
        :: (commaSeparatedKinds lists ++ [TokenKind.punctuator .rightParen]))
      (.call v values) := by
  intro ks w r hrest
  rw [List.append_assoc]
  refine h _ w r ?_
  rw [List.cons_append, suffixes, Cursor.next?_flat_cons, List.append_assoc]
  refine .relax (.resume ?_ _)
  exact (gives_arguments hitems ks).bindLoose fun _ => hrest

theorem ReadSuffixed.new {lists : List (List TokenKind)} {values : List Expression}
    (h : ReadSuffixed false ts v) (hitems : List.Forall₂ ReadsItem lists values) :
    ReadSuffixed calls
      (.keyword .new :: (ts ++ .punctuator .leftParen
        :: (commaSeparatedKinds lists ++ [TokenKind.punctuator .rightParen])))
      (.new v values) := by
  intro ks w r hrest
  have hcallee := h _ v _ (gives_suffixes_paren v (commaSeparatedKinds lists
    ++ .punctuator .rightParen :: ks))
  obtain ⟨inner, rest, hinner, fewer, hsuffixes⟩ := hcallee.of_bindLoose
  have hnew : (operand (.flat (.keyword .new :: (ts ++ .punctuator .leftParen
      :: (commaSeparatedKinds lists ++ .punctuator .rightParen :: ks))))).Gives (.new v values)
      (.flat ks) := by
    rw [operand, Cursor.eatWord?, Cursor.eatKind?_flat_cons]
    refine .resume (hinner.bindLoose fun _ => hsuffixes.bindLoose fun _ => ?_) _
    rw [Cursor.eat?_flat_cons]
    exact .relax (.resume ((gives_arguments hitems ks).map _) _)
  rw [List.cons_append, List.append_assoc, List.cons_append, List.append_assoc]
  exact hnew.bindLoose fun _ => hrest

/-- A binary operator between operands that bind tightly enough, the right one tighter. -/
theorem ReadBinary.binary {operator : BinaryOperator} (hoperator : operator ≠ .exponent)
    {right : List TokenKind} {w : Expression} (hleft : Reads l ts v) (hl : operator.level ≤ l)
    (hright : Reads m right w) (hm : operator.level < m) :
    ReadBinary operator.level (ts ++ .ofText operator.text :: right) (.binary operator v w) := by
  have hkind := BinaryOperator.ofKind?_ofText hoperator
  have hexponent : operator.level < .exponent := by
    cases operator <;> first | exact absurd rfl hoperator | decide
  have hjoins : ∀ joined ∈ (TokenKind.ofText operator.text).joins, joined = operator.level := by
    simp [joins_of_binary hkind]
  intro floor ks w' r hfloor hfollows hcloses hrest
  rw [List.append_assoc, List.cons_append]
  refine hleft.binary (operator.coalesce_le_level.trans hl) floor _ w' r (hfloor.trans_le hl)
    (follows_cons (fun joined hj => (hjoins joined hj).le.trans hl) _)
    (closes_cons (fun joined hj => (hjoins joined hj).le.trans_lt hexponent) _) ?_
  rw [binaryRest, Cursor.take?_flat_cons hkind]
  simp only
  rw [if_neg (not_le.2 hfloor)]
  refine .relax (.resume ?_ _)
  exact (hright.operand (operator.coalesce_le_level.trans hm.le) hm hexponent hfollows).bindLoose
    fun _ => hrest

/-- An exponent after a base that is read as a unary expression but does not start with a unary
operator. -/
theorem readBy_exponent {right : List TokenKind} {w : Expression}
    (hstarts : StartsWith (fun k => UnaryOperator.ofKind? k = none) ts)
    (hleft : Reads l ts v) (hl : .unary ≤ l) (hright : Reads m right w) (hm : .exponent ≤ m) :
    ReadBy Grammar.exponent .exponent (ts ++ .ofText BinaryOperator.exponent.text :: right)
      (.binary .exponent v w) := by
  intro ks hks
  rw [BinaryOperator.ofText_exponent, List.append_assoc, List.cons_append, Grammar.exponent]
  have hbase : UnaryOperator.ofKind?
      (Cursor.flat (ts ++ .punctuator .starStar :: (right ++ ks))).kind = none := by
    obtain ⟨k, hk, hunary⟩ := hstarts
    cases ts with
    | nil => simp at hk
    | cons first tail => simp_all
  refine (hleft.unary hl _ (closes_cons (by decide) _)).bindLoose fun _ => ?_
  rw [Cursor.eat?_flat_cons]
  simp only [hbase, Option.isSome_none]
  rw [if_neg (by decide)]
  exact .relax (.resume ((hright.exponent hm ks hks).map _) _)

theorem readBy_unary (operator : UnaryOperator) (h : Reads l ts v) (hl : .unary ≤ l) :
    ReadBy Grammar.unary .unary (.ofText operator.text :: ts) (.unary operator v) := by
  have hkind := operator.ofKind?_ofText
  have hupdate : UpdateOperator.ofKind? (.ofText operator.text) = none := by
    cases operator <;> decide
  intro ks hks
  rw [List.cons_append, Grammar.unary, Cursor.take?_flat_eq_none (by simpa using hupdate)]
  simp only [Cursor.take?_flat_cons hkind]
  exact .resume ((h.unary hl ks hks).map _) _

theorem readBy_updateBefore (operator : UpdateOperator) (htarget : v.isTarget = true)
    (h : Reads l ts v) (hl : .unary ≤ l) :
    ReadBy Grammar.unary .unary (.ofText operator.text :: ts) (.update operator v true 1) := by
  intro ks hks
  rw [List.cons_append, Grammar.unary, Cursor.take?_flat_cons operator.ofKind?_ofText]
  refine .resume ((h.unary hl ks hks).bindLoose fun _ => ?_) _
  rw [if_pos htarget, Cursor.line_flat]
  exact Parsed.gives_done _ _

theorem readBy_updateAfter (operator : UpdateOperator) (htarget : v.isTarget = true)
    (h : Reads l ts v) (hl : .call ≤ l) :
    ReadBy Grammar.postfix_ .postfix_ (ts ++ [TokenKind.ofText operator.text])
      (.update operator v false 1) := by
  have hkind := operator.ofKind?_ofText
  have hcloses : ∀ ks, Closes .call (.ofText operator.text :: ks) :=
    closes_cons (by simp only [joins_of_update hkind, Option.mem_some_iff, forall_eq']; decide)
  intro ks _
  rw [List.append_assoc, List.cons_append, List.nil_append, Grammar.postfix_]
  have hcall : (call (.flat (ts ++ .ofText operator.text :: ks))).Gives v
      (.flat (.ofText operator.text :: ks)) := by
    rw [call]
    exact h.suffixed hl _ v _ (gives_suffixes_done true v (hcloses ks))
  refine hcall.bindLoose fun _ => ?_
  rw [Cursor.take?_flat_cons hkind]
  simp only [Cursor.line_flat, Cursor.previousLine_flat]
  rw [if_pos trivial, if_pos htarget]
  exact .relax (Parsed.gives_ok _ _ _)

theorem readBy_assignment (operator : AssignmentOperator) {right : List TokenKind} {w : Expression}
    (htarget : v.isTarget = true) (hleft : Reads l ts v) (hl : .coalesce ≤ l)
    (hright : Reads m right w) (hm : .assignment ≤ m) :
    ReadBy Grammar.assignment .assignment (ts ++ .ofText operator.text :: right)
      (.assignment operator v w 1) := by
  have hkind := operator.ofKind?_ofText
  have hcloses : ∀ ks, Closes .conditional (.ofText operator.text :: ks) :=
    closes_cons (by simp only [joins_of_assignment hkind, Option.mem_some_iff, forall_eq']; decide)
  intro ks hks
  rw [List.append_assoc, List.cons_append, Grammar.assignment]
  refine (hleft.tighter_conditional hl _ (hcloses _)).bindLoose fun _ => ?_
  rw [Cursor.take?_flat_cons hkind]
  simp only [Cursor.line_flat]
  rw [if_pos htarget]
  exact .relax (.resume ((hright.assignment hm ks hks).map _) _)

theorem readBy_conditional {n : Level} {yes no : List TokenKind} {a b : Expression}
    (htest : Reads l ts v) (hl : .coalesce ≤ l) (hyes : Reads m yes a) (hm : .assignment ≤ m)
    (hno : Reads n no b) (hn : .assignment ≤ n) :
    ReadBy Grammar.conditional .assignment
      (ts ++ .punctuator .question :: (yes ++ .punctuator .colon :: no)) (.conditional v a b) := by
  intro ks hks
  rw [List.append_assoc, List.cons_append, List.append_assoc, List.cons_append,
    Grammar.conditional]
  refine (htest.operand hl (hl.trans_lt' (by decide)) (by decide)
    (follows_cons (by decide) _)).bindLoose fun _ => ?_
  rw [Cursor.eat?_flat_cons]
  refine .relax (.resume ?_ _)
  refine (hyes.assignment hm _ (closes_of_none rfl _)).bind fun _ => ?_
  refine (Cursor.gives_expect .colon _).bind fun _ => ?_
  exact (hno.assignment hn ks hks).map _

end Parts

/-- The tokens of an expression are read at its level, and as the callee of `new` if it calls
nothing. -/
structure Expression.IsRead (e : Expression) : Prop where
  reads : Reads e.level e.kinds e.reread
  callee : .call ≤ e.level → containsCall e = false → ReadSuffixed false e.kinds e.reread

namespace Expression.IsRead

variable {e : Expression}

theorem of_primary (hlevel : e.level = .primary) (h : ReadPrimary e.kinds e.reread) : e.IsRead :=
  ⟨hlevel ▸ h.reads, fun _ _ => h.suffixed false⟩

theorem of_loose (hlevel : e.level < .call) (h : Reads e.level e.kinds e.reread) : e.IsRead :=
  ⟨h, fun hcall => absurd hlevel (not_lt.2 hcall)⟩

/-- For accesses and calls it is enough to read them with or without further calls. -/
theorem of_suffixed (hfits : e.Fits .written) (hlevel : .call ≤ e.level)
    (h : ∀ calls, calls = true ∨ containsCall e = false →
      ReadSuffixed calls e.kinds e.reread) : e.IsRead := by
  refine ⟨?_, fun _ hcalls => h false (.inr hcalls)⟩
  have hstarts : StartsOperand e.kinds :=
    (e.startsWith_kinds hfits).mono fun k hk => hk.2 (hlevel.trans' (by decide))
  have hread := h true (.inl rfl)
  revert hlevel
  generalize e.level = l
  cases l <;> intro hlevel <;> first | exact ⟨hread, hstarts⟩ | exact absurd hlevel (by decide)

theorem suffixed (h : e.IsRead) (hlevel : .call ≤ e.level) {calls : Bool}
    (hcalls : calls = true ∨ containsCall e = false) : ReadSuffixed calls e.kinds e.reread := by
  cases calls with
  | true => exact h.reads.suffixed hlevel
  | false => exact h.callee hlevel (hcalls.resolve_left (by decide))

/-- The object of an access. -/
theorem accessed (h : e.IsRead) {calls : Bool} (hcalls : calls = true ∨ containsCall e = false) :
    ReadSuffixed calls (parenthesizeKindsIf (!e.isBeforeDot) e.kinds) e.reread :=
  .parenthesizeIf
    (fun hneeded => h.suffixed (call_le_of_isBeforeDot (by simpa using hneeded)) hcalls) h.reads

/-- A part that stands in parentheses if it is looser than a level. -/
theorem atLeast (h : e.IsRead) (m : Level) :
    ∃ l, m ≤ l ∧ Reads l (parenthesizeKindsIf (decide (e.level < m)) e.kinds) e.reread :=
  h.reads.parenthesizeIf (by cases m <;> decide) fun hneeded =>
    not_lt.1 (of_decide_eq_false hneeded)

theorem readsItem (h : e.IsRead) (hfits : e.Fits .written) :
    ReadsItem (parenthesizeKindsIf (decide (e.level < .assignment)) e.kinds) e.reread := by
  obtain ⟨l, hl, hread⟩ := h.atLeast .assignment
  refine ⟨startsWith_parenthesizeIf rfl fun _ => ?_, hread.assignment hl⟩
  exact (e.startsWith_kinds hfits).mono fun k hk => hk.1

end Expression.IsRead

theorem forall₂_readsItem {items : List Expression}
    (h : ∀ item ∈ items, item.Fits .written ∧ item.IsRead) :
    List.Forall₂ ReadsItem (itemKinds items) (rereadItems items) := by
  induction items with
  | nil => exact .nil
  | cons item items ih =>
    obtain ⟨hfits, hread⟩ := h item List.mem_cons_self
    have htail := ih fun other hmem => h other (List.mem_cons_of_mem item hmem)
    exact .cons (hread.readsItem hfits) htail

theorem length_rereadItems (items : List Expression) :
    (rereadItems items).length = items.length := by
  induction items with
  | nil => rfl
  | cons item items ih => simp [rereadItems, ih]

theorem forall₂_readsElement {elements : List (Option Expression)}
    (h : ∀ element, some element ∈ elements → element.Fits .written ∧ element.IsRead) :
    List.Forall₂ ReadsElement (elementKinds elements) (rereadElements elements) := by
  induction elements with
  | nil => exact .nil
  | cons head elements ih =>
    have htail := ih fun other hmem => h other (List.mem_cons_of_mem head hmem)
    cases head with
    | none => exact .cons rfl htail
    | some element =>
      obtain ⟨hfits, hread⟩ := h element List.mem_cons_self
      exact .cons (hread.readsItem hfits) htail

theorem rereadElements_eq_map (elements : List (Option Expression)) :
    rereadElements elements = elements.map (Option.map Expression.reread) := by
  induction elements with
  | nil => rfl
  | cons head elements ih => cases head <;> simp [rereadElements, ih]

theorem holeKinds_reread (elements : List (Option Expression)) :
    holeKinds (rereadElements elements) = holeKinds elements := by
  rw [holeKinds, holeKinds, rereadElements_eq_map, List.getLast?_map]
  rcases elements.getLast? with _ | _ | element <;> rfl

theorem PropertyKey.gives_propertyKey {key : PropertyKey} (h : key.Fits .written)
    (ks : List TokenKind) :
    (propertyKey (.flat (key.kind :: ks))).Gives key.reread (.flat ks) := by
  have hname : ∀ name, (propertyKey (.flat (.identifier name :: ks))).Gives
      (.identifier ⟨name, 1⟩) (.flat ks) :=
    fun name => (Cursor.gives_expectName name ks).map _
  cases key with
  | identifier id => exact hname id.name
  | literal value =>
    cases value with
    | number value =>
      rw [kind, Literal.kind, numberKind, reread]
      by_cases hinfinite : value.isInfinite = true
      · rw [if_pos hinfinite, if_pos hinfinite]
        exact hname "Infinity"
      · rw [if_neg hinfinite, if_neg hinfinite]
        exact Parsed.gives_ok _ _ _
    | string value => exact Parsed.gives_ok _ _ _
    | boolean value => exact h.elim
    | null => exact h.elim

theorem forall₂_readsProperty {properties : List (PropertyKey × Expression)}
    (h : ∀ property ∈ properties, property.1.Fits .written ∧ property.2.Fits .written
      ∧ property.2.IsRead) :
    List.Forall₂ ReadsProperty (propertyKinds properties) (rereadProperties properties) := by
  induction properties with
  | nil => exact .nil
  | cons property properties ih =>
    obtain ⟨key, value⟩ := property
    obtain ⟨hkey, hfits, hread⟩ := h _ List.mem_cons_self
    have htail := ih fun other hmem => h other (List.mem_cons_of_mem _ hmem)
    refine .cons ⟨key.kind, _, rfl, fun hbrace => ?_, key.gives_propertyKey hkey, ?_⟩ htail
    · obtain ⟨fewer, hgives⟩ := key.gives_propertyKey hkey []
      rw [hbrace] at hgives
      cases hgives
    · exact (hread.readsItem hfits).reads

theorem Literal.readPrimary (value : Literal) : ReadPrimary [value.kind] value.reread := by
  have hname : ∀ name, ReadPrimary [.identifier name] (.identifier ⟨name, 1⟩) := by
    refine fun name => ⟨⟨_, rfl, rfl, by simp⟩, fun ks => ?_⟩
    rw [primary]
    exact Parsed.gives_ok _ _ _
  have hliteral : ∀ {kind value}, literalOf? kind = some value → kind.isPrefix = false →
      ReadPrimary [kind] (.literal value) := by
    intro kind value hkind hprefix
    refine ⟨⟨_, rfl, hprefix, ?_⟩, fun ks => ?_⟩
    · rintro rfl
      cases hkind
    · rw [List.singleton_append, primary, Cursor.take?_flat_cons hkind]
      exact Parsed.gives_ok _ _ _
  cases value with
  | number value =>
    rw [kind, numberKind, reread]
    split
    · exact hname "Infinity"
    · exact hliteral rfl rfl
  | string value => exact hliteral rfl rfl
  | boolean value => cases value <;> exact hliteral rfl rfl
  | null => exact hliteral rfl rfl

theorem level_le_of_leftNeedsParens {operator : BinaryOperator} {left : Expression}
    (h : leftNeedsParens operator left = false) : operator.level ≤ left.level := by
  unfold leftNeedsParens at h
  split at h
  · exact absurd h (by decide)
  · simp only [Bool.or_eq_false_iff, decide_eq_false_iff_not, not_lt] at h
    exact h.1.1

/-- A base that stands without parentheses before the exponent operator binds tighter. -/
theorem unary_le_of_leftNeedsParens {base : Expression}
    (h : leftNeedsParens .exponent base = false) : .unary ≤ base.level := by
  refine Level.next_le rfl (lt_of_le_of_ne (level_le_of_leftNeedsParens h) ?_)
  intro heq
  unfold leftNeedsParens at h
  split at h
  · exact absurd h (by decide)
  · simp [← heq] at h

theorem level_le_of_rightNeedsParens {operator : BinaryOperator} {right : Expression}
    (h : rightNeedsParens operator right = false) : operator.level ≤ right.level := by
  simp only [rightNeedsParens, Bool.or_eq_false_iff, decide_eq_false_iff_not, not_lt] at h
  exact h.1.1

theorem level_lt_of_rightNeedsParens {operator : BinaryOperator} {right : Expression}
    (hoperator : operator ≠ .exponent) (h : rightNeedsParens operator right = false) :
    operator.level < right.level := by
  refine lt_of_le_of_ne (level_le_of_rightNeedsParens h) fun heq => ?_
  simp [rightNeedsParens, heq, hoperator] at h

theorem reads_of_readBinary {operator : BinaryOperator} (hoperator : operator ≠ .exponent)
    {ts : List TokenKind} {v : Expression} (h : ReadBinary operator.level ts v) :
    Reads operator.level ts v := by
  cases operator <;> first | exact h | exact absurd rfl hoperator

/-- A base of the exponent operator starts with no unary operator. -/
theorem startsWith_exponentBase {base : Expression} (h : base.Fits .written) :
    StartsWith (fun k => UnaryOperator.ofKind? k = none)
      (parenthesizeKindsIf (leftNeedsParens .exponent base) base.kinds) := by
  refine startsWith_parenthesizeIf rfl fun hneeded => ?_
  rcases (unary_le_of_leftNeedsParens hneeded).eq_or_lt with hunary | hlt
  · -- Of the expressions of this level the unary ones are in parentheses.
    cases base with
    | unary operator argument => cases hneeded
    | update operator argument isPrefix line =>
      cases isPrefix with
      | true => exact ⟨_, rfl, by cases operator <;> decide⟩
      | false => cases hunary
    | binary operator left right =>
      exact absurd hunary (operator.level_le_exponent.trans_lt (by decide)).ne'
    | _ => cases hunary
  · refine (base.startsWith_kinds h).mono fun k hk => ?_
    have hprefix := hk.2 (Level.next_le rfl hlt)
    simp only [TokenKind.isPrefix, Bool.or_eq_false_iff, Option.isSome_eq_false_iff,
      Option.isNone_iff_eq_none] at hprefix
    exact hprefix.1

theorem Expression.call_le_of_isTarget {e : Expression} (h : e.isTarget = true) :
    .call ≤ e.level := by
  cases e with
  | identifier => exact (by decide : Level.call ≤ .primary)
  | member | index => exact (by decide : Level.call ≤ .member)
  | _ => cases h

/-- The tokens of an expression are read as that expression. -/
theorem Expression.isRead (e : Expression) (h : e.Fits .written) : e.IsRead := by
  induction e using Expression.induction with
  | literal value => exact .of_primary rfl value.readPrimary
  | identifier id =>
    refine .of_primary rfl ⟨⟨_, rfl, rfl, by simp⟩, fun ks => ?_⟩
    rw [primary]
    exact Parsed.gives_ok _ _ _
  | this =>
    refine .of_primary rfl ⟨⟨_, rfl, rfl, by simp⟩, fun ks => ?_⟩
    rw [primary]
    exact Parsed.gives_ok _ _ _
  | array elements ih =>
    have helements := forall₂_readsElement fun element hmem =>
      have helement := elementsFit_iff.1 h element hmem
      ⟨helement, ih element hmem helement⟩
    refine .of_primary rfl ⟨⟨_, rfl, rfl, by simp⟩, fun ks => ?_⟩
    have hinner := gives_elements helements ks
    rw [holeKinds_reread] at hinner
    rw [Expression.kinds, List.cons_append, List.append_assoc, List.append_assoc, primary]
    exact .resume (hinner.map _) _
  | object properties ih =>
    have hproperties := forall₂_readsProperty fun property hmem =>
      have hproperty := propertiesFit_iff.1 h property hmem
      ⟨hproperty.1, hproperty.2, ih property hmem hproperty.2⟩
    refine .of_primary rfl ⟨⟨_, rfl, rfl, by simp⟩, fun ks => ?_⟩
    rw [Expression.kinds, List.cons_append, List.append_assoc, primary]
    exact .resume ((gives_properties hproperties ks).map _) _
  | binary operator left right ihleft ihright =>
    refine .of_loose (operator.level_le_exponent.trans_lt (by decide)) ?_
    by_cases hoperator : operator = .exponent
    · subst hoperator
      obtain ⟨l, hl, hleft⟩ := (ihleft h.1).reads.parenthesizeIf (p := (.unary ≤ ·)) (by decide)
        unary_le_of_leftNeedsParens
      obtain ⟨m, hm, hright⟩ := (ihright h.2).reads.parenthesizeIf
        (p := (BinaryOperator.exponent.level ≤ ·)) (by decide) level_le_of_rightNeedsParens
      exact readBy_exponent (startsWith_exponentBase h.1) hleft hl hright hm
    · obtain ⟨l, hl, hleft⟩ := (ihleft h.1).reads.parenthesizeIf (p := (operator.level ≤ ·))
        (operator.level_le_exponent.trans (by decide)) level_le_of_leftNeedsParens
      obtain ⟨m, hm, hright⟩ := (ihright h.2).reads.parenthesizeIf (p := (operator.level < ·))
        (operator.level_le_exponent.trans_lt (by decide)) (level_lt_of_rightNeedsParens hoperator)
      exact reads_of_readBinary hoperator (.binary hoperator hleft hl hright hm)
  | unary operator argument ih =>
    obtain ⟨l, hl, hread⟩ := (ih h).atLeast .unary
    exact .of_loose (by decide : Level.unary < .call) (readBy_unary operator hread hl)
  | assignment operator left right line ihleft ihright =>
    obtain ⟨htarget, hleft, hright, -⟩ := h
    obtain ⟨m, hm, hread⟩ := (ihright hright).atLeast .assignment
    refine .of_loose (by decide : Level.assignment < .call) ?_
    exact readBy_assignment operator (isTarget_reread htarget) (ihleft hleft).reads
      ((call_le_of_isTarget htarget).trans' (by decide)) hread hm
  | call callee arguments ihcallee iharguments =>
    have harguments := forall₂_readsItem fun item hmem =>
      have hitem := itemsFit_iff.1 h.2 item hmem
      ⟨hitem, iharguments item hmem hitem⟩
    refine .of_suffixed h (by decide : Level.call ≤ .call) fun calls hcalls => ?_
    obtain rfl : calls = true := hcalls.resolve_right (by simp [containsCall])
    have hread := ihcallee h.1
    exact (ReadSuffixed.parenthesizeIf (fun hneeded => hread.suffixed
      (not_lt.1 (of_decide_eq_false hneeded)) (.inl rfl)) hread.reads).call harguments
  | member object property ih =>
    refine .of_suffixed h (by decide : Level.call ≤ .member) fun calls hcalls => ?_
    exact ((ih h.1).accessed hcalls).member property.name
  | index object property ihobject ihproperty =>
    refine .of_suffixed h (by decide : Level.call ≤ .member) fun calls hcalls => ?_
    exact ((ihobject h.1).accessed hcalls).index (ihproperty h.2).reads
  | conditional test consequent alternate ihtest ihconsequent ihalternate =>
    obtain ⟨htest, hconsequent, halternate⟩ := h
    obtain ⟨l, hl, hreadTest⟩ := (ihtest htest).atLeast .coalesce
    obtain ⟨m, hm, hreadYes⟩ := (ihconsequent hconsequent).atLeast .assignment
    obtain ⟨n, hn, hreadNo⟩ := (ihalternate halternate).atLeast .assignment
    exact .of_loose (by decide : Level.conditional < .call)
      (readBy_conditional hreadTest hl hreadYes hm hreadNo hn)
  | new callee arguments ihcallee iharguments =>
    have harguments := forall₂_readsItem fun item hmem =>
      have hitem := itemsFit_iff.1 h.2 item hmem
      ⟨hitem, iharguments item hmem hitem⟩
    refine .of_suffixed h (by decide : Level.call ≤ .new) fun calls _ => ?_
    have hread := ihcallee h.1
    refine (ReadSuffixed.parenthesizeIf (fun hneeded => ?_) hread.reads).new harguments
    rw [Bool.or_eq_false_iff, decide_eq_false_iff_not, not_lt] at hneeded
    exact hread.callee (hneeded.2.trans' (by decide)) hneeded.1
  | update operator argument isPrefix line ih =>
    obtain ⟨htarget, hargument, -⟩ := h
    have hcall := call_le_of_isTarget htarget
    cases isPrefix with
    | true =>
      obtain ⟨l, hl, hread⟩ := (ih hargument).atLeast .postfix_
      exact .of_loose (by decide : Level.unary < .call)
        (readBy_updateBefore operator (isTarget_reread htarget) hread (hl.trans' (by decide)))
    | false =>
      obtain ⟨l, hl, hread⟩ := (ih hargument).reads.parenthesizeIf (p := (.call ≤ ·)) (by decide)
        fun _ => hcall
      exact .of_loose (by decide : Level.postfix_ < .call)
        ⟨readBy_updateAfter operator (isTarget_reread htarget) hread hl,
          StartsWith.append (hread.startsOperand (hl.trans' (by decide))) _⟩
  | sequence expressions ih =>
    obtain ⟨htwo, hitems⟩ := h
    have hread := forall₂_readsItem fun item hmem =>
      have hitem := itemsFit_iff.1 hitems item hmem
      ⟨hitem, ih item hmem hitem⟩
    refine .of_loose (by decide : Level.sequence < .call) (readBy_sequence hread ?_)
    rwa [length_rereadItems]

/-! ## Texts -/

/-- The cursor at the start of a written expression. -/
theorem Expression.ofSource_render (e : Expression) (h : e.Fits .written) :
    Cursor.ofSource e.render = .flat e.kinds := by
  have hscanned := e.scanned_render h
  rw [ofSource_eq_flat hscanned.oneLine]
  simpa using congrArg Cursor.flat (hscanned.scans [] (by simp))

/-- The text of an expression is read as that expression, to its end. -/
theorem Expression.gives_render (e : Expression) (h : e.Fits .written) :
    (Grammar.expression (.ofSource e.render)).Gives e.reread (.flat []) := by
  have hend := (e.isRead h).reads.expression [] (by simp [Closes])
  rw [List.append_nil] at hend
  rw [e.ofSource_render h]
  exact hend

theorem Expression.parse_render (e : Expression) (h : e.Fits .written) :
    parseExpression e.render = .ok e.reread
      ∧ (Grammar.expression (.ofSource e.render)).cursor.terminals = [] := by
  obtain ⟨fewer, hgives⟩ := e.gives_render h
  rw [parseExpression, hgives]
  exact ⟨rfl, rfl⟩

/-- Every expression that a text is read as can be written and read back. -/
theorem fits_written_of_parseExpression {source : String} {e : Expression}
    (h : parseExpression source = .ok e) : e.Fits .written := by
  obtain ⟨rest, hread⟩ := (Grammar.expression_from _).of_ok h
  refine hread.admitted fun t ht => ⟨trivial, ?_⟩
  obtain ⟨kind, line⟩ := t
  cases kind <;> exact ht.2

/-- A written expression is read back, to the end of its text; and every expression that a text is
read as can be written so. -/
theorem parseExpression_render :
    (∀ e : Expression, e.Fits .written →
      parseExpression (Renderer.canonical.expression e) = .ok e.reread
        ∧ (Grammar.expression
            (.ofSource (Renderer.canonical.expression e))).cursor.terminals = [])
      ∧ ∀ source e, parseExpression source = .ok e → e.Fits .written := by
  exact ⟨fun e h => e.parse_render h, fun source e h => fits_written_of_parseExpression h⟩

/-- A callee that calls, a chain of signs before an exponent, a number before a dot and an array
that ends in a hole. -/
theorem parseExpression_render_new :
    let e : Expression := .new
      (.member (.call (.identifier ⟨"f", 3⟩) [.this]) ⟨"g", 4⟩)
      [.binary .exponent (.unary .minus (.unary .minus (.identifier ⟨"x", 5⟩)))
          (.member (.literal (.number (.ofNat 5))) ⟨"y", 6⟩),
        .array [none, some (.literal (.string "\x00")), none]]
    e.Fits .written
      ∧ parseExpression (Renderer.canonical.expression e) = .ok e.reread
      ∧ (Grammar.expression
          (.ofSource (Renderer.canonical.expression e))).cursor.terminals = [] := by
  intro e
  have hname : ∀ name line, isName name = true → Identifier.Fits .written ⟨name, line⟩ :=
    fun _ _ h => ⟨h, trivial⟩
  have hcallee : Expression.Fits .written
      (.member (.call (.identifier ⟨"f", 3⟩) [.this]) ⟨"g", 4⟩) :=
    ⟨⟨hname "f" 3 (by decide), trivial, trivial⟩, hname "g" 4 (by decide)⟩
  have h : e.Fits .written :=
    ⟨hcallee, ⟨hname "x" 5 (by decide), Binary64.isMagnitude_ofRatio 5 1,
      hname "y" 6 (by decide)⟩, ⟨trivial, trivial⟩, trivial⟩
  exact ⟨h, parseExpression_render.1 e h⟩

end ScriptSteps
