import Mathlib
import ScriptSteps.Proofs.Grammar.Inversion
import ScriptSteps.Proofs.Grammar.RoundTrip
import ScriptSteps.Proofs.Tree.Operands

/-!
# The places of operands

Other tokens in the place of an operand, with the same weight and brackets as its own, change where
none of the parts around them ends. So if the whole is still read as the expression that it was,
they are read as the operand, at the level that its place asks for. The tokens of an operand that is
in parentheses bind looser than that without them, unless the parentheses are spared.

## Main definitions

* `Expression.Keeps`: what stands in the place of an operand is read as that operand

## Main statements

* `Expression.derives_kinds`: the tokens of a written expression are a phrase of the grammar
* `Derives.le_level_of_kinds`: a written expression stands where its level may stand
* `Expression.keeps_left`, `Expression.keeps_right` and so on: each place keeps its operand
-/

namespace ScriptSteps

/-! ## Expressions that are read back -/

theorem rereadItems_eq_map (items : List Expression) :
    rereadItems items = items.map Expression.reread := by
  induction items with
  | nil => rfl
  | cons item items ih => rw [rereadItems, ih, List.map_cons]

theorem rereadProperties_eq_map (properties : List (PropertyKey × Expression)) :
    rereadProperties properties = properties.map fun property =>
      (property.1.reread, property.2.reread) := by
  induction properties with
  | nil => rfl
  | cons property properties ih => rw [rereadProperties, ih, List.map_cons]

/-- An entry as it is read back. -/
def Entry.reread : Entry → Entry
  | hole => hole
  | item e => item e.reread
  | property key value => property key.reread value.reread

theorem map_item_rereadItems (items : List Expression) :
    (rereadItems items).map Entry.item = (items.map Entry.item).map Entry.reread := by
  simp [rereadItems_eq_map, Entry.reread]

theorem map_ofElement_rereadElements (elements : List (Option Expression)) :
    (rereadElements elements).map Entry.ofElement
      = (elements.map Entry.ofElement).map Entry.reread := by
  rw [rereadElements_eq_map, List.map_map, List.map_map]
  refine List.map_congr_left fun element _ => ?_
  cases element <;> rfl

theorem map_ofProperty_rereadProperties (properties : List (PropertyKey × Expression)) :
    (rereadProperties properties).map Entry.ofProperty
      = (properties.map Entry.ofProperty).map Entry.reread := by
  simp [rereadProperties_eq_map, Entry.ofProperty, Entry.reread]

theorem closingComma_map_reread (entries : List Entry) :
    closingComma (entries.map .reread) = closingComma entries := by
  simp only [closingComma, List.getLast?_map]
  rcases entries.getLast? with _ | _ | _ | _ <;> rfl

theorem entriesWeight_map_reread {entries : List Entry}
    (h : ∀ entry ∈ entries, entry.reread.weight = entry.weight) :
    entriesWeight (entries.map .reread) = entriesWeight entries := by
  induction entries with
  | nil => rfl
  | cons entry entries ih =>
    have hhead := h entry List.mem_cons_self
    have htail := ih fun other hmem => h other (List.mem_cons_of_mem entry hmem)
    cases entries with
    | nil => cases entry <;> simp_all [entriesWeight, Entry.reread, closingComma]
    | cons next entries =>
      rw [List.map_cons] at htail
      rw [List.map_cons, List.map_cons, entriesWeight_cons_cons, entriesWeight_cons_cons, htail,
        hhead]

namespace Expression

theorem weight_reread (e : Expression) : e.reread.weight = e.weight := by
  induction e using Expression.induction with
  | literal value =>
    cases value with
    | number value =>
      rw [reread, Literal.reread]
      split <;> simp
    | _ => simp [reread, Literal.reread]
  | identifier | this => simp [reread]
  | array elements ih =>
    rw [reread, weight_array, weight_array, map_ofElement_rereadElements,
      entriesWeight_map_reread]
    intro entry hentry
    obtain ⟨element, helement, rfl⟩ := List.mem_map.1 hentry
    cases element with
    | none => rfl
    | some e => exact ih e helement
  | object properties ih =>
    rw [reread, weight_object, weight_object, map_ofProperty_rereadProperties,
      entriesWeight_map_reread]
    intro entry hentry
    obtain ⟨property, hproperty, rfl⟩ := List.mem_map.1 hentry
    exact congrArg (2 + ·) (ih property hproperty)
  | call callee arguments ihcallee iharguments | new callee arguments ihcallee iharguments =>
    simp only [reread, weight_call, weight_new, ihcallee, map_item_rereadItems]
    rw [entriesWeight_map_reread]
    intro entry hentry
    obtain ⟨item, hitem, rfl⟩ := List.mem_map.1 hentry
    exact iharguments item hitem
  | sequence items ih =>
    rw [reread, weight_sequence, weight_sequence, map_item_rereadItems, entriesWeight_map_reread]
    intro entry hentry
    obtain ⟨item, hitem, rfl⟩ := List.mem_map.1 hentry
    exact ih item hitem
  | _ => simp_all [reread]

theorem level_reread (e : Expression) : e.reread.level = e.level := by
  cases e with
  | literal value =>
    cases value with
    | number value =>
      rw [reread, Literal.reread]
      split <;> rfl
    | _ => rfl
  | _ => rfl

variable {e : Expression} {needed : Bool}

theorem derives_kinds (h : e.Fits .written) : Derives (.expression .sequence e.reread) e.kinds := by
  obtain ⟨hparse, hall⟩ := e.parse_render h
  have hderives := Grammar.derives_of_parseExpression hparse hall
  have hkinds : kindsOf e.render.toList = e.kinds := by
    simpa using (e.scanned_render h).scans [] (by simp)
  rwa [hkinds] at hderives

/-- The tokens of a written operand. -/
theorem matches_parenthesizeKindsIf (h : e.Fits .written) (needed : Bool) :
    Matches e.reread (parenthesizeKindsIf needed e.kinds) := by
  have hderives := derives_kinds h
  refine ⟨?_, ?_, ?_⟩
  · cases needed <;> simp [parenthesizeKindsIf, hderives.ne_nil]
  · rw [weightOf_parenthesizeKindsIf, weight_reread, weight]
  · cases needed with
    | false => exact hderives.balanced
    | true => exact hderives.balanced.enclosed rfl

theorem matches_kinds (h : e.Fits .written) : Matches e.reread e.kinds :=
  matches_parenthesizeKindsIf h false

theorem weightOf_operandKinds (e : Expression) (needed : Bool) :
    weightOf (parenthesizeKindsIf needed e.kinds) = e.reread.weight := by
  rw [weightOf_parenthesizeKindsIf, weight_reread, weight]

/-- The text of an expression as a whole is not in parentheses. -/
theorem kinds_ne_enclosed (h : e.Fits .written) {ts : List TokenKind} (hts : Balanced ts) :
    TokenKind.punctuator .leftParen :: (ts ++ [TokenKind.punctuator .rightParen]) ≠ e.kinds := by
  have hpart : ∀ {part : Expression} {needed : Bool} {rest : List TokenKind},
      part.Fits .written → rest ≠ [] →
      TokenKind.punctuator .leftParen :: (ts ++ [TokenKind.punctuator .rightParen])
        ≠ parenthesizeKindsIf needed part.kinds ++ rest := by
    intro part needed rest hfits hrest
    exact ((matches_parenthesizeKindsIf hfits needed).ne_enclosed hts hrest).symm
  cases e with
  | literal | identifier | this | array | object | new => simp [kinds]
  | binary operator left right => exact hpart h.1 (by simp)
  | assignment operator left right line => exact @hpart left false _ h.2.1 (by simp)
  | call callee arguments => exact hpart h.1 (by simp)
  | member object property => exact hpart h.1 (by simp)
  | index object property => exact hpart h.1 (by simp)
  | conditional test consequent alternate => exact hpart h.1 (by simp)
  | unary operator argument =>
    intro heq
    have hsign := UnaryOperator.ofKind?_ofText operator
    rw [kinds] at heq
    rw [← (List.cons.inj heq).1] at hsign
    cases hsign
  | update operator argument isPrefix line =>
    have hsign := UpdateOperator.ofKind?_ofText operator
    cases isPrefix with
    | true =>
      intro heq
      rw [kinds] at heq
      simp only [if_true] at heq
      rw [← (List.cons.inj heq).1] at hsign
      cases hsign
    | false => exact hpart h.2.1 (by simp)
  | sequence expressions =>
    obtain ⟨hlength, hitems⟩ := h
    match expressions, hlength with
    | first :: second :: rest, _ => exact hpart hitems.1 (by simp)

end Expression

/-- A phrase that is not in parentheses as a whole binds as tightly as its place asks for. -/
theorem Derives.le_level {l : Level} {e : Expression} {ts : List TokenKind}
    (h : Derives (.expression l e) ts)
    (hplain : ∀ us, Balanced us →
      TokenKind.punctuator .leftParen :: (us ++ [TokenKind.punctuator .rightParen]) ≠ ts) :
    l ≤ e.level := by
  have hprimary : l ≤ .primary := by cases l <;> decide
  cases h with
  | parens h => exact absurd rfl (hplain _ h.balanced)
  | literal | identifier | this | array | object => exact hprimary
  | binary _ hl | exponent hl | unary _ hl | updateBefore _ hl | updateAfter _ hl
  | assignment _ hl | conditional hl | call hl | new hl | newBare hl | sequence hl => exact hl
  | member hl hnew | index hl hnew => exact (hl.trans hnew).trans (by decide : Level.new ≤ .member)

/-- The written tokens of an expression are those of a place that it may stand in. -/
theorem Derives.le_level_of_kinds {l : Level} {e : Expression} (hfits : e.Fits .written)
    (h : Derives (.expression l e.reread) e.kinds) : l ≤ e.level := by
  rw [← e.level_reread]
  exact h.le_level fun us hus => Expression.kinds_ne_enclosed hfits hus

/-! ## Lists -/

/-- The tokens before an item of a list, each with its comma. -/
def leadingKinds (lists : List (List TokenKind)) : List TokenKind :=
  lists.flatMap (· ++ [.punctuator .comma])

/-- The tokens after an item of a list, each with its comma. -/
def trailingKinds (lists : List (List TokenKind)) : List TokenKind :=
  lists.flatMap (.punctuator .comma :: ·)

theorem commaSeparatedKinds_append_cons (before after : List (List TokenKind))
    (xs : List TokenKind) :
    commaSeparatedKinds (before ++ xs :: after)
      = leadingKinds before ++ (xs ++ trailingKinds after) := by
  induction before with
  | nil => simp [leadingKinds, trailingKinds, commaSeparatedKinds_cons]
  | cons first before ih =>
    have hcomma : commaSeparatedKinds (first :: (before ++ xs :: after))
        = first ++ .punctuator .comma :: commaSeparatedKinds (before ++ xs :: after) := by
      cases before <;> simp [commaSeparatedKinds]
    rw [List.cons_append, hcomma, ih]
    simp [leadingKinds]

theorem itemKinds_append (before after : List Expression) :
    itemKinds (before ++ after) = itemKinds before ++ itemKinds after := by
  induction before with
  | nil => rfl
  | cons item before ih => rw [List.cons_append, itemKinds, itemKinds, ih, List.cons_append]

theorem elementKinds_append (before after : List (Option Expression)) :
    elementKinds (before ++ after) = elementKinds before ++ elementKinds after := by
  induction before with
  | nil => rfl
  | cons element before ih => cases element <;> simp [elementKinds, ih]

theorem propertyKinds_append (before after : List (PropertyKey × Expression)) :
    propertyKinds (before ++ after) = propertyKinds before ++ propertyKinds after := by
  induction before with
  | nil => rfl
  | cons property before ih => simp [propertyKinds, ih]

/-- Only the end of a list counts for the comma of its last hole. -/
theorem holeKinds_append_cons (before after : List (Option Expression))
    (element : Option Expression) :
    holeKinds (before ++ element :: after) = holeKinds (element :: after) := by
  obtain ⟨last, hlast⟩ : ∃ last, (element :: after).getLast? = some last :=
    ⟨_, List.getLast?_eq_some_getLast (by simp)⟩
  rw [holeKinds, holeKinds, List.getLast?_append, hlast, Option.some_or]

/-- The weight of an entry is that of what it is read back as. -/
theorem Entry.weight_reread (entry : Entry) : entry.reread.weight = entry.weight := by
  cases entry with
  | hole => rfl
  | item e => exact e.weight_reread
  | property key value => exact congrArg (2 + ·) value.weight_reread

theorem weighs_reread {entries : List Entry} {lists : List (List TokenKind)}
    (h : List.Forall₂ Entry.Weighs entries lists) :
    List.Forall₂ Entry.Weighs (entries.map .reread) lists := by
  rw [List.forall₂_map_left_iff]
  exact h.imp fun entry xs hxs => hxs.trans entry.weight_reread.symm

theorem forall₂_append_cons {α β : Type} {R S : α → β → Prop} {as bs : List α} {A B : List β}
    {a : α} {x : β} (hA : List.Forall₂ R as A) (h : List.Forall₂ S (as ++ a :: bs) (A ++ x :: B)) :
    S a x := by
  induction hA with
  | nil => exact (List.forall₂_cons.1 h).1
  | cons _ _ ih => exact ih (List.forall₂_cons.1 h).2

/-- The tokens that stand for an item of a list are those of that item. -/
theorem Derives.of_entries_append_cons {trailing : Bool} {before after : List Entry} {entry : Entry}
    {listsBefore listsAfter : List (List TokenKind)} {xs : List TokenKind}
    (hbefore : List.Forall₂ Entry.Weighs before listsBefore)
    (hafter : List.Forall₂ Entry.Weighs after listsAfter) (hxs : entry.Weighs xs)
    (h : Derives (.entries trailing (before ++ entry :: after))
      (leadingKinds listsBefore ++ (xs ++ (trailingKinds listsAfter
        ++ closingComma (before ++ entry :: after))))) :
    Derives (.entry entry) xs := by
  have hlists : List.Forall₂ Entry.Weighs (before ++ entry :: after)
      (listsBefore ++ xs :: listsAfter) := List.rel_append hbefore (.cons hxs hafter)
  have htext : leadingKinds listsBefore ++ (xs ++ (trailingKinds listsAfter
      ++ closingComma (before ++ entry :: after)))
      = commaSeparatedKinds (listsBefore ++ xs :: listsAfter)
        ++ closingComma (before ++ entry :: after) := by
    simp [commaSeparatedKinds_append_cons]
  rw [htext] at h
  exact forall₂_append_cons (S := fun entry xs => Derives (.entry entry) xs) hbefore
    (Derives.of_entries hlists h)

theorem Derives.of_item {e : Expression} {xs : List TokenKind} (h : Derives (.entry (.item e)) xs) :
    Derives (.expression .assignment e) xs := by
  cases h with
  | item h => exact h

theorem Derives.of_property {key : PropertyKey} {k k' : TokenKind} {e : Expression}
    {xs : List TokenKind} (h : Derives (.entry (.property key e)) (k :: k' :: xs)) :
    Derives (.expression .assignment e) xs := by
  cases h with
  | property hk h => exact h

/-- The tokens that stand for an item of a list that is read back are those of that item. -/
theorem Derives.of_reread_entries (trailing : Bool) {before after : List Entry} {entry : Entry}
    {listsBefore listsAfter : List (List TokenKind)} {xs : List TokenKind}
    (hbefore : List.Forall₂ Entry.Weighs before listsBefore)
    (hafter : List.Forall₂ Entry.Weighs after listsAfter) (hxs : entry.Weighs xs)
    (h : Derives (.entries trailing ((before ++ entry :: after).map .reread))
      (leadingKinds listsBefore ++ (xs ++ (trailingKinds listsAfter
        ++ closingComma (before ++ entry :: after))))) :
    Derives (.entry entry.reread) xs := by
  rw [← closingComma_map_reread, List.map_append, List.map_cons] at h
  exact h.of_entries_append_cons (weighs_reread hbefore) (weighs_reread hafter)
    (hxs.trans entry.weight_reread.symm)

/-- The tokens that stand for an expression of a list are those of that expression. -/
theorem Derives.of_items {trailing : Bool} {before after : List Expression} {x : Expression}
    {xs : List TokenKind} (hxs : Matches x.reread xs)
    (h : Derives (.entries trailing ((rereadItems (before ++ x :: after)).map .item))
      (leadingKinds (itemKinds before) ++ (xs ++ trailingKinds (itemKinds after)))) :
    Derives (.expression .assignment x.reread) xs := by
  have hweight : (Entry.item x).Weighs xs := hxs.weight.trans x.weight_reread
  have hclosing := closingComma_items (before ++ x :: after)
  rw [List.map_append, List.map_cons] at hclosing
  refine (Derives.of_reread_entries trailing (weighs_items before) (weighs_items after) hweight
    ?_).of_item
  rw [hclosing, List.append_nil, ← List.map_cons, ← List.map_append, ← map_item_rereadItems]
  exact h

section Balance

variable {lists : List (List TokenKind)}

theorem balanced_leadingKinds (h : ∀ ts ∈ lists, Balanced ts) : Balanced (leadingKinds lists) := by
  induction lists with
  | nil => exact balanced_nil
  | cons ts lists ih =>
    have hhead := (h ts List.mem_cons_self).append (balanced_plain (k := .punctuator .comma) rfl)
    exact hhead.append (ih fun us hmem => h us (List.mem_cons_of_mem ts hmem))

theorem balanced_trailingKinds (h : ∀ ts ∈ lists, Balanced ts) :
    Balanced (trailingKinds lists) := by
  induction lists with
  | nil => exact balanced_nil
  | cons ts lists ih =>
    have hhead := (balanced_cons_iff (k := .punctuator .comma) rfl).2 (h ts List.mem_cons_self)
    exact hhead.append (ih fun us hmem => h us (List.mem_cons_of_mem ts hmem))

theorem balanced_of_mem_itemKinds {items : List Expression} (h : itemsFit .written items) :
    ∀ ts ∈ itemKinds items, Balanced ts := by
  induction items with
  | nil => simp [itemKinds]
  | cons item items ih =>
    intro ts hts
    rcases List.mem_cons.1 hts with rfl | hts
    · exact (Expression.matches_parenthesizeKindsIf h.1 _).balanced
    · exact ih h.2 ts hts

theorem balanced_commaSeparatedKinds (h : ∀ ts ∈ lists, Balanced ts) :
    Balanced (commaSeparatedKinds lists) := by
  cases lists with
  | nil => exact balanced_nil
  | cons ts lists =>
    rw [commaSeparatedKinds_cons]
    exact (h ts List.mem_cons_self).append
      (balanced_trailingKinds fun us hmem => h us (List.mem_cons_of_mem ts hmem))

end Balance

theorem itemsFit_append_cons {before after : List Expression} {x : Expression}
    (h : itemsFit .written (before ++ x :: after)) :
    itemsFit .written before ∧ x.Fits .written ∧ itemsFit .written after := by
  induction before with
  | nil => exact ⟨trivial, h⟩
  | cons item before ih => exact ⟨⟨h.1, (ih h.2).1⟩, (ih h.2).2⟩

/-! ## Places -/

namespace Expression

/-- Whatever stands for an operand in the text of an expression is read as that operand, and
the operand does not stand there without the parentheses that it needs. Where they are spared, it
is a pair of parentheses that has to stand there. -/
def Keeps (e : Expression) (needed : Bool) (operand : Expression)
    (before after : List TokenKind) : Prop :=
  ∀ xs, Matches operand.reread xs →
    (needed = true → sparesParens e operand = true → xs.head? = some (.punctuator .leftParen)) →
    Derives (.expression .sequence e.reread) (before ++ (xs ++ after)) →
    ∃ l, Derives (.expression l operand.reread) xs
      ∧ (needed = true → sparesParens e operand = false → xs ≠ operand.kinds)

/-- A place that asks for a tighter level. -/
theorem keeps_of_lt {e operand : Expression} {needed : Bool} {before after : List TokenKind}
    {l : Level} (hfits : operand.Fits .written)
    (hlevel : needed = true → sparesParens e operand = false → operand.level < l)
    (h : ∀ xs, Matches operand.reread xs →
      (needed = true → sparesParens e operand = true →
        xs.head? = some (.punctuator .leftParen)) →
      Derives (.expression .sequence e.reread) (before ++ (xs ++ after)) →
      Derives (.expression l operand.reread) xs) :
    e.Keeps needed operand before after := by
  intro xs hxs hspared hderives
  refine ⟨l, h xs hxs hspared hderives, ?_⟩
  rintro hneeded hspares rfl
  exact not_le_of_gt (hlevel hneeded hspares)
    ((h _ hxs hspared hderives).le_level_of_kinds hfits)

variable {x y z : Expression}

/-! ### Operators -/

/-- Of the operators that are not mixed, `??` binds looser than the others. -/
theorem level_lt_of_mixesNullish {operator : BinaryOperator} {operand : Expression}
    (hmixes : mixesNullish operator operand = true)
    (hspares : sparesParens (.binary operator x y) operand = false) :
    operand.level < operator.level := by
  cases operand with
  | binary inner left right =>
    simp only [mixesNullish, Bool.or_eq_true, Bool.and_eq_true, beq_iff_eq] at hmixes
    obtain ⟨rfl, rfl | rfl⟩ | ⟨rfl | rfl, rfl⟩ := hmixes
    · cases hspares
    · cases hspares
    · exact (by decide : Level.coalesce < .logicalAnd)
    · exact (by decide : Level.coalesce < .logicalOr)
  | _ => cases hmixes

theorem level_lt_of_leftNeedsParens {operator : BinaryOperator} (hoperator : operator ≠ .exponent)
    (hneeded : leftNeedsParens operator x = true)
    (hspares : sparesParens (.binary operator x y) x = false) : x.level < operator.level := by
  by_contra hlevel
  refine hlevel (level_lt_of_mixesNullish ?_ hspares)
  unfold leftNeedsParens at hneeded
  split at hneeded
  · exact absurd rfl hoperator
  · simpa [hlevel, hoperator] using hneeded

theorem level_lt_of_exponentNeedsParens (hneeded : leftNeedsParens .exponent x = true)
    (hspares : sparesParens (.binary .exponent x y) x = false) :
    x.level < .unary ∨ ∃ operator argument, x = .unary operator argument := by
  by_cases hunary : ∃ operator argument, x = .unary operator argument
  · exact .inr hunary
  · have hplain : leftNeedsParens .exponent x = (decide (x.level < .exponent)
        || x.level == .exponent || mixesNullish .exponent x) := by
      cases x with
      | unary operator argument => exact absurd ⟨operator, argument, rfl⟩ hunary
      | _ => rfl
    simp only [hplain, Bool.or_eq_true, decide_eq_true_eq, beq_iff_eq] at hneeded
    refine .inl (lt_of_le_of_lt (b := .exponent) ?_ (by decide))
    obtain (hlt | heq) | hmixes := hneeded
    · exact hlt.le
    · exact heq.le
    · exact (level_lt_of_mixesNullish hmixes hspares).le

theorem level_le_of_rightNeedsParens_eq_true {operator : BinaryOperator}
    (hneeded : rightNeedsParens operator y = true)
    (hspares : sparesParens (.binary operator x y) y = false) :
    y.level ≤ operator.level ∧ (operator = .exponent → y.level < operator.level) := by
  by_cases hlt : y.level < operator.level
  · exact ⟨hlt.le, fun _ => hlt⟩
  · have hmixes : ¬ mixesNullish operator y = true :=
      fun hmixes => hlt (level_lt_of_mixesNullish hmixes hspares)
    simp only [rightNeedsParens, hlt, hmixes, decide_false, Bool.false_or, Bool.or_false,
      Bool.and_eq_true, bne_iff_ne, beq_iff_eq] at hneeded
    exact ⟨hneeded.2.le, fun hexponent => absurd hexponent hneeded.1⟩

theorem keeps_left {operator : BinaryOperator} (h : (binary operator x y).Fits .written) :
    (binary operator x y).Keeps (leftNeedsParens operator x) x []
      (.ofText operator.text :: parenthesizeKindsIf (rightNeedsParens operator y) y.kinds) := by
  intro xs hxs _ hderives
  rw [List.nil_append, reread] at hderives
  rcases hderives.of_binary operator.weight_ofText hxs (weightOf_operandKinds y _) with
    ⟨hoperator, hleft, -⟩ | ⟨rfl, hhead, hleft, -⟩
  · refine ⟨_, hleft, ?_⟩
    rintro hneeded hspares rfl
    exact not_le_of_gt (level_lt_of_leftNeedsParens hoperator hneeded hspares)
      (hleft.le_level_of_kinds h.1)
  · refine ⟨_, hleft, ?_⟩
    rintro hneeded hspares rfl
    obtain hlt | ⟨sign, argument, rfl⟩ := level_lt_of_exponentNeedsParens hneeded hspares
    · exact not_le_of_gt hlt (hleft.le_level_of_kinds h.1)
    · -- The base would start with the sign.
      have hsign := hhead (.ofText sign.text) rfl
      rw [sign.ofKind?_ofText] at hsign
      cases hsign

theorem keeps_right {operator : BinaryOperator} (h : (binary operator x y).Fits .written) :
    (binary operator x y).Keeps (rightNeedsParens operator y) y
      (parenthesizeKindsIf (leftNeedsParens operator x) x.kinds
        ++ [TokenKind.ofText operator.text]) [] := by
  intro ys hys _ hderives
  rw [List.append_nil, List.append_assoc, List.singleton_append, reread] at hderives
  rcases hderives.of_binary operator.weight_ofText (matches_parenthesizeKindsIf h.1 _) hys.weight
    with ⟨-, -, l, hl, hright⟩ | ⟨rfl, -, -, hright⟩
  · refine ⟨l, hright, ?_⟩
    rintro hneeded hspares rfl
    have hle := (level_le_of_rightNeedsParens_eq_true hneeded hspares).1
    exact not_le_of_gt (hle.trans_lt hl) (hright.le_level_of_kinds h.2)
  · refine ⟨_, hright, ?_⟩
    rintro hneeded hspares rfl
    have hlt := (level_le_of_rightNeedsParens_eq_true hneeded hspares).2 rfl
    exact not_le_of_gt hlt (hright.le_level_of_kinds h.2)

theorem keeps_argument {operator : UnaryOperator} (h : (unary operator x).Fits .written) :
    (unary operator x).Keeps (decide (x.level < .unary)) x [.ofText operator.text] [] := by
  refine keeps_of_lt h (fun hneeded _ => of_decide_eq_true hneeded) fun xs _ _ hderives => ?_
  rw [List.append_nil, List.singleton_append, reread] at hderives
  exact (hderives.of_unary (by simp [operator.weight_ofText])).2

theorem keeps_updatedAfter {operator : UpdateOperator} {line : ℕ}
    (h : (update operator x true line).Fits .written) :
    (update operator x true line).Keeps (decide (x.level < .postfix_)) x
      [.ofText operator.text] [] := by
  have htarget := (call_le_of_isTarget h.1).trans' (by decide : Level.postfix_ ≤ .call)
  refine keeps_of_lt (l := .unary) h.2.1 (fun hneeded _ => ?_) fun xs _ _ hderives => ?_
  · exact absurd htarget (not_le_of_gt (of_decide_eq_true hneeded))
  · rw [List.append_nil, List.singleton_append, reread] at hderives
    exact hderives.of_updateBefore (by simp [operator.weight_ofText])

theorem keeps_updatedBefore {operator : UpdateOperator} {line : ℕ}
    (h : (update operator x false line).Fits .written) :
    (update operator x false line).Keeps (decide (x.level < .postfix_)) x []
      [.ofText operator.text] := by
  refine keeps_of_lt (l := .call) h.2.1 (fun hneeded _ => ?_) fun xs hxs _ hderives => ?_
  · exact (of_decide_eq_true hneeded).trans (by decide)
  · rw [List.nil_append, reread] at hderives
    exact hderives.of_updateAfter hxs

theorem keeps_target {operator : AssignmentOperator} {line : ℕ}
    (h : (assignment operator x y line).Fits .written) :
    (assignment operator x y line).Keeps false x []
      (.ofText operator.text :: parenthesizeKindsIf (decide (y.level < .assignment)) y.kinds) := by
  refine keeps_of_lt (l := .conditional) h.2.1 nofun fun xs hxs _ hderives => ?_
  rw [List.nil_append, reread] at hderives
  exact (hderives.of_assignment operator.weight_ofText hxs (weightOf_operandKinds y _)).1

theorem keeps_value {operator : AssignmentOperator} {line : ℕ}
    (h : (assignment operator x y line).Fits .written) :
    (assignment operator x y line).Keeps (decide (y.level < .assignment)) y
      (x.kinds ++ [TokenKind.ofText operator.text]) [] := by
  refine keeps_of_lt h.2.2.1 (fun hneeded _ => of_decide_eq_true hneeded)
    fun ys hys _ hderives => ?_
  rw [List.append_nil, List.append_assoc, List.singleton_append, reread] at hderives
  exact (hderives.of_assignment operator.weight_ofText (matches_kinds h.2.1) hys.weight).2

theorem keeps_test (h : (conditional x y z).Fits .written) :
    (conditional x y z).Keeps (decide (x.level < .coalesce)) x []
      (.punctuator .question :: (parenthesizeKindsIf (decide (y.level < .assignment)) y.kinds
        ++ .punctuator .colon
          :: parenthesizeKindsIf (decide (z.level < .assignment)) z.kinds)) := by
  refine keeps_of_lt h.1 (fun hneeded _ => of_decide_eq_true hneeded) fun xs hxs _ hderives => ?_
  rw [List.nil_append, reread] at hderives
  exact (hderives.of_conditional hxs (weightOf_operandKinds y _) (weightOf_operandKinds z _)).1

theorem keeps_consequent (h : (conditional x y z).Fits .written) :
    (conditional x y z).Keeps (decide (y.level < .assignment)) y
      (parenthesizeKindsIf (decide (x.level < .coalesce)) x.kinds
        ++ [TokenKind.punctuator .question])
      (.punctuator .colon :: parenthesizeKindsIf (decide (z.level < .assignment)) z.kinds) := by
  refine keeps_of_lt h.2.1 (fun hneeded _ => of_decide_eq_true hneeded) fun ys hys _ hderives => ?_
  rw [List.append_assoc, List.singleton_append, reread] at hderives
  exact (hderives.of_conditional (matches_parenthesizeKindsIf h.1 _) hys.weight
    (weightOf_operandKinds z _)).2.1

theorem keeps_alternate (h : (conditional x y z).Fits .written) :
    (conditional x y z).Keeps (decide (z.level < .assignment)) z
      (parenthesizeKindsIf (decide (x.level < .coalesce)) x.kinds ++ .punctuator .question
        :: (parenthesizeKindsIf (decide (y.level < .assignment)) y.kinds
          ++ [TokenKind.punctuator .colon])) [] := by
  refine keeps_of_lt h.2.2 (fun hneeded _ => of_decide_eq_true hneeded) fun zs hzs _ hderives => ?_
  rw [List.append_nil, List.append_assoc, List.cons_append, List.append_assoc,
    List.singleton_append, reread] at hderives
  exact (hderives.of_conditional (matches_parenthesizeKindsIf h.1 _) (weightOf_operandKinds y _)
    hzs.weight).2.2

/-! ### Accesses and calls -/

/-- Of the objects in parentheses, all but a number bind looser than a call. -/
theorem level_lt_of_isBeforeDot (hneeded : (!x.isBeforeDot) = true)
    (hnumber : ∀ value, x ≠ literal (.number value)) : x.level < .call := by
  by_contra hlevel
  have hdot : x.isBeforeDot = true := by
    unfold isBeforeDot
    split
    · exact absurd rfl (hnumber _)
    · exact decide_eq_true (not_lt.1 hlevel)
  simp [hdot] at hneeded

theorem of_member_reread {l : Level} {property : Identifier} {xs : List TokenKind}
    (h : Derives (.expression l (.member x ⟨property.name, 1⟩))
      (xs ++ [TokenKind.punctuator .dot, .identifier property.name])) (hx : Matches x xs) :
    ∃ m, l ≤ m ∧ .call ≤ m ∧ Derives (.expression m x) xs := by
  have hmember : Derives (.expression l (.member x ⟨property.name, 1⟩))
      (xs ++ [TokenKind.punctuator .dot, .identifier (Identifier.mk property.name 1).name]) := h
  exact hmember.of_member hx

theorem keeps_memberObject {property : Identifier} (h : (member x property).Fits .written) :
    (member x property).Keeps (!x.isBeforeDot) x []
      [.punctuator .dot, .identifier property.name] := by
  refine keeps_of_lt (l := .call) h.1 (fun hneeded hspares => ?_) fun xs hxs _ hderives => ?_
  · exact level_lt_of_isBeforeDot hneeded (by rintro value rfl; cases hspares)
  · rw [List.nil_append, reread] at hderives
    obtain ⟨m, -, hcall, hobject⟩ := of_member_reread hderives hxs
    exact hobject.loosen hcall

theorem keeps_indexObject (h : (index x y).Fits .written) :
    (index x y).Keeps (!x.isBeforeDot) x []
      (.punctuator .leftBracket :: (y.kinds ++ [TokenKind.punctuator .rightBracket])) := by
  refine keeps_of_lt (l := .call) h.1 (fun hneeded hspares => ?_) fun xs hxs _ hderives => ?_
  · exact level_lt_of_isBeforeDot hneeded (by rintro value rfl; cases hspares)
  · rw [List.nil_append, reread] at hderives
    obtain ⟨m, -, hcall, hobject⟩ := (hderives.of_index hxs (weightOf_operandKinds y false)).1
    exact hobject.loosen hcall

theorem keeps_indexProperty (h : (index x y).Fits .written) :
    (index x y).Keeps false y
      (parenthesizeKindsIf (!x.isBeforeDot) x.kinds ++ [TokenKind.punctuator .leftBracket])
      [.punctuator .rightBracket] := by
  refine keeps_of_lt (l := .sequence) h.2 nofun fun ys hys _ hderives => ?_
  rw [List.append_assoc, List.singleton_append, reread] at hderives
  exact (hderives.of_index (matches_parenthesizeKindsIf h.1 _) hys.weight).2

theorem keeps_callee {arguments : List Expression} (h : (call x arguments).Fits .written) :
    (call x arguments).Keeps (decide (x.level < .call)) x []
      (.punctuator .leftParen
        :: (commaSeparatedKinds (itemKinds arguments) ++ [TokenKind.punctuator .rightParen])) := by
  have hitems := balanced_commaSeparatedKinds (balanced_of_mem_itemKinds h.2)
  refine keeps_of_lt h.1 (fun hneeded _ => of_decide_eq_true hneeded) fun xs hxs _ hderives => ?_
  rw [List.nil_append, reread] at hderives
  exact (hderives.of_call hxs hitems).1

/-- The items round the one that stands in a list are balanced. -/
theorem balanced_items {before after : List Expression} {xs : List TokenKind}
    (h : itemsFit .written (before ++ x :: after)) (hxs : Balanced xs) :
    Balanced (leadingKinds (itemKinds before) ++ (xs ++ trailingKinds (itemKinds after))) := by
  obtain ⟨hbefore, -, hafter⟩ := itemsFit_append_cons h
  have hleading := balanced_leadingKinds (balanced_of_mem_itemKinds hbefore)
  have htrailing := balanced_trailingKinds (balanced_of_mem_itemKinds hafter)
  exact hleading.append (hxs.append htrailing)

theorem keeps_callArgument {before after : List Expression}
    (h : (call y (before ++ x :: after)).Fits .written) :
    (call y (before ++ x :: after)).Keeps (decide (x.level < .assignment)) x
      (parenthesizeKindsIf (decide (y.level < .call)) y.kinds
        ++ .punctuator .leftParen :: leadingKinds (itemKinds before))
      (trailingKinds (itemKinds after) ++ [TokenKind.punctuator .rightParen]) := by
  have hx := (itemsFit_append_cons h.2).2.1
  refine keeps_of_lt hx (fun hneeded _ => of_decide_eq_true hneeded) fun xs hxs _ hderives => ?_
  have hitems := balanced_items h.2 hxs.balanced
  have hcall : Derives (.expression .sequence
      (.call y.reread (rereadItems (before ++ x :: after))))
      (parenthesizeKindsIf (decide (y.level < .call)) y.kinds ++ .punctuator .leftParen
        :: (leadingKinds (itemKinds before) ++ (xs ++ trailingKinds (itemKinds after))
          ++ [TokenKind.punctuator .rightParen])) := by
    simpa [reread] using hderives
  exact (hcall.of_call (matches_parenthesizeKindsIf h.1 _) hitems).2.of_items hxs

/-! ### Callees of `new` -/

theorem exists_new_of_reread {arguments : List Expression} (h : x.reread = .new y arguments) :
    ∃ callee others, x = .new callee others := by
  cases x with
  | new callee others => exact ⟨callee, others, rfl⟩
  | literal value =>
    cases value with
    | number value =>
      rw [reread, Literal.reread] at h
      split at h <;> cases h
    | _ => cases h
  | _ => simp [reread] at h

theorem isBeforeDot_of_containsCall (h : containsCall x = true) : x.isBeforeDot = true := by
  cases x <;> first | rfl | cases h

/-- A callee that calls does not stand right after `new`. -/
theorem not_derives_new (hfits : x.Fits .written) (hcall : containsCall x = true) :
    ¬ Derives (.expression .new x.reread) x.kinds := by
  induction x using Expression.induction with
  | call callee arguments _ _ =>
    exact fun h => absurd (h.le_level_of_kinds hfits) (by decide : ¬ Level.new ≤ .call)
  | member object property ih =>
    intro h
    have hobject : containsCall object = true := hcall
    rw [reread, kinds, isBeforeDot_of_containsCall hobject] at h
    obtain ⟨m, hm, -, hderives⟩ :=
      of_member_reread h (matches_kinds hfits.1)
    exact ih hfits.1 hobject (hderives.loosen hm)
  | index object property ih _ =>
    intro h
    have hobject : containsCall object = true := hcall
    rw [reread, kinds, isBeforeDot_of_containsCall hobject] at h
    obtain ⟨m, hm, -, hderives⟩ :=
      (h.of_index (matches_kinds hfits.1) (weightOf_operandKinds property false)).1
    exact ih hfits.1 hobject (hderives.loosen hm)
  | _ => cases hcall

/-- The callee of `new` is read from its own tokens only: a `new` that is itself a callee is in
parentheses. -/
theorem head?_ne_new (arguments : List Expression) {xs : List TokenKind}
    (hspared : (containsCall x || decide (x.level < .member)) = true →
      sparesParens (new x arguments) x = true → xs.head? = some (.punctuator .leftParen)) :
    (∃ callee others, x.reread = .new callee others) → xs.head? ≠ some (.keyword .new) := by
  rintro ⟨_, _, hnew⟩
  obtain ⟨callee, others, rfl⟩ := exists_new_of_reread hnew
  rw [hspared rfl rfl]
  simp

/-- Of the callees that bind looser than an access, all but a `new` bind looser than that. -/
theorem level_lt_new_of_lt_member {arguments : List Expression} (hlevel : x.level < .member)
    (hspares : sparesParens (new x arguments) x = false) : x.level < .new := by
  cases x with
  | new => cases hspares
  | binary operator => exact operator.level_le_exponent.trans_lt (by decide)
  | update operator argument isPrefix line =>
    cases isPrefix
    · exact (by decide : Level.postfix_ < .new)
    · exact (by decide : Level.unary < .new)
  | member | index => exact absurd hlevel (by decide : ¬ Level.member < .member)
  | literal | identifier | this | array | object =>
    exact absurd hlevel (by decide : ¬ Level.primary < .member)
  | call => exact (by decide : Level.call < .new)
  | conditional => exact (by decide : Level.conditional < .new)
  | assignment => exact (by decide : Level.assignment < .new)
  | unary => exact (by decide : Level.unary < .new)
  | sequence => exact (by decide : Level.sequence < .new)

theorem keeps_newCallee {arguments : List Expression} (h : (new x arguments).Fits .written) :
    (new x arguments).Keeps (containsCall x || decide (x.level < .member)) x [.keyword .new]
      (.punctuator .leftParen
        :: (commaSeparatedKinds (itemKinds arguments) ++ [TokenKind.punctuator .rightParen])) := by
  intro xs hxs hspared hderives
  have hempty : rereadItems arguments = [] → commaSeparatedKinds (itemKinds arguments) = [] := by
    cases arguments with
    | nil => exact fun _ => rfl
    | cons => exact nofun
  have hitems := balanced_commaSeparatedKinds (balanced_of_mem_itemKinds h.2)
  rw [List.singleton_append, reread] at hderives
  have hcallee := (hderives.of_new hxs hitems hempty (head?_ne_new arguments hspared)).1
  refine ⟨_, hcallee, ?_⟩
  rintro hneeded hspares rfl
  rw [Bool.or_eq_true, decide_eq_true_eq] at hneeded
  obtain hcall | hlevel := hneeded
  · exact not_derives_new h.1 hcall hcallee
  · exact not_le_of_gt (level_lt_new_of_lt_member hlevel hspares)
      (hcallee.le_level_of_kinds h.1)

theorem keeps_newArgument {before after : List Expression}
    (h : (new y (before ++ x :: after)).Fits .written) :
    (new y (before ++ x :: after)).Keeps (decide (x.level < .assignment)) x
      (.keyword .new
        :: (parenthesizeKindsIf (containsCall y || decide (y.level < .member)) y.kinds
          ++ .punctuator .leftParen :: leadingKinds (itemKinds before)))
      (trailingKinds (itemKinds after) ++ [TokenKind.punctuator .rightParen]) := by
  have hx := (itemsFit_append_cons h.2).2.1
  refine keeps_of_lt hx (fun hneeded _ => of_decide_eq_true hneeded) fun xs hxs _ hderives => ?_
  have hitems := balanced_items h.2 hxs.balanced
  have hnew : Derives (.expression .sequence
      (.new y.reread (rereadItems (before ++ x :: after))))
      (.keyword .new :: (parenthesizeKindsIf (containsCall y || decide (y.level < .member)) y.kinds
        ++ .punctuator .leftParen
        :: (leadingKinds (itemKinds before) ++ (xs ++ trailingKinds (itemKinds after))
          ++ [TokenKind.punctuator .rightParen]))) := by
    simpa [reread] using hderives
  have hnonempty : rereadItems (before ++ x :: after) ≠ [] := by cases before <;> simp [rereadItems]
  refine (hnew.of_new (matches_parenthesizeKindsIf h.1 _) hitems
    (fun hnil => absurd hnil hnonempty) ?_).2.of_items hxs
  refine head?_ne_new (before ++ x :: after) fun hneeded _ => ?_
  simp [hneeded, parenthesizeKindsIf]

/-! ### Items of lists -/

theorem keeps_item {before after : List Expression}
    (h : (sequence (before ++ x :: after)).Fits .written) :
    (sequence (before ++ x :: after)).Keeps (decide (x.level < .assignment)) x
      (leadingKinds (itemKinds before)) (trailingKinds (itemKinds after)) := by
  obtain ⟨hlength, hitems⟩ := h
  have hx := (itemsFit_append_cons hitems).2.1
  refine keeps_of_lt hx (fun hneeded _ => of_decide_eq_true hneeded) fun xs hxs _ hderives => ?_
  rw [reread] at hderives
  cases before with
  | nil =>
    have hafter : trailingKinds (itemKinds after) ≠ [] := by
      cases after with
      | nil => simp at hlength
      | cons => simp [itemKinds, trailingKinds]
    have hlist : Derives (.expression .sequence (.sequence (rereadItems ([] ++ x :: after))))
        (xs ++ trailingKinds (itemKinds after)) := hderives
    have hentries : Derives (.entries false ((rereadItems ([] ++ x :: after)).map .item))
        (leadingKinds (itemKinds []) ++ (xs ++ trailingKinds (itemKinds after))) :=
      hlist.of_sequence hxs.balanced hxs.nonempty hafter
    exact hentries.of_items hxs
  | cons first before =>
    have hfirst := matches_parenthesizeKindsIf hitems.1 (decide (first.level < .assignment))
    have hleading : leadingKinds (itemKinds (first :: before))
        = parenthesizeKindsIf (decide (first.level < .assignment)) first.kinds
          ++ .punctuator .comma :: leadingKinds (itemKinds before) := by
      simp [itemKinds, leadingKinds]
    rw [hleading, List.append_assoc] at hderives
    have hentries := hderives.of_sequence hfirst.balanced hfirst.nonempty (by simp)
    rw [← List.append_assoc, ← hleading] at hentries
    exact hentries.of_items hxs

theorem keeps_element {before after : List (Option Expression)}
    (h : (array (before ++ some x :: after)).Fits .written) :
    (array (before ++ some x :: after)).Keeps (decide (x.level < .assignment)) x
      (.punctuator .leftBracket :: leadingKinds (elementKinds before))
      (trailingKinds (elementKinds after)
        ++ (holeKinds (some x :: after) ++ [TokenKind.punctuator .rightBracket])) := by
  have hx := elementsFit_iff.1 h x (by simp)
  refine keeps_of_lt hx (fun hneeded _ => of_decide_eq_true hneeded) fun xs hxs _ hderives => ?_
  have hweight : (Entry.item x).Weighs xs := hxs.weight.trans x.weight_reread
  have hentries : (before ++ some x :: after).map Entry.ofElement
      = before.map Entry.ofElement ++ Entry.item x :: after.map Entry.ofElement := by
    rw [List.map_append, List.map_cons, Entry.ofElement]
  refine (Derives.of_reread_entries true (weighs_elements before) (weighs_elements after)
    hweight ?_).of_item
  rw [← hentries, closingComma_elements, holeKinds_append_cons, ← map_ofElement_rereadElements]
  refine Derives.of_array (l := .sequence) ?_
  simpa [reread] using hderives

theorem keeps_property {before after : List (PropertyKey × Expression)} {key : PropertyKey}
    (h : (object (before ++ (key, x) :: after)).Fits .written) :
    (object (before ++ (key, x) :: after)).Keeps (decide (x.level < .assignment)) x
      (.punctuator .leftBrace
        :: (leadingKinds (propertyKinds before) ++ [key.kind, .punctuator .colon]))
      (trailingKinds (propertyKinds after) ++ [TokenKind.punctuator .rightBrace]) := by
  have hx := (propertiesFit_iff.1 h (key, x) (by simp)).2
  refine keeps_of_lt hx (fun hneeded _ => of_decide_eq_true hneeded) fun xs hxs _ hderives => ?_
  have hcolon : (TokenKind.punctuator .colon).weight = 1 := rfl
  have hweight : (Entry.property key x).Weighs (key.kind :: .punctuator .colon :: xs) := by
    rw [Entry.Weighs, Entry.weight, weightOf_cons, weightOf_cons, key.weight_kind, hcolon,
      hxs.weight, x.weight_reread, ← add_assoc]
  have hentries : (before ++ (key, x) :: after).map Entry.ofProperty
      = before.map Entry.ofProperty ++ Entry.property key x :: after.map Entry.ofProperty := by
    rw [List.map_append, List.map_cons, Entry.ofProperty]
  refine (Derives.of_reread_entries true (weighs_properties before)
    (weighs_properties after) hweight ?_).of_property
  rw [← hentries, closingComma_properties, ← map_ofProperty_rereadProperties]
  refine Derives.of_object (l := .sequence) ?_
  simpa [reread] using hderives

end Expression

end ScriptSteps
