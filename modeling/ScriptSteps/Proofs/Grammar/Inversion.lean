import Mathlib
import ScriptSteps.Proofs.Grammar.Derivation
import ScriptSteps.Proofs.Tree.Written

/-!
# Taking phrases apart

The tokens of a phrase can be cut into those of its parts in one way only. Signs and words between
the parts are found by weight: an expression has a least weight, which parentheses do not add to,
so a list of that weight leaves no choice where a part ends. Argument lists are found by their
brackets: the parenthesis that opens the last one is the one that its end closes.

## Main definitions

* `TokenKind.weight`, `weightOf`: what tokens weigh
* `Matches`: tokens with the weight of an expression, and balanced

## Main statements

* `Derives.weight_le`, `Derives.balanced`, `Derives.valid`: what holds of the tokens of a phrase
* `Derives.of_parens`, `Derives.of_binary` and so on: the parts of each expression
-/

namespace ScriptSteps

/-! ## Weights -/

/-- The weight of a token: parentheses weigh nothing, and two signs that have run together weigh as
much as the two of them. -/
def TokenKind.weight : TokenKind → ℕ
  | punctuator .leftParen | punctuator .rightParen => 0
  | punctuator .plusPlus | punctuator .minusMinus => 2
  | _ => 1

namespace TokenKind

@[simp] theorem weight_identifier (name : String) : (identifier name).weight = 1 := rfl

@[simp] theorem weight_keyword (word : Keyword) : (keyword word).weight = 1 := rfl

@[simp] theorem weight_leftParen : (punctuator .leftParen).weight = 0 := rfl

@[simp] theorem weight_rightParen : (punctuator .rightParen).weight = 0 := rfl

@[simp] theorem weight_leftBracket : (punctuator .leftBracket).weight = 1 := rfl

@[simp] theorem weight_rightBracket : (punctuator .rightBracket).weight = 1 := rfl

@[simp] theorem weight_leftBrace : (punctuator .leftBrace).weight = 1 := rfl

@[simp] theorem weight_rightBrace : (punctuator .rightBrace).weight = 1 := rfl

@[simp] theorem weight_starStar : (punctuator .starStar).weight = 1 := rfl

@[simp] theorem weight_comma : (punctuator .comma).weight = 1 := rfl

@[simp] theorem weight_dot : (punctuator .dot).weight = 1 := rfl

@[simp] theorem weight_question : (punctuator .question).weight = 1 := rfl

@[simp] theorem weight_colon : (punctuator .colon).weight = 1 := rfl

end TokenKind

/-- The weight of tokens in a row. -/
def weightOf (kinds : List TokenKind) : ℕ := (kinds.map TokenKind.weight).sum

@[simp] theorem weightOf_nil : weightOf [] = 0 := rfl

@[simp] theorem weightOf_cons (k : TokenKind) (ks : List TokenKind) :
    weightOf (k :: ks) = k.weight + weightOf ks := by simp [weightOf]

@[simp] theorem weightOf_append (xs ys : List TokenKind) :
    weightOf (xs ++ ys) = weightOf xs + weightOf ys := by simp [weightOf]

@[simp] theorem weightOf_parenthesizeKindsIf (needed : Bool) (kinds : List TokenKind) :
    weightOf (parenthesizeKindsIf needed kinds) = weightOf kinds := by
  cases needed <;> simp [parenthesizeKindsIf]

section Weights

variable {k : TokenKind}

theorem weight_of_binary {operator : BinaryOperator}
    (h : BinaryOperator.ofKind? k = some operator) : k.weight = 1 := by
  cases k with
  | punctuator sign => cases sign <;> first | rfl | cases h
  | _ => rfl

theorem weight_of_unary {operator : UnaryOperator} (h : UnaryOperator.ofKind? k = some operator) :
    k.weight = 1 := by
  cases k with
  | punctuator sign => cases sign <;> first | rfl | cases h
  | _ => rfl

theorem weight_of_assignment {operator : AssignmentOperator}
    (h : AssignmentOperator.ofKind? k = some operator) : k.weight = 1 := by
  cases k with
  | punctuator sign => cases sign <;> first | rfl | cases h
  | _ => rfl

theorem weight_of_update {operator : UpdateOperator}
    (h : UpdateOperator.ofKind? k = some operator) : k.weight = 2 := by
  cases k with
  | punctuator sign => cases sign <;> first | rfl | cases h
  | _ => cases h

theorem weight_of_literal {value : Literal} (h : Grammar.literalOf? k = some value) :
    k.weight = 1 := by
  cases k with
  | punctuator sign => cases h
  | _ => rfl

theorem PropertyKey.IsToken.of_key {key : PropertyKey} (h : key.IsToken k) :
    k.weight = 1 ∧ k.isPlain = true ∧ k ≠ .invalid := by
  unfold PropertyKey.IsToken at h
  split at h <;> first | exact h.elim | exact h ▸ ⟨rfl, rfl, by simp⟩

end Weights

theorem BinaryOperator.weight_ofText (operator : BinaryOperator) :
    (TokenKind.ofText operator.text).weight = 1 := by
  by_cases hexponent : operator = .exponent
  · rw [hexponent, ofText_exponent]
    rfl
  · exact weight_of_binary (ofKind?_ofText hexponent)

theorem UnaryOperator.weight_ofText (operator : UnaryOperator) :
    (TokenKind.ofText operator.text).weight = 1 := weight_of_unary operator.ofKind?_ofText

theorem UpdateOperator.weight_ofText (operator : UpdateOperator) :
    (TokenKind.ofText operator.text).weight = 2 := weight_of_update operator.ofKind?_ofText

theorem AssignmentOperator.weight_ofText (operator : AssignmentOperator) :
    (TokenKind.ofText operator.text).weight = 1 := weight_of_assignment operator.ofKind?_ofText

theorem Literal.weight_kind (value : Literal) : value.kind.weight = 1 := by
  cases value with
  | number value =>
    rw [kind, numberKind]
    split <;> rfl
  | string value => rfl
  | boolean value => cases value <;> rfl
  | null => rfl

theorem PropertyKey.weight_kind (key : PropertyKey) : key.kind.weight = 1 := by
  cases key with
  | identifier id => rfl
  | literal value => exact value.weight_kind

/-- The least weight of an expression. -/
def Expression.weight (e : Expression) : ℕ := weightOf e.kinds

/-- The least weight of an entry. -/
def Entry.weight : Entry → ℕ
  | hole => 0
  | item e => e.weight
  | property _ value => 2 + value.weight

/-- The comma of its own that a hole at the end of a list has. -/
def closingComma (entries : List Entry) : List TokenKind :=
  match entries.getLast? with
  | some .hole => [.punctuator .comma]
  | _ => []

/-- The least weight of a list of entries. -/
def entriesWeight : List Entry → ℕ
  | [] => 0
  | [entry] => entry.weight + weightOf (closingComma [entry])
  | entry :: entries => entry.weight + 1 + entriesWeight entries

/-- The least weight of a phrase. -/
def Phrase.weight : Phrase → ℕ
  | expression _ e => e.weight
  | entry part => part.weight
  | entries _ parts => entriesWeight parts

/-! ### Lists -/

/-- Tokens of the least weight of an entry. -/
def Entry.Weighs (entry : Entry) (xs : List TokenKind) : Prop := weightOf xs = entry.weight

theorem entriesWeight_cons_cons (entry next : Entry) (entries : List Entry) :
    entriesWeight (entry :: next :: entries)
      = entry.weight + 1 + entriesWeight (next :: entries) := by
  rw [entriesWeight]
  simp

theorem closingComma_cons_cons (entry next : Entry) (entries : List Entry) :
    closingComma (entry :: next :: entries) = closingComma (next :: entries) := by
  simp [closingComma]

/-- Token lists that weigh as much as the entries they stand for weigh so together. -/
theorem weightOf_commaSeparatedKinds {entries : List Entry} {lists : List (List TokenKind)}
    (h : List.Forall₂ Entry.Weighs entries lists) :
    weightOf (commaSeparatedKinds lists) + weightOf (closingComma entries)
      = entriesWeight entries := by
  induction h with
  | nil => rfl
  | cons hhead htail ih =>
    rw [Entry.Weighs] at hhead
    cases htail with
    | nil => simp [commaSeparatedKinds, entriesWeight, hhead]
    | cons hnext htail =>
      rw [closingComma_cons_cons, entriesWeight_cons_cons, ← ih, ← hhead, commaSeparatedKinds]
      · simp [add_assoc]
      · simp

theorem weighs_items (items : List Expression) :
    List.Forall₂ Entry.Weighs (items.map .item) (itemKinds items) := by
  induction items with
  | nil => exact .nil
  | cons item items ih => exact .cons (weightOf_parenthesizeKindsIf _ _) ih

theorem weighs_elements (elements : List (Option Expression)) :
    List.Forall₂ Entry.Weighs (elements.map .ofElement) (elementKinds elements) := by
  induction elements with
  | nil => exact .nil
  | cons element elements ih =>
    cases element with
    | none => exact .cons rfl ih
    | some e => exact .cons (weightOf_parenthesizeKindsIf _ _) ih

theorem weighs_properties (properties : List (PropertyKey × Expression)) :
    List.Forall₂ Entry.Weighs (properties.map .ofProperty) (propertyKinds properties) := by
  induction properties with
  | nil => exact .nil
  | cons property properties ih =>
    refine .cons ?_ ih
    rw [Entry.Weighs, Entry.ofProperty, Entry.weight, weightOf_cons, weightOf_cons,
      PropertyKey.weight_kind, weightOf_parenthesizeKindsIf, ← add_assoc]
    rfl

theorem closingComma_items (items : List Expression) : closingComma (items.map .item) = [] := by
  simp only [closingComma, List.getLast?_map]
  cases items.getLast? <;> rfl

theorem closingComma_properties (properties : List (PropertyKey × Expression)) :
    closingComma (properties.map .ofProperty) = [] := by
  simp only [closingComma, List.getLast?_map]
  cases properties.getLast? <;> rfl

theorem closingComma_elements (elements : List (Option Expression)) :
    closingComma (elements.map .ofElement) = holeKinds elements := by
  simp only [closingComma, holeKinds, List.getLast?_map]
  rcases elements.getLast? with _ | _ | element <;> rfl

theorem weightOf_itemKinds (items : List Expression) :
    weightOf (commaSeparatedKinds (itemKinds items)) = entriesWeight (items.map .item) := by
  simpa [closingComma_items] using weightOf_commaSeparatedKinds (weighs_items items)

/-! ### Expressions -/

namespace Expression

variable (x y z : Expression)

attribute [local simp] weight kinds

@[simp] theorem weight_literal (value : Literal) : (literal value).weight = 1 := by
  simp [value.weight_kind]

@[simp] theorem weight_identifier (id : Identifier) : (identifier id).weight = 1 := rfl

@[simp] theorem weight_this : this.weight = 1 := rfl

@[simp] theorem weight_array (elements : List (Option Expression)) :
    (array elements).weight = 2 + entriesWeight (elements.map .ofElement) := by
  have hitems := weightOf_commaSeparatedKinds (weighs_elements elements)
  rw [closingComma_elements] at hitems
  simp only [weight, kinds, weightOf_cons, weightOf_append, weightOf_nil,
    TokenKind.weight_leftBracket, TokenKind.weight_rightBracket]
  omega

@[simp] theorem weight_object (properties : List (PropertyKey × Expression)) :
    (object properties).weight = 2 + entriesWeight (properties.map .ofProperty) := by
  have hitems := weightOf_commaSeparatedKinds (weighs_properties properties)
  rw [closingComma_properties, weightOf_nil] at hitems
  simp only [weight, kinds, weightOf_cons, weightOf_append, weightOf_nil,
    TokenKind.weight_leftBrace, TokenKind.weight_rightBrace]
  omega

@[simp] theorem weight_binary (operator : BinaryOperator) :
    (binary operator x y).weight = x.weight + 1 + y.weight := by
  simp [operator.weight_ofText, add_assoc]

@[simp] theorem weight_unary (operator : UnaryOperator) :
    (unary operator x).weight = 1 + x.weight := by
  simp [operator.weight_ofText]

@[simp] theorem weight_assignment (operator : AssignmentOperator) (line : ℕ) :
    (assignment operator x y line).weight = x.weight + 1 + y.weight := by
  simp [operator.weight_ofText, add_assoc]

@[simp] theorem weight_update (operator : UpdateOperator) (isPrefix : Bool) (line : ℕ) :
    (update operator x isPrefix line).weight = x.weight + 2 := by
  cases isPrefix <;> simp [operator.weight_ofText, add_comm]

@[simp] theorem weight_call (arguments : List Expression) :
    (call x arguments).weight = x.weight + entriesWeight (arguments.map .item) := by
  simp [weightOf_itemKinds]

@[simp] theorem weight_member (property : Identifier) :
    (member x property).weight = x.weight + 2 := by
  simp

@[simp] theorem weight_index : (index x y).weight = x.weight + y.weight + 2 := by
  simp
  omega

@[simp] theorem weight_conditional :
    (conditional x y z).weight = x.weight + y.weight + z.weight + 2 := by
  simp
  omega

@[simp] theorem weight_new (arguments : List Expression) :
    (new x arguments).weight = 1 + x.weight + entriesWeight (arguments.map .item) := by
  simp [weightOf_itemKinds, add_assoc]

@[simp] theorem weight_sequence (items : List Expression) :
    (sequence items).weight = entriesWeight (items.map .item) := weightOf_itemKinds items

end Expression

/-- A phrase weighs no less than it has to. -/
theorem Derives.weight_le {p : Phrase} {ts : List TokenKind} (h : Derives p ts) :
    p.weight ≤ weightOf ts := by
  induction h with
  | literal hk => simp [Phrase.weight, weight_of_literal hk]
  | identifier id => simp [Phrase.weight]
  | this => simp [Phrase.weight]
  | parens h ih => simpa [Phrase.weight] using ih
  | hole => exact le_rfl
  | item h ih => exact ih
  | nil => exact le_rfl
  | sequence hl hlength h ih => simpa [Phrase.weight] using ih
  | binary hk => simp [Phrase.weight, weight_of_binary hk] at *; omega
  | unary hk => simp [Phrase.weight, weight_of_unary hk] at *; omega
  | updateBefore hk => simp [Phrase.weight, weight_of_update hk] at *; omega
  | updateAfter hk => simp [Phrase.weight, weight_of_update hk] at *; omega
  | assignment hk => simp [Phrase.weight, weight_of_assignment hk] at *; omega
  | property hk =>
    simp [Phrase.weight, Entry.weight, hk.of_key.1] at *; omega
  | newBare => simp [Phrase.weight, entriesWeight] at *; omega
  | array | object | exponent | conditional | call | member | index | new =>
    simp [Phrase.weight] at *; omega
  | @last _ entry _ hhole h ih =>
    have hclosing : closingComma [entry] = [] := by
      cases entry <;> first | rfl | exact absurd rfl hhole
    simpa [Phrase.weight, entriesWeight, hclosing] using ih
  | @cons _ entry entries xs ys h hs ih ihs =>
    cases entries with
    | nil =>
      have hclosing : weightOf (closingComma [entry]) ≤ 1 := by
        cases entry <;> first | exact le_rfl | exact Nat.zero_le 1
      simp [Phrase.weight, entriesWeight] at *
      omega
    | cons next entries =>
      simp [Phrase.weight, entriesWeight_cons_cons] at *
      omega

/-! ## Brackets -/

section Brackets

variable {xs ys xs' ys' ts : List TokenKind} {k : TokenKind} {closers closers' : List Punctuator}

theorem openAfterToken?_append_closers (h : openAfterToken? closers k = some closers')
    (outer : List Punctuator) :
    openAfterToken? (closers ++ outer) k = some (closers' ++ outer) := by
  cases k with
  | punctuator sign =>
    simp only [openAfterToken?] at h ⊢
    split at h
    · obtain rfl := Option.some.inj h
      rfl
    · cases closers <;> grind
  | _ => simp_all [openAfterToken?]

/-- What is open further out does not matter as long as it is not closed. -/
theorem openAfter?_append_closers (h : openAfter? closers ts = some closers')
    (outer : List Punctuator) : openAfter? (closers ++ outer) ts = some (closers' ++ outer) := by
  induction ts generalizing closers with
  | nil =>
    obtain rfl : closers = closers' := Option.some.inj h
    rfl
  | cons k ts ih =>
    rw [openAfter?, List.foldlM_cons] at h
    obtain ⟨next, hnext, hrest⟩ := Option.bind_eq_some_iff.1 h
    rw [openAfter?, List.foldlM_cons, openAfterToken?_append_closers hnext]
    exact ih hrest

/-- Balanced tokens do not count. -/
theorem Balanced.append_iff (h : Balanced xs) : Balanced (xs ++ ys) ↔ Balanced ys := by
  refine forall_congr' fun closers => ?_
  rw [openAfter?_append, h closers, Option.bind_some]

theorem Balanced.append_append_iff (h : Balanced ys) (h' : Balanced ys') :
    Balanced (xs ++ (ys ++ ts)) ↔ Balanced (xs ++ (ys' ++ ts)) := by
  refine forall_congr' fun closers => ?_
  have hsame : ∀ closers, openAfter? closers (ys ++ ts) = openAfter? closers (ys' ++ ts) := by
    intro closers
    rw [openAfter?_append, openAfter?_append, h closers, h' closers]
  rw [openAfter?_append, openAfter?_append]
  simp only [hsame]

theorem balanced_cons_iff (h : k.isPlain = true) : Balanced (k :: xs) ↔ Balanced xs :=
  (balanced_plain h).append_iff

theorem Balanced.enclosed {opener closer : Punctuator} (h : Balanced ts)
    (hopener : opener.closer? = some closer) :
    Balanced (.punctuator opener :: (ts ++ [TokenKind.punctuator closer])) :=
  (UpTo.enclosed ⟨ts, h, rfl⟩ hopener).balanced

/-- The start of balanced tokens leaves a bracket before it open. -/
theorem Balanced.not_balanced_open (h : Balanced (xs ++ ys)) :
    ¬ Balanced (.punctuator .leftParen :: xs) := by
  intro hopen
  have hwhole := h []
  rw [openAfter?_append] at hwhole
  obtain ⟨inner, hinner, -⟩ := Option.bind_eq_some_iff.1 hwhole
  have hframe := openAfter?_append_closers hinner [.rightParen]
  have hclosed : openAfter? [.rightParen] xs = some [] := hopen []
  rw [List.nil_append, hclosed] at hframe
  simp at hframe

/-- What stands in parentheses as a whole does not start with a balanced part. -/
theorem Balanced.enclosed_ne_append (h : Balanced ts) (hxs : Balanced xs) (hne : xs ≠ [])
    (hne' : ys ≠ []) :
    TokenKind.punctuator .leftParen :: (ts ++ [TokenKind.punctuator .rightParen]) ≠ xs ++ ys := by
  intro heq
  obtain ⟨first, xs, rfl⟩ := List.exists_cons_of_ne_nil hne
  obtain ⟨ys, last, rfl⟩ := (List.eq_nil_or_concat ys).resolve_left hne'
  rw [List.concat_eq_append, List.cons_append, List.cons.injEq, ← List.append_assoc] at heq
  obtain ⟨rfl, heq⟩ := heq
  obtain ⟨rfl, -⟩ := List.append_inj' heq rfl
  exact h.not_balanced_open hxs

/-- The last argument list is where its end says it is. -/
theorem Balanced.arguments_inj (hxs : Balanced xs) (hxs' : Balanced xs') (hys : Balanced ys)
    (hys' : Balanced ys')
    (heq : xs ++ TokenKind.punctuator .leftParen :: (ys ++ [TokenKind.punctuator .rightParen])
      = xs' ++ TokenKind.punctuator .leftParen :: (ys' ++ [TokenKind.punctuator .rightParen])) :
    xs = xs' ∧ ys = ys' := by
  -- Were one of the two first parts longer, it would end inside the other's argument list.
  have hlonger : ∀ {xs xs' ys ys' between : List TokenKind}, Balanced xs → Balanced xs' →
      Balanced ys → xs' = xs ++ between →
      TokenKind.punctuator .leftParen :: (ys ++ [TokenKind.punctuator .rightParen])
        = between ++ TokenKind.punctuator .leftParen
          :: (ys' ++ [TokenKind.punctuator .rightParen]) →
      between = [] := by
    rintro xs xs' ys ys' between hxs hxs' hys rfl heq
    cases between with
    | nil => rfl
    | cons first between =>
      rw [List.cons_append, List.cons.injEq, ← List.cons_append, ← List.append_assoc] at heq
      obtain ⟨rfl, heq⟩ := heq
      obtain ⟨rfl, -⟩ := List.append_inj' heq rfl
      exact (hys.not_balanced_open (hxs.append_iff.1 hxs')).elim
  obtain ⟨between, hxs'_eq, hrest⟩ | ⟨between, hxs_eq, hrest⟩ := List.append_eq_append_iff.1 heq
  · obtain rfl := hlonger hxs hxs' hys hxs'_eq hrest
    simpa [eq_comm] using And.intro hxs'_eq hrest
  · obtain rfl := hlonger hxs' hxs hys' hxs_eq hrest
    simpa [eq_comm] using And.intro hxs_eq hrest

end Brackets

/-- The tokens of a phrase are balanced. -/
theorem Derives.balanced {p : Phrase} {ts : List TokenKind} (h : Derives p ts) : Balanced ts := by
  induction h with
  | literal hk => exact balanced_plain (isPlain_of_literal hk).1
  | identifier | this => exact balanced_plain rfl
  | parens h ih => exact ih.enclosed rfl
  | array h ih => exact ih.enclosed rfl
  | object h ih => exact ih.enclosed rfl
  | binary hk hl hm hx hy ihx ihy =>
    exact ihx.append ((balanced_cons_iff (isPlain_of_binary hk)).2 ihy)
  | exponent hl hhead hx hy ihx ihy => exact ihx.append ((balanced_cons_iff rfl).2 ihy)
  | unary hk hl hx ihx => exact (balanced_cons_iff (isPlain_of_unary hk)).2 ihx
  | updateBefore hk hl htarget hx ihx => exact (balanced_cons_iff (isPlain_of_update hk).1).2 ihx
  | updateAfter hk hl htarget hx ihx => exact ihx.append (balanced_plain (isPlain_of_update hk).1)
  | assignment hk hl htarget hx hy ihx ihy =>
    exact ihx.append ((balanced_cons_iff (isPlain_of_assignment hk)).2 ihy)
  | conditional hl hx hy hz ihx ihy ihz =>
    exact ihx.append ((balanced_cons_iff rfl).2 (ihy.append ((balanced_cons_iff rfl).2 ihz)))
  | call hl hx hys ihx ihys => exact ihx.append (ihys.enclosed rfl)
  | member hl hnew hcall hx ihx => exact ihx.append ((balanced_cons_iff rfl).2 (balanced_plain rfl))
  | index hl hnew hcall hx hy ihx ihy => exact ihx.append (ihy.enclosed rfl)
  | new hl hx hys ihx ihys => exact (balanced_cons_iff rfl).2 (ihx.append (ihys.enclosed rfl))
  | newBare hl hx ihx => exact (balanced_cons_iff rfl).2 ihx
  | sequence hl hlength h ih => exact ih
  | hole | nil => exact balanced_nil
  | item h ih => exact ih
  | property hk h ih =>
    exact (balanced_cons_iff hk.of_key.2.1).2 ((balanced_cons_iff rfl).2 ih)
  | last hhole h ih => exact ih
  | cons h hs ih ihs => exact ih.append ((balanced_cons_iff rfl).2 ihs)

/-- No phrase has an invalid token. -/
theorem Derives.valid {p : Phrase} {ts : List TokenKind} (h : Derives p ts) :
    .invalid ∉ ts := by
  induction h with
  | literal hk => grind [Grammar.literalOf?]
  | binary hk => grind [BinaryOperator.ofKind?]
  | unary hk => grind [UnaryOperator.ofKind?]
  | updateBefore hk => grind [UpdateOperator.ofKind?]
  | updateAfter hk => grind [UpdateOperator.ofKind?]
  | assignment hk => grind [AssignmentOperator.ofKind?]
  | property hk => grind [hk.of_key.2.2]
  | _ => simp_all

/-! ## Parts of expressions -/

/-- Tokens that may stand for an expression: they have its weight and are balanced. -/
structure Matches (e : Expression) (xs : List TokenKind) : Prop where
  nonempty : xs ≠ []
  weight : weightOf xs = e.weight
  balanced : Balanced xs

/-- The start of a text is not in parentheses with the rest of it. -/
theorem Matches.ne_enclosed {e : Expression} {xs ys ts : List TokenKind} (h : Matches e xs)
    (hts : Balanced ts) (hne : ys ≠ []) :
    xs ++ ys ≠ TokenKind.punctuator .leftParen :: (ts ++ [TokenKind.punctuator .rightParen]) :=
  (hts.enclosed_ne_append h.balanced h.nonempty hne).symm

/-- Lists that are no heavier than they have to be are divided at the same sign. -/
theorem append_cons_inj_of_weight {xs xs' ys ys' : List TokenKind} {k k' : TokenKind}
    (heq : xs ++ k :: ys = xs' ++ k' :: ys') (hk : k.weight = 1) (hk' : k'.weight = 1)
    (hxs : weightOf xs ≤ weightOf xs') (hys : weightOf ys ≤ weightOf ys') :
    xs = xs' ∧ k = k' ∧ ys = ys' := by
  have hsum := congrArg weightOf heq
  simp only [weightOf_append, weightOf_cons, hk, hk'] at hsum
  obtain ⟨between, hbetween, hrest⟩ | ⟨between, hbetween, hrest⟩ := List.append_eq_append_iff.1 heq
  all_goals
    have hempty : between = [] := by
      cases between with
      | nil => rfl
      | cons first between =>
        obtain ⟨rfl, -⟩ := List.cons.inj hrest
        rw [hbetween, weightOf_append, weightOf_cons] at hsum
        rw [hbetween, weightOf_append, weightOf_cons] at hxs
        omega
    subst hempty
    simp_all

namespace Derives

variable {l : Level} {x y z : Expression} {xs ys zs ts : List TokenKind} {k : TokenKind}

theorem ne_nil {e : Expression} (h : Derives (.expression l e) ts) : ts ≠ [] := by
  cases h with
  | sequence hl hlength h =>
    rename_i items
    match items, hlength with
    | first :: second :: rest, _ =>
      cases h with
      | cons => simp
  | _ => simp

theorem ne_enclosed {e : Expression} (h : Derives (.expression l e) xs) (hts : Balanced ts)
    (hne : ys ≠ []) :
    xs ++ ys ≠ TokenKind.punctuator .leftParen :: (ts ++ [TokenKind.punctuator .rightParen]) :=
  (hts.enclosed_ne_append h.balanced h.ne_nil hne).symm

/-- Parentheses round balanced tokens are those of a group. -/
theorem of_parens (h : Derives (.expression l x)
      (.punctuator .leftParen :: (ts ++ [TokenKind.punctuator .rightParen]))) (hts : Balanced ts) :
    Derives (.expression .sequence x) ts := by
  generalize heq : TokenKind.punctuator .leftParen :: (ts ++ [TokenKind.punctuator .rightParen])
    = us at h
  cases h with
  | parens h =>
    obtain rfl : ts = _ := by simpa using heq
    exact h
  | binary _ _ _ hx | exponent _ _ hx | updateAfter _ _ _ hx | assignment _ _ _ hx
  | conditional _ hx | call _ hx | member _ _ _ hx | index _ _ _ hx =>
    exact absurd heq.symm (hx.ne_enclosed hts (by simp))
  | unary hk | updateBefore hk =>
    obtain ⟨rfl, -⟩ := List.cons.inj heq
    cases hk
  | sequence hl hlength h =>
    rename_i items
    match items, hlength with
    | first :: second :: rest, _ =>
      cases h with
      | cons hfirst hrest =>
        cases hfirst with
        | item hfirst =>
          exact absurd heq.symm (hfirst.ne_enclosed hts (by simp))
  | _ => simp at heq

theorem of_binary {operator : BinaryOperator}
    (h : Derives (.expression l (.binary operator x y)) (xs ++ k :: ys)) (hk : k.weight = 1)
    (hx : Matches x xs) (hy : weightOf ys = y.weight) :
    (operator ≠ .exponent ∧ Derives (.expression operator.level x) xs
        ∧ ∃ m, operator.level < m ∧ Derives (.expression m y) ys)
      ∨ (operator = .exponent ∧ (∀ k ∈ xs.head?, UnaryOperator.ofKind? k = none)
        ∧ Derives (.expression .unary x) xs ∧ Derives (.expression .exponent y) ys) := by
  generalize heq : xs ++ k :: ys = us at h
  cases h with
  | parens h => exact absurd heq (hx.ne_enclosed h.balanced (by simp))
  | binary hk' hl hm hx' hy' =>
    obtain ⟨rfl, rfl, rfl⟩ := append_cons_inj_of_weight heq hk (weight_of_binary hk')
      (hx.weight.trans_le hx'.weight_le) (hy.trans_le hy'.weight_le)
    refine .inl ⟨?_, hx', _, hm, hy'⟩
    rintro rfl
    exact absurd (BinaryOperator.level_le_of_ofKind? hk') (by decide)
  | exponent hl hhead hx' hy' =>
    obtain ⟨rfl, rfl, rfl⟩ := append_cons_inj_of_weight heq hk rfl
      (hx.weight.trans_le hx'.weight_le) (hy.trans_le hy'.weight_le)
    exact .inr ⟨rfl, hhead, hx', hy'⟩

theorem of_unary {operator : UnaryOperator}
    (h : Derives (.expression l (.unary operator x)) (k :: xs)) (hk : 0 < k.weight) :
    UnaryOperator.ofKind? k = some operator ∧ Derives (.expression .unary x) xs := by
  cases h with
  | parens h => exact absurd hk (by decide)
  | unary hk' hl hx => exact ⟨hk', hx⟩

theorem of_updateBefore {operator : UpdateOperator} {line : ℕ}
    (h : Derives (.expression l (.update operator x true line)) (k :: xs)) (hk : 0 < k.weight) :
    Derives (.expression .unary x) xs := by
  cases h with
  | parens h => exact absurd hk (by decide)
  | updateBefore hk' hl htarget hx => exact hx

theorem of_updateAfter {operator : UpdateOperator} {line : ℕ}
    (h : Derives (.expression l (.update operator x false line)) (xs ++ [k]))
    (hx : Matches x xs) : Derives (.expression .call x) xs := by
  generalize heq : xs ++ [k] = us at h
  cases h with
  | parens h => exact absurd heq (hx.ne_enclosed h.balanced (by simp))
  | updateAfter hk' hl htarget hx' =>
    obtain ⟨rfl, -⟩ := List.append_inj' heq rfl
    exact hx'

theorem of_assignment {operator : AssignmentOperator} {line : ℕ}
    (h : Derives (.expression l (.assignment operator x y line)) (xs ++ k :: ys))
    (hk : k.weight = 1) (hx : Matches x xs) (hy : weightOf ys = y.weight) :
    Derives (.expression .conditional x) xs ∧ Derives (.expression .assignment y) ys := by
  generalize heq : xs ++ k :: ys = us at h
  cases h with
  | parens h => exact absurd heq (hx.ne_enclosed h.balanced (by simp))
  | assignment hk' hl htarget hx' hy' =>
    obtain ⟨rfl, -, rfl⟩ := append_cons_inj_of_weight heq hk (weight_of_assignment hk')
      (hx.weight.trans_le hx'.weight_le) (hy.trans_le hy'.weight_le)
    exact ⟨hx', hy'⟩

theorem of_conditional
    (h : Derives (.expression l (.conditional x y z))
      (xs ++ .punctuator .question :: (ys ++ .punctuator .colon :: zs)))
    (hx : Matches x xs) (hy : weightOf ys = y.weight) (hz : weightOf zs = z.weight) :
    Derives (.expression .coalesce x) xs ∧ Derives (.expression .assignment y) ys
      ∧ Derives (.expression .assignment z) zs := by
  generalize heq : xs ++ TokenKind.punctuator .question
    :: (ys ++ TokenKind.punctuator .colon :: zs) = us at h
  cases h with
  | parens h => exact absurd heq (hx.ne_enclosed h.balanced (by simp))
  | conditional hl hx' hy' hz' =>
    have hyle := hy.trans_le hy'.weight_le
    have hzle := hz.trans_le hz'.weight_le
    obtain ⟨rfl, -, hbranches⟩ := append_cons_inj_of_weight heq rfl rfl
      (hx.weight.trans_le hx'.weight_le) (by simp only [weightOf_append, weightOf_cons]; omega)
    obtain ⟨rfl, -, rfl⟩ := append_cons_inj_of_weight hbranches rfl rfl hyle hzle
    exact ⟨hx', hy', hz'⟩

theorem of_call {arguments : List Expression}
    (h : Derives (.expression l (.call x arguments))
      (xs ++ .punctuator .leftParen :: (ys ++ [TokenKind.punctuator .rightParen])))
    (hx : Matches x xs) (hys : Balanced ys) :
    Derives (.expression .call x) xs ∧ Derives (.entries true (arguments.map .item)) ys := by
  generalize heq : xs ++ TokenKind.punctuator .leftParen
    :: (ys ++ [TokenKind.punctuator .rightParen]) = us at h
  cases h with
  | parens h => exact absurd heq (hx.ne_enclosed h.balanced (by simp))
  | call hl hx' hys' =>
    obtain ⟨rfl, rfl⟩ := hx.balanced.arguments_inj hx'.balanced hys hys'.balanced heq
    exact ⟨hx', hys'⟩

theorem of_member {property : Identifier}
    (h : Derives (.expression l (.member x property))
      (xs ++ [TokenKind.punctuator .dot, .identifier property.name])) (hx : Matches x xs) :
    ∃ m, l ≤ m ∧ .call ≤ m ∧ Derives (.expression m x) xs := by
  generalize heq : xs ++ [TokenKind.punctuator .dot, .identifier property.name] = us at h
  cases h with
  | parens h => exact absurd heq (hx.ne_enclosed h.balanced (by simp))
  | member hl hnew hcall hx' =>
    obtain ⟨rfl, -⟩ := List.append_inj' heq rfl
    exact ⟨_, hl, hcall, hx'⟩

theorem of_index
    (h : Derives (.expression l (.index x y))
      (xs ++ .punctuator .leftBracket :: (ys ++ [TokenKind.punctuator .rightBracket])))
    (hx : Matches x xs) (hy : weightOf ys = y.weight) :
    (∃ m, l ≤ m ∧ .call ≤ m ∧ Derives (.expression m x) xs)
      ∧ Derives (.expression .sequence y) ys := by
  generalize heq : xs ++ TokenKind.punctuator .leftBracket
    :: (ys ++ [TokenKind.punctuator .rightBracket]) = us at h
  cases h with
  | parens h => exact absurd heq (hx.ne_enclosed h.balanced (by simp))
  | index hl hnew hcall hx' hy' =>
    obtain ⟨rfl, -, hproperty⟩ := append_cons_inj_of_weight heq rfl rfl
      (hx.weight.trans_le hx'.weight_le)
      (by simpa only [weightOf_append, Nat.add_le_add_iff_right] using hy.trans_le hy'.weight_le)
    obtain ⟨rfl, -⟩ := List.append_inj' hproperty rfl
    exact ⟨⟨_, hl, hcall, hx'⟩, hy'⟩

theorem of_array {elements : List (Option Expression)}
    (h : Derives (.expression l (.array elements))
      (.punctuator .leftBracket :: (ts ++ [TokenKind.punctuator .rightBracket]))) :
    Derives (.entries true (elements.map .ofElement)) ts := by
  generalize heq : TokenKind.punctuator .leftBracket
    :: (ts ++ [TokenKind.punctuator .rightBracket]) = us at h
  cases h with
  | parens h => simp at heq
  | array h =>
    obtain rfl : ts = _ := by simpa using heq
    exact h

theorem of_object {properties : List (PropertyKey × Expression)}
    (h : Derives (.expression l (.object properties))
      (.punctuator .leftBrace :: (ts ++ [TokenKind.punctuator .rightBrace]))) :
    Derives (.entries true (properties.map .ofProperty)) ts := by
  generalize heq : TokenKind.punctuator .leftBrace :: (ts ++ [TokenKind.punctuator .rightBrace])
    = us at h
  cases h with
  | parens h => simp at heq
  | object h =>
    obtain rfl : ts = _ := by simpa using heq
    exact h

theorem of_sequence {items : List Expression}
    (h : Derives (.expression l (.sequence items)) (xs ++ ys)) (hxs : Balanced xs) (hne : xs ≠ [])
    (hne' : ys ≠ []) : Derives (.entries false (items.map .item)) (xs ++ ys) := by
  generalize heq : xs ++ ys = us at h ⊢
  cases h with
  | parens h => exact (h.balanced.enclosed_ne_append hxs hne hne' heq.symm).elim
  | sequence hl hlength h => exact h

/-- A callee that ends with an empty argument list is itself a `new`. -/
theorem exists_new
    (h : Derives (.expression .new x)
      (xs ++ [TokenKind.punctuator .leftParen, .punctuator .rightParen]))
    (hx : Matches x xs) :
    xs.head? = some (.keyword .new) ∧ ∃ callee arguments, x = .new callee arguments := by
  generalize heq : xs ++ [TokenKind.punctuator .leftParen, .punctuator .rightParen] = us at h
  have hback := congrArg List.reverse heq
  cases h with
  | parens h => exact absurd heq (hx.ne_enclosed h.balanced (by simp))
  | new | newBare =>
    obtain ⟨first, rest, rfl⟩ := List.exists_cons_of_ne_nil hx.nonempty
    obtain ⟨rfl, -⟩ := List.cons.inj heq
    exact ⟨rfl, _, _, rfl⟩
  | binary hk hl => exact absurd (hl.trans (BinaryOperator.level_le_exponent _)) (by decide)
  | exponent hl | unary _ hl | updateBefore _ hl | updateAfter _ hl | assignment _ hl
  | conditional hl | call hl | sequence hl => exact absurd hl (by decide)
  | _ => simp at hback

theorem of_new {arguments : List Expression}
    (h : Derives (.expression l (.new x arguments))
      (.keyword .new
        :: (xs ++ .punctuator .leftParen :: (ys ++ [TokenKind.punctuator .rightParen]))))
    (hx : Matches x xs) (hys : Balanced ys) (hempty : arguments = [] → ys = [])
    (hcallee : (∃ callee arguments, x = .new callee arguments) →
      xs.head? ≠ some (.keyword .new)) :
    Derives (.expression .new x) xs ∧ Derives (.entries true (arguments.map .item)) ys := by
  generalize heq : TokenKind.keyword .new
    :: (xs ++ .punctuator .leftParen :: (ys ++ [TokenKind.punctuator .rightParen])) = us at h
  cases h with
  | parens h => simp at heq
  | new hl hx' hys' =>
    obtain ⟨rfl, rfl⟩ := hx.balanced.arguments_inj hx'.balanced hys hys'.balanced
      (List.cons.inj heq).2
    exact ⟨hx', hys'⟩
  | newBare hl hx' =>
    -- The list would belong to the callee, which is a `new` in parentheses.
    rw [hempty rfl] at heq
    rw [← (List.cons.inj heq).2] at hx'
    obtain ⟨hhead, hnew⟩ := hx'.exists_new hx
    exact absurd hhead (hcallee hnew)

/-- The entries of a list are divided at its commas. -/
theorem of_entries {trailing : Bool} {entries : List Entry} {lists : List (List TokenKind)}
    (hlists : List.Forall₂ Entry.Weighs entries lists)
    (h : Derives (.entries trailing entries)
      (commaSeparatedKinds lists ++ closingComma entries)) :
    List.Forall₂ (fun entry xs => Derives (.entry entry) xs) entries lists := by
  induction hlists with
  | nil => exact .nil
  | @cons entry xs entries lists hhead htail ih =>
    cases htail with
    | nil =>
      generalize heq : commaSeparatedKinds [xs] ++ closingComma [entry] = us at h
      refine .cons ?_ .nil
      cases h with
      | last hhole h =>
        have hclosing : closingComma [entry] = [] := by
          cases entry <;> first | rfl | exact absurd rfl hhole
        obtain rfl : xs = _ := by simpa [commaSeparatedKinds, hclosing] using heq
        exact h
      | cons h hs =>
        cases hs with
        | nil =>
          -- The comma at the end is that of a hole.
          have hle := h.weight_le
          have hsum := congrArg weightOf heq
          rw [Entry.Weighs] at hhead
          cases entry with
          | hole =>
            obtain ⟨rfl, -⟩ := List.append_inj' heq rfl
            exact h
          | item | property =>
            simp_all [commaSeparatedKinds, closingComma, Phrase.weight]
            omega
    | @cons next ys entries lists hnext htail =>
      have htext : commaSeparatedKinds (xs :: ys :: lists)
          ++ closingComma (entry :: next :: entries) = xs ++ .punctuator .comma
            :: (commaSeparatedKinds (ys :: lists) ++ closingComma (next :: entries)) := by
        rw [closingComma_cons_cons, commaSeparatedKinds]
        · simp
        · simp
      rw [htext] at h
      generalize heq : xs ++ .punctuator .comma
        :: (commaSeparatedKinds (ys :: lists) ++ closingComma (next :: entries)) = us at h
      cases h with
      | cons h hs =>
        have hrest := weightOf_commaSeparatedKinds (.cons hnext htail)
        rw [← weightOf_append] at hrest
        obtain ⟨rfl, -, rfl⟩ := append_cons_inj_of_weight heq rfl rfl
          (hhead.trans_le h.weight_le) (hrest.trans_le hs.weight_le)
        exact .cons h (ih hs)

end Derives

end ScriptSteps
