import Mathlib
import ScriptSteps.Proofs.Token.Scanned
import ScriptSteps.Proofs.Tree.Level
import ScriptSteps.Proofs.Tree.Shape

/-!
# The tokens of a written expression

An expression is written with just enough blanks that its tokens do not run together: its text is
cut into the tokens that its parts ask for, whatever follows it, as long as that does not go on
with its last word or number.

## Main definitions

* `Expression.kinds`: the tokens of an expression
* `Expression.reread`: the expression as it is read back

## Main statements

* `Expression.scanned_render`: a written expression is cut into its tokens
-/

namespace ScriptSteps

/-- What may stand at the leaves of an expression that can be read back. -/
def Vocabulary.written : Vocabulary where
  name word := isName word = true
  number x := x.IsMagnitude
  string _ := True
  line _ := True

/-! ## Reading back -/

/-- A literal as it is read back. -/
def Literal.reread : Literal → Expression
  | number value =>
    if value.isInfinite then .identifier ⟨"Infinity", 1⟩ else .literal (.number value)
  | string value => .literal (.string (rereadString value))
  | boolean value => .literal (.boolean value)
  | null => .literal .null

/-- A key as it is read back. -/
def PropertyKey.reread : PropertyKey → PropertyKey
  | identifier id => .identifier ⟨id.name, 1⟩
  | literal (.number value) =>
    if value.isInfinite then .identifier ⟨"Infinity", 1⟩ else .literal (.number value)
  | literal (.string value) => .literal (.string (rereadString value))
  | literal value => .literal value

mutual

/-- An expression as it is read back: everything on the first line, infinity as a name, and strings
without the backslashes of escapes that are not known. -/
def Expression.reread : Expression → Expression
  | .literal value => value.reread
  | .identifier id => .identifier ⟨id.name, 1⟩
  | .this => .this
  | .array elements => .array (rereadElements elements)
  | .object properties => .object (rereadProperties properties)
  | .binary operator left right => .binary operator left.reread right.reread
  | .unary operator argument => .unary operator argument.reread
  | .assignment operator left right _ => .assignment operator left.reread right.reread 1
  | .call callee arguments => .call callee.reread (rereadItems arguments)
  | .member object property => .member object.reread ⟨property.name, 1⟩
  | .index object property => .index object.reread property.reread
  | .conditional test consequent alternate =>
    .conditional test.reread consequent.reread alternate.reread
  | .new callee arguments => .new callee.reread (rereadItems arguments)
  | .update operator argument isPrefix _ => .update operator argument.reread isPrefix 1
  | .sequence expressions => .sequence (rereadItems expressions)

/-- The items of a list as they are read back. -/
def rereadItems : List Expression → List Expression
  | [] => []
  | item :: items => item.reread :: rereadItems items

/-- The elements of an array as they are read back. -/
def rereadElements : List (Option Expression) → List (Option Expression)
  | [] => []
  | none :: elements => none :: rereadElements elements
  | some element :: elements => some element.reread :: rereadElements elements

/-- The properties of an object as they are read back. -/
def rereadProperties : List (PropertyKey × Expression) → List (PropertyKey × Expression)
  | [] => []
  | (key, value) :: properties => (key.reread, value.reread) :: rereadProperties properties

end

/-- A target is read back as a target. -/
theorem Expression.isTarget_reread {e : Expression} (h : e.isTarget = true) :
    e.reread.isTarget = true := by
  cases e <;> simp_all [Expression.isTarget, Expression.reread]

/-! ## Tokens -/

/-- The token of a literal. -/
def Literal.kind : Literal → TokenKind
  | number value => numberKind value
  | string value => .string (rereadString value)
  | boolean true => .keyword .true_
  | boolean false => .keyword .false_
  | null => .keyword .null

/-- The token of a key. -/
def PropertyKey.kind : PropertyKey → TokenKind
  | identifier id => .identifier id.name
  | literal value => value.kind

/-- Tokens in parentheses, where they are needed. -/
def parenthesizeKindsIf (needed : Bool) (kinds : List TokenKind) : List TokenKind :=
  if needed then .punctuator .leftParen :: (kinds ++ [.punctuator .rightParen]) else kinds

/-- Lists of tokens with a comma between them. -/
def commaSeparatedKinds : List (List TokenKind) → List TokenKind
  | [] => []
  | [kinds] => kinds
  | kinds :: lists => kinds ++ .punctuator .comma :: commaSeparatedKinds lists

/-- Whether a dot can follow the text of an expression. -/
def Expression.isBeforeDot : Expression → Bool
  | .literal (.number value) => !(scriptNumbers.write value).toList.all Char.isDigit
  | e => decide (.call ≤ e.level)

/-- The comma of its own that a hole at the end of an array has. -/
def holeKinds (elements : List (Option Expression)) : List TokenKind :=
  match elements.getLast? with
  | some none => [.punctuator .comma]
  | _ => []

mutual

/-- The tokens of an expression. -/
def Expression.kinds : Expression → List TokenKind
  | .literal value => [value.kind]
  | .identifier id => [.identifier id.name]
  | .this => [.keyword .this]
  | .array elements =>
    .punctuator .leftBracket :: (commaSeparatedKinds (elementKinds elements)
      ++ (holeKinds elements ++ [.punctuator .rightBracket]))
  | .object properties =>
    .punctuator .leftBrace
      :: (commaSeparatedKinds (propertyKinds properties) ++ [.punctuator .rightBrace])
  | .binary operator left right =>
    parenthesizeKindsIf (leftNeedsParens operator left) left.kinds
      ++ .ofText operator.text :: parenthesizeKindsIf (rightNeedsParens operator right) right.kinds
  | .unary operator argument =>
    .ofText operator.text :: parenthesizeKindsIf (decide (argument.level < .unary)) argument.kinds
  | .assignment operator left right _ =>
    left.kinds ++ .ofText operator.text
      :: parenthesizeKindsIf (decide (right.level < .assignment)) right.kinds
  | .call callee arguments =>
    parenthesizeKindsIf (decide (callee.level < .call)) callee.kinds
      ++ .punctuator .leftParen
      :: (commaSeparatedKinds (itemKinds arguments) ++ [.punctuator .rightParen])
  | .member object property =>
    parenthesizeKindsIf (!object.isBeforeDot) object.kinds
      ++ [.punctuator .dot, .identifier property.name]
  | .index object property =>
    parenthesizeKindsIf (!object.isBeforeDot) object.kinds
      ++ .punctuator .leftBracket :: (property.kinds ++ [.punctuator .rightBracket])
  | .conditional test consequent alternate =>
    parenthesizeKindsIf (decide (test.level < .coalesce)) test.kinds
      ++ .punctuator .question
      :: (parenthesizeKindsIf (decide (consequent.level < .assignment)) consequent.kinds
      ++ .punctuator .colon
      :: parenthesizeKindsIf (decide (alternate.level < .assignment)) alternate.kinds)
  | .new callee arguments =>
    .keyword .new
      :: (parenthesizeKindsIf (containsCall callee || decide (callee.level < .member)) callee.kinds
      ++ .punctuator .leftParen
      :: (commaSeparatedKinds (itemKinds arguments) ++ [.punctuator .rightParen]))
  | .update operator argument isPrefix _ =>
    let operand := parenthesizeKindsIf (decide (argument.level < .postfix_)) argument.kinds
    if isPrefix then .ofText operator.text :: operand else operand ++ [.ofText operator.text]
  | .sequence expressions => commaSeparatedKinds (itemKinds expressions)

/-- The tokens of the items of a list. -/
def itemKinds : List Expression → List (List TokenKind)
  | [] => []
  | item :: items =>
    parenthesizeKindsIf (decide (item.level < .assignment)) item.kinds :: itemKinds items

/-- The tokens of the elements of an array. -/
def elementKinds : List (Option Expression) → List (List TokenKind)
  | [] => []
  | none :: elements => [] :: elementKinds elements
  | some element :: elements =>
    parenthesizeKindsIf (decide (element.level < .assignment)) element.kinds
      :: elementKinds elements

/-- The tokens of the properties of an object. -/
def propertyKinds : List (PropertyKey × Expression) → List (List TokenKind)
  | [] => []
  | (key, value) :: properties =>
    (key.kind :: .punctuator .colon
      :: parenthesizeKindsIf (decide (value.level < .assignment)) value.kinds)
      :: propertyKinds properties

end

/-! ## Texts of operators -/

theorem BinaryOperator.ofKind?_ofText {operator : BinaryOperator} (h : operator ≠ .exponent) :
    ofKind? (.ofText operator.text) = some operator := by
  cases operator <;> first | exact absurd rfl h | decide

theorem BinaryOperator.ofText_exponent :
    TokenKind.ofText BinaryOperator.exponent.text = .punctuator .starStar := by
  decide

theorem UnaryOperator.ofKind?_ofText (operator : UnaryOperator) :
    ofKind? (.ofText operator.text) = some operator := by
  cases operator <;> decide

theorem UpdateOperator.ofKind?_ofText (operator : UpdateOperator) :
    ofKind? (.ofText operator.text) = some operator := by
  cases operator <;> decide

theorem AssignmentOperator.ofKind?_ofText (operator : AssignmentOperator) :
    ofKind? (.ofText operator.text) = some operator := by
  cases operator <;> decide

/-- What stands for something is not invalid. -/
theorem TokenKind.ofText_ne_invalid {α : Type} {meaning : TokenKind → Option α} {text : String}
    {value : α} (h : meaning (.ofText text) = some value) (hinvalid : meaning .invalid = none) :
    ofText text ≠ .invalid := by
  intro heq
  rw [heq, hinvalid] at h
  cases h

theorem BinaryOperator.ofText_ne_invalid (operator : BinaryOperator) :
    TokenKind.ofText operator.text ≠ .invalid := by
  by_cases hoperator : operator = .exponent
  · rw [hoperator, ofText_exponent]
    simp
  · exact TokenKind.ofText_ne_invalid (ofKind?_ofText hoperator) rfl

/-! ## Parts of a text -/

section Parts

variable {f g : Char → Bool} {inner : List Char} {text more : String}
  {kinds moreKinds : List TokenKind}

theorem Scanned.parens (h : Scanned f inner kinds) (hclose : f ')' = true) :
    Scanned anything ('(' :: (inner ++ [')']))
      (.punctuator .leftParen :: (kinds ++ [TokenKind.punctuator .rightParen])) := by
  simpa [Punctuator.text] using h.enclosed (p := .leftParen) (q := .rightParen)
    (by simp [Punctuator.closed]) (by simp [Punctuator.closed])
    (by simpa [Punctuator.text] using hclose)

theorem Scanned.brackets (h : Scanned f inner kinds) (hclose : f ']' = true) :
    Scanned anything ('[' :: (inner ++ [']']))
      (.punctuator .leftBracket :: (kinds ++ [TokenKind.punctuator .rightBracket])) := by
  simpa [Punctuator.text] using h.enclosed (p := .leftBracket) (q := .rightBracket)
    (by simp [Punctuator.closed]) (by simp [Punctuator.closed])
    (by simpa [Punctuator.text] using hclose)

theorem Scanned.braces (h : Scanned f inner kinds) (hclose : f '\x7d' = true) :
    Scanned anything ('\x7b' :: (inner ++ ['\x7d']))
      (.punctuator .leftBrace :: (kinds ++ [TokenKind.punctuator .rightBrace])) := by
  simpa [Punctuator.text] using h.enclosed (p := .leftBrace) (q := .rightBrace)
    (by simp [Punctuator.closed]) (by simp [Punctuator.closed])
    (by simpa [Punctuator.text] using hclose)

/-- Parentheses end an operand whatever stands in them. -/
theorem scanned_parenthesizeIf {needed b : Bool}
    (h : Scanned (endsOperand b) text.toList kinds) :
    Scanned (endsOperand (needed || b)) (parenthesizeIf needed text).toList
      (parenthesizeKindsIf needed kinds) := by
  cases needed with
  | false => exact h
  | true =>
    have hclosed := h.parens (by cases b <;> decide)
    simpa [parenthesizeIf, parenthesizeKindsIf] using hclosed.mono fun _ _ => rfl

/-- Two texts with an operator between them. -/
theorem Scanned.operator (h : Scanned f text.toList kinds) (sign : String)
    (hsign : TokenKind.ofText sign ≠ .invalid) (hmore : Scanned g more.toList moreKinds)
    (hspace : f ' ' = true) :
    Scanned g (text ++ " " ++ sign ++ " " ++ more).toList (kinds ++ .ofText sign :: moreKinds) := by
  have hspaced := (scanned_ofText hsign).append_of_anything hmore
  simpa using h.append_cons hspaced.space hspace

theorem scanned_comma : Scanned anything [','] [.punctuator .comma] :=
  scanned_closed (p := .comma) (by simp [Punctuator.closed])

/-- Texts with a comma and a space between them. -/
theorem scanned_commaSeparated {texts : List String} {lists : List (List TokenKind)}
    (h : List.Forall₂ (fun text kinds => Scanned (endsOperand false) text.toList kinds)
      texts lists) :
    Scanned (endsOperand false) (commaSeparated texts).toList (commaSeparatedKinds lists) := by
  induction h with
  | nil => exact .nil
  | cons hhead htail ih =>
    cases htail with
    | nil => simpa [commaSeparated, commaSeparatedKinds] using hhead
    | cons hnext hrest =>
      have hmore := hhead.append_cons (scanned_comma.append_of_anything ih.space) (by decide)
      simpa [commaSeparated, commaSeparatedKinds] using hmore

/-- A comma separated list in parentheses. -/
theorem scanned_arguments {texts : List String} {lists : List (List TokenKind)}
    (h : List.Forall₂ (fun text kinds => Scanned (endsOperand false) text.toList kinds)
      texts lists) :
    Scanned anything ('(' :: ((commaSeparated texts).toList ++ [')']))
      (.punctuator .leftParen
        :: (commaSeparatedKinds lists ++ [TokenKind.punctuator .rightParen])) :=
  (scanned_commaSeparated h).parens (by decide)

/-- A sign right before an operand that does not go on with it. -/
theorem Scanned.sign (h : Scanned f text.toList kinds) (p : Punctuator)
    (hstart : Starts text.toList)
    (hp : ∀ c ∈ text.toList.head?, c ≠ '=' → c ∉ p.continuations) :
    Scanned f (p.text.toList ++ text.toList) (.punctuator p :: kinds) := by
  obtain ⟨first, hfirst, hequal⟩ := hstart
  refine (scanned_sign p).append h (fun c hc => ?_) fun hnil => ?_
  · obtain rfl : first = c := Option.some.inj (hfirst.symm.trans hc)
    exact decide_eq_true (hp first hfirst hequal)
  · simp [hnil] at hfirst

/-- A unary operator before its operand, with a space where they would run together. -/
theorem scanned_unary (operator : UnaryOperator) (hstart : Starts text.toList)
    (h : Scanned f text.toList kinds) :
    Scanned f (operator.text ++ (if spacesOperand operator text then " " else "") ++ text).toList
      (.ofText operator.text :: kinds) := by
  have hminus : Punctuator.minus.continuations = ['-', '='] := by decide
  have hplus : Punctuator.plus.continuations = ['+', '='] := by decide
  have hbang : Punctuator.bang.continuations = ['=', '='] := by decide
  have htilde : Punctuator.tilde.continuations = [] := by decide
  by_cases hspace : spacesOperand operator text = true
  · have hvalid := TokenKind.ofText_ne_invalid operator.ofKind?_ofText rfl
    simpa [hspace] using (scanned_ofText hvalid).append_of_anything h
  · rw [if_neg hspace, String.append_empty, String.toList_append]
    cases operator with
    | typeof | void | delete => exact absurd rfl hspace
    | minus =>
      refine h.sign .minus hstart fun c hc hne => ?_
      rintro hmem
      simp_all [spacesOperand]
    | plus =>
      refine h.sign .plus hstart fun c hc hne => ?_
      rintro hmem
      simp_all [spacesOperand]
    | logicalNot => exact h.sign .bang hstart fun c hc hne => by simpa [hbang] using hne
    | bitwiseNot => exact h.sign .tilde hstart fun c hc hne => by simp [htilde]

theorem scanned_update (operator : UpdateOperator) :
    Scanned anything operator.text.toList [.ofText operator.text] := by
  have hincrement : TokenKind.ofText "++" = .punctuator .plusPlus := by decide
  have hdecrement : TokenKind.ofText "--" = .punctuator .minusMinus := by decide
  cases operator with
  | increment =>
    simpa [UpdateOperator.text, Punctuator.text, hincrement] using
      scanned_closed (p := .plusPlus) (by simp [Punctuator.closed])
  | decrement =>
    simpa [UpdateOperator.text, Punctuator.text, hdecrement] using
      scanned_closed (p := .minusMinus) (by simp [Punctuator.closed])

end Parts

/-! ## Expressions -/

theorem Expression.accessed_render (e : Expression) :
    accessed e e.render = parenthesizeIf (!e.isBeforeDot) e.render := by
  unfold accessed isBeforeDot
  split
  · simp [Expression.render, Literal.render]
  · congr 1
    simp [← not_le]

theorem starts_parenthesizeIf (needed : Bool) {text : String} (h : Starts text.toList) :
    Starts (parenthesizeIf needed text).toList := by
  cases needed with
  | false => exact h
  | true => simpa [parenthesizeIf] using starts_cons (by decide) _

theorem Literal.starts_render {value : Literal} (h : value.Fits .written) :
    Starts value.render.toList := by
  cases value with
  | number value => exact starts_number h
  | string value => simpa [Literal.render, renderString] using starts_cons (by decide) _
  | boolean value => cases value <;> exact ⟨_, rfl, by decide⟩
  | null => exact ⟨_, rfl, by decide⟩

/-- No expression starts with an equals sign. -/
theorem Expression.starts_render (e : Expression) (h : e.Fits .written) :
    Starts e.render.toList := by
  induction e using Expression.induction with
  | literal value => exact value.starts_render h
  | identifier id => exact starts_name h.1
  | this => exact ⟨'t', rfl, by decide⟩
  | array elements _ => simpa [Expression.render] using starts_cons (by decide) _
  | object properties _ =>
    rw [Expression.render]
    split
    · exact ⟨_, rfl, by decide⟩
    · simpa using starts_cons (by decide) _
  | binary operator left right ihleft ihright =>
    have hleft := starts_parenthesizeIf (leftNeedsParens operator left) (ihleft h.1)
    simpa [Expression.render] using hleft.append _
  | unary operator argument ih =>
    have hoperator : Starts operator.text.toList := by
      cases operator <;> exact ⟨_, rfl, by decide⟩
    simpa [Expression.render] using hoperator.append _
  | assignment operator left right line ihleft ihright =>
    simpa [Expression.render] using (ihleft h.2.1).append _
  | call callee arguments ihcallee _ =>
    have hcallee := starts_parenthesizeIf (decide (callee.level < .call)) (ihcallee h.1)
    simpa [Expression.render] using hcallee.append _
  | member object property ih =>
    have hobject := starts_parenthesizeIf (!object.isBeforeDot) (ih h.1)
    simpa [Expression.render, accessed_render] using hobject.append _
  | index object property ihobject _ =>
    have hobject := starts_parenthesizeIf (!object.isBeforeDot) (ihobject h.1)
    simpa [Expression.render, accessed_render] using hobject.append _
  | conditional test consequent alternate ihtest _ _ =>
    have htest := starts_parenthesizeIf (decide (test.level < .coalesce)) (ihtest h.1)
    simpa [Expression.render] using htest.append _
  | new callee arguments _ _ => simpa [Expression.render] using starts_cons (by decide) _
  | update operator argument isPrefix line ih =>
    have hoperator : Starts operator.text.toList := by
      cases operator <;> exact ⟨_, rfl, by decide⟩
    have hargument := starts_parenthesizeIf (decide (argument.level < .postfix_)) (ih h.2.1)
    cases isPrefix with
    | false => simpa [Expression.render] using hargument.append _
    | true => simpa [Expression.render] using hoperator.append _
  | sequence expressions ih =>
    obtain ⟨hlength, hitems⟩ := h
    match expressions, hlength with
    | first :: second :: rest, _ =>
      have hfirst := ih first (by simp) (itemsFit_iff.1 hitems first (by simp))
      have hitem := starts_parenthesizeIf (decide (first.level < .assignment)) hfirst
      simpa [Expression.render, commaSeparated, renderItems] using hitem.append _

theorem Literal.scanned_render {value : Literal} (h : value.Fits .written) :
    Scanned (endsOperand (Expression.literal value).isBeforeDot) value.render.toList
      [value.kind] := by
  cases value with
  | number value => exact scanned_number h
  | string value => exact (scanned_string value).mono fun _ _ => rfl
  | boolean value =>
    cases value with
    | true => exact scanned_keyword .true_
    | false => exact scanned_keyword .false_
  | null => exact scanned_keyword .null

theorem PropertyKey.scanned_render {key : PropertyKey} (h : key.Fits .written) :
    Scanned (endsOperand false) key.render.toList [key.kind] := by
  cases key with
  | identifier id => exact (scanned_name h.1).operand (by simp)
  | literal value =>
    have hvalue : value.Fits .written := by cases value <;> first | exact h | exact h.elim
    exact (Literal.scanned_render hvalue).operand (by simp)

/-- The texts of the parts of a list with their tokens. -/
abbrev ScannedAll (texts : List String) (lists : List (List TokenKind)) : Prop :=
  List.Forall₂ (fun text kinds => Scanned (endsOperand false) text.toList kinds) texts lists

/-- The text of an expression with its tokens. -/
def Expression.IsScanned (e : Expression) : Prop :=
  Scanned (endsOperand e.isBeforeDot) e.render.toList e.kinds

theorem Expression.IsScanned.of_closed {e : Expression}
    (h : Scanned anything e.render.toList e.kinds) : e.IsScanned := h.mono fun _ _ => rfl

theorem Expression.IsScanned.of_loose {e : Expression} (hlevel : e.level < .call)
    (h : Scanned (endsOperand false) e.render.toList e.kinds) : e.IsScanned := by
  refine h.operand fun hdot => ?_
  unfold isBeforeDot at hdot
  split at hdot
  · exact absurd hlevel (by decide : ¬Level.primary < .call)
  · exact absurd hlevel (not_lt.2 (of_decide_eq_true hdot))

theorem Expression.IsScanned.parenthesizeIf {e : Expression} (h : e.IsScanned) (needed : Bool) :
    Scanned (endsOperand false) (parenthesizeIf needed e.render).toList
      (parenthesizeKindsIf needed e.kinds) :=
  (scanned_parenthesizeIf h).operand (by simp)

theorem Expression.IsScanned.accessed {e : Expression} (h : e.IsScanned) :
    Scanned (endsOperand true) (accessed e e.render).toList
      (parenthesizeKindsIf (!e.isBeforeDot) e.kinds) := by
  rw [accessed_render]
  exact (scanned_parenthesizeIf h).operand (by simp)

theorem scannedAll_items {items : List Expression} (h : ∀ item ∈ items, item.IsScanned) :
    ScannedAll (renderItems items) (itemKinds items) := by
  induction items with
  | nil => exact .nil
  | cons item items ih =>
    exact .cons ((h item List.mem_cons_self).parenthesizeIf _)
      (ih fun other hmem => h other (List.mem_cons_of_mem item hmem))

theorem scannedAll_elements {elements : List (Option Expression)}
    (h : ∀ element, some element ∈ elements → element.IsScanned) :
    ScannedAll (renderElements elements) (elementKinds elements) := by
  induction elements with
  | nil => exact .nil
  | cons head elements ih =>
    have htail := ih fun other hmem => h other (List.mem_cons_of_mem head hmem)
    cases head with
    | none => exact .cons .nil htail
    | some element => exact .cons ((h element List.mem_cons_self).parenthesizeIf _) htail

theorem scannedAll_properties {properties : List (PropertyKey × Expression)}
    (h : ∀ property ∈ properties, property.1.Fits .written ∧ property.2.IsScanned) :
    ScannedAll (renderProperties properties) (propertyKinds properties) := by
  have hcolon : Scanned anything [':'] [.punctuator .colon] :=
    scanned_closed (p := .colon) (by simp [Punctuator.closed])
  induction properties with
  | nil => exact .nil
  | cons property properties ih =>
    obtain ⟨key, value⟩ := property
    obtain ⟨hkey, hvalue⟩ := h _ List.mem_cons_self
    have htail := ih fun other hmem => h other (List.mem_cons_of_mem _ hmem)
    have hright := hcolon.append_of_anything
      (hvalue.parenthesizeIf (decide (value.level < .assignment))).space
    refine .cons ?_ htail
    simpa using (PropertyKey.scanned_render hkey).append_cons hright (by decide)

/-- A written expression is cut into its tokens. -/
theorem Expression.scanned_render (e : Expression) (h : e.Fits .written) : e.IsScanned := by
  have hspace : ∀ b : Bool, endsOperand b ' ' = true := by decide
  have hbracket : ∀ b : Bool, endsOperand b ']' = true := by decide
  induction e using Expression.induction with
  | literal value => exact Literal.scanned_render h
  | identifier id => exact scanned_name h.1
  | this => exact scanned_keyword .this
  | array elements ih =>
    have hitems := scanned_commaSeparated (scannedAll_elements fun element hmem =>
      ih element hmem (elementsFit_iff.1 h element hmem))
    -- A hole at the end has a comma of its own.
    by_cases hlast : elements.getLast? = some none
    · have hinner := hitems.append_cons scanned_comma (by decide)
      refine .of_closed ?_
      simpa [Expression.render, Expression.kinds, holeKinds, hlast] using hinner.brackets rfl
    · refine .of_closed ?_
      simpa [Expression.render, Expression.kinds, holeKinds] using hitems.brackets (by decide)
  | object properties ih =>
    have hitems := scanned_commaSeparated (scannedAll_properties fun property hmem =>
      ⟨(propertiesFit_iff.1 h property hmem).1,
        ih property hmem (propertiesFit_iff.1 h property hmem).2⟩)
    refine .of_closed ?_
    cases properties with
    | nil =>
      simpa [Expression.render, Expression.kinds, propertyKinds, commaSeparatedKinds] using
        (Scanned.nil (f := anything)).braces rfl
    | cons property properties =>
      simpa [Expression.render, Expression.kinds] using
        (hitems.space.append_space (by decide)).braces rfl
  | binary operator left right ihleft ihright =>
    have hleft := (ihleft h.1).parenthesizeIf (leftNeedsParens operator left)
    have hright := (ihright h.2).parenthesizeIf (rightNeedsParens operator right)
    exact .of_loose (operator.level_le_exponent.trans_lt (by decide))
      (hleft.operator operator.text operator.ofText_ne_invalid hright (by decide))
  | unary operator argument ih =>
    have hargument := (ih h).parenthesizeIf (decide (argument.level < .unary))
    exact .of_loose (by decide : Level.unary < .call) (scanned_unary operator
      (starts_parenthesizeIf _ (argument.starts_render h)) hargument)
  | assignment operator left right line ihleft ihright =>
    have hvalid := TokenKind.ofText_ne_invalid operator.ofKind?_ofText rfl
    have hright := (ihright h.2.2.1).parenthesizeIf (decide (right.level < .assignment))
    exact .of_loose (by decide : Level.assignment < .call)
      ((ihleft h.2.1).operator operator.text hvalid hright (hspace _))
  | call callee arguments ihcallee iharguments =>
    have hitems := scannedAll_items fun item hmem =>
      iharguments item hmem (itemsFit_iff.1 h.2 item hmem)
    have hcallee := (ihcallee h.1).parenthesizeIf (decide (callee.level < .call))
    refine .of_closed ?_
    simpa [Expression.render, Expression.kinds] using
      hcallee.append_cons (scanned_arguments hitems) (by decide)
  | member object property ih =>
    have hdot : Scanned anything ['.'] [.punctuator .dot] :=
      scanned_closed (p := .dot) (by simp [Punctuator.closed])
    have htext := (ih h.1).accessed.append_cons (hdot.append_of_anything (scanned_name h.2.1))
      (by decide)
    refine Scanned.operand (b := true) ?_ fun _ => rfl
    simpa [Expression.render, Expression.kinds] using htext
  | index object property ihobject ihproperty =>
    have hproperty := Scanned.brackets (ihproperty h.2) (hbracket _)
    refine .of_closed ?_
    simpa [Expression.render, Expression.kinds] using
      (ihobject h.1).accessed.append_cons hproperty (by decide)
  | conditional test consequent alternate ihtest ihconsequent ihalternate =>
    have htest := (ihtest h.1).parenthesizeIf (decide (test.level < .coalesce))
    have hconsequent := (ihconsequent h.2.1).parenthesizeIf
      (decide (consequent.level < .assignment))
    have halternate := (ihalternate h.2.2).parenthesizeIf
      (decide (alternate.level < .assignment))
    have hcolon : TokenKind.ofText ":" = .punctuator .colon := by decide
    have hquestion : TokenKind.ofText "?" = .punctuator .question := by decide
    have hchoice := hconsequent.operator ":" (by simp [hcolon]) halternate (by decide)
    refine .of_loose (by decide : Level.conditional < .call) ?_
    simpa [Expression.render, Expression.kinds, hcolon, hquestion] using
      htest.operator "?" (by simp [hquestion]) hchoice (by decide)
  | new callee arguments ihcallee iharguments =>
    have hitems := scannedAll_items fun item hmem =>
      iharguments item hmem (itemsFit_iff.1 h.2 item hmem)
    have hcallee := (ihcallee h.1).parenthesizeIf
      (containsCall callee || decide (callee.level < .member))
    have hnew := (scanned_keyword .new).append_space (by decide)
    refine .of_closed ?_
    simpa [Expression.render, Expression.kinds, Keyword.text] using
      hnew.append_of_anything (hcallee.append_cons (scanned_arguments hitems) (by decide))
  | update operator argument isPrefix line ih =>
    have hargument := (ih h.2.1).parenthesizeIf (decide (argument.level < .postfix_))
    have hoperator := scanned_update operator
    cases isPrefix with
    | true =>
      refine .of_loose (by decide : Level.unary < .call) ?_
      simpa [Expression.render, Expression.kinds] using hoperator.append_of_anything hargument
    | false =>
      have hsign : ∀ c ∈ operator.text.toList.head?, endsOperand false c = true := by
        cases operator <;> simp [UpdateOperator.text] <;> decide
      have hnonempty : operator.text.toList ≠ [] := by cases operator <;> decide
      refine .of_loose (by decide : Level.postfix_ < .call) ?_
      simpa [Expression.render, Expression.kinds] using
        (hargument.append hoperator hsign fun hnil => absurd hnil hnonempty).mono fun _ _ => rfl
  | sequence expressions ih =>
    have hitems := scannedAll_items fun item hmem =>
      ih item hmem (itemsFit_iff.1 h.2 item hmem)
    exact .of_loose (by decide : Level.sequence < .call) (scanned_commaSeparated hitems)

end ScriptSteps
