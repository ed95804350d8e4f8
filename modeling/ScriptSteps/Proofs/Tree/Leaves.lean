import Mathlib
import ScriptSteps.Proofs.Tree.Written

/-!
# Lines and literals of trees

Two trees are equal up to their lines if they are the same once everything stands on one line.
An expression is read back as itself, up to its lines, if its numbers are finite and its strings
have no characters that are escaped by their code.

## Main definitions

* `Expression.onLine`, `ForInit.onLine`: a tree with everything on one line
* `Expression.literals`, `ForInit.literals`: the literals in a tree, keys of objects included
* `Literal.IsPlain`: the literals that are read back as themselves

## Main statements

* `Expression.reread_eq_onLine`: an expression with plain literals is read back up to its lines
-/

namespace ScriptSteps

/-! ## One line -/

/-- A name on a given line. -/
def Identifier.onLine (l : ℕ) (id : Identifier) : Identifier := { id with line := l }

/-- A key on a given line. -/
def PropertyKey.onLine (l : ℕ) : PropertyKey → PropertyKey
  | identifier id => .identifier (id.onLine l)
  | literal value => .literal value

mutual

/-- An expression with everything on a given line. -/
def Expression.onLine (l : ℕ) : Expression → Expression
  | .literal value => .literal value
  | .identifier id => .identifier (id.onLine l)
  | .this => .this
  | .array elements => .array (elementsOnLine l elements)
  | .object properties => .object (propertiesOnLine l properties)
  | .binary operator left right => .binary operator (left.onLine l) (right.onLine l)
  | .unary operator argument => .unary operator (argument.onLine l)
  | .assignment operator left right _ => .assignment operator (left.onLine l) (right.onLine l) l
  | .call callee arguments => .call (callee.onLine l) (itemsOnLine l arguments)
  | .member object property => .member (object.onLine l) (property.onLine l)
  | .index object property => .index (object.onLine l) (property.onLine l)
  | .conditional test consequent alternate =>
    .conditional (test.onLine l) (consequent.onLine l) (alternate.onLine l)
  | .new callee arguments => .new (callee.onLine l) (itemsOnLine l arguments)
  | .update operator argument isPrefix _ => .update operator (argument.onLine l) isPrefix l
  | .sequence expressions => .sequence (itemsOnLine l expressions)

/-- Expressions with everything on a given line. -/
def itemsOnLine (l : ℕ) : List Expression → List Expression
  | [] => []
  | item :: items => item.onLine l :: itemsOnLine l items

/-- The same in a list that may have gaps. -/
def elementsOnLine (l : ℕ) : List (Option Expression) → List (Option Expression)
  | [] => []
  | none :: elements => none :: elementsOnLine l elements
  | some element :: elements => some (element.onLine l) :: elementsOnLine l elements

/-- Properties with everything on a given line. -/
def propertiesOnLine (l : ℕ) : List (PropertyKey × Expression) → List (PropertyKey × Expression)
  | [] => []
  | (key, value) :: properties => (key.onLine l, value.onLine l) :: propertiesOnLine l properties

end

/-- A variable with everything on a given line. -/
def VariableDeclarator.onLine (l : ℕ) (d : VariableDeclarator) : VariableDeclarator :=
  ⟨d.id.onLine l, d.init.map (Expression.onLine l)⟩

/-- What a `for` loop starts with, on a given line. -/
def ForInit.onLine (l : ℕ) : ForInit → ForInit
  | declaration d => .declaration ⟨d.kind, d.declarations.map (VariableDeclarator.onLine l), l⟩
  | expression e => .expression (e.onLine l)

/-! ## Literals -/

/-- The literal that a key is, if it is one. -/
def PropertyKey.literals : PropertyKey → List Literal
  | identifier _ => []
  | literal value => [value]

mutual

/-- The literals in an expression. -/
def Expression.literals : Expression → List Literal
  | .literal value => [value]
  | .identifier _ | .this => []
  | .array elements => elementLiterals elements
  | .object properties => propertyLiterals properties
  | .binary _ left right => left.literals ++ right.literals
  | .unary _ argument => argument.literals
  | .assignment _ left right _ => left.literals ++ right.literals
  | .call callee arguments => callee.literals ++ itemLiterals arguments
  | .member object _ => object.literals
  | .index object property => object.literals ++ property.literals
  | .conditional test consequent alternate =>
    test.literals ++ consequent.literals ++ alternate.literals
  | .new callee arguments => callee.literals ++ itemLiterals arguments
  | .update _ argument _ _ => argument.literals
  | .sequence expressions => itemLiterals expressions

/-- The literals in the expressions of a list. -/
def itemLiterals : List Expression → List Literal
  | [] => []
  | item :: items => item.literals ++ itemLiterals items

/-- The literals in a list that may have gaps. -/
def elementLiterals : List (Option Expression) → List Literal
  | [] => []
  | none :: elements => elementLiterals elements
  | some element :: elements => element.literals ++ elementLiterals elements

/-- The literals in properties, those that are keys included. -/
def propertyLiterals : List (PropertyKey × Expression) → List Literal
  | [] => []
  | (key, value) :: properties => key.literals ++ value.literals ++ propertyLiterals properties

end

/-- The literals in what a `for` loop starts with. -/
def ForInit.literals : ForInit → List Literal
  | declaration d => d.declarations.flatMap fun declarator =>
    (declarator.init.map Expression.literals).getD []
  | expression e => e.literals

/-- The literals that are read back as themselves: finite numbers, and strings without line and
paragraph separators and without control characters other than those with an escape of their
own. -/
def Literal.IsPlain : Literal → Prop
  | number value => value.isInfinite = false
  | string value => ∀ c ∈ value.toList, c ≠ '\u2028' ∧ c ≠ '\u2029'
      ∧ (Text.isControl c = true → hasEscape c = true)
  | boolean _ | null => True

theorem Literal.IsPlain.reread {value : Literal} (h : value.IsPlain) :
    value.reread = .literal value := by
  cases value with
  | number x =>
    have hfinite : x.isInfinite = false := h
    simp [Literal.reread, hfinite]
  | string s =>
    have hchars : s.toList.flatMap rereadChar = s.toList.flatMap fun c => [c] := by
      refine List.flatMap_congr fun c hc => ?_
      obtain ⟨hline, hparagraph, hcontrol⟩ := h c hc
      have hshort : (Text.isControl c && !hasEscape c) = false := by
        cases hc : Text.isControl c <;> simp_all
      simp [rereadChar, hline, hparagraph, hshort]
    simp [Literal.reread, rereadString, hchars]
  | boolean b => rfl
  | null => rfl

theorem PropertyKey.reread_eq_onLine {key : PropertyKey} (h : ∀ l ∈ key.literals, l.IsPlain) :
    key.reread = key.onLine 1 := by
  cases key with
  | identifier id => rfl
  | literal value =>
    have hplain := (h value List.mem_cons_self).reread
    cases value with
    | number x =>
      have hfinite : x.isInfinite = false := h _ List.mem_cons_self
      simp [PropertyKey.reread, PropertyKey.onLine, hfinite]
    | string s => simpa [Literal.reread, PropertyKey.reread, PropertyKey.onLine] using hplain
    | boolean b => rfl
    | null => rfl

theorem rereadItems_eq_onLine {items : List Expression}
    (h : ∀ item ∈ items, (∀ l ∈ item.literals, l.IsPlain) → item.reread = item.onLine 1)
    (hplain : ∀ l ∈ itemLiterals items, l.IsPlain) : rereadItems items = itemsOnLine 1 items := by
  induction items with
  | nil => rfl
  | cons item items ih =>
    simp only [itemLiterals, List.forall_mem_append] at hplain
    rw [rereadItems, itemsOnLine, h item List.mem_cons_self hplain.1,
      ih (fun other hmem => h other (List.mem_cons_of_mem item hmem)) hplain.2]

theorem rereadElements_eq_onLine {elements : List (Option Expression)}
    (h : ∀ element, some element ∈ elements → (∀ l ∈ element.literals, l.IsPlain) →
      element.reread = element.onLine 1)
    (hplain : ∀ l ∈ elementLiterals elements, l.IsPlain) :
    rereadElements elements = elementsOnLine 1 elements := by
  induction elements with
  | nil => rfl
  | cons head elements ih =>
    have htail := ih fun other hmem => h other (List.mem_cons_of_mem head hmem)
    cases head with
    | none => rw [rereadElements, elementsOnLine, htail hplain]
    | some element =>
      simp only [elementLiterals, List.forall_mem_append] at hplain
      rw [rereadElements, elementsOnLine, h element List.mem_cons_self hplain.1, htail hplain.2]

theorem rereadProperties_eq_onLine {properties : List (PropertyKey × Expression)}
    (h : ∀ property ∈ properties, (∀ l ∈ property.2.literals, l.IsPlain) →
      property.2.reread = property.2.onLine 1)
    (hplain : ∀ l ∈ propertyLiterals properties, l.IsPlain) :
    rereadProperties properties = propertiesOnLine 1 properties := by
  induction properties with
  | nil => rfl
  | cons property properties ih =>
    simp only [propertyLiterals, List.forall_mem_append] at hplain
    obtain ⟨⟨hkey, hvalue⟩, hrest⟩ := hplain
    rw [rereadProperties, propertiesOnLine, PropertyKey.reread_eq_onLine hkey,
      h property List.mem_cons_self hvalue,
      ih (fun other hmem => h other (List.mem_cons_of_mem property hmem)) hrest]

/-- An expression with plain literals is read back as itself, up to its lines. -/
theorem Expression.reread_eq_onLine {e : Expression} (h : ∀ l ∈ e.literals, l.IsPlain) :
    e.reread = e.onLine 1 := by
  induction e using Expression.induction with
  | literal value => exact (h value List.mem_cons_self).reread
  | identifier id => rfl
  | this => rfl
  | array elements ih =>
    rw [Expression.reread, Expression.onLine, rereadElements_eq_onLine ih h]
  | object properties ih =>
    rw [Expression.reread, Expression.onLine, rereadProperties_eq_onLine ih h]
  | unary operator argument ih => rw [Expression.reread, Expression.onLine, ih h]
  | member object property ih => rw [Expression.reread, Expression.onLine, ih h]; rfl
  | update operator argument isPrefix line ih => rw [Expression.reread, Expression.onLine, ih h]
  | sequence expressions ih =>
    rw [Expression.reread, Expression.onLine, rereadItems_eq_onLine ih h]
  | binary operator left right ihleft ihright =>
    simp only [Expression.literals, List.forall_mem_append] at h
    rw [Expression.reread, Expression.onLine, ihleft h.1, ihright h.2]
  | assignment operator left right line ihleft ihright =>
    simp only [Expression.literals, List.forall_mem_append] at h
    rw [Expression.reread, Expression.onLine, ihleft h.1, ihright h.2]
  | index object property ihobject ihproperty =>
    simp only [Expression.literals, List.forall_mem_append] at h
    rw [Expression.reread, Expression.onLine, ihobject h.1, ihproperty h.2]
  | call callee arguments ihcallee iharguments =>
    simp only [Expression.literals, List.forall_mem_append] at h
    rw [Expression.reread, Expression.onLine, ihcallee h.1, rereadItems_eq_onLine iharguments h.2]
  | new callee arguments ihcallee iharguments =>
    simp only [Expression.literals, List.forall_mem_append] at h
    rw [Expression.reread, Expression.onLine, ihcallee h.1, rereadItems_eq_onLine iharguments h.2]
  | conditional test consequent alternate ihtest ihconsequent ihalternate =>
    simp only [Expression.literals, List.forall_mem_append] at h
    rw [Expression.reread, Expression.onLine, ihtest h.1.1, ihconsequent h.1.2, ihalternate h.2]

end ScriptSteps
