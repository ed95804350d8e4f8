import Mathlib
import ScriptSteps.Proofs.Text.Inline
import ScriptSteps.Proofs.Tree.Written

/-!
# Written trees keep to their line

The text of an expression or a declaration is never empty, stands on one line whatever the strings
in it hold, and does not end in a blank. All of this comes from the leaves: nothing is asked of a
tree but that its names are such texts.

## Main statements

* `Expression.tidy_render`: the text of an expression
* `VariableDeclaration.tidy_render`: the text of a declaration
-/

namespace ScriptSteps

open Text

/-! ## Parts of a text -/

theorem Text.Tidy.parenthesizeIf {s : String} (h : Tidy s) (needed : Bool) :
    Tidy (parenthesizeIf needed s) := by
  cases needed with
  | false => exact h
  | true =>
    have hclose : Tidy ")" := ⟨by decide, ')', rfl, by decide⟩
    exact hclose.after (inline_append.2 ⟨by decide, h.inline⟩)

theorem inline_commaSeparated {texts : List String} (h : ∀ t ∈ texts, Inline t) :
    Inline (commaSeparated texts) := inline_intercalate (by decide) h

/-! ## Operators -/

theorem BinaryOperator.inline_text (operator : BinaryOperator) : Inline operator.text := by
  cases operator <;> decide

theorem UnaryOperator.inline_text (operator : UnaryOperator) : Inline operator.text := by
  cases operator <;> decide

theorem AssignmentOperator.inline_text (operator : AssignmentOperator) :
    Inline operator.text := by
  cases operator <;> decide

theorem UpdateOperator.tidy_text (operator : UpdateOperator) : Tidy operator.text := by
  cases operator with
  | increment => exact ⟨by decide, '+', rfl, by decide⟩
  | decrement => exact ⟨by decide, '-', rfl, by decide⟩

/-! ## Expressions -/

/-- The vocabularies whose names keep to their line. -/
def Vocabulary.NamesTidy (v : Vocabulary) : Prop := ∀ name, v.name name → Tidy name

theorem tidy_scriptNumber (x : Binary64) : Tidy (scriptNumbers.write x) :=
  NumberLayout.tidy_write (tidy_of_isName (by decide)) (tidy_of_isName (by decide)) x

theorem Literal.tidy_render (value : Literal) : Tidy value.render := by
  cases value with
  | number x => exact tidy_scriptNumber x
  | string s => exact tidy_renderString s
  | boolean b => cases b <;> exact ⟨by decide, 'e', rfl, by decide⟩
  | null => exact ⟨by decide, 'l', rfl, by decide⟩

theorem tidy_of_mem_renderItems {items : List Expression}
    (h : ∀ item ∈ items, Tidy item.render) : ∀ t ∈ renderItems items, Tidy t := by
  induction items with
  | nil => simp [renderItems]
  | cons item items ih =>
    simp only [List.forall_mem_cons, renderItems] at h ⊢
    exact ⟨h.1.parenthesizeIf _, ih h.2⟩

theorem inline_arguments {items : List Expression} (h : ∀ item ∈ items, Tidy item.render) :
    Inline (commaSeparated (renderItems items)) :=
  inline_commaSeparated fun t ht => (tidy_of_mem_renderItems h t ht).inline

theorem inline_of_mem_renderElements {elements : List (Option Expression)}
    (h : ∀ element, some element ∈ elements → Tidy element.render) :
    ∀ t ∈ renderElements elements, Inline t := by
  induction elements with
  | nil => simp [renderElements]
  | cons head elements ih =>
    have htail := ih fun element hmem => h element (List.mem_cons_of_mem head hmem)
    cases head with
    | none => simpa only [renderElements, List.forall_mem_cons] using ⟨by decide, htail⟩
    | some element =>
      simp only [renderElements, List.forall_mem_cons]
      exact ⟨((h element List.mem_cons_self).parenthesizeIf _).inline, htail⟩

section Trees

variable {v : Vocabulary} (hv : v.NamesTidy)

include hv

theorem PropertyKey.tidy_render {key : PropertyKey} (h : key.Fits v) : Tidy key.render := by
  cases key with
  | identifier id => exact hv id.name h.1
  | literal value => exact value.tidy_render

theorem inline_of_mem_renderProperties {properties : List (PropertyKey × Expression)}
    (h : ∀ property ∈ properties, property.1.Fits v ∧ Tidy property.2.render) :
    ∀ t ∈ renderProperties properties, Inline t := by
  induction properties with
  | nil => simp [renderProperties]
  | cons property properties ih =>
    obtain ⟨key, value⟩ := property
    simp only [List.forall_mem_cons, renderProperties, inline_append] at h ⊢
    obtain ⟨⟨hkey, hvalue⟩, hrest⟩ := h
    exact ⟨⟨⟨(PropertyKey.tidy_render hv hkey).inline, by decide⟩,
      (hvalue.parenthesizeIf _).inline⟩, ih hrest⟩

/-- An expression is written on one line, and not with a blank at the end. -/
theorem Expression.tidy_render (e : Expression) (h : e.Fits v) : Tidy e.render := by
  have hparen : Tidy ")" := ⟨by decide, ')', rfl, by decide⟩
  have hbracket : Tidy "]" := ⟨by decide, ']', rfl, by decide⟩
  induction e using Expression.induction with
  | literal value => exact value.tidy_render
  | identifier id => exact hv id.name h.1
  | this => exact ⟨by decide, 's', rfl, by decide⟩
  | array elements ih =>
    have hitems := inline_commaSeparated (inline_of_mem_renderElements fun element hmem =>
      ih element hmem (elementsFit_iff.1 h element hmem))
    rw [Expression.render]
    refine hbracket.after ?_
    simp only [inline_append]
    refine ⟨⟨by decide, hitems⟩, ?_⟩
    split <;> decide
  | object properties ih =>
    have hitems := inline_commaSeparated (inline_of_mem_renderProperties hv fun property hmem =>
      (propertiesFit_iff.1 h property hmem).imp_right (ih property hmem))
    rw [Expression.render]
    split
    · exact ⟨by decide, '\x7d', rfl, by decide⟩
    · have hclose : Tidy " \x7d" := ⟨by decide, '\x7d', rfl, by decide⟩
      exact hclose.after (inline_append.2 ⟨by decide, hitems⟩)
  | binary operator left right ihleft ihright =>
    rw [Expression.render]
    refine ((ihright h.2).parenthesizeIf _).after ?_
    simp only [inline_append]
    exact ⟨⟨⟨((ihleft h.1).parenthesizeIf _).inline, by decide⟩, operator.inline_text⟩, by decide⟩
  | unary operator argument ih =>
    rw [Expression.render]
    refine ((ih h).parenthesizeIf _).after (inline_append.2 ⟨operator.inline_text, ?_⟩)
    split <;> decide
  | assignment operator left right line ihleft ihright =>
    rw [Expression.render]
    refine ((ihright h.2.2.1).parenthesizeIf _).after ?_
    simp only [inline_append]
    exact ⟨⟨⟨(ihleft h.2.1).inline, by decide⟩, operator.inline_text⟩, by decide⟩
  | call callee arguments ihcallee iharguments =>
    have hitems := inline_arguments fun item hmem =>
      iharguments item hmem (itemsFit_iff.1 h.2 item hmem)
    rw [Expression.render]
    refine hparen.after ?_
    simp only [inline_append]
    exact ⟨⟨((ihcallee h.1).parenthesizeIf _).inline, by decide⟩, hitems⟩
  | member object property ih =>
    rw [Expression.render, accessed_render]
    refine (hv property.name h.2.1).after ?_
    exact inline_append.2 ⟨((ih h.1).parenthesizeIf _).inline, by decide⟩
  | index object property ihobject ihproperty =>
    rw [Expression.render, accessed_render]
    refine hbracket.after ?_
    simp only [inline_append]
    exact ⟨⟨((ihobject h.1).parenthesizeIf _).inline, by decide⟩, (ihproperty h.2).inline⟩
  | conditional test consequent alternate ihtest ihconsequent ihalternate =>
    rw [Expression.render]
    refine ((ihalternate h.2.2).parenthesizeIf _).after ?_
    simp only [inline_append]
    exact ⟨⟨⟨((ihtest h.1).parenthesizeIf _).inline, by decide⟩,
      ((ihconsequent h.2.1).parenthesizeIf _).inline⟩, by decide⟩
  | new callee arguments ihcallee iharguments =>
    have hitems := inline_arguments fun item hmem =>
      iharguments item hmem (itemsFit_iff.1 h.2 item hmem)
    rw [Expression.render]
    refine hparen.after ?_
    simp only [inline_append]
    exact ⟨⟨⟨by decide, ((ihcallee h.1).parenthesizeIf _).inline⟩, by decide⟩, hitems⟩
  | update operator argument isPrefix line ih =>
    have hargument := (ih h.2.1).parenthesizeIf (decide (argument.level < .postfix_))
    rw [Expression.render]
    cases isPrefix with
    | true => exact hargument.after operator.tidy_text.inline
    | false => exact operator.tidy_text.after hargument.inline
  | sequence expressions ih =>
    have hitems := tidy_of_mem_renderItems fun item hmem =>
      ih item hmem (itemsFit_iff.1 h.2 item hmem)
    rw [Expression.render]
    refine tidy_intercalate (by decide) ?_ hitems
    cases expressions with
    | nil => exact absurd h.1 (by simp)
    | cons first rest => simp [renderItems]

theorem VariableDeclarator.tidy_render {d : VariableDeclarator} (h : d.Fits v) :
    Tidy d.render := by
  have hname := hv d.id.name h.1.1
  unfold VariableDeclarator.render
  cases hinit : d.init with
  | none => exact hname
  | some init =>
    have hvalue := (Expression.tidy_render hv init (h.2 init hinit)).parenthesizeIf
      (decide (init.level < .assignment))
    exact hvalue.after (inline_append.2 ⟨hname.inline, by decide⟩)

/-- A declaration is written on one line, and not with a blank at the end. -/
theorem VariableDeclaration.tidy_render {d : VariableDeclaration} (h : d.Fits v) :
    Tidy d.render := by
  have hkind : Inline (d.kind.text ++ " ") := by cases d.kind <;> decide
  refine (tidy_intercalate (by decide) (by simpa using h.1) ?_).after hkind
  intro t ht
  obtain ⟨declarator, hmem, rfl⟩ := List.mem_map.1 ht
  exact VariableDeclarator.tidy_render hv (h.2.1 declarator hmem)

end Trees

end ScriptSteps
