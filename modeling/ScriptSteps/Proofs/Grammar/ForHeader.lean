import Mathlib
import ScriptSteps.Proofs.Grammar.RoundTrip
import ScriptSteps.Proofs.Tree.Leaves
import ScriptSteps.Step.Flatten

/-!
# The head of a `for` loop is read back

The condition in the step of a `for` loop is the text of its three clauses with a semicolon after
the first and the second. In the parentheses of a `for` it is read as the same three clauses. A
clause that is left out is empty; one that is not never starts as the end of the clause does, nor
does an expression ever start as a declaration.

A constant without a value is read only where a loop over a collection goes on after it, so there is
none in the head of a `for` loop with three clauses.

## Main definitions

* `ForInit.kinds`, `forHeaderKinds`: the tokens of a head
* `ForInit.Initialized`: every constant that a head declares has a value

## Main statements

* `gives_for`: the tokens of a head are read as that head
* `Grammar.forHead_initialized`: what is read as a head declares no constant without a value
* `parseStatement_forHeader`: the text of a head is read as that head, up to its lines
-/

namespace ScriptSteps

open Grammar

/-! ## Tokens of a head -/

/-- The reserved word of a declaration. -/
def VariableKind.keyword : VariableKind → Keyword
  | var => .var
  | let_ => .let_
  | const => .const

/-- The tokens of a variable. -/
def VariableDeclarator.kinds (d : VariableDeclarator) : List TokenKind :=
  match d.init with
  | none => [.identifier d.id.name]
  | some init => .identifier d.id.name :: .punctuator .equal
      :: parenthesizeKindsIf (decide (init.level < .assignment)) init.kinds

/-- The tokens of what a `for` loop starts with. -/
def ForInit.kinds : ForInit → List TokenKind
  | declaration d =>
    .keyword d.kind.keyword
      :: commaSeparatedKinds (d.declarations.map VariableDeclarator.kinds)
  | expression e => e.kinds

/-- The tokens of the head of a `for` loop. -/
def forHeaderKinds (init : Option ForInit) (test update : Option Expression) : List TokenKind :=
  (init.map ForInit.kinds).getD [] ++ .punctuator .semicolon
    :: ((test.map Expression.kinds).getD [] ++ .punctuator .semicolon
      :: (update.map Expression.kinds).getD [])

theorem scanned_semicolon : Scanned anything [';'] [.punctuator .semicolon] := by
  have hcontinuations : Punctuator.semicolon.continuations = [] := by decide
  exact (scanned_sign .semicolon).mono (by simp [hcontinuations])

/-- Two texts with a semicolon between them. -/
theorem Scanned.semicolon {f : Char → Bool} {text more : String} {kinds moreKinds : List TokenKind}
    (h : Scanned (endsOperand false) text.toList kinds) (hmore : Scanned f more.toList moreKinds) :
    Scanned f (text ++ ";" ++ more).toList (kinds ++ .punctuator .semicolon :: moreKinds) := by
  simpa using h.append_cons (scanned_semicolon.append_of_anything hmore) (by decide)

theorem VariableDeclarator.scanned_render {d : VariableDeclarator} (h : d.Fits .written) :
    Scanned (endsOperand false) d.render.toList d.kinds := by
  obtain ⟨id, init⟩ := d
  have hname : Scanned (endsOperand false) id.name.toList [.identifier id.name] :=
    (scanned_name h.1.1).operand (by simp)
  cases init with
  | none => exact hname
  | some init =>
    have hequal : TokenKind.ofText "=" = .punctuator .equal := by decide
    have hvalue := (Expression.scanned_render init (h.2 init rfl)).parenthesizeIf
      (decide (init.level < .assignment))
    simpa [render, kinds, hequal] using
      hname.operator "=" (by simp [hequal]) hvalue (by decide)

theorem ForInit.scanned_render {start : ForInit} (h : start.Fits .written) :
    Scanned (endsOperand false) (Step.forInitText .canonical (some start)).toList start.kinds := by
  cases start with
  | expression e => exact (e.scanned_render h).operand (by simp)
  | declaration d =>
    have hword : d.kind.text = d.kind.keyword.text := by cases d.kind <;> rfl
    have hlist : ScannedAll (d.declarations.map VariableDeclarator.render)
        (d.declarations.map VariableDeclarator.kinds) := by
      refine List.forall₂_map_left_iff.2 (List.forall₂_map_right_iff.2 (List.forall₂_same.2 ?_))
      intro declarator hmem
      exact VariableDeclarator.scanned_render (h.2.1 declarator hmem)
    have hspaced := (scanned_keyword d.kind.keyword).append_space (by decide)
    simpa [Step.forInitText, Renderer.canonical, VariableDeclaration.render, kinds, hword] using
      hspaced.append_of_anything (scanned_commaSeparated hlist)

/-- The well-shaped heads over a vocabulary. -/
structure HeaderFits (v : Vocabulary) (init : Option ForInit) (test update : Option Expression) :
    Prop where
  init : ∀ start ∈ init, start.Fits v
  test : ∀ e ∈ test, e.Fits v
  update : ∀ e ∈ update, e.Fits v

theorem scanned_clause {clause : Option Expression} (h : ∀ e ∈ clause, e.Fits .written) :
    Scanned (endsOperand false) ((clause.map Expression.render).getD "").toList
      ((clause.map Expression.kinds).getD []) := by
  cases clause with
  | none => exact .nil
  | some e => exact (e.scanned_render (h e rfl)).operand (by simp)

section Header

variable {init : Option ForInit} {test update : Option Expression}

theorem scanned_condition (h : HeaderFits .written init test update) (line : ℕ) :
    Scanned (endsOperand false) (Step.ofFor .canonical init test update line).condition.toList
      (forHeaderKinds init test update) := by
  have hinit : Scanned (endsOperand false) (Step.forInitText .canonical init).toList
      ((init.map ForInit.kinds).getD []) := by
    cases init with
    | none => exact .nil
    | some start => exact ForInit.scanned_render (h.init start rfl)
  have hlast := (scanned_clause h.test).semicolon (scanned_clause h.update)
  simpa [Step.ofFor, Renderer.canonical, forHeaderKinds, String.append_assoc] using
    hinit.semicolon hlast

/-- The tokens of a `for` loop with a head and an empty body. -/
def forKinds (init : Option ForInit) (test update : Option Expression) : List TokenKind :=
  .keyword .for_ :: .punctuator .leftParen :: (forHeaderKinds init test update
    ++ [.punctuator .rightParen, .punctuator .leftBrace, .punctuator .rightBrace])

/-- The cursor at the start of a `for` loop with the condition of a step as its head. -/
theorem ofSource_for (h : HeaderFits .written init test update) (line : ℕ) :
    Cursor.ofSource ("for (" ++ (Step.ofFor .canonical init test update line).condition
      ++ ") \x7b\x7d") = .flat (forKinds init test update) := by
  have hword := (scanned_keyword .for_).append_space (by decide)
  have hbraces : Scanned anything [' ', '\x7b', '\x7d']
      [.punctuator .leftBrace, .punctuator .rightBrace] :=
    (Scanned.nil (f := anything)).braces rfl |>.space
  have hhead := (scanned_condition h line).parens (by decide)
  have hall := hword.append_of_anything (hhead.append_of_anything hbraces)
  rw [ofSource_eq_flat]
  · simpa [Keyword.text, forKinds] using congrArg Cursor.flat (hall.scans [] (by simp))
  · simpa [Keyword.text] using hall.oneLine

end Header

/-! ## Reading a head -/

/-- The tokens that end a clause of a head or introduce variables in it. -/
def TokenKind.boundsClause (k : TokenKind) : Bool :=
  k == .punctuator .semicolon || k == .punctuator .rightParen || (variableKindOf? k).isSome

/-- Where nothing that an operand starts with comes next, the error of the innermost rule is that of
all rules around it. -/
theorem expression_of_primary {c : Cursor} (hprimary : primary c = .error c.unexpected c)
    (hnew : c.eatWord? .new = none) (hupdate : c.take? UpdateOperator.ofKind? = none)
    (hsign : c.take? UnaryOperator.ofKind? = none) : expression c = .error c.unexpected c := by
  have hoperand : operand c = .error c.unexpected c := by
    rw [operand, hnew]
    exact hprimary
  have hpostfix : postfix_ c = .error c.unexpected c := by
    rw [postfix_, call, hoperand]
    rfl
  have hunary : unary c = .error c.unexpected c := by
    rw [unary, hupdate, hsign]
    exact hpostfix
  rw [expression, assignment, conditional, binary, exponent, hunary]
  rfl

/-- No expression starts with a token that ends a clause or introduces variables. -/
theorem expression_of_boundsClause {k : TokenKind} (hk : k.boundsClause = true)
    (ks : List TokenKind) : ∃ cause stop, expression (.flat (k :: ks)) = .error cause stop := by
  have hcases : k = .punctuator .semicolon ∨ k = .punctuator .rightParen
      ∨ k = .keyword .var ∨ k = .keyword .let_ ∨ k = .keyword .const := by
    simp only [TokenKind.boundsClause, Bool.or_eq_true, beq_iff_eq] at hk
    rcases hk with (rfl | rfl) | hword
    · exact .inl rfl
    · exact .inr (.inl rfl)
    · unfold variableKindOf? at hword
      split at hword <;> simp_all
  refine ⟨_, _, expression_of_primary ?_ ?_ ?_ ?_⟩
  · rw [primary]
    rcases hcases with rfl | rfl | rfl | rfl | rfl <;> rfl
  all_goals rcases hcases with rfl | rfl | rfl | rfl | rfl <;> rfl

theorem Expression.starts_clause {e : Expression} (h : e.Fits .written) (ks : List TokenKind) :
    ∀ k ∈ (e.kinds ++ ks).head?, k.boundsClause = false := by
  intro k hk
  rw [Bool.eq_false_iff]
  intro hbounds
  have hread := (e.isRead h).reads.expression [] (by simp [Closes])
  obtain ⟨first, hfirst, -⟩ := e.startsWith_kinds h
  obtain ⟨tail, htail⟩ : ∃ tail, e.kinds = first :: tail := List.head?_eq_some_iff.1 hfirst
  obtain rfl : first = k := by simpa [htail] using hk
  obtain ⟨cause, stop, herror⟩ := expression_of_boundsClause hbounds (tail ++ [])
  rw [htail, List.cons_append] at hread
  obtain ⟨fewer, hgives⟩ := hread
  rw [herror] at hgives
  cases hgives

/-- A variable as it is read back. -/
def VariableDeclarator.reread (d : VariableDeclarator) : VariableDeclarator :=
  ⟨⟨d.id.name, 1⟩, d.init.map Expression.reread⟩

/-- What a `for` loop starts with, as it is read back. -/
def ForInit.reread : ForInit → ForInit
  | declaration d => .declaration ⟨d.kind, d.declarations.map VariableDeclarator.reread, 1⟩
  | expression e => .expression e.reread

/-- Every constant among the variables has a value. -/
def VariableDeclaration.Initialized (d : VariableDeclaration) : Prop :=
  d.kind = .const → ∀ declarator ∈ d.declarations, declarator.init ≠ none

/-- Every constant that a `for` loop starts with has a value. -/
def ForInit.Initialized : ForInit → Prop
  | declaration d => d.Initialized
  | expression _ => True

theorem gives_initializer {kind : VariableKind} {d : VariableDeclarator} (h : d.Fits .written)
    (hinit : kind = .const → d.init ≠ none) {k : TokenKind}
    (hk : k = .punctuator .comma ∨ k = .punctuator .semicolon) (ks : List TokenKind) :
    ∃ more, d.kinds = .identifier d.id.name :: more
      ∧ (initializer kind (.flat (more ++ k :: ks))).Gives d.reread.init (.flat (k :: ks)) := by
  obtain ⟨id, init⟩ := d
  cases init with
  | none =>
    refine ⟨[], rfl, ?_⟩
    have hkind : kind ≠ .const := fun hconst => hinit hconst rfl
    have hequal : (Cursor.flat ([] ++ k :: ks)).eat? .equal = none :=
      Cursor.eat?_flat_eq_none (by rcases hk with rfl | rfl <;> simp)
    rw [initializer, hequal]
    simp only [hkind, false_and, if_false]
    exact Parsed.gives_done _ _
  | some init =>
    refine ⟨_, rfl, ?_⟩
    have hcloses : Closes .assignment (k :: ks) := by
      rcases hk with rfl | rfl
      · exact closes_assignment_of_endsItem rfl
      · exact closes_of_none rfl ks
    have hvalue := ((init.isRead (h.2 init rfl)).readsItem (h.2 init rfl)).reads _ hcloses
    rw [initializer, List.cons_append, Cursor.eat?_flat_cons]
    exact .relax (.resume (hvalue.map _) _)

theorem gives_declarators {kind : VariableKind} {ds : List VariableDeclarator} (hne : ds ≠ [])
    (h : ∀ d ∈ ds, d.Fits .written) (hinit : kind = .const → ∀ d ∈ ds, d.init ≠ none)
    (ks : List TokenKind) :
    (declarators kind (.flat (commaSeparatedKinds (ds.map VariableDeclarator.kinds)
      ++ .punctuator .semicolon :: ks))).Gives (ds.map VariableDeclarator.reread)
      (.flat (.punctuator .semicolon :: ks)) := by
  induction ds with
  | nil => exact absurd rfl hne
  | cons d ds ih =>
    have hd := h d List.mem_cons_self
    have hdinit := fun hconst => hinit hconst d List.mem_cons_self
    cases ds with
    | nil =>
      obtain ⟨more, hkinds, hgives⟩ := gives_initializer hd hdinit (.inr rfl) ks
      rw [List.map_singleton, commaSeparatedKinds, hkinds, declarators, List.cons_append]
      refine (Cursor.gives_expectName _ _).bindLoose fun _ => hgives.bindLoose fun _ => ?_
      rw [Cursor.eat?_flat_eq_none (by simp)]
      exact Parsed.gives_done _ _
    | cons next ds =>
      have hrest := ih (by simp) (fun other hmem => h other (List.mem_cons_of_mem d hmem))
        fun hconst other hmem => hinit hconst other (List.mem_cons_of_mem d hmem)
      obtain ⟨more, hkinds, hgives⟩ := gives_initializer hd hdinit (.inl rfl)
        (commaSeparatedKinds ((next :: ds).map VariableDeclarator.kinds)
          ++ .punctuator .semicolon :: ks)
      rw [List.map_cons, List.map_cons, commaSeparatedKinds, hkinds, declarators, List.append_assoc,
        List.cons_append, List.cons_append]
      · refine (Cursor.gives_expectName _ _).bindLoose fun _ => hgives.bindLoose fun _ => ?_
        rw [Cursor.eat?_flat_cons]
        exact .relax (.resume (hrest.map _) _)
      · simp

theorem gives_forInit {init : Option ForInit} (h : ∀ start ∈ init, start.Fits .written)
    (hinit : ∀ start ∈ init, start.Initialized) (ks : List TokenKind) :
    (forInit (.flat ((init.map ForInit.kinds).getD [] ++ .punctuator .semicolon :: ks))).Gives
      (init.map ForInit.reread) (.flat (.punctuator .semicolon :: ks)) := by
  rcases init with _ | d | e
  · rw [forInit]
    exact Parsed.gives_done _ _
  · have hword : variableKindOf? (.keyword d.kind.keyword) = some d.kind := by cases d.kind <;> rfl
    have hfits : d.Fits .written := h _ rfl
    have hvariables := gives_declarators hfits.1 hfits.2.1 (hinit _ rfl) ks
    rw [forInit, Option.map_some, Option.getD_some, ForInit.kinds, List.cons_append,
      Cursor.take?_flat_cons hword]
    exact .relax (.resume ((hvariables.map _).map _) _)
  · have hfits : e.Fits .written := h _ rfl
    have hstart := Expression.starts_clause hfits (.punctuator .semicolon :: ks)
    have hwords : (Cursor.flat (e.kinds ++ .punctuator .semicolon :: ks)).take? variableKindOf?
        = none := by
      refine Cursor.take?_flat_eq_none fun k hk => ?_
      have hbounds := hstart k hk
      simp only [TokenKind.boundsClause, Bool.or_eq_false_iff] at hbounds
      exact Option.isSome_eq_false_iff.1 hbounds.2 |> Option.isNone_iff_eq_none.1
    have hvalue := (e.isRead hfits).reads.expression _ (closes_of_none (k := .punctuator .semicolon)
      rfl ks)
    have hkind : (Cursor.flat (e.kinds ++ .punctuator .semicolon :: ks)).kind
        ≠ .punctuator .semicolon := by
      obtain ⟨first, hfirst, -⟩ := e.startsWith_kinds hfits
      obtain ⟨tail, htail⟩ := List.head?_eq_some_iff.1 hfirst
      rintro heq
      rw [htail, List.cons_append, Cursor.kind_flat_cons] at heq
      have hbounds := hstart first (by simp [htail])
      rw [heq] at hbounds
      exact absurd hbounds (by decide)
    rw [forInit, Option.map_some, Option.getD_some, ForInit.kinds, hwords]
    simp only [hkind, if_false]
    exact .relax (hvalue.map _)

theorem gives_forClause {clause : Option Expression} (h : ∀ e ∈ clause, e.Fits .written)
    {close : Punctuator} (hclose : close = .semicolon ∨ close = .rightParen)
    (ks : List TokenKind) :
    (forClause close (.flat ((clause.map Expression.kinds).getD []
      ++ .punctuator close :: ks))).Gives (clause.map Expression.reread) (.flat ks) := by
  cases clause with
  | none =>
    rw [forClause, Option.map_none, Option.getD_none, List.nil_append, Cursor.eat?_flat_cons]
    exact Parsed.gives_ok _ _ _
  | some e =>
    have hfits : e.Fits .written := h e rfl
    have hbounds : (TokenKind.punctuator close).boundsClause = true := by
      rcases hclose with rfl | rfl <;> rfl
    have hjoins : (TokenKind.punctuator close).joins = none := by
      rcases hclose with rfl | rfl <;> rfl
    have heat : (Cursor.flat (e.kinds ++ .punctuator close :: ks)).eat? close = none := by
      refine Cursor.eat?_flat_eq_none fun k hk => ?_
      rintro rfl
      rw [Expression.starts_clause hfits _ _ hk] at hbounds
      exact absurd hbounds (by decide)
    have hvalue := (e.isRead hfits).reads.expression _ (closes_of_none hjoins ks)
    rw [forClause, Option.map_some, Option.getD_some, heat]
    exact hvalue.bind fun _ => (Cursor.gives_expect close ks).map _

section Header

variable {init : Option ForInit} {test update : Option Expression}

theorem gives_forHead (h : HeaderFits .written init test update)
    (hinit : ∀ start ∈ init, start.Initialized) (line : ℕ) (ks : List TokenKind) :
    (forHead line (.flat (.punctuator .leftParen
      :: (forHeaderKinds init test update ++ .punctuator .rightParen :: ks)))).Gives
      (init.map ForInit.reread, test.map Expression.reread, update.map Expression.reread)
      (.flat ks) := by
  have hupdate := gives_forClause h.update (.inr rfl) ks
  have htest := gives_forClause h.test (.inl rfl)
    ((update.map Expression.kinds).getD [] ++ .punctuator .rightParen :: ks)
  have hstart := gives_forInit h.init hinit ((test.map Expression.kinds).getD []
    ++ .punctuator .semicolon :: ((update.map Expression.kinds).getD []
    ++ .punctuator .rightParen :: ks))
  have hshape : forHeaderKinds init test update ++ .punctuator .rightParen :: ks
      = (init.map ForInit.kinds).getD [] ++ .punctuator .semicolon
        :: ((test.map Expression.kinds).getD [] ++ .punctuator .semicolon
        :: ((update.map Expression.kinds).getD [] ++ .punctuator .rightParen :: ks)) := by
    simp [forHeaderKinds]
  rw [hshape, forHead]
  refine (Cursor.gives_expect .leftParen _).bindLoose fun _ => ?_
  refine hstart.bind fun _ => ?_
  have hloop : collectionLoop? (init.map ForInit.reread) (.flat (.punctuator .semicolon
      :: ((test.map Expression.kinds).getD [] ++ .punctuator .semicolon
      :: ((update.map Expression.kinds).getD [] ++ .punctuator .rightParen :: ks)))) = none := by
    simp [collectionLoop?]
  rw [hloop]
  refine (Cursor.gives_expect .semicolon _).bind fun _ => ?_
  exact htest.bind fun _ => hupdate.map _

theorem gives_emptyBody :
    (body (.flat [.punctuator .leftBrace, .punctuator .rightBrace])).Gives (.block (.mk [] 1))
      (.flat []) := by
  have hblock : (block (.flat [.punctuator .leftBrace, .punctuator .rightBrace])).Gives (.mk [] 1)
      (.flat []) := by
    rw [block]
    refine (Cursor.gives_expect .leftBrace _).bindLoose fun _ => ?_
    rw [statements]
    exact (Parsed.gives_done _ _).bind fun _ => (Cursor.gives_expect .rightBrace _).map _
  rw [body, statement]
  exact (hblock.map _).map _

/-- The tokens of a `for` loop are read as that loop. -/
theorem gives_for (h : HeaderFits .written init test update)
    (hinit : ∀ start ∈ init, start.Initialized) :
    (statement (.flat (forKinds init test update))).Gives
      (.for_ (init.map ForInit.reread) (test.map Expression.reread) (update.map Expression.reread)
        (.block (.mk [] 1)) 1) (.flat []) := by
  have hhead := gives_forHead h hinit 1 [.punctuator .leftBrace, .punctuator .rightBrace]
  rw [statement, forKinds, Cursor.next?_flat_cons, Cursor.line_flat]
  exact .resume (hhead.bind fun _ => gives_emptyBody.map _) _

end Header

/-! ## What is read as a head -/

namespace Parsed

variable {α β : Type} {m n : ℕ} {q : α → Cursor → Prop} {q' : β → Cursor → Prop}

/-- If the rule succeeds, something holds of its value and the cursor it stops at. -/
def Ensures (p : Parsed α n) (q : α → Cursor → Prop) : Prop :=
  match p with
  | ok value rest _ => q value rest
  | error _ _ => True

theorem Ensures.of_ok {p : Parsed α n} (hp : p.Ensures q) {value : α}
    (h : p.toExcept = .ok value) : ∃ rest, q value rest := by
  cases p with
  | ok value' rest fewer =>
    obtain rfl : value' = value := Except.ok.inj h
    exact ⟨rest, hp⟩
  | error cause stop => cases h

theorem Ensures.widen {p : Parsed α m} (hp : p.Ensures q) (h : m ≤ n) :
    (p.widen h).Ensures q := by
  cases p <;> exact hp

theorem Ensures.and {r : α → Cursor → Prop} {p : Parsed α n} (hq : p.Ensures q)
    (hr : p.Ensures r) : p.Ensures fun value rest => q value rest ∧ r value rest := by
  cases p with
  | ok value rest fewer => exact ⟨hq, hr⟩
  | error cause stop => trivial

theorem Ensures.mono {r : α → Cursor → Prop} {p : Parsed α n} (hp : p.Ensures q)
    (h : ∀ value rest, q value rest → r value rest) : p.Ensures r := by
  cases p with
  | ok value rest fewer => exact h value rest hp
  | error cause stop => trivial

theorem Ensures.map {p : Parsed α n} {f : α → β} (hp : p.Ensures q)
    (hf : ∀ value rest, q value rest → q' (f value) rest) : (p.map f).Ensures q' := by
  cases p with
  | ok value rest fewer => exact hf value rest hp
  | error cause stop => trivial

theorem Ensures.bind {p : Parsed α n} (hp : p.Ensures q)
    {f : α → (rest : Cursor) → rest.size < n → Parsed β rest.size}
    (hf : ∀ value rest fewer, q value rest → (f value rest fewer).Ensures q') :
    (p.bind f).Ensures q' := by
  cases p with
  | ok value rest fewer => exact (hf value rest fewer hp).widen (Nat.le_of_lt fewer)
  | error cause stop => trivial

theorem Ensures.bindLoose {p : Parsed α n} (hp : p.Ensures q)
    {f : α → (rest : Cursor) → rest.size < n → Parsed β (rest.size + 1)}
    (hf : ∀ value rest fewer, q value rest → (f value rest fewer).Ensures q') :
    (p.bindLoose f).Ensures q' := by
  cases p with
  | ok value rest fewer => exact (hf value rest fewer hp).widen fewer
  | error cause stop => trivial

/-- Nothing needs to be known of the first of two rules. -/
theorem ensures_true {p : Parsed α n} : p.Ensures fun _ _ => True := by cases p <;> trivial

theorem ensures_map {p : Parsed α n} {f : α → β} (h : ∀ value rest, q' (f value) rest) :
    (p.map f).Ensures q' :=
  ensures_true.map fun value rest _ => h value rest

end Parsed

/-- What a rule leaves to be read is the end of what there was. -/
theorem Parsed.From.suffix {α : Type} {n : ℕ} {c : Cursor} {q : α → Cursor → Prop}
    {p : Parsed α n} (hp : p.From c q) :
    p.Ensures fun _ rest => rest.terminals <:+ c.terminals := by
  cases p with
  | ok value rest fewer => exact hp.1.suffix
  | error cause stop => trivial

theorem Cursor.expectName_passes (c : Cursor) :
    c.expectName.Ensures fun id rest => c.Passes [⟨.identifier id.name, id.line⟩] rest := by
  unfold expectName
  split
  · next id d h heat =>
    obtain ⟨k, hid, hpasses⟩ := passes_of_take? heat
    split at hid
    · obtain rfl := Option.some.inj hid
      exact hpasses
    · cases hid
  · trivial

namespace Grammar

open Parsed

/-- Whether a loop over a collection goes on after a declaration. -/
def AtCollection (c : Cursor) : Prop := c.kind = .keyword .in_ ∨ c.kind = .identifier "of"

theorem initializer_initialized (c : Cursor) :
    (initializer .const c).Ensures fun init rest =>
      init ≠ none ∨ init = none ∧ rest = c ∧ AtCollection c := by
  unfold initializer
  split
  · refine .widen (.widen ?_ _) _
    exact ensures_true.map fun _ _ _ => .inl (by simp)
  · split
    · trivial
    · next h =>
      refine .inr ⟨rfl, rfl, ?_⟩
      by_cases hin : c.kind = .keyword .in_
      · exact .inl hin
      · by_cases hof : c.kind = .identifier "of"
        · exact .inr hof
        · exact absurd ⟨rfl, hin, hof⟩ h

/-- The last variable is the only one without a value, and a collection comes right after it. -/
structure EndsBare (c : Cursor) (ds : List VariableDeclarator) (rest : Cursor) : Prop where
  atCollection : AtCollection rest
  last : ∃ others id, ds = others ++ [⟨id, none⟩] ∧ (∀ other ∈ others, other.init ≠ none)
    ∧ rest.previousLine = id.line
    ∧ ⟨.identifier id.name, id.line⟩ :: rest.terminals <:+ c.terminals

theorem EndsBare.cons {c d rest : Cursor} {ds : List VariableDeclarator}
    {first : VariableDeclarator} (h : EndsBare d ds rest) (hfirst : first.init ≠ none)
    (hsuffix : d.terminals <:+ c.terminals) : EndsBare c (first :: ds) rest := by
  obtain ⟨hat, others, id, rfl, hothers, hline, hlast⟩ := h
  refine ⟨hat, first :: others, id, rfl, ?_, hline, hlast.trans hsuffix⟩
  exact List.forall_mem_cons.2 ⟨hfirst, hothers⟩

/-- A constant without a value can only be the last one, before a collection. -/
theorem declarators_initialized (c : Cursor) :
    (declarators .const c).Ensures fun ds rest =>
      (∀ d ∈ ds, d.init ≠ none) ∨ EndsBare c ds rest := by
  rw [declarators]
  refine c.expectName_passes.bindLoose fun id c₁ _ hid => ?_
  have hinit := (initializer_from .const c₁).suffix.and (initializer_initialized c₁)
  refine hinit.bindLoose fun init c₂ _ hboth => ?_
  obtain ⟨hsuffix, hinit⟩ := hboth
  split
  · rcases hinit with hvalue | ⟨rfl, rfl, hat⟩
    · exact .inl (by simpa using hvalue)
    · refine .inr ⟨hat, [], id, rfl, by simp, hid.previousLine, ?_⟩
      exact hid.terminals ▸ List.suffix_rfl
  · next c₃ h₃ heat =>
    have hvalue : init ≠ none := by
      refine hinit.resolve_right ?_
      rintro ⟨-, rfl, hat⟩
      have hkind := Cursor.kind_of_eatKind? heat
      rcases hat with hin | hof
      · simp [hkind] at hin
      · simp [hkind] at hof
    have hbefore : c₃.terminals <:+ c.terminals :=
      (Cursor.spans_of_eatKind? heat).suffix.trans (hsuffix.trans hid.suffix)
    refine .widen (.widen ?_ _) _
    refine (declarators_initialized c₃).map fun ds rest hds => ?_
    refine hds.imp (fun hall => ?_) fun hbare => hbare.cons hvalue hbefore
    exact List.forall_mem_cons.2 ⟨hvalue, hall⟩
termination_by c.size
decreasing_by all_goals omega

theorem declaration_initialized (kind : VariableKind) (line : ℕ) (c : Cursor) :
    (declaration kind line c).Ensures fun d rest =>
      d.Initialized ∨ EndsBare c d.declarations rest := by
  by_cases hconst : kind = .const
  · subst hconst
    exact (declarators_initialized c).map fun ds rest hds => hds.imp_left fun hall _ => hall
  · exact ensures_map fun ds rest => .inl fun heq => absurd heq hconst

theorem forInit_initialized (c : Cursor) :
    (forInit c).Ensures fun init rest =>
      (∀ start ∈ init, start.Initialized) ∨ AtCollection rest := by
  unfold forInit
  split
  · next kind c₁ h₁ htake =>
    refine .widen (.widen ?_ _) _
    refine (declaration_initialized kind c.line c₁).map fun d rest hd => ?_
    refine hd.imp (fun hvalues => ?_) EndsBare.atCollection
    simpa [ForInit.Initialized] using hvalues
  · split
    · exact .inl (by simp)
    · refine .widen ?_ _
      exact ensures_true.map fun e rest _ => .inl (by simp [ForInit.Initialized])

theorem forHead_initialized (line : ℕ) (c : Cursor) :
    (forHead line c).Ensures fun head _ => ∀ start ∈ head.1, start.Initialized := by
  refine ensures_true.bindLoose fun _ c₁ _ _ => ?_
  refine (forInit_initialized c₁).bind fun init c₂ _ hinit => ?_
  split
  · trivial
  · next hloop =>
    have hhere : ¬AtCollection c₂ := by
      rintro (hin | hof)
      · simp [collectionLoop?, hin] at hloop
      · simp [collectionLoop?, hof] at hloop
    refine ensures_true.bind fun _ c₃ _ _ => ?_
    refine ensures_true.bind fun test c₄ _ _ => ?_
    exact ensures_true.map fun update c₅ _ => hinit.resolve_right hhere

end Grammar

/-- Every constant in the head of the statement, if that is a `for` loop, has a value. -/
def Statement.HeadInitialized : Statement → Prop
  | .for_ init _ _ _ _ => ∀ start ∈ init, start.Initialized
  | _ => True

namespace Grammar

open Parsed

theorem expressionStatement_initialized (c : Cursor) :
    (expressionStatement c).Ensures fun s _ => s.HeadInitialized := by
  unfold expressionStatement
  split
  · trivial
  · exact ensures_true.bindLoose fun _ _ _ _ => ensures_map fun _ _ => trivial

/-- What holds of the statements that each rule gives holds of any statement. Nothing is asked of
the rules that end with a constructor of their own but for that constructor. -/
theorem statement_ensures {q : Statement → Cursor → Prop} {c : Cursor}
    (declaration : ∀ word kind c₁ h₁, c.next? = some (.keyword word, ⟨c₁, h₁⟩) →
      (declarationStatement kind c.line c₁).Ensures q)
    (function : ∀ id params inner line rest, q (.function id params inner line) rest)
    (if_ : ∀ c₁, c₁.size < c.size → (ifStatement c.line c₁).Ensures q)
    (switch : ∀ discriminant cases line rest, q (.switch discriminant cases line) rest)
    (while_ : ∀ test c₁, c₁.size < c.size →
      (body c₁).Ensures fun inner rest => q (.while_ test inner c.line) rest)
    (doWhile : ∀ inner test line rest, q (.doWhile inner test line) rest)
    (for_ : ∀ c₁, c₁.size < c.size → (forHead c.line c₁).Ensures fun head c₂ => c₂.size < c₁.size →
      (body c₂).Ensures fun inner rest => q (.for_ head.1 head.2.1 head.2.2 inner c.line) rest)
    (return_ : ∀ word c₁ h₁, c.next? = some (.keyword word, ⟨c₁, h₁⟩) →
      (returned c.line c₁).Ensures fun argument rest => q (.return_ argument c.line) rest)
    (jump_ : ∀ word c₁ h₁, c.next? = some (.keyword word, ⟨c₁, h₁⟩) →
      (jump c.line c₁).Ensures fun label rest =>
        q (.break_ label c.line) rest ∧ q (.continue_ label c.line) rest)
    (throw : ∀ word c₁ h₁, c.next? = some (.keyword word, ⟨c₁, h₁⟩) →
      (thrown c.line c₁).Ensures fun argument rest => q (.throw argument c.line) rest)
    (try_ : ∀ inner handler finalizer line rest, q (.try_ inner handler finalizer line) rest)
    (block : ∀ inner rest, q (.block inner) rest) (empty : ∀ line rest, q (.empty line) rest)
    (expression : (expressionStatement c).Ensures q) : (statement c).Ensures q := by
  rw [statement]
  split
  · next word c₁ h₁ hnext =>
    split
    any_goals apply Ensures.widen
    · exact declaration _ _ c₁ h₁ hnext
    · exact declaration _ _ c₁ h₁ hnext
    · exact declaration _ _ c₁ h₁ hnext
    · rw [Grammar.function]
      refine ensures_true.bind fun _ _ _ _ => ensures_true.bind fun _ _ _ _ => ?_
      exact ensures_true.bind fun _ _ _ _ => ensures_map fun _ _ => function ..
    · exact if_ c₁ h₁
    · rw [Grammar.switch]
      refine ensures_true.bind fun _ _ _ _ => ensures_true.bind fun _ _ _ _ => ?_
      exact ensures_map fun _ _ => switch ..
    · refine ensures_true.bind fun test c₂ h₂ _ => ?_
      exact (while_ test c₂ (h₂.trans h₁)).map fun _ _ h => h
    · rw [Grammar.doWhile]
      refine ensures_true.bind fun _ _ _ _ => ensures_true.bind fun _ _ _ _ => ?_
      refine ensures_true.bindLoose fun _ _ _ _ => ?_
      split <;> exact doWhile ..
    · exact (for_ c₁ h₁).bind fun head c₂ h₂ hhead => (hhead h₂).map fun _ _ h => h
    · exact (return_ _ c₁ h₁ hnext).map fun _ _ h => h
    · exact (jump_ _ c₁ h₁ hnext).map fun _ _ h => h.1
    · exact (jump_ _ c₁ h₁ hnext).map fun _ _ h => h.2
    · exact (throw _ c₁ h₁ hnext).map fun _ _ h => h
    · rw [tryStatement]
      refine ensures_true.bindLoose fun _ _ _ _ => ensures_true.bindLoose fun _ _ _ _ => ?_
      refine ensures_true.bindLoose fun _ _ _ _ => ?_
      split
      · trivial
      · exact try_ ..
    · exact expression
  · exact ensures_map fun _ _ => block ..
  · exact empty ..
  · exact expression

/-- Only the rule of a `for` loop gives one. -/
theorem statement_initialized (c : Cursor) :
    (statement c).Ensures fun s _ => s.HeadInitialized := by
  apply statement_ensures
  case declaration =>
    exact fun _ _ _ _ _ => ensures_true.bindLoose fun _ _ _ _ => ensures_map fun _ _ => trivial
  case if_ =>
    intro c₁ _
    rw [ifStatement]
    exact ensures_true.bindLoose fun _ _ _ _ => ensures_map fun _ _ => trivial
  case for_ =>
    exact fun c₁ _ => (forHead_initialized c.line c₁).mono fun _ _ hinit _ =>
      ensures_true.mono fun _ _ _ => hinit
  case expression => exact expressionStatement_initialized c
  case while_ => exact fun _ _ _ => ensures_true.mono fun _ _ _ => trivial
  case return_ => exact fun _ _ _ _ => ensures_true.mono fun _ _ _ => trivial
  case jump_ => exact fun _ _ _ _ => ensures_true.mono fun _ _ _ => ⟨trivial, trivial⟩
  case throw => exact fun _ _ _ _ => ensures_true.mono fun _ _ _ => trivial
  all_goals intros; trivial

end Grammar

/-! ## Heads of a text -/

theorem ForInit.reread_eq_onLine {start : ForInit} (h : ∀ l ∈ start.literals, l.IsPlain) :
    start.reread = start.onLine 1 := by
  cases start with
  | expression e => rw [ForInit.reread, ForInit.onLine, Expression.reread_eq_onLine h]
  | declaration d =>
    have hvariables : d.declarations.map VariableDeclarator.reread
        = d.declarations.map (VariableDeclarator.onLine 1) := by
      refine List.map_congr_left fun declarator hmem => ?_
      have hvalue : declarator.init.map Expression.reread
          = declarator.init.map (Expression.onLine 1) := by
        refine Option.map_congr fun e he => Expression.reread_eq_onLine fun l hl => ?_
        exact h l (List.mem_flatMap.2 ⟨declarator, hmem, by simpa [he] using hl⟩)
      rw [VariableDeclarator.reread, hvalue]
      rfl
    rw [ForInit.reread, ForInit.onLine, hvariables]

/-- The head of every `for` loop that a text is read as is well-shaped and declares no constant
without a value. -/
theorem headerFits_of_parseStatement {source : String} {init : Option ForInit}
    {test update : Option Expression} {body : Body} {line : ℕ}
    (h : parseStatement source = .ok (.for_ init test update body line)) :
    HeaderFits .written init test update ∧ ∀ start ∈ init, start.Initialized := by
  constructor
  · obtain ⟨rest, hread⟩ := (Grammar.statement_from _).of_ok h
    have hfits : (Statement.for_ init test update body line).Fits .written := by
      refine hread.fits.admitted fun t ht => ⟨trivial, ?_⟩
      obtain ⟨kind, tokenLine⟩ := t
      cases kind <;> exact ht.2
    exact ⟨hfits.1, hfits.2.1, hfits.2.2.1⟩
  · obtain ⟨rest, hinit⟩ := (Grammar.statement_initialized _).of_ok h
    exact hinit

/-- The steps of a `for` loop are a step with its head as the condition and those of its body. In
the parentheses of a `for`, that condition is read as the same head, up to its lines, if the
literals in it are plain. -/
theorem parseStatement_forHeader {source : String} {init : Option ForInit}
    {test update : Option Expression} {body : Body} {line : ℕ}
    (h : parseStatement source = .ok (.for_ init test update body line))
    (hinit : ∀ start ∈ init, ∀ l ∈ start.literals, l.IsPlain)
    (htest : ∀ e ∈ test, ∀ l ∈ e.literals, l.IsPlain)
    (hupdate : ∀ e ∈ update, ∀ l ∈ e.literals, l.IsPlain) :
    let step := Step.ofFor .canonical init test update line
    (step.line = line ∧ step.kind = .forStatement)
      ∧ flatten .canonical [.for_ init test update body line]
        = (body.steps .canonical).map (step :: ·)
      ∧ parseStatement ("for (" ++ step.condition ++ ") \x7b\x7d")
        = .ok (.for_ (init.map (ForInit.onLine 1)) (test.map (Expression.onLine 1))
            (update.map (Expression.onLine 1)) (.block (.mk [] 1)) 1) := by
  intro step
  obtain ⟨hfits, hvalues⟩ := headerFits_of_parseStatement h
  refine ⟨⟨rfl, rfl⟩, ?_, ?_⟩
  · rw [flatten, statementSteps, Statement.steps]
    cases body.steps .canonical with
    | error e => rfl
    | ok inner => simp [statementSteps, step, pure, Except.pure, bind, Except.bind, Except.map]
  · obtain ⟨fewer, hgives⟩ := gives_for hfits hvalues
    rw [parseStatement, ofSource_for hfits line, hgives,
      Option.map_congr fun start hmem => ForInit.reread_eq_onLine (hinit start hmem),
      Option.map_congr fun e hmem => Expression.reread_eq_onLine (htest e hmem),
      Option.map_congr fun e hmem => Expression.reread_eq_onLine (hupdate e hmem)]
    rfl

/-- A declaration, `in` as an operator before a string with a semicolon, and a second line. -/
theorem parseStatement_forHeader_let :
    let init (l : ℕ) : ForInit := .declaration
      ⟨.let_, [⟨⟨"i", l⟩, some (.literal (.number .zero))⟩], l⟩
    let test (l : ℕ) : Expression := .binary .in_ (.identifier ⟨"i", l⟩) (.literal (.string ";"))
    let update (l : ℕ) : Expression := .update .increment (.identifier ⟨"i", l⟩) false l
    let body : Body := .single (.return_ none 2)
    let step := Step.ofFor .canonical (some (init 1)) (some (test 2)) (some (update 2)) 1
    parseStatement "for (let i = 0;\ni in ';'; i++) return"
        = .ok (.for_ (init 1) (test 2) (update 2) body 1)
      ∧ ((step.line = 1 ∧ step.kind = .forStatement)
      ∧ flatten .canonical [.for_ (init 1) (test 2) (update 2) body 1]
        = (body.steps .canonical).map (step :: ·)
      ∧ parseStatement ("for (" ++ step.condition ++ ") \x7b\x7d")
        = .ok (.for_ (init 1) (test 1) (update 1) (.block (.mk [] 1)) 1)) := by
  intro init test update body step
  have hsource : Cursor.ofSource "for (let i = 0;\ni in ';'; i++) return" = ⟨1,
      [⟨.keyword .for_, 1⟩, ⟨.punctuator .leftParen, 1⟩, ⟨.keyword .let_, 1⟩,
        ⟨.identifier "i", 1⟩, ⟨.punctuator .equal, 1⟩, ⟨.number .zero, 1⟩,
        ⟨.punctuator .semicolon, 1⟩, ⟨.identifier "i", 2⟩, ⟨.keyword .in_, 2⟩, ⟨.string ";", 2⟩,
        ⟨.punctuator .semicolon, 2⟩, ⟨.identifier "i", 2⟩, ⟨.punctuator .plusPlus, 2⟩,
        ⟨.punctuator .rightParen, 2⟩, ⟨.keyword .return_, 2⟩], 2⟩ := by
    decide +kernel
  have hparsed : parseStatement "for (let i = 0;\ni in ';'; i++) return"
      = .ok (.for_ (init 1) (test 2) (update 2) body 1) := by
    rw [parseStatement, hsource]
    cbv
  refine ⟨hparsed, parseStatement_forHeader hparsed ?_ ?_ ?_⟩
  · rintro _ ⟨⟩ l hl
    obtain rfl : l = .number .zero := by
      simpa [init, ForInit.literals, Expression.literals] using hl
    exact (by decide : Binary64.zero.isInfinite = false)
  · rintro _ ⟨⟩ l hl
    obtain rfl : l = .string ";" := by simpa [test, Expression.literals] using hl
    simp [Literal.IsPlain, Text.isControl]
  · rintro _ ⟨⟩ l hl
    simp [update, Expression.literals] at hl

end ScriptSteps
