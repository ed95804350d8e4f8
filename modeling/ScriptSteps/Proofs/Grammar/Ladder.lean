import Mathlib
import ScriptSteps.Proofs.Grammar.Cascade
import ScriptSteps.Proofs.Grammar.Loops
import ScriptSteps.Proofs.Grammar.ForHeader

/-!
# Chains of `if` and `else if`

The tests of an `if` chain are collected first and linked from the last one back. The grammar of
the language says it by recursion: after the body of an `if` there may be an `else`, and what
follows it is a further `if` or a body. Both give the same tree, or the same error, and stop at the
same place. It follows that the tests of a chain are in the order of the text, and that an `else`
is never given to an `if` when another one inside its body is still without one.

## Main definitions

* `Grammar.ladder`, `Grammar.alternate`: an `if` chain by recursion
* `IfStatement.rungs`, `IfStatement.last?`: the tests of a chain, and its final `else`
* `Grammar.Climbs`: the tests of a chain as they stand in a text
* `Statement.endsOpen`: whether a statement ends with an `if` that has no `else`
* `IfStatement.ElsesNearest`: every `else` of a chain belongs to the nearest `if` before it

## Main statements

* `Grammar.ifStatement_eq_ladder`: an `if` chain is read as the recursion reads it
-/

namespace ScriptSteps

/-! ## The tests of a chain -/

mutual

/-- The tests of an `if` chain with what they guard, from the first one on. -/
def IfStatement.rungs : IfStatement → List Grammar.Rung
  | .mk test consequent alternate line => ⟨test, consequent, line⟩ :: alternateRungs alternate

/-- The tests that an `else` part leads to. -/
def alternateRungs : Option Alternate → List Grammar.Rung
  | some (.elseIf next) => next.rungs
  | some (.else_ _) | none => []

end

mutual

/-- The body after the last `else` of an `if` chain, if that is not a further test. -/
def IfStatement.last? : IfStatement → Option Body
  | .mk _ _ alternate _ => alternateLast? alternate

/-- The same of an `else` part, which may be missing. -/
def alternateLast? : Option Alternate → Option Body
  | some (.elseIf next) => next.last?
  | some (.else_ body) => some body
  | none => none

end

/-! ## Open ends -/

mutual

/-- Whether the last thing in a statement is an `if` that has no `else`. -/
def Statement.endsOpen : Statement → Bool
  | .if_ chain => chain.endsOpen
  | .while_ _ body _ | .for_ _ _ _ body _ => body.endsOpen
  | _ => false

/-- The same of a body; nothing in braces is open. -/
def Body.endsOpen : Body → Bool
  | .block _ => false
  | .single statement => statement.endsOpen

/-- The same of an `if` chain. -/
def IfStatement.endsOpen : IfStatement → Bool
  | .mk _ _ alternate _ => alternateEndsOpen alternate

/-- The same of an `else` part, which may be missing. -/
def alternateEndsOpen : Option Alternate → Bool
  | none => true
  | some (.elseIf next) => next.endsOpen
  | some (.else_ body) => body.endsOpen

end

theorem Body.endsOpen_ofStatement (s : Statement) : (ofStatement s).endsOpen = s.endsOpen := by
  cases s <;> rfl

/-- The body before each `else` of a chain has no `if` at its end that is still without one. -/
def IfStatement.ElsesNearest (chain : IfStatement) : Prop :=
  ∀ earlier r later, chain.rungs = earlier ++ r :: later → later ≠ [] ∨ chain.last? ≠ none →
    r.body.endsOpen = false

theorem elsesNearest_mk {test : Expression} {consequent : Body} {alternate : Option Alternate}
    {line : ℕ} (hfirst : alternate ≠ none → consequent.endsOpen = false)
    (hnext : ∀ next, alternate = some (.elseIf next) → next.ElsesNearest) :
    (IfStatement.mk test consequent alternate line).ElsesNearest := by
  intro earlier r later hrungs helse
  cases earlier with
  | nil =>
    obtain ⟨rfl, rfl⟩ := List.cons.inj hrungs
    refine hfirst ?_
    rintro rfl
    exact helse.elim (fun h => h rfl) fun h => h rfl
  | cons first earlier =>
    have hlater : alternateRungs alternate = earlier ++ r :: later := (List.cons.inj hrungs).2
    match alternate with
    | none => simp [alternateRungs] at hlater
    | some (.else_ body) => simp [alternateRungs] at hlater
    | some (.elseIf next) => exact hnext next rfl earlier r later hlater helse

theorem Cursor.next?_of_eatKind? {c : Cursor} {k : TokenKind} {later : c.Later}
    (h : c.eatKind? k = some later) : c.next? = some (k, later) := by
  unfold eatKind? at h
  split at h
  · next found later' hnext =>
    split at h
    · next hfound => rw [hnext, hfound, Option.some.inj h]
    · cases h
  · cases h

namespace Parsed

variable {α : Type} {n : ℕ} {q : α → Cursor → Prop}

theorem ensures_gives (p : Parsed α n) : p.Ensures p.Gives := by
  cases p with
  | ok value rest fewer => exact gives_ok value rest fewer
  | error cause stop => trivial

theorem Ensures.of_gives {p : Parsed α n} (hp : p.Ensures q) {value : α} {rest : Cursor}
    (h : p.Gives value rest) : q value rest := by
  obtain ⟨fewer, rfl⟩ := h
  exact hp

end Parsed

namespace Grammar

open Parsed

/-! ## The recursion -/

mutual

/-- An `if` after its reserved word, with what its `else` leads to. -/
def ladder (line : ℕ) (c : Cursor) : Parsed IfStatement c.size :=
  (rung line c).bindLoose fun first c₁ _ =>
  (alternate c₁).map fun other => .mk first.test first.body other first.line
termination_by c.size

/-- What an `else` leads to, if there is one: a further `if` or a body. -/
def alternate (c : Cursor) : Parsed (Option Alternate) (c.size + 1) :=
  match c.eatWord? .else_ with
  | none => .done none c
  | some ⟨c₁, h₁⟩ =>
    match c₁.eatWord? .if_ with
    | some ⟨c₂, h₂⟩ =>
      .relax <| .resume h₁ <| .resume h₂ <| (ladder c₁.line c₂).map fun next => some (.elseIf next)
    | none => .relax <| .resume h₁ <| (body c₁).map fun last => some (.else_ last)
termination_by c.size

end

/-- What the recursion gives after an `else` are the further tests, linked from the last one
back. -/
theorem alternate_eq (c : Cursor) :
    alternate c = (rungs c).map fun (rest, last) => linkAlternate rest last := by
  rw [alternate, rungs]
  cases c.eatWord? .else_ with
  | none => rfl
  | some later =>
    obtain ⟨c₁, h₁⟩ := later
    dsimp only
    cases c₁.eatWord? .if_ with
    | none =>
      simp only [relax, resume, map_widen, map_map]
      rfl
    | some later =>
      obtain ⟨c₂, h₂⟩ := later
      simp only [relax, resume, map_widen, map_bindLoose, map_map, ladder]
      congr 3
      refine bindLoose_congr fun first c₃ h₃ _ => ?_
      rw [alternate_eq c₃, map_map]
      rfl
termination_by c.size
decreasing_by omega

theorem ifStatement_eq (line : ℕ) (c : Cursor) :
    ifStatement line c = (ladder line c).map .if_ := by
  rw [ifStatement, ladder, map_bindLoose]
  refine bindLoose_congr fun first c₁ h₁ _ => ?_
  rw [alternate_eq c₁, map_map, map_map]
  rfl

/-! ## The order of the tests -/

/-- The tests of an `if` chain as they stand in a text after its first word: each on the line of
its own `if`, with `else` between them, and `else` before the final body. -/
inductive Climbs : ℕ → Cursor → List Rung → Option Body → Cursor → Prop
  | last {line : ℕ} {c rest : Cursor} {r : Rung} (htest : (rung line c).Gives r rest)
      (hend : rest.kind ≠ .keyword .else_) : Climbs line c [r] none rest
  | else_ {line : ℕ} {c d rest : Cursor} {e : d.Later} {r : Rung} {b : Body}
      (htest : (rung line c).Gives r d) (helse : d.eatWord? .else_ = some e)
      (hbody : e.1.kind ≠ .keyword .if_ ∧ (body e.1).Gives b rest) :
      Climbs line c [r] (some b) rest
  | elseIf {line : ℕ} {c d rest : Cursor} {e : d.Later} {f : e.1.Later} {r : Rung}
      {rs : List Rung} {b : Option Body} (htest : (rung line c).Gives r d)
      (helse : d.eatWord? .else_ = some e) (hif : e.1.eatWord? .if_ = some f)
      (hnext : Climbs e.1.line f.1 rs b rest) : Climbs line c (r :: rs) b rest

mutual

theorem ladder_climbs (line : ℕ) (c : Cursor) :
    (ladder line c).Ensures fun chain rest => Climbs line c chain.rungs chain.last? rest := by
  rw [ladder]
  refine (ensures_gives _).bindLoose fun first c₁ h₁ hfirst => ?_
  exact (alternate_climbs c₁).map fun other rest hother => hother line c first hfirst
termination_by 2 * c.size
decreasing_by omega

/-- What an `else` leads to, and the test right before it, are a chain. -/
theorem alternate_climbs (c : Cursor) :
    (alternate c).Ensures fun other rest => ∀ line start r, (rung line start).Gives r c →
      Climbs line start (r :: alternateRungs other) (alternateLast? other) rest := by
  rw [alternate]
  split
  · next helse =>
    exact fun line start r hr => .last hr (Cursor.kind_ne_of_eatKind? helse (by simp))
  · next c₁ h₁ helse =>
    split
    · next c₂ h₂ hif =>
      refine .widen (.widen (.widen ?_ _) _) _
      refine (ladder_climbs c₁.line c₂).map fun next rest hnext line start r hr => ?_
      exact .elseIf hr helse hif hnext
    · next hif =>
      have hother := Cursor.kind_ne_of_eatKind? hif (by simp)
      refine .widen (.widen ?_ _) _
      refine (ensures_gives _).map fun last rest hlast line start r hr => ?_
      exact .else_ hr helse ⟨hother, hlast⟩
termination_by 2 * c.size + 1
decreasing_by omega

end

/-! ## The nearest `if` -/

/-- No `else` comes after a statement that ends with an `if` without one. -/
def ClosesEnd (opens : Bool) (rest : Cursor) : Prop := opens = true → rest.kind ≠ .keyword .else_

theorem expressionStatement_closesEnd (c : Cursor) :
    (expressionStatement c).Ensures fun s rest => ClosesEnd s.endsOpen rest := by
  unfold expressionStatement
  split
  · trivial
  · exact ensures_true.bindLoose fun _ _ _ _ => ensures_map fun _ _ => nofun

mutual

/-- Only `if`, `while` and `for` give statements that end as one of their parts does. -/
theorem statement_closesEnd (c : Cursor) :
    (statement c).Ensures fun s rest => ClosesEnd s.endsOpen rest := by
  apply statement_ensures
  case declaration =>
    exact fun _ _ _ _ _ => ensures_true.bindLoose fun _ _ _ _ => ensures_map fun _ _ => nofun
  case if_ =>
    intro c₁ h₁
    rw [ifStatement_eq]
    exact (ladder_closesEnd c.line c₁).map fun chain rest hchain => hchain.2
  case while_ => exact fun _ c₁ h₁ => body_closesEnd c₁
  case for_ => exact fun c₁ h₁ => ensures_true.mono fun _ c₂ _ h₂ => body_closesEnd c₂
  case expression => exact expressionStatement_closesEnd c
  case return_ => exact fun _ _ _ _ => ensures_true.mono fun _ _ _ => nofun
  case jump_ => exact fun _ _ _ _ => ensures_true.mono fun _ _ _ => ⟨nofun, nofun⟩
  case throw => exact fun _ _ _ _ => ensures_true.mono fun _ _ _ => nofun
  all_goals exact fun _ _ => nofun
termination_by 4 * c.size + 2
decreasing_by all_goals omega

theorem body_closesEnd (c : Cursor) :
    (body c).Ensures fun b rest => ClosesEnd b.endsOpen rest := by
  rw [body]
  refine (statement_closesEnd c).map fun s rest hs => ?_
  rwa [Body.endsOpen_ofStatement]
termination_by 4 * c.size + 3
decreasing_by omega

theorem rung_closesEnd (line : ℕ) (c : Cursor) :
    (rung line c).Ensures fun r rest => ClosesEnd r.body.endsOpen rest := by
  rw [rung]
  refine ensures_true.bind fun test c₁ _ _ => ?_
  exact (body_closesEnd c₁).map fun inner rest hinner => hinner
termination_by 4 * c.size + 1
decreasing_by omega

/-- An `else` after the body of a test means that nothing in the body was waiting for one. -/
theorem ladder_closesEnd (line : ℕ) (c : Cursor) :
    (ladder line c).Ensures fun chain rest =>
      chain.ElsesNearest ∧ ClosesEnd chain.endsOpen rest := by
  rw [ladder]
  refine (rung_closesEnd line c).bindLoose fun first c₁ h₁ hfirst => ?_
  refine (alternate_closesEnd c₁).map fun other rest ⟨hword, hnext, hrest⟩ => ⟨?_, hrest⟩
  refine elsesNearest_mk (fun hother => ?_) hnext
  by_contra hopen
  exact hfirst (Bool.eq_true_of_not_eq_false hopen) (hword hother)
termination_by 4 * c.size + 2
decreasing_by all_goals omega

theorem alternate_closesEnd (c : Cursor) :
    (alternate c).Ensures fun other rest => (other ≠ none → c.kind = .keyword .else_)
      ∧ (∀ next, other = some (.elseIf next) → next.ElsesNearest)
      ∧ ClosesEnd (alternateEndsOpen other) rest := by
  rw [alternate]
  split
  · next helse =>
    exact ⟨nofun, nofun, fun _ => Cursor.kind_ne_of_eatKind? helse (by simp)⟩
  · next c₁ h₁ helse =>
    have hword := Cursor.kind_of_eatKind? helse
    split
    · next c₂ h₂ hif =>
      refine .widen (.widen (.widen ?_ _) _) _
      refine (ladder_closesEnd c₁.line c₂).map fun chain rest hchain => ?_
      refine ⟨fun _ => hword, fun next hnext => ?_, hchain.2⟩
      cases hnext
      exact hchain.1
    · refine .widen (.widen ?_ _) _
      exact (body_closesEnd c₁).map fun last rest hlast => ⟨fun _ => hword, nofun, hlast⟩
termination_by 4 * c.size
decreasing_by all_goals omega

end

/-! ## Both ways of reading -/

/-- An `if` is read as the recursion reads it: the same tree or the same error, and the same place
to go on. The loop that collects the further tests ends, and linking what it found from the last
one back gives what the recursion gives. The tests of a chain are in the order of the text, each
with its own body and line, and every `else` belongs to the nearest `if` that is still without
one. -/
theorem ifStatement_eq_ladder :
    (∀ (c : Cursor) (later : c.Later), c.eatWord? .if_ = some later →
        statement c = ((ladder c.line later.1).map .if_).resume later.2)
      ∧ (∀ line c, ifStatement line c = (ladder line c).map .if_)
      ∧ (∀ c, ∃ outcome, runLoop rungsTurn (c.size + 1) [] c = some outcome
        ∧ (alternate c).outcome = outcome.map fun ((rest, last), d) => (linkAlternate rest last, d))
      ∧ ∀ line c chain rest, (ladder line c).Gives chain rest →
        Climbs line c chain.rungs chain.last? rest ∧ chain.ElsesNearest
          ∧ (chain.endsOpen = true → rest.kind ≠ .keyword .else_) := by
  refine ⟨fun c later hif => ?_, ifStatement_eq, fun c => ?_, fun line c chain rest h => ?_⟩
  · rw [statement, Cursor.next?_of_eatKind? hif, ← ifStatement_eq]
  · refine ⟨_, rungsTurn_computes.run [] c, ?_⟩
    rw [alternate_eq]
    cases rungs c <;> rfl
  · have hnearest := (ladder_closesEnd line c).of_gives h
    exact ⟨(ladder_climbs line c).of_gives h, hnearest⟩

/-- Two tests, the first with an `if` as its body that takes the first `else`. -/
theorem ifStatement_eq_ladder_nested :
    let name (text : String) (line : ℕ) : Expression := .identifier ⟨text, line⟩
    let inner : IfStatement := .mk (name "b" 1) (.single (.expression (name "c" 1) 1))
      (some (.else_ (.single (.expression (name "d" 1) 1)))) 1
    let chain : IfStatement := .mk (name "a" 1) (.single (.if_ inner))
      (some (.elseIf (.mk (name "e" 2) (.single (.empty 2)) none 2))) 1
    let d : Cursor := ⟨1, [⟨.punctuator .leftParen, 1⟩, ⟨.identifier "a", 1⟩,
      ⟨.punctuator .rightParen, 1⟩, ⟨.keyword .if_, 1⟩, ⟨.punctuator .leftParen, 1⟩,
      ⟨.identifier "b", 1⟩, ⟨.punctuator .rightParen, 1⟩, ⟨.identifier "c", 1⟩,
      ⟨.punctuator .semicolon, 1⟩, ⟨.keyword .else_, 1⟩, ⟨.identifier "d", 1⟩,
      ⟨.punctuator .semicolon, 1⟩, ⟨.keyword .else_, 2⟩, ⟨.keyword .if_, 2⟩,
      ⟨.punctuator .leftParen, 2⟩, ⟨.identifier "e", 2⟩, ⟨.punctuator .rightParen, 2⟩,
      ⟨.punctuator .semicolon, 2⟩], 2⟩
    let c : Cursor := ⟨1, ⟨.keyword .if_, 1⟩ :: d.terminals, 2⟩
    let rest : Cursor := ⟨2, [], 2⟩
    Cursor.ofSource "if (a) if (b) c; else d;\nelse if (e);" = c
      ∧ statement c = ((ladder 1 d).map .if_).resume (c := c) (Nat.lt_succ_self _)
      ∧ (ladder 1 d).Gives chain rest
      ∧ Climbs 1 d chain.rungs chain.last? rest ∧ chain.ElsesNearest
      ∧ chain.endsOpen = true ∧ rest.kind ≠ .keyword .else_ := by
  intro name inner chain d c rest
  obtain ⟨hstatement, -, -, hchain⟩ := ifStatement_eq_ladder
  have hread : (ladder 1 d).Gives chain rest := ⟨by decide, by cbv⟩
  obtain ⟨hclimbs, hnearest, hopen⟩ := hchain 1 d chain rest hread
  refine ⟨by decide +kernel, ?_, hread, hclimbs, hnearest, rfl, hopen rfl⟩
  exact hstatement c ⟨d, Nat.lt_succ_self _⟩ rfl

end Grammar

end ScriptSteps
