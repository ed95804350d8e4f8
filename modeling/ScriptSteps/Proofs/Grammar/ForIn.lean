import Mathlib
import ScriptSteps.Grammar
import ScriptSteps.Proofs.Grammar.Membership
import ScriptSteps.Proofs.Grammar.Parenthesized

/-!
# Loops over the keys of a collection

A loop whose variable is declared is refused as a loop over a collection at the `in` after the
variable, whatever comes next. With a name alone, the loop is only seen after all up to the closing
parenthesis has been read as one expression, and only if that is a membership. If the collection is
written with an operator that binds as loosely as `in` or looser, other than `in` itself, what has
been read is something else, and the text is refused for its syntax.

## Main statements

* `Grammar.parseProgram_forIn`: how loops over collections are refused
-/

namespace ScriptSteps.Grammar

variable {c d : Cursor} {init : Option ForInit} {value : Expression} {line : ℕ}

/-! ## The head of a loop -/

theorem expect_push (sign : Punctuator) (c : Cursor) :
    (c.push (.punctuator sign)).expect sign = .ok () c (c.size_lt_push _) := by
  simp [Cursor.expect, Cursor.expectKind]

/-- A loop over a collection is refused on the line of its word. -/
theorem forHead_of_collection {construct : String} (h : (forInit c).Gives init d)
    (hloop : collectionLoop? init d = some construct) (line : ℕ) :
    forHead line (c.push (.punctuator .leftParen)) = .error (.unsupported construct line) d := by
  obtain ⟨fewer, h⟩ := h
  rw [forHead, expect_push]
  simp [Parsed.bindLoose, Parsed.bind, h, hloop]

/-- Any other loop goes on with a semicolon. -/
theorem forHead_of_no_semicolon (h : (forInit c).Gives init d)
    (hloop : collectionLoop? init d = none) (hkind : d.kind ≠ .punctuator .semicolon) (line : ℕ) :
    forHead line (c.push (.punctuator .leftParen))
      = .error (d.fault (.expected (.punctuator .semicolon) d.kind)) d := by
  have heat := Cursor.eatKind?_eq_none hkind
  obtain ⟨fewer, h⟩ := h
  rw [forHead, expect_push]
  simp [Parsed.bindLoose, Parsed.bind, h, hloop, Cursor.expect, Cursor.expectKind, heat]

theorem forHead_of_error {cause : Error} (h : forInit c = .error cause d) (line : ℕ) :
    forHead line (c.push (.punctuator .leftParen)) = .error cause d := by
  rw [forHead, expect_push]
  simp [Parsed.bindLoose, Parsed.bind, h]

theorem program_eq_of_forHead {cause : Error} (h : forHead c.previousLine c = .error cause d) :
    (program (c.push (.keyword .for_))).toExcept = .error cause := by
  have hstatement : statement (c.push (.keyword .for_)) = .error cause d := by
    rw [statement]
    simp only [Cursor.next?_push, Cursor.line_push, h]
    rfl
  rw [program, statements, if_neg (by simp), hstatement]
  rfl

/-! ## The start of a loop -/

/-- A declared variable is read up to the token after it. -/
theorem forInit_declared (name : String) (c : Cursor) :
    (forInit ((atName name c).push (.keyword .let_))).Gives
      (some (.declaration ⟨.let_, [⟨⟨name, c.previousLine⟩, none⟩], c.previousLine⟩))
      (c.push (.keyword .in_)) := by
  have hname : (atName name c).expectName.Gives ⟨name, c.previousLine⟩ (c.push (.keyword .in_)) :=
    ⟨Cursor.size_lt_push _ _, rfl⟩
  have hdeclarators : (declarators .let_ (atName name c)).Gives
      [⟨⟨name, c.previousLine⟩, none⟩] (c.push (.keyword .in_)) := by
    rw [declarators]
    refine hname.bindLoose fun _ => ?_
    exact Parsed.Gives.bindLoose (Parsed.gives_done _ _) fun _ => Parsed.gives_done _ _
  exact (((hdeclarators.map _).map _).resume (Cursor.size_lt_push _ _)).relax

theorem forInit_atName (name : String) (c : Cursor) :
    forInit (atName name c)
      = ((expression (atName name c)).map fun value => some (.expression value)).relax := rfl

theorem collectionLoop?_expression (hkind : d.kind = .punctuator .rightParen) (e : Expression) :
    collectionLoop? (some (.expression e)) d
      = if e.isMembership then some "ForInStatement" else none := by
  cases e with
  | binary operator left right =>
    cases operator <;> simp [collectionLoop?, Expression.isMembership, hkind]
  | _ => simp [collectionLoop?, Expression.isMembership, hkind]

/-- A name alone before `in` and an expression, up to the parenthesis after them. -/
theorem forHead_atName {j : Joint} {c' : Cursor} {t : Terminal} {ts : List Terminal}
    (h : j.Ahead .next c c') (hlines : j.lines = 0) (hmore : j.more = some (t :: ts))
    (hparen : t.kind = .punctuator .rightParen) (hvalue : (expression c).Gives value rest)
    (hrest : rest.terminals = []) (name : String) (line : ℕ) :
    ∃ cause d, forHead line ((atName name c').push (.punctuator .leftParen)) = .error cause d
      ∧ (MakesMembership c → cause = .unsupported "ForInStatement" line)
      ∧ (¬MakesMembership c → ∃ problem l, cause = .malformed problem l
        ∧ (problem = .assignmentTarget
          ∨ problem = .expected (.punctuator .semicolon) (.punctuator .rightParen))) := by
  obtain ⟨result, d, hresult, hreaches, hmember⟩ | ⟨hnot, d, herror⟩ :=
    expression_afterIn h hlines name hvalue hrest
  · have hkind : d.kind = .punctuator .rightParen := by
      simp [Cursor.kind, hreaches.terminals, hrest, hmore, hparen]
    have hinit : (forInit (atName name c')).Gives (some (.expression result)) d := by
      rw [forInit_atName]
      exact (hresult.map _).relax
    have hloop := collectionLoop?_expression hkind result
    by_cases hmakes : MakesMembership c
    · rw [if_pos (hmember.2 hmakes)] at hloop
      exact ⟨_, d, forHead_of_collection hinit hloop line, fun _ => rfl,
        fun hnot => absurd hmakes hnot⟩
    · rw [if_neg (mt hmember.1 hmakes)] at hloop
      have hsemicolon : d.kind ≠ .punctuator .semicolon := by simp [hkind]
      refine ⟨_, d, forHead_of_no_semicolon hinit hloop hsemicolon line,
        fun h => absurd h hmakes, fun _ => ⟨_, _, rfl, .inr ?_⟩⟩
      rw [hkind]
  · have hinit : forInit (atName name c') = .error (d.fault .assignmentTarget) d := by
      rw [forInit_atName, herror]
      rfl
    exact ⟨_, d, forHead_of_error hinit line, fun h => absurd h hnot,
      fun _ => ⟨_, _, rfl, .inl rfl⟩⟩

/-! ## Loops in a text -/

/-- The tokens of a loop over a collection, with its variable alone and declared. -/
theorem ofSource_forIn {k : String} (hname : isName k = true) (e : String) :
    let start := atName k (cursorFrom .start (e.toList ++ [')', ' ', '\x7b', '\x7d']))
    Cursor.ofSource ("for (" ++ k ++ " in " ++ e ++ ") \x7b\x7d")
        = (start.push (.punctuator .leftParen)).push (.keyword .for_)
      ∧ Cursor.ofSource ("for (let " ++ k ++ " in " ++ e ++ ") \x7b\x7d")
        = ((start.push (.keyword .let_)).push (.punctuator .leftParen)).push (.keyword .for_) := by
  intro start
  have hspace : ∀ rest, Stops Text.isNamePart (' ' :: rest) := by
    rintro rest c ⟨⟩
    decide
  have hparen : ∀ rest : List Char,
      ∀ c ∈ rest.head?, c ∉ Punctuator.leftParen.continuations := by
    have hclosed : Punctuator.leftParen.continuations = [] := by decide
    simp [hclosed]
  have hbare : ("for (" ++ k ++ " in " ++ e ++ ") \x7b\x7d").toList
      = Keyword.for_.text.toList ++ ' ' :: (Punctuator.leftParen.text.toList
        ++ (k.toList ++ ' ' :: (Keyword.in_.text.toList
          ++ ' ' :: (e.toList ++ [')', ' ', '\x7b', '\x7d'])))) := by
    simp [Keyword.text, Punctuator.text]
  have hdeclared : ("for (let " ++ k ++ " in " ++ e ++ ") \x7b\x7d").toList
      = Keyword.for_.text.toList ++ ' ' :: (Punctuator.leftParen.text.toList
        ++ (Keyword.let_.text.toList ++ ' ' :: (k.toList ++ ' ' :: (Keyword.in_.text.toList
          ++ ' ' :: (e.toList ++ [')', ' ', '\x7b', '\x7d']))))) := by
    simp [Keyword.text, Punctuator.text]
  refine ⟨?_, ?_⟩
  · rw [ofSource_eq_cursorFrom, hbare, cursorFrom_keyword _ (hspace _), cursorFrom_space,
      cursorFrom_sign _ (hparen _), cursorFrom_name hname (hspace _), cursorFrom_space,
      cursorFrom_keyword _ (hspace _), cursorFrom_space]
    rfl
  · rw [ofSource_eq_cursorFrom, hdeclared, cursorFrom_keyword _ (hspace _), cursorFrom_space,
      cursorFrom_sign _ (hparen _), cursorFrom_keyword _ (hspace _), cursorFrom_space,
      cursorFrom_name hname (hspace _), cursorFrom_space, cursorFrom_keyword _ (hspace _),
      cursorFrom_space]
    rfl

/-- How loops over the keys of a collection are refused: with a declared variable as what they are,
with a name alone only if the collection makes a membership together with the name and `in`. If it
does not, the text is refused for an assignment to something else than a target, or for want of a
semicolon at the closing parenthesis. -/
theorem parseProgram_forIn {k e : String} (hname : isName k = true)
    (hvalue : (expression (.ofSource e)).Gives value rest) (hrest : rest.terminals = [])
    (hend : ∃ t ∈ (scan e).1.getLast?, t.stop = e.utf8ByteSize) :
    parseProgram ("for (let " ++ k ++ " in " ++ e ++ ") \x7b\x7d")
        = .error (.unsupported "ForInStatement" 1)
      ∧ (MakesMembership (.ofSource e) →
        parseProgram ("for (" ++ k ++ " in " ++ e ++ ") \x7b\x7d")
          = .error (.unsupported "ForInStatement" 1))
      ∧ (¬MakesMembership (.ofSource e) → ∃ problem line,
        parseProgram ("for (" ++ k ++ " in " ++ e ++ ") \x7b\x7d")
            = .error (.malformed problem line)
          ∧ (problem = .assignmentTarget
            ∨ problem = .expected (.punctuator .semicolon) (.punctuator .rightParen))) := by
  obtain ⟨hbare, hdeclared⟩ := ofSource_forIn hname e
  obtain ⟨j, t, hlines, hmore, hparen, hahead⟩ :=
    ahead_ofSource hvalue hrest hend [' ', '\x7b', '\x7d']
  obtain ⟨cause, d, hhead, hmakes, hmakes'⟩ :=
    forHead_atName hahead hlines hmore hparen hvalue hrest k 1
  refine ⟨?_, fun h => ?_, fun h => ?_⟩
  · have hinit := forInit_declared k (cursorFrom .start (e.toList ++ [')', ' ', '\x7b', '\x7d']))
    have hloop := forHead_of_collection hinit (rfl : _ = some "ForInStatement") 1
    rw [parseProgram, hdeclared, program_eq_of_forHead hloop]
  · rw [parseProgram, hbare, program_eq_of_forHead hhead, hmakes h]
  · obtain ⟨problem, line, rfl, hproblem⟩ := hmakes' h
    exact ⟨problem, line, by rw [parseProgram, hbare, program_eq_of_forHead hhead], hproblem⟩

/-- Loops over a sum, which is one operand of `in`, on two lines. -/
theorem parseProgram_forIn_sum :
    let e := "a +\nb"
    let sum : Expression := .binary .add (.identifier ⟨"a", 1⟩) (.identifier ⟨"b", 2⟩)
    isName "k" = true ∧ (expression (.ofSource e)).Gives sum ⟨2, [], 2⟩
      ∧ (∃ t ∈ (scan e).1.getLast?, t.stop = e.utf8ByteSize) ∧ MakesMembership (.ofSource e)
      ∧ parseProgram ("for (let " ++ "k" ++ " in " ++ e ++ ") \x7b\x7d")
        = .error (.unsupported "ForInStatement" 1)
      ∧ parseProgram ("for (" ++ "k" ++ " in " ++ e ++ ") \x7b\x7d")
        = .error (.unsupported "ForInStatement" 1) := by
  intro e sum
  have hname : isName "k" = true := by decide
  have hsource : Cursor.ofSource e
      = ⟨1, [⟨.identifier "a", 1⟩, ⟨.punctuator .plus, 1⟩, ⟨.identifier "b", 2⟩], 2⟩ := by
    decide +kernel
  have hread : (expression (.ofSource e)).Gives sum ⟨2, [], 2⟩ := by
    rw [hsource]
    exact ⟨by decide, by cbv⟩
  have hend : ∃ t ∈ (scan e).1.getLast?, t.stop = e.utf8ByteSize := by
    have hscan : (scan e).1.getLast? = some ⟨.identifier "b", 4, 5, 2⟩ := by
      decide +kernel
    exact ⟨_, hscan, rfl⟩
  have hmakes : MakesMembership (.ofSource e) := by
    refine .inl ⟨sum, ⟨2, [], 2⟩, ?_, rfl⟩
    rw [hsource]
    exact ⟨by decide, by cbv⟩
  obtain ⟨hdeclared, hbare, -⟩ := parseProgram_forIn hname hread rfl hend
  exact ⟨hname, hread, hend, hmakes, hdeclared, hbare hmakes⟩

/-- Not every loop over the keys of a collection is refused as one. -/
theorem parseProgram_forIn_and :
    let both : Expression := .binary .logicalAnd (.identifier ⟨"a", 1⟩) (.identifier ⟨"b", 1⟩)
    isName "k" = true ∧ (expression (.ofSource "a && b")).Gives both ⟨1, [], 1⟩
      ∧ (∃ t ∈ (scan "a && b").1.getLast?, t.stop = "a && b".utf8ByteSize)
      ∧ parseProgram "for (let k in a && b) \x7b\x7d" = .error (.unsupported "ForInStatement" 1)
      ∧ parseProgram "for (k in a && b) \x7b\x7d" = .error
        (.malformed (.expected (.punctuator .semicolon) (.punctuator .rightParen)) 1) := by
  intro both
  have hsource : Cursor.ofSource "a && b" = ⟨1,
      [⟨.identifier "a", 1⟩, ⟨.punctuator .ampersandAmpersand, 1⟩, ⟨.identifier "b", 1⟩], 1⟩ := by
    decide +kernel
  have hdeclared : Cursor.ofSource "for (let k in a && b) \x7b\x7d" = ⟨1,
      [⟨.keyword .for_, 1⟩, ⟨.punctuator .leftParen, 1⟩, ⟨.keyword .let_, 1⟩,
        ⟨.identifier "k", 1⟩, ⟨.keyword .in_, 1⟩, ⟨.identifier "a", 1⟩,
        ⟨.punctuator .ampersandAmpersand, 1⟩, ⟨.identifier "b", 1⟩, ⟨.punctuator .rightParen, 1⟩,
        ⟨.punctuator .leftBrace, 1⟩, ⟨.punctuator .rightBrace, 1⟩], 1⟩ := by
    decide +kernel
  have hbare : Cursor.ofSource "for (k in a && b) \x7b\x7d" = ⟨1,
      [⟨.keyword .for_, 1⟩, ⟨.punctuator .leftParen, 1⟩, ⟨.identifier "k", 1⟩,
        ⟨.keyword .in_, 1⟩, ⟨.identifier "a", 1⟩, ⟨.punctuator .ampersandAmpersand, 1⟩,
        ⟨.identifier "b", 1⟩, ⟨.punctuator .rightParen, 1⟩, ⟨.punctuator .leftBrace, 1⟩,
        ⟨.punctuator .rightBrace, 1⟩], 1⟩ := by
    decide +kernel
  have hlast : (scan "a && b").1.getLast? = some ⟨.identifier "b", 5, 6, 1⟩ := by
    decide +kernel
  refine ⟨by decide, ?_, ⟨_, hlast, rfl⟩, ?_, ?_⟩
  · rw [hsource]
    exact ⟨by decide, by cbv⟩
  · rw [parseProgram, hdeclared]
    cbv
  · rw [parseProgram, hbare]
    cbv

end ScriptSteps.Grammar
