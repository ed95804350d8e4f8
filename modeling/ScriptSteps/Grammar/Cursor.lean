import ScriptSteps.Error
import ScriptSteps.Token.Scan
import ScriptSteps.Tree.Expression

/-!
# Reading tokens

A parse reads the tokens of a text from front to back. It looks at the kind of a token and at the
line it starts on, never at its bytes. A `Cursor` is what is still to be read, together with the
line of the token read last, on which the end of a statement may depend.

Most rules of the grammar read at least one token, and their types say so: `Parsed α n` leaves
fewer than `n` tokens, so a rule at a cursor `c` that gives a `Parsed α c.size` has read something,
and one that gives a `Parsed α (c.size + 1)` may have read nothing. That is what makes the
recursion of the grammar end.

## Main definitions

* `Terminal`: a token as the grammar sees it
* `Cursor`: the tokens still to be read
* `Parsed`: a value and the tokens after it, or an error and where it was met
* `Parsed.bind`, `Parsed.bindLoose`: one rule after another
-/

namespace ScriptSteps

/-- A token as the grammar sees it. -/
structure Terminal where
  kind : TokenKind
  line : Nat
deriving DecidableEq, Repr

/-- The tokens still to be read, the line of the one read last, and the line of the end. -/
structure Cursor where
  previousLine : Nat
  terminals : List Terminal
  endLine : Nat
deriving DecidableEq, Repr

namespace Cursor

/-- The start of a text. -/
def ofSource (source : String) : Cursor :=
  let (tokens, finish) := scan source
  ⟨1, tokens.map fun t => ⟨t.kind, t.line⟩, finish.line⟩

/-- How many tokens are still to be read. -/
def size (c : Cursor) : Nat := c.terminals.length

/-- The kind of the next token. -/
def kind (c : Cursor) : TokenKind :=
  match c.terminals with
  | [] => .endOfInput
  | t :: _ => t.kind

/-- The line of the next token. -/
def line (c : Cursor) : Nat :=
  match c.terminals with
  | [] => c.endLine
  | t :: _ => t.line

/-- The cursors with fewer tokens to read. -/
abbrev Later (c : Cursor) : Type := { d : Cursor // d.size < c.size }

/-- The next token and the cursor after it; nothing at the end. -/
def next? (c : Cursor) : Option (TokenKind × c.Later) :=
  match c with
  | ⟨_, [], _⟩ => none
  | ⟨_, t :: ts, endLine⟩ => some (t.kind, ⟨⟨t.line, ts, endLine⟩, by simp [size]⟩)

/-- What the next token stands for, if it stands for something, and the cursor after it. -/
def take? {α : Type} (c : Cursor) (meaning : TokenKind → Option α) : Option (α × c.Later) :=
  match c.next? with
  | some (kind, later) => (meaning kind).map fun value => (value, later)
  | none => none

/-- The cursor after a given kind of token, if that comes next. -/
def eatKind? (c : Cursor) (kind : TokenKind) : Option c.Later :=
  match c.next? with
  | some (found, later) => if found = kind then some later else none
  | none => none

/-- The cursor after a punctuator, if that comes next. -/
def eat? (c : Cursor) (sign : Punctuator) : Option c.Later := c.eatKind? (.punctuator sign)

/-- The cursor after a reserved word, if that comes next. -/
def eatWord? (c : Cursor) (word : Keyword) : Option c.Later := c.eatKind? (.keyword word)

/-- The name that comes next, and the cursor after it. -/
def eatName? (c : Cursor) : Option (Identifier × c.Later) :=
  c.take? fun
    | .identifier name => some ⟨name, c.line⟩
    | _ => none

/-- A problem with the next token. -/
def fault (c : Cursor) (problem : Problem) : Error := .malformed problem c.line

/-- The next token fits no rule. -/
def unexpected (c : Cursor) : Error := c.fault (.unexpected c.kind)

end Cursor

/-! ## Results -/

/-- What a rule of the grammar gives: a value and a cursor with fewer than `n` tokens, or an error
and the cursor it was met at. -/
inductive Parsed (α : Type) (n : Nat) where
  | ok (value : α) (rest : Cursor) (fewer : rest.size < n)
  | error (cause : Error) (stop : Cursor)

/-- Fewer than fewer is fewer. -/
theorem Cursor.size_lt_of_le {c : Cursor} {m n : Nat} (fewer : c.size < m) (h : m ≤ n) :
    c.size < n := Nat.lt_of_lt_of_le fewer h

/-- The tokens after a later cursor are no more than those after an earlier one. -/
theorem Cursor.size_le_of_lt {c d : Cursor} (h : d.size < c.size) : d.size ≤ c.size :=
  Nat.le_of_lt h

/-- A cursor has fewer tokens than one more than its own. -/
theorem Cursor.size_lt_succ (c : Cursor) : c.size < c.size + 1 := Nat.lt_succ_self c.size

namespace Parsed

variable {α β : Type} {m n : Nat} {c d : Cursor}

/-- A value after which nothing has been read. -/
def done (value : α) (rest : Cursor) : Parsed α (rest.size + 1) := ok value rest rest.size_lt_succ

/-- The same result under a weaker bound. -/
def widen (p : Parsed α m) (h : m ≤ n) : Parsed α n :=
  match p with
  | ok value rest fewer => ok value rest (Cursor.size_lt_of_le fewer h)
  | error cause stop => error cause stop

/-- The result of a rule as that of one that may read nothing. -/
def relax (p : Parsed α n) : Parsed α (n + 1) := p.widen (Nat.le_succ n)

/-- The result of a rule read from a later cursor. -/
def resume (h : d.size < c.size) (p : Parsed α d.size) : Parsed α c.size :=
  p.widen (Cursor.size_le_of_lt h)

/-- The result of a rule read from a later cursor, where it may read nothing. -/
def resumeLoose (h : d.size < c.size) (p : Parsed α (d.size + 1)) : Parsed α c.size := p.widen h

/-- Goes on with a rule that reads the rest. -/
def bind (p : Parsed α m) (f : α → (rest : Cursor) → rest.size < m → Parsed β rest.size) :
    Parsed β m :=
  match p with
  | ok value rest fewer => (f value rest fewer).widen (Nat.le_of_lt fewer)
  | error cause stop => error cause stop

/-- Goes on with a rule that reads the rest or nothing of it. -/
def bindLoose (p : Parsed α m)
    (f : α → (rest : Cursor) → rest.size < m → Parsed β (rest.size + 1)) : Parsed β m :=
  match p with
  | ok value rest fewer => (f value rest fewer).widen fewer
  | error cause stop => error cause stop

/-- The result with its value changed. -/
def map (f : α → β) (p : Parsed α n) : Parsed β n :=
  match p with
  | ok value rest fewer => ok (f value) rest fewer
  | error cause stop => error cause stop

/-- The value or the error. -/
def toExcept : Parsed α n → Except Error α
  | ok value _ _ => .ok value
  | error cause _ => .error cause

/-- Where the rule stopped reading. -/
def cursor : Parsed α n → Cursor
  | ok _ rest _ => rest
  | error _ stop => stop

@[simp] theorem widen_ok (value : α) (rest : Cursor) (fewer : rest.size < m) (h : m ≤ n) :
    (ok value rest fewer).widen h = ok value rest (Nat.lt_of_lt_of_le fewer h) := rfl

@[simp] theorem widen_error (cause : Error) (stop : Cursor) (h : m ≤ n) :
    (error cause stop : Parsed α m).widen h = error cause stop := rfl

@[simp] theorem cursor_widen (p : Parsed α m) (h : m ≤ n) : (p.widen h).cursor = p.cursor := by
  cases p <;> rfl

end Parsed

namespace Cursor

/-- Reads a given kind of token. -/
def expectKind (c : Cursor) (kind : TokenKind) : Parsed Unit c.size :=
  match c.eatKind? kind with
  | some ⟨d, h⟩ => .ok () d h
  | none => .error (c.fault (.expected kind c.kind)) c

/-- Reads a punctuator. -/
def expect (c : Cursor) (sign : Punctuator) : Parsed Unit c.size := c.expectKind (.punctuator sign)

/-- Reads a reserved word. -/
def expectWord (c : Cursor) (word : Keyword) : Parsed Unit c.size := c.expectKind (.keyword word)

/-- Reads a name. -/
def expectName (c : Cursor) : Parsed Identifier c.size :=
  match c.eatName? with
  | some (id, ⟨d, h⟩) => .ok id d h
  | none => .error (c.fault (.expectedIdentifier c.kind)) c

/-- Ends a statement: by a semicolon, or, leaving the next token alone, before a closing brace, at
the end of the text, or where the next token starts on a later line. -/
def endStatement (c : Cursor) : Parsed Unit (c.size + 1) :=
  match c.eat? .semicolon with
  | some ⟨d, h⟩ => .relax (.ok () d h)
  | none =>
    if c.kind = .punctuator .rightBrace ∨ c.kind = .endOfInput ∨ c.previousLine < c.line then
      .done () c
    else .error c.unexpected c

end Cursor

end ScriptSteps
