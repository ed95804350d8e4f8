import ScriptSteps.Report.Style
import ScriptSteps.Session.Command
import ScriptSteps.Text.Alphanumeric
import ScriptSteps.Text.Bytes

/-!
# Completion of words

While a line is typed, the word before the cursor can be completed to a keyword or a command. The
word starts one byte after the start of the last character that is no part of a word; where that
character is longer than a byte, this place is inside it and there is nothing to complete.

## Main definitions

* `Completion.candidates`: the words that can be completed
* `Completion.wordStart`: where the word at the end of a text starts
* `Completion.complete?`: the completions at a place in a line
* `Completion.hint?`: what is shown after a line as the likely rest of its last word
-/

namespace ScriptSteps

/-- A way to complete a word. -/
structure Completion where
  /-- The whole word. -/
  word : String
  /-- What is still to be typed. -/
  rest : String
deriving DecidableEq, Repr

namespace Completion

/-- Keywords and literals that are worth completing. -/
def words : List String :=
  ["const", "else", "false", "for", "function", "if", "let", "null", "return", "true", "var",
   "while"]

/-- The words that can be completed: keywords, then commands. -/
def candidates : List String := words ++ Command.all.map fun command => "." ++ command.name

/-- Whether a candidate is a word with more characters after it. -/
def extends? (word : List Char) (candidate : String) : Bool :=
  word.length < candidate.toList.length && word.isPrefixOf candidate.toList

/-- The candidates that a word can become. -/
def extensions (word : List Char) : List String := candidates.filter (extends? word)

/-- A character that words are made of. -/
def isWordPart (c : Char) : Bool := Text.isAlphanumeric c || c == '_' || c == '.'

/-- The byte offset at which the word at the end of a text starts. -/
def wordStart (text : List Char) : Nat :=
  match text.reverse.dropWhile isWordPart with
  | [] => 0
  | _ :: earlier => Text.byteSize earlier + 1

/-- The word at the end of a text; none if its start is inside a character. -/
def lastWord? (text : List Char) : Option (List Char) :=
  (Text.splitAtByte? (wordStart text) text).map (·.2)

/-- A candidate as the completion of a word. -/
def ofCandidate (word : List Char) (candidate : String) : Completion :=
  ⟨candidate, String.ofList (candidate.toList.drop word.length)⟩

/-- The completions at a byte offset in a line; none if the offset or the start of the word before
it is inside a character. The empty word has no completions. -/
def complete? (line : String) (offset : Nat) : Option (List Completion) := do
  let (before, _) ← Text.splitAtByte? offset line.toList
  let word ← lastWord? before
  return if word = [] then [] else (extensions word).map (ofCandidate word)

/-- The rest of the first completion of a line's last word, if the cursor is at the end of the line
and the word has two bytes or more; none if the start of the word is inside a character. -/
def hint? (color : Bool) (line : String) (offset : Nat) : Option (Option String) :=
  if offset < Text.byteSize line.toList then some none
  else do
    let (before, _) ← Text.splitAtByte? offset line.toList
    let word ← lastWord? before
    let completion := (extensions word).head?.map (ofCandidate word)
    return if Text.byteSize word < 2 then none
      else completion.map fun c => Style.dimmed.paintIf color c.rest

end Completion

end ScriptSteps
