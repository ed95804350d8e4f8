import ScriptSteps.Text.Ranges

/-!
# Blanks and line breaks

The 25 characters with the Unicode property `White_Space` are blanks; four characters end a line.

## Main definitions

* `isBlank`: the property `White_Space`
* `isLineEnd`: line feed, carriage return, line separator and paragraph separator
* `trimStart`, `trimEnd`, `trim`: a text without the blanks at its ends
-/

namespace ScriptSteps.Text

/-- The characters with the property `White_Space`. -/
def blankRanges : Ranges :=
  [(0x9, 0xd), (0x20, 0x20), (0x85, 0x85), (0xa0, 0xa0), (0x1680, 0x1680), (0x2000, 0x200a),
   (0x2028, 0x2029), (0x202f, 0x202f), (0x205f, 0x205f), (0x3000, 0x3000)]

/-- A character with the property `White_Space`. -/
def isBlank (c : Char) : Bool := blankRanges.has c

/-- A character that ends a line. -/
def isLineEnd (c : Char) : Bool :=
  c == '\n' || c == '\r' || c == '\u2028' || c == '\u2029'

theorem isBlank_of_isLineEnd {c : Char} (h : isLineEnd c = true) : isBlank c = true := by
  simp only [isLineEnd, Bool.or_eq_true, beq_iff_eq] at h
  rcases h with ((rfl | rfl) | rfl) | rfl <;> decide

/-! ## Trimming -/

/-- The characters after the leading blanks. -/
def dropBlanks (cs : List Char) : List Char := cs.dropWhile isBlank

/-- The characters before the trailing blanks. -/
def dropBlanksEnd (cs : List Char) : List Char := (dropBlanks cs.reverse).reverse

/-- A text without its leading blanks. -/
def trimStart (s : String) : String := String.ofList (dropBlanks s.toList)

/-- A text without its trailing blanks. -/
def trimEnd (s : String) : String := String.ofList (dropBlanksEnd s.toList)

/-- A text without the blanks at its ends. -/
def trim (s : String) : String := trimEnd (trimStart s)

end ScriptSteps.Text
