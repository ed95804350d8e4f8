/-!
# Terminal styles

A styled text stands between two escape sequences, one that switches the style on and one that
switches it off.

## Main definitions

* `Style`: the codes that switch a style on; `Style.paint` ends it by switching all styles off
* `colored`: a text in one color, ended by switching the color off
-/

namespace ScriptSteps

/-- An escape sequence: the escape character, `[`, a text and `m`. -/
def escapeSequence (codes : String) : String := "\x1b[" ++ codes ++ "m"

/-- The codes that switch a style on, a color before an effect. -/
structure Style where
  codes : List Nat
deriving DecidableEq, Repr

namespace Style

def plain : Style := ⟨[]⟩
def bold : Style := ⟨[1]⟩
def dimmed : Style := ⟨[2]⟩
def italic : Style := ⟨[3]⟩
def underlined : Style := ⟨[4]⟩
def red : Style := ⟨[31]⟩
def green : Style := ⟨[32]⟩
def yellow : Style := ⟨[33]⟩
def blue : Style := ⟨[34]⟩
def magenta : Style := ⟨[35]⟩
def cyan : Style := ⟨[36]⟩
def brightYellow : Style := ⟨[93]⟩
def brightMagenta : Style := ⟨[95]⟩
def boldRed : Style := ⟨[31, 1]⟩
def boldMagenta : Style := ⟨[35, 1]⟩
def boldWhite : Style := ⟨[37, 1]⟩
def boldBrightCyan : Style := ⟨[96, 1]⟩

/-- A text in a style; the plain style leaves it alone. -/
def paint (style : Style) (text : String) : String :=
  if style.codes.isEmpty then text
  else escapeSequence (String.intercalate ";" (style.codes.map toString)) ++ text
    ++ escapeSequence "0"

/-- A text in a style, where styles are wanted. -/
def paintIf (style : Style) (color : Bool) (text : String) : String :=
  if color then style.paint text else text

end Style

/-- The colors of single words in a session. -/
inductive Color where
  | red | green | yellow | blue | magenta | cyan | white | brightGreen | brightYellow
deriving DecidableEq, Repr

/-- The code that switches a color on. -/
def Color.code : Color → Nat
  | red => 31
  | green => 32
  | yellow => 33
  | blue => 34
  | magenta => 35
  | cyan => 36
  | white => 37
  | brightGreen => 92
  | brightYellow => 93

/-- A text in a color; only the color is switched off after it. -/
def colored (color : Color) (text : String) : String :=
  escapeSequence (toString color.code) ++ text ++ escapeSequence "39"

end ScriptSteps
