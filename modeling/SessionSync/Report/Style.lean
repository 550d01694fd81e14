/-!
# Styles of a terminal

Colours and weights of a text, as the escape sequences that a terminal
understands.
-/

set_option autoImplicit false

namespace SessionSync.Report

/-- The colours in use. -/
inductive Color where
  | red
  | green
  | yellow
  | blue
  | magenta
  | cyan
  deriving DecidableEq, Repr

/-- The number of a colour in an escape sequence. -/
def Color.code : Color → Nat
  | .red => 31
  | .green => 32
  | .yellow => 33
  | .blue => 34
  | .magenta => 35
  | .cyan => 36

/-- How a text is shown. -/
structure Style where
  color : Option Color := none
  bold : Bool := false
  dim : Bool := false
  deriving DecidableEq, Repr

namespace Style

/-- A text in a colour. -/
def colored (color : Color) : Style := { color := some color }

/-- A text in the background. -/
def faint : Style := { dim := true }

/-- A text that is stressed. -/
def strong : Style := { bold := true }

/-- A text that warns. -/
def warning : Style := { color := some .yellow, bold := true }

/-- The numbers of a style's escape sequences in their order. -/
def codes (style : Style) : List Nat :=
  (style.color.map Color.code).toList ++ (if style.bold then [1] else []) ++
    (if style.dim then [2] else [])

/-- A text in a style; without styling the text stays as it is. -/
def paint (style : Style) (styled : Bool) (text : String) : String :=
  if styled && !style.codes.isEmpty then
    String.join (style.codes.map fun code => s!"\x1b[{code}m") ++ text ++ "\x1b[0m"
  else text

end Style

end SessionSync.Report
