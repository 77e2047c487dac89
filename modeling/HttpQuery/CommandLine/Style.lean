/-! # Styled text

A text may be printed bold, dim or in a colour. Where colours are shown, the codes of the style
stand before the text and a code that ends all styles stands after it; an end within the text is
followed by the codes of the style again. Elsewhere the text stands alone. -/

namespace HttpQuery

/-- A colour of the terminal. -/
inductive Colour where
  | red
  | green
  | yellow
  | cyan
  | white
deriving DecidableEq, Repr

/-- The code of a colour. -/
def Colour.code : Colour → String
  | .red => "31"
  | .green => "32"
  | .yellow => "33"
  | .cyan => "36"
  | .white => "37"

/-- **A style**; the codes are printed in the order of the fields. -/
structure Style where
  bold : Bool := false
  dim : Bool := false
  colour : Option Colour := none
deriving DecidableEq, Repr

namespace Style

/-- A style of a colour only. -/
def of (colour : Colour) : Style := { colour := some colour }

/-- The dim style. -/
def dimmed : Style := { dim := true }

/-- The same style, bold. -/
def bolder (s : Style) : Style := { s with bold := true }

/-- The codes of a style. -/
def codes (s : Style) : List String :=
  (if s.bold then ["1"] else []) ++ (if s.dim then ["2"] else []) ++
    (s.colour.map fun c => [c.code]).getD []

/-- What stands before a text of a style. -/
def opening (s : Style) : String := "\x1b[" ++ ";".intercalate s.codes ++ "m"

/-- What ends all styles. -/
def closing : String := "\x1b[0m"

/-- A text in which every end of all styles is followed by the codes `start`. -/
def reopened (start : List Char) : List Char → List Char
  | [] => []
  | '\x1b' :: '[' :: '0' :: 'm' :: cs => closing.toList ++ (start ++ reopened start cs)
  | c :: cs => c :: reopened start cs

/-- **A text in a style**, where colours are `shown`. -/
def paint (shown : Bool) (s : Style) (text : String) : String :=
  if shown ∧ s ≠ {} then
    s.opening ++ String.ofList (reopened s.opening.toList text.toList) ++ closing
  else text

end Style

/-- A text with blanks after it, up to a width. -/
def padRight (width : Nat) (text : String) : String :=
  text ++ String.ofList (List.replicate (width - text.length) ' ')

/-- A text with blanks before it, up to a width. -/
def padLeft (width : Nat) (text : String) : String :=
  String.ofList (List.replicate (width - text.length) ' ') ++ text

end HttpQuery
