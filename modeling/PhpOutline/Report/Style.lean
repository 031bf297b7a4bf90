/-!
# Text styles

Parts of a report stand out on a terminal by escape sequences.  Without colour a styled text is the
text itself.
-/

namespace PhpOutline

/-- How a part of a report stands out. -/
inductive Style
  | plain | bold | title | red | green | yellow | cyan
deriving DecidableEq, Inhabited

namespace Style

/-- The parameters of the sequence that starts a style. -/
def parameters : Style → String
  | plain => ""
  | bold => "1"
  | title => "1;4"
  | red => "31"
  | green => "32"
  | yellow => "33"
  | cyan => "36"

/-- The sequence that ends every style. -/
def ending : String := "\x1b[0m"

/-- The sequence that starts a style. -/
def opening (s : Style) : String := "\x1b[" ++ s.parameters ++ "m"

/-- The text with a style started again behind every sequence that ends all styles. -/
def reopen (s : Style) : List Char → List Char
  | '\x1b' :: '[' :: '0' :: 'm' :: cs => (ending ++ s.opening).toList ++ reopen s cs
  | c :: cs => c :: reopen s cs
  | [] => []

/-- The text in a style, which lasts to the end of the text even where the text itself ends all
styles. -/
def paint (color : Bool) (s : Style) (text : String) : String :=
  if color && s != plain then s.opening ++ String.ofList (s.reopen text.toList) ++ ending else text

end Style

end PhpOutline
