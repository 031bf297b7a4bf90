/-!
# Characters of PHP source

Names are made of ASCII letters, digits, underscores and all characters beyond ASCII; white space
is the plain space, the tab and the two characters of a line break.
-/

namespace PhpOutline.Lexer

/-- A space or a tab. -/
def isBlank (c : Char) : Bool := c == ' ' || c == '\t'

/-- White space between tokens. -/
def isSpace (c : Char) : Bool := isBlank c || c == '\n' || c == '\r'

/-- A character that can start a name. -/
def isNameStart (c : Char) : Bool := c.isAlpha || c == '_' || decide (0x80 ≤ c.toNat)

/-- A character that can continue a name. -/
def isNameChar (c : Char) : Bool := isNameStart c || c.isDigit

/-- A decimal digit or the underscore between digits. -/
def isDigitOrMark (c : Char) : Bool := c.isDigit || c == '_'

/-- A hexadecimal digit or the underscore between digits. -/
def isHexDigitOrMark (c : Char) : Bool :=
  c.isDigit || ('a' ≤ c && c ≤ 'f') || ('A' ≤ c && c ≤ 'F') || c == '_'

/-- The next character exists and satisfies `p`. -/
def nextIs (p : Char → Bool) (cs : List Char) : Bool := cs.head?.any p

end PhpOutline.Lexer
