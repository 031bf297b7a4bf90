import PhpOutline.Token.Basic

/-!
# Counting lines

A file has as many lines as line breaks.  The comment lines among them are counted token by token
and never exceed the total, so that every line is either a comment line or not.
-/

namespace PhpOutline

/-- The lines of a file: all of them, and those of comments. -/
structure LineCount where
  total : Nat
  comment : Nat
  comment_le_total : comment ≤ total := by omega
deriving DecidableEq

namespace LineCount

/-- The lines that are not comment lines. -/
def code (l : LineCount) : Nat := l.total - l.comment

/-- The counts for the given totals; comment lines beyond the total are dropped. -/
def ofCounts (total comment : Nat) : LineCount := ⟨total, min comment total, Nat.min_le_right _ _⟩

instance : Inhabited LineCount := ⟨ofCounts 0 0⟩

/-- The lines of several files together. -/
def sum (ls : List LineCount) : LineCount :=
  ofCounts (ls.foldr (·.total + ·) 0) (ls.foldr (·.comment + ·) 0)

/-- The lines that a comment spans; the line breaks at its end start no further line. -/
def ofComment (text : String) : Nat :=
  let trimmed := text.toList.reverse.dropWhile fun c => c == '\r' || c == '\n'
  Text.newlines trimmed + 1

/-- The line breaks in a list of tokens. -/
def ofTokens (tokens : List Token) : Nat := tokens.foldr (·.newlines + ·) 0

/-- The lines of a file, given those of its comments and the line at which it was cut short, if it
was. -/
def ofFile (tokens : List Token) (comment : Nat) (haltLine : Option Nat) : LineCount :=
  let total := ofTokens tokens
  ofCounts (haltLine.elim total (min total)) comment

end LineCount

end PhpOutline
