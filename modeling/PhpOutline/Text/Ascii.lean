/-!
# Letter case and counting in text

PHP compares its reserved words without regard to the case of ASCII letters and leaves all other
characters alone.  Lines are counted by line feeds.
-/

namespace PhpOutline.Text

/-- The characters with ASCII capitals made small. -/
def lower (cs : List Char) : List Char := cs.map Char.toLower

/-- Two texts that differ at most in the case of ASCII letters. -/
def eqIgnoringCase (s t : String) : Bool := lower s.toList == lower t.toList

/-- The number of line feeds among the characters. -/
def newlines (cs : List Char) : Nat := cs.count '\n'

@[simp] theorem newlines_nil : newlines [] = 0 := rfl

@[simp] theorem newlines_append (cs ds : List Char) :
    newlines (cs ++ ds) = newlines cs + newlines ds := by
  simp [newlines, List.count_append]

end PhpOutline.Text
