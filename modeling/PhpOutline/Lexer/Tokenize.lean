import PhpOutline.Lexer.Step

/-!
# The tokens of a source

`tokenize` runs the lexer from markup over a whole source.  It never fails: a character outside
the grammar becomes a punctuation token and is left to the preparation of the stream.
-/

namespace PhpOutline.Lexer

/-- The tokens of a source, read from the given mode. -/
def tokensFrom (mode : Mode) : List Char → List RawToken
  | [] => []
  | c :: cs => (step mode c cs).token :: tokensFrom (step mode c cs).mode (step mode c cs).rest
termination_by cs => cs.length
decreasing_by exact Nat.lt_succ_of_le (step_rest_length_le mode c cs)

@[simp] theorem tokensFrom_nil (mode : Mode) : tokensFrom mode [] = [] := by
  rw [tokensFrom]

theorem tokensFrom_cons (mode : Mode) (c : Char) (cs : List Char) :
    tokensFrom mode (c :: cs) =
      (step mode c cs).token :: tokensFrom (step mode c cs).mode (step mode c cs).rest := by
  rw [tokensFrom]

/-- The tokens of a source. -/
def tokenize (source : String) : List RawToken := tokensFrom .markup source.toList

end PhpOutline.Lexer
