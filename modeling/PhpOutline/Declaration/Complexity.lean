import PhpOutline.Declaration.Head

/-!
# Cyclomatic complexity

The complexity of a range of tokens is one more than the number of decisions in it.  A question
mark decides if it is the ternary operator; before a type it only says that the type is nullable,
and which of the two it is shows in the token before it.
-/

namespace PhpOutline.Declaration

/-- A question mark after the given tokens, the nearest first, marks a nullable type. -/
def marksNullable (behind : List Token) : Bool :=
  match behind.dropWhile (·.kind.isWhitespace) with
  | [] => false
  | t :: ts =>
    match t.kind with
    | .openBracket | .comma | .colon | .kwStatic | .kwReadonly | .kwVar => true
    | .closeSquare => (beforeAttribute? (t :: ts)).isSome
    | k => k.isVisibility

/-- A token after the given tokens, the nearest first, is a decision. -/
def decides (behind : List Token) (t : Token) : Bool :=
  t.kind.isDecision || (t.kind == .questionMark && !marksNullable behind)

/-- Which of the tokens decide, given the tokens before them. -/
def decisionsAfter (behind : List Token) : List Token → List Bool
  | [] => []
  | t :: ts => decides behind t :: decisionsAfter (t :: behind) ts

/-- Which of the tokens decide. -/
def decisions (tokens : List Token) : List Bool := decisionsAfter [] tokens

/-- The complexity of the tokens with the indices from `start` to `last`. -/
def complexity (tokens : List Token) (start last : Nat) : Nat :=
  1 + (((decisions tokens).drop start).take (last + 1 - start)).count true

end PhpOutline.Declaration
