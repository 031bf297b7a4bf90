import PhpOutline.Text.WhiteSpace
import PhpOutline.Token.Basic

/-!
# Where a declaration ends

A declaration ends at the curly bracket that closes its body, or at a semicolon if that comes
before any body.  Its signature is the text up to the body or the semicolon.
-/

namespace PhpOutline.Declaration

/-- The index at which the brackets balance, counted from `index` for the first token, with
`depth` brackets open. -/
def scopeEndIn (index depth : Nat) : List Token → Option Nat
  | [] => none
  | t :: ts =>
    if t.kind.opensCurly then scopeEndIn (index + 1) (depth + 1) ts
    else if t.kind = .closeCurly then
      match depth with
      | 0 => none
      | 1 => some index
      | outer + 2 => scopeEndIn (index + 1) (outer + 1) ts
    else if t.kind = .semicolon ∧ depth = 0 then some index
    else scopeEndIn (index + 1) depth ts

/-- The index of the token that ends the declaration whose keyword has index `start`, unless its
brackets never balance. -/
def scopeEnd? (tokens : List Token) (start : Nat) : Option Nat :=
  scopeEndIn (start + 1) 0 (tokens.drop (start + 1))

/-- The last index of a declaration: a declaration whose brackets never balance is its keyword
alone. -/
def lastIndex (tokens : List Token) (start : Nat) : Nat := (scopeEnd? tokens start).getD start

/-- The text behind the token with index `start`, up to a body or a semicolon. -/
def signature (tokens : List Token) (start : Nat) : String :=
  let head := (tokens.drop (start + 1)).takeWhile
    fun t => t.kind != .openCurly && t.kind != .semicolon
  String.ofList (Text.trim (String.join (head.map (·.text))).toList)

end PhpOutline.Declaration
