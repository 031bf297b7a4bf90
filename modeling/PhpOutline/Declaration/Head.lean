import PhpOutline.Cursor
import PhpOutline.Symbol.Attribute

/-!
# What stands before a declaration

Modifiers, visibility and the doc comment are read backwards from the keyword.  The functions on
lists take the tokens before the keyword, the nearest first.
-/

namespace PhpOutline.Declaration

/-- Tokens that may stand between a keyword and its modifiers. -/
def isPassedOver (k : Kind) : Bool := k.isWhitespace || k.isVisibility || k == .kwReadonly

/-- The modifiers before the keyword with the given index. -/
def modifiers (tokens : List Token) (index : Nat) : Modifiers :=
  let words := (Cursor.ofIndex tokens index).behind.takeWhile
    fun t => t.kind.isModifier || isPassedOver t.kind
  .ofList (words.filterMap fun t => Modifier.ofKind? t.kind)

/-- The nearest visibility before the keyword with the given index. -/
def visibility? (tokens : List Token) (index : Nat) : Option Visibility :=
  let rest := (Cursor.ofIndex tokens index).behind.dropWhile
    fun t => t.kind.isWhitespace || t.kind.isModifier || t.kind == .kwReadonly
  rest.head?.bind fun t => Visibility.ofKind? t.kind

/-! ### Attribute groups -/

/-- Walks back over square brackets to the bracket that balances `depth` closing ones.  The tokens
before it are the result, if that bracket opens an attribute group. -/
def beforeGroup? : Nat → List Token → Option (List Token)
  | _, [] => none
  | depth, t :: ts =>
    if t.kind = .closeSquare then beforeGroup? (depth + 1) ts
    else if t.kind = .openSquare ∨ t.kind = .attributeOpen then
      match depth with
      | 0 => none
      | 1 => if t.kind = .attributeOpen then some ts else none
      | outer + 2 => beforeGroup? (outer + 1) ts
    else beforeGroup? depth ts

/-- The tokens before the attribute group that the closing square bracket at the front ends.  If
that bracket ends an array or an index, there is no such group. -/
def beforeAttribute? (tokens : List Token) : Option (List Token) := beforeGroup? 0 tokens

theorem length_lt_of_beforeGroup? {depth : Nat} {tokens rest : List Token}
    (h : beforeGroup? depth tokens = some rest) : rest.length < tokens.length := by
  induction tokens generalizing depth with
  | nil => cases h
  | cons t ts ih =>
    rw [List.length_cons]
    unfold beforeGroup? at h
    split at h
    · exact Nat.lt_succ_of_lt (ih h)
    · split at h
      · split at h
        · cases h
        · split at h
          · cases h; omega
          · cases h
        · exact Nat.lt_succ_of_lt (ih h)
      · exact Nat.lt_succ_of_lt (ih h)

/-! ### Doc comments -/

/-- The doc comment among the tokens before a keyword.  Only modifiers, visibilities, attribute
groups and white space without an empty line may stand between the two. -/
def docblockBehind : List Token → Option String
  | [] => none
  | t :: ts =>
    if t.kind = .docComment then some t.text
    else if t.kind.isWhitespace && decide (1 < t.newlines) then none
    else if t.kind = .closeSquare then
      match h : beforeAttribute? (t :: ts) with
      | some rest =>
        have : rest.length < ts.length + 1 := length_lt_of_beforeGroup? h
        docblockBehind rest
      | none => none
    else if isPassedOver t.kind || t.kind.isModifier then docblockBehind ts
    else none
termination_by tokens => tokens.length

/-- The doc comment of the declaration whose keyword has the given index. -/
def docblock? (tokens : List Token) (index : Nat) : Option String :=
  docblockBehind (Cursor.ofIndex tokens index).behind

end PhpOutline.Declaration
