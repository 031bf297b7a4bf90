import PhpOutline.Text.Ascii
import PhpOutline.Text.Quoted
import PhpOutline.Token.Kind

/-!
# Tokens

A lexer hands over `RawToken`s: single punctuation characters, or pieces of text under a lexical
category.  Preparing a stream gives each token its starting line and its kind, which makes it a
`Token`.  The only way to fail is a punctuation character that the grammar does not have; the
first one in the stream is reported.
-/

namespace PhpOutline

/-- A token as a lexer hands it over. -/
inductive RawToken
  /-- A single punctuation character. -/
  | punctuation (char : Char)
  /-- A piece of text under a lexical category. -/
  | named (category : Category) (text : String)
deriving DecidableEq, Inhabited

namespace RawToken

/-- The source text that the token covers. -/
def text : RawToken → String
  | punctuation c => c.toString
  | named _ text => text

/-- The number of line breaks inside the token. -/
def newlines (t : RawToken) : Nat := Text.newlines t.text.toList

/-- The starting line of every token of a stream whose first token starts on `line`. -/
def linesFrom (line : Nat) : List RawToken → List Nat
  | [] => []
  | t :: ts => line :: linesFrom (line + t.newlines) ts

/-- The starting line of every token of a stream, counted from one. -/
def lines (ts : List RawToken) : List Nat := linesFrom 1 ts

/-- The source text that a stream covers. -/
def concat (ts : List RawToken) : String := String.join (ts.map text)

end RawToken

/-- A punctuation character that the grammar does not have, with the place of its token. -/
structure UnknownPunctuation where
  char : Char
  index : Nat
  line : Nat
deriving DecidableEq

/-- The wording of the error. -/
def UnknownPunctuation.message (e : UnknownPunctuation) : String :=
  s!"Unrecognized punctuation {Text.quoteChar e.char} at token {e.index} (line {e.line})"

/-- A token ready for the analysis: its kind, its text and the line on which it starts. -/
structure Token where
  kind : Kind
  text : String
  line : Nat
deriving DecidableEq, Inhabited

namespace Token

/-- The kind of the raw token at `index` that starts on `line`. -/
def kindOf (index line : Nat) : RawToken → Except UnknownPunctuation Kind
  | .punctuation c =>
    match Kind.ofPunctuation? c with
    | some k => .ok k
    | none => .error ⟨c, index, line⟩
  | .named category _ => .ok (Kind.ofCategory category)

/-- The token made of the raw token at `index` that starts on `line`. -/
def ofRaw (index line : Nat) (t : RawToken) : Except UnknownPunctuation Token :=
  (kindOf index line t).map fun k => ⟨k, t.text, line⟩

/-- Prepares a stream whose first token has the given index and starting line. -/
def prepareFrom (index line : Nat) : List RawToken → Except UnknownPunctuation (List Token)
  | [] => .ok []
  | t :: ts => do
    let first ← ofRaw index line t
    let rest ← prepareFrom (index + 1) (line + t.newlines) ts
    return first :: rest

/-- Gives every token of a stream its kind and its line, counted from one. -/
def prepare (ts : List RawToken) : Except UnknownPunctuation (List Token) :=
  prepareFrom 0 1 ts

/-- The number of line breaks inside the token. -/
def newlines (t : Token) : Nat := Text.newlines t.text.toList

end Token

end PhpOutline
