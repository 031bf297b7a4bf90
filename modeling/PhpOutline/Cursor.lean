import PhpOutline.Token.Basic

/-!
# Cursors

A cursor stands on a token of a list and can be moved both ways.  It is kept as the tokens before
it, the nearest first, the token it stands on, and the tokens after it; so looking back and looking
ahead are both recursion on a list (`Cursor.behind`, `Cursor.ahead`).  A cursor that has been moved
past either end is exhausted and stays so.
-/

namespace PhpOutline

/-- A place in a list of tokens, or none any more. -/
inductive Cursor
  | exhausted
  | on (before : List Token) (token : Token) (after : List Token)
deriving Inhabited

namespace Cursor

/-- Walks `index` tokens ahead; `before` holds the tokens already passed. -/
def walk (before : List Token) : List Token → Nat → Cursor
  | [], _ => exhausted
  | t :: ts, 0 => on before t ts
  | t :: ts, index + 1 => walk (t :: before) ts index

/-- The cursor on the token with the given index. -/
def ofIndex (tokens : List Token) (index : Nat) : Cursor := walk [] tokens index

/-- The token under the cursor. -/
def current : Cursor → Option Token
  | exhausted => none
  | on _ t _ => some t

/-- The index of the token under the cursor. -/
def position : Cursor → Option Nat
  | exhausted => none
  | on before _ _ => some before.length

/-- The tokens before the cursor, the nearest first. -/
def behind : Cursor → List Token
  | exhausted => []
  | on before _ _ => before

/-- The tokens after the cursor. -/
def ahead : Cursor → List Token
  | exhausted => []
  | on _ _ after => after

/-- Moves to the next of the tokens `after` that satisfies `p`. -/
def seekIn (p : Token → Bool) (before : List Token) : List Token → Cursor
  | [] => exhausted
  | t :: ts => if p t then on before t ts else seekIn p (t :: before) ts

/-- Moves to the nearest of the tokens before that satisfies `p`. -/
def seekBackIn (p : Token → Bool) (after : List Token) : List Token → Cursor
  | [] => exhausted
  | t :: ts => if p t then on ts t after else seekBackIn p (t :: after) ts

/-- Moves ahead, by at least one token, to the next one that satisfies `p`. -/
def seek (p : Token → Bool) : Cursor → Cursor
  | exhausted => exhausted
  | on before t after => seekIn p (t :: before) after

/-- Moves back, by at least one token, to the nearest one that satisfies `p`. -/
def seekBack (p : Token → Bool) : Cursor → Cursor
  | exhausted => exhausted
  | on before t after => seekBackIn p (t :: after) before

/-- Moves to the next token. -/
def advance (c : Cursor) : Cursor := c.seek fun _ => true

/-- The token after the one under the cursor, which is not moved. -/
def peek (c : Cursor) : Option Token := c.advance.current

/-- Moves to the previous token. -/
def retreat (c : Cursor) : Cursor := c.seekBack fun _ => true

/-- Moves to the next token that is not white space. -/
def skipWhitespace (c : Cursor) : Cursor := c.seek fun t => !t.kind.isWhitespace

/-- Moves to the previous token that is not white space. -/
def skipWhitespaceBack (c : Cursor) : Cursor := c.seekBack fun t => !t.kind.isWhitespace

/-- The identifier under the cursor, and its index. -/
def identifier? (c : Cursor) : Option (String × Nat) :=
  match c.current, c.position with
  | some t, some index => if t.kind = .identifier then some (t.text, index) else none
  | _, _ => none

/-- The texts of the name part `t` and of those that directly follow it, run together, and the
cursor on the last of them. -/
def nameIn (before : List Token) (t : Token) : List Token → String × Cursor
  | [] => (t.text, on before t [])
  | u :: us =>
    if u.kind.isNamePart then
      let (rest, c) := nameIn (t :: before) u us
      (t.text ++ rest, c)
    else (t.text, on before t (u :: us))

/-- Reads the name that starts under the cursor, unless it is empty, and moves to its last
part. -/
def readName : Cursor → Option String × Cursor
  | exhausted => (none, exhausted)
  | on before t after =>
    if t.kind.isNamePart then
      let (name, c) := nameIn before t after
      (if name.isEmpty then none else some name, c)
    else (none, on before t after)

end Cursor

end PhpOutline
