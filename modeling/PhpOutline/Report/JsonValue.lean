/-!
# JSON documents

The part of JSON that reports are written in, and its layout: every item and every member on a
line of its own, indented by two blanks for each level.  Characters beyond ASCII stand for
themselves.
-/

namespace PhpOutline

/-- A JSON document.  The members of an object keep their order. -/
inductive JsonValue
  | null
  | nat (n : Nat)
  | str (text : String)
  | arr (items : List JsonValue)
  | obj (members : List (String × JsonValue))
deriving Inhabited

namespace JsonValue

/-- The optional value, `null` if it is missing. -/
def ofOption {α : Type} (f : α → JsonValue) : Option α → JsonValue
  | none => null
  | some a => f a

/-- An optional text. -/
def ofText? (text : Option String) : JsonValue := ofOption str text

/-- A hexadecimal digit in small letters. -/
def hexDigit (n : Nat) : Char := Nat.digitChar (n % 16)

/-- The characters that stand for a character inside quotes. -/
def escapeChar (c : Char) : List Char :=
  if c = '"' then ['\\', '"']
  else if c = '\\' then ['\\', '\\']
  else if c = '\x08' then ['\\', 'b']
  else if c = '\t' then ['\\', 't']
  else if c = '\n' then ['\\', 'n']
  else if c = '\x0c' then ['\\', 'f']
  else if c = '\r' then ['\\', 'r']
  else if c.toNat < 0x20 then
    ['\\', 'u', '0', '0', hexDigit (c.toNat / 16), hexDigit c.toNat]
  else [c]

/-- A text between double quotes. -/
def quote (text : String) : String :=
  "\"" ++ String.ofList (text.toList.flatMap escapeChar) ++ "\""

/-- The start of a line at the given level. -/
def indent (level : Nat) : String := String.ofList (List.replicate (2 * level) ' ')

/-- Lines at the level below `level`, divided by commas, between two brackets. -/
def block (opening closing : String) (level : Nat) (lines : List String) : String :=
  if lines.isEmpty then opening ++ closing
  else
    opening ++ "\n" ++ ",\n".intercalate (lines.map (indent (level + 1) ++ ·)) ++
      "\n" ++ indent level ++ closing

mutual

/-- The text of a document whose first line starts at the given level. -/
def pretty (level : Nat) : JsonValue → String
  | null => "null"
  | nat n => toString n
  | str text => quote text
  | arr items => block "[" "]" level (prettyItems (level + 1) items)
  | obj members => block "\x7b" "\x7d" level (prettyMembers (level + 1) members)

/-- The texts of the items of an array. -/
def prettyItems (level : Nat) : List JsonValue → List String
  | [] => []
  | v :: vs => pretty level v :: prettyItems level vs

/-- The texts of the members of an object. -/
def prettyMembers (level : Nat) : List (String × JsonValue) → List String
  | [] => []
  | (key, v) :: ms => (quote key ++ ": " ++ pretty level v) :: prettyMembers level ms

end

end JsonValue

end PhpOutline
