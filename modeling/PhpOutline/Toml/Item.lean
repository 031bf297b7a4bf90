/-!
# TOML documents

A document is a tree of tables.  Each table remembers how it came about, because that decides
whether a later line may add to it.
-/

namespace PhpOutline.Toml

/-- How a table came about. -/
inductive Origin
  /-- By a header of its own. -/
  | header
  /-- By a header of a table inside it. -/
  | implied
  /-- By a dotted key. -/
  | dotted
  /-- As a value on one line. -/
  | inline
deriving DecidableEq, Inhabited

/-- A value or a table. -/
inductive Item
  | text (s : String)
  | integer (n : Int)
  | float (spelling : String)
  | boolean (b : Bool)
  /-- A date, a time of day, or both. -/
  | moment (spelling : String)
  | array (items : List Item)
  | table (origin : Origin) (entries : List (String × Item))
  /-- An array of tables, each with a header of its own. -/
  | tables (elements : List (List (String × Item)))
deriving Inhabited

/-- The entries of a table, in the order of their first lines. -/
abbrev Entries := List (String × Item)

/-- What can be wrong with a document. -/
inductive Fault
  | expectedKey
  | expectedEquals
  | expectedValue
  | expectedBracket
  | expectedLineEnd
  | badText
  | badNumber
  | badComment
  | tooDeep
  | duplicateKey (key : String)
  | wrongType (key : String)
deriving DecidableEq, Inhabited

/-- The wording of a fault. -/
def Fault.message : Fault → String
  | expectedKey => "expected a key"
  | expectedEquals => "expected an equals sign"
  | expectedValue => "expected a value"
  | expectedBracket => "expected a closing bracket"
  | expectedLineEnd => "expected the end of the line"
  | badText => "invalid string"
  | badNumber => "invalid number"
  | badComment => "invalid character in a comment"
  | tooDeep => "nested too deeply"
  | duplicateKey key => s!"duplicate key {key}"
  | wrongType key => s!"wrong type for key {key}"

/-- The entries with the entry of the given key replaced. -/
def replace (key : String) (item : Item) (es : Entries) : Entries :=
  es.map fun e => if e.1 = key then (key, item) else e

/-- Changes the last element of a list. -/
def onLast {α : Type} (f : α → Except Fault α) : List α → Except Fault (List α)
  | [] => .ok []
  | [a] => do return [← f a]
  | a :: as => do return a :: (← onLast f as)

/-- Puts an item under a dotted key.  The tables on the way may only be ones that dotted keys or
inner headers brought about, and the last of them must be of the former sort; `isOpen` says that
the entries may take a plain key. -/
def assign (item : Item) : List String → Bool → Entries → Except Fault Entries
  | [], _, es => .ok es
  | [key], isOpen, es =>
    if !isOpen || (es.lookup key).isSome then .error (.duplicateKey key)
    else .ok (es ++ [(key, item)])
  | key :: path, _, es =>
    match es.lookup key with
    | none => do
      let inner ← assign item path true []
      return es ++ [(key, .table .dotted inner)]
    | some (.table .dotted inner) => do
      let inner ← assign item path true inner
      return replace key (.table .dotted inner) es
    | some (.table .implied inner) => do
      let inner ← assign item path false inner
      return replace key (.table .implied inner) es
    | some (.tables elements) => do
      let elements ← onLast (assign item path false) elements
      return replace key (.tables elements) es
    | some _ => .error (.duplicateKey key)

/-- Changes the entries of the table that a header names; tables on the way to it are implied where
they are missing.  `f` gets the entries of the table around it and its own key. -/
def atHeader (f : String → Entries → Except Fault Entries) :
    List String → Entries → Except Fault Entries
  | [], es => .ok es
  | [key], es => f key es
  | key :: path, es =>
    match es.lookup key with
    | none => do
      let inner ← atHeader f path []
      return es ++ [(key, .table .implied inner)]
    | some (.table .inline _) => .error (.duplicateKey key)
    | some (.table origin inner) => do
      let inner ← atHeader f path inner
      return replace key (.table origin inner) es
    | some (.tables elements) => do
      let elements ← onLast (atHeader f path) elements
      return replace key (.tables elements) es
    | some _ => .error (.duplicateKey key)

/-- Opens the table with the given key.  A table can be opened once. -/
def openTable (key : String) (es : Entries) : Except Fault Entries :=
  match es.lookup key with
  | none => .ok (es ++ [(key, .table .header [])])
  | some (.table .implied inner) => .ok (replace key (.table .header inner) es)
  | some _ => .error (.duplicateKey key)

/-- Opens one more table in the array of tables with the given key. -/
def openElement (key : String) (es : Entries) : Except Fault Entries :=
  match es.lookup key with
  | none => .ok (es ++ [(key, .tables [[]])])
  | some (.tables elements) => .ok (replace key (.tables (elements ++ [[]])) es)
  | some _ => .error (.duplicateKey key)

/-- Changes the entries of the open table with the given key. -/
def inTable (f : Entries → Except Fault Entries) (key : String) (es : Entries) :
    Except Fault Entries :=
  match es.lookup key with
  | some (.table origin inner) => do return replace key (.table origin (← f inner)) es
  | some (.tables elements) => do return replace key (.tables (← onLast f elements)) es
  | _ => .error (.wrongType key)

/-! ### Lines -/

/-- A line of a document. -/
inductive Statement
  | header (path : List String)
  | elementHeader (path : List String)
  | assignment (path : List String) (item : Item)

/-- A document under construction: its entries, and the header that its next lines stand under. -/
structure Draft where
  entries : Entries := []
  header : List String := []

/-- Adds a line to a document. -/
def Draft.add (d : Draft) : Statement → Except Fault Draft
  | .header path => do return ⟨← atHeader openTable path d.entries, path⟩
  | .elementHeader path => do return ⟨← atHeader openElement path d.entries, path⟩
  | .assignment path item => do
    if d.header.isEmpty then return { d with entries := ← assign item path true d.entries }
    else
      let entries ← atHeader (inTable (assign item path true)) d.header d.entries
      return { d with entries }

/-- The document that the lines make. -/
def ofStatements (statements : List Statement) : Except Fault Entries := do
  return (← statements.foldlM Draft.add {}).entries

end PhpOutline.Toml
