import PhpOutline.Cursor

/-!
# Names around a declaration

What a declaration is called, what it extends and implements, and the namespace it stands in.  A
declaration is given by the index of its keyword; white space between the tokens never matters,
except that it ends a name of several parts.
-/

namespace PhpOutline.Declaration

/-- A text, unless it is empty. -/
def nonempty? (text : String) : Option String := if text.isEmpty then none else some text

/-- The tokens from the first on that is not white space. -/
def skipSpace (tokens : List Token) : List Token := tokens.dropWhile (·.kind.isWhitespace)

/-- The name of the container whose keyword has the given index, and the index of the name.  An
anonymous container has none. -/
def containerName? (tokens : List Token) (index : Nat) : Option (String × Nat) :=
  (Cursor.ofIndex tokens index).skipWhitespace.identifier?

/-- The name of the function whose keyword has the given index, and the index of the name.  The
`&` of a function that returns a reference is passed over; an anonymous function has no name. -/
def functionName? (tokens : List Token) (index : Nat) : Option (String × Nat) :=
  ((Cursor.ofIndex tokens index).seek
    fun t => !t.kind.isWhitespace && t.kind != .ampersand).identifier?

/-- The name behind the word `extends` that follows the token with the given index; of several
parents it is the first. -/
def parent? (tokens : List Token) (nameIndex : Nat) : Option String :=
  let word := (Cursor.ofIndex tokens nameIndex).skipWhitespace
  if word.current.any (·.kind = .kwExtends) then word.skipWhitespace.readName.1 else none

theorem length_dropWhile_le (p : Token → Bool) (tokens : List Token) :
    (tokens.dropWhile p).length ≤ tokens.length :=
  (List.dropWhile_sublist p).length_le

/-- The tokens behind one item of a list of parents.  An item is a name, or any one token. -/
def afterParent (tokens : List Token) : List Token :=
  match skipSpace tokens with
  | [] => []
  | t :: ts => if t.kind.isNamePart then ts.dropWhile (·.kind.isNamePart) else ts

theorem length_afterParent_le (tokens : List Token) :
    (afterParent tokens).length ≤ tokens.length := by
  have hskip := length_dropWhile_le (·.kind.isWhitespace) tokens
  unfold afterParent skipSpace
  split
  · simp
  · next t ts h =>
    rw [h, List.length_cons] at hskip
    have hname := length_dropWhile_le (·.kind.isNamePart) ts
    split <;> omega

theorem length_lt_of_skipSpace_afterParent {tokens ts : List Token} {t : Token}
    (h : skipSpace (afterParent tokens) = t :: ts) : ts.length < tokens.length := by
  have hskip := length_dropWhile_le (·.kind.isWhitespace) (afterParent tokens)
  have hparent := length_afterParent_le tokens
  rw [← skipSpace, h, List.length_cons] at hskip
  omega

/-- The tokens behind a list of parents, from the first that is not white space on. -/
def afterParents (tokens : List Token) : List Token :=
  match h : skipSpace (afterParent tokens) with
  | [] => []
  | t :: ts =>
    have := length_lt_of_skipSpace_afterParent h
    if t.kind = .comma then afterParents ts else t :: ts
termination_by tokens.length

/-- The tokens behind the list of parents that the word `extends` at the front starts; without that
word there is nothing to pass over. -/
def afterExtends : List Token → List Token
  | [] => []
  | t :: ts => if t.kind = .kwExtends then afterParents ts else t :: ts

/-- The names up to the opening curly bracket; `run` is the name being read. -/
def namesBeforeBody (run : String) : List Token → List String
  | [] => (nonempty? run).toList
  | t :: ts =>
    if t.kind = .openCurly then (nonempty? run).toList
    else if t.kind.isNamePart then namesBeforeBody (run ++ t.text) ts
    else (nonempty? run).toList ++ namesBeforeBody "" ts

/-- The names behind the word `implements` in the head of the container whose name has the given
index.  There are none without that word. -/
def interfaces? (tokens : List Token) (nameIndex : Nat) : Option (List String) :=
  match afterExtends (skipSpace (Cursor.ofIndex tokens nameIndex).ahead) with
  | [] => none
  | t :: ts => if t.kind = .kwImplements then some (namesBeforeBody "" ts) else none

/-- The namespace that the word `namespace` under the cursor declares.  The empty namespace is
declared by a body alone; before a separator the word starts a relative name and declares
nothing. -/
def declaredNamespace? (word : Cursor) : Option String :=
  if word.peek.any (·.kind = .nsSeparator) then none
  else
    let next := word.skipWhitespace
    match next.current with
    | none => none
    | some t =>
      if t.kind.isNamePart then some (next.readName.1.getD "")
      else if t.kind = .openCurly then some ""
      else none

/-- The namespace of the nearest declaration of one among the tokens before; `after` holds the
tokens from this place on. -/
def namespaceBehind (after : List Token) : List Token → String
  | [] => ""
  | t :: ts =>
    match (if t.kind = .kwNamespace then declaredNamespace? (.on ts t after) else none) with
    | some name => name
    | none => namespaceBehind (t :: after) ts

/-- The namespace in force at the given index. -/
def namespaceAt (tokens : List Token) (index : Nat) : String :=
  match Cursor.ofIndex tokens index with
  | .exhausted => ""
  | .on before t after => namespaceBehind (t :: after) before

end PhpOutline.Declaration
