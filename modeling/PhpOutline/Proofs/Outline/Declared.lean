import Mathlib.Data.List.Basic
import Mathlib.Data.List.TakeWhile
import PhpOutline.Proofs.Declaration.Cursor
import PhpOutline.Proofs.Scope.Nesting

/-!
# What a token declares

A keyword is judged by its neighbours alone: the nearest tokens on either side that are not white
space (`previous?`, `next?`).  A keyword of a container declares a named container if an identifier
comes next and masks its body otherwise; an enumeration always masks its body; the word `function`
declares a function.  Behind a double colon or behind `use` these words declare nothing, and nothing
is declared from the word on that halts the compiler.

These definitions do not mention the open scopes.  `owner?` and `isMaskedAt` say which of the
declarations around a token count for it: the outermost named container, and any mask.  The second
half of the module ties the neighbours to what the pass reads through its cursors.
-/

namespace PhpOutline

namespace Declaration

/-- The nearest token before the given index that is not white space. -/
def previous? (tokens : List Token) (k : Nat) : Option Token :=
  (tokens.take k).reverse.find? fun t => !t.kind.isWhitespace

/-- The nearest token behind the given index that is not white space. -/
def next? (tokens : List Token) (k : Nat) : Option Token :=
  (tokens.drop (k + 1)).find? fun t => !t.kind.isWhitespace

/-- The identifier that comes next. -/
def nextIdentifier? (tokens : List Token) (k : Nat) : Option String :=
  ((next? tokens k).filter fun t => t.kind = .identifier).map (·.text)

/-- The kind of container that the token with the given index declares, named or not. -/
def containerKind? (tokens : List Token) (k : Nat) : Option ContainerKind :=
  if (previous? tokens k).any (·.kind = .doubleColon) then none
  else (Pass.reached tokens)[k]?.bind fun t => ContainerKind.ofKind? t.kind

/-- The kind and the name of the container that the token with the given index declares. -/
def namedContainer? (tokens : List Token) (k : Nat) : Option (ContainerKind × String) :=
  (containerKind? tokens k).bind fun kind => (nextIdentifier? tokens k).map fun name => (kind, name)

/-- The token with the given index declares a named container. -/
def isContainer (tokens : List Token) (k : Nat) : Bool := (namedContainer? tokens k).isSome

/-- The token with the given index declares an enumeration or an anonymous container. -/
def isMask (tokens : List Token) (k : Nat) : Bool :=
  (Pass.reached tokens)[k]?.any (·.kind = .kwEnum) ||
    (containerKind? tokens k).isSome && (nextIdentifier? tokens k).isNone

/-- The token with the given index declares a function, named or not. -/
def isFunction (tokens : List Token) (k : Nat) : Bool :=
  (Pass.reached tokens)[k]?.any (·.kind = .kwFunction) &&
    !(previous? tokens k).any (·.kind = .kwUse)

/-- The container that the keyword with the given index declares, its methods left out. -/
def containerAt (tokens : List Token) (k : Nat) : Container :=
  let keyword := tokens[k]?.getD default
  let name := (containerName? tokens k).getD default
  container tokens k keyword ((ContainerKind.ofKind? keyword.kind).getD default) name.1 name.2

/-- The function that the keyword with the given index declares. -/
def functionAt (tokens : List Token) (k : Nat) : FunctionSymbol :=
  function tokens k (tokens[k]?.getD default)

/-! ### The declarations around a token -/

/-- The first of the declarations picked out by `p` that start no later than the given index and
end no earlier. -/
def outermost? (tokens : List Token) (p : Nat → Bool) (k : Nat) : Option Nat :=
  (List.range (k + 1)).find? fun i => p i && decide (k ≤ lastIndex tokens i)

/-- The outermost named container around the token with the given index. -/
def owner? (tokens : List Token) (k : Nat) : Option Nat :=
  outermost? tokens (isContainer tokens) k

/-- The token with the given index stands inside a mask. -/
def isMaskedAt (tokens : List Token) (k : Nat) : Bool :=
  (List.range (k + 1)).any fun m => isMask tokens m && decide (k ≤ lastIndex tokens m)

end Declaration

/-! ### Neighbours and cursors -/

namespace Declaration

variable {tokens : List Token} {k : Nat} {t : Token}

/-- What a token follows is the nearest token before it. -/
lemma follows_eq_previous? (h : tokens[k]? = some t) (kind : Kind) :
    follows tokens k kind = (previous? tokens k).any (·.kind = kind) := by
  rw [follows_eq, Cursor.ofIndex_of_getElem? h, Cursor.behind, previous?,
    List.find?_not_eq_head?_dropWhile]
  rfl

/-- The name under a cursor that has moved ahead is the first token it can stop at, if that is an
identifier. -/
lemma identifier?_seek (h : tokens[k]? = some t) (p : Token → Bool) :
    ((Cursor.ofIndex tokens k).seek p).identifier?.map (·.1) =
      (((tokens.drop (k + 1)).find? p).filter fun t => t.kind = .identifier).map (·.text) := by
  have hseek := Cursor.current_seekIn p (t :: (tokens.take k).reverse) (tokens.drop (k + 1))
  rw [Cursor.ofIndex_of_getElem? h, Cursor.seek, ← hseek]
  cases Cursor.seekIn p (t :: (tokens.take k).reverse) (tokens.drop (k + 1)) with
  | exhausted => rfl
  | on before u after =>
    by_cases hu : u.kind = .identifier <;>
      simp [Cursor.identifier?, Cursor.current, Cursor.position, Option.filter, hu]

/-- The name that is read behind the keyword of a container is the identifier that comes next. -/
lemma containerName?_map_fst (h : tokens[k]? = some t) :
    (containerName? tokens k).map (·.1) = nextIdentifier? tokens k :=
  identifier?_seek h fun t => !t.kind.isWhitespace

/-- Between a function's keyword and its name, which is an identifier, there are only white space
and ampersands. -/
lemma exists_passed_of_functionName? {name : String} {n : Nat} (ht : tokens[k]? = some t)
    (h : functionName? tokens k = some (name, n)) :
    ∃ passed u after, tokens.drop (k + 1) = passed ++ u :: after ∧ n = k + 1 + passed.length ∧
      u.kind = .identifier ∧ ∀ v ∈ passed, v.kind = .whitespace ∨ v.kind = .ampersand := by
  obtain ⟨hk, rfl⟩ := List.getElem?_eq_some_iff.1 ht
  rw [functionName?, Cursor.ofIndex_of_getElem? ht, Cursor.seek] at h
  cases hseek : Cursor.seekIn (fun t => !t.kind.isWhitespace && t.kind != .ampersand)
      (tokens[k] :: (tokens.take k).reverse) (tokens.drop (k + 1)) with
  | exhausted =>
    rw [hseek] at h
    cases h
  | on before u after =>
    rw [hseek, Cursor.identifier?_on] at h
    obtain ⟨passed, hsplit, rfl, hpassed⟩ := Cursor.exists_passed_of_seekIn hseek
    split at h
    · next hkind =>
      cases h
      refine ⟨passed, u, after, hsplit, ?_, hkind, ?_⟩
      · simp only [List.length_append, List.length_reverse, List.length_cons, List.length_take]
        omega
      · intro v hv
        have hno := hpassed v hv
        simp only [Kind.isWhitespace, bne, Bool.and_eq_false_iff, Bool.not_eq_false'] at hno
        exact hno.imp (fun hspace => by simpa using hspace) fun hamp => by simpa using hamp
    · cases h

/-- The name of a function is an identifier. -/
lemma exists_identifier_of_functionName? {name : String} {n : Nat} (ht : tokens[k]? = some t)
    (h : functionName? tokens k = some (name, n)) :
    ∃ u, tokens[n]? = some u ∧ u.kind = .identifier := by
  obtain ⟨passed, u, after, hsplit, rfl, hu, -⟩ := exists_passed_of_functionName? ht h
  refine ⟨u, ?_, hu⟩
  rw [← List.getElem?_drop, hsplit]
  simp

/-- A token that the pass reaches is a token of the file. -/
lemma getElem?_of_reached (h : (Pass.reached tokens)[k]? = some t) : tokens[k]? = some t := by
  obtain ⟨rest, hrest⟩ : Pass.reached tokens <+: tokens := List.takeWhile_prefix _
  rw [← hrest, List.getElem?_append_left (List.getElem?_eq_some_iff.1 h).1]
  exact h

/-- A function is declared by the word `function`. -/
lemma exists_of_isFunction (h : isFunction tokens k = true) :
    ∃ t, (Pass.reached tokens)[k]? = some t ∧ t.kind = .kwFunction := by
  rw [isFunction, Bool.and_eq_true, Option.any_eq_true] at h
  obtain ⟨⟨t, ht, hkind⟩, -⟩ := h
  exact ⟨t, ht, of_decide_eq_true hkind⟩

end Declaration

end PhpOutline
