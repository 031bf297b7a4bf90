import Mathlib.Data.List.Basic
import Mathlib.Data.List.TakeWhile
import Mathlib.Logic.Function.Iterate
import PhpOutline.Outline.Pass

/-!
# What a cursor reads

A cursor has the tokens before it and the tokens after it at hand as lists (`Cursor.behind`,
`Cursor.ahead`).  Moving it step by step reads these lists one token at a time
(`Cursor.current_iterate_advance`, `Cursor.current_iterate_retreat`), a search drops their tokens up
to the one it stops on (`Cursor.fromHere_seek`, `Cursor.upToHere_seekBack`), and the name under a
cursor is the run of name parts in front (`Cursor.fst_readName`), which reading it passes over
(`Cursor.ahead_snd_readName`).

So what a declaration is read from by way of cursors is told by lists: what a keyword follows, the
parent of a container and the namespace that a word declares.
-/

namespace PhpOutline

namespace Declaration

/-- The texts of the name parts at the front, run together. -/
def leadingName (tokens : List Token) : String :=
  String.join ((tokens.takeWhile (·.kind.isNamePart)).map (·.text))

lemma leadingName_cons {t : Token} (h : t.kind.isNamePart = true) (ts : List Token) :
    leadingName (t :: ts) = t.text ++ leadingName ts := by
  rw [leadingName, List.takeWhile_cons_of_pos (by exact h), List.map_cons, String.join_cons]
  rfl

lemma leadingName_cons_of_not {t : Token} (h : ¬t.kind.isNamePart = true) (ts : List Token) :
    leadingName (t :: ts) = "" := by
  rw [leadingName, List.takeWhile_cons_of_neg (by exact h)]
  rfl

end Declaration

open Declaration (leadingName nonempty? skipSpace)

namespace Cursor

variable {p : Token → Bool} {t : Token}

/-! ### Places -/

/-- Walking as far as the tokens of `front` comes to the token behind them. -/
lemma walk_length (before front : List Token) (t : Token) (back : List Token) :
    walk before (front ++ t :: back) front.length = on (front.reverse ++ before) t back := by
  induction front generalizing before with
  | nil => rfl
  | cons u front ih =>
    rw [List.cons_append, List.length_cons, walk, ih, List.reverse_cons, List.append_assoc,
      List.singleton_append]

/-- The cursor behind the tokens of `front`. -/
lemma ofIndex_append (front : List Token) (t : Token) (back : List Token) :
    ofIndex (front ++ t :: back) front.length = on front.reverse t back := by
  rw [ofIndex, walk_length, List.append_nil]

/-- The cursor on the token with a given index has the tokens before it behind and the others
ahead. -/
lemma ofIndex_of_getElem? {tokens : List Token} {k : Nat} {t : Token}
    (h : tokens[k]? = some t) :
    ofIndex tokens k = on (tokens.take k).reverse t (tokens.drop (k + 1)) := by
  obtain ⟨hk, rfl⟩ := List.getElem?_eq_some_iff.1 h
  have hlength : (tokens.take k).length = k := by rw [List.length_take]; omega
  have hsplit : tokens.take k ++ tokens[k] :: tokens.drop (k + 1) = tokens := by simp
  calc ofIndex tokens k
      = ofIndex (tokens.take k ++ tokens[k] :: tokens.drop (k + 1)) (tokens.take k).length := by
        rw [hsplit, hlength]
    _ = on (tokens.take k).reverse tokens[k] (tokens.drop (k + 1)) := ofIndex_append _ _ _

/-- Seeking stops on the first token that satisfies the condition. -/
lemma current_seekIn (p : Token → Bool) (before ts : List Token) :
    (seekIn p before ts).current = ts.find? p := by
  induction ts generalizing before with
  | nil => rfl
  | cons t ts ih =>
    unfold seekIn
    split
    · next h => simp [current, h]
    · next h => rw [ih, List.find?_cons_of_neg (by simpa using h)]

/-- Seeking passes over the tokens that do not satisfy the condition. -/
lemma exists_passed_of_seekIn {p : Token → Bool} {before ts before' after : List Token} {t : Token}
    (h : seekIn p before ts = .on before' t after) :
    ∃ passed, ts = passed ++ t :: after ∧ before' = passed.reverse ++ before ∧
      ∀ u ∈ passed, p u = false := by
  induction ts generalizing before with
  | nil => cases h
  | cons u ts ih =>
    rw [seekIn] at h
    split at h
    · cases h
      exact ⟨[], rfl, rfl, by simp⟩
    · next hu =>
      obtain ⟨passed, rfl, rfl, hpassed⟩ := ih h
      refine ⟨u :: passed, rfl, by simp, ?_⟩
      rw [List.forall_mem_cons]
      exact ⟨by simpa using hu, hpassed⟩

lemma identifier?_on (before : List Token) (t : Token) (after : List Token) :
    (on before t after).identifier? =
      if t.kind = .identifier then some (t.text, before.length) else none := rfl

/-! ### Searches -/

/-- The tokens from the cursor on. -/
def fromHere : Cursor → List Token
  | exhausted => []
  | on _ t after => t :: after

/-- The tokens up to the cursor, the nearest first. -/
def upToHere : Cursor → List Token
  | exhausted => []
  | on before t _ => t :: before

lemma head?_fromHere (c : Cursor) : c.fromHere.head? = c.current := by
  cases c <;> rfl

lemma tail_fromHere (c : Cursor) : c.fromHere.tail = c.ahead := by
  cases c <;> rfl

lemma head?_upToHere (c : Cursor) : c.upToHere.head? = c.current := by
  cases c <;> rfl

lemma tail_upToHere (c : Cursor) : c.upToHere.tail = c.behind := by
  cases c <;> rfl

/-- A search ahead drops the tokens up to the one it stops on. -/
lemma fromHere_seek (p : Token → Bool) (c : Cursor) :
    (c.seek p).fromHere = c.ahead.dropWhile fun t => !p t := by
  have hseek : ∀ before ts, (seekIn p before ts).fromHere = ts.dropWhile fun t => !p t := by
    intro before ts
    induction ts generalizing before with
    | nil => rfl
    | cons t ts ih =>
      rw [seekIn]
      split
      · next h => rw [List.dropWhile_cons_of_neg (by simp [h])]; rfl
      · next h => rw [List.dropWhile_cons_of_pos (by simpa using h), ih]
  cases c with
  | exhausted => rfl
  | on before t after => exact hseek (t :: before) after

/-- A search back drops the tokens up to the one it stops on. -/
lemma upToHere_seekBack (p : Token → Bool) (c : Cursor) :
    (c.seekBack p).upToHere = c.behind.dropWhile fun t => !p t := by
  have hseek : ∀ after ts, (seekBackIn p after ts).upToHere = ts.dropWhile fun t => !p t := by
    intro after ts
    induction ts generalizing after with
    | nil => rfl
    | cons t ts ih =>
      rw [seekBackIn]
      split
      · next h => rw [List.dropWhile_cons_of_neg (by simp [h])]; rfl
      · next h => rw [List.dropWhile_cons_of_pos (by simpa using h), ih]
  cases c with
  | exhausted => rfl
  | on before t after => exact hseek (t :: after) before

lemma fromHere_skipWhitespace (c : Cursor) : c.skipWhitespace.fromHere = skipSpace c.ahead := by
  rw [skipWhitespace, fromHere_seek]
  simp only [Bool.not_not]
  rfl

lemma upToHere_skipWhitespaceBack (c : Cursor) :
    c.skipWhitespaceBack.upToHere = skipSpace c.behind := by
  rw [skipWhitespaceBack, upToHere_seekBack]
  simp only [Bool.not_not]
  rfl

/-! ### Single steps -/

lemma fromHere_advance (c : Cursor) : c.advance.fromHere = c.ahead := by
  rw [advance, fromHere_seek]
  cases c.ahead <;> rfl

lemma upToHere_retreat (c : Cursor) : c.retreat.upToHere = c.behind := by
  rw [retreat, upToHere_seekBack]
  cases c.behind <;> rfl

lemma peek_eq (c : Cursor) : c.peek = c.ahead.head? := by
  rw [peek, ← head?_fromHere, fromHere_advance]

/-- Moving ahead step by step reads the tokens ahead in order. -/
lemma current_iterate_advance (c : Cursor) (n : Nat) :
    (advance^[n + 1] c).current = c.ahead[n]? := by
  induction n generalizing c with
  | zero => rw [Function.iterate_one, ← head?_fromHere, fromHere_advance, List.head?_eq_getElem?]
  | succ n ih =>
    rw [Function.iterate_succ_apply, ih, ← tail_fromHere, fromHere_advance, List.getElem?_tail]

/-- Moving back step by step reads the tokens behind, the nearest first. -/
lemma current_iterate_retreat (c : Cursor) (n : Nat) :
    (retreat^[n + 1] c).current = c.behind[n]? := by
  induction n generalizing c with
  | zero => rw [Function.iterate_one, ← head?_upToHere, upToHere_retreat, List.head?_eq_getElem?]
  | succ n ih =>
    rw [Function.iterate_succ_apply, ih, ← tail_upToHere, upToHere_retreat, List.getElem?_tail]

/-! ### Names -/

/-- The parts of a name are read up to the first token that is none. -/
lemma nameIn_eq (before : List Token) (t : Token) (ts : List Token) :
    (nameIn before t ts).1 = t.text ++ leadingName ts ∧
      (nameIn before t ts).2.ahead = ts.dropWhile (·.kind.isNamePart) := by
  induction ts generalizing before t with
  | nil => exact ⟨String.append_empty.symm, rfl⟩
  | cons u ts ih =>
    rw [nameIn]
    split
    · next hpart =>
      obtain ⟨hname, hahead⟩ := ih (t :: before) u
      rw [Declaration.leadingName_cons hpart, List.dropWhile_cons_of_pos (by exact hpart)]
      exact ⟨congrArg (t.text ++ ·) hname, hahead⟩
    · next hpart =>
      rw [Declaration.leadingName_cons_of_not hpart, String.append_empty,
        List.dropWhile_cons_of_neg (by exact hpart)]
      exact ⟨rfl, rfl⟩

/-- The name that is read is the run of name parts in front. -/
lemma fst_readName (c : Cursor) : c.readName.1 = nonempty? (leadingName c.fromHere) := by
  cases c with
  | exhausted => rfl
  | on before t after =>
    rw [readName, fromHere]
    split
    · next hpart =>
      rw [Declaration.leadingName_cons hpart, ← (nameIn_eq before t after).1]
      rfl
    · next hpart =>
      rw [Declaration.leadingName_cons_of_not hpart]
      rfl

/-- Behind a name that was read, or one token that is none, the list of parents goes on. -/
lemma ahead_snd_readName (c : Cursor) :
    c.skipWhitespace.readName.2.ahead = Declaration.afterParent c.ahead := by
  rw [Declaration.afterParent, ← fromHere_skipWhitespace]
  cases c.skipWhitespace with
  | exhausted => rfl
  | on before t after =>
    rw [readName, fromHere]
    dsimp only
    split
    · exact (nameIn_eq before t after).2
    · rfl

end Cursor

namespace Declaration

/-- What a keyword follows is the nearest token behind the cursor that is not white space. -/
lemma follows_eq (tokens : List Token) (k : Nat) (kind : Kind) :
    follows tokens k kind =
      (skipSpace (Cursor.ofIndex tokens k).behind).head?.any (·.kind = kind) := by
  rw [follows, ← Cursor.head?_upToHere, Cursor.upToHere_skipWhitespaceBack]

/-- The parent is the name behind the word `extends`. -/
lemma parent?_eq (tokens : List Token) (k : Nat) :
    parent? tokens k =
      match skipSpace (Cursor.ofIndex tokens k).ahead with
      | [] => none
      | t :: ts =>
        if t.kind = .kwExtends then nonempty? (leadingName (skipSpace ts)) else none := by
  rw [parent?, ← Cursor.fromHere_skipWhitespace, Cursor.fst_readName,
    Cursor.fromHere_skipWhitespace]
  cases (Cursor.ofIndex tokens k).skipWhitespace with
  | exhausted => rfl
  | on before t after => simp [Cursor.current, Cursor.fromHere, Cursor.ahead]

/-- The namespace that a word declares is told by what stands behind it. -/
lemma declaredNamespace?_on (before : List Token) (word : Token) (after : List Token) :
    declaredNamespace? (.on before word after) =
      if after.head?.any (·.kind = .nsSeparator) then none
      else
        match skipSpace after with
        | [] => none
        | t :: ts =>
          if t.kind.isNamePart then some (leadingName (t :: ts))
          else if t.kind = .openCurly then some ""
          else none := by
  have hnext := Cursor.fromHere_skipWhitespace (.on before word after)
  rw [declaredNamespace?, Cursor.peek_eq, Cursor.ahead]
  split
  · rfl
  rw [Cursor.ahead] at hnext
  rw [← hnext]
  dsimp only
  rw [Cursor.fst_readName]
  cases (Cursor.on before word after).skipWhitespace with
  | exhausted => rfl
  | on before t after =>
    dsimp only [Cursor.current, Cursor.fromHere]
    split
    · rw [nonempty?]
      split
      · next hempty => rw [Option.getD_none, String.isEmpty_iff.1 hempty]
      · rfl
    · rfl

end Declaration

end PhpOutline
