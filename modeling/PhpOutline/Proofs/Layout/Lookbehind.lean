import Mathlib.Data.List.Basic
import Mathlib.Data.List.Forall2
import PhpOutline.Proofs.Layout.Aligned
import PhpOutline.Proofs.Outline.Declared

/-!
# White space before a keyword

What is read backwards from a keyword depends on the kinds of the tokens alone, and white space is
passed over: the nearest token, the modifiers and the visibility, and whether a question mark
decides or belongs to a type.  Each reading is shown to agree on aligned lists first, and then at
twins.  The decisions of a range are counted along the range, with aligned tokens behind them at
every step (`Aligned.count_decisionsAfter`).

A search for a doc comment also looks at line breaks and at the text of the comment, so that it is
compared on lists whose tokens agree in these, index by index (`docblockBehind_eq`).
-/

namespace PhpOutline

open Declaration

lemma Kind.eq_whitespace {k : Kind} (h : k.isWhitespace = true) : k = .whitespace := by
  simpa [Kind.isWhitespace] using h

/-- The doc comment behind a token, with the attribute group that the token may end. -/
lemma Declaration.docblockBehind_cons (t : Token) (ts : List Token) :
    docblockBehind (t :: ts) =
      if t.kind = .docComment then some t.text
      else if t.kind.isWhitespace && decide (1 < t.newlines) then none
      else if t.kind = .closeSquare then (beforeAttribute? (t :: ts)).bind docblockBehind
      else if isPassedOver t.kind || t.kind.isModifier then docblockBehind ts
      else none := by
  rw [docblockBehind]
  congr 3
  split <;> next hgroup => exact (congrArg (Option.bind · docblockBehind) hgroup).symm

/-! ### Steps of the look back over an attribute group -/

namespace Declaration

variable {t : Token} {ts : List Token} {depth : Nat}

/-- The tokens that a closing square bracket balances. -/
def opensSquare (k : Kind) : Bool := k == .openSquare || k == .attributeOpen

/-- A bracket that opens does not close. -/
lemma ne_closeSquare (ht : opensSquare t.kind = true) : t.kind ≠ .closeSquare := by
  intro heq
  rw [heq] at ht
  cases ht

lemma opensSquare_iff :
    opensSquare t.kind = true ↔ t.kind = .openSquare ∨ t.kind = .attributeOpen := by
  rw [opensSquare, Bool.or_eq_true, beq_iff_eq, beq_iff_eq]

lemma beforeGroup?_close (ht : t.kind = .closeSquare) :
    beforeGroup? depth (t :: ts) = beforeGroup? (depth + 1) ts := by
  conv_lhs => unfold beforeGroup?
  rw [if_pos ht]

/-- The bracket that balances the last closing one must open an attribute group. -/
lemma beforeGroup?_open (ht : opensSquare t.kind = true) :
    beforeGroup? 1 (t :: ts) = if t.kind = .attributeOpen then some ts else none := by
  rw [beforeGroup?, if_neg (ne_closeSquare ht), if_pos (opensSquare_iff.1 ht)]

lemma beforeGroup?_open_inner (ht : opensSquare t.kind = true) :
    beforeGroup? (depth + 2) (t :: ts) = beforeGroup? (depth + 1) ts := by
  rw [beforeGroup?, if_neg (ne_closeSquare ht), if_pos (opensSquare_iff.1 ht)]

lemma beforeGroup?_pass (hopens : opensSquare t.kind = false) (hcloses : t.kind ≠ .closeSquare) :
    beforeGroup? depth (t :: ts) = beforeGroup? depth ts := by
  conv_lhs => unfold beforeGroup?
  rw [if_neg hcloses, if_neg]
  intro hbracket
  rw [opensSquare_iff.2 hbracket] at hopens
  cases hopens

end Declaration

/-! ### Doc comments -/

/-- The tokens are the same for a search for a doc comment. -/
structure Token.SameInSearch (t u : Token) : Prop where
  kind : t.kind = u.kind
  newlines : t.newlines = u.newlines
  text : t.kind = .docComment → t.text = u.text

namespace Declaration

variable {ts us : List Token}

lemma beforeGroup?_rel (h : List.Forall₂ Token.SameInSearch ts us) (depth : Nat) :
    Option.Rel (List.Forall₂ Token.SameInSearch) (beforeGroup? depth ts)
      (beforeGroup? depth us) := by
  induction h generalizing depth with
  | nil => exact .none
  | cons same rest ih =>
    unfold beforeGroup?
    rw [same.kind]
    split
    · exact ih _
    split
    · split
      · exact .none
      · split
        · exact .some rest
        · exact .none
      · exact ih _
    · exact ih _

/-- The same doc comment is found behind tokens that are the same for the search. -/
lemma docblockBehind_eq (h : List.Forall₂ Token.SameInSearch ts us) :
    docblockBehind ts = docblockBehind us := by
  induction hn : ts.length using Nat.strong_induction_on generalizing ts us with
  | _ n ih =>
    subst hn
    cases h with
    | nil => rfl
    | @cons t u ts us same rest =>
      rw [docblockBehind_cons, docblockBehind_cons, ← same.kind, same.newlines]
      split
      · next hdoc => rw [same.text hdoc]
      split
      · rfl
      split
      · have hgroup : Option.Rel (List.Forall₂ Token.SameInSearch) (beforeAttribute? (t :: ts))
            (beforeAttribute? (u :: us)) := beforeGroup?_rel (.cons same rest) 0
        generalize hfound : beforeAttribute? (t :: ts) = g, beforeAttribute? (u :: us) = g'
          at hgroup ⊢
        cases hgroup with
        | none => rfl
        | some same' => exact ih _ (length_lt_of_beforeGroup? hfound) same' rfl
      split
      · exact ih _ (Nat.lt_succ_self _) rest rfl
      · rfl

lemma docblock?_eq {tokens tokens' : List Token} {t u : Token} {k : Nat}
    (h : List.Forall₂ Token.SameInSearch tokens tokens') (ht : tokens[k]? = some t)
    (hu : tokens'[k]? = some u) : docblock? tokens k = docblock? tokens' k := by
  rw [docblock?, docblock?, Cursor.ofIndex_of_getElem? ht, Cursor.ofIndex_of_getElem? hu]
  exact docblockBehind_eq (List.rel_reverse (List.forall₂_take k h))

end Declaration

/-! ### Readings of aligned lists -/

namespace Aligned

variable {t u : Token} {ts us : List Token}

/-- The first tokens that are not white space have the same kind. -/
lemma map_kind_find? (h : Aligned ts us) :
    (ts.find? fun t => !t.kind.isWhitespace).map (·.kind) =
      (us.find? fun t => !t.kind.isWhitespace).map (·.kind) := by
  induction h with
  | nil => rfl
  | left space _ ih => rwa [List.find?_cons_of_neg (by simp [space])]
  | right space _ ih => rwa [List.find?_cons_of_neg (by simp [space])]
  | cons agrees word =>
    rw [List.find?_cons_of_pos (by simp [word]),
      List.find?_cons_of_pos (by simp [← agrees.1, word]), Option.map_some, Option.map_some,
      agrees.1]

/-- What the kinds at the front give is the same, if white space is passed over and gives
nothing. -/
lemma filterMap_takeWhile {α : Type} (h : Aligned ts us) {p : Kind → Bool}
    {f : Kind → Option α} (hp : p .whitespace = true) (hf : f .whitespace = none) :
    ((ts.takeWhile fun t => p t.kind).filterMap fun t => f t.kind) =
      (us.takeWhile fun t => p t.kind).filterMap fun t => f t.kind := by
  induction h with
  | nil => rfl
  | left space _ ih => simpa [Kind.eq_whitespace space, hp, hf] using ih
  | right space _ ih => simpa [Kind.eq_whitespace space, hp, hf] using ih
  | @cons t u ts us agrees _ _ _ ih =>
    rw [List.takeWhile_cons, List.takeWhile_cons, agrees.1]
    split
    · rw [List.filterMap_cons, List.filterMap_cons, agrees.1, ih]
    · rfl

/-- The kinds behind a front that is passed over are the same, if white space is passed over. -/
lemma map_kind_head?_dropWhile (h : Aligned ts us) {p : Kind → Bool}
    (hp : p .whitespace = true) :
    (ts.dropWhile fun t => p t.kind).head?.map (·.kind) =
      (us.dropWhile fun t => p t.kind).head?.map (·.kind) := by
  induction h with
  | nil => rfl
  | left space _ ih => rwa [List.dropWhile_cons_of_pos (by simp [Kind.eq_whitespace space, hp])]
  | right space _ ih => rwa [List.dropWhile_cons_of_pos (by simp [Kind.eq_whitespace space, hp])]
  | cons agrees _ _ _ ih =>
    rw [List.dropWhile_cons, List.dropWhile_cons, agrees.1]
    split
    · exact ih
    · simp [agrees.1]

/-- White space is no bracket. -/
lemma beforeGroup?_cons_of_isWhitespace (space : t.kind.isWhitespace = true) (depth : Nat) :
    beforeGroup? depth (t :: ts) = beforeGroup? depth ts := by
  have hkind := Kind.eq_whitespace space
  exact beforeGroup?_pass (by rw [hkind]; rfl) (by simp [hkind])

/-- An attribute group is found in both lists or in neither. -/
lemma isSome_beforeGroup? (h : Aligned ts us) (depth : Nat) :
    (beforeGroup? depth ts).isSome = (beforeGroup? depth us).isSome := by
  induction h generalizing depth with
  | nil => rfl
  | left space _ ih => rw [beforeGroup?_cons_of_isWhitespace space, ih]
  | right space _ ih => rw [beforeGroup?_cons_of_isWhitespace space, ih]
  | cons agrees _ _ _ ih =>
    unfold beforeGroup?
    rw [agrees.1]
    split
    · exact ih _
    · split
      · split
        · rfl
        · split <;> rfl
        · exact ih _
      · exact ih _

/-- A question mark marks a nullable type behind both lists or behind neither. -/
lemma marksNullable_eq (h : Aligned ts us) : marksNullable ts = marksNullable us := by
  induction h with
  | nil => rfl
  | left space _ ih =>
    rw [← ih, marksNullable, List.dropWhile_cons_of_pos (by exact space), marksNullable]
  | right space _ ih =>
    rw [ih, marksNullable, eq_comm, marksNullable, List.dropWhile_cons_of_pos (by exact space)]
  | @cons t u ts us agrees word joint rest =>
    have hgroup : (beforeAttribute? (t :: ts)).isSome = (beforeAttribute? (u :: us)).isSome :=
      isSome_beforeGroup? (.cons agrees word joint rest) 0
    rw [marksNullable, List.dropWhile_cons_of_neg (by simp [word]), marksNullable,
      List.dropWhile_cons_of_neg (by simp [← agrees.1, word])]
    dsimp only
    rw [hgroup, agrees.1]

/-- White space is no decision. -/
lemma decides_of_isWhitespace (space : t.kind.isWhitespace = true) (behind : List Token) :
    decides behind t = false := by
  rw [decides, Kind.eq_whitespace space]
  rfl

/-- Aligned tokens behind aligned tokens have equally many decisions. -/
lemma count_decisionsAfter {behind behind' : List Token} (h : Aligned ts us)
    (hbehind : Aligned behind behind') :
    (decisionsAfter behind ts).count true = (decisionsAfter behind' us).count true := by
  induction h generalizing behind behind' with
  | nil => rfl
  | left space _ ih =>
    rw [decisionsAfter, decides_of_isWhitespace space, List.count_cons_of_ne (by decide)]
    exact ih (.left space hbehind)
  | right space _ ih =>
    rw [decisionsAfter, decides_of_isWhitespace space, List.count_cons_of_ne (by decide)]
    exact ih (.right space hbehind)
  | @cons t u ts us agrees word _ _ ih =>
    have hdecides : decides behind t = decides behind' u := by
      rw [decides, decides, agrees.1, marksNullable_eq hbehind]
    rw [decisionsAfter, decisionsAfter, hdecides, List.count_cons, List.count_cons,
      ih (.cons agrees word trivial hbehind)]

end Aligned

/-! ### The decisions of a range -/

lemma Declaration.take_decisionsAfter (behind ts : List Token) (n : Nat) :
    (decisionsAfter behind ts).take n = decisionsAfter behind (ts.take n) := by
  induction ts generalizing behind n with
  | nil => simp [decisionsAfter]
  | cons t ts ih => cases n <;> simp [decisionsAfter, ih]

lemma Declaration.drop_decisionsAfter (behind ts : List Token) (n : Nat) :
    (decisionsAfter behind ts).drop n =
      decisionsAfter ((ts.take n).reverse ++ behind) (ts.drop n) := by
  induction ts generalizing behind n with
  | nil => simp [decisionsAfter]
  | cons t ts ih => cases n <;> simp [decisionsAfter, ih]

/-- The complexity of a range is told by its tokens and those before it. -/
lemma Declaration.complexity_eq_count (tokens : List Token) (start last : Nat) :
    complexity tokens start last =
      1 + (decisionsAfter (tokens.take start).reverse
        ((tokens.drop start).take (last + 1 - start))).count true := by
  rw [complexity, decisions, drop_decisionsAfter, take_decisionsAfter, List.append_nil]

/-! ### Readings at twins -/

namespace Twin

variable {tokens tokens' : List Token} {i i' j j' : Nat}

/-- Behind the cursors on twins stand aligned tokens. -/
lemma behind_ofIndex (h : Twin tokens tokens' i i') :
    Aligned (Cursor.ofIndex tokens i).behind (Cursor.ofIndex tokens' i').behind := by
  obtain ⟨t, u, ht, hu, -⟩ := h.agree
  rw [Cursor.ofIndex_of_getElem? ht, Cursor.ofIndex_of_getElem? hu]
  exact h.front.reverse

lemma map_kind_previous? (h : Twin tokens tokens' i i') :
    (previous? tokens i).map (·.kind) = (previous? tokens' i').map (·.kind) :=
  h.front.reverse.map_kind_find?

lemma modifiers_eq (h : Twin tokens tokens' i i') : modifiers tokens i = modifiers tokens' i' := by
  have hwords := h.behind_ofIndex.filterMap_takeWhile
    (p := fun k => k.isModifier || isPassedOver k) (f := Modifier.ofKind?) rfl rfl
  exact congrArg Modifiers.ofList hwords

lemma visibility?_eq (h : Twin tokens tokens' i i') :
    visibility? tokens i = visibility? tokens' i' := by
  have hkind := h.behind_ofIndex.map_kind_head?_dropWhile
    (p := fun k => k.isWhitespace || k.isModifier || k == .kwReadonly) rfl
  have hbind := congrArg (Option.bind · Visibility.ofKind?) hkind
  simp only [Option.bind_map] at hbind
  exact hbind

/-- The tokens of a range between twins are aligned. -/
lemma range_aligned (hi : Twin tokens tokens' i i') (hj : Twin tokens tokens' j j')
    (hij : i ≤ j) :
    Aligned ((tokens.drop i).take (j + 1 - i)) ((tokens'.drop i').take (j' + 1 - i')) := by
  have hij' := (hi.le_iff_le hj).1 hij
  have hsum : j + 1 = i + (j + 1 - i) := by omega
  have hsum' : j' + 1 = i' + (j' + 1 - i') := by omega
  have hend := hj.take_succ
  rw [hsum, hsum', List.take_add, List.take_add] at hend
  exact hend.of_append hi.front

/-- The complexity of a range between twins. -/
lemma complexity_eq (hi : Twin tokens tokens' i i') (hj : Twin tokens tokens' j j')
    (hij : i ≤ j) : complexity tokens i j = complexity tokens' i' j' := by
  rw [complexity_eq_count, complexity_eq_count,
    (hi.range_aligned hj hij).count_decisionsAfter hi.front.reverse]

end Twin

end PhpOutline
