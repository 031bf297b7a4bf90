import Mathlib.Data.List.Basic
import Mathlib.Data.List.Forall2
import Mathlib.Order.Nat
import PhpOutline.Declaration.Name

/-!
# Tokens that differ in white space

Two lists of tokens are aligned if they become the same when white space is taken out: the same
kinds in the same order, and the same texts where a token is part of a name (`Aligned`).  Indices
shift from one list to the other; `Twin` says that two indices belong together, with aligned tokens
before them.  Every token that is not white space has a twin (`exists_twin`), and twins come in the
same order in both lists (`Twin.lt_iff_lt`).

White space matters in two places only: it ends a name, and it tells `namespace` in front of a
relative name from the word that declares one.  `Relaid` says that two lists are aligned and have
white space in the same of these places.  Both are cases of one relation, `AlignedBy`, which asks
for a condition on what follows each pair of tokens.  Tokens that agree in place, index by index,
are relaid, and then every token is its own twin (`AgreeInPlace`).
-/

namespace PhpOutline

/-- The tokens have the same kind and, as parts of names, the same text. -/
def Token.Agrees (t u : Token) : Prop :=
  t.kind = u.kind ∧ (t.kind.isNamePart = true → t.text = u.text)

lemma Token.Agrees.symm {t u : Token} (h : t.Agrees u) : u.Agrees t :=
  ⟨h.1.symm, fun hu => (h.2 (by rw [h.1]; exact hu)).symm⟩

/-! ### Alignment -/

/-- The lists have the same tokens, white space left out, and a token of kind `k` is followed by
lists that satisfy `joints k`. -/
inductive AlignedBy (joints : Kind → List Token → List Token → Prop) :
    List Token → List Token → Prop
  | nil : AlignedBy joints [] []
  | left {w : Token} {ts us : List Token} (space : w.kind.isWhitespace = true)
      (rest : AlignedBy joints ts us) : AlignedBy joints (w :: ts) us
  | right {w : Token} {ts us : List Token} (space : w.kind.isWhitespace = true)
      (rest : AlignedBy joints ts us) : AlignedBy joints ts (w :: us)
  | cons {t u : Token} {ts us : List Token} (agrees : t.Agrees u)
      (word : t.kind.isWhitespace = false) (joint : joints t.kind ts us)
      (rest : AlignedBy joints ts us) : AlignedBy joints (t :: ts) (u :: us)

/-- The lists have the same tokens, white space left out. -/
abbrev Aligned : List Token → List Token → Prop := AlignedBy fun _ _ _ => True

namespace AlignedBy

variable {joints : Kind → List Token → List Token → Prop} {t u w : Token}
  {ts us ts' us' : List Token}

lemma aligned (h : AlignedBy joints ts us) : Aligned ts us := by
  induction h with
  | nil => exact .nil
  | left space _ ih => exact .left space ih
  | right space _ ih => exact .right space ih
  | cons agrees word _ _ ih => exact .cons agrees word trivial ih

/-- White space in front of the first list can be taken off. -/
lemma tail_left (h : AlignedBy joints (w :: ts) us) (space : w.kind.isWhitespace = true) :
    AlignedBy joints ts us := by
  generalize hlist : w :: ts = ts' at h
  induction h with
  | nil => cases hlist
  | left _ rest _ =>
    cases hlist
    exact rest
  | right space' _ ih => exact .right space' (ih hlist)
  | cons _ word =>
    cases hlist
    rw [space] at word
    cases word

/-- White space in front of the second list can be taken off. -/
lemma tail_right (h : AlignedBy joints ts (w :: us)) (space : w.kind.isWhitespace = true) :
    AlignedBy joints ts us := by
  generalize hlist : w :: us = us' at h
  induction h with
  | nil => cases hlist
  | right _ rest _ =>
    cases hlist
    exact rest
  | left space' _ ih => exact .left space' (ih hlist)
  | cons agrees word =>
    cases hlist
    rw [agrees.1, space] at word
    cases word

/-- Two tokens in front that are not white space belong together. -/
lemma of_cons (h : AlignedBy joints (t :: ts) (u :: us)) (ht : t.kind.isWhitespace = false)
    (hu : u.kind.isWhitespace = false) :
    t.Agrees u ∧ joints t.kind ts us ∧ AlignedBy joints ts us := by
  cases h with
  | left space =>
    rw [ht] at space
    cases space
  | right space =>
    rw [hu] at space
    cases space
  | cons agrees _ joint rest => exact ⟨agrees, joint, rest⟩

/-- What stands behind aligned tokens is aligned in the same way. -/
lemma of_append {front front' : List Token} (h : AlignedBy joints (front ++ ts) (front' ++ us))
    (hfront : Aligned front front') : AlignedBy joints ts us := by
  induction hfront with
  | nil => exact h
  | left space _ ih => exact ih (h.tail_left space)
  | right space _ ih => exact ih (h.tail_right space)
  | cons agrees word _ _ ih => exact ih (h.of_cons word (by rw [← agrees.1]; exact word)).2.2

end AlignedBy

namespace Aligned

variable {t u : Token} {ts us ts' us' : List Token}

lemma symm (h : Aligned ts us) : Aligned us ts := by
  induction h with
  | nil => exact .nil
  | left space _ ih => exact .right space ih
  | right space _ ih => exact .left space ih
  | cons agrees word _ _ ih => exact .cons agrees.symm (by rw [← agrees.1]; exact word) trivial ih

lemma append (h : Aligned ts us) (h' : Aligned ts' us') : Aligned (ts ++ ts') (us ++ us') := by
  induction h with
  | nil => exact h'
  | left space _ ih => exact .left space ih
  | right space _ ih => exact .right space ih
  | cons agrees word _ _ ih => exact .cons agrees word trivial ih

lemma reverse (h : Aligned ts us) : Aligned ts.reverse us.reverse := by
  induction h with
  | nil => exact .nil
  | left space _ ih => simpa using ih.append (.left space .nil)
  | right space _ ih => simpa using ih.append (.right space .nil)
  | cons agrees word _ _ ih => simpa using ih.append (.cons agrees word trivial .nil)

/-- Aligned lists have equally many tokens that are not white space. -/
lemma countP_eq (h : Aligned ts us) :
    ts.countP (fun t => !t.kind.isWhitespace) = us.countP fun t => !t.kind.isWhitespace := by
  induction h with
  | nil => rfl
  | left space _ ih => rw [List.countP_cons_of_neg (by simp [space]), ih]
  | right space _ ih => rw [List.countP_cons_of_neg (by simp [space]), ih]
  | cons agrees word _ _ ih =>
    rw [List.countP_cons_of_pos (by simp [word]),
      List.countP_cons_of_pos (by simp [← agrees.1, word]), ih]

/-- A token that is not white space has its counterpart, with aligned tokens in front. -/
lemma exists_split {front back : List Token} (h : Aligned (front ++ t :: back) us)
    (word : t.kind.isWhitespace = false) :
    ∃ front' u back', us = front' ++ u :: back' ∧ Aligned front front' ∧ t.Agrees u := by
  generalize hts : front ++ t :: back = ts at h
  induction h generalizing front with
  | nil => simp at hts
  | right space _ ih =>
    obtain ⟨front', u, back', rfl, hfront, hagrees⟩ := ih hts
    exact ⟨_ :: front', u, back', rfl, .right space hfront, hagrees⟩
  | left space rest ih =>
    cases front with
    | nil =>
      obtain ⟨rfl, -⟩ := List.cons.inj hts
      rw [word] at space
      cases space
    | cons w front =>
      obtain ⟨rfl, htail⟩ := List.cons.inj hts
      obtain ⟨front', u, back', rfl, hfront, hagrees⟩ := ih htail
      exact ⟨front', u, back', rfl, .left space hfront, hagrees⟩
  | cons agrees hword _ rest ih =>
    cases front with
    | nil =>
      obtain ⟨rfl, rfl⟩ := List.cons.inj hts
      exact ⟨[], _, _, rfl, .nil, agrees⟩
    | cons w front =>
      obtain ⟨rfl, htail⟩ := List.cons.inj hts
      obtain ⟨front', u, back', rfl, hfront, hagrees⟩ := ih htail
      exact ⟨_ :: front', u, back', rfl, .cons agrees hword trivial hfront, hagrees⟩

end Aligned

/-! ### White space that matters -/

/-- White space between tokens of these kinds matters: between two parts of a name, and between
`namespace` and the separator of a relative name. -/
def spaceMatters (k k' : Kind) : Bool :=
  k.isNamePart && k'.isNamePart || (k == .kwNamespace && k' == .nsSeparator)

/-- White space comes first. -/
def startsWithSpace (ts : List Token) : Bool := ts.head?.any (·.kind.isWhitespace)

/-- Behind a token of the given kind, both lists start with white space or neither does, where it
matters. -/
def JointsAgree (k : Kind) (ts us : List Token) : Prop :=
  ∀ v, (Declaration.skipSpace ts).head? = some v → spaceMatters k v.kind = true →
    startsWithSpace ts = startsWithSpace us

/-- The lists have the same tokens, and white space in the same places where it matters. -/
abbrev Relaid : List Token → List Token → Prop := AlignedBy JointsAgree

/-! ### Indices that belong together -/

/-- The tokens with the two indices are counterparts of each other. -/
structure Twin (tokens tokens' : List Token) (i i' : Nat) : Prop where
  front : Aligned (tokens.take i) (tokens'.take i')
  agree : ∃ t u, tokens[i]? = some t ∧ tokens'[i']? = some u ∧ t.Agrees u ∧
    t.kind.isWhitespace = false

variable {tokens tokens' : List Token} {i i' j j' : Nat} {t : Token}

lemma Twin.symm (h : Twin tokens tokens' i i') : Twin tokens' tokens i' i := by
  obtain ⟨t, u, ht, hu, hagrees, hword⟩ := h.agree
  exact ⟨h.front.symm, u, t, hu, ht, hagrees.symm, by rw [← hagrees.1]; exact hword⟩

/-- Tokens behind aligned ones are twins. -/
lemma twin_of_append {front front' back back' : List Token} {t u : Token}
    (hfront : Aligned front front') (hagrees : t.Agrees u) (hword : t.kind.isWhitespace = false) :
    Twin (front ++ t :: back) (front' ++ u :: back') front.length front'.length := by
  refine ⟨?_, t, u, by simp, by simp, hagrees, hword⟩
  rw [List.take_left, List.take_left]
  exact hfront

/-- A token that is not white space has a twin. -/
lemma exists_twin (h : Aligned tokens tokens') (ht : tokens[i]? = some t)
    (hword : t.kind.isWhitespace = false) : ∃ i', Twin tokens tokens' i i' := by
  obtain ⟨hi, rfl⟩ := List.getElem?_eq_some_iff.1 ht
  have hsplit : tokens.take i ++ tokens[i] :: tokens.drop (i + 1) = tokens := by simp
  rw [← hsplit] at h
  obtain ⟨front', u, back', rfl, hfront, hagrees⟩ := h.exists_split hword
  refine ⟨front'.length, ?_, _, u, ht, by simp, hagrees, hword⟩
  rw [List.take_left]
  exact hfront

/-- Behind a token that is not white space more such tokens are passed. -/
lemma countP_take_lt (ht : tokens[i]? = some t) (hword : t.kind.isWhitespace = false)
    (hij : i < j) :
    (tokens.take i).countP (fun t => !t.kind.isWhitespace) <
      (tokens.take j).countP fun t => !t.kind.isWhitespace := by
  obtain ⟨hi, rfl⟩ := List.getElem?_eq_some_iff.1 ht
  have hsucc : (tokens.take (i + 1)).countP (fun t => !t.kind.isWhitespace) =
      (tokens.take i).countP (fun t => !t.kind.isWhitespace) + 1 := by
    rw [List.take_succ_eq_append_getElem hi, List.countP_append]
    simp [hword]
  have hsub : (tokens.take (i + 1)).Sublist (tokens.take j) :=
    (List.take_prefix_take_left (Nat.succ_le_of_lt hij)).sublist
  have hle := hsub.countP_le (p := fun t => !t.kind.isWhitespace)
  omega

/-- Twins come in the same order: equally many tokens stand before a token and before its twin. -/
lemma Twin.lt_of_lt (hi : Twin tokens tokens' i i') (hj : Twin tokens tokens' j j')
    (hij : i < j) : i' < j' := by
  obtain ⟨t, -, ht, -, -, hword⟩ := hi.agree
  have hlt := countP_take_lt ht hword hij
  rw [hi.front.countP_eq, hj.front.countP_eq] at hlt
  by_contra hle
  have hsub : (tokens'.take j').Sublist (tokens'.take i') :=
    (List.take_prefix_take_left (not_lt.1 hle)).sublist
  have hcount := hsub.countP_le (p := fun t => !t.kind.isWhitespace)
  omega

lemma Twin.lt_iff_lt (hi : Twin tokens tokens' i i') (hj : Twin tokens tokens' j j') :
    i < j ↔ i' < j' :=
  ⟨hi.lt_of_lt hj, hi.symm.lt_of_lt hj.symm⟩

lemma Twin.le_iff_le (hi : Twin tokens tokens' i i') (hj : Twin tokens tokens' j j') :
    i ≤ j ↔ i' ≤ j' := by
  rw [← not_lt, ← not_lt, hj.lt_iff_lt hi]

/-- A token has one twin. -/
lemma Twin.eq_of_eq (hi : Twin tokens tokens' i i') (hj : Twin tokens tokens' i j') :
    i' = j' :=
  le_antisymm ((hi.le_iff_le hj).1 le_rfl) ((hj.le_iff_le hi).1 le_rfl)

/-- What stands behind two twins is aligned in the same way. -/
lemma Twin.behind {joints : Kind → List Token → List Token → Prop}
    (h : Twin tokens tokens' i i') (halign : AlignedBy joints tokens tokens') :
    ∃ t u, tokens[i]? = some t ∧ tokens'[i']? = some u ∧ t.Agrees u ∧
      t.kind.isWhitespace = false ∧
      joints t.kind (tokens.drop (i + 1)) (tokens'.drop (i' + 1)) ∧
      AlignedBy joints (tokens.drop (i + 1)) (tokens'.drop (i' + 1)) := by
  obtain ⟨t, u, ht, hu, hagrees, hword⟩ := h.agree
  obtain ⟨hi, rfl⟩ := List.getElem?_eq_some_iff.1 ht
  obtain ⟨hi', rfl⟩ := List.getElem?_eq_some_iff.1 hu
  have hsplit : tokens.take i ++ tokens[i] :: tokens.drop (i + 1) = tokens := by simp
  have hsplit' : tokens'.take i' ++ tokens'[i'] :: tokens'.drop (i' + 1) = tokens' := by simp
  rw [← hsplit, ← hsplit'] at halign
  have hback := (halign.of_append h.front).of_cons hword (by rw [← hagrees.1]; exact hword)
  exact ⟨_, _, ht, hu, hagrees, hword, hback.2⟩

lemma Twin.drop_succ (h : Twin tokens tokens' i i') (halign : Aligned tokens tokens') :
    Aligned (tokens.drop (i + 1)) (tokens'.drop (i' + 1)) := by
  obtain ⟨-, -, -, -, -, -, -, hback⟩ := h.behind halign
  exact hback

/-- The tokens up to twins, with them, are aligned. -/
lemma Twin.take_succ (h : Twin tokens tokens' i i') :
    Aligned (tokens.take (i + 1)) (tokens'.take (i' + 1)) := by
  obtain ⟨t, u, ht, hu, hagrees, hword⟩ := h.agree
  obtain ⟨hi, rfl⟩ := List.getElem?_eq_some_iff.1 ht
  obtain ⟨hi', rfl⟩ := List.getElem?_eq_some_iff.1 hu
  rw [List.take_succ_eq_append_getElem hi, List.take_succ_eq_append_getElem hi']
  exact h.front.append (.cons hagrees hword trivial .nil)

/-! ### Tokens that agree in place -/

/-- The lists have equally many tokens, and tokens with the same index agree. -/
abbrev AgreeInPlace : List Token → List Token → Prop := List.Forall₂ Token.Agrees

namespace AgreeInPlace

variable {ts us : List Token}

lemma startsWithSpace_eq (h : AgreeInPlace ts us) : startsWithSpace ts = startsWithSpace us := by
  cases h with
  | nil => rfl
  | cons agrees => simp [startsWithSpace, agrees.1]

lemma relaid (h : AgreeInPlace ts us) : Relaid ts us := by
  induction h with
  | nil => exact .nil
  | @cons t u ts us agrees rest ih =>
    by_cases space : t.kind.isWhitespace = true
    · exact .left space (.right (agrees.1 ▸ space) ih)
    · have hspace : startsWithSpace ts = startsWithSpace us := startsWithSpace_eq rest
      exact .cons agrees (Bool.eq_false_iff.2 space) (fun _ _ _ => hspace) ih

/-- Every token is the twin of the one with the same index. -/
lemma twin (h : AgreeInPlace tokens tokens') (ht : tokens[i]? = some t)
    (hword : t.kind.isWhitespace = false) : Twin tokens tokens' i i := by
  obtain ⟨hi, rfl⟩ := List.getElem?_eq_some_iff.1 ht
  have hi' : i < tokens'.length := h.length_eq ▸ hi
  have hfront : AgreeInPlace (tokens.take i) (tokens'.take i) := List.forall₂_take i h
  exact ⟨hfront.relaid.aligned, _, _, ht, List.getElem?_eq_getElem hi', h.get hi hi', hword⟩

/-- A token has no other twin. -/
lemma eq_of_twin (h : AgreeInPlace tokens tokens') (htwin : Twin tokens tokens' i i') :
    i = i' := by
  obtain ⟨t, -, ht, -, -, hword⟩ := htwin.agree
  exact (h.twin ht hword).eq_of_eq htwin

end AgreeInPlace

end PhpOutline
