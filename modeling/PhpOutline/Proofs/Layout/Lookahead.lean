import Mathlib.Data.List.Basic
import PhpOutline.Proofs.Layout.Lookbehind

/-!
# White space behind a keyword

The name of a declaration, its last token, its parents and interfaces, and the namespace it stands
in are read behind a keyword, or behind the word `namespace`.  Searches pass over white space and
stop at twins.  A name of several parts is where white space matters: behind a part, either both
lists go on with the same part, or both end the name (`SameRun`).
-/

namespace PhpOutline

open Declaration

variable {tokens tokens' : List Token} {t u : Token} {ts us : List Token} {i i' : Nat}

/-! ### Searches -/

/-- The cursors stand on twins, or both are exhausted. -/
inductive TwinCursor (tokens tokens' : List Token) : Cursor → Cursor → Prop
  | exhausted : TwinCursor tokens tokens' .exhausted .exhausted
  | on {before before' after after' : List Token} {t u : Token} (agrees : t.Agrees u)
      (twin : Twin tokens tokens' before.length before'.length) :
      TwinCursor tokens tokens' (.on before t after) (.on before' u after')

/-- A search that does not stop at white space stops at twins. -/
lemma Aligned.seekIn {p : Kind → Bool} (hp : p .whitespace = false) (h : Aligned ts us)
    {before before' : List Token} (hbefore : Aligned before.reverse before'.reverse) :
    TwinCursor (before.reverse ++ ts) (before'.reverse ++ us)
      (Cursor.seekIn (fun t => p t.kind) before ts)
      (Cursor.seekIn (fun t => p t.kind) before' us) := by
  have hpass : ∀ (w : Token) (before ts : List Token), w.kind.isWhitespace = true →
      Cursor.seekIn (fun t => p t.kind) before (w :: ts) =
        Cursor.seekIn (fun t => p t.kind) (w :: before) ts := by
    intro w before ts space
    rw [Cursor.seekIn, if_neg (by simp [Kind.eq_whitespace space, hp])]
  induction h generalizing before before' with
  | nil => exact .exhausted
  | @left w ts us space _ ih =>
    have hnext : Aligned (w :: before).reverse before'.reverse := by
      simpa using hbefore.append (.left space .nil)
    simpa [hpass w before ts space] using ih hnext
  | @right w ts us space _ ih =>
    have hnext : Aligned before.reverse (w :: before').reverse := by
      simpa using hbefore.append (.right space .nil)
    simpa [hpass w before' us space] using ih hnext
  | @cons t u ts us agrees word _ _ ih =>
    rw [Cursor.seekIn, Cursor.seekIn, agrees.1]
    split
    · refine .on agrees ?_
      rw [← List.length_reverse, ← before'.length_reverse]
      exact twin_of_append hbefore agrees word
    · have hnext : Aligned (t :: before).reverse (u :: before').reverse := by
        simpa using hbefore.append (.cons agrees word trivial .nil)
      simpa using ih hnext

/-- A search from twins that does not stop at white space stops at twins. -/
lemma Twin.seek {p : Kind → Bool} (h : Twin tokens tokens' i i') (halign : Aligned tokens tokens')
    (hp : p .whitespace = false) :
    TwinCursor tokens tokens' ((Cursor.ofIndex tokens i).seek fun t => p t.kind)
      ((Cursor.ofIndex tokens' i').seek fun t => p t.kind) := by
  obtain ⟨t, u, ht, hu, hagrees, hword⟩ := h.agree
  have hfront : Aligned (t :: (tokens.take i).reverse).reverse
      (u :: (tokens'.take i').reverse).reverse := by
    simpa using h.front.append (.cons hagrees hword trivial .nil)
  have hseek := (h.drop_succ halign).seekIn hp hfront
  obtain ⟨hi, rfl⟩ := List.getElem?_eq_some_iff.1 ht
  obtain ⟨hi', rfl⟩ := List.getElem?_eq_some_iff.1 hu
  rw [Cursor.ofIndex_of_getElem? ht, Cursor.ofIndex_of_getElem? hu]
  simpa [Cursor.seek] using hseek

/-- The names are the same and stand at twins. -/
def SameName (tokens tokens' : List Token) (found found' : String × Nat) : Prop :=
  found.1 = found'.1 ∧ Twin tokens tokens' found.2 found'.2

lemma TwinCursor.identifier? {c c' : Cursor} (h : TwinCursor tokens tokens' c c') :
    Option.Rel (SameName tokens tokens') c.identifier? c'.identifier? := by
  cases h with
  | exhausted => exact .none
  | on agrees twin =>
    rw [Cursor.identifier?_on, Cursor.identifier?_on, agrees.1]
    split
    · next hkind => exact .some ⟨agrees.2 (by rw [agrees.1, hkind]; rfl), twin⟩
    · exact .none

lemma Twin.containerName? (h : Twin tokens tokens' i i') (halign : Aligned tokens tokens') :
    Option.Rel (SameName tokens tokens') (Declaration.containerName? tokens i)
      (Declaration.containerName? tokens' i') :=
  (h.seek (p := fun k => !k.isWhitespace) halign rfl).identifier?

lemma Twin.functionName? (h : Twin tokens tokens' i i') (halign : Aligned tokens tokens') :
    Option.Rel (SameName tokens tokens') (Declaration.functionName? tokens i)
      (Declaration.functionName? tokens' i') :=
  (h.seek (p := fun k => !k.isWhitespace && k != .ampersand) halign rfl).identifier?

/-! ### Where a declaration ends -/

/-- The scan for the end passes over white space. -/
lemma Declaration.scopeEndIn_cons_of_isWhitespace (space : t.kind.isWhitespace = true)
    (index depth : Nat) :
    scopeEndIn index depth (t :: ts) = scopeEndIn (index + 1) depth ts := by
  apply scopeEndIn_cons_of_not_delimits
  rw [Kind.eq_whitespace space]
  rfl

/-- The scan for the end stops at twins. -/
lemma Aligned.scopeEndIn (h : Aligned ts us) {front front' : List Token}
    (hfront : Aligned front front') (depth : Nat) :
    Option.Rel (Twin (front ++ ts) (front' ++ us))
      (Declaration.scopeEndIn front.length depth ts)
      (Declaration.scopeEndIn front'.length depth us) := by
  induction h generalizing front front' depth with
  | nil => exact .none
  | @left w ts us space _ ih =>
    have hnext : Aligned (front ++ [w]) front' := by
      simpa using hfront.append (.left space .nil)
    rw [scopeEndIn_cons_of_isWhitespace space]
    simpa using ih hnext depth
  | @right w ts us space _ ih =>
    have hnext : Aligned front (front' ++ [w]) := by
      simpa using hfront.append (.right space .nil)
    rw [scopeEndIn_cons_of_isWhitespace space]
    simpa using ih hnext depth
  | @cons t u ts us agrees word _ _ ih =>
    have hnext : Aligned (front ++ [t]) (front' ++ [u]) :=
      hfront.append (.cons agrees word trivial .nil)
    have htwin : Twin (front ++ t :: ts) (front' ++ u :: us) front.length front'.length :=
      twin_of_append hfront agrees word
    unfold Declaration.scopeEndIn
    rw [agrees.1]
    split
    · simpa using ih hnext (depth + 1)
    · split
      · split
        · exact .none
        · exact .some htwin
        · next outer => simpa using ih hnext (outer + 1)
      · split
        · exact .some htwin
        · simpa using ih hnext depth

lemma Twin.scopeEnd? (h : Twin tokens tokens' i i') (halign : Aligned tokens tokens') :
    Option.Rel (Twin tokens tokens') (Declaration.scopeEnd? tokens i)
      (Declaration.scopeEnd? tokens' i') := by
  obtain ⟨t, u, ht, hu, -⟩ := h.agree
  obtain ⟨hi, -⟩ := List.getElem?_eq_some_iff.1 ht
  obtain ⟨hi', -⟩ := List.getElem?_eq_some_iff.1 hu
  have hend := (h.drop_succ halign).scopeEndIn h.take_succ 0
  rwa [List.take_append_drop, List.take_append_drop, List.length_take, List.length_take,
    Nat.min_eq_left hi, Nat.min_eq_left hi'] at hend

/-- Declarations at twins end at twins. -/
lemma Twin.lastIndex (h : Twin tokens tokens' i i') (halign : Aligned tokens tokens') :
    Twin tokens tokens' (Declaration.lastIndex tokens i) (Declaration.lastIndex tokens' i') := by
  have hend := h.scopeEnd? halign
  rw [Declaration.lastIndex, Declaration.lastIndex]
  generalize Declaration.scopeEnd? tokens i = e, Declaration.scopeEnd? tokens' i' = e' at hend ⊢
  cases hend with
  | none => exact h
  | some twin => exact twin

namespace AgreeInPlace

/-- Names that stand at twins are the same, with their indices. -/
lemma eq_of_sameName {found found' : Option (String × Nat)} (h : AgreeInPlace tokens tokens')
    (hname : Option.Rel (SameName tokens tokens') found found') : found = found' := by
  cases hname with
  | none => rfl
  | some same => exact congrArg some (Prod.ext same.1 (h.eq_of_twin same.2))

end AgreeInPlace

/-! ### What the pass reaches -/

/-- The parts that the pass reaches are aligned. -/
lemma Aligned.reached (h : Aligned ts us) : Aligned (Pass.reached ts) (Pass.reached us) := by
  have hpass : ∀ {w : Token} {ts : List Token}, w.kind.isWhitespace = true →
      Pass.reached (w :: ts) = w :: Pass.reached ts := by
    intro w ts space
    exact List.takeWhile_cons_of_pos (by simp [Kind.eq_whitespace space])
  induction h with
  | nil => exact .nil
  | left space _ ih =>
    rw [hpass space]
    exact .left space ih
  | right space _ ih =>
    rw [hpass space]
    exact .right space ih
  | cons agrees word _ _ ih =>
    rw [Pass.reached, Pass.reached, List.takeWhile_cons, List.takeWhile_cons, agrees.1]
    split
    · exact .cons agrees word trivial ih
    · exact .nil

/-- The pass reaches a token unless it or one before it is the halting word. -/
lemma Pass.lt_length_reached :
    i < (reached tokens).length ↔
      i < tokens.length ∧ ∀ j ≤ i, ∀ t, tokens[j]? = some t → t.kind ≠ .kwHaltCompiler := by
  induction tokens generalizing i with
  | nil => simp [reached]
  | cons t ts ih =>
    rw [reached] at ih ⊢
    by_cases ht : t.kind = .kwHaltCompiler
    · rw [List.takeWhile_cons_of_neg (by simp [ht])]
      simp only [List.length_nil, Nat.not_lt_zero, false_iff, not_and, not_forall]
      exact fun _ => ⟨0, Nat.zero_le i, t, rfl, fun h => h ht⟩
    · rw [List.takeWhile_cons_of_pos (by simpa using ht), List.length_cons]
      cases i with
      | zero => simp [ht]
      | succ i =>
        rw [Nat.succ_lt_succ_iff, ih, List.length_cons, Nat.succ_lt_succ_iff]
        refine and_congr_right fun _ => ⟨fun h j hj u hu => ?_, fun h j hj u hu => ?_⟩
        · cases j with
          | zero =>
            cases hu
            exact ht
          | succ j => exact h j (Nat.succ_le_succ_iff.1 hj) u hu
        · exact h (j + 1) (Nat.succ_le_succ hj) u hu

lemma Twin.reached_of_reached (h : Twin tokens tokens' i i') (halign : Aligned tokens tokens')
    (hi : i < (Pass.reached tokens).length) : i' < (Pass.reached tokens').length := by
  obtain ⟨-, hno⟩ := Pass.lt_length_reached.1 hi
  obtain ⟨-, u, -, hu, -⟩ := h.agree
  refine Pass.lt_length_reached.2 ⟨(List.getElem?_eq_some_iff.1 hu).1, fun j' hj' v hv hhalt => ?_⟩
  -- a halting word up to the twin is the twin of one
  obtain ⟨j, hj⟩ := exists_twin halign.symm hv (by rw [hhalt]; rfl)
  obtain ⟨w, v', hw, hv', hagrees, -⟩ := hj.symm.agree
  rw [hv] at hv'
  cases hv'
  exact hno j ((hj.symm.le_iff_le h).2 hj') w hw (hagrees.1.trans hhalt)

/-- The pass reaches both of two twins or neither. -/
lemma Twin.map_kind_reached (h : Twin tokens tokens' i i') (halign : Aligned tokens tokens') :
    (Pass.reached tokens)[i]?.map (·.kind) = (Pass.reached tokens')[i']?.map (·.kind) := by
  obtain ⟨t, u, ht, hu, hagrees, -⟩ := h.agree
  by_cases hi : i < (Pass.reached tokens).length
  · have hi' := h.reached_of_reached halign hi
    have hti := getElem?_of_reached (List.getElem?_eq_getElem hi)
    have hui := getElem?_of_reached (List.getElem?_eq_getElem hi')
    rw [List.getElem?_eq_getElem hi, List.getElem?_eq_getElem hi', ← hti, ← hui, ht, hu,
      Option.map_some, Option.map_some, hagrees.1]
  · have hi' : ¬i' < (Pass.reached tokens').length :=
      fun hi' => hi (h.symm.reached_of_reached halign.symm hi')
    rw [List.getElem?_eq_none (not_lt.1 hi), List.getElem?_eq_none (not_lt.1 hi')]

/-! ### Names of several parts -/

/-- The lists start with counterparts, and what follows has white space in the same places. -/
inductive StartsAlike : List Token → List Token → Prop
  | nil : StartsAlike [] []
  | cons {t u : Token} {ts us : List Token} (agrees : t.Agrees u)
      (word : t.kind.isWhitespace = false) (joint : JointsAgree t.kind ts us)
      (rest : Relaid ts us) : StartsAlike (t :: ts) (u :: us)

/-- What comes first is white space, or comes first behind the white space. -/
lemma any_head?_eq {p : Kind → Bool} (hp : p .whitespace = false) (ts : List Token) :
    ts.head?.any (fun t => p t.kind) =
      (!startsWithSpace ts && (skipSpace ts).head?.any fun t => p t.kind) := by
  cases ts with
  | nil => rfl
  | cons t ts =>
    by_cases space : t.kind.isWhitespace = true
    · simp [startsWithSpace, Kind.eq_whitespace space, hp, Kind.isWhitespace]
    · rw [skipSpace, List.dropWhile_cons_of_neg (by exact space)]
      simp [startsWithSpace, space]

lemma StartsAlike.any_head?_eq (h : StartsAlike ts us) (p : Kind → Bool) :
    ts.head?.any (fun t => p t.kind) = us.head?.any fun t => p t.kind := by
  cases h with
  | nil => rfl
  | cons agrees => simp [agrees.1]

namespace Relaid

/-- Without the white space in front the lists start alike. -/
lemma skipSpace (h : Relaid ts us) :
    StartsAlike (Declaration.skipSpace ts) (Declaration.skipSpace us) := by
  induction h with
  | nil => exact .nil
  | left space _ ih =>
    rw [Declaration.skipSpace, List.dropWhile_cons_of_pos (by exact space)]
    exact ih
  | @right w ts us space _ ih =>
    rw [Declaration.skipSpace.eq_def (w :: us), List.dropWhile_cons_of_pos (by exact space)]
    exact ih
  | cons agrees word joint rest =>
    rw [Declaration.skipSpace, List.dropWhile_cons_of_neg (by simp [word]), Declaration.skipSpace,
      List.dropWhile_cons_of_neg (by simp [← agrees.1, word])]
    exact .cons agrees word joint rest

/-- Behind a token, the lists start with the same one of the kinds before which white space
matters, or neither starts with such a kind. -/
lemma any_head?_eq {k : Kind} {p : Kind → Bool} (h : Relaid ts us) (hjoint : JointsAgree k ts us)
    (hp : p .whitespace = false) (hmatters : ∀ k', p k' = true → spaceMatters k k' = true) :
    ts.head?.any (fun t => p t.kind) = us.head?.any fun t => p t.kind := by
  rw [PhpOutline.any_head?_eq hp ts, PhpOutline.any_head?_eq hp us,
    ← h.skipSpace.any_head?_eq p]
  cases hnext : (Declaration.skipSpace ts).head?.any fun t => p t.kind with
  | false => rw [Bool.and_false, Bool.and_false]
  | true =>
    obtain ⟨v, hv, hpv⟩ := (Option.any_eq_true _ _).1 hnext
    rw [hjoint v hv (hmatters _ hpv)]

end Relaid

/-- A part of a name comes first. -/
def startsWithPart (ts : List Token) : Bool := ts.head?.any (·.kind.isNamePart)

lemma startsWithPart_cons_of_isWhitespace (space : t.kind.isWhitespace = true) :
    startsWithPart (t :: ts) = false := by
  rw [startsWithPart, List.head?_cons, Option.any_some, Kind.eq_whitespace space]
  rfl

/-- Behind a part of a name, the lists go on with the same parts and end the name at the same
place. -/
inductive SameRun : List Token → List Token → Prop
  | ends {ts us : List Token} (left : startsWithPart ts = false)
      (right : startsWithPart us = false) (rest : Relaid ts us) : SameRun ts us
  | part {t u : Token} {ts us : List Token} (agrees : t.Agrees u)
      (isPart : t.kind.isNamePart = true) (rest : SameRun ts us) : SameRun (t :: ts) (u :: us)

/-- Behind a part of a name, the name goes on in both lists or in neither. -/
lemma Relaid.startsWithPart_eq {k : Kind} (h : Relaid ts us) (hk : k.isNamePart = true)
    (hjoint : JointsAgree k ts us) : startsWithPart ts = startsWithPart us :=
  h.any_head?_eq hjoint rfl fun k' hk' => by simp [spaceMatters, hk, hk']

/-- Behind a part of a name the lists run on alike. -/
lemma Relaid.sameRun {k : Kind} (h : Relaid ts us) (hk : k.isNamePart = true)
    (hjoint : JointsAgree k ts us) : SameRun ts us := by
  induction h generalizing k with
  | nil => exact .ends rfl rfl .nil
  | @left w ts us space rest =>
    have hstart := startsWithPart_eq (.left space rest) hk hjoint
    have hleft : startsWithPart (w :: ts) = false := startsWithPart_cons_of_isWhitespace space
    exact .ends hleft (hstart.symm.trans hleft) (.left space rest)
  | @right w ts us space rest =>
    have hstart := startsWithPart_eq (.right space rest) hk hjoint
    have hright : startsWithPart (w :: us) = false := startsWithPart_cons_of_isWhitespace space
    exact .ends (hstart.trans hright) hright (.right space rest)
  | @cons t u ts us agrees word joint rest ih =>
    by_cases hpart : t.kind.isNamePart = true
    · exact .part agrees hpart (ih hpart joint)
    · have hstart := startsWithPart_eq (.cons agrees word joint rest) hk hjoint
      have hleft : startsWithPart (t :: ts) = false := by simpa [startsWithPart] using hpart
      exact .ends hleft (hstart.symm.trans hleft) (.cons agrees word joint rest)

/-- Without a part in front there is no name to read. -/
lemma leadingName_of_startsWithPart (h : startsWithPart ts = false) : leadingName ts = "" := by
  cases ts with
  | nil => rfl
  | cons t ts => exact leadingName_cons_of_not (by simpa [startsWithPart] using h) ts

/-- Without a part in front there is no name to pass over. -/
lemma dropWhile_of_startsWithPart (h : startsWithPart ts = false) :
    ts.dropWhile (·.kind.isNamePart) = ts := by
  cases ts with
  | nil => rfl
  | cons t ts => exact List.dropWhile_cons_of_neg (by simpa [startsWithPart] using h)

namespace SameRun

lemma leadingName_eq (h : SameRun ts us) : leadingName ts = leadingName us := by
  induction h with
  | ends left right => rw [leadingName_of_startsWithPart left, leadingName_of_startsWithPart right]
  | part agrees isPart _ ih =>
    rw [leadingName_cons isPart, leadingName_cons (by rw [← agrees.1]; exact isPart),
      agrees.2 isPart, ih]

/-- What stands behind the name has white space in the same places. -/
lemma relaid_dropWhile (h : SameRun ts us) :
    Relaid (ts.dropWhile (·.kind.isNamePart)) (us.dropWhile (·.kind.isNamePart)) := by
  induction h with
  | ends left right rest =>
    rwa [dropWhile_of_startsWithPart left, dropWhile_of_startsWithPart right]
  | part agrees isPart _ ih =>
    rwa [List.dropWhile_cons_of_pos (by exact isPart),
      List.dropWhile_cons_of_pos (by rw [← agrees.1]; exact isPart)]

end SameRun

namespace StartsAlike

/-- The names in front are the same. -/
lemma leadingName_eq (h : StartsAlike ts us) : leadingName ts = leadingName us := by
  cases h with
  | nil => rfl
  | @cons t u ts us agrees _ joint rest =>
    by_cases hpart : t.kind.isNamePart = true
    · rw [leadingName_cons hpart, leadingName_cons (by rw [← agrees.1]; exact hpart),
        agrees.2 hpart, (rest.sameRun hpart joint).leadingName_eq]
    · rw [leadingName_of_startsWithPart (by simpa [startsWithPart] using hpart),
        leadingName_of_startsWithPart (by simpa [startsWithPart, ← agrees.1] using hpart)]

end StartsAlike

/-! ### Parents and interfaces -/

lemma Relaid.afterParent (h : Relaid ts us) :
    Relaid (Declaration.afterParent ts) (Declaration.afterParent us) := by
  rw [Declaration.afterParent, Declaration.afterParent]
  have hskip := h.skipSpace
  generalize Declaration.skipSpace ts = ts', Declaration.skipSpace us = us' at hskip ⊢
  cases hskip with
  | nil => exact .nil
  | cons agrees _ joint rest =>
    dsimp only
    rw [agrees.1]
    split
    · next hpart => exact (rest.sameRun (by rw [agrees.1]; exact hpart) joint).relaid_dropWhile
    · exact rest

lemma Declaration.afterParents_eq (ts : List Token) :
    afterParents ts =
      match skipSpace (afterParent ts) with
      | [] => []
      | t :: ts' => if t.kind = .comma then afterParents ts' else t :: ts' := by
  rw [afterParents]
  split <;> simp_all

/-- Behind the parents the lists start alike; the induction is on the number of tokens. -/
lemma Relaid.afterParents (h : Relaid ts us) :
    StartsAlike (Declaration.afterParents ts) (Declaration.afterParents us) := by
  induction hn : ts.length using Nat.strong_induction_on generalizing ts us with
  | _ n ih =>
    subst hn
    have hskip := h.afterParent.skipSpace
    have hlt : ∀ t ts', Declaration.skipSpace (Declaration.afterParent ts) = t :: ts' →
        ts'.length < ts.length := fun _ _ => length_lt_of_skipSpace_afterParent
    rw [afterParents_eq ts, afterParents_eq us]
    generalize Declaration.skipSpace (Declaration.afterParent ts) = ts',
      Declaration.skipSpace (Declaration.afterParent us) = us' at hskip hlt ⊢
    cases hskip with
    | nil => exact .nil
    | cons agrees word joint rest =>
      dsimp only
      rw [agrees.1]
      split
      · exact ih _ (hlt _ _ rfl) rest rfl
      · exact .cons agrees word joint rest

/-- Behind the word `extends` and the parents. -/
lemma StartsAlike.afterExtends (h : StartsAlike ts us) :
    StartsAlike (Declaration.afterExtends ts) (Declaration.afterExtends us) := by
  cases h with
  | nil => exact .nil
  | cons agrees word joint rest =>
    rw [Declaration.afterExtends, Declaration.afterExtends, agrees.1]
    split
    · exact rest.afterParents
    · exact .cons agrees word joint rest

lemma Twin.ahead_ofIndex (h : Twin tokens tokens' i i') (halign : Relaid tokens tokens') :
    Relaid (Cursor.ofIndex tokens i).ahead (Cursor.ofIndex tokens' i').ahead := by
  obtain ⟨t, u, ht, hu, -, -, -, hback⟩ := h.behind halign
  rw [Cursor.ofIndex_of_getElem? ht, Cursor.ofIndex_of_getElem? hu]
  exact hback

lemma Twin.parent?_eq (h : Twin tokens tokens' i i') (halign : Relaid tokens tokens') :
    parent? tokens i = parent? tokens' i' := by
  have hskip := (h.ahead_ofIndex halign).skipSpace
  rw [Declaration.parent?_eq, Declaration.parent?_eq]
  generalize skipSpace (Cursor.ofIndex tokens i).ahead = ts,
    skipSpace (Cursor.ofIndex tokens' i').ahead = us at hskip ⊢
  cases hskip with
  | nil => rfl
  | cons agrees _ _ rest =>
    dsimp only
    rw [agrees.1, rest.skipSpace.leadingName_eq]

/-- The names up to the body start with the name in front. -/
lemma Declaration.namesBeforeBody_eq (run : String) (ts : List Token) :
    namesBeforeBody run ts =
      (nonempty? (run ++ leadingName ts)).toList ++
        namesBeforeBody "" (ts.dropWhile (·.kind.isNamePart)) := by
  induction ts generalizing run with
  | nil => simp [namesBeforeBody, leadingName, nonempty?]
  | cons t ts ih =>
    by_cases hpart : t.kind.isNamePart = true
    · have hcurly : t.kind ≠ .openCurly := by
        intro heq
        rw [heq] at hpart
        cases hpart
      rw [namesBeforeBody, if_neg hcurly, if_pos hpart, ih, leadingName_cons hpart,
        String.append_assoc, List.dropWhile_cons_of_pos (by exact hpart)]
    · rw [leadingName_of_startsWithPart (by simpa [startsWithPart] using hpart),
        List.dropWhile_cons_of_neg (by simpa using hpart), String.append_empty, namesBeforeBody,
        namesBeforeBody]
      split <;> simp [nonempty?]

/-- White space in front of the names is passed over. -/
lemma Declaration.namesBeforeBody_skipSpace (ts : List Token) :
    namesBeforeBody "" (skipSpace ts) = namesBeforeBody "" ts := by
  induction ts with
  | nil => rfl
  | cons t ts ih =>
    by_cases space : t.kind.isWhitespace = true
    · have hkind := Kind.eq_whitespace space
      rw [skipSpace, List.dropWhile_cons_of_pos (by exact space), ← skipSpace, ih, eq_comm,
        namesBeforeBody, if_neg (by simp [hkind]), if_neg (by simp [hkind, Kind.isNamePart])]
      rfl
    · rw [skipSpace, List.dropWhile_cons_of_neg (by exact space)]

/-- The names up to the body are the same; the induction is on the number of tokens. -/
lemma Relaid.namesBeforeBody_eq (h : Relaid ts us) :
    namesBeforeBody "" ts = namesBeforeBody "" us := by
  induction hn : ts.length using Nat.strong_induction_on generalizing ts us with
  | _ n ih =>
    subst hn
    have hskip := h.skipSpace
    have hle := length_dropWhile_le (·.kind.isWhitespace) ts
    rw [← namesBeforeBody_skipSpace ts, ← namesBeforeBody_skipSpace us]
    rw [← Declaration.skipSpace] at hle
    generalize Declaration.skipSpace ts = ts', Declaration.skipSpace us = us' at hskip hle ⊢
    cases hskip with
    | nil => rfl
    | @cons t u ts' us' agrees _ joint rest =>
      rw [List.length_cons] at hle
      rw [namesBeforeBody, namesBeforeBody, ← agrees.1]
      split
      · rfl
      · split
        · next hpart =>
          -- the name in front is the same, and the names behind it are by induction
          have hrun := rest.sameRun hpart joint
          have hdrop := length_dropWhile_le (·.kind.isNamePart) ts'
          rw [Declaration.namesBeforeBody_eq _ ts', Declaration.namesBeforeBody_eq _ us',
            agrees.2 hpart, hrun.leadingName_eq, ih _ (by omega) hrun.relaid_dropWhile rfl]
        · rw [ih _ (by omega) rest rfl]

lemma Twin.interfaces?_eq (h : Twin tokens tokens' i i') (halign : Relaid tokens tokens') :
    interfaces? tokens i = interfaces? tokens' i' := by
  have hskip := (h.ahead_ofIndex halign).skipSpace.afterExtends
  rw [interfaces?, interfaces?]
  generalize afterExtends (skipSpace (Cursor.ofIndex tokens i).ahead) = ts,
    afterExtends (skipSpace (Cursor.ofIndex tokens' i').ahead) = us at hskip ⊢
  cases hskip with
  | nil => rfl
  | cons agrees _ _ rest =>
    dsimp only
    rw [agrees.1, rest.namesBeforeBody_eq]

/-! ### Namespaces -/

lemma Relaid.declaredNamespace?_eq (h : Relaid ts us) (hjoint : JointsAgree .kwNamespace ts us)
    (before before' : List Token) (word word' : Token) :
    declaredNamespace? (.on before word ts) = declaredNamespace? (.on before' word' us) := by
  have hrelative : ts.head?.any (·.kind = .nsSeparator) = us.head?.any (·.kind = .nsSeparator) :=
    h.any_head?_eq (p := fun k => k = .nsSeparator) hjoint rfl fun k' hk' => by
      rw [of_decide_eq_true hk']
      rfl
  have hskip := h.skipSpace
  rw [declaredNamespace?_on, declaredNamespace?_on, hrelative]
  generalize Declaration.skipSpace ts = ts', Declaration.skipSpace us = us' at hskip ⊢
  split
  · rfl
  · have hname := hskip.leadingName_eq
    cases hskip with
    | nil => rfl
    | cons agrees =>
      dsimp only
      rw [hname, agrees.1]

/-- White space declares no namespace. -/
lemma Declaration.namespaceBehind_cons_of_isWhitespace (space : t.kind.isWhitespace = true)
    (after ts : List Token) :
    namespaceBehind after (t :: ts) = namespaceBehind (t :: after) ts := by
  rw [namespaceBehind, if_neg (by simp [Kind.eq_whitespace space])]

/-- The nearest declaration of a namespace is the same.  Tokens pass one by one from the lists
before to those behind. -/
lemma Aligned.namespaceBehind_eq {before before' after after' : List Token}
    (hbefore : Aligned before before')
    (h : Relaid (before.reverse ++ after) (before'.reverse ++ after')) :
    namespaceBehind after before = namespaceBehind after' before' := by
  induction hbefore generalizing after after' with
  | nil => rfl
  | left space _ ih =>
    rw [namespaceBehind_cons_of_isWhitespace space]
    exact ih (by simpa using h)
  | right space _ ih =>
    rw [namespaceBehind_cons_of_isWhitespace space]
    exact ih (by simpa using h)
  | @cons t u before before' agrees word _ rest ih =>
    have hnext : Relaid (before.reverse ++ t :: after) (before'.reverse ++ u :: after') := by
      simpa using h
    obtain ⟨-, hjoint, hafter⟩ :=
      (hnext.of_append (Aligned.reverse rest)).of_cons word (by rw [← agrees.1]; exact word)
    have hdeclared :
        (if t.kind = .kwNamespace then declaredNamespace? (.on before t after) else none) =
          if u.kind = .kwNamespace then declaredNamespace? (.on before' u after') else none := by
      rw [← agrees.1]
      split
      · next hkind =>
        rw [hkind] at hjoint
        exact Relaid.declaredNamespace?_eq hafter hjoint _ _ _ _
      · rfl
    rw [namespaceBehind, namespaceBehind, hdeclared, ih hnext]

lemma Twin.namespaceAt_eq (h : Twin tokens tokens' i i') (halign : Relaid tokens tokens') :
    namespaceAt tokens i = namespaceAt tokens' i' := by
  obtain ⟨t, u, ht, hu, -⟩ := h.agree
  rw [namespaceAt, namespaceAt, Cursor.ofIndex_of_getElem? ht, Cursor.ofIndex_of_getElem? hu]
  obtain ⟨hi, rfl⟩ := List.getElem?_eq_some_iff.1 ht
  obtain ⟨hi', rfl⟩ := List.getElem?_eq_some_iff.1 hu
  exact h.front.reverse.namespaceBehind_eq (by simpa using halign)

end PhpOutline
