import Mathlib.Data.List.Basic
import PhpOutline.Proofs.Layout.Outline

/-!
# Filing along aligned tokens

What the pass files is told index by index (`fileAt`), and the outline is made by filing along the
indices that the pass reaches (`outline_before`).  White space files nothing.  So if twins declare
the same symbols, aligned lists of tokens file the same symbols in the same order, and the outlines
are not only alike but equal (`outline_run_eq`).
-/

namespace PhpOutline

open Declaration

namespace Pass

/-- The outline with what the token at the given index declares. -/
def fileAt (tokens : List Token) (o : Outline) (k : Nat) : Outline :=
  if isContainer tokens k then o.addContainer (containerAt tokens k)
  else
    match filedName? tokens k, owner? tokens k with
    | none, _ => o
    | some _, some c =>
      o.addMethod (containerAt tokens c).kind (containerAt tokens c).name (functionAt tokens k)
    | some name, none => o.addFunction (qualify (namespaceAt tokens k) name) (functionAt tokens k)

variable {tokens tokens' : List Token} {n k : Nat} {t : Token}

/-- The outline before an index holds what was filed at the indices before it. -/
lemma outline_before (path : Option String) (hn : n ≤ (reached tokens).length) :
    (before path tokens n).outline = (List.range n).foldl (fileAt tokens) {} := by
  induction n with
  | zero => rfl
  | succ n ih =>
    have hstep : (before path tokens (n + 1)).outline = (visited path tokens n).outline := by
      rw [before_succ hn]
      rfl
    rw [hstep, outline_visited path hn, ih (Nat.le_of_succ_le hn), List.range_succ,
      List.foldl_append]
    rfl

lemma fileAt_of_isWhitespace (ht : tokens[k]? = some t) (space : t.kind.isWhitespace = true)
    (o : Outline) : fileAt tokens o k = o := by
  have hpicks : ∀ {p : Nat → Bool}, PicksWords tokens p → p k = false := by
    intro p hwords
    rw [Bool.eq_false_iff]
    intro hk
    obtain ⟨u, hu, hword⟩ := hwords k hk
    cases ht.symm.trans hu
    rw [space] at hword
    cases hword
  rw [fileAt, hpicks picksWords_isContainer, filedName?_eq_none (hpicks picksWords_isFunction)]
  rfl

end Pass

open Pass

/-- Twins declare the same functions and the same containers. -/
structure DeclareSame (tokens tokens' : List Token) : Prop where
  functions : ∀ {i i' : Nat}, Twin tokens tokens' i i' → isFunction tokens i = true →
    functionAt tokens i = functionAt tokens' i'
  containers : ∀ {i i' : Nat}, Twin tokens tokens' i i' → isContainer tokens i = true →
    containerAt tokens i = containerAt tokens' i'

variable {tokens tokens' front front' back back' : List Token} {i i' : Nat}

/-- Twins file the same symbol in the same place. -/
lemma Twin.fileAt_eq (h : Twin tokens tokens' i i') (halign : Relaid tokens tokens')
    (hsame : DeclareSame tokens tokens') (o : Outline) :
    fileAt tokens o i = fileAt tokens' o i' := by
  have halign' := halign.aligned
  rw [fileAt, fileAt, ← h.isContainer_eq halign', ← h.filedName?_eq halign',
    ← h.namespaceAt_eq halign]
  split
  · next hcontainer => rw [hsame.containers h hcontainer]
  · cases hfiled : filedName? tokens i with
    | none => rfl
    | some name =>
      have howner := h.owner?_twin halign'
      rw [← hsame.functions h (isFunction_of_filedName? hfiled)]
      generalize hc : owner? tokens i = c, owner? tokens' i' = c' at howner
      cases howner with
      | none => rfl
      | @some c c' htwin =>
        have hcontainer : isContainer tokens c = true := (outermost?_eq_some.1 hc).2.1
        dsimp only
        rw [hsame.containers htwin hcontainer]

/-- Along aligned parts of two lists the same is filed.  The induction takes tokens from the back
parts to the front parts, so that every token is compared where it stands. -/
lemma foldl_fileAt_eq (halign : Relaid tokens tokens') (hsame : DeclareSame tokens tokens')
    {rest rest' : List Token} (hback : Aligned back back') (hfront : Aligned front front')
    (htokens : front ++ (back ++ rest) = tokens) (htokens' : front' ++ (back' ++ rest') = tokens')
    (o : Outline) :
    (List.range' front.length back.length).foldl (fileAt tokens) o =
      (List.range' front'.length back'.length).foldl (fileAt tokens') o := by
  induction hback generalizing front front' o with
  | nil => rfl
  | @left w ts us space _ ih =>
    have hw : tokens[front.length]? = some w := by simp [← htokens]
    have hrest := ih (hfront.append (.left space .nil)) (by simp [← htokens])
      (by simp [← htokens']) o
    rw [List.length_append, List.length_singleton, List.append_nil] at hrest
    rw [List.length_cons, List.range'_succ, List.foldl_cons, fileAt_of_isWhitespace hw space, hrest]
  | @right w ts us space _ ih =>
    have hw : tokens'[front'.length]? = some w := by simp [← htokens']
    have hrest := ih (hfront.append (.right space .nil)) (by simp [← htokens])
      (by simp [← htokens']) o
    rw [List.length_append, List.length_append, List.length_singleton, List.length_nil,
      Nat.add_zero] at hrest
    rw [hrest, List.length_cons, List.range'_succ, List.foldl_cons,
      fileAt_of_isWhitespace hw space]
  | @cons t u ts us agrees word _ _ ih =>
    have htwin : Twin tokens tokens' front.length front'.length := by
      rw [← htokens, ← htokens']
      exact twin_of_append hfront agrees word
    have hrest := ih (hfront.append (.cons agrees word trivial .nil)) (by simp [← htokens])
      (by simp [← htokens']) (fileAt tokens o front.length)
    rw [List.length_append, List.length_append, List.length_singleton, List.length_singleton]
      at hrest
    rw [List.length_cons, List.length_cons, List.range'_succ, List.range'_succ, List.foldl_cons,
      List.foldl_cons, hrest, htwin.fileAt_eq halign hsame]

/-- Lists of tokens that differ in layout only and declare the same file the same. -/
lemma outline_run_eq (path path' : Option String) (halign : Relaid tokens tokens')
    (hsame : DeclareSame tokens tokens') :
    (run path tokens).outline = (run path' tokens').outline := by
  obtain ⟨rest, hrest⟩ : reached tokens <+: tokens := List.takeWhile_prefix _
  obtain ⟨rest', hrest'⟩ : reached tokens' <+: tokens' := List.takeWhile_prefix _
  rw [run_eq_before, run_eq_before, outline_before path le_rfl, outline_before path' le_rfl,
    List.range_eq_range', List.range_eq_range']
  exact foldl_fileAt_eq halign hsame halign.aligned.reached .nil hrest hrest' {}

end PhpOutline
