import Mathlib.Data.List.Basic
import PhpOutline.Text.Split

/-!
# Fields and first occurrences

The two ways of splitting a text, told by where the separator stands.  The field in front of a
separator is found by looking for its text: at the very front, or between two separators
(`mem_dropLast_splitWhere`).  Splitting once finds a separator wherever there is one
(`isSome_splitOnce?`), and the first of them if its first character does not occur before
(`splitOnce?_append`).
-/

namespace PhpOutline.Text

variable {sep front back cs : List Char} {c : Char}

/-! ### Fields -/

lemma splitWhere_eq_splitOnP (p : Char → Bool) (cs : List Char) :
    splitWhere p cs = cs.splitOnP p := by
  induction cs with
  | nil => rfl
  | cons c cs ih =>
    obtain ⟨field, fields, hfields⟩ := List.exists_cons_of_ne_nil (List.splitOnP_ne_nil p cs)
    rw [splitWhere, List.splitOnP_cons_eq_if_modifyHead, ih, hfields]
    rfl

lemma splitWhere_beq (c : Char) (cs : List Char) : splitWhere (· == c) cs = cs.splitOn c := by
  rw [splitWhere_eq_splitOnP, List.splitOn_eq_splitOnP]

/-- Fields joined by a character: every field but the first stands behind that character. -/
lemma intercalate_cons (c : Char) (field : List Char) (fields : List (List Char)) :
    [c].intercalate (field :: fields) = field ++ fields.flatMap (c :: ·) := by
  induction fields generalizing field with
  | nil => simp [List.intercalate]
  | cons next fields ih =>
    rw [List.intercalate_cons_cons, ih, List.flatMap_cons]
    simp

/-- A field that is not the last one has another one behind it. -/
lemma exists_next_of_mem_dropLast {field : List Char} {fields : List (List Char)}
    (h : field ∈ fields.dropLast) :
    ∃ before next behind, fields = before ++ field :: next :: behind := by
  have hne : fields ≠ [] := by
    rintro rfl
    cases h
  obtain ⟨before, behind, hsplit⟩ := List.append_of_mem h
  have hfields : fields = before ++ field :: (behind ++ [fields.getLast hne]) := by
    rw [← List.cons_append, ← List.append_assoc, ← hsplit, List.dropLast_concat_getLast]
  cases behind with
  | nil => exact ⟨before, _, [], hfields⟩
  | cons next behind => exact ⟨before, next, _, hfields⟩

/-- A field with a separator behind it stands at the front of the text, or behind another
separator. -/
lemma mem_dropLast_splitWhere {field : List Char} (h : c ∉ field) :
    field ∈ (splitWhere (· == c) cs).dropLast ↔
      field ++ [c] <+: cs ∨ c :: (field ++ [c]) <:+: cs := by
  rw [splitWhere_beq]
  constructor
  · intro hmem
    obtain ⟨before, next, behind, hfields⟩ := exists_next_of_mem_dropLast hmem
    have hjoined : [c].intercalate (before ++ field :: next :: behind) = cs :=
      hfields ▸ List.intercalate_splitOn c
    -- a field that is not the first one has a separator before it, too
    cases before with
    | nil =>
      rw [List.nil_append, intercalate_cons, List.flatMap_cons] at hjoined
      exact .inl ⟨_, by simpa using hjoined⟩
    | cons first before =>
      rw [List.cons_append, intercalate_cons, List.flatMap_append, List.flatMap_cons,
        List.flatMap_cons] at hjoined
      exact .inr ⟨first ++ before.flatMap (c :: ·), _, by simpa using hjoined⟩
  · have hfront : ∀ behind, field ∈ ((field ++ c :: behind).splitOn c).dropLast := by
      intro behind
      rw [List.splitOn_append_cons_self, List.splitOn_eq_singleton h,
        List.dropLast_append_of_ne_nil (List.splitOn_ne_nil c behind)]
      exact List.mem_append_left _ (List.mem_singleton_self field)
    rintro (⟨behind, rfl⟩ | ⟨before, behind, rfl⟩)
    · rw [List.append_assoc]
      exact hfront behind
    · rw [List.append_assoc, List.cons_append, List.append_assoc, List.splitOn_append_cons_self,
        List.dropLast_append_of_ne_nil (List.splitOn_ne_nil c _)]
      exact List.mem_append_right _ (hfront behind)

/-! ### The first occurrence -/

lemma after?_append (front back : List Char) : after? front (front ++ back) = some back := by
  simp [after?]

lemma after?_eq_none_iff : after? sep cs = none ↔ ¬sep <+: cs := by
  simp [after?]

/-- A separator is found if there is one anywhere in the text. -/
lemma isSome_splitOnce? : (splitOnce? sep cs).isSome = true ↔ sep <:+: cs := by
  induction cs with
  | nil => simp [splitOnce?]
  | cons c cs ih =>
    rw [splitOnce?, List.infix_cons_iff, ← ih]
    cases hfirst : after? sep (c :: cs) with
    | none => simp [after?_eq_none_iff.1 hfirst]
    | some rest =>
      have hstarts : sep <+: c :: cs := by
        by_contra hno
        rw [after?_eq_none_iff.2 hno] at hfirst
        cases hfirst
      simp [hstarts]

/-- Nothing is split off before the first character of the separator. -/
lemma splitOnce?_append (h : c ∉ front) :
    splitOnce? (c :: sep) (front ++ (c :: sep ++ back)) = some (front, back) := by
  induction front with
  | nil =>
    have hfirst := after?_append (c :: sep) back
    rw [List.cons_append] at hfirst
    rw [List.nil_append, List.cons_append, splitOnce?, hfirst]
  | cons d front ih =>
    obtain ⟨hd, hfront⟩ := not_or.1 (mt List.mem_cons.2 h)
    have hno : after? (c :: sep) (d :: (front ++ (c :: sep ++ back))) = none := by
      rw [after?_eq_none_iff, List.cons_prefix_cons]
      rintro ⟨rfl, -⟩
      exact hd rfl
    rw [List.cons_append, splitOnce?, hno, ih hfront]
    rfl

end PhpOutline.Text
