import Mathlib.Data.List.Sort
import PhpOutline.Files.Path

/-!
# The order of paths

Paths are compared component by component.  This is a linear order of their components: two paths
are equal in it if they have the same components, however they are spelled (`Path.compare_eq_eq`).
That is why sorting paths and dropping neighbours that are equal leaves no two equal paths at all
(`Path.pairwise_sorted`), and why the result is told, up to spelling, by the components that occur
(`Path.map_components_sorted`).
-/

namespace PhpOutline

open Std

namespace Component

/-- A component is told by its kind and its name. -/
lemma eq_of_rank_eq {a b : Component} (hrank : a.rank = b.rank)
    (hname : a.name?.getD "" = b.name?.getD "") : a = b := by
  cases a <;> cases b <;> simp_all [rank, name?]

instance : TransCmp Component.compare :=
  inferInstanceAs (TransCmp (compareLex (compareOn rank) (compareOn fun c => c.name?.getD "")))

instance : LawfulEqCmp Component.compare where
  eq_of_compare {a b} h := by
    rw [Component.compare, Ordering.then_eq_eq, LawfulEqOrd.compare_eq_iff_eq,
      LawfulEqOrd.compare_eq_iff_eq] at h
    exact eq_of_rank_eq h.1 h.2

end Component

namespace Path

/-! ### Equal paths -/

lemma compareComponents_eq_compareLex :
    compareComponents = List.compareLex Component.compare := by
  funext as bs
  induction as generalizing bs with
  | nil => cases bs <;> rfl
  | cons a as ih =>
    cases bs with
    | nil => rfl
    | cons b bs => rw [compareComponents, ih, List.compareLex_cons_cons]

instance : TransCmp compareComponents := by
  rw [compareComponents_eq_compareLex]
  infer_instance

instance : LawfulEqCmp compareComponents := by
  rw [compareComponents_eq_compareLex]
  infer_instance

instance : TransCmp Path.compare where
  eq_swap {p q} :=
    show compareComponents (components p) (components q) = _ from OrientedCmp.eq_swap
  isLE_trans {p _ r} hpq hqr :=
    show (compareComponents (components p) (components r)).isLE from TransCmp.isLE_trans hpq hqr

/-- Two paths are equal in the order if they have the same components. -/
lemma compare_eq_eq {p q : String} : compare p q = .eq ↔ components p = components q :=
  show compareComponents (components p) (components q) = _ ↔ _ from
    LawfulEqCmp.compare_eq_iff_eq

lemma isLE_total (p q : String) : ((compare p q).isLE || (compare q p).isLE) = true := by
  have hswap : compare p q = (compare q p).swap := OrientedCmp.eq_swap
  rw [hswap]
  cases compare q p <;> rfl

/-! ### Sorting -/

/-- Puts a path in front of paths in order, in the place of an equal one. -/
def putFirst (p : String) : List String → List String
  | [] => [p]
  | q :: qs => if compare p q = .eq then p :: qs else p :: q :: qs

lemma sorted_eq_foldr (paths : List String) :
    sorted paths = (paths.mergeSort fun p q => (compare p q).isLE).foldr putFirst [] := by
  rfl

lemma sublist_putFirst (p : String) (qs : List String) : (putFirst p qs).Sublist (p :: qs) := by
  cases qs with
  | nil => exact List.Sublist.refl _
  | cons q qs =>
    rw [putFirst]
    split
    · exact (List.sublist_cons_self q qs).cons_cons p
    · exact List.Sublist.refl _

/-- Only a path that is equal to the new one is dropped. -/
lemma exists_mem_putFirst {p q : String} {qs : List String} (hq : q ∈ p :: qs) :
    ∃ r ∈ putFirst p qs, components r = components q := by
  cases qs with
  | nil => exact ⟨q, hq, rfl⟩
  | cons q' qs =>
    rw [putFirst]
    split
    case isTrue heq =>
      rcases List.mem_cons.1 hq with rfl | hq
      · exact ⟨q, List.mem_cons_self, rfl⟩
      · rcases List.mem_cons.1 hq with rfl | hq
        · exact ⟨p, List.mem_cons_self, compare_eq_eq.1 heq⟩
        · exact ⟨q, List.mem_cons_of_mem _ hq, rfl⟩
    case isFalse => exact ⟨q, hq, rfl⟩

/-- In front of paths that strictly increase and are not smaller, the new path is strictly
smaller than all that remain. -/
lemma pairwise_putFirst {p : String} {qs : List String}
    (hqs : qs.Pairwise fun q r => compare q r = .lt) (hp : ∀ q ∈ qs, (compare p q).isLE) :
    (putFirst p qs).Pairwise fun q r => compare q r = .lt := by
  cases qs with
  | nil => exact List.pairwise_singleton _ _
  | cons q qs =>
    obtain ⟨hq, hqs'⟩ := List.pairwise_cons.1 hqs
    rw [putFirst]
    split
    case isTrue heq =>
      refine List.pairwise_cons.2 ⟨fun r hr => ?_, hqs'⟩
      rw [TransCmp.congr_left heq]
      exact hq r hr
    case isFalse hne =>
      have hlt : compare p q = .lt := by
        have hle := hp q List.mem_cons_self
        revert hle hne
        cases compare p q <;> simp
      refine List.pairwise_cons.2 ⟨fun r hr => ?_, hqs⟩
      rcases List.mem_cons.1 hr with rfl | hr
      · exact hlt
      · exact TransCmp.lt_trans hlt (hq r hr)

lemma sublist_foldr_putFirst (paths : List String) : (paths.foldr putFirst []).Sublist paths := by
  induction paths with
  | nil => exact List.Sublist.refl _
  | cons p paths ih => exact (sublist_putFirst p _).trans (ih.cons_cons p)

lemma exists_mem_foldr_putFirst {p : String} {paths : List String} (hp : p ∈ paths) :
    ∃ r ∈ paths.foldr putFirst [], components r = components p := by
  induction paths with
  | nil => simp at hp
  | cons q paths ih =>
    rcases List.mem_cons.1 hp with rfl | hp
    · exact exists_mem_putFirst List.mem_cons_self
    · obtain ⟨r, hr, hrp⟩ := ih hp
      obtain ⟨r', hr', hrr'⟩ := exists_mem_putFirst (List.mem_cons_of_mem q hr)
      exact ⟨r', hr', hrr'.trans hrp⟩

lemma pairwise_foldr_putFirst {paths : List String}
    (h : paths.Pairwise fun p q => (compare p q).isLE) :
    (paths.foldr putFirst []).Pairwise fun p q => compare p q = .lt := by
  induction paths with
  | nil => exact List.Pairwise.nil
  | cons p paths ih =>
    obtain ⟨hp, hpaths⟩ := List.pairwise_cons.1 h
    exact pairwise_putFirst (ih hpaths) fun q hq => hp q ((sublist_foldr_putFirst paths).subset hq)

/-- Paths that are in order stay where they are. -/
lemma sorted_of_pairwise {paths : List String}
    (h : paths.Pairwise fun p q => (compare p q).isLE) :
    sorted paths = paths.foldr putFirst [] := by
  rw [sorted_eq_foldr, List.mergeSort_of_pairwise h]

/-- The sorted paths strictly increase, so no two of them are equal. -/
lemma pairwise_sorted (paths : List String) :
    (sorted paths).Pairwise fun p q => compare p q = .lt := by
  rw [sorted_eq_foldr]
  refine pairwise_foldr_putFirst (List.pairwise_mergeSort ?_ ?_ paths)
  · exact fun p q r => TransCmp.isLE_trans
  · exact isLE_total

/-- Sorting keeps every path, though it may keep another spelling of it. -/
lemma exists_mem_sorted {c : List Component} {paths : List String} :
    (∃ p ∈ sorted paths, components p = c) ↔ ∃ p ∈ paths, components p = c := by
  have hperm := List.mergeSort_perm paths fun p q => (compare p q).isLE
  rw [sorted_eq_foldr]
  constructor
  · rintro ⟨p, hp, rfl⟩
    exact ⟨p, hperm.mem_iff.1 ((sublist_foldr_putFirst _).subset hp), rfl⟩
  · rintro ⟨p, hp, rfl⟩
    exact exists_mem_foldr_putFirst (hperm.mem_iff.2 hp)

/-- Lists with the same paths, each in any number and any spelling, are sorted alike. -/
lemma map_components_sorted {ps qs : List String}
    (h : ∀ c, (∃ p ∈ ps, components p = c) ↔ ∃ q ∈ qs, components q = c) :
    (sorted ps).map components = (sorted qs).map components := by
  have hlt (paths : List String) :
      ((sorted paths).map components).Pairwise fun c d => compareComponents c d = .lt :=
    List.pairwise_map.2 (pairwise_sorted paths)
  have : Std.Irrefl fun c d : List Component => compareComponents c d = .lt :=
    ⟨fun c hc => nomatch hc.symm.trans ReflCmp.compare_self⟩
  have : Std.Antisymm fun c d : List Component => compareComponents c d = .lt :=
    ⟨fun c d hcd hdc => nomatch hdc.symm.trans (OrientedCmp.gt_of_lt hcd)⟩
  refine (hlt ps).eq_of_mem_iff (hlt qs) fun c => ?_
  rw [List.mem_map, List.mem_map, exists_mem_sorted, exists_mem_sorted, h c]

end Path

end PhpOutline
