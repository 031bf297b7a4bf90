import Mathlib.Data.List.Basic
import Mathlib.Order.Nat
import PhpOutline.Proofs.Outline.Visit
import PhpOutline.Proofs.Scope.Outermost

/-!
# The open scopes along a run

The tracker keeps one container, one function and one number for all masks.  Here it is shown what
they are at every index of a run: the open container and the open function are the outermost ones
around the token (`container_visited`, `function_visited`), and the token counts as masked exactly
if some mask around it does (`isMasked_visited`).  The invariant is stated before an index, where
the scopes that have ended are closed (`tracker_before`, `maskReaches_before`); handling a token and
closing what ends with it lead from one index to the next.
-/

namespace PhpOutline

namespace Pass

open Declaration

variable {path : Option String} {tokens : List Token} {k n : Nat} {t : Token}

/-! ### Containers and functions -/

lemma picksKeywords_isFunction (tokens : List Token) :
    PicksKeywords tokens (isFunction tokens) := by
  intro i hi
  rw [isFunction, Bool.and_eq_true] at hi
  cases h : (reached tokens)[i]? with
  | none => simp [h] at hi
  | some t =>
    have hkind : t.kind = .kwFunction := by simpa [h] using hi.1
    refine ⟨t, getElem?_of_reached h, ?_, ?_⟩ <;> rw [hkind] <;> decide

lemma picksKeywords_isContainer (tokens : List Token) :
    PicksKeywords tokens (isContainer tokens) := by
  intro i hi
  obtain ⟨declared, hdeclared⟩ := Option.isSome_iff_exists.1 hi
  obtain ⟨kind, hkind, -⟩ := Option.bind_eq_some_iff.1 hdeclared
  cases h : (reached tokens)[i]? with
  | none => simp [containerKind?, h] at hkind
  | some t =>
    have hword : ContainerKind.ofKind? t.kind = some kind := by
      rw [containerKind?_eq h] at hkind
      split at hkind
      · cases hkind
      · exact hkind
    refine ⟨t, getElem?_of_reached h, ?_, ?_⟩ <;> intro heq <;> rw [heq] at hword <;> cases hword

/-- The open container and the open function before an index. -/
lemma tracker_before (path : Option String) (hk : k ≤ (reached tokens).length) :
    (before path tokens k).tracker.container =
        (openBefore? tokens (isContainer tokens) k).map (containerFrame tokens) ∧
      (before path tokens k).tracker.function =
        (openBefore? tokens (isFunction tokens) k).map (functionFrame tokens) := by
  induction k with
  | zero => exact ⟨rfl, rfl⟩
  | succ k ih =>
    obtain ⟨hcontainer, hfunction⟩ := ih (Nat.le_of_succ_le hk)
    have htoken := List.getElem?_eq_getElem (Nat.lt_of_succ_le hk)
    rw [before_succ hk, visited_eq htoken, close, Tracker.closeAt, container_visit _ _ htoken,
      function_visit _ _ htoken, hcontainer, hfunction, ← map_outermost?, ← map_outermost?,
      Option.filter_map, Option.filter_map,
      ← filter_outermost? (picksKeywords_isContainer tokens),
      ← filter_outermost? (picksKeywords_isFunction tokens)]
    exact ⟨rfl, rfl⟩

/-- After a token is handled, the open container is the outermost one around it. -/
lemma container_visited (path : Option String) (hk : k < (reached tokens).length) :
    (visited path tokens k).tracker.container =
      (outermost? tokens (isContainer tokens) k).map (containerFrame tokens) := by
  have htoken := List.getElem?_eq_getElem hk
  rw [visited_eq htoken, container_visit _ _ htoken, (tracker_before path hk.le).1, map_outermost?]

/-- After a token is handled, the open function is the outermost one around it. -/
lemma function_visited (path : Option String) (hk : k < (reached tokens).length) :
    (visited path tokens k).tracker.function =
      (outermost? tokens (isFunction tokens) k).map (functionFrame tokens) := by
  have htoken := List.getElem?_eq_getElem hk
  rw [visited_eq htoken, function_visit _ _ htoken, (tracker_before path hk.le).2, map_outermost?]

/-- A container that is open before an index ends there or later. -/
lemma le_endIndex_container_before (hk : k ≤ (reached tokens).length)
    {scope : ContainerKind × Frame} (h : (before path tokens k).tracker.container = some scope) :
    k ≤ scope.2.endIndex := by
  rw [(tracker_before path hk).1, Option.map_eq_some_iff] at h
  obtain ⟨i, hi, rfl⟩ := h
  exact (openBefore?_eq_some.1 hi).2.2.1

/-- A function that is open before an index ends there or later. -/
lemma le_endIndex_function_before (hk : k ≤ (reached tokens).length) {frame : Frame}
    (h : (before path tokens k).tracker.function = some frame) : k ≤ frame.endIndex := by
  rw [(tracker_before path hk).2, Option.map_eq_some_iff] at h
  obtain ⟨i, hi, rfl⟩ := h
  exact (openBefore?_eq_some.1 hi).2.2.1

/-! ### Masks -/

/-- Of the masks that start before index `n`, those that do not end before index `k` reach as far
as the tracker says. -/
structure MaskReaches (tokens : List Token) (n k : Nat) (maskedUntil : Option Nat) : Prop where
  /-- The end of the mask is the end of one of its parts and not yet passed. -/
  attained : ∀ last, maskedUntil = some last →
    k ≤ last ∧ ∃ m < n, isMask tokens m = true ∧ lastIndex tokens m = last
  /-- No part that is not yet passed reaches further. -/
  covers : ∀ m < n, isMask tokens m = true → k ≤ lastIndex tokens m →
    ∃ last, maskedUntil = some last ∧ lastIndex tokens m ≤ last

/-- Handling a token adds the mask that it starts. -/
lemma MaskReaches.visit {s : Pass} (hs : MaskReaches tokens k k s.tracker.maskedUntil)
    (h : (reached tokens)[k]? = some t) :
    MaskReaches tokens (k + 1) k (s.visit path tokens k t).tracker.maskedUntil := by
  rw [maskedUntil_visit _ s h]
  by_cases hmask : isMask tokens k = true
  · rw [if_pos hmask]
    have hk := le_lastIndex tokens k
    constructor
    · rintro last hlast
      cases hold : s.tracker.maskedUntil with
      | none =>
        rw [hold, Option.elim_none, Option.some_inj] at hlast
        exact ⟨hlast ▸ hk, k, Nat.lt_succ_self k, hmask, hlast⟩
      | some old =>
        rw [hold, Option.elim_some, Option.some_inj] at hlast
        obtain ⟨hle, m, hm, hmm, hlm⟩ := hs.attained old hold
        rcases le_total (lastIndex tokens k) old with hcase | hcase
        · rw [max_eq_right hcase] at hlast
          exact ⟨hlast ▸ hle, m, hm.trans (Nat.lt_succ_self k), hmm, hlm.trans hlast⟩
        · rw [max_eq_left hcase] at hlast
          exact ⟨hlast ▸ hk, k, Nat.lt_succ_self k, hmask, hlast⟩
    · intro m hm hmm hle
      rcases Nat.lt_succ_iff_lt_or_eq.1 hm with hlt | rfl
      · obtain ⟨old, hold, hreach⟩ := hs.covers m hlt hmm hle
        rw [hold, Option.elim_some]
        exact ⟨_, rfl, hreach.trans (le_max_right _ _)⟩
      · cases s.tracker.maskedUntil with
        | none => exact ⟨_, rfl, le_rfl⟩
        | some old => exact ⟨_, rfl, le_max_left _ _⟩
  · rw [if_neg hmask]
    constructor
    · intro last hlast
      obtain ⟨hle, m, hm, hmm, hlm⟩ := hs.attained last hlast
      exact ⟨hle, m, hm.trans (Nat.lt_succ_self k), hmm, hlm⟩
    · intro m hm hmm hle
      rcases Nat.lt_succ_iff_lt_or_eq.1 hm with hlt | rfl
      · exact hs.covers m hlt hmm hle
      · exact absurd hmm hmask

/-- Closing at an index drops the mask once its last part has ended. -/
lemma MaskReaches.close {maskedUntil : Option Nat} (h : MaskReaches tokens n k maskedUntil) :
    MaskReaches tokens n (k + 1) (maskedUntil.filter (· != k)) := by
  constructor
  · intro last hlast
    obtain ⟨hsome, hne⟩ := Option.filter_eq_some_iff.1 hlast
    obtain ⟨hle, hm⟩ := h.attained last hsome
    have hne' : last ≠ k := by simpa using hne
    exact ⟨by omega, hm⟩
  · intro m hm hmm hle
    obtain ⟨last, hlast, hreach⟩ := h.covers m hm hmm (Nat.le_of_succ_le hle)
    refine ⟨last, ?_, hreach⟩
    rw [Option.filter_eq_some_iff]
    exact ⟨hlast, by simp; omega⟩

lemma maskReaches_before (path : Option String) (hk : k ≤ (reached tokens).length) :
    MaskReaches tokens k k (before path tokens k).tracker.maskedUntil := by
  induction k with
  | zero => exact ⟨fun _ h => (nomatch h), fun _ h => (nomatch h)⟩
  | succ k ih =>
    have htoken := List.getElem?_eq_getElem (Nat.lt_of_succ_le hk)
    rw [before_succ hk, visited_eq htoken]
    exact ((ih (Nat.le_of_succ_le hk)).visit htoken).close

/-- After a token is handled, it counts as masked exactly if a mask is around it. -/
lemma isMasked_visited (path : Option String) (hk : k < (reached tokens).length) :
    (visited path tokens k).tracker.isMasked k = true ↔
      ∃ m ≤ k, isMask tokens m = true ∧ k ≤ lastIndex tokens m := by
  have htoken := List.getElem?_eq_getElem hk
  have hreach : MaskReaches tokens (k + 1) k (visited path tokens k).tracker.maskedUntil := by
    rw [visited_eq htoken]
    exact (maskReaches_before path hk.le).visit htoken
  rw [Tracker.isMasked, Option.any_eq_true]
  constructor
  · rintro ⟨last, hlast, hle⟩
    obtain ⟨-, m, hm, hmm, rfl⟩ := hreach.attained last hlast
    exact ⟨m, Nat.lt_succ_iff.1 hm, hmm, of_decide_eq_true hle⟩
  · rintro ⟨m, hm, hmm, hle⟩
    obtain ⟨last, hlast, hlm⟩ := hreach.covers m (Nat.lt_succ_of_le hm) hmm hle
    exact ⟨last, hlast, decide_eq_true (hle.trans hlm)⟩

/-! ### The end of a run -/

/-- A pass that is not halted reaches all tokens. -/
lemma reached_eq_self (h : ∀ t ∈ tokens, t.kind ≠ .kwHaltCompiler) : reached tokens = tokens := by
  rw [reached, List.takeWhile_eq_self_iff]
  intro t ht
  simpa using h t ht

/-- A pass that is not halted leaves nothing open. -/
lemma tracker_run (path : Option String) (h : ∀ t ∈ tokens, t.kind ≠ .kwHaltCompiler) :
    (run path tokens).tracker = {} := by
  have hreached := reached_eq_self h
  have hlast : ∀ i < tokens.length, lastIndex tokens i < tokens.length :=
    fun i hi => lastIndex_lt_length hi
  have hend := (le_refl (reached tokens).length)
  rw [run_eq_before]
  have hcontainer := (tracker_before path hend).1
  have hfunction := (tracker_before path hend).2
  have hmask := maskReaches_before path hend
  rw [hreached] at hcontainer hfunction hmask ⊢
  rw [openBefore?_eq_none.2 fun i hi _ => hlast i hi, Option.map_none] at hcontainer hfunction
  have hmasked : (before path tokens tokens.length).tracker.maskedUntil = none := by
    cases hm : (before path tokens tokens.length).tracker.maskedUntil with
    | none => rfl
    | some last =>
      obtain ⟨hle, m, hlt, -, rfl⟩ := hmask.attained last hm
      exact absurd (hlast m hlt) (not_lt.2 hle)
  cases htracker : (before path tokens tokens.length).tracker with
  | mk container function maskedUntil =>
    rw [htracker] at hcontainer hfunction hmasked
    obtain rfl : container = none := hcontainer
    obtain rfl : function = none := hfunction
    obtain rfl : maskedUntil = none := hmasked
    rfl

end Pass

end PhpOutline
