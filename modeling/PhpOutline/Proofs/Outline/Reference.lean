import Mathlib.Data.List.Basic
import PhpOutline.Proofs.Outline.Lookup
import PhpOutline.Proofs.Outline.OpenScopes

/-!
# The outline without a pass

What the outline of a file holds can be said declaration by declaration.  A container is the last
one declared under its kind and name.  A function is filed if it has a name and stands in no mask;
the outermost named container around it is its owner, and without an owner it is a free function.
A later container of the same kind and name takes the place of an earlier one together with its
methods, so that the methods of an entry are those filed behind the declaration that made it.

`outline_eq_reference` says that the pass, which keeps one open container and one mask, builds just
this outline.
-/

namespace PhpOutline

namespace Declaration

/-- The last index below `n` that satisfies the condition. -/
def lastBelow? (n : Nat) (p : Nat → Bool) : Option Nat := (List.range n).reverse.find? p

/-- The name under which the function declared at the given index is filed.  Anonymous and masked
functions are not filed. -/
def filedName? (tokens : List Token) (k : Nat) : Option String :=
  if isFunction tokens k && !isMaskedAt tokens k then (functionAt tokens k).name else none

/-- The token with index `k` declares the container with the given kind and name. -/
def declares (tokens : List Token) (kind : ContainerKind) (name : String) (k : Nat) : Bool :=
  namedContainer? tokens k = some (kind, name)

/-- The token with index `k` declares the method `m` of the container with the given kind and name
that was declared at index `d`. -/
def declaresMethod (tokens : List Token) (kind : ContainerKind) (name : String) (d : Nat)
    (m : String) (k : Nat) : Bool :=
  decide (d < k) && decide (filedName? tokens k = some m) &&
    decide ((owner? tokens k).bind (namedContainer? tokens) = some (kind, name))

/-- The token with index `k` declares the free function with the given key. -/
def declaresFree (tokens : List Token) (key : String) (k : Nat) : Bool :=
  (owner? tokens k).isNone &&
    decide ((filedName? tokens k).map (qualify (namespaceAt tokens k)) = some key)

/-- The comment lines of a list of tokens. -/
def commentLinesOf : List Token → Nat
  | [] => 0
  | t :: ts => (if t.kind.isComment then LineCount.ofComment t.text else 0) + commentLinesOf ts

/-- What the first `n` tokens make of the entry under a kind and a name: the container of the last
declaration, with the methods filed behind it, the last one of each name. -/
def EntryAgrees (tokens : List Token) (n : Nat) (kind : ContainerKind) (name : String)
    (entry : Option Container) : Prop :=
  match lastBelow? n (declares tokens kind name) with
  | none => entry = none
  | some d =>
    ∃ c, entry = some c ∧ c.head = containerAt tokens d ∧
      ∀ m, c.methods[m]? =
        (lastBelow? n (declaresMethod tokens kind name d m)).map (functionAt tokens)

variable {tokens : List Token} {n k d : Nat} {p : Nat → Bool}

@[simp] lemma lastBelow?_zero (p : Nat → Bool) : lastBelow? 0 p = none := rfl

/-- The last index that satisfies a condition is the newest one, or an earlier one. -/
lemma lastBelow?_succ (n : Nat) (p : Nat → Bool) :
    lastBelow? (n + 1) p = if p n then some n else lastBelow? n p := by
  rw [lastBelow?, List.range_succ, List.reverse_append, List.reverse_singleton,
    List.singleton_append]
  cases h : p n <;> simp [h, lastBelow?]

lemma lt_of_lastBelow?_eq_some (h : lastBelow? n p = some d) : d < n := by
  simpa using List.mem_of_find?_eq_some h

lemma lastBelow?_eq_none (h : ∀ k < n, p k = false) : lastBelow? n p = none := by
  rw [lastBelow?, List.find?_eq_none]
  intro k hk
  simpa using h k (by simpa using hk)

/-- Comment lines are counted token by token. -/
lemma commentLinesOf_append_singleton (ts : List Token) (t : Token) :
    commentLinesOf (ts ++ [t]) =
      commentLinesOf ts + if t.kind.isComment then LineCount.ofComment t.text else 0 := by
  induction ts with
  | nil => simp [commentLinesOf]
  | cons u us ih =>
    rw [List.cons_append, commentLinesOf, ih, commentLinesOf]
    omega

/-- A mask is around a token. -/
lemma isMaskedAt_eq_true :
    isMaskedAt tokens k = true ↔ ∃ m ≤ k, isMask tokens m = true ∧ k ≤ lastIndex tokens m := by
  rw [isMaskedAt, List.any_eq_true]
  simp only [List.mem_range, Nat.lt_succ_iff, Bool.and_eq_true, decide_eq_true_eq]

/-! ### Entries along a run -/

/-- A token that declares nothing for an entry leaves it as it is. -/
lemma EntryAgrees.skip {kind : ContainerKind} {name : String} {entry : Option Container}
    (h : EntryAgrees tokens n kind name entry) (hn : declares tokens kind name n = false)
    (hm : ∀ d m, declaresMethod tokens kind name d m n = false) :
    EntryAgrees tokens (n + 1) kind name entry := by
  unfold EntryAgrees at h ⊢
  simpa [lastBelow?_succ, hn, hm] using h

/-- A declared container starts its entry afresh. -/
lemma entryAgrees_containerAt (hn : isContainer tokens n = true) :
    EntryAgrees tokens (n + 1) (containerAt tokens n).kind (containerAt tokens n).name
      (some (containerAt tokens n)) := by
  have hdeclares : declares tokens (containerAt tokens n).kind (containerAt tokens n).name n =
      true := by
    rw [declares, Pass.namedContainer?_eq hn]
    exact decide_eq_true rfl
  rw [EntryAgrees, lastBelow?_succ, if_pos hdeclares]
  refine ⟨_, rfl, rfl, fun m => ?_⟩
  rw [lastBelow?_eq_none fun k hk => ?_]
  · rfl
  · have hno : ¬n < k := by omega
    simp [declaresMethod, hno]

/-- A function is filed under its own name. -/
lemma name_functionAt_of_filedName? {m : String} (h : filedName? tokens k = some m) :
    (functionAt tokens k).name = some m := by
  unfold filedName? at h
  split at h
  · exact h
  · cases h

/-- A method joins the entry of its owner. -/
lemma EntryAgrees.addMethod {kind : ContainerKind} {name m : String} {entry : Option Container}
    (h : EntryAgrees tokens n kind name entry) (hn : isContainer tokens n = false)
    (hfiled : filedName? tokens n = some m)
    (howner : (owner? tokens n).bind (namedContainer? tokens) = some (kind, name)) :
    EntryAgrees tokens (n + 1) kind name (entry.map (·.addMethod (functionAt tokens n))) := by
  have hname := name_functionAt_of_filedName? hfiled
  have hnot : declares tokens kind name n = false := by
    have : namedContainer? tokens n = none := Option.not_isSome_iff_eq_none.1 (by
      rw [← isContainer, hn]
      exact Bool.false_ne_true)
    simp [declares, this]
  unfold EntryAgrees at h ⊢
  rw [lastBelow?_succ, if_neg (by rw [hnot]; exact Bool.false_ne_true)]
  cases hd : lastBelow? n (declares tokens kind name) with
  | none =>
    rw [hd] at h
    obtain rfl : entry = none := h
    rfl
  | some d =>
    rw [hd] at h
    obtain ⟨c, rfl, hhead, hmethods⟩ := h
    refine ⟨_, rfl, (c.head_addMethod _).trans hhead, fun m' => ?_⟩
    have hdn := lt_of_lastBelow?_eq_some hd
    rw [c.getElem?_methods_addMethod hname, lastBelow?_succ, hmethods]
    by_cases hm : m = m' <;> simp [declaresMethod, hdn, hfiled, howner, hm]

end Declaration

namespace Pass

open Declaration

variable {path : Option String} {tokens : List Token} {k n : Nat}

/-- What is filed when a token of a run is handled, in terms of the declarations around it. -/
lemma outline_visited (path : Option String) (hk : k < (reached tokens).length) :
    (visited path tokens k).outline =
      let o := (before path tokens k).outline
      if isContainer tokens k then o.addContainer (containerAt tokens k)
      else
        match filedName? tokens k, owner? tokens k with
        | none, _ => o
        | some _, some c =>
          o.addMethod (containerAt tokens c).kind (containerAt tokens c).name (functionAt tokens k)
        | some name, none =>
          o.addFunction (qualify (namespaceAt tokens k) name) (functionAt tokens k) := by
  have htoken := List.getElem?_eq_getElem hk
  have hmasked : (visited path tokens k).tracker.isMasked k = isMaskedAt tokens k := by
    rw [Bool.eq_iff_iff, isMasked_visited path hk, isMaskedAt_eq_true]
  have hfiled := outline_visit path (before path tokens k) htoken
  dsimp only at hfiled
  rw [← visited_eq htoken, hmasked, container_visited path hk, ← owner?] at hfiled
  rw [hfiled, filedName?]
  cases isContainer tokens k with
  | true => rfl
  | false =>
    cases isFunction tokens k && !isMaskedAt tokens k with
    | false => rfl
    | true =>
      cases (functionAt tokens k).name with
      | none => rfl
      | some name => cases owner? tokens k <;> rfl

/-- The owner of a token is a named container. -/
lemma namedContainer?_of_owner? {c : Nat} (h : owner? tokens k = some c) :
    namedContainer? tokens c = some ((containerAt tokens c).kind, (containerAt tokens c).name) :=
  namedContainer?_eq (outermost?_eq_some.1 h).2.1

/-- A token that declares no function is not filed as one. -/
lemma filedName?_eq_none (h : isFunction tokens k = false) : filedName? tokens k = none := by
  simp [filedName?, h]

/-- No token declares both a container and a function. -/
lemma isFunction_of_isContainer (hk : k < (reached tokens).length)
    (h : isContainer tokens k = true) : isFunction tokens k = false := by
  have htoken := List.getElem?_eq_getElem hk
  have houtcome := outcome_visit none {} htoken
  generalize visit none tokens {} k (reached tokens)[k] = s' at houtcome
  cases houtcome with
  | container _ _ noFunction => exact noFunction
  | anonymous noContainer => rw [h] at noContainer; cases noContainer
  | enumeration _ noContainer => rw [h] at noContainer; cases noContainer
  | function noContainer => rw [h] at noContainer; cases noContainer
  | nothing noContainer => rw [h] at noContainer; cases noContainer

/-- The entries of the outline along a run. -/
lemma entryAgrees_before (path : Option String) (hn : n ≤ (reached tokens).length)
    (kind : ContainerKind) (name : String) :
    EntryAgrees tokens n kind name ((before path tokens n).outline.ofKind kind)[name]? := by
  induction n with
  | zero => cases kind <;> rfl
  | succ n ih =>
    have ih := ih (Nat.le_of_succ_le hn)
    have houtline : (before path tokens (n + 1)).outline = (visited path tokens n).outline := by
      rw [before_succ hn]
      rfl
    rw [houtline, outline_visited path hn]
    dsimp only
    by_cases hcontainer : isContainer tokens n = true
    · rw [if_pos hcontainer, Outline.getElem?_ofKind_addContainer]
      split
      · next heq =>
        obtain ⟨rfl, rfl⟩ := heq
        exact entryAgrees_containerAt hcontainer
      · next hne =>
        refine ih.skip ?_ fun d m => ?_
        · simpa [declares, namedContainer?_eq hcontainer] using hne
        · simp [declaresMethod, filedName?_eq_none (isFunction_of_isContainer hn hcontainer)]
    · rw [if_neg hcontainer]
      have hno : declares tokens kind name n = false := by
        rw [declares, decide_eq_false_iff_not]
        intro heq
        exact hcontainer (Option.isSome_iff_exists.2 ⟨_, heq⟩)
      cases hfiled : filedName? tokens n with
      | none => exact ih.skip hno fun d m => by simp [declaresMethod, hfiled]
      | some m =>
        cases howner : owner? tokens n with
        | none =>
          dsimp only
          rw [Outline.ofKind_addFunction]
          exact ih.skip hno fun d m => by simp [declaresMethod, howner]
        | some c =>
          have hnamed := namedContainer?_of_owner? howner
          dsimp only
          rw [Outline.getElem?_ofKind_addMethod]
          split
          · next heq =>
            obtain ⟨rfl, rfl⟩ := heq
            exact ih.addMethod (by simpa using hcontainer) hfiled (by rw [howner]; exact hnamed)
          · next hne =>
            refine ih.skip hno fun d m => ?_
            simp [declaresMethod, howner, hnamed, hne]

/-- The free functions of the outline along a run. -/
lemma getElem?_functions_before (path : Option String) (hn : n ≤ (reached tokens).length)
    (key : String) :
    (before path tokens n).outline.functions[key]? =
      (lastBelow? n (declaresFree tokens key)).map (functionAt tokens) := by
  induction n with
  | zero => rfl
  | succ n ih =>
    have ih := ih (Nat.le_of_succ_le hn)
    have houtline : (before path tokens (n + 1)).outline = (visited path tokens n).outline := by
      rw [before_succ hn]
      rfl
    rw [houtline, outline_visited path hn, lastBelow?_succ]
    dsimp only
    by_cases hcontainer : isContainer tokens n = true
    · have hfiled := filedName?_eq_none (isFunction_of_isContainer hn hcontainer)
      simpa [hcontainer, declaresFree, hfiled] using ih
    · rw [if_neg hcontainer]
      cases hfiled : filedName? tokens n with
      | none => simpa [declaresFree, hfiled] using ih
      | some m =>
        cases howner : owner? tokens n with
        | some c => simpa [declaresFree, howner] using ih
        | none =>
          dsimp only
          rw [Outline.getElem?_functions_addFunction, ih]
          by_cases hkey : qualify (namespaceAt tokens n) m = key <;>
            simp [declaresFree, howner, hfiled, hkey]

/-- The comment lines counted along a run. -/
lemma commentLines_before (path : Option String) (hn : n ≤ (reached tokens).length) :
    (before path tokens n).commentLines = commentLinesOf ((reached tokens).take n) := by
  induction n with
  | zero => rfl
  | succ n ih =>
    have htoken := List.getElem?_eq_getElem (Nat.lt_of_succ_le hn)
    have hstep : (before path tokens (n + 1)).commentLines =
        (visited path tokens n).commentLines := by
      rw [before_succ hn]
      rfl
    rw [hstep, visited_eq htoken, commentLines_visit _ _ htoken, ih (Nat.le_of_succ_le hn),
      List.take_succ_eq_append_getElem hn, commentLinesOf_append_singleton]

/-- **The pass builds the reference outline.**  Under every kind and name stands the container of
the last declaration of that kind and name, with the methods filed behind it; under every key stands
the last free function with that key; and the lines are counted up to the halting word. -/
theorem outline_eq_reference (path : Option String) (tokens : List Token) :
    let o := (Analysis.ofTokens path tokens).outline
    let n := (reached tokens).length
    (∀ kind name, EntryAgrees tokens n kind name (o.ofKind kind)[name]?) ∧
      (∀ key, o.functions[key]? =
        (lastBelow? n (declaresFree tokens key)).map (functionAt tokens)) ∧
      o.lines =
        LineCount.ofFile tokens (commentLinesOf (reached tokens)) (haltLine? tokens) := by
  have hend := le_refl (reached tokens).length
  have hlines := commentLines_before path hend
  rw [List.take_length] at hlines
  refine ⟨fun kind name => ?_, fun key => ?_, ?_⟩
  · have hentry := entryAgrees_before path hend kind name
    rw [← run_eq_before] at hentry
    cases kind <;> exact hentry
  · have hfunctions := getElem?_functions_before path hend key
    rw [← run_eq_before] at hfunctions
    exact hfunctions
  · rw [← hlines, ← run_eq_before]
    rfl

end Pass

end PhpOutline
