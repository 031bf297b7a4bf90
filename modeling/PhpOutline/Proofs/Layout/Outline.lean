import Mathlib.Data.List.Basic
import PhpOutline.Proofs.Layout.Lookahead
import PhpOutline.Proofs.Layout.Stream
import PhpOutline.Proofs.Outline.Entry

/-!
# Layout does not matter

Streams with the same layout have outlines that are alike (`outline_alike_of_layout_eq`): the same
containers, methods and free functions, which agree in all that is read off the tokens except doc
comments, signatures and lines.

What a token declares is told by readings that agree at twins.  White space declares nothing, so
that searches for declarations, from the first on or from the last, find twins (`outermost?_twin`,
`lastBelow?_twin`).
-/

namespace PhpOutline

open Declaration

variable {tokens tokens' : List Token} {i i' d d' : Nat}

/-! ### What twins declare -/

namespace Twin

lemma any_previous?_eq (h : Twin tokens tokens' i i') (k : Kind) :
    (previous? tokens i).any (·.kind = k) = (previous? tokens' i').any (·.kind = k) := by
  have hkind := congrArg (Option.any (· = k)) h.map_kind_previous?
  simpa only [Option.any_map] using hkind

lemma any_reached_eq (h : Twin tokens tokens' i i') (halign : Aligned tokens tokens')
    (k : Kind) :
    (Pass.reached tokens)[i]?.any (·.kind = k) = (Pass.reached tokens')[i']?.any (·.kind = k) := by
  have hkind := congrArg (Option.any (· = k)) (h.map_kind_reached halign)
  simpa only [Option.any_map] using hkind

lemma containerKind?_eq (h : Twin tokens tokens' i i') (halign : Aligned tokens tokens') :
    containerKind? tokens i = containerKind? tokens' i' := by
  have hkind := congrArg (Option.bind · ContainerKind.ofKind?) (h.map_kind_reached halign)
  simp only [Option.bind_map, Function.comp_def] at hkind
  rw [containerKind?, containerKind?, h.any_previous?_eq, hkind]

lemma nextIdentifier?_eq (h : Twin tokens tokens' i i') (halign : Aligned tokens tokens') :
    nextIdentifier? tokens i = nextIdentifier? tokens' i' := by
  obtain ⟨t, u, ht, hu, -⟩ := h.agree
  have hname := h.containerName? halign
  rw [← containerName?_map_fst ht, ← containerName?_map_fst hu]
  generalize Declaration.containerName? tokens i = n,
    Declaration.containerName? tokens' i' = n' at hname ⊢
  cases hname with
  | none => rfl
  | some same => exact congrArg some same.1

lemma namedContainer?_eq (h : Twin tokens tokens' i i') (halign : Aligned tokens tokens') :
    namedContainer? tokens i = namedContainer? tokens' i' := by
  rw [namedContainer?, namedContainer?, h.containerKind?_eq halign, h.nextIdentifier?_eq halign]

lemma isContainer_eq (h : Twin tokens tokens' i i') (halign : Aligned tokens tokens') :
    isContainer tokens i = isContainer tokens' i' := by
  rw [isContainer, isContainer, h.namedContainer?_eq halign]

lemma isMask_eq (h : Twin tokens tokens' i i') (halign : Aligned tokens tokens') :
    isMask tokens i = isMask tokens' i' := by
  rw [isMask, isMask, h.any_reached_eq halign, h.containerKind?_eq halign,
    h.nextIdentifier?_eq halign]

lemma isFunction_eq (h : Twin tokens tokens' i i') (halign : Aligned tokens tokens') :
    isFunction tokens i = isFunction tokens' i' := by
  rw [isFunction, isFunction, h.any_reached_eq halign, h.any_previous?_eq]

end Twin

/-! ### Searches for declarations -/

/-- The condition picks out no white space. -/
def PicksWords (tokens : List Token) (p : Nat → Bool) : Prop :=
  ∀ i, p i = true → ∃ t, tokens[i]? = some t ∧ t.kind.isWhitespace = false

/-- The conditions agree at twins and pick out no white space. -/
structure SamePick (tokens tokens' : List Token) (p p' : Nat → Bool) : Prop where
  left : PicksWords tokens p
  right : PicksWords tokens' p'
  eq : ∀ {i i' : Nat}, Twin tokens tokens' i i' → p i = p' i'

namespace SamePick

variable {p p' : Nat → Bool} {k k' : Nat}

lemma symm (h : SamePick tokens tokens' p p') : SamePick tokens' tokens p' p :=
  ⟨h.right, h.left, fun htwin => (h.eq htwin.symm).symm⟩

lemma exists_twin (h : SamePick tokens tokens' p p') (halign : Aligned tokens tokens')
    (hi : p i = true) : ∃ i', Twin tokens tokens' i i' ∧ p' i' = true := by
  obtain ⟨t, ht, hword⟩ := h.left i hi
  obtain ⟨i', htwin⟩ := PhpOutline.exists_twin halign ht hword
  exact ⟨i', htwin, h.eq htwin ▸ hi⟩

/-- The outermost declarations around twins are twins. -/
lemma outermost?_twin (h : SamePick tokens tokens' p p') (halign : Aligned tokens tokens')
    (hk : Twin tokens tokens' k k') :
    Option.Rel (Twin tokens tokens') (outermost? tokens p k) (outermost? tokens' p' k') := by
  -- a declaration that ends before `k'` has a twin that ends before `k`
  have hends : ∀ {j j' : Nat}, Twin tokens tokens' j j' → lastIndex tokens j < k →
      lastIndex tokens' j' < k' := fun htwin => ((htwin.lastIndex halign).lt_iff_lt hk).1
  cases hfound : outermost? tokens p k with
  | none =>
    rw [outermost?_eq_none] at hfound
    have hfound' : outermost? tokens' p' k' = none := by
      rw [outermost?_eq_none]
      intro i' hi' hpi'
      obtain ⟨i, htwin, hpi⟩ := h.symm.exists_twin halign.symm hpi'
      exact hends htwin.symm (hfound i ((htwin.symm.le_iff_le hk).2 hi') hpi)
    rw [hfound']
    exact .none
  | some i =>
    obtain ⟨hik, hpi, hki, hfirst⟩ := outermost?_eq_some.1 hfound
    obtain ⟨i', htwin, hpi'⟩ := h.exists_twin halign hpi
    have hfound' : outermost? tokens' p' k' = some i' := by
      refine outermost?_eq_some.2 ⟨(htwin.le_iff_le hk).1 hik, hpi',
        (hk.le_iff_le (htwin.lastIndex halign)).1 hki, fun j' hj' hpj' => ?_⟩
      obtain ⟨j, htwinj, hpj⟩ := h.symm.exists_twin halign.symm hpj'
      exact hends htwinj.symm (hfirst j ((htwinj.symm.lt_iff_lt htwin).2 hj') hpj)
    rw [hfound']
    exact .some htwin

/-- The last declarations that the pass reaches are twins. -/
lemma lastBelow?_twin (h : SamePick tokens tokens' p p') (halign : Aligned tokens tokens') :
    Option.Rel (Twin tokens tokens') (lastBelow? (Pass.reached tokens).length p)
      (lastBelow? (Pass.reached tokens').length p') := by
  cases hfound : lastBelow? (Pass.reached tokens).length p with
  | none =>
    have hfound' : lastBelow? (Pass.reached tokens').length p' = none := by
      refine lastBelow?_eq_none fun i' hi' => ?_
      rw [Bool.eq_false_iff]
      intro hpi'
      obtain ⟨i, htwin, hpi⟩ := h.symm.exists_twin halign.symm hpi'
      have hi := htwin.reached_of_reached halign.symm hi'
      rw [lastBelow?, List.find?_eq_none] at hfound
      exact hfound i (by simpa using hi) hpi
    rw [hfound']
    exact .none
  | some i =>
    obtain ⟨hi, hpi, hlast⟩ := lastBelow?_eq_some.1 hfound
    obtain ⟨i', htwin, hpi'⟩ := h.exists_twin halign hpi
    have hfound' : lastBelow? (Pass.reached tokens').length p' = some i' := by
      refine lastBelow?_eq_some.2 ⟨htwin.reached_of_reached halign hi, hpi', fun j' hj' hij' => ?_⟩
      rw [Bool.eq_false_iff]
      intro hpj'
      obtain ⟨j, htwinj, hpj⟩ := h.symm.exists_twin halign.symm hpj'
      have hj := htwinj.reached_of_reached halign.symm hj'
      rw [hlast j hj ((htwin.lt_iff_lt htwinj.symm).2 hij')] at hpj
      cases hpj
    rw [hfound']
    exact .some htwin

end SamePick

/-- A token with a kind of its own is not white space. -/
lemma exists_word_of_reached {q : Kind → Bool} (hq : q .whitespace = false)
    (h : (Pass.reached tokens)[i]?.any (fun t => q t.kind) = true) :
    ∃ t, tokens[i]? = some t ∧ t.kind.isWhitespace = false := by
  obtain ⟨t, ht, hkind⟩ := (Option.any_eq_true _ _).1 h
  refine ⟨t, getElem?_of_reached ht, Bool.eq_false_iff.2 fun space => ?_⟩
  rw [Kind.eq_whitespace space, hq] at hkind
  cases hkind

lemma exists_word_of_containerKind? (h : (containerKind? tokens i).isSome = true) :
    ∃ t, tokens[i]? = some t ∧ t.kind.isWhitespace = false := by
  refine exists_word_of_reached (q := fun k => (ContainerKind.ofKind? k).isSome) rfl ?_
  unfold containerKind? at h
  split at h
  · cases h
  · cases hi : (Pass.reached tokens)[i]? <;> simp_all

/-- A named container has a kind and a name. -/
lemma exists_of_isContainer (h : isContainer tokens i = true) :
    ∃ kind name, containerKind? tokens i = some kind ∧ nextIdentifier? tokens i = some name := by
  obtain ⟨⟨kind, name⟩, hnamed⟩ := Option.isSome_iff_exists.1 h
  obtain ⟨_, hkind, hname⟩ := Option.bind_eq_some_iff.1 hnamed
  obtain ⟨_, hname, -⟩ := Option.map_eq_some_iff.1 hname
  exact ⟨_, _, hkind, hname⟩

lemma picksWords_isContainer : PicksWords tokens (isContainer tokens) := by
  intro i hi
  obtain ⟨kind, -, hkind, -⟩ := exists_of_isContainer hi
  exact exists_word_of_containerKind? (by rw [hkind]; rfl)

lemma picksWords_isMask : PicksWords tokens (isMask tokens) := by
  intro i hi
  rcases Bool.or_eq_true_iff.1 hi with henum | hanonymous
  · exact exists_word_of_reached (q := fun k => k = .kwEnum) rfl henum
  · exact exists_word_of_containerKind? (Bool.and_eq_true_iff.1 hanonymous).1

lemma picksWords_isFunction : PicksWords tokens (isFunction tokens) := by
  intro i hi
  exact exists_word_of_reached (q := fun k => k = .kwFunction) rfl (Bool.and_eq_true_iff.1 hi).1

/-! ### Functions and containers at twins -/

namespace Twin

lemma owner?_twin (h : Twin tokens tokens' i i') (halign : Aligned tokens tokens') :
    Option.Rel (Twin tokens tokens') (owner? tokens i) (owner? tokens' i') :=
  SamePick.outermost?_twin ⟨picksWords_isContainer, picksWords_isContainer,
    fun htwin => htwin.isContainer_eq halign⟩ halign h

lemma isMaskedAt_of_isMaskedAt (h : Twin tokens tokens' i i') (halign : Aligned tokens tokens')
    (hi : isMaskedAt tokens i = true) : isMaskedAt tokens' i' = true := by
  have hpick : SamePick tokens tokens' (isMask tokens) (isMask tokens') :=
    ⟨picksWords_isMask, picksWords_isMask, fun htwin => htwin.isMask_eq halign⟩
  obtain ⟨m, hmi, hmask, him⟩ := isMaskedAt_eq_true.1 hi
  obtain ⟨m', htwin, hmask'⟩ := hpick.exists_twin halign hmask
  exact isMaskedAt_eq_true.2 ⟨m', (htwin.le_iff_le h).1 hmi, hmask',
    (h.le_iff_le (htwin.lastIndex halign)).1 him⟩

lemma isMaskedAt_eq (h : Twin tokens tokens' i i') (halign : Aligned tokens tokens') :
    isMaskedAt tokens i = isMaskedAt tokens' i' :=
  Bool.eq_iff_iff.2
    ⟨h.isMaskedAt_of_isMaskedAt halign, h.symm.isMaskedAt_of_isMaskedAt halign.symm⟩

lemma name_functionAt_eq (h : Twin tokens tokens' i i') (halign : Aligned tokens tokens') :
    (functionAt tokens i).name = (functionAt tokens' i').name := by
  have hname := h.functionName? halign
  rw [functionAt, functionAt, function, function]
  generalize Declaration.functionName? tokens i = n,
    Declaration.functionName? tokens' i' = n' at hname ⊢
  cases hname with
  | none => rfl
  | some same => exact congrArg some same.1

lemma filedName?_eq (h : Twin tokens tokens' i i') (halign : Aligned tokens tokens') :
    filedName? tokens i = filedName? tokens' i' := by
  rw [filedName?, filedName?, h.isFunction_eq halign, h.isMaskedAt_eq halign,
    h.name_functionAt_eq halign]

/-- The names of containers declared at twins stand at twins. -/
lemma exists_name (h : Twin tokens tokens' i i') (halign : Aligned tokens tokens')
    (hi : isContainer tokens i = true) :
    ∃ name n n', Declaration.containerName? tokens i = some (name, n) ∧
      Declaration.containerName? tokens' i' = some (name, n') ∧ Twin tokens tokens' n n' := by
  obtain ⟨t, -, ht, -⟩ := h.agree
  obtain ⟨-, name, -, hnext⟩ := exists_of_isContainer hi
  have hname := h.containerName? halign
  rw [← containerName?_map_fst ht] at hnext
  generalize Declaration.containerName? tokens i = n,
    Declaration.containerName? tokens' i' = n' at hname hnext ⊢
  cases hname with
  | none => cases hnext
  | @some n n' same =>
    obtain ⟨text, n⟩ := n
    obtain ⟨text', n'⟩ := n'
    obtain ⟨rfl, htwin⟩ := same
    exact ⟨text, n, n', rfl, rfl, htwin⟩

end Twin

/-! ### Filed declarations -/

lemma samePick_declares (halign : Aligned tokens tokens') (kind : ContainerKind) (name : String) :
    SamePick tokens tokens' (declares tokens kind name) (declares tokens' kind name) := by
  have hwords : ∀ tokens, PicksWords tokens (declares tokens kind name) := by
    intro tokens i hi
    refine picksWords_isContainer i ?_
    rw [isContainer, declares_eq_true.1 hi]
    rfl
  refine ⟨hwords tokens, hwords tokens', fun htwin => ?_⟩
  rw [declares, declares, htwin.namedContainer?_eq halign]

lemma samePick_declaresMethod (halign : Aligned tokens tokens') (hd : Twin tokens tokens' d d')
    (kind : ContainerKind) (name m : String) :
    SamePick tokens tokens' (declaresMethod tokens kind name d m)
      (declaresMethod tokens' kind name d' m) := by
  have hwords : ∀ tokens d, PicksWords tokens (declaresMethod tokens kind name d m) := by
    intro tokens d i hi
    obtain ⟨-, hfiled, -⟩ := declaresMethod_eq_true.1 hi
    exact picksWords_isFunction i (isFunction_of_filedName? hfiled)
  refine ⟨hwords tokens d, hwords tokens' d', fun {i i'} htwin => ?_⟩
  have howner : (owner? tokens i).bind (namedContainer? tokens) =
      (owner? tokens' i').bind (namedContainer? tokens') := by
    have howner := htwin.owner?_twin halign
    generalize owner? tokens i = c, owner? tokens' i' = c' at howner ⊢
    cases howner with
    | none => rfl
    | some htwin => exact htwin.namedContainer?_eq halign
  rw [declaresMethod, declaresMethod, htwin.filedName?_eq halign, howner,
    decide_eq_decide.2 (hd.lt_iff_lt htwin)]

lemma samePick_declaresFree (halign : Relaid tokens tokens') (key : String) :
    SamePick tokens tokens' (declaresFree tokens key) (declaresFree tokens' key) := by
  have hwords : ∀ tokens, PicksWords tokens (declaresFree tokens key) := by
    intro tokens i hi
    obtain ⟨m, hfiled, -⟩ := Option.map_eq_some_iff.1
      (of_decide_eq_true (Bool.and_eq_true_iff.1 hi).2)
    exact picksWords_isFunction i (isFunction_of_filedName? hfiled)
  refine ⟨hwords tokens, hwords tokens', fun {i i'} htwin => ?_⟩
  have howner : (owner? tokens i).isNone = (owner? tokens' i').isNone := by
    have howner := htwin.owner?_twin halign.aligned
    generalize owner? tokens i = c, owner? tokens' i' = c' at howner ⊢
    cases howner <;> rfl
  rw [declaresFree, declaresFree, howner, htwin.filedName?_eq halign.aligned,
    htwin.namespaceAt_eq halign]

/-! ### Outlines that differ in layout -/

/-- The functions agree in all that does not depend on layout. -/
structure FunctionSymbol.Alike (f g : FunctionSymbol) : Prop where
  name : f.name = g.name
  modifiers : f.modifiers = g.modifiers
  visibility : f.visibility = g.visibility
  complexity : f.complexity = g.complexity

/-- The containers agree in all that does not depend on layout. -/
structure Container.Alike (c d : Container) : Prop where
  name : c.name = d.name
  kind : c.kind = d.kind
  parent : c.parent = d.parent
  interfaces : c.interfaces = d.interfaces
  modifiers : c.modifiers = d.modifiers
  namespaceName : c.package.namespaceName = d.package.namespaceName
  methods : ∀ m : String, Option.Rel FunctionSymbol.Alike c.methods[m]? d.methods[m]?

/-- The outlines have the same containers and free functions, and these agree in all that does not
depend on layout. -/
structure Outline.Alike (o p : Outline) : Prop where
  containers : ∀ (kind : ContainerKind) (name : String),
    Option.Rel Container.Alike (o.ofKind kind)[name]? (p.ofKind kind)[name]?
  functions : ∀ key : String, Option.Rel FunctionSymbol.Alike o.functions[key]? p.functions[key]?

lemma Twin.functionAt_alike (h : Twin tokens tokens' i i') (halign : Aligned tokens tokens') :
    (functionAt tokens i).Alike (functionAt tokens' i') where
  name := h.name_functionAt_eq halign
  modifiers := h.modifiers_eq
  visibility := h.visibility?_eq
  complexity := h.complexity_eq (h.lastIndex halign) (le_lastIndex tokens i)

/-- The last functions that satisfy conditions which agree at twins. -/
lemma SamePick.functionAt_alike {p p' : Nat → Bool} (h : SamePick tokens tokens' p p')
    (halign : Aligned tokens tokens') :
    Option.Rel FunctionSymbol.Alike
      ((lastBelow? (Pass.reached tokens).length p).map (functionAt tokens))
      ((lastBelow? (Pass.reached tokens').length p').map (functionAt tokens')) := by
  have hlast := h.lastBelow?_twin halign
  generalize lastBelow? (Pass.reached tokens).length p = k,
    lastBelow? (Pass.reached tokens').length p' = k' at hlast ⊢
  cases hlast with
  | none => exact .none
  | some htwin => exact .some (htwin.functionAt_alike halign)

lemma Declaration.containerAt_eq {t : Token} {name : String} {n : Nat}
    (ht : tokens[d]? = some t) (hname : containerName? tokens d = some (name, n)) :
    containerAt tokens d =
      container tokens d t ((ContainerKind.ofKind? t.kind).getD default) name n := by
  rw [containerAt, ht, hname]
  rfl

/-- Functions declared at twins, with the same doc comments, are the same up to their signatures and
lines. -/
lemma Twin.functionAt_eq_of_docblock? (h : Twin tokens tokens' i i')
    (halign : Aligned tokens tokens') (hdoc : docblock? tokens i = docblock? tokens' i') :
    functionAt tokens i =
      { functionAt tokens' i' with
        signature := (functionAt tokens i).signature
        startLine := (functionAt tokens i).startLine
        endLine := (functionAt tokens i).endLine } := by
  have hname := h.name_functionAt_eq halign
  rw [functionAt, functionAt] at hname ⊢
  dsimp only [function] at hname ⊢
  rw [hname, hdoc, h.modifiers_eq, h.visibility?_eq,
    h.complexity_eq (h.lastIndex halign) (le_lastIndex tokens i)]

/-- Functions declared at twins on the same lines, with the same doc comments, are the same up to
their signatures. -/
lemma Twin.functionAt_eq {t u : Token} (h : Twin tokens tokens' i i')
    (halign : Aligned tokens tokens') (ht : tokens[i]? = some t) (hu : tokens'[i']? = some u)
    (hline : t.line = u.line) (hdoc : docblock? tokens i = docblock? tokens' i')
    (hend : endLine tokens i t = endLine tokens' i' u) :
    functionAt tokens i =
      { functionAt tokens' i' with signature := (functionAt tokens i).signature } := by
  have hstart' : (functionAt tokens i).startLine = (functionAt tokens' i').startLine := by
    rw [functionAt, functionAt, ht, hu]
    exact hline
  have hend' : (functionAt tokens i).endLine = (functionAt tokens' i').endLine := by
    rw [functionAt, functionAt, ht, hu]
    exact hend
  exact (h.functionAt_eq_of_docblock? halign hdoc).trans (by rw [hstart', hend'])

/-- Containers declared at twins, with the same doc comments, are the same up to their lines. -/
lemma Twin.containerAt_eq_of_docblock? (h : Twin tokens tokens' d d')
    (halign : Relaid tokens tokens') (hd : isContainer tokens d = true)
    (hdoc : docblock? tokens d = docblock? tokens' d') :
    containerAt tokens d =
      { containerAt tokens' d' with
        startLine := (containerAt tokens d).startLine
        endLine := (containerAt tokens d).endLine } := by
  obtain ⟨name, n, n', hname, hname', hn⟩ := h.exists_name halign.aligned hd
  obtain ⟨t, u, ht, hu, hagrees, -⟩ := h.agree
  rw [Declaration.containerAt_eq ht hname, Declaration.containerAt_eq hu hname', hagrees.1]
  dsimp only [container]
  rw [hdoc, hn.parent?_eq halign, hn.interfaces?_eq halign, h.modifiers_eq,
    h.namespaceAt_eq halign]

/-- Containers declared at twins on the same lines, with the same doc comments, are the same. -/
lemma Twin.containerAt_eq {t u : Token} (h : Twin tokens tokens' d d')
    (halign : Relaid tokens tokens') (hd : isContainer tokens d = true)
    (ht : tokens[d]? = some t) (hu : tokens'[d']? = some u) (hline : t.line = u.line)
    (hdoc : docblock? tokens d = docblock? tokens' d')
    (hend : endLine tokens d t = endLine tokens' d' u) :
    containerAt tokens d = containerAt tokens' d' := by
  have hstart' : (containerAt tokens d).startLine = (containerAt tokens' d').startLine := by
    rw [containerAt, containerAt, ht, hu]
    exact hline
  have hend' : (containerAt tokens d).endLine = (containerAt tokens' d').endLine := by
    rw [containerAt, containerAt, ht, hu]
    exact hend
  exact (h.containerAt_eq_of_docblock? halign hd hdoc).trans (by rw [hstart', hend'])

namespace AgreeInPlace

/-- What is declared at twins starts and ends on the same lines, if tokens with the same index stand
on the same line. -/
lemma lines_eq {t u : Token} (h : AgreeInPlace tokens tokens')
    (hlines : tokens.map (·.line) = tokens'.map (·.line)) (hi : Twin tokens tokens' i i)
    (ht : tokens[i]? = some t) (hu : tokens'[i]? = some u) :
    t.line = u.line ∧ endLine tokens i t = endLine tokens' i u := by
  have hline : ∀ j : Nat, tokens[j]?.map (·.line) = tokens'[j]?.map (·.line) := by
    intro j
    rw [← List.getElem?_map, hlines, List.getElem?_map]
  have hstart : t.line = u.line := by simpa [ht, hu] using hline i
  refine ⟨hstart, ?_⟩
  rw [endLine, endLine, hline, hstart, h.eq_of_twin (hi.lastIndex h.relaid.aligned)]

/-- A function is the same up to its signature, if its doc comment is. -/
lemma functionAt_eq (h : AgreeInPlace tokens tokens')
    (hlines : tokens.map (·.line) = tokens'.map (·.line)) (hi : Twin tokens tokens' i i)
    (hdoc : docblock? tokens i = docblock? tokens' i) :
    functionAt tokens i =
      { functionAt tokens' i with signature := (functionAt tokens i).signature } := by
  obtain ⟨t, u, ht, hu, -⟩ := hi.agree
  obtain ⟨hline, hend⟩ := h.lines_eq hlines hi ht hu
  exact hi.functionAt_eq h.relaid.aligned ht hu hline hdoc hend

/-- A container is the same, if its doc comment is. -/
lemma containerAt_eq (h : AgreeInPlace tokens tokens')
    (hlines : tokens.map (·.line) = tokens'.map (·.line)) (hd : Twin tokens tokens' d d)
    (hcontainer : isContainer tokens d = true)
    (hdoc : docblock? tokens d = docblock? tokens' d) :
    containerAt tokens d = containerAt tokens' d := by
  obtain ⟨t, u, ht, hu, -⟩ := hd.agree
  obtain ⟨hline, hend⟩ := h.lines_eq hlines hd ht hu
  exact hd.containerAt_eq h.relaid hcontainer ht hu hline hdoc hend

end AgreeInPlace

/-- Containers declared at twins are alike, if their methods are. -/
lemma Twin.container_alike {c c' : Container} (h : Twin tokens tokens' d d')
    (halign : Relaid tokens tokens') (hd : isContainer tokens d = true)
    (hc : c.head = containerAt tokens d) (hc' : c'.head = containerAt tokens' d')
    (hmethods : ∀ m : String, Option.Rel FunctionSymbol.Alike c.methods[m]? c'.methods[m]?) :
    c.Alike c' := by
  obtain ⟨name, n, n', hname, hname', htwin⟩ := h.exists_name halign.aligned hd
  obtain ⟨t, u, ht, hu, hagrees, -⟩ := h.agree
  -- what the heads agree in is what the two declarations agree in
  have hheads : ∀ {α : Type} (f : Container → α),
      f (containerAt tokens d) = f (containerAt tokens' d') → f c.head = f c'.head := by
    intro α f hf
    rw [hc, hc', hf]
  rw [Declaration.containerAt_eq ht hname, Declaration.containerAt_eq hu hname', hagrees.1]
    at hheads
  exact
    { name := hheads (·.name) rfl
      kind := hheads (·.kind) rfl
      parent := hheads (·.parent) (htwin.parent?_eq halign)
      interfaces := hheads (·.interfaces) (htwin.interfaces?_eq halign)
      modifiers := hheads (·.modifiers) h.modifiers_eq
      namespaceName := hheads (·.package.namespaceName) (h.namespaceAt_eq halign)
      methods := hmethods }

/-- Tokens that differ in layout give outlines that are alike. -/
lemma Pass.outline_ofTokens_alike (path path' : Option String) (halign : Relaid tokens tokens') :
    (Analysis.ofTokens path tokens).outline.Alike (Analysis.ofTokens path' tokens').outline := by
  constructor
  · intro kind name
    have hentry := entryAgrees_ofTokens path tokens kind name
    have hentry' := entryAgrees_ofTokens path' tokens' kind name
    have hlast := (samePick_declares halign.aligned kind name).lastBelow?_twin halign.aligned
    rw [EntryAgrees] at hentry hentry'
    generalize hd : lastBelow? (reached tokens).length (declares tokens kind name) = d,
      lastBelow? (reached tokens').length (declares tokens' kind name) = d'
      at hentry hentry' hlast
    cases hlast with
    | none =>
      rw [hentry, hentry']
      exact .none
    | @some d d' htwin =>
      obtain ⟨c, hc, hhead, hmethods⟩ := hentry
      obtain ⟨c', hc', hhead', hmethods'⟩ := hentry'
      have hcontainer : isContainer tokens d = true := by
        rw [isContainer, declares_eq_true.1 (lastBelow?_eq_some.1 hd).2.1]
        rfl
      rw [hc, hc']
      refine .some (htwin.container_alike halign hcontainer hhead hhead' fun m => ?_)
      rw [hmethods, hmethods']
      exact (samePick_declaresMethod halign.aligned htwin kind name m).functionAt_alike
        halign.aligned
  · intro key
    rw [getElem?_functions_ofTokens, getElem?_functions_ofTokens]
    exact (samePick_declaresFree halign key).functionAt_alike halign.aligned

/-- **Layout does not matter.**  A stream with the layout of one that can be analyzed can be
analyzed, and the outlines are alike. -/
theorem Analysis.outline_alike_of_layout_eq {raws raws' : List RawToken} {a : Analysis}
    (hlayout : RawToken.layout raws = RawToken.layout raws') (ha : ofRawTokens raws = .ok a) :
    ∃ a', ofRawTokens raws' = .ok a' ∧ a.outline.Alike a'.outline := by
  cases hts : Token.prepare raws with
  | error e =>
    rw [ofRawTokens, hts] at ha
    cases ha
  | ok ts =>
    rw [ofRawTokens, hts] at ha
    cases ha
    have hspells := spells_of_prepareFrom hts
    obtain ⟨us, hus, hspells'⟩ := exists_prepare_of_layout_eq hlayout hspells
    refine ⟨ofTokens none us, by rw [ofRawTokens, hus]; rfl, ?_⟩
    exact Pass.outline_ofTokens_alike none none (relaid_of_layout_eq hlayout hspells hspells')

/-- A class with a method, and the given white space between its tokens; inside the name of the
parent there is none. -/
def classStream (gap : List RawToken) : List RawToken :=
  let front : List RawToken :=
    [.named .kwAbstract "abstract", .named .kwClass "class", .named .identifier "A",
      .named .kwExtends "extends"]
  let parent : List RawToken :=
    [.named .identifier "B", .named .nsSeparator "\\", .named .identifier "C"]
  let method : List RawToken :=
    [.punctuation '{', .named .kwPublic "public", .named .kwFunction "function",
      .punctuation '&', .named .identifier "f", .punctuation '(', .punctuation '?',
      .named .identifier "int", .named .variableName "$x", .punctuation ')', .punctuation '{',
      .named .kwReturn "return", .named .variableName "$x", .punctuation '?',
      .named .lnumber "1", .punctuation ':', .named .lnumber "2", .punctuation ';',
      .punctuation '}', .punctuation '}']
  front.flatMap (· :: gap) ++ parent ++ method.flatMap (gap ++ [·])

theorem Analysis.outline_alike_classStream :
    let spread := classStream [.named .whitespace "\n\n"]
    RawToken.layout (classStream []) = RawToken.layout spread ∧
      ∃ a a', ofRawTokens (classStream []) = .ok a ∧ ofRawTokens spread = .ok a' ∧
        a.outline.Alike a'.outline := by
  intro spread
  have hlayout : RawToken.layout (classStream []) = RawToken.layout spread := by decide +kernel
  obtain ⟨ts, hts, -⟩ := Token.exists_prepareFrom (classStream []) (by decide +kernel) 0 1
  have ha : ofRawTokens (classStream []) = .ok (ofTokens none ts) := by
    rw [ofRawTokens, Token.prepare, hts]
    rfl
  obtain ⟨a', ha', halike⟩ := outline_alike_of_layout_eq hlayout ha
  exact ⟨hlayout, _, a', ha, ha', halike⟩

end PhpOutline
