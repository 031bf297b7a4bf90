import Mathlib.Data.List.Basic
import PhpOutline.Proofs.Outline.Declared

/-!
# One step of the pass

What handling one token does, said once (`outcome_visit`): the token declares a named container, a
mask or a function, or nothing at all, and in each case the new state is given outright.  The
equations for the open scopes, for the outline and for the journal follow from it, each in terms of
what the token declares.  The last section cuts a run at an index: `before` is the state before the
token with that index is handled, `visited` the state after it but before scopes are closed.
-/

namespace PhpOutline

namespace Pass

open Declaration

variable {path : Option String} {tokens : List Token} {k : Nat} {t : Token}

/-! ### The keyword and what it declares -/

/-- Before the halting word, the kind of container is read off the token itself. -/
lemma containerKind?_eq (h : (reached tokens)[k]? = some t) :
    containerKind? tokens k =
      if follows tokens k .doubleColon then none else ContainerKind.ofKind? t.kind := by
  rw [containerKind?, follows_eq_previous? (getElem?_of_reached h), h]
  rfl

/-- Before the halting word, a function is declared by its keyword unless it follows `use`. -/
lemma isFunction_eq (h : (reached tokens)[k]? = some t) :
    isFunction tokens k = (decide (t.kind = .kwFunction) && !follows tokens k .kwUse) := by
  rw [isFunction, follows_eq_previous? (getElem?_of_reached h), h]
  rfl

/-- Before the halting word, a mask is an enumeration or a container without a name. -/
lemma isMask_eq (h : (reached tokens)[k]? = some t) :
    isMask tokens k = (decide (t.kind = .kwEnum) ||
      (containerKind? tokens k).isSome && (nextIdentifier? tokens k).isNone) := by
  rw [isMask, h]
  rfl

/-- A token that is no keyword of a container declares none. -/
lemma isContainer_eq_false (h : (reached tokens)[k]? = some t)
    (hword : ContainerKind.ofKind? t.kind = none) : isContainer tokens k = false := by
  simp [isContainer, namedContainer?, containerKind?_eq h, hword]

/-- A token that is no keyword of a container masks something if it declares an enumeration. -/
lemma isMask_eq_enum (h : (reached tokens)[k]? = some t)
    (hword : ContainerKind.ofKind? t.kind = none) :
    isMask tokens k = decide (t.kind = .kwEnum) := by
  simp [isMask_eq h, containerKind?_eq h, hword]

/-- What the token with the given index declares, as the fields of the reference see it. -/
lemma containerAt_eq (h : tokens[k]? = some t) {kind : ContainerKind} {name : String}
    {nameIndex : Nat} (hkind : ContainerKind.ofKind? t.kind = some kind)
    (hname : containerName? tokens k = some (name, nameIndex)) :
    containerAt tokens k = container tokens k t kind name nameIndex := by
  simp [containerAt, h, hkind, hname]

lemma functionAt_eq (h : tokens[k]? = some t) : functionAt tokens k = function tokens k t := by
  simp [functionAt, h]

/-! ### The four outcomes of handling a token -/

/-- The journal's note that the brackets of a declaration never balance, if so. -/
def balanceLog (path : Option String) (tokens : List Token) (k : Nat) (keyword : Token)
    (kind : ScopeKind) (name : String) : List Event :=
  match scopeEnd? tokens k with
  | some _ => []
  | none => [.unbalanced path keyword.line kind name]

lemma recordBalance_eq (s : Pass) (path : Option String) (tokens : List Token) (k : Nat)
    (keyword : Token) (kind : ScopeKind) (name : String) :
    s.recordBalance path tokens k keyword kind name =
      { s with events := s.events ++ balanceLog path tokens k keyword kind name } := by
  unfold recordBalance balanceLog
  cases scopeEnd? tokens k with
  | none => rfl
  | some e => rw [List.append_nil]

/-- What handling the token `t` with index `k` can make of a state, by what the token declares: a
named container, a mask, a function, or nothing. -/
inductive Outcome (path : Option String) (tokens : List Token) (k : Nat) (t : Token) (s : Pass) :
    Pass → Prop
  | container {kind : ContainerKind} {name : String}
      (named : namedContainer? tokens k = some (kind, name))
      (noMask : isMask tokens k = false) (noFunction : isFunction tokens k = false)
      (noComment : t.kind.isComment = false) :
      Outcome path tokens k t s
        ((s.recordBalance path tokens k t (.container kind) name).fileContainer
          (containerAt tokens k) (lastIndex tokens k))
  | anonymous (noContainer : isContainer tokens k = false) (masks : isMask tokens k = true)
      (noFunction : isFunction tokens k = false) (noComment : t.kind.isComment = false) :
      Outcome path tokens k t s (s.mask tokens k)
  | enumeration (name : String) (noContainer : isContainer tokens k = false)
      (masks : isMask tokens k = true) (noFunction : isFunction tokens k = false)
      (noComment : t.kind.isComment = false) :
      Outcome path tokens k t s
        ((s.recordBalance path tokens k t .enumeration name).mask tokens k)
  | function (noContainer : isContainer tokens k = false) (noMask : isMask tokens k = false)
      (declares : isFunction tokens k = true) (noComment : t.kind.isComment = false) :
      Outcome path tokens k t s
        (((s.recordBalance path tokens k t .function (functionAt tokens k).label).openFunction
          (functionAt tokens k) (lastIndex tokens k)).fileFunction tokens k (functionAt tokens k))
  | nothing (noContainer : isContainer tokens k = false) (noMask : isMask tokens k = false)
      (noFunction : isFunction tokens k = false) :
      Outcome path tokens k t s
        { s with
          commentLines :=
            s.commentLines + if t.kind.isComment then LineCount.ofComment t.text else 0 }

/-- A token that declares nothing and is no comment leaves the state as it is. -/
lemma Outcome.unchanged {s : Pass} (hcontainer : isContainer tokens k = false)
    (hmask : isMask tokens k = false) (hfunction : isFunction tokens k = false)
    (hcomment : t.kind.isComment = false) : Outcome path tokens k t s s := by
  have hstay : Outcome path tokens k t s _ := .nothing hcontainer hmask hfunction
  simpa [hcomment] using hstay

/-- The keyword of a container declares one, masks its body or follows a double colon. -/
lemma outcome_onContainer (s : Pass) (h : (reached tokens)[k]? = some t) {kind : ContainerKind}
    (hword : ContainerKind.ofKind? t.kind = some kind) :
    Outcome path tokens k t s (s.onContainer path tokens k t kind) := by
  have hk := getElem?_of_reached h
  have hkind := containerKind?_eq h
  have hname := containerName?_map_fst hk
  -- such a keyword is neither `enum` nor `function` nor a comment
  have hothers : t.kind ≠ .kwEnum ∧ t.kind ≠ .kwFunction ∧ t.kind.isComment = false := by
    cases ht : t.kind <;> rw [ht] at hword <;> first | decide | cases hword
  have hmask : isMask tokens k =
      ((containerKind? tokens k).isSome && (nextIdentifier? tokens k).isNone) := by
    simp [isMask_eq h, hothers.1]
  have hfunction : isFunction tokens k = false := by simp [isFunction_eq h, hothers.2.1]
  rw [hword] at hkind
  unfold onContainer
  by_cases hcolon : follows tokens k .doubleColon = true
  · rw [if_pos hcolon] at hkind ⊢
    refine .unchanged ?_ ?_ hfunction hothers.2.2
    · simp [isContainer, namedContainer?, hkind]
    · simp [hmask, hkind]
  · rw [if_neg hcolon] at hkind ⊢
    cases hfound : containerName? tokens k with
    | none =>
      rw [hfound, Option.map_none] at hname
      refine .anonymous ?_ ?_ hfunction hothers.2.2
      · simp [isContainer, namedContainer?, ← hname]
      · simp [hmask, hkind, ← hname]
    | some found =>
      obtain ⟨name, nameIndex⟩ := found
      rw [hfound, Option.map_some] at hname
      simp only [← containerAt_eq hk hword hfound]
      refine .container ?_ ?_ hfunction hothers.2.2
      · simp [namedContainer?, hkind, ← hname]
      · simp [hmask, ← hname]

/-- Handling a token that the pass reaches has one of the outcomes. -/
theorem outcome_visit (path : Option String) (s : Pass) (h : (reached tokens)[k]? = some t) :
    Outcome path tokens k t s (s.visit path tokens k t) := by
  have hfunction := isFunction_eq h
  unfold visit
  cases hword : ContainerKind.ofKind? t.kind with
  | some kind => exact outcome_onContainer s h hword
  | none =>
    have hcontainer := isContainer_eq_false h hword
    have hmask := isMask_eq_enum h hword
    by_cases henum : t.kind = .kwEnum
    · have hno : t.kind ≠ .kwFunction := by rw [henum]; decide
      rw [if_pos henum]
      exact .enumeration _ hcontainer (by simp [hmask, henum]) (by simp [hfunction, hno])
        (by rw [henum]; rfl)
    rw [if_neg henum]
    have hnoMask : isMask tokens k = false := by simp [hmask, henum]
    by_cases hfn : t.kind = .kwFunction
    · have hcomment : t.kind.isComment = false := by rw [hfn]; rfl
      rw [if_pos hfn, onFunction]
      by_cases huse : follows tokens k .kwUse = true
      · rw [if_pos huse]
        exact .unchanged hcontainer hnoMask (by simp [hfunction, huse]) hcomment
      · rw [if_neg huse, ← functionAt_eq (getElem?_of_reached h)]
        exact .function hcontainer hnoMask (by simp [hfunction, hfn, huse]) hcomment
    · have hstay : Outcome path tokens k t s _ :=
        .nothing hcontainer hnoMask (by simp [hfunction, hfn])
      rw [if_neg hfn]
      by_cases hcomment : t.kind.isComment = true <;> simpa [hcomment] using hstay

/-! ### Open scopes after a token -/

/-- The scope of the container that the keyword with the given index declares. -/
def containerFrame (tokens : List Token) (k : Nat) : ContainerKind × Frame :=
  let c := containerAt tokens k
  (c.kind, ⟨c.name, c.startLine, c.endLine, lastIndex tokens k⟩)

/-- The scope of the function that the keyword with the given index declares. -/
def functionFrame (tokens : List Token) (k : Nat) : Frame :=
  let f := functionAt tokens k
  ⟨f.name.getD "", f.startLine, f.endLine, lastIndex tokens k⟩

@[simp] lemma endIndex_containerFrame (tokens : List Token) (k : Nat) :
    (containerFrame tokens k).2.endIndex = lastIndex tokens k := rfl

@[simp] lemma endIndex_functionFrame (tokens : List Token) (k : Nat) :
    (functionFrame tokens k).endIndex = lastIndex tokens k := rfl

/-- Filing a container opens its scope and notes it, if no other container is open. -/
lemma fileContainer_eq (s : Pass) (tokens : List Token) (k : Nat) :
    s.fileContainer (containerAt tokens k) (lastIndex tokens k) =
      let c := containerAt tokens k
      { s with
        tracker :=
          { s.tracker with
            container := s.tracker.container.or (some (containerFrame tokens k)) }
        outline := s.outline.addContainer c
        events := s.events ++
          if s.tracker.container.isNone then
            [.opened (.container c.kind) c.name c.startLine c.endLine]
          else [] } := by
  obtain ⟨⟨container, _, _⟩, _, _, _⟩ := s
  cases container <;> simp [fileContainer, Tracker.openContainer, record, containerFrame]

/-- The scope of a function is opened and noted, if no other function is open. -/
lemma openFunction_eq (s : Pass) (tokens : List Token) (k : Nat) :
    s.openFunction (functionAt tokens k) (lastIndex tokens k) =
      let f := functionAt tokens k
      { s with
        tracker :=
          { s.tracker with function := s.tracker.function.or (some (functionFrame tokens k)) }
        events := s.events ++
          if s.tracker.function.isNone then [.opened .function f.label f.startLine f.endLine]
          else [] } := by
  obtain ⟨⟨_, function, _⟩, _, _, _⟩ := s
  cases function <;> simp [openFunction, Tracker.openFunction, record, functionFrame]

/-- Filing a function changes the outline alone. -/
lemma fileFunction_eq (s : Pass) (tokens : List Token) (k : Nat) (f : FunctionSymbol) :
    s.fileFunction tokens k f = { s with outline := (s.fileFunction tokens k f).outline } := by
  unfold fileFunction
  split
  · rfl
  split
  · rfl
  split <;> rfl

lemma tracker_fileFunction (s : Pass) (tokens : List Token) (k : Nat) (f : FunctionSymbol) :
    (s.fileFunction tokens k f).tracker = s.tracker := by
  rw [fileFunction_eq]

lemma events_fileFunction (s : Pass) (tokens : List Token) (k : Nat) (f : FunctionSymbol) :
    (s.fileFunction tokens k f).events = s.events := by
  rw [fileFunction_eq]

lemma commentLines_fileFunction (s : Pass) (tokens : List Token) (k : Nat) (f : FunctionSymbol) :
    (s.fileFunction tokens k f).commentLines = s.commentLines := by
  rw [fileFunction_eq]

/-- The open container after a token: the one before it, else the one that it declares. -/
lemma container_visit (path : Option String) (s : Pass) (h : (reached tokens)[k]? = some t) :
    (s.visit path tokens k t).tracker.container =
      s.tracker.container.or
        (if isContainer tokens k then some (containerFrame tokens k) else none) := by
  have houtcome := outcome_visit path s h
  generalize s.visit path tokens k t = s' at houtcome ⊢
  cases houtcome with
  | container named noMask noFunction =>
    simp [fileContainer_eq, recordBalance_eq, isContainer, named]
  | anonymous noContainer => simp [mask, Tracker.maskUntil, noContainer]
  | enumeration name noContainer => simp [mask, recordBalance_eq, Tracker.maskUntil, noContainer]
  | function noContainer =>
    simp [tracker_fileFunction, openFunction_eq, recordBalance_eq, noContainer]
  | nothing noContainer => simp [noContainer]

/-- The open function after a token: the one before it, else the one that it declares. -/
lemma function_visit (path : Option String) (s : Pass) (h : (reached tokens)[k]? = some t) :
    (s.visit path tokens k t).tracker.function =
      s.tracker.function.or
        (if isFunction tokens k then some (functionFrame tokens k) else none) := by
  have houtcome := outcome_visit path s h
  generalize s.visit path tokens k t = s' at houtcome ⊢
  cases houtcome with
  | container named noMask noFunction => simp [fileContainer_eq, recordBalance_eq, noFunction]
  | anonymous noContainer masks noFunction => simp [mask, Tracker.maskUntil, noFunction]
  | enumeration name noContainer masks noFunction =>
    simp [mask, recordBalance_eq, Tracker.maskUntil, noFunction]
  | function noContainer noMask declares =>
    simp [tracker_fileFunction, openFunction_eq, recordBalance_eq, declares]
  | nothing noContainer noMask noFunction => simp [noFunction]

/-- The end of the mask after a token: a mask reaches as far as the longest of its parts. -/
lemma maskedUntil_visit (path : Option String) (s : Pass) (h : (reached tokens)[k]? = some t) :
    (s.visit path tokens k t).tracker.maskedUntil =
      if isMask tokens k then
        some (s.tracker.maskedUntil.elim (lastIndex tokens k) (max (lastIndex tokens k)))
      else s.tracker.maskedUntil := by
  have houtcome := outcome_visit path s h
  generalize s.visit path tokens k t = s' at houtcome ⊢
  cases houtcome with
  | container named noMask => simp [fileContainer_eq, recordBalance_eq, noMask]
  | anonymous noContainer masks => simp [mask, Tracker.maskUntil, masks]
  | enumeration name noContainer masks =>
    simp [mask, recordBalance_eq, Tracker.maskUntil, masks]
  | function noContainer noMask =>
    simp [tracker_fileFunction, openFunction_eq, recordBalance_eq, noMask]
  | nothing noContainer noMask => simp [noMask]

/-! ### The outline after a token -/

/-- The kind and the name of a declared container are those that it is filed under. -/
lemma namedContainer?_eq (h : isContainer tokens k = true) :
    namedContainer? tokens k = some ((containerAt tokens k).kind, (containerAt tokens k).name) := by
  obtain ⟨⟨kind, name⟩, hdeclared⟩ := Option.isSome_iff_exists.1 h
  obtain ⟨kind', hkind, hrest⟩ := Option.bind_eq_some_iff.1 hdeclared
  obtain ⟨name', hname, heq⟩ := Option.map_eq_some_iff.1 hrest
  cases heq
  cases htoken : (reached tokens)[k]? with
  | none => simp [containerKind?, htoken] at hkind
  | some t =>
    have hk := getElem?_of_reached htoken
    have hword : ContainerKind.ofKind? t.kind = some kind := by
      rw [containerKind?_eq htoken] at hkind
      split at hkind
      · cases hkind
      · exact hkind
    rw [← containerName?_map_fst hk, Option.map_eq_some_iff] at hname
    obtain ⟨⟨_, nameIndex⟩, hfound, rfl⟩ := hname
    rw [hdeclared, containerAt_eq hk hword hfound]
    rfl

/-- Where a function is filed, given the open scopes. -/
lemma outline_fileFunction (s : Pass) (tokens : List Token) (k : Nat) (f : FunctionSymbol) :
    (s.fileFunction tokens k f).outline =
      if s.tracker.isMasked k then s.outline
      else
        match f.name, s.tracker.container with
        | none, _ => s.outline
        | some _, some (kind, frame) => s.outline.addMethod kind frame.name f
        | some name, none => s.outline.addFunction (qualify (namespaceAt tokens k) name) f := by
  unfold fileFunction
  cases f.name with
  | none => simp
  | some name =>
    by_cases hmasked : s.tracker.isMasked k = true
    · simp [hmasked]
    · cases hcontainer : s.tracker.container <;> simp [hmasked]

/-- What is filed when a token is handled: the container that it declares, or the function that it
declares under the open container or as a free function, unless it is anonymous or masked. -/
lemma outline_visit (path : Option String) (s : Pass) (h : (reached tokens)[k]? = some t) :
    let s' := s.visit path tokens k t
    s'.outline =
      if isContainer tokens k then s.outline.addContainer (containerAt tokens k)
      else if isFunction tokens k && !s'.tracker.isMasked k then
        match (functionAt tokens k).name, s'.tracker.container with
        | none, _ => s.outline
        | some _, some (kind, frame) =>
          s.outline.addMethod kind frame.name (functionAt tokens k)
        | some name, none =>
          s.outline.addFunction (qualify (namespaceAt tokens k) name) (functionAt tokens k)
      else s.outline := by
  have houtcome := outcome_visit path s h
  generalize s.visit path tokens k t = s' at houtcome ⊢
  cases houtcome with
  | container named => simp [fileContainer_eq, recordBalance_eq, isContainer, named]
  | anonymous noContainer masks noFunction => simp [mask, noContainer, noFunction]
  | enumeration name noContainer masks noFunction =>
    simp [mask, recordBalance_eq, noContainer, noFunction]
  | nothing noContainer noMask noFunction => simp [noContainer, noFunction]
  | function noContainer noMask declares =>
    -- opening the function changes neither the mask nor the open container
    simp only [noContainer, declares, tracker_fileFunction, outline_fileFunction, openFunction_eq,
      recordBalance_eq, Tracker.isMasked, Bool.true_and, Bool.false_eq_true, if_false]
    by_cases hmasked : (s.tracker.maskedUntil.any fun last => decide (k ≤ last)) = true <;>
      simp [hmasked]

/-- Comment lines are counted at comments alone. -/
lemma commentLines_visit (path : Option String) (s : Pass) (h : (reached tokens)[k]? = some t) :
    (s.visit path tokens k t).commentLines =
      s.commentLines + if t.kind.isComment then LineCount.ofComment t.text else 0 := by
  have houtcome := outcome_visit path s h
  generalize s.visit path tokens k t = s' at houtcome ⊢
  cases houtcome with
  | container _ _ _ noComment => simp [fileContainer_eq, recordBalance_eq, noComment]
  | anonymous _ _ _ noComment => simp [mask, noComment]
  | enumeration _ _ _ _ noComment => simp [mask, recordBalance_eq, noComment]
  | function _ _ _ noComment =>
    simp [commentLines_fileFunction, openFunction_eq, recordBalance_eq, noComment]
  | nothing => rfl

/-! ### A run cut at an index -/

/-- The state before the token with the given index is handled. -/
def before (path : Option String) (tokens : List Token) (k : Nat) : Pass :=
  ((reached tokens).take k).zipIdx.foldl (step path tokens) {}

/-- The state after the token with the given index is handled, before scopes are closed. -/
def visited (path : Option String) (tokens : List Token) (k : Nat) : Pass :=
  match (reached tokens)[k]? with
  | some t => (before path tokens k).visit path tokens k t
  | none => before path tokens k

@[simp] lemma before_zero (path : Option String) (tokens : List Token) :
    before path tokens 0 = {} := rfl

lemma visited_eq (h : (reached tokens)[k]? = some t) :
    visited path tokens k = (before path tokens k).visit path tokens k t := by
  rw [visited, h]

/-- One step of the run: the token is handled, then scopes are closed. -/
lemma before_succ (hk : k < (reached tokens).length) :
    before path tokens (k + 1) = (visited path tokens k).close k := by
  have hlength : ((reached tokens).take k).length = k := by
    rw [List.length_take]
    omega
  rw [visited_eq (List.getElem?_eq_getElem hk), before, List.take_succ_eq_append_getElem hk,
    List.zipIdx_append, List.foldl_append, hlength, Nat.zero_add, List.zipIdx_singleton]
  rfl

/-- The run ends in the state before the token behind the last one. -/
lemma run_eq_before (path : Option String) (tokens : List Token) :
    run path tokens = before path tokens (reached tokens).length := by
  rw [run, before, List.take_length]

end Pass

end PhpOutline
