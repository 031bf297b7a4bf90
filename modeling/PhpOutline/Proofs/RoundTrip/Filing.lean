import Mathlib.Data.List.Basic
import PhpOutline.Proofs.Outline.Lookup
import PhpOutline.Proofs.Outline.OpenScopes
import PhpOutline.Proofs.RoundTrip.Lookahead
import PhpOutline.Proofs.RoundTrip.Lookbehind

/-!
# Passing over written declarations

`Reaches` says how far the pass has come and with which open scopes and which outline.  A token
that opens nothing leaves both as they are; a written function files one symbol and leaves no scope
open (`Reaches.function`); a written container is filed together with its methods
(`Reaches.container`), by induction on the methods.
-/

namespace PhpOutline

/-- All open scopes end at the given index or later, and nothing is masked. -/
structure Tracker.EndsBehind (s : Tracker) (n : Nat) : Prop where
  container : ∀ c ∈ s.container, n ≤ c.2.endIndex
  function : ∀ f ∈ s.function, n ≤ f.endIndex
  mask : s.maskedUntil = none

/-- Nothing is closed before the open scopes end. -/
lemma Tracker.EndsBehind.closeAt_eq {s : Tracker} {n k : Nat} (h : s.EndsBehind n) (hk : k < n) :
    s.closeAt k = s := by
  obtain ⟨container, function, maskedUntil⟩ := s
  obtain ⟨hcontainer, hfunction, rfl⟩ := h
  have hcontainer : container.filter (·.2.endIndex != k) = container := by
    cases container with
    | none => rfl
    | some c =>
      have hne : c.2.endIndex ≠ k := by have := hcontainer c rfl; omega
      rw [Option.filter_some, if_pos (bne_iff_ne.2 hne)]
  have hfunction : function.filter (·.endIndex != k) = function := by
    cases function with
    | none => rfl
    | some f =>
      have hne : f.endIndex ≠ k := by have := hfunction f rfl; omega
      rw [Option.filter_some, if_pos (bne_iff_ne.2 hne)]
  rw [closeAt, hcontainer, hfunction]
  rfl

/-- Where an open container ends, if nothing else is open. -/
lemma Tracker.endsBehind_container {container : Option (ContainerKind × Frame)} {n : Nat}
    (h : ∀ c ∈ container, n ≤ c.2.endIndex) :
    (⟨container, none, none⟩ : Tracker).EndsBehind n :=
  ⟨h, by rintro _ ⟨⟩, rfl⟩

/-- A function that ends is closed, and the container around it stays open. -/
lemma Tracker.closeAt_function {container : Option (ContainerKind × Frame)} {frame : Frame}
    {n : Nat} (hframe : frame.endIndex = n) (hends : ∀ c ∈ container, n < c.2.endIndex) :
    (⟨container, some frame, none⟩ : Tracker).closeAt n = ⟨container, none, none⟩ := by
  have hstays : container.filter (·.2.endIndex != n) = container :=
    congrArg Tracker.container ((endsBehind_container hends).closeAt_eq (Nat.lt_succ_self n))
  have hends : ¬(frame.endIndex != n) = true := by simp [hframe]
  rw [closeAt]
  dsimp only
  rw [hstays, Option.filter_some, if_neg hends, Option.filter_none]

namespace Written

open Declaration
open RawToken (hasKind hasKind_of_imp)

/-- The pass has come to the end of `front`, with these open scopes and this outline. -/
structure Reaches (tokens front : List Token) (tracker : Tracker) (outline : Outline) : Prop where
  tracker_eq : (Pass.before none tokens front.length).tracker = tracker
  outline_eq : (Pass.before none tokens front.length).outline = outline

variable {tokens front ts rest : List Token} {t : Token} {tracker tracker' : Tracker}
  {outline outline' : Outline} {k : Nat}

/-- One step of the pass: a token is handled, then scopes are closed. -/
lemma Reaches.step (hhalt : Pass.reached tokens = tokens) (htokens : tokens = front ++ t :: rest)
    (h : Reaches tokens front tracker outline)
    (hvisit : ∀ s : Pass, s.tracker = tracker → s.outline = outline →
      (s.visit none tokens front.length t).tracker = tracker' ∧
        (s.visit none tokens front.length t).outline = outline') :
    Reaches tokens (front ++ [t]) (tracker'.closeAt front.length) outline' := by
  have htoken : (Pass.reached tokens)[front.length]? = some t := by
    rw [hhalt, htokens]
    simp
  have hk : front.length < (Pass.reached tokens).length := (List.getElem?_eq_some_iff.1 htoken).1
  have hnext : Pass.before none tokens (front ++ [t]).length =
      ((Pass.before none tokens front.length).visit none tokens front.length t).close
        front.length := by
    rw [List.length_append, List.length_singleton, Pass.before_succ hk, Pass.visited_eq htoken]
  obtain ⟨htracker, houtline⟩ := hvisit _ h.tracker_eq h.outline_eq
  constructor
  · rw [hnext, ← htracker]
    rfl
  · rw [hnext, ← houtline]
    rfl

/-! ### Tokens that open nothing -/

/-- The kind is not that of a word that opens a scope or a mask. -/
def opensNothing (k : Kind) : Bool :=
  !([.kwClass, .kwTrait, .kwInterface, .kwEnum, .kwFunction] : List Kind).contains k

lemma opensNothing_of_declaresNothing (k : Kind) :
    declaresNothing k = true → opensNothing k = true := by
  cases k <;> decide

/-- Nothing is opened in an inline part. -/
lemma opensNothing_of_inline {raws : List RawToken} (hts : Spells ts raws)
    (hraws : ∀ r ∈ raws, hasKind isInline r = true) : ∀ u ∈ ts, opensNothing u.kind = true := by
  refine hts.forall_kind fun r hr => ?_
  exact hasKind_of_imp opensNothing_of_declaresNothing (plain_of_inline hraws r hr)

/-- A token that opens nothing leaves the open scopes and the outline as they are. -/
lemma visit_of_opensNothing (s : Pass) (ht : opensNothing t.kind = true) :
    (s.visit none tokens k t).tracker = s.tracker ∧
      (s.visit none tokens k t).outline = s.outline := by
  have hkinds : ContainerKind.ofKind? t.kind = none ∧ t.kind ≠ .kwEnum ∧ t.kind ≠ .kwFunction := by
    revert ht
    cases t.kind <;> decide
  obtain ⟨hcontainer, henum, hfunction⟩ := hkinds
  rw [Pass.visit, hcontainer]
  dsimp only
  rw [if_neg henum, if_neg hfunction]
  split <;> exact ⟨rfl, rfl⟩

/-- The pass comes over tokens that open nothing, as long as no scope ends among them. -/
lemma Reaches.plain (hhalt : Pass.reached tokens = tokens)
    (htokens : tokens = front ++ (ts ++ rest)) (h : Reaches tokens front tracker outline)
    (hts : ∀ u ∈ ts, opensNothing u.kind = true)
    (hends : tracker.EndsBehind (front ++ ts).length) :
    Reaches tokens (front ++ ts) tracker outline := by
  induction ts generalizing front with
  | nil => rwa [List.append_nil]
  | cons u us ih =>
    obtain ⟨hu, hus⟩ := List.forall_mem_cons.1 hts
    rw [List.append_cons] at hends ⊢
    have hstep : Reaches tokens (front ++ [u]) (tracker.closeAt front.length) outline := by
      refine h.step hhalt htokens fun s htracker houtline => ?_
      rw [← htracker, ← houtline]
      exact visit_of_opensNothing s hu
    rw [hends.closeAt_eq (by simp only [List.length_append, List.length_singleton]; omega)] at hstep
    exact ih (by rw [htokens, List.append_assoc]; rfl) hstep hus hends

/-- The pass comes over what stands in front of a keyword without any change. -/
lemma Reaches.words {h : Head} (hhalt : Pass.reached tokens = tokens)
    (htokens : tokens = front ++ (ts ++ rest)) (hreaches : Reaches tokens front tracker outline)
    (hts : Spells ts h.render) (hends : tracker.EndsBehind (front ++ ts).length) :
    Reaches tokens (front ++ ts) tracker outline :=
  hreaches.plain hhalt htokens (opensNothing_of_inline hts (inline_head h)) hends

/-- The pass comes over a gap without any change. -/
lemma Reaches.gap {g : Gap} (hhalt : Pass.reached tokens = tokens)
    (htokens : tokens = front ++ (ts ++ rest)) (h : Reaches tokens front tracker outline)
    (hts : Spells ts g.render) (hends : tracker.EndsBehind (front ++ ts).length) :
    Reaches tokens (front ++ ts) tracker outline :=
  h.plain hhalt htokens (opensNothing_of_inline hts (inline_gap g)) hends

/-! ### Keywords -/

/-- Where a function is filed: under the open container, or as a free function. -/
def fileUnder (container : Option (ContainerKind × Frame)) (key : String) (f : FunctionSymbol)
    (o : Outline) : Outline :=
  match container with
  | some (kind, frame) => o.addMethod kind frame.name f
  | none => o.addFunction key f

/-- The word `function` opens a scope and files the function, if nothing is masked. -/
lemma visit_function {name : String} (s : Pass) (htoken : (Pass.reached tokens)[k]? = some t)
    (hkind : t.kind = .kwFunction) (huse : follows tokens k .kwUse = false)
    (hname : (functionAt tokens k).name = some name) (hfunction : s.tracker.function = none)
    (hmask : s.tracker.maskedUntil = none) :
    (s.visit none tokens k t).tracker =
        ⟨s.tracker.container, some (Pass.functionFrame tokens k), s.tracker.maskedUntil⟩ ∧
      (s.visit none tokens k t).outline =
        fileUnder s.tracker.container (qualify (namespaceAt tokens k) name)
          (functionAt tokens k) s.outline := by
  have hword : ContainerKind.ofKind? t.kind = none := by rw [hkind]; rfl
  have hisContainer := Pass.isContainer_eq_false htoken hword
  have hisMask : isMask tokens k = false := by simp [Pass.isMask_eq_enum htoken hword, hkind]
  have hisFunction : isFunction tokens k = true := by simp [Pass.isFunction_eq htoken, hkind, huse]
  have hcontainer' := Pass.container_visit none s htoken
  have hfunction' := Pass.function_visit none s htoken
  have hmask' := Pass.maskedUntil_visit none s htoken
  have houtline := Pass.outline_visit none s htoken
  generalize s.visit none tokens k t = s' at hcontainer' hfunction' hmask' houtline ⊢
  rw [hisContainer, if_neg Bool.false_ne_true, Option.or_none] at hcontainer'
  rw [hisFunction, if_pos rfl, hfunction, Option.none_or] at hfunction'
  rw [hisMask, if_neg Bool.false_ne_true] at hmask'
  have htracker : s'.tracker =
      ⟨s.tracker.container, some (Pass.functionFrame tokens k), s.tracker.maskedUntil⟩ := by
    rw [← hfunction', ← hcontainer', ← hmask']
  have hmasked : s'.tracker.isMasked k = false := by simp [Tracker.isMasked, hmask', hmask]
  refine ⟨htracker, ?_⟩
  dsimp only at houtline
  rw [houtline, hisContainer, hisFunction, hmasked, hname, hcontainer']
  cases s.tracker.container <;> rfl

/-- The keyword of a container opens a scope and files the container. -/
lemma visit_container {kind : ContainerKind} {name : String} {nameIndex : Nat} (s : Pass)
    (htoken : (Pass.reached tokens)[k]? = some t)
    (hkind : ContainerKind.ofKind? t.kind = some kind)
    (hcolon : follows tokens k .doubleColon = false)
    (hname : containerName? tokens k = some (name, nameIndex))
    (hcontainer : s.tracker.container = none) :
    (s.visit none tokens k t).tracker =
        ⟨some (Pass.containerFrame tokens k), s.tracker.function, s.tracker.maskedUntil⟩ ∧
      (s.visit none tokens k t).outline = s.outline.addContainer (containerAt tokens k) := by
  have hdeclared : containerKind? tokens k = some kind := by
    rw [Pass.containerKind?_eq htoken, if_neg (by rw [hcolon]; exact Bool.false_ne_true), hkind]
  have hnext : nextIdentifier? tokens k = some name := by
    rw [← containerName?_map_fst (getElem?_of_reached htoken), hname]
    rfl
  have hisContainer : isContainer tokens k = true := by
    simp [isContainer, namedContainer?, hdeclared, hnext]
  have hothers : t.kind ≠ .kwEnum ∧ t.kind ≠ .kwFunction := by
    revert hkind
    cases t.kind <;> simp [ContainerKind.ofKind?]
  have hisMask : isMask tokens k = false := by
    simp [Pass.isMask_eq htoken, hothers.1, hnext]
  have hisFunction : isFunction tokens k = false := by
    simp [Pass.isFunction_eq htoken, hothers.2]
  have hcontainer' := Pass.container_visit none s htoken
  have hfunction' := Pass.function_visit none s htoken
  have hmask' := Pass.maskedUntil_visit none s htoken
  have houtline := Pass.outline_visit none s htoken
  generalize s.visit none tokens k t = s' at hcontainer' hfunction' hmask' houtline ⊢
  rw [hisContainer, if_pos rfl, hcontainer, Option.none_or] at hcontainer'
  rw [hisFunction, if_neg Bool.false_ne_true, Option.or_none] at hfunction'
  rw [hisMask, if_neg Bool.false_ne_true] at hmask'
  dsimp only at houtline
  rw [hisContainer, if_pos rfl] at houtline
  refine ⟨?_, houtline⟩
  rw [← hcontainer', ← hfunction', ← hmask']

/-! ### A written function -/

variable {f : FunctionDecl} {head behind : List Token} {keyword : Token} {namespaceName : String}

/-- The signature of a written function. -/
lemma signature_function {pre tail : List Token} {name : Token} (htail : Spells tail f.renderTail) :
    signature (pre ++ name :: (tail ++ rest)) pre.length = f.symbol.signature := by
  rw [FunctionDecl.renderTail, List.append_assoc] at htail
  obtain ⟨params, close, rfl, hparams, hclose⟩ := spells_append.1 htail
  have hinline := hparams.forall_kind f.isInline
  -- the parameters end at the body or at the semicolon
  obtain ⟨stop, others, rfl, hstop⟩ : ∃ stop others, close = stop :: others ∧
      (stop.kind = .openCurly ∨ stop.kind = .semicolon) := by
    rw [FunctionDecl.renderBody, FunctionDecl.last] at hclose
    split at hclose
    · obtain ⟨stop, others, rfl, hkind, -, -⟩ := spells_cons.1 hclose
      exact ⟨stop, others, rfl, Or.inl (Option.some.inj hkind).symm⟩
    · obtain ⟨stop, others, rfl, hkind, -, -⟩ := spells_cons.1 hclose
      exact ⟨stop, others, rfl, Or.inr (Option.some.inj hkind).symm⟩
  rw [List.append_assoc, List.cons_append, signature_append hinline hstop, hparams.join_text]
  rfl

/-- The symbol that is read off a written function. -/
lemma functionAt_written (htokens : tokens = front ++ head ++ keyword :: (behind ++ rest))
    (hready : Ready namespaceName front) (hhead : Spells head f.head.render)
    (hbehind : Spells behind f.renderBehind) :
    (functionAt tokens (front ++ head).length).placeless = f.symbol := by
  have hreads : ReadsHead f.head namespaceName tokens (front ++ head).length := by
    rw [htokens]
    exact readsHead hready hhead
  obtain ⟨gap, others, rfl, hgap, hothers⟩ := spells_append.1 hbehind
  obtain ⟨name, tail, rfl, hkind, htext, htail⟩ := spells_cons.1 hothers
  have hname : name.kind = .identifier := (Option.some.inj hkind).symm
  have htext : name.text = f.name := htext.symm
  have hfound : functionName? tokens (front ++ head).length =
      some (f.name, (front ++ head ++ keyword :: gap).length) := by
    rw [htokens, List.append_assoc gap, List.cons_append, ← htext]
    exact functionName?_append (hgap.forall_kind (whitespace_gap _)) hname
  have hsignature : signature tokens (front ++ head ++ keyword :: gap).length =
      f.symbol.signature := by
    have hsplit : tokens = front ++ head ++ keyword :: gap ++ name :: (tail ++ rest) := by
      rw [htokens]
      simp only [List.append_assoc, List.cons_append]
    rw [hsplit]
    exact signature_function htail
  simp only [functionAt, function, FunctionSymbol.placeless, hfound, hreads.docblock,
    hreads.modifiers, hreads.visibility, Option.map_some, Option.getD_some, hsignature]
  rfl

/-- The last token of a written function is set apart. -/
lemma FunctionDecl.renderBehind_eq (f : FunctionDecl) :
    f.renderBehind = f.gap.render ++ .named .identifier f.name :: (f.parameters ++ f.renderBody) ++
      [f.last] := by
  simp [renderBehind, renderTail]

/-- The word `function` opens the scope of a written function and files it. -/
lemma Reaches.openFunction {container : Option (ContainerKind × Frame)} {h : Head} {name : String}
    (hhalt : Pass.reached tokens = tokens) (htokens : tokens = front ++ keyword :: rest)
    (hreaches : Reaches tokens front ⟨container, none, none⟩ outline)
    (hkeyword : keyword.kind = .kwFunction)
    (hreads : ReadsHead h namespaceName tokens front.length)
    (hname : (functionAt tokens front.length).name = some name)
    (hend : front.length < lastIndex tokens front.length)
    (hends : ∀ c ∈ container, front.length < c.2.endIndex) :
    Reaches tokens (front ++ [keyword])
      ⟨container, some (Pass.functionFrame tokens front.length), none⟩
      (fileUnder container (qualify namespaceName name) (functionAt tokens front.length)
        outline) := by
  have htoken : (Pass.reached tokens)[front.length]? = some keyword := by
    rw [hhalt, htokens]
    simp
  have hopen : (⟨container, some (Pass.functionFrame tokens front.length), none⟩ :
      Tracker).EndsBehind (front.length + 1) := by
    refine ⟨hends, fun g hg => ?_, rfl⟩
    cases hg
    exact hend
  rw [← hopen.closeAt_eq (Nat.lt_succ_self _)]
  refine hreaches.step hhalt htokens fun s htracker houtline => ?_
  have hvisit := visit_function s htoken hkeyword hreads.notUse hname (by rw [htracker])
    (by rw [htracker])
  rw [htracker, houtline, hreads.namespaceAt] at hvisit
  exact hvisit

/-- Behind its keyword, a function is open until its last token. -/
lemma Reaches.closeFunction {container : Option (ContainerKind × Frame)} {frame : Frame}
    {init : List Token} {last : Token} (hhalt : Pass.reached tokens = tokens)
    (htokens : tokens = front ++ (init ++ last :: rest))
    (h : Reaches tokens front ⟨container, some frame, none⟩ outline)
    (hframe : frame.endIndex = (front ++ init).length)
    (hends : ∀ c ∈ container, (front ++ init).length < c.2.endIndex)
    (hinit : ∀ u ∈ init, opensNothing u.kind = true) (hlast : opensNothing last.kind = true) :
    Reaches tokens (front ++ init ++ [last]) ⟨container, none, none⟩ outline := by
  have hopen : (⟨container, some frame, none⟩ : Tracker).EndsBehind (front ++ init).length := by
    refine ⟨fun c hc => (hends c hc).le, fun g hg => ?_, rfl⟩
    cases hg
    exact hframe.ge
  have hatLast := h.plain hhalt htokens hinit hopen
  rw [← Tracker.closeAt_function hframe hends]
  refine hatLast.step hhalt (by rw [htokens, List.append_assoc]) fun s htracker houtline => ?_
  rw [← htracker, ← houtline]
  exact visit_of_opensNothing s hlast

/-- **A written function.**  The pass files one symbol for it and leaves no scope open. -/
lemma Reaches.function {container : Option (ContainerKind × Frame)}
    (hhalt : Pass.reached tokens = tokens) (htokens : tokens = front ++ (ts ++ rest))
    (hts : Spells ts f.render) (hready : Ready namespaceName front)
    (h : Reaches tokens front ⟨container, none, none⟩ outline)
    (hends : ∀ c ∈ container, (front ++ ts).length ≤ c.2.endIndex) :
    ∃ symbol : FunctionSymbol, symbol.placeless = f.symbol ∧
      Reaches tokens (front ++ ts) ⟨container, none, none⟩
        (fileUnder container (qualify namespaceName f.name) symbol outline) := by
  obtain ⟨head, others, rfl, hhead, hothers⟩ := spells_append.1 hts
  obtain ⟨keyword, behind, rfl, hkind, -, hbehind⟩ := spells_cons.1 hothers
  have hkeyword : keyword.kind = .kwFunction := (Option.some.inj hkind).symm
  have hsplit : tokens = front ++ head ++ keyword :: (behind ++ rest) := by
    rw [htokens]
    simp only [List.append_assoc, List.cons_append]
  have hsymbol := functionAt_written hsplit hready hhead hbehind
  have hreads : ReadsHead f.head namespaceName tokens (front ++ head).length := by
    rw [hsplit]
    exact readsHead hready hhead
  have hend : lastIndex tokens (front ++ head).length = (front ++ head).length + behind.length := by
    rw [lastIndex, hsplit, scopeEnd?_function hbehind]
    rfl
  have hopens := hbehind.forall_kind fun r hr =>
    hasKind_of_imp opensNothing_of_declaresNothing (plain_behind f r hr)
  rw [FunctionDecl.renderBehind_eq] at hbehind
  obtain ⟨init, close, rfl, -, hclose⟩ := spells_append.1 hbehind
  obtain ⟨last, rfl, -, -⟩ := spells_singleton.1 hclose
  obtain ⟨hinit, hlast⟩ := List.forall_mem_append.1 hopens
  simp only [List.length_append, List.length_cons, List.length_nil] at hends hend
  refine ⟨functionAt tokens (front ++ head).length, hsymbol, ?_⟩
  have hatKeyword : Reaches tokens (front ++ head) ⟨container, none, none⟩ outline := by
    refine h.words hhalt (by rw [hsplit, List.append_assoc]) hhead
      (Tracker.endsBehind_container fun c hc => ?_)
    have := hends c hc
    rw [List.length_append]
    omega
  have hopened := hatKeyword.openFunction hhalt hsplit hkeyword hreads
    (congrArg FunctionSymbol.name hsymbol) (by rw [List.length_append]; omega) fun c hc => by
      have := hends c hc
      rw [List.length_append]
      omega
  have hbody : tokens = front ++ head ++ [keyword] ++ (init ++ last :: rest) := by
    rw [hsplit]
    simp only [List.append_assoc, List.cons_append, List.nil_append]
  have hclosed := hopened.closeFunction hhalt hbody ?_ ?_ hinit
    (hlast last (List.mem_singleton_self _))
  · simpa only [List.append_assoc, List.cons_append, List.nil_append] using hclosed
  · rw [Pass.endIndex_functionFrame, List.length_append, hend]
    simp only [List.length_append, List.length_singleton]
    omega
  · intro c hc
    have := hends c hc
    simp only [List.length_append, List.length_singleton]
    omega

/-! ### The methods of a container -/

/-- The last token of a written function ends something. -/
lemma exists_last_function (hts : Spells ts f.render) :
    ∃ init last, ts = init ++ [last] ∧ isBoundary last.kind = true := by
  rw [FunctionDecl.render, FunctionDecl.renderBehind_eq, ← List.cons_append,
    ← List.append_assoc] at hts
  obtain ⟨init, close, rfl, -, hclose⟩ := spells_append.1 hts
  obtain ⟨last, rfl, hkind, -⟩ := spells_singleton.1 hclose
  refine ⟨init, last, rfl, ?_⟩
  rw [FunctionDecl.last] at hkind
  split at hkind <;> rw [← Option.some.inj hkind] <;> rfl

/-- Behind a written declaration another one may start. -/
lemma Ready.declaration (hready : Ready namespaceName front)
    (hts : ∀ u ∈ ts, isOrdinary u.kind = true)
    (hlast : ∃ init last, ts = init ++ [last] ∧ isBoundary last.kind = true) :
    Ready namespaceName (front ++ ts) := by
  obtain ⟨init, last, rfl, hboundary⟩ := hlast
  refine hready.close (fun u hu hkind => ?_) hboundary
  have hordinary := hts u (List.mem_append_left _ hu)
  rw [hkind] at hordinary
  cases hordinary

/-- The methods of a container are filed under it one by one. -/
lemma Reaches.methods {methods : List (FunctionDecl × Gap)} {kind : ContainerKind} {frame : Frame}
    (hhalt : Pass.reached tokens = tokens) (htokens : tokens = front ++ (ts ++ rest))
    (hts : Spells ts (methods.flatMap fun (f, g) => f.render ++ g.render))
    (hready : Ready namespaceName front)
    (h : Reaches tokens front ⟨some (kind, frame), none, none⟩ outline)
    (hends : (front ++ ts).length ≤ frame.endIndex) :
    ∃ symbols : List FunctionSymbol,
      symbols.map (·.placeless) = methods.map (·.1.symbol) ∧
        Reaches tokens (front ++ ts) ⟨some (kind, frame), none, none⟩
          (symbols.foldl (fun o s => o.addMethod kind frame.name s) outline) := by
  induction methods generalizing front ts outline with
  | nil =>
    obtain rfl := spells_nil.1 hts
    rw [List.append_nil]
    exact ⟨[], rfl, h⟩
  | cons entry methods ih =>
    obtain ⟨f, g⟩ := entry
    rw [List.flatMap_cons] at hts
    obtain ⟨one, more, rfl, hone, hmore⟩ := spells_append.1 hts
    obtain ⟨method, gap, rfl, hmethod, hgap⟩ := spells_append.1 hone
    simp only [List.append_assoc] at htokens hends ⊢
    have hbound : ∀ c ∈ some (kind, frame), (front ++ method).length ≤ c.2.endIndex := by
      intro c hc
      cases hc
      simp only [List.length_append] at hends ⊢
      omega
    obtain ⟨symbol, hsymbol, hfiled⟩ := h.function hhalt htokens hmethod hready hbound
    have hbehind : Ready namespaceName (front ++ method ++ gap) :=
      (hready.declaration (hmethod.forall_kind (ordinary_function f))
        (exists_last_function hmethod)).gap (hgap.forall_kind (whitespace_gap _))
    have hpassed : Reaches tokens (front ++ method ++ gap) ⟨some (kind, frame), none, none⟩
        (outline.addMethod kind frame.name symbol) := by
      refine hfiled.gap hhalt (by rw [htokens, List.append_assoc]) hgap
        (Tracker.endsBehind_container fun c hc => ?_)
      cases hc
      simp only [List.length_append] at hends ⊢
      omega
    obtain ⟨symbols, hsymbols, hall⟩ := ih (by rw [htokens]; simp only [List.append_assoc]) hmore
      hbehind hpassed (by simpa only [List.append_assoc] using hends)
    refine ⟨symbol :: symbols, ?_, ?_⟩
    · rw [List.map_cons, List.map_cons, hsymbol, hsymbols]
    · simpa only [List.append_assoc, List.foldl_cons] using hall

/-! ### A written container -/

variable {c : ContainerDecl} {header : List Token} {first : Token}

/-- The keyword of a container gives its kind. -/
lemma ofKind?_keyword (hkind : (ContainerDecl.keyword c.kind).kind? = some keyword.kind) :
    ContainerKind.ofKind? keyword.kind = some c.kind := by
  revert hkind
  cases c.kind <;> intro hkind <;> rw [← Option.some.inj hkind] <;> rfl

/-- The container that is read off a written one. -/
lemma containerAt_written (htokens : tokens = front ++ head ++ keyword :: (header ++ first :: rest))
    (hready : Ready namespaceName front) (hhead : Spells head c.head.render)
    (hkind : (ContainerDecl.keyword c.kind).kind? = some keyword.kind)
    (hheader : Spells header c.renderHeader) (hfirst : first.kind = .openCurly) :
    (∃ nameIndex, containerName? tokens (front ++ head).length = some (c.name, nameIndex)) ∧
      (containerAt tokens (front ++ head).length).description =
        ⟨(c.description namespaceName).head, fun _ => none⟩ := by
  have hreads : ReadsHead c.head namespaceName tokens (front ++ head).length := by
    rw [htokens]
    exact readsHead hready hhead
  obtain ⟨gap, others, rfl, hgap, hothers⟩ := spells_append.1 hheader
  obtain ⟨name, parents, rfl, hname, htext, hparents⟩ := spells_cons.1 hothers
  obtain ⟨nameGap, others, rfl, hnameGap, hothers⟩ := spells_append.1 hparents
  obtain ⟨parent, interfaces, rfl, hparent, hints⟩ := spells_append.1 hothers
  have hid : name.kind = .identifier := (Option.some.inj hname).symm
  have hfound : containerName? tokens (front ++ head).length =
      some (c.name, (front ++ head ++ keyword :: gap).length) := by
    have hcname : name.text = c.name := htext.symm
    rw [htokens, List.append_assoc gap, List.cons_append, ← hcname]
    exact containerName?_append (hgap.forall_kind (whitespace_gap _)) hid
  have hsplit : tokens = front ++ head ++ keyword :: gap ++ name ::
      (nameGap ++ (parent ++ (interfaces ++ first :: rest))) := by
    rw [htokens]
    simp only [List.append_assoc, List.cons_append]
  have hparent' : parent? tokens (front ++ head ++ keyword :: gap).length =
      c.parent.map (·.name.text) := by
    rw [hsplit]
    exact parent?_header hnameGap hparent hints hfirst
  have hinterfaces : interfaces? tokens (front ++ head ++ keyword :: gap).length =
      c.interfaces.map (·.names) := by
    rw [hsplit]
    exact interfaces?_header hnameGap hparent hints hfirst
  have htoken : tokens[(front ++ head).length]? = some keyword := by
    rw [htokens]
    simp
  refine ⟨⟨_, hfound⟩, ?_⟩
  rw [Pass.containerAt_eq htoken (ofKind?_keyword hkind) hfound]
  simp only [container, Container.description, ContainerDecl.description, hreads.docblock,
    hreads.modifiers, hreads.namespaceAt, hparent', hinterfaces]
  rfl

/-- The keyword opens the scope of a written container and files it. -/
lemma Reaches.openContainer {h : Head} {nameIndex : Nat} (hhalt : Pass.reached tokens = tokens)
    (htokens : tokens = front ++ keyword :: rest) (hreaches : Reaches tokens front {} outline)
    (hkeyword : ContainerKind.ofKind? keyword.kind = some c.kind)
    (hreads : ReadsHead h namespaceName tokens front.length)
    (hname : containerName? tokens front.length = some (c.name, nameIndex))
    (hend : front.length < lastIndex tokens front.length) :
    Reaches tokens (front ++ [keyword])
      ⟨some (Pass.containerFrame tokens front.length), none, none⟩
      (outline.addContainer (containerAt tokens front.length)) := by
  have htoken : (Pass.reached tokens)[front.length]? = some keyword := by
    rw [hhalt, htokens]
    simp
  have hopen : (⟨some (Pass.containerFrame tokens front.length), none, none⟩ :
      Tracker).EndsBehind (front.length + 1) := by
    refine Tracker.endsBehind_container fun d hd => ?_
    cases hd
    exact hend
  rw [← hopen.closeAt_eq (Nat.lt_succ_self _)]
  refine hreaches.step hhalt htokens fun s htracker houtline => ?_
  have hvisit := visit_container s htoken hkeyword hreads.notColon hname (by rw [htracker])
  rw [htracker, houtline] at hvisit
  exact hvisit

/-- The closing bracket of a container leaves no scope open. -/
lemma Reaches.closeContainer {container : ContainerKind × Frame} {last : Token}
    (hhalt : Pass.reached tokens = tokens) (htokens : tokens = front ++ last :: rest)
    (h : Reaches tokens front ⟨some container, none, none⟩ outline)
    (hends : container.2.endIndex = front.length) (hlast : last.kind = .closeCurly) :
    Reaches tokens (front ++ [last]) {} outline := by
  have hclosed : (⟨some container, none, none⟩ : Tracker).closeAt front.length = {} := by
    rw [Tracker.closeAt]
    dsimp only
    rw [Option.filter_some, if_neg (by simp [hends]), Option.filter_none, Option.filter_none]
  rw [← hclosed]
  refine h.step hhalt htokens fun s htracker houtline => ?_
  rw [← htracker, ← houtline]
  exact visit_of_opensNothing s (by rw [hlast]; rfl)

/-- Behind its keyword, a container is open until its last token, and its methods are filed. -/
lemma Reaches.containerBody {body : List Token} {last : Token} {frame : Frame}
    (hhalt : Pass.reached tokens = tokens)
    (htokens : tokens = front ++ (header ++ first :: (body ++ last :: rest)))
    (hheader : Spells header c.renderHeader) (hfirst : first.kind = .openCurly)
    (hbody : Spells body (c.bodyGap.render ++ c.renderMethods)) (hlast : last.kind = .closeCurly)
    (hready : Ready namespaceName (front ++ (header ++ [first])))
    (h : Reaches tokens front ⟨some (c.kind, frame), none, none⟩ outline)
    (hframe : frame.endIndex = front.length + (header.length + body.length + 1)) :
    ∃ symbols : List FunctionSymbol,
      symbols.map (·.placeless) = c.methods.map (·.1.symbol) ∧
        Reaches tokens (front ++ (header ++ first :: (body ++ [last]))) {}
          (symbols.foldl (fun o s => o.addMethod c.kind frame.name s) outline) := by
  obtain ⟨gap, methods, rfl, hgap, hmethods⟩ := spells_append.1 hbody
  have hopens : ∀ u ∈ header ++ first :: gap, opensNothing u.kind = true := by
    rw [List.forall_mem_append, List.forall_mem_cons]
    exact ⟨opensNothing_of_inline hheader (inline_header c), by rw [hfirst]; rfl,
      opensNothing_of_inline hgap (inline_gap _)⟩
  have hbefore : tokens = front ++ (header ++ first :: gap ++ (methods ++ last :: rest)) := by
    rw [htokens]
    simp only [List.append_assoc, List.cons_append]
  have hbehind : tokens = front ++ (header ++ first :: gap) ++ (methods ++ last :: rest) := by
    rw [hbefore, List.append_assoc front]
  rw [List.length_append] at hframe
  have hatMethods : Reaches tokens (front ++ (header ++ first :: gap))
      ⟨some (c.kind, frame), none, none⟩ outline := by
    refine h.plain hhalt hbefore hopens (Tracker.endsBehind_container fun d hd => ?_)
    cases hd
    simp only [List.length_append, List.length_cons]
    omega
  have hreadyMethods : Ready namespaceName (front ++ (header ++ first :: gap)) := by
    have hgapReady := hready.gap (hgap.forall_kind (whitespace_gap _))
    simpa only [List.append_assoc, List.cons_append, List.nil_append] using hgapReady
  obtain ⟨symbols, hsymbols, hall⟩ := hatMethods.methods hhalt hbehind hmethods hreadyMethods
    (by simp only [List.length_append, List.length_cons]; omega)
  have hclosed := hall.closeContainer hhalt (hbehind.trans (List.append_assoc _ _ _).symm)
    (by simp only [List.length_append, List.length_cons]; omega) hlast
  refine ⟨symbols, hsymbols, ?_⟩
  simpa only [List.append_assoc, List.cons_append, List.nil_append] using hclosed

/-- **A written container.**  The pass files it together with its methods and leaves no scope
open. -/
lemma Reaches.container (hhalt : Pass.reached tokens = tokens)
    (htokens : tokens = front ++ (ts ++ rest)) (hts : Spells ts c.render)
    (hready : Ready namespaceName front) (h : Reaches tokens front {} outline) :
    ∃ (bare : Container) (symbols : List FunctionSymbol),
      bare.description = ⟨(c.description namespaceName).head, fun _ => none⟩ ∧
        symbols.map (·.placeless) = c.methods.map (·.1.symbol) ∧
        Reaches tokens (front ++ ts) {}
          (symbols.foldl (fun o s => o.addMethod c.kind c.name s) (outline.addContainer bare)) := by
  obtain ⟨head, others, rfl, hhead, hothers⟩ := spells_append.1 hts
  obtain ⟨keyword, behind, rfl, hkind, -, hbehind⟩ := spells_cons.1 hothers
  obtain ⟨header, block, rfl, hheader, hblock⟩ := spells_append.1 hbehind
  obtain ⟨first, block, rfl, hfirst, -, hblock⟩ := spells_cons.1 hblock
  obtain ⟨body, close, rfl, hbody, hclose⟩ := spells_append.1 hblock
  obtain ⟨last, rfl, hlast, -⟩ := spells_singleton.1 hclose
  have hopen : first.kind = .openCurly := (Option.some.inj hfirst).symm
  have hcurly : last.kind = .closeCurly := (Option.some.inj hlast).symm
  have hsplit : tokens = front ++ head ++ keyword ::
      (header ++ first :: (body ++ last :: rest)) := by
    rw [htokens]
    simp only [List.append_assoc, List.cons_append, List.nil_append]
  have hreads : ReadsHead c.head namespaceName tokens (front ++ head).length := by
    rw [hsplit]
    exact readsHead hready hhead
  obtain ⟨⟨nameIndex, hname⟩, hbare⟩ :=
    containerAt_written hsplit hready hhead hkind hheader hopen
  have hend : lastIndex tokens (front ++ head).length =
      (front ++ head).length + (header.length + body.length + 2) := by
    rw [lastIndex, hsplit, scopeEnd?_container hheader hopen hbody hcurly]
    rfl
  have hatKeyword : Reaches tokens (front ++ head) {} outline :=
    h.words hhalt (by rw [hsplit, List.append_assoc]) hhead
      (Tracker.endsBehind_container fun d hd => by cases hd)
  have hopened := hatKeyword.openContainer hhalt hsplit (ofKind?_keyword hkind) hreads hname
    (by rw [hend]; omega)
  -- the scope is named for the container and ends at the closing bracket
  have hframe : (Pass.containerFrame tokens (front ++ head).length).1 = c.kind ∧
      (Pass.containerFrame tokens (front ++ head).length).2.name = c.name :=
    ⟨congrArg (·.head.kind) hbare, congrArg (·.head.name) hbare⟩
  have hframeEnd := (Pass.endIndex_containerFrame tokens (front ++ head).length).trans hend
  generalize Pass.containerFrame tokens (front ++ head).length = scope at hopened hframe hframeEnd
  obtain ⟨kind, frame⟩ := scope
  obtain ⟨rfl, hframeName⟩ := hframe
  have hframeBehind : frame.endIndex =
      (front ++ head ++ [keyword]).length + (header.length + body.length + 1) := by
    have hlength : (front ++ head ++ [keyword]).length = (front ++ head).length + 1 :=
      List.length_append
    exact hframeEnd.trans (by omega)
  have hbehindKeyword : tokens = front ++ head ++ [keyword] ++
      (header ++ first :: (body ++ last :: rest)) := by
    rw [hsplit, List.append_cons]
  have hreadyBody : Ready namespaceName (front ++ head ++ [keyword] ++ (header ++ [first])) := by
    have hordinary : ∀ u ∈ head ++ keyword :: (header ++ [first]), isOrdinary u.kind = true :=
      fun u hu => hts.forall_kind (ordinary_container c) u (by grind)
    have hblockReady := hready.declaration hordinary
      ⟨head ++ keyword :: header, first, by simp, by rw [hopen]; rfl⟩
    simpa only [List.append_assoc, List.cons_append, List.nil_append] using hblockReady
  obtain ⟨symbols, hsymbols, hall⟩ := hopened.containerBody hhalt hbehindKeyword hheader hopen
    hbody hcurly hreadyBody hframeBehind
  rw [hframeName] at hall
  refine ⟨_, symbols, hbare, hsymbols, ?_⟩
  simpa only [List.append_assoc, List.cons_append, List.nil_append] using hall

end Written

end PhpOutline
