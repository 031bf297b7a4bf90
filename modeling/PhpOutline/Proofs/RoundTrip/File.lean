import Mathlib.Data.List.Nodup
import PhpOutline.Proofs.RoundTrip.Filing

/-!
# Writing a file down and reading it back

The pass comes over a written file declaration by declaration.  Behind each of them no scope is
open and the next one may start, so that each is filed as if it stood alone; a later declaration
takes the place of an earlier one with the same key.  In a file whose declarations have distinct
names none is lost: its outline says just what was written (`outline_of_render`).
-/

namespace PhpOutline

namespace Written

open Declaration
open RawToken (hasKind hasKind_iff hasKind_of_imp)

variable {tokens front ts rest : List Token} {outline : Outline} {namespaceName : String}
  {c : ContainerDecl} {f : FunctionDecl}

/-! ### What was filed, looked up -/

/-- Among items with distinct keys, the one with a given key is found. -/
lemma find?_eq_some_of_nodup {α β : Type} [DecidableEq β] (key : α → β) {l : List α}
    (hl : (l.map key).Nodup) {a : α} {b : β} :
    (l.find? fun x => key x = b) = some a ↔ a ∈ l ∧ key a = b := by
  refine ⟨fun hfound => ?_, fun ⟨hmem, hkey⟩ => ?_⟩
  · have hkey := List.find?_some hfound
    exact ⟨List.mem_of_find?_eq_some hfound, of_decide_eq_true hkey⟩
  · have hsome : (l.find? fun x => key x = b).isSome = true := by
      rw [List.find?_isSome]
      exact ⟨a, hmem, decide_eq_true hkey⟩
    obtain ⟨x, hx⟩ := Option.isSome_iff_exists.1 hsome
    have hxkey := List.find?_some hx
    rw [decide_eq_true_eq] at hxkey
    rw [hx, List.inj_on_of_nodup_map hl (List.mem_of_find?_eq_some hx) hmem (hxkey.trans hkey.symm)]

/-- Among items with distinct keys, the last one with a given key is the first one. -/
lemma find?_reverse_of_nodup {α β : Type} [DecidableEq β] (key : α → β) {l : List α}
    (hl : (l.map key).Nodup) (b : β) :
    (l.reverse.find? fun x => key x = b) = l.find? fun x => key x = b := by
  have hreverse : (l.reverse.map key).Nodup := by rwa [List.map_reverse, List.nodup_reverse]
  ext a
  rw [find?_eq_some_of_nodup key hreverse, find?_eq_some_of_nodup key hl, List.mem_reverse]

/-- The symbols of written methods have names. -/
lemma isSome_name_of_symbols {symbols : List FunctionSymbol}
    (hsymbols : symbols.map (·.placeless) = c.methods.map (·.1.symbol)) :
    ∀ s ∈ symbols, s.name.isSome = true := by
  intro s hs
  have hmem : s.placeless ∈ c.methods.map (·.1.symbol) :=
    hsymbols ▸ List.mem_map.2 ⟨s, hs, rfl⟩
  obtain ⟨entry, -, hentry⟩ := List.mem_map.1 hmem
  have hname : s.placeless.name = some entry.1.name := by
    rw [← hentry]
    rfl
  exact Option.isSome_iff_exists.2 ⟨_, hname⟩

/-- The methods that are found in a container once all of them are filed are the written ones. -/
lemma method?_foldl_addMethod {bare : Container} {symbols : List FunctionSymbol} (m : String)
    (hnone : bare.methods[m]? = none)
    (hsymbols : symbols.map (·.placeless) = c.methods.map (·.1.symbol)) :
    (symbols.foldl Container.addMethod bare).description.method? m =
      (c.description namespaceName).method? m := by
  have hdistinct : ((c.methods.map (·.1)).map (·.name)).Nodup := by
    rw [List.map_map]
    exact c.distinct
  calc (symbols.foldl Container.addMethod bare).methods[m]?.map (·.placeless)
      = (symbols.reverse.find? fun s => s.name = some m).map (·.placeless) := by
        rw [bare.getElem?_methods_foldl_addMethod (isSome_name_of_symbols hsymbols), hnone,
          Option.or_none]
    _ = (symbols.map (·.placeless)).reverse.find? fun s => s.name = some m := by
        rw [← List.map_reverse, List.find?_map]
        rfl
    _ = ((c.methods.map (·.1)).map (·.symbol)).reverse.find? fun s => s.name = some m := by
        rw [hsymbols, List.map_map]
        rfl
    _ = ((c.methods.map (·.1)).reverse.find? fun f => f.name = m).map (·.symbol) := by
        rw [← List.map_reverse, List.find?_map]
        congr 2
        funext f
        simp [FunctionDecl.symbol]
    _ = (c.method? m).map (·.symbol) := by
        rw [find?_reverse_of_nodup (fun f : FunctionDecl => f.name) hdistinct]
        rfl

/-- A container that is filed with all its methods has the description that was written. -/
lemma description_foldl_addMethod {bare : Container} {symbols : List FunctionSymbol}
    (hbare : bare.description = ⟨(c.description namespaceName).head, fun _ => none⟩)
    (hsymbols : symbols.map (·.placeless) = c.methods.map (·.1.symbol)) :
    (symbols.foldl Container.addMethod bare).description = c.description namespaceName := by
  have hhead : (symbols.foldl Container.addMethod bare).description.head =
      bare.description.head :=
    congrArg (fun c : Container => { c with startLine := 0, endLine := 0 })
      (bare.head_foldl_addMethod symbols)
  have hmethod : ∀ m, (symbols.foldl Container.addMethod bare).description.method? m =
      (c.description namespaceName).method? m := by
    intro m
    have hempty := congrFun (congrArg ContainerDescription.method? hbare) m
    exact method?_foldl_addMethod m (Option.map_eq_none_iff.1 hempty) hsymbols
  rw [hbare] at hhead
  generalize (symbols.foldl Container.addMethod bare).description = d at hhead hmethod
  obtain ⟨head, method?⟩ := d
  rw [ContainerDecl.description, ContainerDescription.mk.injEq]
  exact ⟨hhead, funext hmethod⟩

/-! ### Declarations one by one -/

/-- The declaration of the container with the given kind and name. -/
def declaresContainer (kind : ContainerKind) (name : String) (c : ContainerDecl) : Bool :=
  decide ((c.kind, c.name) = (kind, name))

/-- The declaration of the function with the given key. -/
def declaresFunction (namespaceName key : String) (f : FunctionDecl) : Bool :=
  decide (qualify namespaceName f.name = key)

/-- The outline after some declarations: each is found unless a later one takes its place, and
what was there before is found unless a declaration takes its place. -/
structure Extends (namespaceName : String) (containers : List ContainerDecl)
    (functions : List FunctionDecl) (before after : Outline) : Prop where
  container : ∀ kind name, after.description? kind name =
    ((containers.reverse.find? (declaresContainer kind name)).map
      (·.description namespaceName)).or (before.description? kind name)
  function : ∀ key, after.freeFunction? key =
    ((functions.reverse.find? (declaresFunction namespaceName key)).map (·.symbol)).or
      (before.freeFunction? key)

/-- More declarations extend the outline further. -/
lemma Extends.trans {containers containers' : List ContainerDecl}
    {functions functions' : List FunctionDecl} {o o' o'' : Outline}
    (h : Extends namespaceName containers functions o o')
    (h' : Extends namespaceName containers' functions' o' o'') :
    Extends namespaceName (containers ++ containers') (functions ++ functions') o o'' where
  container kind name := by
    rw [h'.container, h.container, List.reverse_append, List.find?_append, Option.map_or,
      Option.or_assoc]
  function key := by
    rw [h'.function, h.function, List.reverse_append, List.find?_append, Option.map_or,
      Option.or_assoc]

/-- A written container extends the outline by one entry. -/
lemma Reaches.extendsContainer (hhalt : Pass.reached tokens = tokens)
    (htokens : tokens = front ++ (ts ++ rest)) (hts : Spells ts c.render)
    (hready : Ready namespaceName front) (h : Reaches tokens front {} outline) :
    ∃ o, Reaches tokens (front ++ ts) {} o ∧ Extends namespaceName [c] [] outline o := by
  obtain ⟨bare, symbols, hbare, hsymbols, hreaches⟩ := h.container hhalt htokens hts hready
  have hkind : bare.kind = c.kind := congrArg (·.head.kind) hbare
  have hname : bare.name = c.name := congrArg (·.head.name) hbare
  have hdescription := description_foldl_addMethod hbare hsymbols
  refine ⟨_, hreaches, fun kind name => ?_, fun key => ?_⟩
  · rw [Outline.description?, Outline.getElem?_ofKind_foldl_addMethod,
      Outline.getElem?_ofKind_addContainer, Outline.getElem?_ofKind_addContainer, hkind, hname]
    by_cases hc : c.kind = kind ∧ c.name = name
    · obtain ⟨rfl, rfl⟩ := hc
      simp [declaresContainer, hdescription]
    · simp [declaresContainer, hc, Outline.description?]
  · rw [Outline.freeFunction?, Outline.functions_foldl_addMethod, Outline.functions_addContainer]
    rfl

/-- A written free function extends the outline by one entry. -/
lemma Reaches.extendsFunction (hhalt : Pass.reached tokens = tokens)
    (htokens : tokens = front ++ (ts ++ rest)) (hts : Spells ts f.render)
    (hready : Ready namespaceName front) (h : Reaches tokens front {} outline) :
    ∃ o, Reaches tokens (front ++ ts) {} o ∧ Extends namespaceName [] [f] outline o := by
  obtain ⟨symbol, hsymbol, hreaches⟩ := h.function hhalt htokens hts hready (by rintro _ ⟨⟩)
  refine ⟨_, hreaches, fun kind name => ?_, fun key => ?_⟩
  · rw [Outline.description?, fileUnder, Outline.ofKind_addFunction]
    rfl
  · rw [Outline.freeFunction?, fileUnder, Outline.getElem?_functions_addFunction]
    by_cases hf : qualify namespaceName f.name = key
    · simp [declaresFunction, hf, hsymbol]
    · simp [declaresFunction, hf, Outline.freeFunction?]

lemma ordinary_decl (d : Decl) : ∀ r ∈ d.render, hasKind isOrdinary r = true := by
  cases d with
  | container c => exact ordinary_container c
  | function f => exact ordinary_function f

/-- The last token of a declaration ends something. -/
lemma exists_last_decl {d : Decl} (hts : Spells ts d.render) :
    ∃ init last, ts = init ++ [last] ∧ isBoundary last.kind = true := by
  cases d with
  | function f => exact exists_last_function hts
  | container c =>
    rw [Decl.render, ContainerDecl.render, ← List.cons_append, ← List.append_assoc,
      ← List.cons_append, ← List.append_assoc] at hts
    obtain ⟨init, close, rfl, -, hclose⟩ := spells_append.1 hts
    obtain ⟨last, rfl, hkind, -⟩ := spells_singleton.1 hclose
    exact ⟨init, last, rfl, by rw [← Option.some.inj hkind]; rfl⟩

/-- The declarations of a file are filed one by one. -/
lemma Reaches.declarations {declarations : List (Decl × Gap)} (hhalt : Pass.reached tokens = tokens)
    (htokens : tokens = front ++ (ts ++ rest))
    (hts : Spells ts (FileDecl.renderDeclarations declarations))
    (hready : Ready namespaceName front) (h : Reaches tokens front {} outline) :
    ∃ o, Reaches tokens (front ++ ts) {} o ∧
      Extends namespaceName (declarations.filterMap (·.1.container?))
        (declarations.filterMap (·.1.function?)) outline o := by
  induction declarations generalizing front ts outline with
  | nil =>
    obtain rfl := spells_nil.1 hts
    rw [List.append_nil]
    exact ⟨outline, h, fun _ _ => rfl, fun _ => rfl⟩
  | cons entry declarations ih =>
    obtain ⟨d, g⟩ := entry
    rw [FileDecl.renderDeclarations, List.flatMap_cons] at hts
    obtain ⟨one, more, rfl, hone, hmore⟩ := spells_append.1 hts
    obtain ⟨decl, gap, rfl, hdecl, hgap⟩ := spells_append.1 hone
    simp only [List.append_assoc] at htokens
    -- the declaration itself
    obtain ⟨o, hreaches, hextends⟩ : ∃ o, Reaches tokens (front ++ decl) {} o ∧
        Extends namespaceName d.container?.toList d.function?.toList outline o := by
      cases d with
      | container c => exact h.extendsContainer hhalt htokens hdecl hready
      | function f => exact h.extendsFunction hhalt htokens hdecl hready
    -- the gap behind it
    have hbehind : Ready namespaceName (front ++ decl ++ gap) :=
      (hready.declaration (hdecl.forall_kind (ordinary_decl d)) (exists_last_decl hdecl)).gap
        (hgap.forall_kind (whitespace_gap _))
    have hpassed : Reaches tokens (front ++ decl ++ gap) {} o :=
      hreaches.gap hhalt (by rw [htokens, List.append_assoc]) hgap
        (Tracker.endsBehind_container (by rintro _ ⟨⟩))
    obtain ⟨o', hall, hmoreExtends⟩ :=
      ih (by rw [htokens]; simp only [List.append_assoc]) hmore hbehind hpassed
    refine ⟨o', by simpa only [List.append_assoc] using hall, ?_⟩
    have htrans := hextends.trans hmoreExtends
    cases d <;> exact htrans

/-! ### The tokens in front of the declarations -/

/-- A declaration may start behind the open tag. -/
lemma ready_openTag {tag : Token} (htag : tag.kind = .openTag) : Ready "" [tag] where
  boundary := stopsAt_cons (by rw [htag]; rfl) (by rw [htag]; rfl)
  namespaceBehind_eq after := by
    rw [List.reverse_singleton, namespaceBehind, if_neg (by rw [htag]; decide)]
    rfl

/-- Behind the declaration of a namespace it is in force. -/
lemma ready_namespace {n : NamespaceDecl} (front : List Token) (hts : Spells ts n.render) :
    Ready n.name.text (front ++ ts) := by
  obtain ⟨keyword, behind, rfl, hkind, -, hbehind⟩ := spells_cons.1 hts
  have hkeyword : keyword.kind = .kwNamespace := (Option.some.inj hkind).symm
  have hdeclared := fun rest => declaredNamespace?_append front.reverse keyword rest hbehind
  have hordinary : ∀ u ∈ behind, u.kind ≠ .kwNamespace := by
    intro u hu hkind
    have hu := hbehind.forall_kind (ordinary_namespace n) u hu
    rw [hkind] at hu
    cases hu
  constructor
  · rw [NamespaceDecl.renderBehind, ← List.append_assoc, ← List.append_assoc] at hbehind
    obtain ⟨init, close, rfl, -, hclose⟩ := spells_append.1 hbehind
    obtain ⟨last, rfl, hlast, -⟩ := spells_singleton.1 hclose
    have hsemi : last.kind = .semicolon := (Option.some.inj hlast).symm
    rw [← List.cons_append, ← List.append_assoc, List.reverse_append]
    exact stopsAt_cons (by rw [hsemi]; rfl) (by rw [hsemi]; rfl)
  · intro after
    rw [List.reverse_append, List.reverse_cons, List.append_assoc,
      namespaceBehind_append fun u hu => hordinary u (List.mem_reverse.1 hu), List.reverse_reverse,
      List.singleton_append, namespaceBehind, if_pos hkeyword, hdeclared]

/-- Behind the tokens in front of the declarations the namespace of the file is in force. -/
lemma ready_preamble {file : FileDecl} (hts : Spells ts file.renderPreamble) :
    Ready file.namespaceName ts := by
  obtain ⟨tag, others, rfl, hkind, -, hothers⟩ := spells_cons.1 hts
  obtain ⟨gap, declared, rfl, hgap, hdeclared⟩ := spells_append.1 hothers
  have hopen : Ready "" (tag :: gap) :=
    (ready_openTag (Option.some.inj hkind).symm).gap (hgap.forall_kind (whitespace_gap _))
  rw [FileDecl.namespaceName]
  cases hfile : file.namespaceDecl with
  | none =>
    rw [hfile] at hdeclared
    obtain rfl := spells_nil.1 hdeclared
    rw [List.append_nil]
    exact hopen
  | some entry =>
    obtain ⟨n, g⟩ := entry
    rw [hfile] at hdeclared
    obtain ⟨keyword, space, rfl, hkeyword, hspace⟩ := spells_append.1 hdeclared
    have hready := (ready_namespace (tag :: gap) hkeyword).gap
      (hspace.forall_kind (whitespace_gap _))
    rw [List.append_assoc] at hready
    exact hready

/-! ### The whole file -/

/-- The kind opens nothing and does not halt the compiler. -/
def isQuiet (k : Kind) : Bool := opensNothing k && k != .kwHaltCompiler

lemma isQuiet_of_isInline (k : Kind) : isInline k = true → isQuiet k = true := by
  cases k <;> decide

lemma quiet_of_inline {raws : List RawToken} (h : ∀ r ∈ raws, hasKind isInline r = true) :
    ∀ r ∈ raws, hasKind isQuiet r = true :=
  fun r hr => hasKind_of_imp isQuiet_of_isInline (h r hr)

lemma quiet_namespace (n : NamespaceDecl) : ∀ r ∈ n.render, hasKind isQuiet r = true := by
  rw [NamespaceDecl.render, NamespaceDecl.renderBehind, List.forall_mem_cons,
    List.forall_mem_append, List.forall_mem_append, List.forall_mem_append,
    List.forall_mem_singleton]
  exact ⟨rfl, quiet_of_inline (inline_gap _), quiet_of_inline (inline_name _),
    quiet_of_inline (inline_gap _), rfl⟩

/-- Nothing is opened in front of the declarations, and the compiler is not halted there. -/
lemma quiet_preamble (file : FileDecl) : ∀ r ∈ file.renderPreamble, hasKind isQuiet r = true := by
  rw [FileDecl.renderPreamble, List.forall_mem_cons, List.forall_mem_append]
  refine ⟨rfl, quiet_of_inline (inline_gap _), ?_⟩
  cases file.namespaceDecl with
  | none => exact List.forall_mem_nil _
  | some entry =>
    exact List.forall_mem_append.2 ⟨quiet_namespace _, quiet_of_inline (inline_gap _)⟩

/-- The compiler is not halted in a written file, and the grammar has all its tokens. -/
lemma unhalted_file (file : FileDecl) :
    ∀ r ∈ file.render, hasKind (· != .kwHaltCompiler) r = true := by
  rw [FileDecl.render, List.forall_mem_append]
  constructor
  · intro r hr
    refine hasKind_of_imp (fun k hk => ?_) (quiet_preamble file r hr)
    rw [isQuiet, Bool.and_eq_true] at hk
    exact hk.2
  · intro r hr
    obtain ⟨⟨d, g⟩, -, hmem⟩ := List.mem_flatMap.1 hr
    have hordinary : hasKind isOrdinary r = true := by
      rcases List.mem_append.1 hmem with hd | hg
      · exact ordinary_decl d r hd
      · exact ordinary_of_inline (inline_gap g) r hg
    refine hasKind_of_imp (fun k hk => ?_) hordinary
    rw [isOrdinary, Bool.and_eq_true] at hk
    exact hk.2

/-- The pass over a written file ends with an outline of all its declarations. -/
lemma exists_outline {file : FileDecl} (hts : Spells tokens file.render) :
    Extends file.namespaceName file.containers file.functions {}
      (Pass.run none tokens).outline := by
  have hhalt : Pass.reached tokens = tokens := by
    refine Pass.reached_eq_self fun t ht hkind => ?_
    have hrunning := hts.forall_kind (unhalted_file file) t ht
    rw [hkind] at hrunning
    cases hrunning
  obtain ⟨preamble, others, rfl, hpreamble, hothers⟩ := spells_append.1 hts
  have hstart : Reaches (preamble ++ others) [] {} {} := ⟨rfl, rfl⟩
  have hquiet : ∀ u ∈ preamble, opensNothing u.kind = true := by
    intro u hu
    have hisQuiet := hpreamble.forall_kind (quiet_preamble file) u hu
    rw [isQuiet, Bool.and_eq_true] at hisQuiet
    exact hisQuiet.1
  have hbehind : Reaches (preamble ++ others) preamble {} {} :=
    hstart.plain hhalt rfl hquiet (Tracker.endsBehind_container (by rintro _ ⟨⟩))
  have hsplit : preamble ++ others = preamble ++ (others ++ []) := by rw [List.append_nil]
  obtain ⟨o, hreaches, hextends⟩ := hbehind.declarations hhalt hsplit hothers
    (ready_preamble hpreamble)
  have hrun : (Pass.run none (preamble ++ others)).outline = o := by
    rw [Pass.run_eq_before, hhalt]
    exact hreaches.outline_eq
  rw [hrun]
  exact hextends

/-- Qualified names differ if the names do. -/
lemma qualify_injective (namespaceName : String) : Function.Injective (qualify namespaceName) := by
  intro a b h
  unfold qualify at h
  split at h
  · exact h
  · exact (String.append_right_inj _).1 h

/-- The containers of the outline are the declared ones, if no two of them have one kind and one
name. -/
lemma Extends.description?_eq_some {containers : List ContainerDecl}
    {functions : List FunctionDecl} {o : Outline}
    (h : Extends namespaceName containers functions {} o)
    (hdistinct : (containers.map fun c => (c.kind, c.name)).Nodup) {kind : ContainerKind}
    {name : String} {d : ContainerDescription} :
    o.description? kind name = some d ↔
      ∃ c ∈ containers, c.kind = kind ∧ c.name = name ∧ c.description namespaceName = d := by
  have hempty : ({} : Outline).description? kind name = none := by cases kind <;> rfl
  have hfind : containers.reverse.find? (declaresContainer kind name) =
      containers.find? fun c => (c.kind, c.name) = (kind, name) :=
    find?_reverse_of_nodup (fun c : ContainerDecl => (c.kind, c.name)) hdistinct (kind, name)
  rw [h.container, hempty, Option.or_none, hfind, Option.map_eq_some_iff]
  constructor
  · rintro ⟨c, hfound, rfl⟩
    obtain ⟨hmem, hkey⟩ :=
      (find?_eq_some_of_nodup (fun c : ContainerDecl => (c.kind, c.name)) hdistinct).1 hfound
    obtain ⟨hkind, hname⟩ := Prod.mk.inj hkey
    exact ⟨c, hmem, hkind, hname, rfl⟩
  · rintro ⟨c, hmem, rfl, rfl, rfl⟩
    exact ⟨c, (find?_eq_some_of_nodup _ hdistinct).2 ⟨hmem, rfl⟩, rfl⟩

/-- The free functions of the outline are the declared ones, if no two of them have one name. -/
lemma Extends.freeFunction?_eq_some {containers : List ContainerDecl}
    {functions : List FunctionDecl} {o : Outline}
    (h : Extends namespaceName containers functions {} o)
    (hdistinct : (functions.map (·.name)).Nodup) {key : String} {s : FunctionSymbol} :
    o.freeFunction? key = some s ↔
      ∃ f ∈ functions, qualify namespaceName f.name = key ∧ f.symbol = s := by
  have hempty : ({} : Outline).freeFunction? key = none := rfl
  have hkeys : (functions.map fun f => qualify namespaceName f.name).Nodup := by
    have hqualified := hdistinct.map (qualify_injective namespaceName)
    rwa [List.map_map] at hqualified
  have hfind : functions.reverse.find? (declaresFunction namespaceName key) =
      functions.find? fun f => qualify namespaceName f.name = key :=
    find?_reverse_of_nodup (fun f : FunctionDecl => qualify namespaceName f.name) hkeys key
  rw [h.function, hempty, Option.or_none, hfind, Option.map_eq_some_iff]
  constructor
  · rintro ⟨f, hfound, rfl⟩
    obtain ⟨hmem, hkey⟩ := (find?_eq_some_of_nodup
      (fun f : FunctionDecl => qualify namespaceName f.name) hkeys).1 hfound
    exact ⟨f, hmem, hkey, rfl⟩
  · rintro ⟨f, hmem, rfl, rfl⟩
    exact ⟨f, (find?_eq_some_of_nodup _ hkeys).2 ⟨hmem, rfl⟩, rfl⟩

/-- **The round trip.**  A written file is analyzed without an error.  Under each kind and name the
outline has the container that was written, with its methods, and under each qualified name the free
function; it has nothing else. -/
theorem outline_of_render (file : FileDecl) :
    ∃ a, Analysis.ofRawTokens file.render = .ok a ∧
      (∀ kind name d, a.outline.description? kind name = some d ↔
        ∃ c ∈ file.containers, c.kind = kind ∧ c.name = name ∧
          c.description file.namespaceName = d) ∧
      (∀ key s, a.outline.freeFunction? key = some s ↔
        ∃ f ∈ file.functions, qualify file.namespaceName f.name = key ∧ f.symbol = s) := by
  have hknown : ∀ r ∈ file.render, r.kind?.isSome = true := by
    intro r hr
    obtain ⟨k, hk, -⟩ := hasKind_iff.1 (unhalted_file file r hr)
    exact Option.isSome_iff_exists.2 ⟨k, hk⟩
  obtain ⟨tokens, htokens, hspells⟩ := Token.exists_prepareFrom file.render hknown 0 1
  have hextends := exists_outline hspells
  refine ⟨Analysis.ofTokens none tokens, ?_, ?_, ?_⟩
  · rw [Analysis.ofRawTokens, Token.prepare, htokens]
    rfl
  · intro kind name d
    rw [← hextends.description?_eq_some file.containersDistinct]
    cases kind <;> rfl
  · intro key s
    rw [← hextends.freeFunction?_eq_some file.functionsDistinct]
    rfl

/-- A file with a namespace, an abstract class that has a doc comment, a parent, two interfaces and
two methods, one of them with a body, and a free function. -/
def shapesFile : FileDecl where
  gap := ["\n"]
  namespaceDecl := some
    ({ gap := [" "]
       separated := by decide
       name := ⟨[.named .identifier "App", .named .nsSeparator "\\", .named .identifier "Shapes"],
         by decide, by decide⟩
       nameGap := [] }, ["\n"])
  declarations :=
    [(.container
      { head := ⟨some ("/** @package Geo */", ⟨["\n"], by decide⟩),
          [(.modifier .abstract, ⟨[" "], by decide⟩)]⟩
        kind := .classDecl
        gap := [" "]
        name := "Square"
        nameGap := [" "]
        parent := some ⟨[" "], ⟨[.named .nameFullyQualified "\\Base"], by decide, by decide⟩, [" "]⟩
        interfaces := some
          { first := ⟨[" "], ⟨[.named .identifier "Shape"], by decide, by decide⟩, []⟩
            others := [⟨[" "], ⟨[.named .identifier "Solid"], by decide, by decide⟩, [" "]⟩] }
        bodyGap := [" "]
        methods :=
          [({ head := ⟨none,
                [(.visibility .publicAccess, ⟨[" "], by decide⟩),
                  (.modifier .static, ⟨[" "], by decide⟩)]⟩
              gap := [" "]
              name := "side"
              parameters := [.punctuation '(', .named .variableName "$x", .punctuation ')']
              isInline := by decide
              body := some
                { tokens :=
                    [.punctuation '{', .named .kwReturn "return", .named .whitespace " ",
                      .named .variableName "$x", .punctuation ';', .punctuation '}']
                  plain := by decide
                  balanced := .group rfl
                    (.token rfl (.token rfl (.token rfl (.token rfl .nil)))) rfl .nil } }, [" "]),
            ({ head := ⟨none, [(.modifier .abstract, ⟨[" "], by decide⟩)]⟩
               gap := [" "]
               name := "area"
               parameters := [.punctuation '(', .punctuation ')']
               isInline := by decide
               body := none }, [" "])]
        distinct := by decide }, ["\n"]),
      (.function
        { head := ⟨none, []⟩
          gap := [" "]
          name := "double"
          parameters := [.punctuation '(', .punctuation ')']
          isInline := by decide
          body := some ⟨[], by decide, .nil⟩ }, [])]
  containersDistinct := by decide
  functionsDistinct := by decide

/-- The text of the file, and what its outline says about the class and the function. -/
theorem outline_of_shapesFile :
    RawToken.concat shapesFile.render =
        "<?php \nnamespace App\\Shapes;\n/** @package Geo */\nabstract class Square " ++
        "extends \\Base implements Shape, Solid \x7b public static function side($x)" ++
        "\x7b\x7breturn $x;\x7d\x7d abstract function area(); \x7d\nfunction double()\x7b\x7d" ∧
      ∃ a, Analysis.ofRawTokens shapesFile.render = .ok a ∧
        (∃ d, a.outline.description? .classDecl "Square" = some d ∧
          d.head.parent = some "\\Base" ∧ d.head.interfaces = some ["Shape", "Solid"] ∧
          d.head.docblock = some "/** @package Geo */" ∧
          d.head.package.namespaceName = "App\\Shapes" ∧
          (d.method? "side").map (·.signature) = some "($x)" ∧
          (d.method? "area").isSome = true) ∧
        (a.outline.freeFunction? "App\\Shapes\\double").isSome = true := by
  obtain ⟨a, ha, hcontainers, hfunctions⟩ := outline_of_render shapesFile
  refine ⟨by decide +kernel, a, ha,
    ⟨_, (hcontainers _ _ _).2 ⟨_, List.mem_cons_self, rfl, rfl, rfl⟩, ?_⟩, ?_⟩
  · decide +kernel
  · rw [(hfunctions _ _).2 ⟨_, List.mem_cons_self, by decide +kernel, rfl⟩]
    rfl

end Written

end PhpOutline
