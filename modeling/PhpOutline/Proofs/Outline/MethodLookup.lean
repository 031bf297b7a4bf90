import Mathlib.Data.List.Basic
import PhpOutline.Proofs.Lexer.Shape
import PhpOutline.Proofs.Outline.Lookup
import PhpOutline.Proofs.Outline.WellFormed
import PhpOutline.Proofs.Text.Split

/-!
# Looking up methods by qualified name

A method is asked for by the name of its container, two colons and its own name.  The query is split
at its first two colons.  The name of a container is an identifier of the source and has no colon
(`Analysis.colon_not_mem_name`), so that the query is split right behind that name
(`Outline.method?_qualified`).  The containers are then tried by kind, and the methods by their
exact names before they are compared without regard to letter case (`Container.exists_method?`).

So every method of an outline is found again, unless a container of another kind hides its own
(`Analysis.method?_of_filed`).
-/

namespace PhpOutline

/-! ### Containers and their methods -/

namespace Container

variable {c : Container} {m q : String} {f : FunctionSymbol}

lemma method?_of_getElem? (h : c.methods[m]? = some f) : c.method? m = some f := by
  rw [method?, h]

/-- Where there is a method whose name differs from a query at most in letter case, the query finds
such a method. -/
lemma exists_method? (h : c.methods[m]? = some f) (hq : Text.eqIgnoringCase m q = true) :
    ∃ key g, c.methods[key]? = some g ∧ Text.eqIgnoringCase key q = true ∧
      c.method? q = some g := by
  cases hexact : c.methods[q]? with
  | some g => exact ⟨q, g, hexact, BEq.rfl, method?_of_getElem? hexact⟩
  | none =>
    have hfound : (c.methods.toList.find? fun entry => Text.eqIgnoringCase entry.1 q).isSome =
        true := by
      rw [List.find?_isSome]
      exact ⟨(m, f), Std.TreeMap.mem_toList_iff_getElem?_eq_some.2 h, hq⟩
    obtain ⟨⟨key, g⟩, hentry⟩ := Option.isSome_iff_exists.1 hfound
    have hmem := Std.TreeMap.mem_toList_iff_getElem?_eq_some.1 (List.mem_of_find?_eq_some hentry)
    have halike := List.find?_some hentry
    refine ⟨key, g, hmem, halike, ?_⟩
    rw [method?, hexact, hentry]
    rfl

end Container

namespace Outline

variable {o : Outline} {kind : ContainerKind} {name : String} {c : Container}

/-- The values of a map are what its keys lead to. -/
lemma mem_values {map : Std.TreeMap String Container} :
    c ∈ map.values ↔ ∃ key : String, map[key]? = some c := by
  have hfold : map.values = map.foldr (fun _ c cs => c :: cs) [] := rfl
  rw [hfold, Std.TreeMap.foldr_eq_foldr_toList, ← List.map_eq_foldr]
  simp [Std.TreeMap.mem_toList_iff_getElem?_eq_some]

lemma mem_containers :
    c ∈ o.containers ↔ ∃ kind, ∃ key : String, (o.ofKind kind)[key]? = some c := by
  simp only [containers, List.mem_append, mem_values]
  constructor
  · rintro ((h | h) | h)
    · exact ⟨.classDecl, h⟩
    · exact ⟨.traitDecl, h⟩
    · exact ⟨.interfaceDecl, h⟩
  · rintro ⟨kind, h⟩
    cases kind with
    | classDecl => exact .inl (.inl h)
    | traitDecl => exact .inl (.inr h)
    | interfaceDecl => exact .inr h

/-- A container is found by its name alone if no other kind has that name. -/
lemma container?_eq_some (h : (o.ofKind kind)[name]? = some c)
    (hother : ∀ kind', kind' ≠ kind → (o.ofKind kind')[name]? = none) :
    o.container? name = some c := by
  cases kind with
  | classDecl =>
    have hclass : o.classes[name]? = some c := h
    rw [container?, hclass]
    rfl
  | traitDecl =>
    have hclass : o.classes[name]? = none := hother .classDecl (by decide)
    have htrait : o.traits[name]? = some c := h
    rw [container?, hclass, htrait]
    rfl
  | interfaceDecl =>
    have hclass : o.classes[name]? = none := hother .classDecl (by decide)
    have htrait : o.traits[name]? = none := hother .traitDecl (by decide)
    have hinterface : o.interfaces[name]? = some c := h
    rw [container?, hclass, htrait, hinterface]
    rfl

/-- A query with a name that has no colon is split behind that name. -/
lemma method?_qualified (h : ':' ∉ name.toList) (m : String) :
    o.method? (name ++ "::" ++ m) = (o.container? name).bind (·.method? m) := by
  have hquery : (name ++ "::" ++ m).toList = name.toList ++ ([':', ':'] ++ m.toList) := by simp
  rw [method?, hquery, Text.splitOnce?_append h]
  simp

end Outline

/-! ### Names in a source -/

/-- An identifier has no colon. -/
lemma Lexer.colon_not_mem_of_isIdentifier {word : List Char} (h : isIdentifier word = true) :
    ':' ∉ word := by
  cases word with
  | nil => cases h
  | cons c cs =>
    rw [isIdentifier, Bool.and_eq_true, List.all_eq_true] at h
    intro hmem
    rcases List.mem_cons.1 hmem with rfl | hmem
    · exact absurd h.1 (by decide)
    · exact absurd (h.2 _ hmem) (by decide)

/-- A token that the lexer reads as an identifier is one. -/
lemma Lexer.isIdentifier_of_prepare {source : String} {tokens : List Token} {t : Token}
    (h : Token.prepare (tokenize source) = .ok tokens) (ht : t ∈ tokens)
    (hkind : t.kind = .identifier) : isIdentifier t.text.toList = true := by
  obtain ⟨r, hr, hknown, htext⟩ := (spells_of_prepareFrom h).exists_mem ht
  have hshape := (formed_tokensFrom .markup source.toList).1 r hr
  have hof : isOf .identifier r = true := by
    rw [RawToken.isOf_of_kind? (by simp) hknown, hkind]
    rfl
  cases r with
  | punctuation => cases hof
  | named category text =>
    obtain rfl : category = .identifier := by simpa [isOf] using hof
    have hword : isWordCategory .identifier = true → isIdentifier text.toList = true := hshape
    rw [← htext]
    exact hword (by decide)

/-- The name of a container is the text of an identifier. -/
lemma Declaration.exists_identifier_of_namedContainer? {tokens : List Token} {k : Nat}
    {kind : ContainerKind} {name : String} (h : namedContainer? tokens k = some (kind, name)) :
    ∃ t ∈ tokens, t.kind = .identifier ∧ t.text = name := by
  obtain ⟨_, -, hname⟩ := Option.bind_eq_some_iff.1 h
  obtain ⟨_, hnext, heq⟩ := Option.map_eq_some_iff.1 hname
  cases heq
  obtain ⟨t, ht, htext⟩ := Option.map_eq_some_iff.1 hnext
  obtain ⟨hfound, hkind⟩ := Option.filter_eq_some_iff.1 ht
  have hmem := List.mem_of_mem_drop (List.mem_of_find?_eq_some hfound)
  exact ⟨t, hmem, of_decide_eq_true hkind, htext⟩

/-! ### Methods of a source -/

namespace Analysis

variable {path source : String} {a : Analysis} {c : Container}

/-- The outline of a source is made of its tokens. -/
lemma exists_prepare_of_ofSource (h : ofSource path source = .ok a) :
    ∃ tokens, Token.prepare (Lexer.tokenize source) = .ok tokens ∧
      a.outline = (ofTokens (some path) tokens).outline := by
  rw [ofSource] at h
  cases htokens : Token.prepare (Lexer.tokenize source) with
  | error e =>
    rw [htokens] at h
    cases h
  | ok tokens =>
    rw [htokens] at h
    cases h
    exact ⟨tokens, rfl, rfl⟩

/-- What stands under a kind and a name is a container of that kind and name. -/
lemma eq_of_getElem?_ofKind {kind : ContainerKind} {name : String}
    (h : ofSource path source = .ok a) (hc : (a.outline.ofKind kind)[name]? = some c) :
    c.kind = kind ∧ c.name = name := by
  obtain ⟨tokens, htokens, houtline⟩ := exists_prepare_of_ofSource h
  rw [houtline] at hc
  have hformed := Pass.wellFormed_container htokens hc
  exact ⟨hformed.kind_eq, hformed.name_eq⟩

/-- A container of a source stands under its own kind and name. -/
lemma getElem?_of_mem_containers (h : ofSource path source = .ok a)
    (hc : c ∈ a.outline.containers) : (a.outline.ofKind c.kind)[c.name]? = some c := by
  obtain ⟨kind, name, hentry⟩ := Outline.mem_containers.1 hc
  obtain ⟨rfl, rfl⟩ := eq_of_getElem?_ofKind h hentry
  exact hentry

/-- The name of a container of a source has no colon. -/
lemma colon_not_mem_name (h : ofSource path source = .ok a)
    (hc : c ∈ a.outline.containers) : ':' ∉ c.name.toList := by
  have hentry := getElem?_of_mem_containers h hc
  obtain ⟨tokens, htokens, houtline⟩ := exists_prepare_of_ofSource h
  rw [houtline] at hentry
  obtain ⟨d, hlast, -⟩ := Pass.exists_declaration hentry
  have hdeclares := (Declaration.lastBelow?_eq_some.1 hlast).2.1
  obtain ⟨t, ht, hkind, htext⟩ :=
    Declaration.exists_identifier_of_namedContainer? (Declaration.declares_eq_true.1 hdeclares)
  rw [← htext]
  exact Lexer.colon_not_mem_of_isIdentifier (Lexer.isIdentifier_of_prepare htokens ht hkind)

/-- A query that starts with the name of a container and two colons is answered by that container,
if no container of another kind has its name. -/
lemma method?_of_mem_containers (h : ofSource path source = .ok a)
    (hc : c ∈ a.outline.containers)
    (hother : ∀ d ∈ a.outline.containers, d.name = c.name → d.kind = c.kind) (q : String) :
    a.outline.method? (c.name ++ "::" ++ q) = c.method? q := by
  have hnone : ∀ kind, kind ≠ c.kind → (a.outline.ofKind kind)[c.name]? = none := by
    intro kind hkind
    cases hd : (a.outline.ofKind kind)[c.name]? with
    | none => rfl
    | some d =>
      obtain ⟨hkind', hname'⟩ := eq_of_getElem?_ofKind h hd
      have hsame := hother d (Outline.mem_containers.2 ⟨kind, c.name, hd⟩) hname'
      exact absurd (hkind'.symm.trans hsame) hkind
  rw [Outline.method?_qualified (colon_not_mem_name h hc),
    Outline.container?_eq_some (getElem?_of_mem_containers h hc) hnone]
  rfl

/-- **Every method can be looked up again.**  Take a container in the outline of a source whose name
no container of another kind has.  Its name, two colons and the name of one of its methods give
exactly that method, also if the container has other methods whose names differ from it in letter
case.  With the name in other letter case they give some method of the container whose name is that
one up to letter case. -/
theorem method?_of_filed {path source : String} {a : Analysis} (h : ofSource path source = .ok a)
    {c : Container} (hc : c ∈ a.outline.containers)
    (hother : ∀ d ∈ a.outline.containers, d.name = c.name → d.kind = c.kind)
    {m : String} {f : FunctionSymbol} (hm : c.methods[m]? = some f) :
    a.outline.method? (c.name ++ "::" ++ m) = some f ∧
      ∀ q, Text.eqIgnoringCase m q = true →
        ∃ key g, c.methods[key]? = some g ∧ Text.eqIgnoringCase key q = true ∧
          a.outline.method? (c.name ++ "::" ++ q) = some g := by
  simp only [method?_of_mem_containers h hc hother]
  exact ⟨Container.method?_of_getElem? hm, fun q hq => Container.exists_method? hm hq⟩

/-- A class with two methods whose names differ in letter case, and a trait with such a method. -/
def twinMethods : String :=
  "<?php\nclass A \x7b\nfunction Run() \x7b\x7d\nfunction run() \x7b\x7d\n\x7d\n" ++
    "trait B \x7b\nfunction RUN() \x7b\x7d\n\x7d\n"

/-- Neither of the two methods hides the other, and a third spelling finds one of them. -/
theorem method?_of_twinMethods :
    ∃ a c f, ofSource "a.php" twinMethods = .ok a ∧ c ∈ a.outline.containers ∧ c.name = "A" ∧
      (∀ d ∈ a.outline.containers, d.name = c.name → d.kind = c.kind) ∧
      c.methods["run"]? = some f ∧ f.startLine = 4 ∧
      a.outline.method? (c.name ++ "::" ++ "run") = some f ∧
      ∃ key g, c.methods[key]? = some g ∧ Text.eqIgnoringCase key "RUN" = true ∧
        a.outline.method? (c.name ++ "::" ++ "RUN") = some g := by
  have hfound : ((ofSource "a.php" twinMethods).toOption.map fun a =>
      a.outline.containers.map fun c =>
        (c.kind, c.name, c.methods["run"]?.map FunctionSymbol.startLine)) =
      some [(.classDecl, "A", some 4), (.traitDecl, "B", none)] := by decide +kernel
  cases h : ofSource "a.php" twinMethods with
  | error e => simp [h, Except.toOption] at hfound
  | ok a =>
    simp only [h, Except.toOption, Option.map_some, Option.some_inj, List.map_eq_cons_iff,
      List.map_eq_nil_iff, Prod.mk.injEq] at hfound
    obtain ⟨c, _, hlist, ⟨-, hname, hline⟩, c', _, rfl, ⟨-, hname', -⟩, rfl⟩ := hfound
    obtain ⟨f, hf, hline⟩ := Option.map_eq_some_iff.1 hline
    have hmem : c ∈ a.outline.containers := by simp [hlist]
    have hother : ∀ d ∈ a.outline.containers, d.name = c.name → d.kind = c.kind := by
      simp [hlist, hname, hname']
    obtain ⟨hexact, hfolded⟩ := method?_of_filed h hmem hother hf
    exact ⟨a, c, f, rfl, hmem, hname, hother, hf, hline, hexact, hfolded "RUN" (by decide)⟩

end Analysis

end PhpOutline
