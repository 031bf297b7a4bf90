import Mathlib.Data.List.Basic
import PhpOutline.Proofs.Outline.Reference

/-!
# Functions and masks

The body of an enumeration or of an anonymous class is masked, and its functions are not filed.  The
pass takes any keyword of a container that no identifier follows for an anonymous one.  The word
`class` can stand elsewhere, as the name of an argument in an attribute, and then masks whatever it
takes for its body: the declaration behind the attribute.  Here a mask that is neither an
enumeration nor an expression `new class` is called false (`isFalseMask`).  A named function outside
enumerations and anonymous classes is filed unless it stands in a false mask
(`files_unless_falsely_masked`), and there are such functions (`function_behind_attribute_lost`).
-/

namespace PhpOutline

namespace Declaration

/-- Going back over white space, `readonly` and attribute groups, one comes to the word `new`.  The
tokens are those before a keyword, the nearest first. -/
def newBehind : List Token → Bool
  | [] => false
  | t :: ts =>
    if t.kind = .closeSquare then
      match h : beforeAttribute? (t :: ts) with
      | some rest =>
        have : rest.length < ts.length + 1 := length_lt_of_beforeGroup? h
        newBehind rest
      | none => false
    else if t.kind.isWhitespace || t.kind == .kwReadonly then newBehind ts
    else t.kind == .kwNew
termination_by tokens => tokens.length

/-- The token with the given index is the keyword of an anonymous class expression. -/
def isAnonymousClass (tokens : List Token) (k : Nat) : Bool :=
  (Pass.reached tokens)[k]?.any (·.kind = .kwClass) && newBehind (tokens.take k).reverse

/-- The token with the given index declares an enumeration. -/
def isEnumeration (tokens : List Token) (k : Nat) : Bool :=
  (Pass.reached tokens)[k]?.any (·.kind = .kwEnum)

/-- The token with the given index masks what follows, as a keyword of a container that no
identifier follows, without being that of an anonymous class expression. -/
def isFalseMask (tokens : List Token) (k : Nat) : Bool :=
  (containerKind? tokens k).isSome && (nextIdentifier? tokens k).isNone &&
    !isAnonymousClass tokens k

/-- One of the declarations picked out by `p` is around the token with the given index. -/
def isInside (tokens : List Token) (p : Nat → Bool) (k : Nat) : Bool :=
  (List.range (k + 1)).any fun m => p m && decide (k ≤ lastIndex tokens m)

/-- The identifier that comes next, an ampersand passed over. -/
def nextName? (tokens : List Token) (k : Nat) : Option String :=
  (((tokens.drop (k + 1)).find? fun t => !t.kind.isWhitespace && t.kind != .ampersand).filter
    fun t => t.kind = .identifier).map (·.text)

variable {tokens : List Token} {k : Nat} {t : Token} {p : Nat → Bool}

lemma isInside_eq_true :
    isInside tokens p k = true ↔ ∃ m ≤ k, p m = true ∧ k ≤ lastIndex tokens m := by
  rw [isInside, List.any_eq_true]
  simp only [List.mem_range, Nat.lt_succ_iff, Bool.and_eq_true, decide_eq_true_eq]

lemma eq_false_of_isInside (h : isInside tokens p k = false) {m : Nat} (hm : m ≤ k)
    (hk : k ≤ lastIndex tokens m) : p m = false := by
  by_contra hp
  have htrue := isInside_eq_true.2 ⟨m, hm, Bool.not_eq_false _ ▸ hp, hk⟩
  rw [h] at htrue
  cases htrue

/-- Outside enumerations and anonymous classes, only false masks are left. -/
lemma isMaskedAt_eq_isInside (henum : isInside tokens (isEnumeration tokens) k = false)
    (hclass : isInside tokens (isAnonymousClass tokens) k = false) :
    isMaskedAt tokens k = isInside tokens (isFalseMask tokens) k := by
  rw [Bool.eq_iff_iff, isMaskedAt_eq_true, isInside_eq_true]
  constructor
  · rintro ⟨m, hm, hmask, hk⟩
    refine ⟨m, hm, ?_, hk⟩
    have hnoEnum := eq_false_of_isInside henum hm hk
    have hnoClass := eq_false_of_isInside hclass hm hk
    rw [isMask, ← isEnumeration, hnoEnum, Bool.false_or] at hmask
    rw [isFalseMask, hmask, hnoClass]
    rfl
  · rintro ⟨m, hm, hmask, hk⟩
    rw [isFalseMask, Bool.and_eq_true] at hmask
    exact ⟨m, hm, by rw [isMask, hmask.1, Bool.or_true], hk⟩

/-- The name that is read behind the word `function` is the identifier that comes next. -/
lemma functionName?_map_fst (h : tokens[k]? = some t) :
    (functionName? tokens k).map (·.1) = nextName? tokens k :=
  identifier?_seek h fun t => !t.kind.isWhitespace && t.kind != .ampersand

end Declaration

namespace Pass

open Declaration

variable {tokens : List Token} {k c : Nat} {name : String}

/-- The owner of a token has its entry when the pass comes to the token. -/
lemma exists_entry_of_owner? (path : Option String) (hk : k ≤ (reached tokens).length)
    (hc : isContainer tokens c = true) (hck : c < k) :
    ∃ entry, ((before path tokens k).outline.ofKind (containerAt tokens c).kind)[
      (containerAt tokens c).name]? = some entry := by
  have hentry := entryAgrees_before path hk (containerAt tokens c).kind (containerAt tokens c).name
  unfold EntryAgrees at hentry
  cases hd : lastBelow? k (declares tokens (containerAt tokens c).kind
      (containerAt tokens c).name) with
  | none =>
    have hdeclares : declares tokens (containerAt tokens c).kind (containerAt tokens c).name c =
        true := by
      rw [declares, namedContainer?_eq hc]
      exact decide_eq_true rfl
    have hnone := List.find?_eq_none.1 hd c (by simpa using hck)
    exact absurd hdeclares hnone
  | some d =>
    rw [hd] at hentry
    obtain ⟨entry, hfound, -⟩ := hentry
    exact ⟨entry, hfound⟩

/-- A function with an owner is found among the methods of its owner's entry. -/
lemma exists_method_visited (path : Option String) (hk : k < (reached tokens).length)
    (hcontainer : isContainer tokens k = false) (hfiled : filedName? tokens k = some name)
    (howner : owner? tokens k = some c) :
    ∃ entry, ((visited path tokens k).outline.ofKind (containerAt tokens c).kind)[
        (containerAt tokens c).name]? = some entry ∧
      entry.methods[name]? = some (functionAt tokens k) := by
  obtain ⟨hck, hc, -⟩ := outermost?_eq_some.1 howner
  have hne : c ≠ k := by
    rintro rfl
    rw [hcontainer] at hc
    cases hc
  obtain ⟨entry, hentry⟩ := exists_entry_of_owner? path hk.le hc (hck.lt_of_ne hne)
  refine ⟨entry.addMethod (functionAt tokens k), ?_, ?_⟩
  · rw [outline_visited path hk, hcontainer, hfiled, howner]
    simp [Outline.getElem?_ofKind_addMethod, hentry]
  · rw [entry.getElem?_methods_addMethod (name_functionAt_of_filedName? hfiled), if_pos rfl]

/-- A function without an owner is found among the free functions. -/
lemma getElem?_functions_visited (path : Option String) (hk : k < (reached tokens).length)
    (hcontainer : isContainer tokens k = false) (hfiled : filedName? tokens k = some name)
    (howner : owner? tokens k = none) :
    (visited path tokens k).outline.functions[qualify (namespaceAt tokens k) name]? =
      some (functionAt tokens k) := by
  rw [outline_visited path hk, hcontainer, hfiled, howner]
  simp [Outline.getElem?_functions_addFunction]

/-- **A function is lost to nothing but a false mask.**  A named function outside enumerations and
anonymous classes is filed under its name, as a method of the open container or else as a free
function, unless a false mask is around it.  In that case the outline stays as it is. -/
theorem files_unless_falsely_masked (path : Option String)
    (hfunction : isFunction tokens k = true) (hname : nextName? tokens k = some name)
    (henum : isInside tokens (isEnumeration tokens) k = false)
    (hclass : isInside tokens (isAnonymousClass tokens) k = false) :
    let s := visited path tokens k
    if isInside tokens (isFalseMask tokens) k then s.outline = (before path tokens k).outline
    else
      match s.tracker.container with
      | some (kind, frame) =>
        ∃ entry, (s.outline.ofKind kind)[frame.name]? = some entry ∧
          entry.methods[name]? = some (functionAt tokens k)
      | none =>
        s.outline.functions[qualify (namespaceAt tokens k) name]? = some (functionAt tokens k) := by
  intro s
  obtain ⟨t, ht, hkind⟩ := exists_of_isFunction hfunction
  have hk : k < (reached tokens).length := (List.getElem?_eq_some_iff.1 ht).1
  have hcontainer : isContainer tokens k = false := isContainer_eq_false ht (by rw [hkind]; rfl)
  have hsymbol : (functionAt tokens k).name = some name := by
    rw [← hname, ← functionName?_map_fst (getElem?_of_reached ht)]
    rfl
  have hmasked := isMaskedAt_eq_isInside henum hclass
  cases hmask : isInside tokens (isFalseMask tokens) k with
  | true =>
    have hfiled : filedName? tokens k = none := by
      rw [filedName?, hmasked, hmask]
      simp
    rw [if_pos rfl, outline_visited path hk, hcontainer, hfiled]
    rfl
  | false =>
    have hfiled : filedName? tokens k = some name := by
      rw [filedName?, hmasked, hmask, hfunction]
      exact hsymbol
    rw [if_neg (by simp), container_visited path hk, ← owner?]
    cases howner : owner? tokens k with
    | some c => exact exists_method_visited path hk hcontainer hfiled howner
    | none => exact getElem?_functions_visited path hk hcontainer hfiled howner

/-- A class whose first method returns an anonymous class, with a method in it. -/
def factory : List RawToken :=
  [.named .kwClass "class", .named .whitespace " ", .named .identifier "A", .punctuation '{',
    .named .kwFunction "function", .named .whitespace " ", .named .identifier "make",
    .punctuation '(', .punctuation ')', .punctuation '{',
    .named .kwReturn "return", .named .whitespace " ", .named .kwNew "new", .named .whitespace " ",
    .named .attributeOpen "#[", .named .identifier "Item", .punctuation ']',
    .named .kwReadonly "readonly", .named .whitespace " ", .named .kwClass "class",
    .punctuation '{', .named .kwFunction "function", .named .whitespace " ",
    .named .identifier "inner", .punctuation '(', .punctuation ')', .punctuation '{',
    .punctuation '}', .punctuation '}', .punctuation ';', .punctuation '}',
    .named .kwFunction "function", .named .whitespace " ", .punctuation '&',
    .named .identifier "last", .punctuation '(', .punctuation ')', .punctuation '{',
    .punctuation '}', .punctuation '}']

/-- The method behind the anonymous class is filed under the class. -/
theorem files_last_of_factory :
    ∃ tokens, Token.prepare factory = .ok tokens ∧ isAnonymousClass tokens 19 = true ∧
      isFunction tokens 31 = true ∧ nextName? tokens 31 = some "last" ∧
      isInside tokens (isEnumeration tokens) 31 = false ∧
      isInside tokens (isAnonymousClass tokens) 31 = false ∧
      isInside tokens (isFalseMask tokens) 31 = false ∧
      ∃ entry, (visited none tokens 31).outline.classes["A"]? = some entry ∧
        entry.methods["last"]? = some (functionAt tokens 31) := by
  obtain ⟨tokens, htokens⟩ : ∃ tokens, Token.prepare factory = .ok tokens := ⟨_, rfl⟩
  obtain ⟨hclass, hfunction, hname, henum, houtside, hmask, hopen⟩ :
      isAnonymousClass tokens 19 = true ∧ isFunction tokens 31 = true ∧
        nextName? tokens 31 = some "last" ∧
        isInside tokens (isEnumeration tokens) 31 = false ∧
        isInside tokens (isAnonymousClass tokens) 31 = false ∧
        isInside tokens (isFalseMask tokens) 31 = false ∧
        ((visited none tokens 31).tracker.container.map fun scope => (scope.1, scope.2.name)) =
          some (.classDecl, "A") := by
    cases htokens
    decide +kernel
  obtain ⟨⟨kind, frame⟩, hscope, hplace⟩ := Option.map_eq_some_iff.1 hopen
  obtain ⟨rfl, hframe⟩ : kind = .classDecl ∧ frame.name = "A" := Prod.mk.inj hplace
  have hfiled := files_unless_falsely_masked none hfunction hname henum houtside
  simp only [hmask, Bool.false_eq_true, if_false, hscope] at hfiled
  rw [hframe] at hfiled
  exact ⟨tokens, htokens, hclass, hfunction, hname, henum, houtside, hmask, hfiled⟩

/-- A function behind an attribute one of whose arguments is named `class`. -/
def attributedFunction : List RawToken :=
  [.named .openTag "<?php\n", .named .attributeOpen "#[", .named .identifier "Route",
    .punctuation '(', .named .kwClass "class", .punctuation ':', .named .whitespace " ",
    .named .constantEncapsedString "'x'", .punctuation ')', .punctuation ']',
    .named .whitespace "\n", .named .kwFunction "function", .named .whitespace " ",
    .named .identifier "f", .punctuation '(', .punctuation ')', .named .whitespace " ",
    .punctuation '{', .punctuation '}', .named .whitespace "\n"]

/-- The function is in no enumeration and in no anonymous class, and still it is not filed. -/
theorem function_behind_attribute_lost :
    Lexer.tokenize "<?php\n#[Route(class: 'x')]\nfunction f() \x7b\x7d\n" = attributedFunction ∧
      ∃ tokens, Token.prepare attributedFunction = .ok tokens ∧
        isFunction tokens 11 = true ∧ nextName? tokens 11 = some "f" ∧
        isInside tokens (isEnumeration tokens) 11 = false ∧
        isInside tokens (isAnonymousClass tokens) 11 = false ∧
        (Analysis.ofTokens none tokens).outline.functions["f"]? = none := by
  refine ⟨by decide +kernel, _, rfl, ?_⟩
  decide +kernel

end Pass

end PhpOutline
