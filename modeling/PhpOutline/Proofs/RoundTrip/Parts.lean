import Mathlib.Data.List.Basic
import PhpOutline.Proofs.RoundTrip.Written

/-!
# The parts of a written declaration

Which kinds of token the parts of a declaration have: nothing that ends a declaration stands in its
head, and nothing else is declared in its body.  The curly brackets of a whole declaration are
balanced.
-/

namespace PhpOutline

namespace Written

open RawToken (hasKind hasKind_of_imp)

variable {raws front back : List RawToken}

/-! ### The kinds in the parts of a declaration -/

lemma declaresNothing_of_isInline {k : Kind} (h : isInline k = true) :
    declaresNothing k = true := by
  rw [isInline, Bool.and_eq_true, Bool.and_eq_true] at h
  exact h.1.1

lemma isCurly_of_isInline {k : Kind} (h : isInline k = true) : isCurly k = false := by
  rw [isInline, Bool.and_eq_true, Bool.and_eq_true, Bool.not_eq_true'] at h
  exact h.1.2

lemma ne_semicolon_of_isInline {k : Kind} (h : isInline k = true) : k ≠ .semicolon := by
  rw [isInline, Bool.and_eq_true, bne_iff_ne] at h
  exact h.2

lemma isInline_of_isNamePart (k : Kind) : k.isNamePart = true → isInline k = true := by
  cases k <;> decide

/-- The grammar has all tokens of an inline part, and they declare nothing. -/
lemma plain_of_inline (h : ∀ r ∈ raws, hasKind isInline r = true) :
    ∀ r ∈ raws, hasKind declaresNothing r = true :=
  fun r hr => hasKind_of_imp (fun _ => declaresNothing_of_isInline) (h r hr)

/-- A gap consists of white space. -/
lemma whitespace_gap (g : Gap) : ∀ r ∈ g.render, hasKind Kind.isWhitespace r = true := by
  intro r hr
  obtain ⟨text, -, rfl⟩ := List.mem_map.1 hr
  rfl

lemma inline_gap (g : Gap) : ∀ r ∈ g.render, hasKind isInline r = true := by
  intro r hr
  obtain ⟨text, -, rfl⟩ := List.mem_map.1 hr
  rfl

lemma inline_name (n : Name) : ∀ r ∈ n.parts, hasKind isInline r = true :=
  fun r hr => hasKind_of_imp isInline_of_isNamePart (n.isNamePart r hr)

lemma inline_word (w : Word) : hasKind isInline w.token = true := by
  cases w with
  | visibility v => cases v <;> rfl
  | modifier m => cases m <;> rfl
  | readonly => rfl

lemma inline_words (h : Head) : ∀ r ∈ h.renderWords, hasKind isInline r = true := by
  intro r hr
  obtain ⟨⟨w, g⟩, -, hmem⟩ := List.mem_flatMap.1 hr
  rcases List.mem_cons.1 hmem with rfl | hgap
  · exact inline_word w
  · exact inline_gap _ r hgap

lemma inline_head (h : Head) : ∀ r ∈ h.render, hasKind isInline r = true := by
  rw [Head.render, List.forall_mem_append]
  refine ⟨?_, inline_words h⟩
  rw [Head.renderDocComment]
  split
  · exact List.forall_mem_cons.2 ⟨rfl, inline_gap _⟩
  · exact List.forall_mem_nil _

lemma inline_item (i : Item) : ∀ r ∈ i.render, hasKind isInline r = true := by
  rw [Item.render, List.forall_mem_append, List.forall_mem_append]
  exact ⟨inline_gap _, inline_name _, inline_gap _⟩

lemma inline_interfaces (i : Interfaces) : ∀ r ∈ i.render, hasKind isInline r = true := by
  rw [Interfaces.render, List.forall_mem_append]
  refine ⟨inline_item _, ?_⟩
  intro r hr
  obtain ⟨item, -, hmem⟩ := List.mem_flatMap.1 hr
  rcases List.mem_cons.1 hmem with rfl | hitem
  · rfl
  · exact inline_item _ r hitem

/-- Between the keyword of a container and its body there is nothing that ends a declaration. -/
lemma inline_header (c : ContainerDecl) : ∀ r ∈ c.renderHeader, hasKind isInline r = true := by
  rw [ContainerDecl.renderHeader, List.forall_mem_append, List.forall_mem_cons]
  refine ⟨inline_gap _, rfl, ?_⟩
  rw [ContainerDecl.renderParents, List.forall_mem_append, List.forall_mem_append]
  refine ⟨inline_gap _, ?_, ?_⟩
  · rw [ContainerDecl.renderParent]
    split
    · exact List.forall_mem_cons.2 ⟨rfl, inline_item _⟩
    · exact List.forall_mem_nil _
  · rw [ContainerDecl.renderInterfaces]
    split
    · exact List.forall_mem_cons.2 ⟨rfl, inline_interfaces _⟩
    · exact List.forall_mem_nil _

/-- Behind the keyword of a function nothing else is declared. -/
lemma plain_behind (f : FunctionDecl) :
    ∀ r ∈ f.renderBehind, hasKind declaresNothing r = true := by
  rw [FunctionDecl.renderBehind, FunctionDecl.renderTail, List.forall_mem_append,
    List.forall_mem_cons, List.forall_mem_append, List.forall_mem_append, List.forall_mem_singleton]
  refine ⟨plain_of_inline (inline_gap _), rfl, ⟨plain_of_inline f.isInline, ?_⟩, ?_⟩
  · rw [FunctionDecl.renderBody]
    split
    · next body _ => exact List.forall_mem_cons.2 ⟨rfl, body.plain⟩
    · exact List.forall_mem_nil _
  · rw [FunctionDecl.last]
    split <;> rfl

/-! ### Words that only a file has -/

/-- The kind is neither that of the word `namespace` nor that of the word that halts the
compiler. -/
def isOrdinary (k : Kind) : Bool := k != .kwNamespace && k != .kwHaltCompiler

lemma isOrdinary_of_declaresNothing (k : Kind) :
    declaresNothing k = true → isOrdinary k = true := by
  cases k <;> decide

lemma ordinary_of_plain (h : ∀ r ∈ raws, hasKind declaresNothing r = true) :
    ∀ r ∈ raws, hasKind isOrdinary r = true :=
  fun r hr => hasKind_of_imp isOrdinary_of_declaresNothing (h r hr)

lemma ordinary_of_inline (h : ∀ r ∈ raws, hasKind isInline r = true) :
    ∀ r ∈ raws, hasKind isOrdinary r = true :=
  ordinary_of_plain (plain_of_inline h)

lemma ordinary_function (f : FunctionDecl) : ∀ r ∈ f.render, hasKind isOrdinary r = true := by
  rw [FunctionDecl.render, List.forall_mem_append, List.forall_mem_cons]
  exact ⟨ordinary_of_inline (inline_head _), rfl, ordinary_of_plain (plain_behind f)⟩

lemma ordinary_container (c : ContainerDecl) : ∀ r ∈ c.render, hasKind isOrdinary r = true := by
  rw [ContainerDecl.render, List.forall_mem_append, List.forall_mem_cons, List.forall_mem_append,
    List.forall_mem_cons, List.forall_mem_append, List.forall_mem_append, List.forall_mem_singleton]
  refine ⟨ordinary_of_inline (inline_head _), ?_, ordinary_of_inline (inline_header c), rfl,
    ⟨ordinary_of_inline (inline_gap _), ?_⟩, rfl⟩
  · cases c.kind <;> rfl
  · intro r hr
    obtain ⟨⟨f, g⟩, -, hmem⟩ := List.mem_flatMap.1 hr
    rcases List.mem_append.1 hmem with hf | hg
    · exact ordinary_function f r hf
    · exact ordinary_of_inline (inline_gap g) r hg

lemma ordinary_namespace (n : NamespaceDecl) :
    ∀ r ∈ n.renderBehind, hasKind isOrdinary r = true := by
  rw [NamespaceDecl.renderBehind, List.forall_mem_append, List.forall_mem_append,
    List.forall_mem_append, List.forall_mem_singleton]
  exact ⟨ordinary_of_inline (inline_gap _), ordinary_of_inline (inline_name _),
    ordinary_of_inline (inline_gap _), rfl⟩

/-! ### Balanced parts -/

/-- An inline part has no curly brackets at all. -/
lemma balanced_of_inline (h : ∀ r ∈ raws, hasKind isInline r = true) : Balanced raws := by
  induction raws with
  | nil => exact .nil
  | cons r raws ih =>
    obtain ⟨hr, hrest⟩ := List.forall_mem_cons.1 h
    refine .token (hasKind_of_imp (fun k hk => ?_) hr) (ih hrest)
    rw [isCurly_of_isInline hk]
    rfl

lemma Balanced.append (hfront : Balanced front) (hback : Balanced back) :
    Balanced (front ++ back) := by
  induction hfront with
  | nil => exact hback
  | token notCurly rest ih => exact .token notCurly ih
  | group opens within closes rest ihWithin ih =>
    rw [List.cons_append, List.append_assoc, List.cons_append]
    exact .group opens within closes ih

lemma balanced_function (f : FunctionDecl) : Balanced f.render := by
  have htail : Balanced (f.renderBody ++ [f.last]) := by
    rw [FunctionDecl.renderBody, FunctionDecl.last]
    cases f.body with
    | some body => exact .group rfl body.balanced rfl .nil
    | none => exact .token rfl .nil
  rw [FunctionDecl.render, FunctionDecl.renderBehind, FunctionDecl.renderTail, List.append_assoc]
  refine (balanced_of_inline (inline_head _)).append (.token rfl ?_)
  refine (balanced_of_inline (inline_gap _)).append (.token rfl ?_)
  exact (balanced_of_inline f.isInline).append htail

lemma balanced_methods (c : ContainerDecl) : Balanced c.renderMethods := by
  rw [ContainerDecl.renderMethods]
  induction c.methods with
  | nil => exact .nil
  | cons entry methods ih =>
    rw [List.flatMap_cons]
    exact ((balanced_function _).append (balanced_of_inline (inline_gap _))).append ih

end Written

end PhpOutline
