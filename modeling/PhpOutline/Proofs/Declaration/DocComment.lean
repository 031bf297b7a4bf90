import Mathlib.Data.List.Induction
import PhpOutline.Proofs.Layout.Lookbehind

/-!
# The doc comment of a declaration

A doc comment belongs to a declaration if all that stands between the two can be split into items:
white space without an empty line, visibilities, modifiers, `readonly` and whole attribute groups
(`HeadItem`).  `docblock?_exact` says that the look back from the keyword finds the comment that
belongs to it, that there is at most one, and that nothing is found if there is none.

The look back takes one item at a time (`LeadsTo`).  It passes over an attribute group as a whole,
from its closing bracket to the bracket that this one balances, so that comments and words inside a
group do not count.  Whatever that second look back passes over has balanced brackets
(`exists_of_beforeGroup?`), and it passes over all that has (`beforeGroup?_reverse_append`).
-/

namespace PhpOutline.Declaration

variable {t : Token} {ts us rest body item tokens : List Token} {depth index d : Nat}

/-! ### Square brackets -/

/-- Lists of tokens whose square brackets are balanced. -/
inductive SquaresBalance : List Token → Prop
  | nil : SquaresBalance []
  | token {t : Token} {ts : List Token} (opens : opensSquare t.kind = false)
      (closes : t.kind ≠ .closeSquare) (rest : SquaresBalance ts) : SquaresBalance (t :: ts)
  | group {first last : Token} {inner ts : List Token} (opens : opensSquare first.kind = true)
      (within : SquaresBalance inner) (closes : last.kind = .closeSquare)
      (rest : SquaresBalance ts) : SquaresBalance (first :: (inner ++ last :: ts))

lemma SquaresBalance.append (hts : SquaresBalance ts) (hus : SquaresBalance us) :
    SquaresBalance (ts ++ us) := by
  induction hts with
  | nil => exact hus
  | token opens closes _ ih => exact .token opens closes ih
  | group opens within closes _ _ ih =>
    rw [List.cons_append, List.append_assoc, List.cons_append]
    exact .group opens within closes ih

/-! ### The look back over a group -/

/-- Inside brackets the look back passes over a balanced part. -/
lemma beforeGroup?_reverse_append (hbody : SquaresBalance body) :
    beforeGroup? (depth + 1) (body.reverse ++ rest) = beforeGroup? (depth + 1) rest := by
  induction hbody generalizing depth rest with
  | nil => rfl
  | token opens closes _ ih =>
    rw [List.reverse_cons, List.append_assoc, ih, List.singleton_append,
      beforeGroup?_pass opens closes]
  | @group first last inner ts opens _ closes _ ihInner ih =>
    have hreverse : (first :: (inner ++ last :: ts)).reverse ++ rest =
        ts.reverse ++ (last :: (inner.reverse ++ (first :: rest))) := by simp
    rw [hreverse, ih, beforeGroup?_close closes, ihInner, beforeGroup?_open_inner opens]

/-- The look back from inside brackets comes to the bracket that opens the innermost one, and has
passed over a balanced part.  A closing bracket on its way leads to two such parts, the one up to
its own opening bracket and the one behind that, so that the induction is on the length. -/
lemma exists_of_beforeGroup? (h : beforeGroup? (depth + 1) ts = some rest) :
    ∃ body first ts', SquaresBalance body ∧ opensSquare first.kind = true ∧
      ts = body.reverse ++ first :: ts' ∧ beforeGroup? (depth + 1) (first :: ts') = some rest := by
  induction hn : ts.length using Nat.strong_induction_on generalizing depth ts with
  | _ n ih =>
    subst hn
    rcases ts with _ | ⟨t, ts⟩
    · cases h
    · by_cases hcloses : t.kind = .closeSquare
      · rw [beforeGroup?_close hcloses] at h
        obtain ⟨inner, first, ts₁, hinner, hfirst, rfl, hnext⟩ := ih _ (by simp) h rfl
        rw [beforeGroup?_open_inner hfirst] at hnext
        have hshorter : ts₁.length < (t :: (inner.reverse ++ first :: ts₁)).length := by
          simp only [List.length_cons, List.length_append]
          omega
        obtain ⟨body, first', ts₂, hbody, hfirst', rfl, hlast⟩ := ih _ hshorter hnext rfl
        refine ⟨body ++ first :: (inner ++ [t]), first', ts₂, ?_, hfirst', ?_, hlast⟩
        · exact hbody.append (.group hfirst hinner hcloses .nil)
        · simp
      · by_cases hopens : opensSquare t.kind = true
        · exact ⟨[], t, ts, .nil, hopens, rfl, h⟩
        · have hplain : opensSquare t.kind = false := Bool.eq_false_iff.2 hopens
          rw [beforeGroup?_pass hplain hcloses] at h
          obtain ⟨body, first, ts', hbody, hfirst, rfl, hlast⟩ := ih _ (by simp) h rfl
          refine ⟨body ++ [t], first, ts', ?_, hfirst, by simp, hlast⟩
          exact hbody.append (.token hplain hcloses .nil)

/-- A closing bracket ends an attribute group if a balanced part and the start of a group stand
before it. -/
lemma beforeAttribute?_eq_some_iff (ht : t.kind = .closeSquare) :
    beforeAttribute? (t :: ts) = some rest ↔
      ∃ body first, SquaresBalance body ∧ first.kind = .attributeOpen ∧
        ts = body.reverse ++ first :: rest := by
  rw [beforeAttribute?, beforeGroup?_close ht]
  constructor
  · intro h
    obtain ⟨body, first, ts', hbody, hfirst, rfl, hlast⟩ := exists_of_beforeGroup? h
    rw [beforeGroup?_open hfirst] at hlast
    split at hlast
    · next hattribute =>
      cases hlast
      exact ⟨body, first, hbody, hattribute, rfl⟩
    · cases hlast
  · rintro ⟨body, first, hbody, hattribute, rfl⟩
    rw [beforeGroup?_reverse_append hbody, beforeGroup?_open (opensSquare_iff.2 (.inr hattribute)),
      if_pos hattribute]

/-! ### Items -/

/-- What may stand, once or more often, between a doc comment and the keyword of a declaration. -/
inductive HeadItem : List Token → Prop
  | space {t : Token} (isSpace : t.kind.isWhitespace = true) (narrow : t.newlines ≤ 1) :
      HeadItem [t]
  | visibility {t : Token} (isVisibility : t.kind.isVisibility = true) : HeadItem [t]
  | modifier {t : Token} (isModifier : t.kind.isModifier = true) : HeadItem [t]
  | readonly {t : Token} (isReadonly : t.kind = .kwReadonly) : HeadItem [t]
  | group {first last : Token} {body : List Token} (opens : first.kind = .attributeOpen)
      (within : SquaresBalance body) (closes : last.kind = .closeSquare) :
      HeadItem (first :: (body ++ [last]))

/-- A token that is an item by itself is passed over by the look back for a doc comment. -/
def passesAlone (t : Token) : Bool :=
  t.kind.isWhitespace && decide (t.newlines ≤ 1) || t.kind.isVisibility || t.kind.isModifier ||
    t.kind == .kwReadonly

lemma headItem_singleton (ht : passesAlone t = true) : HeadItem [t] := by
  simp only [passesAlone, Bool.or_eq_true, Bool.and_eq_true, decide_eq_true_eq, beq_iff_eq] at ht
  rcases ht with ((⟨hspace, hnarrow⟩ | hvisibility) | hmodifier) | hreadonly
  · exact .space hspace hnarrow
  · exact .visibility hvisibility
  · exact .modifier hmodifier
  · exact .readonly hreadonly

/-- An item is one token, or it is an attribute group that the look back passes over as a whole. -/
lemma HeadItem.cases_behind (h : HeadItem item) (ts : List Token) :
    (∃ t, item = [t] ∧ passesAlone t = true) ∨
      ∃ t us, item.reverse ++ ts = t :: us ∧ t.kind = .closeSquare ∧
        beforeAttribute? (t :: us) = some ts := by
  cases h with
  | space isSpace narrow => exact .inl ⟨_, rfl, by simp [passesAlone, isSpace, narrow]⟩
  | visibility isVisibility => exact .inl ⟨_, rfl, by simp [passesAlone, isVisibility]⟩
  | modifier isModifier => exact .inl ⟨_, rfl, by simp [passesAlone, isModifier]⟩
  | readonly isReadonly => exact .inl ⟨_, rfl, by simp [passesAlone, isReadonly]⟩
  | @group first last body opens within closes =>
    refine .inr ⟨last, body.reverse ++ first :: ts, by simp, closes, ?_⟩
    exact (beforeAttribute?_eq_some_iff closes).2 ⟨body, first, within, opens, rfl⟩

/-- A token that is an item by itself is neither a doc comment nor a bracket. -/
lemma ne_of_passesAlone (ht : passesAlone t = true) :
    t.kind ≠ .docComment ∧ t.kind ≠ .closeSquare := by
  constructor <;> intro heq <;>
    simp [passesAlone, heq, Kind.isWhitespace, Kind.isVisibility, Kind.isModifier] at ht

/-! ### The look back for a doc comment -/

/-- The look back over one token. -/
lemma docblockBehind_cons_eq (t : Token) (ts : List Token) :
    docblockBehind (t :: ts) =
      if t.kind = .docComment then some t.text
      else if t.kind = .closeSquare then (beforeAttribute? (t :: ts)).bind docblockBehind
      else if passesAlone t then docblockBehind ts
      else none := by
  rw [docblockBehind_cons]
  by_cases hdoc : t.kind = .docComment
  · rw [if_pos hdoc, if_pos hdoc]
  rw [if_neg hdoc, if_neg hdoc]
  by_cases hcloses : t.kind = .closeSquare
  · rw [if_pos hcloses, if_pos hcloses, if_neg (by simp [hcloses, Kind.isWhitespace])]
  rw [if_neg hcloses, if_neg hcloses]
  -- white space with an empty line is the only token of its kind that is not passed over
  by_cases hspace : t.kind.isWhitespace = true
  · have hkind := Kind.eq_whitespace hspace
    by_cases hnarrow : t.newlines ≤ 1
    · rw [if_neg (by simp [hnarrow]), if_pos (by simp [isPassedOver, hspace]),
        if_pos (by simp [passesAlone, hspace, hnarrow])]
    · rw [if_pos (by simpa [hspace] using hnarrow), if_neg]
      simp [passesAlone, hkind, hnarrow, Kind.isVisibility, Kind.isModifier]
  · rw [if_neg (by simp [hspace])]
    congr 2
    rw [isPassedOver, passesAlone, Bool.or_right_comm, Bool.eq_false_iff.2 hspace, Bool.false_and]

/-- Going back from a keyword over items leads to the doc comment `c`, with the tokens `rest` before
it.  The tokens are given nearest first. -/
inductive LeadsTo (c : Token) (rest : List Token) : List Token → Prop
  | here (isComment : c.kind = .docComment) : LeadsTo c rest (c :: rest)
  | item {item ts : List Token} (passed : HeadItem item) (next : LeadsTo c rest ts) :
      LeadsTo c rest (item.reverse ++ ts)

variable {c c' : Token} {rest' : List Token}

lemma LeadsTo.cons (ht : passesAlone t = true) (h : LeadsTo c rest ts) :
    LeadsTo c rest (t :: ts) :=
  .item (headItem_singleton ht) h

/-- The comment that items lead to is found. -/
lemma docblockBehind_of_leadsTo (h : LeadsTo c rest ts) : docblockBehind ts = some c.text := by
  induction h with
  | here isComment => rw [docblockBehind_cons_eq, if_pos isComment]
  | @item item ts passed _ ih =>
    rcases passed.cases_behind ts with ⟨t, rfl, ht⟩ | ⟨t, us, heq, hcloses, hgroup⟩
    · obtain ⟨hdoc, hcloses⟩ := ne_of_passesAlone ht
      rw [List.reverse_singleton, List.singleton_append, docblockBehind_cons_eq, if_neg hdoc,
        if_neg hcloses, if_pos ht, ih]
    · rw [heq, docblockBehind_cons_eq, if_neg (by rw [hcloses]; decide), if_pos hcloses, hgroup,
        Option.bind_some, ih]

/-- Only a comment that items lead to is found. -/
lemma exists_leadsTo_of_docblockBehind {text : String} (h : docblockBehind ts = some text) :
    ∃ c rest, LeadsTo c rest ts ∧ c.text = text := by
  induction hn : ts.length using Nat.strong_induction_on generalizing ts with
  | _ n ih =>
    subst hn
    rcases ts with _ | ⟨t, ts⟩
    · rw [docblockBehind] at h
      cases h
    · rw [docblockBehind_cons_eq] at h
      split at h
      · next hdoc => exact ⟨t, ts, .here hdoc, Option.some.inj h⟩
      split at h
      · next hcloses =>
        obtain ⟨before, hgroup, hbefore⟩ := Option.bind_eq_some_iff.1 h
        obtain ⟨c, rest, hleads, htext⟩ := ih _ (length_lt_of_beforeGroup? hgroup) hbefore rfl
        obtain ⟨body, first, hbody, hfirst, rfl⟩ := (beforeAttribute?_eq_some_iff hcloses).1 hgroup
        refine ⟨c, rest, ?_, htext⟩
        simpa using LeadsTo.item (.group hfirst hbody hcloses) hleads
      split at h
      · next ht =>
        obtain ⟨c, rest, hleads, htext⟩ := ih _ (by simp) h rfl
        exact ⟨c, rest, hleads.cons ht, htext⟩
      · cases h

/-- Behind a doc comment there is no item that ends with it. -/
lemma HeadItem.reverse_append_ne (h : HeadItem item) (hc : c.kind = .docComment) :
    item.reverse ++ ts ≠ c :: rest := by
  intro heq
  rcases h.cases_behind ts with ⟨t, rfl, ht⟩ | ⟨t, us, hsplit, hcloses, -⟩
  · obtain ⟨rfl, -⟩ := List.cons.inj heq
    exact (ne_of_passesAlone ht).1 hc
  · rw [hsplit] at heq
    obtain ⟨rfl, -⟩ := List.cons.inj heq
    rw [hc] at hcloses
    cases hcloses

/-- The nearest item is told by the tokens. -/
lemma HeadItem.eq_of_reverse_append {item' : List Token} (h : HeadItem item) (h' : HeadItem item')
    (heq : item.reverse ++ ts = item'.reverse ++ us) : ts = us := by
  rcases h.cases_behind ts with ⟨t, rfl, ht⟩ | ⟨t, ts', hsplit, hcloses, hgroup⟩ <;>
    rcases h'.cases_behind us with ⟨t', rfl, ht'⟩ | ⟨t', us', hsplit', hcloses', hgroup'⟩
  · exact (List.cons.inj heq).2
  · rw [hsplit'] at heq
    obtain ⟨rfl, -⟩ := List.cons.inj heq
    exact absurd hcloses' (ne_of_passesAlone ht).2
  · rw [hsplit] at heq
    obtain ⟨rfl, -⟩ := List.cons.inj heq
    exact absurd hcloses (ne_of_passesAlone ht').2
  · rw [← hsplit, heq, hsplit'] at hgroup
    exact Option.some.inj (hgroup.symm.trans hgroup')

/-- Items lead to one comment only. -/
lemma LeadsTo.unique (h : LeadsTo c rest ts) (h' : LeadsTo c' rest' ts) : rest = rest' := by
  induction h with
  | here isComment =>
    generalize hts : c :: rest = ts at h'
    cases h' with
    | here => exact (List.cons.inj hts).2
    | item passed => exact absurd hts.symm (passed.reverse_append_ne isComment)
  | @item item ts passed _ ih =>
    generalize hts : item.reverse ++ ts = ts' at h'
    cases h' with
    | here isComment => exact absurd hts (passed.reverse_append_ne isComment)
    | item passed' next =>
      obtain rfl := passed.eq_of_reverse_append passed' hts
      exact ih next

/-! ### Comments by their indices -/

/-- The doc comment with index `d` and the given text belongs to the declaration whose keyword has
the given index: the tokens between the two can be split into items. -/
structure DocumentedAt (tokens : List Token) (index d : Nat) (text : String) : Prop where
  before : d < index
  comment : ∃ c, tokens[d]? = some c ∧ c.kind = .docComment ∧ c.text = text
  items : ∃ items : List (List Token), (∀ item ∈ items, HeadItem item) ∧
    (tokens.take index).drop (d + 1) = items.flatten

/-- Items that stand behind a comment lead back to it. -/
lemma leadsTo_of_items {items : List (List Token)} (hc : c.kind = .docComment)
    (hitems : ∀ item ∈ items, HeadItem item) :
    LeadsTo c rest (items.flatten.reverse ++ c :: rest) := by
  induction items using List.reverseRecOn with
  | nil => exact .here hc
  | append_singleton items item ih =>
    have hlast := hitems item (by simp)
    have hothers : ∀ item ∈ items, HeadItem item := by
      intro item' hmem
      exact hitems item' (List.mem_append_left _ hmem)
    have hsplit : (items ++ [item]).flatten.reverse ++ c :: rest =
        item.reverse ++ (items.flatten.reverse ++ c :: rest) := by simp
    rw [hsplit]
    exact .item hlast (ih hothers)

lemma LeadsTo.exists_items (h : LeadsTo c rest ts) :
    c.kind = .docComment ∧ ∃ items : List (List Token), (∀ item ∈ items, HeadItem item) ∧
      ts = items.flatten.reverse ++ c :: rest := by
  induction h with
  | here isComment => exact ⟨isComment, [], by simp, rfl⟩
  | @item item ts passed _ ih =>
    obtain ⟨hc, items, hitems, rfl⟩ := ih
    refine ⟨hc, items ++ [item], ?_, by simp⟩
    intro item' hmem
    rcases List.mem_append.1 hmem with hmem | hmem
    · exact hitems item' hmem
    · rw [List.mem_singleton.1 hmem]
      exact passed

/-- The comment of a declaration is the one that items lead back to. -/
lemma documentedAt_iff {text : String} :
    DocumentedAt tokens index d text ↔
      ∃ c rest, LeadsTo c rest (tokens.take index).reverse ∧ rest.length = d ∧ c.text = text := by
  constructor
  · rintro ⟨hbefore, ⟨c, hd, hc, rfl⟩, items, hitems, hbetween⟩
    obtain ⟨hlt, rfl⟩ := List.getElem?_eq_some_iff.1 hd
    have hsplit : tokens.take index = tokens.take d ++ tokens[d] :: items.flatten := by
      have hlt' : d < (tokens.take index).length := by
        rw [List.length_take]
        omega
      conv_lhs => rw [← List.take_append_drop d (tokens.take index)]
      rw [List.take_take, Nat.min_eq_left hbefore.le, List.drop_eq_getElem_cons hlt',
        List.getElem_take, hbetween]
    refine ⟨tokens[d], (tokens.take d).reverse, ?_, ?_, rfl⟩
    · have hreverse : (tokens.take index).reverse =
          items.flatten.reverse ++ tokens[d] :: (tokens.take d).reverse := by
        rw [hsplit]
        simp
      rw [hreverse]
      exact leadsTo_of_items hc hitems
    · rw [List.length_reverse, List.length_take]
      omega
  · rintro ⟨c, rest, hleads, rfl, rfl⟩
    obtain ⟨hc, items, hitems, heq⟩ := hleads.exists_items
    have hsplit : tokens.take index = rest.reverse ++ c :: items.flatten := by
      rw [← List.reverse_reverse (tokens.take index), heq]
      simp
    have hd : (tokens.take index)[rest.length]? = some c := by
      rw [hsplit, ← List.length_reverse, List.getElem?_append_right le_rfl, Nat.sub_self]
      rfl
    have hlt : rest.length < index := by
      have hlength := (List.getElem?_eq_some_iff.1 hd).1
      rw [List.length_take] at hlength
      omega
    rw [List.getElem?_take_of_lt hlt] at hd
    refine ⟨hlt, ⟨c, hd, hc, rfl⟩, items, hitems, ?_⟩
    rw [hsplit, ← List.length_reverse, List.drop_append]
    simp

/-- **The look back for a doc comment is exact.**  It finds the text of the comment that belongs to
the declaration; there is at most one such comment, and nothing is found if there is none. -/
theorem docblock?_exact (hindex : index < tokens.length) :
    (∀ text, docblock? tokens index = some text ↔ ∃ d, DocumentedAt tokens index d text) ∧
      (∀ d d' text text', DocumentedAt tokens index d text → DocumentedAt tokens index d' text' →
        d = d') ∧
      (docblock? tokens index = none ↔ ∀ d text, ¬DocumentedAt tokens index d text) := by
  have hbehind : docblock? tokens index = docblockBehind (tokens.take index).reverse := by
    rw [docblock?, Cursor.ofIndex_of_getElem? (List.getElem?_eq_getElem hindex), Cursor.behind]
  have hfound : ∀ text, docblock? tokens index = some text ↔
      ∃ d, DocumentedAt tokens index d text := by
    intro text
    simp only [hbehind, documentedAt_iff]
    constructor
    · intro h
      obtain ⟨c, rest, hleads, htext⟩ := exists_leadsTo_of_docblockBehind h
      exact ⟨rest.length, c, rest, hleads, rfl, htext⟩
    · rintro ⟨d, c, rest, hleads, -, rfl⟩
      exact docblockBehind_of_leadsTo hleads
  refine ⟨hfound, ?_, ?_⟩
  · intro d d' text text' h h'
    obtain ⟨c, rest, hleads, rfl, -⟩ := documentedAt_iff.1 h
    obtain ⟨c', rest', hleads', rfl, -⟩ := documentedAt_iff.1 h'
    rw [hleads.unique hleads']
  · rw [Option.eq_none_iff_forall_ne_some, forall_comm]
    apply forall_congr'
    intro text
    rw [ne_eq, hfound text, not_exists]

/-- `/** Doc */ #[A([1, #[/** no */]])] final class`: a comment inside the brackets of a group does
not count. -/
def attributedClass : List Token := [
  ⟨.docComment, "/** Doc */", 1⟩, ⟨.whitespace, "\n", 1⟩, ⟨.attributeOpen, "#[", 2⟩,
  ⟨.identifier, "A", 2⟩, ⟨.openBracket, "(", 2⟩, ⟨.openSquare, "[", 2⟩, ⟨.lnumber, "1", 2⟩,
  ⟨.comma, ",", 2⟩, ⟨.attributeOpen, "#[", 2⟩, ⟨.docComment, "/** no */", 2⟩,
  ⟨.closeSquare, "]", 2⟩, ⟨.closeSquare, "]", 2⟩, ⟨.closeBracket, ")", 2⟩, ⟨.closeSquare, "]", 2⟩,
  ⟨.whitespace, " ", 2⟩, ⟨.kwFinal, "final", 2⟩, ⟨.whitespace, " ", 2⟩, ⟨.kwClass, "class", 2⟩]

theorem docblock?_attributedClass :
    17 < attributedClass.length ∧ docblock? attributedClass 17 = some "/** Doc */" ∧
      ∀ d text, DocumentedAt attributedClass 17 d text → d = 0 := by
  have hindex : 17 < attributedClass.length := by decide
  have harray : SquaresBalance (attributedClass.extract 6 11) :=
    .token rfl (by decide) (.token rfl (by decide)
      (.group rfl (.token rfl (by decide) .nil) rfl .nil))
  have hgroup : SquaresBalance (attributedClass.extract 3 13) :=
    .token rfl (by decide) (.token rfl (by decide)
      (.group rfl harray rfl (.token rfl (by decide) .nil)))
  have hdocumented : DocumentedAt attributedClass 17 0 "/** Doc */" := by
    refine ⟨by decide, ⟨_, rfl, rfl, rfl⟩, [attributedClass.extract 1 2,
      attributedClass.extract 2 14, attributedClass.extract 14 15, attributedClass.extract 15 16,
      attributedClass.extract 16 17], ?_, rfl⟩
    simp only [List.forall_mem_cons, List.not_mem_nil, IsEmpty.forall_iff, implies_true, and_true]
    exact ⟨.space rfl (by decide), .group rfl hgroup rfl, .space rfl (by decide), .modifier rfl,
      .space rfl (by decide)⟩
  refine ⟨hindex, ((docblock?_exact hindex).1 _).2 ⟨0, hdocumented⟩, ?_⟩
  intro d text h
  exact (docblock?_exact hindex).2.1 d 0 text _ h hdocumented

end PhpOutline.Declaration
