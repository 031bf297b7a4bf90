import Mathlib.Data.List.Find
import PhpOutline.Proofs.Layout.Stream
import PhpOutline.Proofs.Lexer.WordContext
import PhpOutline.Proofs.Outline.FalseMask
import PhpOutline.Proofs.Outline.SourceLines

/-!
# Imports

An import names what other files declare: `use`, perhaps one of the words `function` and `const`,
and names with commas between them, or a group of names behind a common part, each with a word of
its own (`Import`).

The pass knows an import by the word `use` directly before the word `function`.  In a group the word
`function` stands behind a bracket or a comma, and there it is taken for a declaration if the name
behind it has a single part.  `files_of_import` says for every word `function` of every import what
the pass does with it.  A comment counts as a token there: behind `use` it hides that word, and
before the name it hides the name.
-/

namespace PhpOutline

open Lexer RawToken

namespace Import

/-! ### The grammar of imports -/

/-- White space and comments between the words of a statement. -/
def IsGap (gap : List RawToken) : Prop := ∀ r ∈ gap, isTrivia r = true

instance (gap : List RawToken) : Decidable (IsGap gap) :=
  inferInstanceAs (Decidable (∀ r ∈ gap, isTrivia r = true))

/-- The categories of names, of one part or of several. -/
def nameCategories : List Category := [.identifier, .nameQualified, .nameFullyQualified]

def isName (r : RawToken) : Bool := nameCategories.any fun c => isOf c r

/-- One of the words `function` and `const`, or nothing. -/
inductive Marker : List RawToken → Prop
  | nothing : Marker []
  | word {r : RawToken} {gap : List RawToken}
      (isMarker : (isOf .kwFunction r || isOf .kwConst r) = true) (space : IsGap gap) :
      Marker (r :: gap)

/-- A name and perhaps the other name that it gets. -/
inductive Target : List RawToken → Prop
  | name {r : RawToken} {gap : List RawToken} (named : isName r = true) (space : IsGap gap) :
      Target (r :: gap)
  | renamed {r word other : RawToken} {gap gap' gap'' : List RawToken} (named : isName r = true)
      (space : IsGap gap) (isAs : isOf .kwAs word = true) (space' : IsGap gap')
      (isOther : isOf .identifier other = true) (space'' : IsGap gap'') :
      Target (r :: (gap ++ word :: (gap' ++ other :: gap'')))

/-- One name of a group, perhaps with a word of its own. -/
inductive GroupItem : List RawToken → Prop
  | mk {marker target : List RawToken} (marked : Marker marker) (names : Target target) :
      GroupItem (marker ++ target)

/-- Items with commas between them. -/
inductive Separated (item : List RawToken → Prop) : List RawToken → Prop
  | last {ts : List RawToken} (isItem : item ts) : Separated item ts
  | comma {ts gap us : List RawToken} (isItem : item ts) (space : IsGap gap)
      (more : Separated item us) : Separated item (ts ++ .punctuation ',' :: (gap ++ us))

/-- A comma behind the last name of a group, or nothing. -/
inductive FinalComma : List RawToken → Prop
  | nothing : FinalComma []
  | comma {gap : List RawToken} (space : IsGap gap) : FinalComma (.punctuation ',' :: gap)

end Import

open Import in
/-- Import statements, of names one by one or of a group of names. -/
inductive Import : List RawToken → Prop
  | plain {word : RawToken} {gap marker targets : List RawToken} (isUse : isOf .kwUse word = true)
      (space : IsGap gap) (marked : Marker marker) (names : Separated Target targets) :
      Import (word :: (gap ++ (marker ++ (targets ++ [.punctuation ';']))))
  | group {word root separator : RawToken}
      {gap marker gap₁ gap₂ gap₃ items final gap₄ : List RawToken} (isUse : isOf .kwUse word = true)
      (space : IsGap gap) (marked : Marker marker) (named : isName root = true)
      (space₁ : IsGap gap₁) (isSeparator : isOf .nsSeparator separator = true)
      (space₂ : IsGap gap₂) (space₃ : IsGap gap₃) (names : Separated GroupItem items)
      (ends : FinalComma final) (space₄ : IsGap gap₄) :
      Import (word :: (gap ++ (marker ++ (root :: (gap₁ ++ separator :: (gap₂ ++ .punctuation '{' ::
        (gap₃ ++ (items ++ (final ++ .punctuation '}' :: (gap₄ ++ [.punctuation ';']))))))))))

namespace Import

variable {r word : RawToken} {ts us xs ys first rest gap items tail front back : List RawToken}
  {name : String} {mark : Char}

/-- The tokens go on with a name behind a gap. -/
def BeforeName (rest : List RawToken) : Prop :=
  ∃ gap r more, IsGap gap ∧ isName r = true ∧ rest = gap ++ r :: more

/-- The tokens are the word `use` and a gap. -/
def BehindUse (first : List RawToken) : Prop :=
  ∃ word gap, isOf .kwUse word = true ∧ IsGap gap ∧ first = word :: gap

/-- The tokens end where an item of a group starts, behind the bracket that opens the group or
behind a comma in it. -/
def StartsItem (first : List RawToken) : Prop :=
  ∃ front mark gap, (mark = '{' ∨ mark = ',' ∧ .punctuation '{' ∈ front) ∧ IsGap gap ∧
    first = front ++ .punctuation mark :: gap

/-- No token is the word `function`. -/
def FunctionFree (ts : List RawToken) : Prop := ∀ r ∈ ts, isOf .kwFunction r = false

/-! ### The words of an import -/

/-- A token has one category. -/
lemma isOf_eq_false {c c' : Category} (h : isOf c r = true) (hne : c ≠ c') : isOf c' r = false := by
  cases r with
  | punctuation => rfl
  | named d text =>
    obtain rfl : d = c := by simpa [isOf] using h
    simpa [isOf] using hne

/-- The category of a token gives its kind. -/
lemma hasKind_of_isOf {c : Category} (h : isOf c r = true) (p : Kind → Bool) :
    hasKind p r = p (Kind.ofCategory c) := by
  cases r with
  | punctuation => cases h
  | named d text =>
    obtain rfl : d = c := by simpa [isOf] using h
    rfl

/-- The categories of what stands in a gap. -/
lemma IsGap.exists_category (h : IsGap gap) (hr : r ∈ gap) :
    ∃ c ∈ [Category.whitespace, .comment, .docComment], isOf c r = true := by
  simpa [isTrivia, or_assoc] using h r hr

lemma IsGap.functionFree (h : IsGap gap) : FunctionFree gap := by
  intro r hr
  obtain ⟨c, hc, hcategory⟩ := h.exists_category hr
  exact isOf_eq_false hcategory fun heq => absurd (heq ▸ hc) (by decide)

lemma isOf_kwFunction_of_isName (h : isName r = true) : isOf .kwFunction r = false := by
  obtain ⟨c, hc, hcategory⟩ := List.any_eq_true.1 h
  exact isOf_eq_false hcategory fun heq => absurd (heq ▸ hc) (by decide)

/-- The kinds of names. -/
lemma hasKind_of_isName {p : Kind → Bool} (h : isName r = true)
    (hp : ∀ c ∈ nameCategories, p (Kind.ofCategory c) = true) : hasKind p r = true := by
  obtain ⟨c, hc, hcategory⟩ := List.any_eq_true.1 h
  exact (hasKind_of_isOf hcategory p).trans (hp c hc)

lemma functionFree_nil : FunctionFree [] := List.forall_mem_nil _

lemma FunctionFree.cons (hr : isOf .kwFunction r = false) (hts : FunctionFree ts) :
    FunctionFree (r :: ts) := List.forall_mem_cons.2 ⟨hr, hts⟩

lemma FunctionFree.append (hts : FunctionFree ts) (hus : FunctionFree us) :
    FunctionFree (ts ++ us) := List.forall_mem_append.2 ⟨hts, hus⟩

/-- A target starts with a name, and it has no word `function`. -/
lemma Target.exists_eq_cons (h : Target ts) :
    ∃ r more, ts = r :: more ∧ isName r = true ∧ FunctionFree more := by
  cases h with
  | name named space => exact ⟨_, _, rfl, named, space.functionFree⟩
  | renamed named space isAs space' isOther space'' =>
    refine ⟨_, _, rfl, named, space.functionFree.append (.cons ?_ (space'.functionFree.append ?_))⟩
    · exact isOf_eq_false isAs (by decide)
    · exact .cons (isOf_eq_false isOther (by decide)) space''.functionFree

/-- Targets start with a name, and they have no word `function`. -/
lemma Separated.exists_eq_cons (h : Separated Target ts) :
    ∃ r more, ts = r :: more ∧ isName r = true ∧ FunctionFree more := by
  induction h with
  | last isItem => exact isItem.exists_eq_cons
  | comma isItem space more ih =>
    obtain ⟨r, ts, rfl, hr, hts⟩ := isItem.exists_eq_cons
    obtain ⟨r', us, rfl, hr', hus⟩ := ih
    have hmore := FunctionFree.cons (isOf_kwFunction_of_isName hr') hus
    exact ⟨r, _, rfl, hr, hts.append (.cons rfl (space.functionFree.append hmore))⟩

lemma FinalComma.functionFree (h : FinalComma ts) : FunctionFree ts := by
  cases h with
  | nothing => exact functionFree_nil
  | comma space => exact .cons rfl space.functionFree

/-! ### Where the word `function` stands -/

/-- A word `function` behind tokens without one is behind all of them. -/
lemma FunctionFree.exists_of_append (hxs : FunctionFree xs) (hword : isOf .kwFunction word = true)
    (h : xs ++ ys = first ++ word :: rest) : ∃ m, first = xs ++ m ∧ ys = m ++ word :: rest := by
  induction xs generalizing first with
  | nil => exact ⟨first, rfl, h⟩
  | cons x xs ih =>
    obtain ⟨hx, hxs⟩ := List.forall_mem_cons.1 hxs
    cases first with
    | nil =>
      obtain ⟨rfl, -⟩ := List.cons.inj h
      rw [hx] at hword
      cases hword
    | cons y first =>
      obtain ⟨rfl, htail⟩ := List.cons.inj h
      obtain ⟨m, rfl, hys⟩ := ih hxs htail
      exact ⟨m, rfl, hys⟩

/-- Tokens without a word `function` are not cut at one. -/
lemma FunctionFree.ne_append (hxs : FunctionFree xs) (hword : isOf .kwFunction word = true) :
    xs ≠ first ++ word :: rest := by
  rintro rfl
  have hfree := hxs word (by simp)
  rw [hword] at hfree
  cases hfree

/-- The word `function` before a name, or one behind the name. -/
lemma Marker.split (h : Marker ts) (hname : isName r = true) (hword : isOf .kwFunction word = true)
    (heq : ts ++ r :: tail = first ++ word :: rest) :
    (first = [] ∧ BeforeName rest) ∨
      ∃ m, first = ts ++ r :: m ∧ tail = m ++ word :: rest := by
  have hfree : FunctionFree [r] := .cons (isOf_kwFunction_of_isName hname) functionFree_nil
  cases h with
  | nothing =>
    obtain ⟨m, rfl, htail⟩ := hfree.exists_of_append hword heq
    exact Or.inr ⟨m, rfl, htail⟩
  | @word s gap isMarker space =>
    cases first with
    | nil =>
      obtain ⟨-, rfl⟩ := List.cons.inj heq
      exact Or.inl ⟨rfl, gap, r, tail, space, hname, rfl⟩
    | cons y first =>
      obtain ⟨rfl, hrest⟩ := List.cons.inj heq
      obtain ⟨m, rfl, hm⟩ := space.functionFree.exists_of_append hword hrest
      obtain ⟨m, rfl, htail⟩ := hfree.exists_of_append hword hm
      exact Or.inr ⟨m, by simp, htail⟩

/-- A word `function` in the items of a group starts an item and stands before its name.  The mark
is the bracket of the group, or a comma behind earlier items. -/
lemma Separated.split (h : Separated GroupItem items) (htail : FunctionFree tail)
    (hword : isOf .kwFunction word = true)
    (hmark : mark = '{' ∨ mark = ',' ∧ .punctuation '{' ∈ front) (hgap : IsGap gap)
    (heq : items ++ tail = first ++ word :: rest) :
    StartsItem (front ++ .punctuation mark :: (gap ++ first)) ∧ BeforeName rest := by
  -- Behind the first item the comma takes the place of the mark.
  induction h generalizing front mark gap first with
  | last isItem =>
    obtain ⟨marked, names⟩ := isItem
    obtain ⟨r, more, rfl, hname, hmore⟩ := names.exists_eq_cons
    rw [List.append_assoc, List.cons_append] at heq
    obtain ⟨rfl, hrest⟩ | ⟨m, -, hm⟩ := marked.split hname hword heq
    · exact ⟨⟨front, mark, gap, hmark, hgap, by rw [List.append_nil]⟩, hrest⟩
    · exact absurd hm ((hmore.append htail).ne_append hword)
  | @comma ts gap' us isItem space _ ih =>
    obtain @⟨marker, target, marked, names⟩ := isItem
    obtain ⟨r, more, rfl, hname, hmore⟩ := names.exists_eq_cons
    rw [List.append_assoc, List.append_assoc, List.cons_append] at heq
    obtain ⟨rfl, hrest⟩ | ⟨m, rfl, hm⟩ := marked.split hname hword heq
    · exact ⟨⟨front, mark, gap, hmark, hgap, by rw [List.append_nil]⟩, hrest⟩
    · have hfree : FunctionFree (more ++ .punctuation ',' :: gap') :=
        hmore.append (.cons rfl space.functionFree)
      have hsplit : (more ++ .punctuation ',' :: gap') ++ (us ++ tail) = m ++ word :: rest := by
        simpa using hm
      obtain ⟨m, rfl, hitems⟩ := hfree.exists_of_append hword hsplit
      have hopen : .punctuation '{' ∈
          front ++ .punctuation mark :: (gap ++ (marker ++ r :: more)) := by
        obtain rfl | ⟨-, hopen⟩ := hmark
        · simp
        · exact List.mem_append_left _ hopen
      obtain ⟨hplace, hrest⟩ : StartsItem ((front ++ .punctuation mark :: (gap ++ (marker ++
          r :: more))) ++ .punctuation ',' :: (gap' ++ m)) ∧ BeforeName rest :=
        ih (Or.inr ⟨rfl, hopen⟩) space hitems
      exact ⟨by simpa using hplace, hrest⟩

/-- **The places of the word `function` in an import.**  It stands directly behind `use`, or it
starts an item of the group.  In both places a name comes next. -/
lemma function_cases (h : Import (first ++ word :: rest)) (hword : isOf .kwFunction word = true) :
    (BehindUse first ∨ StartsItem first) ∧ BeforeName rest := by
  generalize heq : first ++ word :: rest = ts at h
  cases h with
  | @plain use gap marker targets isUse space marked names =>
    have hfree : FunctionFree (use :: gap) :=
      .cons (isOf_eq_false isUse (by decide)) space.functionFree
    obtain ⟨m, rfl, hm⟩ := hfree.exists_of_append hword heq.symm
    obtain ⟨r, more, rfl, hname, hmore⟩ := names.exists_eq_cons
    obtain ⟨rfl, hrest⟩ | ⟨m, -, htail⟩ := marked.split hname hword hm
    · exact ⟨Or.inl ⟨use, gap, isUse, space, List.append_nil _⟩, hrest⟩
    · exact absurd htail ((hmore.append (.cons rfl functionFree_nil)).ne_append hword)
  | @group use root separator gap marker gap₁ gap₂ gap₃ items final gap₄ isUse space marked named
      space₁ isSeparator space₂ space₃ names ends space₄ =>
    have hfree : FunctionFree (use :: gap) :=
      .cons (isOf_eq_false isUse (by decide)) space.functionFree
    obtain ⟨m, rfl, hm⟩ := hfree.exists_of_append hword heq.symm
    obtain ⟨rfl, hrest⟩ | ⟨m, rfl, htail⟩ := marked.split named hword hm
    · exact ⟨Or.inl ⟨use, gap, isUse, space, List.append_nil _⟩, hrest⟩
    · have hbefore : FunctionFree (gap₁ ++ separator :: (gap₂ ++ .punctuation '{' :: gap₃)) :=
        space₁.functionFree.append (.cons (isOf_eq_false isSeparator (by decide))
          (space₂.functionFree.append (.cons rfl space₃.functionFree)))
      have hbehind : FunctionFree (final ++ .punctuation '}' :: (gap₄ ++ [.punctuation ';'])) :=
        ends.functionFree.append
          (.cons rfl (space₄.functionFree.append (.cons rfl functionFree_nil)))
      have hsplit : (gap₁ ++ separator :: (gap₂ ++ .punctuation '{' :: gap₃)) ++
          (items ++ (final ++ .punctuation '}' :: (gap₄ ++ [.punctuation ';']))) =
            m ++ word :: rest := by
        simpa using htail
      obtain ⟨m, rfl, hitems⟩ := hbefore.exists_of_append hword hsplit
      obtain ⟨hplace, hrest⟩ : StartsItem ((use :: (gap ++ (marker ++ root :: (gap₁ ++
          separator :: gap₂)))) ++ .punctuation '{' :: (gap₃ ++ m)) ∧ BeforeName rest :=
        names.split hbehind hword (Or.inl rfl) space₃ hitems
      exact ⟨Or.inr (by simpa using hplace), hrest⟩

/-! ### What is read there -/

/-- The first token that is not white space. -/
def nearest? (raws : List RawToken) : Option RawToken :=
  raws.find? (hasKind fun k => !k.isWhitespace)

/-- The name under which a word `function` of an import is taken for a declaration, from the tokens
of the import before the word and behind it. -/
def mistakenName? (first rest : List RawToken) : Option String :=
  if (nearest? first.reverse).any (hasKind (· == .kwUse)) then none
  else ((nearest? rest).filter (hasKind (· == .identifier))).map RawToken.text

/-- Of the names, only the identifiers have their kind. -/
lemma eq_identifier_of_isName (h : isName r = true) (hr : hasKind (· == .identifier) r = true) :
    r = .named .identifier r.text := by
  cases r with
  | punctuation => cases h
  | named category text =>
    obtain rfl | rfl | rfl : category = .identifier ∨ category = .nameQualified ∨
        category = .nameFullyQualified := by simpa [isName, nameCategories, isOf] using h
    · rfl
    · cases hr
    · cases hr

/-- Passing over white space, one comes to the word behind it. -/
lemma nearest?_append_cons (hgap : IsGap gap) (hcomment : ∀ s ∈ gap, s.isComment = false)
    (hr : hasKind (fun k => !k.isWhitespace) r = true) : nearest? (gap ++ r :: ts) = some r := by
  have hnone : gap.find? (hasKind fun k => !k.isWhitespace) = none := by
    rw [List.find?_eq_none]
    intro s hs
    have hspace : isOf .whitespace s = true := by
      have htrivia := hgap s hs
      rwa [isTrivia, Bool.or_assoc, ← RawToken.isComment, hcomment s hs, Bool.or_false] at htrivia
    rw [hasKind_of_isOf hspace]
    decide
  rw [nearest?, List.find?_append, hnone, Option.none_or, List.find?_cons_of_pos hr]

/-- Going back over white space, one comes to the word before it. -/
lemma nearest?_reverse (hgap : IsGap gap) (hcomment : ∀ s ∈ gap, s.isComment = false)
    (hr : hasKind (fun k => !k.isWhitespace) r = true) :
    nearest? (front ++ r :: gap).reverse = some r := by
  rw [List.reverse_append, List.reverse_cons, List.append_assoc, List.singleton_append]
  exact nearest?_append_cons (fun s hs => hgap s (List.mem_reverse.1 hs))
    (fun s hs => hcomment s (List.mem_reverse.1 hs)) hr

/-- No item starts directly behind `use`. -/
lemma BehindUse.not_startsItem (h : BehindUse first) : ¬StartsItem first := by
  obtain ⟨word, gap, huse, hgap, rfl⟩ := h
  rintro ⟨front, mark, gap', -, -, heq⟩
  have hmem : RawToken.punctuation mark ∈ word :: gap := by
    rw [heq]
    exact List.mem_append_right _ List.mem_cons_self
  obtain rfl | hmem := List.mem_cons.1 hmem
  · cases huse
  · cases hgap _ hmem

/-- Without comments, the word `use` before the word `function` is seen. -/
lemma BehindUse.mistakenName?_eq_none (h : BehindUse first)
    (hcomment : ∀ r ∈ first, r.isComment = false) : mistakenName? first rest = none := by
  obtain ⟨word, gap, huse, hgap, rfl⟩ := h
  have hnearest : nearest? ([] ++ word :: gap).reverse = some word :=
    nearest?_reverse hgap (fun s hs => hcomment s (List.mem_cons_of_mem _ hs))
      (hasKind_of_isOf huse _)
  have hisUse : hasKind (· == .kwUse) word = true := hasKind_of_isOf huse _
  rw [mistakenName?, ← List.nil_append (word :: gap), hnearest, Option.any_some, if_pos hisUse]

/-- Without comments, a word `function` that starts an item is judged by the token behind it. -/
lemma StartsItem.mistakenName?_eq (h : StartsItem first)
    (hcomment : ∀ r ∈ first, r.isComment = false) :
    mistakenName? first rest =
      ((nearest? rest).filter (hasKind (· == .identifier))).map RawToken.text := by
  obtain ⟨front, mark, gap, hmark, hgap, rfl⟩ := h
  have hnearest : nearest? (front ++ .punctuation mark :: gap).reverse = some (.punctuation mark) :=
    nearest?_reverse hgap (fun s hs => hcomment s (by simp [hs])) (by
      obtain rfl | ⟨rfl, -⟩ := hmark <;> rfl)
  rw [mistakenName?, hnearest, if_neg]
  obtain rfl | ⟨rfl, -⟩ := hmark <;> decide

/-- **The mistaken words of an import without comments** are those that start an item of a group and
stand before an identifier. -/
lemma mistakenName?_eq_some_iff (h : Import (first ++ word :: rest))
    (hword : isOf .kwFunction word = true)
    (hcomment : ∀ r ∈ first ++ word :: rest, r.isComment = false) :
    mistakenName? first rest = some name ↔
      StartsItem first ∧ ∃ gap more, IsGap gap ∧ rest = gap ++ .named .identifier name :: more := by
  obtain ⟨hfirst, hwordRest⟩ := List.forall_mem_append.1 hcomment
  have hrest := (List.forall_mem_cons.1 hwordRest).2
  obtain ⟨huse | hitem, gap, r, more, hgap, hname, rfl⟩ := function_cases h hword
  · simp [huse.mistakenName?_eq_none hfirst, huse.not_startsItem]
  · have hnext : nearest? (gap ++ r :: more) = some r :=
      nearest?_append_cons hgap (fun s hs => hrest s (by simp [hs]))
        (hasKind_of_isName hname (by decide))
    rw [hitem.mistakenName?_eq hfirst]
    constructor
    · intro hfound
      rw [hnext] at hfound
      obtain ⟨s, hs, rfl⟩ := Option.map_eq_some_iff.1 hfound
      obtain ⟨hsome, hkind⟩ := Option.filter_eq_some_iff.1 hs
      obtain rfl := Option.some.inj hsome
      exact ⟨hitem, gap, more, hgap, by rw [← eq_identifier_of_isName hname hkind]⟩
    · rintro ⟨-, gap', more', hgap', heq⟩
      rw [heq] at hrest ⊢
      rw [nearest?_append_cons hgap' (fun s hs => hrest s (by simp [hs])) rfl]
      rfl

/-! ### Reading along the prepared tokens -/

open Declaration

variable {tokens : List Token}

/-- What stands before the import does not matter to the token before a word `function` in it. -/
lemma nearest?_reverse_append (h : BehindUse first ∨ StartsItem first) :
    nearest? (front ++ first).reverse = nearest? first.reverse := by
  have hsome : (nearest? first.reverse).isSome = true := by
    rw [nearest?, List.find?_isSome]
    obtain ⟨use, gap, huse, -, rfl⟩ | ⟨front', mark, gap, hmark, -, rfl⟩ := h
    · exact ⟨use, by simp, hasKind_of_isOf huse _⟩
    · refine ⟨.punctuation mark, by simp, ?_⟩
      obtain rfl | ⟨rfl, -⟩ := hmark <;> rfl
  rw [nearest?, List.reverse_append, List.find?_append, ← nearest?, Option.or_of_isSome hsome]

/-- In an import, no ampersand comes between the word `function` and the name behind it. -/
lemma BeforeName.find?_append (h : BeforeName rest) :
    (rest ++ back).find? (hasKind fun k => !k.isWhitespace && k != .ampersand) = nearest? rest := by
  obtain ⟨gap, r, more, hgap, hname, rfl⟩ := h
  have hcongr : gap.find? (hasKind fun k => !k.isWhitespace && k != .ampersand) =
      gap.find? (hasKind fun k => !k.isWhitespace) := by
    refine List.find?_congr fun s hs => ?_
    obtain ⟨c, hc, hcategory⟩ := hgap.exists_category hs
    rw [hasKind_of_isOf hcategory, hasKind_of_isOf hcategory]
    clear hcategory
    revert c
    decide
  rw [List.append_assoc, List.cons_append, List.find?_append, hcongr, nearest?, List.find?_append,
    List.find?_cons_of_pos (hasKind_of_isName hname (by decide)),
    List.find?_cons_of_pos (hasKind_of_isName hname (by decide))]

/-- The pass comes to the word `function` of an import as to any other. -/
lemma exists_reached (hword : isOf .kwFunction word = true)
    (htokens : Spells tokens (front ++ first ++ word :: (rest ++ back)))
    (hk : (front ++ first).length < (Pass.reached tokens).length) :
    ∃ t, (Pass.reached tokens)[(front ++ first).length]? = some t ∧ t.kind = .kwFunction := by
  obtain ⟨ts, us, rfl, hts, hus⟩ := spells_append.1 htokens
  obtain ⟨t, us, rfl, hkind, -, -⟩ := spells_cons.1 hus
  rw [← hts.length_eq] at hk ⊢
  have hreached := List.getElem?_eq_getElem hk
  have htoken := getElem?_of_reached hreached
  rw [List.getElem?_append_right le_rfl, Nat.sub_self, List.getElem?_cons_zero] at htoken
  have hface := hasKind_of_isOf hword (· == .kwFunction)
  rw [hasKind, hkind] at hface
  exact ⟨t, hreached.trans htoken.symm, eq_of_beq hface⟩

/-- A word `function` of an import is taken for a declaration unless the word `use` is the nearest
token before it. -/
lemma isFunction_eq (h : Import (first ++ word :: rest)) (hword : isOf .kwFunction word = true)
    (htokens : Spells tokens (front ++ first ++ word :: (rest ++ back)))
    (hk : (front ++ first).length < (Pass.reached tokens).length) :
    isFunction tokens (front ++ first).length =
      !(nearest? first.reverse).any (hasKind (· == .kwUse)) := by
  obtain ⟨t, hreached, hkind⟩ := exists_reached hword htokens hk
  have hbefore : Spells (tokens.take (front ++ first).length) (front ++ first) := by
    have htake := htokens.take (front ++ first).length
    rwa [List.take_left] at htake
  have hprevious := hbefore.reverse.any_find?_kind (fun k => !k.isWhitespace) (· == .kwUse)
  rw [← nearest?, nearest?_reverse_append (function_cases h hword).1] at hprevious
  rw [isFunction, hreached, Option.any_some, hkind, ← hprevious]
  rfl

/-- The name that is read behind a word `function` of an import. -/
lemma name_functionAt (h : Import (first ++ word :: rest)) (hword : isOf .kwFunction word = true)
    (htokens : Spells tokens (front ++ first ++ word :: (rest ++ back)))
    (hk : (front ++ first).length < (Pass.reached tokens).length) :
    (functionAt tokens (front ++ first).length).name =
      ((nearest? rest).filter (hasKind (· == .identifier))).map RawToken.text := by
  obtain ⟨t, hreached, -⟩ := exists_reached hword htokens hk
  have hbehind : Spells (tokens.drop ((front ++ first).length + 1)) (rest ++ back) := by
    have hdrop := htokens.drop ((front ++ first).length + 1)
    rwa [List.drop_length_add_append] at hdrop
  have hnext := hbehind.filter_find?_kind (fun k => !k.isWhitespace && k != .ampersand)
    (· == .identifier)
  rw [(function_cases h hword).2.find?_append] at hnext
  exact (functionName?_map_fst (getElem?_of_reached hreached)).trans hnext

/-- The name under which a word `function` of an import is filed. -/
lemma filedName?_eq (h : Import (first ++ word :: rest)) (hword : isOf .kwFunction word = true)
    (htokens : Spells tokens (front ++ first ++ word :: (rest ++ back)))
    (hk : (front ++ first).length < (Pass.reached tokens).length) :
    filedName? tokens (front ++ first).length =
      if isMaskedAt tokens (front ++ first).length = false then mistakenName? first rest
      else none := by
  rw [filedName?, isFunction_eq h hword htokens hk, name_functionAt h hword htokens hk,
    mistakenName?]
  cases isMaskedAt tokens (front ++ first).length with
  | true => simp
  | false => cases (nearest? first.reverse).any (hasKind (· == .kwUse)) <;> rfl

end Import

namespace Pass

open Declaration Import

variable {tokens : List Token} {word : RawToken} {first rest front back : List RawToken}

/-- The function declared at the given index is found under the given name, as a method of the open
container or else as a free function. -/
def IsFiled (s : Pass) (tokens : List Token) (k : Nat) (name : String) : Prop :=
  match s.tracker.container with
  | some (kind, frame) =>
    ∃ entry, (s.outline.ofKind kind)[frame.name]? = some entry ∧
      entry.methods[name]? = some (functionAt tokens k)
  | none => s.outline.functions[qualify (namespaceAt tokens k) name]? = some (functionAt tokens k)

/-- Handling a word `function` files a function under its name, or leaves the outline as it is. -/
lemma outline_of_filedName? (path : Option String) {k : Nat} {t : Token}
    (ht : (reached tokens)[k]? = some t) (hkind : t.kind = .kwFunction) :
    match filedName? tokens k with
    | none => (visited path tokens k).outline = (before path tokens k).outline
    | some name => IsFiled (visited path tokens k) tokens k name := by
  have hk : k < (reached tokens).length := (List.getElem?_eq_some_iff.1 ht).1
  have hcontainer : isContainer tokens k = false := isContainer_eq_false ht (by rw [hkind]; rfl)
  cases hfiled : filedName? tokens k with
  | none =>
    rw [outline_visited path hk, hcontainer, hfiled]
    rfl
  | some name =>
    simp only [IsFiled]
    rw [container_visited path hk, ← owner?]
    cases howner : owner? tokens k with
    | some c => exact exists_method_visited path hk hcontainer hfiled howner
    | none => exact getElem?_functions_visited path hk hcontainer hfiled howner

/-- **What imports declare.**  Without comments, the only words `function` of an import that have a
mistaken name are those that start an item of a group and stand before an identifier.  A word with a
mistaken name is filed as a function of that name if the pass reaches it outside masks, and any
other word `function` of an import leaves the outline as it is. -/
theorem files_of_import (path : Option String)
    (htokens : Token.prepare (front ++ (first ++ word :: rest) ++ back) = .ok tokens)
    (himport : Import (first ++ word :: rest)) (hword : isOf .kwFunction word = true) :
    let k := (front ++ first).length
    ((∀ r ∈ first ++ word :: rest, r.isComment = false) → ∀ name,
      mistakenName? first rest = some name ↔
        StartsItem first ∧ ∃ gap more, IsGap gap ∧ rest = gap ++ .named .identifier name :: more) ∧
    match if k < (reached tokens).length ∧ isMaskedAt tokens k = false then
        mistakenName? first rest else none with
    | none => (visited path tokens k).outline = (before path tokens k).outline
    | some name => IsFiled (visited path tokens k) tokens k name := by
  intro k
  refine ⟨fun hcomment name => mistakenName?_eq_some_iff himport hword hcomment, ?_⟩
  have hspells : Spells tokens (front ++ first ++ word :: (rest ++ back)) := by
    simpa using spells_of_prepareFrom htokens
  by_cases hk : k < (reached tokens).length
  · obtain ⟨t, hreached, hkind⟩ := exists_reached hword hspells hk
    have hfiled := outline_of_filedName? path hreached hkind
    rw [filedName?_eq himport hword hspells hk] at hfiled
    simpa only [hk, true_and] using hfiled
  · rw [if_neg fun h => hk h.1, visited, List.getElem?_eq_none (Nat.not_lt.1 hk)]

/-- The import of a group up to the word `function` of its last item. -/
def mixedGroup : List RawToken :=
  [.named .kwUse "use", .named .whitespace " ", .named .identifier "N", .named .nsSeparator "\\",
    .punctuation '{', .named .kwConst "const", .named .whitespace " ", .named .identifier "A",
    .punctuation ',', .named .whitespace "\n"]

/-- The rest of the import, with another name for the function and a comma at the end. -/
def mixedGroupEnd : List RawToken :=
  [.named .whitespace " ", .named .identifier "f", .named .whitespace " ", .named .kwAs "as",
    .named .whitespace " ", .named .identifier "g", .punctuation ',', .punctuation '}',
    .punctuation ';']

lemma import_mixedGroup :
    Import (mixedGroup ++ .named .kwFunction "function" :: mixedGroupEnd) := by
  have hconst : GroupItem ([.named .kwConst "const", .named .whitespace " "] ++
      [.named .identifier "A"]) := .mk (.word rfl (by decide)) (.name rfl (by decide))
  have htarget : Target (.named .identifier "f" :: ([.named .whitespace " "] ++
      .named .kwAs "as" :: ([.named .whitespace " "] ++ [.named .identifier "g"]))) :=
    .renamed rfl (by decide) rfl (by decide) rfl (by decide)
  have hfunction : GroupItem ([.named .kwFunction "function", .named .whitespace " "] ++ _) :=
    .mk (.word rfl (by decide)) htarget
  have hgap : IsGap [.named .whitespace "\n"] := by decide
  have hspace : IsGap [.named .whitespace " "] := by decide
  have hnone : IsGap [] := by decide
  exact @Import.group (.named .kwUse "use") (.named .identifier "N") (.named .nsSeparator "\\")
    _ _ _ _ _ _ _ _ rfl hspace .nothing rfl hnone rfl hnone hnone
    (.comma hconst hgap (.last hfunction)) (.comma hnone) hnone

/-- The function of the group is filed as a free function. -/
theorem files_mixedGroup :
    Lexer.tokenize "<?php use N\\\x7bconst A,\nfunction f as g,\x7d;" =
      [.named .openTag "<?php "] ++
        (mixedGroup ++ .named .kwFunction "function" :: mixedGroupEnd) ++ [] ∧
    ∃ tokens, Token.prepare ([.named .openTag "<?php "] ++
        (mixedGroup ++ .named .kwFunction "function" :: mixedGroupEnd) ++ []) = .ok tokens ∧
      Import (mixedGroup ++ .named .kwFunction "function" :: mixedGroupEnd) ∧
      StartsItem mixedGroup ∧
      (visited none tokens 11).outline.functions["f"]? = some (functionAt tokens 11) := by
  obtain ⟨tokens, htokens⟩ : ∃ tokens, Token.prepare ([.named .openTag "<?php "] ++
      (mixedGroup ++ .named .kwFunction "function" :: mixedGroupEnd) ++ []) = .ok tokens := ⟨_, rfl⟩
  obtain ⟨hk, hmask, hopen, hplace⟩ : 11 < (reached tokens).length ∧
      isMaskedAt tokens 11 = false ∧ (visited none tokens 11).tracker.container.isNone = true ∧
      namespaceAt tokens 11 = "" := by
    cases htokens
    decide +kernel
  have hname : mistakenName? mixedGroup mixedGroupEnd = some "f" := by decide +kernel
  obtain ⟨hmistaken, hfiled⟩ := files_of_import none htokens import_mixedGroup rfl
  have hitem := ((hmistaken (by decide +kernel) "f").1 hname).1
  have hlength : ([RawToken.named .openTag "<?php "] ++ mixedGroup).length = 11 := rfl
  simp only [hlength, hk, hmask, and_self, if_true, hname, IsFiled,
    Option.isNone_iff_eq_none.1 hopen, hplace] at hfiled
  exact ⟨by decide +kernel, tokens, htokens, import_mixedGroup, hitem, hfiled⟩

/-- The import of one function through a group. -/
def singletonGroup : List RawToken :=
  [.named .kwUse "use", .named .whitespace " ", .named .identifier "Foo", .named .nsSeparator "\\",
    .punctuation '{', .named .kwFunction "function", .named .whitespace " ",
    .named .identifier "bar", .punctuation '}', .punctuation ';']

/-- The file is an import, and still it has a function. -/
theorem group_function_filed :
    Import singletonGroup ∧
      Lexer.tokenize "<?php\nuse Foo\\\x7bfunction bar\x7d;\n" =
        [.named .openTag "<?php\n"] ++ singletonGroup ++ [.named .whitespace "\n"] ∧
      ∃ tokens, Token.prepare ([.named .openTag "<?php\n"] ++ singletonGroup ++
          [.named .whitespace "\n"]) = .ok tokens ∧
        ((Analysis.ofTokens none tokens).outline.functions["bar"]?).isSome = true := by
  have hitem : GroupItem ([.named .kwFunction "function", .named .whitespace " "] ++
      [.named .identifier "bar"]) := .mk (.word rfl (by decide)) (.name rfl (by decide))
  have hspace : IsGap [.named .whitespace " "] := by decide
  have hnone : IsGap [] := by decide
  refine ⟨?_, by decide +kernel, _, rfl, by decide +kernel⟩
  exact @Import.group (.named .kwUse "use") (.named .identifier "Foo") (.named .nsSeparator "\\")
    _ _ _ _ _ _ _ _ rfl hspace .nothing rfl hnone rfl hnone hnone (.last hitem) .nothing hnone

end Pass

end PhpOutline
