import Mathlib.Data.List.Basic
import Mathlib.Order.Nat
import PhpOutline.Lexer.Step

/-!
# Fences

Two sources agree up to a fence if they are the same up to and with the fence and may go on
differently (`Fenced`).  A fence is a quote, or a close tag (`IsFence`), of which the sources have
the question mark as the fence and the angle bracket behind it.  A reader that does not see what
stands behind the fence, unless it takes the fence into its lexeme, cuts both in the same way: the
texts are the same and what is left agrees up to the fence again (`SameCut`), or the first text has
the fence in it (`SameUnlessPassed`).
-/

namespace PhpOutline.Lexer

/-- The quotes around strings. -/
def isQuote (c : Char) : Bool := c == '\'' || c == '"'

lemma isQuote_eq_true {c : Char} : isQuote c = true ↔ c = '\'' ∨ c = '"' := by
  simp [isQuote]

/-- The characters that a fence starts with. -/
def isMark (c : Char) : Bool := isQuote c || c == '?'

lemma isMark_of_isQuote {q : Char} (hq : isQuote q = true) : isMark q = true := by
  rw [isMark, hq, Bool.true_or]

/-- A quote and whatever follows it, or a close tag and whatever follows that. -/
inductive IsFence : Char → List Char → List Char → Prop
  | quote {q : Char} (isQuote : isQuote q = true) (x y : List Char) : IsFence q x y
  | closeTag (x y : List Char) : IsFence '?' ('>' :: x) ('>' :: y)

lemma IsFence.isMark {q : Char} {x y : List Char} (h : IsFence q x y) : isMark q = true := by
  cases h with
  | quote hq => exact isMark_of_isQuote hq
  | closeTag => rfl

/-- The sources agree up to the fence `q`, behind which they go on with `x` and with `y`. -/
inductive Fenced (q : Char) (x y : List Char) : List Char → List Char → Prop
  | fence : Fenced q x y (q :: x) (q :: y)
  | cons (c : Char) {cs ds : List Char} (rest : Fenced q x y cs ds) :
      Fenced q x y (c :: cs) (c :: ds)

namespace Fenced

variable {q : Char} {x y cs ds : List Char} {p : Char → Bool}

lemma length_lt (h : Fenced q x y cs ds) : x.length < cs.length := by
  induction h with
  | fence => exact Nat.lt_succ_self _
  | cons c _ ih => exact Nat.lt_succ_of_lt ih

lemma append (u : List Char) : Fenced q x y (u ++ q :: x) (u ++ q :: y) := by
  induction u with
  | nil => exact .fence
  | cons c u ih => exact .cons c ih

/-- At the fence itself there is one way to go on. -/
lemma eq_of_fence (h : Fenced q x y (q :: x) ds) : ds = q :: y := by
  generalize hcs : q :: x = cs at h
  cases h with
  | fence => rfl
  | cons c rest =>
    have hlt := rest.length_lt
    rw [(List.cons.inj hcs).2] at hlt
    exact absurd hlt (Nat.lt_irrefl _)

lemma head?_eq (h : Fenced q x y cs ds) : cs.head? = ds.head? := by
  cases h <;> rfl

lemma nextIs_eq (h : Fenced q x y cs ds) (p : Char → Bool) : nextIs p cs = nextIs p ds := by
  rw [nextIs, nextIs, h.head?_eq]

lemma tail {c : Char} (h : Fenced q x y cs ds) (hhead : cs.head? = some c) (hc : c ≠ q) :
    Fenced q x y cs.tail ds.tail := by
  cases h with
  | fence => exact absurd (Option.some.inj hhead).symm hc
  | cons _ rest => exact rest

/-- A source that starts with a character other than the fence agrees with one that does, too. -/
lemma exists_cons {c : Char} (h : Fenced q x y (c :: cs) ds) (hc : c ≠ q) :
    ∃ ds', ds = c :: ds' ∧ Fenced q x y cs ds' := by
  cases h with
  | fence => exact absurd rfl hc
  | cons _ rest => exact ⟨_, rfl, rest⟩

/-- A source that starts with a text without the fence agrees with one that does, too. -/
lemma exists_append {w : List Char} (h : Fenced q x y (w ++ cs) ds) (hw : q ∉ w) :
    ∃ ds', ds = w ++ ds' ∧ Fenced q x y cs ds' := by
  induction w generalizing ds with
  | nil => exact ⟨ds, rfl, h⟩
  | cons a w ih =>
    obtain ⟨hne, hw⟩ := not_or.1 (fun hmem => hw (List.mem_cons.2 hmem))
    obtain ⟨ds, rfl, hrest⟩ := exists_cons h (Ne.symm hne)
    obtain ⟨ds, rfl, hbehind⟩ := ih hrest hw
    exact ⟨ds, rfl, hbehind⟩

lemma takeWhile_eq (h : Fenced q x y cs ds) (hp : p q = false) :
    cs.takeWhile p = ds.takeWhile p := by
  induction h with
  | fence => simp [hp]
  | cons c _ ih => rw [List.takeWhile_cons, List.takeWhile_cons, ih]

lemma dropWhile (h : Fenced q x y cs ds) (hp : p q = false) :
    Fenced q x y (cs.dropWhile p) (ds.dropWhile p) := by
  induction h with
  | fence =>
    rw [List.dropWhile_cons_of_neg (by simp [hp]), List.dropWhile_cons_of_neg (by simp [hp])]
    exact .fence
  | cons c rest ih =>
    rw [List.dropWhile_cons, List.dropWhile_cons]
    split
    · exact ih
    · exact .cons c rest

/-- A text without the fence starts both sources or neither. -/
lemma isPrefixOf_eq {w : List Char} (h : Fenced q x y cs ds) (hw : q ∉ w) :
    w.isPrefixOf cs = w.isPrefixOf ds := by
  induction w generalizing cs ds with
  | nil => rfl
  | cons a w ih =>
    obtain ⟨hne, hw⟩ := not_or.1 (fun hmem => hw (List.mem_cons.2 hmem))
    cases h with
    | fence =>
      have hfirst : (a == q) = false := beq_false_of_ne (Ne.symm hne)
      rw [List.isPrefixOf, List.isPrefixOf, hfirst, Bool.false_and, Bool.false_and]
    | cons c rest => rw [List.isPrefixOf, List.isPrefixOf, ih rest hw]

/-- Behind a text without the fence the sources still agree. -/
lemma drop_of_isPrefixOf {w : List Char} (h : Fenced q x y cs ds) (hw : q ∉ w)
    (hstarts : w.isPrefixOf cs = true) :
    Fenced q x y (cs.drop w.length) (ds.drop w.length) := by
  obtain ⟨cs, rfl⟩ := List.isPrefixOf_iff_prefix.1 hstarts
  obtain ⟨ds, rfl, hbehind⟩ := h.exists_append hw
  rw [List.drop_left, List.drop_left]
  exact hbehind

/-- The fence is among the first characters of both sources, or these characters are the same. -/
lemma take_drop (h : Fenced q x y cs ds) (n : Nat) :
    (q ∈ cs.take n ∧ q ∈ ds.take n) ∨
      (cs.take n = ds.take n ∧ Fenced q x y (cs.drop n) (ds.drop n)) := by
  induction h generalizing n with
  | fence =>
    cases n with
    | zero => exact .inr ⟨rfl, .fence⟩
    | succ n => exact .inl ⟨List.mem_cons_self, List.mem_cons_self⟩
  | cons c rest ih =>
    cases n with
    | zero => exact .inr ⟨rfl, .cons c rest⟩
    | succ n =>
      rcases ih n with ⟨hmem, hmem'⟩ | ⟨htake, hdrop⟩
      · exact .inl ⟨List.mem_cons_of_mem c hmem, List.mem_cons_of_mem c hmem'⟩
      · exact .inr ⟨congrArg (c :: ·) htake, hdrop⟩

/-- Behind characters that leave more than what stands behind the fence the sources agree. -/
lemma drop_of_lt {n : Nat} (h : Fenced q x y cs ds) (hlt : x.length < (cs.drop n).length) :
    Fenced q x y (cs.drop n) (ds.drop n) := by
  induction h generalizing n with
  | fence =>
    cases n with
    | zero => exact .fence
    | succ n =>
      rw [List.drop_succ_cons, List.length_drop] at hlt
      omega
  | cons c rest ih =>
    cases n with
    | zero => exact .cons c rest
    | succ n => exact ih hlt

end Fenced

/-! ### Cuts -/

/-- The cuts have the same text, and what is left agrees up to the fence. -/
structure SameCut (q : Char) (x y : List Char) (k k' : Cut) : Prop where
  text : k.text = k'.text
  rest : Fenced q x y k.rest k'.rest

/-- The cuts are the same, unless the first one has the fence in its text. -/
def SameUnlessPassed (q : Char) (x y : List Char) (k k' : Cut) : Prop :=
  x.length < k.rest.length → SameCut q x y k k'

section Cuts

variable {q : Char} {x y cs ds : List Char} {k k' : Cut} {p : Char → Bool}

lemma SameCut.unlessPassed (h : SameCut q x y k k') : SameUnlessPassed q x y k k' := fun _ => h

lemma SameCut.push (h : SameCut q x y k k') (c : Char) :
    SameCut q x y (k.push c) (k'.push c) :=
  ⟨congrArg (c :: ·) h.text, h.rest⟩

lemma SameCut.prepend (h : SameCut q x y k k') (cs : List Char) :
    SameCut q x y (k.prepend cs) (k'.prepend cs) :=
  ⟨congrArg (cs ++ ·) h.text, h.rest⟩

lemma SameUnlessPassed.push (h : SameUnlessPassed q x y k k') (c : Char) :
    SameUnlessPassed q x y (k.push c) (k'.push c) :=
  fun hlt => (h hlt).push c

lemma SameUnlessPassed.prepend (h : SameUnlessPassed q x y k k') (cs : List Char) :
    SameUnlessPassed q x y (k.prepend cs) (k'.prepend cs) :=
  fun hlt => (h hlt).prepend cs

/-- A cut that leaves no more than what stands behind the fence has passed it. -/
lemma sameUnlessPassed_of_le (h : k.rest.length ≤ x.length) : SameUnlessPassed q x y k k' :=
  fun hlt => absurd hlt (Nat.not_lt.2 h)

/-- A cut of what stands behind the fence has passed it. -/
lemma sameUnlessPassed_of_whole (h : k.whole = x) : SameUnlessPassed q x y k k' := by
  apply sameUnlessPassed_of_le
  rw [← h, Cut.whole, List.length_append]
  exact Nat.le_add_left _ _

lemma sameCut_span (h : Fenced q x y cs ds) (hp : p q = false) :
    SameCut q x y (Cut.span p cs) (Cut.span p ds) :=
  ⟨h.takeWhile_eq hp, h.dropWhile hp⟩

/-- A cut at a condition that does not see behind the fence. -/
lemma sameUnlessPassed_before {stop : List Char → Bool} (h : Fenced q x y cs ds)
    (hstop : ∀ {cs ds}, Fenced q x y cs ds → stop cs = stop ds) :
    SameUnlessPassed q x y (Cut.before stop cs) (Cut.before stop ds) := by
  induction h with
  | fence =>
    rw [Cut.before, Cut.before, ← hstop .fence]
    split
    · exact SameCut.unlessPassed ⟨rfl, .fence⟩
    · exact (sameUnlessPassed_of_whole (Cut.whole_before stop x)).push q
  | cons c rest ih =>
    rw [Cut.before, Cut.before, ← hstop (.cons c rest)]
    split
    · exact SameCut.unlessPassed ⟨rfl, .cons c rest⟩
    · exact ih.push c

/-- A cut at a condition that holds at the fence does not pass it. -/
lemma sameCut_before {stop : List Char → Bool} (h : Fenced q x y cs ds)
    (hstop : ∀ {cs ds}, Fenced q x y cs ds → stop cs = stop ds) (hfence : stop (q :: x) = true) :
    SameCut q x y (Cut.before stop cs) (Cut.before stop ds) := by
  induction h with
  | fence =>
    rw [Cut.before, Cut.before, ← hstop .fence, if_pos hfence, if_pos hfence]
    exact ⟨rfl, .fence⟩
  | cons c rest ih =>
    rw [Cut.before, Cut.before, ← hstop (.cons c rest)]
    split
    · exact ⟨rfl, .cons c rest⟩
    · exact ih.push c

end Cuts

/-! ### Fences among the characters -/

section Marks

variable {q : Char}

lemma isMark_eq_true : isMark q = true ↔ (q = '\'' ∨ q = '"') ∨ q = '?' := by
  rw [isMark, Bool.or_eq_true, isQuote_eq_true, beq_iff_eq]

/-- The first character of a fence is not in a class that has none of them. -/
lemma eq_false_of_isMark {p : Char → Bool} (hq : isMark q = true) (hsingle : p '\'' = false)
    (hdouble : p '"' = false) (htag : p '?' = false) : p q = false := by
  rcases isMark_eq_true.1 hq with (rfl | rfl) | rfl
  · exact hsingle
  · exact hdouble
  · exact htag

lemma isNameChar_of_isMark (hq : isMark q = true) : isNameChar q = false :=
  eq_false_of_isMark hq (by decide) (by decide) (by decide)

lemma isSpace_of_isMark (hq : isMark q = true) : isSpace q = false :=
  eq_false_of_isMark hq rfl rfl rfl

lemma isBlank_of_isMark (hq : isMark q = true) : isBlank q = false :=
  eq_false_of_isMark hq rfl rfl rfl

/-- The first character of a fence is not in a text without any. -/
lemma not_mem_of_isMark {w : List Char} (hq : isMark q = true)
    (hw : w.all (!isMark ·) = true) : q ∉ w := by
  intro hmem
  have hno := List.all_eq_true.1 hw q hmem
  rw [hq] at hno
  cases hno

/-- The first character of a fence is none of the characters that the readers look for. -/
lemma ne_of_isMark {c : Char} (hq : isMark q = true) (hc : isMark c = false) : c ≠ q := by
  rintro rfl
  rw [hq] at hc
  cases hc

end Marks

end PhpOutline.Lexer
