import Mathlib.Data.List.Basic
import PhpOutline.Proofs.Scope.Nesting

/-!
# The end of a scope, told by counting

Where a declaration ends can be said without a scan, from the first curly bracket or semicolon
behind its keyword on (`EndsAt`).  If that token is a semicolon, the declaration ends there.  If it
opens a bracket, the declaration ends at the closing bracket up to which equally many brackets are
opened and closed, with more opened than closed at every place before.  In all other cases the
brackets never balance.

`scopeEnd?_exact` says that the scan finds this place and no other.  Inside a body the scan holds
the difference of the two numbers as its depth; what a token does to the depth is what it does to
the counts (`closesAt_cons_succ`), so that the scan and the count agree token by token
(`scopeEndIn_eq_some_iff`).
-/

namespace PhpOutline.Declaration

variable {tokens ts : List Token} {t : Token} {start f e n index depth : Nat}

/-! ### Counting brackets -/

/-- The number of tokens that open a curly bracket. -/
def openers (ts : List Token) : Nat := ts.countP fun t => t.kind.opensCurly

/-- The number of closing curly brackets. -/
def closers (ts : List Token) : Nat := ts.countP fun t => t.kind == .closeCurly

@[simp] lemma openers_nil : openers [] = 0 := rfl

@[simp] lemma closers_nil : closers [] = 0 := rfl

lemma openers_append (ts us : List Token) : openers (ts ++ us) = openers ts + openers us :=
  List.countP_append

lemma closers_append (ts us : List Token) : closers (ts ++ us) = closers ts + closers us :=
  List.countP_append

lemma openers_cons (t : Token) (ts : List Token) :
    openers (t :: ts) = openers [t] + openers ts :=
  openers_append [t] ts

lemma closers_cons (t : Token) (ts : List Token) :
    closers (t :: ts) = closers [t] + closers ts :=
  closers_append [t] ts

/-- No bracket opens and closes. -/
lemma counts_of_opens (ht : t.kind.opensCurly = true) : openers [t] = 1 ∧ closers [t] = 0 := by
  simp [openers, closers, ht, (ne_of_opensCurly ht).1]

lemma counts_of_closes (ht : t.kind = .closeCurly) : openers [t] = 0 ∧ closers [t] = 1 := by
  simp [openers, closers, ht, Kind.opensCurly]

lemma counts_of_semicolon (ht : t.kind = .semicolon) : openers [t] = 0 ∧ closers [t] = 0 := by
  simp [openers, closers, ht, Kind.opensCurly]

lemma counts_of_not_delimits (hts : ∀ u ∈ ts, delimits u.kind = false) :
    openers ts = 0 ∧ closers ts = 0 := by
  rw [openers, closers, List.countP_eq_zero, List.countP_eq_zero]
  constructor
  · intro u hu hopen
    have hno := hts u hu
    rw [delimits, hopen] at hno
    cases hno
  · intro u hu hclose
    have hno := hts u hu
    rw [delimits, hclose, Bool.or_true] at hno
    cases hno

/-! ### The scan inside a body -/

/-- With `depth` brackets open in front of the tokens, the one with index `n` closes the last of
them. -/
structure ClosesAt (depth : Nat) (ts : List Token) (n : Nat) : Prop where
  closes : ∃ u, ts[n]? = some u ∧ u.kind = .closeCurly
  balanced : depth + openers (ts.take (n + 1)) = closers (ts.take (n + 1))
  inside : ∀ m ≤ n, closers (ts.take m) < depth + openers (ts.take m)

lemma not_closesAt_zero : ¬ClosesAt 0 ts n := by
  intro h
  have hinside := h.inside 0 (Nat.zero_le n)
  simp at hinside

/-- The first token closes the last bracket if it is the only one. -/
lemma closesAt_cons_zero : ClosesAt (depth + 1) (t :: ts) 0 ↔ t.kind = .closeCurly ∧ depth = 0 := by
  constructor
  · rintro ⟨⟨u, hu, hkind⟩, hbalanced, -⟩
    obtain rfl := Option.some.inj hu
    obtain ⟨hopen, hclose⟩ := counts_of_closes hkind
    rw [Nat.zero_add, List.take_succ_cons, List.take_zero, hopen, hclose] at hbalanced
    exact ⟨hkind, by omega⟩
  · rintro ⟨hkind, rfl⟩
    obtain ⟨hopen, hclose⟩ := counts_of_closes hkind
    refine ⟨⟨t, rfl, hkind⟩, ?_, ?_⟩
    · rw [Nat.zero_add, List.take_succ_cons, List.take_zero, hopen, hclose]
    · intro m hm
      obtain rfl := Nat.le_zero.1 hm
      simp

/-- Behind the first token the count goes on with the brackets that are open then. -/
lemma closesAt_cons_succ {depth' : Nat} (h : depth + 1 + openers [t] = depth' + closers [t]) :
    ClosesAt (depth + 1) (t :: ts) (n + 1) ↔ ClosesAt depth' ts n := by
  constructor
  · rintro ⟨hcloses, hbalanced, hinside⟩
    rw [List.take_succ_cons, openers_cons, closers_cons] at hbalanced
    refine ⟨hcloses, by omega, ?_⟩
    intro m hm
    have hnext := hinside (m + 1) (by omega)
    rw [List.take_succ_cons, openers_cons, closers_cons] at hnext
    omega
  · rintro ⟨hcloses, hbalanced, hinside⟩
    refine ⟨hcloses, ?_, ?_⟩
    · rw [List.take_succ_cons, openers_cons, closers_cons]
      omega
    · intro m hm
      rcases m with _ | m
      · simp
      · have hnext := hinside m (by omega)
        rw [List.take_succ_cons, openers_cons, closers_cons]
        omega

/-- The last bracket is closed by the first token or behind it. -/
lemma exists_closesAt_cons {depth' : Nat} (h : depth + 1 + openers [t] = depth' + closers [t]) :
    (∃ n, e = index + n ∧ ClosesAt (depth + 1) (t :: ts) n) ↔
      (t.kind = .closeCurly ∧ depth = 0 ∧ index = e) ∨
        ∃ n, e = index + 1 + n ∧ ClosesAt depth' ts n := by
  constructor
  · rintro ⟨n, rfl, hcloses⟩
    rcases n with _ | n
    · obtain ⟨hkind, hdepth⟩ := closesAt_cons_zero.1 hcloses
      exact .inl ⟨hkind, hdepth, rfl⟩
    · exact .inr ⟨n, by omega, (closesAt_cons_succ h).1 hcloses⟩
  · rintro (⟨hkind, hdepth, rfl⟩ | ⟨n, rfl, hcloses⟩)
    · exact ⟨0, rfl, closesAt_cons_zero.2 ⟨hkind, hdepth⟩⟩
    · exact ⟨n + 1, by omega, (closesAt_cons_succ h).2 hcloses⟩

/-- Inside brackets the scan stops where the last of them is closed. -/
lemma scopeEndIn_eq_some_iff :
    scopeEndIn index (depth + 1) ts = some e ↔
      ∃ n, e = index + n ∧ ClosesAt (depth + 1) ts n := by
  induction ts generalizing index depth with
  | nil =>
    constructor
    · intro h
      cases h
    · rintro ⟨n, -, ⟨u, hu, -⟩, -⟩
      cases hu
  | cons t ts ih =>
    -- a token that closes no bracket leaves the first alternative empty
    have hgoes : ∀ {depth' : Nat}, t.kind ≠ .closeCurly →
        depth + 1 + openers [t] = depth' + closers [t] →
        ((∃ n, e = index + n ∧ ClosesAt (depth + 1) (t :: ts) n) ↔
          ∃ n, e = index + 1 + n ∧ ClosesAt depth' ts n) := by
      intro depth' hne h
      rw [exists_closesAt_cons h, or_iff_right fun hfirst => hne hfirst.1]
    rcases delimits_cases t.kind with hopen | hclose | hsemi | hother
    · obtain ⟨hopeners, hclosers⟩ := counts_of_opens hopen
      rw [scopeEndIn_open hopen, ih]
      exact (hgoes (ne_of_opensCurly hopen).1 (by omega)).symm
    · obtain ⟨hopeners, hclosers⟩ := counts_of_closes hclose
      have hcount : depth + 1 + openers [t] = depth + closers [t] := by omega
      rw [exists_closesAt_cons hcount]
      rcases depth with _ | depth
      · rw [scopeEndIn_close hclose, Option.some.injEq]
        constructor
        · intro heq
          exact .inl ⟨hclose, rfl, heq⟩
        · rintro (⟨-, -, heq⟩ | ⟨n, -, hzero⟩)
          · exact heq
          · exact absurd hzero not_closesAt_zero
      · rw [scopeEndIn_close_inner hclose, ih, or_iff_right]
        rintro ⟨-, hzero, -⟩
        exact Nat.succ_ne_zero depth hzero
    · obtain ⟨hopeners, hclosers⟩ := counts_of_semicolon hsemi
      rw [scopeEndIn_semicolon_inner hsemi, ih]
      exact (hgoes (by rw [hsemi]; decide) (by omega)).symm
    · have hsingle : ∀ u ∈ [t], delimits u.kind = false := by simpa using hother
      obtain ⟨hopeners, hclosers⟩ := counts_of_not_delimits hsingle
      have hne : t.kind ≠ .closeCurly := by
        intro heq
        rw [heq] at hother
        cases hother
      rw [scopeEndIn_cons_of_not_delimits hother, ih]
      exact (hgoes hne (by omega)).symm

/-! ### From the keyword to the body -/

/-- The tokens behind index `start`, up to index `last`. -/
def stretch (tokens : List Token) (start last : Nat) : List Token :=
  (tokens.drop (start + 1)).take (last - start)

/-- The token `t` with index `f` is the first curly bracket or semicolon behind index `start`. -/
structure FirstDelimiter (tokens : List Token) (start f : Nat) (t : Token) : Prop where
  behind : start < f
  token : tokens[f]? = some t
  isDelimiter : delimits t.kind = true
  first : ∀ j u, start < j → j < f → tokens[j]? = some u → delimits u.kind = false

lemma exists_of_mem_stretch {u : Token} {last : Nat} (hu : u ∈ stretch tokens start last) :
    ∃ j, start < j ∧ j ≤ last ∧ tokens[j]? = some u := by
  obtain ⟨k, hk⟩ := List.mem_iff_getElem?.1 hu
  rw [stretch, List.getElem?_take] at hk
  split at hk
  · next hlt =>
    rw [List.getElem?_drop] at hk
    exact ⟨start + 1 + k, by omega, by omega, hk⟩
  · cases hk

namespace FirstDelimiter

/-- There is one first delimiter. -/
lemma unique {f' : Nat} {t' : Token} (h : FirstDelimiter tokens start f t)
    (h' : FirstDelimiter tokens start f' t') : f = f' ∧ t = t' := by
  have hle : ∀ {f f' : Nat} {t t' : Token}, FirstDelimiter tokens start f t →
      FirstDelimiter tokens start f' t' → f ≤ f' := by
    intro f f' t t' h h'
    by_contra hlt
    have hno := h.first f' t' h'.behind (by omega) h'.token
    rw [h'.isDelimiter] at hno
    cases hno
  obtain rfl : f = f' := le_antisymm (hle h h') (hle h' h)
  exact ⟨rfl, Option.some.inj (h.token.symm.trans h'.token)⟩

lemma not_delimits (h : FirstDelimiter tokens start f t) :
    ∀ u ∈ stretch tokens start (f - 1), delimits u.kind = false := by
  intro u hu
  have hbehind := h.behind
  obtain ⟨j, hstart, hlast, hj⟩ := exists_of_mem_stretch hu
  exact h.first j u hstart (by omega) hj

lemma length_stretch (h : FirstDelimiter tokens start f t) :
    (stretch tokens start (f - 1)).length = f - 1 - start := by
  have hf := (List.getElem?_eq_some_iff.1 h.token).1
  have hbehind := h.behind
  rw [stretch, List.length_take, List.length_drop]
  omega

/-- The tokens behind the keyword, cut at the delimiter. -/
lemma drop_eq (h : FirstDelimiter tokens start f t) :
    tokens.drop (start + 1) = stretch tokens start (f - 1) ++ t :: tokens.drop (f + 1) := by
  have hbehind := h.behind
  obtain ⟨hf, rfl⟩ := List.getElem?_eq_some_iff.1 h.token
  have hrest : (tokens.drop (start + 1)).drop (f - 1 - start) =
      tokens[f] :: tokens.drop (f + 1) := by
    rw [List.drop_drop, show start + 1 + (f - 1 - start) = f by omega]
    exact List.drop_eq_getElem_cons hf
  rw [← hrest, stretch, List.take_append_drop]

/-- The tokens behind the keyword and up to some place behind the delimiter, cut at the
delimiter. -/
lemma stretch_eq {j : Nat} (h : FirstDelimiter tokens start f t) (hj : f ≤ j) :
    stretch tokens start j = stretch tokens start (f - 1) ++ t :: stretch tokens f j := by
  have hbehind := h.behind
  have hlength : j - start = (stretch tokens start (f - 1)).length + (j - f + 1) := by
    rw [h.length_stretch]
    omega
  rw [stretch, h.drop_eq, hlength, List.take_length_add_append, List.take_succ_cons]
  rfl

/-- The scan passes over all that stands between the keyword and the delimiter. -/
lemma scopeEnd?_eq (h : FirstDelimiter tokens start f t) :
    scopeEnd? tokens start = scopeEndIn f 0 (t :: tokens.drop (f + 1)) := by
  have hbehind := h.behind
  rw [scopeEnd?, h.drop_eq, scopeEndIn_pass h.not_delimits, h.length_stretch]
  congr 1
  omega

/-- Brackets are counted from the delimiter on, if that is a bracket. -/
lemma counts_eq {j : Nat} (h : FirstDelimiter tokens start f t) (hopen : t.kind.opensCurly = true)
    (hj : f ≤ j) :
    openers (stretch tokens start j) = 1 + openers (stretch tokens f j) ∧
      closers (stretch tokens start j) = closers (stretch tokens f j) := by
  obtain ⟨hopeners, hclosers⟩ := counts_of_not_delimits h.not_delimits
  obtain ⟨hopeners', hclosers'⟩ := counts_of_opens hopen
  rw [h.stretch_eq hj, openers_append, closers_append, openers_cons, closers_cons]
  omega

end FirstDelimiter

/-- There is a first delimiter, or none at all. -/
lemma exists_firstDelimiter (tokens : List Token) (start : Nat) :
    (∃ f t, FirstDelimiter tokens start f t) ∨
      ∀ u ∈ tokens.drop (start + 1), delimits u.kind = false := by
  classical
  by_cases hsome : ∃ f, start < f ∧ ∃ t, tokens[f]? = some t ∧ delimits t.kind = true
  · obtain ⟨hbehind, t, ht, hdelimits⟩ := Nat.find_spec hsome
    refine .inl ⟨Nat.find hsome, t, hbehind, ht, hdelimits, ?_⟩
    intro j u hstart hj hu
    rw [Bool.eq_false_iff]
    intro hdelimits
    exact Nat.find_min hsome hj ⟨hstart, u, hu, hdelimits⟩
  · right
    intro u hu
    rw [Bool.eq_false_iff]
    intro hdelimits
    obtain ⟨k, hk⟩ := List.mem_iff_getElem?.1 hu
    rw [List.getElem?_drop] at hk
    exact hsome ⟨start + 1 + k, by omega, u, hk, hdelimits⟩

/-! ### Where a declaration ends -/

/-- The declaration whose keyword has index `start` ends at index `e`: at a semicolon that comes
before any bracket, or at the closing bracket that balances those from the first one on. -/
inductive EndsAt (tokens : List Token) (start e : Nat) : Prop
  | semicolon {t : Token} (first : FirstDelimiter tokens start e t)
      (isSemicolon : t.kind = .semicolon)
  | body {f : Nat} {t u : Token} (first : FirstDelimiter tokens start f t)
      (opens : t.kind.opensCurly = true) (behind : start < e) (token : tokens[e]? = some u)
      (closes : u.kind = .closeCurly)
      (balanced : openers (stretch tokens start e) = closers (stretch tokens start e))
      (inside : ∀ j, f ≤ j → j < e →
        closers (stretch tokens start j) < openers (stretch tokens start j))

/-- The body that a bracket opens is closed where the counts from the keyword on say so. -/
lemma FirstDelimiter.closesAt_iff (h : FirstDelimiter tokens start f t)
    (hopen : t.kind.opensCurly = true) :
    ClosesAt 1 (tokens.drop (f + 1)) n ↔
      (∃ u, tokens[f + 1 + n]? = some u ∧ u.kind = .closeCurly) ∧
        openers (stretch tokens start (f + 1 + n)) = closers (stretch tokens start (f + 1 + n)) ∧
        ∀ j, f ≤ j → j < f + 1 + n →
          closers (stretch tokens start j) < openers (stretch tokens start j) := by
  have hstretch : ∀ m, (tokens.drop (f + 1)).take m = stretch tokens f (f + m) := by
    intro m
    rw [stretch, Nat.add_sub_cancel_left]
  constructor
  · rintro ⟨hcloses, hbalanced, hinside⟩
    rw [List.getElem?_drop] at hcloses
    refine ⟨hcloses, ?_, ?_⟩
    · obtain ⟨hopeners, hclosers⟩ := h.counts_eq hopen (j := f + 1 + n) (by omega)
      rw [hstretch, show f + (n + 1) = f + 1 + n by omega] at hbalanced
      omega
    · intro j hfj hj
      obtain ⟨hopeners, hclosers⟩ := h.counts_eq hopen hfj
      have hnext := hinside (j - f) (by omega)
      rw [hstretch, show f + (j - f) = j by omega] at hnext
      omega
  · rintro ⟨hcloses, hbalanced, hinside⟩
    refine ⟨?_, ?_, ?_⟩
    · rw [List.getElem?_drop]
      exact hcloses
    · obtain ⟨hopeners, hclosers⟩ := h.counts_eq hopen (j := f + 1 + n) (by omega)
      rw [hstretch, show f + (n + 1) = f + 1 + n by omega]
      omega
    · intro m hm
      obtain ⟨hopeners, hclosers⟩ := h.counts_eq hopen (j := f + m) (by omega)
      have hnext := hinside (f + m) (by omega) (by omega)
      rw [hstretch]
      omega

/-- A body ends behind the bracket that opens it. -/
lemma FirstDelimiter.lt_of_closes {u : Token} (h : FirstDelimiter tokens start f t)
    (hopen : t.kind.opensCurly = true) (hstart : start < e) (hu : tokens[e]? = some u)
    (hclose : u.kind = .closeCurly) : f < e := by
  have hdelimits : delimits u.kind = true := by
    rw [hclose]
    rfl
  rcases Nat.lt_trichotomy f e with hlt | rfl | hgt
  · exact hlt
  · obtain rfl := Option.some.inj (h.token.symm.trans hu)
    rw [hclose] at hopen
    cases hopen
  · rw [h.first e u hstart hgt hu] at hdelimits
    cases hdelimits

/-- The end of a declaration, told by the first delimiter behind its keyword. -/
lemma FirstDelimiter.endsAt_iff (h : FirstDelimiter tokens start f t) :
    EndsAt tokens start e ↔
      (t.kind = .semicolon ∧ f = e) ∨
        (t.kind.opensCurly = true ∧
          ∃ n, e = f + 1 + n ∧ ClosesAt 1 (tokens.drop (f + 1)) n) := by
  constructor
  · rintro (⟨first, hsemi⟩ | ⟨first, hopen, hstart, hu, hclose, hbalanced, hinside⟩)
    · obtain ⟨rfl, rfl⟩ := h.unique first
      exact .inl ⟨hsemi, rfl⟩
    · obtain ⟨rfl, rfl⟩ := h.unique first
      have hlt := h.lt_of_closes hopen hstart hu hclose
      obtain ⟨n, rfl⟩ := Nat.exists_eq_add_of_le (Nat.succ_le_of_lt hlt)
      exact .inr ⟨hopen, n, rfl, (h.closesAt_iff hopen).2 ⟨⟨_, hu, hclose⟩, hbalanced, hinside⟩⟩
  · rintro (⟨hsemi, rfl⟩ | ⟨hopen, n, rfl, hcloses⟩)
    · exact .semicolon h hsemi
    · obtain ⟨⟨u, hu, hclose⟩, hbalanced, hinside⟩ := (h.closesAt_iff hopen).1 hcloses
      have hbehind := h.behind
      exact .body h hopen (by omega) hu hclose hbalanced hinside

/-- The scan finds an end just where the declaration ends. -/
lemma scopeEnd?_eq_some_iff : scopeEnd? tokens start = some e ↔ EndsAt tokens start e := by
  rcases exists_firstDelimiter tokens start with ⟨f, t, h⟩ | hnone
  · rw [h.scopeEnd?_eq, h.endsAt_iff]
    rcases delimits_cases t.kind with hopen | hclose | hsemi | hother
    · have hne := (ne_of_opensCurly hopen).2
      rw [scopeEndIn_open hopen, scopeEndIn_eq_some_iff, or_iff_right fun hs => hne hs.1,
        and_iff_right hopen]
    · rw [scopeEndIn_close_unopened hclose, hclose]
      simp [Kind.opensCurly]
    · rw [scopeEndIn_semicolon hsemi, hsemi]
      simp [Kind.opensCurly]
    · rw [h.isDelimiter] at hother
      cases hother
  · have hscan : scopeEnd? tokens start = none := by
      rw [scopeEnd?, ← List.append_nil (tokens.drop (start + 1)), scopeEndIn_pass hnone]
      rfl
    have hno : ∀ {f : Nat} {t : Token}, ¬FirstDelimiter tokens start f t := by
      intro f t h
      have hmem : t ∈ tokens.drop (start + 1) := by
        rw [h.drop_eq]
        exact List.mem_append_right _ List.mem_cons_self
      have hdelimits := h.isDelimiter
      rw [hnone t hmem] at hdelimits
      cases hdelimits
    rw [hscan]
    constructor
    · intro h
      cases h
    · rintro (⟨first, -⟩ | ⟨first, -⟩)
      · exact absurd first hno
      · exact absurd first hno

/-- A scan that has found an end does not look further. -/
lemma scopeEndIn_append (h : scopeEndIn index depth ts = some e) (more : List Token) :
    scopeEndIn index depth (ts ++ more) = some e := by
  induction ts generalizing index depth with
  | nil => cases h
  | cons t ts ih =>
    rw [List.cons_append]
    rcases delimits_cases t.kind with hopen | hclose | hsemi | hother
    · rw [scopeEndIn_open hopen] at h ⊢
      exact ih h
    · rcases depth with _ | _ | depth
      · rw [scopeEndIn_close_unopened hclose] at h
        cases h
      · rw [scopeEndIn_close hclose] at h ⊢
        exact h
      · rw [scopeEndIn_close_inner hclose] at h ⊢
        exact ih h
    · rcases depth with _ | depth
      · rw [scopeEndIn_semicolon hsemi] at h ⊢
        exact h
      · rw [scopeEndIn_semicolon_inner hsemi] at h ⊢
        exact ih h
    · rw [scopeEndIn_cons_of_not_delimits hother] at h ⊢
      exact ih h

/-- **The scan for the end of a declaration is exact.**  It finds the index at which the declaration
ends, told by counting brackets, and nothing if there is no such index.  More tokens behind a
declaration that ends do not change where it ends. -/
theorem scopeEnd?_exact (tokens : List Token) (start : Nat) :
    (∀ e, scopeEnd? tokens start = some e ↔ EndsAt tokens start e) ∧
      (scopeEnd? tokens start = none ↔ ∀ e, ¬EndsAt tokens start e) ∧
      ∀ e more, scopeEnd? tokens start = some e → scopeEnd? (tokens ++ more) start = some e := by
  refine ⟨fun e => scopeEnd?_eq_some_iff, ?_, ?_⟩
  · rw [Option.eq_none_iff_forall_ne_some]
    exact forall_congr' fun e => not_congr scopeEnd?_eq_some_iff
  · intro e more h
    rw [scopeEnd?, List.drop_append]
    exact scopeEndIn_append h _

end PhpOutline.Declaration
