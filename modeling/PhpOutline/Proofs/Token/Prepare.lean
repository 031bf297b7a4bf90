import Mathlib.Data.List.Basic
import Mathlib.Order.Nat
import PhpOutline.Token.Basic

/-!
# Preparing a stream, token by token

Preparation gives every raw token its kind and its line and stops at the first one that has no kind
(`prepareFrom_eq_error`).  Taking one token off the front (`prepareFrom_cons_eq_ok`) shows what a
prepared stream is: kind and text of each token are those of the raw token, and the line moves on by
the line breaks in the text, so that lines never decrease (`pairwise_line_of_prepareFrom`).
-/

namespace PhpOutline

/-- The kind that the grammar gives to a raw token. -/
def RawToken.kind? : RawToken → Option Kind
  | .punctuation c => Kind.ofPunctuation? c
  | .named category _ => some (Kind.ofCategory category)

@[simp] lemma RawToken.concat_cons (r : RawToken) (raws : List RawToken) :
    concat (r :: raws) = r.text ++ concat raws := by
  rw [concat, concat, List.map_cons, String.join_cons]

namespace Token

variable {index line : Nat} {r : RawToken} {raws : List RawToken} {t : Token} {ts : List Token}

/-- A raw token can be prepared if the grammar knows its kind. -/
lemma ofRaw_eq_ok :
    ofRaw index line r = .ok t ↔ ∃ k, r.kind? = some k ∧ ⟨k, r.text, line⟩ = t := by
  cases r with
  | punctuation c =>
    rw [ofRaw, kindOf, RawToken.kind?]
    cases Kind.ofPunctuation? c <;> simp [Except.map]
  | named category text => simp [ofRaw, kindOf, RawToken.kind?, Except.map]

/-- A stream can be prepared if its first token and the others can. -/
lemma prepareFrom_cons_eq_ok :
    prepareFrom index line (r :: raws) = .ok ts ↔
      ∃ k ts', r.kind? = some k ∧ prepareFrom (index + 1) (line + r.newlines) raws = .ok ts' ∧
        ⟨k, r.text, line⟩ :: ts' = ts := by
  rw [prepareFrom]
  constructor
  · intro h
    cases hfirst : ofRaw index line r with
    | error e => rw [hfirst] at h; cases h
    | ok t =>
      cases hrest : prepareFrom (index + 1) (line + r.newlines) raws with
      | error e => rw [hfirst, hrest] at h; cases h
      | ok ts' =>
        rw [hfirst, hrest] at h
        cases h
        obtain ⟨k, hk, rfl⟩ := ofRaw_eq_ok.1 hfirst
        exact ⟨k, ts', hk, rfl, rfl⟩
  · rintro ⟨k, ts', hk, hrest, rfl⟩
    rw [ofRaw_eq_ok.2 ⟨k, hk, rfl⟩, hrest]
    rfl

/-- A stream whose first token has a kind fails where the others fail. -/
lemma prepareFrom_cons_eq_error {e : UnknownPunctuation} {k : Kind} (hk : r.kind? = some k) :
    prepareFrom index line (r :: raws) = .error e ↔
      prepareFrom (index + 1) (line + r.newlines) raws = .error e := by
  rw [prepareFrom, ofRaw_eq_ok.2 ⟨k, hk, rfl⟩]
  cases prepareFrom (index + 1) (line + r.newlines) raws with
  | error e' => rfl
  | ok ts => exact iff_of_false (by rintro ⟨⟩) (by rintro ⟨⟩)

/-- A stream whose first token has no kind fails there. -/
lemma prepareFrom_cons_of_unknown {c : Char} (hc : Kind.ofPunctuation? c = none) :
    prepareFrom index line (.punctuation c :: raws) = .error ⟨c, index, line⟩ := by
  rw [prepareFrom, ofRaw, kindOf, hc]
  rfl

/-- A stream fails at its first punctuation character that the grammar does not have.  The error
names the place of that token and the line that the text in front of it leads to. -/
lemma prepareFrom_eq_error {e : UnknownPunctuation} :
    prepareFrom index line raws = .error e ↔
      ∃ front back, raws = front ++ .punctuation e.char :: back ∧
        (∀ r ∈ front, r.kind?.isSome = true) ∧ Kind.ofPunctuation? e.char = none ∧
        e.index = index + front.length ∧
        e.line = line + Text.newlines (RawToken.concat front).toList := by
  induction raws generalizing index line with
  | nil => simp [prepareFrom]
  | cons r raws ih =>
    cases hk : r.kind? with
    | some k =>
      rw [prepareFrom_cons_eq_error hk, ih]
      have hbreaks : ∀ front, Text.newlines (RawToken.concat (r :: front)).toList =
          r.newlines + Text.newlines (RawToken.concat front).toList := by
        intro front
        rw [RawToken.concat_cons, String.toList_append, Text.newlines_append, RawToken.newlines]
      constructor
      · rintro ⟨front, back, rfl, hfront, hnone, hindex, hline⟩
        refine ⟨r :: front, back, rfl, ?_, hnone, ?_, ?_⟩
        · simpa [hk] using hfront
        · rw [hindex, List.length_cons]
          omega
        · rw [hline, hbreaks]
          omega
      · rintro ⟨front, back, hsplit, hfront, hnone, hindex, hline⟩
        cases front with
        | nil =>
          cases hsplit
          rw [RawToken.kind?, hnone] at hk
          cases hk
        | cons r' front =>
          cases hsplit
          refine ⟨front, back, rfl, fun u hu => hfront u (List.mem_cons_of_mem _ hu), hnone, ?_, ?_⟩
          · rw [hindex, List.length_cons]
            omega
          · rw [hline, hbreaks]
            omega
    | none =>
      cases r with
      | named category text => cases hk
      | punctuation c =>
        rw [prepareFrom_cons_of_unknown hk, Except.error.injEq]
        constructor
        · rintro rfl
          exact ⟨[], raws, rfl, by simp, hk, rfl, rfl⟩
        · rintro ⟨front, back, hsplit, hfront, -, hindex, hline⟩
          cases front with
          | nil =>
            cases hsplit
            rcases e with ⟨c, i, l⟩
            cases hindex
            cases hline
            rfl
          | cons r' front =>
            cases hsplit
            have hknown := hfront (.punctuation c) List.mem_cons_self
            rw [hk] at hknown
            cases hknown

/-- A stream with one more named token at its end fails where it fails without that token, or it
has that token prepared behind the others. -/
lemma prepareFrom_append_named (raws : List RawToken) (category : Category) (index line : Nat) :
    (∃ e, ∀ text, prepareFrom index line (raws ++ [.named category text]) = .error e) ∨
      ∃ ts line', prepareFrom index line raws = .ok ts ∧
        ∀ text, prepareFrom index line (raws ++ [.named category text]) =
          .ok (ts ++ [⟨.ofCategory category, text, line'⟩]) := by
  induction raws generalizing index line with
  | nil => exact .inr ⟨[], line, rfl, fun _ => rfl⟩
  | cons r raws ih =>
    cases hk : r.kind? with
    | none =>
      cases r with
      | named => cases hk
      | punctuation c => exact .inl ⟨_, fun _ => prepareFrom_cons_of_unknown hk⟩
    | some k =>
      rcases ih (index + 1) (line + r.newlines) with ⟨e, he⟩ | ⟨ts, line', hts, hmore⟩
      · refine .inl ⟨e, ?_⟩
        intro text
        exact (prepareFrom_cons_eq_error hk).2 (he text)
      · refine .inr ⟨_, line', prepareFrom_cons_eq_ok.2 ⟨k, ts, hk, hts, rfl⟩, ?_⟩
        intro text
        exact prepareFrom_cons_eq_ok.2 ⟨k, _, hk, hmore text, rfl⟩

/-- No token of a stream starts on a line before the first one. -/
lemma le_line_of_prepareFrom (h : prepareFrom index line raws = .ok ts) :
    ∀ t ∈ ts, line ≤ t.line := by
  induction raws generalizing index line ts with
  | nil =>
    cases h
    simp
  | cons r raws ih =>
    obtain ⟨k, ts', -, hrest, rfl⟩ := prepareFrom_cons_eq_ok.1 h
    intro t ht
    rcases List.mem_cons.1 ht with rfl | hmem
    · exact le_rfl
    · exact (Nat.le_add_right _ _).trans (ih hrest t hmem)

/-- The lines of a prepared stream never decrease. -/
lemma pairwise_line_of_prepareFrom (h : prepareFrom index line raws = .ok ts) :
    ts.Pairwise fun t u => t.line ≤ u.line := by
  induction raws generalizing index line ts with
  | nil =>
    cases h
    exact List.Pairwise.nil
  | cons r raws ih =>
    obtain ⟨k, ts', -, hrest, rfl⟩ := prepareFrom_cons_eq_ok.1 h
    refine List.Pairwise.cons (fun u hu => ?_) (ih hrest)
    exact (Nat.le_add_right _ _).trans (le_line_of_prepareFrom hrest u hu)

/-- A later token of a prepared stream starts no earlier. -/
lemma line_le_line {i j : Nat} {u : Token} (h : prepare raws = .ok ts) (hij : i ≤ j)
    (ht : ts[i]? = some t) (hu : ts[j]? = some u) : t.line ≤ u.line := by
  obtain ⟨hi, rfl⟩ := List.getElem?_eq_some_iff.1 ht
  obtain ⟨hj, rfl⟩ := List.getElem?_eq_some_iff.1 hu
  rcases Nat.eq_or_lt_of_le hij with rfl | hlt
  · exact le_rfl
  · exact List.pairwise_iff_getElem.1 (pairwise_line_of_prepareFrom h) i j hi hj hlt

end Token

end PhpOutline
