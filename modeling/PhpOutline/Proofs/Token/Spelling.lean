import Mathlib.Data.List.Basic
import PhpOutline.Proofs.Token.Prepare

/-!
# From raw tokens to prepared ones

Preparing a stream gives each token a kind and a line.  The lines do not matter to what is read off
the tokens, so that all we keep is that the prepared tokens spell the raw ones (`Spells`): they have
their kinds and their texts.  A list that spells two parts one behind the other falls into two lists
that spell them.

A stream whose tokens the grammar knows can be prepared (`Token.exists_prepareFrom`), and what is
prepared spells the stream (`spells_of_prepareFrom`).
-/

namespace PhpOutline

namespace RawToken

/-- The grammar has the token, and its kind satisfies the condition. -/
def hasKind (p : Kind → Bool) (t : RawToken) : Bool := t.kind?.any p

variable {r : RawToken} {p q : Kind → Bool}

lemma hasKind_iff : hasKind p r = true ↔ ∃ k, r.kind? = some k ∧ p k = true := by
  rw [hasKind, Option.any_eq_true]

/-- A weaker condition on the kind of a token. -/
lemma hasKind_of_imp (hpq : ∀ k, p k = true → q k = true) (h : hasKind p r = true) :
    hasKind q r = true := by
  obtain ⟨k, hk, hpk⟩ := hasKind_iff.1 h
  exact hasKind_iff.2 ⟨k, hk, hpq k hpk⟩

end RawToken

open RawToken (hasKind)

/-- The tokens have the kinds and the texts of the raw tokens. -/
def Spells (ts : List Token) (raws : List RawToken) : Prop :=
  ts.map (fun t => (some t.kind, t.text)) = raws.map fun r => (r.kind?, r.text)

variable {ts : List Token} {r : RawToken} {raws front back : List RawToken} {p : Kind → Bool}

lemma spells_nil : Spells ts [] ↔ ts = [] := List.map_eq_nil_iff

/-- A list that spells a token and others starts with that token. -/
lemma spells_cons :
    Spells ts (r :: raws) ↔
      ∃ t ts', ts = t :: ts' ∧ r.kind? = some t.kind ∧ r.text = t.text ∧ Spells ts' raws := by
  rw [Spells, List.map_cons, List.map_eq_cons_iff]
  constructor
  · rintro ⟨t, ts', rfl, hface, hrest⟩
    obtain ⟨hkind, htext⟩ := Prod.mk.inj hface
    exact ⟨t, ts', rfl, hkind.symm, htext.symm, hrest⟩
  · rintro ⟨t, ts', rfl, hkind, htext, hrest⟩
    exact ⟨t, ts', rfl, by rw [hkind, htext], hrest⟩

/-- A list that spells one token holds one token. -/
lemma spells_singleton :
    Spells ts [r] ↔ ∃ t, ts = [t] ∧ r.kind? = some t.kind ∧ r.text = t.text := by
  rw [spells_cons]
  constructor
  · rintro ⟨t, ts', rfl, hkind, htext, hnil⟩
    obtain rfl := spells_nil.1 hnil
    exact ⟨t, rfl, hkind, htext⟩
  · rintro ⟨t, rfl, hkind, htext⟩
    exact ⟨t, [], rfl, hkind, htext, spells_nil.2 rfl⟩

/-- A list that spells two parts falls into lists that spell them. -/
lemma spells_append :
    Spells ts (front ++ back) ↔
      ∃ ts₁ ts₂, ts = ts₁ ++ ts₂ ∧ Spells ts₁ front ∧ Spells ts₂ back := by
  rw [Spells, List.map_append, List.map_eq_append_iff]
  rfl

lemma Spells.length_eq (h : Spells ts raws) : ts.length = raws.length := by
  simpa using congrArg List.length h

/-- The texts of the prepared tokens. -/
lemma Spells.map_text (h : Spells ts raws) : ts.map (·.text) = raws.map RawToken.text := by
  have htexts := congrArg (List.map Prod.snd) h
  rwa [List.map_map, List.map_map] at htexts

/-- The text of the prepared tokens. -/
lemma Spells.join_text (h : Spells ts raws) :
    String.join (ts.map (·.text)) = RawToken.concat raws := congrArg String.join h.map_text

/-- Every prepared token is written. -/
lemma Spells.exists_mem (h : Spells ts raws) {t : Token} (ht : t ∈ ts) :
    ∃ r ∈ raws, r.kind? = some t.kind ∧ r.text = t.text := by
  have hmem : (some t.kind, t.text) ∈ raws.map fun r => (r.kind?, r.text) :=
    h ▸ List.mem_map.2 ⟨t, ht, rfl⟩
  obtain ⟨r, hr, hface⟩ := List.mem_map.1 hmem
  exact ⟨r, hr, Prod.mk.inj hface⟩

/-- Every written token is prepared. -/
lemma Spells.exists_prepared {r : RawToken} (h : Spells ts raws) (hr : r ∈ raws) :
    ∃ t ∈ ts, r.kind? = some t.kind := by
  have hmem : (r.kind?, r.text) ∈ ts.map fun t => (some t.kind, t.text) :=
    h ▸ List.mem_map.2 ⟨r, hr, rfl⟩
  obtain ⟨t, ht, hface⟩ := List.mem_map.1 hmem
  exact ⟨t, ht, (Prod.mk.inj hface).1.symm⟩

/-- A condition on the kinds of the written tokens holds of the prepared ones. -/
lemma Spells.forall_kind (h : Spells ts raws) (hp : ∀ r ∈ raws, hasKind p r = true) :
    ∀ t ∈ ts, p t.kind = true := by
  intro t ht
  obtain ⟨r, hr, hkind, -⟩ := h.exists_mem ht
  have hpr := hp r hr
  rw [hasKind, hkind] at hpr
  exact hpr

/-- What is collected from the kinds of the prepared tokens. -/
lemma Spells.filterMap_kind {β : Type} (h : Spells ts raws) (f : Kind → Option β) :
    ts.filterMap (fun t => f t.kind) = raws.filterMap fun r => r.kind?.bind f := by
  have hfaces := congrArg (List.filterMap fun face : Option Kind × String => face.1.bind f) h
  simpa [List.filterMap_map, Function.comp_def] using hfaces

/-- The first token of some kind is prepared from the first written one. -/
lemma Spells.find?_kind (h : Spells ts raws) (p : Kind → Bool) :
    (ts.find? fun t => p t.kind).map (fun t => (some t.kind, t.text)) =
      (raws.find? (hasKind p)).map fun r => (r.kind?, r.text) := by
  have hfaces := congrArg (List.find? fun face : Option Kind × String => face.1.any p) h
  rwa [List.find?_map, List.find?_map] at hfaces

lemma Spells.reverse (h : Spells ts raws) : Spells ts.reverse raws.reverse := by
  rw [Spells, List.map_reverse, List.map_reverse, h]

lemma Spells.take (h : Spells ts raws) (n : Nat) : Spells (ts.take n) (raws.take n) := by
  rw [Spells, List.map_take, List.map_take, h]

lemma Spells.drop (h : Spells ts raws) (n : Nat) : Spells (ts.drop n) (raws.drop n) := by
  rw [Spells, List.map_drop, List.map_drop, h]

/-- Whether the first token of some kind is of another kind too. -/
lemma Spells.any_find?_kind (h : Spells ts raws) (p q : Kind → Bool) :
    (ts.find? fun t => p t.kind).any (fun t => q t.kind) =
      (raws.find? (hasKind p)).any (hasKind q) := by
  have hfaces := congrArg (Option.any fun face : Option Kind × String => face.1.any q)
    (h.find?_kind p)
  rwa [Option.any_map, Option.any_map] at hfaces

/-- The text of the first token of some kind, if it is of another kind too. -/
lemma Spells.filter_find?_kind (h : Spells ts raws) (p q : Kind → Bool) :
    ((ts.find? fun t => p t.kind).filter fun t => q t.kind).map (·.text) =
      ((raws.find? (hasKind p)).filter (hasKind q)).map RawToken.text := by
  have hfaces := congrArg
    (fun face => (face.filter fun face : Option Kind × String => face.1.any q).map (·.2))
    (h.find?_kind p)
  simp only [Option.filter_map, Option.map_map] at hfaces
  exact hfaces

/-! ### Preparing a stream -/

/-- A stream whose tokens the grammar has is prepared, and the prepared tokens spell it. -/
lemma Token.exists_prepareFrom (raws : List RawToken) (hknown : ∀ r ∈ raws, r.kind?.isSome = true)
    (index line : Nat) :
    ∃ ts, Token.prepareFrom index line raws = .ok ts ∧ Spells ts raws := by
  induction raws generalizing index line with
  | nil => exact ⟨[], rfl, rfl⟩
  | cons r raws ih =>
    obtain ⟨ts, hts, hspells⟩ :=
      ih (fun r hr => hknown r (List.mem_cons_of_mem _ hr)) (index + 1) (line + r.newlines)
    obtain ⟨k, hk⟩ := Option.isSome_iff_exists.1 (hknown r List.mem_cons_self)
    exact ⟨⟨k, r.text, line⟩ :: ts, prepareFrom_cons_eq_ok.2 ⟨k, ts, hk, hts, rfl⟩,
      spells_cons.2 ⟨_, _, rfl, hk, rfl, hspells⟩⟩

/-- Prepared tokens spell their stream. -/
lemma spells_of_prepareFrom {index line : Nat} (h : Token.prepareFrom index line raws = .ok ts) :
    Spells ts raws := by
  induction raws generalizing index line ts with
  | nil =>
    cases h
    rfl
  | cons r raws ih =>
    obtain ⟨k, ts', hk, hrest, rfl⟩ := Token.prepareFrom_cons_eq_ok.1 h
    exact spells_cons.2 ⟨_, ts', rfl, hk, rfl, ih hrest⟩

/-- The grammar knows the tokens of a stream that can be prepared. -/
lemma Spells.isSome_kind? (h : Spells ts raws) (hr : r ∈ raws) :
    r.kind?.isSome = true := by
  obtain ⟨t, -, hkind⟩ := h.exists_prepared hr
  exact Option.isSome_of_eq_some hkind

end PhpOutline
