import Mathlib.Data.List.Basic
import PhpOutline.Proofs.Layout.Lookbehind
import PhpOutline.Proofs.Token.Spelling

/-!
# The layout of a stream

The layout of a stream is the list of its tokens without white space, each with a note whether white
space that matters follows it.  Streams with the same layout may have white space anywhere else, and
white space of any text; their prepared tokens differ in layout only (`relaid_of_layout_eq`).
-/

namespace PhpOutline

namespace RawToken

/-- White space of any text. -/
def isWhitespace (r : RawToken) : Bool := r.kind?.any (·.isWhitespace)

/-- White space between these tokens matters. -/
def spaceMatters (r s : RawToken) : Bool :=
  r.kind?.any fun k => s.kind?.any fun k' => PhpOutline.spaceMatters k k'

/-- The tokens of a stream that are not white space. -/
def words (raws : List RawToken) : List RawToken := raws.filter (!·.isWhitespace)

/-- The tokens of a stream that are not white space, each with whether white space follows it where
that matters. -/
def layout : List RawToken → List (RawToken × Bool)
  | [] => []
  | r :: raws =>
    if r.isWhitespace then layout raws
    else
      (r, raws.head?.any isWhitespace && (words raws).head?.any r.spaceMatters) :: layout raws

variable {r : RawToken} {raws raws' : List RawToken}

lemma words_cons_of_isWhitespace (h : r.isWhitespace = true) : words (r :: raws) = words raws :=
  List.filter_cons_of_neg (by simp [h])

lemma words_cons_of_word (h : r.isWhitespace = false) : words (r :: raws) = r :: words raws :=
  List.filter_cons_of_pos (by simp [h])

lemma layout_cons_of_isWhitespace (h : r.isWhitespace = true) :
    layout (r :: raws) = layout raws := by
  rw [layout, if_pos h]

lemma layout_cons_of_word (h : r.isWhitespace = false) :
    layout (r :: raws) =
      (r, raws.head?.any isWhitespace && (words raws).head?.any r.spaceMatters) ::
        layout raws := by
  rw [layout, if_neg (by simp [h])]

/-- The tokens of a layout. -/
lemma map_fst_layout (raws : List RawToken) : (layout raws).map (·.1) = words raws := by
  induction raws with
  | nil => rfl
  | cons r raws ih =>
    cases h : r.isWhitespace with
    | true => rw [layout_cons_of_isWhitespace h, words_cons_of_isWhitespace h, ih]
    | false => rw [layout_cons_of_word h, words_cons_of_word h, List.map_cons, ih]

lemma words_eq_of_layout_eq (h : layout raws = layout raws') : words raws = words raws' := by
  rw [← map_fst_layout, h, map_fst_layout]

/-- White space is known to the grammar. -/
lemma isSome_kind?_of_isWhitespace (h : r.isWhitespace = true) : r.kind?.isSome = true :=
  Option.isSome_of_any h

end RawToken

open RawToken

variable {r : RawToken} {raws raws' : List RawToken} {t : Token} {ts us : List Token}

lemma isWhitespace_of_kind? (h : r.kind? = some t.kind) :
    r.isWhitespace = t.kind.isWhitespace := by
  rw [RawToken.isWhitespace, h, Option.any_some]

lemma startsWithSpace_of_spells (h : Spells ts raws) :
    startsWithSpace ts = raws.head?.any RawToken.isWhitespace := by
  cases raws with
  | nil => rw [spells_nil.1 h]; rfl
  | cons r raws =>
    obtain ⟨t, ts, rfl, hkind, -⟩ := spells_cons.1 h
    exact (isWhitespace_of_kind? hkind).symm

/-- The first prepared token that is not white space is the first word of the stream. -/
lemma exists_head?_words (h : Spells ts raws)
    (ht : (Declaration.skipSpace ts).head? = some t) :
    ∃ r, (words raws).head? = some r ∧ r.kind? = some t.kind := by
  induction raws generalizing ts with
  | nil =>
    rw [spells_nil.1 h] at ht
    cases ht
  | cons r raws ih =>
    obtain ⟨u, ts, rfl, hkind, -, hrest⟩ := spells_cons.1 h
    have hspace := isWhitespace_of_kind? hkind
    cases hr : r.isWhitespace with
    | true =>
      rw [Declaration.skipSpace, List.dropWhile_cons_of_pos (by rw [← hspace, hr])] at ht
      rw [words_cons_of_isWhitespace hr]
      exact ih hrest ht
    | false =>
      rw [Declaration.skipSpace, List.dropWhile_cons_of_neg (by simp [← hspace, hr])] at ht
      cases ht
      rw [words_cons_of_word hr]
      exact ⟨r, rfl, hkind⟩

/-- Behind a common token, streams with the same layout agree on white space that matters. -/
lemma jointsAgree_of_layout_eq (hword : r.isWhitespace = false)
    (h : layout (r :: raws) = layout (r :: raws')) (hkind : r.kind? = some t.kind)
    (hts : Spells ts raws) (hus : Spells us raws') : JointsAgree t.kind ts us := by
  rw [layout_cons_of_word hword, layout_cons_of_word hword] at h
  obtain ⟨hfirst, hrest⟩ := List.cons.inj h
  have hflag := (Prod.mk.inj hfirst).2
  intro v hv hmatters
  obtain ⟨s, hs, hskind⟩ := exists_head?_words hts hv
  have hrs : r.spaceMatters s = true := by simp [RawToken.spaceMatters, hkind, hskind, hmatters]
  rw [← words_eq_of_layout_eq hrest, hs, Option.any_some, hrs, Bool.and_true, Bool.and_true]
    at hflag
  rw [startsWithSpace_of_spells hts, startsWithSpace_of_spells hus, hflag]

/-- Prepared tokens of streams with the same layout differ in layout only.  White space is taken off
the two streams one by one, until both start with the same token. -/
lemma relaid_of_layout_eq (h : layout raws = layout raws') (hts : Spells ts raws)
    (hus : Spells us raws') : Relaid ts us := by
  induction raws generalizing raws' ts us with
  | nil =>
    obtain rfl := spells_nil.1 hts
    induction raws' generalizing us with
    | nil =>
      obtain rfl := spells_nil.1 hus
      exact .nil
    | cons r' raws' ih =>
      obtain ⟨u, us, rfl, hkind, -, hrest⟩ := spells_cons.1 hus
      cases hr' : r'.isWhitespace with
      | true =>
        rw [layout_cons_of_isWhitespace hr'] at h
        exact .right (by rw [← isWhitespace_of_kind? hkind, hr']) (ih h hrest)
      | false =>
        rw [layout_cons_of_word hr'] at h
        cases h
  | cons r raws ih =>
    obtain ⟨t, ts, rfl, hkind, htext, hts⟩ := spells_cons.1 hts
    cases hr : r.isWhitespace with
    | true =>
      rw [layout_cons_of_isWhitespace hr] at h
      exact .left (by rw [← isWhitespace_of_kind? hkind, hr]) (ih h hts hus)
    | false =>
      induction raws' generalizing us with
      | nil =>
        rw [layout_cons_of_word hr] at h
        cases h
      | cons r' raws' ih' =>
        obtain ⟨u, us, rfl, hkind', htext', hus'⟩ := spells_cons.1 hus
        cases hr' : r'.isWhitespace with
        | true =>
          rw [layout_cons_of_isWhitespace hr'] at h
          exact .right (by rw [← isWhitespace_of_kind? hkind', hr']) (ih' h hus')
        | false =>
          obtain ⟨hfirst, hrest⟩ := List.cons.inj
            ((layout_cons_of_word hr).symm.trans (h.trans (layout_cons_of_word hr')))
          obtain rfl : r = r' := (Prod.mk.inj hfirst).1
          have hagrees : t.Agrees u :=
            ⟨Option.some.inj (hkind.symm.trans hkind'), fun _ => htext.symm.trans htext'⟩
          exact .cons hagrees (by rw [← isWhitespace_of_kind? hkind, hr])
            (jointsAgree_of_layout_eq hr h hkind hts hus') (ih hrest hts hus')

/-! ### Preparing streams with the same layout -/

/-- A stream with the layout of one that can be prepared can be prepared. -/
lemma exists_prepare_of_layout_eq (h : layout raws = layout raws') (hts : Spells ts raws) :
    ∃ us, Token.prepare raws' = .ok us ∧ Spells us raws' := by
  refine Token.exists_prepareFrom raws' (fun r hr => ?_) 0 1
  cases hspace : r.isWhitespace with
  | true => exact isSome_kind?_of_isWhitespace hspace
  | false =>
    have hwords : r ∈ words raws' := List.mem_filter.2 ⟨hr, by simp [hspace]⟩
    rw [← words_eq_of_layout_eq h] at hwords
    exact hts.isSome_kind? (List.mem_filter.1 hwords).1

end PhpOutline
