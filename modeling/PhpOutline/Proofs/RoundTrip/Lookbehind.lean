import Mathlib.Data.List.Basic
import Mathlib.Data.List.TakeWhile
import PhpOutline.Proofs.Outline.Declared
import PhpOutline.Proofs.RoundTrip.Parts

/-!
# What is read in front of a keyword

The doc comment, the modifiers and the visibility of a written declaration are read back from its
keyword.  The look back passes over the words and stops at the doc comment or, without one, at the
token that ends what is written before: an open tag, a semicolon or a curly bracket.  Hence nothing
of an earlier declaration is taken for a part of this one.

`Ready` says that a declaration may start behind a list of tokens: such a token stands there, white
space apart, and the namespace in force is known.
-/

namespace PhpOutline

namespace Written

open Declaration
open RawToken (hasKind hasKind_of_imp)

/-- Tokens that no look back goes past. -/
def isBoundary : Kind → Bool
  | .openTag | .semicolon | .openCurly | .closeCurly => true
  | _ => false

/-- Tokens at which the look back over the words of a declaration stops. -/
def endsWords (k : Kind) : Bool := isBoundary k || k == .docComment

/-- What the look back for modifiers passes over. -/
def isPassed (k : Kind) : Bool := k.isModifier || isPassedOver k

/-- What the look back for a visibility passes over. -/
def isUnrestricting (k : Kind) : Bool := k.isWhitespace || k.isModifier || k == .kwReadonly

/-- The modifiers among the tokens before a keyword, the nearest first. -/
def modifiersBehind (ts : List Token) : Modifiers :=
  .ofList ((ts.takeWhile fun t => isPassed t.kind).filterMap fun t => Modifier.ofKind? t.kind)

/-- The visibility among the tokens before a keyword, the nearest first. -/
def visibilityBehind (ts : List Token) : Option Visibility :=
  (ts.dropWhile fun t => isUnrestricting t.kind).head?.bind fun t => Visibility.ofKind? t.kind

/-- The first token that is not white space satisfies the condition. -/
def StopsAt (p : Kind → Bool) (ts : List Token) : Prop :=
  ∃ space t rest, ts = space ++ t :: rest ∧ (∀ u ∈ space, u.kind.isWhitespace = true) ∧
    t.kind.isWhitespace = false ∧ p t.kind = true

variable {p q : Kind → Bool} {front ts rest : List Token} {t : Token} {h : Head}

/-! ### Where a look back stops -/

lemma stopsAt_cons (hwhite : t.kind.isWhitespace = false) (ht : p t.kind = true) :
    StopsAt p (t :: rest) :=
  ⟨[], t, rest, rfl, List.forall_mem_nil _, hwhite, ht⟩

/-- White space does not change where a look back stops. -/
lemma StopsAt.space (hstop : StopsAt p rest) (hts : ∀ u ∈ ts, u.kind.isWhitespace = true) :
    StopsAt p (ts ++ rest) := by
  obtain ⟨space, t, rest', rfl, hspace, ht⟩ := hstop
  refine ⟨ts ++ space, t, rest', by rw [List.append_assoc], ?_, ht⟩
  exact List.forall_mem_append.2 ⟨hts, hspace⟩

/-- A look back over more tokens stops among them or where it stopped before. -/
lemma StopsAt.append (hstop : StopsAt p rest) (hts : ∀ u ∈ ts, p u.kind = true) :
    StopsAt p (ts ++ rest) := by
  induction ts with
  | nil => exact hstop
  | cons u us ih =>
    obtain ⟨hu, hus⟩ := List.forall_mem_cons.1 hts
    by_cases hwhite : u.kind.isWhitespace = true
    · have hspace := (ih hus).space (List.forall_mem_singleton.2 hwhite)
      exact hspace
    · exact stopsAt_cons (Bool.eq_false_iff.2 hwhite) hu

lemma StopsAt.imp (hstop : StopsAt p ts) (hpq : ∀ k, p k = true → q k = true) : StopsAt q ts := by
  obtain ⟨space, t, rest, hts, hspace, hwhite, ht⟩ := hstop
  exact ⟨space, t, rest, hts, hspace, hwhite, hpq _ ht⟩

/-- The token at which a look back stops has no other kind. -/
lemma StopsAt.head?_skipSpace (hstop : StopsAt p ts) {kind : Kind} (hkind : p kind = false) :
    (skipSpace ts).head?.any (fun u => decide (u.kind = kind)) = false := by
  obtain ⟨space, t, rest, rfl, hspace, hwhite, ht⟩ := hstop
  have hne : t.kind ≠ kind := by
    intro heq
    rw [heq, hkind] at ht
    cases ht
  rw [skipSpace, List.dropWhile_append_of_pos hspace,
    List.dropWhile_cons_of_neg (by rw [hwhite]; exact Bool.false_ne_true)]
  simpa using hne

/-! ### Modifiers and visibility -/

/-- What the words of a head give, read off the kinds of their tokens. -/
lemma filterMap_renderWords {β : Type} (h : Head) {f : Kind → Option β} {g : Word → Option β}
    (hspace : f .whitespace = none) (hword : ∀ w : Word, f (.ofCategory w.category) = g w) :
    h.renderWords.filterMap (fun r => r.kind?.bind f) =
      h.words.filterMap fun entry => g entry.1 := by
  have hgap : ∀ g : Gap, g.render.filterMap (fun r => r.kind?.bind f) = [] := by
    intro g
    rw [List.filterMap_eq_nil_iff]
    intro r hr
    obtain ⟨text, -, rfl⟩ := List.mem_map.1 hr
    exact hspace
  rw [Head.renderWords]
  induction h.words with
  | nil => rfl
  | cons entry words ih =>
    have hfirst : entry.1.token.kind?.bind f = g entry.1 := hword entry.1
    rw [List.flatMap_cons, List.filterMap_append, ih, List.filterMap_cons, hfirst, hgap,
      List.filterMap_cons]
    cases g entry.1 <;> rfl

lemma passed_words (h : Head) : ∀ r ∈ h.renderWords, hasKind isPassed r = true := by
  intro r hr
  obtain ⟨⟨w, g⟩, -, hmem⟩ := List.mem_flatMap.1 hr
  rcases List.mem_cons.1 hmem with rfl | hgap
  · cases w with
    | visibility v => cases v <;> rfl
    | modifier m => cases m <;> rfl
    | readonly => rfl
  · obtain ⟨text, -, rfl⟩ := List.mem_map.1 hgap
    rfl

/-- A word is read as the modifier that it writes. -/
lemma modifier?_ofCategory (w : Word) :
    Modifier.ofKind? (.ofCategory w.category) = w.modifier? := by
  cases w with
  | visibility v => cases v <;> rfl
  | modifier m => cases m <;> rfl
  | readonly => rfl

/-- A word is read as the visibility that it writes. -/
lemma visibility?_ofCategory (w : Word) :
    Visibility.ofKind? (.ofCategory w.category) = w.visibility? := by
  cases w with
  | visibility v => cases v <;> rfl
  | modifier m => cases m <;> rfl
  | readonly => rfl

/-- The modifiers that are read back over the words are those among the words. -/
lemma modifiers_of_words (hts : Spells ts h.renderWords) (hstop : StopsAt endsWords rest) :
    modifiersBehind (ts.reverse ++ rest) = h.modifiers := by
  have hpassed := hts.forall_kind (passed_words h)
  have hread : (ts.filterMap fun t => Modifier.ofKind? t.kind) =
      h.words.filterMap (·.1.modifier?) := by
    rw [hts.filterMap_kind]
    exact filterMap_renderWords h rfl modifier?_ofCategory
  obtain ⟨space, t, rest', rfl, hspace, -, ht⟩ := hstop
  -- the look back takes the words and the white space behind them, and stops at `t`
  have hstops : isPassed t.kind = false := by
    revert ht
    cases t.kind <;> decide
  have htaken : (space ++ t :: rest').takeWhile (fun t => isPassed t.kind) = space := by
    rw [List.takeWhile_append_of_pos, List.takeWhile_cons_of_neg (by simp [hstops]),
      List.append_nil]
    intro u hu
    simp [isPassed, isPassedOver, hspace u hu]
  have hblank : space.filterMap (fun t => Modifier.ofKind? t.kind) = [] := by
    rw [List.filterMap_eq_nil_iff]
    intro u hu
    have hkind := hspace u hu
    rw [Kind.isWhitespace, beq_iff_eq] at hkind
    rw [hkind]
    rfl
  rw [modifiersBehind, List.takeWhile_append_of_pos fun u hu => hpassed u (List.mem_reverse.1 hu),
    htaken, List.filterMap_append, hblank, List.append_nil, List.filterMap_reverse, hread]
  simp [Modifiers.ofList, Head.modifiers]

/-- A visibility is found behind the tokens that may stand in front of it. -/
lemma visibilityBehind_append (hts : ∀ u ∈ ts, isPassed u.kind = true) :
    visibilityBehind (ts ++ rest) =
      (ts.findSome? fun t => Visibility.ofKind? t.kind).or (visibilityBehind rest) := by
  induction ts with
  | nil => rfl
  | cons u us ih =>
    obtain ⟨hu, hus⟩ := List.forall_mem_cons.1 hts
    -- a word is passed over, or it is a visibility
    have hcases : ∀ k : Kind, isPassed k = true →
        isUnrestricting k = true ∧ Visibility.ofKind? k = none ∨
          isUnrestricting k = false ∧ (Visibility.ofKind? k).isSome = true := by
      intro k
      cases k <;> decide
    rcases hcases u.kind hu with ⟨hskip, hnone⟩ | ⟨hstop, hsome⟩
    · rw [List.findSome?_cons, hnone, ← ih hus, visibilityBehind, List.cons_append,
        List.dropWhile_cons_of_pos (by exact hskip), ← visibilityBehind]
    · obtain ⟨v, hv⟩ := Option.isSome_iff_exists.1 hsome
      rw [List.findSome?_cons, hv, visibilityBehind, List.cons_append,
        List.dropWhile_cons_of_neg (by simp [hstop])]
      simpa using hv

/-- The visibility that is read back over the words is the last one among them. -/
lemma visibility_of_words (hts : Spells ts h.renderWords) (hstop : StopsAt endsWords rest) :
    visibilityBehind (ts.reverse ++ rest) = h.visibility := by
  have hpassed := hts.forall_kind (passed_words h)
  have hread : (ts.filterMap fun t => Visibility.ofKind? t.kind) =
      h.words.filterMap (·.1.visibility?) := by
    rw [hts.filterMap_kind]
    exact filterMap_renderWords h rfl visibility?_ofCategory
  have hnone : visibilityBehind rest = none := by
    obtain ⟨space, t, rest', rfl, hspace, -, ht⟩ := hstop
    have hstops : isUnrestricting t.kind = false ∧ Visibility.ofKind? t.kind = none := by
      revert ht
      cases t.kind <;> decide
    rw [visibilityBehind, List.dropWhile_append_of_pos fun u hu => by
        simp [isUnrestricting, hspace u hu],
      List.dropWhile_cons_of_neg (by simp [hstops.1])]
    exact hstops.2
  rw [visibilityBehind_append fun u hu => hpassed u (List.mem_reverse.1 hu), hnone, Option.or_none,
    ← List.head?_filterMap, List.filterMap_reverse, hread, List.head?_reverse]
  rfl

/-! ### Doc comments -/

/-- White space without an empty line is written so. -/
def IsNarrow (raws : List RawToken) : Prop :=
  ∀ r ∈ raws, r.kind? = some .whitespace → r.newlines ≤ 1

lemma isNarrow_gap (g : NarrowGap) : IsNarrow g.gap.render := by
  intro r hr _
  obtain ⟨text, htext, rfl⟩ := List.mem_map.1 hr
  exact g.narrow text htext

lemma isNarrow_words (h : Head) : IsNarrow h.renderWords := by
  intro r hr hkind
  obtain ⟨⟨w, g⟩, -, hmem⟩ := List.mem_flatMap.1 hr
  rcases List.mem_cons.1 hmem with rfl | hgap
  · have hword : w.token.kind? ≠ some .whitespace := by
      cases w with
      | visibility v => cases v <;> decide
      | modifier m => cases m <;> decide
      | readonly => decide
    exact absurd hkind hword
  · exact isNarrow_gap g r hgap hkind

lemma IsNarrow.newlines_le {raws : List RawToken} (hnarrow : IsNarrow raws) (hts : Spells ts raws) :
    ∀ u ∈ ts, u.kind.isWhitespace = true → u.newlines ≤ 1 := by
  intro u hu hwhite
  obtain ⟨r, hr, hkind, htext⟩ := hts.exists_mem hu
  rw [Kind.isWhitespace, beq_iff_eq] at hwhite
  have hline := hnarrow r hr (by rw [hkind, hwhite])
  rwa [RawToken.newlines, htext] at hline

/-- The look back for a doc comment passes over words and over white space without an empty
line. -/
lemma docblockBehind_reverse_append {raws : List RawToken} (hts : Spells ts raws)
    (hpassed : ∀ r ∈ raws, hasKind isPassed r = true) (hnarrow : IsNarrow raws) :
    docblockBehind (ts.reverse ++ rest) = docblockBehind rest := by
  have hkinds : ∀ k : Kind, isPassed k = true →
      k ≠ .docComment ∧ k ≠ .closeSquare ∧ (isPassedOver k || k.isModifier) = true := by
    intro k
    cases k <;> decide
  have hpassed : ∀ u ∈ ts.reverse, isPassed u.kind = true :=
    fun u hu => hts.forall_kind hpassed u (List.mem_reverse.1 hu)
  have hnarrow : ∀ u ∈ ts.reverse, u.kind.isWhitespace = true → u.newlines ≤ 1 :=
    fun u hu => hnarrow.newlines_le hts u (List.mem_reverse.1 hu)
  generalize ts.reverse = back at hpassed hnarrow
  induction back with
  | nil => rfl
  | cons u us ih =>
    obtain ⟨hu, hus⟩ := List.forall_mem_cons.1 hpassed
    obtain ⟨hline, hlines⟩ := List.forall_mem_cons.1 hnarrow
    obtain ⟨hdoc, hsquare, hgoes⟩ := hkinds u.kind hu
    have hempty : ¬(u.kind.isWhitespace && decide (1 < u.newlines)) = true := by
      rw [Bool.and_eq_true, decide_eq_true_eq]
      rintro ⟨hwhite, hmany⟩
      exact absurd (hline hwhite) (by omega)
    rw [List.cons_append, docblockBehind, if_neg hdoc, if_neg hempty, if_neg hsquare, if_pos hgoes,
      ih hus hlines]

/-- There is no doc comment beyond a boundary. -/
lemma docblockBehind_of_stopsAt (hstop : StopsAt isBoundary ts) : docblockBehind ts = none := by
  obtain ⟨space, t, rest, rfl, hspace, -, ht⟩ := hstop
  induction space with
  | nil =>
    have hkinds : t.kind ≠ .docComment ∧ t.kind.isWhitespace = false ∧ t.kind ≠ .closeSquare ∧
        (isPassedOver t.kind || t.kind.isModifier) = false := by
      revert ht
      cases t.kind <;> decide
    obtain ⟨hdoc, hwhite, hsquare, hgoes⟩ := hkinds
    rw [List.nil_append, docblockBehind, if_neg hdoc, if_neg (by simp [hwhite]), if_neg hsquare,
      if_neg (by simp [hgoes])]
  | cons u us ih =>
    obtain ⟨hu, hus⟩ := List.forall_mem_cons.1 hspace
    rw [Kind.isWhitespace, beq_iff_eq] at hu
    rw [List.cons_append, docblockBehind, hu, ih hus]
    split <;> simp_all

/-- The doc comment of a head is read back over its words. -/
lemma docblock_of_head {doc words : List Token} (hdoc : Spells doc h.renderDocComment)
    (hwords : Spells words h.renderWords) (hstop : StopsAt isBoundary rest) :
    docblockBehind (words.reverse ++ (doc.reverse ++ rest)) = h.docblock := by
  rw [docblockBehind_reverse_append hwords (passed_words h) (isNarrow_words h), Head.docblock]
  rw [Head.renderDocComment] at hdoc
  cases hcomment : h.docComment with
  | none =>
    rw [hcomment] at hdoc
    obtain rfl := spells_nil.1 hdoc
    exact docblockBehind_of_stopsAt hstop
  | some comment =>
    obtain ⟨text, g⟩ := comment
    rw [hcomment] at hdoc
    obtain ⟨d, gap, rfl, hkind, htext, hgap⟩ := spells_cons.1 hdoc
    have hd : d.kind = .docComment := (Option.some.inj hkind).symm
    have hpassed : ∀ r ∈ g.gap.render, hasKind isPassed r = true := by
      intro r hr
      exact hasKind_of_imp (fun k hk => by simp [isPassed, isPassedOver, hk])
        (whitespace_gap _ r hr)
    rw [List.reverse_cons, List.append_assoc,
      docblockBehind_reverse_append hgap hpassed (isNarrow_gap g), List.singleton_append,
      docblockBehind, if_pos hd, ← htext]
    rfl

/-! ### Where a declaration may start -/

/-- The look back for a namespace passes over tokens that declare none. -/
lemma namespaceBehind_append (hts : ∀ u ∈ ts, u.kind ≠ .kwNamespace) (after : List Token) :
    namespaceBehind after (ts ++ rest) = namespaceBehind (ts.reverse ++ after) rest := by
  induction ts generalizing after with
  | nil => rfl
  | cons u us ih =>
    obtain ⟨hu, hus⟩ := List.forall_mem_cons.1 hts
    rw [List.cons_append, namespaceBehind, if_neg hu, List.reverse_cons, List.append_assoc]
    exact ih hus (u :: after)

/-- A declaration may start behind the tokens of `front`, in the given namespace. -/
structure Ready (namespaceName : String) (front : List Token) : Prop where
  boundary : StopsAt isBoundary front.reverse
  namespaceBehind_eq : ∀ after, namespaceBehind after front.reverse = namespaceName

variable {namespaceName : String}

/-- The namespace stays in force behind tokens that declare none. -/
lemma Ready.namespaceBehind_append (hready : Ready namespaceName front)
    (hts : ∀ u ∈ ts, u.kind ≠ .kwNamespace) (after : List Token) :
    namespaceBehind after (front ++ ts).reverse = namespaceName := by
  have hback : ∀ u ∈ ts.reverse, u.kind ≠ .kwNamespace :=
    fun u hu => hts u (List.mem_reverse.1 hu)
  rw [List.reverse_append, Written.namespaceBehind_append hback]
  exact hready.namespaceBehind_eq _

/-- A declaration may start behind white space, too. -/
lemma Ready.gap (hready : Ready namespaceName front)
    (hts : ∀ u ∈ ts, u.kind.isWhitespace = true) : Ready namespaceName (front ++ ts) where
  boundary := by
    rw [List.reverse_append]
    exact hready.boundary.space fun u hu => hts u (List.mem_reverse.1 hu)
  namespaceBehind_eq := by
    refine hready.namespaceBehind_append fun u hu hkind => ?_
    have hwhite := hts u hu
    rw [hkind] at hwhite
    cases hwhite

/-- A declaration may start behind a token that ends something. -/
lemma Ready.close (hready : Ready namespaceName front) (hts : ∀ u ∈ ts, u.kind ≠ .kwNamespace)
    (ht : isBoundary t.kind = true) : Ready namespaceName (front ++ (ts ++ [t])) where
  boundary := by
    rw [← List.append_assoc, List.reverse_append]
    refine stopsAt_cons ?_ ht
    revert ht
    cases t.kind <;> decide
  namespaceBehind_eq := by
    refine hready.namespaceBehind_append fun u hu hkind => ?_
    rcases List.mem_append.1 hu with hmem | hmem
    · exact hts u hmem hkind
    · rw [List.mem_singleton.1 hmem] at hkind
      rw [hkind] at ht
      cases ht

/-! ### Looking back from a keyword -/

/-- The look back over the words stops at the doc comment or, without one, at the boundary. -/
lemma stopsAt_docComment {doc : List Token} (hdoc : Spells doc h.renderDocComment)
    (hstop : StopsAt isBoundary rest) : StopsAt endsWords (doc.reverse ++ rest) := by
  rw [Head.renderDocComment] at hdoc
  split at hdoc
  · obtain ⟨d, gap, rfl, hkind, -, hgap⟩ := spells_cons.1 hdoc
    have hd : d.kind = .docComment := (Option.some.inj hkind).symm
    have hwhite := hgap.forall_kind (whitespace_gap _)
    rw [List.reverse_cons, List.append_assoc]
    refine StopsAt.space ?_ fun u hu => hwhite u (List.mem_reverse.1 hu)
    exact stopsAt_cons (by rw [hd]; rfl) (by rw [hd]; rfl)
  · obtain rfl := spells_nil.1 hdoc
    exact hstop.imp fun k hk => by rw [endsWords, hk, Bool.true_or]

/-- What is read back from the keyword with index `k` is what the head says. -/
structure ReadsHead (h : Head) (namespaceName : String) (tokens : List Token) (k : Nat) :
    Prop where
  docblock : docblock? tokens k = h.docblock
  modifiers : Declaration.modifiers tokens k = h.modifiers
  visibility : visibility? tokens k = h.visibility
  namespaceAt : namespaceAt tokens k = namespaceName
  notColon : follows tokens k .doubleColon = false
  notUse : follows tokens k .kwUse = false

/-- A head that is written where a declaration may start is read back as it is. -/
lemma readsHead {keyword : Token} {post : List Token} (hready : Ready namespaceName front)
    (hts : Spells ts h.render) :
    ReadsHead h namespaceName (front ++ ts ++ keyword :: post) (front ++ ts).length := by
  have hinline := hts.forall_kind (inline_head h)
  obtain ⟨doc, words, rfl, hdoc, hwords⟩ := spells_append.1 hts
  have hcursor := Cursor.ofIndex_append (front ++ (doc ++ words)) keyword post
  have hbehind : (front ++ (doc ++ words)).reverse =
      words.reverse ++ (doc.reverse ++ front.reverse) := by
    simp only [List.reverse_append, List.append_assoc]
  have hstop := stopsAt_docComment hdoc hready.boundary
  have hfollows : StopsAt (fun k => isPassed k || endsWords k)
      (words.reverse ++ (doc.reverse ++ front.reverse)) := by
    refine (hstop.imp fun k hk => ?_).append fun u hu => ?_
    · rw [hk, Bool.or_true]
    · rw [hwords.forall_kind (passed_words h) u (List.mem_reverse.1 hu), Bool.true_or]
  rw [hbehind] at hcursor
  refine ⟨?_, ?_, ?_, ?_, ?_, ?_⟩
  · rw [docblock?, hcursor]
    exact docblock_of_head hdoc hwords hready.boundary
  · rw [Declaration.modifiers, hcursor]
    exact modifiers_of_words hwords hstop
  · rw [visibility?, hcursor]
    exact visibility_of_words hwords hstop
  · rw [Declaration.namespaceAt, hcursor, ← hbehind]
    refine hready.namespaceBehind_append (fun u hu hkind => ?_) _
    have := hinline u hu
    rw [hkind] at this
    cases this
  · rw [follows_eq, hcursor]
    exact hfollows.head?_skipSpace rfl
  · rw [follows_eq, hcursor]
    exact hfollows.head?_skipSpace rfl

end Written

end PhpOutline
