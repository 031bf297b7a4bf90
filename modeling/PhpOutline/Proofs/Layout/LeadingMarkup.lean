import Mathlib.Data.List.Basic
import PhpOutline.Proofs.Layout.Filing

/-!
# A token of markup in front of all others

Nothing is declared by markup, and a reading that goes back to it from a declaration finds nothing
there: markup is no modifier, opens no attribute group and declares no namespace.  So if a token of
markup is put in front of a list of tokens, every reading at an index gives at the next index what
it gave before (`functionAt_cons`, `containerAt_cons`), and the pass files the same symbols in the
same order (`outline_run_cons`).

A cursor on the longer list has one token more behind it and the same tokens ahead
(`Cursor.withLead`).  What is read backwards is shown first for lists of tokens with the markup at
their end, as the nearest token comes first in them.
-/

namespace PhpOutline

open Declaration

/-- The cursor with one more token behind all others. -/
def Cursor.withLead (lead : Token) : Cursor → Cursor
  | exhausted => exhausted
  | on before t after => on (before ++ [lead]) t after

variable {lead : Token} {tokens : List Token} {k : Nat}

/-! ### Cursors -/

namespace Cursor

lemma walk_append_lead (lead : Token) (before ts : List Token) (k : Nat) :
    walk (before ++ [lead]) ts k = (walk before ts k).withLead lead := by
  induction ts generalizing before k with
  | nil => rfl
  | cons t ts ih =>
    cases k with
    | zero => rfl
    | succ k => exact ih (t :: before) k

/-- An index of a list belongs to the next index of the list with a token in front. -/
lemma ofIndex_cons (lead : Token) (tokens : List Token) (k : Nat) :
    ofIndex (lead :: tokens) (k + 1) = (ofIndex tokens k).withLead lead :=
  walk_append_lead lead [] tokens k

@[simp] lemma ahead_withLead (lead : Token) (c : Cursor) : (c.withLead lead).ahead = c.ahead := by
  cases c <;> rfl

/-- What is read backwards from a cursor is the same, if it is the same for all lists. -/
lemma eq_of_behind_withLead {α : Type} {f : List Token → α}
    (h : ∀ ts, f (ts ++ [lead]) = f ts) (c : Cursor) :
    f (c.withLead lead).behind = f c.behind := by
  cases c with
  | exhausted => rfl
  | on before t after => exact h before

lemma seek_withLead (p : Token → Bool) (c : Cursor) :
    (c.withLead lead).seek p = (c.seek p).withLead lead := by
  have hseek : ∀ before ts : List Token,
      seekIn p (before ++ [lead]) ts = (seekIn p before ts).withLead lead := by
    intro before ts
    induction ts generalizing before with
    | nil => rfl
    | cons t ts ih =>
      rw [seekIn, seekIn]
      split
      · rfl
      · exact ih (t :: before)
  cases c with
  | exhausted => rfl
  | on before t after => exact hseek (t :: before) after

/-- The identifier under the cursor has an index that is greater by one. -/
lemma identifier?_withLead (c : Cursor) :
    (c.withLead lead).identifier? = c.identifier?.map fun name => (name.1, name.2 + 1) := by
  cases c with
  | exhausted => rfl
  | on before t after =>
    rw [withLead, identifier?_on, identifier?_on, List.length_append]
    split <;> rfl

lemma identifier?_seek_cons (p : Token → Bool) (lead : Token) (tokens : List Token) (k : Nat) :
    ((ofIndex (lead :: tokens) (k + 1)).seek p).identifier? =
      ((ofIndex tokens k).seek p).identifier?.map fun name => (name.1, name.2 + 1) := by
  rw [ofIndex_cons, seek_withLead, identifier?_withLead]

end Cursor

/-! ### Readings ahead -/

lemma containerName?_cons (lead : Token) (tokens : List Token) (k : Nat) :
    containerName? (lead :: tokens) (k + 1) =
      (containerName? tokens k).map fun name => (name.1, name.2 + 1) :=
  Cursor.identifier?_seek_cons _ lead tokens k

lemma functionName?_cons (lead : Token) (tokens : List Token) (k : Nat) :
    functionName? (lead :: tokens) (k + 1) =
      (functionName? tokens k).map fun name => (name.1, name.2 + 1) :=
  Cursor.identifier?_seek_cons _ lead tokens k

lemma parent?_cons (lead : Token) (tokens : List Token) (k : Nat) :
    parent? (lead :: tokens) (k + 1) = parent? tokens k := by
  rw [parent?_eq, parent?_eq, Cursor.ofIndex_cons, Cursor.ahead_withLead]

lemma interfaces?_cons (lead : Token) (tokens : List Token) (k : Nat) :
    interfaces? (lead :: tokens) (k + 1) = interfaces? tokens k := by
  rw [interfaces?, interfaces?, Cursor.ofIndex_cons, Cursor.ahead_withLead]

/-- The index at which the brackets balance is counted from the first one. -/
lemma scopeEndIn_succ (index depth : Nat) (ts : List Token) :
    scopeEndIn (index + 1) depth ts = (scopeEndIn index depth ts).map (· + 1) := by
  induction ts generalizing index depth with
  | nil => rfl
  | cons t ts ih =>
    unfold scopeEndIn
    split
    · exact ih _ _
    split
    · split
      · rfl
      · rfl
      · exact ih _ _
    split
    · rfl
    · exact ih _ _

lemma lastIndex_cons (lead : Token) (tokens : List Token) (k : Nat) :
    lastIndex (lead :: tokens) (k + 1) = lastIndex tokens k + 1 := by
  rw [lastIndex, scopeEnd?, List.drop_succ_cons, scopeEndIn_succ, lastIndex, scopeEnd?]
  cases scopeEndIn (k + 1) 0 (tokens.drop (k + 1)) <;> rfl

lemma endLine_cons (lead : Token) (tokens : List Token) (k : Nat) (keyword : Token) :
    endLine (lead :: tokens) (k + 1) keyword = endLine tokens k keyword := by
  rw [endLine, lastIndex_cons, List.getElem?_cons_succ, endLine]

/-! ### Readings backwards -/

/-- A walk that does not pass over the last token leaves it. -/
lemma dropWhile_append_lead {p : Token → Bool} (hp : p lead = false) (ts : List Token) :
    (ts ++ [lead]).dropWhile p = ts.dropWhile p ++ [lead] := by
  rw [List.dropWhile_append, List.dropWhile_cons_of_neg (by simp [hp])]
  split
  · next hempty => rw [List.isEmpty_iff.1 hempty, List.nil_append]
  · rfl

section Backwards

variable (hlead : lead.kind = .inlineHtml)
include hlead

/-- Markup is no bracket. -/
lemma beforeGroup?_append_lead (depth : Nat) (ts : List Token) :
    beforeGroup? depth (ts ++ [lead]) = (beforeGroup? depth ts).map (· ++ [lead]) := by
  induction ts generalizing depth with
  | nil => exact beforeGroup?_pass (by rw [hlead]; rfl) (by simp [hlead])
  | cons t ts ih =>
    rw [List.cons_append]
    unfold beforeGroup?
    split
    · exact ih _
    split
    · split
      · rfl
      · split <;> rfl
      · exact ih _
    · exact ih _

lemma beforeAttribute?_append_lead (t : Token) (ts : List Token) :
    beforeAttribute? (t :: (ts ++ [lead])) = (beforeAttribute? (t :: ts)).map (· ++ [lead]) :=
  beforeGroup?_append_lead hlead 0 (t :: ts)

lemma docblockBehind_append_lead (ts : List Token) :
    docblockBehind (ts ++ [lead]) = docblockBehind ts := by
  induction hn : ts.length using Nat.strong_induction_on generalizing ts with
  | _ n ih =>
    subst hn
    cases ts with
    | nil => simp [docblockBehind_cons, hlead, docblockBehind, Kind.isWhitespace, isPassedOver,
        Kind.isVisibility, Kind.isModifier]
    | cons t ts =>
      rw [List.cons_append, docblockBehind_cons, docblockBehind_cons,
        beforeAttribute?_append_lead hlead, ih _ (Nat.lt_succ_self _) ts rfl]
      cases hfound : beforeAttribute? (t :: ts) with
      | none => rfl
      | some rest =>
        rw [Option.map_some, Option.bind_some, Option.bind_some,
          ih _ (length_lt_of_beforeGroup? hfound) rest rfl]

/-- Markup declares no namespace. -/
lemma namespaceBehind_append_lead (after ts : List Token) :
    namespaceBehind after (ts ++ [lead]) = namespaceBehind after ts := by
  induction ts generalizing after with
  | nil => simp [namespaceBehind, hlead]
  | cons t ts ih =>
    rw [List.cons_append, namespaceBehind, namespaceBehind, ih, declaredNamespace?_on,
      declaredNamespace?_on]

/-- A question mark behind markup belongs to no type. -/
lemma marksNullable_append_lead (ts : List Token) :
    marksNullable (ts ++ [lead]) = marksNullable ts := by
  rw [marksNullable, marksNullable, dropWhile_append_lead (by simp [hlead, Kind.isWhitespace])]
  cases ts.dropWhile fun t => t.kind.isWhitespace with
  | nil => simp [hlead, Kind.isVisibility]
  | cons t ts =>
    have hgroup := beforeAttribute?_append_lead hlead t ts
    rw [List.cons_append]
    dsimp only
    rw [hgroup, Option.isSome_map]

lemma decisionsAfter_append_lead (behind ts : List Token) :
    decisionsAfter (behind ++ [lead]) ts = decisionsAfter behind ts := by
  induction ts generalizing behind with
  | nil => rfl
  | cons t ts ih =>
    rw [decisionsAfter, decisionsAfter, decides, decides, marksNullable_append_lead hlead,
      ← List.cons_append, ih]

/-- The nearest token of a kind other than markup. -/
lemma any_previous?_cons {kind : Kind} (hkind : kind ≠ .inlineHtml) (tokens : List Token)
    (k : Nat) :
    (previous? (lead :: tokens) (k + 1)).any (·.kind = kind) =
      (previous? tokens k).any (·.kind = kind) := by
  rw [previous?, List.take_succ_cons, List.reverse_cons, List.find?_append, previous?]
  cases (tokens.take k).reverse.find? fun t => !t.kind.isWhitespace with
  | some t => rfl
  | none => simp [hlead, Kind.isWhitespace, hkind.symm]

lemma docblock?_cons (tokens : List Token) (k : Nat) :
    docblock? (lead :: tokens) (k + 1) = docblock? tokens k := by
  rw [docblock?, Cursor.ofIndex_cons]
  exact Cursor.eq_of_behind_withLead (docblockBehind_append_lead hlead) _

lemma modifiers_cons (tokens : List Token) (k : Nat) :
    modifiers (lead :: tokens) (k + 1) = modifiers tokens k := by
  have hwords : ∀ ts, (ts ++ [lead]).takeWhile (fun t => t.kind.isModifier || isPassedOver t.kind) =
      ts.takeWhile fun t => t.kind.isModifier || isPassedOver t.kind := by
    intro ts
    have hstop : (lead.kind.isModifier || isPassedOver lead.kind) = false := by rw [hlead]; rfl
    rw [List.takeWhile_append, List.takeWhile_cons_of_neg (by simp [hstop]), List.append_nil]
    split
    · next hall => exact ((List.takeWhile_sublist _).eq_of_length hall).symm
    · rfl
  rw [modifiers, modifiers, Cursor.ofIndex_cons,
    Cursor.eq_of_behind_withLead (f := List.takeWhile _) hwords]

lemma visibility?_cons (tokens : List Token) (k : Nat) :
    visibility? (lead :: tokens) (k + 1) = visibility? tokens k := by
  rw [visibility?, visibility?, Cursor.ofIndex_cons]
  refine Cursor.eq_of_behind_withLead (f := fun ts => (ts.dropWhile _).head?.bind _)
    (fun ts => ?_) _
  rw [dropWhile_append_lead (by rw [hlead]; rfl), List.head?_append]
  cases (ts.dropWhile _).head? with
  | none => exact congrArg Visibility.ofKind? hlead
  | some t => rfl

lemma namespaceAt_cons (tokens : List Token) (k : Nat) :
    namespaceAt (lead :: tokens) (k + 1) = namespaceAt tokens k := by
  rw [namespaceAt, namespaceAt, Cursor.ofIndex_cons]
  cases Cursor.ofIndex tokens k with
  | exhausted => rfl
  | on before t after => exact namespaceBehind_append_lead hlead _ _

lemma complexity_cons (tokens : List Token) (start last : Nat) :
    complexity (lead :: tokens) (start + 1) (last + 1) = complexity tokens start last := by
  have hdecisions : decisions (lead :: tokens) = decides [] lead :: decisions tokens :=
    congrArg (_ :: ·) (decisionsAfter_append_lead hlead [] tokens)
  rw [complexity, hdecisions, List.drop_succ_cons, Nat.add_sub_add_right, complexity]

/-! ### What is declared -/

lemma functionAt_cons (tokens : List Token) (k : Nat) :
    functionAt (lead :: tokens) (k + 1) = functionAt tokens k := by
  rw [functionAt, functionAt, List.getElem?_cons_succ, function, function, docblock?_cons hlead,
    modifiers_cons hlead, visibility?_cons hlead, endLine_cons, lastIndex_cons,
    complexity_cons hlead, functionName?_cons]
  cases functionName? tokens k <;> rfl

lemma reached_cons (tokens : List Token) :
    Pass.reached (lead :: tokens) = lead :: Pass.reached tokens :=
  List.takeWhile_cons_of_pos (by simp [hlead])

lemma containerKind?_cons (tokens : List Token) (k : Nat) :
    containerKind? (lead :: tokens) (k + 1) = containerKind? tokens k := by
  rw [containerKind?, any_previous?_cons hlead (by decide), reached_cons hlead,
    List.getElem?_cons_succ, containerKind?]

lemma namedContainer?_cons (tokens : List Token) (k : Nat) :
    namedContainer? (lead :: tokens) (k + 1) = namedContainer? tokens k := by
  rw [namedContainer?, containerKind?_cons hlead]
  rfl

lemma isContainer_cons (tokens : List Token) (k : Nat) :
    isContainer (lead :: tokens) (k + 1) = isContainer tokens k := by
  rw [isContainer, namedContainer?_cons hlead, isContainer]

lemma isMask_cons (tokens : List Token) (k : Nat) :
    isMask (lead :: tokens) (k + 1) = isMask tokens k := by
  rw [isMask, reached_cons hlead, List.getElem?_cons_succ, containerKind?_cons hlead]
  rfl

lemma isFunction_cons (tokens : List Token) (k : Nat) :
    isFunction (lead :: tokens) (k + 1) = isFunction tokens k := by
  rw [isFunction, reached_cons hlead, List.getElem?_cons_succ,
    any_previous?_cons hlead (by decide), isFunction]

/-- Markup declares nothing. -/
lemma declares_nothing (tokens : List Token) :
    isContainer (lead :: tokens) 0 = false ∧ isMask (lead :: tokens) 0 = false ∧
      isFunction (lead :: tokens) 0 = false := by
  have hkind : containerKind? (lead :: tokens) 0 = none := by
    rw [containerKind?, reached_cons hlead, List.getElem?_cons_zero, Option.bind_some, hlead]
    rfl
  refine ⟨?_, ?_, ?_⟩
  · rw [isContainer, namedContainer?, hkind]
    rfl
  · simp [isMask, reached_cons hlead, hkind, hlead]
  · simp [isFunction, reached_cons hlead, hlead]

lemma containerAt_cons (hk : isContainer tokens k = true) :
    containerAt (lead :: tokens) (k + 1) = containerAt tokens k := by
  obtain ⟨t, ht, -⟩ := picksWords_isContainer k hk
  obtain ⟨-, name, -, hnext⟩ := exists_of_isContainer hk
  rw [← containerName?_map_fst ht] at hnext
  obtain ⟨⟨name, n⟩, hname, -⟩ := Option.map_eq_some_iff.1 hnext
  have hname' : containerName? (lead :: tokens) (k + 1) = some (name, n + 1) := by
    rw [containerName?_cons, hname]
    rfl
  have ht' : (lead :: tokens)[k + 1]? = some t := ht
  rw [Declaration.containerAt_eq ht' hname',
    Declaration.containerAt_eq ht hname, container, container, docblock?_cons hlead, parent?_cons,
    interfaces?_cons, modifiers_cons hlead, endLine_cons, namespaceAt_cons hlead]

/-! ### The declarations around a token -/

omit hlead in
/-- The first of the declarations around a token, if the markup is not among them. -/
lemma outermost?_cons {p p' : Nat → Bool} (hzero : p' 0 = false) (hsucc : ∀ i, p' (i + 1) = p i)
    (k : Nat) :
    outermost? (lead :: tokens) p' (k + 1) = (outermost? tokens p k).map (· + 1) := by
  rw [outermost?, List.range_succ_eq_map, List.find?_cons_of_neg (by simp [hzero]),
    List.find?_map, outermost?]
  congr 2
  funext i
  simp [hsucc, lastIndex_cons]

lemma owner?_cons (tokens : List Token) (k : Nat) :
    owner? (lead :: tokens) (k + 1) = (owner? tokens k).map (· + 1) :=
  outermost?_cons (declares_nothing hlead tokens).1 (isContainer_cons hlead tokens) k

lemma isMaskedAt_cons (tokens : List Token) (k : Nat) :
    isMaskedAt (lead :: tokens) (k + 1) = isMaskedAt tokens k := by
  rw [isMaskedAt, List.range_succ_eq_map, List.any_cons, (declares_nothing hlead tokens).2.1,
    Bool.false_and, Bool.false_or, List.any_map, isMaskedAt]
  congr 1
  funext i
  simp [isMask_cons hlead, lastIndex_cons]

lemma filedName?_cons (tokens : List Token) (k : Nat) :
    filedName? (lead :: tokens) (k + 1) = filedName? tokens k := by
  rw [filedName?, isFunction_cons hlead, isMaskedAt_cons hlead, functionAt_cons hlead, filedName?]

/-! ### Filing -/

namespace Pass

lemma fileAt_cons_zero (tokens : List Token) (o : Outline) : fileAt (lead :: tokens) o 0 = o := by
  obtain ⟨hcontainer, -, hfunction⟩ := declares_nothing hlead tokens
  rw [fileAt, hcontainer, filedName?_eq_none hfunction]
  rfl

/-- A token files the same symbol in the same place. -/
lemma fileAt_cons (tokens : List Token) (o : Outline) (k : Nat) :
    fileAt (lead :: tokens) o (k + 1) = fileAt tokens o k := by
  rw [fileAt, fileAt, isContainer_cons hlead, filedName?_cons hlead, owner?_cons hlead,
    functionAt_cons hlead, namespaceAt_cons hlead]
  split
  · next hcontainer => rw [containerAt_cons hlead hcontainer]
  · cases filedName? tokens k with
    | none => rfl
    | some name =>
      cases howner : owner? tokens k with
      | none => rfl
      | some c =>
        dsimp only [Option.map_some]
        rw [containerAt_cons hlead (outermost?_eq_some.1 howner).2.1]

/-- Markup in front of all other tokens does not change what is filed. -/
lemma outline_run_cons (path path' : Option String) (tokens : List Token) :
    (run path (lead :: tokens)).outline = (run path' tokens).outline := by
  rw [run_eq_before, run_eq_before, outline_before path le_rfl, outline_before path' le_rfl,
    reached_cons hlead, List.length_cons, List.range_succ_eq_map, List.foldl_cons,
    fileAt_cons_zero hlead, List.foldl_map]
  simp only [Nat.succ_eq_add_one, fileAt_cons hlead]

end Pass

end Backwards

end PhpOutline
