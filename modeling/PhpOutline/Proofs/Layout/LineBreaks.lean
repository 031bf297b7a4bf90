import Mathlib.Data.List.Basic
import PhpOutline.Proofs.Layout.Filing
import PhpOutline.Proofs.Outline.SourceLines

/-!
# Line breaks behind comments

Lexers differ in where a line comment ends: some take the line break into the comment, others leave
it to the white space behind.  Here such a line break is moved from the white space to the comment,
behind any comments of a stream (`RawToken.BreaksMoved`).  The outline does not change at all
(`outline_eq_of_breaksMoved`).

Prepared tokens differ in the same way, and the others keep their lines (`BreaksMoved`).  This is a
matter of layout, so that twins declare the same.  Beyond the layout, a comment ends the search for
a doc comment whatever white space is behind it, a signature has the texts of the comment and of the
white space run together, and the line breaks at the end of a comment are not counted.
-/

namespace PhpOutline

open Declaration

/-! ### Tokens -/

/-- The comment `c` with the white space `w` behind it has the same text as the comment `c'` with
`spaces` behind it, and the comments span the same lines. -/
structure TakesBreak (c w c' : Token) (spaces : List Token) : Prop where
  comment : c.kind = .comment
  comment' : c'.kind = .comment
  space : w.kind.isWhitespace = true
  onlySpace : ∀ v ∈ spaces, v.kind.isWhitespace = true
  text : c.text ++ w.text = c'.text ++ String.join (spaces.map (·.text))
  lines : LineCount.ofComment c.text = LineCount.ofComment c'.text

/-- The tokens are the same, except for comments that take line breaks from the white space behind
them. -/
inductive BreaksMoved : List Token → List Token → Prop
  | nil : BreaksMoved [] []
  | cons (t : Token) {ts us : List Token} (rest : BreaksMoved ts us) :
      BreaksMoved (t :: ts) (t :: us)
  | move {c w c' : Token} {spaces ts us : List Token} (takes : TakesBreak c w c' spaces)
      (rest : BreaksMoved ts us) : BreaksMoved (c :: w :: ts) (c' :: (spaces ++ us))

variable {tokens tokens' front back ts us spaces : List Token} {t c w c' : Token} {i i' : Nat}

namespace BreaksMoved

lemma startsWithSpace_eq (h : BreaksMoved ts us) : startsWithSpace ts = startsWithSpace us := by
  cases h with
  | nil => rfl
  | cons => rfl
  | move takes => simp [startsWithSpace, takes.comment, takes.comment']

/-- Behind a comment white space does not matter. -/
lemma relaid (h : BreaksMoved ts us) : Relaid ts us := by
  induction h with
  | nil => exact .nil
  | @cons t ts us rest ih =>
    by_cases space : t.kind.isWhitespace = true
    · exact .left space (.right space ih)
    · exact .cons ⟨rfl, fun _ => rfl⟩ (Bool.eq_false_iff.2 space)
        (fun _ _ _ => rest.startsWithSpace_eq) ih
  | @move c w c' spaces ts us takes rest ih =>
    have hspaces : ∀ spaces : List Token, (∀ v ∈ spaces, v.kind.isWhitespace = true) →
        Relaid ts (spaces ++ us) := by
      intro spaces hspaces
      induction spaces with
      | nil => exact ih
      | cons v spaces ihspaces =>
        obtain ⟨hv, hrest⟩ := List.forall_mem_cons.1 hspaces
        exact .right hv (ihspaces hrest)
    refine .cons ⟨by rw [takes.comment, takes.comment'], ?_⟩ (by rw [takes.comment]; rfl) ?_
      (.left takes.space (hspaces spaces takes.onlySpace))
    · intro hpart
      rw [takes.comment] at hpart
      cases hpart
    · intro v _ hmatters
      rw [takes.comment] at hmatters
      simp [spaceMatters, Kind.isNamePart] at hmatters

/-- The front up to a token that is no comment and no white space. -/
lemma takeWhile {p : Kind → Bool} (hcomment : p .comment = true) (hspace : p .whitespace = true)
    (h : BreaksMoved ts us) :
    BreaksMoved (ts.takeWhile fun t => p t.kind) (us.takeWhile fun t => p t.kind) := by
  induction h with
  | nil => exact .nil
  | @cons t ts us rest ih =>
    rw [List.takeWhile_cons, List.takeWhile_cons]
    split
    · exact .cons t ih
    · exact .nil
  | @move c w c' spaces ts us takes rest ih =>
    have hspaces : ∀ v ∈ spaces, p v.kind = true := by
      intro v hv
      rw [Kind.eq_whitespace (takes.onlySpace v hv), hspace]
    rw [List.takeWhile_cons_of_pos (by rw [takes.comment, hcomment]),
      List.takeWhile_cons_of_pos (by rw [Kind.eq_whitespace takes.space, hspace]),
      List.takeWhile_cons_of_pos (by rw [takes.comment', hcomment]),
      List.takeWhile_append_of_pos hspaces]
    exact .move takes ih

lemma reached (h : BreaksMoved ts us) : BreaksMoved (Pass.reached ts) (Pass.reached us) :=
  takeWhile (p := fun k => k != .kwHaltCompiler) rfl rfl h

/-- The texts run together are the same. -/
lemma join_text_eq (h : BreaksMoved ts us) :
    String.join (ts.map (·.text)) = String.join (us.map (·.text)) := by
  induction h with
  | nil => rfl
  | cons t _ ih => rw [List.map_cons, List.map_cons, String.join_cons, String.join_cons, ih]
  | move takes _ ih =>
    rw [List.map_cons, List.map_cons, List.map_cons, List.map_append, String.join_cons,
      String.join_cons, String.join_cons, String.join_append, ih, ← String.append_assoc,
      ← String.append_assoc, takes.text]

/-! ### Line counts -/

/-- White space has no comment lines. -/
lemma commentLinesOf_append_of_isWhitespace (h : ∀ v ∈ spaces, v.kind.isWhitespace = true)
    (us : List Token) : commentLinesOf (spaces ++ us) = commentLinesOf us := by
  induction spaces with
  | nil => rfl
  | cons v spaces ih =>
    obtain ⟨hv, hrest⟩ := List.forall_mem_cons.1 h
    rw [List.cons_append, commentLinesOf, ih hrest, Kind.eq_whitespace hv]
    exact Nat.zero_add _

lemma commentLinesOf_eq (h : BreaksMoved ts us) : commentLinesOf ts = commentLinesOf us := by
  induction h with
  | nil => rfl
  | cons t _ ih => rw [commentLinesOf, commentLinesOf, ih]
  | @move c w c' spaces ts us takes _ ih =>
    have hleft : commentLinesOf (w :: ts) = commentLinesOf ts :=
      commentLinesOf_append_of_isWhitespace (List.forall_mem_singleton.2 takes.space) ts
    have hright := commentLinesOf_append_of_isWhitespace takes.onlySpace us
    rw [commentLinesOf, hleft, takes.comment, takes.lines, ih, commentLinesOf, hright,
      takes.comment']

lemma haltLine?_eq (h : BreaksMoved ts us) : Pass.haltLine? ts = Pass.haltLine? us := by
  induction h with
  | nil => rfl
  | cons t _ ih =>
    rw [Pass.haltLine?, Pass.haltLine?, List.find?_cons, List.find?_cons]
    split
    · rfl
    · exact ih
  | @move c w c' spaces ts us takes _ ih =>
    have hnone : spaces.find? (·.kind == .kwHaltCompiler) = none := by
      rw [List.find?_eq_none]
      intro v hv
      rw [Kind.eq_whitespace (takes.onlySpace v hv)]
      decide
    rw [Pass.haltLine?, Pass.haltLine?, List.find?_cons_of_neg (by rw [takes.comment]; decide),
      List.find?_cons_of_neg (by rw [Kind.eq_whitespace takes.space]; decide),
      List.find?_cons_of_neg (by rw [takes.comment']; decide), List.find?_append, hnone,
      Option.none_or]
    exact ih

/-- The lines of the file are the same. -/
lemma lines_eq (path path' : Option String) (h : BreaksMoved tokens tokens') :
    (Analysis.ofTokens path tokens).outline.lines =
      (Analysis.ofTokens path' tokens').outline.lines := by
  rw [Pass.lines_ofTokens, Pass.lines_ofTokens, LineCount.ofFile, LineCount.ofFile,
    ofTokens_eq_newlines, ofTokens_eq_newlines, h.join_text_eq, h.reached.commentLinesOf_eq,
    h.haltLine?_eq]

/-! ### Twins -/

/-- A token that is no comment and no white space stands in both lists, with the same moves before
and behind it. -/
lemma exists_split (h : BreaksMoved (front ++ t :: back) us) (hword : t.kind.isWhitespace = false)
    (hcomment : t.kind ≠ .comment) :
    ∃ front' back', us = front' ++ t :: back' ∧ BreaksMoved front front' ∧
      BreaksMoved back back' := by
  generalize hts : front ++ t :: back = ts at h
  induction h generalizing front with
  | nil => simp at hts
  | @cons u ts us rest ih =>
    cases front with
    | nil =>
      obtain ⟨rfl, rfl⟩ := List.cons.inj hts
      exact ⟨[], us, rfl, .nil, rest⟩
    | cons v front =>
      obtain ⟨rfl, htail⟩ := List.cons.inj hts
      obtain ⟨front', back', rfl, hfront, hback⟩ := ih htail
      exact ⟨v :: front', back', rfl, .cons v hfront, hback⟩
  | @move c w c' spaces ts us takes rest ih =>
    match front with
    | [] =>
      obtain ⟨rfl, -⟩ := List.cons.inj hts
      exact absurd takes.comment hcomment
    | [v] =>
      obtain ⟨-, htail⟩ := List.cons.inj hts
      obtain ⟨rfl, -⟩ := List.cons.inj htail
      rw [takes.space] at hword
      cases hword
    | v :: v' :: front =>
      obtain ⟨rfl, htail⟩ := List.cons.inj hts
      obtain ⟨rfl, hrest⟩ := List.cons.inj htail
      obtain ⟨front', back', rfl, hfront, hback⟩ := ih hrest
      exact ⟨c' :: (spaces ++ front'), back', by simp, .move takes hfront, hback⟩

/-- Twins that are no comments are the same token, with the same moves before and behind them. -/
lemma at_twin (h : BreaksMoved tokens tokens') (hi : Twin tokens tokens' i i')
    (ht : tokens[i]? = some t) (hcomment : t.kind ≠ .comment) :
    tokens'[i']? = some t ∧ BreaksMoved (tokens.take i) (tokens'.take i') ∧
      BreaksMoved (tokens.drop (i + 1)) (tokens'.drop (i' + 1)) := by
  have hword : t.kind.isWhitespace = false := by
    obtain ⟨u, -, hu, -, -, hword⟩ := hi.agree
    cases ht.symm.trans hu
    exact hword
  obtain ⟨hlt, hget⟩ := List.getElem?_eq_some_iff.1 ht
  have hsplit : tokens.take i ++ t :: tokens.drop (i + 1) = tokens := by simp [← hget]
  have hmoved := h
  rw [← hsplit] at hmoved
  obtain ⟨front', back', rfl, hfront, hback⟩ := hmoved.exists_split hword hcomment
  have htwin : Twin tokens (front' ++ t :: back') i front'.length := by
    refine ⟨?_, t, t, ht, by simp, ⟨rfl, fun _ => rfl⟩, hword⟩
    rw [List.take_left]
    exact hfront.relaid.aligned
  obtain rfl := htwin.eq_of_eq hi
  refine ⟨by simp, ?_, ?_⟩
  · rw [List.take_left]
    exact hfront
  · simpa using hback

end BreaksMoved

/-! ### Doc comments -/

/-- The tokens before a place, the nearest first, are the same, except for comments that take line
breaks from the white space behind them. -/
inductive MovedBehind : List Token → List Token → Prop
  | nil : MovedBehind [] []
  | cons (t : Token) {ts us : List Token} (rest : MovedBehind ts us) :
      MovedBehind (t :: ts) (t :: us)
  | move {c w c' : Token} {spaces ts us : List Token} (takes : TakesBreak c w c' spaces)
      (rest : MovedBehind ts us) : MovedBehind ([w] ++ c :: ts) (spaces.reverse ++ c' :: us)

lemma MovedBehind.append {ts' us' : List Token} (h : MovedBehind ts us)
    (h' : MovedBehind ts' us') : MovedBehind (ts ++ ts') (us ++ us') := by
  induction h with
  | nil => exact h'
  | cons t _ ih => exact .cons t ih
  | move takes _ ih => simpa using MovedBehind.move takes ih

lemma BreaksMoved.behind (h : BreaksMoved ts us) : MovedBehind ts.reverse us.reverse := by
  induction h with
  | nil => exact .nil
  | cons t _ ih => simpa using ih.append (.cons t .nil)
  | move takes _ ih => simpa using ih.append (.move takes .nil)

/-- A comment behind white space ends the search for a doc comment. -/
lemma Declaration.docblockBehind_comment (hspaces : ∀ v ∈ spaces, v.kind.isWhitespace = true)
    (hc : c.kind = .comment) (ts : List Token) : docblockBehind (spaces ++ c :: ts) = none := by
  induction spaces with
  | nil =>
    rw [List.nil_append, docblockBehind_cons, hc]
    rfl
  | cons v spaces ih =>
    obtain ⟨hv, hrest⟩ := List.forall_mem_cons.1 hspaces
    rw [List.cons_append, docblockBehind_cons, Kind.eq_whitespace hv, ih hrest]
    simp

/-- Comments and white space are no brackets. -/
lemma Declaration.beforeGroup?_comment (hspaces : ∀ v ∈ spaces, v.kind.isWhitespace = true)
    (hc : c.kind = .comment) (ts : List Token) (depth : Nat) :
    beforeGroup? depth (spaces ++ c :: ts) = beforeGroup? depth ts := by
  induction spaces with
  | nil => exact beforeGroup?_pass (by rw [hc]; rfl) (by simp [hc])
  | cons v spaces ih =>
    obtain ⟨hv, hrest⟩ := List.forall_mem_cons.1 hspaces
    rw [List.cons_append, Aligned.beforeGroup?_cons_of_isWhitespace hv, ih hrest]

namespace MovedBehind

lemma beforeGroup? (h : MovedBehind ts us) (depth : Nat) :
    Option.Rel MovedBehind (Declaration.beforeGroup? depth ts)
      (Declaration.beforeGroup? depth us) := by
  induction h generalizing depth with
  | nil => exact .none
  | cons t rest ih =>
    unfold Declaration.beforeGroup?
    split
    · exact ih _
    split
    · split
      · exact .none
      · split
        · exact .some rest
        · exact .none
      · exact ih _
    · exact ih _
  | move takes _ ih =>
    rw [beforeGroup?_comment (List.forall_mem_singleton.2 takes.space) takes.comment,
      beforeGroup?_comment (by simpa using takes.onlySpace) takes.comment']
    exact ih depth

lemma docblockBehind_eq (h : MovedBehind ts us) : docblockBehind ts = docblockBehind us := by
  induction hn : ts.length using Nat.strong_induction_on generalizing ts us with
  | _ n ih =>
    subst hn
    cases h with
    | nil => rfl
    | @cons t ts us rest =>
      have hgroup : Option.Rel MovedBehind (beforeAttribute? (t :: ts))
          (beforeAttribute? (t :: us)) := beforeGroup? (.cons t rest) 0
      have hjump : (beforeAttribute? (t :: ts)).bind docblockBehind =
          (beforeAttribute? (t :: us)).bind docblockBehind := by
        generalize hfound : beforeAttribute? (t :: ts) = g, beforeAttribute? (t :: us) = g'
          at hgroup ⊢
        cases hgroup with
        | none => rfl
        | some same => exact ih _ (length_lt_of_beforeGroup? hfound) same rfl
      rw [docblockBehind_cons, docblockBehind_cons, hjump, ih _ (Nat.lt_succ_self _) rest rfl]
    | move takes rest =>
      rw [docblockBehind_comment (List.forall_mem_singleton.2 takes.space) takes.comment,
        docblockBehind_comment (by simpa using takes.onlySpace) takes.comment']

end MovedBehind

/-! ### Declarations at twins -/

/-- A comment declares no container. -/
lemma Declaration.ne_comment_of_isContainer (ht : tokens[i]? = some t)
    (h : isContainer tokens i = true) : t.kind ≠ .comment := by
  intro hcomment
  obtain ⟨kind, -, hkind, -⟩ := exists_of_isContainer h
  unfold containerKind? at hkind
  split at hkind
  · cases hkind
  · obtain ⟨u, hu, hword⟩ := Option.bind_eq_some_iff.1 hkind
    cases ht.symm.trans (getElem?_of_reached hu)
    rw [hcomment] at hword
    cases hword

namespace BreaksMoved

variable {n n' : Nat}

lemma docblock?_eq (h : BreaksMoved tokens tokens') (hi : Twin tokens tokens' i i')
    (ht : tokens[i]? = some t) (hcomment : t.kind ≠ .comment) :
    docblock? tokens i = docblock? tokens' i' := by
  obtain ⟨hu, hfront, -⟩ := h.at_twin hi ht hcomment
  rw [docblock?, docblock?, Cursor.ofIndex_of_getElem? ht, Cursor.ofIndex_of_getElem? hu]
  exact hfront.behind.docblockBehind_eq

/-- A declaration does not end at a comment, so that it ends on the same line. -/
lemma endLine_eq (h : BreaksMoved tokens tokens') (hi : Twin tokens tokens' i i')
    (ht : tokens[i]? = some t) (hcomment : t.kind ≠ .comment) :
    endLine tokens i t = endLine tokens' i' t := by
  obtain ⟨u, hu, hne⟩ : ∃ u, tokens[lastIndex tokens i]? = some u ∧ u.kind ≠ .comment := by
    rcases (le_lastIndex tokens i).eq_or_lt with heq | hlt
    · exact ⟨t, heq ▸ ht, hcomment⟩
    · obtain ⟨u, hu, hkind⟩ := kind_lastIndex hlt
      refine ⟨u, hu, ?_⟩
      rcases hkind with hkind | hkind <;> simp [hkind]
  obtain ⟨hu', -⟩ := h.at_twin (hi.lastIndex h.relaid.aligned) hu hne
  rw [endLine, endLine, hu, hu']

lemma signature_eq (h : BreaksMoved tokens tokens') (hn : Twin tokens tokens' n n')
    (ht : tokens[n]? = some t) (hcomment : t.kind ≠ .comment) :
    signature tokens n = signature tokens' n' := by
  obtain ⟨-, -, hbehind⟩ := h.at_twin hn ht hcomment
  have hhead := hbehind.takeWhile (p := fun k => k != .openCurly && k != .semicolon) rfl rfl
  rw [signature, signature, hhead.join_text_eq]

/-- The signature starts at a name or at the word `function`, neither of which is a comment. -/
lemma signature_functionAt_eq (h : BreaksMoved tokens tokens') (hi : Twin tokens tokens' i i')
    (ht : tokens[i]? = some t) (hcomment : t.kind ≠ .comment) :
    (functionAt tokens i).signature = (functionAt tokens' i').signature := by
  have hname := hi.functionName? h.relaid.aligned
  rw [functionAt, functionAt, function, function]
  dsimp only
  generalize hfound : functionName? tokens i = found, functionName? tokens' i' = found' at hname ⊢
  cases hname with
  | none => exact h.signature_eq hi ht hcomment
  | some same =>
    obtain ⟨u, hu, hidentifier⟩ := exists_identifier_of_functionName? ht hfound
    exact h.signature_eq same.2 hu (by simp [hidentifier])

/-- A function is read in the same way. -/
lemma functionAt_eq (h : BreaksMoved tokens tokens') (hi : Twin tokens tokens' i i')
    (hfunction : isFunction tokens i = true) : functionAt tokens i = functionAt tokens' i' := by
  obtain ⟨t, hreached, hkind⟩ := exists_of_isFunction hfunction
  have ht := getElem?_of_reached hreached
  have hcomment : t.kind ≠ .comment := by simp [hkind]
  obtain ⟨hu, -⟩ := h.at_twin hi ht hcomment
  rw [hi.functionAt_eq h.relaid.aligned ht hu rfl (h.docblock?_eq hi ht hcomment)
    (h.endLine_eq hi ht hcomment), h.signature_functionAt_eq hi ht hcomment]

/-- A container is read in the same way. -/
lemma containerAt_eq (h : BreaksMoved tokens tokens') (hi : Twin tokens tokens' i i')
    (hcontainer : isContainer tokens i = true) : containerAt tokens i = containerAt tokens' i' := by
  obtain ⟨t, -, ht, -⟩ := hi.agree
  have hcomment := ne_comment_of_isContainer ht hcontainer
  obtain ⟨hu, -⟩ := h.at_twin hi ht hcomment
  exact hi.containerAt_eq h.relaid hcontainer ht hu rfl (h.docblock?_eq hi ht hcomment)
    (h.endLine_eq hi ht hcomment)

/-- The outlines are equal. -/
lemma outline_eq (path path' : Option String) (h : BreaksMoved tokens tokens') :
    (Analysis.ofTokens path tokens).outline = (Analysis.ofTokens path' tokens').outline := by
  have hrun : (Pass.run path tokens).outline = (Pass.run path' tokens').outline :=
    outline_run_eq path path' h.relaid ⟨h.functionAt_eq, h.containerAt_eq⟩
  have hfile : ∀ path tokens, (Analysis.ofTokens path tokens).outline =
      { (Pass.run path tokens).outline with
        lines := (Analysis.ofTokens path tokens).outline.lines } := fun _ _ => rfl
  rw [hfile path, hfile path', hrun, h.lines_eq path path']

end BreaksMoved

/-! ### Streams -/

/-- The tokens of the white space that is left: none if nothing is left. -/
def RawToken.spaceTokens (text : String) : List RawToken :=
  if text = "" then [] else [.named .whitespace text]

/-- The streams are the same, except that comments, any of those with white space directly behind
them that starts with a line break, have taken that line break. -/
inductive RawToken.BreaksMoved : List RawToken → List RawToken → Prop
  | nil : BreaksMoved [] []
  | cons (r : RawToken) {raws raws' : List RawToken} (rest : BreaksMoved raws raws') :
      BreaksMoved (r :: raws) (r :: raws')
  | move (comment lineBreak space : String) {raws raws' : List RawToken}
      (isBreak : lineBreak = "\n" ∨ lineBreak = "\r\n") (rest : BreaksMoved raws raws') :
      BreaksMoved (.named .comment comment :: .named .whitespace (lineBreak ++ space) :: raws)
        (.named .comment (comment ++ lineBreak) :: (spaceTokens space ++ raws'))

/-- A line break at the end of a comment starts no further line. -/
lemma LineCount.ofComment_append_lineBreak (comment : String) {lineBreak : String}
    (h : lineBreak = "\n" ∨ lineBreak = "\r\n") :
    ofComment (comment ++ lineBreak) = ofComment comment := by
  rcases h with rfl | rfl <;> simp [ofComment]

variable {raws raws' : List RawToken} {index line : Nat}

/-- White space that is left is prepared to white space. -/
lemma exists_prepareFrom_spaceTokens (space : String)
    (h : ∀ index, ∃ us, Token.prepareFrom index (line + Text.newlines space.toList) raws = .ok us ∧
      BreaksMoved ts us) (index : Nat) :
    ∃ spaces us, Token.prepareFrom index line (RawToken.spaceTokens space ++ raws) =
        .ok (spaces ++ us) ∧ (∀ v ∈ spaces, v.kind.isWhitespace = true) ∧
      String.join (spaces.map (·.text)) = space ∧ BreaksMoved ts us := by
  by_cases hempty : space = ""
  · subst hempty
    obtain ⟨us, hus, hmoved⟩ := h index
    refine ⟨[], us, ?_, ?_, rfl, hmoved⟩
    · exact hus
    · intro v hv
      cases hv
  · obtain ⟨us, hus, hmoved⟩ := h (index + 1)
    rw [RawToken.spaceTokens, if_neg hempty]
    refine ⟨[⟨.whitespace, space, line⟩], us, ?_, ?_, ?_, hmoved⟩
    · exact Token.prepareFrom_cons_eq_ok.2 ⟨_, us, rfl, hus, rfl⟩
    · intro v hv
      rw [List.mem_singleton.1 hv]
      rfl
    · simp

/-- A stream whose comments have taken line breaks is prepared to tokens that have. -/
lemma exists_prepareFrom_of_breaksMoved (h : RawToken.BreaksMoved raws raws')
    (hts : Token.prepareFrom index line raws = .ok ts) (index' : Nat) :
    ∃ us, Token.prepareFrom index' line raws' = .ok us ∧ BreaksMoved ts us := by
  induction h generalizing index line ts index' with
  | nil =>
    cases hts
    exact ⟨[], rfl, .nil⟩
  | cons r _ ih =>
    obtain ⟨k, ts', hk, hrest, rfl⟩ := Token.prepareFrom_cons_eq_ok.1 hts
    obtain ⟨us, hus, hmoved⟩ := ih hrest (index' + 1)
    exact ⟨_, Token.prepareFrom_cons_eq_ok.2 ⟨k, us, hk, hus, rfl⟩, .cons _ hmoved⟩
  | @move comment lineBreak space raws raws' isBreak _ ih =>
    obtain ⟨k, ts', hk, hspace, rfl⟩ := Token.prepareFrom_cons_eq_ok.1 hts
    obtain ⟨k', ts', hk', hrest, rfl⟩ := Token.prepareFrom_cons_eq_ok.1 hspace
    cases hk
    cases hk'
    have hlines : line + (RawToken.named .comment comment).newlines +
        (RawToken.named .whitespace (lineBreak ++ space)).newlines =
        line + (RawToken.named .comment (comment ++ lineBreak)).newlines +
          Text.newlines space.toList := by
      simp only [RawToken.newlines, RawToken.text, String.toList_append, Text.newlines_append]
      omega
    rw [hlines] at hrest
    obtain ⟨spaces, us, hus, hspaces, htext, hmoved⟩ :=
      exists_prepareFrom_spaceTokens space (ih hrest) (index' + 1)
    refine ⟨_, Token.prepareFrom_cons_eq_ok.2 ⟨.comment, _, rfl, hus, rfl⟩, .move ?_ hmoved⟩
    exact
      { comment := rfl
        comment' := rfl
        space := rfl
        onlySpace := hspaces
        text := by rw [htext]; exact (String.append_assoc ..).symm
        lines := (LineCount.ofComment_append_lineBreak comment isBreak).symm }

/-- **Comments may take the line breaks behind them.**  If any comments of a stream that can be
analyzed take the line breaks at the start of the white space directly behind them, the stream can
still be analyzed, and its outline is the same. -/
theorem Analysis.outline_eq_of_breaksMoved {a : Analysis} (hmoved : RawToken.BreaksMoved raws raws')
    (ha : ofRawTokens raws = .ok a) :
    ∃ a', ofRawTokens raws' = .ok a' ∧ a'.outline = a.outline := by
  cases hts : Token.prepare raws with
  | error e =>
    rw [ofRawTokens, hts] at ha
    cases ha
  | ok ts =>
    rw [ofRawTokens, hts] at ha
    cases ha
    obtain ⟨us, hus, hmoved⟩ := exists_prepareFrom_of_breaksMoved hmoved hts 0
    refine ⟨ofTokens none us, ?_, (hmoved.outline_eq none none).symm⟩
    rw [ofRawTokens, Token.prepare, hus]
    rfl

/-- A class with comments in front of a method and in its head. -/
def commentedClass (first second : List RawToken) : List RawToken :=
  [.named .kwClass "class", .named .whitespace " ", .named .identifier "A", .punctuation '{'] ++
    first ++ [.named .docComment "/** Does it. */", .named .whitespace "\n",
      .named .kwFunction "function", .named .whitespace " ", .named .identifier "f",
      .punctuation '('] ++
    second ++ [.named .variableName "$x", .punctuation ')', .punctuation '{', .punctuation '}',
      .punctuation '}']

/-- The first comment leaves white space behind it, the second one does not. -/
theorem Analysis.outline_eq_commentedClass :
    let plain := commentedClass [.named .comment "// a", .named .whitespace ("\n" ++ "    ")]
      [.named .comment "# b", .named .whitespace ("\r\n" ++ "")]
    let moved := commentedClass [.named .comment ("// a" ++ "\n"), .named .whitespace "    "]
      [.named .comment ("# b" ++ "\r\n")]
    RawToken.BreaksMoved plain moved ∧
      ∃ a a', ofRawTokens plain = .ok a ∧ ofRawTokens moved = .ok a' ∧ a'.outline = a.outline := by
  intro plain moved
  have hmoved : RawToken.BreaksMoved plain moved := by
    refine .cons _ (.cons _ (.cons _ (.cons _ (.move "// a" "\n" "    " (.inl rfl) ?_))))
    refine .cons _ (.cons _ (.cons _ (.cons _ (.cons _ (.cons _ ?_)))))
    refine .move "# b" "\r\n" "" (.inr rfl) ?_
    exact .cons _ (.cons _ (.cons _ (.cons _ (.cons _ .nil))))
  obtain ⟨ts, hts, -⟩ := Token.exists_prepareFrom plain (by decide +kernel) 0 1
  have ha : ofRawTokens plain = .ok (ofTokens none ts) := by
    rw [ofRawTokens, Token.prepare, hts]
    rfl
  obtain ⟨a', ha', houtline⟩ := outline_eq_of_breaksMoved hmoved ha
  exact ⟨hmoved, _, a', ha, ha', houtline⟩

end PhpOutline
