import Mathlib.Data.List.Basic
import Mathlib.Data.List.TakeWhile
import PhpOutline.Proofs.Outline.Declared
import PhpOutline.Proofs.RoundTrip.Parts

/-!
# What is read behind a keyword

The name of a written declaration, its signature or its parents, and the token that ends it.  The
scan for the end passes over an inline part at any depth (`scopeEndIn_inline`) and over a balanced
part inside brackets (`scopeEndIn_balanced`), so that it stops at the last token that is written.
Names end where a token follows that is no part of a name, and every separator is one.
-/

namespace PhpOutline

namespace Written

open Declaration
open RawToken (hasKind)

variable {pre ts rest : List Token} {t keyword : Token} {raws : List RawToken} {index depth : Nat}

/-! ### Where a declaration ends -/

/-- The scan for the end passes over a token that is neither a curly bracket nor a semicolon. -/
lemma scopeEndIn_cons_of_inline (hcurly : isCurly t.kind = false)
    (hsemi : t.kind = .semicolon → depth ≠ 0) :
    scopeEndIn index depth (t :: rest) = scopeEndIn (index + 1) depth rest := by
  rw [isCurly, Bool.or_eq_false_iff] at hcurly
  obtain ⟨hopen, hclose⟩ := hcurly
  have hgoes : ¬(t.kind = .semicolon ∧ depth = 0) := fun h => hsemi h.1 h.2
  conv_lhs => unfold scopeEndIn
  rw [if_neg (by simp [hopen]), if_neg (by simpa using hclose), if_neg hgoes]

/-- The scan for the end passes over an inline part. -/
lemma scopeEndIn_inline (hts : ∀ u ∈ ts, isInline u.kind = true) :
    scopeEndIn index depth (ts ++ rest) = scopeEndIn (index + ts.length) depth rest := by
  apply scopeEndIn_pass
  intro u hu
  rw [delimits, ← isCurly, isCurly_of_isInline (hts u hu), Bool.false_or, beq_eq_false_iff_ne]
  exact ne_semicolon_of_isInline (hts u hu)

/-- Inside brackets the scan for the end passes over a balanced part. -/
lemma scopeEndIn_balanced (hraws : Balanced raws) (hts : Spells ts raws) :
    scopeEndIn index (depth + 1) (ts ++ rest) =
      scopeEndIn (index + ts.length) (depth + 1) rest := by
  induction hraws generalizing ts rest index depth with
  | nil =>
    obtain rfl := spells_nil.1 hts
    rfl
  | token notCurly _ ih =>
    obtain ⟨u, us, rfl, hkind, -, hus⟩ := spells_cons.1 hts
    rw [hasKind, hkind] at notCurly
    have hcurly : isCurly u.kind = false := by simpa using notCurly
    rw [List.cons_append, scopeEndIn_cons_of_inline hcurly fun _ => Nat.succ_ne_zero _, ih hus,
      List.length_cons]
    congr 1
    omega
  | group opens _ closes _ ihInner ih =>
    obtain ⟨u, us, rfl, hkind, -, hus⟩ := spells_cons.1 hts
    obtain ⟨inner, others, rfl, hinner, hothers⟩ := spells_append.1 hus
    obtain ⟨v, vs, rfl, hlast, -, hvs⟩ := spells_cons.1 hothers
    rw [hasKind, hkind] at opens
    rw [hasKind, hlast] at closes
    have hclose : v.kind = .closeCurly := by simpa using closes
    rw [List.cons_append, scopeEndIn_open (by simpa using opens), List.append_assoc,
      List.cons_append, ihInner hinner, scopeEndIn_close_inner hclose, ih hvs]
    congr 1
    simp only [List.length_cons, List.length_append]
    omega

/-- The scan for the end starts behind the keyword. -/
lemma scopeEnd?_append :
    scopeEnd? (pre ++ keyword :: rest) pre.length = scopeEndIn (pre.length + 1) 0 rest := by
  rw [scopeEnd?, List.drop_length_add_append]
  rfl

/-- A written function ends at its last token. -/
lemma scopeEnd?_function {f : FunctionDecl} (hts : Spells ts f.renderBehind) :
    scopeEnd? (pre ++ keyword :: (ts ++ rest)) pre.length = some (pre.length + ts.length) := by
  rw [FunctionDecl.renderBehind, FunctionDecl.renderTail, List.append_assoc] at hts
  obtain ⟨gap, behind, rfl, hgap, hbehind⟩ := spells_append.1 hts
  obtain ⟨name, tail, rfl, hname, -, htail⟩ := spells_cons.1 hbehind
  obtain ⟨params, close, rfl, hparams, hclose⟩ := spells_append.1 htail
  have hid : name.kind = .identifier := (Option.some.inj hname).symm
  have hinline : isInline name.kind = true := by rw [hid]; rfl
  -- the scan comes to what ends the declaration, with no bracket open
  rw [scopeEnd?_append, List.append_assoc, List.cons_append, List.append_assoc,
    scopeEndIn_inline (hgap.forall_kind (inline_gap _)),
    scopeEndIn_cons_of_inline (isCurly_of_isInline hinline)
      fun hsemi => absurd hsemi (ne_semicolon_of_isInline hinline),
    scopeEndIn_inline (hparams.forall_kind f.isInline)]
  rw [FunctionDecl.renderBody, FunctionDecl.last] at hclose
  cases hf : f.body with
  | none =>
    rw [hf] at hclose
    obtain ⟨last, rfl, hkind, -⟩ := spells_singleton.1 hclose
    rw [List.singleton_append, scopeEndIn_semicolon (Option.some.inj hkind).symm]
    simp only [List.length_append, List.length_cons, List.length_nil]
    congr 1
    omega
  | some body =>
    rw [hf] at hclose
    obtain ⟨first, tail, rfl, hfirst, -, htail⟩ := spells_cons.1 hclose
    obtain ⟨inner, tail, rfl, hinner, htail⟩ := spells_append.1 htail
    obtain ⟨last, rfl, hlast, -⟩ := spells_singleton.1 htail
    have hopen : first.kind = .openCurly := (Option.some.inj hfirst).symm
    rw [List.cons_append, scopeEndIn_open (by rw [hopen]; rfl), List.append_assoc,
      scopeEndIn_balanced body.balanced hinner, List.singleton_append,
      scopeEndIn_close (Option.some.inj hlast).symm]
    simp only [List.length_append, List.length_cons, List.length_nil]
    congr 1
    omega

/-- A written container ends at its last token. -/
lemma scopeEnd?_container {c : ContainerDecl} {header body : List Token} {first last : Token}
    (hheader : Spells header c.renderHeader) (hfirst : first.kind = .openCurly)
    (hbody : Spells body (c.bodyGap.render ++ c.renderMethods)) (hlast : last.kind = .closeCurly) :
    scopeEnd? (pre ++ keyword :: (header ++ first :: (body ++ last :: rest))) pre.length =
      some (pre.length + (header.length + body.length + 2)) := by
  have hbalanced : Balanced (c.bodyGap.render ++ c.renderMethods) :=
    (balanced_of_inline (inline_gap _)).append (balanced_methods c)
  rw [scopeEnd?_append, scopeEndIn_inline (hheader.forall_kind (inline_header c)),
    scopeEndIn_open (by rw [hfirst]; rfl), scopeEndIn_balanced hbalanced hbody,
    scopeEndIn_close hlast]
  congr 1
  omega

/-! ### The name of a declaration -/

/-- Seeking passes over the tokens that do not satisfy the condition. -/
lemma seekIn_append {p : Token → Bool} {before gap : List Token} (hgap : ∀ u ∈ gap, p u = false)
    (ht : p t = true) :
    Cursor.seekIn p before (gap ++ t :: rest) = .on (gap.reverse ++ before) t rest := by
  induction gap generalizing before with
  | nil => rw [List.nil_append, Cursor.seekIn, if_pos ht]; rfl
  | cons u us ih =>
    obtain ⟨hu, hus⟩ := List.forall_mem_cons.1 hgap
    rw [List.cons_append, Cursor.seekIn, if_neg (by rw [hu]; exact Bool.false_ne_true), ih hus,
      List.reverse_cons, List.append_assoc, List.singleton_append]

variable {gap : List Token} {name : Token}

/-- The name of a container is the identifier behind its keyword. -/
lemma containerName?_append (hgap : ∀ u ∈ gap, u.kind.isWhitespace = true)
    (hname : name.kind = .identifier) :
    containerName? (pre ++ keyword :: (gap ++ name :: rest)) pre.length =
      some (name.text, (pre ++ keyword :: gap).length) := by
  rw [containerName?, Cursor.ofIndex_append, Cursor.skipWhitespace, Cursor.seek,
    seekIn_append (fun u hu => by rw [hgap u hu]; rfl) (by rw [hname]; rfl), Cursor.identifier?_on]
  simp only [hname, if_true, List.length_append, List.length_reverse, List.length_cons]
  congr 2
  omega

/-- The name of a function is the identifier behind its keyword. -/
lemma functionName?_append (hgap : ∀ u ∈ gap, u.kind.isWhitespace = true)
    (hname : name.kind = .identifier) :
    functionName? (pre ++ keyword :: (gap ++ name :: rest)) pre.length =
      some (name.text, (pre ++ keyword :: gap).length) := by
  rw [functionName?, Cursor.ofIndex_append, Cursor.seek,
    seekIn_append (fun u hu => by rw [hgap u hu]; rfl) (by rw [hname]; rfl), Cursor.identifier?_on]
  simp only [hname, if_true, List.length_append, List.length_reverse, List.length_cons]
  congr 2
  omega

/-- The signature of a written function is the text of its parameters. -/
lemma signature_append {params : List Token} {close : Token}
    (hparams : ∀ u ∈ params, isInline u.kind = true)
    (hclose : close.kind = .openCurly ∨ close.kind = .semicolon) :
    signature (pre ++ name :: (params ++ close :: rest)) pre.length =
      String.ofList (Text.trim (String.join (params.map (·.text))).toList) := by
  have hgoes : ∀ u ∈ params, (u.kind != .openCurly && u.kind != .semicolon) = true := by
    intro u hu
    have hcurly := isCurly_of_isInline (hparams u hu)
    have hsemi := ne_semicolon_of_isInline (hparams u hu)
    have hopen : u.kind ≠ .openCurly := by
      intro hkind
      rw [hkind] at hcurly
      cases hcurly
    simp [hopen, hsemi]
  have hstops : ¬(close.kind != .openCurly && close.kind != .semicolon) = true := by
    rcases hclose with hkind | hkind <;> rw [hkind] <;> decide
  have hdrop : (pre ++ name :: (params ++ close :: rest)).drop (pre.length + 1) =
      params ++ close :: rest := by
    rw [List.drop_length_add_append]
    rfl
  rw [signature, hdrop, List.takeWhile_append_of_pos hgoes, List.takeWhile_cons_of_neg
    (by exact hstops), List.append_nil]

/-! ### Parents -/

/-- The list does not go on with a part of a name. -/
def EndsName (ts : List Token) : Prop := ∀ t ∈ ts.head?, t.kind.isNamePart = false

lemma endsName_cons (ht : t.kind.isNamePart = false) : EndsName (t :: rest) := by
  rintro u hu
  cases hu
  exact ht

/-- White space ends a name, or what follows it does. -/
lemma EndsName.space (hrest : EndsName rest) (hgap : ∀ u ∈ gap, u.kind.isWhitespace = true) :
    EndsName (gap ++ rest) := by
  cases gap with
  | nil => exact hrest
  | cons u us =>
    have hu := hgap u List.mem_cons_self
    rw [Kind.isWhitespace, beq_iff_eq] at hu
    exact endsName_cons (by rw [hu]; rfl)

/-- A name is read to its last part. -/
lemma takeWhile_namePart {parts : List Token} (hparts : ∀ u ∈ parts, u.kind.isNamePart = true)
    (hrest : EndsName rest) : (parts ++ rest).takeWhile (·.kind.isNamePart) = parts := by
  rw [List.takeWhile_append_of_pos hparts]
  cases rest with
  | nil => rw [List.takeWhile_nil, List.append_nil]
  | cons u us =>
    rw [List.takeWhile_cons_of_neg (by simp [hrest u rfl]), List.append_nil]

/-- Behind a name stands what ends it. -/
lemma dropWhile_namePart {parts : List Token} (hparts : ∀ u ∈ parts, u.kind.isNamePart = true)
    (hrest : EndsName rest) : (parts ++ rest).dropWhile (·.kind.isNamePart) = rest := by
  rw [List.dropWhile_append_of_pos hparts]
  cases rest with
  | nil => rfl
  | cons u us => rw [List.dropWhile_cons_of_neg (by simp [hrest u rfl])]

/-- White space is skipped up to a token of another kind. -/
lemma skipSpace_append (hgap : ∀ u ∈ gap, u.kind.isWhitespace = true)
    (ht : t.kind.isWhitespace = false) : skipSpace (gap ++ t :: rest) = t :: rest := by
  rw [skipSpace, List.dropWhile_append_of_pos hgap,
    List.dropWhile_cons_of_neg (by rw [ht]; exact Bool.false_ne_true)]

/-- A written name has a first part. -/
lemma exists_firstPart {n : Name} (hts : Spells ts n.parts) :
    ∃ u us, ts = u :: us ∧ u.kind.isNamePart = true ∧ u.kind.isWhitespace = false := by
  have hparts := hts.forall_kind n.isNamePart
  cases ts with
  | nil =>
    have hempty : RawToken.concat n.parts = "" := hts.join_text.symm
    exact absurd hempty n.nonempty
  | cons u us =>
    have hu := hparts u List.mem_cons_self
    refine ⟨u, us, rfl, hu, ?_⟩
    revert hu
    cases u.kind <;> decide

/-- The name behind a gap is read as it is written. -/
lemma leadingName_append {n : Name} (hgap : ∀ u ∈ gap, u.kind.isWhitespace = true)
    (hts : Spells ts n.parts) (hrest : EndsName rest) :
    leadingName (skipSpace (gap ++ (ts ++ rest))) = n.text := by
  have hparts := hts.forall_kind n.isNamePart
  obtain ⟨u, us, rfl, -, hu⟩ := exists_firstPart hts
  rw [List.cons_append, skipSpace_append hgap hu, ← List.cons_append, leadingName,
    takeWhile_namePart hparts hrest]
  exact hts.join_text

variable {c : ContainerDecl} {item : Item}

/-- Behind a parent stands the white space that follows it. -/
lemma skipSpace_afterParent (hts : Spells ts item.render) (ht : t.kind.isNamePart = false)
    (hwhite : t.kind.isWhitespace = false) :
    skipSpace (afterParent (ts ++ t :: rest)) = t :: rest := by
  obtain ⟨gap, others, rfl, hgap, hothers⟩ := spells_append.1 hts
  obtain ⟨parts, space, rfl, hparts, hspace⟩ := spells_append.1 hothers
  have hgapWhite := hgap.forall_kind (whitespace_gap _)
  have hspaceWhite := hspace.forall_kind (whitespace_gap _)
  have hnameParts := hparts.forall_kind item.name.isNamePart
  obtain ⟨u, us, rfl, hu, huWhite⟩ := exists_firstPart hparts
  have hrest : EndsName (space ++ t :: rest) := (endsName_cons ht).space hspaceWhite
  have hafter : afterParent (gap ++ (u :: us ++ space) ++ t :: rest) = space ++ t :: rest := by
    rw [afterParent, List.append_assoc, List.append_assoc, List.cons_append,
      skipSpace_append hgapWhite huWhite]
    dsimp only
    rw [if_pos hu, dropWhile_namePart (fun v hv => hnameParts v (List.mem_cons_of_mem _ hv)) hrest]
  rw [hafter, skipSpace_append hspaceWhite hwhite]

/-- A parent without a comma behind it is the last one. -/
lemma afterParents_item (hts : Spells ts item.render) (ht : t.kind.isNamePart = false)
    (hwhite : t.kind.isWhitespace = false) (hcomma : t.kind ≠ .comma) :
    afterParents (ts ++ t :: rest) = t :: rest := by
  have hskip : skipSpace (afterParent (ts ++ t :: rest)) = t :: rest :=
    skipSpace_afterParent hts ht hwhite
  unfold afterParents
  split
  · next heq => rw [hskip] at heq; cases heq
  · next u us heq =>
    rw [hskip] at heq
    cases heq
    rw [if_neg hcomma]

/-- What may stand behind the parent of a container. -/
def endsParent (k : Kind) : Bool := k == .kwImplements || k == .openCurly

lemma kinds_of_endsParent {k : Kind} (hk : endsParent k = true) :
    k.isNamePart = false ∧ k.isWhitespace = false ∧ k ≠ .comma ∧ k ≠ .kwExtends := by
  revert hk
  cases k <;> decide

/-- Behind the parent stand the interfaces or the body. -/
lemma exists_follow (rest : List Token) {interfaces : List Token} {first : Token}
    (hints : Spells interfaces c.renderInterfaces) (hfirst : first.kind = .openCurly) :
    ∃ u us, interfaces ++ first :: rest = u :: us ∧ endsParent u.kind = true := by
  rw [ContainerDecl.renderInterfaces] at hints
  split at hints
  · obtain ⟨u, us, rfl, hkind, -, -⟩ := spells_cons.1 hints
    exact ⟨u, us ++ first :: rest, rfl, by rw [← Option.some.inj hkind]; rfl⟩
  · obtain rfl := spells_nil.1 hints
    exact ⟨first, rest, rfl, by rw [hfirst]; rfl⟩

section Header

variable {parent interfaces : List Token} {first : Token}

/-- The word `extends` and the parent are passed over on the way to the interfaces. -/
lemma afterExtends_header (rest : List Token) (hgap : Spells gap c.nameGap.render)
    (hparent : Spells parent c.renderParent) (hints : Spells interfaces c.renderInterfaces)
    (hfirst : first.kind = .openCurly) :
    afterExtends (skipSpace (gap ++ (parent ++ (interfaces ++ first :: rest)))) =
      interfaces ++ first :: rest := by
  have hwhite := hgap.forall_kind (whitespace_gap _)
  obtain ⟨u, us, hfollow, hu⟩ := exists_follow rest hints hfirst
  obtain ⟨huName, huWhite, huComma, huExtends⟩ := kinds_of_endsParent hu
  rw [hfollow]
  rw [ContainerDecl.renderParent] at hparent
  split at hparent
  · obtain ⟨e, ts, rfl, hkind, -, hts⟩ := spells_cons.1 hparent
    have he : e.kind = .kwExtends := (Option.some.inj hkind).symm
    rw [List.cons_append, skipSpace_append hwhite (by rw [he]; rfl), afterExtends, if_pos he,
      afterParents_item hts huName huWhite huComma]
  · obtain rfl := spells_nil.1 hparent
    rw [List.nil_append, skipSpace_append hwhite huWhite, afterExtends, if_neg huExtends]

/-- The parent of a written container is read as it is. -/
lemma parent?_header (hgap : Spells gap c.nameGap.render) (hparent : Spells parent c.renderParent)
    (hints : Spells interfaces c.renderInterfaces) (hfirst : first.kind = .openCurly) :
    parent? (pre ++ name :: (gap ++ (parent ++ (interfaces ++ first :: rest)))) pre.length =
      c.parent.map (·.name.text) := by
  have hwhite := hgap.forall_kind (whitespace_gap _)
  obtain ⟨u, us, hfollow, hu⟩ := exists_follow rest hints hfirst
  obtain ⟨huName, huWhite, -, huExtends⟩ := kinds_of_endsParent hu
  rw [parent?_eq, Cursor.ofIndex_append, Cursor.ahead, hfollow]
  rw [ContainerDecl.renderParent] at hparent
  cases hc : c.parent with
  | none =>
    rw [hc] at hparent
    obtain rfl := spells_nil.1 hparent
    rw [List.nil_append, skipSpace_append hwhite huWhite]
    exact if_neg huExtends
  | some item =>
    rw [hc] at hparent
    obtain ⟨e, ts, rfl, hkind, -, hts⟩ := spells_cons.1 hparent
    have he : e.kind = .kwExtends := (Option.some.inj hkind).symm
    obtain ⟨before, others, rfl, hbefore, hothers⟩ := spells_append.1 hts
    obtain ⟨parts, space, rfl, hparts, hspace⟩ := spells_append.1 hothers
    have hends : EndsName (space ++ u :: us) :=
      (endsName_cons huName).space (hspace.forall_kind (whitespace_gap _))
    rw [List.cons_append, skipSpace_append hwhite (by rw [he]; rfl)]
    dsimp only
    rw [if_pos he, List.append_assoc, List.append_assoc,
      leadingName_append (hbefore.forall_kind (whitespace_gap _)) hparts hends]
    simp [nonempty?, Name.text, item.name.nonempty]

end Header

/-! ### Interfaces -/

/-- A name that is being read ends where no part of a name follows. -/
lemma namesBeforeBody_endsName (run : String) (hrest : EndsName rest) :
    namesBeforeBody run rest = (nonempty? run).toList ++ namesBeforeBody "" rest := by
  cases rest with
  | nil => simp [namesBeforeBody, nonempty?]
  | cons u us =>
    have hu := hrest u rfl
    by_cases hopen : u.kind = .openCurly
    · simp [namesBeforeBody, hopen, nonempty?]
    · simp [namesBeforeBody, hopen, hu, nonempty?]

/-- The parts of a name are run together. -/
lemma namesBeforeBody_namePart {parts : List Token} (run : String)
    (hparts : ∀ u ∈ parts, u.kind.isNamePart = true) :
    namesBeforeBody run (parts ++ rest) =
      namesBeforeBody (run ++ String.join (parts.map (·.text))) rest := by
  induction parts generalizing run with
  | nil => simp
  | cons u us ih =>
    obtain ⟨hu, hus⟩ := List.forall_mem_cons.1 hparts
    have hopen : u.kind ≠ .openCurly := by
      intro hkind
      rw [hkind] at hu
      cases hu
    rw [List.cons_append, namesBeforeBody, if_neg hopen, if_pos hu, ih _ hus, List.map_cons,
      String.join_cons, String.append_assoc]

/-- White space between the names is passed over. -/
lemma namesBeforeBody_gap (hgap : ∀ u ∈ gap, u.kind.isWhitespace = true) :
    namesBeforeBody "" (gap ++ rest) = namesBeforeBody "" rest := by
  induction gap with
  | nil => rfl
  | cons u us ih =>
    obtain ⟨hu, hus⟩ := List.forall_mem_cons.1 hgap
    rw [Kind.isWhitespace, beq_iff_eq] at hu
    rw [List.cons_append, namesBeforeBody, if_neg (by rw [hu]; decide),
      if_neg (by rw [hu]; decide), ih hus]
    rfl

/-- A written interface is read as it is. -/
lemma namesBeforeBody_item (hts : Spells ts item.render) (hrest : EndsName rest) :
    namesBeforeBody "" (ts ++ rest) = item.name.text :: namesBeforeBody "" rest := by
  obtain ⟨before, others, rfl, hbefore, hothers⟩ := spells_append.1 hts
  obtain ⟨parts, space, rfl, hparts, hspace⟩ := spells_append.1 hothers
  have hwhite := hspace.forall_kind (whitespace_gap _)
  have htext : nonempty? ("" ++ String.join (parts.map (·.text))) = some item.name.text := by
    rw [String.empty_append, hparts.join_text]
    simp [nonempty?, Name.text, item.name.nonempty]
  rw [List.append_assoc, List.append_assoc,
    namesBeforeBody_gap (hbefore.forall_kind (whitespace_gap _)),
    namesBeforeBody_namePart _ (hparts.forall_kind item.name.isNamePart),
    namesBeforeBody_endsName _ (hrest.space hwhite), namesBeforeBody_gap hwhite, htext]
  rfl

/-- The interfaces behind the first one are read one by one. -/
lemma namesBeforeBody_others (rest : List Token) {others : List Item} {first : Token}
    (hts : Spells ts (others.flatMap fun item => .punctuation ',' :: item.render))
    (hfirst : first.kind = .openCurly) :
    EndsName (ts ++ first :: rest) ∧
      namesBeforeBody "" (ts ++ first :: rest) = others.map (·.name.text) := by
  induction others generalizing ts with
  | nil =>
    obtain rfl := spells_nil.1 hts
    refine ⟨endsName_cons (by rw [hfirst]; rfl), ?_⟩
    rw [List.nil_append, namesBeforeBody, if_pos hfirst]
    rfl
  | cons item others ih =>
    rw [List.flatMap_cons] at hts
    obtain ⟨one, more, rfl, hone, hmore⟩ := spells_append.1 hts
    obtain ⟨comma, one, rfl, hkind, -, hone⟩ := spells_cons.1 hone
    have hcomma : comma.kind = .comma := (Option.some.inj hkind).symm
    obtain ⟨hends, hnames⟩ := ih hmore
    refine ⟨endsName_cons (by rw [hcomma]; rfl), ?_⟩
    rw [List.append_assoc, List.cons_append, namesBeforeBody, if_neg (by rw [hcomma]; decide),
      if_neg (by rw [hcomma]; decide), namesBeforeBody_item hone hends, hnames]
    rfl

/-- The interfaces of a written container are read in order. -/
lemma interfaces?_header {parent interfaces : List Token} {first : Token}
    (hgap : Spells gap c.nameGap.render) (hparent : Spells parent c.renderParent)
    (hints : Spells interfaces c.renderInterfaces) (hfirst : first.kind = .openCurly) :
    interfaces? (pre ++ name :: (gap ++ (parent ++ (interfaces ++ first :: rest)))) pre.length =
      c.interfaces.map (·.names) := by
  rw [interfaces?, Cursor.ofIndex_append, Cursor.ahead,
    afterExtends_header rest hgap hparent hints hfirst]
  rw [ContainerDecl.renderInterfaces] at hints
  cases hc : c.interfaces with
  | none =>
    rw [hc] at hints
    obtain rfl := spells_nil.1 hints
    exact if_neg (by rw [hfirst]; decide)
  | some i =>
    rw [hc] at hints
    obtain ⟨word, ts, rfl, hkind, -, hts⟩ := spells_cons.1 hints
    obtain ⟨one, more, rfl, hone, hmore⟩ := spells_append.1 hts
    obtain ⟨hends, hnames⟩ := namesBeforeBody_others rest hmore hfirst
    have hword : word.kind = .kwImplements := (Option.some.inj hkind).symm
    rw [List.cons_append]
    dsimp only
    rw [if_pos hword, List.append_assoc, namesBeforeBody_item hone hends, hnames]
    rfl

/-! ### Namespaces -/

/-- A written namespace is read as it is. -/
lemma declaredNamespace?_append {n : NamespaceDecl} (before : List Token) (word : Token)
    (rest : List Token) (hts : Spells ts n.renderBehind) :
    declaredNamespace? (.on before word (ts ++ rest)) = some n.name.text := by
  obtain ⟨gap, others, rfl, hgap, hothers⟩ := spells_append.1 hts
  obtain ⟨parts, close, rfl, hparts, hclose⟩ := spells_append.1 hothers
  obtain ⟨space, last, rfl, hspace, hlast⟩ := spells_append.1 hclose
  obtain ⟨semi, rfl, hkind, -⟩ := spells_singleton.1 hlast
  have hwhite := hgap.forall_kind (whitespace_gap _)
  have hsemi : semi.kind.isNamePart = false := by rw [← Option.some.inj hkind]; rfl
  have hends : EndsName (space ++ semi :: rest) :=
    (endsName_cons hsemi).space (hspace.forall_kind (whitespace_gap _))
  have hname := leadingName_append hwhite hparts hends
  obtain ⟨u, us, rfl, hu, huWhite⟩ := exists_firstPart hparts
  -- the gap keeps the keyword from being read as the start of a relative name
  have hnotRelative : ¬((gap ++ (u :: us ++ (space ++ [semi])) ++ rest).head?.any
      fun t => decide (t.kind = .nsSeparator)) = true := by
    cases gap with
    | nil =>
      have hlength := hgap.length_eq
      rw [Gap.render, List.length_map, List.length_nil] at hlength
      exact absurd (List.length_eq_zero_iff.1 hlength.symm) n.separated
    | cons v vs =>
      have hv := hwhite v List.mem_cons_self
      rw [Kind.isWhitespace, beq_iff_eq] at hv
      simp [hv]
  rw [declaredNamespace?_on, if_neg hnotRelative]
  simp only [List.append_assoc, List.cons_append, List.nil_append] at hname ⊢
  rw [skipSpace_append hwhite huWhite] at hname ⊢
  dsimp only
  rw [if_pos hu, hname]

end Written

end PhpOutline
