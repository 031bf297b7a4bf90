import Mathlib.Data.List.Infix
import PhpOutline.Proofs.Layout.LeadingMarkup
import PhpOutline.Proofs.Lexer.FencedReaders
import PhpOutline.Proofs.Lexer.WordContext
import PhpOutline.Proofs.Token.Prepare

/-!
# Markup in front of a source

A source that starts with an open tag may be moved down by markup in front of it.  The markup is
one more token, and it is no matter of what the source declares, except that everything stands as
many lines further down as the markup has line breaks (`ofSource_leadingMarkup`).

Lines are read off tokens in two places only, where a declaration starts and where it ends.  So if
all tokens are moved down, every function and every container is the same up to these two lines
(`functionAt_moveDown`, `containerAt_moveDown`).  `Outline.MovedDown` compares the outlines that are
made of them entry by entry, and filing keeps it step by step (`Outline.MovedDown.fileAt`).
-/

namespace PhpOutline

open Declaration

/-! ### Outlines that are moved down -/

/-- The token, moved down by some lines. -/
def Token.moveDown (n : Nat) (t : Token) : Token := { t with line := t.line + n }

/-- The function, moved down by some lines. -/
def FunctionSymbol.moveDown (n : Nat) (f : FunctionSymbol) : FunctionSymbol :=
  { f with startLine := f.startLine + n, endLine := f.endLine + n }

/-- The container, moved down by some lines; its methods stay. -/
def Container.moveDown (n : Nat) (c : Container) : Container :=
  { c with startLine := c.startLine + n, endLine := c.endLine + n }

/-- The second container is the first one, moved down with its methods. -/
structure Container.MovedDown (n : Nat) (c d : Container) : Prop where
  head : d.head = c.head.moveDown n
  methods : ∀ m : String, d.methods[m]? = c.methods[m]?.map (·.moveDown n)

/-- The second outline has the containers and functions of the first one, moved down. -/
structure Outline.MovedDown (n : Nat) (o p : Outline) : Prop where
  containers : ∀ (kind : ContainerKind) (name : String),
    Option.Rel (Container.MovedDown n) (o.ofKind kind)[name]? (p.ofKind kind)[name]?
  functions : ∀ key : String, p.functions[key]? = o.functions[key]?.map (·.moveDown n)

variable {tokens : List Token} {t : Token} {k n : Nat}

lemma Container.MovedDown.kind_eq {c d : Container} (h : c.MovedDown n d) : d.kind = c.kind :=
  (congrArg Container.kind h.head :)

lemma Container.MovedDown.name_eq {c d : Container} (h : c.MovedDown n d) : d.name = c.name :=
  (congrArg Container.name h.head :)

lemma Container.MovedDown.addMethod {c d : Container} (h : c.MovedDown n d) (f : FunctionSymbol) :
    (c.addMethod f).MovedDown n (d.addMethod (f.moveDown n)) := by
  cases hname : f.name with
  | none => simpa [Container.addMethod, FunctionSymbol.moveDown, hname] using h
  | some name =>
    refine ⟨by rw [head_addMethod, head_addMethod, h.head], fun m => ?_⟩
    rw [getElem?_methods_addMethod d (f := f.moveDown n) hname,
      getElem?_methods_addMethod c hname, h.methods]
    split <;> rfl

/-- An outline that is moved down by no lines stays. -/
lemma Outline.movedDown_zero (o : Outline) : o.MovedDown 0 o := by
  have hstay : ∀ f : Option FunctionSymbol, f = f.map (·.moveDown 0) := by
    rintro (_ | f) <;> rfl
  refine ⟨fun kind name => ?_, fun key => hstay _⟩
  cases (o.ofKind kind)[name]? with
  | none => exact .none
  | some c => exact .some ⟨rfl, fun m => hstay _⟩

namespace Outline.MovedDown

variable {o p : Outline}

lemma addContainer {c d : Container} (h : o.MovedDown n p) (hc : c.MovedDown n d) :
    (o.addContainer c).MovedDown n (p.addContainer d) := by
  constructor
  · intro kind name
    rw [getElem?_ofKind_addContainer, getElem?_ofKind_addContainer, hc.kind_eq, hc.name_eq]
    split
    · exact .some hc
    · exact h.containers kind name
  · simpa using h.functions

lemma addMethod (h : o.MovedDown n p) (kind : ContainerKind) (name : String)
    (f : FunctionSymbol) :
    (o.addMethod kind name f).MovedDown n (p.addMethod kind name (f.moveDown n)) := by
  constructor
  · intro kind' name'
    rw [getElem?_ofKind_addMethod, getElem?_ofKind_addMethod]
    split
    · have hentry := h.containers kind name
      generalize (o.ofKind kind)[name]? = c, (p.ofKind kind)[name]? = d at hentry ⊢
      cases hentry with
      | none => exact .none
      | some hc => exact .some (hc.addMethod f)
    · exact h.containers kind' name'
  · simpa using h.functions

lemma addFunction (h : o.MovedDown n p) (key : String) (f : FunctionSymbol) :
    (o.addFunction key f).MovedDown n (p.addFunction key (f.moveDown n)) := by
  constructor
  · intro kind name
    rw [ofKind_addFunction, ofKind_addFunction]
    exact h.containers kind name
  · intro key'
    rw [getElem?_functions_addFunction, getElem?_functions_addFunction, h.functions]
    split <;> rfl

end Outline.MovedDown

/-! ### Tokens that are moved down -/

lemma agreeInPlace_moveDown (tokens : List Token) (n : Nat) :
    AgreeInPlace (tokens.map (·.moveDown n)) tokens :=
  List.forall₂_map_left_iff.2 (List.forall₂_same.2 fun _ _ => ⟨rfl, fun _ => rfl⟩)

lemma getElem?_moveDown (ht : tokens[k]? = some t) :
    (tokens.map (·.moveDown n))[k]? = some (t.moveDown n) := by
  rw [List.getElem?_map, ht, Option.map_some]

/-- Every token is the twin of the one that was moved down. -/
lemma twin_moveDown (ht : tokens[k]? = some t) (hword : t.kind.isWhitespace = false) :
    Twin (tokens.map (·.moveDown n)) tokens k k :=
  (agreeInPlace_moveDown tokens n).twin (getElem?_moveDown ht) hword

/-- A search for a doc comment does not look at lines. -/
lemma docblock?_moveDown (ht : tokens[k]? = some t) :
    docblock? (tokens.map (·.moveDown n)) k = docblock? tokens k := by
  have hsame : List.Forall₂ Token.SameInSearch (tokens.map (·.moveDown n)) tokens :=
    List.forall₂_map_left_iff.2 (List.forall₂_same.2 fun _ _ => ⟨rfl, rfl, fun _ => rfl⟩)
  exact docblock?_eq hsame (getElem?_moveDown ht) ht

lemma signature_moveDown (tokens : List Token) (n start : Nat) :
    signature (tokens.map (·.moveDown n)) start = signature tokens start := by
  rw [signature, ← List.map_drop, List.takeWhile_map, List.map_map]
  rfl

lemma endLine_moveDown (ht : tokens[k]? = some t) (hword : t.kind.isWhitespace = false) :
    endLine (tokens.map (·.moveDown n)) k (t.moveDown n) = endLine tokens k t + n := by
  have hagree := agreeInPlace_moveDown tokens n
  have hlast := (twin_moveDown (n := n) ht hword).lastIndex hagree.relaid.aligned
  rw [endLine, hagree.eq_of_twin hlast, List.getElem?_map, endLine]
  cases tokens[lastIndex tokens k]? <;> rfl

/-- A function is moved down with its tokens. -/
lemma functionAt_moveDown (ht : tokens[k]? = some t) (hword : t.kind.isWhitespace = false) :
    functionAt (tokens.map (·.moveDown n)) k = (functionAt tokens k).moveDown n := by
  have hagree := agreeInPlace_moveDown tokens n
  have htwin := twin_moveDown (n := n) ht hword
  have hsignature : (functionAt (tokens.map (·.moveDown n)) k).signature =
      (functionAt tokens k).signature := by
    dsimp only [functionAt, function]
    rw [hagree.eq_of_sameName (htwin.functionName? hagree.relaid.aligned), signature_moveDown]
  have hstart : (functionAt (tokens.map (·.moveDown n)) k).startLine =
      (functionAt tokens k).startLine + n := by
    rw [functionAt, functionAt, ht, getElem?_moveDown ht]
    rfl
  have hend : (functionAt (tokens.map (·.moveDown n)) k).endLine =
      (functionAt tokens k).endLine + n := by
    rw [functionAt, functionAt, ht, getElem?_moveDown ht]
    exact endLine_moveDown ht hword
  have heq := htwin.functionAt_eq_of_docblock? hagree.relaid.aligned (docblock?_moveDown ht)
  rw [hsignature, hstart, hend] at heq
  exact heq

/-- A container is moved down with its tokens. -/
lemma containerAt_moveDown (hk : isContainer tokens k = true) :
    (containerAt tokens k).MovedDown n (containerAt (tokens.map (·.moveDown n)) k) := by
  obtain ⟨t, ht, hword⟩ := picksWords_isContainer k hk
  have hrelaid := (agreeInPlace_moveDown tokens n).relaid
  have htwin := twin_moveDown (n := n) ht hword
  have hk' : isContainer (tokens.map (·.moveDown n)) k = true := by
    rw [htwin.isContainer_eq hrelaid.aligned, hk]
  have hstart : (containerAt (tokens.map (·.moveDown n)) k).startLine =
      (containerAt tokens k).startLine + n := by
    rw [containerAt, containerAt, ht, getElem?_moveDown ht]
    rfl
  have hend : (containerAt (tokens.map (·.moveDown n)) k).endLine =
      (containerAt tokens k).endLine + n := by
    rw [containerAt, containerAt, ht, getElem?_moveDown ht]
    exact endLine_moveDown ht hword
  have heq := htwin.containerAt_eq_of_docblock? hrelaid hk' (docblock?_moveDown ht)
  rw [hstart, hend] at heq
  exact ⟨heq, fun m => rfl⟩

lemma owner?_moveDown (ht : tokens[k]? = some t) (hword : t.kind.isWhitespace = false) :
    owner? (tokens.map (·.moveDown n)) k = owner? tokens k := by
  have hagree := agreeInPlace_moveDown tokens n
  have howner := (twin_moveDown (n := n) ht hword).owner?_twin hagree.relaid.aligned
  generalize owner? (tokens.map (·.moveDown n)) k = c, owner? tokens k = c' at howner ⊢
  cases howner with
  | none => rfl
  | some htwin => rw [hagree.eq_of_twin htwin]

/-! ### Filing -/

/-- What a token files is moved down with the tokens. -/
lemma Outline.MovedDown.fileAt {o p : Outline} (h : o.MovedDown n p) (hk : k < tokens.length) :
    (Pass.fileAt tokens o k).MovedDown n (Pass.fileAt (tokens.map (·.moveDown n)) p k) := by
  have ht := List.getElem?_eq_getElem hk
  by_cases space : tokens[k].kind.isWhitespace = true
  · rw [Pass.fileAt_of_isWhitespace ht space,
      Pass.fileAt_of_isWhitespace (getElem?_moveDown ht) space]
    exact h
  have hword := Bool.eq_false_iff.2 space
  have hrelaid := (agreeInPlace_moveDown tokens n).relaid
  have htwin := twin_moveDown (n := n) ht hword
  rw [Pass.fileAt, Pass.fileAt, htwin.isContainer_eq hrelaid.aligned,
    htwin.filedName?_eq hrelaid.aligned, htwin.namespaceAt_eq hrelaid, owner?_moveDown ht hword,
    functionAt_moveDown ht hword]
  split
  · next hcontainer => exact h.addContainer (containerAt_moveDown hcontainer)
  · cases filedName? tokens k with
    | none => exact h
    | some name =>
      cases hc : owner? tokens k with
      | none => exact h.addFunction _ _
      | some c =>
        have howner := containerAt_moveDown (n := n) (outermost?_eq_some.1 hc).2.1
        dsimp only
        rw [howner.kind_eq, howner.name_eq]
        exact h.addMethod _ _ _

lemma reached_moveDown (tokens : List Token) (n : Nat) :
    Pass.reached (tokens.map (·.moveDown n)) = (Pass.reached tokens).map (·.moveDown n) :=
  List.takeWhile_map

/-- The outline is moved down with the tokens. -/
lemma Pass.movedDown_run (path path' : Option String) (tokens : List Token) (n : Nat) :
    (run path tokens).outline.MovedDown n (run path' (tokens.map (·.moveDown n))).outline := by
  rw [run_eq_before, run_eq_before, outline_before path le_rfl, outline_before path' le_rfl,
    reached_moveDown, List.length_map]
  refine List.foldl_rel ⟨fun kind name => ?_, fun key => rfl⟩ fun k hk o p h => h.fileAt ?_
  · cases kind <;> exact .none
  · have hle : (reached tokens).length ≤ tokens.length := (List.takeWhile_sublist _).length_le
    exact (List.mem_range.1 hk).trans_le hle

/-! ### Line counts -/

lemma haltLine?_moveDown (tokens : List Token) (n : Nat) :
    Pass.haltLine? (tokens.map (·.moveDown n)) = (Pass.haltLine? tokens).map (· + n) := by
  rw [Pass.haltLine?, List.find?_map, Option.map_map, Pass.haltLine?, Option.map_map]
  rfl

lemma lineBreaks_moveDown (tokens : List Token) (n : Nat) :
    LineCount.ofTokens (tokens.map (·.moveDown n)) = LineCount.ofTokens tokens := by
  rw [LineCount.ofTokens, List.foldr_map]
  rfl

/-- Markup in front adds its line breaks, also to the line at which a file is cut short. -/
lemma total_lines_cons {lead : Token} (hlead : lead.kind = .inlineHtml) (path path' : Option String)
    (tokens : List Token) :
    (Analysis.ofTokens path' (lead :: tokens.map (·.moveDown lead.newlines))).outline.lines.total =
      (Analysis.ofTokens path tokens).outline.lines.total + lead.newlines := by
  have hhalt : Pass.haltLine? (lead :: tokens.map (·.moveDown lead.newlines)) =
      (Pass.haltLine? tokens).map (· + lead.newlines) := by
    rw [Pass.haltLine?, List.find?_cons_of_neg (by simp [hlead]), ← Pass.haltLine?,
      haltLine?_moveDown]
  have hbreaks : LineCount.ofTokens (lead :: tokens.map (·.moveDown lead.newlines)) =
      LineCount.ofTokens tokens + lead.newlines := by
    rw [LineCount.ofTokens, List.foldr_cons, ← LineCount.ofTokens, lineBreaks_moveDown,
      Nat.add_comm]
  rw [Pass.lines_ofTokens, Pass.lines_ofTokens, hhalt]
  dsimp only [LineCount.ofFile, LineCount.ofCounts]
  rw [hbreaks]
  cases Pass.haltLine? tokens with
  | none => rfl
  | some line => exact (Nat.add_min_add_right _ _ _)

/-- Markup in front moves an outline down. -/
lemma movedDown_ofTokens_cons {lead : Token} (hlead : lead.kind = .inlineHtml)
    (path path' : Option String) (tokens : List Token) (n : Nat) :
    (Analysis.ofTokens path tokens).outline.MovedDown n
      (Analysis.ofTokens path' (lead :: tokens.map (·.moveDown n))).outline := by
  have hrun := Pass.movedDown_run path path' tokens n
  rw [← Pass.outline_run_cons hlead path' path'] at hrun
  refine ⟨fun kind name => ?_, hrun.functions⟩
  have hentry := hrun.containers kind name
  cases kind <;> exact hentry

/-! ### Streams -/

/-- A stream whose first token stands further down fails at the same token, or gives the same tokens
further down. -/
lemma Token.prepareFrom_moveDown (raws : List RawToken) (i n index line : Nat) :
    (∃ e, prepareFrom index line raws = .error e ∧
        prepareFrom (index + i) (line + n) raws = .error ⟨e.char, e.index + i, e.line + n⟩) ∨
      ∃ ts, prepareFrom index line raws = .ok ts ∧
        prepareFrom (index + i) (line + n) raws = .ok (ts.map (·.moveDown n)) := by
  induction raws generalizing index line with
  | nil => exact .inr ⟨[], rfl, rfl⟩
  | cons r raws ih =>
    cases hkind : r.kind? with
    | none =>
      cases r with
      | named category text => cases hkind
      | punctuation c =>
        exact .inl ⟨⟨c, index, line⟩, prepareFrom_cons_of_unknown hkind,
          prepareFrom_cons_of_unknown hkind⟩
    | some k =>
      have hindex : index + i + 1 = index + 1 + i := Nat.add_right_comm _ _ _
      have hline : line + n + r.newlines = line + r.newlines + n := Nat.add_right_comm _ _ _
      rcases ih (index + 1) (line + r.newlines) with ⟨e, he, he'⟩ | ⟨ts, hts, hts'⟩
      · refine .inl ⟨e, (prepareFrom_cons_eq_error hkind).2 he, ?_⟩
        rw [prepareFrom_cons_eq_error hkind, hindex, hline, he']
      · refine .inr ⟨⟨k, r.text, line⟩ :: ts, prepareFrom_cons_eq_ok.2 ⟨k, ts, hkind, hts, rfl⟩, ?_⟩
        rw [prepareFrom_cons_eq_ok, hindex, hline]
        exact ⟨k, _, hkind, hts', rfl⟩

/-! ### Sources -/

namespace Lexer

/-- The source starts with an open tag. -/
def startsWithTag (source : String) : Bool :=
  (tokenize source).head?.any fun r => isOf .openTag r || isOf .openTagWithEcho r

/-- A cut goes up to the place where it stops. -/
lemma before_append {stop : List Char → Bool} {front back : List Char}
    (hfront : ∀ cs, cs ≠ [] → cs <:+ front → stop (cs ++ back) = false) (hback : stop back = true) :
    Cut.before stop (front ++ back) = ⟨front, back⟩ := by
  induction front with
  | nil =>
    cases back with
    | nil => rfl
    | cons c cs => exact if_pos hback
  | cons c front ih =>
    have hrest := ih fun cs hne hsuffix => hfront cs hne (hsuffix.trans (List.suffix_cons c front))
    rw [List.cons_append, Cut.before, ← List.cons_append,
      hfront (c :: front) (List.cons_ne_nil _ _) List.suffix_rfl, hrest]
    rfl

lemma isSome_openTag?_of_startsWithTag {source : String} (h : startsWithTag source = true) :
    (openTag? source.toList).isSome = true := by
  rw [startsWithTag, tokenize] at h
  cases hsource : source.toList with
  | nil => simp [hsource] at h
  | cons c cs =>
    rw [hsource, tokensFrom_cons, List.head?_cons, Option.any_some] at h
    by_contra hno
    obtain ⟨text, htoken⟩ : ∃ text, (step .markup c cs).token = .named .inlineHtml text := by
      rw [step, stepMarkup, Option.not_isSome_iff_eq_none.1 hno]
      exact ⟨_, rfl⟩
    rw [htoken] at h
    cases h

/-- An open tag is not found in markup without one, nor across the end of the markup: the tag behind
it starts with an angle bracket and not with a question mark. -/
lemma openTag?_append {markup source : List Char} (hne : markup ≠ [])
    (hmarkup : ¬['<', '?'] <:+: markup) (htag : (openTag? source).isSome = true) :
    openTag? (markup ++ source) = none := by
  have hangle : ['<', '?'] <+: source := by
    rw [← List.isPrefixOf_iff_prefix]
    by_contra hno
    rw [openTag?_of_not_isPrefixOf hno] at htag
    cases htag
  obtain ⟨rest, rfl⟩ := hangle
  refine openTag?_of_not_isPrefixOf fun hstarts => ?_
  rw [List.isPrefixOf_iff_prefix] at hstarts
  match markup with
  | [] => exact hne rfl
  | [c] => simp at hstarts
  | c :: d :: cs =>
    have hfront : ['<', '?'] <+: c :: d :: cs :=
      List.prefix_of_prefix_length_le hstarts (List.prefix_append _ _) (by simp)
    exact hmarkup hfront.isInfix

/-- Markup in front of a source is one more token. -/
lemma tokenize_append_markup {markup source : String} (hne : markup ≠ "")
    (hmarkup : ¬['<', '?'] <:+: markup.toList) (hsource : startsWithTag source = true) :
    tokenize (markup ++ source) = .named .inlineHtml markup :: tokenize source := by
  have htag := isSome_openTag?_of_startsWithTag hsource
  have hno : ∀ cs, cs ≠ [] → cs <:+ markup.toList → openTag? (cs ++ source.toList) = none :=
    fun cs hcs hsuffix => openTag?_append hcs (fun h => hmarkup (h.trans hsuffix.isInfix)) htag
  have hne' : markup.toList ≠ [] := by simpa using hne
  have hcut : Cut.before (fun rest => (openTag? rest).isSome) (markup.toList ++ source.toList) =
      ⟨markup.toList, source.toList⟩ :=
    before_append (fun cs hcs hsuffix => by rw [hno cs hcs hsuffix]; rfl) htag
  have hstep : stepMarkup (markup.toList ++ source.toList) =
      ⟨.named .inlineHtml markup, .markup, source.toList⟩ := by
    rw [stepMarkup, hno _ hne' List.suffix_rfl, hcut, Step.read, String.ofList_toList]
  rw [tokenize, String.toList_append, tokenize]
  obtain ⟨c, cs, hcons⟩ := List.exists_cons_of_ne_nil hne'
  rw [hcons, List.cons_append] at hstep ⊢
  rw [tokensFrom_cons, step, hstep]

end Lexer

/-- **Markup in front of a source moves its outline down.**  Let a source start with an open tag,
and put markup without `<?` in front of it.  The analysis fails on both sources, at the same
character and as many lines further down as the markup has line breaks, or on neither; then the
classes, traits, interfaces and functions are the same, except that all of them start and end that
many lines further down, and the file has that many lines more. -/
theorem Analysis.ofSource_leadingMarkup (path : String) {markup source : String}
    (hmarkup : ¬['<', '?'] <:+: markup.toList) (hsource : Lexer.startsWithTag source = true) :
    let n := Text.newlines markup.toList
    (∃ e e', ofSource path source = .error e ∧ ofSource path (markup ++ source) = .error e' ∧
        e'.char = e.char ∧ e'.line = e.line + n) ∨
      ∃ a a', ofSource path source = .ok a ∧ ofSource path (markup ++ source) = .ok a' ∧
        a.outline.MovedDown n a'.outline ∧
        a'.outline.lines.total = a.outline.lines.total + n := by
  intro n
  by_cases hne : markup = ""
  · have hn : n = 0 := by simp [n, hne]
    rw [hne, String.empty_append, hn]
    cases ofSource path source with
    | error e => exact .inl ⟨e, e, rfl, rfl, rfl, rfl⟩
    | ok a => exact .inr ⟨a, a, rfl, rfl, a.outline.movedDown_zero, rfl⟩
  have hraws := Lexer.tokenize_append_markup hne hmarkup hsource
  have hlead : (⟨.inlineHtml, markup, 1⟩ : Token).kind = .inlineHtml := rfl
  rw [ofSource, ofSource, hraws, Token.prepare, Token.prepare]
  rcases Token.prepareFrom_moveDown (Lexer.tokenize source) 1 n 0 1 with
    ⟨e, he, he'⟩ | ⟨ts, hts, hts'⟩
  · have hall : Token.prepareFrom 0 1 (.named .inlineHtml markup :: Lexer.tokenize source) =
        .error ⟨e.char, e.index + 1, e.line + n⟩ := (Token.prepareFrom_cons_eq_error rfl).2 he'
    rw [he, hall]
    exact .inl ⟨e, _, rfl, rfl, rfl, rfl⟩
  · have hall : Token.prepareFrom 0 1 (.named .inlineHtml markup :: Lexer.tokenize source) =
        .ok (⟨.inlineHtml, markup, 1⟩ :: ts.map (·.moveDown n)) :=
      Token.prepareFrom_cons_eq_ok.2 ⟨_, _, rfl, hts', rfl⟩
    rw [hts, hall]
    exact .inr ⟨_, _, rfl, rfl, movedDown_ofTokens_cons hlead _ _ ts n,
      total_lines_cons hlead _ _ ts⟩

/-- Markup that ends in an angle bracket, in front of the one of the open tag. -/
theorem Analysis.ofSource_leadingMarkup_angle :
    let markup := "<p>\n<"
    let source := "<?php\nclass C \x7b function f() \x7b\x7d \x7d\n"
    ¬['<', '?'] <:+: markup.toList ∧ Lexer.startsWithTag source = true ∧
      ∃ a a', ofSource "a.php" source = .ok a ∧ ofSource "a.php" (markup ++ source) = .ok a' ∧
        a.outline.MovedDown 1 a'.outline ∧
        a'.outline.lines.total = a.outline.lines.total + 1 := by
  intro markup source
  have hmarkup : ¬['<', '?'] <:+: markup.toList := by decide +kernel
  have hsource : Lexer.startsWithTag source = true := by decide +kernel
  have hmoved := ofSource_leadingMarkup "a.php" hmarkup hsource
  rw [show Text.newlines markup.toList = 1 by decide +kernel] at hmoved
  refine ⟨hmarkup, hsource, hmoved.resolve_left ?_⟩
  rintro ⟨e, -, he, -⟩
  obtain ⟨ts, hts, -⟩ := Token.exists_prepareFrom (Lexer.tokenize source) (by decide +kernel) 0 1
  rw [ofSource, Token.prepare, hts] at he
  cases he

end PhpOutline
