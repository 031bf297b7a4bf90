import Mathlib.Data.List.Forall2
import PhpOutline.Proofs.Layout.Outline
import PhpOutline.Proofs.Lexer.StringEdit

/-!
# Strings and the outline

Nothing in an outline is read off the inside of a string, except for a signature that has the string
in it.  Tokens that differ only in the texts of strings (`SameButStrings`) have the same layout, so
that the same tokens declare the same things; lines, doc comments and line counts agree as well.

So an edit inside a string of a source, which changes no other token, shows in the outline in no
other place than the signatures of the functions whose head has the string in it
(`sameButHeads_of_string_edit`).
-/

namespace PhpOutline

open Declaration

/-- The tokens agree in all but the text of a string. -/
structure Token.SameButString (t u : Token) : Prop where
  kind : t.kind = u.kind
  line : t.line = u.line
  newlines : t.newlines = u.newlines
  text : t.kind ≠ .constantEncapsedString → t.text = u.text

lemma Token.SameButString.refl (t : Token) : t.SameButString t := ⟨rfl, rfl, rfl, fun _ => rfl⟩

/-- A name is no string. -/
lemma Token.SameButString.agrees {t u : Token} (h : t.SameButString u) : t.Agrees u := by
  refine ⟨h.kind, fun hpart => h.text fun hkind => ?_⟩
  rw [hkind] at hpart
  cases hpart

/-- A function without its signature. -/
def FunctionSymbol.unsigned (f : FunctionSymbol) : FunctionSymbol := { f with signature := "" }

/-- The lists have the same tokens, up to the texts of strings. -/
abbrev SameButStrings : List Token → List Token → Prop := List.Forall₂ Token.SameButString

variable {tokens tokens' ts us : List Token} {i k d : Nat}

/-! ### Layout -/

namespace SameButStrings

lemma map_line_eq (h : SameButStrings ts us) : ts.map (·.line) = us.map (·.line) := by
  induction h with
  | nil => rfl
  | cons same _ ih => rw [List.map_cons, List.map_cons, same.line, ih]

lemma agreeInPlace (h : SameButStrings ts us) : AgreeInPlace ts us :=
  h.imp fun _ _ same => same.agrees

/-! ### Readings -/

/-- A doc comment is no string. -/
lemma docblock?_eq (h : SameButStrings tokens tokens') (hk : Twin tokens tokens' k k) :
    docblock? tokens k = docblock? tokens' k := by
  obtain ⟨t, u, ht, hu, -⟩ := hk.agree
  refine Declaration.docblock?_eq (h.imp fun t u same => ?_) ht hu
  exact ⟨same.kind, same.newlines, fun hdoc => same.text (by simp [hdoc])⟩

/-- A function is the same, up to its signature. -/
lemma unsigned_functionAt_eq (h : SameButStrings tokens tokens') (hk : Twin tokens tokens' k k) :
    (functionAt tokens k).unsigned = (functionAt tokens' k).unsigned := by
  rw [h.agreeInPlace.functionAt_eq h.map_line_eq hk (h.docblock?_eq hk)]
  rfl

/-! ### Line counts -/

lemma reached (h : SameButStrings ts us) : SameButStrings (Pass.reached ts) (Pass.reached us) := by
  induction h with
  | nil => exact .nil
  | @cons t u ts us same rest ih =>
    rw [Pass.reached, Pass.reached, List.takeWhile_cons, List.takeWhile_cons, same.kind]
    split
    · exact .cons same ih
    · exact .nil

/-- A string is no comment. -/
lemma commentLinesOf_eq (h : SameButStrings ts us) : commentLinesOf ts = commentLinesOf us := by
  induction h with
  | nil => rfl
  | @cons t u ts us same rest ih =>
    have hcount : (if t.kind.isComment then LineCount.ofComment t.text else 0) =
        if u.kind.isComment then LineCount.ofComment u.text else 0 := by
      by_cases hstring : t.kind = .constantEncapsedString
      · rw [← same.kind, hstring]
        rfl
      · rw [← same.kind, same.text hstring]
    rw [commentLinesOf, commentLinesOf, hcount, ih]

lemma haltLine?_eq (h : SameButStrings ts us) : Pass.haltLine? ts = Pass.haltLine? us := by
  induction h with
  | nil => rfl
  | @cons t u ts us same rest ih =>
    rw [Pass.haltLine?, Pass.haltLine?, List.find?_cons, List.find?_cons, same.kind]
    split
    · rw [Option.map_some, Option.map_some, same.line]
    · exact ih

lemma lineBreaks_eq (h : SameButStrings ts us) : LineCount.ofTokens ts = LineCount.ofTokens us := by
  induction h with
  | nil => rfl
  | @cons t u ts us same rest ih =>
    rw [LineCount.ofTokens, List.foldr_cons, same.newlines]
    exact congrArg (u.newlines + ·) ih

end SameButStrings

/-! ### Signatures -/

/-- The token with index `i` stands in the head of the function whose keyword has index `k`: behind
the name, or behind the keyword if there is no name, and before the body or the semicolon. -/
def Declaration.isInHead (tokens : List Token) (k i : Nat) : Bool :=
  let start := ((functionName? tokens k).map (·.2)).getD k
  decide (start < i) &&
    ((tokens.take i).drop (start + 1)).all fun t => t.kind != .openCurly && t.kind != .semicolon

/-- The lists differ in the string with the given index only. -/
inductive EditedAt : List Token → List Token → Nat → Prop
  | edit {t u : Token} (front back : List Token) (same : t.SameButString u) :
      EditedAt (front ++ t :: back) (front ++ u :: back) front.length

lemma EditedAt.cons (h : EditedAt ts us i) (t : Token) : EditedAt (t :: ts) (t :: us) (i + 1) := by
  obtain ⟨front, back, same⟩ := h
  exact .edit (t :: front) back same

lemma EditedAt.sameButStrings (h : EditedAt tokens tokens' i) : SameButStrings tokens tokens' := by
  obtain ⟨front, back, same⟩ := h
  have hrefl : ∀ ts, SameButStrings ts ts := fun ts => List.forall₂_same.2 fun t _ => .refl t
  exact List.rel_append (hrefl front) (.cons same (hrefl back))

/-- What comes after the end of the head is not in the signature. -/
lemma Declaration.signature_append {front : List Token} {start : Nat}
    (hstart : start < front.length)
    (h : ((front.drop (start + 1)).all fun t => t.kind != .openCurly && t.kind != .semicolon) =
      false) (ts us : List Token) :
    signature (front ++ ts) start = signature (front ++ us) start := by
  have hhead : ∀ ts : List Token,
      ((front ++ ts).drop (start + 1)).takeWhile
          (fun t => t.kind != .openCurly && t.kind != .semicolon) =
        (front.drop (start + 1)).takeWhile
          fun t => t.kind != .openCurly && t.kind != .semicolon := by
    intro ts
    rw [List.drop_append_of_le_length hstart, List.takeWhile_append, if_neg]
    intro hlength
    have hall := List.takeWhile_eq_self_iff.1 ((List.takeWhile_sublist _).eq_of_length hlength)
    rw [List.all_eq_true.2 hall] at h
    cases h
  rw [signature, signature, hhead, hhead]

/-- A token before the head is not in the signature. -/
lemma Declaration.signature_of_le {front back : List Token} {start : Nat}
    (h : front.length ≤ start) (t u : Token) :
    signature (front ++ t :: back) start = signature (front ++ u :: back) start := by
  have hdrop : ∀ t : Token, (front ++ t :: back).drop (start + 1) =
      back.drop (start - front.length) := by
    intro t
    rw [List.drop_append, List.drop_eq_nil_of_le (by omega), List.nil_append,
      Nat.succ_sub h, List.drop_succ_cons]
  rw [signature, signature, hdrop, hdrop]

/-- A signature depends on the tokens in the head only. -/
lemma EditedAt.signature_functionAt_eq (h : EditedAt tokens tokens' i)
    (hk : Twin tokens tokens' k k) (hhead : isInHead tokens k i = false) :
    (functionAt tokens k).signature = (functionAt tokens' k).signature := by
  have hsame := h.sameButStrings
  have hagree := hsame.agreeInPlace
  have hname := hagree.eq_of_sameName (hk.functionName? hagree.relaid.aligned)
  rw [isInHead] at hhead
  dsimp only [functionAt, function]
  rw [← hname]
  generalize ((functionName? tokens k).map (·.2)).getD k = start at hhead ⊢
  obtain ⟨front, back, same⟩ := h
  rw [List.take_left] at hhead
  rcases Nat.lt_or_ge start front.length with hlt | hle
  · rw [decide_eq_true hlt, Bool.true_and] at hhead
    exact signature_append hlt hhead _ _
  · exact signature_of_le hle _ _

/-! ### Outlines that differ in signatures -/

/-- The entries that a declaration has made in two outlines: without a declaration there is none in
either, and otherwise both are there and agree as far as the index of the declaration tells. -/
inductive SameEntry {α : Type} (R : Nat → α → α → Prop) : Option Nat → Option α → Option α → Prop
  | none : SameEntry R none none none
  | some {k : Nat} {a b : α} (rel : R k a b) : SameEntry R (some k) (some a) (some b)

/-- The first function is the one whose keyword has index `k`, and the functions agree, in their
signatures as well unless the token with index `i` stands in the head of that very function. -/
structure FunctionSymbol.SameButHead (tokens : List Token) (i k : Nat) (f g : FunctionSymbol) :
    Prop where
  declared : f = functionAt tokens k
  unsigned : f.unsigned = g.unsigned
  signature : isInHead tokens k i = false → f.signature = g.signature

/-- The first container is the one whose keyword has index `d`, and the containers agree.  A method
is told by the last keyword that is filed under its name. -/
structure Container.SameButHeads (tokens : List Token) (i : Nat) (kind : ContainerKind)
    (name : String) (d : Nat) (c c' : Container) : Prop where
  declared : c.head = containerAt tokens d
  head : c.head = c'.head
  methods : ∀ m : String, SameEntry (FunctionSymbol.SameButHead tokens i)
    (lastBelow? (Pass.reached tokens).length (declaresMethod tokens kind name d m))
    c.methods[m]? c'.methods[m]?

/-- The outlines have the same containers, the same functions and the same line counts, except for
the signatures of the functions that have the token with index `i` in their own heads. -/
structure Outline.SameButHeads (tokens : List Token) (i : Nat) (o p : Outline) : Prop where
  containers : ∀ (kind : ContainerKind) (name : String),
    SameEntry (Container.SameButHeads tokens i kind name)
      (lastBelow? (Pass.reached tokens).length (declares tokens kind name))
      (o.ofKind kind)[name]? (p.ofKind kind)[name]?
  functions : ∀ key : String, SameEntry (FunctionSymbol.SameButHead tokens i)
    (lastBelow? (Pass.reached tokens).length (declaresFree tokens key))
    o.functions[key]? p.functions[key]?
  lines : o.lines = p.lines

/-- A function whose head does not have the token in it is the same in both outlines. -/
lemma FunctionSymbol.SameButHead.eq {f g : FunctionSymbol} (h : f.SameButHead tokens i k g)
    (hhead : isInHead tokens k i = false) : f = g :=
  calc
    f = { f.unsigned with signature := f.signature } := rfl
    _ = { g.unsigned with signature := g.signature } := by rw [h.unsigned, h.signature hhead]
    _ = g := rfl

/-- The last indices that satisfy conditions which agree at twins are the same. -/
lemma SamePick.lastBelow?_eq {p p' : Nat → Bool} (hpick : SamePick tokens tokens' p p')
    (h : SameButStrings tokens tokens') :
    lastBelow? (Pass.reached tokens).length p = lastBelow? (Pass.reached tokens').length p' := by
  have hlast := hpick.lastBelow?_twin h.agreeInPlace.relaid.aligned
  generalize lastBelow? (Pass.reached tokens).length p = k,
    lastBelow? (Pass.reached tokens').length p' = k' at hlast ⊢
  cases hlast with
  | none => rfl
  | some htwin => exact congrArg some (h.agreeInPlace.eq_of_twin htwin)

namespace EditedAt

/-- The functions that the keyword with the same index declares. -/
lemma functionAt_sameButHead (h : EditedAt tokens tokens' i) (hk : Twin tokens tokens' k k) :
    (functionAt tokens k).SameButHead tokens i k (functionAt tokens' k) where
  declared := rfl
  unsigned := h.sameButStrings.unsigned_functionAt_eq hk
  signature := h.signature_functionAt_eq hk

/-- The last functions that are filed under conditions which agree at twins. -/
lemma filed_sameEntry {p p' : Nat → Bool} (h : EditedAt tokens tokens' i)
    (hpick : SamePick tokens tokens' p p') :
    SameEntry (FunctionSymbol.SameButHead tokens i) (lastBelow? (Pass.reached tokens).length p)
      ((lastBelow? (Pass.reached tokens).length p).map (functionAt tokens))
      ((lastBelow? (Pass.reached tokens').length p').map (functionAt tokens')) := by
  rw [← hpick.lastBelow?_eq h.sameButStrings]
  cases hlast : lastBelow? (Pass.reached tokens).length p with
  | none => exact .none
  | some k =>
    obtain ⟨t, ht, hword⟩ := hpick.left k (lastBelow?_eq_some.1 hlast).2.1
    exact .some (h.functionAt_sameButHead (h.sameButStrings.agreeInPlace.twin ht hword))

lemma containers_sameEntry (h : EditedAt tokens tokens' i) (path path' : Option String)
    (kind : ContainerKind) (name : String) :
    SameEntry (Container.SameButHeads tokens i kind name)
      (lastBelow? (Pass.reached tokens).length (declares tokens kind name))
      ((Analysis.ofTokens path tokens).outline.ofKind kind)[name]?
      ((Analysis.ofTokens path' tokens').outline.ofKind kind)[name]? := by
  have hsame := h.sameButStrings
  have hagree := hsame.agreeInPlace
  have halign := hagree.relaid.aligned
  have hpick := samePick_declares halign kind name
  have hentry := Pass.entryAgrees_ofTokens path tokens kind name
  have hentry' := Pass.entryAgrees_ofTokens path' tokens' kind name
  rw [EntryAgrees] at hentry hentry'
  -- the declaration that made the entry has the same index in both lists
  rw [← hpick.lastBelow?_eq hsame] at hentry'
  cases hlast : lastBelow? (Pass.reached tokens).length (declares tokens kind name) with
  | none =>
    rw [hlast] at hentry hentry'
    rw [hentry, hentry']
    exact .none
  | some d =>
    rw [hlast] at hentry hentry'
    obtain ⟨c, hc, hhead, hmethods⟩ := hentry
    obtain ⟨c', hc', hhead', hmethods'⟩ := hentry'
    have hd := (lastBelow?_eq_some.1 hlast).2.1
    obtain ⟨t, ht, hword⟩ := hpick.left d hd
    have htwin := hagree.twin ht hword
    have hcontainer : isContainer tokens d = true := by
      rw [isContainer, declares_eq_true.1 hd]
      rfl
    rw [hc, hc']
    refine .some ⟨hhead, ?_, fun m => ?_⟩
    · have hdoc := hsame.docblock?_eq htwin
      rw [hhead, hhead', hagree.containerAt_eq hsame.map_line_eq htwin hcontainer hdoc]
    · rw [hmethods, hmethods']
      exact h.filed_sameEntry (samePick_declaresMethod halign htwin kind name m)

lemma functions_sameEntry (h : EditedAt tokens tokens' i) (path path' : Option String)
    (key : String) :
    SameEntry (FunctionSymbol.SameButHead tokens i)
      (lastBelow? (Pass.reached tokens).length (declaresFree tokens key))
      (Analysis.ofTokens path tokens).outline.functions[key]?
      (Analysis.ofTokens path' tokens').outline.functions[key]? := by
  rw [Pass.getElem?_functions_ofTokens, Pass.getElem?_functions_ofTokens]
  exact h.filed_sameEntry (samePick_declaresFree h.sameButStrings.agreeInPlace.relaid key)

lemma lines_eq (h : EditedAt tokens tokens' i) (path path' : Option String) :
    (Analysis.ofTokens path tokens).outline.lines =
      (Analysis.ofTokens path' tokens').outline.lines := by
  have hsame := h.sameButStrings
  rw [Pass.lines_ofTokens, Pass.lines_ofTokens, hsame.reached.commentLinesOf_eq,
    hsame.haltLine?_eq, LineCount.ofFile, LineCount.ofFile, hsame.lineBreaks_eq]

/-- An edit inside a string shows in the signatures that have the string in them, and nowhere
else. -/
lemma outline_sameButHeads (h : EditedAt tokens tokens' i) (path path' : Option String) :
    (Analysis.ofTokens path tokens).outline.SameButHeads tokens i
      (Analysis.ofTokens path' tokens').outline :=
  ⟨h.containers_sameEntry path path', h.functions_sameEntry path path', h.lines_eq path path'⟩

end EditedAt

/-! ### Sources -/

section Sources

variable {front back : List RawToken} {quote : Char} {content content' : List Char}

lemma newlines_stringToken (quote : Char) (content : List Char) :
    (Lexer.stringToken quote content).newlines =
      Text.newlines [quote] + Text.newlines content + Text.newlines [quote] := by
  rw [RawToken.newlines, Lexer.toList_text_stringToken, ← List.singleton_append,
    Text.newlines_append, Text.newlines_append, Nat.add_assoc]

/-- Streams that differ in the content of a string fail alike, or give tokens that differ in that
string only. -/
lemma prepareFrom_string_edit (h : Text.newlines content' = Text.newlines content)
    (index line : Nat) :
    (∃ e, Token.prepareFrom index line (front ++ Lexer.stringToken quote content :: back) =
          .error e ∧
        Token.prepareFrom index line (front ++ Lexer.stringToken quote content' :: back) =
          .error e) ∨
      ∃ ts us, Token.prepareFrom index line (front ++ Lexer.stringToken quote content :: back) =
          .ok ts ∧
        Token.prepareFrom index line (front ++ Lexer.stringToken quote content' :: back) =
          .ok us ∧ EditedAt ts us front.length := by
  induction front generalizing index line with
  | nil =>
    have hnewlines : (Lexer.stringToken quote content').newlines =
        (Lexer.stringToken quote content).newlines := by
      rw [newlines_stringToken, newlines_stringToken, h]
    rw [List.nil_append, List.nil_append, Token.prepareFrom, Token.prepareFrom, hnewlines]
    cases Token.prepareFrom (index + 1) (line + (Lexer.stringToken quote content).newlines)
      back with
    | error e => exact .inl ⟨e, rfl, rfl⟩
    | ok ts =>
      refine .inr ⟨_, _, rfl, rfl, .edit [] ts ⟨rfl, rfl, hnewlines.symm, fun hkind => ?_⟩⟩
      exact absurd rfl hkind
  | cons r front ih =>
    rw [List.cons_append, List.cons_append, Token.prepareFrom, Token.prepareFrom]
    cases Token.ofRaw index line r with
    | error e => exact .inl ⟨e, rfl, rfl⟩
    | ok t =>
      rcases ih (index + 1) (line + r.newlines) with ⟨e, he, he'⟩ | ⟨ts, us, hts, hus, hedit⟩
      · exact .inl ⟨e, by rw [he]; rfl, by rw [he']; rfl⟩
      · exact .inr ⟨t :: ts, t :: us, by rw [hts]; rfl, by rw [hus]; rfl, hedit.cons t⟩

end Sources

/-- **What is in a string is not in the outline.**  Let a string of a source be closed, and let it
not stand behind three angle brackets.  If its content is exchanged for another with as many line
breaks, the tokens of the source are the same except for this one, and the analysis fails in the
same way or gives the same outline, except for the signatures of the functions that have the string
in their heads. -/
theorem Analysis.sameButHeads_of_string_edit (path : String) (content' : List Char)
    {source : String} {front back : List RawToken} {quote : Char} {content : List Char}
    (hsplit : Lexer.tokenize source = front ++ Lexer.stringToken quote content :: back)
    (hangles : Lexer.endsWithAngles (RawToken.concat front).toList = false)
    (hcontent : Lexer.isContent quote content' = true)
    (hnewlines : Text.newlines content' = Text.newlines content) :
    let edited := RawToken.concat (front ++ Lexer.stringToken quote content' :: back)
    Lexer.tokenize edited = front ++ Lexer.stringToken quote content' :: back ∧
      ((∃ e, ofSource path source = .error e ∧ ofSource path edited = .error e) ∨
        ∃ tokens a a', Token.prepare (Lexer.tokenize source) = .ok tokens ∧
          ofSource path source = .ok a ∧ ofSource path edited = .ok a' ∧
          a.outline.SameButHeads tokens front.length a'.outline) := by
  intro edited
  have hedited : Lexer.tokenize edited = front ++ Lexer.stringToken quote content' :: back :=
    Lexer.tokenize_edit hsplit hangles hcontent
  refine ⟨hedited, ?_⟩
  rw [ofSource, ofSource, hedited, hsplit]
  rcases prepareFrom_string_edit hnewlines 0 1 with ⟨e, he, he'⟩ | ⟨ts, us, hts, hus, hedit⟩
  · rw [Token.prepare, Token.prepare, he, he']
    exact .inl ⟨e, rfl, rfl⟩
  · rw [Token.prepare, Token.prepare, hts, hus]
    exact .inr ⟨ts, _, _, rfl, rfl, rfl, hedit.outline_sameButHeads (some path) (some path)⟩

/-- Two classes with the same method, and an edit in the head of the first one: brackets, a
semicolon and an escaped quote in the default value of a parameter.  The method of the second class,
whose head has a string of its own, stays the same. -/
theorem Analysis.sameButHeads_default_value :
    let front : List RawToken :=
      [.named .openTag "<?php ", .named .kwClass "class", .named .whitespace " ",
        .named .identifier "A", .punctuation '{', .named .kwFunction "function",
        .named .whitespace " ", .named .identifier "f", .punctuation '(',
        .named .variableName "$a", .punctuation '=']
    let back : List RawToken :=
      [.punctuation ')', .punctuation '{', .punctuation '}', .punctuation '}',
        .named .kwClass "class", .named .whitespace " ", .named .identifier "B", .punctuation '{',
        .named .kwFunction "function", .named .whitespace " ", .named .identifier "f",
        .punctuation '(', .named .variableName "$a", .punctuation '=',
        Lexer.stringToken '\'' ['{'], .punctuation ')', .punctuation '{', .punctuation '}',
        .punctuation '}']
    let source := "<?php class A\x7bfunction f($a='\x7b')\x7b\x7d\x7d" ++
      "class B\x7bfunction f($a='\x7b')\x7b\x7d\x7d"
    let edited := "<?php class A\x7bfunction f($a='\x7d;\\'')\x7b\x7d\x7d" ++
      "class B\x7bfunction f($a='\x7b')\x7b\x7d\x7d"
    Lexer.tokenize source = front ++ Lexer.stringToken '\'' ['{'] :: back ∧
      Lexer.tokenize edited = front ++ Lexer.stringToken '\'' ['}', ';', '\\', '\''] :: back ∧
      ∃ tokens a a', Token.prepare (Lexer.tokenize source) = .ok tokens ∧
        ofSource "a.php" source = .ok a ∧ ofSource "a.php" edited = .ok a' ∧
        a.outline.SameButHeads tokens front.length a'.outline ∧
        ∃ c c' f, (a.outline.ofKind .classDecl)["B"]? = some c ∧
          (a'.outline.ofKind .classDecl)["B"]? = some c' ∧
          c.methods["f"]? = some f ∧ c'.methods["f"]? = some f := by
  intro front back source edited
  have hsplit : Lexer.tokenize source = front ++ Lexer.stringToken '\'' ['{'] :: back := by
    decide +kernel
  have hedited : RawToken.concat
      (front ++ Lexer.stringToken '\'' ['}', ';', '\\', '\''] :: back) = edited := by
    decide +kernel
  have hedit := sameButHeads_of_string_edit "a.php" ['}', ';', '\\', '\''] hsplit
    (by decide +kernel) (by decide) (by decide)
  rw [hedited] at hedit
  obtain ⟨htokenize, ⟨e, he, -⟩ | ⟨tokens, a, a', hts, ha, ha', hsame⟩⟩ := hedit
  · obtain ⟨ts, hts, -⟩ :=
      Token.exists_prepareFrom (Lexer.tokenize source) (by decide +kernel) 0 1
    rw [ofSource, Token.prepare, hts] at he
    cases he
  · refine ⟨hsplit, htokenize, tokens, a, a', hts, ha, ha', hsame, ?_⟩
    -- the keywords of the second class and of its method
    have hkeywords : (Token.prepare (Lexer.tokenize source)).toOption.map (fun ts =>
        (lastBelow? (Pass.reached ts).length (declares ts .classDecl "B"),
          lastBelow? (Pass.reached ts).length (declaresMethod ts .classDecl "B" 16 "f"),
          isInHead ts 20 front.length)) = some (some 16, some 20, false) := by
      decide +kernel
    rw [hts] at hkeywords
    simp only [Except.toOption, Option.map_some, Option.some.injEq, Prod.mk.injEq] at hkeywords
    obtain ⟨hclass, hmethod, hhead⟩ := hkeywords
    have hentry := hsame.containers .classDecl "B"
    rw [hclass] at hentry
    generalize hc : (a.outline.ofKind .classDecl)["B"]? = c at hentry
    generalize hc' : (a'.outline.ofKind .classDecl)["B"]? = c' at hentry
    obtain _ | @⟨_, c, c', hcontainer⟩ := hentry
    have hfunction := hcontainer.methods "f"
    rw [hmethod] at hfunction
    generalize hf : c.methods["f"]? = f at hfunction
    generalize hf' : c'.methods["f"]? = f' at hfunction
    obtain _ | @⟨_, f, f', hrel⟩ := hfunction
    obtain rfl := hrel.eq hhead
    exact ⟨c, c', f, rfl, rfl, hf, hf'⟩

end PhpOutline
