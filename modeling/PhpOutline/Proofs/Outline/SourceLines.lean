import Mathlib.Algebra.GroupWithZero.Nat
import Mathlib.Data.List.DropRight
import PhpOutline.Proofs.Layout.Stream
import PhpOutline.Proofs.Lexer.Lossless
import PhpOutline.Proofs.Lexer.WordContext
import PhpOutline.Proofs.Outline.Entry

/-!
# Lines and line counters in terms of the source

The lines of tokens and the counts of a file are found by adding up line breaks token by token.  As
the tokens make up the source, these numbers can be read off the source: a token starts on the line
that the text in front of it leads to (`line_of_prepareFrom`), and a file has as many lines as its
text has line breaks (`ofTokens_eq_newlines`), unless the word that halts the compiler comes first.
What is counted as comment lines is told by the categories of the tokens before that word.
-/

namespace PhpOutline

/-! ### What stands in front of a token -/

namespace RawToken

variable {r : RawToken} {raws : List RawToken} {k : Kind}

/-- A comment, of either category. -/
def isComment (r : RawToken) : Bool := Lexer.isOf .comment r || Lexer.isOf .docComment r

/-- The place of the word that halts the compiler, or the end of the stream. -/
def haltIndex (raws : List RawToken) : Nat := raws.findIdx (Lexer.isOf .kwHaltCompiler)

/-- The lines that a comment spans, up to the line breaks at its end. -/
def spannedLines (r : RawToken) : Nat :=
  Text.newlines (r.text.toList.rdropWhile fun c => c == '\r' || c == '\n') + 1

/-- The lines of the comments before the word that halts the compiler. -/
def commentLines (raws : List RawToken) : Nat :=
  (((raws.take (haltIndex raws)).filter isComment).map spannedLines).sum

/-- Only the word that halts the compiler, the word `function`, the comments and the identifiers
have their kinds. -/
lemma isOf_of_kind? {category : Category}
    (hcategory :
      category ∈ [Category.kwHaltCompiler, .kwFunction, .comment, .docComment, .identifier])
    (h : r.kind? = some k) : Lexer.isOf category r = (k == Kind.ofCategory category) := by
  cases r with
  | punctuation c =>
    have hothers : ∀ category ∈
        [Category.kwHaltCompiler, .kwFunction, .comment, .docComment, .identifier],
        (k == Kind.ofCategory category) = false := by
      rw [kind?, Kind.ofPunctuation?.eq_def] at h
      split at h <;> cases h <;> decide
    exact (hothers category hcategory).symm
  | named category' text =>
    cases h
    simp only [List.mem_cons, List.not_mem_nil, or_false] at hcategory
    rcases hcategory with rfl | rfl | rfl | rfl | rfl <;> cases category' <;> rfl

lemma isHalt_of_kind? (h : r.kind? = some k) :
    Lexer.isOf .kwHaltCompiler r = (k == .kwHaltCompiler) := isOf_of_kind? (by simp) h

lemma isComment_of_kind? (h : r.kind? = some k) : r.isComment = k.isComment := by
  rw [isComment, isOf_of_kind? (by simp) h, isOf_of_kind? (by simp) h]
  rfl

lemma spannedLines_eq (r : RawToken) : r.spannedLines = LineCount.ofComment r.text := by
  rw [spannedLines, LineCount.ofComment, List.rdropWhile, Text.newlines, List.count_reverse]
  rfl

lemma haltIndex_cons_of_halt (h : Lexer.isOf .kwHaltCompiler r = true) :
    haltIndex (r :: raws) = 0 := by
  rw [haltIndex, List.findIdx_cons, h, cond_true]

lemma haltIndex_cons (h : Lexer.isOf .kwHaltCompiler r = false) :
    haltIndex (r :: raws) = haltIndex raws + 1 := by
  rw [haltIndex, List.findIdx_cons, h, cond_false, haltIndex]

lemma commentLines_cons_of_halt (h : Lexer.isOf .kwHaltCompiler r = true) :
    commentLines (r :: raws) = 0 := by
  rw [commentLines, haltIndex_cons_of_halt h]
  rfl

lemma commentLines_cons (h : Lexer.isOf .kwHaltCompiler r = false) :
    commentLines (r :: raws) = (if r.isComment then r.spannedLines else 0) + commentLines raws := by
  rw [commentLines, haltIndex_cons h, List.take_succ_cons, List.filter_cons, commentLines]
  split <;> simp

end RawToken

open RawToken

variable {r : RawToken} {raws : List RawToken} {t : Token} {ts : List Token} {index line : Nat}

/-- A token starts on the line that the text in front of it leads to. -/
lemma line_of_prepareFrom {i : Nat} (h : Token.prepareFrom index line raws = .ok ts)
    (ht : ts[i]? = some t) : t.line = line + Text.newlines (concat (raws.take i)).toList := by
  induction raws generalizing index line ts i with
  | nil =>
    cases h
    cases ht
  | cons r raws ih =>
    obtain ⟨k, ts', -, hrest, rfl⟩ := Token.prepareFrom_cons_eq_ok.1 h
    cases i with
    | zero =>
      cases ht
      rfl
    | succ i =>
      rw [ih hrest ht, List.take_succ_cons, concat_cons, String.toList_append,
        Text.newlines_append, RawToken.newlines]
      omega

/-- A prepared token has the text of the raw token in its place. -/
lemma getElem?_of_spells {i : Nat} (h : Spells ts raws) (ht : ts[i]? = some t) :
    ∃ r, raws[i]? = some r ∧ r.text = t.text := by
  have htexts := congrArg (fun texts => texts[i]?) h.map_text
  rw [List.getElem?_map, List.getElem?_map, ht] at htexts
  exact Option.map_eq_some_iff.1 htexts.symm

/-! ### Counting -/

/-- The line breaks of tokens are those of their texts run together. -/
lemma ofTokens_eq_newlines (ts : List Token) :
    LineCount.ofTokens ts = Text.newlines (String.join (ts.map (·.text))).toList := by
  induction ts with
  | nil => rfl
  | cons t ts ih =>
    rw [List.map_cons, String.join_cons, String.toList_append, Text.newlines_append, ← ih]
    rfl

/-- The pass stops at the word that halts the compiler. -/
lemma haltToken?_of_spells (h : Spells ts raws) :
    ts.find? (·.kind == .kwHaltCompiler) = ts[haltIndex raws]? := by
  induction raws generalizing ts with
  | nil =>
    obtain rfl := spells_nil.1 h
    rfl
  | cons r raws ih =>
    obtain ⟨t, ts, rfl, hkind, -, hrest⟩ := spells_cons.1 h
    have hhalt := isHalt_of_kind? hkind
    rw [List.find?_cons]
    cases heq : t.kind == .kwHaltCompiler with
    | true => rw [haltIndex_cons_of_halt (hhalt.trans heq), List.getElem?_cons_zero]
    | false => rw [haltIndex_cons (hhalt.trans heq), List.getElem?_cons_succ, ih hrest]

/-- The comment lines of the tokens that the pass reaches. -/
lemma commentLinesOf_reached_of_spells (h : Spells ts raws) :
    Declaration.commentLinesOf (Pass.reached ts) = commentLines raws := by
  induction raws generalizing ts with
  | nil =>
    obtain rfl := spells_nil.1 h
    rfl
  | cons r raws ih =>
    obtain ⟨t, ts, rfl, hkind, htext, hrest⟩ := spells_cons.1 h
    have hhalt := isHalt_of_kind? hkind
    rw [Pass.reached]
    cases heq : t.kind == .kwHaltCompiler with
    | true =>
      rw [List.takeWhile_cons_of_neg (by simpa using heq),
        commentLines_cons_of_halt (hhalt.trans heq)]
      rfl
    | false =>
      rw [List.takeWhile_cons_of_pos (by simpa using heq), commentLines_cons (hhalt.trans heq),
        Declaration.commentLinesOf, isComment_of_kind? hkind, spannedLines_eq, htext, ← ih hrest]
      rfl

/-- The lines of a file, in terms of its stream. -/
lemma lines_of_spells (path : Option String) (h : Spells ts raws) :
    (Analysis.ofTokens path ts).outline.lines =
      let breaks := Text.newlines (concat raws).toList
      .ofCounts (ts[haltIndex raws]?.elim breaks fun halt => min breaks halt.line)
        (commentLines raws) := by
  have hhalt : Pass.haltLine? ts = ts[haltIndex raws]?.map (·.line) :=
    congrArg (Option.map Token.line) (haltToken?_of_spells h)
  rw [Pass.lines_ofTokens, LineCount.ofFile, ofTokens_eq_newlines, h.join_text,
    commentLinesOf_reached_of_spells h, hhalt]
  cases ts[haltIndex raws]? <;> rfl

/-- The outline of a source is that of its tokens. -/
lemma Analysis.exists_ofSource (path : String) {source : String}
    (h : Token.prepare (Lexer.tokenize source) = .ok ts) :
    ∃ a, ofSource path source = .ok a ∧ a.outline = (ofTokens (some path) ts).outline := by
  rw [ofSource, h]
  exact ⟨_, rfl, rfl⟩

/-- **Lines refer to the source.**  The tokens of a source that can be prepared are its raw tokens,
each on the line that the source leads to in front of it.  The lines of the file are the line breaks
of the source, cut off at the line of the word that halts the compiler, and those of comments are
what the comments before that word span, as far as the file has lines. -/
theorem Analysis.lines_of_source (path : String) {source : String} {tokens : List Token}
    (h : Token.prepare (Lexer.tokenize source) = .ok tokens) :
    let raws := Lexer.tokenize source
    tokens.map (·.text) = raws.map RawToken.text ∧
    (∀ i t, tokens[i]? = some t →
      let front := concat (raws.take i)
      front ++ t.text ++ concat (raws.drop (i + 1)) = source ∧
        t.line = 1 + Text.newlines front.toList) ∧
    (tokens.Pairwise fun t u => t.line ≤ u.line) ∧
    ∃ a, Analysis.ofSource path source = .ok a ∧
      let lines := a.outline.lines
      let breaks := Text.newlines source.toList
      lines.total = tokens[haltIndex raws]?.elim breaks (fun halt => min breaks halt.line) ∧
        lines.comment = min lines.total (commentLines raws) ∧
        lines.code + lines.comment = lines.total := by
  have hspells := spells_of_prepareFrom h
  have hsource := Lexer.concat_tokenize source
  refine ⟨hspells.map_text, ?_, Token.pairwise_line_of_prepareFrom h, ?_⟩
  · intro i t ht
    obtain ⟨r, hr, htext⟩ := getElem?_of_spells hspells ht
    obtain ⟨hi, rfl⟩ := List.getElem?_eq_some_iff.1 hr
    refine ⟨?_, line_of_prepareFrom h ht⟩
    rw [← htext]
    exact Lexer.concat_split (by simp)
  · obtain ⟨a, ha, houtline⟩ := exists_ofSource path h
    have hlines := lines_of_spells (some path) hspells
    rw [hsource, ← houtline] at hlines
    refine ⟨a, ha, congrArg LineCount.total hlines, ?_, Nat.sub_add_cancel a.outline.lines.3⟩
    rw [hlines]
    exact min_comm _ _

/-- A comment of two lines, one with a line break behind it, a heredoc with the text of a comment,
and a comment behind the word that halts the compiler. -/
def haltingSource : String :=
  "<?php\n/* one\n   two */\n# three\n$x = <<<EOT\n/* four */\nEOT;\n__halt_compiler();\n// five\n"

/-- The word that halts the compiler stands on line 8 of 9 lines, behind three comment lines. -/
theorem Analysis.lines_of_haltingSource :
    ∃ tokens a, Token.prepare (Lexer.tokenize haltingSource) = .ok tokens ∧
      (tokens[haltIndex (Lexer.tokenize haltingSource)]?.map (·.line)) = some 8 ∧
      ofSource "a.php" haltingSource = .ok a ∧
      a.outline.lines.total = 8 ∧ a.outline.lines.comment = 3 ∧ a.outline.lines.code = 5 := by
  set raws := Lexer.tokenize haltingSource with hraws
  obtain ⟨hknown, hbreaks, hcomments, hplace⟩ :
      (∀ r ∈ raws, r.kind?.isSome = true) ∧
        Text.newlines (concat (raws.take (haltIndex raws))).toList = 7 ∧
        commentLines raws = 3 ∧ haltIndex raws < raws.length := by decide +kernel
  obtain ⟨tokens, hts, hspells⟩ := Token.exists_prepareFrom raws hknown 0 1
  have hbound : haltIndex raws < tokens.length := hspells.length_eq ▸ hplace
  have hhalt := List.getElem?_eq_getElem hbound
  obtain ⟨-, hplaces, -, a, ha, htotal, hcomment, hsum⟩ := lines_of_source "a.php" hts
  have hline : tokens[haltIndex raws].line = 8 := by rw [(hplaces _ _ hhalt).2, ← hraws, hbreaks]
  rw [← hraws, hhalt, Option.elim_some, hline] at htotal
  have height : a.outline.lines.total = 8 := htotal.trans (by decide +kernel)
  have hthree : a.outline.lines.comment = 3 := by rw [hcomment, height, ← hraws, hcomments]; rfl
  refine ⟨tokens, a, hts, ?_, ha, height, hthree, ?_⟩
  · rw [hhalt, Option.map_some, hline]
  · omega

end PhpOutline
