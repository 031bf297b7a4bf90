import PhpOutline.Proofs.Lexer.FencedRun
import PhpOutline.Proofs.Lexer.Lossless

/-!
# The inside of a string

What stands between the quotes of a string changes no other token.  A run of the lexer that comes to
the opening quote in code never looked behind it, so that on another source which agrees up to that
quote it reads the same tokens (`Reads.splice`); behind the closing quote the sources agree again
(`tokenize_edit`).

The quote must not stand behind three angle brackets, where it may open the label of a heredoc.
-/

namespace PhpOutline.Lexer

/-- The token of a string that is closed. -/
def stringToken (quote : Char) (content : List Char) : RawToken :=
  .named .constantEncapsedString (String.ofList (quote :: (content ++ [quote])))

/-- The characters end with three angle brackets and blanks. -/
def endsWithAngles (cs : List Char) : Bool :=
  ['<', '<', '<'].isPrefixOf (cs.reverse.dropWhile isBlank)

/-- Strings are read in code, at a quote. -/
lemma exists_code_of_isOf_string {mode : Mode} {c : Char} {cs : List Char}
    (h : isOf .constantEncapsedString (step mode c cs).token = true) :
    (∃ context, mode = .code context) ∧ isQuote c = true := by
  obtain ⟨context, rfl⟩ := exists_code_of_isOf (by decide) h
  exact ⟨⟨context, rfl⟩, (first_of_isOf_stepCode h).1 rfl⟩

lemma endsWithAngles_append {before blanks : List Char} (h : ∀ a ∈ blanks, isBlank a = true) :
    endsWithAngles (before ++ '<' :: '<' :: '<' :: blanks) = true := by
  have hreverse : (before ++ '<' :: '<' :: '<' :: blanks).reverse =
      blanks.reverse ++ '<' :: '<' :: '<' :: before.reverse := by simp
  rw [endsWithAngles, hreverse,
    List.dropWhile_append_of_pos fun a ha => h a (List.mem_reverse.1 ha)]
  rfl

/-- A run up to a quote that does not stand behind three angle brackets does not depend on what
follows the quote. -/
lemma Reads.splice {q : Char} {u x : List Char} {mode mode' : Mode} {front : List RawToken}
    (hq : isQuote q = true) (h : Reads mode (u ++ q :: x) front mode' (q :: x))
    (hmode : LabelFree q mode) (hangles : endsWithAngles u = false) (y : List Char) :
    Reads mode (u ++ q :: y) front mode' (q :: y) := by
  refine h.fenced (.quote hq x y) hmode (.append u) fun _ => ?_
  rintro before after hsplit ⟨blanks, hblanks, rfl⟩
  have hu : u = before ++ '<' :: '<' :: '<' :: blanks := by
    refine List.append_cancel_right (hsplit.trans ?_)
    rw [List.append_assoc]
    rfl
  rw [hu, endsWithAngles_append hblanks] at hangles
  cases hangles

lemma toList_text_stringToken (quote : Char) (content : List Char) :
    (stringToken quote content).text.toList = quote :: (content ++ [quote]) := by
  rw [stringToken, RawToken.text, String.toList_ofList]

/-- The inside of a string changes no other token: a string that is closed and does not stand behind
three angle brackets takes any other content. -/
lemma tokenize_edit {source : String} {front back : List RawToken} {quote : Char}
    {content content' : List Char}
    (h : tokenize source = front ++ stringToken quote content :: back)
    (hangles : endsWithAngles (RawToken.concat front).toList = false)
    (hcontent : isContent quote content' = true) :
    tokenize (RawToken.concat (front ++ stringToken quote content' :: back)) =
      front ++ stringToken quote content' :: back := by
  obtain ⟨mode, c, rest, hreads, htoken, hback⟩ := exists_step h
  obtain ⟨⟨context, rfl⟩, hc⟩ := exists_code_of_isOf_string (by rw [htoken]; rfl)
  -- the string is its quote, its content and the quote again
  have hwhole := (step_lossless (.code context) c rest).1
  rw [Step.whole, htoken, toList_text_stringToken, step_code_of_isQuote hc] at hwhole
  rw [step_code_of_isQuote hc] at hback
  generalize (throughQuote c rest).push c = k at hwhole hback
  change tokensFrom (.code .plain) k.rest = back at hback
  obtain ⟨rfl, rfl⟩ : quote = c ∧ content ++ quote :: k.rest = rest := by
    simpa [Step.read] using hwhole
  have hsource := hreads.append_rest
  rw [← toList_concat] at hsource
  rw [← hsource] at hreads
  have hedited := hreads.splice hc (fun label hlabel => by cases hlabel) hangles
    (content' ++ quote :: k.rest)
  have hbehind : back.flatMap (fun t => t.text.toList) = k.rest := by
    rw [← hback, flatMap_text_tokensFrom]
  have htext : (RawToken.concat (front ++ stringToken quote content' :: back)).toList =
      (RawToken.concat front).toList ++ quote :: (content' ++ quote :: k.rest) := by
    rw [toList_concat, toList_concat, List.flatMap_append, List.flatMap_cons, hbehind,
      toList_text_stringToken]
    simp
  rw [tokenize, htext, hedited.tokensFrom_eq, tokensFrom_literal hc hcontent, hback]
  rfl

end PhpOutline.Lexer
