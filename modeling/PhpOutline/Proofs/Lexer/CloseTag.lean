import Mathlib.Data.List.Basic
import PhpOutline.Proofs.Lexer.FencedRun
import PhpOutline.Proofs.Lexer.Lossless

/-!
# Sources joined at a close tag

Behind a close tag the lexer is in markup again, as at the start of a source, and nothing that it
read before saw what stands behind the tag.  So the tokens of a source that ends with a close tag,
followed by another source, are the tokens of the two (`tokenize_append_of_closeTag`).  A close tag
takes one line break with it; the second source must not offer one to a tag that has none yet.
-/

namespace PhpOutline.Lexer

variable {mode : Mode} {c : Char} {cs ds : List Char}

/-- What stands behind the close tag at the end of a source is a line break or nothing. -/
lemma closeTagEnd_append (hrest : (closeTagEnd cs).rest = [])
    (hbreak : ['\n'] <:+ cs ∨ lineBreak? ds = none) : closeTagEnd (cs ++ ds) = ⟨cs, ds⟩ := by
  unfold closeTagEnd at hrest
  split at hrest
  · cases hrest
    rfl
  · cases hrest
    rfl
  · cases hrest
    rw [List.nil_append, closeTagEnd_eq, hbreak.resolve_left (by simp)]
    rfl

/-- No line break starts a text that starts with neither of the two. -/
lemma lineBreak?_eq_none (hfeed : ¬['\n'] <+: cs) (hreturn : ¬['\r', '\n'] <+: cs) :
    lineBreak? cs = none := by
  unfold lineBreak?
  split
  · exact absurd ⟨_, rfl⟩ hfeed
  · exact absurd ⟨_, rfl⟩ hreturn
  · rfl

/-- The tokens from a close tag on, with another source behind it. -/
lemma tokensFrom_closeTag (context : Context) (hrest : (closeTagEnd cs).rest = [])
    (hbreak : ['\n'] <:+ cs ∨ lineBreak? ds = none) :
    tokensFrom (.code context) ('?' :: '>' :: (cs ++ ds)) =
      .named .closeTag (String.ofList ('?' :: '>' :: cs)) :: tokensFrom .markup ds := by
  have hstep : step (.code context) '?' ('>' :: (cs ++ ds)) =
      .read .closeTag ((closeTagEnd (cs ++ ds)).prepend ['?', '>']) .markup := rfl
  rw [tokensFrom_cons, hstep, closeTagEnd_append hrest hbreak]
  rfl

/-- A source whose last token is a close tag is read up to that tag, which takes all that is
left. -/
lemma exists_reads_closeTag {text : String}
    (h : (tokensFrom mode cs).getLast? = some (.named .closeTag text)) :
    ∃ front context ending,
      Reads mode cs front (.code context) ('?' :: '>' :: ending) ∧
        tokensFrom mode cs = front ++ [.named .closeTag text] ∧
        text = String.ofList ('?' :: '>' :: ending) ∧ (closeTagEnd ending).rest = [] := by
  obtain ⟨front, hfront⟩ := List.getLast?_eq_some_iff.1 h
  obtain ⟨mode', c, rest, hreads, htoken, hback⟩ := exists_step hfront
  have htag : isOf .closeTag (step mode' c rest).token = true := by
    rw [htoken]
    rfl
  obtain ⟨context, rfl⟩ := exists_code_of_isOf (by decide) htag
  obtain ⟨rfl, hhead⟩ := (first_of_isOf_stepCode htag).2 rfl
  obtain ⟨ending, rfl⟩ := List.head?_eq_some_iff.1 hhead
  have hrest : (closeTagEnd ending).rest = [] := eq_nil_of_tokensFrom hback
  refine ⟨front, context, ending, hreads, hfront, ?_, hrest⟩
  -- the text of the tag is all that was left of the source
  have hwhole := whole_closeTagEnd ending
  rw [Cut.whole, hrest, List.append_nil] at hwhole
  have htext : String.ofList ('?' :: '>' :: (closeTagEnd ending).text) = text :=
    (RawToken.named.inj htoken).2
  rw [← htext, hwhole]

/-- **Lexing is compositional at close tags.**  Let the last token of a source be a close tag, and
let another source not start with a line break that the tag would take.  Then the tokens of the two
sources one behind the other are those of the first and those of the second. -/
theorem tokenize_append_of_closeTag {a b text : String}
    (ha : (tokenize a).getLast? = some (.named .closeTag text))
    (hb : ['\n'] <:+ text.toList ∨ ¬['\n'] <+: b.toList ∧ ¬['\r', '\n'] <+: b.toList) :
    tokenize (a ++ b) = tokenize a ++ tokenize b := by
  obtain ⟨front, context, ending, hreads, hfront, rfl, hrest⟩ := exists_reads_closeTag ha
  have hsource := hreads.append_rest
  -- the run over the first source does not see what stands behind the tag
  have hjoined : Reads .markup (a.toList ++ b.toList) front (.code context)
      ('?' :: '>' :: (ending ++ b.toList)) := by
    rw [← hsource] at hreads ⊢
    rw [List.append_assoc]
    refine hreads.fenced (.closeTag ending (ending ++ b.toList)) ?_ (.append _) ?_
    · intro label hlabel
      cases hlabel
    · intro hquote
      cases hquote
  have hbreak : ['\n'] <:+ ending ∨ lineBreak? b.toList = none := by
    refine hb.imp (fun hends => ?_) fun hstarts => lineBreak?_eq_none hstarts.1 hstarts.2
    simpa [List.suffix_cons_iff] using hends
  calc tokenize (a ++ b)
      = tokensFrom .markup (a.toList ++ b.toList) := by rw [tokenize, String.toList_append]
    _ = front ++ tokensFrom (.code context) ('?' :: '>' :: (ending ++ b.toList)) :=
        hjoined.tokensFrom_eq
    _ = front ++ .named .closeTag (String.ofList ('?' :: '>' :: ending)) ::
          tokensFrom .markup b.toList := by rw [tokensFrom_closeTag context hrest hbreak]
    _ = tokenize a ++ tokenize b := by
        rw [tokenize, hfront, List.append_assoc]
        rfl

/-- A heredoc with a close tag in it, and a tag that ends a line comment.  The second source starts
with a line break, but the tag has one already. -/
theorem tokenize_append_template :
    (tokenize "<a><?php echo <<<E\n?>\nE; # x?>\r\n").getLast? =
        some (.named .closeTag "?>\r\n") ∧
      tokenize ("<a><?php echo <<<E\n?>\nE; # x?>\r\n" ++ "\n<?= $b ?>") =
        tokenize "<a><?php echo <<<E\n?>\nE; # x?>\r\n" ++ tokenize "\n<?= $b ?>" := by
  have hlast : (tokenize "<a><?php echo <<<E\n?>\nE; # x?>\r\n").getLast? =
      some (.named .closeTag "?>\r\n") := by decide +kernel
  exact ⟨hlast, tokenize_append_of_closeTag hlast (.inl (by decide))⟩

end PhpOutline.Lexer
