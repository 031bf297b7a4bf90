import PhpOutline.Proofs.Lexer.ScanLiterals
import PhpOutline.Proofs.Lexer.Shape

/-!
# The scanner reads what the lexer reads

With names, numbers and operators each token of code is read from its slice, up to the place where
the lexer ends it (`Scan.Follows.readNext`).  What is left of the source gets shorter with every
token, so that the scan comes to the end of the source with all of its tokens (`scan_eq_tokenize`).
A scan that asked for a slice whose ends are not boundaries between characters would have given
none: every slice that the scanner takes, as a token or to look at, is there.
-/

namespace PhpOutline.Lexer

variable {source : String} {s : Scan} {c : Char} {cs rest : List Char}

/-! ### Names -/

namespace Scan

lemma wordCategory_eq {stop : Nat} (h : At source stop rest) (s : Scan) (word : List Char) :
    s.wordCategory source word stop = some (Lexer.wordCategory s.context word rest) := by
  rw [Scan.wordCategory, Lexer.wordCategory, h.sliceFrom_eq]
  cases s.context.makesIdentifier word with
  | true => rfl
  | false =>
    cases isWord "enum" word with
    | true => rfl
    | false => rfl

/-- A name goes on behind its first word if there is a backslash in it. -/
lemma length_firstWord_lt_iff (cs : List Char) :
    (encode (cs.takeWhile isNameChar)).length < (encode (name cs).text).length ↔
      '\\' ∈ (name cs).text := by
  obtain ⟨words, -, htext⟩ := exists_words cs
  rw [htext, encode_append, List.length_append, List.mem_append]
  cases words with
  | nil => simp [backslash_not_mem_takeWhile]
  | cons word words =>
    simp [encode_cons_of_not_isWide (show ¬IsWide '\\' by decide)]

/-- The category of a name is found from the slices of the name and of its first word. -/
lemma nameCategory_eq (h : At source s.place (c :: cs)) (hname : startsName c cs = true) :
    let isFull := (octetsFrom source s.place).head? == some '\\'
    let start := s.place + if isFull then 1 else 0
    let firstStop := start + countWhile isNameChar source start
    s.nameCategory source isFull firstStop (s.place + (encode (name (c :: cs)).text).length) =
      some (Lexer.nameCategory s.context (name (c :: cs)).text (name (c :: cs)).rest) := by
  have hwhole : At source s.place ((name (c :: cs)).text ++ (name (c :: cs)).rest) := by
    have hlossless : (name (c :: cs)).text ++ (name (c :: cs)).rest = c :: cs :=
      (name_lossless hname).1
    rwa [hlossless]
  have hhead : (name (c :: cs)).text.head? = some c := by
    have hgoes : continuesName (c :: cs) = true := by
      simp only [startsName, Bool.or_eq_true] at hname
      simp only [continuesName, isNameChar, Bool.or_eq_true]
      exact hname.imp_left Or.inl
    rw [name, Cut.before, hgoes]
    rfl
  dsimp only
  rw [h.octetsFrom_eq, Scan.nameCategory, hwhole.slice_eq, Lexer.nameCategory, hhead]
  by_cases hfull : c = '\\'
  · subst hfull
    rfl
  have hnotFull : ((encode (c :: cs)).head? == some '\\') = false := by
    rw [beq_eq_false_iff_ne, Ne, head?_encode (by decide), List.head?_cons, Option.some_inj]
    exact hfull
  have hfirst : At source s.place ((c :: cs).takeWhile isNameChar ++
      (c :: cs).dropWhile isNameChar) := by
    rwa [List.takeWhile_append_dropWhile]
  have hlt : s.place + (encode ((c :: cs).takeWhile isNameChar)).length <
      s.place + (encode (name (c :: cs)).text).length ↔ '\\' ∈ (name (c :: cs)).text := by
    rw [Nat.add_lt_add_iff_left]
    exact length_firstWord_lt_iff (c :: cs)
  simp only [hnotFull, Bool.false_eq_true, if_false, Nat.add_zero, Option.some_inj, hfull,
    h.countWhile_eq byteWise_isNameChar, hlt, Option.bind_eq_bind, Option.bind_some,
    hfirst.slice_eq, String.toList_ofList, wordCategory_eq hwhole.append, takeWhile_text_name]
  split
  · rfl
  · rfl

/-- The data behind the word that halts the compiler is read to the end of the source. -/
lemma Follows.readData (h : Follows source s .data cs) :
    ∃ t, s.readAnyTo source .inlineHtml source.utf8ByteSize .plain = some t ∧
      Follows source t (.code t.context) [] := by
  have hwhole : (⟨cs, []⟩ : Cut).whole = cs := List.append_nil cs
  have hstep : ∀ c ds, cs = c :: ds → cs ≠ [] →
      step .data c ds = .read .inlineHtml ⟨cs, []⟩ .data := by
    rintro c ds rfl -
    rfl
  obtain ⟨t, hread, -, hfollows, -⟩ := h.readAnyTo hwhole hstep .plain
  rw [h.place_at.add_length] at hread
  exact ⟨t, hread, hfollows.of_nil _⟩

/-- A name is read, and the data behind it if it halts the compiler. -/
lemma Follows.readName (h : Follows source s (.code s.context) (c :: cs))
    (hname : startsName c cs = true)
    (hcode : stepCode s.context c cs = stepName s.context (c :: cs)) :
    GoesOnOrEnds source (s.readName source) cs.length := by
  have hstop : (name (octetsFrom source s.place)).text.length =
      (encode (name (c :: cs)).text).length := by
    rw [h.place_at.octetsFrom_eq, name_encode]
    rfl
  have hcategory := nameCategory_eq h.place_at hname
  have hstep : step (.code s.context) c cs = _ := hcode
  unfold stepName at hstep
  dsimp only at hcategory hstep
  unfold Scan.readName
  dsimp only
  rw [hstop, hcategory]
  generalize Lexer.nameCategory s.context (name (c :: cs)).text (name (c :: cs)).rest = category
    at hstep
  obtain ⟨t, hread, hcontext, hfollows⟩ :=
    h.readTo hstep (if category = .kwFunction then .functionName else .plain)
  have hlength := step_rest_length_le (.code s.context) c cs
  rw [hstep] at hlength
  simp only [Option.bind_eq_bind, Option.bind_some, hread]
  by_cases hhalts : category = .kwHaltCompiler
  · subst hhalts
    obtain ⟨u, hdata, hend⟩ := hfollows.readData
    refine ⟨false, u, [], ?_, hend, Nat.zero_le _, fun _ => rfl⟩
    rw [if_pos rfl, hdata]
    rfl
  · have hmode : modeAfterName category = .code t.context := by
      rw [hcontext]
      by_cases hfunction : category = .kwFunction
      · subst hfunction
        rfl
      · rw [if_neg hfunction]
        unfold modeAfterName
        split
        · exact absurd rfl hfunction
        · exact absurd rfl hhalts
        · rfl
    rw [hmode] at hfollows
    refine ⟨true, t, _, ?_, hfollows, hlength, fun hno => by cases hno⟩
    rw [if_neg hhalts]
    rfl

/-! ### Code -/

lemma Follows.readOperator (h : Follows source s (.code s.context) (c :: cs))
    (hcode : stepCode s.context c cs = stepOperator s.context c cs) :
    GoesOn source (s.readOperator source) cs.length := by
  unfold Scan.readOperator
  simp only [Option.bind_eq_bind, h.place_at.sliceFrom_eq, Option.bind_some]
  unfold stepOperator at hcode
  cases hop : operator? (c :: cs) with
  | none =>
    rw [hop] at hcode
    exact ⟨_, cs, rfl, h.readChar hcode _, Nat.le_refl _⟩
  | some op =>
    rw [hop] at hcode
    have hread := h.goesOn_readTo hcode
    rwa [length_encode, String.ofList_toList] at hread

/-- A token of ASCII characters in front is read up to the place where the lexer ends it. -/
lemma Follows.readToken (h : Follows source s (.code s.context) (c :: cs)) (hc : ¬IsWide c)
    (hname : startsName c cs = false)
    (hcode : stepCode s.context c cs = stepToken s.context c cs) :
    GoesOn source (s.readToken source c (encode cs)) cs.length := by
  have hnumber : startsNumber c (encode cs) = startsNumber c cs := by
    rw [startsNumber, startsNumber, nextIs_encode byteWise_isDigit]
  have hpush : ∀ k : Cut, (encode (k.push c).text).length = 1 + (encode k.text).length := by
    intro k
    rw [Cut.text_push, encode_cons_of_not_isWide hc, List.length_cons, Nat.add_comm]
  have hbehind : At source (s.place + 1) cs := by
    have hat : At source (s.place + (encode [c]).length) cs := At.append h.place_at
    rwa [encode_cons_of_not_isWide hc] at hat
  unfold Scan.readToken
  unfold stepToken at hcode
  simp only [head?_encode (show ¬IsWide '[' by decide), head?_encode (show ¬IsWide '/' by decide),
    head?_encode (show ¬IsWide '*' by decide), nextIs_encode byteWise_isNameStart, hnumber]
  split
  · next hcase =>
    rw [if_pos hcase] at hcode
    obtain ⟨rfl, -⟩ := hcase
    exact h.goesOn_readTo hcode
  next hcase =>
  rw [if_neg hcase] at hcode
  split
  · next hcase =>
    rw [if_pos hcase] at hcode
    have hgoes : endsLineComment (c :: encode cs) = false := by
      rcases hcase with rfl | ⟨rfl, -⟩ <;> rfl
    have hcut : lineComment (c :: encode cs) = (lineComment cs).encode.push c := by
      rw [← lineComment_encode, lineComment, Cut.before, hgoes]
      rfl
    rw [hcut, ← Cut.encode_push_of_not_isWide hc]
    exact h.goesOn_readTo hcode
  next hcase =>
  rw [if_neg hcase] at hcode
  split
  · next hcase =>
    rw [if_pos hcase] at hcode
    obtain ⟨rfl, hstar⟩ := hcase
    obtain ⟨ds, rfl⟩ := List.head?_eq_some_iff.1 hstar
    exact h.readBlockComment hcode
  next hcase =>
  rw [if_neg hcase] at hcode
  split
  · next hcase =>
    rw [if_pos hcase] at hcode
    have hread := h.goesOn_readTo hcode
    rw [hpush] at hread
    rw [hbehind.countWhile_eq byteWise_isNameChar, Nat.add_assoc]
    exact hread
  next hcase =>
  rw [if_neg hcase] at hcode
  split
  · next hcase =>
    rw [if_pos hcase] at hcode
    have hread := h.goesOn_readTo hcode
    rw [hpush] at hread
    rw [throughQuote_encode hc, Nat.add_assoc]
    exact hread
  next hcase =>
  rw [if_neg hcase] at hcode
  split
  · next hcase =>
    obtain rfl := hcase
    exact h.readShell
  next hcase =>
  rw [if_neg hcase] at hcode
  split
  · next hcase =>
    rw [if_pos hcase] at hcode
    rw [← encode_cons_of_not_isWide hc, number_encode]
    exact h.goesOn_readTo hcode
  next hcase =>
  rw [if_neg hcase, if_neg (by rw [hname]; decide)] at hcode
  split
  · next hcase =>
    rw [if_pos hcase] at hcode
    obtain rfl := hcase
    exact h.goesOn_readTo hcode
  next hcase =>
  rw [if_neg hcase] at hcode
  exact h.readOperator hcode

/-- The first bytes start a name if the first characters do. -/
lemma startsName_of_encode {b : Char} {bs : List Char} (h : encode (c :: cs) = b :: bs) :
    startsName b bs = startsName c cs := by
  rw [startsName, startsName, byteWise_isNameStart.first h]
  by_cases hc : c = '\\'
  · subst hc
    rw [encode_cons_of_not_isWide (by decide), List.cons.injEq] at h
    rw [← h.1, ← h.2, nextIs_encode byteWise_isNameStart]
  · have hb : b ≠ '\\' := fun hb => hc ((first_eq_iff h (by decide)).1 hb)
    rw [beq_eq_false_iff_ne.2 hb, beq_eq_false_iff_ne.2 hc, Bool.false_and, Bool.false_and]

lemma stepCode_of_startsName (context : Context) (h : startsName c cs = true) :
    stepCode context c cs = stepName context (c :: cs) := by
  by_cases hstart : isNameStart c = true
  · exact stepCode_of_isNameStart context cs hstart
  · have hslash : c = '\\' ∧ nextIs isNameStart cs = true := by
      simpa [startsName, hstart] using h
    obtain ⟨rfl, hnext⟩ := hslash
    rw [stepCode, if_neg (by simp), if_neg (by decide),
      heredocOpener?_of_not_isPrefixOf (by simp)]
    simp [stepToken, startsNumber, h]

/-- The next token of code is read, of whatever kind it is. -/
lemma Follows.readNext (h : Follows source s (.code s.context) (c :: cs)) {b : Char}
    {bs : List Char} (hbytes : encode (c :: cs) = b :: bs)
    (hclose : ¬(c = '?' ∧ cs.head? = some '>')) :
    GoesOnOrEnds source (s.readNext source b bs) cs.length := by
  rw [Scan.readNext, byteWise_isSpace.first hbytes]
  by_cases hspace : isSpace c = true
  · have hcode : stepCode s.context c cs =
        .read .whitespace (Cut.span isSpace (c :: cs)) (.code s.context) := by
      rw [stepCode, if_neg hclose, if_pos hspace]
    rw [if_pos hspace, h.place_at.countWhile_eq byteWise_isSpace]
    exact (h.goesOn_readTo hcode).orEnds
  rw [if_neg hspace]
  rcases h.readHeredoc? hbytes with ⟨hnone, hread⟩ | ⟨t, hread, hgoes⟩
  · rw [hread]
    simp only [Option.bind_eq_bind, Option.bind_some, startsName_of_encode hbytes]
    by_cases hname : startsName c cs = true
    · rw [if_pos hname]
      exact h.readName hname (stepCode_of_startsName s.context hname)
    · have hnarrow : ¬IsWide c := by
        intro hwide
        apply hname
        rw [startsName, isNameStart_of_isWide hwide, Bool.true_or]
      have hcode : stepCode s.context c cs = stepToken s.context c cs := by
        rw [stepCode, if_neg hclose, if_neg hspace, hnone]
      rw [encode_cons_of_not_isWide hnarrow, List.cons.injEq] at hbytes
      rw [if_neg hname, ← hbytes.1, ← hbytes.2]
      exact (h.readToken hnarrow (Bool.eq_false_iff.2 hname) hcode).orEnds
  · rw [hread]
    exact hgoes.orEnds

/-- Code is read up to a close tag or to the end of the source.  The induction is on what is left of
the source, which every token makes shorter. -/
lemma Follows.readCode (h : Follows source s (.code s.context) cs) :
    ∃ t rest, s.readCode source = some t ∧ Follows source t .markup rest ∧
      rest.length ≤ cs.length := by
  induction hn : cs.length using Nat.strong_induction_on generalizing s cs with
  | _ n ih =>
    subst hn
    rw [Scan.readCode, h.place_at.octetsFrom_eq]
    cases cs with
    | nil => exact ⟨s, [], rfl, h.of_nil _, Nat.le_refl _⟩
    | cons c cs =>
      obtain ⟨b, bs, hbytes⟩ := exists_encode_cons c cs
      rw [hbytes]
      simp only [first_two_iff hbytes (show ¬IsWide '?' by decide) (show ¬IsWide '>' by decide)]
      by_cases hclose : c = '?' ∧ cs.head? = some '>'
      · obtain ⟨rfl, hangle⟩ := hclose
        obtain ⟨ds, rfl⟩ := List.head?_eq_some_iff.1 hangle
        rw [encode_cons_of_not_isWide (by decide), encode_cons_of_not_isWide (by decide),
          List.cons.injEq] at hbytes
        have hstep : step (.code s.context) '?' ('>' :: ds) =
            .read .closeTag ((closeTagEnd ds).prepend ['?', '>']) .markup := rfl
        obtain ⟨t, hread, -, hfollows⟩ := h.readTo hstep s.context
        refine ⟨t, (closeTagEnd ds).rest, ?_, hfollows, ?_⟩
        · rw [if_pos ⟨rfl, rfl⟩, ← hbytes.2, List.tail_cons, closeTagEnd_encode, Nat.add_assoc,
            Nat.add_comm 2]
          exact hread
        · have hlength := Cut.length_rest_le (whole_closeTagEnd ds)
          rw [List.length_cons, List.length_cons]
          omega
      rw [if_neg hclose]
      obtain ⟨goesOn, t, rest, hread, hfollows, hlength, hends⟩ := h.readNext hbytes hclose
      rw [hread]
      cases goesOn with
      | false =>
        obtain rfl := hends rfl
        exact ⟨t, [], rfl, hfollows.of_nil _, Nat.zero_le _⟩
      | true =>
        obtain ⟨u, rest', hcode, hfollows', hlength'⟩ :=
          ih rest.length (Nat.lt_succ_of_le hlength) hfollows rfl
        have hforward : s.place < t.place ∧ t.place ≤ source.utf8ByteSize :=
          ⟨h.place_at.lt_of_length_lt hfollows.place_at (Nat.lt_succ_of_le hlength),
            hfollows.place_at.le_size⟩
        refine ⟨u, rest', (if_pos hforward).trans hcode, hfollows', ?_⟩
        rw [List.length_cons]
        omega

/-- Markup and code are read in turn to the end of the source. -/
lemma Follows.run (h : Follows source s .markup cs) :
    ∃ t, s.run source = some t ∧ t.tokens = tokenize source := by
  induction hn : cs.length using Nat.strong_induction_on generalizing s cs with
  | _ n ih =>
    subst hn
    rw [Scan.run]
    by_cases hcs : cs = []
    · subst hcs
      rw [if_neg fun hlt => h.place_at.lt_size_iff.1 hlt rfl]
      refine ⟨s, rfl, ?_⟩
      rw [← h.tokens_eq, tokensFrom_nil, List.append_nil]
    rw [if_pos (h.place_at.lt_size_iff.2 hcs)]
    obtain ⟨t, rest, hmarkup, hcontext, hfollows, hlength⟩ := h.readMarkup hcs
    rw [← hcontext] at hfollows
    obtain ⟨u, rest', hcode, hfollows', hlength'⟩ := hfollows.readCode
    have hshorter : rest'.length < cs.length := Nat.lt_of_le_of_lt hlength' hlength
    have hforward : s.place < u.place :=
      h.place_at.lt_of_length_lt hfollows'.place_at hshorter
    simp only [Option.bind_eq_bind, hmarkup, hcode, Option.bind_some, if_pos hforward]
    exact ih rest'.length hshorter hfollows' rfl

end Scan

/-- Every slice that the scan takes is there, it comes to an end, and its tokens are those of the
lexer. -/
lemma scan_eq_tokenize (source : String) : scan source = some (tokenize source) := by
  have hstart : Scan.Follows source {} .markup source.toList := ⟨at_zero source, rfl⟩
  obtain ⟨t, hrun, htokens⟩ := hstart.run
  rw [scan, hrun, Option.map_some, htokens]

/-- The tokens of a source are slices of it: each has two boundaries of characters for its ends, and
the bytes between them are its text. -/
lemma slice_of_split {front back : List RawToken} {t : RawToken}
    (hsplit : tokenize source = front ++ t :: back) :
    let start := (RawToken.concat front).rawEndPos
    let stop := (RawToken.concat front ++ t.text).rawEndPos
    start.IsValid source ∧ stop.IsValid source ∧ start < stop ∧ stop ≤ source.rawEndPos ∧
      source.toByteArray.extract start.byteIdx stop.byteIdx = t.text.toByteArray := by
  have hne : t.text ≠ "" :=
    text_ne_empty_of_mem_tokensFrom (hsplit ▸ by simp : t ∈ tokenize source)
  have hsource := concat_split hsplit
  have hstop : (RawToken.concat front ++ t.text).rawEndPos.IsValid source := by
    rw [← hsource]
    exact isValid_rawEndPos_append _ _
  refine ⟨?_, hstop, ?_, hstop.le_rawEndPos, ?_⟩
  · rw [← hsource, String.append_assoc]
    exact isValid_rawEndPos_append _ _
  · have hpos : t.text.utf8ByteSize ≠ 0 := by
      intro hzero
      exact hne (String.utf8ByteSize_eq_zero_iff.1 hzero)
    rw [String.Pos.Raw.lt_iff, String.byteIdx_rawEndPos, String.byteIdx_rawEndPos,
      String.utf8ByteSize_append]
    omega
  · rw [← hsource]
    exact extract_between _ _ _

/-- **The lexer is lossless, and its slices are sound.**  On every source the scan of the bytes
comes to its end without asking for a slice that is not there, and gives the tokens of the lexer.
These make up the source, none of them is empty, and each is the slice of the source between two
boundaries of characters. -/
theorem tokenize_lossless (source : String) :
    scan source = some (tokenize source) ∧
      RawToken.concat (tokenize source) = source ∧
      (∀ t ∈ tokenize source, t.text ≠ "") ∧
      ∀ front t back, tokenize source = front ++ t :: back →
        let start := (RawToken.concat front).rawEndPos
        let stop := (RawToken.concat front ++ t.text).rawEndPos
        start.IsValid source ∧ stop.IsValid source ∧ start < stop ∧ stop ≤ source.rawEndPos ∧
          source.toByteArray.extract start.byteIdx stop.byteIdx = t.text.toByteArray := by
  refine ⟨scan_eq_tokenize source, concat_tokenize source, ?_, ?_⟩
  · intro t ht
    exact text_ne_empty_of_mem_tokensFrom ht
  · intro front t back hsplit
    exact slice_of_split hsplit

/-- Literals that nothing closes, with a backslash in front of a character of two bytes and as the
last byte.  The string is the slice from the eighth byte to the end. -/
theorem scan_unclosed_literals :
    scan "é<?php 'ü\\ß" = some ([.named .inlineHtml "é", .named .openTag "<?php "] ++
        [.named .constantEncapsedString "'ü\\ß"]) ∧
      (⟨8⟩ : String.Pos.Raw).IsValid "é<?php 'ü\\ß" ∧
      "é<?php 'ü\\ß".toByteArray.extract 8 14 = "'ü\\ß".toByteArray ∧
      scan "<?php \x60ü\\ß\\" = some [.named .openTag "<?php ", .punctuation '\x60',
        .named .encapsedAndWhitespace "ü\\ß\\"] := by
  have hstring : tokenize "é<?php 'ü\\ß" =
      [.named .inlineHtml "é", .named .openTag "<?php "] ++
        [.named .constantEncapsedString "'ü\\ß"] := by decide +kernel
  have hshell : tokenize "<?php \x60ü\\ß\\" = [.named .openTag "<?php ", .punctuation '\x60',
      .named .encapsedAndWhitespace "ü\\ß\\"] := by decide +kernel
  have hslice := (tokenize_lossless _).2.2.2 _ _ _ hstring
  refine ⟨?_, hslice.1, hslice.2.2.2.2, ?_⟩
  · rw [(tokenize_lossless _).1, hstring]
  · rw [(tokenize_lossless _).1, hshell]

end PhpOutline.Lexer
