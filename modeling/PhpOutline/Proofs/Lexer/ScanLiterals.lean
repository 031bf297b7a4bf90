import PhpOutline.Proofs.Lexer.OctetReaders
import PhpOutline.Proofs.Lexer.Recased

/-!
# Markup and literals as the scanner reads them

A scan follows the lexer if its place is between characters and its tokens are the first tokens of
the source, so that the lexer reads the others from what stands behind the place
(`Scan.Follows`).  A token that the scanner reads up to the place behind the text of the lexer's
step keeps it that way: the slice is there and it is that text (`Scan.Follows.readTo`).

The readers of markup, comments, shell commands and heredocs are shown to find that place.  They
look for it in slices of their own: what is left of the source, from the place of the scan or from
the start of a line on.
-/

namespace PhpOutline.Lexer

variable {source : String} {s t : Scan} {mode mode' : Mode} {category : Category} {k : Cut}
  {context : Context} {c : Char} {cs rest : List Char} {n place : Nat}

lemma Cut.length_rest_le (h : k.whole = cs) : k.rest.length ≤ cs.length := by
  rw [← h, Cut.whole, List.length_append]
  exact Nat.le_add_left _ _

namespace Scan

/-- The scan has the first tokens of the source, and the lexer reads the others from the characters
behind the place of the scan. -/
structure Follows (source : String) (s : Scan) (mode : Mode) (cs : List Char) : Prop where
  place_at : At source s.place cs
  tokens_eq : s.tokens ++ tokensFrom mode cs = tokenize source

/-- The scan goes on in code, with at most `n` characters behind it. -/
def GoesOn (source : String) (next : Option Scan) (n : Nat) : Prop :=
  ∃ t rest, next = some t ∧ Follows source t (.code t.context) rest ∧ rest.length ≤ n

/-- The scan goes on in code, or the flag says that it has come to the end of the source. -/
def GoesOnOrEnds (source : String) (next : Option (Bool × Scan)) (n : Nat) : Prop :=
  ∃ goesOn t rest, next = some (goesOn, t) ∧ Follows source t (.code t.context) rest ∧
    rest.length ≤ n ∧ (goesOn = false → rest = [])

lemma GoesOn.orEnds {next : Option Scan} (h : GoesOn source next n) :
    GoesOnOrEnds source (next.map (true, ·)) n := by
  obtain ⟨t, rest, rfl, hfollows, hlength⟩ := h
  exact ⟨true, t, rest, rfl, hfollows, hlength, fun hno => by cases hno⟩

/-! ### Single tokens -/

lemma Follows.of_nil (h : Follows source s mode []) (mode' : Mode) :
    Follows source s mode' [] :=
  ⟨h.place_at, by rw [← h.tokens_eq, tokensFrom_nil, tokensFrom_nil]⟩

lemma Follows.withContext (h : Follows source s mode cs) (context : Context) :
    Follows source { s with context := context } mode cs :=
  ⟨h.place_at, h.tokens_eq⟩

/-- A text that the lexer reads is read from its slice. -/
lemma Follows.readTo (h : Follows source s mode (c :: cs))
    (hstep : step mode c cs = .read category k mode') (context : Context) :
    ∃ t, s.readTo source category (s.place + (encode k.text).length) context = some t ∧
      t.context = context ∧ Follows source t mode' k.rest := by
  have hwhole : k.text ++ k.rest = c :: cs := by
    have hlossless := (step_lossless mode c cs).1
    rwa [hstep, Step.whole_read] at hlossless
  have hat : At source s.place (k.text ++ k.rest) := by
    rw [hwhole]
    exact h.place_at
  refine ⟨⟨s.place + (encode k.text).length, context,
    s.tokens ++ [.named category (String.ofList k.text)]⟩, ?_, rfl, hat.append, ?_⟩
  · rw [Scan.readTo, hat.slice_eq]
    rfl
  · rw [← h.tokens_eq, tokensFrom_cons, hstep, List.append_assoc]
    rfl

/-- A text that may be empty is read as long as the lexer stays in its mode. -/
lemma Follows.readAnyTo (h : Follows source s mode cs) (hwhole : k.whole = cs)
    (hstep : ∀ c ds, cs = c :: ds → k.text ≠ [] → step mode c ds = .read category k mode)
    (context : Context) :
    ∃ t, s.readAnyTo source category (s.place + (encode k.text).length) context = some t ∧
      t.context = context ∧ Follows source t mode k.rest ∧
      t.place = s.place + (encode k.text).length := by
  rw [Scan.readAnyTo]
  by_cases htext : k.text = []
  · have hrest : k.rest = cs := by rwa [Cut.whole, htext] at hwhole
    rw [htext, encode_nil, List.length_nil, Nat.add_zero, if_neg (Nat.lt_irrefl _), hrest]
    exact ⟨_, rfl, rfl, h.withContext context, rfl⟩
  · obtain ⟨c, ds, hcs⟩ : ∃ c ds, cs = c :: ds := by
      apply List.exists_cons_of_ne_nil
      rintro rfl
      exact htext (List.append_eq_nil_iff.1 hwhole).1
    subst hcs
    have hlength : 0 < (encode k.text).length := by
      apply List.length_pos_iff.2
      rwa [Ne, encode_eq_nil]
    rw [if_pos (Nat.lt_add_of_pos_right hlength)]
    obtain ⟨t, hread, hcontext, hfollows⟩ := h.readTo (hstep c ds rfl htext) context
    refine ⟨t, hread, hcontext, hfollows, ?_⟩
    rw [Scan.readTo] at hread
    obtain ⟨text, -, htoken⟩ := Option.bind_eq_some_iff.1 hread
    cases htoken
    rfl

lemma Follows.readChar (h : Follows source s mode (c :: cs))
    (hstep : step mode c cs = .punctuation c cs mode') (context : Context) :
    Follows source (s.readChar c context) mode' cs := by
  have hat : At source (s.place + (encode [c]).length) cs := At.append h.place_at
  have hsize : (encode [c]).length = c.utf8Size := by
    rw [encode_cons, encode_nil, List.append_nil, length_encodeChar]
  refine ⟨?_, ?_⟩
  · rwa [hsize] at hat
  · rw [← h.tokens_eq, tokensFrom_cons, hstep, Scan.readChar, List.append_assoc]
    rfl

/-- A step in code that stays in code. -/
lemma Follows.goesOn_readTo (h : Follows source s (.code s.context) (c :: cs))
    (hstep : stepCode s.context c cs = .read category k (.code context)) :
    GoesOn source (s.readTo source category (s.place + (encode k.text).length) context)
      cs.length := by
  obtain ⟨t, hread, hcontext, hfollows⟩ := h.readTo hstep context
  refine ⟨t, k.rest, hread, hcontext ▸ hfollows, ?_⟩
  have hlength := step_rest_length_le (.code s.context) c cs
  rwa [step, hstep] at hlength

end Scan

/-! ### Searches -/

/-- A search passes over the characters in front of what it looks for, so that a cut that stops
only there goes on behind them. -/
lemma before_of_findText {pattern : List Char} {stop : List Char → Bool}
    (hstop : ∀ ds, stop ds = true → pattern.isPrefixOf ds = true) (cs : List Char) :
    (findText pattern cs = none ∧ Cut.before stop cs = ⟨cs, []⟩) ∨
      ∃ front back, cs = front ++ back ∧ pattern.isPrefixOf back = true ∧
        findText pattern cs = some (encode front).length ∧
        Cut.before stop cs = (Cut.before stop back).prepend front := by
  induction cs with
  | nil => exact .inl ⟨rfl, rfl⟩
  | cons c cs ih =>
    rw [findText]
    by_cases hstarts : pattern.isPrefixOf (c :: cs) = true
    · rw [if_pos hstarts]
      exact .inr ⟨[], c :: cs, rfl, hstarts, rfl, rfl⟩
    have hgoes : ¬stop (c :: cs) = true := fun h => hstarts (hstop _ h)
    rw [if_neg hstarts, Cut.before, if_neg hgoes]
    rcases ih with ⟨hnone, hcut⟩ | ⟨front, back, rfl, hback, hsome, hcut⟩
    · rw [hnone, hcut]
      exact .inl ⟨rfl, rfl⟩
    · right
      refine ⟨c :: front, back, rfl, hback, ?_, by rw [hcut]; rfl⟩
      rw [hsome, Option.map_some, encode_cons, List.length_append, length_encodeChar]

lemma findText_singleton (d : Char) (cs : List Char) :
    findText [d] cs = if d ∈ cs then some (encode (cs.takeWhile (· != d))).length else none := by
  induction cs with
  | nil => rfl
  | cons c cs ih =>
    rw [findText, ih]
    by_cases hc : c = d
    · subst hc
      simp
    · have hstarts : ¬[d].isPrefixOf (c :: cs) = true := by simp [Ne.symm hc]
      rw [if_neg hstarts, List.takeWhile_cons_of_pos (by simpa using hc), encode_cons,
        List.length_append, length_encodeChar]
      simp only [List.mem_cons, Ne.symm hc, false_or]
      split <;> rfl

/-- The close of a block comment is found where the comment ends. -/
lemma findText_starSlash (cs : List Char) :
    ((findText ['*', '/'] cs).map (· + 2)).getD (encode cs).length =
      (encode (throughStarSlash cs).text).length := by
  induction cs with
  | nil => rfl
  | cons c cs ih =>
    rw [findText]
    by_cases hends : c = '*' ∧ cs.head? = some '/'
    · obtain ⟨rfl, hslash⟩ := hends
      obtain ⟨ds, rfl⟩ := List.head?_eq_some_iff.1 hslash
      rfl
    · have hstarts : ¬['*', '/'].isPrefixOf (c :: cs) = true := by
        rintro hstarts
        obtain ⟨tail, htail⟩ := List.isPrefixOf_iff_prefix.1 hstarts
        obtain ⟨rfl, rfl⟩ := List.cons.inj htail
        exact hends ⟨rfl, rfl⟩
      rw [if_neg hstarts, throughStarSlash_cons hends, Cut.text_push, encode_cons, encode_cons,
        List.length_append, List.length_append, ← ih, length_encodeChar]
      cases findText ['*', '/'] cs with
      | none => rfl
      | some offset => exact Nat.add_assoc _ _ _

/-! ### Markup -/

/-- The text in front of the next open tag, or all of it. -/
def markup (cs : List Char) : Cut := Cut.before (fun rest => (openTag? rest).isSome) cs

lemma isPrefixOf_of_openTag? (h : (openTag? cs).isSome = true) :
    ['<', '?'].isPrefixOf cs = true := by
  by_contra hangle
  rw [openTag?_of_not_isPrefixOf hangle] at h
  cases h

/-- The search for an open tag finds the one that ends the markup, or none up to the end. -/
lemma findTag_eq (h : At source place cs) :
    (markup cs = ⟨cs, []⟩ ∧ Scan.findTag source place = some none) ∨
      ∃ category tag, openTag? (markup cs).rest = some (category, tag) ∧
        Scan.findTag source place = some (some
          (place + (encode (markup cs).text).length, category, (encode tag.text).length)) := by
  induction hn : cs.length using Nat.strong_induction_on generalizing cs place with
  | _ n ih =>
    subst hn
    rw [Scan.findTag, h.sliceFrom_eq]
    rcases before_of_findText (fun ds => isPrefixOf_of_openTag?) cs with
      ⟨hnone, hcut⟩ | ⟨front, back, rfl, hback, hsome, hcut⟩
    · left
      refine ⟨hcut, ?_⟩
      simp [hnone]
    obtain ⟨more, rfl⟩ := List.isPrefixOf_iff_prefix.1 hback
    have hangle : At source (place + (encode front).length) (['<', '?'] ++ more) := h.append
    have hmore : At source (place + (encode front).length + 2) more := hangle.append
    have hbytes : '<' :: '?' :: encode more = encode (['<', '?'] ++ more) := rfl
    simp only [Option.bind_eq_bind, Option.bind_some, hsome, if_pos hmore.le_size,
      hmore.octetsFrom_eq, hbytes, openTag?_encode]
    cases htag : openTag? (['<', '?'] ++ more) with
    | some tag =>
      right
      have hhere : markup (['<', '?'] ++ more) = ⟨[], ['<', '?'] ++ more⟩ := by
        rw [markup, List.cons_append, Cut.before, ← List.cons_append, htag]
        rfl
      have hmarkup : markup (front ++ (['<', '?'] ++ more)) = ⟨front, ['<', '?'] ++ more⟩ := by
        rw [markup, hcut, ← markup, hhere, Cut.prepend, List.append_nil]
      rw [hmarkup]
      exact ⟨tag.1, tag.2, htag, rfl⟩
    | none =>
      have hgoes : markup (['<', '?'] ++ more) = (markup more).prepend ['<', '?'] := by
        rw [markup, List.cons_append, Cut.before, ← List.cons_append, htag]
        rfl
      have hmarkup : markup (front ++ (['<', '?'] ++ more)) =
          (markup more).prepend (front ++ ['<', '?']) := by
        rw [markup, hcut, ← markup, hgoes]
        simp [Cut.prepend]
      have hshorter : more.length < (front ++ (['<', '?'] ++ more)).length := by
        simp only [List.length_append, List.length_cons]
        omega
      rw [hmarkup]
      rcases ih _ hshorter hmore rfl with ⟨hall, hfind⟩ | ⟨category, tag, hrest, hfind⟩
      · left
        refine ⟨by rw [hall]; simp [Cut.prepend], hfind⟩
      · right
        refine ⟨category, tag, hrest, hfind.trans ?_⟩
        rw [Cut.text_prepend, encode_append, encode_append, List.length_append, List.length_append]
        simp only [Nat.add_assoc]
        rfl

lemma step_markup_of_openTag? (h : openTag? (c :: cs) = some (category, k)) :
    step .markup c cs = .read category k (.code .plain) := by
  rw [step, stepMarkup, h]

lemma step_markup_of_text_ne_nil (h : (markup (c :: cs)).text ≠ []) :
    step .markup c cs = .read .inlineHtml (markup (c :: cs)) .markup := by
  have htag : openTag? (c :: cs) = none := by
    by_contra htag
    rw [markup, Cut.before, if_pos (Option.isSome_iff_ne_none.2 htag)] at h
    exact h rfl
  rw [step, stepMarkup, htag]
  rfl

/-- Markup is read with the open tag behind it, if there is one. -/
lemma Scan.Follows.readMarkup (h : Follows source s .markup cs) (hcs : cs ≠ []) :
    ∃ t rest, s.readMarkup source = some t ∧ t.context = .plain ∧
      Follows source t (.code .plain) rest ∧ rest.length < cs.length := by
  have hwhole : (markup cs).whole = cs := Cut.whole_before _ _
  have hstep : ∀ c ds, cs = c :: ds → (markup cs).text ≠ [] →
      step .markup c ds = .read .inlineHtml (markup cs) .markup := by
    rintro c ds rfl htext
    exact step_markup_of_text_ne_nil htext
  obtain ⟨t, hread, hcontext, hfollows, hplace⟩ := h.readAnyTo hwhole hstep .plain
  rw [Scan.readMarkup]
  rcases findTag_eq h.place_at with ⟨hall, hfind⟩ | ⟨category, tag, htag, hfind⟩
  · rw [hall] at hread hfollows
    refine ⟨t, [], ?_, hcontext, hfollows.of_nil _, List.length_pos_iff.2 hcs⟩
    rw [hfind, ← h.place_at.add_length]
    exact hread
  · obtain ⟨d, ds, hrest⟩ : ∃ d ds, (markup cs).rest = d :: ds := by
      apply List.exists_cons_of_ne_nil
      intro hnil
      rw [hnil] at htag
      cases htag
    rw [hrest] at htag hfollows
    have htagStep := step_markup_of_openTag? htag
    obtain ⟨u, htagRead, hcontext', hfollows'⟩ := hfollows.readTo htagStep .plain
    refine ⟨u, tag.rest, ?_, hcontext', hfollows', ?_⟩
    · rw [hfind]
      simp only [Option.bind_eq_bind, Option.bind_some, hread]
      rwa [hplace] at htagRead
    · have hbehind := Cut.length_rest_le hwhole
      have hlength := step_rest_length_le .markup d ds
      rw [htagStep] at hlength
      rw [hrest, List.length_cons] at hbehind
      exact Nat.lt_of_le_of_lt hlength hbehind

/-! ### Comments and shell commands -/

namespace Scan

/-- The three bytes in front of white space are looked at only where they are three characters. -/
lemma isDocComment_of_at (h : At source place cs) :
    (['/', '*', '*'].isPrefixOf cs && nextIs isSpace (octetsFrom source (place + 3))) =
      isDocComment cs := by
  rw [isDocComment_eq]
  by_cases hstarts : ['/', '*', '*'].isPrefixOf cs = true
  · obtain ⟨more, rfl⟩ := List.isPrefixOf_iff_prefix.1 hstarts
    have hmore : At source (place + 3) more := h.append
    rw [hmore.octetsFrom_eq, nextIs_encode byteWise_isSpace]
    rfl
  · rw [Bool.eq_false_iff.2 hstarts, Bool.false_and, Bool.false_and]

lemma Follows.readBlockComment (h : Follows source s (.code s.context) ('/' :: '*' :: cs))
    (hstep : stepCode s.context '/' ('*' :: cs) = stepBlockComment s.context ('/' :: '*' :: cs)) :
    GoesOn source (s.readBlockComment source) ('*' :: cs).length := by
  have hopen : At source s.place (['/', '*'] ++ cs) := h.place_at
  have hinside : At source (s.place + 2) cs := hopen.append
  have hstop : ((findText ['*', '/'] cs).map (s.place + 2 + · + 2)).getD source.utf8ByteSize =
      s.place + (encode ('/' :: '*' :: (throughStarSlash cs).text)).length := by
    have hfound := findText_starSlash cs
    rw [encode_cons_of_not_isWide (by decide), encode_cons_of_not_isWide (by decide),
      List.length_cons, List.length_cons, ← hfound, ← hinside.add_length]
    cases findText ['*', '/'] cs with
    | none => simp only [Option.map_none, Option.getD_none]; omega
    | some offset => simp only [Option.map_some, Option.getD_some]; omega
  have hread := h.goesOn_readTo hstep
  unfold Scan.readBlockComment
  simp only [Option.bind_eq_bind, h.place_at.sliceFrom_eq, hinside.sliceFrom_eq, Option.bind_some,
    isDocComment_of_at h.place_at]
  rw [hstop]
  exact hread

/-- A shell command ends at a backtick or at the end of the source. -/
lemma head?_rest_shellCommand (cs : List Char) :
    (shellCommand cs).rest = [] ∨ (shellCommand cs).rest.head? = some '\x60' := by
  fun_induction shellCommand cs with
  | case1 c cs ih => exact ih
  | case2 cs => exact .inr rfl
  | case3 c cs _ _ ih => exact ih
  | case4 => exact .inl rfl

lemma Follows.readShell (h : Follows source s (.code s.context) ('\x60' :: cs)) :
    GoesOn source (s.readShell source) cs.length := by
  have hopen : Follows source (s.readChar '\x60' .plain) .shell cs := by
    apply h.readChar
    rfl
  have hstop : min ((s.readChar '\x60' .plain).place +
      shellLength (octetsFrom source (s.readChar '\x60' .plain).place)) source.utf8ByteSize =
        (s.readChar '\x60' .plain).place + (encode (shellCommand cs).text).length := by
    have hmin := min_shellLength (encode cs)
    rw [shellCommand_encode] at hmin
    rw [hopen.place_at.octetsFrom_eq, ← hopen.place_at.add_length, Nat.add_min_add_left, hmin]
    rfl
  have hstep : ∀ c ds, cs = c :: ds → (shellCommand cs).text ≠ [] →
      step .shell c ds = .read .encapsedAndWhitespace (shellCommand cs) .shell := by
    rintro c ds rfl htext
    rw [step, stepShell, if_neg]
    rintro rfl
    rw [shellCommand_cons (by decide), if_pos rfl] at htext
    exact htext rfl
  obtain ⟨t, hread, -, hfollows, -⟩ := hopen.readAnyTo (whole_shellCommand cs) hstep .plain
  have hlength := Cut.length_rest_le (whole_shellCommand cs)
  unfold Scan.readShell
  simp only [hstop, hread, Option.bind_eq_bind, Option.bind_some, hfollows.place_at.octetsFrom_eq,
    head?_encode (show ¬IsWide '\x60' by decide)]
  rcases head?_rest_shellCommand cs with hnil | hclose
  · rw [hnil] at hfollows ⊢
    refine ⟨t, [], rfl, hfollows.of_nil _, Nat.zero_le _⟩
  · obtain ⟨rest, hrest⟩ := List.head?_eq_some_iff.1 hclose
    rw [if_pos hclose]
    rw [hrest] at hfollows hlength
    refine ⟨_, rest, rfl, hfollows.readChar ?_ .plain, ?_⟩
    · rfl
    · rw [List.length_cons] at hlength
      omega

end Scan

/-! ### Heredocs -/

lemma At.countWhile_eq {p : Char → Bool} (hp : ByteWise p) (h : At source place cs) :
    countWhile p source place = (encode (cs.takeWhile p)).length := by
  rw [countWhile, h.octetsFrom_eq, length_takeWhile_encode hp]

lemma At.skipWhile {p : Char → Bool} (hp : ByteWise p) (h : At source place cs) :
    At source (place + countWhile p source place) (cs.dropWhile p) := by
  rw [h.countWhile_eq hp]
  apply At.append
  rwa [List.takeWhile_append_dropWhile]

variable {label : List Char}

/-- The bytes behind a label are looked at only where the label is. -/
lemma closesHeredoc_of_at (h : At source place cs) :
    let start := place + countWhile isBlank source place
    ((String.ofList label).toList.isPrefixOf (cs.dropWhile isBlank) &&
        !nextIs isNameChar (octetsFrom source (start + (String.ofList label).utf8ByteSize))) =
      closesHeredoc label cs := by
  have hstart := h.skipWhile byteWise_isBlank
  rw [closesHeredoc, String.toList_ofList]
  dsimp only
  by_cases hstarts : label.isPrefixOf (cs.dropWhile isBlank) = true
  · obtain ⟨tail, htail⟩ := List.isPrefixOf_iff_prefix.1 hstarts
    rw [← htail] at hstart ⊢
    rw [← length_encode, hstart.append.octetsFrom_eq, nextIs_encode byteWise_isNameChar,
      List.drop_left]
  · rw [Bool.eq_false_iff.2 hstarts, Bool.false_and, Bool.false_and]

/-- Where no line closes the heredoc, its body goes to the end of the source. -/
lemma heredocBody_of_not_mem (hbreak : '\n' ∉ cs) (hopen : ¬closesHeredoc label cs = true) :
    heredocBody label true cs = ⟨cs, []⟩ := by
  have hwhole : (heredocBody label true cs).text ++ (heredocBody label true cs).rest = cs :=
    whole_heredocBody label true cs
  have hrest : (heredocBody label true cs).rest = [] := by
    by_contra hrest
    apply hbreak
    rw [← hwhole]
    exact List.mem_append_left _ (newline_mem_text_heredocBody hrest (by rwa [Bool.true_and]))
  rw [hrest, List.append_nil] at hwhole
  change (⟨(heredocBody label true cs).text, (heredocBody label true cs).rest⟩ : Cut) = ⟨cs, []⟩
  rw [hwhole, hrest]

/-- The search for the closing line finds the label that ends the body, or none up to the end.  The
induction is on the source: the search goes on behind a line that does not close the heredoc. -/
lemma findLabel_eq (hlabel : nextIs isNameStart label = true) (h : At source place cs) :
    Scan.findLabel source (String.ofList label) place =
      some (if (heredocBody label true cs).rest = [] then none
        else some (place + (encode (heredocBody label true cs).text).length)) := by
  induction hn : cs.length using Nat.strong_induction_on generalizing cs place with
  | _ n ih =>
    subst hn
    rw [Scan.findLabel]
    by_cases hcs : cs = []
    · subst hcs
      rw [if_pos (Nat.le_of_not_lt fun hlt => h.lt_size_iff.1 hlt rfl)]
      rfl
    rw [if_neg (Nat.not_le_of_lt (h.lt_size_iff.2 hcs))]
    simp only [Option.bind_eq_bind, (h.skipWhile byteWise_isBlank).sliceFrom_eq, Option.bind_some,
      closesHeredoc_of_at h, h.sliceFrom_eq]
    by_cases hcloses : closesHeredoc label cs = true
    · -- the body ends with the blanks of this line
      have hbody : heredocBody label true cs = Cut.span isBlank cs := by
        obtain ⟨c, ds, rfl⟩ := List.exists_cons_of_ne_nil hcs
        rw [heredocBody, hcloses, Bool.true_and, if_pos rfl]
      have hrest : (Cut.span isBlank cs).rest ≠ [] := by
        intro hnil
        have hstarts := (Bool.and_eq_true_iff.1 hcloses).1
        change label.isPrefixOf (Cut.span isBlank cs).rest = true at hstarts
        obtain ⟨d, ds, rfl⟩ := exists_eq_cons_of_nextIs hlabel
        rw [hnil] at hstarts
        cases hstarts
      rw [if_pos hcloses, hbody, if_neg hrest, h.countWhile_eq byteWise_isBlank]
      rfl
    rw [if_neg hcloses, findText_singleton]
    by_cases hbreak : '\n' ∈ cs
    · obtain ⟨line, more, rfl, hline⟩ := List.eq_append_cons_of_mem hbreak
      have hfirst : (line ++ '\n' :: more).takeWhile (· != '\n') = line := by
        rw [List.takeWhile_append_of_pos, List.takeWhile_cons_of_neg (by simp), List.append_nil]
        intro d hd
        rw [bne_iff_ne]
        rintro rfl
        exact hline hd
      have hend : At source (place + (encode line).length) (['\n'] ++ more) := h.append
      have hbehind : At source (place + (encode line).length + 1) more := hend.append
      have hshorter : more.length < (line ++ '\n' :: more).length := by
        rw [List.length_append, List.length_cons]
        omega
      rw [if_pos hbreak, hfirst]
      dsimp only
      rw [ih _ hshorter hbehind rfl, heredocBody_open_line hline hcloses, Cut.text_prepend,
        encode_append, encode_append, List.length_append, List.length_append]
      simp only [Nat.add_assoc]
      rfl
    · rw [if_neg hbreak, heredocBody_of_not_mem hbreak hcloses]
      rfl

namespace Scan

/-- The body of a heredoc is read with the label that closes it, if there is one. -/
lemma Follows.readHeredocBody (hlabel : nextIs isNameStart label = true)
    (h : Follows source s (.heredoc label) cs) :
    GoesOn source (s.readHeredocBody source (String.ofList label)) cs.length := by
  have hwhole := whole_heredocBody label true cs
  have hstep : ∀ c ds, cs = c :: ds → (heredocBody label true cs).text ≠ [] →
      step (.heredoc label) c ds =
        .read .encapsedAndWhitespace (heredocBody label true cs) (.heredoc label) := by
    rintro c ds rfl htext
    exact step_content htext
  obtain ⟨t, hread, -, hfollows, hplace⟩ := h.readAnyTo hwhole hstep .plain
  unfold Scan.readHeredocBody
  rw [findLabel_eq hlabel h.place_at]
  by_cases hrest : (heredocBody label true cs).rest = []
  · have hend : s.place + (encode (heredocBody label true cs).text).length =
        source.utf8ByteSize := by
      rw [Cut.whole, hrest, List.append_nil] at hwhole
      rw [hwhole, h.place_at.add_length]
    rw [hend] at hread
    rw [hrest] at hfollows
    rw [if_pos hrest]
    exact ⟨t, [], hread, hfollows.of_nil _, Nat.zero_le _⟩
  · obtain ⟨tail, htail, hends⟩ := exists_label_of_rest hrest
    obtain ⟨d, ds, hsource, hstepLabel⟩ := step_label hlabel hends
    rw [htail, hsource] at hfollows
    obtain ⟨u, hreadLabel, hcontext, hfollows'⟩ := hfollows.readTo hstepLabel .plain
    rw [if_neg hrest]
    refine ⟨u, tail, ?_, hcontext ▸ hfollows', ?_⟩
    · simp only [Option.bind_eq_bind, Option.bind_some, hread]
      rw [hplace] at hreadLabel
      rw [← length_encode]
      exact hreadLabel
    · have hlength := Cut.length_rest_le hwhole
      rw [htail, List.length_append] at hlength
      omega

end Scan

/-- A label starts with a character that can start a name. -/
lemma nextIs_takeWhile_isNameChar (cs : List Char) :
    nextIs isNameStart (cs.takeWhile isNameChar) = nextIs isNameStart cs := by
  cases cs with
  | nil => rfl
  | cons c cs =>
    by_cases hc : isNameChar c = true
    · rw [List.takeWhile_cons_of_pos hc]
      rfl
    · have hstart : isNameStart c = false := by
        rw [isNameChar, Bool.or_eq_true, not_or] at hc
        exact Bool.eq_false_iff.2 hc.1
      rw [List.takeWhile_cons_of_neg hc, nextIs, nextIs, List.head?_cons, Option.any_some, hstart]
      rfl

lemma length_encode_of_quote {quote : List Char}
    (hquote : quote = [] ∨ quote = ['\''] ∨ quote = ['"']) :
    (encode quote).length = quote.length := by
  rcases hquote with rfl | rfl | rfl <;> rfl

/-- The rest of an opening line is found behind its blanks and its first quote. -/
lemma findLineEnd_eq {quote blanks : List Char}
    (hquote : quote = [] ∨ quote = ['\''] ∨ quote = ['"'])
    (h : At source (place + (encode (['<', '<', '<'] ++ blanks ++ quote)).length) cs) :
    Scan.findLineEnd source quote (place + (encode (['<', '<', '<'] ++ blanks ++ quote)).length) =
      some ((labelLine? blanks quote cs).map fun line =>
        (String.ofList line.1, place + (encode line.2.text).length)) := by
  generalize hstart : place + (encode (['<', '<', '<'] ++ blanks ++ quote)).length = start at h ⊢
  have hsplit : At source start (cs.takeWhile isNameChar ++ cs.dropWhile isNameChar) := by
    rwa [List.takeWhile_append_dropWhile]
  have hnarrow : ∀ a ∈ quote, ¬IsWide a := by
    rcases hquote with rfl | rfl | rfl <;> exact not_isWide_of_all (by decide)
  rw [Scan.findLineEnd, h.octetsFrom_eq, nextIs_encode byteWise_isNameStart,
    h.countWhile_eq byteWise_isNameChar, labelLine?, nextIs_takeWhile_isNameChar]
  by_cases hname : nextIs isNameStart cs = true
  · simp only [hname, if_true, hsplit.slice_eq, hsplit.append.octetsFrom_eq,
      isPrefixOf_encode hnarrow, Option.bind_eq_bind, Option.bind_some, Bool.true_and]
    by_cases hcloses : quote.isPrefixOf (cs.dropWhile isNameChar) = true
    · obtain ⟨tail, htail⟩ := List.isPrefixOf_iff_prefix.1 hcloses
      have hbehind := hsplit.append
      rw [← htail] at hbehind
      have hlineEnd := hbehind.append
      rw [length_encode_of_quote hquote] at hlineEnd
      rw [if_pos hcloses, if_pos hcloses, hlineEnd.octetsFrom_eq, lineBreak?_encode, ← htail,
        List.drop_left]
      cases hbreak : lineBreak? tail with
      | none => rfl
      | some lineEnd =>
        simp only [Option.map_some, Cut.text_prepend, encode_append, List.length_append, ← hstart,
          length_encode_of_quote hquote, Nat.add_assoc]
        rfl
    · rw [if_neg hcloses, if_neg hcloses]
      rfl
  · rw [if_neg hname, Bool.eq_false_iff.2 hname, Bool.false_and]
    rfl

/-- The opening line of a heredoc is found where the lexer finds it. -/
lemma findOpener_eq (h : At source place cs) :
    Scan.findOpener source place = some ((heredocOpener? cs).map fun opener =>
      (String.ofList opener.1, place + (encode opener.2.text).length)) := by
  unfold Scan.findOpener
  simp only [Option.bind_eq_bind, h.sliceFrom_eq, Option.bind_some]
  by_cases hangles : ['<', '<', '<'].isPrefixOf cs = true
  · rw [if_pos hangles]
    obtain ⟨cs, rfl⟩ := List.isPrefixOf_iff_prefix.1 hangles
    have hblanks : At source (place + 3) cs := h.append
    have hstart := hblanks.skipWhile byteWise_isBlank
    rw [hblanks.countWhile_eq byteWise_isBlank] at hstart ⊢
    rw [hstart.octetsFrom_eq, labelQuote_encode]
    have hquote := labelQuote_cases (cs.dropWhile isBlank)
    have hplace : place + 3 + (encode (cs.takeWhile isBlank)).length +
        (labelQuote (cs.dropWhile isBlank)).length =
          place + (encode (['<', '<', '<'] ++ cs.takeWhile isBlank ++
            labelQuote (cs.dropWhile isBlank))).length := by
      rw [encode_append, encode_append, List.length_append, List.length_append,
        length_encode_of_quote hquote]
      simp only [Nat.add_assoc]
      rfl
    have hlabel : At source (place + 3 + (encode (cs.takeWhile isBlank)).length +
        (labelQuote (cs.dropWhile isBlank)).length)
          ((cs.dropWhile isBlank).drop (labelQuote (cs.dropWhile isBlank)).length) := by
      rw [← length_encode_of_quote hquote]
      apply At.append
      rwa [length_encode_of_quote hquote, labelQuote_append_drop]
    rw [hplace] at hlabel ⊢
    exact findLineEnd_eq hquote hlabel
  · rw [if_neg hangles, heredocOpener?_of_not_isPrefixOf hangles]
    rfl

/-- A heredoc is read where the lexer finds its opening line, and nowhere else. -/
lemma Scan.Follows.readHeredoc? (h : Follows source s (.code s.context) (c :: cs)) {b : Char}
    {bs : List Char} (hbytes : encode (c :: cs) = b :: bs) :
    (heredocOpener? (c :: cs) = none ∧ s.readHeredoc? source b = some none) ∨
      ∃ t, s.readHeredoc? source b = some (some t) ∧ GoesOn source (some t) cs.length := by
  rw [Scan.readHeredoc?]
  by_cases hc : c = '<'
  · rw [if_pos ((first_eq_iff hbytes (by decide)).2 hc), findOpener_eq h.place_at]
    subst hc
    cases hopener : heredocOpener? ('<' :: cs) with
    | none => exact .inl ⟨rfl, rfl⟩
    | some opener =>
      right
      obtain ⟨label, k⟩ := opener
      have hstep : step (.code s.context) '<' cs = .read .startHeredoc k (.heredoc label) := by
        rw [step, stepCode, if_neg (by simp), if_neg (by decide), hopener]
      obtain ⟨heredoc, rfl, -⟩ := exists_heredoc_of_opener hopener
      obtain ⟨t, hread, -, hfollows⟩ := h.readTo hstep .plain
      obtain ⟨u, rest, hbody, hgoes, hlength⟩ := hfollows.readHeredocBody heredoc.label_start
      refine ⟨u, ?_, u, rest, rfl, hgoes, ?_⟩
      · simp only [Option.map_some, Option.bind_eq_bind, Option.bind_some, hread, hbody]
        rfl
      · have hbehind := step_rest_length_le (.code s.context) '<' cs
        rw [hstep] at hbehind
        exact Nat.le_trans hlength hbehind
  · rw [if_neg fun hb => hc ((first_eq_iff hbytes (by decide)).1 hb)]
    exact .inl ⟨heredocOpener?_of_not_isPrefixOf (by simp [Ne.symm hc]), rfl⟩

end PhpOutline.Lexer
