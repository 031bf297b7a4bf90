import Mathlib.Data.List.Basic
import Mathlib.Data.List.TakeWhile
import PhpOutline.Proofs.Lexer.LetterCase
import PhpOutline.Proofs.Lexer.Octets

/-!
# Readers on bytes

The classes of characters do not tell characters beyond ASCII apart (`ByteWise`), and no literal
ends at one.  So every reader cuts the bytes of a text where it cuts the text itself: between
characters, and never inside of one.

A backslash in a string skips one character of the text but one byte of its bytes.  If the character
has more bytes, the reader goes on in the middle of it; the bytes that are left are beyond ASCII, so
that they neither end the string nor escape anything (`PassesWide.escaped`).
-/

namespace PhpOutline.Lexer

variable {a b c d quote : Char} {bs cs ds w : List Char} {p : Char → Bool}
  {stop : List Char → Bool} {read : List Char → Cut}

/-! ### Classes of characters -/

/-- The condition does not tell characters beyond ASCII apart. -/
def ByteWise (p : Char → Bool) : Prop := ∀ ⦃c d⦄, IsWide c → IsWide d → p c = p d

instance (c : Char) : Decidable (IsWide c) := inferInstanceAs (Decidable (0x80 ≤ c.toNat))

lemma ne_of_isWide (hc : IsWide c) (ha : ¬IsWide a) : c ≠ a := by
  rintro rfl
  exact ha hc

lemma byteWise_of_forall (value : Bool) (h : ∀ c, IsWide c → p c = value) : ByteWise p :=
  fun c d hc hd => (h c hc).trans (h d hd).symm

lemma isBlank_of_isWide (hc : IsWide c) : isBlank c = false := by
  simp [isBlank, ne_of_isWide hc (show ¬IsWide ' ' by decide),
    ne_of_isWide hc (show ¬IsWide '\t' by decide)]

lemma isSpace_of_isWide (hc : IsWide c) : isSpace c = false := by
  simp [isSpace, isBlank_of_isWide hc, ne_of_isWide hc (show ¬IsWide '\n' by decide),
    ne_of_isWide hc (show ¬IsWide '\r' by decide)]

lemma isNameStart_of_isWide (hc : IsWide c) : isNameStart c = true := by
  have hlarge : decide (0x80 ≤ c.toNat) = true := decide_eq_true hc
  rw [isNameStart, hlarge, Bool.or_true]

lemma isNameChar_of_isWide (hc : IsWide c) : isNameChar c = true := by
  rw [isNameChar, isNameStart_of_isWide hc, Bool.true_or]

lemma not_le_of_isWide (hc : IsWide c) (ha : ¬IsWide a) : ¬c ≤ a := by
  intro hle
  have hnat : c.toNat ≤ a.toNat := UInt32.le_iff_toNat_le.1 hle
  exact ha (Nat.le_trans hc hnat)

lemma isDigit_of_isWide (hc : IsWide c) : c.isDigit = false := by
  have hlarge : ¬c ≤ '9' := not_le_of_isWide hc (by decide)
  rw [Char.isDigit, Bool.and_eq_false_iff, decide_eq_false_iff_not, decide_eq_false_iff_not]
  exact .inr hlarge

lemma isDigitOrMark_of_isWide (hc : IsWide c) : isDigitOrMark c = false := by
  simp [isDigitOrMark, isDigit_of_isWide hc, ne_of_isWide hc (show ¬IsWide '_' by decide)]

lemma isHexDigitOrMark_of_isWide (hc : IsWide c) : isHexDigitOrMark c = false := by
  have hsmall : ¬c ≤ 'f' := not_le_of_isWide hc (by decide)
  have hcapital : ¬c ≤ 'F' := not_le_of_isWide hc (by decide)
  simp [isHexDigitOrMark, isDigit_of_isWide hc, hsmall, hcapital,
    ne_of_isWide hc (show ¬IsWide '_' by decide)]

lemma byteWise_isBlank : ByteWise isBlank := byteWise_of_forall false fun _ => isBlank_of_isWide

lemma byteWise_isSpace : ByteWise isSpace := byteWise_of_forall false fun _ => isSpace_of_isWide

lemma byteWise_isNameStart : ByteWise isNameStart :=
  byteWise_of_forall true fun _ => isNameStart_of_isWide

lemma byteWise_isNameChar : ByteWise isNameChar :=
  byteWise_of_forall true fun _ => isNameChar_of_isWide

lemma byteWise_isDigit : ByteWise Char.isDigit :=
  byteWise_of_forall false fun _ => isDigit_of_isWide

lemma byteWise_isDigitOrMark : ByteWise isDigitOrMark :=
  byteWise_of_forall false fun _ => isDigitOrMark_of_isWide

lemma byteWise_isHexDigitOrMark : ByteWise isHexDigitOrMark :=
  byteWise_of_forall false fun _ => isHexDigitOrMark_of_isWide

/-! ### The first byte -/

/-- The first byte is in the classes of the first character. -/
lemma ByteWise.first (hp : ByteWise p) (h : encode (c :: cs) = b :: bs) : p b = p c := by
  rcases encode_cons_cases c cs with ⟨-, heq⟩ | ⟨hc, b', bs', hb, -, -, heq⟩
  · rw [heq, List.cons.injEq] at h
    rw [h.1]
  · rw [heq, List.cons.injEq] at h
    rw [← h.1]
    exact hp hb hc

/-- The first byte is a given ASCII character if the first character is. -/
lemma first_eq_iff (h : encode (c :: cs) = b :: bs) (ha : ¬IsWide a) : b = a ↔ c = a := by
  have hclass : ByteWise (· == a) := byteWise_of_forall false fun d hd =>
    beq_eq_false_iff_ne.2 (ne_of_isWide hd ha)
  have hsame := hclass.first h
  rw [Bool.eq_iff_iff, beq_iff_eq, beq_iff_eq] at hsame
  exact hsame

lemma exists_encode_cons (c : Char) (cs : List Char) : ∃ b bs, encode (c :: cs) = b :: bs :=
  List.exists_cons_of_ne_nil fun h => List.cons_ne_nil c cs (encode_eq_nil.1 h)

lemma nextIs_encode (hp : ByteWise p) (cs : List Char) : nextIs p (encode cs) = nextIs p cs := by
  cases cs with
  | nil => rfl
  | cons c cs =>
    obtain ⟨b, bs, h⟩ := exists_encode_cons c cs
    rw [h]
    exact hp.first h

lemma head?_encode (ha : ¬IsWide a) : (encode cs).head? = some a ↔ cs.head? = some a := by
  cases cs with
  | nil => rfl
  | cons c cs =>
    obtain ⟨b, bs, h⟩ := exists_encode_cons c cs
    rw [h, List.head?_cons, List.head?_cons, Option.some_inj, Option.some_inj]
    exact first_eq_iff h ha

/-- Two ASCII characters at the front of the bytes. -/
lemma first_two_iff (h : encode (c :: cs) = b :: bs) (ha : ¬IsWide a) (hd : ¬IsWide d) :
    b = a ∧ bs.head? = some d ↔ c = a ∧ cs.head? = some d := by
  rw [first_eq_iff h ha]
  apply and_congr_right
  rintro rfl
  rw [encode_cons_of_not_isWide ha, List.cons.injEq] at h
  rw [← h.2, head?_encode hd]

/-- A text of ASCII characters stands at the front of the bytes if it stands at the front. -/
lemma isPrefixOf_encode (hw : ∀ a ∈ w, ¬IsWide a) :
    w.isPrefixOf (encode cs) = w.isPrefixOf cs := by
  induction w generalizing cs with
  | nil => rfl
  | cons a w ih =>
    obtain ⟨ha, hw'⟩ := List.forall_mem_cons.1 hw
    cases cs with
    | nil => rfl
    | cons c cs =>
      by_cases hc : c = a
      · subst hc
        rw [encode_cons_of_not_isWide ha, List.isPrefixOf, List.isPrefixOf, ih hw']
      · obtain ⟨b, bs, h⟩ := exists_encode_cons c cs
        have hb : b ≠ a := fun hb => hc ((first_eq_iff h ha).1 hb)
        rw [h, List.isPrefixOf, List.isPrefixOf, beq_eq_false_iff_ne.2 hb.symm,
          beq_eq_false_iff_ne.2 (Ne.symm hc), Bool.false_and, Bool.false_and]

lemma tail_encode (ha : ¬IsWide a) (h : cs.head? = some a) : (encode cs).tail = encode cs.tail := by
  obtain ⟨ds, rfl⟩ := List.head?_eq_some_iff.1 h
  rw [encode_cons_of_not_isWide ha]
  rfl

/-! ### Cuts -/

/-- The cut of the bytes. -/
def Cut.encode (k : Cut) : Cut := ⟨Lexer.encode k.text, Lexer.encode k.rest⟩

lemma Cut.encode_prepend (cs : List Char) (k : Cut) :
    (k.prepend cs).encode = k.encode.prepend (Lexer.encode cs) := by
  simp [Cut.encode, Cut.prepend]

lemma Cut.encode_push (c : Char) (k : Cut) :
    (k.push c).encode = k.encode.prepend (encodeChar c) := rfl

lemma Cut.encode_push_of_not_isWide (hc : ¬IsWide c) (k : Cut) :
    (k.push c).encode = k.encode.push c := by
  rw [Cut.encode_push, encodeChar_of_not_isWide hc]
  rfl

lemma span_encode (hp : ByteWise p) (cs : List Char) :
    Cut.span p (encode cs) = (Cut.span p cs).encode := by
  induction cs with
  | nil => rfl
  | cons c cs ih =>
    obtain ⟨b, bs, h⟩ := exists_encode_cons c cs
    have hfirst := hp.first h
    by_cases hc : p c = true
    · have hall : ∀ x ∈ encodeChar c, p x = true := by
        intro x hx
        rcases encode_cons_cases c cs with ⟨hnarrow, -⟩ | ⟨hwide, -⟩
        · rw [encodeChar_of_not_isWide hnarrow, List.mem_singleton] at hx
          rwa [hx]
        · rwa [hp (isWide_of_mem_encodeChar hwide hx) hwide]
      have hcut : Cut.span p (c :: cs) = (Cut.span p cs).push c := by
        rw [Cut.span, List.takeWhile_cons_of_pos hc, List.dropWhile_cons_of_pos hc]
        rfl
      rw [hcut, Cut.encode_push, ← ih, encode_cons, Cut.span, List.takeWhile_append_of_pos hall,
        List.dropWhile_append_of_pos hall]
      rfl
    · have hb : ¬p b = true := by rwa [hfirst]
      rw [Cut.span, Cut.span, List.takeWhile_cons_of_neg hc, List.dropWhile_cons_of_neg hc, h,
        List.takeWhile_cons_of_neg hb, List.dropWhile_cons_of_neg hb, Cut.encode, h]
      rfl

lemma length_takeWhile_encode (hp : ByteWise p) (cs : List Char) :
    ((encode cs).takeWhile p).length = (encode (cs.takeWhile p)).length :=
  congrArg (fun k => k.text.length) (span_encode hp cs)

/-- The reader takes a byte beyond ASCII into its text and goes on behind it. -/
def PassesWide (read : List Char → Cut) : Prop :=
  ∀ ⦃b⦄ bs, IsWide b → read (b :: bs) = (read bs).push b

/-- Such a reader does not stop inside of a character beyond ASCII. -/
lemma PassesWide.append (h : PassesWide read) (hbs : ∀ b ∈ bs, IsWide b) (ds : List Char) :
    read (bs ++ ds) = (read ds).prepend bs := by
  induction bs with
  | nil => rfl
  | cons b bs ih =>
    obtain ⟨hb, hbs⟩ := List.forall_mem_cons.1 hbs
    rw [List.cons_append, h _ hb, ih hbs]
    rfl

lemma PassesWide.encode_cons (h : PassesWide read) (hc : IsWide c) (cs : List Char) :
    read (encode (c :: cs)) = (read (encode cs)).prepend (encodeChar c) := by
  rw [Lexer.encode_cons]
  exact h.append (fun b hb => isWide_of_mem_encodeChar hc hb) _

lemma passesWide_before (hstop : ∀ ⦃b⦄ bs, IsWide b → stop (b :: bs) = false) :
    PassesWide (Cut.before stop) := by
  intro b bs hb
  rw [Cut.before, hstop _ hb, if_neg (by decide)]

lemma before_encode (hwide : ∀ ⦃b⦄ bs, IsWide b → stop (b :: bs) = false)
    (hstop : ∀ cs, stop (encode cs) = stop cs) (cs : List Char) :
    Cut.before stop (encode cs) = (Cut.before stop cs).encode := by
  induction cs with
  | nil => rfl
  | cons c cs ih =>
    by_cases hc : IsWide c
    · have hpasses := passesWide_before hwide
      rw [hpasses.encode_cons hc, hpasses _ hc, ih, Cut.encode_push]
    · have hhere := hstop (c :: cs)
      rw [encode_cons_of_not_isWide hc] at hhere ⊢
      rw [Cut.before, Cut.before, hhere, ih]
      split
      · rw [Cut.encode, encode_cons_of_not_isWide hc]
        rfl
      · rw [Cut.encode_push_of_not_isWide hc]

/-! ### Comments and strings -/

lemma endsLineComment_encode (cs : List Char) :
    endsLineComment (encode cs) = endsLineComment cs := by
  cases cs with
  | nil => rfl
  | cons c cs =>
    obtain ⟨b, bs, h⟩ := exists_encode_cons c cs
    rw [h, endsLineComment_cons, endsLineComment_cons, Bool.eq_iff_iff]
    simp only [Bool.or_eq_true, Bool.and_eq_true, beq_iff_eq]
    rw [first_eq_iff h (by decide), first_eq_iff h (by decide),
      first_two_iff h (by decide) (by decide)]

lemma lineComment_encode (cs : List Char) :
    lineComment (encode cs) = (lineComment cs).encode := by
  apply before_encode _ endsLineComment_encode
  intro b bs hb
  simp [endsLineComment_cons, ne_of_isWide hb (show ¬IsWide '\n' by decide),
    ne_of_isWide hb (show ¬IsWide '\r' by decide), ne_of_isWide hb (show ¬IsWide '?' by decide)]

/-- The first byte of an escaped character is skipped, and the others are passed over. -/
lemma PassesWide.escaped (h : PassesWide read)
    (hescape : ∀ b bs, read ('\\' :: b :: bs) = (read bs).prepend ['\\', b]) (c : Char)
    (cs : List Char) :
    read (encode ('\\' :: c :: cs)) = (read (encode cs)).prepend (encode ['\\', c]) := by
  have hslash : ∀ ds, encode ('\\' :: ds) = '\\' :: encode ds :=
    encode_cons_of_not_isWide (by decide)
  rw [hslash, hslash]
  rcases encode_cons_cases c cs with ⟨hc, heq⟩ | ⟨hc, b, bs, -, hbs, hbytes, heq⟩
  · rw [heq, hescape, encode_cons_of_not_isWide hc]
    rfl
  · rw [heq, hescape, h.append hbs, Lexer.encode_cons, hbytes]
    simp [Cut.prepend]

/-- Bytes beyond ASCII neither end a string nor escape anything in it. -/
lemma passesWide_throughQuote (hquote : ¬IsWide quote) : PassesWide (throughQuote quote) := by
  intro b bs hb
  rw [throughQuote_cons (ne_of_isWide hb (by decide)), if_neg (ne_of_isWide hb hquote)]

lemma throughQuote_encode (hquote : ¬IsWide quote) (cs : List Char) :
    throughQuote quote (encode cs) = (throughQuote quote cs).encode := by
  have hpasses := passesWide_throughQuote hquote
  fun_induction throughQuote quote cs with
  | case1 c cs ih =>
    rw [hpasses.escaped fun b bs => by rw [throughQuote], ih, Cut.encode_prepend]
  | case2 cs hescape =>
    by_cases hslash : quote = '\\'
    · subst hslash
      cases cs with
      | nil => rfl
      | cons d ds => exact absurd rfl (hescape d ds rfl)
    · rw [encode_cons_of_not_isWide hquote, throughQuote_cons hslash, if_pos rfl, Cut.encode,
        encode_cons_of_not_isWide hquote]
      rfl
  | case3 c cs hescape hc ih =>
    by_cases hslash : c = '\\'
    · -- nothing follows that could be escaped
      subst hslash
      cases cs with
      | nil => exact if_neg hc
      | cons d ds => exact absurd rfl (hescape d ds rfl)
    by_cases hwide : IsWide c
    · rw [hpasses.encode_cons hwide, ih, Cut.encode_push]
    · rw [encode_cons_of_not_isWide hwide, throughQuote_cons hslash, if_neg hc, ih,
        Cut.encode_push_of_not_isWide hwide]
  | case4 => rfl

lemma passesWide_shellCommand : PassesWide shellCommand := by
  intro b bs hb
  rw [shellCommand_cons (ne_of_isWide hb (by decide)), if_neg (ne_of_isWide hb (by decide))]

lemma shellCommand_encode (cs : List Char) :
    shellCommand (encode cs) = (shellCommand cs).encode := by
  fun_induction shellCommand cs with
  | case1 c cs ih =>
    rw [passesWide_shellCommand.escaped fun b bs => by rw [shellCommand], ih, Cut.encode_prepend]
  | case2 cs =>
    rw [encode_cons_of_not_isWide (by decide), shellCommand_cons (by decide), if_pos rfl,
      Cut.encode, encode_cons_of_not_isWide (by decide)]
    rfl
  | case3 c cs hescape hc ih =>
    by_cases hslash : c = '\\'
    · subst hslash
      cases cs with
      | nil => rfl
      | cons d ds => exact absurd rfl (hescape d ds rfl)
    by_cases hwide : IsWide c
    · rw [passesWide_shellCommand.encode_cons hwide, ih, Cut.encode_push]
    · rw [encode_cons_of_not_isWide hwide, shellCommand_cons hslash, if_neg hc, ih,
        Cut.encode_push_of_not_isWide hwide]
  | case4 => rfl

/-- Moved back to the end of the source, the place behind a shell command is right, also if the
source ends with a backslash. -/
lemma min_shellLength (bs : List Char) :
    min (shellLength bs) bs.length = (shellCommand bs).text.length := by
  fun_induction shellLength bs with
  | case1 b bs ih =>
    rw [shellCommand, Cut.text_prepend, List.length_append, ← ih]
    simp only [List.length_cons, List.length_nil]
    omega
  | case2 => rfl
  | case3 bs hescape hlast =>
    rw [shellCommand_cons (by decide), if_pos rfl, Nat.zero_min]
    rfl
  | case4 b bs hescape hlast hb ih =>
    have hslash : b ≠ '\\' := by
      rintro rfl
      cases bs with
      | nil => exact hlast rfl rfl
      | cons d ds => exact hescape d ds rfl rfl
    rw [shellCommand_cons hslash, if_neg hb, Cut.text_push, List.length_cons, List.length_cons,
      ← ih]
    omega
  | case5 => rfl

/-! ### Numbers -/

lemma radixNumber?_encode (cs : List Char) :
    radixNumber? (encode cs) = (radixNumber? cs).map Cut.encode := by
  rcases cs with _ | ⟨c, cs⟩
  · rfl
  by_cases hc : c = '0'
  · subst hc
    rw [encode_cons_of_not_isWide (by decide)]
    rcases cs with _ | ⟨x, cs⟩
    · rfl
    rcases encode_cons_cases x cs with ⟨hx, heq⟩ | ⟨hx, b, bs, hb, -, -, heq⟩
    · rw [heq, radixNumber?, radixNumber?, span_encode byteWise_isHexDigitOrMark]
      split
      · rw [Option.map_some, Cut.encode_prepend, encode_cons_of_not_isWide (by decide),
          encode_cons_of_not_isWide hx]
        rfl
      · rfl
    · have hletters : ∀ a ∈ ['x', 'X', 'b', 'B', 'o', 'O'], ¬IsWide a :=
        not_isWide_of_all (by decide)
      rw [heq, radixNumber?, radixNumber?, if_neg fun hmem => hletters _ hmem hb,
        if_neg fun hmem => hletters _ hmem hx]
      rfl
  · obtain ⟨b, bs, h⟩ := exists_encode_cons c cs
    have hb : b ≠ '0' := fun hb => hc ((first_eq_iff h (by decide)).1 hb)
    rw [h, radixNumber?_of_ne hb, radixNumber?_of_ne hc]
    rfl

lemma fraction?_encode (cs : List Char) :
    fraction? (encode cs) = (fraction? cs).map Cut.encode := by
  rcases cs with _ | ⟨c, cs⟩
  · rfl
  by_cases hc : c = '.'
  · subst hc
    rw [encode_cons_of_not_isWide (by decide)]
    rcases cs with _ | ⟨d, cs⟩
    · rfl
    obtain ⟨b, bs, h⟩ := exists_encode_cons d cs
    have hother : b = '.' ∨ b = '=' ↔ d = '.' ∨ d = '=' :=
      or_congr (first_eq_iff h (by decide)) (first_eq_iff h (by decide))
    rw [h, fraction?, fraction?, byteWise_isDigit.first h, if_congr hother rfl rfl, ← h,
      span_encode byteWise_isDigitOrMark]
    split
    · rw [Option.map_some, Cut.encode_push_of_not_isWide (by decide)]
    · split <;> rfl
  · obtain ⟨b, bs, h⟩ := exists_encode_cons c cs
    have hb : b ≠ '.' := fun hb => hc ((first_eq_iff h (by decide)).1 hb)
    rw [h, fraction?_of_ne hb, fraction?_of_ne hc]
    rfl

lemma exponent?_encode (cs : List Char) :
    exponent? (encode cs) = (exponent? cs).map Cut.encode := by
  rcases cs with _ | ⟨e, cs⟩
  · rfl
  by_cases he : e = 'e' ∨ e = 'E'
  · have hnarrow : ¬IsWide e := by rcases he with rfl | rfl <;> decide
    rw [encode_cons_of_not_isWide hnarrow]
    rcases cs with _ | ⟨s, cs⟩
    · rfl
    rcases encode_cons_cases s cs with ⟨hs, heq⟩ | ⟨hs, b, bs, hb, -, -, heq⟩
    · rw [heq, exponent?, exponent?, nextIs_encode byteWise_isDigit, ← heq,
        span_encode byteWise_isDigit, span_encode byteWise_isDigit, if_pos he, if_pos he]
      split
      · split
        · rw [Option.map_some, Cut.encode_prepend, encode_cons_of_not_isWide hnarrow,
            encode_cons_of_not_isWide hs]
          rfl
        · rfl
      · split
        · rw [Option.map_some, Cut.encode_push_of_not_isWide hnarrow]
        · rfl
    · have hsign : ∀ {x : Char}, IsWide x → ¬(x = '+' ∨ x = '-') := by
        rintro x hx (rfl | rfl) <;> exact absurd hx (by decide)
      rw [heq, exponent?, exponent?, if_pos he, if_pos he, if_neg (hsign hb), if_neg (hsign hs),
        if_neg (by simp [isDigit_of_isWide hb]), if_neg (by simp [isDigit_of_isWide hs])]
      rfl
  · obtain ⟨b, bs, h⟩ := exists_encode_cons e cs
    have hb : ¬(b = 'e' ∨ b = 'E') := by
      rwa [first_eq_iff h (by decide), first_eq_iff h (by decide)]
    rw [h, exponent?_of_ne hb, exponent?_of_ne he]
    rfl

lemma optional_encode {part? : List Char → Option Cut}
    (hpart : ∀ cs, part? (encode cs) = (part? cs).map Cut.encode) (cs : List Char) :
    optional part? (encode cs) = ((optional part? cs).1, (optional part? cs).2.encode) := by
  rw [optional, optional, hpart]
  cases part? cs <;> rfl

lemma number_encode (cs : List Char) :
    number (encode cs) = ((number cs).1, (number cs).2.encode) := by
  have hdecimal : decimalNumber (encode cs) =
      ((decimalNumber cs).1, (decimalNumber cs).2.encode) := by
    rw [decimalNumber_eq, decimalNumber_eq]
    dsimp only
    rw [span_encode byteWise_isDigitOrMark]
    dsimp only [Cut.encode]
    rw [optional_encode fraction?_encode]
    dsimp only [Cut.encode]
    rw [optional_encode exponent?_encode]
    simp [Cut.encode, Cut.prepend]
  rw [number, number, radixNumber?_encode, hdecimal]
  cases radixNumber? cs <;> rfl

/-! ### Names -/

lemma continuesName_encode (cs : List Char) : continuesName (encode cs) = continuesName cs := by
  cases cs with
  | nil => rfl
  | cons c cs =>
    obtain ⟨b, bs, h⟩ := exists_encode_cons c cs
    rw [h, continuesName, continuesName, byteWise_isNameChar.first h]
    by_cases hc : c = '\\'
    · subst hc
      rw [encode_cons_of_not_isWide (by decide), List.cons.injEq] at h
      rw [← h.1, ← h.2, nextIs_encode byteWise_isNameStart]
    · have hb : b ≠ '\\' := fun hb => hc ((first_eq_iff h (by decide)).1 hb)
      rw [beq_eq_false_iff_ne.2 hb, beq_eq_false_iff_ne.2 hc, Bool.false_and, Bool.false_and]

lemma name_encode (cs : List Char) : name (encode cs) = (name cs).encode := by
  apply before_encode
  · intro b bs hb
    rw [continuesName, isNameChar_of_isWide hb, Bool.true_or]
    rfl
  · intro cs
    rw [continuesName_encode]

/-! ### Tags and heredocs -/

lemma lineBreak?_encode (cs : List Char) :
    lineBreak? (encode cs) = (lineBreak? cs).map Cut.encode := by
  cases cs with
  | nil => rfl
  | cons c cs =>
    obtain ⟨b, bs, h⟩ := exists_encode_cons c cs
    rw [h, lineBreak?_cons, lineBreak?_cons, if_congr (first_eq_iff h (by decide)) rfl rfl,
      if_congr (first_two_iff h (by decide) (by decide)) rfl rfl]
    split
    · next hc =>
      rw [hc, encode_cons_of_not_isWide (by decide), List.cons.injEq] at h
      rw [← h.2]
      rfl
    split
    · next hc =>
      rw [hc.1, encode_cons_of_not_isWide (by decide), List.cons.injEq] at h
      rw [← h.2, tail_encode (by decide) hc.2]
      rfl
    · rfl

lemma closeTagEnd_encode (cs : List Char) :
    closeTagEnd (encode cs) = (closeTagEnd cs).encode := by
  rw [closeTagEnd_eq, closeTagEnd_eq, lineBreak?_encode]
  cases lineBreak? cs <;> rfl

lemma labelQuote_encode (cs : List Char) : labelQuote (encode cs) = labelQuote cs := by
  cases cs with
  | nil => rfl
  | cons c cs =>
    obtain ⟨b, bs, h⟩ := exists_encode_cons c cs
    have hquote : isQuote b = true ↔ isQuote c = true := by
      rw [isQuote_eq_true, isQuote_eq_true, first_eq_iff h (by decide), first_eq_iff h (by decide)]
    rw [h, labelQuote_cons, labelQuote_cons, if_congr hquote rfl rfl]
    split
    · next hc =>
      have hnarrow : ¬IsWide c := by rcases isQuote_eq_true.1 hc with rfl | rfl <;> decide
      rw [encode_cons_of_not_isWide hnarrow, List.cons.injEq] at h
      rw [h.1]
    · rfl

lemma toLower_of_isWide (hc : IsWide c) : c.toLower = c := by
  apply toLower_of_not_mem_capitals
  have hall : ∀ a ∈ capitals, ¬IsWide a := not_isWide_of_all (by decide)
  intro hmem
  exact hall c hmem hc

lemma not_isWide_toLower (hc : ¬IsWide c) : ¬IsWide c.toLower := by
  by_cases hmem : c ∈ capitals
  · have hall : ∀ a ∈ capitals.map Char.toLower, ¬IsWide a := not_isWide_of_all (by decide)
    exact hall _ (List.mem_map_of_mem hmem)
  · rwa [toLower_of_not_mem_capitals hmem]

/-- Small letters have the bytes of their capitals made small. -/
lemma lower_encode (cs : List Char) : Text.lower (encode cs) = encode (Text.lower cs) := by
  induction cs with
  | nil => rfl
  | cons c cs ih =>
    by_cases hc : IsWide c
    · have hbytes : Text.lower (encodeChar c) = encodeChar c := by
        refine (List.map_congr_left fun b hb => ?_).trans (List.map_id _)
        exact toLower_of_isWide (isWide_of_mem_encodeChar hc hb)
      rw [encode_cons, Text.lower, List.map_append, ← Text.lower, ← Text.lower, hbytes, ih,
        lower_cons, toLower_of_isWide hc, encode_cons]
    · rw [encode_cons_of_not_isWide hc, lower_cons, lower_cons,
        encode_cons_of_not_isWide (not_isWide_toLower hc), ih]

lemma openTagEnd?_encode (cs : List Char) :
    openTagEnd? (encode cs) = (openTagEnd? cs).map Cut.encode := by
  cases cs with
  | nil => rfl
  | cons c cs =>
    obtain ⟨b, bs, h⟩ := exists_encode_cons c cs
    rw [h, openTagEnd?_cons, openTagEnd?_cons, byteWise_isSpace.first h,
      if_congr (first_two_iff h (by decide) (by decide)) rfl rfl]
    split
    · next hc =>
      rw [hc.1, encode_cons_of_not_isWide (by decide), List.cons.injEq] at h
      rw [← h.2, tail_encode (by decide) hc.2]
      rfl
    split
    · next hc =>
      have hnarrow : ¬IsWide c := by
        intro hwide
        rw [isSpace_of_isWide hwide] at hc
        cases hc
      rw [encode_cons_of_not_isWide hnarrow, List.cons.injEq] at h
      rw [← h.1, ← h.2, Option.map_some, Cut.encode, encode_cons_of_not_isWide hnarrow]
      rfl
    · rfl

/-- The first characters are a word if the small letters start with it. -/
lemma isWord_take (spelling : String) (cs : List Char) :
    isWord spelling (cs.take spelling.toList.length) =
      spelling.toList.isPrefixOf (Text.lower cs) := by
  rw [isWord, Bool.eq_iff_iff, beq_iff_eq, List.isPrefixOf_iff_prefix, List.prefix_iff_eq_take,
    ← take_lower, eq_comm]

/-- A word that is spelled in ASCII has no other characters. -/
lemma not_isWide_of_isWord {spelling : String} (hspelling : ∀ a ∈ spelling.toList, ¬IsWide a)
    (h : isWord spelling w = true) : ∀ c ∈ w, ¬IsWide c := by
  intro c hc hwide
  apply hspelling c _ hwide
  rw [← beq_iff_eq.1 h, ← toLower_of_isWide hwide]
  exact List.mem_map_of_mem hc

lemma openTag?_encode (cs : List Char) :
    openTag? (encode cs) = (openTag? cs).map fun tag => (tag.1, tag.2.encode) := by
  have hangles : ∀ a ∈ ['<', '?'], ¬IsWide a := not_isWide_of_all (by decide)
  by_cases hangle : ['<', '?'].isPrefixOf cs = true
  · obtain ⟨cs, rfl⟩ := List.isPrefixOf_iff_prefix.1 hangle
    have hletters : ∀ a ∈ "php".toList, ¬IsWide a := not_isWide_of_all (by decide)
    have hword : isWord "php" ((encode cs).take 3) = isWord "php" (cs.take 3) := by
      have hbytes := isWord_take "php" (encode cs)
      rw [lower_encode, isPrefixOf_encode hletters, ← isWord_take] at hbytes
      exact hbytes
    rw [encode_append, encode_eq_self hangles]
    change openTag? ('<' :: '?' :: encode cs) = (openTag? ('<' :: '?' :: cs)).map _
    rw [openTag?_angle, openTag?_angle, if_congr (head?_encode (by decide)) rfl rfl, hword]
    split
    · next hecho =>
      rw [tail_encode (by decide) hecho]
      rfl
    split
    · next hphp =>
      have hself := encode_eq_self (not_isWide_of_isWord hletters hphp)
      have hlength : 3 = (cs.take 3).length := by
        have hlower := congrArg List.length (beq_iff_eq.1 hphp)
        rw [Text.lower, List.length_map] at hlower
        exact hlower.symm
      have hsplit : encode cs = cs.take 3 ++ encode (cs.drop 3) := by
        rw [← hself, ← encode_append, List.take_append_drop]
      rw [hsplit, List.take_left' hlength.symm, List.drop_left' hlength.symm, openTagEnd?_encode]
      cases openTagEnd? (cs.drop 3) with
      | none => rfl
      | some k =>
        have hopening : encode ('<' :: '?' :: cs.take 3) = '<' :: '?' :: cs.take 3 := by
          rw [encode_cons_of_not_isWide (by decide), encode_cons_of_not_isWide (by decide), hself]
        simp only [Option.map_some, Cut.encode_prepend, hopening]
    · rfl
  · rw [openTag?_of_not_isPrefixOf hangle, openTag?_of_not_isPrefixOf]
    · rfl
    · rwa [isPrefixOf_encode hangles]

end PhpOutline.Lexer
