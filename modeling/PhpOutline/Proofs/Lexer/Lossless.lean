import Mathlib.Tactic.Lemma
import PhpOutline.Lexer.Tokenize

/-!
# The lexer loses nothing

The texts of the tokens, one behind the other, are the source: `concat_tokenize`.  Since every step
of the lexer takes at least one character, no token is empty, and the lexer ends.  The two ends of a
token are boundaries between characters, and the bytes of the source between them are its text.
-/

namespace PhpOutline.Lexer

/-- The texts of the tokens make up the characters they were read from. -/
lemma flatMap_text_tokensFrom (mode : Mode) (cs : List Char) :
    (tokensFrom mode cs).flatMap (fun t => t.text.toList) = cs := by
  fun_induction tokensFrom mode cs with
  | case1 => rfl
  | case2 mode c cs ih =>
    rw [List.flatMap_cons, ih]
    exact (step_lossless mode c cs).1

/-- No token is empty. -/
lemma text_ne_empty_of_mem_tokensFrom {mode : Mode} {cs : List Char} {t : RawToken}
    (ht : t ∈ tokensFrom mode cs) : t.text ≠ "" := by
  fun_induction tokensFrom mode cs with
  | case1 => cases ht
  | case2 mode c cs ih =>
    rcases List.mem_cons.1 ht with rfl | hrest
    · intro hempty
      apply (step_lossless mode c cs).2
      rw [hempty]
      rfl
    · exact ih hrest

lemma toList_concat (ts : List RawToken) :
    (RawToken.concat ts).toList = ts.flatMap fun t => t.text.toList := by
  rw [RawToken.concat, String.toList_join, List.flatMap_map]

/-- The texts of the tokens of a source make up the source. -/
lemma concat_tokenize (source : String) : RawToken.concat (tokenize source) = source := by
  apply String.toList_injective
  rw [toList_concat]
  exact flatMap_text_tokensFrom _ _

/-- The boundary between two parts of a source is a boundary between characters. -/
lemma isValid_rawEndPos_append (front back : String) :
    front.rawEndPos.IsValid (front ++ back) :=
  String.Pos.Raw.isValid_iff_exists_append.2 ⟨front, back, rfl, rfl⟩

/-- The bytes of a source between two such boundaries are those of the text between them. -/
lemma extract_between (front text back : String) :
    (front ++ text ++ back).toByteArray.extract front.rawEndPos.byteIdx
      (front ++ text).rawEndPos.byteIdx = text.toByteArray := by
  have htext : (front ++ text).toByteArray.extract front.rawEndPos.byteIdx
      (front ++ text).rawEndPos.byteIdx = text.toByteArray := by
    rw [String.toByteArray_append]
    exact ByteArray.extract_append_eq_right (by simp) (by simp)
  have hback : back.toByteArray.extract
      (front.rawEndPos.byteIdx - (front ++ text).toByteArray.size)
      ((front ++ text).rawEndPos.byteIdx - (front ++ text).toByteArray.size) = ByteArray.empty := by
    rw [ByteArray.extract_eq_empty_iff]
    simp
  rw [String.toByteArray_append, ByteArray.extract_append, htext, hback, ByteArray.append_empty]

/-- The text in front of a boundary, the token behind it and the rest make up the source. -/
lemma concat_split {source : String} {front back : List RawToken} {t : RawToken}
    (hsplit : tokenize source = front ++ t :: back) :
    RawToken.concat front ++ t.text ++ RawToken.concat back = source := by
  rw [← concat_tokenize source, hsplit]
  simp [RawToken.concat, String.join_append, String.append_assoc]

end PhpOutline.Lexer
