import Mathlib.Tactic.Lemma
import PhpOutline.Lexer.Scan
import PhpOutline.Proofs.Lexer.Lossless

/-!
# Places between the characters of a source

The bytes of a text are the bytes of its characters (`encode`).  An ASCII character is its own byte,
and a character beyond ASCII has only bytes beyond ASCII (`encode_cons_cases`).

A place is `At` some characters if these are what the source has behind it.  The bytes from there on
are then the bytes of these characters (`At.octetsFrom_eq`), the places behind their front parts are
such places too (`At.append`), and the slice between two such places is there (`At.slice_eq`).
-/

namespace PhpOutline.Lexer

/-! ### The bytes of characters -/

/-- The bytes of a character. -/
def encodeChar (c : Char) : List Char := (String.utf8EncodeChar c).map Char.ofUInt8

/-- The bytes of some characters. -/
def encode (cs : List Char) : List Char := cs.flatMap encodeChar

/-- The character, or byte, is beyond ASCII. -/
def IsWide (c : Char) : Prop := 0x80 ≤ c.toNat

variable {c b : Char} {cs ds bs front back : List Char} {source : String} {place : Nat}

@[simp] lemma encode_nil : encode [] = [] := rfl

@[simp] lemma encode_append (cs ds : List Char) : encode (cs ++ ds) = encode cs ++ encode ds :=
  List.flatMap_append

lemma encode_cons (c : Char) (cs : List Char) : encode (c :: cs) = encodeChar c ++ encode cs :=
  List.flatMap_cons

lemma toNat_ofUInt8 {n : Nat} (hn : n < 256) : (Char.ofUInt8 (UInt8.ofNat n)).toNat = n :=
  UInt8.toNat_ofNat_of_lt' hn

/-- An ASCII character is its own byte. -/
lemma encodeChar_of_not_isWide (hc : ¬IsWide c) : encodeChar c = [c] := by
  have hsmall : c.val.toNat ≤ 0x7f := by
    have hlt : c.toNat < 0x80 := Nat.lt_of_not_le hc
    exact Nat.le_of_lt_succ hlt
  rw [encodeChar, String.utf8EncodeChar, if_pos hsmall, List.map_singleton, List.cons.injEq]
  refine ⟨?_, rfl⟩
  apply Char.toNat_inj.1
  exact toNat_ofUInt8 (by omega)

/-- The bytes of a character beyond ASCII are beyond ASCII. -/
lemma isWide_of_mem_encodeChar (hc : IsWide c) (hb : b ∈ encodeChar c) : IsWide b := by
  have hlarge : ¬c.val.toNat ≤ 0x7f := by
    have hle : 0x80 ≤ c.val.toNat := hc
    omega
  obtain ⟨octet, hoctet, rfl⟩ := List.mem_map.1 hb
  unfold IsWide
  rw [String.utf8EncodeChar, if_neg hlarge] at hoctet
  split at hoctet
  · simp only [List.mem_cons, List.not_mem_nil, or_false] at hoctet
    rcases hoctet with rfl | rfl <;> rw [toNat_ofUInt8 (by omega)] <;> omega
  split at hoctet
  · simp only [List.mem_cons, List.not_mem_nil, or_false] at hoctet
    rcases hoctet with rfl | rfl | rfl <;> rw [toNat_ofUInt8 (by omega)] <;> omega
  · simp only [List.mem_cons, List.not_mem_nil, or_false] at hoctet
    rcases hoctet with rfl | rfl | rfl | rfl <;> rw [toNat_ofUInt8 (by omega)] <;> omega

lemma encodeChar_ne_nil (c : Char) : encodeChar c ≠ [] := by
  intro h
  exact String.utf8EncodeChar_ne_nil (List.map_eq_nil_iff.1 h)

lemma length_encodeChar (c : Char) : (encodeChar c).length = c.utf8Size := by
  rw [encodeChar, List.length_map, String.length_utf8EncodeChar]

/-- A text starts with an ASCII character, which is its own first byte, or with a character beyond
ASCII, all of whose bytes are beyond ASCII. -/
lemma encode_cons_cases (c : Char) (cs : List Char) :
    (¬IsWide c ∧ encode (c :: cs) = c :: encode cs) ∨
      IsWide c ∧ ∃ b bs, IsWide b ∧ (∀ x ∈ bs, IsWide x) ∧
        encodeChar c = b :: bs ∧ encode (c :: cs) = b :: (bs ++ encode cs) := by
  by_cases hc : IsWide c
  · right
    obtain ⟨b, bs, hbytes⟩ := List.exists_cons_of_ne_nil (encodeChar_ne_nil c)
    refine ⟨hc, b, bs, ?_, ?_, hbytes, ?_⟩
    · exact isWide_of_mem_encodeChar hc (by simp [hbytes])
    · intro x hx
      exact isWide_of_mem_encodeChar hc (by simp [hbytes, hx])
    · rw [encode_cons, hbytes, List.cons_append]
  · exact .inl ⟨hc, by rw [encode_cons, encodeChar_of_not_isWide hc]; rfl⟩

lemma encode_cons_of_not_isWide (hc : ¬IsWide c) (cs : List Char) :
    encode (c :: cs) = c :: encode cs := by
  rw [encode_cons, encodeChar_of_not_isWide hc]
  rfl

lemma not_isWide_of_all (h : (cs.all fun c => c.toNat < 0x80) = true) : ∀ c ∈ cs, ¬IsWide c := by
  intro c hc
  have hsmall := of_decide_eq_true (List.all_eq_true.1 h c hc)
  exact Nat.not_le_of_lt hsmall

/-- A text of ASCII characters is its own bytes. -/
lemma encode_eq_self (h : ∀ c ∈ cs, ¬IsWide c) : encode cs = cs := by
  induction cs with
  | nil => rfl
  | cons c cs ih =>
    obtain ⟨hc, hcs⟩ := List.forall_mem_cons.1 h
    rw [encode_cons_of_not_isWide hc, ih hcs]

lemma encode_eq_nil : encode cs = [] ↔ cs = [] := by
  constructor
  · intro h
    cases cs with
    | nil => rfl
    | cons c cs =>
      rw [encode_cons] at h
      exact absurd (List.append_eq_nil_iff.1 h).1 (encodeChar_ne_nil c)
  · rintro rfl
    rfl

lemma length_encode (cs : List Char) : (encode cs).length = (String.ofList cs).utf8ByteSize := by
  rw [← String.size_toByteArray, String.toByteArray_ofList, List.utf8Encode,
    List.size_toByteArray, encode]
  simp [encodeChar, List.length_flatMap]

lemma octets_eq (source : String) : octets source = encode source.toList := by
  have hbytes : source.toByteArray = source.toList.utf8Encode := by
    rw [← String.toByteArray_ofList, String.ofList_toList]
  rw [octets, hbytes, List.utf8Encode, List.toList_data_toByteArray, List.map_flatMap]
  rfl

/-! ### Places in a source -/

/-- The source has these characters behind the place. -/
def At (source : String) (place : Nat) (cs : List Char) : Prop :=
  ∃ front, source.toList = front ++ cs ∧ place = (encode front).length

lemma at_zero (source : String) : At source 0 source.toList := ⟨[], rfl, rfl⟩

/-- The place behind front characters. -/
lemma At.append (h : At source place (front ++ back)) :
    At source (place + (encode front).length) back := by
  obtain ⟨before, hsource, rfl⟩ := h
  exact ⟨before ++ front, by rw [hsource, List.append_assoc],
    by rw [encode_append, List.length_append]⟩

/-- From such a place on the bytes are those of the characters. -/
lemma At.octetsFrom_eq (h : At source place cs) : octetsFrom source place = encode cs := by
  obtain ⟨before, hsource, rfl⟩ := h
  rw [octetsFrom, octets_eq, hsource, encode_append, List.drop_left]

lemma At.add_length (h : At source place cs) :
    place + (encode cs).length = source.utf8ByteSize := by
  obtain ⟨before, hsource, rfl⟩ := h
  rw [← List.length_append, ← encode_append, ← hsource, length_encode, String.ofList_toList]

lemma At.le_size (h : At source place cs) : place ≤ source.utf8ByteSize := by
  rw [← h.add_length]
  exact Nat.le_add_right _ _

/-- A place with fewer characters behind it is further on. -/
lemma At.lt_of_length_lt {place' : Nat} (h : At source place cs) (h' : At source place' ds)
    (hlt : ds.length < cs.length) : place < place' := by
  obtain ⟨front, hsource, rfl⟩ := h
  obtain ⟨front', hsource', rfl⟩ := h'
  rw [hsource] at hsource'
  rcases List.append_eq_append_iff.1 hsource' with ⟨between, rfl, rfl⟩ | ⟨between, -, rfl⟩
  · have hne : between ≠ [] := by
      rintro rfl
      exact Nat.lt_irrefl _ hlt
    rw [encode_append, List.length_append, Nat.lt_add_right_iff_pos, List.length_pos_iff, Ne,
      encode_eq_nil]
    exact hne
  · rw [List.length_append] at hlt
    omega

/-- The place is the end of the source if no characters are behind it. -/
lemma At.lt_size_iff (h : At source place cs) : place < source.utf8ByteSize ↔ cs ≠ [] := by
  rw [← h.add_length, Nat.lt_add_right_iff_pos, List.length_pos_iff, Ne, encode_eq_nil]

lemma fromUTF8?_toByteArray (text : String) : String.fromUTF8? text.toByteArray = some text := by
  rw [String.fromUTF8?, dif_pos text.isValidUTF8]
  rfl

/-- The slice between two such places is there, and it is the text between them. -/
lemma At.slice_eq (h : At source place (front ++ back)) :
    slice source place (place + (encode front).length) = some (String.ofList front) := by
  obtain ⟨before, hsource, rfl⟩ := h
  have hparts : source = String.ofList before ++ String.ofList front ++ String.ofList back := by
    rw [← String.ofList_append, ← String.ofList_append, List.append_assoc, ← hsource,
      String.ofList_toList]
  have hstart : (encode before).length = (String.ofList before).rawEndPos.byteIdx :=
    length_encode before
  have hstop : (encode before).length + (encode front).length =
      (String.ofList before ++ String.ofList front).rawEndPos.byteIdx := by
    rw [← List.length_append, ← encode_append, length_encode, String.ofList_append]
    rfl
  rw [hstop, hstart, slice, if_pos, hparts, extract_between, fromUTF8?_toByteArray]
  refine ⟨?_, ?_, ?_⟩
  · rw [← hstop, ← hstart]
    exact Nat.le_add_right _ _
  · rw [hparts, String.append_assoc]
    exact isValid_rawEndPos_append _ _
  · rw [hparts]
    exact isValid_rawEndPos_append _ _

lemma At.sliceFrom_eq (h : At source place cs) : sliceFrom source place = some cs := by
  have hall : At source place (cs ++ []) := by rwa [List.append_nil]
  rw [sliceFrom, ← h.add_length, hall.slice_eq, Option.map_some, String.toList_ofList]

end PhpOutline.Lexer
