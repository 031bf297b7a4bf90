import Mathlib.Data.List.TakeWhile
import PhpOutline.Package.Tag

/-!
# Packaging tags are found independently

One pass reads all tags of a doc comment and goes on behind each one that it finds.  Nothing is lost
by that: what stands between the at sign of an occurrence and its end is a name, white space and
value characters, and none of these is an at sign (`not_mem_of_occurrenceOf?`), so that no other
occurrence starts there.  At one at sign at most one tag occurs, since no name starts another
(`eq_of_occurrenceOf?`).

So for each tag the pass finds what a search for that tag alone finds
(`lookup_occurrences`), which is the first of its occurrences in the text
(`PackageTags.get?_ofDocblock`).
-/

namespace PhpOutline

/-! ### White space and values -/

/-- Characters of a table are in no other table whose ranges lie before or behind those of the
first. -/
lemma Text.inRanges_eq_false {table table' : List CodePointRange} {c : Char}
    (hapart : (table.all fun r => table'.all fun s =>
      decide (r.last < s.first) || decide (s.last < r.first)) = true)
    (hc : inRanges table c = true) : inRanges table' c = false := by
  obtain ⟨r, hr, hin⟩ := List.any_eq_true.1 hc
  rw [inRanges, List.any_eq_false]
  intro s hs hin'
  have hrs := List.all_eq_true.1 (List.all_eq_true.1 hapart r hr) s hs
  simp only [CodePointRange.contains, Bool.and_eq_true, Bool.or_eq_true, decide_eq_true_iff]
    at hin hin' hrs
  omega

namespace Tag

/-- No value starts with white space. -/
lemma isValueChar_of_isWhiteSpace {c : Char} (h : Text.isWhiteSpace c = true) :
    isValueChar c = false := by
  have hword : Text.isWordChar c = false := Text.inRanges_eq_false (by decide +kernel) h
  have hdot : c ≠ '.' := by
    rintro rfl
    revert h
    decide
  rw [isValueChar, hword, Bool.or_false, beq_eq_false_iff_ne]
  exact hdot

/-! ### Occurrences -/

/-- A text starts with the tag, the at sign already read: the name, white space, and value
characters up to the first other character. -/
structure StartsAt (tag : Tag) (cs space value rest : List Char) : Prop where
  text : cs = tag.name.toList ++ (space ++ (value ++ rest))
  space_ne_nil : space ≠ []
  isWhiteSpace : ∀ c ∈ space, Text.isWhiteSpace c = true
  value_ne_nil : value ≠ []
  isValueChar : ∀ c ∈ value, isValueChar c = true
  ends : ∀ c ∈ rest.head?, Tag.isValueChar c = false

/-- The tag occurs in the text behind `front`, with the given value. -/
def OccursBehind (tag : Tag) (text front value : List Char) : Prop :=
  ∃ cs space rest, text = front ++ '@' :: cs ∧ tag.StartsAt cs space value rest

/-- Somewhere in the text an at sign is followed by the name of the tag, by white space and by a
value character. -/
def Occurs (tag : Tag) (text : List Char) : Prop :=
  ∃ front space c rest, text = front ++ '@' :: (tag.name.toList ++ (space ++ c :: rest)) ∧
    space ≠ [] ∧ (∀ d ∈ space, Text.isWhiteSpace d = true) ∧ isValueChar c = true

variable {tag tag' : Tag} {cs space value rest text front : List Char} {c : Char}
  {o o' : Occurrence}

/-- A run of characters of one class in front of a character of another is what is taken while the
class lasts. -/
lemma takeWhile_dropWhile_append {p : Char → Bool} {run : List Char}
    (hrun : ∀ c ∈ run, p c = true) (hends : ∀ c ∈ rest.head?, p c = false) :
    (run ++ rest).takeWhile p = run ∧ (run ++ rest).dropWhile p = rest := by
  have hrest : rest.takeWhile p = [] ∧ rest.dropWhile p = rest := by
    cases rest with
    | nil => exact ⟨rfl, rfl⟩
    | cons c rest =>
      have hc : ¬ p c = true := by simp [hends c rfl]
      exact ⟨List.takeWhile_cons_of_neg hc, List.dropWhile_cons_of_neg hc⟩
  rw [List.takeWhile_append_of_pos hrun, List.dropWhile_append_of_pos hrun, hrest.1, hrest.2,
    List.append_nil]
  exact ⟨rfl, rfl⟩

/-- What stands behind a run of characters that are taken while a class lasts. -/
lemma head?_dropWhile_eq_false (p : Char → Bool) (cs : List Char) :
    ∀ c ∈ (cs.dropWhile p).head?, p c = false := by
  intro c hc
  have hhead := List.head?_dropWhile_not p cs
  rw [Option.mem_def.1 hc] at hhead
  simpa using hhead

/-- The text behind a prefix. -/
lemma after?_eq_some {cs' : List Char} :
    Text.after? front cs = some cs' ↔ cs = front ++ cs' := by
  unfold Text.after?
  split
  · next h =>
    obtain ⟨back, rfl⟩ := List.isPrefixOf_iff_prefix.1 h
    simp
  · next h =>
    refine iff_of_false (by simp) ?_
    rintro rfl
    exact h (List.isPrefixOf_iff_prefix.2 (List.prefix_append front cs'))

/-- Where white space and a value character follow the name, the tag has a value, which is the run
of value characters that starts there. -/
lemma startsAt_takeWhile (hne : space ≠ []) (hspace : ∀ c ∈ space, Text.isWhiteSpace c = true)
    (hvalue : cs.head?.any isValueChar = true) :
    tag.StartsAt (tag.name.toList ++ (space ++ cs)) space (cs.takeWhile isValueChar)
      (cs.dropWhile isValueChar) where
  text := by rw [List.takeWhile_append_dropWhile]
  space_ne_nil := hne
  isWhiteSpace := hspace
  value_ne_nil := by
    cases cs with
    | nil => cases hvalue
    | cons c cs => simp [List.takeWhile_cons_of_pos (by simpa using hvalue)]
  isValueChar := fun c hc => List.mem_takeWhile_imp hc
  ends := head?_dropWhile_eq_false _ _

/-- What is read behind a name is white space and a value, both as long as they can be. -/
lemma startsAt_of_occurrenceOf? (h : occurrenceOf? tag cs = some o) :
    o.tag = tag ∧ ∃ space, tag.StartsAt cs space o.value o.rest := by
  unfold occurrenceOf? at h
  split at h
  · cases h
  · next behind hbehind =>
    obtain rfl := after?_eq_some.1 hbehind
    dsimp only at h
    split at h
    · next hboth =>
      cases h
      obtain ⟨hspace, hvalue⟩ := Bool.and_eq_true_iff.1 hboth
      have hne : behind.takeWhile Text.isWhiteSpace ≠ [] := by
        cases behind with
        | nil => cases hspace
        | cons c behind => simp [List.takeWhile_cons_of_pos (by simpa using hspace)]
      have hstart : tag.StartsAt _ _ _ _ :=
        startsAt_takeWhile hne (fun c hc => List.mem_takeWhile_imp hc) hvalue
      rw [List.takeWhile_append_dropWhile] at hstart
      exact ⟨rfl, _, hstart⟩
    · cases h

/-- Reading a tag finds its value, and white space and value are as long as they can be. -/
lemma occurrenceOf?_eq_some :
    occurrenceOf? tag cs = some o ↔
      o.tag = tag ∧ ∃ space, tag.StartsAt cs space o.value o.rest := by
  refine ⟨startsAt_of_occurrenceOf?, ?_⟩
  rintro ⟨rfl, space, h⟩
  obtain ⟨s, space', hspace⟩ := List.exists_cons_of_ne_nil h.space_ne_nil
  obtain ⟨v, value', hvalue⟩ := List.exists_cons_of_ne_nil h.value_ne_nil
  have hv : isValueChar v = true := h.isValueChar v (by simp [hvalue])
  have hdrop : (space ++ (o.value ++ o.rest)).dropWhile Text.isWhiteSpace = o.value ++ o.rest := by
    refine (takeWhile_dropWhile_append h.isWhiteSpace ?_).2
    intro c hc
    rw [hvalue, List.cons_append, List.head?_cons, Option.mem_some_iff] at hc
    subst hc
    rw [Bool.eq_false_iff]
    intro hwhite
    rw [isValueChar_of_isWhiteSpace hwhite] at hv
    cases hv
  obtain ⟨htake, hdrop'⟩ := takeWhile_dropWhile_append h.isValueChar h.ends
  have hboth : ((space ++ (o.value ++ o.rest)).head?.any Text.isWhiteSpace &&
      (o.value ++ o.rest).head?.any isValueChar) = true := by
    have hs := h.isWhiteSpace s (by simp [hspace])
    simp [hspace, hvalue, hs, hv]
  rw [occurrenceOf?, after?_eq_some.2 h.text]
  dsimp only
  rw [hdrop, hboth, htake, hdrop']
  rfl

/-- No name of a tag starts another one. -/
lemma eq_of_prefix_name (h : tag.name.toList <+: tag'.name.toList) : tag = tag' := by
  revert h
  cases tag <;> cases tag' <;> decide

/-- At one place at most one tag occurs. -/
lemma eq_of_occurrenceOf? (h : occurrenceOf? tag cs = some o)
    (h' : occurrenceOf? tag' cs = some o') : tag = tag' := by
  obtain ⟨-, space, hstart⟩ := occurrenceOf?_eq_some.1 h
  obtain ⟨-, space', hstart'⟩ := occurrenceOf?_eq_some.1 h'
  have hname : tag.name.toList <+: cs := ⟨_, hstart.text.symm⟩
  have hname' : tag'.name.toList <+: cs := ⟨_, hstart'.text.symm⟩
  rcases List.prefix_or_prefix_of_prefix hname hname' with hstarts | hstarts
  · exact eq_of_prefix_name hstarts
  · exact (eq_of_prefix_name hstarts).symm

/-- The tag at the front of a text is the one that is found there by itself. -/
lemma occurrence?_eq_some :
    occurrence? ('@' :: cs) = some o ↔ occurrenceOf? o.tag cs = some o := by
  rw [occurrence?]
  constructor
  · intro h
    obtain ⟨tag, -, htag⟩ := List.exists_of_findSome?_eq_some h
    rwa [(occurrenceOf?_eq_some.1 htag).1]
  · intro h
    have hmem : o.tag ∈ all := by cases o.tag <;> decide
    cases hfound : all.findSome? fun tag => occurrenceOf? tag cs with
    | none =>
      rw [List.findSome?_eq_none_iff.1 hfound _ hmem] at h
      cases h
    | some o' =>
      obtain ⟨tag, -, htag⟩ := List.exists_of_findSome?_eq_some hfound
      obtain rfl := eq_of_occurrenceOf? htag h
      rw [← h, htag]

/-- Between the at sign of an occurrence and its end there is no other at sign. -/
lemma not_mem_of_occurrenceOf? (h : occurrenceOf? tag cs = some o) :
    ∃ inside, cs = inside ++ o.rest ∧ '@' ∉ inside := by
  obtain ⟨-, space, hstart⟩ := occurrenceOf?_eq_some.1 h
  refine ⟨tag.name.toList ++ (space ++ o.value), by simp [hstart.text], ?_⟩
  have hname : '@' ∉ tag.name.toList := by cases tag <;> decide
  have hspace : '@' ∉ space := fun hat => absurd (hstart.isWhiteSpace _ hat) (by decide)
  have hvalue : '@' ∉ o.value := fun hat => absurd (hstart.isValueChar _ hat) (by decide +kernel)
  simp [hname, hspace, hvalue]

/-! ### A search for one tag -/

/-- The first occurrence of the tag in a text, whatever other tags the text has. -/
def search? (tag : Tag) : List Char → Option Occurrence
  | [] => none
  | c :: cs => if c = '@' then (occurrenceOf? tag cs).or (search? tag cs) else search? tag cs

/-- The search passes over text without an at sign. -/
lemma search?_append (h : '@' ∉ front) : search? tag (front ++ cs) = search? tag cs := by
  induction front with
  | nil => rfl
  | cons c front ih =>
    have hc : c ≠ '@' := fun heq => h (by simp [heq])
    rw [List.cons_append, search?, if_neg hc, ih fun hmem => h (List.mem_cons_of_mem c hmem)]

/-- Behind an occurrence of another tag the search goes on where that occurrence ends. -/
lemma search?_of_occurrence? (h : occurrence? ('@' :: cs) = some o) (hne : o.tag ≠ tag) :
    search? tag ('@' :: cs) = search? tag o.rest := by
  have ho := occurrence?_eq_some.1 h
  obtain ⟨inside, hcs, hat⟩ := not_mem_of_occurrenceOf? ho
  have hnone : occurrenceOf? tag cs = none := by
    rw [Option.eq_none_iff_forall_ne_some]
    intro o' ho'
    exact hne (eq_of_occurrenceOf? ho ho')
  rw [search?, if_pos rfl, hnone, Option.none_or, hcs, search?_append hat]

/-- Where no tag occurs, the search goes on behind the first character. -/
lemma search?_of_occurrence?_eq_none (h : occurrence? (c :: cs) = none) :
    search? tag (c :: cs) = search? tag cs := by
  by_cases hc : c = '@'
  · subst hc
    have hnone : occurrenceOf? tag cs = none := by
      rw [Option.eq_none_iff_forall_ne_some]
      intro o ho
      have htag := (occurrenceOf?_eq_some.1 ho).1
      rw [occurrence?_eq_some.2 (htag ▸ ho)] at h
      cases h
    rw [search?, if_pos rfl, hnone, Option.none_or]
  · rw [search?, if_neg hc]

/-- The pass over all tags finds of each tag what a search for it alone finds. -/
lemma lookup_occurrences (tag : Tag) (cs : List Char) :
    (occurrences cs).lookup tag = (search? tag cs).map fun o => String.ofList o.value := by
  induction cs using occurrences.induct with
  | case1 => rw [occurrences]; rfl
  | case2 c cs o h _ ih =>
    have hpass : occurrences (c :: cs) = (o.tag, String.ofList o.value) :: occurrences o.rest := by
      rw [occurrences]
      split
      · next o' ho' =>
        cases h.symm.trans ho'
        rfl
      · next hnone =>
        rw [h] at hnone
        cases hnone
    obtain rfl : c = '@' := by
      unfold occurrence? at h
      split at h
      · next heq => exact (List.cons.inj heq).1
      · cases h
    rw [hpass, List.lookup_cons]
    by_cases heq : tag = o.tag
    · subst heq
      rw [search?, if_pos rfl, occurrence?_eq_some.1 h]
      simp
    · rw [beq_eq_false_iff_ne.2 heq, search?_of_occurrence? h (Ne.symm heq), ← ih]
  | case3 c cs h ih =>
    have hpass : occurrences (c :: cs) = occurrences cs := by
      rw [occurrences]
      split
      · next o ho =>
        rw [h] at ho
        cases ho
      · rfl
    rw [hpass, ih, search?_of_occurrence?_eq_none h]

/-- What the search finds is the first occurrence.  The induction is on the text: either the tag
occurs at its front, or the first character stands in front of every occurrence. -/
lemma exists_of_search? (h : search? tag text = some o) :
    ∃ front cs, text = front ++ '@' :: cs ∧ occurrenceOf? tag cs = some o ∧
      ∀ front' cs' o', text = front' ++ '@' :: cs' → occurrenceOf? tag cs' = some o' →
        front.length ≤ front'.length := by
  induction text with
  | nil => cases h
  | cons c text ih =>
    by_cases hhere : c = '@' ∧ (occurrenceOf? tag text).isSome = true
    · obtain ⟨rfl, hsome⟩ := hhere
      obtain ⟨o', ho'⟩ := Option.isSome_iff_exists.1 hsome
      rw [search?, if_pos rfl, ho', Option.some_or] at h
      cases h
      exact ⟨[], text, rfl, ho', fun _ _ _ _ _ => Nat.zero_le _⟩
    · have hrest : search? tag (c :: text) = search? tag text := by
        rw [search?]
        split
        · next hc => rw [Option.not_isSome_iff_eq_none.1 fun hsome => hhere ⟨hc, hsome⟩,
            Option.none_or]
        · rfl
      obtain ⟨front, cs, rfl, ho, hfirst⟩ := ih (hrest.symm.trans h)
      refine ⟨c :: front, cs, rfl, ho, ?_⟩
      intro front' cs' o' htext ho'
      cases front' with
      | nil =>
        obtain ⟨hc, htail⟩ := List.cons.inj htext
        rw [htail, ho'] at hhere
        exact absurd ⟨hc, rfl⟩ hhere
      | cons c' front' =>
        exact Nat.succ_le_succ (hfirst front' cs' o' (List.cons.inj htext).2 ho')

/-- The search finds an occurrence if there is one. -/
lemma isSome_search? (h : occurrenceOf? tag cs = some o) (front : List Char) :
    (search? tag (front ++ '@' :: cs)).isSome = true := by
  induction front with
  | nil => rw [List.nil_append, search?, if_pos rfl, h]; rfl
  | cons c front ih =>
    rw [List.cons_append, search?]
    split
    · rw [Option.isSome_or, ih, Bool.or_true]
    · exact ih

/-! ### Occurrences in a text -/

/-- An occurrence is one that is read behind an at sign. -/
lemma occursBehind_iff :
    tag.OccursBehind text front value ↔
      ∃ cs o, text = front ++ '@' :: cs ∧ occurrenceOf? tag cs = some o ∧ o.value = value := by
  constructor
  · rintro ⟨cs, space, rest, htext, hstart⟩
    exact ⟨cs, ⟨tag, value, rest⟩, htext, occurrenceOf?_eq_some.2 ⟨rfl, space, hstart⟩, rfl⟩
  · rintro ⟨cs, o, htext, ho, rfl⟩
    obtain ⟨-, space, hstart⟩ := occurrenceOf?_eq_some.1 ho
    exact ⟨cs, space, o.rest, htext, hstart⟩

/-- The search finds a value if it is that of the first occurrence. -/
lemma search?_eq_some :
    (search? tag text).map (·.value) = some value ↔
      ∃ front, tag.OccursBehind text front value ∧
        ∀ front' value', tag.OccursBehind text front' value' → front.length ≤ front'.length := by
  constructor
  · intro h
    obtain ⟨o, ho, rfl⟩ := Option.map_eq_some_iff.1 h
    obtain ⟨front, cs, htext, hread, hfirst⟩ := exists_of_search? ho
    refine ⟨front, occursBehind_iff.2 ⟨cs, o, htext, hread, rfl⟩, ?_⟩
    intro front' value' hoccurs
    obtain ⟨cs', o', htext', hread', -⟩ := occursBehind_iff.1 hoccurs
    exact hfirst front' cs' o' htext' hread'
  · rintro ⟨front, hoccurs, hleast⟩
    obtain ⟨cs, o, htext, hread, rfl⟩ := occursBehind_iff.1 hoccurs
    obtain ⟨o', ho'⟩ := Option.isSome_iff_exists.1 (isSome_search? hread front)
    rw [← htext] at ho'
    obtain ⟨front', cs', htext', hread', hfirst⟩ := exists_of_search? ho'
    -- both are first, so that they stand in the same place
    have hlength : front.length = front'.length :=
      Nat.le_antisymm (hleast front' o'.value (occursBehind_iff.2 ⟨cs', o', htext', hread', rfl⟩))
        (hfirst front cs o htext hread)
    obtain ⟨-, hcs⟩ := List.append_inj (htext.symm.trans htext') hlength
    rw [(List.cons.inj hcs).2, hread'] at hread
    rw [ho', Option.map_some, Option.some.inj hread]

/-- A tag with white space and a value character behind it has a value. -/
lemma occurs_iff : tag.Occurs text ↔ ∃ front value, tag.OccursBehind text front value := by
  constructor
  · rintro ⟨front, space, c, rest, htext, hne, hspace, hc⟩
    exact ⟨front, _, _, space, _, htext, startsAt_takeWhile hne hspace (by simp [hc])⟩
  · rintro ⟨front, value, cs, space, rest, htext, hstart⟩
    obtain ⟨c, value, rfl⟩ := List.exists_cons_of_ne_nil hstart.value_ne_nil
    refine ⟨front, space, c, value ++ rest, ?_, hstart.space_ne_nil, hstart.isWhiteSpace,
      hstart.isValueChar c List.mem_cons_self⟩
    rw [htext, hstart.text]
    rfl

/-- The search finds something if the tag occurs somewhere. -/
lemma isSome_search?_iff : (search? tag text).isSome = true ↔ tag.Occurs text := by
  rw [occurs_iff]
  constructor
  · intro h
    obtain ⟨o, ho⟩ := Option.isSome_iff_exists.1 h
    obtain ⟨front, cs, htext, hread, -⟩ := exists_of_search? ho
    exact ⟨front, o.value, occursBehind_iff.2 ⟨cs, o, htext, hread, rfl⟩⟩
  · rintro ⟨front, value, hoccurs⟩
    obtain ⟨cs, o, rfl, hread, -⟩ := occursBehind_iff.1 hoccurs
    exact isSome_search? hread front

end Tag

namespace PackageTags

/-- The value of a tag. -/
def get? (tags : PackageTags) : Tag → Option String
  | .category => tags.category
  | .package => tags.package
  | .subpackage => tags.subpackage

lemma get?_ofDocblock_eq_search? (docblock : String) (tag : Tag) :
    (ofDocblock docblock).get? tag =
      (tag.search? docblock.toList).map fun o => String.ofList o.value := by
  rw [← Tag.lookup_occurrences]
  cases tag <;> rfl

/-- **Tags are found independently.**  The pass over a doc comment gives each tag what a search for
this tag alone gives.  There is a value if somewhere the tag, with its at sign, is followed by white
space and a value character, and the value is then the one of the first occurrence, as long as it
can be. -/
theorem get?_ofDocblock (docblock : String) (tag : Tag) :
    (ofDocblock docblock).get? tag =
        (tag.search? docblock.toList).map (fun o => String.ofList o.value) ∧
      (((ofDocblock docblock).get? tag).isSome = true ↔ tag.Occurs docblock.toList) ∧
      ∀ value, (ofDocblock docblock).get? tag = some value ↔
        ∃ front, tag.OccursBehind docblock.toList front value.toList ∧
          ∀ front' value', tag.OccursBehind docblock.toList front' value' →
            front.length ≤ front'.length := by
  have hsearch := get?_ofDocblock_eq_search? docblock tag
  refine ⟨hsearch, ?_, fun value => ?_⟩
  · rw [hsearch, Option.isSome_map, Tag.isSome_search?_iff]
  · have hvalue : (ofDocblock docblock).get? tag = some value ↔
        (tag.search? docblock.toList).map (·.value) = some value.toList := by
      rw [hsearch, Option.map_eq_some_iff, Option.map_eq_some_iff]
      refine exists_congr fun o => and_congr_right fun _ => ?_
      constructor
      · rintro rfl
        exact String.toList_ofList.symm
      · intro h
        rw [h, String.ofList_toList]
    rw [hvalue, Tag.search?_eq_some]

/-- The first package tag is followed by another tag instead of a value, and the tag behind it
counts although it starts where the first one failed. -/
example : ofDocblock "/** @package @category A\n * @subpackage\tx @package b.c-d @package e */" =
    ⟨some "A", some "b.c", some "x"⟩ := by
  decide +kernel

end PackageTags

end PhpOutline
