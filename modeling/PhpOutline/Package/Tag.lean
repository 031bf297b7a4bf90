import PhpOutline.Text.Split
import PhpOutline.Text.WhiteSpace
import PhpOutline.Text.WordChar

/-!
# Packaging tags

A doc comment may say to which package a container belongs: a tag such as `@package`, white space
and a value made of word characters and dots.  One pass from left to right finds the tags; a
stretch of text belongs to one tag at most, and the first occurrence of each tag counts.
-/

namespace PhpOutline

/-- The tags that say where a container belongs. -/
inductive Tag
  | category | package | subpackage
deriving DecidableEq, Inhabited

namespace Tag

/-- The word behind the at sign. -/
def name : Tag → String
  | category => "category"
  | package => "package"
  | subpackage => "subpackage"

/-- All tags. -/
def all : List Tag := [category, package, subpackage]

/-- The characters of a value. -/
def isValueChar (c : Char) : Bool := c == '.' || Text.isWordChar c

/-- A tag with its value and the text behind it. -/
structure Occurrence where
  tag : Tag
  value : List Char
  rest : List Char

/-- The occurrence of the given tag at the front of a text, the at sign already read. -/
def occurrenceOf? (tag : Tag) (cs : List Char) : Option Occurrence :=
  match Text.after? tag.name.toList cs with
  | none => none
  | some behind =>
    let value := behind.dropWhile Text.isWhiteSpace
    if behind.head?.any Text.isWhiteSpace && value.head?.any isValueChar then
      some ⟨tag, value.takeWhile isValueChar, value.dropWhile isValueChar⟩
    else none

/-- The occurrence of a tag at the front of a text. -/
def occurrence? : List Char → Option Occurrence
  | '@' :: cs => all.findSome? fun tag => occurrenceOf? tag cs
  | _ => none

theorem length_lt_of_occurrence? {c : Char} {cs : List Char} {o : Occurrence}
    (h : occurrence? (c :: cs) = some o) : o.rest.length < (c :: cs).length := by
  unfold occurrence? at h
  split at h
  · next ds heq =>
    cases heq
    obtain ⟨tag, _, htag⟩ := List.exists_of_findSome?_eq_some h
    unfold occurrenceOf? at htag
    split at htag
    · cases htag
    · next behind hbehind =>
      simp only at htag
      split at htag
      · cases htag
        have hprefix := Text.length_le_of_after? hbehind
        have hspace := (List.dropWhile_sublist (l := behind) Text.isWhiteSpace).length_le
        have hvalue := (List.dropWhile_sublist
          (l := behind.dropWhile Text.isWhiteSpace) isValueChar).length_le
        exact Nat.lt_succ_of_le (Nat.le_trans hvalue (Nat.le_trans hspace hprefix))
      · cases htag
  · cases h

/-- The tags of a text with their values, from left to right. -/
def occurrences : List Char → List (Tag × String)
  | [] => []
  | c :: cs =>
    match h : occurrence? (c :: cs) with
    | some o =>
      have : o.rest.length < cs.length + 1 := length_lt_of_occurrence? h
      (o.tag, String.ofList o.value) :: occurrences o.rest
    | none => occurrences cs
termination_by cs => cs.length

end Tag

/-- The packaging tags of a doc comment. -/
structure PackageTags where
  category : Option String := none
  package : Option String := none
  subpackage : Option String := none
deriving DecidableEq, Inhabited

namespace PackageTags

/-- Reads the packaging tags of a doc comment. -/
def ofDocblock (docblock : String) : PackageTags :=
  let found := Tag.occurrences docblock.toList
  ⟨found.lookup .category, found.lookup .package, found.lookup .subpackage⟩

/-- The package with its subpackage.  Without a package there is none. -/
def fullPackage? (tags : PackageTags) : Option String :=
  tags.package.map fun package =>
    match tags.subpackage with
    | some subpackage => package ++ "." ++ subpackage
    | none => package

end PackageTags

end PhpOutline
