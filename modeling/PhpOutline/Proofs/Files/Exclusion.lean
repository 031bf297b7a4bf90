import Mathlib.Data.List.Perm.Basic
import PhpOutline.Files.Exclusion
import PhpOutline.Proofs.Text.Split

/-!
# Excluded directories

A directory is left out by a search for its name in the text of a path, between two separators or
at the front.  A name without separators is found in this way if and only if it is a whole segment
of the path with another segment behind it (`excludes_directory`), so that files of that name and
longer or shorter names of directories stay.

Patterns are read one by one (`parseAll_eq_ok`), and a path is left out if any of them says so.
Neither depends on the order of the patterns (`exists_parseAll_of_perm`, `isExcluded_of_perm`).
-/

namespace PhpOutline

namespace Exclusion

variable {patterns patterns' : List String} {exclusions : List Exclusion}

lemma parse_directory (name : String) : parse (name ++ "/") = .ok (.directory name) := by
  simp [parse]

/-- Patterns are read if each of them is. -/
lemma parseAll_eq_ok :
    parseAll patterns = .ok exclusions ↔
      List.Forall₂ (fun pattern e => parse pattern = .ok e) patterns exclusions := by
  rw [parseAll]
  induction patterns generalizing exclusions with
  | nil =>
    rw [List.mapM_nil, List.forall₂_nil_left_iff]
    exact ⟨fun h => (Except.ok.inj h).symm, fun h => h ▸ rfl⟩
  | cons pattern patterns ih =>
    rw [List.mapM_cons, List.forall₂_cons_left_iff]
    constructor
    · intro h
      cases hfirst : parse pattern with
      | error e => rw [hfirst] at h; cases h
      | ok e =>
        cases hrest : patterns.mapM parse with
        | error e' => rw [hfirst, hrest] at h; cases h
        | ok es =>
          rw [hfirst, hrest] at h
          cases h
          exact ⟨e, es, rfl, ih.1 hrest, rfl⟩
    · rintro ⟨e, es, hfirst, hrest, rfl⟩
      rw [hfirst, ih.2 hrest]
      rfl

/-- Patterns in another order are read as the same exclusions in another order. -/
lemma exists_parseAll_of_perm (hperm : patterns'.Perm patterns)
    (h : parseAll patterns = .ok exclusions) :
    ∃ exclusions', parseAll patterns' = .ok exclusions' ∧ exclusions'.Perm exclusions := by
  obtain ⟨exclusions', hread, hsame⟩ := List.perm_comp_forall₂ hperm (parseAll_eq_ok.1 h)
  exact ⟨exclusions', parseAll_eq_ok.2 hread, hsame⟩

/-- A directory is left out as a whole segment of the path that is not the last one. -/
lemma excludes_directory {name : String} (h : '/' ∉ name.toList) (path : String) :
    (directory name).excludes path = true ↔ name ∈ (Path.segments path).dropLast := by
  have hsegment : name ∈ (Path.segments path).dropLast ↔
      name.toList ∈ (Text.splitWhere (· == '/') path.toList).dropLast := by
    rw [Path.segments, ← List.map_dropLast]
    conv_lhs => rw [← String.ofList_toList (s := name)]
    exact List.mem_map_of_injective fun _ _ => String.ofList_injective
  rw [hsegment, Text.mem_dropLast_splitWhere h, excludes, Bool.or_eq_true,
    List.isPrefixOf_iff_prefix, Text.isSome_splitOnce?]

lemma isExcluded_of_perm {exclusions' : List Exclusion} (h : exclusions'.Perm exclusions)
    (path : String) : isExcluded exclusions' path = isExcluded exclusions path := h.any_eq

/-- **Directories are excluded by whole segments.**  Add a directory to patterns that can be read,
at any place among them.  Then they can be read, and they leave out the paths that they left out
before and those in which the directory is a segment other than the last one.  The order of patterns
never counts. -/
theorem isExcluded_addDirectory {name : String} (hname : '/' ∉ name.toList)
    {patterns : List String} {exclusions : List Exclusion}
    (h : parseAll patterns = .ok exclusions) :
    (∀ added, added.Perm ((name ++ "/") :: patterns) →
      ∃ exclusions', parseAll added = .ok exclusions' ∧
        ∀ path, isExcluded exclusions' path = true ↔
          isExcluded exclusions path = true ∨ name ∈ (Path.segments path).dropLast) ∧
    ∀ reordered, reordered.Perm patterns →
      ∃ exclusions', parseAll reordered = .ok exclusions' ∧
        ∀ path, isExcluded exclusions' path = isExcluded exclusions path := by
  refine ⟨fun added hperm => ?_, fun reordered hperm => ?_⟩
  · have hfirst : parseAll ((name ++ "/") :: patterns) = .ok (.directory name :: exclusions) :=
      parseAll_eq_ok.2 (.cons (parse_directory name) (parseAll_eq_ok.1 h))
    obtain ⟨exclusions', hread, hsame⟩ := exists_parseAll_of_perm hperm hfirst
    refine ⟨exclusions', hread, fun path => ?_⟩
    rw [isExcluded_of_perm hsame, isExcluded, List.any_cons, Bool.or_eq_true,
      excludes_directory hname, or_comm]
    rfl
  · obtain ⟨exclusions', hread, hsame⟩ := exists_parseAll_of_perm hperm h
    exact ⟨exclusions', hread, isExcluded_of_perm hsame⟩

/-- A directory that is added between two patterns is left out wherever it stands whole, and not as
a part of a longer name or as the name of a file. -/
theorem isExcluded_addDirectory_vendor :
    '/' ∉ "vendor".toList ∧
      ∃ exclusions exclusions', parseAll ["*.gen", "cache/"] = .ok exclusions ∧
        parseAll ["*.gen", "vendor/", "cache/"] = .ok exclusions' ∧
        isExcluded exclusions "lib//vendor/a.php" = false ∧
        isExcluded exclusions' "lib//vendor/a.php" = true ∧
        isExcluded exclusions' "vendor/" = true ∧
        isExcluded exclusions' "my-vendor/vendors/vendor" = false := by
  have hname : '/' ∉ "vendor".toList := by decide
  have hread : parseAll ["*.gen", "cache/"] =
      .ok [.glob ⟨[.anyRun, .char '.', .char 'g', .char 'e', .char 'n']⟩, .directory "cache"] := by
    decide +kernel
  obtain ⟨exclusions', hread', hadded⟩ :=
    (isExcluded_addDirectory hname hread).1 ["*.gen", "vendor/", "cache/"] (.swap _ _ _)
  refine ⟨hname, _, exclusions', hread, hread', by decide +kernel, ?_, ?_, ?_⟩
  · exact (hadded _).2 (.inr (by decide +kernel))
  · exact (hadded _).2 (.inr (by decide +kernel))
  · rw [Bool.eq_false_iff]
    exact mt (hadded _).1 (by decide +kernel)

end Exclusion

end PhpOutline
