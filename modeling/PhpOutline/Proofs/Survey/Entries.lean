import Mathlib.Algebra.Ring.Nat
import Mathlib.Data.List.Induction
import Mathlib.Data.List.Pairwise
import PhpOutline.Proofs.Files.Discovery
import PhpOutline.Report.Summary

/-!
# Merging the results of a survey

A survey sorts its results into analyses and errors, and a report merges them again by their paths.
Since the surveyed paths strictly increase and every error names its file, the merge undoes the
sorting (`Survey.entries_ofEntries`).  The totals of the report are then sums over the analyzed
files, though they are counted one by one (`Summary.ofEntries_eq_sum`), and the lines among them are
those of the survey, whose bound for comment lines is never exceeded (`LineCount.comment_sum`).
-/

namespace PhpOutline

open Std

/-! ### Splitting and merging -/

/-- The error of an entry, if it has one, names the file of the entry. -/
def SurveyEntry.NamesFile (e : SurveyEntry) : Prop :=
  ∀ error, e.result = .error error → error.path = e.path

lemma FileTree.namesFile_analyze (t : FileTree) (path : String) :
    SurveyEntry.NamesFile ⟨path, t.analyze path⟩ := by
  intro error h
  simp only [FileTree.analyze] at h
  split at h
  · cases h
    rfl
  · split at h
    · cases h
      rfl
    · cases h

namespace Survey

/-- The analyses and the errors, each with the path of its file. -/
def unmerged (s : Survey) : List SurveyEntry :=
  s.analyses.map (fun a => ⟨a.1, .ok a.2⟩) ++ s.errors.map (fun e => ⟨e.path, .error e⟩)

lemma entries_eq_mergeSort (s : Survey) :
    s.entries = s.unmerged.mergeSort fun a b => (Path.compare a.path b.path).isLE := rfl

lemma pairwise_entries (s : Survey) :
    s.entries.Pairwise fun a b => (Path.compare a.path b.path).isLE = true := by
  rw [entries_eq_mergeSort]
  refine List.pairwise_mergeSort ?_ ?_ _
  · exact fun a b c => TransCmp.isLE_trans
  · exact fun a b => Path.isLE_total a.path b.path

/-- No entry is lost when entries are sorted into analyses and errors. -/
lemma perm_unmerged_ofEntries {entries : List SurveyEntry}
    (hnames : ∀ e ∈ entries, e.NamesFile) : (ofEntries entries).unmerged.Perm entries := by
  induction entries with
  | nil => exact .refl _
  | cons e entries ih =>
    have hperm := ih fun e' he' => hnames e' (List.mem_cons_of_mem e he')
    obtain ⟨path, result⟩ := e
    cases result with
    | ok analysis => exact hperm.cons _
    | error error =>
      obtain rfl : error.path = path := hnames _ List.mem_cons_self error rfl
      exact List.perm_middle.trans (hperm.cons _)

/-- Merging the analyses and the errors of a survey by their paths gives back the entries that were
sorted, in their order. -/
lemma entries_ofEntries {entries : List SurveyEntry} (hnames : ∀ e ∈ entries, e.NamesFile)
    (hlt : (entries.map (·.path)).Pairwise fun p q => Path.compare p q = .lt) :
    (ofEntries entries).entries = entries := by
  have hlt : entries.Pairwise fun a b => Path.compare a.path b.path = .lt := List.pairwise_map.1 hlt
  have hne : entries.Pairwise fun a b => Path.compare a.path b.path ≠ .eq :=
    hlt.imp fun h heq => nomatch h.symm.trans heq
  have : Std.Symm fun a b : SurveyEntry => Path.compare a.path b.path ≠ .eq :=
    ⟨fun a b h heq => h (OrientedCmp.eq_symm heq)⟩
  have hperm : (ofEntries entries).entries.Perm entries := by
    rw [entries_eq_mergeSort]
    exact (List.mergeSort_perm _ _).trans (perm_unmerged_ofEntries hnames)
  refine List.Perm.eq_of_pairwise ?_ (pairwise_entries _) ?_ hperm
  · intro a b ha hb hab hba
    by_contra hab'
    exact hne.forall (hperm.mem_iff.1 ha) hb hab' (OrientedCmp.isLE_antisymm hab hba)
  · exact hlt.imp fun h => by rw [h]; rfl

end Survey

/-! ### Totals -/

namespace LineCount

lemma total_sum (ls : List LineCount) : (sum ls).total = (ls.map (·.total)).sum := by
  rw [sum, ofCounts, List.sum_eq_foldr, List.foldr_map]

lemma sum_comment_le (ls : List LineCount) :
    (ls.map (·.comment)).sum ≤ (ls.map (·.total)).sum := by
  induction ls with
  | nil => exact Nat.le_refl 0
  | cons l ls ih => exact Nat.add_le_add l.comment_le_total ih

/-- The comment lines of several files are those of each of them: no file has more comment lines
than lines, so all files together have not, and nothing is dropped. -/
lemma comment_sum (ls : List LineCount) : (sum ls).comment = (ls.map (·.comment)).sum := by
  have hle := sum_comment_le ls
  rw [List.sum_eq_foldr, List.sum_eq_foldr, List.foldr_map, List.foldr_map] at hle
  rw [sum, ofCounts, List.sum_eq_foldr, List.foldr_map]
  exact Nat.min_eq_left hle

lemma comment_add_code (l : LineCount) : l.comment + l.code = l.total :=
  Nat.add_sub_cancel' l.comment_le_total

lemma code_sum (ls : List LineCount) : (sum ls).code = (ls.map (·.code)).sum := by
  have hlines : (ls.map (·.comment)).sum + (ls.map (·.code)).sum = (ls.map (·.total)).sum := by
    induction ls with
    | nil => rfl
    | cons l ls ih =>
      have hl := l.comment_add_code
      simp only [List.map_cons, List.sum_cons]
      omega
  have hsum := (sum ls).comment_add_code
  rw [comment_sum, total_sum] at hsum
  omega

end LineCount

namespace Survey

/-- Every entry is an analysis or an error. -/
lemma length_ofEntries (entries : List SurveyEntry) :
    (ofEntries entries).outlines.length + (ofEntries entries).errors.length = entries.length := by
  induction entries with
  | nil => rfl
  | cons e entries ih =>
    obtain ⟨path, result⟩ := e
    cases result <;> simp [ofEntries, outlines] at ih ⊢ <;> omega

lemma length_errors_pos {entries : List SurveyEntry} : 0 < (ofEntries entries).errors.length ↔
    ∃ e ∈ entries, ∃ error, e.result = .error error := by
  rw [List.length_pos_iff_exists_mem]
  constructor
  · rintro ⟨error, herror⟩
    obtain ⟨⟨path, result⟩, hmem, hresult⟩ := List.mem_filterMap.1 herror
    cases result with
    | ok analysis => cases hresult
    | error e => exact ⟨_, hmem, e, rfl⟩
  · rintro ⟨⟨path, _⟩, hmem, error, rfl⟩
    exact ⟨error, List.mem_filterMap.2 ⟨_, hmem, rfl⟩⟩

/-- The lines of a survey are the sums over the analyzed files. -/
lemma lines_eq_sum (s : Survey) :
    s.lines.total = (s.outlines.map (·.lines.total)).sum ∧
      s.lines.comment = (s.outlines.map (·.lines.comment)).sum ∧
      s.lines.code = (s.outlines.map (·.lines.code)).sum := by
  rw [lines, LineCount.total_sum, LineCount.comment_sum, LineCount.code_sum, List.map_map,
    List.map_map, List.map_map]
  exact ⟨rfl, rfl, rfl⟩

end Survey

namespace Summary

/-- The totals of some outlines and a number of errors. -/
def sum (outlines : List Outline) (errors : Nat) : Summary where
  files := outlines.length
  classes := (outlines.map (·.classes.size)).sum
  traits := (outlines.map (·.traits.size)).sum
  interfaces := (outlines.map (·.interfaces.size)).sum
  functions := (outlines.map (·.functions.size)).sum
  methods := (outlines.map fun o => (o.containers.map (·.methods.size)).sum).sum
  totalLines := (outlines.map (·.lines.total)).sum
  commentLines := (outlines.map (·.lines.comment)).sum
  codeLines := (outlines.map (·.lines.code)).sum
  errors

lemma sum_concat (outlines : List Outline) (o : Outline) (errors : Nat) :
    sum (outlines ++ [o]) errors = (sum outlines errors).addOutline o := by
  have hmethods : (o.containers.map (·.methods.size)).sum =
      o.containers.foldr (·.methods.size + ·) 0 := by
    rw [List.sum_eq_foldr, List.foldr_map]
  simp [sum, addOutline, hmethods]

/-- The totals are counted entry by entry and come out as sums over all analyzed files. -/
lemma ofEntries_eq_sum (entries : List SurveyEntry) :
    ofEntries entries =
      sum (Survey.ofEntries entries).outlines (Survey.ofEntries entries).errors.length := by
  induction entries using List.reverseRecOn with
  | nil => rfl
  | append_singleton entries e ih =>
    rw [ofEntries, List.foldl_append, ← ofEntries, ih]
    obtain ⟨path, result⟩ := e
    cases result with
    | ok analysis =>
      have houtlines : (Survey.ofEntries (entries ++ [⟨path, .ok analysis⟩])).outlines =
          (Survey.ofEntries entries).outlines ++ [analysis.outline] := by
        simp [Survey.ofEntries, Survey.outlines]
      have herrors : (Survey.ofEntries (entries ++ [⟨path, .ok analysis⟩])).errors =
          (Survey.ofEntries entries).errors := by
        simp [Survey.ofEntries]
      rw [houtlines, herrors, sum_concat]
      rfl
    | error error => simp [Survey.ofEntries, Survey.outlines, sum, add]

lemma files_add_errors (entries : List SurveyEntry) :
    (ofEntries entries).files + (ofEntries entries).errors = entries.length := by
  rw [ofEntries_eq_sum]
  exact Survey.length_ofEntries entries

lemma errors_pos {entries : List SurveyEntry} : 0 < (ofEntries entries).errors ↔
    ∃ e ∈ entries, ∃ error, e.result = .error error := by
  rw [ofEntries_eq_sum]
  exact Survey.length_errors_pos

end Summary

end PhpOutline
