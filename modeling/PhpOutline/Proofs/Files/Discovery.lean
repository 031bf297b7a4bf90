import PhpOutline.Files.Discovery
import PhpOutline.Proofs.Files.PathOrder

/-!
# The files that are found

Discovery is told by a set (`FileTree.Finds`): the files that are given by name, and the PHP files
below the given directories that no pattern leaves out.  The collected files are this set in order,
every path in one of its spellings (`collect_is_sorted_set`).
-/

namespace PhpOutline

namespace Node

/-- The names lead from a node down to a file. -/
inductive LeadsToFile : Node → List String → Prop
  | here (content : ByteArray) : LeadsToFile (file content) []
  | entry {entries : List (String × Node)} {name : String} {n : Node} {names : List String}
      (hmem : (name, n) ∈ entries) (hnext : LeadsToFile n names) :
      LeadsToFile (directory entries) (name :: names)

lemma leadsToFile_file {content : ByteArray} {names : List String} :
    LeadsToFile (file content) names ↔ names = [] := by
  constructor
  · intro h
    cases h
    rfl
  · rintro rfl
    exact .here content

lemma leadsToFile_directory {entries : List (String × Node)} {names : List String} :
    LeadsToFile (directory entries) names ↔
      ∃ name n rest, (name, n) ∈ entries ∧ LeadsToFile n rest ∧ names = name :: rest := by
  constructor
  · intro h
    cases h with
    | entry hmem hnext => exact ⟨_, _, _, hmem, hnext, rfl⟩
  · rintro ⟨name, n, rest, hmem, hnext, rfl⟩
    exact .entry hmem hnext

/-- The walk over the entries of a directory finds what the walks over the entries find. -/
lemma mem_filesIn {path q : String} {entries : List (String × Node)} :
    q ∈ filesIn path entries ↔
      ∃ name n, (name, n) ∈ entries ∧ q ∈ filesBelow (Path.join path name) n := by
  induction entries with
  | nil => simp [filesIn]
  | cons entry entries ih =>
    obtain ⟨name, n⟩ := entry
    rw [filesIn, List.mem_append, ih]
    constructor
    · rintro (hq | ⟨name', n', hmem, hq⟩)
      · exact ⟨name, n, List.mem_cons_self, hq⟩
      · exact ⟨name', n', List.mem_cons_of_mem _ hmem, hq⟩
    · rintro ⟨name', n', hmem, hq⟩
      rcases List.mem_cons.1 hmem with heq | hmem
      · cases heq
        exact .inl hq
      · exact .inr ⟨name', n', hmem, hq⟩

/-- The walk finds each file below a node once for every way down to it, and spells the way behind
the path of the node. -/
lemma mem_filesBelow {path q : String} (n : Node) :
    q ∈ filesBelow path n ↔ ∃ names, LeadsToFile n names ∧ names.foldl Path.join path = q := by
  match n with
  | file content => simp [filesBelow, leadsToFile_file, eq_comm]
  | directory entries =>
    have hbelow : ∀ name n, (name, n) ∈ entries →
        (q ∈ filesBelow (Path.join path name) n ↔
          ∃ names, LeadsToFile n names ∧ names.foldl Path.join (Path.join path name) = q) :=
      fun name n hmem => mem_filesBelow n
    rw [filesBelow, mem_filesIn]
    simp only [leadsToFile_directory]
    constructor
    · rintro ⟨name, n, hmem, hq⟩
      obtain ⟨names, hnext, rfl⟩ := (hbelow name n hmem).1 hq
      exact ⟨name :: names, ⟨name, n, names, hmem, hnext, rfl⟩, rfl⟩
    · rintro ⟨_, ⟨name, n, names, hmem, hnext, rfl⟩, rfl⟩
      exact ⟨name, n, hmem, (hbelow name n hmem).2 ⟨names, hnext, rfl⟩⟩
termination_by sizeOf n
decreasing_by
  have hentry := List.sizeOf_lt_of_mem hmem
  simp only [Prod.mk.sizeOf_spec, directory.sizeOf_spec] at hentry ⊢
  omega

end Node

namespace FileTree

variable (t : FileTree) (exclusions : List Exclusion)

/-- A path that is searched for finds a file: the path itself if it leads to a file, and if it leads
to a directory, every PHP file below that no pattern leaves out. -/
inductive Finds (paths : List String) : String → Prop
  | given {path : String} {content : ByteArray} (hmem : path ∈ paths)
      (hfile : t.resolve path = .ok (.file content)) : Finds paths path
  | walked {path q : String} {entries : List (String × Node)} {names : List String}
      (hmem : path ∈ paths) (hdir : t.resolve path = .ok (.directory entries))
      (hleads : (Node.directory entries).LeadsToFile names) (hq : names.foldl Path.join path = q)
      (hphp : Path.extension? q = some "php") (hkept : isExcluded exclusions q = false) :
      Finds paths q

variable {t exclusions}

lemma isSourceFile_iff {q : String} : isSourceFile exclusions q = true ↔
    Path.extension? q = some "php" ∧ isExcluded exclusions q = false := by
  rw [isSourceFile, Bool.and_eq_true, beq_iff_eq, Bool.not_eq_true']

lemma mem_flatMap_filesAt {paths : List String} {q : String} :
    q ∈ paths.flatMap (t.filesAt exclusions) ↔ t.Finds exclusions paths q := by
  rw [List.mem_flatMap]
  constructor
  · rintro ⟨path, hpath, hq⟩
    rw [filesAt] at hq
    split at hq
    case h_1 => simp at hq
    case h_2 content hfile =>
      rw [List.mem_singleton.1 hq]
      exact .given hpath hfile
    case h_3 entries hdir =>
      obtain ⟨hbelow, hsource⟩ := List.mem_filter.1 hq
      obtain ⟨hphp, hkept⟩ := isSourceFile_iff.1 hsource
      rw [← Node.filesBelow] at hbelow
      obtain ⟨names, hleads, hnames⟩ := (Node.mem_filesBelow _).1 hbelow
      exact .walked hpath hdir hleads hnames hphp hkept
  · rintro (⟨hmem, hfile⟩ | ⟨hmem, hdir, hleads, hnames, hphp, hkept⟩)
    · refine ⟨q, hmem, ?_⟩
      rw [filesAt, hfile]
      exact List.mem_singleton_self q
    · refine ⟨_, hmem, ?_⟩
      rw [filesAt, hdir]
      refine List.mem_filter.2 ⟨?_, isSourceFile_iff.2 ⟨hphp, hkept⟩⟩
      rw [← Node.filesBelow]
      exact (Node.mem_filesBelow _).2 ⟨_, hleads, hnames⟩

/-- Only the set of the paths counts, not their order or number. -/
lemma Finds.congr {paths paths' : List String} (h : ∀ p, p ∈ paths' ↔ p ∈ paths) {q : String} :
    t.Finds exclusions paths' q ↔ t.Finds exclusions paths q := by
  simp only [← mem_flatMap_filesAt, List.mem_flatMap, h]

variable (t exclusions) (paths : List String)

lemma pairwise_collect :
    (t.collect exclusions paths).Pairwise fun p q => Path.compare p q = .lt :=
  Path.pairwise_sorted _

lemma nodup_map_components_collect :
    ((t.collect exclusions paths).map Path.components).Nodup := by
  refine List.pairwise_map.2 ((t.pairwise_collect exclusions paths).imp fun {p q} hlt heq => ?_)
  rw [Path.compare_eq_eq.2 heq] at hlt
  cases hlt

/-- The collected files strictly increase in the order of paths, so that no two of them are equal.
Up to spelling they are the files that the given paths find, and nothing else of the given paths
counts: in any order and number they give the same files. -/
theorem collect_is_sorted_set :
    (t.collect exclusions paths).Pairwise (fun p q => Path.compare p q = .lt) ∧
      ((t.collect exclusions paths).map Path.components).Nodup ∧
      (∀ p, (∃ r ∈ t.collect exclusions paths, Path.components r = Path.components p) ↔
        ∃ q, Path.components q = Path.components p ∧ t.Finds exclusions paths q) ∧
      ∀ paths', (∀ p, p ∈ paths' ↔ p ∈ paths) →
        (t.collect exclusions paths').map Path.components =
          (t.collect exclusions paths).map Path.components := by
  refine ⟨t.pairwise_collect exclusions paths, t.nodup_map_components_collect exclusions paths,
    fun p => ?_, fun paths' h => ?_⟩
  · rw [collect, Path.exists_mem_sorted]
    simp only [mem_flatMap_filesAt, and_comm]
  · refine Path.map_components_sorted fun c => ?_
    simp only [mem_flatMap_filesAt, Finds.congr h]

/-- A directory with a source file and a library below it. -/
def projectTree : FileTree where
  root := .directory
    [("src", .directory
      [("a.php", .file .empty), ("vendor", .directory [("b.php", .file .empty)])])]
  workingDirectory := []

/-- A file that is given and also found below its directory counts once, and a file that a pattern
leaves out is taken where it is given by name. -/
theorem collect_projectTree :
    projectTree.collect [.directory "vendor"] ["src//a.php", "src", "src/vendor/b.php"] =
        ["src//a.php", "src/vendor/b.php"] ∧
      (projectTree.collect [.directory "vendor"]
          ["src/vendor/b.php", "src", "src//a.php", "src"]).map Path.components =
        ["src//a.php", "src/vendor/b.php"].map Path.components := by
  have hcollect : projectTree.collect [.directory "vendor"]
      ["src//a.php", "src", "src/vendor/b.php"] = ["src//a.php", "src/vendor/b.php"] := by
    rw [collect, Path.sorted_of_pairwise (by decide +kernel)]
    decide +kernel
  refine ⟨hcollect, ?_⟩
  rw [← hcollect]
  exact (projectTree.collect_is_sorted_set _ _).2.2.2 _ (by grind)

end FileTree

end PhpOutline
