import Mathlib.Data.Option.Basic
import PhpOutline.Files.Tree

/-!
# Writing to a file

Writing to a file that exists changes what is read there and nothing else: every other path leads
where it led before, and to the same text (`FileTree.read_write`).
-/

namespace PhpOutline

namespace Node

variable {n : Node} {location : List String}

lemma lookup_cons_eq_ite (name key : String) (n : Node) (entries : List (String × Node)) :
    ((key, n) :: entries).lookup name = if name = key then some n else entries.lookup name := by
  by_cases hname : name = key
  · simp [hname]
  · simp [List.lookup_cons, beq_false_of_ne hname, hname]

lemma lookup_setEntry (name name' : String) (n : Node) (entries : List (String × Node)) :
    (setEntry name n entries).lookup name' =
      if name' = name then some n else entries.lookup name' := by
  induction entries with
  | nil => exact lookup_cons_eq_ite name' name n []
  | cons entry entries ih =>
    obtain ⟨key, m⟩ := entry
    rw [setEntry, lookup_cons_eq_ite]
    by_cases hkey : key = name
    · rw [if_pos hkey, lookup_cons_eq_ite, hkey]
      split <;> rfl
    · rw [if_neg hkey, lookup_cons_eq_ite, ih]
      by_cases hname : name' = key
      · rw [if_pos hname, if_neg fun heq => hkey (hname.symm.trans heq), if_pos hname]
      · rw [if_neg hname, if_neg hname]

/-- What is set at a location is found there. -/
lemma get?_set_self (n : Node) (location : List String) (new : Node) :
    (n.set location new).get? location = some new := by
  induction location generalizing n with
  | nil => simp [set, get?]
  | cons name names ih => simp [set, get?, lookup_setEntry, ih]

/-- Two nodes look the same to a reader that looks no further: both are files with the same content,
or both are directories with entries of the same names. -/
inductive Alike : Node → Node → Prop
  | file (content : ByteArray) : Alike (file content) (file content)
  | directory {entries entries' : List (String × Node)}
      (h : ∀ name, (entries.lookup name).isSome = (entries'.lookup name).isSome) :
      Alike (directory entries) (directory entries')

lemma Alike.refl (n : Node) : Alike n n := by
  cases n with
  | file content => exact .file content
  | directory entries => exact .directory fun _ => rfl

lemma relAlike_refl (o : Option Node) : Option.Rel Alike o o := by
  cases o with
  | none => exact .none
  | some n => exact .some (.refl n)

/-- A file that is set in the place of another one changes no other node, as far as a reader can
see. -/
lemma get?_set_of_ne {content : ByteArray} (h : n.get? location = some (file content))
    (new : ByteArray) {other : List String} (hne : other ≠ location) :
    Option.Rel Alike ((n.set location (file new)).get? other) (n.get? other) := by
  induction location generalizing n other with
  | nil =>
    obtain ⟨name, names, rfl⟩ := List.exists_cons_of_ne_nil hne
    obtain rfl : n = file content := by simpa [get?] using h
    simp only [set, get?]
    exact .none
  | cons name names ih =>
    cases n with
    | file _ => simp [get?] at h
    | directory entries =>
      obtain ⟨child, hchild⟩ : ∃ child, entries.lookup name = some child := by
        cases hlookup : entries.lookup name with
        | none => simp [get?, hlookup] at h
        | some child => exact ⟨child, rfl⟩
      have hfile : child.get? names = some (file content) := by simpa [get?, hchild] using h
      cases other with
      | nil =>
        simp only [set, get?]
        refine .some (.directory fun name' => ?_)
        rw [lookup_setEntry]
        split
        next heq => rw [heq, hchild]; rfl
        next => rfl
      | cons name' names' =>
        simp only [set, get?, lookup_setEntry, hchild, Option.getD_some]
        by_cases hname : name' = name
        · subst hname
          simp only [if_true, hchild]
          exact ih hfile fun heq => hne (congrArg _ heq)
        · simp only [hname, if_false]
          exact relAlike_refl _

end Node

namespace FileTree

variable {t : FileTree} {location : List String} {content : ByteArray}

/-- Segments of paths lead where they led before. -/
lemma follow_write (h : t.root.get? location = some (.file content)) (text : String) :
    (t.write location text).follow = t.follow := by
  funext other segment
  by_cases hother : other = location
  · subst hother
    simp only [follow, write, Node.get?_set_self, h]
  · have halike := Node.get?_set_of_ne h text.toUTF8 hother
    simp only [follow, write]
    generalize (t.root.set location (.file text.toUTF8)).get? other = o at halike ⊢
    generalize t.root.get? other = o' at halike ⊢
    cases halike with
    | none => rfl
    | some halike =>
      cases halike with
      | file content => rfl
      | directory hnames => simp only [hnames]

lemma locate_write (h : t.root.get? location = some (.file content)) (text path : String) :
    (t.write location text).locate path = t.locate path := by
  funext segments
  rw [locate, locate, follow_write h]
  rfl

/-- Only paths that lead to the file that is written are read otherwise than before. -/
lemma read_write (h : t.root.get? location = some (.file content)) (text : String) {path : String}
    (hpath : t.locate path (Path.segments path) ≠ .ok location) :
    (t.write location text).read path = t.read path := by
  cases hlocate : t.locate path (Path.segments path) with
  | error e => simp only [read, resolve, locate_write h, hlocate]
  | ok other =>
    have halike := Node.get?_set_of_ne h text.toUTF8
      fun heq : other = location => hpath (by rw [hlocate, heq])
    simp only [read, resolve, locate_write h, hlocate]
    simp only [write]
    generalize (t.root.set location (.file text.toUTF8)).get? other = o at halike ⊢
    generalize t.root.get? other = o' at halike ⊢
    cases halike with
    | none => rfl
    | some halike =>
      cases halike with
      | file content => rfl
      | directory hnames => cases path.isEmpty <;> rfl

end FileTree

end PhpOutline
