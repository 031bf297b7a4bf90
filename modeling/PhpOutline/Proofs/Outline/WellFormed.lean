import Mathlib.Data.List.Basic
import Mathlib.Order.Nat
import PhpOutline.Proofs.Layout.Lookbehind
import PhpOutline.Proofs.Outline.Containment
import PhpOutline.Proofs.Outline.SourceLines

/-!
# Well-formed outlines

What every outline has in common, whatever stream of tokens it was made of: symbols are found under
their own names, the lines of a declaration are lines of the file and stand in order, the complexity
of a function is a positive number that the file has enough tokens for, and the line counts add up
(`Outline.WellFormed`).

All of this is read off the declarations that made the entries.  A declaration never ends before its
keyword and the lines of prepared tokens never decrease, so that ranges of lines are ordered also
where brackets do not balance (`withinLines`); the keyword of a function is no decision, so that its
complexity counts at most the tokens behind it (`complexity_le`).
-/

namespace PhpOutline

/-- The lines from `first` to `last` are lines of a text with the given number of line breaks. -/
structure WithinLines (breaks first last : Nat) : Prop where
  one_le_first : 1 ≤ first
  first_le_last : first ≤ last
  last_le : last ≤ breaks + 1

/-- A function of a file with the given numbers of line breaks and of tokens. -/
structure FunctionSymbol.WellFormed (breaks tokens : Nat) (f : FunctionSymbol) : Prop where
  lines : WithinLines breaks f.startLine f.endLine
  one_le_complexity : 1 ≤ f.complexity
  complexity_le : f.complexity ≤ tokens

/-- A container that stands under the given kind and name. -/
structure Container.WellFormed (breaks tokens : Nat) (kind : ContainerKind) (name : String)
    (c : Container) : Prop where
  kind_eq : c.kind = kind
  name_eq : c.name = name
  lines : WithinLines breaks c.startLine c.endLine
  methods : ∀ (m : String) (f : FunctionSymbol), c.methods[m]? = some f →
    f.name = some m ∧ f.WellFormed breaks tokens

/-- The outline of a file with the given numbers of line breaks and of tokens.  The key of a free
function is its name, with a namespace in front or not. -/
structure Outline.WellFormed (breaks tokens : Nat) (o : Outline) : Prop where
  containers : ∀ (kind : ContainerKind) (name : String) (c : Container),
    (o.ofKind kind)[name]? = some c → c.WellFormed breaks tokens kind name
  functions : ∀ (key : String) (f : FunctionSymbol), o.functions[key]? = some f →
    ∃ name, f.name = some name ∧
      (key = name ∨ ∃ namespaceName, namespaceName ≠ "" ∧ key = namespaceName ++ "\\" ++ name) ∧
      f.WellFormed breaks tokens
  total_le : o.lines.total ≤ breaks
  comment_add_code : o.lines.comment + o.lines.code = o.lines.total

variable {raws : List RawToken} {tokens : List Token} {k : Nat} {t : Token}

/-! ### Lines -/

/-- The text in front of a token has no more line breaks than the whole text. -/
lemma newlines_concat_take_le (raws : List RawToken) (i : Nat) :
    Text.newlines (RawToken.concat (raws.take i)).toList ≤
      Text.newlines (RawToken.concat raws).toList := by
  have hsplit : RawToken.concat raws =
      RawToken.concat (raws.take i) ++ RawToken.concat (raws.drop i) := by
    conv_lhs => rw [← List.take_append_drop i raws]
    rw [RawToken.concat, List.map_append, String.join_append]
    rfl
  rw [hsplit, String.toList_append, Text.newlines_append]
  exact Nat.le_add_right _ _

/-- A token starts on a line of the file. -/
lemma Token.line_bounds (h : prepare raws = .ok tokens) (ht : tokens[k]? = some t) :
    1 ≤ t.line ∧ t.line ≤ Text.newlines (RawToken.concat raws).toList + 1 := by
  have hline := line_of_prepareFrom h ht
  have hle := newlines_concat_take_le raws k
  omega

namespace Declaration

/-- A declaration has its lines in order, and they are lines of the file. -/
lemma withinLines (h : Token.prepare raws = .ok tokens) (hk : k < tokens.length) :
    let breaks := Text.newlines (RawToken.concat raws).toList
    WithinLines breaks (functionAt tokens k).startLine (functionAt tokens k).endLine ∧
      WithinLines breaks (containerAt tokens k).startLine (containerAt tokens k).endLine := by
  obtain ⟨first, last, hfirst, hlast, hstart, hend, hstart', hend'⟩ := exists_lines hk
  rw [hstart, hend, hstart', hend']
  have hwithin : WithinLines (Text.newlines (RawToken.concat raws).toList) first.line last.line :=
    { one_le_first := (Token.line_bounds h hfirst).1
      first_le_last := Token.line_le_line h (le_lastIndex tokens k) hfirst hlast
      last_le := (Token.line_bounds h hlast).2 }
  exact ⟨hwithin, hwithin⟩

/-! ### Complexity -/

@[simp] lemma length_decisionsAfter (behind ts : List Token) :
    (decisionsAfter behind ts).length = ts.length := by
  induction ts generalizing behind with
  | nil => rfl
  | cons t ts ih => rw [decisionsAfter, List.length_cons, List.length_cons, ih]

/-- The complexity of a range whose first token is no decision is at most the number of tokens from
there on. -/
lemma complexity_le (ht : tokens[k]? = some t) (hno : ∀ behind, decides behind t = false)
    {last : Nat} (hle : k ≤ last) : complexity tokens k last ≤ tokens.length := by
  obtain ⟨hk, rfl⟩ := List.getElem?_eq_some_iff.1 ht
  rw [complexity_eq_count, List.drop_eq_getElem_cons hk,
    show last + 1 - k = (last - k) + 1 by omega, List.take_succ_cons, decisionsAfter, hno,
    List.count_cons_of_ne (by decide)]
  set rest := (tokens.drop (k + 1)).take (last - k)
  have hcount : (decisionsAfter (tokens[k] :: (tokens.take k).reverse) rest).count true ≤
      rest.length := List.count_le_length.trans_eq (length_decisionsAfter _ _)
  have hrest : rest.length ≤ tokens.length - (k + 1) := by
    rw [List.length_take, List.length_drop]
    exact Nat.min_le_right _ _
  omega

/-- A function that is filed is well formed. -/
lemma wellFormed_functionAt (h : Token.prepare raws = .ok tokens) {m : String}
    (hfiled : filedName? tokens k = some m) :
    (functionAt tokens k).WellFormed (Text.newlines (RawToken.concat raws).toList) raws.length := by
  have hk := lt_length_of_filed hfiled
  obtain ⟨t, hreached, hkind⟩ := exists_of_isFunction (isFunction_of_filedName? hfiled)
  have hno : ∀ behind, decides behind t = false := by
    intro behind
    rw [decides, hkind]
    rfl
  refine ⟨(withinLines h hk).1, Nat.le_add_right _ _, ?_⟩
  rw [← (spells_of_prepareFrom h).length_eq]
  exact complexity_le (getElem?_of_reached hreached) hno (le_lastIndex tokens k)

end Declaration

/-! ### Entries -/

namespace Pass

open Declaration

variable {path : Option String} {kind : ContainerKind} {name : String}

/-- An entry of the outline is well formed, and so are its methods. -/
lemma wellFormed_container (h : Token.prepare raws = .ok tokens) {c : Container}
    (hc : ((Analysis.ofTokens path tokens).outline.ofKind kind)[name]? = some c) :
    c.WellFormed (Text.newlines (RawToken.concat raws).toList) raws.length kind name := by
  obtain ⟨d, hentry, hhead, hmethods⟩ := exists_declaration hc
  obtain ⟨hd, hdeclares, -⟩ := lastBelow?_eq_some.1 hentry
  have hnamed := declares_eq_true.1 hdeclares
  have hsame := namedContainer?_eq (Option.isSome_iff_exists.2 ⟨_, hnamed⟩)
  rw [hnamed, ← hhead] at hsame
  obtain ⟨hkind, hname⟩ := Prod.mk.inj (Option.some.inj hsame)
  have hlength : d < tokens.length := hd.trans_le (List.takeWhile_prefix _).length_le
  refine ⟨hkind.symm, hname.symm, ?_, fun m f hf => ?_⟩
  · have hlines := (withinLines h hlength).2
    rw [← hhead] at hlines
    exact hlines
  · rw [hmethods, Option.map_eq_some_iff] at hf
    obtain ⟨k, hk, rfl⟩ := hf
    obtain ⟨-, hfiled, -⟩ := declaresMethod_eq_true.1 (lastBelow?_eq_some.1 hk).2.1
    exact ⟨name_functionAt_of_filedName? hfiled, wellFormed_functionAt h hfiled⟩

/-- A name behind a namespace is the name alone or stands behind a backslash. -/
lemma qualify_cases (namespaceName name : String) :
    qualify namespaceName name = name ∨
      ∃ front, front ≠ "" ∧ qualify namespaceName name = front ++ "\\" ++ name := by
  unfold qualify
  split
  · exact Or.inl rfl
  · next hne => exact Or.inr ⟨namespaceName, by simpa using hne, rfl⟩

/-- A free function of the outline is well formed and has its name at the end of its key. -/
lemma wellFormed_function (h : Token.prepare raws = .ok tokens) {key : String} {f : FunctionSymbol}
    (hf : (Analysis.ofTokens path tokens).outline.functions[key]? = some f) :
    ∃ name, f.name = some name ∧
      (key = name ∨ ∃ front, front ≠ "" ∧ key = front ++ "\\" ++ name) ∧
      f.WellFormed (Text.newlines (RawToken.concat raws).toList) raws.length := by
  rw [getElem?_functions_ofTokens, Option.map_eq_some_iff] at hf
  obtain ⟨k, hk, rfl⟩ := hf
  have hfree := (lastBelow?_eq_some.1 hk).2.1
  rw [declaresFree, Bool.and_eq_true, decide_eq_true_iff, Option.map_eq_some_iff] at hfree
  obtain ⟨-, m, hfiled, rfl⟩ := hfree
  exact ⟨m, name_functionAt_of_filedName? hfiled, qualify_cases _ m, wellFormed_functionAt h hfiled⟩

end Pass

namespace Analysis

/-- **Every outline is well formed.**  Whatever stream can be analyzed, the symbols of its outline
are found under their own names and kinds, their lines are ordered lines of the file, the complexity
of a function is positive and no larger than the number of tokens, and the line counts add up to no
more than the line breaks of the text. -/
theorem wellFormed_ofRawTokens {raws : List RawToken} {a : Analysis}
    (h : ofRawTokens raws = .ok a) :
    a.outline.WellFormed (Text.newlines (RawToken.concat raws).toList) raws.length := by
  rw [ofRawTokens] at h
  cases htokens : Token.prepare raws with
  | error e =>
    rw [htokens] at h
    cases h
  | ok tokens =>
    rw [htokens] at h
    cases h
    have hlines := lines_of_spells none (spells_of_prepareFrom htokens)
    refine ⟨fun _ _ _ => Pass.wellFormed_container htokens,
      fun _ _ => Pass.wellFormed_function htokens, ?_, ?_⟩
    · rw [hlines]
      dsimp only [LineCount.ofCounts]
      cases tokens[RawToken.haltIndex raws]? with
      | none => exact le_rfl
      | some halt => exact Nat.min_le_left _ _
    · exact Nat.add_sub_cancel' (ofTokens none tokens).outline.lines.comment_le_total

/-- A class whose bracket is never closed, and a function in it that the class therefore does not
own. -/
def unclosedClass : List RawToken :=
  [.named .kwNamespace "namespace", .named .whitespace " ", .named .identifier "N",
    .punctuation ';', .named .whitespace "\n", .named .kwClass "class", .named .whitespace " ",
    .named .identifier "A", .punctuation '{', .named .whitespace "\n",
    .named .kwFunction "function", .named .whitespace " ", .named .identifier "f",
    .punctuation '(', .punctuation ')', .punctuation '{', .named .kwIf "if", .punctuation '}']

/-- The outline of the unclosed class is well formed and has both symbols. -/
theorem wellFormed_unclosedClass :
    ∃ a, ofRawTokens unclosedClass = .ok a ∧ a.outline.WellFormed 2 18 ∧
      (a.outline.classes["A"]?.map fun c => (c.startLine, c.endLine)) = some (2, 2) ∧
      (a.outline.functions["N\\f"]?.map fun f => (f.startLine, f.complexity)) = some (3, 2) := by
  obtain ⟨a, ha⟩ : ∃ a, ofRawTokens unclosedClass = .ok a := ⟨_, rfl⟩
  refine ⟨a, ha, wellFormed_ofRawTokens ha, ?_⟩
  cases ha
  decide +kernel

end Analysis

end PhpOutline
