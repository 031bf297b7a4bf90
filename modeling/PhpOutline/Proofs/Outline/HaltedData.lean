import Mathlib.Data.List.Forall2
import PhpOutline.Proofs.Layout.Filing
import PhpOutline.Proofs.Lexer.Extension
import PhpOutline.Proofs.Outline.SourceLines
import PhpOutline.Proofs.Outline.StringEdit

/-!
# Data behind the end of the code

Behind the word that halts the compiler a source may have any data.  They are one token, and nothing
in the outline is read off its text, except for the signature of a function that has neither a body
nor a semicolon in the code.  So if every function has one of them, the declarations of the outline
do not depend on the data (`outline_eq_of_halt`).
-/

namespace PhpOutline

open Declaration

variable {tokens ts front : List Token} {raws : List RawToken} {t u : Token} {k m n line : Nat}
  {text text' : String}

/-! ### Heads that end -/

/-- Behind every word `function` of the stream an opening curly bracket or a semicolon follows. -/
def RawToken.headsEnd : List RawToken → Bool
  | [] => true
  | r :: raws =>
    (!Lexer.isOf .kwFunction r || raws.contains (.punctuation '{') ||
      raws.contains (.punctuation ';')) && headsEnd raws

/-- The token ends the head of a function. -/
def Token.endsHead (t : Token) : Bool := t.kind == .openCurly || t.kind == .semicolon

/-- Behind every word `function` a token follows that ends its head. -/
def HeadsEnd (tokens : List Token) : Prop :=
  ∀ (k : Nat) (t : Token), tokens[k]? = some t → t.kind = .kwFunction →
    ∃ m u, k < m ∧ tokens[m]? = some u ∧ u.endsHead = true

/-- If the heads of a stream end, so do those of the prepared tokens. -/
lemma headsEnd_of_spells (h : Spells ts raws) (hheads : RawToken.headsEnd raws = true) :
    HeadsEnd ts := by
  intro k t ht hkind
  induction raws generalizing ts k with
  | nil =>
    rw [spells_nil.1 h] at ht
    cases ht
  | cons r raws ih =>
    obtain ⟨v, ts, rfl, hv, -, hrest⟩ := spells_cons.1 h
    rw [RawToken.headsEnd, Bool.and_eq_true] at hheads
    cases k with
    | zero =>
      cases ht
      have hfunction : Lexer.isOf .kwFunction r = true := by
        rw [RawToken.isOf_of_kind? (by simp) hv, hkind]
        rfl
      have hends := hheads.1
      rw [hfunction, Bool.not_true, Bool.false_or, Bool.or_eq_true, List.contains_iff_mem,
        List.contains_iff_mem] at hends
      obtain ⟨u, hu, hends⟩ : ∃ u ∈ ts, u.endsHead = true := by
        rcases hends with hmem | hmem
        · obtain ⟨u, hu, hk⟩ := hrest.exists_prepared hmem
          exact ⟨u, hu, by simp [Token.endsHead, ← Option.some.inj hk]⟩
        · obtain ⟨u, hu, hk⟩ := hrest.exists_prepared hmem
          exact ⟨u, hu, by simp [Token.endsHead, ← Option.some.inj hk]⟩
      obtain ⟨m, hm⟩ := List.mem_iff_getElem?.1 hu
      exact ⟨m + 1, u, Nat.succ_pos m, hm, hends⟩
    | succ k =>
      obtain ⟨m, u, hkm, hm, hends⟩ := ih hrest hheads.2 k ht
      exact ⟨m + 1, u, Nat.succ_lt_succ hkm, hm, hends⟩

/-- The head of a function ends behind its name. -/
lemma Declaration.lt_of_functionName? {name : String} (ht : tokens[k]? = some t)
    (h : functionName? tokens k = some (name, n)) (hu : tokens[m]? = some u)
    (hends : u.endsHead = true) (hkm : k < m) : n < m := by
  obtain ⟨passed, v, after, hsplit, rfl, hv, hpassed⟩ := exists_passed_of_functionName? ht h
  obtain ⟨j, rfl⟩ := Nat.exists_eq_add_of_le (Nat.succ_le_of_lt hkm)
  rw [← List.getElem?_drop, hsplit, List.append_cons] at hu
  by_contra hle
  -- up to the name, no token ends a head
  have hj : j < (passed ++ [v]).length := by
    rw [List.length_append, List.length_singleton]
    omega
  rw [List.getElem?_append_left hj] at hu
  have hkind : u.kind = .whitespace ∨ u.kind = .ampersand ∨ u.kind = .identifier := by
    rcases List.mem_append.1 (List.mem_of_getElem? hu) with hmem | hmem
    · exact (hpassed u hmem).imp_right Or.inl
    · rw [List.mem_singleton.1 hmem]
      exact .inr (.inr hv)
  rcases hkind with hkind | hkind | hkind <;> simp [Token.endsHead, hkind] at hends

/-! ### Tokens with data behind them -/

/-- The token of the data behind the code. -/
def Token.data (text : String) (line : Nat) : Token := ⟨.inlineHtml, text, line⟩

lemma agreeInPlace_data :
    AgreeInPlace (front ++ [.data text line]) (front ++ [.data text' line]) := by
  have hfront : AgreeInPlace front front := List.forall₂_same.2 fun t _ => ⟨rfl, fun _ => rfl⟩
  refine List.rel_append hfront (.cons ⟨rfl, ?_⟩ .nil)
  intro hpart
  cases hpart

lemma docblock?_data (hk : k < (front ++ [Token.data text line]).length) :
    docblock? (front ++ [.data text line]) k = docblock? (front ++ [.data text' line]) k := by
  have hle : k ≤ front.length := by
    rw [List.length_append, List.length_singleton] at hk
    omega
  have hbehind : ∀ text, docblock? (front ++ [.data text line]) k =
      docblockBehind (front.take k).reverse := by
    intro text
    have hk' : k < (front ++ [Token.data text line]).length := by
      rw [List.length_append, List.length_singleton]
      omega
    rw [docblock?, Cursor.ofIndex_of_getElem? (List.getElem?_eq_getElem hk'), Cursor.behind,
      List.take_append_of_le_length hle]
  rw [hbehind, hbehind]

/-- The head of a function ends in front of the data. -/
lemma signature_functionAt_data (ht : front[k]? = some t) (hkm : k < m) (hu : front[m]? = some u)
    (hends : u.endsHead = true)
    (hname : functionName? (front ++ [.data text line]) k =
      functionName? (front ++ [.data text' line]) k) :
    (functionAt (front ++ [.data text line]) k).signature =
      (functionAt (front ++ [.data text' line]) k).signature := by
  have hm := (List.getElem?_eq_some_iff.1 hu).1
  have hget : ∀ {i : Nat} {v : Token}, front[i]? = some v →
      (front ++ [Token.data text line])[i]? = some v := by
    intro i v hv
    rw [List.getElem?_append_left (List.getElem?_eq_some_iff.1 hv).1, hv]
  -- the signature starts behind the name, or behind the keyword
  have hstart : ((functionName? (front ++ [.data text line]) k).map (·.2)).getD k < m := by
    cases hfound : functionName? (front ++ [.data text line]) k with
    | none => exact hkm
    | some found => exact lt_of_functionName? (hget ht) hfound (hget hu) hends hkm
  dsimp only [functionAt, function]
  rw [← hname]
  generalize ((functionName? (front ++ [.data text line]) k).map (·.2)).getD k = start at hstart ⊢
  refine signature_append (hstart.trans hm) ?_ _ _
  obtain ⟨j, rfl⟩ := Nat.exists_eq_add_of_le (Nat.succ_le_of_lt hstart)
  rw [← List.getElem?_drop] at hu
  rw [List.all_eq_false]
  refine ⟨u, List.mem_of_getElem? hu, ?_⟩
  simpa [Token.endsHead, or_iff_not_imp_left] using hends

/-- The data are no matter of what the code declares. -/
lemma declareSame_data (hheads : HeadsEnd front) :
    DeclareSame (front ++ [.data text line]) (front ++ [.data text' line]) := by
  have hagree : AgreeInPlace (front ++ [.data text line]) (front ++ [.data text' line]) :=
    agreeInPlace_data
  have hlines : (front ++ [Token.data text line]).map (·.line) =
      (front ++ [Token.data text' line]).map (·.line) := by
    simp [Token.data]
  have hdoc : ∀ {i : Nat}, Twin (front ++ [.data text line]) (front ++ [.data text' line]) i i →
      docblock? (front ++ [.data text line]) i = docblock? (front ++ [.data text' line]) i := by
    intro i htwin
    obtain ⟨t, -, ht, -⟩ := htwin.agree
    exact docblock?_data (List.getElem?_eq_some_iff.1 ht).1
  constructor
  · intro i i' htwin hfunction
    obtain rfl := hagree.eq_of_twin htwin
    obtain ⟨t, hreached, hkind⟩ := exists_of_isFunction hfunction
    have ht := getElem?_of_reached hreached
    -- the data are no keyword
    have hi : i < front.length := by
      by_contra hge
      rw [List.getElem?_append_right (not_lt.1 hge)] at ht
      rw [List.mem_singleton.1 (List.mem_of_getElem? ht)] at hkind
      cases hkind
    rw [List.getElem?_append_left hi] at ht
    obtain ⟨m, u, him, hu, hends⟩ := hheads i t ht hkind
    have hname := hagree.eq_of_sameName (htwin.functionName? hagree.relaid.aligned)
    rw [hagree.functionAt_eq hlines htwin (hdoc htwin),
      signature_functionAt_data ht him hu hends hname]
  · intro i i' htwin hcontainer
    obtain rfl := hagree.eq_of_twin htwin
    exact hagree.containerAt_eq hlines htwin hcontainer (hdoc htwin)

/-- **Data behind the end of the code do not matter.**  Let the last token of a source be the word
that halts the compiler, and let every function in front of it have a body or a semicolon.  Whatever
data follow, with an opening bracket first: they are one token behind those of the source, and the
analysis fails with the same error or gives the same classes, traits, interfaces and functions. -/
theorem Analysis.outline_eq_of_halt (path : String) {source data data' word : String}
    (hhalt : (Lexer.tokenize source).getLast? = some (.named .kwHaltCompiler word))
    (hheads : RawToken.headsEnd (Lexer.tokenize source) = true)
    (hdata : data.toList.head? = some '(') (hdata' : data'.toList.head? = some '(') :
    Lexer.tokenize (source ++ data) = Lexer.tokenize source ++ [.named .inlineHtml data] ∧
      ((∃ e, ofSource path (source ++ data) = .error e ∧
          ofSource path (source ++ data') = .error e) ∨
        ∃ a a', ofSource path (source ++ data) = .ok a ∧ ofSource path (source ++ data') = .ok a' ∧
          a.outline.classes = a'.outline.classes ∧ a.outline.traits = a'.outline.traits ∧
          a.outline.interfaces = a'.outline.interfaces ∧
          a.outline.functions = a'.outline.functions) := by
  have htokens := Lexer.tokenize_append_of_halt hhalt hdata
  have htokens' := Lexer.tokenize_append_of_halt hhalt hdata'
  refine ⟨htokens, ?_⟩
  rw [ofSource, ofSource, htokens, htokens', Token.prepare, Token.prepare]
  rcases Token.prepareFrom_append_named (Lexer.tokenize source) .inlineHtml 0 1 with
    ⟨e, he⟩ | ⟨ts, line, hts, hmore⟩
  · rw [he, he]
    exact .inl ⟨e, rfl, rfl⟩
  · rw [hmore, hmore]
    have hends : HeadsEnd ts := headsEnd_of_spells (spells_of_prepareFrom hts) hheads
    have hrun : (Pass.run (some path) (ts ++ [.data data line])).outline =
        (Pass.run (some path) (ts ++ [.data data' line])).outline :=
      outline_run_eq _ _ agreeInPlace_data.relaid (declareSame_data hends)
    have hclasses := congrArg Outline.classes hrun
    have htraits := congrArg Outline.traits hrun
    have hinterfaces := congrArg Outline.interfaces hrun
    have hfunctions := congrArg Outline.functions hrun
    exact .inr ⟨_, _, rfl, rfl, hclasses, htraits, hinterfaces, hfunctions⟩

/-- A method and a declaration without a body in front of the word.  The data have a line break and
an unclosed string. -/
theorem Analysis.outline_eq_haltingSource :
    let source :=
      "<?php\ninterface I \x7b function f(); \x7d\nfunction g() \x7b\x7d\n__halt_compiler"
    let data := "(); class B \x7b"
    let data' := "(\n'"
    (Lexer.tokenize source).getLast? = some (.named .kwHaltCompiler "__halt_compiler") ∧
      RawToken.headsEnd (Lexer.tokenize source) = true ∧
      Lexer.tokenize (source ++ data) = Lexer.tokenize source ++ [.named .inlineHtml data] ∧
      ∃ a a', ofSource "a.php" (source ++ data) = .ok a ∧
        ofSource "a.php" (source ++ data') = .ok a' ∧
        a.outline.classes = a'.outline.classes ∧ a.outline.traits = a'.outline.traits ∧
        a.outline.interfaces = a'.outline.interfaces ∧
        a.outline.functions = a'.outline.functions := by
  intro source data data'
  have hhalt : (Lexer.tokenize source).getLast? =
      some (.named .kwHaltCompiler "__halt_compiler") := by decide +kernel
  have hheads : RawToken.headsEnd (Lexer.tokenize source) = true := by decide +kernel
  have hdata : data.toList.head? = some '(' := by decide
  have hdata' : data'.toList.head? = some '(' := by decide
  obtain ⟨htokens, hanalysis⟩ := outline_eq_of_halt "a.php" hhalt hheads hdata hdata'
  refine ⟨hhalt, hheads, htokens, hanalysis.resolve_left ?_⟩
  rintro ⟨e, he, -⟩
  obtain ⟨ts, hts, -⟩ :=
    Token.exists_prepareFrom (Lexer.tokenize (source ++ data)) (by decide +kernel) 0 1
  rw [ofSource, Token.prepare, hts] at he
  cases he

end PhpOutline
