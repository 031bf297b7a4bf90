import Mathlib.Data.List.Basic
import Mathlib.Order.Nat
import PhpOutline.Proofs.Outline.Entry
import PhpOutline.Proofs.Token.Prepare

/-!
# Methods and the lines of their containers

A function is filed under the outermost container that is open, but the entry is looked up by the
kind and the name of that container.  If a container of the same kind and name was declared inside
it, the entry is the inner one's, and a method behind the inner one is filed under a container that
it does not stand in: the method strays (`Strays`).

There is no other way to leave a container.  `methods_inside_iff` says that the methods of an entry
lie between the first and the last line of its container, unless one of them strays and ends on a
later line; `stray_method` is a file in which this happens.
-/

namespace PhpOutline

namespace Declaration

variable {tokens : List Token} {raws : List RawToken} {kind : ContainerKind} {name m : String}
  {c d k : Nat}

/-- The method `m` of the entry that the container at `d` has made is declared at `k`, behind the
end of that container.  Its owner is the container at `c`, which has the same kind and name and has
the one at `d` inside it.  The method ends on a later line than the container that it is filed
under. -/
structure Strays (tokens : List Token) (kind : ContainerKind) (name m : String) (c d k : Nat) :
    Prop where
  entry : lastBelow? (Pass.reached tokens).length (declares tokens kind name) = some d
  method : lastBelow? (Pass.reached tokens).length (declaresMethod tokens kind name d m) = some k
  owner : owner? tokens k = some c
  redeclared : namedContainer? tokens c = namedContainer? tokens d
  nested : c < d ∧ lastIndex tokens d ≤ lastIndex tokens c
  behind : lastIndex tokens d < k
  late : (containerAt tokens d).endLine < (functionAt tokens k).endLine

/-- A declaration starts on the line of its keyword and ends on the line of its last token. -/
lemma exists_lines (hk : k < tokens.length) :
    ∃ first last, tokens[k]? = some first ∧ tokens[lastIndex tokens k]? = some last ∧
      (functionAt tokens k).startLine = first.line ∧ (functionAt tokens k).endLine = last.line ∧
      (containerAt tokens k).startLine = first.line ∧
      (containerAt tokens k).endLine = last.line := by
  have hfirst := List.getElem?_eq_getElem hk
  have hlast := List.getElem?_eq_getElem (lastIndex_lt_length hk)
  refine ⟨_, _, hfirst, hlast, ?_⟩
  simp [functionAt, function, containerAt, container, endLine, hk, hlast]

/-- A function behind the keyword of a container starts on no earlier line. -/
lemma startLine_le_startLine (h : Token.prepare raws = .ok tokens) (hdk : d ≤ k)
    (hk : k < tokens.length) :
    (containerAt tokens d).startLine ≤ (functionAt tokens k).startLine := by
  obtain ⟨first, -, hfirst, -, -, -, hstart, -⟩ := exists_lines (hdk.trans_lt hk)
  obtain ⟨first', -, hfirst', -, hstart', -⟩ := exists_lines hk
  rw [hstart, hstart']
  exact Token.line_le_line h hdk hfirst hfirst'

/-- A function whose last token is no later than that of a container ends on no later line. -/
lemma endLine_le_endLine (h : Token.prepare raws = .ok tokens)
    (hle : lastIndex tokens k ≤ lastIndex tokens d) (hk : k < tokens.length)
    (hd : d < tokens.length) :
    (functionAt tokens k).endLine ≤ (containerAt tokens d).endLine := by
  obtain ⟨-, last, -, hlast, -, hend, -⟩ := exists_lines hk
  obtain ⟨-, last', -, hlast', -, -, -, hend'⟩ := exists_lines hd
  rw [hend, hend']
  exact Token.line_le_line h hle hlast hlast'

/-- A function is a token of the file. -/
lemma lt_length_of_filed (h : filedName? tokens k = some m) : k < tokens.length := by
  have hreached := lt_length_of_isFunction (isFunction_of_filedName? h)
  exact hreached.trans_le (List.takeWhile_prefix _).length_le

/-- A function that starts inside a declaration ends inside it. -/
lemma lastIndex_le_of_filed (hfiled : filedName? tokens k = some m) (hdk : d < k)
    (hle : k ≤ lastIndex tokens d) : lastIndex tokens k ≤ lastIndex tokens d :=
  lastIndex_le_of_picked (Pass.picksKeywords_isFunction tokens) hdk
    (isFunction_of_filedName? hfiled) hle

/-- A container that is declared inside another one ends inside it. -/
lemma lastIndex_le_of_named (hnamed : namedContainer? tokens d = some (kind, name)) (hcd : c < d)
    (hle : d ≤ lastIndex tokens c) : lastIndex tokens d ≤ lastIndex tokens c := by
  have hcontainer : isContainer tokens d = true := Option.isSome_iff_exists.2 ⟨_, hnamed⟩
  exact lastIndex_le_of_picked (Pass.picksKeywords_isContainer tokens) hcd hcontainer hle

/-- A method that ends on a later line than the container of its entry strays: its owner is not the
container that has made the entry, but one around it. -/
lemma exists_strays (h : Token.prepare raws = .ok tokens)
    (hentry : lastBelow? (Pass.reached tokens).length (declares tokens kind name) = some d)
    (hmethod :
      lastBelow? (Pass.reached tokens).length (declaresMethod tokens kind name d m) = some k)
    (hlate : (containerAt tokens d).endLine < (functionAt tokens k).endLine) :
    ∃ c, Strays tokens kind name m c d k := by
  obtain ⟨hdn, hdeclares, hlast⟩ := lastBelow?_eq_some.1 hentry
  have hnamed := declares_eq_true.1 hdeclares
  obtain ⟨hkn, hfiled, -⟩ := lastBelow?_eq_some.1 hmethod
  obtain ⟨hdk, hfiled, c, howner, hsame⟩ := declaresMethod_eq_true.1 hfiled
  have hk := lt_length_of_filed hfiled
  -- the method cannot start inside the container, since it would end inside it as well
  have hbehind : lastIndex tokens d < k := by
    by_contra hle
    have hinside := lastIndex_le_of_filed hfiled hdk (not_lt.1 hle)
    exact absurd (endLine_le_endLine h hinside hk (hdk.trans hk)) (not_le.2 hlate)
  obtain ⟨hck, -, hkc, -⟩ := outermost?_eq_some.1 howner
  have hcd : c < d := by
    rcases lt_trichotomy c d with hlt | rfl | hgt
    · exact hlt
    · exact absurd hkc (not_le.2 hbehind)
    · have hno := hlast c (hck.trans_lt hkn) hgt
      rw [declares_eq_true.2 hsame] at hno
      cases hno
  refine ⟨c, hentry, hmethod, howner, hsame.trans hnamed.symm, ⟨hcd, ?_⟩, hbehind, hlate⟩
  exact lastIndex_le_of_named hnamed hcd (hdk.le.trans hkc)

end Declaration

namespace Pass

open Declaration

/-- **Methods stay inside their container, unless they stray.**  The methods of an entry start and
end between the first and the last line of its container if and only if none of them was filed
behind the end of that container, for an owner of the same kind and name around it, with an end on a
later line. -/
theorem methods_inside_iff {raws : List RawToken} {tokens : List Token}
    (h : Token.prepare raws = .ok tokens) :
    ∃ a, Analysis.ofRawTokens raws = .ok a ∧
      ∀ kind name c, (a.outline.ofKind kind)[name]? = some c →
        ((∀ (m : String) (f : FunctionSymbol), c.methods[m]? = some f →
            c.startLine ≤ f.startLine ∧ f.endLine ≤ c.endLine) ↔
          ∀ m o d k, ¬Strays tokens kind name m o d k) := by
  refine ⟨Analysis.ofTokens none tokens, by rw [Analysis.ofRawTokens, h]; rfl, ?_⟩
  intro kind name c hc
  obtain ⟨d, hentry, hhead, hmethods⟩ := exists_declaration hc
  have hstart : c.startLine = (containerAt tokens d).startLine := by
    rw [← hhead]
    rfl
  have hend : c.endLine = (containerAt tokens d).endLine := by
    rw [← hhead]
    rfl
  rw [hstart, hend]
  constructor
  · intro hinside m o d' k hstrays
    obtain rfl : d = d' := Option.some_inj.1 (hentry.symm.trans hstrays.entry)
    have hfound : c.methods[m]? = some (functionAt tokens k) := by
      rw [hmethods, hstrays.method]
      rfl
    exact absurd (hinside m _ hfound).2 (not_le.2 hstrays.late)
  · intro hnone m f hf
    rw [hmethods, Option.map_eq_some_iff] at hf
    obtain ⟨k, hk, rfl⟩ := hf
    obtain ⟨hdk, hfiled, -⟩ := declaresMethod_eq_true.1 (lastBelow?_eq_some.1 hk).2.1
    refine ⟨startLine_le_startLine h hdk.le (lt_length_of_filed hfiled), not_lt.1 fun hlate => ?_⟩
    obtain ⟨o, hstrays⟩ := exists_strays h hentry hk hlate
    exact hnone m o d k hstrays

/-- A class with a class of the same name inside it, and a method behind the inner class on the next
line. -/
def redeclaredInside : List RawToken :=
  [.named .kwClass "class", .named .whitespace " ", .named .identifier "A", .punctuation '{',
    .named .kwClass "class", .named .whitespace " ", .named .identifier "A", .punctuation '{',
    .punctuation '}', .named .whitespace "\n", .named .kwFunction "function",
    .named .whitespace " ", .named .identifier "f", .punctuation '(', .punctuation ')',
    .punctuation '{', .punctuation '}', .punctuation '}']

/-- The method behind the inner class strays, so that the entry has a method outside its lines. -/
theorem methods_outside_redeclaredInside :
    ∃ tokens a c, Token.prepare redeclaredInside = .ok tokens ∧
      Strays tokens .classDecl "A" "f" 0 4 10 ∧
      Analysis.ofRawTokens redeclaredInside = .ok a ∧ a.outline.classes["A"]? = some c ∧
      ¬∀ (m : String) (f : FunctionSymbol), c.methods[m]? = some f →
          c.startLine ≤ f.startLine ∧ f.endLine ≤ c.endLine := by
  obtain ⟨tokens, htokens⟩ : ∃ tokens, Token.prepare redeclaredInside = .ok tokens := ⟨_, rfl⟩
  have hstrays : Strays tokens .classDecl "A" "f" 0 4 10 := by
    cases htokens
    constructor <;> decide +kernel
  obtain ⟨a, ha, hinside⟩ := methods_inside_iff htokens
  have hentry : ∃ c, a.outline.classes["A"]? = some c := by
    cases ha
    exact Option.isSome_iff_exists.1 (by decide +kernel)
  obtain ⟨c, hc⟩ := hentry
  refine ⟨tokens, a, c, htokens, hstrays, ha, hc, fun hall => ?_⟩
  exact (hinside .classDecl "A" c hc).1 hall "f" 0 4 10 hstrays

/-- The method starts on the line behind the one on which the class ends that it is filed under. -/
theorem stray_method :
    ((Analysis.ofRawTokens redeclaredInside).toOption.bind fun a =>
      a.outline.classes["A"]?.bind fun c =>
        c.methods["f"]?.map fun f => (c.startLine, c.endLine, f.startLine, f.endLine)) =
      some (1, 1, 2, 2) := by
  decide +kernel

end Pass

end PhpOutline
