import Mathlib.Data.List.Nodup
import Mathlib.Data.List.Perm.Basic
import PhpOutline.Proofs.Outline.OpenScopes

/-!
# Opening and closing in the journal

The journal notes every scope that a pass opens and every scope that it closes.  Which scopes are
opened at an index, and which are closed there, is said without the pass (`opensAt`, `closesAt`):
opened is a container or a function that is the outermost of its sort around its own keyword, and
it is closed where its declaration ends.  The notes of a run are exactly those of these scopes, in
this order (`filter_isOpening_before`, `filter_isClosing_before`).  In a run to the end of the file
the closed scopes are the opened ones, each once.
-/

namespace PhpOutline

/-- The event notes that a scope was opened. -/
def Event.isOpening : Event → Bool
  | .opened .. => true
  | _ => false

/-- The event notes that a scope was closed. -/
def Event.isClosing : Event → Bool
  | .closed .. => true
  | _ => false

open Declaration

/-- A scope that a pass may open: that of a container or that of a function, each given by the
index of its keyword. -/
inductive Scope
  | container (index : Nat)
  | function (index : Nat)
deriving DecidableEq

namespace Scope

/-- The index of the keyword. -/
def index : Scope → Nat
  | container i | function i => i

/-- The index of the token that closes the scope. -/
def last (tokens : List Token) (scope : Scope) : Nat := lastIndex tokens scope.index

/-- The scope is the outermost of its sort around its own keyword. -/
def isOutermost (tokens : List Token) : Scope → Bool
  | container i => outermost? tokens (isContainer tokens) i = some i
  | function i => outermost? tokens (isFunction tokens) i = some i

/-- The note that the scope was opened. -/
def opening (tokens : List Token) : Scope → Event
  | container i =>
    let c := containerAt tokens i
    .opened (.container c.kind) c.name c.startLine c.endLine
  | function i =>
    let f := functionAt tokens i
    .opened .function f.label f.startLine f.endLine

/-- The note that the scope was closed. -/
def closing (tokens : List Token) : Scope → Event
  | container i => .closed (containerAt tokens i).name (containerAt tokens i).endLine
  | function i => .closed ((functionAt tokens i).name.getD "") (functionAt tokens i).endLine

end Scope

/-- The scopes that are opened at the given index. -/
def opensAt (tokens : List Token) (k : Nat) : List Scope :=
  [.container k, .function k].filter (Scope.isOutermost tokens)

/-- The scopes that are closed at the given index, the function first. -/
def closesAt (tokens : List Token) (k : Nat) : List Scope :=
  ((outermost? tokens (isFunction tokens) k).filter (lastIndex tokens · == k)).toList.map
      .function ++
    ((outermost? tokens (isContainer tokens) k).filter (lastIndex tokens · == k)).toList.map
      .container

/-- The scopes that are opened before the given index, in the order of opening. -/
def openedBefore (tokens : List Token) (n : Nat) : List Scope :=
  (List.range n).flatMap (opensAt tokens)

/-- The scopes that are closed before the given index, in the order of closing. -/
def closedBefore (tokens : List Token) (n : Nat) : List Scope :=
  (List.range n).flatMap (closesAt tokens)

variable {path : Option String} {tokens : List Token} {k n : Nat} {t : Token} {scope : Scope}

/-! ### Each scope is closed once -/

lemma mem_opensAt : scope ∈ opensAt tokens k ↔ scope.index = k ∧ scope.isOutermost tokens := by
  rw [opensAt, List.mem_filter]
  cases scope <;> simp [Scope.index]

/-- A scope is closed at an index exactly if it is one that is opened and ends there. -/
lemma mem_closesAt :
    scope ∈ closesAt tokens k ↔ scope.isOutermost tokens ∧ scope.last tokens = k := by
  have hslot : ∀ {p : Nat → Bool}, PicksKeywords tokens p → ∀ i,
      (outermost? tokens p k = some i ∧ lastIndex tokens i = k) ↔
        (outermost? tokens p i = some i ∧ lastIndex tokens i = k) := by
    intro p hp i
    constructor
    · rintro ⟨h, hlast⟩
      exact ⟨outermost?_self_of_outermost? hp h, hlast⟩
    · rintro ⟨h, hlast⟩
      exact ⟨outermost?_of_outermost?_self h (hlast ▸ le_lastIndex tokens i) hlast.ge, hlast⟩
  cases scope with
  | container i =>
    simpa [closesAt, Scope.isOutermost, Scope.last, Scope.index, Option.filter_eq_some_iff] using
      hslot (Pass.picksKeywords_isContainer tokens) i
  | function i =>
    simpa [closesAt, Scope.isOutermost, Scope.last, Scope.index, Option.filter_eq_some_iff] using
      hslot (Pass.picksKeywords_isFunction tokens) i

lemma nodup_opensAt (tokens : List Token) (k : Nat) : (opensAt tokens k).Nodup :=
  List.Nodup.filter _ (by simp)

lemma nodup_closesAt (tokens : List Token) (k : Nat) : (closesAt tokens k).Nodup := by
  unfold closesAt
  cases (outermost? tokens (isFunction tokens) k).filter (lastIndex tokens · == k) <;>
    cases (outermost? tokens (isContainer tokens) k).filter (lastIndex tokens · == k) <;> simp

/-- No scope is opened twice. -/
lemma nodup_openedBefore (tokens : List Token) (n : Nat) : (openedBefore tokens n).Nodup := by
  refine List.nodup_flatMap.2 ⟨fun k _ => nodup_opensAt tokens k, ?_⟩
  refine List.nodup_range.imp fun {j k} hjk scope hj hk => hjk ?_
  exact (mem_opensAt.1 hj).1.symm.trans (mem_opensAt.1 hk).1

/-- No scope is closed twice. -/
lemma nodup_closedBefore (tokens : List Token) (n : Nat) : (closedBefore tokens n).Nodup := by
  refine List.nodup_flatMap.2 ⟨fun k _ => nodup_closesAt tokens k, ?_⟩
  refine List.nodup_range.imp fun {j k} hjk scope hj hk => hjk ?_
  exact (mem_closesAt.1 hj).2.symm.trans (mem_closesAt.1 hk).2

lemma mem_openedBefore :
    scope ∈ openedBefore tokens n ↔ scope.index < n ∧ scope.isOutermost tokens := by
  simp only [openedBefore, List.mem_flatMap, List.mem_range, mem_opensAt]
  constructor
  · rintro ⟨k, hk, rfl, h⟩
    exact ⟨hk, h⟩
  · rintro ⟨hlt, h⟩
    exact ⟨scope.index, hlt, rfl, h⟩

lemma mem_closedBefore :
    scope ∈ closedBefore tokens n ↔ scope.last tokens < n ∧ scope.isOutermost tokens := by
  simp only [closedBefore, List.mem_flatMap, List.mem_range, mem_closesAt]
  constructor
  · rintro ⟨k, hk, h, rfl⟩
    exact ⟨hk, h⟩
  · rintro ⟨hlt, h⟩
    exact ⟨scope.last tokens, hlt, h, rfl⟩

/-- At the end of the file the closed scopes are the opened ones. -/
lemma closedBefore_perm_openedBefore (tokens : List Token) :
    (closedBefore tokens tokens.length).Perm (openedBefore tokens tokens.length) := by
  refine (List.perm_ext_iff_of_nodup (nodup_closedBefore _ _) (nodup_openedBefore _ _)).2
    fun scope => ?_
  rw [mem_closedBefore, mem_openedBefore]
  refine and_congr_left fun _ => ⟨fun h => ?_, fun h => lastIndex_lt_length h⟩
  exact (le_lastIndex tokens scope.index).trans_lt h

/-! ### The notes of a run -/

namespace Pass

/-- A declaration is the outermost around its own keyword exactly if no other is open before. -/
lemma outermost?_self_iff (p : Nat → Bool) :
    outermost? tokens p k = some k ↔ p k = true ∧ openBefore? tokens p k = none := by
  rw [outermost?_eq_or]
  cases h : openBefore? tokens p k with
  | none => simp
  | some i =>
    have hne : i ≠ k := (openBefore?_eq_some.1 h).1.ne
    simp [hne]

/-- What is opened at an index, in terms of what the token declares and of what is open before. -/
lemma opensAt_eq (path : Option String) (hk : k ≤ (reached tokens).length) :
    opensAt tokens k =
      (if isContainer tokens k && (before path tokens k).tracker.container.isNone then
        [.container k] else []) ++
      (if isFunction tokens k && (before path tokens k).tracker.function.isNone then
        [.function k] else []) := by
  obtain ⟨hcontainer, hfunction⟩ := tracker_before path hk
  rw [hcontainer, hfunction, Option.isNone_map, Option.isNone_map, opensAt]
  simp only [List.filter_cons, List.filter_nil, Scope.isOutermost, outermost?_self_iff]
  cases isContainer tokens k <;> cases isFunction tokens k <;>
    cases openBefore? tokens (isContainer tokens) k <;>
    cases openBefore? tokens (isFunction tokens) k <;> rfl

/-- A note on brackets is neither an opening nor a closing. -/
lemma filter_balanceLog (path : Option String) (tokens : List Token) (k : Nat) (keyword : Token)
    (kind : ScopeKind) (name : String) :
    (balanceLog path tokens k keyword kind name).filter Event.isOpening = [] ∧
      (balanceLog path tokens k keyword kind name).filter Event.isClosing = [] := by
  unfold balanceLog
  split <;> exact ⟨rfl, rfl⟩

/-- The notes of handling a token: it opens what it declares if nothing of that sort is open, and
closes nothing. -/
lemma events_visit (path : Option String) (s : Pass) (h : (reached tokens)[k]? = some t) :
    ∃ log, (s.visit path tokens k t).events = s.events ++ log ∧
      log.filter Event.isClosing = [] ∧
      log.filter Event.isOpening =
        ((if isContainer tokens k && s.tracker.container.isNone then [Scope.container k] else []) ++
         (if isFunction tokens k && s.tracker.function.isNone then [Scope.function k] else [])).map
            (Scope.opening tokens) := by
  have houtcome := outcome_visit path s h
  generalize s.visit path tokens k t = s' at houtcome ⊢
  cases houtcome with
  | container named noMask noFunction =>
    simp only [fileContainer_eq, recordBalance_eq, List.append_assoc]
    refine ⟨_, rfl, ?_, ?_⟩ <;>
      cases s.tracker.container <;>
      simp [filter_balanceLog, noFunction, isContainer, named, Event.isOpening, Event.isClosing,
        Scope.opening]
  | anonymous noContainer masks noFunction =>
    exact ⟨[], by simp [mask], rfl, by simp [noContainer, noFunction]⟩
  | enumeration name noContainer masks noFunction =>
    simp only [mask, recordBalance_eq]
    refine ⟨_, rfl, ?_, ?_⟩ <;> simp [filter_balanceLog, noContainer, noFunction]
  | function noContainer noMask declares =>
    simp only [events_fileFunction, openFunction_eq, recordBalance_eq, List.append_assoc]
    refine ⟨_, rfl, ?_, ?_⟩ <;>
      cases s.tracker.function <;>
      simp [filter_balanceLog, noContainer, declares, Event.isOpening, Event.isClosing,
        Scope.opening]
  | nothing noContainer noMask noFunction =>
    exact ⟨[], by simp, rfl, by simp [noContainer, noFunction]⟩

/-- The notes of closing at an index are those of the scopes that are closed there. -/
lemma events_close (path : Option String) (hk : k < (reached tokens).length) :
    ((visited path tokens k).close k).events =
      (visited path tokens k).events ++ (closesAt tokens k).map (Scope.closing tokens) := by
  have hfunction : (visited path tokens k).tracker.functionEndingAt? k =
      ((outermost? tokens (isFunction tokens) k).filter (lastIndex tokens · == k)).map
        (functionFrame tokens) := by
    rw [Tracker.functionEndingAt?, function_visited path hk, Option.filter_map]
    rfl
  have hcontainer : (visited path tokens k).tracker.containerEndingAt? k =
      ((outermost? tokens (isContainer tokens) k).filter (lastIndex tokens · == k)).map
        (containerFrame tokens) := by
    rw [Tracker.containerEndingAt?, container_visited path hk, Option.filter_map]
    rfl
  simp only [close, hfunction, hcontainer, closesAt]
  cases (outermost? tokens (isFunction tokens) k).filter (lastIndex tokens · == k) <;>
    cases (outermost? tokens (isContainer tokens) k).filter (lastIndex tokens · == k) <;> rfl

/-- The openings and closings noted before an index are those of the scopes opened and closed
before it, in order. -/
lemma filter_events_before (path : Option String) (hn : n ≤ (reached tokens).length) :
    (before path tokens n).events.filter Event.isOpening =
        (openedBefore tokens n).map (Scope.opening tokens) ∧
      (before path tokens n).events.filter Event.isClosing =
        (closedBefore tokens n).map (Scope.closing tokens) := by
  induction n with
  | zero => exact ⟨rfl, rfl⟩
  | succ n ih =>
    obtain ⟨hopened, hclosed⟩ := ih (Nat.le_of_succ_le hn)
    have htoken := List.getElem?_eq_getElem (Nat.lt_of_succ_le hn)
    obtain ⟨log, hlog, hnoClosing, hopening⟩ :=
      events_visit path (before path tokens n) htoken
    have hclosing : ∀ scope, (Scope.closing tokens scope).isOpening = false ∧
        (Scope.closing tokens scope).isClosing = true := by
      intro scope
      cases scope <;> exact ⟨rfl, rfl⟩
    rw [before_succ hn, events_close path hn, visited_eq htoken, hlog]
    simp only [openedBefore, closedBefore, List.range_succ, List.flatMap_append, List.filter_append,
      List.map_append, List.flatMap_singleton] at hopened hclosed ⊢
    rw [hopened, hclosed, hnoClosing, hopening, ← opensAt_eq path (Nat.le_of_succ_le hn)]
    simp [List.filter_map, Function.comp_def, hclosing]

/-- The whole file's notes are those of the run, and perhaps the one that it was halted. -/
lemma filter_events_ofTokens (path : Option String) (tokens : List Token) :
    (Analysis.ofTokens path tokens).events.filter Event.isOpening =
        (openedBefore tokens (reached tokens).length).map (Scope.opening tokens) ∧
      (Analysis.ofTokens path tokens).events.filter Event.isClosing =
        (closedBefore tokens (reached tokens).length).map (Scope.closing tokens) := by
  obtain ⟨hopened, hclosed⟩ := filter_events_before path (le_refl (reached tokens).length)
  simp only [Analysis.ofTokens, run_eq_before, List.filter_append, hopened, hclosed]
  cases haltLine? tokens <;> simp [Event.isOpening, Event.isClosing]

/-- **The open scopes along a run.**  After each token that the pass reaches, the open function and
the open container are the outermost ones around the token, and the token counts as masked exactly
if a mask is around it; after closing, whatever is open ends later.  A run to the end of the file
leaves nothing open: every scope that was opened is closed once, at the index where it ends, and the
journal's closings are those of its openings. -/
theorem open_scopes_are_outermost (path : Option String) (tokens : List Token) :
    (∀ k < (reached tokens).length,
      let s := visited path tokens k
      s.tracker.function =
          (outermost? tokens (isFunction tokens) k).map (functionFrame tokens) ∧
        s.tracker.container =
          (outermost? tokens (isContainer tokens) k).map (containerFrame tokens) ∧
        (s.tracker.isMasked k = true ↔
          ∃ m ≤ k, isMask tokens m = true ∧ k ≤ lastIndex tokens m) ∧
        (∀ frame, (s.close k).tracker.function = some frame → k < frame.endIndex) ∧
        (∀ scope, (s.close k).tracker.container = some scope → k < scope.2.endIndex) ∧
        (∀ last, (s.close k).tracker.maskedUntil = some last → k < last)) ∧
    ((∀ t ∈ tokens, t.kind ≠ .kwHaltCompiler) →
      let events := (Analysis.ofTokens path tokens).events
      let opened := openedBefore tokens tokens.length
      (run path tokens).tracker = {} ∧
        (∀ k < tokens.length, ((visited path tokens k).close k).events =
          (visited path tokens k).events ++ (closesAt tokens k).map (Scope.closing tokens)) ∧
        (∀ scope ∈ opened, ∀ k < tokens.length,
          (closesAt tokens k).count scope = if k = scope.last tokens then 1 else 0) ∧
        opened.Nodup ∧
        events.filter Event.isOpening = opened.map (Scope.opening tokens) ∧
        ∃ closed : List Scope, closed.Perm opened ∧
          events.filter Event.isClosing = closed.map (Scope.closing tokens)) := by
  constructor
  · intro k hk
    dsimp only
    rw [← before_succ hk]
    refine ⟨function_visited path hk, container_visited path hk, isMasked_visited path hk,
      fun frame h => le_endIndex_function_before hk h,
      fun scope h => le_endIndex_container_before hk h, fun last h => ?_⟩
    exact ((maskReaches_before path hk).attained last h).1
  · intro hhalt
    have hreached := reached_eq_self hhalt
    obtain ⟨hopened, hclosed⟩ := filter_events_ofTokens path tokens
    rw [hreached] at hopened hclosed
    refine ⟨tracker_run path hhalt, fun k hk => events_close path (hreached.symm ▸ hk), ?_,
      nodup_openedBefore tokens _, hopened, _, closedBefore_perm_openedBefore tokens, hclosed⟩
    intro scope hscope k _
    rw [(nodup_closesAt tokens k).count]
    simp only [mem_closesAt, (mem_openedBefore.1 hscope).2, true_and, eq_comm]

/-- The tokens of a class with one method. -/
def classWithMethod : List Token :=
  [⟨.kwClass, "class", 1⟩, ⟨.whitespace, " ", 1⟩, ⟨.identifier, "A", 1⟩, ⟨.openCurly, "\x7b", 1⟩,
   ⟨.kwFunction, "function", 1⟩, ⟨.whitespace, " ", 1⟩, ⟨.identifier, "f", 1⟩,
   ⟨.openCurly, "\x7b", 1⟩, ⟨.closeCurly, "\x7d", 1⟩, ⟨.closeCurly, "\x7d", 1⟩]

/-- Inside the method the class is open, and at the end nothing is. -/
theorem open_scopes_in_method :
    (visited none classWithMethod 8).tracker.container =
        some (containerFrame classWithMethod 0) ∧
      (visited none classWithMethod 8).tracker.function =
        some (functionFrame classWithMethod 4) ∧
      (run none classWithMethod).tracker = {} := by
  obtain ⟨hopen, hend⟩ := open_scopes_are_outermost none classWithMethod
  obtain ⟨hfunction, hcontainer, -⟩ := hopen 8 (by decide)
  refine ⟨hcontainer.trans ?_, hfunction.trans ?_, (hend (by decide)).1⟩
  · rw [show outermost? classWithMethod (isContainer classWithMethod) 8 = some 0 by decide]
    rfl
  · rw [show outermost? classWithMethod (isFunction classWithMethod) 8 = some 4 by decide]
    rfl

end Pass

end PhpOutline
