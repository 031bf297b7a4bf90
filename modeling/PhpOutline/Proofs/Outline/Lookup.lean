import Mathlib.Tactic.Lemma
import PhpOutline.Outline.Basic

/-!
# Looking up what was filed

How the three ways of filing a symbol show when the outline is looked up by kind and name, or by
the key of a free function.
-/

namespace PhpOutline

namespace Container

/-- The container without its methods. -/
def head (c : Container) : Container := { c with methods := {} }

lemma head_addMethod (c : Container) (f : FunctionSymbol) : (c.addMethod f).head = c.head := by
  unfold addMethod
  split <;> rfl

/-- A method is found under its name; the other methods stay. -/
lemma getElem?_methods_addMethod (c : Container) {f : FunctionSymbol} {name : String}
    (h : f.name = some name) (m : String) :
    (c.addMethod f).methods[m]? = if name = m then some f else c.methods[m]? := by
  simp [addMethod, h, Std.TreeMap.getElem?_insert]

/-- Filing methods one by one does not change the container otherwise. -/
lemma head_foldl_addMethod (c : Container) (fs : List FunctionSymbol) :
    (fs.foldl addMethod c).head = c.head := by
  induction fs generalizing c with
  | nil => rfl
  | cons f fs ih => rw [List.foldl_cons, ih, head_addMethod]

/-- The method found under a name is the last one filed under it. -/
lemma getElem?_methods_foldl_addMethod (c : Container) {fs : List FunctionSymbol}
    (hnamed : ∀ f ∈ fs, f.name.isSome = true) (m : String) :
    (fs.foldl addMethod c).methods[m]? =
      (fs.reverse.find? fun f => f.name = some m).or c.methods[m]? := by
  induction fs generalizing c with
  | nil => rfl
  | cons f fs ih =>
    obtain ⟨name, hname⟩ := Option.isSome_iff_exists.1 (hnamed f List.mem_cons_self)
    rw [List.foldl_cons, ih (c.addMethod f) fun g hg => hnamed g (List.mem_cons_of_mem _ hg),
      c.getElem?_methods_addMethod hname, List.reverse_cons, List.find?_append, Option.or_assoc]
    congr 1
    by_cases hm : name = m <;> simp [hname, hm]

end Container

namespace Outline

variable (o : Outline) (kind kind' : ContainerKind) (name name' : String)

lemma ofKind_modifyKind (f : Std.TreeMap String Container → Std.TreeMap String Container) :
    (o.modifyKind kind f).ofKind kind' =
      if kind = kind' then f (o.ofKind kind) else o.ofKind kind' := by
  cases kind <;> cases kind' <;> rfl

@[simp] lemma functions_modifyKind
    (f : Std.TreeMap String Container → Std.TreeMap String Container) :
    (o.modifyKind kind f).functions = o.functions := by
  cases kind <;> rfl

/-- A container is found under its kind and name; the other containers stay. -/
lemma getElem?_ofKind_addContainer (c : Container) :
    ((o.addContainer c).ofKind kind)[name]? =
      if c.kind = kind ∧ c.name = name then some c else (o.ofKind kind)[name]? := by
  rw [addContainer, ofKind_modifyKind]
  by_cases hkind : c.kind = kind
  · subst hkind
    rw [if_pos rfl, Std.TreeMap.getElem?_insert]
    simp
  · simp [hkind]

/-- A method is added to the container with the given kind and name, if there is one. -/
lemma getElem?_ofKind_addMethod (f : FunctionSymbol) :
    ((o.addMethod kind name f).ofKind kind')[name']? =
      if kind = kind' ∧ name = name' then ((o.ofKind kind)[name]?).map (·.addMethod f)
      else (o.ofKind kind')[name']? := by
  rw [addMethod, ofKind_modifyKind]
  by_cases hkind : kind = kind'
  · subst hkind
    rw [if_pos rfl, Std.TreeMap.getElem?_modify]
    simp
  · simp [hkind]

/-- Methods filed one by one are added to the container with the given kind and name. -/
lemma getElem?_ofKind_foldl_addMethod (fs : List FunctionSymbol) :
    ((fs.foldl (fun o f => o.addMethod kind name f) o).ofKind kind')[name']? =
      if kind = kind' ∧ name = name' then
        ((o.ofKind kind)[name]?).map fun c => fs.foldl Container.addMethod c
      else (o.ofKind kind')[name']? := by
  induction fs generalizing o with
  | nil =>
    by_cases h : kind = kind' ∧ name = name'
    · obtain ⟨rfl, rfl⟩ := h
      simp
    · simp [h]
  | cons f fs ih =>
    rw [List.foldl_cons, ih, getElem?_ofKind_addMethod, getElem?_ofKind_addMethod]
    by_cases h : kind = kind' ∧ name = name'
    · obtain ⟨rfl, rfl⟩ := h
      simp [Function.comp_def]
    · simp [h]

@[simp] lemma functions_addContainer (c : Container) :
    (o.addContainer c).functions = o.functions := functions_modifyKind _ _ _

@[simp] lemma functions_addMethod (f : FunctionSymbol) :
    (o.addMethod kind name f).functions = o.functions := functions_modifyKind _ _ _

@[simp] lemma functions_foldl_addMethod (fs : List FunctionSymbol) :
    (fs.foldl (fun o f => o.addMethod kind name f) o).functions = o.functions := by
  induction fs generalizing o with
  | nil => rfl
  | cons f fs ih => rw [List.foldl_cons, ih, functions_addMethod]

@[simp] lemma ofKind_addFunction (f : FunctionSymbol) :
    (o.addFunction name f).ofKind kind = o.ofKind kind := by
  cases kind <;> rfl

/-- A free function is found under its key; the other functions stay. -/
lemma getElem?_functions_addFunction (f : FunctionSymbol) :
    (o.addFunction name f).functions[name']? =
      if name = name' then some f else o.functions[name']? := by
  rw [addFunction, Std.TreeMap.getElem?_insert]
  simp

end Outline

end PhpOutline
