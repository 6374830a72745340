import Verdict.Proofs.EqualValues

/-! Equality of values as a partial equivalence. Only NaN keeps a value from being equal to itself,
objects of outside types are compared by their identity, and validations of structs do not count. -/
namespace Verdict

theorem forall₂_congr_of_mem {α β : Type} {R S : α → β → Prop} {xs : List α} {ys : List β}
    (h : ∀ x ∈ xs, ∀ y, R x y ↔ S x y) : List.Forall₂ R xs ys ↔ List.Forall₂ S xs ys :=
  ⟨forall₂_imp_of_mem fun x hx y _ => (h x hx y).mp,
    forall₂_imp_of_mem fun x hx y _ => (h x hx y).mpr⟩

namespace Value

/-- A value is within itself and within everything that has it inside, at any depth. -/
inductive Within (u : Value) : Value → Prop
  | self : Within u u
  | part {w v : Value} (hw : w ∈ v.parts) (h : Within u w) : Within u v

mutual

/-- The value without the validations that structs bring along, at any depth. -/
def bare : Value → Value
  | .list items => .list (bareItems items)
  | .map kind entries => .map kind (bareEntries entries)
  | .struct name fields _ => .struct name (bareFields fields) none
  | v => v
termination_by structural v => v

def bareItems : List Value → List Value
  | [] => []
  | v :: rest => v.bare :: bareItems rest
termination_by structural vs => vs

def bareEntries : List (MapKey × Value) → List (MapKey × Value)
  | [] => []
  | (k, v) :: rest => (k, v.bare) :: bareEntries rest
termination_by structural es => es

def bareFields : List (Field Value) → List (Field Value)
  | [] => []
  | f :: rest => { f with value := f.value.bare } :: bareFields rest
termination_by structural fs => fs

end

theorem bareItems_eq_map (items : List Value) : bareItems items = items.map bare := by
  induction items with
  | nil => rfl
  | cons v rest ih => rw [bareItems, ih, List.map_cons]

theorem bareEntries_eq_map (entries : List (MapKey × Value)) :
    bareEntries entries = entries.map (Prod.map id bare) := by
  induction entries with
  | nil => rfl
  | cons e rest ih => rw [bareEntries, ih, List.map_cons]; rfl

theorem bareFields_eq_map (fields : List (Field Value)) :
    bareFields fields = fields.map fun f => { f with value := f.value.bare } := by
  induction fields with
  | nil => rfl
  | cons f rest ih => rw [bareFields, ih, List.map_cons]

theorem isEqual_comm (a b : Value) : a.isEqual b = b.isEqual a :=
  Bool.eq_iff_iff.mpr ⟨equal_symm, equal_symm⟩

section Bare
variable {items others : List Value} {entries entries' : List (MapKey × Value)}
  {fields fields' : List (Field Value)}

theorem listsEqual_bareItems (h : ∀ v ∈ items, ∀ w, Equal v.bare w ↔ Equal v w) :
    listsEqual (bareItems items) others = listsEqual items others := by
  rw [Bool.eq_iff_iff, listsEqual_iff, listsEqual_iff, bareItems_eq_map,
    List.forall₂_map_left_iff]
  exact forall₂_congr_of_mem h

theorem entriesEqual_bareEntries (h : ∀ v ∈ entries.map Prod.snd, ∀ w, Equal v.bare w ↔ Equal v w) :
    entriesEqual (bareEntries entries) entries' = entriesEqual entries entries' := by
  rw [Bool.eq_iff_iff, entriesEqual_iff, entriesEqual_iff, bareEntries_eq_map,
    List.forall₂_map_left_iff]
  refine forall₂_congr_of_mem fun e he f => and_congr_right fun _ => ?_
  exact h e.2 (List.mem_map_of_mem he) f.2

theorem fieldsEqual_bareFields (h : ∀ v ∈ fields.map Field.value, ∀ w, Equal v.bare w ↔ Equal v w) :
    fieldsEqual (bareFields fields) fields' = fieldsEqual fields fields' := by
  rw [Bool.eq_iff_iff, fieldsEqual_iff, fieldsEqual_iff, bareFields_eq_map,
    List.forall₂_map_left_iff]
  refine forall₂_congr_of_mem fun f hf g => ?_
  have hvalue := h f.value (List.mem_map_of_mem hf) g.value
  exact ⟨fun h => ⟨h.name, h.tag, h.embedded, hvalue.mp h.value⟩,
    fun h => ⟨h.name, h.tag, h.embedded, hvalue.mpr h.value⟩⟩

end Bare

theorem isEqual_bare_left (a b : Value) : a.bare.isEqual b = a.isEqual b := by
  induction a using parts_induction generalizing b with
  | h a ih =>
    have hpart : ∀ u ∈ a.parts, ∀ w, Equal u.bare w ↔ Equal u w := by
      intro u hu w
      rw [Equal, ih u hu w]
    -- Values of different forms are unequal with and without validations.
    cases a with
    | list items =>
      cases b with
      | list others => exact listsEqual_bareItems hpart
      | _ => rfl
    | map kind entries =>
      cases b with
      | map kind' others => exact congrArg (kind == kind' && ·) (entriesEqual_bareEntries hpart)
      | _ => rfl
    | struct name fields validator =>
      cases b with
      | struct name' others validator' =>
        exact congrArg (name == name' && ·) (fieldsEqual_bareFields hpart)
      | _ => rfl
    | _ => rfl

/-- Validations of structs do not count. -/
theorem isEqual_bare (a b : Value) : a.bare.isEqual b.bare = a.isEqual b := by
  calc a.bare.isEqual b.bare
      _ = a.isEqual b.bare := isEqual_bare_left a b.bare
      _ = b.bare.isEqual a := isEqual_comm a b.bare
      _ = b.isEqual a := isEqual_bare_left b a
      _ = a.isEqual b := isEqual_comm b a

/-- A value has the form of itself if it is not NaN and its parts are related to themselves. -/
theorem sameForm_self_iff {R : Value → Value → Prop} {v : Value} :
    SameForm R v v ↔ (∀ x, v = .float x → x.isNaN = false) ∧ ∀ u ∈ v.parts, R u u := by
  constructor
  · intro h
    cases h with
    | float hx => exact ⟨fun y hy => float.inj hy ▸ (Binary64.numericEq_iff.mp hx).1, nofun⟩
    | list hs => exact ⟨nofun, List.forall₂_same.mp hs⟩
    | map kind hs =>
      refine ⟨nofun, List.forall_mem_map.mpr fun e he => ?_⟩
      exact (List.forall₂_same.mp hs e he).2
    | struct name _ _ hs =>
      refine ⟨nofun, List.forall_mem_map.mpr fun f hf => ?_⟩
      exact (List.forall₂_same.mp hs f hf).value
    | _ => exact ⟨nofun, nofun⟩
  · rintro ⟨hnumber, hparts⟩
    cases v with
    | nil => exact .nil
    | bool b => exact .bool b
    | int n => exact .int n
    | uint n => exact .uint n
    | float x => exact .float (by rw [Binary64.numericEq_self, hnumber x rfl]; rfl)
    | text s => exact .text s
    | bytes bs => exact .bytes bs
    | list items => exact .list (List.forall₂_same.mpr hparts)
    | map kind entries =>
      refine .map kind (List.forall₂_same.mpr fun e he => ⟨rfl, ?_⟩)
      exact hparts e.2 (List.mem_map_of_mem he)
    | struct name fields validator =>
      refine .struct name _ _ (List.forall₂_same.mpr fun f hf => ⟨rfl, rfl, rfl, ?_⟩)
      exact hparts f.value (List.mem_map_of_mem hf)
    | foreign f => exact .foreign f

/-- A value is equal to itself if no NaN is within it. -/
theorem isEqual_self_iff (v : Value) :
    v.isEqual v = true ↔ ∀ x, (float x).Within v → x.isNaN = false := by
  induction v using parts_induction with
  | h v ih =>
    rw [isEqual_iff, sameForm_self_iff]
    constructor
    · rintro ⟨hnumber, hparts⟩ x hx
      cases hx with
      | self => exact hnumber x rfl
      | part hw hx => exact (ih _ hw).mp (hparts _ hw) x hx
    · intro h
      refine ⟨?_, fun u hu => (ih u hu).mpr fun x hx => h x (.part hu hx)⟩
      rintro x rfl
      exact h x .self

theorem foreign_isEqual_iff {f : Foreign} {v : Value} :
    (foreign f).isEqual v = true ↔ v = .foreign f := by
  cases v with
  | foreign g =>
    change (f == g) = true ↔ foreign g = foreign f
    rw [beq_iff_eq, foreign.injEq, eq_comm]
  | _ => exact iff_of_false Bool.false_ne_true nofun

/-- Equality of values is symmetric and transitive, and reflexive just for values that hold no NaN
at any depth. An object of an outside type is equal to itself alone, whatever another one shows of
itself, and validations that structs bring along change nothing at any depth. -/
theorem isEqual_partial_equivalence :
    (∀ a b : Value, a.isEqual b = b.isEqual a) ∧
    (∀ a b c : Value, a.isEqual b = true → b.isEqual c = true → a.isEqual c = true) ∧
    (∀ v : Value, v.isEqual v = true ↔ ¬ ∃ x, x.isNaN = true ∧ (float x).Within v) ∧
    (∀ (f : Foreign) (v : Value), (foreign f).isEqual v = true ↔ v = .foreign f) ∧
    (∀ f g : Foreign, f.identity ≠ g.identity → (foreign f).isEqual (.foreign g) = false) ∧
    ∀ a b : Value, a.bare.isEqual b.bare = a.isEqual b := by
  refine ⟨isEqual_comm, fun a b c => equal_trans, fun v => ?_, fun f v => foreign_isEqual_iff,
    fun f g hne => ?_, isEqual_bare⟩
  · rw [isEqual_self_iff, not_exists]
    refine forall_congr' fun x => ?_
    cases x.isNaN <;> simp
  · apply Bool.eq_false_iff.mpr
    intro h
    have hfg := foreign.inj (foreign_isEqual_iff.mp h)
    exact hne (by rw [hfg])

/-- A list with NaN in it is not equal to itself, though its other elements are, a signed one to an
unsigned one. -/
example :
    (list [.int 1, .float .nan]).isEqual (.list [.int 1, .float .nan]) = false ∧
      (list [.int 1, .float .zero]).isEqual (.list [.uint 1, .float .zero]) = true :=
  ⟨rfl, rfl⟩

end Value
end Verdict
