import Verdict.Proofs.FieldPaths
import Verdict.Proofs.FieldPlaces

/-! Composition of paths. A path is the names of the fields stepped through, joined by points, and
the key at its end is their error keys, joined by points. -/
namespace Verdict

/-- The names of a path, read back as its text. -/
theorem intercalate_segments (s : String) :
    String.intercalate "." ((segments '.' s.toList).map String.ofList) = s := by
  apply String.toList_injective
  rw [String.toList_intercalate, List.map_map, segments_eq_splitOn]
  have hid : String.toList ∘ String.ofList = id := funext fun _ => String.toList_ofList
  rw [hid, List.map_id]
  exact List.intercalate_splitOn '.'

/-- Names without points are told apart in the path that they form. -/
theorem segments_intercalate {names : List String} (hne : names ≠ [])
    (h : ∀ n ∈ names, '.' ∉ n.toList) :
    (segments '.' (String.intercalate "." names).toList).map String.ofList = names := by
  have hsplit : segments '.' (String.intercalate "." names).toList = names.map String.toList := by
    rw [String.toList_intercalate, segments_eq_splitOn]
    refine List.splitOn_intercalate '.' ?_ (by simpa using hne)
    intro l hl
    obtain ⟨n, hn, rfl⟩ := List.mem_map.mp hl
    exact h n hn
  have hid : String.ofList ∘ String.toList = id := funext fun _ => String.ofList_toList
  rw [hsplit, List.map_map, hid, List.map_id]

namespace Value
variable {v : Value}

/-- The fields found for names in turn, each one in the value of the one before. -/
inductive StepsThrough : Value → List String → List (Field Value) → Prop
  | last {v : Value} {name : String} {f : Field Value} (hf : v.field? name = some f) :
    StepsThrough v [name] [f]
  | step {v : Value} {name : String} {names : List String} {f : Field Value}
      {fs : List (Field Value)} (hf : v.field? name = some f)
      (rest : StepsThrough f.value names fs) : StepsThrough v (name :: names) (f :: fs)

namespace StepsThrough
variable {names : List String} {fs : List (Field Value)}

theorem names_ne_nil (h : StepsThrough v names fs) : names ≠ [] := by
  cases h <;> exact List.cons_ne_nil _ _

theorem fields_ne_nil (h : StepsThrough v names fs) : fs ≠ [] := by
  cases h <;> exact List.cons_ne_nil _ _

end StepsThrough

/-- The key under which the field at the end of the steps reports. -/
def joinedKeys (fs : List (Field Value)) : String :=
  String.intercalate "." (fs.map Field.errorKey)

theorem joinedKeys_singleton (f : Field Value) : joinedKeys [f] = f.errorKey :=
  String.intercalate_singleton

theorem joinedKeys_cons (f : Field Value) {fs : List (Field Value)} (h : fs ≠ []) :
    joinedKeys (f :: fs) = f.errorKey ++ "." ++ joinedKeys fs :=
  String.intercalate_cons_of_ne_nil (by simpa using h)

theorem fieldAlong?_cons {names : List String} (name : String) (hne : names ≠ []) :
    v.fieldAlong? (name :: names) = (v.field? name).bind fun f =>
      (f.value.fieldAlong? names).map fun r => (r.1, f.errorKey ++ "." ++ r.2) := by
  obtain ⟨next, more, rfl⟩ := List.exists_cons_of_ne_nil hne
  rw [fieldAlong?]
  · cases v.field? name <;> rfl
  · exact List.cons_ne_nil next more

/-- A list of names leads to the last of the fields found in turn. -/
theorem fieldAlong?_eq_some_iff {names : List String} {g : Field Value} {k : String} :
    v.fieldAlong? names = some (g, k) ↔
      ∃ fs, StepsThrough v names fs ∧ fs.getLast? = some g ∧ k = joinedKeys fs := by
  constructor
  · intro h
    induction names generalizing v k with
    | nil =>
      rw [fieldAlong?] at h
      cases h
    | cons name names ih =>
      by_cases hne : names = []
      · subst hne
        rw [fieldAlong?] at h
        obtain ⟨f, hf, heq⟩ := Option.map_eq_some_iff.mp h
        cases heq
        exact ⟨[g], .last hf, rfl, (joinedKeys_singleton g).symm⟩
      · rw [fieldAlong?_cons name hne] at h
        obtain ⟨f, hf, h⟩ := Option.bind_eq_some_iff.mp h
        obtain ⟨⟨g', k'⟩, hrest, heq⟩ := Option.map_eq_some_iff.mp h
        cases heq
        obtain ⟨fs, hsteps, hlast, rfl⟩ := ih hrest
        have hfs := hsteps.fields_ne_nil
        refine ⟨f :: fs, .step hf hsteps, ?_, (joinedKeys_cons f hfs).symm⟩
        rw [List.getLast?_cons, hlast, Option.getD_some]
  · rintro ⟨fs, hsteps, hlast, rfl⟩
    induction hsteps with
    | last hf =>
      rw [fieldAlong?, hf, joinedKeys_singleton]
      cases hlast
      rfl
    | step hf rest ih =>
      have hfs := rest.fields_ne_nil
      rw [fieldAlong?_cons _ rest.names_ne_nil, hf, Option.bind_some, joinedKeys_cons _ hfs, ih]
      · rfl
      · rwa [List.getLast?_cons_of_ne_nil hfs] at hlast

theorem resolve?_eq_some_iff {p k : String} {g : Field Value} : v.resolve? p = some (g, k) ↔
    ∃ names fs, p = String.intercalate "." names ∧ (∀ n ∈ names, '.' ∉ n.toList) ∧
      StepsThrough v names fs ∧ fs.getLast? = some g ∧ k = joinedKeys fs := by
  rw [resolve?, fieldAlong?_eq_some_iff]
  constructor
  · rintro ⟨fs, h⟩
    refine ⟨_, fs, (intercalate_segments p).symm, ?_, h⟩
    intro n hn
    obtain ⟨part, hpart, rfl⟩ := List.mem_map.mp hn
    rw [String.toList_ofList]
    exact not_mem_of_mem_segments hpart
  · rintro ⟨names, fs, rfl, hnames, hsteps, h⟩
    refine ⟨fs, ?_, h⟩
    rwa [segments_intercalate hsteps.names_ne_nil hnames]

/-- The field at the end of two paths joined by a point is found by the second one in the struct
at the end of the first. -/
theorem resolve?_append_eq_some_iff {p q k : String} {g : Field Value} :
    v.resolve? (p ++ "." ++ q) = some (g, k) ↔
      ∃ f k₁ k₂, v.resolve? p = some (f, k₁) ∧ f.value.kind = .struct ∧
        f.value.resolve? q = some (g, k₂) ∧ k = k₁ ++ "." ++ k₂ := by
  rw [resolve?_append, Option.bind_eq_some_iff]
  constructor
  · rintro ⟨⟨f, k₁⟩, hf, h⟩
    obtain ⟨⟨g', k₂⟩, hg, heq⟩ := Option.map_eq_some_iff.mp h
    cases heq
    exact ⟨f, k₁, k₂, hf, kind_of_resolve? hg, hg, rfl⟩
  · rintro ⟨f, k₁, k₂, hf, _, hg, rfl⟩
    exact ⟨(f, k₁), hf, Option.map_eq_some_iff.mpr ⟨(g, k₂), hg, rfl⟩⟩

theorem resolve?_append_eq_none_iff {p q : String} : v.resolve? (p ++ "." ++ q) = none ↔
    ∀ f k₁, v.resolve? p = some (f, k₁) → f.value.kind = .struct → f.value.resolve? q = none := by
  rw [Option.eq_none_iff_forall_ne_some]
  constructor
  · intro h f k₁ hf hkind
    refine Option.eq_none_iff_forall_ne_some.mpr fun ⟨g, k₂⟩ hg => ?_
    exact h (g, _) (resolve?_append_eq_some_iff.mpr ⟨f, k₁, k₂, hf, hkind, hg, rfl⟩)
  · rintro h ⟨g, k⟩ hg
    obtain ⟨f, k₁, k₂, hf, hkind, hg, _⟩ := resolve?_append_eq_some_iff.mp hg
    rw [h f k₁ hf hkind] at hg
    cases hg

/-- A field found by its name reports under its own key alone, however deep it is embedded. -/
theorem Foremost.resolve? {name : String} {place : List Nat} {f : Field Value}
    (h : Foremost v name place f) (hname : '.' ∉ name.toList) :
    v.resolve? name = some (f, f.errorKey) := by
  rw [resolve?_of_name hname, field?_eq_some_iff.mpr ⟨place, h⟩, Option.map_some]

/-- Paths compose: joined by a point they lead from the end of the first one, where a struct must
stand, to the end of the second one below it. What a path leads to is the last of the fields found
by its names in turn, under their joined keys; a promoted field adds its own key only. -/
theorem resolve?_composes (v : Value) (p q : String) :
    (∀ g k, v.resolve? (p ++ "." ++ q) = some (g, k) ↔
      ∃ f k₁ k₂, v.resolve? p = some (f, k₁) ∧ f.value.kind = .struct ∧
        f.value.resolve? q = some (g, k₂) ∧ k = k₁ ++ "." ++ k₂) ∧
    (v.resolve? (p ++ "." ++ q) = none ↔
      ∀ f k₁, v.resolve? p = some (f, k₁) → f.value.kind = .struct → f.value.resolve? q = none) ∧
    (∀ g k, v.resolve? p = some (g, k) ↔
      ∃ names fs, p = String.intercalate "." names ∧ (∀ n ∈ names, '.' ∉ n.toList) ∧
        StepsThrough v names fs ∧ fs.getLast? = some g ∧ k = joinedKeys fs) ∧
    ∀ name place f, Foremost v name place f → '.' ∉ name.toList →
      v.resolve? name = some (f, f.errorKey) :=
  ⟨fun _ _ => resolve?_append_eq_some_iff, resolve?_append_eq_none_iff,
    fun _ _ => resolve?_eq_some_iff, fun _ _ _ => Foremost.resolve?⟩

/-- A promoted field, and one below it whose tag has a point of its own. -/
theorem resolve?_composes_of_promoted :
    let b := Field.mk "B" (some "b.c,omitempty") false nil
    let a := Field.mk "A" (some "a") false (struct "T" [b] none)
    let v := struct "Outer" [⟨"In", none, true, struct "In" [a] none⟩] none
    v.resolve? ("A" ++ "." ++ "B") = some (b, "a" ++ "." ++ "b.c") := by
  intro b a v
  obtain ⟨hjoined, _, _, hpromoted⟩ := resolve?_composes v "A" "B"
  obtain ⟨place, hplace⟩ := field?_eq_some_iff.mp (rfl : v.field? "A" = some a)
  have ha : v.resolve? "A" = some (a, "a") := hpromoted "A" place a hplace (by decide)
  have hb : a.value.resolve? "B" = some (b, "b.c") := resolve?_of_name (by decide)
  exact (hjoined b _).mpr ⟨a, "a", "b.c", ha, rfl, hb, rfl⟩

end Value
end Verdict
