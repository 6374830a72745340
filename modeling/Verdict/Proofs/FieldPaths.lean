import Verdict.Values.FieldPath

/-! Paths to fields: without embedded fields a struct has its own fields only, a path without a
point is a name, and a path is followed part by part. -/
namespace Verdict

section Segments
variable {separator : Char}

theorem segments_eq_splitOn (s : List Char) : segments separator s = s.splitOn separator := by
  induction s with
  | nil => rfl
  | cons c rest ih =>
    obtain ⟨first, more, h⟩ := List.exists_cons_of_ne_nil (List.splitOn_ne_nil separator rest)
    rw [segments, List.splitOn_cons_eq_if_modifyHead, ih, h]
    simp

theorem segments_ne_nil (s : List Char) : segments separator s ≠ [] := by
  rw [segments_eq_splitOn]
  exact List.splitOn_ne_nil separator s

theorem segments_of_not_mem {s : List Char} (h : separator ∉ s) : segments separator s = [s] := by
  rw [segments_eq_splitOn, List.splitOn_eq_singleton h]

/-- Texts joined by a separator are cut apart at it. -/
theorem segments_append (s t : List Char) : segments separator (s ++ separator :: t) =
    segments separator s ++ segments separator t := by
  simp only [segments_eq_splitOn, List.splitOn_append_cons_self]

theorem not_mem_of_mem_segments {s part : List Char} (h : part ∈ segments separator s) :
    separator ∉ part := by
  induction s generalizing part with
  | nil =>
    rw [List.mem_singleton.mp h]
    exact List.not_mem_nil
  | cons c rest ih =>
    obtain ⟨first, more, heq⟩ := List.exists_cons_of_ne_nil (segments_ne_nil rest)
    rw [heq] at ih
    rw [segments, heq] at h
    split at h
    next =>
      rcases List.mem_cons.mp h with rfl | h
      · exact List.not_mem_nil
      · exact ih h
    next hc =>
      rcases List.mem_cons.mp h with rfl | h
      · rw [List.mem_cons, not_or]
        exact ⟨fun heq => hc heq.symm, ih List.mem_cons_self⟩
      · exact ih (List.mem_cons_of_mem first h)

end Segments

namespace Value
variable {fields : List (Field Value)} {name : String} {validator : Option Validator}

theorem embeddedLevels_eq_nil (h : ∀ f ∈ fields, f.embedded = false) :
    embeddedLevels fields = [] := by
  induction fields with
  | nil => rfl
  | cons f rest ih =>
    rw [embeddedLevels, h f List.mem_cons_self, if_neg Bool.false_ne_true]
    exact ih fun g hg => h g (List.mem_cons_of_mem _ hg)

/-- Without embedded fields only a struct's own fields are found. -/
theorem field?_of_not_embedded (h : ∀ f ∈ fields, f.embedded = false) (s : String) :
    (struct name fields validator).field? s = fields.find? fun f => f.name == s := by
  rw [field?, reachableFields, levels, embeddedLevels_eq_nil h, List.flatten_cons,
    List.flatten_nil, List.append_nil]

/-- Only structs have fields. -/
theorem kind_of_field? {v : Value} {s : String} {f : Field Value} (h : v.field? s = some f) :
    v.kind = .struct := by
  cases v with
  | struct _ _ _ => rfl
  | _ => cases h

theorem kind_of_resolve? {v : Value} {s : String} {t : Field Value × String}
    (h : v.resolve? s = some t) : v.kind = .struct := by
  rw [resolve?] at h
  generalize (segments '.' s.toList).map String.ofList = names at h
  rcases names with _ | ⟨name, _ | ⟨_, _⟩⟩
  · cases h
  · obtain ⟨f, hf, _⟩ := Option.map_eq_some_iff.mp h
    exact kind_of_field? hf
  · simp only [fieldAlong?] at h
    cases hf : v.field? name with
    | none =>
      rw [hf] at h
      cases h
    | some f => exact kind_of_field? hf

/-- A path without a point is a name. -/
theorem resolve?_of_name {v : Value} {s : String} (h : '.' ∉ s.toList) :
    v.resolve? s = (v.field? s).map fun f => (f, f.errorKey) := by
  rw [resolve?, segments_of_not_mem h, List.map_singleton, String.ofList_toList, fieldAlong?]

/-- The names of a path are followed in turn, and the keys joined by a point. -/
theorem fieldAlong?_append {ns ms : List String} (hn : ns ≠ []) (hm : ms ≠ []) (v : Value) :
    v.fieldAlong? (ns ++ ms) = (v.fieldAlong? ns).bind fun t =>
      (t.1.value.fieldAlong? ms).map fun r => (r.1, t.2 ++ "." ++ r.2) := by
  induction ns generalizing v with
  | nil => exact absurd rfl hn
  | cons n rest ih =>
    cases rest with
    | nil =>
      obtain ⟨m, more, rfl⟩ := List.exists_cons_of_ne_nil hm
      simp only [List.singleton_append, fieldAlong?]
      cases v.field? n <;> rfl
    | cons n' rest =>
      simp only [List.cons_append, fieldAlong?]
      cases v.field? n with
      | none => rfl
      | some f =>
        have hrest := ih (List.cons_ne_nil _ _) f.value
        rw [List.cons_append] at hrest
        simp only [hrest, Option.map_bind, Option.bind_map, Function.comp_def, Option.map_map,
          String.append_assoc]

/-- The field at the end of two paths joined by a point is what the second one leads to from
the field at the end of the first. -/
theorem resolve?_append (v : Value) (p q : String) : v.resolve? (p ++ "." ++ q) =
    (v.resolve? p).bind fun t =>
      (t.1.value.resolve? q).map fun r => (r.1, t.2 ++ "." ++ r.2) := by
  have hpath : (p ++ "." ++ q).toList = p.toList ++ '.' :: q.toList := by simp
  have hne (s : String) : (segments '.' s.toList).map String.ofList ≠ [] := by
    simpa using segments_ne_nil s.toList
  rw [resolve?, hpath, segments_append, List.map_append, fieldAlong?_append (hne p) (hne q)]
  rfl

end Value
end Verdict
