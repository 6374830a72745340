import Verdict.Proofs.WellFormedErrors

/-! When a struct passes. Bound fields write their errors in turn, and an embedded struct writes
what its own errors by key hold, so a later absent entry erases an earlier failure. -/
namespace Verdict

namespace Value

/-- What the validation of a bound field answers, if there is such a field. -/
def fieldOutcome? (v : Value) (c : Context) (b : FieldBinding (List Rule)) : Option Outcome :=
  (v.resolve? b.path).map fun t => (Rule.validate b.rules c t.1.value).outcome

/-- What the validation of a bound field answers, or the internal error that there is none. -/
def boundOutcome (v : Value) (c : Context) (p : FieldBinding (List Rule) × Nat) : Outcome :=
  (v.fieldOutcome? c p.1).getD (.error (.internal (.fieldNotFound p.2)))

/-- The entries written for an error: those of errors by key if the field is embedded, and
otherwise the error under the key of the field. -/
def entriesOf (embedded : Bool) (key : String) : Error → List (String × Option Error)
  | .fields nested => if embedded then nested else [(key, some (.fields nested))]
  | e => [(key, some e)]

/-- The entries written for a bound field, none if it passes. -/
def fieldEntries (v : Value) (c : Context) (b : FieldBinding (List Rule)) :
    List (String × Option Error) :=
  match v.resolve? b.path with
  | none => []
  | some (f, key) =>
    match (Rule.validate b.rules c f.value).outcome with
    | .ok () => []
    | .error e => entriesOf f.embedded key e

/-- Some key was written an error last. -/
def KeepsError (v : Value) (c : Context) (bindings : List (FieldBinding (List Rule))) : Prop :=
  ∃ key e, LastWith (fun w => w.1 = key) (bindings.flatMap (v.fieldEntries c)) (key, some e)

end Value

namespace FieldItem

private def entries (i : FieldItem) (e : Error) : List (String × Option Error) :=
  match i.target with
  | none => []
  | some (f, key) => Value.entriesOf f.embedded key e

private theorem write_eq_merge (i : FieldItem) (e : Error) (es : KeyedErrors) :
    i.write e es = es.merge (i.entries e) := by
  obtain ⟨index, b, target⟩ := i
  rcases target with _ | ⟨⟨name, tag, embedded, value⟩, key⟩
  · rfl
  · cases embedded <;> cases e <;> rfl

end FieldItem

section Outcome
variable {c : Context} {v : Value} {bindings : List (FieldBinding (List Rule))}

private theorem exists_fieldOutcome {b : FieldBinding (List Rule)}
    (h : (v.resolve? b.path).isSome) : ∃ o, v.fieldOutcome? c b = some o := by
  obtain ⟨t, ht⟩ := Option.isSome_iff_exists.mp h
  exact ⟨_, by rw [Value.fieldOutcome?, ht]; rfl⟩

private abbrev itemOf (v : Value) (p : FieldBinding (List Rule) × Nat) : FieldItem :=
  ⟨p.2, ⟨p.1.path, Rule.validate p.1.rules⟩, v.resolve? p.1.path⟩

private theorem check_item {name : String} {b : FieldBinding (List Rule)} {n : Nat} {o : Outcome}
    (h : v.fieldOutcome? c b = some o) : ((itemOf v (b, n)).check name c).outcome = o := by
  obtain ⟨⟨f, key⟩, hf, rfl⟩ := Option.map_eq_some_iff.mp h
  simp only [FieldItem.check, hf, Run.reportAbort_outcome]

private theorem check_item_eq_boundOutcome {name : String}
    (p : FieldBinding (List Rule) × Nat) :
    ((itemOf v p).check name c).outcome = v.boundOutcome c p := by
  cases h : v.fieldOutcome? c p.1 with
  | some o => rw [check_item h, Value.boundOutcome, h, Option.getD_some]
  | none =>
    have hnone : v.resolve? p.1.path = none := Option.map_eq_none_iff.mp h
    simp only [FieldItem.check, hnone, Value.boundOutcome, h, Option.getD_none, Run.raise]

private theorem items_eq : (bindings.map fun b => (⟨b.path, Rule.validate b.rules⟩ :
    FieldBinding Check)).zipIdx.map (fun p => ⟨p.2, p.1, v.resolve? p.1.path⟩) =
      bindings.zipIdx.map (itemOf v) := by
  rw [List.zipIdx_map, List.map_map]
  rfl

/-- A struct ends in the first internal error of its bound fields, in order. -/
theorem validateStruct_internal_iff (hs : v.kind = .struct) {fault : Fault Error} :
    (Rule.validateStruct bindings c v).outcome = .error (.internal fault) ↔
      (bindings.zipIdx.map (v.boundOutcome c)).find? Outcome.isInternal =
        some (.error (.internal fault)) := by
  cases v with
  | struct name fields validator =>
    rw [Rule.validateStruct, Check.structFields, Run.after_outcome, items_eq,
      collect_internal_iff, List.map_map]
    simp only [Function.comp_def, check_item_eq_boundOutcome]
  | _ => cases hs

/-- Unless a struct ends in an internal error, its bound fields exist and none of them does. -/
theorem resolves_of_not_internal (hs : v.kind = .struct)
    (h : ∀ fault, (Rule.validateStruct bindings c v).outcome ≠ .error (.internal fault)) :
    (∀ b ∈ bindings, (v.resolve? b.path).isSome) ∧
      ∀ b ∈ bindings, ∀ fault, v.fieldOutcome? c b ≠ some (.error (.internal fault)) := by
  have hnone : (bindings.zipIdx.map (v.boundOutcome c)).find? Outcome.isInternal = none := by
    by_contra hsome
    obtain ⟨o, ho⟩ := Option.ne_none_iff_exists'.mp hsome
    obtain ⟨fault, rfl⟩ := Outcome.isInternal_iff.mp (List.find?_some ho)
    exact h fault ((validateStruct_internal_iff hs).mpr ho)
  have hbound : ∀ b ∈ bindings, ∃ n, ¬ Outcome.isInternal (v.boundOutcome c (b, n)) := by
    intro b hb
    rw [← List.zipIdx_map_fst 0 bindings] at hb
    obtain ⟨⟨_, n⟩, hn, rfl⟩ := List.mem_map.mp hb
    exact ⟨n, List.find?_eq_none.mp hnone _ (List.mem_map_of_mem hn)⟩
  constructor
  · intro b hb
    obtain ⟨n, hn⟩ := hbound b hb
    by_contra hres
    have hmissing : v.fieldOutcome? c b = none := by
      rw [Value.fieldOutcome?, Option.not_isSome_iff_eq_none.mp hres, Option.map_none]
    rw [Value.boundOutcome, hmissing] at hn
    exact hn rfl
  · intro b hb fault hfault
    obtain ⟨n, hn⟩ := hbound b hb
    rw [Value.boundOutcome, hfault] at hn
    exact hn rfl

private theorem entries_item {name : String} {b : FieldBinding (List Rule)} {n : Nat}
    (h : (v.resolve? b.path).isSome) :
    (((itemOf v (b, n)).check name c).error?.map (itemOf v (b, n)).entries).getD [] =
      v.fieldEntries c b := by
  obtain ⟨⟨f, key⟩, hf⟩ := Option.isSome_iff_exists.mp h
  have hcheck : ((itemOf v (b, n)).check name c).outcome =
      (Rule.validate b.rules c f.value).outcome :=
    check_item (by simp only [Value.fieldOutcome?, hf, Option.map_some])
  simp only [Value.fieldEntries, hf]
  cases ho : (Rule.validate b.rules c f.value).outcome with
  | ok u =>
    rw [Run.error?_eq_none_iff.mpr (hcheck.trans ho)]
    rfl
  | error e =>
    rw [Run.error?_eq_some_iff.mpr (hcheck.trans ho)]
    simp only [Option.map_some, Option.getD_some, FieldItem.entries, hf]

private theorem fieldEntries_of_passes {b : FieldBinding (List Rule)}
    (h : v.fieldOutcome? c b = some (.ok ())) : v.fieldEntries c b = [] := by
  obtain ⟨⟨f, key⟩, hf, ho⟩ := Option.map_eq_some_iff.mp h
  simp only [Value.fieldEntries, hf, ho]

/-- A well-formed error of a field is written as errors, at least one of them. -/
private theorem fieldEntries_of_wellFormed {b : FieldBinding (List Rule)} {e : Error}
    (h : v.fieldOutcome? c b = some (.error e)) (he : e.WellFormed) :
    v.fieldEntries c b ≠ [] ∧ ∀ w ∈ v.fieldEntries c b, w.2 ≠ none := by
  obtain ⟨⟨f, key⟩, hf, ho⟩ := Option.map_eq_some_iff.mp h
  simp only [Value.fieldEntries, hf, ho]
  cases he with
  | violation _ | internal _ => simp [Value.entriesOf]
  | fields nonempty present =>
    rw [Value.entriesOf]
    split
    · exact ⟨nonempty, present⟩
    · simp

private theorem fieldEntries_present {b : FieldBinding (List Rule)}
    (hres : (v.resolve? b.path).isSome)
    (hwell : ∀ e, v.fieldOutcome? c b = some (.error e) → e.WellFormed) :
    ∀ w ∈ v.fieldEntries c b, w.2 ≠ none := by
  obtain ⟨o, ho⟩ := exists_fieldOutcome (c := c) hres
  cases o with
  | ok u => simp [fieldEntries_of_passes ho]
  | error e => exact (fieldEntries_of_wellFormed ho (hwell e ho)).2

private theorem not_keepsError_of_pass
    (h : ∀ b ∈ bindings, v.fieldOutcome? c b = some (.ok ())) : ¬ v.KeepsError c bindings := by
  rintro ⟨key, e, hlast⟩
  obtain ⟨b, hb, hm⟩ := List.mem_flatMap.mp hlast.mem
  rw [fieldEntries_of_passes (h b hb)] at hm
  cases hm

section Resolving
variable (hs : v.kind = .struct) (hres : ∀ b ∈ bindings, (v.resolve? b.path).isSome)
  (hint : ∀ b ∈ bindings, ∀ fault, v.fieldOutcome? c b ≠ some (.error (.internal fault)))
include hs hres hint

/-- A struct answers from the entries that its bound fields write in turn. -/
theorem validateStruct_outcome : (Rule.validateStruct bindings c v).outcome =
    (KeyedErrors.ofList (bindings.flatMap (v.fieldEntries c))).toOutcome := by
  cases v with
  | struct name fields validator =>
    generalize hv : Value.struct name fields validator = v at *
    have hplain : ∀ i ∈ bindings.zipIdx.map (itemOf v), ∀ e,
        (i.check name c).outcome = .error e → e.isInternal = false := by
      intro i hi e he
      obtain ⟨⟨b, n⟩, hp, rfl⟩ := List.mem_map.mp hi
      have hb := List.fst_mem_of_mem_zipIdx hp
      obtain ⟨o, ho⟩ := exists_fieldOutcome (c := c) (hres b hb)
      rw [check_item ho] at he
      cases e with
      | internal fault => exact absurd (he ▸ ho) (hint b hb fault)
      | violation _ | fields _ => rfl
    have hentries : ((bindings.zipIdx.map (itemOf v)).flatMap fun i =>
        ((i.check name c).error?.map i.entries).getD []) =
          bindings.flatMap (v.fieldEntries c) := by
      rw [List.flatMap_map]
      conv_rhs => rw [← List.zipIdx_map_fst 0 bindings, List.flatMap_map]
      exact List.flatMap_congr fun p hp => entries_item (hres p.1 (List.fst_mem_of_mem_zipIdx hp))
    rw [← hv, Rule.validateStruct, Check.structFields, Run.after_outcome, hv, items_eq,
      collect_outcome FieldItem.write_eq_merge hplain, hentries]
    rfl
  | _ => cases hs

/-- A struct fails exactly if an error is kept until the end. -/
theorem validateStruct_passes_iff :
    (Rule.validateStruct bindings c v).outcome = .ok () ↔ ¬ v.KeepsError c bindings := by
  rw [validateStruct_outcome hs hres hint, KeyedErrors.ofList_toOutcome_eq_ok_iff]
  simp only [Value.KeepsError, not_exists]

/-- If the errors of fields are well formed, a struct passes only if all its bound fields do. -/
theorem validateStruct_passes_iff_of_wellFormed
    (hwell : ∀ b ∈ bindings, ∀ e, v.fieldOutcome? c b = some (.error e) → e.WellFormed) :
    (Rule.validateStruct bindings c v).outcome = .ok () ↔
      ∀ b ∈ bindings, v.fieldOutcome? c b = some (.ok ()) := by
  rw [validateStruct_passes_iff hs hres hint]
  refine ⟨fun hn b hb => ?_, not_keepsError_of_pass⟩
  obtain ⟨o, ho⟩ := exists_fieldOutcome (c := c) (hres b hb)
  cases o with
  | ok u => exact ho
  | error e =>
    -- The failing field writes some key, and what is written to that key last is an error too.
    obtain ⟨w, hw⟩ := List.exists_mem_of_ne_nil _
      (fieldEntries_of_wellFormed ho (hwell b hb e ho)).1
    obtain ⟨⟨key, o⟩, hlast⟩ := (LastWith.exists_iff (p := fun w' => w'.1 = w.1)).mpr
      ⟨w, List.mem_flatMap.mpr ⟨b, hb, hw⟩, rfl⟩
    obtain ⟨d, hd, hm⟩ := List.mem_flatMap.mp hlast.mem
    obtain ⟨f, rfl⟩ := Option.ne_none_iff_exists'.mp
      (fieldEntries_present (hres d hd) (hwell d hd) _ hm)
    obtain rfl : key = w.1 := hlast.holds
    exact absurd ⟨_, f, hlast⟩ hn

/-- That a struct passes only if all its bound fields do is so in just those cases where a
failing field leaves an error to be kept. Errors by key of an embedded struct may be empty, or
hold absent entries that erase the failures of other fields. -/
theorem struct_passes_iff_fields_pass_iff :
    ((Rule.validateStruct bindings c v).outcome = .ok () ↔
      ∀ b ∈ bindings, v.fieldOutcome? c b = some (.ok ())) ↔
    ((∃ b ∈ bindings, v.fieldOutcome? c b ≠ some (.ok ())) → v.KeepsError c bindings) := by
  rw [validateStruct_passes_iff hs hres hint]
  constructor
  · rintro h ⟨b, hb, hfail⟩
    by_contra hn
    exact hfail (h.mp hn b hb)
  · intro h
    refine ⟨fun hn b hb => ?_, not_keepsError_of_pass⟩
    by_contra hfail
    exact hn (h ⟨b, hb, hfail⟩)

end Resolving
end Outcome

/-- The blank field keeps its error beside the one of the embedded struct. -/
theorem struct_passes_iff_fields_pass_iff_of_blank :
    let inner : Error := .fields [("B", some (.violation (.plain "c" "m")))]
    let v : Value := .struct "S" [⟨"A", none, false, .text ""⟩,
      ⟨"E", none, true, .struct "T" [] (some fun _ => .fail inner)⟩] none
    let bindings : List (FieldBinding (List Rule)) := [⟨"A", [.leaf .required]⟩, ⟨"E", []⟩]
    v.kind = .struct ∧ (∀ b ∈ bindings, (v.resolve? b.path).isSome) ∧
      (∀ b ∈ bindings, ∀ fault,
        v.fieldOutcome? .background b ≠ some (.error (.internal fault))) ∧
      v.KeepsError .background bindings ∧
      (((Rule.validateStruct bindings .background v).outcome = .ok () ↔
        ∀ b ∈ bindings, v.fieldOutcome? .background b = some (.ok ())) ↔
      ((∃ b ∈ bindings, v.fieldOutcome? .background b ≠ some (.ok ())) →
        v.KeepsError .background bindings)) := by
  intro inner v bindings
  have hA : v.fieldOutcome? .background ⟨"A", [.leaf .required]⟩ =
      some (.error (.violation Leaf.required.template)) := by
    subst v
    rfl
  have hE : v.fieldOutcome? .background ⟨"E", []⟩ = some (.error inner) := by
    subst v
    rfl
  have hres : ∀ b ∈ bindings, (v.resolve? b.path).isSome := by
    simpa [bindings] using ⟨by subst v; rfl, by subst v; rfl⟩
  have hint : ∀ b ∈ bindings, ∀ fault,
      v.fieldOutcome? .background b ≠ some (.error (.internal fault)) := by
    simp [bindings, hA, hE, inner]
  have hkeeps : v.KeepsError .background bindings :=
    ⟨"B", .violation (.plain "c" "m"), [("A", some (.violation Leaf.required.template))], [],
      by subst v bindings; rfl, rfl, by simp⟩
  exact ⟨rfl, hres, hint, hkeeps, struct_passes_iff_fields_pass_iff rfl hres hint⟩

/-- An absent entry of the embedded struct erases the failure of the blank field. -/
theorem struct_passes_despite_blank :
    let v : Value := .struct "S" [⟨"A", none, false, .text ""⟩,
      ⟨"E", none, true, .struct "T" [] (some fun _ => .fail (.fields [("A", none)]))⟩] none
    let bindings : List (FieldBinding (List Rule)) := [⟨"A", [.leaf .required]⟩, ⟨"E", []⟩]
    v.kind = .struct ∧ (∀ b ∈ bindings, (v.resolve? b.path).isSome) ∧
      (∀ b ∈ bindings, ∀ fault,
        v.fieldOutcome? .background b ≠ some (.error (.internal fault))) ∧
      ¬ ((Rule.validateStruct bindings .background v).outcome = .ok () ↔
        ∀ b ∈ bindings, v.fieldOutcome? .background b = some (.ok ())) := by
  intro v bindings
  have hA : v.fieldOutcome? .background ⟨"A", [.leaf .required]⟩ =
      some (.error (.violation Leaf.required.template)) := by
    subst v
    rfl
  have hE : v.fieldOutcome? .background ⟨"E", []⟩ = some (.error (.fields [("A", none)])) := by
    subst v
    rfl
  have hpasses : (Rule.validateStruct bindings .background v).outcome = .ok () := by
    subst v bindings
    rfl
  have hres : ∀ b ∈ bindings, (v.resolve? b.path).isSome := by
    simpa [bindings] using ⟨by subst v; rfl, by subst v; rfl⟩
  refine ⟨rfl, hres, by simp [bindings, hA, hE], fun h => ?_⟩
  have hpassed := h.mp hpasses ⟨"A", [.leaf .required]⟩ List.mem_cons_self
  rw [hA] at hpassed
  cases hpassed

end Verdict
