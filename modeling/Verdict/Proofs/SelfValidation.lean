import Verdict.Proofs.EachOutcome
import Verdict.Proofs.FlatRules

/-! Self-validation of collections. A visit of the elements without any rules gathers what their
self-validations answer, and it is the collection's own self-validation if no element is a
collection in turn. -/
namespace Verdict

namespace FirstWith
variable {α β : Type} {p : β → Prop} {f : α → β} {xs before : List α} {x : α}

theorem map (h : FirstWith (fun x => p (f x)) xs before x) :
    FirstWith p (xs.map f) (before.map f) (f x) := by
  obtain ⟨⟨after, rfl⟩, hx, hn⟩ := h
  refine ⟨⟨after.map f, ?_⟩, hx, List.forall_mem_map.mpr hn⟩
  rw [List.map_append, List.map_cons]

end FirstWith

/-- What a list of answers under labels comes to: its first internal error, and without any
the last error of each label, in the order of the labels. -/
inductive Gathered (answers : List (String × Outcome)) : Outcome → Prop
  | aborted {before : List (String × Outcome)} {label : String} {fault : Fault Error}
      (first : FirstWith (fun a => a.2.isInternal) answers before
        (label, .error (.internal fault))) : Gathered answers (.error (.internal fault))
  | passed (all : ∀ a ∈ answers, a.2 = .ok ()) : Gathered answers (.ok ())
  | failed {es : KeyedErrors} (clean : ∀ a ∈ answers, ¬ a.2.isInternal)
      (failing : ∃ a ∈ answers, a.2 ≠ .ok ()) (sorted : SortedEntries.Sorted es)
      (entries : ∀ s o, (s, o) ∈ es ↔ ∃ e, o = some e ∧
        LastWith (fun a => a.1 = s ∧ a.2 ≠ .ok ()) answers (s, .error e)) :
      Gathered answers (.error (.fields es))

/-- A traversal that does not fail fast gathers what its items answer. -/
theorem gathered_collect {α : Type} (key : α → String) (check : α → Run) (xs : List α) :
    Gathered (xs.map fun x => (key x, (check x).outcome))
      (collect false (underKey key) check [] xs).outcome := by
  by_cases hinternal : ∃ x ∈ xs, (check x).outcome.isInternal
  · obtain ⟨before, x, hf⟩ := FirstWith.exists_of_mem hinternal
    obtain ⟨fault, hx⟩ := Outcome.isInternal_iff.mp hf.holds
    have hmap := FirstWith.map (p := fun a : String × Outcome => a.2.isInternal)
      (f := fun x => (key x, (check x).outcome)) hf
    rw [collect_first_internal [] hf hx]
    rw [hx] at hmap
    exact .aborted hmap
  have hclean : ∀ x ∈ xs, ¬ (check x).outcome.isInternal := fun x hx hi => hinternal ⟨x, hx, hi⟩
  have hnot : ∀ x ∈ xs, ∀ e, (check x).outcome = .error e → e.isInternal = false := by
    intro x hx e he
    simpa [he, Outcome.isInternal] using hclean x hx
  by_cases hall : ∀ x ∈ xs, (check x).outcome = .ok ()
  · rw [(collect_underKey_passes_iff hnot).mpr hall]
    exact .passed (List.forall_mem_map.mpr hall)
  · have hfails : (collect false (underKey key) check [] xs).outcome ≠ .ok () :=
      fun ho => hall ((collect_underKey_passes_iff hnot).mp ho)
    obtain ⟨es, ho, hsorted, hmem⟩ := collect_underKey_fails hnot hfails
    rw [ho]
    refine .failed (List.forall_mem_map.mpr hclean) (by simpa using hall) hsorted fun s o => ?_
    rw [hmem, exists_comm]
    refine exists_congr fun e => ?_
    rw [LastWith.map_iff]
    constructor
    · rintro ⟨x, rfl, he, hl⟩
      exact ⟨rfl, x, Prod.ext hl.holds.1 he, hl⟩
    · rintro ⟨rfl, x, hx, hl⟩
      exact ⟨x, rfl, congrArg Prod.snd hx, hl⟩

/-- Without rules a value is asked for nothing but its own validation. -/
theorem Rule.validate_nil (c : Context) (v : Value) : validate [] c v = v.validateSelf c := by
  rw [validate, Check.afterSelf]
  exact Run.andThen_ok _

theorem Rule.check_each_nil {v : Value} (hv : v.kind = .collection) (c : Context) :
    (Rule.each [] false).check c v =
      collect false (underKey Prod.fst) (fun p => p.2.validateSelf c) [] v.entries := by
  rw [check_each, Check.each, hv]
  exact collect_congr (fun p _ => validate_nil c p.2) []

namespace Value

theorem validateSelf_of_not_collection {v : Value} (hv : v.kind ≠ .collection) (c : Context) :
    v.validateSelf c = v.ownValidation c := by
  rw [validateSelf, if_neg hv]

/-- A visit without rules gathers the self-validations of the elements of a collection. If none
of these is a collection itself, it asks the same of them in the same order, and answers the same,
as the collection's self-validation, which is all that a validation without rules consists of. -/
theorem self_validation_visits_elements {v : Value} (hv : v.kind = .collection) (c : Context) :
    let visit := (Rule.each [] false).check c v
    Gathered (v.entries.map fun p => (p.1, (p.2.validateSelf c).outcome)) visit.outcome ∧
      ((∀ p ∈ v.entries, p.2.kind ≠ .collection) →
        v.validateSelf c = visit ∧ Rule.validate [] c v = visit) := by
  intro visit
  have hvisit : visit = collect false (underKey Prod.fst) (fun p => p.2.validateSelf c) []
      v.entries := Rule.check_each_nil hv c
  constructor
  · rw [hvisit]
    exact gathered_collect _ _ _
  · intro hflat
    have hself : v.validateSelf c = visit := by
      rw [hvisit, validateSelf, if_pos hv]
      exact collect_congr (fun p hp => (validateSelf_of_not_collection (hflat p hp) c).symm) []
    exact ⟨hself, by rw [Rule.validate_nil, hself]⟩

/-- Of a list of structs those that refuse themselves are reported by index. In a list around it
the same structs are out of reach of self-validation, but not of a visit. -/
theorem self_validation_visits_elements_of_structs :
    let bad : Error := .violation (.plain "bad" "is bad")
    let item := fun outcome : Outcome =>
      Value.struct "Item" [] (some fun _ => .silent outcome)
    let v := Value.list [item (.error bad), .nil, item (.ok ()), item (.error bad)]
    let nested := Value.list [.int 1, v]
    let visit := (Rule.each [] false).check .background v
    let report : Error := .fields [("0", some bad), ("3", some bad)]
    v.kind = .collection ∧ (∀ p ∈ v.entries, p.2.kind ≠ .collection) ∧
      visit.outcome = .error report ∧
      v.validateSelf .background = visit ∧ Rule.validate [] .background v = visit ∧
      (nested.validateSelf .background).outcome = .ok () ∧
      ((Rule.each [] false).check .background nested).outcome =
        .error (.fields [("1", some report)]) := by
  intro bad item v nested visit report
  have hflat : ∀ p ∈ v.entries, p.2.kind ≠ .collection := by
    subst v item
    decide
  obtain ⟨_, hself⟩ := self_validation_visits_elements (v := v) rfl .background
  refine ⟨rfl, hflat, ?_, (hself hflat).1, (hself hflat).2, rfl, ?_⟩
  · subst visit report v item bad
    rfl
  · subst report nested v item bad
    rfl

end Value
end Verdict
