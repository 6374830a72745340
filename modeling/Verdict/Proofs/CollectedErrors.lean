import Mathlib.Data.List.Basic
import Verdict.Proofs.LastWrite
import Verdict.Validation.Journal

/-! What a traversal answers: the first internal error that it meets, and otherwise the present
ones among the last writes of its failing items. -/
namespace Verdict

namespace KeyedErrors
variable {es : KeyedErrors} {e : Error}

/-- The entries that hold an error. -/
def present (es : KeyedErrors) : KeyedErrors := List.filter (fun p => p.2.isSome) es

theorem mem_present {p : String × Option Error} : p ∈ es.present ↔ p ∈ es ∧ p.2.isSome :=
  List.mem_filter

theorem present_eq_nil_iff : es.present = [] ↔ ∀ p ∈ es, p.2 = none := by
  simp [present, List.filter_eq_nil_iff]

theorem toOutcome_eq (es : KeyedErrors) :
    es.toOutcome = if es.present = [] then .ok () else .error (.fields es.present) := by
  cases h : es.present <;> rw [present] at h <;> simp [toOutcome, filter, h]

theorem toOutcome_eq_ok_iff : es.toOutcome = .ok () ↔ es.present = [] := by
  rw [toOutcome_eq]
  split <;> simp_all

theorem toOutcome_eq_error_iff :
    es.toOutcome = .error e ↔ es.present ≠ [] ∧ e = .fields es.present := by
  rw [toOutcome_eq]
  split <;> rename_i h
  · simp [h]
  · simpa [h] using eq_comm

/-- A store filled by a list of writes holds the last write of each key. -/
theorem mem_ofList {ws : List (String × Option Error)} {key : String} {o : Option Error} :
    (key, o) ∈ ofList ws ↔ LastWith (fun w => w.1 = key) ws (key, o) :=
  SortedEntries.mem_ofList

/-- A filled store answers no error only if each key was written an absence last. -/
theorem ofList_toOutcome_eq_ok_iff {ws : List (String × Option Error)} :
    (ofList ws).toOutcome = .ok () ↔
      ∀ key e, ¬ LastWith (fun w => w.1 = key) ws (key, some e) := by
  rw [toOutcome_eq_ok_iff, present_eq_nil_iff]
  constructor
  · intro h key e hl
    cases h _ (mem_ofList.mpr hl)
  · rintro h ⟨key, o⟩ hp
    cases o with
    | none => rfl
    | some e => exact absurd (mem_ofList.mp hp) (h key e)

end KeyedErrors

/-- An internal error as an outcome. -/
def Outcome.isInternal : Outcome → Bool
  | .ok () => false
  | .error e => e.isInternal

theorem Outcome.isInternal_iff {o : Outcome} :
    o.isInternal ↔ ∃ fault, o = .error (.internal fault) := by
  rcases o with e | u
  · cases e <;> simp [isInternal, Error.isInternal]
  · simp [isInternal]

theorem KeyedErrors.toOutcome_not_internal (es : KeyedErrors) :
    Outcome.isInternal es.toOutcome = false := by
  rw [toOutcome_eq]
  split <;> rfl

@[simp] theorem Run.after_outcome (events : List Event) (r : Run) :
    (r.after events).outcome = r.outcome := rfl

@[simp] theorem Run.reportAbort_outcome (r : Run) (event : String → Event) :
    (r.reportAbort event).outcome = r.outcome := by
  rw [reportAbort]
  split
  · split <;> rfl
  · rfl

/-- The error that a run ended in, if it did. -/
def Run.error? (r : Run) : Option Error :=
  match r.outcome with
  | .ok () => none
  | .error e => some e

theorem Run.error?_eq_none_iff {r : Run} : r.error? = none ↔ r.outcome = .ok () := by
  rw [error?]
  split <;> simp_all

theorem Run.error?_eq_some_iff {r : Run} {e : Error} :
    r.error? = some e ↔ r.outcome = .error e := by
  rw [error?]
  split <;> simp_all

section Collect
variable {α : Type} {check : α → Run} {xs : List α}

/-- All that a traversal may do with its first item: pass on, end in an internal error, stop at
the first error when failing fast, or go on with the error written. -/
theorem collect_cons_cases (failFast : Bool) (write : α → Error → KeyedErrors → KeyedErrors)
    (check : α → Run) (es : KeyedErrors) (x : α) (xs : List α) :
    (check x).outcome = .ok () ∧ collect failFast write check es (x :: xs) =
        (collect failFast write check es xs).after (check x).events ∨
      ∃ e, (check x).outcome = .error e ∧
        (e.isInternal = true ∧ collect failFast write check es (x :: xs) = check x ∨
          e.isInternal = false ∧ failFast = true ∧ collect failFast write check es (x :: xs) =
            (Run.silent (write x e es).toOutcome).after (check x).events ∨
          e.isInternal = false ∧ failFast = false ∧ collect failFast write check es (x :: xs) =
            (collect failFast write check (write x e es) xs).after (check x).events) := by
  simp only [collect]
  cases ho : (check x).outcome with
  | ok u => exact .inl ⟨rfl, rfl⟩
  | error e =>
    refine .inr ⟨e, rfl, ?_⟩
    cases hi : e.isInternal with
    | true => exact .inl ⟨rfl, by simp [hi]⟩
    | false =>
      cases failFast with
      | true => exact .inr (.inl ⟨rfl, rfl, by simp [hi, Run.after, Run.silent]⟩)
      | false => exact .inr (.inr ⟨rfl, rfl, by simp [hi]⟩)

/-- A traversal is the same if its items are checked by the same runs. -/
theorem collect_congr {failFast : Bool} {write : α → Error → KeyedErrors → KeyedErrors}
    {check' : α → Run} (h : ∀ x ∈ xs, check x = check' x) (es : KeyedErrors) :
    collect failFast write check es xs = collect failFast write check' es xs := by
  induction xs generalizing es with
  | nil => rfl
  | cons x xs ih =>
    have htail := ih fun y hy => h y (List.mem_cons_of_mem _ hy)
    simp only [collect, h x List.mem_cons_self, htail]

/-- A traversal ends in the first internal error that it meets, and in no other. -/
theorem collect_internal_iff {write : α → Error → KeyedErrors → KeyedErrors}
    {fault : Fault Error} (es : KeyedErrors) :
    (collect false write check es xs).outcome = .error (.internal fault) ↔
      (xs.map fun x => (check x).outcome).find? Outcome.isInternal =
        some (.error (.internal fault)) := by
  induction xs generalizing es with
  | nil =>
    refine iff_of_false (fun h => ?_) (by simp)
    have hint := es.toOutcome_not_internal
    rw [show es.toOutcome = _ from h] at hint
    cases hint
  | cons x xs ih =>
    rw [List.map_cons]
    rcases collect_cons_cases false write check es x xs with
      ⟨ho, heq⟩ | ⟨e, ho, ⟨hint, heq⟩ | ⟨_, hff, _⟩ | ⟨hint, _, heq⟩⟩
    · have hskip : ¬ Outcome.isInternal (check x).outcome := by simp [ho, Outcome.isInternal]
      rw [heq, Run.after_outcome, ih, List.find?_cons_of_neg hskip]
    · have hstop : Outcome.isInternal (check x).outcome := by rwa [ho]
      rw [heq, List.find?_cons_of_pos hstop, Option.some_inj]
    · cases hff
    · have hskip : ¬ Outcome.isInternal (check x).outcome := by simp [ho, Outcome.isInternal, hint]
      rw [heq, Run.after_outcome, ih, List.find?_cons_of_neg hskip]

/-- A traversal that meets no internal error writes the errors of its failing items in turn. -/
theorem collect_outcome {write : α → Error → KeyedErrors → KeyedErrors}
    {entries : α → Error → KeyedErrors} (hw : ∀ x e es, write x e es = es.merge (entries x e))
    (hi : ∀ x ∈ xs, ∀ e, (check x).outcome = .error e → e.isInternal = false)
    (es : KeyedErrors) :
    (collect false write check es xs).outcome =
      (es.merge (xs.flatMap fun x => ((check x).error?.map (entries x)).getD [])).toOutcome := by
  -- What is written later comes upon any store, so the store is not fixed.
  induction xs generalizing es with
  | nil => rfl
  | cons x xs ih =>
    have htail := ih fun y hy => hi y (List.mem_cons_of_mem _ hy)
    rw [List.flatMap_cons]
    rcases collect_cons_cases false write check es x xs with
      ⟨ho, heq⟩ | ⟨e, ho, ⟨hint, _⟩ | ⟨_, hff, _⟩ | ⟨_, _, heq⟩⟩
    · rw [heq, Run.after_outcome, htail, Run.error?_eq_none_iff.mpr ho]
      rfl
    · rw [hi x List.mem_cons_self e ho] at hint
      cases hint
    · cases hff
    · rw [heq, Run.after_outcome, htail, Run.error?_eq_some_iff.mpr ho, hw, KeyedErrors.merge,
        KeyedErrors.merge, SortedEntries.insertAll, SortedEntries.insertAll, ← List.foldl_append]
      rfl

variable {key : α → String}

theorem collect_underKey_outcome
    (hi : ∀ x ∈ xs, ∀ e, (check x).outcome = .error e → e.isInternal = false) :
    (collect false (underKey key) check [] xs).outcome = (KeyedErrors.ofList
      (xs.filterMap fun x => (check x).error?.map fun e => (key x, some e))).toOutcome := by
  have hw (x : α) (e : Error) (es : KeyedErrors) :
      underKey key x e es = es.merge [(key x, some e)] := rfl
  rw [collect_outcome hw hi, List.filterMap_eq_flatMap_toList]
  congr 3
  funext x
  cases (check x).error? <;> rfl

/-- Among the errors of failing items the last one of a key stands. -/
private theorem lastWith_errors_iff {s : String} {o : Option Error} :
    LastWith (fun w => w.1 = s)
        (xs.filterMap fun x => (check x).error?.map fun e => (key x, some e)) (s, o) ↔
      ∃ x e, o = some e ∧ (check x).outcome = .error e ∧
        LastWith (fun x => key x = s ∧ (check x).outcome ≠ .ok ()) xs x := by
  have hp : (fun x => ∃ y, ((check x).error?.map fun e => (key x, some e)) = some y ∧ y.1 = s) =
      fun x => key x = s ∧ (check x).outcome ≠ .ok () := by
    funext x
    rw [← Run.error?_eq_none_iff.ne]
    cases (check x).error? <;> simp
  rw [LastWith.filterMap_iff, hp]
  refine exists_congr fun x => ?_
  constructor
  · rintro ⟨hx, hl⟩
    obtain ⟨e, he, heq⟩ := Option.map_eq_some_iff.mp hx
    cases heq
    exact ⟨e, rfl, Run.error?_eq_some_iff.mp he, hl⟩
  · rintro ⟨e, rfl, he, hl⟩
    obtain ⟨rfl, _⟩ := hl.holds
    exact ⟨by rw [Run.error?_eq_some_iff.mpr he]; rfl, hl⟩

/-- A traversal passes if all its items do. -/
theorem collect_underKey_passes_iff
    (hi : ∀ x ∈ xs, ∀ e, (check x).outcome = .error e → e.isInternal = false) :
    (collect false (underKey key) check [] xs).outcome = .ok () ↔
      ∀ x ∈ xs, (check x).outcome = .ok () := by
  rw [collect_underKey_outcome hi, KeyedErrors.ofList_toOutcome_eq_ok_iff]
  constructor
  · intro h x hx
    by_contra hn
    obtain ⟨y, hl⟩ := (LastWith.exists_iff (p := fun y => key y = key x ∧
      (check y).outcome ≠ .ok ())).mpr ⟨x, hx, rfl, hn⟩
    cases ho : (check y).outcome with
    | ok u => exact hl.holds.2 ho
    | error e => exact h (key x) e (lastWith_errors_iff.mpr ⟨y, e, rfl, ho, hl⟩)
  · rintro h s e hl
    obtain ⟨x, _, _, _, hl⟩ := lastWith_errors_iff.mp hl
    exact hl.holds.2 (h x hl.mem)

/-- A traversal that fails answers, sorted by key, the error of the last failing item of each. -/
theorem collect_underKey_fails
    (hi : ∀ x ∈ xs, ∀ e, (check x).outcome = .error e → e.isInternal = false)
    (hf : (collect false (underKey key) check [] xs).outcome ≠ .ok ()) :
    ∃ es, (collect false (underKey key) check [] xs).outcome = .error (.fields es) ∧
      SortedEntries.Sorted es ∧ ∀ s o, (s, o) ∈ es ↔ ∃ x e, o = some e ∧
        (check x).outcome = .error e ∧
        LastWith (fun x => key x = s ∧ (check x).outcome ≠ .ok ()) xs x := by
  rw [collect_underKey_outcome hi] at hf ⊢
  rw [Ne, KeyedErrors.toOutcome_eq_ok_iff] at hf
  refine ⟨_, KeyedErrors.toOutcome_eq_error_iff.mpr ⟨hf, rfl⟩, ?_, fun s o => ?_⟩
  · exact SortedEntries.sorted_ofList.sublist List.filter_sublist
  · rw [KeyedErrors.mem_present, KeyedErrors.mem_ofList, lastWith_errors_iff]
    exact and_iff_left_of_imp fun ⟨_, _, ho, _⟩ => ho ▸ rfl

end Collect
end Verdict
