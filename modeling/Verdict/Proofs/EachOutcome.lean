import Verdict.Proofs.CollectedErrors
import Verdict.Proofs.CompositionalRuns

/-! What the validation of every element of a collection answers: all the elements that fail, or
the first of them in the order of the elements, which is not the order of their labels. -/
namespace Verdict

/-- The first item of a list that has a property, and the items before it. -/
structure FirstWith {α : Type} (p : α → Prop) (xs before : List α) (x : α) : Prop where
  split : ∃ after, xs = before ++ x :: after
  holds : p x
  none_before : ∀ y ∈ before, ¬ p y

namespace FirstWith
variable {α : Type} {p : α → Prop} {xs before : List α} {x : α}

theorem mem (h : FirstWith p xs before x) : x ∈ xs := by
  obtain ⟨⟨after, rfl⟩, _, _⟩ := h
  simp

theorem append (h : FirstWith p xs before x) (rest : List α) :
    FirstWith p (xs ++ rest) before x := by
  obtain ⟨⟨after, rfl⟩, hx, hn⟩ := h
  exact ⟨⟨after ++ rest, by simp⟩, hx, hn⟩

theorem exists_of_mem (h : ∃ x ∈ xs, p x) :
    ∃ before x, FirstWith p xs before x := by
  induction xs with
  | nil => simp at h
  | cons y ys ih =>
    by_cases hy : p y
    · exact ⟨[], y, ⟨ys, rfl⟩, hy, by simp⟩
    · have htail : ∃ x ∈ ys, p x := by simpa [hy] using h
      obtain ⟨before, x, ⟨after, rfl⟩, hx, hn⟩ := ih htail
      exact ⟨y :: before, x, ⟨after, rfl⟩, hx, List.forall_mem_cons.mpr ⟨hy, hn⟩⟩

end FirstWith

section Collect
variable {α : Type} {check : α → Run} {xs before : List α} {x : α} {e : Error}

/-- Items that pass leave no trace in the outcome of a traversal. -/
theorem collect_append_of_ok (failFast : Bool) (write : α → Error → KeyedErrors → KeyedErrors)
    (es : KeyedErrors) (h : ∀ y ∈ before, (check y).outcome = .ok ()) :
    (collect failFast write check es (before ++ xs)).outcome =
      (collect failFast write check es xs).outcome := by
  induction before with
  | nil => rfl
  | cons y ys ih =>
    rcases collect_cons_cases failFast write check es y (ys ++ xs) with ⟨_, heq⟩ | ⟨e, ho, _⟩
    · rw [List.cons_append, heq, Run.after_outcome, ih fun z hz => h z (List.mem_cons_of_mem _ hz)]
    · rw [h y List.mem_cons_self] at ho
      cases ho

/-- A traversal that fails fast is decided by the first item that fails. -/
theorem collect_failFast_outcome {key : α → String}
    (hf : FirstWith (fun y => (check y).outcome ≠ .ok ()) xs before x)
    (hx : (check x).outcome = .error e) :
    (collect true (underKey key) check [] xs).outcome =
      .error (if e.isInternal then e else .fields [(key x, some e)]) := by
  obtain ⟨⟨after, rfl⟩, _, hn⟩ := hf
  rw [collect_append_of_ok _ _ _ fun y hy => not_not.mp (hn y hy)]
  rcases collect_cons_cases true (underKey key) check [] x after with
    ⟨ho, _⟩ | ⟨e', ho, ⟨hi, heq⟩ | ⟨hi, _, heq⟩ | ⟨_, hff, _⟩⟩
  · rw [hx] at ho
    cases ho
  · rw [heq, hx]
    obtain rfl : e = e' := by simpa [hx] using ho
    rw [if_pos hi]
  · obtain rfl : e = e' := by simpa [hx] using ho
    rw [heq, Run.after_outcome, hi]
    rfl
  · cases hff

/-- A traversal that does not fail fast goes on to the first internal error. -/
theorem collect_first_internal {write : α → Error → KeyedErrors → KeyedErrors}
    (es : KeyedErrors) {fault : Fault Error}
    (hf : FirstWith (fun y => (check y).outcome.isInternal) xs before x)
    (hx : (check x).outcome = .error (.internal fault)) :
    (collect false write check es xs).outcome = .error (.internal fault) := by
  obtain ⟨⟨after, rfl⟩, hi, hn⟩ := hf
  have hskip : (before.map fun y => (check y).outcome).find? Outcome.isInternal = none := by
    simpa using hn
  rw [collect_internal_iff, List.map_append, List.find?_append, hskip, List.map_cons,
    Option.none_or, List.find?_cons_of_pos hi, hx]

/-- Where no two items share a key, a traversal that fails answers every failing item. -/
theorem collect_underKey_fails_of_nodup {key : α → String} (hkeys : (xs.map key).Nodup)
    (hi : ∀ x ∈ xs, ∀ e, (check x).outcome = .error e → e.isInternal = false)
    (hf : (collect false (underKey key) check [] xs).outcome ≠ .ok ()) :
    ∃ es, (collect false (underKey key) check [] xs).outcome = .error (.fields es) ∧
      SortedEntries.Sorted es ∧ ∀ s o, (s, o) ∈ es ↔
        ∃ x e, o = some e ∧ (check x).outcome = .error e ∧ x ∈ xs ∧ key x = s := by
  obtain ⟨es, ho, hsorted, hmem⟩ := collect_underKey_fails hi hf
  refine ⟨es, ho, hsorted, fun s o => (hmem s o).trans ?_⟩
  refine exists_congr fun x => exists_congr fun e => and_congr_right fun _ =>
    and_congr_right fun he => ?_
  rw [LastWith.iff_of_nodup hkeys]
  have hfails : (check x).outcome ≠ .ok () := by simp [he]
  exact and_congr_right fun _ => and_iff_left hfails

end Collect

section Labels

theorem decimal_inj {m n : Nat} (h : toString m = toString n) : m = n := by
  have hd := congrArg (Nat.ofDigitChars 10 · 0) (congrArg String.toList h)
  simpa [Nat.toString_eq_repr, Nat.toList_repr, Nat.ofDigitChars_ten_toDigits] using hd

theorem Value.nodup_labels_list (items : List Value) :
    ((Value.list items).entries.map Prod.fst).Nodup := by
  -- The labels are the indices in decimals.
  have hidx : (items.zipIdx.map Prod.snd).Nodup := by
    rw [List.zipIdx_map_snd]
    exact List.nodup_range'
  have hmap : (Value.list items).entries.map Prod.fst =
      (items.zipIdx.map Prod.snd).map toString := by
    rw [Value.entries, List.map_map, List.map_map]
    rfl
  rw [hmap]
  exact hidx.map fun _ _ => decimal_inj

/-- Labels tell elements apart if a map has no two keys of one text. -/
theorem Value.nodup_labels {v : Value} (h : ∀ kind entries, v = .map kind entries →
    (entries.map fun e => e.1.render).Nodup) : (v.entries.map Prod.fst).Nodup := by
  cases v with
  | list items => exact nodup_labels_list items
  | map kind entries => simpa [Value.entries, Function.comp_def] using h kind entries rfl
  | _ => exact List.nodup_nil

end Labels

/-- Elements under labels, none of which answers an internal error, pass together if each of them
does. Otherwise all the failing ones are answered by label, or, where only the first is asked
for, the one that fails before all others. -/
structure Collected (answer : String × Value → Outcome) (elements : List (String × Value))
    (all first : Outcome) : Prop where
  all_ok_iff : all = .ok () ↔ ∀ p ∈ elements, answer p = .ok ()
  all_fails : (¬ ∀ p ∈ elements, answer p = .ok ()) →
    ∃ es, all = .error (.fields es) ∧ SortedEntries.Sorted es ∧ ∀ s o, (s, o) ∈ es ↔
      ∃ u e, (s, u) ∈ elements ∧ answer (s, u) = .error e ∧ o = some e
  first_ok_iff : first = .ok () ↔ ∀ p ∈ elements, answer p = .ok ()
  first_fails : (¬ ∀ p ∈ elements, answer p = .ok ()) →
    ∃ before s u e, FirstWith (fun p => answer p ≠ .ok ()) elements before (s, u) ∧
      answer (s, u) = .error e ∧ first = .error (.fields [(s, some e)])

/-- Elements of which one answers an internal error, with those before it that do not, answer
that error, unless only the first failure is asked for and it lies before. -/
structure Aborted (answer : String × Value → Outcome) (before : List (String × Value))
    (fault : Fault Error) (all first : Outcome) : Prop where
  all_eq : all = .error (.internal fault)
  first_eq_iff : first = .error (.internal fault) ↔ ∀ p ∈ before, answer p = .ok ()
  first_fails : (¬ ∀ p ∈ before, answer p = .ok ()) →
    ∃ earlier s u e, FirstWith (fun p => answer p ≠ .ok ()) before earlier (s, u) ∧
      answer (s, u) = .error e ∧ first = .error (.fields [(s, some e)])

section Elements
variable {check : String × Value → Run} {xs : List (String × Value)} {p : String × Value}
  {fault : Fault Error}

/-- The first failing element is answered alone if no internal error comes before it, whatever
comes after. -/
private theorem first_failing (hi : ∀ p ∈ xs, ¬ (check p).outcome.isInternal)
    (h : ¬ ∀ p ∈ xs, (check p).outcome = .ok ()) (rest : List (String × Value)) :
    ∃ before s u e, FirstWith (fun p => (check p).outcome ≠ .ok ()) xs before (s, u) ∧
      (check (s, u)).outcome = .error e ∧
      (collect true (underKey Prod.fst) check [] (xs ++ rest)).outcome =
        .error (.fields [(s, some e)]) := by
  have hex : ∃ p ∈ xs, (check p).outcome ≠ .ok () := by simpa using h
  obtain ⟨before, ⟨s, u⟩, hf⟩ := FirstWith.exists_of_mem hex
  cases ho : (check (s, u)).outcome with
  | ok _ => exact absurd ho hf.holds
  | error e =>
    have hint : ¬ e.isInternal := by simpa [ho, Outcome.isInternal] using hi _ hf.mem
    refine ⟨before, s, u, e, hf, ho, ?_⟩
    rw [collect_failFast_outcome (hf.append rest) ho, if_neg hint]

private theorem all_ok_of_not_fields (hi : ∀ p ∈ xs, ¬ (check p).outcome.isInternal)
    (rest : List (String × Value))
    (h : ∀ es, (collect true (underKey Prod.fst) check [] (xs ++ rest)).outcome ≠
      .error (.fields es)) : ∀ p ∈ xs, (check p).outcome = .ok () := by
  by_contra hall
  obtain ⟨_, _, _, _, _, _, ho⟩ := first_failing hi hall rest
  exact h _ ho

private theorem collected (hkeys : (xs.map Prod.fst).Nodup)
    (hi : ∀ p ∈ xs, ¬ (check p).outcome.isInternal) :
    Collected (fun p => (check p).outcome) xs
      (collect false (underKey Prod.fst) check [] xs).outcome
      (collect true (underKey Prod.fst) check [] xs).outcome := by
  have hnot : ∀ p ∈ xs, ∀ e, (check p).outcome = .error e → e.isInternal = false := by
    intro p hp e he
    simpa [he, Outcome.isInternal] using hi p hp
  have hall : (collect false (underKey Prod.fst) check [] xs).outcome = .ok () ↔
      ∀ p ∈ xs, (check p).outcome = .ok () := collect_underKey_passes_iff hnot
  refine ⟨hall, fun h => ?_, ⟨fun ho => ?_, fun h => ?_⟩, fun h => ?_⟩
  · obtain ⟨es, ho, hsorted, hmem⟩ :=
      collect_underKey_fails_of_nodup hkeys hnot (hall.not.mpr h)
    refine ⟨es, ho, hsorted, fun s o => (hmem s o).trans ?_⟩
    constructor
    · rintro ⟨⟨_, u⟩, e, ho, he, hu, rfl⟩
      exact ⟨u, e, hu, he, ho⟩
    · rintro ⟨u, e, hu, he, ho⟩
      exact ⟨(s, u), e, ho, he, hu, rfl⟩
  · refine all_ok_of_not_fields hi [] fun es h => ?_
    rw [List.append_nil, ho] at h
    cases h
  · rw [← List.append_nil xs, collect_append_of_ok _ _ _ h]
    rfl
  · simpa using first_failing hi h []

private theorem aborted {before after : List (String × Value)}
    (hi : ∀ p ∈ before, ¬ (check p).outcome.isInternal)
    (hp : (check p).outcome = .error (.internal fault)) :
    Aborted (fun p => (check p).outcome) before fault
      (collect false (underKey Prod.fst) check [] (before ++ p :: after)).outcome
      (collect true (underKey Prod.fst) check [] (before ++ p :: after)).outcome := by
  have hstop : (check p).outcome.isInternal := by
    rw [hp]
    rfl
  refine ⟨collect_first_internal [] ⟨⟨after, rfl⟩, hstop, hi⟩ hp,
    ⟨fun ho => ?_, fun h => ?_⟩, fun h => first_failing hi h (p :: after)⟩
  · refine all_ok_of_not_fields hi (p :: after) fun es h => ?_
    rw [ho] at h
    cases h
  · have hfail : FirstWith (fun p => (check p).outcome ≠ .ok ()) (before ++ p :: after) before p :=
      ⟨⟨after, rfl⟩, by simp [hp], fun q hq => not_not.mpr (h q hq)⟩
    rw [collect_failFast_outcome hfail hp]
    rfl

end Elements

namespace Rule
variable {v : Value}

/-- What `each` answers for a collection whose elements are told apart by their labels, and
what it answers failing fast. -/
theorem each_outcome (hv : v.kind = .collection)
    (hlabels : ∀ kind entries, v = .map kind entries →
      (entries.map fun e => e.1.render).Nodup) (rules : List Rule) (c : Context) :
    let answer := fun p : String × Value => (validate rules c p.2).outcome
    let all := ((Rule.each rules false).check c v).outcome
    let first := ((Rule.each rules true).check c v).outcome
    ((∀ p ∈ v.entries, ¬ (answer p).isInternal) → Collected answer v.entries all first) ∧
      ((∃ p ∈ v.entries, (answer p).isInternal) → ∃ before p fault,
        FirstWith (fun p => (answer p).isInternal) v.entries before p ∧
          answer p = .error (.internal fault) ∧ Aborted answer before fault all first) := by
  intro answer all first
  have hcheck (failFast : Bool) : (Rule.each rules failFast).check c v =
      collect failFast (underKey Prod.fst) (fun p => validate rules c p.2) [] v.entries := by
    rw [check_each, Check.each, hv]
  subst all first
  rw [hcheck, hcheck]
  refine ⟨collected (Value.nodup_labels hlabels), fun h => ?_⟩
  obtain ⟨before, p, hf⟩ := FirstWith.exists_of_mem h
  obtain ⟨fault, hp⟩ := Outcome.isInternal_iff.mp hf.holds
  refine ⟨before, p, fault, hf, hp, ?_⟩
  obtain ⟨⟨after, hsplit⟩, _, hn⟩ := hf
  rw [hsplit]
  exact aborted hn hp

/-- Of the blank elements 2 and 10 the first in order is answered failing fast, while the text
of the other's label comes first. A number that is no collection ends a validation of lists in
lists, unless failing fast a blank before it is found. -/
theorem each_outcome_of_blanks :
    let v := Value.list [.bool true, .bool true, .nil, .bool true, .bool true, .bool true,
      .bool true, .bool true, .bool true, .bool true, .nil]
    let w := Value.list [.list [.nil], .int 1]
    let rules : List Rule := [.leaf .required]
    let nested : List Rule := [.each rules false]
    let blank : Option Error := some (.violation Leaf.required.template)
    let answer := fun (rules : List Rule) (p : String × Value) =>
      (validate rules .background p.2).outcome
    let run := fun (rules : List Rule) (failFast : Bool) (v : Value) =>
      ((Rule.each rules failFast).check .background v).outcome
    v.kind = .collection ∧ w.kind = .collection ∧
      (∀ kind entries, v = .map kind entries → (entries.map fun e => e.1.render).Nodup) ∧
      (∀ kind entries, w = .map kind entries → (entries.map fun e => e.1.render).Nodup) ∧
      run rules false v = .error (.fields [("10", blank), ("2", blank)]) ∧
      run rules true v = .error (.fields [("2", blank)]) ∧
      Collected (answer rules) v.entries (run rules false v) (run rules true v) ∧
      run nested false w = .error (.internal .notIterable) ∧
      run nested true w = .error (.fields [("0", some (.fields [("0", blank)]))]) ∧
      ∃ before p fault, FirstWith (fun p => (answer nested p).isInternal) w.entries before p ∧
        answer nested p = .error (.internal fault) ∧
        Aborted (answer nested) before fault (run nested false w) (run nested true w) := by
  intro v w rules nested blank answer run
  have hv : ∀ kind entries, v = .map kind entries →
      (entries.map fun e => e.1.render).Nodup := nofun
  have hw : ∀ kind entries, w = .map kind entries →
      (entries.map fun e => e.1.render).Nodup := nofun
  have hclean : ∀ p ∈ v.entries, ¬ (answer rules p).isInternal := by
    subst v answer rules
    decide
  have hfaulty : ∃ p ∈ w.entries, (answer nested p).isInternal :=
    ⟨("1", .int 1), List.mem_of_getElem? (i := 1) rfl, rfl⟩
  refine ⟨rfl, rfl, hv, hw, ?_, ?_, (each_outcome rfl hv rules .background).1 hclean, ?_, ?_,
    (each_outcome rfl hw nested .background).2 hfaulty⟩
  · rfl
  · rfl
  · rfl
  · rfl

end Rule
end Verdict
