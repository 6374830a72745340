import Verdict.Proofs.CollectedErrors
import Verdict.Proofs.CompositionalRuns

/-! Errors that a validation ends in are well formed at every depth, if those of outside checks
and self-validations are. -/
namespace Verdict

/-- Errors by key are not empty, hold no absent entry and no internal error, and are well
formed themselves. -/
inductive Error.WellFormed : Error → Prop
  | violation (v : Violation) : WellFormed (.violation v)
  | internal (fault : Fault Error) : WellFormed (.internal fault)
  | fields {entries : List (String × Option Error)} (nonempty : entries ≠ [])
      (present : ∀ p ∈ entries, p.2 ≠ none)
      (verdicts : ∀ key e, (key, some e) ∈ entries → e.isInternal = false)
      (inner : ∀ key e, (key, some e) ∈ entries → WellFormed e) : WellFormed (.fields entries)

/-- The errors collected so far are well formed; absent entries may still be among them. -/
def KeyedErrors.Admissible (es : KeyedErrors) : Prop :=
  ∀ key e, (key, some e) ∈ es → e.isInternal = false ∧ e.WellFormed

namespace KeyedErrors
variable {es : KeyedErrors} {e : Error}

theorem Admissible.insert {key : String} (h : es.Admissible) (hi : e.isInternal = false)
    (he : e.WellFormed) : (es.insert key e).Admissible := by
  intro k f hf
  rcases SortedEntries.mem_insert hf with hf | hf
  · cases hf
    exact ⟨hi, he⟩
  · exact h k f hf

theorem Admissible.merge {nested : KeyedErrors} (h : es.Admissible)
    (hn : (Error.fields nested).WellFormed) : (es.merge nested).Admissible := by
  cases hn with
  | fields _ _ verdicts inner =>
    intro k f hf
    rcases SortedEntries.mem_insertAll hf with hf | hf
    · exact ⟨verdicts k f hf, inner k f hf⟩
    · exact h k f hf

/-- Only present entries are answered, and only if there are any. -/
theorem Admissible.toOutcome (h : es.Admissible) (he : es.toOutcome = .error e) :
    e.WellFormed := by
  obtain ⟨hne, rfl⟩ := toOutcome_eq_error_iff.mp he
  refine .fields hne ?_ (fun k f hf => ?_) (fun k f hf => ?_)
  · intro p hp hnone
    have hs := (mem_present.mp hp).2
    rw [hnone] at hs
    cases hs
  · exact (h k f (mem_present.mp hf).1).1
  · exact (h k f (mem_present.mp hf).1).2

end KeyedErrors

/-- Every error that the run may end in is well formed. -/
def Run.EndsWell (r : Run) : Prop := ∀ e, r.outcome = .error e → e.WellFormed

theorem Run.EndsWell.andThen {r : Run} {next : Unit → Run} (h : r.EndsWell)
    (hn : (next ()).EndsWell) : (r.andThen next).EndsWell := by
  rw [Run.andThen]
  split
  · exact hn
  · exact h

theorem endsWell_collect {α : Type} {failFast : Bool}
    {write : α → Error → KeyedErrors → KeyedErrors} {check : α → Run} {xs : List α}
    (hw : Recording write) (h : ∀ x ∈ xs, (check x).EndsWell) {es : KeyedErrors}
    (hes : es.Admissible) : (collect failFast write check es xs).EndsWell := by
  have hwrite {x : α} {e : Error} {es : KeyedErrors} (hes : es.Admissible)
      (hi : e.isInternal = false) (he : e.WellFormed) : (write x e es).Admissible := by
    rcases hw x e es with ⟨key, hk⟩ | ⟨nested, rfl, hn⟩ | hs
    · rw [hk]
      exact hes.insert hi he
    · rw [hn]
      exact hes.merge he
    · rwa [hs]
  induction xs generalizing es with
  | nil => exact fun _ => hes.toOutcome
  | cons x xs ih =>
    have hx := h x List.mem_cons_self
    have htail := @ih fun y hy => h y (List.mem_cons_of_mem _ hy)
    rcases collect_cons_cases failFast write check es x xs with
      ⟨_, heq⟩ | ⟨e, ho, ⟨_, heq⟩ | ⟨hi, _, heq⟩ | ⟨hi, _, heq⟩⟩ <;> rw [heq]
    · exact htail hes
    · exact hx
    · exact fun _ => (hwrite hes hi (hx e ho)).toOutcome
    · exact htail (hwrite hes hi (hx e ho))

namespace Judgement

/-- A test that reports an error of its own reports one without parts. -/
def Plain (j : Judgement) : Prop := ∀ e, j = .other e → e.WellFormed

theorem plain_pass : pass.Plain := by rintro e ⟨⟩

theorem plain_failure : failure.Plain := by rintro e ⟨⟩

theorem plain_ofBool (accepted : Bool) : (ofBool accepted).Plain := by
  cases accepted with
  | true => exact plain_pass
  | false => exact plain_failure

theorem plain_violation (v : Violation) : (violation v).Plain := by
  rintro e ⟨⟩
  exact .violation v

theorem plain_internal (fault : Fault Error) : (other (.internal fault)).Plain := by
  rintro e ⟨⟩
  exact .internal fault

theorem plain_ofConversion {α : Type} (x : Except Violation α) {judge : α → Judgement}
    (h : ∀ a, (judge a).Plain) : (ofConversion x judge).Plain := by
  cases x with
  | ok a => exact h a
  | error v => exact plain_violation v

end Judgement

namespace LeafTest
open Judgement
variable {v : Value} {j : Judgement}

theorem plain_unlessEmpty (h : j.Plain) : (unlessEmpty v j).Plain := by
  rw [unlessEmpty]
  split
  · exact plain_pass
  · exact h

theorem plain_unlessNil (h : j.Plain) : (unlessNil v j).Plain := by
  rw [unlessNil]
  split
  · exact plain_pass
  · exact h

theorem plain_judgeLength (min max : UInt64) (unit : LengthUnit) :
    (judgeLength min max unit v).Plain := by
  rw [judgeLength]
  split
  · exact plain_ofBool _
  · exact plain_violation _

theorem plain_judgeThreshold (limit : Value) (admits : Ordering → Bool) :
    (judgeThreshold limit admits v).Plain := by
  rw [judgeThreshold.eq_def]
  split
  · exact plain_ofConversion _ fun _ => plain_ofBool _
  · exact plain_ofConversion _ fun _ => plain_ofBool _
  · exact plain_ofConversion _ fun _ => plain_ofBool _
  · split
    · exact plain_ofConversion _ fun _ => plain_ofBool _
    · exact plain_internal _

theorem plain_judgeMultiple (base : Value) : (judgeMultiple base v).Plain := by
  rw [judgeMultiple.eq_def]
  split
  · split
    · exact plain_internal _
    · exact plain_ofConversion _ fun _ => plain_ofBool _
  · split
    · exact plain_internal _
    · exact plain_ofConversion _ fun _ => plain_ofBool _
  · exact plain_internal _

theorem plain_judgeMatching (pattern : Pattern) : (judgeMatching pattern v).Plain := by
  rw [judgeMatching]
  split
  · exact plain_ofBool _
  · exact plain_failure

theorem plain_judgeDate (layout : String) (earliest latest : Option Moment)
    (rangeError : Violation) : (judgeDate layout earliest latest rangeError v).Plain := by
  refine plain_ofConversion _ fun s => ?_
  split
  · exact plain_failure
  · split
    · exact plain_pass
    · exact plain_violation _

theorem plain_judge (t : LeafTest) (v : Value) : (t.judge v).Plain := by
  cases t with
  | presence applies nilPasses => exact plain_ofBool _
  | notNil => exact plain_ofBool _
  | absence applies emptyPasses => exact plain_ofBool _
  | length min max unit => exact plain_unlessEmpty (plain_judgeLength min max unit)
  | threshold limit bound exclusive => exact plain_unlessEmpty (plain_judgeThreshold limit _)
  | multipleOf base => exact plain_unlessNil (plain_judgeMultiple base)
  | membership elements negated => exact plain_unlessEmpty (plain_ofBool _)
  | matching source pattern => exact plain_unlessNil (plain_judgeMatching pattern)
  | date layout earliest latest rangeError =>
    exact plain_unlessEmpty (plain_judgeDate layout earliest latest rangeError)
  | text accepts =>
    exact plain_unlessEmpty (plain_ofConversion _ fun _ => plain_ofBool _)

end LeafTest

theorem Leaf.outcome_wellFormed {l : Leaf} {v : Value} {e : Error} (h : l.outcome v = .error e) :
    e.WellFormed := by
  rw [Leaf.outcome, Judgement.outcome.eq_def] at h
  split at h <;> rename_i hj
  · cases h
  · cases h
    exact .violation _
  · cases h
    exact LeafTest.plain_judge l.test v _ hj

theorem stepwise_endsWell : Stepwise fun r => ∀ c, (r c).EndsWell where
  pass _ _ h := by cases h
  reject v _ _ h := by
    cases h
    exact .violation v
  raise fault _ _ h := by
    cases h
    exact .internal fault
  leaf l v _ _ h := Leaf.outcome_wellFormed h
  andThen hr hs c := (hr c).andThen (hs c)
  collect hw h c := endsWell_collect hw (fun x hx => h x hx c) (fun _ _ hm => by cases hm)
  structOpened name n h c e he := h c e he
  mapOpened n m h c e he := h c e he
  structAborted name path h c e he := h c e (by simpa using he)
  mapAborted key h c e he := h c e (by simpa using he)

/-- Errors by key in what a validation ends in are never empty and hold neither an absent entry
nor an internal error, at any depth. -/
theorem validation_errors_wellFormed (rules : List Rule)
    (bindings : List (FieldBinding (List Rule))) (c : Context) (v : Value)
    (hr : ∀ r ∈ rules, r.Customs fun check => ∀ c v, (check c v).EndsWell)
    (hb : ∀ b ∈ bindings, ∀ r ∈ b.rules, r.Customs fun check => ∀ c v, (check c v).EndsWell)
    (hv : v.Validators fun w => ∀ c, (w c).EndsWell) :
    (Rule.validate rules c v).EndsWell ∧ (Rule.checkAll rules c v).EndsWell ∧
      (∀ r ∈ rules, (r.check c v).EndsWell) ∧ (Rule.validateStruct bindings c v).EndsWell := by
  have h := stepwise_endsWell.compositional
  have trusted {r : Rule} (hr : r.Customs fun check => ∀ c v, (check c v).EndsWell) :
      Compositional.Trusted (fun r => ∀ c, (r c).EndsWell) r :=
    hr.mono fun _ hp v _ c => hp c v
  have sound : Compositional.Sound (fun r => ∀ c, (r c).EndsWell) v := hv.mono fun _ hp c => hp c
  exact ⟨h.validate (fun r hm => trusted (hr r hm)) sound c,
    h.checkAll (fun r hm => trusted (hr r hm)) sound c,
    fun r hm => h.check (trusted (hr r hm)) sound c,
    h.validateStruct (fun b hm r hrm => trusted (hb b hm r hrm)) sound c⟩

/-- The errors by key of an embedded struct stand beside those of a list in another field. -/
theorem validation_errors_wellFormed_of_embedded :
    let inner : Error := .fields [("k", some (.violation (.plain "c" "m")))]
    let rules : List Rule := [.custom (fun _ _ => .fail inner) false]
    let bindings : List (FieldBinding (List Rule)) :=
      [⟨"E", rules⟩, ⟨"L", [.each [.leaf .required] false]⟩]
    let v : Value := .struct "S"
      [⟨"E", none, true, .struct "T" [] none⟩, ⟨"L", none, false, .list [.nil]⟩] none
    (∀ r ∈ rules, r.Customs fun check => ∀ c v, (check c v).EndsWell) ∧
      (∀ b ∈ bindings, ∀ r ∈ b.rules, r.Customs fun check => ∀ c v, (check c v).EndsWell) ∧
      (v.Validators fun w => ∀ c, (w c).EndsWell) ∧
      (Rule.validateStruct bindings .background v).outcome = .error (.fields
        [("L", some (.fields [("0", some (.violation Leaf.required.template))])),
          ("k", some (.violation (.plain "c" "m")))]) ∧
      (Rule.validate rules .background v).EndsWell ∧
      (Rule.checkAll rules .background v).EndsWell ∧
      (∀ r ∈ rules, (r.check .background v).EndsWell) ∧
      (Rule.validateStruct bindings .background v).EndsWell := by
  intro inner rules bindings v
  have hinner : inner.WellFormed :=
    .fields (by simp) (by simp) (by simp [Error.isInternal]) (by simp [Error.WellFormed.violation])
  have hr : ∀ r ∈ rules, r.Customs fun check => ∀ c v, (check c v).EndsWell := by
    intro r hm
    obtain rfl := List.mem_singleton.mp hm
    refine .custom false fun c v e he => ?_
    cases he
    exact hinner
  have hb : ∀ b ∈ bindings, ∀ r ∈ b.rules,
      r.Customs fun check => ∀ c v, (check c v).EndsWell := by
    have heach : Rule.Customs (fun check => ∀ c v, (check c v).EndsWell)
        (.each [.leaf .required] false) := .each false (by simpa using Rule.Customs.leaf .required)
    simpa [bindings] using ⟨hr, heach⟩
  have hv : v.Validators fun w => ∀ c, (w c).EndsWell := by
    have hlist : (Value.list [.nil]).Validators fun w => ∀ c, (w c).EndsWell :=
      .of_parts rfl (by simpa [Value.parts] using .of_atom rfl rfl)
    apply Value.Validators.of_parts rfl
    simpa [v, Value.parts] using ⟨.of_atom rfl rfl, hlist⟩
  exact ⟨hr, hb, hv, by subst v bindings rules inner; rfl,
    validation_errors_wellFormed rules bindings .background v hr hb hv⟩

end Verdict
