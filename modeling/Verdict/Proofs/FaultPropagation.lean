import Verdict.Proofs.CollectedErrors
import Verdict.Proofs.CompositionalRuns

/-! An internal error ends the whole validation: nothing runs after it, and nothing else is
answered, whatever has been collected before. -/
namespace Verdict

namespace Event

/-- The fault that an event brings up: an internal answer, or what a traversal came upon. -/
def fault? : Event → Option (Fault Error)
  | .answered (.error (.internal fault)) => some fault
  | .raised fault => some fault
  | _ => none

/-- What may still happen when a fault has come up. What had begun answers with the same
fault and may leave notes, and traversals report it; nothing begins, opens or is raised. -/
inductive Unwinds (fault : Fault Error) : Event → Prop
  | answered : Unwinds fault (.answered (.error (.internal fault)))
  | noted (text : String) : Unwinds fault (.noted text)
  | structAborted (name path : String) :
      Unwinds fault (.structAborted name path (Error.internal fault).message)
  | mapAborted (key : String) : Unwinds fault (.mapAborted key (Error.internal fault).message)

theorem outcome_of_fault? {outcome : Outcome} {fault : Fault Error}
    (h : (answered outcome).fault? = some fault) : outcome = .error (.internal fault) := by
  rw [fault?.eq_def] at h
  split at h <;> simp_all

end Event

namespace Run

/-- No event brings up a fault. -/
def Clean (r : Run) : Prop := ∀ e ∈ r.events, e.fault? = none

/-- The first fault that comes up is the outcome, and nothing is run after it. -/
def EndsIn (fault : Fault Error) (r : Run) : Prop :=
  r.outcome = .error (.internal fault) ∧ ∃ before e after, r.events = before ++ e :: after ∧
    (∀ x ∈ before, x.fault? = none) ∧ e.fault? = some fault ∧ ∀ x ∈ after, x.Unwinds fault

/-- A run that catches no fault. It may end in a fault of its own making. -/
def Relays (r : Run) : Prop := r.Clean ∨ ∃ fault, r.EndsIn fault

/-- A run that catches no fault and makes none up. -/
def Faithful (r : Run) : Prop :=
  (r.Clean ∧ ∀ fault, r.outcome ≠ .error (.internal fault)) ∨ ∃ fault, r.EndsIn fault

variable {r s : Run} {fault : Fault Error}

theorem Faithful.relays (h : r.Faithful) : r.Relays := h.imp_left And.left

theorem EndsIn.then (h : r.EndsIn fault) {events : List Event}
    (hu : ∀ x ∈ events, x.Unwinds fault) : EndsIn fault ⟨r.events ++ events, r.outcome⟩ := by
  obtain ⟨ho, before, e, after, he, hb, hf, ha⟩ := h
  refine ⟨ho, before, e, after ++ events, by simp [he], hb, hf, ?_⟩
  intro x hx
  exact (List.mem_append.mp hx).elim (ha x) (hu x)

theorem EndsIn.after (h : r.EndsIn fault) {events : List Event}
    (hc : ∀ x ∈ events, x.fault? = none) : EndsIn fault (r.after events) := by
  obtain ⟨ho, before, e, after, he, hb, hf, ha⟩ := h
  refine ⟨ho, events ++ before, e, after, by simp [Run.after, he], ?_, hf, ha⟩
  intro x hx
  exact (List.mem_append.mp hx).elim (hc x) (hb x)

theorem Faithful.after (h : r.Faithful) {events : List Event}
    (hc : ∀ x ∈ events, x.fault? = none) : (r.after events).Faithful := by
  rcases h with ⟨hr, ho⟩ | ⟨fault, he⟩
  · refine .inl ⟨fun x hx => ?_, ho⟩
    exact (List.mem_append.mp hx).elim (hc x) (hr x)
  · exact .inr ⟨fault, he.after hc⟩

theorem faithful_of_no_events {outcome : Outcome}
    (h : ∀ fault, outcome ≠ .error (.internal fault)) : (silent outcome).Faithful :=
  .inl ⟨fun _ hx => (List.not_mem_nil hx).elim, h⟩

theorem faithful_ok : Run.ok.Faithful := faithful_of_no_events fun _ h => by cases h

theorem faithful_raise (fault : Fault Error) : (raise fault).Faithful :=
  .inr ⟨fault, rfl, [], .raised fault, [], rfl, fun _ hx => (List.not_mem_nil hx).elim, rfl,
    fun _ hx => (List.not_mem_nil hx).elim⟩

/-- The answer of a check is where a fault of its own making comes up. -/
theorem Relays.answered (h : r.Relays) :
    Faithful ⟨r.events ++ [.answered r.outcome], r.outcome⟩ := by
  rcases h with hc | ⟨fault, hf⟩
  · cases hf : (Event.answered r.outcome).fault? with
    | none =>
      refine .inl ⟨fun x hx => ?_, fun fault ho => ?_⟩
      · rcases List.mem_append.mp hx with hx | hx
        · exact hc x hx
        · rw [List.mem_singleton.mp hx, hf]
      · have ho : r.outcome = .error (.internal fault) := ho
        rw [ho] at hf
        cases hf
    | some fault =>
      exact .inr ⟨fault, Event.outcome_of_fault? hf, r.events, _, [], rfl, hc, hf,
        fun _ hx => (List.not_mem_nil hx).elim⟩
  · refine .inr ⟨fault, hf.then fun x hx => ?_⟩
    rw [List.mem_singleton.mp hx, hf.1]
    exact .answered

theorem Relays.witnessed (h : r.Relays) : r.witnessed.Faithful := by
  have hbegan : ∀ x ∈ [Event.began], x.fault? = none := by simp [Event.fault?]
  exact h.answered.after hbegan

/-- A run catches no fault if it makes up none when its answer counts as an event. -/
theorem faithful_witnessed_iff : r.witnessed.Faithful ↔ r.Relays := by
  refine ⟨?_, Relays.witnessed⟩
  have hin : ∀ x ∈ r.events, x ∈ r.witnessed.events := fun x hx =>
    List.mem_cons_of_mem _ (List.mem_append_left _ hx)
  rintro (⟨hc, _⟩ | ⟨fault, ho, before, e, after, he, hb, hf, ha⟩)
  · exact .inl fun x hx => hc x (hin x hx)
  · cases before with
    | nil =>
      obtain rfl := (List.cons.inj he).1
      cases hf
    | cons first before =>
      have hevents : r.events ++ [.answered r.outcome] = before ++ e :: after :=
        (List.cons.inj he).2
      have hb := (List.forall_mem_cons.mp hb).2
      -- The fault comes up in the answer itself, or in an event before it.
      rcases List.eq_nil_or_concat' after with rfl | ⟨after, last, rfl⟩
      · obtain ⟨hbefore, _⟩ := List.append_inj' hevents rfl
        refine .inl fun x hx => hb x ?_
        rwa [← hbefore]
      · rw [← List.cons_append, ← List.append_assoc] at hevents
        obtain ⟨hbefore, _⟩ := List.append_inj' hevents rfl
        have ha := fun x hx => ha x (List.mem_append_left _ hx)
        exact .inr ⟨fault, ho, before, e, after, hbefore, hb, hf, ha⟩

theorem Faithful.clean_of_ok (h : r.Faithful) (ho : r.outcome = .ok ()) : r.Clean := by
  rcases h with ⟨hc, _⟩ | ⟨fault, he, _⟩
  · exact hc
  · rw [ho] at he
    cases he

theorem Faithful.clean_of_verdict (h : r.Faithful) {e : Error} (ho : r.outcome = .error e)
    (hi : e.isInternal = false) : r.Clean := by
  rcases h with ⟨hc, _⟩ | ⟨fault, he, _⟩
  · exact hc
  · rw [ho] at he
    cases he
    cases hi

theorem Faithful.andThen {next : Unit → Run} (h : r.Faithful) (hn : (next ()).Faithful) :
    (r.andThen next).Faithful := by
  rw [Run.andThen]
  split <;> rename_i ho
  · exact hn.after (h.clean_of_ok ho)
  · exact h

/-- A report of an abort comes only after the fault it tells of. -/
theorem Faithful.reportAbort (h : r.Faithful) {event : String → Event}
    (hu : ∀ fault, (event (Error.internal fault).message).Unwinds fault) :
    (r.reportAbort event).Faithful := by
  rw [Run.reportAbort]
  split <;> rename_i ho
  · rename_i e
    cases e with
    | internal fault =>
      rcases h with ⟨_, hn⟩ | ⟨fault', he⟩
      · exact absurd ho (hn fault)
      · refine .inr ⟨fault', he.then fun x hx => ?_⟩
        rw [he.1] at ho
        cases ho
        rw [List.mem_singleton.mp hx]
        exact hu fault
    | _ => exact h
  · exact h

theorem faithful_toOutcome (es : KeyedErrors) : (silent es.toOutcome).Faithful := by
  refine faithful_of_no_events fun fault h => ?_
  cases (KeyedErrors.toOutcome_eq_error_iff.mp h).2

/-- The step of every traversal: a fault of an item ends it before the next item. -/
theorem faithful_collect {α : Type} {failFast : Bool}
    {write : α → Error → KeyedErrors → KeyedErrors} {check : α → Run} {xs : List α}
    (h : ∀ x ∈ xs, (check x).Faithful) (es : KeyedErrors) :
    (collect failFast write check es xs).Faithful := by
  induction xs generalizing es with
  | nil => exact faithful_toOutcome es
  | cons x xs ih =>
    have hx := h x List.mem_cons_self
    have htail := ih fun y hy => h y (List.mem_cons_of_mem _ hy)
    rcases collect_cons_cases failFast write check es x xs with
      ⟨ho, heq⟩ | ⟨e, ho, ⟨_, heq⟩ | ⟨hi, _, heq⟩ | ⟨hi, _, heq⟩⟩ <;> rw [heq]
    · exact (htail es).after (hx.clean_of_ok ho)
    · exact hx
    · exact (faithful_toOutcome _).after (hx.clean_of_verdict ho hi)
    · exact (htail _).after (hx.clean_of_verdict ho hi)

end Run

/-- No step of a validation catches a fault or makes one up. -/
theorem stepwise_faithful : Stepwise fun r => ∀ c, (r c).Faithful where
  pass _ := Run.faithful_ok
  reject v _ := Run.faithful_of_no_events fun _ h => by cases h
  raise fault _ := Run.faithful_raise fault
  leaf l v _ := Run.Relays.witnessed (.inl fun _ hx => (List.not_mem_nil hx).elim)
  andThen hr hs c := (hr c).andThen (hs c)
  collect _ h c := Run.faithful_collect (fun x hx => h x hx c) []
  structOpened name n h c := (h c).after (by simp [Event.fault?])
  mapOpened n m h c := (h c).after (by simp [Event.fault?])
  structAborted name path h c := (h c).reportAbort fun _ => .structAborted name path
  mapAborted key h c := (h c).reportAbort fun _ => .mapAborted key

/-- A validator that catches no fault. It may end in a fault of its own making. -/
abbrev Validator.Relays (w : Validator) : Prop := ∀ c, (w c).Relays

theorem faithful_witnessed_iff_relays (w : Validator) :
    (∀ c, (w c).witnessed.Faithful) ↔ w.Relays :=
  forall_congr' fun _ => Run.faithful_witnessed_iff

/-- Code from outside that validates a struct catches no fault. -/
theorem relays_validateStruct {bindings : List (FieldBinding (List Rule))} {v : Value}
    (hb : ∀ b ∈ bindings, ∀ r ∈ b.rules, r.Keeps Validator.Relays)
    (hv : v.Validators Validator.Relays) :
    Validator.Relays fun c => Rule.validateStruct bindings c v := by
  intro c
  have hnone : ∀ r ∈ ([] : List Rule), r.Keeps Validator.Relays := by simp
  obtain ⟨_, _, hstruct⟩ :=
    stepwise_faithful.compositional.validations faithful_witnessed_iff_relays hnone hb hv
  exact (hstruct c).relays

/-- A struct that validates its own fields against bindings. -/
def Value.selfValidating (name : String) (fields : List (Field Value))
    (bindings : List (FieldBinding (List Rule))) : Value :=
  .struct name fields (some fun c => Rule.validateStruct bindings c (.struct name fields none))

theorem validators_selfValidating {name : String} {fields : List (Field Value)}
    {bindings : List (FieldBinding (List Rule))}
    (hb : ∀ b ∈ bindings, ∀ r ∈ b.rules, r.Keeps Validator.Relays)
    (hf : ∀ f ∈ fields, f.value.Validators Validator.Relays) :
    (Value.selfValidating name fields bindings).Validators Validator.Relays := by
  have hparts : ∀ u ∈ fields.map Field.value, u.Validators Validator.Relays := by
    intro u hu
    obtain ⟨f, hm, rfl⟩ := List.mem_map.mp hu
    exact hf f hm
  have hplain : (Value.struct name fields none).Validators Validator.Relays :=
    .of_parts rfl hparts
  refine .intro (fun w hw => ?_) hparts
  cases hw
  exact relays_validateStruct hb hplain

/-- The first internal answer of a leaf rule, an outside check or a self-validation, or fault of
a traversal, is the outcome of the whole validation, and nothing begins after it. Without one
the outcome is not internal. Checks and self-validations must not catch faults themselves; a check
may count on that of the self-validations in the value that it is given. -/
theorem first_fault_ends_validation (rules : List Rule)
    (bindings : List (FieldBinding (List Rule))) (c : Context) (v : Value)
    (hr : ∀ r ∈ rules, r.Keeps Validator.Relays)
    (hb : ∀ b ∈ bindings, ∀ r ∈ b.rules, r.Keeps Validator.Relays)
    (hv : v.Validators Validator.Relays) :
    (Rule.validate rules c v).Faithful ∧ (Rule.checkAll rules c v).Faithful ∧
      (Rule.validateStruct bindings c v).Faithful := by
  obtain ⟨hvalidate, hall, hstruct⟩ :=
    stepwise_faithful.compositional.validations faithful_witnessed_iff_relays hr hb hv
  exact ⟨hvalidate c, hall c, hstruct c⟩

/-- The second element validates itself, finds its field blank and then hands the other one to a
check which looks for a field that is not there. The rule for the elements, which the first one
fails, is not reached. -/
theorem first_fault_ends_validation_of_missing_field :
    let look : Check := Rule.validateStruct [⟨"X", []⟩]
    let own : List (FieldBinding (List Rule)) :=
      [⟨"A", [.leaf .required]⟩, ⟨"B", [.wrapped (.custom look false)]⟩]
    let fields : List (Field Value) :=
      [⟨"A", none, false, .text ""⟩, ⟨"B", none, false, .struct "T" [] none⟩]
    let rules : List Rule := [.each [.leaf .required] false]
    let v : Value := .list [.text "", .selfValidating "S" fields own]
    (∀ r ∈ rules, r.Keeps Validator.Relays) ∧
      (∀ b ∈ own, ∀ r ∈ b.rules, r.Keeps Validator.Relays) ∧ v.Validators Validator.Relays ∧
      (Rule.validate rules .background v).outcome = .error (.internal (.fieldNotFound 0)) ∧
      (Rule.validate rules .background v).Faithful ∧ (Rule.checkAll rules .background v).Faithful ∧
      (Rule.validateStruct own .background v).Faithful := by
  intro look own fields rules v
  have hlook : (Rule.wrapped (.custom look false)).Keeps Validator.Relays :=
    .wrapped (.custom false fun u hu => relays_validateStruct (by simp) hu)
  have hown : ∀ b ∈ own, ∀ r ∈ b.rules, r.Keeps Validator.Relays := by
    simpa [own] using ⟨.leaf .required, hlook⟩
  have hrules : ∀ r ∈ rules, r.Keeps Validator.Relays := by
    simpa [rules] using Rule.Customs.each false (by simpa using Rule.Customs.leaf .required)
  have hv : v.Validators Validator.Relays := by
    have hfields : ∀ f ∈ fields, f.value.Validators Validator.Relays := by
      simpa [fields] using ⟨.of_atom rfl rfl, .of_atom rfl rfl⟩
    apply Value.Validators.of_parts rfl
    simpa [v, Value.parts] using ⟨.of_atom rfl rfl, validators_selfValidating hown hfields⟩
  exact ⟨hrules, hown, hv, by subst v rules fields own look; rfl,
    first_fault_ends_validation rules own .background v hrules hown hv⟩

end Verdict
