import Verdict.Proofs.TraversalMoves

/-! The log of a validation. It has an opening for each traversal entered and then, where an
internal error ended the validation, a report for each one still open, from the inside out. -/
namespace Verdict

/-- An event reports that an internal error ended a traversal where it was. -/
inductive Frame.ReportedBy (message : String) : Frame → Event → Prop
  | field (name : String) (bindings : Nat) (path : String) :
      ReportedBy message ⟨.struct name bindings, .field path⟩ (.structAborted name path message)
  | key (bindings entries : Nat) (text : String) :
      ReportedBy message ⟨.map bindings entries, .key text⟩ (.mapAborted text message)

/-- Events report an internal error for every open traversal, innermost first. A struct in which
a field is missing raised the error itself and does not report it. -/
inductive Unwinds (e : Error) : List Frame → List Event → Prop
  | reported {stack : List Frame} {reports : List Event}
      (h : List.Forall₂ (Frame.ReportedBy e.message) stack reports) : Unwinds e stack reports
  | raised {name : String} {bindings index : Nat} {stack : List Frame} {reports : List Event}
      (he : e = .internal (.fieldNotFound index))
      (h : List.Forall₂ (Frame.ReportedBy e.message) stack reports) :
      Unwinds e (⟨.struct name bindings, .missing index⟩ :: stack) reports

def Event.isAbort : Event → Bool
  | .structAborted _ _ _ | .mapAborted _ _ => true
  | _ => false

/-- What of a run is logged. -/
def Run.log (r : Run) : List Event := r.events.filter Event.isReport

/-- The log of a run tells of moves that it makes inside traversals of its own: none for a whole
validation, and the one that goes through them for the check of a binding. Where these traversals
are when the run begins does not matter, nor does what is open around them. -/
structure Run.LogsWithin (own : List Traversal) (r : Run) (moves : List Move) : Prop where
  passes : Outcome.isInternal r.outcome = false → r.log = openings moves ∧
    ∀ base, base.map Frame.traversal = own → (openAfter base moves).map Frame.traversal = own
  aborts : ∀ fault, r.outcome = .error (.internal fault) → ∃ reports,
    r.log = openings moves ++ reports ∧ ∀ base, base.map Frame.traversal = own →
      Unwinds (.internal fault) (openAfter base moves) reports
  beneath : ∀ base, base.map Frame.traversal = own → ∀ stack,
    openAfter (base ++ stack) moves = openAfter base moves ++ stack

theorem Unwinds.append {e : Error} {stack : List Frame} {reports : List Event} {f : Frame}
    {event : Event} (h : Unwinds e stack reports) (hf : f.ReportedBy e.message event) :
    Unwinds e (stack ++ [f]) (reports ++ [event]) := by
  have hlast := List.Forall₂.cons hf .nil
  cases h with
  | reported h => exact .reported (List.rel_append h hlast)
  | raised he h => exact .raised he (List.rel_append h hlast)

namespace Run

theorem log_append (events later : List Event) (o : Outcome) :
    log ⟨events ++ later, o⟩ = log ⟨events, o⟩ ++ log ⟨later, o⟩ := List.filter_append ..

theorem log_after (events : List Event) (r : Run) :
    (r.after events).log = events.filter Event.isReport ++ r.log := List.filter_append ..

private theorem filter_isReport_of_quiet {events : List Event}
    (h : ∀ ev ∈ events, ev.isReport = false) : events.filter Event.isReport = [] :=
  List.filter_eq_nil_iff.mpr fun ev hev => by simp [h ev hev]

theorem log_after_of_quiet {events : List Event} (h : ∀ ev ∈ events, ev.isReport = false)
    (r : Run) : (r.after events).log = r.log := by
  rw [log_after, filter_isReport_of_quiet h, List.nil_append]

theorem log_append_of_quiet {later : List Event} (h : ∀ ev ∈ later, ev.isReport = false)
    (r : Run) : log ⟨r.events ++ later, r.outcome⟩ = r.log := by
  rw [log_append]
  exact (congrArg _ (filter_isReport_of_quiet h)).trans (List.append_nil _)

@[simp] theorem log_witnessed (r : Run) : r.witnessed.log = r.log := by
  simp [log, witnessed, Event.isReport]

theorem reportAbort_of_not_internal {r : Run} (event : String → Event)
    (h : Outcome.isInternal r.outcome = false) : r.reportAbort event = r := by
  rw [reportAbort]
  cases ho : r.outcome with
  | ok u => rfl
  | error e =>
    rw [ho] at h
    exact if_neg (by rw [show e.isInternal = false from h]; exact Bool.false_ne_true)

theorem reportAbort_of_internal {r : Run} (event : String → Event) {fault : Fault Error}
    (h : r.outcome = .error (.internal fault)) :
    r.reportAbort event = ⟨r.events ++ [event (Error.internal fault).message], r.outcome⟩ := by
  simp only [reportAbort, h, Error.isInternal, if_true]

theorem log_report {message : String} {f : Frame} {event : Event} (h : f.ReportedBy message event)
    (o : Outcome) : log ⟨[event], o⟩ = [event] := by
  cases h <;> rfl

namespace LogsWithin
variable {own : List Traversal} {r s : Run} {moves more : List Move}

/-- Only the log and the outcome count. -/
theorem of_log (h : r.LogsWithin own moves) (hl : s.log = r.log) (ho : s.outcome = r.outcome) :
    s.LogsWithin own moves where
  passes := by rw [hl, ho]; exact h.passes
  aborts := by rw [hl, ho]; exact h.aborts
  beneath := h.beneath

/-- A run that logs nothing stays where it is. Within a traversal it must not end in an internal
error, which would come from no binding. -/
theorem silent (hl : r.log = []) (h : own = [] ∨ Outcome.isInternal r.outcome = false) :
    r.LogsWithin own [] where
  passes _ := ⟨hl, fun _ hb => hb⟩
  aborts fault hf := by
    rcases h with rfl | h
    · refine ⟨[], hl, fun base hb => ?_⟩
      obtain rfl := List.map_eq_nil_iff.mp hb
      exact .reported .nil
    · rw [hf] at h
      cases h
  beneath _ _ _ := rfl

theorem append (hr : r.LogsWithin own moves) (hi : Outcome.isInternal r.outcome = false)
    (hs : s.LogsWithin own more) : (s.after r.events).LogsWithin own (moves ++ more) := by
  obtain ⟨hlog, hbase⟩ := hr.passes hi
  refine ⟨fun h => ?_, fun fault hf => ?_, fun base hb stack => ?_⟩
  · obtain ⟨hl, ho⟩ := hs.passes h
    refine ⟨?_, fun base hb => ?_⟩
    · rw [log_after, ← log, hlog, hl, openings_append]
    · rw [openAfter_append]
      exact ho _ (hbase base hb)
  · obtain ⟨reports, hl, hu⟩ := hs.aborts fault hf
    refine ⟨reports, ?_, fun base hb => ?_⟩
    · rw [log_after, ← log, hlog, hl, openings_append, List.append_assoc]
    · rw [openAfter_append]
      exact hu _ (hbase base hb)
  · rw [openAfter_append, hr.beneath base hb, hs.beneath _ (hbase base hb), openAfter_append]

theorem andThen {next : Unit → Run} (hr : r.LogsWithin own moves)
    (hn : (next ()).LogsWithin own more) :
    (r.andThen next).LogsWithin own (Tour.andThen r moves more) := by
  rw [Run.andThen, Tour.andThen]
  cases ho : r.outcome with
  | ok u => exact hr.append (by rw [ho]; rfl) hn
  | error e => exact hr

/-- The run lemma of a loop: what holds of every item holds of the whole. -/
theorem collect {α : Type} (failFast : Bool) (write : α → Error → KeyedErrors → KeyedErrors)
    {check : α → Run} {items : List (α × List Move)}
    (h : ∀ i ∈ items, (check i.1).LogsWithin own i.2) (es : KeyedErrors) :
    (collect failFast write check es (items.map Prod.fst)).LogsWithin own
      (Tour.loop failFast check items) := by
  -- What has been written does not show in the log, so the store is not fixed.
  induction items generalizing es with
  | nil => exact .silent rfl (.inr es.toOutcome_not_internal)
  | cons i rest ih =>
    obtain ⟨hi, hrest⟩ := List.forall_mem_cons.mp h
    obtain ⟨x, moves⟩ := i
    rw [List.map_cons]
    rcases collect_cons_cases failFast write check es x (rest.map Prod.fst) with
      ⟨ho, heq⟩ | ⟨e, ho, ⟨hint, heq⟩ | ⟨hint, rfl, heq⟩ | ⟨hint, rfl, heq⟩⟩
    · rw [heq, Tour.loop, ho]
      exact hi.append (by rw [ho]; rfl) (ih hrest es)
    · rw [heq, Tour.loop, ho]
      simp only [hint, Bool.true_or, if_true]
      exact hi
    · have hstop := hi.append (by rw [ho]; exact hint)
        (.silent (r := Run.silent (write x e es).toOutcome) rfl
          (.inr (write x e es).toOutcome_not_internal))
      rw [heq, Tour.loop, ho]
      simpa only [Bool.or_true, if_true, List.append_nil] using hstop
    · rw [heq, Tour.loop, ho]
      simp only [hint, Bool.or_false, Bool.false_eq_true, if_false]
      exact hi.append (by rw [ho]; exact hint) (ih hrest _)

/-- The step of a traversal: it turns to a binding, and reports an internal error from there. -/
theorem turn (h : r.LogsWithin [] moves) {t : Traversal} {p : Traversal.Place}
    {event : String → Event} (hp : ∀ message, Frame.ReportedBy message ⟨t, p⟩ (event message)) :
    (r.reportAbort event).LogsWithin [t] (.turn p :: moves) := by
  have hopen (base : List Frame) (hb : base.map Frame.traversal = [t]) (stack : List Frame) :
      openAfter (base ++ stack) (.turn p :: moves) = openAfter [] moves ++ ⟨t, p⟩ :: stack := by
    obtain ⟨f, rfl, rfl⟩ := List.map_eq_singleton_iff.mp hb
    exact h.beneath [] rfl (⟨f.traversal, p⟩ :: stack)
  have hbase (base : List Frame) (hb : base.map Frame.traversal = [t]) :
      openAfter base (.turn p :: moves) = openAfter [] moves ++ [⟨t, p⟩] := by
    rw [← hopen base hb [], List.append_nil]
  refine ⟨fun hi => ?_, fun fault hf => ?_, fun base hb stack => ?_⟩
  · rw [reportAbort_outcome] at hi
    obtain ⟨hl, ho⟩ := h.passes hi
    have hnone : openAfter [] moves = [] := List.map_eq_nil_iff.mp (ho [] rfl)
    refine ⟨?_, fun base hb => ?_⟩
    · rw [reportAbort_of_not_internal event hi, hl, openings_turn]
    · rw [hbase base hb, hnone]
      rfl
  · rw [reportAbort_outcome] at hf
    obtain ⟨reports, hl, hu⟩ := h.aborts fault hf
    refine ⟨reports ++ [event (Error.internal fault).message], ?_, fun base hb => ?_⟩
    · rw [reportAbort_of_internal event hf, log_append, log_report (hp _), openings_turn,
        ← List.append_assoc]
      exact congrArg (· ++ _) hl
    · rw [hbase base hb]
      exact (hu [] rfl).append (hp _)
  · rw [hopen base hb, hbase base hb, List.append_assoc]
    rfl

/-- A traversal turns to a binding without incident. -/
theorem passBy (hl : r.log = []) (hi : Outcome.isInternal r.outcome = false) (t : Traversal)
    (p : Traversal.Place) : r.LogsWithin [t] [.turn p] where
  passes _ := by
    refine ⟨hl, fun base hb => ?_⟩
    obtain ⟨f, rfl, rfl⟩ := List.map_eq_singleton_iff.mp hb
    rfl
  aborts fault hf := by
    rw [hf] at hi
    cases hi
  beneath base hb stack := by
    obtain ⟨f, rfl, _⟩ := List.map_eq_singleton_iff.mp hb
    rfl

/-- A struct raises by itself that a field is missing, and does not report it. -/
theorem missing (name : String) (bindings index : Nat) :
    (Run.raise (.fieldNotFound index)).LogsWithin [.struct name bindings]
      [.turn (.missing index)] where
  passes := by rintro ⟨⟩
  aborts fault hf := by
    cases hf
    refine ⟨[], rfl, fun base hb => ?_⟩
    obtain ⟨f, rfl, hf⟩ := List.map_eq_singleton_iff.mp hb
    rw [openAfter_cons, openAfter_nil, Move.act, hf]
    exact .raised rfl .nil
  beneath base hb stack := by
    obtain ⟨f, rfl, _⟩ := List.map_eq_singleton_iff.mp hb
    rfl

/-- A traversal logs its opening before what is logged in it. -/
theorem within {t : Traversal} (h : r.LogsWithin [t] moves) :
    (r.after [t.opening]).LogsWithin [] (Tour.within t r.outcome moves) := by
  have hlog : (r.after [t.opening]).log = t.opening :: r.log := by
    cases t <;> rfl
  have hopen (stack : List Frame) : openAfter stack (.enter t :: moves) =
      openAfter [⟨t, .start⟩] moves ++ stack := h.beneath [⟨t, .start⟩] rfl stack
  -- The traversal is open inside, and after the run only if that ended in an internal error.
  cases hi : Outcome.isInternal r.outcome with
  | false =>
    obtain ⟨hl, ho⟩ := h.passes hi
    obtain ⟨f, hf, _⟩ := List.map_eq_singleton_iff.mp (ho [⟨t, .start⟩] rfl)
    have hleft (stack : List Frame) :
        openAfter stack (Tour.within t r.outcome moves) = stack := by
      rw [Tour.within, openAfter_append, hopen, hf, hi]
      rfl
    refine ⟨fun _ => ⟨?_, fun base hb => ?_⟩, fun fault hf => ?_, fun base _ stack => ?_⟩
    · rw [hlog, hl, Tour.within, openings_append, openings_enter, hi]
      exact (List.append_nil _).symm
    · rw [hleft, hb]
    · rw [show r.outcome = _ from hf] at hi
      cases hi
    · rw [hleft, hleft]
  | true =>
    have hmoves : Tour.within t r.outcome moves = .enter t :: moves := by
      rw [Tour.within, hi, if_pos rfl, List.append_nil]
    rw [hmoves]
    refine ⟨fun hn => ?_, fun fault hf => ?_, fun base _ stack => ?_⟩
    · rw [show Outcome.isInternal r.outcome = false from hn] at hi
      cases hi
    · obtain ⟨reports, hl, hu⟩ := h.aborts fault hf
      refine ⟨reports, ?_, fun base hb => ?_⟩
      · rw [hlog, hl, openings_enter, List.cons_append]
      · rw [List.map_eq_nil_iff.mp hb]
        exact hu [⟨t, .start⟩] rfl
    · rw [hopen, hopen, List.append_assoc]

end LogsWithin
end Run

/-- The log of a run has an opening for each traversal that its moves enter. After these, it
reports an internal error that the run ends in for the traversals left open, and nothing else. -/
structure Run.Mirrors (r : Run) (moves : List Move) : Prop where
  passes : Outcome.isInternal r.outcome = false →
    r.log = openings moves ∧ openAfter [] moves = []
  aborts : ∀ fault, r.outcome = .error (.internal fault) → ∃ reports,
    r.log = openings moves ++ reports ∧ Unwinds (.internal fault) (openAfter [] moves) reports
  ordered : r.log.Pairwise fun first second => first.isAbort = true → second.isAbort = true

private theorem isAbort_of_mem_openings {moves : List Move} {event : Event}
    (h : event ∈ openings moves) : event.isAbort = false := by
  obtain ⟨m, _, hm⟩ := List.mem_filterMap.mp h
  cases m with
  | enter t =>
    cases hm
    cases t <;> rfl
  | turn _ | leave => cases hm

private theorem Unwinds.isAbort {e : Error} {stack : List Frame} {reports : List Event}
    (h : Unwinds e stack reports) : ∀ event ∈ reports, event.isAbort = true := by
  have hall {stack : List Frame} {reports : List Event}
      (h : List.Forall₂ (Frame.ReportedBy e.message) stack reports) :
      ∀ event ∈ reports, event.isAbort = true := by
    induction h with
    | nil => simp
    | cons hf _ ih => exact List.forall_mem_cons.mpr ⟨by cases hf <;> rfl, ih⟩
  cases h with
  | reported h => exact hall h
  | raised _ h => exact hall h

private theorem ordered_of_reports {moves : List Move} {reports : List Event}
    (h : ∀ event ∈ reports, event.isAbort = true) : (openings moves ++ reports).Pairwise
      fun first second => first.isAbort = true → second.isAbort = true := by
  refine List.pairwise_append.mpr ⟨?_, ?_, fun _ _ second hs _ => h second hs⟩
  · refine List.pairwise_of_forall_mem_list fun first hf _ _ habort => ?_
    rw [isAbort_of_mem_openings hf] at habort
    cases habort
  · exact List.pairwise_of_forall_mem_list fun _ _ second hs _ => h second hs

theorem Run.LogsWithin.mirrors {r : Run} {moves : List Move} (h : r.LogsWithin [] moves) :
    r.Mirrors moves := by
  have hpasses (hi : Outcome.isInternal r.outcome = false) :
      r.log = openings moves ∧ openAfter [] moves = [] := by
    obtain ⟨hl, ho⟩ := h.passes hi
    exact ⟨hl, List.map_eq_nil_iff.mp (ho [] rfl)⟩
  have haborts (fault : Fault Error) (hf : r.outcome = .error (.internal fault)) :
      ∃ reports, r.log = openings moves ++ reports ∧
        Unwinds (.internal fault) (openAfter [] moves) reports := by
    obtain ⟨reports, hl, hu⟩ := h.aborts fault hf
    exact ⟨reports, hl, hu [] rfl⟩
  refine ⟨hpasses, haborts, ?_⟩
  cases hi : Outcome.isInternal r.outcome with
  | false =>
    rw [(hpasses hi).1, ← List.append_nil (openings moves)]
    exact ordered_of_reports fun _ hn => absurd hn List.not_mem_nil
  | true =>
    obtain ⟨fault, hf⟩ := Outcome.isInternal_iff.mp hi
    obtain ⟨reports, hl, hu⟩ := haborts fault hf
    rw [hl]
    exact ordered_of_reports hu.isAbort

end Verdict
