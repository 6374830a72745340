import Verdict.Errors.Error

/-! What a test finds about a value, whatever error is configured for its failure. -/
namespace Verdict

inductive Judgement where
  | pass
  /-- The value fails the test, to be reported by the error configured for it. -/
  | failure
  /-- The test reports an error of its own. -/
  | other (e : Error)

namespace Judgement

def ofBool (accepted : Bool) : Judgement := if accepted then .pass else .failure

def violation (v : Violation) : Judgement := .other (.violation v)

def unsupported (typeName : String) : Judgement := .other (.internal (.unsupportedType typeName))

/-- The judgement of what a value was converted to; a failed conversion is reported as it is. -/
def ofConversion {α : Type} (x : Except Violation α) (judge : α → Judgement) : Judgement :=
  match x with
  | .ok a => judge a
  | .error v => .violation v

def outcome (template : Violation) : Judgement → Outcome
  | .pass => .ok ()
  | .failure => .error (.violation template)
  | .other e => .error e

/-- A test that decides a condition passes if it holds, and fails with the given error if not. -/
theorem outcome_ofBool {accepted : Bool} {condition : Prop} [Decidable condition]
    (h : accepted = true ↔ condition) (template : Violation) :
    (ofBool accepted).outcome template =
      if condition then .ok () else .error (.violation template) := by
  cases accepted with
  | true => rw [if_pos (h.mp rfl)]; rfl
  | false => rw [if_neg (fun hc => nomatch h.mpr hc)]; rfl

theorem ite_eq_ok_iff {condition : Prop} [Decidable condition] {e : Error} :
    (if condition then .ok () else .error e : Outcome) = .ok () ↔ condition := by
  split <;> rename_i hc
  · exact iff_of_true rfl hc
  · exact iff_of_false nofun hc

end Judgement
end Verdict
