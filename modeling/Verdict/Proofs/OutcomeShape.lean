import Mathlib.Data.List.Forall2
import Verdict.Proofs.CollectedErrors

/-! The shape of an outcome: codes, keys and the messages of internal errors, but no messages of
violations. Traversals of items of the same shapes end in the same shape. -/
namespace Verdict

/-- What is left of an error without the messages and parameters of its violations. -/
inductive Shape where
  | violation (code : String)
  | fields (entries : List (String × Option Shape))
  | internal (message : String)

namespace Error

mutual

def shape : Error → Shape
  | .violation v => .violation v.code
  | .fields entries => .fields (shapes entries)
  | .internal fault => .internal (Error.internal fault).message

/-- The shapes of errors by key. -/
def shapes : List (String × Option Error) → List (String × Option Shape)
  | [] => []
  | (key, none) :: rest => (key, none) :: shapes rest
  | (key, some e) :: rest => (key, some e.shape) :: shapes rest

end

theorem shapes_eq_map (es : KeyedErrors) : shapes es = es.map (Prod.map id (Option.map shape)) := by
  induction es with
  | nil => rfl
  | cons e rest ih => obtain ⟨key, _ | e⟩ := e <;> rw [shapes, ih] <;> rfl

theorem isInternal_eq_of_shape_eq {e f : Error} (h : e.shape = f.shape) :
    e.isInternal = f.isInternal := by
  cases e <;> cases f <;> first | rfl | cases h

end Error

/-- The shape of the error, if there is one. -/
def Outcome.shape : Outcome → Option Shape
  | .ok () => none
  | .error e => some e.shape

/-- Outcomes of one shape both pass or both fail. -/
theorem Outcome.shape_eq_cases {o p : Outcome} (h : Outcome.shape o = Outcome.shape p) :
    o = .ok () ∧ p = .ok () ∨ ∃ e f, o = .error e ∧ p = .error f ∧ e.shape = f.shape := by
  cases o with
  | ok u =>
    cases p with
    | ok u => exact .inl ⟨rfl, rfl⟩
    | error f => cases h
  | error e =>
    cases p with
    | ok u => cases h
    | error f => exact .inr ⟨e, f, rfl, rfl, Option.some_inj.mp h⟩

namespace KeyedErrors
open Error
variable {es fs : KeyedErrors}

theorem shapes_insert (es : KeyedErrors) (key : String) (e : Error) :
    shapes (es.insert key e) = SortedEntries.insert key (some e.shape) (shapes es) := by
  rw [shapes_eq_map, shapes_eq_map, insert, set]
  exact (SortedEntries.insert_map (fun _ _ => rfl) (Option.map shape) key (some e) es).symm

theorem shapes_merge (es new : KeyedErrors) :
    shapes (es.merge new) = SortedEntries.insertAll (shapes new) (shapes es) := by
  rw [shapes_eq_map, shapes_eq_map, shapes_eq_map, merge]
  exact (SortedEntries.insertAll_map (fun _ _ => rfl) _ new es).symm

theorem shapes_present (es : KeyedErrors) :
    shapes es.present = (shapes es).filter fun p => p.2.isSome := by
  rw [shapes_eq_map, shapes_eq_map, present, List.filter_map]
  congr 2
  funext p
  simp

theorem toOutcome_shape_congr (h : shapes es = shapes fs) :
    Outcome.shape es.toOutcome = Outcome.shape fs.toOutcome := by
  have hpresent : shapes es.present = shapes fs.present := by
    rw [shapes_present, shapes_present, h]
  have hnil : es.present = [] ↔ fs.present = [] := by
    rw [shapes_eq_map, shapes_eq_map] at hpresent
    rw [← List.map_eq_nil_iff, hpresent, List.map_eq_nil_iff]
  rw [toOutcome_eq, toOutcome_eq]
  by_cases hes : es.present = []
  · rw [if_pos hes, if_pos (hnil.mp hes)]
  · rw [if_neg hes, if_neg (hnil.not.mp hes)]
    exact congrArg (fun s => some (Shape.fields s)) hpresent

end KeyedErrors

theorem Run.andThen_shape_congr {r s : Run} {next next' : Unit → Run}
    (h : Outcome.shape r.outcome = Outcome.shape s.outcome)
    (hnext : Outcome.shape (next ()).outcome = Outcome.shape (next' ()).outcome) :
    Outcome.shape (r.andThen next).outcome = Outcome.shape (s.andThen next').outcome := by
  rw [andThen, andThen]
  rcases Outcome.shape_eq_cases h with ⟨hr, hs⟩ | ⟨e, f, hr, hs, _⟩
  · simpa only [hr, hs, after_outcome] using hnext
  · simpa only [hr, hs] using h

/-- Ways to write the error of an item that leave the same shapes. -/
def WritesAlike (w w' : Error → KeyedErrors → KeyedErrors) : Prop :=
  ∀ (e f : Error) (es fs : KeyedErrors), e.shape = f.shape → Error.shapes es = Error.shapes fs →
    Error.shapes (w e es) = Error.shapes (w' f fs)

/-- Traversals whose items end in the same shapes end in the same shape. -/
theorem collect_shape_congr {α β : Type} {failFast : Bool}
    {write : α → Error → KeyedErrors → KeyedErrors} {write' : β → Error → KeyedErrors → KeyedErrors}
    {check : α → Run} {check' : β → Run} {xs : List α} {ys : List β}
    (h : List.Forall₂ (fun x y => WritesAlike (write x) (write' y) ∧
      Outcome.shape (check x).outcome = Outcome.shape (check' y).outcome) xs ys)
    {es fs : KeyedErrors} (hes : Error.shapes es = Error.shapes fs) :
    Outcome.shape (collect failFast write check es xs).outcome =
      Outcome.shape (collect failFast write' check' fs ys).outcome := by
  induction h generalizing es fs with
  | nil => exact KeyedErrors.toOutcome_shape_congr hes
  | @cons x y xs ys hxy _ ih =>
    obtain ⟨hwrite, hcheck⟩ := hxy
    simp only [collect]
    rcases Outcome.shape_eq_cases hcheck with ⟨hx, hy⟩ | ⟨e, f, hx, hy, hef⟩
    · simpa only [hx, hy, Run.after_outcome] using ih hes
    · have hwritten := hwrite e f es fs hef hes
      simp only [hx, hy, Error.isInternal_eq_of_shape_eq hef]
      split
      · rw [hcheck]
      · split
        · exact KeyedErrors.toOutcome_shape_congr hwritten
        · exact ih hwritten

end Verdict
