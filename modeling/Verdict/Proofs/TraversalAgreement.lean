import Mathlib.Data.List.Forall2
import Verdict.Proofs.CollectedErrors
import Verdict.Proofs.CompositionalRuns
import Verdict.Proofs.FieldPaths
import Verdict.Proofs.MapKeyForms

/-! The traversals agree: what is asked of each element of a map may as well be asked under each
of its keys, and what is asked under text keys may as well be asked of the fields of a struct. -/
namespace Verdict

/-- What a traversal tells of itself, apart from what it asks and answers. -/
def Event.isReport : Event → Bool
  | .structOpened _ _ | .mapOpened _ _ | .structAborted _ _ _ | .mapAborted _ _ => true
  | _ => false

namespace Run

/-- Two runs ask the same in the same order, are answered the same and answer the same. -/
structure Agrees (r s : Run) : Prop where
  outcome : r.outcome = s.outcome
  events : r.events.filter (!·.isReport) = s.events.filter (!·.isReport)

namespace Agrees
variable {r s t : Run}

theorem refl (r : Run) : r.Agrees r := ⟨rfl, rfl⟩

theorem symm (h : r.Agrees s) : s.Agrees r := ⟨h.outcome.symm, h.events.symm⟩

theorem trans (h : r.Agrees s) (k : s.Agrees t) : r.Agrees t :=
  ⟨h.outcome.trans k.outcome, h.events.trans k.events⟩

theorem after {es fs : List Event} (h : r.Agrees s)
    (he : es.filter (!·.isReport) = fs.filter (!·.isReport)) :
    (r.after es).Agrees (s.after fs) := by
  refine ⟨h.outcome, ?_⟩
  simp only [Run.after, List.filter_append, he, h.events]

/-- The run after reports agrees with the run itself. -/
theorem of_reports {es : List Event} (he : ∀ e ∈ es, e.isReport = true) :
    (r.after es).Agrees r := by
  refine ⟨rfl, ?_⟩
  rw [Run.after, List.filter_append, List.append_left_eq_self, List.filter_eq_nil_iff]
  simpa using he

theorem of_reportAbort {event : String → Event} (he : ∀ text, (event text).isReport = true) :
    (r.reportAbort event).Agrees r := by
  refine ⟨reportAbort_outcome r event, ?_⟩
  rw [reportAbort]
  split
  · split
    · simp [he]
    · rfl
  · rfl

end Agrees
end Run

section Collect
variable {α β : Type} {failFast : Bool} {write : α → Error → KeyedErrors → KeyedErrors}
  {write' : β → Error → KeyedErrors → KeyedErrors} {check : α → Run} {check' : β → Run}

/-- Traversals agree whose items are written alike and checked by runs that agree. -/
theorem collect_agrees {xs : List α} {ys : List β}
    (h : List.Forall₂ (fun x y => write x = write' y ∧ (check x).Agrees (check' y)) xs ys)
    (es : KeyedErrors) :
    (collect failFast write check es xs).Agrees (collect failFast write' check' es ys) := by
  induction h generalizing es with
  | nil => exact .refl _
  | @cons x y xs ys hxy _ ih =>
    obtain ⟨hw, hc⟩ := hxy
    simp only [collect, ← hw, ← hc.outcome]
    split
    · exact (ih es).after hc.events
    · split
      · exact hc
      · split
        · exact ⟨rfl, hc.events⟩
        · exact (ih _).after hc.events

end Collect

theorem SortedEntries.exists_get? {κ α : Type} [Ord κ] [Std.ReflOrd κ] {k : κ}
    {es : List (κ × α)} (h : k ∈ es.map Prod.fst) : ∃ a, get? k es = some a := by
  induction es with
  | nil => cases h
  | cons p rest ih =>
    rw [get?]
    split
    · exact ⟨p.2, rfl⟩
    · rename_i hne
      refine ih ((List.mem_cons.mp h).resolve_left fun hk => hne ?_)
      rw [hk, Std.ReflOrd.compare_self]
      rfl

namespace KeyBinding
variable {kind : KeyKind} {entries : List (MapKey × Value)} {c : Context} {b : KeyBinding Check}

/-- The check of a bound key that is stored as it is asks just what is asked of its entry. -/
theorem check_agrees {v : Value} (stored : b.key.coerce? kind = some b.key)
    (found : SortedEntries.get? b.key entries = some v) :
    (KeyItem.check kind entries c (.bound b)).Agrees (b.rules c v) := by
  simp only [KeyItem.check, check, stored, found]
  exact .of_reportAbort fun _ => rfl

/-- No key is undeclared if each is bound in the form that is stored. -/
theorem undeclared_eq_nil {ρ : Type} {bindings : List (KeyBinding ρ)}
    (h : ∀ k ∈ entries.map Prod.fst, ∃ b ∈ bindings, b.key.coerce? kind = some k) :
    undeclared kind entries bindings = [] := by
  rw [undeclared, List.filter_eq_nil_iff]
  intro k hk
  obtain ⟨b, hb, hkey⟩ := h k hk
  simpa using ⟨b, hb, hkey⟩

/-- Where no key is unexpected only the bound ones are gone through. -/
theorem mapKeys_agrees {bindings : List (KeyBinding Check)} {allowExtra : Bool}
    (h : allowExtra = true ∨ undeclared kind entries bindings = []) :
    (Check.mapKeys bindings allowExtra c (.map kind entries)).Agrees
      (collect false (underKey KeyItem.label) (KeyItem.check kind entries c) []
        (bindings.map .bound)) := by
  have hextra : (if allowExtra then [] else undeclared kind entries bindings) = [] := by
    rcases h with rfl | h
    · rfl
    · rw [h, ite_self]
  simp only [Check.mapKeys, hextra, List.map_nil, List.append_nil]
  exact Run.Agrees.of_reports (by simp [Event.isReport])

end KeyBinding

theorem Check.structFields_agrees {name : String} {fields : List (Field Value)}
    {validator : Option Validator} {bindings : List (FieldBinding Check)} {c : Context} :
    (Check.structFields bindings c (.struct name fields validator)).Agrees
      (collect false FieldItem.write (FieldItem.check name c) [] (bindings.zipIdx.map fun p =>
        ⟨p.2, p.1, (Value.struct name fields validator).resolve? p.1.path⟩)) :=
  Run.Agrees.of_reports (by simp [Event.isReport])

section Record
variable {kind : KeyKind} {fields : List (String × Value)} {name : String}
  {validator : Option Validator}

def Value.record (name : String) (validator : Option Validator) (fields : List (String × Value)) :
    Value :=
  .struct name (fields.map fun f => ⟨f.1, none, false, f.2⟩) validator

def Value.textEntries (fields : List (String × Value)) : List (MapKey × Value) :=
  fields.map fun f => (.text f.1, f.2)

private theorem field?_record (s : String) :
    (Value.record name validator fields).field? s =
      (SortedEntries.get? (.text s) (Value.textEntries fields)).map fun v =>
        ⟨s, none, false, v⟩ := by
  have hplain : ∀ f ∈ fields.map fun f => (⟨f.1, none, false, f.2⟩ : Field Value),
      f.embedded = false := by
    intro f hf
    obtain ⟨_, _, rfl⟩ := List.mem_map.mp hf
    rfl
  rw [Value.record, Value.field?_of_not_embedded hplain]
  clear hplain
  induction fields with
  | nil => rfl
  | cons f rest ih =>
    rw [Value.textEntries, List.map_cons, List.map_cons, SortedEntries.get?, List.find?_cons]
    by_cases hs : s = f.1
    · simp [← hs]
    · have hkey : compare (MapKey.text s) (.text f.1) ≠ .eq := fun h =>
        hs (MapKey.text.inj (Std.LawfulEqOrd.eq_of_compare h))
      rw [beq_eq_false_iff_ne.mpr hkey, beq_eq_false_iff_ne.mpr (Ne.symm hs)]
      exact ih

private theorem plainField_agrees {path : String} {v : Value} {entries : List (MapKey × Value)}
    (index : Nat) (name : String) (check : Check) (c : Context)
    (stored : (MapKey.text path).coerce? kind = some (.text path))
    (found : SortedEntries.get? (.text path) entries = some v) :
    let k : KeyItem := .bound ⟨.text path, check, false⟩
    let i : FieldItem := ⟨index, ⟨path, check⟩, some (⟨path, none, false, v⟩, path)⟩
    underKey KeyItem.label k = i.write ∧ (k.check kind entries c).Agrees (i.check name c) := by
  intro k i
  constructor
  · funext e es
    cases e <;> rfl
  · refine .trans (KeyBinding.check_agrees stored found) (.symm ?_)
    exact .of_reportAbort fun _ => rfl

/-- Rules under text keys of a map are rules for the fields of those names. -/
theorem map_agrees_struct {bindings : List (FieldBinding (List Rule))}
    (stored : ∀ f ∈ fields, (MapKey.text f.1).coerce? kind = some (.text f.1))
    (plain : ∀ f ∈ fields, '.' ∉ f.1.toList) (bound : ∀ b ∈ bindings, b.path ∈ fields.map Prod.fst)
    (c : Context) :
    ((Rule.map (bindings.map fun b => ⟨.text b.path, b.rules, false⟩) true).check c
        (.map kind (Value.textEntries fields))).Agrees
      (Rule.validateStruct bindings c (Value.record name validator fields)) := by
  rw [Rule.check_map, List.map_map]
  refine .trans (KeyBinding.mapKeys_agrees (.inl rfl)) (.trans ?_ Check.structFields_agrees.symm)
  -- The items of the struct are numbered, those of the map are not.
  conv in (bindings.map _).map KeyItem.bound => rw [← List.zipIdx_map_fst 0 bindings]
  rw [List.zipIdx_map]
  simp only [List.map_map]
  refine collect_agrees ?_ []
  rw [List.forall₂_map_left_iff, List.forall₂_map_right_iff, List.forall₂_same]
  rintro ⟨b, n⟩ hb
  obtain ⟨f, hf, hpath⟩ := List.mem_map.mp (bound b (List.fst_mem_of_mem_zipIdx hb))
  obtain ⟨v, found⟩ : ∃ v, SortedEntries.get? (.text b.path) (Value.textEntries fields) = some v :=
    SortedEntries.exists_get? (hpath ▸ List.mem_map_of_mem (List.mem_map_of_mem hf))
  have hkey : (MapKey.text b.path).coerce? kind = some (.text b.path) := hpath ▸ stored f hf
  have htarget : (Value.record name validator fields).resolve? b.path =
      some (⟨b.path, none, false, v⟩, b.path) := by
    rw [Value.resolve?_of_name (hpath ▸ plain f hf), field?_record, found]
    rfl
  have hitem := plainField_agrees n name (Rule.validate b.rules) c hkey found
  rw [← htarget] at hitem
  exact hitem

end Record

section Map
variable {kind : KeyKind} {entries : List (MapKey × Value)}
  (sorted : SortedEntries.Sorted entries)
  (stored : ∀ k ∈ entries.map Prod.fst, k.coerce? kind = some k)
include sorted stored

/-- Rules for each element of a map are rules for each of its keys. -/
theorem each_agrees_map (rules : List Rule) (c : Context) :
    ((Rule.each rules false).check c (.map kind entries)).Agrees
      ((Rule.map (entries.map fun e => ⟨e.1, rules, false⟩) false).check c
        (.map kind entries)) := by
  rw [Rule.check_each, Rule.check_map, List.map_map]
  refine .trans ?_ (KeyBinding.mapKeys_agrees (.inr (KeyBinding.undeclared_eq_nil ?_))).symm
  · change (collect false (underKey Prod.fst) (fun e => Rule.validate rules c e.2) []
      (entries.map fun e => (e.1.render, e.2))).Agrees _
    refine collect_agrees ?_ []
    rw [List.map_map, List.forall₂_map_left_iff, List.forall₂_map_right_iff, List.forall₂_same]
    rintro ⟨k, v⟩ he
    have found := (SortedEntries.get?_eq_some_iff sorted).mpr he
    exact ⟨rfl, (KeyBinding.check_agrees (b := ⟨k, Rule.validate rules, false⟩)
      (stored k (List.mem_map_of_mem he)) found).symm⟩
  · intro k hk
    obtain ⟨e, he, rfl⟩ := List.mem_map.mp hk
    exact ⟨_, List.mem_map_of_mem he, stored _ hk⟩

/-- On a map whose keys are all of its kind, rules for each element do what the same rules do
under each of its keys. If the keys are text without points, rules under any of them, in any
order and as often as you like, do what they do for the fields of a struct. -/
theorem traversals_agree (c : Context) :
    (∀ rules : List Rule, ((Rule.each rules false).check c (.map kind entries)).Agrees
      ((Rule.map (entries.map fun e => ⟨e.1, rules, false⟩) false).check c
        (.map kind entries))) ∧
    ∀ (fields : List (String × Value)) (name : String) (validator : Option Validator)
      (bindings : List (FieldBinding (List Rule))), entries = Value.textEntries fields →
      (∀ f ∈ fields, '.' ∉ f.1.toList) → (∀ b ∈ bindings, b.path ∈ fields.map Prod.fst) →
      ((Rule.map (bindings.map fun b => ⟨.text b.path, b.rules, false⟩) true).check c
          (.map kind entries)).Agrees
        (Rule.validateStruct bindings c (Value.record name validator fields)) := by
  refine ⟨fun rules => each_agrees_map sorted stored rules c, ?_⟩
  rintro fields name validator bindings rfl plain bound
  refine map_agrees_struct (fun f hf => stored _ ?_) plain bound c
  exact List.mem_map_of_mem (List.mem_map_of_mem hf)

end Map

/-- Rules for a key bound twice: the later failure stands, as it does for the field. -/
theorem traversals_agree_of_repeated_key :
    let fields : List (String × Value) := [("a", .text ""), ("b", .int 0)]
    let entries := Value.textEntries fields
    let rules : List Rule := [.leaf .required]
    let bindings : List (FieldBinding (List Rule)) :=
      [⟨"b", rules⟩, ⟨"a", rules⟩, ⟨"b", [.leaf .nil]⟩]
    let each := (Rule.each rules false).check .background (.map .text entries)
    let struct := Rule.validateStruct bindings .background (Value.record "S" none fields)
    SortedEntries.Sorted entries ∧ (∀ k ∈ entries.map Prod.fst, k.coerce? .text = some k) ∧
      (∀ f ∈ fields, '.' ∉ f.1.toList) ∧ (∀ b ∈ bindings, b.path ∈ fields.map Prod.fst) ∧
      each.outcome = .error (.fields [("a", some (.violation Leaf.required.template)),
        ("b", some (.violation Leaf.required.template))]) ∧
      struct.outcome = .error (.fields [("a", some (.violation Leaf.required.template)),
        ("b", some (.violation Leaf.nil.template))]) ∧
      each.Agrees ((Rule.map (entries.map fun e => ⟨e.1, rules, false⟩) false).check .background
        (.map .text entries)) ∧
      ((Rule.map (bindings.map fun b => ⟨.text b.path, b.rules, false⟩) true).check .background
        (.map .text entries)).Agrees struct := by
  intro fields entries rules bindings each struct
  have sorted : SortedEntries.Sorted entries := by
    simp [entries, fields, Value.textEntries, SortedEntries.Sorted]
    decide
  have stored : ∀ k ∈ entries.map Prod.fst, k.coerce? .text = some k := by
    simp [entries, fields, Value.textEntries, MapKey.coerce?]
  have plain : ∀ f ∈ fields, '.' ∉ f.1.toList := by simp [fields]
  have bound : ∀ b ∈ bindings, b.path ∈ fields.map Prod.fst := by simp [bindings, fields]
  obtain ⟨heach, hstruct⟩ := traversals_agree sorted stored .background
  exact ⟨sorted, stored, plain, bound, rfl, by subst struct bindings rules fields; rfl,
    heach rules, hstruct fields "S" none bindings rfl plain bound⟩

end Verdict
