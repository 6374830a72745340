import Verdict.Proofs.FieldPaths
import Verdict.Proofs.StructOutcome

/-! Bindings below a path of a struct against bindings of the struct at that path. They answer
the same under longer keys, but for errors by key of embedded fields, which keep their keys. -/
namespace Verdict

/-- A common beginning does not change the order of texts. -/
theorem compare_append_left (k x y : String) : compare (k ++ x) (k ++ y) = compare x y := by
  have hlt : k ++ x < k ++ y ↔ x < y := by
    simp only [String.lt_iff, String.toList_append]
    induction k.toList with
    | nil => rfl
    | cons c cs ih => simpa using ih
  change compareOfLessAndEq (k ++ x) (k ++ y) = compareOfLessAndEq x y
  simp [compareOfLessAndEq, hlt]

/-- A binding of a field inside the field at a path. -/
def FieldBinding.inside {ρ : Type} (path : String) (b : FieldBinding ρ) : FieldBinding ρ :=
  ⟨path ++ "." ++ b.path, b.rules⟩

/-- Errors by key under the key of the struct that they are errors of. -/
def KeyedErrors.under (key : String) (es : KeyedErrors) : KeyedErrors :=
  List.map (fun e => (key ++ "." ++ e.1, e.2)) es

/-- An outcome whose errors by key go under the key of a struct. -/
def Outcome.under (key : String) : Outcome → Outcome
  | .error (.fields es) => .error (.fields (KeyedErrors.under key es))
  | o => o

namespace KeyedErrors

theorem present_under (key : String) (es : KeyedErrors) :
    (es.under key).present = es.present.under key := by
  rw [present, under, List.filter_map]
  rfl

theorem toOutcome_under (key : String) (es : KeyedErrors) :
    (es.under key).toOutcome = Outcome.under key es.toOutcome := by
  rw [toOutcome_eq, toOutcome_eq, present_under]
  cases es.present <;> rfl

theorem ofList_under (key : String) (ws : List (String × Option Error)) :
    ofList (under key ws) = (ofList ws).under key :=
  SortedEntries.insertAll_map (compare_append_left (key ++ ".")) id ws []

theorem toOutcome_inj {es fs : KeyedErrors} :
    es.toOutcome = fs.toOutcome ↔ es.present = fs.present := by
  constructor
  · intro h
    by_cases hes : es.present = []
    · rw [hes, toOutcome_eq_ok_iff.mp (h ▸ toOutcome_eq_ok_iff.mpr hes)]
    · have hf := toOutcome_eq_error_iff.mp (h ▸ toOutcome_eq_error_iff.mpr ⟨hes, rfl⟩)
      exact Error.fields.inj hf.2
  · intro h
    rw [toOutcome_eq, toOutcome_eq, h]

/-- Two lists of writes answer the same if they leave the same errors under each key. -/
theorem ofList_toOutcome_eq_iff {ws us : List (String × Option Error)} :
    (ofList ws).toOutcome = (ofList us).toOutcome ↔ ∀ key e,
      LastWith (fun w => w.1 = key) ws (key, some e) ↔
        LastWith (fun w => w.1 = key) us (key, some e) := by
  have hsorted (ws : List (String × Option Error)) : SortedEntries.Sorted (ofList ws).present :=
    SortedEntries.sorted_ofList.sublist List.filter_sublist
  have hmem (ws : List (String × Option Error)) (key : String) (e : Error) :
      (key, some e) ∈ (ofList ws).present ↔ LastWith (fun w => w.1 = key) ws (key, some e) := by
    rw [mem_present, mem_ofList]
    exact and_iff_left rfl
  rw [toOutcome_inj]
  constructor
  · intro h key e
    rw [← hmem, ← hmem, h]
  · intro h
    refine SortedEntries.eq_of_mem_iff (hsorted ws) (hsorted us) fun ⟨key, o⟩ => ?_
    cases o with
    | none => simp [mem_present]
    | some e => rw [hmem, hmem, h]

end KeyedErrors

namespace Value
variable {s : Value} {path key : String} {f : Field Value} {c : Context}
  {b : FieldBinding (List Rule)} {bindings : List (FieldBinding (List Rule))}

/-- The entries written for a field inside the struct at a key. Errors by key of an embedded
field are written as they are, without the key. -/
def entriesInside (key : String) (v : Value) (c : Context) (b : FieldBinding (List Rule)) :
    List (String × Option Error) :=
  match v.resolve? b.path with
  | none => []
  | some (f, name) =>
    match (Rule.validate b.rules c f.value).outcome with
    | .ok () => []
    | .error e => entriesOf f.embedded (key ++ "." ++ name) e

/-- Under each key the same error is left as if all entries had been written under the key
of the struct. -/
def KeepsPlace (key : String) (v : Value) (c : Context)
    (bindings : List (FieldBinding (List Rule))) : Prop :=
  ∀ name e, LastWith (fun w => w.1 = name) (bindings.flatMap (v.entriesInside key c))
      (name, some e) ↔
    LastWith (fun w => w.1 = name) (KeyedErrors.under key (bindings.flatMap (v.fieldEntries c)))
      (name, some e)

section Resolved
variable (hp : s.resolve? path = some (f, key))
include hp

theorem resolve?_inside : s.resolve? (b.inside path).path =
    (f.value.resolve? b.path).map fun t => (t.1, key ++ "." ++ t.2) := by
  rw [FieldBinding.inside, resolve?_append, hp, Option.bind_some]

theorem fieldOutcome?_inside : s.fieldOutcome? c (b.inside path) = f.value.fieldOutcome? c b := by
  rw [fieldOutcome?, resolve?_inside hp, Option.map_map]
  rfl

theorem fieldEntries_inside :
    s.fieldEntries c (b.inside path) = f.value.entriesInside key c b := by
  rw [fieldEntries, resolve?_inside hp, entriesInside]
  cases f.value.resolve? b.path <;> rfl

end Resolved

theorem entriesOf_under (embedded : Bool) (name : String) {e : Error}
    (h : embedded = true → ∀ es, e = .fields es → es = []) :
    entriesOf embedded (key ++ "." ++ name) e =
      KeyedErrors.under key (entriesOf embedded name e) := by
  cases e with
  | fields es =>
    cases embedded with
    | false => rfl
    | true =>
      obtain rfl := h rfl es rfl
      rfl
  | violation _ | internal _ => rfl

/-- Only embedded fields that fail with errors by key write these without the key. -/
theorem keepsPlace_of_embedded {v : Value}
    (h : ∀ b ∈ bindings, ∀ g name, v.resolve? b.path = some (g, name) → g.embedded = true →
      ∀ es, (Rule.validate b.rules c g.value).outcome = .error (.fields es) → es = []) :
    v.KeepsPlace key c bindings := by
  have hentries : ∀ b ∈ bindings,
      v.entriesInside key c b = KeyedErrors.under key (v.fieldEntries c b) := by
    intro b hb
    rw [entriesInside, fieldEntries]
    cases ht : v.resolve? b.path with
    | none => rfl
    | some t =>
      obtain ⟨g, name⟩ := t
      dsimp only
      cases ho : (Rule.validate b.rules c g.value).outcome with
      | ok u => rfl
      | error e =>
        refine entriesOf_under g.embedded name fun hg es he => ?_
        exact h b hb g name ht hg es (he ▸ ho)
  intro name e
  rw [List.flatMap_congr hentries, KeyedErrors.under, List.map_flatMap]
  rfl

end Value

section Inside
variable {s : Value} {path key : String} {f : Field Value} {c : Context}
  {bindings : List (FieldBinding (List Rule))}
variable (hp : s.resolve? path = some (f, key)) (hf : f.value.kind = .struct)
include hp hf

private theorem validateStruct_inside_internal_iff {fault : Fault Error} :
    (Rule.validateStruct (bindings.map fun b => b.inside path) c s).outcome =
        .error (.internal fault) ↔
      (Rule.validateStruct bindings c f.value).outcome = .error (.internal fault) := by
  have hbound : s.boundOutcome c ∘ Prod.map (fun b => b.inside path) id =
      f.value.boundOutcome c := by
    funext p
    simp only [Function.comp_apply, Prod.map, id_eq, Value.boundOutcome,
      Value.fieldOutcome?_inside hp]
  rw [validateStruct_internal_iff (Value.kind_of_resolve? hp), validateStruct_internal_iff hf,
    List.zipIdx_map, List.map_map, hbound]

private theorem validateStruct_inside_iff_of_not_internal
    (h : ∀ fault, (Rule.validateStruct bindings c f.value).outcome ≠ .error (.internal fault)) :
    (Rule.validateStruct (bindings.map fun b => b.inside path) c s).outcome =
        Outcome.under key (Rule.validateStruct bindings c f.value).outcome ↔
      f.value.KeepsPlace key c bindings := by
  have hs := Value.kind_of_resolve? hp
  have hinner := resolves_of_not_internal hf h
  have houter := resolves_of_not_internal hs fun fault =>
    (validateStruct_inside_internal_iff hp hf).not.mpr (h fault)
  have hentries : (bindings.map fun b => b.inside path).flatMap (s.fieldEntries c) =
      bindings.flatMap (f.value.entriesInside key c) := by
    rw [List.flatMap_map]
    exact List.flatMap_congr fun b _ => Value.fieldEntries_inside hp
  rw [validateStruct_outcome hs houter.1 houter.2, validateStruct_outcome hf hinner.1 hinner.2,
    hentries, ← KeyedErrors.toOutcome_under, ← KeyedErrors.ofList_under,
    KeyedErrors.ofList_toOutcome_eq_iff]
  rfl

/-- Bindings of fields inside a struct at a path end in the same internal errors as bindings of
the struct itself. They answer the same under its key in just those cases where errors by key of
embedded fields change none of the answer for being written without that key. -/
theorem validateStruct_inside_eq_under_iff :
    (∀ fault, (Rule.validateStruct (bindings.map fun b => b.inside path) c s).outcome =
        .error (.internal fault) ↔
      (Rule.validateStruct bindings c f.value).outcome = .error (.internal fault)) ∧
    ((Rule.validateStruct (bindings.map fun b => b.inside path) c s).outcome =
        Outcome.under key (Rule.validateStruct bindings c f.value).outcome ↔
      (∃ fault, (Rule.validateStruct bindings c f.value).outcome = .error (.internal fault)) ∨
        f.value.KeepsPlace key c bindings) ∧
    ((∀ b ∈ bindings, ∀ g name, f.value.resolve? b.path = some (g, name) → g.embedded = true →
        ∀ es, (Rule.validate b.rules c g.value).outcome = .error (.fields es) → es = []) →
      (Rule.validateStruct (bindings.map fun b => b.inside path) c s).outcome =
        Outcome.under key (Rule.validateStruct bindings c f.value).outcome) := by
  have hinternal (fault : Fault Error) :
      (Rule.validateStruct (bindings.map fun b => b.inside path) c s).outcome =
          .error (.internal fault) ↔
        (Rule.validateStruct bindings c f.value).outcome = .error (.internal fault) :=
    validateStruct_inside_internal_iff hp hf
  have hiff : (Rule.validateStruct (bindings.map fun b => b.inside path) c s).outcome =
        Outcome.under key (Rule.validateStruct bindings c f.value).outcome ↔
      (∃ fault, (Rule.validateStruct bindings c f.value).outcome = .error (.internal fault)) ∨
        f.value.KeepsPlace key c bindings := by
    by_cases h : ∃ fault, (Rule.validateStruct bindings c f.value).outcome =
        .error (.internal fault)
    · obtain ⟨fault, hfault⟩ := h
      refine iff_of_true ?_ (.inl ⟨fault, hfault⟩)
      rw [(hinternal fault).mpr hfault, hfault]
      rfl
    · rw [validateStruct_inside_iff_of_not_internal hp hf (not_exists.mp h), or_iff_right h]
  exact ⟨hinternal, hiff, fun h => hiff.mpr (.inr (Value.keepsPlace_of_embedded h))⟩

end Inside

/-- The errors of a blank field and of an embedded struct go under the key of their struct. -/
theorem validateStruct_inside_eq_under_iff_of_embedded_violation :
    let deep : Value := .struct "Deep" [] (some fun _ => .fail (.violation (.plain "c" "m")))
    let f : Field Value := ⟨"In", some "in", false, .struct "Inner"
      [⟨"A", none, false, .text ""⟩, ⟨"E", none, true, deep⟩] none⟩
    let s : Value := .struct "Outer" [f] none
    let bindings : List (FieldBinding (List Rule)) := [⟨"A", [.leaf .required]⟩, ⟨"E", []⟩]
    s.resolve? "In" = some (f, "in") ∧ f.value.kind = .struct ∧
      (∀ b ∈ bindings, ∀ g name, f.value.resolve? b.path = some (g, name) → g.embedded = true →
        ∀ es, (Rule.validate b.rules .background g.value).outcome = .error (.fields es) →
          es = []) ∧
      (Rule.validateStruct (bindings.map fun b => b.inside "In") .background s).outcome =
        Outcome.under "in" (Rule.validateStruct bindings .background f.value).outcome ∧
      (Rule.validateStruct bindings .background f.value).outcome =
        .error (.fields [("A", some (.violation Leaf.required.template)),
          ("E", some (.violation (.plain "c" "m")))]) := by
  intro deep f s bindings
  have hp : s.resolve? "In" = some (f, "in") := by
    subst s f
    rfl
  have hA : f.value.resolve? "A" = some (⟨"A", none, false, .text ""⟩, "A") := by
    subst f
    rfl
  have hE : f.value.resolve? "E" = some (⟨"E", none, true, deep⟩, "E") := by
    subst f
    rfl
  have hdeep : (Rule.validate [] .background deep).outcome =
      .error (.violation (.plain "c" "m")) := by
    subst deep
    rfl
  have hplain : ∀ b ∈ bindings, ∀ g name, f.value.resolve? b.path = some (g, name) →
      g.embedded = true → ∀ es,
        (Rule.validate b.rules .background g.value).outcome = .error (.fields es) → es = [] := by
    intro b hb g name hg hembedded es hes
    rcases List.mem_pair.mp hb with rfl | rfl
    · cases hA.symm.trans hg
      cases hembedded
    · cases hE.symm.trans hg
      cases hdeep.symm.trans hes
  have hinner : (Rule.validateStruct bindings .background f.value).outcome =
      .error (.fields [("A", some (.violation Leaf.required.template)),
        ("E", some (.violation (.plain "c" "m")))]) := by
    subst bindings f deep
    rfl
  exact ⟨hp, rfl, hplain, (validateStruct_inside_eq_under_iff hp rfl).2.2 hplain, hinner⟩

/-- The errors by key of an embedded struct are written without the key of its struct. -/
theorem validateStruct_inside_loses_key :
    let blank : Error := .violation Leaf.required.template
    let fields : List (Field Value) := [⟨"A", none, false, .text ""⟩]
    let deep : Value := .struct "Deep" fields (some fun c =>
      Rule.validateStruct [⟨"A", [.leaf .required]⟩] c (.struct "Deep" fields none))
    let f : Field Value := ⟨"In", none, false, .struct "Inner" [⟨"E", none, true, deep⟩] none⟩
    let s : Value := .struct "Outer" [f] none
    let bindings : List (FieldBinding (List Rule)) := [⟨"E", []⟩]
    s.resolve? "In" = some (f, "In") ∧ f.value.kind = .struct ∧
      (Rule.validateStruct (bindings.map fun b => b.inside "In") .background s).outcome =
        .error (.fields [("A", some blank)]) ∧
      Outcome.under "In" (Rule.validateStruct bindings .background f.value).outcome =
        .error (.fields [("In.A", some blank)]) ∧
      (Rule.validateStruct (bindings.map fun b => b.inside "In") .background s).outcome ≠
        Outcome.under "In" (Rule.validateStruct bindings .background f.value).outcome := by
  intro blank fields deep f s bindings
  have hp : s.resolve? "In" = some (f, "In") := by
    subst s f
    rfl
  have houter : (Rule.validateStruct (bindings.map fun b => b.inside "In") .background s).outcome =
      .error (.fields [("A", some blank)]) := by
    subst bindings s f deep
    rfl
  have hinner : Outcome.under "In" (Rule.validateStruct bindings .background f.value).outcome =
      .error (.fields [("In.A", some blank)]) := by
    subst bindings f deep
    rfl
  refine ⟨hp, rfl, houter, hinner, fun h => ?_⟩
  have hkeys := houter.symm.trans (h.trans hinner)
  simp at hkeys

end Verdict
