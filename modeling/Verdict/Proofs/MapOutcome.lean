import Verdict.Proofs.CollectedErrors
import Verdict.Proofs.CompositionalRuns
import Verdict.Proofs.MapKeyForms

/-! What the validation of a map answers: the undeclared keys, and for each other key text the
last of the bound keys that fail. -/
namespace Verdict

namespace KeyBinding
variable (kind : KeyKind) (entries : List (MapKey × Value)) (c : Context)

/-- The entry of a bound key is valid, or may be missing. -/
inductive Passes (b : KeyBinding (List Rule)) : Prop
  | present {key : MapKey} {v : Value} (form : b.key.coerce? kind = some key)
      (found : SortedEntries.get? key entries = some v)
      (valid : (Rule.validate b.rules c v).outcome = .ok ())
  | absent {key : MapKey} (form : b.key.coerce? kind = some key)
      (gone : SortedEntries.get? key entries = none) (optional : b.optional = true)

/-- A bound key fails with an error. -/
inductive Fails (b : KeyBinding (List Rule)) : Error → Prop
  | wrongType (form : b.key.coerce? kind = none) : Fails b (.violation wrongType)
  | missing {key : MapKey} (form : b.key.coerce? kind = some key)
      (gone : SortedEntries.get? key entries = none) (required : b.optional = false) :
      Fails b (.violation missing)
  | entry {key : MapKey} {v : Value} {e : Error} (form : b.key.coerce? kind = some key)
      (found : SortedEntries.get? key entries = some v)
      (invalid : (Rule.validate b.rules c v).outcome = .error e) : Fails b e

variable {kind entries c} {b : KeyBinding (List Rule)} {e : Error}

/-- The item that a binding is gone through as. -/
def item (b : KeyBinding (List Rule)) : KeyItem :=
  .bound ⟨b.key, Rule.validate b.rules, b.optional⟩

private theorem check_wrongType (form : b.key.coerce? kind = none) :
    (b.item.check kind entries c).outcome = .error (.violation KeyBinding.wrongType) := by
  simp only [item, KeyItem.check, check, form]
  rfl

private theorem check_present {key : MapKey} {v : Value} (form : b.key.coerce? kind = some key)
    (found : SortedEntries.get? key entries = some v) :
    (b.item.check kind entries c).outcome = (Rule.validate b.rules c v).outcome := by
  simp only [item, KeyItem.check, check, form, found, Run.reportAbort_outcome]

private theorem check_absent {key : MapKey} (form : b.key.coerce? kind = some key)
    (gone : SortedEntries.get? key entries = none) :
    (b.item.check kind entries c).outcome =
      if b.optional then .ok () else .error (.violation KeyBinding.missing) := by
  simp only [item, KeyItem.check, check, form, gone]
  split <;> rfl

private theorem check_ok_iff :
    (b.item.check kind entries c).outcome = .ok () ↔ b.Passes kind entries c := by
  constructor
  · intro h
    cases form : b.key.coerce? kind with
    | none => rw [check_wrongType form] at h; cases h
    | some key =>
      cases found : SortedEntries.get? key entries with
      | some v => exact .present form found (check_present form found ▸ h)
      | none => exact .absent form found (by simpa [check_absent form found] using h)
  · intro h
    cases h with
    | present form found valid => rw [check_present form found, valid]
    | absent form gone optional => rw [check_absent form gone, if_pos optional]

private theorem check_error_iff :
    (b.item.check kind entries c).outcome = .error e ↔ b.Fails kind entries c e := by
  constructor
  · intro h
    cases form : b.key.coerce? kind with
    | none =>
      rw [check_wrongType form] at h
      cases h
      exact .wrongType form
    | some key =>
      cases found : SortedEntries.get? key entries with
      | some v => exact .entry form found (check_present form found ▸ h)
      | none =>
        obtain ⟨ho, rfl⟩ : b.optional = false ∧ .violation KeyBinding.missing = e := by
          simpa [check_absent form found, ite_eq_iff] using h
        exact .missing form found ho
  · intro h
    cases h with
    | wrongType form => exact check_wrongType form
    | missing form gone required => rw [check_absent form gone, required]; rfl
    | entry form found invalid => rw [check_present form found, invalid]

theorem passes_iff_not_fails : b.Passes kind entries c ↔ ¬ ∃ e, b.Fails kind entries c e := by
  simp only [← check_ok_iff, ← check_error_iff]
  cases (b.item.check kind entries c).outcome <;> simp

/-- A key of the map that must be bound, but is not. -/
def Undeclared (kind : KeyKind) (entries : List (MapKey × Value))
    (bindings : List (KeyBinding (List Rule))) (allowExtra : Bool) (k : MapKey) : Prop :=
  allowExtra = false ∧ k ∈ entries.map Prod.fst ∧ ∀ b ∈ bindings, b.key.coerce? kind ≠ some k

/-- The errors of a map by the text of its keys: what is undeclared stands before what fails. -/
structure Reports (kind : KeyKind) (entries : List (MapKey × Value)) (c : Context)
    (bindings : List (KeyBinding (List Rule))) (allowExtra : Bool) (es : KeyedErrors) : Prop where
  sorted : SortedEntries.Sorted es
  keys : ∀ s, s ∈ es.map Prod.fst ↔
    (∃ k, Undeclared kind entries bindings allowExtra k ∧ k.render = s) ∨
      ∃ b ∈ bindings, b.key.render = s ∧ ∃ e, b.Fails kind entries c e
  unexpected : ∀ k, Undeclared kind entries bindings allowExtra k →
    ∀ o, (k.render, o) ∈ es ↔ o = some (.violation unexpected)
  failed : ∀ s, (∀ k, Undeclared kind entries bindings allowExtra k → k.render ≠ s) →
    ∀ o, (s, o) ∈ es ↔ ∃ b e, o = some e ∧ b.Fails kind entries c e ∧
      LastWith (fun b => b.key.render = s ∧ ∃ e, b.Fails kind entries c e) bindings b

section Items
variable {bindings : List (KeyBinding (List Rule))} {allowExtra : Bool} {k : MapKey} {s : String}

/-- The keys that are reported as undeclared. -/
def extras (kind : KeyKind) (entries : List (MapKey × Value))
    (bindings : List (KeyBinding (List Rule))) (allowExtra : Bool) : List MapKey :=
  if allowExtra then [] else undeclared kind entries bindings

private theorem mem_extras : k ∈ extras kind entries bindings allowExtra ↔
    Undeclared kind entries bindings allowExtra k := by
  cases allowExtra with
  | true => simp [extras, Undeclared]
  | false => simp [extras, undeclared, Undeclared]

theorem check_map_outcome :
    ((Rule.map bindings allowExtra).check c (.map kind entries)).outcome =
      (collect false (underKey KeyItem.label) (KeyItem.check kind entries c) []
        (bindings.map item ++ (extras kind entries bindings allowExtra).map .extra)).outcome := by
  rw [Rule.check_map, Check.mapKeys, Run.after_outcome, List.map_map]
  simp only [undeclared, List.any_map]
  rfl

private theorem extra_fails (k : MapKey) : (KeyItem.check kind entries c (.extra k)).outcome =
    .error (.violation KeyBinding.unexpected) := rfl

private theorem item_failing_iff (b : KeyBinding (List Rule)) :
    b.item.label = s ∧ (b.item.check kind entries c).outcome ≠ .ok () ↔
      b.key.render = s ∧ ∃ e, b.Fails kind entries c e := by
  rw [Ne, check_ok_iff, passes_iff_not_fails, not_not]
  rfl

private theorem extra_failing_iff :
    (KeyItem.extra k).label = s ∧ (KeyItem.check kind entries c (.extra k)).outcome ≠ .ok () ↔
      k.render = s := by
  rw [extra_fails]
  exact and_iff_left nofun

/-- The last failing item of a text is an undeclared key if there is one. -/
private theorem lastWith_items_iff {x : KeyItem} :
    LastWith (fun x => x.label = s ∧ (x.check kind entries c).outcome ≠ .ok ())
        (bindings.map item ++ (extras kind entries bindings allowExtra).map .extra) x ↔
      (∃ k, x = .extra k ∧
          LastWith (fun k => k.render = s) (extras kind entries bindings allowExtra) k) ∨
        (∃ b, x = b.item ∧
          LastWith (fun b => b.key.render = s ∧ ∃ e, b.Fails kind entries c e) bindings b) ∧
        ∀ k, Undeclared kind entries bindings allowExtra k → k.render ≠ s := by
  simp only [LastWith.append_iff, LastWith.map_iff, item_failing_iff, extra_failing_iff,
    List.forall_mem_map, mem_extras, eq_comm (a := x)]

private theorem exists_last_extra_iff :
    (∃ k, LastWith (fun k => k.render = s) (extras kind entries bindings allowExtra) k) ↔
      ∃ k, Undeclared kind entries bindings allowExtra k ∧ k.render = s := by
  simp only [LastWith.exists_iff, mem_extras]

private theorem last_error_iff {o : Option Error} :
    (∃ x e, o = some e ∧ (x.check kind entries c).outcome = .error e ∧
      LastWith (fun x => x.label = s ∧ (x.check kind entries c).outcome ≠ .ok ())
        (bindings.map item ++ (extras kind entries bindings allowExtra).map .extra) x) ↔
      (o = some (.violation unexpected) ∧
          ∃ k, Undeclared kind entries bindings allowExtra k ∧ k.render = s) ∨
        (∃ b e, o = some e ∧ b.Fails kind entries c e ∧
          LastWith (fun b => b.key.render = s ∧ ∃ e, b.Fails kind entries c e) bindings b) ∧
        ∀ k, Undeclared kind entries bindings allowExtra k → k.render ≠ s := by
  rw [← exists_last_extra_iff]
  constructor
  · rintro ⟨x, e, rfl, he, hl⟩
    rcases lastWith_items_iff.mp hl with ⟨k, rfl, hk⟩ | ⟨⟨b, rfl, hb⟩, hn⟩
    · cases he
      exact .inl ⟨rfl, k, hk⟩
    · exact .inr ⟨⟨b, e, rfl, check_error_iff.mp he, hb⟩, hn⟩
  · rintro (⟨rfl, k, hk⟩ | ⟨⟨b, e, rfl, he, hb⟩, hn⟩)
    · exact ⟨.extra k, _, rfl, rfl, lastWith_items_iff.mpr (.inl ⟨k, rfl, hk⟩)⟩
    · exact ⟨b.item, e, rfl, check_error_iff.mpr he,
        lastWith_items_iff.mpr (.inr ⟨⟨b, rfl, hb⟩, hn⟩)⟩

private theorem no_undeclared_iff :
    (∀ k, ¬ Undeclared kind entries bindings allowExtra k) ↔
      (allowExtra = false → ∀ k ∈ entries.map Prod.fst,
        ∃ b ∈ bindings, b.key.coerce? kind = some k) := by
  simp only [Undeclared, not_and, not_forall, not_not, exists_prop]
  exact ⟨fun h ha k => h k ha, fun h k ha => h ha k⟩

variable (hint : ∀ b ∈ bindings, ∀ key v fault, b.key.coerce? kind = some key →
  SortedEntries.get? key entries = some v →
    (Rule.validate b.rules c v).outcome ≠ .error (.internal fault))
include hint

theorem items_not_internal (allowExtra : Bool) :
    ∀ x ∈ bindings.map item ++ (extras kind entries bindings allowExtra).map .extra,
      ∀ e, (x.check kind entries c).outcome = .error e → e.isInternal = false := by
  intro x hx e he
  rcases List.mem_append.mp hx with hx | hx
  · obtain ⟨b, hb, rfl⟩ := List.mem_map.mp hx
    cases check_error_iff.mp he with
    | wrongType _ | missing _ _ _ => rfl
    | entry form found invalid =>
      cases e with
      | internal fault => exact absurd invalid (hint b hb _ _ fault form found)
      | violation _ | fields _ => rfl
  · obtain ⟨k, _, rfl⟩ := List.mem_map.mp hx
    cases he
    rfl

/-- A map passes if its bound keys do and none is undeclared, and otherwise answers what
stands against it, by the text of its keys. -/
theorem map_outcome :
    (((Rule.map bindings allowExtra).check c (.map kind entries)).outcome = .ok () ↔
      (∀ b ∈ bindings, b.Passes kind entries c) ∧
        (allowExtra = false → ∀ k ∈ entries.map Prod.fst,
          ∃ b ∈ bindings, b.key.coerce? kind = some k)) ∧
    (((Rule.map bindings allowExtra).check c (.map kind entries)).outcome ≠ .ok () →
      ∃ es, ((Rule.map bindings allowExtra).check c (.map kind entries)).outcome =
        .error (.fields es) ∧ Reports kind entries c bindings allowExtra es) := by
  have hi := items_not_internal hint allowExtra
  rw [check_map_outcome]
  refine ⟨?_, fun hf => ?_⟩
  · rw [collect_underKey_passes_iff hi, List.forall_mem_append, List.forall_mem_map,
      List.forall_mem_map, ← no_undeclared_iff]
    simp only [check_ok_iff, extra_fails, reduceCtorEq, mem_extras]
  · obtain ⟨es, ho, hsorted, hmem⟩ := collect_underKey_fails hi hf
    simp only [last_error_iff] at hmem
    refine ⟨es, ho, hsorted, fun s => ?_, fun k hk o => ?_, fun s hn o => ?_⟩
    · constructor
      · intro hs
        obtain ⟨⟨_, o⟩, hp, rfl⟩ := List.mem_map.mp hs
        rcases (hmem _ o).mp hp with ⟨_, hk⟩ | ⟨⟨b, e, _, he, hl⟩, _⟩
        · exact .inl hk
        · exact .inr ⟨b, hl.mem, hl.holds.1, e, he⟩
      · intro h
        -- Only where no undeclared key reads so does the last failing binding stand.
        by_cases hu : ∃ k, Undeclared kind entries bindings allowExtra k ∧ k.render = s
        · exact List.mem_map_of_mem ((hmem s _).mpr (.inl ⟨rfl, hu⟩))
        · obtain ⟨b, hb⟩ := LastWith.exists_iff.mpr (h.resolve_left hu)
          obtain ⟨e, he⟩ := hb.holds.2
          have hn := fun k hk hr => hu ⟨k, hk, hr⟩
          exact List.mem_map_of_mem ((hmem s _).mpr (.inr ⟨⟨b, e, rfl, he, hb⟩, hn⟩))
    · rw [hmem]
      exact ⟨fun h => h.elim And.left fun h => absurd rfl (h.2 k hk), fun h => .inl ⟨h, k, hk, rfl⟩⟩
    · rw [hmem]
      refine ⟨fun h => h.elim ?_ And.left, fun h => .inr ⟨h, hn⟩⟩
      rintro ⟨_, k, hk, hr⟩
      exact absurd hr (hn k hk)

end Items

/-- A key of another type, a blank entry, a missing key and an undeclared one are reported; an
optional key that is missing is not. -/
theorem map_outcome_of_four_failures :
    let entries : List (MapKey × Value) := [(.text "a", .nil), (.text "z", .nil)]
    let bindings : List (KeyBinding (List Rule)) := [⟨.int 1, [], false⟩,
      ⟨.text "a", [.leaf .required], false⟩, ⟨.text "b", [], true⟩, ⟨.text "c", [], false⟩]
    let o := ((Rule.map bindings false).check .background (.map .text entries)).outcome
    (∀ b ∈ bindings, ∀ key v fault, b.key.coerce? .text = some key →
        SortedEntries.get? key entries = some v →
          (Rule.validate b.rules .background v).outcome ≠ .error (.internal fault)) ∧
      o = .error (.fields [("1", some (.violation wrongType)),
        ("a", some (.violation Leaf.required.template)), ("c", some (.violation missing)),
        ("z", some (.violation unexpected))]) ∧
      (o = .ok () ↔ (∀ b ∈ bindings, b.Passes .text entries .background) ∧
        (false = false → ∀ k ∈ entries.map Prod.fst,
          ∃ b ∈ bindings, b.key.coerce? .text = some k)) ∧
      (o ≠ .ok () → ∃ es, o = .error (.fields es) ∧
        Reports .text entries .background bindings false es) := by
  intro entries bindings o
  have hint : ∀ b ∈ bindings, ∀ key v fault, b.key.coerce? .text = some key →
      SortedEntries.get? key entries = some v →
        (Rule.validate b.rules .background v).outcome ≠ .error (.internal fault) := by
    intro b hb key v fault form found
    simp only [bindings, List.mem_cons, List.not_mem_nil, or_false] at hb
    rcases hb with rfl | rfl | rfl | rfl
    · cases form
    · cases form
      cases found
      rintro ⟨⟩
    · cases form
      cases found
    · cases form
      cases found
  exact ⟨hint, by subst o bindings entries; rfl, map_outcome hint⟩

end KeyBinding
end Verdict
