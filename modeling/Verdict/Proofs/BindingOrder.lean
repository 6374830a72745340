import Verdict.Proofs.MapOutcome
import Verdict.Proofs.StructOutcome

/-! The order of bindings. Where no two of them write the same key, each key holds what its one
binding wrote, in whatever order they were gone through. -/
namespace Verdict

/-- Of parts that do not share a property, a last item with it is the last of its own part. -/
theorem LastWith.flatMap_iff {α β : Type} {p : α → Prop} {f : β → List α} {bs : List β} {x : α}
    (h : ∀ a ∈ bs, ∀ b ∈ bs, a ≠ b → ∀ y ∈ f a, p y → ∀ z ∈ f b, ¬ p z) :
    LastWith p (bs.flatMap f) x ↔ ∃ b ∈ bs, LastWith p (f b) x := by
  induction bs with
  | nil => simp
  | cons b bs ih =>
    have hrest := ih fun a ha d hd => h a (.tail b ha) d (.tail b hd)
    rw [List.flatMap_cons, append_iff, hrest]
    constructor
    · rintro (⟨d, hd, hl⟩ | ⟨hl, _⟩)
      · exact ⟨d, .tail b hd, hl⟩
      · exact ⟨b, List.mem_cons_self, hl⟩
    · rintro ⟨d, hd, hl⟩
      rcases List.mem_cons.mp hd with rfl | hd
      · by_cases hbs : d ∈ bs
        · exact .inl ⟨d, hbs, hl⟩
        · refine .inr ⟨hl, fun z hz => ?_⟩
          obtain ⟨a, ha, hz⟩ := List.mem_flatMap.mp hz
          have hne : d ≠ a := fun he => hbs (he ▸ ha)
          exact h d List.mem_cons_self a (.tail d ha) hne x hl.mem hl.holds z hz
      · exact .inl ⟨d, hd, hl⟩

namespace KeyedErrors
variable {α : Type} {f : α → List (String × Option Error)} {xs ys : List α}

private theorem mem_ofList_flatMap
    (hd : ∀ a ∈ xs, ∀ b ∈ xs, a ≠ b → ((f a).map Prod.fst).Disjoint ((f b).map Prod.fst))
    (later : List (String × Option Error)) {key : String} {o : Option Error} :
    (key, o) ∈ ofList (xs.flatMap f ++ later) ↔
      LastWith (fun w => w.1 = key) later (key, o) ∨
        (∃ x ∈ xs, LastWith (fun w => w.1 = key) (f x) (key, o)) ∧
          ∀ w ∈ later, w.1 ≠ key := by
  rw [mem_ofList, LastWith.append_iff, LastWith.flatMap_iff]
  rintro a ha b hb hne y hy rfl z hz heq
  exact hd a ha b hb hne (List.mem_map_of_mem hy) (heq ▸ List.mem_map_of_mem hz)

/-- Writes of different keys may be made in any order. -/
theorem ofList_flatMap_perm (hp : xs.Perm ys)
    (hd : ∀ a ∈ xs, ∀ b ∈ xs, a ≠ b → ((f a).map Prod.fst).Disjoint ((f b).map Prod.fst))
    (later : List (String × Option Error)) :
    ofList (xs.flatMap f ++ later) = ofList (ys.flatMap f ++ later) := by
  have hd' : ∀ a ∈ ys, ∀ b ∈ ys, a ≠ b → ((f a).map Prod.fst).Disjoint ((f b).map Prod.fst) :=
    fun a ha b hb => hd a (hp.mem_iff.mpr ha) b (hp.mem_iff.mpr hb)
  apply SortedEntries.eq_of_mem_iff
  · exact SortedEntries.sorted_ofList
  · exact SortedEntries.sorted_ofList
  · rintro ⟨key, o⟩
    rw [mem_ofList_flatMap hd, mem_ofList_flatMap hd']
    simp only [hp.mem_iff]

end KeyedErrors

/-- Bound fields that exist, that end in no internal errors, and that write different keys
unless their bindings are the same. -/
structure Value.Unconflicted (v : Value) (c : Context)
    (bindings : List (FieldBinding (List Rule))) : Prop where
  resolves : ∀ b ∈ bindings, (v.resolve? b.path).isSome
  settled : ∀ b ∈ bindings, ∀ fault, v.fieldOutcome? c b ≠ some (.error (.internal fault))
  disjoint : ∀ a ∈ bindings, ∀ b ∈ bindings, a ≠ b →
    ((v.fieldEntries c a).map Prod.fst).Disjoint ((v.fieldEntries c b).map Prod.fst)

/-- Bound keys of different texts, none of whose entries end in internal errors. -/
structure KeyBinding.Unconflicted (kind : KeyKind) (entries : List (MapKey × Value)) (c : Context)
    (bindings : List (KeyBinding (List Rule))) : Prop where
  distinct : (bindings.map fun b => b.key.render).Nodup
  settled : ∀ b ∈ bindings, ∀ key v fault, b.key.coerce? kind = some key →
    SortedEntries.get? key entries = some v →
      (Rule.validate b.rules c v).outcome ≠ .error (.internal fault)

theorem Value.Unconflicted.validateStruct_perm {v : Value} {c : Context}
    {bindings bindings' : List (FieldBinding (List Rule))} (h : v.Unconflicted c bindings)
    (hs : v.kind = .struct) (hp : bindings.Perm bindings') :
    (Rule.validateStruct bindings c v).outcome = (Rule.validateStruct bindings' c v).outcome := by
  have hres : ∀ b ∈ bindings', (v.resolve? b.path).isSome :=
    fun b hb => h.resolves b (hp.mem_iff.mpr hb)
  have hint : ∀ b ∈ bindings', ∀ fault, v.fieldOutcome? c b ≠ some (.error (.internal fault)) :=
    fun b hb => h.settled b (hp.mem_iff.mpr hb)
  have hwrites := KeyedErrors.ofList_flatMap_perm hp h.disjoint []
  rw [List.append_nil, List.append_nil] at hwrites
  rw [validateStruct_outcome hs h.resolves h.settled, validateStruct_outcome hs hres hint, hwrites]

namespace KeyBinding
variable {kind : KeyKind} {entries : List (MapKey × Value)} {c : Context}
  {bindings bindings' : List (KeyBinding (List Rule))} {allowExtra : Bool}

/-- What is written for a bound key, if it fails. -/
private def written (kind : KeyKind) (entries : List (MapKey × Value)) (c : Context)
    (b : KeyBinding (List Rule)) : Option (String × Option Error) :=
  (b.item.check kind entries c).error?.map fun e => (b.key.render, some e)

private theorem check_map_outcome_of_written (h : Unconflicted kind entries c bindings) :
    ((Rule.map bindings allowExtra).check c (.map kind entries)).outcome =
      (KeyedErrors.ofList (bindings.flatMap (fun b => (written kind entries c b).toList) ++
        (extras kind entries bindings allowExtra).map fun k =>
          (k.render, some (.violation unexpected)))).toOutcome := by
  rw [check_map_outcome, collect_underKey_outcome (items_not_internal h.settled allowExtra),
    List.filterMap_append, List.filterMap_map, List.filterMap_map,
    ← List.filterMap_eq_flatMap_toList, ← List.filterMap_eq_map]
  rfl

private theorem extras_perm (hp : bindings.Perm bindings') :
    extras kind entries bindings allowExtra = extras kind entries bindings' allowExtra := by
  simp only [extras, undeclared, hp.any_eq]

private theorem written_disjoint (h : Unconflicted kind entries c bindings) :
    ∀ a ∈ bindings, ∀ b ∈ bindings, a ≠ b →
      ((written kind entries c a).toList.map Prod.fst).Disjoint
        ((written kind entries c b).toList.map Prod.fst) := by
  have hkey {b : KeyBinding (List Rule)} {s : String}
      (hs : s ∈ (written kind entries c b).toList.map Prod.fst) : s = b.key.render := by
    obtain ⟨w, hw, rfl⟩ := List.mem_map.mp hs
    obtain ⟨e, _, rfl⟩ := Option.map_eq_some_iff.mp (Option.mem_toList.mp hw)
    rfl
  intro a ha b hb hne s hsa hsb
  exact hne (List.inj_on_of_nodup_map h.distinct ha hb ((hkey hsa).symm.trans (hkey hsb)))

theorem Unconflicted.map_perm (h : Unconflicted kind entries c bindings)
    (hp : bindings.Perm bindings') :
    ((Rule.map bindings allowExtra).check c (.map kind entries)).outcome =
      ((Rule.map bindings' allowExtra).check c (.map kind entries)).outcome := by
  have h' : Unconflicted kind entries c bindings' :=
    ⟨(hp.map _).nodup_iff.mp h.distinct, fun b hb => h.settled b (hp.mem_iff.mpr hb)⟩
  rw [check_map_outcome_of_written h, check_map_outcome_of_written h', extras_perm hp,
    KeyedErrors.ofList_flatMap_perm hp (written_disjoint h)]

end KeyBinding

/-- Without conflicts the order of the bindings is not to be told from the outcome, for the
fields of a struct nor for the keys of a map. -/
theorem outcome_of_perm (c : Context) :
    (∀ (v : Value) (bindings bindings' : List (FieldBinding (List Rule))), v.kind = .struct →
      v.Unconflicted c bindings → bindings.Perm bindings' →
        (Rule.validateStruct bindings c v).outcome =
          (Rule.validateStruct bindings' c v).outcome) ∧
    ∀ (kind : KeyKind) (entries : List (MapKey × Value))
      (bindings bindings' : List (KeyBinding (List Rule))) (allowExtra : Bool),
      KeyBinding.Unconflicted kind entries c bindings → bindings.Perm bindings' →
        ((Rule.map bindings allowExtra).check c (.map kind entries)).outcome =
          ((Rule.map bindings' allowExtra).check c (.map kind entries)).outcome :=
  ⟨fun _ _ _ hs h hp => h.validateStruct_perm hs hp, fun _ _ _ _ _ h hp => h.map_perm hp⟩

/-- A blank field and an embedded struct whose errors have an absent entry, and two keys of a
map, in either order. -/
theorem outcome_of_perm_of_two :
    let inner : Error := .fields [("B", some (.violation (.plain "c" "m"))), ("C", none)]
    let v : Value := .struct "S" [⟨"A", none, false, .text ""⟩,
      ⟨"E", none, true, .struct "T" [] (some fun _ => .fail inner)⟩] none
    let a : FieldBinding (List Rule) := ⟨"A", [.leaf .required]⟩
    let e : FieldBinding (List Rule) := ⟨"E", []⟩
    let k : KeyBinding (List Rule) := ⟨.text "k", [.leaf .notNil], false⟩
    let l : KeyBinding (List Rule) := ⟨.int 1, [], false⟩
    let entries : List (MapKey × Value) := [(.text "k", .nil)]
    (v.kind = .struct ∧ v.Unconflicted .background [a, e] ∧
      (Rule.validateStruct [a, e] .background v).outcome = .error (.fields
        [("A", some (.violation Leaf.required.template)),
          ("B", some (.violation (.plain "c" "m")))]) ∧
      (Rule.validateStruct [a, e] .background v).outcome =
        (Rule.validateStruct [e, a] .background v).outcome) ∧
    KeyBinding.Unconflicted .text entries .background [k, l] ∧
      ((Rule.map [k, l] false).check .background (.map .text entries)).outcome = .error (.fields
        [("1", some (.violation KeyBinding.wrongType)),
          ("k", some (.violation Leaf.notNil.template))]) ∧
      ((Rule.map [k, l] false).check .background (.map .text entries)).outcome =
        ((Rule.map [l, k] false).check .background (.map .text entries)).outcome := by
  intro inner v a e k l entries
  have ha : v.fieldOutcome? .background a =
      some (.error (.violation Leaf.required.template)) := by
    subst v a
    rfl
  have he : v.fieldOutcome? .background e = some (.error inner) := by
    subst v e
    rfl
  have hwa : (v.fieldEntries .background a).map Prod.fst = ["A"] := by
    subst v a
    rfl
  have hwe : (v.fieldEntries .background e).map Prod.fst = ["B", "C"] := by
    subst v e
    rfl
  have hv : v.Unconflicted .background [a, e] := by
    refine ⟨?_, ?_, ?_⟩
    · simpa using ⟨by subst v a; rfl, by subst v e; rfl⟩
    · simp [ha, he, inner]
    · intro x hx y hy hne
      rcases List.mem_pair.mp hx with rfl | rfl <;> rcases List.mem_pair.mp hy with rfl | rfl
      · exact absurd rfl hne
      · rw [hwa, hwe]
        simp
      · rw [hwa, hwe]
        simp
      · exact absurd rfl hne
  have hm : KeyBinding.Unconflicted .text entries .background [k, l] := by
    refine ⟨by decide, ?_⟩
    intro b hb key u fault form found
    rcases List.mem_pair.mp hb with rfl | rfl
    · cases form
      cases found
      rintro ⟨⟩
    · cases form
  obtain ⟨hstruct, hmap⟩ := outcome_of_perm .background
  exact ⟨⟨rfl, hv, by subst v a e; rfl, hstruct v _ _ rfl hv (.swap e a [])⟩, hm, by
    subst entries k l; rfl, hmap .text entries _ _ false hm (.swap l k [])⟩

end Verdict
