import Mathlib
import Verdict.Proofs.EachOutcome
import Verdict.Proofs.TypedMaps
import Verdict.Values.ValueText

/-! Texts of the keys that a map holds side by side: which of them coincide, and what is lost
where a map becomes a document or a report under the texts of its keys. -/
namespace Verdict

namespace KeyMeaning

/-- The text of a key tells no more of it than what it stands for. -/
def render : KeyMeaning → String
  | .bool b => if b then "true" else "false"
  | .integer i => i.repr
  | .text s => s

private theorem letter_not_mem_decimal (i : Int) : 'e' ∉ i.repr.toList := by
  have hdigits (n : Nat) : 'e' ∉ n.repr.toList := by
    intro h
    rw [Nat.toList_repr] at h
    exact absurd (Nat.isDigit_of_mem_toDigits (by decide) (by decide) h) (by decide)
  rw [Int.repr_eq_if]
  split
  · exact hdigits _
  · simpa using hdigits _

private theorem bool_render_ne_integer (b : Bool) (i : Int) :
    (bool b).render ≠ (integer i).render := by
  intro h
  apply letter_not_mem_decimal i
  rw [← show (bool b).render = i.repr from h]
  cases b <;> decide

theorem render_eq_iff {a b : KeyMeaning} :
    a.render = b.render ↔ a = b ∨ a = .text b.render ∨ b = .text a.render := by
  constructor
  · intro h
    cases a with
    | text s => exact .inr (.inl (congrArg text h))
    | bool b' =>
      cases b with
      | text t => exact .inr (.inr (congrArg text h.symm))
      | bool c => cases b' <;> cases c <;> first | exact .inl rfl | exact absurd h (by decide)
      | integer j => exact absurd h (bool_render_ne_integer b' j)
    | integer i =>
      cases b with
      | text t => exact .inr (.inr (congrArg text h.symm))
      | bool c => exact absurd h.symm (bool_render_ne_integer c i)
      | integer j => exact .inl (congrArg integer (Int.repr_inj.mp h))
  · rintro (rfl | h | h)
    · rfl
    · rw [h]
      rfl
    · rw [h]
      rfl

end KeyMeaning

namespace MapKey
variable {kind : KeyKind} {k l : MapKey} {keys : List MapKey}

theorem render_meaning (k : MapKey) : k.meaning.render = k.render := by
  cases k <;> rfl

theorem meaning_eq_text_iff {s : String} : k.meaning = .text s ↔ k = .text s := by
  cases k <;> simp [meaning]

/-- Different keys of one text in a map of a kind: one of them is the text of the other, or both
represent one integer, which only maps of other keys store as they find it. -/
def Homograph (kind : KeyKind) (k l : MapKey) : Prop :=
  k = .text l.render ∨ l = .text k.render ∨
    (kind = .bool ∨ kind = .text) ∧ k.meaning = l.meaning

instance : Decidable (Homograph kind k l) := inferInstanceAs (Decidable (_ ∨ _ ∨ _ ∧ _))

theorem Homograph.render_eq (h : Homograph kind k l) : k.render = l.render := by
  rcases h with rfl | rfl | ⟨_, h⟩
  · rfl
  · rfl
  · rw [← render_meaning, h, render_meaning]

theorem Settled.render_eq_iff (hk : Settled kind k) (hl : Settled kind l) (hne : k ≠ l) :
    k.render = l.render ↔ Homograph kind k l := by
  refine ⟨fun h => ?_, Homograph.render_eq⟩
  rw [← render_meaning, ← render_meaning, KeyMeaning.render_eq_iff, meaning_eq_text_iff,
    meaning_eq_text_iff, render_meaning, render_meaning] at h
  rcases h with h | h | h
  · have hother : ¬ (kind = .any ∨ kind = .int ∨ kind = .uint) := fun hkind =>
      hne (hk.eq_of_meaning hkind hl h)
    have hkind : kind = .bool ∨ kind = .text := by cases kind <;> simp at hother ⊢
    exact .inr (.inr ⟨hkind, h⟩)
  · exact .inl h
  · exact .inr (.inl h)

/-- Keys that a map of a kind may hold without two of them sharing their text. -/
def Legible (kind : KeyKind) (keys : List MapKey) : Prop :=
  keys.Pairwise fun k l => ¬ Homograph kind k l

instance : Decidable (Legible kind keys) := inferInstanceAs (Decidable (keys.Pairwise _))

theorem nodup_texts_iff (hsettled : ∀ k ∈ keys, Settled kind k) (hnodup : keys.Nodup) :
    (keys.map render).Nodup ↔ Legible kind keys := by
  rw [List.Nodup, List.pairwise_map]
  constructor
  · intro h
    exact h.imp fun hne hhom => hne hhom.render_eq
  · intro h
    refine (List.pairwise_and_iff.mpr ⟨h, hnodup⟩).imp_of_mem fun hk hl hkl heq => ?_
    exact hkl.1 (((hsettled _ hk).render_eq_iff (hsettled _ hl) hkl.2).mp heq)

/-- Among keys of one kind the text tells the key. -/
theorem eq_of_render_eq (hkind : k.kind = l.kind) (h : k.render = l.render) : k = l := by
  cases k <;> cases l <;> cases hkind
  case bool.bool b c => cases b <;> cases c <;> first | rfl | exact absurd h (by decide)
  case int.int m n => exact congrArg int (Int64.toInt_inj.mp (Int.repr_inj.mp h))
  case uint.uint m n => exact congrArg uint (UInt64.toNat_inj.mp (Nat.repr_inj.mp h))
  case text.text s t => exact congrArg text h

theorem kind_of_coerced (hkind : kind ≠ .any) (h : k.coerce? kind = some k) : k.kind = kind := by
  cases kind <;> cases k <;> simp_all [coerce?, MapKey.kind]

/-- In a map of one kind of keys no two that are of this kind share their text. -/
theorem legible_of_coerced (hkind : kind ≠ .any) (h : ∀ k ∈ keys, k.coerce? kind = some k)
    (hnodup : keys.Nodup) : Legible kind keys := by
  refine hnodup.imp_of_mem fun {k l} hk hl hne hhom => hne ?_
  have hkl : k.kind = l.kind := by
    rw [kind_of_coerced hkind (h k hk), kind_of_coerced hkind (h l hl)]
  exact eq_of_render_eq hkl hhom.render_eq

end MapKey

/-- A store filled with errors alone answers all that it holds. -/
theorem KeyedErrors.toOutcome_ofList {ws : List (String × Option Error)} (hne : ws ≠ [])
    (hws : ∀ w ∈ ws, w.2.isSome) : (ofList ws).toOutcome = .error (.fields (ofList ws)) := by
  have hpresent : present (ofList ws) = ofList ws := by
    refine List.filter_eq_self.mpr fun p hp => hws p ?_
    exact (SortedEntries.mem_ofList.mp hp).mem
  refine toOutcome_eq_error_iff.mpr ⟨fun hnil => hne ?_, by rw [hpresent]⟩
  have hkeys : ((ofList ws).map Prod.fst).Perm (ws.map Prod.fst).dedup :=
    SortedEntries.keys_ofList_perm
  rw [← hpresent, hnil, List.map_nil, List.nil_perm, List.dedup_eq_nil] at hkeys
  exact List.map_eq_nil_iff.mp hkeys

/-- The errors found in the items of a list, each under the label of its item. -/
private theorem filterMap_error? {α : Type} (f : α → Option Error) (label : α → String)
    (xs : List α) : (xs.filterMap fun x => (f x).map fun e => (label x, some e)) =
      (xs.filter fun x => (f x).isSome).map fun x => (label x, f x) := by
  induction xs with
  | nil => rfl
  | cons x xs ih => cases h : f x <;> simp [h, ih]

namespace Value
variable {kind : KeyKind} {inserts entries : List (MapKey × Value)} {v : Value}

theorem jsonMembers_eq_map (entries : List (MapKey × Value)) :
    jsonMembers entries = entries.map fun e => (e.1.render, e.2.toJson) := by
  induction entries with
  | nil => rfl
  | cons e rest ih => rw [jsonMembers, ih, List.map_cons]

theorem nodup_keys_inserted : ((inserted kind inserts).map Prod.fst).Nodup :=
  SortedEntries.nodup_keys sorted_inserted

theorem settled_keys_inserted : ∀ k ∈ (inserted kind inserts).map Prod.fst,
    MapKey.Settled kind k := by
  intro k hk
  obtain ⟨e, he, rfl⟩ := List.mem_map.mp hk
  exact settled_inserted e he

/-- Keys that all have a form of the kind are stored in that form. -/
theorem coerced_keys_inserted (h : ∀ w ∈ inserts, (w.1.coerce? kind).isSome) :
    ∀ k ∈ (inserted kind inserts).map Prod.fst, k.coerce? kind = some k := by
  intro k hk
  obtain ⟨⟨_, v⟩, he, rfl⟩ := List.mem_map.mp hk
  rw [inserted_eq_ofList, SortedEntries.mem_ofList] at he
  obtain ⟨w, hw, heq⟩ := List.mem_map.mp he.mem
  obtain ⟨c, hc⟩ := Option.isSome_iff_exists.mp (h w hw)
  cases heq
  rw [MapKey.stored, hc, Option.getD_some]
  exact MapKey.coerce?_idem hc

/-- The document of a map has a member for every entry exactly if the texts of its keys differ. -/
theorem toJson_map_members (kind : KeyKind) (entries : List (MapKey × Value)) :
    ∃ members, (map kind entries).toJson = .object members ∧
      (members.length = entries.length ↔ (entries.map fun e => e.1.render).Nodup) := by
  have hlen : (SortedEntries.ofList (jsonMembers entries)).length = (jsonMembers entries).length ↔
      ((jsonMembers entries).map Prod.fst).Nodup := SortedEntries.length_ofList_eq_iff
  refine ⟨_, rfl, ?_⟩
  simpa [jsonMembers_eq_map, Function.comp_def] using hlen

variable {rules : List Rule} {c : Context}

/-- The entries of a map whose values do not pass. -/
def failingEntries (rules : List Rule) (c : Context) (entries : List (MapKey × Value)) :
    List (MapKey × Value) :=
  entries.filter fun e => (Rule.validate rules c e.2).error?.isSome

/-- The errors of values under the texts of their keys. -/
def errorsByText (rules : List Rule) (c : Context) (entries : List (MapKey × Value)) :
    KeyedErrors :=
  entries.map fun e => (e.1.render, (Rule.validate rules c e.2).error?)

theorem each_map_outcome
    (hi : ∀ e ∈ entries, ¬ (Rule.validate rules c e.2).outcome.isInternal) :
    ((Rule.each rules false).check c (map kind entries)).outcome =
      (KeyedErrors.ofList (errorsByText rules c (failingEntries rules c entries))).toOutcome := by
  have hnot : ∀ p ∈ (map kind entries).entries, ∀ e,
      (Rule.validate rules c p.2).outcome = .error e → e.isInternal = false := by
    intro p hp e ho
    obtain ⟨entry, hentry, rfl⟩ := List.mem_map.mp hp
    simpa [ho, Outcome.isInternal] using hi entry hentry
  calc ((Rule.each rules false).check c (map kind entries)).outcome
    _ = (collect false (underKey Prod.fst) (fun p => Rule.validate rules c p.2) []
          (map kind entries).entries).outcome := rfl
    _ = (KeyedErrors.ofList ((map kind entries).entries.filterMap fun p =>
          (Rule.validate rules c p.2).error?.map fun e => (p.1, some e))).toOutcome :=
      collect_underKey_outcome hnot
    _ = _ := by
      rw [Value.entries, List.filterMap_map]
      congr 2
      exact filterMap_error? (fun e : MapKey × Value => (Rule.validate rules c e.2).error?)
        (fun e => e.1.render) _

/-- What `each` reports of a map: nothing if all its values pass, and otherwise the errors of those
that fail, each of them exactly if the texts of their keys differ. -/
theorem each_map_report
    (hi : ∀ e ∈ entries, ¬ (Rule.validate rules c e.2).outcome.isInternal) :
    let outcome := ((Rule.each rules false).check c (map kind entries)).outcome
    let errors := errorsByText rules c (failingEntries rules c entries)
    (failingEntries rules c entries = [] → outcome = .ok ()) ∧
    (failingEntries rules c entries ≠ [] → ∃ es, outcome = .error (.fields es) ∧
      (es.Perm errors ↔ ((failingEntries rules c entries).map fun e => e.1.render).Nodup)) := by
  intro outcome errors
  have houtcome : outcome = (KeyedErrors.ofList errors).toOutcome := each_map_outcome hi
  refine ⟨fun hnone => ?_, fun hsome => ?_⟩
  · rw [houtcome, show errors = [] from congrArg (errorsByText rules c) hnone]
    rfl
  · have herrors : ∀ w ∈ errors, w.2.isSome := by
      intro w hw
      obtain ⟨e, he, rfl⟩ := List.mem_map.mp hw
      exact (List.mem_filter.mp he).2
    refine ⟨KeyedErrors.ofList errors, ?_, ?_⟩
    · rw [houtcome]
      exact KeyedErrors.toOutcome_ofList (by simpa [errors, errorsByText] using hsome) herrors
    · refine SortedEntries.ofList_perm_iff.trans ?_
      rw [show errors.map Prod.fst = (failingEntries rules c entries).map fun e => e.1.render by
        simp [errors, errorsByText]]

/-- Keys of a map share their text exactly if one of them is the text of another, or if they
represent one integer in a map for other keys. Exactly then entries are lost where the map becomes
a document, or where the errors of its values are reported. A map whose keys are all of its one
kind loses none. -/
theorem map_entries_kept_iff_legible (kind : KeyKind) (inserts : List (MapKey × Value)) :
    let v := mapOfList kind inserts
    let entries := inserted kind inserts
    let keys := entries.map Prod.fst
    (∀ k ∈ keys, ∀ l ∈ keys, k ≠ l → (k.render = l.render ↔ MapKey.Homograph kind k l)) ∧
    ((v.entries.map Prod.fst).Nodup ↔ MapKey.Legible kind keys) ∧
    (∃ members, v.toJson = .object members ∧
      (members.length = entries.length ↔ MapKey.Legible kind keys)) ∧
    (∀ rules c, (∀ e ∈ entries, ¬ (Rule.validate rules c e.2).outcome.isInternal) →
      let outcome := ((Rule.each rules false).check c v).outcome
      (failingEntries rules c entries = [] → outcome = .ok ()) ∧
      (failingEntries rules c entries ≠ [] → ∃ es, outcome = .error (.fields es) ∧
        (es.Perm (errorsByText rules c (failingEntries rules c entries)) ↔
          MapKey.Legible kind ((failingEntries rules c entries).map Prod.fst)))) ∧
    (kind ≠ .any → (∀ w ∈ inserts, (w.1.coerce? kind).isSome) → MapKey.Legible kind keys) := by
  intro v entries keys
  have hsettled : ∀ k ∈ keys, MapKey.Settled kind k := settled_keys_inserted
  have hnodup : keys.Nodup := nodup_keys_inserted
  have htexts : (entries.map fun e => e.1.render).Nodup ↔ MapKey.Legible kind keys := by
    rw [← MapKey.nodup_texts_iff hsettled hnodup, List.map_map]
    rfl
  refine ⟨fun k hk l hl hne => (hsettled k hk).render_eq_iff (hsettled l hl) hne, ?_, ?_, ?_, ?_⟩
  · rw [← htexts]
    simp [v, mapOfList, Value.entries, Function.comp_def, entries, inserted]
  · obtain ⟨members, hjson, hlen⟩ := toJson_map_members kind entries
    exact ⟨members, hjson, hlen.trans htexts⟩
  · intro rules c hi outcome
    obtain ⟨hnone, hsome⟩ := each_map_report hi
    refine ⟨hnone, fun hne => ?_⟩
    obtain ⟨es, ho, hperm⟩ := hsome hne
    have hsub : ((failingEntries rules c entries).map Prod.fst).Sublist keys :=
      List.filter_sublist.map _
    refine ⟨es, ho, hperm.trans ?_⟩
    rw [← MapKey.nodup_texts_iff (fun k hk => hsettled k (hsub.subset hk)) (hnodup.sublist hsub),
      List.map_map]
    rfl
  · intro hkind hcoerced
    exact MapKey.legible_of_coerced hkind (coerced_keys_inserted hcoerced) hnodup

/-- The two representations of 1 are one key of a map of unsigned keys, and the later write counts.
The blank values under 1 and 3 are both reported. -/
theorem map_entries_kept_iff_legible_of_integers :
    let inserts : List (MapKey × Value) :=
      [(.int 1, .bool true), (.uint 1, .nil), (.int 2, .bool true), (.int 3, .nil)]
    let entries := inserted .uint inserts
    let rules : List Rule := [.leaf .required]
    let failing := failingEntries rules .background entries
    let v := mapOfList .uint inserts
    KeyKind.uint ≠ .any ∧ (∀ w ∈ inserts, (w.1.coerce? .uint).isSome) ∧
      MapKey.uint 1 ∈ entries.map Prod.fst ∧ MapKey.uint 3 ∈ entries.map Prod.fst ∧
      MapKey.uint 1 ≠ .uint 3 ∧ ¬ MapKey.Homograph .uint (.uint 1) (.uint 3) ∧
      (MapKey.uint 1).render ≠ (MapKey.uint 3).render ∧
      (∀ e ∈ entries, ¬ (Rule.validate rules .background e.2).outcome.isInternal) ∧
      failing.map Prod.fst = [.uint 1, .uint 3] ∧ failing ≠ [] ∧
      (v.entries.map Prod.fst).Nodup ∧
      (∃ members, v.toJson = .object members ∧ members.length = 3) ∧
      ∃ es, ((Rule.each rules false).check .background v).outcome = .error (.fields es) ∧
        es.Perm (errorsByText rules .background failing) := by
  intro inserts entries rules failing v
  have hwrites : ∀ w ∈ inserts, (w.1.coerce? .uint).isSome := by
    subst inserts
    decide
  have hentries : entries = [(.uint 1, .nil), (.uint 2, .bool true), (.uint 3, .nil)] := rfl
  have hone : MapKey.uint 1 ∈ entries.map Prod.fst := by simp [hentries]
  have hthree : MapKey.uint 3 ∈ entries.map Prod.fst := by simp [hentries]
  have hdifferent : ¬ MapKey.Homograph .uint (.uint 1) (.uint 3) := by decide
  have hclean : ∀ e ∈ entries, ¬ (Rule.validate rules .background e.2).outcome.isInternal := by
    subst entries rules
    decide
  have hfailing : failing.map Prod.fst = [.uint 1, .uint 3] := rfl
  have hsome : failing ≠ [] := by
    intro h
    rw [h] at hfailing
    cases hfailing
  obtain ⟨htexts, hlabels, ⟨members, hjson, hlen⟩, heach, hlegible⟩ :=
    map_entries_kept_iff_legible .uint inserts
  have hall : MapKey.Legible .uint (entries.map Prod.fst) := hlegible (by decide) hwrites
  obtain ⟨es, ho, hperm⟩ := (heach rules .background hclean).2 hsome
  refine ⟨by decide, hwrites, hone, hthree, by decide, hdifferent, ?_, hclean, hfailing, hsome,
    hlabels.mpr hall, ⟨members, hjson, hlen.mpr hall⟩, es, ho, hperm.mpr ?_⟩
  · exact mt (htexts _ hone _ hthree (by decide)).mp hdifferent
  · exact hall.sublist (List.filter_sublist.map _)

/-- A map of any keys holds the number 1 and the text "1" side by side. Their labels coincide, the
document keeps one of the two entries, and of two blank values one is reported. -/
theorem integer_key_hidden_by_text :
    let inserts : List (MapKey × Value) := [(.int 1, .text ""), (.text "1", .text "")]
    let v := mapOfList .any inserts
    let rules : List Rule := [.leaf .required]
    let blank : Option Error := some (.violation Leaf.required.template)
    inserted .any inserts = inserts ∧
      MapKey.int 1 ≠ .text "1" ∧ (MapKey.int 1).render = (MapKey.text "1").render ∧
      ¬ (v.entries.map Prod.fst).Nodup ∧
      (∃ members, v.toJson = .object members ∧ members.length = 1) ∧
      errorsByText rules .background (failingEntries rules .background inserts) =
        [("1", blank), ("1", blank)] ∧
      ((Rule.each rules false).check .background v).outcome =
        .error (.fields [("1", blank)]) := by
  intro inserts v rules blank
  refine ⟨rfl, by decide, rfl, ?_, ⟨_, rfl, rfl⟩, rfl, rfl⟩
  rw [show v.entries.map Prod.fst = ["1", "1"] from rfl]
  decide

end Value
end Verdict
