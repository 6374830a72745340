import Verdict.Proofs.LastWrite
import Verdict.Rules.Rule

/-! Rules and values by their parts. A property of runs that the steps of a validation
keep holds of every validation whose outside checks have it. -/
namespace Verdict

/-- The values directly inside a value. -/
def Value.parts : Value → List Value
  | .list items => items
  | .map _ entries => entries.map Prod.snd
  | .struct _ fields _ => fields.map Field.value
  | _ => []

/-- A property of values that is handed down to their parts. -/
def Value.Inherited (S : Value → Prop) : Prop := ∀ v, S v → ∀ u ∈ v.parts, S u

/-- Every self-validation in a value, at any depth, has the property. -/
inductive Value.Validators (P : Validator → Prop) : Value → Prop
  | intro {v : Value} (own : ∀ w, v.validator? = some w → P w)
      (parts : ∀ u ∈ v.parts, Validators P u) : Validators P v

/-- Every check from outside in a rule, at any depth, has the property. -/
inductive Rule.Customs (P : Check → Prop) : Rule → Prop
  | leaf (l : Leaf) : Customs P (.leaf l)
  | custom {check : Check} (ends : Bool) (h : P check) : Customs P (.custom check ends)
  | skip (active : Bool) : Customs P (.skip active)
  | choose (condition : Bool) {rules otherwise : List Rule} (hr : ∀ r ∈ rules, Customs P r)
      (ho : ∀ r ∈ otherwise, Customs P r) : Customs P (.choose condition rules otherwise)
  | each {rules : List Rule} (failFast : Bool) (hr : ∀ r ∈ rules, Customs P r) :
      Customs P (.each rules failFast)
  | map {keys : List (KeyBinding (List Rule))} (allowExtra : Bool)
      (hk : ∀ b ∈ keys, ∀ r ∈ b.rules, Customs P r) : Customs P (.map keys allowExtra)
  | wrapped {rule : Rule} (h : Customs P rule) : Customs P (.wrapped rule)

/-- Every check from outside in a rule, at any depth, has the property on all values of which the
self-validations have it. -/
abbrev Rule.Keeps (P : Validator → Prop) (r : Rule) : Prop :=
  r.Customs fun check => ∀ v, v.Validators P → P fun c => check c v

namespace Rule

theorem Customs.mono {P Q : Check → Prop} (h : ∀ check, P check → Q check) {r : Rule}
    (hr : r.Customs P) : r.Customs Q := by
  induction hr with
  | leaf l => exact .leaf l
  | custom ends hp => exact .custom ends (h _ hp)
  | skip active => exact .skip active
  | choose condition _ _ ihr iho => exact .choose condition ihr iho
  | each failFast _ ih => exact .each failFast ih
  | map allowExtra _ ih => exact .map allowExtra ih
  | wrapped _ ih => exact .wrapped ih

/-- Each bound key is validated like a value of its own. -/
theorem keyChecks_eq_map (keys : List (KeyBinding (List Rule))) :
    keyChecks keys = keys.map fun b => ⟨b.key, validate b.rules, b.optional⟩ := by
  induction keys with
  | nil => rfl
  | cons b bs ih =>
    rw [keyChecks, ih]
    rfl

/-- A leaf rule answers what its test judges. -/
theorem check_leaf_outcome (l : Leaf) (c : Context) (v : Value) :
    ((Rule.leaf l).check c v).outcome = (l.test.judge v).outcome l.template := rfl

theorem check_each (rules : List Rule) (failFast : Bool) :
    (Rule.each rules failFast).check = .each failFast (validate rules) := rfl

theorem check_map (keys : List (KeyBinding (List Rule))) (allowExtra : Bool) :
    (Rule.map keys allowExtra).check =
      .mapKeys (keys.map fun b => ⟨b.key, validate b.rules, b.optional⟩) allowExtra := by
  rw [check, keyChecks_eq_map]

end Rule

namespace Value

theorem Validators.mono {P Q : Validator → Prop} (h : ∀ w, P w → Q w) {v : Value}
    (hv : v.Validators P) : v.Validators Q := by
  induction hv with
  | intro own _ ih => exact .intro (fun w hw => h w (own w hw)) ih

theorem Validators.own {P : Validator → Prop} {v : Value} (hv : v.Validators P) {w : Validator}
    (hw : v.validator? = some w) : P w := by
  obtain ⟨own, _⟩ := hv
  exact own w hw

theorem Validators.part {P : Validator → Prop} {v u : Value} (hv : v.Validators P)
    (hu : u ∈ v.parts) : u.Validators P := by
  obtain ⟨_, parts⟩ := hv
  exact parts u hu

/-- Without a validation of its own a value brings those of its parts. -/
theorem Validators.of_parts {P : Validator → Prop} {v : Value} (hown : v.validator? = none)
    (h : ∀ u ∈ v.parts, u.Validators P) : v.Validators P :=
  .intro (by simp [hown]) h

theorem Validators.of_atom {P : Validator → Prop} {v : Value} (hown : v.validator? = none)
    (hparts : v.parts = []) : v.Validators P :=
  .of_parts hown (by simp [hparts])

theorem sizeOf_lt_of_mem_parts {u v : Value} (h : u ∈ v.parts) : sizeOf u < sizeOf v := by
  cases v with
  | list items =>
    have hu := List.sizeOf_lt_of_mem (show u ∈ items from h)
    simp only [list.sizeOf_spec]
    omega
  | map kind entries =>
    obtain ⟨⟨k, u⟩, he, rfl⟩ := List.mem_map.mp h
    have hu := List.sizeOf_lt_of_mem he
    simp only [map.sizeOf_spec, Prod.mk.sizeOf_spec] at hu ⊢
    omega
  | struct name fields validator =>
    obtain ⟨⟨n, t, e, u⟩, hf, rfl⟩ := List.mem_map.mp h
    have hu := List.sizeOf_lt_of_mem hf
    simp only [struct.sizeOf_spec, Field.mk.sizeOf_spec] at hu ⊢
    omega
  | _ => cases h

/-- Induction from the parts of a value to the value. -/
@[elab_as_elim]
theorem parts_induction {motive : Value → Prop}
    (h : ∀ v, (∀ u ∈ v.parts, motive u) → motive v) (v : Value) : motive v :=
  h v fun u _ => parts_induction h u
termination_by sizeOf v
decreasing_by exact sizeOf_lt_of_mem_parts ‹_›

theorem mem_parts_of_mem_entries {v : Value} {e : String × Value} (h : e ∈ v.entries) :
    e.2 ∈ v.parts := by
  cases v with
  | list items =>
    obtain ⟨p, hp, rfl⟩ := List.mem_map.mp h
    exact List.fst_mem_of_mem_zipIdx hp
  | map kind entries =>
    obtain ⟨p, hp, rfl⟩ := List.mem_map.mp h
    exact List.mem_map.mpr ⟨p, hp, rfl⟩
  | _ => cases h

theorem mem_joinLevels {α : Type} (xs ys : List (List α)) (a : α) :
    a ∈ (joinLevels xs ys).flatten ↔ a ∈ xs.flatten ∨ a ∈ ys.flatten := by
  fun_induction joinLevels xs ys with
  | case1 ys => simp
  | case2 xs => simp
  | case3 x xs y ys ih =>
    simp only [List.flatten_cons, List.mem_append, ih]
    exact or_or_or_comm

/-- The fields below a list of fields are those of the structs embedded in it. -/
theorem mem_embeddedLevels (fields : List (Field Value)) (f : Field Value) :
    f ∈ (embeddedLevels fields).flatten ↔
      ∃ g ∈ fields, g.embedded = true ∧ f ∈ g.value.reachableFields := by
  induction fields with
  | nil => simp [embeddedLevels]
  | cons g rest ih =>
    simp only [embeddedLevels, List.mem_cons, exists_eq_or_imp]
    split <;> rename_i hg
    · simp only [mem_joinLevels, ih, hg, true_and, reachableFields]
    · simp only [ih, hg, Bool.false_eq_true, false_and, false_or]

section Inherited
variable {S : Value → Prop} (hS : Inherited S)
include hS

theorem Inherited.reachable {v : Value} (hv : S v) : ∀ f ∈ v.reachableFields, S f.value := by
  induction v using parts_induction with
  | h v ih =>
    intro f hf
    cases v with
    | struct name fields validator =>
      have hparts : ∀ g ∈ fields, S g.value := fun g hg => hS _ hv _ (List.mem_map_of_mem hg)
      rw [reachableFields, levels, List.flatten_cons, List.mem_append, mem_embeddedLevels] at hf
      rcases hf with hf | ⟨g, hg, _, hf⟩
      · exact hparts f hf
      · exact ih _ (List.mem_map_of_mem hg) (hparts g hg) f hf
    | _ => cases hf

theorem Inherited.along {names : List String} {v : Value} {f : Field Value} {key : String}
    (hv : S v) (hf : v.fieldAlong? names = some (f, key)) : S f.value := by
  have found {v : Value} {name : String} {f : Field Value} (hv : S v)
      (hf : v.field? name = some f) : S f.value :=
    hS.reachable hv f (List.mem_of_find?_eq_some hf)
  induction names generalizing v key with
  | nil => simp [fieldAlong?] at hf
  | cons name rest ih =>
    cases rest with
    | nil =>
      obtain ⟨g, hg, he⟩ := Option.map_eq_some_iff.mp hf
      cases he
      exact found hv hg
    | cons next rest =>
      simp only [fieldAlong?] at hf
      split at hf
      · cases hf
      · rename_i g hg
        obtain ⟨r, hr, he⟩ := Option.map_eq_some_iff.mp hf
        cases he
        exact ih (found hv hg) hr

/-- What is handed down to the parts of a struct holds of all that a path leads to. -/
theorem Inherited.resolved {v : Value} (hv : S v) {path key : String} {f : Field Value}
    (hf : v.resolve? path = some (f, key)) : S f.value :=
  hS.along hv hf

end Inherited

theorem inherited_validators (P : Validator → Prop) : Inherited (Validators P) :=
  fun _ hv _ hu => hv.part hu

/-- What a path leads to validates itself only as parts of the struct do. -/
theorem Validators.resolved {P : Validator → Prop} {v : Value} (hv : v.Validators P)
    {path key : String} {f : Field Value} (hf : v.resolve? path = some (f, key)) :
    f.value.Validators P :=
  (inherited_validators P).resolved hv hf

end Value

/-- A property of validations, each a run for every context, that holds of a whole one when
it holds of those of its parts. -/
structure Compositional (P : (Context → Run) → Prop) : Prop where
  pass : P fun _ => .ok
  leaf (l : Leaf) (v : Value) : P fun _ => (Run.silent (l.outcome v)).witnessed
  andThen {r s : Context → Run} (hr : P r) (hs : P s) : P fun c => (r c).andThen fun () => s c
  validateSelf {v : Value} (hv : v.Validators fun w => P fun c => (w c).witnessed) :
    P fun c => v.validateSelf c
  each {failFast : Bool} {check : Check} {v : Value} (h : ∀ u ∈ v.parts, P fun c => check c u) :
    P fun c => Check.each failFast check c v
  mapKeys {bindings : List (KeyBinding Check)} {allowExtra : Bool} {v : Value}
    (h : ∀ b ∈ bindings, ∀ u ∈ v.parts, P fun c => b.rules c u) :
    P fun c => Check.mapKeys bindings allowExtra c v
  structFields {bindings : List (FieldBinding Check)} {v : Value}
    (h : ∀ b ∈ bindings, ∀ f key, v.resolve? b.path = some (f, key) →
      P fun c => b.rules c f.value) :
    P fun c => Check.structFields bindings c v

namespace Compositional
variable {P : (Context → Run) → Prop}

/-- Values whose self-validations all have the property. -/
abbrev Sound (P : (Context → Run) → Prop) (v : Value) : Prop :=
  v.Validators fun w => P fun c => (w c).witnessed

/-- Rules whose outside checks all have the property on sound values. -/
abbrev Trusted (P : (Context → Run) → Prop) (r : Rule) : Prop :=
  r.Customs fun check => ∀ v, Sound P v → P fun c => (check c v).witnessed

private theorem checkAll_of_each (h : Compositional P) {rules : List Rule} {v : Value}
    (hr : ∀ r ∈ rules, P fun c => r.check c v) : P fun c => Rule.checkAll rules c v := by
  induction rules with
  | nil => exact h.pass
  | cons r rs ih =>
    have hs := ih fun s hs => hr s (List.mem_cons_of_mem _ hs)
    simp only [Rule.checkAll]
    split
    · exact h.pass
    · exact h.andThen (hr r List.mem_cons_self) hs

private theorem validate_of_each (h : Compositional P) {rules : List Rule} {v : Value}
    (hv : Sound P v) (hr : ∀ r ∈ rules, P fun c => r.check c v) :
    P fun c => Rule.validate rules c v := by
  have hall := h.checkAll_of_each hr
  simp only [Rule.validate, Check.afterSelf]
  split
  · exact hall
  · exact h.andThen (h.validateSelf hv) hall

/-- The induction over rules: a nested list is validated on parts of the value. -/
theorem check (h : Compositional P) {r : Rule} (hr : Trusted P r) {v : Value} (hv : Sound P v) :
    P fun c => r.check c v := by
  induction hr generalizing v with
  | leaf l => exact h.leaf l v
  | custom ends hp => exact hp v hv
  | skip active => exact h.pass
  | choose condition _ _ ihr iho =>
    cases condition with
    | true => exact h.checkAll_of_each fun r hr => ihr r hr hv
    | false => exact h.checkAll_of_each fun r hr => iho r hr hv
  | each failFast _ ih =>
    rw [Rule.check_each]
    exact h.each fun u hu => h.validate_of_each (hv.part hu) fun r hr => ih r hr (hv.part hu)
  | map allowExtra _ ih =>
    rw [Rule.check_map]
    apply h.mapKeys
    intro b hb u hu
    obtain ⟨k, hk, rfl⟩ := List.mem_map.mp hb
    exact h.validate_of_each (hv.part hu) fun r hr => ih k hk r hr (hv.part hu)
  | wrapped _ ih => exact ih hv

theorem checkAll (h : Compositional P) {rules : List Rule} (hr : ∀ r ∈ rules, Trusted P r)
    {v : Value} (hv : Sound P v) : P fun c => Rule.checkAll rules c v :=
  h.checkAll_of_each fun r hm => h.check (hr r hm) hv

theorem validate (h : Compositional P) {rules : List Rule} (hr : ∀ r ∈ rules, Trusted P r)
    {v : Value} (hv : Sound P v) : P fun c => Rule.validate rules c v :=
  h.validate_of_each hv fun r hm => h.check (hr r hm) hv

theorem validateStruct (h : Compositional P) {bindings : List (FieldBinding (List Rule))}
    (hb : ∀ b ∈ bindings, ∀ r ∈ b.rules, Trusted P r) {v : Value} (hv : Sound P v) :
    P fun c => Rule.validateStruct bindings c v := by
  apply h.structFields
  intro b hm f key hf
  obtain ⟨k, hk, rfl⟩ := List.mem_map.mp hm
  exact h.validate (hb k hk) (hv.resolved hf)

section Outside
variable {Q : Validator → Prop} (hw : ∀ w : Validator, (P fun c => (w c).witnessed) ↔ Q w)
include hw

theorem trusted_of_keeps {r : Rule} (hr : r.Keeps Q) : Trusted P r :=
  hr.mono fun _ h v hv => (hw _).mpr (h v (hv.mono fun w => (hw w).mp))

theorem sound_of_validators {v : Value} (hv : v.Validators Q) : Sound P v :=
  hv.mono fun w => (hw w).mpr

/-- What the steps keep holds of whole validations if code from outside has what it needs to be
one of the steps. -/
theorem validations (h : Compositional P) {rules : List Rule}
    {bindings : List (FieldBinding (List Rule))} {v : Value} (hr : ∀ r ∈ rules, r.Keeps Q)
    (hb : ∀ b ∈ bindings, ∀ r ∈ b.rules, r.Keeps Q) (hv : v.Validators Q) :
    (P fun c => Rule.validate rules c v) ∧ (P fun c => Rule.checkAll rules c v) ∧
      P fun c => Rule.validateStruct bindings c v := by
  have hsound := sound_of_validators hw hv
  have htrusted : ∀ r ∈ rules, Trusted P r := fun r hm => trusted_of_keeps hw (hr r hm)
  refine ⟨h.validate htrusted hsound, h.checkAll htrusted hsound, ?_⟩
  exact h.validateStruct (fun b hm r hrm => trusted_of_keeps hw (hb b hm r hrm)) hsound

end Outside

end Compositional

/-- What a traversal may do with the error of an item: record it, or merge the errors of an
embedded struct. -/
def Recording {α : Type} (write : α → Error → KeyedErrors → KeyedErrors) : Prop :=
  ∀ x e es, (∃ key, write x e es = es.insert key e) ∨
    (∃ nested, e = .fields nested ∧ write x e es = es.merge nested) ∨ write x e es = es

theorem recording_underKey {α : Type} (key : α → String) : Recording (underKey key) :=
  fun x _ _ => .inl ⟨key x, rfl⟩

theorem recording_fieldItem : Recording FieldItem.write := by
  intro i e es
  rw [FieldItem.write.eq_def]
  split
  · exact .inr (.inl ⟨_, rfl, rfl⟩)
  · exact .inl ⟨_, rfl⟩
  · exact .inr (.inr rfl)

/-- A property of validations that the single steps keep. All traversals are one loop over
their items, between an opening event and reports of an abort. -/
structure Stepwise (P : (Context → Run) → Prop) : Prop where
  pass : P fun _ => .ok
  reject (v : Violation) : P fun _ => .fail (.violation v)
  raise (fault : Fault Error) : P fun _ => .raise fault
  leaf (l : Leaf) (v : Value) : P fun _ => (Run.silent (l.outcome v)).witnessed
  andThen {r s : Context → Run} (hr : P r) (hs : P s) : P fun c => (r c).andThen fun () => s c
  collect {α : Type} {failFast : Bool} {write : α → Error → KeyedErrors → KeyedErrors}
    {check : Context → α → Run} {xs : List α} (hw : Recording write)
    (h : ∀ x ∈ xs, P fun c => check c x) : P fun c => collect failFast write (check c) [] xs
  structOpened {r : Context → Run} (name : String) (n : Nat) (h : P r) :
    P fun c => (r c).after [.structOpened name n]
  mapOpened {r : Context → Run} (n m : Nat) (h : P r) : P fun c => (r c).after [.mapOpened n m]
  structAborted {r : Context → Run} (name path : String) (h : P r) :
    P fun c => (r c).reportAbort (.structAborted name path)
  mapAborted {r : Context → Run} (key : String) (h : P r) :
    P fun c => (r c).reportAbort (.mapAborted key)

namespace Stepwise
variable {P : (Context → Run) → Prop}

private theorem ownValidation (h : Stepwise P) {v : Value}
    (hv : ∀ w, v.validator? = some w → P fun c => (w c).witnessed) :
    P fun c => v.ownValidation c := by
  simp only [Value.ownValidation]
  split <;> rename_i hw
  · exact hv _ hw
  · exact h.pass

private theorem collectEntries (h : Stepwise P) {failFast : Bool} {check : Check}
    {es : List (String × Value)} (hc : ∀ e ∈ es, P fun c => check c e.2) :
    P fun c => Verdict.collect failFast (underKey Prod.fst) (fun e => check c e.2) [] es :=
  h.collect (recording_underKey Prod.fst) hc

private theorem validateSelf (h : Stepwise P) {v : Value}
    (hv : v.Validators fun w => P fun c => (w c).witnessed) : P fun c => v.validateSelf c := by
  simp only [Value.validateSelf]
  split
  · apply h.collectEntries
    intro e he
    exact h.ownValidation fun w hw => (hv.part (Value.mem_parts_of_mem_entries he)).own hw
  · exact h.ownValidation fun w hw => hv.own hw

private theorem each (h : Stepwise P) {failFast : Bool} {check : Check} {v : Value}
    (hc : ∀ u ∈ v.parts, P fun c => check c u) : P fun c => Check.each failFast check c v := by
  simp only [Check.each]
  split
  · exact h.pass
  · apply h.collectEntries
    intro e he
    exact hc _ (Value.mem_parts_of_mem_entries he)
  · exact h.raise _

private theorem keyItem (h : Stepwise P) {kind : KeyKind} {entries : List (MapKey × Value)}
    (i : KeyItem) (hc : ∀ b, i = .bound b → ∀ u ∈ entries.map Prod.snd, P fun c => b.rules c u) :
    P fun c => i.check kind entries c := by
  cases i with
  | extra k => exact h.reject _
  | bound b =>
    simp only [KeyItem.check, KeyBinding.check]
    split
    · exact h.reject _
    · split <;> rename_i hu
      · exact h.mapAborted _ (hc b rfl _ (SortedEntries.mem_values_of_get? hu))
      · split
        · exact h.pass
        · exact h.reject _

private theorem mapKeys (h : Stepwise P) {bindings : List (KeyBinding Check)} {allowExtra : Bool}
    {v : Value} (hc : ∀ b ∈ bindings, ∀ u ∈ v.parts, P fun c => b.rules c u) :
    P fun c => Check.mapKeys bindings allowExtra c v := by
  simp only [Check.mapKeys]
  split
  · exact h.pass
  · rename_i kind entries
    refine h.mapOpened _ _ (h.collect (recording_underKey _) fun i hi => h.keyItem i ?_)
    rintro b rfl u hu
    rcases List.mem_append.mp hi with hi | hi
    · obtain ⟨k, hk, he⟩ := List.mem_map.mp hi
      cases he
      exact hc b hk u hu
    · obtain ⟨k, _, he⟩ := List.mem_map.mp hi
      cases he
  · exact h.raise _

private theorem structFields (h : Stepwise P) {bindings : List (FieldBinding Check)} {v : Value}
    (hc : ∀ b ∈ bindings, ∀ f key, v.resolve? b.path = some (f, key) →
      P fun c => b.rules c f.value) : P fun c => Check.structFields bindings c v := by
  cases v with
  | nil => exact h.pass
  | struct name fields validator =>
    refine h.structOpened _ _ (h.collect recording_fieldItem fun i hi => ?_)
    obtain ⟨p, hp, rfl⟩ := List.mem_map.mp hi
    simp only [FieldItem.check]
    split <;> rename_i ht
    · exact h.raise _
    · exact h.structAborted _ _ (hc p.1 (List.fst_mem_of_mem_zipIdx hp) _ _ ht)
  | _ => exact h.raise _

/-- A property that every step keeps holds of whole validations. -/
theorem compositional (h : Stepwise P) : Compositional P where
  pass := h.pass
  leaf := h.leaf
  andThen := h.andThen
  validateSelf := h.validateSelf
  each := h.each
  mapKeys := h.mapKeys
  structFields := h.structFields

end Stepwise
end Verdict
