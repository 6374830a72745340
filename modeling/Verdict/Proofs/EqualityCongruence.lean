import Verdict.Proofs.EqualValues
import Verdict.Proofs.OutcomeShape

/-! Validation of equal values. Every rule without checks from outside answers equal values in
the same shape, if none of them validates itself. -/
namespace Verdict

namespace Judgement

/-- Judgements that give outcomes of one shape, whatever error is configured. -/
def Alike (j k : Judgement) : Prop :=
  ∀ template, Outcome.shape (j.outcome template) = Outcome.shape (k.outcome template)

theorem Alike.refl (j : Judgement) : j.Alike j := fun _ => rfl

theorem Alike.of_eq {j k : Judgement} (h : j = k) : j.Alike k := h ▸ .refl j

theorem alike_violation {v w : Violation} (h : v.code = w.code) :
    (violation v).Alike (violation w) :=
  fun _ => congrArg (fun code => some (Shape.violation code)) h

theorem alike_ofConversion {α : Type} {R : α → α → Prop} {x y : Except Violation α}
    {judge : α → Judgement} (h : Converted R x y) (hj : ∀ a b, R a b → judge a = judge b) :
    (ofConversion x judge).Alike (ofConversion y judge) := by
  cases h with
  | ok hab => exact .of_eq (hj _ _ hab)
  | error hc => exact alike_violation hc

end Judgement

namespace LeafTest
open Judgement
variable {a b : Value}

section Form
variable {R : Value → Value → Prop} (h : Value.SameForm R a b)
include h

theorem alike_unlessEmpty {j k : Judgement} (hjk : j.Alike k) :
    (unlessEmpty a j).Alike (unlessEmpty b k) := by
  rw [unlessEmpty, unlessEmpty, h.isEmpty]
  split
  · exact .refl _
  · exact hjk

theorem alike_unlessNil {j k : Judgement} (hjk : j.Alike k) :
    (unlessNil a j).Alike (unlessNil b k) := by
  rw [unlessNil, unlessNil, h.isNil]
  split
  · exact .refl _
  · exact hjk

theorem measure?_congr (unit : LengthUnit) : unit.measure? a = unit.measure? b := by
  cases unit with
  | bytes => exact h.length?
  | scalars =>
    cases h with
    | text s => rfl
    | list hs => exact congrArg some hs.length_eq
    | map kind hs => exact congrArg some hs.length_eq
    | _ => rfl

theorem alike_judgeLength (min max : UInt64) (unit : LengthUnit) :
    (judgeLength min max unit a).Alike (judgeLength min max unit b) := by
  rw [judgeLength, judgeLength, measure?_congr h]
  cases unit.measure? b with
  | some n => exact .refl _
  | none => exact alike_violation rfl

theorem alike_judgeThreshold (limit : Value) (admits : Ordering → Bool) :
    (judgeThreshold limit admits a).Alike (judgeThreshold limit admits b) := by
  rw [judgeThreshold.eq_def, judgeThreshold.eq_def]
  split
  · exact alike_ofConversion h.toInt64 fun _ _ hxy => by rw [hxy]
  · exact alike_ofConversion h.toUInt64 fun _ _ hxy => by rw [hxy]
  · exact alike_ofConversion h.toBinary64 fun _ _ hxy => by rw [hxy]
  · split
    · exact alike_ofConversion h.toMoment fun _ _ hxy => by rw [hxy]
    · exact .refl _

theorem alike_judgeMultiple (base : Value) :
    (judgeMultiple base a).Alike (judgeMultiple base b) := by
  rw [judgeMultiple.eq_def, judgeMultiple.eq_def]
  split
  · split
    · exact .refl _
    · exact alike_ofConversion h.toInt64 fun _ _ hxy => by rw [hxy]
  · split
    · exact .refl _
    · exact alike_ofConversion h.toUInt64 fun _ _ hxy => by rw [hxy]
  · exact .refl _

end Form

/-- A test judges equal values alike. -/
theorem alike_judge (t : LeafTest) (h : Value.Equal a b) : (t.judge a).Alike (t.judge b) := by
  have hform := Value.isEqual_iff.mp h
  cases t with
  | presence applies nilPasses =>
    rw [judge, judge, hform.isNil, hform.isEmpty]
    exact .refl _
  | notNil =>
    rw [judge, judge, hform.isNil]
    exact .refl _
  | absence applies emptyPasses =>
    rw [judge, judge, hform.isNil, hform.isEmpty]
    exact .refl _
  | length min max unit => exact alike_unlessEmpty hform (alike_judgeLength hform min max unit)
  | threshold limit bound exclusive =>
    exact alike_unlessEmpty hform (alike_judgeThreshold hform limit _)
  | multipleOf base => exact alike_unlessNil hform (alike_judgeMultiple hform base)
  | membership elements negated =>
    have hsame : (fun e : Value => e.isEqual a) = fun e => e.isEqual b :=
      funext (Value.isEqual_congr h)
    refine alike_unlessEmpty hform (.of_eq ?_)
    rw [judgeMembership, judgeMembership, hsame]
  | matching source pattern =>
    refine alike_unlessNil hform (.of_eq ?_)
    rw [judgeMatching, judgeMatching, hform.toText, hform.isEmpty]
  | date layout earliest latest rangeError =>
    refine alike_unlessEmpty hform (.of_eq ?_)
    rw [judgeDate, judgeDate, hform.toText]
  | text accepts =>
    refine alike_unlessEmpty hform (.of_eq ?_)
    rw [hform.toText]

end LeafTest

namespace Value

/-- Equal values in which nothing validates itself. -/
structure PlainEqual (a b : Value) : Prop where
  equal : Equal a b
  left : a.Validators fun _ => False
  right : b.Validators fun _ => False

/-- The parts of such values are such values again. -/
theorem PlainEqual.sameForm {a b : Value} (h : PlainEqual a b) : SameForm PlainEqual a b :=
  (isEqual_iff.mp h.equal).imp_of_mem fun _ hu _ hw huw =>
    ⟨huw, h.left.part hu, h.right.part hw⟩

theorem PlainEqual.resolve? {a b : Value} (h : PlainEqual a b) (path : String) :
    Option.Rel (fun s t => s.1.Alike PlainEqual t.1 ∧ s.2 = t.2)
      (a.resolve? path) (b.resolve? path) := by
  refine rel_imp_of_eq (fun s hs t ht hst => ?_) (rel_resolve? h.equal path)
  obtain ⟨⟨hname, htag, hembedded, hvalue⟩, hkey⟩ := hst
  exact ⟨⟨hname, htag, hembedded, hvalue, h.left.resolved hs, h.right.resolved ht⟩, hkey⟩

/-- Where nothing validates itself, self-validation passes. -/
theorem validateSelf_of_plain {v : Value} (hv : v.Validators fun _ => False) (c : Context) :
    (v.validateSelf c).outcome = .ok () := by
  have hown {u : Value} (hu : u.Validators fun _ => False) : u.ownValidation c = .ok := by
    rw [ownValidation]
    cases hw : u.validator? with
    | none => rfl
    | some w => exact (hu.own hw).elim
  rw [validateSelf]
  split
  · have hpass : ∀ e ∈ v.entries, (e.2.ownValidation c).outcome = .ok () := by
      intro e he
      rw [hown (hv.part (mem_parts_of_mem_entries he))]
      rfl
    refine (collect_underKey_passes_iff fun e he f hf => ?_).mpr hpass
    cases (hpass e he).symm.trans hf
  · rw [hown hv]
    rfl

end Value

/-- A check that answers equal values in the same shape. -/
def Check.RespectsEquality (check : Check) : Prop :=
  ∀ c a b, Value.PlainEqual a b →
    Outcome.shape (check c a).outcome = Outcome.shape (check c b).outcome

theorem writesAlike_underKey {α β : Type} {key : α → String} {key' : β → String} {x : α} {y : β}
    (h : key x = key' y) : WritesAlike (underKey key x) (underKey key' y) := by
  intro e f es fs hef hes
  rw [underKey, underKey, KeyedErrors.shapes_insert, KeyedErrors.shapes_insert, h, hef, hes]

theorem writesAlike_fieldItem {R : Value → Value → Prop} {n : Nat} {b : FieldBinding Check}
    {s t : Option (Field Value × String)}
    (h : Option.Rel (fun s t => s.1.Alike R t.1 ∧ s.2 = t.2) s t) :
    WritesAlike (FieldItem.write ⟨n, b, s⟩) (FieldItem.write ⟨n, b, t⟩) := by
  intro e f es fs hef hes
  cases h with
  | none => exact hes
  | @some s t hst =>
    obtain ⟨⟨name, tag, embedded, value⟩, key⟩ := s
    obtain ⟨⟨name', tag', embedded', value'⟩, key'⟩ := t
    obtain ⟨⟨_, _, hembedded, _⟩, hkey⟩ := hst
    obtain rfl : embedded = embedded' := hembedded
    obtain rfl : key = key' := hkey
    have hinsert : Error.shapes (es.insert key e) = Error.shapes (fs.insert key f) := by
      rw [KeyedErrors.shapes_insert, KeyedErrors.shapes_insert, hef, hes]
    cases embedded with
    | false => exact hinsert
    | true =>
      -- Errors of one shape are both errors by key, or neither is.
      cases e with
      | fields nested =>
        cases f with
        | fields nested' =>
          have hnested : Error.shapes nested = Error.shapes nested' := Shape.fields.inj hef
          change Error.shapes (es.merge nested) = Error.shapes (fs.merge nested')
          rw [KeyedErrors.shapes_merge, KeyedErrors.shapes_merge, hes, hnested]
        | violation _ | internal _ => cases hef
      | violation _ | internal _ =>
        cases f with
        | fields _ => cases hef
        | violation _ | internal _ => exact hinsert

namespace Check.RespectsEquality
variable {check : Check}

theorem each {failFast : Bool} (h : check.RespectsEquality) :
    (Check.each failFast check).RespectsEquality := by
  intro c a b hab
  have hform := hab.sameForm
  rw [Check.each, Check.each, hform.kind]
  split
  · rfl
  · refine collect_shape_congr (hform.entries.imp fun e f hef => ?_) rfl
    exact ⟨writesAlike_underKey hef.1, h c _ _ hef.2⟩
  · rfl

theorem afterSelf {skipSelf : Bool} (h : check.RespectsEquality) :
    (Check.afterSelf skipSelf check).RespectsEquality := by
  intro c a b hab
  simp only [Check.afterSelf]
  split
  · exact h c a b hab
  · refine Run.andThen_shape_congr ?_ (h c a b hab)
    rw [Value.validateSelf_of_plain hab.left, Value.validateSelf_of_plain hab.right]

theorem keyItem {kind : KeyKind} {es fs : List (MapKey × Value)} (c : Context)
    (hes : List.Forall₂ (fun e f => e.1 = f.1 ∧ Value.PlainEqual e.2 f.2) es fs) (i : KeyItem)
    (hi : ∀ b, i = .bound b → b.rules.RespectsEquality) :
    Outcome.shape (i.check kind es c).outcome = Outcome.shape (i.check kind fs c).outcome := by
  cases i with
  | extra k => rfl
  | bound b =>
    simp only [KeyItem.check, KeyBinding.check]
    cases b.key.coerce? kind with
    | none => rfl
    | some key =>
      have hget := rel_get? key hes
      dsimp only
      generalize SortedEntries.get? key es = e? at hget ⊢
      generalize SortedEntries.get? key fs = f? at hget ⊢
      cases hget with
      | none => rfl
      | some huw => simpa only [Run.reportAbort_outcome] using hi b rfl c _ _ huw

theorem mapKeys {bindings : List (KeyBinding Check)} {allowExtra : Bool}
    (h : ∀ b ∈ bindings, b.rules.RespectsEquality) :
    (Check.mapKeys bindings allowExtra).RespectsEquality := by
  intro c a b hab
  cases hab.sameForm with
  | map kind hs =>
    rename_i es fs
    have hkeys : es.map Prod.fst = fs.map Prod.fst :=
      List.forall₂_eq_eq_eq ▸ List.rel_map (fun e f hef => hef.1) hs
    simp only [Check.mapKeys, Run.after_outcome, KeyBinding.undeclared, hkeys]
    refine collect_shape_congr (List.forall₂_same.mpr fun i hi => ?_) rfl
    refine ⟨writesAlike_underKey rfl, keyItem c hs i ?_⟩
    rintro b rfl
    rcases List.mem_append.mp hi with hb | hb
    · obtain ⟨_, hb, he⟩ := List.mem_map.mp hb
      cases he
      exact h b hb
    · obtain ⟨k, _, he⟩ := List.mem_map.mp hb
      cases he
  | _ => rfl

theorem fieldItem {name : String} {n : Nat} {b : FieldBinding Check} (h : b.rules.RespectsEquality)
    (c : Context) {s t : Option (Field Value × String)}
    (hst : Option.Rel (fun s t => s.1.Alike Value.PlainEqual t.1 ∧ s.2 = t.2) s t) :
    Outcome.shape (FieldItem.check name c ⟨n, b, s⟩).outcome =
      Outcome.shape (FieldItem.check name c ⟨n, b, t⟩).outcome := by
  cases hst with
  | none => rfl
  | some hst =>
    simp only [FieldItem.check, Run.reportAbort_outcome]
    exact h c _ _ hst.1.value

theorem structFields {bindings : List (FieldBinding Check)}
    (h : ∀ b ∈ bindings, b.rules.RespectsEquality) :
    (Check.structFields bindings).RespectsEquality := by
  intro c a b hab
  cases hab.sameForm with
  | struct name v w hs =>
    simp only [Check.structFields, Run.after_outcome]
    refine collect_shape_congr (List.forall₂_map_left_iff.mpr (List.forall₂_map_right_iff.mpr
      (List.forall₂_same.mpr fun p hp => ?_))) rfl
    have htarget := hab.resolve? p.1.path
    exact ⟨writesAlike_fieldItem htarget,
      fieldItem (h p.1 (List.fst_mem_of_mem_zipIdx hp)) c htarget⟩
  | _ => rfl

theorem checkAll {rules : List Rule} (h : ∀ r ∈ rules, r.check.RespectsEquality) :
    (Rule.checkAll rules).RespectsEquality := by
  intro c a b hab
  induction rules with
  | nil => rfl
  | cons r rs ih =>
    simp only [Rule.checkAll]
    split
    · rfl
    · exact Run.andThen_shape_congr (h r List.mem_cons_self c a b hab)
        (ih fun s hs => h s (List.mem_cons_of_mem _ hs))

theorem validate {rules : List Rule} (h : ∀ r ∈ rules, r.check.RespectsEquality) :
    (Rule.validate rules).RespectsEquality :=
  (checkAll h).afterSelf

/-- Rules without checks from outside respect equality. -/
theorem rule {r : Rule} (hr : r.Customs fun _ => False) : r.check.RespectsEquality := by
  induction hr with
  | leaf l =>
    intro c a b hab
    exact LeafTest.alike_judge l.test hab.equal l.template
  | custom ends h => exact h.elim
  | skip active =>
    intro c a b hab
    rfl
  | choose condition _ _ ihr iho =>
    cases condition with
    | true => exact checkAll ihr
    | false => exact checkAll iho
  | each failFast _ ih =>
    rw [Rule.check_each]
    exact (validate ih).each
  | map allowExtra _ ih =>
    rw [Rule.check_map]
    refine mapKeys fun b hb => ?_
    obtain ⟨k, hk, rfl⟩ := List.mem_map.mp hb
    exact validate (ih k hk)
  | wrapped _ ih => exact ih

end Check.RespectsEquality

/-- Equal values in which nothing validates itself are answered in the same shape by lists of
rules without checks from outside, and so are structs by bindings of their fields to such lists. -/
theorem equal_values_validate_alike {a b : Value} (h : a.isEqual b = true)
    (ha : a.Validators fun _ => False) (hb : b.Validators fun _ => False) (c : Context)
    (rules : List Rule) (hr : ∀ r ∈ rules, r.Customs fun _ => False)
    (bindings : List (FieldBinding (List Rule)))
    (hs : ∀ d ∈ bindings, ∀ r ∈ d.rules, r.Customs fun _ => False) :
    Outcome.shape (Rule.validate rules c a).outcome =
        Outcome.shape (Rule.validate rules c b).outcome ∧
      Outcome.shape (Rule.validateStruct bindings c a).outcome =
        Outcome.shape (Rule.validateStruct bindings c b).outcome := by
  have hab : Value.PlainEqual a b := ⟨h, ha, hb⟩
  have hfields : (Rule.validateStruct bindings).RespectsEquality := by
    refine Check.RespectsEquality.structFields fun d hd => ?_
    obtain ⟨k, hk, rfl⟩ := List.mem_map.mp hd
    exact Check.RespectsEquality.validate fun r hm => Check.RespectsEquality.rule (hs k hk r hm)
  constructor
  · exact Check.RespectsEquality.validate (fun r hm => Check.RespectsEquality.rule (hr r hm))
      c a b hab
  · exact hfields c a b hab

/-- A signed and an unsigned five, deep inside a struct, fail the same rule. -/
theorem equal_values_validate_alike_of_five :
    let a : Value := .struct "S" [⟨"N", none, false, .list [.int 5, .text ""]⟩] none
    let b : Value := .struct "S" [⟨"N", none, false, .list [.uint 5, .text ""]⟩] none
    let rules : List Rule := [.leaf (.isIn [])]
    let bindings : List (FieldBinding (List Rule)) :=
      [⟨"N", [.each [.leaf .required, .leaf (.threshold (.int 3) .greatest false)] false]⟩]
    a.isEqual b = true ∧ (a.Validators fun _ => False) ∧ (b.Validators fun _ => False) ∧
      (∀ r ∈ rules, r.Customs fun _ => False) ∧
      (∀ d ∈ bindings, ∀ r ∈ d.rules, r.Customs fun _ => False) ∧
      (Outcome.shape (Rule.validate rules .background a).outcome =
          Outcome.shape (Rule.validate rules .background b).outcome ∧
        Outcome.shape (Rule.validateStruct bindings .background a).outcome =
          Outcome.shape (Rule.validateStruct bindings .background b).outcome) ∧
      Outcome.shape (Rule.validate rules .background b).outcome =
        some (.violation "validation_in_invalid") ∧
      Outcome.shape (Rule.validateStruct bindings .background b).outcome =
        some (.fields [("N", some (.fields
          [("0", some (.violation "validation_max_less_equal_than_required")),
            ("1", some (.violation "validation_required"))]))]) := by
  intro a b rules bindings
  have hstruct {n : Value} (hnil : n.parts = []) (hown : n.validator? = none) :
      (Value.struct "S" [⟨"N", none, false, .list [n, .text ""]⟩] none).Validators
        fun _ => False := by
    refine .of_parts rfl fun u hu => ?_
    obtain rfl := List.mem_singleton.mp hu
    refine .of_parts rfl fun w hw => ?_
    rcases List.mem_pair.mp hw with rfl | rfl
    · exact .of_atom hown hnil
    · exact .of_atom rfl rfl
  have hrules : ∀ r ∈ rules, r.Customs fun _ => False := by
    intro r hr
    obtain rfl := List.mem_singleton.mp hr
    exact .leaf _
  have hbindings : ∀ d ∈ bindings, ∀ r ∈ d.rules, r.Customs fun _ => False := by
    intro d hd r hr
    obtain rfl := List.mem_singleton.mp hd
    obtain rfl := List.mem_singleton.mp hr
    refine .each false fun r hr => ?_
    rcases List.mem_pair.mp hr with rfl | rfl <;> exact .leaf _
  have hequal : a.isEqual b = true := by
    subst a b
    rfl
  have ha : a.Validators fun _ => False := hstruct rfl rfl
  have hb : b.Validators fun _ => False := hstruct rfl rfl
  refine ⟨hequal, ha, hb, hrules, hbindings,
    equal_values_validate_alike hequal ha hb .background rules hrules bindings hbindings, ?_, ?_⟩
  · subst rules b
    rfl
  · subst bindings b
    rfl

end Verdict
