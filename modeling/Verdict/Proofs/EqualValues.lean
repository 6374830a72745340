import Mathlib.Data.List.Forall2
import Verdict.Proofs.CompositionalRuns
import Verdict.Proofs.MapKeyForms

/-! Equal values. Equality is symmetric and transitive, and equal values have the same kind and
size, equal elements and equal fields. -/
namespace Verdict

section Pointwise
variable {α β : Type} {R : α → β → Prop}

theorem forall₂_imp_of_mem {S : α → β → Prop} {xs : List α} {ys : List β}
    (h : ∀ x ∈ xs, ∀ y ∈ ys, R x y → S x y) (hxy : List.Forall₂ R xs ys) :
    List.Forall₂ S xs ys := by
  induction hxy with
  | nil => exact .nil
  | cons hx _ ih =>
    refine .cons (h _ List.mem_cons_self _ List.mem_cons_self hx) (ih fun x hx y hy => ?_)
    exact h x (List.mem_cons_of_mem _ hx) y (List.mem_cons_of_mem _ hy)

theorem forall₂_trans_of_mem {R : α → α → Prop} {xs ys zs : List α}
    (h : ∀ x ∈ xs, ∀ y z, R x y → R y z → R x z) (hxy : List.Forall₂ R xs ys)
    (hyz : List.Forall₂ R ys zs) : List.Forall₂ R xs zs := by
  induction hxy generalizing zs with
  | nil => exact hyz
  | cons hx _ ih =>
    cases hyz with
    | cons hy hys =>
      exact .cons (h _ List.mem_cons_self _ _ hx hy)
        (ih (fun w hw => h w (List.mem_cons_of_mem _ hw)) hys)

theorem rel_map {γ δ : Type} {S : γ → δ → Prop} {f : α → γ} {g : β → δ} {o : Option α}
    {o' : Option β} (hfg : ∀ x y, R x y → S (f x) (g y)) (h : Option.Rel R o o') :
    Option.Rel S (o.map f) (o'.map g) := by
  cases h with
  | none => exact .none
  | some hxy => exact .some (hfg _ _ hxy)

theorem rel_imp_of_eq {S : α → β → Prop} {o : Option α} {o' : Option β}
    (hrs : ∀ x, o = some x → ∀ y, o' = some y → R x y → S x y) (h : Option.Rel R o o') :
    Option.Rel S o o' := by
  cases h with
  | none => exact .none
  | some hxy => exact .some (hrs _ rfl _ rfl hxy)

theorem rel_find? {xs : List α} {ys : List β} {p : α → Bool} {q : β → Bool}
    (hpq : ∀ x y, R x y → p x = q y) (h : List.Forall₂ R xs ys) :
    Option.Rel R (xs.find? p) (ys.find? q) := by
  induction h with
  | nil => exact .none
  | @cons x y _ _ hxy _ ih =>
    rw [List.find?_cons, List.find?_cons, hpq x y hxy]
    cases q y with
    | true => exact .some hxy
    | false => exact ih

theorem rel_get? {κ : Type} [Ord κ] {es : List (κ × α)} {fs : List (κ × β)} (k : κ)
    (h : List.Forall₂ (fun e f => e.1 = f.1 ∧ R e.2 f.2) es fs) :
    Option.Rel R (SortedEntries.get? k es) (SortedEntries.get? k fs) := by
  induction h with
  | nil => exact .none
  | @cons e f _ _ hef _ ih =>
    rw [SortedEntries.get?, SortedEntries.get?, hef.1]
    split
    · exact .some hef.2
    · exact ih

end Pointwise

/-- Conversions that both succeed with related results, or both fail with the same code. -/
inductive Converted {α : Type} (R : α → α → Prop) :
    Except Violation α → Except Violation α → Prop
  | ok {x y : α} (h : R x y) : Converted R (.ok x) (.ok y)
  | error {v w : Violation} (h : v.code = w.code) : Converted R (.error v) (.error w)

theorem Converted.refl {α : Type} (x : Except Violation α) : Converted Eq x x := by
  cases x with
  | ok a => exact .ok rfl
  | error v => exact .error rfl

namespace Binary64
variable {x y : Binary64}

theorem numericEq_iff : x.numericEq y = true ↔
    x.isNaN = false ∧ y.isNaN = false ∧ x.rank = y.rank := by
  simp [numericEq, and_assoc]

/-- Equal numbers stand in the same order to any other. -/
theorem compare?_congr (h : x.numericEq y = true) : x.compare? = y.compare? := by
  obtain ⟨hx, hy, hr⟩ := numericEq_iff.mp h
  funext t
  rw [compare?, compare?, hx, hy, hr]

theorem isZero_congr (h : x.numericEq y = true) : x.isZero = y.isZero := by
  have hzero (x : Binary64) : x.isZero = (x.rank == 0) := by
    rw [Bool.eq_iff_iff, beq_iff_eq, isZero, beq_iff_eq, rank]
    split <;> omega
  rw [hzero, hzero, (numericEq_iff.mp h).2.2]

end Binary64

/-- Fields that agree in all but their values, which are related. -/
structure Field.Alike (R : Value → Value → Prop) (f g : Field Value) : Prop where
  name : f.name = g.name
  tag : f.tag = g.tag
  embedded : f.embedded = g.embedded
  value : R f.value g.value

theorem Field.Alike.errorKey {R : Value → Value → Prop} {f g : Field Value} (h : f.Alike R g) :
    f.errorKey = g.errorKey := by
  rw [Field.errorKey, Field.errorKey, h.tag, h.name]

namespace Value

/-- Values of one form, given what relates their parts. -/
inductive SameForm (R : Value → Value → Prop) : Value → Value → Prop
  | nil : SameForm R .nil .nil
  | bool (b : Bool) : SameForm R (.bool b) (.bool b)
  | int (n : Int64) : SameForm R (.int n) (.int n)
  | uint (n : UInt64) : SameForm R (.uint n) (.uint n)
  | intUint {m : Int64} {n : UInt64} (h : m.toInt = n.toNat) : SameForm R (.int m) (.uint n)
  | uintInt {m : Int64} {n : UInt64} (h : m.toInt = n.toNat) : SameForm R (.uint n) (.int m)
  | float {x y : Binary64} (h : x.numericEq y = true) : SameForm R (.float x) (.float y)
  | text (s : String) : SameForm R (.text s) (.text s)
  | bytes (bs : List UInt8) : SameForm R (.bytes bs) (.bytes bs)
  | list {as bs : List Value} (h : List.Forall₂ R as bs) : SameForm R (.list as) (.list bs)
  | map (kind : KeyKind) {es fs : List (MapKey × Value)}
      (h : List.Forall₂ (fun e f => e.1 = f.1 ∧ R e.2 f.2) es fs) :
      SameForm R (.map kind es) (.map kind fs)
  | struct (name : String) {fs gs : List (Field Value)} (v w : Option Validator)
      (h : List.Forall₂ (Field.Alike R) fs gs) :
      SameForm R (.struct name fs v) (.struct name gs w)
  | foreign (f : Foreign) : SameForm R (.foreign f) (.foreign f)

/-- Equality as a relation. -/
abbrev Equal (a b : Value) : Prop := a.isEqual b = true

theorem listsEqual_iff {as bs : List Value} :
    listsEqual as bs = true ↔ List.Forall₂ Equal as bs := by
  induction as generalizing bs with
  | nil => cases bs <;> simp [listsEqual]
  | cons a as ih => cases bs <;> simp [listsEqual, ih]

theorem entriesEqual_iff {es fs : List (MapKey × Value)} :
    entriesEqual es fs = true ↔ List.Forall₂ (fun e f => e.1 = f.1 ∧ Equal e.2 f.2) es fs := by
  induction es generalizing fs with
  | nil => cases fs <;> simp [entriesEqual]
  | cons e es ih => cases fs <;> simp [entriesEqual, ih]

theorem fieldsEqual_iff {fs gs : List (Field Value)} :
    fieldsEqual fs gs = true ↔ List.Forall₂ (Field.Alike Equal) fs gs := by
  have halike (f g : Field Value) : f.Alike Equal g ↔ f.name = g.name ∧ f.tag = g.tag ∧
      f.embedded = g.embedded ∧ Equal f.value g.value :=
    ⟨fun h => ⟨h.name, h.tag, h.embedded, h.value⟩, fun ⟨hn, ht, he, hv⟩ => ⟨hn, ht, he, hv⟩⟩
  induction fs generalizing gs with
  | nil => cases gs <;> simp [fieldsEqual]
  | cons f fs ih => cases gs <;> simp [fieldsEqual, ih, halike, and_assoc]

/-- Equal values are those of one form with equal parts. -/
theorem isEqual_iff {a b : Value} : a.isEqual b = true ↔ SameForm Equal a b := by
  constructor
  · intro h
    rw [isEqual.eq_def] at h
    split at h
    · exact .nil
    · rw [beq_iff_eq.mp h]
      exact .bool _
    · rw [beq_iff_eq.mp h]
      exact .int _
    · rw [beq_iff_eq.mp h]
      exact .uint _
    · exact .intUint (beq_iff_eq.mp h)
    · exact .uintInt (beq_iff_eq.mp h).symm
    · exact .float h
    · rw [beq_iff_eq.mp h]
      exact .text _
    · rw [beq_iff_eq.mp h]
      exact .bytes _
    · exact .list (listsEqual_iff.mp h)
    · obtain ⟨hk, he⟩ := Bool.and_eq_true_iff.mp h
      rw [beq_iff_eq.mp hk]
      exact .map _ (entriesEqual_iff.mp he)
    · obtain ⟨hn, hf⟩ := Bool.and_eq_true_iff.mp h
      rw [beq_iff_eq.mp hn]
      exact .struct _ _ _ (fieldsEqual_iff.mp hf)
    · rw [beq_iff_eq.mp h]
      exact .foreign _
    · cases h
  · intro h
    cases h with
    | list h => exact listsEqual_iff.mpr h
    | map kind h => simpa [isEqual] using entriesEqual_iff.mpr h
    | struct name v w h => simpa [isEqual] using fieldsEqual_iff.mpr h
    | float h => exact h
    | intUint h => simpa [isEqual] using h
    | uintInt h => simpa [isEqual] using h.symm
    | _ => simp [isEqual]

namespace SameForm
variable {R S : Value → Value → Prop} {a b : Value}

/-- Another relation may take the place of the one between the parts. -/
theorem imp_of_mem (hrs : ∀ u ∈ a.parts, ∀ w ∈ b.parts, R u w → S u w) (h : SameForm R a b) :
    SameForm S a b := by
  cases h with
  | nil => exact .nil
  | bool b => exact .bool b
  | int n => exact .int n
  | uint n => exact .uint n
  | intUint hv => exact .intUint hv
  | uintInt hv => exact .uintInt hv
  | float hv => exact .float hv
  | text s => exact .text s
  | bytes bs => exact .bytes bs
  | list hs => exact .list (forall₂_imp_of_mem hrs hs)
  | map kind hs =>
    refine .map kind (forall₂_imp_of_mem (fun e he f hf hef => ⟨hef.1, ?_⟩) hs)
    exact hrs _ (List.mem_map_of_mem he) _ (List.mem_map_of_mem hf) hef.2
  | struct name v w hs =>
    refine .struct name v w (forall₂_imp_of_mem (fun f hf g hg hfg => ?_) hs)
    exact ⟨hfg.name, hfg.tag, hfg.embedded,
      hrs _ (List.mem_map_of_mem hf) _ (List.mem_map_of_mem hg) hfg.value⟩
  | foreign f => exact .foreign f

theorem flip (h : SameForm R a b) : SameForm (flip R) b a := by
  cases h with
  | nil => exact .nil
  | bool b => exact .bool b
  | int n => exact .int n
  | uint n => exact .uint n
  | intUint hv => exact .uintInt hv
  | uintInt hv => exact .intUint hv
  | float hv => exact .float (by rwa [Binary64.numericEq_symm])
  | text s => exact .text s
  | bytes bs => exact .bytes bs
  | list hs => exact .list hs.flip
  | map kind hs => exact .map kind (hs.imp fun e f hef => ⟨hef.1.symm, hef.2⟩).flip
  | struct name v w hs =>
    refine .struct name w v (hs.imp fun f g hfg => ?_).flip
    exact ⟨hfg.name.symm, hfg.tag.symm, hfg.embedded.symm, hfg.value⟩
  | foreign f => exact .foreign f

end SameForm

theorem equal_symm {a b : Value} (hab : Equal a b) : Equal b a := by
  induction a using parts_induction generalizing b with
  | h a ih =>
    have hform := (isEqual_iff.mp hab).imp_of_mem fun u hu _ _ huw => ih u hu huw
    exact isEqual_iff.mpr hform.flip

theorem equal_trans {a b c : Value} (hab : Equal a b) (hbc : Equal b c) : Equal a c := by
  induction a using parts_induction generalizing b c with
  | h a ih =>
    refine isEqual_iff.mpr ?_
    -- Only integers change their form, and a second change takes them back to the first one.
    have hbc' := isEqual_iff.mp hbc
    cases isEqual_iff.mp hab with
    | nil | bool _ | int _ | uint _ | text _ | bytes _ | foreign _ => exact hbc'
    | intUint hv =>
      cases hbc' with
      | uint _ => exact .intUint hv
      | uintInt hw =>
        obtain rfl := Int64.toInt_inj.mp (hv.trans hw.symm)
        exact .int _
    | uintInt hv =>
      cases hbc' with
      | int _ => exact .uintInt hv
      | intUint hw =>
        obtain rfl := UInt64.toNat_inj.mp (Int.ofNat_inj.mp (hv.symm.trans hw))
        exact .uint _
    | float hv =>
      cases hbc' with
      | float hw => exact .float (Binary64.numericEq_trans hv hw)
    | list hs =>
      cases hbc' with
      | list ht => exact .list (forall₂_trans_of_mem (fun u hu _ _ hv hw => ih u hu hv hw) hs ht)
    | map kind hs =>
      cases hbc' with
      | map _ ht =>
        refine .map kind (forall₂_trans_of_mem (fun e he f g hf hg => ?_) hs ht)
        exact ⟨hf.1.trans hg.1, ih e.2 (List.mem_map_of_mem he) hf.2 hg.2⟩
    | struct name v w hs =>
      cases hbc' with
      | struct _ _ x ht =>
        refine .struct name v x (forall₂_trans_of_mem (fun e he f g hf hg => ?_) hs ht)
        exact ⟨hf.name.trans hg.name, hf.tag.trans hg.tag, hf.embedded.trans hg.embedded,
          ih e.value (List.mem_map_of_mem he) hf.value hg.value⟩

/-- Equal values are equal to the same values. -/
theorem isEqual_congr {a b : Value} (h : Equal a b) (e : Value) : e.isEqual a = e.isEqual b :=
  Bool.eq_iff_iff.mpr ⟨fun he => equal_trans he h, fun he => equal_trans he (equal_symm h)⟩

namespace SameForm
variable {R : Value → Value → Prop} {a b : Value}

theorem kind (h : SameForm R a b) : a.kind = b.kind := by
  cases h <;> rfl

theorem isNil (h : SameForm R a b) : a.isNil = b.isNil := by
  cases h <;> rfl

theorem isEmpty (h : SameForm R a b) : a.isEmpty = b.isEmpty := by
  have hint {m : Int64} {n : UInt64} (hv : m.toInt = n.toNat) : (m == 0) = (n == 0) := by
    have hm : m = 0 ↔ m.toInt = 0 := Int64.toInt_inj.symm
    have hn : n = 0 ↔ n.toNat = 0 := UInt64.toNat_inj.symm
    rw [Bool.eq_iff_iff, beq_iff_eq, beq_iff_eq, hm, hn, hv, Int.natCast_eq_zero]
  cases h with
  | intUint hv => exact hint hv
  | uintInt hv => exact (hint hv).symm
  | float hv => exact Binary64.isZero_congr hv
  | list hs => cases hs <;> rfl
  | map kind hs => cases hs <;> rfl
  | _ => rfl

theorem length? (h : SameForm R a b) : a.length? = b.length? := by
  cases h with
  | list hs => exact congrArg some hs.length_eq
  | map kind hs => exact congrArg some hs.length_eq
  | _ => rfl

theorem toText (h : SameForm R a b) : a.toText = b.toText := by
  cases h <;> rfl

theorem moment? (h : SameForm R a b) : a.moment? = b.moment? := by
  cases h <;> rfl

theorem toInt64 (h : SameForm R a b) : Converted Eq a.toInt64 b.toInt64 := by
  have hfits {m : Int64} {n : UInt64} (hv : m.toInt = n.toNat) :
      (Value.uint n).toInt64 = .ok m := by
    rw [Value.toInt64, MapKey.signed?_eq_some_iff.mpr hv]
  cases h with
  | intUint hv => rw [hfits hv]; exact .ok rfl
  | uintInt hv => rw [hfits hv]; exact .ok rfl
  | int _ | uint _ => exact .refl _
  | _ => exact .error rfl

theorem toUInt64 (h : SameForm R a b) : Converted Eq a.toUInt64 b.toUInt64 := by
  have hfits {m : Int64} {n : UInt64} (hv : m.toInt = n.toNat) :
      (Value.int m).toUInt64 = .ok n := by
    rw [Value.toUInt64, MapKey.unsigned?_eq_some_iff.mpr hv]
  cases h with
  | intUint hv => rw [hfits hv]; exact .ok rfl
  | uintInt hv => rw [hfits hv]; exact .ok rfl
  | int _ | uint _ => exact .refl _
  | _ => exact .error rfl

theorem toBinary64 (h : SameForm R a b) :
    Converted (fun x y => x.compare? = y.compare?) a.toBinary64 b.toBinary64 := by
  cases h with
  | intUint hv | uintInt hv =>
    rw [Value.toBinary64, Value.toBinary64, hv]
    exact .ok rfl
  | float hv => exact .ok (Binary64.compare?_congr hv)
  | int _ | uint _ => exact .ok rfl
  | _ => exact .error rfl

theorem toMoment (h : SameForm R a b) : Converted Eq a.toMoment b.toMoment := by
  rw [Value.toMoment, Value.toMoment, h.moment?]
  cases b.moment? with
  | some m => exact .ok rfl
  | none => exact .error rfl

/-- Elements are labelled alike. -/
theorem entries (h : SameForm R a b) :
    List.Forall₂ (fun e f => e.1 = f.1 ∧ R e.2 f.2) a.entries b.entries := by
  cases h with
  | list hs =>
    rename_i as bs
    have hindexed (n : Nat) : List.Forall₂ (fun p q => p.2 = q.2 ∧ R p.1 q.1)
        (as.zipIdx n) (bs.zipIdx n) := by
      induction hs generalizing n with
      | nil => exact .nil
      | cons hx _ ih => exact .cons ⟨rfl, hx⟩ (ih (n + 1))
    refine List.forall₂_map_left_iff.mpr (List.forall₂_map_right_iff.mpr ?_)
    exact (hindexed 0).imp fun p q hpq => ⟨congrArg toString hpq.1, hpq.2⟩
  | map kind hs =>
    refine List.forall₂_map_left_iff.mpr (List.forall₂_map_right_iff.mpr ?_)
    exact hs.imp fun p q hpq => ⟨congrArg MapKey.render hpq.1, hpq.2⟩
  | _ => exact .nil

end SameForm

section Fields
variable {R : Value → Value → Prop}

theorem rel_joinLevels {α : Type} {S : α → α → Prop} {xs xs' ys ys' : List (List α)}
    (hx : List.Forall₂ (List.Forall₂ S) xs xs') (hy : List.Forall₂ (List.Forall₂ S) ys ys') :
    List.Forall₂ (List.Forall₂ S) (joinLevels xs ys) (joinLevels xs' ys') := by
  induction hx generalizing ys ys' with
  | nil => simpa only [joinLevels] using hy
  | cons h hs ih =>
    cases hy with
    | nil => exact .cons h hs
    | cons k ks => exact .cons (List.rel_append h k) (ih ks)

theorem rel_embeddedLevels {fs gs : List (Field Value)}
    (h : List.Forall₂ (fun f g => f.embedded = g.embedded ∧
      List.Forall₂ (List.Forall₂ (Field.Alike R)) f.value.levels g.value.levels) fs gs) :
    List.Forall₂ (List.Forall₂ (Field.Alike R)) (embeddedLevels fs) (embeddedLevels gs) := by
  induction h with
  | nil => exact .nil
  | @cons f g fs gs hfg _ ih =>
    rw [embeddedLevels, embeddedLevels, hfg.1]
    split
    · exact rel_joinLevels hfg.2 ih
    · exact ih

/-- Equal values have equal fields level by level. -/
theorem rel_levels {a b : Value} (h : Equal a b) :
    List.Forall₂ (List.Forall₂ (Field.Alike Equal)) a.levels b.levels := by
  induction a using parts_induction generalizing b with
  | h a ih =>
    cases isEqual_iff.mp h with
    | struct name v w hs =>
      -- Embedded fields sit at the same places, and their values are smaller than the struct.
      refine .cons hs (rel_embeddedLevels ?_)
      exact forall₂_imp_of_mem (fun f hf g _ hfg =>
        ⟨hfg.embedded, ih f.value (List.mem_map_of_mem hf) hfg.value⟩) hs
    | _ => exact .nil

theorem rel_field? {a b : Value} (h : Equal a b) (name : String) :
    Option.Rel (Field.Alike Equal) (a.field? name) (b.field? name) :=
  rel_find? (fun f g hfg => by rw [hfg.name]) (List.rel_flatten (rel_levels h))

/-- Along a path equal values lead to equal fields under the same key. -/
theorem rel_fieldAlong? {a b : Value} (h : Equal a b) (names : List String) :
    Option.Rel (fun s t => s.1.Alike Equal t.1 ∧ s.2 = t.2)
      (a.fieldAlong? names) (b.fieldAlong? names) := by
  induction names generalizing a b with
  | nil => exact .none
  | cons name rest ih =>
    have hfield := rel_field? h name
    cases rest with
    | nil => exact rel_map (fun f g hfg => ⟨hfg, hfg.errorKey⟩) hfield
    | cons next rest =>
      simp only [fieldAlong?]
      generalize a.field? name = f? at hfield ⊢
      generalize b.field? name = g? at hfield ⊢
      cases hfield with
      | none => exact .none
      | some hfg =>
        refine rel_map (fun s t hst => ⟨hst.1, ?_⟩) (ih hfg.value)
        rw [hfg.errorKey, hst.2]

theorem rel_resolve? {a b : Value} (h : Equal a b) (path : String) :
    Option.Rel (fun s t => s.1.Alike Equal t.1 ∧ s.2 = t.2) (a.resolve? path) (b.resolve? path) :=
  rel_fieldAlong? h _

end Fields
end Value
end Verdict
