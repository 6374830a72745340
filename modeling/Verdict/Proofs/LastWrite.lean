import Mathlib.Data.List.Dedup
import Mathlib.Data.List.Sort
import Verdict.Errors.KeyedErrors

/-! Sorted entries after a list of writes: they stay sorted, and each key holds what was
written to it last. -/
namespace Verdict

/-- The last item of a list that has a property. -/
def LastWith {α : Type} (p : α → Prop) (xs : List α) (x : α) : Prop :=
  ∃ before after, xs = before ++ x :: after ∧ p x ∧ ∀ y ∈ after, ¬ p y

namespace LastWith
variable {α β : Type} {p : α → Prop} {xs ys : List α} {x y : α}

theorem holds (h : LastWith p xs x) : p x := by
  obtain ⟨_, _, _, hp, _⟩ := h
  exact hp

theorem mem (h : LastWith p xs x) : x ∈ xs := by
  obtain ⟨before, after, rfl, _, _⟩ := h
  simp

@[simp] theorem nil_iff : LastWith p [] x ↔ False := by
  refine ⟨fun h => ?_, False.elim⟩
  simpa using h.mem

theorem cons_iff : LastWith p (y :: ys) x ↔
    LastWith p ys x ∨ (x = y ∧ p y ∧ ∀ z ∈ ys, ¬ p z) := by
  constructor
  · rintro ⟨before, after, he, hp, hn⟩
    cases before with
    | nil =>
      obtain ⟨rfl, rfl⟩ := List.cons.inj he
      exact .inr ⟨rfl, hp, hn⟩
    | cons z before =>
      obtain ⟨rfl, rfl⟩ := List.cons.inj he
      exact .inl ⟨before, after, rfl, hp, hn⟩
  · rintro (⟨before, after, rfl, hp, hn⟩ | ⟨rfl, hp, hn⟩)
    · exact ⟨y :: before, after, rfl, hp, hn⟩
    · exact ⟨[], ys, rfl, hp, hn⟩

theorem append_iff : LastWith p (xs ++ ys) x ↔
    LastWith p ys x ∨ (LastWith p xs x ∧ ∀ z ∈ ys, ¬ p z) := by
  induction xs with
  | nil => simp
  | cons z zs ih =>
    simp only [List.cons_append, cons_iff, ih, List.forall_mem_append, or_and_right, or_assoc,
      and_assoc]

theorem concat_iff :
    LastWith p (xs ++ [y]) x ↔ (x = y ∧ p y) ∨ (LastWith p xs x ∧ ¬ p y) := by
  simp [append_iff, cons_iff]

/-- A list has a last item with a property if it has one at all. -/
theorem exists_iff : (∃ x, LastWith p xs x) ↔ ∃ x ∈ xs, p x := by
  refine ⟨fun ⟨x, h⟩ => ⟨x, h.mem, h.holds⟩, ?_⟩
  rintro ⟨x, hx, hp⟩
  induction xs generalizing x with
  | nil => cases hx
  | cons y ys ih =>
    by_cases hy : ∃ z ∈ ys, p z
    · obtain ⟨z, hz, hq⟩ := hy
      obtain ⟨w, hw⟩ := ih z hz hq
      exact ⟨w, cons_iff.mpr (.inl hw)⟩
    · have hn : ∀ z ∈ ys, ¬ p z := fun z hz hq => hy ⟨z, hz, hq⟩
      rcases List.mem_cons.mp hx with rfl | hx
      · exact ⟨x, cons_iff.mpr (.inr ⟨rfl, hp, hn⟩)⟩
      · exact absurd hp (hn x hx)

/-- The last of the images that exist comes from the last item with such an image. -/
theorem filterMap_iff {f : β → Option α} {bs : List β} :
    LastWith p (bs.filterMap f) x ↔
      ∃ b, f b = some x ∧ LastWith (fun b => ∃ y, f b = some y ∧ p y) bs b := by
  induction bs with
  | nil => simp
  | cons b bs ih =>
    have hnone : (∀ z ∈ bs.filterMap f, ¬ p z) ↔ ∀ d ∈ bs, ¬ ∃ y, f d = some y ∧ p y := by
      simp only [List.mem_filterMap, not_exists, not_and, forall_exists_index, and_imp]
      exact ⟨fun h d hd y hy => h y d hd hy, fun h z d hd hz => h d hd z hz⟩
    simp only [cons_iff, exists_or, and_or_left]
    rw [← ih]
    cases hf : f b with
    | none =>
      rw [List.filterMap_cons_none hf]
      simp only [iff_self_or]
      rintro ⟨d, hd, rfl, _⟩
      simp [hf] at hd
    | some a =>
      rw [List.filterMap_cons_some hf, cons_iff, hnone]
      refine or_congr_right ⟨?_, ?_⟩
      · rintro ⟨rfl, hp, hn⟩
        exact ⟨b, hf, rfl, ⟨x, rfl, hp⟩, hn⟩
      · rintro ⟨d, hd, rfl, ⟨y, hy, hp⟩, hn⟩
        rw [hf] at hd
        cases hd
        cases hy
        exact ⟨rfl, hp, hn⟩

/-- The last image comes from the last item with such an image. -/
theorem map_iff {f : β → α} {bs : List β} :
    LastWith p (bs.map f) x ↔ ∃ b, f b = x ∧ LastWith (fun b => p (f b)) bs b := by
  rw [← List.filterMap_eq_map, filterMap_iff]
  simp

/-- Among items of distinct keys each is the last of its key. -/
theorem iff_of_nodup {κ : Type} {key : α → κ} {q : α → Prop} (h : (xs.map key).Nodup) {s : κ} :
    LastWith (fun x => key x = s ∧ q x) xs x ↔ x ∈ xs ∧ key x = s ∧ q x := by
  refine ⟨fun hl => ⟨hl.mem, hl.holds⟩, fun ⟨hx, hk, hq⟩ => ?_⟩
  obtain ⟨y, hl⟩ := (exists_iff (p := fun x => key x = s ∧ q x)).mpr ⟨x, hx, hk, hq⟩
  rwa [List.inj_on_of_nodup_map h hx hl.mem (hk.trans hl.holds.1.symm)]

end LastWith

namespace SortedEntries
variable {κ α : Type} [Ord κ] {k k' : κ} {a : α} {es new : List (κ × α)}

theorem mem_insert {p : κ × α} (h : p ∈ insert k a es) : p = (k, a) ∨ p ∈ es := by
  fun_induction insert k a es with
  | case1 => exact .inl (by simpa using h)
  | case2 => simpa using h
  | case3 =>
    rcases List.mem_cons.mp h with h | h
    · exact .inl h
    · exact .inr (List.mem_cons_of_mem _ h)
  | case4 k' a' rest _ ih =>
    rcases List.mem_cons.mp h with h | h
    · exact .inr (List.mem_cons.mpr (.inl h))
    · exact (ih h).imp_right (List.mem_cons_of_mem _)

theorem mem_insertAll {p : κ × α} (h : p ∈ insertAll new es) : p ∈ new ∨ p ∈ es := by
  induction new generalizing es with
  | nil => exact .inr h
  | cons w ws ih =>
    rcases @ih (insert w.1 w.2 es) h with h | h
    · exact .inl (List.mem_cons_of_mem _ h)
    · exact (mem_insert h).imp_left fun h => List.mem_cons.mpr (.inl h)

theorem mem_values_of_get? (h : get? k es = some a) : a ∈ es.map Prod.snd := by
  fun_induction get? k es with
  | case1 => cases h
  | case2 =>
    cases h
    exact List.mem_cons_self
  | case3 k' a' rest _ ih => exact List.mem_cons_of_mem _ (ih h)

section Map
variable {μ β : Type} [Ord μ] {g : κ → μ} (hg : ∀ k l, compare (g k) (g l) = compare k l)
  (f : α → β)
include hg

/-- Keys that keep their order and values may be changed before or after a write. -/
theorem insert_map (k : κ) (a : α) (es : List (κ × α)) :
    insert (g k) (f a) (es.map (Prod.map g f)) = (insert k a es).map (Prod.map g f) := by
  induction es with
  | nil => rfl
  | cons e rest ih =>
    rw [List.map_cons, insert, insert, Prod.map_fst, hg]
    cases compare k e.1 with
    | lt => rfl
    | eq => rfl
    | gt => exact congrArg (List.cons _) ih

theorem insertAll_map (new es : List (κ × α)) :
    insertAll (new.map (Prod.map g f)) (es.map (Prod.map g f)) =
      (insertAll new es).map (Prod.map g f) := by
  induction new generalizing es with
  | nil => rfl
  | cons w ws ih =>
    rw [List.map_cons, insertAll, List.foldl_cons, Prod.map_fst, Prod.map_snd, insert_map hg]
    exact ih _

end Map

/-- Sorted entries are told apart by what is among them. -/
theorem eq_of_mem_iff [Std.TransOrd κ] {fs : List (κ × α)} (he : Sorted es) (hf : Sorted fs)
    (h : ∀ p, p ∈ es ↔ p ∈ fs) : es = fs := by
  have hirrefl : Std.Irrefl fun a b : κ × α => compare a.1 b.1 = .lt :=
    ⟨fun a hlt => by simp [Std.ReflOrd.compare_self] at hlt⟩
  have hantisymm : Std.Antisymm fun a b : κ × α => compare a.1 b.1 = .lt :=
    ⟨fun a b hlt hgt => by rw [Std.OrientedCmp.gt_of_lt hlt] at hgt; cases hgt⟩
  exact List.Pairwise.eq_of_mem_iff he hf h

variable [Std.LawfulEqOrd κ]

theorem mem_of_get? (h : get? k es = some a) : (k, a) ∈ es := by
  fun_induction get? k es with
  | case1 => cases h
  | case2 k' a' rest hk =>
    cases h
    rw [Std.LawfulEqOrd.eq_of_compare (beq_iff_eq.mp hk)]
    exact List.mem_cons_self
  | case3 k' a' rest _ ih => exact List.mem_cons_of_mem _ (ih h)

theorem get?_insert [DecidableEq κ] :
    get? k' (insert k a es) = if k' = k then some a else get? k' es := by
  fun_induction insert k a es with
  | case1 => simp [get?]
  | case2 => simp [get?]
  | case3 l b rest hk =>
    obtain rfl := Std.LawfulEqOrd.eq_of_compare hk
    by_cases h : k' = k <;> simp [get?, h]
  | case4 l b rest hk ih =>
    have hne : k ≠ l := by
      rintro rfl
      simp [Std.ReflOrd.compare_self] at hk
    simp only [get?, ih]
    split <;> split <;> simp_all

/-- After a list of writes a key holds what was written to it last. -/
theorem get?_insertAll [DecidableEq κ] : get? k (insertAll new es) = some a ↔
    LastWith (fun w => w.1 = k) new (k, a) ∨ ((∀ w ∈ new, w.1 ≠ k) ∧ get? k es = some a) := by
  induction new generalizing es with
  | nil => simp [insertAll]
  | cons w ws ih =>
    rw [insertAll, List.foldl_cons, ← insertAll, ih, get?_insert, LastWith.cons_iff]
    by_cases hw : w.1 = k
    · have hv : (k, a) = w ↔ w.2 = a := by rw [← hw, Prod.ext_iff]; simp [eq_comm]
      simp [hw, hv, and_comm]
    · simp [hw, Ne.symm hw]

theorem nodup_keys (h : Sorted es) : (es.map Prod.fst).Nodup := by
  refine List.pairwise_map.mpr (h.imp fun {a b} hlt heq => ?_)
  rw [heq, Std.ReflOrd.compare_self] at hlt
  cases hlt

variable [Std.TransOrd κ]

theorem sorted_insert (h : Sorted es) : Sorted (insert k a es) := by
  fun_induction insert k a es with
  | case1 => exact List.pairwise_singleton _ _
  | case2 k' a' rest hk =>
    refine List.pairwise_cons.mpr ⟨fun p hp => ?_, h⟩
    rcases List.mem_cons.mp hp with rfl | hp
    · exact hk
    · exact Std.TransCmp.lt_trans hk ((List.pairwise_cons.mp h).1 p hp)
  | case3 k' a' rest hk =>
    rw [Std.LawfulEqOrd.eq_of_compare hk]
    exact List.pairwise_cons.mpr (List.pairwise_cons.mp h)
  | case4 k' a' rest hk ih =>
    obtain ⟨hlt, hrest⟩ := List.pairwise_cons.mp h
    refine List.pairwise_cons.mpr ⟨fun p hp => ?_, ih hrest⟩
    rcases mem_insert hp with rfl | hp
    · exact Std.OrientedCmp.lt_of_gt hk
    · exact hlt p hp

theorem sorted_insertAll (h : Sorted es) : Sorted (insertAll new es) := by
  induction new generalizing es with
  | nil => exact h
  | cons w ws ih => exact ih (sorted_insert h)

theorem get?_eq_some_iff (h : Sorted es) : get? k es = some a ↔ (k, a) ∈ es := by
  refine ⟨mem_of_get?, fun hm => ?_⟩
  induction es with
  | nil => cases hm
  | cons p rest ih =>
    obtain ⟨hlt, hrest⟩ := List.pairwise_cons.mp h
    rcases List.mem_cons.mp hm with rfl | hm
    · simp [get?]
    · have hne : compare k p.1 = .gt := Std.OrientedCmp.gt_of_lt (hlt _ hm)
      simp [get?, hne, ih hrest hm]

section OfList
variable {ws : List (κ × α)}

theorem sorted_ofList : Sorted (ofList ws) := sorted_insertAll .nil

/-- Entries made of a list of writes are the last writes of their keys. -/
theorem mem_ofList [DecidableEq κ] :
    (k, a) ∈ ofList ws ↔ LastWith (fun w => w.1 = k) ws (k, a) := by
  rw [← get?_eq_some_iff sorted_ofList, ofList, get?_insertAll]
  simp [get?]

theorem keys_ofList_perm [DecidableEq κ] :
    ((ofList ws).map Prod.fst).Perm (ws.map Prod.fst).dedup := by
  refine (List.perm_ext_iff_of_nodup (nodup_keys sorted_ofList) (List.nodup_dedup _)).mpr ?_
  intro k
  have hlast : (∃ a, LastWith (fun w => w.1 = k) ws (k, a)) ↔ ∃ w ∈ ws, w.1 = k := by
    rw [← LastWith.exists_iff]
    constructor
    · rintro ⟨a, h⟩
      exact ⟨_, h⟩
    · rintro ⟨⟨k', a⟩, h⟩
      obtain rfl : k' = k := h.holds
      exact ⟨a, h⟩
  simpa [mem_ofList] using hlast

/-- As many entries as writes are left exactly if no key was written twice. -/
theorem length_ofList_eq_iff [DecidableEq κ] :
    (ofList ws).length = ws.length ↔ (ws.map Prod.fst).Nodup := by
  have hlen : (ofList ws).length = (ws.map Prod.fst).dedup.length := by
    simpa using keys_ofList_perm.length_eq
  rw [hlen, ← List.dedup_eq_self, ← List.length_map (f := Prod.fst)]
  exact ⟨fun h => (List.dedup_sublist _).eq_of_length h, fun h => by rw [h]⟩

/-- All writes are left exactly if no key was written twice. -/
theorem ofList_perm_iff [DecidableEq κ] : (ofList ws).Perm ws ↔ (ws.map Prod.fst).Nodup := by
  refine ⟨fun h => length_ofList_eq_iff.mp h.length_eq, fun h => ?_⟩
  have hnodup : (ofList ws).Nodup := (nodup_keys sorted_ofList).of_map
  refine (List.perm_ext_iff_of_nodup hnodup h.of_map).mpr fun ⟨k, a⟩ => ?_
  rw [mem_ofList]
  simpa using LastWith.iff_of_nodup (q := fun _ => True) (x := (k, a)) (s := k) h

end OfList

end SortedEntries
end Verdict
