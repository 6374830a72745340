import Mathlib.Data.List.Nodup
import Verdict.Proofs.LastWrite
import Verdict.Proofs.MapKeyForms
import Verdict.Values.Value

/-! Maps filled entry by entry: the keys they store are in the form of their kind where they have
one, and a key finds what was written last under any spelling of it. -/
namespace Verdict

/-- What a map key stands for. Both representations of an integer stand for it. -/
inductive KeyMeaning where
  | bool (b : Bool)
  | integer (i : Int)
  | text (s : String)
deriving DecidableEq

namespace MapKey
variable {kind : KeyKind} {k l k' l' c : MapKey} {m : Int64} {n : UInt64}

def meaning : MapKey → KeyMeaning
  | .bool b => .bool b
  | .int n => .integer n.toInt
  | .uint n => .integer n.toNat
  | .text s => .text s

theorem meaning_of_coerce? (h : k.coerce? kind = some k') : k'.meaning = k.meaning := by
  rcases coerce?_cases h with rfl | ⟨m, n, hv, ⟨rfl, rfl⟩ | ⟨rfl, rfl⟩⟩
  · rfl
  · exact congrArg KeyMeaning.integer hv
  · exact congrArg KeyMeaning.integer hv.symm

private theorem coerce?_int_eq_uint (h : m.toInt = n.toNat) :
    (int m).coerce? kind = (uint n).coerce? kind := by
  cases kind with
  | any | int => simp [coerce?, signed?_eq_some_iff.mpr h]
  | uint => simp [coerce?, unsigned?_eq_some_iff.mpr h]
  | bool | text => rfl

/-- Keys of one meaning are the same key, or the two representations of an integer. -/
private theorem meaning_eq_cases (h : k.meaning = l.meaning) : k = l ∨
    ∃ (m : Int64) (n : UInt64), m.toInt = n.toNat ∧
      (k = .int m ∧ l = .uint n ∨ k = .uint n ∧ l = .int m) := by
  cases k <;> cases l <;> simp only [meaning, KeyMeaning.bool.injEq, KeyMeaning.integer.injEq,
    KeyMeaning.text.injEq, reduceCtorEq] at h
  case bool.bool => exact .inl (congrArg bool h)
  case int.int => exact .inl (congrArg int (Int64.toInt_inj.mp h))
  case int.uint m n => exact .inr ⟨m, n, h, .inl ⟨rfl, rfl⟩⟩
  case uint.int n m => exact .inr ⟨m, n, h.symm, .inr ⟨rfl, rfl⟩⟩
  case uint.uint => exact .inl (congrArg uint (UInt64.toNat_inj.mp (Int.ofNat_inj.mp h)))
  case text.text => exact .inl (congrArg text h)

/-- The form of a key in a map follows from its meaning. -/
theorem coerce?_congr (h : k.meaning = l.meaning) : k.coerce? kind = l.coerce? kind := by
  rcases meaning_eq_cases h with rfl | ⟨m, n, hv, ⟨rfl, rfl⟩ | ⟨rfl, rfl⟩⟩
  · rfl
  · exact coerce?_int_eq_uint hv
  · exact (coerce?_int_eq_uint hv).symm

theorem coerce?_idem (h : k.coerce? kind = some k') : k'.coerce? kind = some k' := by
  rw [coerce?_congr (meaning_of_coerce? h), h]

theorem coerced_eq_iff (h : k.coerce? kind = some k') (h' : l.coerce? kind = some l') :
    k' = l' ↔ k.meaning = l.meaning := by
  constructor
  · rintro rfl
    rw [← meaning_of_coerce? h, meaning_of_coerce? h']
  · intro hm
    rw [coerce?_congr hm, h'] at h
    exact (Option.some.inj h).symm

/-- A key as a map stores it: in the form of the kind, or without one. -/
def Settled (kind : KeyKind) (k : MapKey) : Prop :=
  k.coerce? kind = some k ∨ k.coerce? kind = none

theorem settled_stored (kind : KeyKind) (k : MapKey) : Settled kind (k.stored kind) := by
  rw [stored]
  cases h : k.coerce? kind with
  | none => exact .inr h
  | some k' => exact .inl (coerce?_idem h)

theorem stored_eq_iff (hc : c.coerce? kind = some c) :
    k.stored kind = c ↔ k.coerce? kind = some c := by
  rw [stored]
  cases h : k.coerce? kind with
  | some k' => simp
  | none =>
    refine iff_of_false (fun hk => ?_) (by simp)
    rw [← show k = c from hk, h] at hc
    cases hc

private theorem int_has_form (hkind : kind = .any ∨ kind = .int ∨ kind = .uint)
    (h : m.toInt = n.toNat) : (int m).coerce? kind ≠ none := by
  rcases hkind with rfl | rfl | rfl
  · nofun
  · nofun
  · rw [coerce?_int_eq_uint h]
    nofun

/-- In maps of integers, or of any keys, no two settled keys have one meaning. -/
theorem Settled.eq_of_meaning (hkind : kind = .any ∨ kind = .int ∨ kind = .uint)
    (hk : Settled kind k) (hl : Settled kind l) (h : k.meaning = l.meaning) : k = l := by
  have hc : k.coerce? kind = l.coerce? kind := coerce?_congr h
  rcases hk with hk | hk
  · rcases hl with hl | hl
    · exact Option.some.inj (by rw [← hk, hc, hl])
    · rw [hc, hl] at hk
      cases hk
  · -- A key without a form has no second representation.
    rcases meaning_eq_cases h with rfl | ⟨m, n, hv, ⟨rfl, rfl⟩ | ⟨rfl, rfl⟩⟩
    · rfl
    · exact absurd hk (int_has_form hkind hv)
    · exact absurd (hc.symm.trans hk) (int_has_form hkind hv)

end MapKey

namespace Value
variable {kind : KeyKind} {inserts : List (MapKey × Value)} {c : MapKey} {v : Value}

/-- The entries of a map that was empty before they were written in turn. -/
def inserted (kind : KeyKind) (inserts : List (MapKey × Value)) : List (MapKey × Value) :=
  inserts.foldl (fun es w => insertEntry kind w.1 w.2 es) []

theorem inserted_eq_ofList : inserted kind inserts =
    SortedEntries.ofList (inserts.map fun w => (w.1.stored kind, w.2)) := by
  rw [SortedEntries.ofList, SortedEntries.insertAll, List.foldl_map]
  rfl

theorem sorted_inserted : SortedEntries.Sorted (inserted kind inserts) := by
  rw [inserted_eq_ofList]
  exact SortedEntries.sorted_ofList

theorem settled_insertEntry {entries : List (MapKey × Value)} {k : MapKey}
    (h : ∀ e ∈ entries, MapKey.Settled kind e.1) :
    ∀ e ∈ insertEntry kind k v entries, MapKey.Settled kind e.1 := by
  intro e he
  rcases SortedEntries.mem_insert he with rfl | he
  · exact MapKey.settled_stored kind k
  · exact h e he

theorem settled_inserted : ∀ e ∈ inserted kind inserts, MapKey.Settled kind e.1 := by
  -- A later write comes upon any settled entries, so those it starts from are not fixed.
  have hrun : ∀ entries : List (MapKey × Value), (∀ e ∈ entries, MapKey.Settled kind e.1) →
      ∀ e ∈ inserts.foldl (fun es w => insertEntry kind w.1 w.2 es) entries,
        MapKey.Settled kind e.1 := by
    induction inserts with
    | nil => exact fun _ h => h
    | cons w ws ih => exact fun entries h => ih _ (settled_insertEntry h)
  exact hrun [] (by simp)

/-- A key in the form of the kind finds the last of the writes under any key of that form. -/
theorem get?_inserted (hc : c.coerce? kind = some c) :
    SortedEntries.get? c (inserted kind inserts) = some v ↔
      ∃ p, LastWith (fun w => w.1.coerce? kind = some c) inserts (p, v) := by
  rw [inserted_eq_ofList, SortedEntries.ofList, SortedEntries.get?_insertAll, LastWith.map_iff]
  simp only [MapKey.stored_eq_iff hc, SortedEntries.get?, reduceCtorEq, and_false, or_false]
  constructor
  · rintro ⟨⟨p, u⟩, heq, hl⟩
    cases heq
    exact ⟨p, hl⟩
  · rintro ⟨p, hl⟩
    exact ⟨(p, v), by rw [(MapKey.stored_eq_iff hc).mpr hl.holds], hl⟩

theorem get?_inserted_eq_none (hc : c.coerce? kind = some c) :
    SortedEntries.get? c (inserted kind inserts) = none ↔
      ∀ w ∈ inserts, w.1.coerce? kind ≠ some c := by
  have hsome : (∃ v, SortedEntries.get? c (inserted kind inserts) = some v) ↔
      ∃ w ∈ inserts, w.1.coerce? kind = some c := by
    simp only [get?_inserted hc]
    rw [exists_comm, ← LastWith.exists_iff, Prod.exists]
  rw [← Option.not_isSome_iff_eq_none, Option.isSome_iff_exists, hsome]
  simp

theorem nodup_meanings_inserted (hkind : kind = .any ∨ kind = .int ∨ kind = .uint) :
    ((inserted kind inserts).map fun e => e.1.meaning).Nodup := by
  refine List.pairwise_map.mpr (sorted_inserted.imp_of_mem fun {a b} ha hb hlt hm => ?_)
  have hkey := (settled_inserted a ha).eq_of_meaning hkind (settled_inserted b hb) hm
  rw [hkey, Std.ReflOrd.compare_self] at hlt
  cases hlt

/-- A map of a kind, however it is filled: its keys are in the form of the kind or have none, a key
finds the last write under any key of its form, no two integers of one value are stored side by
side, and the form of a key is told by what the key stands for. -/
theorem typed_map_keys (kind : KeyKind) (inserts : List (MapKey × Value)) :
    mapOfList kind inserts = .map kind (inserted kind inserts) ∧
    (∀ e ∈ inserted kind inserts, e.1.coerce? kind = some e.1 ∨ e.1.coerce? kind = none) ∧
    (∀ q c : MapKey, q.coerce? kind = some c →
      (∀ v, SortedEntries.get? c (inserted kind inserts) = some v ↔
        ∃ p, LastWith (fun w => w.1.coerce? kind = some c) inserts (p, v)) ∧
      (SortedEntries.get? c (inserted kind inserts) = none ↔
        ∀ w ∈ inserts, w.1.coerce? kind ≠ some c)) ∧
    (kind = .any ∨ kind = .int ∨ kind = .uint →
      ((inserted kind inserts).map fun e => e.1.meaning).Nodup) ∧
    ∀ p q p' q' : MapKey, p.coerce? kind = some p' → q.coerce? kind = some q' →
      (p' = q' ↔ p.meaning = q.meaning) ∧ p'.render = p.render ∧ p'.coerce? kind = some p' := by
  refine ⟨rfl, settled_inserted, fun q c hq => ?_, nodup_meanings_inserted, ?_⟩
  · have hc := MapKey.coerce?_idem hq
    exact ⟨fun v => get?_inserted hc, get?_inserted_eq_none hc⟩
  · intro p q p' q' hp hq
    exact ⟨MapKey.coerced_eq_iff hp hq, MapKey.render_of_coerce? hp, MapKey.coerce?_idem hp⟩

example : inserted .uint [(.int 5, .nil), (.int (-1), .nil), (.uint 5, .bool true)] =
    [(.int (-1), .nil), (.uint 5, .bool true)] := rfl

end Value
end Verdict
