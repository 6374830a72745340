import Verdict.Proofs.ByteOrder
import Verdict.Proofs.CollectedErrors
import Verdict.Proofs.FlatText

/-! What a store of errors by key shows after any history of writes, merges and filters: the
last write of each key, in the order of the keys' bytes. -/
namespace Verdict

namespace LastWith
variable {α κ : Type} {xs : List α} {x : α}

theorem findRev?_eq_some_iff {p : α → Bool} :
    xs.findRev? p = some x ↔ LastWith (fun y => p y = true) xs x := by
  induction xs generalizing x with
  | nil => simp [List.findRev?]
  | cons y ys ih =>
    have hnone : ys.findRev? p = none ↔ ∀ z ∈ ys, ¬ p z = true := by
      simp only [Option.eq_none_iff_forall_ne_some, ne_eq, ih]
      rw [← not_exists, exists_iff]
      simp
    rw [List.findRev?, cons_iff, ← ih, ← hnone]
    cases ys.findRev? p with
    | some z => simp
    | none => cases p y <;> simp [eq_comm]

theorem filter_iff {p : α → Prop} {q : α → Bool} :
    LastWith p (xs.filter q) x ↔ LastWith (fun y => q y = true ∧ p y) xs x := by
  rw [← List.filterMap_eq_filter, filterMap_iff]
  simpa [Option.guard_eq_some_iff, and_comm] using fun h => h.holds.2

/-- Keeping the items of some keys keeps the last item of each of them. -/
theorem filter_key_iff (key : α → κ) (keep : κ → Bool) {k : κ} :
    LastWith (fun y => key y = k) (xs.filter fun y => keep (key y)) x ↔
      keep k = true ∧ LastWith (fun y => key y = k) xs x := by
  have hkey : (fun y => keep (key y) = true ∧ key y = k) = fun y => keep k = true ∧ key y = k := by
    funext y
    exact propext (and_congr_left fun h => by rw [h])
  rw [filter_iff, hkey]
  cases keep k
  · simpa using fun h => h.holds
  · simp

end LastWith

namespace SortedEntries
variable {κ α : Type} [Ord κ] {k : κ} {a : α} {ws vs : List (κ × α)}

theorem insert_ofList : insert k a (ofList ws) = ofList (ws ++ [(k, a)]) := by
  simp only [ofList, insertAll, List.foldl_append, List.foldl_cons, List.foldl_nil]

variable [Std.TransOrd κ] [Std.LawfulEqOrd κ] [DecidableEq κ]

/-- Writing the entries that some writes came to is writing those writes. -/
theorem insertAll_ofList : insertAll (ofList vs) (ofList ws) = ofList (ws ++ vs) := by
  have hsorted : Sorted (insertAll (ofList vs) (ofList ws)) := sorted_insertAll sorted_ofList
  refine eq_of_mem_iff hsorted sorted_ofList fun ⟨k, a⟩ => ?_
  have hlast : LastWith (fun w => w.1 = k) (ofList vs) (k, a) ↔
      LastWith (fun w => w.1 = k) vs (k, a) := by
    have hnodup : ((ofList vs).map Prod.fst).Nodup := nodup_keys sorted_ofList
    refine Iff.trans ?_ mem_ofList
    simpa using LastWith.iff_of_nodup (q := fun _ => True) (x := (k, a)) (s := k) hnodup
  have hkeys : (∀ w ∈ ofList vs, w.1 ≠ k) ↔ ∀ w ∈ vs, w.1 ≠ k := by
    have hmap (xs : List (κ × α)) : (∀ w ∈ xs, w.1 ≠ k) ↔ k ∉ xs.map Prod.fst := by
      simp only [List.mem_map, not_exists, not_and, ne_eq]
    rw [hmap, hmap, keys_ofList_perm.mem_iff, List.mem_dedup]
  rw [← get?_eq_some_iff hsorted, get?_insertAll, get?_eq_some_iff sorted_ofList, mem_ofList,
    mem_ofList, LastWith.append_iff, hlast, hkeys, and_comm (b := LastWith _ ws _)]

end SortedEntries

namespace KeyedErrors

/-- How a store came about: empty or collected from entries, and then written to, merged with a
store that has a history of its own, or filtered. -/
inductive History where
  | empty
  | ofList (entries : List (String × Option Error))
  | set (before : History) (key : String) (error : Option Error)
  | insert (before : History) (key : String) (error : Error)
  | merge (before new : History)
  | filter (before : History)

/-- What was written to a key last, which may be an absence. -/
def lastWrite? (writes : List (String × Option Error)) (key : String) : Option (Option Error) :=
  (writes.findRev? fun w => w.1 == key).map Prod.snd

/-- The writes of the keys whose last write was an error. -/
def kept (writes : List (String × Option Error)) : List (String × Option Error) :=
  writes.filter fun w => (lastWrite? writes w.1).join.isSome

namespace History

/-- The store, unless filtering left nothing of it. -/
def store? : History → Option KeyedErrors
  | empty => some KeyedErrors.empty
  | ofList entries => some (KeyedErrors.ofList entries)
  | set before key error => before.store?.map fun es => es.set key error
  | insert before key error => before.store?.map fun es => es.insert key error
  | merge before new => before.store?.bind fun es => new.store?.map es.merge
  | filter before => before.store?.bind KeyedErrors.filter

/-- All writes in their order, those of a merged store after those before. Filtering forgets the
keys that hold no error. -/
def writes : History → List (String × Option Error)
  | empty => []
  | ofList entries => entries
  | set before key error => before.writes ++ [(key, error)]
  | insert before key error => before.writes ++ [(key, some error)]
  | merge before new => before.writes ++ new.writes
  | filter before => kept before.writes

end History

/-- A store shows the last writes of the keys written to, to every observer. -/
structure Shows (es : KeyedErrors) (writes : List (String × Option Error)) : Prop where
  ascending : es.toList.Pairwise fun p q => utf8 p.1 < utf8 q.1
  present (key : String) (e : Error) :
    (key, e) ∈ es.toList ↔ LastWith (fun w => w.1 = key) writes (key, some e)
  found (key : String) (e : Error) : es.get? key = some e ↔ (key, e) ∈ es.toList
  contained (key : String) : es.contains key = true ↔ ∃ e, (key, e) ∈ es.toList
  listed : es.keys = es.toList.map Prod.fst
  -- a key counts once it was written, even if nothing but absences
  counted : es.length = (writes.map Prod.fst).dedup.length
  emptied : es.filter = none ↔ es.toList = []
  filtered (fs : KeyedErrors) : es.filter = some fs →
    fs.toList = es.toList ∧ (Error.fields fs).message = (Error.fields es).message ∧
      (Error.fields fs).toJson = (Error.fields es).toJson
  failing : (∃ e, es.toOutcome = .error e) ↔ es.toList ≠ []
  failure (e : Error) : es.toOutcome = .error e →
    ∃ fs : KeyedErrors, e = .fields fs ∧ fs.toList = es.toList ∧ ∀ p ∈ fs, p.2 ≠ none

variable {ws vs : List (String × Option Error)} {es fs : KeyedErrors} {key : String} {e : Error}

theorem lastWrite?_eq_some_iff {o : Option Error} :
    lastWrite? ws key = some o ↔ LastWith (fun w => w.1 = key) ws (key, o) := by
  simp only [lastWrite?, Option.map_eq_some_iff, LastWith.findRev?_eq_some_iff, beq_iff_eq]
  constructor
  · rintro ⟨⟨k, o⟩, h, rfl⟩
    obtain rfl : k = key := h.holds
    exact h
  · exact fun h => ⟨_, h, rfl⟩

theorem filter_eq_some_iff : es.filter = some fs ↔ es.present ≠ [] ∧ fs = es.present := by
  cases h : es.present <;> rw [present] at h <;> simp [filter, h, eq_comm]

theorem toList_present (es : KeyedErrors) : es.present.toList = es.toList := by
  rw [present, toList, toList, List.filterMap_filter]
  refine List.filterMap_congr fun p _ => ?_
  cases p.2 <;> rfl

theorem present_ofList (ws : List (String × Option Error)) :
    (ofList ws).present = ofList (kept ws) := by
  have hsorted : SortedEntries.Sorted (ofList ws).present :=
    SortedEntries.sorted_ofList.sublist List.filter_sublist
  refine SortedEntries.eq_of_mem_iff hsorted SortedEntries.sorted_ofList fun ⟨k, o⟩ => ?_
  rw [mem_present, ofList, SortedEntries.mem_ofList, ofList, SortedEntries.mem_ofList, kept,
    LastWith.filter_key_iff Prod.fst fun k => (lastWrite? ws k).join.isSome, and_comm]
  refine and_congr_left fun h => ?_
  rw [lastWrite?_eq_some_iff.mpr h]
  rfl

/-- Every store is what its writes fill. -/
theorem History.store?_eq_ofList {h : History} (hs : h.store? = some es) :
    es = KeyedErrors.ofList h.writes := by
  induction h generalizing es with
  | empty => exact (Option.some.inj hs).symm
  | ofList entries => exact (Option.some.inj hs).symm
  | set before key error ih =>
    obtain ⟨bs, hb, rfl⟩ := Option.map_eq_some_iff.mp hs
    rw [ih hb]
    exact SortedEntries.insert_ofList
  | insert before key error ih =>
    obtain ⟨bs, hb, rfl⟩ := Option.map_eq_some_iff.mp hs
    rw [ih hb]
    exact SortedEntries.insert_ofList
  | merge before new ihb ihn =>
    obtain ⟨bs, hb, hm⟩ := Option.bind_eq_some_iff.mp hs
    obtain ⟨ns, hn, rfl⟩ := Option.map_eq_some_iff.mp hm
    rw [ihb hb, ihn hn]
    exact SortedEntries.insertAll_ofList
  | filter before ih =>
    obtain ⟨bs, hb, hf⟩ := Option.bind_eq_some_iff.mp hs
    rw [(filter_eq_some_iff.mp hf).2, ih hb]
    exact present_ofList _

theorem present_eq_nil_iff_toList : es.present = [] ↔ es.toList = [] := by
  rw [present_eq_nil_iff, toList, List.filterMap_eq_nil_iff]
  simp

/-- Messages and trees of messages are made of the present errors alone. -/
theorem shown_present (es : KeyedErrors) :
    (Error.fields es.present).message = (Error.fields es).message ∧
      (Error.fields es.present).toJson = (Error.fields es).toJson := by
  have hmessages : Error.messages es.present = Error.messages es := by
    rw [Error.messages_eq_map, Error.messages_eq_map, toList_present]
  have hmembers : Error.jsonMembers es.present = Error.jsonMembers es := by
    rw [Error.jsonMembers_eq_map, Error.jsonMembers_eq_map, toList_present]
  exact ⟨congrArg Error.closeList hmessages, congrArg Json.object hmembers⟩

theorem get?_eq_some_iff (h : SortedEntries.Sorted es) :
    es.get? key = some e ↔ (key, e) ∈ es.toList := by
  rw [mem_toList, ← SortedEntries.get?_eq_some_iff h, get?]
  cases SortedEntries.get? key es <;> simp

theorem shows_ofList (ws : List (String × Option Error)) : (ofList ws).Shows ws where
  ascending := (sorted_toList SortedEntries.sorted_ofList).imp compare_eq_lt_iff_utf8.mp
  present key e := by rw [mem_toList, mem_ofList]
  found key e := get?_eq_some_iff SortedEntries.sorted_ofList
  contained key := by
    rw [contains, Option.isSome_iff_exists]
    exact exists_congr fun e => get?_eq_some_iff SortedEntries.sorted_ofList
  listed := rfl
  counted := by
    rw [← SortedEntries.keys_ofList_perm.length_eq, List.length_map]
    rfl
  emptied := by
    rw [← present_eq_nil_iff_toList, Option.eq_none_iff_forall_ne_some]
    simp [filter_eq_some_iff]
  filtered fs h := by
    obtain ⟨-, rfl⟩ := filter_eq_some_iff.mp h
    exact ⟨toList_present _, shown_present _⟩
  failing := by simp [toOutcome_eq_error_iff, present_eq_nil_iff_toList]
  failure e h := by
    obtain ⟨-, rfl⟩ := toOutcome_eq_error_iff.mp h
    refine ⟨_, rfl, toList_present _, fun p hp hnone => ?_⟩
    simpa [hnone] using (mem_present.mp hp).2

/-- Whatever operations made a store, it shows the last writes of the keys written to and not
filtered out, the writes of a merged store being later. -/
theorem History.store_shows_last_writes {h : History} (hs : h.store? = some es) :
    es.Shows h.writes := by
  rw [store?_eq_ofList hs]
  exact shows_ofList h.writes

/-- A merged absence takes the place of an error, filtering forgets its key, and a key may be
written an absence again. -/
theorem History.store_shows_last_writes_of_merged :
    let e := Error.violation (.plain "c" "m")
    let shadow := History.ofList [("b", some e), ("a", none), ("b", none)]
    let before := ((History.ofList [("é", some e), ("a", some e)]).insert "b" e).insert "B" e
    let h := (before.merge shadow).filter.set "a" none
    let es : KeyedErrors := [("B", some e), ("a", none), ("é", some e)]
    h.store? = some es ∧ h.writes = [("é", some e), ("B", some e), ("a", none)] ∧
      es.Shows h.writes := by
  intro e shadow before h es
  have hs : h.store? = some es := by
    subst es h before shadow e
    rfl
  exact ⟨hs, rfl, store_shows_last_writes hs⟩

end KeyedErrors
end Verdict
