import Verdict.Json.JsonReader
import Verdict.Proofs.EqualDocuments
import Verdict.Proofs.FlatText
import Verdict.Proofs.KeyTexts

/-! Documents as values and values as documents. Every document is given back by its value, and
every value of the forms that documents have by its document, up to equality of values. -/
namespace Verdict

/-- Numbers of one form each: a signed integer is negative and a floating-point number finite. -/
def JsonNumber.Normal : JsonNumber → Prop
  | .natural _ => True
  | .negative n => n.toInt < 0
  | .float x => x.isFinite = true

theorem JsonNumber.Normal.isFinite {n : JsonNumber} (h : n.Normal) : n.IsFinite := by
  rintro x rfl
  exact h

theorem JsonNumber.normal_ofInt64 (n : Int64) : (ofInt64 n).Normal := by
  rw [ofInt64]
  split
  · trivial
  · exact not_le.mp ‹_›

namespace Json

/-- Documents in their one form: numbers in theirs, objects in ascending key order. -/
inductive Canonical : Json → Prop
  | null : Canonical .null
  | bool (b : Bool) : Canonical (.bool b)
  | number {n : JsonNumber} (h : n.Normal) : Canonical (.number n)
  | string (s : String) : Canonical (.string s)
  | array {items : List Json} (h : ∀ j ∈ items, Canonical j) : Canonical (.array items)
  | object {members : List (String × Json)} (sorted : SortedEntries.Sorted members)
      (h : ∀ m ∈ members, Canonical m.2) : Canonical (.object members)

variable {j : Json} {members : List (String × Json)}

theorem Canonical.finite (h : j.Canonical) : j.Finite := by
  induction h with
  | null => exact .null
  | bool b => exact .bool b
  | number hn => exact .number hn.isFinite
  | string s => exact .string s
  | array _ ih => exact .array ih
  | object _ _ ih => exact .object ih

theorem Canonical.ofMembers (h : ∀ m ∈ members, m.2.Canonical) :
    (Json.ofMembers members).Canonical := by
  refine .object SortedEntries.sorted_ofList fun m hm => h m ?_
  exact (SortedEntries.mem_insertAll hm).resolve_right List.not_mem_nil

end Json

namespace JsonSyntax

theorem normal_numberOf? {integral : Bool} {d : DecimalNumeral} {n : JsonNumber}
    (h : JsonReader.numberOf? integral d = some n) : n.Normal := by
  simp only [JsonReader.numberOf?] at h
  split at h
  · cases h
    trivial
  split at h
  · rename_i hd
    cases h
    simp only [Bool.and_eq_true, bne_iff_ne, decide_eq_true_eq] at hd
    obtain ⟨⟨-, hpos⟩, hmax⟩ := hd
    rw [JsonNumber.Normal, Int64.toInt_ofInt_of_le (by omega) (by omega)]
    omega
  split at h
  · cases h
    assumption
  · cases h

mutual

/-- What is read is in its one form. -/
theorem canonical_tree? {s : JsonSyntax} {j : Json} (h : s.tree? = some j) : j.Canonical := by
  cases s with
  | null =>
    cases h
    exact .null
  | bool b =>
    cases h
    exact .bool b
  | number integral d =>
    obtain ⟨n, hn, rfl⟩ := Option.map_eq_some_iff.mp h
    exact .number (normal_numberOf? hn)
  | string parts =>
    obtain ⟨cs, -, rfl⟩ := Option.map_eq_some_iff.mp h
    exact .string _
  | array items =>
    obtain ⟨js, hjs, rfl⟩ := Option.map_eq_some_iff.mp h
    exact .array (canonical_trees? hjs)
  | object members =>
    obtain ⟨ms, hms, rfl⟩ := Option.map_eq_some_iff.mp h
    exact .ofMembers (canonical_memberTrees? hms)

theorem canonical_trees? {ss : List JsonSyntax} {js : List Json} (h : trees? ss = some js) :
    ∀ j ∈ js, j.Canonical := by
  cases ss with
  | nil =>
    cases h
    simp
  | cons s ss =>
    rw [trees?] at h
    split at h
    · rename_i j js' hj hjs
      cases h
      exact List.forall_mem_cons.mpr ⟨canonical_tree? hj, canonical_trees? hjs⟩
    · cases h

theorem canonical_memberTrees? {ss : List (List (Char ⊕ Nat) × JsonSyntax)}
    {ms : List (String × Json)} (h : memberTrees? ss = some ms) : ∀ m ∈ ms, m.2.Canonical := by
  match ss with
  | [] =>
    cases h
    simp
  | (key, s) :: ss =>
    rw [memberTrees?] at h
    split at h
    · rename_i k j ms' _ hj hms
      cases h
      exact List.forall_mem_cons.mpr ⟨canonical_tree? hj, canonical_memberTrees? hms⟩
    · cases h

end

end JsonSyntax

namespace Value

/-- Values of the forms that documents have. Maps have text keys alone. -/
inductive Documentary : Value → Prop
  | nil : Documentary .nil
  | bool (b : Bool) : Documentary (.bool b)
  | int (n : Int64) : Documentary (.int n)
  | uint (n : UInt64) : Documentary (.uint n)
  | float {x : Binary64} (h : x.isFinite = true) : Documentary (.float x)
  | text (s : String) : Documentary (.text s)
  | list {items : List Value} (h : ∀ v ∈ items, Documentary v) : Documentary (.list items)
  | map {entries : List (MapKey × Value)} (sorted : SortedEntries.Sorted entries)
      (keys : ∀ e ∈ entries, ∃ s, e.1 = .text s) (h : ∀ e ∈ entries, Documentary e.2) :
      Documentary (.map .text entries)

theorem jsonItems_eq_map (items : List Value) : jsonItems items = items.map toJson := by
  induction items with
  | nil => rfl
  | cons v rest ih => rw [jsonItems, ih, List.map_cons]

theorem jsonFields_eq_map (fields : List (Field Value)) :
    jsonFields fields = fields.map fun f => (f.name, f.value.toJson) := by
  induction fields with
  | nil => rfl
  | cons f rest ih => rw [jsonFields, ih, List.map_cons]

theorem ofJsonItems_eq_map (items : List Json) : ofJsonItems items = items.map ofJson := by
  induction items with
  | nil => rfl
  | cons j rest ih => rw [ofJsonItems, ih, List.map_cons]

theorem ofJsonMembers_eq_map (members : List (String × Json)) :
    ofJsonMembers members = members.map fun m => (.text m.1, ofJson m.2) := by
  induction members with
  | nil => rfl
  | cons m rest ih => rw [ofJsonMembers, ih, List.map_cons]

/-- The document of any value is in its one form. -/
theorem canonical_toJson (v : Value) : v.toJson.Canonical := by
  induction v using parts_induction with
  | h v ih =>
    cases v with
    | nil => exact .null
    | bool b => exact .bool b
    | int n => exact .number (JsonNumber.normal_ofInt64 n)
    | uint n => exact .number trivial
    | float x =>
      rw [toJson]
      split
      · exact .number ‹_›
      · exact .null
    | text s | bytes bs | foreign f => exact .string _
    | list items =>
      rw [toJson, jsonItems_eq_map]
      exact .array (List.forall_mem_map.mpr ih)
    | map kind entries =>
      rw [toJson, jsonMembers_eq_map]
      exact .ofMembers (List.forall_mem_map.mpr fun e he => ih _ (List.mem_map_of_mem he))
    | struct name fields validator =>
      rw [toJson, jsonFields_eq_map]
      exact .ofMembers (List.forall_mem_map.mpr fun f hf => ih _ (List.mem_map_of_mem hf))

theorem sorted_textEntries {members : List (String × Json)} (h : SortedEntries.Sorted members) :
    SortedEntries.Sorted (members.map fun m => (MapKey.text m.1, ofJson m.2)) :=
  List.pairwise_map.mpr h

/-- Members in order become entries in order, each under its text. -/
theorem ofJson_object {members : List (String × Json)} (h : SortedEntries.Sorted members) :
    ofJson (.object members) =
      .map .text (members.map fun m => (.text m.1, ofJson m.2)) := by
  rw [ofJson, mapOfList, ofJsonMembers_eq_map, ← inserted, inserted_eq_ofList, List.map_map]
  exact congrArg _ (SortedEntries.ofList_of_sorted (sorted_textEntries h))

section TextKeys
variable {entries : List (MapKey × Value)} (hsorted : SortedEntries.Sorted entries)
  (hkeys : ∀ e ∈ entries, ∃ s, e.1 = .text s)
include hsorted hkeys

theorem sorted_textMembers :
    SortedEntries.Sorted (entries.map fun e => (e.1.render, e.2.toJson)) := by
  refine List.pairwise_map.mpr (hsorted.imp_of_mem fun {a b} ha hb hlt => ?_)
  obtain ⟨s, hs⟩ := hkeys a ha
  obtain ⟨t, ht⟩ := hkeys b hb
  rw [hs, ht] at hlt ⊢
  exact hlt

/-- Entries under texts become members in the same order. -/
theorem toJson_textMap :
    (map .text entries).toJson = .object (entries.map fun e => (e.1.render, e.2.toJson)) := by
  rw [toJson, jsonMembers_eq_map, Json.ofMembers,
    SortedEntries.ofList_of_sorted (sorted_textMembers hsorted hkeys)]

end TextKeys

theorem toJson_ofJson_number {n : JsonNumber} (h : n.Normal) :
    (ofJson (.number n)).toJson = .number n := by
  cases n with
  | natural n =>
    rw [ofJson]
    cases hs : MapKey.signed? n with
    | none => rfl
    | some m =>
      have hm := MapKey.signed?_eq_some_iff.mp hs
      rw [Option.elim_some, toJson, JsonNumber.ofInt64, if_pos (by omega), hm,
        Int.toNat_natCast, UInt64.ofNat_toNat]
  | negative n =>
    rw [ofJson, toJson, JsonNumber.ofInt64, if_neg (not_le.mpr h)]
  | float x => rw [ofJson, toJson, if_pos (show x.isFinite = true from h)]

/-- A document is given back by its value. -/
theorem toJson_ofJson {j : Json} (h : j.Canonical) : (ofJson j).toJson = j := by
  induction h with
  | null | bool b | string s => rfl
  | number hn => exact toJson_ofJson_number hn
  | @array items _ ih =>
    rw [ofJson, ofJsonItems_eq_map, toJson, jsonItems_eq_map, List.map_map]
    exact congrArg Json.array ((List.map_congr_left ih).trans (List.map_id _))
  | @object members sorted _ ih =>
    have hkeys : ∀ e ∈ members.map fun m => (MapKey.text m.1, ofJson m.2), ∃ s, e.1 = .text s :=
      List.forall_mem_map.mpr fun m _ => ⟨m.1, rfl⟩
    rw [ofJson_object sorted, toJson_textMap (sorted_textEntries sorted) hkeys,
      List.map_map]
    refine congrArg Json.object (Eq.trans (List.map_congr_left fun m hm => ?_) (List.map_id _))
    exact Prod.ext rfl (ih m hm)

/-- A signed integer becomes itself again, whichever of the numbers of documents it was. -/
theorem ofJson_ofInt64 (n : Int64) : ofJson (.number (.ofInt64 n)) = .int n := by
  rw [JsonNumber.ofInt64]
  split
  · rename_i hn
    have hu := MapKey.unsigned?_eq_some_iff.mp (if_pos hn : MapKey.unsigned? n = some _)
    rw [ofJson, MapKey.signed?_eq_some_iff.mpr hu, Option.elim_some]
  · rfl

/-- An unsigned integer becomes a signed one of its value if there is one. -/
theorem ofJson_natural_equal (n : UInt64) : Equal (ofJson (.number (.natural n))) (.uint n) := by
  rw [ofJson]
  cases hs : MapKey.signed? n with
  | none => exact beq_self_eq_true n
  | some m => exact beq_iff_eq.mpr (MapKey.signed?_eq_some_iff.mp hs)

/-- A value of the forms that documents have is given back by its document. -/
theorem ofJson_toJson_equal {v : Value} (h : v.Documentary) : Equal (ofJson v.toJson) v := by
  induction h with
  | nil => rfl
  | bool b => exact beq_self_eq_true b
  | int n =>
    rw [toJson, ofJson_ofInt64]
    exact beq_self_eq_true n
  | uint n => exact ofJson_natural_equal n
  | @float x hx =>
    rw [toJson, if_pos hx, ofJson]
    have hnormal : (JsonNumber.float x).Normal := hx
    exact JsonNumber.isEqual_self hnormal.isFinite
  | text s => exact beq_self_eq_true s
  | @list items _ ih =>
    rw [toJson, jsonItems_eq_map, ofJson, ofJsonItems_eq_map, List.map_map]
    exact listsEqual_iff.mpr (List.forall₂_map_left_iff.mpr (List.forall₂_same.mpr ih))
  | @map entries sorted keys _ ih =>
    rw [toJson_textMap sorted keys, ofJson_object (sorted_textMembers sorted keys), List.map_map]
    refine isEqual_iff.mpr (.map .text (List.forall₂_map_left_iff.mpr ?_))
    refine List.forall₂_same.mpr fun e he => ⟨?_, ih e he⟩
    obtain ⟨s, hs⟩ := keys e he
    rw [Function.comp_apply, hs]
    rfl

/-- Documents survive becoming values, as every document does that is read or made of a value;
and values of the forms that documents have survive becoming documents. -/
theorem json_round_trips :
    (∀ j : Json, j.Canonical → (ofJson j).toJson = j ∧ Json.Equal (ofJson j).toJson j) ∧
      (∀ s j, Json.read? s = some j → j.Canonical) ∧ (∀ v : Value, v.toJson.Canonical) ∧
      ∀ v : Value, v.Documentary → Equal (ofJson v.toJson) v := by
  refine ⟨fun j hj => ?_, fun s j hs => ?_, canonical_toJson, fun v => ofJson_toJson_equal⟩
  · rw [toJson_ofJson hj]
    exact ⟨rfl, Json.equal_refl hj.finite⟩
  · rw [Json.read?] at hs
    split at hs
    · exact JsonSyntax.canonical_tree? hs
    · cases hs

/-- Numbers at the limits of their forms. The value has unsigned integers that come back signed. -/
theorem json_round_trips_of_nested :
    let x : Binary64 := ⟨0x4004000000000000⟩
    let tags := list [.uint 1, .int (-1), .float x, .uint 0x7fffffffffffffff,
      .uint 0x8000000000000000]
    let v := map .text [(.text "extra", .nil), (.text "name", .text "demo"), (.text "tags", tags)]
    let j := Json.ofMembers [("name", .string "demo"), ("tags", .array
      [.number (.natural 1), .number (.negative (-1)), .number (.float x),
        .number (.natural 0x7fffffffffffffff), .number (.natural 0x8000000000000000)]),
      ("extra", .null)]
    v.toJson = j ∧ j.Canonical ∧ (ofJson j).toJson = j ∧ v.Documentary ∧
      Equal (ofJson v.toJson) v := by
  intro x tags v j
  have hjson : v.toJson = j := by
    subst v j tags x
    rfl
  have hj : j.Canonical := hjson ▸ canonical_toJson v
  have htags : tags.Documentary := by
    refine .list ?_
    simp only [List.forall_mem_cons, List.not_mem_nil, false_implies, implies_true, and_true]
    exact ⟨.uint _, .int _, .float (by decide), .uint _, .uint _⟩
  have hv : v.Documentary := by
    refine .map (SortedEntries.sorted_iff_keys.mpr (by decide)) (by simp) ?_
    simp only [List.forall_mem_cons, List.not_mem_nil, false_implies, implies_true, and_true]
    exact ⟨.nil, .text _, htags⟩
  exact ⟨hjson, hj, (json_round_trips.1 j hj).1, hv, json_round_trips.2.2.2 v hv⟩

end Value
end Verdict
