import Verdict.Errors.ErrorTree
import Verdict.Proofs.LastWrite

/-! The flat text of errors by key can be read off their tree of messages, and at every level the
members of the tree are the keys that hold an error. -/
namespace Verdict

namespace SortedEntries
variable {κ α β : Type} [Ord κ] {k : κ} {a : α} {es new : List (κ × α)}

/-- Being in order is a matter of the keys alone. -/
theorem sorted_iff_keys : Sorted es ↔ (es.map Prod.fst).Pairwise fun k l => compare k l = .lt := by
  rw [List.pairwise_map]
  rfl

variable [Std.OrientedOrd κ]

theorem insert_of_forall_lt (h : ∀ p ∈ es, compare p.1 k = .lt) :
    insert k a es = es ++ [(k, a)] := by
  induction es with
  | nil => rfl
  | cons p rest ih =>
    have hp : compare k p.1 = .gt := Std.OrientedCmp.gt_of_lt (h p List.mem_cons_self)
    rw [insert, hp, ih fun q hq => h q (List.mem_cons_of_mem _ hq), List.cons_append]

theorem insertAll_of_sorted_append (h : Sorted (es ++ new)) : insertAll new es = es ++ new := by
  induction new generalizing es with
  | nil => rw [List.append_nil, insertAll, List.foldl_nil]
  | cons p rest ih =>
    have hlt : ∀ q ∈ es, compare q.1 p.1 = .lt := fun q hq =>
      (List.pairwise_append.mp h).2.2 q hq p List.mem_cons_self
    rw [insertAll, List.foldl_cons, ← insertAll, insert_of_forall_lt hlt,
      ih (by rwa [List.append_cons] at h), ← List.append_cons]

/-- Entries that are in order already stay as they are. -/
theorem ofList_of_sorted (h : Sorted es) : ofList es = es :=
  (insertAll_of_sorted_append h : insertAll es [] = [] ++ es)

end SortedEntries

namespace KeyedErrors
variable {es : KeyedErrors}

theorem mem_toList {key : String} {e : Error} : (key, e) ∈ es.toList ↔ (key, some e) ∈ es := by
  simp only [toList, List.mem_filterMap, Option.map_eq_some_iff, Prod.mk.injEq, Prod.exists]
  constructor
  · rintro ⟨_, _, hm, _, rfl, rfl, rfl⟩
    exact hm
  · intro hm
    exact ⟨key, some e, hm, e, rfl, rfl, rfl⟩

theorem sorted_toList (h : SortedEntries.Sorted es) : SortedEntries.Sorted es.toList := by
  refine List.Pairwise.filterMap _ (fun p q hlt p' hp q' hq => ?_) h
  obtain ⟨e, _, rfl⟩ := Option.map_eq_some_iff.mp hp
  obtain ⟨f, _, rfl⟩ := Option.map_eq_some_iff.mp hq
  exact hlt

end KeyedErrors

namespace Json

/-- Texts by key in one line: joined by semicolons and closed by a period, if there are any. -/
def line : List (String × String) → String
  | [] => ""
  | t :: ts => String.intercalate "; " ((t :: ts).map fun t => t.1 ++ ": " ++ t.2) ++ "."

mutual

/-- What a line says of a member: a string itself, of an object its line in parentheses. -/
def inline? : Json → Option String
  | .string s => some s
  | .object members => some ("(" ++ line (SortedEntries.ofList (memberTexts members)) ++ ")")
  | _ => none

def memberTexts : List (String × Json) → List (String × String)
  | [] => []
  | (key, j) :: rest =>
    match j.inline? with
    | some s => (key, s) :: memberTexts rest
    | none => memberTexts rest

end

/-- The line of an object, its members in key order. -/
def flatten : Json → String
  | .object members => line (SortedEntries.ofList (memberTexts members))
  | _ => ""

theorem memberTexts_map {α : Type} {key text : α → String} {json : α → Json} {xs : List α}
    (h : ∀ x ∈ xs, (json x).inline? = some (text x)) :
    memberTexts (xs.map fun x => (key x, json x)) = xs.map fun x => (key x, text x) := by
  induction xs with
  | nil => rfl
  | cons x xs ih =>
    have hrest := ih fun y hy => h y (List.mem_cons_of_mem _ hy)
    simp only [List.map_cons, memberTexts, h x List.mem_cons_self, hrest]

end Json

namespace Error

/-- Errors by key are in ascending key order, at every depth. -/
inductive Ordered : Error → Prop
  | violation (v : Violation) : Ordered (.violation v)
  | internal (fault : Fault Error) : Ordered (.internal fault)
  | fields {es : KeyedErrors} (sorted : SortedEntries.Sorted es)
      (inner : ∀ key e, (key, some e) ∈ es → Ordered e) : Ordered (.fields es)

/-- What is filled by a list of writes is in order. -/
theorem Ordered.ofList {ws : List (String × Option Error)}
    (h : ∀ key e, (key, some e) ∈ ws → e.Ordered) :
    (Error.fields (KeyedErrors.ofList ws)).Ordered := by
  refine .fields SortedEntries.sorted_ofList fun key e he => h key e ?_
  exact (SortedEntries.mem_insertAll he).resolve_right List.not_mem_nil

/-- Errors by key are shown by an object that has, in key order, one member for each key that
holds an error, and every other error by its message. -/
inductive ShownBy : Error → Json → Prop
  | text {e : Error} (single : ∀ es, e ≠ .fields es) : ShownBy e (.string e.message)
  | object {es : KeyedErrors} {members : List (String × Json)}
      (sorted : SortedEntries.Sorted members) (keys : members.map Prod.fst = es.keys)
      (inner : ∀ key e j, (key, some e) ∈ es → (key, j) ∈ members → ShownBy e j) :
      ShownBy (.fields es) (.object members)

/-- The text of an error inside errors by key. -/
def inlineText : Error → String
  | .fields es => "(" ++ (Error.fields es).message ++ ")"
  | e => e.message

private theorem messages_cons (key : String) (e : Error) (rest : KeyedErrors) :
    messages ((key, some e) :: rest) = (key ++ ": " ++ e.inlineText) :: messages rest := by
  cases e with
  | violation v => rfl
  | internal fault => rfl
  | fields nested =>
    change (key ++ (": " ++ "(") ++ (Error.fields nested).message ++ ")") :: messages rest = _
    simp only [inlineText, String.append_assoc]

theorem messages_eq_map (es : KeyedErrors) :
    messages es = es.toList.map fun p => p.1 ++ ": " ++ p.2.inlineText := by
  induction es with
  | nil => rfl
  | cons p rest ih =>
    obtain ⟨key, o⟩ := p
    cases o with
    | none => exact ih
    | some e =>
      rw [messages_cons, ih]
      rfl

theorem jsonMembers_eq_map (es : KeyedErrors) :
    jsonMembers es = es.toList.map fun p => (p.1, p.2.toJson) := by
  induction es with
  | nil => rfl
  | cons p rest ih =>
    obtain ⟨key, o⟩ := p
    cases o with
    | none => exact ih
    | some e =>
      rw [jsonMembers, ih]
      rfl

variable {es : KeyedErrors}

theorem keys_jsonMembers : (jsonMembers es).map Prod.fst = es.keys := by
  rw [jsonMembers_eq_map, List.map_map]
  rfl

theorem sorted_jsonMembers (h : SortedEntries.Sorted es) :
    SortedEntries.Sorted (jsonMembers es) := by
  rw [SortedEntries.sorted_iff_keys, keys_jsonMembers, KeyedErrors.keys,
    ← SortedEntries.sorted_iff_keys]
  exact KeyedErrors.sorted_toList h

/-- One level: if the members read as the errors do, so does the whole object. -/
private theorem flatten_of_inline (hs : SortedEntries.Sorted es)
    (h : ∀ key e, (key, some e) ∈ es → e.toJson.inline? = some e.inlineText) :
    (Error.fields es).toJson.flatten = (Error.fields es).message := by
  have hmembers : Json.memberTexts (jsonMembers es) =
      es.toList.map fun p => (p.1, p.2.inlineText) := by
    rw [jsonMembers_eq_map]
    exact Json.memberTexts_map fun p hp => h p.1 p.2 (KeyedErrors.mem_toList.mp hp)
  have hsorted : SortedEntries.Sorted (es.toList.map fun p => (p.1, p.2.inlineText)) :=
    List.pairwise_map.mpr (KeyedErrors.sorted_toList hs)
  rw [toJson, Json.flatten, hmembers, SortedEntries.ofList_of_sorted hsorted]
  change _ = closeList (messages es)
  rw [messages_eq_map]
  cases es.toList with
  | nil => rfl
  | cons p rest => simp only [Json.line, closeList, List.map_cons, List.map_map, Function.comp_def]

private theorem inline?_toJson {e : Error} (h : e.Ordered) :
    e.toJson.inline? = some e.inlineText := by
  induction h with
  | violation v => rfl
  | internal fault => rfl
  | @fields es sorted _ ih =>
    have hline := flatten_of_inline sorted ih
    rw [toJson, Json.flatten] at hline
    rw [toJson, Json.inline?, hline, inlineText]

private theorem shownBy_toJson {e : Error} (h : e.Ordered) : e.ShownBy e.toJson := by
  induction h with
  | violation v => exact .text nofun
  | internal fault => exact .text nofun
  | @fields es sorted _ ih =>
    refine .object (sorted_jsonMembers sorted) keys_jsonMembers fun key e j he hj => ?_
    rw [jsonMembers_eq_map] at hj
    obtain ⟨⟨_, f⟩, hf, heq⟩ := List.mem_map.mp hj
    obtain ⟨rfl, rfl⟩ := Prod.mk.inj heq
    have hkey := (SortedEntries.get?_eq_some_iff sorted).mpr he
    rw [(SortedEntries.get?_eq_some_iff sorted).mpr (KeyedErrors.mem_toList.mp hf)] at hkey
    cases hkey
    exact ih _ _ he

/-- The message of errors by key is the flattened tree of their messages, and the tree has at
every level a member for each key that holds an error, and no other. -/
theorem message_eq_flatten_toJson (h : (Error.fields es).Ordered) :
    (Error.fields es).message = (Error.fields es).toJson.flatten ∧
      (Error.fields es).ShownBy (Error.fields es).toJson := by
  refine ⟨?_, shownBy_toJson h⟩
  cases h with
  | fields sorted inner =>
    exact (flatten_of_inline sorted fun key e he => inline?_toJson (inner key e he)).symm

/-- An absent entry is not shown, an internal error is shown by its message, and errors by key
without any error by empty parentheses. -/
theorem message_eq_flatten_toJson_of_nested :
    let inner := KeyedErrors.ofList [("1", some (.internal .notMap)), ("0", none)]
    let es := KeyedErrors.ofList [("B", some (.fields inner)), ("D", some (.fields [])),
      ("A", some (.violation (.plain "c" "m")))]
    (Error.fields es).Ordered ∧
      (Error.fields es).message = "A: m; B: (1: only a map can be validated.); D: ()." ∧
      (Error.fields es).message = (Error.fields es).toJson.flatten ∧
      (Error.fields es).ShownBy (Error.fields es).toJson := by
  intro inner es
  have hinner : (Error.fields inner).Ordered := .ofList (by simp [Ordered.internal])
  have hempty : (Error.fields []).Ordered := .fields .nil (by simp)
  have hes : (Error.fields es).Ordered := by
    refine .ofList fun key e he => ?_
    simp only [List.mem_cons, Prod.mk.injEq, Option.some.injEq, List.not_mem_nil, or_false] at he
    rcases he with ⟨_, rfl⟩ | ⟨_, rfl⟩ | ⟨_, rfl⟩
    · exact hinner
    · exact hempty
    · exact .violation _
  exact ⟨hes, by subst es inner; rfl, message_eq_flatten_toJson hes⟩

end Error
end Verdict
