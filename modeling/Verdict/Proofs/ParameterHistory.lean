import Verdict.Proofs.EqualErrors

/-! The parameters of a violation after any calls of its builders: one for each name written since
all of them were last replaced, with the value written last, in the order of the first writes. -/
namespace Verdict

namespace Violation
variable {v : Violation} {name : String} {j : Json} {params writes : List (String × Json)}

/-- The parameters that some writes come to: the first write of a name takes its place, the last
one gives its value. -/
structure Lists (params writes : List (String × Json)) : Prop where
  named (name : String) : name ∈ params.map Prod.fst ↔ name ∈ writes.map Prod.fst
  ordered : (params.map Prod.fst).Pairwise fun m n =>
    (writes.map Prod.fst).idxOf m < (writes.map Prod.fst).idxOf n
  latest (p : String × Json) : p ∈ params ↔ LastWith (fun w => w.1 = p.1) writes p

theorem setParam_of_not_mem (h : name ∉ params.map Prod.fst) :
    setParam name j params = params ++ [(name, j)] := by
  induction params with
  | nil => rfl
  | cons p rest ih =>
    obtain ⟨hp, hrest⟩ := not_or.mp (mt List.mem_cons.mpr h)
    rw [setParam, if_neg (by simpa using Ne.symm hp), ih hrest, List.cons_append]

/-- A name that is there keeps its place. -/
theorem setParam_of_mem (hd : (params.map Prod.fst).Nodup) (h : name ∈ params.map Prod.fst) :
    setParam name j params = params.map fun p => if p.1 = name then (name, j) else p := by
  induction params with
  | nil => cases h
  | cons p rest ih =>
    obtain ⟨hnew, hrest⟩ := List.nodup_cons.mp hd
    rw [setParam, List.map_cons]
    by_cases hp : p.1 = name
    · have hsame : ∀ q ∈ rest, (if q.1 = name then (name, j) else q) = q := by
        intro q hq
        apply if_neg
        rintro rfl
        exact hnew (hp ▸ List.mem_map_of_mem hq)
      rw [if_pos (beq_iff_eq.mpr hp), if_pos hp, List.map_congr_left hsame, List.map_id', hp]
    · have hmem : name ∈ rest.map Prod.fst := (List.mem_cons.mp h).resolve_left (Ne.symm hp)
      rw [if_neg (by simpa using hp), if_neg hp, ih hrest hmem]

theorem mem_setParam_iff (hd : (params.map Prod.fst).Nodup) {p : String × Json} :
    p ∈ setParam name j params ↔ p = (name, j) ∨ (p ∈ params ∧ name ≠ p.1) := by
  by_cases hn : name ∈ params.map Prod.fst
  · rw [setParam_of_mem hd hn, List.mem_map]
    constructor
    · rintro ⟨q, hq, rfl⟩
      split <;> rename_i hqn
      · exact .inl rfl
      · exact .inr ⟨hq, Ne.symm hqn⟩
    · rintro (rfl | ⟨hp, hpn⟩)
      · obtain ⟨q, hq, hqn⟩ := List.mem_map.mp hn
        exact ⟨q, hq, if_pos hqn⟩
      · exact ⟨p, hp, if_neg (Ne.symm hpn)⟩
  · rw [setParam_of_not_mem hn, List.mem_append, List.mem_singleton, or_comm]
    refine or_congr_right (iff_self_and.mpr ?_)
    rintro hp rfl
    exact hn (List.mem_map_of_mem hp)

namespace Lists

theorem nil : Lists [] [] where
  named _ := Iff.rfl
  ordered := .nil
  latest _ := by simp

theorem nodup (h : Lists params writes) : (params.map Prod.fst).Nodup := by
  refine h.ordered.imp ?_
  rintro m n hlt rfl
  exact lt_irrefl _ hlt

/-- One more write. -/
theorem set (h : Lists params writes) (name : String) (j : Json) :
    Lists (setParam name j params) (writes ++ [(name, j)]) where
  named n := by
    rw [names_setParam, List.map_append, List.mem_append, ← h.named]
    split <;> rename_i hn
    · refine (or_iff_left_of_imp ?_).symm
      intro hsingle
      obtain rfl := List.mem_singleton.mp hsingle
      exact hn
    · exact List.mem_append
  ordered := by
    have hold {m : String} (hm : m ∈ params.map Prod.fst) :
        ((writes ++ [(name, j)]).map Prod.fst).idxOf m = (writes.map Prod.fst).idxOf m := by
      rw [List.map_append]
      exact List.idxOf_append_of_mem ((h.named m).mp hm)
    have hkept : (params.map Prod.fst).Pairwise fun m n =>
        ((writes ++ [(name, j)]).map Prod.fst).idxOf m <
          ((writes ++ [(name, j)]).map Prod.fst).idxOf n := by
      refine h.ordered.imp_of_mem ?_
      intro m n hm hn hlt
      rwa [hold hm, hold hn]
    rw [names_setParam]
    split <;> rename_i hn
    · exact hkept
    · refine List.pairwise_append.mpr ⟨hkept, List.pairwise_singleton _ _, ?_⟩
      intro m hm n hsingle
      obtain rfl := List.mem_singleton.mp hsingle
      have hm' := (h.named m).mp hm
      have hn' := mt (h.named n).mpr hn
      rw [hold hm, List.map_append, List.idxOf_append_of_notMem hn']
      exact (List.idxOf_lt_length_of_mem hm').trans_le (Nat.le_add_right _ _)
  latest p := by
    rw [mem_setParam_iff h.nodup, h.latest, LastWith.concat_iff]
    refine or_congr_left (and_iff_left_of_imp ?_).symm
    rintro rfl
    rfl

theorem setAll (h : Lists params writes) (ws : List (String × Json)) :
    Lists (ws.foldl (fun ps w => setParam w.1 w.2 ps) params) (writes ++ ws) := by
  induction ws generalizing params writes with
  | nil => rwa [List.append_nil]
  | cons w rest ih =>
    rw [List.append_cons]
    exact ih (h.set w.1 w.2)

end Lists

theorem withParams_eq (v : Violation) (ws : List (String × Json)) :
    v.withParams ws = { v with params := ws.foldl (fun ps w => setParam w.1 w.2 ps) [] } := by
  have hfold (ps : List (String × Json)) :
      ws.foldl (fun v w => v.withParam w.1 w.2) { v with params := ps } =
        { v with params := ws.foldl (fun ps w => setParam w.1 w.2 ps) ps } := by
    induction ws generalizing ps with
    | nil => rfl
    | cons w rest ih => exact ih (setParam w.1 w.2 ps)
  exact hfold []

/-- What a violation is made from. -/
inductive Start where
  | plain (code template : String)
  | custom (template : String)

/-- A call of a builder. -/
inductive Change where
  | code (code : String)
  | template (template : String)
  | param (name : String) (value : Json)
  | params (params : List (String × Json))

def Change.apply (v : Violation) : Change → Violation
  | .code c => v.withCode c
  | .template t => v.withTemplate t
  | .param name j => v.withParam name j
  | .params ps => v.withParams ps

/-- The writes so far and those of one more call; replacing all parameters forgets the former. -/
def Change.log (writes : List (String × Json)) : Change → List (String × Json)
  | .code _ | .template _ => writes
  | .param name j => writes ++ [(name, j)]
  | .params ps => ps

/-- The writes since all parameters were last replaced. -/
def written (changes : List Change) : List (String × Json) := changes.foldl Change.log []

def Start.violation : Start → Violation
  | .plain c t => .plain c t
  | .custom t => .custom t

def Start.after (s : Start) (changes : List Change) : Violation :=
  changes.foldl Change.apply s.violation

theorem Lists.apply (h : Lists v.params writes) (c : Change) :
    Lists (c.apply v).params (c.log writes) := by
  cases c with
  | code | template => exact h
  | param name j => exact h.set name j
  | params ps =>
    rw [Change.apply, withParams_eq]
    exact Lists.nil.setAll ps

theorem Lists.after (s : Start) (changes : List Change) :
    Lists (s.after changes).params (written changes) := by
  have hfold (v : Violation) (ws : List (String × Json)) (h : Lists v.params ws) :
      Lists (changes.foldl Change.apply v).params (changes.foldl Change.log ws) := by
    induction changes generalizing v ws with
    | nil => exact h
    | cons c rest ih => exact ih _ _ (h.apply c)
  apply hfold
  cases s <;> exact Lists.nil

/-- Whatever calls made a violation, its parameters are those written since all of them were last
replaced. No name occurs twice, each has the value written to it last, and the names come in the
order of their first writes, since a value is overwritten where it stands. Code and template take
no part in that, and the parameters none in them. -/
theorem parameters_show_last_writes (s : Start) (changes : List Change) :
    let v := s.after changes
    let names := v.params.map Prod.fst
    let writes := written changes
    names.Nodup ∧
    (∀ name j, v.param? name = some j ↔ LastWith (fun w => w.1 = name) writes (name, j)) ∧
    (∀ name, v.param? name = none ↔ name ∉ writes.map Prod.fst) ∧
    (∀ name, name ∈ names ↔ name ∈ writes.map Prod.fst) ∧
    names.Pairwise (fun m n => (writes.map Prod.fst).idxOf m < (writes.map Prod.fst).idxOf n) ∧
    (∀ name j, (v.withParam name j).params =
      if name ∈ names then v.params.map fun p => if p.1 = name then (name, j) else p
      else v.params ++ [(name, j)]) ∧
    (∀ code template,
      (v.withCode code).params = v.params ∧ (v.withTemplate template).params = v.params) ∧
    (∀ name j, (v.withParam name j).code = v.code ∧ (v.withParam name j).template = v.template) ∧
    (∀ params,
      (v.withParams params).code = v.code ∧ (v.withParams params).template = v.template) := by
  intro v names writes
  have hlists : Lists v.params writes := Lists.after s changes
  refine ⟨hlists.nodup, fun name j => ?_, fun name => ?_, hlists.named, hlists.ordered,
    fun name j => ?_, fun _ _ => ⟨rfl, rfl⟩, fun _ _ => ⟨rfl, rfl⟩, fun params => ?_⟩
  · rw [param?_eq_some_iff hlists.nodup, hlists.latest]
  · rw [param?_eq_none_iff, hlists.named]
  · split <;> rename_i hn
    · exact setParam_of_mem hlists.nodup hn
    · exact setParam_of_not_mem hn
  · rw [withParams_eq]
    exact ⟨rfl, rfl⟩

/-- A name written twice in one batch keeps its first place, and so does one written again later;
what was there before the batch is gone. -/
example : (Start.custom "m").after [.param "x" .null, .params [("b", .null), ("a", .null),
      ("b", .bool true)], .code "c", .param "a" (.bool false)] =
    ⟨"c", "m", [("b", .bool true), ("a", .bool false)]⟩ := rfl

end Violation
end Verdict
