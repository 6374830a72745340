import Mathlib.Algebra.Order.Ring.Nat
import Mathlib.Data.List.Basic
import Mathlib.Data.List.Induction
import Verdict.Values.FieldPath

/-! Places of the fields of a struct: the promoted ones lie behind chains of embedded structs. All
of them are listed once, level by level, and a name finds the first of its fields. -/
namespace Verdict

/-- The order of places. A place is the list of the positions of the embedded fields stepped into
and of the field itself. A shallower place comes first; among places of one depth those whose
parent comes first, and then those declared first. -/
inductive Precedes : List Nat → List Nat → Prop
  | shallower {p q : List Nat} (h : p.length < q.length) : Precedes p q
  | parent {p q : List Nat} (i j : Nat) (hlen : p.length = q.length) (h : Precedes p q) :
    Precedes (p ++ [i]) (q ++ [j])
  | declared (p : List Nat) {i j : Nat} (h : i < j) : Precedes (p ++ [i]) (p ++ [j])

namespace Precedes
variable {p q : List Nat} {i j : Nat}

theorem length_le (h : Precedes p q) : p.length ≤ q.length := by
  cases h with
  | shallower h => exact h.le
  | parent i j hlen _ => simp [hlen]
  | declared p _ => simp

theorem ne (h : Precedes p q) : p ≠ q := by
  induction h with
  | shallower h =>
    rintro rfl
    exact h.ne rfl
  | parent i j _ _ ih => exact fun heq => ih (List.append_inj' heq rfl).1
  | declared p h =>
    intro heq
    cases (List.append_inj' heq rfl).2
    exact h.ne rfl

/-- Places of one depth are ordered by their parents, and below one parent by declaration. -/
theorem append_singleton_iff (hlen : p.length = q.length) :
    Precedes (p ++ [i]) (q ++ [j]) ↔ Precedes p q ∨ p = q ∧ i < j := by
  constructor
  · intro h
    generalize hp : p ++ [i] = p', hq : q ++ [j] = q' at h
    cases h with
    | shallower h =>
      subst hp hq
      simp [hlen] at h
    | parent k l _ h =>
      obtain ⟨rfl, _⟩ := List.append_inj' hp rfl
      obtain ⟨rfl, _⟩ := List.append_inj' hq rfl
      exact .inl h
    | declared r h =>
      obtain ⟨rfl, hi⟩ := List.append_inj' hp rfl
      obtain ⟨rfl, hj⟩ := List.append_inj' hq rfl
      cases hi
      cases hj
      exact .inr ⟨rfl, h⟩
  · rintro (h | ⟨rfl, h⟩)
    · exact .parent i j hlen h
    · exact .declared p h

theorem asymm (h : Precedes p q) : ¬ Precedes q p := by
  induction h with
  | shallower h => exact fun h' => absurd h'.length_le h.not_ge
  | parent i j hlen h ih =>
    intro h'
    rcases (append_singleton_iff hlen.symm).mp h' with h' | ⟨rfl, _⟩
    · exact ih h'
    · exact h.ne rfl
  | declared p h =>
    intro h'
    rcases (append_singleton_iff rfl).mp h' with h' | ⟨_, h'⟩
    · exact h'.ne rfl
    · exact h.not_gt h'

theorem cons (i : Nat) (h : Precedes p q) : Precedes (i :: p) (i :: q) := by
  induction h with
  | shallower h => exact .shallower (by simpa using h)
  | @parent p q k l hlen _ ih => exact .parent (p := i :: p) (q := i :: q) k l (by simpa) ih
  | declared p h => exact .declared (i :: p) h

theorem of_head_lt (hij : i < j) (hlen : p.length = q.length) : Precedes (i :: p) (j :: q) := by
  induction p using List.reverseRecOn generalizing q with
  | nil =>
    cases List.eq_nil_of_length_eq_zero hlen.symm
    exact .declared [] hij
  | append_singleton p a ih =>
    rcases List.eq_nil_or_concat' q with rfl | ⟨q, b, rfl⟩
    · simp at hlen
    · have hlen : p.length = q.length := by simpa using hlen
      exact .parent (p := i :: p) (q := j :: q) a b (by simpa) (ih hlen)

end Precedes

namespace Value
variable {v : Value} {n : Nat} {p : List Nat}

/-- The fields that a struct declares itself. -/
def ownFields : Value → List (Field Value)
  | .struct _ fields _ => fields
  | _ => []

/-- The field at a place. Only embedded fields that hold structs are stepped into. -/
def fieldAt? : Value → List Nat → Option (Field Value)
  | _, [] => none
  | v, [i] => v.ownFields[i]?
  | v, i :: j :: rest =>
    v.ownFields[i]?.bind fun f => if f.embedded then fieldAt? f.value (j :: rest) else none

theorem getD_joinLevels {α : Type} (xs ys : List (List α)) (n : Nat) :
    (joinLevels xs ys)[n]?.getD [] = xs[n]?.getD [] ++ ys[n]?.getD [] := by
  induction xs, ys using joinLevels.induct generalizing n with
  | case1 ys => simp [joinLevels]
  | case2 xs => cases xs <;> simp [joinLevels]
  | case3 x xs y ys ih =>
    cases n with
    | zero => simp [joinLevels]
    | succ n => simpa [joinLevels] using ih n

/-- The fields at a depth. -/
def level (n : Nat) (v : Value) : List (Field Value) := v.levels[n]?.getD []

theorem level_zero (v : Value) : level 0 v = v.ownFields := by
  cases v <;> rfl

theorem getD_embeddedLevels (fields : List (Field Value)) (n : Nat) :
    (embeddedLevels fields)[n]?.getD [] =
      fields.flatMap fun f => if f.embedded then level n f.value else [] := by
  induction fields with
  | nil => rfl
  | cons f rest ih =>
    rw [embeddedLevels, List.flatMap_cons]
    split
    · rw [getD_joinLevels, ih]
      rfl
    · rw [ih, List.nil_append]

theorem level_succ (n : Nat) (v : Value) : level (n + 1) v =
    v.ownFields.flatMap fun f => if f.embedded then level n f.value else [] := by
  cases v with
  | struct name fields validator => exact getD_embeddedLevels fields n
  | _ => rfl

/-- Only structs have fields. -/
theorem level_eq_nil_of_kind (h : v.kind ≠ .struct) : level n v = [] := by
  cases v with
  | struct _ _ _ => exact absurd rfl h
  | _ => rfl

/-- The places at a depth, parent by parent. -/
def placesAt : Nat → Value → List (List Nat)
  | 0, v => (List.range v.ownFields.length).map fun i => [i]
  | n + 1, v => v.ownFields.zipIdx.flatMap fun e =>
      if e.1.embedded then (placesAt n e.1.value).map (e.2 :: ·) else []

theorem fieldAt?_cons {f : Field Value} {i : Nat} (hf : v.ownFields[i]? = some f)
    (hp : p ≠ []) : v.fieldAt? (i :: p) = if f.embedded then f.value.fieldAt? p else none := by
  obtain ⟨j, rest, rfl⟩ := List.exists_cons_of_ne_nil hp
  rw [fieldAt?, hf, Option.bind_some]

theorem mem_placesAt_iff : p ∈ placesAt n v ↔ p.length = n + 1 ∧ (v.fieldAt? p).isSome := by
  induction n generalizing v p with
  | zero =>
    rw [placesAt, List.mem_map, List.length_eq_one_iff]
    constructor
    · rintro ⟨i, hi, rfl⟩
      exact ⟨⟨i, rfl⟩, by simpa [fieldAt?] using hi⟩
    · rintro ⟨⟨i, rfl⟩, hi⟩
      exact ⟨i, by simpa [fieldAt?] using hi, rfl⟩
  | succ n ih =>
    rw [placesAt, List.mem_flatMap]
    constructor
    · rintro ⟨⟨f, i⟩, hf, hp⟩
      rw [List.mem_zipIdx_iff_getElem?] at hf
      split at hp
      next he =>
        obtain ⟨rest, hrest, rfl⟩ := List.mem_map.mp hp
        obtain ⟨hlen, hsome⟩ := ih.mp hrest
        have hne : rest ≠ [] := by
          rintro rfl
          cases hlen
        refine ⟨by simpa using hlen, ?_⟩
        rwa [fieldAt?_cons hf hne, if_pos he]
      next => cases hp
    · rintro ⟨hlen, hsome⟩
      obtain ⟨i, rest, rfl⟩ := List.exists_cons_of_ne_nil (List.ne_nil_of_length_eq_add_one hlen)
      have hlen : rest.length = n + 1 := by simpa using hlen
      have hne : rest ≠ [] := List.ne_nil_of_length_eq_add_one hlen
      cases hf : v.ownFields[i]? with
      | none =>
        obtain ⟨j, rest, rfl⟩ := List.exists_cons_of_ne_nil hne
        rw [fieldAt?, hf, Option.bind_none] at hsome
        cases hsome
      | some f =>
        rw [fieldAt?_cons hf hne] at hsome
        split at hsome
        next he =>
          refine ⟨(f, i), List.mem_zipIdx_iff_getElem?.mpr hf, ?_⟩
          rw [if_pos he]
          exact List.mem_map_of_mem (ih.mpr ⟨hlen, hsome⟩)
        next => cases hsome

/-- The fields at a depth are those at its places. -/
theorem map_fieldAt?_placesAt (n : Nat) (v : Value) :
    (placesAt n v).map v.fieldAt? = (level n v).map some := by
  induction n generalizing v with
  | zero =>
    rw [placesAt, level_zero, List.map_map]
    apply List.ext_getElem
    · simp
    · intro i _ hi
      simp [fieldAt?]
  | succ n ih =>
    rw [placesAt, level_succ, List.map_flatMap, List.map_flatMap]
    conv_rhs => rw [← List.zipIdx_map_fst 0 v.ownFields, List.flatMap_map]
    apply List.flatMap_congr
    rintro ⟨f, i⟩ hf
    rw [List.mem_zipIdx_iff_getElem?] at hf
    split
    next he =>
      rw [← ih, List.map_map]
      apply List.map_congr_left
      intro rest hrest
      have hne := List.ne_nil_of_length_eq_add_one (mem_placesAt_iff.mp hrest).1
      rw [Function.comp_apply, fieldAt?_cons hf hne, if_pos he]
    next => rfl

theorem pairwise_placesAt (n : Nat) (v : Value) : (placesAt n v).Pairwise Precedes := by
  induction n generalizing v with
  | zero =>
    rw [placesAt, List.pairwise_map]
    exact List.pairwise_lt_range.imp fun h => .declared [] h
  | succ n ih =>
    rw [placesAt, List.pairwise_flatMap]
    constructor
    · rintro ⟨f, i⟩ _
      split
      · exact List.pairwise_map.mpr ((ih f.value).imp (.cons i))
      · exact .nil
    · have hlt : v.ownFields.zipIdx.Pairwise fun a b => a.2 < b.2 := by
        rw [← List.pairwise_map (f := Prod.snd) (R := (· < ·)), List.zipIdx_map_snd]
        exact List.pairwise_lt_range'
      refine hlt.imp ?_
      rintro ⟨f, i⟩ ⟨g, j⟩ hij p hp q hq
      dsimp only at hp hq
      split at hp
      · split at hq
        · obtain ⟨p', hp', rfl⟩ := List.mem_map.mp hp
          obtain ⟨q', hq', rfl⟩ := List.mem_map.mp hq
          refine .of_head_lt hij ?_
          rw [(mem_placesAt_iff.mp hp').1, (mem_placesAt_iff.mp hq').1]
        · cases hq
      · cases hp

theorem flatten_eq_flatMap_range {α : Type} (xs : List (List α)) :
    xs.flatten = (List.range xs.length).flatMap fun n => xs[n]?.getD [] := by
  have hxs : xs = (List.range xs.length).map fun n => xs[n]?.getD [] := by
    apply List.ext_getElem
    · simp
    · intro n hn _
      simp [hn]
  conv_lhs => rw [hxs]
  exact List.flatMap_def.symm

theorem level_eq_nil (h : v.levels.length ≤ n) : level n v = [] := by
  rw [level, List.getElem?_eq_none h, Option.getD_none]

theorem reachableFields_eq_flatMap_level (v : Value) :
    v.reachableFields = (List.range v.levels.length).flatMap fun n => level n v :=
  flatten_eq_flatMap_range v.levels

/-- The places of all fields, depth by depth. -/
def places (v : Value) : List (List Nat) :=
  (List.range v.levels.length).flatMap fun n => placesAt n v

theorem map_fieldAt?_places (v : Value) :
    v.places.map v.fieldAt? = v.reachableFields.map some := by
  rw [places, reachableFields_eq_flatMap_level, List.map_flatMap, List.map_flatMap]
  exact List.flatMap_congr fun n _ => map_fieldAt?_placesAt n v

theorem mem_places_iff : p ∈ v.places ↔ (v.fieldAt? p).isSome := by
  rw [places, List.mem_flatMap]
  constructor
  · rintro ⟨n, _, hp⟩
    exact (mem_placesAt_iff.mp hp).2
  · intro h
    have hne : p ≠ [] := by
      rintro rfl
      rw [fieldAt?] at h
      cases h
    have hp : p ∈ placesAt (p.length - 1) v :=
      mem_placesAt_iff.mpr ⟨(Nat.sub_add_cancel (List.length_pos_iff.mpr hne)).symm, h⟩
    refine ⟨p.length - 1, List.mem_range.mpr ?_, hp⟩
    -- Where the levels end there are no fields, hence no places.
    by_contra hn
    have hnil := map_fieldAt?_placesAt (p.length - 1) v
    rw [level_eq_nil (not_lt.mp hn), List.map_nil, List.map_eq_nil_iff] at hnil
    rw [hnil] at hp
    cases hp

theorem pairwise_places (v : Value) : v.places.Pairwise Precedes := by
  rw [places, List.pairwise_flatMap]
  refine ⟨fun n _ => pairwise_placesAt n v, List.pairwise_lt_range.imp ?_⟩
  intro m n hmn p hp q hq
  refine .shallower ?_
  rw [(mem_placesAt_iff.mp hp).1, (mem_placesAt_iff.mp hq).1]
  exact Nat.succ_lt_succ hmn

theorem nodup_places (v : Value) : v.places.Nodup := (pairwise_places v).imp Precedes.ne

/-- Among the fields of one name, the field whose place comes before all others. -/
structure Foremost (v : Value) (name : String) (p : List Nat) (f : Field Value) : Prop where
  found : v.fieldAt? p = some f
  named : f.name = name
  first (q : List Nat) (g : Field Value) (hg : v.fieldAt? q = some g) (hname : g.name = name)
    (hne : q ≠ p) : Precedes p q

/-- The first field of a name has the first of the places with this name. -/
theorem find?_eq_some_iff_first {fields : List (Field Value)} {ps : List (List Nat)}
    {name : String} {f : Field Value} (hmap : ps.map v.fieldAt? = fields.map some)
    (hps : ps.Pairwise Precedes) : fields.find? (fun f => f.name == name) = some f ↔
      ∃ p ∈ ps, v.fieldAt? p = some f ∧ f.name = name ∧
        ∀ q ∈ ps, ∀ g, v.fieldAt? q = some g → g.name = name → q ≠ p → Precedes p q := by
  induction ps generalizing fields with
  | nil =>
    rw [List.map_nil, eq_comm, List.map_eq_nil_iff] at hmap
    simp [hmap]
  | cons p ps ih =>
    obtain ⟨g, fields, rfl, hg, hmap⟩ := List.map_eq_cons_iff.mp hmap.symm
    obtain ⟨hp, hps⟩ := List.pairwise_cons.mp hps
    specialize ih hmap.symm hps
    by_cases hname : g.name = name
    · rw [List.find?_cons_of_pos (by simpa using hname), Option.some_inj]
      constructor
      · rintro rfl
        refine ⟨p, List.mem_cons_self, hg.symm, hname, ?_⟩
        intro q hq _ _ _ hne
        exact hp q (List.mem_of_ne_of_mem hne hq)
      · rintro ⟨q, hq, hf, _, hfirst⟩
        rcases List.mem_cons.mp hq with rfl | hq
        · rw [← hg, Option.some_inj] at hf
          exact hf
        · have hpq := hp q hq
          exact absurd (hfirst p List.mem_cons_self g hg.symm hname hpq.ne) hpq.asymm
    · rw [List.find?_cons_of_neg (by simpa using hname), ih]
      constructor
      · rintro ⟨q, hq, hf, hfname, hfirst⟩
        refine ⟨q, List.mem_cons_of_mem p hq, hf, hfname, ?_⟩
        intro r hr k hk hkname hne
        rcases List.mem_cons.mp hr with rfl | hr
        · rw [← hg, Option.some_inj] at hk
          exact absurd (hk ▸ hkname) hname
        · exact hfirst r hr k hk hkname hne
      · rintro ⟨q, hq, hf, hfname, hfirst⟩
        rcases List.mem_cons.mp hq with rfl | hq
        · rw [← hg, Option.some_inj] at hf
          exact absurd (hf ▸ hfname) hname
        · exact ⟨q, hq, hf, hfname, fun r hr => hfirst r (List.mem_cons_of_mem p hr)⟩

theorem field?_eq_some_iff {name : String} {f : Field Value} :
    v.field? name = some f ↔ ∃ p, Foremost v name p f := by
  rw [field?, find?_eq_some_iff_first (map_fieldAt?_places v) (pairwise_places v)]
  constructor
  · rintro ⟨p, _, hf, hname, hfirst⟩
    refine ⟨p, hf, hname, fun q g hg => hfirst q ?_ g hg⟩
    rw [mem_places_iff, hg, Option.isSome_some]
  · rintro ⟨p, hf, hname, hfirst⟩
    refine ⟨p, ?_, hf, hname, fun q _ => hfirst q⟩
    rw [mem_places_iff, hf, Option.isSome_some]

theorem mem_reachableFields_iff {f : Field Value} :
    f ∈ v.reachableFields ↔ ∃ p, v.fieldAt? p = some f := by
  rw [← List.mem_map_of_injective (Option.some_injective _), ← map_fieldAt?_places, List.mem_map]
  constructor
  · rintro ⟨p, _, hp⟩
    exact ⟨p, hp⟩
  · rintro ⟨p, hp⟩
    refine ⟨p, ?_, hp⟩
    rw [mem_places_iff, hp, Option.isSome_some]

theorem field?_eq_none_iff {name : String} :
    v.field? name = none ↔ ∀ p f, v.fieldAt? p = some f → f.name ≠ name := by
  rw [field?, List.find?_eq_none]
  constructor
  · intro h p f hf
    simpa using h f (mem_reachableFields_iff.mpr ⟨p, hf⟩)
  · intro h f hf
    obtain ⟨p, hp⟩ := mem_reachableFields_iff.mp hf
    simpa using h p f hp

/-- The structs that a struct embeds, in order. -/
def embeddedStructs (v : Value) : List Value :=
  (v.ownFields.filter fun f => f.embedded && f.value.kind == .struct).map (·.value)

theorem sum_sizeOf_embedded_le (fields : List (Field Value)) :
    (((fields.filter fun f => f.embedded && f.value.kind == .struct).map (·.value)).map
      sizeOf).sum ≤ sizeOf fields := by
  induction fields with
  | nil => simp
  | cons f rest ih =>
    have hf : sizeOf f.value < sizeOf f := by
      cases f
      simp only [Field.mk.sizeOf_spec]
      omega
    rw [List.filter_cons, List.cons.sizeOf_spec]
    split
    · rw [List.map_cons, List.map_cons, List.sum_cons]
      omega
    · omega

theorem sum_sizeOf_embeddedStructs_lt (v : Value) :
    (v.embeddedStructs.map sizeOf).sum < sizeOf v := by
  cases v with
  | struct name fields validator =>
    have h := sum_sizeOf_embedded_le fields
    rw [Value.struct.sizeOf_spec]
    exact h.trans_lt (by omega)
  | _ =>
    simp only [embeddedStructs, ownFields, List.filter_nil, List.map_nil, List.sum_nil]
    rw [Nat.pos_iff_ne_zero]
    simp

/-- The fields met while a queue of structs is worked off: the first struct leaves it, and those
that it embeds join at the end. -/
def gather : List Value → List (Field Value)
  | [] => []
  | v :: pending => v.ownFields ++ gather (pending ++ v.embeddedStructs)
termination_by queue => (queue.map sizeOf).sum
decreasing_by
  have h := sum_sizeOf_embeddedStructs_lt v
  simp only [List.map_append, List.sum_append, List.map_cons, List.sum_cons]
  omega

/-- The structs at the front of a queue leave it before all that they embed. -/
theorem gather_append (vs pending : List Value) : gather (vs ++ pending) =
    vs.flatMap ownFields ++ gather (pending ++ vs.flatMap embeddedStructs) := by
  induction vs generalizing pending with
  | nil => simp
  | cons v vs ih =>
    rw [List.cons_append, gather, List.append_assoc, ih, List.flatMap_cons, List.flatMap_cons,
      List.append_assoc, List.append_assoc]

/-- Work on a queue goes level by level. -/
theorem gather_eq (vs : List Value) :
    gather vs = vs.flatMap ownFields ++ gather (vs.flatMap embeddedStructs) := by
  simpa using gather_append vs []

theorem level_succ_eq_flatMap_embeddedStructs (n : Nat) (v : Value) :
    level (n + 1) v = v.embeddedStructs.flatMap (level n) := by
  rw [level_succ, embeddedStructs, List.flatMap_map]
  induction v.ownFields with
  | nil => rfl
  | cons f rest ih =>
    rw [List.flatMap_cons, List.filter_cons, ih]
    cases f.embedded with
    | false => simp
    | true =>
      by_cases hf : f.value.kind = .struct
      · simp [hf]
      · simp [hf, level_eq_nil_of_kind hf]

theorem length_joinLevels {α : Type} (xs ys : List (List α)) :
    (joinLevels xs ys).length = max xs.length ys.length := by
  induction xs, ys using joinLevels.induct with
  | case1 ys => simp [joinLevels]
  | case2 xs => cases xs <;> simp [joinLevels]
  | case3 x xs y ys ih =>
    rw [joinLevels, List.length_cons, ih, List.length_cons, List.length_cons]
    omega

theorem length_levels_le_of_embedded {fields : List (Field Value)} {f : Field Value}
    (hf : f ∈ fields) (he : f.embedded = true) :
    f.value.levels.length ≤ (embeddedLevels fields).length := by
  induction fields with
  | nil => cases hf
  | cons g rest ih =>
    rw [embeddedLevels]
    rcases List.mem_cons.mp hf with rfl | hf
    · rw [if_pos he, length_joinLevels]
      exact Nat.le_max_left _ _
    · split
      · rw [length_joinLevels]
        exact (ih hf).trans (Nat.le_max_right _ _)
      · exact ih hf

theorem length_levels_lt {w : Value} (hw : w ∈ v.embeddedStructs) :
    w.levels.length < v.levels.length := by
  obtain ⟨f, hf, rfl⟩ := List.mem_map.mp hw
  obtain ⟨hf, he⟩ := List.mem_filter.mp hf
  cases v with
  | struct name fields validator =>
    exact Nat.lt_succ_of_le (length_levels_le_of_embedded hf (Bool.and_elim_left he))
  | _ => cases hf

/-- A queue yields its fields depth by depth, down to where no struct in it reaches. -/
theorem gather_eq_flatMap_level (depth : Nat) (vs : List Value)
    (h : ∀ v ∈ vs, v.levels.length ≤ depth) :
    gather vs = (List.range depth).flatMap fun n => vs.flatMap (level n) := by
  -- A round of the queue takes off the own fields and leaves structs that are one level less deep.
  induction depth generalizing vs with
  | zero =>
    have hfields : vs.flatMap ownFields = [] := by
      refine List.flatMap_eq_nil_iff.mpr fun v hv => ?_
      rw [← level_zero, level_eq_nil (h v hv)]
    have hnone : vs.flatMap embeddedStructs = [] := by
      refine List.flatMap_eq_nil_iff.mpr fun v hv => List.eq_nil_iff_forall_not_mem.mpr ?_
      intro w hw
      have hlt := length_levels_lt hw
      have hle := h v hv
      omega
    rw [gather_eq, hfields, hnone, gather]
    rfl
  | succ depth ih =>
    have hnext : ∀ w ∈ vs.flatMap embeddedStructs, w.levels.length ≤ depth := by
      intro w hw
      obtain ⟨v, hv, hw⟩ := List.mem_flatMap.mp hw
      exact Nat.le_of_lt_succ ((length_levels_lt hw).trans_le (h v hv))
    have hzero : level 0 = ownFields := funext level_zero
    have hsucc (n : Nat) : level (n + 1) = fun v => v.embeddedStructs.flatMap (level n) :=
      funext (level_succ_eq_flatMap_embeddedStructs n)
    rw [gather_eq, ih _ hnext, List.range_succ_eq_map, List.flatMap_cons, List.flatMap_map]
    simp only [hzero, hsucc, List.flatMap_assoc]

theorem gather_singleton (v : Value) : gather [v] = v.reachableFields := by
  rw [gather_eq_flatMap_level v.levels.length [v] (by simp), reachableFields_eq_flatMap_level]
  simp only [List.flatMap_singleton]

theorem fieldAt?_append {f : Field Value} {q : List Nat} (hf : v.fieldAt? p = some f)
    (hq : q ≠ []) : v.fieldAt? (p ++ q) = if f.embedded then f.value.fieldAt? q else none := by
  induction p generalizing v with
  | nil => cases hf
  | cons i p ih =>
    cases p with
    | nil => exact fieldAt?_cons hf hq
    | cons j p =>
      rw [fieldAt?] at hf
      obtain ⟨g, hg, hf⟩ := Option.bind_eq_some_iff.mp hf
      split at hf
      next he =>
        rw [List.cons_append, fieldAt?_cons hg (by simp), if_pos he]
        exact ih hf
      next => cases hf

theorem fieldAt?_eq_none (h : v.kind ≠ .struct) (p : List Nat) : v.fieldAt? p = none := by
  have hnil : v.ownFields = [] := by rw [← level_zero, level_eq_nil_of_kind h]
  rcases p with _ | ⟨i, _ | ⟨j, p⟩⟩
  · rw [fieldAt?]
  · rw [fieldAt?, hnil, List.getElem?_nil]
  · rw [fieldAt?, hnil, List.getElem?_nil, Option.bind_none]

/-- Nothing is promoted from a field unless it embeds a struct. -/
theorem fieldAt?_append_eq_none {f : Field Value} {q : List Nat} (hf : v.fieldAt? p = some f)
    (h : f.embedded = false ∨ f.value.kind ≠ .struct) (hq : q ≠ []) :
    v.fieldAt? (p ++ q) = none := by
  rw [fieldAt?_append hf hq]
  rcases h with h | h
  · rw [if_neg (by simp [h])]
  · rw [fieldAt?_eq_none h q, ite_self]

/-- A queue of embedded structs is worked off to the end, and meets the fields at all places, each
place once, in the order of the places. A name finds the field whose place is the first. -/
theorem fields_in_level_order (v : Value) :
    gather [v] = v.reachableFields ∧
    v.places.map v.fieldAt? = v.reachableFields.map some ∧
    (∀ p, p ∈ v.places ↔ (v.fieldAt? p).isSome) ∧
    v.places.Nodup ∧ v.places.Pairwise Precedes ∧
    (∀ name f, v.field? name = some f ↔ ∃ p, Foremost v name p f) ∧
    (∀ name, v.field? name = none ↔ ∀ p f, v.fieldAt? p = some f → f.name ≠ name) ∧
    ∀ p q f, v.fieldAt? p = some f → f.embedded = false ∨ f.value.kind ≠ .struct → q ≠ [] →
      v.fieldAt? (p ++ q) = none :=
  ⟨gather_singleton v, map_fieldAt?_places v, fun _ => mem_places_iff, nodup_places v,
    pairwise_places v, fun _ _ => field?_eq_some_iff, fun _ => field?_eq_none_iff,
    fun _ _ _ => fieldAt?_append_eq_none⟩

/-- The struct embedded first wins over the one embedded last, and nothing lies below an embedded
field without a struct. -/
theorem fields_in_level_order_of_shadowed :
    let first := Field.mk "X" none false (.bool true)
    let v := struct "Outer"
      [⟨"P", none, true, struct "P" [⟨"Q", none, false, nil⟩, first] none⟩,
        ⟨"Q", none, true, struct "Q" [⟨"X", none, false, .bool false⟩] none⟩,
        ⟨"N", none, true, nil⟩] none
    (∃ p, Foremost v "X" p first) ∧ v.fieldAt? ([2] ++ [0]) = none := by
  intro first v
  obtain ⟨_, _, _, _, _, hfound, _, hbelow⟩ := fields_in_level_order v
  refine ⟨(hfound "X" first).mp rfl, ?_⟩
  have hkind : (nil : Value).kind ≠ .struct := ValueKind.noConfusion
  exact hbelow [2] [0] ⟨"N", none, true, nil⟩ rfl (.inr hkind) (List.cons_ne_nil 0 [])

end Value
end Verdict
