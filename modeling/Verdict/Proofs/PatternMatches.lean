import Mathlib.Logic.Basic
import Verdict.Patterns.Pattern

/-! Where matches of a pattern end. The search follows all matches at once and goes on from each
place a single time; it reaches the places that some match leads to, and no others. -/
namespace Verdict

namespace Place
variable {text : List Char} {set : ScalarSet} {p q : Place} {old ps : List Place}

/-- The place lies in the text: what stands before it and what is left make up the text. -/
def In (text : List Char) (p : Place) : Prop :=
  ∃ front, front ++ p.rest = text ∧ p.offset = front.length ∧ p.before = front.getLast?

theorem In.offset_add (h : p.In text) : p.offset + p.rest.length = text.length := by
  obtain ⟨front, rfl, hoffset, _⟩ := h
  rw [hoffset, List.length_append]

/-- A place is known by the number of characters before it. -/
theorem In.eq_of_offset_eq (hp : p.In text) (hq : q.In text) (h : p.offset = q.offset) :
    p = q := by
  obtain ⟨front, htext, hoffset, hbefore⟩ := hp
  obtain ⟨front', htext', hoffset', hbefore'⟩ := hq
  obtain ⟨rfl, hrest⟩ := List.append_inj (htext.trans htext'.symm) (by omega)
  cases p
  cases q
  simp_all

theorem step?_eq_some_iff : p.step? set = some q ↔
    ∃ c, set.contains c = true ∧ p.rest = c :: q.rest ∧ q.offset = p.offset + 1 ∧
      q.before = some c := by
  rw [step?]
  constructor
  · intro h
    split at h
    next c rest hrest =>
      split at h
      next hc =>
        obtain rfl := Option.some.inj h
        exact ⟨c, hc, hrest, rfl, rfl⟩
      next => cases h
    next => cases h
  · rintro ⟨c, hc, hrest, hoffset, hbefore⟩
    cases q
    simp_all

theorem In.step (hp : p.In text) (h : p.step? set = some q) : q.In text := by
  obtain ⟨front, rfl, hoffset, _⟩ := hp
  obtain ⟨c, _, hrest, hoffset', hbefore'⟩ := step?_eq_some_iff.mp h
  refine ⟨front ++ [c], ?_, ?_, ?_⟩
  · rw [hrest, List.append_assoc, List.singleton_append]
  · rw [hoffset', hoffset, List.length_append, List.length_singleton]
  · rw [hbefore', List.getLast?_concat]

theorem mem_allFrom_iff (front : List Char) :
    p ∈ allFrom front.length front.getLast? text ↔
      ∃ more, front.length + more.length = p.offset ∧ more ++ p.rest = text ∧
        p.before = (front ++ more).getLast? := by
  induction text generalizing front with
  | nil =>
    rw [allFrom, List.mem_singleton]
    constructor
    · rintro rfl
      exact ⟨[], rfl, rfl, by rw [List.append_nil]⟩
    · rintro ⟨more, hoffset, htext, hbefore⟩
      obtain ⟨rfl, hrest⟩ := List.append_eq_nil_iff.mp htext
      cases p
      simp_all
  | cons c rest ih =>
    have hrest : p ∈ allFrom (front.length + 1) (some c) rest ↔
        ∃ more, front.length + 1 + more.length = p.offset ∧ more ++ p.rest = rest ∧
          p.before = (front ++ c :: more).getLast? := by
      simpa using ih (front ++ [c])
    rw [allFrom, List.mem_cons, hrest]
    constructor
    · rintro (rfl | ⟨more, hoffset, rfl, hbefore⟩)
      · exact ⟨[], rfl, rfl, by rw [List.append_nil]⟩
      · exact ⟨c :: more, by rw [List.length_cons]; omega, rfl, hbefore⟩
    · rintro ⟨more, hoffset, htext, hbefore⟩
      cases more with
      | nil =>
        cases p
        simp_all
      | cons d more =>
        obtain ⟨rfl, rfl⟩ := List.cons.inj htext
        exact .inr ⟨more, by rw [List.length_cons] at hoffset; omega, rfl, hbefore⟩

/-- All places of the text, and no others. -/
theorem mem_places_iff : p ∈ allFrom 0 none text ↔ p.In text := by
  have h : p ∈ allFrom 0 none text ↔
      ∃ more, 0 + more.length = p.offset ∧ more ++ p.rest = text ∧ p.before = more.getLast? :=
    mem_allFrom_iff []
  rw [h, In]
  constructor
  · rintro ⟨more, hoffset, htext, hbefore⟩
    exact ⟨more, htext, by omega, hbefore⟩
  · rintro ⟨front, htext, hoffset, hbefore⟩
    exact ⟨front, by omega, htext, hbefore⟩

theorem mem_fresh_iff (hold : ∀ p ∈ old, p.In text) (hps : ∀ p ∈ ps, p.In text) :
    q ∈ fresh old ps ↔ q ∈ ps ∧ q ∉ old := by
  induction ps generalizing old with
  | nil => simp [fresh]
  | cons p ps ih =>
    obtain ⟨hp, hrest⟩ := List.forall_mem_cons.mp hps
    have hany : (old.any fun q => q.offset == p.offset) = true ↔ p ∈ old := by
      rw [List.any_eq_true]
      constructor
      · rintro ⟨q, hq, heq⟩
        rwa [hp.eq_of_offset_eq (hold q hq) (beq_iff_eq.mp heq).symm]
      · exact fun hmem => ⟨p, hmem, beq_self_eq_true _⟩
    rw [fresh]
    by_cases hmem : p ∈ old
    · rw [if_pos (hany.mpr hmem), ih hold hrest, List.mem_cons]
      refine and_congr_left fun hq => (or_iff_right ?_).symm
      rintro rfl
      exact hq hmem
    · rw [if_neg (mt hany.mp hmem), List.mem_cons, ih (List.forall_mem_cons.mpr ⟨hp, hold⟩) hrest]
      by_cases hq : q = p
      · simp [hq, hmem]
      · simp [hq]

end Place

/-- So many steps of a relation, one after another. -/
def Rounds (R : Place → Place → Prop) : Nat → Place → Place → Prop
  | 0, p, q => p = q
  | n + 1, p, q => ∃ c, R p c ∧ Rounds R n c q

/-- What is closed under a step is closed under any number of them. -/
theorem Rounds.mem {R : Place → Place → Prop} {seen : List Place} {p q : Place} {n : Nat}
    (h : Rounds R n p q) (hp : p ∈ seen) (hclosed : ∀ p ∈ seen, ∀ c, R p c → c ∈ seen) :
    q ∈ seen := by
  induction n generalizing p with
  | zero =>
    obtain rfl := h
    exact hp
  | succ n ih =>
    obtain ⟨c, hc, h⟩ := h
    exact ih h (hclosed p hp c hc)

/-- From the places of a text, the step finds those that the relation leads to, which lie in the
text and no further to the front. -/
structure Finds (text : List Char) (step : List Place → List Place) (R : Place → Place → Prop) :
    Prop where
  found {ps : List Place} (h : ∀ p ∈ ps, p.In text) (q : Place) : q ∈ step ps ↔ ∃ p ∈ ps, R p q
  within {p q : Place} (hp : p.In text) (h : R p q) : q.In text
  onward {p q : Place} (hp : p.In text) (h : R p q) : p.offset ≤ q.offset

namespace Finds
variable {text : List Char} {step : List Place → List Place} {R : Place → Place → Prop}
  {seen front ps : List Place} {p q : Place} {n : Nat}

theorem step_within (h : Finds text step R) (hps : ∀ p ∈ ps, p.In text) :
    ∀ q ∈ step ps, q.In text := by
  intro q hq
  obtain ⟨p, hp, hR⟩ := (h.found hps q).mp hq
  exact h.within (hps p hp) hR

theorem rounds_within (h : Finds text step R) (hp : p.In text) (hR : Rounds R n p q) :
    q.In text ∧ p.offset ≤ q.offset := by
  induction n generalizing p with
  | zero =>
    obtain rfl := hR
    exact ⟨hp, Nat.le_refl _⟩
  | succ n ih =>
    obtain ⟨c, hc, hR⟩ := hR
    obtain ⟨hq, hle⟩ := ih (h.within hp hc) hR
    exact ⟨hq, Nat.le_trans (h.onward hp hc) hle⟩

theorem exactly (h : Finds text step R) (n : Nat) :
    Finds text (Pattern.exactly step n) (Rounds R n) where
  found {ps} hps q := by
    induction n generalizing ps with
    | zero => simp [Pattern.exactly, Rounds]
    | succ n ih =>
      rw [Pattern.exactly, ih (h.step_within hps)]
      constructor
      · rintro ⟨c, hc, hR⟩
        obtain ⟨p, hp, hpc⟩ := (h.found hps c).mp hc
        exact ⟨p, hp, c, hpc, hR⟩
      · rintro ⟨p, hp, c, hpc, hR⟩
        exact ⟨c, (h.found hps c).mpr ⟨p, hp, hpc⟩, hR⟩
  within hp hR := (h.rounds_within hp hR).1
  onward hp hR := (h.rounds_within hp hR).2

/-- Rounds that begin at the front find what can be reached from anywhere, as long as all that can
be reached in a single round from the places behind the front has been seen. -/
theorem mem_upTo_iff (h : Finds text step R) (hseen : ∀ p ∈ seen, p.In text)
    (hfront : ∀ p ∈ front, p ∈ seen)
    (hclosed : ∀ p ∈ seen, p ∉ front → ∀ c, R p c → c ∈ seen) (n : Nat) :
    q ∈ Pattern.upTo step n seen front ↔ ∃ k ≤ n, ∃ p ∈ seen, Rounds R k p q := by
  induction n generalizing seen front with
  | zero => simp [Pattern.upTo, Rounds]
  | succ n ih =>
    have hfrontIn : ∀ p ∈ front, p.In text := fun p hp => hseen p (hfront p hp)
    have hstep := h.step_within hfrontIn
    have hfresh {c : Place} := Place.mem_fresh_iff (q := c) hseen hstep
    have hnext : ∀ p ∈ seen, ∀ c, R p c → c ∈ seen ∨ c ∈ Place.fresh seen (step front) := by
      intro p hp c hc
      by_cases hpf : p ∈ front
      · have hcs : c ∈ step front := (h.found hfrontIn c).mpr ⟨p, hpf, hc⟩
        by_cases hmem : c ∈ seen
        · exact .inl hmem
        · exact .inr (hfresh.mpr ⟨hcs, hmem⟩)
      · exact .inl (hclosed p hp hpf c hc)
    rw [Pattern.upTo]
    split
    next hnil =>
      have hstay : ∀ p ∈ seen, ∀ c, R p c → c ∈ seen := by
        intro p hp c hc
        refine (hnext p hp c hc).resolve_right ?_
        rw [hnil]
        exact List.not_mem_nil
      constructor
      · exact fun hq => ⟨0, Nat.zero_le _, q, hq, rfl⟩
      · rintro ⟨k, _, p, hp, hR⟩
        exact hR.mem hp hstay
    next c cs hcons =>
      rw [← hcons, ih]
      · constructor
        · rintro ⟨k, hk, p, hp, hR⟩
          rcases List.mem_append.mp hp with hp | hp
          · exact ⟨k, by omega, p, hp, hR⟩
          · obtain ⟨f, hf, hfp⟩ := (h.found hfrontIn p).mp (hfresh.mp hp).1
            exact ⟨k + 1, by omega, f, hfront f hf, p, hfp, hR⟩
        · rintro ⟨k, hk, p, hp, hR⟩
          cases k with
          | zero => exact ⟨0, Nat.zero_le _, p, List.mem_append_left _ hp, hR⟩
          | succ k =>
            obtain ⟨c, hc, hR⟩ := hR
            exact ⟨k, by omega, c, List.mem_append.mpr (hnext p hp c hc), hR⟩
      · intro p hp
        rcases List.mem_append.mp hp with hp | hp
        · exact hseen p hp
        · exact hstep p (hfresh.mp hp).1
      · exact fun p hp => List.mem_append_right _ hp
      · intro p hp hpf c hc
        have hold := (List.mem_append.mp hp).resolve_right hpf
        exact List.mem_append.mpr (hnext p hold c hc)

/-- No more rounds are needed than there are characters left, since a round that reads nothing
leads nowhere. -/
theorem rounds_bounded (h : Finds text step R) (hp : p.In text) (hR : Rounds R n p q) :
    ∃ k ≤ p.rest.length, Rounds R k p q := by
  induction n generalizing p with
  | zero => exact ⟨0, Nat.zero_le _, hR⟩
  | succ n ih =>
    obtain ⟨c, hc, hR⟩ := hR
    have hcIn := h.within hp hc
    obtain ⟨k, hk, hR⟩ := ih hcIn hR
    by_cases heq : p.offset = c.offset
    · obtain rfl := hp.eq_of_offset_eq hcIn heq
      exact ⟨k, hk, hR⟩
    · have hle := h.onward hp hc
      have hpLength := hp.offset_add
      have hcLength := hcIn.offset_add
      exact ⟨k + 1, by omega, c, hc, hR⟩

theorem comp {step' : List Place → List Place} {R' : Place → Place → Prop}
    (h : Finds text step R) (h' : Finds text step' R') :
    Finds text (fun ps => step' (step ps)) (fun p q => ∃ c, R p c ∧ R' c q) where
  found hps q := by
    rw [h'.found (h.step_within hps)]
    constructor
    · rintro ⟨c, hc, hR'⟩
      obtain ⟨p, hp, hR⟩ := (h.found hps c).mp hc
      exact ⟨p, hp, c, hR, hR'⟩
    · rintro ⟨p, hp, c, hR, hR'⟩
      exact ⟨c, (h.found hps c).mpr ⟨p, hp, hR⟩, hR'⟩
  within hp hR := by
    obtain ⟨c, hR, hR'⟩ := hR
    exact h'.within (h.within hp hR) hR'
  onward hp hR := by
    obtain ⟨c, hR, hR'⟩ := hR
    exact Nat.le_trans (h.onward hp hR) (h'.onward (h.within hp hR) hR')

theorem either {step' : List Place → List Place} {R' : Place → Place → Prop}
    (h : Finds text step R) (h' : Finds text step' R') :
    Finds text (fun ps => step ps ++ Place.fresh (step ps) (step' ps))
      (fun p q => R p q ∨ R' p q) where
  found {ps} hps q := by
    rw [List.mem_append, Place.mem_fresh_iff (h.step_within hps) (h'.step_within hps),
      h.found hps, h'.found hps]
    constructor
    · rintro (⟨p, hp, hR⟩ | ⟨⟨p, hp, hR'⟩, _⟩)
      · exact ⟨p, hp, .inl hR⟩
      · exact ⟨p, hp, .inr hR'⟩
    · rintro ⟨p, hp, hR | hR'⟩
      · exact .inl ⟨p, hp, hR⟩
      · exact (Classical.em _).imp_right fun hnone => ⟨⟨p, hp, hR'⟩, hnone⟩
  within hp hR := hR.elim (h.within hp) (h'.within hp)
  onward hp hR := hR.elim (h.onward hp) (h'.onward hp)

/-- Rounds up to a limit that depends on the places to begin with. -/
theorem upTo (h : Finds text step R) (limit : List Place → Nat) {most : Nat → Prop}
    (hlimit : ∀ ps, (∀ p ∈ ps, p.In text) → ∀ q,
      (∃ k ≤ limit ps, ∃ p ∈ ps, Rounds R k p q) ↔ ∃ k, most k ∧ ∃ p ∈ ps, Rounds R k p q) :
    Finds text (fun ps => Pattern.upTo step (limit ps) ps ps)
      (fun p q => ∃ k, most k ∧ Rounds R k p q) where
  found {ps} hps q := by
    rw [h.mem_upTo_iff hps (fun _ hp => hp) (fun _ hp hnot => absurd hp hnot), hlimit ps hps q]
    constructor
    · rintro ⟨k, hk, p, hp, hR⟩
      exact ⟨p, hp, k, hk, hR⟩
    · rintro ⟨p, hp, k, hk, hR⟩
      exact ⟨k, hk, p, hp, hR⟩
  within hp hR := by
    obtain ⟨k, _, hR⟩ := hR
    exact (h.rounds_within hp hR).1
  onward hp hR := by
    obtain ⟨k, _, hR⟩ := hR
    exact (h.rounds_within hp hR).2

end Finds

namespace Pattern
variable {text : List Char}

/-- A match of the pattern leads from one place to another. A repetition is the least number of
rounds and then any number more, up to the greatest. -/
def Leads : Pattern → Place → Place → Prop
  | .empty, a, b => a = b
  | .one set, a, b => a.step? set = some b
  | .anchor x, a, b => a = b ∧ a.satisfies x = true
  | .capture p, a, b => p.Leads a b
  | .seq p q, a, b => ∃ c, p.Leads a c ∧ q.Leads c b
  | .alt p q, a, b => p.Leads a b ∨ q.Leads a b
  | .repeated p least most, a, b => ∃ c, Rounds p.Leads least a c ∧
    ∃ more, (∀ m, most = some m → more ≤ m - least) ∧ Rounds p.Leads more c b

theorem le_foldl_max {ns : List Nat} {n m : Nat} (h : n ≤ m ∨ n ∈ ns) : n ≤ ns.foldl max m := by
  induction ns generalizing m with
  | nil => exact h.resolve_right List.not_mem_nil
  | cons k ns ih =>
    apply ih
    rcases h with h | h
    · exact .inl (Nat.le_trans h (Nat.le_max_left m k))
    · rcases List.mem_cons.mp h with rfl | h
      · exact .inl (Nat.le_max_right m n)
      · exact .inr h

theorem finds_ends (P : Pattern) : Finds text P.ends P.Leads := by
  induction P with
  | empty =>
    refine ⟨fun _ q => ?_, ?_, ?_⟩
    · simp [ends, Leads]
    · rintro p q hp rfl
      exact hp
    · rintro p q _ rfl
      exact Nat.le_refl _
  | one set =>
    refine ⟨fun _ q => ?_, fun hp h => hp.step h, fun _ h => ?_⟩
    · simp [ends, Leads]
    · obtain ⟨c, _, _, hoffset, _⟩ := Place.step?_eq_some_iff.mp h
      omega
  | anchor x =>
    refine ⟨fun _ q => ?_, ?_, ?_⟩
    · rw [ends, List.mem_filter]
      constructor
      · exact fun ⟨hq, hx⟩ => ⟨q, hq, rfl, hx⟩
      · rintro ⟨p, hp, rfl, hx⟩
        exact ⟨hp, hx⟩
    · rintro p q hp ⟨rfl, _⟩
      exact hp
    · rintro p q _ ⟨rfl, _⟩
      exact Nat.le_refl _
  | capture p ih => exact ih
  | seq p q ihp ihq => exact ihp.comp ihq
  | alt p q ihp ihq => exact ihp.either ihq
  | repeated p least most ih =>
    cases most with
    | some m =>
      refine (ih.exactly least).comp (ih.upTo (fun _ => m - least) fun ps hps q => ?_)
      simp
    | none =>
      refine (ih.exactly least).comp (ih.upTo
        (fun ps => (ps.map fun q => q.rest.length + 1).foldl max 0) fun ps hps q => ?_)
      constructor
      · rintro ⟨k, _, p, hp, hR⟩
        exact ⟨k, nofun, p, hp, hR⟩
      · rintro ⟨k, _, p, hp, hR⟩
        obtain ⟨k, hk, hR⟩ := ih.rounds_bounded (hps p hp) hR
        have hlimit : p.rest.length + 1 ≤ (ps.map fun q => q.rest.length + 1).foldl max 0 :=
          le_foldl_max (.inr (List.mem_map_of_mem hp))
        exact ⟨k, by omega, p, hp, hR⟩

/-- The search finds a match just if there is one. -/
theorem matchesIn_iff (P : Pattern) (s : String) :
    P.matchesIn s = true ↔ ∃ p q, p.In s.toList ∧ P.Leads p q := by
  rw [matchesIn, Bool.not_eq_true', List.isEmpty_eq_false_iff_exists_mem]
  have hplaces : ∀ p ∈ Place.allFrom 0 none s.toList, p.In s.toList :=
    fun p hp => Place.mem_places_iff.mp hp
  simp only [(finds_ends P).found hplaces, Place.mem_places_iff]
  exact exists_comm.trans (by simp)

end Pattern
end Verdict
