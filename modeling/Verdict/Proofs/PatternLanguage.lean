import Mathlib.Computability.Language
import Mathlib.Order.CompletePartialOrder
import Verdict.Proofs.PatternMatches

/-! The words of a pattern that sets no conditions on places, and texts that are such words from
end to end. -/
namespace Verdict

theorem ScalarSet.contains_nil_iff {c : Char} : contains ⟨[]⟩ c = true ↔ False :=
  iff_of_false Bool.false_ne_true id

theorem ScalarSet.contains_range_iff {low high : Nat} {rest : List Nat} {c : Char} :
    contains ⟨low :: high :: rest⟩ c = true ↔
      low ≤ c.toNat ∧ (c.toNat < high ∨ contains ⟨rest⟩ c = true) := by
  rw [contains, covers]
  split
  · exact iff_of_false Bool.false_ne_true fun h => by omega
  · split
    · exact iff_of_true rfl ⟨by omega, .inl ‹_›⟩
    · exact ⟨fun h => ⟨by omega, .inr h⟩, fun h => h.2.resolve_left ‹_›⟩

namespace Place
variable {text u r : List Char} {a b : Place}

/-- A place is known by what is left of the text. -/
theorem In.eq_of_rest_eq (ha : a.In text) (hb : b.In text) (h : a.rest = b.rest) : a = b := by
  apply ha.eq_of_offset_eq hb
  have haLength := ha.offset_add
  have hbLength := hb.offset_add
  rw [h] at haLength
  omega

/-- Where a text can be cut there is a place. -/
theorem In.exists_rest (ha : a.In text) (h : u ++ r = a.rest) :
    ∃ b : Place, b.In text ∧ b.rest = r := by
  obtain ⟨front, htext, _, _⟩ := ha
  refine ⟨⟨(front ++ u).length, (front ++ u).getLast?, r⟩, ⟨front ++ u, ?_, rfl, rfl⟩, rfl⟩
  rw [List.append_assoc, h, htext]

end Place

/-- Between places of the text the relation reads the words of the language. -/
structure Reads (text : List Char) (L : Language Char) (R : Place → Place → Prop) : Prop where
  within {a b : Place} (ha : a.In text) (h : R a b) : b.In text
  reads {a b : Place} (ha : a.In text) (hb : b.In text) : R a b ↔ ∃ w ∈ L, w ++ b.rest = a.rest

namespace Reads
variable {text : List Char} {L M : Language Char} {R S : Place → Place → Prop}

theorem eq : Reads text 1 Eq where
  within ha h := h ▸ ha
  reads {a b} ha hb := by
    simp only [Language.mem_one, exists_eq_left, List.nil_append]
    exact ⟨fun h => h ▸ rfl, fun h => ha.eq_of_rest_eq hb h.symm⟩

theorem comp (hR : Reads text L R) (hS : Reads text M S) :
    Reads text (L * M) fun a b => ∃ c, R a c ∧ S c b where
  within ha h := by
    obtain ⟨c, hac, hcb⟩ := h
    exact hS.within (hR.within ha hac) hcb
  reads {a b} ha hb := by
    constructor
    · rintro ⟨c, hac, hcb⟩
      have hc := hR.within ha hac
      obtain ⟨u, hu, hua⟩ := (hR.reads ha hc).mp hac
      obtain ⟨v, hv, hvc⟩ := (hS.reads hc hb).mp hcb
      refine ⟨u ++ v, Language.append_mem_mul hu hv, ?_⟩
      rw [List.append_assoc, hvc, hua]
    · rintro ⟨w, hw, hwa⟩
      obtain ⟨u, hu, v, hv, rfl⟩ := Language.mem_mul.mp hw
      rw [List.append_assoc] at hwa
      obtain ⟨c, hc, hcrest⟩ := ha.exists_rest hwa
      exact ⟨c, (hR.reads ha hc).mpr ⟨u, hu, by rw [hcrest, hwa]⟩,
        (hS.reads hc hb).mpr ⟨v, hv, hcrest.symm⟩⟩

theorem add (hR : Reads text L R) (hS : Reads text M S) :
    Reads text (L + M) fun a b => R a b ∨ S a b where
  within ha h := h.elim (hR.within ha) (hS.within ha)
  reads ha hb := by
    simp only [hR.reads ha hb, hS.reads ha hb, Language.mem_add, or_and_right, exists_or]

theorem rounds (hR : Reads text L R) (n : Nat) : Reads text (L ^ n) (Rounds R n) := by
  induction n with
  | zero => exact eq
  | succ n ih =>
    rw [pow_succ']
    exact hR.comp ih

theorem union {ι : Type} {most : ι → Prop} {Ls : ι → Language Char} {Rs : ι → Place → Place → Prop}
    (h : ∀ i, Reads text (Ls i) (Rs i)) :
    Reads text (⨆ i, ⨆ _ : most i, Ls i) fun a b => ∃ i, most i ∧ Rs i a b where
  within ha hR := by
    obtain ⟨i, _, hR⟩ := hR
    exact (h i).within ha hR
  reads {a b} ha hb := by
    simp only [Language.mem_iSup, exists_prop, ((h _).reads ha hb)]
    constructor
    · rintro ⟨i, hi, w, hw, hwa⟩
      exact ⟨w, ⟨i, hi, hw⟩, hwa⟩
    · rintro ⟨w, ⟨i, hi, hw⟩, hwa⟩
      exact ⟨i, hi, w, hw, hwa⟩

end Reads

namespace Pattern
variable {text : List Char}

/-- No conditions on places. -/
def isPlain : Pattern → Bool
  | .empty | .one _ => true
  | .anchor _ => false
  | .capture p | .repeated p _ _ => p.isPlain
  | .seq p q | .alt p q => p.isPlain && q.isPlain

/-- The words that a pattern reads. -/
def language : Pattern → Language Char
  | .empty | .anchor _ => 1
  | .one set => {w | ∃ c, set.contains c = true ∧ w = [c]}
  | .capture p => p.language
  | .seq p q => p.language * q.language
  | .alt p q => p.language + q.language
  | .repeated p least most => p.language ^ least *
      ⨆ more, ⨆ _ : ∀ m, most = some m → more ≤ m - least, p.language ^ more

theorem reads_one (set : ScalarSet) :
    Reads text (Pattern.one set).language (Pattern.one set).Leads where
  within ha h := ha.step h
  reads {a b} ha hb := by
    constructor
    · intro h
      obtain ⟨c, hc, hrest, _⟩ := Place.step?_eq_some_iff.mp h
      exact ⟨[c], ⟨c, hc, rfl⟩, hrest.symm⟩
    · rintro ⟨w, ⟨c, hc, rfl⟩, hrest⟩
      have hstep : a.step? set = some ⟨a.offset + 1, some c, b.rest⟩ :=
        Place.step?_eq_some_iff.mpr ⟨c, hc, hrest.symm, rfl, rfl⟩
      rwa [(ha.step hstep).eq_of_rest_eq hb rfl] at hstep

/-- Without conditions on places a pattern reads its words wherever they stand. -/
theorem reads_language {P : Pattern} (h : P.isPlain = true) :
    Reads text P.language P.Leads := by
  induction P with
  | empty => exact Reads.eq
  | one set => exact reads_one set
  | anchor x => cases h
  | capture p ih => exact ih h
  | seq p q ihp ihq =>
    obtain ⟨hp, hq⟩ := Bool.and_eq_true_iff.mp h
    exact (ihp hp).comp (ihq hq)
  | alt p q ihp ihq =>
    obtain ⟨hp, hq⟩ := Bool.and_eq_true_iff.mp h
    exact (ihp hp).add (ihq hq)
  | repeated p least most ih =>
    exact ((ih h).rounds least).comp (Reads.union fun more => (ih h).rounds more)

/-- Parts one after another up to the end of the text. -/
def toEnd : List Pattern → Pattern
  | [] => .anchor .textEnd
  | p :: ps => .seq p (toEnd ps)

/-- Parts one after another that make up the text. -/
def whole (ps : List Pattern) : Pattern := .seq (.anchor .textStart) (toEnd ps)

theorem leads_to_end_iff {ps : List Pattern} (h : ∀ p ∈ ps, p.isPlain = true) {a : Place}
    (ha : a.In text) :
    (∃ b, (toEnd ps).Leads a b) ↔ a.rest ∈ (ps.map language).prod := by
  induction ps generalizing a with
  | nil => simp [toEnd, Leads, Place.satisfies, Language.mem_one]
  | cons p ps ih =>
    obtain ⟨hp, hps⟩ := List.forall_mem_cons.mp h
    rw [List.map_cons, List.prod_cons, Language.mem_mul]
    have hreads : Reads text p.language p.Leads := reads_language hp
    constructor
    · rintro ⟨b, c, hac, hcb⟩
      have hc := hreads.within ha hac
      obtain ⟨w, hw, hwa⟩ := (hreads.reads ha hc).mp hac
      exact ⟨w, hw, c.rest, (ih hps hc).mp ⟨b, hcb⟩, hwa⟩
    · rintro ⟨w, hw, v, hv, hwa⟩
      obtain ⟨c, hc, rfl⟩ := ha.exists_rest hwa
      obtain ⟨b, hcb⟩ := (ih hps hc).mpr hv
      exact ⟨b, c, (hreads.reads ha hc).mpr ⟨w, hw, hwa⟩, hcb⟩

/-- A pattern between the two ends of the text matches just the texts that are its words. -/
theorem matchesIn_whole_iff {ps : List Pattern} (h : ∀ p ∈ ps, p.isPlain = true) (s : String) :
    (whole ps).matchesIn s = true ↔ s.toList ∈ (ps.map language).prod := by
  rw [matchesIn_iff]
  constructor
  · rintro ⟨a, b, ha, c, ⟨rfl, hstart⟩, hcb⟩
    have hrest : a.rest = s.toList := by
      obtain ⟨front, htext, _, hbefore⟩ := ha
      have hfront : front = [] := by
        rw [← List.getLast?_eq_none_iff, ← hbefore]
        exact Option.isNone_iff_eq_none.mp hstart
      rw [← htext, hfront, List.nil_append]
    rw [← hrest]
    exact (leads_to_end_iff h ha).mp ⟨b, hcb⟩
  · intro hs
    have hstart : (Place.start s.toList).In s.toList := ⟨[], rfl, rfl, rfl⟩
    obtain ⟨b, hb⟩ := (leads_to_end_iff h hstart).mpr hs
    exact ⟨_, b, hstart, _, ⟨rfl, rfl⟩, hb⟩

section Words
variable {P : Pattern} {set : ScalarSet} {w : List Char} {n least most : Nat}

theorem mem_one_pow_iff :
    w ∈ (Pattern.one set).language ^ n ↔ w.length = n ∧ ∀ c ∈ w, set.contains c = true := by
  induction n generalizing w with
  | zero =>
    rw [pow_zero, Language.mem_one, List.length_eq_zero_iff]
    refine (and_iff_left_of_imp ?_).symm
    rintro rfl c hc
    cases hc
  | succ n ih =>
    rw [pow_succ', Language.mem_mul]
    simp only [ih]
    constructor
    · rintro ⟨_, ⟨c, hc, rfl⟩, v, ⟨rfl, hv⟩, rfl⟩
      exact ⟨rfl, List.forall_mem_cons.mpr ⟨hc, hv⟩⟩
    · rintro ⟨hlength, hw⟩
      obtain ⟨c, v, rfl⟩ := List.exists_cons_of_length_eq_add_one hlength
      obtain ⟨hc, hv⟩ := List.forall_mem_cons.mp hw
      exact ⟨[c], ⟨c, hc, rfl⟩, v, ⟨by simpa using hlength, hv⟩, rfl⟩

theorem mem_repeated_iff (h : least ≤ most) :
    w ∈ (Pattern.repeated P least (some most)).language ↔
      ∃ n, least ≤ n ∧ n ≤ most ∧ w ∈ P.language ^ n := by
  rw [language]
  simp only [Option.some.injEq, forall_eq', Language.mul_iSup, Language.mem_iSup, ← pow_add,
    exists_prop]
  constructor
  · rintro ⟨more, hmore, hw⟩
    exact ⟨least + more, by omega, by omega, hw⟩
  · rintro ⟨n, hlo, hhi, hw⟩
    refine ⟨n - least, by omega, ?_⟩
    rwa [Nat.add_sub_cancel' hlo]

theorem mem_repeated_one_iff (h : least ≤ most) :
    w ∈ (Pattern.repeated (.one set) least (some most)).language ↔
      least ≤ w.length ∧ w.length ≤ most ∧ ∀ c ∈ w, set.contains c = true := by
  rw [mem_repeated_iff h]
  simp only [mem_one_pow_iff]
  constructor
  · rintro ⟨n, hlo, hhi, rfl, hw⟩
    exact ⟨hlo, hhi, hw⟩
  · rintro ⟨hlo, hhi, hw⟩
    exact ⟨w.length, hlo, hhi, rfl, hw⟩

theorem mem_optional_iff :
    w ∈ (Pattern.repeated P 0 (some 1)).language ↔ w = [] ∨ w ∈ P.language := by
  rw [mem_repeated_iff (Nat.zero_le 1)]
  constructor
  · rintro ⟨n, _, hn, hw⟩
    rcases Nat.le_one_iff_eq_zero_or_eq_one.mp hn with rfl | rfl
    · exact .inl hw
    · exact .inr (by rwa [pow_one] at hw)
  · rintro (rfl | hw)
    · exact ⟨0, le_rfl, Nat.zero_le 1, rfl⟩
    · exact ⟨1, Nat.zero_le 1, le_rfl, by rwa [pow_one]⟩

end Words

end Pattern
end Verdict
