import Verdict.Formats.Format
import Verdict.Patterns.PatternMeaning
import Verdict.Proofs.FieldPaths
import Verdict.Proofs.PatternLanguage

/-! The grammar of host names. Labels, names and domains are accepted just as they are defined, and
a point at the end makes no difference. -/
namespace Verdict
namespace HostName

/-- Letters, digits and hyphens of ASCII, with a letter or digit at either end. -/
structure Label (l : List Char) : Prop where
  nonempty : 1 ≤ l.length
  short : l.length ≤ 63
  chars : ∀ c ∈ l, c.isAlphanum = true ∨ c = '-'
  first : ∀ c ∈ l.head?, c.isAlphanum = true
  last : ∀ c ∈ l.getLast?, c.isAlphanum = true

/-- The text joins the labels by points, with or without one more point at its end. -/
structure Spells (s : List Char) (labels : List (List Char)) : Prop where
  nonempty : labels ≠ []
  valid : ∀ l ∈ labels, Label l
  short : (['.'].intercalate labels).length ≤ 253
  spelt : s = ['.'].intercalate labels ∨ s = ['.'].intercalate labels ++ ['.']

variable {s l : List Char} {labels : List (List Char)}

theorem isLabelChar_iff {c : Char} : isLabelChar c = true ↔ c.isAlphanum = true ∨ c = '-' := by
  rw [isLabelChar, Bool.or_eq_true, beq_iff_eq]

theorem isLabel_iff (l : List Char) : isLabel l = true ↔ Label l := by
  cases l with
  | nil => exact iff_of_false Bool.false_ne_true fun h => absurd h.nonempty (by decide)
  | cons first rest =>
    simp only [isLabel, Bool.and_eq_true, List.all_eq_true, isLabelChar_iff, Option.all_eq_true,
      decide_eq_true_eq]
    constructor
    · rintro ⟨⟨⟨hfirst, hrest⟩, hlast⟩, hshort⟩
      refine ⟨Nat.succ_pos _, hshort, List.forall_mem_cons.mpr ⟨.inl hfirst, hrest⟩, ?_, ?_⟩
      · intro c hc
        exact Option.some.inj hc ▸ hfirst
      · intro c hc
        rw [List.getLast?_cons] at hc
        cases hrestLast : rest.getLast? with
        | none => simp_all
        | some d => simp_all
    · intro h
      obtain ⟨_, hrest⟩ := List.forall_mem_cons.mp h.chars
      refine ⟨⟨⟨h.first first rfl, hrest⟩, fun c hc => h.last c ?_⟩, h.short⟩
      rw [List.getLast?_cons, hc]
      rfl

theorem Label.no_point (h : Label l) : '.' ∉ l := by
  intro hmem
  rcases h.chars '.' hmem with hc | hc <;> exact absurd hc (by decide)

/-- The labels of a name are found again between its points. -/
theorem Spells.segments_eq (h : Spells s labels) :
    segments '.' (['.'].intercalate labels) = labels := by
  rw [segments_eq_splitOn]
  exact List.splitOn_intercalate '.' (fun l hl => (h.valid l hl).no_point) h.nonempty

theorem Spells.not_point_last (h : Spells s labels) :
    (['.'].intercalate labels).getLast? ≠ some '.' := by
  intro hlast
  obtain ⟨front, hfront⟩ := List.getLast?_eq_some_iff.mp hlast
  have hempty : [] ∈ labels := by
    rw [← h.segments_eq, hfront, segments_append]
    simp [segments]
  exact absurd (h.valid [] hempty).nonempty (by decide)

theorem Spells.withoutRoot_eq (h : Spells s labels) : withoutRoot s = ['.'].intercalate labels := by
  rcases h.spelt with rfl | rfl
  · exact if_neg (by simpa using h.not_point_last)
  · rw [withoutRoot, List.getLast?_concat, if_pos (beq_self_eq_true _), List.dropLast_concat]

theorem Spells.ne_nil (h : Spells s labels) : ['.'].intercalate labels ≠ [] := by
  intro hnil
  have hlabels := h.segments_eq
  rw [hnil] at hlabels
  have hempty : [] ∈ labels := by
    rw [← hlabels]
    exact List.mem_singleton_self _
  exact absurd (h.valid [] hempty).nonempty (by decide)

theorem withoutRoot_cases (s : List Char) : s = withoutRoot s ∨ s = withoutRoot s ++ ['.'] := by
  rw [withoutRoot]
  split
  next h =>
    obtain ⟨front, rfl⟩ := List.getLast?_eq_some_iff.mp (beq_iff_eq.mp h)
    exact .inr (by rw [List.dropLast_concat])
  next => exact .inl rfl

theorem Spells.labels_eq (h : Spells s labels) : labels = segments '.' (withoutRoot s) := by
  rw [h.withoutRoot_eq, h.segments_eq]

theorem isDnsName_iff_spells (s : List Char) :
    isDnsName s = true ↔ Spells s (segments '.' (withoutRoot s)) := by
  have hjoin : ['.'].intercalate (segments '.' (withoutRoot s)) = withoutRoot s := by
    rw [segments_eq_splitOn]
    exact List.intercalate_splitOn '.'
  simp only [isDnsName, Bool.and_eq_true, decide_eq_true_eq, List.all_eq_true, isLabel_iff]
  constructor
  · rintro ⟨⟨_, hshort⟩, hvalid⟩
    refine ⟨segments_ne_nil _, hvalid, ?_, ?_⟩
    · rwa [hjoin]
    · rw [hjoin]
      exact withoutRoot_cases s
  · intro h
    have hne := h.ne_nil
    have hshort := h.short
    rw [hjoin] at hne hshort
    exact ⟨⟨by simpa using hne, hshort⟩, h.valid⟩

theorem isDnsName_iff (s : List Char) : isDnsName s = true ↔ ∃ labels, Spells s labels := by
  rw [isDnsName_iff_spells]
  refine ⟨fun h => ⟨_, h⟩, ?_⟩
  rintro ⟨labels, h⟩
  exact h.labels_eq ▸ h

/-- The limit on a name leaves no text so long that the limit on a domain would refuse it. -/
theorem Spells.length_le (h : Spells s labels) : s.length ≤ 254 := by
  have hshort := h.short
  rcases h.spelt with rfl | rfl
  · omega
  · rw [List.length_append, List.length_singleton]
    omega

theorem isDomain_iff (s : List Char) : isDomain s = true ↔
    ∃ front top, Spells s (front ++ [top]) ∧ front ≠ [] ∧ 2 ≤ top.length ∧
      ∀ c ∈ top, c.isAlpha = true := by
  rw [isDomain, Bool.and_eq_true, Bool.and_eq_true, isDnsName_iff_spells]
  constructor
  · rintro ⟨⟨_, h⟩, htop⟩
    split at htop
    next top next before hreverse =>
      have hlabels : segments '.' (withoutRoot s) = (before.reverse ++ [next]) ++ [top] := by
        rw [← List.reverse_reverse (segments '.' (withoutRoot s)), hreverse]
        simp
      rw [Bool.and_eq_true, decide_eq_true_eq, List.all_eq_true] at htop
      rw [hlabels] at h
      exact ⟨_, top, h, by simp, htop⟩
    next => cases htop
  · rintro ⟨front, top, h, hfront, htop⟩
    have hlength := h.length_le
    rw [← h.labels_eq]
    refine ⟨⟨decide_eq_true (by omega), h⟩, ?_⟩
    obtain ⟨before, next, rfl⟩ := List.eq_nil_or_concat front |>.resolve_left hfront
    simpa using htop

/-- A text without a point at its end spells the same labels as with one. -/
theorem spells_append_point_iff (hs : s.getLast? ≠ some '.') :
    Spells (s ++ ['.']) labels ↔ Spells s labels := by
  constructor
  · intro h
    refine ⟨h.nonempty, h.valid, h.short, ?_⟩
    rcases h.spelt with hspelt | hspelt
    · refine absurd ?_ h.not_point_last
      rw [← hspelt, List.getLast?_concat]
    · exact .inl (List.append_cancel_right hspelt)
  · intro h
    refine ⟨h.nonempty, h.valid, h.short, ?_⟩
    rcases h.spelt with rfl | rfl
    · exact .inr rfl
    · exact absurd List.getLast?_concat hs

section Pattern
open Pattern

/-- Labels as a pattern. -/
def labelPattern : String := "^[A-Za-z0-9](?:[A-Za-z0-9-]\x7b0,61\x7d[A-Za-z0-9])?$"

def alphanumerics : ScalarSet := ⟨[0x30, 0x3a, 0x41, 0x5b, 0x61, 0x7b]⟩

def labelChars : ScalarSet := ⟨[0x2d, 0x2e, 0x30, 0x3a, 0x41, 0x5b, 0x61, 0x7b]⟩

theorem read?_labelPattern : Pattern.read? labelPattern = some (whole [.one alphanumerics,
    .repeated (.seq (.repeated (.one labelChars) 0 (some 61)) (.one alphanumerics))
      0 (some 1)]) := by
  decide +kernel

theorem isAlphanum_iff {c : Char} : c.isAlphanum = true ↔ 0x30 ≤ c.toNat ∧ c.toNat < 0x3a ∨
    0x41 ≤ c.toNat ∧ c.toNat < 0x5b ∨ 0x61 ≤ c.toNat ∧ c.toNat < 0x7b := by
  have hdigit : c.isDigit = true ↔ 0x30 ≤ c.toNat ∧ c.toNat ≤ 0x39 := Char.isDigit_iff_toNat
  have hupper : c.isUpper = true ↔ 0x41 ≤ c.toNat ∧ c.toNat ≤ 0x5a := decide_eq_true_iff
  have hlower : c.isLower = true ↔ 0x61 ≤ c.toNat ∧ c.toNat ≤ 0x7a :=
    Bool.and_eq_true_iff.trans (and_congr decide_eq_true_iff decide_eq_true_iff)
  have halphanum : c.isAlphanum = ((c.isUpper || c.isLower) || c.isDigit) := rfl
  rw [halphanum, Bool.or_eq_true, Bool.or_eq_true, hdigit, hupper, hlower]
  omega

theorem mem_alphanumerics_iff {c : Char} :
    alphanumerics.contains c = true ↔ c.isAlphanum = true := by
  simp only [alphanumerics, ScalarSet.contains_range_iff, ScalarSet.contains_nil_iff, or_false,
    isAlphanum_iff]
  omega

theorem mem_labelChars_iff {c : Char} : labelChars.contains c = true ↔ isLabelChar c = true := by
  have hhyphen : c = '-' ↔ c.toNat = 0x2d := Char.toNat_inj.symm
  simp only [labelChars, ScalarSet.contains_range_iff, ScalarSet.contains_nil_iff, or_false,
    isLabelChar_iff, isAlphanum_iff, hhyphen]
  omega

theorem isLabel_cons_iff {c : Char} {rest : List Char} : isLabel (c :: rest) = true ↔
    c.isAlphanum = true ∧ (rest = [] ∨ ∃ middle d, middle ++ [d] = rest ∧ middle.length ≤ 61 ∧
      (∀ e ∈ middle, isLabelChar e = true) ∧ d.isAlphanum = true) := by
  simp only [isLabel, Bool.and_eq_true, and_assoc, List.all_eq_true, decide_eq_true_eq]
  refine and_congr_right fun _ => ?_
  rcases List.eq_nil_or_concat' rest with rfl | ⟨middle, d, rfl⟩
  · simp
  · rw [List.getLast?_concat, Option.all_some, List.length_cons, List.length_append,
      List.length_singleton]
    constructor
    · rintro ⟨hall, hd, hlength⟩
      refine .inr ⟨middle, d, rfl, by omega, ?_, hd⟩
      exact fun e he => hall e (List.mem_append_left _ he)
    · rintro (hnil | ⟨middle', d', heq, hlength, hmiddle, hd⟩)
      · exact absurd hnil (by simp)
      · obtain ⟨rfl, hsingle⟩ := List.append_inj' heq rfl
        obtain rfl := List.singleton_inj.mp hsingle
        refine ⟨List.forall_mem_append.mpr ⟨hmiddle, ?_⟩, hd, by omega⟩
        intro e he
        rw [List.mem_singleton.mp he, isLabelChar, hd, Bool.true_or]

/-- The pattern matches just the labels. -/
theorem labelPattern_matches_iff (s : String) : ∃ p, Pattern.read? labelPattern = some p ∧
    (p.matchesIn s = true ↔ isLabel s.toList = true) := by
  refine ⟨_, read?_labelPattern, ?_⟩
  rw [matchesIn_whole_iff (by decide)]
  simp only [List.map_cons, List.map_nil, List.prod_cons, List.prod_nil, mul_one, Language.mem_mul,
    mem_optional_iff]
  constructor
  · rintro ⟨_, ⟨c, hc, rfl⟩, rest, hrest, hs⟩
    rw [← hs]
    refine isLabel_cons_iff.mpr ⟨mem_alphanumerics_iff.mp hc, hrest.imp_right fun h => ?_⟩
    obtain ⟨middle, hmiddle, _, ⟨d, hd, rfl⟩, rfl⟩ := Language.mem_mul.mp h
    obtain ⟨_, hlength, hchars⟩ := (mem_repeated_one_iff (Nat.zero_le 61)).mp hmiddle
    exact ⟨middle, d, rfl, hlength, fun e he => mem_labelChars_iff.mp (hchars e he),
      mem_alphanumerics_iff.mp hd⟩
  · intro h
    cases hs : s.toList with
    | nil =>
      rw [hs] at h
      cases h
    | cons c rest =>
      rw [hs] at h
      obtain ⟨hc, hrest⟩ := isLabel_cons_iff.mp h
      refine ⟨[c], ⟨c, mem_alphanumerics_iff.mpr hc, rfl⟩, rest, hrest.imp_right ?_, rfl⟩
      rintro ⟨middle, d, rfl, hlength, hchars, hd⟩
      refine Language.append_mem_mul ?_ ⟨d, mem_alphanumerics_iff.mpr hd, rfl⟩
      rw [mem_repeated_one_iff (Nat.zero_le 61)]
      exact ⟨Nat.zero_le _, hlength, fun e he => mem_labelChars_iff.mpr (hchars e he)⟩

end Pattern

/-- Labels are one to 63 letters, digits and hyphens with no hyphen at either end, and the pattern
written for them says the same. Names are labels joined by points, of 253 characters together, and
domains are names of two labels or more of which the last has two letters or more and no other
characters. Domains are names, names are hosts, and a point at the end changes nothing. -/
theorem names_accepted_iff (s : String) :
    (Format.subdomain.accepts s = true ↔ Label s.toList) ∧
    (∃ p, Pattern.read? labelPattern = some p ∧ (p.matchesIn s = true ↔ Label s.toList)) ∧
    (Format.dnsName.accepts s = true ↔ ∃ labels, Spells s.toList labels) ∧
    (Format.domain.accepts s = true ↔ ∃ front top, Spells s.toList (front ++ [top]) ∧
      front ≠ [] ∧ 2 ≤ top.length ∧ ∀ c ∈ top, c.isAlpha = true) ∧
    (Format.domain.accepts s = true → Format.dnsName.accepts s = true) ∧
    (Format.dnsName.accepts s = true → Format.host.accepts s = true) ∧
    (s.toList.getLast? ≠ some '.' →
      Format.dnsName.accepts (s ++ ".") = Format.dnsName.accepts s ∧
        Format.domain.accepts (s ++ ".") = Format.domain.accepts s) := by
  have hname (t : String) : Format.dnsName.accepts t = true ↔ ∃ labels, Spells t.toList labels :=
    isDnsName_iff t.toList
  have hdomain (t : String) : Format.domain.accepts t = true ↔ ∃ front top,
      Spells t.toList (front ++ [top]) ∧ front ≠ [] ∧ 2 ≤ top.length ∧
        ∀ c ∈ top, c.isAlpha = true :=
    isDomain_iff t.toList
  refine ⟨isLabel_iff s.toList, ?_, hname s, hdomain s, ?_, ?_, ?_⟩
  · obtain ⟨p, hread, hmatches⟩ := labelPattern_matches_iff s
    exact ⟨p, hread, hmatches.trans (isLabel_iff s.toList)⟩
  · rw [hname, hdomain]
    rintro ⟨front, top, h, _⟩
    exact ⟨_, h⟩
  · intro h
    exact Bool.or_eq_true_iff.mpr (.inr h)
  · intro hs
    have hpoint : (s ++ ".").toList = s.toList ++ ['.'] := String.toList_append
    constructor
    · rw [Bool.eq_iff_iff, hname, hname, hpoint]
      simp only [spells_append_point_iff hs]
    · rw [Bool.eq_iff_iff, hdomain, hdomain, hpoint]
      simp only [spells_append_point_iff hs]

/-- A domain of three labels, one of them a hyphen between letters, with a point and without. -/
theorem names_accepted_iff_of_hyphen :
    let s := "www.a-b.Org"
    Format.domain.accepts s = true ∧ Format.dnsName.accepts s = true ∧
      Format.host.accepts s = true ∧ s.toList.getLast? ≠ some '.' ∧
      Format.dnsName.accepts "www.a-b.Org." = true ∧
      Format.domain.accepts "www.a-b.Org." = true := by
  intro s
  have hs : Format.domain.accepts s = true := by decide
  have hlast : s.toList.getLast? ≠ some '.' := by decide
  obtain ⟨_, _, _, _, hname, hhost, hpoint⟩ := names_accepted_iff s
  obtain ⟨hnamePoint, hdomainPoint⟩ := hpoint hlast
  exact ⟨hs, hname hs, hhost (hname hs), hlast, hnamePoint.trans (hname hs), hdomainPoint.trans hs⟩

end HostName
end Verdict
