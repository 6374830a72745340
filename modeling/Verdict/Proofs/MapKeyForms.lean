import Verdict.Values.MapKey

/-! Map keys: their order is a linear one, integers of one value take each other's place, and
the text of a key is the same in every form of it. -/
namespace Verdict
namespace MapKey

instance : Std.TransOrd MapKey where
  eq_swap {k l} := by
    cases k <;> cases l <;> try rfl
    · exact Std.OrientedOrd.eq_swap (α := Bool)
    · exact Std.OrientedOrd.eq_swap (α := Int)
    · exact Std.OrientedOrd.eq_swap (α := Nat)
    · exact Std.OrientedOrd.eq_swap (α := String)
  isLE_trans {k l m} h h' := by
    cases k <;> cases l <;> cases m <;> try first | rfl | contradiction
    · exact Std.TransOrd.isLE_trans (α := Bool) h h'
    · exact Std.TransOrd.isLE_trans (α := Int) h h'
    · exact Std.TransOrd.isLE_trans (α := Nat) h h'
    · exact Std.TransOrd.isLE_trans (α := String) h h'

instance : Std.LawfulEqOrd MapKey where
  eq_of_compare {k l} h := by
    cases k <;> cases l <;> try contradiction
    · exact congrArg bool (Std.LawfulEqOrd.eq_of_compare h)
    · exact congrArg int (Int64.toInt_inj.mp (Std.LawfulEqOrd.eq_of_compare h))
    · exact congrArg uint (UInt64.toNat_inj.mp (Std.LawfulEqOrd.eq_of_compare h))
    · exact congrArg text (Std.LawfulEqOrd.eq_of_compare h)

variable {n : UInt64} {m : Int64} {kind : KeyKind} {k k' : MapKey}

theorem signed?_eq_some_iff : signed? n = some m ↔ m.toInt = n.toNat := by
  have hm := m.toInt_lt
  constructor
  · intro h
    obtain ⟨hn, rfl⟩ : n.toNat < 0x8000000000000000 ∧ Int64.ofInt n.toNat = m := by
      simpa [signed?] using h
    exact Int64.toInt_ofInt_of_le (by omega) (by omega)
  · intro h
    rw [signed?, if_pos (by omega), ← h, Int64.ofInt_toInt]

theorem unsigned?_eq_some_iff : unsigned? m = some n ↔ m.toInt = n.toNat := by
  have hm := m.toInt_lt
  constructor
  · intro h
    obtain ⟨hn, rfl⟩ : 0 ≤ m.toInt ∧ UInt64.ofNat m.toInt.toNat = n := by
      simpa [unsigned?] using h
    rw [UInt64.toNat_ofNat_of_lt' (by change _ < 2 ^ 64; omega)]
    omega
  · intro h
    rw [unsigned?, if_pos (by omega), h, Int.toNat_natCast, UInt64.ofNat_toNat]

/-- Another form of a key is an integer of the same value. -/
theorem coerce?_cases (h : k.coerce? kind = some k') : k' = k ∨
    ∃ (m : Int64) (n : UInt64), m.toInt = n.toNat ∧
      (k = .uint n ∧ k' = .int m ∨ k = .int m ∧ k' = .uint n) := by
  cases k with
  | bool _ | text _ => cases kind <;> cases h <;> exact .inl rfl
  | int m =>
    cases kind with
    | any | int =>
      cases h
      exact .inl rfl
    | uint =>
      obtain ⟨n, hn, rfl⟩ := Option.map_eq_some_iff.mp h
      exact .inr ⟨m, n, unsigned?_eq_some_iff.mp hn, .inr ⟨rfl, rfl⟩⟩
    | bool | text => cases h
  | uint n =>
    cases kind with
    | any =>
      cases hs : signed? n with
      | none =>
        rw [coerce?, hs] at h
        cases h
        exact .inl rfl
      | some m =>
        rw [coerce?, hs] at h
        cases h
        exact .inr ⟨m, n, signed?_eq_some_iff.mp hs, .inl ⟨rfl, rfl⟩⟩
    | int =>
      obtain ⟨m, hm, rfl⟩ := Option.map_eq_some_iff.mp h
      exact .inr ⟨m, n, signed?_eq_some_iff.mp hm, .inl ⟨rfl, rfl⟩⟩
    | uint =>
      cases h
      exact .inl rfl
    | bool | text => cases h

theorem render_int_eq_uint (h : m.toInt = n.toNat) : (int m).render = (uint n).render := by
  rw [render, render, h]
  rfl

/-- A key reads the same in every form of it. -/
theorem render_of_coerce? (h : k.coerce? kind = some k') : k'.render = k.render := by
  rcases coerce?_cases h with rfl | ⟨m, n, hv, ⟨rfl, rfl⟩ | ⟨rfl, rfl⟩⟩
  · rfl
  · exact render_int_eq_uint hv
  · exact (render_int_eq_uint hv).symm

end MapKey
end Verdict
