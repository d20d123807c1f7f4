import FieldRules.Binary64.Basic
import Mathlib.Algebra.Order.Ring.Int
import Mathlib.Tactic.SplitIfs

/-!
# Integers and their nearest binary64 numbers

`Binary64.ofInt` takes an integer to the nearest binary64 number, halves to the even one. It keeps
the order of integers but not their differences: it is injective below `2 ^ 53` only, and integers
that it identifies are as good as equal to every bound. An integer from `2 ^ 1024 - 2 ^ 970` up has
no finite number nearest to it.
-/

namespace FieldRules.Binary64

theorem one_eq : one = 2 ^ 1074 := by decide +kernel

theorem one_pos : 0 < one := by decide +kernel

theorem gap_pos (u : Nat) : 0 < gap u := Nat.two_pow_pos _

theorem gap_dvd_two_pow {u k : Nat} (h : u < 2 ^ (k + 53)) : gap u ∣ 2 ^ k := by
  refine Nat.pow_dvd_pow 2 ?_
  by_cases hu : u = 0
  · subst hu
    exact Nat.zero_le k
  · have hlog : u.log2 < k + 53 := (Nat.log2_lt hu).2 h
    omega

theorem gap_dvd_two_pow_log2 (u : Nat) : gap u ∣ 2 ^ u.log2 :=
  Nat.pow_dvd_pow 2 (Nat.sub_le _ _)

theorem roundDiv_mul {d : Nat} (hd : 0 < d) (k : Nat) : roundDiv (k * d) d = k := by
  simp [roundDiv, hd]

theorem roundDiv_mono {a b : Nat} (d : Nat) (h : a ≤ b) : roundDiv a d ≤ roundDiv b d := by
  have hquotient : a / d ≤ b / d := Nat.div_le_div_right h
  have ha := Nat.div_add_mod a d
  have hb := Nat.div_add_mod b d
  unfold roundDiv
  dsimp only
  rcases Nat.lt_or_eq_of_le hquotient with hlt | heq
  · split_ifs <;> omega
  · rw [heq] at ha ⊢
    have hrest : a % d ≤ b % d := by omega
    split_ifs <;> omega

theorem nearest_one (u : Nat) : nearest u 1 = roundDiv u (gap u) * gap u := by
  rw [nearest, Nat.div_one, Nat.one_mul]

theorem nearest_le {u m : Nat} (hm : gap u ∣ m) (h : u ≤ m) : nearest u 1 ≤ m := by
  obtain ⟨k, rfl⟩ := hm
  rw [nearest_one, Nat.mul_comm (gap u) k]
  refine Nat.mul_le_mul_right _ ?_
  rw [Nat.mul_comm] at h
  exact (roundDiv_mono _ h).trans_eq (roundDiv_mul (gap_pos u) k)

theorem le_nearest {u m : Nat} (hm : gap u ∣ m) (h : m ≤ u) : m ≤ nearest u 1 := by
  obtain ⟨k, rfl⟩ := hm
  rw [nearest_one, Nat.mul_comm (gap u) k]
  refine Nat.mul_le_mul_right _ ?_
  rw [Nat.mul_comm] at h
  exact (roundDiv_mul (gap_pos u) k).symm.trans_le (roundDiv_mono _ h)

theorem nearest_of_dvd {u : Nat} (h : gap u ∣ u) : nearest u 1 = u :=
  Nat.le_antisymm (nearest_le h (Nat.le_refl u)) (le_nearest h (Nat.le_refl u))

/-- Two numbers of one binade are rounded on one grid; otherwise the power of two between them is on
both grids. -/
theorem nearest_mono {u v : Nat} (h : u ≤ v) : nearest u 1 ≤ nearest v 1 := by
  by_cases hgap : gap u = gap v
  · rw [nearest_one, nearest_one, hgap]
    exact Nat.mul_le_mul_right _ (roundDiv_mono _ h)
  · have hv : v ≠ 0 := by
      rintro rfl
      rw [Nat.le_zero.1 h] at hgap
      exact hgap rfl
    have hlt : u < 2 ^ v.log2 := by
      by_contra hle
      have hu : u ≠ 0 := by
        have := Nat.two_pow_pos v.log2
        omega
      have hlow : v.log2 ≤ u.log2 := (Nat.le_log2 hu).2 (Nat.le_of_not_lt hle)
      have hhigh : u.log2 ≤ v.log2 := (Nat.le_log2 hv).2 ((Nat.log2_self_le hu).trans h)
      exact hgap (by rw [gap, gap, Nat.le_antisymm hhigh hlow])
    have hdvd : gap u ∣ 2 ^ v.log2 :=
      gap_dvd_two_pow (hlt.trans_le (Nat.pow_le_pow_right (by decide) (Nat.le_add_right _ _)))
    exact (nearest_le hdvd hlt.le).trans
      (le_nearest (gap_dvd_two_pow_log2 _) (Nat.log2_self_le hv))

theorem nearest_pos {u : Nat} (h : 0 < u) : 0 < nearest u 1 :=
  (Nat.two_pow_pos u.log2).trans_le
    (le_nearest (gap_dvd_two_pow_log2 _) (Nat.log2_self_le h.ne'))

/-- A number of at most 53 digits is not rounded. -/
theorem nearest_mul_one {n : Nat} (h : n < 2 ^ 53) : nearest (n * one) 1 = n * one := by
  have hlt : n * one < 2 ^ (1074 + 53) :=
    calc n * one < 2 ^ 53 * one := (Nat.mul_lt_mul_right one_pos).2 h
      _ = 2 ^ (1074 + 53) := by rw [one_eq, Nat.pow_add, Nat.mul_comm]
  have hdvd : gap (n * one) ∣ one := by
    rw [one_eq] at hlt ⊢
    exact gap_dvd_two_pow hlt
  exact nearest_of_dvd (hdvd.mul_left n)

/-- The least integer that is rounded up beyond the finite numbers. -/
def overflow : Nat := 2 ^ 1024 - 2 ^ 970

theorem nearest_mul_one_lt_iff {n : Nat} :
    nearest (n * one) 1 < Nat.pow 2 2098 ↔ n < overflow := by
  constructor
  · intro h
    by_contra hn
    have hle := nearest_mono (Nat.mul_le_mul_right one (Nat.le_of_not_lt hn))
    have hmax : Nat.pow 2 2098 ≤ nearest (overflow * one) 1 := by decide +kernel
    omega
  · intro h
    have hle := nearest_mono (Nat.mul_le_mul_right one (Nat.le_sub_one_of_lt h))
    have hmax : nearest ((overflow - 1) * one) 1 < Nat.pow 2 2098 := by decide +kernel
    exact hle.trans_lt hmax

theorem toInt_ofInt_of_nonneg {i : Int} (h : 0 ≤ i) :
    (ofInt i).toInt = nearest (i.natAbs * one) 1 := by
  rw [ofInt, toInt, decide_eq_false (Int.not_lt.2 h), if_neg Bool.false_ne_true]

theorem toInt_ofInt_of_neg {i : Int} (h : i < 0) :
    (ofInt i).toInt = -nearest (i.natAbs * one) 1 := by
  rw [ofInt, toInt, decide_eq_true h, if_pos rfl]

theorem toInt_ofInt_natCast (n : Nat) : (ofInt n).toInt = nearest (n * one) 1 :=
  toInt_ofInt_of_nonneg (Int.natCast_nonneg n)

theorem toInt_ofInt_neg_natCast (n : Nat) : (ofInt (-n)).toInt = -nearest (n * one) 1 := by
  rcases Nat.eq_zero_or_pos n with rfl | hn
  · decide +kernel
  · rw [toInt_ofInt_of_neg (by omega), Int.natAbs_neg, Int.natAbs_natCast]

theorem ofInt_mono {i j : Int} (h : i ≤ j) : ofInt i ≤ ofInt j := by
  rw [le_def]
  rcases lt_or_ge i 0 with hi | hi
  · rw [toInt_ofInt_of_neg hi]
    rcases lt_or_ge j 0 with hj | hj
    · have hle : nearest (j.natAbs * one) 1 ≤ nearest (i.natAbs * one) 1 :=
        nearest_mono (Nat.mul_le_mul_right one (by omega))
      rw [toInt_ofInt_of_neg hj]
      omega
    · rw [toInt_ofInt_of_nonneg hj]
      omega
  · have hle : nearest (i.natAbs * one) 1 ≤ nearest (j.natAbs * one) 1 :=
      nearest_mono (Nat.mul_le_mul_right one (by omega))
    rw [toInt_ofInt_of_nonneg hi, toInt_ofInt_of_nonneg (hi.trans h)]
    omega

theorem ofInt_eq_of_toInt_eq {i j : Int} (h : (ofInt i).toInt = (ofInt j).toInt) :
    ofInt i = ofInt j := by
  rcases lt_or_ge i 0 with hi | hi <;> rcases lt_or_ge j 0 with hj | hj
  · rw [toInt_ofInt_of_neg hi, toInt_ofInt_of_neg hj] at h
    rw [ofInt, ofInt, decide_eq_true hi, decide_eq_true hj, Int.ofNat_inj.1 (Int.neg_inj.1 h)]
  · have hpos : 0 < nearest (i.natAbs * one) 1 := nearest_pos (Nat.mul_pos (by omega) one_pos)
    rw [toInt_ofInt_of_neg hi, toInt_ofInt_of_nonneg hj] at h
    omega
  · have hpos : 0 < nearest (j.natAbs * one) 1 := nearest_pos (Nat.mul_pos (by omega) one_pos)
    rw [toInt_ofInt_of_nonneg hi, toInt_ofInt_of_neg hj] at h
    omega
  · rw [toInt_ofInt_of_nonneg hi, toInt_ofInt_of_nonneg hj] at h
    rw [ofInt, ofInt, decide_eq_false (Int.not_lt.2 hi), decide_eq_false (Int.not_lt.2 hj),
      Int.ofNat_inj.1 h]

/-- Bounds see the order of integers, up to rounding. -/
theorem ofInt_le_ofInt_iff {i j : Int} : ofInt i ≤ ofInt j ↔ i ≤ j ∨ ofInt i = ofInt j := by
  constructor
  · intro h
    by_cases hij : i ≤ j
    · exact .inl hij
    · exact .inr (ofInt_eq_of_toInt_eq (Int.le_antisymm h (ofInt_mono (by omega))))
  · rintro (h | h)
    · exact ofInt_mono h
    · rw [h]
      exact Binary64.le_refl _

/-- Rounding brings no other integer to one below `2 ^ 53`. -/
theorem eq_of_ofInt_eq {i j : Int} (hi : i.natAbs < 2 ^ 53) (h : ofInt i = ofInt j) : i = j := by
  have hunits : nearest (i.natAbs * one) 1 = nearest (j.natAbs * one) 1 := congrArg units h
  have hsign : decide (i < 0) = decide (j < 0) := congrArg negative h
  rw [nearest_mul_one hi] at hunits
  have hj : j.natAbs < 2 ^ 53 := by
    by_contra hle
    have hmono := nearest_mono (Nat.mul_le_mul_right one (Nat.le_of_not_lt hle))
    have hexact : nearest (2 ^ 53 * one) 1 = 2 ^ 53 * one := by decide +kernel
    rw [hexact, ← hunits] at hmono
    exact absurd hi (Nat.not_lt.2 (Nat.le_of_mul_le_mul_right hmono one_pos))
  rw [nearest_mul_one hj] at hunits
  have habs : i.natAbs = j.natAbs := Nat.eq_of_mul_eq_mul_right one_pos hunits
  have hiff : i < 0 ↔ j < 0 := by simpa using hsign
  omega

end FieldRules.Binary64
