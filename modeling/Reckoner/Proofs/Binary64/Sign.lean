import Reckoner.Proofs.Binary64.Rounding

/-!
The signs of doubles.

A double is stored as the bits of its sign, its exponent and its mantissa. What is stored is read
back as it was, except that it becomes infinite if its exponent is too large, and the sign is kept
in any case. Comparing a double with zero asks for its sign only.

* `unpack_pack`: what is read back;
* `sign`, `lt_zero_iff`, `le_zero_iff`, `beq_zero_iff`: comparisons with zero;
* `sign_opposite`, `sign_ofModel_pack`: signs of results.
-/

namespace Reckoner.Binary64

open Float.Model Float.Model.UnpackedFloat

/-! ### Stored doubles -/

lemma toNat_implicit_append (mantissa : BitVec 52) :
    (1#1 ++ mantissa).toNat = 2 ^ 52 + mantissa.toNat := by
  rw [BitVec.toNat_append, Nat.shiftLeft_eq, Nat.or_comm]
  exact (Nat.or_two_pow_eq_add_of_lt mantissa.isLt).trans (add_comm _ _)

/-- What is read of bits: an exponent that is neither the least nor the largest one stands for a
mantissa of 53 digits. -/
lemma unpack_normal (s : Sign) {exponent : BitVec 11} (mantissa : BitVec 52)
    (hlow : exponent ≠ 0#11) (hhigh : exponent ≠ -1#11) :
    unpack .binary64 (packComponents .binary64 s exponent mantissa)
      = .finite s (2 ^ 52 + mantissa.toNat) (exponent.toNat - 1075)
          (Nat.add_pos_left (Nat.two_pow_pos 52) _) := by
  simp only [UnpackedFloat.unpack, unpackMantissa_packComponents, unpackExponent_packComponents]
  rw [if_neg hhigh, if_neg hlow, unpackSign_packComponents, Sign.ofBitVec_toBitVec]
  simp only [toNat_implicit_append]
  rfl

/-- What is read of bits: the least exponent stands for a shorter mantissa. -/
lemma unpack_subnormal (s : Sign) {mantissa : BitVec 52} (hpos : 0 < mantissa.toNat) :
    unpack .binary64 (packComponents .binary64 s 0#11 mantissa)
      = .finite s mantissa.toNat (-1074) hpos := by
  have hmantissa : mantissa ≠ 0#52 := by
    rintro rfl
    exact absurd hpos (by decide)
  simp only [UnpackedFloat.unpack, unpackMantissa_packComponents, unpackExponent_packComponents]
  rw [if_neg (by decide), if_pos trivial, dif_neg hmantissa, unpackSign_packComponents,
    Sign.ofBitVec_toBitVec]
  rfl

/-- What is read back of an infinite double. -/
lemma unpack_packedInfinity (s : Sign) :
    unpack .binary64 (packedInfinity .binary64 s) = .infinity s := by
  cases s <;> rfl

variable {m : ℕ} {e : ℤ}

lemma biased_eq (e : ℤ) :
    (e + Format.binary64.exponentBias + (52 : ℕ)).toNat = (e + 1075).toNat := by
  have hbias : (Format.binary64.exponentBias : ℤ) = 1023 := rfl
  omega

/-- A double whose exponent is too large becomes infinite. -/
lemma unpack_pack_large (s : Sign) (hm : 0 < m) (he : 2 ^ 11 ≤ (e + 1075).toNat + 1) :
    unpack .binary64 (UnpackedFloat.pack .binary64 (.finite s m e hm)) = .infinity s := by
  simp only [UnpackedFloat.pack, biased_eq]
  rw [if_pos he, unpack_packedInfinity]

/-- A double of 53 digits is read back. -/
lemma unpack_pack_normal (s : Sign) (hm : 0 < m) (hlow : 2 ^ 52 ≤ m) (hhigh : m < 2 ^ 53)
    (he : -1074 ≤ e) (hsmall : (e + 1075).toNat + 1 < 2 ^ 11) :
    unpack .binary64 (UnpackedFloat.pack .binary64 (.finite s m e hm)) = .finite s m e hm := by
  have hlog : m.log2 + 1 = Format.binary64.mantissaBits := by
    rw [(Nat.log2_eq_iff hm.ne').mpr ⟨hlow, hhigh⟩]
    rfl
  have hexponent : (BitVec.ofNat 11 (e + 1075).toNat).toNat = (e + 1075).toNat :=
    Nat.mod_eq_of_lt (by omega)
  have hmantissa : (BitVec.ofNat 52 m).toNat = m - 2 ^ 52 := by
    rw [BitVec.toNat_ofNat]
    omega
  have hleast : BitVec.ofNat 11 (e + 1075).toNat ≠ 0#11 := by
    intro hzero
    rw [hzero] at hexponent
    have : (0#11).toNat = 0 := rfl
    omega
  have hlargest : BitVec.ofNat 11 (e + 1075).toNat ≠ -1#11 := by
    intro hones
    rw [hones] at hexponent
    have : (-1#11).toNat = 2047 := rfl
    omega
  simp only [UnpackedFloat.pack, biased_eq]
  rw [if_neg hsmall.not_ge, if_pos hlog]
  refine (unpack_normal s _ hleast hlargest).trans ?_
  rw [UnpackedFloat.finite.injEq, hmantissa, hexponent]
  exact ⟨rfl, by omega, by omega⟩

/-- A shorter double is read back. -/
lemma unpack_pack_subnormal (s : Sign) (hm : 0 < m) (hlt : m < 2 ^ 52) :
    unpack .binary64 (UnpackedFloat.pack .binary64 (.finite s m (-1074) hm))
      = .finite s m (-1074) hm := by
  have hlog : m.log2 < 52 := (Nat.log2_lt hm.ne').mpr hlt
  have hbits : m.log2 + 1 ≠ Format.binary64.mantissaBits := by
    show m.log2 + 1 ≠ 53
    omega
  have hmantissa : (BitVec.ofNat 52 m).toNat = m := Nat.mod_eq_of_lt hlt
  simp only [UnpackedFloat.pack, biased_eq]
  rw [if_neg (by norm_num), if_neg hbits]
  refine (unpack_subnormal s (by rwa [hmantissa])).trans ?_
  rw [UnpackedFloat.finite.injEq]
  exact ⟨rfl, hmantissa, rfl⟩

/-- **What is read back** of a double: the same, or an infinite one of the same sign. -/
lemma unpack_pack (s : Sign) (hm : 0 < m) (h : Canonical m e) :
    unpack .binary64 (UnpackedFloat.pack .binary64 (.finite s m e hm)) = .finite s m e hm
      ∨ unpack .binary64 (UnpackedFloat.pack .binary64 (.finite s m e hm)) = .infinity s := by
  obtain hlarge | hsmall := le_or_gt (2 ^ 11) ((e + 1075).toNat + 1)
  · exact .inr (unpack_pack_large s hm hlarge)
  obtain hlow | hlt := le_or_gt (2 ^ 52) m
  · exact .inl (unpack_pack_normal s hm hlow h.lt h.exponent_ge hsmall)
  · obtain rfl : e = -1074 := h.normal.resolve_left hlt.not_ge
    exact .inl (unpack_pack_subnormal s hm hlt)

/-! ### Comparisons with zero -/

/-- A double as its sign, mantissa and exponent. -/
def unpacked (x : Float) : UnpackedFloat := x.toModel.unpack

/-- The sign of a double, and zero for what is no number. -/
def signOf : UnpackedFloat → SignType
  | .infinity .positive | .finite .positive _ _ _ => 1
  | .infinity .negative | .finite .negative _ _ _ => -1
  | .zero _ | .notANumber => 0

/-- The sign of a double. -/
def sign (x : Float) : SignType := signOf (unpacked x)

lemma unpacked_zero : unpacked 0.0 = .zero .positive := rfl

lemma compare_zero {u : UnpackedFloat} (hu : u.isNaN = false) :
    u.compare (.zero .positive)
      = some (if signOf u = -1 then .lt else if signOf u = 1 then .gt else .eq) := by
  cases u with
  | notANumber => cases hu
  | infinity s | zero s | finite s m e hm => cases s <;> rfl

section Comparisons

variable {x : Float}

lemma isNaN_of_isFinite (h : x.isFinite = true) : (unpacked x).isNaN = false := by
  have hfinite : (unpacked x).isFinite = true := h
  cases hu : unpacked x with
  | notANumber | infinity s => rw [hu] at hfinite; cases hfinite
  | zero s | finite s m e hm => rfl

lemma lt_zero_iff (h : x.isFinite = true) : x < 0.0 ↔ sign x = -1 := by
  show (decide ((unpacked x).compare (unpacked 0.0) == some .lt) = true) ↔ _
  rw [unpacked_zero, compare_zero (isNaN_of_isFinite h), sign]
  cases signOf (unpacked x) <;> decide

lemma le_zero_iff (h : x.isFinite = true) : x <= 0.0 ↔ sign x ≠ 1 := by
  show (decide (((unpacked x).compare (unpacked 0.0)).any (·.isLE) = true) = true) ↔ _
  rw [unpacked_zero, compare_zero (isNaN_of_isFinite h), sign]
  cases signOf (unpacked x) <;> decide

lemma beq_zero_iff (h : x.isFinite = true) : (x == 0.0) = true ↔ sign x = 0 := by
  show ((unpacked x).compare (unpacked 0.0) == some .eq) = true ↔ _
  rw [unpacked_zero, compare_zero (isNaN_of_isFinite h), sign]
  cases signOf (unpacked x) <;> decide

end Comparisons

/-! ### Signs of results -/

/-- A result that is a double is this double, or infinite with the same sign. -/
lemma unpacked_ofModel_pack (s : Sign) (hm : 0 < m) (h : Canonical m e) :
    unpacked (.ofModel (.pack (.finite s m e hm))) = .finite s m e hm
      ∨ unpacked (.ofModel (.pack (.finite s m e hm))) = .infinity s :=
  unpack_pack s hm h

lemma unpacked_ofModel_pack_infinity (s : Sign) :
    unpacked (.ofModel (.pack (.infinity s))) = .infinity s :=
  unpack_packedInfinity s

lemma sign_ofModel_pack (s : Sign) (hm : 0 < m) (h : Canonical m e) :
    sign (.ofModel (.pack (.finite s m e hm))) = signOf (.finite s m e hm) := by
  rw [sign]
  obtain hfinite | hinfinite := unpacked_ofModel_pack s hm h
  · rw [hfinite]
  · rw [hinfinite]
    cases s <;> rfl

/-- Whatever is stored is the mantissa and the exponent of a double. -/
lemma canonical_unpacked {x : Float} {s : Sign} (hm : 0 < m)
    (h : unpacked x = .finite s m e hm) : Canonical m e := by
  set exponent := @unpackExponent .binary64 x.toModel.toBits.toBitVec with hexponent
  set mantissa := @unpackMantissa .binary64 x.toModel.toBits.toBitVec with hmantissa
  have hlt : mantissa.toNat < 2 ^ 52 := mantissa.isLt
  have hbias : (Format.binary64.exponentBias : ℤ) = 1023 := rfl
  rw [unpacked, Float.Model.unpack, UnpackedFloat.unpack] at h
  simp only [← hexponent, ← hmantissa] at h
  split at h
  · split at h <;> cases h
  · split at h
    · split at h
      · cases h
      · next hleast _ =>
        have hvalue : (exponent.toNat : ℤ) = 0 := by rw [hleast]; rfl
        cases h
        exact ⟨by omega, by omega, .inr (by omega)⟩
    · next hleast =>
      have hpos : 0 < exponent.toNat :=
        Nat.pos_of_ne_zero fun hzero => hleast (BitVec.toNat_inj.mp hzero)
      have hvalue := toNat_implicit_append mantissa
      cases h
      exact ⟨by omega, by omega, .inl (by omega)⟩

lemma sign_opposite (x : Float) : sign (-x) = -sign x := by
  have hneg : unpacked (-x) = unpacked (.ofModel (.pack (unpacked x).neg)) := rfl
  rw [sign, hneg, sign]
  rcases hx : unpacked x with s | _ | s | ⟨s, m, e, hm⟩
  · cases s <;> rfl
  · rfl
  · cases s <;> rfl
  · exact (sign_ofModel_pack (-s) hm (canonical_unpacked hm hx)).trans (by cases s <;> rfl)

end Reckoner.Binary64
