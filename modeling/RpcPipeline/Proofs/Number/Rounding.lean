import Mathlib

/-!
# `RpcPipeline.Proofs.Number.Rounding`: rounding to doubles

The result of an operation on doubles is a mantissa and an exponent of any size, which is then
brought to the 53 bits of a double. It is the nearest double, but the rules of a pipeline only
need that no double lies between a number and its rounding.

* `Canonical`: mantissas and exponents of doubles, compared by `Canonical.worth_le_iff`.
* `Rounds`: a number and its rounding, with `roundWithAccuracy_rounds`.
* `unpack_pack_finite`, `unpack_pack_overflow`: what packing keeps.
* `canonical_of_unpack`: what is unpacked is canonical.
-/

set_option autoImplicit false

namespace RpcPipeline

namespace Double

open Float.Model Float.Model.UnpackedFloat

/-! ### Mantissas and exponents -/

/-- The number that a mantissa and an exponent stand for. -/
def worth (m : ℕ) (e : ℤ) : ℚ := m * 2 ^ e

/-- A mantissa and an exponent as doubles have them. The mantissa has 53 bits, unless the exponent
is the least one. -/
structure Canonical (m : ℕ) (e : ℤ) : Prop where
  lt : m < 2 ^ 53
  least : -1074 ≤ e
  full : 2 ^ 52 ≤ m ∨ e = -1074

variable {m m' : ℕ} {e e' : ℤ}

theorem worth_nonneg (m : ℕ) (e : ℤ) : 0 ≤ worth m e :=
  mul_nonneg (Nat.cast_nonneg m) (zpow_nonneg (by norm_num) e)

theorem worth_pos (hm : 0 < m) (e : ℤ) : 0 < worth m e :=
  mul_pos (Nat.cast_pos.mpr hm) (zpow_pos (by norm_num) e)

/-- Bits that are added at the end of a mantissa lower the exponent. -/
theorem worth_shiftLeft (m n : ℕ) (e : ℤ) : worth (m <<< n) (e - n) = worth m e := by
  rw [worth, worth, Nat.shiftLeft_eq, Nat.cast_mul, Nat.cast_pow, Nat.cast_ofNat,
    zpow_sub₀ two_ne_zero, zpow_natCast, mul_assoc, mul_div_cancel₀]
  exact pow_ne_zero n two_ne_zero

/-- With a larger exponent and all of its bits, a number is larger. -/
theorem worth_lt_worth (hm : m < 2 ^ 53) (he : e < e') (hm' : 2 ^ 52 ≤ m') :
    worth m e < worth m' e' := by
  have hcast : (m : ℚ) < 2 ^ 53 := by exact_mod_cast hm
  have hcast' : (2 : ℚ) ^ 52 ≤ m' := by exact_mod_cast hm'
  calc worth m e < 2 ^ 53 * 2 ^ e := mul_lt_mul_of_pos_right hcast (zpow_pos (by norm_num) e)
    _ = 2 ^ 52 * 2 ^ (e + 1) := by rw [zpow_add_one₀ two_ne_zero]; ring
    _ ≤ m' * 2 ^ e' :=
      mul_le_mul hcast' (zpow_le_zpow_right₀ one_le_two he) (zpow_nonneg (by norm_num) _)
        (Nat.cast_nonneg m')

/-- Among doubles, exponents are compared first. -/
theorem Canonical.worth_le_iff (h : Canonical m e) (h' : Canonical m' e') :
    worth m e ≤ worth m' e' ↔ e < e' ∨ e = e' ∧ m ≤ m' := by
  have hfull : ∀ {m₁ m₂ : ℕ} {e₁ e₂ : ℤ}, Canonical m₁ e₁ → Canonical m₂ e₂ → e₁ < e₂ →
      worth m₁ e₁ < worth m₂ e₂ := by
    intro m₁ m₂ e₁ e₂ h₁ h₂ he
    -- An exponent above another one is not the least one.
    refine worth_lt_worth h₁.lt he (h₂.full.resolve_right fun heq => ?_)
    have hleast := h₁.least
    omega
  rcases lt_trichotomy e e' with hlt | rfl | hgt
  · exact iff_of_true (hfull h h' hlt).le (.inl hlt)
  · rw [worth, worth, mul_le_mul_iff_of_pos_right (zpow_pos (by norm_num) e), Nat.cast_le]
    simp
  · refine iff_of_false (not_le.mpr (hfull h' h hgt)) ?_
    omega

theorem Canonical.worth_lt_iff (h : Canonical m e) (h' : Canonical m' e') :
    worth m e < worth m' e' ↔ e < e' ∨ e = e' ∧ m < m' := by
  rw [← not_le, h'.worth_le_iff h]
  omega

theorem worth_le_worth (m m' : ℕ) (e : ℤ) : worth m e ≤ worth m' e ↔ m ≤ m' := by
  rw [worth, worth, mul_le_mul_iff_of_pos_right (zpow_pos (by norm_num) e), Nat.cast_le]

/-! ### Rounding -/

/-- Shifting a mantissa divides it. If nothing is lost, both bits that remember this are off. -/
theorem shifted (m n : ℕ) :
    (ExtendedMantissa.ofMantissaAndAccuracy m .exact >>> n).mantissa = m / 2 ^ n ∧
      (2 ^ n ∣ m → (ExtendedMantissa.ofMantissaAndAccuracy m .exact >>> n).roundBit = false ∧
        (ExtendedMantissa.ofMantissaAndAccuracy m .exact >>> n).stickyBit = false) := by
  induction n with
  | zero => simp [HShiftRight.hShiftRight, Nat.repeat, ExtendedMantissa.ofMantissaAndAccuracy]
  | succ n ih =>
    obtain ⟨hmantissa, hbits⟩ := ih
    generalize hem : ExtendedMantissa.ofMantissaAndAccuracy m .exact >>> n = em at hmantissa hbits
    have hnext : ExtendedMantissa.ofMantissaAndAccuracy m .exact >>> (n + 1) =
        em.shiftRightOne := by
      rw [← hem]
      rfl
    rw [hnext]
    -- One more shift loses the last bit, which is off as long as the power divides the mantissa.
    refine ⟨?_, fun hdvd => ?_⟩
    · rw [ExtendedMantissa.shiftRightOne, hmantissa, Nat.div_div_eq_div_mul, pow_succ]
    · obtain ⟨hround, hsticky⟩ := hbits ((pow_dvd_pow 2 n.le_succ).trans hdvd)
      obtain ⟨k, rfl⟩ := hdvd
      have heven : em.mantissa % 2 = 0 := by
        rw [hmantissa, pow_succ, mul_assoc, Nat.mul_div_cancel_left _ (Nat.two_pow_pos n),
          Nat.mul_mod_right]
      simp [ExtendedMantissa.shiftRightOne, heven, hround, hsticky]

/-- Rounding adds one at most, and nothing if nothing was lost. -/
theorem roundedMantissa_bounds (em : ExtendedMantissa) :
    em.mantissa ≤ em.roundedMantissa ∧ em.roundedMantissa ≤ em.mantissa + 1 ∧
      (em.roundBit = false ∧ em.stickyBit = false → em.roundedMantissa = em.mantissa) := by
  obtain ⟨m, roundBit, stickyBit⟩ := em
  cases roundBit <;> cases stickyBit <;>
    simp [ExtendedMantissa.roundedMantissa, ExtendedMantissa.accuracy,
      Accuracy.roundToNearestEven]
  omega

/-- The exponent that a number gets. -/
theorem targetExponent_eq (m : ℕ) (e : ℤ) :
    Format.binary64.targetExponent (totalExponent m e) = max ((m.log2 : ℤ) + e - 52) (-1074) := by
  simp only [Format.targetExponent, totalExponent, Format.minExponent, Format.mantissaBits]
  norm_num
  omega

/-- A number and its rounding: no double lies between them. -/
structure Rounds (m : ℕ) (e : ℤ) (m' : ℕ) (e' : ℤ) : Prop where
  canonical : Canonical m' e'
  le : ∀ {k : ℕ} {i : ℤ}, Canonical k i → worth m e ≤ worth k i → worth m' e' ≤ worth k i
  ge : ∀ {k : ℕ} {i : ℤ}, Canonical k i → worth k i ≤ worth m e → worth k i ≤ worth m' e'

/-- The bits that are left of a mantissa after it was shifted to the exponent that it gets. -/
theorem quotient_bounds (hm : 0 < m) {s : ℕ} {t : ℤ} (ht : t = max ((m.log2 : ℤ) + e - 52) (-1074))
    (hs : e + s = t) : m / 2 ^ s < 2 ^ 53 ∧ (2 ^ 52 ≤ m / 2 ^ s ∨ t = -1074) := by
  have hlow : 2 ^ m.log2 ≤ m := Nat.log2_self_le hm.ne'
  have hhigh : m < 2 ^ (m.log2 + 1) := Nat.lt_log2_self
  constructor
  · refine Nat.div_lt_of_lt_mul (hhigh.trans_le ?_)
    rw [← pow_add]
    exact Nat.pow_le_pow_right two_pos (by omega)
  · by_cases hleast : t = -1074
    · exact .inr hleast
    · refine .inl ((Nat.le_div_iff_mul_le (Nat.two_pow_pos s)).mpr (le_trans ?_ hlow))
      rw [← pow_add]
      exact Nat.pow_le_pow_right two_pos (by omega)

/-- Shifting a mantissa to the exponent that it gets, and then rounding it, passes no double. -/
theorem shift_passes_none (hm : 0 < m) {s r : ℕ} {t : ℤ}
    (ht : t = max ((m.log2 : ℤ) + e - 52) (-1074)) (hs : e + s = t) (hlow : m / 2 ^ s ≤ r)
    (hhigh : r ≤ m / 2 ^ s + 1) (hexact : 2 ^ s ∣ m → r = m / 2 ^ s) {k : ℕ} {i : ℤ}
    (hk : Canonical k i) : (worth m e ≤ worth k i → worth r t ≤ worth k i) ∧
      (worth k i ≤ worth m e → worth k i ≤ worth r t) := by
  have hpos : 0 < 2 ^ s := Nat.two_pow_pos s
  have hunit : ∀ n : ℕ, worth n t = worth (n * 2 ^ s) e := by
    intro n
    rw [← Nat.shiftLeft_eq, ← worth_shiftLeft n s t]
    congr 1
    omega
  by_cases hit : t ≤ i
  · -- The double is a multiple of the last bit.
    obtain ⟨n, hn⟩ : ∃ n : ℕ, worth k i = worth n t := by
      refine ⟨k <<< (i - t).toNat, ?_⟩
      rw [← worth_shiftLeft k (i - t).toNat i]
      congr 1
      omega
    rw [hn, hunit n, hunit r]
    simp only [worth_le_worth]
    refine ⟨fun hle => Nat.mul_le_mul_right _ ?_, fun hle => Nat.mul_le_mul_right _ ?_⟩
    · by_cases hdvd : 2 ^ s ∣ m
      · rw [hexact hdvd]
        exact Nat.div_le_of_le_mul (by rwa [mul_comm])
      · have hne : m ≠ n * 2 ^ s := fun heq => hdvd (heq ▸ Nat.dvd_mul_left _ _)
        have hlt : m / 2 ^ s < n :=
          (Nat.div_lt_iff_lt_mul hpos).mpr (lt_of_le_of_ne hle hne)
        exact hhigh.trans hlt
    · exact ((Nat.le_div_iff_mul_le hpos).mpr hle).trans hlow
  · -- The double is too small to matter.
    have hfull := (quotient_bounds hm ht hs).2.resolve_right fun hleast =>
      hit (hleast ▸ hk.least)
    have hlt := worth_lt_worth hk.lt (not_le.mp hit) hfull
    have hquotient : worth (m / 2 ^ s) t ≤ worth m e := by
      rw [hunit, worth_le_worth]
      exact Nat.div_mul_le_self m (2 ^ s)
    refine ⟨fun hle => absurd (hle.trans_lt hlt) (not_lt.mpr hquotient), fun _ => hlt.le.trans ?_⟩
    exact (worth_le_worth _ _ t).mpr hlow

/-- What rounding makes of a mantissa, which may be zero. -/
def finish (s : Sign) (m : ℕ) (e : ℤ) : UnpackedFloat :=
  if h : m = 0 then .zero s else .finite s m e (Nat.pos_of_ne_zero h)

/-- The mantissa is shifted and rounded, and then shifted once more if it has become too long. -/
theorem roundWithAccuracy_eq (s : Sign) {n r k : ℕ} {t : ℤ}
    (ht : t = max ((m.log2 : ℤ) + e - 52) (-1074)) (hn : e + n = t)
    (hr : (ExtendedMantissa.ofMantissaAndAccuracy m .exact >>> n).roundedMantissa = r)
    (hk : (max ((r.log2 : ℤ) + t - 52) (-1074) - t).toNat = k) :
    roundWithAccuracy Format.binary64 s m e .exact = finish s (r / 2 ^ k) (t + k) := by
  have hfirst : shiftToTargetExponent Format.binary64 m e .exact =
      (ExtendedMantissa.ofMantissaAndAccuracy m .exact >>> n, t) := by
    have hamount : (t - e).toNat = n := by omega
    rw [shiftToTargetExponent, targetExponent_eq, ← ht, shiftToExponent, hamount, hn]
  have hsecond : shiftToTargetExponent Format.binary64 r t .exact =
      (ExtendedMantissa.ofMantissaAndAccuracy r .exact >>> k, t + k) := by
    rw [shiftToTargetExponent, targetExponent_eq, shiftToExponent, hk]
  unfold roundWithAccuracy
  simp only [hfirst, hr, hsecond, (shifted r k).1]
  rfl

theorem roundWithAccuracy_rounds (s : Sign) (hm : 0 < m)
    (he : e ≤ max ((m.log2 : ℤ) + e - 52) (-1074)) :
    ∃ m' e', Rounds m e m' e' ∧
      roundWithAccuracy Format.binary64 s m e .exact = finish s m' e' := by
  obtain ⟨t, ht⟩ : ∃ t, t = max ((m.log2 : ℤ) + e - 52) (-1074) := ⟨_, rfl⟩
  obtain ⟨n, hn⟩ : ∃ n : ℕ, e + n = t := ⟨(t - e).toNat, by omega⟩
  obtain ⟨r, hr⟩ :
      ∃ r, (ExtendedMantissa.ofMantissaAndAccuracy m .exact >>> n).roundedMantissa = r := ⟨_, rfl⟩
  obtain ⟨hmantissa, hbits⟩ := shifted m n
  obtain ⟨hlow, hhigh, hexact⟩ :=
    roundedMantissa_bounds (ExtendedMantissa.ofMantissaAndAccuracy m .exact >>> n)
  rw [hmantissa, hr] at hlow hhigh hexact
  have hpasses : ∀ {k : ℕ} {i : ℤ}, Canonical k i →
      (worth m e ≤ worth k i → worth r t ≤ worth k i) ∧
        (worth k i ≤ worth m e → worth k i ≤ worth r t) := fun hk =>
    shift_passes_none hm ht hn hlow hhigh (fun hdvd => hexact (hbits hdvd)) hk
  obtain ⟨hlt, hfull⟩ := quotient_bounds hm ht hn
  have hleast : -1074 ≤ t := ht ▸ le_max_right _ _
  rcases Nat.lt_or_eq_of_le (hhigh.trans hlt) with hsmall | hcarry
  · have hlog : r.log2 ≤ 52 := by
      by_cases hzero : r = 0
      · rw [hzero]
        decide
      · exact Nat.lt_succ_iff.mp ((Nat.log2_lt hzero).mpr hsmall)
    have hcanonical : Canonical r t := ⟨hsmall, hleast, hfull.imp_left fun h => h.trans hlow⟩
    have hround := roundWithAccuracy_eq s (k := 0) ht hn hr (by omega)
    rw [pow_zero, Nat.div_one, Nat.cast_zero, add_zero] at hround
    exact ⟨r, t, ⟨hcanonical, fun hk => (hpasses hk).1, fun hk => (hpasses hk).2⟩, hround⟩
  · -- The carry makes one more bit, so the mantissa is shifted once more.
    have hworth : worth (2 ^ 52) (t + 1) = worth r t := by
      rw [hcarry, ← worth_shiftLeft (2 ^ 52) 1 (t + 1)]
      congr 1
      omega
    have hcanonical : Canonical (2 ^ 52) (t + 1) := ⟨by norm_num, by omega, .inl le_rfl⟩
    have hlog : r.log2 = 53 := by rw [hcarry]; exact Nat.log2_two_pow
    have hround := roundWithAccuracy_eq s (k := 1) ht hn hr (by omega)
    rw [hcarry] at hround
    refine ⟨2 ^ 52, t + 1, ⟨hcanonical, fun hk => ?_, fun hk => ?_⟩, hround⟩
    · rw [hworth]
      exact (hpasses hk).1
    · rw [hworth]
      exact (hpasses hk).2

/-! ### Packing -/

theorem toNat_implicit (y : BitVec 52) : (1#1 ++ y).toNat = 2 ^ 52 + y.toNat := by
  rw [BitVec.toNat_append, ← Nat.shiftLeft_add_eq_or_of_lt y.isLt]
  rfl

/-- What packed bits stand for. -/
theorem unpack_packComponents (s : Sign) (x : BitVec 11) (y : BitVec 52) :
    UnpackedFloat.unpack Format.binary64 (packComponents Format.binary64 s x y) =
      if x = -1#11 then if y = 0#52 then .infinity s else .notANumber
      else if x = 0#11 then finish s y.toNat (-1074)
      else finish s (2 ^ 52 + y.toNat) (x.toNat - 1075) := by
  unfold UnpackedFloat.unpack
  simp only [unpackMantissa_packComponents, unpackExponent_packComponents,
    unpackSign_packComponents, Sign.ofBitVec_toBitVec, toNat_implicit]
  split
  · rfl
  · split
    · next hzero =>
      subst hzero
      unfold finish
      by_cases hy : y = 0#52
      · subst hy
        rfl
      · have hne : y.toNat ≠ 0 := fun h => hy (BitVec.eq_of_toNat_eq h)
        rw [dif_neg hy, dif_neg hne]
        rfl
    · rw [finish, dif_neg (by omega)]
      rfl

/-- What is unpacked is a double as the format has it. -/
theorem canonical_of_unpack {b : BitVec 64} {s : Sign} {hm : 0 < m}
    (h : UnpackedFloat.unpack Format.binary64 b = .finite s m e hm) :
    Canonical m e ∧ e ≤ 971 := by
  rw [← @packComponents_unpackSign_unpackExponent_unpackMantissa Format.binary64 b,
    unpack_packComponents] at h
  obtain ⟨x, hx⟩ : ∃ x : BitVec 11, x = @unpackExponent Format.binary64 b := ⟨_, rfl⟩
  obtain ⟨y, hy⟩ : ∃ y : BitVec 52, y = @unpackMantissa Format.binary64 b := ⟨_, rfl⟩
  rw [← hx, ← hy] at h
  have hlt : y.toNat < 2 ^ 52 := y.isLt
  split at h
  · split at h <;> cases h
  · next hall =>
    have hbound : x.toNat < 2047 := by
      have hne : x.toNat ≠ (-1#11).toNat := fun heq => hall (BitVec.eq_of_toNat_eq heq)
      have hmax : (-1#11).toNat = 2047 := rfl
      have hlast := x.isLt
      omega
    unfold finish at h
    split at h <;> split at h <;> cases h
    · exact ⟨⟨by omega, le_rfl, .inr rfl⟩, by norm_num⟩
    · next hzero _ =>
      have hpos : x.toNat ≠ 0 := fun heq => hzero (BitVec.eq_of_toNat_eq heq)
      exact ⟨⟨by omega, by omega, .inl (Nat.le_add_right _ _)⟩, by omega⟩

/-- With all of its bits a mantissa is stored without the first one. -/
theorem unpack_pack_full (s : Sign) (hm : 0 < m) (hlt : m < 2 ^ 53) (hfull : 2 ^ 52 ≤ m)
    (hleast : -1074 ≤ e) (he : e ≤ 971) :
    UnpackedFloat.unpack Format.binary64 (UnpackedFloat.pack Format.binary64 (.finite s m e hm)) =
      finish s m e := by
  obtain ⟨biased, hbiased⟩ : ∃ biased : ℕ, (biased : ℤ) = e + 1075 := ⟨(e + 1075).toNat, by omega⟩
  have hamount : (e + (Format.binary64.exponentBias : ℤ) + (52 : ℕ)).toNat = biased := by
    have hbias : (Format.binary64.exponentBias : ℤ) = 1023 := rfl
    omega
  have hlog : m.log2 + 1 = Format.binary64.mantissaBits := by
    have hlog : m.log2 = 52 := (Nat.log2_eq_iff hm.ne').mpr ⟨hfull, hlt⟩
    rw [hlog]
    rfl
  have hexponent : (BitVec.ofNat 11 biased).toNat = biased := by
    rw [BitVec.toNat_ofNat, Nat.mod_eq_of_lt (by omega)]
  have hmantissa : (BitVec.ofNat 52 m).toNat = m - 2 ^ 52 := by
    rw [BitVec.toNat_ofNat]
    omega
  -- The exponent is neither that of an infinity nor that of a number without its first bit.
  have hall : BitVec.ofNat 11 biased ≠ -1#11 := by
    intro heq
    have hmax : (-1#11).toNat = 2047 := rfl
    rw [heq] at hexponent
    omega
  have hzero : BitVec.ofNat 11 biased ≠ 0#11 := by
    intro heq
    have hmin : (0#11).toNat = 0 := rfl
    rw [heq] at hexponent
    omega
  have hbits : 2 ^ 52 + (m - 2 ^ 52) = m := Nat.add_sub_cancel' hfull
  have hplace : (biased : ℤ) - 1075 = e := by omega
  unfold UnpackedFloat.pack
  simp only [hamount]
  rw [if_neg (by omega), if_pos hlog, unpack_packComponents, if_neg hall, if_neg hzero, hexponent,
    hmantissa, hbits, hplace]

/-- A mantissa with fewer bits is stored as it is, since its exponent is known. -/
theorem unpack_pack_least (s : Sign) (hm : 0 < m) (hlt : m < 2 ^ 52) :
    UnpackedFloat.unpack Format.binary64
      (UnpackedFloat.pack Format.binary64 (.finite s m (-1074) hm)) = finish s m (-1074) := by
  have hamount : ((-1074 : ℤ) + (Format.binary64.exponentBias : ℤ) + (52 : ℕ)).toNat = 1 := rfl
  have hlog : m.log2 + 1 ≠ Format.binary64.mantissaBits := by
    have hlog : m.log2 < 52 := (Nat.log2_lt hm.ne').mpr hlt
    have hbits : Format.binary64.mantissaBits = 53 := rfl
    omega
  have hmantissa : (BitVec.ofNat 52 m).toNat = m := by
    rw [BitVec.toNat_ofNat, Nat.mod_eq_of_lt hlt]
  unfold UnpackedFloat.pack
  simp only [hamount]
  rw [if_neg (by omega), if_neg hlog, unpack_packComponents, if_neg (by decide), if_pos rfl,
    hmantissa]

theorem unpack_pack_finite (s : Sign) (hm : 0 < m) (h : Canonical m e) (he : e ≤ 971) :
    UnpackedFloat.unpack Format.binary64 (UnpackedFloat.pack Format.binary64 (.finite s m e hm)) =
      .finite s m e hm := by
  have hfinish : finish s m e = .finite s m e hm := dif_neg hm.ne'
  rcases lt_or_ge m (2 ^ 52) with hlt | hfull
  · obtain rfl : e = -1074 := h.full.resolve_left (not_le.mpr hlt)
    exact (unpack_pack_least s hm hlt).trans hfinish
  · exact (unpack_pack_full s hm h.lt hfull h.least he).trans hfinish

/-- An exponent that is too large makes an infinity. -/
theorem unpack_pack_overflow (s : Sign) (hm : 0 < m) (he : 971 < e) :
    UnpackedFloat.unpack Format.binary64 (UnpackedFloat.pack Format.binary64 (.finite s m e hm)) =
      .infinity s := by
  have hamount : 2047 ≤ (e + (Format.binary64.exponentBias : ℤ) + (52 : ℕ)).toNat := by
    have hbias : (Format.binary64.exponentBias : ℤ) = 1023 := rfl
    omega
  unfold UnpackedFloat.pack
  simp only
  rw [if_pos (by omega)]
  exact unpack_packComponents s (-1#11) 0#52

/-- Packing keeps the sign, and never makes an undefined number. -/
theorem unpack_pack_signed (s : Sign) (hm : 0 < m) (e : ℤ) :
    UnpackedFloat.unpack Format.binary64 (UnpackedFloat.pack Format.binary64 (.finite s m e hm)) =
        .infinity s ∨
      ∃ m' e', UnpackedFloat.unpack Format.binary64
        (UnpackedFloat.pack Format.binary64 (.finite s m e hm)) = finish s m' e' := by
  unfold UnpackedFloat.pack
  simp only
  split
  · exact .inl (unpack_packComponents s (-1#11) 0#52)
  · next hfits =>
    right
    split
    · -- The exponent of a number is never that of an infinity.
      generalize (e + (Format.binary64.exponentBias : ℤ) + (52 : ℕ)).toNat = biased at hfits
      have hall : BitVec.ofNat 11 biased ≠ -1#11 := by
        intro heq
        have hexponent := congrArg BitVec.toNat heq
        have hmax : (-1#11).toNat = 2047 := rfl
        rw [BitVec.toNat_ofNat, hmax] at hexponent
        omega
      rw [unpack_packComponents, if_neg hall]
      split
      · exact ⟨_, _, rfl⟩
      · exact ⟨_, _, rfl⟩
    · rw [unpack_packComponents, if_neg (by decide), if_pos rfl]
      exact ⟨_, _, rfl⟩

end Double

end RpcPipeline
