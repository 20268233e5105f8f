import RpcPipeline.Proofs.Number.Rounding
import RpcPipeline.Proofs.Number.Ordered

/-!
# `RpcPipeline.Proofs.Number.Double`: doubles are ordered

A double that is defined stands for a rational number or for an infinity, and it is compared as
what it stands for (`le_iff`, `lt_iff`). What the rules of a pipeline rely on then follows from
one property of rounding, that no double is passed by it: adding the inverse of a double from
one on does not make it smaller (`le_add_inv`), and multiplying it by a ratio below one does
not make it larger (`mul_le`). So the bounds of a limit hold for doubles as they are, with
their rounding, infinities and undefined numbers.

* `valueOf`: what a double stands for.
* `compare_tells`: how the bits of two doubles are compared.
* `isFinite_of_le`: what lies between two finite doubles is finite.
* `le_add_of_nonneg`, `mul_le_of_lt_one`: the two operations, before their results are packed.
* `instance : Scalar.Ordered Float`: the laws.
-/

set_option autoImplicit false

namespace RpcPipeline

namespace Double

open Float.Model Float.Model.UnpackedFloat

/-- A number as an extended one. -/
def plain (x : ℚ) : WithBot (WithTop ℚ) := ((x : WithTop ℚ) : WithBot (WithTop ℚ))

theorem plain_le {x y : ℚ} : plain x ≤ plain y ↔ x ≤ y := by
  rw [plain, plain, WithBot.coe_le_coe, WithTop.coe_le_coe]

theorem plain_lt {x y : ℚ} : plain x < plain y ↔ x < y := by
  rw [plain, plain, WithBot.coe_lt_coe, WithTop.coe_lt_coe]

theorem bot_lt_plain (x : ℚ) : ⊥ < plain x := WithBot.bot_lt_coe _

theorem plain_lt_top (x : ℚ) : plain x < ⊤ := WithBot.coe_lt_coe.mpr (WithTop.coe_lt_top x)

/-- What an unpacked number stands for: a number, or an infinity. An undefined one stands for
nothing. -/
def value? : UnpackedFloat → Option (WithBot (WithTop ℚ))
  | .notANumber => none
  | .infinity .positive => some ⊤
  | .infinity .negative => some ⊥
  | .zero _ => some (plain 0)
  | .finite .positive m e _ => some (plain (worth m e))
  | .finite .negative m e _ => some (plain (-worth m e))

/-- Numbers as they are unpacked. -/
def Proper : UnpackedFloat → Prop
  | .finite _ m e _ => Canonical m e
  | _ => True

variable {a b : UnpackedFloat} {m m' : ℕ} {e e' : ℤ}

theorem isLE_compare (h : Canonical m e) (h' : Canonical m' e') :
    ((compare e e').then (compare m m')).isLE = true ↔ worth m e ≤ worth m' e' := by
  rw [h.worth_le_iff h', Ordering.isLE_then_iff_or, Int.compare_eq_lt, Int.compare_eq_eq,
    Nat.isLE_compare]

theorem compare_eq_lt (h : Canonical m e) (h' : Canonical m' e') :
    (compare e e').then (compare m m') = .lt ↔ worth m e < worth m' e' := by
  rw [h.worth_lt_iff h', Ordering.then_eq_lt, Int.compare_eq_lt, Int.compare_eq_eq,
    Nat.compare_eq_lt]

theorem swap_compare (m m' : ℕ) (e e' : ℤ) :
    ((compare e e').then (compare m m')).swap = (compare e' e).then (compare m' m) := by
  rw [Ordering.swap_then, Int.compare_swap, Nat.compare_swap]

/-- An order says how two numbers compare. -/
def Tells (o : Ordering) (x y : WithBot (WithTop ℚ)) : Prop :=
  (o = .lt ↔ x < y) ∧ (o.isLE = true ↔ x ≤ y)

theorem Tells.of_lt {x y : WithBot (WithTop ℚ)} (h : x < y) : Tells .lt x y :=
  ⟨iff_of_true rfl h, iff_of_true rfl h.le⟩

theorem Tells.of_gt {x y : WithBot (WithTop ℚ)} (h : y < x) : Tells .gt x y :=
  ⟨iff_of_false nofun h.asymm, iff_of_false nofun h.not_ge⟩

theorem Tells.refl (x : WithBot (WithTop ℚ)) : Tells .eq x x :=
  ⟨iff_of_false nofun (lt_irrefl x), iff_of_true rfl le_rfl⟩

variable {x y : WithBot (WithTop ℚ)}

theorem infinity_tells (s : Sign) (b : UnpackedFloat) (hx : value? (.infinity s) = some x)
    (hy : value? b = some y) :
    ∃ o, UnpackedFloat.compare (.infinity s) b = some o ∧ Tells o x y := by
  cases b with
  | notANumber => cases hy
  | infinity s' =>
    cases s <;> cases s' <;> cases hx <;> cases hy
    · exact ⟨_, rfl, .refl _⟩
    · exact ⟨_, rfl, .of_lt bot_lt_top⟩
    · exact ⟨_, rfl, .of_gt bot_lt_top⟩
    · exact ⟨_, rfl, .refl _⟩
  | zero s' =>
    cases s <;> cases hx <;> cases hy
    · exact ⟨_, rfl, .of_lt (bot_lt_plain _)⟩
    · exact ⟨_, rfl, .of_gt (plain_lt_top _)⟩
  | finite s' m' e' hm' =>
    cases s <;> cases s' <;> cases hx <;> cases hy
    · exact ⟨_, rfl, .of_lt (bot_lt_plain _)⟩
    · exact ⟨_, rfl, .of_lt (bot_lt_plain _)⟩
    · exact ⟨_, rfl, .of_gt (plain_lt_top _)⟩
    · exact ⟨_, rfl, .of_gt (plain_lt_top _)⟩

theorem zero_tells (s : Sign) (b : UnpackedFloat) (hx : value? (.zero s) = some x)
    (hy : value? b = some y) :
    ∃ o, UnpackedFloat.compare (.zero s) b = some o ∧ Tells o x y := by
  cases hx
  cases b with
  | notANumber => cases hy
  | infinity s' =>
    cases s' <;> cases hy
    · exact ⟨_, rfl, .of_gt (bot_lt_plain _)⟩
    · exact ⟨_, rfl, .of_lt (plain_lt_top _)⟩
  | zero s' =>
    cases hy
    exact ⟨_, rfl, .refl _⟩
  | finite s' m' e' hm' =>
    have hpos := worth_pos hm' e'
    cases s' <;> cases hy
    · exact ⟨_, rfl, .of_gt (plain_lt.mpr (neg_lt_zero.mpr hpos))⟩
    · exact ⟨_, rfl, .of_lt (plain_lt.mpr hpos)⟩

theorem finite_tells (s : Sign) {hm : 0 < m} (ha : Canonical m e) (hb : Proper b)
    (hx : value? (.finite s m e hm) = some x) (hy : value? b = some y) :
    ∃ o, UnpackedFloat.compare (.finite s m e hm) b = some o ∧ Tells o x y := by
  have hpos := worth_pos hm e
  cases b with
  | notANumber => cases hy
  | infinity s' =>
    cases s <;> cases s' <;> cases hx <;> cases hy
    · exact ⟨_, rfl, .of_gt (bot_lt_plain _)⟩
    · exact ⟨_, rfl, .of_lt (plain_lt_top _)⟩
    · exact ⟨_, rfl, .of_gt (bot_lt_plain _)⟩
    · exact ⟨_, rfl, .of_lt (plain_lt_top _)⟩
  | zero s' =>
    cases s <;> cases hx <;> cases hy
    · exact ⟨_, rfl, .of_lt (plain_lt.mpr (neg_lt_zero.mpr hpos))⟩
    · exact ⟨_, rfl, .of_gt (plain_lt.mpr hpos)⟩
  | finite s' m' e' hm' =>
    have hpos' := worth_pos hm' e'
    cases s <;> cases s' <;> cases hx <;> cases hy
    · -- Two negative numbers are compared the other way round.
      refine ⟨_, rfl, ?_, ?_⟩
      · rw [swap_compare, plain_lt, neg_lt_neg_iff]
        exact compare_eq_lt hb ha
      · rw [swap_compare, plain_le, neg_le_neg_iff]
        exact isLE_compare hb ha
    · exact ⟨_, rfl, .of_lt (plain_lt.mpr (by linarith))⟩
    · exact ⟨_, rfl, .of_gt (plain_lt.mpr (by linarith))⟩
    · refine ⟨_, rfl, ?_, ?_⟩
      · rw [plain_lt]
        exact compare_eq_lt ha hb
      · rw [plain_le]
        exact isLE_compare ha hb

theorem compare_tells (ha : Proper a) (hb : Proper b) (hx : value? a = some x)
    (hy : value? b = some y) : ∃ o, UnpackedFloat.compare a b = some o ∧ Tells o x y := by
  cases a with
  | notANumber => cases hx
  | infinity s => exact infinity_tells s b hx hy
  | zero s => exact zero_tells s b hx hy
  | finite s m e hm => exact finite_tells s ha hb hx hy

theorem compare_eq_none (h : value? a = none) (b : UnpackedFloat) :
    UnpackedFloat.compare a b = none ∧ UnpackedFloat.compare b a = none := by
  cases a with
  | notANumber => cases b <;> exact ⟨rfl, rfl⟩
  | infinity s => cases s <;> cases h
  | zero s => cases h
  | finite s m e hm => cases s <;> cases h

/-! ### Doubles -/

/-- What a double stands for. -/
def valueOf (a : Float) : Option (WithBot (WithTop ℚ)) := value? a.toModel.unpack

theorem proper_unpack (a : Float) : Proper a.toModel.unpack := by
  cases h : a.toModel.unpack with
  | finite s m e hm => exact (canonical_of_unpack h).1
  | _ => trivial

/-- Two doubles can be compared if both are defined, and then as what they stand for. -/
theorem compare_cases (a b : Float) :
    (∃ x y o, valueOf a = some x ∧ valueOf b = some y ∧
      a.toModel.unpack.compare b.toModel.unpack = some o ∧ Tells o x y) ∨
    (valueOf a = none ∨ valueOf b = none) ∧
      a.toModel.unpack.compare b.toModel.unpack = none := by
  cases hx : valueOf a with
  | none => exact .inr ⟨.inl rfl, (compare_eq_none hx _).1⟩
  | some x =>
    cases hy : valueOf b with
    | none => exact .inr ⟨.inr rfl, (compare_eq_none hy _).2⟩
    | some y =>
      obtain ⟨o, ho, htells⟩ := compare_tells (proper_unpack a) (proper_unpack b) hx hy
      exact .inl ⟨x, y, o, rfl, rfl, ho, htells⟩

theorem le_iff {a b : Float} :
    a ≤ b ↔ ∃ x y, valueOf a = some x ∧ valueOf b = some y ∧ x ≤ y := by
  have hle : a ≤ b ↔ a.toModel.unpack.le b.toModel.unpack = true := by
    show decide _ = true ↔ _
    rw [decide_eq_true_iff]
    rfl
  rw [hle, UnpackedFloat.le]
  rcases compare_cases a b with ⟨x, y, o, hx, hy, ho, -, hcompare⟩ | ⟨hnone, ho⟩
  · simp [hx, hy, ho, hcompare]
  · rcases hnone with hnone | hnone <;> simp [hnone, ho]

theorem lt_iff {a b : Float} :
    a < b ↔ ∃ x y, valueOf a = some x ∧ valueOf b = some y ∧ x < y := by
  have hlt : a < b ↔ a.toModel.unpack.lt b.toModel.unpack = true := by
    show decide _ = true ↔ _
    rw [decide_eq_true_iff]
    rfl
  rw [hlt, UnpackedFloat.lt]
  rcases compare_cases a b with ⟨x, y, o, hx, hy, ho, hcompare, -⟩ | ⟨hnone, ho⟩
  · simp [hx, hy, ho, hcompare]
  · rcases hnone with hnone | hnone <;> simp [hnone, ho]

theorem le_self_iff {a : Float} : a ≤ a ↔ ∃ x, valueOf a = some x := by
  rw [le_iff]
  constructor
  · rintro ⟨x, -, hx, -⟩
    exact ⟨x, hx⟩
  · rintro ⟨x, hx⟩
    exact ⟨x, x, hx, hx, le_rfl⟩

theorem isFinite_iff {a : Float} : Scalar.isFinite a = true ↔ ∃ x, valueOf a = some (plain x) := by
  show a.toModel.unpack.isFinite = true ↔ ∃ x, value? a.toModel.unpack = some (plain x)
  cases a.toModel.unpack with
  | notANumber => exact iff_of_false nofun nofun
  | infinity s =>
    refine iff_of_false nofun ?_
    rintro ⟨x, hx⟩
    cases s
    · exact (bot_lt_plain x).ne (Option.some.inj hx)
    · exact (plain_lt_top x).ne' (Option.some.inj hx)
  | zero s => exact iff_of_true rfl ⟨0, rfl⟩
  | finite s m e hm => cases s <;> exact iff_of_true rfl ⟨_, rfl⟩

/-- What lies between two finite numbers is finite. -/
theorem isFinite_of_le {a b c : Float} (ha : Scalar.isFinite a = true)
    (hc : Scalar.isFinite c = true) (hab : a ≤ b) (hbc : b ≤ c) : Scalar.isFinite b = true := by
  obtain ⟨low, hlow⟩ := isFinite_iff.mp ha
  obtain ⟨high, hhigh⟩ := isFinite_iff.mp hc
  obtain ⟨x, y, hx, hy, hxy⟩ := le_iff.mp hab
  obtain ⟨y', z, hy', hz, hyz⟩ := le_iff.mp hbc
  rw [hlow, Option.some.injEq] at hx
  rw [hhigh, Option.some.injEq] at hz
  rw [hy, Option.some.injEq] at hy'
  subst hx hz hy'
  rw [isFinite_iff, hy]
  induction y with
  | bot => exact absurd hxy (not_le.mpr (bot_lt_plain low))
  | coe y =>
    induction y with
    | top => exact absurd hyz (not_le.mpr (plain_lt_top high))
    | coe y => exact ⟨y, rfl⟩

theorem le_of_lt {a b : Float} (h : a < b) : a ≤ b := by
  obtain ⟨x, y, hx, hy, hxy⟩ := lt_iff.mp h
  exact le_iff.mpr ⟨x, y, hx, hy, hxy.le⟩

/-! ### Arithmetic -/

/-- What becomes of a result that is packed. -/
def repack (u : UnpackedFloat) : UnpackedFloat :=
  UnpackedFloat.unpack Format.binary64 (UnpackedFloat.pack Format.binary64 u)

theorem repack_unpack (a : Float) : repack a.toModel.unpack = a.toModel.unpack :=
  congrArg (UnpackedFloat.unpack Format.binary64) (pack_unpack_of_valid a.toModel.valid)

theorem repack_infinity (s : Sign) : repack (.infinity s) = .infinity s :=
  unpack_packComponents s (-1#11) 0#52

theorem repack_zero (s : Sign) : repack (.zero s) = .zero s := unpack_packedZero ..

/-- A number that is neither undefined nor negative. -/
def Nonneg (u : UnpackedFloat) : Prop :=
  u = .infinity .positive ∨ ∃ m e, u = finish .positive m e

theorem repack_nonneg {u : UnpackedFloat} (h : Nonneg u) : Nonneg (repack u) := by
  rcases h with rfl | ⟨m, e, rfl⟩
  · rw [repack_infinity]
    exact .inl rfl
  · unfold finish
    split
    · rw [repack_zero]
      exact .inr ⟨0, 0, rfl⟩
    · exact unpack_pack_signed _ _ _

theorem worth_zero (e : ℤ) : worth 0 e = 0 := by
  rw [worth, Nat.cast_zero, zero_mul]

/-- A positive result that is too large becomes an infinity, and any other one stays. -/
theorem value?_repack_finish (h : Canonical m e) :
    value? (repack (finish .positive m e)) = some (if e ≤ 971 then plain (worth m e) else ⊤) := by
  by_cases hm : m = 0
  · subst hm
    have he : e = -1074 := h.full.resolve_left (by norm_num)
    rw [if_pos (by omega), worth_zero]
    exact congrArg value? (repack_zero .positive)
  · rw [finish, dif_neg hm]
    split
    · next he => exact congrArg value? (unpack_pack_finite .positive _ h he)
    · next he => exact congrArg value? (unpack_pack_overflow .positive _ (not_le.mp he))

theorem log2_shiftLeft (hm : 0 < m) (k : ℕ) : (m <<< k).log2 = m.log2 + k := by
  have hshift : m <<< k ≠ 0 := by
    rw [Nat.shiftLeft_eq]
    exact (Nat.mul_pos hm (Nat.two_pow_pos k)).ne'
  rw [Nat.log2_eq_iff hshift, Nat.shiftLeft_eq, add_right_comm, pow_add, pow_add _ _ k]
  constructor
  · exact Nat.mul_le_mul_right _ (Nat.log2_self_le hm.ne')
  · exact Nat.mul_lt_mul_of_pos_right Nat.lt_log2_self (Nat.two_pow_pos k)

theorem round_rounds (s : Sign) (hm : 0 < m) (e : ℤ) :
    ∃ m' e', Rounds m e m' e' ∧ UnpackedFloat.round Format.binary64 s m e = finish s m' e' := by
  obtain ⟨k, hk⟩ : ∃ k, k = (e - max ((m.log2 : ℤ) + e - 52) (-1074)).toNat := ⟨_, rfl⟩
  have hshift : 0 < m <<< k := by
    rw [Nat.shiftLeft_eq]
    exact Nat.mul_pos hm (Nat.two_pow_pos k)
  have hlog : (m <<< k).log2 = m.log2 + k := log2_shiftLeft hm k
  obtain ⟨m', e', hrounds, hround⟩ :=
    roundWithAccuracy_rounds (e := e - k) s hshift (by rw [hlog]; omega)
  refine ⟨m', e', ⟨hrounds.canonical, ?_, ?_⟩, ?_⟩
  · rw [← worth_shiftLeft m k e]
    exact hrounds.le
  · rw [← worth_shiftLeft m k e]
    exact hrounds.ge
  · rw [← hround, UnpackedFloat.round, targetExponent_eq, decreaseExponent, ← hk]

/-- Adding a number that is not negative to a positive one does not make it smaller. -/
theorem le_add_of_nonneg {hm : 0 < m} (h : Canonical m e)
    (hsame : repack (.finite .positive m e hm) = .finite .positive m e hm) (hb : Nonneg b) :
    ∃ z, value? (repack (UnpackedFloat.add Format.binary64 (.finite .positive m e hm) b)) = some z ∧
      plain (worth m e) ≤ z := by
  rcases hb with rfl | ⟨m', e', rfl⟩
  · exact ⟨⊤, congrArg value? (repack_infinity .positive), le_top⟩
  · by_cases hzero : m' = 0
    · rw [finish, dif_pos hzero]
      exact ⟨_, congrArg value? hsame, le_rfl⟩
    · rw [finish, dif_neg hzero]
      -- Both are brought to the smaller exponent, where their mantissas are added.
      obtain ⟨i, hi⟩ : ∃ i, i = min e e' := ⟨_, rfl⟩
      obtain ⟨k, hk⟩ : ∃ k, k = (e - i).toNat := ⟨_, rfl⟩
      obtain ⟨k', hk'⟩ : ∃ k', k' = (e' - i).toNat := ⟨_, rfl⟩
      have hpos : 0 < m <<< k := by
        rw [Nat.shiftLeft_eq]
        exact Nat.mul_pos hm (Nat.two_pow_pos k)
      have hadd : UnpackedFloat.add Format.binary64 (.finite .positive m e hm)
          (.finite .positive m' e' (Nat.pos_of_ne_zero hzero)) =
            UnpackedFloat.round Format.binary64 .positive (m <<< k + m' <<< k') i := by
        have hgt : compare (((m <<< k : ℕ) : ℤ) + ((m' <<< k' : ℕ) : ℤ)) 0 = .gt := by
          rw [Int.compare_eq_gt, ← Nat.cast_add]
          exact Nat.cast_pos.mpr (Nat.add_pos_left hpos _)
        simp only [UnpackedFloat.add, decreaseExponent, ← hi, ← hk, ← hk', Sign.apply,
          UnpackedFloat.normalize, hgt]
        rfl
      obtain ⟨m₂, e₂, hrounds, hround⟩ := round_rounds .positive
        (Nat.add_pos_left hpos (m' <<< k')) i
      have hworth : worth m e = worth (m <<< k) i := by
        rw [← worth_shiftLeft m k e]
        congr 1
        omega
      -- The number itself is a double, so rounding the larger sum does not pass it.
      have hle : worth m e ≤ worth m₂ e₂ := by
        refine hrounds.ge h ?_
        rw [hworth, worth_le_worth]
        exact Nat.le_add_right _ _
      rw [hadd, hround]
      refine ⟨_, value?_repack_finish hrounds.canonical, ?_⟩
      split
      · exact plain_le.mpr hle
      · exact le_top

/-- Multiplying a number from one on with a positive one below one does not make it larger. -/
theorem mul_le_of_lt_one {hm : 0 < m} {hm' : 0 < m'} (h : Canonical m e) (he : e ≤ 971)
    (hone : 1 ≤ worth m e) (hlt : worth m' e' < 1) :
    ∃ z, value? (repack (UnpackedFloat.mul Format.binary64 (.finite .positive m e hm)
      (.finite .positive m' e' hm'))) = some z ∧ z ≤ plain (worth m e) := by
  -- With the least exponent, a number would be below one.
  have hfull : 2 ^ 52 ≤ m := by
    refine h.full.resolve_right fun hleast => ?_
    have hcast : (m : ℚ) < 2 ^ 53 := by exact_mod_cast h.lt
    have hsmall : worth m e < 1 := by
      rw [worth, hleast]
      calc (m : ℚ) * 2 ^ (-1074 : ℤ) < 2 ^ 53 * 2 ^ (-1074 : ℤ) :=
            mul_lt_mul_of_pos_right hcast (zpow_pos (by norm_num) _)
        _ = 2 ^ (-1021 : ℤ) := by
            rw [← zpow_natCast, ← zpow_add₀ two_ne_zero]
            norm_num
        _ ≤ 1 := zpow_le_one_of_nonpos₀ one_le_two (by norm_num)
    exact absurd hone (not_le.mpr hsmall)
  have hmul : worth (m * m') (e + e') = worth m e * worth m' e' := by
    rw [worth, worth, worth, Nat.cast_mul, zpow_add₀ two_ne_zero]
    ring
  -- The product has more bits than a double, so it is only shifted to the right.
  have hlog : 52 ≤ (m * m').log2 := by
    refine (Nat.le_log2 (Nat.mul_pos hm hm').ne').mpr (hfull.trans ?_)
    exact Nat.le_mul_of_pos_right m hm'
  obtain ⟨m₂, e₂, hrounds, hround⟩ :=
    roundWithAccuracy_rounds (e := e + e') .positive (Nat.mul_pos hm hm') (by omega)
  have hle : worth m₂ e₂ ≤ worth m e := by
    refine hrounds.le h ?_
    rw [hmul]
    exact mul_le_of_le_one_right (worth_nonneg m e) hlt.le
  have hmul' : UnpackedFloat.mul Format.binary64 (.finite .positive m e hm)
      (.finite .positive m' e' hm') = finish .positive m₂ e₂ := hround
  rw [hmul']
  -- What is not larger than a double does not overflow.
  have hfits : e₂ ≤ 971 := by
    rcases (hrounds.canonical.worth_le_iff h).mp hle with hlt | ⟨heq, -⟩ <;> omega
  refine ⟨_, value?_repack_finish hrounds.canonical, ?_⟩
  rw [if_pos hfits]
  exact plain_le.mpr hle

/-! ### The laws -/

theorem unpack_one :
    (1 : Float).toModel.unpack = .finite .positive (2 ^ 52) (-52) (Nat.two_pow_pos 52) :=
  rfl

theorem valueOf_one : valueOf 1 = some (plain 1) := by
  have hworth : worth (2 ^ 52) (-52) = 1 := by
    rw [worth]
    norm_num
  rw [valueOf, unpack_one, value?, hworth]

/-- A double from one on is infinite, or it has a mantissa and an exponent. -/
theorem cases_of_one_le {a : Float} (h : 1 ≤ a) : a.toModel.unpack = .infinity .positive ∨
    ∃ m e hm, a.toModel.unpack = .finite .positive m e hm ∧ 1 ≤ worth m e := by
  obtain ⟨x, y, hx, hy, hle⟩ := le_iff.mp h
  rw [valueOf_one, Option.some.injEq] at hx
  subst hx
  unfold valueOf at hy
  cases ha : a.toModel.unpack with
  | notANumber =>
    rw [ha] at hy
    cases hy
  | infinity s =>
    rw [ha] at hy
    cases s <;> cases hy
    · exact absurd hle (not_le.mpr (bot_lt_plain 1))
    · exact .inl rfl
  | zero s =>
    rw [ha] at hy
    cases hy
    exact absurd (plain_le.mp hle) (by norm_num)
  | finite s m e hm =>
    rw [ha] at hy
    cases s <;> cases hy
    · have hneg : (1 : ℚ) ≤ -worth m e := plain_le.mp hle
      linarith [worth_pos hm e]
    · exact .inr ⟨m, e, hm, rfl, plain_le.mp hle⟩

/-- A positive double below one has a mantissa and an exponent. -/
theorem cases_of_lt_one {r : Float} (hpos : 0 < r) (hlt : r < 1) :
    ∃ m e hm, r.toModel.unpack = .finite .positive m e hm ∧ worth m e < 1 := by
  obtain ⟨x, y, hx, hy, hxy⟩ := lt_iff.mp hpos
  obtain ⟨y', z, hy', hz, hyz⟩ := lt_iff.mp hlt
  have hzero : valueOf 0 = some (plain 0) := rfl
  rw [hzero, Option.some.injEq] at hx
  rw [valueOf_one, Option.some.injEq] at hz
  rw [hy, Option.some.injEq] at hy'
  subst hx hy' hz
  unfold valueOf at hy
  cases hr : r.toModel.unpack with
  | notANumber =>
    rw [hr] at hy
    cases hy
  | infinity s =>
    rw [hr] at hy
    cases s <;> cases hy
    · exact absurd hxy (not_lt.mpr bot_le)
    · exact absurd hyz (not_lt.mpr le_top)
  | zero s =>
    rw [hr] at hy
    cases hy
    exact absurd hxy (lt_irrefl _)
  | finite s m e hm =>
    rw [hr] at hy
    cases s <;> cases hy
    · have hneg : (0 : ℚ) < -worth m e := plain_lt.mp hxy
      linarith [worth_pos hm e]
    · exact ⟨m, e, hm, rfl, plain_lt.mp hyz⟩

/-- The inverse of a double from one on is not negative. -/
theorem nonneg_inv {a : Float} (h : 1 ≤ a) : Nonneg (1 / a).toModel.unpack := by
  have hdiv : (1 / a).toModel.unpack = repack (UnpackedFloat.div Format.binary64
      (.finite .positive (2 ^ 52) (-52) (Nat.two_pow_pos 52)) a.toModel.unpack) := rfl
  rw [hdiv]
  refine repack_nonneg ?_
  rcases cases_of_one_le h with ha | ⟨m, e, hm, ha, -⟩
  · rw [ha]
    exact .inr ⟨0, 0, rfl⟩
  · rw [ha]
    exact .inr ⟨_, _, rfl⟩

theorem le_add_inv {a : Float} (h : 1 ≤ a) : a ≤ a + 1 / a := by
  have hinv := nonneg_inv h
  have hadd : valueOf (a + 1 / a) = value? (repack (UnpackedFloat.add Format.binary64
      a.toModel.unpack (1 / a).toModel.unpack)) := rfl
  rw [le_iff, hadd, valueOf]
  rcases cases_of_one_le h with ha | ⟨m, e, hm, ha, -⟩
  · rw [ha]
    refine ⟨⊤, ⊤, rfl, ?_, le_rfl⟩
    -- An infinity stays one.
    rcases hinv with hinv | ⟨m, e, hinv⟩
    · rw [hinv]
      exact congrArg value? (repack_infinity .positive)
    · rw [hinv, finish]
      split <;> exact congrArg value? (repack_infinity .positive)
  · have hcanonical : Canonical m e := (canonical_of_unpack ha).1
    have hsame := repack_unpack a
    rw [ha] at hsame ⊢
    obtain ⟨z, hz, hle⟩ := le_add_of_nonneg hcanonical hsame hinv
    exact ⟨_, z, rfl, hz, hle⟩

theorem mul_le {a r : Float} (h : 1 ≤ a) (hpos : 0 < r) (hlt : r < 1) : a * r ≤ a := by
  have hmul : valueOf (a * r) = value? (repack (UnpackedFloat.mul Format.binary64
      a.toModel.unpack r.toModel.unpack)) := rfl
  obtain ⟨m', e', hm', hr, hworth⟩ := cases_of_lt_one hpos hlt
  rw [le_iff, hmul, valueOf, hr]
  rcases cases_of_one_le h with ha | ⟨m, e, hm, ha, hone⟩
  · rw [ha]
    exact ⟨⊤, ⊤, congrArg value? (repack_infinity .positive), rfl, le_rfl⟩
  · obtain ⟨hcanonical, hfits⟩ := canonical_of_unpack ha
    rw [ha]
    obtain ⟨z, hz, hle⟩ := mul_le_of_lt_one hcanonical hfits hone hworth
    exact ⟨z, _, hz, rfl, hle⟩

end Double

/-- Doubles are ordered, as far as they are defined. -/
instance : Scalar.Ordered Float where
  le_trans {a b c} hab hbc := by
    obtain ⟨x, y, hx, hy, hxy⟩ := Double.le_iff.mp hab
    obtain ⟨y', z, hy', hz, hyz⟩ := Double.le_iff.mp hbc
    rw [hy, Option.some.injEq] at hy'
    subst hy'
    exact Double.le_iff.mpr ⟨x, z, hx, hz, hxy.trans hyz⟩
  defined_left hab := by
    obtain ⟨x, -, hx, -⟩ := Double.le_iff.mp hab
    exact Double.le_self_iff.mpr ⟨x, hx⟩
  defined_right hab := by
    obtain ⟨-, y, -, hy, -⟩ := Double.le_iff.mp hab
    exact Double.le_self_iff.mpr ⟨y, hy⟩
  not_lt {a b} ha hb := by
    obtain ⟨x, hx⟩ := Double.le_self_iff.mp ha
    obtain ⟨y, hy⟩ := Double.le_self_iff.mp hb
    have hlt : a < b ↔ x < y := by
      rw [Double.lt_iff, hx, hy]
      simp
    have hle : b ≤ a ↔ y ≤ x := by
      rw [Double.le_iff, hx, hy]
      simp
    rw [hlt, hle]
    exact not_lt
  le_add_inv := Double.le_add_inv
  mul_le := Double.mul_le

end RpcPipeline
