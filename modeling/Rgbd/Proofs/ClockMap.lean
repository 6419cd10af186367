import Rgbd.Proofs.Float.Binary64
import Rgbd.Proofs.Clock

/-!
The clock mapping keeps the order of device times, wherever it does not fall back.

A base maps a device time `d` to its host time shifted by the duration nearest to
`|d - device| / 1000` seconds, computed in binary64, forwards when `d - device ≥ 0` and
backwards otherwise. Read through values, that shift is a function of the rounded difference
`roundNearest (d - device)` alone, and every step of it (rounding the difference, taking a
thousandth, rounding again, taking the nearest nanosecond) keeps the order. So the mapping is
monotone over all device times for which the duration exists and the shifted host time is
representable (`ClockBase.MapsExactly`). Outside that range it falls back to the base's host
time, and then the order can break: a device time far enough after the base maps back onto
the base.
-/

namespace Rgbd

open Float.Model UnpackedFloat FloatModel

/-! ### Durations from binary64 seconds -/

namespace Duration

theorem roundHalfEven_eq_roundedMantissa (n d : ℕ) :
    roundHalfEven n d =
      (ExtendedMantissa.ofMantissaAndAccuracy (n / d)
        (accuracyOfFraction (n % d) d)).roundedMantissa := by
  unfold roundHalfEven accuracyOfFraction
  by_cases hr : n % d = 0
  · simp only [hr, if_true]
    simp only [ExtendedMantissa.ofMantissaAndAccuracy, ExtendedMantissa.roundedMantissa,
      ExtendedMantissa.accuracy, Accuracy.roundToNearestEven]
    rcases Nat.eq_zero_or_pos d with rfl | hd
    · simp
    · simp
      omega
  · rw [if_neg hr]
    rcases Nat.lt_trichotomy (2 * (n % d)) d with h | h | h
    · rw [(Nat.compare_eq_lt).2 h]
      simp [ExtendedMantissa.ofMantissaAndAccuracy, ExtendedMantissa.roundedMantissa,
        ExtendedMantissa.accuracy, Accuracy.roundToNearestEven]
      omega
    · rw [(Nat.compare_eq_eq).2 h]
      simp only [ExtendedMantissa.ofMantissaAndAccuracy, ExtendedMantissa.roundedMantissa,
        ExtendedMantissa.accuracy, Accuracy.roundToNearestEven]
      rcases Nat.mod_two_eq_zero_or_one (n / d) with hq | hq <;> simp [h, hq]
    · rw [(Nat.compare_eq_gt).2 h]
      simp [ExtendedMantissa.ofMantissaAndAccuracy, ExtendedMantissa.roundedMantissa,
        ExtendedMantissa.accuracy, Accuracy.roundToNearestEven, h]

theorem roundHalfEven_eq (n d : ℕ) (hd : 0 < d) :
    (roundHalfEven n d : ℤ) = roundEven ((n : ℚ) / d) := by
  have hdq : (d : ℚ) ≠ 0 := by exact_mod_cast hd.ne'
  have hsplit : ((n / d : ℕ) : ℚ) + ((n % d : ℕ) : ℚ) / d = (n : ℚ) / d := by
    rw [eq_div_iff hdq, add_mul, div_mul_cancel₀ _ hdq]
    exact_mod_cast Nat.div_add_mod' n d
  rw [roundHalfEven_eq_roundedMantissa, ← hsplit]
  exact (represents_fraction _ _ d (Nat.mod_lt n hd)).roundedMantissa

theorem two_pow_toNat_div (e : ℤ) :
    ((Nat.pow 2 e.toNat : ℕ) : ℚ) / (Nat.pow 2 (-e).toNat : ℕ) = 2 ^ e := by
  rcases le_or_gt 0 e with he | he
  · obtain ⟨k, rfl⟩ := Int.eq_ofNat_of_zero_le he
    simp [Nat.pow_eq]
  · obtain ⟨k, hk⟩ : ∃ k : ℕ, e = -(k : ℤ) := ⟨(-e).toNat, by omega⟩
    subst hk
    have : (-(k : ℤ)).toNat = 0 := by omega
    simp [Nat.pow_eq, this, zpow_neg]

theorem isFinite_of_ofSecondsFloat? {x : Float} {o : Duration} (h : ofSecondsFloat? x = some o) :
    x.toModel.unpack.isFinite = true := by
  unfold ofSecondsFloat? at h
  have hnan : x.isNaN = x.toModel.unpack.isNaN := rfl
  have hinf : x.isInf = x.toModel.unpack.isInf := rfl
  cases hu : x.toModel.unpack <;> simp_all [UnpackedFloat.isNaN, UnpackedFloat.isInf] <;> rfl

theorem ofSecondsFloat?_eq {x : Float} (hx : x.toModel.unpack.isFinite = true) :
    ofSecondsFloat? x =
      if value x.toModel.unpack < 0 ∨ 2 ^ 64 ≤ value x.toModel.unpack then none
      else some ⟨(roundEven (value x.toModel.unpack * nanosPerSecond)).toNat⟩ := by
  have hbits := ofBits_unpack x.toBits
  have hunpack : UnpackedFloat.unpack .binary64 x.toBits.toBitVec = x.toModel.unpack := rfl
  rw [hunpack] at hbits
  have hnan : x.isNaN = false := by
    show x.toModel.unpack.isNaN = false
    cases hu : x.toModel.unpack <;> simp_all [UnpackedFloat.isFinite, UnpackedFloat.isNaN]
  have hinf : x.isInf = false := by
    show x.toModel.unpack.isInf = false
    cases hu : x.toModel.unpack <;> simp_all [UnpackedFloat.isFinite, UnpackedFloat.isInf]
  unfold ofSecondsFloat?
  simp only [hnan, hinf, Bool.or_false, decide_eq_true_eq, lt_zero_iff hx]
  by_cases hneg : value x.toModel.unpack < 0
  · simp [hneg]
  simp only [hneg, if_false, false_or]
  cases hu : x.toModel.unpack with
  | notANumber => simp [hu, UnpackedFloat.isFinite] at hx
  | infinity s => simp [hu, UnpackedFloat.isFinite] at hx
  | zero s =>
    rw [hu] at hbits
    rw [Option.map_eq_none_iff.1 hbits]
    simp [value, roundEven]
    rfl
  | finite s m e hm =>
    rw [hu] at hbits hneg
    obtain ⟨b, hb, hbme⟩ := Option.map_eq_some_iff.1 hbits
    obtain ⟨hbm, hbe⟩ := Prod.mk.inj hbme
    rw [hb]
    dsimp only
    rw [hbm, hbe]
    have hv : value (.finite s m e hm) = m * 2 ^ e := by
      cases s
      · rw [value_negative] at hneg
        exact absurd (neg_neg_of_pos (mantissa_mul_pos hm e)) hneg
      · exact value_positive m e hm
    have hdown : 0 < Nat.pow 2 (-e).toNat := Nat.two_pow_pos _
    have hdq : (0 : ℚ) < (Nat.pow 2 (-e).toNat : ℕ) := by exact_mod_cast hdown
    have hscaled : ((m * Nat.pow 2 e.toNat : ℕ) : ℚ) / (Nat.pow 2 (-e).toNat : ℕ) = m * 2 ^ e := by
      rw [Nat.cast_mul, mul_div_assoc, two_pow_toNat_div]
    rw [hv]
    by_cases h64 : (2 : ℚ) ^ 64 ≤ m * 2 ^ e
    · rw [if_pos h64, if_pos]
      rw [← hscaled, le_div_iff₀ hdq] at h64
      exact_mod_cast h64
    · rw [if_neg h64, if_neg]
      · congr 2
        rw [← Int.toNat_natCast (roundHalfEven _ _), roundHalfEven_eq _ _ hdown, ← hscaled]
        push_cast
        ring_nf
      · rw [← hscaled, le_div_iff₀ hdq] at h64
        exact_mod_cast h64

end Duration

/-! ### The shift a base applies, read through values -/

/-- Nanoseconds of the duration nearest to `z` milliseconds, once the thousandth is rounded
to binary64. -/
def offsetNanos (z : ℚ) : ℤ :=
  roundEven (roundNearest .binary64 (z / 1000) * nanosPerSecond)

/-- The shift a base applies for a rounded difference `y` of device times: forwards for a
nonnegative difference, backwards for a negative one. -/
def signedOffset (y : ℚ) : ℤ :=
  if 0 ≤ y then offsetNanos y else -offsetNanos (-y)

theorem offsetNanos_of_ofSecondsFloat? {x : Float} {o : Duration}
    (ho : Duration.ofSecondsFloat? (x.abs / 1000) = some o) :
    x.toModel.unpack.isFinite = true ∧ (o.nanos : ℤ) = offsetNanos |value x.toModel.unpack| := by
  have hq := Duration.isFinite_of_ofSecondsFloat? ho
  obtain ⟨habs, hqv⟩ := div_thousand_value hq
  rw [abs_unpack, isFinite_abs] at habs
  have hav : value x.abs.toModel.unpack = |value x.toModel.unpack| := by
    rw [abs_unpack]
    exact (abs_spec .binary64 (canonical_toModel _) (fits_toModel _)).2.2
  refine ⟨habs, ?_⟩
  rw [Duration.ofSecondsFloat?_eq hq] at ho
  split_ifs at ho with hout
  injection ho with ho
  rw [← ho, offsetNanos, ← hav, ← hqv]
  exact Int.toNat_of_nonneg (roundEven_nonneg (mul_nonneg (not_lt.1 (not_or.1 hout).1)
    (by positivity)))

theorem offsetNanos_mono {z z' : ℚ} (h : z ≤ z') : offsetNanos z ≤ offsetNanos z' := by
  have hsec := roundNearest_mono .binary64
    (div_le_div_of_nonneg_right h (by norm_num : (0 : ℚ) ≤ 1000))
  exact roundEven_mono (mul_le_mul_of_nonneg_right hsec (by positivity))

theorem offsetNanos_nonneg {z : ℚ} (hz : 0 ≤ z) : 0 ≤ offsetNanos z := by
  have := offsetNanos_mono hz
  rwa [offsetNanos, zero_div, roundNearest_zero, zero_mul, show (0 : ℚ) = ((0 : ℤ) : ℚ) by simp,
    roundEven_intCast] at this

theorem signedOffset_mono {y y' : ℚ} (h : y ≤ y') : signedOffset y ≤ signedOffset y' := by
  unfold signedOffset
  split_ifs with hy hy' hy'
  · exact offsetNanos_mono h
  · exact absurd (hy.trans h) hy'
  · have := offsetNanos_nonneg (neg_nonneg.2 (not_le.1 hy).le)
    have := offsetNanos_nonneg hy'
    omega
  · have := offsetNanos_mono (neg_le_neg h)
    omega

theorem signedOffset_nonneg {y : ℚ} (hy : 0 ≤ y) : 0 ≤ signedOffset y := by
  rw [signedOffset, if_pos hy]
  exact offsetNanos_nonneg hy

/-! ### Mapping without falling back -/

namespace ClockBase

/-- The device times a base maps without falling back: the offset converts to a duration,
and the host time shifted by it is representable. -/
def MapsExactly (b : ClockBase) (d : Float) : Prop :=
  ∃ o, Duration.ofSecondsFloat? ((d - b.device).abs / 1000) = some o ∧
    (if d - b.device ≥ 0 then b.host.checkedAdd o else b.host.checkedSub o).isSome

theorem checkedAdd_of_isSome {t : SystemTime} {o : Duration} (h : (t.checkedAdd o).isSome) :
    t.checkedAdd o = some ⟨t.nanos + o.nanos⟩ := by
  unfold SystemTime.checkedAdd at h ⊢
  dsimp only at h ⊢
  split <;> simp_all

theorem checkedSub_of_isSome {t : SystemTime} {o : Duration} (h : (t.checkedSub o).isSome) :
    t.checkedSub o = some ⟨t.nanos - o.nanos⟩ := by
  unfold SystemTime.checkedSub at h ⊢
  dsimp only at h ⊢
  split <;> simp_all

theorem map_nanos {b : ClockBase} {d : Float} (h : b.MapsExactly d) :
    d.toModel.unpack.isFinite = true ∧ b.device.toModel.unpack.isFinite = true ∧
      (b.map d).nanos = b.host.nanos +
        signedOffset (roundNearest .binary64
          (value d.toModel.unpack - value b.device.toModel.unpack)) := by
  obtain ⟨o, ho, hsome⟩ := h
  obtain ⟨habs, hnanos⟩ := offsetNanos_of_ofSecondsFloat? ho
  obtain ⟨hd, hdev, hdelta⟩ := sub_value habs
  refine ⟨hd, hdev, ?_⟩
  unfold ClockBase.map
  dsimp only
  rw [ho, Option.getD_some, ← hdelta]
  by_cases hge : d - b.device ≥ 0
  · rw [if_pos hge] at hsome ⊢
    rw [checkedAdd_of_isSome hsome, Option.getD_some, hnanos]
    have hnn := (nonneg_iff habs).1 hge
    rw [signedOffset, if_pos hnn, abs_of_nonneg hnn]
  · rw [if_neg hge] at hsome ⊢
    rw [checkedSub_of_isSome hsome, Option.getD_some, hnanos]
    have hneg : value (d - b.device).toModel.unpack < 0 :=
      not_le.1 (fun h => hge ((nonneg_iff habs).2 h))
    rw [signedOffset, if_neg (not_le.2 hneg), abs_of_neg hneg]
    ring

theorem map_mono {b : ClockBase} {d d' : Float} (h : d ≤ d') (hd : b.MapsExactly d)
    (hd' : b.MapsExactly d') : (b.map d).nanos ≤ (b.map d').nanos := by
  obtain ⟨hfin, -, hmap⟩ := map_nanos hd
  obtain ⟨hfin', -, hmap'⟩ := map_nanos hd'
  rw [hmap, hmap']
  have hv := value_le_of_float_le hfin hfin' h
  have := signedOffset_mono (roundNearest_mono .binary64 (sub_le_sub_right hv
    (value b.device.toModel.unpack)))
  omega

theorem host_le_map {b : ClockBase} {d : Float} (h : b.device ≤ d) (hd : b.MapsExactly d) :
    b.host.nanos ≤ (b.map d).nanos := by
  obtain ⟨hfin, hdev, hmap⟩ := map_nanos hd
  rw [hmap]
  have hv := value_le_of_float_le hdev hfin h
  have := signedOffset_nonneg (roundNearest_nonneg .binary64 (sub_nonneg.2 hv))
  omega

theorem map_eq_add {b : ClockBase} {d : Float} (hd : b.MapsExactly d)
    (hv : value b.device.toModel.unpack ≤ value d.toModel.unpack) :
    ∃ o, Duration.ofSecondsFloat? ((d - b.device).abs / 1000) = some o ∧
      (b.map d).nanos = b.host.nanos + o.nanos := by
  obtain ⟨o, ho, hsome⟩ := hd
  obtain ⟨habs, -⟩ := offsetNanos_of_ofSecondsFloat? ho
  obtain ⟨-, -, hdelta⟩ := sub_value habs
  have hge : d - b.device ≥ 0 := by
    rw [nonneg_iff habs, hdelta]
    exact roundNearest_nonneg .binary64 (sub_nonneg.2 hv)
  refine ⟨o, ho, ?_⟩
  rw [if_pos hge] at hsome
  unfold ClockBase.map
  dsimp only
  rw [ho, Option.getD_some, if_pos hge, checkedAdd_of_isSome hsome, Option.getD_some]

theorem isChain_map {b : ClockBase} {ds : List Float} (h : ds.IsChain (· ≤ ·))
    (hm : ∀ d ∈ ds, b.MapsExactly d) :
    (ds.map b.map).IsChain (fun t t' => t.nanos ≤ t'.nanos) := by
  induction ds with
  | nil => exact .nil
  | cons d ds ih =>
    cases ds with
    | nil => exact .singleton _
    | cons d' ds =>
      rw [List.isChain_cons_cons] at h
      exact .cons_cons (map_mono h.1 (hm d (by simp)) (hm d' (by simp)))
        (ih h.2 fun x hx => hm x (List.mem_cons_of_mem d hx))

end ClockBase

theorem value_head_le {d : Float} {ds : List Float} (h : (d :: ds).IsChain (· ≤ ·))
    (hfin : ∀ x ∈ d :: ds, x.toModel.unpack.isFinite = true) :
    ∀ x ∈ ds, value d.toModel.unpack ≤ value x.toModel.unpack := by
  induction ds generalizing d with
  | nil => simp
  | cons d' ds ih =>
    rw [List.isChain_cons_cons] at h
    have hle := value_le_of_float_le (hfin d (by simp)) (hfin d' (by simp)) h.1
    intro x hx
    rcases List.mem_cons.1 hx with rfl | hx
    · exact hle
    · exact hle.trans (ih h.2 (fun y hy => hfin y (List.mem_cons_of_mem d hy)) x hx)

/-! ### Runs of stamps -/

namespace ClockSync

def stampAll (c : ClockSync) : List (Float × SystemTime) → List SystemTime
  | [] => []
  | (device, now) :: rest => (c.stamp device now).1 :: (c.stamp device now).2.stampAll rest

theorem stampAll_of_base {b : ClockBase} {rest : List (Float × SystemTime)} :
    ∀ {c : ClockSync}, c.base = some b → c.source = .device →
      (c.previous :: rest.map Prod.fst).IsChain (· ≤ ·) →
      c.stampAll rest = rest.map fun p => b.map p.1 := by
  induction rest with
  | nil => intro c _ _ _; rfl
  | cons p rest ih =>
    intro c hbase hsrc hchain
    obtain ⟨d, now⟩ := p
    rw [List.map_cons, List.isChain_cons_cons] at hchain
    have hkeep : c.baseFor d now = b := by simp [baseFor, hbase, hchain.1]
    simp only [stampAll, stamp, hkeep, hsrc, List.map_cons]
    exact congrArg _ (ih rfl rfl hchain.2)

end ClockSync

/-! ### Stamps in device mode -/

/-- Stamps at non-decreasing device times in device mode, from a fresh synchronizer: the
first sets the base and replies with its host time, and every later one replies with its
device time mapped through that base. Where the base maps them without falling back, each
reply is the base's host time plus the duration converted from the thousandth of the
difference, and the replies are in order. More generally, a base maps in order any two device
times it maps without falling back. -/
theorem stamps_monotone_in_range :
    (∀ (b : ClockBase) (d d' : Float), d ≤ d' → b.MapsExactly d → b.MapsExactly d' →
      (b.map d).nanos ≤ (b.map d').nanos) ∧
    ∀ (now : SystemTime) (d₁ : Float) (rest : List (Float × SystemTime)),
      (d₁ :: rest.map Prod.fst).IsChain (· ≤ ·) →
      ({ source := .device } : ClockSync).stampAll ((d₁, now) :: rest) =
          now :: rest.map (fun p => ClockBase.map ⟨now, d₁⟩ p.1) ∧
      ((∀ p ∈ rest, ClockBase.MapsExactly ⟨now, d₁⟩ p.1) →
        (∀ p ∈ rest, ∃ o, Duration.ofSecondsFloat? ((p.1 - d₁).abs / 1000) = some o ∧
          (ClockBase.map ⟨now, d₁⟩ p.1).nanos = now.nanos + o.nanos) ∧
        (({ source := .device } : ClockSync).stampAll ((d₁, now) :: rest)).IsChain
          (fun t t' => t.nanos ≤ t'.nanos)) := by
  refine ⟨fun b d d' h hd hd' => ClockBase.map_mono h hd hd', ?_⟩
  intro now d₁ rest hchain
  have hreplies : ({ source := .device } : ClockSync).stampAll ((d₁, now) :: rest) =
      now :: rest.map (fun p => ClockBase.map ⟨now, d₁⟩ p.1) := by
    simp only [ClockSync.stampAll, ClockSync.stamp, ClockSync.baseFor, ClockBase.map_self]
    exact congrArg _ (ClockSync.stampAll_of_base rfl rfl hchain)
  refine ⟨hreplies, fun hrange => ?_⟩
  have hmaps : ∀ x ∈ rest.map Prod.fst, ClockBase.MapsExactly ⟨now, d₁⟩ x := by
    intro x hx
    obtain ⟨q, hq, rfl⟩ := List.mem_map.1 hx
    exact hrange q hq
  refine ⟨fun p hp => ?_, ?_⟩
  · have hfin : ∀ x ∈ d₁ :: rest.map Prod.fst, x.toModel.unpack.isFinite = true := by
      intro x hx
      rcases List.mem_cons.1 hx with rfl | hx
      · exact (ClockBase.map_nanos (hrange p hp)).2.1
      · exact (ClockBase.map_nanos (hmaps x hx)).1
    have hv : value (ClockBase.device ⟨now, d₁⟩).toModel.unpack ≤ value p.1.toModel.unpack :=
      value_head_le hchain hfin p.1 (List.mem_map_of_mem hp)
    obtain ⟨o, ho, hnanos⟩ := ClockBase.map_eq_add (hrange p hp) hv
    exact ⟨o, ho, hnanos⟩
  · rw [hreplies]
    cases rest with
    | nil => exact .singleton _
    | cons p₂ rest =>
      rw [List.map_cons, List.isChain_cons_cons] at hchain
      have htail := ClockBase.isChain_map hchain.2 hmaps
      simp only [List.map_cons, List.map_map, Function.comp_def] at htail ⊢
      exact .cons_cons (ClockBase.host_le_map hchain.1 (hrange p₂ (by simp))) htail

/-- One and two seconds after a base map in order, and so do stamps at `0`, `1000` and
`2000` milliseconds. -/
theorem stamps_monotone_at_seconds :
    ((⟨⟨1000000000000⟩, 0⟩ : ClockBase).map 1000).nanos ≤
        ((⟨⟨1000000000000⟩, 0⟩ : ClockBase).map 2000).nanos ∧
      (({ source := .device } : ClockSync).stampAll
        [(0, ⟨1000000000000⟩), (1000, ⟨0⟩), (2000, ⟨0⟩)]).IsChain
          (fun t t' => t.nanos ≤ t'.nanos) := by
  have h₁ : ClockBase.MapsExactly ⟨⟨1000000000000⟩, 0⟩ 1000 :=
    ⟨⟨1000000000⟩, by decide +kernel, by decide +kernel⟩
  have h₂ : ClockBase.MapsExactly ⟨⟨1000000000000⟩, 0⟩ 2000 :=
    ⟨⟨2000000000⟩, by decide +kernel, by decide +kernel⟩
  refine ⟨stamps_monotone_in_range.1 _ 1000 2000 (by decide) h₁ h₂, ?_⟩
  refine ((stamps_monotone_in_range.2 _ 0 [(1000, ⟨0⟩), (2000, ⟨0⟩)] (by decide)).2 ?_).2
  intro p hp
  simp only [List.mem_cons, List.not_mem_nil, or_false] at hp
  rcases hp with rfl | rfl
  exacts [h₁, h₂]

/-- Past the range of durations the mapping falls back to the base's host time: stamps at
`0`, `10 ^ 21` and `10 ^ 25` milliseconds, in order, reply with a third time before the
second, the base's own host time. -/
theorem stamps_fall_back_past_duration_range :
    (0 : Float) ≤ 1e21 ∧ (1e21 : Float) ≤ 1e25 ∧
      (({ source := .device } : ClockSync).stampAll
        [(0, ⟨1000000000000⟩), (1e21, ⟨1000000000000⟩), (1e25, ⟨1000000000000⟩)]).map
          SystemTime.nanos =
        [1000000000000, 1000000000000000000000000000 + 1000000000000, 1000000000000] := by
  decide

end Rgbd
