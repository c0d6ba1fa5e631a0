import SolanaTpuClient.Delivery.World

/-!
The system clock of `src/solana_delivery.c`, which a client reads when its creator supplies no
clock of its own.

`clock_gettime` stores a `struct timespec`, and `systemMonotonicTimeNs` turns it into nanoseconds.
The guard on the seconds bounds the product only; `systemMonotonicTimeNs_of_accepted` says what is
stored, modulo the width of the sum.
-/

namespace SolanaTpuClient

/-- `struct timespec` -/
structure Timespec where
  tvSec : Int64
  tvNsec : Int64
deriving DecidableEq

/-- `system_monotonic_time_ns`, with what `out_time_ns` points to afterwards; `now` is what
`clock_gettime` stores, nothing when it fails. -/
def systemMonotonicTimeNs (now : Option Timespec) (outTimeNs : Option UInt64) :
    Status × Option UInt64 :=
  match outTimeNs, now with
  | none, _ => (Status.internalError, none)
  | some out, none => (Status.internalError, some out)
  | some out, some now =>
      if now.tvSec < 0 ∨ now.tvNsec < 0 ∨ now.tvNsec ≥ 1000000000 then
        (Status.internalError, some out)
      else
        let seconds := now.tvSec.toUInt64
        if seconds > uint64Max / 1000000000 then (Status.internalError, some out)
        else (Status.ok, some (seconds * 1000000000 + now.tvNsec.toUInt64))

namespace Timespec

/-- The nanoseconds a reading stands for. -/
def nanoseconds (now : Timespec) : ℤ := now.tvSec.toInt * 10 ^ 9 + now.tvNsec.toInt

/-- A reading passes the checks of `system_monotonic_time_ns`. -/
structure Accepted (now : Timespec) : Prop where
  sec_nonneg : 0 ≤ now.tvSec.toInt
  sec_le : now.tvSec.toInt ≤ 18446744073
  nsec_nonneg : 0 ≤ now.tvNsec.toInt
  nsec_lt : now.tvNsec.toInt < 10 ^ 9

/-- A reading in the last second whose product is let through, past the last nanosecond that fits
a word. -/
def Overflows (now : Timespec) : Prop :=
  now.tvSec.toInt = 18446744073 ∧ 709551616 ≤ now.tvNsec.toInt ∧ now.tvNsec.toInt < 10 ^ 9

instance (now : Timespec) : Decidable now.Overflows :=
  inferInstanceAs (Decidable (_ ∧ _ ∧ _))

/-- The one reading is not after the other. -/
def NotAfter (first second : Timespec) : Prop :=
  first.tvSec < second.tvSec ∨ first.tvSec = second.tvSec ∧ first.tvNsec ≤ second.tvNsec

variable {now : Timespec}

lemma toNat_toUInt64 {x : Int64} (hx : 0 ≤ x.toInt) : (x.toUInt64.toNat : ℤ) = x.toInt := by
  have hx' : 0 ≤ x := Int64.le_iff_toInt_le.mpr hx
  rw [Int64.toNat_toUInt64_of_le hx', Int64.toInt_eq_toNatClampNeg hx']

/-- The two guards let exactly the accepted readings through. -/
lemma accepted_iff :
    now.Accepted ↔ ¬(now.tvSec < 0 ∨ now.tvNsec < 0 ∨ now.tvNsec ≥ 1000000000) ∧
      ¬now.tvSec.toUInt64 > uint64Max / 1000000000 := by
  have hbound : (uint64Max / 1000000000).toNat = 18446744073 := by decide
  have hzero : (0 : Int64).toInt = 0 := Int64.toInt_zero
  have hbillion : (1000000000 : Int64).toInt = 10 ^ 9 := by decide
  simp only [not_or, Int64.lt_iff_toInt_lt, ge_iff_le, gt_iff_lt, Int64.le_iff_toInt_le, hzero,
    hbillion, not_lt, not_le, UInt64.lt_iff_toNat_lt, hbound]
  constructor
  · intro h
    have hsec := toNat_toUInt64 h.sec_nonneg
    have hle := h.sec_le
    exact ⟨⟨h.sec_nonneg, h.nsec_nonneg, h.nsec_lt⟩, by omega⟩
  · rintro ⟨⟨hsec, hnsec, hlt⟩, hle⟩
    have hsec' := toNat_toUInt64 hsec
    exact ⟨hsec, by omega, hnsec, hlt⟩

/-- The sum of an accepted reading fits a word unless the reading overflows. -/
lemma Accepted.fits_iff (h : now.Accepted) : now.nanoseconds < 2 ^ 64 ↔ ¬now.Overflows := by
  obtain ⟨hsec, hle, hnsec, hlt⟩ := h
  simp only [nanoseconds, Overflows]
  omega

end Timespec

/-- A reading that is not accepted is refused. -/
lemma systemMonotonicTimeNs_of_not_accepted {now : Timespec} (h : ¬now.Accepted) (out : UInt64) :
    systemMonotonicTimeNs (some now) (some out) = (Status.internalError, some out) := by
  rw [Timespec.accepted_iff, not_and_or, not_not, not_not] at h
  by_cases hrange : now.tvSec < 0 ∨ now.tvNsec < 0 ∨ now.tvNsec ≥ 1000000000
  · simp only [systemMonotonicTimeNs, if_pos hrange]
  · simp only [systemMonotonicTimeNs, if_neg hrange, if_pos (h.resolve_left hrange)]

/-- An accepted reading is stored modulo the width of the sum. -/
lemma systemMonotonicTimeNs_of_accepted {now : Timespec} (h : now.Accepted) (out : UInt64) :
    ∃ t : UInt64, systemMonotonicTimeNs (some now) (some out) = (Status.ok, some t) ∧
      (t.toNat : ℤ) = now.nanoseconds % 2 ^ 64 := by
  obtain ⟨hrange, hsec⟩ := Timespec.accepted_iff.mp h
  refine ⟨now.tvSec.toUInt64 * 1000000000 + now.tvNsec.toUInt64, ?_, ?_⟩
  · simp only [systemMonotonicTimeNs, if_neg hrange, if_neg hsec]
  have hs := Timespec.toNat_toUInt64 h.sec_nonneg
  have hn := Timespec.toNat_toUInt64 h.nsec_nonneg
  rw [UInt64.toNat_add, UInt64.toNat_mul, Timespec.nanoseconds, ← hs, ← hn]
  have hbillion : (1000000000 : UInt64).toNat = 10 ^ 9 := by decide
  rw [hbillion]
  omega

end SolanaTpuClient
