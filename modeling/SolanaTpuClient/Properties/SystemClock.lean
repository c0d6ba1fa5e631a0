import SolanaTpuClient.Delivery.SystemClock

/-!
The arithmetic of the system clock.

The conversion of a reading is exact, or the reading is refused, except in the last second whose
product fits a word: there the guard on the product lets a sum through that does not fit
(`Timespec.Overflows`). Away from these readings the clock never runs backwards.
-/

namespace SolanaTpuClient

/-- A reading is refused, or it is stored as the unbounded number of its nanoseconds. -/
def ExactOrRefused (now : Timespec) : Prop :=
  ∀ out, (systemMonotonicTimeNs (some now) (some out)).1 = Status.internalError ∨
    ∃ t : UInt64, systemMonotonicTimeNs (some now) (some out) = (Status.ok, some t) ∧
      (t.toNat : ℤ) = now.nanoseconds

/-- A reading is stored as `t`. -/
def StoredAs (now : Timespec) (t : UInt64) : Prop :=
  ∃ out, systemMonotonicTimeNs (some now) (some out) = (Status.ok, some t)

variable {now first second : Timespec} {t t₁ t₂ : UInt64}

/-- What is stored comes from an accepted reading, modulo the width of the sum. -/
lemma StoredAs.spec (h : StoredAs now t) :
    now.Accepted ∧ (t.toNat : ℤ) = now.nanoseconds % 2 ^ 64 := by
  obtain ⟨out, h⟩ := h
  by_cases hacc : now.Accepted
  · obtain ⟨t', ht', hvalue⟩ := systemMonotonicTimeNs_of_accepted hacc out
    obtain rfl : t' = t := by simpa using (congrArg Prod.snd (ht'.symm.trans h))
    exact ⟨hacc, hvalue⟩
  · rw [systemMonotonicTimeNs_of_not_accepted hacc] at h
    exact absurd (congrArg Prod.fst h) Status.internalError_ne_ok

lemma exactOrRefused_iff : ExactOrRefused now ↔ ¬now.Overflows := by
  by_cases hacc : now.Accepted
  · rw [← hacc.fits_iff]
    have hnonneg : 0 ≤ now.nanoseconds := by
      obtain ⟨hsec, -, hnsec, -⟩ := hacc
      exact add_nonneg (mul_nonneg hsec (by norm_num)) hnsec
    constructor
    · intro h
      obtain ⟨t, ht, hvalue⟩ := systemMonotonicTimeNs_of_accepted hacc 0
      rcases h 0 with hrefused | ⟨t', ht', hexact⟩
      · rw [ht] at hrefused
        exact absurd hrefused.symm Status.internalError_ne_ok
      · rw [← hexact]
        exact_mod_cast t'.toNat_lt
    · intro hfits out
      obtain ⟨t, ht, hvalue⟩ := systemMonotonicTimeNs_of_accepted hacc out
      exact Or.inr ⟨t, ht, hvalue.trans (Int.emod_eq_of_lt hnonneg hfits)⟩
  · refine ⟨fun _ hover => hacc ?_, fun _ out => Or.inl ?_⟩
    · obtain ⟨hsec, hlow, hhigh⟩ := hover
      exact ⟨by omega, by omega, by omega, hhigh⟩
    · rw [systemMonotonicTimeNs_of_not_accepted hacc]

/-- A reading that is not after another stands for no more nanoseconds. -/
lemma nanoseconds_le (h₁ : first.Accepted) (h₂ : second.Accepted) (h : first.NotAfter second) :
    first.nanoseconds ≤ second.nanoseconds := by
  obtain ⟨-, -, hnsec, hlt⟩ := h₁
  obtain ⟨-, -, hnsec', -⟩ := h₂
  simp only [Timespec.nanoseconds]
  rcases h with h | ⟨h, hle⟩
  · have := Int64.lt_iff_toInt_lt.mp h
    omega
  · have := Int64.le_iff_toInt_le.mp hle
    rw [h]
    omega

/-- Two stored readings in order are in order, unless the second overflows while the first does
not and what is left of the second is smaller. -/
lemma stored_le_iff (h₁ : StoredAs first t₁) (h₂ : StoredAs second t₂)
    (h : first.NotAfter second) :
    t₁ ≤ t₂ ↔ ¬second.Overflows ∨ first.Overflows ∨
      first.nanoseconds + 2 ^ 64 ≤ second.nanoseconds := by
  obtain ⟨hacc₁, hv₁⟩ := h₁.spec
  obtain ⟨hacc₂, hv₂⟩ := h₂.spec
  have hle := nanoseconds_le hacc₁ hacc₂ h
  have hf₁ := hacc₁.fits_iff
  have hf₂ := hacc₂.fits_iff
  have hbound : second.nanoseconds < 2 * 2 ^ 64 := by
    obtain ⟨-, hsec, -, hlt⟩ := hacc₂
    simp only [Timespec.nanoseconds]
    omega
  have hnonneg : 0 ≤ first.nanoseconds := by
    obtain ⟨hsec, -, hnsec, -⟩ := hacc₁
    exact add_nonneg (mul_nonneg hsec (by norm_num)) hnsec
  have hle' : t₁ ≤ t₂ ↔ (t₁.toNat : ℤ) ≤ t₂.toNat := by
    rw [UInt64.le_iff_toNat_le, Nat.cast_le]
  rw [hle', hv₁, hv₂, ← hf₂]
  by_cases hover : first.Overflows
  · simp only [hover, true_or, or_true, iff_true]
    have := mt hf₁.mp (not_not.mpr hover)
    omega
  · have := hf₁.mpr hover
    simp only [hover, false_or]
    omega

/-- **The system clock is exact but for its last second.** A reading is refused or stored exactly if
and only if it does not overflow. Of two stored readings in order the second value is not smaller
if and only if the second reading does not overflow, or the first overflows too, or the second
wraps past the first; so the values never run backwards as long as no reading overflows. -/
theorem system_clock_exact_iff (now first second : Timespec) :
    (ExactOrRefused now ↔ ¬now.Overflows) ∧
      ∀ t₁ t₂, StoredAs first t₁ → StoredAs second t₂ → first.NotAfter second →
        (t₁ ≤ t₂ ↔ ¬second.Overflows ∨ first.Overflows ∨
          first.nanoseconds + 2 ^ 64 ≤ second.nanoseconds) :=
  ⟨exactOrRefused_iff, fun _ _ h₁ h₂ h => stored_le_iff h₁ h₂ h⟩

/-- One nanosecond after the greatest value that fits, the clock stores zero. -/
theorem system_clock_wraps :
    ¬(∀ now, ExactOrRefused now) ∧
      StoredAs ⟨18446744073, 709551615⟩ 18446744073709551615 ∧
      StoredAs ⟨18446744073, 709551616⟩ 0 ∧
      Timespec.NotAfter ⟨18446744073, 709551615⟩ ⟨18446744073, 709551616⟩ := by
  refine ⟨fun h => ?_, ⟨0, by decide⟩, ⟨0, by decide⟩, Or.inr ⟨rfl, by decide⟩⟩
  exact exactOrRefused_iff.mp (h ⟨18446744073, 709551616⟩) (by decide)

end SolanaTpuClient
