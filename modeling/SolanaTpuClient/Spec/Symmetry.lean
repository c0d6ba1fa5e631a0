import SolanaTpuClient.Spec.Service

/-!
What the service does not look at.

The service decides without reading the bytes of a transaction, and it compares times only with each
other. So putting other bytes in place of those of every transaction and moving every reading of the
clock by the same delay changes no decision: the replies are the same, their events moved by the
delay (`relabel_simulates`). The delay must not carry a reading over the end of its 64 bits.
-/

namespace SolanaTpuClient

open Transition

/-- Other bytes for every transaction and a delay for every time. -/
structure Relabelling where
  rename : List UInt8 → List UInt8
  delay : UInt64

namespace Relabelling

variable (ρ : Relabelling)

/-- A time, later. -/
def time (t : UInt64) : UInt64 := t + ρ.delay

/-- A time that can be delayed. -/
def Fits (t : UInt64) : Prop := t.toNat + ρ.delay.toNat < 2 ^ 64

def installation (i : Installation) : Installation := { i with receivedNs := ρ.time i.receivedNs }

def acceptance (a : Acceptance) : Acceptance :=
  { a with transaction := ρ.rename a.transaction, acceptedNs := ρ.time a.acceptedNs }

def submission (r : Submission) : Submission := { r with transaction := ρ.rename r.transaction }

def event (e : Event) : Event := { e with monotonicTimeNs := ρ.time e.monotonicTimeNs }

def command : Command → Command
  | .install offer memory clock => .install offer memory (ρ.time <$> clock)
  | .submit request memory admission commit =>
      .submit (ρ.submission <$> request) memory (ρ.time <$> admission) (ρ.time <$> commit)
  | .poll capacity => .poll capacity

def reply : Reply → Reply
  | .installed status => .installed status
  | .submitted status requestId => .submitted status requestId
  | .polled status events => .polled status (events.map ρ.event)

/-- The readings of a command can be delayed. -/
def FitsCommand : Command → Prop
  | .install _ _ clock => ∀ t, clock = .ok t → ρ.Fits t
  | .submit _ _ admission commit =>
      (∀ t, admission = .ok t → ρ.Fits t) ∧ ∀ t, commit = .ok t → ρ.Fits t
  | .poll _ => True

/-- A service, relabelled. -/
def service (v : Service) : Service where
  installed := v.installed.map ρ.installation
  log := v.log.map ρ.acceptance
  delivered := v.delivered
  delivered_le := by rw [List.length_map]; exact v.delivered_le
  waiting_le := by rw [List.length_map]; exact v.waiting_le
  log_lt := by rw [List.length_map]; exact v.log_lt

variable {ρ} {v : Service} {i : Installation} {a : Acceptance} {n : ℕ}

/-! ### Times -/

lemma Fits.toNat {t : UInt64} (h : ρ.Fits t) : (ρ.time t).toNat = t.toNat + ρ.delay.toNat := by
  rw [time, UInt64.toNat_add, Nat.mod_eq_of_lt h]

lemma time_lt_iff {t u : UInt64} (ht : ρ.Fits t) (hu : ρ.Fits u) :
    ρ.time t < ρ.time u ↔ t < u := by
  rw [UInt64.lt_iff_toNat_lt, UInt64.lt_iff_toNat_lt, ht.toNat, hu.toNat]
  omega

lemma time_sub {t u : UInt64} : ρ.time t - ρ.time u = t - u := by
  simp only [time, ← UInt64.toBitVec_inj, UInt64.toBitVec_sub, UInt64.toBitVec_add]
  bv_omega

/-- A reading is late or in time as before. -/
lemma now_installation {clock : Except Status UInt64} (hi : ρ.Fits i.receivedNs)
    (hclock : ∀ t, clock = .ok t → ρ.Fits t) :
    (ρ.installation i).now (ρ.time <$> clock) = ρ.time <$> i.now clock := by
  cases clock with
  | error e => rfl
  | ok t =>
      have hlt : ρ.time t < ρ.time i.receivedNs ↔ t < i.receivedNs := time_lt_iff (hclock t rfl) hi
      simp only [Installation.now, installation, Except.map_ok, bind, Except.bind, hlt]
      split_ifs <;> rfl

/-! ### The log -/

lemma hasRoom_iff : (ρ.service v).HasRoom ↔ v.HasRoom := by
  simp only [Service.HasRoom, service, List.length_map]

lemma service_record : ρ.service (v.record a) = (ρ.service v).record (ρ.acceptance a) := by
  by_cases h : v.HasRoom
  · rw [Service.record, dif_pos h, Service.record, dif_pos (hasRoom_iff.mpr h)]
    simp [service]
  · rw [Service.record, dif_neg h, Service.record, dif_neg (mt hasRoom_iff.mp h)]

lemma service_deliver : ρ.service (v.deliver n) = (ρ.service v).deliver n := by
  simp [service, Service.deliver]

lemma events_service : (ρ.service v).events = v.events.map ρ.event := by
  rw [Service.events, Service.events, service, List.zipIdx_map, List.map_map, List.map_map]
  rfl

lemma waiting_service : (ρ.service v).waiting = v.waiting.map ρ.event := by
  rw [Service.waiting, Service.waiting, events_service, List.map_drop]
  rfl

/-! ### Decisions -/

lemma accepts_iff {generation : UInt64} :
    (ρ.service v).Accepts generation ↔ v.Accepts generation := by
  simp [Service.Accepts, service, installation]

lemma receive_service (offer : Except Status Snapshot) (memory : ℕ → Bool)
    (clock : Except Status UInt64) :
    (ρ.service v).receive offer memory (ρ.time <$> clock)
      = ρ.installation <$> v.receive offer memory clock := by
  cases offer with
  | error e => rfl
  | ok S =>
      simp only [Service.receive, accepts_iff, bind, Except.bind]
      by_cases hgeneration : v.Accepts S.generation
      · simp only [hgeneration, not_true, if_false]
        split_ifs
        · rfl
        · cases clock <;> rfl
      · simp only [hgeneration, not_false_eq_true, if_true, Except.map_error]

lemma settle_service {fits : Bool} {now : Except Status UInt64} {f g : UInt64 → Acceptance}
    (hfg : ∀ t, g (ρ.time t) = ρ.acceptance (f t)) :
    (ρ.service v).settle fits (ρ.time <$> now) g = ρ.acceptance <$> v.settle fits now f := by
  simp only [Service.settle, hasRoom_iff]
  split_ifs
  · rfl
  · cases now with
    | error e => rfl
    | ok t => exact congrArg Except.ok (hfg t)

lemma assess_service (hv : ∀ i ∈ v.installed, ρ.Fits i.receivedNs)
    (request : Except Status Submission) (memory : ℕ → ℕ → Bool)
    {admission commit : Except Status UInt64} (hadmission : ∀ t, admission = .ok t → ρ.Fits t)
    (hcommit : ∀ t, commit = .ok t → ρ.Fits t) :
    (ρ.service v).assess (ρ.submission <$> request) memory (ρ.time <$> admission)
        (ρ.time <$> commit)
      = ρ.acceptance <$> v.assess request memory admission commit := by
  cases request with
  | error e => rfl
  | ok r =>
    cases hinstalled : v.installed with
    | none => simp [Service.assess, Service.current, service, hinstalled, bind, Except.bind]
    | some i =>
      have hi : ρ.Fits i.receivedNs := hv i (by simp [hinstalled])
      have hnow := now_installation hi hadmission
      have hlate := now_installation hi hcommit
      have hcurrent : (ρ.service v).current = .ok (ρ.installation i) := by
        simp [Service.current, service, hinstalled]
      have hcurrent' : v.current = .ok i := by simp [Service.current, hinstalled]
      simp only [Service.assess, bind, Except.bind, Except.map_ok, hcurrent, hcurrent', hnow, hlate]
      cases i.now admission with
      | error e => rfl
      | ok now =>
        simp only [Except.map_ok, installation, submission, time_sub]
        by_cases hstale : r.maxTopologyAgeNs < now - i.receivedNs
        · simp only [hstale, if_true, Except.map_error]
        by_cases hr : i.snapshot.Routable i.snapshot.currentSlot
        · simp only [hstale, hr, not_true, if_false]
          exact settle_service fun _ => rfl
        · simp only [hstale, hr, not_false_eq_true, if_false, if_true, Except.map_error]

/-- The service before and after a relabelling, no time of which is delayed beyond its end. -/
structure Related (ρ : Relabelling) (v v' : Service) : Prop where
  service : v' = ρ.service v
  fits : ∀ i ∈ v.installed, ρ.Fits i.receivedNs

/-- **Relabelling changes no decision.** Commands whose transactions have other bytes and whose
readings of the clock come later, all by the same delay, are answered alike, up to the times of the
events. -/
theorem relabel_simulates (ρ : Relabelling) :
    SimulatesOn ρ.FitsCommand Service.step Service.step ρ.command (fun _ => ρ.reply)
      ρ.Related := by
  rintro v v' command hfits ⟨rfl, hv⟩
  cases command with
  | install offer memory clock =>
      have hreceive : (ρ.service v).receive offer memory (ρ.time <$> clock) = _ :=
        receive_service offer memory clock
      simp only [Relabelling.command, Service.step, hreceive]
      cases hcase : v.receive offer memory clock with
      | error e => exact ⟨rfl, rfl, hv⟩
      | ok i =>
          refine ⟨rfl, rfl, fun j hj => ?_⟩
          obtain rfl := Option.mem_some_iff.mp hj
          exact hfits _ (Service.clock_of_receive hcase).2
  | submit request memory admission commit =>
      have hassess := assess_service hv request memory hfits.1 hfits.2
      simp only [Relabelling.command, Service.step, hassess]
      cases hcase : v.assess request memory admission commit with
      | error e => exact ⟨rfl, rfl, hv⟩
      | ok a =>
          refine ⟨by simp [reply, service], service_record.symm, ?_⟩
          rwa [Service.record_installed]
  | poll capacity =>
      cases capacity with
      | error e => exact ⟨rfl, rfl, hv⟩
      | ok n =>
          refine ⟨?_, service_deliver.symm, hv⟩
          simp only [Relabelling.command, Service.step, reply, waiting_service, List.map_take]

end Relabelling

end SolanaTpuClient
