import SolanaTpuClient.Delivery.Internal

/-!
The admission check of `src/solana_delivery_admission.c`: a topology is installed and, by the
clock, not older than the policy allows.
-/

namespace SolanaTpuClient

open Procedure

/-- `solana_delivery_client_evaluate_submission_policy` -/
def evaluateSubmissionPolicy (client : Option Client) (policy : Option SubmissionPolicy) :
    EStateM Status World PUnit :=
  match client, policy with
  | some c, some p => do
      require (¬(p.maxTopologyAgeNs = 0 ∨ p.targetLimit = 0)) Status.invalidArgument
      require (c.hasTopology = true) Status.topologyUnavailable
      let now ← World.monotonicTime
      require (¬ now < c.topology.receivedMonotonicNs) Status.internalError
      let topologyAge := now - c.topology.receivedMonotonicNs
      require (¬ topologyAge > p.maxTopologyAgeNs) Status.topologyStale
  | _, _ => throw Status.invalidArgument

/-- The stages of an admission, `sample` being what the clock answers. -/
def admissionStages (c : Client) (maxTopologyAgeNs : UInt64) (sample : ClockAnswer) :
    List (Bool × Status) :=
  [(c.hasTopology, Status.topologyUnavailable), World.clockStage sample,
    (decide (c.topology.receivedMonotonicNs ≤ sample.timeNs), Status.internalError),
    (decide (sample.timeNs - c.topology.receivedMonotonicNs ≤ maxTopologyAgeNs),
      Status.topologyStale)]

/-- **An admission** under a policy whose fields are not zero reads the clock at most once and
changes nothing. -/
theorem decides_evaluateSubmissionPolicy {c : Client} {p : SubmissionPolicy} {w : World}
    (hage : p.maxTopologyAgeNs ≠ 0) (hlimit : p.targetLimit ≠ 0) :
    Decides (evaluateSubmissionPolicy (some c) (some p)) w
      (admissionStages c p.maxTopologyAgeNs (w.answers.clock w.clockCalls))
      (fun _ w' => c.hasTopology = true ∧ w' = w.clockRead)
      (fun w' => w'.ledger = w.ledger) := by
  refine decides_require_of (not_or.mpr ⟨hage, hlimit⟩) ?_
  refine decides_require_bind Iff.rfl (fun _ => rfl) fun htop => ?_
  refine World.decides_monotonicTime.bind (r := [_, _]) ?_
  rintro now w' ⟨rfl, rfl⟩
  refine decides_require_bind (by simp) (fun _ => rfl) fun _ => ?_
  exact decides_require (by simp) (fun _ => rfl) fun _ => ⟨htop, rfl⟩

end SolanaTpuClient
