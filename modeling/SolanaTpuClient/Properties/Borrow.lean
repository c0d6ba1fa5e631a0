import SolanaTpuClient.Lib.Borrow
import SolanaTpuClient.Lib.Transition
import SolanaTpuClient.Delivery.Borrow
import SolanaTpuClient.Properties.Snapshots

/-!
A refresh is an installation bracketed by a borrow.

* `UsableProvider` and `UnusableProvider`: when a refresh calls its provider, and when it does not;
* `refreshes_balanced`: along every run of refreshes whose providers have a release callback, each
  acquired topology is released before the next one is acquired;
* `refresh_brackets_installation`: a refresh does nothing, or acquires and stops, or acquires,
  installs as `clientInstallTopology` does, and releases what it acquired.
-/

namespace SolanaTpuClient

open Borrow Transition

variable {π : Type}

/-- A refresh of `client` may call the callbacks of the descriptor `d` at `provider`. -/
structure UsableProvider (client : Option Client) (provider : Option (Ref DiscoveryProvider))
    (d : DiscoveryProvider) : Prop where
  client : client ≠ none
  read : provider.map Ref.val = some d
  aligned : pointerIsAlignedFor provider 8 = true
  size : discoveryProviderMinSize ≤ d.structSize.toNat
  flags : d.flags = discoveryProviderFlagsNone
  acquire : d.acquire ≠ 0

/-- The client is null, or the descriptor is null, misaligned, too small, asks for flags or has
no `acquire`. -/
def UnusableProvider (client : Option Client) (provider : Option (Ref DiscoveryProvider)) : Prop :=
  client = none ∨ provider = none ∨ pointerIsAlignedFor provider 8 = false ∨
    ∃ d, provider.map Ref.val = some d ∧
      (d.structSize.toNat < discoveryProviderMinSize ∨ d.flags ≠ discoveryProviderFlagsNone ∨
        d.acquire = 0)

/-- A descriptor that can be read and asks for flags. -/
def AsksForFlags (client : Option Client) (provider : Option (Ref DiscoveryProvider)) : Prop :=
  client ≠ none ∧ pointerIsAlignedFor provider 8 = true ∧
    ∃ d, provider.map Ref.val = some d ∧ discoveryProviderMinSize ≤ d.structSize.toNat ∧
      d.flags ≠ discoveryProviderFlagsNone

section Provider

variable {client : Option Client} {provider : Option (Ref DiscoveryProvider)}
  {d : DiscoveryProvider}

lemma UsableProvider.validate (h : UsableProvider client provider d) :
    validateProvider client provider = .ok d := by
  obtain ⟨c, rfl⟩ := Option.ne_none_iff_exists'.mp h.client
  obtain ⟨r, rfl, rfl⟩ := Option.map_eq_some_iff.mp h.read
  have hsize : ¬ r.val.structSize.toNat < discoveryProviderMinSize := Nat.not_lt.mpr h.size
  simp [validateProvider, h.aligned, hsize, h.flags, h.acquire]

/-- A provider is refused for its flags when all that is checked before them is in order, and as
invalid otherwise. -/
lemma UnusableProvider.validate (h : UnusableProvider client provider) :
    (AsksForFlags client provider → validateProvider client provider = .error Status.unsupported) ∧
      (¬AsksForFlags client provider →
        validateProvider client provider = .error Status.invalidArgument) := by
  cases client with
  | none => simp [validateProvider, AsksForFlags]
  | some c =>
      cases provider with
      | none => simp [validateProvider, AsksForFlags]
      | some r =>
          by_cases haligned : pointerIsAlignedFor (some r) 8 = true
          · by_cases hsize : r.val.structSize.toNat < discoveryProviderMinSize
            · simp [validateProvider, AsksForFlags, haligned, hsize]
            · by_cases hflags : r.val.flags = discoveryProviderFlagsNone
              · have hacquire : r.val.acquire = 0 := by
                  simpa [UnusableProvider, haligned, hsize, hflags] using h
                simp [validateProvider, AsksForFlags, haligned, hsize, hflags, hacquire]
              · simp [validateProvider, AsksForFlags, haligned, hsize, hflags]
          · simp [validateProvider, AsksForFlags, haligned]

/-- A refresh that does not call its provider has been given one it may not call. -/
lemma unusableProvider_or_usable (client : Option Client)
    (provider : Option (Ref DiscoveryProvider)) :
    UnusableProvider client provider ∨ ∃ d, UsableProvider client provider d := by
  by_contra hnot
  obtain ⟨hun, hno⟩ := not_or.mp hnot
  simp only [UnusableProvider, not_or, not_exists, not_and] at hun
  obtain ⟨hclient, hprovider, haligned, hread⟩ := hun
  obtain ⟨r, rfl⟩ := Option.ne_none_iff_exists'.mp hprovider
  obtain ⟨hsize, hflags, hacquire⟩ := hread r.val rfl
  exact hno ⟨r.val, hclient, rfl, by simpa using haligned, Nat.not_lt.mp hsize,
    not_not.mp hflags, hacquire⟩

end Provider

/-! ### Borrows along runs -/

/-- The borrow an event takes or returns: an `acquire` that succeeds with a topology takes it, and a
`release` returns it. -/
def BorrowEvent.borrow? : BorrowEvent → Option (Borrow.Event (Ref CallerTopology))
  | .acquire _ _ status topology => if status = Status.ok then topology.map .taken else none
  | .install _ _ => none
  | .release _ _ topology => some (.returned topology)

/-- The borrows of a trace. -/
def borrows (trace : List BorrowEvent) : List (Borrow.Event (Ref CallerTopology)) :=
  trace.filterMap BorrowEvent.borrow?

/-- One refresh, by the callbacks and the descriptor pointer it is given. -/
def refreshStep (b : Borrowing π)
    (call : ProviderCallbacks π × Option (Ref (π → DiscoveryProvider))) : Status × Borrowing π :=
  refreshTopology call.1 call.2 b

/-- **A refresh with a release callback balances its borrow.** -/
lemma balanced_refresh {P : ProviderCallbacks π} {provider : Option (Ref (π → DiscoveryProvider))}
    {b : Borrowing π}
    (hrelease : ∀ d, UsableProvider b.client (descriptorAt provider b.side) d → d.release ≠ 0)
    (hb : Balanced (borrows b.trace)) :
    Balanced (borrows (refreshTopology P provider b).2.trace) := by
  rcases unusableProvider_or_usable b.client (descriptorAt provider b.side) with
    hunusable | ⟨d, husable⟩
  · obtain ⟨e, he⟩ : ∃ e, validateProvider b.client (descriptorAt provider b.side) = .error e := by
      obtain ⟨hflags, hother⟩ := hunusable.validate
      by_cases h : AsksForFlags b.client (descriptorAt provider b.side)
      · exact ⟨_, hflags h⟩
      · exact ⟨_, hother h⟩
    rwa [refreshTopology_rejected he]
  · have hvalid := husable.validate
    rcases hanswer : (b.acquire P d.acquire d.context).1 with ⟨status, topology⟩
    -- what an `acquire` without a topology adds to the trace is no borrow
    have hnone : (if status = Status.ok then topology.map Borrow.Event.taken else none) = none →
        Balanced (borrows (b.acquire P d.acquire d.context).2.trace) := by
      intro h
      have hkept : borrows (b.acquire P d.acquire d.context).2.trace = borrows b.trace := by
        simp [borrows, hanswer, BorrowEvent.borrow?, h]
      rwa [hkept]
    by_cases hok : status = Status.ok
    · subst hok
      cases topology with
      | none =>
          rw [refreshTopology_null hvalid hanswer]
          exact hnone rfl
      | some acquired =>
          rw [refreshTopology_borrowed hvalid hanswer, if_pos (hrelease d husable)]
          have hadded : borrows (((b.acquire P d.acquire d.context).2.install P acquired).2.release P
              d.release d.context acquired).trace
                = borrows b.trace ++ [.taken acquired, .returned acquired] := by
            simp [borrows, Borrowing.install, hanswer, BorrowEvent.borrow?, List.filterMap_cons]
          rw [hadded]
          exact hb.bracket acquired
    · rw [refreshTopology_failed hvalid (by rwa [hanswer])]
      exact hnone (if_neg hok)

lemma balanced_run {b : Borrowing π}
    {calls : List (ProviderCallbacks π × Option (Ref (π → DiscoveryProvider)))}
    (hrelease : ∀ e ∈ history refreshStep b calls, ∀ d,
      UsableProvider e.pre.client (descriptorAt e.input.2 e.pre.side) d → d.release ≠ 0)
    (hb : Balanced (borrows b.trace)) : Balanced (borrows (run refreshStep b calls).trace) := by
  induction calls generalizing b with
  | nil => exact hb
  | cons call calls ih =>
      rw [history_cons, List.forall_mem_cons] at hrelease
      exact ih hrelease.2 (balanced_refresh hrelease.1 hb)

/-- **Borrows are balanced along every run of refreshes** whose providers have a release callback
when they are called: each acquired topology is returned before the next one is taken, so that the
topologies returned are those taken. -/
theorem refreshes_balanced {b : Borrowing π}
    {calls : List (ProviderCallbacks π × Option (Ref (π → DiscoveryProvider)))}
    (hstart : b.trace = [])
    (hrelease : ∀ e ∈ history refreshStep b calls, ∀ d,
      UsableProvider e.pre.client (descriptorAt e.input.2 e.pre.side) d → d.release ≠ 0) :
    Balanced (borrows (run refreshStep b calls).trace) ∧
      returns (borrows (run refreshStep b calls).trace)
        = takes (borrows (run refreshStep b calls).trace) := by
  have hb : Balanced (borrows b.trace) := by
    rw [hstart]
    exact .nil
  have h := balanced_run hrelease hb
  exact ⟨h, h.returns_eq_takes⟩

/-! ### One refresh -/

/-- What the release of `topology` adds to the trace of a refresh that captured `d`. -/
def releaseEvents (d : DiscoveryProvider) (topology : Ref CallerTopology) : List BorrowEvent :=
  if d.release ≠ 0 then [.release d.release d.context topology] else []

/-- **A refresh is an installation bracketed by a borrow.** Given a client and a descriptor it may
not use it does nothing and says why. Otherwise it acquires, and stops there with the client as it
was if that fails or stores no topology; and an acquired topology is installed as
`clientInstallTopology` installs it, then released once, whatever became of the installation, with
the context and the pointer that were in the descriptor before it was acquired. -/
theorem refresh_brackets_installation (P : ProviderCallbacks π)
    (provider : Option (Ref (π → DiscoveryProvider))) (b : Borrowing π) :
    let refreshed := refreshTopology P provider b
    let descriptor := descriptorAt provider b.side
    (UnusableProvider b.client descriptor ∨ ∃ d, UsableProvider b.client descriptor d) ∧
    (UnusableProvider b.client descriptor →
      (AsksForFlags b.client descriptor → refreshed.1 = Status.unsupported) ∧
      (¬AsksForFlags b.client descriptor → refreshed.1 = Status.invalidArgument) ∧
      refreshed.2 = b) ∧
    ∀ d, UsableProvider b.client descriptor d →
      ∀ status topology side, P.acquire d.acquire d.context b.side = ((status, topology), side) →
      (status ≠ Status.ok →
        refreshed.1 = status ∧ refreshed.2.client = b.client ∧ refreshed.2.world = b.world ∧
          refreshed.2.trace = b.trace ++ [.acquire d.acquire d.context status topology]) ∧
      (status = Status.ok → topology = none →
        refreshed.1 = Status.internalError ∧ refreshed.2.client = b.client ∧
          refreshed.2.world = b.world ∧
          refreshed.2.trace = b.trace ++ [.acquire d.acquire d.context status topology]) ∧
      ∀ acquired, status = Status.ok → topology = some acquired →
        let installed := clientInstallTopology b.client (some acquired) b.world
        refreshed.1 = installed.status ∧ refreshed.2.client = installed.client ∧
          refreshed.2.world = installed.world ∧
          refreshed.2.trace = b.trace ++ ([.acquire d.acquire d.context status topology,
            .install acquired installed.status] ++ releaseEvents d acquired) := by
  refine ⟨unusableProvider_or_usable _ _, ?_, ?_⟩
  · intro hunusable
    obtain ⟨hflags, hother⟩ := hunusable.validate
    by_cases h : AsksForFlags b.client (descriptorAt provider b.side)
    · rw [refreshTopology_rejected (hflags h)]
      exact ⟨fun _ => rfl, fun hnot => absurd h hnot, rfl⟩
    · rw [refreshTopology_rejected (hother h)]
      exact ⟨fun hasks => absurd hasks h, fun _ => rfl, rfl⟩
  · intro d husable status topology side hacquire
    have hvalid := husable.validate
    have hanswer : (b.acquire P d.acquire d.context).1 = (status, topology) :=
      congrArg Prod.fst hacquire
    have htrace : (b.acquire P d.acquire d.context).2.trace
        = b.trace ++ [.acquire d.acquire d.context status topology] := by
      rw [Borrowing.acquire_trace, hanswer]
    refine ⟨?failed, ?null, ?borrowed⟩
    case failed =>
      intro hstatus
      rw [refreshTopology_failed hvalid (by rwa [hanswer])]
      exact ⟨congrArg Prod.fst hanswer, rfl, rfl, htrace⟩
    case null =>
      rintro rfl rfl
      rw [refreshTopology_null hvalid hanswer]
      exact ⟨rfl, rfl, rfl, htrace⟩
    case borrowed =>
      rintro acquired rfl rfl
      rw [refreshTopology_borrowed hvalid hanswer]
      by_cases hrelease : d.release = 0
      · simp [Borrowing.install, releaseEvents, hrelease, hanswer]
      · simp [Borrowing.install, releaseEvents, hrelease, hanswer]

/-! ### A sample provider -/

/-- A provider that clears its descriptor while a topology is acquired from it. -/
def sampleProvider : ProviderCallbacks DiscoveryProvider where
  acquire _ _ d :=
    ((Status.ok, some sampleTopology), { d with context := 0, acquire := 0, release := 0 })
  release _ _ _ d := d
  installing _ d := d

/-- A created client, before a refresh from the provider with the descriptor `d`. -/
def sampleBorrowing (d : DiscoveryProvider) : Borrowing DiscoveryProvider where
  client := some (fresh sampleDependencies).client.data
  world := World.start sampleAnswers (fresh sampleDependencies).ledger
  side := d
  trace := []

/-- The topology is released through the descriptor that was captured, and a provider that asks for
flags is not called. -/
theorem refresh_brackets_installation_sample :
    let refresh d := refreshTopology sampleProvider (some (sampleRef id)) (sampleBorrowing d)
    (refresh ⟨32, 0, 40, 48, 56⟩).1 = Status.ok ∧
      (refresh ⟨32, 0, 40, 48, 56⟩).2.side.release = 0 ∧
      (refresh ⟨32, 0, 40, 48, 56⟩).2.trace
        = [.acquire 48 40 Status.ok (some sampleTopology), .install sampleTopology Status.ok,
          .release 56 40 sampleTopology] ∧
      refresh ⟨32, 1, 40, 48, 56⟩ = (Status.unsupported, sampleBorrowing ⟨32, 1, 40, 48, 56⟩) := by
  intro refresh
  obtain ⟨-, -, hbracketed⟩ := refresh_brackets_installation sampleProvider
    (some (sampleRef id)) (sampleBorrowing ⟨32, 0, 40, 48, 56⟩)
  obtain ⟨-, -, hborrowed⟩ := hbracketed ⟨32, 0, 40, 48, 56⟩
    ⟨Option.some_ne_none _, rfl, rfl, by decide, rfl, by decide⟩ Status.ok (some sampleTopology)
    ⟨32, 0, 0, 0, 0⟩ rfl
  obtain ⟨hstatus, -, -, htrace⟩ := hborrowed sampleTopology rfl rfl
  obtain ⟨-, hrefused, -⟩ := refresh_brackets_installation sampleProvider
    (some (sampleRef id)) (sampleBorrowing ⟨32, 1, 40, 48, 56⟩)
  obtain ⟨hunsupported, -, hsame⟩ :=
    hrefused (Or.inr (Or.inr (Or.inr ⟨_, rfl, Or.inr (Or.inl (by decide))⟩)))
  refine ⟨hstatus, rfl, htrace, Prod.ext (hunsupported ?_) hsame⟩
  exact ⟨Option.some_ne_none _, rfl, _, rfl, by decide, by decide⟩

end SolanaTpuClient
