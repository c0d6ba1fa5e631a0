import SolanaTpuClient.Lib.Coupling
import SolanaTpuClient.Spec.DocumentedTopology
import SolanaTpuClient.Properties.Snapshots
import SolanaTpuClient.Properties.Validation

/-!
Records longer than the known prefix.

An installation copies the known prefix of every record, from the stride of the caller to the native
one (`OwnedTopology.PrefixOf`), and reads nothing else: two valid topologies whose known fields
agree, declared sizes apart (`CallerTopology.AgreeOnPrefix`), cannot be told apart by installing
them. The two builds are run side by side; their arrays differ in the declared sizes only
(`Alike`), which the normalization overwrites.
-/

namespace SolanaTpuClient

open ByteMemory Procedure Transition

/-! ### The known prefix -/

/-- The `n` bytes a record of known size `n` has in a strided array. -/
def prefixAt (m : Bytes) (stride : UInt32) (i n : ℕ) : Bytes := ofList (slice m (i * stride.toNat) n)

/-- The arrays of an owned topology hold the known prefixes of the records of `t`, in order, each
with the native size as its declared size. -/
structure OwnedTopology.PrefixOf (o : OwnedTopology) (t : CallerTopology) : Prop where
  generation : o.view.generation = t.view.generation
  currentSlot : o.view.currentSlot = t.view.currentSlot
  validatorCount : o.view.validatorCount = t.view.validatorCount
  endpointCount : o.view.endpointCount = t.view.endpointCount
  validatorEndpointCount : o.view.validatorEndpointCount = t.view.validatorEndpointCount
  leaderCount : o.view.leaderCount = t.view.leaderCount
  validators : ∀ i < t.view.validatorCount.toNat, o.validator i =
    { Validator.decode (prefixAt t.memory.validators t.view.validatorStride i Validator.size) with
      structSize := UInt32.ofNat Validator.size }
  endpoints : ∀ i < t.view.endpointCount.toNat, o.endpoint i =
    { Endpoint.decode (prefixAt t.memory.endpoints t.view.endpointStride i Endpoint.size) with
      structSize := UInt32.ofNat Endpoint.size }
  validatorEndpoints : ∀ i < t.view.validatorEndpointCount.toNat, o.validatorEndpoint i =
    { ValidatorEndpoint.decode (prefixAt t.memory.validatorEndpoints
        t.view.validatorEndpointStride i ValidatorEndpoint.size) with
      structSize := UInt32.ofNat ValidatorEndpoint.size }
  leaders : ∀ i < t.view.leaderCount.toNat, o.leader i =
    { Leader.decode (prefixAt t.memory.leaders t.view.leaderStride i Leader.size) with
      structSize := UInt32.ofNat Leader.size }

/-- Two topologies agree on all that is known of them but the declared sizes. Nothing is said of
their array addresses, their strides and the bytes after the known prefixes. -/
structure CallerTopology.AgreeOnPrefix (t u : CallerTopology) : Prop where
  generation : t.view.generation = u.view.generation
  currentSlot : t.view.currentSlot = u.view.currentSlot
  validatorCount : t.view.validatorCount = u.view.validatorCount
  endpointCount : t.view.endpointCount = u.view.endpointCount
  validatorEndpointCount : t.view.validatorEndpointCount = u.view.validatorEndpointCount
  leaderCount : t.view.leaderCount = u.view.leaderCount
  validators : ∀ i < t.view.validatorCount.toNat,
    { t.validatorAt i with structSize := 0 } = { u.validatorAt i with structSize := 0 }
  endpoints : ∀ i < t.view.endpointCount.toNat,
    { t.endpointAt i with structSize := 0 } = { u.endpointAt i with structSize := 0 }
  validatorEndpoints : ∀ i < t.view.validatorEndpointCount.toNat,
    { t.validatorEndpointAt i with structSize := 0 }
      = { u.validatorEndpointAt i with structSize := 0 }
  leaders : ∀ i < t.view.leaderCount.toNat,
    { t.leaderAt i with structSize := 0 } = { u.leaderAt i with structSize := 0 }

/-! ### What is copied -/

variable {o : OwnedTopology} {t u : CallerTopology}

lemma prefixAt_eq (m : Bytes) (stride : UInt32) (i : ℕ) {n j : ℕ} (hj : j < n) :
    prefixAt m stride i n j = recordAt m stride i j := ofList_slice m hj

/-- A copy of a documented topology holds the known prefixes of its records. -/
theorem OwnedTopology.CopyOf.prefixOf (h : o.CopyOf t) (hframe : t.FrameDocumented) :
    o.PrefixOf t where
  generation := by rw [h.view]; rfl
  currentSlot := by rw [h.view]; rfl
  validatorCount := by rw [h.view]; rfl
  endpointCount := by rw [h.view]; rfl
  validatorEndpointCount := by rw [h.view]; rfl
  leaderCount := by rw [h.view]; rfl
  validators := by
    intro i hi
    rw [h.validator hi, hframe.validator_eq hi, CallerTopology.validatorAt,
      Validator.decode_of_tail fun j _ hj => (prefixAt_eq _ _ _ hj).symm]
  endpoints := by
    intro i hi
    rw [h.endpoint hi, hframe.endpoint_eq hi, CallerTopology.endpointAt,
      Endpoint.decode_of_tail fun j _ hj => (prefixAt_eq _ _ _ hj).symm]
  validatorEndpoints := by
    intro i hi
    rw [h.validatorEndpoint hi, hframe.validatorEndpoint_eq hi, CallerTopology.validatorEndpointAt,
      ValidatorEndpoint.decode_of_tail fun j _ hj => (prefixAt_eq _ _ _ hj).symm]
  leaders := by
    intro i hi
    rw [h.leader hi, hframe.leader_eq hi, CallerTopology.leaderAt,
      Leader.decode_of_tail fun j _ hj => (prefixAt_eq _ _ _ hj).symm]

/-! ### Two builds side by side -/

variable {source source' : Bytes} {count stride stride' : UInt32} {n : ℕ}

lemma nativeElements_congr (hn : 4 ≤ n)
    (h : ∀ i < count.toNat, ∀ j, 4 ≤ j → j < n →
      arrayElement wordBits source i stride j = arrayElement wordBits source' i stride' j) :
    nativeElements source count stride n = nativeElements source' count stride' n := by
  refine List.map_congr_left fun i hi => ?_
  have htail := h i (List.mem_range.mp hi)
  rw [OutputBuffer.patch, OutputBuffer.patch]
  congr 1
  refine List.ext_getElem (by simp) fun k h1 h2 => ?_
  simp only [List.length_drop, slice_length, leBytes_length] at h1
  simp only [List.getElem_drop, leBytes_length, slice, List.getElem_map, List.getElem_range]
  exact htail _ (by omega) (by omega)

/-- Two copies of arrays whose known prefixes agree, the size fields apart, become the same when
the size fields are rewritten. -/
lemma coupled_cloneArray {allocator : Allocator} {w : World} (hn : 4 ≤ n)
    (h : nativeElements source count stride n = nativeElements source' count stride' n) :
    Coupled (cloneArray allocator source count stride n) w
      (cloneArray allocator source' count stride' n) w
      (fun p q v v' => setStructSizes p count n = setStructSizes q count n ∧ v = v') Eq := by
  refine coupled_require_bind Iff.rfl rfl fun _ => ?_
  by_cases hcount : count = 0
  · rw [if_pos hcount, if_pos hcount]
    exact coupled_pure ⟨rfl, rfl⟩
  rw [if_neg hcount, if_neg hcount]
  refine coupled_require_bind Iff.rfl rfl fun _ => ?_
  cases hw : w.answers.calloc w.callocCalls with
  | none =>
      have hcalloc : World.calloc (List.replicate (count.toNat * n) (0 : UInt8)) w = _ :=
        World.calloc_of_none hw
      exact coupled_of_error (bind_of_ok hcalloc) (bind_of_ok hcalloc) rfl
  | some addr =>
      have hcalloc : World.calloc (List.replicate (count.toNat * n) (0 : UInt8)) w = _ :=
        World.calloc_of_some hw
      refine coupled_of_ok (bind_of_ok hcalloc) (bind_of_ok hcalloc) ⟨?_, rfl⟩
      have hholds : ∀ source stride, Block.contents (setStructSizes
          (some ⟨w.ledger.next, addr, copyElements source count stride n
            (List.replicate (count.toNat * n) 0)⟩) count n)
          = (nativeElements source count stride n).flatten := by
        intro source stride
        have hcopy : HoldsArray (some ⟨w.ledger.next, addr, copyElements source count stride n
            (List.replicate (count.toNat * n) 0)⟩) count
            (elementPrefixes source count stride n) :=
          ⟨copyElements_eq, by simpa using hcount⟩
        exact (hcopy.setStructSizes hn).contents
      have hdata := (hholds source stride).trans (h ▸ (hholds source' stride').symm)
      simpa [setStructSizes] using hdata

/-- Two frames of a build that the normalization makes the same. -/
structure BuildFrame.Alike (counts : Topology) (f g : BuildFrame) : Prop where
  world : f.world = g.world
  view : f.owned.view = g.owned.view
  received : f.owned.receivedMonotonicNs = g.owned.receivedMonotonicNs
  validators : setStructSizes f.owned.validators counts.validatorCount Validator.size
    = setStructSizes g.owned.validators counts.validatorCount Validator.size
  endpoints : setStructSizes f.owned.endpoints counts.endpointCount Endpoint.size
    = setStructSizes g.owned.endpoints counts.endpointCount Endpoint.size
  validatorEndpoints :
    setStructSizes f.owned.validatorEndpoints counts.validatorEndpointCount ValidatorEndpoint.size
      = setStructSizes g.owned.validatorEndpoints counts.validatorEndpointCount ValidatorEndpoint.size
  leaders : setStructSizes f.owned.leaders counts.leaderCount Leader.size
    = setStructSizes g.owned.leaders counts.leaderCount Leader.size

namespace BuildFrame.Alike

variable {counts : Topology} {f g : BuildFrame}

/-- The cleanup of a failed build does the same to both. -/
lemma release (h : f.Alike counts g) (allocator : Allocator) :
    ownedTopologyRelease allocator f.owned f.world
      = ownedTopologyRelease allocator g.owned g.world := by
  have hid : ∀ {p q : Option (Block (List UInt8))} {count : UInt32} {n : ℕ},
      setStructSizes p count n = setStructSizes q count n → Block.idOf p = Block.idOf q := by
    intro p q count n hpq
    rw [← idOf_setStructSizes p, hpq, idOf_setStructSizes]
  rw [ownedTopologyRelease, ownedTopologyRelease, h.world, hid h.validators, hid h.endpoints,
    hid h.validatorEndpoints, hid h.leaders]

/-- The view and the rewritten sizes make the frames equal. -/
lemma normalize (h : f.Alike t.view g) (hagree : t.AgreeOnPrefix u) :
    normalizeOwnedStructSizes { f.owned with view := ownedView f.owned t.view }
      = normalizeOwnedStructSizes { g.owned with view := ownedView g.owned u.view } := by
  have haddr : ∀ {p q : Option (Block (List UInt8))} {count : UInt32} {n : ℕ},
      setStructSizes p count n = setStructSizes q count n → Block.addrOf p = Block.addrOf q := by
    intro p q count n hpq
    rw [← addrOf_setStructSizes p, hpq, addrOf_setStructSizes]
  simp only [normalizeOwnedStructSizes, ownedView, ← hagree.generation, ← hagree.currentSlot,
    ← hagree.validatorCount, ← hagree.endpointCount, ← hagree.validatorEndpointCount,
    ← hagree.leaderCount, h.view, h.received, h.validators, h.endpoints, h.validatorEndpoints,
    h.leaders, haddr h.validators, haddr h.endpoints, haddr h.validatorEndpoints, haddr h.leaders]

end BuildFrame.Alike

/-- One array copy on both sides, `store` being the assignment of the copy to a field. -/
lemma coupled_buildCopy {allocator : Allocator} {counts : Topology} {f g : BuildFrame}
    {rest rest' : EStateM Status BuildFrame PUnit} (hn : 4 ≤ n) (hfg : f.Alike counts g)
    (h : nativeElements source count stride n = nativeElements source' count stride' n)
    (store : Option (Block (List UInt8)) → OwnedTopology → OwnedTopology)
    (hrest : ∀ p q v, setStructSizes p count n = setStructSizes q count n →
      Coupled rest ⟨store p f.owned, v⟩ rest' ⟨store q g.owned, v⟩ (fun _ _ f g => f = g)
        (BuildFrame.Alike counts)) :
    Coupled (do
        let copy ← BuildFrame.onWorld (cloneArray allocator source count stride n)
        modify fun f => { f with owned := store copy f.owned }
        rest) f
      (do
        let copy ← BuildFrame.onWorld (cloneArray allocator source' count stride' n)
        modify fun f => { f with owned := store copy f.owned }
        rest') g (fun _ _ f g => f = g) (BuildFrame.Alike counts) := by
  have hclone : Coupled (cloneArray allocator source count stride n) f.world
      (cloneArray allocator source' count stride' n) g.world
      (fun p q v v' => setStructSizes p count n = setStructSizes q count n ∧ v = v') Eq := by
    rw [← hfg.world]
    exact coupled_cloneArray hn h
  have hzoom : Coupled (BuildFrame.onWorld (cloneArray allocator source count stride n)) f
      (BuildFrame.onWorld (cloneArray allocator source' count stride' n)) g
      (fun p q f' g' => setStructSizes p count n = setStructSizes q count n ∧
        ∃ v, f' = { f with world := v } ∧ g' = { g with world := v })
      (BuildFrame.Alike counts) := by
    refine hclone.zoom ?_ ?_
    · rintro p q v v' ⟨hpq, rfl⟩
      exact ⟨hpq, v, rfl, rfl⟩
    · rintro v v' rfl
      exact { hfg with world := rfl }
  refine hzoom.bind ?_
  rintro p q - - - ⟨hpq, v, rfl, rfl⟩
  exact coupled_modify_bind (hrest p q v hpq)

/-- Arrays whose records agree past the size field have the same native elements. -/
lemma nativeElements_of_records {base base' : Addr} {align : ℕ} (hn : 4 ≤ n)
    (hbase : ArrayDocumented base count stride n align)
    (hbase' : ArrayDocumented base' count stride' n align)
    (h : ∀ i < count.toNat, ∀ j, 4 ≤ j → j < n →
      recordAt source stride i j = recordAt source' stride' i j) :
    nativeElements source count stride n = nativeElements source' count stride' n := by
  refine nativeElements_congr hn fun i hi j h4 hj => ?_
  rw [hbase.arrayElement_eq source hi, hbase'.arrayElement_eq source' hi]
  exact h i hi j h4 hj

/-- **Two builds** from topologies that agree on the known prefixes of their records do the same. -/
theorem buildOwnedTopology_congr (ht : t.FrameDocumented) (hu : u.FrameDocumented)
    (h : t.AgreeOnPrefix u) (allocator : Allocator) :
    buildOwnedTopology allocator t = buildOwnedTopology allocator u := by
  have hv := nativeElements_of_records (by decide) ht.validatorArray
    (h.validatorCount ▸ hu.validatorArray) fun i hi => Validator.tail_of_decode (h.validators i hi)
  have he := nativeElements_of_records (by decide) ht.endpointArray
    (h.endpointCount ▸ hu.endpointArray) fun i hi => Endpoint.tail_of_decode (h.endpoints i hi)
  have ha := nativeElements_of_records (by decide) ht.validatorEndpointArray
    (h.validatorEndpointCount ▸ hu.validatorEndpointArray)
    fun i hi => ValidatorEndpoint.tail_of_decode (h.validatorEndpoints i hi)
  have hl := nativeElements_of_records (by decide) ht.leaderArray
    (h.leaderCount ▸ hu.leaderArray) fun i hi => Leader.tail_of_decode (h.leaders i hi)
  have hbody : ∀ f : BuildFrame, Coupled (buildOwnedTopologyBody allocator t) f
      (buildOwnedTopologyBody allocator u) f (fun _ _ f g => f = g)
      (BuildFrame.Alike t.view) := by
    intro f
    unfold buildOwnedTopologyBody
    rw [← h.validatorCount, ← h.endpointCount, ← h.validatorEndpointCount, ← h.leaderCount]
    refine coupled_buildCopy (by decide) ?_ hv (fun p o => { o with validators := p })
      fun p₁ q₁ v₁ h₁ => ?_
    · exact ⟨rfl, rfl, rfl, rfl, rfl, rfl, rfl⟩
    refine coupled_buildCopy (by decide) ?_ he (fun p o => { o with endpoints := p })
      fun p₂ q₂ v₂ h₂ => ?_
    · exact ⟨rfl, rfl, rfl, h₁, rfl, rfl, rfl⟩
    refine coupled_buildCopy (by decide) ?_ ha (fun p o => { o with validatorEndpoints := p })
      fun p₃ q₃ v₃ h₃ => ?_
    · exact ⟨rfl, rfl, rfl, h₁, h₂, rfl, rfl⟩
    refine coupled_buildCopy (by decide) ?_ hl (fun p o => { o with leaders := p })
      fun p₄ q₄ v₄ h₄ => ?_
    · exact ⟨rfl, rfl, rfl, h₁, h₂, h₃, rfl⟩
    refine coupled_modify_bind (coupled_of_ok modify_apply modify_apply ?_)
    have halike : BuildFrame.Alike t.view
        ⟨⟨f.owned.view, p₁, p₂, p₃, p₄, f.owned.receivedMonotonicNs⟩, v₄⟩
        ⟨⟨f.owned.view, q₁, q₂, q₃, q₄, f.owned.receivedMonotonicNs⟩, v₄⟩ :=
      ⟨rfl, rfl, rfl, h₁, h₂, h₃, h₄⟩
    exact congrArg (fun o => BuildFrame.mk o v₄) (halike.normalize h)
  funext w
  unfold buildOwnedTopology
  by_cases hvalid : allocatorIsValid (some allocator) = false
  · rw [if_pos hvalid, if_pos hvalid]
  rw [if_neg hvalid, if_neg hvalid]
  rcases (hbody ⟨OwnedTopology.zero, w⟩).cases with
    ⟨_, _, f, _, hx, hy, rfl⟩ | ⟨e, f, g, hx, hy, halike⟩
  · simp only [hx, hy]
  · simp only [hx, hy, halike.release allocator]

/-! ### Installations -/

lemma documented_of_valid {r : Ref CallerTopology} (h : topologyValidate (some r) = .ok ()) :
    r.val.Documented := by
  obtain ⟨r', hr', -, hchecked⟩ := topologyValidate_eq_ok.mp h
  obtain rfl := Option.some.inj hr'
  exact checked_iff_documented.mp hchecked

/-- Installing either of two valid topologies that agree on the known prefixes is the same
procedure. -/
lemma installTopology_congr {r r' : Ref CallerTopology} (hr : topologyValidate (some r) = .ok ())
    (hr' : topologyValidate (some r') = .ok ()) (h : r.val.AgreeOnPrefix r'.val) :
    installTopology (some r) = installTopology (some r') := by
  have hbuild := buildOwnedTopology_congr (documented_of_valid hr).toFrameDocumented
    (documented_of_valid hr').toFrameDocumented h
  simp only [installTopology, hr, hr', hbuild]
  rw [h.generation]

/-- A successful installation on a well-formed client leaves the known prefixes of its argument. -/
lemma prefixOf_of_installed {s : State} (hs : s.WellFormed) {r : Ref CallerTopology}
    {answers : Answers}
    (h : (step s (.installTopology .self (some r) answers)).1 = .installed Status.ok) :
    (step s (.installTopology .self (some r) answers)).2.client.data.topology.PrefixOf r.val := by
  obtain ⟨hvalid, hreplaced⟩ := replaced_of_installed hs h
  exact hreplaced.copy.prefixOf (documented_of_valid hvalid).toFrameDocumented

/-- **An installation reads the known prefixes and nothing else.** A successful installation in a
reachable state leaves, for every record in order, what its known prefix in the caller's array
decodes to, with the native declared size, and the generation and current slot of the argument. And
in any state, installing either of two valid topologies that agree on their known fields, whatever
their strides, declared sizes, addresses and further bytes, is one and the same step, so that
everything that follows is the same too. -/
theorem installation_reads_known_prefix :
    (∀ d ops r answers,
      let s := run step (fresh d) ops
      (step s (.installTopology .self (some r) answers)).1 = .installed Status.ok →
      (step s (.installTopology .self (some r) answers)).2.client.data.topology.PrefixOf r.val) ∧
    ∀ s handle r r' answers, topologyValidate (some r) = .ok () →
      topologyValidate (some r') = .ok () → r.val.AgreeOnPrefix r'.val →
      let op := Op.installTopology handle (some r) answers
      let op' := Op.installTopology handle (some r') answers
      step s op = step s op' ∧
        ∀ ops, history step (step s op).2 ops = history step (step s op').2 ops ∧
          run step (step s op).2 ops = run step (step s op').2 ops := by
  refine ⟨fun d ops r answers => prefixOf_of_installed (wellFormed_run d ops), ?_⟩
  intro s handle r r' answers hr hr' hagree op op'
  have hstep : step s op = step s op' := by
    simp only [op, op', step, clientInstallTopology, installTopology_congr hr hr' hagree]
  exact ⟨hstep, fun ops => by rw [hstep]; exact ⟨rfl, rfl⟩⟩

/-- The longer records of the sample schedule agree with the native ones on what is known. -/
lemma agreeOnPrefix_sample : sampleExtended.val.AgreeOnPrefix sampleNative.val where
  generation := rfl
  currentSlot := rfl
  validatorCount := rfl
  endpointCount := rfl
  validatorEndpointCount := rfl
  leaderCount := rfl
  validators := by decide +kernel
  endpoints := by decide +kernel
  validatorEndpoints := by decide +kernel
  leaders := by decide +kernel

/-- The strides of the two differ, and so do the bytes. -/
theorem installation_reads_known_prefix_sample :
    let s := fresh sampleDependencies
    let install t := Op.installTopology .self (some t) sampleAnswers
    sampleExtended.val.view.leaderStride = 40 ∧ sampleNative.val.view.leaderStride = 32 ∧
      sampleExtended.val.memory.leaders 32 ≠ sampleNative.val.memory.leaders 32 ∧
      (step s (install sampleExtended)).1 = .installed Status.ok ∧
      (step s (install sampleExtended)).2.client.data.topology.PrefixOf sampleExtended.val ∧
      step s (install sampleExtended) = step s (install sampleNative) := by
  intro s install
  obtain ⟨hknown, hsame⟩ := installation_reads_known_prefix
  exact ⟨rfl, rfl, by decide, rfl, hknown sampleDependencies [] sampleExtended sampleAnswers rfl,
    (hsame s .self sampleExtended sampleNative sampleAnswers rfl rfl agreeOnPrefix_sample).1⟩

end SolanaTpuClient
