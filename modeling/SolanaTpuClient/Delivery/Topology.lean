import SolanaTpuClient.Delivery.Internal

/-!
The owned topology of `src/solana_delivery.c`: copying a caller topology, releasing one, and the
life of a client from creation over installation to destruction.

A function that leaves through a shared `fail:` label is a procedure over its stack frame
(`BuildFrame`), wrapped by the function that runs the cleanup. `ensures_buildOwnedTopology` says
what a build leaves: a copy of the source in the native layout (`OwnedTopology.CopyOf`) with its
blocks owned, or nothing.
-/

namespace SolanaTpuClient

open ByteMemory OutputBuffer Procedure

/-! ### Release -/

/-- `owned_topology_release`, without the `memset` of the record that is discarded. -/
def ownedTopologyRelease (allocator : Allocator) (owned : OwnedTopology) (w : World) : World :=
  if allocatorIsValid (some allocator) = false then w
  else
    (((w.free (Block.idOf owned.validators)).free (Block.idOf owned.endpoints)).free
      (Block.idOf owned.validatorEndpoints)).free (Block.idOf owned.leaders)

/-- One round of the loop of `owned_requests_release`. -/
def ownedRequestRelease (w : World) (request : Block OwnedRequest) : World :=
  ((w.free (Block.idOf request.data.transactionBytes)).free (Block.idOf request.data.targets)).free
    (some request.id)

/-- `owned_requests_release` -/
def ownedRequestsRelease (allocator : Allocator) (head : List (Block OwnedRequest)) (w : World) :
    World :=
  if allocatorIsValid (some allocator) = false then w else head.foldl ownedRequestRelease w

/-! ### Copying -/

/-- The copy loop of `clone_array`. -/
def copyElements (source : Bytes) (count sourceStride : UInt32) (elementSize : ℕ)
    (copy : List UInt8) : List UInt8 :=
  (List.range count.toNat).foldl (fun copy i =>
    splice copy (i * elementSize)
      (slice (arrayElement wordBits source i sourceStride) 0 elementSize)) copy

/-- `clone_array`; every caller passes a non-null `out_array`. -/
def cloneArray (allocator : Allocator) (source : Bytes) (count sourceStride : UInt32)
    (elementSize : ℕ) : EStateM Status World (Option (Block (List UInt8))) := do
  require (allocatorIsValid (some allocator) = true ∧ elementSize ≠ 0) Status.internalError
  if count = 0 then pure none
  else do
    require (count.toNat ≤ sizeMax wordBits / elementSize) Status.resourceExhausted
    let copy ← World.calloc (List.replicate (count.toNat * elementSize) 0)
    match copy with
    | none => throw Status.resourceExhausted
    | some b => pure (some { b with data := copyElements source count sourceStride elementSize b.data })

/-- One of the four loops of `normalize_owned_struct_sizes`. -/
def setStructSizes (array : Option (Block (List UInt8))) (count : UInt32) (elementSize : ℕ) :
    Option (Block (List UInt8)) :=
  array.map fun b =>
    { b with
      data := (List.range count.toNat).foldl (fun data i =>
        splice data (i * elementSize) (leBytes 4 elementSize)) b.data }

/-- `normalize_owned_struct_sizes` -/
def normalizeOwnedStructSizes (owned : OwnedTopology) : OwnedTopology :=
  { owned with
    validators := setStructSizes owned.validators owned.view.validatorCount Validator.size
    endpoints := setStructSizes owned.endpoints owned.view.endpointCount Endpoint.size
    validatorEndpoints := setStructSizes owned.validatorEndpoints owned.view.validatorEndpointCount
      ValidatorEndpoint.size
    leaders := setStructSizes owned.leaders owned.view.leaderCount Leader.size }

/-- The view `build_owned_topology` writes over four owned arrays. -/
def ownedView (owned : OwnedTopology) (source : Topology) : Topology :=
  { owned.view with
    structSize := UInt32.ofNat Topology.size
    generation := source.generation
    currentSlot := source.currentSlot
    validators := Block.addrOf owned.validators
    validatorCount := source.validatorCount
    validatorStride := UInt32.ofNat Validator.size
    endpoints := Block.addrOf owned.endpoints
    endpointCount := source.endpointCount
    endpointStride := UInt32.ofNat Endpoint.size
    validatorEndpoints := Block.addrOf owned.validatorEndpoints
    validatorEndpointCount := source.validatorEndpointCount
    validatorEndpointStride := UInt32.ofNat ValidatorEndpoint.size
    leaders := Block.addrOf owned.leaders
    leaderCount := source.leaderCount
    leaderStride := UInt32.ofNat Leader.size }

/-- The stack frame of `build_owned_topology`. -/
structure BuildFrame where
  owned : OwnedTopology
  world : World

namespace BuildFrame

/-- Runs a procedure that knows only the world. -/
def onWorld {α : Type} (x : EStateM Status World α) : EStateM Status BuildFrame α :=
  zoom BuildFrame.world (fun w f => { f with world := w }) x

end BuildFrame

/-- `build_owned_topology` up to the label `fail`. -/
def buildOwnedTopologyBody (allocator : Allocator) (source : CallerTopology) :
    EStateM Status BuildFrame PUnit := do
  let copy ← BuildFrame.onWorld (cloneArray allocator source.memory.validators
    source.view.validatorCount source.view.validatorStride Validator.size)
  modify fun f => { f with owned := { f.owned with validators := copy } }
  let copy ← BuildFrame.onWorld (cloneArray allocator source.memory.endpoints
    source.view.endpointCount source.view.endpointStride Endpoint.size)
  modify fun f => { f with owned := { f.owned with endpoints := copy } }
  let copy ← BuildFrame.onWorld (cloneArray allocator source.memory.validatorEndpoints
    source.view.validatorEndpointCount source.view.validatorEndpointStride ValidatorEndpoint.size)
  modify fun f => { f with owned := { f.owned with validatorEndpoints := copy } }
  let copy ← BuildFrame.onWorld (cloneArray allocator source.memory.leaders
    source.view.leaderCount source.view.leaderStride Leader.size)
  modify fun f => { f with owned := { f.owned with leaders := copy } }
  modify fun f => { f with owned := { f.owned with view := ownedView f.owned source.view } }
  modify fun f => { f with owned := normalizeOwnedStructSizes f.owned }

/-- `build_owned_topology` -/
def buildOwnedTopology (allocator : Allocator) (source : CallerTopology) :
    EStateM Status World OwnedTopology := fun w =>
  if allocatorIsValid (some allocator) = false then .error Status.internalError w
  else
    match buildOwnedTopologyBody allocator source ⟨OwnedTopology.zero, w⟩ with
    | .ok _ f => .ok f.owned f.world
    | .error status f => .error status (ownedTopologyRelease allocator f.owned f.world)

/-! ### Installation -/

/-- The clock reading of an installation, which releases the replacement when it fails. -/
def receiptTime (allocator : Allocator) (replacement : OwnedTopology) :
    EStateM Status World UInt64 := fun w =>
  match World.monotonicTime w with
  | .ok t w => .ok t w
  | .error status w => .error status (ownedTopologyRelease allocator replacement w)

/-- The replacement takes the place of the installed topology, which is released. -/
def replaceTopology (replacement : OwnedTopology) (s : CallState) : CallState where
  client := { s.client with topology := replacement, hasTopology := true }
  world := ownedTopologyRelease s.client.allocator s.client.topology s.world

/-- `solana_delivery_client_install_topology` on a non-null client. -/
def installTopology (topology : Option (Ref CallerTopology)) : EStateM Status CallState PUnit :=
  match topology with
  | none => ofResult (topologyValidate none)
  | some r => do
      ofResult (topologyValidate (some r))
      let s ← get
      require (¬(s.client.hasTopology = true ∧
        r.val.view.generation ≤ s.client.topology.view.generation)) Status.topologyStale
      let replacement ← CallState.onWorld (buildOwnedTopology s.client.allocator r.val)
      let received ← CallState.onWorld (receiptTime s.client.allocator replacement)
      modify (replaceTopology { replacement with receivedMonotonicNs := received })

/-- What a call that takes the client and the world returns: its status, the client behind the
pointer, and the world. -/
structure CallResult where
  status : Status
  client : Option Client
  world : World

/-- A call on a client pointer, with the status `ofNull` on a null pointer. -/
def callOnClient (client : Option Client) (w : World) (ofNull : Status)
    (call : EStateM Status CallState PUnit) : CallResult :=
  match client with
  | none => ⟨ofNull, none, w⟩
  | some c =>
      match call ⟨c, w⟩ with
      | .ok _ s => ⟨Status.ok, some s.client, s.world⟩
      | .error status s => ⟨status, some s.client, s.world⟩

/-- `solana_delivery_client_install_topology` -/
def clientInstallTopology (client : Option Client) (topology : Option (Ref CallerTopology))
    (w : World) : CallResult :=
  callOnClient client w Status.invalidArgument (installTopology topology)

/-! ### Creation and destruction -/

/-- `solana_delivery_client_create_with_dependencies`; what `out_client` pointed to before does
not matter. -/
def clientCreateWithDependencies (allocator : Option Allocator) (monotonicTimeFn : Addr)
    (monotonicTimeContext : Addr) (outClientIsNull : Bool) : EStateM Status World (Block Client) :=
  match allocator with
  | none => throw Status.invalidArgument
  | some a => do
      require (allocatorIsValid (some a) = true ∧ monotonicTimeFn ≠ 0 ∧ outClientIsNull = false)
        Status.invalidArgument
      let client ← World.calloc Client.zero
      match client with
      | none => throw Status.resourceExhausted
      | some b =>
          pure { b with
            data :=
              { b.data with
                allocator := a
                monotonicTimeFn := monotonicTimeFn
                monotonicTimeContext := monotonicTimeContext
                nextRequestId := 1 } }

/-- `solana_delivery_client_destroy` -/
def clientDestroy (client : Option (Block Client)) (w : World) : World :=
  match client with
  | none => w
  | some b =>
      (ownedTopologyRelease b.data.allocator b.data.topology
        (ownedRequestsRelease b.data.allocator b.data.requestHead w)).free (some b.id)

/-! ### What a copied array holds -/

/-- The `n`-byte prefixes of the elements of a strided array. -/
def elementPrefixes (source : Bytes) (count sourceStride : UInt32) (n : ℕ) : List (List UInt8) :=
  (List.range count.toNat).map fun i => slice (arrayElement wordBits source i sourceStride) 0 n

/-- The bytes of an owned array: the `n`-byte prefixes of the source elements, each with its size
field rewritten to `n`. -/
def nativeElements (source : Bytes) (count sourceStride : UInt32) (n : ℕ) : List (List UInt8) :=
  (List.range count.toNat).map fun i =>
    patch (leBytes 4 n) (slice (arrayElement wordBits source i sourceStride) 0 n)

/-- A pointer to a copy whose elements are `elements`, null when there are none. -/
structure HoldsArray (p : Option (Block (List UInt8))) (count : UInt32)
    (elements : List (List UInt8)) : Prop where
  contents : Block.contents p = elements.flatten
  null : p = none ↔ count = 0

variable {source : Bytes} {count stride : UInt32} {n : ℕ}

variable (source count stride n) in
lemma elementPrefixes_uniform : ∀ c ∈ elementPrefixes source count stride n, c.length = n := by
  intro c hc
  obtain ⟨i, -, rfl⟩ := List.mem_map.mp hc
  exact slice_length _ _ _

lemma nativeElements_uniform (hn : 4 ≤ n) :
    ∀ c ∈ nativeElements source count stride n, c.length = n := by
  intro c hc
  obtain ⟨i, -, rfl⟩ := List.mem_map.mp hc
  rw [patch_length (by simpa using hn), slice_length]

lemma copyElements_eq :
    copyElements source count stride n (List.replicate (count.toNat * n) 0)
      = (elementPrefixes source count stride n).flatten :=
  foldl_splice_replicate count.toNat fun _ => slice_length _ _ _

lemma HoldsArray.setStructSizes {p : Option (Block (List UInt8))} (hn : 4 ≤ n)
    (h : HoldsArray p count (elementPrefixes source count stride n)) :
    HoldsArray (setStructSizes p count n) count (nativeElements source count stride n) := by
  cases p with
  | none =>
      have hc : count = 0 := h.null.mp rfl
      subst hc
      exact ⟨rfl, by simp [SolanaTpuClient.setStructSizes]⟩
  | some b =>
      refine ⟨?_, by simpa [SolanaTpuClient.setStructSizes] using h.null⟩
      have hb : b.data = (elementPrefixes source count stride n).flatten := h.contents
      have hlen : (elementPrefixes source count stride n).length = count.toNat := by
        simp [elementPrefixes]
      have hloop := foldl_splice_flatten (elementPrefixes_uniform source count stride n)
        (fun _ => leBytes 4 n) (fun _ => by simpa using hn)
      rw [hlen, ← hb] at hloop
      simp only [SolanaTpuClient.setStructSizes, Option.map_some, Block.contents_some]
      rw [hloop]
      congr 1
      refine List.ext_getElem (by simp [elementPrefixes, nativeElements]) fun i h1 h2 => ?_
      simp [elementPrefixes, nativeElements]

@[simp] lemma idOf_setStructSizes (p : Option (Block (List UInt8))) :
    Block.idOf (setStructSizes p count n) = Block.idOf p := by
  cases p <;> rfl

@[simp] lemma addrOf_setStructSizes (p : Option (Block (List UInt8))) :
    Block.addrOf (setStructSizes p count n) = Block.addrOf p := by
  cases p <;> rfl

/-- A byte of the `i`-th element of an owned array. -/
lemma HoldsArray.byte {p : Option (Block (List UInt8))} (hn : 4 ≤ n)
    (h : HoldsArray p count (nativeElements source count stride n)) {i j : ℕ}
    (hi : i < count.toNat) (hj : j < n) :
    shift (ofList (Block.contents p)) (i * n) j
      = ofList (patch (leBytes 4 n) (slice (arrayElement wordBits source i stride) 0 n)) j := by
  have hi' : i < (nativeElements source count stride n).length := by simpa [nativeElements] using hi
  rw [shift_apply, h.contents, ofList_flatten (nativeElements_uniform hn) hi' hj]
  simp [nativeElements]

/-- Past its size field, the `i`-th element of an owned array is the source element. -/
lemma HoldsArray.tail {p : Option (Block (List UInt8))} (hn : 4 ≤ n)
    (h : HoldsArray p count (nativeElements source count stride n)) {i : ℕ} (hi : i < count.toNat) :
    ∀ j, 4 ≤ j → j < n →
      shift (ofList (Block.contents p)) (i * n) j = arrayElement wordBits source i stride j := by
  intro j h4 hj
  rw [h.byte hn hi hj, ofList_patch_of_le (by simpa using h4), ofList_slice _ hj, Nat.zero_add]

/-- The size field of the `i`-th element of an owned array is the native size. -/
lemma HoldsArray.structSize {p : Option (Block (List UInt8))} (hn : 4 ≤ n) (hlt : n < 2 ^ 32)
    (h : HoldsArray p count (nativeElements source count stride n)) {i : ℕ} (hi : i < count.toNat) :
    load32 (shift (ofList (Block.contents p)) (i * n)) 0 = UInt32.ofNat n := by
  have hn32 : (UInt32.ofNat n).toNat = n := by
    rw [UInt32.toNat_ofNat', Nat.mod_eq_of_lt hlt]
  have hbytes : ∀ j, 0 ≤ j → j < 4 → shift (ofList (Block.contents p)) (i * n) j
      = ofList (leBytes 4 (UInt32.ofNat n).toNat ++ []) j := by
    intro j _ hj
    rw [h.byte hn hi (by omega), ofList_patch_of_lt (by simpa using hj), hn32, List.append_nil]
  rw [load32_congr hbytes 0 le_rfl le_rfl, load32_leBytes]

/-! ### What a build does -/

/-- The allocations a copy of `count` elements needs. -/
def copiesNeeded (count : UInt32) : ℕ := if count = 0 then 0 else 1

/-- The allocations a copy of a topology needs: one for each nonempty array. -/
def topologyCopies (view : Topology) : ℕ :=
  copiesNeeded view.validatorCount + copiesNeeded view.endpointCount +
    copiesNeeded view.validatorEndpointCount + copiesNeeded view.leaderCount

variable {allocator : Allocator} {w : World} {M : Multiset ℕ}

lemma count_le_sizeMax_div (count : UInt32) {n : ℕ} (hn0 : n ≠ 0) (hn : n ≤ 2 ^ 16) :
    count.toNat ≤ sizeMax wordBits / n := by
  rw [Nat.le_div_iff_mul_le (by omega)]
  have hc : count.toNat < 2 ^ 32 := count.toNat_lt
  calc count.toNat * n ≤ 2 ^ 32 * 2 ^ 16 := Nat.mul_le_mul hc.le hn
    _ ≤ sizeMax wordBits := by norm_num [sizeMax, wordBits]

/-- `clone_array` on a valid allocator copies the element prefixes into a new block, or needs
none, or its one allocation was refused. -/
lemma ensures_cloneArray (hvalid : allocatorIsValid (some allocator) = true) (hn0 : n ≠ 0)
    (hn : n ≤ 2 ^ 16) (hM : w.ledger.Owns M) :
    Ensures (cloneArray allocator source count stride n) w
      (fun p w' => w.Allocated w' (copiesNeeded count) ∧
        w'.ledger.Owns (Ledger.blocksOf (Block.idOf p) + M) ∧
        HoldsArray p count (elementPrefixes source count stride n))
      (fun e w' => e = Status.resourceExhausted ∧ w.Refuses (copiesNeeded count) ∧
        w'.ledger.Owns M) := by
  rw [cloneArray, ensures_bind, ensures_require]
  refine ⟨fun _ => ?_, fun h => absurd ⟨hvalid, hn0⟩ h⟩
  by_cases hc : count = 0
  · subst hc
    rw [if_pos rfl]
    exact ⟨World.Allocated.refl w, by simpa using hM, rfl, by simp⟩
  rw [if_neg hc, ensures_bind, ensures_require]
  refine ⟨fun _ => ?_, fun h => absurd (count_le_sizeMax_div count hn0 hn) h⟩
  have hneeded : copiesNeeded count = 1 := if_neg hc
  rw [hneeded]
  cases hw : w.answers.calloc w.callocCalls with
  | none =>
      have hrefuses : w.Refuses 1 := ⟨0, Nat.one_pos, hw⟩
      refine ensures_bind.mpr (ensures_of_ok (World.calloc_of_none hw) ?_)
      exact ⟨rfl, hrefuses, hM⟩
  | some addr =>
      refine ensures_bind.mpr (ensures_of_ok (World.calloc_of_some hw) ?_)
      refine ⟨World.allocated_callocDone (by simp [hw]), ?_, ?_, by simpa using hc⟩
      · simpa [Multiset.singleton_add] using hM.alloc
      · exact copyElements_eq

/-- An owned topology that is a copy of `source` in the native layout. -/
structure OwnedTopology.CopyOf (o : OwnedTopology) (source : CallerTopology) : Prop where
  view : o.view = ownedView { o with view := Topology.zero } source.view
  validators : HoldsArray o.validators source.view.validatorCount
    (nativeElements source.memory.validators source.view.validatorCount
      source.view.validatorStride Validator.size)
  endpoints : HoldsArray o.endpoints source.view.endpointCount
    (nativeElements source.memory.endpoints source.view.endpointCount
      source.view.endpointStride Endpoint.size)
  validatorEndpoints : HoldsArray o.validatorEndpoints source.view.validatorEndpointCount
    (nativeElements source.memory.validatorEndpoints source.view.validatorEndpointCount
      source.view.validatorEndpointStride ValidatorEndpoint.size)
  leaders : HoldsArray o.leaders source.view.leaderCount
    (nativeElements source.memory.leaders source.view.leaderCount
      source.view.leaderStride Leader.size)

/-- The frame of a build that has taken `n` allocations and owns what it has copied. -/
structure BuildFrame.Building (w : World) (M : Multiset ℕ) (n : ℕ) (f : BuildFrame) : Prop where
  allocated : w.Allocated f.world n
  owns : f.world.ledger.Owns (f.owned.blocks + M)

/-- The frame a failed build leaves for the cleanup. -/
def BuildFrame.Failed (w : World) (M : Multiset ℕ) (n : ℕ) (e : Status) (f : BuildFrame) : Prop :=
  e = Status.resourceExhausted ∧ w.Refuses n ∧ f.world.ledger.Owns (f.owned.blocks + M)

/-- One array copy of a build: with `store` the assignment of the copy to a field that was null,
the build goes on owning one array more, or fails with what it had. -/
lemma ensures_buildCopy {f : BuildFrame} {k total : ℕ} {rest : EStateM Status BuildFrame PUnit}
    {Q : PUnit → BuildFrame → Prop} (hvalid : allocatorIsValid (some allocator) = true)
    (hn0 : n ≠ 0) (hn : n ≤ 2 ^ 16) (htotal : k + copiesNeeded count ≤ total)
    (hf : f.Building w M k) (store : Option (Block (List UInt8)) → OwnedTopology → OwnedTopology)
    {i : ℕ} (hnull : f.owned.pointers[i]? = some none)
    (hpointers : ∀ p, (store p f.owned).pointers = f.owned.pointers.set i (Block.idOf p))
    (hrest : ∀ p g, HoldsArray p count (elementPrefixes source count stride n) →
      g.owned = store p f.owned → g.Building w M (k + copiesNeeded count) →
      Ensures rest g Q (fun e g => g.Failed w M total e)) :
    Ensures (do
        let copy ← BuildFrame.onWorld (cloneArray allocator source count stride n)
        modify fun f => { f with owned := store copy f.owned }
        rest) f Q (fun e g => g.Failed w M total e) := by
  refine ensures_bind.mpr (ensures_zoom.mpr
    ((ensures_cloneArray hvalid hn0 hn hf.owns).mono ?_ ?_))
  · rintro p w' ⟨halloc, howns, hp⟩
    refine ensures_bind.mpr (ensures_modify.mpr (hrest p _ hp rfl ⟨?_, ?_⟩))
    · exact hf.allocated.trans halloc
    · rw [OwnedTopology.blocks, hpointers, Ledger.blocksOfAll_set hnull, add_assoc]
      exact howns
  · rintro e w' ⟨he, hrefuses, howns⟩
    exact ⟨he, (hf.allocated.refuses hrefuses).mono htotal, howns⟩

/-- The view is written and the sizes are rewritten over four copied arrays. -/
lemma copyOf_normalize {t : CallerTopology} {p₁ p₂ p₃ p₄ : Option (Block (List UInt8))}
    (h₁ : HoldsArray p₁ t.view.validatorCount (elementPrefixes t.memory.validators
      t.view.validatorCount t.view.validatorStride Validator.size))
    (h₂ : HoldsArray p₂ t.view.endpointCount (elementPrefixes t.memory.endpoints
      t.view.endpointCount t.view.endpointStride Endpoint.size))
    (h₃ : HoldsArray p₃ t.view.validatorEndpointCount (elementPrefixes t.memory.validatorEndpoints
      t.view.validatorEndpointCount t.view.validatorEndpointStride ValidatorEndpoint.size))
    (h₄ : HoldsArray p₄ t.view.leaderCount (elementPrefixes t.memory.leaders
      t.view.leaderCount t.view.leaderStride Leader.size))
    {o : OwnedTopology} (ho : o = ⟨Topology.zero, p₁, p₂, p₃, p₄, 0⟩) :
    (normalizeOwnedStructSizes { o with view := ownedView o t.view }).CopyOf t := by
  subst ho
  constructor
  · simp [normalizeOwnedStructSizes, ownedView]
  · exact h₁.setStructSizes (by decide)
  · exact h₂.setStructSizes (by decide)
  · exact h₃.setStructSizes (by decide)
  · exact h₄.setStructSizes (by decide)

lemma ensures_buildOwnedTopologyBody {t : CallerTopology}
    (hvalid : allocatorIsValid (some allocator) = true) (hM : w.ledger.Owns M) :
    Ensures (buildOwnedTopologyBody allocator t) ⟨OwnedTopology.zero, w⟩
      (fun _ f => f.Building w M (topologyCopies t.view) ∧ f.owned.CopyOf t)
      (fun e f => f.Failed w M (topologyCopies t.view) e) := by
  have h0 : (BuildFrame.mk OwnedTopology.zero w).Building w M 0 :=
    ⟨World.Allocated.refl w, by simpa using hM⟩
  rw [buildOwnedTopologyBody]
  refine ensures_buildCopy hvalid (by decide) (by decide) (by unfold topologyCopies; omega) h0
    (fun p o => { o with validators := p }) (i := 0) rfl (fun _ => rfl)
    fun p₁ g₁ hp₁ hg₁ hb₁ => ?_
  refine ensures_buildCopy hvalid (by decide) (by decide) (by unfold topologyCopies; omega) hb₁
    (fun p o => { o with endpoints := p }) (i := 1) (by rw [hg₁]; rfl) (fun _ => rfl)
    fun p₂ g₂ hp₂ hg₂ hb₂ => ?_
  refine ensures_buildCopy hvalid (by decide) (by decide) (by unfold topologyCopies; omega) hb₂
    (fun p o => { o with validatorEndpoints := p }) (i := 2) (by rw [hg₂, hg₁]; rfl)
    (fun _ => rfl) fun p₃ g₃ hp₃ hg₃ hb₃ => ?_
  refine ensures_buildCopy hvalid (by decide) (by decide) (by unfold topologyCopies; omega) hb₃
    (fun p o => { o with leaders := p }) (i := 3) (by rw [hg₃, hg₂, hg₁]; rfl) (fun _ => rfl)
    fun p₄ g₄ hp₄ hg₄ hb₄ => ?_
  refine ensures_bind.mpr (ensures_modify.mpr (ensures_modify.mpr ⟨⟨?_, ?_⟩, ?_⟩))
  · simpa only [topologyCopies, Nat.zero_add] using hb₄.allocated
  · have howns := hb₄.owns
    simpa [normalizeOwnedStructSizes, OwnedTopology.blocks, OwnedTopology.pointers] using howns
  · exact copyOf_normalize hp₁ hp₂ hp₃ hp₄ (by rw [hg₄, hg₃, hg₂, hg₁]; rfl)

lemma ownedTopologyRelease_ledger (hvalid : allocatorIsValid (some allocator) = true)
    (o : OwnedTopology) :
    (ownedTopologyRelease allocator o w).ledger = w.ledger.freeAll o.pointers := by
  simp [ownedTopologyRelease, hvalid, OwnedTopology.pointers]

/-- Releasing an owned topology frees its blocks. -/
lemma owns_ownedTopologyRelease (hvalid : allocatorIsValid (some allocator) = true)
    {o : OwnedTopology} (h : w.ledger.Owns (o.blocks + M)) :
    (ownedTopologyRelease allocator o w).ledger.Owns M := by
  rw [ownedTopologyRelease_ledger hvalid]
  exact h.freeAll

/-- **The build**: a copy of the source whose blocks are owned, or nothing left behind and a
refused allocation. -/
theorem ensures_buildOwnedTopology {t : CallerTopology}
    (hvalid : allocatorIsValid (some allocator) = true) (hM : w.ledger.Owns M) :
    Ensures (buildOwnedTopology allocator t) w
      (fun o w' => w.Allocated w' (topologyCopies t.view) ∧ w'.ledger.Owns (o.blocks + M) ∧
        o.CopyOf t)
      (fun e w' => e = Status.resourceExhausted ∧ w.Refuses (topologyCopies t.view) ∧
        w'.ledger.Owns M) := by
  have h := ensures_buildOwnedTopologyBody (t := t) hvalid hM
  have hbuild : buildOwnedTopology allocator t w = _ := if_neg (by simp [hvalid])
  rcases h.cases with ⟨u, f, hbody, hbuilding, hcopy⟩ | ⟨e, f, hbody, he, hrefuses, howns⟩
  · exact ensures_of_ok (hbuild.trans (by rw [hbody]))
      ⟨hbuilding.allocated, hbuilding.owns, hcopy⟩
  · exact ensures_of_error (hbuild.trans (by rw [hbody]))
      ⟨he, hrefuses, owns_ownedTopologyRelease hvalid howns⟩

/-! ### What an installation does -/

/-- An installation goes on past its generation check: nothing is installed, or the new
generation is greater. -/
def Client.AcceptsGeneration (c : Client) (generation : UInt64) : Prop :=
  ¬(c.hasTopology = true ∧ generation ≤ c.topology.view.generation)

instance (c : Client) (generation : UInt64) : Decidable (c.AcceptsGeneration generation) :=
  inferInstanceAs (Decidable (¬ _))

/-- The ways an installation fails, with the status each returns. -/
inductive InstallFailure (c : Client) (topology : Option (Ref CallerTopology)) (w : World) :
    Status → Prop where
  | invalid {e : Status} : topologyValidate topology = .error e → InstallFailure c topology w e
  | stale {r : Ref CallerTopology} : topology = some r → topologyValidate topology = .ok () →
      ¬ c.AcceptsGeneration r.val.view.generation →
      InstallFailure c topology w Status.topologyStale
  | exhausted {r : Ref CallerTopology} : topology = some r → topologyValidate topology = .ok () →
      c.AcceptsGeneration r.val.view.generation → w.Refuses (topologyCopies r.val.view) →
      InstallFailure c topology w Status.resourceExhausted
  | clock {r : Ref CallerTopology} {e : Status} : topology = some r →
      topologyValidate topology = .ok () → c.AcceptsGeneration r.val.view.generation →
      ¬ w.Refuses (topologyCopies r.val.view) → (w.answers.clock w.clockCalls).status = e →
      e ≠ Status.ok → InstallFailure c topology w e

/-- What a successful installation of the topology behind `r` makes of the client. -/
structure InstallSuccess (c : Client) (topology : Option (Ref CallerTopology)) (w : World)
    (r : Ref CallerTopology) (c' : Client) : Prop where
  argument : topology = some r
  valid : topologyValidate topology = .ok ()
  accepted : c.AcceptsGeneration r.val.view.generation
  granted : ¬ w.Refuses (topologyCopies r.val.view)
  clock : (w.answers.clock w.clockCalls).status = Status.ok
  copy : c'.topology.CopyOf r.val
  received : c'.topology.receivedMonotonicNs = (w.answers.clock w.clockCalls).timeNs
  client : c' = { c with topology := c'.topology, hasTopology := true }

lemma InstallFailure.ne_ok {c : Client} {topology : Option (Ref CallerTopology)} {e : Status}
    (h : InstallFailure c topology w e) : e ≠ Status.ok := by
  cases h with
  | invalid h => exact topologyValidate_ne_ok h
  | stale _ _ _ => exact Status.topologyStale_ne_ok
  | exhausted _ _ _ _ => exact Status.resourceExhausted_ne_ok
  | clock _ _ _ _ _ h => exact h

/-- The allocations a copy of a topology needs are all granted. -/
def copiesGranted (r : Ref CallerTopology) (answers : Answers) : Bool :=
  (List.range (topologyCopies r.val.view)).all fun k => (answers.calloc k).isSome

/-- The stages of an installation, in the order they are checked. -/
def installStages (client : Option Client) (topology : Option (Ref CallerTopology))
    (answers : Answers) : List (Bool × Status) :=
  [(client.isSome, Status.invalidArgument), Status.stageOf (topologyValidate topology),
    (client.all fun c => topology.all fun r => decide (c.AcceptsGeneration r.val.view.generation),
      Status.topologyStale),
    (topology.all fun r => copiesGranted r answers, Status.resourceExhausted),
    World.clockStage (answers.clock 0)]

lemma copiesGranted_iff {r : Ref CallerTopology} {answers : Answers} {ledger : Ledger} :
    copiesGranted r answers = true
      ↔ ¬ (World.start answers ledger).Refuses (topologyCopies r.val.view) := by
  simp only [copiesGranted, World.Refuses, List.all_eq_true, List.mem_range, World.start_answers,
    World.start_callocCalls, Nat.zero_add, not_exists, not_and, Option.isSome_iff_ne_none, ne_eq]

/-- An installation fails as the first of its stages that does not hold. -/
lemma InstallFailure.stages {c : Client} {topology : Option (Ref CallerTopology)}
    {answers : Answers} {ledger : Ledger} {e : Status}
    (h : InstallFailure c topology (World.start answers ledger) e) :
    firstFailure (installStages (some c) topology answers) = some e := by
  cases h with
  | invalid hinvalid => simp [installStages, Status.stageOf, hinvalid]
  | stale harg hvalid hgen =>
      subst harg
      simp [installStages, Status.stageOf, hvalid, hgen]
  | exhausted harg hvalid hgen hrefuses =>
      have hgranted := mt copiesGranted_iff.mp (not_not.mpr hrefuses)
      subst harg
      simp [installStages, Status.stageOf, hvalid, hgen, hgranted]
  | clock harg hvalid hgen hgranted hclock hne =>
      have hclock' : (answers.clock 0).status = e := hclock
      subst harg
      simp [installStages, Status.stageOf, hvalid, hgen, copiesGranted_iff.mpr hgranted,
        World.clockStage, hclock', hne]

/-- A successful installation passes all its stages. -/
lemma InstallSuccess.stages {c c' : Client} {topology : Option (Ref CallerTopology)}
    {answers : Answers} {ledger : Ledger} {r : Ref CallerTopology}
    (h : InstallSuccess c topology (World.start answers ledger) r c') :
    firstFailure (installStages (some c) topology answers) = none := by
  have hclock : (answers.clock 0).status = Status.ok := h.clock
  have hvalid := h.valid
  obtain rfl := h.argument
  simp [installStages, Status.stageOf, hvalid, h.accepted, copiesGranted_iff.mpr h.granted,
    World.clockStage, hclock]

/-- The receipt time is read from the clock, or the replacement is released. -/
lemma ensures_receiptTime (hvalid : allocatorIsValid (some allocator) = true) {o : OwnedTopology}
    (h : w.ledger.Owns (o.blocks + M)) :
    Ensures (receiptTime allocator o) w
      (fun t w' => (w.answers.clock w.clockCalls).status = Status.ok ∧
        t = (w.answers.clock w.clockCalls).timeNs ∧ w'.ledger.Owns (o.blocks + M))
      (fun e w' => (w.answers.clock w.clockCalls).status = e ∧ e ≠ Status.ok ∧
        w'.ledger.Owns M) := by
  by_cases hclock : (w.answers.clock w.clockCalls).status = Status.ok
  · refine ensures_of_ok (t := w.clockRead) ?_ ⟨hclock, rfl, h⟩
    rw [receiptTime, World.monotonicTime_of_ok hclock]
  · refine ensures_of_error (t := ownedTopologyRelease allocator o w.clockRead) ?_
      ⟨rfl, hclock, owns_ownedTopologyRelease hvalid h⟩
    rw [receiptTime, World.monotonicTime_of_ne hclock]

/-- **An installation** on a client whose blocks are owned either replaces the topology, all else
unchanged, or fails for one of the stated reasons and leaves the client as it was; in both cases
the blocks of the client and no others are owned afterwards. -/
theorem ensures_installTopology {c : Client} {topology : Option (Ref CallerTopology)}
    (hvalid : allocatorIsValid (some c.allocator) = true) (hM : w.ledger.Owns (c.blocks + M)) :
    Ensures (installTopology topology) ⟨c, w⟩
      (fun _ s => (∃ r, InstallSuccess c topology w r s.client) ∧
        s.world.ledger.Owns (s.client.blocks + M))
      (fun e s => InstallFailure c topology w e ∧ s.client = c ∧
        s.world.ledger.Owns (c.blocks + M)) := by
  cases topology with
  | none => exact ⟨.invalid rfl, rfl, hM⟩
  | some r =>
    rw [installTopology, ensures_bind]
    refine ensures_ofResult (fun u hv => ?_) fun e he => ⟨.invalid he, rfl, hM⟩
    refine ensures_bind.mpr (ensures_get.mpr (ensures_bind.mpr (ensures_require.mpr ⟨?_, ?_⟩)))
    · intro hgen
      refine ensures_bind.mpr (ensures_zoom.mpr
        ((ensures_buildOwnedTopology hvalid hM).mono ?_ ?_))
      · rintro o w₁ ⟨halloc, howns, hcopy⟩
        refine ensures_bind.mpr (ensures_zoom.mpr
          ((ensures_receiptTime hvalid howns).mono ?_ ?_))
        · rintro received w₂ ⟨hclock, rfl, howns₂⟩
          rw [halloc.answers, halloc.clockCalls] at hclock ⊢
          refine ensures_modify.mpr ⟨⟨r, ⟨rfl, hv, hgen, halloc.not_refuses, hclock, ?_, rfl, rfl⟩⟩,
            ?_⟩
          · exact ⟨hcopy.view, hcopy.validators, hcopy.endpoints, hcopy.validatorEndpoints,
              hcopy.leaders⟩
          · refine owns_ownedTopologyRelease hvalid (howns₂.congr ?_)
            simp only [Client.blocks, replaceTopology, OwnedTopology.blocks,
              OwnedTopology.pointers]
            abel
        · rintro e w₂ ⟨hclock, hne, howns₂⟩
          rw [halloc.answers, halloc.clockCalls] at hclock
          exact ⟨.clock rfl hv hgen halloc.not_refuses hclock hne, rfl, howns₂⟩
      · rintro e w₁ ⟨rfl, hrefuses, howns⟩
        exact ⟨.exhausted rfl hv hgen hrefuses, rfl, howns⟩
    · intro hgen
      exact ⟨.stale rfl hv hgen, rfl, hM⟩

end SolanaTpuClient
