import OpnetNode.Mldsa.Equiv.RecordOf

/-!
# The requests for one ML-DSA key

A link binds an ML-DSA key by its hash, an expose request reveals the key. `KeyInv` says what the
stored record, the pending request and the accepted requests of one key have to do with each other:
the record has its key from the first request that revealed it.

* `KeyInv.append_dropped`, `KeyInv.append_recorded`: an accepted request.
* `KeyInv.completeBlock`: the pending request is saved.
* `KeyInv.revert`: the requests from a height on are dropped.
-/

namespace OpnetNode

open MLDSAPublicKeyRepository

/-- A request that was accepted, and the block it was in. -/
structure AcceptedRequest where
  hashedPublicKey : Bytes
  legacyPublicKey : Bytes
  /-- The key an expose request reveals. -/
  publicKey : Option Bytes
  blockHeight : ℕ
  deriving DecidableEq, Repr

/-- What is asked for, in whatever block. -/
def AcceptedRequest.asked (request : AcceptedRequest) : Bytes × Bytes × Option Bytes :=
  (request.hashedPublicKey, request.legacyPublicKey, request.publicKey)

/-- The first request to reveal the key. -/
def firstExposure (requests : List AcceptedRequest) : Option AcceptedRequest :=
  requests.find? fun request => request.publicKey.isSome

/-! ### One key -/

/-- A record that has its key from the given request. -/
structure ExposedBy (request : AcceptedRequest) (d : MLDSAPublicKeyDocument) : Prop where
  publicKey : d.publicKey = request.publicKey
  height : d.exposedBlockHeight = (some request.blockHeight).filter fun height => height ≠ 0

/-- A pending request that is the given one. -/
structure PendingAs (request : AcceptedRequest) (height : ℕ) (e : MLDSAUpdateData) : Prop where
  expose : e.exposePublicKey = request.publicKey.isSome
  legacy : e.data.legacyPublicKey = request.legacyPublicKey
  publicKey : e.data.publicKey = request.publicKey
  exposed : e.data.exposedBlockHeight = if e.exposePublicKey then some height else none
  inserted : e.data.insertedBlockHeight = some height
  current : request.blockHeight = height

/-- What the stored record, the pending request and the accepted requests of one ML-DSA key have to
do with each other, in the block at `height`. -/
structure KeyInv (height : ℕ) (record : Option MLDSAPublicKeyDocument)
    (pending : Option MLDSAUpdateData) (requests : List AcceptedRequest) : Prop where
  sorted : requests.Pairwise fun request request' => request.blockHeight ≤ request'.blockHeight
  height_le : ∀ request ∈ requests, request.blockHeight ≤ height
  inserted_lt : ∀ d, record = some d → d.insertedBlockHeight < height
  exposed_key : ∀ d, record = some d → d.exposedBlockHeight.isSome → d.publicKey.isSome
  stored : ∀ request ∈ requests, request.blockHeight < height → ∃ d, record = some d ∧
    d.legacyPublicKey = request.legacyPublicKey ∧ d.insertedBlockHeight ≤ request.blockHeight
  known : ∀ request ∈ requests,
    (∃ d, record = some d ∧ d.legacyPublicKey = request.legacyPublicKey) ∨
      ∃ e, pending = some e ∧ e.data.legacyPublicKey = request.legacyPublicKey
  exposed : ∀ d, record = some d → d.publicKey.isSome →
    ∃ request, firstExposure requests = some request ∧ ExposedBy request d ∧
      request.blockHeight < height
  first : ∀ request, firstExposure requests = some request →
    (request.blockHeight < height ∧ ∃ d, record = some d ∧ ExposedBy request d) ∨
      ∃ e, pending = some e ∧ e.exposePublicKey ∧ PendingAs request height e
  pendingAs : ∀ e, pending = some e → ∃ request, PendingAs request height e ∧
    (e.exposePublicKey → firstExposure requests = some request)
  pendingNew : ∀ e, pending = some e → e.exposePublicKey = false → record = none
  pendingHidden : ∀ e, pending = some e → ∀ d, record = some d → d.publicKey = none

theorem keyInv_init (height : ℕ) : KeyInv height none none [] := by
  constructor <;> simp [firstExposure]

theorem firstExposure_append (requests : List AcceptedRequest) (request : AcceptedRequest) :
    firstExposure (requests ++ [request])
      = (firstExposure requests).or (if request.publicKey.isSome then some request else none) := by
  unfold firstExposure
  rw [List.find?_append, List.find?_singleton]

variable {requests : List AcceptedRequest}

variable {request : AcceptedRequest}

theorem isSome_of_firstExposure
    (h : firstExposure requests = some request) : request.publicKey.isSome :=
  List.find?_some (p := fun request : AcceptedRequest => request.publicKey.isSome) h

theorem firstExposure_le (hsorted : requests.Pairwise fun request request' =>
      request.blockHeight ≤ request'.blockHeight)
    (hmem : request ∈ requests) (hsome : request.publicKey.isSome) :
    ∃ first, firstExposure requests = some first ∧ first.blockHeight ≤ request.blockHeight := by
  unfold firstExposure
  induction requests with
  | nil => cases hmem
  | cons r requests ih =>
    rw [List.pairwise_cons] at hsorted
    rw [List.find?_cons]
    by_cases hr : r.publicKey.isSome
    · refine ⟨r, by simp [hr], ?_⟩
      rcases List.mem_cons.mp hmem with rfl | hmem
      · exact le_refl _
      · exact hsorted.1 request hmem
    · rcases List.mem_cons.mp hmem with rfl | hmem
      · exact absurd hsome hr
      · simpa [hr] using ih hsorted.2 hmem

theorem firstExposure_filter (hsorted : requests.Pairwise fun request request' =>
      request.blockHeight ≤ request'.blockHeight) (height : ℕ) :
    firstExposure (requests.filter fun request => request.blockHeight < height)
      = (firstExposure requests).filter fun request => request.blockHeight < height := by
  apply Collection.find?_filter_of_pairwise
  apply hsorted.imp
  intro request request' hle _ _ hlt
  have hlt : request'.blockHeight < height := by simpa using hlt
  have : request.blockHeight < height := by omega
  simpa using this

namespace KeyInv

variable {height : ℕ} {record : Option MLDSAPublicKeyDocument} {pending : Option MLDSAUpdateData}
  {requests : List AcceptedRequest}

variable {request : AcceptedRequest}

theorem sorted_append (h : KeyInv height record pending requests)
    (hheight : request.blockHeight = height) :
    (requests ++ [request]).Pairwise fun request request' =>
      request.blockHeight ≤ request'.blockHeight := by
  rw [List.pairwise_append]
  refine ⟨h.sorted, List.pairwise_singleton _ _, ?_⟩
  intro r hr r' hr'
  rw [List.mem_singleton.mp hr', hheight]
  exact h.height_le r hr

theorem height_le_append (h : KeyInv height record pending requests)
    (hheight : request.blockHeight = height) :
    ∀ r ∈ requests ++ [request], r.blockHeight ≤ height := by
  intro r hr
  rcases List.mem_append.mp hr with hr | hr
  · exact h.height_le r hr
  · rw [List.mem_singleton.mp hr, hheight]

theorem stored_append (h : KeyInv height record pending requests)
    (hheight : request.blockHeight = height) :
    ∀ r ∈ requests ++ [request], r.blockHeight < height → ∃ d, record = some d ∧
      d.legacyPublicKey = r.legacyPublicKey ∧ d.insertedBlockHeight ≤ r.blockHeight := by
  intro r hr hlt
  rcases List.mem_append.mp hr with hr | hr
  · exact h.stored r hr hlt
  · rw [List.mem_singleton.mp hr] at hlt
    omega

theorem append_dropped (h : KeyInv height record pending requests)
    (hheight : request.blockHeight = height)
    (hknown : (∃ d, record = some d ∧ d.legacyPublicKey = request.legacyPublicKey) ∨
      ∃ e, pending = some e ∧ e.data.legacyPublicKey = request.legacyPublicKey)
    (hfirst : request.publicKey.isSome → (firstExposure requests).isSome) :
    KeyInv height record pending (requests ++ [request]) := by
  have hsame : firstExposure (requests ++ [request]) = firstExposure requests := by
    rw [firstExposure_append]
    cases hexposure : firstExposure requests with
    | some r => rfl
    | none =>
      have hnone : ¬ request.publicKey.isSome := by
        intro hsome
        have := hfirst hsome
        rw [hexposure] at this
        cases this
      rw [if_neg hnone]
      rfl
  refine
    { h with
      sorted := h.sorted_append hheight
      height_le := h.height_le_append hheight
      stored := h.stored_append hheight
      known := ?_
      exposed := ?_
      first := ?_
      pendingAs := ?_ }
  · intro r hr
    rcases List.mem_append.mp hr with hr | hr
    · exact h.known r hr
    · rw [List.mem_singleton.mp hr]
      exact hknown
  · rw [hsame]
    exact h.exposed
  · rw [hsame]
    exact h.first
  · rw [hsame]
    exact h.pendingAs

variable {e : MLDSAUpdateData}

/-- A request that is recorded: nothing is pending, and the record, if there is one, has no key that
could be lost. -/
theorem append_recorded (h : KeyInv height record none requests) (he : PendingAs request height e)
    (hhidden : ∀ d, record = some d → d.publicKey = none)
    (hnew : e.exposePublicKey = false → record = none) :
    KeyInv height record (some e) (requests ++ [request]) := by
  -- nothing was exposed before: it would be in the record, or be pending
  have hnone : firstExposure requests = none := by
    cases hexposure : firstExposure requests with
    | none => rfl
    | some r =>
      have hsome := isSome_of_firstExposure hexposure
      rcases h.first r hexposure with ⟨-, d, hd, hby⟩ | ⟨e', he', -⟩
      · rw [← hby.publicKey, hhidden d hd] at hsome
        cases hsome
      · cases he'
  have hfirst : firstExposure (requests ++ [request])
      = if request.publicKey.isSome then some request else none := by
    rw [firstExposure_append, hnone, Option.none_or]
  refine
    { sorted := h.sorted_append he.current
      height_le := h.height_le_append he.current
      inserted_lt := h.inserted_lt
      exposed_key := h.exposed_key
      stored := h.stored_append he.current
      known := ?_
      exposed := ?_
      first := ?_
      pendingAs := ?_
      pendingNew := ?_
      pendingHidden := ?_ }
  · intro r hr
    rcases List.mem_append.mp hr with hr | hr
    · rcases h.known r hr with hstored | ⟨e', he', -⟩
      · exact Or.inl hstored
      · cases he'
    · rw [List.mem_singleton.mp hr]
      exact Or.inr ⟨e, rfl, he.legacy⟩
  · intro d hd hsome
    rw [hhidden d hd] at hsome
    cases hsome
  · intro r hr
    rw [hfirst] at hr
    split at hr
    · rename_i hsome
      cases hr
      exact Or.inr ⟨e, rfl, he.expose.trans hsome, he⟩
    · cases hr
  · intro e' he'
    cases he'
    refine ⟨request, he, ?_⟩
    intro hexpose
    rw [hfirst, if_pos (he.expose ▸ hexpose)]
  · intro e' he' hexpose
    cases he'
    exact hnew hexpose
  · intro e' _
    exact hhidden

/-! Completing a block -/

variable {d : MLDSAPublicKeyDocument}

theorem exposedBy_of_saved (hsaved : SavedRecord e record d)
    (he : PendingAs request height e) (hexpose : e.exposePublicKey) : ExposedBy request d := by
  constructor
  · rw [hsaved.publicKey, he.publicKey]
  · rw [hsaved.exposed, he.exposed, if_pos hexpose, he.current]

theorem inserted_of_saved (h : KeyInv height record pending requests)
    (he : pending = some e) (hsaved : SavedRecord e record d) :
    d.insertedBlockHeight ≤ height := by
  obtain ⟨request, has, -⟩ := h.pendingAs e he
  cases hrecord : record with
  | none =>
    have hins := hsaved.inserted_new hrecord
    rw [has.inserted] at hins
    have : height = d.insertedBlockHeight := Option.some.inj hins
    omega
  | some d₀ =>
    have hins := hsaved.inserted_old d₀ hrecord
    have hlt := h.inserted_lt d₀ hrecord
    omega

variable {record' : Option MLDSAPublicKeyDocument}

theorem stored_completeBlock (h : KeyInv height record pending requests)
    (hkept : pending = none → record' = record)
    (hsaved : ∀ e, pending = some e → ∃ d, record' = some d ∧ SavedRecord e record d) :
    ∀ request ∈ requests, ∃ d, record' = some d ∧
      d.legacyPublicKey = request.legacyPublicKey ∧
      d.insertedBlockHeight ≤ request.blockHeight := by
  intro request hmem
  have hle := h.height_le request hmem
  cases hpending : pending with
  | none =>
    rw [hkept hpending]
    rcases h.known request hmem with ⟨d, hd, hlegacy⟩ | ⟨e, he, -⟩
    · rcases Nat.lt_or_eq_of_le hle with hlt | heq
      · exact h.stored request hmem hlt
      · have := h.inserted_lt d hd
        exact ⟨d, hd, hlegacy, by omega⟩
    · cases hpending.symm.trans he
  | some e =>
    obtain ⟨d, hd, hsave⟩ := hsaved e hpending
    refine ⟨d, hd, ?_, ?_⟩
    · rcases h.known request hmem with ⟨d₀, hd₀, hlegacy⟩ | ⟨e', he', hlegacy⟩
      · rw [hsave.legacy, ← hsave.legacy_old d₀ hd₀, hlegacy]
      · cases hpending.symm.trans he'
        rw [hsave.legacy, hlegacy]
    · rcases Nat.lt_or_eq_of_le hle with hlt | heq
      · obtain ⟨d₀, hd₀, -, hins⟩ := h.stored request hmem hlt
        rw [hsave.inserted_old d₀ hd₀]
        exact hins
      · rw [heq]
        exact h.inserted_of_saved hpending hsave

theorem completeBlock (h : KeyInv height record pending requests)
    (hkept : pending = none → record' = record)
    (hsaved : ∀ e, pending = some e → ∃ d, record' = some d ∧ SavedRecord e record d) :
    KeyInv (height + 1) record' none requests := by
  have hstored := h.stored_completeBlock hkept hsaved
  -- a record of the completed block is the old one, or the saved one
  have hcases : ∀ d, record' = some d →
      (pending = none ∧ record = some d) ∨ ∃ e, pending = some e ∧ SavedRecord e record d := by
    intro d hd
    cases hpending : pending with
    | none => exact Or.inl ⟨rfl, by rw [← hkept hpending, hd]⟩
    | some e =>
      obtain ⟨d', hd', hsave⟩ := hsaved e hpending
      cases hd.symm.trans hd'
      exact Or.inr ⟨e, rfl, hsave⟩
  refine
    { sorted := h.sorted
      height_le := fun request hmem => Nat.le_succ_of_le (h.height_le request hmem)
      inserted_lt := ?_
      exposed_key := ?_
      stored := fun request hmem _ => hstored request hmem
      known := ?_
      exposed := ?_
      first := ?_
      pendingAs := fun e he => by cases he
      pendingNew := fun e he => by cases he
      pendingHidden := fun e he => by cases he }
  · intro d hd
    rcases hcases d hd with ⟨-, hold⟩ | ⟨e, he, hsave⟩
    · exact Nat.lt_succ_of_lt (h.inserted_lt d hold)
    · exact Nat.lt_succ_of_le (h.inserted_of_saved he hsave)
  · intro d hd hsome
    rcases hcases d hd with ⟨-, hold⟩ | ⟨e, he, hsave⟩
    · exact h.exposed_key d hold hsome
    · obtain ⟨request, has, -⟩ := h.pendingAs e he
      rw [hsave.publicKey, has.publicKey, ← has.expose]
      by_contra hplain
      rw [hsave.exposed, has.exposed, if_neg hplain] at hsome
      cases hsome
  · intro request hmem
    obtain ⟨d, hd, hlegacy, -⟩ := hstored request hmem
    exact Or.inl ⟨d, hd, hlegacy⟩
  · intro d hd hsome
    rcases hcases d hd with ⟨-, hold⟩ | ⟨e, he, hsave⟩
    · obtain ⟨request, hfirst, hby, hlt⟩ := h.exposed d hold hsome
      exact ⟨request, hfirst, hby, Nat.lt_succ_of_lt hlt⟩
    · obtain ⟨request, has, hfirst⟩ := h.pendingAs e he
      have hexpose : e.exposePublicKey := by
        rw [has.expose, ← has.publicKey, ← hsave.publicKey]
        exact hsome
      refine ⟨request, hfirst hexpose, exposedBy_of_saved hsave has hexpose, ?_⟩
      rw [has.current]
      exact Nat.lt_succ_self height
  · intro request hfirst
    left
    rcases h.first request hfirst with ⟨hlt, d, hd, hby⟩ | ⟨e, he, hexpose, has⟩
    · refine ⟨Nat.lt_succ_of_lt hlt, d, ?_, hby⟩
      cases hpending : pending with
      | none => rw [hkept hpending, hd]
      | some e =>
        -- what is pending does not find an exposed record
        have hhidden := h.pendingHidden e hpending d hd
        have hsome := isSome_of_firstExposure hfirst
        rw [← hby.publicKey, hhidden] at hsome
        cases hsome
    · obtain ⟨d, hd, hsave⟩ := hsaved e he
      refine ⟨?_, d, hd, exposedBy_of_saved hsave has hexpose⟩
      rw [has.current]
      exact Nat.lt_succ_self height

/-! Reverting -/

theorem revert (h : KeyInv height record pending requests) {blockId : ℕ}
    (hle : blockId ≤ height) :
    KeyInv blockId (record.bind (revertedRecord blockId)) none
      (requests.filter fun request => request.blockHeight < blockId) := by
  have hmem : ∀ request ∈ requests.filter (fun request => request.blockHeight < blockId),
      request ∈ requests ∧ request.blockHeight < blockId := by
    intro request hrequest
    simpa using List.mem_filter.mp hrequest
  have hrecord : ∀ d', record.bind (revertedRecord blockId) = some d' → ∃ d, record = some d ∧
      d.insertedBlockHeight < blockId ∧
      d' = if d.exposedBlockHeight.any (blockId ≤ ·) then hideKey d else d := by
    intro d' hd'
    obtain ⟨d, hd, hreverted⟩ := Option.bind_eq_some_iff.mp hd'
    unfold revertedRecord at hreverted
    split at hreverted
    · rename_i hlt
      exact ⟨d, hd, hlt, (Option.some.inj hreverted).symm⟩
    · cases hreverted
  have hstored : ∀ request ∈ requests.filter (fun request => request.blockHeight < blockId),
      ∃ d, record = some d ∧ d.legacyPublicKey = request.legacyPublicKey ∧
        d.insertedBlockHeight ≤ request.blockHeight ∧
        record.bind (revertedRecord blockId)
          = some (if d.exposedBlockHeight.any (blockId ≤ ·) then hideKey d else d) := by
    intro request hrequest
    obtain ⟨hrequest, hlt⟩ := hmem request hrequest
    obtain ⟨d, hd, hlegacy, hins⟩ := h.stored request hrequest (by omega)
    refine ⟨d, hd, hlegacy, hins, ?_⟩
    rw [hd, Option.bind_some]
    unfold revertedRecord
    rw [if_pos (by omega)]
  refine
    { sorted := h.sorted.filter _
      height_le := fun request hrequest => (hmem request hrequest).2.le
      inserted_lt := ?_
      exposed_key := ?_
      stored := ?_
      known := ?_
      exposed := ?_
      first := ?_
      pendingAs := fun e he => by cases he
      pendingNew := fun e he => by cases he
      pendingHidden := fun e he => by cases he }
  · intro d' hd'
    obtain ⟨d, -, hlt, rfl⟩ := hrecord d' hd'
    split
    · exact hlt
    · exact hlt
  · intro d' hd' hsome
    obtain ⟨d, hd, -, rfl⟩ := hrecord d' hd'
    split at hsome
    · cases hsome
    · rename_i hkept
      rw [if_neg hkept]
      exact h.exposed_key d hd hsome
  · intro request hrequest _
    obtain ⟨d, -, hlegacy, hins, hd'⟩ := hstored request hrequest
    refine ⟨_, hd', ?_, ?_⟩
    · split
      · exact hlegacy
      · exact hlegacy
    · split
      · exact hins
      · exact hins
  · intro request hrequest
    obtain ⟨d, -, hlegacy, -, hd'⟩ := hstored request hrequest
    refine Or.inl ⟨_, hd', ?_⟩
    split
    · exact hlegacy
    · exact hlegacy
  · intro d' hd' hsome
    obtain ⟨d, hd, hlt, rfl⟩ := hrecord d' hd'
    split at hsome
    · cases hsome
    · rename_i hkept
      rw [if_neg hkept]
      obtain ⟨request, hfirst, hby, -⟩ := h.exposed d hd hsome
      have hbelow : request.blockHeight < blockId := by
        rw [hby.height] at hkept
        by_cases hzero : request.blockHeight = 0
        · omega
        · simpa [hzero, Option.filter] using hkept
      refine ⟨request, ?_, hby, hbelow⟩
      rw [firstExposure_filter h.sorted, hfirst]
      simp [hbelow, Option.filter]
  · intro request hfirst
    left
    rw [firstExposure_filter h.sorted, Option.filter_eq_some_iff] at hfirst
    obtain ⟨hfirst, hbelow⟩ := hfirst
    have hbelow : request.blockHeight < blockId := by simpa using hbelow
    refine ⟨hbelow, ?_⟩
    rcases h.first request hfirst with ⟨-, d, hd, hby⟩ | ⟨e, -, -, has⟩
    · have hin : request ∈ requests := List.mem_of_find?_eq_some hfirst
      obtain ⟨d₀, hd₀, -, hins, hd'⟩ := hstored request (by simp [hin, hbelow])
      cases hd.symm.trans hd₀
      refine ⟨_, hd', ?_⟩
      -- the exposure is below the height the revert goes back to
      have hkept : ¬ d.exposedBlockHeight.any (blockId ≤ ·) := by
        rw [hby.height]
        by_cases hzero : request.blockHeight = 0
        · simp [hzero, Option.filter]
        · simp [hzero, Option.filter]
          omega
      rw [if_neg hkept]
      exact hby
    · have := has.current
      omega

end KeyInv

end OpnetNode
