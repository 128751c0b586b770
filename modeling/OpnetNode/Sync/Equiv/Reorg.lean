import OpnetNode.Sync.Equiv.ChainSynchronisation
import OpnetNode.Sync.ChainSynchronisation

/-!
# No stale UTXO after a reorg

A bundle is stale for a reorg if its block is at or above the reorg's height and was asked for before
the reorg.

* `ReorgInv`: what is stale for a reorg can only be in the save that the reorg waits for.
* `reorgInv_step`: kept by every event, if no call for a height that the reorg drops is waiting for
  its block when the message comes.
* `noStaleUtxo`: so along every such run, nothing stale is left once the collection was purged.
* `noStaleUtxo_inFlight`: a block that arrives after the message brings a stale bundle.
-/

namespace OpnetNode

namespace SyncReorg

/-- A bundle from before a reorg, of a block that the reorg drops. -/
def stale (reorg : ReorgMessage) (utxo : Bundle) : Bool :=
  decide (reorg.fromHeight ≤ utxo.block.blockHeight) && decide (utxo.query < reorg.nextQuery)

/-- Once the collection was purged, no stale bundle is in the queue or in a save, or was written
since. -/
def NoStaleUtxo (s : SyncReorg) : Prop :=
  ∀ reorg ∈ s.reorgs, ∀ inserts, reorg.status = .purged inserts →
    (∀ utxo ∈ s.sync.unspentTransactionOutputs, ¬ stale reorg utxo)
    ∧ (∀ save, s.sync.pendingSave = some save → ∀ utxo ∈ save.utxoBatch, ¬ stale reorg utxo)
    ∧ ∀ insert ∈ s.sync.inserts.drop inserts, ∀ utxo ∈ insert.utxoBatch, ¬ stale reorg utxo

/-- When the message comes, no call for a height that the reorg drops is waiting for its block. -/
def NoFetchInFlight (s : SyncReorg) : ReorgEvent → Prop
  | .chainReorg fromHeight =>
    ∀ query ∈ s.sync.queries, query.phase = .getBlock → query.blockNumber < fromHeight
  | _ => True

/-- What holds of a reorg from its message on. -/
structure ReorgInv (sync : ChainSynchronisation) (reorg : ReorgMessage) : Prop where
  nextQuery : reorg.nextQuery ≤ sync.nextQuery
  /-- A call that waits for a block is new, or for a lower block. -/
  queries : ∀ query ∈ sync.queries, query.phase = .getBlock →
    query.blockNumber < reorg.fromHeight ∨ reorg.nextQuery ≤ query.id
  queue : ∀ utxo ∈ sync.unspentTransactionOutputs, ¬ stale reorg utxo
  /-- Only the save that `onReorg` waits for has stale bundles. -/
  pendingSave : reorg.status ≠ .awaitUTXOWrites →
    ∀ save, sync.pendingSave = some save → ∀ utxo ∈ save.utxoBatch, ¬ stale reorg utxo
  purgedAt : ∀ inserts, reorg.status = .purged inserts → inserts ≤ sync.inserts.length
  inserts : ∀ inserts, reorg.status = .purged inserts →
    ∀ insert ∈ sync.inserts.drop inserts, ∀ utxo ∈ insert.utxoBatch, ¬ stale reorg utxo

variable {reorg : ReorgMessage}

theorem not_stale_of_query {query : Query}
    (h : query.blockNumber < reorg.fromHeight ∨ reorg.nextQuery ≤ query.id)
    (transactions : List TransactionBasic) :
    ¬ stale reorg ⟨query.id, ⟨query.blockNumber, transactions⟩⟩ := by
  simp only [stale, Bool.and_eq_true, decide_eq_true_eq]
  omega

variable {sync : ChainSynchronisation}

/-- An event of the thread. -/
theorem reorgInv_sync {config : SyncConfig} {sync' : ChainSynchronisation}
    {e : ChainSynchronisation.SyncEvent}
    (h : ReorgInv sync reorg) (hstep : sync.step config e = some sync') :
    ReorgInv sync' reorg := by
  obtain ⟨hnext, hqueries⟩ := ChainSynchronisation.step_queries hstep
  have heffect := ChainSynchronisation.step_effect hstep
  refine ⟨le_trans h.nextQuery hnext, ?_, ?_, ?_, ?_, ?_⟩
  · intro query hmem hphase
    rcases hqueries query hmem hphase with hold | hnew
    · exact h.queries query hold hphase
    · right
      rw [hnew]
      exact h.nextQuery
  · intro utxo hutxo
    rcases heffect.mem_queue hutxo with hold | ⟨query, transactions, hquery, rfl⟩
    · exact h.queue utxo hold
    · obtain ⟨hmem, -, hphase⟩ := ChainSynchronisation.mem_of_queryIn hquery
      exact not_stale_of_query (h.queries query hmem hphase) transactions
  · intro hstatus save hsave
    rcases heffect.batch_eq hsave with hqueue | ⟨before, hbefore, hbatch⟩
    · -- a save that starts takes the queue
      rw [hqueue]
      exact h.queue
    · rw [hbatch]
      exact h.pendingSave hstatus before hbefore
  · intro inserts hstatus
    have hle := h.purgedAt inserts hstatus
    rcases heffect.inserts_eq with hsame | ⟨save, succeeded, -, hinserts⟩
    · rw [hsame]
      exact hle
    · rw [hinserts, List.length_append]
      omega
  · intro inserts hstatus insert hinsert
    rcases heffect.inserts_eq with hsame | ⟨save, succeeded, hsave, hinserts⟩
    · rw [hsame] at hinsert
      exact h.inserts inserts hstatus insert hinsert
    · -- after the purge, what is written comes from a save without stale bundles
      rw [hinserts, List.drop_append_of_le_length (h.purgedAt inserts hstatus)] at hinsert
      rcases List.mem_append.mp hinsert with hold | hnew
      · exact h.inserts inserts hstatus insert hold
      · rw [List.mem_singleton.mp hnew]
        refine h.pendingSave ?_ save hsave
        rw [hstatus]
        nofun

theorem reorgInv_onReorg
    (h : ReorgInv sync reorg) (fromHeight : ℕ) : ReorgInv (sync.onReorg fromHeight) reorg :=
  ⟨h.nextQuery, h.queries, fun utxo hutxo => h.queue utxo (List.mem_of_mem_filter hutxo),
    h.pendingSave, h.purgedAt, h.inserts⟩

theorem reorgInv_chainReorg {fromHeight : ℕ}
    (hok : ∀ query ∈ sync.queries, query.phase = .getBlock → query.blockNumber < fromHeight) :
    ReorgInv (sync.onReorg fromHeight)
      { fromHeight
        nextQuery := sync.nextQuery
        status := if sync.pendingSave.isSome then .awaitUTXOWrites else .returned } := by
  refine ⟨le_rfl, fun query hmem hphase => .inl (hok query hmem hphase), ?_, ?_, ?_, ?_⟩
  · intro utxo hutxo
    have hlt : utxo.block.blockHeight < fromHeight := by
      simpa using (List.mem_filter.mp hutxo).2
    simp only [stale, Bool.and_eq_true, decide_eq_true_eq]
    omega
  · intro hstatus save hsave
    have hsave : sync.pendingSave = some save := hsave
    exact absurd (by simp [hsave]) hstatus
  · intro inserts hstatus
    split at hstatus <;> cases hstatus
  · intro inserts hstatus
    split at hstatus <;> cases hstatus

theorem moveReorg_cases {i : ℕ} {status status' : ReorgStatus} {s s' : SyncReorg}
    (h : moveReorg i status status' s = some s') :
    ∃ reorg ∈ s.reorgs, reorg.status = status
      ∧ s' = { s with reorgs := s.reorgs.set i { reorg with status := status' } } := by
  unfold moveReorg at h
  rw [Option.bind_eq_some_iff] at h
  obtain ⟨reorg, hreorg, h⟩ := h
  split at h
  · rename_i hstatus
    exact ⟨reorg, List.mem_of_getElem? hreorg, hstatus, (Option.some.inj h).symm⟩
  · cases h

theorem reorgInv_step {config : SyncConfig} (s : SyncReorg) (e : ReorgEvent) (s' : SyncReorg)
    (h : ∀ reorg ∈ s.reorgs, ReorgInv s.sync reorg) (hok : NoFetchInFlight s e)
    (hstep : step config s e = some s') : ∀ reorg ∈ s'.reorgs, ReorgInv s'.sync reorg := by
  cases e with
  | sync e =>
    rw [step, Option.map_eq_some_iff] at hstep
    obtain ⟨sync, hsync, rfl⟩ := hstep
    exact fun reorg hmem => reorgInv_sync (h reorg hmem) hsync
  | chainReorg fromHeight =>
    obtain rfl := Option.some.inj hstep
    intro reorg hmem
    rcases List.mem_append.mp hmem with hold | hnew
    · exact reorgInv_onReorg (h reorg hold) fromHeight
    · rw [List.mem_singleton.mp hnew]
      exact reorgInv_chainReorg hok
  | reorgReturned i =>
    rw [step] at hstep
    split at hstep
    · cases hstep
    · -- nothing is being saved, so the save it waited for is over
      rename_i hnone
      obtain ⟨reorg, hreorg, hstatus, rfl⟩ := moveReorg_cases hstep
      intro reorg' hmem
      rcases List.mem_or_eq_of_mem_set hmem with hold | rfl
      · exact h reorg' hold
      · have hinv := h reorg hreorg
        refine ⟨hinv.nextQuery, hinv.queries, hinv.queue, ?_, nofun, nofun⟩
        intro _ save hsave
        have hsave : s.sync.pendingSave = some save := hsave
        exact absurd (by simp [hsave]) hnone
  | purgeUtxos i =>
    obtain ⟨reorg, hreorg, hstatus, rfl⟩ := moveReorg_cases hstep
    intro reorg' hmem
    rcases List.mem_or_eq_of_mem_set hmem with hold | rfl
    · exact h reorg' hold
    · have hinv := h reorg hreorg
      refine ⟨hinv.nextQuery, hinv.queries, hinv.queue, ?_, ?_, ?_⟩
      · intro _
        refine hinv.pendingSave ?_
        rw [hstatus]
        nofun
      · -- no batch has been inserted since the purge
        intro inserts hpurged
        obtain rfl := ReorgStatus.purged.inj hpurged
        exact le_rfl
      · intro inserts hpurged insert hinsert
        obtain rfl := ReorgStatus.purged.inj hpurged
        rw [List.drop_length] at hinsert
        cases hinsert

/-- **No stale UTXO after a reorg.** In every run in which no call for a height that a reorg drops is
waiting for its block when the reorg's message comes, nothing from before a reorg is left, or
written, once the collection was purged. -/
theorem noStaleUtxo (config : SyncConfig) (events : List ReorgEvent) (s : SyncReorg)
    (hok : Meets (step config) NoFetchInFlight initial events)
    (hrun : runFrom (step config) initial events = some s) : NoStaleUtxo s := by
  have hinv := invariant_runFrom (P := fun s : SyncReorg => ∀ reorg ∈ s.reorgs, ReorgInv s.sync reorg)
    reorgInv_step events initial s (fun _ hmem => nomatch hmem) hok hrun
  intro reorg hmem inserts hstatus
  have hreorg := hinv reorg hmem
  refine ⟨hreorg.queue, hreorg.pendingSave ?_, hreorg.inserts inserts hstatus⟩
  rw [hstatus]
  nofun

instance decidableNoFetchInFlight (s : SyncReorg) : ∀ e, Decidable (NoFetchInFlight s e)
  | .chainReorg fromHeight =>
    inferInstanceAs (Decidable
      (∀ query ∈ s.sync.queries, query.phase = .getBlock → query.blockNumber < fromHeight))
  | .sync _ => isTrue trivial
  | .reorgReturned _ => isTrue trivial
  | .purgeUtxos _ => isTrue trivial

/-- Blocks 4 and 5 were fetched, and are being saved when the reorg of block 5 comes. -/
def savedRun : List ReorgEvent :=
  [.sync (.queryBlock 4), .sync (.queryBlock 5), .sync (.blockFetched 0 [4] []),
    .sync (.blockFetched 1 [5] []), .sync .nextTick, .chainReorg 5, .sync .publicKeysProcessed,
    .sync (.inserted true), .sync .saved, .reorgReturned 0, .purgeUtxos 0, .sync (.queryBlock 5),
    .sync (.blockFetched 2 [6] []), .sync .nextTick]

theorem noStaleUtxo_savedRun : ∃ s, runFrom (step ⟨0⟩) initial savedRun = some s ∧
    (s.reorgs.any fun reorg => reorg.status = .purged 1) ∧ NoStaleUtxo s := by
  have hstate : (runFrom (step ⟨0⟩) initial savedRun).map
      (fun s => s.reorgs.any fun reorg => reorg.status = .purged 1) = some true := by
    decide +kernel
  obtain ⟨s, hrun, hpurged⟩ := Option.map_eq_some_iff.mp hstate
  exact ⟨s, hrun, hpurged, noStaleUtxo ⟨0⟩ savedRun s (by decide +kernel) hrun⟩

/-- Block 5 is asked for, and arrives after the reorg of block 5 has been handled. -/
def inFlightRun : List ReorgEvent :=
  [.sync (.queryBlock 5), .chainReorg 5, .purgeUtxos 0, .sync (.blockFetched 0 [5] [])]

theorem noStaleUtxo_inFlight : ¬ ∀ events s,
    runFrom (step ⟨0⟩) initial events = some s → NoStaleUtxo s := by
  intro h
  have hstate : (runFrom (step ⟨0⟩) initial inFlightRun).map
      (fun s => (s.reorgs, s.sync.unspentTransactionOutputs))
      = some ([⟨5, 1, .purged 0⟩], [⟨0, ⟨5, []⟩⟩]) := by
    decide +kernel
  obtain ⟨s, hrun, hfields⟩ := Option.map_eq_some_iff.mp hstate
  obtain ⟨hreorgs, hqueue⟩ := Prod.mk.inj hfields
  have hnot := (h inFlightRun s hrun ⟨5, 1, .purged 0⟩ (by simp [hreorgs]) 0 rfl).1
  exact hnot ⟨0, ⟨5, []⟩⟩ (by simp [hqueue]) (by decide)

end SyncReorg

end OpnetNode
