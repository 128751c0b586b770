import OpnetNode.Sync.ChainSynchronisation

/-!
# What an event does to the bundles

A bundle goes from the queue to the pending save, and from there to the inserts.

* `step_effect`: what an event can do to these three.
* `Effect.mem_queue`, `Effect.batch_eq`, `Effect.inserts_eq`: where the bundles of each come from.
* `step_queries`: an event adds no call that waits for a block, other than a new one.
-/

namespace OpnetNode

namespace ChainSynchronisation

variable {config : SyncConfig} {s s' : ChainSynchronisation} {e : SyncEvent}

/-- An event that moves no bundle. -/
def Neutral (config : SyncConfig) (s : ChainSynchronisation) : SyncEvent → Prop
  | .inserted _ => False
  | .blockFetched id _ _ =>
    ∀ query, queryIn id .getBlock s = some query → indexable config query.blockNumber = false
  | _ => True

/-- What an event can do to the queue, the pending save and the inserts. -/
inductive Effect (config : SyncConfig) (s s' : ChainSynchronisation) : SyncEvent → Prop where
  | idle {e : SyncEvent} (hneutral : Neutral config s e)
      (hqueue : s'.unspentTransactionOutputs = s.unspentTransactionOutputs)
      (hpending : s'.pendingSave = s.pendingSave) (hinserts : s'.inserts = s.inserts) :
      Effect config s s' e
  | pushed {query : Query} {hash : Bytes} {transactions : List TransactionBasic}
      (hquery : queryIn query.id .getBlock s = some query)
      (hqueue : s'.unspentTransactionOutputs
        = s.unspentTransactionOutputs ++ [⟨query.id, ⟨query.blockNumber, transactions⟩⟩])
      (hpending : s'.pendingSave = s.pendingSave) (hinserts : s'.inserts = s.inserts) :
      Effect config s s' (.blockFetched query.id hash transactions)
  | saving {e : SyncEvent} (hneutral : Neutral config s e)
      (hnone : s.pendingSave = none)
      (hpending : s'.pendingSave = some ⟨s.unspentTransactionOutputs, .processPublicKeys⟩)
      (hqueue : s'.unspentTransactionOutputs = []) (hinserts : s'.inserts = s.inserts) :
      Effect config s s' e
  | keysProcessed {utxoBatch : List Bundle}
      (hbefore : s.pendingSave = some ⟨utxoBatch, .processPublicKeys⟩)
      (hpending : s'.pendingSave = some ⟨utxoBatch, .insertTransactions⟩)
      (hqueue : s'.unspentTransactionOutputs = s.unspentTransactionOutputs)
      (hinserts : s'.inserts = s.inserts) : Effect config s s' .publicKeysProcessed
  | inserted {utxoBatch : List Bundle} {succeeded : Bool}
      (hbefore : s.pendingSave = some ⟨utxoBatch, .insertTransactions⟩)
      (hpending : s'.pendingSave = some ⟨utxoBatch, .tagAnyoneCanSpend⟩)
      (hqueue : s'.unspentTransactionOutputs = s.unspentTransactionOutputs)
      (hinserts : s'.inserts = s.inserts ++ [⟨utxoBatch, succeeded⟩]) :
      Effect config s s' (.inserted succeeded)
  | saved {utxoBatch : List Bundle}
      (hbefore : s.pendingSave = some ⟨utxoBatch, .tagAnyoneCanSpend⟩)
      (hpending : s'.pendingSave = none)
      (hqueue : s'.unspentTransactionOutputs = s.unspentTransactionOutputs)
      (hinserts : s'.inserts = s.inserts) : Effect config s s' .saved

theorem mem_of_queryIn {id : ℕ} {phase : QueryPhase} {query : Query}
    (h : queryIn id phase s = some query) :
    query ∈ s.queries ∧ query.id = id ∧ query.phase = phase := by
  have hp := List.find?_some h
  simp only [Bool.and_eq_true, decide_eq_true_eq] at hp
  exact ⟨List.mem_of_find?_eq_some h, hp.1, hp.2⟩

theorem effect_saveUTXOs {t : ChainSynchronisation} (hneutral : Neutral config s e)
    (hqueue : t.unspentTransactionOutputs = s.unspentTransactionOutputs)
    (hpending : t.pendingSave = s.pendingSave) (hinserts : t.inserts = s.inserts) :
    Effect config s (saveUTXOs t) e := by
  unfold saveUTXOs
  cases hp : t.pendingSave with
  | some _ => exact .idle hneutral hqueue hpending hinserts
  | none => exact .saving hneutral (hpending ▸ hp) (by rw [hqueue]) rfl hinserts

theorem step_effect (h : step config s e = some s') : Effect config s s' e := by
  -- a fetched block pushes a bundle, the save moves the bundles on, and the rest moves none
  cases e with
  | queryBlock blockNumber =>
    cases h
    exact .idle trivial rfl rfl rfl
  | blockFetched id hash transactions =>
    rw [step, Option.bind_eq_some_iff] at h
    obtain ⟨query, hquery, h⟩ := h
    obtain ⟨-, rfl, -⟩ := mem_of_queryIn hquery
    split at h
    · cases h
    · cases h
      unfold queryUTXOs
      split
      · exact .pushed hquery rfl rfl rfl
      · rename_i hindexable
        refine .idle (fun query' hquery' => ?_) rfl rfl rfl
        cases hquery.symm.trans hquery'
        exact Bool.eq_false_iff.mpr hindexable
  | deserializeFailed id hash =>
    rw [step, Option.bind_eq_some_iff] at h
    obtain ⟨query, -, h⟩ := h
    split at h
    · cases h
    · cases h
      exact .idle trivial rfl rfl rfl
  | fetchFailed | blockMissing | retryTimerElapsed =>
    rw [step, Option.map_eq_some_iff] at h
    obtain ⟨query, -, rfl⟩ := h
    exact .idle trivial rfl rfl rfl
  | chainHeightKnown id chainHeight =>
    rw [step, Option.map_eq_some_iff] at h
    obtain ⟨query, -, rfl⟩ := h
    split
    · exact .idle trivial rfl rfl rfl
    · exact .idle trivial rfl rfl rfl
  | nextTick =>
    rw [step] at h
    split at h
    · cases h
    · split at h
      · cases h
        exact effect_saveUTXOs trivial rfl rfl rfl
      · cases h
        exact .idle trivial rfl rfl rfl
  | saveLoop blockHeight =>
    rw [step] at h
    split at h
    · cases h
      exact effect_saveUTXOs trivial rfl rfl rfl
    · cases h
      exact .idle trivial rfl rfl rfl
  | publicKeysProcessed =>
    rw [step] at h
    split at h
    · rename_i utxoBatch hp
      cases h
      exact .keysProcessed hp rfl rfl rfl
    · cases h
  | inserted succeeded =>
    rw [step] at h
    split at h
    · rename_i utxoBatch hp
      cases h
      exact .inserted hp rfl rfl rfl
    · cases h
  | saved =>
    rw [step] at h
    split at h
    · rename_i utxoBatch hp
      cases h
      exact .saved hp rfl rfl rfl
    · cases h

/-! ### Where the bundles come from -/

theorem Effect.mem_queue (h : Effect config s s' e) {utxo : Bundle}
    (hmem : utxo ∈ s'.unspentTransactionOutputs) :
    utxo ∈ s.unspentTransactionOutputs ∨ ∃ query transactions,
      queryIn query.id .getBlock s = some query
        ∧ utxo = ⟨query.id, ⟨query.blockNumber, transactions⟩⟩ := by
  cases h with
  | idle _ hqueue => exact .inl (hqueue ▸ hmem)
  | @pushed query hash transactions hquery hqueue =>
    rw [hqueue] at hmem
    rcases List.mem_append.mp hmem with hold | hpushed
    · exact .inl hold
    · exact .inr ⟨query, transactions, hquery, List.mem_singleton.mp hpushed⟩
  | saving _ _ _ hqueue =>
    rw [hqueue] at hmem
    cases hmem
  | keysProcessed _ _ hqueue => exact .inl (hqueue ▸ hmem)
  | inserted _ _ hqueue => exact .inl (hqueue ▸ hmem)
  | saved _ _ hqueue => exact .inl (hqueue ▸ hmem)

theorem Effect.batch_eq (h : Effect config s s' e) {save : PendingSave}
    (hsave : s'.pendingSave = some save) :
    save.utxoBatch = s.unspentTransactionOutputs
      ∨ ∃ before, s.pendingSave = some before ∧ save.utxoBatch = before.utxoBatch := by
  cases h with
  | idle _ _ hpending => exact .inr ⟨save, hpending ▸ hsave, rfl⟩
  | pushed _ _ hpending => exact .inr ⟨save, hpending ▸ hsave, rfl⟩
  | saving _ _ hpending =>
    cases hpending.symm.trans hsave
    exact .inl rfl
  | keysProcessed hbefore hpending =>
    cases hpending.symm.trans hsave
    exact .inr ⟨_, hbefore, rfl⟩
  | inserted hbefore hpending =>
    cases hpending.symm.trans hsave
    exact .inr ⟨_, hbefore, rfl⟩
  | saved _ hpending => cases hpending.symm.trans hsave

theorem Effect.inserts_eq (h : Effect config s s' e) :
    s'.inserts = s.inserts ∨ ∃ save succeeded, s.pendingSave = some save
      ∧ s'.inserts = s.inserts ++ [⟨save.utxoBatch, succeeded⟩] := by
  cases h with
  | idle _ _ _ hinserts => exact .inl hinserts
  | pushed _ _ _ hinserts => exact .inl hinserts
  | saving _ _ _ _ hinserts => exact .inl hinserts
  | keysProcessed _ _ _ hinserts => exact .inl hinserts
  | inserted hbefore _ _ hinserts => exact .inr ⟨_, _, hbefore, hinserts⟩
  | saved _ _ _ hinserts => exact .inl hinserts

/-! ### The calls that wait for a block -/

/-- A call that waits for a block was there before, or is new. -/
def OnlyNewQueries (s s' : ChainSynchronisation) : Prop :=
  s.nextQuery ≤ s'.nextQuery ∧ ∀ query ∈ s'.queries, query.phase = .getBlock →
    query ∈ s.queries ∨ query.id = s.nextQuery

theorem onlyNewQueries_of_sublist (hnext : s'.nextQuery = s.nextQuery)
    (hqueries : s'.queries.Sublist s.queries) : OnlyNewQueries s s' :=
  ⟨hnext.ge, fun _ hmem _ => .inl (hqueries.subset hmem)⟩

theorem onlyNewQueries_endQuery (id : ℕ) (s : ChainSynchronisation) :
    OnlyNewQueries s (endQuery id s) :=
  onlyNewQueries_of_sublist rfl List.filter_sublist

theorem onlyNewQueries_moveQuery (id : ℕ) (phase : QueryPhase) (hphase : phase ≠ .getBlock)
    (s : ChainSynchronisation) : OnlyNewQueries s (moveQuery id phase s) := by
  refine ⟨le_rfl, ?_⟩
  intro query hmem hwaits
  obtain ⟨query₀, hmem₀, rfl⟩ := List.mem_map.mp hmem
  split at hwaits
  · exact absurd hwaits hphase
  · rename_i hid
    rw [if_neg hid]
    exact .inl hmem₀

/-- A new call gets the next number; `t` is `s` after some calls have ended. -/
theorem onlyNewQueries_queryBlock (blockNumber : ℕ) {t : ChainSynchronisation}
    (hnext : t.nextQuery = s.nextQuery) (hqueries : t.queries.Sublist s.queries) :
    OnlyNewQueries s (queryBlock blockNumber t) := by
  constructor
  · show s.nextQuery ≤ t.nextQuery + 1
    omega
  · intro query hquery _
    rcases List.mem_append.mp hquery with hold | hnew
    · exact .inl (hqueries.subset hold)
    · rw [List.mem_singleton.mp hnew]
      exact .inr hnext

theorem onlyNewQueries_saveUTXOs {t : ChainSynchronisation} (hnext : t.nextQuery = s.nextQuery)
    (hqueries : t.queries = s.queries) : OnlyNewQueries s (saveUTXOs t) := by
  unfold saveUTXOs
  split
  · exact onlyNewQueries_of_sublist hnext (hqueries ▸ List.Sublist.refl _)
  · exact onlyNewQueries_of_sublist hnext (hqueries ▸ List.Sublist.refl _)

theorem step_queries (h : step config s e = some s') : OnlyNewQueries s s' := by
  have hsame : s'.nextQuery = s.nextQuery → s'.queries = s.queries → OnlyNewQueries s s' :=
    fun hnext hqueries => onlyNewQueries_of_sublist hnext (hqueries ▸ List.Sublist.refl _)
  cases e with
  | queryBlock blockNumber =>
    cases h
    exact onlyNewQueries_queryBlock blockNumber rfl (List.Sublist.refl _)
  | blockFetched id hash transactions =>
    rw [step, Option.bind_eq_some_iff] at h
    obtain ⟨query, -, h⟩ := h
    split at h
    · cases h
    · cases h
      unfold queryUTXOs
      split <;> exact onlyNewQueries_of_sublist rfl List.filter_sublist
  | deserializeFailed id hash =>
    rw [step, Option.bind_eq_some_iff] at h
    obtain ⟨query, -, h⟩ := h
    split at h
    · cases h
    · cases h
      exact onlyNewQueries_of_sublist rfl List.filter_sublist
  | fetchFailed id =>
    rw [step, Option.map_eq_some_iff] at h
    obtain ⟨query, -, rfl⟩ := h
    exact onlyNewQueries_endQuery id s
  | blockMissing id =>
    rw [step, Option.map_eq_some_iff] at h
    obtain ⟨query, -, rfl⟩ := h
    exact onlyNewQueries_moveQuery id .chainHeight nofun s
  | chainHeightKnown id chainHeight =>
    rw [step, Option.map_eq_some_iff] at h
    obtain ⟨query, -, rfl⟩ := h
    split
    · exact onlyNewQueries_endQuery id s
    · exact onlyNewQueries_moveQuery id .retryTimer nofun s
  | retryTimerElapsed id =>
    -- a retry asks under a number of its own
    rw [step, Option.map_eq_some_iff] at h
    obtain ⟨query, -, rfl⟩ := h
    exact onlyNewQueries_queryBlock query.blockNumber rfl List.filter_sublist
  | nextTick =>
    rw [step] at h
    split at h
    · cases h
    · split at h
      · cases h
        exact onlyNewQueries_saveUTXOs rfl rfl
      · cases h
        exact hsame rfl rfl
  | saveLoop blockHeight =>
    rw [step] at h
    split at h
    · cases h
      exact onlyNewQueries_saveUTXOs rfl rfl
    · cases h
      exact hsame rfl rfl
  | publicKeysProcessed | inserted | saved =>
    rw [step] at h
    split at h
    · cases h
      exact hsame rfl rfl
    · cases h

end ChainSynchronisation

end OpnetNode
