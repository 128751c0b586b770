import OpnetNode.Mempool.MempoolAggregations

/-!
# Which spends are found

The documents are cut after `UTXO_LIMIT` of those that spend any output of the transactions listed,
and narrowed to the outpoints only then. A listed outpoint is found exactly if it is spent by a
document before the cut (`fetch_eq_ok`).
-/

namespace OpnetNode.MempoolRepository

open Aggregation

variable {txs : List SpentOutPoint} {mempool : Collection SpendingTransaction} {UTXO_LIMIT : ℕ}

theorem outpointKey_injective {o o' : SpentOutPoint} (h : outpointKey o = outpointKey o') :
    o = o' := by
  obtain ⟨hid, hindex⟩ := joined_injective h
  cases o
  cases o'
  simp_all

theorem mem_inputSet {o : SpentOutPoint} : outpointKey o ∈ txs.map outpointKey ↔ o ∈ txs := by
  constructor
  · intro h
    obtain ⟨o', ho', hkey⟩ := List.mem_map.mp h
    exact outpointKey_injective hkey ▸ ho'
  · exact List.mem_map_of_mem

/-- The outpoint is spent by one of the documents before the cut. -/
def SpentBeforeCut (UTXO_LIMIT : ℕ) (txs : List SpentOutPoint)
    (mempool : Collection SpendingTransaction) (o : SpentOutPoint) : Prop :=
  ∃ d ∈ (spendingListed txs mempool).take UTXO_LIMIT, o ∈ d.inputs

theorem mem_of_mem_take_spendingListed {d : SpendingTransaction}
    (h : d ∈ (spendingListed txs mempool).take UTXO_LIMIT) : d ∈ mempool :=
  List.mem_of_mem_filter (List.mem_of_mem_take h)

/-- Where the limit is accepted, the listed outpoints that are spent before the cut are returned, each
once. -/
theorem fetch_eq_ok (txs : List SpentOutPoint) (mempool : Collection SpendingTransaction)
    (hlimit : 0 < UTXO_LIMIT) :
    ∃ result, fetchSpentUnspentTransactions UTXO_LIMIT txs mempool = .ok result ∧ result.Nodup ∧
      ∀ o, o ∈ result ↔ o ∈ txs ∧ SpentBeforeCut UTXO_LIMIT txs mempool o := by
  have hlimited : limit UTXO_LIMIT (spendingListed txs mempool) = _ :=
    limit_eq_ok.mpr ⟨hlimit, rfl⟩
  rw [fetchSpentUnspentTransactions, hlimited]
  refine ⟨_, rfl, (nodup_distinct _).filter _, ?_⟩
  intro o
  rw [List.mem_filter, mem_distinct, List.contains_iff_mem, mem_inputSet]
  constructor
  · rintro ⟨hfound, hlisted⟩
    obtain ⟨⟨d, input⟩, hunwound, rfl⟩ := List.mem_map.mp hfound
    obtain ⟨hd, hinput⟩ := mem_unwind.mp (List.mem_of_mem_filter hunwound)
    exact ⟨hlisted, d, hd, hinput⟩
  · rintro ⟨hlisted, d, hd, hinput⟩
    refine ⟨List.mem_map.mpr ⟨(d, o), ?_, rfl⟩, hlisted⟩
    rw [List.mem_filter]
    exact ⟨mem_unwind.mpr ⟨hd, hinput⟩, List.contains_iff_mem.mpr (List.mem_map_of_mem hlisted)⟩

/-- The listed outpoints that some stored transaction spends, each once. -/
def SpentListed (txs : List SpentOutPoint) (mempool : Collection SpendingTransaction)
    (result : List SpentOutPoint) : Prop :=
  result.Nodup ∧ ∀ o, o ∈ result ↔ o ∈ txs ∧ ∃ d ∈ mempool, o ∈ d.inputs

theorem limit_pos {result : List SpentOutPoint}
    (h : fetchSpentUnspentTransactions UTXO_LIMIT txs mempool = .ok result) : 0 < UTXO_LIMIT := by
  rw [fetchSpentUnspentTransactions] at h
  obtain ⟨limited, hlimited, -⟩ := exceptBind_eq_ok h
  exact (limit_eq_ok.mp hlimited).1

theorem spentBeforeCut_of_spentListed {result : List SpentOutPoint}
    (hresult : fetchSpentUnspentTransactions UTXO_LIMIT txs mempool = .ok result)
    (hexact : SpentListed txs mempool result) {o : SpentOutPoint} (ho : o ∈ txs)
    (hspent : ∃ d ∈ mempool, o ∈ d.inputs) : SpentBeforeCut UTXO_LIMIT txs mempool o := by
  obtain ⟨result', hresult', -, hcut⟩ := fetch_eq_ok txs mempool (limit_pos hresult)
  rw [hresult] at hresult'
  cases hresult'
  exact ((hcut o).mp ((hexact.2 o).mpr ⟨ho, hspent⟩)).2

/-- **The filter is exact if and only if the cut leaves a spend of each listed outpoint that is
spent.** -/
theorem fetchSpentUnspentTransactions_exact_iff (UTXO_LIMIT : ℕ) (txs : List SpentOutPoint)
    (mempool : Collection SpendingTransaction) :
    (∃ result, fetchSpentUnspentTransactions UTXO_LIMIT txs mempool = .ok result ∧
        SpentListed txs mempool result) ↔
      0 < UTXO_LIMIT ∧ ∀ o ∈ txs, (∃ d ∈ mempool, o ∈ d.inputs) →
        SpentBeforeCut UTXO_LIMIT txs mempool o := by
  constructor
  · rintro ⟨result, hresult, hexact⟩
    refine ⟨limit_pos hresult, ?_⟩
    intro o ho hspent
    exact spentBeforeCut_of_spentListed hresult hexact ho hspent
  · rintro ⟨hlimit, hcut⟩
    obtain ⟨result, hresult, hnodup, hmem⟩ := fetch_eq_ok txs mempool hlimit
    refine ⟨result, hresult, hnodup, ?_⟩
    intro o
    rw [hmem o]
    constructor
    · rintro ⟨ho, d, hd, hinput⟩
      exact ⟨ho, d, mem_of_mem_take_spendingListed hd, hinput⟩
    · rintro ⟨ho, hspent⟩
      exact ⟨ho, hcut o ho hspent⟩

/-- As many transactions as the limit allows spend other outputs of the transaction `f`; the last one
spends the output that is listed. -/
def siblingSpends : Collection SpendingTransaction :=
  (List.range 2000).map (fun i => ⟨toString i, [⟨"f", i + 1⟩]⟩) ++ [⟨"last", [⟨"f", 0⟩]⟩]

theorem fetchSpentUnspentTransactions_misses :
    ¬ ∃ result, fetchSpentUnspentTransactions 2000 [⟨"f", 0⟩] siblingSpends = .ok result ∧
      SpentListed [⟨"f", 0⟩] siblingSpends result := by
  rintro ⟨result, hresult, hexact⟩
  have hlast : ∃ d ∈ siblingSpends, (⟨"f", 0⟩ : SpentOutPoint) ∈ d.inputs :=
    ⟨⟨"last", [⟨"f", 0⟩]⟩, by simp [siblingSpends], List.mem_singleton_self _⟩
  obtain ⟨d, hd, hinput⟩ :=
    spentBeforeCut_of_spentListed hresult hexact (List.mem_singleton_self _) hlast
  have hall : spendingListed [⟨"f", 0⟩] siblingSpends = siblingSpends := by
    rw [spendingListed, List.filter_eq_self]
    intro tx htx
    rcases List.mem_append.mp htx with htx | htx
    · obtain ⟨i, -, rfl⟩ := List.mem_map.mp htx
      simp
    · rw [List.mem_singleton.mp htx]
      simp
  have htake : siblingSpends.take 2000 =
      (List.range 2000).map (fun i => ⟨toString i, [⟨"f", i + 1⟩]⟩) :=
    List.take_left' (by simp)
  rw [hall, htake] at hd
  obtain ⟨i, -, rfl⟩ := List.mem_map.mp hd
  simp at hinput

end OpnetNode.MempoolRepository
