import OpnetNode.Mempool.MempoolAggregations

/-!
# The two listings of pending outputs

The rows of a transaction come one after the other, so a fold goes over the transactions, a block of
rows for each. The list of ids takes every block in once. The object of positions does so for every
block but the first: the position 0 counts as false, and a second row of the first transaction is taken
for new (`foldl_reduceSeen_first`).

* `listing`: what both pipelines are meant to return.
* `mongodb7_eq_ok`, `mongodb8_eq_ok`: when they do.
-/

namespace OpnetNode.MempoolRepository

open Aggregation

variable {address : String} {UTXO_LIMIT : ℕ}

/-! ### Rows -/

def rowsOf (address : String) (tx : PayingTransaction) : List PendingRow :=
  (tx.outputs.filter fun output => output.address = some address).map fun output =>
    ⟨tx.id, output.outputIndex, output.data, output.address, output.value, tx.data⟩

/-- The transactions with an output that pays the address. -/
def paying (address : String) (mempool : Collection PayingTransaction) :
    Collection PayingTransaction :=
  mempool.filter fun tx => tx.outputs.any fun output => output.address = some address

variable {tx : PayingTransaction} {row : PendingRow}

theorem of_mem_rowsOf (h : row ∈ rowsOf address tx) :
    row.transactionId = tx.id ∧ row.raw = tx.data := by
  obtain ⟨output, -, rfl⟩ := List.mem_map.mp h
  exact ⟨rfl, rfl⟩

variable {mempool : Collection PayingTransaction}

theorem exists_rowsOf_eq_cons
    (h : tx ∈ paying address mempool) : ∃ row rows, rowsOf address tx = row :: rows := by
  obtain ⟨output, houtput, haddress⟩ := List.any_eq_true.mp (List.mem_filter.mp h).2
  have hmem : output ∈ tx.outputs.filter fun output => output.address = some address :=
    List.mem_filter.mpr ⟨houtput, haddress⟩
  apply List.exists_cons_of_ne_nil
  intro hnil
  rw [rowsOf, List.map_eq_nil_iff] at hnil
  rw [hnil] at hmem
  cases hmem

theorem payingRows_eq_ok (hlimit : 0 < UTXO_LIMIT)
    (hfew : (paying address mempool).length ≤ UTXO_LIMIT) :
    payingRows UTXO_LIMIT address mempool = .ok ((paying address mempool).flatMap (rowsOf address)) := by
  have hlimited : limit UTXO_LIMIT (paying address mempool) = .ok (paying address mempool) :=
    limit_eq_ok.mpr ⟨hlimit, List.take_of_length_le hfew⟩
  unfold paying at hlimited
  rw [payingRows, hlimited]
  show Except.ok _ = _
  rw [unwind, List.map_flatMap]
  congr 1
  apply List.flatMap_congr
  intro tx _
  rw [List.map_map]
  rfl

variable {rows : List PendingRow}

theorem forall_rowsOf_cons (hrows : rowsOf address tx = row :: rows) :
    (row.transactionId = tx.id ∧ row.raw = tx.data) ∧
      ∀ r ∈ rows, r.transactionId = tx.id ∧ r.raw = tx.data := by
  have hof : ∀ r ∈ row :: rows, r.transactionId = tx.id ∧ r.raw = tx.data := by
    rw [← hrows]
    exact fun r hr => of_mem_rowsOf hr
  exact List.forall_mem_cons.mp hof

/-! ### The fold over the list of ids -/

variable {value : DedupedRaws}

theorem foldl_reduceDeduped_of_contains (h : ∀ row ∈ rows, value.ids.contains row.transactionId) :
    rows.foldl reduceDeduped value = value := by
  induction rows with
  | nil => rfl
  | cons row rows ih =>
    rw [List.forall_mem_cons] at h
    have hrow : reduceDeduped value row = value := by
      rw [reduceDeduped, if_pos h.1, if_pos h.1]
    rw [List.foldl_cons, hrow]
    exact ih h.2

theorem foldl_reduceDeduped_rowsOf (hrows : rowsOf address tx = row :: rows)
    (hnew : tx.id ∉ value.ids) :
    (rowsOf address tx).foldl reduceDeduped value = ⟨value.ids ++ [tx.id], value.arr ++ [tx.data]⟩ := by
  have hof := forall_rowsOf_cons hrows
  have hfirst : reduceDeduped value row = ⟨value.ids ++ [tx.id], value.arr ++ [tx.data]⟩ := by
    have hcontains : value.ids.contains row.transactionId = false := by
      rw [hof.1.1]
      simpa using hnew
    rw [reduceDeduped, hcontains, hof.1.1, hof.1.2]
    rfl
  rw [hrows, List.foldl_cons, hfirst]
  apply foldl_reduceDeduped_of_contains
  intro r hr
  rw [(hof.2 r hr).1]
  simp

variable {txs : List PayingTransaction}

theorem foldl_reduceDeduped (hrows : ∀ tx ∈ txs, ∃ row rows, rowsOf address tx = row :: rows)
    (hnodup : (value.ids ++ txs.map PayingTransaction.id).Nodup) :
    (txs.flatMap (rowsOf address)).foldl reduceDeduped value =
      ⟨value.ids ++ txs.map PayingTransaction.id, value.arr ++ txs.map PayingTransaction.data⟩ := by
  induction txs generalizing value with
  | nil => simp
  | cons tx txs ih =>
    rw [List.forall_mem_cons] at hrows
    obtain ⟨row, rows, hfirst⟩ := hrows.1
    have hnew : tx.id ∉ value.ids := by
      intro hmem
      rw [List.nodup_append] at hnodup
      exact hnodup.2.2 _ hmem _ List.mem_cons_self rfl
    rw [List.flatMap_cons, List.foldl_append, foldl_reduceDeduped_rowsOf hfirst hnew, ih hrows.2]
    · simp
    · simpa using hnodup

/-! ### The fold over the object of positions -/

variable {value : SeenRaws}

theorem foldl_reduceSeen_of_truthy (h : ∀ row ∈ rows, truthy (value.seen.get row.transactionId)) :
    rows.foldl reduceSeen value = value := by
  induction rows with
  | nil => rfl
  | cons row rows ih =>
    rw [List.forall_mem_cons] at h
    have hrow : reduceSeen value row = value := by
      rw [reduceSeen, h.1]
      rfl
    rw [List.foldl_cons, hrow]
    exact ih h.2

theorem reduceSeen_of_not_truthy (h : truthy (value.seen.get row.transactionId) = false) :
    reduceSeen value row =
      ⟨value.seen.set row.transactionId value.arr.length, value.arr ++ [row.raw]⟩ := by
  rw [reduceSeen, h]
  rfl

theorem foldl_reduceSeen_same {id : String}
    (hrows : ∀ row ∈ rows, row.transactionId = id) {n : ℕ} (hn : 0 < n)
    (hseen : value.seen.get id = some n) : rows.foldl reduceSeen value = value := by
  apply foldl_reduceSeen_of_truthy
  intro row hrow
  rw [hrows row hrow, hseen]
  simpa [truthy] using Nat.ne_of_gt hn

theorem foldl_reduceSeen_rowsOf
    (hrows : rowsOf address tx = row :: rows) (hnew : value.seen.get tx.id = none)
    (harr : 0 < value.arr.length) :
    (rowsOf address tx).foldl reduceSeen value =
      ⟨value.seen.set tx.id value.arr.length, value.arr ++ [tx.data]⟩ := by
  have hof := forall_rowsOf_cons hrows
  have hfirst : reduceSeen value row =
      ⟨value.seen.set tx.id value.arr.length, value.arr ++ [tx.data]⟩ := by
    rw [reduceSeen_of_not_truthy, hof.1.1, hof.1.2]
    rw [hof.1.1, hnew]
    rfl
  rw [hrows, List.foldl_cons, hfirst]
  exact foldl_reduceSeen_same (fun r hr => (hof.2 r hr).1) harr (by simp)

theorem foldl_reduceSeen (hrows : ∀ tx ∈ txs, ∃ row rows, rowsOf address tx = row :: rows)
    {seen : JsMap String ℕ} {arr : List Bytes} (hnodup : (txs.map PayingTransaction.id).Nodup)
    (hnew : ∀ tx ∈ txs, seen.get tx.id = none) (harr : 0 < arr.length) :
    ∃ seen', (txs.flatMap (rowsOf address)).foldl reduceSeen ⟨seen, arr⟩ =
        ⟨seen', arr ++ txs.map PayingTransaction.data⟩ ∧
      (∀ id, id ∉ txs.map PayingTransaction.id → seen'.get id = seen.get id) ∧
      ∀ i tx, txs[i]? = some tx → seen'.get tx.id = some (arr.length + i) := by
  induction txs generalizing seen arr with
  | nil => exact ⟨seen, by simp⟩
  | cons tx txs ih =>
    rw [List.forall_mem_cons] at hrows hnew
    rw [List.map_cons, List.nodup_cons] at hnodup
    obtain ⟨row, rows, hfirst⟩ := hrows.1
    have hothers : ∀ t ∈ txs, (seen.set tx.id arr.length).get t.id = none := by
      intro t ht
      have hne : t.id ≠ tx.id := by
        intro heq
        exact hnodup.1 (heq ▸ List.mem_map_of_mem ht)
      rw [JsMap.get_set, if_neg hne]
      exact hnew.2 t ht
    have harr' : 0 < (arr ++ [tx.data]).length := by simp
    obtain ⟨seen', hfold, hkept, hat⟩ := ih hrows.2 hnodup.2 hothers harr'
    refine ⟨seen', ?_, ?_, ?_⟩
    · rw [List.flatMap_cons, List.foldl_append, foldl_reduceSeen_rowsOf hfirst hnew.1 harr]
      simpa using hfold
    · intro id hid
      rw [List.map_cons, List.mem_cons, not_or] at hid
      rw [hkept id hid.2, JsMap.get_set, if_neg hid.1]
    · intro i t ht
      cases i with
      | zero =>
        cases ht
        rw [hkept tx.id hnodup.1, JsMap.get_set, if_pos rfl]
        rfl
      | succ i =>
        rw [hat i t ht, List.length_append, List.length_singleton]
        congr 1
        omega

/-- A first transaction with one output is taken in once, one with more is taken in twice: its
position, 0, counts as false. -/
theorem foldl_reduceSeen_first (hrows : rowsOf address tx = row :: rows) :
    ∃ seen, (rowsOf address tx).foldl reduceSeen ⟨.empty, []⟩ =
        ⟨seen, if rows.isEmpty then [tx.data] else [tx.data, tx.data]⟩ ∧
      (∀ id, id ≠ tx.id → seen.get id = none) ∧
      seen.get tx.id = some (if rows.isEmpty then 0 else 1) := by
  have hof := forall_rowsOf_cons hrows
  have hfirst : reduceSeen ⟨.empty, []⟩ row = ⟨JsMap.empty.set tx.id 0, [tx.data]⟩ := by
    rw [reduceSeen_of_not_truthy (by rfl), hof.1.1, hof.1.2]
    rfl
  rw [hrows, List.foldl_cons, hfirst]
  cases rows with
  | nil =>
    refine ⟨JsMap.empty.set tx.id 0, rfl, ?_, by simp⟩
    intro id hid
    simp [JsMap.get_set, hid]
  | cons second rows =>
    rw [List.forall_mem_cons] at hof
    have hsecond : reduceSeen ⟨JsMap.empty.set tx.id 0, [tx.data]⟩ second =
        ⟨(JsMap.empty.set tx.id 0).set tx.id 1, [tx.data, tx.data]⟩ := by
      rw [reduceSeen_of_not_truthy, hof.2.1.1, hof.2.1.2]
      · rfl
      · rw [hof.2.1.1, JsMap.get_set, if_pos rfl]
        rfl
    rw [List.foldl_cons, hsecond]
    refine ⟨(JsMap.empty.set tx.id 0).set tx.id 1, ?_, ?_, by simp⟩
    · exact foldl_reduceSeen_same (fun r hr => (hof.2.2 r hr).1) Nat.zero_lt_one (by simp)
    · intro id hid
      simp [JsMap.get_set, hid]

/-! ### The listing -/

/-- Each output that pays the address, with the place of the bytes of its transaction, and the bytes of
each such transaction. -/
def listing (address : String) (txs : List PayingTransaction) : RawUTXOsAggregationResultV3 where
  utxos := txs.zipIdx.flatMap fun p =>
    (rowsOf address p.1).map fun row => row.toUtxo (some (p.2 : ℤ))
  raw := txs.map fun tx => toBase64 tx.data

theorem map_toUtxo {position : String → Option ℤ}
    (h : ∀ (i : ℕ) tx, txs[i]? = some tx → position tx.id = some (i : ℤ)) :
    (txs.flatMap (rowsOf address)).map (fun row => row.toUtxo (position row.transactionId)) =
      (listing address txs).utxos := by
  have htxs : txs.flatMap (rowsOf address) = txs.zipIdx.flatMap fun p => rowsOf address p.1 := by
    conv_lhs => rw [← List.zipIdx_map_fst 0 txs, List.flatMap_map]
  rw [htxs, List.map_flatMap]
  show _ = List.flatMap _ _
  apply List.flatMap_congr
  rintro ⟨tx, i⟩ hp
  apply List.map_congr_left
  intro row hrow
  rw [(of_mem_rowsOf hrow).1, h i tx (List.mem_zipIdx_iff_getElem?.mp hp)]

theorem indexOfArray_map (hnodup : (txs.map PayingTransaction.id).Nodup)
    {i : ℕ} (h : txs[i]? = some tx) :
    indexOfArray (txs.map PayingTransaction.id) tx.id = i := by
  have hmem : tx.id ∈ txs.map PayingTransaction.id :=
    List.mem_map_of_mem (List.mem_of_getElem? h)
  obtain ⟨hlt, rfl⟩ := List.getElem?_eq_some_iff.mp h
  have hlt' : i < (txs.map PayingTransaction.id).length := by simpa using hlt
  have hget : txs[i].id = (txs.map PayingTransaction.id)[i] := by simp
  rw [indexOfArray, if_pos (List.contains_iff_mem.mpr hmem), hget, hnodup.idxOf_getElem]

theorem toUtxo_document (address : String) (position : String → Option ℤ)
    (h : ∀ (i : ℕ) tx, txs[i]? = some tx → position tx.id = some (i : ℤ)) :
    (⟨((txs.flatMap (rowsOf address)).map fun utxo => (utxo, position utxo.transactionId)).map
        (fun p => p.1.toUtxo p.2), (txs.map PayingTransaction.data).map toBase64⟩ :
      RawUTXOsAggregationResultV3) = listing address txs := by
  rw [List.map_map, List.map_map, listing]
  congr 1
  exact map_toUtxo h

section

variable {mempool : IndexedCollection PayingTransaction.id}

theorem nodup_paying (address : String) (mempool : IndexedCollection PayingTransaction.id) :
    ((paying address mempool.docs).map PayingTransaction.id).Nodup :=
  mempool.nodup.sublist (List.filter_sublist.map PayingTransaction.id)

theorem mongodb7_eq_ok (hlimit : 0 < UTXO_LIMIT)
    (hfew : (paying address mempool.docs).length ≤ UTXO_LIMIT) :
    getPendingTransactions 7 UTXO_LIMIT address mempool.docs =
      .ok (listing address (paying address mempool.docs)) := by
  have hnodup := nodup_paying address mempool
  have hfold : ((paying address mempool.docs).flatMap (rowsOf address)).foldl reduceDeduped ⟨[], []⟩ =
      ⟨(paying address mempool.docs).map PayingTransaction.id,
        (paying address mempool.docs).map PayingTransaction.data⟩ :=
    foldl_reduceDeduped (fun tx htx => exists_rowsOf_eq_cons htx) hnodup
  have hdocument := toUtxo_document address
    (fun id => some (indexOfArray ((paying address mempool.docs).map PayingTransaction.id) id))
    fun i tx h => congrArg some (indexOfArray_map hnodup h)
  rw [getPendingTransactions, if_neg (by decide), buildMongodb7Query, payingRows_eq_ok hlimit hfew,
    ← hdocument]
  show Except.ok _ = _
  rw [hfold]

/-- The first transaction that pays the address has one such output. -/
def FirstOnce (address : String) (mempool : Collection PayingTransaction) : Prop :=
  ∀ tx, (paying address mempool).head? = some tx → (rowsOf address tx).length = 1

variable {tx : PayingTransaction}

theorem foldl_reduceSeen_paying {txs : List PayingTransaction}
    (h : paying address mempool.docs = tx :: txs) :
    ∃ seen, ((paying address mempool.docs).flatMap (rowsOf address)).foldl reduceSeen ⟨.empty, []⟩ =
        ⟨seen, (if (rowsOf address tx).length = 1 then [tx.data] else [tx.data, tx.data]) ++
          txs.map PayingTransaction.data⟩ ∧
      ((rowsOf address tx).length = 1 → ∀ (i : ℕ) t, (paying address mempool.docs)[i]? = some t →
        seen.get t.id = some i) := by
  have hnodup := nodup_paying address mempool
  rw [h, List.map_cons, List.nodup_cons] at hnodup
  have hpays : ∀ t ∈ tx :: txs, ∃ row rows, rowsOf address t = row :: rows := by
    intro t ht
    rw [← h] at ht
    exact exists_rowsOf_eq_cons ht
  rw [List.forall_mem_cons] at hpays
  obtain ⟨row, rows, hrows⟩ := hpays.1
  obtain ⟨first, hfirst, hothers, hplace⟩ := foldl_reduceSeen_first hrows
  have hone : rows.isEmpty ↔ (rowsOf address tx).length = 1 := by
    rw [hrows]
    simp
  have hnew : ∀ t ∈ txs, first.get t.id = none := by
    intro t ht
    apply hothers
    intro heq
    exact hnodup.1 (heq ▸ List.mem_map_of_mem ht)
  have harr : 0 < (if rows.isEmpty then [tx.data] else [tx.data, tx.data]).length := by
    split <;> simp
  obtain ⟨seen, hfold, hkept, hat⟩ := foldl_reduceSeen hpays.2 hnodup.2 hnew harr
  refine ⟨seen, ?_, ?_⟩
  · rw [h, List.flatMap_cons, List.foldl_append, hfirst, hfold]
    simp only [hone]
  · intro hlength i t ht
    have hempty : rows.isEmpty := hone.mpr hlength
    rw [h] at ht
    cases i with
    | zero =>
      cases ht
      rw [hkept tx.id hnodup.1, hplace, if_pos hempty]
    | succ i =>
      rw [hat i t ht, if_pos hempty, List.length_singleton, Nat.add_comm]

theorem mongodb8_eq (hlimit : 0 < UTXO_LIMIT)
    (hfew : (paying address mempool.docs).length ≤ UTXO_LIMIT)
    (htx : tx ∈ paying address mempool.docs) {raw : SeenRaws}
    (hfold : ((paying address mempool.docs).flatMap (rowsOf address)).foldl reduceSeen ⟨.empty, []⟩ =
      raw) :
    getPendingTransactions 8 UTXO_LIMIT address mempool.docs =
      .ok ⟨(((paying address mempool.docs).flatMap (rowsOf address)).map fun utxo =>
          (utxo, (raw.seen.get utxo.transactionId).map Int.ofNat)).map fun p => p.1.toUtxo p.2,
        raw.arr.map toBase64⟩ := by
  have hnot : ((paying address mempool.docs).flatMap (rowsOf address)).isEmpty = false := by
    obtain ⟨row, rows, hrows⟩ := exists_rowsOf_eq_cons htx
    rw [List.isEmpty_eq_false_iff_exists_mem]
    refine ⟨row, List.mem_flatMap.mpr ⟨tx, htx, ?_⟩⟩
    rw [hrows]
    exact List.mem_cons_self
  rw [getPendingTransactions, if_pos (by decide), buildMongodb8Query, payingRows_eq_ok hlimit hfew,
    ← hfold]
  generalize (paying address mempool.docs).flatMap (rowsOf address) = utxos at hnot
  cases utxos with
  | nil => cases hnot
  | cons utxo utxos => rfl

theorem mongodb8_eq_ok (hlimit : 0 < UTXO_LIMIT)
    (hfew : (paying address mempool.docs).length ≤ UTXO_LIMIT)
    (hfirst : FirstOnce address mempool.docs) :
    getPendingTransactions 8 UTXO_LIMIT address mempool.docs =
      .ok (listing address (paying address mempool.docs)) := by
  cases hpaying : paying address mempool.docs with
  | nil =>
    rw [getPendingTransactions, if_pos (by decide), buildMongodb8Query, payingRows_eq_ok hlimit hfew,
      hpaying]
    rfl
  | cons tx txs =>
    have htx : tx ∈ paying address mempool.docs := by
      rw [hpaying]
      exact List.mem_cons_self
    have hone := hfirst tx (by rw [hpaying]; rfl)
    obtain ⟨seen, hfold, hplaces⟩ := foldl_reduceSeen_paying hpaying
    have hdocument := toUtxo_document address (fun id => (seen.get id).map Int.ofNat)
      fun i t h => congrArg (Option.map Int.ofNat) (hplaces hone i t h)
    rw [mongodb8_eq hlimit hfew htx hfold, ← hpaying, ← hdocument, if_pos hone, hpaying]
    rfl

theorem mongodb8_ne (hlimit : 0 < UTXO_LIMIT)
    (hfew : (paying address mempool.docs).length ≤ UTXO_LIMIT)
    (hfirst : ¬ FirstOnce address mempool.docs) :
    getPendingTransactions 8 UTXO_LIMIT address mempool.docs ≠
      .ok (listing address (paying address mempool.docs)) := by
  unfold FirstOnce at hfirst
  push Not at hfirst
  obtain ⟨tx, hhead, hmore⟩ := hfirst
  obtain ⟨txs, hpaying⟩ := List.head?_eq_some_iff.mp hhead
  have htx : tx ∈ paying address mempool.docs := List.mem_of_mem_head? hhead
  obtain ⟨seen, hfold, -⟩ := foldl_reduceSeen_paying hpaying
  rw [if_neg hmore] at hfold
  rw [mongodb8_eq hlimit hfew htx hfold]
  intro heq
  have hraw := congrArg (fun r => r.raw.length) (Except.ok.inj heq)
  rw [hpaying] at hraw
  simp [listing] at hraw

/-- **The two pipelines return the same listing, each output with the place of its own transaction's
bytes and each such bytes once, if and only if the first transaction that pays the address has one such
output.** -/
theorem getPendingTransactions_agree_iff (UTXO_LIMIT : ℕ) (address : String)
    (mempool : IndexedCollection PayingTransaction.id)
    (hfew : (paying address mempool.docs).length ≤ UTXO_LIMIT) :
    (getPendingTransactions 8 UTXO_LIMIT address mempool.docs =
        .ok (listing address (paying address mempool.docs)) ∧
      getPendingTransactions 7 UTXO_LIMIT address mempool.docs =
        .ok (listing address (paying address mempool.docs))) ↔
      0 < UTXO_LIMIT ∧ FirstOnce address mempool.docs := by
  constructor
  · rintro ⟨hnew, -⟩
    have hlimit : 0 < UTXO_LIMIT := by
      rw [getPendingTransactions, if_pos (by decide)] at hnew
      obtain ⟨results, hresults, -⟩ := exceptBind_eq_ok hnew
      obtain ⟨utxos, hutxos, -⟩ := exceptBind_eq_ok hresults
      obtain ⟨limited, hlimited, -⟩ := exceptBind_eq_ok hutxos
      exact (limit_eq_ok.mp hlimited).1
    refine ⟨hlimit, ?_⟩
    by_contra hfirst
    exact mongodb8_ne hlimit hfew hfirst hnew
  · rintro ⟨hlimit, hfirst⟩
    exact ⟨mongodb8_eq_ok hlimit hfew hfirst, mongodb7_eq_ok hlimit hfew⟩

/-- One output of the first transaction and two of the second pay `p`. -/
def onceThenTwice : IndexedCollection PayingTransaction.id where
  docs := [⟨"a", [1], [⟨[81], some "p", 0, 5⟩]⟩, ⟨"b", [2], [⟨[81], some "p", 0, 6⟩,
    ⟨[82], some "q", 1, 7⟩, ⟨[81], some "p", 2, 8⟩]⟩]
  nodup := by decide

theorem getPendingTransactions_agree_onceThenTwice :
    getPendingTransactions 8 2000 "p" onceThenTwice.docs =
      .ok (listing "p" (paying "p" onceThenTwice.docs)) := by
  have hfew : (paying "p" onceThenTwice.docs).length ≤ 2000 := by decide +kernel
  have hfirst : FirstOnce "p" onceThenTwice.docs := by
    intro tx htx
    cases htx
    decide +kernel
  exact ((getPendingTransactions_agree_iff 2000 "p" onceThenTwice hfew).mpr
    ⟨by decide, hfirst⟩).1

/-- Two outputs of one transaction pay `p`. -/
def twice : IndexedCollection PayingTransaction.id where
  docs := [⟨"a", [1], [⟨[81], some "p", 0, 5⟩, ⟨[81], some "p", 1, 6⟩]⟩]
  nodup := by decide

/-- The bytes are listed twice by one pipeline, and once by the other. -/
theorem getPendingTransactions_disagree :
    (paying "p" twice.docs).length ≤ 2000 ∧
      ((getPendingTransactions 8 2000 "p" twice.docs).toOption.map fun r => r.raw) =
        some ["AQ==", "AQ=="] ∧
      ((getPendingTransactions 7 2000 "p" twice.docs).toOption.map fun r => r.raw) =
        some ["AQ=="] := by
  decide +kernel

end

end OpnetNode.MempoolRepository
