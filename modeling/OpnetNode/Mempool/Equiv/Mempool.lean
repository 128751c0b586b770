import OpnetNode.Mempool.Equiv.MempoolEviction
import OpnetNode.Mempool.Mempool

/-!
# The stored transactions do not conflict

Two stored transactions that spend one outpoint are always about to be parted: one of them is to be
deleted by a request that has stored the other, or by the round that has (`PendingInv`). So once no
clean-up is under way, no outpoint is spent twice.

* `Reliable`: what is taken from Bitcoin Core (an id commits to what its transaction spends, and a
  listing holds no two that conflict), that no clean-up fails, and that a request whose transaction
  could not be stored has not stored it.
* `Deletes`: what a clean-up is to delete.
* `GoesOn`: the steps of a request, by what it waited for; `GoesOn.writes` is what one of them does to
  the collection.
-/

namespace OpnetNode

open Mempool MempoolRepository MempoolRequest

/-- No stored transaction spends an outpoint of another. -/
def ConflictFree (mempool : Collection SpendingTransaction) : Prop :=
  ∀ a ∈ mempool, ∀ b, ¬ Conflicts a mempool b

theorem mem_docs_storeTransaction {transaction d : SpendingTransaction} {c : MempoolTransactions} :
    d ∈ (storeTransaction transaction c).docs ↔
      d = transaction ∨ d ∈ c.docs ∧ d.id ≠ transaction.id := by
  have hlookup : ∀ id, (storeTransaction transaction c).lookup id =
      if id = transaction.id then some transaction else c.lookup id := by
    intro id
    rw [storeTransaction, IndexedCollection.lookup_upsert]
    split
    · cases hfound : c.lookup transaction.id with
      | none => rfl
      | some e =>
        have hid := (IndexedCollection.mem_docs_of_lookup hfound).2
        simp [hid]
    · rfl
  constructor
  · intro hd
    have hfound := IndexedCollection.lookup_of_mem hd
    rw [hlookup] at hfound
    split at hfound
    · exact .inl (Option.some.inj hfound).symm
    · rename_i hid
      exact .inr ⟨(IndexedCollection.mem_docs_of_lookup hfound).1, hid⟩
  · rintro (rfl | ⟨hd, hid⟩)
    · exact mem_storeTransaction d c
    · have hfound : (storeTransaction transaction c).lookup d.id = some d := by
        rw [hlookup, if_neg hid, IndexedCollection.lookup_of_mem hd]
      exact (IndexedCollection.mem_docs_of_lookup hfound).1

section

variable {env : MempoolEnvironment} {spends : String → List SpentOutPoint}

/-! ### What is relied on -/

/-- What the bytes spend is what the transaction with the id spends. -/
def Commits (env : MempoolEnvironment) (spends : String → List SpentOutPoint) (id : String)
    (data : Bytes) : Prop :=
  ∀ input ∈ env.parseInputs data, input ∈ spends id

/-- Bitcoin Core answers with the id of what it is given, and no clean-up fails. -/
def MempoolRequest.Reliable (env : MempoolEnvironment) (spends : String → List SpentOutPoint)
    (r : MempoolRequest) : CallAnswer → Prop
  | .broadcast response =>
    ∀ i, r.phase = .broadcasting i → ∀ tx ∈ r.transactions[i]?,
      ∀ id ∈ resultOf (broadcastAnswer response), Commits env spends id tx.data
  | .stored ok landed => landed = ok
  | .threw => ∀ route i cleanup, r.phase ≠ .cleaning route i cleanup
  | _ => True

/-- No two listed transactions spend one outpoint. -/
def ListingConflictFree (spends : String → List SpentOutPoint) (listed : List String) : Prop :=
  ∀ a ∈ listed, ∀ b ∈ listed, a ≠ b → ∀ input ∈ spends a, input ∉ spends b

def PopulationPhase.Reliable (env : MempoolEnvironment) (spends : String → List SpentOutPoint)
    (phase : PopulationPhase) : PopulationAnswer → Prop
  | .listed txsList => ∀ listed, txsList = some listed → ListingConflictFree spends listed
  | .fetched txs => ∀ tx ∈ txs, Commits env spends tx.1 tx.2
  | .threw => (∀ listed, phase ≠ .clearing listed true) ∧
      ∀ listed toDelete, phase ≠ .deleting listed toDelete true
  | _ => True

namespace MempoolState

def Reliable (env : MempoolEnvironment) (spends : String → List SpentOutPoint) (s : MempoolState) :
    MempoolEvent → Prop
  | .received _ _ data => ∀ id, data.id = some id → Commits env spends id data.raw
  | .packageReceived _ _ _ txs => ∀ tx ∈ txs, Commits env spends tx.1 tx.2
  | .goOn request answer => ∀ r ∈ s.requests[request]?, r.Reliable env spends answer
  | .populationGoesOn answer => s.population.Reliable env spends answer
  | .populate | .removed _ => True

end MempoolState

/-! ### What a clean-up is to delete -/

/-- The clean-up after `document` is stored: its query is to find `b` in conflict with `a`, or it has
collected `b`. -/
def Cleanup.Deletes (document a b : SpendingTransaction) : Cleanup → Prop
  | .finding => document.id = a.id ∧ ∀ input ∈ a.inputs, input ∈ document.inputs
  | .searching _ _ toDelete | .deleting toDelete => b.id ∈ toDelete

/-- The request is to delete `b`, as it has stored `a`. -/
def MempoolRequest.Deletes (r : MempoolRequest) (a b : SpendingTransaction) : Prop :=
  ∃ route i cleanup, r.phase = .cleaning route i cleanup ∧
    ∃ tx ∈ r.transactions[i]?, cleanup.Deletes (document tx) a b

/-- The round is to delete `b`, which is not listed. -/
def PopulationPhase.Deletes (b : SpendingTransaction) : PopulationPhase → Prop
  | .storing listed _ _ | .clearing listed true => b.id ∉ listed
  | .deleting _ toDelete true => b.id ∈ toDelete
  | _ => False

namespace MempoolState

/-- Something is to delete `b`. -/
def Deletes (s : MempoolState) (a b : SpendingTransaction) : Prop :=
  (∃ r ∈ s.requests, r.Deletes a b) ∨ s.population.Deletes b

/-- No clean-up is under way. -/
def Quiet (s : MempoolState) : Prop := ∀ a b, ¬ s.Deletes a b

/-! ### The invariant -/

end MempoolState

/-- A transaction that a request has taken. -/
structure Sound (env : MempoolEnvironment) (spends : String → List SpentOutPoint)
    (tx : IMempoolTransactionObj) : Prop where
  commits : Commits env spends tx.id tx.data
  parsed : ∀ input ∈ tx.inputs, input ∈ env.parseInputs tx.data

/-- What a request that is verifying has taken, and is to take. -/
def RequestPhase.Sound (env : MempoolEnvironment) (spends : String → List SpentOutPoint) :
    RequestPhase → Prop
  | .checking transaction later | .verifying transaction later =>
    OpnetNode.Sound env spends transaction ∧ ∀ tx ∈ later, Commits env spends tx.1 tx.2
  | _ => True

structure MempoolRequest.Sound (env : MempoolEnvironment) (spends : String → List SpentOutPoint)
    (r : MempoolRequest) : Prop where
  transactions : ∀ tx ∈ r.transactions, OpnetNode.Sound env spends tx
  phase : r.phase.Sound env spends

/-- A stored transaction spends what its id commits to. -/
def Genuine (spends : String → List SpentOutPoint) (d : SpendingTransaction) : Prop :=
  ∀ input ∈ d.inputs, input ∈ spends d.id

def PopulationPhase.Sound (spends : String → List SpentOutPoint) : PopulationPhase → Prop
  | .including listed unknown | .fetching listed unknown =>
    ListingConflictFree spends listed ∧ listed ≠ [] ∧ ∀ id ∈ unknown, id ∈ listed
  | .storing listed batch later =>
    ListingConflictFree spends listed ∧ listed ≠ [] ∧
      ∀ d ∈ batch ++ later, d.id ∈ listed ∧ Genuine spends d
  | _ => True

namespace MempoolState

structure PendingInv (env : MempoolEnvironment) (spends : String → List SpentOutPoint)
    (s : MempoolState) : Prop where
  genuine : ∀ d ∈ s.mempool.docs, Genuine spends d
  requests : ∀ r ∈ s.requests, r.Sound env spends
  population : s.population.Sound spends
  pending : ∀ a ∈ s.mempool.docs, ∀ b, Conflicts a s.mempool.docs b → s.Deletes a b ∨ s.Deletes b a

end MempoolState

/-! ### The requests stay sound -/

namespace MempoolRequest

variable {r : MempoolRequest}

theorem Sound.withPhase (h : r.Sound env spends) {r' : MempoolRequest}
    (htransactions : r'.transactions = r.transactions) (hphase : r'.phase.Sound env spends) :
    r'.Sound env spends := by
  refine ⟨?_, hphase⟩
  rw [htransactions]
  exact h.transactions

theorem Sound.answer (h : r.Sound env spends) (response : MempoolResponse) :
    (r.answer response).Sound env spends :=
  h.withPhase rfl trivial

theorem Sound.refuse (h : r.Sound env spends) (text : String) : (r.refuse text).Sound env spends :=
  h.answer _

theorem Sound.report (h : r.Sound env spends) (result : PackageBroadcastTxResult) :
    (r.report result).Sound env spends :=
  h.withPhase rfl h.phase

theorem Sound.broadcastBitcoinTransaction (h : r.Sound env spends) (i : ℕ) :
    (r.broadcastBitcoinTransaction i).Sound env spends :=
  h.withPhase rfl trivial

theorem Sound.broadcastNext (h : r.Sound env spends) (i : ℕ) :
    (r.broadcastNext i).Sound env spends := by
  unfold MempoolRequest.broadcastNext
  split
  · exact h.broadcastBitcoinTransaction i
  · exact h.answer _

theorem Sound.nextInPackage (h : r.Sound env spends) {later : List (String × Bytes)}
    (hlater : ∀ tx ∈ later, Commits env spends tx.1 tx.2) :
    (r.nextInPackage env later).Sound env spends := by
  cases later with
  | nil => exact h.withPhase rfl trivial
  | cons tx later =>
    simp only [MempoolRequest.nextInPackage]
    split_ifs
    · exact h.refuse _
    · refine h.withPhase rfl ⟨⟨hlater tx List.mem_cons_self, ?_⟩, fun t ht => ?_⟩
      · intro input hinput
        cases hinput
      · exact hlater t (List.mem_cons_of_mem _ ht)

theorem Sound.parseAndStoreInputOutputs (h : r.Sound env spends) {i : ℕ} {id : String}
    {tx : IMempoolTransactionObj} (htx : tx ∈ r.transactions[i]?)
    (hcommits : Commits env spends id tx.data) (phase : RequestPhase)
    (hphase : phase.Sound env spends) :
    { r.parseAndStoreInputOutputs env i id tx with phase := phase }.Sound env spends := by
  refine ⟨fun t ht => ?_, hphase⟩
  rcases List.mem_or_eq_of_mem_set ht with ht | rfl
  · exact h.transactions t ht
  · refine ⟨hcommits, fun input hinput => ?_⟩
    rcases List.mem_append.mp hinput with hinput | hinput
    · exact (h.transactions tx (List.mem_of_getElem? htx)).parsed input hinput
    · exact hinput

theorem Sound.storeNext (h : r.Sound env spends) (i : ℕ) : (r.storeNext env i).Sound env spends := by
  unfold MempoolRequest.storeNext
  split
  · rename_i tx htx
    exact h.parseAndStoreInputOutputs htx (h.transactions tx (List.mem_of_getElem? htx)).commits _
      trivial
  · exact h.answer _

theorem Sound.broadcastTransactionsAfterTest (h : r.Sound env spends) :
    r.broadcastTransactionsAfterTest.Sound env spends :=
  Sound.broadcastNext (r := { r with txResults := [] }) ⟨h.transactions, h.phase⟩ 0

theorem Sound.fallBack (h : r.Sound env spends) : r.fallBack.Sound env spends :=
  Sound.broadcastTransactionsAfterTest
    (r := { r with packageMsg := none, fellBackToSequential := true }) ⟨h.transactions, h.phase⟩

theorem Sound.afterStore (h : r.Sound env spends) (route : StoreRoute) (i : ℕ)
    (tx : IMempoolTransactionObj) (stored : Bool) :
    (r.afterStore env route i tx stored).Sound env spends := by
  cases route with
  | decodeTransactionAndProcess =>
    cases stored with
    | false => exact h.refuse _
    | true => exact h.answer _
  | broadcastTransactionsAfterTest => exact (h.report _).broadcastNext _
  | storeVerifiedTransactions => exact (h.report _).storeNext _

theorem Sound.onTested (h : r.Sound env spends) (isPackage : Bool)
    (answer : Option (List TestMempoolAcceptResult)) : (r.onTested isPackage answer).Sound env spends := by
  cases answer with
  | none => exact h.refuse _
  | some testResults =>
    have htested : { r with testResults := some testResults }.Sound env spends :=
      ⟨h.transactions, h.phase⟩
    simp only [MempoolRequest.onTested]
    split
    · exact htested.answer _
    · split
      · exact h.withPhase rfl trivial
      · exact htested.broadcastTransactionsAfterTest

theorem Sound.onSubmitted (h : r.Sound env spends) (packageMsg : Option String) :
    (r.onSubmitted env packageMsg).Sound env spends := by
  cases packageMsg with
  | none => exact h.fallBack
  | some packageMsg =>
    have hsubmitted : { r with packageMsg := some packageMsg }.Sound env spends :=
      ⟨h.transactions, h.phase⟩
    simp only [MempoolRequest.onSubmitted]
    split
    · exact hsubmitted.storeNext 0
    · exact hsubmitted.answer _

theorem Sound.onChecked (h : r.Sound env spends) (mempool : MempoolTransactions)
    {tx : IMempoolTransactionObj} {later : List (String × Bytes)}
    (hphase : r.phase = .checking tx later) : (r.onChecked mempool tx later).Sound env spends := by
  have hchecking := h.phase
  rw [hphase] at hchecking
  unfold MempoolRequest.onChecked
  split
  · split <;> exact h.refuse _
  · exact h.withPhase rfl hchecking

theorem Sound.onVerified (h : r.Sound env spends) {tx : IMempoolTransactionObj}
    {later : List (String × Bytes)} (hphase : r.phase = .verifying tx later)
    (verdict : Except String TransactionFactory.OPNetTransactionTypes) :
    (r.onVerified env tx later verdict).Sound env spends := by
  have hverifying := h.phase
  rw [hphase] at hverifying
  obtain ⟨htx, hlater⟩ := hverifying
  cases verdict with
  | error error =>
    simp only [MempoolRequest.onVerified]
    split <;> exact h.refuse _
  | ok transactionType =>
    have hkept : { r with transactions := r.transactions ++ [{ tx with transactionType }] }.Sound env
        spends := by
      refine ⟨fun t ht => ?_, h.phase⟩
      rcases List.mem_append.mp ht with ht | ht
      · exact h.transactions t ht
      · obtain rfl := List.mem_singleton.mp ht
        exact ⟨htx.commits, htx.parsed⟩
    simp only [MempoolRequest.onVerified]
    split
    · exact hkept.broadcastBitcoinTransaction 0
    · exact hkept.nextInPackage hlater

theorem Sound.onBroadcast (h : r.Sound env spends) {i : ℕ} {tx : IMempoolTransactionObj}
    (htx : tx ∈ r.transactions[i]?) {broadcast : Option BroadcastResponse}
    (hcommits : ∀ id ∈ resultOf broadcast, Commits env spends id tx.data) :
    (r.onBroadcast env i tx broadcast).Sound env spends := by
  unfold MempoolRequest.onBroadcast
  split
  · exact h.answer _
  · rename_i id _ hid
    have hparsed := h.parseAndStoreInputOutputs htx (hcommits id hid)
      (.storing .decodeTransactionAndProcess i) trivial
    exact ⟨hparsed.transactions, hparsed.phase⟩
  · exact (h.report _).answer _
  · rename_i id _ hid
    exact h.parseAndStoreInputOutputs htx (hcommits id hid) _ trivial

theorem Sound.onCleanup (h : r.Sound env spends) (mempool : MempoolTransactions) (route : StoreRoute)
    (i : ℕ) (tx : IMempoolTransactionObj) (cleanup : Cleanup) :
    (r.onCleanup env mempool route i tx cleanup).request.Sound env spends := by
  cases cleanup with
  | finding =>
    simp only [MempoolRequest.onCleanup]
    split
    · exact h.afterStore route i tx true
    · exact h.withPhase rfl trivial
  | searching todo visited toDelete =>
    cases todo with
    | nil | cons => exact h.withPhase rfl trivial
  | deleting toDelete => exact h.afterStore route i tx true

theorem Sound.onThrow (h : r.Sound env spends) : r.onThrow.Sound env spends := by
  unfold MempoolRequest.onThrow
  split
  · exact h.refuse _
  · exact h.fallBack
  · exact h.fallBack
  · exact h.withPhase rfl trivial

/-- The steps of a request, by what it waited for. -/
inductive GoesOn (env : MempoolEnvironment) (r : MempoolRequest) (mempool : MempoolTransactions) :
    CallAnswer → RequestProgress → Prop where
  | checked {tx later} (hphase : r.phase = .checking tx later) :
    GoesOn env r mempool .done ⟨r.onChecked mempool tx later, mempool⟩
  | cleaned {route i cleanup tx} (hphase : r.phase = .cleaning route i cleanup)
    (htx : tx ∈ r.transactions[i]?) :
    GoesOn env r mempool .done (r.onCleanup env mempool route i tx cleanup)
  | verified {tx later} (verdict : Except String TransactionFactory.OPNetTransactionTypes)
    (hphase : r.phase = .verifying tx later) :
    GoesOn env r mempool (.verified verdict) ⟨r.onVerified env tx later verdict, mempool⟩
  | tested {isPackage} (testResults : Option (List TestMempoolAcceptResult))
    (hkind : r.kind = .package isPackage) (hphase : r.phase = .testing) :
    GoesOn env r mempool (.tested testResults) ⟨r.onTested isPackage testResults, mempool⟩
  | submitted (packageMsg : Option String) (hphase : r.phase = .submitting) :
    GoesOn env r mempool (.submitted packageMsg) ⟨r.onSubmitted env packageMsg, mempool⟩
  | broadcast {i tx} (response : Except String (Option BroadcastResponse))
    (hphase : r.phase = .broadcasting i) (htx : tx ∈ r.transactions[i]?) :
    GoesOn env r mempool (.broadcast response)
      ⟨r.onBroadcast env i tx (broadcastAnswer response), mempool⟩
  | stored {route i tx} (ok landed : Bool) (hphase : r.phase = .storing route i)
    (htx : tx ∈ r.transactions[i]?) :
    GoesOn env r mempool (.stored ok landed) (r.onStored env mempool route i tx ok landed)
  | threw (hphase : canThrow r.phase = true) : GoesOn env r mempool .threw ⟨r.onThrow, mempool⟩

theorem goesOn_of_goOn {mempool : MempoolTransactions} {answer : CallAnswer} {p : RequestProgress}
    (h : r.goOn env mempool answer = some p) : GoesOn env r mempool answer p := by
  cases answer with
  | done =>
    simp only [MempoolRequest.goOn] at h
    split at h
    · cases h
      exact .checked ‹_›
    · obtain ⟨tx, htx, rfl⟩ := Option.map_eq_some_iff.mp h
      exact .cleaned ‹_› htx
    · cases h
  | verified verdict =>
    simp only [MempoolRequest.goOn] at h
    split at h
    · cases h
      exact .verified verdict ‹_›
    · cases h
  | tested testResults =>
    simp only [MempoolRequest.goOn] at h
    split at h
    · cases h
      exact .tested testResults ‹_› ‹_›
    · cases h
  | submitted packageMsg =>
    simp only [MempoolRequest.goOn] at h
    split at h
    · cases h
      exact .submitted packageMsg ‹_›
    · cases h
  | broadcast response =>
    simp only [MempoolRequest.goOn] at h
    split at h
    · obtain ⟨tx, htx, rfl⟩ := Option.map_eq_some_iff.mp h
      exact .broadcast response ‹_› htx
    · cases h
  | stored ok landed =>
    simp only [MempoolRequest.goOn] at h
    split at h
    · obtain ⟨tx, htx, rfl⟩ := Option.map_eq_some_iff.mp h
      exact .stored ok landed ‹_› htx
    · cases h
  | threw =>
    simp only [MempoolRequest.goOn] at h
    split at h
    · cases h
      exact .threw ‹_›
    · cases h

theorem Sound.goesOn (h : r.Sound env spends) {mempool : MempoolTransactions} {answer : CallAnswer}
    {p : RequestProgress} (hstep : GoesOn env r mempool answer p)
    (hreliable : r.Reliable env spends answer) : p.request.Sound env spends := by
  cases hstep with
  | checked hphase => exact h.onChecked mempool hphase
  | cleaned _ _ => exact h.onCleanup mempool _ _ _ _
  | verified verdict hphase => exact h.onVerified hphase verdict
  | tested testResults _ _ => exact h.onTested _ testResults
  | submitted packageMsg _ => exact h.onSubmitted packageMsg
  | broadcast response hphase htx => exact h.onBroadcast htx (hreliable _ hphase _ htx)
  | stored ok landed _ _ =>
    cases ok with
    | false => exact h.afterStore _ _ _ false
    | true => exact h.withPhase rfl trivial
  | threw _ => exact h.onThrow

theorem mem_docs_of_onCleanup {mempool : MempoolTransactions} {route : StoreRoute} {i : ℕ}
    {tx : IMempoolTransactionObj} {cleanup : Cleanup} {d : SpendingTransaction}
    (hd : d ∈ (r.onCleanup env mempool route i tx cleanup).mempool.docs) : d ∈ mempool.docs := by
  cases cleanup with
  | finding =>
    revert hd
    simp only [MempoolRequest.onCleanup]
    split <;> exact fun hd => hd
  | searching todo visited toDelete =>
    cases todo with
    | nil | cons => exact hd
  | deleting toDelete => exact (Collection.mem_deleteMany.mp hd).1

/-- What a step of a request does to the collection: nothing, or it stores a transaction, or it is a
step of a clean-up. -/
theorem GoesOn.writes {mempool : MempoolTransactions} {answer : CallAnswer} {p : RequestProgress}
    (hstep : GoesOn env r mempool answer p) (hreliable : r.Reliable env spends answer) :
    (p.mempool = mempool ∧ ∀ route i cleanup, r.phase ≠ .cleaning route i cleanup) ∨
    (∃ route i, ∃ tx ∈ r.transactions[i]?, r.phase = .storing route i ∧
      p.request = { r with phase := .cleaning route i .finding } ∧
      p.mempool = storeTransaction (document tx) mempool) ∨
    ∃ route i cleanup, ∃ tx ∈ r.transactions[i]?, r.phase = .cleaning route i cleanup ∧
      p = r.onCleanup env mempool route i tx cleanup := by
  cases hstep with
  | checked hphase => exact .inl ⟨rfl, by simp [hphase]⟩
  | cleaned hphase htx => exact .inr (.inr ⟨_, _, _, _, htx, hphase, rfl⟩)
  | verified verdict hphase => exact .inl ⟨rfl, by simp [hphase]⟩
  | tested testResults _ hphase => exact .inl ⟨rfl, by simp [hphase]⟩
  | submitted packageMsg hphase => exact .inl ⟨rfl, by simp [hphase]⟩
  | broadcast response hphase _ => exact .inl ⟨rfl, by simp [hphase]⟩
  | stored ok landed hphase htx =>
    obtain rfl := hreliable
    cases landed with
    | false => exact .inl ⟨rfl, by simp [hphase]⟩
    | true => exact .inr (.inl ⟨_, _, _, htx, hphase, rfl, rfl⟩)
  | threw _ => exact .inl ⟨rfl, hreliable⟩

end MempoolRequest

/-! ### Who is to delete what -/

theorem Mempool.Conflicts.symm {mempool : Collection SpendingTransaction} {a b : SpendingTransaction}
    (ha : a ∈ mempool) (h : Conflicts a mempool b) : Conflicts b mempool a := by
  obtain ⟨-, hid, input, hinput, hspent⟩ := h
  exact ⟨ha, hid.symm, input, hspent, hinput⟩

@[simp] theorem Cleanup.deletes_searchOn {document a b : SpendingTransaction}
    {todo visited toDelete : List String} :
    (searchOn todo visited toDelete).Deletes document a b ↔ b.id ∈ toDelete := by
  unfold MempoolRequest.searchOn
  split <;> rfl

theorem PopulationPhase.deletes_storeBatch {listed : List String} (hlisted : listed ≠ [])
    (later : List SpendingTransaction) (b : SpendingTransaction) :
    (storeBatch listed later).Deletes b ↔ b.id ∉ listed := by
  cases later with
  | nil =>
    unfold storeBatch finish
    rw [if_neg hlisted]
    rfl
  | cons d later => rfl

namespace MempoolState

variable {s s' : MempoolState}

theorem Deletes.set {a b : SpendingTransaction} (h : s.Deletes a b) {k : ℕ} {r r' : MempoolRequest}
    (hr : s.requests[k]? = some r) (hrequests : s'.requests = s.requests.set k r')
    (hpopulation : s'.population = s.population) (hkeep : r.Deletes a b → r'.Deletes a b) :
    s'.Deletes a b := by
  rcases h with ⟨r₀, hr₀, hdeletes⟩ | hdeletes
  · obtain ⟨j, hj⟩ := List.mem_iff_getElem?.mp hr₀
    have hk : k < s.requests.length := (List.getElem?_eq_some_iff.mp hr).1
    by_cases hjk : k = j
    · subst hjk
      cases hr.symm.trans hj
      exact .inl ⟨r', by rw [hrequests]; exact List.mem_set hk r', hkeep hdeletes⟩
    · refine .inl ⟨r₀, ?_, hdeletes⟩
      rw [hrequests]
      apply List.mem_iff_getElem?.mpr
      exact ⟨j, by rw [List.getElem?_set_ne hjk, hj]⟩
  · exact .inr (by rw [hpopulation]; exact hdeletes)

theorem PendingInv.pending_of_subset (h : s.PendingInv env spends)
    (hsub : ∀ d ∈ s'.mempool.docs, d ∈ s.mempool.docs)
    (hkeep : ∀ a ∈ s'.mempool.docs, ∀ b, Conflicts a s'.mempool.docs b → s.Deletes a b →
      s'.Deletes a b) :
    ∀ a ∈ s'.mempool.docs, ∀ b, Conflicts a s'.mempool.docs b → s'.Deletes a b ∨ s'.Deletes b a := by
  intro a ha b hconflict
  have hbefore : Conflicts a s.mempool.docs b := ⟨hsub b hconflict.1, hconflict.2⟩
  rcases h.pending a (hsub a ha) b hbefore with hdeletes | hdeletes
  · exact .inl (hkeep a ha b hconflict hdeletes)
  · exact .inr (hkeep b hconflict.1 a (hconflict.symm ha) hdeletes)

theorem PendingInv.pending_of_stored (h : s.PendingInv env spends) {stored : SpendingTransaction}
    (hdocs : s'.mempool = storeTransaction stored s.mempool)
    (hkeep : ∀ a b, s.Deletes a b → s'.Deletes a b)
    (hstored : ∀ b ∈ s.mempool.docs, Conflicts stored s'.mempool.docs b → s'.Deletes stored b) :
    ∀ a ∈ s'.mempool.docs, ∀ b, Conflicts a s'.mempool.docs b → s'.Deletes a b ∨ s'.Deletes b a := by
  intro a ha b hconflict
  have ha' := ha
  have hb' := hconflict.1
  rw [hdocs, mem_docs_storeTransaction] at ha' hb'
  rcases ha' with rfl | ⟨ha', -⟩
  · rcases hb' with rfl | ⟨hb', -⟩
    · exact absurd rfl hconflict.2.1
    · exact .inl (hstored b hb' hconflict)
  · rcases hb' with rfl | ⟨hb', -⟩
    · exact .inr (hstored a ha' (hconflict.symm ha))
    · rcases h.pending a ha' b ⟨hb', hconflict.2⟩ with hdeletes | hdeletes
      · exact .inl (hkeep a b hdeletes)
      · exact .inr (hkeep b a hdeletes)

end MempoolState

theorem MempoolRequest.not_deletes {r : MempoolRequest}
    (h : ∀ route i cleanup, r.phase ≠ .cleaning route i cleanup) (a b : SpendingTransaction) :
    ¬ r.Deletes a b := by
  rintro ⟨route, i, cleanup, hphase, -⟩
  exact h route i cleanup hphase

/-- **A step of a clean-up.** What it was to delete it is still to delete, or it is deleted. -/
theorem MempoolRequest.deletes_onCleanup {r : MempoolRequest} {mempool : MempoolTransactions}
    {route : StoreRoute} {i : ℕ} {tx : IMempoolTransactionObj} {cleanup : Cleanup}
    {a b : SpendingTransaction} (hphase : r.phase = .cleaning route i cleanup)
    (htx : tx ∈ r.transactions[i]?) (hdeletes : r.Deletes a b)
    (hconflict : Conflicts a (r.onCleanup env mempool route i tx cleanup).mempool.docs b) :
    (r.onCleanup env mempool route i tx cleanup).request.Deletes a b := by
  obtain ⟨route', i', cleanup', hphase', tx', htx', hdeletes⟩ := hdeletes
  obtain ⟨rfl, rfl, rfl⟩ := RequestPhase.cleaning.inj (hphase.symm.trans hphase')
  cases htx.symm.trans htx'
  cases cleanup with
  | finding =>
    obtain ⟨hid, hinputs⟩ := hdeletes
    have hconflict' : Conflicts a mempool.docs b := by
      revert hconflict
      simp only [MempoolRequest.onCleanup]
      split <;> exact fun hconflict => hconflict
    obtain ⟨hb, hne, input, hinput, hspent⟩ := hconflict'
    have hfound : b.id ∈ (findConflictingTransactions (document tx) mempool.docs).map
        SpendingTransaction.id := by
      refine List.mem_map_of_mem (mem_findConflictingTransactions.mpr ⟨hb, ?_, input, ?_, hspent⟩)
      · rw [hid]
        exact hne
      · exact hinputs input hinput
    simp only [MempoolRequest.onCleanup]
    rw [if_neg (List.ne_nil_of_mem hfound)]
    exact ⟨_, _, _, rfl, tx, htx, Cleanup.deletes_searchOn.mpr hfound⟩
  | searching todo visited toDelete =>
    cases todo with
    | nil => exact ⟨_, _, _, rfl, tx, htx, hdeletes⟩
    | cons id rest =>
      exact ⟨_, _, _, rfl, tx, htx,
        Cleanup.deletes_searchOn.mpr (List.mem_append_left _ hdeletes)⟩
  | deleting toDelete =>
    have hb := (Collection.mem_deleteMany.mp hconflict.1).2
    have hin : b.id ∈ toDelete := hdeletes
    simp [hin] at hb

namespace MempoolState

open PopulationPhase

variable {s s' : MempoolState}

/-! ### Each step -/

theorem sound_onTransactionReceived {hasConsensus fullSync : Bool} {data : OPNetBroadcastData}
    (h : ∀ id, data.id = some id → Commits env spends id data.raw) :
    (onTransactionReceived env hasConsensus fullSync data).Sound env spends := by
  have hnone : ∀ tx ∈ ([] : List IMempoolTransactionObj), OpnetNode.Sound env spends tx := by simp
  unfold onTransactionReceived
  split
  · exact ⟨hnone, trivial⟩
  · split
    · exact ⟨hnone, trivial⟩
    · split
      · exact ⟨hnone, trivial⟩
      · split
        · exact ⟨hnone, trivial⟩
        · rename_i id hid
          split
          · exact ⟨hnone, trivial⟩
          · refine ⟨hnone, ⟨h id (Option.filter_eq_some_iff.mp hid).1, ?_⟩, ?_⟩
            · intro input hinput
              cases hinput
            · intro tx htx
              cases htx

theorem sound_onTransactionPackageReceived {hasConsensus fullSync isPackage : Bool}
    {txs : List (String × Bytes)} (h : ∀ tx ∈ txs, Commits env spends tx.1 tx.2) :
    (onTransactionPackageReceived env hasConsensus fullSync isPackage txs).Sound env spends := by
  have hnone : ∀ tx ∈ ([] : List IMempoolTransactionObj), OpnetNode.Sound env spends tx := by simp
  unfold onTransactionPackageReceived
  split
  · exact ⟨hnone, trivial⟩
  · split
    · exact ⟨hnone, trivial⟩
    · exact Sound.nextInPackage (r := startOf (.package isPackage) .testing) ⟨hnone, trivial⟩ h

theorem PendingInv.arrives (h : s.PendingInv env spends) {r : MempoolRequest}
    (hr : r.Sound env spends) : { s with requests := s.requests ++ [r] }.PendingInv env spends where
  genuine := h.genuine
  requests := by
    intro r' hr'
    rcases List.mem_append.mp hr' with hr' | hr'
    · exact h.requests r' hr'
    · rw [List.mem_singleton.mp hr']
      exact hr
  population := h.population
  pending := h.pending_of_subset (fun _ hd => hd) fun a _ b _ hdeletes => by
    rcases hdeletes with ⟨r', hr', hdeletes⟩ | hdeletes
    · exact .inl ⟨r', List.mem_append_left _ hr', hdeletes⟩
    · exact .inr hdeletes

theorem PendingInv.goesOn (h : s.PendingInv env spends) {k : ℕ} {r : MempoolRequest}
    (hr : s.requests[k]? = some r) {answer : CallAnswer} {p : RequestProgress}
    (hstep : GoesOn env r s.mempool answer p) (hreliable : r.Reliable env spends answer) :
    { s with
      mempool := p.mempool
      requests := s.requests.set k p.request }.PendingInv env spends := by
  have hsound := h.requests r (List.mem_of_getElem? hr)
  have hrequests : ∀ r' ∈ s.requests.set k p.request, r'.Sound env spends := by
    intro r' hr'
    rcases List.mem_or_eq_of_mem_set hr' with hr' | rfl
    · exact h.requests r' hr'
    · exact hsound.goesOn hstep hreliable
  rcases hstep.writes hreliable with ⟨hmempool, hnot⟩ | ⟨route, i, tx, htx, hphase, hrequest, hmempool⟩ |
    ⟨route, i, cleanup, tx, htx, hphase, rfl⟩
  · -- the request does not clean up, so it had nothing in hand
    refine ⟨?_, hrequests, h.population, h.pending_of_subset ?_ fun a _ b _ hdeletes => ?_⟩
    · rw [hmempool]
      exact h.genuine
    · rw [hmempool]
      exact fun _ hd => hd
    · exact hdeletes.set hr rfl rfl fun hdeletes => absurd hdeletes (not_deletes hnot a b)
  · have hstored : ∀ b, p.request.Deletes (document tx) b := by
      intro b
      rw [hrequest]
      exact ⟨route, i, .finding, rfl, tx, htx, rfl, fun _ hinput => hinput⟩
    have hk : k < s.requests.length := (List.getElem?_eq_some_iff.mp hr).1
    refine ⟨?_, hrequests, h.population, h.pending_of_stored hmempool ?_ ?_⟩
    · intro d hd
      rw [hmempool, mem_docs_storeTransaction] at hd
      rcases hd with rfl | ⟨hd, -⟩
      · intro input hinput
        have htx' := hsound.transactions tx (List.mem_of_getElem? htx)
        exact htx'.commits input (htx'.parsed input hinput)
      · exact h.genuine d hd
    · intro a b hdeletes
      refine hdeletes.set hr rfl rfl fun hdeletes => absurd hdeletes (not_deletes ?_ a b)
      simp [hphase]
    · intro b _ _
      exact .inl ⟨p.request, List.mem_set hk p.request, hstored b⟩
  · have hsub : ∀ d ∈ (r.onCleanup env s.mempool route i tx cleanup).mempool.docs,
        d ∈ s.mempool.docs := fun d hd => mem_docs_of_onCleanup hd
    refine ⟨fun d hd => h.genuine d (hsub d hd), hrequests, h.population,
      h.pending_of_subset hsub fun a _ b hconflict hdeletes => ?_⟩
    exact hdeletes.set hr rfl rfl fun hdeletes => deletes_onCleanup hphase htx hdeletes hconflict

theorem PendingInv.populationStep (h : s.PendingInv env spends)
    (hrequests : s'.requests = s.requests) (hsub : ∀ d ∈ s'.mempool.docs, d ∈ s.mempool.docs)
    (hsound : s'.population.Sound spends)
    (hkeep : ∀ b ∈ s'.mempool.docs, s.population.Deletes b → s'.population.Deletes b) :
    s'.PendingInv env spends where
  genuine := fun d hd => h.genuine d (hsub d hd)
  requests := by
    rw [hrequests]
    exact h.requests
  population := hsound
  pending := h.pending_of_subset hsub fun a _ b hconflict hdeletes => by
    rcases hdeletes with ⟨r, hr, hdeletes⟩ | hdeletes
    · exact .inl ⟨r, hrequests ▸ hr, hdeletes⟩
    · exact .inr (hkeep b hconflict.1 hdeletes)

theorem PendingInv.idleStep (h : s.PendingInv env spends) {phase : PopulationPhase}
    (hpopulation : s.population = phase) (hnone : ∀ b, ¬ phase.Deletes b)
    (hrequests : s'.requests = s.requests) (hsub : ∀ d ∈ s'.mempool.docs, d ∈ s.mempool.docs)
    (hsound : s'.population.Sound spends) : s'.PendingInv env spends :=
  h.populationStep hrequests hsub hsound fun b _ hdeletes => absurd (hpopulation ▸ hdeletes) (hnone b)

theorem sound_finish (listed : List String) : (finish listed).Sound spends := by
  unfold finish
  split <;> trivial

theorem sound_storeBatch {listed : List String} (hfree : ListingConflictFree spends listed)
    (hlisted : listed ≠ []) {txs : List SpendingTransaction}
    (htxs : ∀ d ∈ txs, d.id ∈ listed ∧ Genuine spends d) : (storeBatch listed txs).Sound spends := by
  cases txs with
  | nil => exact sound_finish listed
  | cons d txs =>
    refine ⟨hfree, hlisted, ?_⟩
    rw [List.take_append_drop]
    exact htxs

/-- **A round stores what is listed.** What is in conflict with it is not listed, and is to go. -/
theorem PendingInv.onPopulationStored (h : s.PendingInv env spends) {listed : List String}
    {batch later : List SpendingTransaction} (hpopulation : s.population = .storing listed batch later)
    {place : ℕ} {tx : SpendingTransaction} (htx : batch[place]? = some tx) (landed : Bool) :
    (s.onPopulationStored listed batch later place tx landed).PendingInv env spends := by
  have hstoring := h.population
  rw [hpopulation] at hstoring
  obtain ⟨hfree, hlisted, hbatch⟩ := hstoring
  obtain ⟨htxListed, htxGenuine⟩ := hbatch tx (List.mem_append_left _ (List.mem_of_getElem? htx))
  have hnext : (s.onPopulationStored listed batch later place tx landed).population.Sound spends := by
    simp only [MempoolState.onPopulationStored]
    split
    · exact sound_storeBatch hfree hlisted fun d hd => hbatch d (List.mem_append_right _ hd)
    · refine ⟨hfree, hlisted, fun d hd => hbatch d ?_⟩
      rcases List.mem_append.mp hd with hd | hd
      · exact List.mem_append_left _ (List.mem_of_mem_eraseIdx hd)
      · exact List.mem_append_right _ hd
  have hdeletes : ∀ b, (s.onPopulationStored listed batch later place tx landed).population.Deletes b ↔
      b.id ∉ listed := by
    intro b
    simp only [MempoolState.onPopulationStored]
    split
    · exact deletes_storeBatch hlisted later b
    · rfl
  have hkeep : ∀ b, s.population.Deletes b →
      (s.onPopulationStored listed batch later place tx landed).population.Deletes b := by
    intro b hb
    rw [hpopulation] at hb
    exact (hdeletes b).mpr hb
  cases landed with
  | false =>
    exact h.populationStep rfl (fun _ hd => hd) hnext fun b _ hb => hkeep b hb
  | true =>
    refine ⟨fun d hd => ?_, h.requests, hnext, h.pending_of_stored rfl ?_ ?_⟩
    · rcases mem_docs_storeTransaction.mp hd with rfl | ⟨hd, -⟩
      · exact htxGenuine
      · exact h.genuine d hd
    · rintro a b (⟨r, hr, hb⟩ | hb)
      · exact .inl ⟨r, hr, hb⟩
      · exact .inr (hkeep b hb)
    · intro b hb hconflict
      refine .inr ((hdeletes b).mpr fun hbListed => ?_)
      obtain ⟨-, hid, input, hinput, hspent⟩ := hconflict
      exact hfree tx.id htxListed b.id hbListed hid.symm input (htxGenuine input hinput)
        (h.genuine b hb input hspent)

theorem PendingInv.populationGoesOn (h : s.PendingInv env spends) {answer : PopulationAnswer}
    (hreliable : s.population.Reliable env spends answer)
    (hstep : s.populationGoesOn env answer = some s') : s'.PendingInv env spends := by
  cases answer with
  | listed txsList =>
    simp only [MempoolState.populationGoesOn] at hstep
    split at hstep
    · rename_i hpopulation
      cases hstep
      cases txsList with
      | none => exact h.idleStep hpopulation (fun _ hb => hb) rfl (fun _ hd => hd) trivial
      | some listed =>
        refine h.idleStep hpopulation (fun _ hb => hb) rfl (fun _ hd => hd) ?_
        simp only [onListed]
        split
        · trivial
        · rename_i hunknown
          refine ⟨hreliable listed rfl, ?_, fun id hid => (List.mem_filter.mp hid).1⟩
          rintro rfl
          exact hunknown rfl
    · cases hstep
  | included ok =>
    simp only [MempoolState.populationGoesOn] at hstep
    split at hstep
    · rename_i listed unknown hpopulation
      cases hstep
      have hincluding := h.population
      rw [hpopulation] at hincluding
      obtain ⟨hfree, hlisted, hunknown⟩ := hincluding
      refine h.idleStep hpopulation (fun _ hb => hb) rfl (fun _ hd => hd) ?_
      simp only [onIncluded]
      split
      · trivial
      · exact ⟨hfree, hlisted, fun id hid => hunknown id (List.mem_filter.mp hid).1⟩
    · cases hstep
  | fetched txs =>
    simp only [MempoolState.populationGoesOn] at hstep
    split at hstep
    · rename_i listed newTxs hpopulation
      split at hstep
      · rename_i hsublist
        cases hstep
        have hfetching := h.population
        rw [hpopulation] at hfetching
        obtain ⟨hfree, hlisted, hnew⟩ := hfetching
        refine h.idleStep hpopulation (fun _ hb => hb) rfl (fun _ hd => hd) ?_
        simp only [onFetched]
        split
        · trivial
        · refine sound_storeBatch hfree hlisted fun d hd => ?_
          obtain ⟨tx, htx, rfl⟩ := List.mem_map.mp hd
          have hsub := List.isSublist_iff_sublist.mp hsublist
          exact ⟨hnew tx.1 (hsub.subset (List.mem_map_of_mem htx)), hreliable tx htx⟩
      · cases hstep
    · cases hstep
  | stored place landed =>
    simp only [MempoolState.populationGoesOn] at hstep
    split at hstep
    · rename_i hpopulation
      obtain ⟨tx, htx, rfl⟩ := Option.map_eq_some_iff.mp hstep
      exact h.onPopulationStored hpopulation htx landed
    · cases hstep
  | done =>
    simp only [MempoolState.populationGoesOn] at hstep
    split at hstep
    · rename_i listed last hpopulation
      cases hstep
      refine h.populationStep rfl (fun _ hd => hd) ?_ fun b hb hdeletes => ?_
      · simp only [onClearing]
        split
        · cases last with
          | false => exact sound_finish listed
          | true => trivial
        · trivial
      · rw [hpopulation] at hdeletes
        cases last with
        | false => cases hdeletes
        | true =>
          have hcollected : b.id ∈ (s.mempool.docs.map SpendingTransaction.id).filter
              fun id => !listed.contains id := by
            have hnot : b.id ∉ listed := hdeletes
            exact List.mem_filter.mpr ⟨List.mem_map_of_mem hb, by simpa using hnot⟩
          simp only [onClearing]
          rw [if_neg (List.ne_nil_of_mem hcollected)]
          exact hcollected
    · rename_i listed toDelete last hpopulation
      cases hstep
      refine h.populationStep rfl (fun d hd => (Collection.mem_deleteMany.mp hd).1) ?_
        fun b hb hdeletes => ?_
      · cases last with
        | false => exact sound_finish listed
        | true => trivial
      · rw [hpopulation] at hdeletes
        cases last with
        | false => cases hdeletes
        | true =>
          have hkept := (Collection.mem_deleteMany.mp hb).2
          have hin : b.id ∈ toDelete := hdeletes
          simp [hin] at hkept
    · cases hstep
  | threw =>
    obtain ⟨hclearing, hdeleting⟩ := hreliable
    simp only [MempoolState.populationGoesOn] at hstep
    split at hstep
    · rename_i hpopulation
      cases hstep
      exact h.idleStep hpopulation (fun _ hb => hb) rfl (fun _ hd => hd) trivial
    · rename_i listed _ hpopulation
      cases hstep
      exact h.idleStep hpopulation (fun _ hb => hb) rfl (fun _ hd => hd) (sound_finish listed)
    · rename_i listed hpopulation
      cases hstep
      exact h.idleStep hpopulation (fun _ hb => hb) rfl (fun _ hd => hd) (sound_finish listed)
    · rename_i listed _ hpopulation
      cases hstep
      exact h.idleStep hpopulation (fun _ hb => hb) rfl (fun _ hd => hd) (sound_finish listed)
    · rename_i listed hpopulation
      exact absurd hpopulation (hclearing listed)
    · rename_i listed toDelete hpopulation
      exact absurd hpopulation (hdeleting listed toDelete)
    · cases hstep

/-- **What every step keeps.** -/
theorem PendingInv.step (h : s.PendingInv env spends) {event : MempoolEvent}
    (hreliable : s.Reliable env spends event) (hstep : s.step env event = some s') :
    s'.PendingInv env spends := by
  cases event with
  | received hasConsensus fullSync data =>
    cases hstep
    exact h.arrives (sound_onTransactionReceived hreliable)
  | packageReceived hasConsensus fullSync isPackage txs =>
    cases hstep
    exact h.arrives (sound_onTransactionPackageReceived hreliable)
  | goOn request answer =>
    obtain ⟨r, hr, hstep⟩ := Option.bind_eq_some_iff.mp hstep
    obtain ⟨p, hp, rfl⟩ := Option.map_eq_some_iff.mp hstep
    exact h.goesOn hr (goesOn_of_goOn hp) (hreliable r hr)
  | populate =>
    simp only [MempoolState.step] at hstep
    split at hstep
    · rename_i hpopulation
      cases hstep
      exact h.idleStep hpopulation (fun _ hb => hb) rfl (fun _ hd => hd) trivial
    · cases hstep
  | populationGoesOn answer => exact h.populationGoesOn hreliable hstep
  | removed ids =>
    cases hstep
    exact h.populationStep rfl (fun d hd => (Collection.mem_deleteMany.mp hd).1) h.population
      fun b _ hb => hb

theorem pendingInv_start {mempool : MempoolTransactions} (backup : List String)
    (hgenuine : ∀ d ∈ mempool.docs, Genuine spends d) (hfree : ConflictFree mempool.docs) :
    (start mempool backup).PendingInv env spends where
  genuine := hgenuine
  requests := by
    intro r hr
    cases hr
  population := trivial
  pending := fun a ha b hconflict => absurd hconflict (hfree a ha b)

/-- **No outpoint is spent twice once no clean-up is under way.** -/
theorem conflictFree_of_runFrom (env : MempoolEnvironment) (spends : String → List SpentOutPoint)
    (mempool : MempoolTransactions) (backup : List String)
    (hgenuine : ∀ d ∈ mempool.docs, Genuine spends d) (hfree : ConflictFree mempool.docs)
    (events : List MempoolEvent) (t : MempoolState)
    (hreliable : Meets (MempoolState.step env) (MempoolState.Reliable env spends)
      (start mempool backup) events)
    (hrun : runFrom (MempoolState.step env) (start mempool backup) events = some t) :
    (∀ a ∈ t.mempool.docs, ∀ b, Conflicts a t.mempool.docs b → t.Deletes a b ∨ t.Deletes b a) ∧
      (t.Quiet → ConflictFree t.mempool.docs) := by
  have hinv := invariant_runFrom (P := PendingInv env spends)
    (fun s event s' h hok hstep => h.step hok hstep) events _ t
    (pendingInv_start backup hgenuine hfree) hreliable hrun
  refine ⟨hinv.pending, fun hquiet a ha b hconflict => ?_⟩
  rcases hinv.pending a ha b hconflict with hdeletes | hdeletes
  · exact hquiet a b hdeletes
  · exact hquiet b a hdeletes

/-- Every transaction spends the one output there is. -/
def oneOutput : MempoolEnvironment where
  PREVENT_TX_BROADCAST_IF_NOT_SYNCED := true
  ALLOW_LARGE_TRANSACTIONS := false
  MAXIMUM_TRANSACTION_BROADCAST_SIZE := 1000
  parseInputs := fun _ => [⟨"funding", 0⟩]

def spentByOld : MempoolTransactions := ⟨[⟨"old", [⟨"funding", 0⟩]⟩], by decide⟩

/-- `new` replaces `old`. -/
def replacement : List MempoolEvent :=
  [.received true true ⟨[1], false, some "new"⟩, .goOn 0 .done, .goOn 0 (.verified (.ok .Generic)),
    .goOn 0 (.broadcast (.ok (some ⟨true, some "new", none, none⟩))), .goOn 0 (.stored true true),
    .goOn 0 .done, .goOn 0 .done, .goOn 0 .done]

theorem conflictFree_replacement :
    ∃ t, runFrom (MempoolState.step oneOutput) (start spentByOld []) replacement = some t ∧
      t.mempool.docs = [⟨"new", [⟨"funding", 0⟩]⟩] ∧ (t.Quiet → ConflictFree t.mempool.docs) := by
  have hdocs : (runFrom (MempoolState.step oneOutput) (start spentByOld []) replacement).map
      (fun t => t.mempool.docs) = some [⟨"new", [⟨"funding", 0⟩]⟩] := by decide +kernel
  obtain ⟨t, hrun, hdocs⟩ := Option.map_eq_some_iff.mp hdocs
  have hcommits : ∀ id data, Commits oneOutput (fun _ => [⟨"funding", 0⟩]) id data :=
    fun _ _ input hinput => hinput
  have hmeets : Meets (MempoolState.step oneOutput)
      (MempoolState.Reliable oneOutput fun _ => [⟨"funding", 0⟩]) (start spentByOld []) replacement := by
    refine meets_of_forall (fun event hevent s => ?_) _
    simp only [replacement, List.mem_cons, List.not_mem_nil, or_false] at hevent
    rcases hevent with rfl | rfl | rfl | rfl | rfl | rfl | rfl | rfl
    · exact fun id _ => hcommits id _
    · exact fun _ _ => trivial
    · exact fun _ _ => trivial
    · exact fun _ _ _ _ _ _ id _ => hcommits id _
    · exact fun _ _ => rfl
    · exact fun _ _ => trivial
    · exact fun _ _ => trivial
    · exact fun _ _ => trivial
  have hgenuine : ∀ d ∈ spentByOld.docs, Genuine (fun _ => [⟨"funding", 0⟩]) d := by
    simp [spentByOld, Genuine]
  have hfree : ConflictFree spentByOld.docs := by
    simp [ConflictFree, Conflicts, spentByOld]
  exact ⟨t, hrun, hdocs, (conflictFree_of_runFrom oneOutput (fun _ => [⟨"funding", 0⟩]) spentByOld
    [] hgenuine hfree replacement t hmeets hrun).2⟩

end MempoolState

end

end OpnetNode
