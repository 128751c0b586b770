import Mathlib.Algebra.Order.Group.Nat
import OpnetNode.Witness.Equiv.EarlyWitnesses

/-!
# The budget of validations

Validations of peer witnesses are limited in three ways: how many go on, how many wait, and how many
are started for one height. The purge forgets the counter of a height once that height is too old, so
a witness that still waits may be started in excess; it is too old then, and ends at once.

* `Accounted`: the counters agree with what goes on and with what was started.
* `accounted_drainItems`: draining the queue keeps them.
* `BudgetRun`: a run, with the validations that were started and the heights at which they were.
-/

namespace OpnetNode

namespace BlockWitnessManager

variable {env : WitnessEnvironment} {m m' : BlockWitnessManager}
  {started : List (WitnessValidation × ℤ)}

def validationCount (m : BlockWitnessManager) (blockNumber : ℕ) : ℕ :=
  (m.blockValidationCount.get blockNumber).getD 0

/-- Whether a validation was started for a height that was not too old by then. -/
def startedInTime (env : WitnessEnvironment) (p : WitnessValidation × ℤ) : Bool :=
  decide (p.2 - env.pendingBlockThreshold ≤ (p.1.blockNumber : ℤ))

/-- How often validations were started in time for a height. -/
def startedFor (env : WitnessEnvironment) (blockNumber : ℕ)
    (started : List (WitnessValidation × ℤ)) : ℕ :=
  started.countP fun p => p.1.blockNumber = blockNumber && startedInTime env p

/-- The counters of a manager, given what was started. The counter of a height that is not too old
was never forgotten. -/
structure Accounted (env : WitnessEnvironment) (m : BlockWitnessManager)
    (started : List (WitnessValidation × ℤ)) : Prop where
  active : m.activeValidations = m.validations.length
  peers : ∀ v ∈ m.validations, v.self = false
  concurrent : m.activeValidations ≤ MAX_CONCURRENT_WITNESS_VALIDATIONS
  queue : m.witnessQueue.length ≤ MAX_WITNESS_QUEUE_SIZE
  count : ∀ n, m.validationCount n ≤ MAX_VALIDATIONS_PER_BLOCK
  counted : ∀ n, m.isOld env n = false → startedFor env n started ≤ m.validationCount n
  perBlock : ∀ n, startedFor env n started ≤ MAX_VALIDATIONS_PER_BLOCK
  old : ∀ p ∈ started, startedInTime env p = false → p.1.phase = .ended

/-- Nothing waits while a slot is free. -/
def NoneWaits (m : BlockWitnessManager) : Prop :=
  m.activeValidations < MAX_CONCURRENT_WITNESS_VALIDATIONS → m.witnessQueue = []

theorem startedInTime_eq (v : WitnessValidation) (m : BlockWitnessManager) :
    startedInTime env (v, m.currentBlock) = !m.isOld env v.blockNumber := by
  unfold startedInTime isOld
  rw [← decide_not, decide_eq_decide]
  exact not_lt.symm

theorem startedFor_append (n : ℕ) (p : WitnessValidation × ℤ) :
    startedFor env n (started ++ [p]) =
      startedFor env n started +
        if p.1.blockNumber = n ∧ startedInTime env p = true then 1 else 0 := by
  simp [startedFor, List.countP_append, List.countP_cons]

/-! ### A step without a start -/

/-- A change that starts nothing: the height does not fall, and counters are forgotten only for heights
that are too old. -/
theorem Accounted.frame (h : Accounted env m started)
    (hactive : m'.activeValidations = m'.validations.length)
    (hpeers : ∀ v ∈ m'.validations, v.self = false)
    (hfewer : m'.activeValidations ≤ m.activeValidations)
    (hqueue : m'.witnessQueue.length ≤ MAX_WITNESS_QUEUE_SIZE)
    (hcurrent : m.currentBlock ≤ m'.currentBlock)
    (hcount : ∀ n, m'.validationCount n = m.validationCount n ∨
      (m'.validationCount n = 0 ∧ m'.isOld env n = true)) :
    Accounted env m' started := by
  refine ⟨hactive, hpeers, hfewer.trans h.concurrent, hqueue, ?_, ?_, h.perBlock, h.old⟩
  · intro n
    rcases hcount n with hsame | ⟨hzero, -⟩
    · rw [hsame]
      exact h.count n
    · rw [hzero]
      exact Nat.zero_le _
  · intro n hrecent
    rcases hcount n with hsame | ⟨-, hold⟩
    · have hrecent' : m.isOld env n = false := by
        have hn := of_decide_eq_false hrecent
        apply decide_eq_false
        omega
      rw [hsame]
      exact h.counted n hrecent'
    · cases hold.symm.trans hrecent

theorem accounted_setCurrentBlock {newBlock : ℤ} (hcurrent : m.currentBlock ≤ newBlock)
    (h : Accounted env m started) : Accounted env (m.setCurrentBlock newBlock) started :=
  h.frame h.active h.peers le_rfl h.queue hcurrent fun _ => Or.inl rfl

theorem accounted_purgeOldWitnesses (h : Accounted env m started) :
    Accounted env (m.purgeOldWitnesses env) started := by
  refine h.frame h.active h.peers le_rfl h.queue le_rfl ?_
  intro n
  have hget : (m.purgeOldWitnesses env).blockValidationCount.get n =
      if decide (m.currentBlock - n ≤ env.pendingBlockThreshold) = true then
        m.blockValidationCount.get n
      else none := by
    rw [purgeOldWitnesses, JsMap.get_filterKeys]
  unfold validationCount
  rw [hget]
  split
  · exact Or.inl rfl
  · -- what the purge forgets is what the age test rejects
    rename_i hfar
    right
    have hfar : ¬ m.currentBlock - n ≤ env.pendingBlockThreshold := by simpa using hfar
    have hold : (n : ℤ) < m.currentBlock - env.pendingBlockThreshold := by omega
    exact ⟨rfl, decide_eq_true hold⟩

theorem accounted_withPending (pending : JsMap ℕ (List BlockHeaderWitness))
    (h : Accounted env m started) : Accounted env (m.withPending pending) started :=
  h.frame h.active h.peers le_rfl h.queue le_rfl fun _ => Or.inl rfl

theorem accounted_recordWitnesses (k : ℕ) (v : WitnessValidation)
    (blockDataAtHeight : Option ValidatedBlockHeader) (hself : v.self = false)
    (h : Accounted env m started) :
    Accounted env (m.recordWitnesses env k v blockDataAtHeight) started := by
  have hset : ∀ phase, m.activeValidations =
      (m.validations.set k { v with phase := phase }).length := by
    intro phase
    rw [List.length_set]
    exact h.active
  have hpeers : ∀ phase, ∀ v' ∈ m.validations.set k { v with phase := phase }, v'.self = false := by
    intro phase v' hv'
    rcases List.mem_or_eq_of_mem_set hv' with hold | rfl
    · exact h.peers v' hold
    · exact hself
  unfold recordWitnesses
  dsimp only
  split
  · exact h.frame (hset _) (hpeers _) le_rfl h.queue le_rfl fun _ => Or.inl rfl
  · exact h.frame (hset _) (hpeers _) le_rfl h.queue le_rfl fun _ => Or.inl rfl

theorem accounted_enqueueWitnessValidation (blockNumber : ℕ) (witness : BlockHeaderWitness)
    (h : Accounted env m started) :
    Accounted env (m.enqueueWitnessValidation env blockNumber witness) started := by
  unfold enqueueWitnessValidation
  split
  · exact h
  split
  · exact h
  rename_i hroom
  split
  · exact h
  · refine h.frame h.active h.peers le_rfl ?_ le_rfl fun _ => Or.inl rfl
    have hlength : (m.witnessQueue ++ [(blockNumber, witness)]).length =
        m.witnessQueue.length + 1 := by simp
    show (m.witnessQueue ++ [(blockNumber, witness)]).length ≤ MAX_WITNESS_QUEUE_SIZE
    omega

theorem accounted_enqueueAll (calls : List (ℕ × BlockHeaderWitness)) (m : BlockWitnessManager)
    (h : Accounted env m started) :
    Accounted env (calls.foldl (fun m call => enqueueWitnessValidation env call.1 call.2 m) m)
      started := by
  induction calls generalizing m with
  | nil => exact h
  | cons call calls ih =>
    exact ih _ (accounted_enqueueWitnessValidation call.1 call.2 h)

/-- A slot is free again. -/
def endValidation (k : ℕ) (m : BlockWitnessManager) : BlockWitnessManager :=
  { m with
    validations := m.validations.eraseIdx k
    activeValidations := m.activeValidations - 1 }

theorem settle_of_self_eq_false {v : WitnessValidation} (hself : v.self = false) (k : ℕ)
    (m : BlockWitnessManager) :
    m.settle env k v = (m.endValidation k).drainWitnessQueue env := by
  rw [settle, hself]
  rfl

theorem accounted_endValidation {k : ℕ} (hk : k < m.validations.length)
    (h : Accounted env m started) : Accounted env (m.endValidation k) started := by
  refine h.frame ?_ ?_ (Nat.sub_le _ _) h.queue le_rfl fun _ => Or.inl rfl
  · show m.activeValidations - 1 = (m.validations.eraseIdx k).length
    rw [List.length_eraseIdx_of_lt hk, h.active]
  · intro v hv
    exact h.peers v (List.mem_of_mem_eraseIdx hv)

/-! ### Starts -/

/-- The counters before a call of `processBlockWitnesses`. -/
def countValidation (blockNumber : ℕ) (m : BlockWitnessManager) : BlockWitnessManager :=
  { m with
    activeValidations := m.activeValidations + 1
    blockValidationCount :=
      m.blockValidationCount.set blockNumber (m.validationCount blockNumber + 1) }

/-- The validation that `processBlockWitnesses` adds; it is over if the height is too old. -/
theorem validations_processBlockWitnesses (env : WitnessEnvironment) (self : Bool) (blockNumber : ℕ)
    (blockWitness : BlockHeaderWitness) (m : BlockWitnessManager) :
    ∃ v, (m.processBlockWitnesses env self blockNumber blockWitness).validations =
        m.validations ++ [v] ∧
      v.self = self ∧ v.blockNumber = blockNumber ∧
      (m.isOld env blockNumber = true → v.phase = .ended) := by
  refine ⟨_, rfl, rfl, rfl, ?_⟩
  intro hold
  exact if_pos hold

theorem validationCount_countValidation (blockNumber n : ℕ) (m : BlockWitnessManager) :
    (m.countValidation blockNumber).validationCount n =
      m.validationCount n + if n = blockNumber then 1 else 0 := by
  show ((m.blockValidationCount.set blockNumber _).get n).getD 0 = _
  rw [JsMap.get_set]
  split
  · rename_i heq
    rw [heq]
    rfl
  · rfl

theorem Accounted.start (h : Accounted env m started) {blockNumber : ℕ}
    (blockWitness : BlockHeaderWitness)
    (hslot : m.activeValidations < MAX_CONCURRENT_WITNESS_VALIDATIONS)
    (hcount : m.validationCount blockNumber < MAX_VALIDATIONS_PER_BLOCK) :
    ∃ v, ((m.countValidation blockNumber).processBlockWitnesses env false blockNumber
          blockWitness).validations = m.validations ++ [v] ∧
      Accounted env ((m.countValidation blockNumber).processBlockWitnesses env false blockNumber
        blockWitness) (started ++ [(v, m.currentBlock)]) := by
  obtain ⟨v, hvalidations, hself, hnumber, hended⟩ :=
    validations_processBlockWitnesses env false blockNumber blockWitness
      (m.countValidation blockNumber)
  have hvalidations : ((m.countValidation blockNumber).processBlockWitnesses env false blockNumber
      blockWitness).validations = m.validations ++ [v] := hvalidations
  have hended : m.isOld env blockNumber = true → v.phase = .ended := hended
  have hinTime : startedInTime env (v, m.currentBlock) = !m.isOld env blockNumber := by
    rw [startedInTime_eq, hnumber]
  have hcounter : ∀ n, ((m.countValidation blockNumber).processBlockWitnesses env false blockNumber
      blockWitness).validationCount n = m.validationCount n + if n = blockNumber then 1 else 0 :=
    fun n => validationCount_countValidation blockNumber n m
  have hsame : ∀ n, n ≠ blockNumber ∨ m.isOld env blockNumber = true →
      startedFor env n (started ++ [(v, m.currentBlock)]) = startedFor env n started := by
    intro n hn
    rw [startedFor_append, if_neg, Nat.add_zero]
    rintro ⟨heq, hnow⟩
    rw [hinTime] at hnow
    rcases hn with hne | hold
    · exact hne (heq.symm.trans hnumber)
    · rw [hold] at hnow
      cases hnow
  have hone : startedFor env blockNumber (started ++ [(v, m.currentBlock)]) ≤
      startedFor env blockNumber started + 1 := by
    rw [startedFor_append]
    split
    · exact le_rfl
    · exact Nat.le_succ _
  refine ⟨v, hvalidations, ?_, ?_, ?_, h.queue, ?_, ?_, ?_, ?_⟩
  · show m.activeValidations + 1 = _
    rw [hvalidations, List.length_append, h.active]
    rfl
  · intro v' hv'
    rw [hvalidations] at hv'
    rcases List.mem_append.mp hv' with hv' | hv'
    · exact h.peers v' hv'
    · rw [List.mem_singleton.mp hv']
      exact hself
  · exact hslot
  · intro n
    rw [hcounter]
    have hn := h.count n
    split
    · rename_i heq
      rw [heq]
      exact hcount
    · exact hn
  · intro n hrecent
    have hn := h.counted n hrecent
    rw [hcounter]
    by_cases heq : n = blockNumber
    · rw [heq] at hn ⊢
      rw [if_pos rfl]
      omega
    · rw [hsame n (Or.inl heq), if_neg heq]
      exact hn
  · intro n
    by_cases heq : n = blockNumber
    · by_cases hold : m.isOld env blockNumber = true
      · rw [hsame n (Or.inr hold)]
        exact h.perBlock n
      · -- the height is recent, so its counter was never forgotten
        have hn := h.counted blockNumber (eq_false_of_ne_true hold)
        rw [heq]
        omega
    · rw [hsame n (Or.inl heq)]
      exact h.perBlock n
  · intro p hp hlate
    rcases List.mem_append.mp hp with hp | hp
    · exact h.old p hp hlate
    · rw [List.mem_singleton.mp hp] at hlate ⊢
      rw [hinTime, Bool.not_eq_false'] at hlate
      exact hended hlate

theorem accounted_drainItems (items : List (ℕ × BlockHeaderWitness)) (m : BlockWitnessManager)
    (started : List (WitnessValidation × ℤ)) (hitems : items.length ≤ MAX_WITNESS_QUEUE_SIZE)
    (h : Accounted env m started) :
    ∃ new, (drainItems env items m).validations = m.validations ++ new ∧
      Accounted env (drainItems env items m)
        (started ++ new.map fun v => (v, m.currentBlock)) ∧
      NoneWaits (drainItems env items m) := by
  induction items generalizing m started with
  | nil =>
    refine ⟨[], (List.append_nil _).symm, ?_, fun _ => rfl⟩
    rw [List.map_nil, List.append_nil]
    exact h.frame h.active h.peers le_rfl (Nat.zero_le _) le_rfl fun _ => Or.inl rfl
  | cons item items ih =>
    have hrest : items.length ≤ MAX_WITNESS_QUEUE_SIZE := by
      rw [List.length_cons] at hitems
      omega
    rw [drainItems]
    split
    · rename_i hslot
      dsimp only
      split
      · exact ih m started hrest h
      · rename_i hcount
        obtain ⟨v, hvalidations, hstarted⟩ := h.start item.2 hslot (not_le.mp hcount)
        obtain ⟨new, hnew, haccounted, hnone⟩ := ih _ _ hrest hstarted
        refine ⟨v :: new, ?_, ?_, hnone⟩
        · rw [List.append_cons, ← hvalidations]
          exact hnew
        · rw [List.map_cons, List.append_cons]
          exact haccounted
    · rename_i hfull
      refine ⟨[], (List.append_nil _).symm, ?_, fun hfree => absurd hfree hfull⟩
      rw [List.map_nil, List.append_nil]
      exact h.frame h.active h.peers le_rfl hitems le_rfl fun _ => Or.inl rfl

theorem accounted_drainWitnessQueue (h : Accounted env m started) :
    ∃ new, (m.drainWitnessQueue env).validations = m.validations ++ new ∧
      Accounted env (m.drainWitnessQueue env) (started ++ new.map fun v => (v, m.currentBlock)) ∧
      NoneWaits (m.drainWitnessQueue env) :=
  accounted_drainItems m.witnessQueue m started h.queue h

end BlockWitnessManager

/-! ### Runs -/

open BlockWitnessManager

/-- A manager, with the validations as they were started and the heights at which they were. -/
structure BudgetRun where
  manager : BlockWitnessManager
  started : List (WitnessValidation × ℤ)

namespace BudgetRun

variable {env : WitnessEnvironment} {r r' : BudgetRun}

def init : BudgetRun := ⟨BlockWitnessManager.init, []⟩

/-- How many validations are not new after an event. -/
def goingOn (m : BlockWitnessManager) : PeerWitnessEvent → ℕ
  | .settle _ => m.validations.length - 1
  | _ => m.validations.length

/-- The run after an event that leads to a manager. -/
def log (r : BudgetRun) (event : PeerWitnessEvent) (m : BlockWitnessManager) : BudgetRun where
  manager := m
  started := r.started ++
    (m.validations.drop (goingOn r.manager event)).map fun v => (v, r.manager.currentBlock)

def step (env : WitnessEnvironment) (r : BudgetRun) (event : PeerWitnessEvent) : Option BudgetRun :=
  (r.manager.peerStep env event).map (r.log event)

/-- The height does not fall. -/
def NeverDecreases (r : BudgetRun) : PeerWitnessEvent → Prop
  | .setCurrentBlock newBlock => r.manager.currentBlock ≤ newBlock
  | _ => True

instance decidableNeverDecreases (r : BudgetRun) : ∀ event, Decidable (NeverDecreases r event)
  | .setCurrentBlock newBlock => inferInstanceAs (Decidable (r.manager.currentBlock ≤ newBlock))
  | .onBlockWitness _ _ | .onBlockWitnessResponse _ _ | .answered _ _ | .settle _
  | .purgeOldWitnesses => isTrue trivial

/-- The limits hold; what is started for a height that is too old ends at once, without a request. -/
structure WithinBudget (env : WitnessEnvironment) (r : BudgetRun) : Prop where
  concurrent : r.manager.validations.length ≤ MAX_CONCURRENT_WITNESS_VALIDATIONS
  queue : r.manager.witnessQueue.length ≤ MAX_WITNESS_QUEUE_SIZE
  perBlock : ∀ n, startedFor env n r.started ≤ MAX_VALIDATIONS_PER_BLOCK
  old : ∀ p ∈ r.started, startedInTime env p = false → p.1.phase = .ended
  noneWaits : r.manager.validations.length < MAX_CONCURRENT_WITNESS_VALIDATIONS →
    r.manager.witnessQueue = []

/-- The counters are right, and nothing waits in vain. -/
structure BudgetInv (env : WitnessEnvironment) (r : BudgetRun) : Prop where
  accounted : Accounted env r.manager r.started
  noneWaits : NoneWaits r.manager

theorem budgetInv_init (env : WitnessEnvironment) : BudgetInv env init := by
  have hzero : ∀ n, startedFor env n [] = 0 := fun _ => rfl
  refine ⟨⟨rfl, ?_, Nat.zero_le _, Nat.zero_le _, ?_, ?_, ?_, ?_⟩, fun _ => rfl⟩
  · intro v hv
    cases hv
  · exact fun _ => Nat.zero_le _
  · exact fun n _ => (hzero n).trans_le (Nat.zero_le _)
  · exact fun n => (hzero n).trans_le (Nat.zero_le _)
  · intro p hp
    cases hp

theorem BudgetInv.withinBudget (h : BudgetInv env r) : WithinBudget env r := by
  have hactive := h.accounted.active
  refine ⟨?_, h.accounted.queue, h.accounted.perBlock, h.accounted.old, ?_⟩
  · rw [← hactive]
    exact h.accounted.concurrent
  · rw [← hactive]
    exact h.noneWaits

variable {event : PeerWitnessEvent} {m : BlockWitnessManager}

/-- An event after which no validation is new. -/
theorem BudgetInv.quiet (hlength : m.validations.length ≤ goingOn r.manager event)
    (haccounted : Accounted env m r.started) (hnone : NoneWaits m) :
    BudgetInv env (r.log event m) := by
  have hstarted : (r.log event m).started = r.started := by
    rw [log, List.drop_eq_nil_of_le hlength, List.map_nil, List.append_nil]
  refine ⟨?_, hnone⟩
  rw [hstarted]
  exact haccounted

/-- An event that ends with the loop over the queue. -/
theorem BudgetInv.drained (hlength : m.validations.length = goingOn r.manager event)
    (hcurrent : m.currentBlock = r.manager.currentBlock) (h : Accounted env m r.started) :
    BudgetInv env (r.log event (m.drainWitnessQueue env)) := by
  obtain ⟨new, hvalidations, haccounted, hnone⟩ := accounted_drainWitnessQueue h
  have hstarted : (r.log event (m.drainWitnessQueue env)).started =
      r.started ++ new.map fun v => (v, m.currentBlock) := by
    rw [log, hvalidations, ← hlength, List.drop_left, hcurrent]
  refine ⟨?_, hnone⟩
  rw [hstarted]
  exact haccounted

theorem validations_enqueueWitnessValidation (env : WitnessEnvironment) (blockNumber : ℕ)
    (witness : BlockHeaderWitness) (m : BlockWitnessManager) :
    (m.enqueueWitnessValidation env blockNumber witness).validations = m.validations := by
  unfold enqueueWitnessValidation
  split
  · rfl
  split
  · rfl
  split
  · rfl
  · rfl

theorem validations_enqueueAll (env : WitnessEnvironment) (calls : List (ℕ × BlockHeaderWitness))
    (m : BlockWitnessManager) :
    (calls.foldl (fun m call => enqueueWitnessValidation env call.1 call.2 m) m).validations =
      m.validations := by
  induction calls generalizing m with
  | nil => rfl
  | cons call calls ih =>
    rw [List.foldl_cons, ih, validations_enqueueWitnessValidation]

theorem budgetInv_onBlockWitness (h : BudgetInv env r) (blockNumber : ℕ)
    (blockWitness : BlockHeaderWitness) :
    BudgetInv env (r.log (.onBlockWitness blockNumber blockWitness)
      (r.manager.onBlockWitness env blockNumber blockWitness)) := by
  by_cases hreached : r.manager.currentBlock = -1 ∨ r.manager.currentBlock < blockNumber
  · -- nothing is started: the message is dropped, or kept for later
    have hcases : r.manager.onBlockWitness env blockNumber blockWitness = r.manager ∨
        ∃ pending, r.manager.onBlockWitness env blockNumber blockWitness =
          r.manager.withPending pending := by
      rw [onBlockWitness]
      split
      · exact Or.inl rfl
      rename_i hknown
      rw [if_pos (hreached.resolve_left hknown)]
      rcases addToPending_cases env blockNumber blockWitness r.manager with hsame | ⟨-, hkept⟩
      · exact Or.inl hsame
      · exact Or.inr ⟨_, hkept⟩
    rcases hcases with hsame | ⟨pending, hpending⟩
    · rw [hsame]
      exact .quiet le_rfl h.accounted h.noneWaits
    · rw [hpending]
      exact .quiet le_rfl (accounted_withPending pending h.accounted) h.noneWaits
  · rw [onBlockWitness_eq hreached]
    apply BudgetInv.drained
    · rw [validations_enqueueAll]
      rfl
    · exact (keepsPending_enqueueAll _ _).1
    · exact accounted_enqueueAll _ _ (accounted_withPending _ h.accounted)

theorem budgetInv_settle (h : BudgetInv env r) {k : ℕ} {v : WitnessValidation}
    (hv : r.manager.validations[k]? = some v) :
    BudgetInv env (r.log (.settle k) (r.manager.settle env k v)) := by
  obtain ⟨hk, -⟩ := List.getElem?_eq_some_iff.mp hv
  have hself : v.self = false := h.accounted.peers v (List.mem_of_getElem? hv)
  rw [settle_of_self_eq_false hself]
  exact BudgetInv.drained (List.length_eraseIdx_of_lt hk) rfl (accounted_endValidation hk h.accounted)

theorem budgetInv_step (env : WitnessEnvironment) (r : BudgetRun) (event : PeerWitnessEvent)
    (r' : BudgetRun) (h : BudgetInv env r) (hnever : NeverDecreases r event)
    (hstep : step env r event = some r') : BudgetInv env r' := by
  rw [step, Option.map_eq_some_iff] at hstep
  obtain ⟨m, hm, rfl⟩ := hstep
  cases event with
  | setCurrentBlock newBlock =>
    cases hm
    exact .quiet le_rfl (accounted_setCurrentBlock hnever h.accounted) h.noneWaits
  | onBlockWitness blockNumber blockWitness =>
    cases hm
    exact budgetInv_onBlockWitness h blockNumber blockWitness
  | onBlockWitnessResponse blockNumber blockWitness =>
    cases hm
    apply BudgetInv.drained
    · rw [validations_enqueueWitnessValidation]
      rfl
    · exact (keepsPending_enqueueWitnessValidation _ _ _).1
    · exact accounted_enqueueWitnessValidation _ _ h.accounted
  | answered k blockDataAtHeight =>
    rw [peerStep, Option.map_eq_some_iff] at hm
    obtain ⟨v, hv, rfl⟩ := hm
    have hself : v.self = false := h.accounted.peers v (List.mem_of_getElem? hv)
    have haccounted := accounted_recordWitnesses k v blockDataAtHeight hself h.accounted
    -- recording ends no validation: it is counted until it settles
    have hsame : (r.manager.recordWitnesses env k v blockDataAtHeight).activeValidations =
          r.manager.activeValidations ∧
        (r.manager.recordWitnesses env k v blockDataAtHeight).witnessQueue =
          r.manager.witnessQueue := by
      unfold recordWitnesses
      dsimp only
      split
      · exact ⟨rfl, rfl⟩
      · exact ⟨rfl, rfl⟩
    refine BudgetInv.quiet ?_ haccounted ?_
    · rw [← haccounted.active, hsame.1, h.accounted.active]
      rfl
    · rw [NoneWaits, hsame.1, hsame.2]
      exact h.noneWaits
  | settle k =>
    rw [peerStep, Option.map_eq_some_iff] at hm
    obtain ⟨v, hv, rfl⟩ := hm
    exact budgetInv_settle h hv
  | purgeOldWitnesses =>
    cases hm
    exact .quiet le_rfl (accounted_purgeOldWitnesses h.accounted) h.noneWaits

/-- **The validations stay within their budget** in every run in which the height does not fall. -/
theorem withinBudget_of_runFrom (env : WitnessEnvironment) (events : List PeerWitnessEvent)
    (r : BudgetRun) (hnever : Meets (step env) NeverDecreases init events)
    (hrun : runFrom (step env) init events = some r) : WithinBudget env r :=
  (invariant_runFrom (budgetInv_step env) events init r (budgetInv_init env) hnever
    hrun).withinBudget

/-- Eight witnesses arrive for height 5, three of which are validated. By the time these end the
height is too old, and its counter is forgotten. -/
def purgedWhileQueued : List PeerWitnessEvent :=
  .setCurrentBlock 5 :: List.replicate 8 (.onBlockWitness 5 EarlyRun.someWitness) ++
    [.setCurrentBlock 20, .purgeOldWitnesses] ++ List.replicate 3 (.settle 0)

theorem withinBudget_purgedWhileQueued :
    ((runFrom (step EarlyRun.twoAhead) init purgedWhileQueued).map fun r =>
        startedFor EarlyRun.twoAhead 5 r.started) = some 3 ∧
      ∀ r, runFrom (step EarlyRun.twoAhead) init purgedWhileQueued = some r →
        WithinBudget EarlyRun.twoAhead r := by
  have hrun : Meets (step EarlyRun.twoAhead) NeverDecreases init purgedWhileQueued ∧
      ((runFrom (step EarlyRun.twoAhead) init purgedWhileQueued).map fun r =>
        startedFor EarlyRun.twoAhead 5 r.started) = some 3 := by
    decide +kernel
  exact ⟨hrun.2, fun r => withinBudget_of_runFrom EarlyRun.twoAhead purgedWhileQueued r hrun.1⟩

/-- The height never falls, and six validations are started for height 5. -/
theorem started_purgedWhileQueued :
    Meets (step EarlyRun.twoAhead) NeverDecreases init purgedWhileQueued ∧
      ∃ r, runFrom (step EarlyRun.twoAhead) init purgedWhileQueued = some r ∧
        MAX_VALIDATIONS_PER_BLOCK <
          r.started.countP fun p => p.1.self = false && p.1.blockNumber = 5 := by
  have hrun : Meets (step EarlyRun.twoAhead) NeverDecreases init purgedWhileQueued ∧
      ((runFrom (step EarlyRun.twoAhead) init purgedWhileQueued).map fun r =>
        r.started.countP fun p => p.1.self = false && p.1.blockNumber = 5) = some 6 := by
    decide +kernel
  obtain ⟨hnever, hfields⟩ := hrun
  obtain ⟨r, hr, hcount⟩ := Option.map_eq_some_iff.mp hfields
  refine ⟨hnever, r, hr, ?_⟩
  rw [hcount]
  decide

end BudgetRun

end OpnetNode
