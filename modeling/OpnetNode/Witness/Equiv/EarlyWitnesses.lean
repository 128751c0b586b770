import Mathlib.Data.List.Perm.Subperm
import OpnetNode.Transition
import OpnetNode.Witness.BlockWitnessManager

/-!
# Early witnesses

A witness for a height that is not reached yet is kept. When a message is handled, the witnesses kept
for the current height are handed to the queue, if the message is for that height or an earlier one;
those of a height that was skipped stay.

* `onBlockWitness_eq`: the calls of `enqueueWitnessValidation` that a message leads to.
* `EarlyRun`: a run, with what was kept and what was handed to the queue.
* `Ready`: the messages before which nothing was skipped.
-/

namespace OpnetNode

namespace BlockWitnessManager

variable {env : WitnessEnvironment} {m m' : BlockWitnessManager}

/-! ### What leaves the kept witnesses alone -/

/-- Neither the height nor what is kept is changed. -/
def KeepsPending (m m' : BlockWitnessManager) : Prop :=
  m'.currentBlock = m.currentBlock ∧
    m'.pendingWitnessesVerification = m.pendingWitnessesVerification

theorem KeepsPending.trans {m'' : BlockWitnessManager} (h : KeepsPending m m')
    (h' : KeepsPending m' m'') : KeepsPending m m'' :=
  ⟨h'.1.trans h.1, h'.2.trans h.2⟩

theorem keepsPending_enqueueWitnessValidation (blockNumber : ℕ) (witness : BlockHeaderWitness)
    (m : BlockWitnessManager) :
    KeepsPending m (m.enqueueWitnessValidation env blockNumber witness) := by
  unfold enqueueWitnessValidation
  split
  · exact ⟨rfl, rfl⟩
  split
  · exact ⟨rfl, rfl⟩
  split
  · exact ⟨rfl, rfl⟩
  · exact ⟨rfl, rfl⟩

theorem keepsPending_drainItems (items : List (ℕ × BlockHeaderWitness)) (m : BlockWitnessManager) :
    KeepsPending m (drainItems env items m) := by
  induction items generalizing m with
  | nil => exact ⟨rfl, rfl⟩
  | cons item items ih =>
    rw [drainItems]
    split
    · dsimp only
      split
      · exact ih m
      · exact KeepsPending.trans ⟨rfl, rfl⟩ (ih _)
    · exact ⟨rfl, rfl⟩

theorem keepsPending_drainWitnessQueue (m : BlockWitnessManager) :
    KeepsPending m (m.drainWitnessQueue env) :=
  keepsPending_drainItems m.witnessQueue m

theorem keepsPending_settle (k : ℕ) (v : WitnessValidation) (m : BlockWitnessManager) :
    KeepsPending m (m.settle env k v) := by
  unfold settle
  dsimp only
  split
  · exact ⟨rfl, rfl⟩
  · exact KeepsPending.trans ⟨rfl, rfl⟩ (keepsPending_drainWitnessQueue _)

theorem keepsPending_recordWitnesses (k : ℕ) (v : WitnessValidation)
    (blockDataAtHeight : Option ValidatedBlockHeader) (m : BlockWitnessManager) :
    KeepsPending m (m.recordWitnesses env k v blockDataAtHeight) := by
  unfold recordWitnesses
  dsimp only
  split
  · exact ⟨rfl, rfl⟩
  · exact ⟨rfl, rfl⟩

/-! ### What a message hands over -/

/-- What is kept for a height. -/
def keptAt (m : BlockWitnessManager) (blockNumber : ℕ) : List BlockHeaderWitness :=
  (m.pendingWitnessesVerification.get blockNumber).getD []

/-- The calls of `enqueueWitnessValidation` by `onBlockWitness`. -/
def enqueueCalls (blockNumber : ℕ) (blockWitness : BlockHeaderWitness) (m : BlockWitnessManager) :
    List (ℕ × BlockHeaderWitness) :=
  if m.currentBlock = -1 ∨ m.currentBlock < blockNumber then []
  else
    (blockNumber, blockWitness) ::
      (m.keptAt m.currentBlock.toNat).map fun witness => (m.currentBlock.toNat, witness)

def withPending (m : BlockWitnessManager) (pending : JsMap ℕ (List BlockHeaderWitness)) :
    BlockWitnessManager :=
  { m with pendingWitnessesVerification := pending }

/-- `enqueueWitnessValidation` does not look at what is kept. -/
theorem enqueueWitnessValidation_withPending (blockNumber : ℕ) (witness : BlockHeaderWitness)
    (pending : JsMap ℕ (List BlockHeaderWitness)) (m : BlockWitnessManager) :
    (m.withPending pending).enqueueWitnessValidation env blockNumber witness =
      (m.enqueueWitnessValidation env blockNumber witness).withPending pending := by
  unfold enqueueWitnessValidation isOld withPending
  dsimp only
  split
  · rfl
  split
  · rfl
  split
  · rfl
  · rfl

/-- The kept witnesses once those of the current height are handed over. -/
def withoutCurrent (m : BlockWitnessManager) : BlockWitnessManager :=
  m.withPending (m.pendingWitnessesVerification.erase m.currentBlock.toNat)

theorem withoutCurrent_of_get_eq_none
    (h : m.pendingWitnessesVerification.get m.currentBlock.toNat = none) : m.withoutCurrent = m := by
  have herase : m.pendingWitnessesVerification.erase m.currentBlock.toNat =
      m.pendingWitnessesVerification := by
    have hnot : m.currentBlock.toNat ∉ m.pendingWitnessesVerification.keys := by
      rw [JsMap.mem_keys_iff, h]
      simp
    unfold JsMap.erase
    congr 1
    rw [List.filter_eq_self]
    intro entry hentry
    have hne : entry.1 ≠ m.currentBlock.toNat := by
      intro heq
      exact hnot (heq ▸ List.mem_map_of_mem hentry)
    simpa using hne
  rw [withoutCurrent, herase]
  rfl

theorem processQueuedWitnesses_eq (h : 0 ≤ m.currentBlock) :
    m.processQueuedWitnesses env =
      (m.keptAt m.currentBlock.toNat).foldl
        (fun m' witness => enqueueWitnessValidation env m.currentBlock.toNat witness m')
        m.withoutCurrent := by
  unfold processQueuedWitnesses
  split
  · rename_i n hnegative
    rw [hnegative] at h
    exact absurd h (Int.not_le.mpr (Int.negSucc_lt_zero n))
  · rename_i block hblock
    have htoNat : m.currentBlock.toNat = block := by
      rw [hblock]
      rfl
    rw [keptAt, htoNat]
    split
    · rename_i hget
      rw [withoutCurrent_of_get_eq_none (by rw [htoNat, hget]), hget]
      rfl
    · rename_i queued hget
      rw [withoutCurrent, htoNat, hget]
      rfl

variable {blockNumber : ℕ}

theorem onBlockWitness_eq {blockWitness : BlockHeaderWitness}
    (h : ¬ (m.currentBlock = -1 ∨ m.currentBlock < blockNumber)) :
    m.onBlockWitness env blockNumber blockWitness =
      ((m.enqueueCalls blockNumber blockWitness).foldl
        (fun m' call => enqueueWitnessValidation env call.1 call.2 m') m.withoutCurrent
      ).drainWitnessQueue env := by
  rw [not_or] at h
  have hcurrent : 0 ≤ m.currentBlock := by omega
  have hkeeps : KeepsPending m (m.enqueueWitnessValidation env blockNumber blockWitness) :=
    keepsPending_enqueueWitnessValidation blockNumber blockWitness m
  have hfirst : (m.enqueueWitnessValidation env blockNumber blockWitness).withoutCurrent =
      m.withoutCurrent.enqueueWitnessValidation env blockNumber blockWitness := by
    unfold withoutCurrent
    rw [hkeeps.1, hkeeps.2, enqueueWitnessValidation_withPending]
  rw [onBlockWitness, if_neg h.1, if_neg h.2, enqueueCalls, if_neg (not_or.mpr h)]
  rw [processQueuedWitnesses_eq (by rw [hkeeps.1]; exact hcurrent), hfirst, keptAt, hkeeps.1, hkeeps.2]
  rw [List.foldl_cons, List.foldl_map]
  rfl

theorem keepsPending_enqueueAll (calls : List (ℕ × BlockHeaderWitness)) (m : BlockWitnessManager) :
    KeepsPending m (calls.foldl (fun m call => enqueueWitnessValidation env call.1 call.2 m) m) := by
  induction calls generalizing m with
  | nil => exact ⟨rfl, rfl⟩
  | cons call calls ih =>
    exact (keepsPending_enqueueWitnessValidation call.1 call.2 m).trans (ih _)

theorem pending_onBlockWitness (env : WitnessEnvironment) (blockWitness : BlockHeaderWitness)
    (h : ¬ (m.currentBlock = -1 ∨ m.currentBlock < blockNumber)) :
    (m.onBlockWitness env blockNumber blockWitness).pendingWitnessesVerification =
      m.pendingWitnessesVerification.erase m.currentBlock.toNat := by
  rw [onBlockWitness_eq h]
  exact ((keepsPending_enqueueAll _ _).trans (keepsPending_drainWitnessQueue _)).2

theorem addToPending_cases (env : WitnessEnvironment) (blockNumber : ℕ)
    (blockWitness : BlockHeaderWitness) (m : BlockWitnessManager) :
    m.addToPendingWitnessesVerification env blockNumber blockWitness = m ∨
      ((blockNumber : ℤ) ≤ m.currentBlock + env.pendingBlockThreshold ∧
        m.addToPendingWitnessesVerification env blockNumber blockWitness =
          m.withPending (m.pendingWitnessesVerification.set blockNumber
            (m.keptAt blockNumber ++ [blockWitness]))) := by
  unfold addToPendingWitnessesVerification
  split
  · exact Or.inl rfl
  split
  · exact Or.inl rfl
  rename_i hnear
  split
  · exact Or.inl rfl
  have hnear : (blockNumber : ℤ) ≤ m.currentBlock + env.pendingBlockThreshold := by
    have habs := abs_le.mp (not_lt.mp hnear)
    omega
  split
  · rename_i hget
    exact Or.inr ⟨hnear, by rw [keptAt, hget]; rfl⟩
  · rename_i witnesses hget
    split
    · exact Or.inr ⟨hnear, by rw [keptAt, hget]; rfl⟩
    · exact Or.inl rfl

end BlockWitnessManager

/-! ### Runs -/

open BlockWitnessManager

/-- A manager, with the height at which the last message was handled, the witnesses that were kept,
and the calls of `enqueueWitnessValidation`. -/
structure EarlyRun where
  manager : BlockWitnessManager
  messageAt : ℤ
  kept : List (ℕ × BlockHeaderWitness)
  handed : List (ℕ × BlockHeaderWitness)

namespace EarlyRun

variable {env : WitnessEnvironment} {r r' : EarlyRun}

def init : EarlyRun := ⟨BlockWitnessManager.init, -1, [], []⟩

/-- What a message adds to what is kept for its height. -/
def keptBy (env : WitnessEnvironment) (blockNumber : ℕ) (blockWitness : BlockHeaderWitness)
    (m : BlockWitnessManager) : List (ℕ × BlockHeaderWitness) :=
  let kept := (m.onBlockWitness env blockNumber blockWitness).keptAt blockNumber
  (kept.drop (m.keptAt blockNumber).length).map fun witness => (blockNumber, witness)

/-- The run after an event that leads to a manager. -/
def log (env : WitnessEnvironment) (r : EarlyRun) (m : BlockWitnessManager) :
    PeerWitnessEvent → EarlyRun
  | .onBlockWitness blockNumber blockWitness =>
    { manager := m
      messageAt := r.manager.currentBlock
      kept := r.kept ++ keptBy env blockNumber blockWitness r.manager
      handed := r.handed ++ r.manager.enqueueCalls blockNumber blockWitness }
  | .onBlockWitnessResponse blockNumber blockWitness =>
    { r with
      manager := m
      messageAt := r.manager.currentBlock
      handed := r.handed ++ [(blockNumber, blockWitness)] }
  | _ => { r with manager := m }

def step (env : WitnessEnvironment) (r : EarlyRun) (event : PeerWitnessEvent) : Option EarlyRun :=
  (r.manager.peerStep env event).map fun m => r.log env m event

def heights (r : EarlyRun) : List ℕ := r.manager.pendingWitnessesVerification.keys

/-- Once a message is handled nothing is kept for a height that is reached, there are no more heights
than the threshold, and what was kept for one that is reached was handed to the queue. -/
structure Consumed (env : WitnessEnvironment) (r : EarlyRun) : Prop where
  passed : ∀ n ∈ r.heights, r.messageAt < n
  few : r.heights.length ≤ env.pendingBlockThreshold
  handed : ∀ p ∈ r.kept, (p.1 : ℤ) ≤ r.messageAt → p ∈ r.handed

/-- Before a message is handled, no height below the current one is kept, or above it by more than the
threshold; and where the message does not hand over what is kept for the current height, nothing is. -/
def Ready (env : WitnessEnvironment) (r : EarlyRun) : PeerWitnessEvent → Prop
  | .onBlockWitness blockNumber _ =>
    r.manager.currentBlock ≠ -1 →
      (∀ n ∈ r.heights, r.manager.currentBlock ≤ n ∧
        n ≤ r.manager.currentBlock + env.pendingBlockThreshold) ∧
      (blockNumber ≤ r.manager.currentBlock ∨ r.manager.currentBlock.toNat ∉ r.heights)
  | .onBlockWitnessResponse _ _ =>
    r.manager.currentBlock ≠ -1 → ∀ n ∈ r.heights, r.manager.currentBlock < n
  | _ => True

instance decidableReady (env : WitnessEnvironment) (r : EarlyRun) :
    ∀ event, Decidable (Ready env r event)
  | .onBlockWitness blockNumber _ =>
    inferInstanceAs (Decidable (r.manager.currentBlock ≠ -1 →
      (∀ n ∈ r.heights, r.manager.currentBlock ≤ n ∧
        n ≤ r.manager.currentBlock + env.pendingBlockThreshold) ∧
      (blockNumber ≤ r.manager.currentBlock ∨ r.manager.currentBlock.toNat ∉ r.heights)))
  | .onBlockWitnessResponse _ _ =>
    inferInstanceAs (Decidable
      (r.manager.currentBlock ≠ -1 → ∀ n ∈ r.heights, r.manager.currentBlock < n))
  | .setCurrentBlock _ | .answered _ _ | .settle _ | .purgeOldWitnesses => isTrue trivial

/-- `Consumed`, with what is not handed over yet. -/
structure EarlyInv (env : WitnessEnvironment) (r : EarlyRun) : Prop where
  passed : ∀ n ∈ r.heights, r.messageAt < n
  few : r.heights.length ≤ env.pendingBlockThreshold
  kept : ∀ p ∈ r.kept, p ∈ r.handed ∨ p.2 ∈ r.manager.keptAt p.1

theorem earlyInv_init (env : WitnessEnvironment) : EarlyInv env init := by
  refine ⟨?_, Nat.zero_le _, ?_⟩
  · intro n hn
    cases hn
  · intro p hp
    cases hp

theorem EarlyInv.consumed (h : EarlyInv env r) : Consumed env r := by
  refine ⟨h.passed, h.few, ?_⟩
  intro p hp hreached
  rcases h.kept p hp with hhanded | hkept
  · exact hhanded
  · have hheight : p.1 ∈ r.heights := by
      rw [heights, JsMap.mem_keys_iff, ← Option.ne_none_iff_isSome]
      intro hnone
      rw [keptAt, hnone] at hkept
      cases hkept
    have hpassed := h.passed p.1 hheight
    omega

theorem EarlyInv.frame (h : EarlyInv env r)
    (hpending : r'.manager.pendingWitnessesVerification = r.manager.pendingWitnessesVerification)
    (hkept : r'.kept = r.kept) (hhanded : ∀ p ∈ r.handed, p ∈ r'.handed)
    (hpassed : ∀ n ∈ r.heights, r'.messageAt < n) : EarlyInv env r' := by
  have hheights : r'.heights = r.heights := by rw [heights, hpending, heights]
  refine ⟨?_, ?_, ?_⟩
  · rw [hheights]
    exact hpassed
  · rw [hheights]
    exact h.few
  · rw [hkept]
    intro p hp
    rw [keptAt, hpending]
    exact (h.kept p hp).imp_left (hhanded p)

theorem length_le_of_within {l : List ℕ} (hnodup : l.Nodup) {c : ℤ} {n : ℕ}
    (h : ∀ k ∈ l, c < k ∧ (k : ℤ) ≤ c + n) : l.length ≤ n := by
  have hmap : (l.map fun k : ℕ => (k - c - 1).toNat).Nodup := by
    apply hnodup.map_on
    intro a ha b hb heq
    have ha := h a ha
    have hb := h b hb
    omega
  have hsubset : (l.map fun k : ℕ => (k - c - 1).toNat) ⊆ List.range n := by
    intro x hx
    obtain ⟨k, hk, rfl⟩ := List.mem_map.mp hx
    have hk := h k hk
    rw [List.mem_range]
    omega
  have hle := (List.subperm_of_subset hmap hsubset).length_le
  simpa using hle

variable {blockNumber : ℕ} {blockWitness : BlockHeaderWitness}

theorem EarlyInv.onAhead (h : EarlyInv env r)
    (hknown : r.manager.currentBlock ≠ -1) (hahead : r.manager.currentBlock < blockNumber)
    (hready : Ready env r (.onBlockWitness blockNumber blockWitness)) :
    EarlyInv env (r.log env (r.manager.onBlockWitness env blockNumber blockWitness)
      (.onBlockWitness blockNumber blockWitness)) := by
  obtain ⟨hwithin, hnone⟩ := hready hknown
  have hnone : r.manager.currentBlock.toNat ∉ r.heights := by
    rcases hnone with hreached | hnone
    · omega
    · exact hnone
  -- all kept heights are above the current block, which is not kept itself
  have habove : ∀ n ∈ r.heights, r.manager.currentBlock < n := by
    intro n hn
    have hn' := (hwithin n hn).1
    have hne : r.manager.currentBlock ≠ n := by
      intro heq
      rw [heq] at hnone
      exact hnone hn
    omega
  have hadd : r.manager.onBlockWitness env blockNumber blockWitness =
      r.manager.addToPendingWitnessesVerification env blockNumber blockWitness := by
    rw [onBlockWitness, if_neg hknown, if_pos hahead]
  have hcalls : r.manager.enqueueCalls blockNumber blockWitness = [] := by
    rw [enqueueCalls, if_pos (Or.inr hahead)]
  rcases addToPending_cases env blockNumber blockWitness r.manager with
    hsame | ⟨hnear, hset⟩
  · have hnothing : keptBy env blockNumber blockWitness r.manager = [] := by
      rw [keptBy, hadd, hsame]
      simp
    refine h.frame ?_ ?_ ?_ habove
    · show (r.manager.onBlockWitness env blockNumber blockWitness).pendingWitnessesVerification = _
      rw [hadd, hsame]
    · show r.kept ++ keptBy env blockNumber blockWitness r.manager = r.kept
      rw [hnothing, List.append_nil]
    · exact fun p hp => List.mem_append_left _ hp
  · have hone : keptBy env blockNumber blockWitness r.manager = [(blockNumber, blockWitness)] := by
      rw [keptBy, hadd, hset]
      simp [withPending, keptAt]
    -- so the kept heights lie in a window that is as long as the threshold
    have hbetween : ∀ n ∈ (r.manager.pendingWitnessesVerification.set blockNumber
        (r.manager.keptAt blockNumber ++ [blockWitness])).keys,
        r.manager.currentBlock < n ∧ (n : ℤ) ≤ r.manager.currentBlock + env.pendingBlockThreshold := by
      intro n hn
      rw [JsMap.mem_keys_iff, JsMap.get_set] at hn
      by_cases heq : n = blockNumber
      · rw [heq]
        exact ⟨hahead, hnear⟩
      · rw [if_neg heq, ← JsMap.mem_keys_iff] at hn
        exact ⟨habove n hn, (hwithin n hn).2⟩
    have hmanager : (r.manager.onBlockWitness env blockNumber blockWitness) =
        r.manager.withPending (r.manager.pendingWitnessesVerification.set blockNumber
          (r.manager.keptAt blockNumber ++ [blockWitness])) := hadd.trans hset
    rw [hmanager]
    refine ⟨fun n hn => (hbetween n hn).1, length_le_of_within (JsMap.keys_nodup _) hbetween, ?_⟩
    intro p hp
    have hp : p ∈ r.kept ++ keptBy env blockNumber blockWitness r.manager := hp
    rw [hone, List.mem_append, List.mem_singleton] at hp
    show p ∈ r.handed ++ r.manager.enqueueCalls blockNumber blockWitness ∨ p.2 ∈
      ((r.manager.pendingWitnessesVerification.set blockNumber _).get p.1).getD []
    rw [hcalls, List.append_nil, JsMap.get_set]
    rcases hp with hp | rfl
    · rcases h.kept p hp with hhanded | hkept
      · exact Or.inl hhanded
      · right
        split
        · rename_i heq
          rw [heq] at hkept
          simp [hkept]
        · exact hkept
    · right
      simp

theorem EarlyInv.onReached (h : EarlyInv env r)
    (hknown : r.manager.currentBlock ≠ -1) (hreached : ¬ r.manager.currentBlock < blockNumber)
    (hready : Ready env r (.onBlockWitness blockNumber blockWitness)) :
    EarlyInv env (r.log env (r.manager.onBlockWitness env blockNumber blockWitness)
      (.onBlockWitness blockNumber blockWitness)) := by
  obtain ⟨hwithin, -⟩ := hready hknown
  have hnot : ¬ (r.manager.currentBlock = -1 ∨ r.manager.currentBlock < blockNumber) :=
    not_or.mpr ⟨hknown, hreached⟩
  have hpending := pending_onBlockWitness env blockWitness hnot
  have hcalls : r.manager.enqueueCalls blockNumber blockWitness = (blockNumber, blockWitness) ::
      (r.manager.keptAt r.manager.currentBlock.toNat).map fun witness =>
        (r.manager.currentBlock.toNat, witness) := by
    rw [enqueueCalls, if_neg hnot]
  have hkeptAt : ∀ n, (r.manager.onBlockWitness env blockNumber blockWitness).keptAt n =
      if n = r.manager.currentBlock.toNat then [] else r.manager.keptAt n := by
    intro n
    rw [keptAt, hpending, JsMap.get_erase]
    split
    · rfl
    · rfl
  have hnothing : keptBy env blockNumber blockWitness r.manager = [] := by
    rw [keptBy, hkeptAt]
    split
    · simp
    · simp
  -- what is left is above the current block, in a window that is as long as the threshold
  have hbetween : ∀ n ∈ (r.manager.pendingWitnessesVerification.erase
      r.manager.currentBlock.toNat).keys,
      r.manager.currentBlock < n ∧ (n : ℤ) ≤ r.manager.currentBlock + env.pendingBlockThreshold := by
    intro n hn
    rw [JsMap.mem_keys_iff, JsMap.get_erase] at hn
    split at hn
    · cases hn
    · rename_i hne
      rw [← JsMap.mem_keys_iff] at hn
      have hn := hwithin n hn
      omega
  refine ⟨?_, ?_, ?_⟩
  · intro n hn
    have hn : n ∈ (r.manager.onBlockWitness env blockNumber
      blockWitness).pendingWitnessesVerification.keys := hn
    rw [hpending] at hn
    exact (hbetween n hn).1
  · show (r.manager.onBlockWitness env blockNumber
      blockWitness).pendingWitnessesVerification.keys.length ≤ _
    rw [hpending]
    exact length_le_of_within (JsMap.keys_nodup _) hbetween
  · intro p hp
    have hp : p ∈ r.kept ++ keptBy env blockNumber blockWitness r.manager := hp
    rw [hnothing, List.append_nil] at hp
    show p ∈ r.handed ++ r.manager.enqueueCalls blockNumber blockWitness ∨
      p.2 ∈ (r.manager.onBlockWitness env blockNumber blockWitness).keptAt p.1
    rw [hkeptAt, hcalls]
    rcases h.kept p hp with hhanded | hkept
    · exact Or.inl (List.mem_append_left _ hhanded)
    · split
      · -- what is kept for the current height is handed over
        rename_i hcurrent
        rw [hcurrent] at hkept
        left
        apply List.mem_append_right
        apply List.mem_cons_of_mem
        rw [List.mem_map]
        exact ⟨p.2, hkept, by rw [← hcurrent]⟩
      · exact Or.inr hkept

theorem earlyInv_step (env : WitnessEnvironment) (r : EarlyRun) (event : PeerWitnessEvent)
    (r' : EarlyRun) (h : EarlyInv env r) (hready : Ready env r event)
    (hstep : step env r event = some r') : EarlyInv env r' := by
  rw [step, Option.map_eq_some_iff] at hstep
  obtain ⟨m, hm, rfl⟩ := hstep
  cases event with
  | setCurrentBlock | purgeOldWitnesses =>
    cases hm
    exact h.frame rfl rfl (fun _ hp => hp) h.passed
  | onBlockWitness blockNumber blockWitness =>
    cases hm
    by_cases hknown : r.manager.currentBlock = -1
    · -- no height is known yet, so the message is dropped
      have hsame : r.manager.onBlockWitness env blockNumber blockWitness = r.manager := by
        rw [onBlockWitness, if_pos hknown]
      have hnothing : keptBy env blockNumber blockWitness r.manager = [] := by
        rw [keptBy, hsame]
        simp
      refine h.frame ?_ ?_ ?_ ?_
      · show (r.manager.onBlockWitness env blockNumber blockWitness).pendingWitnessesVerification = _
        rw [hsame]
      · show r.kept ++ keptBy env blockNumber blockWitness r.manager = r.kept
        rw [hnothing, List.append_nil]
      · exact fun p hp => List.mem_append_left _ hp
      · intro n _
        show r.manager.currentBlock < n
        omega
    · by_cases hahead : r.manager.currentBlock < blockNumber
      · exact h.onAhead hknown hahead hready
      · exact h.onReached hknown hahead hready
  | onBlockWitnessResponse blockNumber blockWitness =>
    cases hm
    have hkeeps : KeepsPending r.manager
        ((r.manager.enqueueWitnessValidation env blockNumber blockWitness).drainWitnessQueue env) :=
      (keepsPending_enqueueWitnessValidation _ _ _).trans (keepsPending_drainWitnessQueue _)
    refine h.frame hkeeps.2 rfl (fun _ hp => List.mem_append_left _ hp) ?_
    intro n hn
    show r.manager.currentBlock < n
    by_cases hknown : r.manager.currentBlock = -1
    · omega
    · exact hready hknown n hn
  | answered k blockDataAtHeight =>
    rw [peerStep, Option.map_eq_some_iff] at hm
    obtain ⟨v, -, rfl⟩ := hm
    exact h.frame (keepsPending_recordWitnesses k v blockDataAtHeight r.manager).2 rfl
      (fun _ hp => hp) h.passed
  | settle k =>
    rw [peerStep, Option.map_eq_some_iff] at hm
    obtain ⟨v, -, rfl⟩ := hm
    exact h.frame (keepsPending_settle k v r.manager).2 rfl (fun _ hp => hp) h.passed

/-- **In a run without skipped heights, early witnesses are consumed.** -/
theorem consumed_of_runFrom (env : WitnessEnvironment) (events : List PeerWitnessEvent) (r : EarlyRun)
    (hready : Meets (step env) (Ready env) init events)
    (hrun : runFrom (step env) init events = some r) : Consumed env r :=
  (invariant_runFrom (earlyInv_step env) events init r (earlyInv_init env) hready hrun).consumed

def someWitness : BlockHeaderWitness where
  header := ⟨"", none, "", ""⟩
  validatorWitnesses := [⟨some "peer", none, [], 0⟩]

/-- Nothing is checked here, and witnesses are kept for two heights ahead. -/
def twoAhead : WitnessEnvironment where
  sha512 := id
  verifyOPNetSignature _ _ _ := false
  sign := id
  publicKey := []
  pendingBlockThreshold := 2
  provable _ := false
  finalised _ := false

/-- A witness for 6 arrives at height 5; then one arrives at 6. -/
def stepByStep : List PeerWitnessEvent :=
  [.setCurrentBlock 5, .onBlockWitness 6 someWitness, .setCurrentBlock 6,
    .onBlockWitness 6 someWitness]

/-- Height 6 passes without a message. -/
def skipping : List PeerWitnessEvent :=
  [.setCurrentBlock 5, .onBlockWitness 6 someWitness, .setCurrentBlock 7,
    .onBlockWitness 7 someWitness]

theorem consumed_stepByStep :
    ((runFrom (step twoAhead) init stepByStep).map fun r => (r.kept.length, r.handed.length)) =
        some (1, 2) ∧
      ∀ r, runFrom (step twoAhead) init stepByStep = some r → Consumed twoAhead r := by
  have hrun : Meets (step twoAhead) (Ready twoAhead) init stepByStep ∧
      ((runFrom (step twoAhead) init stepByStep).map fun r => (r.kept.length, r.handed.length)) =
        some (1, 2) := by
    decide +kernel
  exact ⟨hrun.2, fun r => consumed_of_runFrom twoAhead stepByStep r hrun.1⟩

/-- The witness for 6 is still kept after a message at height 7. -/
theorem not_consumed_skipping :
    ∃ r, runFrom (step twoAhead) init skipping = some r ∧ ¬ Consumed twoAhead r := by
  have hfields : ((runFrom (step twoAhead) init skipping).map fun r => (r.messageAt, r.heights)) =
      some (7, [6]) := by
    decide +kernel
  obtain ⟨r, hr, hfields⟩ := Option.map_eq_some_iff.mp hfields
  obtain ⟨hmessage, hheights⟩ := Prod.mk.inj hfields
  refine ⟨r, hr, ?_⟩
  intro hconsumed
  have hpassed := hconsumed.passed 6 (by rw [hheights]; exact List.mem_singleton_self 6)
  rw [hmessage] at hpassed
  omega

end EarlyRun

end OpnetNode
