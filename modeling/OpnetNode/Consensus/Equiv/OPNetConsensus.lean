import OpnetNode.Consensus.OPNetConsensus
import OpnetNode.Transition

/-!
# The configuration in force and the height

A table whose configurations cover consecutive ranges of heights (`ConsensusTable`) has one
configuration for each height that it covers (`configurationAt`).  A search from the start finds it
(`setBlockHeight_search`).  From a configuration that is set, only the step to the next one is ever
taken, so that the configuration in force is the right one exactly if the height is in its range or in
that of the next one (`setBlockHeight_eq_iff`).
-/

namespace OpnetNode

open Proc

variable {Rules : Type}

namespace IOPNetConsensus

def InRange (c : IOPNetConsensus Rules) (height : ℤ) : Prop :=
  c.ENABLED_AT_BLOCK ≤ height ∧ height < c.NEXT_CONSENSUS_BLOCK

instance (c : IOPNetConsensus Rules) (height : ℤ) : Decidable (c.InRange height) :=
  inferInstanceAs (Decidable (_ ∧ _))

end IOPNetConsensus

/-- The configuration `c'` under the key `k'` comes after `c`. -/
structure ComesAfter (c : IOPNetConsensus Rules) (k k' : ℕ) (c' : IOPNetConsensus Rules) : Prop where
  key : k < k'
  next : c.NEXT_CONSENSUS = k'
  block : c.NEXT_CONSENSUS_BLOCK = c'.ENABLED_AT_BLOCK
  ready : c.IS_READY_FOR_NEXT_CONSENSUS = true

/-- The configurations cover consecutive ranges, and all but the last are ready for the next one. -/
inductive Consecutive : IOPNetConsensusObj Rules → Prop
  | last (k : ℕ) (c : IOPNetConsensus Rules) (hrange : c.ENABLED_AT_BLOCK < c.NEXT_CONSENSUS_BLOCK) :
    Consecutive [(k, some c)]
  | cons {k k' : ℕ} {c c' : IOPNetConsensus Rules} {l : IOPNetConsensusObj Rules}
    (hrange : c.ENABLED_AT_BLOCK < c.NEXT_CONSENSUS_BLOCK) (hafter : ComesAfter c k k' c')
    (hrest : Consecutive ((k', some c') :: l)) : Consecutive ((k, some c) :: (k', some c') :: l)

/-- A table of configurations that cover consecutive ranges of heights. -/
structure ConsensusTable (Rules : Type) where
  allConsensus : IOPNetConsensusObj Rules
  consecutive : Consecutive allConsensus

def configs (l : IOPNetConsensusObj Rules) : List (IOPNetConsensus Rules) := l.filterMap Prod.snd

/-- The configuration whose range holds a height. -/
def configurationAt (l : IOPNetConsensusObj Rules) (height : ℤ) : Option (IOPNetConsensus Rules) :=
  (configs l).find? fun c => c.InRange height

def Covers (l : IOPNetConsensusObj Rules) (height : ℤ) : Prop := ∃ c ∈ configs l, c.InRange height

/-! ### Ranges -/

section

variable {k : ℕ} {c c' : IOPNetConsensus Rules} {l : IOPNetConsensusObj Rules} {height : ℤ}

@[simp] theorem configs_nil : configs ([] : IOPNetConsensusObj Rules) = [] := rfl

@[simp] theorem configs_cons : configs ((k, some c) :: l) = c :: configs l := rfl

theorem Consecutive.next_le (h : Consecutive ((k, some c) :: l)) (hmem : c' ∈ configs l) :
    c.NEXT_CONSENSUS_BLOCK ≤ c'.ENABLED_AT_BLOCK := by
  induction l generalizing k c with
  | nil => simp at hmem
  | cons entry l ih =>
    cases h with
    | cons hrange hafter hrest =>
      rw [configs_cons] at hmem
      have hblock := hafter.block
      rcases List.mem_cons.mp hmem with rfl | htail
      · omega
      · have hle := ih hrest htail
        cases hrest with
        | last k' d hrange' => simp at htail
        | cons hrange' _ _ => omega

theorem Consecutive.range (h : Consecutive l) (hmem : c ∈ configs l) :
    c.ENABLED_AT_BLOCK < c.NEXT_CONSENSUS_BLOCK := by
  induction h with
  | last k d hrange =>
    obtain rfl := List.mem_singleton.mp hmem
    exact hrange
  | cons hrange hafter hrest ih =>
    rcases List.mem_cons.mp hmem with rfl | htail
    · exact hrange
    · exact ih htail

theorem Consecutive.unique (h : Consecutive l) (hc : c ∈ configs l) (hc' : c' ∈ configs l)
    (hrange : c.InRange height) (hrange' : c'.InRange height) : c = c' := by
  obtain ⟨hlo, hhi⟩ := hrange
  obtain ⟨hlo', hhi'⟩ := hrange'
  induction l with
  | nil => simp at hc
  | cons entry l ih =>
    have hhead := h
    cases h with
    | last k d hd =>
      rw [List.mem_singleton.mp hc, List.mem_singleton.mp hc']
    | @cons k k' d d' l hd hafter hrest =>
      rcases List.mem_cons.mp hc with rfl | htail
      · rcases List.mem_cons.mp hc' with rfl | htail'
        · rfl
        · have hle := hhead.next_le htail'
          omega
      · rcases List.mem_cons.mp hc' with rfl | htail'
        · have hle := hhead.next_le htail
          omega
        · exact ih hrest htail htail'

theorem mem_of_configurationAt (h : configurationAt l height = some c) :
    c ∈ configs l ∧ c.InRange height := by
  have hrange : decide (c.InRange height) = true :=
    List.find?_some (p := fun d : IOPNetConsensus Rules => decide (d.InRange height)) h
  exact ⟨List.mem_of_find?_eq_some h, of_decide_eq_true hrange⟩

theorem Consecutive.configurationAt_eq (h : Consecutive l) (hmem : c ∈ configs l)
    (hrange : c.InRange height) : configurationAt l height = some c := by
  cases hfound : configurationAt l height with
  | none =>
    have hnot := List.find?_eq_none.mp hfound c hmem
    exact absurd (decide_eq_true hrange) hnot
  | some c' =>
    have hmem' : c' ∈ configs l := List.mem_of_find?_eq_some hfound
    have hrange' : c'.InRange height := (mem_of_configurationAt hfound).2
    rw [h.unique hmem' hmem hrange' hrange]

end

/-! ### The next configuration -/

section

variable {k : ℕ} {c c' : IOPNetConsensus Rules} {l : IOPNetConsensusObj Rules} {height : ℤ}

theorem Consecutive.key_lt (h : Consecutive ((k, some c) :: l)) :
    ∀ entry ∈ l, k < entry.1 := by
  induction l generalizing k c with
  | nil => simp
  | cons entry l ih =>
    cases h with
    | cons hrange hafter hrest =>
      intro entry' hmem
      rcases List.mem_cons.mp hmem with rfl | htail
      · exact hafter.key
      · exact Nat.lt_trans hafter.key (ih hrest entry' htail)

theorem mem_of_configOf (h : OPNetConsensusConfiguration.configOf l k = some c) :
    (k, some c) ∈ l := by
  unfold OPNetConsensusConfiguration.configOf at h
  obtain ⟨entry, hfound, hvalue⟩ := Option.bind_eq_some_iff.mp h
  have hkey := List.find?_some hfound
  rw [decide_eq_true_eq] at hkey
  rw [← hkey, ← hvalue]
  exact List.mem_of_find?_eq_some hfound

theorem configs_of_mem (h : (k, some c) ∈ l) : c ∈ configs l :=
  List.mem_filterMap.mpr ⟨(k, some c), h, rfl⟩

theorem configOf_cons_of_ne {k' : ℕ} {value : Option (IOPNetConsensus Rules)} (h : k ≠ k') :
    OPNetConsensusConfiguration.configOf ((k, value) :: l) k' =
      OPNetConsensusConfiguration.configOf l k' := by
  unfold OPNetConsensusConfiguration.configOf
  rw [List.find?_cons_of_neg (by simpa using h)]

theorem Consecutive.next (h : Consecutive l) (hmem : c ∈ configs l) :
    (∀ d ∈ configs l, d.NEXT_CONSENSUS_BLOCK ≤ c.NEXT_CONSENSUS_BLOCK) ∨
      ∃ k k' c', ComesAfter c k k' c' ∧
        OPNetConsensusConfiguration.configOf l k' = some c' := by
  induction h with
  | last k d hrange =>
    left
    obtain rfl := List.mem_singleton.mp hmem
    intro d' hd'
    obtain rfl := List.mem_singleton.mp hd'
    exact Int.le_refl _
  | @cons k k' d d' l hrange hafter hrest ih =>
    have hall : Consecutive ((k, some d) :: (k', some d') :: l) := .cons hrange hafter hrest
    rcases List.mem_cons.mp hmem with rfl | htail
    · right
      refine ⟨k, k', d', hafter, ?_⟩
      rw [configOf_cons_of_ne (Nat.ne_of_lt hafter.key)]
      simp [OPNetConsensusConfiguration.configOf]
    · rcases ih htail with hlast | ⟨j, j', c', hnext, hfound⟩
      · left
        intro e he
        rcases List.mem_cons.mp he with rfl | he
        · have hle := hall.next_le htail
          have hlt := hrest.range htail
          omega
        · exact hlast e he
      · right
        have hkey := hall.key_lt _ (mem_of_configOf hfound)
        refine ⟨j, j', c', hnext, ?_⟩
        rw [configOf_cons_of_ne (Nat.ne_of_lt hkey)]
        exact hfound

end

namespace OPNetConsensusConfiguration

variable {l : IOPNetConsensusObj Rules} {c : IOPNetConsensus Rules} {height : ℤ}
  {s : OPNetConsensusConfiguration Rules}

/-! ### The search -/

/-- **The search.** The loop stops at the configuration of the height, or at the one that ends there. -/
theorem updateConfigurations_eq (h : Consecutive l) (s : OPNetConsensusConfiguration Rules)
    (hcovered : Covers l s.blockHeight) :
    ∃ c ∈ configs l, updateConfigurations l s = (.ok (), { s with consensus := some c }) ∧
      (c.InRange s.blockHeight ∨ c.NEXT_CONSENSUS_BLOCK = s.blockHeight) := by
  induction h generalizing s with
  | last k c hrange =>
    obtain ⟨d, hd, hlo, hhi⟩ := hcovered
    obtain rfl := List.mem_singleton.mp hd
    refine ⟨d, hd, ?_, Or.inl ⟨hlo, hhi⟩⟩
    show (if d.ENABLED_AT_BLOCK > s.blockHeight then _ else _ : ConsensusM Rules Unit) s = _
    rw [if_neg (by omega)]
    show (if d.NEXT_CONSENSUS_BLOCK ≥ s.blockHeight then _ else _ : ConsensusM Rules Unit) _ = _
    rw [if_pos (by omega)]
    rfl
  | @cons k k' c c' l hrange hafter hrest ih =>
    have hall : Consecutive ((k, some c) :: (k', some c') :: l) := .cons hrange hafter hrest
    have hready := hafter.ready
    -- the height is covered by this configuration or a later one, so it is not before this one
    have henabled : c.ENABLED_AT_BLOCK ≤ s.blockHeight := by
      obtain ⟨d, hd, hlo, -⟩ := hcovered
      rcases List.mem_cons.mp hd with rfl | htail
      · exact hlo
      · have hle := hall.next_le htail
        omega
    by_cases hend : c.NEXT_CONSENSUS_BLOCK ≥ s.blockHeight
    · refine ⟨c, List.mem_cons_self, ?_, ?_⟩
      · show (if c.ENABLED_AT_BLOCK > s.blockHeight then _ else _ : ConsensusM Rules Unit) s = _
        rw [if_neg (by omega)]
        show (if c.NEXT_CONSENSUS_BLOCK ≥ s.blockHeight then _ else _ : ConsensusM Rules Unit) _ = _
        rw [if_pos hend]
        rfl
      · by_cases heq : c.NEXT_CONSENSUS_BLOCK = s.blockHeight
        · exact Or.inr heq
        · exact Or.inl ⟨henabled, by omega⟩
    · -- The height is after the range of `c`, and the search goes on with the rest.
      have hcovered' : Covers ((k', some c') :: l) s.blockHeight := by
        obtain ⟨d, hd, hlo, hhi⟩ := hcovered
        rcases List.mem_cons.mp hd with rfl | htail
        · omega
        · exact ⟨d, htail, hlo, hhi⟩
      obtain ⟨d, hd, hrun, hat⟩ := ih { s with consensus := some c } hcovered'
      refine ⟨d, List.mem_cons_of_mem _ hd, ?_, hat⟩
      show (if c.ENABLED_AT_BLOCK > s.blockHeight then _ else _ : ConsensusM Rules Unit) s = _
      rw [if_neg (by omega)]
      show (if c.NEXT_CONSENSUS_BLOCK ≥ s.blockHeight then _ else _ : ConsensusM Rules Unit) _ = _
      rw [if_neg hend, if_pos hready]
      exact hrun

/-! ### The step to the next configuration -/

theorem enforceIfReached_before (hc : s.consensus = some c) (hlt : height < c.NEXT_CONSENSUS_BLOCK) :
    enforceIfReached l height s = (.ok (), s) := by
  unfold enforceIfReached
  show bindResult _ (.ok s, s) = _
  rw [bindResult_ok, hc]
  show (if c.NEXT_CONSENSUS_BLOCK ≤ height then _ else _ : ConsensusM Rules Unit) s = _
  rw [if_neg (by omega)]
  rfl

theorem enforceIfReached_after {k k' : ℕ} {c' : IOPNetConsensus Rules} (hc : s.consensus = some c)
    (hafter : ComesAfter c k k' c') (hfound : configOf l k' = some c')
    (hle : c.NEXT_CONSENSUS_BLOCK ≤ height) :
    enforceIfReached l height s =
      (.ok (), { s with consensus := some c', callbacks := s.callbacks ++ [(k', true)] }) := by
  have hkey : k' ≠ 0 := by
    have hlt := hafter.key
    omega
  have hget : getConsensus s = (.ok c, s) := by
    unfold getConsensus
    rw [hc]
  have hset : (throwIf (c.NEXT_CONSENSUS = 0) .nextConsensusNotSet : ConsensusM Rules Unit) = pure () := by
    rw [throwIf, hafter.next, if_neg hkey]
  have hready : (throwIf (c.IS_READY_FOR_NEXT_CONSENSUS = false) .nextConsensusNotReady :
      ConsensusM Rules Unit) = pure () := by
    rw [throwIf, hafter.ready, if_neg (by decide)]
  have hknown : (throwIf ((configOf l c.NEXT_CONSENSUS).isNone) .nextConsensusNotFound :
      ConsensusM Rules Unit) = pure () := by
    rw [throwIf, hafter.next, hfound, if_neg (by simp)]
  unfold enforceIfReached
  show bindResult _ (.ok s, s) = _
  rw [bindResult_ok, hc]
  show (if c.NEXT_CONSENSUS_BLOCK ≤ height then _ else _ : ConsensusM Rules Unit) s = _
  rw [if_pos hle]
  unfold enforceNextConsensus triggerConsensusEnforcementCallbacks
  refine (bind_of_ok hget).trans ?_
  rw [hset, hready, hknown]
  show bindResult _ (bindResult _ (getConsensus s)) = _
  rw [hget, bindResult_ok, hafter.next, hafter.ready, hfound]
  rfl

/-- The height is in the range of the configuration, or of the one right after it. -/
def Near (l : IOPNetConsensusObj Rules) (c : IOPNetConsensus Rules) (height : ℤ) : Prop :=
  c.InRange height ∨
    ∃ c' ∈ configs l, c'.ENABLED_AT_BLOCK = c.NEXT_CONSENSUS_BLOCK ∧ c'.InRange height

theorem enforceIfReached_eq_iff (h : Consecutive l) (hc : s.consensus = some c)
    (hmem : c ∈ configs l) (hcovered : Covers l height) :
    (enforceIfReached l height s).2.consensus = configurationAt l height ↔ Near l c height := by
  by_cases hle : c.NEXT_CONSENSUS_BLOCK ≤ height
  · rcases h.next hmem with hlast | ⟨k, k', c', hafter, hfound⟩
    · -- Nothing is covered from the end of the last range on.
      obtain ⟨d, hd, -, hhi⟩ := hcovered
      have hend := hlast d hd
      omega
    · rw [enforceIfReached_after hc hafter hfound hle]
      have hmem' : c' ∈ configs l := configs_of_mem (mem_of_configOf hfound)
      have hblock := hafter.block
      constructor
      · intro heq
        exact Or.inr ⟨c', hmem', hblock.symm, (mem_of_configurationAt heq.symm).2⟩
      · rintro (⟨-, hlt⟩ | ⟨d, hd, hstart, hrange⟩)
        · omega
        · have hd_range := h.range hd
          have hc'_range := h.range hmem'
          have hd_at : d.InRange c.NEXT_CONSENSUS_BLOCK := ⟨by omega, by omega⟩
          obtain rfl : d = c' := h.unique hd hmem' hd_at ⟨by omega, by omega⟩
          exact (h.configurationAt_eq hd hrange).symm
  · rw [enforceIfReached_before hc (by omega)]
    show s.consensus = _ ↔ _
    rw [hc]
    constructor
    · intro heq
      exact Or.inl (mem_of_configurationAt heq.symm).2
    · rintro (hrange | ⟨d, hd, hstart, hlo, -⟩)
      · exact (h.configurationAt_eq hmem hrange).symm
      · omega

/-! ### Calls -/

/-- A call of a node that starts to reindex. -/
def ReindexStartUp (config : ReindexConfig) (wasReorg : Bool)
    (s : OPNetConsensusConfiguration Rules) : Prop :=
  (config.REINDEX && s.consensus.isNone && !wasReorg) = true

instance (config : ReindexConfig) (wasReorg : Bool) (s : OPNetConsensusConfiguration Rules) :
    Decidable (ReindexStartUp config wasReorg s) :=
  inferInstanceAs (Decidable (_ = true))

theorem heightOf_eq {config : ReindexConfig} {wasReorg : Bool}
    (h : ¬ ReindexStartUp config wasReorg s) : heightOf config height wasReorg s = height :=
  if_neg h

/-- **The search finds the right configuration.** -/
theorem setBlockHeight_search {config : ReindexConfig} {wasReorg : Bool} (h : Consecutive l)
    (hc : s.consensus = none) (hnot : ¬ ReindexStartUp config wasReorg s)
    (hcovered : Covers l height) :
    (setBlockHeight l config height wasReorg s).2.consensus = configurationAt l height := by
  obtain ⟨c, hmem, hrun, hat⟩ :=
    updateConfigurations_eq h { s with blockHeight := height } hcovered
  have hnone : s.consensus.isNone = true := by rw [hc, Option.isNone_none]
  have hstep : setBlockHeight l config height wasReorg s =
      enforceIfReached l height { s with blockHeight := height, consensus := some c } := by
    unfold setBlockHeight
    show (if s.consensus.isNone then _ else _ : ConsensusM Rules Unit)
      { s with blockHeight := heightOf config height wasReorg s } = _
    rw [heightOf_eq hnot, if_pos hnone]
    show bindResult _ _ = _
    rw [hrun, bindResult_ok]
  rw [hstep, enforceIfReached_eq_iff h rfl hmem hcovered]
  rcases hat with hrange | hend
  · exact Or.inl hrange
  · right
    obtain ⟨d, hd, hlo, hhi⟩ := hcovered
    replace hend : c.NEXT_CONSENSUS_BLOCK = height := hend
    rcases h.next hmem with hlast | ⟨k, k', c', hafter, hfound⟩
    · have hle := hlast d hd
      omega
    · have hmem' : c' ∈ configs l := configs_of_mem (mem_of_configOf hfound)
      have hrange := h.range hmem'
      have hblock := hafter.block
      exact ⟨c', hmem', hblock.symm, by omega, by omega⟩

/-- With a configuration set, the call leaves the right one exactly if the height is near. -/
theorem setBlockHeight_eq_iff (config : ReindexConfig) (wasReorg : Bool) (h : Consecutive l)
    (hc : s.consensus = some c) (hmem : c ∈ configs l) (hcovered : Covers l height) :
    (setBlockHeight l config height wasReorg s).2.consensus = configurationAt l height ↔
      Near l c height := by
  have hnot : ¬ ReindexStartUp config wasReorg s := by
    unfold ReindexStartUp
    rw [hc]
    simp
  have hstep : setBlockHeight l config height wasReorg s =
      enforceIfReached l height { s with blockHeight := height } := by
    unfold setBlockHeight
    show (if s.consensus.isNone then _ else _ : ConsensusM Rules Unit)
      { s with blockHeight := heightOf config height wasReorg s } = _
    rw [heightOf_eq hnot, hc, if_neg (by simp)]
  rw [hstep]
  exact enforceIfReached_eq_iff h hc hmem hcovered

/-! ### Runs -/

/-- A configuration that is set is one of the table. -/
def Known (l : IOPNetConsensusObj Rules) (s : OPNetConsensusConfiguration Rules) : Prop :=
  ∀ c, s.consensus = some c → c ∈ configs l

theorem keeps_setConsensus {value : Option (IOPNetConsensus Rules)}
    (h : ∀ c, value = some c → c ∈ configs l) : Keeps (Known l) (setConsensus value) :=
  keeps_modify fun _ _ => h

theorem keeps_getConsensus : Keeps (Known l) (getConsensus : ConsensusM Rules _) := by
  intro s hs
  unfold getConsensus
  cases hc : s.consensus <;> exact hs

theorem keeps_updateConfigurations {l' : IOPNetConsensusObj Rules}
    (hsub : ∀ c ∈ configs l', c ∈ configs l) : Keeps (Known l) (updateConfigurations l') := by
  induction l' with
  | nil => exact keeps_pure ()
  | cons entry l' ih =>
    obtain ⟨k, _ | c⟩ := entry
    · exact keeps_throw _
    · have hrest := ih fun d hd => hsub d (List.mem_cons_of_mem _ hd)
      have hc : c ∈ configs l := hsub c List.mem_cons_self
      refine keeps_bind keeps_get fun s => keeps_ite hrest ?_
      refine keeps_bind (keeps_setConsensus fun d hd => ?_) fun _ => ?_
      · rwa [← Option.some.inj hd]
      · exact keeps_ite (keeps_pure ()) (keeps_ite hrest (keeps_throw _))

theorem keeps_enforceIfReached : Keeps (Known l) (enforceIfReached l height) := by
  have henforce : Keeps (Known l) (enforceNextConsensus l) := by
    refine keeps_bind keeps_getConsensus fun c => ?_
    refine keeps_bind (keeps_throwIf _ _) fun _ => ?_
    refine keeps_bind ?_ fun _ => ?_
    · exact keeps_bind keeps_getConsensus fun c => keeps_modify fun _ hs => hs
    refine keeps_bind (keeps_setConsensus (by simp)) fun _ => ?_
    refine keeps_bind (keeps_throwIf _ _) fun _ => ?_
    refine keeps_bind (keeps_throwIf _ _) fun _ => ?_
    exact keeps_setConsensus fun d hd => configs_of_mem (mem_of_configOf hd)
  refine keeps_bind keeps_get fun s => ?_
  cases s.consensus with
  | none => exact keeps_pure ()
  | some c => exact keeps_ite henforce (keeps_pure ())

theorem keeps_setBlockHeight (height : ℤ) (config : ReindexConfig) (wasReorg : Bool) :
    Keeps (Known l) (setBlockHeight l config height wasReorg) := by
  refine keeps_bind keeps_get fun s => ?_
  refine keeps_bind (keeps_modify fun _ hs => hs) fun _ => ?_
  refine keeps_ite (keeps_bind ?_ fun _ => keeps_enforceIfReached) keeps_enforceIfReached
  exact keeps_updateConfigurations fun _ hd => hd

end OPNetConsensusConfiguration

/-- A call of `setBlockHeight` at a height that the table covers. -/
structure HeightCall (T : ConsensusTable Rules) where
  height : ℤ
  wasReorg : Bool
  covered : Covers T.allConsensus height

namespace HeightCall

open OPNetConsensusConfiguration

variable {T : ConsensusTable Rules}

/-- A call as a step of the node; one that throws leaves what it wrote. -/
def step (config : ReindexConfig) (s : OPNetConsensusConfiguration Rules) (call : HeightCall T) :
    Option (OPNetConsensusConfiguration Rules) :=
  some (setBlockHeight T.allConsensus config call.height call.wasReorg s).2

/-- Outside the start of a reindex, the call leaves the configuration of its height in force. -/
def Right (config : ReindexConfig) (s : OPNetConsensusConfiguration Rules) (call : HeightCall T) :
    Prop :=
  ¬ ReindexStartUp config call.wasReorg s →
    (setBlockHeight T.allConsensus config call.height call.wasReorg s).2.consensus =
      configurationAt T.allConsensus call.height

/-- The height is in the range of the configuration in force, or of the one right after it. -/
def StaysNear (s : OPNetConsensusConfiguration Rules) (call : HeightCall T) : Prop :=
  ∀ c, s.consensus = some c → Near T.allConsensus c call.height

/-- **Step.** -/
theorem right_iff (config : ReindexConfig) {s : OPNetConsensusConfiguration Rules}
    (hs : Known T.allConsensus s) (call : HeightCall T) :
    call.Right config s ↔ call.StaysNear s := by
  cases hc : s.consensus with
  | none =>
    refine iff_of_true (fun hnot => ?_) fun c hsome => ?_
    · exact setBlockHeight_search T.consecutive hc hnot call.covered
    · cases hc.symm.trans hsome
  | some c =>
    have hiff := setBlockHeight_eq_iff config call.wasReorg T.consecutive hc (hs c hc) call.covered
    have hnot : ¬ ReindexStartUp config call.wasReorg s := by
      unfold ReindexStartUp
      rw [hc]
      simp
    constructor
    · intro hright d hd
      cases hc.symm.trans hd
      exact hiff.mp (hright hnot)
    · exact fun hnear _ => hiff.mpr (hnear c hc)

/-- **The rules depend on the height only** along a run exactly if every call is for a height in the
range of the configuration in force or of the one right after it, or finds none in force. -/
theorem meets_right_iff (T : ConsensusTable Rules) (config : ReindexConfig)
    (calls : List (HeightCall T)) :
    Meets (step config) (fun s call => call.Right config s) .new calls ↔
      Meets (step config) (fun s call => call.StaysNear s) .new calls := by
  have hrun (s : OPNetConsensusConfiguration Rules) (hs : Known T.allConsensus s) :
      Meets (step config) (fun s call => call.Right config s) s calls ↔
        Meets (step config) (fun s call => call.StaysNear s) s calls := by
    induction calls generalizing s with
    | nil => exact Iff.rfl
    | cons call calls ih =>
      have hnext := keeps_setBlockHeight call.height config call.wasReorg s hs
      refine and_congr (right_iff config hs call) (forall_congr' fun s' => imp_congr_right fun hstep => ?_)
      cases hstep
      exact ih _ hnext
  apply hrun
  intro c hc
  cases hc

/-! ### A table of three configurations -/

/-- Three ranges of ten blocks, from the block before the first one on. -/
def threeConfigs : ConsensusTable ℕ where
  allConsensus := [(0, some ⟨-1, 1, 10, true, 0⟩), (1, some ⟨10, 2, 20, true, 1⟩),
    (2, some ⟨20, 3, 30, false, 2⟩)]
  consecutive := .cons (by decide) ⟨by decide, rfl, rfl, rfl⟩
    (.cons (by decide) ⟨by decide, rfl, rfl, rfl⟩ (.last 2 _ (by decide)))

/-- After a reorg from the second range to the first the configuration of the second stays in force,
and a jump from the first range to the third ends in the second. -/
theorem not_right_reorg_jump :
    (¬ Meets (step ⟨false, 0⟩) (fun s call => call.Right ⟨false, 0⟩ s) .new
      [(⟨12, false, ⟨_, List.mem_cons_of_mem _ List.mem_cons_self, by decide⟩⟩ :
          HeightCall threeConfigs),
        ⟨8, true, ⟨_, List.mem_cons_self, by decide⟩⟩]) ∧
    ¬ Meets (step ⟨false, 0⟩) (fun s call => call.Right ⟨false, 0⟩ s) .new
      [(⟨5, false, ⟨_, List.mem_cons_self, by decide⟩⟩ : HeightCall threeConfigs),
        ⟨25, false, ⟨_, List.mem_cons_of_mem _ (List.mem_cons_of_mem _ List.mem_cons_self),
          by decide⟩⟩] := by
  constructor
  · rintro ⟨-, hrest⟩
    have hright := (hrest _ rfl).1 (by decide)
    revert hright
    decide
  · rintro ⟨-, hrest⟩
    have hright := (hrest _ rfl).1 (by decide)
    revert hright
    decide

end HeightCall

end OpnetNode
