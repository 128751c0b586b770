import OpnetNode.Mempool.BitcoinTransactionVerificatorV2

/-!
# The solutions of the last height

The calls of `onBlockChange` run one after the other, and the last of them is never abandoned: no
height is asked for after its own. Whatever heights were asked for before, and even if one of them is
the last one again, its fetch is a new one, and nothing is applied after it.

* `Sound`: what holds in every run, kept by every step (`sound_step`).
* `step_apart`: what a step may apply, and which call it ends.
* `remaining`: a bound on the steps that are left until all calls have ended.
* `AppliesLatest`, `AppliesRequested`, `KeepsOnThrow`, `Settles`: the four parts of
  `latestChallenges_of_runFrom`.
-/

namespace OpnetNode

/-- A call of `onBlockChange`; the other events are steps of the calls. -/
def ChallengeEvent.isRequest {α : Type} : ChallengeEvent α → Bool
  | .onBlockChange _ => true
  | _ => false

namespace VerificatorV2

variable {α : Type}

/-- How many attempts a phase stands for. -/
def AttemptsWithin : ChallengePhase α → Prop
  | .idle => True
  | .fetching attempt _ | .fetched attempt _ => attempt ≤ MAX_RETRIES
  | .sleeping attempt | .woken attempt _ => attempt < MAX_RETRIES

structure Sound (s : VerificatorV2 α) : Prop where
  target : s.targetSolutionsHeight = s.requested.getLast?.getD (-1)
  ended : s.outcomes.length ≤ s.requested.length
  running : s.phase ≠ .idle → s.outcomes.length < s.requested.length
  attempts : AttemptsWithin s.phase
  since : ∀ attempt requestsBefore, s.phase = .fetching attempt requestsBefore →
    s.outcomes.length < requestsBefore ∧ requestsBefore ≤ s.requested.length
  fetches : ∀ f ∈ s.fetches, s.requested[f.call]? = some f.blockHeight ∧
    f.call < f.requestsBefore ∧ f.requestsBefore ≤ s.requested.length
  fetched : ∀ attempt result, s.phase = .fetched attempt result →
    ∃ f ∈ s.fetches, f.call = s.outcomes.length ∧ f.result = result
  /-- A fetch of the last call that succeeded is still to be applied, or was applied at the end. -/
  latest : ∀ f ∈ s.fetches, ∀ next, f.result = .ok next → f.call + 1 = s.requested.length →
    (f.call = s.outcomes.length ∧ ∃ attempt, s.phase = .fetched attempt (.ok next)) ∨
      s.outcomes.length = s.requested.length ∧ s.allowedChallenges = next

variable {s s' : VerificatorV2 α}

theorem sound_init (noSolutions : α) : Sound (init noSolutions) := by
  refine ⟨rfl, Nat.le_refl 0, fun h => absurd rfl h, trivial, ?_, ?_, ?_, ?_⟩
  · intro attempt requestsBefore hphase
    cases hphase
  · intro f hf
    cases hf
  · intro attempt result hphase
    cases hphase
  · intro f hf
    cases hf

/-! ### Steps -/

theorem Sound.onBlockChange (h : Sound s) (blockHeight : ℤ) : Sound (s.onBlockChange blockHeight) := by
  have hlength : (s.requested ++ [blockHeight]).length = s.requested.length + 1 := by simp
  have hended := h.ended
  refine ⟨?_, ?_, ?_, h.attempts, ?_, ?_, h.fetched, ?_⟩
  · show blockHeight = (s.requested ++ [blockHeight]).getLast?.getD (-1)
    rw [List.getLast?_concat]
    rfl
  · show s.outcomes.length ≤ (s.requested ++ [blockHeight]).length
    omega
  · intro _
    show s.outcomes.length < (s.requested ++ [blockHeight]).length
    omega
  · intro attempt requestsBefore hphase
    have hsince := h.since attempt requestsBefore hphase
    show s.outcomes.length < requestsBefore ∧ requestsBefore ≤ (s.requested ++ [blockHeight]).length
    omega
  · intro f hf
    obtain ⟨hheight, hbefore, hrequests⟩ := h.fetches f hf
    refine ⟨?_, hbefore, ?_⟩
    · show (s.requested ++ [blockHeight])[f.call]? = _
      rw [List.getElem?_append_left (by omega)]
      exact hheight
    · show f.requestsBefore ≤ (s.requested ++ [blockHeight]).length
      omega
  · -- no fetch is one of the new call
    intro f hf next _ hlast
    obtain ⟨-, hbefore, hrequests⟩ := h.fetches f hf
    have hlast : f.call + 1 = (s.requested ++ [blockHeight]).length := hlast
    omega

/-- The call that runs is the last one: its height is the one asked for. -/
theorem Sound.not_abandoned (h : Sound s) (hlast : s.outcomes.length + 1 = s.requested.length) :
    s.abandoned = false := by
  have hlt : s.outcomes.length < s.requested.length := by omega
  have hget : s.requested.getLast? = s.requested[s.outcomes.length]? := by
    rw [List.getLast?_eq_getElem?]
    congr 1
    omega
  unfold abandoned runningHeight
  rw [h.target, hget, List.getElem?_eq_getElem hlt]
  simp

theorem Sound.settle (h : Sound s) (hrunning : s.outcomes.length < s.requested.length)
    (outcome : ChallengeOutcome)
    (hlast : s.outcomes.length + 1 = s.requested.length →
      ∀ attempt next, s.phase ≠ .fetched attempt (.ok next)) : Sound (s.settle outcome) := by
  have hlength : (s.outcomes ++ [outcome]).length = s.outcomes.length + 1 := by simp
  refine ⟨h.target, ?_, fun hidle => absurd rfl hidle, trivial, ?_, h.fetches, ?_, ?_⟩
  · show (s.outcomes ++ [outcome]).length ≤ s.requested.length
    omega
  · intro attempt requestsBefore hphase
    cases hphase
  · intro attempt result hphase
    cases hphase
  · intro f hf next hresult hcall
    have hcall : f.call + 1 = s.requested.length := hcall
    rcases h.latest f hf next hresult hcall with ⟨hrun, attempt, hphase⟩ | ⟨hdone, -⟩
    · exact absurd hphase (hlast (by omega) attempt next)
    · omega

variable {attempt : ℕ}

theorem Sound.tryFetch (h : Sound s) (hrunning : s.outcomes.length < s.requested.length)
    (hphase : ∀ attempt next, s.phase ≠ .fetched attempt (.ok next))
    (hattempt : attempt ≤ MAX_RETRIES) : Sound (s.tryFetch attempt) := by
  unfold VerificatorV2.tryFetch
  split
  · exact h.settle hrunning .returned fun _ => hphase
  · refine ⟨h.target, h.ended, fun _ => hrunning, hattempt, ?_, h.fetches, ?_, ?_⟩
    · intro attempt' requestsBefore heq
      injection heq with _ heq
      rw [← heq]
      exact ⟨hrunning, Nat.le_refl _⟩
    · intro attempt' result heq
      cases heq
    · intro f hf next hresult hcall
      rcases h.latest f hf next hresult hcall with ⟨-, attempt', hfetched⟩ | hdone
      · exact absurd hfetched (hphase attempt' next)
      · exact Or.inr hdone

theorem Sound.fetchEnds (h : Sound s) {requestsBefore : ℕ}
    (hphase : s.phase = .fetching attempt requestsBefore) {blockHeight : ℤ}
    (hheight : s.runningHeight = some blockHeight) (result : Except String α) :
    Sound { s with
      phase := .fetched attempt result
      fetches := s.fetches ++ [⟨s.outcomes.length, blockHeight, requestsBefore, result⟩] } := by
  have hsince := h.since attempt requestsBefore hphase
  have hattempts := h.attempts
  rw [hphase] at hattempts
  refine ⟨h.target, h.ended, fun _ => Nat.lt_of_lt_of_le hsince.1 hsince.2, hattempts, ?_, ?_, ?_,
    ?_⟩
  · intro attempt' requestsBefore' heq
    cases heq
  · intro f hf
    rcases List.mem_append.mp hf with hf | hf
    · exact h.fetches f hf
    · rw [List.mem_singleton.mp hf]
      exact ⟨hheight, hsince⟩
  · intro attempt' result' heq
    injection heq with _ heq
    exact ⟨_, List.mem_append_right _ (List.mem_singleton_self _), rfl, heq⟩
  · intro f hf next hresult hcall
    rcases List.mem_append.mp hf with hf | hf
    · -- an earlier fetch of the call that succeeded would have been applied
      rcases h.latest f hf next hresult hcall with ⟨-, attempt', hfetched⟩ | ⟨hdone, -⟩
      · cases hphase.symm.trans hfetched
      · omega
    · rw [List.mem_singleton.mp hf] at hresult ⊢
      have hresult : result = .ok next := hresult
      exact Or.inl ⟨rfl, attempt, by rw [hresult]⟩

theorem Sound.wait (h : Sound s) (hrunning : s.outcomes.length < s.requested.length)
    (hphase : ∀ attempt next, s.phase ≠ .fetched attempt (.ok next)) {phase : ChallengePhase α}
    (hattempts : AttemptsWithin phase) (hfetching : ∀ a r, phase ≠ .fetching a r)
    (hfetched : ∀ a r, phase ≠ .fetched a r) : Sound { s with phase := phase } := by
  refine ⟨h.target, h.ended, fun _ => hrunning, hattempts, ?_, h.fetches, ?_, ?_⟩
  · intro attempt requestsBefore heq
    exact absurd heq (hfetching attempt requestsBefore)
  · intro attempt result heq
    exact absurd heq (hfetched attempt result)
  · intro f hf next hresult hcall
    rcases h.latest f hf next hresult hcall with ⟨-, attempt, heq⟩ | hdone
    · exact absurd heq (hphase attempt next)
    · exact Or.inr hdone

theorem Sound.onFetched (h : Sound s) {result : Except String α}
    (hphase : s.phase = .fetched attempt result) : Sound (s.onFetched attempt result) := by
  have hrunning : s.outcomes.length < s.requested.length := by
    apply h.running
    rw [hphase]
    simp
  cases result with
  | error lastError =>
    have hnot : ∀ attempt' next, s.phase ≠ .fetched attempt' (.ok next) := by
      intro attempt' next heq
      cases hphase.symm.trans heq
    show Sound (if MAX_RETRIES ≤ attempt then s.settle (.threw lastError)
      else { s with phase := .sleeping attempt })
    split
    · exact h.settle hrunning _ fun _ => hnot
    · rename_i hretry
      refine h.wait hrunning hnot (Nat.not_le.mp hretry) ?_ ?_
      · simp
      · simp
  | ok next =>
    show Sound (if s.abandoned then s.settle .returned
      else { s with allowedChallenges := next }.settle .returned)
    split
    · rename_i habandoned
      apply h.settle hrunning
      intro hlast
      -- the last call is the current one, so its result is not dropped
      rw [h.not_abandoned hlast] at habandoned
      cases habandoned
    · have hlength : (s.outcomes ++ [ChallengeOutcome.returned]).length = s.outcomes.length + 1 := by simp
      refine ⟨h.target, ?_, fun hidle => absurd rfl hidle, trivial, ?_, h.fetches, ?_, ?_⟩
      · show (s.outcomes ++ [ChallengeOutcome.returned]).length ≤ s.requested.length
        omega
      · intro attempt' requestsBefore heq
        cases heq
      · intro attempt' result heq
        cases heq
      · -- the fetch of the last call is this one, and its result is what is allowed now
        intro f hf next' hresult hcall
        have hcall : f.call + 1 = s.requested.length := hcall
        rcases h.latest f hf next' hresult hcall with ⟨hrun, attempt', heq⟩ | ⟨hdone, -⟩
        · right
          rw [hphase] at heq
          injection heq with _ heq
          refine ⟨?_, Except.ok.inj heq⟩
          show (s.outcomes ++ [ChallengeOutcome.returned]).length = s.requested.length
          omega
        · omega

theorem Sound.onWoken (h : Sound s) {stillCurrent : Bool}
    (hphase : s.phase = .woken attempt stillCurrent) : Sound (s.onWoken attempt stillCurrent) := by
  have hrunning : s.outcomes.length < s.requested.length := by
    apply h.running
    rw [hphase]
    simp
  have hnot : ∀ attempt' next, s.phase ≠ .fetched attempt' (.ok next) := by
    intro attempt' next heq
    cases hphase.symm.trans heq
  have hattempt : attempt < MAX_RETRIES := by
    have hattempts := h.attempts
    rwa [hphase] at hattempts
  unfold VerificatorV2.onWoken
  split
  · exact h.tryFetch hrunning hnot hattempt
  · exact h.settle hrunning _ fun _ => hnot

variable {event : ChallengeEvent α}

theorem sound_step (h : Sound s) (hstep : s.step event = some s') : Sound s' := by
  cases event with
  | onBlockChange blockHeight =>
    cases hstep
    exact h.onBlockChange blockHeight
  | start =>
    rw [step] at hstep
    split at hstep
    · rename_i hidle
      split at hstep
      · rename_i hrunning
        cases hstep
        apply h.tryFetch hrunning _ (Nat.zero_le _)
        intro attempt next heq
        cases hidle.symm.trans heq
      · cases hstep
    · cases hstep
  | fetchEnds result =>
    rw [step] at hstep
    split at hstep
    · rename_i attempt requestsBefore blockHeight hphase hheight
      cases hstep
      exact h.fetchEnds hphase hheight result
    · cases hstep
  | sleepEnds =>
    rw [step] at hstep
    split at hstep
    · rename_i attempt hphase
      cases hstep
      have hattempts := h.attempts
      rw [hphase] at hattempts
      apply h.wait
      · apply h.running
        rw [hphase]
        simp
      · intro attempt' next heq
        cases hphase.symm.trans heq
      · exact hattempts
      · simp
      · simp
    · cases hstep
  | resume =>
    rw [step] at hstep
    split at hstep
    · rename_i attempt result hphase
      cases hstep
      exact h.onFetched hphase
    · rename_i attempt stillCurrent hphase
      cases hstep
      exact h.onWoken hphase
    · cases hstep

variable {events : List (ChallengeEvent α)}

theorem sound_runFrom (h : Sound s) (hrun : runFrom step s events = some s') : Sound s' := by
  induction events generalizing s with
  | nil =>
    cases hrun
    exact h
  | cons event events ih =>
    rw [runFrom_cons, Option.bind_eq_some_iff] at hrun
    obtain ⟨t, hstep, hrun⟩ := hrun
    exact ih (sound_step h hstep) hrun

/-! ### What is applied -/

/-- `s'` has applied a fetched result that `s` is about to look at. -/
def Applied (s s' : VerificatorV2 α) : Prop :=
  s.abandoned = false ∧ ∃ attempt next, s.phase = .fetched attempt (.ok next) ∧
    s'.allowedChallenges = next

theorem tryFetch_apart (attempt : ℕ) :
    (s.tryFetch attempt).allowedChallenges = s.allowedChallenges ∧
      ((s.tryFetch attempt).outcomes = s.outcomes ∨
        (s.tryFetch attempt).outcomes = s.outcomes ++ [.returned]) := by
  unfold VerificatorV2.tryFetch
  split
  · exact ⟨rfl, Or.inr rfl⟩
  · exact ⟨rfl, Or.inl rfl⟩

theorem step_apart (hstep : s.step event = some s') : (s'.allowedChallenges = s.allowedChallenges ∧
        (s'.outcomes = s.outcomes ∨ ∃ outcome, s'.outcomes = s.outcomes ++ [outcome])) ∨
      (Applied s s' ∧ s'.outcomes = s.outcomes ++ [.returned]) := by
  cases event with
  | onBlockChange blockHeight =>
    cases hstep
    exact Or.inl ⟨rfl, Or.inl rfl⟩
  | start =>
    rw [step] at hstep
    split at hstep
    · split at hstep
      · cases hstep
        have happart := tryFetch_apart (s := s) 0
        exact Or.inl ⟨happart.1, happart.2.imp_right fun h => ⟨_, h⟩⟩
      · cases hstep
    · cases hstep
  | fetchEnds | sleepEnds =>
    rw [step] at hstep
    split at hstep
    · cases hstep
      exact Or.inl ⟨rfl, Or.inl rfl⟩
    · cases hstep
  | resume =>
    rw [step] at hstep
    split at hstep
    · rename_i attempt result hphase
      cases hstep
      cases result with
      | error lastError =>
        rw [VerificatorV2.onFetched]
        split
        · exact Or.inl ⟨rfl, Or.inr ⟨_, rfl⟩⟩
        · exact Or.inl ⟨rfl, Or.inl rfl⟩
      | ok next =>
        -- a result is applied only if the call is still the current one
        rw [VerificatorV2.onFetched]
        split
        · exact Or.inl ⟨rfl, Or.inr ⟨_, rfl⟩⟩
        · rename_i hcurrent
          have hcurrent := Bool.eq_false_iff.mpr hcurrent
          exact Or.inr ⟨⟨hcurrent, attempt, next, hphase, rfl⟩, rfl⟩
    · rename_i attempt stillCurrent hphase
      cases hstep
      rw [VerificatorV2.onWoken]
      split
      · have happart := tryFetch_apart (s := s) (attempt + 1)
        exact Or.inl ⟨happart.1, happart.2.imp_right fun h => ⟨_, h⟩⟩
      · exact Or.inl ⟨rfl, Or.inr ⟨_, rfl⟩⟩
    · cases hstep

theorem allowedChallenges_of_threw (hrun : runFrom step s events = some s') :
    s.outcomes <+: s'.outcomes ∧
      (s'.outcomes = s.outcomes → s'.allowedChallenges = s.allowedChallenges) ∧
      ∀ error, s'.outcomes = s.outcomes ++ [.threw error] →
        s'.allowedChallenges = s.allowedChallenges := by
  induction events generalizing s with
  | nil =>
    cases hrun
    exact ⟨List.prefix_refl _, fun _ => rfl, fun _ _ => rfl⟩
  | cons event events ih =>
    rw [runFrom_cons, Option.bind_eq_some_iff] at hrun
    obtain ⟨t, hstep, hrun⟩ := hrun
    obtain ⟨hextends, hsame, hthrew⟩ := ih hrun
    by_cases hnone : t.outcomes = s.outcomes
    · have hallowed : t.allowedChallenges = s.allowedChallenges := by
        rcases step_apart hstep with ⟨hallowed, -⟩ | ⟨-, hends⟩
        · exact hallowed
        · simp [hnone] at hends
      rw [hnone] at hextends hsame hthrew
      rw [hallowed] at hsame hthrew
      exact ⟨hextends, hsame, hthrew⟩
    -- the call ends in the first step
    obtain ⟨outcome, hends, hallowed⟩ : ∃ outcome, t.outcomes = s.outcomes ++ [outcome] ∧
        (outcome = .returned ∨ t.allowedChallenges = s.allowedChallenges) := by
      rcases step_apart hstep with ⟨hallowed, hnone' | ⟨outcome, hends⟩⟩ | ⟨-, hends⟩
      · exact absurd hnone' hnone
      · exact ⟨outcome, hends, Or.inr hallowed⟩
      · exact ⟨.returned, hends, Or.inl rfl⟩
    have hlength : t.outcomes.length = s.outcomes.length + 1 := by simp [hends]
    have hle := hextends.length_le
    refine ⟨(hends ▸ List.prefix_append _ _ : s.outcomes <+: t.outcomes).trans hextends, ?_, ?_⟩
    · intro heq
      rw [heq] at hle
      omega
    · intro error heq
      have heq' : t.outcomes = s'.outcomes := by
        apply hextends.eq_of_length
        simp [hlength, heq]
      have houtcome : outcome = .threw error := by
        rw [hends, heq] at heq'
        simpa using heq'
      rcases hallowed with hreturned | hallowed
      · cases houtcome.symm.trans hreturned
      · rw [hsame heq'.symm, hallowed]

/-! ### All calls end -/

/-- The steps of the running call that are over. -/
def progress : ChallengePhase α → ℕ
  | .idle => 0
  | .fetching attempt _ => 4 * attempt + 1
  | .fetched attempt _ => 4 * attempt + 2
  | .sleeping attempt => 4 * attempt + 3
  | .woken attempt _ => 4 * attempt + 4

/-- A bound on the steps that are left: no call takes 25. -/
def remaining (s : VerificatorV2 α) : ℕ :=
  25 * (s.requested.length - s.outcomes.length) - progress s.phase

theorem progress_le {phase : ChallengePhase α} (h : AttemptsWithin phase) : progress phase ≤ 22 := by
  cases phase with
  | idle => exact Nat.zero_le _
  | fetching attempt requestsBefore =>
    have h : attempt ≤ 5 := h
    show 4 * attempt + 1 ≤ 22
    omega
  | fetched attempt result =>
    have h : attempt ≤ 5 := h
    show 4 * attempt + 2 ≤ 22
    omega
  | sleeping attempt =>
    have h : attempt < 5 := h
    show 4 * attempt + 3 ≤ 22
    omega
  | woken attempt stillCurrent =>
    have h : attempt < 5 := h
    show 4 * attempt + 4 ≤ 22
    omega

theorem remaining_lt (h : Sound s) (hrunning : s.outcomes.length < s.requested.length)
    (hrequested : s'.requested = s.requested) (houtcomes : s'.outcomes = s.outcomes)
    (hprogress : progress s.phase < progress s'.phase) : remaining s' < remaining s := by
  have hused := progress_le h.attempts
  rw [remaining, remaining, hrequested, houtcomes]
  omega

theorem remaining_settle_lt (h : Sound s) (hrunning : s.outcomes.length < s.requested.length)
    (outcome : ChallengeOutcome) : remaining (s.settle outcome) < remaining s := by
  have hused := progress_le h.attempts
  have hlength : (s.settle outcome).outcomes.length = s.outcomes.length + 1 := by
    simp [VerificatorV2.settle]
  show 25 * (s.requested.length - (s.settle outcome).outcomes.length) - 0 < remaining s
  rw [hlength, remaining]
  omega

theorem remaining_tryFetch_lt (h : Sound s) (hrunning : s.outcomes.length < s.requested.length)
    (hprogress : progress s.phase < 4 * attempt + 1) :
    remaining (s.tryFetch attempt) < remaining s := by
  rw [VerificatorV2.tryFetch]
  split
  · exact remaining_settle_lt h hrunning _
  · exact remaining_lt h hrunning rfl rfl hprogress

theorem remaining_step_lt (h : Sound s)
    (hevent : event.isRequest = false) (hstep : s.step event = some s') :
    remaining s' < remaining s := by
  cases event with
  | onBlockChange blockHeight => cases hevent
  | start =>
    rw [step] at hstep
    split at hstep
    · rename_i hidle
      split at hstep
      · rename_i hrunning
        cases hstep
        apply remaining_tryFetch_lt h hrunning
        rw [hidle]
        exact Nat.zero_lt_one
      · cases hstep
    · cases hstep
  | fetchEnds result =>
    rw [step] at hstep
    split at hstep
    · rename_i attempt requestsBefore blockHeight hphase hheight
      cases hstep
      have hrunning := h.running (by simp [hphase])
      refine remaining_lt h hrunning rfl rfl ?_
      rw [hphase]
      exact Nat.lt_succ_self _
    · cases hstep
  | sleepEnds =>
    rw [step] at hstep
    split at hstep
    · rename_i attempt hphase
      cases hstep
      have hrunning := h.running (by simp [hphase])
      refine remaining_lt h hrunning rfl rfl ?_
      rw [hphase]
      exact Nat.lt_succ_self _
    · cases hstep
  | resume =>
    rw [step] at hstep
    split at hstep
    · rename_i attempt result hphase
      cases hstep
      have hrunning := h.running (by simp [hphase])
      cases result with
      | error lastError =>
        -- the last attempt settles the call, and any other one is followed by a pause
        rw [VerificatorV2.onFetched]
        split
        · exact remaining_settle_lt h hrunning _
        · refine remaining_lt h hrunning rfl rfl ?_
          rw [hphase]
          exact Nat.lt_succ_self _
      | ok next =>
        -- whether the result is applied or stale, the call is settled
        rw [VerificatorV2.onFetched]
        split
        · exact remaining_settle_lt h hrunning _
        · exact remaining_settle_lt h hrunning _
    · rename_i attempt stillCurrent hphase
      cases hstep
      have hrunning := h.running (by simp [hphase])
      rw [VerificatorV2.onWoken]
      split
      · apply remaining_tryFetch_lt h hrunning
        rw [hphase]
        show 4 * attempt + 4 < 4 * (attempt + 1) + 1
        omega
      · exact remaining_settle_lt h hrunning _
    · cases hstep

theorem exists_step (hrunning : s.outcomes.length < s.requested.length) :
    ∃ event s', event.isRequest = false ∧ s.step event = some s' := by
  have hheight : s.runningHeight = some s.requested[s.outcomes.length] :=
    List.getElem?_eq_getElem hrunning
  cases hphase : s.phase with
  | idle => exact ⟨.start, s.tryFetch 0, rfl, by simp [step, hphase, hrunning]⟩
  | fetching attempt requestsBefore =>
    have hends : (s.step (.fetchEnds (.error ""))).isSome := by simp [step, hphase, hheight]
    obtain ⟨s', hends⟩ := Option.isSome_iff_exists.mp hends
    exact ⟨.fetchEnds (.error ""), s', rfl, hends⟩
  | fetched attempt result =>
    refine ⟨.resume, s.onFetched attempt result, rfl, ?_⟩
    rw [step, hphase]
  | sleeping attempt =>
    refine ⟨.sleepEnds, { s with phase := .woken attempt !s.abandoned }, rfl, ?_⟩
    rw [step, hphase]
  | woken attempt stillCurrent =>
    refine ⟨.resume, s.onWoken attempt stillCurrent, rfl, ?_⟩
    rw [step, hphase]

theorem length_add_remaining_le (h : Sound s) (hevents : ∀ event ∈ events, event.isRequest = false)
    (hrun : runFrom step s events = some s') : events.length + remaining s' ≤ remaining s := by
  induction events generalizing s with
  | nil =>
    cases hrun
    simp
  | cons event events ih =>
    rw [runFrom_cons, Option.bind_eq_some_iff] at hrun
    obtain ⟨t, hstep, hrun⟩ := hrun
    have hlt := remaining_step_lt h (hevents event List.mem_cons_self) hstep
    have hle := ih (sound_step h hstep) (fun e he => hevents e (List.mem_cons_of_mem _ he)) hrun
    rw [List.length_cons]
    omega

/-! ### The last height -/

/-- Once all calls have ended, and a fetch of the last one succeeded, what is allowed is the result of
a fetch for the last height that started after its call. -/
def AppliesLatest (s : VerificatorV2 α) : Prop :=
  s.outcomes.length = s.requested.length →
    (∃ f ∈ s.fetches, f.call + 1 = s.requested.length ∧ ∃ next, f.result = .ok next) →
      ∃ f ∈ s.fetches, s.requested.getLast? = some f.blockHeight ∧
        f.requestsBefore = s.requested.length ∧ f.result = .ok s.allowedChallenges

/-- Only a result for the height that is asked for last is applied. -/
def AppliesRequested (s : VerificatorV2 α) : Prop :=
  ∀ event s', s.step event = some s' → s'.allowedChallenges ≠ s.allowedChallenges →
    ∃ f ∈ s.fetches, f.blockHeight = s.targetSolutionsHeight ∧ f.result = .ok s'.allowedChallenges

/-- The next call that ends has applied nothing if it throws. -/
def KeepsOnThrow (s : VerificatorV2 α) : Prop :=
  ∀ events s' error, runFrom step s events = some s' →
    s'.outcomes = s.outcomes ++ [.threw error] → s'.allowedChallenges = s.allowedChallenges

/-- With no further call, the calls take a bounded number of steps, and stop only when all have
ended. -/
def Settles (s : VerificatorV2 α) : Prop :=
  ∀ events s', (∀ event ∈ events, event.isRequest = false) →
    runFrom step s events = some s' →
      events.length ≤ 25 * (s.requested.length - s.outcomes.length) ∧
        (s'.outcomes.length = s'.requested.length ∨
          ∃ event t, event.isRequest = false ∧ s'.step event = some t)

theorem Sound.appliesLatest (h : Sound s) : AppliesLatest s := by
  rintro hended ⟨f, hf, hcall, next, hresult⟩
  obtain ⟨hheight, hbefore, hrequests⟩ := h.fetches f hf
  refine ⟨f, hf, ?_, by omega, ?_⟩
  · rw [List.getLast?_eq_getElem?, ← hheight]
    congr 1
    omega
  · rcases h.latest f hf next hresult hcall with ⟨hrun, -⟩ | ⟨-, hallowed⟩
    · omega
    · rw [hresult, hallowed]

theorem Sound.appliesRequested (h : Sound s) : AppliesRequested s := by
  intro event s' hstep hchanged
  rcases step_apart hstep with ⟨hallowed, -⟩ | ⟨⟨hcurrent, attempt, next, hphase, hallowed⟩, -⟩
  · exact absurd hallowed hchanged
  · obtain ⟨f, hf, hcall, hresult⟩ := h.fetched attempt (.ok next) hphase
    refine ⟨f, hf, ?_, by rw [hresult, hallowed]⟩
    have hheight := (h.fetches f hf).1
    rw [hcall] at hheight
    have hrunning : s.runningHeight = some s.targetSolutionsHeight := by
      simpa [abandoned] using hcurrent
    have hheight : s.runningHeight = some f.blockHeight := hheight
    rw [hheight] at hrunning
    exact Option.some.inj hrunning

theorem Sound.settles (h : Sound s) : Settles s := by
  intro events s' hevents hrun
  have hbound := length_add_remaining_le h hevents hrun
  have hsound := sound_runFrom h hrun
  refine ⟨?_, ?_⟩
  · have hle : remaining s ≤ 25 * (s.requested.length - s.outcomes.length) := Nat.sub_le _ _
    omega
  · rcases Nat.lt_or_ge s'.outcomes.length s'.requested.length with hrunning | hdone
    · exact Or.inr (exists_step hrunning)
    · exact Or.inl (Nat.le_antisymm hsound.ended hdone)

/-- **The latest challenge solutions win.** -/
theorem latestChallenges_of_runFrom (noSolutions : α) (events : List (ChallengeEvent α))
    (s : VerificatorV2 α) (hrun : runFrom step (init noSolutions) events = some s) :
    AppliesLatest s ∧ AppliesRequested s ∧ KeepsOnThrow s ∧ Settles s := by
  have hsound := sound_runFrom (sound_init noSolutions) hrun
  refine ⟨hsound.appliesLatest, hsound.appliesRequested, ?_, hsound.settles⟩
  intro events' s' error hrun' houtcomes
  exact (allowedChallenges_of_threw hrun').2.2 error houtcomes

/-- Height 7 is asked for, then 8 and 7 again while the first fetch runs. -/
def revisitingRun : List (ChallengeEvent ℕ) :=
  [.onBlockChange 7, .start, .onBlockChange 8, .onBlockChange 7, .fetchEnds (.ok 70), .resume, .start,
    .start, .fetchEnds (.error "down"), .resume, .sleepEnds, .resume, .fetchEnds (.ok 71), .resume]

/-- The first fetch is applied, and then the one of the last call. -/
theorem latestChallenges_revisiting :
    (runFrom step (init 0) revisitingRun).map (fun s => (s.allowedChallenges, s.outcomes.length)) =
        some (71, 3) ∧
      ∀ s, runFrom step (init 0) revisitingRun = some s → AppliesLatest s ∧ Settles s := by
  refine ⟨by decide +kernel, ?_⟩
  intro s hrun
  obtain ⟨hlatest, -, -, hsettles⟩ := latestChallenges_of_runFrom 0 revisitingRun s hrun
  exact ⟨hlatest, hsettles⟩

end VerificatorV2

end OpnetNode
