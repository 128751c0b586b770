import Mathlib.Data.Int.Notation
import OpnetNode.Transition

/-!
# The allowed challenge solutions

`BitcoinTransactionVerificatorV2.onBlockChange` asks for the challenge solutions of a height. The
calls run one after the other, on a queue of promises; each fetches, and fetches again after a sleep
when the repository fails, as long as its height is the one that was asked for last.

* `onBlockChange`: a call, and the height that is asked for last.
* `tryFetch`, `onFetched`, `onWoken`: the parts of `fetchAndApplyChallenges`.
* `VerificatorV2.step`: one event; more calls may come between any two.

How long a sleep takes is left out: it may end at any time, and reports whether the height is still
the one asked for.
-/

namespace OpnetNode

/-- A fetch that has ended. `requestsBefore` is how many calls there were when it started. -/
structure ChallengeFetch (α : Type) where
  call : ℕ
  blockHeight : ℤ
  requestsBefore : ℕ
  result : Except String α
  deriving DecidableEq

/-- How far the call is that runs. -/
inductive ChallengePhase (α : Type) where
  /-- No call runs. -/
  | idle
  /-- The repository is asked. -/
  | fetching (attempt requestsBefore : ℕ)
  /-- It has answered, and the call is still to go on. -/
  | fetched (attempt : ℕ) (result : Except String α)
  /-- `abortableSleep`. -/
  | sleeping (attempt : ℕ)
  /-- The sleep is over, and the call is still to go on. -/
  | woken (attempt : ℕ) (stillCurrent : Bool)
  deriving DecidableEq

/-- How a call has ended. -/
inductive ChallengeOutcome where
  | returned
  | threw (error : String)
  deriving DecidableEq

/-- `requested` are the heights of all calls; the first `outcomes.length` have ended. `fetches` is not
in the program. -/
structure VerificatorV2 (α : Type) where
  allowedChallenges : α
  targetSolutionsHeight : ℤ
  requested : List ℤ
  phase : ChallengePhase α
  outcomes : List ChallengeOutcome
  fetches : List (ChallengeFetch α)
  deriving DecidableEq

namespace VerificatorV2

variable {α : Type}

def MAX_RETRIES : ℕ := 5

def init (noSolutions : α) : VerificatorV2 α where
  allowedChallenges := noSolutions
  targetSolutionsHeight := -1
  requested := []
  phase := .idle
  outcomes := []
  fetches := []

def onBlockChange (s : VerificatorV2 α) (blockHeight : ℤ) : VerificatorV2 α :=
  { s with
    targetSolutionsHeight := blockHeight
    requested := s.requested ++ [blockHeight] }

/-- The height of the call that runs, or is the next to run. -/
def runningHeight (s : VerificatorV2 α) : Option ℤ := s.requested[s.outcomes.length]?

/-- Whether the running call is abandoned. -/
def abandoned (s : VerificatorV2 α) : Bool := s.runningHeight ≠ some s.targetSolutionsHeight

/-- The running call ends, and the next may run. -/
def settle (s : VerificatorV2 α) (outcome : ChallengeOutcome) : VerificatorV2 α :=
  { s with phase := .idle, outcomes := s.outcomes ++ [outcome] }

/-- The head of the loop of `fetchAndApplyChallenges`. -/
def tryFetch (s : VerificatorV2 α) (attempt : ℕ) : VerificatorV2 α :=
  if s.abandoned then s.settle .returned
  else { s with phase := .fetching attempt s.requested.length }

/-- What the loop does with an answer. -/
def onFetched (s : VerificatorV2 α) (attempt : ℕ) : Except String α → VerificatorV2 α
  | .ok next =>
    if s.abandoned then s.settle .returned
    else { s with allowedChallenges := next }.settle .returned
  | .error lastError =>
    if MAX_RETRIES ≤ attempt then s.settle (.threw lastError)
    else { s with phase := .sleeping attempt }

/-- What it does after the sleep. -/
def onWoken (s : VerificatorV2 α) (attempt : ℕ) (stillCurrent : Bool) : VerificatorV2 α :=
  if stillCurrent then s.tryFetch (attempt + 1) else s.settle .returned

end VerificatorV2

inductive ChallengeEvent (α : Type) where
  | onBlockChange (blockHeight : ℤ)
  /-- The next call of the queue runs. -/
  | start
  /-- The repository answers, or fails. -/
  | fetchEnds (result : Except String α)
  /-- The sleep ends: its time is over, or it finds that another height is asked for. -/
  | sleepEnds
  /-- The running call goes on. -/
  | resume
  deriving DecidableEq

namespace VerificatorV2

variable {α : Type}

def step (s : VerificatorV2 α) : ChallengeEvent α → Option (VerificatorV2 α)
  | .onBlockChange blockHeight => some (s.onBlockChange blockHeight)
  | .start =>
    match s.phase with
    | .idle => if s.outcomes.length < s.requested.length then some (s.tryFetch 0) else none
    | _ => none
  | .fetchEnds result =>
    match s.phase, s.runningHeight with
    | .fetching attempt requestsBefore, some blockHeight =>
      some
        { s with
          phase := .fetched attempt result
          fetches := s.fetches ++ [⟨s.outcomes.length, blockHeight, requestsBefore, result⟩] }
    | _, _ => none
  | .sleepEnds =>
    match s.phase with
    | .sleeping attempt => some { s with phase := .woken attempt !s.abandoned }
    | _ => none
  | .resume =>
    match s.phase with
    | .fetched attempt result => some (s.onFetched attempt result)
    | .woken attempt stillCurrent => some (s.onWoken attempt stillCurrent)
    | _ => none

end VerificatorV2

end OpnetNode
