import Mathlib.Data.List.Induction
import OpnetNode.Epoch.BlockSubmissions
import OpnetNode.Transition

/-!
# What a block does to the submissions

* `accepted_of_mem_processSubmissions`: what is saved of a block has passed the validation, against
  the header that its epoch mines (`targetRoot_of_mem_processSubmissions`).
* `processSubmissions_eq_filter`: what is stored already only filters what the block would save
  otherwise.
* `mem_saveSubmissions` and `saveSubmissions_eq_append`: the saves.
-/

namespace OpnetNode.BlockSubmissions

open EpochManager EpochValidator SharedInteractionParameters

variable {env : SubmissionEnvironment}

/-! ### The validation -/

/-- A document that the validation let in. -/
structure Accepted (env : SubmissionEnvironment) (d : StoredSubmission) : Prop where
  epoch_pos : 0 < d.epochNumber
  epochNumber : d.epochNumber = d.confirmedAt / BLOCKS_PER_EPOCH
  solution : d.epochProposed.solution = d.submissionHash
  submissionHash : d.submissionHash = d.validated.hash
  hash : d.validated.hash = env.hashBuffer
    (calculatePreimage d.targetRoot d.epochProposed.mldsaPublicKey d.epochProposed.salt)
  matchingBits : d.validated.matchingBits =
    countMatchingBits d.validated.hash (env.hashBuffer d.targetRoot)
  difficulty : MIN_DIFFICULTY ≤ d.validated.matchingBits
  salt : d.epochProposed.salt.length = 32

variable {pendingTarget : PendingTargetEpoch}

theorem validateEpochSubmission_valid {submission : Submission} {height : ℕ}
    (h : (validateEpochSubmission env submission height pendingTarget).valid = true) :
    0 < height / BLOCKS_PER_EPOCH ∧
    (validateEpochSubmission env submission height pendingTarget).hash = env.hashBuffer
      (calculatePreimage pendingTarget.checksumRoot submission.mldsaPublicKey submission.salt) ∧
    (validateEpochSubmission env submission height pendingTarget).matchingBits = countMatchingBits
      (validateEpochSubmission env submission height pendingTarget).hash pendingTarget.targetHash ∧
    MIN_DIFFICULTY ≤
      (validateEpochSubmission env submission height pendingTarget).matchingBits ∧
    submission.salt.length = 32 := by
  unfold validateEpochSubmission at h ⊢
  dsimp only at h ⊢
  split_ifs at h ⊢ with hepoch hnext hbits hsalt hgraffiti
  have hsalt : submission.salt.length = 32 := not_not.mp hsalt
  exact ⟨by omega, rfl, rfl, not_lt.mp hbits, hsalt⟩

/-! ### The documents of a block -/

def documentOf (env : SubmissionEnvironment) (height : ℕ) (block : SubmissionBlock)
    (pendingTarget : PendingTargetEpoch) (data : EpochSubmission) : Option StoredSubmission :=
  (epochSubmissionDocuments env height block pendingTarget
    (validateSubmissions env height pendingTarget [data])).head?

theorem documents_singleton (height : ℕ) (block : SubmissionBlock)
    (pendingTarget : PendingTargetEpoch) (data : EpochSubmission) :
    epochSubmissionDocuments env height block pendingTarget
        (validateSubmissions env height pendingTarget [data]) =
      (documentOf env height block pendingTarget data).toList := by
  unfold documentOf epochSubmissionDocuments validateSubmissions
  by_cases hvalid : (validateEpochSubmission env data.submission height pendingTarget).valid = true
  · cases hwallet : submissionWallet env block data.submission.mldsaPublicKey with
    | none | some => simp [hvalid, hwallet]
  · simp [hvalid]

theorem documents_eq_filterMap (height : ℕ) (block : SubmissionBlock)
    (pendingTarget : PendingTargetEpoch) (l : List EpochSubmission) :
    epochSubmissionDocuments env height block pendingTarget
        (validateSubmissions env height pendingTarget l) =
      l.filterMap (documentOf env height block pendingTarget) := by
  induction l with
  | nil => rfl
  | cons data l ih =>
    have hvalidated : validateSubmissions env height pendingTarget (data :: l) =
        validateSubmissions env height pendingTarget [data] ++
          validateSubmissions env height pendingTarget l :=
      List.filterMap_append (l := [data])
    have happend (v v' : List (EpochSubmission × ValidatedSolutionResult)) :
        epochSubmissionDocuments env height block pendingTarget (v ++ v') =
          epochSubmissionDocuments env height block pendingTarget v ++
            epochSubmissionDocuments env height block pendingTarget v' :=
      List.filterMap_append
    rw [hvalidated, happend, documents_singleton, ih]
    cases hdocument : documentOf env height block pendingTarget data with
    | none | some => simp [hdocument]

/-- What a document takes from its submission and its block. -/
structure IsDocumentOf (env : SubmissionEnvironment) (height : ℕ)
    (pendingTarget : PendingTargetEpoch) (data : EpochSubmission) (d : StoredSubmission) : Prop where
  valid : (validateEpochSubmission env data.submission height pendingTarget).valid = true
  validated : d.validated = validateEpochSubmission env data.submission height pendingTarget
  targetRoot : d.targetRoot = pendingTarget.checksumRoot
  confirmedAt : d.confirmedAt = height
  epochNumber : d.epochNumber = height / BLOCKS_PER_EPOCH
  submissionTxHash : d.submissionTxHash = data.txHash
  submissionHash : d.submissionHash = d.validated.hash
  solution : d.epochProposed.solution = d.validated.hash
  mldsaPublicKey : d.epochProposed.mldsaPublicKey = data.submission.mldsaPublicKey
  salt : d.epochProposed.salt = data.submission.salt

theorem isDocumentOf {height : ℕ} {block : SubmissionBlock}
    {data : EpochSubmission} {d : StoredSubmission}
    (h : documentOf env height block pendingTarget data = some d) :
    IsDocumentOf env height pendingTarget data d := by
  unfold documentOf epochSubmissionDocuments validateSubmissions at h
  by_cases hvalid : (validateEpochSubmission env data.submission height pendingTarget).valid = true
  · cases hwallet : submissionWallet env block data.submission.mldsaPublicKey with
    | none => simp [hvalid, hwallet] at h
    | some walletInfo =>
      simp only [List.filterMap_cons, List.filterMap_nil, hvalid, if_true, hwallet, Option.map_some,
        List.head?_cons, Option.some.injEq] at h
      subst h
      exact ⟨hvalid, rfl, rfl, rfl, rfl, rfl, rfl, rfl, rfl, rfl⟩
  · simp [hvalid] at h

theorem getPendingEpochTarget_eq {headers : List Bytes} {currentEpoch : ℕ}
    (h : getPendingEpochTarget env headers currentEpoch = .ok pendingTarget) :
    pendingTarget.targetHash = env.hashBuffer pendingTarget.checksumRoot ∧
      (0 < currentEpoch → headers[currentEpoch * BLOCKS_PER_EPOCH - 1]? =
        some pendingTarget.checksumRoot) := by
  unfold getPendingEpochTarget getEpochData at h
  split_ifs at h with hzero
  · cases h
    exact ⟨rfl, fun hpos => absurd hzero (by omega)⟩
  · dsimp only at h
    split at h
    · cases h
    · rename_i checksumRoot hroot
      cases h
      exact ⟨rfl, fun _ => hroot⟩

section Process

variable {headers : List Bytes} {height : ℕ} {block : SubmissionBlock}
  {stored : Collection StoredSubmission} {submissions : List StoredSubmission}

theorem processSubmissions_eq_ok
    (h : processSubmissions env headers height block stored = .ok submissions) :
    ∃ pendingTarget,
      getPendingEpochTarget env headers (height / BLOCKS_PER_EPOCH) = .ok pendingTarget ∧
      submissions = (filterExistingSubmissions stored (height / BLOCKS_PER_EPOCH)
        block.existenceFails (extractUniqueSubmissions block.transactions)).filterMap
          (documentOf env height block pendingTarget) := by
  unfold processSubmissions at h
  obtain ⟨pendingTarget, htarget, h⟩ := exceptBind_eq_ok h
  have heq := Except.ok.inj h
  rw [documents_eq_filterMap] at heq
  exact ⟨pendingTarget, htarget, heq.symm⟩

variable {d : StoredSubmission}

theorem mem_processSubmissions
    (h : processSubmissions env headers height block stored = .ok submissions)
    (hd : d ∈ submissions) : ∃ pendingTarget data,
      getPendingEpochTarget env headers (height / BLOCKS_PER_EPOCH) = .ok pendingTarget ∧
      data ∈ extractUniqueSubmissions block.transactions ∧
      IsDocumentOf env height pendingTarget data d := by
  obtain ⟨pendingTarget, htarget, rfl⟩ := processSubmissions_eq_ok h
  obtain ⟨data, hdata, hdocument⟩ := List.mem_filterMap.mp hd
  refine ⟨pendingTarget, data, htarget, ?_, isDocumentOf hdocument⟩
  unfold filterExistingSubmissions at hdata
  split_ifs at hdata
  · exact absurd hdata List.not_mem_nil
  · exact (List.mem_filter.mp hdata).1

theorem accepted_of_mem_processSubmissions
    (h : processSubmissions env headers height block stored = .ok submissions)
    (hd : d ∈ submissions) : Accepted env d ∧ d.confirmedAt = height := by
  obtain ⟨pendingTarget, data, htarget, -, hdocument⟩ := mem_processSubmissions h hd
  obtain ⟨hepoch, hhash, hbits, hdifficulty, hsalt⟩ :=
    validateEpochSubmission_valid hdocument.valid
  refine ⟨⟨?_, ?_, ?_, hdocument.submissionHash, ?_, ?_, ?_, ?_⟩, hdocument.confirmedAt⟩
  · rw [hdocument.epochNumber]
    exact hepoch
  · rw [hdocument.epochNumber, hdocument.confirmedAt]
  · rw [hdocument.solution, hdocument.submissionHash]
  · rw [hdocument.validated, hdocument.targetRoot, hdocument.mldsaPublicKey, hdocument.salt]
    exact hhash
  · rw [hdocument.validated, hdocument.targetRoot, ← (getPendingEpochTarget_eq htarget).1]
    exact hbits
  · rw [hdocument.validated]
    exact hdifficulty
  · rw [hdocument.salt]
    exact hsalt

theorem targetRoot_of_mem_processSubmissions
    (h : processSubmissions env headers height block stored = .ok submissions)
    (hd : d ∈ submissions) :
    headers[d.epochNumber * BLOCKS_PER_EPOCH - 1]? = some d.targetRoot := by
  obtain ⟨pendingTarget, data, htarget, -, hdocument⟩ := mem_processSubmissions h hd
  have hepoch := (validateEpochSubmission_valid hdocument.valid).1
  rw [hdocument.epochNumber, hdocument.targetRoot]
  exact (getPendingEpochTarget_eq htarget).2 hepoch

/-- A failed existence query has nothing to drop. -/
def ExistenceAnswered (block : SubmissionBlock) : Prop :=
  block.existenceFails = true → extractUniqueSubmissions block.transactions = []

theorem processSubmissions_eq_filter (hanswered : ExistenceAnswered block)
    (h : processSubmissions env headers height block stored = .ok submissions) :
    ∃ all, processSubmissions env headers height block [] = .ok all ∧
      submissions = all.filter fun d => !(stored.map StoredSubmission.key).contains d.key := by
  obtain ⟨pendingTarget, htarget, rfl⟩ := processSubmissions_eq_ok h
  refine ⟨(extractUniqueSubmissions block.transactions).filterMap
    (documentOf env height block pendingTarget), ?_, ?_⟩
  · unfold processSubmissions
    dsimp only
    rw [htarget]
    show Except.ok _ = _
    rw [documents_eq_filterMap]
    have hfilter : filterExistingSubmissions [] (height / BLOCKS_PER_EPOCH) block.existenceFails
        (extractUniqueSubmissions block.transactions) =
          extractUniqueSubmissions block.transactions := by
      unfold filterExistingSubmissions
      split_ifs with hfails
      · exact (hanswered hfails).symm
      · exact List.filter_eq_self.mpr fun _ _ => rfl
    rw [hfilter]
  · have hstored : filterExistingSubmissions stored (height / BLOCKS_PER_EPOCH)
        block.existenceFails (extractUniqueSubmissions block.transactions) =
          (extractUniqueSubmissions block.transactions).filter fun data =>
            !(stored.map StoredSubmission.key).contains
              (height / BLOCKS_PER_EPOCH, data.submission.mldsaPublicKey, data.submission.salt) := by
      unfold filterExistingSubmissions
      split_ifs with hfails
      · rw [hanswered hfails]
        rfl
      · refine List.filter_congr fun data _ => ?_
        unfold submissionExists
        rw [Bool.not_inj_iff, Bool.eq_iff_iff, List.any_eq_true, List.contains_iff_mem, List.mem_map]
        simp only [decide_eq_true_eq]
    -- the query asks for the keys that the documents will have
    rw [hstored, List.filterMap_filter, List.filter_filterMap]
    refine List.filterMap_congr fun data _ => ?_
    cases hdocument : documentOf env height block pendingTarget data with
    | none => simp
    | some d =>
      have hd := isDocumentOf hdocument
      have hkey : d.key =
          (height / BLOCKS_PER_EPOCH, data.submission.mldsaPublicKey, data.submission.salt) := by
        unfold StoredSubmission.key
        rw [hd.epochNumber, hd.mldsaPublicKey, hd.salt]
      rw [Option.filter_some, hkey]

end Process

variable {submissions : List StoredSubmission}

theorem nextSubmissions_eq_some {node : SubmissionNode} {block : SubmissionBlock}
    (h : SubmissionNode.nextSubmissions env node block = some submissions) :
    node.interrupted = false ∧ SubmissionNode.extendsChain node.chain block = true ∧
      processSubmissions env (node.chain.map SubmissionBlock.checksumRoot) node.chain.length block
        node.submissions = .ok submissions := by
  unfold SubmissionNode.nextSubmissions SubmissionNode.headers SubmissionNode.height at h
  split_ifs at h with hinterrupted hextends
  refine ⟨Bool.eq_false_iff.mpr hinterrupted, by simpa using hextends, ?_⟩
  cases hprocess : processSubmissions env (node.chain.map SubmissionBlock.checksumRoot)
      node.chain.length block node.submissions with
  | error e =>
    rw [hprocess] at h
    cases h
  | ok l =>
    rw [hprocess] at h
    exact congrArg Except.ok (Option.some.inj h)

/-! ### The saves -/

variable {stored : Collection StoredSubmission}

theorem mem_saveSubmission {submission d : StoredSubmission}
    (h : d ∈ saveSubmission submission stored) : d = submission ∨ d ∈ stored := by
  have hall : ∀ d ∈ saveSubmission submission stored, d = submission ∨ d ∈ stored :=
    Collection.forall_mem_upsertOne (fun d hd => Or.inr hd) (fun _ _ _ => Or.inl rfl) (Or.inl rfl)
  exact hall d h

theorem mem_saveSubmissions {d : StoredSubmission} (h : d ∈ saveSubmissions submissions stored) :
    d ∈ submissions ∨ d ∈ stored := by
  unfold saveSubmissions at h
  induction submissions generalizing stored with
  | nil => exact Or.inr h
  | cons submission submissions ih =>
    rw [List.foldl_cons] at h
    rcases ih h with hmem | hmem
    · exact Or.inl (List.mem_cons_of_mem _ hmem)
    · rcases mem_saveSubmission hmem with rfl | hold
      · exact Or.inl List.mem_cons_self
      · exact Or.inr hold

theorem nodup_saveSubmission (submission : StoredSubmission)
    (h : (stored.map (·.submissionTxHash)).Nodup) :
    ((saveSubmission submission stored).map (·.submissionTxHash)).Nodup := by
  have hkeys : (saveSubmission submission stored).map (·.submissionTxHash) =
      if submission.submissionTxHash ∈ stored.map (·.submissionTxHash)
      then stored.map (·.submissionTxHash)
      else stored.map (·.submissionTxHash) ++ [submission.submissionTxHash] := by
    clear h
    unfold saveSubmission
    induction stored with
    | nil => rfl
    | cons d stored ih =>
      rw [Collection.upsertOne]
      by_cases hd : d.submissionTxHash = submission.submissionTxHash
      · simp [hd]
      · have hd' : submission.submissionTxHash ≠ d.submissionTxHash := fun heq => hd heq.symm
        simp only [hd, decide_false, Bool.false_eq_true, if_false, List.map_cons, ih, List.mem_cons,
          hd', false_or]
        split_ifs <;> rfl
  rw [hkeys]
  split_ifs with hmem
  · exact h
  · rw [List.nodup_append]
    refine ⟨h, List.nodup_singleton _, fun a ha b hb hab => ?_⟩
    rw [List.mem_singleton] at hb
    exact hmem (hb ▸ hab ▸ ha)

theorem nodup_saveSubmissions (submissions : List StoredSubmission)
    (h : (stored.map (·.submissionTxHash)).Nodup) :
    ((saveSubmissions submissions stored).map (·.submissionTxHash)).Nodup := by
  unfold saveSubmissions
  induction submissions generalizing stored with
  | nil => exact h
  | cons submission submissions ih => exact ih (nodup_saveSubmission submission h)

theorem saveSubmissions_eq_append (h : ((stored ++ submissions).map (·.submissionTxHash)).Nodup) :
    saveSubmissions submissions stored = stored ++ submissions := by
  unfold saveSubmissions
  induction submissions generalizing stored with
  | nil => exact (List.append_nil stored).symm
  | cons submission submissions ih =>
    rw [List.append_cons] at h
    have hnew : ∀ d ∈ stored,
        decide (d.submissionTxHash = submission.submissionTxHash) = false := by
      intro d hd
      rw [List.map_append, List.map_append, List.append_assoc, List.nodup_append] at h
      have hne := h.2.2 d.submissionTxHash (List.mem_map_of_mem hd) submission.submissionTxHash
        (by simp)
      exact decide_eq_false hne
    have hsave : saveSubmission submission stored = stored ++ [submission] :=
      Collection.upsertOne_of_forall_not hnew
    rw [List.foldl_cons, hsave, ih h]
    exact List.append_assoc _ _ _

/-! ### The deletion -/

theorem deleteSubmissionsFromBlock_append (b : ℕ) (l l' : Collection StoredSubmission) :
    deleteSubmissionsFromBlock b (l ++ l') =
      deleteSubmissionsFromBlock b l ++ deleteSubmissionsFromBlock b l' := List.filter_append l l'

theorem deleteSubmissionsFromBlock_eq_nil {b : ℕ} {l : Collection StoredSubmission}
    (h : ∀ d ∈ l, b ≤ d.confirmedAt) : deleteSubmissionsFromBlock b l = [] := by
  refine List.filter_eq_nil_iff.mpr fun d hd => ?_
  have hle := h d hd
  simp [hle]

theorem deleteSubmissionsFromBlock_eq_self {b : ℕ} {l : Collection StoredSubmission}
    (h : ∀ d ∈ l, d.confirmedAt < b) : deleteSubmissionsFromBlock b l = l := by
  refine List.filter_eq_self.mpr fun d hd => ?_
  have hlt := h d hd
  simp [hlt]

/-! ### A small node -/

/-- Every key is known, and a digest is the start of what it digests. -/
def sampleEnvironment : SubmissionEnvironment where
  hashBuffer data := (data ++ List.replicate 20 0).take 20
  GENESIS_PROPOSER_PUBLIC_KEY := ⟨List.replicate 32 9, List.replicate 33 9⟩
  earlyMining := none
  isDead _ := false
  allowUnsafeSignatures := true

def sampleBlock (root : UInt8) (transactions : List SubmissionTransaction) : SubmissionBlock where
  transactions := transactions
  checksumRoot := List.replicate 32 root
  getMLDSAPublicKey mldsaPublicKey :=
    some ⟨.LEVEL2, mldsaPublicKey, [], [], none, some 1, none⟩
  existenceFails := false

/-- A transaction that submits the key as its own salt, which solves every target. -/
def sampleTransaction (hash key : UInt8) : SubmissionTransaction where
  transactionId := [hash]
  hash := [hash]
  submission := some ⟨List.replicate 32 key, List.replicate 32 key, none⟩

end OpnetNode.BlockSubmissions
