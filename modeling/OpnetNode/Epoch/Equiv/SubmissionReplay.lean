import OpnetNode.Epoch.Equiv.BlockSubmissions

/-!
# One submission for each epoch, key and salt

`Processed` is what a chain of blocks leaves in the collection.  In a run in which no write of a
cancelled task lands and no existence query fails on a block with submissions (`Undisturbed`):

* no two documents have the same epoch, key and salt;
* the one that is kept is the first: the first transaction of its block that submits them, and no
  block before has one that would be saved;
* a revert followed by the same blocks gives the same collection.

`deduplicated_of_runFrom` puts these together.
-/

namespace OpnetNode.BlockSubmissions

open EpochManager EpochValidator SharedInteractionParameters SubmissionNode

variable {env : SubmissionEnvironment}

/-! ### The first submission of a block -/

/-- What a transaction submits under a key. -/
def submissionAt (k : Bytes × Bytes) (transaction : SubmissionTransaction) :
    Option EpochSubmission :=
  transaction.submission.bind fun submission =>
    if generateSubmissionKey submission = k then
      some ⟨submission, transaction.transactionId, transaction.hash⟩
    else none

theorem get_foldl_addSubmission (transactions : List SubmissionTransaction) (k : Bytes × Bytes) :
    (transactions.foldl addSubmission JsMap.empty).get k =
      transactions.findSome? (submissionAt k) := by
  induction transactions using List.reverseRecOn with
  | nil => rfl
  | append_singleton transactions transaction ih =>
    rw [List.foldl_concat, List.findSome?_append, ← ih]
    generalize transactions.foldl addSubmission JsMap.empty = m
    unfold addSubmission submissionAt
    cases hsubmission : transaction.submission with
    | none => simp [hsubmission]
    | some submission =>
      simp only [hsubmission, List.findSome?_cons, List.findSome?_nil, Option.bind_some]
      by_cases hk : generateSubmissionKey submission = k
      · subst hk
        cases hget : m.get (generateSubmissionKey submission) with
        | none | some => simp [JsMap.has, hget]
      · have hk' : k ≠ generateSubmissionKey submission := fun heq => hk heq.symm
        split_ifs
        · simp
        · rw [JsMap.get_set_of_ne m _ hk']
          simp

theorem key_of_mem_entries {transactions : List SubmissionTransaction}
    {entry : (Bytes × Bytes) × EpochSubmission}
    (h : entry ∈ (transactions.foldl addSubmission JsMap.empty).entries) :
    entry.1 = generateSubmissionKey entry.2.submission := by
  obtain ⟨k, data⟩ := entry
  have hget := (JsMap.mem_entries_iff _).mp h
  rw [get_foldl_addSubmission] at hget
  obtain ⟨transaction, -, hat⟩ := List.exists_of_findSome?_eq_some hget
  obtain ⟨submission, -, hif⟩ := Option.bind_eq_some_iff.mp hat
  split_ifs at hif with hk
  cases hif
  exact hk.symm

theorem first_of_mem_extractUniqueSubmissions {transactions : List SubmissionTransaction}
    {data : EpochSubmission} (h : data ∈ extractUniqueSubmissions transactions) :
    ∃ before transaction after, transactions = before ++ transaction :: after ∧
      transaction.submission = some data.submission ∧ transaction.hash = data.txHash ∧
      ∀ earlier ∈ before, earlier.submission.map generateSubmissionKey ≠
        some (generateSubmissionKey data.submission) := by
  obtain ⟨⟨k, data⟩, hentry, rfl⟩ := List.mem_map.mp h
  have hkey : k = generateSubmissionKey data.submission := key_of_mem_entries hentry
  subst hkey
  have hget := (JsMap.mem_entries_iff _).mp hentry
  rw [get_foldl_addSubmission, List.findSome?_eq_some_iff] at hget
  obtain ⟨before, transaction, after, hsplit, hat, hbefore⟩ := hget
  obtain ⟨submission, hsubmission, hif⟩ := Option.bind_eq_some_iff.mp hat
  split_ifs at hif
  have hdata := Option.some.inj hif
  refine ⟨before, transaction, after, hsplit, ?_, ?_, fun earlier hmem heq => ?_⟩
  · rw [hsubmission, ← hdata]
  · rw [← hdata]
  · obtain ⟨other, hother, hkey⟩ := Option.map_eq_some_iff.mp heq
    have hnone := hbefore earlier hmem
    simp [submissionAt, hother, hkey] at hnone

theorem keys_nodup_extractUniqueSubmissions (transactions : List SubmissionTransaction) :
    ((extractUniqueSubmissions transactions).map fun data =>
      generateSubmissionKey data.submission).Nodup := by
  unfold extractUniqueSubmissions JsMap.vals
  rw [List.map_map]
  have hkeys : (transactions.foldl addSubmission JsMap.empty).entries.map
      ((fun data => generateSubmissionKey data.submission) ∘ Prod.snd) =
        (transactions.foldl addSubmission JsMap.empty).entries.map Prod.fst :=
    List.map_congr_left fun entry hentry => (key_of_mem_entries hentry).symm
  rw [hkeys]
  exact JsMap.keys_nodup _

theorem hashes_extractUniqueSubmissions (transactions : List SubmissionTransaction) :
    ((extractUniqueSubmissions transactions).map EpochSubmission.txHash).Sublist
      (transactions.map SubmissionTransaction.hash) := by
  unfold extractUniqueSubmissions
  induction transactions using List.reverseRecOn with
  | nil => exact List.Sublist.refl _
  | append_singleton transactions transaction ih =>
    rw [List.foldl_concat, List.map_append]
    generalize transactions.foldl addSubmission JsMap.empty = m at ih
    unfold addSubmission
    cases transaction.submission with
    | none => exact ih.trans (List.sublist_append_left _ _)
    | some submission =>
      by_cases hhas : m.has (generateSubmissionKey submission) = true
      · simp only [hhas, if_true]
        exact ih.trans (List.sublist_append_left _ _)
      · simp only [hhas, Bool.false_eq_true, if_false]
        rw [JsMap.vals_set_of_not_has _ (Bool.eq_false_iff.mpr hhas), List.map_append]
        exact ih.append (List.Sublist.refl _)

/-! ### The submissions of a block -/

section Block

variable {headers : List Bytes} {height : ℕ} {block : SubmissionBlock}
  {stored : Collection StoredSubmission} {submissions : List StoredSubmission}

theorem map_filterMap_sublist {α β γ : Type} {f : α → Option β} (g : β → γ) (k : α → γ)
    (h : ∀ a b, f a = some b → g b = k a) (l : List α) :
    ((l.filterMap f).map g).Sublist (l.map k) := by
  induction l with
  | nil => exact List.Sublist.refl _
  | cons a l ih =>
    cases hfa : f a with
    | none =>
      rw [List.filterMap_cons_none hfa]
      exact ih.cons _
    | some b =>
      rw [List.filterMap_cons_some hfa, List.map_cons, List.map_cons, h a b hfa]
      exact ih.cons_cons _

theorem filterExistingSubmissions_sublist (stored : Collection StoredSubmission)
    (currentEpoch : ℕ) (existenceFails : Bool) (l : List EpochSubmission) :
    (filterExistingSubmissions stored currentEpoch existenceFails l).Sublist l := by
  unfold filterExistingSubmissions
  split_ifs
  · exact List.nil_sublist l
  · exact List.filter_sublist

theorem hashes_processSubmissions
    (h : processSubmissions env headers height block stored = .ok submissions) :
    (submissions.map (·.submissionTxHash)).Sublist
      (block.transactions.map SubmissionTransaction.hash) := by
  obtain ⟨pendingTarget, -, rfl⟩ := processSubmissions_eq_ok h
  have hhash : ∀ data d, documentOf env height block pendingTarget data = some d →
      d.submissionTxHash = data.txHash := fun data d hd => (isDocumentOf hd).submissionTxHash
  exact (map_filterMap_sublist (fun d : StoredSubmission => d.submissionTxHash)
    EpochSubmission.txHash hhash _).trans (((filterExistingSubmissions_sublist _ _ _ _).map _).trans
    (hashes_extractUniqueSubmissions block.transactions))

theorem keys_nodup_processSubmissions
    (h : processSubmissions env headers height block stored = .ok submissions) :
    (submissions.map StoredSubmission.key).Nodup := by
  obtain ⟨pendingTarget, -, rfl⟩ := processSubmissions_eq_ok h
  have hkey : ∀ data d, documentOf env height block pendingTarget data = some d →
      d.key = (height / BLOCKS_PER_EPOCH, (generateSubmissionKey data.submission).2,
        (generateSubmissionKey data.submission).1) := by
    intro data d hd
    have hdocument := isDocumentOf hd
    unfold StoredSubmission.key generateSubmissionKey
    rw [hdocument.epochNumber, hdocument.mldsaPublicKey, hdocument.salt]
  refine List.Nodup.sublist (map_filterMap_sublist StoredSubmission.key _ hkey _)
    (List.Nodup.sublist ((filterExistingSubmissions_sublist _ _ _ _).map _) ?_)
  have hkeys := keys_nodup_extractUniqueSubmissions block.transactions
  have hinjective : Function.Injective fun k : Bytes × Bytes =>
      (height / BLOCKS_PER_EPOCH, k.2, k.1) := by
    intro k k' heq
    simp only [Prod.mk.injEq, true_and] at heq
    exact Prod.ext heq.2 heq.1
  have hmapped := hkeys.map hinjective
  rwa [List.map_map] at hmapped

theorem confirmedAt_of_mem_processSubmissions
    (h : processSubmissions env headers height block stored = .ok submissions)
    {d : StoredSubmission} (hd : d ∈ submissions) : d.confirmedAt = height :=
  (accepted_of_mem_processSubmissions h hd).2

theorem keys_nodup_append (hanswered : ExistenceAnswered block)
    (h : processSubmissions env headers height block stored = .ok submissions)
    (hstored : (stored.map StoredSubmission.key).Nodup) {chosen : List StoredSubmission}
    (hchosen : chosen.Sublist submissions) :
    ((stored ++ chosen).map StoredSubmission.key).Nodup := by
  rw [List.map_append, List.nodup_append]
  refine ⟨hstored, (keys_nodup_processSubmissions h).sublist (hchosen.map _), ?_⟩
  intro k hk k' hk' heq
  obtain ⟨d, hd, rfl⟩ := List.mem_map.mp hk'
  obtain ⟨all, -, rfl⟩ := processSubmissions_eq_filter hanswered h
  have hnew := (List.mem_filter.mp (hchosen.subset hd)).2
  rw [Bool.not_eq_true', List.contains_eq_mem, decide_eq_false_iff_not] at hnew
  exact hnew (heq ▸ hk)

end Block

/-! ### What a chain of blocks leaves -/

/-- What a chain of blocks leaves in the collection. -/
inductive Processed (env : SubmissionEnvironment) :
    List SubmissionBlock → Collection StoredSubmission → Prop
  | nil : Processed env [] []
  | concat {chain : List SubmissionBlock} {stored : Collection StoredSubmission}
      {block : SubmissionBlock} {submissions : List StoredSubmission} :
      Processed env chain stored → extendsChain chain block = true → ExistenceAnswered block →
      processSubmissions env (chain.map SubmissionBlock.checksumRoot) chain.length block stored =
        .ok submissions →
      Processed env (chain ++ [block]) (stored ++ submissions)

/-- What a block of a chain would save if nothing was stored. -/
def acceptedAt (env : SubmissionEnvironment) (chain : List SubmissionBlock) (height : ℕ) :
    List StoredSubmission :=
  chain[height]?.elim [] fun block =>
    (processSubmissions env ((chain.take height).map SubmissionBlock.checksumRoot) height block
      []).toOption.getD []

/-- A document of the first transaction of its block that submits its key and salt, whose epoch, key
and salt no block before has. -/
structure IsFirst (env : SubmissionEnvironment) (chain : List SubmissionBlock)
    (d : StoredSubmission) : Prop where
  inBlock : ∃ block before transaction after, chain[d.confirmedAt]? = some block ∧
    block.transactions = before ++ transaction :: after ∧
    transaction.hash = d.submissionTxHash ∧
    transaction.submission.map generateSubmissionKey =
      some (d.epochProposed.salt, d.epochProposed.mldsaPublicKey) ∧
    ∀ earlier ∈ before, earlier.submission.map generateSubmissionKey ≠
      some (d.epochProposed.salt, d.epochProposed.mldsaPublicKey)
  inChain : ∀ height < d.confirmedAt, ∀ d' ∈ acceptedAt env chain height, d'.key ≠ d.key

theorem acceptedAt_concat_of_lt {chain : List SubmissionBlock} (block : SubmissionBlock) {height : ℕ}
    (h : height < chain.length) :
    acceptedAt env (chain ++ [block]) height = acceptedAt env chain height := by
  unfold acceptedAt
  rw [List.getElem?_append_left h, List.take_append_of_le_length h.le]

section Chain

variable {chain : List SubmissionBlock} {stored : Collection StoredSubmission}

theorem Processed.confirmedAt_lt (h : Processed env chain stored) :
    ∀ d ∈ stored, d.confirmedAt < chain.length := by
  induction h with
  | nil => exact fun d hd => absurd hd List.not_mem_nil
  | concat _ _ _ hprocess ih =>
    intro d hd
    rw [List.length_append, List.length_singleton]
    rcases List.mem_append.mp hd with hold | hnew
    · have hlt := ih d hold
      omega
    · have hheight := confirmedAt_of_mem_processSubmissions hprocess hnew
      omega

theorem Processed.hashes (h : Processed env chain stored) :
    (stored.map (·.submissionTxHash)).Sublist (transactionHashes chain) := by
  induction h with
  | nil => exact List.Sublist.refl _
  | concat _ _ _ hprocess ih =>
    unfold transactionHashes at ih ⊢
    rw [List.map_append, List.flatMap_append, List.flatMap_singleton]
    exact ih.append (hashes_processSubmissions hprocess)

theorem Processed.keys_nodup (h : Processed env chain stored) :
    (stored.map StoredSubmission.key).Nodup := by
  induction h with
  | nil => exact List.nodup_nil
  | concat _ _ hanswered hprocess ih =>
    exact keys_nodup_append hanswered hprocess ih (List.Sublist.refl _)

variable {block : SubmissionBlock} {submissions : List StoredSubmission}

theorem Processed.saveSubmissions_eq (h : Processed env chain stored)
    {chosen : List StoredSubmission} (hextends : extendsChain chain block = true)
    (hprocess : processSubmissions env (chain.map SubmissionBlock.checksumRoot) chain.length block
      stored = .ok submissions) (hchosen : chosen.Sublist submissions) :
    saveSubmissions chosen stored = stored ++ chosen := by
  have hnodup : (transactionHashes (chain ++ [block])).Nodup := of_decide_eq_true hextends
  apply saveSubmissions_eq_append
  refine hnodup.sublist ?_
  unfold transactionHashes
  rw [List.map_append, List.flatMap_append, List.flatMap_singleton]
  exact h.hashes.append ((hchosen.map _).trans (hashes_processSubmissions hprocess))

/-- Whatever a block would save is there, under its epoch, key and salt. -/
theorem Processed.kept (h : Processed env chain stored) {height : ℕ} {d' : StoredSubmission}
    (hd' : d' ∈ acceptedAt env chain height) : ∃ d ∈ stored, d.key = d'.key := by
  induction h with
  | nil => exact absurd hd' List.not_mem_nil
  | @concat chain stored block submissions hchain _ hanswered hprocess ih =>
    rcases Nat.lt_trichotomy height chain.length with hlt | rfl | hgt
    · rw [acceptedAt_concat_of_lt block hlt] at hd'
      obtain ⟨d, hd, hkey⟩ := ih hd'
      exact ⟨d, List.mem_append_left _ hd, hkey⟩
    · obtain ⟨all, hall, rfl⟩ := processSubmissions_eq_filter hanswered hprocess
      have hmem : d' ∈ all := by
        unfold acceptedAt at hd'
        rw [List.getElem?_concat_length, List.take_left] at hd'
        simpa [hall, Except.toOption] using hd'
      by_cases hstored : d'.key ∈ stored.map StoredSubmission.key
      · obtain ⟨d, hd, hkey⟩ := List.mem_map.mp hstored
        exact ⟨d, List.mem_append_left _ hd, hkey⟩
      · refine ⟨d', List.mem_append_right _ (List.mem_filter.mpr ⟨hmem, ?_⟩), rfl⟩
        simpa using hstored
    · unfold acceptedAt at hd'
      rw [List.getElem?_eq_none (by simp; omega)] at hd'
      exact absurd hd' List.not_mem_nil

/-- Whatever is there is the first of its epoch, key and salt. -/
theorem Processed.isFirst (h : Processed env chain stored) : ∀ d ∈ stored, IsFirst env chain d := by
  induction h with
  | nil => exact fun d hd => absurd hd List.not_mem_nil
  | @concat chain stored block submissions hchain hextends hanswered hprocess ih =>
    intro d hd
    rcases List.mem_append.mp hd with hold | hnew
    · have hlt := hchain.confirmedAt_lt d hold
      obtain ⟨⟨first, before, transaction, after, hblock, hrest⟩, hinChain⟩ := ih d hold
      constructor
      · refine ⟨first, before, transaction, after, ?_, hrest⟩
        rw [List.getElem?_append_left hlt, hblock]
      · intro height hheight d' hd'
        rw [acceptedAt_concat_of_lt block (by omega)] at hd'
        exact hinChain height hheight d' hd'
    · have hheight := confirmedAt_of_mem_processSubmissions hprocess hnew
      obtain ⟨pendingTarget, data, -, hdata, hdocument⟩ := mem_processSubmissions hprocess hnew
      obtain ⟨before, transaction, after, hsplit, hsubmission, hhash, hbefore⟩ :=
        first_of_mem_extractUniqueSubmissions hdata
      have hkey : generateSubmissionKey data.submission =
          (d.epochProposed.salt, d.epochProposed.mldsaPublicKey) := by
        unfold generateSubmissionKey
        rw [hdocument.salt, hdocument.mldsaPublicKey]
      constructor
      · refine ⟨block, before, transaction, after, ?_, hsplit, ?_, ?_, ?_⟩
        · rw [hheight, List.getElem?_concat_length]
        · rw [hhash, hdocument.submissionTxHash]
        · rw [hsubmission, Option.map_some, hkey]
        · rw [← hkey]
          exact hbefore
      · intro height hlt d' hd' heq
        rw [hheight] at hlt
        rw [acceptedAt_concat_of_lt block hlt] at hd'
        -- what an earlier block would save is stored, and has filtered this one out
        obtain ⟨e, he, hkeys⟩ := hchain.kept hd'
        have hstored : d.key ∈ stored.map StoredSubmission.key := by
          rw [← heq, ← hkeys]
          exact List.mem_map_of_mem he
        obtain ⟨all, -, rfl⟩ := processSubmissions_eq_filter hanswered hprocess
        have hnot := (List.mem_filter.mp hnew).2
        simp only [Bool.not_eq_true', List.contains_eq_mem, decide_eq_false_iff_not] at hnot
        exact hnot hstored

/-! ### Reverts and replays -/

theorem Processed.delete_concat (hchain : Processed env chain stored)
    (hprocess : processSubmissions env (chain.map SubmissionBlock.checksumRoot) chain.length block
      stored = .ok submissions) (b : ℕ) :
    deleteSubmissionsFromBlock b (stored ++ submissions) =
      if b ≤ chain.length then deleteSubmissionsFromBlock b stored else stored ++ submissions := by
  have hheight : ∀ d ∈ submissions, d.confirmedAt = chain.length := fun d hd =>
    confirmedAt_of_mem_processSubmissions hprocess hd
  rw [deleteSubmissionsFromBlock_append]
  split_ifs with hb
  · have hnew : deleteSubmissionsFromBlock b submissions = [] :=
      deleteSubmissionsFromBlock_eq_nil fun d hd => (hheight d hd).symm ▸ hb
    rw [hnew, List.append_nil]
  · have hlt : chain.length < b := not_le.mp hb
    have hnew : deleteSubmissionsFromBlock b submissions = submissions :=
      deleteSubmissionsFromBlock_eq_self fun d hd => (hheight d hd).symm ▸ hlt
    have hold : deleteSubmissionsFromBlock b stored = stored :=
      deleteSubmissionsFromBlock_eq_self fun d hd => (hchain.confirmedAt_lt d hd).trans hlt
    rw [hold, hnew]

theorem Processed.take (h : Processed env chain stored) (b : ℕ) :
    Processed env (chain.take b) (deleteSubmissionsFromBlock b stored) := by
  induction h with
  | nil =>
    rw [List.take_nil]
    exact .nil
  | @concat chain stored block submissions hchain hextends hanswered hprocess ih =>
    rw [hchain.delete_concat hprocess]
    split_ifs with hb
    · rw [List.take_append_of_le_length hb]
      exact ih
    · rw [List.take_of_length_le (by simp; omega)]
      exact hchain.concat hextends hanswered hprocess

theorem Processed.step_processBlock (h : Processed env chain stored)
    (hextends : extendsChain chain block = true)
    (hprocess : processSubmissions env (chain.map SubmissionBlock.checksumRoot) chain.length block
      stored = .ok submissions) (cancelled : List (ℕ × SubmissionBlock))
    (orphaned : List StoredSubmission) :
    SubmissionNode.step env ⟨chain, stored, false, cancelled, orphaned⟩ (.processBlock block) =
      some ⟨chain ++ [block], stored ++ submissions, false, cancelled, orphaned⟩ := by
  have hnext : nextSubmissions env ⟨chain, stored, false, cancelled, orphaned⟩ block =
      some submissions := by
    unfold nextSubmissions headers height
    rw [hprocess]
    simp [hextends, Except.toOption]
  simp only [SubmissionNode.step]
  rw [hnext, Option.map_some, h.saveSubmissions_eq hextends hprocess (List.Sublist.refl _)]

theorem Processed.replay (h : Processed env chain stored) (b : ℕ)
    (cancelled : List (ℕ × SubmissionBlock)) (orphaned : List StoredSubmission) :
    runFrom (SubmissionNode.step env)
        ⟨chain.take b, deleteSubmissionsFromBlock b stored, false, cancelled, orphaned⟩
        ((chain.drop b).map .processBlock) =
      some ⟨chain, stored, false, cancelled, orphaned⟩ := by
  induction h with
  | nil =>
    rw [List.take_nil, List.drop_nil]
    rfl
  | @concat chain stored block submissions hchain hextends hanswered hprocess ih =>
    rw [hchain.delete_concat hprocess]
    split_ifs with hb
    · rw [List.take_append_of_le_length hb, List.drop_append_of_le_length hb, List.map_append,
        runFrom_append, ih]
      show runFrom (SubmissionNode.step env) _ [.processBlock block] = _
      rw [runFrom_cons, hchain.step_processBlock hextends hprocess]
      rfl
    · rw [List.take_of_length_le (by simp; omega), List.drop_of_length_le (by simp; omega)]
      rfl

end Chain

/-! ### Runs -/

/-- What is asked of the collection. -/
structure Deduplicated (env : SubmissionEnvironment) (node : SubmissionNode) : Prop where
  unique : (node.submissions.map StoredSubmission.key).Nodup
  /-- Unless a block is cut short: what is stored is the first of its epoch, key and salt. -/
  first : node.interrupted = false → ∀ d ∈ node.submissions, IsFirst env node.chain d
  /-- And there is one whenever a block would save one. -/
  kept : node.interrupted = false → ∀ height, ∀ d' ∈ acceptedAt env node.chain height,
    ∃ d ∈ node.submissions, d.key = d'.key
  /-- A revert and the same blocks again give the same collection. -/
  replay : node.interrupted = false → ∀ b ≤ node.height, ∃ reverted replayed,
    node.step env (.revertDataUntilBlock b) = some reverted ∧
    runFrom (SubmissionNode.step env) reverted ((node.chain.drop b).map .processBlock) =
      some replayed ∧
    replayed.submissions = node.submissions

/-- No write of a cancelled task lands, and no existence query fails on a block with submissions. -/
def Undisturbed : SubmissionNode → SubmissionEvent → Prop
  | _, .processBlock block => ExistenceAnswered block
  | _, .interruptBlock block _ => ExistenceAnswered block
  | _, .orphanLanded _ => False
  | _, _ => True

/-- The collection is what the chain leaves, but for the documents of a block that is cut short. -/
structure FollowsChain (env : SubmissionEnvironment) (node : SubmissionNode) : Prop where
  processed : Processed env node.chain (deleteSubmissionsFromBlock node.height node.submissions)
  below : node.interrupted = false → ∀ d ∈ node.submissions, d.confirmedAt < node.height
  unique : (node.submissions.map StoredSubmission.key).Nodup

theorem followsChain_init : FollowsChain env SubmissionNode.init where
  processed := .nil
  below _ _ h := absurd h List.not_mem_nil
  unique := List.nodup_nil

section Run

variable {node node' : SubmissionNode}

theorem FollowsChain.processed_self (h : FollowsChain env node) (hidle : node.interrupted = false) :
    Processed env node.chain node.submissions := by
  have hprocessed := h.processed
  rwa [deleteSubmissionsFromBlock_eq_self (h.below hidle)] at hprocessed

/-- **Step lemma.** -/
theorem followsChain_step {event : SubmissionEvent} (h : FollowsChain env node)
    (hundisturbed : Undisturbed node event) (hstep : node.step env event = some node') :
    FollowsChain env node' := by
  cases event with
  | processBlock block =>
    simp only [SubmissionNode.step, Option.map_eq_some_iff] at hstep
    obtain ⟨submissions, hnext, rfl⟩ := hstep
    obtain ⟨hidle, hextends, hprocess⟩ := nextSubmissions_eq_some hnext
    have hprocessed := h.processed_self hidle
    have hsave := hprocessed.saveSubmissions_eq hextends hprocess (List.Sublist.refl _)
    have hnew := hprocessed.concat hextends hundisturbed hprocess
    rw [hsave]
    refine ⟨?_, fun _ => hnew.confirmedAt_lt, hnew.keys_nodup⟩
    have hall : deleteSubmissionsFromBlock (node.chain ++ [block]).length
        (node.submissions ++ submissions) = node.submissions ++ submissions :=
      deleteSubmissionsFromBlock_eq_self hnew.confirmedAt_lt
    show Processed env _ (deleteSubmissionsFromBlock (node.chain ++ [block]).length _)
    rw [hall]
    exact hnew
  | interruptBlock block landed =>
    simp only [SubmissionNode.step, Option.map_eq_some_iff] at hstep
    obtain ⟨submissions, hnext, rfl⟩ := hstep
    obtain ⟨hidle, hextends, hprocess⟩ := nextSubmissions_eq_some hnext
    have hprocessed := h.processed_self hidle
    have hchosen : (submissions.filter landed).Sublist submissions := List.filter_sublist
    have hsave := hprocessed.saveSubmissions_eq hextends hprocess hchosen
    rw [hsave]
    refine ⟨?_, fun hfalse => absurd hfalse (by simp),
      keys_nodup_append hundisturbed hprocess h.unique hchosen⟩
    -- the documents of the block that is cut short are those at its height
    have hnone : deleteSubmissionsFromBlock node.height (submissions.filter landed) = [] :=
      deleteSubmissionsFromBlock_eq_nil fun d hd =>
        (confirmedAt_of_mem_processSubmissions hprocess (hchosen.subset hd)).ge
    show Processed env node.chain (deleteSubmissionsFromBlock node.height _)
    rw [deleteSubmissionsFromBlock_append, hnone, List.append_nil]
    exact h.processed
  | cancelTask block =>
    simp only [SubmissionNode.step] at hstep
    split_ifs at hstep
    cases hstep
    exact ⟨h.processed, fun hfalse => absurd hfalse (by simp), h.unique⟩
  | cancelledReads i =>
    simp only [SubmissionNode.step, Option.map_eq_some_iff] at hstep
    obtain ⟨task, -, rfl⟩ := hstep
    exact ⟨h.processed, h.below, h.unique⟩
  | revertDataUntilBlock b =>
    simp only [SubmissionNode.step] at hstep
    split_ifs at hstep with hb
    cases hstep
    have hheight : (node.chain.take b).length = b := by
      rw [List.length_take]
      exact Nat.min_eq_left hb
    have hbelow : ∀ d ∈ deleteSubmissionsFromBlock b node.submissions, d.confirmedAt < b := by
      intro d hd
      have hkept := (List.mem_filter.mp hd).2
      simpa using hkept
    have htwice : deleteSubmissionsFromBlock b
        (deleteSubmissionsFromBlock node.height node.submissions) =
          deleteSubmissionsFromBlock b node.submissions := by
      unfold deleteSubmissionsFromBlock
      rw [Collection.deleteMany_deleteMany]
      unfold Collection.deleteMany
      refine List.filter_congr fun d _ => ?_
      by_cases hd : node.height ≤ d.confirmedAt
      · have hd' : b ≤ d.confirmedAt := hb.trans hd
        simp [hd, hd']
      · simp [hd]
    have hprocessed := h.processed.take b
    rw [htwice] at hprocessed
    refine ⟨?_, fun _ => ?_, h.unique.sublist (List.filter_sublist.map _)⟩
    · show Processed env _ (deleteSubmissionsFromBlock (node.chain.take b).length _)
      rw [hheight, deleteSubmissionsFromBlock_eq_self hbelow]
      exact hprocessed
    · show ∀ d ∈ deleteSubmissionsFromBlock b node.submissions,
        d.confirmedAt < (node.chain.take b).length
      rw [hheight]
      exact hbelow
  | orphanLanded i => exact hundisturbed.elim

theorem FollowsChain.deduplicated (h : FollowsChain env node) : Deduplicated env node := by
  refine ⟨h.unique, fun hidle => (h.processed_self hidle).isFirst,
    fun hidle height d' hd' => (h.processed_self hidle).kept hd', fun hidle b hb => ?_⟩
  refine ⟨⟨node.chain.take b, deleteSubmissionsFromBlock b node.submissions, false, node.cancelled,
    node.orphaned⟩, ⟨node.chain, node.submissions, false, node.cancelled, node.orphaned⟩, ?_, ?_,
    rfl⟩
  · simp only [SubmissionNode.step]
    exact if_pos hb
  · exact (h.processed_self hidle).replay b node.cancelled node.orphaned

end Run

/-- **Run.** One submission is stored for each epoch, key and salt, the first one, and a replay stores
the same. -/
theorem deduplicated_of_runFrom (env : SubmissionEnvironment) (events : List SubmissionEvent)
    (node : SubmissionNode)
    (hmeets : Meets (SubmissionNode.step env) Undisturbed SubmissionNode.init events)
    (hrun : runFrom (SubmissionNode.step env) SubmissionNode.init events = some node) :
    Deduplicated env node := by
  have hinv := invariant_runFrom (fun _ _ _ h hundisturbed hstep =>
    followsChain_step h hundisturbed hstep) events SubmissionNode.init node followsChain_init hmeets
    hrun
  exact hinv.deduplicated

/-- A submission is made twice in a block and once more in the next. -/
def duplicateRun : List SubmissionEvent :=
  List.replicate 5 (.processBlock (sampleBlock 1 [])) ++
    [.processBlock (sampleBlock 1 [sampleTransaction 1 3, sampleTransaction 2 3]),
      .processBlock (sampleBlock 1 [sampleTransaction 3 3, sampleTransaction 4 7])]

theorem deduplicated_duplicate :
    ∃ node, runFrom (SubmissionNode.step sampleEnvironment) SubmissionNode.init duplicateRun =
        some node ∧
      Deduplicated sampleEnvironment node ∧
      node.submissions.map (·.submissionTxHash) = [[1], [4]] := by
  have hfacts : (runFrom (SubmissionNode.step sampleEnvironment) SubmissionNode.init
      duplicateRun).map (fun node => node.submissions.map (·.submissionTxHash)) =
        some [[1], [4]] := by
    decide +kernel
  obtain ⟨node, hrun, hnode⟩ := Option.map_eq_some_iff.mp hfacts
  have hdeduplicated := deduplicated_of_runFrom sampleEnvironment duplicateRun node
    (by simp [duplicateRun, List.replicate, Meets, Undisturbed, ExistenceAnswered, sampleBlock])
    hrun
  exact ⟨node, hrun, hdeduplicated, hnode⟩

/-- A block is reverted while its submission is being written, and another transaction makes the
submission before the write lands. -/
def lateRun : List SubmissionEvent :=
  List.replicate 5 (.processBlock (sampleBlock 1 [])) ++
    [.interruptBlock (sampleBlock 1 [sampleTransaction 1 3]) fun _ => false,
      .revertDataUntilBlock 5, .processBlock (sampleBlock 1 [sampleTransaction 2 3]),
      .orphanLanded 0]

/-- The submission is stored twice then. -/
theorem not_deduplicated_late :
    ∃ node, runFrom (SubmissionNode.step sampleEnvironment) SubmissionNode.init lateRun =
        some node ∧ ¬ Deduplicated sampleEnvironment node := by
  have hfacts : (runFrom (SubmissionNode.step sampleEnvironment) SubmissionNode.init
      lateRun).map (fun node => decide (node.submissions.map StoredSubmission.key).Nodup) =
        some false := by
    decide +kernel
  obtain ⟨node, hrun, hnode⟩ := Option.map_eq_some_iff.mp hfacts
  exact ⟨node, hrun, fun hdeduplicated => of_decide_eq_false hnode hdeduplicated.unique⟩

end OpnetNode.BlockSubmissions
