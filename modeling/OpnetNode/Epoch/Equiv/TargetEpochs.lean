import Mathlib.Data.List.Induction
import OpnetNode.Epoch.TargetEpochRepository

/-!
# What the existence query finds

A solution saved and not deleted since has its document in the collection
(`any_saveCriteria_runOperations`): the writer and the deletions name the fields the documents have.
The existence query asks for a field `publicKey`; the documents carry the key as `mldsaPublicKey`,
so the query answers that there is no such solution after every sequence of commands
(`solutionExists_runOperations`), and it is right exactly where there is none
(`solutionExists_iff_savedSince`).
-/

namespace OpnetNode

namespace ITargetEpochDocument

/-! ### The written fields -/

variable (d : ITargetEpochDocument)

@[simp] theorem get_epochNumber : d.fields.get "epochNumber" = some (.number d.epochNumber) := by
  unfold fields
  cases d.graffiti <;> simp [JsMap.get_set]

@[simp] theorem get_salt : d.fields.get "salt" = some (.binary d.salt) := by
  unfold fields
  cases d.graffiti <;> simp [JsMap.get_set]

@[simp] theorem get_mldsaPublicKey :
    d.fields.get "mldsaPublicKey" = some (.binary d.mldsaPublicKey) := by
  unfold fields
  cases d.graffiti <;> simp [JsMap.get_set]

@[simp] theorem get_publicKey : d.fields.get "publicKey" = none := by
  unfold fields
  cases d.graffiti <;> simp [JsMap.get_set]

end ITargetEpochDocument

namespace TargetEpochRepository

variable {epochNumber epochNumber' : ℤ} {salt salt' key key' : Bytes}

theorem selects_saveCriteria (d : FieldDocument) :
    FieldDocument.selects (saveCriteria epochNumber salt key) d = true ↔
      d.get "epochNumber" = some (.number epochNumber) ∧ d.get "salt" = some (.binary salt) ∧
        d.get "mldsaPublicKey" = some (.binary key) := by
  unfold FieldDocument.selects saveCriteria
  simp [FieldCondition.holds]

theorem selects_of_selects {d : FieldDocument}
    (h : FieldDocument.selects (saveCriteria epochNumber' salt' key') d) :
    FieldDocument.selects (saveCriteria epochNumber salt key) d =
      decide (epochNumber' = epochNumber ∧ salt' = salt ∧ key' = key) := by
  obtain ⟨hepoch, hsalt, hkey⟩ := (selects_saveCriteria d).mp h
  rw [Bool.eq_iff_iff, selects_saveCriteria, hepoch, hsalt, hkey, decide_eq_true_iff]
  simp

theorem selects_setFields_fields (targetEpoch : ITargetEpochDocument) (d : FieldDocument) :
    FieldDocument.selects (saveCriteria epochNumber salt key)
        (FieldDocument.setFields targetEpoch.fields d) =
      decide (targetEpoch.epochNumber = epochNumber ∧ targetEpoch.salt = salt ∧
        targetEpoch.mldsaPublicKey = key) := by
  apply selects_of_selects
  rw [selects_saveCriteria, FieldDocument.get_setFields, FieldDocument.get_setFields,
    FieldDocument.get_setFields]
  simp

theorem any_saveTargetEpoch (targetEpoch : ITargetEpochDocument) (c : Collection FieldDocument) :
    (saveTargetEpoch targetEpoch c).any
        (FieldDocument.selects (saveCriteria epochNumber salt key)) =
      (decide (targetEpoch.epochNumber = epochNumber ∧ targetEpoch.salt = salt ∧
          targetEpoch.mldsaPublicKey = key) ||
        c.any (FieldDocument.selects (saveCriteria epochNumber salt key))) := by
  unfold saveTargetEpoch FieldDocument.updateOne
  apply Collection.any_upsertOne
  · exact selects_setFields_fields targetEpoch
  · exact selects_setFields_fields targetEpoch _
  · intro d hd
    exact selects_of_selects hd

theorem any_deleteOldTargetEpochs (limit : ℤ) (c : Collection FieldDocument) :
    (deleteOldTargetEpochs limit c).any
        (FieldDocument.selects (saveCriteria epochNumber salt key)) = true ↔
      c.any (FieldDocument.selects (saveCriteria epochNumber salt key)) = true ∧
        ¬ epochNumber < limit := by
  have hlt : ∀ d, FieldDocument.selects (saveCriteria epochNumber salt key) d = true →
      (FieldDocument.selects [("epochNumber", .lt (.number limit))] d = false ↔
        ¬ epochNumber < limit) := by
    intro d hd
    obtain ⟨hepoch, -, -⟩ := (selects_saveCriteria d).mp hd
    unfold FieldDocument.selects
    simp [hepoch, FieldCondition.holds]
  unfold deleteOldTargetEpochs
  rw [List.any_eq_true, List.any_eq_true]
  constructor
  · rintro ⟨d, hmem, hd⟩
    obtain ⟨hc, hkept⟩ := Collection.mem_deleteMany.mp hmem
    exact ⟨⟨d, hc, hd⟩, (hlt d hd).mp hkept⟩
  · rintro ⟨⟨d, hc, hd⟩, hlimit⟩
    exact ⟨d, Collection.mem_deleteMany.mpr ⟨hc, (hlt d hd).mpr hlimit⟩, hd⟩

theorem deleteAllTargetEpochs_eq (c : Collection FieldDocument) : deleteAllTargetEpochs c = [] := by
  unfold deleteAllTargetEpochs Collection.deleteMany FieldDocument.selects
  simp

end TargetEpochRepository

namespace TargetEpochOperation

open TargetEpochRepository

variable {epochNumber : ℤ} {salt key : Bytes}

variable (ops : List TargetEpochOperation) (op : TargetEpochOperation)

@[simp] theorem runOperations_concat :
    runOperations (ops ++ [op]) = op.perform (runOperations ops) := by
  unfold runOperations
  rw [List.foldl_append]
  rfl

theorem savedSince_nil : ¬ SavedSince [] epochNumber salt key := by
  rintro ⟨before, op, after, heq, -⟩
  simp at heq

theorem savedSince_concat : SavedSince (ops ++ [op]) epochNumber salt key ↔
      op.Saves epochNumber salt key ∨
        (SavedSince ops epochNumber salt key ∧ ¬ op.Removes epochNumber) := by
  constructor
  · rintro ⟨before, saving, after, heq, hsaves, hafter⟩
    rcases List.eq_nil_or_concat after with rfl | ⟨after', last, rfl⟩
    · obtain ⟨-, hlast⟩ := List.append_inj' heq rfl
      obtain rfl : op = saving := by simpa using hlast
      exact Or.inl hsaves
    · rw [List.concat_eq_append, ← List.cons_append, ← List.append_assoc] at heq
      obtain ⟨rfl, hlast⟩ := List.append_inj' heq rfl
      obtain rfl : op = last := by simpa using hlast
      refine Or.inr ⟨⟨before, saving, after', rfl, hsaves, ?_⟩, ?_⟩
      · intro later hlater
        exact hafter later (by simp [hlater])
      · exact hafter op (by simp)
  · rintro (hsaves | ⟨⟨before, saving, after, rfl, hsaves, hafter⟩, hremoves⟩)
    · exact ⟨ops, op, [], rfl, hsaves, by simp⟩
    · refine ⟨before, saving, after ++ [op], by simp, hsaves, ?_⟩
      intro later hlater
      rcases List.mem_append.mp hlater with hlater | hlater
      · exact hafter later hlater
      · obtain rfl : later = op := by simpa using hlater
        exact hremoves

theorem any_saveCriteria_perform (c : Collection FieldDocument) :
    (op.perform c).any (FieldDocument.selects (saveCriteria epochNumber salt key)) = true ↔
      op.Saves epochNumber salt key ∨
        (c.any (FieldDocument.selects (saveCriteria epochNumber salt key)) = true ∧
          ¬ op.Removes epochNumber) := by
  cases op with
  | saveEpochSolution params matchingBits legacyPublicKey =>
    show (saveTargetEpoch _ c).any _ = true ↔ _
    rw [any_saveTargetEpoch, Bool.or_eq_true, decide_eq_true_iff]
    simp [Saves, Removes, EpochValidator.targetEpochOf]
  | deleteOldTargetEpochs limit =>
    show (TargetEpochRepository.deleteOldTargetEpochs limit c).any _ = true ↔ _
    rw [any_deleteOldTargetEpochs]
    simp [Saves, Removes]
  | deleteAllTargetEpochs =>
    show (TargetEpochRepository.deleteAllTargetEpochs c).any _ = true ↔ _
    rw [deleteAllTargetEpochs_eq]
    simp [Saves, Removes]

/-- The collection holds a document for exactly the solutions saved and not deleted since. -/
theorem any_saveCriteria_runOperations (ops : List TargetEpochOperation) :
    (runOperations ops).any (FieldDocument.selects (saveCriteria epochNumber salt key)) = true ↔
      SavedSince ops epochNumber salt key := by
  induction ops using List.reverseRecOn with
  | nil => exact iff_of_false (by simp [runOperations]) savedSince_nil
  | append_singleton ops op ih =>
    rw [runOperations_concat, any_saveCriteria_perform, savedSince_concat, ih]

theorem missing_publicKey_perform {c : Collection FieldDocument}
    (h : ∀ d ∈ c, d.get "publicKey" = none) : ∀ d ∈ op.perform c, d.get "publicKey" = none := by
  cases op with
  | saveEpochSolution params matchingBits legacyPublicKey =>
    have hwritten : ∀ e : FieldDocument, e.get "publicKey" = none → (FieldDocument.setFields
        (EpochValidator.targetEpochOf params matchingBits legacyPublicKey).fields e).get
          "publicKey" = none := by
      intro e he
      rw [FieldDocument.get_setFields, ITargetEpochDocument.get_publicKey, he]
      rfl
    show ∀ d ∈ saveTargetEpoch _ c, d.get "publicKey" = none
    apply Collection.forall_mem_upsertOne h (fun d _ => hwritten d)
    apply hwritten
    unfold saveCriteria FieldDocument.ofCriteria
    simp [JsMap.get_set]
  | deleteOldTargetEpochs | deleteAllTargetEpochs =>
    intro d hd
    exact h d (Collection.mem_deleteMany.mp hd).1

theorem missing_publicKey_runOperations : ∀ d ∈ runOperations ops, d.get "publicKey" = none := by
  induction ops using List.reverseRecOn with
  | nil => exact fun d hd => absurd hd List.not_mem_nil
  | append_singleton ops op ih =>
    rw [runOperations_concat]
    exact missing_publicKey_perform op ih

theorem solutionExists_runOperations (epochNumber : ℤ) (salt key : Bytes) :
    EpochValidator.solutionExists (runOperations ops) epochNumber salt key = false := by
  have hcount : FieldDocument.countDocuments (existsCriteria epochNumber salt key)
      (runOperations ops) = 0 := by
    have hnamed : ("publicKey", FieldCondition.eq (.binary key)) ∈
        existsCriteria epochNumber salt key := by
      simp [existsCriteria]
    exact FieldDocument.countDocuments_eq_zero hnamed (missing_publicKey_runOperations ops)
  unfold EpochValidator.solutionExists targetEpochExists
  rw [hcount]
  rfl

/-- The existence query is right exactly where no such solution was saved and not deleted since. -/
theorem solutionExists_iff_savedSince (ops : List TargetEpochOperation) (epochNumber : ℤ)
    (salt key : Bytes) :
    (EpochValidator.solutionExists (runOperations ops) epochNumber salt key = true ↔
        SavedSince ops epochNumber salt key) ↔
      ¬ SavedSince ops epochNumber salt key := by
  rw [solutionExists_runOperations]
  simp

def solutionOfSeven : EpochValidationParams :=
  ⟨7, [1], [2], [3], none, [4]⟩

/-- A solution just saved is not found. -/
theorem not_solutionExists_saved :
    ¬ (EpochValidator.solutionExists (runOperations [saveEpochSolution solutionOfSeven 20 [5]]) 7
        [2] [3] = true ↔ SavedSince [saveEpochSolution solutionOfSeven 20 [5]] 7 [2] [3]) := by
  have hsaved : SavedSince [saveEpochSolution solutionOfSeven 20 [5]] 7 [2] [3] :=
    ⟨[], saveEpochSolution solutionOfSeven 20 [5], [], rfl, ⟨rfl, rfl, rfl⟩, by simp⟩
  intro h
  have hfound := h.mpr hsaved
  rw [solutionExists_runOperations] at hfound
  exact Bool.false_ne_true hfound

end TargetEpochOperation

end OpnetNode
