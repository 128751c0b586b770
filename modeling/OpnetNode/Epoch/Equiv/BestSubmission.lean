import Mathlib.Data.List.Induction
import Mathlib.Data.List.Perm.Basic
import OpnetNode.Epoch.EpochManager

/-!
# The choice of the best submission

`getBestSubmission` keeps the eligible submissions that share the most bits with the target
(`foldl_addCandidate`) and sorts them by a comparator that throws on short keys.  Over submissions
with distinct transaction hashes the comparator is a strict order, so that the sort, and with it the
winner, is the same for every order of the submissions (`getBestSubmission_perm`).
-/

namespace OpnetNode.EpochManager

open EpochValidator

/-! ### Sorting by a comparator that may throw -/

section Sorting

variable {α : Type} {compare : α → α → Except String ℤ} {lt : α → α → Prop}

/-- The comparator decides between two elements as an order does. -/
def Decides (compare : α → α → Except String ℤ) (lt : α → α → Prop) (a b : α) : Prop :=
  ∃ c, compare a b = .ok c ∧ ((c < 0 ∧ lt a b) ∨ (¬ c < 0 ∧ lt b a))

theorem insertSorted_ok (htrans : ∀ a b c, lt a b → lt b c → lt a c) {a : α} {l : List α}
    (hdecides : ∀ b ∈ l, Decides compare lt a b) (hsorted : l.Pairwise lt) :
    ∃ l', insertSorted compare a l = .ok l' ∧ l'.Perm (a :: l) ∧ l'.Pairwise lt := by
  induction l with
  | nil => exact ⟨[a], rfl, List.Perm.refl _, List.pairwise_singleton lt a⟩
  | cons b l ih =>
    obtain ⟨hb, hl⟩ := List.pairwise_cons.mp hsorted
    obtain ⟨c, hc, hlt⟩ := hdecides b List.mem_cons_self
    rcases hlt with ⟨hneg, hab⟩ | ⟨hpos, hba⟩
    · refine ⟨a :: b :: l, ?_, List.Perm.refl _, ?_⟩
      · rw [insertSorted, hc]
        simp [bind, Except.bind, hneg]
      · refine List.pairwise_cons.mpr ⟨fun x hx => ?_, hsorted⟩
        rcases List.mem_cons.mp hx with rfl | hx
        · exact hab
        · exact htrans a b x hab (hb x hx)
    · obtain ⟨l', hl', hperm, hsorted'⟩ := ih (fun x hx => hdecides x (List.mem_cons_of_mem b hx)) hl
      refine ⟨b :: l', ?_, ?_, ?_⟩
      · rw [insertSorted, hc]
        simp [bind, Except.bind, hpos, hl']
      · exact (hperm.cons b).trans (List.Perm.swap a b l)
      · refine List.pairwise_cons.mpr ⟨fun x hx => ?_, hsorted'⟩
        rcases List.mem_cons.mp (hperm.mem_iff.mp hx) with rfl | hx
        · exact hba
        · exact hb x hx

theorem sort_concat (l : List α) (a : α) :
    sort compare (l ++ [a]) = sort compare l >>= insertSorted compare a := by
  unfold sort
  rw [List.foldlM_append]
  simp

theorem sort_ok (htrans : ∀ a b c, lt a b → lt b c → lt a c) (l : List α)
    (hdecides : l.Pairwise fun b a => Decides compare lt a b) :
    ∃ l', sort compare l = .ok l' ∧ l'.Perm l ∧ l'.Pairwise lt := by
  induction l using List.reverseRecOn with
  | nil => exact ⟨[], rfl, List.Perm.refl _, List.Pairwise.nil⟩
  | append_singleton l a ih =>
    obtain ⟨hl, -, ha⟩ := List.pairwise_append.mp hdecides
    obtain ⟨l', hl', hperm, hsorted⟩ := ih hl
    have hins : ∀ b ∈ l', Decides compare lt a b := fun b hb =>
      ha b (hperm.mem_iff.mp hb) a (List.mem_singleton_self a)
    obtain ⟨l'', hl'', hperm', hsorted'⟩ := insertSorted_ok htrans hins hsorted
    refine ⟨l'', ?_, ?_, hsorted'⟩
    · rw [sort_concat, hl']
      exact hl''
    · exact hperm'.trans ((hperm.cons a).trans (List.perm_append_singleton a l).symm)

theorem sort_error {bad : α → Prop} {e : String}
    (hthrows : ∀ a b, bad a ∨ bad b → compare a b = .error e)
    (htrans : ∀ a b c, lt a b → lt b c → lt a c) (l : List α) (hlength : 2 ≤ l.length)
    (hbad : ∃ a ∈ l, bad a)
    (hdecides : l.Pairwise fun b a => ¬ bad b → ¬ bad a → Decides compare lt a b) :
    sort compare l = .error e := by
  induction l using List.reverseRecOn with
  | nil => simp at hlength
  | append_singleton l a ih =>
    obtain ⟨hl, -, -⟩ := List.pairwise_append.mp hdecides
    rw [sort_concat]
    by_cases hbefore : 2 ≤ l.length ∧ ∃ b ∈ l, bad b
    · rw [ih hbefore.1 hbefore.2 hl]
      rfl
    · -- The new element is compared with the first one, and one of the two is bad.
      match l, hl, hbefore with
      | [], _, _ => simp at hlength
      | [b], _, _ =>
        have hab : bad a ∨ bad b := by
          obtain ⟨x, hx, hbadx⟩ := hbad
          simp only [List.cons_append, List.nil_append, List.mem_cons, List.not_mem_nil,
            or_false] at hx
          rcases hx with rfl | rfl
          · exact .inr hbadx
          · exact .inl hbadx
        show insertSorted compare a [b] = _
        rw [insertSorted, hthrows a b hab]
        rfl
      | b :: c :: l, hl, hbefore =>
        have hgood : ∀ x ∈ b :: c :: l, ¬ bad x := fun x hx hbadx =>
          hbefore ⟨by simp, x, hx, hbadx⟩
        have hbada : bad a := by
          obtain ⟨x, hx, hbadx⟩ := hbad
          rcases List.mem_append.mp hx with hold | hnew
          · exact absurd hbadx (hgood x hold)
          · rwa [List.mem_singleton.mp hnew] at hbadx
        obtain ⟨l', hl', hperm, -⟩ := sort_ok htrans (b :: c :: l)
          (hl.imp_of_mem fun hx hy h => h (hgood _ hx) (hgood _ hy))
        rw [hl']
        cases l' with
        | nil => exact absurd hperm.length_eq (by simp)
        | cons d l' =>
          show insertSorted compare a (d :: l') = _
          rw [insertSorted, hthrows a d (.inl hbada)]
          rfl

end Sorting

/-! ### The order of the submissions -/

theorem compareBytes_swap (a b : Bytes) : compareBytes b a = -compareBytes a b := by
  induction a generalizing b with
  | nil => cases b <;> simp [compareBytes]
  | cons x a ih =>
    cases b with
    | nil => simp [compareBytes]
    | cons y b =>
      by_cases hxy : x = y
      · subst hxy
        simpa [compareBytes] using ih b
      · have hyx : ¬ y = x := fun h => hxy h.symm
        simp [compareBytes, hxy, hyx]

theorem compareBytes_eq_zero {a b : Bytes} : compareBytes a b = 0 ↔ a = b := by
  induction a generalizing b with
  | nil =>
    cases b with
    | nil => simp [compareBytes]
    | cons y b =>
      simp only [compareBytes, List.length_nil, List.length_cons, reduceCtorEq, iff_false]
      omega
  | cons x a ih =>
    cases b with
    | nil =>
      simp only [compareBytes, List.length_nil, List.length_cons, reduceCtorEq, iff_false]
      omega
    | cons y b =>
      by_cases hxy : x = y
      · subst hxy
        simpa [compareBytes] using ih
      · have hne : x.toNat ≠ y.toNat := fun h => hxy (UInt8.toNat_inj.mp h)
        simp only [compareBytes, hxy, if_false, List.cons.injEq, false_and, iff_false]
        omega

theorem compareBytes_trans {a b c : Bytes} (hab : compareBytes a b < 0)
    (hbc : compareBytes b c < 0) : compareBytes a c < 0 := by
  induction a generalizing b c with
  | nil =>
    cases c with
    | nil =>
      cases b with
      | nil => exact hab
      | cons y b =>
        simp only [compareBytes, List.length_nil, List.length_cons] at hbc
        omega
    | cons z c =>
      simp only [compareBytes, List.length_nil, List.length_cons]
      omega
  | cons x a ih =>
    cases b with
    | nil =>
      simp only [compareBytes, List.length_nil, List.length_cons] at hab
      omega
    | cons y b =>
      cases c with
      | nil =>
        simp only [compareBytes, List.length_nil, List.length_cons] at hbc
        omega
      | cons z c =>
        simp only [compareBytes] at hab hbc ⊢
        -- the comparison is decided where the first two differ, or where the other two do
        by_cases hxy : x = y
        · subst hxy
          rw [if_pos rfl] at hab
          by_cases hxz : x = z
          · rw [if_pos hxz] at hbc ⊢
            exact ih hab hbc
          · rw [if_neg hxz] at hbc ⊢
            exact hbc
        · rw [if_neg hxy] at hab
          by_cases hyz : y = z
          · subst hyz
            rw [if_neg hxy]
            exact hab
          · rw [if_neg hyz] at hbc
            have hlt : (x.toNat : ℤ) - z.toNat < 0 := by omega
            have hxz : ¬ x = z := by
              rintro rfl
              omega
            rw [if_neg hxz]
            exact hlt

/-- The order of the comparator: the lower public key, then the lower transaction hash. -/
def Before (a b : EpochSubmissionDocument) : Prop :=
  compareBytes a.epochProposed.mldsaPublicKey b.epochProposed.mldsaPublicKey < 0 ∨
    (a.epochProposed.mldsaPublicKey = b.epochProposed.mldsaPublicKey ∧
      compareBytes a.submissionTxHash b.submissionTxHash < 0)

theorem Before.trans {a b c : EpochSubmissionDocument} (hab : Before a b) (hbc : Before b c) :
    Before a c := by
  rcases hab with hab | ⟨hkey, hab⟩
  · rcases hbc with hbc | ⟨hkey', -⟩
    · exact .inl (compareBytes_trans hab hbc)
    · exact .inl (hkey' ▸ hab)
  · rcases hbc with hbc | ⟨hkey', hbc⟩
    · exact .inl (hkey ▸ hbc)
    · exact .inr ⟨hkey.trans hkey', compareBytes_trans hab hbc⟩

theorem Before.irrefl (a : EpochSubmissionDocument) : ¬ Before a a := by
  have hzero (b : Bytes) : compareBytes b b = 0 := compareBytes_eq_zero.mpr rfl
  rintro (h | ⟨-, h⟩)
  · exact absurd h (by rw [hzero]; omega)
  · exact absurd h (by rw [hzero]; omega)

/-- A submission whose key the comparator refuses. -/
def ShortKey (a : EpochSubmissionDocument) : Prop := a.epochProposed.mldsaPublicKey.length < 32

instance (a : EpochSubmissionDocument) : Decidable (ShortKey a) :=
  inferInstanceAs (Decidable (_ < _))

theorem compareSubmissions_short (targetHash : Bytes) (a b : EpochSubmissionDocument)
    (h : ShortKey a ∨ ShortKey b) : compareSubmissions targetHash a b =
      .error "Invalid public key length for comparison tiebreaker." := by
  unfold compareSubmissions
  exact if_pos h

theorem decides_compareSubmissions (targetHash : Bytes) {a b : EpochSubmissionDocument}
    (ha : ¬ ShortKey a) (hb : ¬ ShortKey b) (hne : a.submissionTxHash ≠ b.submissionTxHash) :
    Decides (compareSubmissions targetHash) Before a b := by
  have hswap := compareBytes_swap a.submissionTxHash b.submissionTxHash
  have hswapKey := compareBytes_swap a.epochProposed.mldsaPublicKey b.epochProposed.mldsaPublicKey
  have hhash : compareBytes a.submissionTxHash b.submissionTxHash ≠ 0 := fun h =>
    hne (compareBytes_eq_zero.mp h)
  have hgood : ¬ (a.epochProposed.mldsaPublicKey.length < 32 ∨
      b.epochProposed.mldsaPublicKey.length < 32) := not_or.mpr ⟨ha, hb⟩
  unfold Decides compareSubmissions Before
  dsimp only
  rw [if_neg hgood]
  by_cases hkey : compareBytes a.epochProposed.mldsaPublicKey b.epochProposed.mldsaPublicKey = 0
  · have heq := compareBytes_eq_zero.mp hkey
    refine ⟨compareBytes a.submissionTxHash b.submissionTxHash, ?_, ?_⟩
    · rw [if_neg (not_not.mpr hkey), if_pos hhash]
    · by_cases hneg : compareBytes a.submissionTxHash b.submissionTxHash < 0
      · exact .inl ⟨hneg, .inr ⟨heq, hneg⟩⟩
      · exact .inr ⟨hneg, .inr ⟨heq.symm, by omega⟩⟩
  · refine ⟨_, if_pos hkey, ?_⟩
    by_cases hneg : compareBytes a.epochProposed.mldsaPublicKey b.epochProposed.mldsaPublicKey < 0
    · exact .inl ⟨hneg, .inl hneg⟩
    · exact .inr ⟨hneg, .inl (by omega)⟩

theorem getWinningSubmission_perm {l l' : List EpochSubmissionDocument} (hperm : l.Perm l')
    (hdistinct : (l.map (·.submissionTxHash)).Nodup) (targetHash : Bytes) :
    getWinningSubmission l targetHash = getWinningSubmission l' targetHash := by
  have hsort : sort (compareSubmissions targetHash) l = sort (compareSubmissions targetHash) l' := by
    have hdecides {l : List EpochSubmissionDocument} (h : (l.map (·.submissionTxHash)).Nodup) :
        l.Pairwise fun b a => ¬ ShortKey b → ¬ ShortKey a →
          Decides (compareSubmissions targetHash) Before a b :=
      (List.pairwise_map.mp h).imp fun hne hb ha =>
        decides_compareSubmissions targetHash ha hb (Ne.symm hne)
    have hdistinct' : (l'.map (·.submissionTxHash)).Nodup := (hperm.map _).nodup_iff.mp hdistinct
    have htrans : ∀ a b c, Before a b → Before b c → Before a c := fun _ _ _ => Before.trans
    by_cases hlength : 2 ≤ l.length
    · by_cases hshort : ∃ a ∈ l, ShortKey a
      · obtain ⟨a, ha, hkey⟩ := hshort
        rw [sort_error (compareSubmissions_short targetHash) htrans l hlength ⟨a, ha, hkey⟩
            (hdecides hdistinct),
          sort_error (compareSubmissions_short targetHash) htrans l' (hperm.length_eq ▸ hlength)
            ⟨a, hperm.mem_iff.mp ha, hkey⟩ (hdecides hdistinct')]
      · have hgood : ∀ a ∈ l, ¬ ShortKey a := fun a ha hkey => hshort ⟨a, ha, hkey⟩
        obtain ⟨s, hs, hsperm, hsorted⟩ := sort_ok htrans l
          ((hdecides hdistinct).imp_of_mem fun hb ha h => h (hgood _ hb) (hgood _ ha))
        obtain ⟨s', hs', hsperm', hsorted'⟩ := sort_ok htrans l'
          ((hdecides hdistinct').imp_of_mem fun hb ha h =>
            h (hgood _ (hperm.mem_iff.mpr hb)) (hgood _ (hperm.mem_iff.mpr ha)))
        have heq : s = s' := by
          refine List.Perm.eq_of_pairwise (fun a b _ _ hab hba => ?_) hsorted hsorted'
            (hsperm.trans (hperm.trans hsperm'.symm))
          exact absurd (hab.trans hba) (Before.irrefl a)
        rw [hs, hs', heq]
    · have heq : l = l' := by
        match l, hlength with
        | [], _ => exact (List.perm_nil.mp hperm.symm).symm
        | [a], _ => exact (List.perm_singleton.mp hperm.symm).symm
        | a :: b :: l, h => exact absurd (by simp) h
      rw [heq]
  unfold getWinningSubmission
  rw [hsort]

/-! ### The submissions with the most bits -/

/-- Whether a submission is compared at all: its solution is a SHA-1 hash. -/
def IsCandidate (submission : EpochSubmissionDocument) : Bool :=
  submission.epochProposed.solution.length = 20

def solutionBits (targetHash : Bytes) (submission : EpochSubmissionDocument) : ℕ :=
  countMatchingBits submission.epochProposed.solution targetHash

/-- The greatest number of bits among the candidates of a list. -/
def bestBits (targetHash : Bytes) (l : List EpochSubmissionDocument) : ℕ :=
  ((l.filter IsCandidate).map (solutionBits targetHash)).foldl max 0

def withBits (targetHash : Bytes) (bits : ℕ) (l : List EpochSubmissionDocument) :
    List EpochSubmissionDocument :=
  l.filter fun submission => IsCandidate submission && solutionBits targetHash submission == bits

section Best

variable (targetHash : Bytes) {l l' : List EpochSubmissionDocument}
  {submission : EpochSubmissionDocument}

theorem bestBits_concat (l : List EpochSubmissionDocument) (submission : EpochSubmissionDocument) :
    bestBits targetHash (l ++ [submission]) =
      if IsCandidate submission then max (bestBits targetHash l) (solutionBits targetHash submission)
      else bestBits targetHash l := by
  unfold bestBits
  rw [List.filter_append]
  by_cases h : IsCandidate submission
  · simp [h]
  · simp [h]

theorem solutionBits_le_bestBits (h : submission ∈ l) (hcandidate : IsCandidate submission) :
    solutionBits targetHash submission ≤ bestBits targetHash l := by
  induction l using List.reverseRecOn with
  | nil => exact absurd h List.not_mem_nil
  | append_singleton l a ih =>
    rw [bestBits_concat]
    rcases List.mem_append.mp h with hold | hnew
    · have hle := ih hold
      split_ifs
      · exact hle.trans (le_max_left _ _)
      · exact hle
    · obtain rfl := List.mem_singleton.mp hnew
      rw [if_pos hcandidate]
      exact le_max_right _ _

/-- The loop of `getBestSubmission`. -/
theorem foldl_addCandidate (l : List EpochSubmissionDocument) :
    l.foldl (addCandidate targetHash) (0, []) =
      (bestBits targetHash l, withBits targetHash (bestBits targetHash l) l) := by
  induction l using List.reverseRecOn with
  | nil => rfl
  | append_singleton l a ih =>
    have hbits : countMatchingBits a.epochProposed.solution targetHash = solutionBits targetHash a :=
      rfl
    rw [List.foldl_concat, ih, bestBits_concat]
    unfold addCandidate
    dsimp only
    by_cases hcandidate : a.epochProposed.solution.length = 20
    · have ha : IsCandidate a = true := by simpa [IsCandidate] using hcandidate
      rw [if_neg (not_not.mpr hcandidate), if_pos ha, hbits]
      rcases Nat.lt_trichotomy (solutionBits targetHash a) (bestBits targetHash l) with
        hlt | heq | hgt
      · rw [if_neg hlt.ne, if_neg (not_lt.mpr hlt.le), max_eq_left hlt.le]
        simp [withBits, ha, hlt.ne]
      · rw [if_pos heq, heq, max_self]
        simp [withBits, ha, heq]
      · have hnone : l.filter (fun submission => IsCandidate submission &&
            solutionBits targetHash submission == solutionBits targetHash a) = [] := by
          refine List.filter_eq_nil_iff.mpr fun b hb h => ?_
          simp only [Bool.and_eq_true, beq_iff_eq] at h
          have hle := solutionBits_le_bestBits targetHash hb h.1
          omega
        rw [if_neg hgt.ne', if_pos hgt, max_eq_right hgt.le]
        simp [withBits, ha, hnone]
    · have ha : IsCandidate a = false := by simpa [IsCandidate] using hcandidate
      rw [if_pos hcandidate, if_neg (by simp [ha])]
      simp [withBits, ha]

theorem bestBits_perm (h : l.Perm l') : bestBits targetHash l = bestBits targetHash l' :=
  ((h.filter _).map _).foldl_eq 0

theorem filterEarlyMiningSubmissions_eq (earlyMining : Option EarlyMiningConfig) (endBlock : ℕ) :
    ∃ p : EpochSubmissionDocument → Bool, ∀ l,
      filterEarlyMiningSubmissions earlyMining l endBlock = l.filter p := by
  have hall : ∀ l : List EpochSubmissionDocument, l = l.filter fun _ => true := fun l =>
    (List.filter_eq_self.mpr fun _ _ => rfl).symm
  unfold filterEarlyMiningSubmissions
  cases earlyMining with
  | none => exact ⟨_, hall⟩
  | some networkConfig =>
    dsimp only
    by_cases henabled : (!networkConfig.ENABLED) = true
    · exact ⟨_, fun l => by rw [if_pos henabled]; exact hall l⟩
    · cases networkConfig.WHITELISTED_PUBLIC_KEY with
      | none => exact ⟨_, fun l => by rw [if_neg henabled]; exact hall l⟩
      | some whitelistedKey =>
        by_cases hactive : (!earlyMiningActive networkConfig endBlock) = true
        · exact ⟨_, fun l => by rw [if_neg henabled]; dsimp only; rw [if_pos hactive]; exact hall l⟩
        · exact ⟨_, fun l => by rw [if_neg henabled]; dsimp only; rw [if_neg hactive]⟩

theorem getBestSubmission_perm (earlyMining : Option EarlyMiningConfig) (h : l.Perm l')
    (hdistinct : (l.map (·.submissionTxHash)).Nodup) (endBlock : ℕ) :
    getBestSubmission earlyMining l targetHash endBlock =
      getBestSubmission earlyMining l' targetHash endBlock := by
  obtain ⟨p, hp⟩ := filterEarlyMiningSubmissions_eq earlyMining endBlock
  have heligible : (l.filter p).Perm (l'.filter p) := h.filter p
  have hbits := bestBits_perm targetHash heligible
  have hbest : (withBits targetHash (bestBits targetHash (l.filter p)) (l.filter p)).Perm
      (withBits targetHash (bestBits targetHash (l'.filter p)) (l'.filter p)) := by
    rw [hbits]
    exact heligible.filter _
  have hdistinct' : ((withBits targetHash (bestBits targetHash (l.filter p)) (l.filter p)).map
      (·.submissionTxHash)).Nodup :=
    hdistinct.sublist ((List.filter_sublist.trans List.filter_sublist).map _)
  unfold getBestSubmission
  dsimp only
  rw [hp, hp, foldl_addCandidate, foldl_addCandidate]
  dsimp only
  rw [getWinningSubmission_perm hbest hdistinct', hbest.isEmpty_eq, hbits]

theorem insertSorted_perm {α : Type} {compare : α → α → Except String ℤ} {a : α} {l l' : List α}
    (h : insertSorted compare a l = .ok l') : l'.Perm (a :: l) := by
  induction l generalizing l' with
  | nil =>
    obtain rfl := Except.ok.inj h
    exact List.Perm.refl _
  | cons b l ih =>
    rw [insertSorted] at h
    cases hc : compare a b with
    | error e =>
      rw [hc] at h
      cases h
    | ok c =>
      rw [hc] at h
      by_cases hneg : c < 0
      · obtain rfl : a :: b :: l = l' := by simpa [bind, Except.bind, hneg] using h
        exact List.Perm.refl _
      · cases hins : insertSorted compare a l with
        | error e => simp [bind, Except.bind, hneg, hins] at h
        | ok l'' =>
          obtain rfl : b :: l'' = l' := by simpa [bind, Except.bind, hneg, hins] using h
          exact ((ih hins).cons b).trans (List.Perm.swap a b l)

theorem sort_perm {α : Type} {compare : α → α → Except String ℤ} {l l' : List α}
    (h : sort compare l = .ok l') : l'.Perm l := by
  induction l using List.reverseRecOn generalizing l' with
  | nil =>
    obtain rfl := Except.ok.inj h
    exact List.Perm.refl _
  | append_singleton l a ih =>
    rw [sort_concat] at h
    cases hl : sort compare l with
    | error e =>
      rw [hl] at h
      cases h
    | ok l'' =>
      rw [hl] at h
      exact (insertSorted_perm h).trans
        (((ih hl).cons a).trans (List.perm_append_singleton a l).symm)

theorem getWinningSubmission_mem {l : List EpochSubmissionDocument}
    (h : getWinningSubmission l targetHash = .ok submission) : submission ∈ l := by
  unfold getWinningSubmission at h
  cases hsort : sort (compareSubmissions targetHash) l with
  | error e =>
    rw [hsort] at h
    cases h
  | ok sorted =>
    rw [hsort] at h
    cases sorted with
    | nil => cases h
    | cons winner rest =>
      obtain rfl : winner = submission := Except.ok.inj h
      exact (sort_perm hsort).mem_iff.mp List.mem_cons_self

/-- What is chosen among eligible submissions: the winner is one that shares the most bits with the
target; there is none only without candidates; and a choice that throws met a short key. -/
def IsBestOf (eligible : List EpochSubmissionDocument) (targetHash : Bytes) :
    Except String (Option EpochSubmissionWinner) → Prop
  | .ok (some winner) => ∃ submission ∈ eligible, IsCandidate submission ∧
      winner.mldsaPublicKey = submission.epochProposed.mldsaPublicKey ∧
      winner.salt = submission.epochProposed.salt ∧
      winner.solutionHash = submission.submissionHash ∧
      winner.matchingBits = solutionBits targetHash submission ∧
      ∀ other ∈ eligible, IsCandidate other →
        solutionBits targetHash other ≤ winner.matchingBits
  | .ok none => ∀ submission ∈ eligible, ¬ IsCandidate submission
  | .error _ => ∃ submission ∈ eligible, IsCandidate submission ∧ ShortKey submission

theorem bestBits_attained (l : List EpochSubmissionDocument) : bestBits targetHash l = 0 ∨
    ∃ submission ∈ l, IsCandidate submission ∧
      solutionBits targetHash submission = bestBits targetHash l := by
  induction l using List.reverseRecOn with
  | nil => exact .inl rfl
  | append_singleton l a ih =>
    rw [bestBits_concat]
    by_cases ha : IsCandidate a ∧ bestBits targetHash l ≤ solutionBits targetHash a
    · rw [if_pos ha.1, max_eq_right ha.2]
      exact .inr ⟨a, by simp, ha.1, rfl⟩
    · have hbits : (if IsCandidate a then max (bestBits targetHash l) (solutionBits targetHash a)
          else bestBits targetHash l) = bestBits targetHash l := by
        split_ifs with hcandidate
        · have hlt : ¬ bestBits targetHash l ≤ solutionBits targetHash a := fun hle =>
            ha ⟨hcandidate, hle⟩
          omega
        · rfl
      rw [hbits]
      rcases ih with hzero | ⟨b, hb, hcandidate, heq⟩
      · exact .inl hzero
      · exact .inr ⟨b, List.mem_append_left _ hb, hcandidate, heq⟩

theorem withBits_bestBits_ne_nil (h : submission ∈ l) (hcandidate : IsCandidate submission) :
    withBits targetHash (bestBits targetHash l) l ≠ [] := by
  have hmem {s : EpochSubmissionDocument} (hs : s ∈ l) (hcandidate : IsCandidate s)
      (heq : solutionBits targetHash s = bestBits targetHash l) :
      s ∈ withBits targetHash (bestBits targetHash l) l :=
    List.mem_filter.mpr ⟨hs, by simp [hcandidate, heq]⟩
  rcases bestBits_attained targetHash l with hzero | ⟨s, hs, hscandidate, heq⟩
  · have hle := solutionBits_le_bestBits targetHash h hcandidate
    exact List.ne_nil_of_mem (hmem h hcandidate (by omega))
  · exact List.ne_nil_of_mem (hmem hs hscandidate heq)

theorem getWinningSubmission_error {l : List EpochSubmissionDocument} {e : String} (hne : l ≠ [])
    (hdistinct : (l.map (·.submissionTxHash)).Nodup)
    (h : getWinningSubmission l targetHash = .error e) : ∃ a ∈ l, ShortKey a := by
  by_contra hshort
  have hgood : ∀ a ∈ l, ¬ ShortKey a := fun a ha hkey => hshort ⟨a, ha, hkey⟩
  have hdecides : l.Pairwise fun b a => Decides (compareSubmissions targetHash) Before a b :=
    (List.pairwise_map.mp hdistinct).imp_of_mem fun hb ha hne =>
      decides_compareSubmissions targetHash (hgood _ ha) (hgood _ hb) (Ne.symm hne)
  have htrans : ∀ a b c, Before a b → Before b c → Before a c := fun _ _ _ => Before.trans
  obtain ⟨sorted, hsort, hperm, -⟩ := sort_ok htrans l hdecides
  unfold getWinningSubmission at h
  rw [hsort] at h
  cases sorted with
  | nil => exact hne (List.perm_nil.mp hperm.symm)
  | cons winner rest => cases h

theorem getBestSubmission_isBestOf (earlyMining : Option EarlyMiningConfig)
    (hdistinct : (l.map (·.submissionTxHash)).Nodup) (endBlock : ℕ) :
    IsBestOf (filterEarlyMiningSubmissions earlyMining l endBlock) targetHash
      (getBestSubmission earlyMining l targetHash endBlock) := by
  have hsublist : (filterEarlyMiningSubmissions earlyMining l endBlock).Sublist l := by
    obtain ⟨p, hp⟩ := filterEarlyMiningSubmissions_eq earlyMining endBlock
    rw [hp]
    exact List.filter_sublist
  unfold getBestSubmission
  dsimp only
  generalize filterEarlyMiningSubmissions earlyMining l endBlock = eligible at hsublist
  rw [foldl_addCandidate]
  dsimp only
  by_cases hempty : (withBits targetHash (bestBits targetHash eligible) eligible).isEmpty = true
  · rw [if_pos hempty]
    intro submission hmem hcandidate
    exact withBits_bestBits_ne_nil targetHash hmem hcandidate (List.isEmpty_iff.mp hempty)
  · rw [if_neg hempty]
    have hbest : (withBits targetHash (bestBits targetHash eligible) eligible).Sublist eligible :=
      List.filter_sublist
    cases hwinning : getWinningSubmission (withBits targetHash (bestBits targetHash eligible)
        eligible) targetHash with
    | error e =>
      obtain ⟨a, ha, hkey⟩ := getWinningSubmission_error targetHash
        (fun hnil => hempty (List.isEmpty_iff.mpr hnil))
        (hdistinct.sublist ((hbest.trans hsublist).map _)) hwinning
      obtain ⟨hmem, hbits⟩ := List.mem_filter.mp ha
      simp only [Bool.and_eq_true, beq_iff_eq] at hbits
      exact ⟨a, hmem, hbits.1, hkey⟩
    | ok submission =>
      obtain ⟨hmem, hbits⟩ := List.mem_filter.mp (getWinningSubmission_mem targetHash hwinning)
      simp only [Bool.and_eq_true, beq_iff_eq] at hbits
      exact ⟨submission, hmem, hbits.1, rfl, rfl, rfl, hbits.2.symm,
        fun other hother hcandidate => solutionBits_le_bestBits targetHash hother hcandidate⟩

end Best

end OpnetNode.EpochManager
