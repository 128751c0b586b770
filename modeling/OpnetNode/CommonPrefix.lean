import Mathlib.Data.List.Basic
import Mathlib.Order.Bounds.Basic
import Mathlib.Tactic.Common

/-!
# The common prefix of two lists

`commonPrefix l l'` is the length of the longest prefix that two lists share
(`isGreatest_commonPrefix`).  It is computed front to back, so that it can be split where the lists
are (`commonPrefix_append_left`, `commonPrefix_append_of_ne`), and lists that share much with a third
one share much with each other: of the three lengths, the two smallest are equal
(`two_smallest_commonPrefix`).
-/

namespace OpnetNode

variable {α : Type*} [DecidableEq α]

/-- The length of the longest common prefix. -/
def commonPrefix : List α → List α → ℕ
  | a :: l, b :: l' => if a = b then commonPrefix l l' + 1 else 0
  | _, _ => 0

@[simp] theorem commonPrefix_nil_left (l : List α) : commonPrefix [] l = 0 := rfl

@[simp] theorem commonPrefix_nil_right (l : List α) : commonPrefix l [] = 0 := by
  cases l <;> rfl

theorem commonPrefix_cons (a b : α) (l l' : List α) :
    commonPrefix (a :: l) (b :: l') = if a = b then commonPrefix l l' + 1 else 0 := rfl

theorem le_commonPrefix_iff {l l' : List α} {n : ℕ} :
    n ≤ commonPrefix l l' ↔ n ≤ min l.length l'.length ∧ l.take n = l'.take n := by
  induction l generalizing l' n with
  | nil =>
    constructor
    · intro hle
      obtain rfl := Nat.le_zero.mp hle
      simp
    · rintro ⟨hle, -⟩
      simpa using hle
  | cons a l ih =>
    cases l' with
    | nil =>
      constructor
      · intro hle
        obtain rfl := Nat.le_zero.mp hle
        simp
      · rintro ⟨hle, -⟩
        simpa using hle
    | cons b l' =>
      cases n with
      | zero => simp
      | succ n =>
        rw [commonPrefix_cons, List.take_succ_cons, List.take_succ_cons, List.length_cons,
          List.length_cons, List.cons.injEq]
        by_cases hab : a = b
        · rw [if_pos hab, Nat.add_le_add_iff_right, ih]
          constructor
          · rintro ⟨hle, htake⟩
            exact ⟨by omega, hab, htake⟩
          · rintro ⟨hle, -, htake⟩
            exact ⟨by omega, htake⟩
        · rw [if_neg hab]
          constructor
          · intro hle
            omega
          · rintro ⟨-, heq, -⟩
            exact absurd heq hab

/-- **`commonPrefix` is the length of the longest common prefix.** -/
theorem isGreatest_commonPrefix (l l' : List α) :
    IsGreatest {n | n ≤ min l.length l'.length ∧ l.take n = l'.take n} (commonPrefix l l') :=
  ⟨le_commonPrefix_iff.mp le_rfl, fun _ hn => le_commonPrefix_iff.mpr hn⟩

theorem commonPrefix_comm (l l' : List α) : commonPrefix l l' = commonPrefix l' l := by
  have hle : ∀ l l' : List α, commonPrefix l l' ≤ commonPrefix l' l := by
    intro l l'
    obtain ⟨hlength, htake⟩ := (isGreatest_commonPrefix l l').1
    exact le_commonPrefix_iff.mpr ⟨min_comm l.length l'.length ▸ hlength, htake.symm⟩
  exact le_antisymm (hle l l') (hle l' l)

theorem min_commonPrefix_le (l l' l'' : List α) :
    min (commonPrefix l l') (commonPrefix l' l'') ≤ commonPrefix l l'' := by
  obtain ⟨hlength, htake⟩ := le_commonPrefix_iff.mp
    (min_le_left (commonPrefix l l') (commonPrefix l' l''))
  obtain ⟨hlength', htake'⟩ := le_commonPrefix_iff.mp
    (min_le_right (commonPrefix l l') (commonPrefix l' l''))
  exact le_commonPrefix_iff.mpr ⟨by omega, htake.trans htake'⟩

/-- Of three numbers, the two smallest are equal. -/
def TwoSmallest (x y z : ℕ) : Prop :=
  (x = y ∧ x ≤ z) ∨ (y = z ∧ y ≤ x) ∨ (x = z ∧ x ≤ y)

/-- **Of three common prefixes, the two smallest are equal.** -/
theorem two_smallest_commonPrefix (l l' l'' : List α) :
    TwoSmallest (commonPrefix l l') (commonPrefix l' l'') (commonPrefix l l'') := by
  have hleft := min_commonPrefix_le l l' l''
  have hmiddle := min_commonPrefix_le l' l'' l
  have hright := min_commonPrefix_le l'' l l'
  rw [commonPrefix_comm l'' l, commonPrefix_comm l' l] at hmiddle
  rw [commonPrefix_comm l'' l, commonPrefix_comm l'' l'] at hright
  unfold TwoSmallest
  omega

theorem commonPrefix_append_left (p l l' : List α) :
    commonPrefix (p ++ l) (p ++ l') = p.length + commonPrefix l l' := by
  induction p with
  | nil => simp
  | cons a p ih =>
    rw [List.cons_append, List.cons_append, commonPrefix_cons, if_pos rfl, ih, List.length_cons]
    omega

theorem commonPrefix_append_of_ne {p p' : List α} (hlength : p.length = p'.length) (hne : p ≠ p')
    (l l' : List α) : commonPrefix (p ++ l) (p' ++ l') = commonPrefix p p' := by
  induction p generalizing p' with
  | nil => exact absurd (List.eq_nil_of_length_eq_zero hlength.symm).symm hne
  | cons a p ih =>
    cases p' with
    | nil => cases hlength
    | cons b p' =>
      rw [List.cons_append, List.cons_append, commonPrefix_cons, commonPrefix_cons]
      by_cases hab : a = b
      · have hne' : p ≠ p' := fun heq => hne (by rw [hab, heq])
        rw [if_pos hab, if_pos hab, ih (Nat.succ.inj hlength) hne']
      · rw [if_neg hab, if_neg hab]

end OpnetNode
