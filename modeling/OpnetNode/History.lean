import Mathlib.Data.List.Induction

/-!
# Histories

A history is a list that grows at its end.  `AtEach P l` says that every entry of `l` has the
property `P` against the entries before it; `atEach_concat` is how it is kept while the history
grows.
-/

namespace OpnetNode

variable {α : Type*}

/-- Every entry of the history has the property against those before it. -/
def AtEach (P : List α → α → Prop) (l : List α) : Prop :=
  ∀ before x after, l = before ++ x :: after → P before x

variable {P Q : List α → α → Prop} {l : List α}

theorem atEach_nil : AtEach P ([] : List α) := by
  intro before x after h
  simp at h

theorem atEach_concat {x : α} : AtEach P (l ++ [x]) ↔ AtEach P l ∧ P l x := by
  constructor
  · intro h
    refine ⟨fun before y after hl => ?_, h l x [] rfl⟩
    exact h before y (after ++ [x]) (by rw [hl, List.append_assoc, List.cons_append])
  · rintro ⟨hl, hx⟩ before y after h
    rcases List.eq_nil_or_concat after with rfl | ⟨after', last, rfl⟩
    · obtain ⟨rfl, hlast⟩ := List.append_inj' h rfl
      obtain rfl := (List.cons.inj hlast).1
      exact hx
    · rw [List.concat_eq_append, ← List.cons_append, ← List.append_assoc] at h
      exact hl before y after' (List.append_inj' h rfl).1

theorem AtEach.of_mem {x : α} (h : AtEach P l) (hx : x ∈ l) : ∃ before, P before x := by
  obtain ⟨before, after, rfl⟩ := List.append_of_mem hx
  exact ⟨before, h before x after rfl⟩

instance decidableAtEach [∀ before x, Decidable (P before x)] (l : List α) :
    Decidable (AtEach P l) :=
  decidable_of_iff (∀ i : Fin l.length, P (l.take i) l[i]) <| by
    constructor
    · rintro h before x after rfl
      simpa using h ⟨before.length, by simp⟩
    · rintro h ⟨i, hi⟩
      exact h (l.take i) l[i] (l.drop (i + 1)) (by simp)

theorem AtEach.of_append {l' : List α} (h : AtEach P (l ++ l')) : AtEach P l := by
  intro before x after hl
  exact h before x (after ++ l') (by rw [hl, List.append_assoc, List.cons_append])

end OpnetNode
