import Mathlib.Data.List.Basic
import Mathlib.Data.Option.Basic

/-!
# Guarded transition systems

A component that takes step after step is given by a partial step function
`step : σ → ι → Option σ`: `step s a = some s'` when the event `a` is enabled in `s` and leads to
`s'`.  All nondeterminism (which event comes next, which await settles, which call fails) is in the
choice of the events, so a run is a list of events and can be evaluated.

* `runFrom step s as`: the state after the events `as`, if all of them are enabled.
* `Meets step ok s as`: every step of the run `as` from `s` meets the side condition `ok`.
* `exceptBind_eq_ok` and `exceptMapM_eq_ok`: how a step that may throw is taken apart.
* `invariant_runFrom`: a predicate kept by every step that meets `ok` holds after every run whose
  steps all meet `ok`.
-/

namespace OpnetNode

variable {σ ι : Type*}

/-- The state after the events `as`, `none` as soon as one of them is not enabled. -/
def runFrom (step : σ → ι → Option σ) (s : σ) : List ι → Option σ
  | [] => some s
  | a :: as => (step s a).bind fun s' => runFrom step s' as

/-- Every step of the run `as` from `s` meets the side condition `ok` in the state it is taken. -/
def Meets (step : σ → ι → Option σ) (ok : σ → ι → Prop) : σ → List ι → Prop
  | _, [] => True
  | s, a :: as => ok s a ∧ ∀ s', step s a = some s' → Meets step ok s' as

variable {step : σ → ι → Option σ} {ok : σ → ι → Prop}

instance decidableMeets [∀ s a, Decidable (ok s a)] :
    ∀ (s : σ) (as : List ι), Decidable (Meets step ok s as)
  | _, [] => isTrue trivial
  | s, a :: as =>
    match h : step s a with
    | none => decidable_of_iff (ok s a) (by simp [Meets, h])
    | some s' =>
      have := decidableMeets s' as
      decidable_of_iff (ok s a ∧ Meets step ok s' as) (by simp [Meets, h])

@[simp] theorem runFrom_nil (s : σ) : runFrom step s [] = some s := rfl

theorem runFrom_cons (s : σ) (a : ι) (as : List ι) :
    runFrom step s (a :: as) = (step s a).bind fun s' => runFrom step s' as := rfl

theorem runFrom_append (s : σ) (as bs : List ι) :
    runFrom step s (as ++ bs) = (runFrom step s as).bind fun s' => runFrom step s' bs := by
  induction as generalizing s with
  | nil => rfl
  | cons a as ih =>
    rw [List.cons_append, runFrom_cons, runFrom_cons]
    cases step s a with
    | none => rfl
    | some s' => exact ih s'

/-- **Invariant rule.** A predicate that every step meeting `ok` keeps holds at the end of every
run whose steps all meet `ok`. -/
theorem invariant_runFrom {P : σ → Prop}
    (hstep : ∀ s a s', P s → ok s a → step s a = some s' → P s') :
    ∀ (as : List ι) (s t : σ), P s → Meets step ok s as → runFrom step s as = some t → P t := by
  intro as
  induction as with
  | nil =>
    intro s t hs _ hrun
    cases hrun
    exact hs
  | cons a as ih =>
    intro s t hs hmeets hrun
    rw [runFrom_cons, Option.bind_eq_some_iff] at hrun
    obtain ⟨s', hs', hrun'⟩ := hrun
    exact ih s' t (hstep s a s' hs hmeets.1 hs') (hmeets.2 s' hs') hrun'

variable {as : List ι}

/-- Events that meet the side condition in every state. -/
theorem meets_of_forall (h : ∀ a ∈ as, ∀ s, ok s a) (s : σ) : Meets step ok s as := by
  induction as generalizing s with
  | nil => trivial
  | cons a as ih =>
    exact ⟨h a List.mem_cons_self s, fun s' _ => ih (fun b hb => h b (List.mem_cons_of_mem a hb)) s'⟩

theorem Meets.left {s : σ} {bs : List ι} (h : Meets step ok s (as ++ bs)) : Meets step ok s as := by
  induction as generalizing s with
  | nil => trivial
  | cons a as ih => exact ⟨h.1, fun s' hs' => ih (h.2 s' hs')⟩

theorem Meets.right {s t : σ} {bs : List ι} (h : Meets step ok s (as ++ bs))
    (hrun : runFrom step s as = some t) : Meets step ok t bs := by
  induction as generalizing s with
  | nil =>
    cases hrun
    exact h
  | cons a as ih =>
    rw [runFrom_cons, Option.bind_eq_some_iff] at hrun
    obtain ⟨s', hs', hrun'⟩ := hrun
    exact ih (h.2 s' hs') hrun'

/-- Where the side condition says whether a step can be taken, a run that meets it is one that can be
run. -/
theorem meets_iff_runFrom (h : ∀ s a, ok s a ↔ (step s a).isSome = true) (s : σ) (as : List ι) :
    Meets step ok s as ↔ (runFrom step s as).isSome = true := by
  induction as generalizing s with
  | nil => exact ⟨fun _ => rfl, fun _ => trivial⟩
  | cons a as ih =>
    rw [runFrom_cons]
    show ok s a ∧ _ ↔ _
    rw [h]
    cases hstep : step s a with
    | none => exact ⟨fun hmeets => absurd hmeets.1 (by simp), fun hsome => absurd hsome (by simp)⟩
    | some s' =>
      refine ⟨fun hmeets => (ih s').mp (hmeets.2 s' rfl), fun hsome => ⟨rfl, fun t ht => ?_⟩⟩
      cases ht
      exact (ih s').mpr hsome

variable {ε α β : Type} {f : α → Except ε β}

/-- A successful bind of `Except` computations. -/
theorem exceptBind_eq_ok {x : Except ε α} {r : β}
    (h : (x >>= f) = .ok r) : ∃ a, x = .ok a ∧ f a = .ok r := by
  cases x with
  | error e => cases h
  | ok a => exact ⟨a, rfl, h⟩

theorem exceptMapM_eq_ok {l : List α} {l' : List β} (h : l.mapM f = .ok l') :
    (∀ a ∈ l, ∃ b ∈ l', f a = .ok b) ∧ ∀ b ∈ l', ∃ a ∈ l, f a = .ok b := by
  induction l generalizing l' with
  | nil =>
    cases h
    simp
  | cons a l ih =>
    rw [List.mapM_cons] at h
    obtain ⟨b, hb, h⟩ := exceptBind_eq_ok h
    obtain ⟨rest, hrest, h⟩ := exceptBind_eq_ok h
    cases h
    obtain ⟨hleft, hright⟩ := ih hrest
    constructor
    · intro x hx
      rcases List.mem_cons.mp hx with rfl | hx
      · exact ⟨b, List.mem_cons_self, hb⟩
      · obtain ⟨y, hy, hxy⟩ := hleft x hx
        exact ⟨y, List.mem_cons_of_mem b hy, hxy⟩
    · intro y hy
      rcases List.mem_cons.mp hy with rfl | hy
      · exact ⟨a, List.mem_cons_self, hb⟩
      · obtain ⟨x, hx, hxy⟩ := hright y hy
        exact ⟨x, List.mem_cons_of_mem a hx, hxy⟩

theorem exists_exceptMapM {l : List α}
    (h : ∀ a ∈ l, ∃ b, f a = .ok b) : ∃ l', l.mapM f = .ok l' := by
  induction l with
  | nil => exact ⟨[], rfl⟩
  | cons a l ih =>
    obtain ⟨b, hb⟩ := h a List.mem_cons_self
    obtain ⟨rest, hrest⟩ := ih fun x hx => h x (List.mem_cons_of_mem a hx)
    refine ⟨b :: rest, ?_⟩
    rw [List.mapM_cons, hb, hrest]
    rfl

end OpnetNode
