import Mathlib.Logic.Basic

/-!
# Procedures that throw and keep what they wrote

`Proc σ ε α` is a procedure over a state `σ` that returns an `α` or throws an `ε`.  A throw does not
undo the writes made before it: `tryCatch` runs the handler in the state the throw left.

Five kinds of facts about procedures are proved by rules that follow the program text.

* `Keeps I m`: the procedure keeps the invariant `I`, whether it returns or throws.
* `Ensures P m Q E`: started in `P`, the procedure returns a value and a state with `Q`, or throws
  in a state with `E`.
* `Spares e P m`: started in `P`, the procedure does not throw `e`.
* `Returns P m`: whatever the procedure returns has `P`.
* `Simulates I R good m m'`: from related states with `I`, the two procedures return the same and
  end in related states, as long as the first of them ends `good`.  `good` is a property of the
  state that no step restores once it is lost, such as "every key looked up so far is one of these".
-/

namespace OpnetNode

/-- A procedure over `σ` that returns an `α` or throws an `ε`. -/
def Proc (σ ε α : Type) := σ → Except ε α × σ

namespace Proc

variable {σ τ υ ε α β : Type}

/-- Continue with a returned value. -/
def bindResult (f : α → Proc σ ε β) : Except ε α × σ → Except ε β × σ
  | (.ok a, s) => f a s
  | (.error e, s) => (.error e, s)

theorem bindResult_ok (f : α → Proc σ ε β) (a : α) (s : σ) : bindResult f (.ok a, s) = f a s := rfl

theorem bindResult_error (f : α → Proc σ ε β) (e : ε) (s : σ) :
    bindResult f (.error e, s) = (.error e, s) := rfl

/-- Continue with a thrown error. -/
def catchResult (handler : ε → Proc σ ε α) : Except ε α × σ → Except ε α × σ
  | (.ok a, s) => (.ok a, s)
  | (.error e, s) => handler e s

instance : Monad (Proc σ ε) where
  pure a := fun s => (.ok a, s)
  bind m f := fun s => bindResult f (m s)

def throw (e : ε) : Proc σ ε α := fun s => (.error e, s)

/-- Throw an error if a condition holds. -/
def throwIf (c : Prop) [Decidable c] (e : ε) : Proc σ ε Unit := if c then throw e else pure ()

/-- Run a procedure; if it throws, run the handler in the state the throw left. -/
def tryCatch (m : Proc σ ε α) (handler : ε → Proc σ ε α) : Proc σ ε α :=
  fun s => catchResult handler (m s)

/-- Read the state. -/
def get : Proc σ ε σ := fun s => (.ok s, s)

/-- Change the state. -/
def modify (f : σ → σ) : Proc σ ε Unit := fun s => (.ok (), f s)

/-- Run a procedure for every element of a list. -/
def forEach (f : α → Proc σ ε Unit) : List α → Proc σ ε Unit
  | [] => pure ()
  | a :: l => do
    f a
    forEach f l

/-- Run a procedure for every element of a list, with an accumulator. -/
def foldEach (f : β → α → Proc σ ε β) (b : β) : List α → Proc σ ε β
  | [] => pure b
  | a :: l => do
    let b ← f b a
    foldEach f b l

/-- Run a procedure on a part of the state. -/
def zoom (part : τ → σ) (put : σ → τ → τ) (m : Proc σ ε α) : Proc τ ε α := fun t =>
  ((m (part t)).1, put (m (part t)).2 t)

theorem bind_assoc {γ : Type} (m : Proc σ ε α) (f : α → Proc σ ε β) (g : β → Proc σ ε γ) :
    m >>= f >>= g = m >>= fun a => f a >>= g := by
  funext s
  show bindResult g (bindResult f (m s)) = bindResult (fun a => f a >>= g) (m s)
  rcases m s with ⟨e | a, s'⟩ <;> rfl

theorem pure_bind (a : α) (f : α → Proc σ ε β) : (pure a : Proc σ ε α) >>= f = f a := rfl

theorem bind_pure_unit (m : Proc σ ε Unit) : (m >>= fun _ => pure ()) = m := by
  funext s
  show bindResult _ (m s) = m s
  rcases m s with ⟨e | _, s'⟩ <;> rfl

theorem bind_of_ok {m : Proc σ ε α} {f : α → Proc σ ε β} {s s' : σ} {a : α}
    (h : m s = (.ok a, s')) : (m >>= f) s = f a s' := congrArg (bindResult f) h

theorem bind_of_error {m : Proc σ ε α} {f : α → Proc σ ε β} {s s' : σ} {e : ε}
    (h : m s = (.error e, s')) : (m >>= f) s = (.error e, s') := congrArg (bindResult f) h

theorem snd_bind_pure (m : Proc σ ε α) (f : α → β) (s : σ) :
    ((m >>= fun a => pure (f a)) s).2 = (m s).2 := by
  show (bindResult _ (m s)).2 = _
  rcases m s with ⟨e | a, s'⟩ <;> rfl

theorem forEach_append (f : α → Proc σ ε Unit) (l l' : List α) :
    forEach f (l ++ l') = forEach f l >>= fun _ => forEach f l' := by
  induction l with
  | nil => rfl
  | cons a l ih =>
    show (f a >>= fun _ => forEach f (l ++ l')) = (f a >>= fun _ => forEach f l) >>= _
    rw [ih, bind_assoc]

theorem forEach_singleton (f : α → Proc σ ε Unit) (a : α) :
    forEach f [a] = f a := bind_pure_unit (f a)

theorem forEach_flatMap (f : β → Proc σ ε Unit) (g : α → List β) (l : List α) :
    forEach f (l.flatMap g) = forEach (fun a => forEach f (g a)) l := by
  induction l with
  | nil => rfl
  | cons a l ih =>
    rw [List.flatMap_cons, forEach_append, ih]
    rfl

theorem tryCatch_bind_pure (m : Proc σ ε α) (handler : ε → Proc σ ε α) (f : α → β) :
    (tryCatch m handler >>= fun a => pure (f a)) =
      tryCatch (m >>= fun a => pure (f a)) fun e => handler e >>= fun a => pure (f a) := by
  funext s
  show bindResult _ (catchResult handler (m s)) = catchResult _ (bindResult _ (m s))
  rcases m s with ⟨e | a, s'⟩ <;> rfl

/-! ### Runs that return -/

theorem bind_eq_ok {m : Proc σ ε α} {f : α → Proc σ ε β} {s t : σ} {b : β}
    (h : (m >>= f) s = (.ok b, t)) : ∃ a s', m s = (.ok a, s') ∧ f a s' = (.ok b, t) := by
  replace h : bindResult f (m s) = (.ok b, t) := h
  rcases hm : m s with ⟨e | a, s'⟩
  · rw [hm] at h
    cases h
  · rw [hm] at h
    exact ⟨a, s', rfl, h⟩

/-- The procedure keeps the invariant, whether it returns or throws. -/
def Keeps (I : σ → Prop) (m : Proc σ ε α) : Prop := ∀ s, I s → I (m s).2

section Keeps

variable {I : σ → Prop}

theorem keeps_pure (a : α) : Keeps I (pure a : Proc σ ε α) := fun _ hs => hs

theorem keeps_throw (e : ε) : Keeps I (throw e : Proc σ ε α) := fun _ hs => hs

variable {m : Proc σ ε α}

theorem keeps_ite {c : Prop} [Decidable c] {n : Proc σ ε α} (hm : Keeps I m) (hn : Keeps I n) :
    Keeps I (if c then m else n) := by
  by_cases h : c
  · rwa [if_pos h]
  · rwa [if_neg h]

theorem keeps_throwIf (c : Prop) [Decidable c] (e : ε) : Keeps I (throwIf c e : Proc σ ε Unit) :=
  keeps_ite (keeps_throw e) (keeps_pure ())

theorem keeps_get : Keeps I (get : Proc σ ε σ) := fun _ hs => hs

theorem keeps_modify {f : σ → σ} (h : ∀ s, I s → I (f s)) : Keeps I (modify f : Proc σ ε Unit) := h

/-- A procedure that is only known to keep the invariant from one state. -/
theorem keeps_bind_from {f : α → Proc σ ε β} {s : σ} (hm : I (m s).2)
    (hf : ∀ a, Keeps I (f a)) : I ((m >>= f) s).2 := by
  show I (bindResult f (m s)).2
  rcases hrun : m s with ⟨e | a, s'⟩
  · rw [hrun] at hm
    exact hm
  · rw [hrun] at hm
    exact hf a s' hm

theorem keeps_bind {f : α → Proc σ ε β} (hm : Keeps I m)
    (hf : ∀ a, Keeps I (f a)) : Keeps I (m >>= f) := fun s hs => keeps_bind_from (hm s hs) hf

theorem keeps_get_bind {f : σ → Proc σ ε α} (h : ∀ s, I s → I (f s s).2) : Keeps I (get >>= f) := h

theorem keeps_tryCatch {handler : ε → Proc σ ε α} (hm : Keeps I m)
    (hh : ∀ e, Keeps I (handler e)) : Keeps I (tryCatch m handler) := by
  intro s hs
  show I (catchResult handler (m s)).2
  have hs' : I (m s).2 := hm s hs
  rcases hrun : m s with ⟨e | a, s'⟩
  · rw [hrun] at hs'
    exact hh e s' hs'
  · rw [hrun] at hs'
    exact hs'

theorem keeps_forEach_of_mem {f : α → Proc σ ε Unit} {l : List α} (h : ∀ a ∈ l, Keeps I (f a)) :
    Keeps I (forEach f l) := by
  induction l with
  | nil => exact keeps_pure ()
  | cons a l ih =>
    exact keeps_bind (h a List.mem_cons_self) fun _ => ih fun a' ha' =>
      h a' (List.mem_cons_of_mem _ ha')

theorem keeps_forEach {f : α → Proc σ ε Unit} (h : ∀ a, Keeps I (f a)) (l : List α) :
    Keeps I (forEach f l) := keeps_forEach_of_mem fun a _ => h a

theorem keeps_foldEach {f : β → α → Proc σ ε β} (h : ∀ b a, Keeps I (f b a)) (b : β)
    (l : List α) : Keeps I (foldEach f b l) := by
  induction l generalizing b with
  | nil => exact keeps_pure b
  | cons a l ih => exact keeps_bind (h b a) fun b' => ih b'

end Keeps

/-! ### Pre- and postconditions -/

/-- The outcome is a value and a state with `Q`, or a throw in a state with `E`. -/
def Outcome (Q : α → σ → Prop) (E : σ → Prop) : Except ε α × σ → Prop
  | (.ok a, s) => Q a s
  | (.error _, s) => E s

/-- Started in `P`, the procedure returns with `Q` or throws with `E`. -/
def Ensures (P : σ → Prop) (m : Proc σ ε α) (Q : α → σ → Prop) (E : σ → Prop) : Prop :=
  ∀ s, P s → Outcome Q E (m s)

section Ensures

variable {P E E' I : σ → Prop} {Q Q' : α → σ → Prop}

variable {r : Except ε α × σ}

theorem Outcome.mono (h : Outcome Q E r) (hQ : ∀ a s, Q a s → Q' a s)
    (hE : ∀ s, E s → E' s) : Outcome Q' E' r := by
  obtain ⟨e | a, s⟩ := r
  · exact hE s h
  · exact hQ a s h

theorem Outcome.and (h : Outcome Q E r) (h' : Outcome Q' E' r) :
    Outcome (fun a s => Q a s ∧ Q' a s) E r := by
  obtain ⟨e | a, s⟩ := r
  · exact h
  · exact ⟨h, h'⟩

theorem Outcome.returns (h : Outcome Q (fun _ => False) r) :
    ∃ a s, r = (.ok a, s) ∧ Q a s := by
  obtain ⟨e | a, s⟩ := r
  · exact h.elim
  · exact ⟨a, s, rfl, h⟩

variable {m : Proc σ ε α}

theorem Ensures.mono (h : Ensures P m Q E) (hQ : ∀ a s, Q a s → Q' a s)
    (hE : ∀ s, E s → E' s) : Ensures P m Q' E' :=
  fun s hs => (h s hs).mono hQ hE

theorem ensures_throw (e : ε) : Ensures E (throw e : Proc σ ε α) Q E := fun _ hs => hs

theorem ensures_ite {c : Prop} [Decidable c] {n : Proc σ ε α} (hm : Ensures P m Q E)
    (hn : Ensures P n Q E) : Ensures P (if c then m else n) Q E := by
  by_cases h : c
  · rwa [if_pos h]
  · rwa [if_neg h]

theorem ensures_get_bind {f : σ → Proc σ ε α} (h : ∀ s, P s → Ensures (fun s' => s = s') (f s) Q E) :
    Ensures P (get >>= f) Q E :=
  fun s hs => h s hs s rfl

theorem ensures_of_keeps (h : Keeps I m) : Ensures I m (fun _ => I) I := by
  intro s hs
  have hs' : I (m s).2 := h s hs
  rcases hrun : m s with ⟨e | a, s'⟩
  · rwa [hrun] at hs'
  · rwa [hrun] at hs'

theorem Outcome.state (h : Outcome (fun _ => E) E r) : E r.2 := by
  obtain ⟨e | a, s⟩ := r
  · exact h
  · exact h

theorem keeps_of_ensures (h : Ensures I m (fun _ => I) I) : Keeps I m :=
  fun s hs => (h s hs).state

theorem ensures_bind {f : α → Proc σ ε β} {Q' : β → σ → Prop}
    (hm : Ensures P m Q E) (hf : ∀ a, Ensures (Q a) (f a) Q' E) : Ensures P (m >>= f) Q' E := by
  intro s hs
  show Outcome Q' E (bindResult f (m s))
  have hs' := hm s hs
  rcases hrun : m s with ⟨e | a, s'⟩
  · rwa [hrun] at hs'
  · rw [hrun] at hs'
    exact hf a s' hs'

theorem ensures_foldEach {P : β → σ → Prop} {f : β → α → Proc σ ε β}
    (h : ∀ b a, Ensures (P b) (f b a) P E) (b : β) (l : List α) :
    Ensures (P b) (foldEach f b l) P E := by
  induction l generalizing b with
  | nil => exact fun s hs => hs
  | cons a l ih => exact ensures_bind (h b a) fun b' => ih b'

theorem ensures_tryCatch {handler : ε → Proc σ ε α} (hm : Ensures P m Q E)
    (hh : ∀ e, Ensures E (handler e) Q E') : Ensures P (tryCatch m handler) Q E' := by
  intro s hs
  show Outcome Q E' (catchResult handler (m s))
  have hs' := hm s hs
  rcases hrun : m s with ⟨e | a, s'⟩
  · rw [hrun] at hs'
    exact hh e s' hs'
  · rwa [hrun] at hs'

end Ensures

/-! ### What is returned -/

/-- Whatever the procedure returns, in any state, has `P`. -/
def Returns (P : α → Prop) (m : Proc σ ε α) : Prop :=
  ∀ s a s', m s = (.ok a, s') → P a

section Returns

variable {P : α → Prop} {Q : β → Prop}

theorem returns_pure {a : α} (h : P a) : Returns P (pure a : Proc σ ε α) := by
  intro s b s' hrun
  obtain ⟨hb, -⟩ := Prod.mk.inj hrun
  rwa [← Except.ok.inj hb]

theorem returns_throw (e : ε) : Returns P (throw e : Proc σ ε α) := by
  intro s b s' hrun
  cases hrun

variable {m : Proc σ ε α}

theorem returns_ite {c : Prop} [Decidable c] {n : Proc σ ε α} (hm : c → Returns P m)
    (hn : ¬ c → Returns P n) : Returns P (if c then m else n) := by
  by_cases h : c
  · rw [if_pos h]
    exact hm h
  · rw [if_neg h]
    exact hn h

theorem returns_bind {f : α → Proc σ ε β} (hm : Returns P m)
    (hf : ∀ a, P a → Returns Q (f a)) : Returns Q (m >>= f) := by
  intro s b s' hrun
  have hrun : bindResult f (m s) = (.ok b, s') := hrun
  rcases hm' : m s with ⟨e | a, s₁⟩
  · rw [hm'] at hrun
    cases hrun
  · rw [hm'] at hrun
    exact hf a (hm s a s₁ hm') s₁ b s' hrun

theorem returns_bind_any {f : α → Proc σ ε β} (hf : ∀ a, Returns Q (f a)) : Returns Q (m >>= f) :=
  returns_bind (P := fun _ => True) (fun _ _ _ _ => trivial) fun a _ => hf a

theorem returns_foldEach {f : β → α → Proc σ ε β} {l : List α}
    (h : ∀ b, ∀ a ∈ l, Q b → Returns Q (f b a)) {b : β} (hb : Q b) :
    Returns Q (foldEach f b l) := by
  induction l generalizing b with
  | nil => exact returns_pure hb
  | cons a l ih =>
    have hrest : ∀ b' : β, Q b' → Returns Q (foldEach f b' l) := fun b' hb' =>
      ih (fun b c hc => h b c (List.mem_cons_of_mem a hc)) hb'
    exact returns_bind (h b a List.mem_cons_self hb) hrest

end Returns

/-- Started in `P`, the procedure does not throw `e`. -/
def Spares (e : ε) (P : σ → Prop) (m : Proc σ ε α) : Prop := ∀ s, P s → (m s).1 ≠ .error e

section Spares

variable {e : ε} {P E : σ → Prop} {Q : α → σ → Prop}

theorem spares_pure (a : α) : Spares e P (pure a : Proc σ ε α) := fun _ _ => nofun

theorem spares_throw {e' : ε} (h : e' ≠ e) : Spares e P (throw e' : Proc σ ε α) :=
  fun _ _ heq => h (Except.error.inj heq)

theorem spares_modify (f : σ → σ) : Spares e P (modify f : Proc σ ε Unit) := fun _ _ => nofun

theorem spares_get : Spares e P (get : Proc σ ε σ) := fun _ _ => nofun

variable {m : Proc σ ε α}

theorem spares_ite {c : Prop} [Decidable c] {n : Proc σ ε α} (hm : Spares e P m)
    (hn : Spares e P n) : Spares e P (if c then m else n) := by
  by_cases h : c
  · rwa [if_pos h]
  · rwa [if_neg h]

theorem spares_throwIf (c : Prop) [Decidable c] {e' : ε} (h : e' ≠ e) :
    Spares e P (throwIf c e' : Proc σ ε Unit) :=
  spares_ite (spares_throw h) (spares_pure ())

theorem Ensures.spares (h : Ensures P m Q fun _ => False) : Spares e P m := by
  intro s hs
  obtain ⟨a, s', hrun, -⟩ := (h s hs).returns
  rw [hrun]
  exact nofun

theorem spares_bind {f : α → Proc σ ε β} (hm : Spares e P m)
    (hensures : Ensures P m Q E) (hf : ∀ a, Spares e (Q a) (f a)) : Spares e P (m >>= f) := by
  intro s hs
  show (bindResult f (m s)).1 ≠ .error e
  have hm' : (m s).1 ≠ .error e := hm s hs
  have hs' := hensures s hs
  rcases hrun : m s with ⟨e' | a, s'⟩
  · rw [hrun] at hm'
    exact fun heq => hm' (congrArg Except.error (Except.error.inj heq))
  · rw [hrun] at hs'
    exact hf a s' hs'

theorem spares_bind_any {f : α → Proc σ ε β} (hm : Spares e P m)
    (hf : ∀ a, Spares e (fun _ => True) (f a)) : Spares e P (m >>= f) :=
  spares_bind (Q := fun _ _ => True) (E := fun _ => True) hm
    (fun s _ => by rcases m s with ⟨e' | a, s'⟩ <;> trivial) hf

theorem spares_forEach {f : α → Proc σ ε Unit} (h : ∀ a, Spares e (fun _ => True) (f a))
    (l : List α) : Spares e (fun _ => True) (forEach f l) := by
  induction l with
  | nil => exact spares_pure ()
  | cons a l ih => exact spares_bind_any (h a) fun _ => ih

theorem spares_zoom {part : τ → σ} {put : σ → τ → τ}
    (h : Spares e (fun _ => True) m) {P : τ → Prop} : Spares e P (zoom part put m) :=
  fun t _ => h (part t) trivial

end Spares

/-! ### Simulation -/

/-- In states with `I`, the first procedure keeps `I` and does not restore `good` once it is lost; and
as long as `good` is not lost, the two procedures return the same and keep the states related. -/
structure Simulates (I : σ → Prop) (R : σ → τ → Prop) (good : σ → Prop) (m : Proc σ ε α)
    (m' : Proc τ ε α) : Prop where
  keeps : Keeps I m
  loses : ∀ s, I s → good (m s).2 → good s
  same : ∀ s t, I s → R s t → good (m s).2 → (m s).1 = (m' t).1 ∧ R (m s).2 (m' t).2

section Simulates

variable {I : σ → Prop} {R : σ → τ → Prop} {good : σ → Prop}

theorem simulates_pure (a : α) : Simulates I R good (pure a : Proc σ ε α) (pure a) :=
  ⟨keeps_pure a, fun _ _ h => h, fun _ _ _ h _ => ⟨rfl, h⟩⟩

theorem simulates_throw (e : ε) : Simulates I R good (throw e : Proc σ ε α) (throw e) :=
  ⟨keeps_throw e, fun _ _ h => h, fun _ _ _ h _ => ⟨rfl, h⟩⟩

variable {m : Proc σ ε α} {m' : Proc τ ε α}

theorem simulates_ite {c : Prop} [Decidable c] {n : Proc σ ε α} {n' : Proc τ ε α}
    (hm : Simulates I R good m m') (hn : Simulates I R good n n') :
    Simulates I R good (if c then m else n) (if c then m' else n') := by
  by_cases h : c
  · rw [if_pos h, if_pos h]
    exact hm
  · rw [if_neg h, if_neg h]
    exact hn

theorem simulates_throwIf (c : Prop) [Decidable c] (e : ε) :
    Simulates I R good (throwIf c e : Proc σ ε Unit) (throwIf c e) :=
  simulates_ite (simulates_throw e) (simulates_pure ())

theorem simulates_get_bind {R : σ → σ → Prop} {f f' : σ → Proc σ ε α} (p : σ → β)
    (hp : ∀ s t, I s → R s t → p s = p t)
    (hf : ∀ s t, p s = p t → Simulates I R good (f s) (f' t)) :
    Simulates I R good (get >>= f) (get >>= f') :=
  ⟨fun s hI => (hf s s rfl).keeps s hI, fun s hI hgood => (hf s s rfl).loses s hI hgood,
    fun s t hI hst hgood => (hf s t (hp s t hI hst)).same s t hI hst hgood⟩

theorem simulates_modify {f : σ → σ} {f' : τ → τ} (hI : ∀ s, I s → I (f s))
    (hgood : ∀ s, I s → good (f s) → good s) (hR : ∀ s t, I s → R s t → R (f s) (f' t)) :
    Simulates I R good (modify f : Proc σ ε Unit) (modify f') :=
  ⟨hI, hgood, fun s t hs hst _ => ⟨rfl, hR s t hs hst⟩⟩

variable {f : α → Proc σ ε β} {f' : α → Proc τ ε β}

/-- What comes after a step does not restore `good`. -/
theorem good_of_bind {P : α → Prop} {r : Except ε α × σ}
    (hP : Outcome (fun a _ => P a) (fun _ => True) r)
    (hf : ∀ a, P a → Simulates I R good (f a) (f' a)) (hI : I r.2)
    (h : good (bindResult f r).2) : good r.2 := by
  obtain ⟨e | a, s⟩ := r
  · exact h
  · exact (hf a hP).loses s hI h

theorem simulates_bind_ensures {P : α → Prop} (hm : Simulates I R good m m')
    (hP : Ensures I m (fun a _ => P a) fun _ => True)
    (hf : ∀ a, P a → Simulates I R good (f a) (f' a)) :
    Simulates I R good (m >>= f) (m' >>= f') := by
  refine ⟨fun s hI => ?_, fun s hI hgood => ?_, fun s t hI hst hgood => ?_⟩
  · show I (bindResult f (m s)).2
    have hI' : I (m s).2 := hm.keeps s hI
    have ha := hP s hI
    rcases hrun : m s with ⟨e | a, s'⟩
    · rwa [hrun] at hI'
    · rw [hrun] at hI' ha
      exact (hf a ha).keeps s' hI'
  · exact hm.loses s hI (good_of_bind (hP s hI) hf (hm.keeps s hI) hgood)
  · have hgood' : good (bindResult f (m s)).2 := hgood
    have hI' : I (m s).2 := hm.keeps s hI
    have ha := hP s hI
    have hsame := hm.same s t hI hst (good_of_bind ha hf hI' hgood)
    show (bindResult f (m s)).1 = (bindResult f' (m' t)).1 ∧
      R (bindResult f (m s)).2 (bindResult f' (m' t)).2
    rcases hrun : m s with ⟨e | a, s'⟩ <;> rcases hrun' : m' t with ⟨r, t'⟩
    · rw [hrun, hrun'] at hsame
      obtain ⟨hres, hR⟩ := hsame
      obtain rfl : Except.error e = r := hres
      exact ⟨rfl, hR⟩
    · rw [hrun] at hgood' hI' ha
      rw [hrun, hrun'] at hsame
      obtain ⟨hres, hR⟩ := hsame
      obtain rfl : Except.ok a = r := hres
      exact (hf a ha).same s' t' hI' hR hgood'

theorem simulates_bind (hm : Simulates I R good m m')
    (hf : ∀ a, Simulates I R good (f a) (f' a)) : Simulates I R good (m >>= f) (m' >>= f') := by
  refine simulates_bind_ensures (P := fun _ => True) hm (fun s _ => ?_) fun a _ => hf a
  rcases m s with ⟨e | a, s'⟩ <;> trivial

theorem good_of_tryCatch {r : Except ε α × σ} {h : ε → Proc σ ε α} {h' : ε → Proc τ ε α}
    (hh : ∀ e, Simulates I R good (h e) (h' e)) (hI : I r.2)
    (hgood : good (catchResult h r).2) : good r.2 := by
  obtain ⟨e | a, s⟩ := r
  · exact (hh e).loses s hI hgood
  · exact hgood

theorem simulates_tryCatch {h : ε → Proc σ ε α} {h' : ε → Proc τ ε α} (hm : Simulates I R good m m')
    (hh : ∀ e, Simulates I R good (h e) (h' e)) :
    Simulates I R good (tryCatch m h) (tryCatch m' h') := by
  refine ⟨keeps_tryCatch hm.keeps fun e => (hh e).keeps, fun s hI hgood => ?_,
    fun s t hI hst hgood => ?_⟩
  · exact hm.loses s hI (good_of_tryCatch hh (hm.keeps s hI) hgood)
  · have hgood' : good (catchResult h (m s)).2 := hgood
    have hI' : I (m s).2 := hm.keeps s hI
    have hsame := hm.same s t hI hst (good_of_tryCatch hh hI' hgood)
    show (catchResult h (m s)).1 = (catchResult h' (m' t)).1 ∧
      R (catchResult h (m s)).2 (catchResult h' (m' t)).2
    rcases hrun : m s with ⟨e | a, s'⟩ <;> rcases hrun' : m' t with ⟨r, t'⟩
    · rw [hrun] at hgood' hI'
      rw [hrun, hrun'] at hsame
      obtain ⟨hres, hR⟩ := hsame
      obtain rfl : Except.error e = r := hres
      exact (hh e).same s' t' hI' hR hgood'
    · rw [hrun, hrun'] at hsame
      obtain ⟨hres, hR⟩ := hsame
      obtain rfl : Except.ok a = r := hres
      exact ⟨rfl, hR⟩

theorem simulates_forEach {f : α → Proc σ ε Unit} {f' : α → Proc τ ε Unit}
    (h : ∀ a, Simulates I R good (f a) (f' a)) (l : List α) :
    Simulates I R good (forEach f l) (forEach f' l) := by
  induction l with
  | nil => exact simulates_pure ()
  | cons a l ih => exact simulates_bind (h a) fun _ => ih

theorem simulates_foldEach {f : β → α → Proc σ ε β} {f' : β → α → Proc τ ε β}
    (h : ∀ b a, Simulates I R good (f b a) (f' b a)) (b : β) (l : List α) :
    Simulates I R good (foldEach f b l) (foldEach f' b l) := by
  induction l generalizing b with
  | nil => exact simulates_pure b
  | cons a l ih => exact simulates_bind (h b a) fun b' => ih b'

end Simulates

end Proc

end OpnetNode
