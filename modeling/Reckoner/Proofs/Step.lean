import Mathlib

/-!
Steps that change a state and can fail.

The parser and the evaluation of trees are written as such steps. What a step gives is a
result and the state after it; each way of putting steps together has its lemma here, so
that proofs about either take a step apart without unfolding the monad.

* `Step.on`: what a step gives in a state;
* `Step.on_bind`, `Step.on_bind_ok`: one step after another;
* `Step.Keeps`: steps that keep an invariant of the states, with a rule for each way of putting
  steps together;
* `Step.Gives`: what holds of all that a step gives, from whatever state, and how it changes a part
  of the state, with the same rules.
-/

namespace Reckoner

namespace Step

variable {ε σ α β : Type}

/-- The result of a step in a state, and the state after it. -/
def on (x : ExceptT ε (StateM σ) α) (s : σ) : Except ε α × σ := x.run.run s

@[simp] lemma on_pure (a : α) (s : σ) :
    on (pure a : ExceptT ε (StateM σ) α) s = (.ok a, s) := rfl

lemma on_bind (x : ExceptT ε (StateM σ) α) (f : α → ExceptT ε (StateM σ) β) (s : σ) :
    on (x >>= f) s
      = match on x s with
        | (.ok a, s') => on (f a) s'
        | (.error e, s') => (.error e, s') := by
  show on (ExceptT.bind x f) s = _
  simp only [on, ExceptT.bind, ExceptT.run, ExceptT.mk, StateT.run, bind, StateT.bind]
  rcases x s with ⟨_ | _, s'⟩ <;> rfl

/-- Steps succeed one after the other. -/
lemma on_bind_ok {x : ExceptT ε (StateM σ) α} {f : α → ExceptT ε (StateM σ) β} {s s'' : σ}
    {b : β} :
    on (x >>= f) s = (.ok b, s'')
      ↔ ∃ a s', on x s = (.ok a, s') ∧ on (f a) s' = (.ok b, s'') := by
  rw [on_bind]
  rcases on x s with ⟨_ | a, s'⟩ <;> simp

/-- Of two steps the first one fails, or the second one. -/
lemma on_bind_error {x : ExceptT ε (StateM σ) α} {f : α → ExceptT ε (StateM σ) β} {s s'' : σ}
    {e : ε} :
    on (x >>= f) s = (.error e, s'')
      ↔ on x s = (.error e, s'')
        ∨ ∃ a s', on x s = (.ok a, s') ∧ on (f a) s' = (.error e, s'') := by
  rw [on_bind]
  rcases on x s with ⟨_ | a, s'⟩ <;> simp

lemma on_bind_of_ok {x : ExceptT ε (StateM σ) α} {s s' : σ} {a : α}
    (h : on x s = (.ok a, s')) (f : α → ExceptT ε (StateM σ) β) :
    on (x >>= f) s = on (f a) s' := by
  rw [on_bind, h]

lemma on_bind_of_error {x : ExceptT ε (StateM σ) α} {s s' : σ} {e : ε}
    (h : on x s = (.error e, s')) (f : α → ExceptT ε (StateM σ) β) :
    on (x >>= f) s = (.error e, s') := by
  rw [on_bind, h]

lemma discard_bind (x : ExceptT ε (StateM σ) α) (f : Unit → ExceptT ε (StateM σ) β) :
    (discard x >>= f) = (x >>= fun _ => f ()) := by
  funext s
  show on (discard x >>= f) s = on (x >>= fun _ => f ()) s
  rw [on_bind, show on (discard x) s = on (x >>= fun _ => pure ()) s from rfl, on_bind, on_bind]
  rcases on x s with ⟨_ | _, s'⟩ <;> rfl

@[simp] lemma on_get_bind (f : σ → ExceptT ε (StateM σ) β) (s : σ) :
    on (get >>= f) s = on (f s) s := rfl

/-! ### Invariants -/

section Invariants

variable {I : σ → Prop} {E : ε → Prop}

/-- From a state with the invariant `I` a step leads to another one, and `E` holds of what it
fails with. -/
def Keeps (I : σ → Prop) (E : ε → Prop) (x : ExceptT ε (StateM σ) α) : Prop :=
  ∀ s, I s → I (on x s).2 ∧ ∀ e, (on x s).1 = .error e → E e

lemma keeps_pure (a : α) : Keeps I E (pure a : ExceptT ε (StateM σ) α) := by
  intro s hs
  exact ⟨hs, by simp⟩

lemma keeps_throw {e : ε} (h : E e) : Keeps I E (throw e : ExceptT ε (StateM σ) α) := by
  intro s hs
  refine ⟨hs, ?_⟩
  rintro _ ⟨⟩
  exact h

lemma keeps_modify {g : σ → σ} (h : ∀ s, I s → I (g s)) :
    Keeps I E (modify g : ExceptT ε (StateM σ) Unit) := by
  intro s hs
  refine ⟨h s hs, ?_⟩
  rintro _ ⟨⟩

lemma Keeps.bind {x : ExceptT ε (StateM σ) α} {f : α → ExceptT ε (StateM σ) β}
    (hx : Keeps I E x) (hf : ∀ a, Keeps I E (f a)) : Keeps I E (x >>= f) := by
  intro s hs
  obtain ⟨hs', he⟩ := hx s hs
  rcases hon : on x s with ⟨e | a, s'⟩
  · rw [on_bind_of_error hon]
    rw [hon] at hs' he
    exact ⟨hs', by simpa using he⟩
  · rw [on_bind_of_ok hon]
    rw [hon] at hs'
    exact hf a s' hs'

lemma keeps_get_bind {f : σ → ExceptT ε (StateM σ) β} (hf : ∀ s, I s → Keeps I E (f s)) :
    Keeps I E (get >>= f) := fun s hs => hf s hs s hs

end Invariants

/-! ### What a step gives -/

section Gives

variable {κ : Type} {part : σ → κ} {g : κ → κ} {P P' : α → Prop} {Q : β → Prop}

/-- In whatever state a step succeeds, `P` holds of what it gives, and it changes a part of the
state by `g`. -/
def Gives (P : α → Prop) (part : σ → κ) (g : κ → κ) (x : ExceptT ε (StateM σ) α) : Prop :=
  ∀ s a s', on x s = (.ok a, s') → P a ∧ part s' = g (part s)

lemma gives_pure {a : α} (h : P a) : Gives P part id (pure a : ExceptT ε (StateM σ) α) := by
  rintro s _ s' ⟨⟩
  exact ⟨h, rfl⟩

lemma gives_throw (e : ε) : Gives P part g (throw e : ExceptT ε (StateM σ) α) := by
  rintro s a s' ⟨⟩

lemma gives_modify {f : σ → σ} (h : ∀ s, part (f s) = g (part s)) :
    Gives (fun _ => True) part g (modify f : ExceptT ε (StateM σ) Unit) := by
  rintro s _ s' ⟨⟩
  exact ⟨trivial, h s⟩

lemma gives_get_bind {f : σ → ExceptT ε (StateM σ) β} (hf : ∀ s, Gives Q part g (f s)) :
    Gives Q part g (get >>= f) := fun s b s' h => hf s s b s' h

lemma Gives.imp {x : ExceptT ε (StateM σ) α} (hx : Gives P part g x) (h : ∀ a, P a → P' a) :
    Gives P' part g x := fun s a s' ha => (hx s a s' ha).imp_left (h a)

/-- The changes of two steps are made one after the other. -/
lemma Gives.bind {g₁ g₂ : κ → κ} {x : ExceptT ε (StateM σ) α} {f : α → ExceptT ε (StateM σ) β}
    (hx : Gives P part g₁ x) (hf : ∀ a, P a → Gives Q part g₂ (f a)) (hg : ∀ k, g₂ (g₁ k) = g k) :
    Gives Q part g (x >>= f) := by
  intro s b s'' h
  obtain ⟨a, s', ha, hb⟩ := on_bind_ok.mp h
  obtain ⟨hP, hpart⟩ := hx s a s' ha
  obtain ⟨hQ, hpart'⟩ := hf a hP s' b s'' hb
  exact ⟨hQ, by rw [hpart', hpart, hg]⟩

/-- A step that keeps the part may stand in front of any other. -/
lemma Gives.then {x : ExceptT ε (StateM σ) α} {f : α → ExceptT ε (StateM σ) β}
    (hx : Gives P part id x) (hf : ∀ a, P a → Gives Q part g (f a)) : Gives Q part g (x >>= f) :=
  hx.bind hf fun _ => rfl

end Gives

end Step

end Reckoner
