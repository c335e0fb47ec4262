import Stencil.Fault

namespace Stencil.Action

/-!
# Running actions

An action is a function of the state; these equations say what each of its parts does to it. A failure keeps
the state that was reached before it. How a sequence ends does not depend on what failures are.

* `Action.bind_apply`, `Action.tryCatch_apply` — one action after another, and one after the failure of another;
* `Action.bind_eq_ok` — a sequence succeeds exactly if both of its parts do;
* `Action.Ends`, `Action.Ends.bind` — two runs that end alike, and sequences of which both parts do.
-/

variable {ε σ α β : Type}

@[simp] theorem pure_apply (a : α) (s : σ) : (pure a : Action σ α) s = (.ok a, s) := rfl

@[simp] theorem throw_apply (f : Fault) (s : σ) : (throw f : Action σ α) s = (.error f, s) := rfl

@[simp] theorem get_apply (s : σ) : (get : Action σ σ) s = (.ok s, s) := rfl

@[simp] theorem set_apply (s s' : σ) : (set s' : Action σ PUnit) s = (.ok ⟨⟩, s') := rfl

@[simp] theorem modify_apply (f : σ → σ) (s : σ) :
    (modify f : Action σ PUnit) s = (.ok ⟨⟩, f s) := rfl

@[simp] theorem ofExcept_apply (x : Except Fault α) (s : σ) : ofExcept x s = (x, s) := rfl

theorem ofExcept_eq {x r : Except Fault α} {s s' : σ} : ofExcept x s = (r, s') ↔ x = r ∧ s = s' := by
  rw [ofExcept_apply, Prod.mk.injEq]

theorem bind_apply (x : ExceptT ε (StateM σ) α) (f : α → ExceptT ε (StateM σ) β) (s : σ) :
    (x >>= f) s = match x s with
      | (.ok a, s') => f a s'
      | (.error e, s') => (.error e, s') := by
  show (match x s with | (r, s') => ExceptT.bindCont f r s') = _
  rcases x s with ⟨_ | a, s'⟩ <;> rfl

theorem map_apply (f : α → β) (x : Action σ α) (s : σ) : (f <$> x) s = ((x s).1.map f, (x s).2) := by
  rw [map_eq_pure_bind, bind_apply]
  rcases x s with ⟨_ | a, s'⟩ <;> rfl

theorem tryCatch_apply (x : Action σ α) (f : Fault → Action σ α) (s : σ) :
    (tryCatch x f) s = match x s with
      | (.ok a, s') => (.ok a, s')
      | (.error e, s') => f e s' := by
  simp only [tryCatch, tryCatchThe, MonadExceptOf.tryCatch, ExceptT.tryCatch, ExceptT.mk, bind]
  unfold StateT.bind
  rcases x s with ⟨_ | a, s'⟩ <;> rfl

/-- A sequence of actions ends either with the failure of the first one, or as the second one does. -/
theorem bind_eq {x : ExceptT ε (StateM σ) α} {f : α → ExceptT ε (StateM σ) β} {s s' : σ} {r : Except ε β} :
    (x >>= f) s = (r, s') ↔
      (∃ e, x s = (.error e, s') ∧ r = .error e) ∨ ∃ a s₁, x s = (.ok a, s₁) ∧ f a s₁ = (r, s') := by
  rw [bind_apply]
  rcases hx : x s with ⟨e | a, s₁⟩
  · constructor
    · intro h
      obtain ⟨rfl, rfl⟩ := Prod.mk.inj h
      exact .inl ⟨e, rfl, rfl⟩
    · rintro (⟨e', he, rfl⟩ | ⟨a, s₂, ha, -⟩)
      · obtain ⟨he, rfl⟩ := Prod.mk.inj he
        cases he
        rfl
      · cases ha
  · constructor
    · exact fun h => .inr ⟨a, s₁, rfl, h⟩
    · rintro (⟨e, he, -⟩ | ⟨a', s₂, ha, h⟩)
      · cases he
      · cases ha
        exact h

/-- What follows a look at the state sees the state. -/
theorem get_bind_apply (f : σ → ExceptT ε (StateM σ) β) (s : σ) : (get >>= f) s = f s s := rfl

/-- A sequence of actions succeeds exactly if both of its parts do. -/
theorem bind_eq_ok {x : ExceptT ε (StateM σ) α} {f : α → ExceptT ε (StateM σ) β} {s s' : σ} {b : β} :
    (x >>= f) s = (.ok b, s') ↔ ∃ a s₁, x s = (.ok a, s₁) ∧ f a s₁ = (.ok b, s') := by
  rw [bind_eq]
  simp

/-- A sequence of computations without a state succeeds exactly if both of its parts do. -/
theorem except_bind_eq_ok {x : Except ε α} {f : α → Except ε β} {b : β} :
    (x >>= f) = .ok b ↔ ∃ a, x = .ok a ∧ f a = .ok b := by
  cases x <;> simp [bind, Except.bind]

/-- A result does not depend on what failures are called. -/
theorem mapError_eq_ok {ε' : Type} {x : Except ε α} {f : ε → ε'} {a : α} : x.mapError f = .ok a ↔ x = .ok a := by
  rcases x with e | a'
  · exact ⟨nofun, nofun⟩
  · exact ⟨fun h => congrArg Except.ok (Except.ok.inj h), fun h => congrArg Except.ok (Except.ok.inj h)⟩

/-! ### Two runs -/

/-- Two runs end alike: both give a result, or both fail in the same way, and they leave related states. -/
inductive Ends (R : σ → σ → Prop) (V : α → α → Prop) : Except ε α × σ → Except ε α × σ → Prop
  | ok {a a' : α} {s s' : σ} : V a a' → R s s' → Ends R V (.ok a, s) (.ok a', s')
  | error (e : ε) {s s' : σ} : R s s' → Ends R V (.error e, s) (.error e, s')

variable {R : σ → σ → Prop} {V : α → α → Prop} {W : β → β → Prop}

/-- A computation without a state ends alike in related states. -/
theorem Ends.of_eq {r : Except ε α} {s s' : σ} (h : R s s') : Ends R (· = ·) (r, s) (r, s') := by
  cases r with
  | ok a => exact .ok rfl h
  | error e => exact .error e h

/-- Sequences end alike if their first parts do, and then their second parts. -/
theorem Ends.bind {x x' : ExceptT ε (StateM σ) α} {f f' : α → ExceptT ε (StateM σ) β} {s s' : σ}
    (h : Ends R V (x s) (x' s')) (hf : ∀ a a' s₁ s₁', V a a' → R s₁ s₁' → Ends R W (f a s₁) (f' a' s₁')) :
    Ends R W ((x >>= f) s) ((x' >>= f') s') := by
  rw [bind_apply, bind_apply]
  generalize x s = first, x' s' = second at h ⊢
  cases h with
  | ok hv hs => exact hf _ _ _ _ hv hs
  | error e hs => exact .error e hs

end Stencil.Action
