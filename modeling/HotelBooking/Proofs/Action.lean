import HotelBooking.Action
import Mathlib.Control.Monad.Basic
import Mathlib.Order.Defs.Unbundled

/-!
# Effects of operations

An operation keeps what it did before an error, so its effect is a function of the state alone, in
`after`. What one operation may do to the state is a relation between the states before and after
it. A preorder carries over from the parts of an operation to the whole: `Moves` is closed under
everything that operations are built from.
-/

namespace HotelBooking.Action

variable {σ τ ε ε' α β : Type}

@[simp] theorem pure_apply (a : α) (s : σ) : (pure a : Action σ ε α) s = .ok a s := rfl

@[simp] theorem throw_apply (e : ε) (s : σ) : (throw e : Action σ ε α) s = .error e s := rfl

theorem bind_apply (x : Action σ ε α) (f : α → Action σ ε β) (s : σ) :
    (x >>= f) s = match x s with
      | .ok a t => f a t
      | .error e t => .error e t := by
  change EStateM.bind x f s = _
  unfold EStateM.bind
  cases x s <;> rfl

theorem bind_ok {x : Action σ ε α} {s t : σ} {a : α} (f : α → Action σ ε β) (h : x s = .ok a t) :
    (x >>= f) s = f a t := by
  rw [bind_apply, h]

theorem bind_error {x : Action σ ε α} {s t : σ} {e : ε} (f : α → Action σ ε β)
    (h : x s = .error e t) : (x >>= f) s = .error e t := by
  rw [bind_apply, h]

theorem bind_eq_ok_iff {x : Action σ ε α} {f : α → Action σ ε β} {s u : σ} {b : β} :
    (x >>= f) s = .ok b u ↔ ∃ a t, x s = .ok a t ∧ f a t = .ok b u := by
  rw [bind_apply]
  cases x s with
  | ok a t =>
      constructor
      · intro h
        exact ⟨a, t, rfl, h⟩
      · rintro ⟨a', t', h, h'⟩
        cases h
        exact h'
  | error e t => simp

theorem discard_eq_ok_iff {x : Action σ ε α} {s t : σ} :
    (do let _ ← x : Action σ ε Unit) s = .ok () t ↔ ∃ a, x s = .ok a t := by
  rw [bind_eq_ok_iff]
  simp

theorem discard_eq_error_iff {x : Action σ ε α} {s t : σ} {e : ε} :
    (do let _ ← x : Action σ ε Unit) s = .error e t ↔ x s = .error e t := by
  rw [bind_apply]
  cases x s with
  | ok a u => simp
  | error e' u => simp

@[simp] theorem ofExcept_ok (a : α) (s : σ) : (ofExcept (.ok a) : Action σ ε α) s = .ok a s := rfl

@[simp] theorem ofExcept_error (e : ε) (s : σ) :
    (ofExcept (.error e) : Action σ ε α) s = .error e s := rfl

theorem ofExcept_eq_ok_iff {r : Except ε α} {s t : σ} {a : α} :
    (ofExcept r : Action σ ε α) s = .ok a t ↔ r = .ok a ∧ s = t := by
  cases r with
  | ok b => simp
  | error e => simp

theorem mapError_apply (f : ε → ε') (x : Action σ ε α) (s : σ) :
    x.mapError f s = match x s with
      | .ok a t => .ok a t
      | .error e t => .error (f e) t := rfl

theorem mapError_eq_ok_iff {f : ε → ε'} {x : Action σ ε α} {s t : σ} {a : α} :
    x.mapError f s = .ok a t ↔ x s = .ok a t := by
  rw [mapError_apply]
  cases x s with
  | ok b u => simp
  | error e u => simp

theorem mapError_error {x : Action σ ε α} {s t : σ} {e : ε} (f : ε → ε') (h : x s = .error e t) :
    x.mapError f s = .error (f e) t := by
  rw [mapError_apply, h]

theorem attempt_apply (x : Action σ ε α) (s : σ) :
    (x.attempt : Action σ ε' _) s = match x s with
      | .ok a t => .ok (.ok a) t
      | .error e t => .ok (.error e) t := rfl

/-- The state that an operation leaves, whether it fails or not. -/
def after (x : Action σ ε α) (s : σ) : σ := (x.outcome s).2

theorem after_of_ok {x : Action σ ε α} {s t : σ} {a : α} (h : x s = .ok a t) : x.after s = t := by
  rw [after, outcome, h]

theorem after_of_error {x : Action σ ε α} {s t : σ} {e : ε} (h : x s = .error e t) :
    x.after s = t := by
  rw [after, outcome, h]

theorem after_congr {x y : Action σ ε α} {s t : σ} (h : x s = y t) : x.after s = y.after t := by
  rw [after, outcome, h]
  rfl

@[simp] theorem after_attempt (x : Action σ ε α) (s : σ) :
    (x.attempt : Action σ ε' _).after s = x.after s := by
  unfold after outcome
  rw [attempt_apply]
  cases x s <;> rfl

@[simp] theorem after_mapError (f : ε → ε') (x : Action σ ε α) (s : σ) :
    (x.mapError f).after s = x.after s := by
  unfold after outcome
  rw [mapError_apply]
  cases x s <;> rfl

@[simp] theorem after_return (x : Action σ ε α) (g : α → β) (s : σ) :
    (do return g (← x) : Action σ ε β).after s = x.after s := by
  unfold after outcome
  rw [bind_apply]
  cases x s <;> rfl

theorem eq_ok_of_outcome {x : Action σ ε α} {s : σ} {a : α} (h : (x.outcome s).1 = .ok a) :
    x s = .ok a (x.after s) := by
  unfold after
  unfold outcome at h ⊢
  cases hx : x s with
  | ok b t =>
      rw [hx] at h
      cases h
      rfl
  | error e t =>
      rw [hx] at h
      cases h

theorem eq_error_of_outcome {x : Action σ ε α} {s : σ} {e : ε} (h : (x.outcome s).1 = .error e) :
    x s = .error e (x.after s) := by
  unfold after
  unfold outcome at h ⊢
  cases hx : x s with
  | ok b t =>
      rw [hx] at h
      cases h
  | error e t =>
      rw [hx] at h
      cases h
      rfl

theorem after_bind_ok {x : Action σ ε α} {s t : σ} {a : α} (f : α → Action σ ε β)
    (h : x s = .ok a t) : (x >>= f).after s = (f a).after t := by
  simp only [after, outcome, bind_ok f h]

@[simp] theorem after_discard (x : Action σ ε α) (s : σ) :
    (do let _ ← x : Action σ ε Unit).after s = x.after s := by
  unfold after outcome
  rw [bind_apply]
  cases x s <;> rfl

theorem zoom_after (get : σ → τ) (set : τ → σ → σ) (x : Action τ ε α) (s : σ) :
    (x.zoom get set).after s = set (x.after (get s)) s := by
  unfold after outcome zoom
  cases x (get s) <;> rfl

/-- Whatever the state is, the operation leads to one that is related to it. -/
def Moves (R : σ → σ → Prop) (x : Action σ ε α) : Prop := ∀ s, R s (x.after s)

namespace Moves

variable {R S : σ → σ → Prop} {x : Action σ ε α} {f : α → Action σ ε β}

theorem mono (h : ∀ s t, R s t → S s t) (hx : x.Moves R) : x.Moves S :=
  fun s => h s _ (hx s)

theorem of_ok (hx : x.Moves R) {s t : σ} {a : α} (h : x s = .ok a t) : R s t :=
  after_of_ok h ▸ hx s

theorem of_error (hx : x.Moves R) {s t : σ} {e : ε} (h : x s = .error e t) : R s t :=
  after_of_error h ▸ hx s

protected theorem pure [Std.Refl R] (a : α) : (pure a : Action σ ε α).Moves R :=
  fun s => Std.Refl.refl s

protected theorem throw [Std.Refl R] (e : ε) : (throw e : Action σ ε α).Moves R :=
  fun s => Std.Refl.refl s

protected theorem ofExcept [Std.Refl R] (r : Except ε α) : (ofExcept r : Action σ ε α).Moves R := by
  intro s
  cases r with
  | ok a => exact Std.Refl.refl s
  | error e => exact Std.Refl.refl s

protected theorem bind [IsTrans σ R] (hx : x.Moves R) (hf : ∀ a, (f a).Moves R) :
    (x >>= f).Moves R := by
  intro s
  cases h : x s with
  | ok a t =>
      rw [after_bind_ok f h]
      exact IsTrans.trans _ _ _ (hx.of_ok h) (hf a t)
  | error e t =>
      rw [after_of_error (bind_error f h)]
      exact hx.of_error h

/-- What comes after the first part stays within `R`. -/
theorem after_bind [Std.Refl R] (hf : ∀ a, (f a).Moves R) (s : σ) :
    R (x.after s) ((x >>= f).after s) := by
  cases h : x s with
  | ok a t =>
      rw [after_of_ok h, after_bind_ok f h]
      exact hf a t
  | error e t =>
      rw [after_of_error h, after_of_error (bind_error f h)]
      exact Std.Refl.refl t

protected theorem mapError (g : ε → ε') (hx : x.Moves R) : (x.mapError g).Moves R := by
  intro s
  rw [after_mapError]
  exact hx s

protected theorem attempt (hx : x.Moves R) : (x.attempt : Action σ ε' _).Moves R := by
  intro s
  rw [after_attempt]
  exact hx s

end Moves

/-- The two states agree in `f`. -/
def Same (f : σ → τ) (s t : σ) : Prop := f t = f s

instance (f : σ → τ) : IsPreorder σ (Same f) where
  refl _ := rfl
  trans _ _ _ h h' := Eq.trans h' h

section
variable {f : σ → τ} {S : τ → τ → Prop}

/-- The second part decides, where the first succeeds and leaves `f` alone. -/
theorem after_bind_same {x : Action σ ε α} {k : α → Action σ ε β} {s t : σ} {a : α} (hx : x s = .ok a t)
    (ht : f t = f s) (hk : (k a).Moves (InvImage S f)) : S (f s) (f ((x >>= k).after s)) := by
  rw [after_bind_ok k hx, ← ht]
  exact hk t

namespace Moves

/-- What is carried on with decides, where the attempt leaves `f` alone. -/
theorem attempt_bind {x : Action σ ε α} (hx : x.Moves (Same f)) {k : Except ε α → Action σ ε' β}
    (hk : ∀ r, (k r).Moves (InvImage S f)) : (x.attempt >>= k).Moves (InvImage S f) := by
  intro s
  cases h : x s with
  | ok a t => exact after_bind_same (by rw [attempt_apply, h]) (hx.of_ok h) (hk (.ok a))
  | error e t => exact after_bind_same (by rw [attempt_apply, h]) (hx.of_error h) (hk (.error e))

/-- The first part decides, where the rest leaves `f` alone. -/
theorem bind_same {x : Action σ ε α} (hx : x.Moves (InvImage S f)) {k : α → Action σ ε β}
    (hk : ∀ a, (k a).Moves (Same f)) : (x >>= k).Moves (InvImage S f) := by
  intro s
  have hrest : f ((x >>= k).after s) = f (x.after s) := after_bind hk s
  rw [InvImage, hrest]
  exact hx s

end Moves

end

/-- If the property holds of the first state, it holds of the second. -/
def Preserved (p : σ → Prop) (s t : σ) : Prop := p s → p t

instance (p : σ → Prop) : IsPreorder σ (Preserved p) where
  refl _ := id
  trans _ _ _ h h' := h' ∘ h

/-- Whatever the state is, the operation fails for one of these reasons, if it fails. -/
def ErrorsIn (P : ε → Prop) (x : Action σ ε α) : Prop := ∀ s e t, x s = .error e t → P e

namespace ErrorsIn

variable {P : ε → Prop} {x : Action σ ε α} {f : α → Action σ ε β}

protected theorem pure (a : α) : (pure a : Action σ ε α).ErrorsIn P := by
  intro s e t h
  contradiction

protected theorem throw {e : ε} (h : P e) : (throw e : Action σ ε α).ErrorsIn P := by
  intro s e' t hthrow
  cases hthrow
  exact h

protected theorem bind (hx : x.ErrorsIn P) (hf : ∀ a, (f a).ErrorsIn P) : (x >>= f).ErrorsIn P := by
  intro s e t h
  cases hfirst : x s with
  | ok a u =>
      rw [bind_ok f hfirst] at h
      exact hf a u e t h
  | error e' u =>
      rw [bind_error f hfirst] at h
      cases h
      exact hx s _ _ hfirst

protected theorem mapError {Q : ε' → Prop} {g : ε → ε'} (hg : ∀ e, Q (g e)) :
    (x.mapError g).ErrorsIn Q := by
  intro s e t h
  rw [mapError_apply] at h
  cases hx : x s with
  | ok a u =>
      rw [hx] at h
      contradiction
  | error e' u =>
      rw [hx] at h
      cases h
      exact hg e'

protected theorem attempt {Q : ε' → Prop} : (x.attempt : Action σ ε' _).ErrorsIn Q := by
  intro s e t h
  rw [attempt_apply] at h
  cases hx : x s with
  | ok a u =>
      rw [hx] at h
      contradiction
  | error e' u =>
      rw [hx] at h
      contradiction

end ErrorsIn
end HotelBooking.Action
