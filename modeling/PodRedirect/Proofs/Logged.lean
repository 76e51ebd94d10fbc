import PodRedirect.Log

/-!
# What a computation that logs comes to

What a computation gives, or fails with, does not depend on what was logged before it. Two of them
end alike if they give related values or fail with the same error, and this is carried from their
steps to the whole; one that ends as a computation without a log does comes to the result of that.

## Main definitions

* `Logged.EndsAlike`: two results, with related values or with the same error
* `Logged.Alike`: two computations with such results, whatever was logged
* `Logged.Computes`: a computation with the given result, whatever was logged

## Main results

* `Logged.Alike.bind`, `Logged.Computes.bind`: two steps one after the other
* `Logged.Computes.alike`: two computations that come to parts of one result
-/

namespace PodRedirect.Logged

variable {ε α β γ δ : Type}

/-- The two results are values that `R` relates, or the same error. -/
inductive EndsAlike (R : α → β → Prop) : Except ε α → Except ε β → Prop where
  | ok {a : α} {b : β} (h : R a b) : EndsAlike R (.ok a) (.ok b)
  | error (e : ε) : EndsAlike R (.error e) (.error e)

/-- The two computations give values that `R` relates, or fail with the same error, whatever was
logged before each of them. -/
def Alike (R : α → β → Prop) (x : Logged ε α) (y : Logged ε β) : Prop :=
  ∀ log log', EndsAlike R (x.run log).1 (y.run log').1

/-- The computation ends with `r`, whatever was logged before it. -/
def Computes (x : Logged ε α) (r : Except ε α) : Prop := ∀ log, (x.run log).1 = r

/-! ## Single steps -/

section Steps

variable {R : α → β → Prop}

theorem alike_pure {a : α} {b : β} (h : R a b) :
    (pure a : Logged ε α).Alike R (pure b) := fun _ _ => .ok h

theorem alike_throw (e : ε) : (throw e : Logged ε α).Alike R (throw e) := fun _ _ => .error e

theorem alike_except {x : Except ε α} {y : Except ε β} (h : EndsAlike R x y) :
    (liftM x : Logged ε α).Alike R (liftM y) := fun _ _ => h

/-- A result is like itself. -/
theorem EndsAlike.refl (x : Except ε α) : EndsAlike (fun a b => a = b) x x := by
  cases x with
  | ok a => exact .ok rfl
  | error e => exact .error e

theorem EndsAlike.mono {S : α → β → Prop} {x : Except ε α} {y : Except ε β} (h : EndsAlike R x y)
    (hRS : ∀ a b, R a b → S a b) : EndsAlike S x y := by
  cases h with
  | ok h => exact .ok (hRS _ _ h)
  | error e => exact .error e

/-- Two results whose values agree in a part agree in this part. -/
theorem EndsAlike.map_eq {x : Except ε α} {y : Except ε β} (f : α → γ) (g : β → γ)
    (h : EndsAlike (fun a b => f a = g b) x y) : x.map f = y.map g := by
  cases h with
  | ok h => exact congrArg Except.ok h
  | error e => rfl

/-- Of two steps, the second ones go on with related values. -/
theorem EndsAlike.bind {S : γ → δ → Prop} {x : Except ε α} {y : Except ε β} {f : α → Except ε γ}
    {g : β → Except ε δ} (h : EndsAlike R x y) (h' : ∀ a b, R a b → EndsAlike S (f a) (g b)) :
    EndsAlike S (x >>= f) (y >>= g) := by
  cases h with
  | ok h => exact h' _ _ h
  | error e => exact .error e

theorem Alike.mono {S : α → β → Prop} {x : Logged ε α} {y : Logged ε β} (h : x.Alike R y)
    (hRS : ∀ a b, R a b → S a b) : x.Alike S y := fun log log' => (h log log').mono hRS

theorem alike_of_eq {x y : Except ε α} (h : x = y) :
    (liftM x : Logged ε α).Alike (fun a b => a = b) (liftM y) :=
  alike_except (h ▸ EndsAlike.refl x)

theorem computes_pure (a : α) : (pure a : Logged ε α).Computes (.ok a) := fun _ => rfl

theorem computes_throw (e : ε) : (throw e : Logged ε α).Computes (.error e) := fun _ => rfl

theorem computes_note (source : Log.Source) (level : Log.Level) (message : Option String) :
    (note source level message : Logged ε Unit).Computes (.ok ()) := fun _ => rfl

theorem computes_except (x : Except ε α) : (liftM x : Logged ε α).Computes x := fun _ => rfl

end Steps

/-- Two computations that come to parts of one result end alike. -/
theorem Computes.alike {x : Logged ε α} {y : Logged ε β} {r : Except ε γ} {f : γ → α} {g : γ → β}
    (hx : x.Computes (r.map f)) (hy : y.Computes (r.map g)) :
    x.Alike (fun a b => ∃ c, r = .ok c ∧ a = f c ∧ b = g c) y := fun log log' => by
  rw [hx log, hy log']
  cases r with
  | ok c => exact .ok ⟨c, rfl, rfl, rfl⟩
  | error e => exact .error e

/-! ## Composition -/

theorem run_bind (x : Logged ε α) (f : α → Logged ε β) (log : Array Log.Entry) :
    (x >>= f).run log =
      match x.run log with
      | (.ok a, log') => (f a).run log'
      | (.error e, log') => (.error e, log') := by
  show ExceptT.bindCont f (x.run log).1 (x.run log).2 = _
  rcases x.run log with ⟨_ | a, log'⟩ <;> rfl

/-- A step that fails ends the computation. -/
theorem fst_run_bind_of_error {x : Logged ε α} {e : ε} {log : Array Log.Entry}
    (h : (x.run log).1 = .error e) (f : α → Logged ε β) : ((x >>= f).run log).1 = .error e := by
  rw [run_bind]
  generalize x.run log = ended at h
  obtain ⟨r, log'⟩ := ended
  obtain rfl : r = .error e := h
  rfl

/-- A step that gives a value goes on with it. -/
theorem fst_run_bind_of_ok {x : Logged ε α} {a : α} {log : Array Log.Entry}
    (h : (x.run log).1 = .ok a) (f : α → Logged ε β) :
    ∃ log', ((x >>= f).run log).1 = ((f a).run log').1 := by
  rw [run_bind]
  generalize x.run log = ended at h
  obtain ⟨r, log'⟩ := ended
  obtain rfl : r = .ok a := h
  exact ⟨log', rfl⟩

/-- Of two steps, the second ones go on with related values. -/
theorem Alike.bind {R : α → β → Prop} {S : γ → δ → Prop} {x : Logged ε α} {y : Logged ε β}
    {f : α → Logged ε γ} {g : β → Logged ε δ} (h : x.Alike R y)
    (h' : ∀ a b, R a b → (f a).Alike S (g b)) : (x >>= f).Alike S (y >>= g) := fun log log' => by
  rw [run_bind, run_bind]
  have hfirst := h log log'
  generalize x.run log = ended, y.run log' = ended' at hfirst
  obtain ⟨r, log₁⟩ := ended
  obtain ⟨r', log₂⟩ := ended'
  cases hfirst with
  | ok hR => exact h' _ _ hR log₁ log₂
  | error e => exact .error e

/-- Of two steps, the first ones may be the same. -/
theorem alike_bind_of_eq {S : γ → δ → Prop} {x y : Except ε α} {f : α → Logged ε γ}
    {g : α → Logged ε δ} (h : x = y) (h' : ∀ a, (f a).Alike S (g a)) :
    (liftM x >>= f : Logged ε γ).Alike S (liftM y >>= g) := by
  refine (alike_of_eq h).bind ?_
  rintro a _ rfl
  exact h' a

/-- The same, where the second ones may rely on what the first ones gave. -/
theorem alike_bind_of_ok {S : γ → δ → Prop} {x y : Except ε α} {f : α → Logged ε γ}
    {g : α → Logged ε δ} (h : x = y) (h' : ∀ a, x = .ok a → (f a).Alike S (g a)) :
    (liftM x >>= f : Logged ε γ).Alike S (liftM y >>= g) := by
  subst h
  cases x with
  | ok a => exact h' a rfl
  | error e => exact alike_throw e

/-- If one of two computations fails, the other one fails with the same error. -/
theorem Alike.error {R : α → β → Prop} {x : Logged ε α} {y : Logged ε β} {e : ε} (h : x.Alike R y)
    {log log' : Array Log.Entry} (failed : (y.run log').1 = .error e) :
    (x.run log).1 = .error e := by
  have hends := h log log'
  rw [failed] at hends
  generalize (x.run log).1 = r at hends
  cases hends with
  | error => rfl

/-- Two steps come to what their results come to. -/
theorem Computes.bind {x : Logged ε α} {f : α → Logged ε β} {r : Except ε α}
    {g : α → Except ε β} (h : x.Computes r) (h' : ∀ a, (f a).Computes (g a)) :
    (x >>= f).Computes (r >>= g) := fun log => by
  rw [run_bind]
  obtain rfl := h log
  rcases x.run log with ⟨_ | a, log'⟩
  · rfl
  · exact h' a log'

end PodRedirect.Logged
