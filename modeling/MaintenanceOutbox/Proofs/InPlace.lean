import Mathlib.Tactic.Common

set_option autoImplicit false

/-! # Work in place

A call that changes something in place, step by step, may be refused in the middle, and what it has
done by then stays done. `InPlace ε σ` is the monad of such work on a state `σ`: a refusal ends the
work and undoes nothing. That a call is all or nothing is therefore a theorem about its steps.
-/

namespace MaintenanceOutbox

universe u

/-- Work on a state in place, that may be refused. What was done before a refusal stays done. -/
abbrev InPlace (ε σ : Type u) : Type u → Type u :=
  ExceptT ε (StateM σ)

namespace InPlace

variable {ε σ α β : Type u}

/-- What comes of the work on a state, and what it leaves. -/
def result (p : InPlace ε σ α) (s : σ) : Except ε α × σ :=
  (show StateM σ (Except ε α) from p.run) s

theorem result_bind_ok {p : InPlace ε σ α} {a : α} {s s' : σ} (first : p.result s = (.ok a, s'))
    (f : α → InPlace ε σ β) : (p >>= f).result s = (f a).result s' := by
  have both : (p >>= f).result s = (ExceptT.bindCont f (p.result s).1) (p.result s).2 := rfl
  rw [both, first]
  rfl

theorem result_bind_error {p : InPlace ε σ α} {e : ε} {s s' : σ}
    (first : p.result s = (.error e, s')) (f : α → InPlace ε σ β) :
    (p >>= f).result s = (.error e, s') := by
  have both : (p >>= f).result s = (ExceptT.bindCont f (p.result s).1) (p.result s).2 := rfl
  rw [both, first]
  rfl

theorem result_map (f : α → β) (p : InPlace ε σ α) (s : σ) :
    (f <$> p).result s = ((p.result s).1.map f, (p.result s).2) := by
  rw [map_eq_pure_bind]
  cases done : p.result s with
  | mk answer s' =>
      cases answer with
      | ok a => exact result_bind_ok done _
      | error e => exact result_bind_error done _

theorem result_get (f : σ → InPlace ε σ α) (s : σ) :
    ((get : InPlace ε σ σ) >>= f).result s = (f s).result s := rfl

theorem result_modify (g : σ → σ) (f : PUnit → InPlace ε σ α) (s : σ) :
    ((modify g : InPlace ε σ PUnit) >>= f).result s = (f ⟨⟩).result (g s) := rfl

end InPlace

end MaintenanceOutbox
