set_option autoImplicit false

/-! # Programs over an interface

What a handler or a worker does is an alternation: it asks its surroundings for something, and goes
on as the answer says. `Program I α` is that alternation as a value, a tree with an operation of the
interface `I` at every inner node, one branch for every answer, and a result at every leaf.

**The same code runs in any surroundings.** `Program.run` asks a given `answer` function at every
node. A store in memory, a store whose calls are traced and made to fail, a database that cannot be
reached and the steps of other programs in between are different ways to answer.

A program is a finite tree, so every run of it ends.
-/

namespace MaintenanceOutbox

/-- The operations that a program may ask for, and the type of the answer to each. -/
structure Interface where
  Op : Type
  Reply : Op → Type

/-- A program that asks for operations of `I` and results in an `α`. -/
inductive Program (I : Interface) (α : Type) : Type where
  | done (result : α)
  | call (op : I.Op) (next : I.Reply op → Program I α)

namespace Program

variable {I J : Interface} {α β : Type}

/-- Go on with `f` after the program. -/
def bind : Program I α → (α → Program I β) → Program I β
  | .done a, f => f a
  | .call op next, f => .call op fun reply => (next reply).bind f

instance : Monad (Program I) where
  pure := .done
  bind := bind

/-- The program that asks for one operation and results in the answer. -/
def perform (op : I.Op) : Program I (I.Reply op) :=
  .call op .done

/-- Run a program, with the operations answered by `answer`. -/
def run {m : Type → Type} [Monad m] (answer : (op : I.Op) → m (I.Reply op)) : Program I α → m α
  | .done a => pure a
  | .call op next => do
    let reply ← answer op
    (next reply).run answer

/-- Does the program ask for allowed operations only, whatever the answers are? -/
def Uses (allowed : I.Op → Prop) : Program I α → Prop
  | .done _ => True
  | .call op next => allowed op ∧ ∀ reply, (next reply).Uses allowed

/-! ## Laws -/

theorem bind_done (p : Program I α) : p.bind .done = p := by
  induction p with
  | done a => rfl
  | call op next ih => simp only [bind, ih]

theorem bind_assoc {γ : Type} (p : Program I α) (f : α → Program I β) (g : β → Program I γ) :
    (p.bind f).bind g = p.bind fun a => (f a).bind g := by
  induction p with
  | done a => rfl
  | call op next ih => simp only [bind, ih]

instance : LawfulMonad (Program I) :=
  LawfulMonad.mk' (Program I)
    (fun p => bind_done p)
    (fun _ _ => rfl)
    (fun p f g => bind_assoc p f g)

/-- **A run of a composed program is the composition of the runs.** -/
theorem run_bind {m : Type → Type} [Monad m] [LawfulMonad m]
    (answer : (op : I.Op) → m (I.Reply op)) (p : Program I α) (f : α → Program I β) :
    (p.bind f).run answer = p.run answer >>= fun a => (f a).run answer := by
  induction p with
  | done a => simp [bind, run]
  | call op next ih => simp [bind, run, ih]

theorem Uses.bind {allowed : I.Op → Prop} {p : Program I α} {f : α → Program I β}
    (hp : p.Uses allowed) (hf : ∀ a, (f a).Uses allowed) : (p.bind f).Uses allowed := by
  induction p with
  | done a => exact hf a
  | call op next ih => exact ⟨hp.1, fun reply => ih reply (hp.2 reply)⟩

end Program

end MaintenanceOutbox
