import MaintenanceOutbox.Domain.Error
import Mathlib.Data.List.Induction

set_option autoImplicit false

/-! # Aggregates and what is asked of them

An aggregate is asked for changes, which the domain accepts or refuses, and now and then somebody
takes the events that it has buffered. The three can come in any order and any number
(`Aggregate.run`). What came of each request is written into a log, so that what is said about an
aggregate can be said about its log: which changes were accepted, and which events were handed out.

A property of log and aggregate holds after every run if it holds in the beginning and each of the
three things that can happen keeps it (`Aggregate.Keeps.run`).
-/

namespace MaintenanceOutbox

/-- **A kind of aggregate**: what its changes make of it, unless they are refused, and how the
events in its buffer are taken. -/
structure Aggregate (α χ ε : Type) where
  change : α → χ → Except DomainError α
  take : α → List ε × α

namespace Aggregate

/-- What is asked of an aggregate. -/
inductive Request (χ : Type) where
  | change (c : χ)
  | take
deriving DecidableEq

/-- What was asked of an aggregate, and what came of it. -/
inductive Entry (χ ε : Type) where
  | accepted (c : χ)
  | refused (c : χ) (e : DomainError)
  | taken (batch : List ε)
deriving DecidableEq

variable {α χ ε : Type}

/-! ## Logs -/

/-- The changes that were accepted. -/
def accepted (log : List (Entry χ ε)) : List χ :=
  log.filterMap fun
    | .accepted c => some c
    | .refused _ _ | .taken _ => none

/-- The events that were taken, all batches one after the other. -/
def taken (log : List (Entry χ ε)) : List ε :=
  log.flatMap fun
    | .taken batch => batch
    | .accepted _ | .refused _ _ => []

@[simp] theorem accepted_nil : accepted ([] : List (Entry χ ε)) = [] := rfl

@[simp] theorem accepted_append (log more : List (Entry χ ε)) :
    accepted (log ++ more) = accepted log ++ accepted more :=
  List.filterMap_append

@[simp] theorem accepted_cons_accepted (c : χ) (log : List (Entry χ ε)) :
    accepted (.accepted c :: log) = c :: accepted log := rfl

@[simp] theorem taken_nil : taken ([] : List (Entry χ ε)) = [] := rfl

@[simp] theorem taken_append (log more : List (Entry χ ε)) :
    taken (log ++ more) = taken log ++ taken more :=
  List.flatMap_append

@[simp] theorem taken_cons_accepted (c : χ) (log : List (Entry χ ε)) :
    taken (.accepted c :: log) = taken log := rfl

theorem accepted_concat_accepted (c : χ) (log : List (Entry χ ε)) :
    accepted (log ++ [.accepted c]) = accepted log ++ [c] :=
  accepted_append log _

/-- An entry that accepts nothing adds no change. -/
theorem accepted_concat {entry : Entry χ ε} (nothing : accepted [entry] = [])
    (log : List (Entry χ ε)) : accepted (log ++ [entry]) = accepted log := by
  rw [accepted_append, nothing, List.append_nil]

/-- Events that go from the buffer to a batch stay where they are in the order of all events. -/
theorem taken_concat {entry : Entry χ ε} {events buffer : List ε}
    (same : taken [entry] ++ events = buffer) (log : List (Entry χ ε)) :
    taken (log ++ [entry]) ++ events = taken log ++ buffer := by
  rw [taken_append, List.append_assoc, same]

/-! ## Runs -/

variable (g : Aggregate α χ ε)

/-- **One request**: what came of it, and the aggregate after it. -/
def step (a : α) : Request χ → Entry χ ε × α
  | .change c =>
    match g.change a c with
    | .ok a' => (.accepted c, a')
    | .error e => (.refused c e, a)
  | .take => (.taken (g.take a).1, (g.take a).2)

/-- **One request after the other**: the log of what came of them, and the aggregate after them. -/
def run (a : α) (requests : List (Request χ)) : List (Entry χ ε) × α :=
  requests.foldl (fun s r => (s.1 ++ [(g.step s.2 r).1], (g.step s.2 r).2)) ([], a)

theorem run_concat (a : α) (requests : List (Request χ)) (r : Request χ) :
    g.run a (requests ++ [r]) =
      ((g.run a requests).1 ++ [(g.step (g.run a requests).2 r).1],
        (g.step (g.run a requests).2 r).2) := by
  rw [run, List.foldl_append]
  rfl

/-- **What happens to an aggregate keeps the property**: a change that is accepted, one that is
refused, and the taking of its events. -/
structure Keeps (P : List (Entry χ ε) → α → Prop) : Prop where
  accepts : ∀ {log a c a'}, P log a → g.change a c = .ok a' → P (log ++ [.accepted c]) a'
  refuses : ∀ {log a c e}, P log a → g.change a c = .error e → P (log ++ [.refused c e]) a
  takes : ∀ {log a}, P log a → P (log ++ [.taken (g.take a).1]) (g.take a).2

variable {g} {P : List (Entry χ ε) → α → Prop}

theorem Keeps.step (keeps : g.Keeps P) {log : List (Entry χ ε)} {a : α} (holds : P log a)
    (r : Request χ) : P (log ++ [(g.step a r).1]) (g.step a r).2 := by
  cases r with
  | change c =>
      rw [Aggregate.step]
      split
      · next accepted => exact keeps.accepts holds accepted
      · next refused => exact keeps.refuses holds refused
  | take => exact keeps.takes holds

/-- **What every request keeps holds after every run.** -/
theorem Keeps.run (keeps : g.Keeps P) {a : α} (start : P [] a) (requests : List (Request χ)) :
    P (g.run a requests).1 (g.run a requests).2 := by
  induction requests using List.reverseRecOn with
  | nil => exact start
  | append_singleton before r ih =>
      rw [run_concat]
      exact keeps.step ih r

end Aggregate

end MaintenanceOutbox
