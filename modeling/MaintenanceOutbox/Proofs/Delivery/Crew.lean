import MaintenanceOutbox.Proofs.Delivery.Courses

set_option autoImplicit false

/-! # Every worker is at one of its points

`Fleet.Course` is the invariant of a fleet: what is left of every worker's delivery is the program
of some point, the worker's transaction fits that point, and no two of the workers and producers
share a transaction. A call of one worker or producer does not concern the others: their
transactions stay as they are, and so do the rows that these have locked.
-/

namespace MaintenanceOutbox

/-- Is it a call on the transaction? -/
def Happening.On (h : TxHandle) : Happening → Prop
  | .requests _ k _ => k = h
  | .commits k => k = h
  | .releases k => k = h
  | _ => False

theorem Happening.on_of_ends {h : TxHandle} {e : Happening} (ends : e.Ends h) : e.On h := by
  cases e with
  | commits k | releases k => exact ends
  | nothing | elsewhere | begins | requests | requeues | deletes | purges => exact ends.elim

/-- If it is a request, it is one to add a new message. -/
def Happening.AddsNew : Happening → Prop
  | .requests _ _ r => ∃ m : QueuedMessage, m.IsNew ∧ r = .add m
  | _ => True

/-- What a producer's transaction is like: it has added new messages, and that is all. -/
def Tx.Produces (tx : Tx) : Prop :=
  ∃ ms : List QueuedMessage, (∀ x ∈ ms, x.IsNew) ∧ tx = ⟨⟨ms, [], []⟩, none, []⟩

namespace View

variable {v : View} {h : TxHandle} {e : Happening}

theorem begun_le_step (v : View) (e : Happening) : v.begun ≤ (v.step e).begun := by
  cases e with
  | nothing | purges => exact Nat.le_refl _
  | elsewhere | begins => exact Nat.le_succ _
  | requests | commits | releases | requeues | deletes =>
      rw [step]
      repeat' split
      all_goals exact Nat.le_refl _

/-- A call on one transaction leaves the others. -/
theorem tx_step_away (away : ¬ e.On h) (old : h.number < v.begun) : (v.step e).tx h = v.tx h := by
  have other : ∀ {k : TxHandle} {o : Option Tx}, k ≠ h → Function.update v.tx k o h = v.tx h :=
    fun ne => Function.update_of_ne ne.symm _ _
  cases e with
  | nothing | elsewhere | purges => rfl
  | begins =>
      refine other ?_
      rintro rfl
      exact Nat.lt_irrefl _ old
  | requests now k r =>
      rw [View.step]
      split
      · rfl
      · split
        · rfl
        · exact other away
  | commits k | releases k =>
      rw [View.step]
      split
      · rfl
      · exact other away
  | requeues id | deletes id =>
      rw [View.step]
      split <;> rfl

/-- **What others do does not concern a delivery.** -/
theorem Sound.fits_away {ω : Type} (inv : v.Sound) {tx : Tx} (opened : v.tx h = some tx)
    {point : Point ω} (fits : point.Fits v.store tx) (away : ¬ e.On h) :
    (v.step e).tx h = some tx ∧ point.Fits (v.step e).store tx := by
  refine ⟨(tx_step_away away (inv.locking.begun h tx opened)).trans opened, ?_⟩
  refine fits.of_row ?_
  intro m hm
  exact inv.row_step opened (fits.locked hm) fun ends => away (Happening.on_of_ends ends)

/-- A transaction in which new messages are added, and nothing else is done, stays so. -/
theorem produces_step (old : ∀ tx, v.tx h = some tx → tx.Produces)
    (adds : ∀ now r, e = .requests now h r → ∃ m : QueuedMessage, m.IsNew ∧ r = .add m) :
    ∀ tx, (v.step e).tx h = some tx → tx.Produces := by
  intro tx opened
  -- a transaction that is still open after another one has ended
  have ended : ∀ k : TxHandle, Function.update v.tx k none h = some tx → tx.Produces := by
    intro k hk
    rcases update_cases hk with ⟨-, none'⟩ | ⟨-, before⟩
    · cases none'
    · exact old tx before
  cases e with
  | nothing | elsewhere | purges => exact old tx opened
  | begins =>
      rcases update_cases opened with ⟨-, new⟩ | ⟨-, before⟩
      · cases new
        exact ⟨[], fun _ hx => absurd hx List.not_mem_nil, rfl⟩
      · exact old tx before
  | requests now k r =>
      rw [View.step] at opened
      split at opened
      · exact old tx opened
      · next ux hk =>
          split at opened
          · exact old tx opened
          · next done =>
              rcases update_cases opened with ⟨rfl, new⟩ | ⟨-, before⟩
              · cases new
                obtain ⟨m, isNew, rfl⟩ := adds now r rfl
                obtain ⟨ms, all, rfl⟩ := old ux hk
                rw [Tx.request, Tx.add] at done
                split at done <;> cases done
                refine ⟨ms ++ [m], ?_, rfl⟩
                intro x hx
                rcases List.mem_append.mp hx with before | here
                · exact all x before
                · exact List.mem_singleton.mp here ▸ isNew
              · exact old tx before
  | commits k | releases k =>
      rw [View.step] at opened
      split at opened
      · exact old tx opened
      · exact ended k opened
  | requeues id | deletes id =>
      rw [View.step] at opened
      split at opened <;> exact old tx opened

end View

namespace Fleet

variable {κ ω : Type} [EventFamily κ] {n : Nat}

/-- What is seen of the fleet's store. -/
def view (f : Fleet κ ω n) : View :=
  f.system.view f.store

/-- **Every worker is at one of its points**, with its own transaction. -/
structure Course (f : Fleet κ ω n) (point : Fin n → Point ω) : Prop where
  store : ∀ k, (f.crew k).worker.store = f.store
  adds : ∀ k, (f.crew k).worker.registry.AddsOnly
  rest : ∀ k, (f.crew k).rest = (point k).program (f.crew k).worker
  held : ∀ k, (f.crew k).held = (point k).message?
  fits : ∀ k h, (point k).tx? = some h →
    ∃ tx, f.view.tx h = some tx ∧ (point k).Fits f.view.store tx
  apart : ∀ k l h, (point k).tx? = some h → (point l).tx? = some h → k = l
  ours : ∀ k h, (point k).tx? = some h → h ∉ f.producers
  begun : ∀ h ∈ f.producers, h.number < f.view.begun
  producing : ∀ h ∈ f.producers, ∀ tx, f.view.tx h = some tx → tx.Produces

namespace Course

variable {f f' : Fleet κ ω n} {point : Fin n → Point ω} {e : Happening}

theorem begun_of_tx? (course : f.Course point) (inv : f.view.Sound) {k : Fin n} {h : TxHandle}
    (hk : (point k).tx? = some h) : h.number < f.view.begun := by
  obtain ⟨tx, opened, -⟩ := course.fits k h hk
  exact inv.locking.begun h tx opened

/-- **A move of a producer or an operator** keeps the workers at their points. -/
theorem of_others (course : f.Course point) (inv : f.view.Sound) (crew : f'.crew = f.crew)
    (store : f'.store = f.store) (view : f'.view = f.view.step e)
    (theirs : ∀ h, e.On h → h ∈ f.producers)
    (producers : ∀ h ∈ f'.producers, h ∈ f.producers ∨ e = .begins ∧ h = ⟨f.view.begun⟩)
    (adds : e.AddsNew) : f'.Course point := by
  have older : f.view.begun ≤ f'.view.begun := view ▸ View.begun_le_step f.view e
  refine ⟨?_, ?_, ?_, ?_, ?_, course.apart, ?_, ?_, ?_⟩
  · rw [crew, store]
    exact course.store
  · rw [crew]
    exact course.adds
  · rw [crew]
    exact course.rest
  · rw [crew]
    exact course.held
  · -- the call was not on a worker's transaction
    intro k h hk
    obtain ⟨tx, opened, fits⟩ := course.fits k h hk
    rw [view]
    exact ⟨tx, inv.fits_away opened fits fun on => course.ours k h hk (theirs h on)⟩
  · -- a new handle of a producer is no worker's
    intro k h hk here
    rcases producers h here with old | ⟨-, rfl⟩
    · exact course.ours k h hk old
    · exact Nat.lt_irrefl _ (course.begun_of_tx? inv hk)
  · intro h here
    rcases producers h here with old | ⟨rfl, rfl⟩
    · exact Nat.lt_of_lt_of_le (course.begun h old) older
    · rw [view]
      exact Nat.lt_succ_self _
  · intro h here
    rw [view]
    refine View.produces_step ?_ ?_
    · intro tx opened
      rcases producers h here with old | ⟨-, rfl⟩
      · exact course.producing h old tx opened
      · exact absurd (inv.locking.begun _ tx opened) (Nat.lt_irrefl _)
    · rintro now r rfl
      exact adds

/-- **A move of one worker** leaves the other workers and the producers alone. -/
theorem of_work (course : f.Course point) (inv : f.view.Sound) {k : Fin n} {next : Point ω}
    (store : f'.store = f.store) (view : f'.view = f.view.step e)
    (producers : f'.producers = f.producers) (others : ∀ l, l ≠ k → f'.crew l = f.crew l)
    (worker : (f'.crew k).worker = (f.crew k).worker)
    (rest : (f'.crew k).rest = next.program (f.crew k).worker)
    (held : (f'.crew k).held = next.message?)
    (own : ∀ h, e.On h → (point k).tx? = some h)
    (fits : ∀ h, next.tx? = some h → ((point k).tx? = some h ∨ h = ⟨f.view.begun⟩) ∧
      ∃ tx, f'.view.tx h = some tx ∧ next.Fits f'.view.store tx) :
    f'.Course (Function.update point k next) := by
  have older : f.view.begun ≤ f'.view.begun := view ▸ View.begun_le_step f.view e
  -- the next point's transaction is the worker's own, or nobody else has it yet
  have alone : ∀ l h, l ≠ k → next.tx? = some h → (point l).tx? ≠ some h := by
    intro l h other hk hl
    rcases (fits h hk).1 with before | rfl
    · exact other (course.apart l k h hl before)
    · exact Nat.lt_irrefl _ (course.begun_of_tx? inv hl)
  have workers : ∀ l, (f'.crew l).worker = (f.crew l).worker := by
    intro l
    by_cases same : l = k
    · rw [same, worker]
    · rw [others l same]
  refine ⟨?_, ?_, ?_, ?_, ?_, ?_, ?_, ?_, ?_⟩
  · intro l
    rw [workers, store]
    exact course.store l
  · intro l
    rw [workers]
    exact course.adds l
  · refine (Function.forall_update_iff point fun l here =>
      (f'.crew l).rest = here.program (f'.crew l).worker).mpr ⟨?_, ?_⟩
    · rw [rest, worker]
    · intro l other
      rw [others l other]
      exact course.rest l
  · refine (Function.forall_update_iff point fun l here =>
      (f'.crew l).held = here.message?).mpr ⟨held, ?_⟩
    intro l other
    rw [others l other]
    exact course.held l
  · refine (Function.forall_update_iff point fun _ here => ∀ h, here.tx? = some h →
      ∃ tx, f'.view.tx h = some tx ∧ here.Fits f'.view.store tx).mpr ⟨fun h hh => (fits h hh).2, ?_⟩
    -- the call was on this worker's transaction, if on any
    intro l other h hl
    obtain ⟨tx, opened, fit⟩ := course.fits l h hl
    rw [view]
    exact ⟨tx, inv.fits_away opened fit fun on => other (course.apart l k h hl (own h on))⟩
  · -- no two workers share a transaction
    intro l l' h hl hl'
    by_cases same : l = k
    · subst same
      rw [Function.update_self] at hl
      by_cases same' : l' = l
      · exact same'.symm
      · rw [Function.update_of_ne same'] at hl'
        exact absurd hl' (alone l' h same' hl)
    · rw [Function.update_of_ne same] at hl
      by_cases same' : l' = k
      · subst same'
        rw [Function.update_self] at hl'
        exact absurd hl (alone l h same hl')
      · rw [Function.update_of_ne same'] at hl'
        exact course.apart l l' h hl hl'
  · rw [producers]
    refine (Function.forall_update_iff point fun _ here => ∀ h, here.tx? = some h →
      h ∉ f.producers).mpr ⟨?_, fun l _ => course.ours l⟩
    intro h hh theirs
    rcases (fits h hh).1 with before | rfl
    · exact course.ours k h before theirs
    · exact Nat.lt_irrefl _ (course.begun _ theirs)
  · intro h here
    rw [producers] at here
    exact Nat.lt_of_lt_of_le (course.begun h here) older
  · -- the call was not on a producer's transaction
    intro h here tx opened
    rw [producers] at here
    have away : ¬ e.On h := fun on => course.ours k h (own h on) here
    rw [view, View.tx_step_away away (course.begun h here)] at opened
    exact course.producing h here tx opened

end Course

end Fleet

end MaintenanceOutbox
