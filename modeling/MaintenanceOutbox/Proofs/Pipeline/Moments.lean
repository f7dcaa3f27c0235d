import MaintenanceOutbox.Pipeline.Command
import MaintenanceOutbox.Proofs.Delivery.Dialogue
import MaintenanceOutbox.Proofs.Store.Answers
import MaintenanceOutbox.Proofs.Store.Session

set_option autoImplicit false

/-! # Work in a business transaction

Command handlers, transactional handlers and the event stage all do the same kind of work: they make
requests on one transaction, raise events into one unit of work, and may fail. `Moment.run` runs
such work on a host and says what is there afterwards. Work that breaks off has no result, and its
unit of work is lost.

**Work is done in steps.** A `Moment.Chain` is a list of steps of which each begins where the one
before it ended. Work on a list is done in such a chain, up to the first step that does not succeed
(`Moment.run_forM_ok`, `Moment.run_forM_stopped`).

Whatever is done, the system stays `s.put t st tx` for the system `s` in which the transaction `t`
was found (`Host.inside_put`), so that the laws of a single transaction at work apply. With work
that breaks off the transaction ends.
-/

namespace MaintenanceOutbox

/-- Work in a business transaction, which may fail with an `ε`. -/
abbrev BusinessM (κ ω ε : Type) [EventFamily κ] :=
  ExceptT ε (StateT (UnitOfWork κ) (TxProgram ω))

/-- Run code of the transaction `tx` on a host. -/
def Host.inside {ω α : Type} (tx : TxHandle) (p : TxProgram ω α) (h : Host ω) :
    Option α × Host ω :=
  p.runFrom (I := TxInterface ω) (answerTx tx) h

/-- What there is at some moment of the work: the waiting events, and the host with its stores. -/
structure Moment (κ ω : Type) [EventFamily κ] where
  uow : UnitOfWork κ
  host : Host ω

namespace Host

variable {ω α β : Type}

variable {tx : TxHandle} {h h' : Host ω} {a : α}

theorem inside_bind {p : TxProgram ω α} (first : h.inside tx p = (some a, h'))
    (f : α → TxProgram ω β) : h.inside tx (p.bind f) = h'.inside tx (f a) :=
  Program.runFrom_bind first f

theorem inside_bind_none {p : TxProgram ω α} (first : h.inside tx p = (none, h'))
    (f : α → TxProgram ω β) : h.inside tx (p.bind f) = (none, h') :=
  Program.runFrom_bind_none first f

/-- Requests other than counts are answered. -/
theorem inside_request (tx : TxHandle) (i : StoreId) {r : TxRequest} (h : Host ω)
    (other : ∀ id error, r ≠ .incrementRetry id error) :
    ∃ reply, h.inside tx (TxProgram.request i r) =
        (some reply, { h with system := (h.system.request h.clock i tx r).2 }) ∧
      (h.system.request h.clock i tx r).1 = reply.map some := by
  rcases requested : h.system.request h.clock i tx r with ⟨e | _ | answer, s⟩
  · exact ⟨_, Program.runFrom_call (answerTx_error requested), rfl⟩
  · obtain ⟨-, id, error, -, -, -, asked, -⟩ :=
      System.request_breaksOff (congrArg Prod.fst requested)
    exact absurd asked (other id error)
  · exact ⟨_, Program.runFrom_call (answerTx_ok requested), rfl⟩

/-! ### Code that owns transactions -/

theorem run_bind {p : OutboxProgram ω α} (first : Host.run p h = (some a, h'))
    (f : α → OutboxProgram ω β) : Host.run (p >>= f) h = Host.run (f a) h' :=
  Program.runFrom_bind first f

theorem run_bind_none {p : OutboxProgram ω α} (first : Host.run p h = (none, h'))
    (f : α → OutboxProgram ω β) : Host.run (p >>= f) h = (none, h') :=
  Program.runFrom_bind_none first f

/-- Code that is run inside a transaction runs as code of the transaction. -/
theorem run_within (tx : TxHandle) (p : TxProgram ω α) (h : Host ω) :
    Host.run (OutboxProgram.within tx p) h = h.inside tx p := by
  induction p generalizing h with
  | done a => rfl
  | call op next ih =>
      rcases answered : (answerTx tx op h : Option _ × Host ω) with ⟨_ | reply, h'⟩
      · rw [show h.inside tx (.call op next) = _ from Program.runFrom_call_none answered]
        exact Program.runFrom_call_none (I := OutboxInterface ω) answered
      · rw [show h.inside tx (.call op next) = _ from Program.runFrom_call answered]
        exact (Program.runFrom_call (I := OutboxInterface ω) answered).trans (ih reply h')

end Host

namespace Moment

variable {κ ω ε ε' α β : Type} [EventFamily κ]

/-- **Run work in the transaction `tx`**: its result, unless it breaks off, and the moment after
it. -/
def run (tx : TxHandle) (work : BusinessM κ ω ε α) (m : Moment κ ω) :
    Option (Except ε α) × Moment κ ω :=
  match m.host.inside tx (work.run.run m.uow) with
  | (some (result, uow), host) => (some result, ⟨uow, host⟩)
  | (none, host) => (none, ⟨.empty, host⟩)

variable (tx : TxHandle) (m : Moment κ ω)

theorem run_throw (e : ε) : m.run tx (throw e : BusinessM κ ω ε α) = (some (.error e), m) := rfl

theorem run_bind (work : BusinessM κ ω ε α) (next : α → BusinessM κ ω ε β) :
    m.run tx (work >>= next) =
      match m.run tx work with
      | (some (.ok a), m') => m'.run tx (next a)
      | (some (.error e), m') => (some (.error e), m')
      | (none, m') => (none, m') := by
  let goesOn : Except ε α × UnitOfWork κ → TxProgram ω (Except ε β × UnitOfWork κ) :=
    fun p => (ExceptT.bindCont next p.1).run p.2
  have both : m.run tx (work >>= next) =
      match m.host.inside tx ((work.run.run m.uow).bind goesOn) with
      | (some (result, uow), host) => (some result, ⟨uow, host⟩)
      | (none, host) => (none, ⟨.empty, host⟩) := rfl
  rcases first : m.host.inside tx (work.run.run m.uow) with ⟨_ | ⟨_ | a, uow⟩, host⟩
  · rw [both, Host.inside_bind_none first, run, first]
  · rw [both, Host.inside_bind first, run, first]
    rfl
  · rw [both, Host.inside_bind first, run, first]
    rfl

theorem run_adapt (f : ε → ε') (work : BusinessM κ ω ε α) :
    m.run tx (ExceptT.adapt f work) =
      ((m.run tx work).1.map (·.mapError f), (m.run tx work).2) := by
  let goesOn : Except ε α × UnitOfWork κ → TxProgram ω (Except ε' α × UnitOfWork κ) :=
    fun p => .done (p.1.mapError f, p.2)
  have both : m.run tx (ExceptT.adapt f work) =
      match m.host.inside tx ((work.run.run m.uow).bind goesOn) with
      | (some (result, uow), host) => (some result, ⟨uow, host⟩)
      | (none, host) => (none, ⟨.empty, host⟩) := rfl
  rcases first : m.host.inside tx (work.run.run m.uow) with ⟨_ | p, host⟩
  · rw [both, Host.inside_bind_none first, run, first]
    rfl
  · rw [both, Host.inside_bind first, run, first]
    rfl

variable {tx m} in
/-- Code of the transaction, as work. -/
theorem run_lift {p : TxProgram ω α} {a : α} {h' : Host ω}
    (first : m.host.inside tx p = (some a, h')) :
    m.run tx (ExceptT.lift (StateT.lift p) : BusinessM κ ω ε α) = (some (.ok a), ⟨m.uow, h'⟩) := by
  have second := Host.inside_bind first fun a => .done (a, m.uow)
  have third := Host.inside_bind (p := p.bind fun a => .done (a, m.uow)) second
    fun q => .done ((Except.ok q.1 : Except ε α), q.2)
  have both : m.run tx (ExceptT.lift (StateT.lift p) : BusinessM κ ω ε α) =
      match m.host.inside tx ((p.bind fun a => .done (a, m.uow)).bind
        fun q => .done ((Except.ok q.1 : Except ε α), q.2)) with
      | (some (result, uow), host) => (some result, ⟨uow, host⟩)
      | (none, host) => (none, ⟨.empty, host⟩) := rfl
  rw [both, third]
  rfl

/-- The owner of the transaction goes on with the result of the work. -/
theorem run_within (work : BusinessM κ ω ε α)
    (next : Except ε α × UnitOfWork κ → OutboxProgram ω β) :
    Host.run (OutboxProgram.within tx (work.run.run m.uow) >>= next) m.host =
      match m.run tx work with
      | (some result, m') => Host.run (next (result, m'.uow)) m'.host
      | (none, m') => (none, m'.host) := by
  rcases first : m.host.inside tx (work.run.run m.uow) with ⟨_ | p, host⟩
  · rw [Host.run_bind_none ((Host.run_within _ _ _).trans first), run, first]
  · rw [Host.run_bind ((Host.run_within _ _ _).trans first), run, first]

/-! ## Success, failure, and neither -/

variable {tx m} {m' : Moment κ ω}

theorem run_bind_ok {work : BusinessM κ ω ε α} {next : α → BusinessM κ ω ε β} {b : β}
    (h : m.run tx (work >>= next) = (some (.ok b), m')) :
    ∃ a m₁, m.run tx work = (some (.ok a), m₁) ∧ m₁.run tx (next a) = (some (.ok b), m') := by
  rw [run_bind] at h
  split at h
  · next a m₁ first => exact ⟨a, m₁, first, h⟩
  · cases h
  · cases h

/-- Work does not go on after a part that fails or breaks off. -/
theorem run_bind_of_stopped {work : BusinessM κ ω ε α} {e? : Option ε}
    (first : m.run tx work = (e?.map .error, m')) (next : α → BusinessM κ ω ε β) :
    m.run tx (work >>= next) = (e?.map .error, m') := by
  rw [run_bind, first]
  cases e? <;> rfl

/-- Work that fails, or breaks off, does so in one of its parts. -/
theorem run_bind_stopped {work : BusinessM κ ω ε α} {next : α → BusinessM κ ω ε β} {e? : Option ε}
    (h : m.run tx (work >>= next) = (e?.map .error, m')) :
    m.run tx work = (e?.map .error, m') ∨
      ∃ a m₁, m.run tx work = (some (.ok a), m₁) ∧ m₁.run tx (next a) = (e?.map .error, m') := by
  rw [run_bind] at h
  split at h
  · next a m₁ first => exact Or.inr ⟨a, m₁, first, h⟩
  · next e m₁ first =>
      cases e? <;> cases h
      exact Or.inl first
  · next m₁ first =>
      cases e? <;> cases h
      exact Or.inl first

theorem run_adapt_ok {f : ε → ε'} {work : BusinessM κ ω ε α} {a : α} :
    m.run tx (ExceptT.adapt f work) = (some (.ok a), m') ↔ m.run tx work = (some (.ok a), m') := by
  rw [run_adapt]
  rcases m.run tx work with ⟨_ | _ | _, after⟩ <;> simp [Except.mapError]

theorem run_adapt_stopped {f : ε → ε'} {work : BusinessM κ ω ε α} {e'? : Option ε'} :
    m.run tx (ExceptT.adapt f work) = (e'?.map .error, m') ↔
      ∃ e? : Option ε, m.run tx work = (e?.map .error, m') ∧ e?.map f = e'? := by
  rw [run_adapt]
  rcases m.run tx work with ⟨_ | e | a, after⟩
  · cases e'? <;> simp
  · cases e'? <;> simp [Except.mapError, and_comm]
  · cases e'? <;> simp [Except.mapError]

/-! ## Work on a list -/

/-- A step of the work: what it was about, and the moments before and after it. -/
structure Step (κ ω A : Type) [EventFamily κ] where
  what : A
  before : Moment κ ω
  after : Moment κ ω

/-- The events that a step raised: those that are waiting after it, without the ones that were
waiting before. -/
def Step.raised {A : Type} (step : Step κ ω A) : List (RaisedEvent κ) :=
  step.after.uow.raised.drop step.before.uow.raised.length

/-- **Steps of the work, one after the other,** which lead from one moment to another. All of them
succeed. -/
def Chain {A : Type} (tx : TxHandle) (work : A → BusinessM κ ω ε Unit) :
    Moment κ ω → List (Step κ ω A) → Moment κ ω → Prop
  | m, [], m' => m = m'
  | m, step :: steps, m' =>
    step.before = m ∧ m.run tx (work step.what) = (some (.ok ()), step.after) ∧
      Chain tx work step.after steps m'

variable {A : Type} {work : A → BusinessM κ ω ε Unit}

theorem run_forM_ok {as : List A} (h : m.run tx (as.forM work) = (some (.ok ()), m')) :
    ∃ steps, Chain tx work m steps m' ∧ steps.map (·.what) = as := by
  induction as generalizing m with
  | nil => exact ⟨[], congrArg Prod.snd h, rfl⟩
  | cons a rest ih =>
      have both : m.run tx (work a >>= fun _ => rest.forM work) = (some (.ok ()), m') := h
      obtain ⟨⟨⟩, m₁, first, later⟩ := run_bind_ok both
      obtain ⟨steps, chain, all⟩ := ih later
      exact ⟨⟨a, m, m₁⟩ :: steps, ⟨rfl, first, chain⟩, by rw [List.map_cons, all]⟩

/-- A failure is the failure of one step, to which a chain leads, and the same with work that breaks
off. -/
theorem run_forM_stopped {as : List A} {e? : Option ε}
    (h : m.run tx (as.forM work) = (e?.map .error, m')) :
    ∃ steps a rest m₁, Chain tx work m steps m₁ ∧ as = steps.map (·.what) ++ a :: rest ∧
      m₁.run tx (work a) = (e?.map .error, m') := by
  induction as generalizing m with
  | nil => cases e? <;> cases h
  | cons a rest ih =>
      have both : m.run tx (work a >>= fun _ => rest.forM work) = (e?.map .error, m') := h
      rcases run_bind_stopped both with stopped | ⟨⟨⟩, m₁, first, later⟩
      · exact ⟨[], a, rest, m, rfl, rfl, stopped⟩
      · obtain ⟨steps, bad, rest', m₂, chain, all, stopped⟩ := ih later
        exact ⟨⟨a, m, m₁⟩ :: steps, bad, rest', m₂, ⟨rfl, first, chain⟩, by rw [all]; rfl, stopped⟩

end Moment

/-! ## The transaction at work -/

section AtWork

variable {κ ω ε α : Type} [EventFamily κ] {s : System} {t : OpenTx} {st : Store} {tx : Tx}
  (keeps : Store → Tx → Prop)
  (moves : ∀ {st st' : Store} {tx tx' : Tx} {r : TxRequest},
    keeps st tx → tx.Moves st r st' tx' → keeps st' tx')
  (opened : s.open? t.handle = some t) (hi : t.home.index < s.stores.length)
include moves opened hi

/-- **What a request can do to the system.** It changes the transaction and the tables of its home,
and it keeps what requests keep. -/
theorem System.request_keeps (now : Timestamp) (i : StoreId) (r : TxRequest) (kept : keeps st tx) :
    ∃ st' tx', ((s.put t st tx).request now i t.handle r).2 = s.put t st' tx' ∧ keeps st' tx' := by
  by_cases home : t.home = i
  · subst home
    rw [System.request_put opened hi]
    cases result : tx.request st now r with
    | error e => exact ⟨st, tx, rfl, kept⟩
    | ok p => exact ⟨p.2.1, p.2.2, rfl, moves kept (Tx.request_moves result)⟩
  · rw [System.request_put_foreign opened home]
    exact ⟨st, tx, rfl, kept⟩

/-- **What code in the transaction leaves behind** that began in the system `s`: the transaction at
work, or, if it broke off, the system without the transaction. -/
def System.Left (s : System) (t : OpenTx) (keeps : Store → Tx → Prop) (result : Option α)
    (s' : System) : Prop :=
  ∃ st tx, keeps st tx ∧
    s' = if result.isSome then s.put t st tx else s.close t (tx.release st)

/-- An operation of code in the transaction leaves behind what requests keep. -/
theorem Host.answerTx_put {h : Host ω} (system : h.system = s.put t st tx) (kept : keeps st tx)
    (op : TxOp ω) :
    s.Left t keeps (answerTx t.handle op h).1 (answerTx t.handle op h).2.system := by
  cases op with
  | request i r =>
      obtain ⟨st', tx', after, kept'⟩ :=
        System.request_keeps keeps moves opened hi h.clock i r kept
      rw [← system] at after
      refine ⟨st', tx', kept', ?_⟩
      rcases requested : h.system.request h.clock i t.handle r with ⟨e | _ | reply, s'⟩
      · rw [answerTx_error requested]
        exact (congrArg Prod.snd requested).symm.trans after
      · rw [answerTx_none requested]
        have dropped := congrArg (System.drop · t.handle)
          ((congrArg Prod.snd requested).symm.trans after)
        exact dropped.trans (System.drop_put opened hi st' tx')
      · rw [answerTx_ok requested]
        exact (congrArg Prod.snd requested).symm.trans after
  | now | freshId | tell w => exact ⟨st, tx, kept, system⟩

/-- So does the code. By induction on it. -/
theorem Host.inside_put (p : TxProgram ω α) {h : Host ω} (system : h.system = s.put t st tx)
    (kept : keeps st tx) :
    s.Left t keeps (h.inside t.handle p).1 (h.inside t.handle p).2.system := by
  induction p generalizing h st tx with
  | done a => exact ⟨st, tx, kept, system⟩
  | call op next ih =>
      have first := answerTx_put keeps moves opened hi system kept op
      rcases answered : (answerTx t.handle op h : Option _ × Host ω) with ⟨_ | reply, h'⟩
      · rw [answered] at first
        rw [show h.inside t.handle (.call op next) = _ from Program.runFrom_call_none answered]
        exact first
      · rw [answered] at first
        rw [show h.inside t.handle (.call op next) = _ from Program.runFrom_call answered]
        obtain ⟨st₁, tx₁, kept₁, system₁⟩ := first
        exact ih reply system₁ kept₁

theorem Moment.run_put (work : BusinessM κ ω ε α) {m : Moment κ ω}
    (system : m.host.system = s.put t st tx) (kept : keeps st tx) :
    s.Left t keeps (m.run t.handle work).1 (m.run t.handle work).2.host.system := by
  have left := Host.inside_put keeps moves opened hi (work.run.run m.uow) system kept
  rw [run]
  rcases inside : m.host.inside t.handle (work.run.run m.uow) with ⟨_ | ⟨result, uow⟩, host⟩
  · rw [inside] at left
    exact left
  · rw [inside] at left
    exact left

/-- Work that comes to a result leaves the transaction at work. -/
theorem Moment.run_put_of_some {work : BusinessM κ ω ε α} {m m' : Moment κ ω}
    {result : Except ε α} (ran : m.run t.handle work = (some result, m'))
    (system : m.host.system = s.put t st tx) (kept : keeps st tx) :
    ∃ st' tx', m'.host.system = s.put t st' tx' ∧ keeps st' tx' := by
  have left := run_put keeps moves opened hi work system kept
  rw [ran] at left
  obtain ⟨st', tx', kept', system'⟩ := left
  exact ⟨st', tx', system', kept'⟩

theorem Moment.chain_put {A : Type} {work : A → BusinessM κ ω ε Unit} {m m' : Moment κ ω}
    {steps : List (Step κ ω A)} (chain : Chain t.handle work m steps m')
    (system : m.host.system = s.put t st tx) (kept : keeps st tx) :
    ∃ st' tx', m'.host.system = s.put t st' tx' ∧ keeps st' tx' := by
  induction steps generalizing m st tx with
  | nil =>
      obtain rfl : m = m' := chain
      exact ⟨st, tx, system, kept⟩
  | cons step rest ih =>
      obtain ⟨-, first, later⟩ := chain
      obtain ⟨st₁, tx₁, system₁, kept₁⟩ :=
        run_put_of_some keeps moves opened hi first system kept
      exact ih later system₁ kept₁

end AtWork

end MaintenanceOutbox
