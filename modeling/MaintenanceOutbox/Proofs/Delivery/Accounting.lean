import MaintenanceOutbox.Proofs.Delivery.Dialogue
import MaintenanceOutbox.Proofs.Store.Runs
import MaintenanceOutbox.Store.Host
import MaintenanceOutbox.Worker.RunLoop

set_option autoImplicit false

/-! # What a worker's statistics account for

A worker commits messages one by one, and adds to its statistics once per batch. What it committed
can be read off the dialogue with its store: a commit that is confirmed, after a mark or a count
that was (`committedIn`). The two are compared here over everything that a worker does in its life,
its batches and the turns of its run loop, whatever it is answered and whatever others do meanwhile.

The statistics account for every message of a batch that comes to its end. A batch that is given up
reports nothing, so that the messages that it had committed until then are missing
(`Worker.accounting`). The counters are right exactly for as long as no batch is given up after a
commit; a handler that loses connectivity in the middle of a batch is enough
(`Worker.batch_unaccounted`).
-/

namespace MaintenanceOutbox

/-- What becomes of a message. -/
inductive Verdict where
  | processed
  | retried
  | deadLettered
deriving DecidableEq, Repr

/-- What became of the message. -/
def MessageOutcome.verdict : MessageOutcome → Verdict
  | .processed _ _ => .processed
  | .retried _ _ => .retried
  | .deadLettered _ _ => .deadLettered

/-- What a count says about a message. -/
def RetryOutcome.verdict : RetryOutcome → Verdict
  | .retrying _ => .retried
  | .deadLettered _ => .deadLettered

variable {ω : Type}

/-- The verdicts in a dialogue: the last one of the open transaction, and those that were
committed. -/
structure Verdicts where
  current : Option Verdict := none
  committed : List Verdict := []

namespace Verdicts

/-- A mark or a count that is confirmed is a verdict. It is committed if the commit of its
transaction is confirmed. -/
def note (v : Verdicts) : Exchange (OutboxInterface ω) → Verdicts
  | ⟨op, reply⟩ =>
    match op, reply with
    | .inside _ (.request _ (.markProcessed _)), (.ok _ : Except StoreError Unit) =>
      { v with current := some .processed }
    | .inside _ (.request _ (.incrementRetry _ _)),
      (.ok outcome : Except StoreError RetryOutcome) =>
      { v with current := some outcome.verdict }
    | .commit _ _, (.ok _ : Except StoreError Unit) => ⟨none, v.committed ++ v.current.toList⟩
    | .commit _ _, (.error _ : Except StoreError Unit) => { v with current := none }
    | .beginTx _, _ => { v with current := none }
    | .rollback _ _, _ => { v with current := none }
    | _, _ => v

/-- What code in a transaction says commits nothing. -/
theorem committed_note_inside (v : Verdicts) (tx : TxHandle) (op : TxOp ω) (reply : op.Reply) :
    (v.note (⟨.inside tx op, reply⟩ : Exchange (OutboxInterface ω))).committed = v.committed := by
  cases op with
  | request i r =>
      cases r with
      | markProcessed id | incrementRetry id error => cases reply <;> rfl
      | add | claimNext | savepoint | rollbackToSavepoint | releaseSavepoint => rfl
  | now | freshId | tell => rfl

end Verdicts

/-- The verdicts that are committed in a dialogue. -/
def committedIn (said : List (Exchange (OutboxInterface ω))) : List Verdict :=
  (said.foldl Verdicts.note {}).committed

/-! ## What programs have on record -/

variable {α β : Type}

/-- **Whatever is answered,** the program ends with a result and with verdicts of which `Q` holds,
if there were the verdicts `v` before. -/
def OutboxProgram.Ensures (p : OutboxProgram ω α) (v : Verdicts) (Q : α → Verdicts → Prop) : Prop :=
  ∀ said a, Program.Speaks p said a → Q a (said.foldl Verdicts.note v)

namespace OutboxProgram.Ensures

variable {v : Verdicts} {Q : α → Verdicts → Prop}

theorem pure {a : α} (here : Q a v) : (Pure.pure a : OutboxProgram ω α).Ensures v Q := by
  intro said b speaks
  cases speaks
  exact here

theorem mono {p : OutboxProgram ω α} {Q' : α → Verdicts → Prop} (sure : p.Ensures v Q)
    (weaker : ∀ a v', Q a v' → Q' a v') : p.Ensures v Q' :=
  fun said a speaks => weaker a _ (sure said a speaks)

theorem bind {p : OutboxProgram ω α} {f : α → OutboxProgram ω β} {Q : β → Verdicts → Prop}
    (first : p.Ensures v fun a v' => (f a).Ensures v' Q) : (p >>= f).Ensures v Q := by
  intro said b speaks
  obtain ⟨a, said₁, said₂, rfl, speaks₁, speaks₂⟩ := Program.Speaks.of_bind speaks
  rw [List.foldl_append]
  exact first said₁ a speaks₁ said₂ b speaks₂

theorem perform {op : OutboxOp ω} {Q : op.Reply → Verdicts → Prop}
    (each : ∀ reply, Q reply (v.note (⟨op, reply⟩ : Exchange (OutboxInterface ω)))) :
    OutboxProgram.Ensures (Program.perform (I := OutboxInterface ω) op) v Q := by
  intro said reply speaks
  cases speaks with
  | call rest =>
      cases rest
      exact each _

/-- Code in a transaction may leave any verdict, and commits none. -/
theorem within {tx : TxHandle} {p : TxProgram ω α}
    (each : ∀ a v', v'.committed = v.committed → Q a v') :
    (OutboxProgram.within tx p).Ensures v Q := by
  induction p generalizing v with
  | done a =>
      intro said b speaks
      cases speaks
      exact each a v rfl
  | call op next ih =>
      intro said b speaks
      cases speaks with
      | call rest =>
          rw [List.foldl_cons]
          refine ih _ (fun a v' same => each a v' (same.trans ?_)) _ b rest
          exact Verdicts.committed_note_inside v tx op _

end OutboxProgram.Ensures

/-! ## One delivery -/

namespace Worker

open OutboxProgram

variable {κ : Type} [EventFamily κ] (w : Worker κ ω) (tx : TxHandle) (m : QueuedMessage)
  {v : Verdicts}

/-- The verdicts that a delivery reports. -/
def reported : Result → List Verdict
  | .ok (some outcome) => [outcome.verdict]
  | _ => []

/-- **What is committed is what is reported.** -/
def Reports (v : Verdicts) (result : Result) (v' : Verdicts) : Prop :=
  v'.committed = v.committed ++ reported result

theorem ensures_abort (e : StoreError) : (w.abort tx e).Ensures v (Reports v) :=
  .bind <| .perform fun _ => .bind <| .perform fun _ => .pure (List.append_nil _).symm

theorem ensures_giveBack (e : HandlerError) : (w.giveBack tx e).Ensures v (Reports v) :=
  .bind <| .perform fun _ => .bind <| .perform fun _ => .pure (List.append_nil _).symm

theorem ensures_nothingToDo : (w.nothingToDo tx).Ensures v (Reports v) := by
  refine .bind <| .perform fun _ => .bind <| .perform fun reply => ?_
  cases reply with
  | error e => exact .pure (List.append_nil _).symm
  | ok _ => exact .pure (List.append_nil _).symm

theorem ensures_commitSuccess {outcome : MessageOutcome}
    (noted : v.current = some outcome.verdict) :
    (w.commitSuccess tx outcome).Ensures v (Reports v) := by
  refine .bind <| .perform fun reply => ?_
  cases reply with
  | error e => exact .pure (List.append_nil _).symm
  | ok _ =>
      refine .bind <| .perform fun _ => .pure ?_
      show v.committed ++ v.current.toList = _
      rw [noted]
      rfl

theorem ensures_commitFailure {outcome : MessageOutcome}
    (noted : v.current = some outcome.verdict) :
    (w.commitFailure tx outcome).Ensures v (Reports v) := by
  refine .bind <| .perform fun reply => ?_
  cases reply with
  | error e => exact .pure (List.append_nil _).symm
  | ok _ =>
      refine .pure ?_
      show v.committed ++ v.current.toList = _
      rw [noted]
      rfl

theorem ensures_succeed (handlers : Nat) :
    (w.succeed tx m handlers).Ensures v (Reports v) := by
  refine .bind <| .perform fun reply => ?_
  cases reply with
  | error e => exact w.ensures_abort tx e
  | ok _ =>
      refine .bind <| .perform fun reply => ?_
      cases reply with
      | error e => exact w.ensures_abort tx e
      | ok _ => exact w.ensures_commitSuccess tx (v := { v with current := some .processed }) rfl

theorem ensures_fail (e : HandlerError) : (w.fail tx m e).Ensures v (Reports v) := by
  refine .bind <| .perform fun _ => .bind <| .perform fun reply => ?_
  cases reply with
  | error e => exact w.ensures_abort tx e
  | ok _ =>
      refine .bind <| .perform fun reply => ?_
      cases reply with
      | error e => exact w.ensures_abort tx e
      | ok outcome =>
          refine w.ensures_commitFailure tx (v := { v with current := some outcome.verdict }) ?_
          cases outcome <;> rfl

/-- The verdict of the handlers is committed as it is reported. -/
theorem ensures_settle (result : Except HandlerError Nat) :
    (w.settle tx m result).Ensures v (Reports v) := by
  cases result with
  | ok handlers => exact w.ensures_succeed tx m handlers
  | error e =>
      rw [settle]
      split
      · exact w.ensures_giveBack tx e
      · exact w.ensures_fail tx m e

theorem ensures_guard : (w.guard tx m).Ensures v (Reports v) := by
  refine .bind <| .perform fun _ => .bind <| .perform fun reply => ?_
  cases reply with
  | error e => exact w.ensures_abort tx e
  | ok _ =>
      -- whatever the handlers mark or count, nothing is committed yet
      refine .bind <| .within fun result v' same => ?_
      refine (w.ensures_settle tx m result).mono fun a v'' settled => ?_
      rw [Reports, same] at settled
      exact settled

/-- **One delivery** commits what it reports, and nothing else. -/
theorem ensures_processNext : w.processNext.Ensures v (Reports v) := by
  refine .bind <| .perform fun _ => .bind <| .perform fun reply => ?_
  cases reply with
  | error e => exact .pure (List.append_nil _).symm
  | ok tx =>
      refine .bind <| .perform fun reply => ?_
      cases reply with
      | error e => exact w.ensures_abort tx e
      | ok m? =>
          cases m? with
          | none => exact w.ensures_nothingToDo tx
          | some m => exact w.ensures_guard tx m

end Worker

/-! ## One batch -/

/-- How many messages ended so, according to the report. -/
def BatchReport.count (r : BatchReport) : Verdict → Nat
  | .processed => r.processed
  | .retried => r.retried
  | .deadLettered => r.deadLettered

/-- How many messages ended so, according to the statistics. -/
def WorkerStats.count (s : WorkerStats) : Verdict → Nat
  | .processed => s.messagesProcessed
  | .retried => s.messagesRetried
  | .deadLettered => s.messagesDeadLettered

theorem BatchReport.count_record (r : BatchReport) (outcome : MessageOutcome) (kind : Verdict) :
    (r.record outcome).count kind = r.count kind + [outcome.verdict].count kind := by
  cases outcome <;> cases kind <;> rfl

@[simp] theorem WorkerStats.count_afterBatch_ok (s : WorkerStats) (r : BatchReport)
    (kind : Verdict) : (s.afterBatch (.ok r)).count kind = s.count kind + r.count kind := by
  cases kind <;> rfl

@[simp] theorem WorkerStats.count_afterBatch_error (s : WorkerStats) (e : WorkerError)
    (kind : Verdict) : (s.afterBatch (.error e)).count kind = s.count kind := by
  cases kind <;> rfl

/-- The report counts the verdicts that are committed. -/
def BatchReport.Counts (r : BatchReport) (v : Verdicts) : Prop :=
  ∀ kind, r.count kind = v.committed.count kind

namespace Worker

open OutboxProgram

variable {κ : Type} [EventFamily κ] (w : Worker κ ω) {v : Verdicts}

theorem ensures_stopsHere {watched : Bool} {Q : Bool → Verdicts → Prop} (each : ∀ b, Q b v) :
    (stopsHere (ω := ω) watched).Ensures v Q := by
  cases watched with
  | false => exact .pure (each false)
  | true => exact .perform each

/-- A batch that comes to its end has counted what it committed: by induction on the messages that
it may still deliver. -/
theorem ensures_deliverUpTo (watched : Bool) (left : Nat) (report : BatchReport)
    (counts : report.Counts v) :
    (w.deliverUpTo watched left report).Ensures v fun result v' =>
      ∀ r, result = .ok r → r.Counts v' := by
  induction left generalizing report v with
  | zero =>
      refine .pure fun r h => ?_
      cases h
      exact counts
  | succ left ih =>
      refine .bind <| ensures_stopsHere fun stop => ?_
      cases stop with
      | true =>
          refine .pure fun r h => ?_
          cases h
          exact counts
      | false =>
          refine .bind <| w.ensures_processNext.mono fun result v' reports => ?_
          match result with
          | .error e => exact .pure fun r h => nomatch h
          | .ok none =>
              refine .pure fun r h kind => ?_
              cases h
              have same : v'.committed = v.committed := reports.trans (List.append_nil _)
              rw [same]
              exact counts kind
          | .ok (some outcome) =>
              refine ih _ fun kind => ?_
              have one : v'.committed = v.committed ++ [outcome.verdict] := reports
              rw [BatchReport.count_record, counts kind, one, List.count_append]

/-- **The report of a batch** counts what was committed in it. -/
theorem count_of_speaks_batch {watched : Bool} {said : List (Exchange (OutboxInterface ω))}
    {r : BatchReport} (speaks : (w.batch watched).Speaks said (.ok r)) (kind : Verdict) :
    r.count kind = (committedIn said).count kind :=
  w.ensures_deliverUpTo watched w.batchSize {} (v := {}) (fun kind => by cases kind <;> rfl) said _
    speaks r rfl kind

end Worker

/-! ## The life of a worker -/

/-- A batch as it went: what was said, and what came of it. -/
structure BatchRun (ω : Type) where
  said : List (Exchange (OutboxInterface ω))
  result : Except WorkerError BatchReport

namespace BatchRun

/-- Was the batch given up? -/
def givenUp (b : BatchRun ω) : Bool :=
  match b.result with
  | .ok _ => false
  | .error _ => true

@[simp] theorem givenUp_ok (said : List (Exchange (OutboxInterface ω))) (r : BatchReport) :
    givenUp ⟨said, .ok r⟩ = false :=
  rfl

@[simp] theorem givenUp_error (said : List (Exchange (OutboxInterface ω))) (e : WorkerError) :
    givenUp ⟨said, .error e⟩ = true :=
  rfl

/-- The verdicts that were committed in some batches. -/
def committed (batches : List (BatchRun ω)) : List Verdict :=
  batches.flatMap fun b => committedIn b.said

/-- The verdicts that were committed in the batches that were given up. -/
def unreported (batches : List (BatchRun ω)) : List Verdict :=
  committed (batches.filter givenUp)

variable (batches : List (BatchRun ω)) (said : List (Exchange (OutboxInterface ω)))

@[simp] theorem committed_append (more : List (BatchRun ω)) :
    committed (batches ++ more) = committed batches ++ committed more :=
  List.flatMap_append

@[simp] theorem committed_singleton (b : BatchRun ω) : committed [b] = committedIn b.said :=
  List.append_nil _

@[simp] theorem unreported_ok (r : BatchReport) :
    unreported (batches ++ [⟨said, .ok r⟩]) = unreported batches := by
  simp [unreported]

@[simp] theorem unreported_error (e : WorkerError) :
    unreported (batches ++ [⟨said, .error e⟩]) = unreported batches ++ committedIn said := by
  simp [unreported, List.filter_cons]

/-- Nothing is missing exactly if nothing was committed in a batch that was given up. -/
theorem unreported_eq_nil_iff :
    unreported batches = [] ↔ ∀ b ∈ batches, b.givenUp = true → committedIn b.said = [] := by
  simp only [unreported, committed, List.flatMap_eq_nil_iff, List.mem_filter, and_imp]

end BatchRun

namespace Worker

variable {κ : Type} [EventFamily κ] {w : Worker κ ω} {stats : WorkerStats}
  {batches : List (BatchRun ω)}

/-- A turn is a look at the stop signal, and then a batch or the end of the loop. -/
theorem of_speaks_turn {stats' : WorkerStats} {point : LoopPoint}
    {said : List (Exchange (OutboxInterface ω))}
    (speaks : (w.turn stats).Speaks said (point, stats')) :
    (said = [⟨.stopRequested, true⟩, ⟨.enter .stopped, ()⟩] ∧ point = .ended ∧ stats' = stats) ∨
      ∃ now result, said = ⟨.stopRequested, false⟩ :: now ∧ (w.batch true).Speaks now result ∧
        point = (if sleepsAfter result then .asleep else .ready) ∧
        stats' = stats.afterBatch result := by
  obtain ⟨stop, _, _, rfl, asked, rest⟩ := Program.Speaks.of_bind speaks
  obtain rfl := asked.of_perform
  cases stop with
  | true =>
      obtain ⟨_, _, _, rfl, leaving, ended⟩ := Program.Speaks.of_bind rest
      obtain ⟨_, _, _, rfl, entered, left⟩ := Program.Speaks.of_bind leaving
      obtain rfl := entered.of_perform
      obtain ⟨rfl, rfl⟩ := left.of_pure
      obtain ⟨rfl, h⟩ := ended.of_pure
      cases h
      exact Or.inl ⟨rfl, rfl, rfl⟩
  | false =>
      obtain ⟨result, now, _, rfl, spoken, ended⟩ := Program.Speaks.of_bind rest
      obtain ⟨rfl, h⟩ := ended.of_pure
      cases h
      exact Or.inr ⟨now, result, by rw [List.append_nil]; rfl, spoken, rfl, rfl⟩

/-- **What a worker can have done**, with its statistics by then: any batches, within the run loop
or outside of it, whatever was said in them. -/
inductive Life (w : Worker κ ω) : WorkerStats → List (BatchRun ω) → Prop where
  | start : Life w {} []
  | batch {stats : WorkerStats} {batches : List (BatchRun ω)} (watched : Bool)
      {said : List (Exchange (OutboxInterface ω))} {result : Except WorkerError BatchReport}
      (before : Life w stats batches) (speaks : (w.batch watched).Speaks said result) :
      Life w (stats.afterBatch result) (batches ++ [⟨said, result⟩])

/-- A turn of the run loop has a batch in it, or commits nothing and leaves the statistics as they
were. -/
theorem Life.turn (life : w.Life stats batches) {said : List (Exchange (OutboxInterface ω))}
    {point : LoopPoint} {stats' : WorkerStats}
    (speaks : (w.turn stats).Speaks said (point, stats')) :
    ∃ more, w.Life stats' (batches ++ more) ∧ BatchRun.committed more = committedIn said := by
  rcases of_speaks_turn speaks with ⟨rfl, -, rfl⟩ | ⟨now, result, rfl, spoken, -, rfl⟩
  · exact ⟨[], by simpa using life, rfl⟩
  · refine ⟨[⟨now, result⟩], life.batch true spoken, ?_⟩
    rw [BatchRun.committed_singleton]
    rfl

/-- Batches that came to their end are counted as such. -/
theorem Life.batches_eq (life : w.Life stats batches) :
    stats.batches = (batches.filter fun b => !b.givenUp).length := by
  induction life with
  | start => rfl
  | @batch _ _ _ _ result _ _ ih =>
      cases result <;> simp [WorkerStats.afterBatch, ih]

/-- The others are counted as errors. -/
theorem Life.infrastructureErrors_eq (life : w.Life stats batches) :
    stats.infrastructureErrors = (batches.filter BatchRun.givenUp).length := by
  induction life with
  | start => rfl
  | @batch _ _ _ _ result _ _ ih =>
      cases result <;> simp [WorkerStats.afterBatch, List.filter_cons, ih]

/-- The counters lack what was committed in batches that were given up, and nothing else. -/
theorem Life.count_add (life : w.Life stats batches) (kind : Verdict) :
    stats.count kind + (BatchRun.unreported batches).count kind =
      (BatchRun.committed batches).count kind := by
  induction life with
  | start => cases kind <;> rfl
  | @batch stats batches watched said result _ speaks ih =>
      cases result with
      | ok r =>
          simp only [WorkerStats.count_afterBatch_ok, BatchRun.unreported_ok,
            BatchRun.committed_append, BatchRun.committed_singleton, List.count_append, ← ih,
            w.count_of_speaks_batch speaks kind]
          omega
      | error e =>
          simp only [WorkerStats.count_afterBatch_error, BatchRun.unreported_error,
            BatchRun.committed_append, BatchRun.committed_singleton, List.count_append, ← ih]
          omega

/-- **What the statistics account for.** At any time between two batches, the counters and what was
committed in batches that were given up make up all that was committed. So the counters are right
exactly if nothing was ever committed in a batch that was given up. -/
theorem accounting (life : w.Life stats batches) :
    stats.batches = (batches.filter fun b => !b.givenUp).length ∧
      stats.infrastructureErrors = (batches.filter BatchRun.givenUp).length ∧
      (∀ kind, stats.count kind + (BatchRun.unreported batches).count kind =
        (BatchRun.committed batches).count kind) ∧
      ((∀ kind, stats.count kind = (BatchRun.committed batches).count kind) ↔
        ∀ b ∈ batches, b.givenUp = true → committedIn b.said = []) := by
  refine ⟨life.batches_eq, life.infrastructureErrors_eq, life.count_add, ?_⟩
  rw [← BatchRun.unreported_eq_nil_iff]
  constructor
  · intro right
    refine List.eq_nil_iff_forall_not_mem.mpr fun kind => List.count_eq_zero.mp ?_
    have := life.count_add kind
    have := right kind
    omega
  · intro nothing kind
    rw [← life.count_add kind, nothing]
    rfl

end Worker

/-! ## A batch on a host -/

namespace Worker

variable {κ : Type} [EventFamily κ] (w : Worker κ ω)

/-- A batch that takes place on a host, with its result. -/
def batchOn (watched : Bool) (h : Host ω) (result : Except WorkerError BatchReport) : BatchRun ω :=
  ⟨(w.batch watched).dialogue Host.answer h, result⟩

theorem Life.batchOn {w : Worker κ ω} {stats : WorkerStats} {batches : List (BatchRun ω)}
    (life : w.Life stats batches) {watched : Bool} {h : Host ω}
    {result : Except WorkerError BatchReport}
    (ran : (Host.run (w.batch watched) h).1 = some result) :
    w.Life (stats.afterBatch result) (batches ++ [w.batchOn watched h result]) :=
  life.batch watched (Program.speaks_dialogue ran)

end Worker

/-! ## Doors

A worker that is told of doors that open and close, and that has lost connectivity by the time that
one closes. The store has one message of each kind.
-/

/-- What happens to doors. -/
inductive Door where
  | door
deriving DecidableEq

instance : EventFamily Door where
  decEq := inferInstance
  Body _ := Bool
  typeName _ := "Door"
  tags _ := ["door.opened", "door.closed"]
  tag _ opened := if opened then "door.opened" else "door.closed"
  occurredAt _ now _ := now
  write _ opened := .ok (.bool opened)
  read _
    | .bool opened => .ok opened
    | _ => .error (.wrongLength 1 "no door")

namespace Door

/-- A handler that cannot report that a door closed. -/
def reporting : Handler Door (DeferredM Unit) where
  kind := .door
  handle
    | true => pure ()
    | false => throw (.connectivity "unreachable")

/-- The worker with this handler, with batches of two messages. -/
def porter : Worker Door Unit where
  name := "porter"
  store := ⟨0⟩
  registry := ⟨[{ tag := "door.opened", owner := .door, deferred := [reporting] },
    { tag := "door.closed", owner := .door, deferred := [reporting] }]⟩
  batchSize := 2
  pollMs := 0

/-- A door opens and closes. -/
def given : List Call :=
  [.beginTx ⟨0⟩,
    .request default ⟨0⟩ ⟨0⟩ (.add (.fresh ⟨.ofNat 1⟩ default "door.opened" (.bool true))),
    .request default ⟨0⟩ ⟨0⟩ (.add (.fresh ⟨.ofNat 2⟩ default "door.closed" (.bool false))),
    .commit ⟨0⟩ ⟨0⟩]

/-- A host with these messages, if any were given by then. -/
def host (calls : List Call) : Host Unit where
  system := (System.ofSize 1).run calls
  clock := default
  names _ := default

/-- A batch before anything happens. -/
def calm : BatchRun Unit :=
  porter.batchOn false (host []) (.ok { drained := true })

/-- The batch in which connectivity gets lost. -/
def cutOff : BatchRun Unit :=
  porter.batchOn false (host given)
    (.error (.infrastructure "infrastructure unavailable: unreachable"))

/-- What the worker has counted by then. -/
def counted : WorkerStats :=
  (WorkerStats.afterBatch {} calm.result).afterBatch cutOff.result

theorem ran_calm : (Host.run (porter.batch false) (host [])).1 = some calm.result := by
  decide +kernel

theorem ran_cutOff : (Host.run (porter.batch false) (host given)).1 = some cutOff.result := by
  decide +kernel

theorem life : porter.Life counted [calm, cutOff] :=
  ((Worker.Life.start).batchOn ran_calm).batchOn ran_cutOff

end Door

/-- One message is missing from the counters by then. -/
theorem Worker.accounting_porter :
    Door.counted.batches = 1 ∧ Door.counted.infrastructureErrors = 1 ∧
      BatchRun.unreported [Door.calm, Door.cutOff] = [.processed] ∧
      ∀ kind, Door.counted.count kind + [Verdict.processed].count kind =
        (BatchRun.committed [Door.calm, Door.cutOff]).count kind := by
  have missing : BatchRun.unreported [Door.calm, Door.cutOff] = [.processed] := by decide +kernel
  obtain ⟨completed, errors, rest, -⟩ := Worker.accounting Door.life
  rw [missing] at rest
  exact ⟨completed.trans (by decide +kernel), errors.trans (by decide +kernel), missing, rest⟩

/-- **A batch that is given up reports nothing.** The first message is delivered, and is marked as
such in the store; the batch ends with the second one, and the counter stays at 0. -/
theorem Worker.batch_unaccounted :
    Door.porter.Life (WorkerStats.afterBatch {} Door.cutOff.result) [Door.cutOff] ∧
      ((Host.run (Door.porter.batch false) (Door.host Door.given)).2.system.store ⟨0⟩).stats =
        ⟨1, 1, 0⟩ ∧
      committedIn Door.cutOff.said = [.processed] ∧
      (WorkerStats.afterBatch {} Door.cutOff.result).messagesProcessed = 0 ∧
      ¬ ∀ kind, (WorkerStats.afterBatch {} Door.cutOff.result).count kind =
        (BatchRun.committed [Door.cutOff]).count kind := by
  refine ⟨(Worker.Life.start).batchOn Door.ran_cutOff, ?_, ?_, ?_, ?_⟩
  · decide +kernel
  · decide +kernel
  · decide +kernel
  · exact fun right => absurd (right .processed) (by decide +kernel)

end MaintenanceOutbox
