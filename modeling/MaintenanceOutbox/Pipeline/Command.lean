import MaintenanceOutbox.Pipeline.Stage

set_option autoImplicit false

/-! # The command pipeline

A command runs in a transaction of its own: first the command handler, then the event stage, then
the commit. If either of the first two fails, the transaction is rolled back and the failure is
returned as it is. The business change and the messages about it are therefore committed together
or not at all.
-/

namespace MaintenanceOutbox

/-- What a command handler does: it works on its transaction and its unit of work, and may fail with
errors of its own. -/
abbrev CommandM (κ ω ε : Type) [EventFamily κ] :=
  ExceptT ε (StateT (UnitOfWork κ) (TxProgram ω))

namespace EventStage

variable {κ ω ε α : Type} [EventFamily κ]

/-- Give up a command: roll its transaction back and report `e`. A failing rollback is not
reported. -/
def abandon (s : EventStage κ ω) (tx : TxHandle) (e : PipelineError ε) :
    OutboxProgram ω (Except (PipelineError ε) α) := do
  let _ ← OutboxProgram.rollback s.store tx
  pure (.error e)

/-- Commit a command that results in `output`. -/
def conclude (s : EventStage κ ω) (tx : TxHandle) (output : α) :
    OutboxProgram ω (Except (PipelineError ε) α) := do
  match ← OutboxProgram.commit s.store tx with
  | .ok () => pure (.ok output)
  | .error e => pure (.error (.store e))

/-- **Execute a command** in a transaction of its own. -/
def execute (s : EventStage κ ω) (command : CommandM κ ω ε α) :
    OutboxProgram ω (Except (PipelineError ε) α) := do
  match ← OutboxProgram.beginTx s.store with
  | .error e => pure (.error (.store e))
  | .ok tx =>
    match ← OutboxProgram.within tx (command.run.run UnitOfWork.empty) with
    | (.error e, _) => s.abandon tx (.command e)
    | (.ok output, uow) =>
      match ← OutboxProgram.within tx (s.run.run.run uow) with
      | (.error e, _) => s.abandon tx e.widen
      | (.ok _, _) => s.conclude tx output

end EventStage

end MaintenanceOutbox
