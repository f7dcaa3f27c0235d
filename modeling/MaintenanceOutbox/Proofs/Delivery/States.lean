import MaintenanceOutbox.Proofs.Delivery.Granted
import MaintenanceOutbox.Proofs.Delivery.Stopping

set_option autoImplicit false

/-! # What a running worker publishes

A worker in its run loop publishes its states, and operators watch them. The loop starts in the idle
state, and what it publishes from then on comes in blocks, one for every delivery: `claiming, idle`
where nothing was claimable, `claiming, dispatching, succeeded` where a mark was committed, and
`claiming, dispatching, failed` where a failed attempt was committed or the message was given back.
The last thing that is published is that the worker stopped (`Worker.publishes_blocks`).

That needs every call of a delivery to be granted (`Point.At.call`). Others may do with the same
stores what they like as long as they leave the rows alone that the worker has locked
(`System.Respects`). The store sees to that itself if no name is added twice in a run
(`Worker.publishes_blocks_of_addsOnce`), and there is nothing to see to if nobody else is at work.
-/

namespace MaintenanceOutbox

variable {κ ω : Type} [EventFamily κ]

/-! ## States -/

/-- The state that was published, if this is its publication. -/
def Exchange.entered? (e : Exchange (OutboxInterface ω)) : Option WorkerState :=
  match e.op with
  | .enter state => some state
  | _ => none

/-- **The states that were published** in a dialogue. -/
def published (said : Dialogue ω) : List WorkerState :=
  said.filterMap Exchange.entered?

@[simp] theorem published_nil : published ([] : Dialogue ω) = [] := rfl

@[simp] theorem published_cons (e : Exchange (OutboxInterface ω)) (said : Dialogue ω) :
    published (e :: said) = e.entered?.toList ++ published said := by
  rw [published, List.filterMap_cons, published]
  cases e.entered? <;> rfl

@[simp] theorem published_append (said more : Dialogue ω) :
    published (said ++ more) = published said ++ published more :=
  List.filterMap_append

namespace Worker

/-- **The block of a delivery**: the states that are published in it. -/
def Result.states : Result → List WorkerState
  | .ok none => [.claiming, .idle]
  | .ok (some (.processed _ _)) => [.claiming, .dispatching, .succeeded]
  | .ok (some (.retried _ _)) => [.claiming, .dispatching, .failed]
  | .ok (some (.deadLettered _ _)) => [.claiming, .dispatching, .failed]
  | .error _ => [.claiming, .dispatching, .failed]

variable {i : StoreId} {tx : TxHandle} {m : QueuedMessage} {said : Dialogue ω} {result : Result}

/-- Handlers publish nothing. -/
theorem Attempted.published (attempted : Attempted i tx m said) :
    published said = [.claiming, .dispatching] := by
  obtain ⟨calls, all, rfl⟩ := attempted
  have silent : MaintenanceOutbox.published calls = [] := by
    refine List.filterMap_eq_nil_iff.mpr fun e he => ?_
    obtain ⟨op, reply, rfl⟩ := all e he
    rfl
  rw [published_append, silent]
  rfl

theorem Block.published (block : Block i said result) : published said = result.states := by
  cases block with
  | idle => rfl
  | succeeded attempted handlers =>
      rw [published_append, attempted.published]
      rfl
  | failed attempted reason outcome =>
      rw [published_append, attempted.published]
      cases outcome <;> rfl
  | givenBack attempted reason =>
      rw [published_append, attempted.published]
      rfl

/-- **A delivery as it was published**: `said` was said in it, with the given result. It is one of
the four deliveries, and its block tells what was committed in it. -/
structure PublishesBlock (w : Worker κ ω) (said : Dialogue ω) (result : Result) : Prop where
  speaks : w.processNext.Speaks said result
  block : Block w.store said result
  states : published said = result.states
  idle : published said = [.claiming, .idle] ↔ result = .ok none
  succeeded : published said = [.claiming, .dispatching, .succeeded] ↔
    committedIn said = [.processed]
  failed : published said = [.claiming, .dispatching, .failed] ↔
    committedIn said = [.retried] ∨ committedIn said = [.deadLettered] ∨
      ∃ reason, result = .error (.infrastructure reason)

theorem Block.publishes {w : Worker κ ω} (block : Block w.store said result)
    (speaks : w.processNext.Speaks said result) : w.PublishesBlock said result := by
  have committed : committedIn said = reported result := w.ensures_processNext said result speaks
  have states := block.published
  refine ⟨speaks, block, states, ?_, ?_, ?_⟩
  all_goals
    rw [states]
    try rw [committed]
    cases block with
    | idle | succeeded => simp [Result.states, reported, MessageOutcome.verdict]
    | failed attempted reason outcome =>
        cases outcome <;>
          simp [Result.states, reported, MessageOutcome.ofRetry, MessageOutcome.verdict]
    | givenBack => simp [Result.states, reported]

/-- **What was said by a running worker**: looks at the stop signal, and deliveries, with what was
said in each and its result. -/
inductive Blocks (w : Worker κ ω) : Dialogue ω → List (Dialogue ω × Result) → Prop where
  | nil : Blocks w [] []
  | look {said : Dialogue ω} {blocks : List (Dialogue ω × Result)} (before : Blocks w said blocks)
      (stop : Bool) : Blocks w (said ++ [.look stop]) blocks
  | block {said now : Dialogue ω} {blocks : List (Dialogue ω × Result)} {result : Result}
      (before : Blocks w said blocks) (publishes : w.PublishesBlock now result) :
      Blocks w (said ++ now) (blocks ++ [(now, result)])

theorem Blocks.published {w : Worker κ ω} {blocks : List (Dialogue ω × Result)}
    (all : w.Blocks said blocks) : published said = blocks.flatMap (published ·.1) := by
  induction all with
  | nil => rfl
  | look _ stop ih =>
      rw [published_append, ih]
      exact List.append_nil _
  | block _ publishes ih => rw [published_append, ih, List.flatMap_append, List.flatMap_singleton]

theorem Blocks.publishes {w : Worker κ ω} {blocks : List (Dialogue ω × Result)}
    (all : w.Blocks said blocks) : ∀ b ∈ blocks, w.PublishesBlock b.1 b.2 := by
  induction all with
  | nil => simp
  | look _ _ ih => exact ih
  | block _ publishes ih =>
      intro b hb
      rcases List.mem_append.mp hb with old | new
      · exact ih b old
      · exact List.mem_singleton.mp new ▸ publishes

end Worker

/-! ## Runs that are not disturbed -/

/-- **The call respects what the given transactions have locked**: it is made on none of them, and
the rows that they have locked stay as they are. -/
def System.Respects (s : System) (i : StoreId) (given : List TxHandle) (c : Call) : Prop :=
  ∀ h ∈ given, ¬ c.On h ∧ ∀ tx, (s.view i).tx h = some tx →
    ∀ id ∈ tx.locks, ((s.step c).store i).row? id = (s.store i).row? id

/-- **If no name is added twice**, calls on other transactions respect all locks. -/
theorem System.respects_of_addsOnce {n : Nat} {i : StoreId} (hi : i.index < n) {calls : List Call}
    {c : Call} (once : Call.AddsOnce i (calls ++ [c])) {given : List TxHandle}
    (away : ∀ h ∈ given, ¬ c.On h) : ((ofSize n).run calls).Respects i given c := by
  intro h mem
  refine ⟨away h mem, fun tx opened id held => ?_⟩
  have orderly := orderly_run (orderly_ofSize n) calls
  have same := (sound_run hi once.of_append).row_step opened held (e := c.seenFrom i)
    fun ends => away h mem (Call.on_of_ends (Call.ends_of_seenFrom ends))
  rw [← view_step orderly (index_lt_run hi calls)] at same
  exact same

namespace Worker

/-- **A run of a worker that is not disturbed**: a run as in `Worker.Running`, in which others
respect what the worker has locked. -/
inductive Undisturbed (w : Worker κ ω) (n : Nat) :
    System → OutboxProgram ω (LoopPoint × WorkerStats) → Dialogue ω → Prop where
  | start (stats : WorkerStats) : Undisturbed w n (.ofSize n) (.done (.ready, stats)) []
  | turn {s : System} {stats : WorkerStats} {said : Dialogue ω}
      (before : Undisturbed w n s (.done (.ready, stats)) said) :
      Undisturbed w n s (w.turn stats) said
  | wake {s : System} {stats : WorkerStats} {said : Dialogue ω}
      (before : Undisturbed w n s (.done (.asleep, stats)) said) (why : Wake) :
      Undisturbed w n s ((fun point => (point, stats)) <$> Worker.wake why) said
  | call {op : OutboxOp ω} {next : op.Reply → OutboxProgram ω (LoopPoint × WorkerStats)}
      {said : Dialogue ω} {host : Host ω} {reply : op.Reply}
      (before : Undisturbed w n host.system (.call op next) said)
      (answered : (Host.answer op host).1 = some reply) :
      Undisturbed w n (Host.answer op host).2.system (next reply) (said ++ [⟨op, reply⟩])
  | others {s : System} {rest : OutboxProgram ω (LoopPoint × WorkerStats)} {said : Dialogue ω}
      (before : Undisturbed w n s rest said) (c : Call)
      (respects : s.Respects w.store (begunIn said) c) : Undisturbed w n (s.step c) rest said

variable {w : Worker κ ω} {n : Nat} {s : System}
  {rest : OutboxProgram ω (LoopPoint × WorkerStats)} {said : Dialogue ω}

theorem Undisturbed.running (run : w.Undisturbed n s rest said) : w.Running n s rest said := by
  induction run with
  | start stats => exact .start stats
  | turn _ ih => exact .turn ih
  | wake _ why ih => exact .wake ih why
  | call _ answered ih => exact .call ih answered
  | others _ c respects ih => exact .others ih c fun h mem => (respects h mem).1

/-! ## Between two deliveries -/

/-- **What is left of a turn** while no delivery is under way: looks at the stop signal, deliveries
from their first call on, and in the end a place to go on from or the end of the loop. -/
inductive Between (w : Worker κ ω) : OutboxProgram ω (LoopPoint × WorkerStats) → Prop where
  | done {point : LoopPoint} (stats : WorkerStats) (inside : point ≠ .ended) :
      Between w (.done (point, stats))
  | looks {next : Bool → OutboxProgram ω (LoopPoint × WorkerStats)}
      (each : ∀ stop, Between w (next stop)) :
      Between w (Program.call (I := OutboxInterface ω) .stopRequested next)
  | leaves (stats : WorkerStats) :
      Between w (Program.call (I := OutboxInterface ω) (.enter .stopped) fun _ =>
        .done (.ended, stats))
  | delivers {goOn : Result → OutboxProgram ω (LoopPoint × WorkerStats)}
      (after : ∀ result, Between w (goOn result)) :
      Between w (Program.call (I := OutboxInterface ω) (.enter .claiming) fun _ =>
        (Point.beginning.program w).bind goOn)

theorem between_deliverUpTo {goOn : Except WorkerError BatchReport →
      OutboxProgram ω (LoopPoint × WorkerStats)} (after : ∀ result, w.Between (goOn result))
    (left : Nat) (report : BatchReport) :
    w.Between ((w.deliverUpTo true left report).bind goOn) := by
  induction left generalizing report with
  | zero => exact after _
  | succ left ih =>
      refine .looks fun stop => ?_
      cases stop with
      | true => exact after _
      | false =>
          show w.Between ((w.processNext.bind _).bind goOn)
          rw [Program.bind_assoc]
          -- after the delivery, the batch goes on as it says
          refine .delivers fun result => ?_
          rcases result with e | (_ | outcome)
          · exact after _
          · exact after _
          · exact ih _

theorem between_turn (stats : WorkerStats) : w.Between (w.turn stats) := by
  refine .looks fun stop => ?_
  cases stop with
  | true => exact .leaves stats
  | false =>
      refine between_deliverUpTo (fun result => .done _ ?_) _ _
      split <;> simp

theorem between_wake (why : Wake) (stats : WorkerStats) :
    w.Between ((fun point => (point, stats)) <$> Worker.wake why) := by
  cases why with
  | elapsed | signalled => exact .done stats (by simp)
  | abandoned => exact .leaves stats

/-! ## Where a running worker stands -/

/-- **Where a running worker stands**: it has made some deliveries, and is between two of them, or
at one of the points of a delivery, or out of the loop. -/
inductive Standing (w : Worker κ ω) (s : System) :
    OutboxProgram ω (LoopPoint × WorkerStats) → Dialogue ω → Prop where
  | between {rest : OutboxProgram ω (LoopPoint × WorkerStats)} {said : Dialogue ω}
      {blocks : List (Dialogue ω × Result)} (left : w.Between rest) (all : w.Blocks said blocks) :
      Standing w s rest said
  | delivering {point : Point ω} {node : Node ω}
      {goOn : Result → OutboxProgram ω (LoopPoint × WorkerStats)} {past now : Dialogue ω}
      {blocks : List (Dialogue ω × Result)} (after : ∀ result, w.Between (goOn result))
      (all : w.Blocks past blocks) (here : point.At w.store s now)
      (atNode : point.node w = .inr node)
      (speaks : ∀ more result, (point.program w).Speaks more result →
        w.processNext.Speaks (now ++ more) result) :
      Standing w s (Program.call (I := OutboxInterface ω) node.op fun reply =>
        ((node.next reply).program w).bind goOn) (past ++ now)
  | stopped {said : Dialogue ω} {blocks : List (Dialogue ω × Result)} (stats : WorkerStats)
      (all : w.Blocks said blocks) :
      Standing w s (.done (.ended, stats)) (said ++ [.entered .stopped])

/-- A worker that has got to a point stands there, or has made one more delivery. -/
theorem Standing.of_at {point : Point ω} {goOn : Result → OutboxProgram ω (LoopPoint × WorkerStats)}
    {past now : Dialogue ω} {blocks : List (Dialogue ω × Result)}
    (after : ∀ result, w.Between (goOn result)) (all : w.Blocks past blocks)
    (here : point.At w.store s now)
    (speaks : ∀ more result, (point.program w).Speaks more result →
      w.processNext.Speaks (now ++ more) result) :
    w.Standing s ((point.program w).bind goOn) (past ++ now) := by
  cases atNode : point.node w with
  | inr node =>
      have calls := point.program_eq_node w
      rw [atNode] at calls
      rw [calls]
      exact .delivering after all here atNode speaks
  | inl result =>
      cases point with
      | ended result' =>
          have spoken := speaks [] result' (.done result')
          rw [List.append_nil] at spoken
          exact .between (after result') (.block all (here.told.publishes spoken))
      | _ => cases atNode

/-- **A call of the worker.** -/
theorem Standing.call (leaves : w.registry.DeferredUse TxOp.LeavesSavepoint) {host : Host ω}
    {op : OutboxOp ω} {next : op.Reply → OutboxProgram ω (LoopPoint × WorkerStats)}
    (orderly : host.system.Orderly) (hi : w.store.index < host.system.stores.length)
    (tidy : (host.system.store w.store).Tidy)
    (standing : w.Standing host.system (.call op next) said) {reply : op.Reply}
    (answered : (Host.answer op host).1 = some reply) :
    w.Standing (Host.answer op host).2.system (next reply) (said ++ [⟨op, reply⟩]) := by
  cases standing with
  | between left all =>
      cases left with
      | looks each => exact .between (each _) (.look all _)
      | leaves stats => exact .stopped stats all
      | delivers after =>
          have here : (Point.beginning : Point ω).At w.store
              (Host.answer (.enter .claiming) host).2.system [⟨.enter .claiming, ()⟩] :=
            .of_none rfl rfl
          exact .of_at after all here fun _ _ spoken => .call spoken
  | @delivering point node goOn past now blocks after all here atNode speaks =>
      rw [List.append_assoc]
      refine .of_at after all (here.call leaves rfl orderly hi tidy atNode host rfl answered) ?_
      intro more result spoken
      rw [List.append_assoc]
      refine speaks _ result ?_
      have calls := point.program_eq_node w
      rw [atNode] at calls
      rw [calls]
      exact .call spoken

end Worker

/-! ## Calls of others -/

theorem mem_begunIn {said : Dialogue ω} {i : StoreId} {h : TxHandle}
    (began : Exchange.began i h ∈ said) : h ∈ begunIn said :=
  List.mem_filterMap.mpr ⟨_, began, rfl⟩

theorem Call.on_of_seenFrom {i : StoreId} {h : TxHandle} {c : Call} (on : (c.seenFrom i).On h) :
    c.On h := by
  cases c with
  | beginTx j | request now j k r | requeue j id | deleteDeadLetter j id | purge j cutoff =>
      rw [Call.seenFrom] at on
      split at on
      · exact on
      · exact on.elim
  | commit j k =>
      rw [Call.seenFrom] at on
      split at on <;> exact on
  | rollback j k | drop k => exact on

namespace Worker

variable {w : Worker κ ω} {n : Nat} {s : System}
  {rest : OutboxProgram ω (LoopPoint × WorkerStats)} {said : Dialogue ω}

/-- **A call of somebody else** that respects what the worker has locked. -/
theorem Standing.others (orderly : s.Orderly) (hi : w.store.index < s.stores.length)
    (locking : (s.view w.store).Locking) (standing : w.Standing s rest said) {c : Call}
    (respects : s.Respects w.store (begunIn said) c) : w.Standing (s.step c) rest said := by
  cases standing with
  | between left all => exact .between left all
  | stopped stats all => exact .stopped stats all
  | @delivering _ _ _ past now _ after all here atNode speaks =>
      refine .delivering after all ⟨here.told, ?_⟩ atNode speaks
      intro h hand
      obtain ⟨tx, opened, stands⟩ := here.stands h hand
      have ours : h ∈ begunIn (past ++ now) :=
        mem_begunIn (List.mem_append_right past (here.told.began hand))
      obtain ⟨away, rows⟩ := respects h ours
      refine ⟨tx, ?_, stands.of_rows (rows tx opened)⟩
      rw [System.view_step orderly hi]
      exact (View.tx_step_away (fun on => away (Call.on_of_seenFrom on))
        (locking.begun h tx opened)).trans opened

/-- **At any time of a run** a worker stands somewhere. By induction on the run. -/
theorem Undisturbed.standing (hi : w.store.index < n)
    (leaves : w.registry.DeferredUse TxOp.LeavesSavepoint) (run : w.Undisturbed n s rest said) :
    w.Standing s rest said := by
  induction run with
  | start stats => exact .between (.done stats (by simp)) .nil
  | turn before ih =>
      cases ih with
      | between left all => exact .between (between_turn _) all
  | wake before why ih =>
      cases ih with
      | between left all => exact .between (between_wake why _) all
  | call before answered ih =>
      obtain ⟨orderly, hi'⟩ := before.running.orderly hi
      obtain ⟨calls, same⟩ := before.running.exists_run
      exact ih.call leaves orderly hi' (same ▸ System.tidy_run hi calls) answered
  | others before c respects ih =>
      obtain ⟨calls, rfl⟩ := before.running.exists_run
      exact ih.others (System.orderly_run (System.orderly_ofSize n) calls)
        (System.index_lt_run hi calls) (System.locking_run hi calls) respects

end Worker

/-! ## What is published -/

theorem Worker.Block.begins {i : StoreId} {before tail more : Dialogue ω} {result : Worker.Result}
    (block : Worker.Block i (before ++ (tail ++ more)) result) :
    ∃ more result, Worker.Block i (before ++ tail ++ more) result :=
  ⟨more, result, (List.append_assoc before tail more).symm ▸ block⟩

/-- **What was said at a point** is the beginning of one of the four deliveries. -/
theorem Point.Told.begins {i : StoreId} {said : Dialogue ω} {point : Point ω}
    (told : point.Told i said) : ∃ more result, Worker.Block i (said ++ more) result := by
  -- before the handlers have come to their end, they may still succeed
  have fresh (tx : TxHandle) (m : QueuedMessage) :
      Worker.Attempted i tx m (Worker.preamble (ω := ω) i tx m) :=
    ⟨[], by simp, (List.append_nil _).symm⟩
  cases point with
  | starting =>
      cases told
      exact ⟨_, _, .idle ⟨0⟩⟩
  | beginning =>
      cases told
      exact ⟨[_, _, _, _], _, .idle ⟨0⟩⟩
  | claiming tx | resting tx | leaving tx =>
      cases told
      exact ⟨_, _, .idle tx⟩
  | taking tx m | guarding tx m =>
      cases told
      exact ⟨_, _, .succeeded (fresh tx m) 0⟩
  | handling | keeping | failing => exact ⟨_, _, .succeeded told 0⟩
  | marking tx m handlers | storing tx m handlers =>
      obtain ⟨before, attempted, rfl⟩ := told
      exact (Worker.Block.succeeded attempted 0).begins
  | succeeded id handlers =>
      obtain ⟨tx, m, before, attempted, -, rfl⟩ := told
      exact (Worker.Block.succeeded attempted 0).begins
  | undoing tx m e | counting tx m reason =>
      obtain ⟨before, attempted, rfl⟩ := told
      exact (Worker.Block.failed attempted "" (.retrying 0)).begins
  | recording tx m outcome =>
      obtain ⟨before, reason, attempted, rfl⟩ := told
      exact (Worker.Block.failed attempted reason outcome).begins
  | yielding tx m? e =>
      obtain ⟨m, reason, attempted, -⟩ := told
      exact ⟨_, _, .succeeded attempted 0⟩
  | yielded tx m? e =>
      obtain ⟨m, reason, before, attempted, -, rfl⟩ := told
      exact (Worker.Block.givenBack attempted reason).begins
  | ended result => exact ⟨[], result, (List.append_nil said).symm ▸ told⟩

namespace Worker

variable {w : Worker κ ω} {n : Nat} {s : System} {i : StoreId}
  {rest : OutboxProgram ω (LoopPoint × WorkerStats)} {said more : Dialogue ω}

/-- **Success is published right after the commit** of the mark. -/
def SucceedsAfterCommit (i : StoreId) (said : Dialogue ω) : Prop :=
  ∀ before after, said = before ++ .entered .succeeded :: after →
    ∃ past tx id, before = past ++ [.marked i tx id, .committed i tx]

namespace SucceedsAfterCommit

theorem of_not_mem (silent : WorkerState.succeeded ∉ published said) :
    SucceedsAfterCommit i said := by
  rintro before after rfl
  refine absurd ?_ silent
  rw [published_append]
  exact List.mem_append_right _ List.mem_cons_self

theorem append (first : SucceedsAfterCommit i said) (second : SucceedsAfterCommit i more) :
    SucceedsAfterCommit i (said ++ more) := by
  intro before after split
  rcases List.append_eq_append_iff.mp split with ⟨between, rfl, here⟩ | ⟨now, here, rest⟩
  · obtain ⟨past, tx, id, rfl⟩ := second between after here
    exact ⟨said ++ past, tx, id, (List.append_assoc _ _ _).symm⟩
  · cases now with
    | nil =>
        obtain ⟨past, tx, id, none'⟩ := second [] after rest.symm
        simp at none'
    | cons e now =>
        rw [List.cons_append, List.cons.injEq] at rest
        rw [← rest.1] at here
        exact first before now here

theorem of_append (both : SucceedsAfterCommit i (said ++ more)) : SucceedsAfterCommit i said := by
  rintro before after rfl
  exact both before (after ++ more) (by simp)

theorem commit (silent : WorkerState.succeeded ∉ published said) (tx : TxHandle)
    (id : MessageId) :
    SucceedsAfterCommit i
      (said ++ [.marked i tx id, .committed i tx] ++ [.entered .succeeded]) := by
  have before' : SucceedsAfterCommit i (said ++ [.marked i tx id, .committed i tx]) :=
    (of_not_mem silent).append (.of_not_mem (by simp [Exchange.entered?]))
  intro before after split
  rcases List.eq_nil_or_concat after with rfl | ⟨after, e, rfl⟩
  · exact ⟨said, tx, id, (List.append_inj_left' split rfl).symm⟩
  · -- the last thing that was said is not the publication in question
    rw [List.concat_eq_append, ← List.cons_append, ← List.append_assoc] at split
    exact before' before after (List.append_inj_left' split rfl)

end SucceedsAfterCommit

theorem Block.succeedsAfterCommit {result : Result} (block : Block i said result) :
    SucceedsAfterCommit i said := by
  cases block with
  | idle => exact .of_not_mem (by simp [Exchange.entered?])
  | @succeeded tx m said attempted handlers =>
      have silent : WorkerState.succeeded ∉
          MaintenanceOutbox.published (said ++ [.granted i tx .releaseSavepoint ()]) := by
        rw [published_append, attempted.published]
        simp [Exchange.entered?]
      have committed := SucceedsAfterCommit.commit (i := i) silent tx m.id
      rwa [List.append_assoc, List.append_assoc] at committed
  | failed attempted | givenBack attempted =>
      refine .of_not_mem ?_
      rw [published_append, attempted.published]
      simp [Exchange.entered?]

theorem Blocks.succeedsAfterCommit {blocks : List (Dialogue ω × Result)}
    (all : w.Blocks said blocks) : SucceedsAfterCommit w.store said := by
  induction all with
  | nil => exact .of_not_mem List.not_mem_nil
  | look _ stop ih => exact ih.append (.of_not_mem (by simp [Exchange.entered?]))
  | block _ publishes ih => exact ih.append publishes.block.succeedsAfterCommit

/-- **What a running worker has published**, when it has said `said` since it was started and `rest`
is left of its turn. -/
structure PublishesBlocks (w : Worker κ ω) (s : System)
    (rest : OutboxProgram ω (LoopPoint × WorkerStats)) (said : Dialogue ω) : Prop where
  /-- at any time: blocks of deliveries, and then the beginning of one more, or the end -/
  blocks : ∃ past now blocks, said = past ++ now ∧ w.Blocks past blocks ∧
    (now = [.entered .stopped] ∨ ∃ more result, Block w.store (now ++ more) result)
  /-- between two turns: blocks of deliveries -/
  between : ∀ point stats, rest = .done (point, stats) → point ≠ .ended →
    ∃ blocks, w.Blocks said blocks ∧ (∀ b ∈ blocks, w.PublishesBlock b.1 b.2) ∧
      published said = blocks.flatMap (published ·.1)
  /-- out of the loop: blocks of deliveries, and that the worker stopped -/
  ended : ∀ stats, rest = .done (.ended, stats) → ∃ past blocks,
    said = past ++ [.entered .stopped] ∧ w.Blocks past blocks ∧
      (∀ b ∈ blocks, w.PublishesBlock b.1 b.2) ∧
      published said = blocks.flatMap (published ·.1) ++ [.stopped]
  /-- at any time: success is published right after the commit of the mark -/
  succeeded : SucceedsAfterCommit w.store said
  /-- a block breaks off with a call of a handler only -/
  broken : ∀ op next host, rest = .call op next → s = host.system →
    (Host.answer op host).1 = none → ∃ past now blocks tx m, said = past ++ now ∧
      w.Blocks past blocks ∧ Attempted w.store tx m now ∧ published now = [.claiming, .dispatching]

/-- **Wherever a worker stands**, it has published its states in blocks. -/
theorem Standing.publishesBlocks (orderly : s.Orderly) (hi : w.store.index < s.stores.length)
    (tidy : (s.store w.store).Tidy) (standing : w.Standing s rest said) :
    w.PublishesBlocks s rest said := by
  -- only counts break off, and there is none between two deliveries
  have noCount : ∀ {op : OutboxOp ω} {host : Host ω}, (Host.answer op host).1 = none →
      op ≠ .stopRequested ∧ ∀ state, op ≠ .enter state := by
    intro op host broken
    obtain ⟨tx, i, id, error, rfl⟩ := Host.counts_of_broken broken
    exact ⟨nofun, fun state => nofun⟩
  cases standing with
  | between left all =>
      refine ⟨⟨said, [], _, (List.append_nil _).symm, all, Or.inr ⟨_, _, .idle ⟨0⟩⟩⟩, ?_, ?_,
        all.succeedsAfterCommit, ?_⟩
      · intro _ _ _ _
        exact ⟨_, all, all.publishes, all.published⟩
      · rintro stats rfl
        cases left with
        | done _ inside => exact absurd rfl inside
      · rintro op next host rfl - broken
        cases left with
        | looks each => exact ((noCount broken).1 rfl).elim
        | leaves | delivers => exact ((noCount broken).2 _ rfl).elim
  | @stopped past blocks stats all =>
      refine ⟨⟨past, _, blocks, rfl, all, Or.inl rfl⟩, ?_, ?_,
        all.succeedsAfterCommit.append (.of_not_mem (by simp [Exchange.entered?])), ?_⟩
      · rintro point stats' ⟨⟩ inside
        exact absurd rfl inside
      · intro _ _
        refine ⟨past, blocks, rfl, all, all.publishes, ?_⟩
        rw [published_append, all.published]
        rfl
      · rintro op next host ⟨⟩
  | @delivering point node goOn past now blocks after all here atNode speaks =>
      obtain ⟨more, result, block⟩ := here.told.begins
      refine ⟨⟨past, now, blocks, rfl, all, Or.inr ⟨more, result, block⟩⟩, ?_, ?_,
        all.succeedsAfterCommit.append block.succeedsAfterCommit.of_append, ?_⟩
      · rintro _ _ ⟨⟩
      · rintro _ ⟨⟩
      · rintro op next host ⟨⟩ rfl broken
        obtain ⟨tx, m, attempted⟩ := here.attempted_of_broken rfl orderly hi tidy atNode broken
        exact ⟨past, now, blocks, tx, m, rfl, all, attempted, attempted.published⟩

/-- **A worker publishes its states in blocks**, in every run in which its handlers leave the
savepoint alone and others respect what it has locked. -/
theorem publishes_blocks (hi : w.store.index < n)
    (leaves : w.registry.DeferredUse TxOp.LeavesSavepoint) (run : w.Undisturbed n s rest said) :
    w.PublishesBlocks s rest said := by
  obtain ⟨orderly, hi'⟩ := run.running.orderly hi
  obtain ⟨calls, same⟩ := run.running.exists_run
  exact (run.standing hi leaves).publishesBlocks orderly hi' (same ▸ System.tidy_run hi calls)

/-! ## Runs in which no name is added twice -/

/-- **A run with a record** of all calls that were made on the system, by the worker and by
others. -/
inductive Recorded (w : Worker κ ω) (n : Nat) :
    List Call → OutboxProgram ω (LoopPoint × WorkerStats) → Dialogue ω → Prop where
  | start (stats : WorkerStats) : Recorded w n [] (.done (.ready, stats)) []
  | turn {calls : List Call} {stats : WorkerStats} {said : Dialogue ω}
      (before : Recorded w n calls (.done (.ready, stats)) said) :
      Recorded w n calls (w.turn stats) said
  | wake {calls : List Call} {stats : WorkerStats} {said : Dialogue ω}
      (before : Recorded w n calls (.done (.asleep, stats)) said) (why : Wake) :
      Recorded w n calls ((fun point => (point, stats)) <$> Worker.wake why) said
  | call {calls : List Call} {op : OutboxOp ω}
      {next : op.Reply → OutboxProgram ω (LoopPoint × WorkerStats)} {said : Dialogue ω}
      {host : Host ω} {reply : op.Reply} (before : Recorded w n calls (.call op next) said)
      (system : host.system = (System.ofSize n).run calls)
      (answered : (Host.answer op host).1 = some reply) :
      Recorded w n (calls ++ op.calls host.clock) (next reply) (said ++ [⟨op, reply⟩])
  | others {calls : List Call} {rest : OutboxProgram ω (LoopPoint × WorkerStats)}
      {said : Dialogue ω} (before : Recorded w n calls rest said) (c : Call)
      (away : ∀ h ∈ begunIn said, ¬ c.On h) : Recorded w n (calls ++ [c]) rest said

/-- Every run has a record. -/
theorem Running.recorded (running : w.Running n s rest said) :
    ∃ calls, s = (System.ofSize n).run calls ∧ w.Recorded n calls rest said := by
  induction running with
  | start stats => exact ⟨[], rfl, .start stats⟩
  | turn _ ih =>
      obtain ⟨calls, same, recorded⟩ := ih
      exact ⟨calls, same, .turn recorded⟩
  | wake _ why ih =>
      obtain ⟨calls, same, recorded⟩ := ih
      exact ⟨calls, same, .wake recorded why⟩
  | call _ answered ih =>
      obtain ⟨calls, same, recorded⟩ := ih
      refine ⟨_, ?_, .call recorded same answered⟩
      rw [Host.system_answer answered, same, System.run_append]
  | others _ c away ih =>
      obtain ⟨calls, rfl, recorded⟩ := ih
      exact ⟨calls ++ [c], (System.run_concat _ _ _).symm, .others recorded c away⟩

/-- **If no name is added twice, nobody disturbs the worker.** -/
theorem Recorded.undisturbed (hi : w.store.index < n) {calls : List Call}
    (recorded : w.Recorded n calls rest said) (once : Call.AddsOnce w.store calls) :
    w.Undisturbed n ((System.ofSize n).run calls) rest said := by
  induction recorded with
  | start stats => exact .start stats
  | turn _ ih => exact .turn (ih once)
  | wake _ why ih => exact .wake (ih once) why
  | @call calls op next said host reply _ system answered ih =>
      have before := ih once.of_append
      rw [← system] at before
      have after := before.call answered
      rw [Host.system_answer answered, system, ← System.run_append] at after
      exact after
  | others _ c away ih =>
      rw [System.run_concat]
      exact .others (ih once.of_append) c (System.respects_of_addsOnce hi once away)

/-- **A worker publishes its states in blocks** in every run in which no name is added twice,
whatever others do besides. -/
theorem publishes_blocks_of_addsOnce (hi : w.store.index < n)
    (leaves : w.registry.DeferredUse TxOp.LeavesSavepoint) {calls : List Call}
    (recorded : w.Recorded n calls rest said) (once : Call.AddsOnce w.store calls) :
    w.PublishesBlocks ((System.ofSize n).run calls) rest said :=
  ((recorded.undisturbed hi once).standing hi leaves).publishesBlocks
    (System.orderly_run (System.orderly_ofSize n) calls) (System.index_lt_run hi calls)
    (System.tidy_run hi calls)

/-! ## A worker that publishes -/

/-- A program that is left of a turn may be run on a host, if it comes to a result there. -/
theorem Undisturbed.dialogue {p : OutboxProgram ω (LoopPoint × WorkerStats)} {h h' : Host ω}
    {result : LoopPoint × WorkerStats} (run : w.Undisturbed n h.system p said)
    (ran : Host.run p h = (some result, h')) :
    w.Undisturbed n h'.system (.done result) (said ++ p.dialogue Host.answer h) := by
  induction p generalizing h said with
  | done a =>
      cases ran
      exact (List.append_nil said).symm ▸ run
  | call op next ih =>
      rcases answered : (Host.answer op h : Option op.Reply × Host ω) with ⟨_ | reply, h₁⟩
      · rw [show Host.run (.call op next) h = _ from Program.runFrom_call_none answered] at ran
        cases ran
      · rw [show Host.run (.call op next) h = _ from Program.runFrom_call answered] at ran
        have step := Undisturbed.call run (congrArg Prod.fst answered)
        rw [answered] at step
        have more := ih reply step ran
        rw [← List.append_cons] at more
        rw [show Program.dialogue Host.answer (.call op next) h = _ from
          Program.dialogue_call answered]
        exact more

/-- A worker that falls asleep may be woken up by the stop signal. -/
theorem Undisturbed.signalled {h : Host ω} (run : w.Undisturbed n h.system (w.turn {}) [])
    {stats : WorkerStats} (sleeps : (w.firstTurn h).1 = some (.asleep, stats))
    {result : LoopPoint × WorkerStats} (ends : (w.secondTurn stats h []).1 = some result) :
    w.Undisturbed n (w.secondTurn stats h []).2.system (.done result) (w.spoken stats h []) := by
  have first := run.dialogue (Prod.ext sleeps rfl)
  rw [List.nil_append] at first
  exact (Undisturbed.turn (first.wake .signalled)).dialogue (h := w.signalledHost h [])
    (Prod.ext ends rfl)

end Worker

namespace Door

/-- The porter is started when a door was opened and closed, is woken up by the stop signal after
its first turn, and leaves the loop. Nobody else is at work meanwhile. -/
theorem undisturbed : porter.Undisturbed 1 (porter.secondTurn troubled (host given) []).2.system
    (.done (.ended, troubled)) (porter.spoken troubled (host given) []) := by
  have early : ∀ calls : List Call,
      porter.Undisturbed 1 ((System.ofSize 1).run calls) (.done (.ready, {})) [] := by
    intro calls
    induction calls using List.reverseRecOn with
    | nil => exact .start {}
    | append_singleton calls c ih =>
        rw [System.run_concat]
        exact .others ih c fun _ mem => absurd mem List.not_mem_nil
  exact (Worker.Undisturbed.turn (early given)).signalled (h := host given) (by decide +kernel)
    (by decide +kernel)

theorem porter_leavesSavepoint : porter.registry.DeferredUse TxOp.LeavesSavepoint := by
  intro route hr h hh body
  have same : h = reporting := by
    rcases List.mem_pair.mp hr with rfl | rfl <;> exact List.mem_singleton.mp hh
  subst same
  cases (body : Bool) <;> trivial

end Door

/-- The porter delivers one message, gives the other one back as it loses connectivity, and
stops. -/
theorem Worker.publishes_blocks_porter :
    let said := Door.porter.spoken Door.troubled (Door.host Door.given) []
    published said = [.claiming, .dispatching, .succeeded, .claiming, .dispatching, .failed,
        .stopped] ∧
      Door.porter.PublishesBlocks
        (Door.porter.secondTurn Door.troubled (Door.host Door.given) []).2.system
        (.done (.ended, Door.troubled)) said :=
  ⟨by decide +kernel, Worker.publishes_blocks (by decide) Door.porter_leavesSavepoint
    Door.undisturbed⟩

end MaintenanceOutbox
