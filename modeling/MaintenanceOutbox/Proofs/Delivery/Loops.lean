import MaintenanceOutbox.Proofs.Delivery.States
import MaintenanceOutbox.Proofs.Delivery.Stopping

set_option autoImplicit false

/-! # Run loops side by side

A run loop that goes on by itself (`RunLoop`) is a worker with a stop signal of its own, what is
left of the turn that it is at, and what the worker said so far. `RunLoop.step` is the next thing it
does: a call, or to begin a turn, or to wake up. With a call that breaks off the loop is over, and
what it had counted before that turn is left as its statistics.

Several loops go on side by side on one store, in any order, call by call. Each of them is a run of
its worker in which all the other ones count among the others (`SideBySide`), since a loop makes
calls on transactions of its own only, and no two loops share one. So what is known of a worker
whose loop has ended holds with any number of loops beside it (`SideBySide.hasStopped`).

A loop whose stop signal is given is over at some time. There is no number to count that down,
because what is left of a turn is a tree with a branch for every answer; the order on what can still
come is well-founded nevertheless (`RunLoop.acc_advances`).
-/

namespace MaintenanceOutbox

variable {κ ω : Type} [EventFamily κ]

open Worker (LoopPoint)

/-- The run loop of a worker. -/
structure RunLoop (κ ω : Type) [EventFamily κ] where
  worker : Worker κ ω
  /-- what is left of the turn that the loop is at, unless it broke off -/
  rest : Option (OutboxProgram ω (LoopPoint × WorkerStats)) := some (.done (.ready, {}))
  /-- is the stop signal given? -/
  stop : Bool := false
  /-- what the worker had counted at the beginning of this turn -/
  counted : WorkerStats := {}
  /-- what the worker said so far -/
  said : Dialogue ω := []

namespace RunLoop

/-- The loop after a call, if the reply is `reply?`. -/
def afterCall (l : RunLoop κ ω) (op : OutboxOp ω)
    (next : op.Reply → OutboxProgram ω (LoopPoint × WorkerStats)) (reply? : Option op.Reply) :
    RunLoop κ ω :=
  { l with
    rest := reply?.map next
    said := l.said ++ (reply?.map fun reply => ⟨op, reply⟩).toList }

/-- **The next thing that a loop does** on a host: the loop afterwards, and the system. -/
def step (l : RunLoop κ ω) (h : Host ω) : RunLoop κ ω × System :=
  match l.rest with
  | none => (l, h.system)
  | some (.done (.ready, stats)) =>
    ({ l with rest := some (l.worker.turn stats), counted := stats }, h.system)
  | some (.done (.asleep, stats)) =>
    let why := if l.stop then .signalled else .elapsed
    ({ l with rest := some ((fun point => (point, stats)) <$> Worker.wake why) }, h.system)
  | some (.done (.ended, _)) => (l, h.system)
  | some (.call op next) =>
    let answered : Option op.Reply × Host ω := Host.answer op { h with stop := l.stop }
    (l.afterCall op next answered.1, answered.2.system)

/-- The state that the worker published last. -/
def state (l : RunLoop κ ω) : WorkerState :=
  (published l.said).getLast?.getD .idle

/-- The statistics of the worker, if its loop is over. -/
def finalStats? (l : RunLoop κ ω) : Option WorkerStats :=
  match l.rest with
  | some (.done (.ended, stats)) => some stats
  | none => some l.counted
  | _ => none

/-- **The worker has stopped**, with these statistics: it said so unless it broke off, none of its
transactions is open, and every row that is locked is locked by somebody else. -/
structure HasStopped (s : System) (l : RunLoop κ ω) (stats : WorkerStats) : Prop where
  ended : l.finalStats? = some stats
  state : l.rest.isSome = true → l.state = .stopped
  closed : ∀ h ∈ begunIn l.said, s.open? h = none
  locks : ∀ id ∈ (s.store l.worker.store).locked,
    ∃ t ∈ s.openOn l.worker.store, t.handle ∉ begunIn l.said ∧ id ∈ t.tx.locks

variable {l l' : RunLoop κ ω} {stats : WorkerStats} {h : Host ω}

theorem finalStats?_eq_some_iff : l.finalStats? = some stats ↔
    l.rest = some (.done (.ended, stats)) ∨ l.rest = none ∧ l.counted = stats := by
  rw [finalStats?]
  split
  · next here => simp [here]
  · next here => simp [here]
  · next other none' =>
      refine iff_of_false (Option.some_ne_none stats).symm ?_
      rintro (ended | ⟨broken, -⟩)
      · exact other stats ended
      · exact none' broken

@[simp] theorem worker_step (l : RunLoop κ ω) (h : Host ω) : (l.step h).1.worker = l.worker := by
  rw [step]
  split <;> rfl

@[simp] theorem stop_step (l : RunLoop κ ω) (h : Host ω) : (l.step h).1.stop = l.stop := by
  rw [step]
  split <;> rfl

/-- A loop that is over does nothing. -/
theorem step_of_ended (ended : l.finalStats? = some stats) : l.step h = (l, h.system) := by
  rcases finalStats?_eq_some_iff.mp ended with here | ⟨here, -⟩
  · rw [step, here]
  · rw [step, here]

/-- What has ended stays so. -/
theorem ended_step (ended : l.finalStats?.isSome = true) (h : Host ω) :
    (l.step h).1.finalStats?.isSome = true := by
  obtain ⟨stats, ended'⟩ := Option.isSome_iff_exists.mp ended
  rw [step_of_ended ended']
  exact ended

/-! ## A loop goes on -/

variable {n : Nat}

/-- Unless it breaks off, the loop goes on as a run of its worker. -/
theorem running_step (running : ∀ rest ∈ l.rest, l.worker.Running n h.system rest l.said) :
    ∀ rest ∈ (l.step h).1.rest,
      (l.step h).1.worker.Running n (l.step h).2 rest (l.step h).1.said := by
  obtain ⟨worker, _ | rest, stop, counted, said⟩ := l
  · exact fun _ mem => absurd mem (Option.not_mem_none _)
  have before := running rest rfl
  match rest, before with
  | .done (.ready, stats), before =>
      rintro _ ⟨⟩
      exact .turn before
  | .done (.asleep, stats), before =>
      rintro _ ⟨⟩
      exact .wake before _
  | .done (.ended, stats), before =>
      rintro _ ⟨⟩
      exact before
  | .call op next, before =>
      intro rest mem
      obtain ⟨reply, answered, rfl⟩ := Option.map_eq_some_iff.mp mem
      let h' := { h with stop := stop }
      have before' : worker.Running n h'.system (.call op next) said := before
      have after := before'.call answered
      simp only [step, afterCall, answered]
      exact after

/-- The calls that the loop makes next. -/
def calls (l : RunLoop κ ω) (h : Host ω) : List Call :=
  match l.rest with
  | some (.call op _) =>
    match (Host.answer op { h with stop := l.stop }).1 with
    | some _ => op.calls h.clock
    | none => op.calls h.clock ++ op.dropCalls
  | _ => []

theorem system_step (l : RunLoop κ ω) (h : Host ω) :
    (l.step h).2 = h.system.run (l.calls h) := by
  obtain ⟨worker, _ | rest, stop, counted, said⟩ := l
  · rfl
  match rest with
  | .done (.ready, _) | .done (.asleep, _) | .done (.ended, _) => rfl
  | .call op next =>
      simp only [step, calls]
      split
      · next answered => exact Host.system_answer answered
      · next broken => exact Host.system_answer_none broken

/-- The loops with the stop signals of some of them given. -/
def signalled (tasks : List Nat) (loops : List (RunLoop κ ω)) : List (RunLoop κ ω) :=
  loops.mapIdx fun task l => if task ∈ tasks then { l with stop := true } else l

theorem getElem?_signalled (tasks : List Nat) (loops : List (RunLoop κ ω)) (task : Nat) :
    (signalled tasks loops)[task]? =
      loops[task]?.map fun l => if task ∈ tasks then { l with stop := true } else l :=
  List.getElem?_mapIdx

end RunLoop

/-- **A worker makes calls on the transaction at hand** and on no other one. -/
theorem Custody.Goes.tx?_of_on {i : StoreId} {v v' : Custody} {op : OutboxOp ω} {reply : op.Reply}
    {now : Timestamp} {k : TxHandle} (goes : Custody.Goes i v ⟨op, reply⟩ v') {c : Call}
    (mem : c ∈ op.calls now ++ op.dropCalls) (on : c.On k) : v.tx? = some k := by
  cases goes with
  | warned | admitted | published | enters | tells => cases mem
  | begins | refused =>
      rw [List.mem_singleton.mp mem] at on
      exact on.elim
  | commits | rollsBack =>
      rw [List.mem_singleton.mp mem] at on
      exact congrArg some on
  | claims | misses | marks | counts =>
      rcases List.mem_pair.mp mem with rfl | rfl
      · exact congrArg some on
      · exact congrArg some on
  | inside _ _ _ op =>
      cases op with
      | request =>
          rcases List.mem_pair.mp mem with rfl | rfl
          · exact congrArg some on
          · exact congrArg some on
      | now | freshId | tell =>
          rw [List.mem_singleton.mp mem] at on
          exact congrArg some on

/-- A transaction that is begun on a host gets the next handle. -/
theorem Exchange.eq_of_begun? {op : OutboxOp ω} {h : Host ω} {reply : op.Reply} {k : TxHandle}
    (answered : (Host.answer op h).1 = some reply)
    (begun : Exchange.begun? (⟨op, reply⟩ : Exchange (OutboxInterface ω)) = some k) :
    k = ⟨h.system.begun⟩ := by
  cases op with
  | beginTx =>
      cases answered
      exact (Option.some.inj begun).symm
  | commit | rollback | inside | enter | stopRequested => cases begun

namespace RunLoop

variable {l : RunLoop κ ω} {h : Host ω} {n : Nat} {k : TxHandle}

/-- The calls of a loop are on transactions of its own. -/
theorem mem_begunIn_of_calls (hi : l.worker.store.index < n)
    (running : ∀ rest ∈ l.rest, l.worker.Running n h.system rest l.said) {c : Call}
    (mem : c ∈ l.calls h) (on : c.On k) : k ∈ begunIn l.said := by
  obtain ⟨worker, _ | rest, stop, counted, said⟩ := l
  · cases mem
  obtain ⟨v, attends, follows⟩ := (running rest rfl).attends hi
  match rest, follows, mem with
  | .call op next, follows, mem =>
      -- after a call that breaks off, any reply would have kept the protocol
      have taken : (∃ _ : op.Reply, True) ∧ c ∈ op.calls h.clock ++ op.dropCalls := by
        simp only [calls] at mem
        split at mem
        · next reply _ => exact ⟨⟨reply, trivial⟩, List.mem_append_left _ mem⟩
        · next broken =>
            obtain ⟨tx, i, id, error, rfl⟩ := Host.counts_of_broken broken
            exact ⟨⟨(.error default : Except StoreError RetryOutcome), trivial⟩, mem⟩
      obtain ⟨⟨reply, -⟩, mem⟩ := taken
      obtain ⟨v', goes, -⟩ := follows reply
      exact attends.holds.mem k (goes.tx?_of_on mem on)

/-- A transaction of a loop was its own before, or has just been begun. -/
theorem of_mem_begunIn_step (mem : k ∈ begunIn (l.step h).1.said) :
    k ∈ begunIn l.said ∨ k = ⟨h.system.begun⟩ := by
  obtain ⟨worker, _ | rest, stop, counted, said⟩ := l
  · exact Or.inl mem
  match rest, mem with
  | .done (.ready, _), mem | .done (.asleep, _), mem | .done (.ended, _), mem => exact Or.inl mem
  | .call op next, mem =>
      rcases answered : (Host.answer op { h with stop := stop }).1 with _ | reply
      · simp only [step, afterCall, answered, Option.map_none, Option.toList_none,
          List.append_nil] at mem
        exact Or.inl mem
      · simp only [step, afterCall, answered, Option.map_some, Option.toList_some,
          begunIn_concat] at mem
        refine (List.mem_append.mp mem).imp_right fun new => ?_
        exact Exchange.eq_of_begun? (h := { h with stop := stop }) answered
          (Option.mem_toList.mp new)

/-- A loop that breaks off says nothing. -/
theorem said_step_of_broken (broken : (l.step h).1.rest = none) : (l.step h).1.said = l.said := by
  obtain ⟨worker, _ | rest, stop, counted, said⟩ := l
  · rfl
  match rest, broken with
  | .call op next, broken =>
      have none' := Option.map_eq_none_iff.mp broken
      simp only [step, afterCall, none', Option.map_none, Option.toList_none, List.append_nil]

/-- **A loop that breaks off** leaves no transaction of its own open. -/
theorem closed_step_of_broken (hi : l.worker.store.index < n)
    (running : ∀ rest ∈ l.rest, l.worker.Running n h.system rest l.said)
    (left : l.rest = none → ∀ k ∈ begunIn l.said, h.system.open? k = none)
    (broken : (l.step h).1.rest = none) :
    ∀ k ∈ begunIn (l.step h).1.said, (l.step h).2.open? k = none := by
  rw [said_step_of_broken broken]
  obtain ⟨worker, _ | rest, stop, counted, said⟩ := l
  · exact left rfl
  match rest, running rest rfl, broken with
  | .call op next, running, broken =>
      exact Worker.Running.closed_of_broken hi { h with stop := stop } running
        (Option.map_eq_none_iff.mp broken)

/-- Of the loops with a new one behind them, each is an old one or the new one. -/
theorem of_getElem?_concat {loops : List (RunLoop κ ω)} {new : RunLoop κ ω} {task : Nat}
    (found : (loops ++ [new])[task]? = some l) :
    loops[task]? = some l ∨ task = loops.length ∧ l = new := by
  rw [List.getElem?_append] at found
  split at found
  · exact Or.inl found
  · rw [List.getElem?_singleton] at found
    split at found
    · exact Or.inr ⟨by omega, (Option.some.inj found).symm⟩
    · cases found

/-- Of the loops with one that went on, each is as it was, or that one. -/
theorem of_getElem?_set {loops : List (RunLoop κ ω)} {next l' : RunLoop κ ω} {task j : Nat}
    (here : loops[task]? = some l) (found : (loops.set task next)[j]? = some l') :
    j = task ∧ l' = next ∨ j ≠ task ∧ loops[j]? = some l' := by
  by_cases same : j = task
  · subst same
    rw [List.getElem?_set_self (List.getElem?_eq_some_iff.mp here).1] at found
    exact Or.inl ⟨rfl, (Option.some.inj found).symm⟩
  · rw [List.getElem?_set_ne (Ne.symm same)] at found
    exact Or.inr ⟨same, found⟩

end RunLoop

/-! ## Several loops -/

/-- **Loops that go on side by side** on store `i` of `n`: calls led to the system, each loop is a
run of its worker, or it broke off and left no transaction open, and no two of them have a
transaction in common. -/
structure SideBySide (n : Nat) (i : StoreId) (s : System) (loops : List (RunLoop κ ω)) : Prop where
  reached : ∃ calls, s = (System.ofSize n).run calls
  home : ∀ l ∈ loops, l.worker.store = i
  runs : ∀ l ∈ loops, ∀ rest ∈ l.rest, l.worker.Running n s rest l.said
  left : ∀ l ∈ loops, l.rest = none → ∀ h ∈ begunIn l.said, s.open? h = none
  old : ∀ l ∈ loops, ∀ h ∈ begunIn l.said, h.number < s.begun
  apart : ∀ (j k : Nat) l l', loops[j]? = some l → loops[k]? = some l' → j ≠ k →
    List.Disjoint (begunIn l.said) (begunIn l'.said)

namespace SideBySide

variable {n : Nat} {i : StoreId} {s : System} {loops : List (RunLoop κ ω)} {l : RunLoop κ ω}

theorem nothing (n : Nat) (i : StoreId) :
    SideBySide n i (.ofSize n) ([] : List (RunLoop κ ω)) :=
  ⟨⟨[], rfl⟩, fun _ mem => absurd mem List.not_mem_nil, fun _ mem => absurd mem List.not_mem_nil,
    fun _ mem => absurd mem List.not_mem_nil, fun _ mem => absurd mem List.not_mem_nil, nofun⟩

/-- The system is one that calls led to. -/
theorem orderly (side : SideBySide n i s loops) (hi : i.index < n) :
    s.Orderly ∧ i.index < s.stores.length := by
  obtain ⟨calls, rfl⟩ := side.reached
  exact ⟨System.orderly_run (System.orderly_ofSize n) calls, System.index_lt_run hi calls⟩

/-- What has ended before calls is so after them. -/
theorem left_run (side : SideBySide n i s loops) (hi : i.index < n) (calls : List Call)
    (mem : l ∈ loops) (broken : l.rest = none) :
    ∀ h ∈ begunIn l.said, (s.run calls).open? h = none := by
  obtain ⟨orderly, hi'⟩ := side.orderly hi
  exact fun h begun => System.open?_run_of_closed orderly hi' (side.left l mem broken h begun)
    (side.old l mem h begun) calls

/-- What was begun before calls is so after them. -/
theorem old_run (side : SideBySide n i s loops) (hi : i.index < n) (calls : List Call)
    (mem : l ∈ loops) : ∀ h ∈ begunIn l.said, h.number < (s.run calls).begun := by
  obtain ⟨orderly, hi'⟩ := side.orderly hi
  exact fun h begun =>
    Nat.lt_of_lt_of_le (side.old l mem h begun) (System.begun_le_run orderly hi' calls)

/-- **One of the loops goes on.** Its calls are on transactions of its own, and a transaction that
it begins is nobody's yet. -/
theorem work {h : Host ω} {task : Nat} (side : SideBySide n i h.system loops) (hi : i.index < n)
    (here : loops[task]? = some l) :
    SideBySide n i (l.step h).2 (loops.set task (l.step h).1) := by
  have mem := List.mem_of_getElem? here
  have running := side.runs l mem
  have home := side.home l mem
  -- what the loop has afterwards, no other loop has
  have alone : ∀ j l', j ≠ task → loops[j]? = some l' →
      List.Disjoint (begunIn (l.step h).1.said) (begunIn l'.said) := by
    intro j l' other found k mine theirs
    rcases RunLoop.of_mem_begunIn_step mine with old | rfl
    · exact side.apart task j l l' here found other.symm old theirs
    · exact Nat.lt_irrefl _ (side.old l' (List.mem_of_getElem? found) _ theirs)
  refine ⟨?_, ?_, ?_, ?_, ?_, ?_⟩
  · obtain ⟨calls, reached⟩ := side.reached
    refine ⟨calls ++ l.calls h, ?_⟩
    rw [RunLoop.system_step, reached, System.run_append]
  · intro l' mem'
    obtain ⟨j, found⟩ := List.mem_iff_getElem?.mp mem'
    rcases RunLoop.of_getElem?_set here found with ⟨-, rfl⟩ | ⟨-, before⟩
    · rw [RunLoop.worker_step, home]
    · exact side.home l' (List.mem_of_getElem? before)
  · intro l' mem' rest left
    obtain ⟨j, found⟩ := List.mem_iff_getElem?.mp mem'
    rcases RunLoop.of_getElem?_set here found with ⟨-, rfl⟩ | ⟨other, before⟩
    · exact RunLoop.running_step running rest left
    · rw [RunLoop.system_step]
      refine (side.runs l' (List.mem_of_getElem? before) rest left).others_run ?_
      intro c hc k theirs on
      have mine := RunLoop.mem_begunIn_of_calls (home.symm ▸ hi) running hc on
      exact side.apart task j l l' here before other.symm mine theirs
  · intro l' mem' broken
    obtain ⟨j, found⟩ := List.mem_iff_getElem?.mp mem'
    rcases RunLoop.of_getElem?_set here found with ⟨-, rfl⟩ | ⟨-, before⟩
    · exact RunLoop.closed_step_of_broken (home.symm ▸ hi) running (side.left l mem) broken
    · rw [RunLoop.system_step]
      exact side.left_run hi _ (List.mem_of_getElem? before) broken
  · intro l' mem'
    obtain ⟨j, found⟩ := List.mem_iff_getElem?.mp mem'
    rcases RunLoop.of_getElem?_set here found with ⟨-, rfl⟩ | ⟨-, before⟩
    · cases left : (l.step h).1.rest with
      | none =>
          rw [RunLoop.said_step_of_broken left, RunLoop.system_step]
          exact side.old_run hi _ mem
      | some rest =>
          have going := RunLoop.running_step running rest left
          rw [RunLoop.worker_step] at going
          obtain ⟨v, attends, -⟩ := going.attends (home.symm ▸ hi)
          exact attends.holds.old
    · rw [RunLoop.system_step]
      exact side.old_run hi _ (List.mem_of_getElem? before)
  · intro j k l₁ l₂ found₁ found₂ ne
    rcases RunLoop.of_getElem?_set here found₁ with ⟨rfl, rfl⟩ | ⟨other₁, before₁⟩
    · rcases RunLoop.of_getElem?_set here found₂ with ⟨rfl, -⟩ | ⟨other₂, before₂⟩
      · exact absurd rfl ne
      · exact alone k l₂ other₂ before₂
    · rcases RunLoop.of_getElem?_set here found₂ with ⟨rfl, rfl⟩ | ⟨-, before₂⟩
      · exact fun k theirs mine => alone j l₁ other₁ before₁ mine theirs
      · exact side.apart j k l₁ l₂ before₁ before₂ ne

/-- **Others make a call** that is on no transaction of a loop. -/
theorem others (side : SideBySide n i s loops) (hi : i.index < n) (c : Call)
    (away : ∀ l ∈ loops, ∀ h ∈ begunIn l.said, ¬ c.On h) : SideBySide n i (s.step c) loops := by
  refine ⟨?_, side.home, fun l mem rest left => (side.runs l mem rest left).others c (away l mem),
    fun l mem => side.left_run hi [c] mem, fun l mem => side.old_run hi [c] mem, side.apart⟩
  obtain ⟨calls, rfl⟩ := side.reached
  exact ⟨calls ++ [c], (System.run_concat _ _ _).symm⟩

/-- **A loop is spawned.** -/
theorem spawn (side : SideBySide n i s loops) {w : Worker κ ω} (home : w.store = i) :
    SideBySide n i s (loops ++ [{ worker := w }]) := by
  refine ⟨side.reached, ?_, ?_, ?_, ?_, ?_⟩
  · intro l mem
    rcases List.mem_append.mp mem with old | new
    · exact side.home l old
    · rw [List.mem_singleton.mp new]
      exact home
  · intro l mem
    rcases List.mem_append.mp mem with old | new
    · exact side.runs l old
    · obtain ⟨calls, rfl⟩ := side.reached
      rw [List.mem_singleton.mp new]
      rintro _ ⟨⟩
      exact (Worker.Running.start {}).others_run fun _ _ _ mem => absurd mem List.not_mem_nil
  · intro l mem
    rcases List.mem_append.mp mem with old | new
    · exact side.left l old
    · rw [List.mem_singleton.mp new]
      exact fun _ _ mem => absurd mem List.not_mem_nil
  · intro l mem
    rcases List.mem_append.mp mem with old | new
    · exact side.old l old
    · rw [List.mem_singleton.mp new]
      exact fun _ mem => absurd mem List.not_mem_nil
  · intro j k l l' found found' ne
    rcases RunLoop.of_getElem?_concat found with old | ⟨rfl, rfl⟩
    · rcases RunLoop.of_getElem?_concat found' with old' | ⟨rfl, rfl⟩
      · exact side.apart j k l l' old old' ne
      · exact List.disjoint_nil_right _
    · exact List.disjoint_nil_left _

/-- **Stop signals are given.** -/
theorem signalled (side : SideBySide n i s loops) (tasks : List Nat) :
    SideBySide n i s (RunLoop.signalled tasks loops) := by
  have inside : ∀ (j : Nat) (l' : RunLoop κ ω), (RunLoop.signalled tasks loops)[j]? = some l' →
      ∃ l, loops[j]? = some l ∧ l'.worker = l.worker ∧ l'.rest = l.rest ∧ l'.said = l.said := by
    intro j l' found
    rw [RunLoop.getElem?_signalled, Option.map_eq_some_iff] at found
    obtain ⟨l, before, rfl⟩ := found
    refine ⟨l, before, ?_⟩
    split <;> exact ⟨rfl, rfl, rfl⟩
  refine ⟨side.reached, ?_, ?_, ?_, ?_, ?_⟩
  · intro l' mem
    obtain ⟨j, found⟩ := List.mem_iff_getElem?.mp mem
    obtain ⟨l, before, worker, -⟩ := inside j l' found
    exact (congrArg Worker.store worker).trans (side.home l (List.mem_of_getElem? before))
  · intro l' mem
    obtain ⟨j, found⟩ := List.mem_iff_getElem?.mp mem
    obtain ⟨l, before, worker, rest, said⟩ := inside j l' found
    rw [worker, rest, said]
    exact side.runs l (List.mem_of_getElem? before)
  · intro l' mem
    obtain ⟨j, found⟩ := List.mem_iff_getElem?.mp mem
    obtain ⟨l, before, -, rest, said⟩ := inside j l' found
    rw [rest, said]
    exact side.left l (List.mem_of_getElem? before)
  · intro l' mem
    obtain ⟨j, found⟩ := List.mem_iff_getElem?.mp mem
    obtain ⟨l, before, -, -, said⟩ := inside j l' found
    rw [said]
    exact side.old l (List.mem_of_getElem? before)
  · intro j k l₁ l₂ found₁ found₂ ne
    obtain ⟨l, before, -, -, said⟩ := inside j l₁ found₁
    obtain ⟨l', before', -, -, said'⟩ := inside k l₂ found₂
    rw [said, said']
    exact side.apart j k l l' before before' ne

/-- **A worker whose loop is over has stopped.** -/
theorem hasStopped (side : SideBySide n i s loops) (hi : i.index < n) (mem : l ∈ loops)
    {stats : WorkerStats} (ended : l.finalStats? = some stats) : l.HasStopped s stats := by
  have home : l.worker.store.index < n := (side.home l mem).symm ▸ hi
  obtain ⟨calls, reached⟩ := side.reached
  rcases RunLoop.finalStats?_eq_some_iff.mp ended with here | ⟨broken, -⟩
  · have running := side.runs l mem _ here
    obtain ⟨before, said⟩ := running.stopped
    have closed := running.closed home
    refine ⟨ended, fun _ => ?_, closed, Worker.unlocked_of_closed home reached closed⟩
    rw [RunLoop.state, said]
    simp [Exchange.entered?]
  · have closed := side.left l mem broken
    refine ⟨ended, fun some' => ?_, closed, Worker.unlocked_of_closed home reached closed⟩
    rw [broken] at some'
    cases some'

end SideBySide

/-! ## A loop whose stop signal is given -/

namespace RunLoop

/-- The first loop is what becomes of the second one, which is asked to stop and is not over yet,
when it goes on. -/
def Advances (l' l : RunLoop κ ω) : Prop :=
  l.stop = true ∧ l.finalStats? = none ∧ ∃ h, l' = (l.step h).1

theorem acc_of_ended {l : RunLoop κ ω} {stats : WorkerStats} (ended : l.finalStats? = some stats) :
    Acc Advances l :=
  .intro _ fun _ ⟨_, going, _⟩ => absurd (ended.symm.trans going) (Option.some_ne_none stats)

variable {w : Worker κ ω} {counted : WorkerStats} {said : Dialogue ω} {stats : WorkerStats}

/-- A worker that looks at its stop signal at the top of a turn leaves the loop. -/
theorem acc_turn :
    Acc Advances (⟨w, some (w.turn stats), true, counted, said⟩ : RunLoop κ ω) := by
  refine .intro _ ?_
  rintro _ ⟨-, -, h, rfl⟩
  refine .intro _ ?_
  rintro _ ⟨-, -, h', rfl⟩
  exact acc_of_ended rfl

theorem acc_ready :
    Acc Advances (⟨w, some (.done (.ready, stats)), true, counted, said⟩ : RunLoop κ ω) := by
  refine .intro _ ?_
  rintro _ ⟨-, -, h, rfl⟩
  exact acc_turn

theorem acc_asleep :
    Acc Advances (⟨w, some (.done (.asleep, stats)), true, counted, said⟩ : RunLoop κ ω) := by
  refine .intro _ ?_
  rintro _ ⟨-, -, h, rfl⟩
  exact acc_ready

/-- **A loop whose stop signal is given comes to its end,** whatever is answered. By induction on
what is left of its turn. -/
theorem acc_advances (l : RunLoop κ ω) (stop : l.stop = true) : Acc Advances l := by
  obtain ⟨w, _ | rest, _, counted, said⟩ := l
  · exact acc_of_ended rfl
  cases stop
  induction rest generalizing said with
  | done result =>
      obtain ⟨point, stats⟩ := result
      cases point with
      | ready => exact acc_ready
      | asleep => exact acc_asleep
      | ended => exact acc_of_ended rfl
  | call op next ih =>
      refine .intro _ ?_
      rintro _ ⟨-, -, h, rfl⟩
      rcases answered : (Host.answer op { h with stop := true }).1 with _ | reply
      · simp only [step, afterCall, answered]
        exact acc_of_ended rfl
      · simp only [step, afterCall, answered]
        exact ih reply _

end RunLoop

end MaintenanceOutbox
