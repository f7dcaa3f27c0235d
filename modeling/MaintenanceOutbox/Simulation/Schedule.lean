import MaintenanceOutbox.Simulation.World

set_option autoImplicit false

/-! # Run loops side by side

In a simulation the run loops of several workers go on side by side, on one thread. A loop that is
at work goes on until it falls asleep or ends. When no loop is ready to go on, time jumps forward to
the next moment at which one wakes up; loops that wake up at the same moment go on in the order in
which they fell asleep.

The simulation itself waits in between, for a moment in time or for loops to end; while it waits,
the loops go on. At the moment for which it waits the simulation goes first.

**One loop may be in the foreground.** The simulation goes through it itself, together with a plan
of what its stop signal is given and when. Both are part of the simulation's own turn: other loops
go on only while the loop in the foreground is asleep and the plan has nothing to give, and if both
end without having to wait, no other loop goes on at all.

A loop may go on forever. Waiting therefore has an amount of patience, counted in turns, in loops
and in jumps of time, that no sensible simulation uses up.
-/

namespace MaintenanceOutbox.World

/-- How many turns of one loop, how many loops, and how many jumps of time the simulation waits for
at most. -/
def patience : Nat := 1000000

/-- Begin a run loop of a worker, with a signal that holds `value`. Its place is the result. -/
def beginLoop (worker : Nat) (value : Bool) : SimM Nat := do
  let w ← get
  let task := w.tasks.length
  set { w with
    tasks := w.tasks ++ [({ worker := worker, signal := { value := value } } : Task)]
    queue := w.queue ++ [task] }
  pure task

/-- One turn of the run loop of a worker, which leads to a new point. -/
def workTurn (t : Task) : SimM Worker.LoopPoint := do
  match (← get).workers[t.worker]? with
  | none => pure .ended
  | some worker => do
    let (point, stats) ← runOnDuty t.worker (worker.worker.turn worker.stats)
    changeWorker t.worker fun worker => { worker with stats := stats }
    pure point

/-- Let a loop take a turn. A loop that breaks off has ended, unless the simulation itself goes
through it. -/
def takeTurn (task : Nat) (t : Task) : SimM Worker.LoopPoint := do
  modify fun w => { w with running := some task }
  let point ←
    if (← get).foreground = some task then workTurn t
    else workTurn t <|> pure .ended
  modify fun w => { w with running := none, onDuty := none }
  pure point

/-- What a loop that is about to sleep finds: a signal that it has not seen, or a closed one. -/
def pendingWake (t : Task) : Option Worker.Wake :=
  if t.seen ≠ t.signal.version then some .signalled
  else if t.signal.closed then some .abandoned
  else none

/-- Wake a loop up. -/
def wakeLoop (task : Nat) (t : Task) (wake : Worker.Wake) : SimM Unit := do
  let point ← runOnDuty t.worker (Worker.wake wake)
  changeTask task fun t =>
    { t with
      point := point
      seen := if wake = .signalled then t.signal.version else t.seen }

/-- Put a loop to sleep until its poll interval is over. -/
def fallAsleep (task : Nat) (t : Task) : SimM Unit :=
  modify fun w =>
    let pollMs := ((w.workers[t.worker]?).map (·.worker.pollMs)).getD 0
    { w with sleepers := w.sleepers ++ [⟨task, w.time + pollMs⟩] }

/-- **Let a loop go on** until it falls asleep or ends. -/
def goOn (task : Nat) : (left : Nat) → SimM Unit
  | 0 => pure ()
  | left + 1 => do
    match (← get).tasks[task]? with
    | none => pure ()
    | some t =>
      match t.point with
      | .ended => pure ()
      | .ready => do
        let point ← takeTurn task t
        changeTask task fun t => { t with point := point }
        goOn task left
      | .asleep =>
        match pendingWake t with
        | some wake => do
          wakeLoop task t wake
          goOn task left
        | none => fallAsleep task t

/-- Take a loop out of the queue. A loop that slept wakes up by that. -/
def takeReady (task : Nat) : SimM Unit := do
  let w ← get
  set { w with queue := w.queue.erase task }
  match w.tasks[task]? with
  | some t =>
    if t.point = .asleep && (pendingWake t).isNone then wakeLoop task t .elapsed else pure ()
  | none => pure ()

/-- Take the first loop out of the queue, apart from the one in the foreground. -/
def nextReady : SimM (Option Nat) := do
  let w ← get
  match w.queue.find? fun task => w.foreground ≠ some task with
  | none => pure none
  | some task => do
    takeReady task
    pure (some task)

/-- Let all loops go on that are ready, one after the other, apart from the one in the
foreground. -/
def runReady : (left : Nat) → SimM Unit
  | 0 => pure ()
  | left + 1 => do
    match ← nextReady with
    | none => pure ()
    | some task => do
      goOn task left
      runReady left

/-- The next moment at which a loop wakes up. -/
def nextWake? (w : World) : Option Nat :=
  (w.sleepers.map (·.wakeAt)).min?

/-- Let time jump to a moment. The loops that wake up at it are ready then. -/
def jumpTo (time : Nat) : SimM Unit :=
  modify fun w =>
    let due := w.sleepers.filter fun s => decide (s.wakeAt ≤ time)
    { w with
      time := time
      sleepers := w.sleepers.filter fun s => !decide (s.wakeAt ≤ time)
      queue := w.queue ++ due.map (·.task) }

/-- Wait until `isOver` holds, or until the moment `deadline`, or until nothing can happen any
more. -/
def waitFor (isOver : World → Bool) (deadline : Option Nat) : (left : Nat) → SimM Unit
  | 0 => pure ()
  | left + 1 => do
    runReady (left + 1)
    let w ← get
    if isOver w then pure ()
    else
      match nextWake? w, deadline with
      | some wake, some moment =>
        if wake < moment then do
          jumpTo wake
          waitFor isOver deadline left
        else jumpTo moment
      | some wake, none => do
        jumpTo wake
        waitFor isOver deadline left
      | none, some moment => jumpTo moment
      | none, none => pure ()

/-- Wait for `ms` milliseconds. Waiting for none at all lets nothing happen. -/
def sleepFor (ms : Nat) : SimM Unit := do
  if ms = 0 then pure ()
  else
    let w ← get
    waitFor (fun _ => false) (some (w.time + ms)) patience

/-- Has a run loop ended? -/
def hasEnded (w : World) (task : Nat) : Bool :=
  match w.tasks[task]? with
  | some t => decide (t.point = .ended)
  | none => true

/-- Wait until run loops have ended. -/
def waitForAll (tasks : List Nat) : SimM Unit :=
  waitFor (fun w => tasks.all (hasEnded w)) none patience

/-! ## The loop in the foreground -/

/-- What happens to the stop signal of a run loop: after how many milliseconds, and the value that
is sent then, if one is. -/
structure SignalStep where
  afterMs : Nat
  send : Option Bool

/-- What is left to give to a stop signal, each at its moment on the time line, in order. -/
abbrev SignalPlan := List (Nat × Option Bool)

/-- The plan of signals that begin at a moment. -/
def planFrom : (time : Nat) → List SignalStep → SignalPlan
  | _, [] => []
  | time, s :: rest => (time + s.afterMs, s.send) :: planFrom (time + s.afterMs) rest

/-- Give the signals whose moment has come. Behind the last one the stop signal is closed. -/
def giveDue (task : Nat) : SignalPlan → SimM SignalPlan
  | [] => do
    closeStop task
    pure []
  | (moment, send) :: rest => do
    if (← get).time < moment then pure ((moment, send) :: rest)
    else
      match send with
      | some value => sendStop task value
      | none => pure ()
      giveDue task rest

/-- The simulation's own turn: the loop in the foreground goes on if it is awake, then its stop
signal is given what is due. -/
def ownTurn (task : Nat) (plan : SignalPlan) : SimM SignalPlan := do
  if (← get).queue.contains task then
    takeReady task
    goOn task patience
  else pure ()
  giveDue task plan

/-- Go through the loop in the foreground and the plan of its stop signal, until both have ended. -/
def goThrough (task : Nat) : SignalPlan → (left : Nat) → SimM Unit
  | _, 0 => pure ()
  | plan, left + 1 => do
    let plan ← ownTurn task plan
    if plan.isEmpty && hasEnded (← get) task then pure ()
    else
      runReady patience
      let w ← get
      if w.queue.contains task then goThrough task plan left
      else
        match (nextWake? w).toList ++ (plan.head?.map (·.1)).toList with
        | [] => pure ()
        | first :: others => do
          jumpTo (others.foldl Nat.min first)
          goThrough task plan left

/-- **Run a worker** until its loop ends and all signals were given, with a stop signal that holds
`start` at first and is closed behind the last one. -/
def runWorker (worker : Nat) (start : Bool) (signals : List SignalStep) : SimM Unit := do
  let task ← beginLoop worker start
  modify fun w => { w with foreground := some task }
  watching worker (goThrough task (planFrom (← get).time signals) patience)
  modify fun w => { w with foreground := none }

end MaintenanceOutbox.World
