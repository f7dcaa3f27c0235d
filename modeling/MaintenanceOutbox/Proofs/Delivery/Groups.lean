import MaintenanceOutbox.Proofs.Delivery.Loops
import MaintenanceOutbox.Worker.Group

set_option autoImplicit false

/-! # A group of workers at work

A `Plant` is a group of workers with what belongs to it: the store and the registry of its workers,
and the run loops that it spawned, which are known to the group by their places. It moves by single
events (`Plant.step`): the group is called, one of the loops goes on, others call the store, or a
call that waits for loops to end returns. While a call waits, the group is not called.

Every call that has returned is recorded with what it returned, in a log that nothing in the plant
looks at. What the calls do to the slots is said by `Plant.Fills` for starts, and by the equations
for `WorkerGroup.take` and `WorkerGroup.takeAll` for stops.
-/

namespace MaintenanceOutbox

/-! ## Slots -/

namespace WorkerGroup

variable {η : Type} (g : WorkerGroup η)

/-- The group with another slot. -/
def setSlot (index : Nat) (slot : Option η) : WorkerGroup η :=
  { g with slots := g.slots.set index slot }

/-- **Some slots are empty afterwards**, and the others are as they were. -/
structure Empties (g g' : WorkerGroup η) (which : Nat → Prop) : Prop where
  config : g'.config = g.config
  count : g'.workerCount = g.workerCount
  emptied : ∀ slot, which slot → g'.handle? slot = none
  kept : ∀ slot, ¬ which slot → g'.handle? slot = g.handle? slot

variable {g} {index : Nat} {worker : η}

theorem handle?_eq_some_iff :
    g.handle? index = some worker ↔ g.slots[index]? = some (some worker) := by
  rw [handle?, Option.join_eq_some_iff]

theorem isRunning_iff : g.isRunning index = true ↔ ∃ worker, g.handle? index = some worker :=
  Option.isSome_iff_exists

theorem isRunning_eq_false_iff : g.isRunning index = false ↔ g.handle? index = none :=
  Option.isSome_eq_false_iff.trans Option.isNone_iff_eq_none

theorem lt_of_isRunning (running : g.isRunning index = true) : index < g.workerCount := by
  obtain ⟨worker, here⟩ := isRunning_iff.mp running
  exact (List.getElem?_eq_some_iff.mp (handle?_eq_some_iff.mp here)).1

@[simp] theorem workerCount_ofConfig (config : OutboxConfig) :
    (ofConfig config : WorkerGroup η).workerCount = config.workerCount :=
  List.length_replicate

@[simp] theorem handle?_ofConfig (config : OutboxConfig) (index : Nat) :
    (ofConfig config : WorkerGroup η).handle? index = none := by
  rw [handle?, ofConfig, List.getElem?_replicate]
  split <;> rfl

@[simp] theorem workerCount_setSlot (g : WorkerGroup η) (index : Nat) (slot : Option η) :
    (g.setSlot index slot).workerCount = g.workerCount :=
  List.length_set

theorem handle?_setSlot_self (inside : index < g.workerCount) (slot : Option η) :
    (g.setSlot index slot).handle? index = slot := by
  rw [handle?, setSlot, List.getElem?_set_self inside]
  rfl

theorem handle?_setSlot_ne {other : Nat} (ne : other ≠ index) (slot : Option η) :
    (g.setSlot index slot).handle? other = g.handle? other := by
  rw [handle?, setSlot, List.getElem?_set_ne ne.symm, handle?]

/-- A slot that a worker was put into, and the others. -/
theorem handle?_setSlot_eq_some_iff (inside : index < g.workerCount) {slot : Nat} {other : η} :
    (g.setSlot index (some worker)).handle? slot = some other ↔
      slot = index ∧ other = worker ∨ slot ≠ index ∧ g.handle? slot = some other := by
  by_cases same : slot = index
  · subst same
    rw [handle?_setSlot_self inside]
    simp [eq_comm]
  · rw [handle?_setSlot_ne same]
    simp [same]

theorem empties_setSlot (g : WorkerGroup η) (index : Nat) :
    g.Empties (g.setSlot index none) (· = index) := by
  refine ⟨rfl, workerCount_setSlot g index none, ?_, fun slot ne => handle?_setSlot_ne ne none⟩
  rintro slot rfl
  by_cases inside : slot < g.workerCount
  · exact handle?_setSlot_self inside none
  · exact isRunning_eq_false_iff.mp (Bool.eq_false_iff.mpr fun running =>
      inside (workerCount_setSlot g slot none ▸ lt_of_isRunning running))

theorem empties_takeAll (g : WorkerGroup η) : g.Empties g.takeAll.2 fun _ => True := by
  refine ⟨rfl, List.length_map _, fun slot _ => ?_, fun _ no => absurd trivial no⟩
  rw [handle?, takeAll, List.getElem?_map]
  cases g.slots[slot]? <;> rfl

/-- **When a start succeeds**: the slot is there, and empty. -/
theorem start_eq (g : WorkerGroup η) (index : Nat) (worker : η) :
    g.start index worker =
      if g.workerCount ≤ index then .error (.unknownWorker index g.workerCount)
      else if g.isRunning index = true then .error (.alreadyRunning index)
      else .ok (g.setSlot index (some worker)) := by
  rw [start, checkStart, isRunning, handle?]
  by_cases beyond : g.workerCount ≤ index
  · rw [List.getElem?_eq_none beyond, if_pos beyond]
    rfl
  · have inside : index < g.slots.length := Nat.lt_of_not_le beyond
    rw [List.getElem?_eq_getElem inside, if_neg beyond]
    cases g.slots[index] <;> rfl

/-- **When a slot can be emptied**: it is there, empty or not. -/
theorem take_eq (g : WorkerGroup η) (index : Nat) :
    g.take index =
      if g.workerCount ≤ index then .error (.unknownWorker index g.workerCount)
      else .ok (g.handle? index, g.setSlot index none) := by
  rw [take, handle?]
  by_cases beyond : g.workerCount ≤ index
  · rw [List.getElem?_eq_none beyond, if_pos beyond]
  · rw [List.getElem?_eq_getElem (Nat.lt_of_not_le beyond), if_neg beyond]
    rfl

/-- To empty an empty slot changes nothing. -/
theorem setSlot_none (idle : g.isRunning index = false) : g.setSlot index none = g := by
  have empty := isRunning_eq_false_iff.mp idle
  rw [handle?] at empty
  rw [setSlot]
  congr 1
  refine List.ext_getElem? fun other => ?_
  by_cases same : other = index
  · subst same
    by_cases inside : other < g.slots.length
    · rw [List.getElem?_set_self inside]
      rw [List.getElem?_eq_getElem inside] at empty ⊢
      exact congrArg some empty.symm
    · rw [List.set_eq_of_length_le (Nat.le_of_not_lt inside)]
  · exact List.getElem?_set_ne (Ne.symm same)

theorem mem_running_iff : worker ∈ g.running ↔ ∃ index, g.handle? index = some worker := by
  simp only [handle?_eq_some_iff]
  rw [running, List.mem_filterMap]
  constructor
  · rintro ⟨_, mem, rfl⟩
    exact List.mem_iff_getElem?.mp mem
  · rintro ⟨index, here⟩
    exact ⟨some worker, List.mem_of_getElem? here, rfl⟩

/-- **Every slot is idle or running.** -/
theorem length_idleSlots (g : WorkerGroup η) :
    g.idleSlots.length + g.runningCount = g.workerCount := by
  have slots : g.slots = (List.range g.workerCount).map g.handle? := by
    refine List.ext_getElem (by simp [workerCount]) fun index inside _ => ?_
    simp [handle?, List.getElem?_eq_getElem inside]
  have running : g.runningCount = (List.range g.workerCount).countP g.isRunning := by
    rw [runningCount, WorkerGroup.running, slots, List.filterMap_map,
      List.length_filterMap_eq_countP]
    rfl
  have idle : g.idleSlots.length = (List.range g.workerCount).countP fun i => !g.isRunning i :=
    List.countP_eq_length_filter.symm
  have all := List.length_eq_countP_add_countP g.isRunning (l := List.range g.workerCount)
  simp only [Bool.not_eq_true, Bool.decide_eq_false, List.length_range] at all
  omega

end WorkerGroup

/-! ## Calls -/

/-- A call on a group. -/
inductive GroupCall where
  | start (index : Nat)
  | startAll
  | stop (index : Nat)
  | shutdown
deriving DecidableEq

namespace GroupCall

/-- Does the call concern the slot? -/
def concerns (slot : Nat) : GroupCall → Bool
  | .start index => index == slot
  | .stop index => index == slot
  | .startAll => true
  | .shutdown => true

/-- Is it a start, of one slot or of all? -/
def isStart : GroupCall → Bool
  | .start _ => true
  | .startAll => true
  | .stop _ => false
  | .shutdown => false

/-- **The last call that concerned a slot.** -/
def lastOn (slot : Nat) (calls : List GroupCall) : Option GroupCall :=
  (calls.filter (concerns slot)).getLast?

theorem lastOn_concat (slot : Nat) (calls : List GroupCall) (c : GroupCall) :
    lastOn slot (calls ++ [c]) = if c.concerns slot = true then some c else lastOn slot calls := by
  rw [lastOn, lastOn, List.filter_append]
  by_cases here : c.concerns slot = true <;> simp [here]

end GroupCall

/-- A call that has returned, and what it returned. -/
inductive GroupReturn where
  | started (index : Nat) (result : Except GroupError Unit)
  | startedAll (count : Nat)
  | stopped (index : Nat) (result : Except GroupError (Option WorkerStats))
  | shutDown
deriving DecidableEq

/-- The call, if it succeeded. -/
def GroupReturn.accepted? : GroupReturn → Option GroupCall
  | .started index (.ok _) => some (.start index)
  | .started _ (.error _) => none
  | .startedAll _ => some .startAll
  | .stopped index (.ok _) => some (.stop index)
  | .stopped _ (.error _) => none
  | .shutDown => some .shutdown

/-- A call that waits for run loops to end, which are known by their places. -/
inductive Awaited where
  | stop (index task : Nat)
  | shutdown (tasks : List Nat)

namespace Awaited

/-- The loops that are waited for. -/
def tasks : Awaited → List Nat
  | .stop _ task => [task]
  | .shutdown tasks => tasks

/-- The call. -/
def call : Awaited → GroupCall
  | .stop index _ => .stop index
  | .shutdown _ => .shutdown

end Awaited

/-! ## The plant -/

/-- A group of workers with its store, its registry and its run loops. -/
structure Plant (κ ω : Type) [EventFamily κ] where
  store : StoreId
  registry : Registry κ ω
  system : System
  /-- the slots, with the places of the loops that run in them -/
  group : WorkerGroup Nat
  /-- the loops that were spawned so far, those that have ended too -/
  loops : List (RunLoop κ ω) := []
  /-- the call that waits, if one does -/
  awaited : Option Awaited := none
  /-- the calls that have returned, oldest first -/
  log : List GroupReturn := []

/-- What can happen next. -/
inductive PlantEvent (ω : Type) where
  /-- the group is called -/
  | asks (call : GroupCall)
  /-- a loop goes on, on a host with the plant's system -/
  | works (task : Nat) (host : Host ω)
  /-- others make a call -/
  | others (c : Call)
  /-- the call that waits returns, if it can -/
  | returns

namespace Plant

variable {κ ω : Type} [EventFamily κ]

/-- A new group on store `i` of `n` empty ones. -/
def new (n : Nat) (config : OutboxConfig) (i : StoreId) (registry : Registry κ ω) :
    Plant κ ω where
  store := i
  registry := registry
  system := .ofSize n
  group := .ofConfig config

/-- The worker for a slot. -/
def workerFor (p : Plant κ ω) (slot : Nat) : Worker κ ω :=
  .ofConfig (WorkerGroup.workerName slot) p.store p.registry p.group.config

/-- The loops that the call at hand waits for. -/
def waitsFor (p : Plant κ ω) : List Nat :=
  (p.awaited.map Awaited.tasks).getD []

/-- The calls that were successful so far, oldest first; the one that waits is the last of them. -/
def accepted (p : Plant κ ω) : List GroupCall :=
  p.log.filterMap GroupReturn.accepted? ++ (p.awaited.map Awaited.call).toList

/-- Record that a call has returned. -/
def note (p : Plant κ ω) (r : GroupReturn) : Plant κ ω :=
  { p with log := p.log ++ [r] }

/-- Start a worker in a slot. -/
def start (p : Plant κ ω) (index : Nat) : Except GroupError (Plant κ ω) := do
  let group ← p.group.start index p.loops.length
  pure { p with group := group, loops := p.loops ++ [{ worker := p.workerFor index }] }

/-- Start a worker in each of the slots in which none runs, and count them. -/
def startEach : List Nat → Plant κ ω → Nat × Plant κ ω
  | [], p => (0, p)
  | index :: rest, p =>
    if p.group.isRunning index then startEach rest p
    else
      match p.start index with
      | .error _ => startEach rest p
      | .ok p' => ((startEach rest p').1 + 1, (startEach rest p').2)

/-- Give the stop signals of loops that have left their slots, and wait for the loops to end. -/
def await (p : Plant κ ω) (group : WorkerGroup Nat) (call : Awaited) : Plant κ ω :=
  { p with
    group := group
    loops := RunLoop.signalled call.tasks p.loops
    awaited := some call }

/-- **A call on the group.** It returns at once, unless there are loops to wait for. -/
def ask (p : Plant κ ω) : GroupCall → Plant κ ω
  | .start index =>
    match p.start index with
    | .error e => p.note (.started index (.error e))
    | .ok p' => p'.note (.started index (.ok ()))
  | .startAll =>
    let (count, p') := startEach (List.range p.group.workerCount) p
    p'.note (.startedAll count)
  | .stop index =>
    match p.group.take index with
    | .error e => p.note (.stopped index (.error e))
    | .ok (none, group) => { p with group := group }.note (.stopped index (.ok none))
    | .ok (some task, group) => p.await group (.stop index task)
  | .shutdown =>
    let (tasks, group) := p.group.takeAll
    p.await group (.shutdown tasks)

/-- The final statistics of a loop, if it has ended. -/
def finalStats? (p : Plant κ ω) (task : Nat) : Option WorkerStats :=
  p.loops[task]?.bind RunLoop.finalStats?

/-- What a call that waits returns, if the loops have ended. -/
def result? (p : Plant κ ω) : Awaited → Option GroupReturn
  | .stop index task => (p.finalStats? task).map fun stats => .stopped index (.ok (some stats))
  | .shutdown tasks =>
    if tasks.all fun task => (p.finalStats? task).isSome then some .shutDown else none

/-- **The plant after an event.** While a call waits, nobody else has the group to call it; and
nobody but a worker has a transaction that the worker began. -/
def step (p : Plant κ ω) : PlantEvent ω → Plant κ ω
  | .asks call => if p.awaited.isSome then p else p.ask call
  | .works task host =>
    match p.loops[task]? with
    | none => p
    | some l =>
      let (l', system) := l.step { host with system := p.system }
      { p with system := system, loops := p.loops.set task l' }
  | .others c =>
    if ∀ l ∈ p.loops, ∀ h ∈ begunIn l.said, ¬ c.On h then { p with system := p.system.step c }
    else p
  | .returns =>
    match p.awaited.bind p.result? with
    | none => p
    | some record => { p with awaited := none }.note record

/-- **The plant after some events.** -/
def run (p : Plant κ ω) (events : List (PlantEvent ω)) : Plant κ ω :=
  events.foldl step p

/-! ## Starts -/

variable {p q r : Plant κ ω} {slots slots' : List Nat}

/-- **Workers are started in idle slots**, and nothing else happens: afterwards each of the slots
holds a loop of its own, which is new, and has a new worker, no stop signal and nothing behind
it. -/
structure Fills (p q : Plant κ ω) (slots : List Nat) : Prop where
  frame : q = { p with group := q.group, loops := q.loops }
  config : q.group.config = p.group.config
  count : q.group.workerCount = p.group.workerCount
  older : p.loops <+: q.loops
  kept : ∀ slot, slot ∉ slots → q.group.handle? slot = p.group.handle? slot
  filled : ∀ slot ∈ slots, p.group.handle? slot = none ∧
    ∃ task, q.group.handle? slot = some task ∧ p.loops.length ≤ task ∧
      q.loops[task]? = some { worker := p.workerFor slot }

namespace Fills

theorem refl (p : Plant κ ω) : p.Fills p [] :=
  ⟨rfl, rfl, rfl, List.prefix_refl _, fun _ _ => rfl, fun _ mem => absurd mem List.not_mem_nil⟩

theorem awaited (fills : p.Fills q slots) : q.awaited = p.awaited := by
  rw [fills.frame]

theorem accepted (fills : p.Fills q slots) : q.accepted = p.accepted := by
  rw [Plant.accepted, fills.frame, Plant.accepted]

theorem workerFor (fills : p.Fills q slots) (slot : Nat) : q.workerFor slot = p.workerFor slot := by
  rw [Plant.workerFor, fills.config, fills.frame, Plant.workerFor]

theorem trans (first : p.Fills q slots) (second : q.Fills r slots') :
    p.Fills r (slots ++ slots') := by
  refine ⟨?_, second.config.trans first.config, second.count.trans first.count,
    first.older.trans second.older, ?_, ?_⟩
  · rw [second.frame, first.frame]
  · intro slot out
    rw [List.mem_append, not_or] at out
    rw [second.kept slot out.2, first.kept slot out.1]
  · intro slot mem
    by_cases later : slot ∈ slots'
    · obtain ⟨idle, task, here, new, fresh⟩ := second.filled slot later
      have before : slot ∉ slots := by
        intro earlier
        obtain ⟨-, _, there, -⟩ := first.filled slot earlier
        rw [idle] at there
        cases there
      refine ⟨(first.kept slot before).symm.trans idle, task, here, ?_, ?_⟩
      · exact Nat.le_trans first.older.length_le new
      · rw [fresh, first.workerFor]
    · obtain ⟨idle, task, here, new, fresh⟩ :=
        first.filled slot ((List.mem_append.mp mem).resolve_right later)
      refine ⟨idle, task, (second.kept slot later).trans here, new, ?_⟩
      obtain ⟨more, same⟩ := second.older
      rw [← same, List.getElem?_append_left (List.getElem?_eq_some_iff.mp fresh).1, fresh]

theorem isRunning_iff (fills : p.Fills q slots) (slot : Nat) :
    q.group.isRunning slot = true ↔ slot ∈ slots ∨ p.group.isRunning slot = true := by
  rw [WorkerGroup.isRunning_iff, WorkerGroup.isRunning_iff]
  by_cases mem : slot ∈ slots
  · obtain ⟨-, task, here, -⟩ := fills.filled slot mem
    exact iff_of_true ⟨task, here⟩ (Or.inl mem)
  · rw [fills.kept slot mem]
    exact (or_iff_right mem).symm

end Fills

/-- **What a start of one slot gives.** -/
theorem start_eq (p : Plant κ ω) (index : Nat) :
    p.start index =
      if p.group.workerCount ≤ index then .error (.unknownWorker index p.group.workerCount)
      else if p.group.isRunning index = true then .error (.alreadyRunning index)
      else .ok { p with
        group := p.group.setSlot index (some p.loops.length)
        loops := p.loops ++ [{ worker := p.workerFor index }] } := by
  rw [start, WorkerGroup.start_eq]
  split
  · rfl
  · split <;> rfl

theorem fills_of_start {index : Nat} (started : p.start index = .ok q) : p.Fills q [index] := by
  rw [start_eq] at started
  split at started
  · cases started
  · next inside =>
      split at started
      · cases started
      · next idle =>
          cases started
          refine ⟨rfl, rfl, WorkerGroup.workerCount_setSlot _ _ _, List.prefix_append _ _, ?_, ?_⟩
          · intro slot out
            refine WorkerGroup.handle?_setSlot_ne (fun same => out ?_) _
            exact List.mem_singleton.mpr same
          · intro slot mem
            rw [List.mem_singleton.mp mem]
            have empty := WorkerGroup.isRunning_eq_false_iff.mp (Bool.eq_false_iff.mpr idle)
            have taken := WorkerGroup.handle?_setSlot_self (Nat.lt_of_not_le inside)
              (some p.loops.length)
            exact ⟨empty, p.loops.length, taken, Nat.le_refl _, List.getElem?_concat_length⟩

/-- **What a start of several slots gives**: those that are idle are filled. By induction on the
slots. -/
theorem fills_startEach {indices : List Nat} (once : indices.Nodup)
    (inside : ∀ index ∈ indices, index < p.group.workerCount) :
    p.Fills (startEach indices p).2 (indices.filter fun index => !p.group.isRunning index) ∧
      (startEach indices p).1 = (indices.filter fun index => !p.group.isRunning index).length := by
  induction indices generalizing p with
  | nil => exact ⟨.refl p, rfl⟩
  | cons index rest ih =>
      obtain ⟨notLater, once⟩ := List.nodup_cons.mp once
      have here := inside index List.mem_cons_self
      have later := fun i hi => inside i (List.mem_cons_of_mem index hi)
      rw [startEach]
      by_cases running : p.group.isRunning index = true
      · rw [if_pos running, List.filter_cons_of_neg (by simp [running])]
        exact ih once later
      · have started : ∃ q, p.start index = .ok q := by
          rw [start_eq, if_neg (Nat.not_le_of_lt here), if_neg running]
          exact ⟨_, rfl⟩
        obtain ⟨q, started⟩ := started
        have first := fills_of_start started
        -- the other slots are as they were
        have others : (rest.filter fun i => !q.group.isRunning i) =
            rest.filter fun i => !p.group.isRunning i := by
          refine List.filter_congr fun i hi => ?_
          have ne : i ∉ [index] := fun mem => notLater (List.mem_singleton.mp mem ▸ hi)
          rw [WorkerGroup.isRunning, first.kept i ne, WorkerGroup.isRunning]
        obtain ⟨second, count⟩ := ih (p := q) once (first.count.symm ▸ later)
        rw [others] at second count
        rw [if_neg running, started, List.filter_cons_of_pos (by simp [running])]
        exact ⟨first.trans second, congrArg (· + 1) count⟩

/-! ## What a call does -/

/-- **Everything that a call can do**, with the plant afterwards. -/
inductive Asked (p : Plant κ ω) : GroupCall → Plant κ ω → Prop where
  | startUnknown (slot : Nat) (beyond : p.group.workerCount ≤ slot) :
      Asked p (.start slot)
        (p.note (.started slot (.error (.unknownWorker slot p.group.workerCount))))
  | startRunning (slot : Nat) (running : p.group.isRunning slot = true) :
      Asked p (.start slot) (p.note (.started slot (.error (.alreadyRunning slot))))
  | start (slot : Nat) (q : Plant κ ω) (inside : slot < p.group.workerCount)
      (idle : p.group.isRunning slot = false) (fills : p.Fills q [slot]) :
      Asked p (.start slot) (q.note (.started slot (.ok ())))
  | startAll (count : Nat) (q : Plant κ ω) (fills : p.Fills q p.group.idleSlots)
      (all : ∀ slot < p.group.workerCount, q.group.isRunning slot = true)
      (number : count + p.group.runningCount = p.group.workerCount) :
      Asked p .startAll (q.note (.startedAll count))
  | stopUnknown (slot : Nat) (beyond : p.group.workerCount ≤ slot) :
      Asked p (.stop slot)
        (p.note (.stopped slot (.error (.unknownWorker slot p.group.workerCount))))
  | stopIdle (slot : Nat) (inside : slot < p.group.workerCount)
      (idle : p.group.isRunning slot = false) :
      Asked p (.stop slot) (p.note (.stopped slot (.ok none)))
  | stop (slot task : Nat) (group : WorkerGroup Nat) (here : p.group.handle? slot = some task)
      (empties : p.group.Empties group (· = slot)) :
      Asked p (.stop slot) (p.await group (.stop slot task))
  | shutdown (group : WorkerGroup Nat) (empties : p.group.Empties group fun _ => True) :
      Asked p .shutdown (p.await group (.shutdown p.group.running))

/-- **The list is complete.** -/
theorem asked (p : Plant κ ω) (call : GroupCall) : p.Asked call (p.ask call) := by
  cases call with
  | start slot =>
      rw [ask]
      split
      · next e refused =>
          rw [start_eq] at refused
          split at refused
          · next beyond =>
              cases refused
              exact .startUnknown slot beyond
          · split at refused
            · next running =>
                cases refused
                exact .startRunning slot running
            · cases refused
      · next q started =>
          have fills := fills_of_start started
          rw [start_eq] at started
          split at started
          · cases started
          · next inside =>
              split at started
              · cases started
              · next idle =>
                  exact .start slot q (Nat.lt_of_not_le inside) (Bool.eq_false_iff.mpr idle) fills
  | startAll =>
      obtain ⟨fills, count⟩ := fills_startEach (p := p) List.nodup_range
        fun index mem => List.mem_range.mp mem
      refine .startAll _ _ fills (fun slot inside => ?_) ?_
      · rw [fills.isRunning_iff]
        by_cases running : p.group.isRunning slot = true
        · exact Or.inr running
        · exact Or.inl (List.mem_filter.mpr ⟨List.mem_range.mpr inside, by simp [running]⟩)
      · rw [count]
        exact p.group.length_idleSlots
  | stop slot =>
      rw [ask, WorkerGroup.take_eq]
      by_cases beyond : p.group.workerCount ≤ slot
      · rw [if_pos beyond]
        exact .stopUnknown slot beyond
      · rw [if_neg beyond]
        cases here : p.group.handle? slot with
        | none =>
            have idle := WorkerGroup.isRunning_eq_false_iff.mpr here
            rw [WorkerGroup.setSlot_none idle]
            exact .stopIdle slot (Nat.lt_of_not_le beyond) idle
        | some task => exact .stop slot task _ here (p.group.empties_setSlot slot)
  | shutdown => exact .shutdown _ p.group.empties_takeAll

end Plant

end MaintenanceOutbox
