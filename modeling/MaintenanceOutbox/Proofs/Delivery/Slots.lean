import MaintenanceOutbox.Proofs.Delivery.Groups

set_option autoImplicit false

/-! # The slots of a group

What is true of the slots of a group at any time (`Plant.keeps_slots`): which calls are refused,
which slot each call changes and what it returns, that a slot is running exactly when the last
successful call that concerned it was a start, and that a call that stops workers returns once they
have stopped, and not before. A worker that breaks off is over as well, with no transaction open; it
only cannot say that it has stopped.

The invariant behind it (`Plant.Sound`) is about where the loops are. A loop whose stop signal is
not given is in exactly one slot; a loop whose stop signal is given is in no slot, and either the
call at hand waits for it or it has ended.
-/

namespace MaintenanceOutbox

variable {κ ω : Type} [EventFamily κ]

namespace Plant

variable {p q : Plant κ ω} {n : Nat} {config : OutboxConfig}

/-! ## Where the loops are -/

/-- **Every loop is in its place.** -/
structure Sound (n : Nat) (config : OutboxConfig) (p : Plant κ ω) : Prop where
  inside : p.store.index < n
  side : SideBySide n p.store p.system p.loops
  settings : p.group.config = config
  count : p.group.workerCount = config.workerCount
  /-- in a slot is a loop of the slot's worker that is not asked to stop -/
  placed : ∀ slot task, p.group.handle? slot = some task →
    ∃ l, p.loops[task]? = some l ∧ l.stop = false ∧ l.worker = p.workerFor slot
  /-- no loop is in two slots -/
  once : ∀ slot slot' task, p.group.handle? slot = some task → p.group.handle? slot' = some task →
    slot = slot'
  /-- a loop that is not asked to stop is in a slot -/
  running : ∀ (task : Nat) l, p.loops[task]? = some l → l.stop = false →
    ∃ slot, p.group.handle? slot = some task
  /-- the call at hand waits for loops that are asked to stop -/
  asked : ∀ task ∈ p.waitsFor, ∃ l, p.loops[task]? = some l ∧ l.stop = true
  /-- other loops that were asked to stop have ended -/
  former : ∀ (task : Nat) l, p.loops[task]? = some l → l.stop = true →
    task ∈ p.waitsFor ∨ l.finalStats?.isSome = true

namespace Sound

theorem new {i : StoreId} (hi : i.index < n) (config : OutboxConfig) (registry : Registry κ ω) :
    (Plant.new n config i registry).Sound n config where
  inside := hi
  side := .nothing n i
  settings := rfl
  count := WorkerGroup.workerCount_ofConfig config
  placed slot task here := by
    rw [Plant.new, WorkerGroup.handle?_ofConfig] at here
    cases here
  once slot _ task here := by
    rw [Plant.new, WorkerGroup.handle?_ofConfig] at here
    cases here
  running _ _ found := by cases found
  asked _ mem := absurd mem List.not_mem_nil
  former _ _ found := by cases found

/-- A loop of the plant that has ended. -/
theorem hasStopped (sound : p.Sound n config) {task : Nat} {l : RunLoop κ ω}
    (here : p.loops[task]? = some l) {stats : WorkerStats} (ended : l.finalStats? = some stats) :
    l.HasStopped p.system stats :=
  sound.side.hasStopped sound.inside (List.mem_of_getElem? here) ended

/-- **A worker is started.** -/
theorem start (sound : p.Sound n config) {index : Nat} (started : p.start index = .ok q) :
    q.Sound n config := by
  rw [start_eq] at started
  split at started
  · cases started
  next inside =>
  split at started
  · cases started
  next idle =>
  cases started
  have inSlot : ∀ {slot task : Nat},
      (p.group.setSlot index (some p.loops.length)).handle? slot = some task ↔
        slot = index ∧ task = p.loops.length ∨
          slot ≠ index ∧ p.group.handle? slot = some task :=
    WorkerGroup.handle?_setSlot_eq_some_iff (Nat.lt_of_not_le inside)
  -- the new loop is in no other slot
  have unused : ∀ slot, p.group.handle? slot ≠ some p.loops.length := by
    intro slot here
    obtain ⟨l, found, -⟩ := sound.placed slot _ here
    rw [List.getElem?_eq_none (Nat.le_refl _)] at found
    cases found
  have before : ∀ {task : Nat} {l : RunLoop κ ω}, p.loops[task]? = some l →
      (p.loops ++ [{ worker := p.workerFor index }])[task]? = some l := by
    intro task l found
    rw [List.getElem?_append_left (List.getElem?_eq_some_iff.mp found).1, found]
  refine
    { inside := sound.inside
      side := sound.side.spawn rfl
      settings := sound.settings
      count := (WorkerGroup.workerCount_setSlot _ _ _).trans sound.count
      placed := ?_
      once := ?_
      running := ?_
      asked := ?_
      former := ?_ }
  · intro slot task here
    rcases inSlot.mp here with ⟨rfl, rfl⟩ | ⟨-, old⟩
    · exact ⟨_, List.getElem?_concat_length, rfl, rfl⟩
    · obtain ⟨l, found, rest⟩ := sound.placed slot task old
      exact ⟨l, before found, rest⟩
  · intro slot slot' task here here'
    rcases inSlot.mp here with ⟨rfl, rfl⟩ | ⟨-, old⟩
    · rcases inSlot.mp here' with ⟨rfl, -⟩ | ⟨-, old'⟩
      · rfl
      · exact absurd old' (unused slot')
    · rcases inSlot.mp here' with ⟨rfl, rfl⟩ | ⟨-, old'⟩
      · exact absurd old (unused slot)
      · exact sound.once slot slot' task old old'
  · intro task l found going
    rcases RunLoop.of_getElem?_concat found with old | ⟨rfl, -⟩
    · obtain ⟨slot, here⟩ := sound.running task l old going
      refine ⟨slot, inSlot.mpr (Or.inr ⟨?_, here⟩)⟩
      rintro rfl
      exact idle (WorkerGroup.isRunning_iff.mpr ⟨task, here⟩)
    · exact ⟨index, inSlot.mpr (Or.inl ⟨rfl, rfl⟩)⟩
  · intro task mem
    obtain ⟨l, found, asked⟩ := sound.asked task mem
    exact ⟨l, before found, asked⟩
  · intro task l found asked
    rcases RunLoop.of_getElem?_concat found with old | ⟨-, rfl⟩
    · exact sound.former task l old asked
    · cases asked

theorem startEach (sound : p.Sound n config) (indices : List Nat) :
    (Plant.startEach indices p).2.Sound n config := by
  induction indices generalizing p with
  | nil => exact sound
  | cons index rest ih =>
      rw [Plant.startEach]
      split
      · exact ih sound
      · split
        · exact ih sound
        · next started => exact ih (sound.start started)

/-- A record changes nothing else. -/
theorem note (sound : p.Sound n config) (r : GroupReturn) : (p.note r).Sound n config :=
  { sound with }

/-- **Loops leave their slots** and are asked to stop. -/
theorem await (sound : p.Sound n config) (free : p.awaited = none) {group : WorkerGroup Nat}
    {call : Awaited} (settings : group.config = p.group.config)
    (count : group.workerCount = p.group.workerCount)
    (kept : ∀ slot task, group.handle? slot = some task ↔
      p.group.handle? slot = some task ∧ task ∉ call.tasks)
    (were : ∀ task ∈ call.tasks, ∃ slot, p.group.handle? slot = some task) :
    (p.await group call).Sound n config := by
  have found : ∀ {task : Nat} {l' : RunLoop κ ω},
      (RunLoop.signalled call.tasks p.loops)[task]? = some l' ↔ ∃ l, p.loops[task]? = some l ∧
        (if task ∈ call.tasks then { l with stop := true } else l) = l' := by
    intro task l'
    rw [RunLoop.getElem?_signalled, Option.map_eq_some_iff]
  have worker : ∀ slot, (p.await group call).workerFor slot = p.workerFor slot := by
    intro slot
    rw [workerFor, Plant.await, settings, workerFor]
  refine
    { inside := sound.inside
      side := sound.side.signalled _
      settings := settings.trans sound.settings
      count := count.trans sound.count
      placed := ?_
      once := ?_
      running := ?_
      asked := ?_
      former := ?_ }
  · intro slot task here
    obtain ⟨here, stays⟩ := (kept slot task).mp here
    obtain ⟨l, before, rest⟩ := sound.placed slot task here
    exact ⟨l, found.mpr ⟨l, before, if_neg stays⟩, worker slot ▸ rest⟩
  · intro slot slot' task here here'
    exact sound.once slot slot' task ((kept slot task).mp here).1 ((kept slot' task).mp here').1
  · intro task l' after going
    obtain ⟨l, before, rfl⟩ := found.mp after
    split at going
    · cases going
    · next stays =>
        obtain ⟨slot, here⟩ := sound.running task l before going
        exact ⟨slot, (kept slot task).mpr ⟨here, stays⟩⟩
  · intro task mem
    obtain ⟨slot, here⟩ := were task mem
    obtain ⟨l, before, -⟩ := sound.placed slot task here
    exact ⟨_, found.mpr ⟨l, before, if_pos mem⟩, rfl⟩
  · intro task l' after asked
    obtain ⟨l, before, rfl⟩ := found.mp after
    split at asked
    · next mem => exact Or.inl mem
    · next stays =>
        rw [if_neg stays]
        refine Or.inr ((sound.former task l before asked).resolve_left ?_)
        rw [waitsFor, free]
        exact List.not_mem_nil

/-- One loop changes, but neither its worker nor its stop signal, nor that it has ended. -/
theorem set (sound : p.Sound n config) {task : Nat} {l next : RunLoop κ ω} {system : System}
    (here : p.loops[task]? = some l)
    (side : SideBySide n p.store system (p.loops.set task next))
    (worker : next.worker = l.worker) (stop : next.stop = l.stop)
    (stays : l.finalStats?.isSome = true → next.finalStats?.isSome = true) :
    ({ p with system := system, loops := p.loops.set task next } : Plant κ ω).Sound n config := by
  have onward : ∀ {task' : Nat} {l' : RunLoop κ ω}, p.loops[task']? = some l' →
      ∃ l'', (p.loops.set task next)[task']? = some l'' ∧ l''.worker = l'.worker ∧
        l''.stop = l'.stop := by
    intro task' l' found
    by_cases same : task' = task
    · subst same
      rw [here] at found
      cases found
      exact ⟨next, List.getElem?_set_self (List.getElem?_eq_some_iff.mp here).1, worker, stop⟩
    · exact ⟨l', (List.getElem?_set_ne (Ne.symm same)).trans found, rfl, rfl⟩
  refine
    { inside := sound.inside
      side := side
      settings := sound.settings
      count := sound.count
      placed := ?_
      once := sound.once
      running := ?_
      asked := ?_
      former := ?_ }
  · intro slot task' inSlot
    obtain ⟨l', found, going, theirs⟩ := sound.placed slot task' inSlot
    obtain ⟨l'', found', worker', stop'⟩ := onward found
    exact ⟨l'', found', stop'.trans going, worker'.trans theirs⟩
  · intro task' l' found going
    rcases RunLoop.of_getElem?_set here found with ⟨rfl, rfl⟩ | ⟨-, before⟩
    · exact sound.running task' l here (stop.symm.trans going)
    · exact sound.running task' l' before going
  · intro task' mem
    obtain ⟨l', found, asked⟩ := sound.asked task' mem
    obtain ⟨l'', found', -, stop'⟩ := onward found
    exact ⟨l'', found', stop'.trans asked⟩
  · intro task' l' found asked
    rcases RunLoop.of_getElem?_set here found with ⟨rfl, rfl⟩ | ⟨-, before⟩
    · exact (sound.former task' l here (stop.symm.trans asked)).imp_right stays
    · exact sound.former task' l' before asked

/-- **A loop goes on.** -/
theorem work (sound : p.Sound n config) (task : Nat) (host : Host ω) :
    (p.step (.works task host)).Sound n config := by
  rw [step]
  split
  · exact sound
  · next l here =>
      have side := sound.side.work (h := { host with system := p.system }) sound.inside here
      exact sound.set here side (RunLoop.worker_step l _) (RunLoop.stop_step l _) fun ended =>
        RunLoop.ended_step ended _

/-- **Others make a call.** -/
theorem others (sound : p.Sound n config) (c : Call) : (p.step (.others c)).Sound n config := by
  rw [step]
  split
  · next away => exact { sound with side := sound.side.others sound.inside c away }
  · exact sound

end Sound

/-! ## The call that waits -/

/-- **What a call that waits may return**: the loops that it waits for have ended, and it gives the
final statistics if it stops one slot. -/
def Answers (p : Plant κ ω) : Awaited → GroupReturn → Prop
  | .stop index task, r => ∃ l stats, p.loops[task]? = some l ∧ l.HasStopped p.system stats ∧
      r = .stopped index (.ok (some stats))
  | .shutdown tasks, r => r = .shutDown ∧
      ∀ task ∈ tasks, ∃ l stats, p.loops[task]? = some l ∧ l.HasStopped p.system stats

theorem finalStats?_eq_some_iff {task : Nat} {stats : WorkerStats} :
    p.finalStats? task = some stats ↔
      ∃ l, p.loops[task]? = some l ∧ l.finalStats? = some stats := by
  rw [finalStats?, Option.bind_eq_some_iff]

theorem answers_of_result? (sound : p.Sound n config) {call : Awaited} {r : GroupReturn}
    (result : p.result? call = some r) : p.Answers call r := by
  cases call with
  | stop index task =>
      rw [result?, Option.map_eq_some_iff] at result
      obtain ⟨stats, ended, rfl⟩ := result
      obtain ⟨l, here, ended⟩ := finalStats?_eq_some_iff.mp ended
      exact ⟨l, stats, here, sound.hasStopped here ended, rfl⟩
  | shutdown tasks =>
      rw [result?] at result
      split at result
      · next all =>
          cases result
          refine ⟨rfl, fun task mem => ?_⟩
          obtain ⟨stats, ended⟩ := Option.isSome_iff_exists.mp (List.all_eq_true.mp all task mem)
          obtain ⟨l, here, ended⟩ := finalStats?_eq_some_iff.mp ended
          exact ⟨l, stats, here, sound.hasStopped here ended⟩
      · cases result

/-- Once all loops have ended, the call can return. -/
theorem exists_result? {call : Awaited}
    (ended : ∀ task ∈ call.tasks, ∃ stats, p.finalStats? task = some stats) :
    ∃ r, p.result? call = some r := by
  cases call with
  | stop index task =>
      obtain ⟨stats, ended⟩ := ended task (List.mem_singleton.mpr rfl)
      exact ⟨_, Option.map_eq_some_iff.mpr ⟨stats, ended, rfl⟩⟩
  | shutdown tasks =>
      refine ⟨.shutDown, if_pos (List.all_eq_true.mpr fun task mem => ?_)⟩
      exact Option.isSome_iff_exists.mpr (ended task mem)

theorem accepted?_of_result? {call : Awaited} {r : GroupReturn} (result : p.result? call = some r) :
    r.accepted? = some call.call := by
  cases call with
  | stop index task =>
      rw [result?, Option.map_eq_some_iff] at result
      obtain ⟨stats, -, rfl⟩ := result
      rfl
  | shutdown tasks =>
      rw [result?] at result
      split at result
      · cases result
        rfl
      · cases result

/-- All loops that it waits for have ended when a call returns. -/
theorem ended_of_result? {call : Awaited} {r : GroupReturn} (result : p.result? call = some r)
    {task : Nat} (mem : task ∈ call.tasks) : (p.finalStats? task).isSome = true := by
  cases call with
  | stop index task' =>
      rw [result?, Option.map_eq_some_iff] at result
      obtain ⟨stats, ended, -⟩ := result
      rw [List.mem_singleton.mp mem, ended]
      rfl
  | shutdown tasks =>
      rw [result?] at result
      split at result
      · next all => exact List.all_eq_true.mp all task mem
      · cases result

namespace Sound

/-- **A call that waits returns.** -/
theorem returns (sound : p.Sound n config) : (p.step .returns).Sound n config := by
  rw [step]
  split
  · exact sound
  · next r result =>
      obtain ⟨call, here, result⟩ := Option.bind_eq_some_iff.mp result
      refine
        { sound with
          asked := fun _ mem => absurd mem List.not_mem_nil
          former := fun task l found asked => Or.inr ?_ }
      rcases sound.former task l found asked with mem | ended
      · rw [waitsFor, here] at mem
        have old : p.loops[task]? = some l := found
        have ended := ended_of_result? result mem
        rw [finalStats?, old] at ended
        exact ended
      · exact ended

/-- **The group is called.** -/
theorem ask (sound : p.Sound n config) (free : p.awaited = none) (call : GroupCall) :
    (p.ask call).Sound n config := by
  cases call with
  | start slot =>
      rw [Plant.ask]
      split
      · exact sound.note _
      · next started => exact (sound.start started).note _
  | startAll => exact (sound.startEach _).note _
  | stop slot =>
      have asked := p.asked (.stop slot)
      generalize p.ask (.stop slot) = q at asked ⊢
      cases asked with
      | stopUnknown | stopIdle => exact sound.note _
      | stop _ task group here empties =>
          refine sound.await free empties.config empties.count (fun other task' => ?_) ?_
          · -- the loop is in this slot only
            by_cases same : other = slot
            · rw [empties.emptied other same, same, here, Awaited.tasks, List.mem_singleton]
              constructor
              · intro nothing
                cases nothing
              · rintro ⟨there, out⟩
                exact absurd (Option.some.inj there).symm out
            · rw [empties.kept other same, Awaited.tasks, List.mem_singleton]
              refine ⟨fun there => ⟨there, ?_⟩, And.left⟩
              rintro rfl
              exact same (sound.once other slot _ there here)
          · intro task' mem
            rw [List.mem_singleton.mp mem]
            exact ⟨slot, here⟩
  | shutdown =>
      have asked := p.asked .shutdown
      generalize p.ask .shutdown = q at asked ⊢
      cases asked with
      | shutdown group empties =>
          refine sound.await free empties.config empties.count (fun slot task => ?_) ?_
          · rw [empties.emptied slot trivial]
            constructor
            · intro nothing
              cases nothing
            · rintro ⟨here, out⟩
              exact absurd (WorkerGroup.mem_running_iff.mpr ⟨slot, here⟩) out
          · exact fun task mem => WorkerGroup.mem_running_iff.mp mem

/-- **Every event** leaves every loop in its place. -/
theorem step (sound : p.Sound n config) (e : PlantEvent ω) : (p.step e).Sound n config := by
  cases e with
  | asks call =>
      rw [Plant.step]
      split
      · exact sound
      · next free => exact sound.ask (Option.not_isSome_iff_eq_none.mp free) call
  | works task host => exact sound.work task host
  | others c => exact sound.others c
  | returns => exact sound.returns

end Sound

/-! ## Running slots and the calls before -/

/-- **A slot is running exactly when the last successful call that concerned it was a start.** -/
def Recorded (p : Plant κ ω) : Prop :=
  ∀ slot, p.group.isRunning slot = true ↔ slot < p.group.workerCount ∧
    ∃ call, GroupCall.lastOn slot p.accepted = some call ∧ call.isStart = true

theorem recorded_new (n : Nat) (config : OutboxConfig) (i : StoreId) (registry : Registry κ ω) :
    (Plant.new n config i registry).Recorded := by
  intro slot
  rw [Plant.new, WorkerGroup.isRunning, WorkerGroup.handle?_ofConfig]
  refine iff_of_false Bool.false_ne_true ?_
  rintro ⟨-, call, called, -⟩
  cases called

theorem accepted_note (free : p.awaited = none) (r : GroupReturn) :
    (p.note r).accepted = p.accepted ++ r.accepted?.toList := by
  rw [accepted, accepted, note, free, List.filterMap_append]
  cases h : r.accepted? <;> simp [h]

theorem accepted_await (free : p.awaited = none) (group : WorkerGroup Nat) (call : Awaited) :
    (p.await group call).accepted = p.accepted ++ [call.call] := by
  rw [accepted, accepted, await, free]
  simp

namespace Recorded

/-- What is refused changes nothing. -/
theorem refused (recorded : p.Recorded) (free : p.awaited = none) {r : GroupReturn}
    (none' : r.accepted? = none) : (p.note r).Recorded := by
  intro slot
  rw [accepted_note free, none', Option.toList_none, List.append_nil]
  exact recorded slot

/-- One more call: the slots that it concerns are running if it is a start, the others as they
were. -/
theorem concat (recorded : p.Recorded) {c : GroupCall} (accepted : q.accepted = p.accepted ++ [c])
    (count : q.group.workerCount = p.group.workerCount)
    (here : ∀ slot, c.concerns slot = true →
      (q.group.isRunning slot = true ↔ slot < p.group.workerCount ∧ c.isStart = true))
    (other : ∀ slot, ¬ c.concerns slot = true →
      q.group.isRunning slot = p.group.isRunning slot) : q.Recorded := by
  intro slot
  rw [accepted, GroupCall.lastOn_concat, count]
  by_cases concerned : c.concerns slot = true
  · rw [if_pos concerned, here slot concerned]
    simp
  · rw [if_neg concerned, other slot concerned]
    exact recorded slot

theorem ask (recorded : p.Recorded) (free : p.awaited = none) (call : GroupCall) :
    (p.ask call).Recorded := by
  have asked := p.asked call
  generalize p.ask call = q at asked ⊢
  cases asked with
  | startUnknown | startRunning | stopUnknown => exact recorded.refused free rfl
  | start slot q inside idle fills =>
      refine recorded.concat (c := .start slot) ?_ fills.count (fun other concerned => ?_)
        fun other elsewhere => ?_
      · rw [accepted_note (fills.awaited.trans free), fills.accepted]
        rfl
      · cases eq_of_beq concerned
        have now := (fills.isRunning_iff slot).mpr (Or.inl (List.mem_singleton.mpr rfl))
        exact iff_of_true now ⟨inside, rfl⟩
      · refine congrArg Option.isSome (fills.kept other fun mem => elsewhere ?_)
        exact beq_iff_eq.mpr (List.mem_singleton.mp mem).symm
  | startAll count q fills all number =>
      refine recorded.concat (c := .startAll) ?_ fills.count (fun slot _ => ?_)
        fun slot elsewhere => absurd rfl elsewhere
      · rw [accepted_note (fills.awaited.trans free), fills.accepted]
        rfl
      · refine ⟨fun now => ⟨?_, rfl⟩, fun inside => all slot inside.1⟩
        exact fills.count ▸ WorkerGroup.lt_of_isRunning now
  | stopIdle slot inside idle =>
      refine recorded.concat (accepted_note free _) rfl (fun other concerned => ?_)
        fun _ _ => rfl
      cases eq_of_beq concerned
      exact iff_of_false (Bool.eq_false_iff.mp idle) fun start => Bool.false_ne_true start.2
  | stop slot task group here empties =>
      refine recorded.concat (accepted_await free _ _) empties.count (fun other concerned => ?_)
        fun other elsewhere => ?_
      · cases eq_of_beq concerned
        have idle := WorkerGroup.isRunning_eq_false_iff.mpr (empties.emptied slot rfl)
        exact iff_of_false (Bool.eq_false_iff.mp idle) fun start => Bool.false_ne_true start.2
      · refine congrArg Option.isSome (empties.kept other fun same => elsewhere ?_)
        exact beq_iff_eq.mpr same.symm
  | shutdown group empties =>
      refine recorded.concat (accepted_await free _ _) empties.count (fun slot _ => ?_)
        fun slot elsewhere => absurd rfl elsewhere
      have idle := WorkerGroup.isRunning_eq_false_iff.mpr (empties.emptied slot trivial)
      exact iff_of_false (Bool.eq_false_iff.mp idle) fun start => Bool.false_ne_true start.2

/-- **Every event** keeps the slots as they are recorded. A call that returns was recorded when it
was made. -/
theorem step (recorded : p.Recorded) (e : PlantEvent ω) : (p.step e).Recorded := by
  cases e with
  | asks call =>
      rw [Plant.step]
      split
      · exact recorded
      · next free => exact recorded.ask (Option.not_isSome_iff_eq_none.mp free) call
  | works task host =>
      rw [Plant.step]
      split <;> exact recorded
  | others c =>
      rw [Plant.step]
      split <;> exact recorded
  | returns =>
      rw [Plant.step]
      split
      · exact recorded
      · next r result =>
          obtain ⟨call, here, result⟩ := Option.bind_eq_some_iff.mp result
          have same : ({ p with awaited := none }.note r : Plant κ ω).accepted = p.accepted := by
            rw [accepted_note rfl, accepted?_of_result? result, accepted, accepted, here]
            simp
          intro slot
          rw [same]
          exact recorded slot

end Recorded

theorem run_concat (p : Plant κ ω) (events : List (PlantEvent ω)) (e : PlantEvent ω) :
    p.run (events ++ [e]) = (p.run events).step e :=
  List.foldl_concat _ _ _ _

theorem Sound.run (sound : p.Sound n config) (events : List (PlantEvent ω)) :
    (p.run events).Sound n config := by
  induction events using List.reverseRecOn with
  | nil => exact sound
  | append_singleton before e ih => exact run_concat p before e ▸ ih.step e

theorem Recorded.run (recorded : p.Recorded) (events : List (PlantEvent ω)) :
    (p.run events).Recorded := by
  induction events using List.reverseRecOn with
  | nil => exact recorded
  | append_singleton before e ih => exact run_concat p before e ▸ ih.step e

/-! ## While a call waits -/

/-- **While a call waits,** the slots and the log stay as they are, until it returns. -/
theorem step_of_awaited (sound : p.Sound n config) {call : Awaited} (waits : p.awaited = some call)
    (e : PlantEvent ω) :
    ((p.step e).awaited = some call ∧ (p.step e).group = p.group ∧ (p.step e).log = p.log) ∨
      e = .returns ∧ ∃ r, p.Answers call r ∧ p.step e = { p with awaited := none }.note r := by
  cases e with
  | asks =>
      rw [step, if_pos (by rw [waits]; rfl)]
      exact Or.inl ⟨waits, rfl, rfl⟩
  | works =>
      rw [step]
      split <;> exact Or.inl ⟨waits, rfl, rfl⟩
  | others =>
      rw [step]
      split <;> exact Or.inl ⟨waits, rfl, rfl⟩
  | returns =>
      rw [step, waits, Option.bind_some]
      cases result : p.result? call with
      | none => exact Or.inl ⟨waits, rfl, rfl⟩
      | some r => exact Or.inr ⟨rfl, r, answers_of_result? sound result, rfl⟩

/-- **A loop that is waited for** stays as it is or goes on, and it goes on when it is its turn, as
long as it has not ended. -/
theorem loop_step {call : Awaited} (waits : p.awaited = some call) {task : Nat} {l : RunLoop κ ω}
    (here : p.loops[task]? = some l) (asked : l.stop = true) (e : PlantEvent ω) :
    ∃ l', (p.step e).loops[task]? = some l' ∧ l'.stop = true ∧ (l' = l ∨ l'.Advances l) ∧
      ((∃ host, e = .works task host) → l.finalStats? = none → l'.Advances l) := by
  have still : ∀ {q : Plant κ ω}, q.loops = p.loops → (¬ ∃ host, e = .works task host) →
      ∃ l', q.loops[task]? = some l' ∧ l'.stop = true ∧ (l' = l ∨ l'.Advances l) ∧
        ((∃ host, e = .works task host) → l.finalStats? = none → l'.Advances l) :=
    fun same other => ⟨l, same ▸ here, asked, Or.inl rfl, fun turn => absurd turn other⟩
  cases e with
  | asks =>
      rw [step, if_pos (by rw [waits]; rfl)]
      exact still rfl (by simp)
  | others =>
      rw [step]
      split <;> exact still rfl (by simp)
  | returns =>
      rw [step]
      split <;> exact still rfl (by simp)
  | works task' host =>
      rw [step]
      split
      · next nobody =>
          refine still rfl ?_
          rintro ⟨_, same⟩
          cases same
          rw [here] at nobody
          cases nobody
      · next l₀ found =>
          by_cases same : task' = task
          · subst same
            cases here.symm.trans found
            refine ⟨(l.step { host with system := p.system }).1, List.getElem?_set_self
              (List.getElem?_eq_some_iff.mp here).1, (l.stop_step _).trans asked, ?_, ?_⟩
            · cases ended : l.finalStats? with
              | none => exact Or.inr ⟨asked, ended, _, rfl⟩
              | some stats => exact Or.inl (congrArg Prod.fst (RunLoop.step_of_ended ended))
            · exact fun _ going => ⟨asked, going, _, rfl⟩
          · refine ⟨l, (List.getElem?_set_ne same).trans here, asked, Or.inl rfl, ?_⟩
            rintro ⟨_, mine⟩
            cases mine
            exact absurd rfl same

/-- The plant after the first events of a sequence. -/
def upTo (p : Plant κ ω) (events : Nat → PlantEvent ω) (k : Nat) : Plant κ ω :=
  p.run ((List.range k).map events)

theorem upTo_succ (p : Plant κ ω) (events : Nat → PlantEvent ω) (k : Nat) :
    p.upTo events (k + 1) = (p.upTo events k).step (events k) := by
  rw [upTo, List.range_succ, List.map_append, List.map_singleton, run_concat, upTo]

/-- **The events are fair** to a call that waits for some loops: each of the loops has its turn
again and again, and so does the call. -/
structure Fair (tasks : List Nat) (events : Nat → PlantEvent ω) : Prop where
  works : ∀ task ∈ tasks, ∀ k, ∃ d host, events (k + d) = .works task host
  returns : ∀ k, ∃ d, events (k + d) = .returns

section

variable {events : Nat → PlantEvent ω} {call : Awaited}

/-- A loop whose turn comes has gone on by then. By induction on how long that takes. -/
theorem exists_advances (waits : ∀ k, (p.upTo events k).awaited = some call) {task : Nat}
    {l : RunLoop κ ω} (asked : l.stop = true) (going : l.finalStats? = none) {host : Host ω}
    {k d : Nat} (here : (p.upTo events k).loops[task]? = some l)
    (turn : events (k + d) = .works task host) :
    ∃ j l', (p.upTo events j).loops[task]? = some l' ∧ l'.stop = true ∧ l'.Advances l := by
  induction d generalizing k with
  | zero =>
      obtain ⟨l', here', asked', -, onward⟩ := loop_step (waits k) here asked (events k)
      rw [← upTo_succ] at here'
      exact ⟨k + 1, l', here', asked', onward ⟨host, turn⟩ going⟩
  | succ d ih =>
      obtain ⟨l', here', asked', rfl | advances, -⟩ := loop_step (waits k) here asked (events k)
      · rw [← upTo_succ] at here'
        refine ih here' ?_
        rw [Nat.add_assoc, Nat.add_comm 1 d]
        exact turn
      · rw [← upTo_succ] at here'
        exact ⟨k + 1, l', here', asked', advances⟩

/-- **A loop that is waited for ends.** By induction on what can still come. -/
theorem exists_ended (waits : ∀ k, (p.upTo events k).awaited = some call) {task : Nat}
    (turns : ∀ k, ∃ d host, events (k + d) = .works task host) {l : RunLoop κ ω} {k : Nat}
    (here : (p.upTo events k).loops[task]? = some l) (asked : l.stop = true) :
    ∃ j l' stats, (p.upTo events j).loops[task]? = some l' ∧ l'.stop = true ∧
      l'.finalStats? = some stats := by
  have acc := l.acc_advances asked
  induction acc generalizing k with
  | intro l _ ih =>
      cases ended : l.finalStats? with
      | some stats => exact ⟨k, l, stats, here, asked, ended⟩
      | none =>
          obtain ⟨d, host, turn⟩ := turns k
          obtain ⟨j, l', here', asked', advances⟩ := exists_advances waits asked ended here turn
          exact ih l' advances here' asked'

/-- A loop that has ended stays so. -/
theorem ended_upTo (waits : ∀ k, (p.upTo events k).awaited = some call) {task j k : Nat}
    {stats : WorkerStats} {l : RunLoop κ ω} (later : j ≤ k)
    (here : (p.upTo events j).loops[task]? = some l) (asked : l.stop = true)
    (ended : l.finalStats? = some stats) : (p.upTo events k).loops[task]? = some l := by
  induction later with
  | refl => exact here
  | step _ ih =>
      obtain ⟨l', here', -, same | ⟨-, going, -⟩, -⟩ := loop_step (waits _) ih asked (events _)
      · rw [upTo_succ, here', same]
      · rw [ended] at going
        cases going

/-- All loops that are waited for have ended from some time on. By induction on the loops. -/
theorem exists_all_ended (sound : p.Sound n config)
    (waits : ∀ k, (p.upTo events k).awaited = some call) {tasks : List Nat}
    (asked : ∀ task ∈ tasks, task ∈ call.tasks)
    (turns : ∀ task ∈ tasks, ∀ k, ∃ d host, events (k + d) = .works task host) :
    ∃ j, ∀ k, j ≤ k → ∀ task ∈ tasks, ∃ stats, (p.upTo events k).finalStats? task = some stats := by
  induction tasks with
  | nil => exact ⟨0, fun _ _ _ mem => absurd mem List.not_mem_nil⟩
  | cons task rest ih =>
      obtain ⟨j, all⟩ := ih (fun t ht => asked t (List.mem_cons_of_mem _ ht))
        fun t ht => turns t (List.mem_cons_of_mem _ ht)
      have mem : task ∈ p.waitsFor := by
        have now : p.awaited = some call := waits 0
        rw [waitsFor, now]
        exact asked task List.mem_cons_self
      obtain ⟨l₀, first, asked₀⟩ := sound.asked task mem
      obtain ⟨j', l, stats, here, asked', ended⟩ :=
        exists_ended (k := 0) waits (turns task List.mem_cons_self) first asked₀
      refine ⟨max j j', fun k later t ht => ?_⟩
      rcases List.mem_cons.mp ht with rfl | ht
      · have after := Nat.le_trans (Nat.le_max_right j j') later
        have still := ended_upTo waits after here asked' ended
        exact ⟨stats, finalStats?_eq_some_iff.mpr ⟨l, still, ended⟩⟩
      · exact all k (Nat.le_trans (Nat.le_max_left j j') later) t ht

/-- **A call returns** at the event `k` of a sequence, having changed no slot and made no record
before. -/
structure ReturnsAt (p : Plant κ ω) (call : Awaited) (events : Nat → PlantEvent ω) (k : Nat) :
    Prop where
  event : events k = .returns
  group : (p.upTo events k).group = p.group
  log : (p.upTo events k).log = p.log
  answer : ∃ r, (p.upTo events k).Answers call r ∧
    p.upTo events (k + 1) = { p.upTo events k with awaited := none }.note r

/-- Up to any time, a call still waits, or it has returned. -/
theorem waits_or_returned (sound : p.Sound n config) (waits : p.awaited = some call) (k : Nat) :
    ((p.upTo events k).awaited = some call ∧ (p.upTo events k).group = p.group ∧
      (p.upTo events k).log = p.log) ∨ ∃ j, p.ReturnsAt call events j := by
  induction k with
  | zero => exact Or.inl ⟨waits, rfl, rfl⟩
  | succ k ih =>
      rcases ih with ⟨now, group, log⟩ | returned
      · have next := step_of_awaited (sound.run _) now (events k)
        rw [← upTo, ← upTo_succ] at next
        rcases next with ⟨still, group', log'⟩ | ⟨event, answer⟩
        · exact Or.inl ⟨still, group'.trans group, log'.trans log⟩
        · exact Or.inr ⟨k, event, group, log, answer⟩
      · exact Or.inr returned

/-- **A call that waits returns**, if the events are fair to it. -/
theorem exists_returnsAt (sound : p.Sound n config) (waits : p.awaited = some call)
    (fair : Fair call.tasks events) : ∃ k, p.ReturnsAt call events k := by
  by_contra never
  have always := fun k => ((waits_or_returned sound waits k).resolve_right never).1
  obtain ⟨j, ended⟩ := exists_all_ended sound always (fun _ mem => mem) fair.works
  -- when it is its turn after that, it does return
  obtain ⟨d, event⟩ := fair.returns j
  obtain ⟨r, result⟩ := exists_result? (ended (j + d) (Nat.le_add_right j d))
  have later := always (j + d + 1)
  rw [upTo_succ, event, step, always, Option.bind_some, result] at later
  cases later

end

/-! ## The slots of a group -/

/-- **What is true of a plant at any time.** -/
structure KeepsSlots (config : OutboxConfig) (p : Plant κ ω) : Prop where
  /-- there are as many slots as the settings say -/
  count : p.group.workerCount = config.workerCount
  /-- a slot is running exactly when the last successful call that concerned it was a start -/
  running : ∀ slot, p.group.isRunning slot = true ↔ slot < config.workerCount ∧
    ∃ call, GroupCall.lastOn slot p.accepted = some call ∧ call.isStart = true
  /-- a running slot holds a loop of its own worker, which nobody has asked to stop -/
  placed : ∀ slot task, p.group.handle? slot = some task →
    ∃ l, p.loops[task]? = some l ∧ l.stop = false ∧ l.worker = p.workerFor slot
  /-- no two slots hold the same loop -/
  once : ∀ slot slot' task, p.group.handle? slot = some task → p.group.handle? slot' = some task →
    slot = slot'
  /-- a call is refused, or does to the slots what is listed for it -/
  asked : p.awaited = none → ∀ call, p.Asked call (p.step (.asks call))
  /-- nothing but calls changes the slots -/
  still : ∀ e, (∀ call, e ≠ .asks call) → (p.step e).group = p.group
  /-- a call that waits for workers goes on waiting, or returns when they have stopped -/
  waits : ∀ call, p.awaited = some call → ∀ e,
    ((p.step e).awaited = some call ∧ (p.step e).group = p.group ∧ (p.step e).log = p.log) ∨
      e = .returns ∧ ∃ r, p.Answers call r ∧ p.step e = { p with awaited := none }.note r
  /-- and it returns at some time -/
  returns : ∀ call, p.awaited = some call → ∀ events, Fair call.tasks events →
    ∃ k, p.ReturnsAt call events k
  /-- a worker that is in no slot and is not waited for has stopped -/
  former : ∀ (task : Nat) l, p.loops[task]? = some l →
    (∀ slot, p.group.handle? slot ≠ some task) → task ∉ p.waitsFor →
    ∃ stats, l.HasStopped p.system stats
  /-- when a shutdown has returned, no slot is running, and every worker there ever was has
  stopped -/
  shutDown : p.awaited = none → p.log.getLast? = some .shutDown →
    (∀ slot, p.group.isRunning slot = false) ∧
      ∀ l ∈ p.loops, ∃ stats, l.HasStopped p.system stats

theorem group_step (p : Plant κ ω) {e : PlantEvent ω} (other : ∀ call, e ≠ .asks call) :
    (p.step e).group = p.group := by
  cases e with
  | asks call => exact absurd rfl (other call)
  | works | others | returns =>
      rw [step]
      split <;> rfl

namespace Sound

/-- A loop that is in no slot has ended, unless the call at hand waits for it. -/
theorem former_hasStopped (sound : p.Sound n config) {task : Nat} {l : RunLoop κ ω}
    (here : p.loops[task]? = some l) (out : ∀ slot, p.group.handle? slot ≠ some task)
    (unawaited : task ∉ p.waitsFor) : ∃ stats, l.HasStopped p.system stats := by
  cases stop : l.stop with
  | false =>
      obtain ⟨slot, inSlot⟩ := sound.running task l here stop
      exact absurd inSlot (out slot)
  | true =>
      have ended := (sound.former task l here stop).resolve_left unawaited
      obtain ⟨stats, ended⟩ := Option.isSome_iff_exists.mp ended
      exact ⟨stats, sound.hasStopped here ended⟩

end Sound

/-- After a shutdown no slot is running. -/
theorem Recorded.idle (recorded : p.Recorded) (free : p.awaited = none)
    (last : p.log.getLast? = some .shutDown) (slot : Nat) : p.group.isRunning slot = false := by
  rw [Bool.eq_false_iff]
  intro running
  obtain ⟨-, call, lastOn, start⟩ := (recorded slot).mp running
  obtain ⟨before, same⟩ := List.getLast?_eq_some_iff.mp last
  rw [accepted, free, same, List.filterMap_append] at lastOn
  have shut : GroupCall.lastOn slot (before.filterMap GroupReturn.accepted? ++ [.shutdown]) =
      some .shutdown := GroupCall.lastOn_concat slot _ .shutdown
  cases shut.symm.trans ((congrArg (GroupCall.lastOn slot) (List.append_nil _)).symm.trans lastOn)
  cases start

/-- **The slots of a group**, after any events: calls on the group with any numbers, workers that go
on in any order, and whatever others do. -/
theorem keeps_slots {i : StoreId} (hi : i.index < n) (config : OutboxConfig)
    (registry : Registry κ ω) (events : List (PlantEvent ω)) :
    ((new n config i registry).run events).KeepsSlots config := by
  have sound := (Sound.new hi config registry).run events
  have recorded := (recorded_new n config i registry).run events
  generalize (new n config i registry).run events = p at sound recorded ⊢
  refine
    { count := sound.count
      running := fun slot => sound.count ▸ recorded slot
      placed := sound.placed
      once := sound.once
      asked := fun free call => ?_
      still := fun e other => group_step p other
      waits := fun call waits e => step_of_awaited sound waits e
      returns := fun call waits events fair => exists_returnsAt sound waits fair
      former := fun task l here out unawaited => sound.former_hasStopped here out unawaited
      shutDown := fun free last => ?_ }
  · rw [step, free]
    exact p.asked call
  · have idle := recorded.idle free last
    refine ⟨idle, fun l mem => ?_⟩
    obtain ⟨task, here⟩ := List.mem_iff_getElem?.mp mem
    refine sound.former_hasStopped here (fun slot inSlot => ?_) ?_
    · rw [WorkerGroup.isRunning_eq_false_iff.mp (idle slot)] at inSlot
      cases inSlot
    · rw [waitsFor, free]
      exact List.not_mem_nil

end Plant

/-! ## A gatehouse

A group with one slot, whose workers report that doors open and cannot report that they close.
-/

namespace Door

/-- The settings of the group. -/
def oneSlot : OutboxConfig :=
  { workerCount := 1, batchSize := 1 }

/-- The group before anything happens. -/
def gatehouse : Plant Door Unit :=
  .new 1 oneSlot ⟨0⟩ porter.registry

/-- A loop goes on for a while. -/
def goesOn (task times : Nat) : List (PlantEvent Unit) :=
  List.replicate times (.works task (host []))

/-- A worker is stopped while it has the second message in hand, and another one as soon as it was
started. -/
def shift : List (PlantEvent Unit) :=
  given.map PlantEvent.others ++ [.asks (.start 0), .asks (.start 0), .asks (.stop 1)] ++
    goesOn 0 21 ++ [.asks (.stop 0), .returns] ++ goesOn 0 7 ++ [.returns] ++
    [.asks .startAll, .asks .shutdown] ++ goesOn 1 4 ++ [.returns]

end Door

/-- Of the calls on the gatehouse, two are refused, and the stop returns what the first worker has
counted when it is through with the second message. -/
theorem Plant.keeps_slots_shift :
    (Door.gatehouse.run Door.shift).log =
        [.started 0 (.ok ()), .started 0 (.error (.alreadyRunning 0)),
          .stopped 1 (.error (.unknownWorker 1 1)),
          .stopped 0 (.ok (some
            { batches := 1, messagesProcessed := 1, infrastructureErrors := 1 })),
          .startedAll 1, .shutDown] ∧
      (Door.gatehouse.run Door.shift).KeepsSlots Door.oneSlot :=
  ⟨by decide +kernel, Plant.keeps_slots (by decide) Door.oneSlot Door.porter.registry Door.shift⟩

end MaintenanceOutbox
