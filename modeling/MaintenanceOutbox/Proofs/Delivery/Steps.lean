import MaintenanceOutbox.Proofs.Delivery.Deeds

set_option autoImplicit false

/-! # What a move of a fleet does

`Fleet.Course.step` follows every move of a fleet. The workers stay at points of their deliveries,
one thing happens to the store, and that thing is one of those that `View.Moved` lists, together
with what is noted of it. The invariants about messages look at this list only, and not at programs
any more.
-/

namespace MaintenanceOutbox

namespace View

/-- **What a move of a fleet can do** to the store, and what is noted of it. -/
inductive Moved (v : View) : Happening → List Entry → Prop where
  /-- a worker makes a call -/
  | works (k : Nat) (e : Happening) (noted : List Entry) (worked : v.Worked k e noted) :
      Moved v e noted
  /-- a producer does something, but does not commit -/
  | quiet (e : Happening) (quiet : e.Quiet) : Moved v e []
  | produces (h : TxHandle) (produces : ∀ tx, v.tx h = some tx → tx.Produces) :
      Moved v (.commits h) []
  | requeues (id : MessageId) (m : QueuedMessage) (st : Store)
      (done : v.store.requeue id = .ok (m, st)) : Moved v (.requeues id) [.requeued id]
  | refuses (id : MessageId) (e : StoreError) (refused : v.store.requeue id = .error e) :
      Moved v (.requeues id) []
  | deletes (id : MessageId) : Moved v (.deletes id) []
  | purges (cutoff : Timestamp) : Moved v (.purges cutoff) []

end View

/-- What is added by two runs, one after the other. -/
@[simp] theorem Call.added_append {i : StoreId} (before after : List Call) :
    added i (before ++ after) = added i before ++ added i after :=
  List.filterMap_append

namespace Fleet

variable {κ ω : Type} [EventFamily κ] {n : Nat} {f f' : Fleet κ ω n} {point : Fin n → Point ω}

/-- One thing happens to the fleet's store, and something is noted of it. -/
structure Does (f f' : Fleet κ ω n) (e : Happening) (noted : List Entry) : Prop where
  store : f'.store = f.store
  view : f'.view = f.view.step e
  added : Call.added f.store f'.calls = Call.added f.store f.calls ++ e.added?.toList
  journal : f'.journal = f.journal ++ noted

/-- Nothing has to happen. -/
theorem Does.nothing (store : f'.store = f.store) (system : f'.system = f.system)
    (calls : f'.calls = f.calls) (journal : f'.journal = f.journal) : f.Does f' .nothing [] := by
  refine ⟨store, ?_, ?_, ?_⟩
  · show f'.system.view f'.store = f.system.view f.store
    rw [store, system]
  · simp [calls, Happening.added?]
  · simp [journal]

/-! ## Producers and operators -/

/-- A call that is noted with `noted`. -/
theorem call_does (orderly : f.system.Orderly) (hi : f.store.index < f.system.stores.length)
    (c : Call) {noted : List Entry} (store : f'.store = f.store)
    (system : f'.system = f.system.step c) (calls : f'.calls = f.calls ++ [c])
    (journal : f'.journal = f.journal ++ noted) : f.Does f' (c.seenFrom f.store) noted := by
  refine ⟨store, ?_, ?_, journal⟩
  · show f'.system.view f'.store = _
    rw [store, system]
    exact System.view_step orderly hi c
  · rw [calls, Call.added_append, Call.added_singleton]

/-- A call that is a producer's or an operator's keeps the workers at their points. -/
theorem Course.of_call (course : f.Course point) (inv : f.view.Sound) (orderly : f.system.Orderly)
    (hi : f.store.index < f.system.stores.length) {c : Call} {e : Happening}
    (seen : c.seenFrom f.store = e) (theirs : ∀ h, e.On h → h ∈ f.producers)
    (adds : e.AddsNew) (moved : f.view.Moved e []) :
    (∃ point', (f.call c).Course point') ∧
      ∃ e noted, f.Does (f.call c) e noted ∧ f.view.Moved e noted := by
  have does : f.Does (f.call c) e [] := by
    rw [← seen]
    exact call_does orderly hi c rfl rfl rfl (by simp [call])
  refine ⟨⟨point, ?_⟩, e, [], does, moved⟩
  exact course.of_others inv rfl rfl does.view theirs (fun h here => Or.inl here) adds

/-- **A call of a producer** is made if it is on a transaction of its own. -/
theorem Course.of_producer (course : f.Course point) (inv : f.view.Sound)
    (orderly : f.system.Orderly) (hi : f.store.index < f.system.stores.length) {tx : TxHandle}
    {c : Call} {e : Happening} (seen : c.seenFrom f.store = e) (own : ∀ h, e.On h → tx = h)
    (adds : tx ∈ f.producers → e.AddsNew) (moved : tx ∈ f.producers → f.view.Moved e []) :
    (∃ point', (if tx ∈ f.producers then f.call c else f).Course point') ∧
      ∃ e noted, f.Does (if tx ∈ f.producers then f.call c else f) e noted ∧
        f.view.Moved e noted := by
  by_cases mine : tx ∈ f.producers
  · rw [if_pos mine]
    refine course.of_call inv orderly hi seen ?_ (adds mine) (moved mine)
    intro h on
    exact own h on ▸ mine
  · rw [if_neg mine]
    exact ⟨⟨point, course⟩, .nothing, [], .nothing rfl rfl rfl rfl, .quiet _ trivial⟩

/-! ## Workers -/

/-- What answers a worker. -/
def host (f : Fleet κ ω n) (now : Timestamp) (name : MessageId) : Host ω :=
  { system := f.system, clock := now, names := fun _ => name }

/-- A worker that is done starts again. -/
theorem work_done {k : Fin n} {result : Worker.Result} (rest : (f.crew k).rest = .done result)
    (now : Timestamp) (name : MessageId) :
    f.work k now name = { f with
      crew := Function.update f.crew k
        { f.crew k with rest := (f.crew k).worker.processNext } } := by
  unfold work
  dsimp only
  rw [rest]

section Call

variable {k : Fin n} {op : OutboxOp ω} {next : op.Reply → OutboxProgram ω Worker.Result}
  (rest : (f.crew k).rest = .call op next) {now : Timestamp} {name : MessageId}
include rest

/-- A worker that has a call to make gets an answer. -/
theorem work_call {reply : op.Reply}
    (answered : (Host.answer op (f.host now name)).1 = some reply) :
    f.work k now name = { f with
      system := (Host.answer op (f.host now name)).2.system
      crew := Function.update f.crew k
        { f.crew k with
          rest := next reply
          held := Member.heldAfter (f.crew k).held op reply }
      calls := f.calls ++ op.calls now
      journal := f.journal ++ Member.noted k (f.crew k).held (next reply) op reply } := by
  have answered' : Host.answer op (f.host now name) =
      (some reply, (Host.answer op (f.host now name)).2) := Prod.ext answered rfl
  unfold work
  dsimp only
  rw [rest]
  dsimp only
  rw [← host, answered']

/-- Or the call breaks off, and it starts again. -/
theorem work_broken (broken : (Host.answer op (f.host now name)).1 = none) :
    f.work k now name = { f with
      system := (Host.answer op (f.host now name)).2.system
      crew := Function.update f.crew k
        { f.crew k with rest := (f.crew k).worker.processNext, held := none }
      calls := f.calls ++ (op.calls now ++ op.dropCalls) } := by
  have broken' : Host.answer op (f.host now name) =
      (none, (Host.answer op (f.host now name)).2) := Prod.ext broken rfl
  unfold work
  dsimp only
  rw [rest]
  dsimp only
  rw [← host, broken']

/-- What happens when a worker gets an answer. -/
theorem work_does (orderly : f.system.Orderly) (hi : f.store.index < f.system.stores.length)
    {reply : op.Reply} (answered : (Host.answer op (f.host now name)).1 = some reply) :
    f.Does (f.work k now name) (op.seenFrom f.store now)
      (Member.noted k (f.crew k).held (next reply) op reply) := by
  rw [work_call rest answered]
  refine ⟨rfl, ?_, ?_, rfl⟩
  · exact Host.view_answer (h := f.host now name) orderly hi answered
  · simp [Call.added_append, OutboxOp.added_calls]

end Call

/-- A worker without a call to make holds nothing. -/
theorem Course.idle (course : f.Course point) {k : Fin n} {result : Worker.Result}
    (here : (point k).node (f.crew k).worker = .inl result) : (f.crew k).held = none := by
  rw [course.held]
  cases at' : point k <;> rw [at'] at here <;> cases here
  rfl

/-- **What a move of a worker does** is what a worker's call can do. -/
theorem Course.worked (course : f.Course point) (orderly : f.system.Orderly)
    (hi : f.store.index < f.system.stores.length) (k : Fin n) (now : Timestamp) (name : MessageId) :
    ∃ e noted, f.Does (f.work k now name) e noted ∧ f.view.Worked k e noted := by
  have rest := (course.rest k).trans (Point.program_eq_node (f.crew k).worker (point k))
  cases here : (point k).node (f.crew k).worker with
  | inl result =>
      rw [here] at rest
      refine ⟨.nothing, [], ?_, .quiet _ trivial⟩
      rw [work_done rest]
      exact .nothing rfl rfl rfl rfl
  | inr node =>
      rw [here] at rest
      obtain ⟨reply, answered⟩ := Point.exists_answer (course.store k) (f.host now name)
        orderly hi (course.fits k) here
      have worked := Point.worked k (course.store k) (course.fits k) here (f.host now name) rfl
        answered
      exact ⟨_, _, work_does rest orderly hi answered, course.held k ▸ worked⟩

/-- **A move of a worker** leads it to another point. -/
theorem Course.work (course : f.Course point) (inv : f.view.Sound) (orderly : f.system.Orderly)
    (hi : f.store.index < f.system.stores.length) (k : Fin n) (now : Timestamp) (name : MessageId)
    (new : ∀ m ∈ Call.added f.store (f.work k now name).calls, m.IsNew) :
    ∃ point', (f.work k now name).Course point' := by
  have rest := (course.rest k).trans (Point.program_eq_node (f.crew k).worker (point k))
  cases here : (point k).node (f.crew k).worker with
  | inl result =>
      have idle := course.idle here
      rw [here] at rest
      refine ⟨Function.update point k .starting, ?_⟩
      rw [work_done rest]
      refine course.of_work (e := .nothing) inv rfl rfl rfl ?_ ?_ ?_ ?_ ?_ ?_
      · intro l other
        exact Function.update_of_ne other _ _
      · simp
      · simp [Point.program]
      · simp [Point.message?, idle]
      · intro h on
        exact on.elim
      · intro h hh
        cases hh
  | inr node =>
      rw [here] at rest
      obtain ⟨reply, answered⟩ := Point.exists_answer (course.store k) (f.host now name)
        orderly hi (course.fits k) here
      have does := work_does rest orderly hi answered
      have addsNew : ∀ c ∈ node.op.calls now, ∀ x, (c.seenFrom f.store).added? = some x →
          x.IsNew := by
        intro c hc x hx
        refine new x ?_
        rw [work_call rest answered, Call.added_append]
        exact List.mem_append_right _ (List.mem_filterMap.mpr ⟨c, hc, hx⟩)
      have turned := Point.turn (course.adds k) (course.store k) orderly hi inv (course.fits k) here
        (f.host now name) rfl addsNew answered
      -- what is left is the program of the point that the answer leads to
      refine ⟨Function.update point k (node.next reply), ?_⟩
      rw [work_call rest answered] at does ⊢
      refine course.of_work inv does.store does.view rfl ?_ ?_ ?_ ?_ ?_ turned
      · intro l other
        exact Function.update_of_ne other _ _
      · simp
      · simp
      · have fits : ∀ h, (point k).tx? = some h → ∃ tx, (point k).Fits f.view.store tx := by
          intro h hh
          obtain ⟨tx, -, fit⟩ := course.fits k h hh
          exact ⟨tx, fit⟩
        have held := Point.heldAfter_next here fits reply
        simpa [course.held k] using held
      · intro h on
        exact Point.own_tx here on

/-! ## All moves -/

/-- **A move of the fleet**: the workers stay at points of their deliveries, and one of the things
happens that can. -/
theorem Course.step (course : f.Course point) (inv : f.view.Sound) (orderly : f.system.Orderly)
    (hi : f.store.index < f.system.stores.length) (move : Move n)
    (new : ∀ m ∈ Call.added f.store (f.step move).calls, m.IsNew) :
    (∃ point', (f.step move).Course point') ∧
      ∃ e noted, f.Does (f.step move) e noted ∧ f.view.Moved e noted := by
  cases move with
  | work k now name =>
      obtain ⟨e, noted, does, worked⟩ := course.worked orderly hi k now name
      exact ⟨course.work inv orderly hi k now name new, e, noted, does, .works k e noted worked⟩
  | produce =>
      have seen : (Call.beginTx f.store).seenFrom f.store = .begins := if_pos rfl
      have does : f.Does (f.step .produce) .begins [] := by
        rw [← seen]
        exact call_does orderly hi (.beginTx f.store) rfl rfl rfl (by simp [Fleet.step, call])
      refine ⟨⟨point, ?_⟩, .begins, [], does, .quiet _ trivial⟩
      refine course.of_others inv rfl rfl does.view (fun _ on => on.elim) ?_ trivial
      -- the producer gets the handle that was not used before
      intro h here
      rcases List.mem_append.mp here with old | begun
      · exact Or.inl old
      · exact Or.inr ⟨rfl, List.mem_singleton.mp begun⟩
  | add now tx m =>
      have seen : (Call.request now f.store tx (.add m)).seenFrom f.store =
          .requests now tx (.add m) := if_pos rfl
      refine course.of_producer inv orderly hi seen (fun _ on => on) ?_ fun _ => .quiet _ trivial
      intro mine
      have after : f.step (.add now tx m) = f.call (.request now f.store tx (.add m)) := if_pos mine
      refine ⟨m, new m ?_, rfl⟩
      rw [after]
      simp [call, Call.added_singleton, seen, Happening.added?]
  | commit tx =>
      have seen : (Call.commit f.store tx).seenFrom f.store = .commits tx := if_pos rfl
      exact course.of_producer inv orderly hi seen (fun _ on => on) (fun _ => trivial)
        fun mine => .produces tx (course.producing tx mine)
  | rollback tx =>
      have seen : (Call.rollback f.store tx).seenFrom f.store = .releases tx := rfl
      exact course.of_producer inv orderly hi seen (fun _ on => on) (fun _ => trivial)
        fun _ => .quiet _ trivial
  | drop tx =>
      have seen : (Call.drop tx).seenFrom f.store = .releases tx := rfl
      exact course.of_producer inv orderly hi seen (fun _ on => on) (fun _ => trivial)
        fun _ => .quiet _ trivial
  | requeue id =>
      have seen : (Call.requeue f.store id).seenFrom f.store = .requeues id := if_pos rfl
      -- the journal looks at the answer of the system, `View.step` at the store
      have answer : (f.system.requeue f.store id).1 = (f.view.store.requeue id).map (·.1) := by
        show _ = ((f.system.store f.store).requeue id).map (·.1)
        unfold System.requeue
        split <;> simp [*, Except.map]
      cases done : f.view.store.requeue id with
      | error e =>
          have after : f.step (.requeue id) = f.call (.requeue f.store id) := by
            simp only [Fleet.step, answer, done, Except.map]
          rw [after]
          exact course.of_call inv orderly hi seen (fun _ on => on.elim) trivial
            (.refuses id e done)
      | ok p =>
          have after : f.step (.requeue id) = { f.call (.requeue f.store id) with
              journal := f.journal ++ [.requeued id] } := by
            simp only [Fleet.step, answer, done, Except.map]
          rw [after]
          have does : f.Does { f.call (.requeue f.store id) with
              journal := f.journal ++ [.requeued id] } (.requeues id) [.requeued id] := by
            rw [← seen]
            exact call_does orderly hi (.requeue f.store id) rfl rfl rfl rfl
          refine ⟨⟨point, ?_⟩, .requeues id, [.requeued id], does, .requeues id p.1 p.2 done⟩
          exact course.of_others inv rfl rfl does.view (fun _ on => on.elim)
            (fun _ here => Or.inl here) trivial
  | deleteDeadLetter id =>
      have seen : (Call.deleteDeadLetter f.store id).seenFrom f.store = .deletes id := if_pos rfl
      exact course.of_call inv orderly hi seen (fun _ on => on.elim) trivial (.deletes id)
  | purge cutoff =>
      have seen : (Call.purge f.store cutoff).seenFrom f.store = .purges cutoff := if_pos rfl
      exact course.of_call inv orderly hi seen (fun _ on => on.elim) trivial (.purges cutoff)

theorem run_concat (f : Fleet κ ω n) (before : List (Move n)) (move : Move n) :
    f.run (before ++ [move]) = (f.run before).step move :=
  List.foldl_concat _ _ _ _

/-- Every move makes some calls, and the system is what they make of it. -/
theorem step_calls (f : Fleet κ ω n) (move : Move n) :
    ∃ made, (f.step move).calls = f.calls ++ made ∧ (f.step move).system = f.system.run made ∧
      (f.step move).store = f.store := by
  have called : ∀ c, ∃ made, (f.call c).calls = f.calls ++ made ∧
      (f.call c).system = f.system.run made ∧ (f.call c).store = f.store :=
    fun c => ⟨[c], rfl, rfl, rfl⟩
  have same : ∃ made,
      f.calls = f.calls ++ made ∧ f.system = f.system.run made ∧ f.store = f.store :=
    ⟨[], (List.append_nil _).symm, rfl, rfl⟩
  cases move with
  | work k now name =>
      have after : f.step (.work k now name) = f.work k now name := rfl
      rw [after]
      cases rest : (f.crew k).rest with
      | done result =>
          rw [work_done rest]
          exact same
      | call op next =>
          cases answered : (Host.answer op (f.host now name)).1 with
          | some reply =>
              rw [work_call rest answered]
              exact ⟨op.calls now, rfl, Host.system_answer answered, rfl⟩
          | none =>
              rw [work_broken rest answered]
              exact ⟨op.calls now ++ op.dropCalls, rfl, Host.system_answer_none answered, rfl⟩
  | produce => exact called (.beginTx f.store)
  | add now tx m | commit tx | rollback tx | drop tx =>
      unfold step
      dsimp only
      split
      · exact called _
      · exact same
  | requeue id =>
      unfold step
      dsimp only
      split
      · exact called _
      · exact called _
  | deleteDeadLetter id => exact called _
  | purge cutoff => exact called _

/-- **The fleet's system is the one after its calls.** -/
theorem system_run (stores : Nat) (i : StoreId) (workers : Fin n → Worker κ ω)
    (moves : List (Move n)) :
    ((launch stores i workers).run moves).system =
        (System.ofSize stores).run ((launch stores i workers).run moves).calls ∧
      ((launch stores i workers).run moves).store = i := by
  induction moves using List.reverseRecOn with
  | nil => exact ⟨rfl, rfl⟩
  | append_singleton before move ih =>
      obtain ⟨made, calls, system, store⟩ := step_calls ((launch stores i workers).run before) move
      rw [run_concat, calls, system, store, System.run_append, ← ih.1]
      exact ⟨rfl, ih.2⟩

end Fleet

end MaintenanceOutbox
