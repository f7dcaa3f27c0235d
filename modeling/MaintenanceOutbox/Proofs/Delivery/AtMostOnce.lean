import MaintenanceOutbox.Proofs.Delivery.Tally

set_option autoImplicit false

/-! # Every message is delivered at most once

The main result about workers: `Fleet.atMostOnce_run`. Workers, producers and operators share a
store, and move in any order, one call at a time. If handlers touch stores only by adding messages,
if no name is added twice and what is added is new, then `Fleet.AtMostOnce` holds after every run.

The two invariants behind it are kept by every move: the workers are at points of their deliveries
(`Fleet.Course`), and the journal agrees with the tables (`View.Tally`).
-/

namespace MaintenanceOutbox

/-- Where there is a message, there is a transaction. -/
theorem Point.tx?_of_message? {ω : Type} {point : Point ω} {m : QueuedMessage}
    (h : point.message? = some m) : ∃ tx, point.tx? = some tx := by
  cases point with
  | starting | beginning | claiming | resting | leaving | succeeded | ended => cases h
  | taking tx | guarding tx | handling tx | keeping tx | marking tx | storing tx | failing tx
  | undoing tx | counting tx | recording tx | yielding tx | yielded tx => exact ⟨tx, rfl⟩

/-- **What a worker's call changes in the tables**: the message that it settles, and others only by
a delivery that succeeds. -/
theorem View.Worked.tables {v : View} (inv : v.Sound) {k : Nat} {e : Happening} {noted : List Entry}
    (worked : v.Worked k e noted) (x : MessageId) :
    ((v.step e).store.row? x = v.store.row? x ∧
        (v.step e).store.deadLetter? x = v.store.deadLetter? x) ∨
      ∃ outcome, noted = [.settled k outcome] ∧
        (outcome.id = x ∨ ∃ handlers, outcome = .processed outcome.id handlers) := by
  cases worked with
  | quiet e quiet => exact Or.inl (v.tables_of_quiet quiet x)
  | hands e m quiet holds => exact Or.inl (v.tables_of_quiet quiet x)
  | delivers h tx m handlers now opened delivers holds =>
      exact Or.inr ⟨_, rfl, Or.inr ⟨handlers, rfl⟩⟩
  | fails h m outcome updated dead opened fails holds =>
      by_cases here : m.id = x
      · refine Or.inr ⟨_, rfl, Or.inl ?_⟩
        cases outcome <;> exact here
      · -- the transaction has written about its own message only
        have free : x ∉ [m.id] := by
          rw [List.mem_singleton]
          exact fun same => here same.symm
        have foreign : ¬ (⟨⟨[], updated, dead⟩, some {}, [m.id]⟩ : Tx).Carries x := by
          rintro (new | ⟨buried, -⟩)
          · cases new
          · obtain ⟨d, hd, rfl⟩ := List.mem_map.mp buried
            cases fails with
            | retried error => cases hd
            | deadLettered error now =>
                rw [List.mem_singleton.mp hd] at here
                exact here rfl
        rw [View.step, opened]
        exact Or.inl (inv.commit_frame opened free foreign)

namespace Fleet

variable {κ ω : Type} [EventFamily κ] {n : Nat} {f : Fleet κ ω n}

/-- **What holds of a fleet at any time.** -/
structure AtMostOnce (f : Fleet κ ω n) : Prop where
  /-- after a delivery, its message is not handed to handlers and not delivered again -/
  final : f.journal.Pairwise Entry.Final
  /-- the retry count of a message is the number of its failures -/
  rows : ∀ id r, f.view.store.row? id = some r →
    r.message.retryCount.toNat = Entry.failures id f.journal
  deadLetters : ∀ id d, f.view.store.deadLetter? id = some d →
    d.message.retryCount.toNat = Entry.failures id f.journal
  /-- no two workers are delivering the same message -/
  exclusive : ∀ k l m m', (f.crew k).held = some m → (f.crew l).held = some m' →
    m.id = m'.id → k = l
  /-- a worker changes the tables only by settling a message; if the delivery failed, it changes
  nothing about other messages -/
  undone : ∀ k now name x,
    ((f.work k now name).view.store.row? x = f.view.store.row? x ∧
        (f.work k now name).view.store.deadLetter? x = f.view.store.deadLetter? x) ∨
      ∃ outcome, (f.work k now name).journal = f.journal ++ [.settled k outcome] ∧
        (outcome.id = x ∨ ∃ handlers, outcome = .processed outcome.id handlers)

/-- The names that were given to `add` so far. -/
def given (f : Fleet κ ω n) : List MessageId :=
  (Call.added f.store f.calls).map (·.id)

/-! ## The invariants along a run -/

/-- Before their first deliveries, the workers are at their points. -/
theorem course_launch {stores : Nat} {i : StoreId} {workers : Fin n → Worker κ ω}
    (store : ∀ k, (workers k).store = i) (adds : ∀ k, (workers k).registry.AddsOnly) :
    (launch stores i workers).Course fun _ => .starting where
  store := store
  adds := adds
  rest _ := rfl
  held _ := rfl
  fits _ _ hk := nomatch hk
  apart _ _ _ hk := nomatch hk
  ours _ _ hk := nomatch hk
  begun _ hh := absurd hh List.not_mem_nil
  producing _ hh := absurd hh List.not_mem_nil

/-- In empty tables there is nothing to disagree about. -/
theorem tally_launch {stores : Nat} {i : StoreId} (hi : i.index < stores)
    (workers : Fin n → Worker κ ω) :
    (launch stores i workers).view.Tally [] (launch stores i workers).given := by
  have empty : (launch stores i workers).view = .empty := System.view_ofSize hi
  rw [empty]
  refine ⟨?_, ?_, ?_, List.Pairwise.nil⟩
  · intro x
    refine ⟨?_, ?_, ?_⟩
    · intro r found
      cases found
    · intro d found
      cases found
    · intro e he
      cases he
  · intro e he
    cases he
  · intro e he
    cases he

section

variable {stores : Nat} {i : StoreId} {workers : Fin n → Worker κ ω} {moves : List (Move n)}

/-- What is known about the store after a run. -/
theorem sound_run (hi : i.index < stores)
    (once : Call.AddsOnce i ((launch stores i workers).run moves).calls) :
    ((launch stores i workers).run moves).system.Orderly ∧
      i.index < ((launch stores i workers).run moves).system.stores.length ∧
      ((launch stores i workers).run moves).view.Sound := by
  obtain ⟨system, store⟩ := system_run stores i workers moves
  refine ⟨?_, ?_, ?_⟩
  · rw [system]
    exact System.orderly_run (System.orderly_ofSize stores) _
  · rw [system]
    exact System.index_lt_run hi _
  · rw [view, store, system]
    exact System.sound_run hi once

/-- **Both invariants hold after every run.** -/
theorem invariants_run (hi : i.index < stores) (store : ∀ k, (workers k).store = i)
    (adds : ∀ k, (workers k).registry.AddsOnly)
    (once : Call.AddsOnce i ((launch stores i workers).run moves).calls)
    (new : ∀ m ∈ Call.added i ((launch stores i workers).run moves).calls, m.IsNew) :
    (∃ point, ((launch stores i workers).run moves).Course point) ∧
      ((launch stores i workers).run moves).view.Tally ((launch stores i workers).run moves).journal
        ((launch stores i workers).run moves).given := by
  induction moves using List.reverseRecOn with
  | nil => exact ⟨⟨_, course_launch store adds⟩, tally_launch hi workers⟩
  | append_singleton before move ih =>
      rw [run_concat] at once new ⊢
      -- what holds of the calls so far holds of the calls before the move
      obtain ⟨made, calls, -⟩ := step_calls ((launch stores i workers).run before) move
      have onceBefore : Call.AddsOnce i ((launch stores i workers).run before).calls := by
        rw [calls] at once
        exact once.of_append
      have newBefore :
          ∀ m ∈ Call.added i ((launch stores i workers).run before).calls, m.IsNew := by
        intro m hm
        refine new m ?_
        rw [calls, Call.added_append]
        exact List.mem_append_left _ hm
      obtain ⟨⟨point, course⟩, tally⟩ := ih onceBefore newBefore
      obtain ⟨orderly, inside, inv⟩ := sound_run hi onceBefore
      obtain ⟨system, home⟩ := system_run stores i workers before
      set f := (launch stores i workers).run before
      rw [← home] at once new inside
      obtain ⟨next, e, noted, does, moved⟩ := course.step inv orderly inside move new
      refine ⟨next, ?_⟩
      have longer : (f.step move).given = f.given ++ e.added?.toList.map (·.id) := by
        rw [given, does.store, does.added, List.map_append]
        rfl
      rw [does.view, does.journal]
      refine tally.step inv moved ?_ ?_ ?_
      · -- what is stored was given to `add`
        intro x stored
        have traced := System.traced_run hi f.calls
        rw [← system, ← home] at traced
        have known := traced.given_of_stored stored
        rw [List.map_map] at known
        exact known
      · rw [longer]
        exact List.subset_append_left _ _
      · -- the new name is in the list of all names once
        intro m added here
        rw [Call.AddsOnce, does.added, List.map_append, added] at once
        exact (List.nodup_append.mp once).2.2 m.id here m.id (List.mem_singleton.mpr rfl) rfl

/-- **Every message is delivered at most once**, its failures are counted exactly, and no two
workers deliver it at the same time: after any moves of any workers, producers and operators on a
store. -/
theorem atMostOnce_run (hi : i.index < stores) (store : ∀ k, (workers k).store = i)
    (adds : ∀ k, (workers k).registry.AddsOnly)
    (once : Call.AddsOnce i ((launch stores i workers).run moves).calls)
    (new : ∀ m ∈ Call.added i ((launch stores i workers).run moves).calls, m.IsNew) :
    ((launch stores i workers).run moves).AtMostOnce := by
  obtain ⟨⟨point, course⟩, tally⟩ := invariants_run hi store adds once new
  obtain ⟨orderly, inside, inv⟩ := sound_run hi once
  obtain ⟨-, home⟩ := system_run stores i workers moves
  set f := (launch stores i workers).run moves
  refine ⟨tally.final, fun id => (tally.agrees id).row, fun id => (tally.agrees id).deadLetter,
    ?_, ?_⟩
  · intro k l m m' hk hl same
    rw [course.held] at hk hl
    obtain ⟨g, hg⟩ := Point.tx?_of_message? hk
    obtain ⟨h, hh⟩ := Point.tx?_of_message? hl
    obtain ⟨tx, opened, fits⟩ := course.fits k g hg
    obtain ⟨ux, opened', fits'⟩ := course.fits l h hh
    -- both hold the lock of the message, so that they are the same transaction
    have held := fits.locked hk
    have held' := fits'.locked hl
    rw [← same] at held'
    have one : g = h := inv.locking.apart g h tx ux m.id opened opened' held held'
    exact course.apart k l g hg (one ▸ hh)
  · intro k now name x
    rw [← home] at inside
    obtain ⟨e, noted, does, worked⟩ := course.worked orderly inside k now name
    rw [does.view, does.journal]
    rcases worked.tables inv x with same | ⟨outcome, rfl, settled⟩
    · exact Or.inl same
    · exact Or.inr ⟨outcome, rfl, settled⟩

end

/-! ## A run of two workers

One worker delivers a message, whose handler adds another one, while the other worker finds the
first message locked. Then it gets the new message and fails, as there is no route for it.
-/

/-- An event type that tells nothing. -/
inductive Ping where
  | ping
deriving DecidableEq

instance : EventFamily Ping where
  decEq := inferInstance
  Body _ := Unit
  typeName _ := "Ping"
  tags _ := ["ping"]
  tag _ _ := "ping"
  occurredAt _ now _ := now
  write _ _ := .ok .null
  read _ _ := .ok ()

/-- A handler that answers with a message of its own. -/
def echo : Handler Ping (DeferredM Unit) where
  kind := .ping
  handle _ := do
    let id ← ExceptT.lift TxProgram.freshId
    let added ← ExceptT.lift (TxProgram.request ⟨0⟩ (.add (.fresh id default "pong" .null)))
    match added with
    | .ok () => pure ()
    | .error e => throw (.failed e.message)

/-- A worker with this handler. -/
def echoing : Worker Ping Unit where
  name := "echo"
  store := ⟨0⟩
  registry := ⟨[{ tag := "ping", owner := .ping, deferred := [echo] }]⟩
  batchSize := 1
  pollMs := 0

/-- The fleet after the run. -/
def echoed : Fleet Ping Unit 2 :=
  let next (k : Fin 2) : Move 2 := .work k default ⟨.ofNat 1⟩
  (launch 1 ⟨0⟩ fun _ => echoing).run <|
    [.produce, .add default ⟨0⟩ (.fresh default default "ping" .null), .commit ⟨0⟩] ++
      List.replicate 4 (next 0) ++ List.replicate 6 (next 1) ++ List.replicate 9 (next 0) ++
      List.replicate 10 (next 1)

theorem atMostOnce_run_echoed : echoed.AtMostOnce ∧ echoed.journal =
    [.handed 0 default, .settled 0 (.processed default 1), .handed 1 ⟨.ofNat 1⟩,
      .settled 1 (.retried ⟨.ofNat 1⟩ 1)] := by
  have adds : echoing.registry.AddsOnly := by
    intro route hroute h hh body
    rw [List.mem_singleton.mp hroute] at hh
    rw [List.mem_singleton.mp hh]
    refine ⟨trivial, fun id => ⟨trivial, fun added => ?_⟩⟩
    cases added <;> trivial
  refine ⟨atMostOnce_run (by decide) (fun _ => rfl) (fun _ => adds) ?_ ?_, rfl⟩
  · show Call.AddsOnce ⟨0⟩ echoed.calls
    decide
  · show ∀ m ∈ Call.added ⟨0⟩ echoed.calls, m.IsNew
    decide

end Fleet

end MaintenanceOutbox
