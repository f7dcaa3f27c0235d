import MaintenanceOutbox.Proofs.Delivery.Connectivity
import MaintenanceOutbox.Proofs.Delivery.Draining
import MaintenanceOutbox.Proofs.Delivery.Effect
import MaintenanceOutbox.Proofs.Delivery.Turns
import MaintenanceOutbox.Proofs.Store.Ageing

set_option autoImplicit false

/-! # One delivery after the other

A worker that is alone claims a row, does with it what its handlers lead to, and claims the next
one. Between two claims rows age (`Worker.processNext_ages`), and as they keep their turns, and none
may be claimed that could not be claimed before, what was first and still waits is first again. So
the claims go up in turns, the attempts at one message follow each other, and no message is claimed
while an older one may be claimed (`Worker.InOrder`). A delivery that breaks off leaves the tables
as they were.
-/

namespace MaintenanceOutbox

open Clocked

variable {κ ω α : Type} [EventFamily κ]

/-! ## Hosts that are reached -/

namespace Clocked

/-- **Whatever a program does to the stores, it does by calls.** -/
theorem exists_run (times : Nat → Timestamp) (p : OutboxProgram ω α) (c : Clocked ω) :
    ∃ calls, (run times p c).2.system = c.system.run calls := by
  induction p generalizing c with
  | done a => exact ⟨[], rfl⟩
  | call op next ih =>
      rcases answered : answer times op c with ⟨_ | reply, c'⟩
      · rw [show run times (.call op next) c = _ from Program.runFrom_call_none answered]
        have unanswered : (Host.answer op { c.host with clock := times c.calls }).1 = none :=
          congrArg Prod.fst answered
        have broken := Host.system_answer_none unanswered
        exact ⟨_, (congrArg (·.2.system) answered).symm.trans broken⟩
      · rw [show run times (.call op next) c = _ from Program.runFrom_call answered]
        have answered' : (Host.answer op { c.host with clock := times c.calls }).1 = some reply :=
          congrArg Prod.fst answered
        have first := Host.system_answer answered'
        have here := (congrArg (·.2.system) answered).symm.trans first
        obtain ⟨later, after⟩ := ih reply c'
        refine ⟨op.calls (times c.calls) ++ later, ?_⟩
        rw [System.run_append]
        exact after.trans (congrArg (System.run · later) here)

/-- The host has `n` stores, and calls led to what is in them. -/
def Reached (c : Clocked ω) (n : Nat) : Prop :=
  ∃ calls, c.system = (System.ofSize n).run calls

namespace Reached

variable {c : Clocked ω} {n : Nat} {i : StoreId}

theorem run (reached : c.Reached n) (times : Nat → Timestamp) (p : OutboxProgram ω α) :
    (Clocked.run times p c).2.Reached n := by
  obtain ⟨calls, system⟩ := reached
  obtain ⟨more, after⟩ := exists_run times p c
  refine ⟨calls ++ more, ?_⟩
  rw [System.run_append, ← system]
  exact after

theorem orderly (reached : c.Reached n) : c.system.Orderly := by
  obtain ⟨calls, system⟩ := reached
  rw [system]
  exact System.orderly_run (System.orderly_ofSize n) calls

theorem index_lt (reached : c.Reached n) (hi : i.index < n) :
    i.index < c.system.stores.length := by
  obtain ⟨calls, system⟩ := reached
  rw [system]
  exact System.index_lt_run hi calls

theorem tidy (reached : c.Reached n) (hi : i.index < n) : (c.system.store i).Tidy := by
  obtain ⟨calls, system⟩ := reached
  rw [system]
  exact System.tidy_run hi calls

theorem numbered (reached : c.Reached n) (hi : i.index < n) : (c.system.store i).Numbered := by
  obtain ⟨calls, system⟩ := reached
  rw [system]
  exact System.numbered_run hi calls

end Reached

end Clocked

theorem TxOp.Plain.leavesSavepoint {op : TxOp ω} (plain : op.Plain) : op.LeavesSavepoint := by
  cases op with
  | request i r => exact TxRequest.Plain.leavesSavepoint plain
  | now | freshId | tell => trivial

namespace Worker

/-! ## One delivery -/

section Delivery

variable (times : Nat → Timestamp) {w : Worker κ ω} {c : Clocked ω} {row : Row}
  (plain : w.registry.DeferredUse TxOp.Plain) (orderly : c.system.Orderly)
  (hi : w.store.index < c.system.stores.length) (tidy : (c.system.store w.store).Tidy)
include plain orderly hi tidy

/-- What handlers that come to a result wrote makes rows age. -/
theorem ages_of_written (next : (c.system.store w.store).next? = some row)
    {result : Except HandlerError Nat} (handled : (w.handled times row.message c).1 = some result) :
    (c.system.store w.store).Ages
      ((w.written times c row.message).apply (c.system.store w.store)) := by
  have opened := System.open?_next orderly w.store
  obtain ⟨st, tx, system, hand, ages⟩ := inside_keeps_of_some times opened hi
    (system_handedOver_of_next times orderly hi tidy next) TxOp.Plain
    (fun _ st tx => InHand (c.system.store w.store) row st tx ∧ tx.Ages st) (fun kept => kept)
    (fun plain ⟨hand, ages⟩ done => ⟨hand.request (TxRequest.Plain.leavesSavepoint plain) done,
      (Tx.request_moves done).ages plain ages⟩)
    (asked_of_uses times (Worker.uses_deliver trivial plain row.message) _ _)
    ⟨InHand.start tidy next, Tx.ages_of_empty (tidy.of_locked _) rfl⟩ handled
  have written : w.written times c row.message = tx.changes := by
    rw [written, Worker.handled, system, System.changesOf_put opened]
  have here : tx.Ages (c.system.store w.store) := by
    refine ⟨ages.inserted, fun r hr m seen => ?_⟩
    rw [← Tx.committedView_of_rows tx hand.rows_eq] at seen
    exact ages.seen r (hand.rows_eq ▸ hr) m seen
  rw [written]
  exact here.apply tidy hand.coherent

/-- **One delivery makes the tables age**; if it claims nothing, it changes nothing. -/
theorem processNext_ages :
    ∃ st', (run times w.processNext c).2.system = c.system.later w.store st' ∧
      (c.system.store w.store).Ages st' ∧
        ((c.system.store w.store).next? = none → st' = c.system.store w.store) := by
  cases next : (c.system.store w.store).next? with
  | none => exact ⟨_, (processNext_idle times orderly hi tidy next).2, .refl _, fun _ => rfl⟩
  | some row =>
      obtain ⟨hrow, claimable, -⟩ := Store.of_next? next
      have leaves : ∀ op ∈ w.requested times c row.message, op.LeavesSavepoint := fun op asked =>
        TxOp.Plain.leavesSavepoint
          (asked_of_uses times (Worker.uses_deliver trivial plain row.message) _ _ op asked)
      cases result : (w.handled times row.message c).1 with
      | none => exact ⟨_, (processNext_broken times orderly hi tidy next result).2, .refl _, nofun⟩
      | some result' =>
          have written := ages_of_written times plain orderly hi tidy next result
          cases result' with
          | ok handlers =>
              have system := (processNext_delivered times orderly hi tidy next leaves result).2
              exact ⟨_, system, written.trans (.mark _ _ _), nofun⟩
          | error e =>
              cases counted : e.isConnectivity with
              | false =>
                  have system :=
                    (processNext_failed times orderly hi tidy next leaves result counted).2
                  exact ⟨_, system, .afterFailure tidy hrow
                    (QueuedMessage.isPending_of_isClaimable claimable)
                    (QueuedMessage.isClaimable_iff.mp claimable).2.countIsFull _ _, nofun⟩
              | true =>
                  -- the message is given back
                  cases e with
                  | domain | failed => cases counted
                  | connectivity reason =>
                      have system := (processNext_lost orderly hi
                        (Tx.claimNext_new_some tidy next) result).2
                      rw [← System.later_self c.system w.store] at system
                      exact ⟨_, system, .refl _, nofun⟩

end Delivery

/-! ## All deliveries -/

variable (times : Nat → Timestamp) (w : Worker κ ω) (c : Clocked ω)

/-- The host on which delivery number `k` begins, the first one on `c`. -/
def nth : Nat → Clocked ω
  | 0 => c
  | k + 1 => (run times w.processNext (nth k)).2

/-- The tables at the begin of delivery number `k`. -/
def tables (k : Nat) : Store :=
  (w.nth times c k).system.store w.store

/-- The row that delivery number `k` claims. -/
def claimed (k : Nat) : Option Row :=
  (w.tables times c k).next?

/-- What a delivery that begins on `c` is answered to its claim. -/
def claimAnswer : Option (Except StoreError (Option QueuedMessage)) :=
  (answer times (.inside (c.system.next w.store).handle (.request w.store .claimNext))
    (w.begun times c)).1

/-- **Messages are claimed in order**, in all deliveries from `c` on. -/
structure InOrder : Prop where
  /-- the turns of the rows that are claimed go up -/
  ascending : ∀ j k r s, j ≤ k → w.claimed times c j = some r → w.claimed times c k = some s →
    r.turn ≤ s.turn
  /-- between two attempts at a message there are no attempts at others -/
  together : ∀ j l k r s, j ≤ l → l ≤ k → w.claimed times c j = some r →
    w.claimed times c k = some s → s.id = r.id → ∃ q, w.claimed times c l = some q ∧ q.id = r.id
  /-- what could be claimed before is delivered or buried when a younger message is claimed -/
  settled : ∀ j k s, j ≤ k → w.claimed times c k = some s → ∀ r ∈ (w.tables times c j).rows,
    r.message.isClaimable = true → r.turn < s.turn →
      (∃ r', (w.tables times c k).row? r.id = some r' ∧ r'.message.isPending = false) ∨
        (w.tables times c k).Buried r.id

/-- What is known at the begin of every delivery: calls led there, and nobody is at work on the
store. -/
structure AtRest (n : Nat) : Prop where
  reached : c.Reached n
  quiet : c.system.openOn w.store = []

variable {times w c} {n : Nat}

namespace AtRest

variable (rest : w.AtRest c n) (hi : w.store.index < n)
include rest hi

theorem unlocked : (c.system.store w.store).locked = [] := by
  obtain ⟨calls, system⟩ := rest.reached
  have quiet := rest.quiet
  rw [system] at quiet ⊢
  exact System.locked_eq_nil hi quiet

/-- The claim of a delivery is answered with the message that is next. -/
theorem claimAnswer_eq : w.claimAnswer times c =
    some (.ok ((c.system.store w.store).next?.map (·.message))) := by
  have opened := System.open?_next rest.reached.orderly w.store
  have hi' := rest.reached.index_lt hi
  have system := system_begun times w rest.reached.orderly
  cases next : (c.system.store w.store).next? with
  | none =>
      exact (answer_request times (r := .claimNext) opened hi' system
        (congrArg (Except.map _) (Tx.claimNext_new_none (rest.reached.tidy hi) next))).1
  | some row =>
      exact (answer_request times (r := .claimNext) opened hi' system
        (congrArg (Except.map _) (Tx.claimNext_new_some (rest.reached.tidy hi) next))).1

end AtRest

section Deliveries

variable (times) (plain : w.registry.DeferredUse TxOp.Plain) (hi : w.store.index < n)
  (rest : w.AtRest c n)
include plain hi rest

theorem atRest_nth (k : Nat) : w.AtRest (w.nth times c k) n := by
  induction k with
  | zero => exact rest
  | succ k ih =>
      obtain ⟨st', system, -⟩ := processNext_ages times plain ih.reached.orderly
        (ih.reached.index_lt hi) (ih.reached.tidy hi)
      refine ⟨ih.reached.run times w.processNext, ?_⟩
      show (run times w.processNext (w.nth times c k)).2.system.openOn w.store = []
      rw [system]
      exact ih.quiet

/-- **From one delivery to the next one.** -/
theorem tables_succ (k : Nat) : (w.tables times c k).Ages (w.tables times c (k + 1)) ∧
    (w.claimed times c k = none → w.tables times c (k + 1) = w.tables times c k) := by
  have here := (atRest_nth times plain hi rest k).reached
  obtain ⟨st', system, ages, idle⟩ :=
    processNext_ages times plain here.orderly (here.index_lt hi) (here.tidy hi)
  have after : w.tables times c (k + 1) = st' := by
    show (run times w.processNext (w.nth times c k)).2.system.store w.store = st'
    rw [system, System.store_later (here.index_lt hi)]
  rw [after]
  exact ⟨ages, idle⟩

theorem tables_ages {j k : Nat} (le : j ≤ k) :
    (w.tables times c j).Ages (w.tables times c k) := by
  induction k, le using Nat.le_induction with
  | base => exact .refl _
  | succ k _ ih => exact ih.trans (tables_succ times plain hi rest k).1

/-- **A row that could be claimed** can be claimed later on, or is delivered, or buried. -/
theorem row_later {j k : Nat} (le : j ≤ k) {r : Row} (hr : r ∈ (w.tables times c j).rows)
    (claimable : r.message.isClaimable = true) :
    (∃ r' ∈ (w.tables times c k).rows, r.Ages r' ∧
      (r'.message.isClaimable = true ∨ r'.message.isPending = false)) ∨
        (w.tables times c k).Buried r.id := by
  refine ((tables_ages times plain hi rest le).after r hr).imp_left fun ⟨r', hr', ages⟩ => ?_
  refine ⟨r', hr', ages, ?_⟩
  cases pending : r'.message.isPending with
  | true => exact Or.inl (ages.message.claimable_after claimable pending)
  | false => exact Or.inr rfl

/-! ### The order -/

theorem unlocked_tables (k : Nat) : (w.tables times c k).locked = [] :=
  (atRest_nth times plain hi rest k).unlocked hi

/-- From one claim to the next one the turns go up. -/
theorem turn_le_succ {k : Nat} {r s : Row} (first : w.claimed times c k = some r)
    (second : w.claimed times c (k + 1) = some s) : r.turn ≤ s.turn := by
  obtain ⟨hs, claimable, -⟩ := Store.of_next? second
  obtain ⟨old, hold, ages⟩ := (tables_succ times plain hi rest k).1.before s hs
  rw [ages.turn_eq]
  exact Store.turn_le_of_next? (unlocked_tables times plain hi rest k) first old hold
    (ages.message.claimable_before claimable)

/-- **The turns of all claims go up.** -/
theorem turn_le {j k : Nat} (le : j ≤ k) {r s : Row} (first : w.claimed times c j = some r)
    (second : w.claimed times c k = some s) : r.turn ≤ s.turn := by
  induction k, le using Nat.le_induction generalizing s with
  | base =>
      cases first.symm.trans second
      exact le_rfl
  | succ k _ ih =>
      cases between : w.claimed times c k with
      | none =>
          -- a worker that claimed nothing goes on claiming nothing
          rw [claimed, (tables_succ times plain hi rest k).2 between] at second
          cases between.symm.trans second
      | some q =>
          exact (ih between).trans (turn_le_succ times plain hi rest between second)

/-- Attempts at one message follow each other. -/
theorem claimed_between {j l k : Nat} (le : j ≤ l) (le' : l ≤ k) {r s : Row}
    (first : w.claimed times c j = some r) (second : w.claimed times c k = some s)
    (same : s.id = r.id) : ∃ q, w.claimed times c l = some q ∧ q.id = r.id := by
  obtain ⟨hr, claimable, -⟩ := Store.of_next? first
  obtain ⟨hs, claimable', -⟩ := Store.of_next? second
  have later := tables_ages times plain hi rest le'
  have waits := QueuedMessage.isPending_of_isClaimable claimable'
  -- in between the row is there, and may be claimed
  rcases row_later times plain hi rest le hr claimable with
    ⟨r', hr', ages, claimable'' | delivered⟩ | buried
  · obtain ⟨q, next, sooner⟩ :=
      Store.exists_next? (unlocked_tables times plain hi rest l) hr' claimable''
    refine ⟨q, next, ?_⟩
    have level := (turn_le times plain hi rest le first next).antisymm
      (ages.turn_eq ▸ sooner)
    have numbers := ((atRest_nth times plain hi rest l).reached.numbered hi).nodup
    have equal := List.inj_on_of_nodup_map numbers (Store.of_next? next).1 hr'
      (Row.seq_eq_of_turn_eq (level.symm.trans ages.turn_eq.symm))
    rw [equal, ages.id_eq]
  · obtain ⟨old, hold, on⟩ := later.before s hs
    have names := ((atRest_nth times plain hi rest l).reached.tidy hi).rows
    have equal := List.inj_on_of_nodup_map names hold hr'
      (on.id_eq.symm.trans (same.trans ages.id_eq.symm))
    rw [← equal] at delivered
    rw [on.message.final delivered, delivered] at waits
    cases waits
  · have gone := (later.buried buried).1
    rw [← same, Store.row?_eq_none_iff] at gone
    exact absurd (List.mem_map_of_mem hs) gone

/-- **No message is claimed before an older one is out of the way.** -/
theorem settled_of_claimed {j k : Nat} (le : j ≤ k) {r s : Row}
    (next : w.claimed times c k = some s) (hr : r ∈ (w.tables times c j).rows)
    (claimable : r.message.isClaimable = true) (older : r.turn < s.turn) :
    (∃ r', (w.tables times c k).row? r.id = some r' ∧ r'.message.isPending = false) ∨
      (w.tables times c k).Buried r.id := by
  refine (row_later times plain hi rest le hr claimable).imp_left ?_
  rintro ⟨r', hr', ages, claimable' | delivered⟩
  · have least := Store.turn_le_of_next? (unlocked_tables times plain hi rest k) next r' hr'
      claimable'
    rw [ages.turn_eq] at least
    exact absurd older (not_lt.mpr least)
  · have names := ((atRest_nth times plain hi rest k).reached.tidy hi).rows
    exact ⟨r', ages.id_eq ▸ Store.row?_of_mem names hr', delivered⟩

end Deliveries

end Worker

end MaintenanceOutbox
