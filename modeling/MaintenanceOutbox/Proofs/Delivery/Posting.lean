import MaintenanceOutbox.Proofs.Delivery.Draining
import MaintenanceOutbox.Proofs.Store.Queue

set_option autoImplicit false

/-! # Deliveries that tell the outside world

A handler that does nothing but tell the outside world something always succeeds
(`DeferredM.Tells`). If the handlers of all messages of a queue are such ones, then a worker
delivers the queue message by message, in order, each of them once, and the outside world is told
everything in that order (`Worker.drains_queue`).
-/

namespace MaintenanceOutbox

open Clocked

variable {κ ω α β : Type} [EventFamily κ]

/-! ## Handlers that tell -/

/-- **All that the handler does** is to tell the outside world `notes`, and it results in `a`. -/
def DeferredM.Tells (p : DeferredM ω α) (a : α) (notes : List ω) : Prop :=
  ∀ times tx (c : Clocked ω), (inside times tx p.run c).1 = some (.ok a) ∧
    (inside times tx p.run c).2.system = c.system ∧
      (inside times tx p.run c).2.told = c.told ++ notes

namespace DeferredM.Tells

theorem pure (a : α) : (Pure.pure a : DeferredM ω α).Tells a [] :=
  fun _ _ c => ⟨rfl, rfl, (List.append_nil c.told).symm⟩

theorem bind {p : DeferredM ω α} {f : α → DeferredM ω β} {a : α} {b : β} {notes more : List ω}
    (first : p.Tells a notes) (second : (f a).Tells b more) :
    (p >>= f).Tells b (notes ++ more) := by
  intro times tx c
  obtain ⟨answer₁, system₁, told₁⟩ := first times tx c
  obtain ⟨answer₂, system₂, told₂⟩ := second times tx (inside times tx p.run c).2
  rw [inside_bind_ok answer₁]
  refine ⟨answer₂, system₂.trans system₁, ?_⟩
  rw [← List.append_assoc, ← told₁]
  exact told₂

/-- A handler may look at the clock. -/
theorem now_bind {f : Timestamp → DeferredM ω β} {b : β} {notes : List ω}
    (always : ∀ now, (f now).Tells b notes) :
    DeferredM.Tells (ExceptT.lift TxProgram.now >>= f) b notes :=
  fun times tx c => always (times c.calls) times tx (answer times (.inside tx .now) c).2

/-- To tell something is to tell it. -/
theorem tell (note : ω) : DeferredM.Tells (ExceptT.lift (TxProgram.tell note)) () [note] :=
  fun _ _ _ => ⟨rfl, rfl, rfl⟩

end DeferredM.Tells

/-! ## One message -/

namespace Worker

variable (times : Nat → Timestamp) {w : Worker κ ω} {c : Clocked ω} {idle : List Row} {n : Nat}
  {m : QueuedMessage} {ms : List QueuedMessage} {handlers : Nat} {notes : List ω}

/-- **The first message of a queue is delivered**: its handlers tell what they have to tell, and it
is marked. -/
theorem processNext_first (orderly : c.system.Orderly)
    (hi : w.store.index < c.system.stores.length)
    (queue : (c.system.store w.store).Queues idle n (m :: ms))
    (tells : (w.deliver m).Tells handlers notes) :
    ∃ now, (run times w.processNext c).1 = some (.ok (some (.processed m.id handlers))) ∧
      (run times w.processNext c).2.system = c.system.later w.store
        ((c.system.store w.store).updateRow (m.markProcessed now)) ∧
      (run times w.processNext c).2.told = c.told ++ notes := by
  let st := c.system.store w.store
  have opened := System.open?_next orderly w.store
  have first := queue.claimNext_cons
  have system₁ := system_handedOver times orderly hi first
  obtain ⟨answer₂, system₂, told₂⟩ := tells times (c.system.next w.store).handle
    (w.handedOver times c)
  -- the mark is the only change of the transaction
  have stored : (st.lock m.id).message? m.id = some m := by
    have found := Store.row?_of_mem queue.tidy.rows queue.mem_first
    exact congrArg (Option.map (·.message)) found
  have pending := QueuedMessage.isPending_of_isClaimable (queue.claimable m List.mem_cons_self)
  have only := (Tx.OnlyLocks.start st).moves (Tx.claimNext_moves first)
  let now := times ((w.handled times m c).2.calls + 1)
  have only' : ({ changes := { updated := [m.markProcessed now] }, locks := [m.id] } :
    Tx).OnlyLocks st (st.lock m.id) := ⟨only.tables, only.free⟩
  obtain ⟨answer₃, system₃, told₃⟩ := run_succeed times (w := w) opened hi rfl
    (system₂.trans system₁) rfl (Tx.markProcessed_of_held rfl (List.mem_singleton.mpr rfl) stored
      pending now) handlers
  have delivers : (w.handled times m c).1 = some (.ok handlers) := answer₂
  refine ⟨now, ?_⟩
  rw [run_processNext_claimed times orderly hi first delivers]
  have written := system₃.trans (congrArg (System.close _ _) only'.commit)
  have told : (w.handled times m c).2.told = c.told ++ notes :=
    told₂.trans (congrArg (· ++ notes) (told_handedOver times w c))
  exact ⟨answer₃, written.trans (System.close_beginTx orderly w.store _), told₃.trans told⟩

/-! ## All messages -/

/-- **What became of the queue**: its messages are marked in their rows, and nothing else changed.
-/
structure Handed (st : Store) (idle : List Row) (n : Nat) (ms : List QueuedMessage) (st' : Store) :
    Prop where
  rows : ∃ done, List.Forall₂ (fun m m' => ∃ now, m' = m.markProcessed now) ms done ∧
    st'.rows = idle ++ Row.numbered n done
  deadLetters : st'.deadLetters = st.deadLetters

/-- **A worker delivers a queue** message by message, each of them once, in order. -/
theorem drains_queue {told : List (List ω)} (orderly : c.system.Orderly)
    (hi : w.store.index < c.system.stores.length)
    (queue : (c.system.store w.store).Queues idle n ms)
    (tells : List.Forall₂ (fun m notes => (w.deliver m).Tells handlers notes) ms told) :
    ∃ c', w.Drains times c (ms.map fun m => .processed m.id handlers) c' ∧
      c'.told = c.told ++ told.flatten ∧
        Handed (c.system.store w.store) idle n ms (c'.system.store w.store) := by
  induction tells generalizing c idle n with
  | nil =>
      obtain ⟨answer, system, told'⟩ := run_processNext_unclaimed times orderly hi
        queue.claimNext_nil
      refine ⟨(run times w.processNext c).2, .empty (Prod.ext answer rfl),
        told'.trans (List.append_nil _).symm, ?_⟩
      rw [system, System.store_later hi]
      exact ⟨⟨[], .nil, queue.rows⟩, rfl⟩
  | @cons m notes ms told first _ ih =>
      obtain ⟨now, answer, system, told'⟩ := processNext_first times orderly hi queue first
      have store : (run times w.processNext c).2.system.store w.store =
          (c.system.store w.store).updateRow (m.markProcessed now) := by
        rw [system, System.store_later hi]
      obtain ⟨c', drains, told'', ⟨done, marked, rows⟩, deadLetters⟩ :=
        ih (c := (run times w.processNext c).2)
          (by rw [system]; exact System.orderly_later orderly _)
          (by rw [system, System.length_stores_later]; exact hi)
          (by rw [store]; exact queue.mark now)
      refine ⟨c', .next (Prod.ext answer rfl) drains, ?_, ⟨m.markProcessed now :: done, ?_, ?_⟩, ?_⟩
      · rw [told'', told', List.flatten_cons, List.append_assoc]
      · exact .cons ⟨now, rfl⟩ marked
      · rw [rows, List.append_assoc]
        rfl
      · rw [deadLetters, store]
        rfl

end Worker

end MaintenanceOutbox
