import MaintenanceOutbox.Proofs.Store.Budget
import MaintenanceOutbox.Proofs.Store.Claims

set_option autoImplicit false

/-! # Dead letters that go back into the queue

A dead letter can be put back into the queue. It is a row again then, under its old name, with the
error that it last had and all its attempts (`System.PutsBack`); that is so for every dead letter,
whatever the transactions did to get it there. Whether the message is alive again
(`System.Revives`), so that a worker is handed it, depends on its budget alone, which must not be
zero.

`QueuedMessage.withMaxRetries` grants at least one attempt, but `add` takes every message, and with
it the budget that it has. A message without attempts is never claimable; still a failure can be
counted on it, which makes it a dead letter, and when it is put back, nobody sees it any more
(`System.not_revives_unbudgeted`). All other dead letters are revived (`System.revival_run`).
-/

namespace MaintenanceOutbox

/-- **The dead letter is what became of `given`**: a message of that origin waited for delivery, and
a failure that was counted on it used up its budget. -/
def DeadLetter.CameOf (d : DeadLetter) (given : QueuedMessage) : Prop :=
  ∃ m : QueuedMessage, m.origin = given.origin ∧ m.isPending = true ∧ m.Death d

/-- Delivery, and a return into the queue, keep what became of which message. -/
theorem QueuedMessage.lasting_cameOf (given : List QueuedMessage) :
    QueuedMessage.Lasting (fun m => ∃ g ∈ given, m.origin = g.origin)
      (fun d => ∃ g ∈ given, d.CameOf g) where
  progress := by
    rintro m m' ⟨g, hg, same⟩ - progress
    exact ⟨g, hg, progress.origin_eq.trans same⟩
  death := by
    rintro m d ⟨g, hg, same⟩ pending death
    exact ⟨g, hg, m, same, pending, death⟩
  requeued := by
    rintro d ⟨g, hg, m, same, -, death⟩
    exact ⟨g, hg, death.origin_eq.trans same⟩

namespace DeadLetter

variable {d : DeadLetter}

theorem CameOf.origin_eq {given : QueuedMessage} (came : d.CameOf given) :
    d.message.origin = given.origin := by
  obtain ⟨m, same, -, death⟩ := came
  exact death.origin_eq.trans same

/-- **Back in the queue, a message has attempts left if it ever had one.** -/
theorem isClaimable_requeued : d.requeued.isClaimable = true ↔ d.message.maxRetries ≠ 0 := by
  rw [QueuedMessage.isClaimable_iff]
  constructor
  · rintro ⟨-, left⟩
    exact UInt32.pos_iff_ne_zero.mp left
  · intro budget
    exact ⟨rfl, UInt32.pos_iff_ne_zero.mpr budget⟩

end DeadLetter

namespace System

variable {s : System} {i : StoreId} {d : DeadLetter}

/-! ## The claim of a new transaction -/

/-- What a new transaction on store `i` is answered if the first thing that it asks for is a
claim. -/
def nextClaim (s : System) (i : StoreId) (now : Timestamp) :
    Except StoreError (Option (Option QueuedMessage)) :=
  ((s.beginTx i).2.request now i (s.beginTx i).1 .claimNext).1

/-- A new transaction claims the row that is next. -/
theorem nextClaim_eq (orderly : s.Orderly) (tidy : (s.store i).Tidy) (now : Timestamp) :
    s.nextClaim i now = .ok (some ((s.store i).next?.map (·.message))) := by
  have opened : (s.beginTx i).2.open? (s.beginTx i).1 = some ⟨⟨s.begun⟩, i, {}⟩ := by
    rw [open?_beginTx orderly]
    exact if_pos rfl
  rw [nextClaim, request_answer opened rfl]
  show (({} : Tx).request (s.store i) now .claimNext).map (·.1) = _
  rw [Tx.request]
  cases next : (s.store i).next? with
  | none =>
      rw [Tx.claimNext_new_none tidy next]
      rfl
  | some r =>
      rw [Tx.claimNext_new_some tidy next]
      rfl

/-- **Of nothing but one message, the claim is that message.** -/
theorem nextClaim_of_only (orderly : s.Orderly) (tidy : (s.store i).Tidy)
    (unlocked : (s.store i).locked = []) {r : Row} (hr : r ∈ (s.store i).rows)
    (claimable : r.message.isClaimable = true)
    (only : ∀ x ∈ (s.store i).rows, x.id ≠ r.id → x.message.isClaimable = false)
    (now : Timestamp) : s.nextClaim i now = .ok (some (some r.message)) := by
  obtain ⟨x, next, -⟩ := Store.exists_next? unlocked hr claimable
  obtain ⟨hx, free, -⟩ := Store.of_next? next
  -- what is next is claimable, so it is the only row that is
  have name : x.id = r.id := by
    by_contra other
    rw [only x hx other] at free
    cases free
  have same : x = r := by
    have found := Store.row?_of_mem tidy.rows hx
    rw [name, Store.row?_of_mem tidy.rows hr] at found
    exact (Option.some.inj found).symm
  rw [nextClaim_eq orderly tidy, next, same]
  rfl

/-! ## Putting dead letters back -/

/-- **The dead letter goes back into the queue as `m`**: it is no dead letter any more, but a row
under its name, with what the message had from the beginning and its last error, without failed
attempts and not delivered. All other rows and dead letters, the locks, the other stores and the
transactions stay as they are. -/
structure PutsBack (s : System) (i : StoreId) (d : DeadLetter) (m : QueuedMessage) : Prop where
  answer : (s.requeue i d.id).1 = .ok m
  gone : ((s.requeue i d.id).2.store i).deadLetter? d.id = none
  stored : ((s.requeue i d.id).2.store i).message? d.id = some m
  origin : m.origin = d.message.origin
  error : m.lastError = d.message.lastError
  untried : m.retryCount = 0
  undelivered : m.processedAt = none
  otherRows : ∀ id, id ≠ d.id → ((s.requeue i d.id).2.store i).row? id = (s.store i).row? id
  otherDeadLetters : ∀ id, id ≠ d.id →
    ((s.requeue i d.id).2.store i).deadLetter? id = (s.store i).deadLetter? id
  locked : ((s.requeue i d.id).2.store i).locked = (s.store i).locked
  elsewhere : ∀ j, j ≠ i → (s.requeue i d.id).2.store j = s.store j
  transactions : (s.requeue i d.id).2.transactions = s.transactions

/-- **The dead letter is revived when it is put back**: what goes back is claimable, and if no
transaction is open on the store and no other row is claimable, the next claim is handed it. -/
def Revives (s : System) (i : StoreId) (d : DeadLetter) : Prop :=
  ∃ m, s.PutsBack i d m ∧ m.isClaimable = true ∧
    (s.openOn i = [] → (∀ r ∈ (s.store i).rows, r.id ≠ d.id → r.message.isClaimable = false) →
      ∀ now, (s.requeue i d.id).2.nextClaim i now = .ok (some (some m)))

/-- **Every dead letter can be put back.** -/
theorem putsBack_requeued (hi : i.index < s.stores.length)
    (found : (s.store i).deadLetter? d.id = some d) : s.PutsBack i d d.requeued := by
  obtain ⟨st, done, answer⟩ := requeue_eq found
  obtain ⟨e, found', -, locked, rows, deads⟩ := Store.requeue_cases done
  cases found.symm.trans found'
  have tables : (s.requeue i d.id).2.store i = st := by
    rw [answer]
    exact store_setStore_self hi st
  refine ⟨by rw [answer], ?_, ?_, rfl, rfl, rfl, rfl, ?_, ?_, ?_, ?_, by rw [answer]; rfl⟩
  · rw [tables, deads, if_pos rfl]
  · rw [tables, Store.message?, rows, if_pos rfl]
    rfl
  · intro id other
    rw [tables, rows, if_neg other.symm]
  · intro id other
    rw [tables, deads, if_neg other.symm]
  · rw [tables, locked]
  · intro j other
    rw [answer]
    exact store_setStore_ne s other.symm st

/-- What is put back is the dead letter, as it goes back into the queue. -/
theorem PutsBack.eq_requeued {m : QueuedMessage} (back : s.PutsBack i d m)
    (found : (s.store i).deadLetter? d.id = some d) : m = d.requeued := by
  obtain ⟨st, -, answer⟩ := requeue_eq found
  have same := back.answer
  rw [answer] at same
  exact (Except.ok.inj same).symm

variable {n : Nat} {calls : List Call}

/-- **The only message in a store is handed out**, if attempts are left to it. -/
theorem nextClaim_requeue (hi : i.index < n)
    (found : (((ofSize n).run calls).store i).deadLetter? d.id = some d)
    (budget : d.message.maxRetries ≠ 0) (quiet : ((ofSize n).run calls).openOn i = [])
    (only : ∀ r ∈ (((ofSize n).run calls).store i).rows, r.id ≠ d.id →
      r.message.isClaimable = false) (now : Timestamp) :
    (((ofSize n).run calls).requeue i d.id).2.nextClaim i now =
      .ok (some (some d.requeued)) := by
  have back := putsBack_requeued (index_lt_run hi calls) found
  -- the state after the return is one that a run reaches
  have after : (((ofSize n).run calls).requeue i d.id).2 =
      (ofSize n).run (calls ++ [.requeue i d.id]) := by
    rw [run_concat]
    rfl
  have tidy : ((((ofSize n).run calls).requeue i d.id).2.store i).Tidy := by
    rw [after]
    exact tidy_run hi _
  have orderly : (((ofSize n).run calls).requeue i d.id).2.Orderly := by
    rw [after]
    exact orderly_run (orderly_ofSize n) _
  have unlocked := back.locked.trans (locked_eq_nil hi quiet)
  obtain ⟨r, stored, message⟩ := Option.map_eq_some_iff.mp back.stored
  have name : r.id = d.id := Store.id_of_row? stored
  rw [← message]
  refine nextClaim_of_only orderly tidy unlocked (Store.mem_of_row? stored) ?_ ?_ now
  · rw [message]
    exact DeadLetter.isClaimable_requeued.mpr budget
  · intro x hx other
    rw [name] at other
    have old := Store.row?_of_mem tidy.rows hx
    rw [back.otherRows x.id other] at old
    exact only x (Store.mem_of_row? old) other

/-- **Putting a dead letter back revives it exactly if it had a budget.** After every run, a dead
letter came of a message that was given to `add`, by a failure that used up its budget; it can be
put back, as it was but for its failed attempts; and it is revived if and only if the message that
was given to `add` asked for an attempt. -/
theorem revival_run (hi : i.index < n)
    (hd : d ∈ (((ofSize n).run calls).store i).deadLetters) :
    ∃ given ∈ Call.added i calls, d.CameOf given ∧
      (∃ m, ((ofSize n).run calls).PutsBack i d m ∧ m.origin = given.origin) ∧
        (((ofSize n).run calls).Revives i d ↔ given.maxRetries ≠ 0) := by
  have found := Store.deadLetter?_of_mem (tidy_run hi calls).deadLetters hd
  have back := putsBack_requeued (index_lt_run hi calls) found
  have inv := everywhere_run hi (QueuedMessage.lasting_cameOf (Call.added i calls)) calls
    fun m hm => ⟨m, hm, rfl⟩
  obtain ⟨given, hg, came⟩ := inv.deadLetters d.id d found
  have budget : given.maxRetries = d.message.maxRetries :=
    congrArg QueuedMessage.Origin.maxRetries came.origin_eq.symm
  refine ⟨given, hg, came, ⟨_, back, back.origin.trans came.origin_eq⟩, ?_⟩
  rw [budget]
  constructor
  · rintro ⟨m, back', claimable, -⟩
    rw [back'.eq_requeued found] at claimable
    exact DeadLetter.isClaimable_requeued.mp claimable
  · intro asked
    exact ⟨d.requeued, back, DeadLetter.isClaimable_requeued.mpr asked,
      fun quiet only now => nextClaim_requeue hi found asked quiet only now⟩

/-- A run in which a message with the budget `budget` is committed, and a failure that is counted on
it is committed too. -/
def failingOnce (budget : UInt32) : List Call :=
  let m := { QueuedMessage.fresh default default "ping" .null with maxRetries := budget }
  [.beginTx ⟨0⟩, .request default ⟨0⟩ ⟨0⟩ (.add m), .commit ⟨0⟩ ⟨0⟩, .beginTx ⟨0⟩,
    .request default ⟨0⟩ ⟨1⟩ (.incrementRetry default "down"), .commit ⟨0⟩ ⟨1⟩]

/-- With one attempt the message is revived, and the next claim is handed it. -/
theorem revival_run_once :
    ∃ d ∈ (((ofSize 1).run (failingOnce 1)).store ⟨0⟩).deadLetters,
      ((ofSize 1).run (failingOnce 1)).Revives ⟨0⟩ d ∧
        (((ofSize 1).run (failingOnce 1)).requeue ⟨0⟩ d.id).2.nextClaim ⟨0⟩ default =
          .ok (some (some d.requeued)) := by
  have spent : (⟨({ QueuedMessage.fresh default default "ping" .null with
      maxRetries := 1 } : QueuedMessage).afterFailure "down", default⟩ : DeadLetter) ∈
      (((ofSize 1).run (failingOnce 1)).store ⟨0⟩).deadLetters := List.mem_cons_self
  obtain ⟨given, hg, -, -, revives⟩ := revival_run (n := 1) (i := ⟨0⟩) (by decide) spent
  have asked : given.maxRetries ≠ 0 := by
    rw [List.mem_singleton.mp hg]
    decide
  exact ⟨_, spent, revives.mpr asked, rfl⟩

/-- **A message without a budget is not revived.** It is committed, a failure makes it a dead
letter, and it goes back into a store in which nothing else is and no transaction is open. But there
it is not claimable, and the next claim comes back empty. -/
theorem not_revives_unbudgeted :
    ∃ d ∈ (((ofSize 1).run (failingOnce 0)).store ⟨0⟩).deadLetters,
      (((ofSize 1).run (failingOnce 0)).store ⟨0⟩).rows = [] ∧
        ((ofSize 1).run (failingOnce 0)).openOn ⟨0⟩ = [] ∧
          ((ofSize 1).run (failingOnce 0)).PutsBack ⟨0⟩ d d.requeued ∧
            d.requeued.isClaimable = false ∧
              (((ofSize 1).run (failingOnce 0)).requeue ⟨0⟩ d.id).2.nextClaim ⟨0⟩ default =
                .ok (some none) ∧
                ¬ ((ofSize 1).run (failingOnce 0)).Revives ⟨0⟩ d := by
  have spent : (⟨({ QueuedMessage.fresh default default "ping" .null with
      maxRetries := 0 } : QueuedMessage).afterFailure "down", default⟩ : DeadLetter) ∈
      (((ofSize 1).run (failingOnce 0)).store ⟨0⟩).deadLetters := List.mem_cons_self
  have found := Store.deadLetter?_of_mem (tidy_run (by decide) (failingOnce 0)).deadLetters spent
  refine ⟨_, spent, rfl, rfl, putsBack_requeued (by decide) found, rfl, rfl, ?_⟩
  rintro ⟨m, back, claimable, -⟩
  rw [back.eq_requeued found] at claimable
  cases claimable

end System

end MaintenanceOutbox
