import MaintenanceOutbox.Proofs.Store.Counts
import MaintenanceOutbox.Proofs.Store.Session

set_option autoImplicit false

/-! # Delivery is final

A delivered row is safe from everybody, because nobody has a copy of it. Copies are made under a
lock, locks are on pending rows, and a new message of the same name would have to be carried by
somebody. So all that can still happen to the row is a purge, and nothing is ever stored under its
name again.

For the transactions that are open the message is settled: no claim answers it, to mark it changes
nothing, and a count is refused. `System.finality` puts this together with what is known of counts,
which never decrease while the message has a row.
-/

namespace MaintenanceOutbox

namespace View

variable {v : View} {id : MessageId}

namespace Sound

/-- A delivered row is locked by nobody. -/
theorem free_of_delivered (inv : v.Sound)
    (delivered : ∀ r, v.store.row? id = some r → r.message.isPending = false)
    (uncarried : ∀ h tx, v.tx h = some tx → ¬ tx.Carries id) :
    ∀ h tx, v.tx h = some tx → id ∉ tx.locks ∧ ¬ tx.Carries id := by
  intro h tx opened
  refine ⟨fun held => ?_, uncarried h tx opened⟩
  obtain ⟨r, found, pending⟩ := inv.held h tx opened id held
  rw [delivered r found] at pending
  cases pending

/-- **A delivered row stays as it is**, or it is purged. -/
theorem delivered_step (inv : v.Sound) (uncarried : ∀ h tx, v.tx h = some tx → ¬ tx.Carries id)
    {r : Row} (found : v.store.row? id = some r) (delivered : r.message.isPending = false)
    (e : Happening) :
    (v.step e).store.row? id = some r ∨ (v.step e).store.Unused id ∧
      ∃ cutoff, e = .purges cutoff ∧ Store.processedBefore cutoff r.message = true := by
  have alive : v.store.deadLetter? id = none := (inv.tables id).resolve_left (by simp [found])
  have only : ∀ r', v.store.row? id = some r' → r'.message.isPending = false := by
    intro r' found'
    cases found.symm.trans found'
    exact delivered
  have free := inv.free_of_delivered only uncarried
  rcases inv.tables_step free e with
    ⟨same, -⟩ | ⟨-, d, dead⟩ | ⟨-, same, -⟩ | ⟨cutoff, r', purge, found', old, gone⟩
  · exact Or.inl (same.trans found)
  · cases alive.symm.trans dead
  · exact Or.inl (same.trans found)
  · cases found.symm.trans found'
    exact Or.inr ⟨gone, cutoff, purge, old⟩

/-- What is no row and not carried becomes one only if it is put back. -/
theorem absent_step (inv : v.Sound) (uncarried : ∀ h tx, v.tx h = some tx → ¬ tx.Carries id)
    (absent : v.store.row? id = none) (e : Happening) :
    (v.step e).store.row? id = none ∨
      e = .requeues id ∧ ∃ d, v.store.deadLetter? id = some d := by
  have only : ∀ r', v.store.row? id = some r' → r'.message.isPending = false := by
    intro r' found'
    cases absent.symm.trans found'
  have free := inv.free_of_delivered only uncarried
  rcases inv.tables_step free e with
    ⟨same, -⟩ | back | ⟨-, same, -⟩ | ⟨cutoff, r', -, found', -, -⟩
  · exact Or.inl (same.trans absent)
  · exact Or.inr back
  · exact Or.inl (same.trans absent)
  · cases absent.symm.trans found'

/-- What is neither stored nor carried is not stored later. -/
theorem unused_step (inv : v.Sound) (uncarried : ∀ h tx, v.tx h = some tx → ¬ tx.Carries id)
    (unused : v.store.Unused id) (e : Happening) : (v.step e).store.Unused id := by
  have only : ∀ r', v.store.row? id = some r' → r'.message.isPending = false := by
    intro r' found'
    cases unused.1.symm.trans found'
  have free := inv.free_of_delivered only uncarried
  rcases inv.tables_step free e with
    ⟨row, dead⟩ | ⟨-, d, dead⟩ | ⟨-, row, dead⟩ | ⟨cutoff, r', -, found', -, -⟩
  · exact ⟨row.trans unused.1, dead.trans unused.2⟩
  · cases unused.2.symm.trans dead
  · exact ⟨row.trans unused.1, dead⟩
  · cases unused.1.symm.trans found'

variable {h : TxHandle} {tx : Tx}

/-- Of a message that it has neither locked nor carries, a transaction sees what is committed. -/
theorem seen_of_free (inv : v.Sound) (opened : v.tx h = some tx)
    (free : id ∉ tx.locks ∧ ¬ tx.Carries id) :
    tx.changes.inserted? id = none ∧ tx.committedView v.store id = v.store.message? id :=
  Tx.committedView_of_unnamed v.store fun named =>
    (inv.locked_or_carried opened named).elim free.1 free.2

theorem settled_of_delivered (inv : v.Sound) (opened : v.tx h = some tx)
    (free : id ∉ tx.locks ∧ ¬ tx.Carries id)
    (delivered : ∀ r, v.store.row? id = some r → r.message.isPending = false) {m : QueuedMessage}
    (seen : tx.sees? v.store id = some m) : m.isPending = false := by
  obtain ⟨notOwn, committed⟩ := inv.seen_of_free opened free
  rw [Tx.sees?, notOwn, committed, Option.none_or] at seen
  obtain ⟨r, found, rfl⟩ := Option.map_eq_some_iff.mp seen
  exact delivered r found

/-- A delivered message is not claimed. -/
theorem claimNext_of_delivered (inv : v.Sound) (opened : v.tx h = some tx)
    (free : id ∉ tx.locks ∧ ¬ tx.Carries id)
    (delivered : ∀ r, v.store.row? id = some r → r.message.isPending = false) {m : QueuedMessage}
    {p : Store × Tx} (answer : tx.claimNext v.store = .ok (some m, p)) : m.id ≠ id := by
  rintro rfl
  obtain ⟨notOwn, committed⟩ := inv.seen_of_free opened free
  rcases Tx.claimNext_cases tx v.store with
    ⟨empty, -⟩ | ⟨own, hown, got⟩ | ⟨row, hrow, st', tx', -, got⟩
  · rw [empty] at answer
    cases answer
  · rw [got] at answer
    cases answer
    exact Changes.inserted?_eq_none_iff.mp notOwn (List.mem_map_of_mem hown)
  · rw [got] at answer
    cases answer
    obtain ⟨-, seen, claimable, -⟩ := Tx.mem_claimableRows.mp hrow
    have waits := QueuedMessage.isPending_of_isClaimable claimable
    have shown : tx.sees? v.store row.message.id = some row.message := by
      rw [Tx.sees?, notOwn, Option.none_or]
      exact seen
    rw [inv.settled_of_delivered opened free delivered shown] at waits
    cases waits

end Sound

end View

/-! ## Systems -/

theorem Call.eq_of_seenFrom_purge {i : StoreId} {c : Call} {cutoff : Timestamp}
    (h : c.seenFrom i = .purges cutoff) : c = .purge i cutoff := by
  cases c with
  | purge j other =>
      rw [seenFrom] at h
      split at h
      · next here =>
          cases h
          rw [here]
      · cases h
  | beginTx j | request now j k r | commit j k | requeue j id | deleteDeadLetter j id =>
      rw [seenFrom] at h
      split at h <;> cases h
  | rollback j k | drop k => cases h

theorem Call.eq_of_seenFrom_requeue {i : StoreId} {c : Call} {id : MessageId}
    (h : c.seenFrom i = .requeues id) : c = .requeue i id := by
  cases c with
  | requeue j other =>
      rw [seenFrom] at h
      split at h
      · next here =>
          cases h
          rw [here]
      · cases h
  | beginTx j | request now j k r | commit j k | deleteDeadLetter j id | purge j cutoff =>
      rw [seenFrom] at h
      split at h <;> cases h
  | rollback j k | drop k => cases h

namespace System

variable {s : System} {i : StoreId} {id : MessageId}

/-- **The message is settled**: no claim answers it, to mark it changes nothing, and to count a
failure on it is refused. -/
structure Settled (s : System) (i : StoreId) (id : MessageId) : Prop where
  claim : ∀ now k m, (s.request now i k .claimNext).1 = .ok (some (some m)) → m.id ≠ id
  mark : ∀ t ∈ s.openOn i, ∀ now, s.request now i t.handle (.markProcessed id) = (.ok (some ()), s)
  count : ∀ t ∈ s.openOn i, ∀ now error,
    s.request now i t.handle (.incrementRetry id error) = (.error (.notFound id), s)

/-- The row, of a message delivered before the cutoff, is purged in the course of `later`. -/
def PurgesIn (s : System) (i : StoreId) (r : Row) (later : List Call) : Prop :=
  ∃ calls cutoff, calls ++ [.purge i cutoff] <+: later ∧
    ((s.run calls).store i).row? r.id = some r ∧ Store.processedBefore cutoff r.message = true

/-- The message is a dead letter and put back in the course of `later`. -/
def RequeuesIn (s : System) (i : StoreId) (id : MessageId) (later : List Call) : Prop :=
  ∃ calls, calls ++ [.requeue i id] <+: later ∧ ((s.run calls).store i).row? id = none ∧
    ∃ d, ((s.run calls).store i).deadLetter? id = some d

theorem PurgesIn.append {r : Row} {calls : List Call} (h : s.PurgesIn i r calls)
    (more : List Call) : s.PurgesIn i r (calls ++ more) := by
  obtain ⟨first, cutoff, isPrefix, here⟩ := h
  exact ⟨first, cutoff, isPrefix.trans (List.prefix_append calls more), here⟩

theorem RequeuesIn.append {calls : List Call} (h : s.RequeuesIn i id calls)
    (more : List Call) : s.RequeuesIn i id (calls ++ more) := by
  obtain ⟨first, isPrefix, here⟩ := h
  exact ⟨first, isPrefix.trans (List.prefix_append calls more), here⟩

theorem settled_of_delivered (distinct : s.Distinct) (inv : (s.view i).Sound)
    (uncarried : ∀ h tx, (s.view i).tx h = some tx → ¬ tx.Carries id)
    (delivered : ∀ r, (s.store i).row? id = some r → r.message.isPending = false) :
    s.Settled i id := by
  have free := inv.free_of_delivered delivered uncarried
  -- what is answered to a transaction that is open on the store
  have answer : ∀ t ∈ s.openOn i, ∀ now (r : TxRequest) (a : Option r.Answer),
      t.tx.request (s.store i) now r = .ok (a, s.store i, t.tx) →
        s.request now i t.handle r = (.ok a, s) := by
    intro t ht now r a done
    obtain ⟨member, home⟩ := mem_openOn.mp ht
    rw [request, open?_of_mem distinct member]
    dsimp only
    rw [if_pos home, done]
    dsimp only
    rw [← home, put_self (distinct.sole member)]
  have settled : ∀ t ∈ s.openOn i, ∀ m, t.tx.sees? (s.store i) id = some m → m.isPending = false :=
    fun t ht m seen => by
      have opened := view_tx_of_mem distinct ht
      exact inv.settled_of_delivered opened (free t.handle t.tx opened) delivered seen
  refine ⟨?_, ?_, ?_⟩
  · intro now k m claimed
    cases opened : (s.view i).tx k with
    | none =>
        obtain ⟨reason, refused⟩ := request_elsewhere opened now .claimNext
        rw [refused] at claimed
        cases claimed
    | some tx =>
        obtain ⟨t, ht, home, rfl⟩ := view_tx_eq_some_iff.mp opened
        rw [request_answer ht home, Tx.request] at claimed
        cases got : t.tx.claimNext (s.store i) with
        | error e =>
            rw [got] at claimed
            cases claimed
        | ok p =>
            rw [got] at claimed
            obtain ⟨o, p⟩ := p
            cases claimed
            exact inv.claimNext_of_delivered opened (free k t.tx opened) delivered got
  · intro t ht now
    refine answer t ht now (.markProcessed id) (some ()) ?_
    rw [Tx.request, Tx.markProcessed_of_settled (settled t ht) now]
    rfl
  · intro t ht now error
    obtain ⟨member, home⟩ := mem_openOn.mp ht
    rw [request, open?_of_mem distinct member]
    dsimp only
    rw [if_pos home, Tx.request, Tx.incrementRetry_of_settled (settled t ht) now error]

/-- What transactions would write over rows comes from these, after every run. -/
theorem ahead_run {n : Nat} (hi : i.index < n) {calls : List Call}
    (once : Call.AddsOnce i calls) : (((ofSize n).run calls).view i).Ahead := by
  induction calls using List.reverseRecOn with
  | nil =>
      rw [run_nil, view_ofSize hi]
      intro h tx opened
      cases opened
  | append_singleton before c ih =>
      rw [run_concat, view_step (orderly_run (orderly_ofSize n) _) (index_lt_run hi _)]
      exact (ih once.of_append).step (sound_run hi once.of_append) _

section Runs

variable {n : Nat} (hi : i.index < n) {before later : List Call}
  (once : Call.AddsOnce i (before ++ later)) {r : Row}
  (found : (((ofSize n).run before).store i).row? id = some r)
include hi once found

/-- The name of a stored message is never carried again. -/
theorem uncarried_run :
    ∀ h tx, (((ofSize n).run (before ++ later)).view i).tx h = some tx → ¬ tx.Carries id := by
  -- the message was added before
  have given : id ∈ (Call.added i before).map (·.id) := by
    have stored : ¬ (((ofSize n).run before).store i).Unused id := fun unused => by
      cases unused.1.symm.trans found
    have origin := (traced_run hi before).given_of_stored stored
    rw [List.map_map] at origin
    exact origin
  induction later using List.reverseRecOn with
  | nil =>
      rw [List.append_nil] at once ⊢
      exact (sound_run hi once).uncarried_of_row found
  | append_singleton calls c ih =>
      rw [← List.append_assoc] at once ⊢
      intro h tx opened carried
      rw [run_concat, view_step (orderly_run (orderly_ofSize n) _) (index_lt_run hi _)] at opened
      rcases (sound_run hi once.of_append).carries_step opened carried with
        ⟨ux, hk, old⟩ | ⟨m, added, rfl⟩
      · exact ih once.of_append h ux hk old
      · refine once.fresh added ?_
        rw [Call.added, List.filterMap_append, List.map_append]
        exact List.mem_append_left _ given

/-- **A delivered row stays as it is**, until it is purged; then nothing is stored under its
name. -/
theorem delivered_run (delivered : r.message.isPending = false) :
    (((ofSize n).run (before ++ later)).store i).row? id = some r ∨
      (((ofSize n).run (before ++ later)).store i).Unused id ∧
        ((ofSize n).run before).PurgesIn i r later := by
  induction later using List.reverseRecOn with
  | nil =>
      rw [List.append_nil]
      exact Or.inl found
  | append_singleton calls c ih =>
      rw [← List.append_assoc] at once ⊢
      have inv := sound_run hi once.of_append
      have uncarried := uncarried_run hi once.of_append found
      rw [run_concat, store_step (orderly_run (orderly_ofSize n) _) (index_lt_run hi _)]
      rcases ih once.of_append with here | ⟨unused, purged⟩
      · rcases inv.delivered_step uncarried here delivered (c.seenFrom i) with
          stays | ⟨gone, cutoff, purge, old⟩
        · exact Or.inl stays
        · -- the last call is the purge
          refine Or.inr ⟨gone, calls, cutoff, ?_, ?_, old⟩
          · exact Call.eq_of_seenFrom_purge purge ▸ List.prefix_rfl
          · rw [← run_append, Store.id_of_row? found]
            exact here
      · exact Or.inr ⟨inv.unused_step uncarried unused _, purged.append [c]⟩

/-- **The count of a row does not decrease**, until the message leaves the rows and is put back. -/
theorem retryCount_run {r' : Row}
    (found' : (((ofSize n).run (before ++ later)).store i).row? id = some r') :
    r.message.retryCount ≤ r'.message.retryCount ∨
      ((ofSize n).run before).RequeuesIn i id later := by
  induction later using List.reverseRecOn generalizing r' with
  | nil =>
      rw [List.append_nil] at found'
      cases found.symm.trans found'
      exact Or.inl (UInt32.le_refl _)
  | append_singleton calls c ih =>
      rw [← List.append_assoc] at once found'
      have inv := sound_run hi once.of_append
      have uncarried := uncarried_run hi once.of_append found
      rw [run_concat, store_step (orderly_run (orderly_ofSize n) _) (index_lt_run hi _)] at found'
      cases middle : (((ofSize n).run (before ++ calls)).store i).row? id with
      | none =>
          rcases inv.absent_step uncarried middle (c.seenFrom i) with absent | ⟨back, dead⟩
          · cases absent.symm.trans found'
          · -- the last call puts the message back
            refine Or.inr ⟨calls, ?_, ?_, ?_⟩
            · exact Call.eq_of_seenFrom_requeue back ▸ List.prefix_rfl
            · rw [← run_append]
              exact middle
            · rw [← run_append]
              exact dead
      | some r₁ =>
          rcases ih once.of_append middle with on | back
          · have last := inv.retryCount_step (ahead_run hi once.of_append) middle found'
            exact Or.inl (UInt32.le_trans on last)
          · exact Or.inr (back.append [c])

end Runs

/-- **Delivery is final and counts only grow.** If no name is added twice, then a row that was
delivered stays as it is until it is purged, and its message is settled: nobody is handed it, to
mark it changes nothing, and no failure is counted on it. And the count of a row never decreases
before its message became a dead letter and was put back. -/
theorem finality {n : Nat} (hi : i.index < n) {before later : List Call}
    (once : Call.AddsOnce i (before ++ later)) {r : Row}
    (found : (((ofSize n).run before).store i).row? id = some r) :
    let s := (ofSize n).run before
    (r.message.isPending = false →
      (((s.run later).store i).row? id = some r ∨
        ((s.run later).store i).Unused id ∧ s.PurgesIn i r later) ∧ (s.run later).Settled i id) ∧
      ∀ r', ((s.run later).store i).row? id = some r' →
        r.message.retryCount ≤ r'.message.retryCount ∨ s.RequeuesIn i id later := by
  intro s
  rw [← run_append]
  refine ⟨fun delivered => ?_, fun r' found' => retryCount_run hi once found found'⟩
  have stays := delivered_run hi once found delivered
  have distinct := distinct_run (orderly_ofSize n) List.nodup_nil (before ++ later)
  refine ⟨stays, settled_of_delivered distinct (sound_run hi once)
    (uncarried_run hi once found) ?_⟩
  intro r' found'
  rcases stays with here | ⟨unused, -⟩
  · cases here.symm.trans found'
    exact delivered
  · cases unused.1.symm.trans found'

/-- A run in which a message is delivered. -/
def handedOver : List Call :=
  [.beginTx ⟨0⟩, .request default ⟨0⟩ ⟨0⟩ (.add (.fresh default default "ping" .null)),
    .commit ⟨0⟩ ⟨0⟩, .beginTx ⟨0⟩, .request default ⟨0⟩ ⟨1⟩ (.markProcessed default),
    .commit ⟨0⟩ ⟨1⟩]

/-- After `handedOver`, the row stays when another transaction begins, its message is settled for
that transaction, and its count does not go back, whatever is called later. -/
theorem finality_handedOver :
    ∃ r, (((ofSize 1).run handedOver).store ⟨0⟩).row? default = some r ∧
      r.message.isPending = false ∧
      ((((ofSize 1).run handedOver).run [.beginTx ⟨0⟩]).store ⟨0⟩).row? default = some r ∧
      (((ofSize 1).run handedOver).run [.beginTx ⟨0⟩]).Settled ⟨0⟩ default ∧
      ∀ later, Call.AddsOnce ⟨0⟩ (handedOver ++ later) → ∀ r',
        ((((ofSize 1).run handedOver).run later).store ⟨0⟩).row? default = some r' →
          r.message.retryCount ≤ r'.message.retryCount ∨
            ((ofSize 1).run handedOver).RequeuesIn ⟨0⟩ default later := by
  have found : (((ofSize 1).run handedOver).store ⟨0⟩).row? default = some
      ⟨0, (QueuedMessage.fresh default default "ping" .null).markProcessed default⟩ := rfl
  have begun : Call.AddsOnce ⟨0⟩ (handedOver ++ [.beginTx ⟨0⟩]) := by decide
  have settled := ((finality (n := 1) (i := ⟨0⟩) (by decide) begun found).1 rfl).2
  have counts := fun later (once : Call.AddsOnce ⟨0⟩ (handedOver ++ later)) =>
    (finality (n := 1) (i := ⟨0⟩) (by decide) once found).2
  exact ⟨_, found, rfl, rfl, settled, counts⟩

end System

end MaintenanceOutbox
