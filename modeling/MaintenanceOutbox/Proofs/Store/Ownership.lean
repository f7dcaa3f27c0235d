import MaintenanceOutbox.Proofs.Store.Tidy

set_option autoImplicit false

/-! # Every message belongs to somebody

A message that an open transaction writes about is one of two kinds. It is committed, and then the
transaction holds its lock; or it is new, and then the transaction carries it: nothing is stored
under its name until the transaction commits.

`View.Sound` is the invariant behind this. It is kept by everything that happens to a store, on one
condition (`View.Apart`): no message is added while another open transaction carries its name. The
store does not check that itself. What follows is that a commit touches only messages that its
transaction has locked or carries (`View.Sound.commit_frame`).
-/

namespace MaintenanceOutbox

/-- Nothing is stored under the name. -/
def Store.Unused (st : Store) (id : MessageId) : Prop :=
  st.row? id = none ∧ st.deadLetter? id = none

/-- The changes bring a new message into the store, into either table. Dead letters under a lock are
not new. -/
def Changes.Brings (c : Changes) (locks : List MessageId) (id : MessageId) : Prop :=
  id ∈ c.inserted.map (·.id) ∨ id ∈ c.deadLettered.map (·.id) ∧ id ∉ locks

/-- The transaction carries a new message. -/
def Tx.Carries (tx : Tx) (id : MessageId) : Prop :=
  tx.changes.Brings tx.locks id

namespace Changes

variable {c d : Changes} {locks more : List MessageId} {id : MessageId}

/-- With more locks, fewer messages are new. -/
theorem Brings.of_subset (h : c.Brings more id) (sub : locks ⊆ more) : c.Brings locks id := by
  rcases h with new | ⟨dead, free⟩
  · exact Or.inl new
  · exact Or.inr ⟨dead, fun held => free (sub held)⟩

/-- What is new and not locked stays new, as long as the changes do not forget it. -/
theorem Brings.mono (h : c.Brings locks id) (free : id ∉ more)
    (new : id ∈ c.inserted.map (·.id) →
      id ∈ d.inserted.map (·.id) ∨ id ∈ d.deadLettered.map (·.id))
    (dead : id ∈ c.deadLettered.map (·.id) → id ∈ d.deadLettered.map (·.id)) :
    d.Brings more id := by
  rcases h with here | ⟨here, -⟩
  · rcases new here with still | buried
    · exact Or.inl still
    · exact Or.inr ⟨buried, free⟩
  · exact Or.inr ⟨dead here, free⟩

end Changes

namespace Tx

variable {tx tx' : Tx} {st st' : Store} {r : TxRequest}

/-- A lock that a request takes is on a pending row. -/
theorem Moves.row_of_locked (h : tx.Moves st r st' tx')
    (updated : ∀ m ∈ tx.changes.updated, m.id ∈ tx.locks) {id : MessageId}
    (held : id ∈ tx'.locks) (new : id ∉ tx.locks) :
    ∃ row, st.row? id = some row ∧ row.message.isPending = true := by
  rcases h.locks with ⟨same, -⟩ | ⟨id', m, -, -, -, more, seen, pending⟩
  · exact absurd (same ▸ held) new
  · have here : id = id' := by
      rw [more, List.mem_append, List.mem_singleton] at held
      exact held.resolve_left new
    subst here
    rcases (committedView_cases seen).2 with changed | ⟨-, row, found, rfl⟩
    · exact absurd (id_of_committedView seen ▸ updated m changed) new
    · exact ⟨row, found, pending⟩

/-- **What a transaction comes to carry**: the message of a request to add one, under a free
name. -/
theorem Moves.carries (h : tx.Moves st r st' tx')
    (saved : ∀ c, tx.savepoint = some c → ∀ id, c.Brings tx.locks id → tx.Carries id)
    {id : MessageId} (carried : tx'.Carries id) :
    tx.Carries id ∨ ∃ m, r = .add m ∧ m.id = id ∧ tx.nameTaken st id = false := by
  cases h with
  | stays | setsSavepoint | forgets => exact Or.inl carried
  | adds m free =>
      rcases carried with new | dead
      · rw [List.map_append, List.mem_append] at new
        rcases new with old | here
        · exact Or.inl (Or.inl old)
        · have name : id = m.id := List.mem_singleton.mp here
          exact Or.inr ⟨m, rfl, name.symm, name ▸ free⟩
      · exact Or.inl (Or.inr dead)
  | takesLock r id₀ m st' tx' seen pending got =>
      have grown : tx.Moves st r st' tx' := .takesLock r id₀ m st' tx' seen pending got
      rw [Carries, (acquire_changes got).1] at carried
      exact Or.inl (carried.of_subset grown.locks_subset)
  | rewritesOwn r id₀ m m' own pending progress =>
      rw [Carries, Changes.Brings,
        Changes.map_id_changeFirst (progress.id_eq.trans (Changes.id_of_inserted? own))] at carried
      exact Or.inl carried
  | buriesOwn r id₀ m d own pending death =>
      -- the message goes from one list to the other
      rcases carried with new | ⟨dead, free⟩
      · obtain ⟨x, hx, rfl⟩ := List.mem_map.mp new
        have still := (Changes.dropFirst_sublist id₀ tx.changes.inserted).subset hx
        exact Or.inl (Or.inl (List.mem_map_of_mem still))
      · rw [List.map_append, List.mem_append] at dead
        rcases dead with old | here
        · exact Or.inl (Or.inr ⟨old, free⟩)
        · have name : id = d.id := List.mem_singleton.mp here
          rw [name, death.id_eq]
          exact Or.inl (Or.inl (List.mem_map_of_mem (Changes.mem_of_inserted? own)))
  | rewrites r id₀ m m' st' tx₁ notOwn seen pending got progress =>
      have grown : tx.locks ⊆ tx₁.locks := (Moves.locks_subset
        (.rewrites r id₀ m m' st' tx₁ notOwn seen pending got progress) :)
      have before : tx₁.changes.Brings tx₁.locks id := carried
      rw [(acquire_changes got).1] at before
      exact Or.inl (before.of_subset grown)
  | buries r id₀ m d st' tx₁ notOwn seen pending got death =>
      have grown : tx.locks ⊆ tx₁.locks := (Moves.locks_subset
        (.buries r id₀ m d st' tx₁ notOwn seen pending got death) :)
      have same := (acquire_changes got).1
      rcases carried with new | ⟨dead, free⟩
      · have before : id ∈ tx₁.changes.inserted.map (·.id) := new
        rw [same] at before
        exact Or.inl (Or.inl before)
      · have buried : id ∈ (tx₁.changes.deadLettered ++ [d]).map (·.id) := dead
        have notHeld : id ∉ tx₁.locks := free
        rw [same, List.map_append, List.mem_append] at buried
        rcases buried with old | here
        · exact Or.inl (Or.inr ⟨old, fun held => notHeld (grown held)⟩)
        · -- the lock of the new dead letter was taken just now
          have buriedHere : id = d.id := List.mem_singleton.mp here
          rw [death.id_eq, id_of_committedView seen] at buriedHere
          exact absurd (buriedHere ▸ mem_locks_of_acquire got) notHeld
  | returns c hc => exact Or.inl (saved c hc id carried)

/-- What the changes at the savepoint bring is still carried: between a savepoint and the return to
it, nothing is forgotten. -/
theorem Moves.saved (h : tx.Moves st r st' tx')
    (saved : ∀ c, tx.savepoint = some c → ∀ id, c.Brings tx.locks id → tx.Carries id)
    (free : ∀ id, tx.Carries id → id ∉ tx'.locks) :
    ∀ c, tx'.savepoint = some c → ∀ id, c.Brings tx'.locks id → tx'.Carries id := by
  intro c hc id brings
  -- as long as the savepoint stays, what it brings was carried before and is not locked now
  have before : tx.savepoint = some c → tx.Carries id :=
    fun same => saved c same id (brings.of_subset h.locks_subset)
  cases h with
  | stays => exact before hc
  | adds m notTaken =>
      have carried := before hc
      refine carried.mono (free id carried) (fun new => Or.inl ?_) (fun dead => dead)
      rw [List.map_append]
      exact List.mem_append_left _ new
  | takesLock r id₀ m st' tx' seen pending got =>
      obtain ⟨sameChanges, sameSavepoint⟩ := acquire_changes got
      have carried := before (sameSavepoint ▸ hc)
      rw [Carries, sameChanges]
      exact carried.mono (free id carried) Or.inl (fun dead => dead)
  | rewritesOwn r id₀ m m' own pending progress =>
      have carried := before hc
      rw [Carries, Changes.Brings,
        Changes.map_id_changeFirst (progress.id_eq.trans (Changes.id_of_inserted? own))]
      exact carried
  | buriesOwn r id₀ m d own pending death =>
      have carried := before hc
      refine carried.mono (free id carried) ?_ ?_
      · intro new
        by_cases buried : id = id₀
        · have name : d.id = id := by rw [death.id_eq, Changes.id_of_inserted? own, buried]
          refine Or.inr ?_
          rw [List.map_append]
          exact List.mem_append_right _ (List.mem_singleton.mpr name.symm)
        · rw [Changes.map_id_dropFirst]
          exact Or.inl ((List.mem_erase_of_ne buried).mpr new)
      · intro dead
        rw [List.map_append]
        exact List.mem_append_left _ dead
  | rewrites r id₀ m m' st' tx₁ notOwn seen pending got progress =>
      obtain ⟨sameChanges, sameSavepoint⟩ := acquire_changes got
      have carried := before (sameSavepoint ▸ hc)
      refine carried.mono (free id carried) (fun new => Or.inl ?_) (fun dead => ?_)
      · rw [← sameChanges] at new
        exact new
      · rw [← sameChanges] at dead
        exact dead
  | buries r id₀ m d st' tx₁ notOwn seen pending got death =>
      obtain ⟨sameChanges, sameSavepoint⟩ := acquire_changes got
      have carried := before (sameSavepoint ▸ hc)
      refine carried.mono (free id carried) (fun new => Or.inl ?_) (fun dead => ?_)
      · rw [← sameChanges] at new
        exact new
      · rw [← sameChanges] at dead
        have longer : id ∈ (tx₁.changes.deadLettered ++ [d]).map (·.id) := by
          rw [List.map_append]
          exact List.mem_append_left _ dead
        exact longer
  | setsSavepoint =>
      cases hc
      exact brings
  | returns c₀ there =>
      cases there.symm.trans hc
      exact brings
  | forgets => cases hc

/-- What a commit makes of a message that it brings: a row or a dead letter. -/
theorem stored_of_carries {tx : Tx} {id : MessageId} (st : Store) (carried : tx.Carries id) :
    (∃ row, (tx.commit st).row? id = some row) ∨ ∃ d, (tx.commit st).deadLetter? id = some d := by
  by_cases dead : id ∈ tx.changes.deadLettered.map (·.id)
  · rcases Changes.deadLetter?_apply_cases tx.changes st id with ⟨-, alive⟩ | ⟨d, -, -, new⟩
    · exact absurd dead alive
    · exact Or.inr ⟨d, new⟩
  · have new := carried.resolve_right fun buried => dead buried.1
    obtain ⟨m, -, -, seq, -, found⟩ := Changes.row?_apply_inserted st new dead
    exact Or.inl ⟨⟨seq, m⟩, found⟩

end Tx

/-! ## The invariant -/

namespace View

/-- **Every message belongs to somebody**: it is stored, and then in one table, or it is carried,
and then by one transaction; and what is locked is stored and waits for delivery. -/
structure Sound (v : View) : Prop where
  locking : v.Locking
  tidy : v.store.Tidy
  tables : ∀ id, v.store.row? id = none ∨ v.store.deadLetter? id = none
  held : ∀ h tx, v.tx h = some tx → ∀ id ∈ tx.locks,
    ∃ row, v.store.row? id = some row ∧ row.message.isPending = true
  unused : ∀ h tx, v.tx h = some tx → ∀ id, tx.Carries id → v.store.Unused id
  sole : ∀ h k tx ux id, v.tx h = some tx → v.tx k = some ux →
    tx.Carries id → ux.Carries id → h = k
  saved : ∀ h tx, v.tx h = some tx → ∀ c, tx.savepoint = some c →
    ∀ id, c.Brings tx.locks id → tx.Carries id

/-- **What the store leaves to its users**: that no message is added while another open transaction
carries its name. -/
def Apart (v : View) (e : Happening) : Prop :=
  ∀ now h m tx, e = .requests now h (.add m) → v.tx h = some tx →
    tx.nameTaken v.store m.id = false → ∀ k ux, v.tx k = some ux → ux.Carries m.id → k = h

theorem sound_empty : empty.Sound where
  locking := locking_empty
  tidy := Store.tidy_empty
  tables _ := Or.inl rfl
  held _ _ opened := nomatch opened
  unused _ _ opened := nomatch opened
  sole _ _ _ _ _ opened := nomatch opened
  saved _ _ opened := nomatch opened

namespace Sound

variable {v : View} {h : TxHandle} {tx : Tx}

/-- What is carried is not locked. -/
theorem not_locked (inv : v.Sound) (opened : v.tx h = some tx) {id : MessageId}
    (carried : tx.Carries id) {k : TxHandle} {ux : Tx} (hk : v.tx k = some ux) : id ∉ ux.locks := by
  intro held
  obtain ⟨row, found, -⟩ := inv.held k ux hk id held
  rw [(inv.unused h tx opened id carried).1] at found
  cases found

/-- The changes of a transaction are about messages that it has locked or carries. -/
theorem locked_or_carried (inv : v.Sound) (opened : v.tx h = some tx) {id : MessageId}
    (named : id ∈ tx.changes.names) : id ∈ tx.locks ∨ tx.Carries id := by
  rcases Changes.mem_names.mp named with new | changed | dead
  · exact Or.inr (Or.inl new)
  · obtain ⟨m, hm, rfl⟩ := List.mem_map.mp changed
    exact Or.inl (inv.locking.updated h tx opened tx.changes tx.keeps_changes m hm)
  · by_cases held : id ∈ tx.locks
    · exact Or.inl held
    · exact Or.inr (Or.inr ⟨dead, held⟩)

/-- **A commit touches only messages that its transaction has locked or carries.** -/
theorem commit_frame (inv : v.Sound) (opened : v.tx h = some tx) {id : MessageId}
    (free : id ∉ tx.locks) (foreign : ¬ tx.Carries id) :
    (tx.commit v.store).row? id = v.store.row? id ∧
      (tx.commit v.store).deadLetter? id = v.store.deadLetter? id := by
  have unnamed : id ∉ tx.changes.names := fun named =>
    (inv.locked_or_carried opened named).elim free foreign
  refine ⟨Changes.row?_apply_frame v.store unnamed, ?_⟩
  refine Changes.deadLetter?_apply_frame v.store (fun dead => unnamed ?_)
  exact Changes.mem_names.mpr (Or.inr (Or.inr dead))

/-- What a transaction carries is not touched by the commit of another one. -/
theorem unused_commit (inv : v.Sound) (opened : v.tx h = some tx) {k : TxHandle} {ux : Tx}
    (hk : v.tx k = some ux) (other : k ≠ h) {id : MessageId} (carried : ux.Carries id) :
    (tx.commit v.store).Unused id := by
  have free : id ∉ tx.locks := inv.not_locked hk carried opened
  have foreign : ¬ tx.Carries id := fun both => other (inv.sole k h ux tx id hk opened carried both)
  obtain ⟨sameRow, sameDead⟩ := inv.commit_frame opened free foreign
  obtain ⟨noRow, noDead⟩ := inv.unused k ux hk id carried
  exact ⟨sameRow.trans noRow, sameDead.trans noDead⟩

/-- After a commit, no name is in both tables. -/
theorem tables_commit (inv : v.Sound) (opened : v.tx h = some tx) (id : MessageId) :
    (tx.commit v.store).row? id = none ∨ (tx.commit v.store).deadLetter? id = none := by
  cases found : (tx.commit v.store).row? id with
  | none => exact Or.inl rfl
  | some row =>
      refine Or.inr ?_
      -- either the name had a row before, or it was unused
      obtain ⟨alive, origin⟩ := Changes.row?_apply_cases (found :)
      refine (Changes.deadLetter?_apply_frame v.store alive).trans ?_
      rcases origin with ⟨old, -⟩ | ⟨old, hold, -⟩ | ⟨m, hm, name, -⟩
      · exact (inv.tables id).resolve_left (by simp [old])
      · exact (inv.tables id).resolve_left (by simp [hold])
      · exact (inv.unused h tx opened id (Or.inl (name ▸ List.mem_map_of_mem hm))).2

theorem of_begins (inv : v.Sound) : (v.step .begins).Sound := by
  -- the new transaction has no locks and carries nothing
  have cases' : ∀ {k ux}, (v.step .begins).tx k = some ux → ux = {} ∨ v.tx k = some ux := by
    intro k ux hk
    rcases update_cases hk with ⟨-, new⟩ | ⟨-, old⟩
    · exact Or.inl (Option.some.inj new).symm
    · exact Or.inr old
  have empty : ∀ id, ¬ ({} : Tx).Carries id := by
    rintro id (new | ⟨dead, -⟩)
    · cases new
    · cases dead
  refine ⟨inv.locking.of_begins, inv.tidy, inv.tables, ?_, ?_, ?_, ?_⟩
  · intro k ux hk id held
    rcases cases' hk with rfl | old
    · cases held
    · exact inv.held k ux old id held
  · intro k ux hk id carried
    rcases cases' hk with rfl | old
    · exact absurd carried (empty id)
    · exact inv.unused k ux old id carried
  · intro k l ux wx id hk hl carried carried'
    rcases cases' hk with rfl | old
    · exact absurd carried (empty id)
    · rcases cases' hl with rfl | old'
      · exact absurd carried' (empty id)
      · exact inv.sole k l ux wx id old old' carried carried'
  · intro k ux hk c hc id brings
    rcases cases' hk with rfl | old
    · cases hc
    · exact inv.saved k ux old c hc id brings

/-- A request keeps the invariant, if what it adds is nobody else's. -/
theorem of_moves (inv : v.Sound) {tx' : Tx} {st : Store} {r : TxRequest}
    (opened : v.tx h = some tx) (moves : tx.Moves v.store r st tx')
    (apart : ∀ m, r = .add m → tx.nameTaken v.store m.id = false →
      ∀ k ux, v.tx k = some ux → ux.Carries m.id → k = h) :
    { v with store := st, tx := Function.update v.tx h (some tx') : View }.Sound := by
  have updated : ∀ m ∈ tx.changes.updated, m.id ∈ tx.locks :=
    inv.locking.updated h tx opened tx.changes tx.keeps_changes
  have sameUse : ∀ id, v.store.Unused id → st.Unused id := fun id ⟨noRow, noDead⟩ =>
    ⟨(moves.row? id).trans noRow, (moves.deadLetter? id).trans noDead⟩
  have carries : ∀ {id}, tx'.Carries id →
      tx.Carries id ∨ ∃ m, r = .add m ∧ m.id = id ∧ tx.nameTaken v.store id = false :=
    fun carried => moves.carries (inv.saved h tx opened) carried
  -- a lock is taken only on something stored, and what is carried is not stored
  have free : ∀ id, tx.Carries id → id ∉ tx'.locks := by
    intro id carried held
    by_cases old : id ∈ tx.locks
    · exact inv.not_locked opened carried opened old
    · obtain ⟨row, found, -⟩ := moves.row_of_locked updated held old
      rw [(inv.unused h tx opened id carried).1] at found
      cases found
  -- what another transaction carries does not come to be carried by this one
  have nobody : ∀ {k ux id}, k ≠ h → v.tx k = some ux → ux.Carries id → ¬ tx'.Carries id := by
    intro k ux id other hk carried carried'
    rcases carries carried' with old | ⟨m, rfl, rfl, notTaken⟩
    · exact other (inv.sole k h ux tx id hk opened carried old)
    · exact other (apart m rfl notTaken k ux hk carried)
  refine ⟨inv.locking.of_moves opened moves, moves.tables ▸ inv.tidy.of_locked _,
    ?_, ?_, ?_, ?_, ?_⟩
  · -- the tables stay as they are
    intro id
    rw [moves.row?, moves.deadLetter?]
    exact inv.tables id
  · -- locks are on pending rows
    intro k ux hk id held
    rw [moves.row?]
    rcases update_cases hk with ⟨rfl, new⟩ | ⟨-, old⟩
    · cases new
      by_cases before : id ∈ tx.locks
      · exact inv.held k tx opened id before
      · exact moves.row_of_locked updated held before
    · exact inv.held k ux old id held
  · intro k ux hk id carried
    rcases update_cases hk with ⟨rfl, new⟩ | ⟨-, old⟩
    · cases new
      rcases carries carried with before | ⟨m, -, rfl, notTaken⟩
      · exact sameUse id (inv.unused k tx opened id before)
      · -- `add` has looked for the name in the tables
        exact sameUse m.id (Tx.nameTaken_eq_false_iff.mp notTaken).1
    · exact sameUse id (inv.unused k ux old id carried)
  · intro k l ux wx id hk hl carried carried'
    rcases update_cases hk with ⟨rfl, new⟩ | ⟨other, old⟩
    · cases new
      rcases update_cases hl with ⟨rfl, -⟩ | ⟨other', old'⟩
      · rfl
      · exact absurd carried (nobody other' old' carried')
    · rcases update_cases hl with ⟨rfl, new⟩ | ⟨other', old'⟩
      · cases new
        exact absurd carried' (nobody other old carried)
      · exact inv.sole k l ux wx id old old' carried carried'
  · intro k ux hk
    rcases update_cases hk with ⟨rfl, new⟩ | ⟨-, old⟩
    · cases new
      exact moves.saved (inv.saved k tx opened) free
    · exact inv.saved k ux old

/-- A transaction that ends keeps the invariant, if the tables do not lose what others hold and do
not get what others carry. -/
theorem of_ends (inv : v.Sound) {st : Store} (opened : v.tx h = some tx)
    (freed : st.locked = v.store.locked.filter (· ∉ tx.locks)) (tidy : st.Tidy)
    (tables : ∀ id, st.row? id = none ∨ st.deadLetter? id = none)
    (held : ∀ k ux, k ≠ h → v.tx k = some ux → ∀ id ∈ ux.locks, st.row? id = v.store.row? id)
    (unused : ∀ k ux, k ≠ h → v.tx k = some ux → ∀ id, ux.Carries id → st.Unused id) :
    { v with store := st, tx := Function.update v.tx h none : View }.Sound := by
  refine ⟨inv.locking.of_ends opened freed, tidy, tables, ?_, ?_, ?_, ?_⟩
  · intro k ux hk id lock
    obtain ⟨other, old⟩ := of_update_none hk
    rw [held k ux other old id lock]
    exact inv.held k ux old id lock
  · intro k ux hk
    obtain ⟨other, old⟩ := of_update_none hk
    exact unused k ux other old
  · intro k l ux wx id hk hl
    exact inv.sole k l ux wx id (of_update_none hk).2 (of_update_none hl).2
  · intro k ux hk
    exact inv.saved k ux (of_update_none hk).2

/-- A change of the tables by an operator keeps the invariant, if it spares what is locked and uses
no name that was unused. -/
theorem of_tables (inv : v.Sound) {st : Store} (same : st.locked = v.store.locked) (tidy : st.Tidy)
    (tables : ∀ id, st.row? id = none ∨ st.deadLetter? id = none)
    (held : ∀ id row, v.store.row? id = some row → row.message.isPending = true →
      st.row? id = some row)
    (unused : ∀ id, v.store.Unused id → st.Unused id) :
    { v with store := st : View }.Sound := by
  refine ⟨inv.locking.of_tables same, tidy, tables, ?_, ?_, inv.sole, inv.saved⟩
  · intro k ux hk id lock
    obtain ⟨row, found, pending⟩ := inv.held k ux hk id lock
    exact ⟨row, held id row found pending, pending⟩
  · intro k ux hk id carried
    exact unused id (inv.unused k ux hk id carried)

/-- A dead letter goes back into the queue. -/
theorem of_requeues (inv : v.Sound) {id : MessageId} {m : QueuedMessage} {st : Store}
    (done : v.store.requeue id = .ok (m, st)) : { v with store := st : View }.Sound := by
  obtain ⟨d, dead, -, same, rows, deads⟩ := Store.requeue_cases done
  have noRow : v.store.row? id = none := (inv.tables id).resolve_right (by simp [dead])
  refine inv.of_tables same (inv.tidy.requeue done) ?_ ?_ ?_
  · intro x
    rw [rows, deads]
    by_cases moved : id = x
    · exact Or.inr (if_pos moved)
    · rw [if_neg moved, if_neg moved]
      exact inv.tables x
  · -- what has a row was no dead letter
    intro x row found _
    have other : id ≠ x := by
      rintro rfl
      rw [noRow] at found
      cases found
    rw [rows, if_neg other]
    exact found
  · rintro x ⟨noRow', noDead⟩
    have other : id ≠ x := by
      rintro rfl
      rw [dead] at noDead
      cases noDead
    rw [Store.Unused, rows, deads, if_neg other, if_neg other]
    exact ⟨noRow', noDead⟩

/-- A dead letter is deleted. -/
theorem of_deletes (inv : v.Sound) {id : MessageId} {st : Store}
    (done : v.store.deleteDeadLetter id = .ok st) : { v with store := st : View }.Sound := by
  obtain ⟨-, same, rows, deads⟩ := Store.deleteDeadLetter_cases done
  have fewer : ∀ x, v.store.deadLetter? x = none → st.deadLetter? x = none := by
    intro x noDead
    rw [deads, noDead, ite_self]
  refine inv.of_tables same (inv.tidy.deleteDeadLetter done) ?_ ?_ ?_
  · intro x
    rw [rows]
    exact (inv.tables x).imp_right (fewer x)
  · intro x row found _
    rw [rows]
    exact found
  · rintro x ⟨noRow, noDead⟩
    exact ⟨(rows x).trans noRow, fewer x noDead⟩

/-- Delivered rows are purged. -/
theorem of_purges (inv : v.Sound) (cutoff : Timestamp) :
    { v with store := (v.store.purge cutoff).2 : View }.Sound := by
  refine inv.of_tables rfl (inv.tidy.purge cutoff) ?_ ?_ ?_
  · intro x
    rw [Store.row?_purge inv.tidy]
    refine (inv.tables x).imp_left fun noRow => ?_
    rw [noRow, Option.filter_none]
  · intro x row found pending
    exact Store.row?_purge_of_isPending inv.tidy cutoff found pending
  · rintro x ⟨noRow, noDead⟩
    refine ⟨?_, noDead⟩
    rw [Store.row?_purge inv.tidy, noRow, Option.filter_none]

/-- **The invariant holds on**, whatever happens, if messages are added apart. -/
theorem step (inv : v.Sound) {e : Happening} (apart : v.Apart e) : (v.step e).Sound := by
  cases e with
  | nothing => exact inv
  | elsewhere =>
      exact ⟨inv.locking.step .elsewhere, inv.tidy, inv.tables, inv.held, inv.unused, inv.sole,
        inv.saved⟩
  | begins => exact inv.of_begins
  | requests now h r =>
      rw [View.step]
      split
      · exact inv
      · next tx opened =>
          split
          · exact inv
          · next done =>
              refine inv.of_moves opened (Tx.request_moves done) ?_
              intro m add notTaken
              exact apart now h m tx (by rw [add]) opened notTaken
  | commits h =>
      rw [View.step]
      split
      · exact inv
      · next tx opened =>
          refine inv.of_ends opened ?_ ((inv.tidy.apply tx.changes).of_locked _)
            (inv.tables_commit opened) ?_ ?_
          · rw [Tx.commit, Store.unlock, Changes.locked_apply]
          · intro k ux other hk id held
            have free : id ∉ tx.locks :=
              fun held' => other (inv.locking.apart k h ux tx id hk opened held held')
            have foreign : ¬ tx.Carries id := fun carried => inv.not_locked opened carried hk held
            exact (inv.commit_frame opened free foreign).1
          · intro k ux other hk id carried
            exact inv.unused_commit opened hk other carried
  | releases h =>
      rw [View.step]
      split
      · exact inv
      · next tx opened =>
          exact inv.of_ends opened rfl (inv.tidy.of_locked _) inv.tables (fun _ _ _ _ _ _ => rfl)
            (fun k ux _ hk => inv.unused k ux hk)
  | requeues id =>
      rw [View.step]
      split
      · exact inv
      · next done => exact inv.of_requeues done
  | deletes id =>
      rw [View.step]
      split
      · exact inv
      · next done => exact inv.of_deletes done
  | purges cutoff => exact inv.of_purges cutoff

end Sound

end View

end MaintenanceOutbox
