import MaintenanceOutbox.Proofs.Store.Tidy

set_option autoImplicit false

/-! # What holds of every message

A message can be in four places: in a row, among the dead letters, among the new or changed messages
that an open transaction may still commit, and among the dead letters that it may still commit.
`View.Everywhere` says that messages have a property `P` wherever they are, and dead letters a
property `Q`.

Whatever happens to a store, messages only move between these places, and change there by attempts
at delivery or by being put back into the queue. So it is enough that attempts keep `P` and lead to
`Q`, and that a dead letter with `Q` goes back with `P` (`QueuedMessage.Lasting`). Then what holds
of all messages that are given to `add` holds everywhere (`System.everywhere_run`).
-/

namespace MaintenanceOutbox

/-- **A property of messages that lasts**: attempts at delivery keep `P`, and use up a budget with
`Q`; a dead letter with `Q` is put back with `P`. -/
structure QueuedMessage.Lasting (P : QueuedMessage → Prop) (Q : DeadLetter → Prop) : Prop where
  progress : ∀ {m m'}, P m → m.isPending = true → m.Progress m' → P m'
  death : ∀ {m d}, P m → m.isPending = true → m.Death d → Q d
  requeued : ∀ {d}, Q d → P d.requeued

/-- All messages that the changes would write have the property. -/
structure Changes.All (P : QueuedMessage → Prop) (Q : DeadLetter → Prop) (c : Changes) : Prop where
  inserted : ∀ m ∈ c.inserted, P m
  updated : ∀ m ∈ c.updated, P m
  deadLettered : ∀ d ∈ c.deadLettered, Q d

variable {P : QueuedMessage → Prop} {Q : DeadLetter → Prop}

namespace Changes.All

variable {c : Changes}

theorem empty : ({} : Changes).All P Q :=
  ⟨fun _ h => absurd h List.not_mem_nil, fun _ h => absurd h List.not_mem_nil,
    fun _ h => absurd h List.not_mem_nil⟩

theorem update (h : c.All P Q) {m : QueuedMessage} (hm : P m) : (c.update m).All P Q := by
  refine ⟨h.inserted, ?_, h.deadLettered⟩
  intro x hx
  rcases List.mem_append.mp hx with old | new
  · exact h.updated x (List.mem_filter.mp old).1
  · exact List.mem_singleton.mp new ▸ hm

theorem bury (h : c.All P Q) {d : DeadLetter} (hd : Q d) : (c.bury d).All P Q := by
  refine ⟨h.inserted, fun x hx => h.updated x (List.mem_filter.mp hx).1, ?_⟩
  intro x hx
  rcases List.mem_append.mp hx with old | new
  · exact h.deadLettered x old
  · exact List.mem_singleton.mp new ▸ hd

end Changes.All

namespace Tx

variable {tx tx' : Tx} {st st' : Store} {r : TxRequest}

/-- What a transaction sees is in a row or among its changes. -/
theorem of_committedView {id : MessageId} {m : QueuedMessage}
    (seen : tx.committedView st id = some m)
    (rows : ∀ id row, st.row? id = some row → P row.message)
    (changes : tx.changes.All P Q) : P m := by
  rcases (committedView_cases seen).2 with changed | ⟨-, row, found, rfl⟩
  · exact changes.updated m changed
  · exact rows id row found

theorem of_sees? {id : MessageId} {m : QueuedMessage} (seen : tx.sees? st id = some m)
    (rows : ∀ id row, st.row? id = some row → P row.message) (changes : tx.changes.All P Q) :
    P m := by
  rcases Option.or_eq_some_iff.mp seen with own | ⟨-, committed⟩
  · exact changes.inserted m (Changes.mem_of_inserted? own)
  · exact of_committedView committed rows changes

/-- A request writes nothing but messages that are there already, after an attempt at delivery, and
the one that it adds. -/
theorem Moves.all (h : tx.Moves st r st' tx') (lasting : QueuedMessage.Lasting P Q)
    (rows : ∀ id row, st.row? id = some row → P row.message)
    (kept : ∀ c, tx.Keeps c → c.All P Q) (added : ∀ m, r = .add m → P m) :
    ∀ c, tx'.Keeps c → c.All P Q := by
  have now := kept tx.changes tx.keeps_changes
  intro c hc
  rcases h.keeps_cases hc with rfl | before
  · cases h with
    | stays | setsSavepoint | forgets => exact now
    | adds m free =>
        refine ⟨?_, now.updated, now.deadLettered⟩
        intro x hx
        rcases List.mem_append.mp hx with old | new
        · exact now.inserted x old
        · exact List.mem_singleton.mp new ▸ added m rfl
    | takesLock r id₀ m₀ st' tx' seen pending got => exact (acquire_changes got).1 ▸ now
    | rewritesOwn r id m m' own pending progress =>
        refine ⟨?_, now.updated, now.deadLettered⟩
        intro x hx
        rcases Changes.mem_changeFirst hx with rfl | old
        · exact lasting.progress (now.inserted m (Changes.mem_of_inserted? own)) pending progress
        · exact now.inserted x old
    | buriesOwn r id m d own pending death =>
        refine ⟨?_, now.updated, ?_⟩
        · intro x hx
          exact now.inserted x ((Changes.dropFirst_sublist id tx.changes.inserted).subset hx)
        · intro x hx
          rcases List.mem_append.mp hx with old | new
          · exact now.deadLettered x old
          · rw [List.mem_singleton.mp new]
            exact lasting.death (now.inserted m (Changes.mem_of_inserted? own)) pending death
    | rewrites r id m m' st' tx₁ notOwn seen pending got progress =>
        rw [(acquire_changes got).1]
        exact now.update (lasting.progress (of_committedView seen rows now) pending progress)
    | buries r id m d st' tx₁ notOwn seen pending got death =>
        rw [(acquire_changes got).1]
        exact now.bury (lasting.death (of_committedView seen rows now) pending death)
    | returns c₀ saved => exact kept c₀ (Or.inr saved)
  · exact kept c before

end Tx

/-- The message that is given to `add` on the store, accepted or not. -/
def Happening.added? : Happening → Option QueuedMessage
  | .requests _ _ (.add m) => some m
  | _ => none

/-- The messages that are given to `add` on store `i` in a run, accepted or not. -/
def Call.added (i : StoreId) (calls : List Call) : List QueuedMessage :=
  calls.filterMap fun c => (c.seenFrom i).added?

namespace View

/-- **Messages have `P` wherever they are**, and dead letters `Q`. -/
structure Everywhere (P : QueuedMessage → Prop) (Q : DeadLetter → Prop) (v : View) : Prop where
  rows : ∀ id r, v.store.row? id = some r → P r.message
  deadLetters : ∀ id d, v.store.deadLetter? id = some d → Q d
  kept : ∀ h tx, v.tx h = some tx → ∀ c, tx.Keeps c → c.All P Q

namespace Everywhere

variable {v : View}

theorem empty : View.empty.Everywhere P Q where
  rows _ _ found := nomatch found
  deadLetters _ _ found := nomatch found
  kept _ _ opened := nomatch opened

/-- The tables of a commit have messages of the old tables and of the changes. -/
theorem of_commits (inv : v.Everywhere P Q) {h : TxHandle} {tx : Tx} (opened : v.tx h = some tx) :
    { v with store := tx.commit v.store, tx := Function.update v.tx h none : View }.Everywhere
      P Q := by
  have now := inv.kept h tx opened tx.changes tx.keeps_changes
  refine ⟨?_, ?_, fun k ux hk => inv.kept k ux (of_update_none hk).2⟩
  · -- a row is an old one, a changed one or a new one
    intro id r found
    rcases (Changes.row?_apply_cases (found :)).2 with
      ⟨old, -⟩ | ⟨old, -, m, hm, -, rfl⟩ | ⟨m, hm, -, rfl, -⟩
    · exact inv.rows id r old
    · exact now.updated m hm
    · exact now.inserted r.message hm
  · intro id d found
    rcases Changes.deadLetter?_apply_cases tx.changes v.store id with ⟨same, -⟩ | ⟨e, he, -, new⟩
    · exact inv.deadLetters id d (same.symm.trans found)
    · cases new.symm.trans found
      exact now.deadLettered d he

/-- A request keeps the property, if what it adds has it. -/
theorem of_moves (inv : v.Everywhere P Q) (lasting : QueuedMessage.Lasting P Q) {h : TxHandle}
    {tx tx' : Tx} {st : Store} {r : TxRequest} (opened : v.tx h = some tx)
    (moves : tx.Moves v.store r st tx') (added : ∀ m, r = .add m → P m) :
    { v with store := st, tx := Function.update v.tx h (some tx') : View }.Everywhere P Q := by
  refine ⟨?_, ?_, ?_⟩
  · intro id row found
    exact inv.rows id row ((moves.row? id).symm.trans found)
  · intro id d found
    exact inv.deadLetters id d ((moves.deadLetter? id).symm.trans found)
  · intro k ux hk
    rcases update_cases hk with ⟨rfl, new⟩ | ⟨-, old⟩
    · cases new
      exact moves.all lasting inv.rows (inv.kept k tx opened) added
    · exact inv.kept k ux old

/-- Operators write nothing but messages that are in the tables already. -/
theorem of_tables (inv : v.Everywhere P Q) {st : Store}
    (rows : ∀ id r, st.row? id = some r → P r.message)
    (deads : ∀ id d, st.deadLetter? id = some d → v.store.deadLetter? id = some d) :
    { v with store := st : View }.Everywhere P Q :=
  ⟨rows, fun id d found => inv.deadLetters id d (deads id d found), inv.kept⟩

/-- **The property stays everywhere**, if what is added has it. -/
theorem step (tidy : v.store.Tidy) (lasting : QueuedMessage.Lasting P Q)
    (inv : v.Everywhere P Q) {e : Happening} (added : ∀ m, e.added? = some m → P m) :
    (v.step e).Everywhere P Q := by
  cases e with
  | nothing | elsewhere => exact ⟨inv.rows, inv.deadLetters, inv.kept⟩
  | begins =>
      refine ⟨inv.rows, inv.deadLetters, ?_⟩
      intro k ux hk c hc
      rcases update_cases hk with ⟨-, new⟩ | ⟨-, old⟩
      · cases new
        rcases hc with rfl | saved
        · exact .empty
        · cases saved
      · exact inv.kept k ux old c hc
  | requests now h r =>
      rw [View.step]
      split
      · exact inv
      · next tx opened =>
          split
          · exact inv
          · next done =>
              refine inv.of_moves lasting opened (Tx.request_moves done) ?_
              intro m add
              exact added m (by rw [add, Happening.added?])
  | commits h =>
      rw [View.step]
      split
      · exact inv
      · next tx opened => exact inv.of_commits opened
  | releases h =>
      rw [View.step]
      split
      · exact inv
      · exact ⟨inv.rows, inv.deadLetters, fun k ux hk => inv.kept k ux (of_update_none hk).2⟩
  | requeues id =>
      rw [View.step]
      split
      · exact inv
      · next done =>
          obtain ⟨d, dead, -, -, rows, deads⟩ := Store.requeue_cases done
          refine inv.of_tables ?_ ?_
          · intro x row found
            rw [rows] at found
            split at found
            · -- the row that is put back has the dead letter's message
              cases found
              exact lasting.requeued (inv.deadLetters id d dead)
            · exact inv.rows x row found
          · intro x e found
            rw [deads] at found
            split at found
            · cases found
            · exact found
  | deletes id =>
      rw [View.step]
      split
      · exact inv
      · next done =>
          obtain ⟨-, -, rows, deads⟩ := Store.deleteDeadLetter_cases done
          refine inv.of_tables (fun x row found => inv.rows x row ((rows x).symm.trans found)) ?_
          intro x e found
          rw [deads] at found
          split at found
          · cases found
          · exact found
  | purges cutoff =>
      refine inv.of_tables ?_ (fun _ _ found => found)
      intro x row found
      rw [Store.row?_purge tidy] at found
      exact inv.rows x row (Option.filter_eq_some_iff.mp found).1

theorem run (tidy : v.store.Tidy) (lasting : QueuedMessage.Lasting P Q) (inv : v.Everywhere P Q)
    {happenings : List Happening} (added : ∀ e ∈ happenings, ∀ m, e.added? = some m → P m) :
    (v.run happenings).Everywhere P Q := by
  induction happenings generalizing v with
  | nil => exact inv
  | cons e rest ih =>
      refine ih (tidy_step tidy e) (inv.step tidy lasting ?_) ?_
      · exact added e List.mem_cons_self
      · intro e' he'
        exact added e' (List.mem_cons_of_mem e he')

end Everywhere

end View

namespace System

/-- **What holds of all messages that are given to `add` holds everywhere**, if it lasts. -/
theorem everywhere_run {n : Nat} {i : StoreId} (hi : i.index < n)
    (lasting : QueuedMessage.Lasting P Q) (calls : List Call)
    (added : ∀ m ∈ Call.added i calls, P m) :
    (((ofSize n).run calls).view i).Everywhere P Q := by
  rw [view_run (orderly_ofSize n) (index_lt_run hi []) calls, view_ofSize hi]
  refine View.Everywhere.empty.run Store.tidy_empty lasting ?_
  intro e he m hm
  obtain ⟨c, hc, rfl⟩ := List.mem_map.mp he
  exact added m (List.mem_filterMap.mpr ⟨c, hc, hm⟩)

end System

end MaintenanceOutbox
