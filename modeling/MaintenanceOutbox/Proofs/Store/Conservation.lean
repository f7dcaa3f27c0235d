import MaintenanceOutbox.Proofs.Store.Ledger

set_option autoImplicit false

/-! # No message is lost and none appears

`View.Books` is the invariant that ties a store to its ledger: the names of all committed messages
are those in the tables, those purged and those deleted, each in one place. It holds on as long as
no name is added twice (`View.Books.step`), and `System.conservation` reads it off at the end of a
run.

A commit needs most of the argument. What it adds to the tables is what its transaction carries, and
that is what the transaction gave to `add` itself; the ledger has none of it yet, since a
transaction is over once its messages are committed.
-/

namespace MaintenanceOutbox

namespace View

/-- **The books of a store are in order.** -/
structure Books (v : View) (l : Ledger) : Prop where
  balance : l.committed.Perm (v.store.ids ++ l.gone)
  nodup : l.committed.Nodup
  /-- what was purged was delivered -/
  delivered : ∀ r ∈ l.purged, r.message.isPending = false
  traced : v.Traced (l.added.map (·.2.origin))
  purged : ∀ r ∈ l.purged, r.message.origin ∈ l.added.map (·.2.origin)
  deleted : ∀ d ∈ l.deleted, d.message.origin ∈ l.added.map (·.2.origin)
  /-- who carries a message has added it -/
  own : ∀ h tx, v.tx h = some tx → ∀ id, tx.Carries id → id ∈ l.addedBy h
  /-- whoever added a committed message has ended -/
  ended : ∀ h m, (h, m) ∈ l.added → m.id ∈ l.committed → h.number < v.begun ∧ v.tx h = none
  single : ∀ h tx, v.tx h = some tx → ∀ c, tx.Keeps c → c.Single

theorem books_empty : empty.Books {} where
  balance := List.Perm.refl _
  nodup := List.nodup_nil
  delivered _ hr := absurd hr List.not_mem_nil
  traced := .empty
  purged _ hr := absurd hr List.not_mem_nil
  deleted _ hd := absurd hd List.not_mem_nil
  own _ _ opened := nomatch opened
  ended _ _ added := absurd added List.not_mem_nil
  single _ _ opened := nomatch opened

namespace Books

variable {v : View} {l : Ledger} {h : TxHandle} {tx : Tx}

/-- What was committed was added. -/
theorem added_of_committed (books : v.Books l) {id : MessageId} (there : id ∈ l.committed) :
    id ∈ l.added.map (·.2.id) := by
  have named : ∀ m : QueuedMessage, m.origin ∈ l.added.map (·.2.origin) →
      m.id ∈ l.added.map (·.2.id) := by
    intro m given
    obtain ⟨entry, hentry, same⟩ := List.mem_map.mp given
    exact List.mem_map.mpr ⟨entry, hentry, congrArg QueuedMessage.Origin.id same⟩
  rcases List.mem_append.mp (books.balance.mem_iff.mp there) with stored | gone
  · rcases Store.mem_ids_iff.mp stored with ⟨r, found⟩ | ⟨d, found⟩
    · exact Store.id_of_row? found ▸ named r.message (books.traced.rows id r found)
    · exact Store.id_of_deadLetter? found ▸ named d.message (books.traced.deadLetters id d found)
  · rcases List.mem_append.mp gone with purged | deleted
    · obtain ⟨r, hr, rfl⟩ := List.mem_map.mp purged
      exact named r.message (books.purged r hr)
    · obtain ⟨d, hd, rfl⟩ := List.mem_map.mp deleted
      exact named d.message (books.deleted d hd)

/-- What a transaction carries is not committed yet. -/
theorem not_committed_of_carries (books : v.Books l) (opened : v.tx h = some tx) {id : MessageId}
    (carried : tx.Carries id) : id ∉ l.committed := by
  intro there
  obtain ⟨m, added, rfl⟩ := Ledger.mem_addedBy.mp (books.own h tx opened id carried)
  rw [(books.ended h m added there).2] at opened
  cases opened

/-- **The new messages of a commit** are those that its transaction carries. -/
theorem mem_net_iff (books : v.Books l) (inv : v.Sound) (opened : v.tx h = some tx)
    (id : MessageId) : id ∈ tx.changes.net (l.addedBy h) ↔ tx.Carries id := by
  rw [Changes.net, List.mem_append, List.mem_filter, decide_eq_true_eq]
  constructor
  · rintro (new | ⟨dead, own⟩)
    · exact Or.inl new
    · refine Or.inr ⟨dead, ?_⟩
      intro held
      -- a locked row is committed, and then whoever added it has ended
      obtain ⟨row, found, -⟩ := inv.held h tx opened id held
      have there : id ∈ l.committed :=
        books.balance.mem_iff.mpr (List.mem_append_left _ (Store.mem_ids_of_row? found))
      obtain ⟨m, added, rfl⟩ := Ledger.mem_addedBy.mp own
      rw [(books.ended h m added there).2] at opened
      cases opened
  · intro carried
    rcases carried with new | ⟨dead, free⟩
    · exact Or.inl new
    · exact Or.inr ⟨dead, books.own h tx opened id (Or.inr ⟨dead, free⟩)⟩

theorem nodup_net (books : v.Books l) (opened : v.tx h = some tx) :
    (tx.changes.net (l.addedBy h)).Nodup := by
  have single := books.single h tx opened tx.changes tx.keeps_changes
  exact single.sublist ((List.Sublist.refl _).append List.filter_sublist)

/-- An add is entered. -/
theorem note (books : v.Books l) {m : QueuedMessage} (fresh : m.id ∉ l.added.map (·.2.id))
    (h : TxHandle) : v.Books { l with added := l.added ++ [(h, m)] } := by
  have more : l.added.map (·.2.origin) ⊆ (l.added ++ [(h, m)]).map (·.2.origin) := by
    rw [List.map_append]
    exact List.subset_append_left _ _
  refine ⟨books.balance, books.nodup, books.delivered, books.traced.mono more,
    fun r hr => more (books.purged r hr), fun d hd => more (books.deleted d hd), ?_, ?_,
    books.single⟩
  · intro k ux hk id carried
    obtain ⟨m', added, name⟩ := Ledger.mem_addedBy.mp (books.own k ux hk id carried)
    exact Ledger.mem_addedBy.mpr ⟨m', List.mem_append_left _ added, name⟩
  · intro k m' added there
    rcases List.mem_append.mp added with old | new
    · exact books.ended k m' old there
    · cases List.mem_singleton.mp new
      exact absurd (books.added_of_committed there) fresh

/-- Books do not change with the transactions of other stores. -/
theorem of_elsewhere (books : v.Books l) : (v.step .elsewhere).Books l := by
  refine ⟨books.balance, books.nodup, books.delivered, ⟨books.traced.rows, books.traced.deadLetters,
    books.traced.kept⟩, books.purged, books.deleted, books.own, ?_, books.single⟩
  intro k m added there
  obtain ⟨older, closed⟩ := books.ended k m added there
  exact ⟨Nat.lt_succ_of_lt older, closed⟩

theorem of_begins (books : v.Books l)
    (traced : (v.step .begins).Traced (l.added.map (·.2.origin))) : (v.step .begins).Books l := by
  refine ⟨books.balance, books.nodup, books.delivered, traced, books.purged, books.deleted, ?_, ?_,
    ?_⟩
  · -- the new transaction carries nothing
    intro k ux hk id carried
    rcases update_cases hk with ⟨-, new⟩ | ⟨-, old⟩
    · cases new
      rcases carried with new | ⟨dead, -⟩
      · cases new
      · cases dead
    · exact books.own k ux old id carried
  · -- its handle is none of those that ended
    intro k m added there
    obtain ⟨older, closed⟩ := books.ended k m added there
    have other : k ≠ ⟨v.begun⟩ := by
      rintro rfl
      exact Nat.lt_irrefl _ older
    exact ⟨Nat.lt_succ_of_lt older, (Function.update_of_ne other _ _).trans closed⟩
  · intro k ux hk c hc
    rcases update_cases hk with ⟨-, new⟩ | ⟨-, old⟩
    · cases new
      rcases hc with rfl | saved
      · exact Changes.single_empty
      · cases saved
    · exact books.single k ux old c hc

/-- A request on an open transaction keeps the books, if what it adds is entered. -/
theorem of_moves (books : v.Books l) (inv : v.Sound) {tx' : Tx} {st : Store} {r : TxRequest}
    (opened : v.tx h = some tx) (moves : tx.Moves v.store r st tx')
    (entered : ∀ m, r = .add m → m.id ∈ l.addedBy h)
    (fresh : ∀ m, r = .add m → m.id ∉ tx.changes.deadLettered.map (·.id))
    (traced : View.Traced { v with store := st, tx := Function.update v.tx h (some tx') }
      (l.added.map (·.2.origin))) :
    { v with store := st, tx := Function.update v.tx h (some tx') : View }.Books l := by
  have ids : st.ids = v.store.ids := by rw [moves.tables]; rfl
  refine ⟨ids ▸ books.balance, books.nodup, books.delivered, traced, books.purged, books.deleted,
    ?_, ?_, ?_⟩
  · intro k ux hk id carried
    rcases update_cases hk with ⟨rfl, new⟩ | ⟨-, old⟩
    · cases new
      rcases moves.carries (inv.saved k tx opened) carried with before | ⟨m, add, rfl, -⟩
      · exact books.own k tx opened id before
      · exact entered m add
    · exact books.own k ux old id carried
  · intro k m added there
    obtain ⟨older, closed⟩ := books.ended k m added there
    have other : k ≠ h := by
      rintro rfl
      rw [opened] at closed
      cases closed
    exact ⟨older, (Function.update_of_ne other _ _).trans closed⟩
  · intro k ux hk
    rcases update_cases hk with ⟨rfl, new⟩ | ⟨-, old⟩
    · cases new
      exact moves.single (books.single k tx opened) fresh
    · exact books.single k ux old

/-- **A commit**, with its new messages entered. -/
theorem of_commits (books : v.Books l) (inv : v.Sound) (opened : v.tx h = some tx)
    (once : (l.added.map (·.2.id)).Nodup) (nodup : (tx.commit v.store).ids.Nodup) :
    { v with store := tx.commit v.store, tx := Function.update v.tx h none : View }.Books
      { l with committed := l.committed ++ tx.changes.net (l.addedBy h) } := by
  have net := books.mem_net_iff inv opened
  have nodupNet := books.nodup_net opened
  have closes : ∀ k, k = h ∨ v.tx k = none → Function.update v.tx h none k = none := by
    rintro k (rfl | closed)
    · exact Function.update_self _ _ _
    · by_cases same : k = h
      · rw [same, Function.update_self]
      · rw [Function.update_of_ne same, closed]
  refine ⟨?_, ?_, books.delivered, books.traced.of_commits opened, books.purged, books.deleted,
    fun k ux hk => books.own k ux (of_update_none hk).2, ?_,
    fun k ux hk => books.single k ux (of_update_none hk).2⟩
  · -- the tables grow by the new messages, and so does the ledger
    have grown : (tx.commit v.store).ids.Perm (v.store.ids ++ tx.changes.net (l.addedBy h)) := by
      refine (List.perm_ext_iff_of_nodup nodup ?_).mpr ?_
      · refine List.nodup_append.mpr ⟨inv.nodup_ids, nodupNet, ?_⟩
        rintro a stored b new rfl
        exact Store.mem_ids.mp stored (inv.unused h tx opened a ((net a).mp new))
      · intro id
        rw [List.mem_append, inv.mem_ids_commit opened, net]
    calc (l.committed ++ tx.changes.net (l.addedBy h)).Perm
          (v.store.ids ++ l.gone ++ tx.changes.net (l.addedBy h)) := books.balance.append_right _
      List.Perm _ (v.store.ids ++ tx.changes.net (l.addedBy h) ++ l.gone) := by
        rw [List.append_assoc, List.append_assoc]
        exact List.perm_append_comm.append_left _
      List.Perm _ ((tx.commit v.store).ids ++ l.gone) := grown.symm.append_right _
  · -- what is carried was not committed before
    refine List.nodup_append.mpr ⟨books.nodup, nodupNet, ?_⟩
    rintro a there b new rfl
    exact books.not_committed_of_carries opened ((net a).mp new) there
  · intro k m added there
    rcases List.mem_append.mp there with old | new
    · obtain ⟨older, closed⟩ := books.ended k m added old
      exact ⟨older, closes k (Or.inr closed)⟩
    · -- nobody else has added this message
      obtain ⟨m', ours, name⟩ :=
        Ledger.mem_addedBy.mp (books.own h tx opened m.id ((net m.id).mp new))
      have same : (h, m') = (k, m) := List.inj_on_of_nodup_map once ours added name
      cases same
      exact ⟨inv.locking.begun h tx opened, closes h (Or.inl rfl)⟩

/-- A transaction that is abandoned. -/
theorem of_releases (books : v.Books l) (locked : List MessageId)
    (traced : View.Traced { v with
        store := { v.store with locked := locked }, tx := Function.update v.tx h none }
      (l.added.map (·.2.origin))) :
    { v with
      store := { v.store with locked := locked }
      tx := Function.update v.tx h none : View }.Books l := by
  refine ⟨books.balance, books.nodup, books.delivered, traced, books.purged, books.deleted,
    fun k ux hk => books.own k ux (of_update_none hk).2, ?_,
    fun k ux hk => books.single k ux (of_update_none hk).2⟩
  intro k m added there
  obtain ⟨older, closed⟩ := books.ended k m added there
  refine ⟨older, Option.eq_none_iff_forall_ne_some.mpr ?_⟩
  intro ux still
  cases (of_update_none still).2.symm.trans closed

/-- What operators take away, with the entries for it. -/
theorem of_lost (books : v.Books l) {st : Store} (purged : List Row) (deleted : List DeadLetter)
    (lost : v.store.ids.Perm (st.ids ++ (purged.map Row.id ++ deleted.map (·.id))))
    (fromRows : ∀ r ∈ purged, v.store.row? r.id = some r ∧ r.message.isPending = false)
    (fromDead : ∀ d ∈ deleted, v.store.deadLetter? d.id = some d)
    (traced : View.Traced { v with store := st } (l.added.map (·.2.origin))) :
    { v with store := st : View }.Books
      { l with purged := l.purged ++ purged, deleted := l.deleted ++ deleted } := by
  refine ⟨?_, books.nodup, ?_, traced, ?_, ?_, books.own, books.ended, books.single⟩
  · refine List.perm_iff_count.mpr fun id => ?_
    have before := books.balance.count_eq id
    have moved := lost.count_eq id
    simp only [Ledger.gone, List.map_append, List.count_append] at before moved ⊢
    omega
  · intro r hr
    rcases List.mem_append.mp hr with old | new
    · exact books.delivered r old
    · exact (fromRows r new).2
  · intro r hr
    rcases List.mem_append.mp hr with old | new
    · exact books.purged r old
    · exact books.traced.rows r.id r (fromRows r new).1
  · intro d hd
    rcases List.mem_append.mp hd with old | new
    · exact books.deleted d old
    · exact books.traced.deadLetters d.id d (fromDead d new)

/-- A dead letter that goes back into the queue stays in the tables. -/
theorem of_requeues (books : v.Books l) (inv : v.Sound) {id : MessageId} {m : QueuedMessage}
    {st : Store} (done : v.store.requeue id = .ok (m, st)) (nodup : st.ids.Nodup)
    (traced : View.Traced { v with store := st } (l.added.map (·.2.origin))) :
    { v with store := st : View }.Books l := by
  obtain ⟨d, dead, -, -, rows, deads⟩ := Store.requeue_cases done
  -- the name moves from one table to the other
  have same : st.ids.Perm v.store.ids := by
    refine (List.perm_ext_iff_of_nodup nodup inv.nodup_ids).mpr ?_
    intro x
    rw [Store.mem_ids, Store.mem_ids, Store.Unused, Store.Unused, rows, deads]
    by_cases moved : id = x
    · subst moved
      simp [dead]
    · rw [if_neg moved, if_neg moved]
  exact ⟨books.balance.trans (same.symm.append_right _), books.nodup, books.delivered, traced,
    books.purged, books.deleted, books.own, books.ended, books.single⟩

/-- Dead letters are lost to deletions. -/
theorem of_deletes (books : v.Books l) (inv : v.Sound) {id : MessageId}
    (nodup : (v.step (.deletes id)).store.ids.Nodup)
    (traced : (v.step (.deletes id)).Traced (l.added.map (·.2.origin))) :
    (v.step (.deletes id)).Books (l.enter v (.deletes id)) := by
  have store : v.step (.deletes id) = { v with store := (v.step (.deletes id)).store } := by
    rw [View.step]
    split <;> rfl
  have rows : ∀ x, (v.step (.deletes id)).store.row? x = v.store.row? x := by
    intro x
    rw [View.step]
    split
    · rfl
    · next done => exact (Store.deleteDeadLetter_cases done).2.2.1 x
  have deads : ∀ x, (v.step (.deletes id)).store.deadLetter? x = v.store.deadLetter? x ∨
      (v.step (.deletes id)).store.deadLetter? x = none := by
    intro x
    rw [View.step]
    split
    · exact Or.inl rfl
    · next done =>
        have after := (Store.deleteDeadLetter_cases done).2.2.2 x
        split at after
        · exact Or.inr after
        · exact Or.inl after
  -- so that dead letters are all that is lost
  have noRows : v.store.lostRows (v.step (.deletes id)).store = [] := by
    refine List.eq_nil_iff_forall_not_mem.mpr ?_
    intro r hr
    obtain ⟨found, missing⟩ := (Store.mem_lostRows inv.tidy).mp hr
    cases found.symm.trans ((rows r.id).symm.trans missing)
  have lost := inv.ids_perm_lost nodup (fun x => Or.inl (rows x)) deads
  rw [noRows] at lost
  have entered := books.of_lost [] _ lost (fun _ hr => absurd hr List.not_mem_nil)
    (fun d hd => ((Store.mem_lostDeadLetters inv.tidy).mp hd).1) (store ▸ traced)
  rw [List.append_nil, ← store] at entered
  exact entered

/-- Rows are lost to purges, and only delivered ones. -/
theorem of_purges (books : v.Books l) (inv : v.Sound) {cutoff : Timestamp}
    (nodup : (v.step (.purges cutoff)).store.ids.Nodup)
    (traced : (v.step (.purges cutoff)).Traced (l.added.map (·.2.origin))) :
    (v.step (.purges cutoff)).Books (l.enter v (.purges cutoff)) := by
  have rows : ∀ x, (v.store.purge cutoff).2.row? x = v.store.row? x ∨
      (v.store.purge cutoff).2.row? x = none := by
    intro x
    rw [Store.row?_purge inv.tidy]
    cases v.store.row? x with
    | none => exact Or.inr rfl
    | some r =>
        rw [Option.filter_some]
        split
        · exact Or.inl rfl
        · exact Or.inr rfl
  have noDead : v.store.lostDeadLetters (v.store.purge cutoff).2 = [] := by
    refine List.eq_nil_iff_forall_not_mem.mpr ?_
    intro d hd
    obtain ⟨found, missing⟩ := (Store.mem_lostDeadLetters inv.tidy).mp hd
    cases found.symm.trans missing
  have lost := inv.ids_perm_lost nodup rows (fun _ => Or.inl rfl)
  have entered := books.of_lost (v.store.lostRows (v.store.purge cutoff).2) [] (noDead ▸ lost)
    ?_ (fun _ hd => absurd hd List.not_mem_nil) traced
  · rw [List.append_nil] at entered
    exact entered
  · intro r hr
    obtain ⟨found, missing⟩ := (Store.mem_lostRows inv.tidy).mp hr
    refine ⟨found, ?_⟩
    cases pending : r.message.isPending with
    | false => rfl
    | true =>
        have kept := Store.row?_purge_of_isPending inv.tidy cutoff found pending
        cases kept.symm.trans missing

/-- **The books stay in order**, if no name is added twice. -/
theorem step (books : v.Books l) (inv : v.Sound) {e : Happening} (inv' : (v.step e).Sound)
    (once : (l.added.map (·.2.id)).Nodup)
    (fresh : ∀ m, e.added? = some m → m.id ∉ l.added.map (·.2.id)) :
    (v.step e).Books (l.enter v e) := by
  -- what is entered are the origins of what is added, and no others
  have trace : (∀ m, e.added? = some m → m.origin ∈ (l.enter v e).added.map (·.2.origin)) →
      l.added.map (·.2.origin) ⊆ (l.enter v e).added.map (·.2.origin) →
      (v.step e).Traced ((l.enter v e).added.map (·.2.origin)) :=
    fun here more => (books.traced.mono more).step inv.tidy here
  cases e with
  | nothing => exact books
  | elsewhere => exact books.of_elsewhere
  | begins => exact books.of_begins (trace (by simp [Happening.added?]) (List.Subset.refl _))
  | requests now h r =>
      have noted : v.Books (l.enter v (.requests now h r)) := by
        cases r with
        | add m => exact books.note (fresh m rfl) h
        | _ => exact books
      have entered : ∀ m, r = .add m → m.id ∈ (l.enter v (.requests now h r)).addedBy h := by
        rintro m rfl
        exact Ledger.mem_addedBy.mpr
          ⟨m, List.mem_append_right _ (List.mem_singleton.mpr rfl), rfl⟩
      have traced : (v.step (.requests now h r)).Traced
          ((l.enter v (.requests now h r)).added.map (·.2.origin)) := by
        refine noted.traced.step inv.tidy ?_
        intro m add
        cases r with
        | add m' =>
            cases add
            exact List.mem_map_of_mem (List.mem_append_right _ (List.mem_singleton.mpr rfl))
        | _ => cases add
      rw [View.step] at traced ⊢
      split
      · exact noted
      · next tx opened =>
          split
          · exact noted
          · next done =>
              rw [opened] at traced
              dsimp only at traced
              rw [done] at traced
              refine noted.of_moves inv opened (Tx.request_moves done) entered ?_ traced
              -- a message under the name of a dead letter would have been added before
              rintro m rfl dead
              obtain ⟨d, hd, name⟩ := List.mem_map.mp dead
              have given := (books.traced.kept h tx opened _ tx.keeps_changes).deadLettered d hd
              obtain ⟨entry, hentry, same⟩ := List.mem_map.mp given
              refine fresh m rfl (List.mem_map.mpr ⟨entry, hentry, ?_⟩)
              exact (congrArg QueuedMessage.Origin.id same).trans name
  | commits h =>
      cases opened : v.tx h with
      | none =>
          rw [View.step, opened, Ledger.enter, opened]
          exact books
      | some tx =>
          rw [View.step, opened] at inv'
          rw [View.step, opened, Ledger.enter, opened]
          exact books.of_commits inv opened once inv'.nodup_ids
  | releases h =>
      have traced := trace (by simp [Happening.added?]) (List.Subset.refl _)
      rw [View.step] at traced ⊢
      split
      · exact books
      · next tx opened =>
          rw [opened] at traced
          exact books.of_releases _ traced
  | requeues id =>
      have traced := trace (by simp [Happening.added?]) (List.Subset.refl _)
      rw [View.step] at traced inv' ⊢
      split
      · exact books
      · next done =>
          rw [done] at traced inv'
          exact books.of_requeues inv done inv'.nodup_ids traced
  | deletes id => exact books.of_deletes inv inv'.nodup_ids (trace (by simp [Happening.added?])
      (List.Subset.refl _))
  | purges cutoff => exact books.of_purges inv inv'.nodup_ids (trace (by simp [Happening.added?])
      (List.Subset.refl _))

end Books

end View

/-! ## Runs -/

namespace Ledger

theorem added_enter (l : Ledger) (v : View) (e : Happening) :
    (l.enter v e).added.map (·.2) = l.added.map (·.2) ++ e.added?.toList := by
  cases e with
  | requests now h r =>
      cases r with
      | add m => exact List.map_append
      | _ => exact (List.append_nil _).symm
  | commits h =>
      rw [enter]
      split <;> exact (List.append_nil _).symm
  | _ => exact (List.append_nil _).symm

/-- The ledger has what was given to `add`. -/
theorem added_along (v : View) (l : Ledger) (es : List Happening) :
    (along v l es).added.map (·.2) = l.added.map (·.2) ++ es.filterMap Happening.added? := by
  induction es generalizing v l with
  | nil => exact (List.append_nil _).symm
  | cons e rest ih =>
      rw [along, ih, added_enter, List.append_assoc]
      cases add : e.added? with
      | none => simp [add]
      | some m => simp [add]

end Ledger

namespace System

theorem added_ledger (s : System) (i : StoreId) (calls : List Call) :
    (s.ledger i calls).added.map (·.2) = Call.added i calls := by
  rw [ledger, Ledger.added_along, List.map_nil, List.nil_append, List.filterMap_map, Call.added]
  rfl

theorem ids_ledger (s : System) (i : StoreId) (calls : List Call) :
    (s.ledger i calls).added.map (·.2.id) = (Call.added i calls).map (·.id) := by
  rw [← added_ledger s, List.map_map]
  rfl

/-- The books of every store are in order, if no name is added twice. -/
theorem books_run {n : Nat} {i : StoreId} (hi : i.index < n) {calls : List Call}
    (once : Call.AddsOnce i calls) :
    (((ofSize n).run calls).view i).Books ((ofSize n).ledger i calls) := by
  induction calls using List.reverseRecOn with
  | nil =>
      rw [run_nil, ledger, view_ofSize hi]
      exact View.books_empty
  | append_singleton before c ih =>
      have inv := sound_run hi once
      have view : ((ofSize n).run (before ++ [c])).view i =
          (((ofSize n).run before).view i).step (c.seenFrom i) := by
        rw [run_concat]
        exact view_step (orderly_run (orderly_ofSize n) before) (index_lt_run hi before) c
      have entered : (ofSize n).ledger i (before ++ [c]) =
          ((ofSize n).ledger i before).enter (((ofSize n).run before).view i) (c.seenFrom i) := by
        rw [ledger, List.map_append, List.map_singleton, Ledger.along_concat,
          view_run (orderly_ofSize n) (index_lt_run hi [])]
        rfl
      have fresh : ∀ m, (c.seenFrom i).added? = some m →
          m.id ∉ ((ofSize n).ledger i before).added.map (·.2.id) := by
        intro m add
        rw [ids_ledger]
        exact once.fresh add
      -- the entry for the last call
      rw [view] at inv ⊢
      rw [entered]
      refine (ih once.of_append).step (sound_run hi once.of_append) inv ?_ fresh
      rw [ids_ledger]
      exact once.of_append

/-- **Conservation of messages.** After a run in which no name is added twice, no name is in both
tables; the committed messages are those in the rows, in the dead letters, purged and deleted, every
one in one place; what was purged was delivered; every message is as it was given to `add`, but for
what delivery says about it; and the counts add up. -/
theorem conservation {n : Nat} {i : StoreId} (hi : i.index < n) {calls : List Call}
    (once : Call.AddsOnce i calls) :
    let st := ((ofSize n).run calls).store i
    let l := (ofSize n).ledger i calls
    (∀ id, st.row? id = none ∨ st.deadLetter? id = none) ∧
      l.committed.Nodup ∧
      l.committed.Perm (st.rows.map Row.id ++ st.deadLetters.map (·.id) ++
        (l.purged.map Row.id ++ l.deleted.map (·.id))) ∧
      (∀ r ∈ l.purged, r.message.isPending = false) ∧
      (∀ m ∈ (st.rows ++ l.purged).map (·.message) ++ (st.deadLetters ++ l.deleted).map (·.message),
        ∃ given ∈ Call.added i calls, m.origin = given.origin) ∧
      st.stats.pending + st.stats.processed + st.stats.deadLettered + l.purged.length +
        l.deleted.length = l.committed.length := by
  intro st l
  have inv := sound_run hi once
  have books := books_run hi once
  -- the ledger has what was given to `add`
  have given : ∀ {o : QueuedMessage.Origin}, o ∈ l.added.map (·.2.origin) →
      ∃ given ∈ Call.added i calls, o = given.origin := by
    intro o ho
    obtain ⟨entry, hentry, rfl⟩ := List.mem_map.mp ho
    exact ⟨entry.2, added_ledger (ofSize n) i calls ▸ List.mem_map_of_mem hentry, rfl⟩
  refine ⟨inv.tables, books.nodup, books.balance, books.delivered, ?_, ?_⟩
  · intro m hm
    rw [List.map_append, List.map_append, List.mem_append, List.mem_append, List.mem_append] at hm
    rcases hm with (row | purged) | (dead | deleted)
    · obtain ⟨r, hr, rfl⟩ := List.mem_map.mp row
      exact given (books.traced.rows r.id r (Store.row?_of_mem inv.tidy.rows hr))
    · obtain ⟨r, hr, rfl⟩ := List.mem_map.mp purged
      exact given (books.purged r hr)
    · obtain ⟨d, hd, rfl⟩ := List.mem_map.mp dead
      exact given (books.traced.deadLetters d.id d
        (Store.deadLetter?_of_mem inv.tidy.deadLetters hd))
    · obtain ⟨d, hd, rfl⟩ := List.mem_map.mp deleted
      exact given (books.deleted d hd)
  · calc st.stats.pending + st.stats.processed + st.stats.deadLettered + l.purged.length +
          l.deleted.length
        = st.ids.length + l.gone.length := by
          rw [Store.length_ids, Ledger.length_gone, Nat.add_assoc _ l.purged.length]
      _ = (st.ids ++ l.gone).length := List.length_append.symm
      _ = l.committed.length := books.balance.length_eq.symm

/-- A run in which one message is delivered and purged, and another one is added and waits. -/
def settled : List Call :=
  [.beginTx ⟨0⟩, .request default ⟨0⟩ ⟨0⟩ (.add (.fresh default default "ping" .null)),
    .request default ⟨0⟩ ⟨0⟩ (.markProcessed default), .commit ⟨0⟩ ⟨0⟩, .beginTx ⟨0⟩,
    .request default ⟨0⟩ ⟨1⟩ (.add (.fresh ⟨.ofNat 1⟩ default "pong" .null)),
    .commit ⟨0⟩ ⟨1⟩,
    .purge ⟨0⟩ ((Timestamp.ofNumbers? Timestamp.year2024.date 1 0 0 0).getD default)]

/-- After `settled`, two messages were committed: one of them was purged and the other one waits. -/
theorem conservation_settled :
    ((ofSize 1).ledger ⟨0⟩ settled).committed.length = 2 ∧
      ((ofSize 1).ledger ⟨0⟩ settled).purged.length = 1 ∧
      ((((ofSize 1).run settled).store ⟨0⟩).stats).pending = 1 ∧
      ((ofSize 1).ledger ⟨0⟩ settled).committed.Nodup := by
  have once : Call.AddsOnce ⟨0⟩ settled := by decide
  have main := conservation (n := 1) (i := ⟨0⟩) (by decide) once
  exact ⟨by decide, by decide, by decide, main.2.1⟩

end System

end MaintenanceOutbox
