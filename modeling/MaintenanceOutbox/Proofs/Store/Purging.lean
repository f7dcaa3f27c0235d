import MaintenanceOutbox.Proofs.Store.Commuting

set_option autoImplicit false

/-! # Purging is exact, and safe

A purge deletes rows straight from the committed tables. It looks at no lock and asks no
transaction, while open transactions hold changes that their commits write only into rows that are
still there. Nothing is lost all the same, because what a transaction has locked is pending
(`View.Sound.held`), and a purge takes only what was delivered.

* `System.Purges`: exactly the rows delivered before the cutoff are gone, and nothing else is
  different;
* `Changes.TakesEffect`: everything that the changes say is in the tables after their commit. For
  that no name may stand twice in them (`Changes.Definite`), which transactions see to themselves;
* `System.purge_purge`: two purges are one purge with the later cutoff.
-/

namespace MaintenanceOutbox

/-- The later of two times. -/
def Timestamp.later (a b : Timestamp) : Timestamp :=
  if a < b then b else a

/-- A time is before the later of two times exactly if it is before one of them. -/
theorem Timestamp.lt_later_iff {time a b : Timestamp} :
    time < a.later b ↔ time < a ∨ time < b := by
  show time.rank < (a.later b).rank ↔ time.rank < a.rank ∨ time.rank < b.rank
  rw [later]
  split
  · next less =>
      have : a.rank < b.rank := less
      omega
  · next notLess =>
      have : ¬ a.rank < b.rank := notLess
      omega

/-- The message was delivered, and strictly before `cutoff`. -/
def QueuedMessage.DeliveredBefore (m : QueuedMessage) (cutoff : Timestamp) : Prop :=
  ∃ time, m.processedAt = some time ∧ time < cutoff

theorem Store.processedBefore_iff {cutoff : Timestamp} {m : QueuedMessage} :
    processedBefore cutoff m = true ↔ m.DeliveredBefore cutoff := by
  rw [processedBefore, QueuedMessage.DeliveredBefore]
  cases m.processedAt <;> simp

instance (m : QueuedMessage) (cutoff : Timestamp) : Decidable (m.DeliveredBefore cutoff) :=
  decidable_of_iff _ Store.processedBefore_iff

namespace Store

theorem processedBefore_later (a b : Timestamp) (m : QueuedMessage) :
    processedBefore (a.later b) m = (processedBefore a m || processedBefore b m) := by
  rw [Bool.eq_iff_iff, Bool.or_eq_true]
  simp only [processedBefore_iff, QueuedMessage.DeliveredBefore, Timestamp.lt_later_iff]
  constructor
  · rintro ⟨time, delivered, first | second⟩
    · exact Or.inl ⟨time, delivered, first⟩
    · exact Or.inr ⟨time, delivered, second⟩
  · rintro (⟨time, delivered, before⟩ | ⟨time, delivered, before⟩)
    · exact ⟨time, delivered, Or.inl before⟩
    · exact ⟨time, delivered, Or.inr before⟩

/-- The answer to a purge is the number of the rows that it takes. -/
theorem purge_count (st : Store) (cutoff : Timestamp) :
    (st.purge cutoff).1 = (st.rows.filter fun r => processedBefore cutoff r.message).length := by
  have split := List.length_eq_length_filter_add (l := st.rows)
    fun r => processedBefore cutoff r.message
  show st.rows.length - (st.rows.filter fun r => !processedBefore cutoff r.message).length = _
  omega

/-- **Two purges are one**, with the later cutoff. -/
theorem purge_purge (st : Store) (a b : Timestamp) :
    ((st.purge a).2.purge b).2 = (st.purge (a.later b)).2 ∧
      (st.purge a).1 + ((st.purge a).2.purge b).1 = (st.purge (a.later b)).1 := by
  have rows : ((st.purge a).2.purge b).2.rows = (st.purge (a.later b)).2.rows := by
    simp only [purge, List.filter_filter]
    refine List.filter_congr fun r _ => ?_
    rw [processedBefore_later, Bool.not_or, Bool.and_comm]
  constructor
  · show ({ st with rows := ((st.purge a).2.purge b).2.rows } : Store) = _
    rw [rows]
    rfl
  · -- both sides count what is missing at the end
    have first := List.length_filter_le (fun r : Row => !processedBefore a r.message) st.rows
    have second := List.length_filter_le (fun r : Row => !processedBefore b r.message)
      (st.purge a).2.rows
    show (st.rows.length - (st.purge a).2.rows.length) +
      ((st.purge a).2.rows.length - ((st.purge a).2.purge b).2.rows.length) =
        st.rows.length - (st.purge (a.later b)).2.rows.length
    rw [← rows]
    have kept : (st.purge a).2.rows.length ≤ st.rows.length := first
    have kept' : ((st.purge a).2.purge b).2.rows.length ≤ (st.purge a).2.rows.length := second
    omega

end Store

/-! ## What a commit writes -/

namespace Changes

/-- No message stands twice in what the changes do to committed messages, and no new message has the
name of one that was buried. -/
structure Definite (c : Changes) : Prop where
  names : (c.updated.map (·.id) ++ c.deadLettered.map (·.id)).Nodup
  apart : c.NamesApart

/-- **Everything that the changes say was written**, when the tables went from `st` to `st'`: the
changed messages into their rows, the new ones into rows behind all others, and the buried ones to
the dead letters. -/
structure TakesEffect (c : Changes) (st st' : Store) : Prop where
  updated : ∀ m ∈ c.updated, ∃ row, st.row? m.id = some row ∧
    st'.row? m.id = some { row with message := m }
  inserted : ∀ m ∈ c.inserted, ∃ seq, st.nextSeq ≤ seq ∧ st'.row? m.id = some ⟨seq, m⟩
  deadLettered : ∀ d ∈ c.deadLettered, st'.row? d.id = none ∧ st'.deadLetter? d.id = some d

variable {c : Changes} {st : Store} {locks : List MessageId}

theorem Definite.empty : ({} : Changes).Definite :=
  ⟨List.nodup_nil, fun _ hm => absurd hm List.not_mem_nil⟩

/-- A message that was not buried can be changed once more. -/
theorem Definite.update (definite : c.Definite) {m : QueuedMessage}
    (alive : m.id ∉ c.deadLettered.map (·.id)) : (c.update m).Definite := by
  refine ⟨?_, definite.apart⟩
  obtain ⟨changed, buried, apart⟩ := List.nodup_append.mp definite.names
  refine List.nodup_append.mpr
    ⟨Store.nodup_filter_ne_append QueuedMessage.id m changed, buried, ?_⟩
  intro id there id' dead same
  subst same
  rw [Changes.update, List.map_append, List.mem_append] at there
  rcases there with old | new
  · exact apart id ((List.filter_sublist.map _).subset old) id dead rfl
  · rw [List.mem_singleton.mp new] at dead
    exact alive dead

/-- A message that was not buried can be buried, if it is not new. -/
theorem Definite.bury (definite : c.Definite) {d : DeadLetter}
    (alive : d.id ∉ c.deadLettered.map (·.id)) (old : d.id ∉ c.inserted.map (·.id)) :
    (c.bury d).Definite := by
  obtain ⟨changed, buried, apart⟩ := List.nodup_append.mp definite.names
  constructor
  · refine List.nodup_append.mpr ⟨changed.sublist (List.filter_sublist.map _), ?_, ?_⟩
    · rw [Changes.bury, List.map_append]
      refine List.nodup_append.mpr ⟨buried, List.nodup_singleton _, ?_⟩
      rintro id there id' here rfl
      rw [List.mem_singleton.mp here] at there
      exact alive there
    · rintro id there id' dead rfl
      obtain ⟨m, hm, rfl⟩ := List.mem_map.mp there
      obtain ⟨stays, other⟩ := List.mem_filter.mp hm
      rw [Changes.bury, List.map_append, List.mem_append] at dead
      rcases dead with before | now
      · exact apart m.id (List.mem_map_of_mem stays) m.id before rfl
      · exact of_decide_eq_true other (List.mem_singleton.mp now)
  · intro m hm dead
    rw [Changes.bury, List.map_append, List.mem_append] at dead
    rcases dead with before | now
    · exact definite.apart m hm before
    · have name : m.id = d.id := List.mem_singleton.mp now
      exact old (name ▸ List.mem_map_of_mem hm)

/-- **Valid changes take effect**, all of them: no row that they are about is missing. -/
theorem Definite.takesEffect (definite : c.Definite) (coherent : c.Coherent st)
    (valid : c.Valid st locks) : c.TakesEffect st (c.apply st) := by
  obtain ⟨-, buriedOnce, apart⟩ := List.nodup_append.mp definite.names
  refine ⟨?_, ?_, ?_⟩
  · intro m hm
    obtain ⟨-, -, row, found, -⟩ := valid.updated m hm
    have here : m.id ∈ c.updated.map (·.id) := List.mem_map_of_mem hm
    have alive : m.id ∉ c.deadLettered.map (·.id) := fun dead => apart m.id here m.id dead rfl
    have notNew : m.id ∉ c.inserted.map (·.id) := by
      intro new
      obtain ⟨x, hx, same⟩ := List.mem_map.mp new
      have unused := coherent.new x hx
      rw [same, found] at unused
      cases unused
    refine ⟨row, found, ?_⟩
    -- of the rows after the commit, this one has a changed message
    have stays := isSome_row?_apply st notNew alive
    rw [found] at stays
    obtain ⟨row', written⟩ := Option.isSome_iff_exists.mp stays
    rcases (row?_apply_cases written).2 with ⟨-, unnamed⟩ | ⟨old, hold, x, hx, name, rfl⟩ | new
    · exact absurd (mem_names.mpr (Or.inr (Or.inl here))) unnamed
    · rw [hold, Option.some.injEq] at found
      rw [written, found, List.inj_on_of_nodup_map coherent.updated hx hm name]
    · obtain ⟨x, hx, name, -⟩ := new
      exact absurd (name ▸ List.mem_map_of_mem hx) notNew
  · intro m hm
    obtain ⟨x, hx, name, seq, later, written⟩ :=
      row?_apply_inserted st (List.mem_map_of_mem hm) (definite.apart m hm)
    rw [List.inj_on_of_nodup_map coherent.inserted hx hm name] at written
    exact ⟨seq, later, written⟩
  · intro d hd
    have dead : d.id ∈ c.deadLettered.map (·.id) := List.mem_map_of_mem hd
    refine ⟨row?_apply_buried st dead, ?_⟩
    rcases deadLetter?_apply_cases c st d.id with ⟨-, alive⟩ | ⟨e, he, name, written⟩
    · exact absurd dead alive
    · rw [written, List.inj_on_of_nodup_map buriedOnce he hd name]

end Changes

namespace Tx

variable {tx tx' : Tx} {st st' : Store} {r : TxRequest}

/-- **Requests keep the changes of a transaction definite**, those at the savepoint included, as
long as no message is added under the name of a buried one. -/
theorem Moves.definite (h : tx.Moves st r st' tx') (coherent : tx.changes.Coherent st)
    (valid : tx.changes.Valid st tx.locks) (kept : ∀ c, tx.Keeps c → c.Definite)
    (unburied : ∀ m, r = .add m → m.id ∉ tx.changes.deadLettered.map (·.id)) :
    ∀ c, tx'.Keeps c → c.Definite := by
  have now := kept tx.changes tx.keeps_changes
  intro c hc
  have apart := h.namesApart coherent (fun c hc => (kept c hc).apart) unburied c hc
  rcases h.keeps_cases hc with rfl | old
  · cases h with
    | stays | setsSavepoint | forgets => exact now
    | adds | rewritesOwn => exact ⟨now.names, apart⟩
    | takesLock r id₀ m₀ st' tx' seen pending got => exact (acquire_changes got).1 ▸ now
    | buriesOwn r id m d own pending death =>
        -- the message was new: it was not changed under a lock, and not buried before
        have name : d.id = m.id := death.id_eq
        have new : m ∈ tx.changes.inserted := Changes.mem_of_inserted? own
        refine ⟨?_, apart⟩
        rw [List.map_append, ← List.append_assoc]
        refine List.nodup_append.mpr ⟨now.names, List.nodup_singleton _, ?_⟩
        rintro x there x' here rfl
        have same : x = m.id := (List.mem_singleton.mp here).trans name
        subst same
        rcases List.mem_append.mp there with changed | dead
        · obtain ⟨u, hu, same⟩ := List.mem_map.mp changed
          obtain ⟨-, -, row, found, -⟩ := valid.updated u hu
          rw [same, (valid.inserted m new).1] at found
          cases found
        · exact now.apart m new dead
    | rewrites r id m m' st' tx₁ notOwn seen pending got progress =>
        have name : m'.id = id := progress.id_eq.trans (id_of_committedView seen)
        rw [(acquire_changes got).1]
        exact now.update (name ▸ (committedView_cases seen).1)
    | buries r id m d st' tx₁ notOwn seen pending got death =>
        have name : d.id = id := death.id_eq.trans (id_of_committedView seen)
        rw [(acquire_changes got).1]
        exact now.bury (name ▸ (committedView_cases seen).1)
          (name ▸ Changes.inserted?_eq_none_iff.mp notOwn)
    | returns c₀ saved => exact kept c₀ (Or.inr saved)
  · exact kept c old

end Tx

namespace System

/-- The changes that a transaction may commit are definite, after every run in which no name is
added twice. -/
theorem definite_run {n : Nat} {i : StoreId} (hi : i.index < n) {calls : List Call}
    (once : Call.AddsOnce i calls) {h : TxHandle} {tx : Tx}
    (opened : (((ofSize n).run calls).view i).tx h = some tx) : ∀ c, tx.Keeps c → c.Definite := by
  induction calls using List.reverseRecOn generalizing h tx with
  | nil =>
      rw [run_nil, view_ofSize hi] at opened
      cases opened
  | append_singleton before c ih =>
      have orderly := orderly_run (orderly_ofSize n) before
      rw [run_concat, view_step orderly (index_lt_run hi before)] at opened
      rcases View.tx_step_cases opened with ⟨old, -⟩ | rfl | ⟨ux, now, r, st', old, asked, moves⟩
      · exact ih once.of_append old
      · rintro c (rfl | saved)
        · exact .empty
        · cases saved
      · refine moves.definite (coherent_run hi once.of_append old _ ux.keeps_changes)
          ((sound_run hi once.of_append).valid_of_keeps old ux.keeps_changes)
          (ih once.of_append old) ?_
        -- what is added now was not buried: everything that was buried was added before
        rintro m rfl dead
        refine once.fresh (m := m) (by rw [asked, Happening.added?]) ?_
        obtain ⟨d, hd, name⟩ := List.mem_map.mp dead
        have given := ((traced_run hi before).kept h ux old _ ux.keeps_changes).deadLettered d hd
        obtain ⟨x, hx, same⟩ := List.mem_map.mp given
        have sameName : x.id = d.id := congrArg QueuedMessage.Origin.id same
        exact List.mem_map.mpr ⟨x, hx, sameName.trans name⟩

/-- **A commit writes everything that its transaction changed**, after every run in which no name is
added twice. -/
theorem takesEffect_run {n : Nat} {i : StoreId} (hi : i.index < n) {calls : List Call}
    (once : Call.AddsOnce i calls) {t : OpenTx} (ht : t ∈ ((ofSize n).run calls).openOn i) :
    (((ofSize n).run calls).commit i t.handle).1 = .ok () ∧
      t.tx.changes.TakesEffect (((ofSize n).run calls).store i)
        ((((ofSize n).run calls).commit i t.handle).2.store i) := by
  have distinct := distinct_run (orderly_ofSize n) List.nodup_nil calls
  have opened := view_tx_of_mem distinct ht
  have kept := t.tx.keeps_changes
  have definite := definite_run hi once opened _ kept
  have effect := definite.takesEffect (coherent_run hi once opened _ kept)
    ((sound_run hi once).valid_of_keeps opened kept)
  obtain ⟨there, home⟩ := mem_openOn.mp ht
  rw [commit, open?_of_mem distinct there]
  dsimp only
  rw [if_pos home]
  refine ⟨rfl, ?_⟩
  have store : ((((ofSize n).run calls).close t
      (t.tx.commit (((ofSize n).run calls).store i))).store i) =
        t.tx.commit (((ofSize n).run calls).store i) := by
    subst home
    exact store_setStore_self (index_lt_run hi calls) _
  rw [store]
  -- freed locks change nothing in the tables
  exact ⟨effect.updated, effect.inserted, effect.deadLettered⟩

/-! ## Purges -/

/-- **A purge is exact**: it takes the rows of store `i` that were delivered before the cutoff,
answers how many those were, and leaves everything else alone. -/
structure Purges (s : System) (i : StoreId) (cutoff : Timestamp) : Prop where
  tables : (s.purge i cutoff).2.store i =
    { s.store i with rows := (s.store i).rows.filter (¬ ·.message.DeliveredBefore cutoff) }
  count : (s.purge i cutoff).1 =
    ((s.store i).rows.filter (·.message.DeliveredBefore cutoff)).length
  elsewhere : ∀ j, j ≠ i → (s.purge i cutoff).2.store j = s.store j
  transactions : (s.purge i cutoff).2.transactions = s.transactions
  begun : (s.purge i cutoff).2.begun = s.begun

variable {s : System} {i : StoreId}

theorem store_purge (hi : i.index < s.stores.length) (cutoff : Timestamp) :
    (s.purge i cutoff).2.store i = ((s.store i).purge cutoff).2 :=
  store_setStore_self hi _

theorem purges (hi : i.index < s.stores.length) (cutoff : Timestamp) : s.Purges i cutoff := by
  refine ⟨?_, ?_, ?_, rfl, rfl⟩
  · rw [store_purge hi, Store.purge]
    simp only [← Store.processedBefore_iff, Bool.not_eq_true, ← Bool.not_eq_true',
      Bool.decide_eq_true]
  · show ((s.store i).purge cutoff).1 = _
    rw [Store.purge_count]
    simp only [← Store.processedBefore_iff, Bool.decide_eq_true]
  · intro j other
    exact store_setStore_ne s (Ne.symm other) _

/-- **Two purges are one**, with the later cutoff, for the whole system and for the answers. -/
theorem purge_purge (hi : i.index < s.stores.length) (a b : Timestamp) :
    ((s.purge i a).2.purge i b).2 = (s.purge i (a.later b)).2 ∧
      (s.purge i a).1 + ((s.purge i a).2.purge i b).1 = (s.purge i (a.later b)).1 := by
  obtain ⟨tables, counts⟩ := (s.store i).purge_purge a b
  have store := store_purge hi a
  constructor
  · show ((s.setStore i ((s.store i).purge a).2).setStore i
      (((s.purge i a).2.store i).purge b).2) = s.setStore i ((s.store i).purge (a.later b)).2
    rw [store, tables, setStore, setStore, setStore, List.set_set]
  · show ((s.store i).purge a).1 + (((s.purge i a).2.store i).purge b).1 = _
    rw [store]
    exact counts

/-- **Purges are exact, compose, and cost no transaction anything.** After every run in which no
name is added twice: a purge takes exactly the rows that were delivered before its cutoff; the rows
that open transactions have locked are pending and stay as they are; whatever happens after that,
every transaction that is open then can commit, and all its changes are written; and two purges are
one, with the later cutoff and the sum of the answers. -/
theorem purge_exact {n : Nat} {i : StoreId} (hi : i.index < n) {before : List Call}
    (once : Call.AddsOnce i before) :
    let s := (ofSize n).run before
    (∀ cutoff, s.Purges i cutoff ∧
      (∀ t ∈ s.openOn i, t ∈ (s.purge i cutoff).2.openOn i ∧
        ∀ id ∈ t.tx.locks, ∃ row, (s.store i).row? id = some row ∧
          row.message.isPending = true ∧ ((s.purge i cutoff).2.store i).row? id = some row) ∧
      ∀ later, Call.AddsOnce i (before ++ .purge i cutoff :: later) →
        let s' := (s.purge i cutoff).2.run later
        ∀ t ∈ s'.openOn i, (s'.commit i t.handle).1 = .ok () ∧
          t.tx.changes.TakesEffect (s'.store i) ((s'.commit i t.handle).2.store i)) ∧
      ∀ a b, ((s.purge i a).2.purge i b).2 = (s.purge i (a.later b)).2 ∧
        (s.purge i a).1 + ((s.purge i a).2.purge i b).1 = (s.purge i (a.later b)).1 := by
  intro s
  have hi' : i.index < s.stores.length := index_lt_run hi before
  have distinct : s.Distinct := distinct_run (orderly_ofSize n) List.nodup_nil before
  refine ⟨fun cutoff => ⟨purges hi' cutoff, ?_, ?_⟩, purge_purge hi'⟩
  · intro t ht
    refine ⟨ht, fun id held => ?_⟩
    have opened := view_tx_of_mem distinct ht
    obtain ⟨row, found, pending⟩ := (sound_run hi once).held t.handle t.tx opened id held
    refine ⟨row, found, pending, ?_⟩
    rw [store_purge hi']
    exact Store.row?_purge_of_isPending (tidy_run hi before) cutoff found pending
  · intro later once' s' t ht
    have whole : s' = (ofSize n).run (before ++ .purge i cutoff :: later) := by
      rw [run_append]
      rfl
    rw [whole] at ht ⊢
    exact takesEffect_run hi once' ht

/-- A run in which one message was delivered, and an open transaction has marked another one. -/
def halfDelivered : List Call :=
  [.beginTx ⟨0⟩, .request default ⟨0⟩ ⟨0⟩ (.add (.fresh default default "ping" .null)),
    .request default ⟨0⟩ ⟨0⟩ (.add (.fresh ⟨.ofNat 1⟩ default "pong" .null)),
    .request default ⟨0⟩ ⟨0⟩ (.markProcessed default), .commit ⟨0⟩ ⟨0⟩, .beginTx ⟨0⟩,
    .request default ⟨0⟩ ⟨1⟩ (.markProcessed ⟨.ofNat 1⟩)]

/-- A purge of `halfDelivered` takes the one row that was delivered, and the commit that follows
writes the mark on the other one. -/
theorem purge_exact_halfDelivered :
    let s := (ofSize 1).run halfDelivered
    let cutoff := (Timestamp.ofNumbers? Timestamp.year2024.date 1 0 0 0).getD default
    s.Purges ⟨0⟩ cutoff ∧ (s.purge ⟨0⟩ cutoff).1 = 1 ∧
      ∃ t ∈ (s.purge ⟨0⟩ cutoff).2.openOn ⟨0⟩, t.tx.changes.updated.length = 1 ∧
        t.tx.changes.TakesEffect ((s.purge ⟨0⟩ cutoff).2.store ⟨0⟩)
          (((s.purge ⟨0⟩ cutoff).2.commit ⟨0⟩ t.handle).2.store ⟨0⟩) := by
  intro s cutoff
  have once : Call.AddsOnce ⟨0⟩ halfDelivered := by decide
  have main := (purge_exact (n := 1) (i := ⟨0⟩) (by decide) once).1 cutoff
  let marked := (QueuedMessage.fresh ⟨.ofNat 1⟩ default "pong" .null).markProcessed default
  have opened : (⟨⟨1⟩, ⟨0⟩, ⟨{ updated := [marked] }, none, [marked.id]⟩⟩ : OpenTx) ∈
      (s.purge ⟨0⟩ cutoff).2.openOn ⟨0⟩ := List.mem_cons_self
  refine ⟨main.1, by decide, _, opened, rfl, ?_⟩
  exact (main.2.2 [] (by decide) _ opened).2

end System

end MaintenanceOutbox
