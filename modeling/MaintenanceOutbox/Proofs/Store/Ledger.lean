import MaintenanceOutbox.Proofs.Store.Origins

set_option autoImplicit false

/-! # A ledger of messages

`Ledger` is what an observer of one store writes down during a run: the messages that are given to
`add`, the new messages of every commit, and what is gone from the tables after a purge or a
deletion. It is not part of the store, and nothing in the store looks at it.

The rest of the module says how each happening changes the set of names in the tables: by the new
messages of a commit, and by what operators take away.
-/

namespace MaintenanceOutbox

namespace Store

/-- The names in the tables. -/
def ids (st : Store) : List MessageId :=
  st.rows.map Row.id ++ st.deadLetters.map (·.id)

/-- The rows that are gone in another state of the store. -/
def lostRows (st after : Store) : List Row :=
  st.rows.filter fun r => (after.row? r.id).isNone

/-- The dead letters that are gone in another state of the store. -/
def lostDeadLetters (st after : Store) : List DeadLetter :=
  st.deadLetters.filter fun d => (after.deadLetter? d.id).isNone

theorem mem_ids {st : Store} {id : MessageId} : id ∈ st.ids ↔ ¬ st.Unused id := by
  rw [ids, List.mem_append, Unused, row?_eq_none_iff, deadLetter?_eq_none_iff, not_and_or, not_not,
    not_not]

theorem mem_ids_of_row? {st : Store} {id : MessageId} {r : Row} (found : st.row? id = some r) :
    id ∈ st.ids := by
  rw [mem_ids, Unused, found]
  simp

theorem mem_ids_of_deadLetter? {st : Store} {id : MessageId} {d : DeadLetter}
    (found : st.deadLetter? id = some d) : id ∈ st.ids := by
  rw [mem_ids, Unused, found]
  simp

theorem mem_ids_iff {st : Store} {id : MessageId} :
    id ∈ st.ids ↔ (∃ r, st.row? id = some r) ∨ ∃ d, st.deadLetter? id = some d := by
  rw [mem_ids, Unused, not_and_or, ← ne_eq, ← ne_eq, Option.ne_none_iff_exists',
    Option.ne_none_iff_exists']

/-- Every name in the tables is counted once. -/
theorem length_ids (st : Store) :
    st.ids.length = st.stats.pending + st.stats.processed + st.stats.deadLettered := by
  have fewer : (st.rows.filter (·.message.isPending)).length ≤ st.rows.length :=
    List.length_filter_le _ _
  rw [ids, List.length_append, List.length_map, List.length_map, stats]
  dsimp only
  rw [Nat.add_sub_cancel' fewer]

theorem mem_lostRows {st after : Store} (tidy : st.Tidy) {r : Row} :
    r ∈ st.lostRows after ↔ st.row? r.id = some r ∧ after.row? r.id = none := by
  rw [lostRows, List.mem_filter, Option.isNone_iff_eq_none]
  exact and_congr_left fun _ => ⟨row?_of_mem tidy.rows, mem_of_row?⟩

theorem mem_lostDeadLetters {st after : Store} (tidy : st.Tidy) {d : DeadLetter} :
    d ∈ st.lostDeadLetters after ↔
      st.deadLetter? d.id = some d ∧ after.deadLetter? d.id = none := by
  rw [lostDeadLetters, List.mem_filter, Option.isNone_iff_eq_none]
  exact and_congr_left fun _ => ⟨deadLetter?_of_mem tidy.deadLetters, mem_of_deadLetter?⟩

end Store

/-- The names of the messages that the changes add to the store: those that are inserted, and the
dead letters that the transaction itself had added. -/
def Changes.net (c : Changes) (own : List MessageId) : List MessageId :=
  c.inserted.map (·.id) ++ (c.deadLettered.map (·.id)).filter (· ∈ own)

/-- **What an observer writes down.** -/
structure Ledger where
  /-- the messages given to `add`, and by which transaction -/
  added : List (TxHandle × QueuedMessage) := []
  /-- the names of the new messages of all commits -/
  committed : List MessageId := []
  /-- the rows that were purged -/
  purged : List Row := []
  /-- the dead letters that were deleted -/
  deleted : List DeadLetter := []

namespace Ledger

/-- The names that a transaction gave to `add`. -/
def addedBy (l : Ledger) (h : TxHandle) : List MessageId :=
  (l.added.filter (·.1 = h)).map (·.2.id)

/-- The entry for one happening. -/
def enter (l : Ledger) (v : View) (e : Happening) : Ledger :=
  match e with
  | .requests _ h (.add m) => { l with added := l.added ++ [(h, m)] }
  | .commits h =>
    match v.tx h with
    | none => l
    | some tx => { l with committed := l.committed ++ tx.changes.net (l.addedBy h) }
  | .deletes _ => { l with deleted := l.deleted ++ v.store.lostDeadLetters (v.step e).store }
  | .purges _ => { l with purged := l.purged ++ v.store.lostRows (v.step e).store }
  | _ => l

/-- The ledger after some happenings. -/
def along (v : View) (l : Ledger) : List Happening → Ledger
  | [] => l
  | e :: rest => along (v.step e) (l.enter v e) rest

theorem along_concat (v : View) (l : Ledger) (es : List Happening) (e : Happening) :
    along v l (es ++ [e]) = (along v l es).enter (v.run es) e := by
  induction es generalizing v l with
  | nil => rfl
  | cons first rest ih => exact ih (v.step first) (l.enter v first)

theorem mem_addedBy {l : Ledger} {h : TxHandle} {id : MessageId} :
    id ∈ l.addedBy h ↔ ∃ m, (h, m) ∈ l.added ∧ m.id = id := by
  simp [addedBy]

/-- The names in the ledger's other columns. -/
def gone (l : Ledger) : List MessageId :=
  l.purged.map Row.id ++ l.deleted.map (·.id)

theorem length_gone (l : Ledger) : l.gone.length = l.purged.length + l.deleted.length := by
  rw [gone, List.length_append, List.length_map, List.length_map]

end Ledger

/-- The ledger of store `i` for a run. -/
def System.ledger (s : System) (i : StoreId) (calls : List Call) : Ledger :=
  Ledger.along (s.view i) {} (calls.map (·.seenFrom i))

/-! ## New messages of a transaction stand there once -/

namespace Changes

/-- No name stands twice among the new messages and the dead letters. -/
def Single (c : Changes) : Prop :=
  (c.inserted.map (·.id) ++ c.deadLettered.map (·.id)).Nodup

theorem single_empty : ({} : Changes).Single :=
  List.nodup_nil

/-- A new message under a new name. -/
theorem Single.add {c : Changes} (single : c.Single) {m : QueuedMessage}
    (notNew : m.id ∉ c.inserted.map (·.id)) (notDead : m.id ∉ c.deadLettered.map (·.id)) :
    { c with inserted := c.inserted ++ [m] : Changes }.Single := by
  have order : (c.inserted.map (·.id) ++ c.deadLettered.map (·.id) ++ [m.id]).Perm
      ((c.inserted ++ [m]).map (·.id) ++ c.deadLettered.map (·.id)) := by
    rw [List.map_append, List.map_singleton, List.append_assoc, List.append_assoc]
    exact List.perm_append_comm.append_left _
  refine order.nodup (List.nodup_append.mpr ⟨single, List.nodup_singleton _, ?_⟩)
  intro a ha b hb same
  rw [List.mem_singleton.mp hb] at same
  rcases List.mem_append.mp (same ▸ ha) with new | dead
  · exact notNew new
  · exact notDead dead

/-- A dead letter under a new name. -/
theorem Single.append_dead {c : Changes} (single : c.Single) {d : DeadLetter}
    (notNew : d.id ∉ c.inserted.map (·.id)) (notDead : d.id ∉ c.deadLettered.map (·.id)) :
    (c.inserted.map (·.id) ++ (c.deadLettered ++ [d]).map (·.id)).Nodup := by
  rw [List.map_append, ← List.append_assoc]
  refine List.nodup_append.mpr ⟨single, List.nodup_singleton _, ?_⟩
  intro a ha b hb same
  have here : b = d.id := List.mem_singleton.mp hb
  rcases List.mem_append.mp (here ▸ same ▸ ha) with new | dead
  · exact notNew new
  · exact notDead dead

/-- A new message that becomes a dead letter. -/
theorem Single.bury_own {c : Changes} (single : c.Single) {d : DeadLetter}
    (own : d.id ∈ c.inserted.map (·.id)) :
    { c with
      inserted := dropFirst d.id c.inserted
      deadLettered := c.deadLettered ++ [d] : Changes }.Single := by
  have notDead : d.id ∉ c.deadLettered.map (·.id) := fun dead =>
    (List.nodup_append.mp single).2.2 d.id own d.id dead rfl
  have names := (List.nodup_append.mp single).1
  -- without the message there, its name is free again
  have less : { c with inserted := dropFirst d.id c.inserted : Changes }.Single :=
    single.sublist (((dropFirst_sublist d.id c.inserted).map _).append (List.Sublist.refl _))
  refine less.append_dead ?_ notDead
  rw [map_id_dropFirst]
  exact fun still => (List.Nodup.mem_erase_iff names).mp still |>.1 rfl

end Changes

/-- What a transaction adds and buries stays single, if what is added was not there before. -/
theorem Tx.Moves.single {tx tx' : Tx} {st st' : Store} {r : TxRequest} (h : tx.Moves st r st' tx')
    (kept : ∀ c, tx.Keeps c → c.Single)
    (fresh : ∀ m, r = .add m → m.id ∉ tx.changes.deadLettered.map (·.id)) :
    ∀ c, tx'.Keeps c → c.Single := by
  have now := kept tx.changes tx.keeps_changes
  intro c hc
  rcases h.keeps_cases hc with rfl | before
  · cases h with
    | stays | setsSavepoint | forgets => exact now
    | adds m free =>
        have notNew : tx.changes.inserted? m.id = none := (nameTaken_eq_false_iff.mp free).2
        exact now.add (Changes.inserted?_eq_none_iff.mp notNew) (fresh m rfl)
    | takesLock r id₀ m₀ st' tx' seen pending got => exact (acquire_changes got).1 ▸ now
    | rewritesOwn r id m m' own pending progress =>
        rw [Changes.Single,
          Changes.map_id_changeFirst (progress.id_eq.trans (Changes.id_of_inserted? own))]
        exact now
    | buriesOwn r id m d own pending death =>
        have name : d.id = id := death.id_eq.trans (Changes.id_of_inserted? own)
        have mem : d.id ∈ tx.changes.inserted.map (·.id) := by
          rw [death.id_eq]
          exact List.mem_map_of_mem (Changes.mem_of_inserted? own)
        exact name ▸ now.bury_own mem
    | rewrites r id m m' st' tx₁ notOwn seen pending got progress =>
        have same := (acquire_changes got).1
        rw [same]
        exact now
    | buries r id m d st' tx₁ notOwn seen pending got death =>
        -- what is seen as committed is neither among the new messages nor buried
        have same := (acquire_changes got).1
        have name : d.id = id := death.id_eq.trans (id_of_committedView seen)
        rw [same]
        refine now.append_dead ?_ ?_
        · rw [name]
          exact Changes.inserted?_eq_none_iff.mp notOwn
        · rw [name]
          exact (committedView_cases seen).1
    | returns c₀ saved => exact kept c₀ (Or.inr saved)
  · exact kept c before

/-! ## The names in the tables -/

namespace View.Sound

variable {v : View} {h : TxHandle} {tx : Tx}

/-- No name stands twice in the tables. -/
theorem nodup_ids (inv : v.Sound) : v.store.ids.Nodup := by
  refine List.nodup_append.mpr ⟨inv.tidy.rows, inv.tidy.deadLetters, ?_⟩
  rintro a ha b hb rfl
  rcases inv.tables a with noRow | noDead
  · exact Store.row?_eq_none_iff.mp noRow ha
  · exact Store.deadLetter?_eq_none_iff.mp noDead hb

/-- **A commit adds to the tables what its transaction carries**, and takes nothing away. -/
theorem mem_ids_commit (inv : v.Sound) (opened : v.tx h = some tx) (id : MessageId) :
    id ∈ (tx.commit v.store).ids ↔ id ∈ v.store.ids ∨ tx.Carries id := by
  constructor
  · intro stored
    rcases Store.mem_ids_iff.mp stored with ⟨row, found⟩ | ⟨d, found⟩
    · rcases (Changes.row?_apply_cases (found :)).2 with
        ⟨old, -⟩ | ⟨old, hold, -⟩ | ⟨m, hm, name, -⟩
      · exact Or.inl (Store.mem_ids_of_row? old)
      · exact Or.inl (Store.mem_ids_of_row? hold)
      · exact Or.inr (Or.inl (name ▸ List.mem_map_of_mem hm))
    · rcases Changes.deadLetter?_apply_cases tx.changes v.store id with
        ⟨same, -⟩ | ⟨e, he, name, -⟩
      · exact Or.inl (Store.mem_ids_of_deadLetter? (same.symm.trans found))
      · -- a dead letter under a lock had a row before
        by_cases held : id ∈ tx.locks
        · obtain ⟨row, hrow, -⟩ := inv.held h tx opened id held
          exact Or.inl (Store.mem_ids_of_row? hrow)
        · exact Or.inr (Or.inr ⟨name ▸ List.mem_map_of_mem he, held⟩)
  · rintro (stored | carried)
    · by_cases dead : id ∈ tx.changes.deadLettered.map (·.id)
      · rcases Changes.deadLetter?_apply_cases tx.changes v.store id with
          ⟨-, alive⟩ | ⟨d, -, -, new⟩
        · exact absurd dead alive
        · exact Store.mem_ids_of_deadLetter? (new :)
      · rcases Store.mem_ids_iff.mp stored with ⟨row, found⟩ | ⟨d, found⟩
        · have notNew : id ∉ tx.changes.inserted.map (·.id) := fun new => by
            cases (inv.unused h tx opened id (Or.inl new)).1.symm.trans found
          have still := Changes.isSome_row?_apply v.store notNew dead
          rw [found, Option.isSome_some, Option.isSome_iff_exists] at still
          obtain ⟨row', found'⟩ := still
          exact Store.mem_ids_of_row? (found' :)
        · have same := Changes.deadLetter?_apply_frame v.store dead
          exact Store.mem_ids_of_deadLetter? (same.trans found :)
    · rcases Tx.stored_of_carries v.store carried with ⟨row, found⟩ | ⟨d, found⟩
      · exact Store.mem_ids_of_row? found
      · exact Store.mem_ids_of_deadLetter? found

/-- **What is missing from the tables was lost**, if nothing else changed in them. -/
theorem ids_perm_lost (inv : v.Sound) {st : Store} (nodup : st.ids.Nodup)
    (rows : ∀ id, st.row? id = v.store.row? id ∨ st.row? id = none)
    (deads : ∀ id, st.deadLetter? id = v.store.deadLetter? id ∨ st.deadLetter? id = none) :
    v.store.ids.Perm (st.ids ++
      ((v.store.lostRows st).map Row.id ++ (v.store.lostDeadLetters st).map (·.id))) := by
  have notDead : ∀ {r : Row}, v.store.row? r.id = some r → v.store.deadLetter? r.id = none :=
    fun found => (inv.tables _).resolve_left (by simp [found])
  have notRow : ∀ {d : DeadLetter}, v.store.deadLetter? d.id = some d →
      v.store.row? d.id = none :=
    fun found => (inv.tables _).resolve_right (by simp [found])
  have stays : ∀ {id}, v.store.Unused id → st.Unused id := fun {id} ⟨noRow, noDead⟩ =>
    ⟨(rows id).elim (·.trans noRow) (fun none' => none'),
      (deads id).elim (·.trans noDead) (fun none' => none')⟩
  -- neither side has a name twice, so that it is enough to compare the names
  refine (List.perm_ext_iff_of_nodup inv.nodup_ids ?_).mpr ?_
  · refine List.nodup_append.mpr ⟨nodup, List.nodup_append.mpr ⟨?_, ?_, ?_⟩, ?_⟩
    · exact inv.tidy.rows.sublist (List.filter_sublist.map Row.id)
    · exact inv.tidy.deadLetters.sublist (List.filter_sublist.map _)
    · rintro a row b dead rfl
      obtain ⟨r, hr, rfl⟩ := List.mem_map.mp row
      obtain ⟨d, hd, same⟩ := List.mem_map.mp dead
      have found := ((Store.mem_lostDeadLetters inv.tidy).mp hd).1
      have none' := notDead ((Store.mem_lostRows inv.tidy).mp hr).1
      rw [← same, found] at none'
      cases none'
    · rintro a stored b lost rfl
      refine Store.mem_ids.mp stored ?_
      rcases List.mem_append.mp lost with row | dead
      · obtain ⟨r, hr, rfl⟩ := List.mem_map.mp row
        obtain ⟨found, missing⟩ := (Store.mem_lostRows inv.tidy).mp hr
        exact ⟨missing, (deads r.id).elim (·.trans (notDead found)) (fun none' => none')⟩
      · obtain ⟨d, hd, rfl⟩ := List.mem_map.mp dead
        obtain ⟨found, missing⟩ := (Store.mem_lostDeadLetters inv.tidy).mp hd
        exact ⟨(rows d.id).elim (·.trans (notRow found)) (fun none' => none'), missing⟩
  · -- a name is still there, or its entry is lost
    intro id
    rw [List.mem_append, List.mem_append]
    constructor
    · intro stored
      by_cases still : id ∈ st.ids
      · exact Or.inl still
      · have unused : st.Unused id := by rwa [Store.mem_ids, not_not] at still
        refine Or.inr ?_
        rcases Store.mem_ids_iff.mp stored with ⟨r, found⟩ | ⟨d, found⟩
        · have name : r.id = id := Store.id_of_row? found
          subst name
          exact Or.inl (List.mem_map_of_mem ((Store.mem_lostRows inv.tidy).mpr ⟨found, unused.1⟩))
        · have name : d.id = id := Store.id_of_deadLetter? found
          subst name
          exact Or.inr (List.mem_map_of_mem
            ((Store.mem_lostDeadLetters inv.tidy).mpr ⟨found, unused.2⟩))
    · rintro (still | row | dead)
      · exact Store.mem_ids.mpr fun unused => Store.mem_ids.mp still (stays unused)
      · obtain ⟨r, hr, rfl⟩ := List.mem_map.mp row
        exact Store.mem_ids_of_row? ((Store.mem_lostRows inv.tidy).mp hr).1
      · obtain ⟨d, hd, rfl⟩ := List.mem_map.mp dead
        exact Store.mem_ids_of_deadLetter? ((Store.mem_lostDeadLetters inv.tidy).mp hd).1

end View.Sound

end MaintenanceOutbox
