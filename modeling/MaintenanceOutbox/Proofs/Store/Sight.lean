import MaintenanceOutbox.Proofs.Store.Additions
import MaintenanceOutbox.Proofs.Store.Session
import MaintenanceOutbox.Proofs.Store.Tidy
import Mathlib.Data.List.Induction

set_option autoImplicit false

/-! # What a transaction sees and what it commits

An open transaction sees the committed rows with its changes on top and without those that it
buried, and behind them the messages that it added (`Tx.sight`); that is what a claim searches. The
commit goes another way to the tables, by three folds over the lists of changes. The two agree
(`Tx.rows_apply`), but for one case: a new message is seen, and not committed, if the transaction
buried a message of its name.

That case can happen. A message that a transaction added and buried is in no table yet, so that its
name may be given to `Tx.add` again; the commit then buries the second message with the first
(`System.not_commitsSight_readded`). Otherwise a transaction commits what it sees, whatever it was
asked for, and every message that it added is a row, unless the addition was undone or the message
buried (`System.commit_sight`).
-/

namespace MaintenanceOutbox

/-! ## What the folds of a commit write -/

namespace Store

/-- Changed messages under distinct names go into their rows, which stay where they are. -/
theorem rows_foldl_updateRow {ms : List QueuedMessage} (nodup : (ms.map (·.id)).Nodup)
    (st : Store) :
    (ms.foldl updateRow st).rows =
      st.rows.map fun r => { r with message := (ms.find? (·.id = r.id)).getD r.message } := by
  induction ms generalizing st with
  | nil => simp
  | cons m rest ih =>
      obtain ⟨notAgain, nodup⟩ := List.nodup_cons.mp nodup
      rw [List.foldl_cons, ih nodup, updateRow, List.map_map]
      refine List.map_congr_left ?_
      intro r _
      rw [Function.comp_apply, List.find?_cons]
      by_cases written : r.id = m.id
      · -- no later change has this name
        have last : rest.find? (·.id = m.id) = none := by
          rw [List.find?_eq_none]
          intro x hx same
          exact notAgain (List.mem_map.mpr ⟨x, hx, of_decide_eq_true same⟩)
        have name : (Row.mk r.seq m).id = m.id := rfl
        rw [if_pos written, name, last, decide_eq_true written.symm]
        rfl
      · have other : ¬ m.id = r.id := fun same => written same.symm
        rw [if_neg written, decide_eq_false other]

/-- Dead letters lose their rows, and the others stay where they are. -/
theorem rows_foldl_bury (ds : List DeadLetter) (st : Store) :
    (ds.foldl bury st).rows = st.rows.filter (·.id ∉ ds.map (·.id)) := by
  induction ds generalizing st with
  | nil => simp
  | cons d rest ih =>
      rw [List.foldl_cons, ih, bury, List.filter_filter]
      refine List.filter_congr ?_
      intro r _
      rw [Bool.and_comm]
      simp

end Store

theorem Row.length_sort (rows : List Row) : (Row.sort rows).length = rows.length := by
  have inserted : ∀ (r : Row) (sorted : List Row),
      (Row.insertSorted r sorted).length = sorted.length + 1 := by
    intro r sorted
    induction sorted with
    | nil => rfl
    | cons s rest ih =>
        rw [Row.insertSorted]
        split
        · rfl
        · rw [List.length_cons, ih, List.length_cons]
  induction rows with
  | nil => rfl
  | cons r rest ih =>
      rw [Row.sort, List.foldr_cons, inserted, List.length_cons]
      exact congrArg (· + 1) ih

theorem Row.numbered_eq_mapIdx (n : Nat) (ms : List QueuedMessage) :
    Row.numbered n ms = ms.mapIdx fun i m => ⟨n + i, m⟩ := by
  induction ms generalizing n with
  | nil => rfl
  | cons m rest ih =>
      rw [Row.numbered, ih, List.mapIdx_cons]
      simp [Nat.add_assoc, Nat.add_comm 1]

theorem Row.exists_mem_numbered {ms : List QueuedMessage} {m : QueuedMessage} (n : Nat)
    (hm : m ∈ ms) : ∃ r ∈ Row.numbered n ms, r.message = m := by
  induction ms generalizing n with
  | nil => cases hm
  | cons x rest ih =>
      rcases List.mem_cons.mp hm with rfl | later
      · exact ⟨⟨n, m⟩, List.mem_cons_self, rfl⟩
      · obtain ⟨r, hr, same⟩ := ih (n + 1) later
        exact ⟨r, List.mem_cons_of_mem _ hr, same⟩

/-! ## The changes of one transaction -/

/-- **The changes do not contradict each other**: the names of new messages are new to the rows, and
no name stands twice among the new messages, or among the changed ones. -/
structure Changes.Coherent (c : Changes) (st : Store) : Prop where
  new : ∀ m ∈ c.inserted, st.row? m.id = none
  inserted : (c.inserted.map (·.id)).Nodup
  updated : (c.updated.map (·.id)).Nodup

/-- No new message has the name of one that was buried. -/
def Changes.NamesApart (c : Changes) : Prop :=
  ∀ m ∈ c.inserted, m.id ∉ c.deadLettered.map (·.id)

namespace Changes.Coherent

variable {c : Changes} {st : Store}

theorem empty (st : Store) : ({} : Changes).Coherent st :=
  ⟨fun _ none => absurd none List.not_mem_nil, List.nodup_nil, List.nodup_nil⟩

theorem update (h : c.Coherent st) (m : QueuedMessage) : (c.update m).Coherent st :=
  ⟨h.new, h.inserted, Store.nodup_filter_ne_append QueuedMessage.id m h.updated⟩

theorem bury (h : c.Coherent st) (d : DeadLetter) : (c.bury d).Coherent st :=
  ⟨h.new, h.inserted, h.updated.sublist (List.filter_sublist.map _)⟩

end Changes.Coherent

namespace Tx

variable {tx tx' : Tx} {st st' : Store} {r : TxRequest}

/-- **What the transaction sees**, in the order of delivery. -/
def sight (tx : Tx) (st : Store) : List QueuedMessage :=
  (Row.sort (tx.committedRows st ++ tx.ownRows st)).map (·.message)

/-- Requests keep the changes of a transaction coherent, those at the savepoint included. -/
theorem Moves.coherent (h : tx.Moves st r st' tx') (kept : ∀ c, tx.Keeps c → c.Coherent st) :
    ∀ c, tx'.Keeps c → c.Coherent st' := by
  have now := kept tx.changes tx.keeps_changes
  intro c hc
  -- a request does not touch the rows
  suffices before : c.Coherent st from
    ⟨fun m hm => (h.row? m.id).trans (before.new m hm), before.inserted, before.updated⟩
  rcases h.keeps_cases hc with rfl | old
  · cases h with
    | stays | setsSavepoint | forgets => exact now
    | adds m free =>
        obtain ⟨⟨unused, -⟩, notOwn⟩ := nameTaken_eq_false_iff.mp free
        refine ⟨?_, ?_, now.updated⟩
        · intro x hx
          rcases List.mem_append.mp hx with old | new
          · exact now.new x old
          · rw [List.mem_singleton.mp new]
            exact unused
        · rw [List.map_append, List.nodup_append]
          refine ⟨now.inserted, List.nodup_singleton _, ?_⟩
          rintro a ha b hb rfl
          rw [List.mem_singleton.mp hb] at ha
          exact Changes.inserted?_eq_none_iff.mp notOwn ha
    | takesLock r id₀ m₀ st' tx' seen pending got => exact (acquire_changes got).1 ▸ now
    | rewritesOwn r id m m' own pending progress =>
        have name : m'.id = id := progress.id_eq.trans (Changes.id_of_inserted? own)
        have names := Changes.map_id_changeFirst name tx.changes.inserted
        refine ⟨?_, by rw [names]; exact now.inserted, now.updated⟩
        intro x hx
        rcases Changes.mem_changeFirst hx with rfl | old
        · rw [progress.id_eq]
          exact now.new m (Changes.mem_of_inserted? own)
        · exact now.new x old
    | buriesOwn r id m d own pending death =>
        have fewer := Changes.dropFirst_sublist id tx.changes.inserted
        exact ⟨fun x hx => now.new x (fewer.subset hx), now.inserted.sublist (fewer.map _),
          now.updated⟩
    | rewrites r id m m' st' tx₁ notOwn seen pending got progress =>
        rw [(acquire_changes got).1]
        exact now.update m'
    | buries r id m d st' tx₁ notOwn seen pending got death =>
        rw [(acquire_changes got).1]
        exact now.bury d
    | returns c₀ saved => exact kept c₀ (Or.inr saved)
  · exact kept c old

/-- New messages and buried ones keep different names, as long as no message is added under the name
of a buried one. -/
theorem Moves.namesApart (h : tx.Moves st r st' tx') (coherent : tx.changes.Coherent st)
    (kept : ∀ c, tx.Keeps c → c.NamesApart)
    (unburied : ∀ m, r = .add m → m.id ∉ tx.changes.deadLettered.map (·.id)) :
    ∀ c, tx'.Keeps c → c.NamesApart := by
  have now := kept tx.changes tx.keeps_changes
  intro c hc
  rcases h.keeps_cases hc with rfl | old
  · cases h with
    | stays | setsSavepoint | forgets => exact now
    | adds m free =>
        intro x hx
        rcases List.mem_append.mp hx with old | new
        · exact now x old
        · rw [List.mem_singleton.mp new]
          exact unburied m rfl
    | takesLock r id₀ m₀ st' tx' seen pending got => exact (acquire_changes got).1 ▸ now
    | rewritesOwn r id m m' own pending progress =>
        intro x hx
        rcases Changes.mem_changeFirst hx with rfl | old
        · rw [progress.id_eq]
          exact now m (Changes.mem_of_inserted? own)
        · exact now x old
    | buriesOwn r id m d own pending death =>
        -- the message leaves the new ones, among which its name stood once
        have name : d.id = id := death.id_eq.trans (Changes.id_of_inserted? own)
        intro x hx
        have notThis : x.id ≠ id := by
          have there := List.mem_map_of_mem (f := (·.id)) hx
          rw [Changes.map_id_dropFirst] at there
          exact (coherent.inserted.mem_erase_iff.mp there).1
        rw [List.map_append, List.mem_append, List.map_singleton, List.mem_singleton, name, not_or]
        exact ⟨now x ((Changes.dropFirst_sublist id _).subset hx), notThis⟩
    | rewrites r id m m' st' tx₁ notOwn seen pending got progress =>
        rw [(acquire_changes got).1]
        exact now
    | buries r id m d st' tx₁ notOwn seen pending got death =>
        have name : d.id = id := death.id_eq.trans (id_of_committedView seen)
        rw [(acquire_changes got).1]
        intro x hx
        have notThis : x.id ≠ id := fun same =>
          Changes.inserted?_eq_none_iff.mp notOwn (same ▸ List.mem_map_of_mem hx)
        rw [Changes.bury, List.map_append, List.mem_append, List.map_singleton, List.mem_singleton,
          name, not_or]
        exact ⟨now x hx, notThis⟩
    | returns c₀ saved => exact kept c₀ (Or.inr saved)
  · exact kept c old

theorem ownRows_eq_numbered (tx : Tx) (st : Store) :
    tx.ownRows st = Row.numbered st.nextSeq tx.changes.inserted :=
  (Row.numbered_eq_mapIdx st.nextSeq tx.changes.inserted).symm

/-- The committed rows as the transaction sees them are the changed ones, less the buried ones. -/
theorem committedRows_eq (tidy : st.Tidy) (coherent : tx.changes.Coherent st) :
    tx.committedRows st =
      (tx.changes.updated.foldl Store.updateRow st).rows.filter
        (·.id ∉ tx.changes.deadLettered.map (·.id)) := by
  rw [Store.rows_foldl_updateRow coherent.updated, List.filter_map, committedRows,
    ← List.filterMap_eq_map, List.filterMap_filter]
  refine List.filterMap_congr ?_
  intro r hr
  have stored : st.message? r.id = some r.message := by
    rw [Store.message?, Store.row?_of_mem tidy.rows hr]
    rfl
  let changed : Row := { r with message := (tx.changes.updated? r.id).getD r.message }
  -- a changed message has the name of the row into which it goes
  have name : changed.id = r.id := by
    cases found : tx.changes.updated? r.id with
    | none => rw [Row.id, show changed.message = r.message by simp only [changed, found]; rfl]; rfl
    | some m =>
        rw [Row.id, show changed.message = m by simp only [changed, found]; rfl]
        exact Changes.id_of_updated? found
  have seen : (tx.changes.updated? r.id).or (some r.message) = some changed.message := by
    simp only [changed]
    cases tx.changes.updated? r.id <;> rfl
  by_cases buried : r.id ∈ tx.changes.deadLettered.map (·.id)
  · have gone : ¬ changed.id ∉ tx.changes.deadLettered.map (·.id) := by rwa [name, not_not]
    rw [committedView, if_pos (Changes.isDeadLettered_iff.mpr buried)]
    exact (if_neg (mt of_decide_eq_true gone)).symm
  · have stays : changed.id ∉ tx.changes.deadLettered.map (·.id) := by rwa [name]
    rw [committedView, if_neg (mt Changes.isDeadLettered_iff.mp buried), stored, seen]
    exact (if_pos (decide_eq_true stays)).symm

/-- **What a commit writes into the rows**: what the transaction sees, less the new messages whose
names it buried. -/
theorem rows_apply (tidy : st.Tidy) (coherent : tx.changes.Coherent st) :
    (tx.changes.apply st).rows =
      tx.committedRows st ++
        (tx.ownRows st).filter (·.id ∉ tx.changes.deadLettered.map (·.id)) := by
  have new : ∀ m ∈ tx.changes.inserted,
      (tx.changes.updated.foldl Store.updateRow st).row? m.id = none := by
    intro m hm
    rw [← Option.not_isSome_iff_eq_none, Store.isSome_row?_foldl_updateRow, coherent.new m hm]
    exact Bool.false_ne_true
  rw [Changes.apply, Store.rows_foldl_bury, Store.foldl_pushRow_new new coherent.inserted,
    List.filter_append, committedRows_eq tidy coherent, ownRows_eq_numbered,
    Store.nextSeq_foldl_updateRow]

/-- **A commit writes what the transaction sees** exactly if no new message has the name of one
that it buried. -/
theorem messages_commit_eq_sight_iff (tidy : st.Tidy) (coherent : tx.changes.Coherent st) :
    (tx.commit st).messages = tx.sight st ↔ tx.changes.NamesApart := by
  let alive : Row → Bool := fun r => decide (r.id ∉ tx.changes.deadLettered.map (·.id))
  have written : (tx.commit st).messages =
      (Row.sort (tx.committedRows st ++ (tx.ownRows st).filter alive)).map (·.message) := by
    rw [commit, Store.messages, Store.unlock, rows_apply tidy coherent]
  have apart : (∀ r ∈ tx.ownRows st, alive r = true) ↔ tx.changes.NamesApart := by
    rw [ownRows_eq_numbered]
    constructor
    · intro all m hm
      obtain ⟨r, hr, rfl⟩ := Row.exists_mem_numbered st.nextSeq hm
      exact of_decide_eq_true (all r hr)
    · intro apart r hr
      exact decide_eq_true (apart r.message (Row.message_of_numbered hr))
  rw [written, sight, ← apart]
  constructor
  · -- a row that is missing is missing in number
    intro same
    have lengths := congrArg List.length same
    rw [List.length_map, List.length_map, Row.length_sort, Row.length_sort, List.length_append,
      List.length_append] at lengths
    exact List.length_filter_eq_length_iff.mp (Nat.add_left_cancel lengths)
  · intro all
    rw [List.filter_eq_self.mpr all]

/-! ## Names through marks and counts -/

/-- A mark changes no names. -/
theorem markProcessed_names {now : Timestamp} {id : MessageId}
    (h : tx.markProcessed st now id = .ok (st', tx')) :
    tx'.changes.inserted.map (·.id) = tx.changes.inserted.map (·.id) ∧
      tx'.changes.deadLettered = tx.changes.deadLettered := by
  unfold markProcessed at h
  cases own : tx.changes.inserted? id with
  | some m =>
      simp only [own] at h
      split at h <;> cases h
      · have name : (m.markProcessed now).id = id := (Changes.id_of_inserted? own :)
        rw [Changes.changeFirst_eq own]
        exact ⟨Changes.map_id_changeFirst name _, rfl⟩
      · exact ⟨rfl, rfl⟩
  | none =>
      simp only [own] at h
      split at h
      · cases h
        exact ⟨rfl, rfl⟩
      · split at h
        · cases got : tx.acquire st id with
          | error e =>
              rw [got] at h
              cases h
          | ok p =>
              rw [got] at h
              cases h
              rw [← (acquire_changes got).1]
              exact ⟨rfl, rfl⟩
        · cases h
          exact ⟨rfl, rfl⟩

/-- A count buries the message that it is about, or changes no names. -/
theorem incrementRetry_names {now : Timestamp} {id : MessageId} {error : String}
    {outcome? : Option RetryOutcome}
    (h : tx.incrementRetry st now id error = .ok (outcome?, st', tx')) :
    (tx'.changes.inserted.map (·.id) = tx.changes.inserted.map (·.id) ∧
        tx'.changes.deadLettered = tx.changes.deadLettered) ∨
      (∃ count, outcome? = some (.deadLettered count)) ∧
        (∀ x, x ≠ id → x ∈ tx.changes.inserted.map (·.id) → x ∈ tx'.changes.inserted.map (·.id)) ∧
          tx'.changes.deadLettered.map (·.id) = tx.changes.deadLettered.map (·.id) ++ [id] := by
  unfold incrementRetry at h
  cases own : tx.changes.inserted? id with
  | some m =>
      have name : m.id = id := Changes.id_of_inserted? own
      simp only [own] at h
      split at h
      · cases h
      · split at h
        · -- the call breaks off
          cases h
          exact Or.inl ⟨rfl, rfl⟩
        split at h <;> cases h
        · refine Or.inr ⟨⟨_, rfl⟩, ?_, ?_⟩
          · intro x other there
            rw [Changes.map_id_dropFirst]
            exact (List.mem_erase_of_ne other).mpr there
          · rw [List.map_append, ← name]
            rfl
        · rw [Changes.changeFirst_eq own]
          have kept : (m.afterFailure error).id = id := name
          rw [Changes.changeFirst_eq own]
          exact Or.inl ⟨Changes.map_id_changeFirst kept _, rfl⟩
  | none =>
      simp only [own] at h
      cases seen : (tx.committedView st id).filter (·.isPending) with
      | none =>
          rw [seen] at h
          cases h
      | some m =>
          have name : m.id = id := id_of_committedView (Option.filter_eq_some_iff.mp seen).1
          rw [seen] at h
          dsimp only at h
          cases got : tx.acquire st id with
          | error e =>
              rw [got] at h
              cases h
          | ok q =>
              rw [got] at h
              simp only [bind, Except.bind, pure, Except.pure] at h
              split at h
              · -- the call breaks off, with the row locked
                cases h
                rw [← (acquire_changes got).1]
                exact Or.inl ⟨rfl, rfl⟩
              split at h <;> cases h <;> rw [← (acquire_changes got).1]
              · refine Or.inr ⟨⟨_, rfl⟩, fun x _ there => there, ?_⟩
                rw [Changes.bury, List.map_append, ← name]
                rfl
              · exact Or.inl ⟨rfl, rfl⟩

/-! ## Requests, one after the other -/

/-- The tables and the transaction after a request. -/
def serve (p : Store × Tx) (q : Timestamp × TxRequest) : Store × Tx :=
  match p.2.request p.1 q.1 q.2 with
  | .error _ => p
  | .ok (_, after) => after

/-- The tables and a new transaction after some requests. -/
def work (st : Store) (qs : List (Timestamp × TxRequest)) : Store × Tx :=
  qs.foldl serve (st, {})

theorem work_concat (st : Store) (qs : List (Timestamp × TxRequest)) (q : Timestamp × TxRequest) :
    work st (qs ++ [q]) = serve (work st qs) q := by
  rw [work, List.foldl_append]
  rfl

/-- A request that is refused changes nothing, and any other one moves. -/
theorem serve_cases (p : Store × Tx) (q : Timestamp × TxRequest) :
    serve p q = p ∨ ∃ answer after, p.2.request p.1 q.1 q.2 = .ok (answer, after) ∧
      serve p q = after ∧ p.2.Moves p.1 q.2 after.1 after.2 := by
  unfold serve
  cases done : p.2.request p.1 q.1 q.2 with
  | error e => exact Or.inl rfl
  | ok r => exact Or.inr ⟨r.1, r.2, rfl, rfl, request_moves done⟩

/-- The tables stay tidy, and all changes that the transaction keeps are coherent. -/
theorem work_coherent (tidy : st.Tidy) (qs : List (Timestamp × TxRequest)) :
    (work st qs).1.Tidy ∧ ∀ c, (work st qs).2.Keeps c → c.Coherent (work st qs).1 := by
  induction qs using List.reverseRecOn with
  | nil =>
      refine ⟨tidy, ?_⟩
      rintro c (rfl | saved)
      · exact Changes.Coherent.empty st
      · cases saved
  | append_singleton qs q ih =>
      obtain ⟨tidy, coherent⟩ := ih
      rw [work_concat]
      rcases serve_cases (work st qs) q with same | ⟨answer, after, done, eq, moves⟩
      · rw [same]
        exact ⟨tidy, coherent⟩
      · rw [eq]
        refine ⟨?_, moves.coherent coherent⟩
        rw [moves.tables]
        exact tidy.of_locked _

/-- Names stay apart through work in which no addition that passes uses the name of a buried
message. -/
theorem work_namesApart (tidy : st.Tidy) {qs : List (Timestamp × TxRequest)}
    (unburied : ∀ before now m after, qs = before ++ (now, .add m) :: after →
      ((work st before).2.request (work st before).1 now (.add m)).map (·.1) = .ok (some ()) →
        m.id ∉ (work st before).2.changes.deadLettered.map (·.id)) :
    ∀ c, (work st qs).2.Keeps c → c.NamesApart := by
  induction qs using List.reverseRecOn with
  | nil =>
      rintro c (rfl | saved)
      · intro m hm
        cases hm
      · cases saved
  | append_singleton qs q ih =>
      have apart := ih fun before now m after split passes =>
        unburied before now m (after ++ [q]) (by rw [split, List.append_assoc]; rfl) passes
      have coherent := (work_coherent tidy qs).2 _ (keeps_changes _)
      rw [work_concat]
      rcases serve_cases (work st qs) q with same | ⟨answer, after, done, eq, moves⟩
      · rw [same]
        exact apart
      · rw [eq]
        refine moves.namesApart coherent apart ?_
        intro m asked
        obtain ⟨now, r⟩ := q
        cases asked
        refine unburied qs now m [] rfl ?_
        rw [done]
        cases answer with
        | some _ => rfl
        | none =>
            obtain ⟨id, error, m', asked, -⟩ := request_breaksOff done
            cases asked

/-! ## Messages that stay -/

end Tx

/-- A message under the name is among the new ones, and the name is among the buried ones if
`buried` says so. -/
def Changes.Shows (c : Changes) (id : MessageId) (buried : Prop) : Prop :=
  id ∈ c.inserted.map (·.id) ∧ (id ∈ c.deadLettered.map (·.id) ↔ buried)

namespace Tx

variable {tx tx' : Tx} {st st' : Store} {id : MessageId} {buried : Prop}

/-- A claim changes nothing. -/
theorem claimNext_changes {m? : Option QueuedMessage}
    (h : tx.claimNext st = .ok (m?, st', tx')) : tx'.changes = tx.changes := by
  rcases claimNext_cases tx st with ⟨none', -⟩ | ⟨m, -, own⟩ | ⟨r, -, _, _, got, some'⟩
  · rw [none'] at h
    cases h
    rfl
  · rw [own] at h
    cases h
    rfl
  · rw [some'] at h
    cases h
    exact (acquire_changes got).1

/-- A new message stays new when a failure is counted, unless that buries it. -/
theorem incrementRetry_shows {now : Timestamp} {x : MessageId} {error : String}
    {outcome? : Option RetryOutcome}
    (h : tx.incrementRetry st now x error = .ok (outcome?, st', tx'))
    (shown : tx.changes.Shows id buried)
    (unburied : x = id → ∀ count, outcome? ≠ some (.deadLettered count)) :
    tx'.changes.Shows id buried := by
  obtain ⟨new, burial⟩ := shown
  rcases incrementRetry_names h with ⟨names, dead⟩ | ⟨⟨count, spent⟩, others, dead⟩
  · rw [Changes.Shows, names, dead]
    exact ⟨new, burial⟩
  · have other : x ≠ id := fun same => unburied same count spent
    refine ⟨others id other.symm new, ?_⟩
    rw [dead, List.mem_append, List.mem_singleton]
    exact ⟨fun either => burial.mp (either.resolve_right other.symm),
      fun b => Or.inl (burial.mpr b)⟩

/-- A new message stays new, unless it is buried or the transaction returns to its savepoint. -/
theorem serve_shows {p : Store × Tx} {q : Timestamp × TxRequest}
    (shown : p.2.changes.Shows id buried) (stays : q.2 ≠ .rollbackToSavepoint)
    (unburied : ∀ error, q.2 = .incrementRetry id error → ∀ count,
      (p.2.request p.1 q.1 (.incrementRetry id error)).map (·.1) ≠
        .ok (some (.deadLettered count))) :
    (serve p q).2.changes.Shows id buried := by
  obtain ⟨time, r⟩ := q
  rcases serve_cases p (time, r) with same | ⟨answer, ⟨st', tx'⟩, done, eq, -⟩
  · rw [same]
    exact shown
  · rw [eq]
    cases r with
    | add m =>
        rw [request] at done
        cases added : p.2.add p.1 m with
        | error e =>
            rw [added] at done
            cases done
        | ok tx =>
            rw [added] at done
            cases done
            rw [(add_eq_ok_iff.mp added).2, adding]
            refine ⟨?_, shown.2⟩
            rw [List.map_append]
            exact List.mem_append_left _ shown.1
    | claimNext =>
        obtain ⟨m?, -, claimed⟩ := request_claimNext done
        rw [claimNext_changes claimed]
        exact shown
    | markProcessed x =>
        rw [request] at done
        cases marked : p.2.markProcessed p.1 time x with
        | error e =>
            rw [marked] at done
            cases done
        | ok after =>
            rw [marked] at done
            cases done
            obtain ⟨names, dead⟩ := markProcessed_names marked
            rw [Changes.Shows, names, dead]
            exact shown
    | incrementRetry x error =>
        refine incrementRetry_shows done shown ?_
        rintro rfl count rfl
        refine unburied error rfl count ?_
        rw [done]
        rfl
    | savepoint =>
        cases done
        exact shown
    | rollbackToSavepoint => exact absurd rfl stays
    | releaseSavepoint =>
        rw [request, releaseSavepoint] at done
        split at done <;> cases done
        exact shown

/-- No request but one for a savepoint sets one. -/
theorem savepoint_serve {p : Store × Tx} {q : Timestamp × TxRequest} (other : q.2 ≠ .savepoint)
    {c : Changes} (saved : (serve p q).2.savepoint = some c) : p.2.savepoint = some c := by
  obtain ⟨time, r⟩ := q
  rcases serve_cases p (time, r) with same | ⟨answer, ⟨st', tx'⟩, -, eq, moves⟩
  · rwa [same] at saved
  · rw [eq] at saved
    rcases moves.savepoint_cases with same | set | ⟨-, gone⟩
    · exact same.symm.trans saved
    · exact absurd set other
    · cases gone.symm.trans saved

/-- A return to the savepoint is refused for want of one, or brings its changes back. -/
theorem serve_rollbackToSavepoint (p : Store × Tx) (time : Timestamp) :
    serve p (time, .rollbackToSavepoint) = p ∨
      (p.2.request p.1 time .rollbackToSavepoint).map (·.1) = .ok (some ()) ∧
        ∃ c, p.2.savepoint = some c ∧
          serve p (time, .rollbackToSavepoint) = (p.1, { p.2 with changes := c }) := by
  obtain ⟨st, ⟨changes, savepoint, locks⟩⟩ := p
  cases savepoint with
  | none => exact Or.inl rfl
  | some c => exact Or.inr ⟨rfl, c, rfl, rfl⟩

/-- **A new message stays new** through work that neither undoes its addition nor buries it. -/
theorem foldl_serve_shows {p : Store × Tx} {qs : List (Timestamp × TxRequest)}
    (shown : p.2.changes.Shows id buried)
    (kept : ∀ mid time rest, qs = mid ++ (time, .rollbackToSavepoint) :: rest →
      (∀ q ∈ mid, q.2 ≠ .savepoint) →
        ((mid.foldl serve p).2.request (mid.foldl serve p).1 time .rollbackToSavepoint).map (·.1) ≠
          .ok (some ()))
    (unburied : ∀ mid time error rest, qs = mid ++ (time, .incrementRetry id error) :: rest →
      ∀ count, ((mid.foldl serve p).2.request (mid.foldl serve p).1 time
        (.incrementRetry id error)).map (·.1) ≠ .ok (some (.deadLettered count))) :
    (qs.foldl serve p).2.changes.Shows id buried := by
  -- a savepoint that was set after the addition has the message, too
  have all : ∀ mid, mid <+: qs → (mid.foldl serve p).2.changes.Shows id buried ∧
      ((∃ q ∈ mid, q.2 = .savepoint) →
        ∀ c, (mid.foldl serve p).2.savepoint = some c → c.Shows id buried) := by
    intro mid
    induction mid using List.reverseRecOn with
    | nil =>
        intro _
        exact ⟨shown, fun ⟨_, here, _⟩ => absurd here List.not_mem_nil⟩
    | append_singleton mid q ih =>
        intro pre
        obtain ⟨now, saved⟩ := ih ((List.prefix_append mid [q]).trans pre)
        obtain ⟨rest, split⟩ := pre
        rw [List.append_assoc, List.singleton_append] at split
        rw [List.foldl_append, List.foldl_cons, List.foldl_nil]
        have earlier : q.2 ≠ .savepoint → (∃ x ∈ mid ++ [q], x.2 = .savepoint) →
            ∃ x ∈ mid, x.2 = .savepoint := by
          rintro other ⟨x, hx, asked⟩
          rcases List.mem_append.mp hx with before | this
          · exact ⟨x, before, asked⟩
          · rw [List.mem_singleton.mp this] at asked
            exact absurd asked other
        by_cases saves : q.2 = .savepoint
        · obtain ⟨time, r⟩ := q
          cases saves
          refine ⟨now, fun _ c hc => ?_⟩
          cases hc
          exact now
        · by_cases returns : q.2 = .rollbackToSavepoint
          · obtain ⟨time, r⟩ := q
            cases returns
            rcases serve_rollbackToSavepoint (mid.foldl serve p) time with
              same | ⟨passes, c, savepoint, result⟩
            · rw [same]
              exact ⟨now, fun since => saved (earlier saves since)⟩
            · have since : ∃ q ∈ mid, q.2 = .savepoint := by
                by_contra never
                exact kept mid time rest split.symm (fun q hq asked => never ⟨q, hq, asked⟩) passes
              rw [result]
              exact ⟨saved since c savepoint, fun _ => saved since⟩
          · refine ⟨serve_shows now returns fun error asked => ?_, fun since c hc => ?_⟩
            · exact unburied mid q.1 error rest (by rw [← asked]; exact split.symm)
            · exact saved (earlier saves since) c (savepoint_serve saves hc)
  exact (all qs (List.prefix_refl qs)).1

/-- An addition that passes is under a name that is not in use, and makes the message a new one. -/
theorem serve_add {p : Store × Tx} {now : Timestamp} {m : QueuedMessage}
    (passes : (p.2.request p.1 now (.add m)).map (·.1) = .ok (some ())) :
    serve p (now, .add m) = (p.1, p.2.adding [m]) := by
  rw [request] at passes
  cases added : p.2.add p.1 m with
  | error e =>
      rw [added] at passes
      cases passes
  | ok tx =>
      rw [serve, request, added, ← (add_eq_ok_iff.mp added).2]
      rfl

end Tx

end MaintenanceOutbox
