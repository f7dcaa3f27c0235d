import MaintenanceOutbox.Proofs.Store.Exclusion

set_option autoImplicit false

/-! # Two adds of one name

`Tx.add` looks for its name in the tables and among the transaction's own messages. What another
open transaction is about to commit it cannot see, and a commit looks for nothing: it puts a new row
in the place of one that has its name, and beside a dead letter that has it.

So a commit spares what its transaction does not hold exactly as long as no message is added while
another open transaction carries its name (`System.lossless_iff_addsApart`). The condition is exact:
at the first such add it takes two commits for a message to be lost, or to be in both tables.
-/

namespace MaintenanceOutbox

namespace View

variable {v : View} {h k : TxHandle} {tx ux : Tx}

/-- The store after an add, with the transactions that are open then. -/
theorem step_add (hh : v.tx h = some tx) (now : Timestamp) {m : QueuedMessage}
    (free : tx.nameTaken v.store m.id = false) :
    v.step (.requests now h (.add m)) =
      { v with tx := Function.update v.tx h (some { tx with
          changes := { tx.changes with inserted := tx.changes.inserted ++ [m] } }) } := by
  rw [View.step, hh]
  dsimp only
  rw [Tx.request, Tx.add, free]
  rfl

/-- **What goes wrong** when a message is added while another open transaction carries its name.
After the commit of that transaction, the message is stored; the commit of the first one replaces
its row, or gives a dead letter a row. -/
theorem Sound.replaced (inv : v.Sound) (hh : v.tx h = some tx) (hk : v.tx k = some ux)
    (other : k ≠ h) (now : Timestamp) {m : QueuedMessage}
    (free : tx.nameTaken v.store m.id = false) (carried : ux.Carries m.id) :
    ∃ w tx', w = (v.step (.requests now h (.add m))).step (.commits k) ∧
      w.tx h = some tx' ∧ m.id ∉ tx'.locks ∧
        ((∃ row, w.store.row? m.id = some row ∧ (tx'.commit w.store).row? m.id ≠ some row) ∨
          ∃ d, w.store.deadLetter? m.id = some d ∧ (tx'.commit w.store).row? m.id ≠ none) := by
  have unlocked : m.id ∉ tx.locks := inv.not_locked hk carried hh
  have unburied : m.id ∉ tx.changes.deadLettered.map (·.id) := fun dead =>
    other (inv.sole k h ux tx m.id hk hh carried (Or.inr ⟨dead, unlocked⟩))
  -- the second commit draws a number that the row of the first cannot have
  obtain ⟨m', -, -, seq, younger, again⟩ := Changes.row?_apply_inserted
    (c := { tx.changes with inserted := tx.changes.inserted ++ [m] }) (ux.commit v.store)
    (by rw [List.map_append]; exact List.mem_append_right _ (List.mem_singleton.mpr rfl)) unburied
  refine ⟨_, { tx with changes := { tx.changes with inserted := tx.changes.inserted ++ [m] } }, rfl,
    ?_, unlocked, ?_⟩
  · rw [step_add hh now free, View.step]
    dsimp only
    rw [Function.update_of_ne other, hk]
    dsimp only
    rw [Function.update_of_ne other.symm, Function.update_self]
  · have store : ((v.step (.requests now h (.add m))).step (.commits k)).store =
        ux.commit v.store := by
      rw [step_add hh now free, View.step]
      dsimp only
      rw [Function.update_of_ne other, hk]
    rw [store]
    rcases Tx.stored_of_carries v.store carried with ⟨row, found⟩ | ⟨d, dead⟩
    · refine Or.inl ⟨row, found, ?_⟩
      have tidy : (ux.commit v.store).Tidy := (inv.tidy.apply ux.changes).of_locked _
      have older : row.seq < (ux.commit v.store).nextSeq :=
        tidy.seq_lt row (Store.mem_of_row? found)
      -- the same row would have the number of the first commit
      intro same
      cases (again.symm.trans same)
      exact absurd younger (Nat.not_le.mpr older)
    · refine Or.inr ⟨d, dead, ?_⟩
      intro missing
      cases (again.symm.trans missing)

end View

namespace System

/-- The commit of `h` on store `i` leaves what its transaction does not hold. -/
def Spares (s : System) (i : StoreId) (h : TxHandle) : Prop :=
  ∀ t ∈ s.openOn i, t.handle = h → ∀ id, id ∉ t.tx.locks →
    (∀ row, (s.store i).row? id = some row →
      ((s.step (.commit i h)).store i).row? id = some row) ∧
    ∀ d, (s.store i).deadLetter? id = some d →
      ((s.step (.commit i h)).store i).deadLetter? id = some d

/-- **Nothing is lost to a commit** on store `i` in the run, and no name gets into both tables. -/
structure Lossless (s : System) (i : StoreId) (calls : List Call) : Prop where
  spares : ∀ before h, before ++ [.commit i h] <+: calls → (s.run before).Spares i h
  tables : ∀ before, before <+: calls → ∀ id,
    ((s.run before).store i).row? id = none ∨ ((s.run before).store i).deadLetter? id = none

/-- **No message is added while another open transaction carries its name**, on store `i` in the
run. -/
def AddsApart (s : System) (i : StoreId) (calls : List Call) : Prop :=
  ∀ before now h m, before ++ [.request now i h (.add m)] <+: calls →
    ∀ t ∈ (s.run before).openOn i, t.handle = h →
      t.tx.nameTaken ((s.run before).store i) m.id = false →
        ∀ u ∈ (s.run before).openOn i, u.tx.Carries m.id → u.handle = h

theorem addsApart_nil (s : System) (i : StoreId) : s.AddsApart i [] := by
  intro before now h m add
  have none' := List.prefix_nil.mp add
  exact absurd none' (List.append_ne_nil_of_right_ne_nil _ (List.cons_ne_nil _ _))

theorem AddsApart.of_prefix {s : System} {i : StoreId} {calls before : List Call}
    (apart : s.AddsApart i calls) (pre : before <+: calls) : s.AddsApart i before :=
  fun earlier now h m add => apart earlier now h m (add.trans pre)

/-- It is enough to look at the last call of every prefix. -/
theorem AddsApart.concat {s : System} {i : StoreId} {calls : List Call}
    (apart : s.AddsApart i calls)
    {c : Call} (last : ∀ now h m, c = .request now i h (.add m) →
      ∀ t ∈ (s.run calls).openOn i, t.handle = h →
        t.tx.nameTaken ((s.run calls).store i) m.id = false →
          ∀ u ∈ (s.run calls).openOn i, u.tx.Carries m.id → u.handle = h) :
    s.AddsApart i (calls ++ [c]) := by
  intro before now h m add
  rcases List.prefix_concat_iff.mp add with whole | earlier
  · obtain ⟨rfl, here⟩ := List.append_inj' whole rfl
    exact last now h m (List.singleton_inj.mp here).symm
  · exact apart before now h m earlier

/-- Commits add nothing. -/
theorem AddsApart.append_commits {s : System} {i : StoreId} {calls : List Call}
    (apart : s.AddsApart i calls) (ends : List TxHandle) :
    s.AddsApart i (calls ++ ends.map (.commit i)) := by
  induction ends using List.reverseRecOn with
  | nil => rwa [List.map_nil, List.append_nil]
  | append_singleton rest h ih =>
      rw [List.map_append, ← List.append_assoc]
      exact ih.concat fun now k m add => nomatch add

/-- An add that is seen from a store is one on that store. -/
theorem eq_of_seenFrom_add {i : StoreId} {c : Call} {now : Timestamp} {h : TxHandle}
    {m : QueuedMessage} (add : c.seenFrom i = .requests now h (.add m)) :
    c = .request now i h (.add m) := by
  cases c with
  | request now' j k r =>
      rw [Call.seenFrom] at add
      split at add
      · next here =>
          cases add
          rw [here]
      · cases add
  | beginTx j | commit j k | requeue j id | deleteDeadLetter j id | purge j cutoff =>
      rw [Call.seenFrom] at add
      split at add <;> cases add
  | rollback j k | drop k => cases add

section Runs

variable {n : Nat} {i : StoreId} (hi : i.index < n)
include hi

/-- **If messages are added apart, every message belongs to somebody.** -/
theorem sound_of_addsApart {calls : List Call} (apart : (ofSize n).AddsApart i calls) :
    (((ofSize n).run calls).view i).Sound := by
  induction calls using List.reverseRecOn with
  | nil =>
      rw [run_nil, view_ofSize hi]
      exact View.sound_empty
  | append_singleton before c ih =>
      rw [run_concat, view_step (orderly_run (orderly_ofSize n) before) (index_lt_run hi before)]
      refine (ih (apart.of_prefix (List.prefix_append before [c]))).step ?_
      intro now h m tx add hh free k ux hk carried
      rw [eq_of_seenFrom_add add] at apart
      obtain ⟨t, ht, tHome, rfl⟩ := view_tx_eq_some_iff.mp hh
      obtain ⟨u, hu, uHome, rfl⟩ := view_tx_eq_some_iff.mp hk
      have same := apart before now h m (List.prefix_refl _) t
        (mem_openOn.mpr ⟨mem_of_open? ht, tHome⟩) (handle_of_open? ht) free u
        (mem_openOn.mpr ⟨mem_of_open? hu, uHome⟩) carried
      exact (handle_of_open? hu).symm.trans same

/-- If messages are added apart, nothing is lost to a commit. -/
theorem lossless_of_addsApart {calls : List Call} (apart : (ofSize n).AddsApart i calls) :
    (ofSize n).Lossless i calls := by
  have sound : ∀ before, before <+: calls → (((ofSize n).run before).view i).Sound :=
    fun before pre => sound_of_addsApart hi (apart.of_prefix pre)
  refine ⟨?_, fun before pre => (sound before pre).tables⟩
  intro before h commit t ht handle id free
  have inv := sound before ((List.prefix_append before _).trans commit)
  have distinct := distinct_run (orderly_ofSize n) List.nodup_nil before
  have opened := view_tx_of_mem distinct ht
  have after :=
    view_step (orderly_run (orderly_ofSize n) before) (index_lt_run hi before) (.commit i h)
  rw [Call.seenFrom, if_pos rfl, View.step, ← handle, opened] at after
  have store : (((ofSize n).run before).step (.commit i h)).store i =
      t.tx.commit (((ofSize n).run before).store i) := handle ▸ congrArg View.store after
  rw [store]
  -- what is stored is not carried, so that the commit does not touch it
  constructor
  · intro row found
    have foreign : ¬ t.tx.Carries id := fun carried => by
      have unused := (inv.unused _ _ opened id carried).1
      cases unused.symm.trans found
    exact (inv.commit_frame opened free foreign).1.trans found
  · intro d found
    have foreign : ¬ t.tx.Carries id := fun carried => by
      have unused := (inv.unused _ _ opened id carried).2
      cases unused.symm.trans found
    exact (inv.commit_frame opened free foreign).2.trans found

/-- If nothing can be lost to commits, the next add is apart from what other transactions carry. -/
theorem carrier_of_lossless {calls : List Call} (apart : (ofSize n).AddsApart i calls)
    {now : Timestamp} {h : TxHandle} {m : QueuedMessage}
    (lossless : ∀ ends : List TxHandle,
      (ofSize n).Lossless i (calls ++ [.request now i h (.add m)] ++ ends.map (.commit i)))
    {t u : OpenTx} (ht : t ∈ ((ofSize n).run calls).openOn i) (handle : t.handle = h)
    (free : t.tx.nameTaken (((ofSize n).run calls).store i) m.id = false)
    (hu : u ∈ ((ofSize n).run calls).openOn i) (carried : u.tx.Carries m.id) : u.handle = h := by
  by_cases other : u.handle = h
  · exact other
  · exfalso
    subst handle
    have inv := sound_of_addsApart hi apart
    have distinct := distinct_run (orderly_ofSize n) List.nodup_nil calls
    obtain ⟨w, tx', eq, ours, unlocked, lost⟩ :=
      inv.replaced (view_tx_of_mem distinct ht) (view_tx_of_mem distinct hu) other now free carried
    -- the run in which first the other transaction commits and then this one
    have first : w = ((ofSize n).run
        (calls ++ [.request now i t.handle (.add m)] ++ [.commit i u.handle])).view i := by
      have orderly := orderly_run (orderly_ofSize n)
      rw [run_concat, view_step (orderly _) (index_lt_run hi _), run_concat,
        view_step (orderly _) (index_lt_run hi _), eq, Call.seenFrom, if_pos rfl, Call.seenFrom,
        if_pos rfl]
    have both : (ofSize n).Lossless i (calls ++ [.request now i t.handle (.add m)] ++
        [.commit i u.handle] ++ [.commit i t.handle]) := by
      have commits := lossless [u.handle, t.handle]
      simpa only [List.append_assoc, List.cons_append, List.nil_append, List.map_cons,
        List.map_nil] using commits
    rw [first] at ours lost
    obtain ⟨t', ht', tHome, rfl⟩ := view_tx_eq_some_iff.mp ours
    have spares := both.spares _ t.handle (List.prefix_refl _) t'
      (mem_openOn.mpr ⟨mem_of_open? ht', tHome⟩) (handle_of_open? ht') m.id unlocked
    have tables := both.tables _ (List.prefix_refl _) m.id
    have store : ∀ {s : System}, s.open? t.handle = some t' →
        i.index < s.stores.length →
        (s.step (.commit i t.handle)).store i = t'.tx.commit (s.store i) := by
      intro s opened hi'
      rw [step, commit, opened]
      dsimp only
      rw [if_pos tHome]
      exact tHome ▸ store_setStore_self (tHome ▸ hi') _
    rw [run_concat, store ht' (index_lt_run hi _)] at tables
    rw [store ht' (index_lt_run hi _)] at spares
    rcases lost with ⟨row, found, replaced⟩ | ⟨d, found, doubled⟩
    · exact replaced (spares.1 row found)
    · rcases tables with noRow | noDead
      · exact doubled noRow
      · cases noDead.symm.trans (spares.2 d found)

end Runs

/-- **When no add is lost to a concurrent add.** Nothing is lost to commits, whichever of the
transactions that are open at some moment of a run commit then and in whichever order, exactly if
every message is added while no other open transaction carries its name. In that case no two
transactions ever carry the same name. -/
theorem lossless_iff_addsApart {n : Nat} (i : Fin n) (calls : List Call) :
    ((ofSize n).AddsApart ⟨i⟩ calls ↔ ∀ before, before <+: calls → ∀ ends : List TxHandle,
      (ofSize n).Lossless ⟨i⟩ (before ++ ends.map (.commit ⟨i⟩))) ∧
    ((ofSize n).AddsApart ⟨i⟩ calls → ∀ before, before <+: calls →
      ∀ t ∈ ((ofSize n).run before).openOn ⟨i⟩, ∀ u ∈ ((ofSize n).run before).openOn ⟨i⟩, ∀ id,
        t.tx.Carries id → u.tx.Carries id → t.handle = u.handle) := by
  have hi : (StoreId.mk i).index < n := i.isLt
  refine ⟨⟨?_, ?_⟩, ?_⟩
  · intro apart before pre ends
    exact lossless_of_addsApart hi ((apart.of_prefix pre).append_commits ends)
  · intro lossless
    -- the calls before the first add that is not apart are apart
    induction calls using List.reverseRecOn with
    | nil => exact addsApart_nil _ _
    | append_singleton calls c ih =>
        have apart := ih fun before pre =>
          lossless before (pre.trans (List.prefix_append calls [c]))
        refine apart.concat ?_
        rintro now h m rfl t ht handle free u hu carried
        exact carrier_of_lossless hi apart (lossless _ (List.prefix_refl _)) ht handle free hu
          carried
  · intro apart before pre t ht u hu id carried carried'
    have inv := sound_of_addsApart hi (apart.of_prefix pre)
    have distinct := distinct_run (orderly_ofSize n) List.nodup_nil before
    exact inv.sole _ _ _ _ id (view_tx_of_mem distinct ht) (view_tx_of_mem distinct hu) carried
      carried'

/-- Two open transactions add a message under the same name, and the first one commits. -/
def doubled : List Call :=
  [.beginTx ⟨0⟩, .beginTx ⟨0⟩,
    .request default ⟨0⟩ ⟨0⟩ (.add (.fresh default default "first" .null)),
    .request default ⟨0⟩ ⟨1⟩ (.add (.fresh default default "second" .null)), .commit ⟨0⟩ ⟨0⟩]

/-- **An add is lost to a concurrent add**: after `doubled`, the commit of the second transaction,
which holds no lock, is accepted, and the row of the first one is replaced. -/
theorem not_lossless_doubled :
    ¬ (ofSize 1).Lossless ⟨0⟩ (doubled ++ [.commit ⟨0⟩ ⟨1⟩]) ∧
      (((ofSize 1).run doubled).commit ⟨0⟩ ⟨1⟩).1 = .ok () := by
  refine ⟨?_, rfl⟩
  intro lossless
  have second :
      (⟨⟨1⟩, ⟨0⟩, ⟨⟨[.fresh default default "second" .null], [], []⟩, none, []⟩⟩ : OpenTx) ∈
        ((ofSize 1).run doubled).openOn ⟨0⟩ := List.mem_cons_self
  have spared := lossless.spares doubled ⟨1⟩ (List.prefix_refl _) _ second rfl default
    List.not_mem_nil
  have same := spared.1 ⟨0, .fresh default default "first" .null⟩ rfl
  have replaced : ((((ofSize 1).run doubled).step (.commit ⟨0⟩ ⟨1⟩)).store ⟨0⟩).row? default =
      some ⟨1, .fresh default default "second" .null⟩ := rfl
  cases replaced.symm.trans same

end System

end MaintenanceOutbox
