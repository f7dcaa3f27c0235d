import MaintenanceOutbox.Proofs.Store.Everywhere
import MaintenanceOutbox.Proofs.Store.Ownership
import Mathlib.Data.List.Induction

set_option autoImplicit false

/-! # Every message comes from an add

Delivery changes when a message was delivered, how often it failed and how it failed last. The rest
is its `QueuedMessage.Origin`, and `View.Traced` says that every message that is anywhere, in a
table or in the changes of an open transaction, has the origin of one that was given to `add`.

If no name is given to `add` twice, then the name says which message that was. It also says that
nobody else carries it, so that the invariant of ownership holds (`System.sound_run`).
-/

namespace MaintenanceOutbox

/-- What delivery does not change about a message. -/
structure QueuedMessage.Origin where
  id : MessageId
  eventType : String
  payload : Json
  createdAt : Timestamp
  maxRetries : UInt32

/-- What delivery does not change about the message. -/
def QueuedMessage.origin (m : QueuedMessage) : QueuedMessage.Origin :=
  ⟨m.id, m.eventType, m.payload, m.createdAt, m.maxRetries⟩

theorem QueuedMessage.Progress.origin_eq {m m' : QueuedMessage} (h : m.Progress m') :
    m'.origin = m.origin := by
  cases h <;> rfl

theorem QueuedMessage.Death.origin_eq {m : QueuedMessage} {d : DeadLetter} (h : m.Death d) :
    d.message.origin = m.origin := by
  cases h
  rfl

/-- Delivery, and a return into the queue, keep where messages come from. -/
theorem QueuedMessage.lasting_origin (origins : List QueuedMessage.Origin) :
    QueuedMessage.Lasting (·.origin ∈ origins) (·.message.origin ∈ origins) where
  progress given _ progress := progress.origin_eq ▸ given
  death given _ death := death.origin_eq ▸ given
  requeued given := given

/-- **No name is given to `add` twice** on store `i`. -/
def Call.AddsOnce (i : StoreId) (calls : List Call) : Prop :=
  ((Call.added i calls).map (·.id)).Nodup

instance (i : StoreId) (calls : List Call) : Decidable (Call.AddsOnce i calls) :=
  inferInstanceAs (Decidable (List.Nodup _))

/-- All messages that the changes would write have their origin in the list. -/
structure Changes.From (c : Changes) (origins : List QueuedMessage.Origin) : Prop where
  inserted : ∀ m ∈ c.inserted, m.origin ∈ origins
  updated : ∀ m ∈ c.updated, m.origin ∈ origins
  deadLettered : ∀ d ∈ c.deadLettered, d.message.origin ∈ origins

theorem Changes.from_iff {c : Changes} {origins : List QueuedMessage.Origin} :
    c.From origins ↔ c.All (·.origin ∈ origins) (·.message.origin ∈ origins) :=
  ⟨fun h => ⟨h.inserted, h.updated, h.deadLettered⟩,
    fun h => ⟨h.inserted, h.updated, h.deadLettered⟩⟩

namespace View

/-- **Every message that is anywhere has its origin in the list.** -/
structure Traced (v : View) (origins : List QueuedMessage.Origin) : Prop where
  rows : ∀ id r, v.store.row? id = some r → r.message.origin ∈ origins
  deadLetters : ∀ id d, v.store.deadLetter? id = some d → d.message.origin ∈ origins
  kept : ∀ h tx, v.tx h = some tx → ∀ c, tx.Keeps c → c.From origins

namespace Traced

variable {v : View} {origins : List QueuedMessage.Origin}

/-- A longer list has the origins too. -/
theorem mono (inv : v.Traced origins) {more : List QueuedMessage.Origin} (sub : origins ⊆ more) :
    v.Traced more := by
  refine ⟨fun id r found => sub (inv.rows id r found),
    fun id d found => sub (inv.deadLetters id d found), ?_⟩
  intro h tx opened c hc
  have all := inv.kept h tx opened c hc
  exact ⟨fun m hm => sub (all.inserted m hm), fun m hm => sub (all.updated m hm),
    fun d hd => sub (all.deadLettered d hd)⟩

/-- A message that is carried was given to `add`. -/
theorem given_of_carries (inv : v.Traced origins) {h : TxHandle} {tx : Tx}
    (opened : v.tx h = some tx) {id : MessageId} (carried : tx.Carries id) :
    id ∈ origins.map (·.id) := by
  have now := inv.kept h tx opened tx.changes tx.keeps_changes
  rcases carried with new | ⟨dead, -⟩
  · obtain ⟨m, hm, rfl⟩ := List.mem_map.mp new
    exact List.mem_map.mpr ⟨m.origin, now.inserted m hm, rfl⟩
  · obtain ⟨d, hd, rfl⟩ := List.mem_map.mp dead
    exact List.mem_map.mpr ⟨d.message.origin, now.deadLettered d hd, rfl⟩

/-- A message that is stored was given to `add`. -/
theorem given_of_stored (inv : v.Traced origins) {id : MessageId} (stored : ¬ v.store.Unused id) :
    id ∈ origins.map (·.id) := by
  cases found : v.store.row? id with
  | some r =>
      have name : r.message.origin.id = id := Store.id_of_row? found
      exact List.mem_map.mpr ⟨_, inv.rows id r found, name⟩
  | none =>
      cases dead : v.store.deadLetter? id with
      | some d =>
          have name : d.message.origin.id = id := Store.id_of_deadLetter? dead
          exact List.mem_map.mpr ⟨_, inv.deadLetters id d dead, name⟩
      | none => exact absurd ⟨found, dead⟩ stored

/-- The origin of a message is a property that holds everywhere. -/
theorem iff_everywhere :
    v.Traced origins ↔ v.Everywhere (·.origin ∈ origins) (·.message.origin ∈ origins) :=
  ⟨fun h => ⟨h.rows, h.deadLetters, fun k tx opened c hc =>
      Changes.from_iff.mp (h.kept k tx opened c hc)⟩,
    fun h => ⟨h.rows, h.deadLetters, fun k tx opened c hc =>
      Changes.from_iff.mpr (h.kept k tx opened c hc)⟩⟩

theorem empty : View.empty.Traced origins :=
  iff_everywhere.mpr .empty

/-- The tables of a commit have messages of the old tables and of the changes. -/
theorem of_commits (inv : v.Traced origins) {h : TxHandle} {tx : Tx} (opened : v.tx h = some tx) :
    { v with store := tx.commit v.store, tx := Function.update v.tx h none : View }.Traced
      origins :=
  iff_everywhere.mpr ((iff_everywhere.mp inv).of_commits opened)

/-- **The invariant holds on**, if the list has what is added. -/
theorem step (tidy : v.store.Tidy) (inv : v.Traced origins) {e : Happening}
    (added : ∀ m, e.added? = some m → m.origin ∈ origins) : (v.step e).Traced origins :=
  iff_everywhere.mpr
    ((iff_everywhere.mp inv).step tidy (QueuedMessage.lasting_origin origins) added)

end Traced

end View

/-! ## Runs in which no name is added twice -/

/-- What is added in a part of a run is added in the run. -/
theorem Call.AddsOnce.of_append {i : StoreId} {before after : List Call}
    (once : AddsOnce i (before ++ after)) : AddsOnce i before := by
  rw [AddsOnce, added, List.filterMap_append, List.map_append] at once
  exact once.of_append_left

/-- What is added by the last call of a run was not added before. -/
theorem Call.AddsOnce.fresh {i : StoreId} {before : List Call} {c : Call}
    (once : AddsOnce i (before ++ [c])) {m : QueuedMessage} (add : (c.seenFrom i).added? = some m) :
    m.id ∉ (added i before).map (·.id) := by
  intro earlier
  rw [AddsOnce, added, List.filterMap_append, List.map_append] at once
  refine (List.nodup_append.mp once).2.2 m.id earlier m.id ?_ rfl
  simp [add]

namespace System

/-- What is anywhere in a store was given to `add` there. -/
theorem traced_run {n : Nat} {i : StoreId} (hi : i.index < n) (calls : List Call) :
    (((ofSize n).run calls).view i).Traced ((Call.added i calls).map QueuedMessage.origin) := by
  refine View.Traced.iff_everywhere.mpr
    (everywhere_run hi (QueuedMessage.lasting_origin _) calls ?_)
  intro m hm
  exact List.mem_map_of_mem hm

/-- If no name is added twice, messages are added apart. -/
theorem apart_of_addsOnce {n : Nat} {i : StoreId} (hi : i.index < n) {before : List Call} {c : Call}
    (once : Call.AddsOnce i (before ++ [c])) :
    (((ofSize n).run before).view i).Apart (c.seenFrom i) := by
  intro now h m tx adds _ _ k ux hk carried
  -- a message that is carried was added before, and its name with it
  have given := (traced_run hi before).given_of_carries hk carried
  rw [List.map_map] at given
  have here : (c.seenFrom i).added? = some m := by rw [adds, Happening.added?]
  exact absurd given (once.fresh here)

/-- **If no name is added twice, every message belongs to somebody.** -/
theorem sound_run {n : Nat} {i : StoreId} (hi : i.index < n) {calls : List Call}
    (once : Call.AddsOnce i calls) : (((ofSize n).run calls).view i).Sound := by
  induction calls using List.reverseRecOn with
  | nil =>
      rw [run_nil, view_ofSize hi]
      exact View.sound_empty
  | append_singleton before c ih =>
      have orderly := orderly_run (orderly_ofSize n) before
      rw [run_concat, view_step orderly (index_lt_run hi before)]
      exact (ih once.of_append).step (apart_of_addsOnce hi once)

end System

end MaintenanceOutbox
