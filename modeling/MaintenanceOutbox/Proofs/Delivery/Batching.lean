import MaintenanceOutbox.Proofs.Delivery.Sequence
import MaintenanceOutbox.Proofs.Delivery.Stopping

set_option autoImplicit false

/-! # How the work is cut into batches does not matter

A worker that handles one batch after the other makes the same deliveries as one that handles
everything in one batch: where a batch is full, nothing happens, and the next one goes on with the
next delivery. Only at the end there may be more or fewer looks at a store on which nothing is
claimable, and such a look leaves nothing behind.

So any two ways to cut the work, if both get to the end of it, lead to the same outcomes, the same
calls of handlers on the same hosts, and the same stores (`Worker.batching_invisible`). The clock
may even move, as it is looked at by the same calls.
-/

namespace MaintenanceOutbox

open Clocked

variable {κ ω : Type} [EventFamily κ]

/-! ## Reports -/

namespace BatchReport

theorem handled_foldl (report : BatchReport) (outcomes : List MessageOutcome) :
    (outcomes.foldl record report).handled = report.handled + outcomes.length := by
  induction outcomes generalizing report with
  | nil => rfl
  | cons outcome rest ih =>
      rw [List.foldl_cons, ih, handled_record, List.length_cons]
      omega

/-- A report counts its outcomes. -/
theorem handled_foldl_nil (outcomes : List MessageOutcome) :
    (outcomes.foldl record {}).handled = outcomes.length :=
  (handled_foldl {} outcomes).trans (Nat.zero_add _)

theorem drained_foldl (report : BatchReport) (outcomes : List MessageOutcome) :
    (outcomes.foldl record report).drained = report.drained := by
  induction outcomes generalizing report with
  | nil => rfl
  | cons outcome rest ih => rw [List.foldl_cons, ih, drained_record]

end BatchReport

/-! ## Hosts on which nothing was done -/

namespace Clocked

/-- **Nothing was done** from `c` to `c'`, except that transactions may have begun and ended. -/
structure Quiet (c c' : Clocked ω) : Prop where
  stores : c'.system.stores = c.system.stores
  transactions : c'.system.transactions = c.system.transactions
  told : c'.told = c.told

namespace Quiet

variable {c c₁ c₂ : Clocked ω}

theorem refl (c : Clocked ω) : Quiet c c :=
  ⟨rfl, rfl, rfl⟩

theorem trans (first : Quiet c c₁) (second : Quiet c₁ c₂) : Quiet c c₂ :=
  ⟨second.stores.trans first.stores, second.transactions.trans first.transactions,
    second.told.trans first.told⟩

theorem store_eq (quiet : Quiet c c₁) (i : StoreId) : c₁.system.store i = c.system.store i := by
  rw [System.store, System.store, quiet.stores]

end Quiet

end Clocked

namespace Worker

variable (times : Nat → Timestamp) (w : Worker κ ω)

/-- What the delivery that begins on `c` results in, if it claims a message. -/
def outcome? (c : Clocked ω) : Option MessageOutcome :=
  match (run times w.processNext c).1 with
  | some (.ok outcome?) => outcome?
  | _ => none

/-- The calls of handlers in the delivery that begins on `c`. -/
def invoked (c : Clocked ω) : List (Invocation κ ω) :=
  ((c.system.store w.store).next?.map fun row => w.invokedFor times row.message c).getD []

/-- **The calls of handlers are those that the delivery makes** which begins on `c`. -/
structure Invokes (c : Clocked ω) : Prop where
  /-- where nothing is claimable, nothing is claimed, and no handler is called -/
  nothing : (c.system.store w.store).next? = none →
    w.invoked times c = [] ∧ (run times w.processNext c).1 = some (.ok none)
  /-- the message that is claimed is dispatched by these calls -/
  dispatches : ∀ row, (c.system.store w.store).next? = some row →
    w.Dispatches times row.message c ∧ w.invoked times c = w.invokedFor times row.message c
  /-- and the delivery goes on as the handlers report, from where they left the host -/
  goesOn : ∀ row, (c.system.store w.store).next? = some row →
    ∀ reported, (w.handled times row.message c).1 = some reported →
      run times w.processNext c = run times
        (w.settle (c.system.next w.store).handle row.message reported)
        (w.handled times row.message c).2
  /-- so that the number of handlers in the outcome is that of the calls -/
  counted : ∀ id handlers, w.outcome? times c = some (.processed id handlers) →
    (w.invoked times c).length = handlers

/-! ## Batches -/

/-- **The deliveries of a batch** of at most so many messages: the hosts on which they begin. The
last one may find nothing. -/
def deliveries : Nat → Clocked ω → List (Clocked ω)
  | 0, _ => []
  | left + 1, c =>
    c :: match run times w.processNext c with
      | (some (.ok (some _)), c') => deliveries left c'
      | _ => []

/-- Batches of the given sizes, one after the other. -/
def batches : List Nat → OutboxProgram ω (List (Except WorkerError BatchReport))
  | [] => pure []
  | size :: sizes => do
    let result ← (w.withBatchSize size).batch false
    let results ← batches sizes
    pure (result :: results)

/-- The host after batches of the given sizes. -/
def afterBatches (sizes : List Nat) (c : Clocked ω) : Clocked ω :=
  (run times (w.batches sizes) c).2

/-- The deliveries of batches of the given sizes. -/
def allDeliveries : List Nat → Clocked ω → List (Clocked ω)
  | [], _ => []
  | size :: sizes, c =>
    w.deliveries times (max size 1) c ++
      allDeliveries sizes (run times ((w.withBatchSize size).batch false) c).2

/-- Batches of the given sizes are all completed, and the last one drains the store. -/
def Completes (sizes : List Nat) (c : Clocked ω) : Prop :=
  ∃ earlier last, (run times (w.batches sizes) c).1 = some ((earlier ++ [last]).map .ok) ∧
    last.drained = true

/-- **The same work is done**, whether in batches of some sizes or of others. -/
structure SameWork (c : Clocked ω) (sizes sizes' : List Nat) : Prop where
  outcomes : (w.allDeliveries times sizes c).filterMap (w.outcome? times) =
    (w.allDeliveries times sizes' c).filterMap (w.outcome? times)
  invoked : (w.allDeliveries times sizes c).flatMap (w.invoked times) =
    (w.allDeliveries times sizes' c).flatMap (w.invoked times)
  /-- and these are the calls that the deliveries make -/
  invokes : ∀ c₁, c₁ ∈ w.allDeliveries times sizes c ∨ c₁ ∈ w.allDeliveries times sizes' c →
    w.Invokes times c₁
  stores : (w.afterBatches times sizes c).system.stores =
    (w.afterBatches times sizes' c).system.stores
  transactions : (w.afterBatches times sizes c).system.transactions =
    (w.afterBatches times sizes' c).system.transactions
  told : (w.afterBatches times sizes c).told = (w.afterBatches times sizes' c).told

/-- **A report is true to its batch**: no more messages than there is room for, and fewer only if
the last delivery found nothing that is claimable. -/
structure Truthful (size : Nat) (c : Clocked ω) (report : BatchReport) : Prop where
  handled_le : report.handled ≤ max size 1
  handled_eq : report.drained = false → report.handled = max size 1
  drained_iff : report.drained = true ↔
    ∃ c₁, (w.deliveries times (max size 1) c).getLast? = some c₁ ∧
      ∀ r ∈ (c₁.system.store w.store).rows, r.message.isClaimable = true →
        r.id ∈ (c₁.system.store w.store).locked
  counted : report.handled =
    ((w.deliveries times (max size 1) c).filterMap (w.outcome? times)).length

variable {times w} {c c' : Clocked ω} {n : Nat}

/-! ## Deliveries with an outcome -/

namespace Handles

variable {outcomes outcomes' : List MessageOutcome} {c₁ c₂ : Clocked ω}

theorem reached (handles : w.Handles times c outcomes c₁) (reached : c.Reached n) :
    c₁.Reached n := by
  induction handles with
  | none c => exact reached
  | next first rest ih => exact ih (reached.run times w.processNext)

theorem append (first : w.Handles times c outcomes c₁) (second : w.Handles times c₁ outcomes' c₂) :
    w.Handles times c (outcomes ++ outcomes') c₂ := by
  induction first with
  | none c => exact second
  | next first rest ih => exact .next first (ih second)

/-- The deliveries of a batch are those of the messages that it handled, and the further ones. -/
theorem deliveries_add (handles : w.Handles times c outcomes c₁) (left : Nat) :
    w.deliveries times (outcomes.length + left) c =
      w.deliveries times outcomes.length c ++ w.deliveries times left c₁ := by
  induction handles with
  | none c => rw [List.length_nil, Nat.zero_add, deliveries, List.nil_append]
  | @next c c₁ outcome outcomes first rest ih =>
      have goesOn : run times w.processNext c = (some (.ok (some outcome)), _) := Prod.ext first rfl
      rw [List.length_cons, Nat.add_right_comm, deliveries, deliveries, goesOn]
      dsimp only
      rw [ih, List.cons_append]

/-- Every delivery has its outcome. -/
theorem outcomes_eq (handles : w.Handles times c outcomes c₁) :
    (w.deliveries times outcomes.length c).map (w.outcome? times) = outcomes.map some := by
  induction handles with
  | none c => rfl
  | @next c c₁ outcome outcomes first rest ih =>
      have goesOn : run times w.processNext c = (some (.ok (some outcome)), _) := Prod.ext first rfl
      rw [List.length_cons, deliveries, List.map_cons, List.map_cons, outcome?, goesOn]
      dsimp only
      rw [ih]

theorem filterMap_outcome? (handles : w.Handles times c outcomes c₁) :
    (w.deliveries times outcomes.length c).filterMap (w.outcome? times) = outcomes := by
  have all := congrArg (List.filterMap id) handles.outcomes_eq
  simpa [List.filterMap_map] using all

/-- No delivery finds nothing. -/
theorem isSome_outcome? (handles : w.Handles times c outcomes c₁)
    (mem : c' ∈ w.deliveries times outcomes.length c) : (w.outcome? times c').isSome = true := by
  have listed := List.mem_map_of_mem (f := w.outcome? times) mem
  rw [handles.outcomes_eq] at listed
  obtain ⟨outcome, -, found⟩ := List.mem_map.mp listed
  rw [← found]
  rfl

/-- **Where deliveries end is determined**, if they end where nothing is left. -/
theorem unique (handles : w.Handles times c outcomes c₁)
    (nothing : (run times w.processNext c₁).1 = some (.ok Option.none))
    (handles' : w.Handles times c outcomes' c₂)
    (nothing' : (run times w.processNext c₂).1 = some (.ok Option.none)) :
    outcomes = outcomes' ∧ c₁ = c₂ := by
  induction handles generalizing outcomes' with
  | none c =>
      cases handles' with
      | none => exact ⟨rfl, rfl⟩
      | next first' rest' => cases nothing.symm.trans first'
  | next first rest ih =>
      cases handles' with
      | none => cases nothing'.symm.trans first
      | next first' rest' =>
          cases first.symm.trans first'
          obtain ⟨rfl, rfl⟩ := ih nothing rest'
          exact ⟨rfl, rfl⟩

end Handles

/-- The worker handles messages until the batch is full or something else comes up. -/
theorem exists_handles (times : Nat → Timestamp) (w : Worker κ ω) (left : Nat) (c : Clocked ω) :
    ∃ outcomes c₁, w.Handles times c outcomes c₁ ∧ (outcomes.length = left ∨
      outcomes.length < left ∧
        ∀ outcome, (run times w.processNext c₁).1 ≠ some (.ok (some outcome))) := by
  induction left generalizing c with
  | zero => exact ⟨[], c, .none c, Or.inl rfl⟩
  | succ left ih =>
      by_cases more : ∃ outcome, (run times w.processNext c).1 = some (.ok (some outcome))
      · obtain ⟨outcome, first⟩ := more
        obtain ⟨outcomes, c₁, handles, ends⟩ := ih (run times w.processNext c).2
        refine ⟨outcome :: outcomes, c₁, .next first handles, ?_⟩
        rw [List.length_cons]
        exact ends.imp (congrArg Nat.succ) fun ⟨room, stops⟩ => ⟨Nat.succ_lt_succ room, stops⟩
      · exact ⟨[], c, .none c, Or.inr ⟨Nat.succ_pos left, not_exists.mp more⟩⟩

/-- Every delivery of a batch begins on a host that is reached. -/
theorem reached_of_mem_deliveries (reached : c.Reached n) {left : Nat}
    (mem : c' ∈ w.deliveries times left c) : c'.Reached n := by
  induction left generalizing c with
  | zero => cases mem
  | succ left ih =>
      rw [deliveries] at mem
      rcases List.mem_cons.mp mem with rfl | later
      · exact reached
      · split at later
        · next outcome c₁ goesOn =>
            refine ih ?_ later
            have next := reached.run times w.processNext
            rwa [goesOn] at next
        · cases later

theorem reached_of_mem_allDeliveries (reached : c.Reached n) {sizes : List Nat}
    (mem : c' ∈ w.allDeliveries times sizes c) : c'.Reached n := by
  induction sizes generalizing c with
  | nil => cases mem
  | cons size sizes ih =>
      rcases List.mem_append.mp mem with first | later
      · exact reached_of_mem_deliveries reached first
      · exact ih (reached.run times _) later

/-! ## Deliveries without an outcome -/

/-- A delivery that finds nothing has no outcome. -/
theorem outcome?_eq_none (nothing : (run times w.processNext c).1 = some (.ok none)) :
    w.outcome? times c = none := by
  rw [outcome?, nothing]

section Reached

variable (hi : w.store.index < n) (reached : c.Reached n)
include hi reached

theorem idle_iff :
    (run times w.processNext c).1 = some (.ok none) ↔ (c.system.store w.store).next? = none :=
  processNext_eq_none_iff reached.orderly (reached.index_lt hi) (reached.tidy hi)

theorem processNext_quiet (nothing : (c.system.store w.store).next? = none) :
    Quiet c (run times w.processNext c).2 := by
  obtain ⟨-, system, told⟩ := run_processNext_unclaimed times reached.orderly
    (reached.index_lt hi) (Tx.claimNext_new_none (reached.tidy hi) nothing)
  rw [System.later_self] at system
  exact ⟨by rw [system], by rw [system], told⟩

end Reached

/-- A delivery that found nothing calls no handler. -/
theorem invoked_eq_nil (nothing : (c.system.store w.store).next? = none) :
    w.invoked times c = [] := by
  rw [invoked, nothing]
  rfl

/-- **Calls are those of the delivery.** -/
theorem invokes (hi : w.store.index < n) (reached : c.Reached n) : w.Invokes times c := by
  have hi' := reached.index_lt hi
  have tidy := reached.tidy hi
  have dispatches : ∀ row, (c.system.store w.store).next? = some row →
      w.Dispatches times row.message c ∧ w.invoked times c = w.invokedFor times row.message c := by
    intro row next
    refine ⟨w.dispatches times row.message c, ?_⟩
    rw [invoked, next]
    rfl
  refine ⟨fun next =>
      ⟨invoked_eq_nil next, (processNext_idle times reached.orderly hi' tidy next).1⟩,
    dispatches, fun row next reported reports => run_processNext_claimed times reached.orderly hi'
      (Tx.claimNext_new_some tidy next) reports, ?_⟩
  intro id handlers processed
  have ran : (run times w.processNext c).1 = some (.ok (some (.processed id handlers))) := by
    rw [outcome?] at processed
    split at processed
    · next outcome? result => rw [result, processed]
    · cases processed
  cases next : (c.system.store w.store).next? with
  | none =>
      rw [(processNext_idle times reached.orderly hi' tidy next).1] at ran
      cases ran
  | some row =>
      obtain ⟨reported, reports, settled⟩ :=
        result_of_claimed reached.orderly hi' (Tx.claimNext_new_some tidy next) ran
      obtain ⟨dispatched, same⟩ := dispatches row next
      generalize result : (Except.ok (some (.processed id handlers)) : Result) = result' at settled
      cases settled with
      | processed _ ok =>
          cases result
          rw [same]
          exact dispatched.length_invokedFor (ok ▸ reports)
      | counted e outcome => cases outcome <;> cases result
      | givenUp => cases result

/-! ## One batch -/

theorem deliverUpTo_withBatchSize (w : Worker κ ω) (size left : Nat) (report : BatchReport) :
    (w.withBatchSize size).deliverUpTo false left report = w.deliverUpTo false left report := by
  induction left generalizing report with
  | zero => rfl
  | succ left ih =>
      rw [deliverUpTo, deliverUpTo]
      simp only [ih]
      rfl

theorem batch_withBatchSize (w : Worker κ ω) (size : Nat) :
    (w.withBatchSize size).batch false = w.deliverUpTo false (max size 1) {} :=
  w.deliverUpTo_withBatchSize size (max size 1) {}

/-- A batch breaks off with a delivery. -/
theorem run_deliverUpTo_broken (broken : (run times w.processNext c).1 = none) (left : Nat)
    (report : BatchReport) :
    run times (w.deliverUpTo false (left + 1) report) c =
      (none, (run times w.processNext c).2) :=
  run_bind_none broken _

/-- **The course of a batch that is completed**: it is full, or it found nothing after the messages
that it handled. -/
inductive Batched (times : Nat → Timestamp) (w : Worker κ ω) (size : Nat) (c : Clocked ω) :
    BatchReport → Clocked ω → List (Clocked ω) → Prop where
  | full {outcomes : List MessageOutcome} {c₁ : Clocked ω}
      (handles : w.Handles times c outcomes c₁) (full : outcomes.length = size) :
      Batched times w size c (outcomes.foldl BatchReport.record {}) c₁
        (w.deliveries times outcomes.length c)
  | drained {outcomes : List MessageOutcome} {c₁ : Clocked ω}
      (handles : w.Handles times c outcomes c₁) (room : outcomes.length < size)
      (nothing : (run times w.processNext c₁).1 = some (.ok none)) :
      Batched times w size c { outcomes.foldl BatchReport.record {} with drained := true }
        (run times w.processNext c₁).2 (w.deliveries times outcomes.length c ++ [c₁])

/-- Every batch that is completed takes such a course. -/
theorem batched {size : Nat} {report : BatchReport}
    (completed : run times ((w.withBatchSize size).batch false) c = (some (.ok report), c')) :
    Batched times w (max size 1) c report c' (w.deliveries times (max size 1) c) := by
  rw [batch_withBatchSize] at completed
  obtain ⟨outcomes, c₁, handles, full | ⟨room, stops⟩⟩ := exists_handles times w (max size 1) c
  · rw [← full, ← Nat.add_zero outcomes.length, handles.run_deliverUpTo] at completed
    cases completed
    rw [← full]
    exact .full handles rfl
  · obtain ⟨left, rest⟩ := Nat.exists_eq_add_of_lt room
    rw [Nat.add_assoc] at rest
    rw [rest, handles.run_deliverUpTo] at completed
    rw [rest, handles.deliveries_add]
    match found : run times w.processNext c₁ with
    | (none, c₂) =>
        rw [run_deliverUpTo_broken (congrArg Prod.fst found)] at completed
        cases completed
    | (some (.ok (some outcome)), c₂) => exact absurd (congrArg Prod.fst found) (stops outcome)
    | (some (.error e), c₂) =>
        rw [run_deliverUpTo_succ (congrArg Prod.fst found)] at completed
        cases completed
    | (some (.ok none), c₂) =>
        rw [run_deliverUpTo_succ (congrArg Prod.fst found)] at completed
        cases completed
        rw [deliveries, found]
        have course := Batched.drained handles (rest ▸ room) (congrArg Prod.fst found)
        rw [found] at course
        exact course

namespace Batched

variable {size : Nat} {report : BatchReport} {hosts : List (Clocked ω)}

/-- The report counts the deliveries that have an outcome. -/
theorem counted (course : Batched times w size c report c' hosts) :
    report.handled = (hosts.filterMap (w.outcome? times)).length := by
  cases course with
  | @full outcomes c₁ handles full =>
      rw [handles.filterMap_outcome?]
      exact BatchReport.handled_foldl_nil outcomes
  | @drained outcomes c₁ handles room nothing =>
      rw [List.filterMap_append, handles.filterMap_outcome?,
        List.filterMap_cons_none (outcome?_eq_none nothing), List.filterMap_nil, List.append_nil]
      exact BatchReport.handled_foldl_nil outcomes

/-- There is room for all messages, and if there is room left, then the batch is drained. -/
theorem handled_le (course : Batched times w size c report c' hosts) :
    report.handled ≤ size ∧ (report.drained = false → report.handled = size) := by
  cases course with
  | @full outcomes c₁ handles full =>
      have counts := (BatchReport.handled_foldl_nil outcomes).trans full
      exact ⟨counts.le, fun _ => counts⟩
  | @drained outcomes c₁ handles room nothing =>
      exact ⟨(BatchReport.handled_foldl_nil outcomes).trans_le room.le, (by cases ·)⟩

/-- The batch is drained if its last delivery found nothing. -/
theorem drained_iff (course : Batched times w size c report c' hosts) :
    report.drained = true ↔
      ∃ c₁, hosts.getLast? = some c₁ ∧ (run times w.processNext c₁).1 = some (.ok none) := by
  cases course with
  | @full outcomes c₁ handles full =>
      rw [BatchReport.drained_foldl]
      refine iff_of_false Bool.false_ne_true ?_
      rintro ⟨c₂, last, nothing⟩
      have present := handles.isSome_outcome? (List.mem_of_getLast? last)
      rw [outcome?_eq_none nothing] at present
      cases present
  | @drained outcomes c₁ handles room nothing =>
      exact iff_of_true rfl ⟨c₁, List.getLast?_concat, nothing⟩

end Batched

section First

variable {size : Nat} {result : Except WorkerError BatchReport} {c₁ : Clocked ω}
  (first : run times ((w.withBatchSize size).batch false) c = (some result, c₁))
include first

/-- Batches go on where the first one ended. -/
theorem run_batches_cons (sizes : List Nat) :
    run times (w.batches (size :: sizes)) c =
      ((run times (w.batches sizes) c₁).1.map (result :: ·),
        (run times (w.batches sizes) c₁).2) := by
  rw [batches, run_bind (congrArg Prod.fst first), first]
  cases later : (run times (w.batches sizes) c₁).1 with
  | none => exact run_bind_none later _
  | some results => exact run_bind later _

theorem afterBatches_cons (sizes : List Nat) :
    w.afterBatches times (size :: sizes) c = w.afterBatches times sizes c₁ := by
  rw [afterBatches, run_batches_cons first]
  rfl

end First

section Reached

variable (hi : w.store.index < n) (reached : c.Reached n)
include hi reached

/-- **Reports are true.** -/
theorem truthful {size : Nat} {report : BatchReport}
    (completed : run times ((w.withBatchSize size).batch false) c = (some (.ok report), c')) :
    w.Truthful times size c report := by
  have course := batched completed
  obtain ⟨handled_le, handled_eq⟩ := course.handled_le
  refine ⟨handled_le, handled_eq, course.drained_iff.trans ?_, course.counted⟩
  -- a delivery finds nothing if all that is claimable is locked
  refine exists_congr fun c₁ => and_congr_right fun last => ?_
  have here := reached_of_mem_deliveries reached (List.mem_of_getLast? last)
  rw [idle_iff hi here, Store.next?_eq_none_iff]
  simp only [Store.isLocked, decide_eq_true_iff]

/-! ## Many batches -/

variable (times) in
/-- **Where nothing is claimable, batches leave nothing behind**: they find nothing, and call no
handler. -/
theorem batches_of_nothing (nothing : (c.system.store w.store).next? = none) (sizes : List Nat) :
    (∀ c₁ ∈ w.allDeliveries times sizes c, w.outcome? times c₁ = none ∧ w.invoked times c₁ = []) ∧
      Quiet c (w.afterBatches times sizes c) := by
  induction sizes generalizing c with
  | nil => exact ⟨fun c₁ mem => absurd mem List.not_mem_nil, .refl c⟩
  | cons size sizes ih =>
      have poll : run times w.processNext c = (some (.ok none), _) :=
        Prod.ext ((idle_iff hi reached).mpr nothing) rfl
      have quiet : Quiet c (run times w.processNext c).2 := processNext_quiet hi reached nothing
      obtain ⟨left, room⟩ := Nat.exists_eq_add_of_le' (le_max_right size 1)
      have first : run times ((w.withBatchSize size).batch false) c =
          (some (.ok { drained := true }), (run times w.processNext c).2) := by
        rw [batch_withBatchSize, room, run_deliverUpTo_succ (congrArg Prod.fst poll)]
        rfl
      have one : w.deliveries times (max size 1) c = [c] := by
        rw [room, deliveries, poll]
      obtain ⟨later, quiet'⟩ := ih (reached.run times w.processNext)
        ((quiet.store_eq w.store).symm ▸ nothing)
      rw [allDeliveries, afterBatches_cons first, first, one, List.singleton_append]
      exact ⟨List.forall_mem_cons.mpr ⟨⟨outcome?_eq_none (congrArg Prod.fst poll),
        invoked_eq_nil nothing⟩, later⟩, quiet.trans quiet'⟩

end Reached

/-- **What batches amount to** that begin on `c`: messages are handled until nothing is claimable,
on `c₁`, and afterwards there are only deliveries that find nothing. -/
structure AmountsTo (times : Nat → Timestamp) (w : Worker κ ω) (c : Clocked ω)
    (outcomes : List MessageOutcome) (c₁ : Clocked ω) (sizes : List Nat) : Prop where
  handles : w.Handles times c outcomes c₁
  nothing : (run times w.processNext c₁).1 = some (.ok none)
  deliveries : ∃ idle, w.allDeliveries times sizes c =
    w.deliveries times outcomes.length c ++ idle ∧
      ∀ c₂ ∈ idle, w.outcome? times c₂ = none ∧ w.invoked times c₂ = []
  quiet : Quiet c₁ (w.afterBatches times sizes c)

namespace AmountsTo

variable {outcomes : List MessageOutcome} {c₁ : Clocked ω} {sizes : List Nat}

theorem outcomes_eq (amounts : w.AmountsTo times c outcomes c₁ sizes) :
    (w.allDeliveries times sizes c).filterMap (w.outcome? times) = outcomes := by
  obtain ⟨idle, deliveries, none⟩ := amounts.deliveries
  have nothing := List.filterMap_eq_nil_iff.mpr fun c₂ mem => (none c₂ mem).1
  rw [deliveries, List.filterMap_append, amounts.handles.filterMap_outcome?, nothing,
    List.append_nil]

theorem invoked_eq (amounts : w.AmountsTo times c outcomes c₁ sizes) :
    (w.allDeliveries times sizes c).flatMap (w.invoked times) =
      (w.deliveries times outcomes.length c).flatMap (w.invoked times) := by
  obtain ⟨idle, deliveries, none⟩ := amounts.deliveries
  have nothing := List.flatMap_eq_nil_iff.mpr fun c₂ mem => (none c₂ mem).2
  rw [deliveries, List.flatMap_append, nothing, List.append_nil]

end AmountsTo

/-- The first of the batches is completed; if it does not drain the store, the others do. -/
theorem Completes.cons {size : Nat} {sizes : List Nat}
    (completes : w.Completes times (size :: sizes) c) :
    ∃ report c', run times ((w.withBatchSize size).batch false) c = (some (.ok report), c') ∧
      (report.drained = false → w.Completes times sizes c') := by
  obtain ⟨earlier, last, results, drained⟩ := completes
  rcases first : run times ((w.withBatchSize size).batch false) c with ⟨_ | result, c'⟩
  · rw [batches, run_bind_none (congrArg Prod.fst first)] at results
    cases results
  rw [run_batches_cons first] at results
  obtain ⟨later, rest, all⟩ := Option.map_eq_some_iff.mp results
  cases earlier with
  | nil =>
      obtain ⟨rfl, -⟩ := List.cons.inj all
      exact ⟨last, c', rfl, fun goesOn => by rw [drained] at goesOn; cases goesOn⟩
  | cons report earlier =>
      obtain ⟨rfl, rfl⟩ := List.cons.inj all
      exact ⟨report, c', rfl, fun _ => ⟨earlier, last, rest, drained⟩⟩

/-- A full batch, and what the batches after it amount to: these go on with the next delivery. -/
theorem AmountsTo.of_full {outcomes outcomes' : List MessageOutcome} {c₁ c₂ : Clocked ω}
    {size : Nat} {sizes : List Nat} {result : Except WorkerError BatchReport}
    (first : run times ((w.withBatchSize size).batch false) c = (some result, c₁))
    (handles : w.Handles times c outcomes c₁)
    (all : w.deliveries times (max size 1) c = w.deliveries times outcomes.length c)
    (amounts : w.AmountsTo times c₁ outcomes' c₂ sizes) :
    w.AmountsTo times c (outcomes ++ outcomes') c₂ (size :: sizes) := by
  obtain ⟨idle, deliveries, none⟩ := amounts.deliveries
  refine ⟨handles.append amounts.handles, amounts.nothing, ⟨idle, ?_, none⟩, ?_⟩
  · rw [allDeliveries, first, all, deliveries, List.length_append, handles.deliveries_add,
      List.append_assoc]
  · rw [afterBatches_cons first]
    exact amounts.quiet

/-- A batch that drains the store, and further batches, which find nothing. -/
theorem AmountsTo.of_drained (hi : w.store.index < n) (reached : c.Reached n)
    {outcomes : List MessageOutcome} {c₁ : Clocked ω} {size : Nat}
    {result : Except WorkerError BatchReport}
    (first : run times ((w.withBatchSize size).batch false) c =
      (some result, (run times w.processNext c₁).2))
    (handles : w.Handles times c outcomes c₁)
    (all : w.deliveries times (max size 1) c = w.deliveries times outcomes.length c ++ [c₁])
    (poll : (run times w.processNext c₁).1 = some (.ok none)) (sizes : List Nat) :
    w.AmountsTo times c outcomes c₁ (size :: sizes) := by
  have here := handles.reached reached
  have nothing := (idle_iff hi here).mp poll
  have quiet : Quiet c₁ (run times w.processNext c₁).2 := processNext_quiet hi here nothing
  obtain ⟨none, quiet'⟩ := batches_of_nothing times hi (here.run times w.processNext)
    ((quiet.store_eq w.store).symm ▸ nothing) sizes
  refine ⟨handles, poll, ⟨c₁ :: w.allDeliveries times sizes _, ?_, List.forall_mem_cons.mpr
    ⟨⟨outcome?_eq_none poll, invoked_eq_nil nothing⟩, none⟩⟩, ?_⟩
  · rw [allDeliveries, first, all, List.append_assoc, List.singleton_append]
  · rw [afterBatches_cons first]
    exact quiet.trans quiet'

/-- **Batches that get to the end amount to something.** -/
theorem exists_amountsTo (hi : w.store.index < n) (reached : c.Reached n) {sizes : List Nat}
    (completes : w.Completes times sizes c) :
    ∃ outcomes c₁, w.AmountsTo times c outcomes c₁ sizes := by
  induction sizes generalizing c with
  | nil =>
      obtain ⟨earlier, last, results, -⟩ := completes
      cases earlier <;> cases results
  | cons size sizes ih =>
      obtain ⟨report, c', first, rest⟩ := completes.cons
      have course := batched first
      generalize all : w.deliveries times (max size 1) c = hosts at course
      cases course with
      | @full outcomes c₁ handles full =>
          obtain ⟨outcomes', c₂, amounts⟩ := ih (handles.reached reached)
            (rest (BatchReport.drained_foldl {} outcomes))
          exact ⟨_, c₂, .of_full first handles all amounts⟩
      | @drained outcomes c₁ handles room poll =>
          exact ⟨outcomes, c₁, .of_drained hi reached first handles all poll sizes⟩

/-- **The way in which work is cut into batches does not matter**, in any state that is reached by
calls: batches of any two sequences of sizes do the same work, if all of them are completed and the
last ones drain the store. The report of every batch, at any point of such a sequence, is true. -/
theorem batching_invisible {n : Nat} {w : Worker κ ω} (hi : w.store.index < n) {calls : List Call}
    (times : Nat → Timestamp) {c : Clocked ω} (reached : c.system = (System.ofSize n).run calls) :
    (∀ sizes sizes', w.Completes times sizes c → w.Completes times sizes' c →
      w.SameWork times c sizes sizes') ∧
    ∀ earlier size report, (run times ((w.withBatchSize size).batch false)
      (w.afterBatches times earlier c)).1 = some (.ok report) →
        w.Truthful times size (w.afterBatches times earlier c) report := by
  have start : c.Reached n := ⟨calls, reached⟩
  refine ⟨fun sizes sizes' completes completes' => ?_, fun earlier size report completed =>
    truthful hi (start.run times (w.batches earlier)) (Prod.ext completed rfl)⟩
  obtain ⟨outcomes, c₁, amounts⟩ := exists_amountsTo hi start completes
  obtain ⟨outcomes', c₂, amounts'⟩ := exists_amountsTo hi start completes'
  obtain ⟨rfl, rfl⟩ :=
    amounts.handles.unique amounts.nothing amounts'.handles amounts'.nothing
  exact ⟨amounts.outcomes_eq.trans amounts'.outcomes_eq.symm,
    amounts.invoked_eq.trans amounts'.invoked_eq.symm,
    fun c₁ mem => invokes hi (mem.elim (reached_of_mem_allDeliveries start)
      (reached_of_mem_allDeliveries start)),
    amounts.quiet.stores.trans amounts'.quiet.stores.symm,
    amounts.quiet.transactions.trans amounts'.quiet.transactions.symm,
    amounts.quiet.told.trans amounts'.quiet.told.symm⟩

/-- Five deliveries, in one batch that is just full, or in three. -/
theorem batching_invisible_errands :
    Errand.runner.SameWork (fun _ => default) Errand.start [5, 3] [0, 2, 4] ∧
      Errand.runner.Truthful (fun _ => default) 2
        (Errand.runner.afterBatches (fun _ => default) [0] Errand.start)
        { processed := 1, deadLettered := 1 } := by
  obtain ⟨same, reports⟩ := batching_invisible (w := Errand.runner) Nat.one_pos
    (fun _ => default) (c := Errand.start) rfl
  refine ⟨same _ _ ⟨[{ processed := 1, retried := 1, deadLettered := 3 }], { drained := true },
    by decide +kernel, rfl⟩ ⟨[{ retried := 1 }, { processed := 1, deadLettered := 1 }],
    { deadLettered := 2, drained := true }, by decide +kernel, rfl⟩, ?_⟩
  exact reports [0] 2 _ (by decide +kernel)

end Worker

end MaintenanceOutbox
