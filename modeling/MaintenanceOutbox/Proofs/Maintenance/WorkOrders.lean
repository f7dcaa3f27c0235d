import MaintenanceOutbox.Maintenance.WorkOrder
import MaintenanceOutbox.Proofs.InPlace
import MaintenanceOutbox.Proofs.Maintenance.Aggregates

set_option autoImplicit false

/-! # The life of a work order

A work order is opened, assigned to technicians, perhaps many times, and completed once. Somebody
else takes its events in between. `WorkOrder.Accepts` says what the order accepts and
`WorkOrder.Refuses` what it refuses and why; the two leave nothing out. What has been accepted is
all there is to know about an order (`WorkOrder.LifeCycle`): it determines its version, its
technician, whether it is completed, and which events it tells, whether they have been taken already
or are still in the buffer.

A change is made step by step, and a refusal does not undo steps. But all checks stand before the
first step (`WorkOrder.Change.result_inPlace`), so that a refused change leaves the order alone.
-/

namespace MaintenanceOutbox

open Aggregate (accepted taken)

namespace WorkOrder

/-- A change of an order. -/
inductive Change where
  | assign (technician : String)
  | complete (time : Timestamp)
deriving DecidableEq

/-- The order after a change. -/
def change (w : WorkOrder) : Change → Except DomainError WorkOrder
  | .assign technician => w.assign technician
  | .complete time => w.complete time

/-- Work orders as aggregates. -/
def aggregate : Aggregate WorkOrder Change WorkOrderEvent where
  change := change
  take := takeEvents

/-- What came of the requests to an order. -/
abbrev Log := List (Aggregate.Entry Change WorkOrderEvent)

/-! ## What is accepted and what is refused -/

/-- The events that a change tells, if it is accepted. -/
def tells (w : WorkOrder) : Change → List WorkOrderEvent
  | .assign _ => []
  | .complete time =>
    w.technician.toList.map fun technician => .completed ⟨w.id, w.assetId, technician, time⟩

/-- **What an order accepts**, and what becomes of it. -/
inductive Accepts (w : WorkOrder) : Change → WorkOrder → Prop where
  | assign (technician : String) (isOpen : w.status = .open_)
      (named : Text.isBlank technician = false) :
      Accepts w (.assign technician)
        { w with technician := some technician, version := w.version + 1 }
  | complete (time : Timestamp) (technician : String) (isOpen : w.status = .open_)
      (assigned : w.technician = some technician) :
      Accepts w (.complete time)
        { w with
          status := .completed
          version := w.version + 1
          events := w.events ++ [.completed ⟨w.id, w.assetId, technician, time⟩] }

/-- **What an order refuses**, and why. -/
inductive Refuses (w : WorkOrder) : Change → DomainError → Prop where
  | closed (c : Change) (completed : w.status = .completed) :
      Refuses w c (.conflict "work order is not open")
  | unnamed (technician : String) (isOpen : w.status = .open_)
      (blank : Text.isBlank technician = true) :
      Refuses w (.assign technician) (.validation "technician cannot be empty")
  | unassigned (time : Timestamp) (isOpen : w.status = .open_) (nobody : w.technician = none) :
      Refuses w (.complete time) (.invariantViolation "work order has no technician")

variable {w w' : WorkOrder} {c : Change} {e : DomainError}

theorem status_eq_completed_iff : w.status = .completed ↔ w.status ≠ .open_ := by
  cases w.status <;> simp

theorem change_of_completed (completed : w.status = .completed) (c : Change) :
    w.change c = .error (.conflict "work order is not open") := by
  have notOpen := status_eq_completed_iff.mp completed
  cases c with
  | assign technician => exact if_pos notOpen
  | complete time => exact if_pos notOpen

theorem Accepts.change (h : w.Accepts c w') : w.change c = .ok w' := by
  cases h with
  | assign technician isOpen named =>
      show w.assign technician = _
      rw [WorkOrder.assign, if_neg (not_not.mpr isOpen), named]
      rfl
  | complete time technician isOpen assigned =>
      show w.complete time = _
      rw [WorkOrder.complete, if_neg (not_not.mpr isOpen), assigned]

theorem Refuses.change (h : w.Refuses c e) : w.change c = .error e := by
  cases h with
  | closed c completed => exact change_of_completed completed c
  | unnamed technician isOpen blank =>
      show w.assign technician = _
      rw [WorkOrder.assign, if_neg (not_not.mpr isOpen), blank]
      rfl
  | unassigned time isOpen nobody =>
      show w.complete time = _
      rw [WorkOrder.complete, if_neg (not_not.mpr isOpen), nobody]

/-- **Every change is accepted or refused**, for one of the reasons that there are. -/
theorem accepts_or_refuses (w : WorkOrder) (c : Change) :
    (∃ w', w.Accepts c w') ∨ ∃ e, w.Refuses c e := by
  cases status : w.status with
  | completed => exact Or.inr ⟨_, .closed c status⟩
  | open_ =>
      cases c with
      | assign technician =>
          cases blank : Text.isBlank technician with
          | true => exact Or.inr ⟨_, .unnamed technician status blank⟩
          | false => exact Or.inl ⟨_, .assign technician status blank⟩
      | complete time =>
          cases assigned : w.technician with
          | none => exact Or.inr ⟨_, .unassigned time status assigned⟩
          | some technician => exact Or.inl ⟨_, .complete time technician status assigned⟩

theorem change_eq_ok_iff : w.change c = .ok w' ↔ w.Accepts c w' := by
  constructor
  · intro done
    rcases accepts_or_refuses w c with ⟨x, accepts⟩ | ⟨e, refuses⟩
    · have same := accepts.change
      rw [done] at same
      exact Except.ok.inj same ▸ accepts
    · rw [refuses.change] at done
      cases done
  · exact Accepts.change

theorem change_eq_error_iff : w.change c = .error e ↔ w.Refuses c e := by
  constructor
  · intro failed
    rcases accepts_or_refuses w c with ⟨x, accepts⟩ | ⟨e', refuses⟩
    · rw [accepts.change] at failed
      cases failed
    · have same := refuses.change
      rw [failed] at same
      exact Except.error.inj same ▸ refuses
  · exact Refuses.change

/-- What an accepted change tells goes into the buffer, behind the other events. -/
theorem Accepts.events_eq (h : w.Accepts c w') : w'.events = w.events ++ w.tells c := by
  cases h with
  | assign technician isOpen named => exact (List.append_nil _).symm
  | complete time technician isOpen assigned =>
      rw [tells, assigned]
      rfl

/-- To take events where there are none changes nothing. -/
theorem takeEvents_of_nil (nothing : w.events = []) : w.takeEvents = ([], w) := by
  obtain ⟨id, assetId, title, technician, status, version, events⟩ := w
  cases nothing
  rfl

/-! ## Changes in place -/

/-- Assign the order in place: the technician first, and then the version. -/
def assignInPlace (technician : String) : InPlace DomainError WorkOrder Unit := do
  let w ← get
  if w.status ≠ .open_ then
    throw notOpen
  if Text.isBlank technician then
    throw (.validation "technician cannot be empty")
  modify fun w => { w with technician := some technician }
  modify fun w => { w with version := w.version + 1 }

/-- Complete the order in place: the status, the version, and the event. -/
def completeInPlace (time : Timestamp) : InPlace DomainError WorkOrder Unit := do
  let w ← get
  if w.status ≠ .open_ then
    throw notOpen
  match w.technician with
  | none => throw (.invariantViolation "work order has no technician")
  | some technician =>
    modify fun w => { w with status := .completed }
    modify fun w => { w with version := w.version + 1 }
    modify fun w =>
      { w with events := w.events ++ [.completed ⟨w.id, w.assetId, technician, time⟩] }

/-- A change in place. -/
def Change.inPlace : Change → InPlace DomainError WorkOrder Unit
  | .assign technician => assignInPlace technician
  | .complete time => completeInPlace time

/-- **A change in place is the change**, and if it is refused, nothing was done. -/
theorem Change.result_inPlace (w : WorkOrder) (c : Change) :
    c.inPlace.result w =
      match w.change c with
      | .ok w' => (.ok (), w')
      | .error e => (.error e, w) := by
  rcases accepts_or_refuses w c with ⟨w', accepts⟩ | ⟨e, refuses⟩
  · rw [accepts.change]
    cases accepts with
    | assign technician isOpen named =>
        simp only [Change.inPlace, assignInPlace, InPlace.result_get]
        rw [if_neg (not_not.mpr isOpen), named]
        rfl
    | complete time technician isOpen assigned =>
        obtain ⟨id, assetId, title, _, _, version, events⟩ := w
        cases isOpen
        cases assigned
        rfl
  · rw [refuses.change]
    cases refuses with
    | closed c completed =>
        cases c <;>
          simp only [Change.inPlace, assignInPlace, completeInPlace, InPlace.result_get,
            completed] <;> rfl
    | unnamed technician isOpen blank =>
        simp only [Change.inPlace, assignInPlace, InPlace.result_get, isOpen, blank]
        rfl
    | unassigned time isOpen nobody =>
        simp only [Change.inPlace, completeInPlace, InPlace.result_get, isOpen, nobody]
        rfl

/-! ## The life of an order -/

/-- The technicians among the changes, in the order in which they were assigned. -/
def assignees (changes : List Change) : List String :=
  changes.filterMap fun
    | .assign technician => some technician
    | .complete _ => none

@[simp] theorem assignees_append (changes more : List Change) :
    assignees (changes ++ more) = assignees changes ++ assignees more :=
  List.filterMap_append

@[simp] theorem assignees_cons_assign (technician : String) (changes : List Change) :
    assignees (.assign technician :: changes) = technician :: assignees changes := rfl

@[simp] theorem assignees_cons_complete (time : Timestamp) (changes : List Change) :
    assignees (.complete time :: changes) = assignees changes := rfl

@[simp] theorem assignees_nil : assignees [] = [] := rfl

theorem mem_assignees {changes : List Change} {technician : String} :
    technician ∈ assignees changes ↔ .assign technician ∈ changes := by
  rw [assignees, List.mem_filterMap]
  constructor
  · rintro ⟨c, hc, same⟩
    cases c with
    | assign other => exact Option.some.inj same ▸ hc
    | complete time => cases same
  · intro assigned
    exact ⟨_, assigned, rfl⟩

/-- **How far an order has come**, by its log: it is open and tells its opening; or one completion
was accepted and nothing after it, and the order tells its opening and its completion, by the
technician who was assigned last before. What it tells is what was taken and what is buffered. -/
inductive Stage (start : WorkOrderOpened) (log : Log) (w : WorkOrder) : Prop where
  | open_ (status : w.status = .open_) (never : ∀ time, .complete time ∉ accepted log)
      (told : taken log ++ w.events = [.opened start]) : Stage start log w
  | completed (before after : Log) (technician : String) (time : Timestamp)
      (status : w.status = .completed)
      (log_eq : log = before ++ .accepted (.complete time) :: after)
      (first : ∀ time, .complete time ∉ accepted before) (nothing : accepted after = [])
      (holder : (assignees (accepted before)).getLast? = some technician)
      (told : taken log ++ w.events =
        [.opened start, .completed ⟨start.workOrderId, start.assetId, technician, time⟩]) :
      Stage start log w

/-- **The log tells all about the order**: it has the names with which it was opened, its version
counts the changes that were accepted, its technician is the one who was assigned last, and no
technician has a blank name. -/
structure Recorded (start : WorkOrderOpened) (log : Log) (w : WorkOrder) : Prop where
  id : w.id = start.workOrderId
  assetId : w.assetId = start.assetId
  title : w.title = start.title
  version : w.version = 1 + (accepted log).length
  technician : w.technician = (assignees (accepted log)).getLast?
  named : ∀ technician ∈ assignees (accepted log), Text.isBlank technician = false
  stage : Stage start log w

namespace Recorded

variable {start : WorkOrderOpened} {log : Log}

/-- An open order tells its opening, and nothing completed it. -/
theorem of_open (h : Recorded start log w) (isOpen : w.status = .open_) :
    (∀ time, .complete time ∉ accepted log) ∧ taken log ++ w.events = [.opened start] := by
  cases h.stage with
  | open_ _ never told => exact ⟨never, told⟩
  | completed before after technician time status =>
      rw [isOpen] at status
      cases status

/-- **An accepted change is recorded.** -/
theorem accept (h : Recorded start log w) (accepts : w.Accepts c w') :
    Recorded start (log ++ [.accepted c]) w' := by
  have changes := Aggregate.accepted_concat_accepted c log
  have version : w.version + 1 = 1 + (accepted (log ++ [.accepted c])).length := by
    rw [changes, List.length_append, ← Nat.add_assoc, ← h.version]
    rfl
  cases accepts with
  | assign technician isOpen named =>
      obtain ⟨never, told⟩ := h.of_open isOpen
      refine ⟨h.id, h.assetId, h.title, version, by simp, ?_,
        .open_ isOpen ?_ (by simpa using told)⟩
      · intro other among
        rw [changes, assignees_append] at among
        rcases List.mem_append.mp among with earlier | this
        · exact h.named other earlier
        · exact List.mem_singleton.mp this ▸ named
      · intro time completed
        rw [changes] at completed
        rcases List.mem_append.mp completed with earlier | this
        · exact never time earlier
        · cases List.mem_singleton.mp this
  | complete time technician isOpen assigned =>
      obtain ⟨never, told⟩ := h.of_open isOpen
      have holder := h.technician.symm.trans assigned
      refine ⟨h.id, h.assetId, h.title, version, by simpa using h.technician,
        by simpa using h.named, .completed log [] technician time rfl rfl never rfl holder ?_⟩
      calc taken (log ++ [.accepted (.complete time)]) ++
            (w.events ++ [.completed ⟨w.id, w.assetId, technician, time⟩])
          = (taken log ++ w.events) ++ [.completed ⟨w.id, w.assetId, technician, time⟩] := by
            simp
        _ = [.opened start, .completed ⟨start.workOrderId, start.assetId, technician, time⟩] := by
            rw [told, h.id, h.assetId]
            rfl

/-- **What accepts nothing leaves the record as it is**: only the events may be somewhere else. -/
theorem pass (h : Recorded start log w) {entry : Aggregate.Entry Change WorkOrderEvent}
    (nothing : accepted [entry] = []) {events : List WorkOrderEvent}
    (told : taken [entry] ++ events = w.events) :
    Recorded start (log ++ [entry]) { w with events := events } := by
  have same := Aggregate.accepted_concat nothing log
  have telling := Aggregate.taken_concat told log
  refine ⟨h.id, h.assetId, h.title, same ▸ h.version, same ▸ h.technician, same ▸ h.named, ?_⟩
  cases h.stage with
  | open_ status never told => exact .open_ status (same ▸ never) (telling.trans told)
  | completed before after technician time status log_eq first last holder told =>
      refine .completed before (after ++ [entry]) technician time status ?_ first ?_ holder
        (telling.trans told)
      · rw [log_eq, List.append_assoc, List.cons_append]
      · rw [Aggregate.accepted_append, last, nothing]
        rfl

end Recorded

/-- Whatever happens to an order is recorded. -/
theorem recorded_keeps (start : WorkOrderOpened) : aggregate.Keeps (Recorded start) where
  accepts h done := h.accept (change_eq_ok_iff.mp done)
  refuses h _ := h.pass rfl rfl
  takes h := h.pass rfl ((List.append_nil _).trans (List.append_nil _))

/-- **The life of an order**, as the log has it: the record, and what becomes of the next change. An
assignment is accepted if the order is open and the name is not blank; a completion, if the order is
open and it was assigned; a completed order refuses everything; and whatever is refused leaves the
order as it is, although it is changed in place. -/
structure LifeCycle (start : WorkOrderOpened) (log : Log) (w : WorkOrder) : Prop
    extends Recorded start log w where
  assigns : ∀ technician,
    (∃ w', w.assign technician = .ok w') ↔ w.status = .open_ ∧ Text.isBlank technician = false
  completes : ∀ time,
    (∃ w', w.complete time = .ok w') ↔
      w.status = .open_ ∧ ∃ technician, .assign technician ∈ accepted log
  closed : w.status = .completed → ∀ c, w.change c = .error (.conflict "work order is not open")
  refused : ∀ c e, w.change c = .error e → c.inPlace.result w = (.error e, w)
  carriedOut : ∀ c w', w.change c = .ok w' → c.inPlace.result w = (.ok (), w')

theorem Recorded.lifeCycle {start : WorkOrderOpened} {log : Log} (h : Recorded start log w) :
    LifeCycle start log w := by
  refine ⟨h, ?_, ?_, change_of_completed, ?_, ?_⟩
  · intro technician
    constructor
    · rintro ⟨w', done⟩
      cases change_eq_ok_iff (c := .assign technician) |>.mp done with
      | assign _ isOpen named => exact ⟨isOpen, named⟩
    · rintro ⟨isOpen, named⟩
      exact ⟨_, (Accepts.assign technician isOpen named).change⟩
  · intro time
    constructor
    · rintro ⟨w', done⟩
      cases change_eq_ok_iff (c := .complete time) |>.mp done with
      | complete _ technician isOpen assigned =>
          have last := List.mem_of_getLast? (h.technician.symm.trans assigned)
          exact ⟨isOpen, technician, mem_assignees.mp last⟩
    · rintro ⟨isOpen, technician, assigned⟩
      cases holder : w.technician with
      | none =>
          have nobody := List.getLast?_eq_none_iff.mp (h.technician.symm.trans holder)
          exact absurd (mem_assignees.mpr assigned) (nobody ▸ List.not_mem_nil)
      | some last => exact ⟨_, (Accepts.complete time last isOpen holder).change⟩
  · intro c e failed
    rw [Change.result_inPlace, failed]
  · intro c w' done
    rw [Change.result_inPlace, done]

/-- **The life cycle of a work order.** Whatever is asked of an order that was opened, in any order,
its log tells all about it. -/
theorem lifeCycle_run {id assetId : AggregateId} {title : String} {time : Timestamp}
    (opened : openFor id assetId title time = .ok w)
    (requests : List (Aggregate.Request Change)) :
    LifeCycle ⟨id, assetId, title, time⟩ (aggregate.run w requests).1
      (aggregate.run w requests).2 := by
  refine Recorded.lifeCycle ((recorded_keeps _).run ?_ requests)
  rw [openFor] at opened
  split at opened
  · cases opened
  · cases opened
    have nobody : ∀ technician ∈ assignees [], Text.isBlank technician = false :=
      fun _ among => absurd among List.not_mem_nil
    exact ⟨rfl, rfl, rfl, rfl, rfl, nobody, .open_ rfl (fun _ => List.not_mem_nil) rfl⟩

/-- What is asked of an order: to complete it before anybody has it, to assign it, to complete it,
and to assign it once more. Its events are taken twice. -/
def errand : List (Aggregate.Request Change) :=
  [.take, .change (.complete default), .change (.assign "dana"), .change (.complete default),
    .take, .change (.assign "kim")]

/-- Two of the four changes are refused. -/
theorem lifeCycle_run_errand :
    ∃ w, openFor ⟨.ofNat 1⟩ ⟨.ofNat 2⟩ "Replace pump seal" default = .ok w ∧
      LifeCycle ⟨⟨.ofNat 1⟩, ⟨.ofNat 2⟩, "Replace pump seal", default⟩ (aggregate.run w errand).1
        (aggregate.run w errand).2 ∧
      (aggregate.run w errand).1 =
        [.taken [.opened ⟨⟨.ofNat 1⟩, ⟨.ofNat 2⟩, "Replace pump seal", default⟩],
          .refused (.complete default) (.invariantViolation "work order has no technician"),
          .accepted (.assign "dana"), .accepted (.complete default),
          .taken [.completed ⟨⟨.ofNat 1⟩, ⟨.ofNat 2⟩, "dana", default⟩],
          .refused (.assign "kim") (.conflict "work order is not open")] := by
  have opened : openFor ⟨.ofNat 1⟩ ⟨.ofNat 2⟩ "Replace pump seal" default =
      .ok ⟨⟨.ofNat 1⟩, ⟨.ofNat 2⟩, "Replace pump seal", none, .open_, 1,
        [.opened ⟨⟨.ofNat 1⟩, ⟨.ofNat 2⟩, "Replace pump seal", default⟩]⟩ := by
    decide
  exact ⟨_, opened, lifeCycle_run opened errand, by decide⟩

end WorkOrder

end MaintenanceOutbox
