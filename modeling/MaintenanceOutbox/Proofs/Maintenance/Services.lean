import MaintenanceOutbox.Maintenance.Asset
import MaintenanceOutbox.Proofs.InPlace
import MaintenanceOutbox.Proofs.Maintenance.Aggregates
import Mathlib.Data.List.Basic

set_option autoImplicit false

/-! # The service history of an asset

Visits to an asset are reported in some order, and some of them are refused: those before the last
one that was accepted. Somebody else takes the events of the asset in between. The visits that were
accepted are the history of the asset (`Asset.ServiceHistory`). They are numbered one by one, go up
in time, and each of them is told by one event, which has been taken already or is still in the
buffer; the asset counts them and knows the time of the last one.

The number of a visit has 32 bits, so that all this is about less than `2 ^ 32` visits. What holds
of any number of visits is `Asset.Recorded`.
-/

namespace MaintenanceOutbox

open Aggregate (accepted taken)

theorem Timestamp.le_trans {t u v : Timestamp} (first : t ≤ u) (second : u ≤ v) : t ≤ v :=
  Int.le_trans first second

theorem Timestamp.not_lt {t u : Timestamp} : ¬ t < u ↔ u ≤ t :=
  Int.not_lt

/-- The number of the visit that an event tells. -/
def AssetEvent.number : AssetEvent → Nat
  | .serviced visit => visit.serviceCount.toNat

namespace Asset

/-- A visit, as it is reported. -/
structure Visit where
  note : String
  time : Timestamp
deriving DecidableEq

/-- The asset after a visit. -/
def record (a : Asset) (v : Visit) : Except DomainError Asset :=
  a.recordService v.note v.time

/-- Assets as aggregates. -/
def aggregate : Aggregate Asset Visit AssetEvent where
  change := record
  take := takeEvents

/-- What came of the requests to an asset. -/
abbrev Log := List (Aggregate.Entry Visit AssetEvent)

/-- The refusal of a visit before the last one. -/
def outOfOrder : DomainError :=
  .invariantViolation "service date precedes the previous service"

/-- The events that a visit tells, if it is accepted. -/
def tells (a : Asset) (v : Visit) : List AssetEvent :=
  [.serviced ⟨a.id, a.serviceCount + 1, v.note, v.time⟩]

/-- The events of all visits to an asset, numbered from one. -/
def told (id : AggregateId) (visits : List Visit) : List AssetEvent :=
  visits.mapIdx fun k v => .serviced ⟨id, UInt32.ofNat (k + 1), v.note, v.time⟩

variable {a a' : Asset} {v : Visit} {e : DomainError}

theorem record_eq_ok_iff :
    a.record v = .ok a' ↔
      a.precedesLast v.time = false ∧
        a' =
          { a with
            serviceCount := a.serviceCount + 1
            lastServicedAt := some v.time
            version := a.version + 1
            events := a.events ++ a.tells v } := by
  rw [record, recordService]
  cases a.precedesLast v.time with
  | true => simp
  | false => simp [tells, eq_comm]

theorem record_eq_error_iff :
    a.record v = .error e ↔ a.precedesLast v.time = true ∧ e = outOfOrder := by
  rw [record, recordService]
  cases a.precedesLast v.time with
  | true => simp [outOfOrder, eq_comm]
  | false => simp

/-- To take events where there are none changes nothing. -/
theorem takeEvents_of_nil (nothing : a.events = []) : a.takeEvents = ([], a) := by
  obtain ⟨id, name, count, last, version, events⟩ := a
  cases nothing
  rfl

/-! ## Visits in place -/

/-- Record a visit in place: the count, the time, the version, and the event. -/
def recordInPlace (v : Visit) : InPlace DomainError Asset Unit := do
  let a ← get
  match a.lastServicedAt with
  | some last =>
    if v.time < last then
      throw outOfOrder
  | none => pure ()
  modify fun a => { a with serviceCount := a.serviceCount + 1 }
  modify fun a => { a with lastServicedAt := some v.time }
  modify fun a => { a with version := a.version + 1 }
  modify fun a =>
    { a with events := a.events ++ [.serviced ⟨a.id, a.serviceCount, v.note, v.time⟩] }

/-- **A visit that is recorded in place is the visit**, and if it is refused, nothing was done. -/
theorem result_recordInPlace (a : Asset) (v : Visit) :
    (recordInPlace v).result a =
      match a.record v with
      | .ok a' => (.ok (), a')
      | .error e => (.error e, a) := by
  cases last : a.lastServicedAt with
  | none =>
      have inTime : a.precedesLast v.time = false := by rw [precedesLast, last]
      rw [record_eq_ok_iff.mpr ⟨inTime, rfl⟩, recordInPlace, InPlace.result_get, last]
      rfl
  | some time =>
      by_cases early : v.time < time
      · have failed : a.record v = .error outOfOrder :=
          record_eq_error_iff.mpr ⟨by simp [precedesLast, last, early], rfl⟩
        rw [failed, recordInPlace, InPlace.result_get, last]
        dsimp only
        rw [if_pos early]
        rfl
      · have inTime : a.precedesLast v.time = false := by simp [precedesLast, last, early]
        rw [record_eq_ok_iff.mpr ⟨inTime, rfl⟩, recordInPlace, InPlace.result_get, last]
        dsimp only
        rw [if_neg early]
        rfl

/-! ## The history of an asset -/

/-- **The log tells all about the asset**: it has its name, counts the visits that were accepted,
knows the time of the last one, and tells them all, by what was taken and what is buffered. The
visits go up in time. -/
structure Recorded (id : AggregateId) (name : String) (log : Log) (a : Asset) : Prop where
  sameId : a.id = id
  sameName : a.name = name
  count : a.serviceCount = UInt32.ofNat (accepted log).length
  version : a.version = 1 + (accepted log).length
  last : a.lastServicedAt = (accepted log).getLast?.map Visit.time
  ordered : (accepted log).Pairwise (·.time ≤ ·.time)
  telling : taken log ++ a.events = told id (accepted log)

namespace Recorded

variable {id : AggregateId} {name : String} {log : Log}

/-- **A visit is too early if the last visit that was accepted is later.** -/
theorem precedesLast_iff (h : Recorded id name log a) (time : Timestamp) :
    a.precedesLast time = true ↔
      ∃ last, (accepted log).getLast? = some last ∧ time < last.time := by
  rw [precedesLast, h.last]
  cases (accepted log).getLast? with
  | none => simp
  | some last => simp

/-- A visit that is not too early is not before any other. -/
theorem le_of_not_precedesLast (h : Recorded id name log a) {time : Timestamp}
    (inTime : a.precedesLast time = false) : ∀ x ∈ accepted log, x.time ≤ time := by
  have notEarlier : ∀ last, (accepted log).getLast? = some last → last.time ≤ time := by
    intro last final
    rw [← Timestamp.not_lt]
    intro early
    rw [(h.precedesLast_iff time).mpr ⟨last, final, early⟩] at inTime
    cases inTime
  intro x hx
  rcases List.eq_nil_or_concat' (accepted log) with none | ⟨before, last, split⟩
  · rw [none] at hx
    cases hx
  · have final := notEarlier last (by rw [split]; exact List.getLast?_concat)
    have ordered := h.ordered
    rw [split] at hx ordered
    rcases List.mem_append.mp hx with earlier | this
    · exact Timestamp.le_trans
        ((List.pairwise_append.mp ordered).2.2 x earlier last List.mem_cons_self) final
    · exact List.mem_singleton.mp this ▸ final

/-- **An accepted visit is recorded**, with the next number. -/
theorem accept (h : Recorded id name log a) (done : a.record v = .ok a') :
    Recorded id name (log ++ [.accepted v]) a' := by
  obtain ⟨inTime, rfl⟩ := record_eq_ok_iff.mp done
  have visits := Aggregate.accepted_concat_accepted v log
  have next : a.serviceCount + 1 = UInt32.ofNat ((accepted log).length + 1) := by
    rw [h.count, UInt32.ofNat_add]
    rfl
  refine ⟨h.sameId, h.sameName, ?_, ?_, ?_, ?_, ?_⟩
  · rw [visits, List.length_append]
    exact next
  · rw [visits, List.length_append, ← Nat.add_assoc, ← h.version]
    rfl
  · rw [visits, List.getLast?_concat]
    rfl
  · rw [visits, List.pairwise_append]
    refine ⟨h.ordered, List.pairwise_singleton _ v, ?_⟩
    intro x hx y hy
    rw [List.mem_singleton.mp hy]
    exact h.le_of_not_precedesLast inTime x hx
  · calc taken (log ++ [.accepted v]) ++ (a.events ++ a.tells v)
        = (taken log ++ a.events) ++ a.tells v := by simp
      _ = told id (accepted log) ++
            [.serviced ⟨id, UInt32.ofNat ((accepted log).length + 1), v.note, v.time⟩] := by
          rw [h.telling, tells, h.sameId, next]
      _ = told id (accepted (log ++ [.accepted v])) := by
          rw [visits, told, told, List.mapIdx_concat]

/-- **What accepts nothing leaves the record as it is**: only the events may be somewhere else. -/
theorem pass (h : Recorded id name log a) {entry : Aggregate.Entry Visit AssetEvent}
    (nothing : accepted [entry] = []) {events : List AssetEvent}
    (same : taken [entry] ++ events = a.events) :
    Recorded id name (log ++ [entry]) { a with events := events } := by
  have visits := Aggregate.accepted_concat nothing log
  refine ⟨h.sameId, h.sameName, visits ▸ h.count, visits ▸ h.version, visits ▸ h.last,
    visits ▸ h.ordered, ?_⟩
  rw [Aggregate.taken_concat same, visits]
  exact h.telling

end Recorded

/-- Whatever happens to an asset is recorded. -/
theorem recorded_keeps (id : AggregateId) (name : String) :
    aggregate.Keeps (Recorded id name) where
  accepts h done := h.accept done
  refuses h _ := h.pass rfl rfl
  takes h := h.pass rfl ((List.append_nil _).trans (List.append_nil _))

/-! ## Numbers and times -/

/-- **As long as numbers do not wrap around, visits are numbered from one.** -/
theorem map_number_told (id : AggregateId) {visits : List Visit}
    (few : visits.length < UInt32.size) :
    (told id visits).map AssetEvent.number = List.range' 1 visits.length := by
  refine List.ext_getElem (by simp [told]) ?_
  intro k hk hk'
  have small : k + 1 < UInt32.size := by
    rw [List.length_range'] at hk'
    omega
  have number : (UInt32.ofNat (k + 1)).toNat = k + 1 := by
    rw [UInt32.toNat_ofNat']
    exact Nat.mod_eq_of_lt small
  simp only [told, AssetEvent.number, List.getElem_map, List.getElem_mapIdx, List.getElem_range',
    number]
  omega

theorem map_occurredAt_told (id : AggregateId) (visits : List Visit) :
    (told id visits).map AssetEvent.occurredAt = visits.map Visit.time := by
  exact List.ext_getElem (by simp [told]) fun k hk hk' => by simp [told, AssetEvent.occurredAt]

/-- **The service history of an asset**, as the log has it: the visits that were accepted are what
it counts, and its version counts them too, from one. What was taken and what is buffered tells each
of them once, with the numbers from one on and in the order of time, and the time of the last one is
known. A visit is refused if and only if it is before the last one; then nothing happens to the
asset, although it is changed in place. -/
structure ServiceHistory (id : AggregateId) (name : String) (log : Log) (a : Asset) : Prop where
  sameId : a.id = id
  sameName : a.name = name
  count : a.serviceCount.toNat = (accepted log).length
  version : a.version = 1 + a.serviceCount.toNat
  telling : taken log ++ a.events = told id (accepted log)
  numbers : (taken log ++ a.events).map AssetEvent.number = List.range' 1 (accepted log).length
  ordered : ((taken log ++ a.events).map AssetEvent.occurredAt).Pairwise (· ≤ ·)
  last : a.lastServicedAt = ((taken log ++ a.events).map AssetEvent.occurredAt).getLast?
  refuses : ∀ v e, a.record v = .error e ↔
    (∃ last, (accepted log).getLast? = some last ∧ v.time < last.time) ∧
      e = .invariantViolation "service date precedes the previous service"
  refused : ∀ v e, a.record v = .error e → (recordInPlace v).result a = (.error e, a)
  carriedOut : ∀ v a', a.record v = .ok a' → (recordInPlace v).result a = (.ok (), a')

theorem Recorded.serviceHistory {id : AggregateId} {name : String} {log : Log}
    (h : Recorded id name log a) (few : (accepted log).length < UInt32.size) :
    ServiceHistory id name log a := by
  have count : a.serviceCount.toNat = (accepted log).length := by
    rw [h.count, UInt32.toNat_ofNat']
    exact Nat.mod_eq_of_lt few
  have times : (taken log ++ a.events).map AssetEvent.occurredAt =
      (accepted log).map Visit.time := by
    rw [h.telling, map_occurredAt_told]
  refine ⟨h.sameId, h.sameName, count, count ▸ h.version, h.telling, ?_, ?_, ?_, ?_, ?_, ?_⟩
  · rw [h.telling, map_number_told id few]
  · rw [times]
    exact List.pairwise_map.mpr h.ordered
  · rw [times, List.getLast?_map]
    exact h.last
  · intro v e
    rw [record_eq_error_iff, h.precedesLast_iff]
    rfl
  · intro v e failed
    rw [result_recordInPlace, failed]
  · intro v a' done
    rw [result_recordInPlace, done]

/-- **The service history of a registered asset.** Whatever is asked of it, in any order, its log
tells all about it, as long as less than `2 ^ 32` visits are accepted. -/
theorem serviceHistory_run {id : AggregateId} {name : String}
    (registered : register id name = .ok a) (requests : List (Aggregate.Request Visit))
    (few : (accepted (aggregate.run a requests).1).length < UInt32.size) :
    ServiceHistory id name (aggregate.run a requests).1 (aggregate.run a requests).2 := by
  refine Recorded.serviceHistory ((recorded_keeps id name).run ?_ requests) few
  rw [register] at registered
  split at registered
  · cases registered
  · cases registered
    exact ⟨rfl, rfl, rfl, rfl, rfl, List.Pairwise.nil, rfl⟩

/-- Four visits, the second one before the first. The events are taken in between. -/
def season : List (Aggregate.Request Visit) :=
  let later : Timestamp := { Timestamp.year2024 with hour := 1, ok := by decide }
  [.change ⟨"oil change", later⟩, .take, .change ⟨"late entry", default⟩, .change ⟨"belt", later⟩,
    .take, .change ⟨"seal", later⟩]

/-- Three of the visits are accepted, and the numbers go on over the gap. -/
theorem serviceHistory_run_season :
    ∃ a, register ⟨.ofNat 1⟩ "Pump 7" = .ok a ∧
      ServiceHistory ⟨.ofNat 1⟩ "Pump 7" (aggregate.run a season).1 (aggregate.run a season).2 ∧
        (accepted (aggregate.run a season).1).map Visit.note = ["oil change", "belt", "seal"] := by
  have registered : register ⟨.ofNat 1⟩ "Pump 7" =
      .ok ⟨⟨.ofNat 1⟩, "Pump 7", 0, none, 1, []⟩ := by
    decide
  exact ⟨_, registered, serviceHistory_run registered season (by decide), by decide⟩

end Asset

end MaintenanceOutbox
