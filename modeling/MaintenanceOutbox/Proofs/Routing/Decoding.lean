import MaintenanceOutbox.Proofs.Payload.Events
import MaintenanceOutbox.Proofs.Routing.Registration

set_option autoImplicit false

/-! # Stored events under any tag

A stored event is a tag and a payload, and the two can drift apart: a row may carry a tag that is
not the one of the event in its payload. What a registry makes of such a row depends on the owner of
the tag only, so that nothing needs to be known about its handlers or the order of its calls, except
which types were registered (`Registry.owner?_calls_iff`).

If these are the types of maintenance, then the payload of an event comes back as that event under
the event's own tag, and under no other (`MaintenanceEvent.recalled_only_by_tag`). The two types
call their variants by different names, so that no payload of one can be read as the other.
-/

namespace MaintenanceOutbox

variable {κ ω : Type}

/-! ## What the owner of a tag decides -/

namespace Registry

variable [EventFamily κ] {r : Registry κ ω} {tag : String} {k : κ} {payload : Json}

/-- A tag that belongs to nobody is unknown. -/
theorem decode_unowned (free : r.owner? tag = none) (now : Timestamp) (payload : Json) :
    r.decode now tag payload = .error (.unknownEventType tag) := by
  rw [decode, Option.map_eq_none_iff.mp free]

/-- What the owner of the tag cannot read is no payload. -/
theorem decode_unreadable {reason : ReadError} (owned : r.owner? tag = some k) (now : Timestamp)
    (read : EventFamily.read k payload = .error reason) :
    r.decode now tag payload = .error (.payload tag reason) := by
  obtain ⟨route, found, rfl⟩ := Option.map_eq_some_iff.mp owned
  rw [decode, found]
  dsimp only
  rw [read]

/-- What the owner of the tag can read must be stored under the tag that it has. -/
theorem decode_readable {body : EventFamily.Body k} (owned : r.owner? tag = some k)
    (now : Timestamp) (read : EventFamily.read k payload = .ok body) :
    r.decode now tag payload =
      if EventFamily.tag k body = tag then .ok (.raise now k body)
      else .error (.tagMismatch tag (EventFamily.tag k body)) := by
  obtain ⟨route, found, rfl⟩ := Option.map_eq_some_iff.mp owned
  rw [decode, found]
  dsimp only
  rw [read]
  rfl

end Registry

/-! ## Payloads of the other type -/

theorem Reader.choice_bind_unknown {β : Type} {known : List String} {name content : String}
    {v : Json} {f : String × Json → Except ReadError β} (unlisted : name ∉ known) :
    (choice known content (.obj [(name, v)]) >>= f) = .error (.unknownVariant name known) := by
  rw [choice, if_neg unlisted]
  rfl

/-- The names of the variants of a type, as payloads have them. -/
def MaintenanceKind.variants : MaintenanceKind → List String
  | .workOrder => ["Opened", "Completed"]
  | .asset => ["Serviced"]

theorem MaintenanceKind.read_of_notMem [EventFamily κ] {k : MaintenanceKind} {name : String}
    (unlisted : name ∉ k.variants) (v : Json) :
    EventFamily.read (.inl k : WithMaintenance κ) (.obj [(name, v)]) =
      .error (.unknownVariant name k.variants) := by
  cases k with
  | workOrder =>
      show WorkOrderEvent.reader (.obj [(name, v)]) = _
      rw [WorkOrderEvent.reader]
      exact Reader.choice_bind_unknown unlisted
  | asset =>
      show AssetEvent.reader (.obj [(name, v)]) = _
      rw [AssetEvent.reader]
      exact Reader.choice_bind_unknown unlisted

namespace MaintenanceEvent

/-- The type of an event. -/
def kind : MaintenanceEvent → MaintenanceKind
  | .workOrder _ => .workOrder
  | .asset _ => .asset

/-- The name of the variant that an event is. -/
def variant : MaintenanceEvent → String
  | .workOrder (.opened _) => "Opened"
  | .workOrder (.completed _) => "Completed"
  | .asset (.serviced _) => "Serviced"

variable [EventFamily κ] (e : MaintenanceEvent)

/-- The type of an event lists its tag. -/
theorem tag_mem : e.tag ∈ EventFamily.tags e.kind := by
  match e with
  | .workOrder (.opened _) => exact .head _
  | .workOrder (.completed _) => exact .tail _ (.head _)
  | .asset (.serviced _) => exact .head _

/-- When an event of maintenance is raised makes no difference. -/
theorem raise_eq (now later : Timestamp) :
    (e.raise now : RaisedEvent (WithMaintenance κ)) = e.raise later := by
  cases e <;> rfl

/-- A payload names the variant that it holds. -/
theorem exists_toJson_eq : ∃ content, e.toJson = .obj [(e.variant, content)] := by
  match e with
  | .workOrder (.opened _) | .workOrder (.completed _) | .asset (.serviced _) => exact ⟨_, rfl⟩

/-- The two types call their variants by different names. -/
theorem variant_notMem {k : MaintenanceKind} (other : k ≠ e.kind) : e.variant ∉ k.variants := by
  match k, e with
  | .workOrder, .workOrder _ | .asset, .asset _ => exact absurd rfl other
  | .workOrder, .asset (.serviced _) => simp [variant, MaintenanceKind.variants]
  | .asset, .workOrder (.opened _) => simp [variant, MaintenanceKind.variants]
  | .asset, .workOrder (.completed _) => simp [variant, MaintenanceKind.variants]

/-- A payload cannot be read as the other type. -/
theorem read_of_ne {k : MaintenanceKind} (other : k ≠ e.kind) :
    EventFamily.read (.inl k : WithMaintenance κ) e.toJson =
      .error (.unknownVariant e.variant k.variants) := by
  obtain ⟨content, holds⟩ := e.exists_toJson_eq
  rw [holds]
  exact MaintenanceKind.read_of_notMem (e.variant_notMem other) content

variable {r : Registry (WithMaintenance κ) ω} {tag : String}

/-- A tag of the event's type leads to the event, if it is the event's own. -/
theorem decode_of_owned (owned : r.owner? tag = some (.inl e.kind)) (now : Timestamp) :
    r.decode now tag e.toJson =
      if e.tag = tag then .ok (e.raise now) else .error (.tagMismatch tag e.tag) := by
  cases e with
  | workOrder e => exact Registry.decode_readable owned now e.reader_toJson
  | asset e => exact Registry.decode_readable owned now e.reader_toJson

/-- A tag of the other type leads to a payload error. -/
theorem decode_of_ne {k : MaintenanceKind} (owned : r.owner? tag = some (.inl k)) (now : Timestamp)
    (other : k ≠ e.kind) :
    r.decode now tag e.toJson = .error (.payload tag (.unknownVariant e.variant k.variants)) :=
  Registry.decode_unreadable owned now (e.read_of_ne other)

end MaintenanceEvent

/-! ## The types of maintenance, and no others -/

section

variable [EventFamily κ]

/-- **What a registry recalls of an event** that was raised and written as `payload`, whatever the
tag that the payload is stored under and whenever it is asked. -/
structure Registry.Recalls (r : Registry (WithMaintenance κ) ω) (e : MaintenanceEvent)
    (raised : Timestamp) (payload : Json) : Prop where
  /-- the event as it was raised, exactly under its own tag -/
  itself : ∀ now tag found,
    r.decode now tag payload = .ok found ↔ tag = e.tag ∧ found = e.raise raised
  /-- another tag of its type does not fit what the payload tells -/
  mismatch : ∀ now, ∀ tag ∈ EventFamily.tags e.kind, tag ≠ e.tag →
    r.decode now tag payload = .error (.tagMismatch tag e.tag)
  /-- the other type does not know the variant -/
  foreign : ∀ now, ∀ k ≠ e.kind, ∀ tag ∈ EventFamily.tags k,
    r.decode now tag payload = .error (.payload tag (.unknownVariant e.variant k.variants))
  /-- any other text is no tag -/
  unknown : ∀ now tag, (∀ k : MaintenanceKind, tag ∉ EventFamily.tags k) →
    r.decode now tag payload = .error (.unknownEventType tag)

/-- The tags that the types of maintenance list belong to them, and there are no others. -/
def Registry.RoutesMaintenance (r : Registry (WithMaintenance κ) ω) : Prop :=
  ∀ tag k, r.owner? tag = some k ↔
    ∃ kind : MaintenanceKind, k = .inl kind ∧ tag ∈ EventFamily.tags kind

/-- The accepted calls of a history are about the types of maintenance, both of them, and about no
other type. -/
def Registration.OnlyMaintenance (history : List (Registration (WithMaintenance κ) ω)) : Prop :=
  ∀ k : WithMaintenance κ,
    (∃ c ∈ (Registry.empty : Registry (WithMaintenance κ) ω).accepted history, c.kind = k) ↔
      k = .inl .workOrder ∨ k = .inl .asset

theorem Registration.OnlyMaintenance.routes {history : List (Registration (WithMaintenance κ) ω)}
    (only : Registration.OnlyMaintenance history) :
    (Registry.empty.calls history).RoutesMaintenance := by
  intro tag k
  rw [Registry.owner?_calls_iff]
  constructor
  · rintro (nobody | ⟨c, hc, rfl, listed⟩)
    · cases nobody
    · rcases (only _).mp ⟨c, hc, rfl⟩ with same | same <;>
        exact ⟨_, same, by rwa [same] at listed⟩
  · rintro ⟨kind, rfl, listed⟩
    have registered : (.inl kind : WithMaintenance κ) = .inl .workOrder ∨
        (.inl kind : WithMaintenance κ) = .inl .asset := by
      cases kind
      · exact .inl rfl
      · exact .inr rfl
    obtain ⟨c, hc, same⟩ := (only _).mpr registered
    exact .inr ⟨c, hc, same, by rwa [same]⟩

theorem Registry.RoutesMaintenance.recalls {r : Registry (WithMaintenance κ) ω}
    (routes : r.RoutesMaintenance) (e : MaintenanceEvent) (raised : Timestamp) :
    r.Recalls e raised e.toJson := by
  have owned : ∀ k : MaintenanceKind, ∀ tag ∈ EventFamily.tags k,
      r.owner? tag = some (.inl k) := fun k tag listed =>
    (routes tag _).mpr ⟨k, rfl, listed⟩
  have own : ∀ now, ∀ tag ∈ EventFamily.tags e.kind, r.decode now tag e.toJson =
      if e.tag = tag then .ok (e.raise now) else .error (.tagMismatch tag e.tag) :=
    fun now tag listed => e.decode_of_owned (owned _ tag listed) now
  have foreign : ∀ now, ∀ k ≠ e.kind, ∀ tag ∈ EventFamily.tags k, r.decode now tag e.toJson =
      .error (.payload tag (.unknownVariant e.variant k.variants)) :=
    fun now k other tag listed => e.decode_of_ne (owned k tag listed) now other
  refine ⟨fun now tag found => ⟨fun decoded => ?_, ?_⟩, ?_, foreign, ?_⟩
  · -- a decoded event has an owner, which is a type of maintenance, and is not the other one
    obtain ⟨k, -, listed⟩ := (routes tag _).mp (Registry.decode_cases decoded).1
    by_cases same : k = e.kind
    · subst same
      rw [own now tag listed] at decoded
      split at decoded
      · next named =>
          cases decoded
          exact ⟨named.symm, e.raise_eq now raised⟩
      · cases decoded
    · rw [foreign now k same tag listed] at decoded
      cases decoded
  · rintro ⟨rfl, rfl⟩
    rw [own now e.tag e.tag_mem, if_pos rfl, e.raise_eq now raised]
  · intro now tag listed differs
    rw [own now tag listed, if_neg (Ne.symm differs)]
  · intro now tag unlisted
    refine Registry.decode_unowned (Option.eq_none_iff_forall_ne_some.mpr fun k owner => ?_) now _
    obtain ⟨kind, -, listed⟩ := (routes tag k).mp owner
    exact unlisted kind listed

/-- **Stored events are recalled, and only by their own tag**, by every registry in which exactly
the types of maintenance are registered. -/
theorem MaintenanceEvent.recalled_only_by_tag
    {history : List (Registration (WithMaintenance κ) ω)}
    (only : Registration.OnlyMaintenance history) (e : MaintenanceEvent) (raised : Timestamp) :
    ∃ payload, (e.raise raised : RaisedEvent (WithMaintenance κ)).payload = .ok payload ∧
      (Registry.empty.calls history).Recalls e raised payload :=
  ⟨e.toJson, e.payload_raise raised, only.routes.recalls e raised⟩

end

/-! ## Twice the same tags

The other types of this application are those of maintenance again, under other names. Whoever comes
second is refused, so that the tags belong to the first.
-/

namespace Registration

/-- Four calls, of which the second is refused. -/
def firstCome : List (Registration (WithMaintenance MaintenanceKind) String) :=
  [.deferred (notifyWorkOrders quietSink), .event (.inr .workOrder), .event (.inl .asset),
    .deferred (notifyAssets quietSink)]

theorem onlyMaintenance_firstCome : OnlyMaintenance firstCome := by
  intro k
  have left : (Registry.empty : Registry (WithMaintenance MaintenanceKind) String).accepted
      firstCome = [.deferred (notifyWorkOrders quietSink), .event (.inl .asset),
        .deferred (notifyAssets quietSink)] := rfl
  rw [left]
  simp [kind, notifyWorkOrders, notifyAssets, eq_comm]

end Registration

/-- The last visit that can be numbered, in a leap second of a distant year. -/
def AssetEvent.lastVisit : AssetEvent :=
  .serviced
    { assetId := default
      serviceCount := 4294967295
      note := ""
      occurredAt := ⟨⟨12024, 6, 30, by decide⟩, 23, 59, 60, 500000000, by decide⟩ }

theorem MaintenanceEvent.recalled_only_by_tag_visit :
    Registration.OnlyMaintenance Registration.firstCome ∧
      ((Registry.empty.calls Registration.firstCome).call (.event (.inr .asset))).1 =
        .error (.duplicateEventType "maintenance.asset.serviced" "AssetEvent") ∧
      ∃ payload, (Registry.empty.calls Registration.firstCome).Recalls (.asset .lastVisit) default
        payload := by
  have only := Registration.onlyMaintenance_firstCome
  obtain ⟨payload, -, recalls⟩ := MaintenanceEvent.recalled_only_by_tag only (.asset .lastVisit)
    default
  exact ⟨only, rfl, payload, recalls⟩

end MaintenanceOutbox
