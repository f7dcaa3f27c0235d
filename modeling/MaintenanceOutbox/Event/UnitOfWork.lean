import MaintenanceOutbox.Event.Family

set_option autoImplicit false

/-! # Units of work

A unit of work is one business transaction together with the events that were raised in it. The
transaction is at hand wherever the unit of work is; what is kept here is the queue of events,
oldest first. An aggregate has a buffer of its own, and `UnitOfWork.register` moves it into the
queue; registering again without a change in between moves nothing.
-/

namespace MaintenanceOutbox

/-- The events raised in a business transaction, oldest first. -/
structure UnitOfWork (κ : Type) [EventFamily κ] where
  raised : List (RaisedEvent κ)

namespace UnitOfWork

variable {κ : Type} [EventFamily κ]

/-- A unit of work in which nothing happened yet. -/
def empty : UnitOfWork κ := ⟨[]⟩

/-- Raise an event. -/
def raise (uow : UnitOfWork κ) (now : Timestamp) (kind : κ) (body : EventFamily.Body kind) :
    UnitOfWork κ :=
  ⟨uow.raised ++ [RaisedEvent.raise now kind body]⟩

/-- Move the events of an aggregate into the queue. `take` gives the aggregate's buffer and the
aggregate without it. -/
def register {A : Type} (uow : UnitOfWork κ) (now : Timestamp) (kind : κ)
    (take : A → List (EventFamily.Body kind) × A) (aggregate : A) : UnitOfWork κ × A :=
  let (bodies, aggregate) := take aggregate
  (⟨uow.raised ++ bodies.map (RaisedEvent.raise now kind)⟩, aggregate)

/-- Take all events out of the queue. -/
def collect (uow : UnitOfWork κ) : List (RaisedEvent κ) × UnitOfWork κ :=
  (uow.raised, empty)

/-- Are events waiting in the queue? -/
def hasPending (uow : UnitOfWork κ) : Bool :=
  !uow.raised.isEmpty

end UnitOfWork

end MaintenanceOutbox
