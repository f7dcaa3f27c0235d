import MaintenanceOutbox.Event.UnitOfWork
import MaintenanceOutbox.Store.Interface

set_option autoImplicit false

/-! # The handler registry

The registry routes events to their handlers by tag. A route belongs to one event type, its owner,
which says how a stored payload is decoded; the handlers on a route run in the order in which they
were registered.

**Every tag has one owner.** A type is registered with all its tags or not at all: if one of them
belongs to another type already, nothing changes. Handlers are bound to a type and reach every route
that lists it, so the handlers on a route are handlers of its owner. An event whose tag leads to
a route of another type is nevertheless possible, as an event may carry a tag that its type does not
list, or one that it lists and does not own; a handler refuses it.

There are two kinds of handlers. Transactional ones run inside the business transaction and may
raise further events. Deferred ones run later, in a worker's transaction.
-/

namespace MaintenanceOutbox

/-- What a transactional handler does: it works on its transaction, raises events, and may fail. -/
abbrev TransactionalM (κ ω : Type) [EventFamily κ] :=
  ExceptT HandlerError (StateT (UnitOfWork κ) (TxProgram ω))

/-- What a deferred handler does: it works on its transaction, and may fail. -/
abbrev DeferredM (ω : Type) :=
  ExceptT HandlerError (TxProgram ω)

/-- A handler of one event type. -/
structure Handler (κ : Type) [EventFamily κ] (M : Type → Type) where
  kind : κ
  handle : EventFamily.Body kind → M Unit

/-- The refusal of an event that is not of the handler's type. -/
def HandlerError.wrongType (tag typeName : String) : HandlerError :=
  .failed ("event '" ++ tag ++ "' is not a " ++ typeName)

/-- Run a handler on an event, which must be of the handler's type. -/
def Handler.invoke {κ : Type} [EventFamily κ] {M : Type → Type} [MonadExcept HandlerError M]
    (h : Handler κ M) (e : RaisedEvent κ) : M Unit :=
  match e.bodyAs? h.kind with
  | some body => h.handle body
  | none => throw (.wrongType e.tag (EventFamily.typeName h.kind))

/-- The route of one tag. -/
structure Route (κ ω : Type) [EventFamily κ] where
  tag : String
  owner : κ
  transactional : List (Handler κ (TransactionalM κ ω)) := []
  deferred : List (Handler κ (DeferredM ω)) := []

/-- The routes of an application, in the order in which their tags were bound. -/
structure Registry (κ ω : Type) [EventFamily κ] where
  routes : List (Route κ ω) := []

/-- Why a registration is refused. -/
inductive RegistryError where
  /-- the tag belongs to another type -/
  | duplicateEventType (tag existing : String)
deriving DecidableEq, Repr

/-- The text of a refused registration. -/
def RegistryError.message : RegistryError → String
  | .duplicateEventType tag existing =>
    "event type '" ++ tag ++ "' is already bound to " ++ existing

/-- Why a stored event cannot be decoded. -/
inductive DecodeError where
  | unknownEventType (tag : String)
  /-- the payload is none of the route's type -/
  | payload (tag : String) (reason : ReadError)
  /-- the payload decodes, but to an event with another tag -/
  | tagMismatch (stored decoded : String)

/-- The text of a decoding error. -/
def DecodeError.message : DecodeError → String
  | .unknownEventType tag => "unknown event type: " ++ tag
  | .payload tag reason => "failed to decode '" ++ tag ++ "' payload: " ++ reason.message
  | .tagMismatch stored decoded =>
    "payload stored as '" ++ stored ++ "' decodes to '" ++ decoded ++ "'"

namespace Registry

variable {κ ω : Type} [EventFamily κ]

/-- The registry without routes. -/
def empty : Registry κ ω := {}

/-- The route of a tag. -/
def route? (r : Registry κ ω) (tag : String) : Option (Route κ ω) :=
  r.routes.find? (·.tag = tag)

/-- Is there a route for the tag? -/
def isRegistered (r : Registry κ ω) (tag : String) : Bool :=
  (r.route? tag).isSome

/-- The numbers of transactional and deferred handlers of a tag. -/
def handlerCounts (r : Registry κ ω) (tag : String) : Nat × Nat :=
  match r.route? tag with
  | some route => (route.transactional.length, route.deferred.length)
  | none => (0, 0)

/-! ## Registration -/

/-- The first route among those of some tags that belongs to another type than `k`. -/
def takenBy? (r : Registry κ ω) (k : κ) : List String → Option (Route κ ω)
  | [] => none
  | tag :: rest =>
    match r.route? tag with
    | some route => if route.owner = k then takenBy? r k rest else some route
    | none => takenBy? r k rest

/-- The registry with a route for the tag; a route that is there already stays. -/
def bindTag (k : κ) (r : Registry κ ω) (tag : String) : Registry κ ω :=
  if r.isRegistered tag then r else ⟨r.routes ++ [{ tag := tag, owner := k }]⟩

/-- Make every tag of a type decodable, also if no handler consumes it. Registering a type again
changes nothing. -/
def registerEvent (r : Registry κ ω) (k : κ) : Except RegistryError (Registry κ ω) :=
  match r.takenBy? k (EventFamily.tags k) with
  | some route =>
    .error (.duplicateEventType route.tag (EventFamily.typeName route.owner))
  | none => .ok ((EventFamily.tags k).foldl (bindTag k) r)

/-- Change the route of a tag. -/
def onRoute (change : Route κ ω → Route κ ω) (r : Registry κ ω) (tag : String) : Registry κ ω :=
  ⟨r.routes.map fun route => if route.tag = tag then change route else route⟩

/-- Change the routes of a type, for one tag that it lists after the other. -/
def onRoutes (r : Registry κ ω) (k : κ) (change : Route κ ω → Route κ ω) : Registry κ ω :=
  (EventFamily.tags k).foldl (onRoute change) r

/-- Register a transactional handler, and its type. -/
def onTransactional (r : Registry κ ω) (h : Handler κ (TransactionalM κ ω)) :
    Except RegistryError (Registry κ ω) := do
  let r ← r.registerEvent h.kind
  pure (r.onRoutes h.kind fun route => { route with transactional := route.transactional ++ [h] })

/-- Register a deferred handler, and its type. -/
def onDeferred (r : Registry κ ω) (h : Handler κ (DeferredM ω)) :
    Except RegistryError (Registry κ ω) := do
  let r ← r.registerEvent h.kind
  pure (r.onRoutes h.kind fun route => { route with deferred := route.deferred ++ [h] })

/-! ## Dispatch -/

/-- Run handlers on an event, up to the first failure, and count them. -/
def invokeAll {M : Type → Type} [Monad M] [MonadExcept HandlerError M]
    (handlers : List (Handler κ M)) (e : RaisedEvent κ) : M Nat := do
  handlers.forM fun h => h.invoke e
  pure handlers.length

/-- Run the transactional handlers of an event, and count them. An event without a route has
none. -/
def dispatchTransactional (r : Registry κ ω) (e : RaisedEvent κ) : TransactionalM κ ω Nat :=
  match r.route? e.tag with
  | some route => invokeAll route.transactional e
  | none => pure 0

/-- Run the deferred handlers of an event, and count them. -/
def dispatchDeferred (r : Registry κ ω) (e : RaisedEvent κ) : DeferredM ω Nat :=
  match r.route? e.tag with
  | some route => invokeAll route.deferred e
  | none => pure 0

/-- **Decode a stored event**, asked at `now`. Its tag must come out as it is stored. -/
def decode (r : Registry κ ω) (now : Timestamp) (tag : String) (payload : Json) :
    Except DecodeError (RaisedEvent κ) :=
  match r.route? tag with
  | none => .error (.unknownEventType tag)
  | some route =>
    match EventFamily.read route.owner payload with
    | .error reason => .error (.payload tag reason)
    | .ok body =>
      let e := RaisedEvent.raise now route.owner body
      if e.tag = tag then .ok e else .error (.tagMismatch tag e.tag)

/-- The routes in words, one for each tag. -/
def describe (r : Registry κ ω) : List String :=
  r.routes.map fun route =>
    Text.quote route.tag ++ ": " ++ EventFamily.typeName route.owner ++ " (transactional: " ++
      toString route.transactional.length ++ ", deferred: " ++ toString route.deferred.length ++ ")"

end Registry

end MaintenanceOutbox
