import MaintenanceOutbox.Event.Registry
import MaintenanceOutbox.Proofs.Delivery.Dialogue
import MaintenanceOutbox.Proofs.InPlace
import Mathlib.Data.List.Induction
import Mathlib.Data.List.Nodup
import Mathlib.Tactic.Common

set_option autoImplicit false

/-! # Any history of registrations

A registry is built by calls, some of which are refused. Here a call is taken as work on the
registry in place, tag by tag (`Registration.inPlace`), where a refusal in the middle could leave
something behind. It does not: a refused call leaves the registry as it was, and an accepted one
makes of it what the registration says (`Registry.call_eq`).

All that the accepted calls leave in a registry is one equation: the route of a tag belongs to the
type of the first of them that lists the tag, and has the handlers that were registered for that
type, in the order of the calls (`Registration.routeAfter?`). This is an invariant of all histories
(`Registry.Regular.call`), and the rest follows: owners stay, and a decoded event meets handlers of
its own type only. Whatever these are answered when the event is dispatched, each of them handles
its body, up to the first that fails (`Handler.TakeTurns`).
-/

namespace MaintenanceOutbox

variable {κ ω : Type} [EventFamily κ]

/-! ## Calls -/

/-- A call that registers an event type, with a handler for it or without. -/
inductive Registration (κ ω : Type) [EventFamily κ] where
  | event (k : κ)
  | transactional (h : Handler κ (TransactionalM κ ω))
  | deferred (h : Handler κ (DeferredM ω))

/-- Work on a registry in place. What was done before a refusal stays done. -/
abbrev RegistryM (κ ω : Type) [EventFamily κ] :=
  ExceptT RegistryError (StateM (Registry κ ω))

namespace RegistryM

/-- What comes of the work on a registry, and what it leaves. -/
def result {α : Type} (p : RegistryM κ ω α) (r : Registry κ ω) :
    Except RegistryError α × Registry κ ω :=
  (show StateM (Registry κ ω) (Except RegistryError α) from p.run) r

/-- Refuse a tag that belongs to another type than `k`. -/
def checkTag (k : κ) (tag : String) : RegistryM κ ω Unit := do
  let r ← get
  match r.route? tag with
  | some route =>
    if route.owner = k then pure ()
    else throw (.duplicateEventType tag (EventFamily.typeName route.owner))
  | none => pure ()

end RegistryM

namespace Route

/-- The route with one more transactional handler. -/
def addTransactional (h : Handler κ (TransactionalM κ ω)) (route : Route κ ω) : Route κ ω :=
  { route with transactional := route.transactional ++ [h] }

/-- The route with one more deferred handler. -/
def addDeferred (h : Handler κ (DeferredM ω)) (route : Route κ ω) : Route κ ω :=
  { route with deferred := route.deferred ++ [h] }

end Route

namespace Registration

/-- The event type that the call is about. -/
def kind : Registration κ ω → κ
  | .event k => k
  | .transactional h => h.kind
  | .deferred h => h.kind

/-- What the call makes of a registry, or why it is refused. -/
def perform : Registration κ ω → Registry κ ω → Except RegistryError (Registry κ ω)
  | .event k, r => r.registerEvent k
  | .transactional h, r => r.onTransactional h
  | .deferred h, r => r.onDeferred h

/-- What the call does to the routes of its type. -/
def extend : Registration κ ω → Route κ ω → Route κ ω
  | .event _ => id
  | .transactional h => .addTransactional h
  | .deferred h => .addDeferred h

/-- Put the handler of the call on the routes of its type, one after the other. -/
def extendInPlace : Registration κ ω → RegistryM κ ω Unit
  | .event _ => pure ()
  | .transactional h =>
    (EventFamily.tags h.kind).forM fun tag => modify (Registry.onRoute (.addTransactional h) · tag)
  | .deferred h =>
    (EventFamily.tags h.kind).forM fun tag => modify (Registry.onRoute (.addDeferred h) · tag)

/-- **A call as work in place**: all tags of the type are checked, then those without a route get
one, then the handler is put on the routes. -/
def inPlace (c : Registration κ ω) : RegistryM κ ω Unit := do
  (EventFamily.tags c.kind).forM (RegistryM.checkTag c.kind)
  (EventFamily.tags c.kind).forM fun tag => modify (Registry.bindTag c.kind · tag)
  c.extendInPlace

end Registration

namespace Registry

/-- Make a call: what comes of it, and the registry after it. -/
def call (r : Registry κ ω) (c : Registration κ ω) : Except RegistryError Unit × Registry κ ω :=
  c.inPlace.result r

/-- The registry after some calls. -/
def calls (r : Registry κ ω) (history : List (Registration κ ω)) : Registry κ ω :=
  history.foldl (fun r c => (r.call c).2) r

/-- Those of some calls that are accepted. -/
def accepted (r : Registry κ ω) : List (Registration κ ω) → List (Registration κ ω)
  | [] => []
  | c :: rest =>
    match (r.call c).1 with
    | .ok () => c :: accepted (r.call c).2 rest
    | .error _ => accepted (r.call c).2 rest

/-- The type that a tag belongs to. -/
def owner? (r : Registry κ ω) (tag : String) : Option κ :=
  (r.route? tag).map (·.owner)

/-- The tag belongs to another type than `k`. -/
def Foreign (r : Registry κ ω) (k : κ) (tag : String) : Prop :=
  ∃ owner, r.owner? tag = some owner ∧ owner ≠ k

/-- **The first tag of type `k` that belongs to another type** is the reason of the refusal. -/
def Conflict (r : Registry κ ω) (k : κ) (e : RegistryError) : Prop :=
  ∃ before tag after, EventFamily.tags k = before ++ tag :: after ∧
    (∀ t ∈ before, ¬ r.Foreign k t) ∧
      ∃ owner, r.owner? tag = some owner ∧ owner ≠ k ∧
        e = .duplicateEventType tag (EventFamily.typeName owner)

end Registry

/-! ## A call in place is all or nothing -/

namespace RegistryM

variable {r : Registry κ ω}

theorem result_bind_ok {α β : Type} {p : RegistryM κ ω α} {a : α} {r' : Registry κ ω}
    (first : p.result r = (.ok a, r')) (f : α → RegistryM κ ω β) :
    (p >>= f).result r = (f a).result r' :=
  InPlace.result_bind_ok first f

theorem result_bind_error {α β : Type} {p : RegistryM κ ω α} {e : RegistryError}
    {r' : Registry κ ω} (first : p.result r = (.error e, r')) (f : α → RegistryM κ ω β) :
    (p >>= f).result r = (.error e, r') :=
  InPlace.result_bind_error first f

/-- Looking at a tag changes nothing. -/
theorem result_checkTag (r : Registry κ ω) (k : κ) (tag : String) :
    (checkTag k tag).result r =
      match r.takenBy? k [tag] with
      | some route => (.error (.duplicateEventType route.tag (EventFamily.typeName route.owner)), r)
      | none => (.ok (), r) := by
  show RegistryM.result (match r.route? tag with
    | some route => if route.owner = k then pure () else throw _
    | none => pure ()) r = _
  rw [Registry.takenBy?]
  cases found : r.route? tag with
  | none => rfl
  | some route =>
      have named : route.tag = tag := by simpa using List.find?_some found
      by_cases own : route.owner = k
      · simp only [own, if_true]
        rfl
      · simp only [own, if_false, named]
        rfl

/-- The checks change nothing, and find what the registration finds. -/
theorem result_checks (r : Registry κ ω) (k : κ) (tags : List String) :
    RegistryM.result (tags.forM (checkTag k)) r =
      match r.takenBy? k tags with
      | some route => (.error (.duplicateEventType route.tag (EventFamily.typeName route.owner)), r)
      | none => (.ok (), r) := by
  induction tags with
  | nil => rfl
  | cons tag rest ih =>
      have first := result_checkTag r k tag
      rw [List.forM_eq_forM, List.forM_cons]
      rw [Registry.takenBy?] at first ⊢
      cases found : r.route? tag with
      | none =>
          rw [found] at first
          exact (result_bind_ok first _).trans ih
      | some route =>
          rw [found] at first
          by_cases own : route.owner = k
          · simp only [own, if_true] at first ⊢
            exact (result_bind_ok first _).trans ih
          · simp only [own, if_false] at first ⊢
            exact result_bind_error first _

theorem result_modifies (f : Registry κ ω → String → Registry κ ω) (tags : List String)
    (r : Registry κ ω) :
    RegistryM.result (tags.forM fun tag => modify (f · tag)) r = (.ok (), tags.foldl f r) := by
  induction tags generalizing r with
  | nil => rfl
  | cons tag rest ih => exact ih (f r tag)

end RegistryM

namespace Registration

variable (c : Registration κ ω) (r : Registry κ ω)

theorem result_extendInPlace :
    c.extendInPlace.result r = (.ok (), r.onRoutes c.kind c.extend) := by
  cases c with
  | event k =>
      -- there is no handler to put anywhere
      have same : ∀ tags : List String, tags.foldl (Registry.onRoute id) r = r := by
        intro tags
        induction tags with
        | nil => rfl
        | cons tag rest ih =>
            have unchanged : Registry.onRoute id r tag = r := by simp [Registry.onRoute]
            rw [List.foldl_cons, unchanged, ih]
      exact congrArg (Prod.mk _) (same _).symm
  | transactional h => exact RegistryM.result_modifies _ _ _
  | deferred h => exact RegistryM.result_modifies _ _ _

theorem perform_eq :
    c.perform r = (r.registerEvent c.kind).map fun r => r.onRoutes c.kind c.extend := by
  cases c with
  | event k =>
      have same := (Registration.event k : Registration κ ω).result_extendInPlace
      show r.registerEvent k = (r.registerEvent k).map _
      cases r.registerEvent k with
      | error e => rfl
      | ok r' => exact congrArg (fun p => Except.ok p.2) (same r')
  | transactional h =>
      show (r.registerEvent h.kind >>= _) = (r.registerEvent h.kind).map _
      cases r.registerEvent h.kind <;> rfl
  | deferred h =>
      show (r.registerEvent h.kind >>= _) = (r.registerEvent h.kind).map _
      cases r.registerEvent h.kind <;> rfl

end Registration

/-- **A call is all or nothing**: it does what the registration says, or is refused and leaves the
registry as it was. -/
theorem Registry.call_eq (r : Registry κ ω) (c : Registration κ ω) :
    r.call c =
      match c.perform r with
      | .ok r' => (.ok (), r')
      | .error e => (.error e, r) := by
  have checks := RegistryM.result_checks r c.kind (EventFamily.tags c.kind)
  rw [c.perform_eq, registerEvent]
  show c.inPlace.result r = _
  rw [Registration.inPlace]
  cases taken : r.takenBy? c.kind (EventFamily.tags c.kind) with
  | some route =>
      rw [taken] at checks
      exact RegistryM.result_bind_error checks _
  | none =>
      rw [taken] at checks
      rw [RegistryM.result_bind_ok checks, RegistryM.result_bind_ok (RegistryM.result_modifies
        (bindTag c.kind) _ r), c.result_extendInPlace]
      rfl

/-! ## Which calls are refused -/

namespace Registry

variable {r : Registry κ ω} {k : κ}

theorem tag_of_route? {tag : String} {route : Route κ ω} (found : r.route? tag = some route) :
    route.tag = tag := by
  simpa using List.find?_some found

theorem owner?_of_route? {tag : String} {route : Route κ ω} (found : r.route? tag = some route) :
    r.owner? tag = some route.owner :=
  congrArg (·.map (·.owner)) found

theorem foreign_iff_of_route? {tag : String} {route : Route κ ω}
    (found : r.route? tag = some route) :
    r.Foreign k tag ↔ route.owner ≠ k := by
  simp [Foreign, owner?_of_route? found]

theorem not_foreign_of_route? {tag : String} (none' : r.route? tag = none) :
    ¬ r.Foreign k tag := by
  simp [Foreign, owner?, none']

/-- The registration looks for the first tag that belongs to another type. -/
theorem takenBy?_eq_none_iff {tags : List String} :
    r.takenBy? k tags = none ↔ ∀ tag ∈ tags, ¬ r.Foreign k tag := by
  induction tags with
  | nil => simp [takenBy?]
  | cons tag rest ih =>
      rw [takenBy?, List.forall_mem_cons, ← ih]
      cases found : r.route? tag with
      | none => simp [not_foreign_of_route? found]
      | some route => by_cases own : route.owner = k <;> simp [foreign_iff_of_route? found, own]

theorem takenBy?_append {before rest : List String} (own : ∀ t ∈ before, ¬ r.Foreign k t) :
    r.takenBy? k (before ++ rest) = r.takenBy? k rest := by
  induction before with
  | nil => rfl
  | cons tag before ih =>
      obtain ⟨here, own⟩ := List.forall_mem_cons.mp own
      rw [List.cons_append, takenBy?, ih own]
      cases found : r.route? tag with
      | none => rfl
      | some route => exact if_pos (by simpa [foreign_iff_of_route? found] using here)

theorem takenBy?_cons {tag : String} {rest : List String} {route : Route κ ω}
    (found : r.route? tag = some route) (other : route.owner ≠ k) :
    r.takenBy? k (tag :: rest) = some route := by
  rw [takenBy?, found]
  exact if_neg other

/-- What is found is the first tag that belongs to another type. -/
theorem exists_of_takenBy? {tags : List String} {route : Route κ ω}
    (taken : r.takenBy? k tags = some route) :
    ∃ before tag after, tags = before ++ tag :: after ∧ (∀ t ∈ before, ¬ r.Foreign k t) ∧
      r.route? tag = some route ∧ route.owner ≠ k := by
  induction tags with
  | nil => cases taken
  | cons tag rest ih =>
      by_cases foreign : r.Foreign k tag
      · obtain ⟨owner, owned, other⟩ := foreign
        obtain ⟨here, found, rfl⟩ := Option.map_eq_some_iff.mp owned
        rw [takenBy?_cons found other, Option.some.injEq] at taken
        subst taken
        exact ⟨[], tag, rest, rfl, by simp, found, other⟩
      · have own : ∀ t ∈ [tag], ¬ r.Foreign k t := by simpa using foreign
        have passed : r.takenBy? k rest = some route := (takenBy?_append own).symm.trans taken
        obtain ⟨before, t, after, rfl, own, found, other⟩ := ih passed
        exact ⟨tag :: before, t, after, rfl, List.forall_mem_cons.mpr ⟨foreign, own⟩, found, other⟩

theorem call_of_taken {c : Registration κ ω} {route : Route κ ω}
    (taken : r.takenBy? c.kind (EventFamily.tags c.kind) = some route) :
    r.call c = (.error (.duplicateEventType route.tag (EventFamily.typeName route.owner)), r) := by
  rw [call_eq, c.perform_eq, registerEvent, taken]
  rfl

theorem call_of_free {c : Registration κ ω}
    (free : r.takenBy? c.kind (EventFamily.tags c.kind) = none) :
    r.call c =
      (.ok (), ((EventFamily.tags c.kind).foldl (bindTag c.kind) r).onRoutes c.kind c.extend) := by
  rw [call_eq, c.perform_eq, registerEvent, free]
  rfl

/-- **A call is refused** for the first tag of its type that belongs to another one. -/
theorem call_eq_error_iff {c : Registration κ ω} {e : RegistryError} :
    (r.call c).1 = .error e ↔ r.Conflict c.kind e := by
  constructor
  · intro refused
    cases taken : r.takenBy? c.kind (EventFamily.tags c.kind) with
    | none =>
        rw [call_of_free taken] at refused
        cases refused
    | some route =>
        rw [call_of_taken taken, Except.error.injEq] at refused
        obtain ⟨before, tag, after, split, own, found, other⟩ := exists_of_takenBy? taken
        refine ⟨before, tag, after, split, own, route.owner, owner?_of_route? found, other, ?_⟩
        rw [← refused, tag_of_route? found]
  · rintro ⟨before, tag, after, split, own, owner, owned, other, rfl⟩
    obtain ⟨route, found, rfl⟩ := Option.map_eq_some_iff.mp owned
    have taken : r.takenBy? c.kind (EventFamily.tags c.kind) = some route := by
      rw [split, takenBy?_append own, takenBy?_cons found other]
    rw [call_of_taken taken, tag_of_route? found]

/-- **A call is refused exactly if** some tag of its type belongs to another one. -/
theorem exists_call_eq_error_iff {c : Registration κ ω} :
    (∃ e, (r.call c).1 = .error e) ↔ ∃ tag ∈ EventFamily.tags c.kind, r.Foreign c.kind tag := by
  cases taken : r.takenBy? c.kind (EventFamily.tags c.kind) with
  | none =>
      rw [call_of_free taken]
      simpa using takenBy?_eq_none_iff.mp taken
  | some route =>
      rw [call_of_taken taken]
      obtain ⟨before, tag, after, split, -, found, other⟩ := exists_of_takenBy? taken
      have foreign : r.Foreign c.kind tag := (foreign_iff_of_route? found).mpr other
      exact iff_of_true ⟨_, rfl⟩ ⟨tag, by simp [split], foreign⟩

/-- What an accepted call lists belongs to nobody else. -/
theorem free_of_accepted {c : Registration κ ω} (accepted : (r.call c).1 = .ok ()) :
    r.takenBy? c.kind (EventFamily.tags c.kind) = none := by
  cases taken : r.takenBy? c.kind (EventFamily.tags c.kind) with
  | none => rfl
  | some route =>
      rw [call_of_taken taken] at accepted
      cases accepted

/-- A call that is refused changes nothing. -/
theorem call_unchanged {c : Registration κ ω} {e : RegistryError}
    (refused : (r.call c).1 = .error e) : (r.call c).2 = r := by
  rw [call_eq] at refused ⊢
  cases done : c.perform r with
  | error e' => rfl
  | ok r' =>
      rw [done] at refused
      cases refused

/-! ## What an accepted call does to the routes -/

theorem route?_bindTag (r : Registry κ ω) (k : κ) (tag other : String) :
    (bindTag k r tag).route? other =
      (r.route? other).or (if tag = other then some { tag := tag, owner := k } else none) := by
  rw [bindTag]
  cases registered : r.isRegistered tag with
  | true =>
      by_cases same : tag = other
      · subst same
        obtain ⟨route, found⟩ := Option.isSome_iff_exists.mp registered
        simp [found]
      · simp [same]
  | false => by_cases same : tag = other <;> simp [route?, same]

/-- Every tag of some gets a route, those that had one keep it. -/
theorem route?_foldl_bindTag (r : Registry κ ω) (k : κ) (tags : List String) (tag : String) :
    (tags.foldl (bindTag k) r).route? tag =
      (r.route? tag).or (if tag ∈ tags then some { tag := tag, owner := k } else none) := by
  induction tags generalizing r with
  | nil => simp
  | cons first rest ih =>
      rw [List.foldl_cons, ih, route?_bindTag, Option.or_assoc]
      by_cases here : first = tag
      · subst here
        simp
      · have other : ¬ tag = first := fun same => here same.symm
        simp [here, other]

theorem route?_onRoute {change : Route κ ω → Route κ ω}
    (keeps : ∀ route, (change route).tag = route.tag) (r : Registry κ ω) (tag other : String) :
    (onRoute change r tag).route? other =
      if tag = other then (r.route? other).map change else r.route? other := by
  simp only [route?, onRoute]
  induction r.routes with
  | nil => simp
  | cons route rest ih =>
      by_cases changed : route.tag = tag <;> by_cases found : route.tag = other <;> grind

/-- A change goes once to the route of every tag of some, if none of them stands there twice. -/
theorem route?_foldl_onRoute {change : Route κ ω → Route κ ω}
    (keeps : ∀ route, (change route).tag = route.tag) {tags : List String} (distinct : tags.Nodup)
    (r : Registry κ ω) (tag : String) :
    (tags.foldl (onRoute change) r).route? tag =
      if tag ∈ tags then (r.route? tag).map change else r.route? tag := by
  induction tags generalizing r with
  | nil => simp
  | cons first rest ih =>
      obtain ⟨once, distinct⟩ := List.nodup_cons.mp distinct
      rw [List.foldl_cons, ih distinct, route?_onRoute keeps]
      by_cases here : first = tag
      · subst here
        simp [once]
      · have other : ¬ tag = first := fun same => here same.symm
        simp [here, other]

end Registry

theorem Registration.tag_extend (c : Registration κ ω) (route : Route κ ω) :
    (c.extend route).tag = route.tag := by
  cases c <;> rfl

theorem Registration.owner_extend (c : Registration κ ω) (route : Route κ ω) :
    (c.extend route).owner = route.owner := by
  cases c <;> rfl

/-- **An accepted call** gives every tag of its type a route of that type, with its handler behind
the others, and leaves the other tags. -/
theorem Registry.route?_call {r : Registry κ ω} {c : Registration κ ω}
    (distinct : (EventFamily.tags c.kind).Nodup) (accepted : (r.call c).1 = .ok ()) (tag : String) :
    (r.call c).2.route? tag =
      if tag ∈ EventFamily.tags c.kind then
        some (c.extend ((r.route? tag).getD { tag := tag, owner := c.kind }))
      else r.route? tag := by
  rw [call_of_free (free_of_accepted accepted), onRoutes,
    route?_foldl_onRoute c.tag_extend distinct, route?_foldl_bindTag]
  by_cases listed : tag ∈ EventFamily.tags c.kind
  · simp only [listed, if_true]
    cases r.route? tag <;> rfl
  · simp [listed]

/-! ## Whom the tags belong to

A handler that goes to a route twice, because its type lists a tag twice, does not change whose
route it is.
-/

namespace Registry

variable {r : Registry κ ω} {c : Registration κ ω} {tag : String} {k : κ}

theorem owner?_onRoute (c : Registration κ ω) (r : Registry κ ω) (tag other : String) :
    (onRoute c.extend r tag).owner? other = r.owner? other := by
  rw [owner?, owner?, route?_onRoute c.tag_extend]
  split
  · rw [Option.map_map]
    exact congrArg (Option.map · _) (funext c.owner_extend)
  · rfl

theorem owner?_onRoutes (c : Registration κ ω) (r : Registry κ ω) (k : κ) (tag : String) :
    (r.onRoutes k c.extend).owner? tag = r.owner? tag := by
  rw [onRoutes]
  induction EventFamily.tags k generalizing r with
  | nil => rfl
  | cons first rest ih => exact (ih _).trans (owner?_onRoute c r first tag)

/-- **An accepted call** makes the tags that its type lists belong to that type, and takes none from
anybody. -/
theorem owner?_call_iff (accepted : (r.call c).1 = .ok ()) :
    (r.call c).2.owner? tag = some k ↔
      r.owner? tag = some k ∨ c.kind = k ∧ tag ∈ EventFamily.tags c.kind := by
  have free := free_of_accepted accepted
  rw [call_of_free free, owner?_onRoutes, owner?, owner?, route?_foldl_bindTag]
  cases found : r.route? tag with
  | none => by_cases listed : tag ∈ EventFamily.tags c.kind <;> simp [listed]
  | some route =>
      -- if the call lists the tag, then its type is the one that the tag belongs to
      refine (or_iff_left_of_imp ?_).symm
      rintro ⟨rfl, listed⟩
      have own := takenBy?_eq_none_iff.mp free tag listed
      exact congrArg some (by simpa [foreign_iff_of_route? found] using own)

/-- **After any calls** a tag belongs to whom it belonged before, or to the type of an accepted call
that lists it. -/
theorem owner?_calls_iff (history : List (Registration κ ω)) :
    (r.calls history).owner? tag = some k ↔
      r.owner? tag = some k ∨
        ∃ c ∈ r.accepted history, c.kind = k ∧ tag ∈ EventFamily.tags c.kind := by
  induction history generalizing r with
  | nil => simp [calls, accepted]
  | cons c rest ih =>
      rw [accepted]
      refine (ih (r := (r.call c).2)).trans ?_
      cases outcome : (r.call c).1 with
      | ok _ => simp only [owner?_call_iff outcome, or_assoc, List.exists_mem_cons_iff]
      | error e => rw [call_unchanged outcome]

/-- Owners stay, whatever is called. -/
theorem owner?_calls (owned : r.owner? tag = some k) (history : List (Registration κ ω)) :
    (r.calls history).owner? tag = some k :=
  (owner?_calls_iff history).mpr (.inl owned)

end Registry

/-! ## What is left of a history -/

namespace Registration

/-- The transactional handler that the call registers for type `k`. -/
def transactionalFor? (k : κ) : Registration κ ω → Option (Handler κ (TransactionalM κ ω))
  | .transactional h => if h.kind = k then some h else none
  | _ => none

/-- The deferred handler that the call registers for type `k`. -/
def deferredFor? (k : κ) : Registration κ ω → Option (Handler κ (DeferredM ω))
  | .deferred h => if h.kind = k then some h else none
  | _ => none

/-- The route of type `k` for a tag, with the handlers that some calls registered for `k`. -/
def routeFor (k : κ) (tag : String) (accepted : List (Registration κ ω)) : Route κ ω where
  tag := tag
  owner := k
  transactional := accepted.filterMap (transactionalFor? k)
  deferred := accepted.filterMap (deferredFor? k)

/-- **The route of a tag after some accepted calls.** It belongs to the type of the first call that
lists the tag. -/
def routeAfter? (accepted : List (Registration κ ω)) (tag : String) : Option (Route κ ω) :=
  (accepted.find? fun c => tag ∈ EventFamily.tags c.kind).map fun c => routeFor c.kind tag accepted

variable {c : Registration κ ω} {k : κ} {accepted : List (Registration κ ω)} {tag : String}

/-- A call about another type brings no handler for `k`. -/
theorem routeFor_concat_ne (other : c.kind ≠ k) (tag : String)
    (accepted : List (Registration κ ω)) :
    routeFor k tag (accepted ++ [c]) = routeFor k tag accepted := by
  have none₁ : c.transactionalFor? k = none := by
    cases c with
    | event | deferred => rfl
    | transactional h => exact if_neg other
  have none₂ : c.deferredFor? k = none := by
    cases c with
    | event | transactional => rfl
    | deferred h => exact if_neg other
  simp [routeFor, none₁, none₂]

/-- The handlers for a type are handlers of the type. -/
theorem kind_of_mem_deferred {h : Handler κ (DeferredM ω)}
    (mem : h ∈ accepted.filterMap (·.deferredFor? k)) : k = h.kind := by
  obtain ⟨c, -, registered⟩ := List.mem_filterMap.mp mem
  cases c with
  | event | transactional => cases registered
  | deferred h' =>
      rw [deferredFor?] at registered
      split at registered
      · next own =>
          cases registered
          exact own.symm
      · cases registered

/-- A call about the type puts its handler behind the others. -/
theorem routeFor_concat_self (c : Registration κ ω) (tag : String)
    (accepted : List (Registration κ ω)) :
    routeFor c.kind tag (accepted ++ [c]) = c.extend (routeFor c.kind tag accepted) := by
  cases c with
  | event k => simp [routeFor, extend, transactionalFor?, deferredFor?]
  | transactional h =>
      simp [routeFor, extend, kind, transactionalFor?, deferredFor?, Route.addTransactional]
  | deferred h => simp [routeFor, extend, kind, transactionalFor?, deferredFor?, Route.addDeferred]

/-- Without calls about the type there are no handlers for it. -/
theorem routeFor_of_forall_ne (others : ∀ c ∈ accepted, c.kind ≠ k) (tag : String) :
    routeFor k tag accepted = { tag := tag, owner := k } := by
  induction accepted using List.reverseRecOn with
  | nil => rfl
  | append_singleton before c ih =>
      rw [routeFor_concat_ne (others c (by simp))]
      exact ih fun c' hc' => others c' (by simp [hc'])

end Registration

/-- **What a registry keeps of a history**: the routes are those that the accepted calls leave, and
all tags of these calls belong to their types. -/
structure Registry.Regular (r : Registry κ ω) (accepted : List (Registration κ ω)) : Prop where
  routes : ∀ tag, r.route? tag = Registration.routeAfter? accepted tag
  owned : ∀ c ∈ accepted, ∀ tag ∈ EventFamily.tags c.kind, r.owner? tag = some c.kind

namespace Registry

variable {r : Registry κ ω} {c : Registration κ ω} {accepted : List (Registration κ ω)}

theorem regular_empty : (empty : Registry κ ω).Regular [] :=
  ⟨fun _ => rfl, fun _ none' => absurd none' List.not_mem_nil⟩

/-- **One more accepted call.** -/
theorem Regular.call (distinct : ∀ k : κ, (EventFamily.tags k).Nodup) (regular : r.Regular accepted)
    (outcome : (r.call c).1 = .ok ()) : (r.call c).2.Regular (accepted ++ [c]) := by
  have own : ∀ tag ∈ EventFamily.tags c.kind, ¬ r.Foreign c.kind tag :=
    takenBy?_eq_none_iff.mp (free_of_accepted outcome)
  refine ⟨?_, ?_⟩
  · intro tag
    rw [route?_call (distinct c.kind) outcome, regular.routes, Registration.routeAfter?,
      Registration.routeAfter?, List.find?_append]
    by_cases listed : tag ∈ EventFamily.tags c.kind
    · rw [if_pos listed]
      cases first : accepted.find? fun c' => tag ∈ EventFamily.tags c'.kind with
      | some c' =>
          -- the tag has a route, which is one of this type
          have found : r.route? tag = some (Registration.routeFor c'.kind tag accepted) := by
            rw [regular.routes, Registration.routeAfter?, first]
            rfl
          have same : c'.kind = c.kind := by
            by_contra other
            exact own tag listed ((foreign_iff_of_route? found).mpr other)
          rw [Option.some_or, Option.map_some, Option.map_some, same]
          exact congrArg some (c.routeFor_concat_self tag accepted).symm
      | none =>
          -- nobody listed the tag, so that nobody was of this type
          have others : ∀ c' ∈ accepted, c'.kind ≠ c.kind := by
            intro c' hc' same
            have unlisted := List.find?_eq_none.mp first c' hc'
            rw [same] at unlisted
            exact unlisted (decide_eq_true listed)
          rw [Option.none_or, List.find?_cons_of_pos (by simpa using listed), Option.map_some,
            c.routeFor_concat_self, Registration.routeFor_of_forall_ne others]
          rfl
    · have last : ([c].find? fun c' => tag ∈ EventFamily.tags c'.kind) = none := by
        simpa using listed
      rw [if_neg listed, last, Option.or_none]
      refine Option.map_congr fun c' found => (Registration.routeFor_concat_ne ?_ tag accepted).symm
      intro same
      have lists : tag ∈ EventFamily.tags c'.kind := by simpa using List.find?_some found
      exact listed (same ▸ lists)
  · intro c' hc' tag listed
    rcases List.mem_append.mp hc' with before | this
    · exact (owner?_call_iff outcome).mpr (.inl (regular.owned c' before tag listed))
    · obtain rfl := List.mem_singleton.mp this
      exact (owner?_call_iff outcome).mpr (.inr ⟨rfl, listed⟩)

/-- **Any calls.** -/
theorem Regular.calls (distinct : ∀ k : κ, (EventFamily.tags k).Nodup)
    (regular : r.Regular accepted) (history : List (Registration κ ω)) :
    (r.calls history).Regular (accepted ++ r.accepted history) := by
  induction history generalizing r accepted with
  | nil =>
      rw [Registry.accepted, List.append_nil]
      exact regular
  | cons c rest ih =>
      rw [Registry.accepted]
      show ((r.call c).2.calls rest).Regular _
      cases outcome : (r.call c).1 with
      | ok _ =>
          have later := ih (regular.call distinct outcome)
          rwa [List.append_assoc] at later
      | error e =>
          have same := call_unchanged outcome
          rw [same]
          exact ih regular

end Registry

/-! ## Events that were decoded -/

/-- A handler of the event's type gets its body. -/
theorem Handler.invoke_of_kind {M : Type → Type} [MonadExcept HandlerError M] {h : Handler κ M}
    {e : RaisedEvent κ} (same : e.kind = h.kind) : h.invoke e = h.handle (same ▸ e.body) := by
  have body : e.bodyAs? h.kind = some (same ▸ e.body) := dif_pos same
  rw [invoke, body]

/-- **Handlers take their turns** at an event, saying what is said: each of them handles the body of
the event, and the next one begins when it has succeeded. The first failure is the result. -/
inductive Handler.TakeTurns (e : RaisedEvent κ) :
    List (Handler κ (DeferredM ω)) → List (Exchange (TxInterface ω)) → Except HandlerError Unit →
      Prop where
  | done : TakeTurns e [] [] (.ok ())
  | next {h : Handler κ (DeferredM ω)} {rest : List (Handler κ (DeferredM ω))}
      {said more : List (Exchange (TxInterface ω))} {result : Except HandlerError Unit}
      (same : e.kind = h.kind) (first : (h.handle (same ▸ e.body)).run.Speaks said (.ok ()))
      (others : TakeTurns e rest more result) : TakeTurns e (h :: rest) (said ++ more) result
  | stops {h : Handler κ (DeferredM ω)} {rest : List (Handler κ (DeferredM ω))}
      {said : List (Exchange (TxInterface ω))} {reason : HandlerError}
      (same : e.kind = h.kind)
      (fails : (h.handle (same ▸ e.body)).run.Speaks said (.error reason)) :
      TakeTurns e (h :: rest) said (.error reason)

section Turns

variable {e : RaisedEvent κ} {handlers : List (Handler κ (DeferredM ω))}
  {said : List (Exchange (TxInterface ω))}

/-- Handlers of the event's type take their turns when they are run one after the other. -/
theorem Handler.speaks_forM_invoke (own : ∀ h ∈ handlers, e.kind = h.kind)
    {result : Except HandlerError Unit} :
    (handlers.forM fun h => h.invoke e : DeferredM ω Unit).run.Speaks said result ↔
      TakeTurns e handlers said result := by
  -- what the first handler says stands in front, and a failure of it is the end
  induction handlers generalizing said with
  | nil =>
      constructor
      · intro speaks
        obtain ⟨rfl, rfl⟩ := speaks.of_pure
        exact .done
      · rintro ⟨⟩
        exact .done _
  | cons h rest ih =>
      have same := own h List.mem_cons_self
      have own' : ∀ h' ∈ rest, e.kind = h'.kind := fun h' hh' => own h' (List.mem_cons_of_mem h hh')
      rw [List.forM_eq_forM, List.forM_cons, Program.speaks_exceptT_bind, invoke_of_kind same]
      constructor
      · rintro (⟨⟨⟩, first, second, rfl, speaks₁, speaks₂⟩ | ⟨reason, rfl, fails⟩)
        · exact .next same speaks₁ ((ih own').mp speaks₂)
        · exact .stops same fails
      · rintro (_ | ⟨_, first, others⟩ | ⟨_, fails⟩)
        · exact .inl ⟨(), _, _, rfl, first, (ih own').mpr others⟩
        · exact .inr ⟨_, rfl, fails⟩

/-- They are counted when all of them have succeeded. -/
theorem Registry.speaks_invokeAll (own : ∀ h ∈ handlers, e.kind = h.kind)
    {result : Except HandlerError Nat} :
    (invokeAll handlers e : DeferredM ω Nat).run.Speaks said result ↔
      (result = .ok handlers.length ∧ Handler.TakeTurns e handlers said (.ok ())) ∨
        ∃ reason, result = .error reason ∧ Handler.TakeTurns e handlers said (.error reason) := by
  rw [invokeAll, Program.speaks_exceptT_bind]
  constructor
  · rintro (⟨⟨⟩, first, second, rfl, turns, counts⟩ | ⟨reason, rfl, fails⟩)
    · obtain ⟨rfl, rfl⟩ := counts.of_pure
      rw [List.append_nil]
      exact .inl ⟨rfl, (Handler.speaks_forM_invoke own).mp turns⟩
    · exact .inr ⟨reason, rfl, (Handler.speaks_forM_invoke own).mp fails⟩
  · rintro (⟨rfl, turns⟩ | ⟨reason, rfl, fails⟩)
    · exact .inl ⟨(), said, [], (List.append_nil said).symm,
        (Handler.speaks_forM_invoke own).mpr turns, .done _⟩
    · exact .inr ⟨reason, rfl, (Handler.speaks_forM_invoke own).mpr fails⟩

end Turns

/-- A decoded event is of the owner's type, and has the tag under which it was stored. -/
theorem Registry.decode_cases {r : Registry κ ω} {now : Timestamp} {tag : String} {payload : Json}
    {e : RaisedEvent κ} (decoded : r.decode now tag payload = .ok e) :
    r.owner? tag = some e.kind ∧ e.tag = tag ∧ EventFamily.tag e.kind e.body = e.tag := by
  rw [decode] at decoded
  split at decoded
  · cases decoded
  · next route found =>
      split at decoded
      · cases decoded
      · next body _ =>
          dsimp only at decoded
          split at decoded
          · next same =>
              cases decoded
              exact ⟨owner?_of_route? found, same, rfl⟩
          · cases decoded

/-- **What holds of a registry after some calls**, of which some were accepted. -/
structure Registry.Lawful (r : Registry κ ω) (accepted : List (Registration κ ω)) : Prop where
  /-- the first tag that belongs to another type is why a call is refused -/
  reason : ∀ c e, (r.call c).1 = .error e ↔ r.Conflict c.kind e
  refused : ∀ c : Registration κ ω, (∃ e, (r.call c).1 = .error e) ↔
    ∃ tag ∈ EventFamily.tags c.kind, r.Foreign c.kind tag
  unchanged : ∀ c e, (r.call c).1 = .error e → (r.call c).2 = r
  /-- a call that is not refused does what the registration says -/
  performed : ∀ c r', (r.call c) = (.ok (), r') ↔ c.perform r = .ok r'
  /-- a tag belongs to the type of the first call that lists it, for ever -/
  owner : ∀ tag, r.owner? tag =
    (accepted.find? fun c => tag ∈ EventFamily.tags c.kind).map (·.kind)
  stays : ∀ tag k, r.owner? tag = some k → ∀ more, (r.calls more).owner? tag = some k
  /-- the handlers of a tag are those that were registered for its owner, in order -/
  handlers : ∀ tag route, r.route? tag = some route →
    route.transactional = accepted.filterMap (·.transactionalFor? route.owner) ∧
      route.deferred = accepted.filterMap (·.deferredFor? route.owner)
  /-- a decoded event meets the handlers of its own type, and each of them takes it -/
  decoded : ∀ now tag payload e, r.decode now tag payload = .ok e →
    r.owner? tag = some e.kind ∧ e.tag = tag ∧ EventFamily.tag e.kind e.body = tag ∧
      r.dispatchDeferred e = invokeAll (accepted.filterMap (·.deferredFor? e.kind)) e ∧
        ∀ h ∈ accepted.filterMap (·.deferredFor? e.kind), ∃ same : e.kind = h.kind,
          h.invoke e = h.handle (same ▸ e.body)
  /-- whatever they are answered, these handlers take their turns at it, and what a dispatch fails
  with is what one of them fails with -/
  turns : ∀ now tag payload e, r.decode now tag payload = .ok e →
    ∀ said : List (Exchange (TxInterface ω)),
      (∀ n, (r.dispatchDeferred e).run.Speaks said (.ok n) ↔
        n = (accepted.filterMap (·.deferredFor? e.kind)).length ∧
          Handler.TakeTurns e (accepted.filterMap (·.deferredFor? e.kind)) said (.ok ())) ∧
      ∀ reason, (r.dispatchDeferred e).run.Speaks said (.error reason) ↔
        Handler.TakeTurns e (accepted.filterMap (·.deferredFor? e.kind)) said (.error reason)

/-- **Every history of registrations leaves a lawful registry**, if no type lists a tag twice. -/
theorem Registry.lawful_calls (distinct : ∀ k : κ, (EventFamily.tags k).Nodup)
    (history : List (Registration κ ω)) :
    ((empty : Registry κ ω).calls history).Lawful ((empty : Registry κ ω).accepted history) := by
  have regular := Regular.calls distinct regular_empty history
  rw [List.nil_append] at regular
  set r := (empty : Registry κ ω).calls history
  set accepted := (empty : Registry κ ω).accepted history
  -- whose route it is, and what is on it
  have routed : ∀ tag route, r.route? tag = some route →
      route = Registration.routeFor route.owner tag accepted := by
    intro tag route found
    rw [regular.routes] at found
    obtain ⟨c, -, rfl⟩ := Option.map_eq_some_iff.mp found
    rfl
  -- a decoded event is dispatched to handlers of its own type
  have dispatched : ∀ now tag payload e, r.decode now tag payload = .ok e →
      r.dispatchDeferred e = invokeAll (accepted.filterMap (·.deferredFor? e.kind)) e := by
    intro now tag payload e decoded
    obtain ⟨owned, named, -⟩ := decode_cases decoded
    obtain ⟨route, found, kind⟩ := Option.map_eq_some_iff.mp owned
    have deferred := congrArg (·.deferred) (routed tag route found)
    rw [dispatchDeferred, named, found]
    dsimp only at deferred ⊢
    rw [deferred, kind]
    rfl
  refine ⟨fun _ _ => call_eq_error_iff, fun _ => exists_call_eq_error_iff,
    fun _ _ => call_unchanged, ?_, ?_, fun _ _ => owner?_calls, ?_, ?_, ?_⟩
  · intro c r'
    rw [call_eq]
    cases c.perform r <;> simp
  · intro tag
    rw [owner?, regular.routes, Registration.routeAfter?, Option.map_map]
    rfl
  · intro tag route found
    have same := routed tag route found
    exact ⟨congrArg (·.transactional) same, congrArg (·.deferred) same⟩
  · intro now tag payload e decoded
    obtain ⟨owned, named, own⟩ := decode_cases decoded
    exact ⟨owned, named, own.trans named, dispatched now tag payload e decoded, fun h hh =>
      ⟨Registration.kind_of_mem_deferred hh,
        Handler.invoke_of_kind (Registration.kind_of_mem_deferred hh)⟩⟩
  · intro now tag payload e decoded said
    rw [dispatched now tag payload e decoded]
    have own : ∀ h ∈ accepted.filterMap (·.deferredFor? e.kind), e.kind = h.kind :=
      fun _ => Registration.kind_of_mem_deferred
    refine ⟨fun n => ?_, fun reason => ?_⟩
    · rw [speaks_invokeAll own]
      simp
    · rw [speaks_invokeAll own]
      simp

/-! ## Gates

Three event types with overlapping tags. The back gate lists a tag of the front gate and is refused,
so that its other tag is left to the side gate.
-/

/-- What is told of gates. -/
inductive Gate where
  | front
  | back
  | side
deriving DecidableEq

instance : EventFamily Gate where
  decEq := inferInstance
  Body _ := Unit
  typeName
    | .front => "Front"
    | .back => "Back"
    | .side => "Side"
  tags
    | .front => ["opened", "closed"]
    | .back => ["shut", "closed", "locked"]
    | .side => ["locked"]
  tag
    | .front, _ => "closed"
    | .back, _ => "shut"
    | .side, _ => "locked"
  occurredAt _ now _ := now
  write _ _ := .ok .null
  read _ _ := .ok ()

namespace Gate

/-- A handler that notes a word. -/
def noting (gate : Gate) (word : String) : Handler Gate (DeferredM String) where
  kind := gate
  handle _ := ExceptT.lift (TxProgram.tell word)

/-- Four calls, the second of which is refused. -/
def history : List (Registration Gate String) :=
  [.deferred (noting .front "first"), .deferred (noting .back "never"),
    .deferred (noting .side "aside"), .deferred (noting .front "second")]

/-- The registry after these calls. -/
def registry : Registry Gate String :=
  Registry.empty.calls history

/-- What is said when a word is told. -/
def told (word : String) : Exchange (TxInterface String) :=
  ⟨.tell word, ()⟩

/-- A handler that notes a word tells it, and succeeds. -/
theorem speaks_noting {gate : Gate} {word : String} {body : EventFamily.Body gate}
    {said : List (Exchange (TxInterface String))} {result : Except HandlerError Unit} :
    ((noting gate word).handle body).run.Speaks said result ↔
      said = [told word] ∧ result = .ok () := by
  constructor
  · intro speaks
    cases speaks with
    | call rest =>
        obtain ⟨rfl, rfl⟩ := rest.of_pure
        exact ⟨rfl, rfl⟩
  · rintro ⟨rfl, rfl⟩
    exact .call (.done _)

/-- Two handlers that note words tell them in turn. -/
theorem takeTurns_noting {e : RaisedEvent Gate} {gate : Gate} (own : e.kind = gate)
    {first second : String} {said : List (Exchange (TxInterface String))}
    {result : Except HandlerError Unit} :
    Handler.TakeTurns e [noting gate first, noting gate second] said result ↔
      said = [told first, told second] ∧ result = .ok () := by
  constructor
  · rintro (_ | ⟨_, handled₁, _ | ⟨_, handled₂, ⟨⟩⟩ | ⟨_, fails⟩⟩ | ⟨_, fails⟩)
    · obtain ⟨rfl, -⟩ := speaks_noting.mp handled₁
      obtain ⟨rfl, -⟩ := speaks_noting.mp handled₂
      exact ⟨rfl, rfl⟩
    · cases (speaks_noting.mp fails).2
    · cases (speaks_noting.mp fails).2
  · rintro ⟨rfl, rfl⟩
    exact .next own (speaks_noting.mpr ⟨rfl, rfl⟩)
      (.next own (speaks_noting.mpr ⟨rfl, rfl⟩) .done)

end Gate

theorem Registry.lawful_calls_gates :
    (∀ gate : Gate, (EventFamily.tags gate).Nodup) ∧
      Gate.registry.Lawful ((empty : Registry Gate String).accepted Gate.history) ∧
      (Gate.registry.call (.event .back)).1 = .error (.duplicateEventType "closed" "Front") ∧
      Gate.registry.owner? "shut" = none ∧ Gate.registry.owner? "locked" = some .side ∧
      ∃ e, Gate.registry.decode default "closed" .null = .ok e ∧ e.kind = .front ∧
        Gate.registry.dispatchDeferred e =
          invokeAll [Gate.noting .front "first", Gate.noting .front "second"] e ∧
        ∀ said result, (Gate.registry.dispatchDeferred e).run.Speaks said result ↔
          said = [Gate.told "first", Gate.told "second"] ∧ result = .ok 2 := by
  have distinct : ∀ gate : Gate, (EventFamily.tags gate).Nodup := by
    intro gate
    cases gate <;> decide
  have lawful : Gate.registry.Lawful ((empty : Registry Gate String).accepted Gate.history) :=
    lawful_calls distinct Gate.history
  -- the event that the front gate's type makes of the tag
  let e := RaisedEvent.raise default Gate.front ()
  have decoded : Gate.registry.decode default "closed" .null = .ok e := rfl
  have own : e.kind = .front := rfl
  have two : ((empty : Registry Gate String).accepted Gate.history).filterMap
      (·.deferredFor? e.kind) = [Gate.noting .front "first", Gate.noting .front "second"] := rfl
  refine ⟨distinct, lawful, rfl, rfl, rfl, e, decoded, own, ?_, fun said result => ?_⟩
  · exact (lawful.decoded default "closed" .null e decoded).2.2.2.1
  · obtain ⟨succeeds, fails⟩ := lawful.turns default "closed" .null e decoded said
    cases result with
    | ok n =>
        rw [succeeds, two, Gate.takeTurns_noting own]
        simp [and_comm]
    | error reason =>
        rw [fails, two, Gate.takeTurns_noting own]
        simp

end MaintenanceOutbox
