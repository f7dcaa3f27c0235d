import MaintenanceOutbox.Proofs.Delivery.Accounting
import Mathlib.Data.List.Induction

set_option autoImplicit false

/-! # What a worker has in hand

What a worker says next depends on what it has in hand (`Custody`): no transaction, with or without
leave to begin one, or a transaction, with or without a message. `Custody.Goes` is the protocol,
with one rule for each way in which something is said and answered. Leave is given by a look at the
stop signal that finds it not given, and is used up by whatever comes next; a message is claimed
right after the transaction is begun; and a transaction is committed right after the mark or the
count of its message is confirmed, or else rolled back.

All programs of a worker keep to the protocol, whatever they are answered (`Worker.follows_turn`),
so that what is true of every dialogue in which the protocol is kept is true of every worker.
-/

namespace MaintenanceOutbox

variable {ω : Type}

/-! ## What is said -/

/-- What a program said so far, and what it was answered. -/
abbrev Dialogue (ω : Type) :=
  List (Exchange (OutboxInterface ω))

namespace Exchange

/-- A look at the stop signal, and what was found. -/
abbrev look (stop : Bool) : Exchange (OutboxInterface ω) :=
  ⟨.stopRequested, stop⟩

/-- A state that was published. -/
abbrev entered (state : WorkerState) : Exchange (OutboxInterface ω) :=
  ⟨.enter state, ()⟩

/-- A transaction that was begun. -/
abbrev began (i : StoreId) (tx : TxHandle) : Exchange (OutboxInterface ω) :=
  ⟨.beginTx i, (.ok tx : Except StoreError TxHandle)⟩

/-- A claim, and what was answered. -/
abbrev claimed (i : StoreId) (tx : TxHandle) (reply : Except StoreError (Option QueuedMessage)) :
    Exchange (OutboxInterface ω) :=
  ⟨.inside tx (.request i .claimNext), reply⟩

/-- A mark that was confirmed. -/
abbrev marked (i : StoreId) (tx : TxHandle) (id : MessageId) : Exchange (OutboxInterface ω) :=
  ⟨.inside tx (.request i (.markProcessed id)), (.ok () : Except StoreError Unit)⟩

/-- A failure that was counted. -/
abbrev counted (i : StoreId) (tx : TxHandle) (id : MessageId) (reason : String)
    (outcome : RetryOutcome) : Exchange (OutboxInterface ω) :=
  ⟨.inside tx (.request i (.incrementRetry id reason)),
    (.ok outcome : Except StoreError RetryOutcome)⟩

/-- A commit that was confirmed. -/
abbrev committed (i : StoreId) (tx : TxHandle) : Exchange (OutboxInterface ω) :=
  ⟨.commit i tx, (.ok () : Except StoreError Unit)⟩

/-- A rollback that was confirmed. -/
abbrev rolledBack (i : StoreId) (tx : TxHandle) : Exchange (OutboxInterface ω) :=
  ⟨.rollback i tx, (.ok () : Except StoreError Unit)⟩

/-- Is it a commit, confirmed or not? -/
def isCommit (e : Exchange (OutboxInterface ω)) : Bool :=
  match e.op with
  | .commit _ _ => true
  | _ => false

/-- If it is the end of a transaction, it is confirmed. -/
def Confirmed : Exchange (OutboxInterface ω) → Prop
  | ⟨op, reply⟩ =>
    match op, reply with
    | .commit _ _, reply => reply = (.ok () : Except StoreError Unit)
    | .rollback _ _, reply => reply = (.ok () : Except StoreError Unit)
    | _, _ => True

end Exchange

/-! ## The protocol -/

/-- What a worker has in hand. -/
inductive Custody where
  /-- no transaction; was the last thing said a look that found the stop signal not given? -/
  | idle (admitted : Bool)
  /-- about to begin a transaction -/
  | entering
  /-- a transaction in which nothing was said yet -/
  | opened (tx : TxHandle)
  /-- a transaction after the claim, with the message that was claimed in it; was the last thing
  said the mark or the count of that message? -/
  | working (tx : TxHandle) (m? : Option QueuedMessage) (noted : Bool)

namespace Custody

/-- The transaction at hand. -/
def tx? : Custody → Option TxHandle
  | .idle _ | .entering => none
  | .opened tx | .working tx _ _ => some tx

/-- **The protocol** of a worker on store `i`. -/
inductive Goes (i : StoreId) : Custody → Exchange (OutboxInterface ω) → Custody → Prop where
  | warned (a : Bool) : Goes i (.idle a) (.look true) (.idle false)
  | admitted (a : Bool) : Goes i (.idle a) (.look false) (.idle true)
  | published (a : Bool) (state : WorkerState) : Goes i (.idle a) (.entered state) (.idle false)
  | enters : Goes i (.idle true) (.entered .claiming) .entering
  | begins (tx : TxHandle) : Goes i .entering (.began i tx) (.opened tx)
  | refused (e : StoreError) :
      Goes i .entering ⟨.beginTx i, (.error e : Except StoreError TxHandle)⟩ (.idle false)
  | claims (tx : TxHandle) (m : QueuedMessage) :
      Goes i (.opened tx) (.claimed i tx (.ok (some m))) (.working tx (some m) false)
  | misses (tx : TxHandle) (reply : Except StoreError (Option QueuedMessage))
      (nothing : ∀ m, reply ≠ .ok (some m)) :
      Goes i (.opened tx) (.claimed i tx reply) (.working tx none false)
  | inside (tx : TxHandle) (m? : Option QueuedMessage) (noted : Bool) (op : TxOp ω)
      (reply : op.Reply) :
      Goes i (.working tx m? noted) ⟨.inside tx op, reply⟩ (.working tx m? false)
  | tells (tx : TxHandle) (m? : Option QueuedMessage) (noted : Bool) (state : WorkerState) :
      Goes i (.working tx m? noted) (.entered state) (.working tx m? false)
  | marks (tx : TxHandle) (m : QueuedMessage) (noted : Bool) :
      Goes i (.working tx (some m) noted) (.marked i tx m.id) (.working tx (some m) true)
  | counts (tx : TxHandle) (m : QueuedMessage) (noted : Bool) (reason : String)
      (outcome : RetryOutcome) :
      Goes i (.working tx (some m) noted) (.counted i tx m.id reason outcome)
        (.working tx (some m) true)
  | commits (tx : TxHandle) (m : QueuedMessage) (reply : Except StoreError Unit) :
      Goes i (.working tx (some m) true) ⟨.commit i tx, reply⟩ (.idle false)
  | rollsBack (tx : TxHandle) (m? : Option QueuedMessage) (noted : Bool)
      (reply : Except StoreError Unit) :
      Goes i (.working tx m? noted) ⟨.rollback i tx, reply⟩ (.idle false)

end Custody

/-! ## Dialogues in which it is kept -/

namespace Custody

variable {i : StoreId} {u v v' : Custody} {e : Exchange (OutboxInterface ω)}
  {said more : Dialogue ω}

/-- The protocol is kept in a dialogue, from what is in hand before it to what is in hand after
it. -/
def Path (i : StoreId) (v : Custody) : Dialogue ω → Custody → Prop
  | [], u => u = v
  | e :: said, u => ∃ v', Goes i v e v' ∧ Path i v' said u

theorem path_append_iff :
    Path i v (said ++ more) u ↔ ∃ v', Path i v said v' ∧ Path i v' more u := by
  induction said generalizing v with
  | nil => simp [Path]
  | cons e said ih => simp only [List.cons_append, Path, ih]; grind

theorem path_concat_iff : Path i v (said ++ [e]) u ↔ ∃ v', Path i v said v' ∧ Goes i v' e u := by
  simp [path_append_iff, Path]

/-- What is in hand comes from the last thing that was said, unless it is nothing. -/
theorem Path.last (path : Path i (.idle false) said v) (busy : v ≠ .idle false) :
    ∃ before e u, said = before ++ [e] ∧ Path i (.idle false) before u ∧ Goes i u e v := by
  rcases List.eq_nil_or_concat said with rfl | ⟨before, e, rfl⟩
  · exact absurd path busy
  · rw [List.concat_eq_append] at path ⊢
    obtain ⟨u, path', goes⟩ := path_concat_iff.mp path
    exact ⟨before, e, u, rfl, path', goes⟩

theorem Path.of_admitted (path : Path i (.idle false) said (.idle true)) :
    ∃ before, said = before ++ [.look false] := by
  obtain ⟨before, e, u, rfl, -, goes⟩ := path.last (by simp)
  cases goes
  exact ⟨before, rfl⟩

theorem Path.of_entering (path : Path i (.idle false) said .entering) :
    ∃ before, said = before ++ [.look false, .entered .claiming] := by
  obtain ⟨_, e, u, rfl, path', goes⟩ := path.last (by simp)
  cases goes
  obtain ⟨before, rfl⟩ := path'.of_admitted
  exact ⟨before, by simp⟩

/-- **A transaction is begun right after a look at the signal** that found it not given. -/
theorem Path.of_began {before after : Dialogue ω} {j : StoreId}
    {tx : TxHandle} (path : Path i (.idle false) (before ++ .began j tx :: after) v) :
    ∃ past, before = past ++ [.look false, .entered .claiming] := by
  obtain ⟨u, path', u', goes, -⟩ := path_append_iff.mp path
  cases goes
  exact path'.of_entering

/-! ### How a claimed message ends -/

/-- **What was said since the claim of a message** includes the end of its transaction: a commit
right after the mark or the count of the message, or a rollback. -/
inductive Concluded (i : StoreId) (tx : TxHandle) (m : QueuedMessage) :
    Dialogue ω → Prop where
  | processed (before after : Dialogue ω) :
      Concluded i tx m (before ++ [.marked i tx m.id, .committed i tx] ++ after)
  | counted (before after : Dialogue ω) (reason : String)
      (outcome : RetryOutcome) :
      Concluded i tx m
        (before ++ [.counted i tx m.id reason outcome, .committed i tx] ++ after)
  | rolledBack (before after : Dialogue ω) :
      Concluded i tx m (before ++ [.rolledBack i tx] ++ after)

variable {tx : TxHandle} {m : QueuedMessage}

theorem Concluded.append (concluded : Concluded i tx m said)
    (more : Dialogue ω) : Concluded i tx m (said ++ more) := by
  cases concluded with
  | processed before after =>
      rw [List.append_assoc]
      exact .processed before (after ++ more)
  | counted before after reason outcome =>
      rw [List.append_assoc]
      exact .counted before (after ++ more) reason outcome
  | rolledBack before after =>
      rw [List.append_assoc]
      exact .rolledBack before (after ++ more)

/-- The last thing that was said since the claim is the mark or the count of the message. -/
def Noted (i : StoreId) (tx : TxHandle) (m : QueuedMessage)
    (said : Dialogue ω) : Prop :=
  ∃ before, said = before ++ [.marked i tx m.id] ∨
    ∃ reason outcome, said = before ++ [.counted i tx m.id reason outcome]

theorem Noted.commit (noted : Noted i tx m said) :
    Concluded i tx m (said ++ [.committed i tx]) := by
  obtain ⟨before, rfl | ⟨reason, outcome, rfl⟩⟩ := noted
  · simpa using Concluded.processed before []
  · simpa using Concluded.counted before [] reason outcome

/-- **A claimed message is still at hand, or its transaction has ended.** By induction on what was
said since the claim. -/
theorem Path.concluded {before after : Dialogue ω}
    (path : Path i (.idle false)
      (before ++ [.began i tx, .claimed i tx (.ok (some m))] ++ after) v)
    (confirmed : ∀ e ∈ after, e.Confirmed) :
    Concluded i tx m after ∨
      ∃ noted, v = .working tx (some m) noted ∧ (noted = true → Noted i tx m after) := by
  induction after using List.reverseRecOn generalizing v with
  | nil =>
      rw [List.append_nil] at path
      obtain ⟨u, -, u₁, begins, u₂, claims, rfl⟩ := path_append_iff.mp path
      cases begins
      cases claims with
      | claims => exact Or.inr ⟨false, rfl, Bool.noConfusion⟩
      | misses _ _ nothing => exact absurd rfl (nothing m)
  | append_singleton after e ih =>
      rw [← List.append_assoc] at path
      obtain ⟨u, path', goes⟩ := path_concat_iff.mp path
      rcases ih path' fun e he => confirmed e (List.mem_append_left _ he) with
        concluded | ⟨noted, rfl, note⟩
      · exact Or.inl (concluded.append [e])
      · have sure := confirmed e (List.mem_append_right _ (List.mem_singleton.mpr rfl))
        cases goes with
        | inside | tells => exact Or.inr ⟨false, rfl, Bool.noConfusion⟩
        | marks => exact Or.inr ⟨true, rfl, fun _ => ⟨after, Or.inl rfl⟩⟩
        | counts _ _ _ reason outcome =>
            exact Or.inr ⟨true, rfl, fun _ => ⟨after, Or.inr ⟨reason, outcome, rfl⟩⟩⟩
        | commits =>
            cases sure
            exact Or.inl (note rfl).commit
        | rollsBack =>
            cases sure
            have ended : Concluded i tx m (after ++ [.rolledBack i tx] ++ []) :=
              .rolledBack after []
            rw [List.append_nil] at ended
            exact Or.inl ended

/-! ### How much can still be committed -/

/-- The commits that can follow without another look at the stop signal. -/
def ahead : Custody → Nat
  | .idle false => 0
  | _ => 1

theorem Goes.commit_le (goes : Goes i v e v') (other : e ≠ .look false) :
    [e].countP Exchange.isCommit + v'.ahead ≤ v.ahead := by
  cases goes with
  | admitted => exact absurd rfl other
  | warned | published | refused | rollsBack => exact Nat.zero_le _
  | enters | begins | claims | misses | inside | tells | marks | counts | commits =>
      exact Nat.le_refl 1

/-- **Without another look, at most one message is settled.** -/
theorem Path.commits_le (path : Path i v said u) (other : ∀ e ∈ said, e ≠ .look false) :
    said.countP Exchange.isCommit + u.ahead ≤ v.ahead := by
  induction said generalizing v with
  | nil =>
      cases path
      exact Nat.le_of_eq (Nat.zero_add _)
  | cons e said ih =>
      obtain ⟨v', goes, rest⟩ := path
      have one := goes.commit_le (other e List.mem_cons_self)
      have all := ih rest fun e he => other e (List.mem_cons_of_mem _ he)
      rw [← List.singleton_append, List.countP_append]
      omega

end Custody

/-! ## Programs that keep to the protocol -/

variable {α β : Type}

/-- **Whatever is answered,** the program keeps to the protocol, and in the end `Q` holds of its
result and of what is in hand. -/
def OutboxProgram.Follows (i : StoreId) (Q : α → Custody → Prop) :
    OutboxProgram ω α → Custody → Prop
  | .done a, v => Q a v
  | .call op next, v => ∀ reply, ∃ v', Custody.Goes i v ⟨op, reply⟩ v' ∧ Follows i Q (next reply) v'

namespace OutboxProgram.Follows

variable {i : StoreId} {Q : α → Custody → Prop} {v : Custody}

theorem mono {p : OutboxProgram ω α} {Q' : α → Custody → Prop} (follows : p.Follows i Q v)
    (weaker : ∀ a v', Q a v' → Q' a v') : p.Follows i Q' v := by
  induction p generalizing v with
  | done a => exact weaker a v follows
  | call op next ih =>
      intro reply
      obtain ⟨v', goes, rest⟩ := follows reply
      exact ⟨v', goes, ih reply rest⟩

theorem bind {p : OutboxProgram ω α} {f : α → OutboxProgram ω β} {Q : β → Custody → Prop}
    (first : p.Follows i (fun a v' => (f a).Follows i Q v') v) : (p >>= f).Follows i Q v := by
  induction p generalizing v with
  | done a => exact first
  | call op next ih =>
      intro reply
      obtain ⟨v', goes, rest⟩ := first reply
      exact ⟨v', goes, ih reply rest⟩

/-- One operation, and what comes after it. -/
theorem perform {op : OutboxOp ω} {f : op.Reply → OutboxProgram ω α}
    (each : ∀ reply, ∃ v', Custody.Goes i v ⟨op, reply⟩ v' ∧ (f reply).Follows i Q v') :
    OutboxProgram.Follows i Q (Program.perform (I := OutboxInterface ω) op >>= f) v :=
  each

/-- Code in the transaction at hand may say anything. -/
theorem within {tx : TxHandle} {m? : Option QueuedMessage} {noted : Bool} {p : TxProgram ω α}
    (each : ∀ a noted', Q a (.working tx m? noted')) :
    (OutboxProgram.within tx p).Follows i Q (.working tx m? noted) := by
  induction p generalizing noted with
  | done a => exact each a noted
  | call op next ih => exact fun reply => ⟨_, .inside tx m? noted op reply, ih reply⟩

end OutboxProgram.Follows

namespace Worker

open OutboxProgram

variable {κ : Type} [EventFamily κ] (w : Worker κ ω) (tx : TxHandle) (m : QueuedMessage)
  {m? : Option QueuedMessage} {noted : Bool}

/-- In the end there is no transaction at hand. -/
def LetsGo (_ : Result) (v : Custody) : Prop :=
  v = .idle false

theorem follows_abort (e : StoreError) :
    (w.abort tx e).Follows w.store LetsGo (.working tx m? noted) :=
  .perform fun _ => ⟨_, .tells tx m? noted .failed,
    .perform fun reply => ⟨_, .rollsBack tx m? false reply, rfl⟩⟩

theorem follows_giveBack (e : HandlerError) :
    (w.giveBack tx e).Follows w.store LetsGo (.working tx m? noted) :=
  .perform fun _ => ⟨_, .tells tx m? noted .failed,
    .perform fun reply => ⟨_, .rollsBack tx m? false reply, rfl⟩⟩

theorem follows_nothingToDo :
    (w.nothingToDo tx).Follows w.store LetsGo (.working tx m? noted) := by
  refine .perform fun _ => ⟨_, .tells tx m? noted .idle, ?_⟩
  refine .perform fun reply => ⟨_, .rollsBack tx m? false reply, ?_⟩
  cases reply <;> rfl

theorem follows_commitSuccess (outcome : MessageOutcome) :
    (w.commitSuccess tx outcome).Follows w.store LetsGo (.working tx (some m) true) := by
  refine .perform fun reply => ⟨_, .commits tx m reply, ?_⟩
  cases reply with
  | error e => rfl
  | ok _ => exact .perform fun _ => ⟨_, .published false .succeeded, rfl⟩

theorem follows_commitFailure (outcome : MessageOutcome) :
    (w.commitFailure tx outcome).Follows w.store LetsGo (.working tx (some m) true) := by
  refine .perform fun reply => ⟨_, .commits tx m reply, ?_⟩
  cases reply <;> rfl

theorem follows_mark (handlers : Nat) :
    (w.mark tx m handlers).Follows w.store LetsGo (.working tx (some m) noted) := by
  refine .perform fun reply => ?_
  cases reply with
  | error e => exact ⟨_, .inside tx (some m) noted _ _, w.follows_abort tx e⟩
  | ok _ => exact ⟨_, .marks tx m noted, w.follows_commitSuccess tx m _⟩

theorem follows_succeed (handlers : Nat) :
    (w.succeed tx m handlers).Follows w.store LetsGo (.working tx (some m) noted) := by
  refine .perform fun reply => ⟨_, .inside tx _ noted (.request _ .releaseSavepoint) reply, ?_⟩
  cases reply with
  | error e => exact w.follows_abort tx e
  | ok _ => exact w.follows_mark tx m handlers

theorem follows_countFailure (reason : String) :
    (w.countFailure tx m reason).Follows w.store LetsGo (.working tx (some m) noted) := by
  refine .perform fun reply => ?_
  cases reply with
  | error e => exact ⟨_, .inside tx (some m) noted _ _, w.follows_abort tx e⟩
  | ok outcome => exact ⟨_, .counts tx m noted reason outcome, w.follows_commitFailure tx m _⟩

theorem follows_fail (e : HandlerError) :
    (w.fail tx m e).Follows w.store LetsGo (.working tx (some m) noted) := by
  refine .perform fun _ => ⟨_, .tells tx (some m) noted .failed, ?_⟩
  refine .perform fun reply => ⟨_, .inside tx _ false (.request _ .rollbackToSavepoint) reply, ?_⟩
  cases reply with
  | error e => exact w.follows_abort tx e
  | ok _ => exact w.follows_countFailure tx m e.message

theorem follows_settle (result : Except HandlerError Nat) :
    (w.settle tx m result).Follows w.store LetsGo (.working tx (some m) noted) := by
  cases result with
  | ok handlers => exact w.follows_succeed tx m handlers
  | error e =>
      rw [settle]
      split
      · exact w.follows_giveBack tx e
      · exact w.follows_fail tx m e

theorem follows_guard :
    (w.guard tx m).Follows w.store LetsGo (.working tx (some m) noted) := by
  refine .perform fun _ => ⟨_, .tells tx (some m) noted .dispatching, ?_⟩
  refine .perform fun reply => ⟨_, .inside tx _ false (.request _ .savepoint) reply, ?_⟩
  cases reply with
  | error e => exact w.follows_abort tx e
  | ok _ => exact .bind <| .within fun result noted' => w.follows_settle tx m result

theorem follows_claim : (w.claim tx).Follows w.store LetsGo (.opened tx) := by
  refine .perform fun reply => ?_
  rcases reply with e | (_ | m)
  · exact ⟨_, .misses tx (.error e) (by simp), w.follows_abort tx e⟩
  · exact ⟨_, .misses tx (.ok none) (by simp), w.follows_nothingToDo tx⟩
  · exact ⟨_, .claims tx m, w.follows_guard tx m⟩

/-- **One delivery,** for which leave was given. -/
theorem follows_processNext : w.processNext.Follows w.store LetsGo (.idle true) := by
  refine .perform fun _ => ⟨_, .enters, ?_⟩
  refine .perform fun reply => ?_
  cases reply with
  | error e => exact ⟨_, .refused e, rfl⟩
  | ok tx => exact ⟨_, .begins tx, w.follows_claim tx⟩

/-- There is no transaction at hand. -/
def Idles {γ : Type} (_ : γ) (v : Custody) : Prop :=
  ∃ a, v = .idle a

theorem follows_deliverUpTo (left : Nat) (report : BatchReport) (a : Bool) :
    (w.deliverUpTo true left report).Follows w.store Idles (.idle a) := by
  induction left generalizing report a with
  | zero => exact ⟨a, rfl⟩
  | succ left ih =>
      refine .perform fun stop => ?_
      cases stop with
      | true => exact ⟨_, .warned a, false, rfl⟩
      | false =>
          refine ⟨_, .admitted a, .bind <| w.follows_processNext.mono ?_⟩
          rintro result v rfl
          match result with
          | .error e => exact ⟨false, rfl⟩
          | .ok none => exact ⟨false, rfl⟩
          | .ok (some outcome) => exact ih _ false

theorem follows_leave (a : Bool) : (leave (ω := ω)).Follows w.store Idles (.idle a) :=
  .perform fun _ => ⟨_, .published a .stopped, false, rfl⟩

/-- **One turn of the run loop.** -/
theorem follows_turn (stats : WorkerStats) (a : Bool) :
    (w.turn stats).Follows w.store Idles (.idle a) := by
  refine .perform fun stop => ?_
  cases stop with
  | true => exact ⟨_, .warned a, .bind <| w.follows_leave false⟩
  | false => exact ⟨_, .admitted a, .bind <| w.follows_deliverUpTo _ _ true⟩

theorem follows_wake (why : Wake) (a : Bool) :
    (wake (ω := ω) why).Follows w.store Idles (.idle a) := by
  cases why with
  | elapsed | signalled => exact ⟨a, rfl⟩
  | abandoned => exact w.follows_leave a

end Worker

end MaintenanceOutbox
