import MaintenanceOutbox.Proofs.Delivery.Journal
import MaintenanceOutbox.Proofs.Delivery.Steps

set_option autoImplicit false

/-! # The journal and the tables agree

`View.Tally` is the invariant about messages: the tables agree with the journal about every one of
them. From this the order of the journal follows, since what a worker is handed waits for delivery,
so that it was not delivered before.

The names in the journal matter too. A new message has no failures because nothing was noted about
it yet. That is so because whatever is noted about a message is noted while it is stored, and from
then on no transaction can carry it (`View.Tally.apart`): its name was given to `add` before.
-/

namespace MaintenanceOutbox

namespace View

/-- **The journal and the tables agree**, and the journal has its order. The names given to `add` so
far are `given`. -/
structure Tally (v : View) (journal : List Entry) (given : List MessageId) : Prop where
  agrees : ∀ x, v.store.AgreesAt journal x
  named : ∀ e ∈ journal, e.id ∈ given
  apart : ∀ e ∈ journal, ∀ h tx, v.tx h = some tx → ¬ tx.Carries e.id
  final : journal.Pairwise Entry.Final

variable {v : View} {e : Happening} {noted : List Entry}

/-- A move notes one thing at most, when it is due. -/
theorem Moved.due (moved : v.Moved e noted) :
    noted = [] ∨ ∃ entry, noted = [entry] ∧ entry.Due v.store := by
  -- what a worker holds is claimable
  have waits : ∀ {m : QueuedMessage}, v.store.Holds m →
      ∃ r, v.store.row? m.id = some r ∧ r.message.isPending = true := by
    rintro m ⟨⟨r, found, here⟩, claimable⟩
    exact ⟨r, found, here ▸ QueuedMessage.isPending_of_isClaimable claimable⟩
  cases moved with
  | works k e noted worked =>
      cases worked with
      | quiet => exact Or.inl rfl
      | hands e m _ holds => exact Or.inr ⟨_, rfl, waits holds⟩
      | delivers h tx m handlers now _ _ holds => exact Or.inr ⟨_, rfl, waits holds⟩
      | fails h m outcome updated dead _ _ holds =>
          refine Or.inr ⟨_, rfl, ?_⟩
          cases outcome with
          | retrying n => exact waits holds
          | deadLettered n => exact waits holds
  | requeues id m st done =>
      obtain ⟨d, dead, -⟩ := Store.requeue_cases done
      exact Or.inr ⟨_, rfl, d, dead⟩
  | quiet | produces | refuses | deletes | purges => exact Or.inl rfl

namespace Tally

variable {journal : List Entry} {given : List MessageId}

/-- After a commit the tables agree about every message that was not locked, if what the transaction
brings is new. -/
theorem agrees_commit (inv : v.Sound) (tally : v.Tally journal given) {h : TxHandle} {tx : Tx}
    (opened : v.tx h = some tx) (new : ∀ m ∈ tx.changes.inserted, m.IsNew)
    (dead : ∀ d ∈ tx.changes.deadLettered, d.id ∈ tx.locks) {x : MessageId} (free : x ∉ tx.locks) :
    (tx.commit v.store).AgreesAt journal x := by
  have alive : x ∉ tx.changes.deadLettered.map (·.id) := by
    intro here
    obtain ⟨d, hd, rfl⟩ := List.mem_map.mp here
    exact free (dead d hd)
  by_cases carried : tx.Carries x
  · -- nothing was noted about what is carried
    have unnamed : ∀ e ∈ journal, e.id ≠ x := by
      rintro e he rfl
      exact tally.apart e he h tx opened carried
    have inserted := carried.resolve_right fun buried => alive buried.1
    obtain ⟨m, hm, -, seq, -, found⟩ := Changes.row?_apply_inserted v.store inserted alive
    refine .of_new (r := ⟨seq, m⟩) unnamed found (new m hm) ?_
    exact (Changes.deadLetter?_apply_frame v.store alive).trans (inv.unused h tx opened x carried).2
  · exact (tally.agrees x).of_same (inv.commit_frame opened free carried)

/-- **A delivery that succeeded.** -/
theorem agrees_delivers (inv : v.Sound) (tally : v.Tally journal given) {h : TxHandle} {tx : Tx}
    {m : QueuedMessage} {now : Timestamp} (opened : v.tx h = some tx)
    (delivers : tx.Delivers m none [m.markProcessed now] []) (holds : v.store.Holds m)
    (k handlers : Nat) (x : MessageId) :
    (tx.commit v.store).AgreesAt (journal ++ [.settled k (.processed m.id handlers)]) x := by
  have noDead : x ∉ tx.changes.deadLettered.map (·.id) := by simp [delivers.deadLettered]
  by_cases here : m.id = x
  · subst here
    obtain ⟨⟨r, found, rfl⟩, -⟩ := holds
    have alive : (tx.commit v.store).deadLetter? r.message.id = none := by
      have gone := (inv.tables r.message.id).resolve_left (by simp [found])
      exact (Changes.deadLetter?_apply_frame v.store noDead).trans gone
    -- the row after the commit has the marked message
    have marked : ∀ s, (tx.commit v.store).row? r.message.id = some s →
        s.message = r.message.markProcessed now := by
      intro s hs
      rcases (Changes.row?_apply_cases (hs :)).2 with
        ⟨-, unnamed⟩ | ⟨old, -, m', hm', -, rfl⟩ | ⟨m', hm', name, -⟩
      · refine absurd (Changes.mem_names.mpr (Or.inr (Or.inl ?_))) unnamed
        rw [delivers.updated]
        exact List.mem_singleton.mpr rfl
      · rw [delivers.updated] at hm'
        exact List.mem_singleton.mp hm'
      · have carried : tx.Carries r.message.id := Or.inl (name ▸ List.mem_map_of_mem hm')
        cases (inv.unused h tx opened _ carried).1.symm.trans found
    refine ⟨?_, ?_, ?_⟩
    · intro s hs
      rw [marked s hs, Entry.failures_concat]
      exact (tally.agrees r.message.id).row r found
    · intro d hd
      cases alive.symm.trans hd
    · intro _ _ _
      refine ⟨?_, alive⟩
      intro s hs
      rw [marked s hs]
      rfl
  · have free : x ∉ tx.locks := by
      rw [delivers.locks, List.mem_singleton]
      exact fun same => here same.symm
    have dead : ∀ d ∈ tx.changes.deadLettered, d.id ∈ tx.locks := by simp [delivers.deadLettered]
    exact (agrees_commit inv tally opened delivers.new dead free).note_ne here

/-- **A delivery that failed.** -/
theorem agrees_fails (inv : v.Sound) (tally : v.Tally journal given) {h : TxHandle}
    {m : QueuedMessage} {outcome : RetryOutcome} {updated : List QueuedMessage}
    {dead : List DeadLetter} (opened : v.tx h = some ⟨⟨[], updated, dead⟩, some {}, [m.id]⟩)
    (fails : m.Fails outcome updated dead) (holds : v.store.Holds m) (k : Nat) (x : MessageId) :
    ((⟨⟨[], updated, dead⟩, some {}, [m.id]⟩ : Tx).commit v.store).AgreesAt
      (journal ++ [.settled k (.ofRetry m.id outcome)]) x := by
  by_cases here : m.id = x
  · subst here
    obtain ⟨⟨r, found, rfl⟩, claimable⟩ := holds
    have before := tally.agrees r.message.id
    have pending := QueuedMessage.isPending_of_isClaimable claimable
    have alive := (inv.tables r.message.id).resolve_left (by simp [found])
    obtain ⟨rows, letters⟩ := fails.committed alive
    -- the count of the message and that of the journal go up by one
    have counted : ∀ error, (r.message.afterFailure error).retryCount.toNat =
        Entry.failures r.message.id
          (journal ++ [.settled k (.ofRetry r.message.id outcome)]) := by
      intro error
      calc (r.message.afterFailure error).retryCount.toNat
          = r.message.retryCount.toNat + 1 :=
            toNat_add_one_of_lt (QueuedMessage.isClaimable_iff.mp claimable).2
        _ = Entry.failures r.message.id journal + 1 := by rw [before.row r found]
        _ = _ := (Entry.failures_retry r.message.id journal k outcome).symm
    refine ⟨?_, ?_, ?_⟩
    · intro s hs
      obtain ⟨error, same⟩ := rows s hs
      rw [same, counted error]
    · intro d hd
      obtain ⟨error, same⟩ := letters d hd
      rw [same, counted error]
    · -- a message that was delivered would not have been claimable
      intro e he delivers
      rcases List.mem_append.mp he with old | new
      · exact absurd delivers (before.not_delivered found pending e old)
      · rw [List.mem_singleton.mp new] at delivers
        cases outcome <;> exact delivers.elim
  · have free : x ∉ [m.id] := by
      rw [List.mem_singleton]
      exact fun same => here same.symm
    have locked : ∀ d ∈ dead, d.id ∈ [m.id] := by
      intro d hd
      cases fails with
      | retried error => cases hd
      | deadLettered error now =>
          rw [List.mem_singleton.mp hd]
          exact List.mem_singleton.mpr rfl
    have other : Entry.id (.settled k (.ofRetry m.id outcome)) ≠ x := by
      cases outcome <;> exact here
    have agrees :=
      agrees_commit inv tally opened (fun _ hm => absurd hm List.not_mem_nil) locked free
    exact agrees.note_ne other

/-- A commit of a producer. -/
theorem agrees_produces (inv : v.Sound) (tally : v.Tally journal given) {h : TxHandle} {tx : Tx}
    (opened : v.tx h = some tx) (produces : tx.Produces) (x : MessageId) :
    (tx.commit v.store).AgreesAt journal x := by
  obtain ⟨ms, new, rfl⟩ := produces
  refine agrees_commit inv tally opened new ?_ List.not_mem_nil
  intro d hd
  cases hd

/-- A dead letter that is put back. -/
theorem agrees_requeues (tally : v.Tally journal given) {id : MessageId} {m : QueuedMessage}
    {st : Store} (done : v.store.requeue id = .ok (m, st)) (x : MessageId) :
    st.AgreesAt (journal ++ [.requeued id]) x := by
  obtain ⟨d, dead, -, -, rows, deads⟩ := Store.requeue_cases done
  have before := tally.agrees x
  by_cases here : id = x
  · subst here
    have counted : Entry.failures id (journal ++ [.requeued id]) = 0 := by
      rw [Entry.failures_concat]
      exact if_pos rfl
    refine ⟨?_, ?_, ?_⟩
    · intro r found
      rw [rows, if_pos rfl] at found
      cases found
      rw [counted]
      rfl
    · intro d' found
      rw [deads, if_pos rfl] at found
      cases found
    · intro e he delivers
      rcases List.mem_append.mp he with old | new
      · -- a delivered message is no dead letter
        have alive := (before.delivered e old delivers).2
        cases alive.symm.trans dead
      · rw [List.mem_singleton.mp new] at delivers
        exact delivers.elim
  · refine (before.of_same ?_).note_ne here
    rw [rows, deads, if_neg here, if_neg here]
    exact ⟨rfl, rfl⟩

/-- **Every move** keeps the tables and the journal in agreement. -/
theorem agrees_step (inv : v.Sound) (tally : v.Tally journal given) (moved : v.Moved e noted)
    (x : MessageId) : (v.step e).store.AgreesAt (journal ++ noted) x := by
  have before := tally.agrees x
  have quietly : ∀ {e : Happening}, e.Quiet → (v.step e).store.AgreesAt (journal ++ []) x := by
    intro e quiet
    rw [List.append_nil]
    exact before.of_same (v.tables_of_quiet quiet x)
  cases moved with
  | works k e noted worked =>
      cases worked with
      | quiet e quiet => exact quietly quiet
      | hands e m quiet holds => exact (before.of_same (v.tables_of_quiet quiet x)).note rfl id
      | delivers h tx m handlers now opened delivers holds =>
          rw [View.step, opened]
          exact agrees_delivers inv tally opened delivers holds k handlers x
      | fails h m outcome updated dead opened fails holds =>
          rw [View.step, opened]
          exact agrees_fails inv tally opened fails holds k x
  | quiet e quiet => exact quietly quiet
  | produces h produces =>
      rw [List.append_nil, View.step]
      split
      · exact before
      · next tx opened => exact agrees_produces inv tally opened (produces tx opened) x
  | requeues id m st done =>
      rw [View.step, done]
      exact agrees_requeues tally done x
  | refuses id e refused =>
      rw [List.append_nil, View.step, refused]
      exact before
  | deletes id =>
      rw [List.append_nil, View.step]
      split
      · exact before
      · next done =>
          obtain ⟨-, -, rows, deads⟩ := Store.deleteDeadLetter_cases done
          refine before.of_fewer ?_ ?_
          · intro r found
            rwa [rows] at found
          · intro d found
            rw [deads] at found
            split at found
            · cases found
            · exact found
  | purges cutoff =>
      rw [List.append_nil]
      refine before.of_fewer ?_ (fun _ found => found)
      intro r found
      have kept : (v.store.purge cutoff).2.row? x = some r := found
      rw [Store.row?_purge inv.tidy] at kept
      exact (Option.filter_eq_some_iff.mp kept).1

/-- **The invariant holds on**, if no name is added that was given before and everything stored was
given. -/
theorem step (inv : v.Sound) (tally : v.Tally journal given) (moved : v.Moved e noted)
    {more : List MessageId} (stored : ∀ x, ¬ v.store.Unused x → x ∈ given) (grown : given ⊆ more)
    (fresh : ∀ m, e.added? = some m → m.id ∉ given) :
    (v.step e).Tally (journal ++ noted) more := by
  -- what is noted now is noted of something stored: it was given, and nobody carries it
  have named : ∀ entry ∈ journal ++ noted, entry.id ∈ given ∧
      ∀ h tx, v.tx h = some tx → ¬ tx.Carries entry.id := by
    intro entry here
    rcases List.mem_append.mp here with old | new
    · exact ⟨tally.named entry old, tally.apart entry old⟩
    · rcases moved.due with rfl | ⟨one, rfl, due⟩
      · cases new
      · rw [List.mem_singleton.mp new]
        refine ⟨stored _ due.stored, ?_⟩
        intro h tx opened carried
        exact due.stored (inv.unused h tx opened _ carried)
  refine ⟨agrees_step inv tally moved, ?_, ?_, ?_⟩
  · intro entry here
    exact grown (named entry here).1
  · intro entry here h tx opened carried
    rcases inv.carries_step opened carried with ⟨ux, before, old⟩ | ⟨m, added, name⟩
    · exact (named entry here).2 h ux before old
    · exact fresh m added (name ▸ (named entry here).1)
  · rcases moved.due with rfl | ⟨one, rfl, due⟩
    · rw [List.append_nil]
      exact tally.final
    · refine List.pairwise_append.mpr ⟨tally.final, List.pairwise_singleton _ _, ?_⟩
      intro earlier he later hl x delivers
      rw [List.mem_singleton.mp hl]
      -- the message of the new entry waits, so that it was not delivered
      have waits : ∀ r, v.store.row? x = some r → r.message.isPending = true → False :=
        fun r found pending => (tally.agrees x).not_delivered found pending earlier he delivers
      constructor
      · intro again
        cases one with
        | settled k outcome =>
            obtain ⟨r, found, pending⟩ := due
            rw [show outcome.id = x from again.id_eq] at found
            exact waits r found pending
        | handed k id => exact again
        | requeued id => exact again
      · rintro k rfl
        obtain ⟨r, found, pending⟩ := due
        exact waits r found pending

end Tally

end View

end MaintenanceOutbox
