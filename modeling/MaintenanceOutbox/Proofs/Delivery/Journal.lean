import MaintenanceOutbox.Proofs.Delivery.Courses

set_option autoImplicit false

/-! # What the journal says about a message

`Entry.Final` is the order that the journal of a fleet is to have: a message that was delivered is
not handed out again and not delivered again. `Store.AgreesAt` relates the journal to the tables,
for one message: its retry count is the number of its failures, and after its delivery it is neither
waiting nor a dead letter.
-/

namespace MaintenanceOutbox

namespace Entry

/-- Is it the delivery of the message? -/
def Delivers (x : MessageId) : Entry → Prop
  | .settled _ (.processed id _) => id = x
  | _ => False

/-- **Delivery is final**: after `a`, a message that `a` delivers is not handed out or delivered by
`b`. -/
def Final (a b : Entry) : Prop :=
  ∀ x, a.Delivers x → ¬ b.Delivers x ∧ ∀ k, b ≠ .handed k x

/-- What the tables say when the entry is noted: the message waits for delivery, or it is a dead
letter that is put back. -/
def Due (st : Store) : Entry → Prop
  | .handed _ id => ∃ r, st.row? id = some r ∧ r.message.isPending = true
  | .settled _ outcome => ∃ r, st.row? outcome.id = some r ∧ r.message.isPending = true
  | .requeued id => ∃ d, st.deadLetter? id = some d

variable {x : MessageId} {e : Entry} {journal : List Entry}

theorem Delivers.id_eq (h : e.Delivers x) : e.id = x := by
  unfold Delivers at h
  split at h
  · exact h
  · exact h.elim

/-- A message is counted by entries about it only. -/
theorem count_of_ne (h : e.id ≠ x) (failures : Nat) : count x failures e = failures := by
  unfold count
  split
  · exact if_neg h
  · exact if_neg h
  · exact if_neg h
  · rfl

@[simp] theorem failures_concat (x : MessageId) (journal : List Entry) (e : Entry) :
    failures x (journal ++ [e]) = count x (failures x journal) e := by
  simp [failures]

/-- A message that is in no entry has no failures. -/
theorem failures_of_unnamed (h : ∀ e ∈ journal, e.id ≠ x) : failures x journal = 0 := by
  induction journal using List.reverseRecOn with
  | nil => rfl
  | append_singleton before e ih =>
      have last : e.id ≠ x := h e (by simp)
      have earlier : failures x before = 0 := ih fun e' he' => h e' (by simp [he'])
      rw [failures_concat, count_of_ne last, earlier]

/-- A failed delivery is one more failure. -/
theorem failures_retry (x : MessageId) (journal : List Entry) (k : Nat) (outcome : RetryOutcome) :
    failures x (journal ++ [.settled k (.ofRetry x outcome)]) = failures x journal + 1 := by
  rw [failures_concat]
  cases outcome <;> exact if_pos rfl

/-- What is noted is noted of something stored. -/
theorem Due.stored {st : Store} (h : e.Due st) : ¬ st.Unused e.id := by
  rintro ⟨noRow, noDead⟩
  cases e with
  | handed k id =>
      obtain ⟨r, found, -⟩ := h
      cases noRow.symm.trans found
  | settled k outcome =>
      obtain ⟨r, found, -⟩ := h
      cases noRow.symm.trans found
  | requeued id =>
      obtain ⟨d, dead⟩ := h
      cases noDead.symm.trans dead

end Entry

/-! ## One message -/

/-- **What the tables say about a message agrees with the journal.** -/
structure Store.AgreesAt (st : Store) (journal : List Entry) (x : MessageId) : Prop where
  row : ∀ r, st.row? x = some r → r.message.retryCount.toNat = Entry.failures x journal
  deadLetter : ∀ d, st.deadLetter? x = some d →
    d.message.retryCount.toNat = Entry.failures x journal
  delivered : ∀ e ∈ journal, e.Delivers x →
    (∀ r, st.row? x = some r → r.message.isPending = false) ∧ st.deadLetter? x = none

namespace Store.AgreesAt

variable {st st' : Store} {journal : List Entry} {x : MessageId}

/-- Tables that say less agree as well. -/
theorem of_fewer (agrees : st.AgreesAt journal x)
    (rows : ∀ r, st'.row? x = some r → st.row? x = some r)
    (dead : ∀ d, st'.deadLetter? x = some d → st.deadLetter? x = some d) :
    st'.AgreesAt journal x := by
  refine ⟨?_, ?_, ?_⟩
  · intro r found
    exact agrees.row r (rows r found)
  · intro d found
    exact agrees.deadLetter d (dead d found)
  · intro e he delivers
    obtain ⟨waiting, alive⟩ := agrees.delivered e he delivers
    refine ⟨fun r found => waiting r (rows r found), ?_⟩
    cases found : st'.deadLetter? x with
    | none => rfl
    | some d => cases alive.symm.trans (dead d found)

theorem of_same (agrees : st.AgreesAt journal x)
    (same : st'.row? x = st.row? x ∧ st'.deadLetter? x = st.deadLetter? x) :
    st'.AgreesAt journal x :=
  agrees.of_fewer (fun _ found => same.1 ▸ found) (fun _ found => same.2 ▸ found)

/-- An entry that does not count the message and does not deliver it can be noted. -/
theorem note (agrees : st.AgreesAt journal x) {e : Entry}
    (silent : Entry.count x (Entry.failures x journal) e = Entry.failures x journal)
    (other : ¬ e.Delivers x) : st.AgreesAt (journal ++ [e]) x := by
  have same : Entry.failures x (journal ++ [e]) = Entry.failures x journal := by
    rw [Entry.failures_concat, silent]
  refine ⟨?_, ?_, ?_⟩
  · intro r found
    rw [same]
    exact agrees.row r found
  · intro d found
    rw [same]
    exact agrees.deadLetter d found
  · intro e' he' delivers
    rcases List.mem_append.mp he' with old | new
    · exact agrees.delivered e' old delivers
    · rw [List.mem_singleton.mp new] at delivers
      exact absurd delivers other

/-- An entry about another message can be noted. -/
theorem note_ne (agrees : st.AgreesAt journal x) {e : Entry} (other : e.id ≠ x) :
    st.AgreesAt (journal ++ [e]) x :=
  agrees.note (Entry.count_of_ne other _) fun delivers => other delivers.id_eq

/-- A message that waits for delivery was not delivered. -/
theorem not_delivered (agrees : st.AgreesAt journal x) {r : Row} (found : st.row? x = some r)
    (pending : r.message.isPending = true) : ∀ e ∈ journal, ¬ e.Delivers x := by
  intro e he delivers
  have settled := (agrees.delivered e he delivers).1 r found
  rw [pending] at settled
  cases settled

/-- A new message agrees with a journal that does not name it. -/
theorem of_new (unnamed : ∀ e ∈ journal, e.id ≠ x) {r : Row} (found : st.row? x = some r)
    (isNew : r.message.IsNew) (alive : st.deadLetter? x = none) : st.AgreesAt journal x := by
  refine ⟨?_, ?_, ?_⟩
  · intro r' found'
    cases found.symm.trans found'
    rw [isNew.2, Entry.failures_of_unnamed unnamed]
    rfl
  · intro d dead
    cases alive.symm.trans dead
  · intro e he delivers
    exact absurd delivers.id_eq (unnamed e he)

end Store.AgreesAt

/-! ## A failed delivery -/

/-- What is stored of a message after the commit of a failed delivery is the message after one more
failed attempt. -/
theorem QueuedMessage.Fails.committed {m : QueuedMessage} {outcome : RetryOutcome}
    {updated : List QueuedMessage} {dead : List DeadLetter} (fails : m.Fails outcome updated dead)
    {st : Store} (alive : st.deadLetter? m.id = none) :
    (∀ r, ((⟨[], updated, dead⟩ : Changes).apply st).row? m.id = some r →
        ∃ error, r.message = m.afterFailure error) ∧
      ∀ d, ((⟨[], updated, dead⟩ : Changes).apply st).deadLetter? m.id = some d →
        ∃ error, d.message = m.afterFailure error := by
  constructor
  · -- the row is neither an untouched nor a new one
    intro r found
    obtain ⟨unburied, ⟨-, unnamed⟩ | ⟨old, -, m', hm', -, rfl⟩ | ⟨m', hm', -⟩⟩ :=
      Changes.row?_apply_cases found
    · cases fails with
      | retried error =>
          have named : m.id ∈ [(m.afterFailure error).id] := List.mem_singleton.mpr rfl
          exact absurd (Changes.mem_names.mpr (Or.inr (Or.inl named))) unnamed
      | deadLettered error now =>
          have buried : m.id ∈ [(m.afterFailure error).id] := List.mem_singleton.mpr rfl
          exact absurd buried unburied
    · cases fails with
      | retried error => exact ⟨error, List.mem_singleton.mp hm'⟩
      | deadLettered error now => cases hm'
    · cases hm'
  · intro d found
    rcases Changes.deadLetter?_apply_cases ⟨[], updated, dead⟩ st m.id with
      ⟨same, -⟩ | ⟨d', hd', -, new⟩
    · cases alive.symm.trans (same.symm.trans found)
    · cases new.symm.trans found
      cases fails with
      | retried error => cases hd'
      | deadLettered error now =>
          rw [List.mem_singleton.mp hd']
          exact ⟨error, rfl⟩

end MaintenanceOutbox
