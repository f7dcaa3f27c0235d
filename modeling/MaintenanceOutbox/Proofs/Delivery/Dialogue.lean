import MaintenanceOutbox.Program

set_option autoImplicit false

/-! # What a program and its surroundings say to each other

A run of a program is a dialogue: the calls that it makes, and how each of them is answered.
`Program.Speaks` lists the dialogues that are possible for a program, with any answers at all, so
that what is true of all of them is true whoever answers, and whatever others do between two calls.

Given somebody who answers, one of the dialogues takes place (`Program.speaks_dialogue`), unless a
call is not answered; the program breaks off there. What is asked for on the way, that call
included, is known in either case (`Program.asks`).
-/

namespace MaintenanceOutbox

/-- A call, and the answer to it. -/
structure Exchange (I : Interface) where
  op : I.Op
  reply : I.Reply op

namespace Program

variable {I : Interface} {α β σ : Type}

/-- **A possible run**: the program says what is said, with the given result. -/
inductive Speaks : Program I α → List (Exchange I) → α → Prop where
  | done (a : α) : Speaks (.done a) [] a
  | call {op : I.Op} {next : I.Reply op → Program I α} {reply : I.Reply op}
      {said : List (Exchange I)} {a : α} (rest : Speaks (next reply) said a) :
      Speaks (.call op next) (⟨op, reply⟩ :: said) a

theorem Speaks.of_pure {said : List (Exchange I)} {a b : α}
    (speaks : (pure a : Program I α).Speaks said b) : said = [] ∧ b = a := by
  cases speaks
  exact ⟨rfl, rfl⟩

theorem Speaks.of_perform {op : I.Op} {said : List (Exchange I)} {reply : I.Reply op}
    (speaks : (perform op).Speaks said reply) : said = [⟨op, reply⟩] := by
  cases speaks with
  | call rest =>
      cases rest
      rfl

/-- A composed program says what its parts say, one after the other. -/
theorem Speaks.of_bind {p : Program I α} {f : α → Program I β} {said : List (Exchange I)} {b : β}
    (speaks : (p.bind f).Speaks said b) :
    ∃ a first second, said = first ++ second ∧ p.Speaks first a ∧ (f a).Speaks second b := by
  induction p generalizing said with
  | done a => exact ⟨a, [], said, rfl, .done a, speaks⟩
  | call op next ih =>
      cases speaks with
      | call rest =>
          obtain ⟨a, first, second, rfl, speaks₁, speaks₂⟩ := ih _ rest
          exact ⟨a, _ :: first, second, rfl, .call speaks₁, speaks₂⟩

/-- What the parts say, one after the other, is what the composed program says. -/
theorem Speaks.bind {p : Program I α} {f : α → Program I β} {first second : List (Exchange I)}
    {a : α} {b : β} (speaks₁ : p.Speaks first a) (speaks₂ : (f a).Speaks second b) :
    (p.bind f).Speaks (first ++ second) b := by
  induction speaks₁ with
  | done a => exact speaks₂
  | call _ ih => exact .call (ih speaks₂)

/-- A program that may fail goes on after a success, and ends with a failure. -/
theorem speaks_exceptT_bind {ε : Type} {p : ExceptT ε (Program I) α}
    {f : α → ExceptT ε (Program I) β} {said : List (Exchange I)} {result : Except ε β} :
    (p >>= f).run.Speaks said result ↔
      (∃ a first second, said = first ++ second ∧ p.run.Speaks first (.ok a) ∧
        (f a).run.Speaks second result) ∨
      ∃ e, result = .error e ∧ p.run.Speaks said (.error e) := by
  constructor
  · intro speaks
    obtain ⟨outcome, first, second, rfl, speaks₁, speaks₂⟩ := Speaks.of_bind (p := p.run) speaks
    cases outcome with
    | ok a => exact .inl ⟨a, first, second, rfl, speaks₁, speaks₂⟩
    | error e =>
        obtain ⟨rfl, rfl⟩ := speaks₂.of_pure
        rw [List.append_nil]
        exact .inr ⟨e, rfl, speaks₁⟩
  · rintro (⟨a, first, second, rfl, speaks₁, speaks₂⟩ | ⟨e, rfl, speaks⟩)
    · exact Speaks.bind (p := p.run) speaks₁ speaks₂
    · have ends : (ExceptT.bindCont f (.error e)).Speaks [] (.error e) := .done _
      rw [← List.append_nil said]
      exact Speaks.bind (p := p.run) speaks ends

/-! ## The run that takes place -/

variable (answer : (op : I.Op) → OptionT (StateM σ) (I.Reply op))

/-- A run from a state: its result, unless it breaks off, and the state afterwards. -/
def runFrom (p : Program I α) (s : σ) : Option α × σ :=
  (show OptionT (StateM σ) α from p.run answer) s

/-- What a program says when `answer` answers, as long as it does. -/
def dialogue : Program I α → σ → List (Exchange I)
  | .done _, _ => []
  | .call op next, s =>
    match (answer op s : Option (I.Reply op) × σ) with
    | (none, _) => []
    | (some reply, s) => ⟨op, reply⟩ :: (next reply).dialogue s

/-- What a program asks for when `answer` answers, one operation after the other. -/
def asks : Program I α → σ → List I.Op
  | .done _, _ => []
  | .call op next, s =>
    op :: match (answer op s : Option (I.Reply op) × σ) with
      | (none, _) => []
      | (some reply, s) => (next reply).asks s

variable {answer} {s s' : σ}

theorem runFrom_call {op : I.Op} {next : I.Reply op → Program I α} {reply : I.Reply op}
    (answered : answer op s = (some reply, s')) :
    (call op next).runFrom answer s = (next reply).runFrom answer s' := by
  simp only [runFrom, run, Bind.bind, OptionT.bind, OptionT.mk, StateT.bind, answered]

theorem runFrom_call_none {op : I.Op} {next : I.Reply op → Program I α}
    (unanswered : answer op s = (none, s')) :
    (call op next).runFrom answer s = (none, s') := by
  simp only [runFrom, run, Bind.bind, OptionT.bind, OptionT.mk, StateT.bind, unanswered]
  rfl

theorem dialogue_call {op : I.Op} {next : I.Reply op → Program I α} {reply : I.Reply op}
    (answered : answer op s = (some reply, s')) :
    (call op next).dialogue answer s = ⟨op, reply⟩ :: (next reply).dialogue answer s' := by
  rw [dialogue, answered]

theorem asks_call {op : I.Op} {next : I.Reply op → Program I α} {reply : I.Reply op}
    (answered : answer op s = (some reply, s')) :
    (call op next).asks answer s = op :: (next reply).asks answer s' := by
  rw [asks, answered]

theorem asks_call_none {op : I.Op} {next : I.Reply op → Program I α}
    (unanswered : answer op s = (none, s')) : (call op next).asks answer s = [op] := by
  rw [asks, unanswered]

/-- A composed program goes on with the result of its first part. -/
theorem runFrom_bind {p : Program I α} {a : α} (first : p.runFrom answer s = (some a, s'))
    (f : α → Program I β) : (p.bind f).runFrom answer s = (f a).runFrom answer s' := by
  induction p generalizing s with
  | done b =>
      cases first
      rfl
  | call op next ih =>
      rw [bind]
      rcases answered : (answer op s : Option (I.Reply op) × σ) with ⟨_ | reply, s₁⟩
      · rw [runFrom_call_none answered] at first
        cases first
      · rw [runFrom_call answered] at first ⊢
        exact ih reply first

/-- It breaks off if its first part does. -/
theorem runFrom_bind_none {p : Program I α} (first : p.runFrom answer s = (none, s'))
    (f : α → Program I β) : (p.bind f).runFrom answer s = (none, s') := by
  induction p generalizing s with
  | done b => cases first
  | call op next ih =>
      rw [bind]
      rcases answered : (answer op s : Option (I.Reply op) × σ) with ⟨_ | reply, s₁⟩
      · rw [runFrom_call_none answered] at first
        cases first
        exact runFrom_call_none answered
      · rw [runFrom_call answered] at first ⊢
        exact ih reply first

/-- **The run that takes place** is a possible one, if it comes to a result. -/
theorem speaks_dialogue {p : Program I α} {s : σ} {a : α}
    (result : (p.runFrom answer s).1 = some a) : p.Speaks (p.dialogue answer s) a := by
  induction p generalizing s with
  | done b =>
      cases result
      exact .done a
  | call op next ih =>
      rw [dialogue]
      split
      · next unanswered =>
          rw [runFrom_call_none unanswered] at result
          cases result
      · next answered =>
          rw [runFrom_call answered] at result
          exact .call (ih _ result)

end Program

end MaintenanceOutbox
