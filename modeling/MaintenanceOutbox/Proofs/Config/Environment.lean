import MaintenanceOutbox.Config.Environment
import MaintenanceOutbox.Proofs.Payload.Texts
import Mathlib.Data.List.Basic
import Mathlib.Data.List.Induction
import Mathlib.Data.List.TakeWhile

set_option autoImplicit false

/-! # What the environment may say

The texts that stand for a number are described by a grammar (`OutboxConfig.Denotes`): decimal
digits, a plus sign before them or not, and blanks around. The settings of an environment are read
exactly when each of the five numbers is unset or a positive number of its range; they are then what
the environment says and what is usual elsewhere. Otherwise the first variable that is wrong is
reported (`OutboxConfig.reads_grammar`).

The last step of reading, which refuses settings of which one is zero, finds nothing to refuse:
every number was looked at when its variable was read.
-/

namespace MaintenanceOutbox

/-! ## Blanks around a text -/

namespace Text

/-- Only blanks. -/
def AllBlank (cs : List Char) : Prop :=
  ∀ c ∈ cs, isBlankChar c = true

/-- What begins and ends with something visible. -/
structure Visible (cs : List Char) : Prop where
  ne_nil : cs ≠ []
  begins : ∀ c ∈ cs.head?, isBlankChar c = false
  ends : ∀ c ∈ cs.getLast?, isBlankChar c = false

theorem dropBlanks_append {before cs : List Char} (blank : AllBlank before)
    (begins : ∀ c ∈ cs.head?, isBlankChar c = false) : dropBlanks (before ++ cs) = cs := by
  rw [dropBlanks, List.dropWhile_append_of_pos blank]
  cases cs with
  | nil => rfl
  | cons c cs => rw [List.dropWhile_cons_of_neg (by simp [begins c rfl])]

/-- Blanks around a text are trimmed off. -/
theorem trimChars_append {before cs after : List Char} (blank : AllBlank before)
    (visible : Visible cs) (blank' : AllBlank after) : trimChars (before ++ cs ++ after) = cs := by
  obtain ⟨some, begins, ends⟩ := visible
  have front : dropBlanks (before ++ cs ++ after) = cs ++ after := by
    rw [List.append_assoc]
    refine dropBlanks_append blank fun c hc => begins c ?_
    rwa [List.head?_append_of_ne_nil _ some] at hc
  have back : dropBlanks (cs ++ after).reverse = cs.reverse := by
    rw [List.reverse_append]
    refine dropBlanks_append (fun c hc => blank' c (List.mem_reverse.mp hc)) fun c hc => ends c ?_
    rwa [List.head?_reverse] at hc
  rw [trimChars, front, back, List.reverse_reverse]

/-- A text is what is left of it when it is trimmed, with blanks around. -/
theorem exists_blanks (cs : List Char) :
    ∃ before after, cs = before ++ trimChars cs ++ after ∧ AllBlank before ∧ AllBlank after := by
  refine ⟨cs.takeWhile isBlankChar, ((dropBlanks cs).reverse.takeWhile isBlankChar).reverse, ?_,
    fun c hc => List.mem_takeWhile_imp hc,
    fun c hc => List.mem_takeWhile_imp (List.mem_reverse.mp hc)⟩
  rw [List.append_assoc, trimChars, ← List.reverse_append, dropBlanks, dropBlanks,
    List.takeWhile_append_dropWhile, List.reverse_reverse, List.takeWhile_append_dropWhile]

end Text

namespace OutboxConfig

/-! ## Numbers as texts -/

/-- Decimal digits, at least one, and the number that they denote. -/
inductive Decimal : List Char → Nat → Prop where
  | digit {d : Nat} (small : d < 10) : Decimal [Nat.digitChar d] d
  | more {cs : List Char} {n d : Nat} (front : Decimal cs n) (small : d < 10) :
      Decimal (cs ++ [Nat.digitChar d]) (n * 10 + d)

/-- A decimal, with a plus sign before it or not. -/
inductive Numeral : List Char → Nat → Prop where
  | plain {cs : List Char} {n : Nat} (decimal : Decimal cs n) : Numeral cs n
  | plus {cs : List Char} {n : Nat} (decimal : Decimal cs n) : Numeral ('+' :: cs) n

/-- **The number that a text denotes**: a numeral with blanks around. -/
inductive Denotes (text : String) (n : Nat) : Prop where
  | intro {before number after : List Char} (whole : text.toList = before ++ number ++ after)
      (blank : Text.AllBlank before) (numeral : Numeral number n) (blank' : Text.AllBlank after)

variable {cs : List Char} {n : Nat} {text : String}

theorem Decimal.ne_nil (decimal : Decimal cs n) : cs ≠ [] := by
  cases decimal <;> simp

theorem Decimal.isDigit (decimal : Decimal cs n) : ∀ c ∈ cs, c.isDigit = true := by
  have digit : ∀ d < 10, (Nat.digitChar d).isDigit = true := by decide
  induction decimal with
  | digit small =>
      intro c hc
      rw [List.mem_singleton.mp hc]
      exact digit _ small
  | more front small ih =>
      intro c hc
      rcases List.mem_append.mp hc with before | last
      · exact ih c before
      · rw [List.mem_singleton.mp last]
        exact digit _ small

theorem Decimal.value_eq (decimal : Decimal cs n) : Nat.ofDigitChars 10 cs 0 = n := by
  have digit : ∀ d < 10, ∀ n, Nat.ofDigitChars 10 [Nat.digitChar d] n = 10 * n + d := by
    intro d small n
    rw [Nat.ofDigitChars_cons, Nat.toNat_digitChar_of_lt_ten small]
    show 10 * n + (48 + d - 48) = 10 * n + d
    omega
  induction decimal with
  | digit small => rw [digit _ small, Nat.mul_zero, Nat.zero_add]
  | more front small ih =>
      rw [Nat.ofDigitChars_append, ih, digit _ small]
      omega

theorem Decimal.unique {m : Nat} (decimal : Decimal cs n) (decimal' : Decimal cs m) : n = m := by
  rw [← decimal.value_eq, ← decimal'.value_eq]

/-- Every non-empty list of digits is a decimal. -/
theorem decimal_of_isDigit (some : cs ≠ []) (digits : ∀ c ∈ cs, c.isDigit = true) :
    Decimal cs (Nat.ofDigitChars 10 cs 0) := by
  have digit : ∀ c : Char, c.isDigit = true → ∃ d < 10, c = Nat.digitChar d := by
    intro c digit
    obtain ⟨low, high⟩ := Char.isDigit_iff_toNat.mp digit
    have low : 48 ≤ c.toNat := low
    have high : c.toNat ≤ 57 := high
    refine ⟨c.toNat - 48, by omega, Char.toNat_inj.mp ?_⟩
    rw [Nat.toNat_digitChar_of_lt_ten (by omega)]
    omega
  induction cs using List.reverseRecOn with
  | nil => exact absurd rfl some
  | append_singleton cs c ih =>
      obtain ⟨d, small, rfl⟩ := digit c (digits c (by simp))
      have decimal : Decimal (cs ++ [Nat.digitChar d]) (Nat.ofDigitChars 10 cs 0 * 10 + d) := by
        by_cases first : cs = []
        · subst first
          rw [show Nat.ofDigitChars 10 [] 0 * 10 + d = d by simp]
          exact .digit small
        · exact .more (ih first fun c hc => digits c (List.mem_append_left _ hc)) small
      rwa [decimal.value_eq]

/-- **Decimals are read** as what they denote, and nothing else is. -/
theorem digitsValue?_eq_some_iff : digitsValue? cs = some n ↔ Decimal cs n := by
  have value : cs.foldl (fun n c => n * 10 + (c.toNat - 48)) 0 = Nat.ofDigitChars 10 cs 0 := by
    simp only [Nat.ofDigitChars_eq_foldl, Nat.mul_comm 10]
    rfl
  rw [digitsValue?, value]
  constructor
  · intro read
    split at read
    · cases read
    · next good =>
        cases read
        simp only [Bool.or_eq_true, List.isEmpty_iff, Bool.not_eq_true', not_or,
          Bool.not_eq_false, List.all_eq_true] at good
        exact decimal_of_isDigit good.1 good.2
  · intro decimal
    have good : ¬ (cs.isEmpty || !cs.all Char.isDigit) = true := by
      simp only [Bool.or_eq_true, List.isEmpty_iff, Bool.not_eq_true', not_or,
        Bool.not_eq_false, List.all_eq_true]
      exact ⟨decimal.ne_nil, decimal.isDigit⟩
    rw [if_neg good, decimal.value_eq]

/-- **Numerals are read** as what they denote, as far as 64 bits go. -/
theorem number?_eq_some_iff : number? cs = some n ↔ Numeral cs n ∧ n < UInt64.size := by
  rw [number?.eq_def, Option.filter_eq_some_iff, decide_eq_true_eq, and_congr_left_iff]
  intro _
  rw [digitsValue?_eq_some_iff]
  constructor
  · intro decimal
    split at decimal
    · exact .plus decimal
    · exact .plain decimal
  · intro numeral
    cases numeral with
    | plus decimal => exact decimal
    | plain decimal =>
        split
        · -- a plus sign is no digit
          next rest => cases decimal.isDigit '+' List.mem_cons_self
        · exact decimal

theorem Numeral.unique {m : Nat} (numeral : Numeral cs n) (numeral' : Numeral cs m) : n = m := by
  cases numeral with
  | plus decimal =>
      cases numeral' with
      | plus decimal' => exact decimal.unique decimal'
      | plain decimal' => cases decimal'.isDigit '+' List.mem_cons_self
  | plain decimal =>
      cases numeral' with
      | plus decimal' => cases decimal.isDigit '+' List.mem_cons_self
      | plain decimal' => exact decimal.unique decimal'

theorem Decimal.visible (decimal : Decimal cs n) : Text.Visible cs := by
  have visible : ∀ c ∈ cs, Text.isBlankChar c = false := fun c hc =>
    Timestamp.not_isBlankChar_of_isDigit (decimal.isDigit c hc)
  exact ⟨decimal.ne_nil, fun c hc => visible c (List.mem_of_head? hc),
    fun c hc => visible c (List.mem_of_getLast? hc)⟩

theorem Numeral.visible (numeral : Numeral cs n) : Text.Visible cs := by
  cases numeral with
  | plain decimal => exact decimal.visible
  | plus decimal =>
      refine ⟨by simp, ?_, ?_⟩
      · rintro c ⟨⟩
        rfl
      · intro c hc
        rw [List.getLast?_cons_of_ne_nil decimal.ne_nil] at hc
        exact decimal.visible.ends c hc

/-- What a text denotes is a matter of the text without its blanks. -/
theorem denotes_iff : Denotes text n ↔ Numeral (Text.trimChars text.toList) n := by
  constructor
  · rintro ⟨whole, blank, numeral, blank'⟩
    rwa [whole, Text.trimChars_append blank numeral.visible blank']
  · intro numeral
    obtain ⟨before, after, whole, blank, blank'⟩ := Text.exists_blanks text.toList
    exact ⟨whole, blank, numeral, blank'⟩

theorem Denotes.unique {m : Nat} (denoted : Denotes text n) (denoted' : Denotes text m) : n = m :=
  (denotes_iff.mp denoted).unique (denotes_iff.mp denoted')

/-! ## Variables -/

/-- A variable of which there is nothing to say: it is unset, or a positive number below `bound`. -/
def Fine (bound : Nat) (value : Option String) : Prop :=
  ∀ text, value = some text → ∃ n, Denotes text n ∧ 0 < n ∧ n < bound

/-- **What is wrong with a text** that is meant to be a positive number below `bound`. -/
inductive Offence (bound : Nat) (key text : String) : ConfigError → Prop where
  | zero (denoted : Denotes text 0) : Offence bound key text (.zero key)
  /-- no number of 64 bits -/
  | illegible (other : ∀ n, Denotes text n → 2 ^ 64 ≤ n) :
      Offence bound key text (.invalidNumber key text)
  /-- a number of 64 bits that is too large for this setting -/
  | tooLarge {n : Nat} (denoted : Denotes text n) (above : bound ≤ n) (wide : n < 2 ^ 64) :
      Offence bound key text (.invalidNumber key (toString n))

/-- **What a variable comes to** where a positive number below `bound` is wanted. -/
inductive Outcome (bound : Nat) (key : String) (value : Option String) :
    Except ConfigError (Option Nat) → Prop where
  | unset (absent : value = none) : Outcome bound key value (.ok none)
  | number {text : String} {n : Nat} (set : value = some text) (denoted : Denotes text n)
      (positive : 0 < n) (small : n < bound) : Outcome bound key value (.ok (some n))
  | offence {text : String} {e : ConfigError} (set : value = some text)
      (wrong : Offence bound key text e) : Outcome bound key value (.error e)

theorem positive_outcome (env : Environment) (key : String) :
    Outcome (2 ^ 64) key (env key) (positive env key) := by
  rw [positive]
  cases set : env key with
  | none => exact .unset rfl
  | some text =>
      dsimp only
      cases read : number? (Text.trimChars text.toList) with
      | none =>
          refine .offence rfl (.illegible fun n denoted => ?_)
          by_contra small
          have read' := number?_eq_some_iff.mpr ⟨denotes_iff.mp denoted, Nat.lt_of_not_le small⟩
          rw [read] at read'
          cases read'
      | some n =>
          obtain ⟨numeral, small⟩ := number?_eq_some_iff.mp read
          have denoted := denotes_iff.mpr numeral
          cases n with
          | zero => exact .offence rfl (.zero denoted)
          | succ n => exact .number rfl denoted (Nat.succ_pos n) small

theorem Offence.mono {bound less : Nat} {key : String} {e : ConfigError} (fewer : less ≤ bound)
    (wrong : Offence bound key text e) : Offence less key text e := by
  cases wrong with
  | zero denoted => exact .zero denoted
  | illegible other => exact .illegible other
  | tooLarge denoted above wide => exact .tooLarge denoted (fewer.trans above) wide

theorem positiveCounter_outcome (env : Environment) (key : String) :
    Outcome (2 ^ 32) key (env key) ((positiveCounter env key).map (·.map UInt32.toNat)) := by
  have outcome := positive_outcome env key
  rw [positiveCounter]
  generalize positive env key = result at outcome
  cases outcome with
  | unset absent => exact .unset absent
  | @number text n set denoted positive wide =>
      show Outcome _ _ _ (Except.map _ (if n < UInt32.size then .ok (some (UInt32.ofNat n)) else
        .error (.invalidNumber key (toString n))))
      by_cases small : n < UInt32.size
      · rw [if_pos small]
        show Outcome _ _ _ (.ok (some (UInt32.ofNat n).toNat))
        rw [UInt32.toNat_ofNat_of_lt' small]
        exact .number set denoted positive small
      · rw [if_neg small]
        exact .offence set (.tooLarge denoted (Nat.le_of_not_lt small) wide)
  | offence set wrong => exact .offence set (wrong.mono (by decide))

theorem Outcome.fine {bound : Nat} {key : String} {value : Option String} {given : Option Nat}
    (outcome : Outcome bound key value (.ok given)) : Fine bound value := by
  intro text set
  cases outcome with
  | unset absent => rw [absent] at set; cases set
  | number set' denoted positive small =>
      cases set.symm.trans set'
      exact ⟨_, denoted, positive, small⟩

theorem Outcome.cases {bound : Nat} {key : String} {value : Option String}
    {result : Except ConfigError (Option Nat)} (outcome : Outcome bound key value result) :
    (∃ given, result = .ok given ∧ Outcome bound key value (.ok given)) ∨
      ∃ text e, result = .error e ∧ value = some text ∧ Offence bound key text e := by
  cases outcome with
  | unset absent => exact .inl ⟨_, rfl, .unset absent⟩
  | number set denoted positive small => exact .inl ⟨_, rfl, .number set denoted positive small⟩
  | offence set wrong => exact .inr ⟨_, _, rfl, set, wrong⟩

/-- What is wrong is not fine. -/
theorem Offence.not_fine {bound : Nat} {key : String} {e : ConfigError} (most : bound ≤ 2 ^ 64)
    (wrong : Offence bound key text e) : ¬ Fine bound (some text) := by
  intro fine
  obtain ⟨n, denoted, positive, small⟩ := fine text rfl
  cases wrong with
  | zero denoted' => exact absurd (denoted.unique denoted') (by omega)
  | illegible other => exact absurd (other n denoted) (by omega)
  | tooLarge denoted' above wide => exact absurd (denoted.unique denoted') (by omega)

/-- One thing is wrong with a text at most. -/
theorem Offence.unique {bound : Nat} {key : String} {e e' : ConfigError} (least : 0 < bound)
    (wrong : Offence bound key text e) (wrong' : Offence bound key text e') : e = e' := by
  cases wrong with
  | zero denoted =>
      cases wrong' with
      | zero => rfl
      | illegible other => exact absurd (other 0 denoted) (by decide)
      | tooLarge denoted' above wide => exact absurd (denoted.unique denoted') (by omega)
  | illegible other =>
      cases wrong' with
      | zero denoted => exact absurd (other 0 denoted) (by decide)
      | illegible => rfl
      | tooLarge denoted above wide => exact absurd (other _ denoted) (by omega)
  | tooLarge denoted above wide =>
      cases wrong' with
      | zero denoted' => exact absurd (denoted.unique denoted') (by omega)
      | illegible other => exact absurd (other _ denoted) (by omega)
      | tooLarge denoted' => rw [denoted.unique denoted']

/-- The variables of the numbers in the order in which they are looked at, each with the bound of
its range. -/
def numbers : List (String × Nat) :=
  [(workersKey, 2 ^ 64), (pollMsKey, 2 ^ 64), (batchSizeKey, 2 ^ 64), (maxRetriesKey, 2 ^ 32),
    (maxRoundsKey, 2 ^ 64)]

/-- **The first variable of a list that is wrong**, and what is wrong with it. -/
inductive FirstOffence (env : Environment) : List (String × Nat) → ConfigError → Prop where
  | here {key text : String} {bound : Nat} {rest : List (String × Nat)} {e : ConfigError}
      (set : env key = some text) (wrong : Offence bound key text e) :
      FirstOffence env ((key, bound) :: rest) e
  | later {key : String} {bound : Nat} {rest : List (String × Nat)} {e : ConfigError}
      (fine : Fine bound (env key)) (after : FirstOffence env rest e) :
      FirstOffence env ((key, bound) :: rest) e

variable {env : Environment}

theorem FirstOffence.not_fine {list : List (String × Nat)} {e : ConfigError}
    (most : ∀ v ∈ list, v.2 ≤ 2 ^ 64) (first : FirstOffence env list e) :
    ¬ ∀ v ∈ list, Fine v.2 (env v.1) := by
  intro fine
  induction first with
  | here set wrong =>
      refine wrong.not_fine (most _ List.mem_cons_self) ?_
      rw [← set]
      exact fine _ List.mem_cons_self
  | later _ _ ih =>
      exact ih (fun v hv => most v (List.mem_cons_of_mem _ hv))
        fun v hv => fine v (List.mem_cons_of_mem _ hv)

theorem FirstOffence.unique {list : List (String × Nat)} {e e' : ConfigError}
    (range : ∀ v ∈ list, 0 < v.2 ∧ v.2 ≤ 2 ^ 64) (first : FirstOffence env list e)
    (first' : FirstOffence env list e') : e = e' := by
  induction first with
  | here set wrong =>
      cases first' with
      | here set' wrong' =>
          cases set.symm.trans set'
          exact wrong.unique (range _ List.mem_cons_self).1 wrong'
      | later fine _ =>
          rw [set] at fine
          exact absurd fine (wrong.not_fine (range _ List.mem_cons_self).2)
  | later fine _ ih =>
      cases first' with
      | here set' wrong' =>
          rw [set'] at fine
          exact absurd fine (wrong'.not_fine (range _ List.mem_cons_self).2)
      | later _ after' => exact ih (fun v hv => range v (List.mem_cons_of_mem _ hv)) after'

/-! ## Settings -/

/-- Settings of which none is zero. -/
structure Positive (c : OutboxConfig) : Prop where
  workerCount : 0 < c.workerCount
  pollMs : 0 < c.pollMs
  batchSize : 0 < c.batchSize
  maxRetries : 0 < c.maxRetries.toNat
  maxDispatchRounds : 0 < c.maxDispatchRounds

/-- **Valid settings** are those of which none is zero. -/
theorem validate_eq_ok_iff {c : OutboxConfig} : c.validate = .ok () ↔ c.Positive := by
  have retries : c.maxRetries = 0 ↔ c.maxRetries.toNat = 0 := by
    rw [← UInt32.toNat_inj, UInt32.toNat_zero]
  have nonzero : c.zeros.find? (·.2) = none ↔ c.Positive := by
    simp only [List.find?_eq_none, zeros, List.forall_mem_cons, beq_iff_eq, retries]
    constructor
    · rintro ⟨workers, poll, batch, retries, rounds, -⟩
      exact ⟨Nat.pos_of_ne_zero workers, Nat.pos_of_ne_zero poll, Nat.pos_of_ne_zero batch,
        Nat.pos_of_ne_zero retries, Nat.pos_of_ne_zero rounds⟩
    · rintro ⟨workers, poll, batch, retries, rounds⟩
      exact ⟨workers.ne', poll.ne', batch.ne', retries.ne', rounds.ne', by simp⟩
  rw [← nonzero, validate]
  cases c.zeros.find? (·.2) <;> simp

/-- The number that a variable makes of a setting: the one that it denotes, or the usual one. -/
def Sets (value : Option String) (usual setting : Nat) : Prop :=
  match value with
  | none => setting = usual
  | some text => Denotes text setting

/-- **What an environment makes of the settings.** -/
structure Configures (env : Environment) (c : OutboxConfig) : Prop where
  workerCount : Sets (env workersKey) standard.workerCount c.workerCount
  pollMs : Sets (env pollMsKey) standard.pollMs c.pollMs
  batchSize : Sets (env batchSizeKey) standard.batchSize c.batchSize
  maxRetries : Sets (env maxRetriesKey) standard.maxRetries.toNat c.maxRetries.toNat
  maxDispatchRounds : Sets (env maxRoundsKey) standard.maxDispatchRounds c.maxDispatchRounds
  /-- a database is named, with its blanks, unless it is blank -/
  databaseUrl : ∀ url, c.databaseUrl = some url ↔
    env databaseUrlKey = some url ∧ ¬ Text.AllBlank url.toList

/-- The settings before they are checked as a whole. -/
def draft (env : Environment) : Except ConfigError OutboxConfig := do
  let workers ← positive env workersKey
  let pollMs ← positive env pollMsKey
  let batchSize ← positive env batchSizeKey
  let maxRetries ← positiveCounter env maxRetriesKey
  let maxRounds ← positive env maxRoundsKey
  pure
    { workerCount := workers.getD standard.workerCount
      pollMs := pollMs.getD standard.pollMs
      batchSize := batchSize.getD standard.batchSize
      maxRetries := maxRetries.getD standard.maxRetries
      maxDispatchRounds := maxRounds.getD standard.maxDispatchRounds
      databaseUrl := namedUrl (env databaseUrlKey) }

/-- Settings that are checked as a whole. -/
def checked (c : OutboxConfig) : Except ConfigError OutboxConfig := do
  c.validate
  pure c

theorem ofEnvironment_eq (env : Environment) : ofEnvironment env = draft env >>= checked := by
  rw [ofEnvironment, draft]
  simp only [bind_assoc, pure_bind]
  rfl

theorem Outcome.sets {bound : Nat} {key : String} {value : Option String} {given : Option Nat}
    (outcome : Outcome bound key value (.ok given)) (usual : Nat) :
    Sets value usual (given.getD usual) := by
  cases outcome with
  | unset absent => rw [absent]; rfl
  | number set denoted _ _ => rw [set]; exact denoted

theorem Sets.positive {value : Option String} {usual setting bound : Nat}
    (sets : Sets value usual setting) (fine : Fine bound value) (least : 0 < usual) :
    0 < setting := by
  cases value with
  | none => rwa [show setting = usual from sets]
  | some text =>
      obtain ⟨n, denoted, positive, -⟩ := fine text rfl
      rwa [Denotes.unique sets denoted]

theorem namedUrl_eq_some_iff {value : Option String} {url : String} :
    namedUrl value = some url ↔ value = some url ∧ ¬ Text.AllBlank url.toList := by
  rw [namedUrl, Option.filter_eq_some_iff, Bool.not_eq_true', Text.isBlank, ← Bool.not_eq_true,
    List.all_eq_true]
  rfl

theorem positiveCounter_cases (env : Environment) (key : String) :
    (∃ given : Option UInt32, positiveCounter env key = .ok given ∧
      Outcome (2 ^ 32) key (env key) (.ok (given.map UInt32.toNat))) ∨
      ∃ text e, positiveCounter env key = .error e ∧ env key = some text ∧
        Offence (2 ^ 32) key text e := by
  have outcome := positiveCounter_outcome env key
  cases read : positiveCounter env key with
  | ok given =>
      rw [read] at outcome
      exact .inl ⟨given, rfl, outcome⟩
  | error e =>
      rw [read] at outcome
      cases outcome with
      | offence set wrong => exact .inr ⟨_, _, rfl, set, wrong⟩

/-- The variables are read one after the other, up to the first one that is wrong. -/
theorem draft_cases (env : Environment) :
    (∃ c, draft env = .ok c ∧ Configures env c ∧ ∀ v ∈ numbers, Fine v.2 (env v.1)) ∨
      ∃ e, draft env = .error e ∧ FirstOffence env numbers e := by
  rw [draft]
  obtain ⟨workers, read, outcome₁⟩ | ⟨text, e, read, set, wrong⟩ :=
    (positive_outcome env workersKey).cases
  case inr => exact .inr ⟨e, by rw [read]; rfl, .here set wrong⟩
  rw [read]
  obtain ⟨pollMs, read, outcome₂⟩ | ⟨text, e, read, set, wrong⟩ :=
    (positive_outcome env pollMsKey).cases
  case inr => exact .inr ⟨e, by rw [read]; rfl, .later outcome₁.fine (.here set wrong)⟩
  rw [read]
  obtain ⟨batchSize, read, outcome₃⟩ | ⟨text, e, read, set, wrong⟩ :=
    (positive_outcome env batchSizeKey).cases
  case inr =>
    exact .inr ⟨e, by rw [read]; rfl, .later outcome₁.fine (.later outcome₂.fine (.here set wrong))⟩
  rw [read]
  obtain ⟨maxRetries, read, outcome₄⟩ | ⟨text, e, read, set, wrong⟩ :=
    positiveCounter_cases env maxRetriesKey
  case inr =>
    exact .inr ⟨e, by rw [read]; rfl,
      .later outcome₁.fine (.later outcome₂.fine (.later outcome₃.fine (.here set wrong)))⟩
  rw [read]
  obtain ⟨maxRounds, read, outcome₅⟩ | ⟨text, e, read, set, wrong⟩ :=
    (positive_outcome env maxRoundsKey).cases
  case inr =>
    exact .inr ⟨e, by rw [read]; rfl, .later outcome₁.fine (.later outcome₂.fine
      (.later outcome₃.fine (.later outcome₄.fine (.here set wrong))))⟩
  rw [read]
  refine .inl ⟨_, rfl, ⟨outcome₁.sets _, outcome₂.sets _, outcome₃.sets _, ?_, outcome₅.sets _,
    fun url => namedUrl_eq_some_iff⟩, ?_⟩
  · have sets := outcome₄.sets standard.maxRetries.toNat
    cases maxRetries <;> exact sets
  · simp only [numbers, List.forall_mem_cons]
    exact ⟨outcome₁.fine, outcome₂.fine, outcome₃.fine, outcome₄.fine, outcome₅.fine, by simp⟩

/-- Settings of an environment in which all numbers are fine are positive. -/
theorem Configures.positive {c : OutboxConfig} (configures : Configures env c)
    (fine : ∀ v ∈ numbers, Fine v.2 (env v.1)) : c.Positive := by
  simp only [numbers, List.forall_mem_cons] at fine
  obtain ⟨workers, poll, batch, retries, rounds, -⟩ := fine
  exact ⟨configures.workerCount.positive workers (by decide),
    configures.pollMs.positive poll (by decide), configures.batchSize.positive batch (by decide),
    configures.maxRetries.positive retries (by decide),
    configures.maxDispatchRounds.positive rounds (by decide)⟩

theorem FirstOffence.not_all_fine {e : ConfigError} (first : FirstOffence env numbers e) :
    ¬ ∀ v ∈ numbers, Fine v.2 (env v.1) :=
  first.not_fine (by decide)

/-- An environment is read, and then nothing in it is wrong, or its first offence is reported. In
both cases the last check changes nothing. -/
theorem ofEnvironment_cases (env : Environment) :
    (∃ c, ofEnvironment env = .ok c ∧ draft env = .ok c ∧ Configures env c ∧ c.validate = .ok () ∧
      ∀ v ∈ numbers, Fine v.2 (env v.1)) ∨
    (∃ e, ofEnvironment env = .error e ∧ draft env = .error e ∧ FirstOffence env numbers e) := by
  rw [ofEnvironment_eq]
  obtain ⟨c, drafted, configures, fine⟩ | ⟨e, drafted, first⟩ := draft_cases env
  · have valid : c.validate = .ok () := validate_eq_ok_iff.mpr (configures.positive fine)
    refine .inl ⟨c, ?_, drafted, configures, valid, fine⟩
    rw [drafted]
    show checked c = _
    rw [checked, valid]
    rfl
  · refine .inr ⟨e, ?_, drafted, first⟩
    rw [drafted]
    rfl

/-- **Settings are read from an environment by the grammar of its variables.** -/
structure ReadsGrammar (env : Environment) : Prop where
  /-- they are read if every number is unset or a positive number of its range -/
  accepts : (∃ c, ofEnvironment env = .ok c) ↔ ∀ v ∈ numbers, Fine v.2 (env v.1)
  /-- they are what the variables say, and valid -/
  reads : ∀ c, ofEnvironment env = .ok c → Configures env c ∧ c.validate = .ok ()
  /-- otherwise the first variable that is wrong is reported -/
  reports : ∀ e, ofEnvironment env = .error e ↔ FirstOffence env numbers e
  /-- at last the settings are checked as a whole -/
  closes : ofEnvironment env = draft env >>= checked
  /-- and that check passes whatever comes to it -/
  passes : ∀ c, draft env = .ok c → c.validate = .ok ()

/-- **Every environment is read by the grammar.** -/
theorem reads_grammar (env : Environment) : ReadsGrammar env := by
  have closes := ofEnvironment_eq env
  obtain ⟨c, read, drafted, configures, valid, fine⟩ | ⟨e, read, drafted, first⟩ :=
    ofEnvironment_cases env
  · refine ⟨⟨fun _ => fine, fun _ => ⟨c, read⟩⟩, ?_, fun e => ?_, closes, ?_⟩
    · intro c' read'
      cases read.symm.trans read'
      exact ⟨configures, valid⟩
    · rw [read]
      exact ⟨nofun, fun first => absurd fine first.not_all_fine⟩
    · intro c' drafted'
      cases drafted.symm.trans drafted'
      exact valid
  · refine ⟨⟨?_, fun fine => absurd fine first.not_all_fine⟩, ?_, fun e' => ⟨?_, ?_⟩, closes, ?_⟩
    · rintro ⟨c, read'⟩
      cases read.symm.trans read'
    · intro c read'
      cases read.symm.trans read'
    · intro read'
      cases read.symm.trans read'
      exact first
    · intro first'
      rw [read, first.unique (by decide) first']
    · intro c drafted'
      cases drafted.symm.trans drafted'

end OutboxConfig

end MaintenanceOutbox
