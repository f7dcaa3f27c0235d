import MaintenanceOutbox.Config.Record
import MaintenanceOutbox.Pipeline.Stage
import MaintenanceOutbox.Proofs.Config.Environment
import MaintenanceOutbox.Proofs.Payload.Objects
import MaintenanceOutbox.Worker.Group
import MaintenanceOutbox.Worker.RunLoop

set_option autoImplicit false

/-! # Two ways to the same settings

Settings come from the environment or from a JSON record. Whatever is given, and in whichever of the
two ways, the outcome is the same: the given settings, completed by the usual ones, unless one of
the given numbers is zero.

The two ways refuse a zero at different places, the one as soon as a variable is read and the other
when the record is complete. What they let pass is the same, so that no worker, stage or group ever
meets a zero (`OutboxConfig.readers_agree`).
-/

namespace MaintenanceOutbox

namespace OutboxConfig

/-- Settings that are given, each of them or not. -/
structure Given where
  workerCount : Option UInt64 := none
  pollMs : Option UInt64 := none
  batchSize : Option UInt64 := none
  maxRetries : Option UInt32 := none
  maxDispatchRounds : Option UInt64 := none
  databaseUrl : Option String := none

namespace Given

variable {g : Given} {env : Environment} {ms : List (String × Json)}

/-- The given settings, completed by the usual ones. -/
def settings (g : Given) : OutboxConfig where
  workerCount := (g.workerCount.map UInt64.toNat).getD standard.workerCount
  pollMs := (g.pollMs.map UInt64.toNat).getD standard.pollMs
  batchSize := (g.batchSize.map UInt64.toNat).getD standard.batchSize
  maxRetries := g.maxRetries.getD standard.maxRetries
  maxDispatchRounds := (g.maxDispatchRounds.map UInt64.toNat).getD standard.maxDispatchRounds
  databaseUrl := namedUrl g.databaseUrl

/-- One of the given numbers is zero. -/
def HasZero (g : Given) : Prop :=
  g.workerCount = some 0 ∨ g.pollMs = some 0 ∨ g.batchSize = some 0 ∨ g.maxRetries = some 0 ∨
    g.maxDispatchRounds = some 0

/-- **The settings are given by an environment**, the numbers in decimal digits. -/
structure InEnvironment (g : Given) (env : Environment) : Prop where
  workerCount : env workersKey = g.workerCount.map fun n => toString n.toNat
  pollMs : env pollMsKey = g.pollMs.map fun n => toString n.toNat
  batchSize : env batchSizeKey = g.batchSize.map fun n => toString n.toNat
  maxRetries : env maxRetriesKey = g.maxRetries.map fun n => toString n.toNat
  maxDispatchRounds : env maxRoundsKey = g.maxDispatchRounds.map fun n => toString n.toNat
  databaseUrl : env databaseUrlKey = g.databaseUrl

/-- **The settings are given by an object**, each as a member. Members that mean nothing may stand
between them. -/
structure InObject (g : Given) (ms : List (String × Json)) : Prop where
  distinct : (ms.map Prod.fst).Nodup
  workerCount : ms.lookup "worker_count" = g.workerCount.map fun n => Json.ofNat n.toNat
  pollMs : ms.lookup "poll_interval_ms" = g.pollMs.map fun n => Json.ofNat n.toNat
  batchSize : ms.lookup "batch_size" = g.batchSize.map fun n => Json.ofNat n.toNat
  maxRetries : ms.lookup "max_retries" = g.maxRetries.map fun n => Json.ofNat n.toNat
  maxDispatchRounds :
    ms.lookup "max_dispatch_rounds" = g.maxDispatchRounds.map fun n => Json.ofNat n.toNat
  databaseUrl : ms.lookup "database_url" = g.databaseUrl.map Json.str

/-- **A given zero** is what makes the settings invalid. -/
theorem validate_settings : g.settings.validate = .ok () ↔ ¬ g.HasZero := by
  have number : ∀ (o : Option UInt64) (usual : Nat), 0 < usual →
      (0 < (o.map UInt64.toNat).getD usual ↔ o ≠ some 0) := by
    intro o usual positive
    cases o with
    | none => simpa using positive
    | some n => simp [Nat.pos_iff_ne_zero, ← UInt64.toNat_inj]
  have counter : 0 < (g.maxRetries.getD standard.maxRetries).toNat ↔ g.maxRetries ≠ some 0 := by
    cases g.maxRetries with
    | none => decide
    | some n => simp [Nat.pos_iff_ne_zero, ← UInt32.toNat_inj]
  rw [validate_eq_ok_iff, HasZero]
  simp only [not_or]
  constructor
  · rintro ⟨workers, poll, batch, retries, rounds⟩
    exact ⟨(number _ _ (by decide)).mp workers, (number _ _ (by decide)).mp poll,
      (number _ _ (by decide)).mp batch, counter.mp retries, (number _ _ (by decide)).mp rounds⟩
  · rintro ⟨workers, poll, batch, retries, rounds⟩
    exact ⟨(number _ _ (by decide)).mpr workers, (number _ _ (by decide)).mpr poll,
      (number _ _ (by decide)).mpr batch, counter.mpr retries, (number _ _ (by decide)).mpr rounds⟩

/-! ## From the environment -/

theorem decimal_toDigits (n : Nat) : Decimal (Nat.toDigits 10 n) n := by
  have digits : ∀ c ∈ Nat.toDigits 10 n, c.isDigit = true := fun c hc =>
    Nat.isDigit_of_mem_toDigits (by decide) (by decide) hc
  have decimal := decimal_of_isDigit Nat.toDigits_ne_nil digits
  rwa [Nat.ofDigitChars_ten_toDigits] at decimal

/-- Decimal digits denote their number. -/
theorem denotes_toString (n : Nat) : Denotes (toString n) n := by
  have whole : (toString n).toList = [] ++ Nat.toDigits 10 n ++ [] := by
    rw [Nat.toString_eq_repr, Nat.toList_repr, List.nil_append, List.append_nil]
  exact .intro whole nofun (.plain (decimal_toDigits n)) nofun

section

variable {α : Type} {toNat : α → Nat} {o : Option α}

/-- A variable that holds a given number makes that number of the setting. -/
theorem eq_of_sets {usual setting : Nat}
    (sets : Sets (o.map fun a => toString (toNat a)) usual setting) :
    setting = (o.map toNat).getD usual := by
  cases o with
  | none => exact sets
  | some a => exact Denotes.unique sets (denotes_toString (toNat a))

/-- A given number is fine unless it is zero. -/
theorem fine_of_ne_zero {bound : Nat} (small : ∀ a, toNat a < bound)
    (nonzero : ∀ a, o = some a → toNat a ≠ 0) :
    Fine bound (o.map fun a => toString (toNat a)) := by
  intro text set
  obtain ⟨a, given, rfl⟩ := Option.map_eq_some_iff.mp set
  exact ⟨toNat a, denotes_toString _, Nat.pos_of_ne_zero (nonzero a given), small a⟩

end

/-- An environment makes of the settings what it gives. -/
theorem InEnvironment.settings_eq (given : g.InEnvironment env) {c : OutboxConfig}
    (configures : Configures env c) : c = g.settings := by
  obtain ⟨workers, poll, batch, retries, rounds, url⟩ := configures
  rw [given.workerCount] at workers
  rw [given.pollMs] at poll
  rw [given.batchSize] at batch
  rw [given.maxRetries] at retries
  rw [given.maxDispatchRounds] at rounds
  rw [given.databaseUrl] at url
  have retries' : c.maxRetries = g.maxRetries.getD standard.maxRetries := by
    rw [← UInt32.toNat_inj, eq_of_sets retries]
    cases g.maxRetries <;> rfl
  have url' : c.databaseUrl = namedUrl g.databaseUrl := by
    refine Option.ext fun u => ?_
    rw [url, namedUrl_eq_some_iff]
  calc c = ⟨c.workerCount, c.pollMs, c.batchSize, c.maxRetries, c.maxDispatchRounds,
          c.databaseUrl⟩ := rfl
    _ = g.settings := by
        rw [eq_of_sets workers, eq_of_sets poll, eq_of_sets batch, retries', eq_of_sets rounds,
          url']
        rfl

theorem InEnvironment.fine (given : g.InEnvironment env) (positive : ¬ g.HasZero) :
    ∀ v ∈ numbers, Fine v.2 (env v.1) := by
  have number : ∀ o : Option UInt64, o ≠ some 0 → Fine (2 ^ 64) (o.map fun n => toString n.toNat) :=
    fun o nonzero => fine_of_ne_zero UInt64.toNat_lt fun n set zero =>
      nonzero (set.trans (congrArg some (UInt64.toNat_inj.mp zero)))
  have counter : g.maxRetries ≠ some 0 →
      Fine (2 ^ 32) (g.maxRetries.map fun n => toString n.toNat) :=
    fun nonzero => fine_of_ne_zero UInt32.toNat_lt fun n set zero =>
      nonzero (set.trans (congrArg some (UInt32.toNat_inj.mp zero)))
  simp only [HasZero, not_or] at positive
  obtain ⟨workers, poll, batch, retries, rounds⟩ := positive
  simp only [numbers, List.forall_mem_cons]
  rw [given.workerCount, given.pollMs, given.batchSize, given.maxRetries, given.maxDispatchRounds]
  exact ⟨number _ workers, number _ poll, number _ batch, counter retries, number _ rounds, by simp⟩

/-- **From an environment** come the given settings, unless a number is zero. -/
theorem InEnvironment.read (given : g.InEnvironment env) :
    (¬ g.HasZero ∧ ofEnvironment env = .ok g.settings) ∨
      (g.HasZero ∧ ∃ e, ofEnvironment env = .error e) := by
  obtain ⟨c, read, -, configures, valid, -⟩ | ⟨e, read, -, first⟩ := ofEnvironment_cases env
  · obtain rfl := given.settings_eq configures
    exact .inl ⟨validate_settings.mp valid, read⟩
  · refine .inr ⟨?_, e, read⟩
    by_contra positive
    exact first.not_all_fine (given.fine positive)

/-! ## From an object -/

/-- A field that may be left out and has the given value is readable. -/
theorem test_of_given {α β : Type} {read : Reader β} {name : String} {write : α → Json}
    {o : Option α} {value : α → β} (found : ms.lookup name = o.map write)
    (reads : ∀ a, read (write a) = .ok (value a)) :
    ∀ v, ms.lookup (Reader.field name read).name = some v →
      (Reader.field name read).test v = .ok () := by
  cases o with
  | none =>
      intro v found'
      cases found.symm.trans found'
  | some a => exact Reader.test_of_lookup found (reads a)

theorem withDefault_of_given {α β γ : Type} {read : Reader β} {name : String} {write : α → Json}
    {o : Option α} {value : α → β} {usual : β} {f : β → Except ReadError γ}
    (found : ms.lookup name = o.map write) (reads : ∀ a, read (write a) = .ok (value a)) :
    (Reader.withDefault ms name read usual >>= f) = f ((o.map value).getD usual) := by
  cases o with
  | none => exact Reader.withDefault_bind_none found
  | some a => exact Reader.withDefault_bind found (reads a)

/-- **From an object** come the given settings, if they are valid. -/
theorem InObject.reader_eq (given : g.InObject ms) :
    reader (.obj ms) =
      match g.settings.validate with
      | .ok () => .ok g.settings
      | .error e => .error (.refused e.message) := by
  have count : ∀ n : UInt64, Reader.count (Json.ofNat n.toNat) = .ok n.toNat := fun n =>
    Reader.below_ofNat n.toNat_lt
  have milliseconds : ∀ n : UInt64, Reader.milliseconds (Json.ofNat n.toNat) = .ok n.toNat :=
    fun n => Reader.below_ofNat n.toNat_lt
  have counter : ∀ n : UInt32, Reader.counter (Json.ofNat n.toNat) = .ok n := Reader.counter_ofNat
  have text : ∀ url : String, Reader.optional Reader.string (.str url) = .ok (some url) :=
    fun _ => rfl
  have all : Reader.visit fields ms = .ok () := by
    refine Reader.visit_of_lookup given.distinct ?_
    simp only [fields, List.forall_mem_cons]
    exact ⟨test_of_given given.workerCount count, test_of_given given.pollMs milliseconds,
      test_of_given given.batchSize count, test_of_given given.maxRetries counter,
      test_of_given given.maxDispatchRounds count, test_of_given given.databaseUrl text, by simp⟩
  have url : (g.databaseUrl.map some).getD standard.databaseUrl = g.databaseUrl := by
    cases g.databaseUrl <;> rfl
  have retries : (g.maxRetries.map fun n => n).getD standard.maxRetries =
      g.maxRetries.getD standard.maxRetries := by
    cases g.maxRetries <;> rfl
  rw [reader, Reader.members_bind all, withDefault_of_given given.workerCount count,
    withDefault_of_given given.pollMs milliseconds, withDefault_of_given given.batchSize count,
    withDefault_of_given given.maxRetries counter,
    withDefault_of_given given.maxDispatchRounds count, withDefault_of_given given.databaseUrl text,
    url, retries]
  rfl

theorem InObject.read (given : g.InObject ms) :
    (¬ g.HasZero ∧ reader (.obj ms) = .ok g.settings) ∨
      (g.HasZero ∧ ∃ e, reader (.obj ms) = .error e) := by
  rw [given.reader_eq]
  cases valid : g.settings.validate with
  | ok _ => exact .inl ⟨validate_settings.mp valid, rfl⟩
  | error e =>
      refine .inr ⟨?_, _, rfl⟩
      by_contra positive
      rw [validate_settings.mpr positive] at valid
      cases valid

end Given

/-! ## What settings are made of -/

/-- **Settings that may be built on.** -/
structure Sound (c : OutboxConfig) : Prop where
  valid : c.validate = .ok ()
  positive : c.Positive
  /-- no blank text names a database -/
  databaseUrl : ∀ url, c.databaseUrl = some url → ¬ Text.AllBlank url.toList
  /-- a worker has the batch size and the poll interval of the settings -/
  worker : ∀ {κ ω : Type} [EventFamily κ] (name : String) (store : StoreId)
    (registry : Registry κ ω),
    Worker.ofConfig name store registry c = ⟨name, store, registry, c.batchSize, c.pollMs⟩
  /-- a stage has their cap and their budget -/
  stage : ∀ {κ ω : Type} [EventFamily κ] (store : StoreId) (registry : Registry κ ω),
    EventStage.ofConfig store registry c = ⟨store, registry, c.maxDispatchRounds, c.maxRetries⟩
  /-- a group has a slot for each of their workers, and builds its workers from them -/
  group : ∀ η : Type, (WorkerGroup.ofConfig c : WorkerGroup η).workerCount = c.workerCount ∧
    (WorkerGroup.ofConfig c : WorkerGroup η).config = c

theorem Sound.of_valid {c : OutboxConfig} (valid : c.validate = .ok ())
    (named : ∀ url, c.databaseUrl = some url → ¬ Text.AllBlank url.toList) : c.Sound := by
  have positive := validate_eq_ok_iff.mp valid
  refine ⟨valid, positive, named, ?_, ?_, fun η => ⟨List.length_replicate, rfl⟩⟩
  · intro κ ω _ name store registry
    rw [Worker.ofConfig, Worker.withBatchSize, Worker.withPollMs,
      Nat.max_eq_left positive.batchSize]
    rfl
  · intro κ ω _ store registry
    have retries : c.maxRetries ≠ 0 := by
      rintro zero
      have nonzero := positive.maxRetries
      rw [zero] at nonzero
      exact absurd nonzero (by decide)
    rw [EventStage.ofConfig, EventStage.withMaxRounds, EventStage.withMaxRetries,
      Nat.max_eq_left positive.maxDispatchRounds, atLeastOne, if_neg retries]
    rfl

/-- Settings that were read, in either way. -/
inductive Obtained (c : OutboxConfig) : Prop where
  | environment {env : Environment} (read : ofEnvironment env = .ok c)
  | record {v : Json} (read : reader v = .ok c)

/-- Settings from a record were checked at last, and their database is one that is named. -/
theorem checked_of_reader {v : Json} {c : OutboxConfig} (read : reader v = .ok c) :
    c.validate = .ok () ∧ ∃ value, c.databaseUrl = namedUrl value := by
  obtain ⟨ms, -, read⟩ := Reader.exists_of_bind read
  obtain ⟨workers, -, read⟩ := Reader.exists_of_bind read
  obtain ⟨poll, -, read⟩ := Reader.exists_of_bind read
  obtain ⟨batch, -, read⟩ := Reader.exists_of_bind read
  obtain ⟨retries, -, read⟩ := Reader.exists_of_bind read
  obtain ⟨rounds, -, read⟩ := Reader.exists_of_bind read
  obtain ⟨value, -, read⟩ := Reader.exists_of_bind read
  dsimp only at read
  split at read
  · next valid =>
      cases read
      exact ⟨valid, value, rfl⟩
  · cases read

theorem Obtained.sound {c : OutboxConfig} (obtained : Obtained c) : c.Sound := by
  cases obtained with
  | @environment env read =>
      obtain ⟨c', read', -, configures, valid, -⟩ | ⟨e, read', -⟩ := ofEnvironment_cases env
      · cases read.symm.trans read'
        exact .of_valid valid fun url named => ((configures.databaseUrl url).mp named).2
      · cases read.symm.trans read'
  | record read =>
      obtain ⟨valid, value, named⟩ := checked_of_reader read
      refine .of_valid valid fun url found => ?_
      rw [named] at found
      exact (namedUrl_eq_some_iff.mp found).2

/-- **The two ways agree** on what is given: both lead to the same settings, or one of the given
numbers is zero and both fail. Whatever either of them leads to may be built on. -/
theorem readers_agree {g : Given} {env : Environment} {ms : List (String × Json)}
    (spelled : g.InEnvironment env) (told : g.InObject ms) :
    ((¬ g.HasZero ∧ ofEnvironment env = .ok g.settings ∧ reader (.obj ms) = .ok g.settings) ∨
      (g.HasZero ∧ (∃ e, ofEnvironment env = .error e) ∧ ∃ e, reader (.obj ms) = .error e)) ∧
    ∀ c, Obtained c → c.Sound := by
  refine ⟨?_, fun c obtained => obtained.sound⟩
  obtain ⟨positive, fromEnvironment⟩ | ⟨zero, fromEnvironment⟩ := spelled.read
  · obtain ⟨-, fromObject⟩ | ⟨zero, -⟩ := told.read
    · exact .inl ⟨positive, fromEnvironment, fromObject⟩
    · exact absurd zero positive
  · obtain ⟨positive, -⟩ | ⟨-, fromObject⟩ := told.read
    · exact absurd zero positive
    · exact .inr ⟨zero, fromEnvironment, fromObject⟩

namespace Given

/-- Some of the largest settings, and a database of blanks. -/
def largest : Given where
  workerCount := some 18446744073709551615
  maxRetries := some 4294967295
  databaseUrl := some " "

/-- An environment that gives them, among other variables. -/
def largestEnvironment : Environment := fun key =>
  if key = workersKey then some "18446744073709551615"
  else if key = maxRetriesKey then some "4294967295"
  else if key = databaseUrlKey then some " "
  else if key = "PATH" then some "/bin"
  else none

/-- An object that gives them, among other members. -/
def largestMembers : List (String × Json) :=
  [("worker_count", .int 18446744073709551615), ("path", .str "/bin"), ("database_url", .str " "),
    ("max_retries", .int 4294967295)]

end Given

theorem readers_agree_largest :
    Given.largest.InEnvironment Given.largestEnvironment ∧
      Given.largest.InObject Given.largestMembers ∧
      ofEnvironment Given.largestEnvironment = .ok Given.largest.settings ∧
      reader (.obj Given.largestMembers) = .ok Given.largest.settings ∧
      Given.largest.settings.Sound := by
  have spelled : Given.largest.InEnvironment Given.largestEnvironment := by
    constructor <;> decide +kernel
  have told : Given.largest.InObject Given.largestMembers :=
    ⟨by decide, rfl, rfl, rfl, rfl, rfl, rfl⟩
  obtain ⟨⟨-, fromEnvironment, fromObject⟩ | ⟨zero, -⟩, sound⟩ := readers_agree spelled told
  · exact ⟨spelled, told, fromEnvironment, fromObject, sound _ (.environment fromEnvironment)⟩
  · exact absurd zero (Given.validate_settings.mp (by decide))

end OutboxConfig

end MaintenanceOutbox
