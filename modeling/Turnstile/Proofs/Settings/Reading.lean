import Turnstile.Proofs.Gateway.Start
import Turnstile.Proofs.Settings.Lists
import Turnstile.Proofs.Text.Integers

/-!
# Settings read from texts

A configuration holds exactly what the texts of the variables say, or what a variable
stands for where it is not set.  The variables are read in a fixed order, each on its
own, and the first one that cannot be read is reported; only when all of them can be
are the rate limit settings held against each other.
-/

namespace Turnstile

namespace Settings

open Text

/-! ## What the texts say -/

/-- The numbers that an integer setting can have: those below a bound, and the one
that stands for it where it is not set. -/
structure Range where
  bound : Nat
  standard : Nat
  standard_lt : standard < bound

/-- The range of a variable that is an integer. -/
def Variable.range? : Variable → Option Range
  | port => some ⟨2 ^ 16, 3000, by decide⟩
  | capacity => some ⟨2 ^ 32, 100, by decide⟩
  | refillRate => some ⟨2 ^ 32, 10, by decide⟩
  | refillInterval => some ⟨2 ^ 64, 1000, by decide⟩
  | sweepInterval => some ⟨2 ^ 64, 60, by decide⟩
  | metricsPort => some ⟨2 ^ 16, 0, by decide⟩
  | host | exemptPaths | trustedProxies => none

namespace Assignment

variable {assignment : Assignment}

/-- The number that a variable is set to between blanks, or that stands for it. -/
def Gives (assignment : Assignment) (setting : Variable) (value : Nat) : Prop :=
  ∃ range, setting.range? = some range ∧
    match assignment setting with
    | none => value = range.standard
    | some text => value < range.bound ∧ IsIntegerText (trim text.toList) value

/-- Whether a variable can be read.  A list of paths can if its pieces, those that are
blank apart, start with a slash after their leading blanks; other texts always can. -/
def Accepts (assignment : Assignment) : Variable → Prop
  | .host | .trustedProxies => True
  | .exemptPaths =>
      ∀ text, assignment .exemptPaths = some text →
        ∀ piece ∈ split ',' text.toList, trim piece ≠ [] →
          (trim piece).head? = some '/'
  | setting => ∃ value, assignment.Gives setting value

/-- The order that the variables are read in. -/
def readingOrder : List Variable :=
  [.port, .capacity, .refillRate, .refillInterval, .exemptPaths, .sweepInterval,
    .metricsPort]

/-- The messages that tell of a variable that cannot be read. -/
def Blames (assignment : Assignment) (message : String) : Variable → Prop
  | .exemptPaths =>
      ∃ text entry, assignment .exemptPaths = some text ∧
        IsFirstFailing IsPath (readList text) entry ∧
        message = "Configuration error: RATE_LIMIT_EXEMPT_PATHS entry '" ++ entry
          ++ "' must start with '/'"
  | setting =>
      ∃ cause : IntegerError,
        message = "Configuration error: Invalid " ++ setting.name ++ ": "
          ++ cause.message

/-! ## One variable -/

theorem readSetting_eq_ok_iff
    {setting : Variable}
    {range : Range}
    (known : setting.range? = some range)
    {value : Nat} :
    Config.readSetting assignment setting range.bound range.standard = .ok value ↔
      assignment.Gives setting value := by
  have positive : 0 < range.bound := Nat.zero_lt_of_lt range.standard_lt
  rw [Gives, Config.readSetting]
  simp only [known, Option.some.injEq, exists_eq_left']
  cases assignment setting with
  | none => rw [Except.ok.injEq, eq_comm]
  | some text =>
      dsimp only
      rw [← readInteger_eq_ok_iff_isIntegerText positive]
      cases readInteger range.bound (trim text.toList) <;> simp

theorem Gives.unique
    {setting : Variable}
    {first second : Nat}
    (one : assignment.Gives setting first)
    (other : assignment.Gives setting second) : first = second := by
  obtain ⟨range, known, -⟩ := id one
  rw [← readSetting_eq_ok_iff known] at one other
  rw [one] at other
  exact Except.ok.inj other

theorem Gives.lt_bound
    {setting : Variable}
    {value : Nat}
    (given : assignment.Gives setting value)
    {range : Range}
    (known : setting.range? = some range) : value < range.bound := by
  obtain ⟨own, same, given⟩ := given
  rw [known, Option.some.injEq] at same
  subst same
  cases text : assignment setting with
  | none =>
      rw [text] at given
      exact given ▸ range.standard_lt
  | some text =>
      simp only [text] at given
      exact given.1

theorem accepts_of_range?
    {setting : Variable}
    {range : Range}
    (known : setting.range? = some range) :
    assignment.Accepts setting ↔ ∃ value, assignment.Gives setting value := by
  cases setting <;> first | exact Iff.rfl | cases known

theorem message_invalidInteger (setting : Variable) (cause : IntegerError) :
    (ConfigError.invalidInteger setting cause).message =
      "Configuration error: Invalid " ++ setting.name ++ ": " ++ cause.message := by
  have message : (ConfigError.invalidInteger setting cause).message =
      "Configuration error: " ++ ("Invalid " ++ setting.name ++ ": " ++ cause.message) :=
    rfl
  have front : "Configuration error: " ++ "Invalid " =
      "Configuration error: Invalid " := by
    decide +kernel
  rw [message, ← String.append_assoc, ← String.append_assoc, ← String.append_assoc,
    front]

theorem blames_of_range?
    {setting : Variable}
    {range : Range}
    (known : setting.range? = some range)
    (cause : IntegerError) :
    assignment.Blames (ConfigError.invalidInteger setting cause).message setting := by
  rw [message_invalidInteger]
  cases setting <;> first | exact ⟨cause, rfl⟩ | cases known

/-! ## Variables in order -/

/-- A computation that reads variables in order: either it finds that all of them can
be read, or it fails with a message on the first one that cannot. -/
def Judges
    {α : Type}
    (assignment : Assignment)
    (order : List Variable)
    (reading : Except ConfigError α) : Prop :=
  match reading with
  | .ok _ => ∀ setting ∈ order, assignment.Accepts setting
  | .error error =>
      ∃ setting, IsFirstFailing assignment.Accepts order setting ∧
        assignment.Blames error.message setting

/-- One reading after the other judges all the variables of both in order. -/
theorem Judges.bind
    {α β : Type}
    {earlier later : List Variable}
    {first : Except ConfigError α}
    {next : α → Except ConfigError β}
    (judgesFirst : assignment.Judges earlier first)
    (judgesNext : ∀ value, assignment.Judges later (next value)) :
    assignment.Judges (earlier ++ later) (first >>= next) := by
  cases first with
  -- a failure of the first reading hides whatever the next one would find
  | error error =>
      obtain ⟨setting, failing, blamed⟩ := judgesFirst
      exact ⟨setting, failing.append_right later, blamed⟩
  | ok value =>
      have judged := judgesNext value
      change assignment.Judges (earlier ++ later) (next value)
      generalize next value = computed at judged
      cases computed with
      | error error =>
          obtain ⟨setting, failing, blamed⟩ := judged
          exact ⟨setting, failing.append_left judgesFirst, blamed⟩
      | ok result => exact List.forall_mem_append.2 ⟨judgesFirst, judged⟩

theorem isFirstFailing_singleton
    {setting : Variable}
    (fails : ¬assignment.Accepts setting) :
    IsFirstFailing assignment.Accepts [setting] setting :=
  ⟨[], [], rfl, nofun, fails⟩

theorem judges_readSetting
    (assignment : Assignment)
    (setting : Variable)
    {range : Range}
    (known : setting.range? = some range) :
    assignment.Judges [setting]
      (Config.readSetting assignment setting range.bound range.standard) := by
  cases read : Config.readSetting assignment setting range.bound range.standard with
  | ok value =>
      rw [readSetting_eq_ok_iff known] at read
      exact List.forall_mem_singleton.2 ((accepts_of_range? known).2 ⟨value, read⟩)
  | error error =>
      have fails : ¬assignment.Accepts setting := by
        rw [accepts_of_range? known]
        rintro ⟨value, given⟩
        rw [← readSetting_eq_ok_iff known, read] at given
        cases given
      refine ⟨setting, isFirstFailing_singleton fails, ?_⟩
      have reported : ∃ cause, error = .invalidInteger setting cause := by
        rw [Config.readSetting] at read
        split at read
        · cases read
        · split at read
          · cases read
          · next cause _ => exact ⟨cause, (Except.error.inj read).symm⟩
      obtain ⟨cause, rfl⟩ := reported
      exact blames_of_range? known cause

/-- The entries of a list are paths exactly if its pieces begin with a slash. -/
theorem forall_isPath_readList_iff (text : String) :
    (∀ entry ∈ readList text, IsPath entry) ↔
      ∀ piece ∈ split ',' text.toList, trim piece ≠ [] →
        (trim piece).head? = some '/' := by
  simp only [readList, listEntries, IsPath, List.forall_mem_map, List.mem_filter,
    and_imp, String.toList_ofList, Bool.not_eq_true', List.isEmpty_eq_false_iff]

theorem judges_readPaths (assignment : Assignment) :
    assignment.Judges [.exemptPaths]
      (readPaths ((assignment .exemptPaths).getD "/health,/ready")) := by
  cases set : assignment .exemptPaths with
  | none =>
      have standard : readPaths "/health,/ready" = .ok ["/health", "/ready"] := by
        decide +kernel
      rw [Option.getD_none, standard]
      refine List.forall_mem_singleton.2 fun text present => ?_
      rw [set] at present
      cases present
  | some text =>
      rw [Option.getD_some]
      have accepts : assignment.Accepts .exemptPaths ↔
          ∀ entry ∈ readList text, IsPath entry := by
        rw [forall_isPath_readList_iff, Accepts, set]
        simp
      cases read : readPaths text with
      | ok paths =>
          exact List.forall_mem_singleton.2
            (accepts.2 (readPaths_eq_ok_iff.1 read).1)
      | error error =>
          obtain ⟨entry, first, rfl⟩ := readPaths_eq_error_iff.1 read
          exact ⟨_, isFirstFailing_singleton (accepts.not.2 first.not_forall), text,
            entry, set, first, message_relativeExemptPath entry⟩

theorem judges_readAll (assignment : Assignment) :
    assignment.Judges readingOrder (Config.readAll assignment) := by
  have number (setting : Variable) {range : Range}
      (known : setting.range? = some range) :=
    judges_readSetting assignment setting known
  refine (number .port rfl).bind fun port => ?_
  refine (number .capacity rfl).bind fun capacity => ?_
  refine (number .refillRate rfl).bind fun refillRate => ?_
  refine (number .refillInterval rfl).bind fun refillInterval => ?_
  refine (judges_readPaths assignment).bind fun exemptPaths => ?_
  refine (number .sweepInterval rfl).bind fun sweepSeconds => ?_
  refine (number .metricsPort rfl).bind fun metricsPort => ?_
  exact List.forall_mem_nil _

/-! ## All variables -/

/-- Whether the rate limit settings go together: without a capacity all do, and with one
the rate is positive and the interval is positive and fits a signed word. -/
def IsConsistent (assignment : Assignment) : Prop :=
  ∀ capacity refillRate intervalMs,
    assignment.Gives .capacity capacity → assignment.Gives .refillRate refillRate →
      assignment.Gives .refillInterval intervalMs →
        capacity = 0 ∨
          0 < refillRate ∧ 1 ≤ intervalMs ∧ intervalMs ≤ 0x7FFF_FFFF_FFFF_FFFF

/-- What is reported of rate limit settings that do not go together. -/
inductive Clash (capacity refillRate intervalMs : Nat) : String → Prop where
  | rate :
      capacity ≠ 0 → refillRate = 0 →
        Clash capacity refillRate intervalMs
          "Configuration error: RATE_LIMIT_REFILL_RATE must be greater than 0"
  | interval :
      capacity ≠ 0 → refillRate ≠ 0 → intervalMs = 0 →
        Clash capacity refillRate intervalMs
          "Configuration error: RATE_LIMIT_REFILL_INTERVAL_MS must be greater than 0"
  | tooLarge :
      capacity ≠ 0 → refillRate ≠ 0 → 0x7FFF_FFFF_FFFF_FFFF < intervalMs →
        Clash capacity refillRate intervalMs
          ("Configuration error: Invalid rate limit configuration: refill interval of "
            ++ decimalText intervalMs ++ " ms is too large")

end Assignment

namespace Config

variable {assignment : Assignment} {config : Config} {error : ConfigError}

/-- A configuration that holds what the texts of the variables say. -/
structure Reflects (config : Config) (assignment : Assignment) : Prop where
  host : config.host = (assignment .host).getD "0.0.0.0"
  port : assignment.Gives .port config.port.toNat
  capacity : assignment.Gives .capacity config.capacity.toNat
  refillRate : assignment.Gives .refillRate config.refillRate.toNat
  refillInterval : assignment.Gives .refillInterval config.refillIntervalMs.toNat
  exemptPaths :
    config.exemptPaths = readList ((assignment .exemptPaths).getD "/health,/ready")
  trustedProxies : config.trustedProxies = readList ((assignment .trustedProxies).getD "")
  sweepInterval : ∃ seconds, assignment.Gives .sweepInterval seconds ∧
    config.sweepIntervalMs = seconds * 1000
  metricsPort : assignment.Gives .metricsPort config.metricsPort.toNat

theorem reflects_of_readAll (read : readAll assignment = .ok config) :
    config.Reflects assignment := by
  obtain ⟨port, readPort, read⟩ := exists_ok_of_bind read
  obtain ⟨capacity, readCapacity, read⟩ := exists_ok_of_bind read
  obtain ⟨refillRate, readRate, read⟩ := exists_ok_of_bind read
  obtain ⟨refillInterval, readInterval, read⟩ := exists_ok_of_bind read
  obtain ⟨exemptPaths, readExempt, read⟩ := exists_ok_of_bind read
  obtain ⟨sweepSeconds, readSweep, read⟩ := exists_ok_of_bind read
  obtain ⟨metricsPort, readMetrics, read⟩ := exists_ok_of_bind read
  cases read
  have gives (setting : Variable) {range : Range} {value : Nat}
      (known : setting.range? = some range)
      (read : readSetting assignment setting range.bound range.standard = .ok value) :
      assignment.Gives setting value ∧ value < range.bound :=
    have given := (Assignment.readSetting_eq_ok_iff known).1 read
    ⟨given, given.lt_bound known⟩
  have portGiven := gives .port rfl readPort
  have capacityGiven := gives .capacity rfl readCapacity
  have rateGiven := gives .refillRate rfl readRate
  have intervalGiven := gives .refillInterval rfl readInterval
  have sweepGiven := gives .sweepInterval rfl readSweep
  have metricsGiven := gives .metricsPort rfl readMetrics
  exact {
    host := rfl
    port := by rw [UInt16.toNat_ofNat_of_lt' portGiven.2]; exact portGiven.1
    capacity := by rw [UInt32.toNat_ofNat_of_lt' capacityGiven.2]; exact capacityGiven.1
    refillRate := by rw [UInt32.toNat_ofNat_of_lt' rateGiven.2]; exact rateGiven.1
    refillInterval := by
      rw [UInt64.toNat_ofNat_of_lt' intervalGiven.2]; exact intervalGiven.1
    exemptPaths := (readPaths_eq_ok_iff.1 readExempt).2
    trustedProxies := rfl
    sweepInterval := ⟨sweepSeconds, sweepGiven.1, rfl⟩
    metricsPort := by
      rw [UInt16.toNat_ofNat_of_lt' metricsGiven.2]; exact metricsGiven.1 }

theorem ofAssignment_eq_ok_iff :
    ofAssignment assignment = .ok config ↔
      readAll assignment = .ok config ∧ config.validate = .ok () := by
  rw [ofAssignment]
  cases readAll assignment with
  | error error => exact iff_of_false nofun nofun
  | ok read =>
      change (read.validate >>= fun _ => pure read) = _ ↔ _
      rw [Except.ok.injEq]
      constructor
      · intro succeeded
        obtain ⟨⟨⟩, validated, same⟩ := exists_ok_of_bind succeeded
        cases same
        exact ⟨rfl, validated⟩
      · rintro ⟨rfl, validated⟩
        rw [validated]
        rfl

theorem ofAssignment_eq_error_iff :
    ofAssignment assignment = .error error ↔
      readAll assignment = .error error ∨
        ∃ config, readAll assignment = .ok config ∧ config.validate = .error error := by
  rw [ofAssignment]
  cases readAll assignment with
  | error other => simp [bind, Except.bind]
  | ok read =>
      change (read.validate >>= fun _ => pure read) = _ ↔ _
      cases validated : read.validate <;> simp [validated]

theorem isConsistent_iff (reflects : config.Reflects assignment) :
    assignment.IsConsistent ↔ config.validate = .ok () := by
  have zero : config.capacity = 0 ↔ config.capacity.toNat = 0 :=
    UInt32.toNat_inj.symm
  rw [validate_eq_ok_iff_bounds, Ne, zero]
  constructor
  · intro consistent on
    have bounds := consistent _ _ _ reflects.capacity reflects.refillRate
      reflects.refillInterval
    omega
  · intro bounds capacity refillRate intervalMs first second third
    rw [first.unique reflects.capacity, second.unique reflects.refillRate,
      third.unique reflects.refillInterval]
    omega

theorem message_refillIntervalTooLarge (intervalMs : UInt64) :
    (ConfigError.invalidPolicy (.refillIntervalTooLarge intervalMs)).message =
      "Configuration error: Invalid rate limit configuration: refill interval of "
        ++ decimalText intervalMs.toNat ++ " ms is too large" := by
  have message :
      (ConfigError.invalidPolicy (.refillIntervalTooLarge intervalMs)).message =
        "Configuration error: " ++ ("Invalid rate limit configuration: "
          ++ ("refill interval of " ++ decimalText intervalMs.toNat
            ++ " ms is too large")) := rfl
  have front : "Configuration error: " ++ "Invalid rate limit configuration: " ++
      "refill interval of " =
        "Configuration error: Invalid rate limit configuration: refill interval of " := by
    decide +kernel
  rw [message, ← String.append_assoc, ← String.append_assoc, ← String.append_assoc,
    front]

/-- What validation refuses is reported as a clash of the rate limit settings. -/
theorem clash_of_validate (refused : config.validate = .error error) :
    Assignment.Clash config.capacity.toNat config.refillRate.toNat
      config.refillIntervalMs.toNat error.message := by
  rw [validate] at refused
  split at refused
  · cases refused
  next on =>
  rw [Bool.not_eq_true', Bool.not_eq_false, isLimiting_eq_true_iff] at on
  have limited : config.capacity.toNat ≠ 0 := fun zero => on (UInt32.toNat_inj.1 zero)
  split at refused
  · next zero =>
      cases refused
      exact .rate limited (by rw [zero]; rfl)
  next rateNonzero =>
  have regained : config.refillRate.toNat ≠ 0 :=
    fun zero => rateNonzero (UInt32.toNat_inj.1 zero)
  split at refused
  · next zero =>
      cases refused
      exact .interval limited regained (by rw [zero]; rfl)
  next intervalNonzero =>
  split at refused
  · cases refused
  · next cause unformed =>
      cases refused
      obtain ⟨large, rfl⟩ :=
        Policy.make_eq_error_of_ne_zero unformed on rateNonzero intervalNonzero
      rw [message_refillIntervalTooLarge]
      exact .tooLarge limited regained large

end Config

/-! ## The whole reading -/

/-- A configuration is read exactly if every variable can be read and the rate limit
settings go together, and it holds what the texts say.  Otherwise the message tells of
the first variable in order that cannot be read, or, if all can be, of the clash of the
rate limit settings. -/
theorem Config.reading_is_exact (assignment : Assignment) :
    ((∃ config, ofAssignment assignment = .ok config) ↔
        (∀ setting ∈ Assignment.readingOrder, assignment.Accepts setting) ∧
          assignment.IsConsistent) ∧
      (∀ config, ofAssignment assignment = .ok config → config.Reflects assignment) ∧
      ∀ error, ofAssignment assignment = .error error →
        (∃ setting,
          IsFirstFailing assignment.Accepts Assignment.readingOrder setting ∧
            assignment.Blames error.message setting) ∨
          (∀ setting ∈ Assignment.readingOrder, assignment.Accepts setting) ∧
            ∃ capacity refillRate intervalMs,
              assignment.Gives .capacity capacity ∧
                assignment.Gives .refillRate refillRate ∧
                assignment.Gives .refillInterval intervalMs ∧
                Assignment.Clash capacity refillRate intervalMs error.message := by
  have judged := Assignment.judges_readAll assignment
  refine ⟨⟨?complete, ?sound⟩, ?exact, ?blamed⟩
  case complete =>
    rintro ⟨config, read⟩
    obtain ⟨read, validated⟩ := ofAssignment_eq_ok_iff.1 read
    rw [read] at judged
    exact ⟨judged, (isConsistent_iff (reflects_of_readAll read)).2 validated⟩
  case sound =>
    rintro ⟨accepted, consistent⟩
    cases read : readAll assignment with
    | error error =>
        rw [read] at judged
        obtain ⟨setting, first, -⟩ := judged
        exact absurd accepted first.not_forall
    | ok config =>
        have validated := (isConsistent_iff (reflects_of_readAll read)).1 consistent
        exact ⟨config, ofAssignment_eq_ok_iff.2 ⟨read, validated⟩⟩
  case exact =>
    intro config read
    exact reflects_of_readAll (ofAssignment_eq_ok_iff.1 read).1
  case blamed =>
    intro error failed
    obtain unread | ⟨config, read, refused⟩ := ofAssignment_eq_error_iff.1 failed
    · rw [unread] at judged
      exact .inl judged
    · rw [read] at judged
      have reflects := reflects_of_readAll read
      exact .inr ⟨judged, _, _, _, reflects.capacity, reflects.refillRate,
        reflects.refillInterval, clash_of_validate refused⟩

/-- A sign, leading zeros, blanks and the largest interval are read as they are written.
Of a capacity that is too large by one and a metrics port without digits the capacity,
which is read first, is reported. -/
theorem Config.written_numbers_are_read :
    let sound : Assignment := fun
      | .port => some "\u2003+0008080\t"
      | .refillInterval => some "9223372036854775807"
      | .exemptPaths => some " ,/live,"
      | _ => none
    let faulty : Assignment := fun
      | .capacity => some "4294967296"
      | .metricsPort => some "x"
      | _ => none
    (∃ config, ofAssignment sound = .ok config ∧ config.Reflects sound ∧
        config.port = 8080 ∧ config.refillIntervalMs = 0x7FFF_FFFF_FFFF_FFFF ∧
        config.exemptPaths = ["/live"]) ∧
      ∃ setting, IsFirstFailing faulty.Accepts Assignment.readingOrder setting ∧
        faulty.Blames ("Configuration error: Invalid RATE_LIMIT_CAPACITY: "
          ++ "number too large to fit in target type") setting := by
  intro sound faulty
  constructor
  · have read : ofAssignment sound =
        .ok { standard with
          port := 8080, refillIntervalMs := 0x7FFF_FFFF_FFFF_FFFF
          exemptPaths := ["/live"] } := by
      decide +kernel
    exact ⟨_, read, (reading_is_exact sound).2.1 _ read, rfl, rfl, rfl⟩
  · have refused : readSetting faulty .capacity (2 ^ 32) 100 =
        .error (.invalidInteger .capacity .tooLarge) := by
      decide +kernel
    have failed : ofAssignment faulty =
        .error (.invalidInteger .capacity .tooLarge) := by
      decide +kernel
    obtain first | ⟨accepted, -⟩ := (reading_is_exact faulty).2.2 _ failed
    · exact first
    · obtain ⟨value, given⟩ := accepted .capacity (by decide)
      rw [← Assignment.readSetting_eq_ok_iff rfl, refused] at given
      cases given

end Settings
end Turnstile
