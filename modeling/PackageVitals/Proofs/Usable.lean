import PackageVitals.Proofs.Casing
import PackageVitals.Proofs.Filing
import PackageVitals.Proofs.Lowering

/-!
# Settings that can be used

Whatever stands in the environment, there are two outcomes (`Settings.usable_or_refused`). Either
there are settings, and they are **usable** (`Settings.Usable`): there is a time to wait for an
answer, something is asked at least once, and whatever is in the system map can be found there.
Or the environment is refused, and for a reason that can be pointed at in it
(`Settings.Refuses`).

Two of these are more than checks that were made. A number passes its check by its sign and its
mantissa, and what is wanted is a comparison, which holds of nothing that is not a number. And an
ecosystem is filed in lower case and looked up in lower case, so it is found because lower case
is left alone by lower case.
-/

namespace PackageVitals

/-! ## Comparisons -/

namespace Double

/-- **Whether a number is greater than a whole one.** What is not a number is not. -/
def Exceeds : Double → Int → Prop
  | .nan, _ => False
  | .infinite negative, _ => negative = false
  | .finite negative m e, n => n * (ratio m e).2 < Number.signed negative (ratio m e).1

/-- **Whether a number is a whole one or greater.** What is not a number is not. -/
def IsAtLeast : Double → Int → Prop
  | .nan, _ => False
  | .infinite negative, _ => negative = false
  | .finite negative m e, n => n * (ratio m e).2 ≤ Number.signed negative (ratio m e).1

theorem ratio_fst_eq_zero_iff {m : Nat} {e : Int} : (ratio m e).1 = 0 ↔ m = 0 := by
  unfold ratio scaled
  split
  · exact Iff.rfl
  · have := twoTo_pos (-(-e)).toNat
    rw [Nat.mul_eq_zero]
    omega

theorem exceeds_zero_iff {x : Double} : x.Exceeds 0 ↔ x.isPositive = true := by
  cases x with
  | nan => exact iff_of_false id nofun
  | infinite negative => cases negative <;> simp [Exceeds, isPositive]
  | finite negative m e =>
    have := ratio_fst_eq_zero_iff (m := m) (e := e)
    cases negative
    · simp [Exceeds, isPositive, Number.signed]
      omega
    · simp [Exceeds, isPositive, Number.signed]

theorem isAtLeast_zero_iff {x : Double} : x.IsAtLeast 0 ↔ x.isNonnegative = true := by
  cases x with
  | nan => exact iff_of_false id nofun
  | infinite negative => cases negative <;> simp [IsAtLeast, isNonnegative, isPositive, isZero]
  | finite negative m e =>
    have := ratio_fst_eq_zero_iff (m := m) (e := e)
    cases negative <;> simp [IsAtLeast, isNonnegative, isPositive, isZero, Number.signed] <;> omega

end Double

/-! ## Ecosystems in a map -/

namespace SystemMap

/-- **Whether a text stands for an ecosystem**: it is not empty, has no blanks around it and is
in lower case. -/
structure IsKey (k : String) : Prop where
  /-- It is not empty. -/
  ne_empty : k ≠ ""
  /-- It has no blanks around it. -/
  strip : Text.strip k = k
  /-- It is in lower case. -/
  lower : Text.lowerCase k = k

instance (k : String) : Decidable (IsKey k) :=
  decidable_of_iff (k ≠ "" ∧ Text.strip k = k ∧ Text.lowerCase k = k)
    ⟨fun ⟨h, h', h''⟩ => ⟨h, h', h''⟩, fun ⟨h, h', h''⟩ => ⟨h, h', h''⟩⟩

/-- What a piece files stands for an ecosystem. -/
theorem Files.isKey {piece : List Char} {k v : String} (h : Files piece k v) : IsKey k := by
  cases h with
  | @pair left right hmark hleft hright =>
    refine ⟨fun he => hleft (trim_eq_nil_iff.mp ?_), ?_, ?_⟩
    · exact Text.lowerAfter_eq_nil_iff.mp (String.ofList_injective he)
    · rw [Text.strip, String.toList_ofList, Text.trim_lower_trim]
    · rw [Text.lowerCase, String.toList_ofList, Text.lower_lower]

/-- An entry is found under its ecosystem. -/
theorem isSome_find?_of_mem {m : SystemMap} {e : String × String} (h : e ∈ m) :
    (m.find? e.1).isSome = true := by
  rw [find?, Option.isSome_map, List.find?_isSome]
  exact ⟨e, h, beq_self_eq_true _⟩

/-- **Whatever stands in a map that was read stands there for an ecosystem.** -/
theorem isKey_of_parse {raw : String} {m : SystemMap} (h : parse raw = .ok m) {e : String × String}
    (he : e ∈ m) : IsKey e.1 := by
  obtain ⟨v, hv⟩ := Option.isSome_iff_exists.mp (isSome_find?_of_mem he)
  rcases (find?_of_addAll h).mp hv with ⟨-, piece, -, -, hfiles, -⟩ | ⟨-, hempty⟩
  · exact hfiles.isKey
  · cases hempty

/-- **Its system is found in whatever case it is written.** -/
theorem isSome_systemFor {m : SystemMap} {e : String × String} (he : e ∈ m) (hkey : IsKey e.1)
    {ecosystem : String} (h : ecosystem.toList.map Char.toLower = e.1.toList.map Char.toLower) :
    (m.systemFor ecosystem).isSome = true := by
  have hlower : Text.lowerCase ecosystem = e.1 := by
    rw [← hkey.lower, Text.lowerCase, ← Text.lower_map_toLower, h, Text.lower_map_toLower]
    rfl
  rw [systemFor, hlower]
  exact isSome_find?_of_mem he

end SystemMap

/-! ## Levels -/

namespace LogLevel

theorem mem_all (l : LogLevel) : l ∈ all := by
  cases l <;> decide

theorem upperCase_name (l : LogLevel) : Text.upperCase l.name = l.name := by
  cases l <;> decide

/-- A level is asked for by its name. -/
theorem ofName?_eq_some_iff {name : String} {l : LogLevel} :
    ofName? name = some l ↔ l.name = name := by
  constructor
  · exact fun h => by simpa using List.find?_some h
  · rintro rfl
    cases l <;> decide

theorem ofName?_eq_none_iff {name : String} :
    ofName? name = none ↔ ∀ l : LogLevel, l.name ≠ name := by
  unfold ofName?
  simp [mem_all]

end LogLevel

/-! ## Environments -/

namespace Settings

/-- **Whether settings are usable**, as those that an environment asks for. -/
structure Usable (env : Environment) (s : Settings) : Prop where
  /-- A request may take some time. -/
  timeout : s.timeout.Exceeds 0
  /-- Statistics are asked for at least once. -/
  attempts : 1 ≤ s.statsAttempts
  /-- What lies between two such requests is not negative. -/
  interval : s.statsInterval.IsAtLeast 0
  /-- The name of the log level is the one asked for, in upper case. -/
  level : s.logLevel.name =
    ((trimmed? env "PKGHEALTH_LOG_LEVEL").map Text.upperCase).getD "WARNING"
  /-- Its name is in upper case. -/
  upper : Text.upperCase s.logLevel.name = s.logLevel.name
  /-- It is known by its name. -/
  known : LogLevel.ofName? s.logLevel.name = some s.logLevel
  /-- What stands for an ecosystem is not empty and has no blanks around it. -/
  trimmed : ∀ e ∈ s.systems, e.1 ≠ "" ∧ Text.strip e.1 = e.1
  /-- Its system is found in whatever case it is written. -/
  found : ∀ e ∈ s.systems, ∀ ecosystem : String,
    ecosystem.toList.map Char.toLower = e.1.toList.map Char.toLower →
      (s.depsDev.systems.systemFor ecosystem).isSome = true

section Numbers

variable {α : Type} {env : Environment} {name field : String} {default : α}
  {read : List Char → Except Complaint α} {inBounds : α → Bool} {outOfBounds : Complaint}

/-- **Whether a variable writes no number that is wanted, and for what reason**: it writes none,
or one that is out of bounds. -/
def Misread (env : Environment) (name : String) (read : List Char → Except Complaint α)
    (wanted : α → Prop) (outOfBounds c : Complaint) : Prop :=
  ∃ text, trimmed? env name = some text ∧ (read text.toList = .error c ∨
    ∃ x, read text.toList = .ok x ∧ ¬ wanted x ∧ c = outOfBounds)

/-- A number that is not refused is the default or within bounds. -/
theorem number_eq_ok {x : α}
    (h : number env name field default read inBounds outOfBounds = .ok x) :
    x = default ∨ inBounds x = true := by
  unfold number at h
  split at h
  · exact .inl (Except.ok.inj h).symm
  · split at h
    · cases h
    · split at h
      · next hx => exact .inr (Except.ok.inj h ▸ hx)
      · cases h

/-- A number is refused if and only if the variable writes none that is wanted, and the issue
names its field. -/
theorem number_eq_error_iff {wanted : α → Prop} (hwanted : ∀ x, wanted x ↔ inBounds x = true)
    {i : Issue} : number env name field default read inBounds outOfBounds = .error i ↔
      ∃ c, i = ⟨[field], c⟩ ∧ Misread env name read wanted outOfBounds c := by
  unfold number Misread
  cases trimmed? env name with
  | none => simp
  | some text =>
    dsimp only
    simp only [Option.some.injEq, exists_eq_left']
    cases hread : read text.toList with
    | error c => simp [eq_comm]
    | ok x =>
      dsimp only
      by_cases hx : inBounds x = true
      · rw [if_pos hx]
        refine iff_of_false nofun ?_
        rintro ⟨c, -, h | ⟨y, h, hy, -⟩⟩
        · cases h
        · exact hy ((hwanted y).mpr (Except.ok.inj h ▸ hx))
      · rw [if_neg hx]
        constructor
        · intro h
          obtain rfl := Except.error.inj h
          exact ⟨_, rfl, .inr ⟨x, rfl, mt (hwanted x).mp hx, rfl⟩⟩
        · rintro ⟨c, rfl, h | ⟨y, -, -, rfl⟩⟩
          · cases h
          · rfl

end Numbers

/-- **What is wrong with the numbers in an environment**, with the field each is for. -/
inductive Flaw (env : Environment) : Issue → Prop
  | timeout {c : Complaint} : Misread env "PKGHEALTH_HTTP_TIMEOUT" Number.readPlainDouble
      (Double.Exceeds · 0) .notAbove c → Flaw env ⟨["http_timeout"], c⟩
  | attempts {c : Complaint} : Misread env "PKGHEALTH_STATS_MAX_ATTEMPTS" Number.readPlainInt
      (1 ≤ ·) .below c → Flaw env ⟨["stats_max_attempts"], c⟩
  | interval {c : Complaint} : Misread env "PKGHEALTH_STATS_RETRY_INTERVAL" Number.readPlainDouble
      (Double.IsAtLeast · 0) .below c → Flaw env ⟨["stats_retry_interval"], c⟩

/-- **Why an environment is refused.** -/
inductive Refuses (env : Environment) : ConfigProblem → Prop
  /-- A piece of the system map is malformed, and it is the first one. -/
  | badMapping {raw : String} {piece : List Char} :
      env.get? "PKGHEALTH_DEPS_DEV_SYSTEMS" = some raw →
      SystemMap.FirstMalformed (SystemMap.pieces raw) piece →
      Refuses env (.badMapping (String.ofList (Text.trim piece)))
  /-- No level has the name asked for, in upper case. -/
  | unknownLevel {name : String} : trimmed? env "PKGHEALTH_LOG_LEVEL" = some name →
      (∀ l : LogLevel, l.name ≠ Text.upperCase name) → Refuses env (.unknownLevel name)
  /-- Some numbers are flawed, and they are all named. -/
  | refused {issues : List Issue} : issues ≠ [] → (∀ i, i ∈ issues ↔ Flaw env i) →
      Refuses env (.refused issues)

section Bounds

variable {env : Environment}

theorem exceeds_of_timeoutOf {x : Double} (h : timeoutOf env = .ok x) : x.Exceeds 0 := by
  refine Double.exceeds_zero_iff.mpr ?_
  rcases number_eq_ok h with rfl | h
  · decide
  · exact h

theorem le_of_attemptsOf {n : Int} (h : attemptsOf env = .ok n) : 1 ≤ n := by
  rcases number_eq_ok h with rfl | h
  · decide
  · exact of_decide_eq_true h

theorem isAtLeast_of_intervalOf {x : Double} (h : intervalOf env = .ok x) : x.IsAtLeast 0 := by
  refine Double.isAtLeast_zero_iff.mpr ?_
  rcases number_eq_ok h with rfl | h
  · decide
  · exact h

end Bounds

variable (env : Environment)

theorem systemsOf_cases :
    (∃ m, systemsOf env = .ok m ∧ ∀ e ∈ m, SystemMap.IsKey e.1) ∨
      ∃ p, systemsOf env = .error p ∧ Refuses env p := by
  unfold systemsOf
  cases hraw : env.get? "PKGHEALTH_DEPS_DEV_SYSTEMS" with
  | none => exact .inl ⟨.standard, rfl, by decide +kernel⟩
  | some raw =>
    dsimp only
    cases hparse : SystemMap.parse raw with
    | ok m => exact .inl ⟨m, rfl, fun e => SystemMap.isKey_of_parse hparse⟩
    | error p =>
      obtain ⟨piece, hfirst, rfl⟩ := SystemMap.addAll_eq_error_iff.mp hparse
      exact .inr ⟨_, rfl, .badMapping hraw hfirst⟩

theorem levelOf_cases :
    (∃ l, levelOf env = .ok l ∧
      l.name = ((trimmed? env "PKGHEALTH_LOG_LEVEL").map Text.upperCase).getD "WARNING") ∨
      ∃ p, levelOf env = .error p ∧ Refuses env p := by
  unfold levelOf
  cases hname : trimmed? env "PKGHEALTH_LOG_LEVEL" with
  | none => exact .inl ⟨.warning, rfl, rfl⟩
  | some name =>
    dsimp only
    cases hlevel : LogLevel.ofName? (Text.upperCase name) with
    | some l => exact .inl ⟨l, rfl, LogLevel.ofName?_eq_some_iff.mp hlevel⟩
    | none => exact .inr ⟨_, rfl, .unknownLevel hname (LogLevel.ofName?_eq_none_iff.mp hlevel)⟩

theorem timeoutOf_eq_error_iff {i : Issue} : timeoutOf env = .error i ↔
    ∃ c, i = ⟨["http_timeout"], c⟩ ∧ Misread env "PKGHEALTH_HTTP_TIMEOUT" Number.readPlainDouble
      (Double.Exceeds · 0) .notAbove c :=
  number_eq_error_iff fun _ => Double.exceeds_zero_iff

theorem attemptsOf_eq_error_iff {i : Issue} : attemptsOf env = .error i ↔
    ∃ c, i = ⟨["stats_max_attempts"], c⟩ ∧ Misread env "PKGHEALTH_STATS_MAX_ATTEMPTS"
      Number.readPlainInt (1 ≤ ·) .below c :=
  number_eq_error_iff fun _ => (decide_eq_true_iff).symm

theorem intervalOf_eq_error_iff {i : Issue} : intervalOf env = .error i ↔
    ∃ c, i = ⟨["stats_retry_interval"], c⟩ ∧ Misread env "PKGHEALTH_STATS_RETRY_INTERVAL"
      Number.readPlainDouble (Double.IsAtLeast · 0) .below c :=
  number_eq_error_iff fun _ => Double.isAtLeast_zero_iff

/-- The flaws of an environment are what its numbers are refused with. -/
theorem flaw_iff {i : Issue} :
    Flaw env i ↔
      timeoutOf env = .error i ∨ attemptsOf env = .error i ∨ intervalOf env = .error i := by
  rw [timeoutOf_eq_error_iff, attemptsOf_eq_error_iff, intervalOf_eq_error_iff]
  constructor
  · rintro (h | h | h)
    · exact .inl ⟨_, rfl, h⟩
    · exact .inr (.inl ⟨_, rfl, h⟩)
    · exact .inr (.inr ⟨_, rfl, h⟩)
  · rintro (⟨c, rfl, h⟩ | ⟨c, rfl, h⟩ | ⟨c, rfl, h⟩)
    · exact .timeout h
    · exact .attempts h
    · exact .interval h

/-- Refused numbers are refused with all flaws. -/
theorem refuses_of_flaw {i : Issue} (h : Flaw env i) : Refuses env (.refused
    ([issue? (timeoutOf env), issue? (attemptsOf env), issue? (intervalOf env)].filterMap id)) := by
  have hissue {α : Type} {r : Except Issue α} {i : Issue} : some i = issue? r ↔ r = .error i := by
    cases r <;> simp [issue?, eq_comm]
  have hmem (i : Issue) : i ∈ [issue? (timeoutOf env), issue? (attemptsOf env),
      issue? (intervalOf env)].filterMap id ↔ Flaw env i := by
    rw [flaw_iff, List.mem_filterMap]
    simp [hissue]
  exact .refused (List.ne_nil_of_mem ((hmem i).mpr h)) hmem

/-- **There are usable settings, or the environment is refused for a reason.** -/
theorem usable_or_refused :
    (∃ s, ofEnvironment env = .ok s ∧ s.Usable env) ∨
      ∃ p, ofEnvironment env = .error p ∧ Refuses env p := by
  unfold ofEnvironment
  rcases systemsOf_cases env with ⟨m, hm, hkeys⟩ | ⟨p, hp, hrefuses⟩
  · rcases levelOf_cases env with ⟨l, hl, hname⟩ | ⟨p, hp, hrefuses⟩
    · rw [hm, hl]
      have hrefuses := fun i => refuses_of_flaw env (i := i)
      simp only [flaw_iff] at hrefuses
      -- The first number that is refused ends the search, and all are named.
      cases ht : timeoutOf env with
      | error i =>
        rw [ht] at hrefuses
        exact .inr ⟨_, rfl, hrefuses i (.inl rfl)⟩
      | ok t =>
        cases ha : attemptsOf env with
        | error i =>
          rw [ht, ha] at hrefuses
          exact .inr ⟨_, rfl, hrefuses i (.inr (.inl rfl))⟩
        | ok a =>
          cases hd : intervalOf env with
          | error i =>
            rw [ht, ha, hd] at hrefuses
            exact .inr ⟨_, rfl, hrefuses i (.inr (.inr rfl))⟩
          | ok d =>
            exact .inl ⟨_, rfl, exceeds_of_timeoutOf ht, le_of_attemptsOf ha,
              isAtLeast_of_intervalOf hd, hname, l.upperCase_name,
              LogLevel.ofName?_eq_some_iff.mpr rfl,
              fun e he => ⟨(hkeys e he).ne_empty, (hkeys e he).strip⟩,
              fun e he ecosystem => SystemMap.isSome_systemFor he (hkeys e he)⟩
    · rw [hm, hp]
      exact .inr ⟨p, rfl, hrefuses⟩
  · rw [hp]
    exact .inr ⟨p, rfl, hrefuses⟩

/-- What is not a number is read as one and is refused all the same. -/
example : ofEnvironment [("PKGHEALTH_HTTP_TIMEOUT", " nan ")] =
    .error (.refused [⟨["http_timeout"], .notAbove⟩]) := by
  rfl

end Settings

end PackageVitals
