import PackageVitals.GitHub.Analyzer
import PackageVitals.Proofs.Ensures
import PackageVitals.Proofs.Failing

/-!
# What GitHub was heard to say

Asking GitHub and making a record of what it says are two things. A
**hearing** asks what an analysis asks, in the same order, but goes on where
an analysis would be over, and ends with what each question came to – an
answer or a failure, as it is (`Heard`). What an analysis comes to is a
function of that and of the repository's own document (`Heard.outcome`,
`GitHub.Analyzer.run_analyzeKnown`), so that everything that can be said
about which answer counts for which signal is said about a function, and
programs, turns and states are left behind.
-/

namespace PackageVitals

/-! ## Programs whose results are made into something -/

namespace Program

/-- Weaving programs whose results are made into something. -/
theorem weave_map {first : Program β → Program γ} {alone : β → Program γ}
    {first' : Program β' → Program γ'} {alone' : β' → Program γ'} {g : β → β'} {k : γ → γ'}
    (hfirst : ∀ q : Program β,
      first' (q.andThen fun b => done (g b)) = (first q).andThen fun c => done (k c))
    (halone : ∀ b, alone' (g b) = (alone b).andThen fun c => done (k c)) (q : Program β) :
    weave first' alone' (q.andThen fun b => done (g b)) =
      (weave first alone q).andThen fun c => done (k c) := by
  -- Both sides offer the same turn, so that it is enough to look at who takes it.
  have hturn {p p' : Program γ'} {q q' : Program γ} (hp : p = q.andThen fun c => done (k c))
      (hp' : p' = q'.andThen fun c => done (k c)) :
      (turn fun l => if l then p else p') =
        (turn fun l => if l then q else q').andThen fun c => done (k c) := by
    subst hp hp'
    show turn _ = turn _
    congr 1
    funext l
    cases l <;> rfl
  induction q with
  | done b => exact halone b
  | send s next ih =>
    exact hturn (hfirst (.send s next)) (congrArg (send s) (funext fun r => ih r))
  | sleep d next ih => exact hturn (hfirst (.sleep d next)) (congrArg (sleep d) ih)
  | note n next ih => exact hturn (hfirst (.note n next)) (congrArg (note n) ih)
  | now next ih => exact hturn (hfirst (.now next)) (congrArg now (funext fun t => ih t))
  | pause next ih => exact hturn (hfirst (.pause next)) (congrArg pause ih)
  | turn next ih => exact hturn (hfirst (.turn next)) (congrArg turn (funext fun b => ih b))

/-- Running alone a program whose result is made into something. -/
theorem andThen_pair_map (f : α → α') (g : β → β') (p : Program α) (b : β) :
    ((p.andThen fun a => done (f a)).andThen fun a => done (a, g b)) =
      (p.andThen fun a => done (a, b)).andThen fun r => done (Prod.map f g r) := by
  rw [andThen_assoc, andThen_assoc]
  rfl

/-- **Two programs at once whose results are made into something** are the
two programs at once, with both results made into it. -/
theorem both_map (f : α → α') (g : β → β') (p : Program α) (q : Program β) :
    both (p.andThen fun a => done (f a)) (q.andThen fun b => done (g b)) =
      (both p q).andThen fun r => done (Prod.map f g r) := by
  induction p generalizing q with
  | done a =>
    show (q.andThen _).andThen _ = (q.andThen _).andThen _
    rw [andThen_assoc, andThen_assoc]
    rfl
  | send s next ih =>
    exact weave_map (g := g) (k := Prod.map f g)
      (fun q => congrArg (send s) (funext fun r => ih r q)) (andThen_pair_map f g (.send s next)) q
  | sleep d next ih =>
    exact weave_map (g := g) (k := Prod.map f g)
      (fun q => congrArg (sleep d) (ih q)) (andThen_pair_map f g (.sleep d next)) q
  | note n next ih =>
    exact weave_map (g := g) (k := Prod.map f g)
      (fun q => congrArg (note n) (ih q)) (andThen_pair_map f g (.note n next)) q
  | now next ih =>
    exact weave_map (g := g) (k := Prod.map f g)
      (fun q => congrArg now (funext fun t => ih t q)) (andThen_pair_map f g (.now next)) q
  | pause next ih =>
    exact weave_map (g := g) (k := Prod.map f g)
      (fun q => congrArg pause (ih q)) (andThen_pair_map f g (.pause next)) q
  | turn next ih =>
    exact weave_map (g := g) (k := Prod.map f g)
      (fun q => congrArg turn (funext fun b => ih b q)) (andThen_pair_map f g (.turn next)) q

end Program

/-! ## Signals before they are settled -/

/-- **A signal is settled** by putting the default in the place of a
provider's fault. -/
def settle (default : α) : Except Failure α → Except Failure α
  | .ok v => .ok v
  | .error f => if f.isProviderFault then .ok default else .error f

theorem settle_eq_ok_iff {default v : α} {e : Except Failure α} :
    settle default e = .ok v ↔
      e = .ok v ∨ ∃ f, e = .error f ∧ f.isProviderFault = true ∧ v = default := by
  cases e with
  | ok a => simp [settle]
  | error f =>
    show (if f.isProviderFault = true then Except.ok default else Except.error f) = .ok v ↔ _
    constructor
    · intro h
      split at h
      · exact .inr ⟨f, rfl, ‹_›, (Except.ok.inj h).symm⟩
      · cases h
    · rintro (h | ⟨g, ⟨⟩, hf, rfl⟩)
      · cases h
      · rw [if_pos hf]

/-- A signal that is settled is what it came to, or the default. -/
theorem eq_getD_of_settle {default v : α} {e : Except Failure α} (h : settle default e = .ok v) :
    v = e.toOption.getD default := by
  rcases settle_eq_ok_iff.mp h with rfl | ⟨f, rfl, -, rfl⟩
  · rfl
  · rfl

namespace Action

/-- Fetches one signal and tells the log about a provider's fault, without
settling the signal. -/
def overheard (description : String) (a : Action α) : Program (Except Failure α) :=
  a.attempt.andThen fun
    | .ok v => .done (.ok v)
    | .error f =>
      if f.isProviderFault then .note {
        severity := .warning, text := "Failed to fetch " ++ description, cause := .stated f }
        (.done (.error f))
      else .done (.error f)

/-- Fetching safely is fetching and then settling. -/
theorem attempt_safely (description : String) (default : α) (a : Action α) :
    (safely description default a).attempt =
      (overheard description a).andThen fun e => .done (settle default e) := by
  unfold overheard
  rw [Program.andThen_assoc]
  show a.attempt.andThen _ = a.attempt.andThen _
  congr 1
  funext e
  cases e with
  | ok v => rfl
  | error f =>
    dsimp only
    unfold settle
    by_cases hf : f.isProviderFault = true
    · rw [if_pos hf, if_pos hf]
      show Program.note _ (.done _) = Program.note _ (.done _)
      dsimp only
      rw [if_pos hf]
    · rw [if_neg hf, if_neg hf]
      show Program.done _ = Program.done _
      dsimp only
      rw [if_neg hf]

end Action

/-! ## The eight documents -/

namespace GitHub.Analyzer

/-- **What the questions about the eight documents came to.** -/
structure Answers where
  /-- The count of contributors. -/
  contributors : Except Failure (Option Nat)
  /-- The count of open pull requests. -/
  pullRequests : Except Failure (Option Nat)
  /-- The date of the head. -/
  lastCommit : Except Failure (Option Timestamp)
  /-- Whether there is an introduction. -/
  readme : Except Failure Bool
  /-- Whether there is a code of conduct. -/
  codeOfConduct : Except Failure Bool
  /-- Whether there is a security policy. -/
  securityPolicy : Except Failure Bool
  /-- The count of files. -/
  files : Except Failure (Option Nat)
  /-- The dates of the open issues. -/
  issueDates : Except Failure (Option (List Timestamp))

/-- **The findings in the answers**: every signal is settled, and of several
that cannot be the first in order shows. -/
def Answers.settled (x : Answers) : Except Failure Findings := do
  return {
    contributors := ← settle none x.contributors
    pullRequests := ← settle none x.pullRequests
    lastCommit := ← settle none x.lastCommit
    readme := ← settle false x.readme
    codeOfConduct := ← settle false x.codeOfConduct
    securityPolicy := ← settle false x.securityPolicy
    files := ← settle none x.files
    issueDates := ← settle none x.issueDates }

theorem Answers.settled_eq_ok_iff {x : Answers} {found : Findings} :
    x.settled = .ok found ↔
      settle none x.contributors = .ok found.contributors ∧
      settle none x.pullRequests = .ok found.pullRequests ∧
      settle none x.lastCommit = .ok found.lastCommit ∧
      settle false x.readme = .ok found.readme ∧
      settle false x.codeOfConduct = .ok found.codeOfConduct ∧
      settle false x.securityPolicy = .ok found.securityPolicy ∧
      settle none x.files = .ok found.files ∧
      settle none x.issueDates = .ok found.issueDates := by
  unfold settled
  simp only [bind_eq_ok_iff]
  constructor
  · rintro ⟨_, h₁, _, h₂, _, h₃, _, h₄, _, h₅, _, h₆, _, h₇, _, h₈, ⟨⟩⟩
    exact ⟨h₁, h₂, h₃, h₄, h₅, h₆, h₇, h₈⟩
  · rintro ⟨h₁, h₂, h₃, h₄, h₅, h₆, h₇, h₈⟩
    exact ⟨_, h₁, _, h₂, _, h₃, _, h₄, _, h₅, _, h₆, _, h₇, _, h₈, rfl⟩

/-- Asks something about the head of the default branch, if there is one. -/
def overheardHead (head : Json) (description : String) (find : String → Action (Option α)) :
    Program (Except Failure (Option α)) :=
  match head with
  | .null => .done (.ok none)
  | head => Action.overheard description (find head.display)

theorem attempt_ofHead (head : Json) (description : String) (find : String → Action (Option α)) :
    (ofHead head description find).attempt =
      (overheardHead head description find).andThen fun e => .done (settle none e) := by
  cases head with
  | null => rfl
  | _ => exact Action.attempt_safely _ _ _

/-- **Asks about the eight documents at once.** -/
def ask (a : Analyzer) (key owner name : String) (head : Json) : Program Answers :=
  let c := a.client
  let ref := owner ++ "/" ++ name
  let all : Program _ :=
    Program.both (Action.overheard ("contributors of " ++ key)
      (c.countContributors owner name)) <|
    Program.both (Action.overheard ("open PRs of " ++ key)
      (c.countOpenPullRequests owner name)) <|
    Program.both (overheardHead head ("last commit of " ++ ref) (c.commitDate owner name)) <|
    Program.both (Action.overheard ("README of " ++ key) (c.hasReadme owner name)) <|
    Program.both (Action.overheard ("code of conduct of " ++ key)
      (c.hasFile owner name "CODE_OF_CONDUCT.md")) <|
    Program.both (Action.overheard ("security policy of " ++ key)
      (c.hasFile owner name ".github/SECURITY.md")) <|
    Program.both (overheardHead head ("file tree of " ++ ref) (c.countFiles owner name))
      (Action.overheard ("open issues of " ++ key) (some <$> c.openIssueDates owner name))
  all.andThen fun r =>
    .done ⟨r.1, r.2.1, r.2.2.1, r.2.2.2.1, r.2.2.2.2.1, r.2.2.2.2.2.1, r.2.2.2.2.2.2.1,
      r.2.2.2.2.2.2.2⟩

theorem ofExcept_bind_ofExcept (e : Except Failure α) (k : α → Except Failure β) :
    (Action.ofExcept e >>= fun a => Action.ofExcept (k a)) = Action.ofExcept (e >>= k) := by
  cases e <;> rfl

theorem lift_andThen_bind (p : Program α) (f : α → β) (k : β → Action γ) :
    ((ExceptT.lift (p.andThen fun a => .done (f a)) : Action β) >>= k) =
      ((ExceptT.lift p : Action α) >>= fun a => k (f a)) := by
  show ((p.andThen _).andThen _).andThen _ = (p.andThen _).andThen _
  rw [Program.andThen_assoc, Program.andThen_assoc, Program.andThen_assoc]
  rfl

/-- **The findings are settled answers.** -/
theorem findings_eq (a : Analyzer) (key owner name : String) (head : Json) :
    a.findings key owner name head =
      (ExceptT.lift (a.ask key owner name head) >>= fun x => Action.ofExcept x.settled) := by
  -- What is made of each result moves out of the programs that run at once, to the end.
  unfold findings ask
  dsimp only
  rw [lift_andThen_bind]
  simp only [Action.attempt_safely, attempt_ofHead, Program.both_map]
  rw [lift_andThen_bind]
  congr 1
  funext r
  unfold Answers.settled
  simp only [← ofExcept_bind_ofExcept]
  rfl

/-! ## A whole hearing -/

/-- **What GitHub was heard to say** about a repository that it knows, with
the readings of the clock that were taken meanwhile. -/
structure Heard where
  /-- The head of the default branch. -/
  head : Except Failure Json
  /-- What the eight documents say. -/
  answers : Answers
  /-- When the age of the issues was found. -/
  issuesAt : Timestamp
  /-- The statistics of the contributors. -/
  statistics : Except Failure (Option (List Contributor))
  /-- When the frequency of commits was found. -/
  statisticsAt : Timestamp

/-- The value of a member of the repository's document. -/
def memberOf (repository : List (String × Json)) (name : String) : Json :=
  (Json.lookup name repository).getD .null

/-- The name of the default branch. -/
def defaultBranch (repository : List (String × Json)) : String :=
  (((memberOf repository "default_branch").truthy?).getD (.str "main")).display

/-- The head that the questions about it are asked for. -/
def headOf (head : Except Failure Json) : Json :=
  head.toOption.getD .null

/-- Reads the clock if there is a reason to. -/
def clockIf (needed : Bool) : Program Timestamp :=
  if needed then .now .done else .done default

/-- Whether the clock is read for the age of the issues. -/
def Answers.datesIssues (x : Answers) : Bool :=
  (x.issueDates.toOption.join).isSome

/-- Whether the clock is read for the frequency of commits. -/
def needsFrequency (created : Json) (statistics : Except Failure (Option (List Contributor))) :
    Bool :=
  !((statistics.toOption.join).getD []).isEmpty && created.isTruthy

/-- **A hearing**: asks GitHub all that an analysis asks once it knows the
repository. -/
def hearing (a : Analyzer) (key owner name : String) (repository : List (String × Json)) :
    Program Heard := do
  let branch := defaultBranch repository
  let head ← Action.overheard ("head of " ++ key ++ "@" ++ branch)
    (a.client.branchHead owner name branch)
  let answers ← a.ask key owner name (headOf head)
  let issuesAt ← clockIf answers.datesIssues
  let statistics ← (a.poll owner name).attempt
  let statisticsAt ← clockIf (needsFrequency (memberOf repository "created_at") statistics)
  return { head, answers, issuesAt, statistics, statisticsAt }

/-- The mean age of the issues at a given time. -/
def ageAt (dates : Option (List Timestamp)) (now : Timestamp) : Except Failure (Option Int) :=
  match dates with
  | none => .ok none
  | some ds => some <$> Metrics.issueAge ds now

/-- How many commits there are in a week at a given time. -/
def frequencyAt (created : Json) (cs : List Contributor) (now : Timestamp) :
    Except Failure (Option Double) :=
  match created.truthy? with
  | none => .ok none
  | some created => do
    let created ← created.toTimestamp
    some <$> Metrics.commitFrequency (Metrics.total (cs.map Contributor.total)) created now

/-- The readings that follow from the statistics at a given time. -/
def readingsAt (statistics : Option (List Contributor)) (created : Json) (now : Timestamp) :
    Except Failure (List (Signal × Option Reading)) :=
  match statistics with
  | none | some [] => .ok []
  | some cs => do
    let frequency ← frequencyAt created cs now
    return [
      (.commitFrequency, frequency.map .rate),
      (.busFactor, (Metrics.busFactor (cs.map Contributor.total)).map countReading)]

/-- **What an analysis makes of what was heard.** -/
def Heard.outcome (h : Heard) (i : Identity) (repository : List (String × Json)) :
    Except Failure Record := do
  let _ ← settle .null h.head
  let found ← h.answers.settled
  let age ← ageAt found.issueDates h.issuesAt
  let statistics ← h.statistics
  let derived ← readingsAt statistics (memberOf repository "created_at") h.statisticsAt
  return (Record.empty i).setAll (found.readings age ++
    [(.archived, Reading.ofJson? (memberOf repository "archived"))] ++ derived)

end GitHub.Analyzer

namespace World

open GitHub GitHub.Analyzer

variable (w : World σ)

/-- Going on after a signal that was fetched safely. -/
theorem run_safely_bind (description : String) (default : α) (x : Action α) (f : α → Action β)
    (s : σ) :
    (w.run (Action.safely description default x >>= f).attempt s).value =
      match settle default (w.run (Action.overheard description x) s).value with
      | .ok v => (w.run (f v).attempt (w.run (Action.overheard description x) s).state).value
      | .error e => .error e := by
  rw [Action.attempt_bind, Action.attempt_safely, Program.andThen_assoc, run_andThen]
  dsimp only [Program.done_andThen]
  cases settle default (w.run (Action.overheard description x) s).value <;> rfl

/-- Going on after a program that cannot fail. -/
theorem run_lift_bind (p : Program α) (f : α → Action β) (s : σ) :
    (w.run (Action.attempt (ExceptT.lift p >>= f)) s).value =
      (w.run (f (w.run p s).value).attempt (w.run p s).state).value := by
  rw [Action.attempt_bind, Action.attempt_lift, Program.andThen_assoc, run_andThen]
  rfl

/-- Going on after a result or a failure. -/
theorem run_ofExcept_bind (e : Except Failure α) (f : α → Action β) (s : σ) :
    (w.run (Action.ofExcept e >>= f).attempt s).value =
      match e with
      | .ok a => (w.run (f a).attempt s).value
      | .error e => .error e := by
  cases e <;> rfl

/-- Going on after the age of the issues. -/
theorem run_issueAge_bind (dates : Option (List Timestamp)) (f : Option Int → Action β) (s : σ) :
    (w.run (issueAge dates >>= f).attempt s).value =
      match ageAt dates (w.run (clockIf dates.isSome) s).value with
      | .ok age => (w.run (f age).attempt (w.run (clockIf dates.isSome) s).state).value
      | .error e => .error e := by
  cases dates with
  | none => rfl
  | some ds =>
    unfold issueAge ageAt clockIf
    show (w.run (Action.attempt ((some <$> Action.ofExcept (Metrics.issueAge ds (w.clock s).1)) >>=
      f)) (w.clock s).2).value = match some <$> Metrics.issueAge ds (w.clock s).1 with
        | .ok age => (w.run (f age).attempt (w.clock s).2).value
        | .error e => .error e
    cases Metrics.issueAge ds (w.clock s).1 <;> rfl

/-- The frequency of commits is found at the time that the clock tells. -/
theorem run_commitFrequency_bind (created : Json) (c : Contributor) (cs : List Contributor)
    (f : Option Double → Action β) (hf : ∀ d s s', (w.run (f d).attempt s).value =
      (w.run (f d).attempt s').value) (s : σ) :
    (w.run (commitFrequency created (c :: cs) >>= f).attempt s).value =
      match frequencyAt created (c :: cs)
        (w.run (clockIf (needsFrequency created (.ok (some (c :: cs))))) s).value with
      | .ok d => (w.run (f d).attempt s).value
      | .error e => .error e := by
  unfold commitFrequency frequencyAt needsFrequency Json.truthy?
  by_cases ht : created.isTruthy = true
  · simp only [ht, if_true]
    cases created.toTimestamp with
    | error e => rfl
    | ok t =>
      show (w.run (Action.attempt ((some <$> Action.ofExcept (Metrics.commitFrequency _ t
        (w.clock s).1)) >>= f)) (w.clock s).2).value = match (some <$> Metrics.commitFrequency _ t
          (w.clock s).1 : Except Failure (Option Double)) with
        | .ok d => (w.run (f d).attempt s).value
        | .error e => .error e
      cases Metrics.commitFrequency (Metrics.total ((c :: cs).map Contributor.total)) t
        (w.clock s).1 with
      | error e => rfl
      | ok d => exact hf _ _ _
  · simp only [ht]
    rfl

end World

namespace GitHub.Analyzer

open World

variable (a : Analyzer) (i : Identity) (key owner name : String)
  (repository : List (String × Json)) (w : World σ)

/-- What comes of the statistics once they have been asked for. -/
theorem run_statisticsReadings (created : Json) (k : List (Signal × Option Reading) → Record)
    (s : σ) :
    (w.run (Action.attempt (a.statisticsReadings key owner name created >>= fun derived =>
        return k derived)) s).value = (do
      let o := w.run (a.poll owner name).attempt s
      let statistics ← o.value
      let derived ← readingsAt statistics created
        (w.run (clockIf (needsFrequency created o.value)) o.state).value
      return k derived) := by
  unfold statisticsReadings
  rw [Action.bind_assoc]
  dsimp only
  cases hp : (w.run (a.poll owner name).attempt s).value with
  | error e =>
    rw [run_bind_of_error hp]
    rfl
  | ok statistics =>
    rw [(run_bind_of_ok hp).1]
    match statistics with
    | none => rfl
    | some [] => rfl
    | some (c :: cs) =>
      dsimp only
      rw [Action.bind_assoc, run_commitFrequency_bind w created c cs _ (fun _ _ _ => rfl)]
      show _ = readingsAt (some (c :: cs)) created _ >>= fun derived => pure (k derived)
      unfold readingsAt
      dsimp only
      cases frequencyAt created (c :: cs) (w.run (clockIf (needsFrequency created
        (.ok (some (c :: cs))))) (w.run (a.poll owner name).attempt s).state).value <;> rfl

/-- A hearing asks for the head of the default branch first. -/
theorem run_hearing_head (s : σ) :
    (w.run (a.hearing key owner name repository) s).value.head =
      (w.run (Action.overheard ("head of " ++ key ++ "@" ++ defaultBranch repository)
        (a.client.branchHead owner name (defaultBranch repository))) s).value := by
  unfold hearing
  simp only [bind, run_andThen]
  rfl

/-- **An analysis comes to what it makes of what it hears.** -/
theorem run_analyzeKnown (s : σ) :
    (w.run (a.analyzeKnown i key owner name (.obj repository)).attempt s).value =
      (w.run (a.hearing key owner name repository) s).value.outcome i repository := by
  let branch := defaultBranch repository
  let head := w.run (Action.overheard ("head of " ++ key ++ "@" ++ branch)
    (a.client.branchHead owner name branch)) s
  let answers := w.run (a.ask key owner name (headOf head.value)) head.state
  let clock := w.run (clockIf answers.value.datesIssues) answers.state
  let poll := w.run (a.poll owner name).attempt clock.state
  have hheard : (w.run (a.hearing key owner name repository) s).value =
      ⟨head.value, answers.value, clock.value, poll.value,
        (w.run (clockIf (needsFrequency (memberOf repository "created_at") poll.value))
          poll.state).value⟩ := by
    unfold hearing
    simp only [bind, run_andThen]
    rfl
  rw [hheard]
  unfold analyzeKnown Heard.outcome
  dsimp only
  rw [run_ofExcept_bind]
  show (w.run (Action.attempt (Action.safely ("head of " ++ key ++ "@" ++ branch) .null
    (a.client.branchHead owner name branch) >>= _)) s).value = _
  rw [run_safely_bind]
  -- From here on each failure ends both sides.
  cases hh : settle .null head.value with
  | error e => rfl
  | ok v =>
    obtain rfl : v = headOf head.value := eq_getD_of_settle hh
    show (w.run (Action.attempt (a.findings key owner name (headOf head.value) >>= _))
      head.state).value = answers.value.settled >>= _
    rw [findings_eq, Action.bind_assoc, run_lift_bind]
    show (w.run (Action.attempt (Action.ofExcept answers.value.settled >>= _)) answers.state).value
      = _
    rw [run_ofExcept_bind]
    cases hs : answers.value.settled with
    | error e => rfl
    | ok found =>
      obtain ⟨-, -, -, -, -, -, -, hissues⟩ := Answers.settled_eq_ok_iff.mp hs
      have hdates : found.issueDates.isSome = answers.value.datesIssues := by
        rw [eq_getD_of_settle hissues]
        unfold Answers.datesIssues
        cases answers.value.issueDates <;> rfl
      show (w.run (Action.attempt (issueAge found.issueDates >>= _)) answers.state).value =
        ageAt found.issueDates clock.value >>= _
      rw [run_issueAge_bind, hdates]
      show (match ageAt found.issueDates clock.value with
        | .ok age => _
        | .error e => _) = _
      cases ageAt found.issueDates clock.value with
      | error e => rfl
      | ok age => exact a.run_statisticsReadings key owner name w _ _ clock.state

end GitHub.Analyzer

end PackageVitals
