import PackageVitals.Proofs.Ending
import PackageVitals.Proofs.Hearing

/-!
# Which answers do no harm

A signal that is fetched safely costs nothing but itself, as long as what
went wrong is a fault that a provider is known for. `Heard.Harmless` lists
what has to be true of everything that was heard for an analysis to come to
a record: besides that, the list of issues must have an end and their dates
must be comparable with the clock, the statistics must not fail, and where
there are statistics the repository must have been created at a time that
can be read, compared and divided by. Each of these is needed
(`Heard.outcome_ok_iff`).

Where an analysis does come to a record, each reading is made from the
answers to its own questions (`Heard.reading`): an answer that could not be
had leaves its own signals unanswered and no others.
-/

namespace PackageVitals

namespace Record

@[simp] theorem identity_setAll (r : Record) (us : List (Signal × Option Reading)) :
    (r.setAll us).identity = r.identity := by
  induction us generalizing r with
  | nil => rfl
  | cons u us ih => exact ih (r.set u.1 u.2)

end Record

/-- A walk succeeds if every item does. -/
theorem exists_mapM_ok_iff {k : α → Except Failure β} {xs : List α} :
    (∃ ys, xs.mapM k = .ok ys) ↔ ∀ a ∈ xs, ∃ b, k a = .ok b := by
  induction xs with
  | nil => exact iff_of_true ⟨[], rfl⟩ (by simp)
  | cons x xs ih =>
    simp only [List.mapM_cons, bind_eq_ok_iff, List.forall_mem_cons, ← ih]
    constructor
    · rintro ⟨_, b, hb, bs, hbs, -⟩
      exact ⟨⟨b, hb⟩, bs, hbs⟩
    · rintro ⟨⟨b, hb⟩, bs, hbs⟩
      exact ⟨_, b, hb, bs, hbs, rfl⟩

/-- A signal can be settled if what went wrong is a provider's fault. -/
theorem exists_settle_ok_iff {default : α} {e : Except Failure α} :
    (∃ v, settle default e = .ok v) ↔ FailsOnly (fun f => f.isProviderFault = true) e := by
  constructor
  · rintro ⟨v, hv⟩ f rfl
    rcases settle_eq_ok_iff.mp hv with h | ⟨g, ⟨⟩, hg, -⟩
    · cases h
    · exact hg
  · intro h
    cases e with
    | ok v => exact ⟨v, rfl⟩
    | error f => exact ⟨default, settle_eq_ok_iff.mpr (.inr ⟨f, rfl, h f rfl, rfl⟩)⟩

namespace Metrics

/-- The age of issues can be found if their dates are comparable with the
clock: all of them have a distance from universal time, or none has. -/
theorem exists_issueAge_ok_iff {created : List Timestamp} {now : Timestamp} :
    (∃ n, issueAge created now = .ok n) ↔
      ∀ t ∈ created, t.offset.isSome = now.offset.isSome := by
  have hdays (t : Timestamp) :
      (∃ d, now.daysSince t = .ok d) ↔ t.offset.isSome = now.offset.isSome := by
    unfold Timestamp.daysSince
    by_cases h : now.offset.isSome = t.offset.isSome
    · simp [h]
    · simp [h, Ne.symm h]
  have hages : (∃ n, issueAge created now = .ok n) ↔ ∃ ds, ages created now = .ok ds := by
    unfold issueAge
    cases ages created now <;> simp [Except.map]
  rw [hages, ages, exists_mapM_ok_iff]
  simp only [hdays]

/-- There is a bus factor where there are contributors. -/
theorem isSome_busFactor {counts : List Int} (h : counts ≠ []) : (busFactor counts).isSome := by
  unfold busFactor
  split
  · next hsort =>
    have hlength := congrArg List.length hsort
    rw [List.length_mergeSort] at hlength
    exact absurd (List.length_eq_zero_iff.mp hlength) h
  · rfl

end Metrics

namespace GitHub.Analyzer

/-- **Whether what was heard does no harm** to an analysis of a repository
with the given document. -/
structure Heard.Harmless (h : Heard) (repository : List (String × Json)) : Prop where
  /-- The head fails by a provider's fault at most. -/
  head : FailsOnly (fun f => f.isProviderFault = true) h.head
  /-- So does the count of contributors. -/
  contributors : FailsOnly (fun f => f.isProviderFault = true) h.answers.contributors
  /-- So does the count of pull requests. -/
  pullRequests : FailsOnly (fun f => f.isProviderFault = true) h.answers.pullRequests
  /-- So does the date of the head. -/
  lastCommit : FailsOnly (fun f => f.isProviderFault = true) h.answers.lastCommit
  /-- So does the introduction. -/
  readme : FailsOnly (fun f => f.isProviderFault = true) h.answers.readme
  /-- So does the code of conduct. -/
  codeOfConduct : FailsOnly (fun f => f.isProviderFault = true) h.answers.codeOfConduct
  /-- So does the security policy. -/
  securityPolicy : FailsOnly (fun f => f.isProviderFault = true) h.answers.securityPolicy
  /-- So does the count of files. -/
  files : FailsOnly (fun f => f.isProviderFault = true) h.answers.files
  /-- So do the dates of the issues, whose list is not waited for in vain. -/
  issueDates : FailsOnly (fun f => f.isProviderFault = true) h.answers.issueDates
  /-- The dates of the issues can be compared with the clock. -/
  comparable : ∀ ds, h.answers.issueDates = .ok (some ds) →
    ∀ t ∈ ds, t.offset.isSome = h.issuesAt.offset.isSome
  /-- The statistics do not fail. -/
  statistics : ∃ s, h.statistics = .ok s
  /-- Where there are statistics, the time of creation is one that commits
  can be counted from. -/
  created : ∀ cs, h.statistics = .ok (some cs) → cs ≠ [] →
    (memberOf repository "created_at").isTruthy = true →
      ∃ text t x, memberOf repository "created_at" = .str text ∧ Timestamp.read text = .ok t ∧
        Metrics.commitFrequency (Metrics.total (cs.map Contributor.total)) t h.statisticsAt = .ok x

theorem Answers.exists_settled_iff {x : Answers} :
    (∃ found, x.settled = .ok found) ↔
      FailsOnly (fun f => f.isProviderFault = true) x.contributors ∧
      FailsOnly (fun f => f.isProviderFault = true) x.pullRequests ∧
      FailsOnly (fun f => f.isProviderFault = true) x.lastCommit ∧
      FailsOnly (fun f => f.isProviderFault = true) x.readme ∧
      FailsOnly (fun f => f.isProviderFault = true) x.codeOfConduct ∧
      FailsOnly (fun f => f.isProviderFault = true) x.securityPolicy ∧
      FailsOnly (fun f => f.isProviderFault = true) x.files ∧
      FailsOnly (fun f => f.isProviderFault = true) x.issueDates := by
  constructor
  · rintro ⟨found, h⟩
    obtain ⟨h₁, h₂, h₃, h₄, h₅, h₆, h₇, h₈⟩ := settled_eq_ok_iff.mp h
    exact ⟨exists_settle_ok_iff.mp ⟨_, h₁⟩, exists_settle_ok_iff.mp ⟨_, h₂⟩,
      exists_settle_ok_iff.mp ⟨_, h₃⟩, exists_settle_ok_iff.mp ⟨_, h₄⟩,
      exists_settle_ok_iff.mp ⟨_, h₅⟩, exists_settle_ok_iff.mp ⟨_, h₆⟩,
      exists_settle_ok_iff.mp ⟨_, h₇⟩, exists_settle_ok_iff.mp ⟨_, h₈⟩⟩
  · rintro ⟨h₁, h₂, h₃, h₄, h₅, h₆, h₇, h₈⟩
    obtain ⟨contributors, h₁⟩ := exists_settle_ok_iff.mpr h₁
    obtain ⟨pullRequests, h₂⟩ := exists_settle_ok_iff.mpr h₂
    obtain ⟨lastCommit, h₃⟩ := exists_settle_ok_iff.mpr h₃
    obtain ⟨readme, h₄⟩ := exists_settle_ok_iff.mpr h₄
    obtain ⟨codeOfConduct, h₅⟩ := exists_settle_ok_iff.mpr h₅
    obtain ⟨securityPolicy, h₆⟩ := exists_settle_ok_iff.mpr h₆
    obtain ⟨files, h₇⟩ := exists_settle_ok_iff.mpr h₇
    obtain ⟨issueDates, h₈⟩ := exists_settle_ok_iff.mpr h₈
    exact ⟨⟨contributors, pullRequests, lastCommit, readme, codeOfConduct, securityPolicy, files,
      issueDates⟩, settled_eq_ok_iff.mpr ⟨h₁, h₂, h₃, h₄, h₅, h₆, h₇, h₈⟩⟩

/-- The age of the issues is found where it can be. -/
theorem exists_ageAt_ok_iff {dates : Option (List Timestamp)} {now : Timestamp} :
    (∃ age, ageAt dates now = .ok age) ↔
      ∀ ds, dates = some ds → ∀ t ∈ ds, t.offset.isSome = now.offset.isSome := by
  cases dates with
  | none => simp [ageAt]
  | some ds =>
    have hmap : (∃ age, ageAt (some ds) now = .ok age) ↔ ∃ n, Metrics.issueAge ds now = .ok n := by
      show (∃ age, some <$> Metrics.issueAge ds now = .ok age) ↔ _
      cases Metrics.issueAge ds now <;> simp [Functor.map, Except.map]
    rw [hmap, Metrics.exists_issueAge_ok_iff]
    simp

/-- The frequency of commits is found where the time of creation allows
it. -/
theorem exists_frequencyAt_ok_iff {created : Json} {cs : List Contributor} {now : Timestamp} :
    (∃ d, frequencyAt created cs now = .ok d) ↔
      (created.isTruthy = true → ∃ text t x, created = .str text ∧ Timestamp.read text = .ok t ∧
        Metrics.commitFrequency (Metrics.total (cs.map Contributor.total)) t now = .ok x) := by
  unfold frequencyAt Json.truthy?
  by_cases ht : created.isTruthy = true
  · simp only [ht, if_true, bind_eq_ok_iff, true_imp_iff]
    constructor
    · rintro ⟨_, t, hread, hd⟩
      obtain ⟨text, rfl⟩ : ∃ text, created = .str text := by
        cases created with
        | str text => exact ⟨text, rfl⟩
        | _ => cases hread
      cases hx : Metrics.commitFrequency (Metrics.total (cs.map Contributor.total)) t now with
      | error f => simp [hx, Functor.map, Except.map] at hd
      | ok x => exact ⟨text, t, x, rfl, hread, hx⟩
    · rintro ⟨text, t, x, rfl, hread, hx⟩
      exact ⟨some x, t, hread, by rw [hx]; rfl⟩
  · simp [ht]

/-- So are the readings that follow from the statistics. -/
theorem exists_readingsAt_ok_iff {statistics : Option (List Contributor)} {created : Json}
    {now : Timestamp} :
    (∃ us, readingsAt statistics created now = .ok us) ↔
      ∀ cs, statistics = some cs → cs ≠ [] → ∃ d, frequencyAt created cs now = .ok d := by
  match statistics with
  | none => simp [readingsAt]
  | some [] => simp [readingsAt]
  | some (c :: cs) =>
    show (∃ us, frequencyAt created (c :: cs) now >>= _ = .ok us) ↔ _
    simp only [bind_eq_ok_iff]
    constructor
    · rintro ⟨_, d, hd, -⟩ cs' hcs' -
      obtain rfl := Option.some.inj hcs'
      exact ⟨d, hd⟩
    · intro h
      obtain ⟨d, hd⟩ := h _ rfl (by simp)
      exact ⟨_, d, hd, rfl⟩

/-- **An analysis comes to a record if and only if what was heard does no
harm.** -/
theorem Heard.outcome_ok_iff {h : Heard} {i : Identity} {repository : List (String × Json)} :
    (∃ r, h.outcome i repository = .ok r) ↔ h.Harmless repository := by
  unfold outcome
  simp only [bind_eq_ok_iff]
  constructor
  · rintro ⟨_, _, hhead, found, hfound, age, hage, statistics, hstatistics, us, hus, -⟩
    obtain ⟨h₁, h₂, h₃, h₄, h₅, h₆, h₇, h₈⟩ := Answers.exists_settled_iff.mp ⟨_, hfound⟩
    obtain ⟨-, -, -, -, -, -, -, hissues⟩ := Answers.settled_eq_ok_iff.mp hfound
    refine ⟨exists_settle_ok_iff.mp ⟨_, hhead⟩, h₁, h₂, h₃, h₄, h₅, h₆, h₇, h₈, ?_,
      ⟨_, hstatistics⟩, ?_⟩
    · intro ds hds
      rw [hds] at hissues
      exact exists_ageAt_ok_iff.mp ⟨_, hage⟩ ds (Except.ok.inj hissues).symm
    · intro cs hcs hne
      obtain rfl := Except.ok.inj (hstatistics.symm.trans hcs)
      exact exists_frequencyAt_ok_iff.mp (exists_readingsAt_ok_iff.mp ⟨_, hus⟩ cs rfl hne)
  · intro hh
    obtain ⟨head, hhead⟩ := exists_settle_ok_iff.mpr hh.head
    obtain ⟨found, hfound⟩ := Answers.exists_settled_iff.mpr ⟨hh.contributors, hh.pullRequests,
      hh.lastCommit, hh.readme, hh.codeOfConduct, hh.securityPolicy, hh.files, hh.issueDates⟩
    obtain ⟨-, -, -, -, -, -, -, hissues⟩ := Answers.settled_eq_ok_iff.mp hfound
    obtain ⟨age, hage⟩ := exists_ageAt_ok_iff.mpr fun ds hds => by
      -- Dates that could not be had were settled away, and are not compared.
      rcases settle_eq_ok_iff.mp hissues with hok | ⟨f, -, -, hnone⟩
      · exact hh.comparable ds (hds ▸ hok)
      · exact absurd (hds.symm.trans hnone) (by simp)
    obtain ⟨statistics, hstatistics⟩ := hh.statistics
    obtain ⟨us, hus⟩ := exists_readingsAt_ok_iff.mpr fun cs hcs hne =>
      exists_frequencyAt_ok_iff.mpr (hh.created cs (hcs ▸ hstatistics) hne)
    exact ⟨_, head, hhead, found, hfound, age, hage, statistics, hstatistics, us, hus, rfl⟩

instance (h : Heard) (repository : List (String × Json)) : Decidable (h.Harmless repository) :=
  decidable_of_iff ((h.outcome default repository).toOption.isSome = true)
    (isSome_toOption_iff.trans Heard.outcome_ok_iff)

/-! ## Which answer counts for which signal -/

/-- The statistics that were heard, none where there are none. -/
def Heard.contributorsKnown (h : Heard) : List Contributor :=
  (h.statistics.toOption.join).getD []

/-- The age of the issues that were heard of, if it can be found. -/
def Heard.age? (h : Heard) : Option Int :=
  h.answers.issueDates.toOption.join.bind fun dates =>
    (Metrics.issueAge dates h.issuesAt).toOption

/-- **The reading of a signal in what was heard.** Each comes from the
answers to its own questions. -/
def Heard.reading (h : Heard) (repository : List (String × Json)) : Signal → Option Reading
  | .contributors => (h.answers.contributors.toOption.join).map countReading
  | .openPullRequests => (h.answers.pullRequests.toOption.join).map countReading
  | .lastCommit => (h.answers.lastCommit.toOption.join).map .moment
  | .readme => some (.flag (h.answers.readme.toOption.getD false))
  | .codeOfConduct => some (.flag (h.answers.codeOfConduct.toOption.getD false))
  | .securityPolicy => some (.flag (h.answers.securityPolicy.toOption.getD false))
  | .files => (h.answers.files.toOption.join).map countReading
  | .issueAge => h.age?.map .count
  | .archived => Reading.ofJson? (memberOf repository "archived")
  | .commitFrequency =>
    if h.contributorsKnown.isEmpty then none
    else ((frequencyAt (memberOf repository "created_at") h.contributorsKnown
      h.statisticsAt).toOption.join).map .rate
  | .busFactor =>
    (Metrics.busFactor (h.contributorsKnown.map Contributor.total)).map countReading
  | _ => none

theorem eq_join_of_settle {e : Except Failure (Option α)} {v : Option α}
    (h : settle none e = .ok v) : v = e.toOption.join := by
  rw [eq_getD_of_settle h]
  cases e <;> rfl

/-- The updates that follow from the statistics, where they can be had. -/
theorem readingsAt_eq {statistics : Option (List Contributor)} {created : Json} {now : Timestamp}
    {us : List (Signal × Option Reading)} (h : readingsAt statistics created now = .ok us) :
    us = if (statistics.getD []).isEmpty then [] else [
      (.commitFrequency, ((frequencyAt created (statistics.getD []) now).toOption.join).map .rate),
      (.busFactor, (Metrics.busFactor ((statistics.getD []).map Contributor.total)).map
        countReading)] := by
  match statistics with
  | none => exact (Except.ok.inj h).symm
  | some [] => exact (Except.ok.inj h).symm
  | some (c :: cs) =>
    obtain ⟨d, hd, hus⟩ := bind_eq_ok_iff.mp h
    rw [← Except.ok.inj hus, if_neg (by simp)]
    show _ = [(Signal.commitFrequency,
      ((frequencyAt created (c :: cs) now).toOption.join).map Reading.rate), _]
    rw [hd]
    rfl

/-- **A record has the readings of what was heard.** -/
theorem Heard.eq_of_outcome {h : Heard} {i : Identity} {repository : List (String × Json)}
    {r : Record} (hr : h.outcome i repository = .ok r) : r = ⟨i, h.reading repository⟩ := by
  unfold outcome at hr
  simp only [bind_eq_ok_iff] at hr
  obtain ⟨_, -, found, hfound, age, hage, statistics, hstatistics, us, hus, hr⟩ := hr
  obtain ⟨h₁, h₂, h₃, h₄, h₅, h₆, h₇, h₈⟩ := Answers.settled_eq_ok_iff.mp hfound
  obtain rfl := Except.ok.inj hr
  have hknown : h.contributorsKnown = statistics.getD [] := by
    unfold contributorsKnown
    rw [hstatistics]
    rfl
  have hage' : age = h.age? := by
    unfold age?
    rw [← eq_join_of_settle h₈]
    cases hd : found.issueDates with
    | none =>
      rw [hd] at hage
      exact (Except.ok.inj hage).symm
    | some ds =>
      rw [hd] at hage
      obtain ⟨n, hn, rfl⟩ : ∃ n, Metrics.issueAge ds h.issuesAt = .ok n ∧ some n = age := by
        cases hn : Metrics.issueAge ds h.issuesAt with
        | error f => simp [ageAt, hn, Functor.map, Except.map] at hage
        | ok n => exact ⟨n, rfl, by simpa [ageAt, hn, Functor.map, Except.map] using hage⟩
      show _ = (Metrics.issueAge ds h.issuesAt).toOption
      rw [hn]
      rfl
  refine Record.ext_reading (by simp) fun s => ?_
  rw [readingsAt_eq hus, ← hknown, hage']
  unfold Findings.readings
  rw [eq_join_of_settle h₁, eq_join_of_settle h₂, eq_join_of_settle h₃, eq_getD_of_settle h₄,
    eq_getD_of_settle h₅, eq_getD_of_settle h₆, eq_join_of_settle h₇]
  -- Without contributors there are no updates from the statistics.
  by_cases hempty : h.contributorsKnown.isEmpty = true
  · have hnone : Metrics.busFactor (h.contributorsKnown.map Contributor.total) = none := by
      rw [List.isEmpty_iff.mp hempty]
      simp [Metrics.busFactor]
    rw [if_pos hempty]
    cases s <;> simp [Record.setAll, Record.reading_set, reading, hempty, hnone]
  · rw [if_neg hempty]
    cases s <;> simp [Record.setAll, Record.reading_set, reading, hempty]

/-! ## Analyses of repositories that GitHub knows -/

section Runs

variable (w : World σ)

/-- Overhearing a signal ends with what the action came to, in the state it
left. -/
theorem run_overheard (description : String) (x : Action α) (s : σ) :
    (w.run (Action.overheard description x) s).value = (w.run x.attempt s).value ∧
      (w.run (Action.overheard description x) s).state = (w.run x.attempt s).state := by
  unfold Action.overheard
  rw [World.run_andThen]
  dsimp only
  cases hx : (w.run x.attempt s).value with
  | ok v => exact ⟨rfl, rfl⟩
  | error f =>
    dsimp only
    split
    · exact ⟨rfl, rfl⟩
    · exact ⟨rfl, rfl⟩

variable {w}

/-- The analysis of a repository that GitHub knows comes to what it makes of
what it hears once it knows it. -/
theorem run_analyze {a : Analyzer} {key owner name : String}
    {repository : List (String × Json)} {s : σ} (i : Identity)
    (hkey : splitKey key = some (owner, name))
    (hknown : (w.run (a.client.repository owner name).attempt s).value =
      .ok (some (.obj repository))) :
    (w.run (a.analyze i key).attempt s).value =
      ((w.run (a.hearing key owner name repository)
        (w.run (a.client.repository owner name).attempt s).state).value).outcome i repository := by
  obtain ⟨hvalue, hstate⟩ :=
    run_overheard w ("repository " ++ key) (a.client.repository owner name) s
  unfold analyze
  rw [hkey]
  dsimp only
  rw [World.run_safely_bind, hvalue, hknown, hstate]
  exact a.run_analyzeKnown i key owner name repository w _

end Runs

/-- **The analysis of a repository that GitHub knows comes to a record if and
only if what it hears does no harm**, whatever the document of the
repository holds and whatever else is answered. The record then has the
readings of what was heard, so that an answer that could not be had leaves
unanswered only what is made from it. Nothing is waited for in vain where
the issues of every repository end. -/
theorem analyze_returns_iff (a : Analyzer) (i : Identity) (key owner name : String)
    (repository : List (String × Json)) (w : World σ) (hw : w.Replies Provided) (s : σ)
    (hkey : splitKey key = some (owner, name))
    (hknown : (w.run (a.client.repository owner name).attempt s).value =
      .ok (some (.obj repository))) :
    let h := (w.run (a.hearing key owner name repository)
      (w.run (a.client.repository owner name).attempt s).state).value
    ((∃ r, (w.run (a.analyze i key).attempt s).value = .ok r) ↔ h.Harmless repository) ∧
      (∀ r, (w.run (a.analyze i key).attempt s).value = .ok r → r = ⟨i, h.reading repository⟩) ∧
      (a.client.IssuesEnd w.MayReply →
        (w.run (a.analyze i key).attempt s).value ≠ .error .cancelled) := by
  intro h
  have hend (hissues : a.client.IssuesEnd w.MayReply) :
      (w.run (a.analyze i key).attempt s).value ≠ .error .cancelled :=
    World.ne_cancelled_of_within (uncancelledIn_analyze (World.replied_log hw _ s)
      (hissues.mono (w.exchanges_mayReply _ s)) key i)
  rw [run_analyze i hkey hknown] at hend ⊢
  exact ⟨Heard.outcome_ok_iff, fun r hr => Heard.eq_of_outcome hr, hend⟩

/-- A response with a status and a text. -/
def textual (status : Nat) (text : String) : Reply :=
  .ok ⟨status, [], text.toList.map fun c => UInt8.ofNat c.toNat⟩

/-- What is replied about a repository with a given document: most of the rest cannot be
had or is malformed, and one contributor is known. -/
def trouble (document : String) : List (String × Reply) := [
  ("http://h/repos/o/n", textual 200 document),
  ("http://h/repos/o/n/contributors?per_page=1", textual 500 ""),
  ("http://h/repos/o/n/pulls?state=open&per_page=1", .error (.transport .readTimeout "")),
  ("http://h/repos/o/n/branches/main", textual 200 "["),
  ("http://h/repos/o/n/readme", textual 200 ""),
  ("http://h/repos/o/n/contents/CODE_OF_CONDUCT.md", textual 503 ""),
  ("http://h/repos/o/n/issues?state=open&per_page=100&page=1", textual 200 "[\x7b\x7d]"),
  ("http://h/repos/o/n/stats/contributors", textual 200 "[\x7b\"total\":3\x7d]")]

/-- A world that says so, and in which nothing else is there. -/
def troubled (document : String) : World Unit where
  reply q s := (((trouble document).find? (·.1 == q.url)).elim (textual 404 "") (·.2), s)
  clock s := (default, s)
  turn s := (true, s)

theorem troubled_replies {P : Reply → Prop} {document : String} (hnone : P (textual 404 ""))
    (h : ∀ x ∈ trouble document, P x.2) : (troubled document).Replies P := by
  intro q s
  show P (((trouble document).find? (·.1 == q.url)).elim (textual 404 "") (·.2))
  cases hx : (trouble document).find? (·.1 == q.url) with
  | none => exact hnone
  | some x => exact h x (List.mem_of_find?_eq_some hx)

/-- A response of whole characters that is no full page is one of a provider. -/
theorem provided_textual {status : Nat} {text : String}
    (hwhole : Response.isWhole ⟨status, [], text.toList.map fun c => UInt8.ofNat c.toNat⟩ = true)
    (hpage : (pageIn 100 (textual status text)).toOption.map (·.2) ≠ some true) :
    Provided (textual status text) ∧
      ∀ items, pageIn 100 (textual status text) ≠ .ok (items, true) :=
  ⟨.ok hwhole, fun items he => hpage (by rw [he]; rfl)⟩

/-- Providers give such replies, and no list among them goes on. -/
theorem replies_troubled {document : String} (hdocument : Provided (textual 200 document) ∧
    ∀ items, pageIn 100 (textual 200 document) ≠ .ok (items, true)) :
    (troubled document).Replies fun r =>
      Provided r ∧ ∀ items, pageIn 100 r ≠ .ok (items, true) := by
  refine troubled_replies (provided_textual (by decide +kernel) (by decide +kernel)) ?_
  simp only [trouble, List.forall_mem_cons]
  refine ⟨hdocument, ?_, ⟨.error rfl, fun items => nofun⟩, ?_, ?_, ?_, ?_, ?_, nofun⟩
  all_goals exact provided_textual (by decide +kernel) (by decide +kernel)

/-- An analyzer that asks for the statistics once. -/
def once : Analyzer := ⟨⟨"http://h", none, 5⟩, 1, .whole 0⟩

/-- What the analyzer hears in such a world about a repository. -/
abbrev heardOf (document : String) (repository : List (String × Json)) : Heard :=
  ((troubled document).run (once.hearing "github.com/o/n" "o" "n" repository)
    ((troubled document).run (once.client.repository "o" "n").attempt ()).state).value

/-- A document without members. -/
def undated : String := "\x7b\x7d"

/-- A document with a number for the time of creation. -/
def misdated : String := "\x7b\"created_at\":5\x7d"

/-- A repository is known where an object is served for it. -/
theorem run_repository_of_serves {c : Client} {owner name : String} {w : World σ} {s : σ}
    {q : Request} {members : List (String × Json)}
    (hq : c.Reaches (Client.repositoryPath owner name) none q)
    (hserves : Serves (.obj members) (w.reply q s).1) :
    (w.run (c.repository owner name).attempt s).value = .ok (some (.obj members)) := by
  unfold Client.repository
  rw [Action.attempt_bind, Client.attempt_fetch hq]
  show (w.run (Program.andThen (.done ((w.reply q s).1 >>= documentIn)) _) _).value = _
  rw [hserves.document]
  rfl

/-- The request for the repository. -/
def repositoryRequest : Request := ⟨"http://h/repos/o/n", once.client.headers⟩

theorem reaches_repositoryRequest :
    once.client.Reaches (Client.repositoryPath "o" "n") none repositoryRequest :=
  ⟨_, rfl, rfl, rfl⟩

/-- Requests that fail leave their own signals unanswered, and a time of creation that is
a number costs the record. -/
theorem analyze_returns_iff_troubled :
    splitKey "github.com/o/n" = some ("o", "n") ∧
    ((troubled undated).Replies Provided ∧ once.client.IssuesEnd (troubled undated).MayReply ∧
      ((troubled undated).run (once.client.repository "o" "n").attempt ()).value =
        .ok (some (.obj [])) ∧
      (heardOf undated []).Harmless [] ∧
      ∃ r, ((troubled undated).run (once.analyze default "github.com/o/n").attempt ()).value =
        .ok r ∧ r.populated = [.busFactor, .readme, .codeOfConduct, .securityPolicy]) ∧
    (troubled misdated).Replies Provided ∧ once.client.IssuesEnd (troubled misdated).MayReply ∧
      ((troubled misdated).run (once.client.repository "o" "n").attempt ()).value =
        .ok (some (.obj [("created_at", .int 5)])) ∧
      ¬ (heardOf misdated [("created_at", .int 5)]).Harmless [("created_at", .int 5)] ∧
      ∃ f, ((troubled misdated).run (once.analyze default "github.com/o/n").attempt ()).value =
        .error f ∧ f ≠ .cancelled := by
  have hkey : splitKey "github.com/o/n" = some ("o", "n") := by decide
  have hreplies := replies_troubled (provided_textual (by decide +kernel) (by decide +kernel) :
    Provided (textual 200 undated) ∧ _)
  have hreplies' := replies_troubled (provided_textual (by decide +kernel) (by decide +kernel) :
    Provided (textual 200 misdated) ∧ _)
  have hend : once.client.IssuesEnd (troubled undated).MayReply :=
    Client.issuesEnd_of_replies (fun q s => (hreplies q s).2) (by decide)
  have hend' : once.client.IssuesEnd (troubled misdated).MayReply :=
    Client.issuesEnd_of_replies (fun q s => (hreplies' q s).2) (by decide)
  have hknown : ((troubled undated).run (once.client.repository "o" "n").attempt ()).value =
      .ok (some (.obj [])) :=
    run_repository_of_serves reaches_repositoryRequest ⟨_, rfl, rfl, by cbv⟩
  have hknown' : ((troubled misdated).run (once.client.repository "o" "n").attempt ()).value =
      .ok (some (.obj [("created_at", .int 5)])) :=
    run_repository_of_serves reaches_repositoryRequest ⟨_, rfl, rfl, by cbv⟩
  obtain ⟨hreturns, hrecord, -⟩ := analyze_returns_iff once default "github.com/o/n" "o" "n" []
    (troubled undated) (fun q s => (hreplies q s).1) () hkey hknown
  obtain ⟨hreturns', -, huncancelled⟩ := analyze_returns_iff once default "github.com/o/n" "o" "n"
    [("created_at", .int 5)] (troubled misdated) (fun q s => (hreplies' q s).1) () hkey hknown'
  have hharmless : (heardOf undated []).Harmless [] := by decide +kernel
  have hharm : ¬ (heardOf misdated [("created_at", .int 5)]).Harmless [("created_at", .int 5)] := by
    decide +kernel
  refine ⟨hkey, ⟨fun q s => (hreplies q s).1, hend, hknown, hharmless, ?_⟩,
    fun q s => (hreplies' q s).1, hend', hknown', hharm, ?_⟩
  · obtain ⟨r, hr⟩ := hreturns.mpr hharmless
    refine ⟨r, hr, ?_⟩
    rw [hrecord r hr]
    decide +kernel
  · cases hvalue : ((troubled misdated).run (once.analyze default "github.com/o/n").attempt
        ()).value with
    | ok r => exact absurd (hreturns'.mp ⟨r, hvalue⟩) hharm
    | error f => exact ⟨f, rfl, fun hf => huncancelled hend' (hf ▸ hvalue)⟩

end GitHub.Analyzer

end PackageVitals
