import PackageVitals.Proofs.Endpoint
import PackageVitals.Proofs.Harmless

/-!
# Endpoints do not interfere

What one endpoint of GitHub answers counts for its own signals and for no
others: two analyses in worlds that answer everything else alike come to
records that agree on every other signal (`Analyzer.analyze_independent`).

A hearing is taken apart into one part for each endpoint (`Analyzer.part`).
Its course interleaves theirs, each asks within its endpoint, and a request
asks one endpoint only, so that each part gets what the script says about
its own requests and comes to what is in it. Two parts ask about the commit
that a branch points to, which is why the branch counts for their signals,
too.
-/

namespace PackageVitals.GitHub

open Url (Stays EndsAtPath)

/-! ## The parts of a hearing -/

/-- What asking an endpoint comes to. -/
abbrev Endpoint.Result : Endpoint → Type
  | .branch => Except Failure Json
  | .contributors | .pullRequests | .tree => Except Failure (Option Nat)
  | .commit => Except Failure (Option Timestamp)
  | .readme | .codeOfConduct | .securityPolicy => Except Failure Bool
  | .issues => Except Failure (Option (List Timestamp))
  | .statistics => Except Failure (Option (List Contributor))

namespace Analyzer

/-- What was heard from an endpoint. -/
def Heard.answer (h : Heard) : (e : Endpoint) → e.Result
  | .branch => h.head
  | .contributors => h.answers.contributors
  | .pullRequests => h.answers.pullRequests
  | .commit => h.answers.lastCommit
  | .readme => h.answers.readme
  | .codeOfConduct => h.answers.codeOfConduct
  | .securityPolicy => h.answers.securityPolicy
  | .tree => h.answers.files
  | .issues => h.answers.issueDates
  | .statistics => h.statistics

/-- **The part of a hearing that asks an endpoint.** -/
def part (a : Analyzer) (key owner name branch : String) (head : Json) :
    (e : Endpoint) → Program e.Result
  | .branch => Action.overheard ("head of " ++ key ++ "@" ++ branch)
    (a.client.branchHead owner name branch)
  | .contributors => Action.overheard ("contributors of " ++ key)
    (a.client.countContributors owner name)
  | .pullRequests => Action.overheard ("open PRs of " ++ key)
    (a.client.countOpenPullRequests owner name)
  | .commit => overheardHead head ("last commit of " ++ (owner ++ "/" ++ name))
    (a.client.commitDate owner name)
  | .readme => Action.overheard ("README of " ++ key) (a.client.hasReadme owner name)
  | .codeOfConduct => Action.overheard ("code of conduct of " ++ key)
    (a.client.hasFile owner name "CODE_OF_CONDUCT.md")
  | .securityPolicy => Action.overheard ("security policy of " ++ key)
    (a.client.hasFile owner name ".github/SECURITY.md")
  | .tree => overheardHead head ("file tree of " ++ (owner ++ "/" ++ name))
    (a.client.countFiles owner name)
  | .issues => Action.overheard ("open issues of " ++ key)
    (some <$> a.client.openIssueDates owner name)
  | .statistics => (a.poll owner name).attempt

variable {a : Analyzer} {key owner name : String} {repository : List (String × Json)}

/-- **A course of a hearing interleaves the courses of its parts**, and two
looks at the clock. -/
theorem course_hearing {l : List Step} {h : Heard}
    (hc : Course (a.hearing key owner name repository) l h) :
    ∃ (log : Endpoint → List Step) (issues statistics : List Step),
      (∀ e, Course (a.part key owner name (defaultBranch repository) (headOf h.head) e) (log e)
        (h.answer e)) ∧
      Course (clockIf h.answers.datesIssues) issues h.issuesAt ∧
      Course (clockIf (needsFrequency (memberOf repository "created_at") h.statistics)) statistics
        h.statisticsAt ∧
      Interleaved (Endpoint.all.map log ++ [issues, statistics]) l := by
  unfold hearing at hc
  obtain ⟨head, lhead, l, rfl, hhead, hc⟩ := course_andThen_iff.mp hc
  obtain ⟨answers, lask, l, rfl, hask, hc⟩ := course_andThen_iff.mp hc
  obtain ⟨issuesAt, lissues, l, rfl, hissues, hc⟩ := course_andThen_iff.mp hc
  obtain ⟨statistics, lpoll, l, rfl, hpoll, hc⟩ := course_andThen_iff.mp hc
  obtain ⟨statisticsAt, lclock, l, rfl, hclock, hc⟩ := course_andThen_iff.mp hc
  obtain ⟨rfl, rfl⟩ := course_done_iff.mp hc
  unfold ask at hask
  obtain ⟨⟨_, _, _, _, _, _, _, _⟩, m, l, rfl, hall, hdone⟩ := course_andThen_iff.mp hask
  obtain ⟨rfl, rfl⟩ := course_done_iff.mp hdone
  obtain ⟨l₁, m₁, h₁, hall, hi₁⟩ := course_both hall
  obtain ⟨l₂, m₂, h₂, hall, hi₂⟩ := course_both hall
  obtain ⟨l₃, m₃, h₃, hall, hi₃⟩ := course_both hall
  obtain ⟨l₄, m₄, h₄, hall, hi₄⟩ := course_both hall
  obtain ⟨l₅, m₅, h₅, hall, hi₅⟩ := course_both hall
  obtain ⟨l₆, m₆, h₆, hall, hi₆⟩ := course_both hall
  obtain ⟨l₇, l₈, h₇, h₈, hi₇⟩ := course_both hall
  refine ⟨fun
    | .branch => lhead
    | .contributors => l₁
    | .pullRequests => l₂
    | .commit => l₃
    | .readme => l₄
    | .codeOfConduct => l₅
    | .securityPolicy => l₆
    | .tree => l₇
    | .issues => l₈
    | .statistics => lpoll, lissues, lclock, ?_, hissues, hclock, ?_⟩
  · intro e
    cases e with
    | branch => exact hhead
    | contributors => exact h₁
    | pullRequests => exact h₂
    | commit => exact h₃
    | readme => exact h₄
    | codeOfConduct => exact h₅
    | securityPolicy => exact h₆
    | tree => exact h₇
    | issues => exact h₈
    | statistics => exact hpoll
  · have hdocuments : Interleaved [l₁, l₂, l₃, l₄, l₅, l₆, l₇, l₈] m :=
      .cons hi₁ (.cons hi₂ (.cons hi₃ (.cons hi₄ (.cons hi₅ (.cons hi₆ (.cons hi₇
        (.singleton l₈)))))))
    -- The clock is read before the poll, and after it.
    have hclocks : Interleaved [lissues, lclock] (lissues ++ lclock) :=
      (Interleaved.singleton lissues).append (.singleton lclock)
    have hlast : Interleaved [lpoll, lissues, lclock] (lissues ++ (lpoll ++ lclock)) :=
      .cons ((Interleaves.append lpoll lclock).append_left lissues) hclocks
    rw [List.append_nil, List.append_nil]
    exact (Interleaved.singleton lhead).append (hdocuments.append hlast)

/-- A look at the clock asks nothing. -/
theorem repliesTo_clockIf {needed : Bool} {l : List Step} {t : Timestamp}
    (h : Course (clockIf needed) l t) (q : Request) : repliesTo q l = [] := by
  cases needed with
  | false =>
    obtain ⟨rfl, -⟩ := course_done_iff.mp h
    rfl
  | true =>
    obtain ⟨t', l', rfl, hdone⟩ := course_now_iff.mp h
    obtain ⟨rfl, -⟩ := course_done_iff.mp hdone
    rfl

/-- A look at a clock that stands still, if there is one, finds the time. -/
theorem eq_of_clockIf {needed : Bool} {l : List Step} {t now : Timestamp}
    (h : Course (clockIf needed) l t) (hl : ∀ t', .told t' ∈ l → t' = now) :
    t = if needed then now else default := by
  cases needed with
  | false =>
    obtain ⟨-, rfl⟩ := course_done_iff.mp h
    rfl
  | true =>
    obtain ⟨t', l', rfl, hdone⟩ := course_now_iff.mp h
    obtain ⟨-, rfl⟩ := course_done_iff.mp hdone
    exact hl t List.mem_cons_self

theorem within_overheard {Q : Request → Prop} (description : String) {x : Action α}
    (h : Action.Within Q x) : (Action.overheard description x).Within Q := by
  refine Program.Within.andThen h fun e => ?_
  cases e with
  | ok v => trivial
  | error f =>
    dsimp only
    split <;> trivial

theorem within_overheardHead {Q : Request → Prop} {head : Json} (description : String)
    {find : String → Action (Option α)} (h : Action.Within Q (find head.display)) :
    (overheardHead head description find).Within Q := by
  cases head with
  | null => trivial
  | _ => exact within_overheard description h

/-- **Each part asks within its endpoint**, as long as the names stay where they
are put. -/
theorem within_part {branch : String} {head : Json} (hbranch : Stays branch.toList)
    (hhead : Stays head.display.toList) (e : Endpoint) :
    (a.part key owner name branch head e).Within (a.client.Asks owner name e) := by
  cases e with
  | branch => exact within_overheard _ (Client.within_branchHead hbranch)
  | contributors => exact within_overheard _ Client.within_countContributors
  | pullRequests => exact within_overheard _ Client.within_countOpenPullRequests
  | commit => exact within_overheardHead _ (Client.within_commitDate hhead)
  | readme => exact within_overheard _ Client.within_hasReadme
  | codeOfConduct => exact within_overheard _ Client.within_codeOfConduct
  | securityPolicy => exact within_overheard _ Client.within_securityPolicy
  | tree => exact within_overheardHead _ (Client.within_countFiles hhead)
  | issues => exact within_overheard _ (Client.within_openIssueDates.map some)
  | statistics => exact a.within_poll owner name

/-- The parts that ask about a commit are the only ones that depend on it. -/
theorem part_congr {branch : String} {head head' : Json} {e : Endpoint}
    (h : e = .commit ∨ e = .tree → head = head') :
    a.part key owner name branch head e = a.part key owner name branch head' e := by
  cases e with
  | commit => rw [h (.inl rfl)]
  | tree => rw [h (.inr rfl)]
  | _ => rfl

/-! ## Hearings in worlds that differ at one endpoint -/

/-- **Whether the names in a hearing stay where they are put**: that of the
default branch, and that of the commit that it points to. -/
def Heard.NamesStay (h : Heard) (repository : List (String × Json)) : Prop :=
  Stays (defaultBranch repository).toList ∧ Stays (headOf h.head).display.toList

/-- Whether the times in a hearing are those of a clock that stands still. -/
structure Heard.Timed (h : Heard) (now : Timestamp) (repository : List (String × Json)) : Prop where
  /-- The time of the issues. -/
  issues : h.issuesAt = if h.answers.datesIssues then now else default
  /-- The time of the statistics. -/
  statistics : h.statisticsAt =
    if needsFrequency (memberOf repository "created_at") h.statistics then now else default

section Worlds

variable {u₀ : Url} (hb : a.client.service.Base (a.client.base owner name) u₀)

include hb

/-- **What each part asks keeps to the script** that a whole hearing keeps
to. -/
theorem exists_parts {A : Script} {now : Timestamp} {before l : List Step} {h : Heard}
    (hnames : h.NamesStay repository) (hc : Course (a.hearing key owner name repository) l h)
    (hbefore : ∀ e q, a.client.Asks owner name e q → repliesTo q before = [])
    (hA : Follows A (before ++ l)) (hnow : ∀ t, .told t ∈ l → t = now) :
    h.Timed now repository ∧ ∃ log : Endpoint → List Step, ∀ e,
      Course (a.part key owner name (defaultBranch repository) (headOf h.head) e) (log e)
        (h.answer e) ∧ Follows A (log e) := by
  obtain ⟨log, issues, statistics, hparts, hissues, hstatistics, hl⟩ := course_hearing hc
  have hwithin (e : Endpoint) : (a.part key owner name (defaultBranch repository) (headOf h.head)
      e).Within (a.client.Asks owner name e) := within_part hnames.1 hnames.2 e
  have htold {l' : List Step} (hl' : l' ∈ [issues, statistics]) (t : Timestamp)
      (ht : .told t ∈ l') : t = now :=
    hnow t (hl.mem_iff.mpr ⟨l', List.mem_append_right _ hl', ht⟩)
  refine ⟨⟨eq_of_clockIf hissues (htold (by simp)), eq_of_clockIf hstatistics (htold (by simp))⟩,
    log, fun e => ⟨hparts e, hA.of_repliesTo_eq fun q => ?_⟩⟩
  -- A request within the endpoint is one that no other part sends.
  by_cases hq : a.client.Asks owner name e q
  · left
    rw [repliesTo_append, hbefore e q hq, List.nil_append]
    refine (hl.repliesTo_of_mem (by decide) (by cases e <;> decide) (fun e' _ hne => ?_)
      (fun l' hl' => ?_)).symm
    · exact (hwithin e').repliesTo_eq_nil (hparts e') fun hq' => hne (Client.asks_unique hb hq' hq)
    · simp only [List.mem_cons, List.not_mem_nil, or_false] at hl'
      rcases hl' with rfl | rfl
      · exact repliesTo_clockIf hissues q
      · exact repliesTo_clockIf hstatistics q
  · exact .inr ((hwithin e).repliesTo_eq_nil (hparts e) hq)

/-- **Where the scripts differ at one endpoint, the others answer alike**,
except about the commit that a branch points to. -/
theorem answer_eq {A B : Script} {E : Endpoint}
    (hAB : ∀ q, ¬ a.client.Asks owner name E q → A q = B q) {h h' : Heard}
    (hnames : h.NamesStay repository) {log log' : Endpoint → List Step}
    (hparts : ∀ e, Course (a.part key owner name (defaultBranch repository) (headOf h.head) e)
      (log e) (h.answer e) ∧ Follows A (log e))
    (hparts' : ∀ e, Course (a.part key owner name (defaultBranch repository) (headOf h'.head) e)
      (log' e) (h'.answer e) ∧ Follows B (log' e))
    {e : Endpoint} (he : e ≠ E) (hbranch : E = .branch → e ≠ .commit ∧ e ≠ .tree) :
    h.answer e = h'.answer e := by
  have hpart {e : Endpoint} (he : e ≠ E)
      (hhead : e = .commit ∨ e = .tree → headOf h'.head = headOf h.head) :
      h.answer e = h'.answer e := by
    obtain ⟨hc, hA⟩ := hparts e
    obtain ⟨hc', hB⟩ := hparts' e
    rw [part_congr hhead] at hc'
    exact (within_part hnames.1 hnames.2 e).result_eq
      (fun q hq => hAB q fun hE => he (Client.asks_unique hb hq hE)) hc hc' hA hB
  -- What is asked about a commit is the same if the branch answers alike.
  refine hpart he fun hcommit => ?_
  by_cases hE : E = .branch
  · obtain ⟨h₁, h₂⟩ := hbranch hE
    exact (hcommit.elim h₁ h₂).elim
  · have hhead : h.head = h'.head :=
      hpart (Ne.symm hE) (fun h => absurd h (by decide))
    rw [hhead]

end Worlds

/-! ## What the readings are made from -/

/-- **The endpoint whose answer a reading is made from**, if there is one. -/
def sourceOf : Signal → Option Endpoint
  | .contributors => some .contributors
  | .openPullRequests => some .pullRequests
  | .lastCommit => some .commit
  | .readme => some .readme
  | .codeOfConduct => some .codeOfConduct
  | .securityPolicy => some .securityPolicy
  | .files => some .tree
  | .issueAge => some .issues
  | .busFactor => some .statistics
  | .commitFrequency => some .statistics
  | _ => none

/-- A signal that an endpoint does not answer for is made from another one, and
not by way of it. -/
theorem apart_of_not_mem {E e : Endpoint} {s : Signal} (hs : s ∉ E.signals)
    (he : sourceOf s = some e) : e ≠ E ∧ (E = .branch → e ≠ .commit ∧ e ≠ .tree) := by
  have hcommit (hc : e = .commit) : s = .lastCommit := by
    subst hc
    cases s <;> cases he
    rfl
  have htree (ht : e = .tree) : s = .files := by
    subst ht
    cases s <;> cases he
    rfl
  constructor
  · rintro rfl
    refine hs ?_
    cases s <;> cases he <;> decide
  · rintro rfl
    exact ⟨fun hc => hs (hcommit hc ▸ by decide), fun ht => hs (htree ht ▸ by decide)⟩

/-- **A reading is made from the answer of one endpoint**, and the time. -/
theorem Heard.reading_congr {h h' : Heard} {now : Timestamp} (ht : h.Timed now repository)
    (ht' : h'.Timed now repository) {s : Signal}
    (hs : ∀ e, sourceOf s = some e → h.answer e = h'.answer e) :
    h.reading repository s = h'.reading repository s := by
  have hissues (hi : h.answers.issueDates = h'.answers.issueDates) : h.age? = h'.age? := by
    unfold age?
    rw [ht.issues, ht'.issues]
    unfold Answers.datesIssues
    rw [hi]
  have hstatistics (hst : h.statistics = h'.statistics) :
      h.contributorsKnown = h'.contributorsKnown ∧ h.statisticsAt = h'.statisticsAt := by
    unfold contributorsKnown
    rw [ht.statistics, ht'.statistics, hst]
    exact ⟨rfl, rfl⟩
  cases s with
  | contributors =>
    show (h.answers.contributors.toOption.join).map countReading = _
    rw [show h.answers.contributors = h'.answers.contributors from hs _ rfl]
    rfl
  | openPullRequests =>
    show (h.answers.pullRequests.toOption.join).map countReading = _
    rw [show h.answers.pullRequests = h'.answers.pullRequests from hs _ rfl]
    rfl
  | lastCommit =>
    show (h.answers.lastCommit.toOption.join).map Reading.moment = _
    rw [show h.answers.lastCommit = h'.answers.lastCommit from hs _ rfl]
    rfl
  | readme =>
    show some (Reading.flag (h.answers.readme.toOption.getD false)) = _
    rw [show h.answers.readme = h'.answers.readme from hs _ rfl]
    rfl
  | codeOfConduct =>
    show some (Reading.flag (h.answers.codeOfConduct.toOption.getD false)) = _
    rw [show h.answers.codeOfConduct = h'.answers.codeOfConduct from hs _ rfl]
    rfl
  | securityPolicy =>
    show some (Reading.flag (h.answers.securityPolicy.toOption.getD false)) = _
    rw [show h.answers.securityPolicy = h'.answers.securityPolicy from hs _ rfl]
    rfl
  | files =>
    show (h.answers.files.toOption.join).map countReading = _
    rw [show h.answers.files = h'.answers.files from hs _ rfl]
    rfl
  | issueAge =>
    show h.age?.map Reading.count = h'.age?.map Reading.count
    rw [hissues (hs _ rfl)]
  | commitFrequency =>
    unfold reading
    rw [(hstatistics (hs _ rfl)).1, (hstatistics (hs _ rfl)).2]
  | busFactor =>
    unfold reading
    rw [(hstatistics (hs _ rfl)).1]
  | _ => rfl

/-! ## Asking for the repository -/

section Repository

variable {c : Client}

theorem of_course_get {path : String} {form : Option Form} {l : List Step} {r : Response}
    (h : Course (c.get path form).attempt l (.ok r)) :
    ∃ u, c.service.address (c.root ++ path) form = .ok u ∧ u.isAbsolute = true := by
  unfold Client.get Service.get at h
  rcases Action.course_ofExcept_bind_iff.mp h with ⟨_, -, -, h⟩ | ⟨u, hu, h⟩
  · cases h
  rcases Action.course_bind_iff.mp h with ⟨_, -, h⟩ | ⟨r', _, _, -, -, h⟩
  · cases h
  refine ⟨u, hu, ?_⟩
  by_cases habs : u.isAbsolute = true
  · exact habs
  · rw [if_neg habs] at h
    obtain ⟨-, h⟩ := course_done_iff.mp h
    cases h

/-- A repository that GitHub knows is an object, and its address has a scheme
and a host. -/
theorem of_course_repository {l : List Step} {j : Json}
    (h : Course (c.repository owner name).attempt l (.ok (some j))) :
    (∃ ms, j = .obj ms) ∧
      ∃ u, c.service.address (c.base owner name) none = .ok u ∧ u.isAbsolute = true := by
  unfold Client.repository at h
  rcases Action.course_bind_iff.mp h with ⟨_, -, h⟩ | ⟨j', l₁, l₂, -, hfetch, h⟩
  · cases h
  obtain ⟨-, h⟩ := course_done_iff.mp h
  have hj : j'.isObject = true ∧ j' = j := by
    split at h
    · next ho => exact ⟨ho, (Option.some.inj (Except.ok.inj h)).symm⟩
    · cases h
  unfold Client.fetch at hfetch
  rcases Action.course_bind_iff.mp hfetch with ⟨_, -, h⟩ | ⟨r, _, _, -, hget, -⟩
  · cases h
  refine ⟨?_, of_course_get hget⟩
  obtain ⟨ho, rfl⟩ := hj
  cases j' with
  | obj ms => exact ⟨ms, rfl⟩
  | _ => cases ho

/-- Asking for the repository sends one request. -/
theorem within_repository {u₀ : Url} (hb : c.service.Base (c.base owner name) u₀) :
    Action.Within (· = c.service.request u₀) (c.repository owner name) := by
  unfold Client.repository
  refine (Client.within_fetch fun q hq => ?_).bind fun _ => trivial
  obtain ⟨u, hu, rfl⟩ := hq
  obtain rfl := Except.ok.inj (hb.address.symm.trans hu)
  rfl

end Repository

/-! ## Analyses in worlds that differ at one endpoint -/

section Analyses

variable {i : Identity} {w : World σ} {s : σ} {r : Record}

/-- Where GitHub does not know the repository, nothing is known about it. -/
theorem eq_empty_of_unknown (hkey : splitKey key = some (owner, name))
    (hunknown : ∀ j, (w.run (a.client.repository owner name).attempt s).value ≠ .ok (some j))
    (hr : (w.run (a.analyze i key).attempt s).value = .ok r) : r = .empty i := by
  obtain ⟨hvalue, -⟩ := run_overheard w ("repository " ++ key) (a.client.repository owner name) s
  unfold analyze at hr
  rw [hkey] at hr
  dsimp only at hr
  rw [World.run_safely_bind, hvalue] at hr
  cases hv : settle none (w.run (a.client.repository owner name).attempt s).value with
  | error f =>
    rw [hv] at hr
    cases hr
  | ok known =>
    obtain rfl : known = none := by
      rcases settle_eq_ok_iff.mp hv with hok | ⟨-, -, -, hnone⟩
      · cases known with
        | none => rfl
        | some j => exact absurd hok (hunknown j)
      · exact hnone
    rw [hv] at hr
    exact (Except.ok.inj hr).symm

/-- Where GitHub knows the repository, the record has the readings of what was
heard. -/
theorem eq_of_known (hkey : splitKey key = some (owner, name))
    (hknown : (w.run (a.client.repository owner name).attempt s).value =
      .ok (some (.obj repository)))
    (hr : (w.run (a.analyze i key).attempt s).value = .ok r) :
    r = ⟨i, ((w.run (a.hearing key owner name repository)
      (w.run (a.client.repository owner name).attempt s).state).value).reading repository⟩ := by
  rw [run_analyze i hkey hknown] at hr
  exact Heard.eq_of_outcome hr

/-- **Whether the names that an analysis comes across stay where they are
put.** -/
def NamesStay (a : Analyzer) (key owner name : String) (w : World σ) (s : σ) : Prop :=
  ∀ repository, (w.run (a.client.repository owner name).attempt s).value =
      .ok (some (.obj repository)) →
    ((w.run (a.hearing key owner name repository)
      (w.run (a.client.repository owner name).attempt s).state).value).NamesStay repository

/-- The three flags are set where GitHub knows the repository, and the frequency
of commits only where the bus factor is. -/
theorem set_of_analyze (hkey : splitKey key = some (owner, name))
    (hr : (w.run (a.analyze i key).attempt s).value = .ok r) :
    (∀ f ∈ [Signal.readme, .codeOfConduct, .securityPolicy], (r.reading f).isSome = true ↔
      ∃ repository, (w.run (a.client.repository owner name).attempt s).value =
        .ok (some (.obj repository))) ∧
      ((r.reading .commitFrequency).isSome = true → (r.reading .busFactor).isSome = true) := by
  by_cases hknown : ∃ j, (w.run (a.client.repository owner name).attempt s).value = .ok (some j)
  · obtain ⟨j, hj⟩ := hknown
    obtain ⟨⟨ms, rfl⟩, -⟩ := of_course_repository (hj ▸ World.course_log w _ s)
    obtain rfl := eq_of_known hkey hj hr
    refine ⟨fun f hf => ⟨fun _ => ⟨ms, hj⟩, fun _ => ?_⟩, fun hfrequency => ?_⟩
    · simp only [List.mem_cons, List.not_mem_nil, or_false] at hf
      rcases hf with rfl | rfl | rfl <;> rfl
    · generalize (w.run _ _).value = h at hfrequency ⊢
      have hne : h.contributorsKnown ≠ [] := by
        intro he
        unfold Heard.reading at hfrequency
        rw [he] at hfrequency
        cases hfrequency
      show (((Metrics.busFactor (h.contributorsKnown.map Contributor.total)).map
        countReading).isSome) = true
      rw [Option.isSome_map]
      exact Metrics.isSome_busFactor (by simpa using hne)
  · obtain rfl := eq_empty_of_unknown hkey (fun j hj => hknown ⟨j, hj⟩) hr
    refine ⟨fun f _ => ⟨fun hf => ?_, fun ⟨ms, hms⟩ => absurd ⟨_, hms⟩ hknown⟩, fun hf => ?_⟩
    · cases hf
    · cases hf

end Analyses

section Pairs

variable {i : Identity} {A B : Script} {E : Endpoint} {now : Timestamp}
  {turn : τ → Bool × τ} {turn' : τ' → Bool × τ'} {t : τ} {t' : τ'}

/-- GitHub knows a repository in both worlds or in neither, and says the same
about it. -/
theorem repository_eq {u₀ : Url} (hb : a.client.service.Base (a.client.base owner name) u₀)
    (hAB : ∀ q, ¬ a.client.Asks owner name E q → A q = B q) :
    ((World.scripted now turn).run (a.client.repository owner name).attempt (A, t)).value =
      ((World.scripted now turn').run (a.client.repository owner name).attempt (B, t')).value :=
  Program.Within.result_eq (within_repository hb)
    (fun _ hq => hAB _ (hq ▸ Client.not_asks_repository hb E)) (World.course_log _ _ _)
    (World.course_log _ _ _) (World.follows_log _ A t) (World.follows_log _ B t')

/-- The parts of a hearing that comes after asking for the repository. -/
theorem exists_parts_of_run {u₀ : Url}
    (hb : a.client.service.Base (a.client.base owner name) u₀)
    (hnames : a.NamesStay key owner name (World.scripted now turn) (A, t))
    (hknown : ((World.scripted now turn).run (a.client.repository owner name).attempt
      (A, t)).value = .ok (some (.obj repository))) :
    let h := ((World.scripted now turn).run (a.hearing key owner name repository)
      ((World.scripted now turn).run (a.client.repository owner name).attempt (A, t)).state).value
    h.NamesStay repository ∧ h.Timed now repository ∧ ∃ log : Endpoint → List Step, ∀ e,
      Course (a.part key owner name (defaultBranch repository) (headOf h.head) e) (log e)
        (h.answer e) ∧ Follows A (log e) := by
  intro h
  have hcourse := World.course_log (World.scripted now turn)
    (a.client.repository owner name).attempt (A, t)
  have hbefore (e : Endpoint) (q : Request) (hq : a.client.Asks owner name e q) :
      repliesTo q ((World.scripted now turn).log (a.client.repository owner name).attempt (A, t)) =
        [] := by
    refine (within_repository hb).repliesTo_eq_nil hcourse ?_
    rintro rfl
    exact Client.not_asks_repository hb e hq
  have hfollows : Follows A ((World.scripted now turn).log
      ((a.client.repository owner name).attempt.andThen fun _ =>
        a.hearing key owner name repository) (A, t)) := World.follows_log _ A t
  rw [World.log_andThen] at hfollows
  exact ⟨hnames repository hknown, exists_parts hb (hnames repository hknown)
    (World.course_log _ _ _) hbefore hfollows fun t' ht' => World.told_log _ _ ht'⟩

/-- Two analyses of a repository that GitHub knows, in worlds that differ at one
endpoint. -/
theorem reading_eq_of_known {u₀ : Url}
    (hb : a.client.service.Base (a.client.base owner name) u₀)
    (hAB : ∀ q, ¬ a.client.Asks owner name E q → A q = B q)
    (hnames : a.NamesStay key owner name (World.scripted now turn) (A, t))
    (hnames' : a.NamesStay key owner name (World.scripted now turn') (B, t'))
    (hknown : ((World.scripted now turn).run (a.client.repository owner name).attempt
      (A, t)).value = .ok (some (.obj repository)))
    (hkey : splitKey key = some (owner, name)) {r r' : Record}
    (hr : ((World.scripted now turn).run (a.analyze i key).attempt (A, t)).value = .ok r)
    (hr' : ((World.scripted now turn').run (a.analyze i key).attempt (B, t')).value = .ok r')
    {s : Signal} (hs : s ∉ E.signals) : r.reading s = r'.reading s := by
  have hknown' : ((World.scripted now turn').run (a.client.repository owner name).attempt
      (B, t')).value = .ok (some (.obj repository)) := (repository_eq hb hAB).symm.trans hknown
  obtain ⟨hstay, htimed, log, hparts⟩ := exists_parts_of_run hb hnames hknown
  obtain ⟨-, htimed', log', hparts'⟩ := exists_parts_of_run hb hnames' hknown'
  rw [eq_of_known hkey hknown hr, eq_of_known hkey hknown' hr']
  refine Heard.reading_congr htimed htimed' fun e he => ?_
  obtain ⟨hne, hbranch⟩ := apart_of_not_mem hs he
  exact answer_eq hb hAB hstay hparts hparts' hne hbranch

end Pairs

/-- **No endpoint interferes with the signals of another one.** Two worlds that
answer everything alike but for one endpoint, in whatever order they let
programs take turns, lead to records of the same package that agree on every
signal that the endpoint does not answer for, as long as the names that
come up stay where they are put. In every world, the three flags are set if
and only if GitHub knows the repository, and the frequency of commits only
if the bus factor is. -/
theorem analyze_independent (a : Analyzer) (i : Identity) (key owner name : String)
    (hkey : splitKey key = some (owner, name)) :
    (EndsAtPath a.client.root.toList → EndsAtPath owner.toList → EndsAtPath name.toList →
      ∀ (E : Endpoint) (A B : Script) (now : Timestamp) (τ τ' : Type) (turn : τ → Bool × τ)
        (turn' : τ' → Bool × τ') (t : τ) (t' : τ') (r r' : Record),
        (∀ q, ¬ a.client.Asks owner name E q → A q = B q) →
        a.NamesStay key owner name (World.scripted now turn) (A, t) →
        a.NamesStay key owner name (World.scripted now turn') (B, t') →
        ((World.scripted now turn).run (a.analyze i key).attempt (A, t)).value = .ok r →
        ((World.scripted now turn').run (a.analyze i key).attempt (B, t')).value = .ok r' →
        r.identity = r'.identity ∧ ∀ s, s ∉ E.signals → r.reading s = r'.reading s) ∧
    ∀ (σ : Type) (w : World σ) (s : σ) (r : Record),
      (w.run (a.analyze i key).attempt s).value = .ok r →
        (∀ f ∈ [Signal.readme, .codeOfConduct, .securityPolicy], (r.reading f).isSome = true ↔
          ∃ repository, (w.run (a.client.repository owner name).attempt s).value =
            .ok (some (.obj repository))) ∧
        ((r.reading .commitFrequency).isSome = true → (r.reading .busFactor).isSome = true) := by
  refine ⟨fun hroot howner hname E A B now τ τ' turn turn' t t' r r' hAB hnames hnames' hr hr' =>
    ?_, fun σ w s r hr => set_of_analyze hkey hr⟩
  have hends := Client.endsAtPath_base (c := a.client) hroot howner hname
  -- Where one world knows the repository, so does the other: its document is no endpoint's.
  by_cases hknown : (∃ j, ((World.scripted now turn).run (a.client.repository owner name).attempt
      (A, t)).value = .ok (some j)) ∨ ∃ j, ((World.scripted now turn').run
      (a.client.repository owner name).attempt (B, t')).value = .ok (some j)
  · obtain ⟨u₀, hb⟩ : ∃ u₀, a.client.service.Base (a.client.base owner name) u₀ := by
      rcases hknown with ⟨j, hj⟩ | ⟨j, hj⟩
      · obtain ⟨-, u, hu, habs⟩ := of_course_repository (hj ▸ World.course_log _ _ _)
        exact ⟨u, hends, hu, habs⟩
      · obtain ⟨-, u, hu, habs⟩ := of_course_repository (hj ▸ World.course_log _ _ _)
        exact ⟨u, hends, hu, habs⟩
    obtain ⟨j, hj⟩ : ∃ j, ((World.scripted now turn).run
        (a.client.repository owner name).attempt (A, t)).value = .ok (some j) := by
      rcases hknown with hj | ⟨j, hj⟩
      · exact hj
      · exact ⟨j, (repository_eq hb hAB).trans hj⟩
    obtain ⟨⟨ms, rfl⟩, -⟩ := of_course_repository (hj ▸ World.course_log _ _ _)
    refine ⟨?_, fun s hs =>
      reading_eq_of_known hb hAB hnames hnames' hj hkey hr hr' hs⟩
    rw [eq_of_known hkey hj hr, eq_of_known hkey ((repository_eq hb hAB).symm.trans hj) hr']
  · obtain ⟨hA, hB⟩ := not_or.mp hknown
    rw [eq_empty_of_unknown hkey (fun j hj => hA ⟨j, hj⟩) hr,
      eq_empty_of_unknown hkey (fun j hj => hB ⟨j, hj⟩) hr']
    exact ⟨rfl, fun _ _ => rfl⟩

/-- A script with a document at some addresses, and nothing elsewhere. -/
def documents (ds : List (String × String)) : Script :=
  fun q _ =>
    match ds.find? (·.1 == q.url) with
    | some d => .ok ⟨200, [], d.2.toList.map fun c => UInt8.ofNat c.toNat⟩
    | none => .ok ⟨404, [], []⟩

/-- A script with nothing where a request asks. -/
def without (q : Request) (A : Script) : Script :=
  fun q' n => if q' = q then .ok ⟨404, [], []⟩ else A q' n

/-- The request for the introduction of a repository. -/
def introduction : Request := ⟨"http://h/repos/o/n/readme", once.client.headers⟩

theorem asks_introduction : once.client.Asks "o" "n" .readme introduction :=
  ⟨"", none, Client.takes_nothing rfl,
    ⟨"http".toList, [], "h".toList, none, "/repos/o/n/readme".toList, none, none⟩, by rfl, by rfl⟩

theorem eq_without (A : Script) (q : Request) (hq : ¬ once.client.Asks "o" "n" .readme q) :
    A q = without introduction A q := by
  funext n
  refine (if_neg ?_).symm
  rintro rfl
  exact hq asks_introduction

/-- A script in which every document is an empty object. -/
def objects : Script := fun _ _ => .ok ⟨200, [], [123, 125]⟩

/-- A world that keeps to a script and always lets the first of two programs go
on. -/
abbrev inOrder : World (Script × Unit) := World.scripted default fun s => (true, s)

theorem namesStay_of_head {A : Script}
    (hknown : (inOrder.run (once.client.repository "o" "n").attempt (A, ())).value =
      .ok (some (.obj [])))
    (hhead : Stays (headOf (inOrder.run (once.client.branchHead "o" "n" "main").attempt
      (inOrder.run (once.client.repository "o" "n").attempt (A, ())).state).value).display.toList) :
    once.NamesStay "github.com/o/n" "o" "n" inOrder (A, ()) := by
  intro repository hrepository
  obtain rfl : repository = [] := by
    have := hknown.symm.trans hrepository
    simpa using this.symm
  refine ⟨by decide, ?_⟩
  rw [run_hearing_head, (run_overheard _ _ _ _).1]
  exact hhead

theorem analyze_independent_objects :
    splitKey "github.com/o/n" = some ("o", "n") ∧ EndsAtPath once.client.root.toList ∧
    EndsAtPath "o".toList ∧ EndsAtPath "n".toList ∧
    (∀ q, ¬ once.client.Asks "o" "n" .readme q → objects q = without introduction objects q) ∧
    once.NamesStay "github.com/o/n" "o" "n" inOrder (objects, ()) ∧
    once.NamesStay "github.com/o/n" "o" "n" inOrder (without introduction objects, ()) ∧
    ∃ r r',
      (inOrder.run (once.analyze default "github.com/o/n").attempt (objects, ())).value = .ok r ∧
      (inOrder.run (once.analyze default "github.com/o/n").attempt
        (without introduction objects, ())).value = .ok r' ∧
      (r.identity = r'.identity ∧ ∀ s, s ∉ Endpoint.readme.signals → r.reading s = r'.reading s) ∧
      ((∀ f ∈ [Signal.readme, .codeOfConduct, .securityPolicy], (r.reading f).isSome = true ↔
        ∃ repository, (inOrder.run (once.client.repository "o" "n").attempt (objects, ())).value =
          .ok (some (.obj repository))) ∧
        ((r.reading .commitFrequency).isSome = true → (r.reading .busFactor).isSome = true)) := by
  have hkey : splitKey "github.com/o/n" = some ("o", "n") := by decide
  have hroot : EndsAtPath once.client.root.toList := by decide
  have howner : EndsAtPath "o".toList := by decide
  have hname : EndsAtPath "n".toList := by decide
  have hnames : once.NamesStay "github.com/o/n" "o" "n" inOrder (objects, ()) :=
    namesStay_of_head rfl (by decide +kernel)
  have hnames' : once.NamesStay "github.com/o/n" "o" "n" inOrder
      (without introduction objects, ()) :=
    namesStay_of_head rfl (by decide +kernel)
  have hreturns : (inOrder.run (once.analyze default "github.com/o/n").attempt
      (objects, ())).value.toOption.isSome = true := by decide +kernel
  have hreturns' : (inOrder.run (once.analyze default "github.com/o/n").attempt
      (without introduction objects, ())).value.toOption.isSome = true := by decide +kernel
  obtain ⟨r, hr⟩ := isSome_toOption_iff.mp hreturns
  obtain ⟨r', hr'⟩ := isSome_toOption_iff.mp hreturns'
  obtain ⟨hagree, hset⟩ := analyze_independent once default "github.com/o/n" "o" "n" hkey
  exact ⟨hkey, hroot, howner, hname, fun q => eq_without objects q, hnames, hnames', r, r', hr, hr',
    hagree hroot howner hname .readme objects (without introduction objects) default Unit Unit _ _
      () () r r' (fun q => eq_without objects q) hnames hnames' hr hr', hset _ inOrder _ r hr⟩

/-- A script in which the default branch is called `../readme`. -/
def misled : Script := documents [
  ("http://h/repos/o/n", "\x7b\"default_branch\":\"../readme\"\x7d"),
  ("http://h/repos/o/n/readme", "\x7b\"commit\":\x7b\"sha\":\"a\"\x7d\x7d"),
  ("http://h/repos/o/n/git/trees/a", "\x7b\"tree\":[\x7b\"type\":\"blob\"\x7d]\x7d")]

/-- **Where a name does not stay, endpoints interfere**: the branch is then
looked for where the introduction is, and the introduction tells how many
files there are. -/
theorem analyze_interferes :
    splitKey "github.com/o/n" = some ("o", "n") ∧ EndsAtPath once.client.root.toList ∧
    EndsAtPath "o".toList ∧ EndsAtPath "n".toList ∧
    (∀ q, ¬ once.client.Asks "o" "n" .readme q → misled q = without introduction misled q) ∧
    ∃ r r',
      (inOrder.run (once.analyze default "github.com/o/n").attempt (misled, ())).value = .ok r ∧
      (inOrder.run (once.analyze default "github.com/o/n").attempt
        (without introduction misled, ())).value = .ok r' ∧
      Signal.files ∉ Endpoint.readme.signals ∧ r.reading .files ≠ r'.reading .files := by
  have hfiles : ((inOrder.run (once.analyze default "github.com/o/n").attempt
      (misled, ())).value.toOption.map fun r => (r.reading .files).isSome) = some true := by
    decide +kernel
  have hnone : ((inOrder.run (once.analyze default "github.com/o/n").attempt
      (without introduction misled, ())).value.toOption.map fun r => (r.reading .files).isSome) =
        some false := by
    decide +kernel
  have hok {e : Except Failure Record} {b : Bool}
      (h : (e.toOption.map fun r => (r.reading .files).isSome) = some b) :
      ∃ r, e = .ok r ∧ (r.reading .files).isSome = b := by
    cases e with
    | ok r => exact ⟨r, rfl, Option.some.inj h⟩
    | error f => cases h
  obtain ⟨r, hr, hsome⟩ := hok hfiles
  obtain ⟨r', hr', hnot⟩ := hok hnone
  refine ⟨by decide, by decide, by decide,
    by decide, fun q => eq_without misled q, r, r', hr, hr', by decide, fun he => ?_⟩
  rw [he, hnot] at hsome
  cases hsome

end Analyzer

end PackageVitals.GitHub
