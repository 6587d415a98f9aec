import PackageVitals.Proofs.Ensures
import PackageVitals.Proofs.Reading
import PackageVitals.Registry.Standard

/-!
# What is never cancelled

A cancellation is the wish of whoever runs a program. No request brings one
where all replies are those of providers (`Provided`), no reader comes to
one, and neither does anything that is put together from requests and
readers. The helpers of the standard registry are put together in this way,
so none of them is cancelled, but for the one thing that is waited for with
patience only: the end of the list of issues.

A provider gives a response or breaks an exchange off, and where it gives
text, that is of whole characters. A text with half of a character could
not be sent back in an address, and what a provider says is sent back in
the addresses of later requests; so nothing is said here about those who
write halves.
-/

namespace PackageVitals

/-- **Whether a reply is one of a provider**: a response of whole characters,
or an exchange that broke down. -/
structure Provided (r : Reply) : Prop where
  /-- There is a response unless the exchange broke down. -/
  transport : FailsOnly (fun f => f.isTransport = true) r
  /-- It is of whole characters. -/
  whole : ∀ answer, r = .ok answer → answer.isWhole = true

theorem Reads.ne_cancelled {e : Except Failure α} (h : Reads e) : e ≠ .error .cancelled := by
  rintro rfl
  exact absurd (Reads.error_iff.mp h) (by decide)

theorem Provided.ne_cancelled {r : Reply} (h : Provided r) : r ≠ .error .cancelled := by
  rintro rfl
  exact absurd (FailsOnly.error_iff.mp h.transport) (by decide)

/-- A response of whole characters is one of a provider. -/
theorem Provided.ok {answer : Response} (h : answer.isWhole = true) : Provided (.ok answer) where
  transport := (FailsOnly.ok_iff _).mpr trivial
  whole _ he := Except.ok.inj he ▸ h

/-- So is an exchange that broke down. -/
theorem Provided.error {f : Failure} (h : f.isTransport = true) : Provided (.error f) where
  transport := FailsOnly.error_iff.mpr h
  whole _ he := nomatch he

namespace Action.Uncancelled

variable {P : Reply → Prop}

@[simp] theorem pure (a : α) : Uncancelled P (Pure.pure a : Action α) :=
  Program.ensures_done.mpr (by simp)

@[simp] theorem ofExcept_iff {e : Except Failure α} :
    Uncancelled P (ofExcept e) ↔ e ≠ .error .cancelled :=
  Program.ensures_done

@[simp] theorem fail_iff {f : Failure} :
    Uncancelled P (fail f : Action α) ↔ f ≠ .cancelled :=
  ofExcept_iff.trans (by simp)

theorem reads {e : Except Failure α} (h : Reads e) : Uncancelled P (ofExcept e) :=
  ofExcept_iff.mpr h.ne_cancelled

theorem bind {x : Action α} {f : α → Action β} (hx : Uncancelled P x)
    (hf : ∀ a, Uncancelled P (f a)) : Uncancelled P (x >>= f) := by
  refine ensures_bind (R := fun _ => True) (hx.mono fun e he => ?_) fun a _ => hf a
  cases e with
  | ok a => trivial
  | error f => simpa using he

theorem map (f : α → β) {x : Action α} (hx : Uncancelled P x) : Uncancelled P (f <$> x) := by
  show Program.Ensures P _ (f <$> x).attempt
  rw [attempt_map]
  refine hx.andThen fun e he => Program.ensures_done.mpr ?_
  cases e with
  | ok a => simp [Except.map]
  | error g => simpa [Except.map] using he

theorem note (n : Notice) : Uncancelled P (Action.note n) :=
  Program.Ensures.note (Program.ensures_done.mpr (by simp))

theorem say (severity : Severity) (text : String) : Uncancelled P (Action.say severity text) :=
  note _

theorem now : Uncancelled P Action.now :=
  Program.Ensures.now fun _ => Program.ensures_done.mpr (by simp)

theorem sleep (d : Seconds) : Uncancelled P (Action.sleep d) :=
  Program.Ensures.sleep (Program.ensures_done.mpr (by simp))

theorem send (q : Request) : Uncancelled Provided (Action.send q) :=
  Program.Ensures.send fun _ hr => Program.ensures_done.mpr (Provided.ne_cancelled hr)

/-- A signal that is fetched safely is cancelled only as its action is. -/
theorem safely {a : Action α} (description : String) (default : α) (ha : Uncancelled P a) :
    Uncancelled P (Action.safely description default a) := by
  refine Program.Ensures.andThen ha fun e he => ?_
  cases e with
  | ok v => exact Program.ensures_done.mpr (by simp)
  | error f =>
    dsimp only
    split
    · exact .note (Program.ensures_done.mpr (by simp))
    · exact Program.ensures_done.mpr (by simpa using he)

end Action.Uncancelled

open Action (Uncancelled)

/-! ## Services -/

namespace Service

variable (s : Service) (url : String) (form : Option Form)

theorem address_ne_cancelled : s.address url form ≠ .error .cancelled := by
  unfold address
  cases Url.ofString? url with
  | none => simp
  | some u =>
    dsimp only
    split
    · simp [bind, Except.bind]
    · split
      · split <;> simp
      · simp

theorem uncancelled_get : Uncancelled Provided (s.get url form) := by
  refine .bind (Uncancelled.ofExcept_iff.mpr (s.address_ne_cancelled url form)) fun u =>
    .bind (.send _) fun r => ?_
  split
  · exact .pure r
  · exact Uncancelled.fail_iff.mpr (by decide)

theorem uncancelled_document {read : Json → Except Failure α} (h : ∀ j, Reads (read j)) :
    Uncancelled Provided (s.document url form read) := by
  refine .bind (s.uncancelled_get url form) fun r => Uncancelled.ofExcept_iff.mpr ?_
  unfold Response.ensureSuccess
  split
  · exact (r.reads_json.bind h).ne_cancelled
  · show Except.error _ ≠ _
    simp

theorem uncancelled_fetchJson {read : Json → Except Failure α} (h : ∀ j, Reads (read j)) :
    Uncancelled Provided (s.fetchJson url form read) := by
  refine Program.Ensures.andThen (s.uncancelled_document url form h) fun e he => ?_
  cases e with
  | ok a => exact Program.ensures_done.mpr (by simp)
  | error f =>
    dsimp only
    split
    · exact .note (Program.ensures_done.mpr (by simp))
    · exact Program.ensures_done.mpr (by simpa using he)

end Service

/-! ## deps.dev and the package registries -/

namespace DepsDev

variable (c : Client) (i : Identity)

namespace Client

theorem uncancelled_latestVersion (system name : String) :
    Uncancelled Provided (c.latestVersion system name) :=
  .bind (service.uncancelled_fetchJson _ _ reads_latestVersion) fun _ => .pure _

theorem uncancelled_dependents (system name version : String) :
    Uncancelled Provided (c.dependents system name version) :=
  .bind (service.uncancelled_fetchJson _ _ reads_dependentCount) fun _ => .pure _

theorem uncancelled_sourceProject (system name version : String) :
    Uncancelled Provided (c.sourceProject system name version) :=
  .bind (service.uncancelled_fetchJson _ _ reads_sourceProject) fun _ => .pure _

theorem uncancelled_project (key : String) : Uncancelled Provided (c.project key) :=
  service.uncancelled_fetchJson _ _ reads_project

end Client

theorem uncancelled_noLatestVersion : Uncancelled Provided (noLatestVersion i) :=
  .say _ _

/-- The count of dependents as a record. -/
theorem uncancelled_counted (count : Option Int) : Uncancelled Provided (match count with
    | none => do
      Action.say .warning ("Could not determine dependents on deps.dev for " ++ i.purl)
      return .empty i
    | some n => return (Record.empty i).set .dependents (some (.count n)) : Action Record) := by
  split
  · exact .bind (.say _ _) fun _ => .pure _
  · exact .pure _

theorem uncancelled_analyzePackage : Uncancelled Provided (analyzePackage c i) := by
  unfold analyzePackage
  split
  · exact .pure _
  · refine .bind (c.uncancelled_latestVersion _ _) fun latest => ?_
    split
    · exact .bind (uncancelled_noLatestVersion i) fun _ => .pure _
    · dsimp only
      split
      · refine .bind (.pure none) fun own => ?_
        split
        · exact .bind (.reads (reads_versionText _)) fun _ =>
            .bind (c.uncancelled_dependents _ _ _) (uncancelled_counted i)
        · exact .bind (.pure own) (uncancelled_counted i)
      · refine .bind (c.uncancelled_dependents _ _ _) fun own => ?_
        split
        · exact .bind (.reads (reads_versionText _)) fun _ =>
            .bind (c.uncancelled_dependents _ _ _) (uncancelled_counted i)
        · exact .bind (.pure own) (uncancelled_counted i)

theorem uncancelled_findProject : Uncancelled Provided (findProject c i) := by
  unfold findProject
  split
  · exact .pure _
  · refine .bind (c.uncancelled_latestVersion _ _) fun latest => ?_
    split
    · exact .bind (uncancelled_noLatestVersion i) fun _ => .pure _
    · refine .bind (.reads (reads_versionText _)) fun version =>
        .bind (c.uncancelled_sourceProject _ _ _) fun key => ?_
      dsimp only
      split
      · exact .bind (.say _ _) fun _ => .pure _
      · exact .pure _

theorem uncancelled_analyzeProject (key : Json) :
    Uncancelled Provided (analyzeProject c i key) := by
  refine .bind (.reads (reads_versionText key)) fun key =>
    .bind (c.uncancelled_project key) fun p => ?_
  split
  · exact .bind (.say _ _) fun _ => .pure _
  · exact .reads (.ofField _)

end DepsDev

theorem Npm.uncancelled_find (root : String) (i : Identity) :
    Uncancelled Provided (Npm.find root i) := by
  refine .bind (service.uncancelled_fetchJson _ _ Reads.pure) fun package => ?_
  split
  · refine .bind (.reads (reads_keyIn _ _)) fun key => ?_
    split
    · exact .pure _
    · exact .bind (.say _ _) fun _ => .pure _
  · exact .pure _

theorem PyPi.uncancelled_find (root : String) (i : Identity) :
    Uncancelled Provided (PyPi.find root i) := by
  refine .bind (service.uncancelled_fetchJson _ _ Reads.pure) fun package => ?_
  split
  · refine .bind (.reads (reads_keyIn _)) fun key => ?_
    split
    · exact .pure _
    · exact .bind (.say _ _) fun _ => .pure _
  · exact .pure _

/-! ## GitHub -/

namespace GitHub

namespace Client

variable (c : Client) (path : String)

theorem uncancelled_get (form : Option Form) : Uncancelled Provided (c.get path form) :=
  c.service.uncancelled_get _ _

theorem ensureSuccess_ne_cancelled (r : Response) : r.ensureSuccess ≠ .error .cancelled := by
  unfold Response.ensureSuccess
  split <;> simp

theorem uncancelled_fetch (form : Option Form) : Uncancelled Provided (c.fetch path form) := by
  refine .bind (c.uncancelled_get path form) fun r => ?_
  split
  · exact .pure _
  · exact .bind (Uncancelled.ofExcept_iff.mpr (ensureSuccess_ne_cancelled r)) fun _ =>
      .reads r.reads_json

theorem uncancelled_read {of : Json → Except Failure α} (h : ∀ j, Reads (of j)) :
    Uncancelled Provided (c.read path of) := by
  refine .bind (c.uncancelled_fetch path none) fun j => ?_
  split
  · exact .pure _
  · exact .map _ (.reads (h _))

theorem countIn_ne_cancelled (r : Response) : countIn r ≠ .error .cancelled := by
  unfold countIn Response.ensureSuccess
  split
  · simp [pure, Except.pure]
  · split
    · refine Reads.ne_cancelled (Reads.bind (.ok _) fun _ => ?_)
      split
      · exact .pure _
      · split
        · split
          · exact .pure _
          · exact Reads.error_iff.mpr rfl
        · exact r.reads_json.bind fun j => j.reads_size.bind fun _ => .pure _
    · show Except.error _ ≠ _
      simp

theorem uncancelled_count (form : Form) : Uncancelled Provided (c.count path form) :=
  .bind (c.uncancelled_get path _) fun r => Uncancelled.ofExcept_iff.mpr (countIn_ne_cancelled r)

theorem uncancelled_isThere : Uncancelled Provided (c.isThere path) := by
  refine .bind (c.uncancelled_get path _) fun r => ?_
  split
  · exact .pure _
  · exact .bind (Uncancelled.ofExcept_iff.mpr (ensureSuccess_ne_cancelled r)) fun _ => .pure _

theorem statisticsIn_ne_cancelled (r : Response) : statisticsIn r ≠ .error .cancelled := by
  have hread : Reads (do GitHub.contributors (← r.json) : Except Failure (List Contributor)) :=
    r.reads_json.bind reads_contributors
  unfold statisticsIn
  split
  · simp
  · split
    · simp
    · split
      · simp
      · split
        · simp
        · rename_i f hf
          split
          · simp
          · rw [hf] at hread
            exact (Reads.error_iff.mpr (Reads.error_iff.mp hread)).ne_cancelled

theorem uncancelled_statistics (owner name : String) :
    Uncancelled Provided (c.statistics owner name) := by
  refine Program.Ensures.andThen (c.uncancelled_get _ _) fun e he => ?_
  split
  · exact Program.ensures_done.mpr (statisticsIn_ne_cancelled _)
  · exact Program.ensures_done.mpr (by simp)
  · exact Program.ensures_done.mpr (by simpa using he)

end Client

namespace Analyzer

variable (a : Analyzer) (key owner name : String)

theorem uncancelled_pollFrom {ask : Action StatisticsAnswer} (h : Uncancelled Provided ask)
    (repository : String) (left : Nat) :
    Uncancelled Provided (a.pollFrom ask repository left) := by
  induction left with
  | zero => exact .bind (.say _ _) fun _ => .pure _
  | succ left ih =>
    refine .bind h fun answer => ?_
    split
    · exact .pure _
    · exact .bind (.note _) fun _ => .pure _
    · split
      · exact .bind (.say _ _) fun _ => .bind (.sleep _) fun _ => ih
      · exact ih

theorem uncancelled_ofHead {find : String → Action (Option α)}
    (h : ∀ commit, Uncancelled Provided (find commit)) (head : Json) (description : String) :
    Uncancelled Provided (ofHead head description find) := by
  unfold ofHead
  split
  · exact .pure _
  · exact .safely _ _ (h _)

theorem uncancelled_issueAge (dates : Option (List Timestamp)) :
    Uncancelled Provided (issueAge dates) := by
  unfold issueAge
  split
  · exact .pure _
  · exact .bind .now fun now => .map _ (.reads (Metrics.reads_issueAge _ now))

theorem uncancelled_commitFrequency (created : Json) (cs : List Contributor) :
    Uncancelled Provided (commitFrequency created cs) := by
  unfold commitFrequency
  split
  · exact .pure _
  · exact .bind (.reads (Json.reads_toTimestamp _)) fun created =>
      .bind .now fun now => .map _ (.reads (Metrics.reads_commitFrequency _ created now))

theorem uncancelled_statisticsReadings (created : Json) :
    Uncancelled Provided (a.statisticsReadings key owner name created) := by
  refine .bind (a.uncancelled_pollFrom (a.client.uncancelled_statistics owner name) _ _)
    fun cs => ?_
  split
  · exact .pure _
  · exact .bind (.say _ _) fun _ => .pure _
  · exact .bind (uncancelled_commitFrequency created _) fun _ => .pure _

end Analyzer

end GitHub

end PackageVitals
