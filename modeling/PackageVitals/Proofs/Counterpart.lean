import PackageVitals.Proofs.Account
import PackageVitals.Proofs.Alike
import PackageVitals.Proofs.Contribution
import PackageVitals.Registry.Standard

/-!
# Analyses that go alike

Two analyses by the standard registry go alike if what may differ between
them does not show: their identities are of one version and are called by
names that may stand for each other in the log (`Identity.Kin`), they are
filed under one system with the same coordinates, and what they ask of
GitHub stands for each other (`GitHub.Client.Alike`).

The part of a provider in this is a lemma for each of its functions. None
of them looks at more of an identity than its lemma says, and none looks at
the headers of a request at all.
-/

namespace PackageVitals

open Action

variable {K : Likeness} {i j : Identity}

/-- **Whether two identities are kin**: they are of one version, and a notice
about one may stand for that about the other. -/
structure Identity.Kin (K : Likeness) (i j : Identity) : Prop where
  /-- They are of one version. -/
  version : i.version = j.version
  /-- Notices about them stand for each other. -/
  called : ∀ severity before after, K.notices
    { severity, text := before ++ i.purl ++ after } { severity, text := before ++ j.purl ++ after }

/-- Notices that end with the names of kin. -/
theorem Identity.Kin.alike_say (hij : i.Kin K j) (severity : Severity) (text : String) :
    Alike K Eq (say severity (text ++ i.purl)) (say severity (text ++ j.purl)) := by
  refine alike_note ?_
  have := hij.called severity text ""
  rwa [String.append_empty, String.append_empty] at this

/-- An identity is its own kin. -/
theorem Identity.Kin.refl (hK : ∀ n, K.notices n n) (i : Identity) : i.Kin K i :=
  ⟨rfl, fun _ _ _ => hK _⟩

namespace Record

/-- **Whether two records say the same**, one of each identity. -/
structure Twin (i j : Identity) (r r' : Record) : Prop where
  /-- The first is about the first identity. -/
  left : r.identity = i
  /-- The second is about the second. -/
  right : r'.identity = j
  /-- Their readings are the same. -/
  reading : r.reading = r'.reading

/-- Records of one identity that say the same are the same. -/
theorem Twin.eq {r r' : Record} (h : Twin i i r r') : r = r' :=
  ext_reading (h.left.trans h.right.symm) (congrFun h.reading)

theorem twin_empty : Twin i j (empty i) (empty j) := ⟨rfl, rfl, rfl⟩

theorem Twin.set {r r' : Record} (h : Twin i j r r') (s : Signal) (v : Option Reading) :
    Twin i j (r.set s v) (r'.set s v) := by
  refine ⟨h.left, h.right, ?_⟩
  unfold Record.set
  rw [h.reading]

theorem Twin.setAll {r r' : Record} (h : Twin i j r r') (us : List (Signal × Option Reading)) :
    Twin i j (r.setAll us) (r'.setAll us) := by
  induction us generalizing r r' with
  | nil => exact h
  | cons u us ih => exact ih (h.set u.1 u.2)

/-- Merging in records that say the same, whatever they are about. -/
theorem Twin.mergeAll {r r' : Record} (h : Twin i j r r') {rs rs' : List Record}
    (hs : List.Forall₂ (fun s s' => s.reading = s'.reading) rs rs') :
    Twin i j (r.mergeAll rs) (r'.mergeAll rs') := by
  induction hs generalizing r r' with
  | nil => exact h
  | cons hr _ ih =>
    refine ih ⟨h.left, h.right, funext fun s => ?_⟩
    rw [reading_merge, reading_merge, h.reading, hr]

theorem Twin.populatedText {r r' : Record} (h : Twin i j r r') :
    Registry.populatedText r = Registry.populatedText r' := by
  have hpopulated : r.populated = r'.populated := by
    unfold populated
    rw [h.reading]
  unfold Registry.populatedText
  rw [hpopulated]

end Record

open Record (Twin twin_empty)

/-! ## Services that write no token -/

/-- **Whether what a service is asked may stand for itself**, at the addresses
that start in a given way. -/
def Service.Repeats (K : Likeness) (s : Service) (start : String) : Prop :=
  ∀ url t u, url.toList = start.toList ++ t → s.address url none = .ok u →
    K.requests (s.request u) (s.request u)

/-- A document at such an address is fetched alike. -/
theorem Service.Repeats.fetchJson {s : Service} {start url : String}
    {read : Json → Except Failure α} (h : s.Repeats K start) (hK : ∀ n, K.notices n n)
    (hurl : ∃ t, url.toList = start.toList ++ t) :
    Action.Alike K Eq (s.fetchJson url none read) (s.fetchJson url none read) := by
  obtain ⟨t, hurl⟩ := hurl
  refine s.alike_fetchJson ?_ fun f => ?_
  · unfold Service.Alike
    cases hu : s.address url none with
    | error f => exact .error f
    | ok u => exact .ok ⟨h url t u hurl hu, rfl⟩
  · cases s.notice? url f with
    | none => exact .none
    | some n => exact .some (hK n)

/-- An address that cannot be sent to makes fetching fail at once. -/
theorem Service.fetchJson_of_malformed {s : Service} {url : String}
    {read : Json → Except Failure α} (h : s.address url none = .error .malformedUrl) :
    s.fetchJson url none read = fail .malformedUrl := by
  have hdocument : s.document url none read = fail .malformedUrl := by
    unfold document get
    rw [h]
    rfl
  unfold fetchJson
  rw [hdocument]
  rfl

namespace DepsDev

theorem Client.latestVersion_of_malformed {c : Client} {system name : String}
    (h : service.address (c.latestVersionUrl system name) none = .error .malformedUrl) :
    c.latestVersion system name = fail .malformedUrl := by
  unfold latestVersion
  rw [Service.fetchJson_of_malformed h]
  rfl

/-- **Every address of deps.dev starts with its root** and the version of the
interface. -/
theorem Client.start_urls (c : Client) (system name version key : String) :
    ∀ url ∈ [c.latestVersionUrl system name, c.versionUrl system name version,
      c.dependentsUrl system name version, c.projectUrl key],
    ∃ t, url.toList = (c.root ++ "/v").toList ++ t := by
  simp only [List.forall_mem_cons, List.not_mem_nil, false_imp_iff, implies_true, and_true,
    latestVersionUrl, versionUrl, dependentsUrl, projectUrl, packageUrl, String.toList_append,
    List.append_assoc, List.append_cancel_left_eq]
  exact ⟨⟨_, rfl⟩, ⟨_, rfl⟩, ⟨_, rfl⟩, ⟨_, rfl⟩⟩

variable {c : Client} (hK : ∀ n, K.notices n n) (hc : service.Repeats K (c.root ++ "/v"))

include hK hc

theorem Client.alike_latestVersion (system name : String) :
    Alike K Eq (c.latestVersion system name) (c.latestVersion system name) :=
  (hc.fetchJson hK (c.start_urls system name "" "" _ (by simp))).map
    fun _ _ h => congrArg (Option.getD · Json.null) h

theorem Client.alike_dependents (system name version : String) :
    Alike K Eq (c.dependents system name version) (c.dependents system name version) :=
  (hc.fetchJson hK (c.start_urls system name version "" _ (by simp))).map
    fun _ _ h => congrArg Option.join h

theorem Client.alike_sourceProject (system name version : String) :
    Alike K Eq (c.sourceProject system name version) (c.sourceProject system name version) :=
  (hc.fetchJson hK (c.start_urls system name version "" _ (by simp))).map
    fun _ _ h => congrArg (Option.getD · Json.null) h

theorem Client.alike_project (key : String) : Alike K Eq (c.project key) (c.project key) :=
  hc.fetchJson hK (c.start_urls "" "" "" key _ (by simp))

/-- The count for a version is found alike. -/
theorem alike_countFor (i : Identity) (system : String) (latest : Json) :
    Alike K Eq (countFor c i system latest) (countFor c i system latest) := by
  have hlatest (own : Option Int) : Alike K Eq
      (if own.isNone && !isVersion latest i.version then do
        c.dependents system i.coordinates (← Action.ofExcept (versionText latest))
      else return own)
      (if own.isNone && !isVersion latest i.version then do
        c.dependents system i.coordinates (← Action.ofExcept (versionText latest))
      else return own) := by
    split
    · refine alike_ofExcept_bind fun v => ?_
      exact c.alike_dependents hK hc _ _ _
    · exact alike_pure rfl
  unfold countFor
  cases Identity.nonempty? i.version with
  | none => exact hlatest none
  | some v =>
    refine (c.alike_dependents hK hc _ _ _).andThen fun own => ?_
    exact hlatest own

/-- **Whether two identities are filed alike** under a system: they have the
same coordinates, or deps.dev can be asked about neither. -/
def FiledAlike (c : Client) (i j : Identity) (system : String) : Prop :=
  i.coordinates = j.coordinates ∨
    service.address (c.latestVersionUrl system i.coordinates) none = .error .malformedUrl ∧
      service.address (c.latestVersionUrl system j.coordinates) none = .error .malformedUrl

section Package

variable (hij : i.Kin K j)
  (hsystem : c.systems.systemFor i.ecosystem = c.systems.systemFor j.ecosystem)
  (hfiled : ∀ system, c.systems.systemFor i.ecosystem = some system → FiledAlike c i j system)

include hij hsystem hfiled

/-- **Dependents are counted alike** for kin that are filed alike. -/
theorem alike_analyzePackage :
    Alike K (Twin i j) (analyzePackage c i) (analyzePackage c j) := by
  cases hs : c.systems.systemFor i.ecosystem with
  | none =>
    unfold analyzePackage
    rw [← hsystem, hs]
    exact alike_pure twin_empty
  | some system =>
    rw [analyzePackage_eq c i hs, analyzePackage_eq c j (hsystem ▸ hs)]
    rcases hfiled system hs with hname | ⟨hi, hj⟩
    · have hcount (latest : Json) : countFor c j system latest = countFor c i system latest := by
        unfold countFor
        rw [← hname, ← hij.version]
      rw [← hname]
      refine (c.alike_latestVersion hK hc system i.coordinates).andThen fun latest => ?_
      split
      · exact (hij.alike_say _ _).andThen fun _ => alike_pure twin_empty
      · rw [hcount]
        refine (alike_countFor hK hc i system _).andThen fun count => ?_
        cases count with
        | none => exact (hij.alike_say _ _).andThen fun _ => alike_pure twin_empty
        | some n => exact alike_pure (twin_empty.set _ _)
    · rw [Client.latestVersion_of_malformed hi, Client.latestVersion_of_malformed hj]
      exact alike_fail _

/-- **So is their source project found.** -/
theorem alike_findProject : Alike K Eq (findProject c i) (findProject c j) := by
  unfold findProject
  rw [← hsystem]
  cases hs : c.systems.systemFor i.ecosystem with
  | none => exact alike_pure rfl
  | some system =>
    dsimp only
    rcases hfiled system hs with hname | ⟨hi, hj⟩
    · rw [← hname]
      refine (c.alike_latestVersion hK hc system i.coordinates).andThen fun latest => ?_
      split
      · exact (hij.alike_say _ _).andThen fun _ => alike_pure rfl
      · refine alike_ofExcept_bind fun version => ?_
        refine (c.alike_sourceProject hK hc system i.coordinates version).andThen fun key => ?_
        split
        · exact (hij.alike_say _ _).andThen fun _ => alike_pure rfl
        · exact alike_pure rfl
    · rw [Client.latestVersion_of_malformed hi, Client.latestVersion_of_malformed hj]
      exact alike_fail _

end Package

/-- **A project is analyzed alike** for any two identities. -/
theorem alike_analyzeProject (i j : Identity) (key : Json) :
    Alike K (Twin i j) (analyzeProject c i key) (analyzeProject c j key) := by
  refine alike_ofExcept_bind fun key => ?_
  refine (c.alike_project hK hc key).andThen fun p => ?_
  split
  · exact (alike_note (hK _)).andThen fun _ => alike_pure twin_empty
  · next p =>
    refine alike_ofExcept ?_
    unfold Project.record
    split
    · exact .ok (twin_empty.setAll _)
    · next v _ =>
      cases Field.single Signal.scorecardVersion.name v.asText with
      | error issues => exact .error _
      | ok s => exact .ok (twin_empty.setAll _)

end DepsDev

/-- **The registry of npm is asked alike** about kin that it knows by one
name. -/
theorem Npm.alike_find {root : String} (hK : ∀ n, K.notices n n)
    (hroot : service.Repeats K (root ++ "/")) (hij : i.Kin K j)
    (hname : packageUrl root i = packageUrl root j) :
    Alike K Eq (find root i) (find root j) := by
  unfold find
  rw [← hname, ← hij.version]
  refine (hroot.fetchJson hK ⟨_, String.toList_append⟩).andThen fun package => ?_
  split
  · refine alike_ofExcept_bind fun key => ?_
    split
    · exact alike_pure rfl
    · exact (hij.alike_say _ _).andThen fun _ => alike_pure rfl
  · exact alike_pure rfl

/-- **PyPI is asked alike** about kin of one name. -/
theorem PyPi.alike_find {root : String} (hK : ∀ n, K.notices n n)
    (hroot : service.Repeats K (root ++ "/")) (hij : i.Kin K j) (hname : i.name = j.name) :
    Alike K Eq (find root i) (find root j) := by
  have hurl : packageUrl root j = packageUrl root i := by
    unfold packageUrl
    rw [hname]
  unfold find
  rw [hurl]
  have hstart : ∃ t, (packageUrl root i).toList = (root ++ "/").toList ++ t :=
    ⟨_, by rw [packageUrl, String.toList_append, String.toList_append, List.append_assoc]⟩
  refine (hroot.fetchJson hK hstart).andThen fun package => ?_
  split
  · refine alike_ofExcept_bind fun key => ?_
    split
    · exact alike_pure rfl
    · exact (hij.alike_say _ _).andThen fun _ => alike_pure rfl
  · exact alike_pure rfl

/-! ## GitHub -/

namespace GitHub

/-- **Whether two clients of GitHub ask alike** about repositories. -/
structure Client.Alike (K : Likeness) (c c' : Client) : Prop where
  /-- They read equally many pages. -/
  patience : c.patience = c'.patience
  /-- What they ask about a repository stands for each other. -/
  asks : ∀ owner name path form, Service.Alike K c.service c'.service
    (c.root ++ (repositoryPath owner name ++ path)) (c'.root ++ (repositoryPath owner name ++ path))
    form form

namespace Client

variable {c c' : Client} (hc : c.Alike K c') (owner name : String)

include hc

theorem alike_get (path : String) (form : Option Form) :
    Action.Alike K Eq (c.get (repositoryPath owner name ++ path) form)
      (c'.get (repositoryPath owner name ++ path) form) :=
  Service.alike_get (hc.asks owner name path form)

theorem alike_fetch (path : String) (form : Option Form) :
    Action.Alike K Eq (c.fetch (repositoryPath owner name ++ path) form)
      (c'.fetch (repositoryPath owner name ++ path) form) := by
  refine (alike_get hc owner name path form).andThen fun r => ?_
  split
  · exact alike_pure rfl
  · exact alike_ofExcept_bind fun _ => alike_ofExcept (Agree.refl _)

theorem alike_read (path : String) (of : Json → Except Failure α) :
    Action.Alike K Eq (c.read (repositoryPath owner name ++ path) of)
      (c'.read (repositoryPath owner name ++ path) of) := by
  refine (alike_fetch hc owner name path none).andThen fun j => ?_
  split
  · exact alike_pure rfl
  · exact (alike_ofExcept (Agree.refl _)).map fun _ _ h => congrArg some h

theorem alike_pagesFrom (path : String) (form : Form) (size : Json) (limit : Option Int)
    (fuel : Nat) (page : Int) :
    Action.Alike K Eq (c.pagesFrom (repositoryPath owner name ++ path) form size limit fuel page)
      (c'.pagesFrom (repositoryPath owner name ++ path) form size limit fuel page) := by
  induction fuel generalizing page with
  | zero => exact alike_fail _
  | succ fuel ih =>
    unfold pagesFrom
    split
    · refine (alike_fetch hc owner name path _).andThen fun j => ?_
      split
      · exact alike_pure rfl
      · refine alike_ofExcept_bind fun items => ?_
        refine alike_ofExcept_bind fun isLast => ?_
        split
        · exact alike_pure rfl
        · refine (ih (page + 1)).andThen fun rest => ?_
          exact alike_pure rfl
    · exact alike_pure rfl

theorem alike_count (path : String) (form : Form) :
    Action.Alike K Eq (c.count (repositoryPath owner name ++ path) form)
      (c'.count (repositoryPath owner name ++ path) form) := by
  refine (alike_get hc owner name path _).andThen fun r => ?_
  exact alike_ofExcept (Agree.refl _)

theorem alike_isThere (path : String) :
    Action.Alike K Eq (c.isThere (repositoryPath owner name ++ path))
      (c'.isThere (repositoryPath owner name ++ path)) := by
  refine (alike_get hc owner name path none).andThen fun r => ?_
  split
  · exact alike_pure rfl
  · exact alike_ofExcept_bind fun _ => alike_pure rfl

theorem alike_repository :
    Action.Alike K Eq (c.repository owner name) (c'.repository owner name) := by
  have h := alike_fetch hc owner name "" none
  rw [String.append_empty] at h
  refine h.andThen fun j => ?_
  exact alike_pure rfl

theorem alike_branchHead (branch : String) :
    Action.Alike K Eq (c.branchHead owner name branch) (c'.branchHead owner name branch) := by
  unfold branchHead
  rw [String.append_assoc]
  refine (alike_read hc owner name _ _).andThen fun head => ?_
  exact alike_pure rfl

theorem alike_commitDate (commit : String) :
    Action.Alike K Eq (c.commitDate owner name commit) (c'.commitDate owner name commit) := by
  unfold commitDate
  rw [String.append_assoc]
  exact alike_read hc owner name _ _

theorem alike_countFiles (commit : String) :
    Action.Alike K Eq (c.countFiles owner name commit) (c'.countFiles owner name commit) := by
  unfold countFiles
  rw [String.append_assoc]
  exact alike_read hc owner name _ _

theorem alike_hasFile (path : String) :
    Action.Alike K Eq (c.hasFile owner name path) (c'.hasFile owner name path) := by
  unfold hasFile
  rw [String.append_assoc]
  exact alike_isThere hc owner name _

theorem alike_openIssueDates :
    Action.Alike K Eq (c.openIssueDates owner name) (c'.openIssueDates owner name) := by
  unfold openIssueDates pages
  rw [← hc.patience]
  refine (alike_pagesFrom hc owner name _ _ _ _ _ _).andThen fun issues => ?_
  exact alike_ofExcept (Agree.refl _)

theorem alike_statistics :
    Action.Alike K Eq (c.statistics owner name) (c'.statistics owner name) := by
  refine Program.Alike.andThen (alike_get hc owner name _ none) fun e e' he => ?_
  obtain rfl := he.eq
  split <;> exact .done (Agree.refl _)

end Client

/-- **Whether two analyzers of GitHub ask alike**: their clients do, and they
have equal patience with the statistics. -/
structure Analyzer.Alike (K : Likeness) (a a' : Analyzer) : Prop where
  /-- Their clients ask alike. -/
  client : a.client.Alike K a'.client
  /-- They ask for the statistics equally often. -/
  attempts : a.attempts = a'.attempts
  /-- They pause equally long. -/
  interval : a.interval = a'.interval

namespace Analyzer

variable {a a' : Analyzer} (hK : ∀ n, K.notices n n) (ha : a.Alike K a')

include hK ha

theorem alike_poll (owner name : String) :
    Action.Alike K Eq (a.poll owner name) (a'.poll owner name) := by
  have hmax : a'.maxAttempts = a.maxAttempts := by
    unfold maxAttempts
    rw [ha.attempts]
  have hnever (text : String) : a'.neverReadyText text = a.neverReadyText text := by
    unfold neverReadyText
    rw [hmax]
  have hready (text : String) (n : Nat) : a'.notReadyText text n = a.notReadyText text n := by
    unfold notReadyText
    rw [hmax, ha.interval]
  unfold poll
  rw [hmax]
  generalize a.maxAttempts = left
  induction left with
  | zero =>
    unfold pollFrom
    rw [hnever]
    exact (alike_note (hK _)).andThen fun _ => alike_pure rfl
  | succ left ih =>
    unfold pollFrom
    refine (Client.alike_statistics ha.client owner name).andThen fun answer => ?_
    cases answer with
    | ready cs => exact alike_pure rfl
    | failed p => exact (alike_note (hK _)).andThen fun _ => alike_pure rfl
    | notReady =>
      rw [hready, hmax, ← ha.interval]
      dsimp only
      split
      · exact (alike_note (hK _)).andThen fun _ => (alike_sleep _).andThen fun _ => ih
      · exact ih

omit ha in
theorem alike_ofHead (head : Json) (description : String) {find find' : String → Action (Option α)}
    (h : ∀ s, Action.Alike K Eq (find s) (find' s)) :
    Action.Alike K Eq (ofHead head description find) (ofHead head description find') := by
  unfold ofHead
  split
  · exact alike_pure rfl
  · exact (h _).safely hK description rfl

theorem alike_findings (key owner name : String) (head : Json) :
    Action.Alike K Eq (a.findings key owner name head) (a'.findings key owner name head) := by
  have hc := ha.client
  unfold findings
  dsimp only
  refine (alike_lift
    (.both (Action.Alike.safely (Client.alike_count hc owner name _ _) hK _ rfl) <|
    .both (Action.Alike.safely (Client.alike_count hc owner name _ _) hK _ rfl) <|
    .both (alike_ofHead hK _ _ (Client.alike_commitDate hc owner name)) <|
    .both (Action.Alike.safely (Client.alike_isThere hc owner name _) hK _ rfl) <|
    .both (Action.Alike.safely (Client.alike_hasFile hc owner name _) hK _ rfl) <|
    .both (Action.Alike.safely (Client.alike_hasFile hc owner name _) hK _ rfl) <|
    .both (alike_ofHead hK _ _ (Client.alike_countFiles hc owner name)) <|
    Action.Alike.safely ((Client.alike_openIssueDates hc owner name).map fun _ _ h => congrArg some h)
      hK _ rfl)).bind ?_
  rintro ⟨r₁, r₂, r₃, r₄, r₅, r₆, r₇, r₈⟩ ⟨r₁', r₂', r₃', r₄', r₅', r₆', r₇', r₈'⟩
    ⟨h₁, h₂, h₃, h₄, h₅, h₆, h₇, h₈⟩
  obtain rfl := h₁.eq
  obtain rfl := h₂.eq
  obtain rfl := h₃.eq
  obtain rfl := h₄.eq
  obtain rfl := h₅.eq
  obtain rfl := h₆.eq
  obtain rfl := h₇.eq
  obtain rfl := h₈.eq
  exact alike_ofExcept_bind fun _ => alike_ofExcept_bind fun _ => alike_ofExcept_bind fun _ =>
    alike_ofExcept_bind fun _ => alike_ofExcept_bind fun _ => alike_ofExcept_bind fun _ =>
    alike_ofExcept_bind fun _ => alike_ofExcept_bind fun _ => alike_pure rfl

theorem alike_statisticsReadings (key owner name : String) (created : Json) :
    Action.Alike K Eq (a.statisticsReadings key owner name created)
      (a'.statisticsReadings key owner name created) := by
  refine (alike_poll hK ha owner name).andThen fun cs => ?_
  split
  · exact alike_pure rfl
  · exact (alike_note (hK _)).andThen fun _ => alike_pure rfl
  · refine Alike.andThen ?_ fun frequency => alike_pure rfl
    unfold commitFrequency
    split
    · exact alike_pure rfl
    · exact alike_ofExcept_bind fun _ => alike_now.andThen fun _ =>
        (alike_ofExcept (Agree.refl _)).map fun _ _ h => congrArg some h

theorem alike_analyzeKnown (i j : Identity) (key owner name : String) (repository : Json) :
    Action.Alike K (Twin i j) (a.analyzeKnown i key owner name repository)
      (a'.analyzeKnown j key owner name repository) := by
  refine alike_ofExcept_bind fun branch => ?_
  refine Alike.andThen (.safely (Client.alike_branchHead ha.client _ _ _) hK _ rfl) fun head => ?_
  refine (alike_findings hK ha key owner name head).andThen fun found => ?_
  refine alike_ofExcept_bind fun archived => ?_
  refine Alike.andThen ?_ fun age => ?_
  · unfold issueAge
    split
    · exact alike_pure rfl
    · exact alike_now.andThen fun _ =>
        (alike_ofExcept (Agree.refl _)).map fun _ _ h => congrArg some h
  refine alike_ofExcept_bind fun created => ?_
  exact (alike_statisticsReadings hK ha key owner name created).andThen fun derived =>
    alike_pure (twin_empty.setAll _)

/-- **A repository is analyzed alike** for any two identities. -/
theorem alike_analyze (i j : Identity) (key : String) :
    Action.Alike K (Twin i j) (a.analyze i key) (a'.analyze j key) := by
  unfold analyze
  split
  · exact (alike_note (hK _)).andThen fun _ => alike_pure twin_empty
  · refine Alike.andThen (.safely (Client.alike_repository ha.client _ _) hK _ rfl) fun found => ?_
    split
    · exact (alike_note (hK _)).andThen fun _ => alike_pure twin_empty
    · exact alike_analyzeKnown hK ha i j key _ _ _

end Analyzer

end GitHub

/-! ## Analyses -/

namespace Registry

/-- **Whether two package analyzers go alike**, each about its identity. -/
structure PackagesAlike (K : Likeness) (i j : Identity) (a a' : PackageAnalyzer) : Prop where
  /-- They have one name. -/
  name : a.name = a'.name
  /-- They apply alike. -/
  applies : a.applies i = a'.applies j
  /-- They analyze alike. -/
  analyze : a.applies i = true → Action.Alike K (Twin i j) (a.analyze i) (a'.analyze j)

/-- **Whether two mappers go alike**, each about its identity. -/
structure MappersAlike (K : Likeness) (i j : Identity) (m m' : Mapper) : Prop where
  /-- They have one name. -/
  name : m.name = m'.name
  /-- They apply alike. -/
  applies : m.applies i = m'.applies j
  /-- They find the same key. -/
  find : m.applies i = true → Action.Alike K Eq (m.find i) (m'.find j)

/-- **Whether two source analyzers go alike**, each about its identity. -/
structure SourcesAlike (K : Likeness) (i j : Identity) (a a' : SourceAnalyzer) : Prop where
  /-- They have one name. -/
  name : a.name = a'.name
  /-- They apply to the same keys. -/
  applies : a.applies = a'.applies
  /-- They analyze alike. -/
  analyze : ∀ key, Action.Alike K (Twin i j) (a.analyze i key) (a'.analyze j key)

/-- What is kept of two lists belongs together where what is kept of each is
known to. -/
theorem forall₂_filter {R : α → β → Prop} {p : α → Bool} {q : β → Bool} {as : List α} {bs : List β}
    (h : List.Forall₂ (fun a b => p a = q b ∧ (p a = true → R a b)) as bs) :
    List.Forall₂ R (as.filter p) (bs.filter q) := by
  induction h with
  | nil => exact .nil
  | @cons a b _ _ hab _ ih =>
    rw [List.filter_cons, List.filter_cons, ← hab.1]
    split
    · next hp => exact .cons (hab.2 hp) ih
    · exact ih

/-- The source analyzers that apply to a key go alike, those kept so far being
given. -/
theorem alike_filterAuxM {key : Json} {as as' kept kept' : List SourceAnalyzer}
    (h : List.Forall₂ (SourcesAlike K i j) as as')
    (hkept : List.Forall₂ (SourcesAlike K i j) kept kept') :
    Agree (List.Forall₂ (SourcesAlike K i j)) (as.filterAuxM (·.applies key) kept)
      (as'.filterAuxM (·.applies key) kept') := by
  induction h generalizing kept kept' with
  | nil => exact .ok hkept
  | @cons a a' as as' ha _ ih =>
    show Agree _ (a.applies key >>= fun b => as.filterAuxM _ (cond b (a :: kept) kept))
      (a'.applies key >>= fun b => as'.filterAuxM _ (cond b (a' :: kept') kept'))
    rw [← ha.applies]
    cases a.applies key with
    | error f => exact .error f
    | ok b =>
      cases b with
      | true => exact ih (.cons ha hkept)
      | false => exact ih hkept

theorem alike_sourceAnalyzersFor {g g' : Registry} {key : Json}
    (h : List.Forall₂ (SourcesAlike K i j) g.sourceAnalyzers g'.sourceAnalyzers) :
    Agree (List.Forall₂ (SourcesAlike K i j)) (g.sourceAnalyzersFor key)
      (g'.sourceAnalyzersFor key) :=
  Agree.bind (alike_filterAuxM h .nil) fun _ _ hkept => .ok (List.rel_reverse hkept)

theorem readings_filterMap {rs rs' : List (Option Record)}
    (h : List.Forall₂ (Option.Rel (Twin i j)) rs rs') :
    List.Forall₂ (fun s s' => s.reading = s'.reading) (rs.filterMap id) (rs'.filterMap id) := by
  induction h with
  | nil => exact .nil
  | cons hr _ ih =>
    cases hr with
    | none => exact ih
    | some h => exact .cons h.reading ih

/-- Equal keys are the first ones equally. -/
theorem firstKey?_congr {ks ks' : List (Option Json)}
    (h : List.Forall₂ (Option.Rel Eq) ks ks') : firstKey? ks = firstKey? ks' := by
  congr 1
  induction h with
  | nil => rfl
  | cons hk _ ih =>
    rw [ih]
    cases hk with
    | none => rfl
    | some h => rw [h]

variable {g g' : Registry} (hK : ∀ n, K.notices n n)

include hK

theorem alike_askSources (hij : i.Kin K j) {record record' : Record} (hr : Twin i j record record')
    (key : Json) {as as' : List SourceAnalyzer}
    (h : List.Forall₂ (SourcesAlike K i j) as as') :
    Action.Alike K (Twin i j) (askSources i record key as) (askSources j record' key as') := by
  have hstage : Action.Alike K (Twin i j)
      (do
        let partials ← stage (as.map fun a => (a.name, a.analyze i key))
        let record := record.mergeAll (partials.filterMap id)
        Action.say .debug (i.purl ++ ": populated " ++ populatedText record)
        return record)
      (do
        let partials ← stage (as'.map fun a => (a.name, a.analyze j key))
        let record := record'.mergeAll (partials.filterMap id)
        Action.say .debug (j.purl ++ ": populated " ++ populatedText record)
        return record) := by
    have hhelpers : List.Forall₂ (HelpersAlike K (Twin i j))
        (as.map fun a => (a.name, a.analyze i key)) (as'.map fun a => (a.name, a.analyze j key)) := by
      rw [List.forall₂_map_left_iff, List.forall₂_map_right_iff]
      exact h.imp fun _ _ ha => ⟨ha.name, ha.analyze key⟩
    refine (alike_stage hK hhelpers).bind fun rs rs' hrs => ?_
    have hmerged := hr.mergeAll (readings_filterMap hrs)
    dsimp only
    refine Alike.andThen (alike_note ?_) fun _ => alike_pure hmerged
    have := hij.called .debug "" (": populated " ++ populatedText (record.mergeAll (rs.filterMap id)))
    rw [← hmerged.populatedText]
    rwa [String.empty_append, String.empty_append, ← String.append_assoc,
      ← String.append_assoc] at this
  have hempty : as.isEmpty = as'.isEmpty := by
    cases h <;> rfl
  unfold askSources
  rw [hempty]
  split
  · exact (alike_note (hK _)).andThen fun _ => hstage
  · exact hstage

/-- **Analyses go alike** if their helpers do, stage by stage. -/
theorem alike_analyze (hij : i.Kin K j)
    (hpackages : List.Forall₂ (PackagesAlike K i j) g.packageAnalyzers g'.packageAnalyzers)
    (hmappers : List.Forall₂ (MappersAlike K i j) g.mappers g'.mappers)
    (hsources : List.Forall₂ (SourcesAlike K i j) g.sourceAnalyzers g'.sourceAnalyzers) :
    Action.Alike K (Twin i j) (g.analyze i) (g'.analyze j) := by
  have hfirst : List.Forall₂ (HelpersAlike K (Twin i j))
      ((g.packageAnalyzersFor i).map fun a => (a.name, a.analyze i))
      ((g'.packageAnalyzersFor j).map fun a => (a.name, a.analyze j)) := by
    rw [List.forall₂_map_left_iff, List.forall₂_map_right_iff]
    exact forall₂_filter (hpackages.imp fun _ _ h => ⟨h.applies, fun hi => ⟨h.name, h.analyze hi⟩⟩)
  have hsecond : List.Forall₂ (HelpersAlike K Eq)
      ((g.mappersFor i).map fun m => (m.name, m.find i))
      ((g'.mappersFor j).map fun m => (m.name, m.find j)) := by
    rw [List.forall₂_map_left_iff, List.forall₂_map_right_iff]
    exact forall₂_filter (hmappers.imp fun _ _ h => ⟨h.applies, fun hi => ⟨h.name, h.find hi⟩⟩)
  rw [analyze_eq, analyze_eq]
  refine (alike_stage hK hfirst).bind fun rs rs' hrs => ?_
  have hmerged := (twin_empty (i := i) (j := j)).mergeAll (readings_filterMap hrs)
  refine Alike.andThen ((alike_stage hK hsecond).bind fun ks ks' hks =>
    alike_pure (firstKey?_congr hks)) fun key => ?_
  unfold afterKey
  cases key with
  | none => exact (hij.alike_say _ _).andThen fun _ => alike_pure hmerged
  | some key =>
    exact (alike_ofExcept (alike_sourceAnalyzersFor hsources)).bind fun as as' has =>
      alike_askSources hK hij hmerged key has

omit hK in
/-- **Analyses of the same packages go alike**, one after another, if each of
them does. -/
theorem alike_analyzeMany {is : List Identity}
    (h : ∀ i ∈ is, Action.Alike K Eq (g.analyze i) (g'.analyze i)) :
    Action.Alike K Eq (g.analyzeMany is) (g'.analyzeMany is) := by
  induction is with
  | nil => exact alike_pure rfl
  | cons i is ih =>
    obtain ⟨hi, his⟩ := List.forall_mem_cons.mp h
    exact hi.andThen fun r => (ih his).andThen fun rs => alike_pure rfl

end Registry

/-! ## The standard registry -/

theorem GitHub.Analyzer.sourcesAlike {a a' : Analyzer} (hK : ∀ n, K.notices n n)
    (ha : a.Alike K a') : Registry.SourcesAlike K i j a.sourceAnalyzer a'.sourceAnalyzer := by
  refine ⟨rfl, rfl, fun key => ?_⟩
  cases key with
  | str key => exact alike_analyze hK ha i j key
  | _ => exact alike_fail _

/-- **Whether two settings ask alike**: they differ at most in what they show
to GitHub. -/
structure Settings.Alike (K : Likeness) (s s' : Settings) : Prop where
  /-- They reach deps.dev at one root. -/
  depsDevUrl : s.depsDevUrl = s'.depsDevUrl
  /-- They file packages under the same systems. -/
  systems : s.systems = s'.systems
  /-- What they ask of deps.dev may stand for itself. -/
  depsDev : DepsDev.service.Repeats K (s.depsDev.root ++ "/v")
  /-- So may what they ask of npm. -/
  npm : Npm.service.Repeats K (rootOf none Npm.standardRoot ++ "/")
  /-- So may what they ask of PyPI. -/
  pypi : PyPi.service.Repeats K (rootOf none PyPi.standardRoot ++ "/")
  /-- They ask alike of GitHub. -/
  github : s.github.Alike K s'.github

/-- **Whether a registry tells two identities apart** only by what they are
called. -/
structure Settings.Likens (s : Settings) (i j : Identity) : Prop where
  /-- They are filed under one system. -/
  system : s.systems.systemFor i.ecosystem = s.systems.systemFor j.ecosystem
  /-- They are filed alike under it. -/
  filed : ∀ system, s.systems.systemFor i.ecosystem = some system →
    DepsDev.FiledAlike s.depsDev i j system
  /-- They are both packages of npm or neither is. -/
  npm : (i.ecosystem == "npm") = (j.ecosystem == "npm")
  /-- If they are, npm knows them by one name. -/
  packageName : i.ecosystem = "npm" → Npm.packageName i = Npm.packageName j
  /-- They are both packages of PyPI or neither is. -/
  pypi : (i.ecosystem == "pypi") = (j.ecosystem == "pypi")
  /-- If they are, they have one name. -/
  name : i.ecosystem = "pypi" → i.name = j.name

theorem Settings.Likens.refl (s : Settings) (i : Identity) : s.Likens i i :=
  ⟨rfl, fun _ _ => .inl rfl, rfl, fun _ => rfl, rfl, fun _ => rfl⟩

/-- **Standard analyses go alike** for settings that ask alike and identities
that are not told apart. -/
theorem Registry.alike_standard {s s' : Settings} (hK : ∀ n, K.notices n n) (hs : s.Alike K s')
    (hij : i.Kin K j) (h : s.Likens i j) :
    Action.Alike K (Twin i j) ((standard s).analyze i) ((standard s').analyze j) := by
  have hclient : s'.depsDev = s.depsDev := by
    unfold Settings.depsDev
    rw [hs.depsDevUrl, hs.systems]
  have hfiles : DepsDev.files s.depsDev i = DepsDev.files s.depsDev j := by
    unfold DepsDev.files
    exact congrArg Option.isSome h.system
  have hgithub : SourcesAlike K i j s.github.sourceAnalyzer s'.github.sourceAnalyzer :=
    GitHub.Analyzer.sourcesAlike hK hs.github
  unfold standard
  rw [hclient]
  refine alike_analyze hK hij (.cons ⟨rfl, hfiles, fun _ => ?_⟩ .nil)
    (.cons ⟨rfl, hfiles, fun _ => ?_⟩ (.cons ⟨rfl, h.npm, fun hi => ?_⟩
      (.cons ⟨rfl, h.pypi, fun hi => ?_⟩ .nil)))
    (.cons ⟨rfl, rfl, fun key => ?_⟩ (.cons hgithub .nil))
  · exact DepsDev.alike_analyzePackage hK hs.depsDev hij h.system h.filed
  · exact DepsDev.alike_findProject hK hs.depsDev hij h.system h.filed
  · refine Npm.alike_find hK hs.npm hij ?_
    unfold Npm.packageUrl
    rw [h.packageName (beq_iff_eq.mp hi)]
  · exact PyPi.alike_find hK hs.pypi hij (h.name (beq_iff_eq.mp hi))
  · exact DepsDev.alike_analyzeProject hK hs.depsDev i j key

/-! ## Packages that look alike -/

/-- **Whether two packages look alike to an analysis**: in every world it sends
the same requests about both, sleeps alike, and comes to the same readings or
fails alike. -/
def Settings.SameSignals (s : Settings) (i j : Identity) : Prop :=
  ∀ (σ : Type) (w : World σ) (t : σ),
    let o := w.run ((Registry.standard s).analyze i).attempt t
    let o' := w.run ((Registry.standard s).analyze j).attempt t
    o.requests = o'.requests ∧ o.sleeps = o'.sleeps ∧ Agree (Twin i j) o.value o'.value

/-- The likeness of programs that ask the same, whatever they log. -/
def Likeness.ofRequests : Likeness := ⟨Eq, fun _ _ => True⟩

/-- **Runs of actions that go alike but for their notices** ask the same, sleep
alike and come to results that agree. -/
theorem World.run_of_alike {V : α → β → Prop} {x : Action α} {x' : Action β}
    (h : Action.Alike .ofRequests V x x') (w : World σ) (t : σ) :
    (w.run x.attempt t).requests = (w.run x'.attempt t).requests ∧
      (w.run x.attempt t).sleeps = (w.run x'.attempt t).sleeps ∧
      Agree V (w.run x.attempt t).value (w.run x'.attempt t).value := by
  obtain ⟨hvalue, -, hevents⟩ := World.run_alike (w := w) (by rintro q _ s rfl; rfl) h t
  obtain ⟨hrequests, hsleeps, -⟩ := Outcome.of_events hevents
  exact ⟨List.forall₂_eq_eq_eq ▸ hrequests, hsleeps, hvalue⟩

theorem Settings.alike_self (s : Settings) : s.Alike .ofRequests s := by
  refine ⟨rfl, rfl, fun _ _ _ _ _ => rfl, fun _ _ _ _ _ => rfl, fun _ _ _ _ _ => rfl,
    ⟨⟨rfl, fun owner name path form => ?_⟩, rfl, rfl⟩⟩
  exact (Agree.refl _).mono fun u _ hu => hu ▸ ⟨rfl, rfl⟩

/-- Kin that are not told apart look alike. -/
theorem Settings.Likens.sameSignals {s : Settings} (h : s.Likens i j)
    (hversion : i.version = j.version) : s.SameSignals i j := fun _ w t =>
  w.run_of_alike (Registry.alike_standard (fun _ => trivial) s.alike_self
    ⟨hversion, fun _ _ _ => trivial⟩ h) t

end PackageVitals
