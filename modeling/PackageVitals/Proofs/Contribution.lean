import PackageVitals.Proofs.Harmless
import PackageVitals.Proofs.Merging
import PackageVitals.Proofs.Returning

/-!
# What each provider contributes

A record that a provider contributes is made by setting readings in an empty
one, and setting, like merging, adds nothing that was not set. So what is true
of every update is true of every reading of every record that comes of them
(`Record.KeepsTo`).

Two things are true of the updates of the three analyzers of the standard
registry. Each analyzer has signals of **its own** and answers no others, and
the signals of the three are all there are and are answered by one of them
only; so their records are apart, and the order in which they are merged makes
no difference (`analyzers_apart`). And each reading is of its signal's declared
kind (`Declared`), with one exception: whether a repository is archived is taken
over from GitHub's document as it comes.
-/

namespace PackageVitals

open Action (Yields)

/-! ## What all the readings of a record satisfy -/

namespace Record

/-- **Whether a record keeps to something**: it is about an identity, and each
of its readings satisfies a property. -/
structure KeepsTo (i : Identity) (Q : Signal → Reading → Prop) (r : Record) : Prop where
  /-- The record is about the identity. -/
  identity : r.identity = i
  /-- Each reading satisfies the property. -/
  reading : ∀ s v, r.reading s = some v → Q s v

namespace KeepsTo

variable {i : Identity} {Q : Signal → Reading → Prop} {r : Record}

theorem empty : KeepsTo i Q (.empty i) :=
  ⟨rfl, fun _ _ h => nomatch h⟩

theorem mono {Q' : Signal → Reading → Prop} (h : KeepsTo i Q r) (hQ : ∀ s v, Q s v → Q' s v) :
    KeepsTo i Q' r :=
  ⟨h.identity, fun s v hv => hQ s v (h.reading s v hv)⟩

/-- Setting a reading adds that reading and nothing else. -/
theorem set (h : KeepsTo i Q r) {s : Signal} {v : Option Reading} (hv : ∀ x, v = some x → Q s x) :
    KeepsTo i Q (r.set s v) := by
  refine ⟨h.identity, fun t x hx => ?_⟩
  rw [reading_set] at hx
  split at hx
  · next hts =>
    subst hts
    cases v with
    | none => exact h.reading t x hx
    | some y => exact hv x hx
  · exact h.reading t x hx

theorem setAll (h : KeepsTo i Q r) {us : List (Signal × Option Reading)}
    (hus : ∀ u ∈ us, ∀ x, u.2 = some x → Q u.1 x) : KeepsTo i Q (r.setAll us) := by
  induction us generalizing r with
  | nil => exact h
  | cons u us ih =>
    rw [List.forall_mem_cons] at hus
    exact ih (h.set hus.1) hus.2

/-- So does merging, whatever the other record is about. -/
theorem merge {j : Identity} {x : Record} (h : KeepsTo i Q r) (hx : KeepsTo j Q x) :
    KeepsTo i Q (r.merge x) := by
  refine ⟨h.identity, fun s v hv => ?_⟩
  rw [reading_merge] at hv
  cases hs : x.reading s with
  | none => exact h.reading s v (by simpa [hs] using hv)
  | some y =>
    obtain rfl : y = v := by simpa [hs] using hv
    exact hx.reading s y hs

theorem mergeAll {j : Identity} (h : KeepsTo i Q r) {rs : List Record}
    (hrs : ∀ x ∈ rs, KeepsTo j Q x) : KeepsTo i Q (r.mergeAll rs) := by
  induction rs generalizing r with
  | nil => exact h
  | cons x rs ih =>
    rw [List.forall_mem_cons] at hrs
    exact ih (h.merge hrs.1) hrs.2

end KeepsTo

end Record

/-! ## Readings of declared kinds -/

/-- **Whether a reading is as declared**: of its signal's kind, except for what
is taken over as it comes. -/
def Declared (taken : Reading → Prop) (s : Signal) (v : Reading) : Prop :=
  if s = .archived then taken v else v.fits s = true

/-- **Whether a reading may be taken over** for a repository that is archived:
it is in some object among the documents that may come. -/
def TakenOver (P : Reply → Prop) (v : Reading) : Prop :=
  ∃ answer members, P (.ok answer) ∧ answer.json = .ok (.obj members) ∧
    Reading.ofJson? (GitHub.Analyzer.memberOf members "archived") = some v

/-- **Whether a reading is one that an analyzer contributes** which answers some
signals of its own: it is of these, and as declared. -/
def Contributes (P : Reply → Prop) (own : List Signal) (s : Signal) (v : Reading) : Prop :=
  s ∈ own ∧ Declared (TakenOver P) s v

/-- Whether updates contribute nothing else. -/
def Contributing (P : Reply → Prop) (own : List Signal) (us : List (Signal × Option Reading)) :
    Prop :=
  ∀ u ∈ us, ∀ v, u.2 = some v → Contributes P own u.1 v

section Contributing

variable {P : Reply → Prop} {own : List Signal} {s : Signal}

theorem contributing_nil : Contributing P own [] :=
  fun _ hu => nomatch hu

theorem contributing_cons {o : Option Reading} {us : List (Signal × Option Reading)} :
    Contributing P own ((s, o) :: us) ↔
      (∀ v, o = some v → Contributes P own s v) ∧ Contributing P own us :=
  List.forall_mem_cons

theorem contributing_append {us us' : List (Signal × Option Reading)} :
    Contributing P own (us ++ us') ↔ Contributing P own us ∧ Contributing P own us' :=
  List.forall_mem_append

theorem contributes_of_fits {v : Reading} (hs : s ∈ own) (hne : s ≠ .archived)
    (hv : v.fits s = true) : Contributes P own s v := by
  refine ⟨hs, ?_⟩
  rw [Declared, if_neg hne]
  exact hv

/-- What is always read as one kind is contributed as declared. -/
theorem contributes_map {k : α → Reading} {o : Option α} (hs : s ∈ own) (hne : s ≠ .archived)
    (hk : ∀ a, (k a).fits s = true) : ∀ v, o.map k = some v → Contributes P own s v := by
  intro v hv
  obtain ⟨a, -, rfl⟩ := Option.map_eq_some_iff.mp hv
  exact contributes_of_fits hs hne (hk a)

end Contributing

/-! ## deps.dev -/

namespace DepsDev

/-- The signals of a package that deps.dev answers. -/
def packageSignals : List Signal := [.dependents]

/-- The signals of a project that deps.dev answers. -/
def projectSignals : List Signal :=
  [.stars, .forks, .openIssues, .scorecardChecks, .scorecardScore, .scorecardVersion,
    .scorecardDate]

variable {P : Reply → Prop} (c : Client) (i : Identity)

/-- The count of dependents that an analysis comes to once the latest version is
known: that of the version which is asked for, or of the latest one. -/
def countFor (c : Client) (i : Identity) (system : String) (latest : Json) :
    Action (Option Int) := do
  let own ← match Identity.nonempty? i.version with
    | none => pure none
    | some v => c.dependents system i.coordinates v
  if own.isNone && !isVersion latest i.version then do
    c.dependents system i.coordinates (← Action.ofExcept (versionText latest))
  else return own

/-- The record with a count of dependents. -/
def counted (i : Identity) : Option Int → Action Record
  | none => do
    .say .warning ("Could not determine dependents on deps.dev for " ++ i.purl)
    return .empty i
  | some n => return (Record.empty i).set .dependents (some (.count n))

/-- The analysis of a package finds the latest version, then a count. -/
theorem analyzePackage_eq {system : String} (h : c.systems.systemFor i.ecosystem = some system) :
    analyzePackage c i = (do
      let latest ← c.latestVersion system i.coordinates
      match latest.known? with
      | none => do
        noLatestVersion i
        return .empty i
      | some latest => do
        let count ← countFor c i system latest
        counted i count) := by
  unfold analyzePackage countFor
  rw [h]
  dsimp only
  congr 1
  funext latest
  cases latest.known? with
  | none => rfl
  | some latest =>
    -- The count is bound in each of the two cases, so that it goes on alike in both.
    cases Identity.nonempty? i.version with
    | none | some v =>
      dsimp only
      rw [Action.bind_assoc]
      congr 1
      funext own
      split
      · rw [Action.bind_assoc]
        rfl
      · rfl

theorem yields_analyzePackage :
    Yields P (Record.KeepsTo i (Contributes P packageSignals)) (analyzePackage c i) := by
  have hempty : Yields P (Record.KeepsTo i (Contributes P packageSignals))
      (return .empty i : Action Record) :=
    Yields.pure_iff.mpr .empty
  cases hs : c.systems.systemFor i.ecosystem with
  | none =>
    unfold analyzePackage
    rw [hs]
    exact hempty
  | some system =>
    rw [analyzePackage_eq c i hs]
    refine .bind (.trivial _) fun latest _ => ?_
    split
    · exact .bind (.trivial _) fun _ _ => hempty
    · refine .bind (.trivial _) fun count _ => ?_
      cases count with
      | none => exact .bind (.trivial _) fun _ _ => hempty
      | some n =>
        exact Yields.pure_iff.mpr
          (.set .empty (contributes_map (o := some n) (by decide) (by decide) fun _ => rfl))

theorem Project.contributing_readings (p : Project) (version : Option String) :
    Contributing P projectSignals (p.readings version) := by
  unfold readings
  simp only [contributing_cons]
  refine ⟨?_, ?_, ?_, ?_, ?_, ?_, ?_, contributing_nil⟩
  all_goals exact contributes_map (by decide) (by decide) fun _ => rfl

/-- The record of a project has its readings, with some version. -/
theorem Project.eq_of_record {p : Project} {i : Identity} {r : Record} (h : p.record i = .ok r) :
    ∃ version, r = (Record.empty i).setAll (p.readings version) := by
  unfold record at h
  split at h
  · exact ⟨none, (Except.ok.inj h).symm⟩
  · obtain ⟨version, -, hversion⟩ := map_eq_ok_iff.mp h
    exact ⟨some version, hversion.symm⟩

theorem yields_analyzeProject (key : Json) :
    Yields P (Record.KeepsTo i (Contributes P projectSignals)) (analyzeProject c i key) := by
  refine .bind (.trivial _) fun key _ => .bind (.trivial _) fun p _ => ?_
  split
  · exact .bind (.trivial _) fun _ _ => Yields.pure_iff.mpr .empty
  · next p =>
    refine Yields.ofExcept_iff.mpr fun r hr => ?_
    obtain ⟨version, rfl⟩ := Project.eq_of_record (mapError_eq_ok_iff.mp hr)
    exact .setAll .empty (p.contributing_readings version)

end DepsDev

/-! ## GitHub -/

namespace GitHub

/-- The signals of a repository that GitHub answers. -/
def signals : List Signal :=
  [.contributors, .openPullRequests, .lastCommit, .readme, .codeOfConduct, .securityPolicy, .files,
    .issueAge, .archived, .commitFrequency, .busFactor]

namespace Analyzer

variable {P : Reply → Prop} (a : Analyzer) (i : Identity)

/-- The document of a repository that may come: an object, and what it says
about being archived may be taken over. -/
theorem yields_repository (c : Client) (owner name : String) :
    Yields P (fun o => ∀ j, o = some j →
      ∀ v archived, j.member "archived" = .ok archived → Reading.ofJson? archived = some v →
        TakenOver P v) (c.repository owner name) := by
  refine .bind (R := fun j => j ≠ .null → ∃ answer, P (.ok answer) ∧ answer.json = .ok j) ?_
    fun j hj => Yields.pure_iff.mpr ?_
  · refine .bind (Service.yields_get _ _ _) fun r hr => ?_
    split
    · exact Yields.pure_iff.mpr fun h => absurd rfl h
    · exact .bind (.trivial _) fun _ _ => Yields.ofExcept_iff.mpr fun j hj _ => ⟨r, hr, hj⟩
  · rintro j' hj' v archived harchived hv
    cases j with
    | obj members =>
      obtain rfl := Option.some.inj hj'
      obtain ⟨answer, hP, hjson⟩ := hj nofun
      obtain rfl := Except.ok.inj harchived
      exact ⟨answer, members, hP, hjson, hv⟩
    | _ => cases hj'

theorem yields_statisticsReadings (key owner name : String) (created : Json) :
    Yields P (Contributing P signals) (a.statisticsReadings key owner name created) := by
  refine .bind (.trivial _) fun cs _ => ?_
  split
  · exact Yields.pure_iff.mpr contributing_nil
  · exact .bind (.trivial _) fun _ _ => Yields.pure_iff.mpr contributing_nil
  · refine .bind (.trivial _) fun frequency _ => Yields.pure_iff.mpr ?_
    rw [contributing_cons, contributing_cons]
    refine ⟨?_, ?_, contributing_nil⟩
    all_goals exact contributes_map (by decide) (by decide) fun _ => rfl

theorem contributing_readings (found : Findings) (age : Option Int) :
    Contributing P signals (found.readings age) := by
  have hflag {s : Signal} {b : Bool} (hs : s ∈ signals) (hne : s ≠ .archived)
      (hk : s.kind = .flag) : ∀ v, some (Reading.flag b) = some v → Contributes P signals s v :=
    contributes_map (o := some b) hs hne fun _ => by rw [Reading.fits, hk]; rfl
  unfold Findings.readings
  simp only [contributing_cons]
  refine ⟨?_, ?_, ?_, ?_, ?_, ?_, ?_, ?_, contributing_nil⟩
  · exact contributes_map (by decide) (by decide) fun _ => rfl
  · exact contributes_map (by decide) (by decide) fun _ => rfl
  · exact contributes_map (by decide) (by decide) fun _ => rfl
  · exact hflag (by decide) (by decide) rfl
  · exact hflag (by decide) (by decide) rfl
  · exact hflag (by decide) (by decide) rfl
  · exact contributes_map (by decide) (by decide) fun _ => rfl
  · exact contributes_map (by decide) (by decide) fun _ => rfl

theorem yields_analyze (key : String) :
    Yields P (Record.KeepsTo i (Contributes P signals)) (a.analyze i key) := by
  have hempty : Yields P (Record.KeepsTo i (Contributes P signals))
      (return .empty i : Action Record) :=
    Yields.pure_iff.mpr .empty
  unfold analyze
  split
  · exact .bind (.trivial _) fun _ _ => hempty
  · refine .bind (.safely _ (yields_repository a.client _ _) nofun) fun repository hrepository => ?_
    split
    · exact .bind (.trivial _) fun _ _ => hempty
    · next j =>
      refine .bind (.trivial _) fun branch _ => .bind (.trivial _) fun head _ =>
        .bind (.trivial _) fun found _ => .bind (Yields.ofExcept_iff.mpr fun _ h => h)
          fun archived harchived => .bind (.trivial _) fun age _ => .bind (.trivial _)
            fun created _ => .bind (a.yields_statisticsReadings _ _ _ _) fun derived hderived => ?_
      refine Yields.pure_iff.mpr (.setAll .empty ?_)
      refine contributing_append.mpr ⟨contributing_append.mpr ⟨contributing_readings found age,
        contributing_cons.mpr ⟨fun v hv => ⟨by decide, ?_⟩, contributing_nil⟩⟩, hderived⟩
      rw [Declared, if_pos rfl]
      exact hrepository j rfl v archived harchived hv

/-- GitHub says nothing about keys that are no texts. -/
theorem yields_sourceAnalyzer (key : Json) :
    Yields P (Record.KeepsTo i (Contributes P signals)) (a.sourceAnalyzer.analyze i key) := by
  cases key with
  | str s => exact a.yields_analyze i s
  | _ => exact Yields.fail

end Analyzer

end GitHub

/-! ## Apart -/

/-- A record answers nothing but the signals that are contributed. -/
theorem Record.KeepsTo.populated_subset {P : Reply → Prop} {own : List Signal} {i : Identity}
    {r : Record} (h : KeepsTo i (Contributes P own) r) : r.populated ⊆ own := by
  intro s hs
  obtain ⟨v, hv⟩ := Option.isSome_iff_exists.mp (Record.mem_populated.mp hs)
  exact (h.reading s v hv).1

/-- Records of analyzers that answer different signals are apart. -/
theorem Record.KeepsTo.apart {P : Reply → Prop} {own own' : List Signal} {i j : Identity}
    {r r' : Record} (h : KeepsTo i (Contributes P own) r) (h' : KeepsTo j (Contributes P own') r')
    (hown : ∀ s ∈ own, s ∉ own') : Apart r r' :=
  apart_iff.mpr fun s hs hs' => hown s (h.populated_subset hs) (h'.populated_subset hs')

/-- **No analyzer overwrites what another one contributes.** Whatever is replied
to each of the three, and whatever the key, a record that comes of it is about
the identity and answers none but the analyzer's own signals, and each signal is
one of a single analyzer. So the records that there are can be merged in any
order, and each reading of the whole is that of exactly one of them. -/
theorem analyzers_apart (c : DepsDev.Client) (a : GitHub.Analyzer) (i : Identity) (key : Json)
    (w₁ : World σ₁) (w₂ : World σ₂) (w₃ : World σ₃) (s₁ : σ₁) (s₂ : σ₂) (s₃ : σ₃) :
    let package := (w₁.run ((DepsDev.packageAnalyzer c).analyze i).attempt s₁).value
    let project := (w₂.run ((DepsDev.sourceAnalyzer c).analyze i key).attempt s₂).value
    let repository := (w₃.run (a.sourceAnalyzer.analyze i key).attempt s₃).value
    let rs := [package, project, repository].filterMap Except.toOption
    (∀ r, package = .ok r → r.identity = i ∧ r.populated ⊆ DepsDev.packageSignals) ∧
    (∀ r, project = .ok r → r.identity = i ∧ r.populated ⊆ DepsDev.projectSignals) ∧
    (∀ r, repository = .ok r → r.identity = i ∧ r.populated ⊆ GitHub.signals) ∧
    (DepsDev.packageSignals ++ DepsDev.projectSignals ++ GitHub.signals).Perm Signal.all ∧
    rs.Pairwise Record.Apart ∧
    (∀ rs', rs'.Perm rs → (Record.empty i).mergeAll rs' = (Record.empty i).mergeAll rs) ∧
    ∀ s ∈ ((Record.empty i).mergeAll rs).populated,
      ∃! r, r ∈ rs ∧ r.reading s = ((Record.empty i).mergeAll rs).reading s := by
  intro package project repository rs
  have hw {σ : Type} (w : World σ) : w.Replies fun _ => True := fun _ _ => trivial
  have hpackage (r : Record) (hr : package = .ok r) :=
    World.run_of_ensures (hw w₁) (DepsDev.yields_analyzePackage c i) s₁ r hr
  have hproject (r : Record) (hr : project = .ok r) :=
    World.run_of_ensures (hw w₂) (DepsDev.yields_analyzeProject c i key) s₂ r hr
  have hrepository (r : Record) (hr : repository = .ok r) :=
    World.run_of_ensures (hw w₃) (a.yields_sourceAnalyzer i key) s₃ r hr
  have hapart : rs.Pairwise Record.Apart := by
    rw [List.pairwise_filterMap]
    simp only [List.pairwise_cons, List.mem_cons, List.not_mem_nil, or_false, forall_eq_or_imp,
      forall_eq, false_imp_iff, implies_true, List.Pairwise.nil, and_true]
    have hok {e : Except Failure Record} {r : Record} (h : e.toOption = some r) : e = .ok r := by
      cases e with
      | error f => cases h
      | ok v => exact congrArg _ (Option.some.inj h)
    refine ⟨⟨fun r hr r' hr' => ?_, fun r hr r' hr' => ?_⟩, fun r hr r' hr' => ?_⟩
    · exact (hpackage r (hok hr)).apart (hproject r' (hok hr')) (by decide)
    · exact (hpackage r (hok hr)).apart (hrepository r' (hok hr')) (by decide)
    · exact (hproject r (hok hr)).apart (hrepository r' (hok hr')) (by decide)
  exact ⟨fun r hr => ⟨(hpackage r hr).identity, (hpackage r hr).populated_subset⟩,
    fun r hr => ⟨(hproject r hr).identity, (hproject r hr).populated_subset⟩,
    fun r hr => ⟨(hrepository r hr).identity, (hrepository r hr).populated_subset⟩,
    by decide, hapart, fun rs' h => Record.mergeAll_perm hapart h _,
    fun s hs => Record.existsUnique_of_apart hapart hs⟩

end PackageVitals
