import PackageVitals.DepsDev.Analyzer
import PackageVitals.Exchange
import PackageVitals.GitHub.Client
import PackageVitals.Metrics
import PackageVitals.Npm.Mapper
import PackageVitals.Proofs.Failing
import PackageVitals.PyPi.Mapper

/-!
# Readers fail over what they read

What a reader of a document fails over is the document: its bytes are no
text, its text is no JSON, or a value in it is not what it should be
(`Failure.isReading`). This holds of the questions asked of one value, and
so of every reader that asks them one after the other. In particular no
reader comes to a failure of the exchange, or to a cancellation.

Where there is no value yet, only a text, a reader fails over that alone
(`ReadsText`).
-/

namespace PackageVitals

/-- Whether a failure is about what was read. -/
def Failure.isReading : Failure → Bool
  | undecodable | malformedJson | tooDeep | missingMember _ | wrongShape | unsupported
  | badValue | outOfRange | invalid _ => true
  | _ => false

/-- **Whether a result fails only over what was read.** -/
def Reads (e : Except Failure α) : Prop :=
  FailsOnly (fun f => f.isReading = true) e

namespace Reads

@[simp] theorem ok (a : α) : Reads (.ok a) :=
  (FailsOnly.ok_iff a).mpr trivial

@[simp] theorem pure (a : α) : Reads (Pure.pure a : Except Failure α) :=
  ok a

@[simp] theorem error_iff {f : Failure} : Reads (.error f : Except Failure α) ↔ f.isReading :=
  FailsOnly.error_iff

theorem bind {e : Except Failure α} {k : α → Except Failure β} (he : Reads e)
    (hk : ∀ a, Reads (k a)) : Reads (e >>= k) :=
  FailsOnly.bind he hk

theorem map {e : Except Failure α} (k : α → β) (he : Reads e) : Reads (e.map k) :=
  FailsOnly.map k he

theorem functorMap {e : Except Failure α} (k : α → β) (he : Reads e) : Reads (k <$> e) :=
  map k he

/-- Refused fields are about what was read. -/
theorem ofField (e : Field α) : Reads (e.mapError Failure.invalid) := by
  cases e with
  | error issues => exact error_iff.mpr rfl
  | ok a => exact ok a

theorem mapM {k : α → Except Failure β} (hk : ∀ a, Reads (k a)) (xs : List α) :
    Reads (xs.mapM k) :=
  failsOnly_mapM hk xs

theorem filterM {p : α → Except Failure Bool} (hp : ∀ a, Reads (p a)) (xs : List α) :
    Reads (xs.filterM p) :=
  failsOnly_filterM hp xs

end Reads

/-- Whether a failure is about a body as a text, before anything is asked of the value in
it. -/
def Failure.isOfText : Failure → Bool
  | undecodable | malformedJson | tooDeep | badValue => true
  | _ => false

/-- **Whether a result fails only over a text.** -/
abbrev ReadsText (e : Except Failure α) : Prop :=
  FailsOnly (fun f => f.isOfText = true) e

/-! ## Questions asked of a value -/

namespace Json

theorem reads_member (j : Json) (name : String) : Reads (j.member name) := by
  cases j with
  | obj members => exact .ok _
  | _ => exact Reads.error_iff.mpr rfl

theorem reads_memberD (j : Json) (name : String) (default : Json) :
    Reads (j.memberD name default) := by
  cases j with
  | obj members => exact .ok _
  | _ => exact Reads.error_iff.mpr rfl

theorem reads_item (j : Json) (name : String) : Reads (j.item name) := by
  cases j with
  | obj members =>
    unfold item
    dsimp only
    split
    · exact .ok _
    · exact Reads.error_iff.mpr rfl
  | _ => exact Reads.error_iff.mpr rfl

theorem reads_elements (j : Json) : Reads j.elements := by
  cases j with
  | arr items => exact .ok _
  | obj members => exact .ok _
  | str s => exact .ok _
  | _ => exact Reads.error_iff.mpr rfl

theorem reads_size (j : Json) : Reads j.size :=
  j.reads_elements.map _

theorem reads_contains (j : Json) (s : String) : Reads (j.contains s) := by
  cases j with
  | arr items => exact .ok _
  | obj members => exact .ok _
  | str t => exact .ok _
  | _ => exact Reads.error_iff.mpr rfl

theorem reads_toInt (j : Json) : Reads j.toInt := by
  unfold toInt
  split
  · exact .ok _
  · exact .ok _
  · exact Reads.error_iff.mpr rfl
  · split
    · exact .ok _
    · exact Reads.error_iff.mpr rfl
  · split
    · exact .ok _
    · exact Reads.error_iff.mpr rfl
  · exact Reads.error_iff.mpr rfl

theorem reads_toDouble (j : Json) : Reads j.toDouble := by
  unfold toDouble
  dsimp only
  split
  · exact .ok _
  · split
    · exact Reads.error_iff.mpr rfl
    · exact .ok _
  · exact .ok _
  · split
    · exact .ok _
    · exact Reads.error_iff.mpr rfl
  · exact Reads.error_iff.mpr rfl

theorem reads_toTimestamp (j : Json) : Reads j.toTimestamp := by
  cases j with
  | str s =>
    show Reads (Timestamp.read s)
    unfold Timestamp.read
    split
    · exact .ok _
    · exact Reads.error_iff.mpr rfl
  | _ => exact Reads.error_iff.mpr rfl

/-! ## JSON texts -/

theorem readsText_readPoints (s : List Char) : ReadsText (readPoints s) := by
  fun_induction readPoints s with
  | case1 => exact FailsOnly.error_iff.mpr rfl
  | case2 => exact .ok _
  | case3 _ _ _ _ _ _ _ ih => exact ih.map _
  | case4 => exact FailsOnly.error_iff.mpr rfl
  | case5 _ _ _ _ _ ih => exact ih.map _
  | case6 => exact FailsOnly.error_iff.mpr rfl
  | case7 => exact FailsOnly.error_iff.mpr rfl
  | case8 _ _ _ _ _ _ ih => exact ih.map _

theorem readsText_readString (s : List Char) : ReadsText (readString s) :=
  (readsText_readPoints s).map _

theorem readsText_readWhole (s : List Char) : ReadsText (readWhole s) := by
  unfold readWhole
  split
  · exact .ok _
  · split
    · exact FailsOnly.error_iff.mpr rfl
    · exact .ok _

theorem readsText_readNumber (negative : Bool) (s : List Char) :
    ReadsText (readNumber negative s) := by
  unfold readNumber
  have hwhole := readsText_readWhole s
  split
  · rename_i e he
    rw [he] at hwhole
    exact FailsOnly.error_iff.mpr (FailsOnly.error_iff.mp hwhole)
  · dsimp only
    split
    · split
      · exact .ok _
      · exact FailsOnly.error_iff.mpr rfl
    · exact .ok _

theorem readsText_readWord (s : List Char) : ReadsText (readWord s) := by
  unfold readWord
  dsimp only
  split
  · exact .ok _
  · split
    · exact readsText_readNumber _ _
    · exact readsText_readNumber _ _

/-- A value, its items and its members are read together, with less and less
left to read with. -/
theorem readsText_readValue (fuel : Nat) : ∀ depth s, ReadsText (readValue depth fuel s) ∧
    ReadsText (readItems depth fuel s) ∧ ReadsText (readMembers depth fuel s) := by
  -- The three readers call each other with one less each time, so that none is first.
  induction fuel with
  | zero =>
    intro depth s
    refine ⟨?_, ?_, ?_⟩
    · unfold readValue
      exact FailsOnly.error_iff.mpr rfl
    · unfold readItems
      exact FailsOnly.error_iff.mpr rfl
    · unfold readMembers
      exact FailsOnly.error_iff.mpr rfl
  | succ fuel ih =>
    intro depth s
    refine ⟨?_, ?_, ?_⟩
    · unfold readValue
      split
      · exact (readsText_readString _).map _
      · split
        · exact FailsOnly.error_iff.mpr rfl
        · exact .ok _
        · exact (ih _ _).2.1.map _
      · split
        · exact FailsOnly.error_iff.mpr rfl
        · exact .ok _
        · exact (ih _ _).2.2.map _
      · exact readsText_readWord _
    · unfold readItems
      split
      · rename_i e he
        exact FailsOnly.error_iff.mpr (FailsOnly.error_iff.mp (he ▸ (ih depth s).1))
      · split
        · exact .ok _
        · exact (ih _ _).2.1.map _
        · exact FailsOnly.error_iff.mpr rfl
    · unfold readMembers
      split
      · split
        · rename_i e he
          exact FailsOnly.error_iff.mpr (FailsOnly.error_iff.mp (he ▸ readsText_readString _))
        · split
          · split
            · rename_i e he
              exact FailsOnly.error_iff.mpr (FailsOnly.error_iff.mp (he ▸ (ih depth _).1))
            · dsimp only
              split
              · exact .ok _
              · exact (ih _ _).2.2.map _
              · exact FailsOnly.error_iff.mpr rfl
          · exact FailsOnly.error_iff.mpr rfl
      · exact FailsOnly.error_iff.mpr rfl

theorem readsText_ofChars (s : List Char) : ReadsText (ofChars s) := by
  unfold ofChars
  split
  · rename_i e he
    exact FailsOnly.error_iff.mpr (FailsOnly.error_iff.mp (he ▸ (readsText_readValue _ _ _).1))
  · split
    · exact .ok _
    · exact FailsOnly.error_iff.mpr rfl

end Json

namespace Response

theorem readsText_json (r : Response) : ReadsText r.json := by
  unfold json
  split
  · exact Json.readsText_ofChars _
  · exact FailsOnly.error_iff.mpr rfl

theorem reads_json (r : Response) : Reads r.json :=
  r.readsText_json.mono fun f hf => by cases f <;> first | rfl | cases hf

end Response

/-! ## Documents -/

namespace DepsDev

theorem reads_defaultVersion (versions : List Json) : Reads (defaultVersion versions) := by
  induction versions with
  | nil => exact .ok _
  | cons v rest ih =>
    refine (v.reads_member _).bind fun b => ?_
    split
    · exact (v.reads_item _).bind fun key => key.reads_item _
    · exact ih

theorem reads_latestVersion (package : Json) : Reads (latestVersion package) :=
  (package.reads_memberD _ _).bind fun j => j.reads_elements.bind reads_defaultVersion

theorem reads_dependentCount (version : Json) : Reads (dependentCount version) := by
  refine (version.reads_member _).bind fun _ => ?_
  split
  · exact .pure _
  · exact (Json.reads_toInt _).bind fun _ => .pure _

theorem reads_firstSource (projects : List Json) : Reads (firstSource projects) := by
  induction projects with
  | nil => exact .ok _
  | cons p rest ih =>
    refine (p.reads_member _).bind fun b => ?_
    split
    · refine (p.reads_member _).bind fun j => (Json.reads_member _ _).bind fun key => ?_
      split
      · exact .pure _
      · exact ih
    · exact ih

theorem reads_sourceProject (version : Json) : Reads (sourceProject version) :=
  (version.reads_memberD _ _).bind fun j => j.reads_elements.bind reads_firstSource

theorem reads_check (j : Json) : Reads (check j) := by
  refine (j.reads_member _).bind fun _ => (j.reads_member _).bind fun score =>
    (j.reads_item _).bind fun _ => ?_
  dsimp only
  split
  all_goals
    refine Reads.bind ?_ fun _ => (Json.reads_member _ _).bind fun _ =>
      (Json.reads_member _ _).bind fun _ => (j.reads_member _).bind fun _ =>
      (j.reads_member _).bind fun _ => (Json.reads_elements _).bind fun _ => ?_
    · first | exact .pure _ | exact (Json.reads_toDouble _).functorMap _
    · split
      · exact .pure _
      · exact Reads.error_iff.mpr rfl

theorem reads_count (j : Json) (name : String) : Reads (count j name) := by
  refine (j.reads_member _).bind fun _ => ?_
  split
  · exact .pure _
  · exact (Json.reads_toInt _).bind fun _ => .pure _

theorem reads_versionText (j : Json) : Reads (versionText j) := by
  cases j with
  | str s => exact .ok s
  | _ => exact Reads.error_iff.mpr rfl

theorem reads_project (j : Json) : Reads (project j) := by
  refine (reads_count j _).bind fun _ => (reads_count j _).bind fun _ =>
    (reads_count j _).bind fun _ => (j.reads_member _).bind fun _ => ?_
  split
  · exact .pure _
  · refine (Json.reads_member _ _).bind fun _ => (Json.reads_member _ _).bind fun _ =>
      (Json.reads_member _ _).bind fun _ => ?_
    dsimp only
    split
    all_goals
      refine Reads.bind ?_ fun _ => (Json.reads_member _ _).bind fun _ => ?_
      · first | exact .pure _ | exact (Json.reads_toTimestamp _).functorMap _
      · split
        all_goals
          refine Reads.bind ?_ fun _ => (Json.reads_memberD _ _ _).bind fun _ =>
            (Json.reads_elements _).bind fun _ => (Reads.mapM reads_check _).bind fun _ => .pure _
          first | exact .pure _ | exact (Json.reads_toDouble _).functorMap _

end DepsDev

namespace Npm

theorem reads_versionData (package : Json) (version : Option String) :
    Reads (versionData package version) := by
  refine (package.reads_member _).bind fun _ => ?_
  dsimp only
  split
  · exact .pure _
  · refine (Json.reads_contains _ _).bind fun _ => ?_
    split
    · exact Json.reads_item _ _
    · exact .pure _

theorem reads_repositoryField (package : Json) (version : Option String) :
    Reads (repositoryField package version) := by
  refine (reads_versionData package version).bind fun data => (data.reads_member _).bind fun _ => ?_
  split
  · exact .pure _
  · exact package.reads_member _

theorem reads_repositoryUrl (repository : Json) : Reads (repositoryUrl repository) := by
  unfold repositoryUrl
  dsimp only
  split
  · exact .ok _
  · split
    · exact .ok _
    · split
      · exact Reads.error_iff.mpr rfl
      · exact .ok _
  · exact .ok _

theorem reads_keyIn (package : Json) (version : Option String) : Reads (keyIn package version) :=
  (reads_repositoryField package version).bind fun j =>
    (reads_repositoryUrl j).bind fun _ => .pure _

end Npm

namespace PyPi

theorem reads_onForge (url : Json) : Reads (onForge url) := by
  unfold onForge
  split
  · exact (Reads.mapM (fun _ => url.reads_contains _) _).map _
  · exact .ok _

theorem reads_firstOnForge (urls : List Json) : Reads (firstOnForge urls) := by
  induction urls with
  | nil => exact .ok _
  | cons url rest ih =>
    refine (reads_onForge url).bind fun _ => ?_
    split
    · exact .pure _
    · exact ih

theorem reads_projectUrls (info : Json) : Reads (projectUrls info) := by
  refine (info.reads_member _).bind fun _ => ?_
  split
  · exact .pure _
  · exact Reads.error_iff.mpr rfl

theorem reads_repositoryUrl (info : Json) : Reads (repositoryUrl info) :=
  (reads_projectUrls info).bind fun _ => (info.reads_member _).bind fun _ => reads_firstOnForge _

theorem reads_keyOf (url : Option Json) : Reads (keyOf url) := by
  unfold keyOf
  split
  · exact .ok _
  · exact .ok _
  · exact Reads.error_iff.mpr rfl

theorem reads_keyIn (package : Json) : Reads (keyIn package) :=
  (package.reads_member _).bind fun _ => (reads_repositoryUrl _).bind reads_keyOf

end PyPi

namespace GitHub

theorem reads_branchHead (branch : Json) : Reads (branchHead branch) :=
  (branch.reads_item _).bind fun j => j.reads_item _

theorem reads_commitDate (commit : Json) : Reads (commitDate commit) :=
  (commit.reads_item _).bind fun j => (j.reads_item _).bind fun j => (j.reads_item _).bind
    fun date => date.reads_toTimestamp

theorem reads_isFile (entry : Json) : Reads (isFile entry) := by
  unfold isFile
  split
  · exact (entry.reads_member _).bind fun _ => .pure _
  · exact .ok _

theorem reads_fileCount (tree : Json) : Reads (fileCount tree) :=
  (tree.reads_memberD _ _).bind fun j => j.reads_elements.bind fun entries =>
    (Reads.filterM reads_isFile entries).bind fun _ => .pure _

theorem reads_issueDate (issue : Json) : Reads (issueDate issue) := by
  refine (issue.reads_contains _).bind fun _ => ?_
  split
  · exact .pure _
  · exact (issue.reads_item _).bind fun j => j.reads_toTimestamp.bind fun _ => .pure _

theorem reads_issueDates (issues : List Json) : Reads (issueDates issues) :=
  (Reads.mapM reads_issueDate issues).bind fun _ => .pure _

theorem reads_contributor (entry : Json) : Reads (contributor entry) := by
  refine (entry.reads_member _).bind fun _ => (Json.reads_member _ _).bind fun _ =>
    (entry.reads_memberD _ _).bind fun _ => ?_
  dsimp only
  split
  · exact .pure _
  · exact Reads.error_iff.mpr rfl

theorem reads_contributors (statistics : Json) : Reads (contributors statistics) :=
  (Json.reads_elements _).bind fun entries => .mapM reads_contributor entries

end GitHub

namespace Metrics

theorem reads_daysSince (now created : Timestamp) : Reads (now.daysSince created) := by
  unfold Timestamp.daysSince
  split
  · exact .ok _
  · exact Reads.error_iff.mpr rfl

theorem reads_issueAge (created : List Timestamp) (now : Timestamp) :
    Reads (issueAge created now) :=
  (Reads.mapM (reads_daysSince now) created).map _

theorem reads_inRange (x : Double) : Reads (inRange x) := by
  unfold inRange
  split
  · exact Reads.error_iff.mpr rfl
  · exact .ok _

theorem reads_commitFrequency (commits : Int) (created now : Timestamp) :
    Reads (commitFrequency commits created now) := by
  unfold commitFrequency
  split
  · rename_i e he
    exact Reads.error_iff.mpr (Reads.error_iff.mp (he ▸ reads_daysSince now created))
  · exact reads_inRange _

end Metrics

end PackageVitals
