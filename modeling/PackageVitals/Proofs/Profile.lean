import PackageVitals.Proofs.Statistics
import PackageVitals.Proofs.Tolerance

/-!
# What a project document says

A document about a project writes what is known of it (`DepsDev.Facts`) in members of fixed
names, and what is not known it leaves out or says is null. `DepsDev.Writes` is that format, read
member by member: it does not matter in which order they stand, and there may be others.

**Whatever is written so is read back, and nothing else** (`DepsDev.analyzeProject_reads_back`):
a count of zero, a score of zero and a Scorecard without checks are there, and what is absent or
null is not. The record has these readings and no others.

This takes a body that can be read. One with more digits in a row than a whole number may have
cannot, even where nothing asks for that number, and it says nothing at all
(`DepsDev.analyzeProject_overlong`).
-/

namespace PackageVitals

namespace DepsDev

/-! ## What is known -/

/-- **What a Scorecard says.** -/
structure Card where
  /-- The version that was looked at. -/
  version : Option String
  /-- When it was made. -/
  date : Option Timestamp
  /-- The overall score. -/
  score : Option Double
  /-- The checks. -/
  checks : List Check

/-- **What is known of a project.** -/
structure Facts where
  /-- How many issues are open. -/
  openIssues : Option Int := none
  /-- How many stars it has. -/
  stars : Option Int := none
  /-- How many forks it has. -/
  forks : Option Int := none
  /-- Its Scorecard. -/
  card : Option Card := none

namespace Facts

/-- The project that is read. -/
def project (f : Facts) : Project where
  openIssues := f.openIssues
  stars := f.stars
  forks := f.forks
  version := (f.card.bind (·.version)).map .str
  date := f.card.bind (·.date)
  score := f.card.bind (·.score)
  checks := f.card.map (·.checks)

/-- **The record with these readings** and no others. -/
def record (f : Facts) (i : Identity) : Record where
  identity := i
  reading
    | .openIssues => f.openIssues.map .count
    | .stars => f.stars.map .count
    | .forks => f.forks.map .count
    | .scorecardVersion => (f.card.bind (·.version)).map .text
    | .scorecardDate => (f.card.bind (·.date)).map .moment
    | .scorecardScore => (f.card.bind (·.score)).map .rate
    | .scorecardChecks => (f.card.map (·.checks)).map .checks
    | _ => none

end Facts

/-! ## How it is written -/

/-- **Whether members hold something under a name**, or nothing: then there is no such member,
or it is null. -/
inductive Holds (ms : List (String × Json)) (name : String) (writes : Json → α → Prop) :
    Option α → Prop
  | absent : Json.lookup name ms = none → Holds ms name writes none
  | null : Json.lookup name ms = some .null → Holds ms name writes none
  | held {j : Json} {a : α} : Json.lookup name ms = some j → writes j a →
      Holds ms name writes (some a)

/-- A count is written as a whole number. -/
def WritesCount (j : Json) (n : Int) : Prop := j = .int n

/-- A text is written as it is. -/
def WritesText (j : Json) (t : String) : Prop := j = .str t

/-- A version is a text that is not empty. -/
def WritesVersion (j : Json) (t : String) : Prop := j = .str t ∧ t ≠ ""

/-- A list of texts is written as the list of them. -/
def WritesTexts (j : Json) (ts : List String) : Prop := j = .arr (ts.map .str)

/-- Members are written as an object. -/
def WritesMembers (j : Json) (ms : List (String × Json)) : Prop := j = .obj ms

/-- A point in time is written as a text that can be read as one. -/
def WritesMoment (j : Json) (d : Timestamp) : Prop := ∃ t, j = .str t ∧ Timestamp.read t = .ok d

/-- **A finite number** is written as it is, or as a whole number. -/
inductive WritesNumber : Json → Double → Prop
  | num {negative : Bool} {m : Nat} {e : Int} :
      WritesNumber (.num (.finite negative m e)) (.finite negative m e)
  | int {i : Int} {negative : Bool} {m : Nat} {e : Int} :
      Double.ofInt i = .finite negative m e → WritesNumber (.int i) (.finite negative m e)

/-- **Whether a value writes a check**: an object with a name, and with what else is known. Two
texts stand in an object of their own. -/
inductive WritesCheck : Json → Check → Prop
  | obj {ms : List (String × Json)} {c : Check} {documentation : Option (List (String × Json))}
      {details : Option (List String)} :
      Json.lookup "name" ms = some (.str c.name) →
      Holds ms "documentation" WritesMembers documentation →
      Holds (documentation.getD []) "shortDescription" WritesText c.description →
      Holds (documentation.getD []) "url" WritesText c.documentation →
      Holds ms "score" WritesNumber c.score →
      Holds ms "reason" WritesText c.reason →
      Holds ms "details" WritesTexts details → c.details = details.getD [] →
      WritesCheck (.obj ms) c

/-- **Whether members list checks**: all of them in their order, or none. -/
inductive ListsChecks (ms : List (String × Json)) : List Check → Prop
  | absent : Json.lookup "checks" ms = none → ListsChecks ms []
  | list {js : List Json} {cs : List Check} : Json.lookup "checks" ms = some (.arr js) →
      List.Forall₂ WritesCheck js cs → ListsChecks ms cs

/-- **Whether a value writes a Scorecard**: an object that is not empty. The version stands in an
object of its own. -/
inductive WritesCard : Json → Card → Prop
  | obj {ms : List (String × Json)} {c : Card} {inner : Option (List (String × Json))} :
      ms ≠ [] →
      Holds ms "scorecard" WritesMembers inner →
      Holds (inner.getD []) "version" WritesVersion c.version →
      Holds ms "date" WritesMoment c.date →
      Holds ms "overallScore" WritesNumber c.score →
      ListsChecks ms c.checks →
      WritesCard (.obj ms) c

/-- **Whether a document writes what is known of a project.** -/
inductive Writes : Json → Facts → Prop
  | obj {ms : List (String × Json)} {f : Facts} :
      Holds ms "openIssuesCount" WritesCount f.openIssues →
      Holds ms "starsCount" WritesCount f.stars →
      Holds ms "forksCount" WritesCount f.forks →
      Holds ms "scorecard" WritesCard f.card →
      Writes (.obj ms) f

/-! ## How it is read -/

/-- What follows a part that may be missing goes on with what it is. -/
theorem bind_of_optional {o : Option Json} {read : Json → Except Failure α}
    {k : Option α → Except Failure β} {a : Option α} {b : β} :
    (match o with
      | none => pure none
      | some j => some <$> read j : Except Failure (Option α)) = .ok a → k a = .ok b →
    (match o with
      | none => do
        let a ← pure none
        k a
      | some j => do
        let a ← some <$> read j
        k a : Except Failure β) = .ok b := by
  intro h hk
  cases o with
  | none => exact bind_eq_ok_iff.mpr ⟨a, h, hk⟩
  | some j => exact bind_eq_ok_iff.mpr ⟨a, h, hk⟩

theorem truthy_str {t : String} (h : t ≠ "") : (Json.str t).truthy? = some (.str t) := by
  rw [Json.truthy?, if_pos (by simpa [Json.isTruthy, String.isEmpty_iff] using h)]

theorem truthy_obj {ms : List (String × Json)} (h : ms ≠ []) :
    (Json.obj ms).truthy? = some (.obj ms) := by
  rw [Json.truthy?, if_pos (by simpa [Json.isTruthy, List.isEmpty_iff] using h)]

/-- What is true of what a member writes, and of null where there is nothing, is true of the
member that is asked for. -/
theorem Holds.exists_member {ms : List (String × Json)} {name : String}
    {writes : Json → α → Prop} {o : Option α} (h : Holds ms name writes o) {P : Json → Prop}
    (hnone : o = none → P .null) (hsome : ∀ j a, o = some a → writes j a → P j) :
    ∃ j, (Json.obj ms).member name = .ok j ∧ P j := by
  refine ⟨_, rfl, ?_⟩
  cases h with
  | absent h =>
    rw [h]
    exact hnone rfl
  | null h =>
    rw [h]
    exact hnone rfl
  | held h hw =>
    rw [h]
    exact hsome _ _ rfl hw

/-- An object that may be missing has the members that it writes. -/
theorem Holds.exists_object {ms : List (String × Json)} {name : String}
    {o : Option (List (String × Json))} (h : Holds ms name WritesMembers o) :
    ∃ j, (Json.obj ms).member name = .ok j ∧ j.truthy?.getD (.obj []) = .obj (o.getD []) := by
  refine h.exists_member (fun ho => by rw [ho]; rfl) ?_
  rintro j ms' rfl rfl
  cases ms' <;> rfl

/-- So are texts that may be missing. -/
theorem Holds.exists_text {ms : List (String × Json)} {name : String} {o : Option String}
    (h : Holds ms name WritesText o) (field : String) :
    ∃ j, (Json.obj ms).member name = .ok j ∧ optionalText field j = .ok o := by
  refine h.exists_member (fun ho => by rw [ho]; rfl) ?_
  rintro j t rfl rfl
  rfl

theorem toDouble_of_writesNumber {j : Json} {x : Double} (h : WritesNumber j x) :
    j.toDouble = .ok x ∧ j.known? = some j := by
  cases h with
  | num => exact ⟨rfl, rfl⟩
  | int hi =>
    refine ⟨?_, rfl⟩
    unfold Json.toDouble
    dsimp only
    rw [hi]
    rfl

/-- So are numbers. -/
theorem Holds.exists_number {ms : List (String × Json)} {name : String} {o : Option Double}
    (h : Holds ms name WritesNumber o) : ∃ j, (Json.obj ms).member name = .ok j ∧
      (match j.known? with
        | none => pure none
        | some s => some <$> s.toDouble : Except Failure (Option Double)) = .ok o := by
  refine h.exists_member (fun ho => by rw [ho]; rfl) ?_
  rintro j x rfl hw
  obtain ⟨hdouble, hknown⟩ := toDouble_of_writesNumber hw
  rw [hknown]
  dsimp only
  rw [hdouble]
  rfl

/-- So are counts. -/
theorem Holds.count_eq {ms : List (String × Json)} {name : String} {o : Option Int}
    (h : Holds ms name WritesCount o) : count (.obj ms) name = .ok o := by
  obtain ⟨j, hj, hcount⟩ := h.exists_member (P := fun j => (match j.known? with
    | none => return none
    | some n => return some (← n.toInt) : Except Failure (Option Int)) = .ok o)
    (fun ho => by rw [ho]; rfl) (by rintro j n rfl rfl; rfl)
  exact bind_eq_ok_iff.mpr ⟨j, hj, hcount⟩

/-- So are points in time. -/
theorem Holds.exists_moment {ms : List (String × Json)} {name : String} {o : Option Timestamp}
    (h : Holds ms name WritesMoment o) : ∃ j, (Json.obj ms).member name = .ok j ∧
      (match j.truthy? with
        | none => pure none
        | some d => some <$> d.toTimestamp : Except Failure (Option Timestamp)) = .ok o := by
  refine h.exists_member (fun ho => by rw [ho]; rfl) ?_
  rintro j d rfl ⟨t, rfl, ht⟩
  have hne : t ≠ "" := by
    rintro rfl
    cases ht
  rw [truthy_str hne]
  show some <$> Timestamp.read t = _
  rw [ht]
  rfl

/-- **A check is read as it is written.** -/
theorem check_of_writesCheck {j : Json} {c : Check} (h : WritesCheck j c) : check j = .ok c := by
  cases h with
  | @obj ms _ documentation details hname hdocumentation hdescription hurl hscore hreason hdetails
      hlist =>
    obtain ⟨jd, hd, hobject⟩ := hdocumentation.exists_object
    obtain ⟨js, hs, hnumber⟩ := hscore.exists_number
    obtain ⟨jt, ht, htext⟩ := hdescription.exists_text "description"
    obtain ⟨ju, hu, hlink⟩ := hurl.exists_text "documentation_url"
    obtain ⟨jr, hr, hwhy⟩ := hreason.exists_text "reason"
    obtain ⟨jl, hl, hitems⟩ : ∃ jl, (Json.obj ms).member "details" = .ok jl ∧
        (jl.truthy?.getD (.arr [])).elements = .ok (c.details.map .str) := by
      refine hdetails.exists_member (fun ho => ?_) ?_
      · rw [hlist, ho]
        rfl
      · rintro j ts rfl rfl
        rw [hlist]
        cases ts <;> rfl
    have hitem : (Json.obj ms).item "name" = .ok (.str c.name) := by
      rw [Json.item, hname]
    have hdisplay : (c.details.map .str).map Json.display = c.details := by
      rw [List.map_map]
      exact List.map_id'' Json.display_str c.details
    unfold check
    refine bind_eq_ok_iff.mpr ⟨jd, hd, bind_eq_ok_iff.mpr ⟨js, hs, ?_⟩⟩
    refine bind_eq_ok_iff.mpr ⟨_, hitem, ?_⟩
    refine bind_of_optional hnumber ?_
    rw [hobject]
    refine bind_eq_ok_iff.mpr ⟨jt, ht, bind_eq_ok_iff.mpr ⟨ju, hu, ?_⟩⟩
    refine bind_eq_ok_iff.mpr ⟨jr, hr, bind_eq_ok_iff.mpr ⟨jl, hl, ?_⟩⟩
    refine bind_eq_ok_iff.mpr ⟨_, hitems, ?_⟩
    rw [htext, hlink, hwhy, hdisplay]
    rfl

/-- The checks of a Scorecard are read as they are listed. -/
theorem ListsChecks.elements {ms : List (String × Json)} {cs : List Check}
    (h : ListsChecks ms cs) : ∃ j items, (Json.obj ms).memberD "checks" (.arr []) = .ok j ∧
      j.elements = .ok items ∧ items.mapM check = .ok cs := by
  cases h with
  | absent h => exact ⟨.arr [], [], by rw [Json.memberD, h]; rfl, rfl, rfl⟩
  | list h hcs =>
    refine ⟨_, _, by rw [Json.memberD, h, Option.getD_some], rfl, ?_⟩
    exact mapM_eq_ok_iff.mpr (hcs.imp fun _ _ => check_of_writesCheck)

/-- **A document is read as it is written.** -/
theorem project_of_writes {j : Json} {f : Facts} (h : Writes j f) : project j = .ok f.project := by
  cases h with
  | @obj ms _ hopen hstars hforks hcard =>
    unfold project
    refine bind_eq_ok_iff.mpr ⟨_, hopen.count_eq, bind_eq_ok_iff.mpr ⟨_, hstars.count_eq, ?_⟩⟩
    refine bind_eq_ok_iff.mpr ⟨_, hforks.count_eq, ?_⟩
    refine bind_eq_ok_iff.mpr (hcard.exists_member (fun ho => ?_) ?_)
    · rw [Facts.project, ho]
      rfl
    · rintro j card ho hw
      cases hw with
      | @obj ms' _ inner hne hinner hversion hdate hscore hchecks =>
        obtain ⟨ji, hi, hobject⟩ := hinner.exists_object
        obtain ⟨jv, hv, htext⟩ : ∃ j, (Json.obj (inner.getD [])).member "version" = .ok j ∧
            j.truthy? = card.version.map .str := by
          refine hversion.exists_member (fun ho => by rw [ho]; rfl) ?_
          rintro j t ho ⟨rfl, ht⟩
          rw [truthy_str ht, ho]
          rfl
        obtain ⟨jd, hd, hmoment⟩ := hdate.exists_moment
        obtain ⟨js, hs, hnumber⟩ := hscore.exists_number
        obtain ⟨jc, items, hc, hitems, hall⟩ := hchecks.elements
        rw [truthy_obj hne]
        dsimp only
        refine bind_eq_ok_iff.mpr ⟨ji, hi, ?_⟩
        rw [hobject]
        refine bind_eq_ok_iff.mpr ⟨jv, hv, bind_eq_ok_iff.mpr ⟨jd, hd, ?_⟩⟩
        refine bind_of_optional hmoment ?_
        refine bind_eq_ok_iff.mpr ⟨js, hs, ?_⟩
        refine bind_of_optional hnumber ?_
        refine bind_eq_ok_iff.mpr ⟨jc, hc, bind_eq_ok_iff.mpr ⟨items, hitems, ?_⟩⟩
        refine bind_eq_ok_iff.mpr ⟨_, hall, ?_⟩
        rw [htext, Facts.project, ho]
        rfl

/-- **The record has what is known**, and nothing else. -/
theorem Facts.setAll_readings (f : Facts) (i : Identity) :
    (Record.empty i).setAll (f.project.readings (f.card.bind (·.version))) = f.record i := by
  refine Record.ext_reading (by simp [Facts.record]) fun s => ?_
  cases s <;>
    simp [Record.setAll, Record.reading_set, Project.readings, Facts.project, Facts.record]

/-- The version is a text. -/
theorem Facts.text_version (f : Facts) :
    (f.project.version.bind fun v => (versionText v).toOption) = f.card.bind (·.version) := by
  rw [project, Option.bind_map]
  exact Option.bind_fun_some _

/-! ## What is answered -/

section Answers

variable {w : World σ} {s : σ} {c : Client} {key : String} {r : Response}

/-- **Whether a response of success answers** when a project is asked for. -/
def Client.Answered (c : Client) (w : World σ) (key : String) (s : σ) (r : Response) : Prop :=
  ∃ u, service.address (c.projectUrl key) none = .ok u ∧ u.isAbsolute = true ∧
    (w.reply (service.request u) s).1 = .ok r ∧ r.isSuccess = true

theorem Client.Answered.projectHeard (h : c.Answered w key s r) :
    c.projectHeard w key s = r.json >>= DepsDev.project := by
  obtain ⟨u, hu, habs, hr, hok⟩ := h
  unfold Client.projectHeard Service.heard
  rw [hu]
  show ((w.reply (service.request u) s).1 >>= _) = _
  rw [hr]
  show (if u.isAbsolute = true then _ else _) = _
  rw [if_pos habs, Response.ensureSuccess, if_pos hok]
  rfl

/-- A document that says what is known comes to the record of it. -/
theorem Client.Answered.returns_record {j : Json} {f : Facts} (h : c.Answered w key s r)
    (hjson : r.json = .ok j) (hj : Writes j f) (i : Identity) :
    w.Returns (analyzeProject c i (.str key)) s (· = f.record i) := by
  have hheard : c.projectHeard w key s = .ok f.project := by
    rw [h.projectHeard, hjson]
    exact project_of_writes hj
  refine (returns_analyzeProject_iff w).mpr ⟨⟨?_, fun p hp v hv => ?_⟩, ?_⟩
  · rw [hheard]
    exact .ok _
  · obtain rfl := Except.ok.inj (hheard.symm.trans hp)
    obtain ⟨t, -, rfl⟩ := Option.map_eq_some_iff.mp hv
    exact ⟨t, rfl⟩
  · rw [Client.projectRecord, hheard]
    dsimp only
    rw [f.text_version, f.setAll_readings]

/-- **A body that cannot be read says nothing**, unless it is too deep. -/
theorem Client.Answered.returns_empty {e : Failure} (h : c.Answered w key s r)
    (hjson : r.json = .error e) (hdeep : e ≠ .tooDeep) (i : Identity) :
    w.Returns (analyzeProject c i (.str key)) s (· = .empty i) := by
  have hheard : c.projectHeard w key s = .error e := by
    rw [h.projectHeard, hjson]
    rfl
  have hborne : e.isNoDocument = true := by
    have htext := r.readsText_json e hjson
    cases e with
    | tooDeep => contradiction
    | undecodable => rfl
    | malformedJson => rfl
    | badValue => rfl
    | _ => cases htext
  refine (returns_analyzeProject_iff w).mpr ⟨⟨?_, fun p hp => ?_⟩, ?_⟩
  · rw [hheard]
    exact FailsOnly.error_iff.mpr hborne
  · exact nomatch hheard.symm.trans hp
  · rw [Client.projectRecord, hheard]

end Answers

/-- **Whatever is written is read back, and nothing else.** A document that says what is known of a
project is read as that, and a body with this document comes to the record of it. This is so of
every body that writes it with nothing but gaps around its parts, provided that its whole numbers
do not have too many digits and it is not nested too deeply. -/
theorem analyzeProject_reads_back {j : Json} {f : Facts} (hj : Writes j f) :
    project j = .ok f.project ∧
    ∀ (σ : Type) (w : World σ) (s : σ) (c : Client) (i : Identity) (key : String) (r : Response),
      c.Answered w key s r →
      (r.json = .ok j → w.Returns (analyzeProject c i (.str key)) s (· = f.record i)) ∧
      ∀ l : Json.Layout, l.IsBlank → j.IsCanonical → j.isWritable = true →
        j.levels ≤ Json.depthLimit → Text.decode r.body = some (j.write l 0).toList →
          w.Returns (analyzeProject c i (.str key)) s (· = f.record i) := by
  refine ⟨project_of_writes hj, fun σ w s c i key r h => ⟨fun hjson =>
    h.returns_record hjson hj i, fun l hl hc hw hdepth hbody => ?_⟩⟩
  exact h.returns_record (Json.json_of_written hl hc hw hdepth hbody) hj i

/-- Two checks, of which one says as little as it can. -/
def twoChecks : Facts where
  stars := some 0
  forks := some (-2)
  card := some {
    version := some "v5.1.1"
    date := some ⟨⟨2026, 7, 20⟩, 0, 0, 0, 0, some 0⟩
    score := some (.finite false 8444249301319680 (-50))
    checks := [⟨"Fuzzing", none, some (.finite false 0 0), none, [], none⟩,
      ⟨"License", some "", none, some "found", ["a", ""], some "https://h"⟩] }

/-- A document that writes this, with members that nothing asks for. -/
def twoChecksDocument : Json := .obj [
  ("scorecard", .obj [
    ("overallScore", .num (.finite false 8444249301319680 (-50))),
    ("checks", .arr [
      .obj [("details", .null), ("name", .str "Fuzzing"), ("score", .num (.finite false 0 0))],
      .obj [("reason", .str "found"), ("name", .str "License"),
        ("details", .arr [.str "a", .str ""]),
        ("documentation", .obj [("url", .str "https://h"), ("shortDescription", .str "")])]]),
    ("date", .str "2026-07-20T00:00:00Z"),
    ("scorecard", .obj [("commit", .null), ("version", .str "v5.1.1")])]),
  ("homepage", .arr [.bool true]),
  ("forksCount", .int (-2)),
  ("openIssuesCount", .null),
  ("starsCount", .int 0)]

theorem writes_twoChecks : Writes twoChecksDocument twoChecks := by
  refine .obj (.null rfl) (.held rfl rfl) (.held rfl rfl) (.held rfl ?_)
  refine .obj (by decide) (.held rfl rfl) (.held rfl ⟨rfl, by decide⟩)
    (.held rfl ⟨_, rfl, rfl⟩) (.held rfl .num) (.list rfl ?_)
  refine .cons ?_ (.cons ?_ .nil)
  · exact .obj rfl (.absent rfl) (.absent rfl) (.absent rfl) (.held rfl .num) (.absent rfl)
      (.null rfl) rfl
  · exact .obj rfl (.held rfl rfl) (.held rfl rfl) (.held rfl rfl) (.absent rfl) (.held rfl rfl)
      (.held (a := ["a", ""]) rfl rfl) rfl

/-- The bytes of a document that is written in one line. -/
def bodyOf (j : Json) : List UInt8 :=
  Text.bytes (j.write .line 0).toList

theorem decode_bodyOf (j : Json) : Text.decode (bodyOf j) = some (j.write .line 0).toList :=
  Json.decode_write Json.Layout.isBlank_line j 0

/-- A project is answered for at the standard root. -/
theorem answered_saying (body : List UInt8) : (Client.connect none none).Answered
    (GitHub.saying body) "github.com/octo/widget" () ⟨200, [], body⟩ := by
  have hroot : (Client.connect none none).root = standardRoot := by decide +kernel
  obtain ⟨u₀, hb⟩ := base_standardRoot
  rw [← hroot] at hb
  have hbelow := (Client.connect none none).below_root "" "" "" "github.com/octo/widget"
    ((Client.connect none none).projectUrl "github.com/octo/widget") (by simp)
  obtain ⟨u, hu, habs⟩ := hb.asks hbelow (by decide +kernel)
  exact ⟨u, hu, habs, rfl, rfl⟩

/-- Zeros, empty texts and an empty list are read, and what is absent or null is not. -/
theorem analyzeProject_reads_back_two :
    (GitHub.saying (bodyOf twoChecksDocument)).Returns
      (analyzeProject (.connect none none) ⟨"npm", "x", none, none⟩ (.str "github.com/octo/widget"))
      () (· = twoChecks.record ⟨"npm", "x", none, none⟩) := by
  have hnormal : Double.IsNormal 8444249301319680 (-50) :=
    ⟨by decide, by decide, by decide, by decide, .inl (by decide)⟩
  have hcanonical : twoChecksDocument.IsCanonical := by
    simp [twoChecksDocument, Json.IsCanonical, Json.AreCanonical, Json.HaveCanonical,
      Double.IsCanonical, hnormal]
  obtain ⟨-, h⟩ := analyzeProject_reads_back writes_twoChecks
  obtain ⟨-, hwritten⟩ := h Unit _ () _ ⟨"npm", "x", none, none⟩ _ _
    (answered_saying (bodyOf twoChecksDocument))
  dsimp only at hwritten
  exact hwritten .line Json.Layout.isBlank_line hcanonical (by decide +kernel) (by decide +kernel)
    (decode_bodyOf twoChecksDocument)

/-! ## What cannot be read -/

/-- A document with a whole number that nothing asks for. -/
def unasked (i : Int) : Json :=
  .obj [("x", .int i), ("starsCount", .int 3)]

theorem writes_unasked (i : Int) : Writes (unasked i) { stars := some 3 } :=
  .obj (.absent rfl) (.held rfl rfl) (.absent rfl) (.absent rfl)

/-- **A document with more digits in a row than a whole number may have says nothing**, even where
nothing asks for that number. -/
theorem json_unasked {i : Int} (hi : Number.digitLimit < (Nat.toDigits 10 i.natAbs).length) :
    (⟨200, [], bodyOf (unasked i)⟩ : Response).json = .error .badValue := by
  have hwrite := Json.toList_write_obj .line 0 "x" (.int i) [("starsCount", .int 3)] []
  rw [List.append_nil] at hwrite
  unfold Response.json
  dsimp only
  rw [decode_bodyOf, unasked, hwrite]
  exact Json.ofChars_overlong "x" hi (Json.endsNumber_cons (.inr (by decide)) _)

/-- **Not every body with a document that says something is read as that.** -/
theorem analyzeProject_overlong :
    Writes (unasked (10 ^ Number.digitLimit)) { stars := some 3 } ∧
    Text.decode (bodyOf (unasked (10 ^ Number.digitLimit))) =
      some ((unasked (10 ^ Number.digitLimit)).write .line 0).toList ∧
    ¬ (GitHub.saying (bodyOf (unasked (10 ^ Number.digitLimit)))).Returns
      (analyzeProject (.connect none none) ⟨"npm", "x", none, none⟩ (.str "github.com/octo/widget"))
      () (· = Facts.record { stars := some 3 } ⟨"npm", "x", none, none⟩) := by
  have hjson := json_unasked (Json.lt_length_toDigits (by decide : 0 < Number.digitLimit))
  obtain ⟨r, hr, rfl⟩ := (answered_saying _).returns_empty hjson (by decide)
    ⟨"npm", "x", none, none⟩
  refine ⟨writes_unasked _, decode_bodyOf _, fun ⟨r', hr', h⟩ => ?_⟩
  obtain rfl := Except.ok.inj (hr.symm.trans hr')
  exact nomatch congrArg (fun r : Record => r.reading .stars) h

end DepsDev

end PackageVitals
