import PackageVitals.Proofs.Independence
import PackageVitals.Proofs.Ending
import PackageVitals.Proofs.Sending

/-!
# Pages that are missing

A page that is not there is null, and a list ends at a page with nothing on it. The
two meet where a list is read: one of its pages that is not there ends it like its
last one, and what was read before counts for the whole (`Client.course_of_missing`).

So the dates of the open issues are those on the full pages before it, none of them
where it is the first, and the age of the issues is their mean, or zero. Only a
date before it that cannot be read leaves the age unanswered
(`Analyzer.issueAge_of_missing`).
-/

namespace PackageVitals

/-- The reply of a step, if it is an exchange. -/
def Step.reply? : Step → Option Reply
  | exchanged _ r => some r
  | _ => none

theorem Step.exists_of_reply? {l : List Step} {r : Reply} (h : r ∈ l.filterMap reply?) :
    ∃ q, .exchanged q r ∈ l := by
  obtain ⟨y, hy, hr⟩ := List.mem_filterMap.mp h
  cases y with
  | exchanged q r' =>
    obtain rfl := Option.some.inj hr
    exact ⟨q, hy⟩
  | _ => cases hr

/-- What the clock tells in a run is one of its readings. -/
theorem World.exists_of_told {w : World σ} {p : Program α} {s : σ} {now : Timestamp}
    (h : .told now ∈ w.log p s) : ∃ t, now = (w.clock t).1 := by
  induction p generalizing s with
  | done a => exact absurd h (by simp [log])
  | send q next ih => exact ih _ (by simpa [log] using h)
  | sleep d next ih => exact ih (by simpa [log] using h)
  | note n next ih => exact ih (by simpa [log] using h)
  | now next ih =>
    rcases List.mem_cons.mp h with he | h
    · exact ⟨s, Step.told.inj he⟩
    · exact ih _ h
  | pause next ih => exact ih h
  | turn next ih => exact ih _ h

/-- Without issues their age is zero. -/
theorem Metrics.issueAge_nil (now : Timestamp) : issueAge [] now = .ok 0 := by
  unfold issueAge ages
  rw [List.mapM_nil]
  rfl

namespace GitHub

namespace Client

variable {c : Client} {path : String} {form : Form} {size : Nat}

/-- Whether the addresses of some pages, from a given one on, name a host where they can
be sent to. -/
def Hosted (c : Client) (path : String) (form : Form) (page : Int) (count : Nat) : Prop :=
  ∀ i < count, ∀ u, c.service.address (c.root ++ path)
    (some (Json.insertMember "page" (.int (page + i)) form)) = .ok u → u.isAbsolute = true

theorem Hosted.next {page : Int} {count : Nat} (h : c.Hosted path form page (count + 1)) :
    c.Hosted path form (page + 1) count := by
  intro i hi u hu
  refine h (i + 1) (Nat.succ_lt_succ hi) u ?_
  rwa [show page + ((i + 1 : Nat) : Int) = page + 1 + i by omega]

/-- Nothing is asked at an address that cannot be sent to. -/
theorem eq_nil_of_address {fuel : Nat} {page : Int} {limit : Option Int} {l : List Step}
    {o : Except Failure (List Json)} {f : Failure}
    (hf : c.service.address (c.root ++ path) (some (Json.insertMember "page" (.int page) form)) =
      .error f)
    (h : Course (c.pagesFrom path form (.int size) limit (fuel + 1) page).attempt l o) :
    l = [] := by
  have hfetch : (c.fetch path (some (Json.insertMember "page" (.int page) form))).attempt =
      .done (.error f) := by
    unfold fetch get Service.get
    rw [hf]
    rfl
  rw [pagesFrom] at h
  split at h
  · rw [Action.attempt_bind, hfetch] at h
    exact (course_done_iff.mp h).1
  · exact (course_done_iff.mp h).1

/-- **A page that is missing ends the list**: what is on the full pages before it is the
list. -/
theorem course_of_missing {fuel : Nat} {page : Int} {l : List Step}
    {o : Except Failure (List Json)} (hhost : c.Hosted path form page fuel)
    (h : Course (c.pagesFrom path form (.int size) none fuel page).attempt l o)
    (hmissing : ∃ q r, .exchanged q r ∈ l ∧ IsMissing r) :
    ∃ (rs : List Reply) (last : Reply) (full : List (List Json)),
      l.filterMap Step.reply? = rs ++ [last] ∧ IsMissing last ∧
        List.Forall₂ (fun r items => pageIn size r = .ok (items, true)) rs full ∧
          o = .ok full.flatten := by
  induction fuel generalizing page l o with
  | zero =>
    obtain ⟨q, r, hr, -⟩ := hmissing
    obtain ⟨rfl, -⟩ := course_done_iff.mp h
    cases hr
  | succ fuel ih =>
    cases haddress : c.service.address (c.root ++ path)
        (some (Json.insertMember "page" (.int page) form)) with
    | error f =>
      obtain ⟨q, r, hr, -⟩ := hmissing
      rw [eq_nil_of_address haddress h] at hr
      cases hr
    | ok u =>
      have habs : u.isAbsolute = true := hhost 0 (Nat.succ_pos fuel) u (by simpa using haddress)
      obtain ⟨r, l', rfl, hafter⟩ := (course_pagesFrom_iff (by rfl) ⟨u, haddress, habs, rfl⟩).mp h
      have hend (hr : ¬ IsMissing r) : ∃ q r, .exchanged q r ∈ l' ∧ IsMissing r := by
        obtain ⟨q', r', hmem, hr'⟩ := hmissing
        rcases List.mem_cons.mp hmem with he | hmem
        · obtain ⟨rfl, rfl⟩ := Step.exchanged.inj he
          exact absurd hr' hr
        · exact ⟨q', r', hmem, hr'⟩
      by_cases hr : IsMissing r
      · rw [hr.pageIn] at hafter
        obtain ⟨rfl, rfl⟩ := course_done_iff.mp hafter
        exact ⟨[], r, [], rfl, hr, .nil, rfl⟩
      · obtain ⟨q', r', hmem, hr'⟩ := hend hr
        match hpage : pageIn size r with
        | .error f =>
          rw [hpage] at hafter
          obtain ⟨rfl, rfl⟩ := course_done_iff.mp hafter
          cases hmem
        | .ok (items, false) =>
          rw [hpage] at hafter
          obtain ⟨rfl, rfl⟩ := course_done_iff.mp hafter
          cases hmem
        | .ok (items, true) =>
          rw [hpage] at hafter
          obtain ⟨o', l₁, l₂, rfl, hnext, hdone⟩ := course_andThen_iff.mp hafter
          obtain ⟨rfl, rfl⟩ := course_done_iff.mp hdone
          rw [List.append_nil] at hmem ⊢
          obtain ⟨rs, last, full, hreplies, hlast, hfull, rfl⟩ := ih hhost.next hnext
            ⟨q', r', hmem, hr'⟩
          refine ⟨r :: rs, last, items :: full, ?_, hlast, .cons hpage hfull, rfl⟩
          rw [List.filterMap_cons]
          simp [Step.reply?, hreplies]

/-- **Where pages before it are full**, a page that is missing ends the list. -/
theorem Paged.course_missing {k : Nat} {q : Nat → Request} {l : List Step}
    {o : Except Failure (List Json)} {blocks : Nat → List Json}
    (hp : Paged c path form size k q) (hpatience : k < c.patience)
    (hfull : ∀ i < k, size ≤ (blocks i).length)
    (hl : Exchanges (fun q' r => (∀ i < k, q' = q i → Serves (.arr (blocks i)) r) ∧
      (q' = q k → IsMissing r)) l)
    (h : Course (c.pages path form none).attempt l o) :
    o = .ok ((List.range k).flatMap blocks) := by
  obtain ⟨rest, l₁, l₂, o', rfl, hlast, -, rfl⟩ := Paged.course_full blocks hp hpatience
    (Nat.le_refl k) (fun _ _ => rfl) (fun q' r hr i hi he => by
      rw [((hl q' r hr).1 i hi he).pageIn hp.pos, decide_eq_false (Nat.not_lt.mpr (hfull i hi))]
      rfl) h
  obtain ⟨-, rfl⟩ := course_of_short [] rfl (hp.reaches k (Nat.le_refl k))
    (fun q' r hr he => ((hl q' r (List.mem_append_right _ hr)).2 he).pageIn) hlast
  simp [Except.map]

end Client

namespace Analyzer

variable {a : Analyzer} {key owner name : String}

/-- Overhearing an action comes to what the action comes to. -/
theorem course_overheard {description : String} {x : Action α} {l : List Step}
    {e : Except Failure α} (h : Course (Action.overheard description x) l e) :
    ∃ l', Course x.attempt l' e ∧ ∀ y ∈ l', y ∈ l := by
  obtain ⟨e', l₁, l₂, rfl, hx, hnext⟩ := course_andThen_iff.mp h
  have he : e' = e := by
    cases e' with
    | ok v => exact (course_done_iff.mp hnext).2.symm
    | error f =>
      dsimp only at hnext
      split at hnext
      · obtain ⟨l', -, hdone⟩ := course_note_iff.mp hnext
        exact (course_done_iff.mp hdone).2.symm
      · exact (course_done_iff.mp hnext).2.symm
  subst he
  exact ⟨l₁, hx, fun y hy => List.mem_append_left _ hy⟩

/-- **Whether the open issues break off** after some full pages: the page after them is
missing whenever it is asked for. -/
structure BreaksOff (w : World σ) (c : Client) (owner name : String) (k : Nat)
    (blocks : Nat → List Json) (q : Nat → Request) : Prop
    extends Client.Paged c (issuesPath owner name) openForm 100 k q where
  /-- The pages before it are full. -/
  full : ∀ i < k, 100 ≤ (blocks i).length
  /-- They are answered. -/
  serves : ∀ i < k, ∀ s, Serves (.arr (blocks i)) (w.reply (q i) s).1
  /-- It is missing. -/
  missing : ∀ s, IsMissing (w.reply (q k) s).1

/-- What is heard about the issues are the dates before the missing page. -/
theorem BreaksOff.answer {w : World σ} {c : Client} {k : Nat} {blocks : Nat → List Json}
    {q : Nat → Request} (h : BreaksOff w c owner name k blocks q) (hpatience : k < c.patience)
    {description : String} {l : List Step} {e : Except Failure (Option (List Timestamp))}
    {p : Program β} {s : σ} (hl : ∀ y ∈ l, y ∈ w.log p s)
    (hc : Course (Action.overheard description (some <$> c.openIssueDates owner name)) l e) :
    e = (issueDates ((List.range k).flatMap blocks)).map some := by
  have hexchanges := World.exchanges_log (R := fun q' r =>
    (∀ i < k, q' = q i → Serves (.arr (blocks i)) r) ∧ (q' = q k → IsMissing r)) (w := w)
    (fun q' s' => ⟨fun i hi he => he ▸ h.serves i hi s', fun he => he ▸ h.missing s'⟩) p s
  obtain ⟨l', hfetch, hsub⟩ := course_overheard hc
  rw [Action.attempt_map] at hfetch
  obtain ⟨o, l₁, l₂, rfl, hdates, hdone⟩ := course_andThen_iff.mp hfetch
  rw [Client.attempt_openIssueDates] at hdates
  obtain ⟨pages, l₃, l₄, rfl, hpages, hread⟩ := course_andThen_iff.mp hdates
  have hitems := h.toPaged.course_missing hpatience h.full (fun q' r hr => hexchanges q' r
    (hl _ (hsub _ (List.mem_append_left _ (List.mem_append_left _ hr))))) hpages
  obtain ⟨-, rfl⟩ := course_done_iff.mp hread
  obtain ⟨-, rfl⟩ := course_done_iff.mp hdone
  rw [hitems]
  rfl

/-- Where there are dates, the clock is read for their age. -/
theorem exists_clock_of_dated {w : World σ} {p : Program β} {s : σ} {l : List Step} {heard : Heard}
    {ds : List Timestamp} (hdated : heard.answers.issueDates = .ok (some ds))
    (hl : ∀ y ∈ l, y ∈ w.log p s)
    (hc : Course (clockIf heard.answers.datesIssues) l heard.issuesAt) :
    ∃ t, heard.issuesAt = (w.clock t).1 := by
  have hneeded : heard.answers.datesIssues = true := by
    rw [Answers.datesIssues, hdated]
    rfl
  rw [hneeded] at hc
  obtain ⟨now, l', rfl, hnow⟩ := course_now_iff.mp hc
  obtain ⟨-, hat⟩ := course_done_iff.mp hnow
  rw [hat]
  exact World.exists_of_told (hl _ List.mem_cons_self)

/-- The age in what was heard, where there are dates. -/
theorem Heard.reading_issueAge_of_dates {heard : Heard} (repository : List (String × Json))
    {ds : List Timestamp} {age : Int} (hdated : heard.answers.issueDates = .ok (some ds))
    (hage : Metrics.issueAge ds heard.issuesAt = .ok age) :
    heard.reading repository .issueAge = some (.count age) := by
  show heard.age?.map Reading.count = _
  rw [age?, hdated]
  show (Metrics.issueAge ds heard.issuesAt).toOption.map Reading.count = _
  rw [hage]
  rfl

/-- There is none where there are no dates. -/
theorem Heard.reading_issueAge_of_error {heard : Heard} (repository : List (String × Json))
    {f : Failure} (hfailed : heard.answers.issueDates = .error f) :
    heard.reading repository .issueAge = none := by
  show heard.age?.map Reading.count = _
  rw [age?, hfailed]
  rfl

/-- **The age of the issues is made from the dates before the missing page.** -/
theorem BreaksOff.reading_issueAge {a : Analyzer} {i : Identity}
    {repository : List (String × Json)} {w : World σ} {s : σ} {k : Nat}
    {blocks : Nat → List Json} {q : Nat → Request} {r : Record}
    (h : BreaksOff w a.client owner name k blocks q) (hpatience : k < a.client.patience)
    (hkey : splitKey key = some (owner, name))
    (hknown : (w.run (a.client.repository owner name).attempt s).value =
      .ok (some (.obj repository)))
    (hr : (w.run (a.analyze i key).attempt s).value = .ok r) :
    (∀ ds, issueDates ((List.range k).flatMap blocks) = .ok ds → ∃ t age,
      Metrics.issueAge ds (w.clock t).1 = .ok age ∧ r.reading .issueAge = some (.count age)) ∧
    ∀ f, issueDates ((List.range k).flatMap blocks) = .error f → r.reading .issueAge = none := by
  rw [run_analyze i hkey hknown] at hr
  generalize (w.run (a.client.repository owner name).attempt s).state = s₁ at hr
  have hcourse := w.course_log (a.hearing key owner name repository) s₁
  generalize (w.run (a.hearing key owner name repository) s₁).value = heard at hr hcourse
  obtain ⟨log, issues, statistics, hparts, hissues, -, hl⟩ := course_hearing hcourse
  have hanswer : heard.answers.issueDates = (issueDates ((List.range k).flatMap blocks)).map some :=
    h.answer hpatience (fun y hy => hl.mem_iff.mpr ⟨log .issues,
      List.mem_append_left _ (List.mem_map_of_mem (Endpoint.mem_all .issues)), hy⟩) (hparts .issues)
  have hharmless := Heard.outcome_ok_iff.mp ⟨r, hr⟩
  obtain rfl := Heard.eq_of_outcome hr
  constructor
  · intro ds hds
    rw [hds] at hanswer
    obtain ⟨t, ht⟩ := exists_clock_of_dated hanswer (fun y hy => hl.mem_iff.mpr ⟨issues,
      List.mem_append_right _ List.mem_cons_self, hy⟩) hissues
    obtain ⟨age, hage⟩ := Metrics.exists_issueAge_ok_iff.mpr (hharmless.comparable ds hanswer)
    exact ⟨t, age, ht ▸ hage, Heard.reading_issueAge_of_dates repository hanswer hage⟩
  · intro f hf
    rw [hf] at hanswer
    exact Heard.reading_issueAge_of_error repository hanswer

/-- A missing first page is an age of zero. -/
theorem BreaksOff.reading_issueAge_zero {a : Analyzer} {i : Identity}
    {repository : List (String × Json)} {w : World σ} {s : σ} {blocks : Nat → List Json}
    {q : Nat → Request} {r : Record} (h : BreaksOff w a.client owner name 0 blocks q)
    (hpatience : 0 < a.client.patience) (hkey : splitKey key = some (owner, name))
    (hknown : (w.run (a.client.repository owner name).attempt s).value =
      .ok (some (.obj repository)))
    (hr : (w.run (a.analyze i key).attempt s).value = .ok r) :
    r.reading .issueAge = some (.count 0) := by
  obtain ⟨t, age, hage, hreading⟩ := (h.reading_issueAge hpatience hkey hknown hr).1 [] rfl
  rw [Metrics.issueAge_nil] at hage
  rw [hreading, Except.ok.inj hage]

/-- The dates of the open issues, where one of the pages that were asked for is missing. -/
theorem openIssueDates_of_missing {c : Client} {w : World σ} {s : σ}
    (hhost : c.Hosted (issuesPath owner name) (Json.insertMember "per_page" (.int 100) openForm) 1
      c.patience)
    (hmissing : ∃ q r, .exchanged q r ∈ w.log (c.openIssueDates owner name).attempt s ∧
      IsMissing r) :
    ∃ (rs : List Reply) (last : Reply) (full : List (List Json)),
      (w.log (c.openIssueDates owner name).attempt s).filterMap Step.reply? = rs ++ [last] ∧
        IsMissing last ∧ List.Forall₂ (fun r items => pageIn 100 r = .ok (items, true)) rs full ∧
          (w.run (c.openIssueDates owner name).attempt s).value = issueDates full.flatten := by
  have hcourse := w.course_log (c.openIssueDates owner name).attempt s
  rw [Client.attempt_openIssueDates] at hcourse hmissing ⊢
  generalize w.log _ s = l at hcourse hmissing ⊢
  obtain ⟨o, l₁, l₂, rfl, hpages, hdone⟩ := course_andThen_iff.mp hcourse
  obtain ⟨rfl, hvalue⟩ := course_done_iff.mp hdone
  rw [List.append_nil] at hmissing ⊢
  obtain ⟨rs, last, full, hreplies, hlast, hfull, rfl⟩ :=
    Client.course_of_missing hhost hpages hmissing
  exact ⟨rs, last, full, hreplies, hlast, hfull, hvalue⟩

/-- **A list of issues that breaks off becomes a number.** Where one of the pages of open
issues that are asked for is missing, it is the last one that is, and the dates that
are found are those on the full pages before it. In the analysis of a repository that
GitHub knows, the age of the issues is the mean age of these, and zero where the first
page is the missing one; it is left open only if one of the dates cannot be read. -/
theorem issueAge_of_missing (a : Analyzer) (i : Identity) (key owner name : String) (w : World σ)
    (s : σ) :
    (a.client.Hosted (issuesPath owner name) (Json.insertMember "per_page" (.int 100) openForm) 1
        a.client.patience →
      (∃ q r, .exchanged q r ∈ w.log (a.client.openIssueDates owner name).attempt s ∧
        IsMissing r) →
      ∃ (rs : List Reply) (last : Reply) (full : List (List Json)),
        (w.log (a.client.openIssueDates owner name).attempt s).filterMap Step.reply? =
            rs ++ [last] ∧ IsMissing last ∧
          List.Forall₂ (fun r items => pageIn 100 r = .ok (items, true)) rs full ∧
            (w.run (a.client.openIssueDates owner name).attempt s).value =
              issueDates full.flatten) ∧
    ∀ (k : Nat) (blocks : Nat → List Json) (q : Nat → Request) (repository : List (String × Json))
        (r : Record), BreaksOff w a.client owner name k blocks q → k < a.client.patience →
      splitKey key = some (owner, name) →
      (w.run (a.client.repository owner name).attempt s).value = .ok (some (.obj repository)) →
      (w.run (a.analyze i key).attempt s).value = .ok r →
        (∀ ds, issueDates ((List.range k).flatMap blocks) = .ok ds → ∃ t age,
          Metrics.issueAge ds (w.clock t).1 = .ok age ∧ r.reading .issueAge = some (.count age)) ∧
        (∀ f, issueDates ((List.range k).flatMap blocks) = .error f →
          r.reading .issueAge = none) ∧
        (k = 0 → r.reading .issueAge = some (.count 0)) := by
  refine ⟨fun hhost hmissing => openIssueDates_of_missing hhost hmissing,
    fun k blocks q repository r h hpatience hkey hknown hr => ?_⟩
  obtain ⟨hread, hunread⟩ := h.reading_issueAge hpatience hkey hknown hr
  refine ⟨hread, hunread, ?_⟩
  rintro rfl
  exact h.reading_issueAge_zero hpatience hkey hknown hr

/-- An issue of the first of January. -/
def datedIssue : Json := .obj [("created_at", .str "2024-01-01T00:00:00Z")]

/-- A pull request. -/
def pullRequest : Json := .obj [("pull_request", .int 1)]

/-- A full page of the issues: the issue, and pull requests. -/
def fullPage : List Json := datedIssue :: List.replicate 99 pullRequest

/-- What is written on it. -/
def fullText : List Char :=
  '[' :: ("\x7b\"created_at\": \"2024-01-01T00:00:00Z\"\x7d".toList ++
    ((List.replicate 99 ", \x7b\"pull_request\": 1\x7d".toList).flatten ++ [']']))

theorem toList_writeItems_replicate (l : Json.Layout) (d n : Nat) (j : Json) :
    (Json.writeItems l d (List.replicate n j)).toList =
      (List.replicate n ((l.between d).toList ++ (j.write l (d + 1)).toList)).flatten ++
        (l.closing d).toList := by
  induction n with
  | zero => rfl
  | succ n ih => simp [List.replicate_succ, Json.writeItems, ih]

/-- What is written of a list in which all items but the first are the same. -/
theorem toList_write_arr_replicate (n : Nat) {j j' : Json} {s t : List Char}
    (hj : (j.write .line 1).toList = s) (hj' : (", " ++ j'.write .line 1).toList = t) :
    ((Json.arr (j :: List.replicate n j')).write .line 0).toList =
      '[' :: (s ++ ((List.replicate n t).flatten ++ [']'])) := by
  subst hj hj'
  simp [Json.write, toList_writeItems_replicate, Json.Layout.line]

theorem serves_fullPage : Serves (.arr fullPage) (.ok ⟨200, [], Text.bytes fullText⟩) := by
  have htext : ((Json.arr fullPage).write .line 0).toList = fullText :=
    toList_write_arr_replicate 99 (by decide +kernel) (by decide +kernel)
  have hcanonical : ∀ j ∈ fullPage, j.IsCanonical := by
    refine List.forall_mem_cons.mpr ⟨by simp [datedIssue, Json.IsCanonical, Json.HaveCanonical],
      fun j hj => ?_⟩
    rw [List.eq_of_mem_replicate hj]
    simp [pullRequest, Json.IsCanonical, Json.HaveCanonical]
  refine ⟨_, rfl, rfl, Json.json_of_written Json.Layout.isBlank_line
    (Json.areCanonical_iff.mpr hcanonical) (by decide +kernel) (by decide +kernel) ?_⟩
  rw [htext]
  exact Text.decode_bytes (by decide +kernel)

/-- An empty repository on the eleventh of January, with what is there as its first page of
issues. -/
def january (first : Option (List Char)) : World Unit where
  reply q s :=
    if q.url = "http://h/repos/o/n/issues?state=open&per_page=100&page=1" then
      (.ok (first.elim ⟨404, [], []⟩ fun text => ⟨200, [], Text.bytes text⟩), s)
    else (shelf [("http://h/repos/o/n", "\x7b\x7d")]).reply q s
  clock s := (⟨⟨2024, 1, 11⟩, 0, 0, 0, 0, some 0⟩, s)
  turn s := (true, s)

/-- The requests for the first two pages of the issues. -/
def issuesPage (i : Nat) : Request :=
  ⟨if i = 0 then "http://h/repos/o/n/issues?state=open&per_page=100&page=1"
    else "http://h/repos/o/n/issues?state=open&per_page=100&page=2", once.client.headers⟩

theorem breaksOff_first :
    BreaksOff (january none) once.client "o" "n" 0 (fun _ => fullPage) issuesPage where
  pos := by decide
  sized := rfl
  reaches i hi := by
    obtain rfl : i = 0 := Nat.le_zero.mp hi
    exact ⟨_, rfl, rfl, rfl⟩
  full i hi := absurd hi (Nat.not_lt_zero i)
  serves i hi := absurd hi (Nat.not_lt_zero i)
  missing s := ⟨_, rfl, rfl⟩

theorem breaksOff_second :
    BreaksOff (january (some fullText)) once.client "o" "n" 1 (fun _ => fullPage) issuesPage where
  pos := by decide
  sized := rfl
  reaches i hi := by
    match i with
    | 0 => exact ⟨_, rfl, rfl, rfl⟩
    | 1 => exact ⟨_, rfl, rfl, rfl⟩
  full i hi := by decide
  serves i hi s := by
    obtain rfl : i = 0 := Nat.lt_one_iff.mp hi
    exact serves_fullPage
  missing s := ⟨_, rfl, rfl⟩

theorem hosted_once : once.client.Hosted (issuesPath "o" "n")
    (Json.insertMember "per_page" (.int 100) openForm) 1 once.client.patience := by
  intro i hi u hu
  match i with
  | 0 => exact Except.ok.inj hu ▸ rfl
  | 1 => exact Except.ok.inj hu ▸ rfl
  | 2 => exact Except.ok.inj hu ▸ rfl
  | 3 => exact Except.ok.inj hu ▸ rfl
  | 4 => exact Except.ok.inj hu ▸ rfl

/-- Where the first page is missing the age is zero, and where the second one is it is the
age of the one issue on the first. -/
theorem issueAge_of_missing_pages :
    (((january none).run (once.client.openIssueDates "o" "n").attempt ()).value = .ok [] ∧
      ∃ r, ((january none).run (once.analyze default "github.com/o/n").attempt ()).value =
        .ok r ∧ r.reading .issueAge = some (.count 0)) ∧
    ((january (some fullText)).run (once.client.openIssueDates "o" "n").attempt ()).value =
        .ok [⟨⟨2024, 1, 1⟩, 0, 0, 0, 0, some 0⟩] ∧
      ∃ r, ((january (some fullText)).run
          (once.analyze default "github.com/o/n").attempt ()).value = .ok r ∧
        r.reading .issueAge = some (.count 10) := by
  -- What is read where the replies are known.
  have hdates {first : Option (List Char)} {rs : List Reply} {full : List (List Json)}
      (hlog : ((january first).log (once.client.openIssueDates "o" "n").attempt ()).filterMap
        Step.reply? = rs ++ [.ok ⟨404, [], []⟩])
      (hfull : List.Forall₂ (fun r items => pageIn 100 r = .ok (items, true)) rs full) :
      ((january first).run (once.client.openIssueDates "o" "n").attempt ()).value =
        issueDates full.flatten := by
    obtain ⟨q, hq⟩ := Step.exists_of_reply? (hlog ▸ List.mem_append_right rs List.mem_cons_self)
    obtain ⟨rs', last, full', hreplies, -, hfull', hvalue⟩ :=
      (issueAge_of_missing once default "github.com/o/n" "o" "n" (january first) ()).1
        hosted_once ⟨q, _, hq, _, rfl, rfl⟩
    obtain ⟨rfl, -⟩ := List.append_inj' (hlog.symm.trans hreplies) rfl
    obtain rfl : full = full' := List.right_unique_forall₂'
      (fun _ _ _ h h' => congrArg Prod.fst (Except.ok.inj (h.symm.trans h'))) hfull hfull'
    exact hvalue
  have hpage : pageIn 100 (.ok ⟨200, [], Text.bytes fullText⟩) = .ok (fullPage, true) :=
    serves_fullPage.pageIn (by decide)
  have hissue : issueDates fullPage = .ok [⟨⟨2024, 1, 1⟩, 0, 0, 0, 0, some 0⟩] := by
    decide +kernel
  have hfirst : ((january none).run (once.analyze default "github.com/o/n").attempt
      ()).value.toOption.isSome = true := by
    decide +kernel
  have hsecond : ((january (some fullText)).run (once.analyze default "github.com/o/n").attempt
      ()).value.toOption.isSome = true := by
    decide +kernel
  obtain ⟨r, hr⟩ := isSome_toOption_iff.mp hfirst
  obtain ⟨r', hr'⟩ := isSome_toOption_iff.mp hsecond
  refine ⟨⟨@hdates none [] [] (by decide +kernel) .nil, r, hr, ?_⟩,
    (hdates (by decide +kernel) (.cons hpage .nil)).trans hissue, r', hr', ?_⟩
  · exact ((issueAge_of_missing once default "github.com/o/n" "o" "n" (january none) ()).2
      0 _ _ [] r breaksOff_first (by decide) (by decide) rfl hr).2.2 rfl
  · obtain ⟨t, age, hage, hreading⟩ :=
      ((issueAge_of_missing once default "github.com/o/n" "o" "n" (january (some fullText)) ()).2
        1 _ _ [] r' breaksOff_second (by decide) (by decide) rfl hr').1 _ hissue
    have hten : Metrics.issueAge [⟨⟨2024, 1, 1⟩, 0, 0, 0, 0, some 0⟩]
        ⟨⟨2024, 1, 11⟩, 0, 0, 0, 0, some 0⟩ = .ok 10 := by
      decide +kernel
    rw [hreading, Except.ok.inj (hage.symm.trans hten)]

end Analyzer

end GitHub

end PackageVitals
