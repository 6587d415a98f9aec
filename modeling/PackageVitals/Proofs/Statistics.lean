import PackageVitals.Proofs.Kinds
import PackageVitals.Proofs.Paging
import PackageVitals.Proofs.Sending

/-!
# What the answer to the request for statistics says

An answer about the contributors is one of three: they are listed, they are still being
counted, or there is none. Which one it is hangs on the status and, where this is one of
plain success, on the document, for which there is a grammar (`Roster`): nothing, or
a list in which **every** entry is a contributor. The reader walks the entries one by one and
gives up at the first that is none, so that the contributors that it finds are those
of the grammar, as many and in the same order (`contributors_eq_ok_iff`).

Whatever else it meets is an answer as well, that there are no statistics. The one
exception is a text with lists or objects in so many others that it is not read to
its end (`Client.statistics_says`).
-/

namespace PackageVitals

/-- A walk comes to the results of the items, one for each and in their order. -/
theorem mapM_eq_ok_iff {k : α → Except Failure β} {xs : List α} {ys : List β} :
    xs.mapM k = .ok ys ↔ List.Forall₂ (fun x y => k x = .ok y) xs ys := by
  induction xs generalizing ys with
  | nil => simp [pure, Except.pure, eq_comm]
  | cons x xs ih =>
    rw [List.mapM_cons, bind_eq_ok_iff, List.forall₂_cons_left_iff]
    simp only [bind_eq_ok_iff, ih]
    constructor
    · rintro ⟨b, hb, bs, hbs, ⟨⟩⟩
      exact ⟨b, bs, hb, hbs, rfl⟩
    · rintro ⟨b, bs, hb, hbs, rfl⟩
      exact ⟨b, hb, bs, hbs, rfl⟩

/-! ## Texts that are too deep -/

namespace Json

/-- **A text that opens more lists than can be open is too deep**, whatever follows. -/
theorem readValue_of_open {depth fuel : Nat} (h : 2 * depth < fuel) (rest : List Char) :
    readValue depth fuel (List.replicate (depth + 1) '[' ++ rest) = .error .tooDeep := by
  induction depth generalizing fuel with
  | zero =>
    obtain ⟨fuel, rfl⟩ := Nat.exists_eq_add_one_of_ne_zero (Nat.ne_of_gt h)
    rfl
  | succ depth ih =>
    -- Every list takes two steps, one for itself and one for its items.
    obtain ⟨fuel, rfl⟩ : ∃ n, fuel = n + 2 := ⟨fuel - 2, by omega⟩
    have hfirst := ih (show 2 * depth < fuel by omega)
    have hitems : readItems depth (fuel + 1) (List.replicate (depth + 1) '[' ++ rest) =
        .error .tooDeep := by
      unfold readItems
      rw [hfirst]
    show (readItems depth (fuel + 1) (List.replicate (depth + 1) '[' ++ rest)).map _ = _
    rw [hitems]
    rfl

theorem ofChars_of_open (rest : List Char) :
    ofChars (List.replicate (depthLimit + 1) '[' ++ rest) = .error .tooDeep := by
  have hgap : skipGap (List.replicate (depthLimit + 1) '[' ++ rest) =
      List.replicate (depthLimit + 1) '[' ++ rest := rfl
  unfold ofChars
  rw [hgap, readValue_of_open]
  rw [List.length_append, List.length_replicate]
  omega

end Json

namespace GitHub

/-! ## The grammar of a list of contributors -/

/-- **The login that an author goes by**: none for an author who does not count as anything,
and none for one whose login is absent or null. -/
inductive GoesBy : Json → Option String → Prop
  | nobody {author : Json} : author.isTruthy = false → GoesBy author none
  | absent {ms : List (String × Json)} : Json.lookup "login" ms = none → GoesBy (.obj ms) none
  | null {ms : List (String × Json)} : Json.lookup "login" ms = some .null →
      GoesBy (.obj ms) none
  | login {ms : List (String × Json)} {login : String} :
      Json.lookup "login" ms = some (.str login) → GoesBy (.obj ms) (some login)

/-- **The commits that an entry counts**: none where it says nothing about them. -/
inductive Counts (ms : List (String × Json)) : Int → Prop
  | absent : Json.lookup "total" ms = none → Counts ms 0
  | total {j : Json} {n : Int} : Json.lookup "total" ms = some j → j.asCount = .ok n →
      Counts ms n

/-- **Whether an entry is a contributor**: an object with an author and a count. -/
inductive IsEntry : Json → Contributor → Prop
  | obj {ms : List (String × Json)} {author : Option String} {total : Int} :
      GoesBy ((Json.lookup "author" ms).getD .null) author → Counts ms total →
        IsEntry (.obj ms) ⟨author, total⟩

/-- **Whether a document lists contributors**: nothing lists none, and a list as many as
it has entries. -/
inductive Roster : Json → List Contributor → Prop
  | nothing {j : Json} : j.isTruthy = false → Roster j []
  | entries {items : List Json} {cs : List Contributor} : List.Forall₂ IsEntry items cs →
      Roster (.arr items) cs

/-- A list of entries lists as many contributors, in their order. -/
theorem roster_arr_iff {items : List Json} {cs : List Contributor} :
    Roster (.arr items) cs ↔ List.Forall₂ IsEntry items cs := by
  refine ⟨fun h => ?_, .entries⟩
  cases h with
  | nothing h =>
    obtain rfl : items = [] := by simpa [Json.isTruthy] using h
    exact .nil
  | entries h => exact h

/-! ## The reader of an entry -/

/-- The member of an author that has the login; nobody has none. -/
def loginMember (author : Json) : Except Failure Json :=
  ((author.truthy?).getD (.obj [])).member "login"

/-- The login in that member. -/
def loginField (login : Json) : Field (Option String) :=
  match login.known? with
  | none => .ok none
  | some j => (Field.single "author" j.asText).map some

/-- The contributor with a login and a total, unless one of them is refused. -/
def contributorOf (login total : Json) : Except Failure Contributor :=
  match Field.both (loginField login) (Field.single "total" total.asCount) with
  | .ok (author, total) => .ok { author, total }
  | .error issues => .error (.invalid issues)

/-- An entry is read member by member. -/
theorem contributor_obj (ms : List (String × Json)) :
    contributor (.obj ms) = loginMember ((Json.lookup "author" ms).getD .null) >>= fun login =>
      contributorOf login ((Json.lookup "total" ms).getD (.int 0)) :=
  rfl

/-- A login is null or a text. -/
theorem loginField_eq_ok_iff {login : Json} {author : Option String} :
    loginField login = .ok author ↔
      login = .null ∧ author = none ∨ ∃ s, login = .str s ∧ author = some s := by
  cases login with
  | null => simp [loginField, Json.known?, eq_comm]
  | str s =>
    show Except.ok (some s) = Except.ok author ↔ _
    simp [eq_comm]
  | _ =>
    show Except.error _ = Except.ok author ↔ _
    simp

theorem loginMember_of_nobody {author : Json} (h : author.isTruthy = false) :
    loginMember author = .ok .null := by
  unfold loginMember Json.truthy?
  rw [h]
  rfl

theorem loginMember_obj (ms : List (String × Json)) :
    loginMember (.obj ms) = .ok ((Json.lookup "login" ms).getD .null) := by
  cases ms <;> rfl

/-- Only an object that counts as something can be asked for a login. -/
theorem exists_obj_of_loginMember {author j : Json} (h : loginMember author = .ok j)
    (htruthy : author.isTruthy = true) : ∃ ms, author = .obj ms := by
  unfold loginMember Json.truthy? at h
  rw [htruthy] at h
  cases author with
  | obj ms => exact ⟨ms, rfl⟩
  | _ => cases h

/-- **The login that is read is the one the author goes by.** -/
theorem goesBy_iff {author : Json} {login : Option String} :
    GoesBy author login ↔ ∃ j, loginMember author = .ok j ∧ loginField j = .ok login := by
  simp only [loginField_eq_ok_iff]
  constructor
  · intro h
    cases h with
    | nobody h => exact ⟨_, loginMember_of_nobody h, .inl ⟨rfl, rfl⟩⟩
    | absent h => exact ⟨_, loginMember_obj _, .inl ⟨by rw [h]; rfl, rfl⟩⟩
    | null h => exact ⟨_, loginMember_obj _, .inl ⟨by rw [h]; rfl, rfl⟩⟩
    | login h => exact ⟨_, loginMember_obj _, .inr ⟨_, by rw [h]; rfl, rfl⟩⟩
  · rintro ⟨j, hj, hlogin⟩
    cases htruthy : author.isTruthy with
    | false =>
      obtain rfl := Except.ok.inj ((loginMember_of_nobody htruthy).symm.trans hj)
      rcases hlogin with ⟨-, rfl⟩ | ⟨_, ⟨⟩, -⟩
      exact .nobody htruthy
    | true =>
      obtain ⟨ms, rfl⟩ := exists_obj_of_loginMember hj htruthy
      obtain rfl := Except.ok.inj ((loginMember_obj ms).symm.trans hj)
      rcases hlogin with ⟨hnull, rfl⟩ | ⟨s, htext, rfl⟩
      · rcases Option.getD_eq_iff.mp hnull with h | ⟨h, -⟩
        · exact .null h
        · exact .absent h
      · rcases Option.getD_eq_iff.mp htext with h | ⟨-, ⟨⟩⟩
        exact .login h

theorem counts_iff {ms : List (String × Json)} {n : Int} :
    Counts ms n ↔ ((Json.lookup "total" ms).getD (.int 0)).asCount = .ok n := by
  constructor
  · rintro (h | ⟨h, hn⟩)
    · rw [h]
      rfl
    · rw [h]
      exact hn
  · intro hn
    cases h : Json.lookup "total" ms with
    | none =>
      rw [h] at hn
      exact Except.ok.inj hn ▸ .absent h
    | some j =>
      rw [h] at hn
      exact .total h hn

theorem contributorOf_eq_ok_iff {login total : Json} {c : Contributor} :
    contributorOf login total = .ok c ↔
      loginField login = .ok c.author ∧ total.asCount = .ok c.total := by
  have hfields : contributorOf login total = .ok c ↔
      Field.both (loginField login) (Field.single "total" total.asCount) =
        .ok (c.author, c.total) := by
    unfold contributorOf
    cases Field.both (loginField login) (Field.single "total" total.asCount) with
    | error issues => simp
    | ok p =>
      obtain ⟨author, total⟩ := c
      simp [Prod.ext_iff]
  rw [hfields, Field.both_eq_ok_iff]
  exact and_congr_right fun _ => mapError_eq_ok_iff

/-- **An entry is read if and only if it is a contributor.** -/
theorem contributor_eq_ok_iff {entry : Json} {c : Contributor} :
    contributor entry = .ok c ↔ IsEntry entry c := by
  cases entry with
  | obj ms =>
    rw [contributor_obj]
    simp only [bind_eq_ok_iff, contributorOf_eq_ok_iff, ← counts_iff]
    constructor
    · rintro ⟨login, hmember, hlogin, htotal⟩
      exact .obj (goesBy_iff.mpr ⟨login, hmember, hlogin⟩) htotal
    · rintro ⟨hauthor, htotal⟩
      obtain ⟨login, hmember, hlogin⟩ := goesBy_iff.mp hauthor
      exact ⟨login, hmember, hlogin, htotal⟩
  | _ =>
    show Except.error _ = Except.ok c ↔ _
    exact ⟨nofun, nofun⟩

/-! ## The reader of a document -/

theorem contributors_of_nothing {j : Json} (h : j.isTruthy = false) : contributors j = .ok [] := by
  unfold contributors Json.truthy?
  rw [h]
  rfl

theorem contributors_arr (items : List Json) :
    contributors (.arr items) = items.mapM contributor := by
  cases items <;> rfl

/-- A walk along a text, or along the names of an object, meets no object. -/
theorem mapM_contributor_texts {texts : List String} (h : texts ≠ []) :
    (texts.map Json.str).mapM contributor = .error .unsupported := by
  cases texts with
  | nil => contradiction
  | cons s texts => rfl

/-- A document that is something and no list has a walk without contributors, or none. -/
theorem contributors_of_no_list {j : Json} (htruthy : j.isTruthy = true)
    (hlist : ∀ items, j ≠ .arr items) :
    contributors j = .error .unsupported ∨ contributors j = .error .wrongShape := by
  have hwalk : contributors j = j.elements >>= (·.mapM contributor) := by
    unfold contributors Json.truthy?
    rw [htruthy]
    rfl
  rw [hwalk]
  cases j with
  | arr items => exact absurd rfl (hlist items)
  | str s =>
    left
    have hne : s.toList.map String.singleton ≠ [] := by
      simpa [Json.isTruthy, String.isEmpty_iff] using htruthy
    have hchars := mapM_contributor_texts hne
    rwa [List.map_map] at hchars
  | obj ms =>
    left
    have hne : ms.map (·.1) ≠ [] := by
      simpa [Json.isTruthy, List.isEmpty_iff] using htruthy
    have hnames := mapM_contributor_texts hne
    rwa [List.map_map] at hnames
  | _ => exact .inr rfl

/-- **A document is read if and only if it lists contributors**, and those are read. -/
theorem contributors_eq_ok_iff {j : Json} {cs : List Contributor} :
    contributors j = .ok cs ↔ Roster j cs := by
  constructor
  · intro h
    cases htruthy : j.isTruthy with
    | false =>
      obtain rfl := Except.ok.inj ((contributors_of_nothing htruthy).symm.trans h)
      exact .nothing htruthy
    | true =>
      by_cases hlist : ∃ items, j = .arr items
      · obtain ⟨items, rfl⟩ := hlist
        rw [contributors_arr, mapM_eq_ok_iff] at h
        exact .entries (h.imp fun _ _ => contributor_eq_ok_iff.mp)
      · have hnone := contributors_of_no_list htruthy fun items hj => hlist ⟨items, hj⟩
        rw [h] at hnone
        rcases hnone with hnone | hnone <;> cases hnone
  · rintro (h | h)
    · exact contributors_of_nothing h
    · rw [contributors_arr, mapM_eq_ok_iff]
      exact h.imp fun _ _ => contributor_eq_ok_iff.mpr

/-- Whether a failure is that a document is not what it should be, of the sort that makes an
answer. -/
def isUnexpected (f : Failure) : Bool :=
  f.isValue || f == .unsupported || f == .wrongShape

theorem failsOnly_contributorOf (login total : Json) :
    FailsOnly (fun f => isUnexpected f = true) (contributorOf login total) := by
  unfold contributorOf
  split
  · exact .ok _
  · exact FailsOnly.error_iff.mpr rfl

theorem failsOnly_contributor (entry : Json) :
    FailsOnly (fun f => isUnexpected f = true) (contributor entry) := by
  cases entry with
  | obj ms =>
    rw [contributor_obj]
    refine .bind ?_ fun login => failsOnly_contributorOf login _
    unfold loginMember Json.member
    split
    · exact .ok _
    · exact FailsOnly.error_iff.mpr rfl
  | _ => exact FailsOnly.error_iff.mpr rfl

/-- **What is no list of contributors is unexpected**, and nothing worse. -/
theorem failsOnly_contributors (j : Json) :
    FailsOnly (fun f => isUnexpected f = true) (contributors j) := by
  refine .bind ?_ fun entries => failsOnly_mapM failsOnly_contributor entries
  unfold Json.elements
  split
  · exact .ok _
  · exact .ok _
  · exact .ok _
  · exact FailsOnly.error_iff.mpr rfl

/-! ## The answer in a response -/

namespace Client

/-- The contributors in the body of a response. -/
def rosterIn (r : Response) : Except Failure (List Contributor) :=
  r.json >>= contributors

theorem rosterIn_eq_ok_iff {r : Response} {cs : List Contributor} :
    rosterIn r = .ok cs ↔ ∃ j, r.json = .ok j ∧ Roster j cs := by
  simp only [rosterIn, bind_eq_ok_iff, contributors_eq_ok_iff]

/-- A body is unexpected, or too deep to be read. -/
theorem rosterIn_error {r : Response} {f : Failure} (h : rosterIn r = .error f) :
    isUnexpected f = true ∨ f = .tooDeep ∧ r.json = .error .tooDeep := by
  unfold rosterIn at h
  cases hj : r.json with
  | error g =>
    rw [hj] at h
    obtain rfl : g = f := Except.error.inj h
    have htext := r.readsText_json g hj
    cases g with
    | tooDeep => exact .inr ⟨rfl, rfl⟩
    | undecodable => exact .inl rfl
    | malformedJson => exact .inl rfl
    | badValue => exact .inl rfl
    | _ => cases htext
  | ok j =>
    rw [hj] at h
    exact .inl (failsOnly_contributors j f h)

/-- **What a response of plain success says** is what its body is. -/
theorem statisticsIn_of_success {r : Response} (h : r.status = 200) :
    statisticsIn r = match rosterIn r with
      | .ok cs => .ok (.ready cs)
      | .error f => if isUnexpected f then .ok (.failed (.unexpected f)) else .error f := by
  unfold statisticsIn
  rw [if_neg (by omega), if_neg (by omega), if_neg (not_not_intro h)]
  rfl

/-- What any other response says is what its status is. -/
theorem statisticsIn_of_status {r : Response} (h : r.status ≠ 200) :
    statisticsIn r = .ok (if r.status = 202 then .notReady
      else if r.status = 204 then .ready [] else .failed (.status r.status)) := by
  unfold statisticsIn
  split
  · rfl
  · split
    · rfl
    · rfl

theorem statisticsIn_eq_notReady_iff {r : Response} :
    statisticsIn r = .ok .notReady ↔ r.status = 202 := by
  by_cases h200 : r.status = 200
  · rw [statisticsIn_of_success h200]
    refine iff_of_false ?_ (by omega)
    split
    · simp
    · split <;> simp
  · rw [statisticsIn_of_status h200]
    split
    · simpa
    · split <;> simpa

theorem statisticsIn_eq_ready_iff {r : Response} {cs : List Contributor} :
    statisticsIn r = .ok (.ready cs) ↔
      r.status = 204 ∧ cs = [] ∨ r.status = 200 ∧ ∃ j, r.json = .ok j ∧ Roster j cs := by
  rw [← rosterIn_eq_ok_iff]
  by_cases h200 : r.status = 200
  · rw [statisticsIn_of_success h200]
    cases rosterIn r with
    | ok cs' => simp [h200]
    | error f =>
      dsimp only
      split <;> simp [h200]
  · rw [statisticsIn_of_status h200]
    split
    · simp [*]
    · split
      · simp [*, eq_comm]
      · simp [*]

/-- **Nothing else is left open** than a text that is too deep. -/
theorem statisticsIn_eq_error_iff {r : Response} {f : Failure} :
    statisticsIn r = .error f ↔ f = .tooDeep ∧ r.status = 200 ∧ r.json = .error .tooDeep := by
  by_cases h200 : r.status = 200
  · rw [statisticsIn_of_success h200]
    cases hroster : rosterIn r with
    | ok cs =>
      refine iff_of_false (by simp) fun ⟨_, _, hdeep⟩ => ?_
      rw [rosterIn, hdeep] at hroster
      cases hroster
    | error g =>
      dsimp only
      split
      · next hg =>
        refine iff_of_false (by simp) fun ⟨_, _, hdeep⟩ => ?_
        rw [rosterIn, hdeep] at hroster
        obtain rfl : Failure.tooDeep = g := Except.error.inj hroster
        cases hg
      · next hg =>
        obtain ⟨rfl, hdeep⟩ := (rosterIn_error hroster).resolve_left hg
        simp [h200, hdeep, eq_comm]
  · rw [statisticsIn_of_status h200]
    simp [h200]

/-! ## The answer to the request -/

/-- The path of the statistics of the contributors. -/
abbrev statisticsPath (owner name : String) : String :=
  repositoryPath owner name ++ "/stats/contributors"

/-- What a reply says: a response what is in it, and no response that there are no
statistics. -/
def statisticsBy (r : Reply) : Except Failure StatisticsAnswer :=
  match r with
  | .ok r => statisticsIn r
  | .error (.transport _ message) => .ok (.failed (.unanswered message))
  | .error f => .error f

/-- **Asking for the statistics** is one request. -/
theorem attempt_statistics {c : Client} {owner name : String} {q : Request}
    (h : c.Reaches (statisticsPath owner name) none q) :
    (c.statistics owner name).attempt = .send q fun r => .done (statisticsBy r) := by
  unfold statistics
  rw [Action.attempt_ofAttempt, attempt_get h]
  show Program.send _ _ = _
  congr 1
  funext r
  rcases r with f | r
  · cases f <;> rfl
  · rfl

/-- There are no statistics where nothing else is said. -/
theorem exists_failed_iff {r : Response} :
    (∃ p, statisticsIn r = .ok (.failed p)) ↔ r.status ≠ 202 ∧ r.status ≠ 204 ∧
      (r.status = 200 → r.json ≠ .error .tooDeep ∧ ∀ j cs, r.json = .ok j → ¬ Roster j cs) := by
  constructor
  · rintro ⟨p, hp⟩
    refine ⟨fun h202 => ?_, fun h204 => ?_,
      fun h200 => ⟨fun hdeep => ?_, fun j cs hj hroster => ?_⟩⟩
    · exact nomatch hp.symm.trans (statisticsIn_eq_notReady_iff.mpr h202)
    · exact nomatch hp.symm.trans (statisticsIn_eq_ready_iff.mpr (.inl ⟨h204, rfl⟩))
    · exact nomatch hp.symm.trans (statisticsIn_eq_error_iff.mpr ⟨rfl, h200, hdeep⟩)
    · exact nomatch hp.symm.trans (statisticsIn_eq_ready_iff.mpr (.inr ⟨h200, j, hj, hroster⟩))
  · rintro ⟨h202, h204, hbody⟩
    match hanswer : statisticsIn r with
    | .ok (.failed p) => exact ⟨p, rfl⟩
    | .ok .notReady => exact absurd (statisticsIn_eq_notReady_iff.mp hanswer) h202
    | .ok (.ready cs) =>
      rcases statisticsIn_eq_ready_iff.mp hanswer with ⟨h, -⟩ | ⟨h200, j, hj, hroster⟩
      · exact absurd h h204
      · exact absurd hroster ((hbody h200).2 j cs hj)
    | .error f =>
      obtain ⟨-, h200, hdeep⟩ := statisticsIn_eq_error_iff.mp hanswer
      exact absurd hdeep (hbody h200).1

/-- **What is said about the contributors** is said by the status and the document alone,
after one request. They are being counted if and only if the status is 202. They are
listed if and only if it is 204, or 200 with a document that lists them: nothing, or a
list in which every entry is one, and then as many are found as there are entries, in
their order. Where there is no response there are no statistics, and none where there
is any other, with one exception: a document that is too deep to be read is no answer. -/
theorem statistics_says (c : Client) (owner name : String) (w : World σ) (s : σ) (q : Request)
    (hq : c.Reaches (statisticsPath owner name) none q) :
    let o := w.run (c.statistics owner name).attempt s
    o.events = [.sent q] ∧
    (∀ fault message, (w.reply q s).1 = .error (.transport fault message) →
      o.value = .ok (.failed (.unanswered message))) ∧
    ∀ r, (w.reply q s).1 = .ok r →
      (o.value = .ok .notReady ↔ r.status = 202) ∧
      (∀ cs, o.value = .ok (.ready cs) ↔
        r.status = 204 ∧ cs = [] ∨ r.status = 200 ∧ ∃ j, r.json = .ok j ∧ Roster j cs) ∧
      (∀ items cs, r.status = 200 → r.json = .ok (.arr items) →
        (o.value = .ok (.ready cs) ↔ List.Forall₂ IsEntry items cs)) ∧
      ((∃ p, o.value = .ok (.failed p)) ↔ r.status ≠ 202 ∧ r.status ≠ 204 ∧
        (r.status = 200 → r.json ≠ .error .tooDeep ∧
          ∀ j cs, r.json = .ok j → ¬ Roster j cs)) ∧
      ∀ f, o.value = .error f ↔ f = .tooDeep ∧ r.status = 200 ∧ r.json = .error .tooDeep := by
  have hvalue : (w.run (c.statistics owner name).attempt s).value =
      statisticsBy (w.reply q s).1 := by
    rw [attempt_statistics hq]
    rfl
  refine ⟨by rw [attempt_statistics hq]; rfl, fun fault message h => ?_, fun r h => ?_⟩
  · rw [hvalue, h]
    rfl
  · rw [h] at hvalue
    have hanswer : (w.run (c.statistics owner name).attempt s).value = statisticsIn r := hvalue
    rw [hanswer]
    refine ⟨statisticsIn_eq_notReady_iff, fun cs => statisticsIn_eq_ready_iff,
      fun items cs h200 hj => ?_, exists_failed_iff, fun f => statisticsIn_eq_error_iff⟩
    rw [statisticsIn_eq_ready_iff, hj, ← roster_arr_iff]
    simp [h200]

end Client

/-- A world in which every body is the given one. -/
def saying (body : List UInt8) : World Unit where
  reply _ s := (.ok ⟨200, [], body⟩, s)
  clock s := (default, s)
  turn s := (true, s)

/-- The request for the statistics. -/
def hastyStatistics : Request :=
  ⟨"http://h/repos/o/n/stats/contributors", hasty.headers⟩

theorem reaches_statistics :
    hasty.Reaches (Client.statisticsPath "o" "n") none hastyStatistics :=
  ⟨_, rfl, rfl, rfl⟩

/-- Two contributors, of whom one is nobody and has counted nothing. -/
def twoEntries : List UInt8 :=
  "[\x7b\"author\":\x7b\"login\":\"ada\"\x7d,\"total\":3\x7d,\x7b\"author\":null\x7d]".toList.map
    fun c => UInt8.ofNat c.toNat

/-- A body that opens lists and nothing else. -/
def opening : List UInt8 :=
  List.replicate (Json.depthLimit + 1) 91

theorem json_opening : (⟨200, [], opening⟩ : Response).json = .error .tooDeep := by
  have htext : Text.decode opening = some (List.replicate (Json.depthLimit + 1) '[' ++ []) := by
    have hbytes := Text.decode_bytes (Text.isAscii_replicate (Json.depthLimit + 1) (c := '[')
      (by decide))
    rwa [Text.bytes, List.map_replicate, ← List.append_nil (List.replicate _ '[')] at hbytes
  unfold Response.json
  rw [htext]
  exact Json.ofChars_of_open []

theorem statistics_says_two :
    ((saying twoEntries).run (hasty.statistics "o" "n").attempt ()).value =
        .ok (.ready [⟨some "ada", 3⟩, ⟨none, 0⟩]) ∧
      ((saying opening).run (hasty.statistics "o" "n").attempt ()).value =
        .error .tooDeep := by
  obtain ⟨-, -, htwo⟩ :=
    Client.statistics_says hasty "o" "n" (saying twoEntries) () _ reaches_statistics
  obtain ⟨-, -, hdeep⟩ :=
    Client.statistics_says hasty "o" "n" (saying opening) () _ reaches_statistics
  constructor
  · obtain ⟨-, -, hready, -⟩ := htwo _ rfl
    refine (hready [.obj [("author", .obj [("login", .str "ada")]), ("total", .int 3)],
      .obj [("author", .null)]] _ rfl (by cbv)).mpr ?_
    exact .cons (.obj (.login rfl) (.total rfl rfl)) (.cons (.obj (.nobody rfl) (.absent rfl)) .nil)
  · obtain ⟨-, -, -, -, herror⟩ := hdeep _ rfl
    exact (herror _).mpr ⟨rfl, rfl, json_opening⟩

end GitHub

end PackageVitals
