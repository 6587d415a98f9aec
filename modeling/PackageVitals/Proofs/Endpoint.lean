import PackageVitals.Proofs.Address
import PackageVitals.Proofs.Hearing
import PackageVitals.Proofs.Script

/-!
# The endpoints of GitHub

Once GitHub knows a repository, everything else is asked at ten **endpoints**
below the path of the repository. Three of them take the name of a branch or
of a commit after their place, three take a form, and each answers for
signals of its own (`Endpoint.signals`).

As long as the names stay where they are put, a request asks one endpoint
only, and none that asks one asks for the repository itself
(`Client.asks_unique`, `Client.not_asks_repository`). A name that does not
stay is looked for elsewhere: a branch called `../readme`, where the
introduction is. What an analysis asks is, part by part, within one endpoint
(`Client.within_countContributors` and the lemmas after it).
-/

namespace PackageVitals.GitHub

open Url (Stays EndsAtPath pathPart encodeWith isPathChar)

/-- **An endpoint** below a repository. -/
inductive Endpoint where
  /-- A branch. -/
  | branch
  /-- The contributors. -/
  | contributors
  /-- The open pull requests. -/
  | pullRequests
  /-- A commit. -/
  | commit
  /-- The introduction. -/
  | readme
  /-- The code of conduct. -/
  | codeOfConduct
  /-- The security policy. -/
  | securityPolicy
  /-- The tree of a commit. -/
  | tree
  /-- The open issues, page by page. -/
  | issues
  /-- The statistics of the contributors. -/
  | statistics
  deriving DecidableEq

namespace Endpoint

/-- Every endpoint. -/
def all : List Endpoint := [
  branch, contributors, pullRequests, commit, readme, codeOfConduct, securityPolicy, tree, issues,
  statistics]

/-- Where an endpoint is below the path of the repository. -/
def place : Endpoint → String
  | branch => "/branches/"
  | contributors => "/contributors"
  | pullRequests => "/pulls"
  | commit => "/commits/"
  | readme => "/readme"
  | codeOfConduct => "/contents/CODE_OF_CONDUCT.md"
  | securityPolicy => "/contents/.github/SECURITY.md"
  | tree => "/git/trees/"
  | issues => "/issues"
  | statistics => "/stats/contributors"

/-- The place without the slash that it starts with. -/
def stem (e : Endpoint) : List Char := e.place.toList.tail

/-- Whether a name follows the place. -/
def isNamed : Endpoint → Bool
  | branch | commit | tree => true
  | _ => false

/-- Whether the endpoint is asked with a form. -/
def isList : Endpoint → Bool
  | contributors | pullRequests | issues => true
  | _ => false

/-- **The signals that an endpoint answers for.** Two of the others are asked
about the commit that a branch points to. -/
def signals : Endpoint → List Signal
  | branch => [.lastCommit, .files]
  | contributors => [.contributors]
  | pullRequests => [.openPullRequests]
  | commit => [.lastCommit]
  | readme => [.readme]
  | codeOfConduct => [.codeOfConduct]
  | securityPolicy => [.securityPolicy]
  | tree => [.files]
  | issues => [.issueAge]
  | statistics => [.busFactor, .commitFrequency]

/-- **What an endpoint takes**: a name that stays where it is put, or none, and
a form, or none. -/
structure Takes (e : Endpoint) (name : String) (form : Option Form) : Prop where
  /-- The name stays. -/
  stays : Stays name.toList
  /-- There is none where none is expected. -/
  unnamed : e.isNamed = false → name = ""
  /-- A form has something in it. -/
  full : e.isList = true → ∃ f, form = some f ∧ f ≠ []
  /-- There is none where none is expected. -/
  formless : e.isList = false → form = none

theorem place_toList (e : Endpoint) : e.place.toList = '/' :: e.stem := by
  cases e <;> rfl

theorem keep_stem (e : Endpoint) : ∀ c ∈ e.stem, isPathChar c = true := by
  refine List.all_eq_true.mp ?_
  cases e <;> decide

theorem endsAtPath_stem (e : Endpoint) : EndsAtPath e.stem := by
  cases e <;> decide

theorem mem_all (e : Endpoint) : e ∈ all := by
  cases e <;> decide

/-- No place goes on at another one that is asked in the same way. -/
theorem eq_of_stem {e e' : Endpoint} (hlist : e.isList = e'.isList) (h : e.stem <+: e'.stem) :
    e = e' := by
  -- One evaluation of the whole table, and not one for each of its pairs.
  have htable : (all.all fun e => all.all fun e' =>
      (e.isList != e'.isList) || !e.stem.isPrefixOf e'.stem || e == e') = true := by
    decide +kernel
  have hrow := List.all_eq_true.mp htable e (mem_all e)
  have hpair := List.all_eq_true.mp hrow e' (mem_all e')
  rw [hlist, List.isPrefixOf_iff_prefix.mpr h] at hpair
  simpa using hpair

/-- Two places that begin alike are one. -/
theorem eq_of_append_eq {e e' : Endpoint} (hlist : e.isList = e'.isList) {s s' : List Char}
    (h : e.stem ++ s = e'.stem ++ s') : e = e' := by
  rcases List.prefix_or_prefix_of_prefix (List.prefix_append e.stem s)
    (h ▸ List.prefix_append e'.stem s') with hp | hp
  · exact eq_of_stem hlist hp
  · exact (eq_of_stem hlist.symm hp).symm

/-- An endpoint that takes a name has a further slash before it. -/
theorem count_stem {e : Endpoint} (h : e.isNamed = true) : 1 ≤ e.stem.count '/' := by
  revert h
  cases e <;> decide

theorem count_stem_list {e : Endpoint} (h : e.isList = true) : e.stem.count '/' = 0 := by
  revert h
  cases e <;> decide

/-- What an endpoint takes stays after its place. -/
theorem Takes.stays_stem {e : Endpoint} {name : String} {form : Option Form}
    (h : e.Takes name form) : Stays (e.stem ++ name.toList) := by
  have hplain {x : List Char} (hx : EndsAtPath (x ++ ['/']))
      (hdots : ∀ s ∈ Text.splitAll '/' x, ¬ Url.IsDots s) :
      Stays ((x ++ ['/']) ++ name.toList) := by
    unfold Stays
    rw [Url.pathPart_append hx, List.append_assoc, List.singleton_append, Text.splitAll_append]
    exact List.forall_mem_append.mpr ⟨hdots, h.stays⟩
  by_cases hn : e.isNamed = true
  · cases e with
    | branch => exact hplain (x := "branches".toList) (by decide) (by decide)
    | commit => exact hplain (x := "commits".toList) (by decide) (by decide)
    | tree => exact hplain (x := "git/trees".toList) (by decide) (by decide)
    | _ => cases hn
  · rw [h.unnamed (by simpa using hn)]
    revert hn
    cases e <;> decide

end Endpoint

namespace Client

variable {c : Client} {owner name : String}

/-- Whether a request is for a path, with a form. -/
def Sends (c : Client) (path : String) (form : Option Form) (q : Request) : Prop :=
  ∃ u, c.service.address (c.root ++ path) form = .ok u ∧ q = c.service.request u

/-- **Whether a request asks an endpoint** of a repository. -/
def Asks (c : Client) (owner name : String) (e : Endpoint) (q : Request) : Prop :=
  ∃ text form, e.Takes text form ∧ c.Sends (repositoryPath owner name ++ e.place ++ text) form q

/-- The address of the repository. -/
abbrev base (c : Client) (owner name : String) : String :=
  c.root ++ repositoryPath owner name

theorem endsAtPath_base (hroot : EndsAtPath c.root.toList) (howner : EndsAtPath owner.toList)
    (hname : EndsAtPath name.toList) : EndsAtPath (c.base owner name).toList := by
  unfold base repositoryPath
  simp only [String.toList_append, Url.endsAtPath_append]
  exact ⟨hroot, ⟨⟨by decide, howner⟩, by decide⟩, hname⟩

section Apart

variable {u₀ : Url} (hb : c.service.Base (c.base owner name) u₀)

include hb

/-- The address of an endpoint that is asked without a form. -/
theorem of_sends {e : Endpoint} {text : String} {u : Url} (ht : e.Takes text none)
    (h : c.service.address (c.root ++ (repositoryPath owner name ++ e.place ++ text)) none =
      .ok u) :
    u.Placed ∧ u.scheme = u₀.scheme ∧
      u.sentPath = u₀.path ++ '/' :: (e.stem ++ encodeWith isPathChar (pathPart text.toList)) ∧
      (e.isNamed = false → u.query = none) := by
  obtain ⟨hplaced, hscheme, hpath, hquery⟩ := hb.of_address (t := e.stem ++ text.toList)
    (by simp [base, String.toList_append, e.place_toList]) ht.stays_stem h
  rw [Url.pathPart_append e.endsAtPath_stem, Url.encodeWith_append,
    Url.encodeWith_of_forall e.keep_stem] at hpath
  refine ⟨hplaced, hscheme, ?_, fun hn => hquery ?_⟩
  · unfold Url.sentPath
    rw [hpath, if_neg (by simp)]
  · rw [ht.unnamed hn]
    intro hmark
    exact absurd (e.endsAtPath_stem '?' (by simpa using hmark)) (by decide)

/-- The address of an endpoint that is asked with a form. -/
theorem of_sends_form {e : Endpoint} {text : String} {form : Option Form} {u : Url}
    (he : e.isList = true) (ht : e.Takes text form)
    (h : c.service.address (c.root ++ (repositoryPath owner name ++ e.place ++ text)) form =
      .ok u) :
    u.Placed ∧ u.scheme = u₀.scheme ∧
      u.sentPath = encodeWith isPathChar (Url.normalPath u₀.path) ++ '/' :: e.stem ∧
      u.query ≠ none := by
  obtain rfl : text = "" := ht.unnamed (by revert he; cases e <;> decide)
  obtain ⟨f, rfl, hf⟩ := ht.full he
  obtain ⟨hplaced, hscheme, hpath, hquery⟩ := hb.of_address_form (t := e.stem)
    (by simp [base, String.toList_append, e.place_toList])
    (by simpa using ht.stays_stem) e.keep_stem hf h
  refine ⟨hplaced, hscheme, ?_, hquery⟩
  unfold Url.sentPath
  rw [hpath, if_neg (by simp)]

/-- A request with a form and one without are different: one has a query and
the other has not, or has a name after one more slash. -/
theorem not_sent_both {e e' : Endpoint} {q : Request} (he : e.isList = false)
    (he' : e'.isList = true) (h : c.Asks owner name e q) : ¬ c.Asks owner name e' q := by
  rintro ⟨text', form', ht', u', hu', hq'⟩
  obtain ⟨text, form, ht, u, hu, rfl⟩ := h
  obtain rfl := ht.formless he
  obtain ⟨hplaced, hscheme, hpath, hquery⟩ := of_sends hb ht hu
  obtain ⟨hplaced', hscheme', hpath', hquery'⟩ := of_sends_form hb he' ht' hu'
  obtain ⟨hp, hq⟩ := Url.path_eq_of_sent_eq hplaced hplaced' (hscheme.trans hscheme'.symm)
    (congrArg Request.url hq')
  cases hn : e.isNamed with
  | false => exact hquery' (hq ▸ hquery hn)
  | true =>
    -- The base is normalized a second time where a form is added, and loses slashes at most.
    rw [hpath, hpath'] at hp
    have hcount := congrArg (List.count '/') hp
    simp only [List.count_append, List.count_cons_self] at hcount
    have hle := hb.count_path_le
    have := Endpoint.count_stem hn
    have := Endpoint.count_stem_list he'
    omega

/-- **A request asks one endpoint only.** -/
theorem asks_unique {e e' : Endpoint} {q : Request} (h : c.Asks owner name e q)
    (h' : c.Asks owner name e' q) : e = e' := by
  cases he : e.isList with
  | false =>
    cases he' : e'.isList with
    | true => exact absurd h' (not_sent_both hb he he' h)
    | false =>
      obtain ⟨text, form, ht, u, hu, rfl⟩ := h
      obtain ⟨text', form', ht', u', hu', hq⟩ := h'
      obtain rfl := ht.formless he
      obtain rfl := ht'.formless he'
      obtain ⟨hplaced, hscheme, hpath, -⟩ := of_sends hb ht hu
      obtain ⟨hplaced', hscheme', hpath', -⟩ := of_sends hb ht' hu'
      obtain ⟨hp, -⟩ := Url.path_eq_of_sent_eq hplaced hplaced' (hscheme.trans hscheme'.symm)
        (congrArg Request.url hq)
      rw [hpath, hpath'] at hp
      exact Endpoint.eq_of_append_eq (he.trans he'.symm)
        (List.cons.inj (List.append_cancel_left hp)).2
  | true =>
    cases he' : e'.isList with
    | false => exact absurd h (not_sent_both hb he' he h')
    | true =>
      obtain ⟨text, form, ht, u, hu, rfl⟩ := h
      obtain ⟨text', form', ht', u', hu', hq⟩ := h'
      obtain ⟨hplaced, hscheme, hpath, -⟩ := of_sends_form hb he ht hu
      obtain ⟨hplaced', hscheme', hpath', -⟩ := of_sends_form hb he' ht' hu'
      obtain ⟨hp, -⟩ := Url.path_eq_of_sent_eq hplaced hplaced' (hscheme.trans hscheme'.symm)
        (congrArg Request.url hq)
      rw [hpath, hpath'] at hp
      have hstem := (List.cons.inj (List.append_cancel_left hp)).2
      exact Endpoint.eq_of_append_eq (he.trans he'.symm) (congrArg (· ++ []) hstem)

/-- **The request for the repository asks none of its endpoints.** -/
theorem not_asks_repository (e : Endpoint) : ¬ c.Asks owner name e (c.service.request u₀) := by
  rintro ⟨text, form, ht, u, hu, hq⟩
  have hsent : u₀.sent = u.sent := congrArg Request.url hq
  -- A form leaves a query in the address, and a place makes the path longer.
  cases he : e.isList with
  | true =>
    obtain ⟨hplaced, hscheme, -, hquery⟩ := of_sends_form hb he ht hu
    obtain ⟨-, hq⟩ := Url.path_eq_of_sent_eq hb.placed hplaced hscheme.symm hsent
    exact hquery (hq ▸ hb.query)
  | false =>
    obtain rfl := ht.formless he
    obtain ⟨hplaced, hscheme, hpath, -⟩ := of_sends hb ht hu
    obtain ⟨hp, -⟩ := Url.path_eq_of_sent_eq hb.placed hplaced hscheme.symm hsent
    have hlen := congrArg List.length hp
    have hstem : 0 < e.stem.length := by
      cases e <;> decide
    rw [hpath] at hlen
    simp only [List.length_append, List.length_cons] at hlen
    unfold Url.sentPath at hlen
    split at hlen
    · simp only [List.length_cons, List.length_nil] at hlen
      omega
    · omega

end Apart

/-! ## What is asked where -/

section Within

open Action (Within)

variable {Q : Request → Prop} {path : String}

theorem within_get {form : Option Form} (h : ∀ q, c.Sends path form q → Q q) :
    Within Q (c.get path form) := by
  unfold get Service.get
  cases hu : c.service.address (c.root ++ path) form with
  | error f => trivial
  | ok u =>
    refine ⟨h _ ⟨u, hu, rfl⟩, fun r => ?_⟩
    cases r with
    | error f => trivial
    | ok r =>
      show Action.Within Q (if u.isAbsolute then pure r else Action.fail .badValue)
      split <;> trivial

theorem within_fetch {form : Option Form} (h : ∀ q, c.Sends path form q → Q q) :
    Within Q (c.fetch path form) := by
  unfold fetch
  refine (within_get h).bind fun r => ?_
  split
  · trivial
  · exact Action.within_ofExcept.bind fun _ => Action.within_ofExcept

theorem within_read {of : Json → Except Failure α} (h : ∀ q, c.Sends path none q → Q q) :
    Within Q (c.read path of) := by
  unfold read
  refine (within_fetch h).bind fun j => ?_
  split
  · trivial
  · exact Action.within_ofExcept.map some

theorem within_count {form : Form} (h : ∀ q, c.Sends path (some (Json.insertMember "per_page"
    (.int 1) form)) q → Q q) : Within Q (c.count path form) := by
  unfold count
  exact (within_get h).bind fun _ => Action.within_ofExcept

theorem within_isThere (h : ∀ q, c.Sends path none q → Q q) : Within Q (c.isThere path) := by
  unfold isThere
  refine (within_get h).bind fun r => ?_
  split
  · trivial
  · exact Action.within_ofExcept.bind fun _ => trivial

/-- Every page of a list is asked for with a form. -/
theorem within_pagesFrom {form : Form} {size : Json} {limit : Option Int}
    (h : ∀ page q, c.Sends path (some (Json.insertMember "page" (.int page) form)) q → Q q)
    (fuel : Nat) (page : Int) : Within Q (c.pagesFrom path form size limit fuel page) := by
  induction fuel generalizing page with
  | zero => trivial
  | succ fuel ih =>
    unfold pagesFrom
    split
    · refine (within_fetch (h page)).bind fun j => ?_
      split
      · trivial
      · refine Action.within_ofExcept.bind fun items => Action.within_ofExcept.bind fun isLast => ?_
        split
        · trivial
        · exact (ih (page + 1)).bind fun _ => trivial
    · trivial

theorem within_statistics
    (h : ∀ q, c.Sends (repositoryPath owner name ++ "/stats/contributors") none q → Q q) :
    Within Q (c.statistics owner name) := by
  unfold statistics
  refine Program.Within.andThen (within_get h) fun e => ?_
  split <;> trivial

theorem insertMember_ne_nil (name : String) (value : Json) (form : Form) :
    Json.insertMember name value form ≠ [] := by
  cases form with
  | nil => exact List.cons_ne_nil _ _
  | cons m rest =>
    unfold Json.insertMember
    split <;> exact List.cons_ne_nil _ _

/-- A request for a place asks the endpoint there. -/
theorem asks_of_sends {e : Endpoint} {form : Option Form} (hpath : path = repositoryPath owner name
    ++ e.place) (ht : e.Takes "" form) (q : Request) (h : c.Sends path form q) :
    c.Asks owner name e q :=
  ⟨"", form, ht, by rwa [String.append_empty, ← hpath]⟩

theorem takes_form {e : Endpoint} (he : e.isList = true) (name : String) (value : Json)
    (form : Form) : e.Takes "" (some (Json.insertMember name value form)) :=
  ⟨by decide, fun _ => rfl, fun _ => ⟨_, rfl, insertMember_ne_nil name value form⟩,
    fun h => absurd (he.symm.trans h) (by decide)⟩

theorem takes_nothing {e : Endpoint} (he : e.isList = false) : e.Takes "" none :=
  ⟨by decide, fun _ => rfl, fun h => absurd (he.symm.trans h) (by decide), fun _ => rfl⟩

theorem takes_name {e : Endpoint} (hn : e.isNamed = true) {text : String}
    (h : Stays text.toList) : e.Takes text none := by
  refine ⟨h, fun hn' => absurd (hn.symm.trans hn') (by decide), fun he => ?_, fun _ => rfl⟩
  revert he hn
  cases e <;> decide

theorem within_countContributors :
    Within (c.Asks owner name .contributors) (c.countContributors owner name) :=
  within_count (asks_of_sends rfl (takes_form rfl _ _ _))

theorem within_countOpenPullRequests :
    Within (c.Asks owner name .pullRequests) (c.countOpenPullRequests owner name) :=
  within_count (asks_of_sends rfl (takes_form rfl _ _ _))

theorem within_branchHead {branch : String} (h : Stays branch.toList) :
    Within (c.Asks owner name .branch) (c.branchHead owner name branch) := by
  unfold branchHead
  exact (within_read fun _ hq => ⟨branch, none, takes_name rfl h, hq⟩).bind fun _ => trivial

theorem within_commitDate {commit : String} (h : Stays commit.toList) :
    Within (c.Asks owner name .commit) (c.commitDate owner name commit) :=
  within_read fun _ hq => ⟨commit, none, takes_name rfl h, hq⟩

theorem within_countFiles {commit : String} (h : Stays commit.toList) :
    Within (c.Asks owner name .tree) (c.countFiles owner name commit) :=
  within_read fun _ hq => ⟨commit, none, takes_name rfl h, hq⟩

theorem within_hasReadme : Within (c.Asks owner name .readme) (c.hasReadme owner name) :=
  within_isThere (asks_of_sends rfl (takes_nothing rfl))

theorem within_codeOfConduct :
    Within (c.Asks owner name .codeOfConduct) (c.hasFile owner name "CODE_OF_CONDUCT.md") :=
  within_isThere (asks_of_sends (by rw [String.append_assoc]; rfl) (takes_nothing rfl))

theorem within_securityPolicy :
    Within (c.Asks owner name .securityPolicy) (c.hasFile owner name ".github/SECURITY.md") :=
  within_isThere (asks_of_sends (by rw [String.append_assoc]; rfl) (takes_nothing rfl))

theorem within_openIssueDates :
    Within (c.Asks owner name .issues) (c.openIssueDates owner name) := by
  unfold openIssueDates pages
  exact (within_pagesFrom (fun page => asks_of_sends rfl (takes_form rfl _ _ _)) _ _).bind
    fun _ => Action.within_ofExcept

end Within

end Client

/-- Asking for the statistics again asks the same. -/
theorem Analyzer.within_poll (a : Analyzer) (owner name : String) :
    Action.Within (a.client.Asks owner name .statistics) (a.poll owner name) := by
  unfold poll
  generalize a.maxAttempts = left
  induction left with
  | zero => trivial
  | succ left ih =>
    unfold pollFrom
    refine (Client.within_statistics (Client.asks_of_sends rfl (Client.takes_nothing rfl))).bind
      fun answer => ?_
    cases answer with
    | ready cs => trivial
    | failed p => trivial
    | notReady =>
      dsimp only
      split
      · exact ih
      · exact ih

end PackageVitals.GitHub
