import PackageVitals.Proofs.Paging
import PackageVitals.Proofs.Shorthand
import PackageVitals.Proofs.Tolerance

/-!
# The address that counts

Of the addresses that a package names, one is chosen by its look and only then read. What is
chosen for PyPI is the first address in which the host of a forge occurs, and for npm the
field of the version if it is anything at all. So an address that names a repository
is found unless an earlier one is chosen that names none
(`mappers_find_what_counts`).

The two tests agree in one direction. An address that is read has the host of its forge in
it (`mentionsForge_of_keyOfUrl?`), so none is passed over that could be read, and a field
that is nothing has no key (`Npm.keyOfField_of_not_truthy`). In the other direction they do
not: the page of an owner mentions a forge, and so does an address that merely has
one in its query.
-/

namespace PackageVitals

namespace Repository

/-! ## Addresses that mention a forge -/

/-- Whether the host of a forge occurs in a text. -/
def mentionsForge (t : String) : Bool :=
  Forge.all.any fun f => Text.occursIn f.host.toList t.toList

theorem mentionsForge_iff {t : String} :
    mentionsForge t = true ↔ ∃ f : Forge, f.host.toList <:+: t.toList := by
  simp [mentionsForge, Text.occursIn_iff, Forge.mem_all]

/-- What is left of an address is a part of it. -/
theorem bareAddress_within (url : List Char) : bareAddress url <:+: url := by
  obtain ⟨before, middle, after, hurl, -, -, -, -, hmiddle⟩ :=
    isBare_iff.mpr (Eq.refl (bareAddress url))
  have hmiddle : bareAddress url <:+: middle := by
    rcases hmiddle with hmiddle | ⟨-, hmiddle⟩
    · exact ⟨"git+".toList, [], by rw [hmiddle, List.append_nil]⟩
    · exact ⟨[], [], by simp [hmiddle]⟩
  exact hmiddle.trans ⟨before, after, by rw [hurl, List.append_assoc]⟩

/-- A lead has the host of its forge in it. -/
theorem Leads.host_within {f : Forge} {form : AddressForm} {lead : List Char}
    (h : Leads f form lead) : f.host.toList <:+: lead := by
  cases h with
  | @path scheme user www => exact ⟨scheme ++ user ++ www, ['/'], by simp⟩
  | @colon user => exact ⟨user ++ ['@'], [':'], by simp⟩

/-- **An address with a key mentions a forge.** -/
theorem mentionsForge_of_keyOfUrl? {t k : String} (h : keyOfUrl? t = some k) :
    mentionsForge t = true := by
  obtain ⟨r, hr, -⟩ := Option.map_eq_some_iff.mp h
  obtain ⟨x, ⟨lead, rest, hlead, hs, -⟩, -⟩ := ofUrl?_eq_some_iff.mp hr
  have hlead' : lead <:+: bareAddress t.toList := hs ▸ List.infix_append' [] lead _
  exact mentionsForge_iff.mpr
    ⟨x.forge, hlead.host_within.trans (hlead'.trans (bareAddress_within t.toList))⟩

/-- **Whether an address is the one that counts among several**: it mentions a forge, and
none before it does. -/
def Counts (ts : List String) (t : String) : Prop :=
  mentionsForge t = true ∧
    ∃ before after, ts = before ++ t :: after ∧ ∀ b ∈ before, mentionsForge b = false

variable {ts : List String} {t k : String}

theorem find?_eq_some_iff_counts : ts.find? mentionsForge = some t ↔ Counts ts t := by
  simp only [List.find?_eq_some_iff_append, Counts, Bool.not_eq_true']

/-- The key of what counts. -/
def keyAmong? (ts : List String) : Option String :=
  (ts.find? mentionsForge).bind keyOfUrl?

theorem keyAmong?_eq_some_iff :
    keyAmong? ts = some k ↔ ∃ t, Counts ts t ∧ keyOfUrl? t = some k := by
  simp only [keyAmong?, Option.bind_eq_some_iff, find?_eq_some_iff_counts]

/-- **There is no key among several addresses** if none of them has one, or if the one that
counts has none. -/
theorem keyAmong?_eq_none_iff : keyAmong? ts = none ↔
    (∀ t ∈ ts, keyOfUrl? t = none) ∨ ∃ t, Counts ts t ∧ keyOfUrl? t = none := by
  constructor
  · intro h
    cases hfind : ts.find? mentionsForge with
    | none =>
      refine .inl fun t ht => Option.eq_none_iff_forall_ne_some.mpr fun k hk => ?_
      exact List.find?_eq_none.mp hfind t ht (mentionsForge_of_keyOfUrl? hk)
    | some t =>
      rw [keyAmong?, hfind, Option.bind_some] at h
      exact .inr ⟨t, find?_eq_some_iff_counts.mp hfind, h⟩
  · rintro (h | ⟨t, ht, hkey⟩)
    · refine Option.eq_none_iff_forall_ne_some.mpr fun k hk => ?_
      obtain ⟨t, ⟨-, _, _, rfl, -⟩, hkey⟩ := keyAmong?_eq_some_iff.mp hk
      exact nomatch hkey.symm.trans (h t (by simp))
    · rw [keyAmong?, find?_eq_some_iff_counts.mpr ht, Option.bind_some, hkey]

end Repository

open Repository (Counts keyAmong? keyAmong?_eq_none_iff keyAmong?_eq_some_iff keyOfUrl?
  mentionsForge)

/-! ## The addresses of a package on PyPI -/

namespace PyPi

/-- Whether a value is a text or null. -/
def IsTextOrNull (j : Json) : Prop :=
  j = .null ∨ ∃ t, j = .str t

/-- The texts among some values. -/
def texts (js : List Json) : List String :=
  js.filterMap fun
    | .str t => some t
    | _ => none

theorem mem_texts_iff {js : List Json} {t : String} : t ∈ texts js ↔ .str t ∈ js := by
  unfold texts
  rw [List.mem_filterMap]
  constructor
  · rintro ⟨j, hj, ht⟩
    split at ht
    · exact Option.some.inj ht ▸ hj
    · exact nomatch ht
  · exact fun h => ⟨_, h, rfl⟩

/-- **Whether a document tells these project addresses and this home page**, each of them
a text or null. -/
structure Tells (members urls : List (String × Json)) (homePage : Json) : Prop where
  /-- They are what is known of the package. -/
  known : ∃ info, ((Json.lookup "info" members).getD .null).truthy?.getD (.obj []) = .obj info ∧
    ((Json.lookup "project_urls" info).getD .null).truthy?.getD (.obj []) = .obj urls ∧
      (Json.lookup "home_page" info).getD .null = homePage
  /-- They are texts. -/
  text : ∀ j ∈ homePage :: urls.map (·.2), IsTextOrNull j

/-- Whether an address is one of them. -/
def Names (urls : List (String × Json)) (homePage : Json) (t : String) : Prop :=
  homePage = .str t ∨ ∃ label, (label, .str t) ∈ urls

/-- **The addresses in the order in which they are looked at**: those with a label of a
repository, the home page, and all of them. -/
def candidates (urls : List (String × Json)) (homePage : Json) : List String :=
  texts (repositoryLabels.filterMap (Json.lookup · urls) ++ homePage :: urls.map (·.2))

variable {members urls : List (String × Json)} {homePage : Json}

theorem mem_of_lookup {label : String} {j : Json} (h : Json.lookup label urls = some j) :
    (label, j) ∈ urls := by
  obtain ⟨m, hm, rfl⟩ := Option.map_eq_some_iff.mp h
  obtain rfl : m.1 = label := by simpa using List.find?_some hm
  exact List.mem_of_find?_eq_some hm

theorem mem_labelled {j : Json} (h : j ∈ repositoryLabels.filterMap (Json.lookup · urls)) :
    j ∈ urls.map (·.2) := by
  obtain ⟨label, -, hlookup⟩ := List.mem_filterMap.mp h
  exact List.mem_map.mpr ⟨_, mem_of_lookup hlookup, rfl⟩

/-- They are all looked at. -/
theorem mem_candidates_iff {t : String} : t ∈ candidates urls homePage ↔ Names urls homePage t := by
  have hurls : .str t ∈ urls.map (·.2) ↔ ∃ label, (label, .str t) ∈ urls := by simp
  rw [candidates, mem_texts_iff, List.mem_append, List.mem_cons, hurls, Names, eq_comm]
  exact or_iff_right_of_imp fun h => .inr (hurls.mp (mem_labelled h))

/-- A document that tells nothing but project addresses. -/
theorem tells_urls (h : ∀ j ∈ urls.map (·.2), IsTextOrNull j) :
    Tells [("info", .obj [("project_urls", .obj urls)])] urls .null :=
  ⟨⟨_, rfl, by cases urls <;> rfl, rfl⟩, List.forall_mem_cons.mpr ⟨.inl rfl, h⟩⟩

/-- A text is looked at for the hosts of forges. -/
theorem onForge_str (t : String) : onForge (.str t) = .ok (mentionsForge t) := by
  unfold onForge
  split
  · rfl
  · next hempty =>
    obtain rfl : t = "" := by simpa [Json.isTruthy] using hempty
    rfl

/-- **Of texts the one that counts is chosen.** -/
theorem firstOnForge_eq {js : List Json} (h : ∀ j ∈ js, IsTextOrNull j) :
    firstOnForge js = .ok (((texts js).find? mentionsForge).map .str) := by
  induction js with
  | nil => rfl
  | cons j js ih =>
    obtain ⟨hj, hjs⟩ := List.forall_mem_cons.mp h
    rcases hj with rfl | ⟨t, rfl⟩
    · exact ih hjs
    · rw [firstOnForge, onForge_str]
      show (if mentionsForge t = true then _ else firstOnForge js) =
        .ok (((t :: texts js).find? mentionsForge).map Json.str)
      rw [List.find?_cons, ih hjs]
      cases mentionsForge t <;> rfl

/-- The key of a package is that of the address that counts. -/
theorem keyIn_eq (h : Tells members urls homePage) :
    keyIn (.obj members) = .ok (keyAmong? (candidates urls homePage)) := by
  obtain ⟨⟨info, hinfo, hurls, hhome⟩, htext⟩ := h
  have hall : ∀ j ∈ repositoryLabels.filterMap (Json.lookup · urls) ++ homePage :: urls.map (·.2),
      IsTextOrNull j := List.forall_mem_append.mpr
    ⟨fun j hj => htext j (List.mem_cons_of_mem _ (mem_labelled hj)), htext⟩
  have hprojects : projectUrls (.obj info) = .ok urls := by
    have hmember : (Json.obj info).member "project_urls" =
        pure ((Json.lookup "project_urls" info).getD .null) := rfl
    rw [projectUrls, hmember, pure_bind, hurls]
    rfl
  have hurl : repositoryUrl (.obj info) =
      .ok (((candidates urls homePage).find? mentionsForge).map .str) := by
    rw [repositoryUrl, hprojects]
    show firstOnForge (_ ++ (Json.lookup "home_page" info).getD .null :: _) = _
    rw [hhome, firstOnForge_eq hall, candidates]
  show repositoryUrl (((Json.lookup "info" members).getD .null).truthy?.getD (.obj [])) >>=
    keyOf = _
  rw [hinfo, hurl, keyAmong?]
  cases (candidates urls homePage).find? mentionsForge with
  | none => rfl
  | some t =>
    rw [Option.bind_some]
    rfl

end PyPi

/-! ## The fields of a package on npm -/

namespace Npm

/-- The repository field of the version that is asked for. -/
def ownField (package : Json) (version : Option String) : Except Failure Json := do
  (← versionData package version).member "repository"

/-- The field of the version counts if it is something, and else that of the package. -/
theorem repositoryField_eq (members : List (String × Json)) (version : Option String) :
    repositoryField (.obj members) version = do
      let own ← ownField (.obj members) version
      return own.truthy?.getD ((Json.lookup "repository" members).getD .null) := by
  unfold repositoryField ownField
  cases versionData (.obj members) version with
  | error f => rfl
  | ok data =>
    show (data.member "repository" >>= _) = (data.member "repository" >>= _)
    refine congrArg _ (funext fun own => ?_)
    cases own.truthy? <;> rfl

/-- **A field that is nothing has no key.** -/
theorem keyOfField_of_not_truthy {field : Json} (h : field.isTruthy = false) :
    keyOfField field = .ok none := by
  cases field with
  | str t =>
    obtain rfl : t = "" := by simpa [Json.isTruthy] using h
    rfl
  | obj members =>
    obtain rfl : members = [] := by simpa [Json.isTruthy] using h
    rfl
  | _ => rfl

/-- **There is no key for a package** if there is none in the field of the version, and this
is something, or there is none in the field of the package either. -/
theorem keyIn_eq_none_iff {members : List (String × Json)} {version : Option String} :
    keyIn (.obj members) version = .ok none ↔ ∃ own, ownField (.obj members) version = .ok own ∧
      keyOfField own = .ok none ∧ (own.isTruthy = true ∨
        keyOfField ((Json.lookup "repository" members).getD .null) = .ok none) := by
  rw [keyIn_eq, repositoryField_eq]
  cases ownField (.obj members) version with
  | error f => exact iff_of_false (fun h => nomatch h) fun ⟨_, h, _⟩ => nomatch h
  | ok own =>
    show keyOfField (own.truthy?.getD _) = .ok none ↔ _
    simp only [Except.ok.injEq, exists_eq_left']
    cases h : own.isTruthy with
    | true => simp [Json.truthy?, h]
    | false => simp [Json.truthy?, h, keyOfField_of_not_truthy h]

end Npm

/-! ## What the mappers find -/

/-- The search in a document that was had. -/
theorem keyFound_of_heard {k : Json → Except Failure (Option String)}
    {members : List (String × Json)} {Q : Json → Prop} :
    KeyBorne k (.ok (.obj members)) ∧ Q (keyFound k (.ok (.obj members))) ↔
      ∃ key?, k (.obj members) = .ok key? ∧ Q ((key?.map .str).getD .null) := by
  have hborne : Borne (.ok (.obj members) : Except Failure Json) := (FailsOnly.ok_iff _).mpr trivial
  simp only [keyBorne_iff, hborne, true_and, Except.ok.injEq, Json.obj.injEq, forall_eq', keyFound]
  cases k (.obj members) with
  | error f => simp
  | ok key? => simp [Except.toOption]

theorem getD_eq_null_iff {key? : Option String} : (key?.map Json.str).getD .null = .null ↔
    key? = none := by
  cases key? <;> simp

theorem getD_eq_str_iff {key? : Option String} {k : String} :
    (key?.map Json.str).getD .null = .str k ↔ key? = some k := by
  cases key? <;> simp

section Returns

variable {w : World σ} {root : String} {i : Identity} {s : σ} {members : List (String × Json)}
  {Q : Json → Prop}

/-- The mapper of PyPI finds the key of what counts. -/
theorem PyPi.returns_find_iff {urls : List (String × Json)} {homePage : Json}
    (hheard : heard w root i s = .ok (.obj members)) (h : Tells members urls homePage) :
    w.Returns (find root i) s Q ↔
      Q (((keyAmong? (candidates urls homePage)).map .str).getD .null) := by
  refine returns_keyFound_iff.trans ?_
  show KeyBorne keyIn (heard w root i s) ∧ Q (keyFound keyIn (heard w root i s)) ↔ _
  rw [hheard, keyFound_of_heard, keyIn_eq h]
  simp

/-- The mapper of npm finds the key of the field that counts. -/
theorem Npm.returns_find_iff (hheard : heard w root i s = .ok (.obj members)) :
    w.Returns (find root i) s Q ↔ ∃ key?, keyIn (.obj members) i.version = .ok key? ∧
      Q ((key?.map .str).getD .null) := by
  refine (returns_keyFound_iff (k := (keyIn · i.version))).trans ?_
  show KeyBorne (keyIn · i.version) (heard w root i s) ∧
    Q (keyFound (keyIn · i.version) (heard w root i s)) ↔ _
  rw [hheard, keyFound_of_heard]

end Returns

/-- **The mappers find what counts.** Of a document of PyPI whose addresses are texts or null,
the key of the address that counts is found; so nothing is found if and only if none of
the project addresses and the home page has a key, or the one that counts has none. Of
a document of npm, nothing is found if and only if the field of the version has no
key, and either is something or the field of the package has no key either. -/
theorem mappers_find_what_counts (w : World σ) (root : String) (i : Identity) (s : σ)
    (members : List (String × Json)) :
    (PyPi.heard w root i s = .ok (.obj members) →
      ∀ urls homePage, PyPi.Tells members urls homePage →
        (w.Returns (PyPi.find root i) s (· = .null) ↔
          (∀ t, PyPi.Names urls homePage t → keyOfUrl? t = none) ∨
            ∃ t, Counts (PyPi.candidates urls homePage) t ∧ keyOfUrl? t = none) ∧
        ∀ k, w.Returns (PyPi.find root i) s (· = .str k) ↔
          ∃ t, Counts (PyPi.candidates urls homePage) t ∧ keyOfUrl? t = some k) ∧
    (Npm.heard w root i s = .ok (.obj members) →
      (w.Returns (Npm.find root i) s (· = .null) ↔
        ∃ own, Npm.ownField (.obj members) i.version = .ok own ∧ Npm.keyOfField own = .ok none ∧
          (own.isTruthy = true ∨
            Npm.keyOfField ((Json.lookup "repository" members).getD .null) = .ok none))) := by
  refine ⟨fun hheard urls homePage h => ⟨?_, fun k => ?_⟩, fun hheard => ?_⟩
  · rw [PyPi.returns_find_iff hheard h, getD_eq_null_iff, keyAmong?_eq_none_iff]
    simp only [PyPi.mem_candidates_iff]
  · rw [PyPi.returns_find_iff hheard h, getD_eq_str_iff, keyAmong?_eq_some_iff]
  · rw [Npm.returns_find_iff hheard, ← Npm.keyIn_eq_none_iff]
    simp only [getD_eq_null_iff, exists_eq_right]

/-- A package that the two registries are asked about. -/
def package (ecosystem : String) (version : Option String) : Identity :=
  ⟨ecosystem, "x", none, version⟩

/-- Registries that name a repository where it is looked for: PyPI that of the package, and npm
that of one version, while another has none and the package names another host. -/
def plainRegistries : World Unit :=
  GitHub.shelf [
    ("https://pypi.org/pypi/x/json",
      "\x7b\"info\":\x7b\"project_urls\":\x7b" ++
        "\"Tracker\":\"https://github.com/octo/widget/issues\"\x7d\x7d\x7d"),
    ("https://registry.npmjs.org/x",
      "\x7b\"repository\":\x7b\"url\":\"https://example.org/octo/widget\"\x7d," ++
        "\"versions\":\x7b\"1.0.0\":\x7b\"repository\":\"\"\x7d," ++
        "\"2.0.0\":\x7b\"repository\":\"octo/widget\"\x7d\x7d\x7d")]

/-- The address of the issues of a repository. -/
def issuesUrls : List (String × Json) :=
  [("Tracker", .str "https://github.com/octo/widget/issues")]

/-- What npm knows of the package. -/
def hostedElsewhere : List (String × Json) :=
  [("repository", .obj [("url", .str "https://example.org/octo/widget")]),
    ("versions", .obj [("1.0.0", .obj [("repository", .str "")]),
      ("2.0.0", .obj [("repository", .str "octo/widget")])])]

/-- On PyPI only the issues of the repository are named, and they are at the repository. On npm
nothing is found for the version without a field, since the one of the package names no forge,
and something for the other. -/
theorem mappers_find_what_counts_issues :
    plainRegistries.Returns (PyPi.find PyPi.standardRoot (package "pypi" none)) ()
        (· = .str "github.com/octo/widget") ∧
      plainRegistries.Returns (Npm.find Npm.standardRoot (package "npm" (some "1.0.0"))) ()
        (· = .null) ∧
      ¬ plainRegistries.Returns (Npm.find Npm.standardRoot (package "npm" (some "2.0.0"))) ()
        (· = .null) := by
  have hpypi : PyPi.heard plainRegistries PyPi.standardRoot (package "pypi" none) () =
      .ok (.obj [("info", .obj [("project_urls", .obj issuesUrls)])]) := by cbv
  have hnpm (version : Option String) :
      Npm.heard plainRegistries Npm.standardRoot (package "npm" version) () =
        .ok (.obj hostedElsewhere) := by cbv
  have htells := @PyPi.tells_urls issuesUrls (by simp [issuesUrls, PyPi.IsTextOrNull])
  refine ⟨?_, ?_, fun hnull => ?_⟩
  · refine (((mappers_find_what_counts _ _ _ _ _).1 hpypi _ _ htells).2 _).mpr
      ⟨"https://github.com/octo/widget/issues", ⟨by decide, [], _, rfl, by simp⟩, by decide⟩
  · exact ((mappers_find_what_counts _ _ _ _ _).2 (hnpm _)).mpr
      ⟨.str "", rfl, rfl, .inr (by decide)⟩
  · obtain ⟨own, hown, hkey, -⟩ := ((mappers_find_what_counts _ _ _ _ _).2 (hnpm _)).mp hnull
    obtain rfl : .str "octo/widget" = own := Except.ok.inj hown
    have hnamed : Npm.keyOfField (.str "octo/widget") = .ok (some "github.com/octo/widget") := by
      decide
    cases hnamed.symm.trans hkey

/-- Registries that name an owner, or another host, before they name a repository. -/
def misleadingRegistries : World Unit :=
  GitHub.shelf [
    ("https://pypi.org/pypi/x/json",
      "\x7b\"info\":\x7b\"project_urls\":\x7b\"Source\":\"https://github.com/octo\"," ++
        "\"Tracker\":\"https://github.com/octo/widget/issues\"\x7d\x7d\x7d"),
    ("https://registry.npmjs.org/x",
      "\x7b\"repository\":\"octo/widget\",\"versions\":\x7b\"1.0.0\":" ++
        "\x7b\"repository\":\"https://example.org/octo/widget\"\x7d\x7d\x7d")]

/-- The page of an owner before the issues of a repository. -/
def ownerUrls : List (String × Json) :=
  ("Source", .str "https://github.com/octo") :: issuesUrls

/-- **An address that has a key can be overlooked.** On PyPI it stands after the page of an
owner, which mentions a forge, and on npm the field of the version is something, and
names no forge. -/
theorem mappers_overlook_widget :
    (∃ members urls homePage,
      PyPi.heard misleadingRegistries PyPi.standardRoot (package "pypi" none) () =
        .ok (.obj members) ∧ PyPi.Tells members urls homePage ∧
      (∃ t, PyPi.Names urls homePage t ∧ keyOfUrl? t = some "github.com/octo/widget") ∧
      misleadingRegistries.Returns (PyPi.find PyPi.standardRoot (package "pypi" none)) ()
        (· = .null)) ∧
    ∃ members,
      Npm.heard misleadingRegistries Npm.standardRoot (package "npm" (some "1.0.0")) () =
        .ok (.obj members) ∧
      Npm.keyOfField ((Json.lookup "repository" members).getD .null) =
        .ok (some "github.com/octo/widget") ∧
      misleadingRegistries.Returns (Npm.find Npm.standardRoot (package "npm" (some "1.0.0"))) ()
        (· = .null) := by
  have hpypi : PyPi.heard misleadingRegistries PyPi.standardRoot (package "pypi" none) () =
      .ok (.obj [("info", .obj [("project_urls", .obj ownerUrls)])]) := by cbv
  have hnpm : Npm.heard misleadingRegistries Npm.standardRoot (package "npm" (some "1.0.0")) () =
      .ok (.obj [("repository", .str "octo/widget"), ("versions", .obj [("1.0.0",
        .obj [("repository", .str "https://example.org/octo/widget")])])]) := by cbv
  have htells := @PyPi.tells_urls ownerUrls
    (by simp [ownerUrls, issuesUrls, PyPi.IsTextOrNull])
  refine ⟨⟨_, _, _, hpypi, htells, ⟨"https://github.com/octo/widget/issues",
    .inr ⟨"Tracker", by simp [ownerUrls, issuesUrls]⟩, by decide⟩, ?_⟩, _, hnpm, by decide, ?_⟩
  · refine (PyPi.returns_find_iff hpypi htells).mpr (getD_eq_null_iff.mpr ?_)
    exact keyAmong?_eq_none_iff.mpr (.inr ⟨"https://github.com/octo",
      ⟨by decide, [], _, rfl, by simp⟩, by decide⟩)
  · exact (Npm.returns_find_iff hnpm).mpr ⟨none, Npm.keyIn_eq_none_iff.mpr
      ⟨_, rfl, by decide, .inl (by decide)⟩, rfl⟩

end PackageVitals
