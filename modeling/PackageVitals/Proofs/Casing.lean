import PackageVitals.Proofs.Opening

/-!
# The case of an ecosystem

An ecosystem is looked at in four places. deps.dev's systems are found
whatever its case, and the three others – the mark between namespace and
name, and the mappers of npm and PyPI – know it in lower case only. So two
packages that differ in nothing but the case of their ecosystems look alike
where those three agree on them (`Settings.ComparesAlike`), and only there
(`Settings.sameSignals_of_case`): an ecosystem in another case loses the
mapper of its registry, and in Maven's the namespace is joined to the name
with the wrong mark.
-/

namespace PackageVitals

/-! ## Lower case -/

namespace Text

theorem toLower_of_not_ascii {c : Char} (h : ¬ c.toNat < 128) : c.toLower = c := by
  refine dif_neg fun hc => ?_
  have : c.val.toNat ≤ 90 := UInt32.le_iff_toNat_le.mp hc.2
  have : c.toNat = c.val.toNat := rfl
  omega

/-- What does not tell ASCII characters of different case apart does not tell
any. -/
theorem toLower_congr {f : Char → β} (h : ∀ n < 128, f (Char.ofNat n).toLower = f (Char.ofNat n))
    (c : Char) : f c.toLower = f c := by
  by_cases hc : c.toNat < 128
  · exact Url.forall_ascii (p := fun c => f c.toLower = f c) h hc
  · rw [toLower_of_not_ascii hc]

/-- A table that does not tell ASCII letters of different case apart, by what it
says about ASCII. -/
theorem has_toLower {table small : Ranges} (h : table.filter (·.1 < 128) = small)
    (hsmall : ∀ n < 128, small.has (Char.ofNat n).toLower = small.has (Char.ofNat n)) (c : Char) :
    table.has c.toLower = table.has c := by
  have hascii (d : Char) (hd : d.toNat < 128) : table.has d = small.has d := by
    rw [← h, Bool.eq_iff_iff, Ranges.has_iff, Ranges.has_iff]
    constructor
    · rintro ⟨r, hr, hd'⟩
      exact ⟨r, List.mem_filter.mpr ⟨hr, decide_eq_true (by omega)⟩, hd'⟩
    · rintro ⟨r, hr, hd'⟩
      exact ⟨r, (List.mem_filter.mp hr).1, hd'⟩
  by_cases hc : c.toNat < 128
  · have hlower : c.toLower.toNat < 128 :=
      Url.forall_ascii (p := fun c => c.toLower.toNat < 128) (by decide) hc
    rw [hascii _ hlower, hascii _ hc]
    exact Url.forall_ascii (p := fun c => small.has c.toLower = small.has c) hsmall hc
  · rw [toLower_of_not_ascii hc]

theorem nextIsCased_map_toLower (s : List Char) :
    nextIsCased (s.map Char.toLower) = nextIsCased s := by
  have hignorable : caseIgnorableRanges.has ∘ Char.toLower = caseIgnorableRanges.has :=
    funext (has_toLower (by decide +kernel : _ =
      [(39, 39), (46, 46), (58, 58), (94, 94), (96, 96)]) (by decide +kernel))
  have hcased : ∀ c, casedRanges.has (Char.toLower c) = casedRanges.has c :=
    has_toLower (by decide +kernel : _ = [(65, 90), (97, 122)]) (by decide +kernel)
  unfold nextIsCased
  rw [List.dropWhile_map, hignorable]
  cases s.dropWhile caseIgnorableRanges.has with
  | nil => rfl
  | cons c rest => exact hcased c

theorem lowerAfter_map_toLower (before s : List Char) :
    lowerAfter (before.map Char.toLower) (s.map Char.toLower) = lowerAfter before s := by
  have hsigma : ∀ c, (Char.toLower c == 'Σ') = (c == 'Σ') :=
    toLower_congr (f := (· == 'Σ')) (by decide +kernel)
  have hchar : ∀ c, lowerChar (Char.toLower c) = lowerChar c :=
    toLower_congr (by decide +kernel)
  induction s generalizing before with
  | nil => rfl
  | cons c rest ih =>
    have hrest := ih (c :: before)
    rw [List.map_cons] at hrest ⊢
    unfold lowerAfter
    rw [hrest, hsigma, hchar, nextIsCased_map_toLower, nextIsCased_map_toLower]

/-- **Lower case does not tell apart what differs in ASCII case.** -/
theorem lower_map_toLower (s : List Char) : lower (s.map Char.toLower) = lower s :=
  lowerAfter_map_toLower [] s

end Text

/-! ## Identities that differ in case -/

/-- **Whether two identities differ in nothing but the ASCII case of their
ecosystems.** -/
structure Identity.DifferInCase (i j : Identity) : Prop where
  /-- Their ecosystems are the same in lower case. -/
  ecosystem : i.ecosystem.toList.map Char.toLower = j.ecosystem.toList.map Char.toLower
  /-- They have one name. -/
  name : i.name = j.name
  /-- They have one scope. -/
  scope : i.scope = j.scope
  /-- They are of one version. -/
  version : i.version = j.version

namespace Identity.DifferInCase

variable {i j : Identity}

theorem symm (h : i.DifferInCase j) : j.DifferInCase i :=
  ⟨h.ecosystem.symm, h.name.symm, h.scope.symm, h.version.symm⟩

/-- They are filed under one system. -/
theorem systemFor (h : i.DifferInCase j) (m : SystemMap) :
    m.systemFor i.ecosystem = m.systemFor j.ecosystem := by
  unfold SystemMap.systemFor Text.lowerCase
  rw [← Text.lower_map_toLower, h.ecosystem, Text.lower_map_toLower]

/-- Different names of ecosystems stay different. -/
theorem ecosystem_ne (h : i.DifferInCase j) {a b : String} (hi : i.ecosystem = a)
    (hab : a.toList.map Char.toLower ≠ b.toList.map Char.toLower) : j.ecosystem ≠ b := by
  rintro rfl
  exact hab (hi ▸ h.ecosystem)

/-- With one mark their coordinates are the same. -/
theorem coordinates (h : i.DifferInCase j)
    (hmark : (nonempty? i.scope).isSome → i.separator = j.separator) :
    i.coordinates = j.coordinates := by
  unfold Identity.coordinates
  rw [← h.scope, h.name]
  cases hs : nonempty? i.scope with
  | none => rfl
  | some x => dsimp only; rw [hmark (by rw [hs]; rfl)]

end Identity.DifferInCase

/-- The mark tells whether an identity is one of Maven. -/
theorem Identity.separator_eq_iff {i j : Identity} :
    i.separator = j.separator ↔ (i.ecosystem = "maven" ↔ j.ecosystem = "maven") := by
  unfold separator
  simp only [beq_iff_eq]
  by_cases hi : i.ecosystem = "maven" <;> by_cases hj : j.ecosystem = "maven" <;> simp [hi, hj]

namespace Settings

variable {s : Settings} {i j : Identity}

/-- **Whether the comparisons that know lower case only agree on two
identities**, as far as they matter. -/
structure ComparesAlike (s : Settings) (i j : Identity) : Prop where
  /-- Both are packages of npm or neither is. -/
  npm : i.ecosystem = "npm" ↔ j.ecosystem = "npm"
  /-- Both are packages of PyPI or neither is. -/
  pypi : i.ecosystem = "pypi" ↔ j.ecosystem = "pypi"
  /-- Both are packages of Maven or neither is, where they are filed under a
  system and have a scope. -/
  maven : (s.systems.systemFor i.ecosystem).isSome → (Identity.nonempty? i.scope).isSome →
    (i.ecosystem = "maven" ↔ j.ecosystem = "maven")

/-- **Whether the providers that know about a package can be asked about it.** -/
structure CanBeAsked (s : Settings) (i : Identity) : Prop where
  /-- deps.dev can be asked, if the package is filed under a system. -/
  depsDev : ∀ system, s.systems.systemFor i.ecosystem = some system →
    DepsDev.service.Asks (s.depsDev.latestVersionUrl system i.coordinates)
  /-- The registry of npm can be asked about a package of npm. -/
  npm : i.ecosystem = "npm" →
    Npm.service.Asks (Npm.packageUrl (rootOf none Npm.standardRoot) i)
  /-- PyPI can be asked about a package of PyPI. -/
  pypi : i.ecosystem = "pypi" →
    PyPi.service.Asks (PyPi.packageUrl (rootOf none PyPi.standardRoot) i)

theorem ComparesAlike.likens (h : i.DifferInCase j) (hc : s.ComparesAlike i j) : s.Likens i j := by
  by_cases he : i.ecosystem = j.ecosystem
  · obtain rfl : i = j := by
      cases i
      cases j
      exact congr (congr (congr (congrArg Identity.mk he) h.name) h.scope) h.version
    exact .refl s i
  -- Of two identities in different case neither is in lower case.
  have hnpm : i.ecosystem ≠ "npm" := fun hi => he (hi.trans (hc.npm.mp hi).symm)
  have hpypi : i.ecosystem ≠ "pypi" := fun hi => he (hi.trans (hc.pypi.mp hi).symm)
  refine ⟨h.systemFor _, fun system hs => .inl (h.coordinates fun hscope => ?_), ?_,
    fun hi => absurd hi hnpm, ?_, fun hi => absurd hi hpypi⟩
  · exact Identity.separator_eq_iff.mpr (hc.maven (by rw [hs]; rfl) hscope)
  · rw [Bool.eq_iff_iff, beq_iff_eq, beq_iff_eq]
    exact hc.npm
  · rw [Bool.eq_iff_iff, beq_iff_eq, beq_iff_eq]
    exact hc.pypi

/-! ## What differs where they do not agree -/

theorem CanBeAsked.length_depsDev (h : s.CanBeAsked i) : (s.depsDev.opening i).length =
    if (s.systems.systemFor i.ecosystem).isSome then 1 else 0 := by
  have hsystems : s.depsDev.systems = s.systems := rfl
  unfold DepsDev.Client.opening
  rw [hsystems]
  cases hs : s.systems.systemFor i.ecosystem with
  | none => rfl
  | some system =>
    obtain ⟨u, -, hopening⟩ := Service.opening_of_asks (h.depsDev system hs)
    simp [hopening]

theorem CanBeAsked.length_npm (h : s.CanBeAsked i) :
    (npmOpening i).length = if i.ecosystem = "npm" then 1 else 0 := by
  unfold npmOpening
  by_cases hi : i.ecosystem = "npm"
  · obtain ⟨u, -, hopening⟩ := Service.opening_of_asks (h.npm hi)
    rw [if_pos (beq_iff_eq.mpr hi), if_pos hi, hopening]
    rfl
  · rw [if_neg (by simpa using hi), if_neg hi]
    rfl

theorem CanBeAsked.length_pypi (h : s.CanBeAsked i) :
    (pypiOpening i).length = if i.ecosystem = "pypi" then 1 else 0 := by
  unfold pypiOpening
  by_cases hi : i.ecosystem = "pypi"
  · obtain ⟨u, -, hopening⟩ := Service.opening_of_asks (h.pypi hi)
    rw [if_pos (beq_iff_eq.mpr hi), if_pos hi, hopening]
    rfl
  · rw [if_neg (by simpa using hi), if_neg hi]
    rfl

/-- A registry is asked about both of two packages or about neither. -/
theorem SameSignals.registries (h : i.DifferInCase j) (hi : s.CanBeAsked i) (hj : s.CanBeAsked j)
    (hsame : s.SameSignals i j) :
    (i.ecosystem = "npm" ↔ j.ecosystem = "npm") ∧ (i.ecosystem = "pypi" ↔ j.ecosystem = "pypi") := by
  have hcount := congrArg List.length hsame.openings
  simp only [List.length_append, hi.length_depsDev, hj.length_depsDev, hi.length_npm,
    hj.length_npm, hi.length_pypi, hj.length_pypi, h.systemFor] at hcount
  -- At most one of the two registries knows packages of a name in any case.
  have hnot : ¬ (i.ecosystem = "npm" ∧ j.ecosystem = "pypi") := fun ⟨h₁, h₂⟩ =>
    h.ecosystem_ne h₁ (by decide) h₂
  have hnot' : ¬ (i.ecosystem = "pypi" ∧ j.ecosystem = "npm") := fun ⟨h₁, h₂⟩ =>
    h.ecosystem_ne h₁ (by decide) h₂
  by_cases h₁ : i.ecosystem = "npm" <;> by_cases h₂ : j.ecosystem = "npm" <;>
    by_cases h₃ : i.ecosystem = "pypi" <;> by_cases h₄ : j.ecosystem = "pypi" <;> simp_all

/-- Coordinates that are joined with different marks are encoded differently. -/
theorem encode_coordinates {x : String} (hscope : Identity.nonempty? i.scope = some x) :
    (Url.encodeSegment i.coordinates).toList = (Url.encodeSegment x).toList ++
      (Url.encodeSegment i.separator).toList ++ (Url.encodeSegment i.name).toList := by
  unfold Identity.coordinates
  rw [hscope, Url.encodeSegment_append, Url.encodeSegment_append]

theorem encode_separator (i : Identity) :
    (Url.encodeSegment i.separator).toList = "%3A".toList ∧ i.separator = ":" ∨
      (Url.encodeSegment i.separator).toList = "%2F".toList ∧ i.separator = "/" := by
  unfold Identity.separator
  split
  · exact .inl ⟨by decide, rfl⟩
  · exact .inr ⟨by decide, rfl⟩

/-- deps.dev is not asked about one of two packages what it is asked about the
other, if their names are joined differently. -/
theorem SameSignals.separator {u₀ : Url} (hb : DepsDev.service.Base s.depsDev.root u₀)
    (h : i.DifferInCase j) (hi : s.CanBeAsked i) (hj : s.CanBeAsked j) (hsame : s.SameSignals i j)
    {system x : String} (hs : s.systems.systemFor i.ecosystem = some system)
    (hscope : Identity.nonempty? i.scope = some x) : i.separator = j.separator := by
  have hs' : s.systems.systemFor j.ecosystem = some system := h.systemFor s.systems ▸ hs
  have hscope' : Identity.nonempty? j.scope = some x := h.scope ▸ hscope
  obtain ⟨u, hu, hopening⟩ := Service.opening_of_asks (hi.depsDev system hs)
  obtain ⟨u', hu', hopening'⟩ := Service.opening_of_asks (hj.depsDev system hs')
  have hsystems : s.depsDev.systems = s.systems := rfl
  have hrequest : DepsDev.service.request u = DepsDev.service.request u' := by
    have hopenings := hsame.openings
    unfold DepsDev.Client.opening at hopenings
    rw [hsystems, hs, hs'] at hopenings
    dsimp only at hopenings
    rw [hopening, hopening'] at hopenings
    exact (List.cons.inj hopenings).1
  have hname := encode_coordinates (i := i) hscope
  have hname' := encode_coordinates (i := j) hscope'
  rw [← h.name] at hname'
  by_contra hne
  refine DepsDev.Client.request_ne hb hu hu' ?_ ?_ (fun he => ?_) hrequest
  · rw [hname]
    rcases encode_separator i with ⟨hm, -⟩ | ⟨hm, -⟩ <;> simp [hm]
  · rw [hname']
    rcases encode_separator j with ⟨hm, -⟩ | ⟨hm, -⟩ <;> simp [hm]
  · rw [he, hname', List.append_assoc, List.append_assoc, List.append_cancel_left_eq,
      List.append_cancel_right_eq] at hname
    rcases encode_separator i with ⟨hm, hi'⟩ | ⟨hm, hi'⟩ <;>
      rcases encode_separator j with ⟨hm', hj'⟩ | ⟨hm', hj'⟩
    · exact hne (hi'.trans hj'.symm)
    · rw [hm, hm'] at hname
      exact absurd hname (by decide)
    · rw [hm, hm'] at hname
      exact absurd hname (by decide)
    · exact hne (hi'.trans hj'.symm)

/-- **Packages that differ in the case of their ecosystems look alike where the
comparisons that know lower case only agree on them**, and nowhere else, if
they can be asked about. -/
theorem sameSignals_of_case (h : i.DifferInCase j) :
    (s.ComparesAlike i j → s.SameSignals i j) ∧
      ∀ u₀, DepsDev.service.Base s.depsDev.root u₀ → s.CanBeAsked i → s.CanBeAsked j →
        s.SameSignals i j → s.ComparesAlike i j := by
  refine ⟨fun hc => (hc.likens h).sameSignals h.version, fun u₀ hb hi hj hsame => ?_⟩
  obtain ⟨hnpm, hpypi⟩ := hsame.registries h hi hj
  refine ⟨hnpm, hpypi, fun hsystem hscope => ?_⟩
  obtain ⟨system, hs⟩ := Option.isSome_iff_exists.mp hsystem
  obtain ⟨x, hx⟩ := Option.isSome_iff_exists.mp hscope
  exact Identity.separator_eq_iff.mp (hsame.separator hb h hi hj hs hx)

theorem canBeAsked_of_maven (ecosystem : String) (h : ecosystem = "maven" ∨ ecosystem = "Maven") :
    ({} : Settings).CanBeAsked ⟨ecosystem, "y", some "org.x", none⟩ := by
  have hsystem : ({} : Settings).systems.systemFor ecosystem = some "MAVEN" := by
    rcases h with rfl | rfl <;> decide +kernel
  obtain ⟨u, hb⟩ := base_depsDev (s := {}) rfl
  refine ⟨fun system hs => ?_, fun he => ?_, fun he => ?_⟩
  · obtain rfl : "MAVEN" = system := Option.some.inj (hsystem.symm.trans hs)
    refine hb.asks ((DepsDev.Client.below_packageUrl _ _ _ (by decide)) : Below _ _) ?_
    rcases h with rfl | rfl <;> decide +kernel
  · rcases h with rfl | rfl <;> exact absurd he (by decide)
  · rcases h with rfl | rfl <;> exact absurd he (by decide)

/-- A package of NuGet looks alike in any case, and one of Maven does not. -/
theorem sameSignals_of_case_maven :
    ({} : Settings).SameSignals ⟨"nuget", "y", some "x", none⟩ ⟨"NuGet", "y", some "x", none⟩ ∧
      ¬ ({} : Settings).SameSignals ⟨"maven", "y", some "org.x", none⟩
        ⟨"Maven", "y", some "org.x", none⟩ := by
  have hnuget : Identity.DifferInCase ⟨"nuget", "y", some "x", none⟩ ⟨"NuGet", "y", some "x", none⟩ :=
    ⟨by decide, rfl, rfl, rfl⟩
  have hmaven : Identity.DifferInCase ⟨"maven", "y", some "org.x", none⟩
      ⟨"Maven", "y", some "org.x", none⟩ :=
    ⟨by decide, rfl, rfl, rfl⟩
  refine ⟨(sameSignals_of_case hnuget).1 ⟨by decide, by decide, fun _ _ => by decide⟩,
    fun hsame => ?_⟩
  obtain ⟨u, hb⟩ := base_depsDev (s := {}) rfl
  have hcompared := (sameSignals_of_case hmaven).2 u hb (canBeAsked_of_maven _ (.inl rfl))
    (canBeAsked_of_maven _ (.inr rfl)) hsame
  exact absurd (hcompared.maven (by decide +kernel) (by decide)) (by decide)

end Settings

end PackageVitals
