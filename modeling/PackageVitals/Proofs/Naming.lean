import PackageVitals.Proofs.Casing
import PackageVitals.Proofs.Lowering

/-!
# The normal form of a package name

PyPI takes names for the same that differ in the case of their letters or in how the runs of
separators in them are spelled (`PyPi.Respelled`). The normal form of a name stands for all of
these: it is in lower case and each run in it is **one dash** (`PyPi.IsJoined`). What has that form
already is left alone, so the form is its own form, and names that are the same have one form, so
that PyPI is asked the same about them (`PyPi.normalizeName_canonical`).

Runs are joined first and the result is written in lower case, and the lower case of arbitrary
text depends on what stands around a letter. It does not spoil the joining, since the lower case
of anything but a separator is not empty and has no separator in it
(`PyPi.isSeparator_of_mem_lowerChar`); and as two names that are the same differ after the joining
in the case of ASCII letters only, nothing that stands around a letter is told apart there.
-/

namespace PackageVitals

namespace PyPi

open Text (lower lowerAfter lowerChar lowerShifts)

/-! ## Separators in lower case -/

/-- Every shift to lower case ends beyond the separators. -/
theorem underscore_lt_of_mem_lowerShifts :
    ∀ s ∈ lowerShifts, 95 < (s.first : Int) + s.distance := by
  decide +kernel

theorem isSeparator_of_lt {c : Char} (h : 95 < c.toNat) : isSeparator c = false := by
  simp only [isSeparator, Bool.or_eq_false_iff, beq_eq_false_iff_ne]
  refine ⟨⟨?_, ?_⟩, ?_⟩ <;>
  · rintro rfl
    exact absurd h (by decide)

theorem isSeparator_toLower (c : Char) : isSeparator c.toLower = isSeparator c :=
  Text.toLower_congr (by decide) c

/-- **Lower case turns nothing into a separator.** -/
theorem isSeparator_of_mem_lowerChar {c d : Char} (h : d ∈ lowerChar c)
    (hc : isSeparator c = false) : isSeparator d = false := by
  unfold lowerChar at h
  split at h
  · obtain rfl := List.mem_singleton.mp h
    rwa [isSeparator_toLower]
  · split at h
    · have hboth : ∀ d ∈ ['i', '\u0307'], isSeparator d = false :=
        List.forall_mem_cons.mpr ⟨rfl, List.forall_mem_singleton.mpr rfl⟩
      exact hboth d h
    · obtain rfl := List.mem_singleton.mp h
      rcases Text.move_lowerShifts_cases c with ⟨s, hs, hcover, hto⟩ | ⟨-, hstay⟩
      · have hend := underscore_lt_of_mem_lowerShifts s hs
        simp only [Text.CaseShift.covers, Bool.and_eq_true, decide_eq_true_eq] at hcover
        exact isSeparator_of_lt (by omega)
      · rwa [hstay]

/-! ## Joined runs -/

/-- **Whether the runs in a text are joined**: every separator is a dash, and none follows another,
nor comes first if the text goes on a run. -/
inductive IsJoined : Bool → List Char → Prop
  | nil {inside : Bool} : IsJoined inside []
  | dash {rest : List Char} : IsJoined true rest → IsJoined false ('-' :: rest)
  | word {inside : Bool} {c : Char} {rest : List Char} : isSeparator c = false →
      IsJoined false rest → IsJoined inside (c :: rest)

theorem isJoined_joinRuns (inside : Bool) (s : List Char) : IsJoined inside (joinRuns inside s) := by
  induction s generalizing inside with
  | nil => exact .nil
  | cons c rest ih =>
    unfold joinRuns
    split
    · cases inside with
      | true => exact ih true
      | false => exact .dash (ih true)
    · next hc => exact .word (by simpa using hc) (ih false)

/-- Where runs are joined nothing is left to join. -/
theorem IsJoined.joinRuns_eq {inside : Bool} {s : List Char} (h : IsJoined inside s) :
    joinRuns inside s = s := by
  induction h with
  | nil => rfl
  | dash _ ih => exact congrArg ('-' :: ·) ih
  | word hc _ ih => rw [joinRuns, hc, if_neg Bool.false_ne_true, ih]

/-- Something without separators may come first. -/
theorem IsJoined.append {inside : Bool} {here rest : List Char} (hne : here ≠ [])
    (hhere : ∀ d ∈ here, isSeparator d = false) (h : IsJoined false rest) :
    IsJoined inside (here ++ rest) := by
  induction here generalizing inside with
  | nil => contradiction
  | cons d here ih =>
    obtain ⟨hd, hhere⟩ := List.forall_mem_cons.mp hhere
    cases here with
    | nil => exact .word hd h
    | cons e here => exact .word hd (ih (List.cons_ne_nil e here) hhere)

/-- **Runs that are joined are joined in lower case.** -/
theorem IsJoined.lowerAfter {inside : Bool} {s : List Char} (h : IsJoined inside s)
    (before : List Char) : IsJoined inside (lowerAfter before s) := by
  induction h generalizing before with
  | nil => exact .nil
  | dash _ ih => exact .dash (ih _)
  | @word _ c rest hc _ ih =>
    obtain ⟨here, hne, hlower, hhere⟩ := Text.exists_lowerAfter_of
      (p := fun d => isSeparator d = false) (by decide)
      (fun d hd => isSeparator_of_mem_lowerChar hd hc) before rest
    rw [hlower]
    exact .append hne hhere (ih _)

/-- There is no separator but the dash. -/
theorem IsJoined.eq_dash {inside : Bool} {s : List Char} (h : IsJoined inside s) {c : Char}
    (hmem : c ∈ s) (hc : isSeparator c = true) : c = '-' := by
  induction h with
  | nil => cases hmem
  | dash _ ih => exact (List.mem_cons.mp hmem).elim id ih
  | word hd _ ih =>
    rcases List.mem_cons.mp hmem with rfl | hmem
    · rw [hd] at hc
      cases hc
    · exact ih hmem

/-- There are no two dashes side by side. -/
theorem IsJoined.not_infix {inside : Bool} {s : List Char} (h : IsJoined inside s) :
    ¬ ['-', '-'] <:+: s := by
  induction h with
  | nil => simp
  | @dash rest hrest ih =>
    rw [List.infix_cons_iff]
    rintro (hstart | hinfix)
    · obtain ⟨tail, htail⟩ := hstart
      obtain rfl := (List.cons.inj htail).2
      cases hrest with
      | word hc => exact absurd hc (by decide)
    · exact ih hinfix
  | @word _ c rest hc _ ih =>
    rw [List.infix_cons_iff]
    rintro (⟨tail, htail⟩ | hinfix)
    · obtain rfl := (List.cons.inj htail).1
      exact absurd hc (by decide)
    · exact ih hinfix

theorem isJoined_normalChars (s : List Char) : IsJoined false (normalChars s) :=
  (isJoined_joinRuns false s).lowerAfter []

/-- **The normal form is its own normal form.** -/
theorem normalChars_normalChars (s : List Char) : normalChars (normalChars s) = normalChars s := by
  calc normalChars (normalChars s)
      = lower (normalChars s) := congrArg lower (isJoined_normalChars s).joinRuns_eq
    _ = normalChars s := Text.lower_lower _

/-! ## Spellings of a name -/

/-- **Whether a text is another one respelled**: a letter may be in another case, and any run of
separators may stand for any other. -/
inductive Respelled : List Char → List Char → Prop
  | nil : Respelled [] []
  | char {c d : Char} {s t : List Char} : c.toLower = d.toLower → Respelled s t →
      Respelled (c :: s) (d :: t)
  | run {r r' s t : List Char} : r ≠ [] → r' ≠ [] → (∀ c ∈ r, isSeparator c = true) →
      (∀ c ∈ r', isSeparator c = true) → Respelled s t → Respelled (r ++ s) (r' ++ t)

/-- A run is one dash, or none if the text goes on a run. -/
theorem joinRuns_append {inside : Bool} {r : List Char} (hne : r ≠ [])
    (hr : ∀ c ∈ r, isSeparator c = true) (s : List Char) :
    joinRuns inside (r ++ s) = (if inside then [] else ['-']) ++ joinRuns true s := by
  induction r generalizing inside with
  | nil => contradiction
  | cons c r ih =>
    obtain ⟨hc, hr⟩ := List.forall_mem_cons.mp hr
    have hrest : joinRuns true (r ++ s) = joinRuns true s := by
      cases r with
      | nil => rfl
      | cons d r => exact ih (List.cons_ne_nil d r) hr
    rw [List.cons_append, joinRuns, if_pos hc, hrest]
    cases inside <;> rfl

/-- **Names that are the same differ in case only**, once their runs are joined. -/
theorem Respelled.map_joinRuns {s t : List Char} (h : Respelled s t) (inside : Bool) :
    (joinRuns inside s).map Char.toLower = (joinRuns inside t).map Char.toLower := by
  induction h generalizing inside with
  | nil => rfl
  | @char c d s t hcd _ ih =>
    have hsame : isSeparator c = isSeparator d := by
      rw [← isSeparator_toLower, hcd, isSeparator_toLower]
    rw [joinRuns, joinRuns, hsame]
    split
    · cases inside with
      | true => exact ih true
      | false => exact congrArg ('-' :: ·) (ih true)
    · rw [List.map_cons, List.map_cons, hcd, ih false]
  | run hr hr' hseparators hseparators' _ ih =>
    rw [joinRuns_append hr hseparators, joinRuns_append hr' hseparators', List.map_append,
      List.map_append, ih true]

/-- **Names that are the same have one normal form.** -/
theorem Respelled.normalChars_eq {s t : List Char} (h : Respelled s t) :
    normalChars s = normalChars t := by
  unfold normalChars
  rw [← Text.lower_map_toLower, h.map_joinRuns, Text.lower_map_toLower]

/-- To join the runs of a name is to respell it. -/
theorem respelled_joinRuns (s : List Char) : Respelled s (joinRuns false s) ∧
    ∀ r ≠ [], (∀ c ∈ r, isSeparator c = true) → Respelled (r ++ s) ('-' :: joinRuns true s) := by
  have hdash : ∀ c ∈ ['-'], isSeparator c = true := List.forall_mem_singleton.mpr rfl
  induction s with
  | nil => exact ⟨.nil, fun r hne hr => .run hne (List.cons_ne_nil _ _) hr hdash .nil⟩
  | cons c rest ih =>
    obtain ⟨hword, hrun⟩ := ih
    by_cases hc : isSeparator c = true
    · have hjoin (inside : Bool) : joinRuns inside (c :: rest) =
          if inside then joinRuns true rest else '-' :: joinRuns true rest := by
        rw [joinRuns, if_pos hc]
      have hfirst : ∀ d ∈ [c], isSeparator d = true := List.forall_mem_singleton.mpr hc
      refine ⟨?_, fun r hne hr => ?_⟩
      · exact hjoin false ▸ hrun [c] (List.cons_ne_nil _ _) hfirst
      · -- The run goes on.
        rw [hjoin true, if_pos rfl, ← List.singleton_append, ← List.append_assoc]
        exact hrun (r ++ [c]) (by simp) (List.forall_mem_append.mpr ⟨hr, hfirst⟩)
    · have hjoin (inside : Bool) : joinRuns inside (c :: rest) = c :: joinRuns false rest := by
        rw [joinRuns, if_neg hc]
      rw [hjoin, hjoin]
      exact ⟨.char rfl hword,
        fun r hne hr => .run hne (List.cons_ne_nil _ _) hr hdash (.char rfl hword)⟩

/-! ## Questions about a name -/

/-- **PyPI is asked for the document of a package and nothing else**, in every world. -/
theorem requests_find (w : World σ) (root : String) (i : Identity) (s : σ) :
    (w.run (find root i).attempt s).requests = service.opening (packageUrl root i) := by
  show (w.run (service.fetchJson (packageUrl root i) none pure >>= _).attempt s).requests = _
  rw [World.requests_bind, service.requests_fetchJson]
  -- What is made of the document asks nothing.
  cases (w.run (service.fetchJson (packageUrl root i) none pure).attempt s).value with
  | error f => exact List.append_nil _
  | ok document =>
    refine (congrArg _ ?_).trans (List.append_nil _)
    rcases document with _ | _ | _ | _ | _ | _ | _ | members
    case some.obj =>
      show (w.run (Action.ofExcept (keyIn (.obj members)) >>= _).attempt _).requests = []
      rcases keyIn (.obj members) with f | _ | key <;> rfl
    all_goals rfl

/-- **The normal form of a name is canonical.** It is its own normal form, has neither underscores
nor dots nor two dashes side by side, and is the lower case of a respelling of the name. Names
that are respellings of each other have one normal form, so that packages of these names are
asked for at one address, by the same requests in every world. -/
theorem normalizeName_canonical (name : String) :
    normalizeName (normalizeName name) = normalizeName name ∧
      ('_' ∉ (normalizeName name).toList ∧ '.' ∉ (normalizeName name).toList ∧
        ¬ ['-', '-'] <:+: (normalizeName name).toList) ∧
      (∃ name' : String, Respelled name.toList name'.toList ∧
        normalizeName name = Text.lowerCase name') ∧
      ∀ name' : String, Respelled name.toList name'.toList →
        normalizeName name = normalizeName name' ∧
          ∀ (root : String) (i j : Identity), i.name = name → j.name = name' →
            packageUrl root i = packageUrl root j ∧
              ∀ {σ τ : Type} (w : World σ) (w' : World τ) (s : σ) (t : τ),
                (w.run (find root i).attempt s).requests =
                  (w'.run (find root j).attempt t).requests := by
  have hchars : (normalizeName name).toList = normalChars name.toList := String.toList_ofList
  have hjoined := isJoined_normalChars name.toList
  refine ⟨?_, ?_, ?_, fun name' h => ?_⟩
  · rw [normalizeName, hchars, normalChars_normalChars, normalizeName]
  · rw [hchars]
    refine ⟨fun hmem => ?_, fun hmem => ?_, hjoined.not_infix⟩
    · exact absurd (hjoined.eq_dash hmem (by decide)) (by decide)
    · exact absurd (hjoined.eq_dash hmem (by decide)) (by decide)
  · refine ⟨String.ofList (joinRuns false name.toList), ?_, ?_⟩
    · rw [String.toList_ofList]
      exact (respelled_joinRuns name.toList).1
    · rw [normalizeName, normalChars, Text.lowerCase, String.toList_ofList]
  · have hsame : normalizeName name = normalizeName name' :=
      congrArg String.ofList h.normalChars_eq
    refine ⟨hsame, ?_⟩
    rintro root i j rfl rfl
    have hurl : packageUrl root i = packageUrl root j := by rw [packageUrl, packageUrl, hsame]
    exact ⟨hurl, fun w w' s t => by rw [requests_find, requests_find, hurl]⟩

/-- A name whose sigma ends a word only once its run is joined, and another spelling of it. -/
theorem normalizeName_canonical_sigma :
    Respelled "AΣ._b".toList "aΣ-B".toList ∧ normalizeName "AΣ._b" = "aς-b" ∧
      normalizeName "aΣ-B" = "aς-b" ∧ normalizeName "aς-b" = "aς-b" ∧
        packageUrl standardRoot ⟨"pypi", "AΣ._b", none, none⟩ =
          packageUrl standardRoot ⟨"pypi", "aΣ-B", none, none⟩ := by
  have hform : normalizeName "AΣ._b" = "aς-b" := by decide +kernel
  have hsame : Respelled "AΣ._b".toList "aΣ-B".toList :=
    .char rfl (.char rfl (@Respelled.run ['.', '_'] ['-'] ['b'] ['B'] (List.cons_ne_nil _ _)
      (List.cons_ne_nil _ _) (List.forall_mem_cons.mpr ⟨rfl, List.forall_mem_singleton.mpr rfl⟩)
      (List.forall_mem_singleton.mpr rfl) (.char rfl .nil)))
  obtain ⟨hagain, -, -, hnames⟩ := normalizeName_canonical "AΣ._b"
  obtain ⟨hform', hasked⟩ := hnames "aΣ-B" hsame
  rw [hform] at hagain hform'
  exact ⟨hsame, hform, hform'.symm, hagain, (hasked _ _ _ rfl rfl).1⟩

end PyPi

end PackageVitals
