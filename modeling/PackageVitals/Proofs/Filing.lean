import PackageVitals.DepsDev.Client

/-!
# What a system map says

A system map is written in pieces, and what it says can be read off them one by one. A piece of
nothing but blanks says nothing. Any other **files** an ecosystem under a system
(`SystemMap.Files`), or else it is malformed (`SystemMap.Malformed`); which of the three it is
hangs on the text before its first equals sign and the text after it, and it makes no
difference that the piece loses the blanks around it before it is looked at.

So a map is refused if and only if a piece is malformed, and the first one that is stands in the
refusal. Otherwise an ecosystem is found, in whatever case it is written, under the system of the
**last** piece that files it (`SystemMap.parse_says_last`).
-/

namespace PackageVitals

namespace SystemMap

open Text (trim lower upper lowerCase splitAll splitFirst isBlank)

/-! ## Pieces -/

/-- Whether a text is nothing but blanks. -/
def IsBlank (s : List Char) : Prop :=
  ∀ c ∈ s, isBlank c = true

instance (s : List Char) : Decidable (IsBlank s) :=
  inferInstanceAs (Decidable (∀ c ∈ s, isBlank c = true))

/-- **Whether a piece files an ecosystem under a system**: the ecosystem stands before its first
equals sign and is filed in lower case, the system after it and is written in upper case. -/
inductive Files : List Char → String → String → Prop
  | pair {left right : List Char} : '=' ∉ left → ¬ IsBlank left → ¬ IsBlank right →
      Files (left ++ '=' :: right) (String.ofList (lower (trim left)))
        (String.ofList (upper (trim right)))

/-- **Whether a piece is malformed**: it says something, but it has no equals sign, or nothing
before the first one, or nothing after it. -/
inductive Malformed : List Char → Prop
  | unmarked {piece : List Char} : ¬ IsBlank piece → '=' ∉ piece → Malformed piece
  | nothingBefore {left right : List Char} : '=' ∉ left → IsBlank left →
      Malformed (left ++ '=' :: right)
  | nothingAfter {left right : List Char} : '=' ∉ left → IsBlank right →
      Malformed (left ++ '=' :: right)

theorem trim_eq_nil_iff {s : List Char} : trim s = [] ↔ IsBlank s :=
  Text.trimBy_eq_nil_iff

/-- A piece with an equals sign in it is not blank. -/
theorem not_isBlank_of_mark (left right : List Char) : ¬ IsBlank (left ++ '=' :: right) := fun h =>
  absurd (h '=' (by simp)) (by decide)

/-- What is left of a piece is cut at the same equals sign, into texts that are the same when
they are trimmed in turn. -/
theorem exists_trim_mark (left right : List Char) (h : '=' ∉ left) : ∃ left' right',
    trim (left ++ '=' :: right) = left' ++ '=' :: right' ∧ '=' ∉ left' ∧
      trim left' = trim left ∧ trim right' = trim right := by
  have hmark : isBlank '=' = false := by decide
  obtain ⟨kept, after, -, hright, hafter, hkept⟩ := Text.exists_trimEnd isBlank right
  have hleft := List.takeWhile_append_dropWhile (p := isBlank) (l := left)
  have hbefore : ∀ c ∈ left.takeWhile isBlank, isBlank c = true :=
    List.all_eq_true.mp List.all_takeWhile
  refine ⟨left.dropWhile isBlank, kept, ?_, fun hmem => h (List.dropWhile_subset _ hmem), ?_, ?_⟩
  · have hcut : left ++ '=' :: right =
        left.takeWhile isBlank ++ ((left.dropWhile isBlank ++ '=' :: kept) ++ after) := by
      rw [hright, ← List.append_assoc, ← List.append_assoc, hleft, List.append_assoc]
      rfl
    rw [hcut]
    refine Text.trimBy_append hbefore hafter (fun c hc => ?_) fun c hc => ?_
    · cases hd : left.dropWhile isBlank with
      | nil =>
        rw [hd] at hc
        exact Option.some.inj hc ▸ hmark
      | cons d rest =>
        rw [hd] at hc
        exact Text.head?_dropWhile_eq_false (s := left) (by rw [hd]; exact hc)
    · rw [List.getLast?_append, List.getLast?_cons, Option.some_or] at hc
      cases hk : kept.getLast? with
      | none =>
        rw [hk] at hc
        exact Option.some.inj hc ▸ hmark
      | some d =>
        rw [hk] at hc
        exact hkept c (hk.trans hc)
  · conv => rhs; rw [← hleft]
    exact (Text.trimBy_append_left hbefore _).symm
  · rw [hright]
    exact (Text.trimBy_append_right hafter _).symm

/-- What a piece with an equals sign in it is read as. -/
theorem pair?_trim_mark {left right : List Char} (h : '=' ∉ left) :
    pair? (trim (left ++ '=' :: right)) =
      if IsBlank left ∨ IsBlank right then none
      else some (String.ofList (lower (trim left)), String.ofList (upper (trim right))) := by
  obtain ⟨left', right', hcut, hnot, hleft, hright⟩ := exists_trim_mark left right h
  rw [hcut, pair?, Text.splitFirst_append_cons hnot]
  dsimp only
  rw [hleft, hright]
  simp only [Bool.or_eq_true, List.isEmpty_iff, trim_eq_nil_iff]

theorem pair?_trim_of_not_mem {piece : List Char} (h : '=' ∉ piece) :
    pair? (trim piece) = none := by
  obtain ⟨before, after, hpiece, -⟩ := Text.exists_trimBy isBlank piece
  have hnot : '=' ∉ trim piece := fun hmem => h <| hpiece ▸
    List.mem_append_right before (List.mem_append_left after hmem)
  rw [pair?, Text.splitFirst_of_not_mem hnot]

/-- A piece is read as the pair that it files. -/
theorem pair?_trim_eq_some_iff {piece : List Char} {ecosystem system : String} :
    pair? (trim piece) = some (ecosystem, system) ↔ Files piece ecosystem system := by
  constructor
  · intro h
    by_cases hmem : '=' ∈ piece
    · obtain ⟨left, right, rfl, hnot⟩ := List.eq_append_cons_of_mem hmem
      rw [pair?_trim_mark hnot] at h
      split at h
      · cases h
      · next hblank =>
        obtain ⟨rfl, rfl⟩ := Prod.mk.inj (Option.some.inj h)
        exact .pair hnot (fun hl => hblank (.inl hl)) fun hr => hblank (.inr hr)
    · rw [pair?_trim_of_not_mem hmem] at h
      cases h
  · rintro ⟨hnot, hl, hr⟩
    rw [pair?_trim_mark hnot, if_neg (not_or.mpr ⟨hl, hr⟩)]

/-- A piece that says something and is read as nothing is malformed. -/
theorem pair?_trim_eq_none_iff {piece : List Char} (h : ¬ IsBlank piece) :
    pair? (trim piece) = none ↔ Malformed piece := by
  constructor
  · intro hnone
    by_cases hmem : '=' ∈ piece
    · obtain ⟨left, right, rfl, hnot⟩ := List.eq_append_cons_of_mem hmem
      rw [pair?_trim_mark hnot] at hnone
      split at hnone
      · next hblank => exact hblank.elim (.nothingBefore hnot) (.nothingAfter hnot)
      · cases hnone
    · exact .unmarked h hmem
  · intro hbad
    cases hbad with
    | unmarked _ hnot => exact pair?_trim_of_not_mem hnot
    | nothingBefore hnot hl => rw [pair?_trim_mark hnot, if_pos (.inl hl)]
    | nothingAfter hnot hr => rw [pair?_trim_mark hnot, if_pos (.inr hr)]

/-- A piece files one ecosystem under one system. -/
theorem Files.unique {piece : List Char} {k k' v v' : String} (h : Files piece k v)
    (h' : Files piece k' v') : k = k' ∧ v = v' :=
  Prod.mk.inj (Option.some.inj
    ((pair?_trim_eq_some_iff.mpr h).symm.trans (pair?_trim_eq_some_iff.mpr h')))

theorem Files.not_isBlank {piece : List Char} {k v : String} (h : Files piece k v) :
    ¬ IsBlank piece := by
  cases h with
  | pair => exact not_isBlank_of_mark _ _

theorem Malformed.not_isBlank {piece : List Char} (h : Malformed piece) : ¬ IsBlank piece := by
  cases h with
  | unmarked hblank => exact hblank
  | nothingBefore => exact not_isBlank_of_mark _ _
  | nothingAfter => exact not_isBlank_of_mark _ _

/-- What files something is not malformed. -/
theorem Files.not_malformed {piece : List Char} {k v : String} (h : Files piece k v) :
    ¬ Malformed piece := fun hbad =>
  nomatch (pair?_trim_eq_some_iff.mpr h).symm.trans
    ((pair?_trim_eq_none_iff h.not_isBlank).mpr hbad)

/-! ## Maps -/

/-- **What a piece does to a map**: nothing if it is blank, and else it adds what it files, or
it is malformed and ends the reading. -/
theorem addAll_cons (m : SystemMap) (piece : List Char) (rest : List (List Char)) :
    IsBlank piece ∧ addAll m (piece :: rest) = addAll m rest ∨
    (∃ k v, Files piece k v ∧ addAll m (piece :: rest) = addAll (insert k v m) rest) ∨
    Malformed piece ∧
      addAll m (piece :: rest) = .error (.badMapping (String.ofList (trim piece))) := by
  by_cases hblank : IsBlank piece
  · refine .inl ⟨hblank, ?_⟩
    rw [addAll, trim_eq_nil_iff.mpr hblank]
    rfl
  · have hne : (trim piece).isEmpty = false := by
      rw [List.isEmpty_eq_false_iff]
      exact fun h => hblank (trim_eq_nil_iff.mp h)
    rw [addAll]
    simp only [hne, Bool.false_eq_true, ↓reduceIte]
    cases hpair : pair? (trim piece) with
    | none => exact .inr (.inr ⟨(pair?_trim_eq_none_iff hblank).mp hpair, rfl⟩)
    | some p => exact .inr (.inl ⟨p.1, p.2, pair?_trim_eq_some_iff.mp hpair, rfl⟩)

/-- **Whether a piece is the first one that is malformed.** -/
def FirstMalformed (pieces : List (List Char)) (piece : List Char) : Prop :=
  ∃ before after, pieces = before ++ piece :: after ∧ (∀ q ∈ before, ¬ Malformed q) ∧
    Malformed piece

theorem firstMalformed_cons {q piece : List Char} {rest : List (List Char)} :
    FirstMalformed (q :: rest) piece ↔
      Malformed q ∧ piece = q ∨ ¬ Malformed q ∧ FirstMalformed rest piece := by
  constructor
  · rintro ⟨before, after, hsplit, hbefore, hbad⟩
    cases before with
    | nil =>
      obtain ⟨rfl, -⟩ := List.cons.inj hsplit
      exact .inl ⟨hbad, rfl⟩
    | cons p before =>
      obtain ⟨rfl, hrest⟩ := List.cons.inj hsplit
      obtain ⟨hq, hbefore⟩ := List.forall_mem_cons.mp hbefore
      exact .inr ⟨hq, before, after, hrest, hbefore, hbad⟩
  · rintro (⟨hbad, rfl⟩ | ⟨hq, before, after, rfl, hbefore, hbad⟩)
    · exact ⟨[], rest, rfl, nofun, hbad⟩
    · exact ⟨q :: before, after, rfl, List.forall_mem_cons.mpr ⟨hq, hbefore⟩, hbad⟩

/-- Of the malformed pieces one is the first. -/
theorem exists_firstMalformed_iff {pieces : List (List Char)} :
    (∃ piece, FirstMalformed pieces piece) ↔ ∃ piece ∈ pieces, Malformed piece := by
  constructor
  · rintro ⟨piece, before, after, rfl, -, hbad⟩
    exact ⟨piece, by simp, hbad⟩
  · induction pieces with
    | nil => exact fun ⟨_, hmem, _⟩ => nomatch hmem
    | cons q rest ih =>
      rintro ⟨piece, hmem, hbad⟩
      simp only [firstMalformed_cons]
      by_cases hq : Malformed q
      · exact ⟨q, .inl ⟨hq, rfl⟩⟩
      · rcases List.mem_cons.mp hmem with rfl | hmem
        · exact absurd hbad hq
        · obtain ⟨first, hfirst⟩ := ih ⟨piece, hmem, hbad⟩
          exact ⟨first, .inr ⟨hq, hfirst⟩⟩

/-- **Reading ends at the first malformed piece**, and at no other. -/
theorem addAll_eq_error_iff {m : SystemMap} {pieces : List (List Char)} {p : ConfigProblem} :
    addAll m pieces = .error p ↔ ∃ piece, FirstMalformed pieces piece ∧
      p = .badMapping (String.ofList (trim piece)) := by
  induction pieces generalizing m with
  | nil =>
    refine iff_of_false nofun ?_
    rintro ⟨piece, ⟨before, after, hsplit, -⟩, -⟩
    simp at hsplit
  | cons q rest ih =>
    simp only [firstMalformed_cons]
    rcases addAll_cons m q rest with ⟨hblank, h⟩ | ⟨k, v, hfiles, h⟩ | ⟨hbad, h⟩
    · have hq : ¬ Malformed q := fun hbad => hbad.not_isBlank hblank
      simp [h, ih, hq]
    · simp [h, ih, hfiles.not_malformed]
    · simp [h, hbad, eq_comm]

/-- **Whether a piece that files an ecosystem under a system is the last one that files it.** -/
def LastFiles (pieces : List (List Char)) (ecosystem system : String) : Prop :=
  ∃ before piece after, pieces = before ++ piece :: after ∧ Files piece ecosystem system ∧
    ∀ q ∈ after, ∀ v, ¬ Files q ecosystem v

theorem lastFiles_cons {q : List Char} {rest : List (List Char)} {k v : String} :
    LastFiles (q :: rest) k v ↔
      LastFiles rest k v ∨ Files q k v ∧ ∀ p ∈ rest, ∀ v', ¬ Files p k v' := by
  constructor
  · rintro ⟨before, piece, after, hsplit, hfiles, hafter⟩
    cases before with
    | nil =>
      obtain ⟨rfl, rfl⟩ := List.cons.inj hsplit
      exact .inr ⟨hfiles, hafter⟩
    | cons p before => exact .inl ⟨before, piece, after, (List.cons.inj hsplit).2, hfiles, hafter⟩
  · rintro (⟨before, piece, after, rfl, hfiles, hafter⟩ | ⟨hfiles, hrest⟩)
    · exact ⟨q :: before, piece, after, rfl, hfiles, hafter⟩
    · exact ⟨[], q, rest, rfl, hfiles, hrest⟩

/-- Of the pieces that file an ecosystem one is the last. -/
theorem exists_lastFiles_iff {pieces : List (List Char)} {k : String} :
    (∃ v, LastFiles pieces k v) ↔ ∃ piece ∈ pieces, ∃ v, Files piece k v := by
  constructor
  · rintro ⟨v, before, piece, after, rfl, hfiles, -⟩
    exact ⟨piece, by simp, v, hfiles⟩
  · induction pieces with
    | nil => exact fun ⟨_, hmem, _⟩ => nomatch hmem
    | cons q rest ih =>
      rintro ⟨piece, hmem, v, hfiles⟩
      simp only [lastFiles_cons]
      by_cases hrest : ∃ p ∈ rest, ∃ v, Files p k v
      · obtain ⟨v, hv⟩ := ih hrest
        exact ⟨v, .inl hv⟩
      · rcases List.mem_cons.mp hmem with rfl | hmem
        · exact ⟨v, .inr ⟨hfiles, fun p hp v' hv' => hrest ⟨p, hp, v', hv'⟩⟩⟩
        · exact absurd ⟨piece, hmem, v, hfiles⟩ hrest

/-- **A map that was read says of an ecosystem what the last piece says that files it**, and
what it said before where no piece does. -/
theorem find?_of_addAll {m m' : SystemMap} {pieces : List (List Char)}
    (h : addAll m pieces = .ok m') {k v : String} :
    m'.find? k = some v ↔
      LastFiles pieces k v ∨ (∀ p ∈ pieces, ∀ v', ¬ Files p k v') ∧ m.find? k = some v := by
  induction pieces generalizing m with
  | nil =>
    obtain rfl : m = m' := Except.ok.inj h
    simp [LastFiles]
  | cons q rest ih =>
    rw [lastFiles_cons, List.forall_mem_cons]
    rcases addAll_cons m q rest with ⟨hblank, hstep⟩ | ⟨k', v', hfiles, hstep⟩ | ⟨-, hstep⟩
    · have hq (k v : String) : ¬ Files q k v := fun hfiles => hfiles.not_isBlank hblank
      rw [ih (hstep.symm.trans h)]
      simp [hq]
    · rw [ih (hstep.symm.trans h), find?_insert]
      by_cases hk : k' = k
      · subst hk
        have hv : Files q k' v ↔ v' = v := ⟨fun h => (hfiles.unique h).2, fun h => h ▸ hfiles⟩
        have hsome : ¬ ∀ v, ¬ Files q k' v := fun hnone => hnone v' hfiles
        simp only [hv, hsome, ↓reduceIte, Option.some.injEq, false_and, or_false,
          and_comm (a := v' = v)]
      · have hq (v : String) : ¬ Files q k v := fun h => hk (hfiles.unique h).1
        simp [hq, hk]
    · cases hstep.symm.trans h

/-- The pieces of a text: what stands between its commas. -/
def pieces (s : String) : List (List Char) :=
  splitAll ',' s.toList

/-- **A system map says what its last pieces say.** It is refused if and only if one of its
pieces is malformed, with the text of the first one that is. Otherwise an ecosystem in
whatever case is filed, for access at any root, under the system of the last piece that
files it, and under none if no piece does. -/
theorem parse_says_last (s : String) :
    ((∃ p, parse s = .error p) ↔ ∃ piece ∈ pieces s, Malformed piece) ∧
    (∀ p, parse s = .error p ↔ ∃ piece, FirstMalformed (pieces s) piece ∧
      p = .badMapping (String.ofList (trim piece))) ∧
    ∀ m, parse s = .ok m → ∀ (root : Option String) (ecosystem : String),
      (∀ system, (DepsDev.Client.connect root (some m)).systems.systemFor ecosystem = some system ↔
        LastFiles (pieces s) (lowerCase ecosystem) system) ∧
      ((DepsDev.Client.connect root (some m)).systems.systemFor ecosystem = none ↔
        ∀ piece ∈ pieces s, ∀ system, ¬ Files piece (lowerCase ecosystem) system) := by
  have herror (p : ConfigProblem) : parse s = .error p ↔ ∃ piece,
      FirstMalformed (pieces s) piece ∧ p = .badMapping (String.ofList (trim piece)) :=
    addAll_eq_error_iff
  refine ⟨?_, herror, fun m hm root ecosystem => ?_⟩
  · rw [← exists_firstMalformed_iff]
    constructor
    · rintro ⟨p, hp⟩
      obtain ⟨piece, hfirst, -⟩ := (herror p).mp hp
      exact ⟨piece, hfirst⟩
    · rintro ⟨piece, hfirst⟩
      exact ⟨_, (herror _).mpr ⟨piece, hfirst, rfl⟩⟩
  · have hfind (system : String) : m.systemFor ecosystem = some system ↔
        LastFiles (pieces s) (lowerCase ecosystem) system := by
      refine (find?_of_addAll hm).trans (or_iff_left ?_)
      exact fun h => nomatch h.2
    refine ⟨hfind, ?_⟩
    show m.systemFor ecosystem = none ↔ _
    constructor
    · intro hnone piece hmem system hfiles
      obtain ⟨last, hlast⟩ := exists_lastFiles_iff.mpr ⟨piece, hmem, system, hfiles⟩
      exact nomatch hnone.symm.trans ((hfind last).mpr hlast)
    · intro hnot
      refine Option.eq_none_iff_forall_ne_some.mpr fun system hsome => ?_
      obtain ⟨piece, hmem, v, hfiles⟩ := exists_lastFiles_iff.mp ⟨system, (hfind system).mp hsome⟩
      exact hnot piece hmem v hfiles

/-- Of two pieces about npm the last one counts, and an equals sign may stand in a system. -/
theorem parse_says_last_npm : ∃ m, parse "npm=NPM, Npm = a=b" = .ok m ∧
    (DepsDev.Client.connect none (some m)).systems.systemFor "NPM" = some "A=B" := by
  obtain ⟨-, -, hread⟩ := parse_says_last "npm=NPM, Npm = a=b"
  have hfiles : Files " Npm = a=b".toList "npm" "A=B" := pair?_trim_eq_some_iff.mp (by decide)
  have hparse : parse "npm=NPM, Npm = a=b" = .ok [("npm", "A=B")] := by rfl
  refine ⟨_, hparse, ((hread _ hparse none "NPM").1 "A=B").mpr ?_⟩
  have hlower : lowerCase "NPM" = "npm" := by decide
  rw [hlower]
  exact ⟨["npm=NPM".toList], " Npm = a=b".toList, [], by decide, hfiles, nofun⟩

end SystemMap

end PackageVitals
