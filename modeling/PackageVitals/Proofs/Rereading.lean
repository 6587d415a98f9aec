import PackageVitals.Proofs.Spelling

/-!
# Keys read again

The key of a repository is an address as well: the path form, with nothing before the host
and nothing after the name. So it is read by the same grammar, which has one
reading for it (`spells_key`), and the reader comes back to the repository but for the
name. This loses a `.git` from its end whenever it is read, and must not be empty
(`ofUrl?_key`).

An address that spells a name loses one `.git` as well. What is left is a name that
is read as it stands unless the address has named nothing but `.git`, or has written
two of them (`reread_key_iff`).
-/

namespace PackageVitals.Repository

open Text (append_inj_of_class isBlank mem_of_getLast?_append)

/-- **An address names the repository that it spells.** -/
theorem ofUrl?_eq_some_iff {url : String} {r : Repository} :
    ofUrl? url = some r ↔ ∃ x, Spells (bareAddress url.toList) x ∧ x.IsOf r := by
  rw [ofUrl?_eq, findSome?_attempt_eq_some_iff mem_attempts]

/-! ## The key as an address -/

/-- The owner and the name of a repository, as a grammar of keys has them. -/
structure IsNamed (r : Repository) : Prop where
  /-- The owner is one that addresses have. -/
  owner : IsOwner r.owner.toList
  /-- What there is of a name may stand in one. -/
  name : ∀ c ∈ r.name.toList, InName c

/-- What an address names has such an owner and such a name. -/
theorem isNamed_of_ofUrl? {url : String} {r : Repository} (h : ofUrl? url = some r) :
    IsNamed r := by
  obtain ⟨x, ⟨_, _, _, _, howner, _, hname, _⟩, hof⟩ := ofUrl?_eq_some_iff.mp h
  refine ⟨hof.owner ▸ howner, fun c hc => hname c ?_⟩
  rcases hof.name with hx | ⟨-, hx⟩
  · exact hx ▸ List.mem_append_left _ hc
  · exact hx ▸ hc

theorem toList_key (r : Repository) :
    r.key.toList = (r.forge.host.toList ++ ['/']) ++ (r.owner.toList ++ '/' :: r.name.toList) := by
  simp [key]

/-- A host is the start of an address with nothing around it. -/
theorem host_starts (f : Forge) (s : List Char) :
    (∀ c, (f.host.toList ++ s).head? = some c → isBlank c = false) ∧
      ¬ "git+".toList <+: f.host.toList ++ s := by
  constructor
  · rintro c hc
    cases f <;> obtain rfl := Option.some.inj hc <;> decide
  · cases f <;> simp [Forge.host, List.cons_prefix_cons]

/-- **A key is an address as it stands**: no blanks are around it, and no `git+` is
before it. -/
theorem bareAddress_key {r : Repository} (h : IsNamed r) :
    bareAddress r.key.toList = r.key.toList := by
  obtain ⟨hhead, hgit⟩ := host_starts r.forge (['/'] ++ (r.owner.toList ++ '/' :: r.name.toList))
  rw [← List.append_assoc, ← toList_key] at hhead hgit
  refine (isBare_iff.mp ⟨[], r.key.toList, [], by simp, by simp, by simp, hhead, ?_,
    .inr ⟨hgit, rfl⟩⟩).symm
  -- The last character is one of the name, or the slash before it.
  intro c hc
  have hmem : c ∈ '/' :: r.name.toList := by
    rw [toList_key, ← List.append_assoc] at hc
    exact mem_of_getLast?_append (List.cons_ne_nil _ _) hc
  rcases List.mem_cons.mp hmem with rfl | hname
  · decide
  · exact (h.name c hname).2.1

/-- What a key is read as: the path form, and the name as it stands. -/
def keySpelling (r : Repository) : Spelling :=
  ⟨r.forge, .path, r.owner.toList, r.name.toList⟩

theorem leads_host (f : Forge) : Leads f .path (f.host.toList ++ ['/']) :=
  @Leads.path f [] [] [] (.inl rfl) (.inl rfl) (.inl rfl)

theorem spells_key_of_name {r : Repository} (h : IsNamed r) (hne : r.name ≠ "") :
    Spells r.key.toList (keySpelling r) :=
  ⟨_, [], leads_host r.forge, by rw [toList_key]; simp [keySpelling], h.owner,
    fun hnil => hne (String.toList_eq_nil_iff.mp hnil), h.name, fun _ hc => nomatch hc⟩

/-- A key without a name spells nothing: the slash before the name is its end. -/
theorem name_ne_of_spells_key {r : Repository} (h : IsNamed r) {x : Spelling}
    (hx : Spells r.key.toList x) : r.name ≠ "" := by
  obtain ⟨lead, rest, hlead, hs, howner, hne, -, -⟩ := hx
  rw [toList_key] at hs
  obtain ⟨-, -, htail⟩ := leads_unique (leads_host r.forge) hlead hs
  have hslash {s : List Char} (h : IsOwner s) : ∀ c ∈ s, (c == '/') = false := fun c hc =>
    beq_eq_false_iff_ne.mpr (h.2 c hc).1
  obtain ⟨-, -, hname⟩ := append_inj_of_class (p := (· == '/')) (hslash h.owner) (hslash howner)
    (by rfl) (by rfl) htail
  intro hempty
  rw [hempty] at hname
  exact hne (List.append_eq_nil_iff.mp hname.symm).1

/-- **A key spells its repository**, if there is a name, and nothing else. -/
theorem spells_key_iff {r : Repository} (h : IsNamed r) {x : Spelling} :
    Spells r.key.toList x ↔ r.name ≠ "" ∧ x = keySpelling r := by
  constructor
  · intro hx
    have hne := name_ne_of_spells_key h hx
    exact ⟨hne, hx.unique (spells_key_of_name h hne)⟩
  · rintro ⟨hne, rfl⟩
    exact spells_key_of_name h hne

/-! ## What a key is read as -/

/-- A repository whose name has lost a `.git`, if it had one. -/
def dropped (r : Repository) : Repository :=
  { r with name := String.ofList (dropGit r.name.toList) }

/-- **A key names its repository less one `.git`**, or nothing where there is no name. -/
theorem ofUrl?_key {r : Repository} (h : IsNamed r) :
    ofUrl? r.key = if r.name = "" then none else some r.dropped := by
  have hread (r' : Repository) : ofUrl? r.key = some r' ↔ r.name ≠ "" ∧ r.dropped = r' := by
    rw [ofUrl?_eq_some_iff, bareAddress_key h]
    simp only [spells_key_iff h, and_assoc, exists_and_left, exists_eq_left, Spelling.isOf_iff]
    simp [keySpelling, dropped]
  split
  · next hempty => exact Option.eq_none_iff_forall_ne_some.mpr fun r' hr' =>
      ((hread r').mp hr').1 hempty
  · next hne => exact (hread _).mpr ⟨hne, rfl⟩

/-- A name that ends in `.git` is longer than what is left of it. -/
theorem key_eq_of_suffix {r : Repository} (h : ".git".toList <:+ r.name.toList) :
    r.key = r.dropped.key ++ ".git" := by
  obtain ⟨stem, hstem⟩ := h
  have hdrop : stem = dropGit r.name.toList := eq_dropGit_iff.mpr (.inl hstem.symm)
  rw [← String.toList_inj, String.toList_append, toList_key, toList_key, ← hstem, hdrop]
  simp [dropped]

/-- Any other name stays. -/
theorem dropped_of_not_suffix {r : Repository} (h : ¬ ".git".toList <:+ r.name.toList) :
    r.dropped = r := by
  have hdrop : r.name.toList = dropGit r.name.toList := eq_dropGit_iff.mpr (.inr ⟨h, rfl⟩)
  rw [dropped, ← hdrop, String.ofList_toList]

/-- A key keeps its end if and only if this is no `.git`. -/
theorem key_dropped_eq_iff {r : Repository} :
    r.dropped.key = r.key ↔ ¬ ".git".toList <:+ r.name.toList := by
  constructor
  · intro heq hsuffix
    have hlength := congrArg String.length (key_eq_of_suffix hsuffix)
    rw [heq, String.length_append] at hlength
    exact absurd hlength (by simp)
  · exact fun h => congrArg key (dropped_of_not_suffix h)

/-! ## Names as they are written -/

variable {x : Spelling} {r : Repository}

/-- What is spelled has a name, as it is written. -/
theorem Spells.name_ne_nil {s : List Char} (h : Spells s x) : x.name ≠ [] := by
  obtain ⟨_, _, _, _, _, hne, -, -⟩ := h
  exact hne

/-- Nothing is left of a name that is nothing but `.git`. -/
theorem Spelling.IsOf.name_eq_nil_iff (h : x.IsOf r) (hne : x.name ≠ []) :
    r.name = "" ↔ x.name = ".git".toList := by
  rw [← String.toList_eq_nil_iff]
  rcases h.name with hx | ⟨hno, hx⟩
  · rw [hx]
    simp
  · rw [hx] at hno hne
    exact ⟨fun hnil => absurd hnil hne, fun hgit => absurd (hx ▸ hgit ▸ List.suffix_rfl) hno⟩

/-- What is left ends in `.git` if two of them were written. -/
theorem Spelling.IsOf.suffix_iff (h : x.IsOf r) :
    ".git".toList <:+ r.name.toList ↔ ".git.git".toList <:+ x.name := by
  have htwo : ".git.git".toList = ".git".toList ++ ".git".toList := by decide
  rw [htwo]
  rcases h.name with hx | ⟨hno, hx⟩
  · rw [hx]
    constructor
    · rintro ⟨stem, hstem⟩
      exact ⟨stem, by rw [← hstem, List.append_assoc]⟩
    · rintro ⟨stem, hstem⟩
      exact ⟨stem, List.append_cancel_right ((List.append_assoc _ _ _).trans hstem)⟩
  · refine ⟨fun hone => absurd (hx ▸ hone) hno, fun htwo => ?_⟩
    exact absurd ((List.suffix_append _ _).trans htwo) hno

/-- **A key is read as itself unless its name is nothing, or ends in `.git`.** The key of
an address has an owner. It has a name and is read as itself if and only if the
address writes another name than `.git`, and not one that ends in two of them. With
the first, the name is empty and the key is no address; with the second, the key that
is read is one `.git` shorter. -/
theorem reread_key_iff (url k : String) (h : keyOfUrl? url = some k) :
    ∃ r x, ofUrl? url = some r ∧ r.key = k ∧ Spells (bareAddress url.toList) x ∧ x.IsOf r ∧
      r.owner ≠ "" ∧
      (r.name ≠ "" ∧ keyOfUrl? k = some k ↔
        x.name ≠ ".git".toList ∧ ¬ ".git.git".toList <:+ x.name) ∧
      (x.name = ".git".toList → r.name = "" ∧ keyOfUrl? k = none) ∧
      (".git.git".toList <:+ x.name → ∃ k', keyOfUrl? k = some k' ∧ k = k' ++ ".git") := by
  obtain ⟨r, hr, rfl⟩ := Option.map_eq_some_iff.mp h
  obtain ⟨x, hx, hof⟩ := ofUrl?_eq_some_iff.mp hr
  have hnamed := isNamed_of_ofUrl? hr
  have hempty := hof.name_eq_nil_iff hx.name_ne_nil
  have hnonempty : r.name ≠ "" ↔ x.name ≠ ".git".toList := not_congr hempty
  have hkey : keyOfUrl? r.key = if r.name = "" then none else some r.dropped.key := by
    unfold keyOfUrl?
    rw [ofUrl?_key hnamed]
    split <;> rfl
  refine ⟨r, x, hr, rfl, hx, hof, ?_, ?_, fun hgit => ?_, fun htwo => ?_⟩
  · exact fun howner => hnamed.owner.1 (String.toList_eq_nil_iff.mpr howner)
  · rw [← hof.suffix_iff, ← key_dropped_eq_iff, ← hnonempty]
    refine and_congr_right fun hne => ?_
    rw [hkey, if_neg hne, Option.some_inj]
  · rw [hkey, if_pos (hempty.mpr hgit)]
    exact ⟨hempty.mpr hgit, rfl⟩
  · have hsuffix := hof.suffix_iff.mpr htwo
    have hne : r.name ≠ "" := by
      intro hnil
      rw [hnil] at hsuffix
      exact absurd hsuffix (by decide)
    rw [hkey, if_neg hne]
    exact ⟨_, rfl, key_eq_of_suffix hsuffix⟩

/-- Of two `.git` one is left, and is lost when the key is read. -/
theorem reread_key_twice :
    keyOfUrl? "git@github.com:octo/widget.git.git" = some "github.com/octo/widget.git" ∧
      ∃ k', keyOfUrl? "github.com/octo/widget.git" = some k' ∧
        "github.com/octo/widget.git" = k' ++ ".git" := by
  have hkey : keyOfUrl? "git@github.com:octo/widget.git.git" =
      some "github.com/octo/widget.git" := by decide
  obtain ⟨r, x, -, -, hx, -, -, -, -, htwo⟩ := reread_key_iff _ _ hkey
  have hspells : Spells (bareAddress "git@github.com:octo/widget.git.git".toList)
      ⟨.github, .colon, "octo".toList, "widget.git.git".toList⟩ :=
    spells_of_readIn? (by decide)
  obtain rfl := hx.unique hspells
  exact ⟨hkey, htwo (by decide)⟩

end PackageVitals.Repository
