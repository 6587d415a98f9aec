import PackageVitals.GitHub.Analyzer
import PackageVitals.Proofs.Rereading

/-!
# Keys taken apart

A key is put together from a host, an owner and a name, and the analyzer of GitHub takes
it apart again. Other providers send it keys of their own, so it takes apart any
text that the host stands at the start of: of what follows, the slashes at both ends
are dropped, and the first two pieces are the owner and the name
(`splitKey_eq_some_iff`).

Nothing asks for a slash after the host, and this is where the two ways part. What is put
together always has one, and comes apart as it was (`splitKey_key`). A text that has none
is read all the same: the rest of its first segment counts as an owner, though the
text names another host (`pieces_of_unparted`).
-/

namespace PackageVitals.GitHub

open Repository (IsNamed Spells bareAddress isNamed_of_ofUrl? ofUrl? ofUrl?_eq_some_iff toList_key)
open Text (exists_trimBy exists_trimBy_append mem_of_getLast?_append splitAll splitAll_append
  splitAll_eq_cons_iff splitAll_of_not_mem trimBy trimBy_append)

variable {key owner name : String} {o n s t : List Char}

/-- A key applies if the host stands at its start. -/
theorem keyApplies_iff :
    keyApplies (.str key) = .ok true ↔ ∃ t, key.toList = keyStart.toList ++ t := by
  show Except.ok (keyStart.toList.isPrefixOf key.toList) = .ok true ↔ _
  rw [Except.ok.injEq, List.isPrefixOf_iff_prefix]
  exact exists_congr fun t => eq_comm

/-! ## Two segments at the start of a text -/

/-- Whether a text may be a segment that is not empty. -/
def IsSegment (s : List Char) : Prop :=
  s ≠ [] ∧ '/' ∉ s

/-- **Whether a text starts with two segments**: the first, a slash, and the second, which
goes on to a slash or to the end. -/
def StartsWith (o n s : List Char) : Prop :=
  IsSegment o ∧ IsSegment n ∧
    ∃ rest, s = o ++ '/' :: (n ++ rest) ∧ ∀ c, rest.head? = some c → c = '/'

/-- The first pieces of such a text are the two segments. -/
theorem startsWith_iff_pieces :
    StartsWith o n s ↔ o ≠ [] ∧ n ≠ [] ∧ ∃ more, splitAll '/' s = o :: n :: more := by
  constructor
  · rintro ⟨⟨ho, hos⟩, ⟨hn, hns⟩, rest, rfl, hrest⟩
    refine ⟨ho, hn, ?_⟩
    rw [splitAll_append, splitAll_of_not_mem hos]
    cases rest with
    | nil => exact ⟨[], by rw [List.append_nil, splitAll_of_not_mem hns]; rfl⟩
    | cons c rest =>
      obtain rfl := hrest c rfl
      exact ⟨splitAll '/' rest, by rw [splitAll_append, splitAll_of_not_mem hns]; rfl⟩
  · rintro ⟨ho, hn, more, hsplit⟩
    obtain ⟨hos, ⟨-, hnil⟩ | ⟨t, rfl, ht⟩⟩ := splitAll_eq_cons_iff.mp hsplit
    · contradiction
    obtain ⟨hns, ⟨rfl, -⟩ | ⟨rest, rfl, -⟩⟩ := splitAll_eq_cons_iff.mp ht
    · exact ⟨⟨ho, hos⟩, ⟨hn, hns⟩, [], by rw [List.append_nil], by simp⟩
    · exact ⟨⟨ho, hos⟩, ⟨hn, hns⟩, '/' :: rest, rfl, fun _ hc => (Option.some.inj hc).symm⟩

/-- Slashes around a text do not change what it starts with. -/
theorem startsWith_trimBy_iff : StartsWith o n (trimBy (· == '/') t) ↔
    ∃ slashes s, t = slashes ++ s ∧ (∀ c ∈ slashes, c = '/') ∧ StartsWith o n s := by
  have hno {s : List Char} (h : '/' ∉ s) {c : Char} (hc : c ∈ s) : (c == '/') = false :=
    beq_eq_false_iff_ne.mpr fun hslash => h (hslash ▸ hc)
  constructor
  · rintro ⟨ho, hn, rest, hs, hrest⟩
    obtain ⟨slashes, after, ht, hslashes, hafter, -, -⟩ := exists_trimBy (· == '/') t
    refine ⟨slashes, trimBy (· == '/') t ++ after, ht, fun c hc => beq_iff_eq.mp (hslashes c hc),
      ho, hn, rest ++ after, by rw [hs]; simp, fun c hc => ?_⟩
    cases rest with
    | nil => exact beq_iff_eq.mp (hafter c (List.mem_of_mem_head? hc))
    | cons d rest => exact hrest c hc
  · rintro ⟨slashes, _, rfl, hslashes, ho, hn, rest, rfl, hrest⟩
    -- The first segment starts with no slash, and the second ends with none.
    have hhead : ∀ c, (o ++ '/' :: n).head? = some c → (c == '/') = false := by
      intro c hc
      obtain ⟨d, o', rfl⟩ := List.exists_cons_of_ne_nil ho.1
      exact hno ho.2 (List.mem_of_mem_head? hc)
    have hlast : ∀ c, (o ++ '/' :: n).getLast? = some c → (c == '/') = false := by
      intro c hc
      rw [List.append_cons] at hc
      exact hno hn.2 (mem_of_getLast?_append hn.1 hc)
    obtain ⟨kept, ⟨after, rfl⟩, htrim⟩ := exists_trimBy_append
      (fun c hc => beq_iff_eq.mpr (hslashes c hc)) (by simp) hhead hlast rest
    rw [List.append_assoc, List.cons_append] at htrim
    rw [htrim]
    exact ⟨ho, hn, kept, by simp, fun c hc => hrest c (by rw [List.head?_append, hc]; rfl)⟩

/-- **What a key is read as**: after the host there may be slashes, and then come the owner
and the name. -/
theorem splitKey_eq_some_iff (hkey : key.toList = keyStart.toList ++ t) :
    splitKey key = some (owner, name) ↔ ∃ slashes s, t = slashes ++ s ∧ (∀ c ∈ slashes, c = '/') ∧
      StartsWith owner.toList name.toList s := by
  have hpath : key.toList.drop keyStart.length = t := by
    rw [hkey, ← String.length_toList, List.drop_left]
  rw [← startsWith_trimBy_iff, startsWith_iff_pieces, splitKey, hpath]
  cases splitAll '/' (trimBy (· == '/') t) with
  | nil => simp
  | cons p ps =>
    cases ps with
    | nil => simp
    | cons q qs =>
      show (if p.isEmpty || q.isEmpty then none
        else some (String.ofList p, String.ofList q)) = _ ↔ _
      rw [Option.ite_none_left_eq_some]
      constructor
      · rintro ⟨hne, hsome⟩
        obtain ⟨rfl, rfl⟩ := Prod.mk.inj (Option.some.inj hsome)
        simpa using hne
      · rintro ⟨hp, hq, more, hpieces⟩
        obtain ⟨rfl, hrest⟩ := List.cons.inj hpieces
        obtain ⟨rfl, -⟩ := List.cons.inj hrest
        simp [hp, hq]

/-! ## Keys that were put together -/

variable {r : Repository}

/-- After the host comes a slash. -/
theorem toList_key_of_github (hforge : r.forge = .github) :
    r.key.toList = keyStart.toList ++ ('/' :: (r.owner.toList ++ '/' :: r.name.toList)) := by
  rw [toList_key, hforge, List.append_assoc]
  rfl

/-- **A key comes apart as it was put together**, if there is a name in it. -/
theorem splitKey_key (h : IsNamed r) (hforge : r.forge = .github) :
    splitKey r.key = if r.name = "" then none else some (r.owner, r.name) := by
  have hkey := toList_key_of_github hforge
  have hslash : '/' ∉ r.owner.toList := fun hmem => (h.owner.2 _ hmem).1 rfl
  split
  · next hempty =>
    have htrim : trimBy (· == '/') ('/' :: (r.owner.toList ++ '/' :: r.name.toList)) =
        r.owner.toList := by
      have hno {c : Char} (hc : c ∈ r.owner.toList) : (c == '/') = false :=
        beq_eq_false_iff_ne.mpr (h.owner.2 c hc).1
      rw [hempty]
      exact @trimBy_append (· == '/') ['/'] r.owner.toList ['/'] (by simp) (by simp)
        (fun c hc => hno (List.mem_of_mem_head? hc)) fun c hc => hno (List.mem_of_mem_getLast? hc)
    refine Option.eq_none_iff_forall_ne_some.mpr fun parts hread => ?_
    obtain ⟨-, -, rest, howner, -⟩ :=
      htrim ▸ startsWith_trimBy_iff.mpr ((splitKey_eq_some_iff hkey).mp hread)
    exact hslash (howner ▸ by simp)
  · next hne =>
    refine (splitKey_eq_some_iff hkey).mpr ⟨['/'], r.owner.toList ++ '/' :: r.name.toList, rfl,
      by simp, ⟨h.owner.1, hslash⟩, ⟨?_, ?_⟩, [], by rw [List.append_nil], by simp⟩
    · exact fun hnil => hne (String.toList_eq_nil_iff.mp hnil)
    · exact fun hmem => (h.name _ hmem).1 rfl

/-! ## Any keys -/

/-- **Whether a key names a repository on GitHub**: before its first slash stands the host,
and the first two segments after it that are not empty are the owner and the name. -/
def Names (key owner name : String) : Prop :=
  ∃ segments, splitAll '/' key.toList = keyStart.toList :: segments ∧
    [owner.toList, name.toList] <+: segments.filter (· ≠ [])

/-- There is nothing in the host that could end a segment. -/
theorem slash_not_mem_keyStart : '/' ∉ keyStart.toList := by
  decide

/-- A key that names a repository has a slash after the host. -/
theorem Names.starts (h : Names key owner name) : (keyStart ++ "/").toList <+: key.toList := by
  obtain ⟨segments, hsplit, hfirst⟩ := h
  obtain ⟨-, ⟨-, rfl⟩ | ⟨t, hkey, -⟩⟩ := splitAll_eq_cons_iff.mp hsplit
  · exact absurd (List.prefix_nil.mp hfirst) (List.cons_ne_nil _ _)
  · exact ⟨t, by rw [hkey]; simp⟩

/-- Slashes before a text are empty segments before its own. -/
theorem filter_splitAll_append {slashes : List Char} (h : ∀ c ∈ slashes, c = '/') :
    (splitAll '/' (slashes ++ s)).filter (· ≠ []) = (splitAll '/' s).filter (· ≠ []) := by
  induction slashes with
  | nil => rfl
  | cons c slashes ih =>
    obtain ⟨rfl, hslashes⟩ := List.forall_mem_cons.mp h
    rw [List.cons_append, splitAll, if_pos (by rfl), List.filter_cons_of_neg (by simp), ih hslashes]

/-- **With a slash after the host, what is read is what the key names.** -/
theorem names_of_splitKey (hkey : key.toList = keyStart.toList ++ '/' :: t)
    (h : splitKey key = some (owner, name)) : Names key owner name := by
  obtain ⟨slashes, s, ht, hslashes, hstart⟩ := (splitKey_eq_some_iff hkey).mp h
  obtain ⟨ho, hn, more, hpieces⟩ := startsWith_iff_pieces.mp hstart
  refine ⟨splitAll '/' t, ?_, more.filter (· ≠ []), ?_⟩
  · rw [hkey, splitAll_append, splitAll_of_not_mem slash_not_mem_keyStart]
    rfl
  · -- The slash after the host is the first of those that are dropped.
    have hfilter : (splitAll '/' t).filter (· ≠ []) = (splitAll '/' s).filter (· ≠ []) :=
      calc (splitAll '/' t).filter (· ≠ [])
          = (splitAll '/' (['/'] ++ t)).filter (· ≠ []) := (filter_splitAll_append (by simp)).symm
        _ = (splitAll '/' (slashes ++ s)).filter (· ≠ []) := by rw [← ht]; rfl
        _ = (splitAll '/' s).filter (· ≠ []) := filter_splitAll_append hslashes
    rw [hfilter, hpieces, List.filter_cons_of_pos (by simpa using ho),
      List.filter_cons_of_pos (by simpa using hn)]
    rfl

/-- **Without one, what is read as the owner belongs to another host.** -/
theorem pieces_of_unparted (hkey : key.toList = keyStart.toList ++ t)
    (hno : ∀ c, t.head? = some c → c ≠ '/') (h : splitKey key = some (owner, name)) :
    ∃ more, splitAll '/' key.toList = (keyStart ++ owner).toList :: name.toList :: more := by
  obtain ⟨slashes, s, rfl, hslashes, hstart⟩ := (splitKey_eq_some_iff hkey).mp h
  obtain rfl : slashes = [] := by
    cases slashes with
    | nil => rfl
    | cons c slashes => exact absurd (hslashes c List.mem_cons_self) (hno c rfl)
  obtain ⟨⟨-, ho⟩, hn, rest, rfl, hrest⟩ := hstart
  have hhost : IsSegment (keyStart ++ owner).toList := by
    rw [String.toList_append]
    exact ⟨by simp [keyStart, Forge.host], by simp [slash_not_mem_keyStart, ho]⟩
  obtain ⟨-, -, hpieces⟩ := startsWith_iff_pieces.mp ⟨hhost, hn, rest, rfl, hrest⟩
  simpa [hkey] using hpieces

/-- **How a key comes apart.** The key of an address on GitHub comes apart as it was put
together, if and only if the address writes another name than `.git`; with this one,
the name is empty and nothing is found. Of any key that the analyzer looks at, the
owner and the name that it finds are those that the key names if and only if a slash
follows the host; without one, the owner is the end of another host. -/
theorem splitKey_parts (key : String) :
    (∀ url r, ofUrl? url = some r → r.forge = .github → r.key = key →
      keyApplies (.str key) = .ok true ∧
      ∃ x, Spells (bareAddress url.toList) x ∧ x.IsOf r ∧
        (splitKey key = some (r.owner, r.name) ↔ x.name ≠ ".git".toList) ∧
        (x.name = ".git".toList → splitKey key = none)) ∧
    ∀ owner name, keyApplies (.str key) = .ok true → splitKey key = some (owner, name) →
      (Names key owner name ↔ (keyStart ++ "/").toList <+: key.toList) ∧
      (¬ Names key owner name →
        ∃ more, splitAll '/' key.toList = (keyStart ++ owner).toList :: name.toList :: more) := by
  constructor
  · rintro url r hurl hforge rfl
    obtain ⟨x, hx, hof⟩ := ofUrl?_eq_some_iff.mp hurl
    have hempty := hof.name_eq_nil_iff hx.name_ne_nil
    have hsplit := splitKey_key (isNamed_of_ofUrl? hurl) hforge
    refine ⟨keyApplies_iff.mpr ⟨_, toList_key_of_github hforge⟩, x, hx, hof, ?_, fun hgit => ?_⟩
    · rw [hsplit, Option.ite_none_left_eq_some, hempty]
      exact and_iff_left rfl
    · rw [hsplit, if_pos (hempty.mpr hgit)]
  · intro owner name happlies hread
    obtain ⟨t, hkey⟩ := keyApplies_iff.mp happlies
    have hnames : (keyStart ++ "/").toList <+: key.toList → Names key owner name := by
      rintro ⟨s, hs⟩
      exact names_of_splitKey (t := s) (by rw [← hs]; simp) hread
    refine ⟨⟨Names.starts, hnames⟩, fun hnot => pieces_of_unparted hkey ?_ hread⟩
    rintro c hc rfl
    obtain ⟨s, rfl⟩ := List.head?_eq_some_iff.mp hc
    exact hnot (hnames ⟨s, by rw [hkey]; simp⟩)

/-- `.git` is no name, and `github.community` is not the host of GitHub. -/
theorem splitKey_parts_octo :
    splitKey (Repository.key ⟨.github, "octo", ""⟩) = none ∧
      splitKey "github.community/octo/widget" = some ("munity", "octo") ∧
      ¬ Names "github.community/octo/widget" "munity" "octo" := by
  have hread : splitKey "github.community/octo/widget" = some ("munity", "octo") := by decide
  obtain ⟨-, x, hx, -, -, hnone⟩ :=
    (splitKey_parts _).1 "https://github.com/octo/.git" ⟨.github, "octo", ""⟩ (by decide) rfl rfl
  have hspells : Spells (bareAddress "https://github.com/octo/.git".toList)
      ⟨.github, .path, "octo".toList, ".git".toList⟩ := Repository.spells_of_readIn? (by decide)
  obtain rfl := hx.unique hspells
  refine ⟨hnone rfl, hread, fun hnames => ?_⟩
  exact absurd (((splitKey_parts _).2 _ _ (by decide) hread).1.mp hnames) (by decide)

end PackageVitals.GitHub
