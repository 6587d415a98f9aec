import PackageVitals.Npm.Mapper
import PackageVitals.Proofs.Rereading

/-!
# How packages write repositories

A package on npm may write its repository in many ways: as an address of either form, with
or without the parts that are optional, as a shorthand with the name of a forge, or as
nothing but an owner and a name. All of them are read as one key
(`keyOfField_of_writes`), also where anything at all follows the name.

A field is read in two steps. A shorthand is written out first, and what comes out is read
as an address. The first step must not take an address for a shorthand, and what
tells them apart is the first character that is no small letter (`OpensAddress`): in a
shorthand this is a colon after the name of a forge, in an address anything else. After that
the grammar of addresses has no other reading, whatever stands in the tail.
-/

namespace PackageVitals.Npm

open Repository (AddressForm InName IsWww Leads Maybe Spelling Spells bareAddress keyOfUrl?
  ofUrl? ofUrl?_eq_some_iff)
open Text (after? after?_eq_some_iff append_inj_of_class exists_trimBy_append isBlank
  isBlank_of_shown mem_of_getLast?_append trim)

/-! ## The ways to write a repository -/

/-- Whether a text may be an owner or a name: it is not empty, and no mark of an address
is in it. -/
def IsPart (s : List Char) : Prop :=
  s ≠ [] ∧ ∀ c ∈ s, InName c ∧ c ≠ '@' ∧ c ≠ ':'

/-- The schemes of addresses of repositories. -/
def schemes : List String := ["https", "http", "git", "ssh"]

/-- **What an address of a repository starts with**, up to the owner. -/
inductive Begins (f : Forge) : AddressForm → List Char → Prop
  | path {scheme user www : List Char} :
      Maybe (fun s => ∃ w ∈ schemes, s = w.toList ++ "://".toList) scheme →
      Maybe (· = "git@".toList) user → Maybe IsWww www →
      Begins f .path (scheme ++ (user ++ (www ++ (f.host.toList ++ ['/']))))
  | colon : Begins f .colon ("git".toList ++ '@' :: (f.host.toList ++ [':']))

/-- What may follow a name: anything after one of three marks. -/
def IsTail (s : List Char) : Prop :=
  ∀ c, s.head? = some c → c = '/' ∨ c = '#' ∨ c = '?'

/-- **Whether a text is an address** of the repository with the given owner and name. -/
inductive IsAddress (f : Forge) (owner name : List Char) : List Char → Prop
  | intro {form : AddressForm} {plus start git tail : List Char} :
      Maybe (· = "git+".toList) plus → Begins f form start → Maybe (· = ".git".toList) git →
      IsTail tail →
      IsAddress f owner name (plus ++ (start ++ (owner ++ '/' :: (name ++ git ++ tail))))

/-- **The ways to write a repository** of a forge with the given owner and name. -/
inductive Writes (f : Forge) (owner name : List Char) : List Char → Prop
  | address {s : List Char} : IsAddress f owner name s → Writes f owner name s
  | shorthand : Writes f owner name (f.name.toList ++ ':' :: (owner ++ '/' :: name))
  | bare : f = .github → Writes f owner name (owner ++ '/' :: name)

/-- There is a slash at least. -/
theorem Writes.ne_nil {f : Forge} {owner name x : List Char} (h : Writes f owner name x) :
    x ≠ [] := by
  cases h with
  | address haddress => cases haddress with | intro => simp
  | shorthand => simp
  | bare => simp

/-! ## Shorthands and addresses are apart -/

/-- Whether a character is no small letter. -/
def isMark (c : Char) : Bool :=
  !('a' ≤ c && c ≤ 'z')

/-- **Whether a text opens like an address**: with small letters, and then with a mark that
is no plus sign, and a colon only after a scheme. -/
def OpensAddress (s : List Char) : Prop :=
  ∃ w y rest, s = w ++ y :: rest ∧ w ≠ [] ∧ (∀ c ∈ w, isMark c = false) ∧ isMark y = true ∧
    y ≠ '+' ∧ (y = ':' → ∃ scheme ∈ schemes, w = scheme.toList)

variable {f : Forge} {form : AddressForm} {plus start s t owner name : List Char}

theorem isMark_of_mem_name (f : Forge) : ∀ c ∈ f.name.toList, isMark c = false := by
  cases f <;> exact List.all_iff_forall_prop.mp (by decide)

theorem toList_ne_nil_of_mem_schemes : ∀ w ∈ schemes, w.toList ≠ [] := by
  decide

theorem isMark_of_mem_scheme : ∀ w ∈ schemes, ∀ c ∈ w.toList, isMark c = false :=
  fun w hw => List.all_iff_forall_prop.mp (by revert w; decide)

theorem isMark_of_mem_git : ∀ c ∈ "git".toList, isMark c = false :=
  List.all_iff_forall_prop.mp (by decide)

/-- A host opens like an address: the letters before its first dot are a name. -/
theorem opens_host (f : Forge) (t : List Char) : OpensAddress (f.host.toList ++ t) := by
  have hhost : ∃ rest, f.host.toList = f.name.toList ++ '.' :: rest := by
    cases f <;> exact ⟨_, rfl⟩
  obtain ⟨rest, hrest⟩ := hhost
  refine ⟨f.name.toList, '.', rest ++ t, by rw [hrest]; simp, ?_, isMark_of_mem_name f, rfl,
    by decide, fun h => absurd h (by decide)⟩
  cases f <;> exact List.cons_ne_nil _ _

/-- **What an address starts with opens like one**: the first mark ends a scheme, a user, or
a label of a host. -/
theorem Begins.opens (h : Begins f form start) (t : List Char) : OpensAddress (start ++ t) := by
  cases h with
  | colon => exact ⟨"git".toList, '@', f.host.toList ++ [':'] ++ t, by simp, by decide,
      isMark_of_mem_git, rfl, by decide, fun h => absurd h (by decide)⟩
  | @path scheme user www hscheme huser hwww =>
    rcases hscheme with rfl | ⟨w, hw, rfl⟩
    · rcases huser with rfl | rfl
      · rcases hwww with rfl | rfl
        · simpa using opens_host f ('/' :: t)
        · exact ⟨"www".toList, '.', f.host.toList ++ ['/'] ++ t, by simp, by decide,
            List.all_iff_forall_prop.mp (by decide), rfl, by decide, fun h => absurd h (by decide)⟩
      · exact ⟨"git".toList, '@', www ++ (f.host.toList ++ ['/']) ++ t, by simp, by decide,
          isMark_of_mem_git, rfl, by decide, fun h => absurd h (by decide)⟩
    · exact ⟨w.toList, ':', '/' :: '/' :: (user ++ (www ++ (f.host.toList ++ ['/'])) ++ t), by simp,
        toList_ne_nil_of_mem_schemes w hw, isMark_of_mem_scheme w hw, rfl, by decide,
        fun _ => ⟨w, hw, rfl⟩⟩

/-- **An address is no shorthand.** -/
theorem OpensAddress.ne_shorthand (h : OpensAddress s) (hplus : Maybe (· = "git+".toList) plus)
    (f : Forge) (rest : List Char) : plus ++ s ≠ f.name.toList ++ ':' :: rest := by
  intro heq
  rcases hplus with rfl | rfl
  · obtain ⟨w, y, _, rfl, -, hw, hy, -, hcolon⟩ := h
    obtain ⟨rfl, rfl, -⟩ := append_inj_of_class hw (isMark_of_mem_name f) hy (by rfl) heq
    obtain ⟨scheme, hscheme, hname⟩ := hcolon rfl
    revert scheme
    cases f <;> decide
  · obtain ⟨-, hmark, -⟩ := append_inj_of_class (x := '+') (y := ':') isMark_of_mem_git
      (isMark_of_mem_name f) (by rfl) (by rfl) (by simpa using heq)
    exact absurd hmark (by decide)

/-- No blank is before what opens like an address. -/
theorem OpensAddress.head (h : OpensAddress s) (hplus : Maybe (· = "git+".toList) plus) :
    ∀ c, (plus ++ s).head? = some c → isBlank c = false := by
  have hshown {c : Char} (hc : isMark c = false) : isBlank c = false := by
    simp only [isMark, Bool.not_eq_false', Bool.and_eq_true, decide_eq_true_eq] at hc
    have hlow : 97 ≤ c.toNat := hc.1
    have hhigh : c.toNat ≤ 122 := hc.2
    exact isBlank_of_shown (by omega) (by omega)
  intro c hc
  rcases hplus with rfl | rfl
  · obtain ⟨w, y, rest, rfl, hne, hw, -⟩ := h
    obtain ⟨d, w, rfl⟩ := List.exists_cons_of_ne_nil hne
    obtain rfl : d = c := Option.some.inj hc
    exact hshown (hw d List.mem_cons_self)
  · obtain rfl : 'g' = c := Option.some.inj hc
    exact hshown (by decide)

/-- No `git+` is before what opens like an address. -/
theorem OpensAddress.not_plus (h : OpensAddress s) : ¬ "git+".toList <+: s := by
  rintro ⟨rest, hrest⟩
  obtain ⟨w, y, _, rfl, -, hw, hy, hne, -⟩ := h
  obtain ⟨-, hmark, -⟩ := append_inj_of_class (x := '+') (t := rest) isMark_of_mem_git hw (by rfl)
    hy (by simpa using hrest)
  exact hne hmark.symm

/-! ## What a field stands for -/

/-- **A shorthand stands for an address** of the forge that it names. -/
theorem expandShorthand?_eq_some_iff : expandShorthand? s = some t ↔
    ∃ (f : Forge) (rest : List Char),
      s = f.name.toList ++ ':' :: rest ∧ t = forgeBase f ++ rest := by
  have hmap (f : Forge) : (after? (f.name.toList ++ [':']) s).map (forgeBase f ++ ·) = some t ↔
      ∃ rest, s = f.name.toList ++ ':' :: rest ∧ t = forgeBase f ++ rest := by
    rw [Option.map_eq_some_iff]
    refine exists_congr fun rest => ?_
    rw [after?_eq_some_iff, List.append_assoc, List.singleton_append, eq_comm (b := t)]
  constructor
  · intro h
    obtain ⟨f, -, hf⟩ := List.exists_of_findSome?_eq_some h
    exact ⟨f, (hmap f).mp hf⟩
  · rintro ⟨f, rest, rfl, rfl⟩
    cases f <;> rfl

/-- What is no shorthand stands for itself, unless it is an owner and a name. -/
theorem expand_of_ne (h : ∀ (f : Forge) (rest : List Char), s ≠ f.name.toList ++ ':' :: rest) :
    expand s = if isOwnerAndName s then forgeBase .github ++ s else s := by
  have hnone : expandShorthand? s = none := Option.eq_none_iff_forall_ne_some.mpr fun t ht => by
    obtain ⟨f, rest, hs, -⟩ := expandShorthand?_eq_some_iff.mp ht
    exact h f rest hs
  rw [expand, hnone]

/-- An address has an at sign, or another slash. -/
theorem Begins.isOwnerAndName (h : Begins f form start) (plus owner t : List Char) :
    isOwnerAndName (plus ++ (start ++ (owner ++ '/' :: t))) = false := by
  rw [Npm.isOwnerAndName, Bool.and_eq_false_iff, Bool.and_eq_false_iff]
  cases h with
  | colon => exact .inl (.inr (by simp))
  | path =>
    refine .inr (beq_eq_false_iff_ne.mpr ?_)
    simp only [List.count_append, List.count_cons_self]
    omega

/-- What a shorthand stands for starts as an address. -/
theorem begins_forgeBase (f : Forge) : Begins f .path (forgeBase f) := by
  have hbegins := @Begins.path f "https://".toList [] [] (.inr ⟨"https", List.mem_cons_self, rfl⟩)
    (.inl rfl) (.inl rfl)
  rwa [List.nil_append, List.nil_append, ← List.append_assoc] at hbegins

section Parts

variable (howner : IsPart owner) (hname : IsPart name)

include howner hname

/-- An owner and a name have no mark between them but the slash. -/
theorem not_mem_parts {m : Char} (hslash : m ≠ '/')
    (hm : ∀ c, InName c ∧ c ≠ '@' ∧ c ≠ ':' → c ≠ m) : m ∉ owner ++ '/' :: name := by
  rw [List.mem_append, List.mem_cons]
  rintro (h | h | h)
  · exact hm m (howner.2 m h) rfl
  · exact hslash h
  · exact hm m (hname.2 m h) rfl

theorem colon_not_mem_parts : ':' ∉ owner ++ '/' :: name :=
  not_mem_parts howner hname (by decide) fun _ h => h.2.2

/-- Nothing but an owner and a name is nothing else. -/
theorem isOwnerAndName_parts : isOwnerAndName (owner ++ '/' :: name) = true := by
  have hscheme : Text.occursIn "://".toList (owner ++ '/' :: name) = false :=
    Bool.eq_false_iff.mpr fun h => colon_not_mem_parts howner hname
      ((Text.occursIn_iff.mp h).subset List.mem_cons_self)
  have huser : (owner ++ '/' :: name).contains '@' = false := by
    simpa using not_mem_parts howner hname (by decide) fun _ h => h.2.1
  have hslash {s : List Char} (h : IsPart s) : s.count '/' = 0 :=
    List.count_eq_zero_of_not_mem fun hmem => (h.2 _ hmem).1.1 rfl
  have hcount : (owner ++ '/' :: name).count '/' = 1 := by
    rw [List.count_append, List.count_cons_self, hslash howner, hslash hname]
  rw [isOwnerAndName, hscheme, huser, hcount]
  rfl

/-- **What is written stands for an address**, and an address for itself. -/
theorem Writes.expand {x : List Char} (h : Writes f owner name x) :
    IsAddress f owner name (expand x) := by
  have hplain (f : Forge) : IsAddress f owner name (forgeBase f ++ (owner ++ '/' :: name)) := by
    have haddress := @IsAddress.intro f owner name .path [] (forgeBase f) [] [] (.inl rfl)
      (begins_forgeBase f) (.inl rfl) fun _ hc => absurd hc (by simp)
    simpa using haddress
  cases h with
  | shorthand =>
    have hexpand := expandShorthand?_eq_some_iff.mpr ⟨f, owner ++ '/' :: name, rfl, rfl⟩
    rw [Npm.expand, hexpand]
    exact hplain f
  | bare hf =>
    subst hf
    have hcolon (f : Forge) (rest : List Char) :
        owner ++ '/' :: name ≠ f.name.toList ++ ':' :: rest := by
      intro heq
      exact colon_not_mem_parts howner hname (heq ▸ by simp)
    rw [expand_of_ne hcolon, if_pos (isOwnerAndName_parts howner hname)]
    exact hplain .github
  | address haddress =>
    have haddress' := haddress
    obtain ⟨hplus, hstart, -, -⟩ := haddress
    rw [expand_of_ne ((hstart.opens _).ne_shorthand hplus), hstart.isOwnerAndName]
    exact haddress'

/-! ## What an address is read as -/

omit howner hname in
/-- What an address starts with is a lead. -/
theorem Begins.leads (h : Begins f form start) : Leads f form start := by
  have hletter {c : Char} (hc : isMark c = false) : 'a' ≤ c ∧ c ≤ 'z' := by
    simpa [isMark] using hc
  cases h with
  | colon => exact .colon (by decide) (List.all_iff_forall_prop.mp (by decide))
  | path hscheme huser hwww =>
    refine .path ?_ ?_ hwww
    · refine hscheme.imp_right ?_
      rintro ⟨w, hw, rfl⟩
      exact ⟨w.toList, toList_ne_nil_of_mem_schemes w hw,
        fun c hc => .inl (hletter (isMark_of_mem_scheme w hw c hc)), rfl⟩
    · refine huser.imp_right ?_
      rintro rfl
      exact ⟨"git".toList, by decide, List.all_iff_forall_prop.mp (by decide), rfl⟩

omit howner hname in
/-- The address itself is what comes after a `git+`. -/
theorem bareAddress_of_trim {url : List Char} (hplus : Maybe (· = "git+".toList) plus)
    (hnot : ¬ "git+".toList <+: s) (htrim : trim url = plus ++ s) : bareAddress url = s := by
  show (after? "git+".toList (trim url)).getD (trim url) = s
  rw [htrim]
  rcases hplus with rfl | rfl
  · have hnone : after? "git+".toList s = none := Option.eq_none_iff_forall_ne_some.mpr
      fun rest hrest => hnot ⟨rest, (after?_eq_some_iff.mp hrest).symm⟩
    rw [List.nil_append, hnone]
    rfl
  · rw [after?_eq_some_iff.mpr rfl]
    rfl

/-- **An address spells its repository**, whatever its tail. -/
theorem IsAddress.spells (h : IsAddress f owner name s) :
    ∃ git, Maybe (· = ".git".toList) git ∧
      ∃ form, Spells (bareAddress s) ⟨f, form, owner, name ++ git⟩ := by
  obtain @⟨form, plus, start, git, tail, hplus, hstart, hgit, htail⟩ := h
  have hne : name ++ git ≠ [] := List.append_ne_nil_of_left_ne_nil hname.1 git
  have hwritten : ∀ c ∈ name ++ git, InName c := by
    refine List.forall_mem_append.mpr ⟨fun c hc => (hname.2 c hc).1, ?_⟩
    rcases hgit with rfl | rfl
    · exact fun c hc => nomatch hc
    · unfold InName
      exact List.all_iff_forall_prop.mp (by decide)
  -- Only the tail can end with blanks.
  have hlast : ∀ c, (plus ++ (start ++ (owner ++ '/' :: (name ++ git)))).getLast? = some c →
      isBlank c = false := by
    intro c hc
    have hparts : plus ++ (start ++ (owner ++ '/' :: (name ++ git))) =
        (plus ++ (start ++ (owner ++ ['/']))) ++ (name ++ git) := by simp
    exact (hwritten c (mem_of_getLast?_append hne (hparts ▸ hc))).2.1
  obtain ⟨kept, ⟨after, rfl⟩, htrim⟩ := exists_trimBy_append (List.forall_mem_nil _)
    (by simp) ((hstart.opens _).head hplus) hlast tail
  have hbare : bareAddress (plus ++ (start ++ (owner ++ '/' :: (name ++ git ++ (kept ++ after))))) =
      start ++ (owner ++ '/' :: (name ++ git ++ kept)) :=
    bareAddress_of_trim hplus (hstart.opens _).not_plus (by simpa [trim] using htrim)
  refine ⟨git, hgit, form, ?_⟩
  rw [hbare]
  refine ⟨start, kept, hstart.leads, rfl, ⟨howner.1, fun c hc => ?_⟩, hne, hwritten, fun c hc => ?_⟩
  · exact ⟨(howner.2 c hc).1.1, (howner.2 c hc).1.2.1⟩
  · rintro ⟨hslash, -, hsharp, hmark⟩
    rcases htail c (by rw [List.head?_append, hc]; rfl) with h | h | h
    · exact hslash h
    · exact hsharp h
    · exact hmark h

end Parts

/-! ## The key of a field -/

/-- **The key of the repository in a field**: the address in it, read. -/
def keyOfField (field : Json) : Except Failure (Option String) := do
  return (← repositoryUrl field) >>= keyOfUrl?

/-- The key of a package is that of the field that counts. -/
theorem keyIn_eq (package : Json) (version : Option String) :
    keyIn package version = repositoryField package version >>= keyOfField := rfl

/-- **Whether a field holds a text**: as it is, or in an object with any other members. -/
def Holds (field : Json) (x : String) : Prop :=
  field = .str x ∨ ∃ members, field = .obj members ∧ Json.lookup "url" members = some (.str x)

/-- What a text in a field stands for is read as an address. -/
theorem keyOfField_of_holds {field : Json} {x : String} (h : Holds field x) (hne : x ≠ "") :
    keyOfField field = .ok (keyOfUrl? (String.ofList (expand x.toList))) := by
  have hurl : repositoryUrl field = .ok (some (String.ofList (expand x.toList))) := by
    have htext : (if x.isEmpty then none else some (String.ofList (expand x.toList))) =
        some (String.ofList (expand x.toList)) := if_neg (by simpa using hne)
    rcases h with rfl | ⟨members, rfl, hlookup⟩
    · exact congrArg Except.ok htext
    · rw [repositoryUrl, hlookup]
      exact congrArg Except.ok htext
  rw [keyOfField, hurl]
  show Except.ok ((some (String.ofList (expand x.toList))).bind keyOfUrl?) = _
  rw [Option.bind_some]

/-- **All ways to write a repository have one key.** For any forge, owner and name, whatever
writes the repository in a field, and whatever the tail and the other members are, the
key is that of the repository. -/
theorem keyOfField_of_writes (f : Forge) (owner name x : String) (field : Json)
    (howner : IsPart owner.toList) (hname : IsPart name.toList)
    (hgit : ¬ ".git".toList <:+ name.toList)
    (hwrites : Writes f owner.toList name.toList x.toList) (hfield : Holds field x) :
    keyOfField field = .ok (some (f.host ++ "/" ++ owner ++ "/" ++ name)) := by
  obtain ⟨git, hsuffix, form, hspells⟩ := (hwrites.expand howner hname).spells howner hname
  have hne : x ≠ "" := fun hempty => hwrites.ne_nil (String.toList_eq_nil_iff.mpr hempty)
  have hof : Spelling.IsOf ⟨f, form, owner.toList, name.toList ++ git⟩ ⟨f, owner, name⟩ := by
    refine ⟨rfl, rfl, ?_⟩
    rcases hsuffix with rfl | rfl
    · rw [List.append_nil]
      exact .inr ⟨hgit, rfl⟩
    · exact .inl rfl
  have hread : ofUrl? (String.ofList (expand x.toList)) = some ⟨f, owner, name⟩ :=
    ofUrl?_eq_some_iff.mpr ⟨_, by rwa [String.toList_ofList], hof⟩
  rw [keyOfField_of_holds hfield hne, keyOfUrl?, hread]
  rfl

/-- A tail that looks like another repository, and members that nobody asks for. -/
theorem keyOfField_of_writes_gitlab :
    keyOfField (.obj [("type", .str "git"),
      ("url", .str "git+ssh://git@www.gitlab.com/octo/widget.git#git@github.com:a/b ")]) =
        .ok (some "gitlab.com/octo/widget") := by
  have hstart : Begins .gitlab .path "ssh://git@www.gitlab.com/".toList :=
    @Begins.path .gitlab "ssh://".toList "git@".toList "www.".toList
      (.inr ⟨"ssh", by decide, rfl⟩) (.inr rfl) (.inr rfl)
  refine keyOfField_of_writes .gitlab "octo" "widget" _ _ ?_ ?_ (by decide)
    (.address (@IsAddress.intro _ _ _ _ "git+".toList _ ".git".toList "#git@github.com:a/b ".toList
      (.inr rfl) hstart (.inr rfl) ?_)) (.inr ⟨_, rfl, rfl⟩)
  · unfold IsPart InName
    exact ⟨by decide, List.all_iff_forall_prop.mp (by decide)⟩
  · unfold IsPart InName
    exact ⟨by decide, List.all_iff_forall_prop.mp (by decide)⟩
  · rintro c hc
    obtain rfl := Option.some.inj hc
    decide

end PackageVitals.Npm
