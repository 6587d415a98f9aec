import PackageVitals.DepsDev.Client
import PackageVitals.Npm.Mapper
import PackageVitals.Proofs.Address
import PackageVitals.PyPi.Mapper

/-!
# Addresses that can be asked

An address cannot be asked if it has a control character or is too long, or if
its host, its socket or its path is wrong. What a service adds to its root is in
the path and begins with a slash, so nothing but the first two can go wrong with
it: an address below one that can be asked can be asked, too, if it is **plain**
and not too long (`Service.Base.asks`).

Percent encoding makes any text plain, so deps.dev can be asked about whatever
name, version or key there is. The package registries write a name as it is, in
lower case or with its slashes encoded, and that is plain if the name was.
-/

namespace PackageVitals

/-! ## Plain texts -/

/-- **Whether a text is plain**: it has no control character. -/
def Plain (s : List Char) : Prop :=
  ∀ c ∈ s, Url.isControl c = false

instance (s : List Char) : Decidable (Plain s) :=
  decidable_of_iff (s.all fun c => !Url.isControl c) (by simp [Plain])

@[simp] theorem plain_cons {c : Char} {s : List Char} :
    Plain (c :: s) ↔ Url.isControl c = false ∧ Plain s :=
  List.forall_mem_cons

@[simp] theorem plain_append {s t : List Char} : Plain (s ++ t) ↔ Plain s ∧ Plain t :=
  List.forall_mem_append

namespace Url

/-- What holds of each of the characters of ASCII by its number holds of each. -/
theorem forall_ascii {p : Char → Prop} (h : ∀ n < 128, p (Char.ofNat n)) {c : Char}
    (hc : c.toNat < 128) : p c := by
  rw [← Char.ofNat_toNat c]
  exact h c.toNat hc

/-- What never needs encoding is no control character. -/
theorem isControl_of_isUnreserved {c : Char} (h : isUnreserved c = true) : isControl c = false := by
  by_cases hc : c.toNat < 128
  · exact forall_ascii (p := fun c => isUnreserved c = true → isControl c = false) (by decide) hc h
  · simp only [isControl, Bool.or_eq_false_iff, decide_eq_false_iff_not, beq_eq_false_iff_ne]
    omega

/-- **A segment is encoded as a plain text**, whatever it is. -/
theorem plain_encodeSegment (s : String) : Plain (encodeSegment s).toList := by
  rw [encodeSegment, String.toList_ofList]
  intro d hd
  obtain ⟨c, -, hd⟩ := List.mem_flatMap.mp hd
  split at hd
  · next hc =>
    obtain rfl := List.mem_singleton.mp hd
    exact isControl_of_isUnreserved hc
  · exact forall_mem_escapeChar (p := fun d => isControl d = false) (by decide) (by decide) c d hd

end Url

namespace Text

/-- Every shift to lower case ends among printable ASCII characters or beyond
ASCII, and outside of the surrogates. -/
theorem targets_of_mem_lowerShifts : ∀ s ∈ lowerShifts,
    31 < (s.first : Int) + s.distance ∧ (s.last : Int) + s.distance < 127 ∨
    127 < (s.first : Int) + s.distance ∧ (s.last : Int) + s.distance < 0xD800 ∨
    0xDFFF < (s.first : Int) + s.distance ∧ (s.last : Int) + s.distance < 0x110000 := by
  decide +kernel

/-- A character is moved by a shift that covers it, or none covers it and it stays. -/
theorem move_lowerShifts_cases (c : Char) :
    (∃ s ∈ lowerShifts, s.covers c.toNat = true ∧
      ((CaseShift.move lowerShifts c).toNat : Int) = c.toNat + s.distance) ∨
    (∀ s ∈ lowerShifts, s.covers c.toNat = false) ∧ CaseShift.move lowerShifts c = c := by
  unfold CaseShift.move
  split
  · next s hs =>
    have hmem := List.mem_of_find?_eq_some hs
    have hcover := List.find?_some hs
    have htargets := targets_of_mem_lowerShifts s hmem
    refine .inl ⟨s, hmem, hcover, ?_⟩
    simp only [CaseShift.covers, Bool.and_eq_true, decide_eq_true_eq] at hcover
    have hvalid : ((c.toNat : Int) + s.distance).toNat.isValidChar := by
      rcases htargets with h | h | h
      · exact .inl (by omega)
      · exact .inl (by omega)
      · exact .inr ⟨by omega, by omega⟩
    have hto : (Char.ofNat ((c.toNat : Int) + s.distance).toNat).toNat =
        ((c.toNat : Int) + s.distance).toNat := by
      rw [Char.ofNat, dif_pos hvalid]
      rfl
    rw [hto]
    omega
  · next hs => exact .inr ⟨fun s hs' => by simpa using List.find?_eq_none.mp hs s hs', rfl⟩

theorem isControl_move_lowerShifts {c : Char} (hc : Url.isControl c = false) :
    Url.isControl (CaseShift.move lowerShifts c) = false := by
  rcases move_lowerShifts_cases c with ⟨s, hs, hcover, hto⟩ | ⟨-, hstay⟩
  · have htargets := targets_of_mem_lowerShifts s hs
    simp only [CaseShift.covers, Bool.and_eq_true, decide_eq_true_eq] at hcover
    simp only [Url.isControl, Bool.or_eq_false_iff, decide_eq_false_iff_not, beq_eq_false_iff_ne]
    omega
  · rwa [hstay]

theorem plain_lowerChar {c : Char} (hc : Url.isControl c = false) : Plain (lowerChar c) := by
  unfold lowerChar
  split
  · next hascii =>
    refine List.forall_mem_singleton.mpr (Url.forall_ascii
      (p := fun c => Url.isControl c = false → Url.isControl c.toLower = false) ?_ hascii hc)
    decide
  · split
    · decide
    · exact List.forall_mem_singleton.mpr (isControl_move_lowerShifts hc)

/-- **A plain text is plain in lower case.** -/
theorem plain_lower {s : List Char} (hs : Plain s) : Plain (lower s) :=
  forall_mem_lower (by decide) (fun _ hc => plain_lowerChar hc) hs

end Text

/-! ## Addresses below an address -/

namespace Url

theorem rooted_append {p q : List Char} (hp : Rooted p) : Rooted (p ++ '/' :: q) := by
  cases p with
  | nil => exact fun c hc => (Option.some.inj hc).symm
  | cons d p => exact hp

/-- Only the path tells whether an address is right that has the scheme and the
authority of another one. -/
theorem exists_ofReference? {r r' : Reference} {u : Url} (h : ofReference? r = some u)
    (hhost : u.host ≠ []) (hscheme : r'.scheme = r.scheme) (hauthority : r'.authority = r.authority)
    (hpath : Rooted r'.path) : ∃ u', ofReference? r' = some u' := by
  obtain ⟨-, -, hh, hp, -⟩ := of_ofReference? h
  have hplaced (hasScheme : Bool) : isPathPlaced hasScheme true r'.path = true := by
    rw [isPathPlaced, if_pos rfl]
    cases hcs : r'.path with
    | nil => rfl
    | cons c cs =>
      obtain rfl := hpath c (by rw [hcs]; rfl)
      rfl
  have hhas : (!u.host.isEmpty) = true := by simpa using hhost
  refine Option.isSome_iff_exists.mp ?_
  unfold ofReference?
  rw [hscheme, hauthority]
  dsimp only [Option.bind_eq_bind]
  rw [hh, hp]
  dsimp only [Option.bind_some]
  rw [hhas, Bool.or_true, Bool.true_or, if_pos (hplaced _)]
  rfl

theorem plain_of_ofString? {s : String} {u : Url} (h : ofString? s = some u) : Plain s.toList := by
  obtain ⟨v, hv, -⟩ := Option.bind_eq_some_iff.mp h
  unfold read? at hv
  split at hv
  · cases hv
  · next hnot =>
    rw [Bool.or_eq_true, not_or] at hnot
    simpa [Plain] using hnot.1

/-- An address with a scheme and a host can be read if it is plain, not too long,
and its parts are right. -/
theorem ofString?_of_plain {s : String} {u : Url} (hs : Plain s.toList)
    (hlen : s.length ≤ lengthLimit) (h : ofReference? (.ofChars s.toList) = some u)
    (habs : u.isAbsolute = true) : ofString? s = some u := by
  have hnot : ¬ (s.toList.any isControl || decide (lengthLimit < s.toList.length)) = true := by
    rw [String.length_toList]
    simp only [Bool.or_eq_true, decide_eq_true_eq, not_or, Nat.not_lt]
    exact ⟨by simpa [Plain] using hs, hlen⟩
  rw [ofString?, read?, if_neg hnot, h]
  show located? u = some u
  rw [located?, if_pos habs]

end Url

/-- **Whether an address is below another one**: it goes on with a slash and is
plain from there on. -/
def Below (base url : String) : Prop :=
  ∃ t, url.toList = base.toList ++ '/' :: t ∧ Plain t

theorem Below.slash (base : String) : Below base (base ++ "/") :=
  ⟨[], String.toList_append, by decide⟩

theorem Below.append {base url s : String} (h : Below base url) (hs : Plain s.toList) :
    Below base (url ++ s) := by
  obtain ⟨t, hurl, ht⟩ := h
  refine ⟨t ++ s.toList, ?_, plain_append.mpr ⟨ht, hs⟩⟩
  rw [String.toList_append, hurl, List.append_assoc]
  rfl

namespace Service

open Url

/-- **Whether an address can be asked** and an answer to it is of use. -/
def Asks (s : Service) (url : String) : Prop :=
  ∃ u, s.address url none = .ok u ∧ u.isAbsolute = true

theorem address_eq_ok_iff {s : Service} {url : String} {u : Url} :
    s.address url none = .ok u ↔
      ofString? url = some u ∧ s.headers.all isSendable = true ∧ u.isSendable = true := by
  unfold address
  cases ofString? url with
  | none => simp
  | some v =>
    cases hheaders : s.headers.all isSendable with
    | false => simp [bind, Except.bind]
    | true =>
      show (if v.isSendable = true then Except.ok v else Except.error _) = Except.ok u ↔ _
      split
      · next hv =>
        simp only [Except.ok.injEq, Option.some.injEq, true_and]
        exact ⟨fun h => ⟨h, h ▸ hv⟩, And.left⟩
      · next hv => exact iff_of_false nofun fun ⟨h, _, hu⟩ => hv (Option.some.inj h ▸ hu)

variable {s : Service} {base url : String} {u₀ : Url}

/-- **An address below one that can be asked can be asked**, if it is not too
long. -/
theorem Base.asks (hb : Base s base u₀) (hurl : Below base url) (hlen : url.length ≤ lengthLimit) :
    s.Asks url := by
  obtain ⟨t, hurl, ht⟩ := hurl
  obtain ⟨hbase, hheaders, hsendable⟩ := address_eq_ok_iff.mp hb.address
  have hread : Reference.ofChars url.toList = (Reference.ofChars base.toList).goOn ('/' :: t) := by
    rw [hurl, hb.ofChars_append]
  have hrooted : Rooted ((Reference.ofChars base.toList).goOn ('/' :: t)).path := by
    have hslash : pathPart ('/' :: t) = '/' :: pathPart t :=
      pathPart_append (s := ['/']) (by decide)
    show Rooted ((Reference.ofChars base.toList).path ++ pathPart ('/' :: t))
    rw [hslash]
    exact rooted_append hb.rooted_written
  obtain ⟨u, hu⟩ :
      ∃ u, ofReference? ((Reference.ofChars base.toList).goOn ('/' :: t)) = some u :=
    exists_ofReference? hb.read hb.host_ne rfl rfl hrooted
  obtain ⟨hscheme, hhost, -⟩ := location_eq_of_ofReference? hb.read hu rfl rfl
  have habs : u.isAbsolute = true := by
    rw [isAbsolute, hscheme, hhost]
    exact hb.absolute
  refine ⟨u, address_eq_ok_iff.mpr ⟨?_, hheaders, ?_⟩, habs⟩
  · refine ofString?_of_plain ?_ hlen (by rw [hread, hu]) habs
    rw [hurl, plain_append, plain_cons]
    exact ⟨plain_of_ofString? hbase, by decide, ht⟩
  · rw [Url.isSendable, hhost]
    exact hsendable

/-- Others can be below it in turn, if it ends at its path. -/
theorem Base.exists_below (hb : Base s base u₀) (hurl : Below base url)
    (hends : EndsAtPath url.toList) (hlen : url.length ≤ lengthLimit) : ∃ u, Base s url u := by
  obtain ⟨u, hu, habs⟩ := hb.asks hurl hlen
  exact ⟨u, hends, hu, habs⟩

end Service

/-! ## The addresses that are asked -/

open Url (plain_encodeSegment)

namespace DepsDev.Client

variable (c : Client) (system name version : String)

theorem below_packageUrl {interface : String} (h : Plain interface.toList) :
    Below c.root (c.packageUrl interface system name) :=
  (((((Below.slash c.root).append h).append (by decide)).append (plain_encodeSegment _)).append
    (by decide)).append (plain_encodeSegment _)

/-- **Every address of deps.dev is below its root**, whatever is asked about. -/
theorem below_root (key : String) : ∀ url ∈ [c.latestVersionUrl system name,
    c.versionUrl system name version, c.dependentsUrl system name version, c.projectUrl key],
    Below c.root url := by
  have hpackage {interface : String} (h : Plain interface.toList) :
      Below c.root (c.packageUrl interface system name ++ "/versions/" ++
        Url.encodeSegment version) :=
    ((c.below_packageUrl system name h).append (by decide)).append (plain_encodeSegment _)
  have hproject : Below c.root (c.root ++ "/v3/projects/") :=
    ⟨"v3/projects/".toList, String.toList_append, by decide⟩
  simp only [List.forall_mem_cons, List.not_mem_nil, false_imp_iff, implies_true, and_true]
  refine ⟨c.below_packageUrl system name (by decide), hpackage (by decide),
    (hpackage (by decide)).append (by decide), hproject.append (plain_encodeSegment _)⟩

end DepsDev.Client

/-- The address of a package of npm is below the root if its name is plain. -/
theorem Npm.below_root (root : String) {i : Identity} (h : Plain i.coordinates.toList) :
    Below root (packageUrl root i) := by
  have hname : Plain (packageName i).toList := by
    unfold packageName
    split
    · exact h
    · split
      · exact h
      · rw [String.toList_append, plain_append]
        exact ⟨by decide, h⟩
  refine (Below.slash root).append ?_
  rw [String.toList_ofList]
  intro d hd
  obtain ⟨c, hc, hd⟩ := List.mem_flatMap.mp hd
  split at hd
  · exact (by decide : Plain "%2F".toList) d hd
  · obtain rfl := List.mem_singleton.mp hd
    exact hname d hc

/-- Joining runs of separators adds nothing but dashes. -/
theorem PyPi.plain_joinRuns (inside : Bool) {s : List Char} (hs : Plain s) :
    Plain (joinRuns inside s) := by
  induction s generalizing inside with
  | nil => exact hs
  | cons c rest ih =>
    obtain ⟨hc, hrest⟩ := plain_cons.mp hs
    unfold joinRuns
    split
    · split
      · exact ih true hrest
      · exact plain_cons.mpr ⟨by decide, ih true hrest⟩
    · exact plain_cons.mpr ⟨hc, ih false hrest⟩

/-- So is the address of a package of PyPI. -/
theorem PyPi.below_root (root : String) {i : Identity} (h : Plain i.name.toList) :
    Below root (packageUrl root i) := by
  refine ((Below.slash root).append ?_).append (by decide)
  rw [normalizeName, String.toList_ofList]
  exact Text.plain_lower (plain_joinRuns false h)

/-- The standard root of deps.dev can be asked, so others can be below it. -/
theorem DepsDev.base_standardRoot : ∃ u, service.Base standardRoot u :=
  ⟨_, by decide, rfl, rfl⟩

/-- So can the other standard roots. -/
example : (∃ u, Npm.service.Base Npm.standardRoot u) ∧ ∃ u, PyPi.service.Base PyPi.standardRoot u :=
  ⟨⟨_, by decide, rfl, rfl⟩, ⟨_, by decide, rfl, rfl⟩⟩

end PackageVitals
