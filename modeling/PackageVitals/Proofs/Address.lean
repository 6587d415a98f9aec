import PackageVitals.Proofs.Unbroken
import PackageVitals.Service

/-!
# Addresses that begin alike

The addresses of one service begin alike, and what tells them apart comes
last. What follows a slash stays at the end of the path, unless a dot
segment in it takes back what stands before (`Url.normalPath_append`); and
from the address as it is sent the path and the query can be read off
again, since neither of their marks can come before them
(`Url.path_eq_of_sent_eq`).

A query can be put in the place of another one only by reading the address
anew. That keeps the end of the path and adds no slashes to what stands
before (`Service.of_address_form`), though the host may look different
afterwards.
-/

namespace PackageVitals

/-! ## Texts cut at a character -/

theorem takeWhile_append_cons {p : α → Bool} {c : α} (hc : p c = false) (s t : List α) :
    (s ++ c :: t).takeWhile p = s.takeWhile p := by
  induction s with
  | nil => simp [hc]
  | cons d s ih =>
    rw [List.cons_append, List.takeWhile_cons, List.takeWhile_cons, ih]

theorem dropWhile_append_cons {p : α → Bool} {c : α} (hc : p c = false) (s t : List α) :
    (s ++ c :: t).dropWhile p = s.dropWhile p ++ c :: t := by
  induction s with
  | nil => simp [hc]
  | cons d s ih =>
    rw [List.cons_append, List.dropWhile_cons, List.dropWhile_cons, ih]
    split <;> rfl

/-- Texts that go on at the same mark, if they go on, are cut there in one
way only. -/
theorem append_inj_of_mark {x : α} {s s' t t' : List α} (hs : x ∉ s) (hs' : x ∉ s')
    (ht : ∀ c, t.head? = some c → c = x) (ht' : ∀ c, t'.head? = some c → c = x)
    (h : s ++ t = s' ++ t') : s = s' ∧ t = t' := by
  induction s generalizing s' with
  | nil =>
    cases s' with
    | nil => exact ⟨rfl, h⟩
    | cons c s' =>
      have hc : c = x := ht c (by rw [← List.nil_append t, h]; rfl)
      exact absurd (hc ▸ List.mem_cons_self) hs'
  | cons c s ih =>
    cases s' with
    | nil =>
      have hc : c = x := ht' c (by rw [← List.nil_append t', ← h]; rfl)
      exact absurd (hc ▸ List.mem_cons_self) hs
    | cons c' s' =>
      obtain ⟨rfl, hrest⟩ := List.cons.inj h
      obtain ⟨rfl, rfl⟩ := ih (fun hx => hs (List.mem_cons_of_mem c hx))
        (fun hx => hs' (List.mem_cons_of_mem c hx)) hrest
      exact ⟨rfl, rfl⟩

/-- Lists of pieces are put together one after the other. -/
theorem intercalate_append {x : α} {ls ms : List (List α)} (hl : ls ≠ []) (hm : ms ≠ []) :
    [x].intercalate (ls ++ ms) = [x].intercalate ls ++ x :: [x].intercalate ms := by
  induction ls with
  | nil => exact absurd rfl hl
  | cons l ls ih =>
    cases ls with
    | nil =>
      rw [List.singleton_append, List.intercalate_cons_of_ne_nil hm, List.intercalate_singleton]
      simp
    | cons l' ls =>
      rw [List.cons_append, List.intercalate_cons_of_ne_nil (by simp), ih (by simp),
        List.intercalate_cons_cons]
      simp

/-- A list of pieces without a character has it once less than pieces. -/
theorem count_intercalate [DecidableEq α] {x : α} {ls : List (List α)} (hne : ls ≠ [])
    (h : ∀ l ∈ ls, x ∉ l) : ([x].intercalate ls).count x + 1 = ls.length := by
  induction ls with
  | nil => exact absurd rfl hne
  | cons l ls ih =>
    obtain ⟨hl, hls⟩ := List.forall_mem_cons.mp h
    cases ls with
    | nil => rw [List.intercalate_singleton, List.count_eq_zero_of_not_mem hl]; rfl
    | cons l' ls =>
      rw [List.intercalate_cons_cons, List.count_append, List.count_append,
        List.count_eq_zero_of_not_mem hl, List.count_singleton_self, List.length_cons,
        ← ih (by simp) hls]
      omega

namespace Text

theorem length_splitAll (x : Char) (s : List Char) : (splitAll x s).length = s.count x + 1 := by
  conv => rhs; rw [← intercalate_splitAll x s]
  exact (count_intercalate (splitAll_ne_nil x s) fun _ => not_mem_of_mem_splitAll).symm

end Text

namespace Url

open Text (splitAll)

/-! ## Paths -/

/-- Whether a segment of a path is a dot segment. -/
def IsDots (s : List Char) : Prop := s = ['.'] ∨ s = ['.', '.']

instance (s : List Char) : Decidable (IsDots s) :=
  inferInstanceAs (Decidable (_ ∨ _))

/-- Whether a path is empty or starts with a slash. -/
def Rooted (p : List Char) : Prop := ∀ c, p.head? = some c → c = '/'

/-- The segments that two dots leave of those before them, kept in
reverse. -/
def takenBack : List (List Char) → List (List Char)
  | [] => []
  | [[]] => [[]]
  | _ :: before => before

theorem resolveDots_cons (before : List (List Char)) (s : List Char) (rest : List (List Char)) :
    resolveDots before (s :: rest) =
      if s = ['.'] then resolveDots before rest
      else if s = ['.', '.'] then resolveDots (takenBack before) rest
      else resolveDots (s :: before) rest := by
  rw [resolveDots.eq_def]
  dsimp only
  congr 2
  match before with
  | [] => rfl
  | [[]] => rfl
  | [] :: _ :: _ => rfl
  | (_ :: _) :: _ => rfl

/-- Segments without dots stay. -/
theorem resolveDots_of_plain {ss : List (List Char)} (h : ∀ s ∈ ss, ¬ IsDots s)
    (before : List (List Char)) : resolveDots before ss = before.reverse ++ ss := by
  induction ss generalizing before with
  | nil => simp [resolveDots]
  | cons s ss ih =>
    obtain ⟨hs, hss⟩ := List.forall_mem_cons.mp h
    obtain ⟨h₁, h₂⟩ := not_or.mp hs
    rw [resolveDots_cons, if_neg h₁, if_neg h₂, ih hss]
    simp

/-- Segments without dots stay after any others. -/
theorem resolveDots_append {ss : List (List Char)} (h : ∀ s ∈ ss, ¬ IsDots s)
    (before ps : List (List Char)) :
    resolveDots before (ps ++ ss) = resolveDots before ps ++ ss := by
  induction ps generalizing before with
  | nil => exact resolveDots_of_plain h before
  | cons p ps ih =>
    rw [List.cons_append, resolveDots_cons, resolveDots_cons]
    split
    · exact ih before
    split
    · exact ih _
    · exact ih _

/-- The empty segment before the first slash is never taken back, and no
segment comes from nowhere. -/
theorem resolveDots_root (before ps : List (List Char)) :
    ∃ ss, resolveDots (before ++ [[]]) ps = [] :: ss ∧ ss.length ≤ before.length + ps.length ∧
      ∀ s ∈ ss, s ∈ before ∨ s ∈ ps := by
  -- The root is the last of the segments kept in reverse, and two dots never reach it.
  induction ps generalizing before with
  | nil => exact ⟨before.reverse, by simp [resolveDots], by simp, by simp⟩
  | cons p ps ih =>
    rw [resolveDots_cons]
    split
    · obtain ⟨ss, hss, hlen, hmem⟩ := ih before
      exact ⟨ss, hss, by rw [List.length_cons]; omega, fun s hs => (hmem s hs).imp_right
        (List.mem_cons_of_mem p)⟩
    split
    · cases before with
      | nil =>
        obtain ⟨ss, hss, hlen, hmem⟩ := ih []
        exact ⟨ss, hss, by rw [List.length_cons]; omega, fun s hs => (hmem s hs).imp_right
          (List.mem_cons_of_mem p)⟩
      | cons d before =>
        obtain ⟨ss, hss, hlen, hmem⟩ := ih before
        refine ⟨ss, ?_, by rw [List.length_cons, List.length_cons]; omega, fun s hs =>
          (hmem s hs).imp (List.mem_cons_of_mem d) (List.mem_cons_of_mem p)⟩
        rw [← hss]
        cases before <;> cases d <;> rfl
    · obtain ⟨ss, hss, hlen, hmem⟩ := ih (p :: before)
      refine ⟨ss, hss, by rw [List.length_cons] at hlen ⊢; omega, fun s hs => ?_⟩
      rcases hmem s hs with hs | hs
      · exact (List.mem_cons.mp hs).elim (fun he => .inr (he ▸ List.mem_cons_self)) .inl
      · exact .inr (List.mem_cons_of_mem p hs)

/-- A path without its dot segments, whether or not it has any. -/
theorem normalPath_eq (p : List Char) :
    normalPath p = ['/'].intercalate (resolveDots [] (splitAll '/' p)) := by
  unfold normalPath
  dsimp only
  split
  · rfl
  · next h =>
    have hplain : ∀ s ∈ splitAll '/' p, ¬ IsDots s := fun s hs hd => h (List.any_eq_true.mpr
      ⟨s, hs, by simpa [IsDots] using hd⟩)
    rw [resolveDots_of_plain hplain]
    exact (Text.intercalate_splitAll '/' p).symm

/-- The segments of a rooted path begin with an empty one, also when the dots
are resolved. -/
theorem segments_of_rooted {p : List Char} (hp : Rooted p) :
    ∃ ss, resolveDots [] (splitAll '/' p) = [] :: ss ∧ ss.length ≤ p.count '/' ∧
      ∀ s ∈ ss, '/' ∉ s := by
  obtain ⟨ps, hps⟩ : ∃ ps, splitAll '/' p = [] :: ps := by
    cases p with
    | nil => exact ⟨[], rfl⟩
    | cons c p =>
      obtain rfl := hp c rfl
      exact ⟨splitAll '/' p, by simp [splitAll]⟩
  have hlen := Text.length_splitAll '/' p
  have hnot : ∀ s ∈ splitAll '/' p, '/' ∉ s := fun _ => Text.not_mem_of_mem_splitAll
  rw [hps] at hlen hnot ⊢
  obtain ⟨ss, hss, hle, hmem⟩ := resolveDots_root [] ps
  refine ⟨ss, by simpa [resolveDots] using hss, ?_, fun s hs => ?_⟩
  · rw [List.length_cons] at hlen
    rw [List.length_nil] at hle
    omega
  · exact hnot s (List.mem_cons_of_mem _ ((hmem s hs).resolve_left List.not_mem_nil))

/-- **What follows a path after a slash stays**, if none of its segments is a
dot segment. -/
theorem normalPath_append {p t : List Char} (hp : Rooted p)
    (ht : ∀ s ∈ splitAll '/' t, ¬ IsDots s) :
    normalPath (p ++ '/' :: t) = normalPath p ++ '/' :: t := by
  obtain ⟨ss, hss, -, -⟩ := segments_of_rooted hp
  rw [normalPath_eq, normalPath_eq, Text.splitAll_append, resolveDots_append ht, hss,
    intercalate_append (by simp) (Text.splitAll_ne_nil _ _), Text.intercalate_splitAll]

theorem rooted_normalPath {p : List Char} (hp : Rooted p) : Rooted (normalPath p) := by
  obtain ⟨ss, hss, -, -⟩ := segments_of_rooted hp
  rw [normalPath_eq, hss]
  cases ss with
  | nil =>
    intro c hc
    cases hc
  | cons s ss =>
    rw [List.intercalate_cons_cons]
    intro c hc
    exact (Option.some.inj hc).symm

/-- A path has no more slashes when its dots are resolved. -/
theorem count_normalPath_le {p : List Char} (hp : Rooted p) :
    (normalPath p).count '/' ≤ p.count '/' := by
  obtain ⟨ss, hss, hle, hnot⟩ := segments_of_rooted hp
  have hcount : (['/'].intercalate ([] :: ss)).count '/' + 1 = ([] :: ss).length :=
    count_intercalate (by simp) (List.forall_mem_cons.mpr ⟨List.not_mem_nil, hnot⟩)
  rw [List.length_cons] at hcount
  rw [normalPath_eq, hss]
  omega

/-! ## Cutting an address that goes on -/

section Cutting

variable {p : Char → Bool} {s t : List Char} {c : Char}

theorem cutBefore_fst_subset : (cutBefore p s).1 ⊆ s := List.takeWhile_subset _

theorem cutBefore_snd_subset : (cutBefore p s).2 ⊆ s := List.dropWhile_subset _

theorem cutBefore_append_cons (hc : p c = true) :
    cutBefore p (s ++ c :: t) = ((cutBefore p s).1, (cutBefore p s).2 ++ c :: t) := by
  unfold cutBefore
  rw [takeWhile_append_cons (by simp [hc]), dropWhile_append_cons (by simp [hc])]

theorem cutBefore_append_of_forall (h : ∀ c ∈ s, p c = false) :
    cutBefore p (s ++ t) = (s ++ (cutBefore p t).1, (cutBefore p t).2) := by
  unfold cutBefore
  rw [List.takeWhile_append_of_pos (by simpa using h),
    List.dropWhile_append_of_pos (by simpa using h)]

theorem cutBefore_of_forall (h : ∀ c ∈ s, p c = false) : cutBefore p s = (s, []) := by
  have := cutBefore_append_of_forall (t := []) h
  rw [List.append_nil] at this
  rw [this]
  simp [cutBefore]

theorem splitScheme_append :
    splitScheme (s ++ '/' :: t) = ((splitScheme s).1, (splitScheme s).2 ++ '/' :: t) := by
  have hslash : isSchemeChar '/' = false := by decide
  unfold splitScheme
  rw [takeWhile_append_cons hslash, dropWhile_append_cons hslash]
  dsimp only
  cases s.dropWhile isSchemeChar with
  | nil => rfl
  | cons d rest =>
    by_cases hd : d = ':'
    · subst hd
      show (if _ then _ else _) = _
      split <;> rfl
    · simp [hd]

theorem splitScheme_snd_subset : (splitScheme s).2 ⊆ s := by
  unfold splitScheme
  dsimp only
  split
  · next rest hrest =>
    split
    · intro d hd
      exact List.dropWhile_subset isSchemeChar (hrest ▸ List.mem_cons_of_mem _ hd)
    · exact fun _ hd => hd
  · exact fun _ hd => hd

theorem splitAuthority_append (h : 2 ≤ s.length) :
    splitAuthority (s ++ '/' :: t) = ((splitAuthority s).1, (splitAuthority s).2 ++ '/' :: t) := by
  match s, h with
  | a :: b :: rest, _ =>
    by_cases hab : a = '/' ∧ b = '/'
    · obtain ⟨rfl, rfl⟩ := hab
      exact cutBefore_append_cons (by decide)
    · have hplain (u : List Char) : splitAuthority (a :: b :: u) = ([], a :: b :: u) := by
        unfold splitAuthority
        split
        · next heq =>
          obtain ⟨ha, heq⟩ := List.cons.inj heq
          exact absurd ⟨ha, (List.cons.inj heq).1⟩ hab
        · rfl
      rw [List.cons_append, List.cons_append, hplain, hplain]
      rfl

theorem splitAuthority_subset : (splitAuthority s).1 ⊆ s ∧ (splitAuthority s).2 ⊆ s := by
  unfold splitAuthority
  split
  · exact ⟨fun _ hd => List.mem_cons_of_mem _ (List.mem_cons_of_mem _ (cutBefore_fst_subset hd)),
      fun _ hd => List.mem_cons_of_mem _ (List.mem_cons_of_mem _ (cutBefore_snd_subset hd))⟩
  · exact ⟨List.nil_subset _, fun _ hd => hd⟩

/-- An authority has no mark of a later part in it. -/
theorem unbroken_splitAuthority : Unbroken (splitAuthority s).1 := by
  unfold splitAuthority
  split
  · next rest =>
    intro d hd
    have := List.all_eq_true.mp List.all_takeWhile d hd
    simp only [Bool.not_eq_true', Bool.or_eq_false_iff, beq_eq_false_iff_ne] at this
    exact ⟨this.1.1, this.1.2⟩
  · exact unbroken_nil

end Cutting

/-- What a text that follows a path adds to it: all before a question mark
or a number sign. -/
def pathPart (t : List Char) : List Char :=
  (cutBefore (fun c => c == '?' || c == '#') t).1

/-- An address as written, with a text after its path. -/
def Reference.goOn (r : Reference) (t : List Char) : Reference :=
  let rest := splitQuery (cutBefore (fun c => c == '?' || c == '#') t).2
  { r with path := r.path ++ pathPart t, query := rest.1, fragment := rest.2.tail? }

/-- There is no query without its mark. -/
theorem query_goOn {r : Reference} {t : List Char} (h : '?' ∉ t) : (r.goOn t).query = none := by
  show (splitQuery (cutBefore (fun c => c == '?' || c == '#') t).2).1 = none
  unfold splitQuery
  split
  · next heq => exact absurd (cutBefore_snd_subset (heq ▸ List.mem_cons_self)) h
  · rfl

/-- Whether a text ends at its path: it has no question mark and no number
sign. -/
def EndsAtPath (s : List Char) : Prop := ∀ c ∈ s, (c == '?' || c == '#') = false

instance (s : List Char) : Decidable (EndsAtPath s) :=
  decidable_of_iff (s.all fun c => !(c == '?' || c == '#')) (by simp [EndsAtPath])

theorem endsAtPath_append {s t : List Char} :
    EndsAtPath (s ++ t) ↔ EndsAtPath s ∧ EndsAtPath t :=
  List.forall_mem_append

/-- **An address that goes on after a slash goes on in its path.** -/
theorem ofChars_append {s t : List Char} (hs : EndsAtPath s) (hlen : 2 ≤ (splitScheme s).2.length) :
    Reference.ofChars (s ++ '/' :: t) = (Reference.ofChars s).goOn ('/' :: t) := by
  have hpath : ∀ c ∈ (splitAuthority (splitScheme s).2).2, (c == '?' || c == '#') = false :=
    fun c hc => hs c (splitScheme_snd_subset (splitAuthority_subset.2 hc))
  unfold Reference.ofChars
  rw [splitScheme_append]
  dsimp only
  rw [splitAuthority_append hlen]
  dsimp only
  rw [cutBefore_append_of_forall hpath, cutBefore_of_forall hpath]
  rfl

/-- An address that ends at its path has no query. -/
theorem query_ofChars {s : List Char} (hs : EndsAtPath s) : (Reference.ofChars s).query = none := by
  have hpath : ∀ c ∈ (splitAuthority (splitScheme s).2).2, (c == '?' || c == '#') = false :=
    fun c hc => hs c (splitScheme_snd_subset (splitAuthority_subset.2 hc))
  unfold Reference.ofChars
  dsimp only
  rw [cutBefore_of_forall hpath]
  rfl

/-! ## Reading an address -/

/-- What is known of an address that was read. -/
theorem of_ofReference? {r : Reference} {u : Url} (h : ofReference? r = some u) :
    u.scheme = r.scheme.map Char.toLower ∧
    u.user = encodeWith isUserChar (splitUser r.authority).1 ∧
    Host.sent? (splitHost (splitUser r.authority).2).1 = some u.host ∧
    readSocket? (impliedSocket? r.scheme) (splitHost (splitUser r.authority).2).2 =
      some u.socket ∧
    (u.host ≠ [] → Rooted r.path) ∧
    (r.scheme ≠ [] → u.path = encodeWith isPathChar (normalPath r.path)) ∧
    u.query = r.query.map (encodeWith isQueryChar) := by
  unfold ofReference? at h
  dsimp only [Option.bind_eq_bind] at h
  obtain ⟨host, hhost, h⟩ := Option.bind_eq_some_iff.mp h
  obtain ⟨socket, hsocket, h⟩ := Option.bind_eq_some_iff.mp h
  split at h
  · next hplaced =>
    obtain rfl := Option.some.inj h
    refine ⟨rfl, rfl, hhost, hsocket, fun hne c hc => ?_, fun hne => ?_, rfl⟩
    · have hauthority : (!host.isEmpty) = true := by simpa using hne
      rw [hauthority, Bool.or_true, Bool.true_or] at hplaced
      simp only [isPathPlaced, if_true, Bool.or_eq_true, List.isEmpty_iff, beq_iff_eq] at hplaced
      rcases hplaced with hempty | hslash
      · rw [hempty] at hc
        cases hc
      · exact Option.some.inj (hc.symm.trans hslash)
    · have hscheme : (!r.scheme.isEmpty) = true := by simpa using hne
      dsimp only
      rw [hscheme, Bool.true_or, if_pos rfl]
  · cases h

/-- What stands before the path depends on the scheme and the authority
alone. -/
theorem location_eq_of_ofReference? {r r' : Reference} {u u' : Url} (h : ofReference? r = some u)
    (h' : ofReference? r' = some u') (hscheme : r'.scheme = r.scheme)
    (hauthority : r'.authority = r.authority) :
    u'.scheme = u.scheme ∧ u'.host = u.host ∧ u'.location = u.location := by
  obtain ⟨hs, -, hh, hp, -⟩ := of_ofReference? h
  obtain ⟨hs', -, hh', hp', -⟩ := of_ofReference? h'
  rw [hscheme, hauthority] at hp'
  rw [hauthority] at hh'
  have hhost : u'.host = u.host := Option.some.inj (hh'.symm.trans hh)
  have hsocket : u'.socket = u.socket := Option.some.inj (hp'.symm.trans hp)
  refine ⟨by rw [hs, hs', hscheme], hhost, ?_⟩
  unfold location
  rw [hhost, hsocket]

/-! ## Reading the path off an address as it is sent -/

/-- **Whether the parts of an address keep to their places**: nothing before
the path can be taken for it, and nothing in it for the query. -/
structure Placed (u : Url) : Prop where
  /-- The user is unbroken. -/
  user : Unbroken u.user
  /-- So are the host and the socket. -/
  location : Unbroken u.location
  /-- The path is empty or starts with a slash. -/
  rooted : Rooted u.path
  /-- It has no question mark. -/
  path : '?' ∉ u.path

theorem rooted_encode {p : List Char} (hp : Rooted p) : Rooted (encodeWith isPathChar p) := by
  cases p with
  | nil =>
    intro c hc
    cases hc
  | cons d p =>
    obtain rfl := hp d rfl
    intro c hc
    exact (Option.some.inj hc).symm

theorem splitUser_snd_subset (s : List Char) : (splitUser s).2 ⊆ s := by
  unfold splitUser
  split
  · intro c hc
    exact List.mem_reverse.mp (cutBefore_fst_subset (List.mem_reverse.mp hc))
  · exact fun _ hc => hc

theorem splitHost_fst_subset (s : List Char) : (splitHost s).1 ⊆ s := by
  unfold splitHost
  split
  · intro c hc
    exact List.mem_reverse.mp (cutBefore_snd_subset (List.mem_reverse.mp hc))
  · exact cutBefore_fst_subset

/-- **An address that is read keeps to its places.** -/
theorem placed_of_ofReference? {r : Reference} {u : Url} (h : ofReference? r = some u)
    (hscheme : r.scheme ≠ []) (hauthority : Unbroken r.authority) (hpath : Rooted r.path) :
    u.Placed := by
  obtain ⟨-, huser, hhost, -, -, hp, -⟩ := of_ofReference? h
  have hwritten : Unbroken (splitHost (splitUser r.authority).2).1 :=
    hauthority.of_subset fun c hc => splitUser_snd_subset _ (splitHost_fst_subset _ hc)
  refine ⟨?_, ?_, ?_, ?_⟩
  · rw [huser]
    exact unbroken_encodeWith (by decide) (by decide) _
  · exact hwritten.of_marks fun x hx hs => not_mem_location hx hs hhost
  · rw [hp hscheme]
    exact rooted_encode (rooted_normalPath hpath)
  · rw [hp hscheme]
    intro hmark
    exact absurd (mem_of_mem_encodeWith .question hmark).2 (by decide)

/-- The path of an address as it is sent, which is never empty. -/
def sentPath (u : Url) : List Char :=
  if u.path.isEmpty then ['/'] else u.path

theorem target_eq (u : Url) : u.target = u.sentPath ++ u.query.elim [] ('?' :: ·) := by
  unfold target sentPath
  cases u.query <;> rfl

/-- **The path and the query can be read off an address as it is sent.** -/
theorem path_eq_of_sent_eq {u v : Url} (hu : u.Placed) (hv : v.Placed)
    (hscheme : u.scheme = v.scheme) (h : u.sent = v.sent) :
    u.sentPath = v.sentPath ∧ u.query = v.query := by
  have hroot {w : Url} (hw : w.Placed) : ∃ p, w.sentPath = '/' :: p := by
    unfold sentPath
    cases hp : w.path with
    | nil => exact ⟨[], rfl⟩
    | cons c p =>
      obtain rfl := hw.rooted c (by rw [hp]; rfl)
      exact ⟨p, rfl⟩
  have hmark {w : Url} (hw : w.Placed) : '?' ∉ w.sentPath := by
    unfold sentPath
    split
    · decide
    · exact hw.path
  have hslash {w : Url} (hw : w.Placed) : '/' ∉ w.location := fun hx => (hw.location _ hx).1 rfl
  -- Up to the first slash there is the location, and from there to the first mark the path.
  have hchars := congrArg String.toList h
  simp only [sent, String.toList_ofList, hscheme, List.append_assoc, List.append_cancel_left_eq,
    List.cons.injEq, true_and, List.cons_append] at hchars
  obtain ⟨p, hp⟩ := hroot hu
  obtain ⟨p', hp'⟩ := hroot hv
  obtain ⟨-, htarget⟩ := append_inj_of_mark (hslash hu) (hslash hv)
    (by show ∀ c, (u.sentPath ++ _).head? = some c → c = '/'
        rw [hp]
        exact fun c hc => (Option.some.inj hc).symm)
    (by show ∀ c, (v.sentPath ++ _).head? = some c → c = '/'
        rw [hp']
        exact fun c hc => (Option.some.inj hc).symm) hchars
  have hquery (w : Url) (c : Char) (hc : (w.query.elim [] ('?' :: ·)).head? = some c) :
      c = '?' := by
    cases hq : w.query with
    | none => rw [hq] at hc; cases hc
    | some q => rw [hq] at hc; exact (Option.some.inj hc).symm
  rw [target_eq, target_eq] at htarget
  obtain ⟨hpath, hq⟩ :=
    append_inj_of_mark (hmark hu) (hmark hv) (hquery u) (hquery v) htarget
  refine ⟨hpath, ?_⟩
  cases hqu : u.query <;> cases hqv : v.query <;> simp_all

/-! ## Addresses below an address -/

/-- A text encoded for a path has as many slashes as before. -/
theorem count_encodeWith (p : List Char) :
    (encodeWith isPathChar p).count '/' = p.count '/' := by
  induction p with
  | nil => rfl
  | cons c p ih =>
    show ((if isPathChar c then [c] else escapeChar c) ++ encodeWith isPathChar p).count '/' = _
    rw [List.count_append, ih, List.count_cons, Nat.add_comm]
    congr 1
    by_cases hc : isPathChar c = true
    · rw [if_pos hc, List.count_singleton]
    · have hne : c ≠ '/' := by
        rintro rfl
        exact hc (by decide)
      rw [if_neg hc, List.count_eq_zero_of_not_mem (not_mem_escapeChar .slash c),
        if_neg (by simpa using hne)]

theorem encodeWith_append (keep : Char → Bool) (s t : List Char) :
    encodeWith keep (s ++ t) = encodeWith keep s ++ encodeWith keep t :=
  List.flatMap_append

theorem encodeWith_of_forall {keep : Char → Bool} {s : List Char} (h : ∀ c ∈ s, keep c = true) :
    encodeWith keep s = s := by
  induction s with
  | nil => rfl
  | cons c s ih =>
    obtain ⟨hc, hs⟩ := List.forall_mem_cons.mp h
    show (if keep c then [c] else escapeChar c) ++ encodeWith keep s = c :: s
    rw [if_pos hc, ih hs]
    rfl

/-- **Whether a text stays at the end of a path** that it is put after: none of
the segments that it adds is a dot segment. -/
def Stays (t : List Char) : Prop := ∀ s ∈ splitAll '/' (pathPart t), ¬ IsDots s

instance (t : List Char) : Decidable (Stays t) :=
  decidable_of_iff ((splitAll '/' (pathPart t)).all fun s => !decide (IsDots s)) (by simp [Stays])

theorem pathPart_of_endsAtPath {t : List Char} (h : EndsAtPath t) : pathPart t = t := by
  unfold pathPart
  rw [cutBefore_of_forall h]

/-- Nothing that may stand in a path ends one. -/
theorem endsAtPath_of_forall {t : List Char} (h : ∀ c ∈ t, isPathChar c = true) : EndsAtPath t := by
  intro c hc
  have := h c hc
  simp only [isPathChar, isQueryChar, Bool.and_eq_true, bne_iff_ne, ne_eq] at this
  simp [this]

/-- Of what may stand in a path, all is in the path as it is written. -/
theorem encodeWith_pathPart {t : List Char} (h : ∀ c ∈ t, isPathChar c = true) :
    encodeWith isPathChar (pathPart t) = t := by
  rw [pathPart_of_endsAtPath (endsAtPath_of_forall h), encodeWith_of_forall h]

theorem pathPart_append {s t : List Char} (h : EndsAtPath s) :
    pathPart (s ++ t) = s ++ pathPart t := by
  unfold pathPart
  rw [cutBefore_append_of_forall h]

theorem authority_of_host {r : Reference} {u : Url} (h : ofReference? r = some u)
    (hhost : u.host ≠ []) : r.authority ≠ [] := by
  intro hr
  obtain ⟨-, -, hh, -⟩ := of_ofReference? h
  rw [hr] at hh
  exact hhost (Option.some.inj hh).symm

/-- Checking parts anew is reading them anew. -/
theorem of_revise? {r : Reference} {u : Url} (h : revise? r = some u) :
    ofReference? r = some u := by
  unfold revise? at h
  dsimp only at h
  split at h
  · exact h
  · cases h

/-- An address with a scheme and a host is read as it is written. -/
theorem of_ofString? {s : String} {u : Url} (h : ofString? s = some u) :
    ∃ v, ofReference? (Reference.ofChars s.toList) = some v ∧
      (u.isAbsolute = true ∨ v.isAbsolute = true → u = v) := by
  obtain ⟨v, hv, h⟩ := Option.bind_eq_some_iff.mp h
  have hread : ofReference? (Reference.ofChars s.toList) = some v := by
    unfold read? at hv
    split at hv
    · cases hv
    · exact hv
  refine ⟨v, hread, fun habs => ?_⟩
  unfold located? at h
  split at h
  · exact (Option.some.inj h).symm
  · next hnot =>
    -- What is put in its place has no scheme.
    have hu : u.isAbsolute = true := habs.resolve_right hnot
    obtain ⟨hscheme, -⟩ := of_ofReference? (of_revise? h)
    rw [isAbsolute, hscheme] at hu
    cases hu

end Url

namespace Service

open Url

/-- What is known of the address of a request. -/
theorem of_address {s : Service} {url : String} {form : Option Form} {u : Url}
    (h : s.address url form = .ok u) :
    ∃ v, ofString? url = some v ∧ form.elim (some v) (v.withQuery? ·.query?) = some u := by
  unfold address at h
  split at h
  · next v hv =>
    dsimp only at h
    split at h
    · cases h
    split at h
    · next w hw =>
      split at h
      · obtain rfl := Except.ok.inj h
        exact ⟨v, hv, hw⟩
      · cases h
    · cases h
  · cases h

/-- **An address that others can be below**: it ends at its path, and it has a
scheme and a host. -/
structure Base (s : Service) (url : String) (u : Url) : Prop where
  /-- It ends at its path. -/
  ends : EndsAtPath url.toList
  /-- It can be asked. -/
  address : s.address url none = .ok u
  /-- It has a scheme and a host. -/
  absolute : u.isAbsolute = true

namespace Base

variable {s : Service} {base : String} {u₀ : Url}

theorem read (hb : Base s base u₀) : ofReference? (Reference.ofChars base.toList) = some u₀ := by
  obtain ⟨v, hv, hu⟩ := of_address hb.address
  obtain rfl := Option.some.inj hu
  obtain ⟨w, hw, he⟩ := of_ofString? hv
  rw [he (.inl hb.absolute)]
  exact hw

theorem host_ne (hb : Base s base u₀) : u₀.host ≠ [] := by
  have := hb.absolute
  unfold isAbsolute at this
  simp only [Bool.and_eq_true, Bool.not_eq_true', List.isEmpty_eq_false_iff] at this
  exact this.2

theorem scheme_ne (hb : Base s base u₀) : (Reference.ofChars base.toList).scheme ≠ [] := by
  have := hb.absolute
  unfold isAbsolute at this
  rw [(of_ofReference? hb.read).1] at this
  intro he
  rw [he] at this
  cases this

theorem rooted_written (hb : Base s base u₀) : Rooted (Reference.ofChars base.toList).path :=
  (of_ofReference? hb.read).2.2.2.2.1 hb.host_ne

theorem placed (hb : Base s base u₀) : u₀.Placed :=
  placed_of_ofReference? hb.read hb.scheme_ne unbroken_splitAuthority hb.rooted_written

theorem query (hb : Base s base u₀) : u₀.query = none := by
  obtain ⟨-, -, -, -, -, -, hq⟩ := of_ofReference? hb.read
  rw [hq, query_ofChars hb.ends]
  rfl

/-- What goes on after a slash is written below. -/
theorem ofChars_append (hb : Base s base u₀) (t : List Char) :
    Reference.ofChars (base.toList ++ '/' :: t) =
      (Reference.ofChars base.toList).goOn ('/' :: t) := by
  refine Url.ofChars_append hb.ends ?_
  have hne : (splitAuthority (splitScheme base.toList).2).1 ≠ [] :=
    authority_of_host hb.read hb.host_ne
  unfold splitAuthority at hne
  split at hne
  · next heq =>
    rw [heq]
    exact Nat.le_add_left 2 _
  · exact absurd rfl hne

/-- An address below another one is read as that one with a text after its path. -/
theorem read_below (hb : Base s base u₀) {url : String} {t : List Char}
    (hurl : url.toList = base.toList ++ '/' :: t) {u : Url} (h : ofString? url = some u) :
    ofReference? ((Reference.ofChars base.toList).goOn ('/' :: t)) = some u ∧
      u.isAbsolute = true := by
  obtain ⟨w, hw, he⟩ := Url.of_ofString? h
  rw [hurl, hb.ofChars_append] at hw
  obtain ⟨hscheme, hhost, -⟩ := location_eq_of_ofReference? hb.read hw rfl rfl
  have habs : w.isAbsolute = true := by
    unfold isAbsolute
    rw [hscheme, hhost]
    exact hb.absolute
  obtain rfl := he (.inr habs)
  exact ⟨hw, habs⟩

/-- What is known of an address that is read below another one. -/
theorem of_ofString? (hb : Base s base u₀) {url : String} {t : List Char}
    (hurl : url.toList = base.toList ++ '/' :: t) (ht : Stays t) {u : Url}
    (h : ofString? url = some u) :
    u.Placed ∧ u.isAbsolute = true ∧ u.scheme = u₀.scheme ∧
      u.path = u₀.path ++ '/' :: encodeWith isPathChar (pathPart t) ∧
      ('?' ∉ t → u.query = none) := by
  obtain ⟨hw, habs⟩ := hb.read_below hurl h
  obtain ⟨hscheme, hhost, -⟩ := location_eq_of_ofReference? hb.read hw rfl rfl
  have hslash : pathPart ('/' :: t) = '/' :: pathPart t :=
    pathPart_append (s := ['/']) (by decide)
  obtain ⟨-, -, -, -, hrooted, hpath, hquery⟩ := of_ofReference? hw
  obtain ⟨-, -, -, -, -, hpath₀, -⟩ := of_ofReference? hb.read
  refine ⟨placed_of_ofReference? hw hb.scheme_ne unbroken_splitAuthority
    (hrooted (hhost ▸ hb.host_ne)), habs, hscheme, ?_, fun hmark => ?_⟩
  · rw [hpath hb.scheme_ne, hpath₀ hb.scheme_ne]
    show encodeWith isPathChar (normalPath (_ ++ pathPart ('/' :: t))) = _
    rw [hslash, normalPath_append hb.rooted_written ht, encodeWith_append]
    rfl
  · rw [hquery, query_goOn (by simpa using hmark)]
    rfl

/-- **An address below another one** has the path of that one, and then its
own. -/
theorem of_address (hb : Base s base u₀) {url : String} {t : List Char}
    (hurl : url.toList = base.toList ++ '/' :: t) (ht : Stays t) {u : Url}
    (h : s.address url none = .ok u) :
    u.Placed ∧ u.scheme = u₀.scheme ∧
      u.path = u₀.path ++ '/' :: encodeWith isPathChar (pathPart t) ∧
      ('?' ∉ t → u.query = none) := by
  obtain ⟨v, hv, hu⟩ := Service.of_address h
  obtain rfl := Option.some.inj hu
  obtain ⟨hplaced, -, hscheme, hpath, hquery⟩ := hb.of_ofString? hurl ht hv
  exact ⟨hplaced, hscheme, hpath, hquery⟩

section Requests

variable {url url' : String} {t t' : List Char} {u u' : Url}

/-- **Addresses below one are told apart, as they are sent, by what is put after its path**, if
it stays where it is put. -/
theorem pathPart_eq_of_sent_eq (hb : Base s base u₀)
    (hurl : url.toList = base.toList ++ '/' :: t) (hurl' : url'.toList = base.toList ++ '/' :: t')
    (ht : Stays t) (ht' : Stays t') (h : s.address url none = .ok u)
    (h' : s.address url' none = .ok u') (hq : u.sent = u'.sent) :
    encodeWith isPathChar (pathPart t) = encodeWith isPathChar (pathPart t') := by
  obtain ⟨hplaced, hscheme, hpath, -⟩ := hb.of_address hurl ht h
  obtain ⟨hplaced', hscheme', hpath', -⟩ := hb.of_address hurl' ht' h'
  obtain ⟨hp, -⟩ := Url.path_eq_of_sent_eq hplaced hplaced' (hscheme.trans hscheme'.symm) hq
  rw [Url.sentPath, Url.sentPath, hpath, hpath', if_neg (by simp), if_neg (by simp)] at hp
  exact (List.cons.inj (List.append_cancel_left hp)).2

/-- Requests are told apart by all that is put there, if it is written in characters of a path. -/
theorem eq_of_request_eq (hb : Base s base u₀) (hurl : url.toList = base.toList ++ '/' :: t)
    (hurl' : url'.toList = base.toList ++ '/' :: t') (ht : Stays t) (ht' : Stays t')
    (hkeep : ∀ c ∈ t, isPathChar c = true) (hkeep' : ∀ c ∈ t', isPathChar c = true)
    (h : s.address url none = .ok u) (h' : s.address url' none = .ok u')
    (hq : s.request u = s.request u') : t = t' := by
  rw [← encodeWith_pathPart hkeep, ← encodeWith_pathPart hkeep']
  exact hb.pathPart_eq_of_sent_eq hurl hurl' ht ht' h h' (congrArg Request.url hq)

/-- **Nothing else tells them apart**, if there is no query: neither what stands before the
path nor the fragment. -/
theorem request_eq_of_pathPart_eq (hb : Base s base u₀)
    (hurl : url.toList = base.toList ++ '/' :: t) (hurl' : url'.toList = base.toList ++ '/' :: t')
    (ht : Stays t) (ht' : Stays t') (hmark : '?' ∉ t) (hmark' : '?' ∉ t')
    (h : s.address url none = .ok u) (h' : s.address url' none = .ok u')
    (hp : encodeWith isPathChar (pathPart t) = encodeWith isPathChar (pathPart t')) :
    s.request u = s.request u' := by
  obtain ⟨-, hscheme, hpath, hquery⟩ := hb.of_address hurl ht h
  obtain ⟨-, hscheme', hpath', hquery'⟩ := hb.of_address hurl' ht' h'
  obtain ⟨v, hv, hu⟩ := Service.of_address h
  obtain ⟨v', hv', hu'⟩ := Service.of_address h'
  obtain rfl := Option.some.inj hu
  obtain rfl := Option.some.inj hu'
  obtain ⟨hread, -⟩ := hb.read_below hurl hv
  obtain ⟨hread', -⟩ := hb.read_below hurl' hv'
  have hlocation : v'.location = v.location :=
    (location_eq_of_ofReference? hread hread' rfl rfl).2.2
  have huser : v'.user = v.user :=
    (of_ofReference? hread').2.1.trans (of_ofReference? hread).2.1.symm
  have hsent : v.sent = v'.sent := by
    rw [Url.sent, Url.sent, Url.target_eq, Url.target_eq, Url.sentPath, Url.sentPath, hscheme,
      hscheme', hlocation, hpath, hpath', hp, hquery hmark, hquery' hmark']
  rw [Service.request, Service.request, hsent, Service.headersFor, Service.headersFor, huser]

end Requests

/-- **With a form, the address below another one is read anew.** It has its own
path after one with no more slashes. -/
theorem of_address_form (hb : Base s base u₀) {url : String} {t : List Char}
    (hurl : url.toList = base.toList ++ '/' :: t) (ht : Stays t)
    (hkeep : ∀ c ∈ t, isPathChar c = true) {form : Form} (hform : form ≠ []) {u : Url}
    (h : s.address url (some form) = .ok u) :
    u.Placed ∧ u.scheme = u₀.scheme ∧
      u.path = encodeWith isPathChar (normalPath u₀.path) ++ '/' :: t ∧ u.query ≠ none := by
  have hends : EndsAtPath t := endsAtPath_of_forall hkeep
  have hplain : ∀ p ∈ Text.splitAll '/' t, ¬ IsDots p := by
    unfold Stays at ht
    rwa [pathPart_of_endsAtPath hends] at ht
  obtain ⟨v, hv, hu⟩ := Service.of_address h
  obtain ⟨hplaced, habs, hscheme, hpath, -⟩ := hb.of_ofString? hurl ht hv
  rw [encodeWith_pathPart hkeep] at hpath
  -- The form is added to an address that was read before, and that is now read again.
  have hread := of_revise? hu
  have hne : v.scheme ≠ [] := by
    unfold isAbsolute at habs
    simp only [Bool.and_eq_true, Bool.not_eq_true', List.isEmpty_eq_false_iff] at habs
    exact habs.1
  obtain ⟨hscheme', -, -, -, -, hpath', hquery'⟩ := of_ofReference? hread
  refine ⟨placed_of_ofReference? hread hne ?_ hplaced.rooted, ?_, ?_, ?_⟩
  · show Unbroken ((if _ then [] else _) ++ _)
    rw [unbroken_append]
    refine ⟨?_, hplaced.location⟩
    split
    · exact unbroken_nil
    · simp [hplaced.user]
  · rw [hscheme']
    show v.scheme.map Char.toLower = u₀.scheme
    rw [hscheme, (of_ofReference? hb.read).1, List.map_map]
    congr 1
    exact funext Text.toLower_toLower
  · rw [hpath' hne]
    show encodeWith isPathChar (normalPath v.path) = _
    rw [hpath, normalPath_append hb.placed.rooted hplain, encodeWith_append]
    show _ ++ encodeWith isPathChar ('/' :: t) = _
    rw [encodeWith_of_forall (List.forall_mem_cons.mpr ⟨by decide, hkeep⟩)]
  · rw [hquery']
    show Option.map _ (Form.query? form) ≠ none
    unfold Form.query?
    rw [if_neg (by simpa using hform)]
    exact Option.some_ne_none _

/-- What stands before has no more slashes when it is read anew. -/
theorem count_path_le (hb : Base s base u₀) :
    (encodeWith isPathChar (normalPath u₀.path)).count '/' ≤ u₀.path.count '/' := by
  rw [count_encodeWith]
  exact count_normalPath_le hb.placed.rooted

end Base

end Service

end PackageVitals
