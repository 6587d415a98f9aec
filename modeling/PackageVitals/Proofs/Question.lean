import Mathlib.Data.Bool.AllAny
import PackageVitals.Proofs.Opening

/-!
# Questions to deps.dev

Four kinds of questions are asked of deps.dev, each with names that may be any text. A question
becomes an address by way of a list of segments, and no two questions share an address
(`Question.url_injective`): no segment has a slash in it, so the address gives its
segments back; their number and the first of them tell the kind of question; and the
encoding of a name can be undone (`unescapedBytes_encodeWith`).

An address is not yet what is sent. Dot segments are resolved, and a dot needs no encoding,
so a name that is nothing but one or two dots takes its segment away and perhaps
the one before. Where it fills no segment of its own nothing is lost, and requests
are told apart like addresses (`Question.eq_of_requests`).
-/

namespace PackageVitals

namespace Url

/-! ## The encoding undone -/

theorem hexDigit?_hexDigit : ∀ n < 16, Text.hexDigit? (hexDigit n) = some n := by
  decide

theorem unescapedBytes_escapeByte (b : UInt8) (rest : List Char) :
    unescapedBytes (escapeByte b ++ rest) = b :: unescapedBytes rest := by
  have hb : b.toNat < 256 := b.toNat_lt
  show unescapedBytes ('%' :: hexDigit (b.toNat / 16) :: hexDigit (b.toNat % 16) :: rest) = _
  rw [unescapedBytes, hexDigit?_hexDigit _ (by omega), hexDigit?_hexDigit _ (by omega)]
  show UInt8.ofNat (16 * (b.toNat / 16) + b.toNat % 16) :: _ = _
  rw [Nat.div_add_mod, UInt8.ofNat_toNat]

theorem unescapedBytes_flatMap (bs : List UInt8) (rest : List Char) :
    unescapedBytes (bs.flatMap escapeByte ++ rest) = bs ++ unescapedBytes rest := by
  induction bs with
  | nil => rfl
  | cons b bs ih => rw [List.flatMap_cons, List.append_assoc, unescapedBytes_escapeByte, ih]; rfl

theorem unescapedBytes_cons {c : Char} (hc : c ≠ '%') (rest : List Char) :
    unescapedBytes (c :: rest) = String.utf8EncodeChar c ++ unescapedBytes rest := by
  rw [unescapedBytes]
  rintro a b rest rfl
  exact absurd rfl hc

/-- **An encoded text gives its bytes back**, unless a percent sign in it is kept. -/
theorem unescapedBytes_encodeWith {keep : Char → Bool} {s : List Char}
    (h : '%' ∈ s → keep '%' = false) :
    unescapedBytes (encodeWith keep s) = s.flatMap String.utf8EncodeChar := by
  induction s with
  | nil => rfl
  | cons c s ih =>
    rw [encodeWith, List.flatMap_cons, List.flatMap_cons, ← encodeWith,
      ← ih fun hmem => h (List.mem_cons_of_mem c hmem)]
    split
    · next hc =>
      have hne : c ≠ '%' := fun he => Bool.eq_false_iff.mp (h (he ▸ List.mem_cons_self)) (he ▸ hc)
      rw [List.singleton_append, unescapedBytes_cons hne]
    · rw [escapeChar, unescapedBytes_flatMap]

/-- Texts with the same bytes are the same. -/
theorem flatMap_utf8EncodeChar_injective :
    Function.Injective fun s : List Char => s.flatMap String.utf8EncodeChar := by
  intro s t h
  have hbytes : s.utf8Encode = t.utf8Encode := congrArg List.toByteArray h
  rw [← String.toByteArray_ofList, ← String.toByteArray_ofList] at hbytes
  exact String.ofList_inj.mp (String.toByteArray_inj.mp hbytes)

theorem encodeSegment_injective : Function.Injective encodeSegment := by
  intro s t h
  have hchars := String.ofList_inj.mp h
  have hbytes := congrArg unescapedBytes hchars
  rw [unescapedBytes_encodeWith fun _ => by decide,
    unescapedBytes_encodeWith fun _ => by decide] at hbytes
  exact String.toList_inj.mp (flatMap_utf8EncodeChar_injective hbytes)

end Url

namespace DepsDev

open Url (encodeSegment encodeSegment_injective)

/-! ## Four kinds of questions -/

/-- **A question to deps.dev.** -/
inductive Question where
  /-- What is the latest version of a package? -/
  | latestVersion (system name : String)
  /-- Which project is the source of a version? -/
  | sourceProject (system name version : String)
  /-- How many packages depend on a version? -/
  | dependents (system name version : String)
  /-- What is known of a project? -/
  | project (key : String)
  deriving DecidableEq

namespace Question

/-- The address of a question. -/
def url (c : Client) : Question → String
  | latestVersion system name => c.latestVersionUrl system name
  | sourceProject system name version => c.versionUrl system name version
  | dependents system name version => c.dependentsUrl system name version
  | project key => c.projectUrl key

/-- Asking a question, whatever comes of it. -/
def ask (c : Client) : Question → Action Unit
  | latestVersion system name => do let _ ← c.latestVersion system name
  | sourceProject system name version => do let _ ← c.sourceProject system name version
  | dependents system name version => do let _ ← c.dependents system name version
  | project key => do let _ ← c.project key

/-- **The segments of the address**, after those of the root. -/
def segments : Question → List (List Char)
  | latestVersion system name =>
    ["v3".toList, "systems".toList, (encodeSegment system).toList, "packages".toList,
      (encodeSegment name).toList]
  | sourceProject system name version =>
    ["v3".toList, "systems".toList, (encodeSegment system).toList, "packages".toList,
      (encodeSegment name).toList, "versions".toList, (encodeSegment version).toList]
  | dependents system name version =>
    ["v3alpha".toList, "systems".toList, (encodeSegment system).toList, "packages".toList,
      (encodeSegment name).toList, "versions".toList,
      (encodeSegment version).toList ++ ":dependents".toList]
  | project key => ["v3".toList, "projects".toList, (encodeSegment key).toList]

/-- The names that fill a segment of their own. Only the version whose dependents are
counted has something after it. -/
def names : Question → List String
  | latestVersion system name => [system, name]
  | sourceProject system name version => [system, name, version]
  | dependents system name _ => [system, name]
  | project key => [key]

/-- **Whether every segment stays where it is put**: no name that fills one is `.` or `..`. -/
def Stays (a : Question) : Prop :=
  ∀ s ∈ a.names, s ≠ "." ∧ s ≠ ".."

instance (a : Question) : Decidable a.Stays :=
  inferInstanceAs (Decidable (∀ s ∈ a.names, s ≠ "." ∧ s ≠ ".."))

/-- The address is the root, a slash, and the segments. -/
theorem url_eq (c : Client) (a : Question) :
    (a.url c).toList = c.root.toList ++ '/' :: ['/'].intercalate a.segments := by
  cases a <;> simp [url, segments, Client.latestVersionUrl, Client.versionUrl, Client.dependentsUrl,
    Client.projectUrl, Client.packageUrl, List.intercalate_cons_cons]

/-! ## Addresses of questions -/

/-- What holds of the segments that are always the same and of those that come from names
holds of all segments. -/
theorem forall_mem_segments {P : List Char → Prop} {a : Question}
    (hfixed : ∀ s ∈ ["v3", "v3alpha", "systems", "packages", "versions", "projects"], P s.toList)
    (hname : ∀ s ∈ a.names, P (encodeSegment s).toList)
    (hcount : ∀ version, P ((encodeSegment version).toList ++ ":dependents".toList)) :
    ∀ s ∈ a.segments, P s := by
  cases a <;> simp_all [segments, names]

/-- The segments are written in characters of a path that are no slash. -/
theorem keep_of_mem_segments (a : Question) :
    ∀ s ∈ a.segments, ∀ c ∈ s, Url.isPathChar c = true ∧ c ≠ '/' :=
  forall_mem_segments (fun s hs => List.all_iff_forall_prop.mp (by revert s; decide))
    (fun s _ => Url.keep_encodeSegment s) fun version => List.forall_mem_append.mpr
      ⟨Url.keep_encodeSegment version, List.all_iff_forall_prop.mp (by decide)⟩

/-- The address gives its segments back. -/
theorem splitAll_segments (a : Question) :
    Text.splitAll '/' (['/'].intercalate a.segments) = a.segments :=
  Text.splitAll_intercalate (by cases a <;> exact List.cons_ne_nil _ _) fun s hs hslash =>
    (keep_of_mem_segments a s hs '/' hslash).2 rfl

/-- **Questions with the same segments are the same.** -/
theorem segments_injective : Function.Injective segments := by
  have hname {s t : String} (h : (encodeSegment s).toList = (encodeSegment t).toList) : s = t :=
    encodeSegment_injective (String.toList_inj.mp h)
  have hinterface : "v3".toList ≠ "v3alpha".toList := by decide
  intro a b h
  -- The number of segments tells all kinds apart but two, and these have other first segments.
  cases a with
  | latestVersion system name =>
    cases b with
    | latestVersion system' name' =>
      simp only [segments, List.cons.injEq, true_and, and_true] at h
      rw [hname h.1, hname h.2]
    | _ => simp [segments] at h
  | sourceProject system name version =>
    cases b with
    | sourceProject system' name' version' =>
      simp only [segments, List.cons.injEq, true_and, and_true] at h
      rw [hname h.1, hname h.2.1, hname h.2.2]
    | dependents => exact absurd (List.cons.inj h).1 hinterface
    | _ => simp [segments] at h
  | dependents system name version =>
    cases b with
    | dependents system' name' version' =>
      simp only [segments, List.cons.injEq, true_and, and_true] at h
      rw [hname h.1, hname h.2.1, hname (List.append_cancel_right h.2.2)]
    | sourceProject => exact absurd (List.cons.inj h).1 hinterface.symm
    | _ => simp [segments] at h
  | project key =>
    cases b with
    | project key' =>
      simp only [segments, List.cons.injEq, true_and, and_true] at h
      rw [hname h]
    | _ => simp [segments] at h

/-- **No two questions have one address**, whatever the root is. -/
theorem url_injective (c : Client) : Function.Injective (url c) := by
  intro a b h
  have hurls := congrArg String.toList h
  rw [url_eq, url_eq] at hurls
  have hsegments := congrArg (Text.splitAll '/') (List.cons.inj (List.append_cancel_left hurls)).2
  rw [splitAll_segments, splitAll_segments] at hsegments
  exact segments_injective hsegments

/-! ## Requests of questions -/

/-- Only a name of dots is encoded as a dot segment. -/
theorem not_isDots_encodeSegment {s : String} (h : s ≠ "." ∧ s ≠ "..") :
    ¬ Url.IsDots (encodeSegment s).toList := by
  have hdot : (encodeSegment ".").toList = ['.'] := by decide
  have hdots : (encodeSegment "..").toList = ['.', '.'] := by decide
  rintro (hs | hs)
  · exact h.1 (encodeSegment_injective (String.toList_inj.mp (hs.trans hdot.symm)))
  · exact h.2 (encodeSegment_injective (String.toList_inj.mp (hs.trans hdots.symm)))

theorem not_isDots_of_mem_segments {a : Question} (h : a.Stays) :
    ∀ s ∈ a.segments, ¬ Url.IsDots s := by
  have hcolon {s : List Char} (hs : Url.IsDots s) : ':' ∉ s := by
    rcases hs with rfl | rfl <;> decide
  exact forall_mem_segments (by decide) (fun s hs => not_isDots_encodeSegment (h s hs))
    fun version hs => hcolon hs (by simp)

/-- The segments are written in characters of a path, and so are the slashes. -/
theorem keep_segments (a : Question) :
    ∀ c ∈ ['/'].intercalate a.segments, Url.isPathChar c = true :=
  forall_mem_intercalate (by decide) fun s hs c hc => (keep_of_mem_segments a s hs c hc).1

/-- The segments stay after any others. -/
theorem stays_segments {a : Question} (h : a.Stays) :
    Url.Stays (['/'].intercalate a.segments) := by
  unfold Url.Stays
  rw [Url.pathPart_of_endsAtPath (Url.endsAtPath_of_forall (keep_segments a)), splitAll_segments]
  exact not_isDots_of_mem_segments h

/-- **A question is one request**, in every world: the one for its address. -/
theorem requests_ask (c : Client) (a : Question) (w : World σ) (s : σ) :
    (w.run (a.ask c).attempt s).requests = service.opening (a.url c) := by
  have hfetch {α β : Type} (url : String) (read : Json → Except Failure α) (f : Option α → β) :
      (w.run (do return f (← service.fetchJson url none read)).attempt s).requests =
        service.opening url :=
    (w.requests_map _ f s).trans (service.requests_fetchJson w url read s)
  cases a with
  | latestVersion system name =>
    exact (w.requests_map (c.latestVersion system name) (fun _ => ()) s).trans (hfetch _ _ _)
  | sourceProject system name version =>
    exact (w.requests_map (c.sourceProject system name version) (fun _ => ()) s).trans
      (hfetch _ _ _)
  | dependents system name version =>
    exact (w.requests_map (c.dependents system name version) (fun _ => ()) s).trans
      (hfetch _ _ _)
  | project key => exact hfetch _ _ fun _ => ()

/-- **Questions with one request are the same**, if all of their segments stay. -/
theorem eq_of_opening {c : Client} {u₀ : Url} (hb : service.Base c.root u₀) {a b : Question}
    (ha : a.Stays) (hb' : b.Stays) {q : Request} (hqa : q ∈ service.opening (a.url c))
    (hqb : q ∈ service.opening (b.url c)) : a = b := by
  obtain ⟨u, hu, rfl⟩ := service.exists_of_mem_opening hqa
  obtain ⟨u', hu', hq⟩ := service.exists_of_mem_opening hqb
  have hsegments := congrArg (Text.splitAll '/') (hb.eq_of_request_eq (url_eq c a) (url_eq c b)
    (stays_segments ha) (stays_segments hb') (keep_segments a) (keep_segments b) hu hu' hq)
  rw [splitAll_segments, splitAll_segments] at hsegments
  exact segments_injective hsegments

end Question

/-- **Questions are told apart.** No two questions have one address, whatever the root of the
interface is. Below a root with a scheme and a host no two questions lead to one request
either, in any worlds, if no name that fills a segment of its own is `.` or `..`. -/
theorem questions_apart (c : Client) :
    (∀ a b : Question, a.url c = b.url c → a = b) ∧
    ∀ u₀ : Url, service.Base c.root u₀ →
      ∀ a b : Question, a.Stays → b.Stays →
        ∀ {σ τ : Type} (w : World σ) (w' : World τ) (s : σ) (s' : τ),
          ∀ q ∈ (w.run (a.ask c).attempt s).requests,
            q ∈ (w'.run (b.ask c).attempt s').requests → a = b := by
  refine ⟨fun _ _ h => Question.url_injective c h, ?_⟩
  intro u₀ hb a b ha hb' σ τ w w' s s' q hqa hqb
  rw [Question.requests_ask] at hqa hqb
  exact Question.eq_of_opening hb ha hb' hqa hqb

/-- Access at the standard root. -/
def atStandard : Client := .connect none none

/-- What is the latest version of a package with a scope? -/
def aboutTypes : Question := .latestVersion "NPM" "@types/node"

/-- No other question has the address of this one, or its request. -/
theorem questions_apart_scoped :
    (∀ a : Question, a.url atStandard =
      "https://api.deps.dev/v3/systems/NPM/packages/%40types%2Fnode" → a = aboutTypes) ∧
    aboutTypes.Stays ∧ ∃ q ∈ (Registry.bare.run (aboutTypes.ask atStandard).attempt ()).requests,
      ∀ a : Question, a.Stays → q ∈ (Registry.bare.run (a.ask atStandard).attempt ()).requests →
        a = aboutTypes := by
  obtain ⟨haddresses, hrequests⟩ := questions_apart atStandard
  have hroot : atStandard.root = standardRoot := by decide +kernel
  obtain ⟨u₀, hbase⟩ := base_standardRoot
  have hstays : aboutTypes.Stays := by decide
  have hasked : (⟨"https://api.deps.dev/v3/systems/NPM/packages/%40types%2Fnode",
      [("Accept", "application/json")]⟩ : Request) ∈
        (Registry.bare.run (aboutTypes.ask atStandard).attempt ()).requests := by
    rw [Question.requests_ask]
    decide +kernel
  refine ⟨fun a h => haddresses a _ (h.trans (by decide +kernel)), hstays, _, hasked,
    fun a ha hq => ?_⟩
  exact hrequests u₀ (hroot ▸ hbase) a _ ha hstays _ _ () () _ hq hasked

/-- **A version of two dots takes its segment away**, so that the question for its source is
asked like that for the latest version of the package. -/
theorem one_request_of_dots :
    Question.sourceProject "NPM" "x" ".." ≠ .latestVersion "NPM" "x" ∧
      ∃ q : Request, q.url = "https://api.deps.dev/v3/systems/NPM/packages/x" ∧
        ∀ {σ : Type} (w : World σ) (s : σ),
          (w.run ((Question.sourceProject "NPM" "x" "..").ask atStandard).attempt s).requests =
              [q] ∧
            (w.run ((Question.latestVersion "NPM" "x").ask atStandard).attempt s).requests =
              [q] := by
  refine ⟨by decide, ⟨_, [("Accept", "application/json")]⟩, rfl, fun w s => ?_⟩
  rw [Question.requests_ask, Question.requests_ask]
  constructor <;> decide +kernel

end DepsDev

end PackageVitals
