import PackageVitals.Proofs.Address
import PackageVitals.Proofs.Opening

/-!
# Where the token goes

The token is between the user and GitHub. An analysis shows it to nobody
else, and it has no part in what comes of the analysis: with another token
or none, and in a world that looks at addresses only, everything but the
headers is the same.

There is one other way to an authorization. A root can name a user before
its host, and then every request at that root tells who the user is, in the
place of anything else. So what a request may carry is nothing, the user of
the root it goes to, or – at the root of GitHub and about a repository – the
token (`Settings.Authorized`). Both parts are `Settings.token_confined`.
-/

namespace PackageVitals

/-! ## The user of an address -/

namespace Url

theorem splitScheme_snd_suffix (s : List Char) : (splitScheme s).2 <:+ s := by
  unfold splitScheme
  dsimp only
  split
  · next rest hrest =>
    split
    · exact (List.suffix_cons ':' rest).trans (hrest ▸ List.dropWhile_suffix _)
    · exact List.suffix_rfl
  · exact List.suffix_rfl

/-- **What is below a root is at its host**, unless the root or what follows
has a slash too many there. -/
theorem authority_append {s t : List Char} (hs : s.getLast? ≠ some '/') (ht : t.head? ≠ some '/') :
    (Reference.ofChars (s ++ '/' :: t)).authority = (Reference.ofChars s).authority := by
  have hsuffix := splitScheme_snd_suffix s
  show (splitAuthority (splitScheme (s ++ '/' :: t)).2).1 = (splitAuthority (splitScheme s).2).1
  rw [splitScheme_append]
  dsimp only
  match (splitScheme s).2, hsuffix with
  | [], _ =>
    cases t with
    | nil => rfl
    | cons c t =>
      have hc : c ≠ '/' := fun hc => ht (congrArg some hc)
      simp [splitAuthority, hc]
  | [a], hsuffix =>
    have ha : a ≠ '/' := by
      obtain ⟨before, rfl⟩ := hsuffix
      simpa using hs
    simp [splitAuthority, ha]
  | a :: b :: rest, _ => rw [splitAuthority_append (Nat.le_add_left 2 _)]

/-- It is, too, if the root has an authority. -/
theorem authority_append_of_length {s t : List Char} (hs : 2 ≤ (splitScheme s).2.length) :
    (Reference.ofChars (s ++ '/' :: t)).authority = (Reference.ofChars s).authority := by
  show (splitAuthority (splitScheme (s ++ '/' :: t)).2).1 = (splitAuthority (splitScheme s).2).1
  rw [splitScheme_append]
  dsimp only
  rw [splitAuthority_append hs]

theorem splitUser_of_not_mem {s : List Char} (hs : '@' ∉ s) : splitUser s = ([], s) := by
  unfold splitUser
  rw [if_neg (by simpa using hs)]

theorem splitUser_append {s t : List Char} (ht : '@' ∉ t) : splitUser (s ++ '@' :: t) = (s, t) := by
  have hcut : cutBefore (· == '@') (s ++ '@' :: t).reverse = (t.reverse, '@' :: s.reverse) := by
    have hreverse : (s ++ '@' :: t).reverse = t.reverse ++ '@' :: s.reverse := by simp
    have hnone : ∀ c ∈ t.reverse, (c == '@') = false := fun c hc =>
      beq_false_of_ne fun he => ht (he ▸ List.mem_reverse.mp hc)
    rw [hreverse, cutBefore_append_of_forall hnone]
    simp [cutBefore]
  unfold splitUser
  rw [if_pos (by simp), hcut]
  simp

/-- No at sign follows the user. -/
theorem not_mem_splitUser_snd (s : List Char) : '@' ∉ (splitUser s).2 := by
  unfold splitUser
  split
  · intro hmem
    have hall := List.all_eq_true.mp List.all_takeWhile '@' (List.mem_reverse.mp hmem)
    simp at hall
  · next h => simpa using h

/-- The host and the socket of an address that was read have no at sign. -/
theorem sign_not_mem_location {r : Reference} {u : Url} (h : ofReference? r = some u) :
    '@' ∉ u.location :=
  not_mem_location .sign (fun hmem => not_mem_splitUser_snd _ (splitHost_fst_subset _ hmem))
    (of_ofReference? h).2.2.1

/-- The characters of an encoded user may stand in one. -/
theorem isUserChar_of_mem_encodeWith {s : List Char} :
    ∀ c ∈ encodeWith isUserChar s, isUserChar c = true := by
  intro c hc
  obtain ⟨d, -, hc⟩ := List.mem_flatMap.mp hc
  split at hc
  · next hd => exact List.mem_singleton.mp hc ▸ hd
  · exact forall_mem_escapeChar (p := (isUserChar · = true)) (by decide) (by decide) d c hc

/-- **An address that is read again names the same user.** -/
theorem user_of_reread {r : Reference} {u : Url} (h : ofReference? r = some u) :
    encodeWith isUserChar (splitUser u.reference.authority).1 = u.user := by
  have hlocation := sign_not_mem_location h
  have hkept : ∀ c ∈ u.user, isUserChar c = true := by
    rw [(of_ofReference? h).2.1]
    exact isUserChar_of_mem_encodeWith
  unfold reference
  dsimp only
  cases huser : u.user with
  | nil =>
    rw [List.isEmpty_nil, if_pos rfl, List.nil_append, splitUser_of_not_mem hlocation]
    rfl
  | cons c rest =>
    rw [List.isEmpty_cons, if_neg Bool.false_ne_true, List.append_assoc, List.singleton_append,
      splitUser_append hlocation]
    exact encodeWith_of_forall (huser ▸ hkept)

/-- The user that an address names as it is written. -/
def writtenUser (s : List Char) : List Char :=
  encodeWith isUserChar (splitUser (Reference.ofChars s).authority).1

theorem writtenUser_congr {s t : List Char}
    (h : (Reference.ofChars s).authority = (Reference.ofChars t).authority) :
    writtenUser s = writtenUser t := by
  unfold writtenUser
  rw [h]

/-- An address that was read names the user that is written in it, or none. -/
theorem user_of_ofString? {s : String} {u : Url} (h : ofString? s = some u) :
    (∃ r, ofReference? r = some u) ∧ (u.user = [] ∨ u.user = writtenUser s.toList) := by
  obtain ⟨v, hv, h⟩ := Option.bind_eq_some_iff.mp h
  unfold located? at h
  split at h
  · obtain rfl := Option.some.inj h
    unfold read? at hv
    split at hv
    · cases hv
    · exact ⟨⟨_, hv⟩, .inr (of_ofReference? hv).2.1⟩
  · have hread := of_revise? h
    exact ⟨⟨_, hread⟩, .inl (of_ofReference? hread).2.1⟩

/-- **What an address asks for that names a user**: the value of the header
that tells who it is. -/
def ownAuthorization? (s : String) : Option String :=
  (authorization? (writtenUser s.toList)).map (·.2)

theorem fst_of_authorization? {user : List Char} {h : String × String}
    (hh : authorization? user = some h) : h.1 = "Authorization" := by
  unfold authorization? at hh
  dsimp only at hh
  split at hh
  · cases hh
  · obtain rfl := Option.some.inj hh
    rfl

end Url

/-- The value of a header that comes last and is the only one of its name. -/
theorem headerValue?_append_singleton {hs : List (String × String)} {h : String × String}
    {name : String} (hothers : ∀ g ∈ hs, g.1.toLower ≠ name.toLower)
    (hh : h.1.toLower = name.toLower) : headerValue? (hs ++ [h]) name = some h.2 := by
  have hnone : hs.filter (fun g => g.1.toLower == name.toLower) = [] :=
    List.filter_eq_nil_iff.mpr fun g hg he => hothers g hg (beq_iff_eq.mp he)
  have hlast : [h].filter (fun g => g.1.toLower == name.toLower) = [h] :=
    List.filter_cons_of_pos (beq_iff_eq.mpr hh)
  unfold headerValue?
  dsimp only
  rw [List.filter_append, hnone, List.nil_append, hlast]
  rfl

namespace Service

open Url (writtenUser ownAuthorization? authorization?)

/-- So does an address that is asked, with a form or without. -/
theorem user_of_address {s : Service} {url : String} {form : Option Form} {u : Url}
    (h : s.address url form = .ok u) : u.user = [] ∨ u.user = writtenUser url.toList := by
  obtain ⟨v, hv, hu⟩ := of_address h
  obtain ⟨⟨r, hr⟩, huser⟩ := Url.user_of_ofString? hv
  cases form with
  | none =>
    obtain rfl := Option.some.inj hu
    exact huser
  | some form =>
    have hread := Url.of_revise? hu
    rwa [(Url.of_ofReference? hread).2.1, show (Url.splitUser _).1 = (Url.splitUser
      v.reference.authority).1 from rfl, Url.user_of_reread hr]

/-- **The authorization of a request** is the user of its address, or what the
service has of its own. -/
theorem header?_request {s : Service} (u : Url)
    (hs : ∀ h ∈ s.headers, h.1.toLower = "authorization" → h.1 = "Authorization") :
    (s.request u).header? "Authorization" = match authorization? u.user with
      | some h => some h.2
      | none => headerValue? s.headers "Authorization" := by
  have hname : "Authorization".toLower = "authorization" := by decide +kernel
  unfold Request.header? request headersFor
  cases hu : authorization? u.user with
  | none => rfl
  | some h =>
    have hfst := Url.fst_of_authorization? hu
    refine headerValue?_append_singleton (fun g hg hlower => ?_) (hfst ▸ rfl)
    obtain ⟨hmem, hne⟩ := List.mem_filter.mp hg
    exact bne_iff_ne.mp hne ((hs g hmem (hlower.trans hname)).trans hfst.symm)

/-- At addresses of one host a request has what its service has of its own, or
tells who the user is whom they name. -/
theorem header?_of_address {s : Service} {root url : String} {form : Option Form} {u : Url}
    (hs : ∀ h ∈ s.headers, h.1.toLower = "authorization" → h.1 = "Authorization")
    (hroot : (Url.Reference.ofChars url.toList).authority =
      (Url.Reference.ofChars root.toList).authority)
    (h : s.address url form = .ok u) :
    (s.request u).header? "Authorization" = headerValue? s.headers "Authorization" ∨
      (s.request u).header? "Authorization" = ownAuthorization? root := by
  have huser := user_of_address h
  rw [Url.writtenUser_congr hroot] at huser
  rw [header?_request u hs]
  cases hu : authorization? u.user with
  | none => exact .inl rfl
  | some g =>
    have hown : ownAuthorization? root = some g.2 := by
      unfold ownAuthorization?
      rcases huser with hnil | hwritten
      · have hnobody : authorization? [] = none := by decide
        rw [hnil, hnobody] at hu
        cases hu
      · rw [← hwritten, hu]
        rfl
    exact .inr hown.symm

end Service

/-! ## What a request may carry -/

/-- The likeness of programs that ask the same, of which something holds. -/
def Likeness.within (P : Request → Prop) : Likeness := ⟨fun q q' => q = q' ∧ P q, Eq⟩

/-- **An action that goes like itself within a class of requests** sends no
other. -/
theorem World.run_within {P : Request → Prop} {V : α → α → Prop} {x : Action α}
    (h : Action.Alike (.within P) V x x) (w : World σ) (t : σ) :
    ∀ q ∈ (w.run x.attempt t).requests, P q := by
  have hreply : ∀ q q' s, (Likeness.within P).requests q q' → w.reply q s = w.reply q' s := by
    rintro q _ s ⟨rfl, -⟩
    rfl
  obtain ⟨-, -, hevents⟩ := World.run_alike hreply h t
  obtain ⟨hrequests, -, -⟩ := Outcome.of_events hevents
  exact fun q hq => (List.forall₂_same.mp hrequests q hq).2

/-- **Whether a request is one of a service** to a root, followed by a path that
starts in a given way. -/
def Service.Sends (s : Service) (root start : String) (q : Request) : Prop :=
  ∃ path form u, start.toList <+: path.toList ∧ s.address (root ++ path) form = .ok u ∧
    q = s.request u

namespace Settings

/-- **Whether a request has no authorization that it may not have.** -/
inductive Authorized (s : Settings) (q : Request) : Prop
  /-- It has none. -/
  | nothing : q.header? "Authorization" = none → Authorized s q
  /-- It is for deps.dev, and tells who the user is whom the root names. -/
  | depsDev : DepsDev.service.Sends s.depsDev.root "/v" q →
      q.header? "Authorization" = Url.ownAuthorization? s.depsDev.root → Authorized s q
  /-- It is for GitHub and about a repository, and tells who the user is whom
  the root names. -/
  | user : s.github.client.service.Sends s.github.client.root "/repos/" q →
      q.header? "Authorization" = Url.ownAuthorization? s.github.client.root → Authorized s q
  /-- It is for GitHub and about a repository, and has the token. -/
  | token {t : String} : s.github.client.service.Sends s.github.client.root "/repos/" q →
      s.github.client.token = some t →
      q.header? "Authorization" = some ("Bearer " ++ t) → Authorized s q

/-- A root has no slash at its end. -/
theorem getLast?_rootOf (given : Option String) (standard : String) :
    (rootOf given standard).toList.getLast? ≠ some '/' := by
  unfold rootOf Text.trimRight
  rw [String.toList_ofList, List.getLast?_reverse]
  intro h
  generalize ((Identity.nonempty? given).getD standard).toList.reverse = chars at h
  have := List.head?_dropWhile_not (· == '/') chars
  rw [h] at this
  simp at this

/-! ### deps.dev and the package registries -/

/-- A request of deps.dev has no authorization, or tells who the user is whom
its root names. -/
theorem header?_depsDev (s : Settings) {url : String} {t : List Char} {u : Url}
    (hurl : url.toList = (s.depsDev.root ++ "/v").toList ++ t)
    (h : DepsDev.service.address url none = .ok u) :
    (DepsDev.service.request u).header? "Authorization" = none ∨
      (DepsDev.service.request u).header? "Authorization" =
        Url.ownAuthorization? s.depsDev.root := by
  have hnothing : headerValue? DepsDev.service.headers "Authorization" = none := by decide +kernel
  have hroot : (Url.Reference.ofChars url.toList).authority =
      (Url.Reference.ofChars s.depsDev.root.toList).authority := by
    rw [hurl, String.toList_append, List.append_assoc]
    exact Url.authority_append (getLast?_rootOf _ _) (by decide : some 'v' ≠ some '/')
  rw [← hnothing]
  exact DepsDev.service.header?_of_address (by decide +kernel) hroot h

/-- A request of a service without headers has no authorization at a root that
names no user. -/
theorem header?_of_plain {s : Service} {root url : String} {t : List Char} {u : Url}
    (hs : s.headers = []) (hlength : 2 ≤ (Url.splitScheme root.toList).2.length)
    (hroot : Url.ownAuthorization? root = none) (hurl : url.toList = (root ++ "/").toList ++ t)
    (h : s.address url none = .ok u) : (s.request u).header? "Authorization" = none := by
  have hauthority : (Url.Reference.ofChars url.toList).authority =
      (Url.Reference.ofChars root.toList).authority := by
    rw [hurl, String.toList_append, List.append_assoc]
    exact Url.authority_append_of_length hlength
  rcases s.header?_of_address (by simp [hs]) hauthority h with h | h
  · rw [h, hs]
    rfl
  · rw [h, hroot]

theorem header?_npm {url : String} {t : List Char} {u : Url}
    (hurl : url.toList = (rootOf none Npm.standardRoot ++ "/").toList ++ t)
    (h : Npm.service.address url none = .ok u) :
    (Npm.service.request u).header? "Authorization" = none :=
  header?_of_plain rfl (by decide +kernel) (by decide +kernel) hurl h

theorem header?_pypi {url : String} {t : List Char} {u : Url}
    (hurl : url.toList = (rootOf none PyPi.standardRoot ++ "/").toList ++ t)
    (h : PyPi.service.address url none = .ok u) :
    (PyPi.service.request u).header? "Authorization" = none :=
  header?_of_plain rfl (by decide +kernel) (by decide +kernel) hurl h

/-! ### GitHub -/

theorem headerValue?_github (c : GitHub.Client) :
    headerValue? c.service.headers "Authorization" = c.token.map ("Bearer " ++ ·) := by
  show headerValue? c.headers "Authorization" = _
  unfold GitHub.Client.headers
  cases c.token with
  | none => decide +kernel
  | some t => exact headerValue?_append_singleton (by decide +kernel) rfl

/-- **What GitHub is sent about a repository** is authorized. -/
theorem authorized_github (s : Settings) {path : String} {form : Option Form} {u : Url}
    (hpath : "/repos/".toList <+: path.toList)
    (h : s.github.client.service.address (s.github.client.root ++ path) form = .ok u) :
    s.Authorized (s.github.client.service.request u) := by
  have hsends : s.github.client.service.Sends s.github.client.root "/repos/"
      (s.github.client.service.request u) := ⟨path, form, u, hpath, h, rfl⟩
  have hnames : ∀ h ∈ s.github.client.service.headers, h.1.toLower = "authorization" →
      h.1 = "Authorization" := by
    show ∀ h ∈ s.github.client.headers, _
    unfold GitHub.Client.headers
    cases s.github.client.token with
    | none => decide +kernel
    | some t =>
      simp only [List.cons_append, List.nil_append, List.forall_mem_cons]
      decide +kernel
  have hroot : (Url.Reference.ofChars (s.github.client.root ++ path).toList).authority =
      (Url.Reference.ofChars s.github.client.root.toList).authority := by
    obtain ⟨rest, hrest⟩ := hpath
    rw [String.toList_append, ← hrest]
    exact Url.authority_append (getLast?_rootOf _ _) (by decide : some 'r' ≠ some '/')
  rcases Service.header?_of_address hnames hroot h with h | h
  · rw [headerValue?_github] at h
    cases ht : s.github.client.token with
    | none =>
      rw [ht] at h
      exact .nothing h
    | some t =>
      rw [ht] at h
      exact .token hsends ht h
  · exact .user hsends h

/-- **An analysis asks nothing that it may not ask.** -/
theorem alike_authorized (s : Settings) : s.Alike (.within s.Authorized) s where
  depsDevUrl := rfl
  systems := rfl
  depsDev url t u hurl h := by
    have hurl' : url = s.depsDev.root ++ ("/v" ++ String.ofList t) := by
      rw [← String.toList_inj, hurl, ← String.append_assoc]
      simp only [String.toList_append, String.toList_ofList]
    have hsends : DepsDev.service.Sends s.depsDev.root "/v" (DepsDev.service.request u) :=
      ⟨_, none, u, by rw [String.toList_append]; exact List.prefix_append _ _, hurl' ▸ h, rfl⟩
    exact ⟨rfl, (s.header?_depsDev hurl h).elim .nothing (.depsDev hsends)⟩
  npm url t u hurl h := ⟨rfl, .nothing (header?_npm hurl h)⟩
  pypi url t u hurl h := ⟨rfl, .nothing (header?_pypi hurl h)⟩
  github := by
    refine ⟨⟨rfl, fun owner name path form => ?_⟩, rfl, rfl⟩
    have hpath : "/repos/".toList <+: (GitHub.Client.repositoryPath owner name ++ path).toList := by
      unfold GitHub.Client.repositoryPath
      simp only [String.toList_append, List.append_assoc]
      exact List.prefix_append _ _
    unfold Service.Alike
    cases hu : s.github.client.service.address
      (s.github.client.root ++ (GitHub.Client.repositoryPath owner name ++ path)) form with
    | error f => exact .error f
    | ok u => exact .ok ⟨⟨rfl, s.authorized_github hpath hu⟩, rfl⟩

end Settings

/-! ## Another token -/

/-- What is left of a text without its blanks was in it. -/
theorem Text.mem_of_mem_strip {c : Char} {s : String} (h : c ∈ (strip s).toList) :
    c ∈ s.toList := by
  rw [strip, String.toList_ofList] at h
  have h := List.dropWhile_subset _ (List.mem_reverse.mp h)
  exact List.dropWhile_subset _ (List.mem_reverse.mp h)

namespace Environment

/-- **Whether two environments differ in the token** and in nothing else. -/
def DifferInToken (env env' : Environment) : Prop :=
  ∀ name, name ≠ "GITHUB_TOKEN" → env.get? name = env'.get? name

/-- **Whether the token of an environment is printable ASCII**, if it has one. -/
def HasPrintableToken (env : Environment) : Prop :=
  ∀ t, env.get? "GITHUB_TOKEN" = some t → ∀ c ∈ t.toList, 32 ≤ c.toNat ∧ c.toNat < 127

end Environment

namespace Settings

section Token

variable {env env' : Environment} {s s' : Settings}

theorem trimmed?_congr (h : env.DifferInToken env') {name : String}
    (hname : name ≠ "GITHUB_TOKEN") : trimmed? env name = trimmed? env' name := by
  unfold trimmed?
  rw [h name hname]

/-- **The settings differ in the token** and in nothing else. -/
theorem eq_of_differInToken (h : env.DifferInToken env') (hs : ofEnvironment env = .ok s)
    (hs' : ofEnvironment env' = .ok s') :
    s.githubToken = trimmed? env "GITHUB_TOKEN" ∧
      s' = { s with githubToken := trimmed? env' "GITHUB_TOKEN" } := by
  have hsystems : systemsOf env = systemsOf env' := by
    unfold systemsOf
    rw [h _ (by decide)]
  have hlevel : levelOf env = levelOf env' := by
    unfold levelOf
    rw [trimmed?_congr h (by decide)]
  have htimeout : timeoutOf env = timeoutOf env' := by
    unfold timeoutOf number
    rw [trimmed?_congr h (by decide)]
  have hattempts : attemptsOf env = attemptsOf env' := by
    unfold attemptsOf number
    rw [trimmed?_congr h (by decide)]
  have hinterval : intervalOf env = intervalOf env' := by
    unfold intervalOf number
    rw [trimmed?_congr h (by decide)]
  unfold ofEnvironment at hs hs'
  rw [hsystems, hlevel, htimeout, hattempts, hinterval,
    trimmed?_congr h (by decide : "PKGHEALTH_DEPS_DEV_URL" ≠ "GITHUB_TOKEN"),
    trimmed?_congr h (by decide : "PKGHEALTH_GITHUB_API_URL" ≠ "GITHUB_TOKEN")] at hs
  revert hs hs'
  cases systemsOf env' with
  | error p => exact nofun
  | ok systems =>
    cases levelOf env' with
    | error p => exact nofun
    | ok level =>
      -- Only where all three numbers are read are there settings.
      cases timeoutOf env' <;> cases attemptsOf env' <;> cases intervalOf env' <;> intro hs hs' <;>
        try cases hs
      cases hs'
      exact ⟨rfl, rfl⟩

/-- The token that GitHub is sent is the one that is set, without the blanks
around it. -/
theorem exists_of_token {token : String}
    (hs : s.githubToken = trimmed? env "GITHUB_TOKEN") (h : s.github.client.token = some token) :
    ∃ given, env.get? "GITHUB_TOKEN" = some given ∧ token = Text.strip given := by
  obtain ⟨htrimmed, -⟩ := Option.filter_eq_some_iff.mp h
  rw [hs] at htrimmed
  obtain ⟨given, hgiven, rfl⟩ := Option.map_eq_some_iff.mp htrimmed
  exact ⟨given, hgiven, rfl⟩

/-- A printable token can be sent. -/
theorem sendable_github (htoken : env.HasPrintableToken)
    (hs : s.githubToken = trimmed? env "GITHUB_TOKEN") :
    s.github.client.service.headers.all Service.isSendable = true := by
  show s.github.client.headers.all Service.isSendable = true
  unfold GitHub.Client.headers
  cases ht : s.github.client.token with
  | none => decide
  | some t =>
    have hascii : ∀ c ∈ t.toList, c.toNat < 128 := by
      intro c hc
      obtain ⟨given, hgiven, rfl⟩ := exists_of_token hs ht
      exact Nat.lt_succ_of_lt (htoken given hgiven c (Text.mem_of_mem_strip hc)).2
    have hbearer : Service.isSendable ("Authorization", "Bearer " ++ t) = true := by
      unfold Service.isSendable
      rw [String.toList_append, List.all_append, Bool.and_eq_true, List.all_eq_true (l := t.toList)]
      exact ⟨by decide, fun c hc => decide_eq_true (hascii c hc)⟩
    rw [List.all_append, Bool.and_eq_true]
    exact ⟨by decide, by rw [List.all_cons, hbearer, List.all_nil]; rfl⟩

end Token

end Settings

/-- The likeness of programs that ask at the same addresses and log the same. -/
def Likeness.ofAddresses : Likeness := ⟨fun q q' => q.url = q'.url, Eq⟩

namespace Settings

section Token

variable {env env' : Environment} {s s' : Settings} (h : env.DifferInToken env')
  (hs : ofEnvironment env = .ok s) (hs' : ofEnvironment env' = .ok s')
  (htoken : env.HasPrintableToken) (htoken' : env'.HasPrintableToken)

include h hs hs' htoken htoken'

/-- **With another token the same addresses are asked.** -/
theorem alike_of_differInToken : s.Alike .ofAddresses s' := by
  obtain ⟨hgiven, rfl⟩ := eq_of_differInToken h hs hs'
  have hsendable := sendable_github htoken hgiven
  have hsendable' := sendable_github (s := { s with githubToken := trimmed? env' "GITHUB_TOKEN" })
    htoken' rfl
  refine ⟨rfl, rfl, fun _ _ _ _ _ => rfl, fun _ _ _ _ _ => rfl, fun _ _ _ _ _ => rfl,
    ⟨⟨rfl, fun owner name path form => ?_⟩, rfl, rfl⟩⟩
  have haddress (url : String) : s.github.client.service.address url form =
      Service.address (github { s with githubToken := trimmed? env' "GITHUB_TOKEN" }).client.service
        url form := by
    unfold Service.address
    rw [hsendable, hsendable']
  unfold Service.Alike
  rw [haddress]
  exact (Agree.refl _).mono fun u u' hu => hu ▸ ⟨rfl, rfl⟩

/-- The analyses go alike. -/
theorem alike_analyzeMany_of_differInToken (is : List Identity) :
    Action.Alike .ofAddresses Eq ((Registry.standard s).analyzeMany is)
      ((Registry.standard s').analyzeMany is) := by
  refine Registry.alike_analyzeMany fun i _ => ?_
  have halike := alike_of_differInToken h hs hs' htoken htoken'
  exact (Registry.alike_standard (fun _ => rfl) halike (.refl (fun _ => rfl) i) (.refl s i)).mono
    fun _ _ => Record.Twin.eq

end Token

/-- **Whether a request of deps.dev tells nothing** but who the user is whom the
root names. -/
def TellsRootUser (s : Settings) (q : Request) : Prop :=
  q.header? "Authorization" = none ∨
    q.header? "Authorization" = Url.ownAuthorization? s.depsDev.root

/-- **What is asked of deps.dev tells nothing else.** -/
theorem depsDev_tells (s : Settings) (i : Identity) (key : Json) (w : World σ) (t : σ) :
    (∀ q ∈ (w.run (DepsDev.analyzePackage s.depsDev i).attempt t).requests, s.TellsRootUser q) ∧
      (∀ q ∈ (w.run (DepsDev.findProject s.depsDev i).attempt t).requests, s.TellsRootUser q) ∧
      ∀ q ∈ (w.run (DepsDev.analyzeProject s.depsDev i key).attempt t).requests,
        s.TellsRootUser q := by
  have hK : ∀ n, (Likeness.within s.TellsRootUser).notices n n := fun _ => rfl
  have hc : DepsDev.service.Repeats (.within s.TellsRootUser) (s.depsDev.root ++ "/v") :=
    fun url t u hurl h => ⟨rfl, s.header?_depsDev hurl h⟩
  have hi := Identity.Kin.refl hK i
  exact ⟨w.run_within (DepsDev.alike_analyzePackage hK hc hi rfl fun _ _ => .inl rfl) t,
    w.run_within (DepsDev.alike_findProject hK hc hi rfl fun _ _ => .inl rfl) t,
    w.run_within (DepsDev.alike_analyzeProject hK hc i i key) t⟩

/-- **What is asked of a package registry tells nothing.** -/
theorem registries_tell (i : Identity) (w : World σ) (t : σ) :
    (∀ q ∈ (w.run (Npm.find (rootOf none Npm.standardRoot) i).attempt t).requests,
        q.header? "Authorization" = none) ∧
      ∀ q ∈ (w.run (PyPi.find (rootOf none PyPi.standardRoot) i).attempt t).requests,
        q.header? "Authorization" = none := by
  let K := Likeness.within fun q => q.header? "Authorization" = none
  have hK : ∀ n, K.notices n n := fun _ => rfl
  have hi := Identity.Kin.refl hK i
  have hnpm : Npm.service.Repeats K (rootOf none Npm.standardRoot ++ "/") :=
    fun url t u hurl h => ⟨rfl, header?_npm hurl h⟩
  have hpypi : PyPi.service.Repeats K (rootOf none PyPi.standardRoot ++ "/") :=
    fun url t u hurl h => ⟨rfl, header?_pypi hurl h⟩
  exact ⟨w.run_within (Npm.alike_find hK hnpm hi rfl) t,
    w.run_within (PyPi.alike_find hK hpypi hi rfl) t⟩

end Settings

/-- **Whether a world looks at addresses only**: what it replies depends on them
and on what went before. -/
def World.LooksAtAddresses (w : World σ) : Prop :=
  ∀ q q' s, q.url = q'.url → w.reply q s = w.reply q' s

namespace Settings

/-- **The token is confined, and has no part in the results.** For environments
that differ in it, analyses come to the same records or fail alike, sleep
alike, log the same and ask at the same addresses, in every world that looks
at addresses only. In every world a request is authorized as it may be, the
token being the one that is set, without the blanks around it; deps.dev learns
at most the user whom its root names, and the package registries learn
nothing. -/
theorem token_confined {env env' : Environment} {s s' : Settings} (h : env.DifferInToken env')
    (hs : ofEnvironment env = .ok s) (hs' : ofEnvironment env' = .ok s')
    (htoken : env.HasPrintableToken) (htoken' : env'.HasPrintableToken) (is : List Identity) :
    (∀ (σ : Type) (w : World σ) (t : σ), w.LooksAtAddresses →
      let o := w.run ((Registry.standard s).analyzeMany is).attempt t
      let o' := w.run ((Registry.standard s').analyzeMany is).attempt t
      o.value = o'.value ∧ o.sleeps = o'.sleeps ∧ o.notices = o'.notices ∧
        o.requests.map (·.url) = o'.requests.map (·.url)) ∧
    ∀ (σ : Type) (w : World σ) (t : σ),
      (∀ q ∈ (w.run ((Registry.standard s).analyzeMany is).attempt t).requests, s.Authorized q) ∧
      (∀ token, s.github.client.token = some token →
        ∃ given, env.get? "GITHUB_TOKEN" = some given ∧ token = Text.strip given) ∧
      ∀ i key,
        ((∀ q ∈ (w.run (DepsDev.analyzePackage s.depsDev i).attempt t).requests,
            s.TellsRootUser q) ∧
          (∀ q ∈ (w.run (DepsDev.findProject s.depsDev i).attempt t).requests,
            s.TellsRootUser q) ∧
          ∀ q ∈ (w.run (DepsDev.analyzeProject s.depsDev i key).attempt t).requests,
            s.TellsRootUser q) ∧
        (∀ q ∈ (w.run (Npm.find (rootOf none Npm.standardRoot) i).attempt t).requests,
            q.header? "Authorization" = none) ∧
        ∀ q ∈ (w.run (PyPi.find (rootOf none PyPi.standardRoot) i).attempt t).requests,
          q.header? "Authorization" = none := by
  refine ⟨fun σ w t hw => ?_, fun σ w t => ⟨?_, fun token => ?_, fun i key => ?_⟩⟩
  · have halike := alike_analyzeMany_of_differInToken h hs hs' htoken htoken' is
    obtain ⟨hvalue, -, hevents⟩ := World.run_alike (K := .ofAddresses) hw halike t
    obtain ⟨hrequests, hsleeps, hnotices⟩ := Outcome.of_events hevents
    refine ⟨hvalue.eq, hsleeps, List.forall₂_eq_eq_eq ▸ hnotices, ?_⟩
    rw [← List.forall₂_eq_eq_eq, List.forall₂_map_left_iff, List.forall₂_map_right_iff]
    exact hrequests
  · refine w.run_within (V := Eq) (Registry.alike_analyzeMany fun i _ => ?_) t
    exact (Registry.alike_standard (fun _ => rfl) s.alike_authorized (.refl (fun _ => rfl) i)
      (.refl s i)).mono fun _ _ => Record.Twin.eq
  · exact exists_of_token (eq_of_differInToken h hs hs').1
  · exact ⟨s.depsDev_tells i key w t, registries_tell i w t⟩

/-- An environment with short addresses, and with a token if one is given. -/
def withToken (token : Option String) : Environment :=
  (token.map fun t => ("GITHUB_TOKEN", t)).toList ++
    [("PKGHEALTH_DEPS_DEV_URL", "http://d"), ("PKGHEALTH_GITHUB_API_URL", "http://g")]

theorem differInToken_withToken (t : String) :
    (withToken (some t)).DifferInToken (withToken none) := by
  intro name hname
  have hbeq : ("GITHUB_TOKEN" == name) = false := beq_false_of_ne hname.symm
  show Environment.get? (("GITHUB_TOKEN", t) :: withToken none) name = _
  unfold Environment.get?
  rw [List.find?_cons_of_neg (by simp [hbeq])]

theorem hasPrintableToken_withToken {t : String}
    (h : ∀ c ∈ t.toList, 32 ≤ c.toNat ∧ c.toNat < 127) :
    (withToken (some t)).HasPrintableToken := by
  intro t' ht
  change Environment.get? (("GITHUB_TOKEN", t) :: withToken none) "GITHUB_TOKEN" = some t' at ht
  unfold Environment.get? at ht
  rw [List.find?_cons_of_pos (by simp)] at ht
  obtain ⟨hmap, -⟩ := Option.filter_eq_some_iff.mp ht
  obtain rfl := Option.some.inj hmap
  exact h

/-- A world of documents looks at addresses only. -/
theorem looksAtAddresses_shelf (documents : List (String × String)) :
    (GitHub.shelf documents).LooksAtAddresses := by
  intro q q' s hq
  simp only [GitHub.shelf, hq]

/-- What is asked of the world that knows one package and its repository. -/
def askedAbout (s : Settings) : Outcome Unit (Except Failure (List Record)) :=
  Registry.placedText.run ((Registry.standard s).analyzeMany Registry.knownAndUnknown).attempt ()

/-- With the token `abc`, in blanks, and with none the same comes of it. The token is in every
request that is sent to GitHub, and in no other. -/
theorem token_confined_abc :
    let given := withToken (some " abc ")
    let s : Settings := { Registry.nearby with githubToken := some "abc" }
    let s' : Settings := Registry.nearby
    given.DifferInToken (withToken none) ∧ given.HasPrintableToken ∧
      (withToken none).HasPrintableToken ∧ ofEnvironment given = .ok s ∧
      ofEnvironment (withToken none) = .ok s' ∧ Registry.placedText.LooksAtAddresses ∧
    ((askedAbout s).value = (askedAbout s').value ∧ (askedAbout s).sleeps = (askedAbout s').sleeps ∧
      (askedAbout s).notices = (askedAbout s').notices ∧
      (askedAbout s).requests.map (·.url) = (askedAbout s').requests.map (·.url)) ∧
    (∀ q ∈ (askedAbout s).requests, s.Authorized q) ∧
    (∃ t, given.get? "GITHUB_TOKEN" = some t ∧ "abc" = Text.strip t) ∧
    ((askedAbout s).requests.map fun q => (q.url.toList.take 9, q.header? "Authorization")) =
      List.replicate 4 ("http://d/".toList, none) ++ [("https://r".toList, none)] ++
        [("http://d/".toList, none)] ++
        List.replicate 9 ("http://g/".toList, some "Bearer abc") ++
        List.replicate 2 ("http://d/".toList, none) ++ [("https://p".toList, none)] ∧
    (∀ q ∈ (Registry.placedText.run (DepsDev.analyzePackage s.depsDev
        ⟨"npm", "x", none, none⟩).attempt ()).requests, q.header? "Authorization" = none) ∧
    (∀ q ∈ (Registry.placedText.run (DepsDev.findProject s.depsDev
        ⟨"npm", "x", none, none⟩).attempt ()).requests, q.header? "Authorization" = none) ∧
    (∀ q ∈ (Registry.placedText.run (DepsDev.analyzeProject s.depsDev
        ⟨"npm", "x", none, none⟩ (.str "github.com/o/n")).attempt ()).requests,
        q.header? "Authorization" = none) ∧
    (∀ q ∈ (Registry.placedText.run (Npm.find (rootOf none Npm.standardRoot)
        ⟨"npm", "x", none, none⟩).attempt ()).requests, q.header? "Authorization" = none) ∧
    ∀ q ∈ (Registry.placedText.run (PyPi.find (rootOf none PyPi.standardRoot)
        ⟨"npm", "x", none, none⟩).attempt ()).requests, q.header? "Authorization" = none := by
  intro given s s'
  have hdiffer := differInToken_withToken " abc "
  have hprintable : given.HasPrintableToken := by
    have hchars : " abc ".toList = [' ', 'a', 'b', 'c', ' '] := by decide
    refine hasPrintableToken_withToken ?_
    simp only [hchars, List.forall_mem_cons, List.not_mem_nil, false_imp_iff, implies_true,
      and_true]
    decide
  have hnone : (withToken none).HasPrintableToken := nofun
  have hs : ofEnvironment given = .ok s := rfl
  have hs' : ofEnvironment (withToken none) = .ok s' := rfl
  have hlooks : Registry.placedText.LooksAtAddresses := looksAtAddresses_shelf _
  obtain ⟨hsame, hasked⟩ :=
    token_confined hdiffer hs hs' hprintable hnone Registry.knownAndUnknown
  obtain ⟨hauthorized, htoken, htell⟩ := hasked Unit Registry.placedText ()
  obtain ⟨⟨hpackage, hproject, hanalyzed⟩, hnpm, hpypi⟩ :=
    htell ⟨"npm", "x", none, none⟩ (.str "github.com/o/n")
  -- The root of deps.dev names no user.
  have hroot : Url.ownAuthorization? s.depsDev.root = none := by decide +kernel
  have huser {q : Request} (h : s.TellsRootUser q) : q.header? "Authorization" = none :=
    h.elim id fun h => h.trans hroot
  refine ⟨hdiffer, hprintable, hnone, hs, hs', hlooks, hsame Unit Registry.placedText () hlooks,
    hauthorized, htoken "abc" rfl, ?_, fun q hq => huser (hpackage q hq),
    fun q hq => huser (hproject q hq), fun q hq => huser (hanalyzed q hq), hnpm, hpypi⟩
  decide +kernel

/-- A root of deps.dev that names a user has every request tell who it is. -/
theorem token_not_confined :
    ∃ s, ofEnvironment [("PKGHEALTH_DEPS_DEV_URL", "https://u:p@api.deps.dev")] = .ok s ∧
      ∃ q ∈ (Registry.bare.run ((Registry.standard s).analyzeMany
          [⟨"npm", "x", none, none⟩]).attempt ()).requests,
        q.url = "https://api.deps.dev/v3/systems/NPM/packages/x" ∧
          q.header? "Authorization" = some "Basic dTpw" := by
  let s : Settings := { depsDevUrl := "https://u:p@api.deps.dev" }
  let x : Identity := ⟨"npm", "x", none, none⟩
  let q : Request := ⟨"https://api.deps.dev/v3/systems/NPM/packages/x",
    [("Accept", "application/json"), ("Authorization", "Basic dTpw")]⟩
  have hopening : s.depsDev.opening x = [q] := by decide +kernel
  have hasked : q ∈ Registry.asked ((Registry.standard s).analyzeMany [x]).attempt := by
    unfold Registry.analyzeMany
    rw [Registry.asked_bind, Registry.asked_analyze, hopening]
    simp
  exact ⟨s, rfl, q, hasked, rfl, by decide +kernel⟩

end Settings

end PackageVitals
