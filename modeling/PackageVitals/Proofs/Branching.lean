import PackageVitals.Proofs.Endpoint
import PackageVitals.Proofs.Question

/-!
# Branches of a repository

GitHub is asked about a branch by its name, and the name is put into the address as it is. So
not all of it is sent: a number sign begins the fragment, which stays behind, and of what
stands before it a character that may not stand in a path is encoded, while a percent sign is
left alone. What is sent of a name is `GitHub.sentBranch`, and **two branches share a request if
and only if this is the same** (`GitHub.Client.branches_share_iff`).

Names without number signs and percent signs are therefore told apart. Others need not be: `a#b`
is asked about like `a`, and a name with a percent sign like the one that it is the encoding of.

That nothing else is lost needs the rules for names of branches. A segment of a name does not
begin with a dot, so none of them is a dot segment, not even where a number sign cuts it short;
and there are no question marks, so nothing becomes a query.
-/

namespace PackageVitals

namespace GitHub

open Url (EndsAtPath encodeWith isPathChar pathPart)

/-! ## Names -/

/-- **Whether a text can be the name of a branch.** -/
structure IsBranchName (b : String) : Prop where
  /-- It has no control characters and none of some marks. -/
  clean : ∀ c ∈ b.toList, Url.isControl c = false ∧ c ∉ " ~^:?*[\\".toList
  /-- Between slashes there is something. -/
  nonempty : ∀ s ∈ Text.splitAll '/' b.toList, s ≠ []
  /-- It does not begin with a dot. -/
  undotted : ∀ s ∈ Text.splitAll '/' b.toList, s.head? ≠ some '.'
  /-- It does not end like the name of a lock. -/
  unlocked : ∀ s ∈ Text.splitAll '/' b.toList, ".lock".toList.isSuffixOf s = false
  /-- The name does not begin with a dash. -/
  head : b.toList.head? ≠ some '-'
  /-- It does not end with a dot. -/
  last : b.toList.getLast? ≠ some '.'
  /-- No two dots stand side by side, and no brace after an at sign. -/
  apart : ∀ p ∈ b.toList.zip b.toList.tail, p ≠ ('.', '.') ∧ p ≠ ('@', '\x7b')
  /-- An at sign alone is no name. -/
  ne_at : b ≠ "@"

-- Characters are finitely many, but it is the characters of the name that are to be looked at.
instance (b : String) : Decidable (IsBranchName b) :=
  letI : Decidable (∀ c ∈ b.toList, Url.isControl c = false ∧ c ∉ " ~^:?*[\\".toList) :=
    List.decidableBAll _ _
  letI : Decidable (∀ p ∈ b.toList.zip b.toList.tail, p ≠ ('.', '.') ∧ p ≠ ('@', '\x7b')) :=
    List.decidableBAll _ _
  decidable_of_iff (_ ∧ _ ∧ _ ∧ _ ∧ _ ∧ _ ∧ _ ∧ _)
    ⟨fun ⟨h₁, h₂, h₃, h₄, h₅, h₆, h₇, h₈⟩ => ⟨h₁, h₂, h₃, h₄, h₅, h₆, h₇, h₈⟩,
      fun ⟨h₁, h₂, h₃, h₄, h₅, h₆, h₇, h₈⟩ => ⟨h₁, h₂, h₃, h₄, h₅, h₆, h₇, h₈⟩⟩

/-- Names of all kinds, and what is none. -/
example : (∀ b ∈ ["main", "a#b", "100%", "50%25", "feature/é"], IsBranchName b) ∧
    ∀ b ∈ ["", "a b", ".git", "a/.b", "a.lock", "a..b", "@", "-a"], ¬ IsBranchName b := by
  decide

/-- **What is sent of the name of a branch**: what stands before the first number sign, with
the characters encoded that may not stand in a path. -/
def sentBranch (b : String) : List Char :=
  encodeWith isPathChar (pathPart b.toList)

namespace IsBranchName

variable {b : String} (h : IsBranchName b)

include h

theorem plain : Plain b.toList := fun c hc => (h.clean c hc).1

theorem not_mem_question : '?' ∉ b.toList := fun hmem =>
  (h.clean '?' hmem).2 (by decide)

/-- **Its segments stay where they are put**, also where a number sign cuts one short: what is
left of it does not begin with a dot either. -/
theorem stays : Url.Stays b.toList := by
  intro s hs
  have hcut : b.toList = pathPart b.toList ++
      (Url.cutBefore (fun c => c == '?' || c == '#') b.toList).2 :=
    List.takeWhile_append_dropWhile.symm
  obtain ⟨before, last, first, after, hpart, -, hwhole⟩ := Text.splitAll_append_eq '/'
    (pathPart b.toList) (Url.cutBefore (fun c => c == '?' || c == '#') b.toList).2
  rw [← hcut] at hwhole
  -- What stands before the cut is the start of a segment of the whole name.
  obtain ⟨rest, hmem⟩ : ∃ rest, s ++ rest ∈ Text.splitAll '/' b.toList := by
    rw [hpart, List.mem_append, List.mem_singleton] at hs
    rw [hwhole]
    rcases hs with hs | rfl
    · exact ⟨[], by simp [hs]⟩
    · exact ⟨first, by simp⟩
  have hdot := h.undotted _ hmem
  rintro (rfl | rfl)
  · exact hdot rfl
  · exact hdot rfl

end IsBranchName

/-- **Names without number signs and percent signs are sent apart.** -/
theorem eq_of_sentBranch_eq {b b' : String} (h : IsBranchName b) (h' : IsBranchName b')
    (hmarks : '#' ∉ b.toList ∧ '%' ∉ b.toList) (hmarks' : '#' ∉ b'.toList ∧ '%' ∉ b'.toList)
    (hsent : sentBranch b = sentBranch b') : b = b' := by
  have hends {b : String} (h : IsBranchName b) (hmark : '#' ∉ b.toList) : EndsAtPath b.toList := by
    intro c hc
    have hquestion : c ≠ '?' := fun he => h.not_mem_question (he ▸ hc)
    have hnumber : c ≠ '#' := fun he => hmark (he ▸ hc)
    simp [hquestion, hnumber]
  have hbytes := congrArg Url.unescapedBytes hsent
  rw [sentBranch, sentBranch, Url.pathPart_of_endsAtPath (hends h hmarks.1),
    Url.pathPart_of_endsAtPath (hends h' hmarks'.1),
    Url.unescapedBytes_encodeWith fun hmem => absurd hmem hmarks.2,
    Url.unescapedBytes_encodeWith fun hmem => absurd hmem hmarks'.2] at hbytes
  exact String.toList_inj.mp (Url.flatMap_utf8EncodeChar_injective hbytes)

/-! ## Requests -/

namespace Client

variable (c : Client) (owner name b : String)

/-- Where the branches of a repository are. -/
def branchesUrl : String :=
  c.base owner name ++ "/branches"

/-- Where a branch is. -/
def branchUrl : String :=
  c.root ++ (repositoryPath owner name ++ "/branches/" ++ b)

theorem branchUrl_toList : (c.branchUrl owner name b).toList =
    (c.branchesUrl owner name).toList ++ '/' :: b.toList := by
  simp only [branchUrl, branchesUrl, base, String.toList_append, List.append_assoc]
  rfl

/-- A document is asked for once. -/
theorem requests_fetch (w : World σ) (path : String) (s : σ) :
    (w.run (c.fetch path none).attempt s).requests = c.service.opening (c.root ++ path) := by
  unfold fetch
  rw [World.requests_bind]
  refine (congrArg (· ++ _) (c.service.requests_get w _ s)).trans ?_
  cases (w.run (c.get path none).attempt s).value with
  | error f => exact List.append_nil _
  | ok r =>
    dsimp only
    split
    · exact List.append_nil _
    · cases hr : r.ensureSuccess <;> exact List.append_nil _

/-- So it is when it is read. -/
theorem requests_read (w : World σ) (path : String) (of : Json → Except Failure α) (s : σ) :
    (w.run (c.read path of).attempt s).requests = c.service.opening (c.root ++ path) := by
  unfold read
  rw [World.requests_bind, requests_fetch]
  cases (w.run (c.fetch path none).attempt s).value with
  | error f => exact List.append_nil _
  | ok j =>
    dsimp only
    cases j.truthy? with
    | none => exact List.append_nil _
    | some j =>
      dsimp only
      cases of j <;> exact List.append_nil _

/-- **A branch is asked about once**, in every world. -/
theorem requests_branchHead (w : World σ) (s : σ) :
    (w.run (c.branchHead owner name b).attempt s).requests =
      c.service.opening (c.branchUrl owner name b) :=
  (w.requests_map _ _ s).trans (c.requests_read w _ _ s)

section Sharing

variable {c : Client} {owner name : String}
  (howner : Plain owner.toList ∧ EndsAtPath owner.toList)
  (hname : Plain name.toList ∧ EndsAtPath name.toList)

include howner hname

theorem below_branchesUrl : Below c.root (c.branchesUrl owner name) := by
  have hrepos : Below c.root (c.root ++ "/repos/") :=
    ⟨"repos/".toList, String.toList_append, by decide⟩
  have hbelow := (((hrepos.append howner.1).append (by decide : Plain "/".toList)).append
    hname.1).append (by decide : Plain "/branches".toList)
  simpa only [branchesUrl, base, repositoryPath, String.append_assoc] using hbelow

variable {u₀ : Url} (hb : c.service.Base c.root u₀)

include hb

/-- Where the branches of a repository are can be asked if one of them is not too far away. -/
theorem exists_base_branches {b : String}
    (hlen : (c.branchUrl owner name b).length ≤ Url.lengthLimit) :
    ∃ u, c.service.Base (c.branchesUrl owner name) u := by
  refine hb.exists_below (below_branchesUrl howner hname) ?_ ?_
  · rw [branchesUrl, String.toList_append, Url.endsAtPath_append]
    exact ⟨endsAtPath_base hb.ends howner.2 hname.2, by decide⟩
  · rw [← String.length_toList] at hlen ⊢
    rw [branchUrl_toList, List.length_append] at hlen
    omega

/-- A branch is asked about if its address is not too long. -/
theorem exists_opening {b : String} (h : IsBranchName b)
    (hlen : (c.branchUrl owner name b).length ≤ Url.lengthLimit) :
    ∃ q, c.service.opening (c.branchUrl owner name b) = [q] := by
  obtain ⟨u, hu⟩ := exists_base_branches howner hname hb hlen
  obtain ⟨v, -, hv⟩ := Service.opening_of_asks
    (hu.asks ⟨b.toList, c.branchUrl_toList owner name b, h.plain⟩ hlen)
  exact ⟨_, hv⟩

/-- Two branches that are asked about share an address, as it is sent, if and only if the same is
sent of their names. -/
theorem url_eq_iff {b b' : String} (h : IsBranchName b) (h' : IsBranchName b') {q q' : Request}
    (hq : q ∈ c.service.opening (c.branchUrl owner name b))
    (hq' : q' ∈ c.service.opening (c.branchUrl owner name b')) :
    q.url = q'.url ↔ sentBranch b = sentBranch b' := by
  obtain ⟨v, hv, rfl⟩ := c.service.exists_of_mem_opening hq
  obtain ⟨v', hv', rfl⟩ := c.service.exists_of_mem_opening hq'
  obtain ⟨u, hu⟩ := exists_base_branches howner hname hb
    (Url.length_of_ofString? (Service.address_eq_ok_iff.mp hv).1)
  have hurl := c.branchUrl_toList owner name b
  have hurl' := c.branchUrl_toList owner name b'
  exact ⟨fun hsent => hu.pathPart_eq_of_sent_eq hurl hurl' h.stays h'.stays hv hv' hsent,
    fun hsent => congrArg Request.url (hu.request_eq_of_pathPart_eq hurl hurl' h.stays h'.stays
      h.not_mem_question h'.not_mem_question hv hv' hsent)⟩

/-- **Branches of whose names the same is sent are asked about in the same way**, so whatever
comes of one question comes of the other. -/
theorem branchHead_eq {b b' : String} (h : IsBranchName b) (h' : IsBranchName b')
    (hlen : (c.branchUrl owner name b).length ≤ Url.lengthLimit)
    (hlen' : (c.branchUrl owner name b').length ≤ Url.lengthLimit)
    (hsent : sentBranch b = sentBranch b') :
    c.branchHead owner name b = c.branchHead owner name b' := by
  obtain ⟨u, hu⟩ := exists_base_branches howner hname hb hlen
  have hurl := c.branchUrl_toList owner name b
  have hurl' := c.branchUrl_toList owner name b'
  obtain ⟨v, hv, habs⟩ := hu.asks ⟨b.toList, hurl, h.plain⟩ hlen
  obtain ⟨v', hv', habs'⟩ := hu.asks ⟨b'.toList, hurl', h'.plain⟩ hlen'
  have hrequest := hu.request_eq_of_pathPart_eq hurl hurl' h.stays h'.stays h.not_mem_question
    h'.not_mem_question hv hv' hsent
  have hget : c.service.get (c.branchUrl owner name b) none =
      c.service.get (c.branchUrl owner name b') none := by
    unfold Service.get
    rw [hv, hv']
    show (Action.send _ >>= fun r => if v.isAbsolute = true then _ else _) =
      (Action.send _ >>= fun r => if v'.isAbsolute = true then _ else _)
    rw [hrequest, habs, habs']
  have hfetch (b : String) : c.fetch (repositoryPath owner name ++ "/branches/" ++ b) none = (do
      let r ← c.service.get (c.branchUrl owner name b) none
      if r.status = 404 then return .null
      else
        Action.ofExcept r.ensureSuccess
        Action.ofExcept r.json) := rfl
  rw [branchHead, branchHead, read, read, hfetch, hfetch, hget]

end Sharing

/-- **Branches share an address if and only if the same is sent of their names**, below any root
that has a scheme and a host. Each is asked about once, in every world, unless its address is
too long, and two of one repository, whatever its owner and its name, at one address if and only
if what is sent of their names is the same. Then nothing tells the two questions apart. This
does not happen to different names without number signs and percent signs. -/
theorem branches_share_iff (c : Client) (u₀ : Url) (hb : c.service.Base c.root u₀)
    (owner name : String) (howner : Plain owner.toList ∧ EndsAtPath owner.toList)
    (hname : Plain name.toList ∧ EndsAtPath name.toList) :
    (∀ b, IsBranchName b → (c.branchUrl owner name b).length ≤ Url.lengthLimit →
      ∃ q, ∀ {σ : Type} (w : World σ) (s : σ),
        (w.run (c.branchHead owner name b).attempt s).requests = [q]) ∧
    (∀ b b', IsBranchName b → IsBranchName b' →
      (c.branchUrl owner name b).length ≤ Url.lengthLimit →
      (c.branchUrl owner name b').length ≤ Url.lengthLimit → sentBranch b = sentBranch b' →
        c.branchHead owner name b = c.branchHead owner name b') ∧
    ∀ b b', IsBranchName b → IsBranchName b' →
      ∀ {σ τ : Type} (w : World σ) (w' : World τ) (s : σ) (s' : τ),
        ∀ q ∈ (w.run (c.branchHead owner name b).attempt s).requests,
          ∀ q' ∈ (w'.run (c.branchHead owner name b').attempt s').requests,
            (q.url = q'.url ↔ sentBranch b = sentBranch b') ∧
            ('#' ∉ b.toList ∧ '%' ∉ b.toList → '#' ∉ b'.toList ∧ '%' ∉ b'.toList →
              q.url = q'.url → b = b') := by
  refine ⟨fun b h hlen => ?_, fun b b' => branchHead_eq howner hname hb,
    fun b b' h h' σ τ w w' s s' q hq q' hq' => ?_⟩
  · obtain ⟨q, hopening⟩ := exists_opening howner hname hb h hlen
    exact ⟨q, fun w s => (c.requests_branchHead owner name b w s).trans hopening⟩
  · rw [requests_branchHead] at hq hq'
    have hshare := url_eq_iff howner hname hb h h' hq hq'
    exact ⟨hshare, fun hmarks hmarks' hsent =>
      eq_of_sentBranch_eq h h' hmarks hmarks' (hshare.mp hsent)⟩

end Client

/-- Access at the standard root without a token. -/
def anonymous : Client := .connect none none

theorem base_anonymous : ∃ u, anonymous.service.Base anonymous.root u := by
  have hroot : anonymous.root = standardRoot := by decide +kernel
  rw [hroot]
  exact ⟨_, by decide, rfl, rfl⟩

/-- Two different branches share an address, and others do not. -/
theorem branches_share_iff_marked :
    anonymous.branchHead "octo" "widget" "a#b" = anonymous.branchHead "octo" "widget" "a" ∧
    ∃ q q' q'' : Request, IsBranchName "a#b" ∧ IsBranchName "a" ∧ IsBranchName "b" ∧
      (∀ {σ : Type} (w : World σ) (s : σ),
        (w.run (anonymous.branchHead "octo" "widget" "a#b").attempt s).requests = [q] ∧
        (w.run (anonymous.branchHead "octo" "widget" "a").attempt s).requests = [q'] ∧
        (w.run (anonymous.branchHead "octo" "widget" "b").attempt s).requests = [q'']) ∧
      q.url = q'.url ∧ q'.url ≠ q''.url := by
  obtain ⟨u₀, hb⟩ := base_anonymous
  obtain ⟨hasked, hsame, hshared⟩ := anonymous.branches_share_iff u₀ hb "octo" "widget"
    ⟨by decide, by decide⟩ ⟨by decide, by decide⟩
  have hmarked : IsBranchName "a#b" := by decide
  have ha : IsBranchName "a" := by decide
  have hb' : IsBranchName "b" := by decide
  obtain ⟨q, hq⟩ := hasked "a#b" hmarked (by decide +kernel)
  obtain ⟨q', hq'⟩ := hasked "a" ha (by decide +kernel)
  obtain ⟨q'', hq''⟩ := hasked "b" hb' (by decide +kernel)
  have hmem {q : Request} {b : String} (h : ∀ {σ : Type} (w : World σ) (s : σ),
      (w.run (anonymous.branchHead "octo" "widget" b).attempt s).requests = [q]) :
      q ∈ (Registry.bare.run (anonymous.branchHead "octo" "widget" b).attempt ()).requests := by
    rw [h]
    exact List.mem_singleton_self q
  refine ⟨hsame _ _ hmarked ha (by decide +kernel) (by decide +kernel) (by decide),
    q, q', q'', hmarked, ha, hb', fun w s => ⟨hq w s, hq' w s, hq'' w s⟩, ?_, fun he => ?_⟩
  · exact (hshared "a#b" "a" hmarked ha _ _ () () q (hmem hq) q' (hmem hq')).1.mpr (by decide)
  · exact absurd ((hshared "a" "b" ha hb' _ _ () () q' (hmem hq') q'' (hmem hq'')).1.mp he)
      (by decide)

end GitHub

end PackageVitals
