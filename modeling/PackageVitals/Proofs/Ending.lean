import PackageVitals.Proofs.Paging
import PackageVitals.Proofs.Uncancelled

/-!
# Lists that end

An analysis waits for nothing without a bound but the end of the list of open issues,
and a list that never ends is all that it can be cancelled for. A list ends with a
page that is not full, and whether there is one is seen in what was exchanged
(`GitHub.Client.EndsAt`).

One lemma says that reading a list comes to its end where there is one within the
patience (`GitHub.Client.uncancelledIn_pagesFrom`), by induction on the pages before
it. Everything else that an analysis of a repository does is never cancelled, so
neither is the analysis (`GitHub.Analyzer.uncancelledIn_analyze`).
-/

namespace PackageVitals

open Action (UncancelledIn)

/-- A signal that is fetched safely is cancelled only as its action is. -/
theorem Action.UncancelledIn.safely {steps : List Step} {x : Action α} (description : String)
    (default : α) (hx : UncancelledIn steps x) :
    UncancelledIn steps (Action.safely description default x) := by
  refine Program.EnsuresIn.andThen hx fun e he => ?_
  cases e with
  | ok v => exact Program.ensuresIn_done.mpr (by simp)
  | error f =>
    dsimp only
    split
    · exact .note (Program.ensuresIn_done.mpr (by simp))
    · exact Program.ensuresIn_done.mpr (by simpa using he)

namespace GitHub

/-! ## Lists of pages -/

namespace Client

variable (c : Client) (path : String) (form : Form) (size : Nat)

/-- **Whether a list ends at a page**, in what is exchanged: no answer to the request
for that page is a full one. -/
def EndsAt (R : Request → Reply → Prop) (page : Int) : Prop :=
  ∀ q, c.Reaches path (some (Json.insertMember "page" (.int page) form)) q →
    ∀ r, R q r → ∀ items, pageIn size r ≠ .ok (items, true)

variable {c path form size}

/-- What is in an answer is read, unless it is one of the failures of a request. -/
theorem pageIn_ne_cancelled {r : Reply} (h : Provided r) : pageIn size r ≠ .error .cancelled := by
  have hdocument (answer : Response) :
      FailsOnly (fun f => f ≠ .cancelled) (documentIn answer) := by
    unfold documentIn
    split
    · exact .ok _
    · exact .bind (fun f hf he => ensureSuccess_ne_cancelled answer (he ▸ hf)) fun _ f hf he =>
        answer.reads_json.ne_cancelled (he ▸ hf)
  have hpage : FailsOnly (fun f => f ≠ .cancelled) (pageIn size r) := by
    refine .bind (.bind (fun f hf he => h.ne_cancelled (he ▸ hf)) hdocument) fun j => ?_
    split
    · exact .ok _
    · exact .bind (fun f hf he => (Json.reads_elements _).ne_cancelled (he ▸ hf)) fun _ => .ok _
  exact fun he => hpage _ he rfl

/-- Where something was fetched, there was a request for it. -/
theorem exists_reaches_of_fetch {form : Option Form} {l : List Step} {j : Json}
    (h : Course (c.fetch path form).attempt l (.ok j)) : ∃ q, c.Reaches path form q := by
  rcases Action.course_bind_iff.mp h with ⟨f, -, hf⟩ | ⟨r, l₁, l₂, rfl, hget, -⟩
  · cases hf
  rcases Action.course_ofExcept_bind_iff.mp hget with ⟨f, -, -, hf⟩ | ⟨u, hu, hsend⟩
  · cases hf
  rcases Action.course_bind_iff.mp hsend with ⟨f, -, hf⟩ | ⟨r', l₃, l₄, rfl, -, hused⟩
  · cases hf
  split at hused
  · next habs => exact ⟨_, u, hu, habs, rfl⟩
  · exact absurd (course_done_iff.mp hused).2 (by simp)

/-- **One step of a reading that is cancelled**: a full page was read, and the reading of
the rest is cancelled. -/
theorem full_of_cancelled {fuel : Nat} {page : Int} {l : List Step}
    (h : Course (c.pagesFrom path form (.int size) none (fuel + 1) page).attempt l
      (.error .cancelled)) (hl : Replied Provided l) :
    ∃ q r items l', c.Reaches path (some (Json.insertMember "page" (.int page) form)) q ∧
      l = .exchanged q r :: l' ∧ pageIn size r = .ok (items, true) ∧
      Course (c.pagesFrom path form (.int size) none fuel (page + 1)).attempt l'
        (.error .cancelled) := by
  -- A failure to fetch the page is no cancellation, so there is a request for it.
  obtain ⟨q, hq⟩ : ∃ q, c.Reaches path (some (Json.insertMember "page" (.int page) form)) q := by
    have hbind := h
    rw [pagesFrom, if_pos (by rfl)] at hbind
    rcases Action.course_bind_iff.mp hbind with ⟨f, hf, he⟩ | ⟨j, l₁, l₂, -, hfetch, -⟩
    · obtain rfl := Except.error.inj he
      exact absurd rfl (c.uncancelled_fetch path _ l _ hf hl)
    · exact exists_reaches_of_fetch hfetch
  obtain ⟨r, l', rfl, hafter⟩ := (course_pagesFrom_iff (by rfl) hq).mp h
  cases hpage : pageIn size r with
  | error f =>
    rw [hpage] at hafter
    obtain rfl := Except.error.inj (course_done_iff.mp hafter).2
    exact absurd hpage (pageIn_ne_cancelled (hl q r List.mem_cons_self))
  | ok answer =>
    obtain ⟨items, full⟩ := answer
    rw [hpage] at hafter
    cases full with
    | false => exact absurd (course_done_iff.mp hafter).2 (by simp)
    | true =>
      obtain ⟨o, l₁, l₂, rfl, hnext, hdone⟩ := course_andThen_iff.mp hafter
      obtain ⟨rfl, ho⟩ := course_done_iff.mp hdone
      cases o with
      | ok rest => exact absurd ho (by simp [Except.map])
      | error f =>
        obtain rfl := Except.error.inj ho
        exact ⟨q, r, items, l₁, hq, by rw [List.append_nil], hpage, hnext⟩

/-- **A list that ends is read to its end.** Where one of the pages that there is patience
for is not a full one, reading is not cancelled. -/
theorem uncancelledIn_pagesFrom {steps : List Step} (hsteps : Replied Provided steps) {k fuel : Nat}
    (hk : k < fuel) {page : Int}
    (hend : c.EndsAt path form size (fun q r => .exchanged q r ∈ steps) (page + k)) :
    UncancelledIn steps (c.pagesFrom path form (.int size) none fuel page) := by
  rintro l _ hc hl rfl
  induction k generalizing fuel page l with
  | zero =>
    obtain ⟨fuel, rfl⟩ := Nat.exists_eq_add_one.mpr hk
    obtain ⟨q, r, items, l', hq, rfl, hfull, -⟩ :=
      full_of_cancelled hc fun q r hr => hsteps q r (hl hr)
    exact hend q (by simpa using hq) r (hl List.mem_cons_self) items hfull
  | succ k ih =>
    obtain ⟨fuel, rfl⟩ := Nat.exists_eq_add_one.mpr (Nat.zero_lt_of_lt hk)
    obtain ⟨q, r, items, l', -, rfl, -, hnext⟩ :=
      full_of_cancelled hc fun q r hr => hsteps q r (hl hr)
    refine ih (Nat.lt_of_succ_lt_succ hk) ?_ l' (fun x hx => hl (List.mem_cons_of_mem _ hx)) hnext
    rwa [show page + ((k + 1 : Nat) : Int) = page + 1 + k by omega] at hend

end Client

namespace Analyzer

/-! ## Issues -/

/-- The form of the list of open issues. -/
abbrev openForm : Form := [("state", .str "open")]

/-- The path of the list of issues. -/
abbrev issuesPath (owner name : String) : String :=
  Client.repositoryPath owner name ++ "/issues"

end Analyzer

open Analyzer (openForm issuesPath)

/-- **Whether the open issues of every repository end**, in what is exchanged: one of the
pages that there is patience for is not a full one. -/
def Client.IssuesEnd (c : Client) (R : Request → Reply → Prop) : Prop :=
  ∀ owner name, ∃ k < c.patience,
    c.EndsAt (issuesPath owner name) (Json.insertMember "per_page" (.int 100) openForm) 100 R
      (1 + k)

theorem Client.IssuesEnd.mono {c : Client} {R R' : Request → Reply → Prop} (h : c.IssuesEnd R)
    (hR : ∀ q r, R' q r → R q r) : c.IssuesEnd R' := by
  intro owner name
  obtain ⟨k, hk, hend⟩ := h owner name
  exact ⟨k, hk, fun q hq r hr => hend q hq r (hR q r hr)⟩

section Within

variable {steps : List Step} (hsteps : Replied Provided steps)

include hsteps

theorem Client.uncancelledIn_openIssueDates {c : Client}
    (hend : c.IssuesEnd fun q r => .exchanged q r ∈ steps) (owner name : String) :
    UncancelledIn steps (c.openIssueDates owner name) := by
  obtain ⟨k, hk, hk'⟩ := hend owner name
  exact .bind (uncancelledIn_pagesFrom hsteps hk hk') fun issues =>
    .ofExcept (reads_issueDates issues).ne_cancelled

namespace Analyzer

variable {a : Analyzer} (hend : a.client.IssuesEnd fun q r => .exchanged q r ∈ steps)
  (key owner name : String)

include hend

theorem uncancelledIn_findings (head : Json) :
    UncancelledIn steps (a.findings key owner name head) := by
  have hhead {α : Type} (description : String) {find : String → Action (Option α)}
      (h : ∀ commit, Action.Uncancelled Provided (find commit)) :=
    (uncancelled_ofHead h head description).within hsteps
  have hfile (description path : String) : UncancelledIn steps
      (Action.safely description false (a.client.hasFile owner name path)) :=
    .safely _ _ ((a.client.uncancelled_isThere _).within hsteps)
  refine UncancelledIn.lift_bind
    ((UncancelledIn.safely _ _ ((a.client.uncancelled_count _ _).within hsteps)).both <|
    (UncancelledIn.safely _ _ ((a.client.uncancelled_count _ _).within hsteps)).both <|
    (hhead _ fun _ => a.client.uncancelled_read _ reads_commitDate).both <|
    (UncancelledIn.safely _ _ ((a.client.uncancelled_isThere _).within hsteps)).both <|
    (hfile _ _).both <| (hfile _ _).both <|
    (hhead _ fun _ => a.client.uncancelled_read _ reads_fileCount).both <|
    UncancelledIn.safely _ _
      (.map _ (Client.uncancelledIn_openIssueDates hsteps hend owner name))) ?_
  rintro ⟨e₁, e₂, e₃, e₄, e₅, e₆, e₇, e₈⟩ ⟨h₁, h₂, h₃, h₄, h₅, h₆, h₇, h₈⟩
  exact UncancelledIn.bind (.ofExcept h₁) fun _ =>
    .bind (.ofExcept h₂) fun _ => .bind (.ofExcept h₃) fun _ =>
    .bind (.ofExcept h₄) fun _ => .bind (.ofExcept h₅) fun _ =>
    .bind (.ofExcept h₆) fun _ => .bind (.ofExcept h₇) fun _ =>
    .bind (.ofExcept h₈) fun _ => .pure _

/-- **The analysis of a repository is not cancelled** where its issues end. -/
theorem uncancelledIn_analyze (i : Identity) : UncancelledIn steps (a.analyze i key) := by
  have hmember (j : Json) (member : String) :
      UncancelledIn steps (Action.ofExcept (j.member member)) :=
    .ofExcept (Json.reads_member _ _).ne_cancelled
  unfold analyze
  split
  · exact .bind (.say _ _) fun _ => .pure _
  · next owner name _ =>
    refine .bind (.safely _ _ (.bind ((a.client.uncancelled_fetch _ _).within hsteps)
      fun _ => .pure _)) fun repository => ?_
    split
    · exact .bind (.say _ _) fun _ => .pure _
    · exact .bind (hmember _ _) fun branch =>
        .bind (.safely _ _ (.bind ((a.client.uncancelled_read _ reads_branchHead).within hsteps)
          fun _ => .pure _)) fun head =>
        .bind (uncancelledIn_findings hsteps hend key owner name head) fun found =>
        .bind (hmember _ _) fun archived =>
        .bind ((uncancelled_issueAge _).within hsteps) fun age =>
        .bind (hmember _ _) fun created =>
        .bind ((a.uncancelled_statisticsReadings _ _ _ created).within hsteps) fun _ => .pure _

end Analyzer

end Within

end GitHub

/-! ## Worlds in which lists end -/

/-- Whether a world may reply something to a request. -/
def World.MayReply (w : World σ) (q : Request) (r : Reply) : Prop :=
  ∃ s, (w.reply q s).1 = r

theorem World.exchanges_mayReply (w : World σ) (p : Program α) (s : σ) :
    Exchanges w.MayReply (w.log p s) :=
  World.exchanges_log (fun _ s' => ⟨s', rfl⟩) p s

/-- Where no reply is a full page, all issues end on the first one. -/
theorem GitHub.Client.issuesEnd_of_replies {c : Client} {w : World σ}
    (h : w.Replies fun r => ∀ items, pageIn 100 r ≠ .ok (items, true))
    (hpatience : 0 < c.patience) :
    c.IssuesEnd w.MayReply := by
  refine fun owner name => ⟨0, hpatience, ?_⟩
  rintro q - r ⟨s, rfl⟩
  exact h q s

end PackageVitals
