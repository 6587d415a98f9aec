import Mathlib.Tactic.MkIffOfInductiveProp
import PackageVitals.Proofs.Contribution
import PackageVitals.Proofs.Reaching

/-!
# What can be borne of a provider

A document that cannot be had is no document, and costs what would have been
taken from it and nothing else. Which failures are of that sort is a property of
the failure (`Failure.isNoDocument`), and what asking for a document comes to is
a function of the address, the reply and the reader (`Service.heard`). It can be
**borne** if it does not fail in another way. Where the address can be asked, a
provider has one means to make it fail so: a response of success whose body is
nested too deeply, or which the reader asks for members or digits that it does
not have (`Service.borne_heard_iff`).

So for each adapter of deps.dev, npm and PyPI there is a condition on what it
comes to hear, document by document, under which it returns, and what it returns
with is then a function of the documents that were had (`adapters_return_iff`).
What the documents say is taken at its word in three places outside of the
readers: a latest version and the version of a Scorecard have to be texts, and
the documents of npm and PyPI are searched after they have been read. The replies
are of whole characters, as all that is said of them is about texts: a version
that is half a character has no address.
-/

namespace PackageVitals

/-! ## Returning -/

namespace World

variable (w : World σ)

/-- **Whether an action returns** in a run, with a result of a class. -/
def Returns (x : Action α) (s : σ) (Q : α → Prop) : Prop :=
  ∃ a, (w.run x.attempt s).value = .ok a ∧ Q a

variable {w} {s : σ} {Q : β → Prop}

/-- An action returns that goes on after another one if both return. -/
theorem returns_bind_iff {x : Action α} {f : α → Action β} :
    w.Returns (x >>= f) s Q ↔
      ∃ a, (w.run x.attempt s).value = .ok a ∧ w.Returns (f a) (w.run x.attempt s).state Q := by
  unfold Returns
  cases hx : (w.run x.attempt s).value with
  | error f' =>
    rw [run_bind_of_error hx]
    simp
  | ok a =>
    rw [(run_bind_of_ok hx).1]
    simp

@[simp] theorem returns_pure_iff {b : β} : w.Returns (Pure.pure b : Action β) s Q ↔ Q b := by
  simp [Returns]

theorem returns_note_bind_iff {n : Notice} {f : Unit → Action β} :
    w.Returns (Action.note n >>= f) s Q ↔ w.Returns (f ()) s Q :=
  Iff.rfl

theorem returns_ofExcept_bind_iff {e : Except Failure α} {f : α → Action β} :
    w.Returns (Action.ofExcept e >>= f) s Q ↔ ∃ a, e = .ok a ∧ w.Returns (f a) s Q :=
  returns_bind_iff

/-- Where what follows makes something of the result whatever the state, it is up
to what comes first. -/
theorem returns_bind_of_forall {x : Action α} {f : α → Action β} {R : α → Prop}
    (h : ∀ a s', w.Returns (f a) s' Q ↔ R a) : w.Returns (x >>= f) s Q ↔ w.Returns x s R :=
  returns_bind_iff.trans (exists_congr fun a => and_congr_right fun _ => h a _)

/-- What is taken out of a result leaves the world as it was. -/
theorem run_bind_ofExcept (w : World σ) (x : Action α) (k : α → Except Failure β) (s : σ) :
    (w.run (x >>= fun a => Action.ofExcept (k a)).attempt s).value =
        ((w.run x.attempt s).value >>= k) ∧
      (w.run (x >>= fun a => Action.ofExcept (k a)).attempt s).state =
        (w.run x.attempt s).state := by
  rw [Action.attempt_bind, run_andThen]
  dsimp only
  cases hx : (w.run x.attempt s).value with
  | error f => exact ⟨rfl, rfl⟩
  | ok a => exact ⟨rfl, rfl⟩

end World

/-! ## Documents that can be had or not -/

/-- **Whether a failure means no more than that there is no document**: the
exchange broke down, the status is not one of success, or the answer has an
unexpected shape. -/
def Failure.isNoDocument : Failure → Bool
  | .transport .. | .status _ => true
  | f => f.isShape

/-- **Whether a reader's failure goes through**: the body is nested too deeply, or
a value was asked for members and is no object, or a number has no digits. -/
def Failure.isStray : Failure → Bool
  | .tooDeep | .unsupported | .outOfRange => true
  | _ => false

/-- A reader's failure goes through unless it means that there is no document. -/
theorem Failure.isNoDocument_of_isReading {f : Failure} (h : f.isReading = true) :
    f.isNoDocument = !f.isStray := by
  cases f <;> first | rfl | cases h

/-- **Whether a reply trips a reader**: it is a response of success, and reading it
fails in a way that goes through. -/
def Trips (read : Json → Except Failure α) : Reply → Prop
  | .error _ => False
  | .ok r => r.ensureSuccess = .ok () ∧ ∃ f, (r.json >>= read) = .error f ∧ f.isStray = true

/-- Whether what asking for something came to can be borne. -/
abbrev Borne (e : Except Failure α) : Prop :=
  FailsOnly (fun f => f.isNoDocument = true) e

namespace Service

variable (sv : Service)

/-- These failures are the ones that are logged and pass. -/
theorem isSome_notice? (url : String) (f : Failure) :
    (sv.notice? url f).isSome = f.isNoDocument := by
  cases f with
  | status code =>
    unfold notice?
    split <;> simp_all [Failure.isNoDocument]
  | _ => rfl

/-- **What asking for a document comes to**: the address has to be one that can
be sent to, the reply a response of success, and its body something that the
reader can read. -/
def heard (w : World σ) (url : String) (read : Json → Except Failure α) (s : σ) :
    Except Failure α := do
  let u ← sv.address url none
  let r ← (w.reply (sv.request u) s).1
  if u.isAbsolute then
    r.ensureSuccess
    read (← r.json)
  else .error .badValue

/-- **Whether the reply to asking for a document trips its reader.** -/
def Tripped (w : World σ) (url : String) (read : Json → Except Failure α) (s : σ) : Prop :=
  ∃ u, sv.address url none = .ok u ∧ Trips read (w.reply (sv.request u) s).1

/-- **What is heard of a provider can be borne unless its reply trips the reader**,
where the address can be asked. -/
theorem borne_heard_iff {w : World σ} (hw : w.Replies Provided) {url : String}
    (hurl : sv.Asks url) {read : Json → Except Failure α} (hread : ∀ j, Reads (read j)) (s : σ) :
    Borne (sv.heard w url read s) ↔ ¬ sv.Tripped w url read s := by
  obtain ⟨u, hu, habsolute⟩ := hurl
  have hheard : sv.heard w url read s =
      ((w.reply (sv.request u) s).1 >>= fun r => r.ensureSuccess >>= fun _ => r.json >>= read) := by
    rw [heard, hu]
    show ((w.reply (sv.request u) s).1 >>= fun r => if u.isAbsolute = true then _ else _) = _
    rw [habsolute]
    rfl
  have htripped : sv.Tripped w url read s ↔ Trips read (w.reply (sv.request u) s).1 := by
    simp only [Tripped, hu, Except.ok.injEq, exists_eq_left']
  rw [hheard, htripped]
  have hreply : Provided (w.reply (sv.request u) s).1 := hw _ s
  cases hr : (w.reply (sv.request u) s).1 with
  | error f =>
    rw [hr] at hreply
    refine iff_of_true (FailsOnly.error_iff.mpr ?_) id
    cases f with
    | transport fault message => rfl
    | _ => cases hreply.transport _ rfl
  | ok r =>
    show Borne (r.ensureSuccess >>= fun _ => r.json >>= read) ↔ _
    cases hs : r.ensureSuccess with
    | error f =>
      refine iff_of_true (FailsOnly.error_iff.mpr ?_) fun h => nomatch hs.symm.trans h.1
      unfold Response.ensureSuccess at hs
      split at hs
      · cases hs
      · rw [← Except.error.inj hs]
        rfl
    | ok _ =>
      show Borne (r.json >>= read) ↔ ¬ (r.ensureSuccess = .ok () ∧ _)
      rw [hs]
      have hreads : Reads (r.json >>= read) := r.reads_json.bind hread
      cases he : r.json >>= read with
      | ok a => exact iff_of_true ((FailsOnly.ok_iff a).mpr trivial) fun h => nomatch h.2
      | error f =>
        rw [he] at hreads
        rw [Borne, FailsOnly.error_iff, Failure.isNoDocument_of_isReading (hreads f rfl)]
        simp

/-- The state in which the world is left. -/
def since (w : World σ) (url : String) (s : σ) : σ :=
  match sv.address url none with
  | .ok u => (w.reply (sv.request u) s).2
  | .error _ => s

variable (w : World σ) (url : String) (read : Json → Except Failure α) (s : σ)

/-- Asking for an address gives the reply, if it can be used. -/
theorem run_get : (w.run (sv.get url none).attempt s).value = (do
      let u ← sv.address url none
      let r ← (w.reply (sv.request u) s).1
      if u.isAbsolute then .ok r else .error .badValue) ∧
    (w.run (sv.get url none).attempt s).state = sv.since w url s := by
  unfold get since
  cases sv.address url none with
  | error f => exact ⟨rfl, rfl⟩
  | ok u =>
    have huse : (fun r => if u.isAbsolute then return r else Action.fail .badValue) =
        fun r : Response => Action.ofExcept (if u.isAbsolute then .ok r else .error .badValue) := by
      funext r
      split <;> rfl
    show (w.run (Action.send (sv.request u) >>= _).attempt s).value = _ ∧
      (w.run (Action.send (sv.request u) >>= _).attempt s).state = _
    rw [huse]
    exact w.run_bind_ofExcept _ _ s

theorem run_document :
    (w.run (sv.document url none read).attempt s).value = sv.heard w url read s ∧
      (w.run (sv.document url none read).attempt s).state = sv.since w url s := by
  obtain ⟨hvalue, hstate⟩ := sv.run_get w url s
  obtain ⟨hvalue', hstate'⟩ := w.run_bind_ofExcept (sv.get url none)
    (fun r => r.ensureSuccess >>= fun _ => r.json >>= read) s
  refine ⟨hvalue'.trans ?_, hstate'.trans hstate⟩
  rw [hvalue]
  unfold heard
  cases sv.address url none with
  | error f => rfl
  | ok u =>
    dsimp only [bind, Except.bind]
    cases (w.reply (sv.request u) s).1 with
    | error f => rfl
    | ok r =>
      dsimp only
      by_cases hu : u.isAbsolute = true
      · rw [if_pos hu, if_pos hu]
      · rw [if_neg hu, if_neg hu]

/-- What cannot be had is nothing where that can be borne. -/
def kept : Except Failure α → Except Failure (Option α)
  | .ok a => .ok (some a)
  | .error f => if f.isNoDocument then .ok none else .error f

theorem kept_eq_ok_iff {e : Except Failure α} {o : Option α} :
    kept e = .ok o ↔ Borne e ∧ o = e.toOption := by
  cases e with
  | ok a => simp [kept, Except.toOption, eq_comm]
  | error f =>
    show (if f.isNoDocument = true then Except.ok none else Except.error f) = .ok o ↔ _
    rw [Borne, FailsOnly.error_iff]
    split
    · simp [*, Except.toOption, eq_comm]
    · simp [*]

/-- Fetching a document is asking for it and keeping what it came to. -/
theorem run_fetchJson :
    (w.run (sv.fetchJson url none read).attempt s).value = kept (sv.heard w url read s) ∧
      (w.run (sv.fetchJson url none read).attempt s).state = sv.since w url s := by
  obtain ⟨hvalue, hstate⟩ := sv.run_document w url read s
  show (w.run ((sv.document url none read).attempt.andThen _) s).value = _ ∧
    (w.run ((sv.document url none read).attempt.andThen _) s).state = _
  rw [World.run_andThen, ← hvalue, ← hstate]
  dsimp only
  cases hd : (w.run (sv.document url none read).attempt s).value with
  | ok a => exact ⟨rfl, rfl⟩
  | error f =>
    have hsome := sv.isSome_notice? url f
    unfold kept
    dsimp only
    cases hn : sv.notice? url f with
    | none =>
      rw [hn] at hsome
      rw [← hsome]
      exact ⟨rfl, rfl⟩
    | some n =>
      rw [hn] at hsome
      rw [← hsome]
      exact ⟨rfl, rfl⟩

variable {w url read s}

/-- An action that fetches a document first goes on where that can be borne. -/
theorem returns_fetchJson_bind_iff {f : Option α → Action β} {Q : β → Prop} :
    w.Returns (sv.fetchJson url none read >>= f) s Q ↔
      Borne (sv.heard w url read s) ∧
        w.Returns (f (sv.heard w url read s).toOption) (sv.since w url s) Q := by
  obtain ⟨hvalue, hstate⟩ := sv.run_fetchJson w url read s
  rw [World.returns_bind_iff, hvalue, hstate]
  simp only [kept_eq_ok_iff]
  constructor
  · rintro ⟨_, ⟨hborne, rfl⟩, h⟩
    exact ⟨hborne, h⟩
  · rintro ⟨hborne, h⟩
    exact ⟨_, ⟨hborne, rfl⟩, h⟩

/-- So does one that makes something of the document first. -/
theorem returns_made_bind_iff {g : Option α → γ} {f : γ → Action β} {Q : β → Prop} :
    w.Returns ((do return g (← sv.fetchJson url none read)) >>= f) s Q ↔
      Borne (sv.heard w url read s) ∧
        w.Returns (f (g (sv.heard w url read s).toOption)) (sv.since w url s) Q := by
  rw [Action.bind_assoc, returns_fetchJson_bind_iff]
  exact Iff.rfl

end Service

/-- **A key** or none: a text, or null. -/
def IsKey (key : Json) : Prop :=
  key = .null ∨ ∃ t, key = .str t

/-- Setting no reading changes nothing. -/
theorem Record.set_none (r : Record) (s : Signal) : r.set s none = r := by
  refine Record.ext_reading rfl fun t => ?_
  rw [Record.reading_set]
  split <;> rfl

/-! ## deps.dev -/

namespace DepsDev

variable {w : World σ} {s : σ}

variable (c : Client) (w) (i : Identity) (system : String)

/-- What deps.dev comes to say about the dependents of a version. -/
def Client.countHeard (version : String) (s : σ) : Except Failure (Option Int) :=
  service.heard w (c.dependentsUrl system i.coordinates version) dependentCount s

/-- What it comes to say about those of the version that is asked for, if one
is. -/
def Client.ownHeard (s : σ) : Except Failure (Option Int) :=
  match Identity.nonempty? i.version with
  | none => .ok none
  | some v => c.countHeard w i system v s

/-- The state in which the world is left then. -/
def Client.sinceOwn (s : σ) : σ :=
  match Identity.nonempty? i.version with
  | none => s
  | some v => service.since w (c.dependentsUrl system i.coordinates v) s

/-- **Whether the counts can be borne** that are asked for once the latest
version is known. -/
@[mk_iff]
structure CountsBorne (latest : Json) (s : σ) : Prop where
  /-- That of the version which is asked for can be. -/
  own : Borne (c.ownHeard w i system s)
  /-- Where it is not known and the latest version is another one, that is a text
  and its count can be borne. -/
  fallback : (c.ownHeard w i system s).toOption.join = none → isVersion latest i.version = false →
    ∃ t, latest = .str t ∧ Borne (c.countHeard w i system t (c.sinceOwn w i system s))

/-- The count that is known then: that of the version which is asked for, or of
the latest one. -/
def Client.countKnown (latest : Json) (s : σ) : Option Int :=
  (c.ownHeard w i system s).toOption.join <|>
    match latest with
    | .str t =>
      if isVersion latest i.version then none
      else (c.countHeard w i system t (c.sinceOwn w i system s)).toOption.join
    | _ => none

theorem returns_dependents_iff {version : String} {Q : Option Int → Prop} :
    w.Returns (c.dependents system i.coordinates version) s Q ↔
      Borne (c.countHeard w i system version s) ∧
        Q (c.countHeard w i system version s).toOption.join := by
  rw [Client.dependents, Service.returns_fetchJson_bind_iff, World.returns_pure_iff]
  exact Iff.rfl

theorem versionText_eq_ok_iff {j : Json} {t : String} : versionText j = .ok t ↔ j = .str t := by
  cases j <;> simp [versionText]

theorem returns_countFor_iff {latest : Json} {Q : Option Int → Prop} :
    w.Returns (countFor c i system latest) s Q ↔
      CountsBorne w c i system latest s ∧ Q (c.countKnown w i system latest s) := by
  -- The count of the version that is asked for comes first, if there is one.
  have hown {f : Option Int → Action (Option Int)} :
      w.Returns (match Identity.nonempty? i.version with
        | none => pure none >>= f
        | some v => c.dependents system i.coordinates v >>= f) s Q ↔
      Borne (c.ownHeard w i system s) ∧
        w.Returns (f (c.ownHeard w i system s).toOption.join) (c.sinceOwn w i system s) Q := by
    unfold Client.ownHeard Client.sinceOwn
    cases Identity.nonempty? i.version with
    | none =>
      dsimp only
      rw [Borne, FailsOnly.ok_iff, true_and]
      exact Iff.rfl
    | some v => exact Service.returns_made_bind_iff _
  unfold countFor
  refine hown.trans ?_
  rw [countsBorne_iff, and_assoc]
  refine and_congr_right fun _ => ?_
  unfold Client.countKnown
  cases (c.ownHeard w i system s).toOption.join with
  | some n => simp
  | none =>
    cases hversion : isVersion latest i.version with
    | true => cases latest <;> simp
    | false =>
      show w.Returns (Action.ofExcept (versionText latest) >>= _) _ _ ↔ _
      rw [World.returns_ofExcept_bind_iff]
      simp only [versionText_eq_ok_iff, returns_dependents_iff, true_imp_iff]
      constructor
      · rintro ⟨t, rfl, hcount, hQ⟩
        exact ⟨⟨t, rfl, hcount⟩, by simpa using hQ⟩
      · rintro ⟨⟨t, rfl, hcount⟩, hQ⟩
        exact ⟨t, rfl, hcount, by simpa using hQ⟩

/-- What deps.dev comes to say about the latest version of a package. -/
def Client.latestHeard (s : σ) : Except Failure Json :=
  service.heard w (c.latestVersionUrl system i.coordinates) DepsDev.latestVersion s

/-- The state in which the world is left then. -/
def Client.sinceLatest (s : σ) : σ :=
  service.since w (c.latestVersionUrl system i.coordinates) s

/-- The latest version, if it is known. -/
def Client.latestKnown (s : σ) : Option Json :=
  (c.latestHeard w i system s).toOption.bind Json.known?

/-- What begins with the latest version gives up where that is not known. -/
theorem returns_latest_iff {giveUp : Action β} {goOn : Json → Action β} {Q : β → Prop} :
    w.Returns (do
      let latest ← c.latestVersion system i.coordinates
      match latest.known? with
      | none => giveUp
      | some latest => goOn latest) s Q ↔
    Borne (c.latestHeard w i system s) ∧
      w.Returns ((c.latestKnown w i system s).elim giveUp goOn) (c.sinceLatest w i system s) Q := by
  rw [Client.latestVersion, Service.returns_made_bind_iff]
  refine and_congr Iff.rfl ?_
  show w.Returns (match ((c.latestHeard w i system s).toOption.getD .null).known? with
    | none => giveUp
    | some latest => goOn latest) (c.sinceLatest w i system s) Q ↔ _
  unfold Client.latestKnown
  cases c.latestHeard w i system s with
  | error f => exact Iff.rfl
  | ok latest => cases latest <;> exact Iff.rfl

/-- **Whether what deps.dev comes to say about a package can be borne.** -/
@[mk_iff]
structure PackageBorne (s : σ) : Prop where
  /-- The latest version can be. -/
  latest : Borne (c.latestHeard w i system s)
  /-- Where it is known, the counts can be. -/
  counts : ∀ latest, c.latestKnown w i system s = some latest →
    CountsBorne w c i system latest (c.sinceLatest w i system s)

/-- **The record of the counts that are known.** -/
def Client.packageRecord (s : σ) : Record :=
  match c.systems.systemFor i.ecosystem with
  | none => .empty i
  | some system =>
    match c.latestKnown w i system s with
    | none => .empty i
    | some latest => (Record.empty i).set .dependents
      ((c.countKnown w i system latest (c.sinceLatest w i system s)).map .count)

theorem Client.identity_packageRecord (s : σ) : (c.packageRecord w i s).identity = i := by
  unfold packageRecord
  split
  · rfl
  · split <;> rfl

/-- No latest version is known where it was not heard of. -/
theorem Client.latestKnown_of_error {s : σ} {f : Failure}
    (hf : c.latestHeard w i system s = .error f) : c.latestKnown w i system s = none := by
  rw [latestKnown, hf]
  rfl

/-- What deps.dev comes to say about the source project of a version. -/
def Client.sourceHeard (version : String) (s : σ) : Except Failure Json :=
  service.heard w (c.versionUrl system i.coordinates version) DepsDev.sourceProject s

/-- **Whether what deps.dev comes to say about the source project can be
borne.** -/
@[mk_iff]
structure SourceBorne (s : σ) : Prop where
  /-- The latest version can be. -/
  latest : Borne (c.latestHeard w i system s)
  /-- Where it is known, it is a text, and what is said about it can be borne. -/
  source : ∀ latest, c.latestKnown w i system s = some latest →
    ∃ t, latest = .str t ∧ Borne (c.sourceHeard w i system t (c.sinceLatest w i system s))

/-- **The key of the source project**, null where it is not known. -/
def Client.sourceKey (s : σ) : Json :=
  match c.systems.systemFor i.ecosystem with
  | none => .null
  | some system =>
    match c.latestKnown w i system s with
    | some (.str t) =>
      (c.sourceHeard w i system t (c.sinceLatest w i system s)).toOption.getD .null
    | _ => .null

variable {system} in
/-- Without a latest version there is nothing to tell. -/
theorem Client.empty_of_error {s : σ} (hsystem : c.systems.systemFor i.ecosystem = some system)
    {f : Failure} (hf : c.latestHeard w i system s = .error f) :
    c.packageRecord w i s = .empty i ∧ c.sourceKey w i s = .null := by
  have hknown := c.latestKnown_of_error w i system hf
  constructor
  · rw [packageRecord, hsystem]
    dsimp only
    rw [hknown]
  · rw [sourceKey, hsystem]
    dsimp only
    rw [hknown]

theorem returns_counted_iff {count : Option Int} {Q : Record → Prop} :
    w.Returns (counted i count) s Q ↔ Q ((Record.empty i).set .dependents (count.map .count)) := by
  cases count with
  | none =>
    rw [Option.map_none, Record.set_none]
    exact World.returns_note_bind_iff.trans World.returns_pure_iff
  | some n => exact World.returns_pure_iff

variable {c i}

/-- **The analysis of a package returns if and only if what deps.dev comes to say
can be borne**, and then with the record of the counts that are known. -/
theorem returns_analyzePackage_iff {Q : Record → Prop} :
    w.Returns (analyzePackage c i) s Q ↔
      (∀ system, c.systems.systemFor i.ecosystem = some system → PackageBorne w c i system s) ∧
        Q (c.packageRecord w i s) := by
  unfold Client.packageRecord
  cases hs : c.systems.systemFor i.ecosystem with
  | none =>
    unfold analyzePackage
    rw [hs]
    simp
  | some system =>
    rw [analyzePackage_eq c i hs]
    simp only [Option.some.injEq, forall_eq', packageBorne_iff, and_assoc]
    refine (returns_latest_iff w c i system).trans (and_congr_right fun _ => ?_)
    cases c.latestKnown w i system s with
    | none => exact World.returns_note_bind_iff.trans (by simp)
    | some latest =>
      simp only [Option.some.injEq, forall_eq']
      exact (World.returns_bind_of_forall fun count _ => returns_counted_iff w i).trans
        (returns_countFor_iff w c i system)

/-- **The search for the source project returns if and only if what deps.dev comes
to say can be borne**, and then with the key that is known. -/
theorem returns_findProject_iff {Q : Json → Prop} :
    w.Returns (findProject c i) s Q ↔
      (∀ system, c.systems.systemFor i.ecosystem = some system → SourceBorne w c i system s) ∧
        Q (c.sourceKey w i s) := by
  have hreturn (key : Json) (s' : σ) : w.Returns (do
      if key.known?.isNone then
        Action.say .info ("Could not determine source code project for " ++ i.purl)
      return key) s' Q ↔ Q key := by
    dsimp only
    split
    · exact World.returns_note_bind_iff.trans World.returns_pure_iff
    · exact World.returns_pure_iff
  unfold findProject Client.sourceKey
  cases hs : c.systems.systemFor i.ecosystem with
  | none => simp
  | some system =>
    simp only [Option.some.injEq, forall_eq', sourceBorne_iff, and_assoc]
    refine (returns_latest_iff w c i system).trans (and_congr_right fun _ => ?_)
    cases c.latestKnown w i system s with
    | none => exact World.returns_note_bind_iff.trans (by simp)
    | some latest =>
      refine World.returns_ofExcept_bind_iff.trans ?_
      simp only [versionText_eq_ok_iff, Option.some.injEq, forall_eq']
      have hsource (t : String) : w.Returns (do
          let key ← c.sourceProject system i.coordinates t
          if key.known?.isNone then
            Action.say .info ("Could not determine source code project for " ++ i.purl)
          return key) (c.sinceLatest w i system s) Q ↔
          Borne (c.sourceHeard w i system t (c.sinceLatest w i system s)) ∧
            Q ((c.sourceHeard w i system t (c.sinceLatest w i system s)).toOption.getD .null) := by
        rw [Client.sourceProject, Service.returns_made_bind_iff, hreturn]
        exact Iff.rfl
      constructor
      · rintro ⟨t, rfl, h⟩
        obtain ⟨hborne, hQ⟩ := (hsource t).mp h
        exact ⟨⟨t, rfl, hborne⟩, hQ⟩
      · rintro ⟨⟨t, rfl, hborne⟩, hQ⟩
        exact ⟨t, rfl, (hsource t).mpr ⟨hborne, hQ⟩⟩

variable (c i)

/-- What deps.dev comes to say about a project. -/
def Client.projectHeard (key : String) (s : σ) : Except Failure Project :=
  service.heard w (c.projectUrl key) DepsDev.project s

/-- **The record of a project that is known.** -/
def Client.projectRecord (key : String) (s : σ) : Record :=
  match c.projectHeard w key s with
  | .ok p => (Record.empty i).setAll (p.readings (p.version.bind fun v => (versionText v).toOption))
  | .error _ => .empty i

theorem Client.identity_projectRecord (key : String) (s : σ) :
    (c.projectRecord w i key s).identity = i := by
  unfold projectRecord
  split
  · exact Record.identity_setAll _ _
  · rfl

/-- **Whether what deps.dev comes to say about a project can be borne.** -/
@[mk_iff]
structure ProjectBorne (key : String) (s : σ) : Prop where
  /-- The project can be. -/
  project : Borne (c.projectHeard w key s)
  /-- A version that it names is a text. -/
  version : ∀ p, c.projectHeard w key s = .ok p → ∀ v, p.version = some v → ∃ t, v = .str t

variable {c i}

theorem Project.record_eq_ok_iff {p : Project} {r : Record} :
    p.record i = .ok r ↔
      (∀ v, p.version = some v → ∃ t, v = .str t) ∧
        r = (Record.empty i).setAll
          (p.readings (p.version.bind fun v => (versionText v).toOption)) := by
  unfold record
  cases p.version with
  | none =>
    show Except.ok _ = Except.ok r ↔ _
    simp [eq_comm]
  | some v =>
    cases v with
    | str t =>
      show Except.ok _ = Except.ok r ↔ _
      simp [eq_comm, versionText, Except.toOption]
    | _ => exact iff_of_false (by intro h; cases h) (by simp)

/-- **The analysis of a project returns if and only if what deps.dev comes to say
can be borne**, and then with the record of the project. -/
theorem returns_analyzeProject_iff {key : String} {Q : Record → Prop} :
    w.Returns (analyzeProject c i (.str key)) s Q ↔
      ProjectBorne w c key s ∧ Q (c.projectRecord w i key s) := by
  show w.Returns (c.project key >>= _) s _ ↔ _
  rw [Client.project, Service.returns_fetchJson_bind_iff, projectBorne_iff, and_assoc]
  refine and_congr Iff.rfl ?_
  unfold Client.projectRecord Client.projectHeard
  cases service.heard w (c.projectUrl key) project s with
  | error f => exact World.returns_note_bind_iff.trans (by simp)
  | ok p =>
    simp only [Except.ok.injEq, forall_eq']
    show (∃ r, (p.record i).mapError Failure.invalid = .ok r ∧ Q r) ↔ _
    simp only [mapError_eq_ok_iff, Project.record_eq_ok_iff, and_assoc, exists_and_left, exists_eq_left]

end DepsDev

/-! ## Package registries -/

/-- **Whether a key can be looked for in what asking for a document came to**: that
can be borne, and a document that is an object can be searched. -/
@[mk_iff]
structure KeyBorne (find : Json → Except Failure (Option String)) (e : Except Failure Json) :
    Prop where
  /-- What it came to can be borne. -/
  document : Borne e
  /-- An object can be searched. -/
  search : ∀ members, e = .ok (.obj members) → ∃ key?, find (.obj members) = .ok key?

/-- **The key that is found**, null where there is none. -/
def keyFound (find : Json → Except Failure (Option String)) (e : Except Failure Json) : Json :=
  match e with
  | .ok (.obj members) => ((find (.obj members)).toOption.join.map .str).getD .null
  | _ => .null

theorem isKey_keyFound (find : Json → Except Failure (Option String)) (e : Except Failure Json) :
    IsKey (keyFound find e) := by
  unfold keyFound
  split
  · next members =>
    cases (find (.obj members)).toOption.join with
    | none => exact .inl rfl
    | some t => exact .inr ⟨t, rfl⟩
  · exact .inl rfl

/-- **The search for a key in a document returns if and only if the key can be
looked for**, and then with the key that is found. -/
theorem returns_keyFound_iff {w : World σ} {sv : Service} {url text : String} {s : σ}
    {k : Json → Except Failure (Option String)} {Q : Json → Prop} :
    w.Returns (do
      match ← sv.fetchJson url none pure with
      | some (.obj members) => do
        match ← Action.ofExcept (k (.obj members)) with
        | some key => return .str key
        | none => do
          .say .info text
          return .null
      | _ => return .null) s Q ↔
    KeyBorne k (sv.heard w url pure s) ∧ Q (keyFound k (sv.heard w url pure s)) := by
  rw [Service.returns_fetchJson_bind_iff, keyBorne_iff, and_assoc]
  refine and_congr_right fun _ => ?_
  unfold keyFound
  cases sv.heard w url pure s with
  | error f => exact World.returns_pure_iff.trans (by simp)
  | ok j =>
    cases j with
    | obj members =>
      simp only [Except.ok.injEq, Json.obj.injEq, forall_eq']
      refine World.returns_ofExcept_bind_iff.trans ?_
      cases k (.obj members) with
      | error f => simp
      | ok key? =>
        simp only [Except.ok.injEq, exists_eq_left', exists_eq', true_and]
        cases key? with
        | none => exact World.returns_note_bind_iff.trans World.returns_pure_iff
        | some key => exact World.returns_pure_iff
    | _ => exact World.returns_pure_iff.trans (by simp)

/-- What npm comes to say about a package. -/
def Npm.heard (w : World σ) (root : String) (i : Identity) (s : σ) : Except Failure Json :=
  service.heard w (packageUrl root i) pure s

/-- What PyPI comes to say about a package. -/
def PyPi.heard (w : World σ) (root : String) (i : Identity) (s : σ) : Except Failure Json :=
  service.heard w (packageUrl root i) pure s

/-! ## What returns -/

/-- **An adapter returns if and only if what it comes to hear can be borne.** The
analyses of packages and projects then have a record of what is known, which is
about the identity and empty where nothing is known; the searches for a key have
the key that is known, or null where none is. A key of npm or PyPI is a text,
and one of deps.dev is what its document says. This is so in every world that
replies in whole characters.

What is heard of a provider can be borne unless its reply trips the reader, where
the address can be asked. Below a root that can be asked this is every address
which is not too long, whatever deps.dev is asked about, and where the name is
plain for npm and PyPI. -/
theorem adapters_return_iff (c : DepsDev.Client) (npm pypi : String) (i : Identity) (key : String)
    (w : World σ) (hw : w.Replies Provided) (s : σ) :
    (∀ Q, w.Returns (DepsDev.analyzePackage c i) s Q ↔
      (∀ system, c.systems.systemFor i.ecosystem = some system →
        DepsDev.PackageBorne w c i system s) ∧ Q (c.packageRecord w i s)) ∧
    (∀ Q, w.Returns (DepsDev.analyzeProject c i (.str key)) s Q ↔
      DepsDev.ProjectBorne w c key s ∧ Q (c.projectRecord w i key s)) ∧
    (∀ Q, w.Returns (DepsDev.findProject c i) s Q ↔
      (∀ system, c.systems.systemFor i.ecosystem = some system →
        DepsDev.SourceBorne w c i system s) ∧ Q (c.sourceKey w i s)) ∧
    (∀ Q, w.Returns (Npm.find npm i) s Q ↔
      KeyBorne (Npm.keyIn · i.version) (Npm.heard w npm i s) ∧
        Q (keyFound (Npm.keyIn · i.version) (Npm.heard w npm i s))) ∧
    (∀ Q, w.Returns (PyPi.find pypi i) s Q ↔
      KeyBorne PyPi.keyIn (PyPi.heard w pypi i s) ∧
        Q (keyFound PyPi.keyIn (PyPi.heard w pypi i s))) ∧
    ((c.packageRecord w i s).identity = i ∧ (c.projectRecord w i key s).identity = i ∧
      IsKey (keyFound (Npm.keyIn · i.version) (Npm.heard w npm i s)) ∧
      IsKey (keyFound PyPi.keyIn (PyPi.heard w pypi i s))) ∧
    (∀ system f, c.systems.systemFor i.ecosystem = some system →
      c.latestHeard w i system s = .error f →
        c.packageRecord w i s = .empty i ∧ c.sourceKey w i s = .null) ∧
    (∀ f, c.projectHeard w key s = .error f → c.projectRecord w i key s = .empty i) ∧
    (∀ (sv : Service) (url : String), sv.Asks url →
      ∀ (α : Type) (read : Json → Except Failure α) (s' : σ), (∀ j, Reads (read j)) →
        (Borne (sv.heard w url read s') ↔ ¬ sv.Tripped w url read s')) ∧
    (∀ u, DepsDev.service.Base c.root u → ∀ system version,
      ∀ url ∈ [c.latestVersionUrl system i.coordinates, c.versionUrl system i.coordinates version,
        c.dependentsUrl system i.coordinates version, c.projectUrl key],
        url.length ≤ Url.lengthLimit → DepsDev.service.Asks url) ∧
    (∀ u, Npm.service.Base npm u → Plain i.coordinates.toList →
      (Npm.packageUrl npm i).length ≤ Url.lengthLimit →
        Npm.service.Asks (Npm.packageUrl npm i)) ∧
    ∀ u, PyPi.service.Base pypi u → Plain i.name.toList →
      (PyPi.packageUrl pypi i).length ≤ Url.lengthLimit →
        PyPi.service.Asks (PyPi.packageUrl pypi i) := by
  refine ⟨fun Q => DepsDev.returns_analyzePackage_iff w,
    fun Q => DepsDev.returns_analyzeProject_iff w, fun Q => DepsDev.returns_findProject_iff w,
    fun Q => returns_keyFound_iff (k := (Npm.keyIn · i.version)), fun Q => returns_keyFound_iff,
    ⟨c.identity_packageRecord w i s, c.identity_projectRecord w i key s, isKey_keyFound _ _,
      isKey_keyFound _ _⟩,
    fun system f hsystem hf => c.empty_of_error w i hsystem hf, fun f hf => ?_,
    fun sv url hurl α read s' hread => sv.borne_heard_iff hw hurl hread s',
    fun u hb system version url hurl => hb.asks (c.below_root system _ version key url hurl),
    fun u hb hi => hb.asks (Npm.below_root npm hi),
    fun u hb hi => hb.asks (PyPi.below_root pypi hi)⟩
  rw [DepsDev.Client.projectRecord, hf]

/-- A world in which every document is an empty list. -/
def lists : World Unit where
  reply _ s := (.ok ⟨200, [], [91, 93]⟩, s)
  clock s := (default, s)
  turn s := (true, s)

/-- What is heard there is what is read in an empty list. -/
theorem Service.heard_lists {sv : Service} {url : String} (hurl : sv.Asks url)
    (read : Json → Except Failure α) : sv.heard lists url read () = read (.arr []) := by
  obtain ⟨u, hu, habsolute⟩ := hurl
  unfold heard
  rw [hu]
  show (if u.isAbsolute = true then _ else _) = _
  rw [habsolute]
  rfl

/-- An empty list holds no key. -/
theorem keyBorne_lists {sv : Service} {url : String} (hurl : sv.Asks url)
    (find : Json → Except Failure (Option String)) :
    KeyBorne find (sv.heard lists url pure ()) ∧
      keyFound find (sv.heard lists url pure ()) = .null := by
  rw [Service.heard_lists hurl]
  exact ⟨⟨.ok _, fun members h => nomatch h⟩, rfl⟩

/-- A result that passes a check is one that an action returns with. -/
theorem World.returns_of_any {w : World σ} {x : Action α} {s : σ} {p : α → Bool}
    (h : (w.run x.attempt s).value.toOption.any p = true) :
    w.Returns x s (p · = true) := by
  unfold Returns
  cases hx : (w.run x.attempt s).value with
  | error f =>
    rw [hx] at h
    cases h
  | ok a =>
    rw [hx] at h
    exact ⟨a, rfl, h⟩

/-- A package of npm. -/
def packageX : Identity := ⟨"npm", "x", none, none⟩

/-- A list trips the reader of the latest version, so nothing returns that begins with
it; as a document of npm or PyPI it holds no key. What deps.dev says about a package
that it knows can be borne. -/
theorem adapters_return_iff_lists :
    (lists.Replies Provided ∧ Registry.placedText.Replies Provided ∧
      ∃ u, DepsDev.service.Base Registry.nearby.depsDev.root u) ∧
    (DepsDev.service.Tripped lists
        (Registry.nearby.depsDev.latestVersionUrl "NPM" packageX.coordinates)
        DepsDev.latestVersion () ∧
      ¬ lists.Returns (DepsDev.analyzePackage Registry.nearby.depsDev packageX) ()
        (fun _ => True) ∧
      ¬ lists.Returns (DepsDev.findProject Registry.nearby.depsDev packageX) ()
        (fun _ => True)) ∧
    (lists.Returns (Npm.find Npm.standardRoot packageX) () (· = .null) ∧
      lists.Returns (PyPi.find PyPi.standardRoot packageX) () (· = .null)) ∧
    DepsDev.PackageBorne Registry.placedText Registry.nearby.depsDev packageX "NPM" () ∧
      DepsDev.ProjectBorne Registry.placedText Registry.nearby.depsDev "github.com/o/n" () ∧
      (Registry.nearby.depsDev.projectRecord Registry.placedText packageX "github.com/o/n"
        ()).populated = [.stars] := by
  have hlists : lists.Replies Provided := fun _ _ => .ok rfl
  have hplaced : Registry.placedText.Replies Provided :=
    fun q s => (Registry.replies_placedText q s).1
  have hsystem : Registry.nearby.depsDev.systems.systemFor packageX.ecosystem = some "NPM" := by
    decide +kernel
  have hbase : ∃ u, DepsDev.service.Base Registry.nearby.depsDev.root u := ⟨_, by decide, rfl, rfl⟩
  obtain ⟨hpackage, -, hproject, hnpm, hpypi, -, -, -, htrip, hasks, hasksNpm, hasksPypi⟩ :=
    adapters_return_iff Registry.nearby.depsDev Npm.standardRoot PyPi.standardRoot packageX
      "github.com/o/n" lists hlists ()
  -- The address can be asked, and the reply trips the reader.
  obtain ⟨u, hu⟩ := hbase
  have hurl := hasks u hu "NPM" "" _ List.mem_cons_self (by decide +kernel)
  have htripped : DepsDev.service.Tripped lists
      (Registry.nearby.depsDev.latestVersionUrl "NPM" packageX.coordinates)
      DepsDev.latestVersion () := by
    obtain ⟨u', hu', -⟩ := hurl
    exact ⟨u', hu', rfl, .unsupported, rfl, rfl⟩
  have hlatest : ¬ Borne (Registry.nearby.depsDev.latestHeard lists packageX "NPM" ()) :=
    fun h => (htrip _ _ hurl _ _ () DepsDev.reads_latestVersion).mp h htripped
  have hnpmUrl := hasksNpm _ ⟨by decide, rfl, rfl⟩ (by decide) (by decide +kernel)
  have hpypiUrl := hasksPypi _ ⟨by decide, rfl, rfl⟩ (by decide) (by decide +kernel)
  obtain ⟨hpackage', hproject', -⟩ :=
    adapters_return_iff Registry.nearby.depsDev Npm.standardRoot PyPi.standardRoot packageX
      "github.com/o/n" Registry.placedText hplaced ()
  obtain ⟨hborne, -⟩ := (hpackage' _).mp
    (World.returns_of_any (p := fun _ => true) (by decide +kernel))
  obtain ⟨hborne', hstars⟩ := (hproject' _).mp
    (World.returns_of_any (p := fun r => r.populated == [.stars]) (by decide +kernel))
  exact ⟨⟨hlists, hplaced, u, hu⟩,
    ⟨htripped, fun h => hlatest (((hpackage _).mp h).1 "NPM" hsystem).latest,
      fun h => hlatest (((hproject _).mp h).1 "NPM" hsystem).latest⟩,
    ⟨(hnpm _).mpr (keyBorne_lists hnpmUrl _), (hpypi _).mpr (keyBorne_lists hpypiUrl _)⟩,
    hborne "NPM" hsystem, hborne', by simpa using hstars⟩

end PackageVitals
