import PackageVitals.Proofs.Counterpart
import PackageVitals.Proofs.Reaching
import PackageVitals.Proofs.Returning
import PackageVitals.Program.Order

/-!
# How an analysis opens

In a world without documents an analysis asks each helper's first question
and no other: nothing that is answered leads on. What is asked there are
the **openings** of the helpers that apply (`Registry.asked_analyze`), in
the order of the registry, and two analyses that open differently are told
apart by that world. This is how an analysis is shown to depend on
something.
-/

namespace PackageVitals

theorem Outcome.requests_append (o : Outcome σ α) (o' : Outcome τ β) (a : γ) (s : ρ) :
    (Outcome.mk a (o.events ++ o'.events) s).requests = o.requests ++ o'.requests :=
  List.filterMap_append

/-- What an action asks is what its first part does, and after a success the rest. -/
theorem World.requests_bind (w : World σ) (x : Action α) (f : α → Action β) (s : σ) :
    (w.run (x >>= f).attempt s).requests = (w.run x.attempt s).requests ++
      match (w.run x.attempt s).value with
      | .ok a => (w.run (f a).attempt (w.run x.attempt s).state).requests
      | .error _ => [] := by
  rw [Action.attempt_bind, run_andThen]
  refine (Outcome.requests_append _ _ _ _).trans (congrArg _ ?_)
  cases (w.run x.attempt s).value <;> rfl

/-- What is made of a result asks nothing more. -/
theorem World.requests_map (w : World σ) (x : Action α) (f : α → β) (s : σ) :
    (w.run (do return f (← x)).attempt s).requests = (w.run x.attempt s).requests := by
  rw [requests_bind]
  cases (w.run x.attempt s).value <;> exact List.append_nil _

namespace Registry

/-! ## Questions that no document answers -/

/-- What a program asks where there are no documents. -/
def asked (p : Program α) : List Request := (bare.run p ()).requests

/-- What a program comes to where there are no documents. -/
def unanswered (p : Program α) : α := (bare.run p ()).value

theorem asked_andThen (p : Program α) (f : α → Program β) :
    asked (p.andThen f) = asked p ++ asked (f (unanswered p)) := by
  unfold asked unanswered
  rw [World.run_andThen]
  exact Outcome.requests_append _ _ _ _

theorem unanswered_andThen (p : Program α) (f : α → Program β) :
    unanswered (p.andThen f) = unanswered (f (unanswered p)) := by
  unfold unanswered
  rw [World.run_andThen]

theorem asked_gather (ps : List (Program α)) : asked (Program.gather ps) = ps.flatMap asked := by
  have hrun (s : Unit) : bare.run (Program.gather ps) s = bare.runAll ps s :=
    World.run_gather (fun _ => rfl) ps s
  unfold asked
  rw [hrun]
  clear hrun
  induction ps with
  | nil => rfl
  | cons p ps ih =>
    rw [List.flatMap_cons, ← ih]
    exact Outcome.requests_append _ _ _ _

theorem unanswered_gather (ps : List (Program α)) :
    unanswered (Program.gather ps) = ps.map unanswered := by
  have hrun (s : Unit) : bare.run (Program.gather ps) s = bare.runAll ps s :=
    World.run_gather (fun _ => rfl) ps s
  unfold unanswered
  rw [hrun]
  clear hrun
  induction ps with
  | nil => rfl
  | cons p ps ih =>
    rw [List.map_cons, ← ih]
    rfl

/-- An action asks what its first part does, and goes on after a success. -/
theorem asked_bind (x : Action α) (f : α → Action β) :
    asked (x >>= f).attempt = asked x.attempt ++ match unanswered x.attempt with
      | .ok a => asked (f a).attempt
      | .error _ => [] := by
  rw [Action.attempt_bind, asked_andThen]
  congr 1
  cases unanswered x.attempt <;> rfl

theorem unanswered_bind (x : Action α) (f : α → Action β) :
    unanswered (x >>= f).attempt = unanswered x.attempt >>= fun a => unanswered (f a).attempt := by
  rw [Action.attempt_bind, unanswered_andThen]
  cases unanswered x.attempt <;> rfl

/-- **Whether an action opens with some requests and comes to nothing**: it
asks them and no more, and ends with a given value or a failure. -/
structure Opens (qs : List Request) (a : α) (x : Action α) : Prop where
  /-- It asks them and no more. -/
  asked : asked x.attempt = qs
  /-- It ends so, or with a failure. -/
  value : unanswered x.attempt = .ok a ∨ ∃ f, unanswered x.attempt = .error f

theorem Opens.pure (a : α) : Opens [] a (Pure.pure a) := ⟨rfl, .inl rfl⟩

/-- What follows an opening may open no more. -/
theorem Opens.bind {qs : List Request} {a : α} {b : β} {x : Action α} {f : α → Action β}
    (hx : Opens qs a x) (hf : Opens [] b (f a)) : Opens qs b (x >>= f) := by
  refine ⟨?_, ?_⟩
  · rw [asked_bind, hx.asked]
    rcases hx.value with h | ⟨e, h⟩
    · rw [h]
      show qs ++ Registry.asked (f a).attempt = qs
      rw [hf.asked, List.append_nil]
    · rw [h]
      exact List.append_nil qs
  · rw [unanswered_bind]
    rcases hx.value with h | ⟨e, h⟩
    · rw [h]
      exact hf.value
    · rw [h]
      exact .inr ⟨e, rfl⟩

theorem Opens.say {severity : Severity} {text : String} {b : β} {x : Action β}
    (hx : Opens [] b x) : Opens [] b (Action.say severity text >>= fun _ => x) :=
  Opens.bind (a := ()) ⟨rfl, .inl rfl⟩ hx

/-! ## Stages -/

theorem asked_isolate (rs : List (String × Except Failure α)) :
    asked (isolate rs).attempt = [] := by
  induction rs with
  | nil => rfl
  | cons r rest ih =>
    obtain ⟨name, f | a⟩ := r
    · rw [isolate]
      split
      · rfl
      · rw [asked_bind]
        show [] ++ asked (isolate rest >>= _).attempt = []
        rw [List.nil_append, asked_bind, ih]
        cases unanswered (isolate rest).attempt <;> rfl
    · rw [isolate, asked_bind, ih]
      cases unanswered (isolate rest).attempt <;> rfl

theorem unanswered_isolate {rs : List (String × Except Failure α)}
    (h : ∀ r ∈ rs, r.2 ≠ .error .cancelled) :
    unanswered (isolate rs).attempt = .ok (rs.map (·.2.toOption)) :=
  (course_isolate (bare.course_log (isolate rs).attempt ()) h).2

/-- A stage asks what its helpers do, one after another. -/
theorem asked_stage (hs : List (String × Action α)) :
    asked (stage hs).attempt = hs.flatMap fun h => asked h.2.attempt := by
  unfold stage
  rw [Action.attempt_bind, Action.attempt_lift, Program.andThen_assoc, asked_andThen]
  show asked (Program.gather _) ++ asked (isolate _).attempt = _
  rw [asked_isolate, List.append_nil, asked_gather, List.flatMap_map]

theorem unanswered_stage {hs : List (String × Action α)}
    (h : ∀ x ∈ hs, unanswered x.2.attempt ≠ .error .cancelled) :
    unanswered (stage hs).attempt = .ok (hs.map fun x => (unanswered x.2.attempt).toOption) := by
  unfold stage
  rw [Action.attempt_bind, Action.attempt_lift, Program.andThen_assoc, unanswered_andThen]
  show unanswered (isolate _).attempt = _
  rw [unanswered_gather, List.map_map, unanswered_isolate]
  · rw [show (hs.map (·.1)).zip (hs.map (unanswered ∘ fun x => x.2.attempt)) =
      hs.map fun x => (x.1, unanswered x.2.attempt) from List.zip_map', List.map_map]
    rfl
  · intro r hr
    rw [show (hs.map (·.1)).zip (hs.map (unanswered ∘ fun x => x.2.attempt)) =
      hs.map fun x => (x.1, unanswered x.2.attempt) from List.zip_map'] at hr
    obtain ⟨x, hx, rfl⟩ := List.mem_map.mp hr
    exact h x hx

end Registry

/-! ## Services -/

open Registry (asked unanswered bare Opens)

/-- **What a service is asked** at an address, if it can be asked. -/
def Service.opening (s : Service) (url : String) : List Request :=
  match s.address url none with
  | .ok u => [s.request u]
  | .error _ => []

/-- **An address is asked for once, whatever the world.** -/
theorem Service.requests_get (s : Service) (w : World σ) (url : String) (t : σ) :
    (w.run (s.get url none).attempt t).requests = s.opening url := by
  unfold get opening
  cases s.address url none with
  | error e => rfl
  | ok u =>
    show (w.run (Action.send (s.request u) >>= fun r =>
      if u.isAbsolute then pure r else Action.fail .badValue).attempt t).requests = _
    rw [World.requests_bind]
    show [s.request u] ++ _ = _
    cases (w.run (Action.send (s.request u)).attempt t).value with
    | error e => rfl
    | ok r => cases u.isAbsolute <;> rfl

/-- **So is a document.** -/
theorem Service.requests_fetchJson (s : Service) (w : World σ) (url : String)
    (read : Json → Except Failure α) (t : σ) :
    (w.run (s.fetchJson url none read).attempt t).requests = s.opening url := by
  have hdocument : (w.run (s.document url none read).attempt t).requests = s.opening url := by
    unfold document
    rw [World.requests_bind, s.requests_get]
    cases (w.run (s.get url none).attempt t).value <;> exact List.append_nil _
  show (w.run ((s.document url none read).attempt.andThen _) t).requests = _
  rw [World.run_andThen]
  refine (Outcome.requests_append _ _ _ _).trans ?_
  rw [hdocument]
  -- A failure is logged at most.
  cases (w.run (s.document url none read).attempt t).value with
  | ok a => exact List.append_nil _
  | error f =>
    dsimp only
    cases s.notice? url f <;> exact List.append_nil _

/-- A document that is asked for is not there, and nothing else is asked. -/
theorem Service.opens_fetchJson (s : Service) (url : String) (read : Json → Except Failure α) :
    Opens (s.opening url) none (s.fetchJson url none read) := by
  refine ⟨s.requests_fetchJson bare url read (), ?_⟩
  unfold fetchJson document
  cases hu : s.address url none with
  | error e =>
    have hget : s.get url none = Action.fail e := by
      unfold get
      rw [hu]
      rfl
    -- Where there is no address, what follows depends on the failure.
    rw [hget]
    simp only [Action.attempt_ofAttempt, Action.attempt_bind, Action.attempt_fail,
      Program.done_andThen]
    simp only [bind, Program.done_andThen]
    cases s.notice? url e with
    | some n => exact .inl rfl
    | none => exact .inr ⟨e, rfl⟩
  | ok u =>
    have hget : s.get url none = (do
        let r ← Action.send (s.request u)
        if u.isAbsolute then return r else Action.fail .badValue) := by
      unfold get
      rw [hu]
      rfl
    rw [hget]
    cases u.isAbsolute with
    | true => exact .inl rfl
    | false => exact .inl rfl

/-- What is made of the items that are kept is made of each or of none. -/
theorem flatMap_filter (p : α → Bool) (f : α → List β) (as : List α) :
    (as.filter p).flatMap f = as.flatMap fun a => if p a then f a else [] := by
  induction as with
  | nil => rfl
  | cons a as ih =>
    rw [List.filter_cons, List.flatMap_cons, ← ih]
    split <;> rfl

/-- What deps.dev is asked first about a package: its latest version, if it is
filed under a system. -/
def DepsDev.Client.opening (c : Client) (i : Identity) : List Request :=
  match c.systems.systemFor i.ecosystem with
  | none => []
  | some system => service.opening (c.latestVersionUrl system i.coordinates)

theorem DepsDev.Client.opens_latestVersion (c : Client) (system name : String) :
    Opens (service.opening (c.latestVersionUrl system name)) .null (c.latestVersion system name) :=
  (service.opens_fetchJson _ _).bind (.pure _)

theorem DepsDev.opens_analyzePackage (c : Client) (i : Identity) :
    Opens (c.opening i) (Record.empty i) (analyzePackage c i) := by
  unfold Client.opening
  cases hs : c.systems.systemFor i.ecosystem with
  | none =>
    unfold analyzePackage
    rw [hs]
    exact .pure _
  | some system =>
    rw [analyzePackage_eq c i hs]
    exact (c.opens_latestVersion system i.coordinates).bind (.say (.pure _))

theorem DepsDev.opens_findProject (c : Client) (i : Identity) :
    Opens (c.opening i) .null (findProject c i) := by
  unfold Client.opening findProject
  cases hs : c.systems.systemFor i.ecosystem with
  | none => exact .pure _
  | some system =>
    exact (c.opens_latestVersion system i.coordinates).bind (.say (.pure _))

theorem Npm.opens_find (root : String) (i : Identity) :
    Opens (service.opening (packageUrl root i)) .null (find root i) :=
  (service.opens_fetchJson _ _).bind (.pure _)

theorem PyPi.opens_find (root : String) (i : Identity) :
    Opens (service.opening (packageUrl root i)) .null (find root i) :=
  (service.opens_fetchJson _ _).bind (.pure _)

/-! ## Analyses -/

namespace Settings

/-- What the registry of npm is asked about a package. -/
def npmOpening (i : Identity) : List Request :=
  if i.ecosystem == "npm" then
    Npm.service.opening (Npm.packageUrl (rootOf none Npm.standardRoot) i)
  else []

/-- What PyPI is asked about a package. -/
def pypiOpening (i : Identity) : List Request :=
  if i.ecosystem == "pypi" then
    PyPi.service.opening (PyPi.packageUrl (rootOf none PyPi.standardRoot) i)
  else []

end Settings

/-- **Where there are no documents an analysis asks its openings**: deps.dev
twice, as there are two of its helpers, and the package registries once. -/
theorem Registry.asked_analyze (s : Settings) (i : Identity) :
    asked ((standard s).analyze i).attempt = s.depsDev.opening i ++
      (s.depsDev.opening i ++ (Settings.npmOpening i ++ Settings.pypiOpening i)) := by
  have hbare : bare.Replies Provided := Registry.provided_bare
  have hpackages : ∀ x ∈ ((standard s).packageAnalyzersFor i).map fun a => (a.name, a.analyze i),
      unanswered x.2.attempt ≠ .error .cancelled := by
    intro x hx
    obtain ⟨a, ha, rfl⟩ := List.mem_map.mp hx
    exact World.run_of_ensures hbare (uncancelled_package s i a ha) ()
  have hmappers : ∀ x ∈ ((standard s).mappersFor i).map fun m => (m.name, m.find i),
      unanswered x.2.attempt ≠ .error .cancelled := by
    intro x hx
    obtain ⟨m, hm, rfl⟩ := List.mem_map.mp hx
    exact World.run_of_ensures hbare (uncancelled_mapper s i m hm) ()
  -- No mapper finds a key, so the analysis ends after two stages.
  have hkey : unanswered ((standard s).findKey i).attempt = .ok none := by
    unfold findKey
    rw [unanswered_bind, unanswered_stage hmappers]
    show Except.ok (firstKey? _) = _
    rw [List.map_map, firstKey?, List.findSome?_map, List.findSome?_eq_none_iff.mpr]
    intro m hm
    obtain rfl | rfl | rfl : m = _ ∨ m = _ ∨ m = _ := by
      simpa [standard] using List.mem_of_mem_filter hm
    · rcases (DepsDev.opens_findProject s.depsDev i).value with h | ⟨f, h⟩ <;>
      · simp only [Function.comp_apply, DepsDev.mapper, h]
        rfl
    · rcases (Npm.opens_find (rootOf none Npm.standardRoot) i).value with h | ⟨f, h⟩ <;>
      · simp only [Function.comp_apply, Npm.mapper, h]
        rfl
    · rcases (PyPi.opens_find (rootOf none PyPi.standardRoot) i).value with h | ⟨f, h⟩ <;>
      · simp only [Function.comp_apply, PyPi.mapper, h]
        rfl
  have hfiles {α : Type} {x : Action α} (hx : asked x.attempt = s.depsDev.opening i) :
      (if DepsDev.files s.depsDev i then asked x.attempt else []) = s.depsDev.opening i := by
    rw [hx]
    unfold DepsDev.files DepsDev.Client.opening
    cases s.depsDev.systems.systemFor i.ecosystem <;> simp
  have hfirst : asked (stage (((standard s).packageAnalyzersFor i).map fun a =>
      (a.name, a.analyze i))).attempt = s.depsDev.opening i := by
    have hlist : (standard s).packageAnalyzers = [DepsDev.packageAnalyzer s.depsDev] := rfl
    rw [asked_stage, List.flatMap_map, packageAnalyzersFor, flatMap_filter, hlist]
    simp only [List.flatMap_cons, List.flatMap_nil, List.append_nil, DepsDev.packageAnalyzer]
    exact hfiles (DepsDev.opens_analyzePackage s.depsDev i).asked
  have hsecond : asked ((standard s).findKey i).attempt =
      s.depsDev.opening i ++ (Settings.npmOpening i ++ Settings.pypiOpening i) := by
    have hlist : (standard s).mappers = [DepsDev.mapper s.depsDev,
      Npm.mapper (rootOf none Npm.standardRoot), PyPi.mapper (rootOf none PyPi.standardRoot)] := rfl
    have hstage : asked (stage (((standard s).mappersFor i).map fun m =>
        (m.name, m.find i))).attempt =
        s.depsDev.opening i ++ (Settings.npmOpening i ++ Settings.pypiOpening i) := by
      rw [asked_stage, List.flatMap_map, mappersFor, flatMap_filter, hlist]
      simp only [List.flatMap_cons, List.flatMap_nil, List.append_nil, DepsDev.mapper, Npm.mapper,
        PyPi.mapper]
      rw [hfiles (DepsDev.opens_findProject s.depsDev i).asked, (Npm.opens_find _ i).asked,
        (PyPi.opens_find _ i).asked]
      rfl
    rw [findKey, asked_bind, hstage]
    cases unanswered (stage (((standard s).mappersFor i).map fun m => (m.name, m.find i))).attempt
      <;> exact List.append_nil _
  rw [analyze_eq, asked_bind, unanswered_stage hpackages, hfirst]
  dsimp only
  rw [asked_bind, hkey, hsecond]
  exact congrArg (_ ++ ·) (List.append_nil _)

/-- Packages that look alike open alike. -/
theorem Settings.SameSignals.openings {s : Settings} {i j : Identity} (h : s.SameSignals i j) :
    s.depsDev.opening i ++ (s.depsDev.opening i ++ (npmOpening i ++ pypiOpening i)) =
      s.depsDev.opening j ++ (s.depsDev.opening j ++ (npmOpening j ++ pypiOpening j)) := by
  rw [← Registry.asked_analyze, ← Registry.asked_analyze]
  exact (h Unit bare ()).1

theorem Service.opening_of_asks {s : Service} {url : String} (h : s.Asks url) :
    ∃ u, s.address url none = .ok u ∧ s.opening url = [s.request u] := by
  obtain ⟨u, hu, -⟩ := h
  unfold opening
  rw [hu]
  exact ⟨u, rfl, rfl⟩

theorem Service.exists_of_mem_opening (s : Service) {url : String} {q : Request}
    (h : q ∈ s.opening url) : ∃ u, s.address url none = .ok u ∧ q = s.request u := by
  unfold opening at h
  split at h
  · next u hu => exact ⟨u, hu, List.mem_singleton.mp h⟩
  · exact nomatch h

theorem Service.opening_of_error {s : Service} {url : String} {f : Failure}
    (h : s.address url none = .error f) : s.opening url = [] := by
  unfold opening
  rw [h]

/-! ## Addresses that are told apart -/

namespace Url

/-- What never needs encoding is ASCII. -/
theorem toNat_lt_of_isUnreserved {c : Char} (h : isUnreserved c = true) : c.toNat < 128 := by
  simp only [isUnreserved] at h
  delta Char.isAlphanum Char.isAlpha Char.isUpper Char.isLower Char.isDigit at h
  simp only [Bool.or_eq_true, Bool.and_eq_true, decide_eq_true_eq, beq_iff_eq, ge_iff_le,
    UInt32.le_iff_toNat_le] at h
  have hnat : c.toNat = c.val.toNat := rfl
  rcases h with (((((h | h) | h) | rfl) | rfl) | rfl) | rfl
  · have : c.val.toNat ≤ 90 := h.2
    omega
  · have : c.val.toNat ≤ 122 := h.2
    omega
  · have : c.val.toNat ≤ 57 := h.2
    omega
  all_goals decide

/-- A segment is encoded in characters of a path that are no slash. -/
theorem keep_encodeSegment (s : String) :
    ∀ c ∈ (encodeSegment s).toList, isPathChar c = true ∧ c ≠ '/' := by
  rw [encodeSegment, String.toList_ofList]
  intro d hd
  obtain ⟨c, -, hd⟩ := List.mem_flatMap.mp hd
  split at hd
  · next hc =>
    obtain rfl := List.mem_singleton.mp hd
    exact forall_ascii (p := fun d => isUnreserved d = true → isPathChar d = true ∧ d ≠ '/')
      (by decide) (toNat_lt_of_isUnreserved hc) hc
  · exact forall_mem_escapeChar (p := fun d => isPathChar d = true ∧ d ≠ '/') (by decide)
      (by decide) c d hd

theorem encodeSegment_append (s t : String) :
    (encodeSegment (s ++ t)).toList = (encodeSegment s).toList ++ (encodeSegment t).toList := by
  simp only [encodeSegment, String.toList_ofList, String.toList_append]
  exact encodeWith_append _ _ _

theorem endsAtPath_encodeSegment (s : String) : EndsAtPath (encodeSegment s).toList :=
  endsAtPath_of_forall fun c hc => (keep_encodeSegment s c hc).1

theorem length_of_ofString? {s : String} {u : Url} (h : ofString? s = some u) :
    s.length ≤ lengthLimit := by
  obtain ⟨v, hv, -⟩ := Option.bind_eq_some_iff.mp h
  unfold read? at hv
  split at hv
  · cases hv
  · next hnot =>
    rw [Bool.or_eq_true, not_or, decide_eq_true_eq, String.length_toList] at hnot
    omega

/-- A segment with a percent sign stays where it is put. -/
theorem stays_encodeSegment {s : String} (h : '%' ∈ (encodeSegment s).toList) :
    Stays (encodeSegment s).toList := by
  have hslash : '/' ∉ (encodeSegment s).toList := fun hc => (keep_encodeSegment s _ hc).2 rfl
  have hlength := Text.length_splitAll '/' (encodeSegment s).toList
  rw [List.count_eq_zero_of_not_mem hslash] at hlength
  obtain ⟨piece, hpiece⟩ := List.length_eq_one_iff.mp hlength
  have hwhole := Text.intercalate_splitAll '/' (encodeSegment s).toList
  rw [hpiece, List.intercalate_singleton] at hwhole
  unfold Stays
  rw [pathPart_of_endsAtPath (endsAtPath_encodeSegment s), hpiece, List.forall_mem_singleton, hwhole]
  rintro (hd | hd) <;>
  · rw [hd] at h
    revert h
    decide

end Url

namespace DepsDev.Client

open Url (encodeSegment)

variable {c : Client} {u₀ : Url}

/-- Where the packages of a system are. -/
def packagesUrl (c : Client) (system : String) : String :=
  c.root ++ "/v3/systems/" ++ encodeSegment system ++ "/packages"

theorem latestVersionUrl_toList (system name : String) :
    (c.latestVersionUrl system name).toList =
      (c.packagesUrl system).toList ++ '/' :: (encodeSegment name).toList := by
  simp only [latestVersionUrl, packageUrl, packagesUrl, String.toList_append, List.append_assoc]
  rfl

/-- Where the packages of a system are can be asked if one of them can. -/
theorem exists_base (hb : service.Base c.root u₀) {system name : String} {u : Url}
    (h : service.address (c.latestVersionUrl system name) none = .ok u) :
    ∃ v, service.Base (c.packagesUrl system) v := by
  have hbelow : Below c.root (c.packagesUrl system) :=
    Below.append (Below.append ⟨"v3/systems/".toList, String.toList_append, by decide⟩
      (Url.plain_encodeSegment system)) (by decide)
  have hlen : (c.packagesUrl system).length ≤ Url.lengthLimit := by
    have hread := Url.length_of_ofString? (Service.address_eq_ok_iff.mp h).1
    rw [← String.length_toList] at hread ⊢
    rw [latestVersionUrl_toList, List.length_append] at hread
    omega
  refine hb.exists_below hbelow ?_ hlen
  unfold packagesUrl
  simp only [String.toList_append, Url.endsAtPath_append]
  exact ⟨⟨⟨hb.ends, by decide⟩, Url.endsAtPath_encodeSegment system⟩, by decide⟩

/-- **Packages of one system whose names are encoded differently are asked for
at different addresses**, if neither name is a dot segment. -/
theorem request_ne (hb : service.Base c.root u₀) {system name name' : String} {u u' : Url}
    (h : service.address (c.latestVersionUrl system name) none = .ok u)
    (h' : service.address (c.latestVersionUrl system name') none = .ok u')
    (hname : '%' ∈ (encodeSegment name).toList) (hname' : '%' ∈ (encodeSegment name').toList)
    (hne : encodeSegment name ≠ encodeSegment name') : service.request u ≠ service.request u' := by
  obtain ⟨v, hv⟩ := exists_base hb h
  intro hq
  have hnames := hv.eq_of_request_eq (latestVersionUrl_toList system name)
    (latestVersionUrl_toList system name') (Url.stays_encodeSegment hname)
    (Url.stays_encodeSegment hname') (fun c hc => (Url.keep_encodeSegment name c hc).1)
    (fun c hc => (Url.keep_encodeSegment name' c hc).1) h h' hq
  exact hne (String.toList_inj.mp hnames)

end DepsDev.Client

/-- The root of deps.dev that is configured by default can be asked. -/
theorem Settings.base_depsDev {s : Settings} (h : s.depsDevUrl = "https://api.deps.dev") :
    ∃ u, DepsDev.service.Base s.depsDev.root u := by
  have hroot : s.depsDev.root = DepsDev.standardRoot := by
    have hstandard : rootOf (some "https://api.deps.dev") DepsDev.standardRoot =
        DepsDev.standardRoot := by
      decide +kernel
    unfold depsDev DepsDev.Client.connect
    rw [h]
    exact hstandard
  rw [hroot]
  exact DepsDev.base_standardRoot

end PackageVitals
