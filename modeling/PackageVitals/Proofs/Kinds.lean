import PackageVitals.Proofs.Contribution
import PackageVitals.Proofs.Independence
import PackageVitals.Record.Coercion
import PackageVitals.Record.Stored

/-!
# Readings of the declared kinds

A record does not promise that its readings are of the kinds that its signals
declare, but it can be **checked**: each reading is read again as a value of its
signal's kind, as a field of a record would be (`Record.checked`). A record
comes through unchanged if and only if its readings are of the declared kinds
(`Record.checked_eq_self_iff`).

What the helpers of a stage contribute is merged, and merging keeps what is true
of all their readings, so an analysis keeps to whatever its helpers keep to
(`Registry.yields_analyze`). With the standard registry this is that every
reading is as declared; the exception, whether a repository is archived, is the
only thing that can keep a record from coming through a check
(`Registry.analyze_keeps_kinds`).
-/

namespace PackageVitals

open Action (Yields)

/-! ## What an analysis keeps to -/

/-- Programs that run at once ensure what each of them does. -/
theorem Program.Ensures.gather {P : Reply → Prop} {Q : α → Prop} {ps : List (Program α)}
    (h : ∀ p ∈ ps, p.Ensures P Q) : (Program.gather ps).Ensures P fun as => ∀ a ∈ as, Q a := by
  induction ps with
  | nil => exact ensures_done.mpr nofun
  | cons p ps ih =>
    rw [List.forall_mem_cons] at h
    refine (h.1.both (ih h.2)).andThen fun r hr => ensures_done.mpr ?_
    rw [List.forall_mem_cons]
    exact hr

namespace Registry

variable {P : Reply → Prop}

/-- Of several results, those that are not failures are kept. -/
theorem yields_isolate {Q : α → Prop} {results : List (String × Except Failure α)}
    (h : ∀ r ∈ results, ∀ a, r.2 = .ok a → Q a) :
    Yields P (fun os => ∀ o ∈ os, ∀ a, o = some a → Q a) (isolate results) := by
  induction results with
  | nil => exact Yields.pure_iff.mpr (List.forall_mem_nil _)
  | cons r rest ih =>
    rw [List.forall_mem_cons] at h
    obtain ⟨name, f | a⟩ := r
    · unfold isolate
      split
      · exact Yields.fail
      · refine .bind (.trivial _) fun _ _ => .bind (ih h.2) fun os hos => Yields.pure_iff.mpr ?_
        rw [List.forall_mem_cons]
        exact ⟨fun _ ha => absurd ha (by simp), hos⟩
    · refine .bind (ih h.2) fun os hos => Yields.pure_iff.mpr ?_
      rw [List.forall_mem_cons]
      exact ⟨fun a' ha' => h.1 a' (congrArg _ (Option.some.inj ha')), hos⟩

/-- **A stage yields what its helpers yield.** -/
theorem yields_stage {Q : α → Prop} {xs : List β} {name : β → String} {call : β → Action α}
    (h : ∀ x ∈ xs, Yields P Q (call x)) :
    Yields P (fun os => ∀ a ∈ os.filterMap id, Q a) (stage (xs.map fun x => (name x, call x))) := by
  have hgather : (Program.gather ((xs.map fun x => (name x, call x)).map (·.2.attempt))).Ensures P
      fun rs => ∀ e ∈ rs, ∀ a, e = .ok a → Q a := by
    refine .gather fun p hp => ?_
    obtain ⟨_, hy, rfl⟩ := List.mem_map.mp hp
    obtain ⟨x, hx, rfl⟩ := List.mem_map.mp hy
    exact h x hx
  refine Action.ensures_lift_bind hgather fun results hresults => ?_
  refine (yields_isolate (Q := Q) fun r hr => hresults r.2 (List.of_mem_zip hr).2).mono
    fun os hos a ha => ?_
  exact hos _ (by simpa using List.mem_filterMap.mp ha) a rfl

theorem mem_of_sourceAnalyzersFor {g : Registry} {key : Json} {sources : List SourceAnalyzer}
    (h : g.sourceAnalyzersFor key = .ok sources) : ∀ a ∈ sources, a ∈ g.sourceAnalyzers := by
  rw [sourceAnalyzersFor_eq (exists_ok_of_filterM h)] at h
  obtain rfl := Except.ok.inj h
  exact fun a ha => List.mem_of_mem_filter ha

section KeepsTo

variable {Q : Signal → Reading → Prop} {i : Identity} {record : Record}

/-- The last stage adds what the source analyzers keep to. -/
theorem yields_askSources (hrecord : record.KeepsTo i Q) {key : Json}
    {sources : List SourceAnalyzer}
    (h : ∀ a ∈ sources, Yields P (Record.KeepsTo i Q) (a.analyze i key)) :
    Yields P (Record.KeepsTo i Q) (askSources i record key sources) :=
  yields_askSources_of_stage i (yields_stage h) fun _ => hrecord.mergeAll

/-- **An analysis keeps to what its helpers keep to.** -/
theorem yields_analyze {g : Registry}
    (hpackage : ∀ a ∈ g.packageAnalyzers, Yields P (Record.KeepsTo i Q) (a.analyze i))
    (hsource : ∀ a ∈ g.sourceAnalyzers, ∀ key, Yields P (Record.KeepsTo i Q) (a.analyze i key)) :
    Yields P (Record.KeepsTo i Q) (g.analyze i) := by
  rw [analyze_eq]
  refine .bind (yields_stage fun a ha => hpackage a (List.mem_of_mem_filter ha))
    fun partials hpartials => .bind (.trivial _) fun key _ => ?_
  have hrecord : ((Record.empty i).mergeAll (partials.filterMap id)).KeepsTo i Q :=
    .mergeAll .empty hpartials
  cases key with
  | none => exact .bind (.trivial _) fun _ _ => Yields.pure_iff.mpr hrecord
  | some key =>
    refine .bind (Yields.ofExcept_iff.mpr fun _ h => mem_of_sourceAnalyzersFor h)
      fun sources hsources => yields_askSources hrecord fun a ha => ?_
    exact hsource a (hsources a ha) key

end KeepsTo

/-- The readings of a record of the standard registry are as declared. -/
theorem yields_analyze_standard (set : Settings) (i : Identity) :
    Yields P (Record.KeepsTo i (Declared (TakenOver P))) ((standard set).analyze i) := by
  refine yields_analyze (fun a ha => ?_) fun a ha key => ?_
  · obtain rfl := List.mem_singleton.mp ha
    exact (DepsDev.yields_analyzePackage _ i).mono fun r hr => hr.mono fun s v hv => hv.2
  · obtain rfl | rfl : a = _ ∨ a = _ := by simpa [standard] using ha
    · exact (DepsDev.yields_analyzeProject _ i key).mono fun r hr => hr.mono fun s v hv => hv.2
    · exact (set.github.yields_sourceAnalyzer i key).mono fun r hr => hr.mono fun s v hv => hv.2

end Registry

/-! ## Checking a record -/

namespace Reading

/-- **A reading checked as one of a kind.** A time and checks are no values of
documents: they are what they are, and where something else is asked for they
are refused as an object and a list would be. Anything else is read. -/
def checkedAs (k : SignalKind) : Reading → Field Reading
  | moment t => if k = .moment then .ok (moment t) else ofField k (.obj [])
  | checks cs => if k = .checks then .ok (checks cs) else ofField k (.arr [])
  | v => ofField k v.stored

/-- A reading of the kind that is asked for comes through. -/
theorem checkedAs_of_kind {k : SignalKind} {v : Reading} (h : v.kind? = some k) :
    v.checkedAs k = .ok v := by
  cases v with
  | other j => cases h
  | _ =>
    obtain rfl := Option.some.inj h
    rfl

/-- What is read as a field of a kind is of that kind. -/
theorem kind_of_ofField {k : SignalKind} {j : Json} {v : Reading} (h : ofField k j = .ok v) :
    v.kind? = some k := by
  have hplain {α : Type} {r : Except Complaint α} {wrap : α → Reading}
      (hw : ∀ a, (wrap a).kind? = some k)
      (hv : ((r.map wrap).mapError fun c => [(⟨[], c⟩ : Issue)]) = .ok v) : v.kind? = some k := by
    obtain ⟨a, -, rfl⟩ := map_eq_ok_iff.mp (mapError_eq_ok_iff.mp hv)
    exact hw a
  cases k with
  | checks =>
    obtain ⟨cs, -, rfl⟩ := map_eq_ok_iff.mp h
    rfl
  | _ => exact hplain (fun _ => rfl) h

theorem kind_of_checkedAs {k : SignalKind} {v v' : Reading} (h : v.checkedAs k = .ok v') :
    v'.kind? = some k := by
  have hkept {k' : SignalKind} {x : Reading} {j : Json} (hx : x.kind? = some k')
      (h : (if k = k' then .ok x else ofField k j) = .ok v') : v'.kind? = some k := by
    split at h
    · next hk =>
      rw [← Except.ok.inj h, hk]
      exact hx
    · exact kind_of_ofField h
  cases v with
  | moment t => exact hkept rfl h
  | checks cs => exact hkept rfl h
  | _ => exact kind_of_ofField h

end Reading

namespace Field

/-- Fields that can be read are read together. -/
theorem all_map_ok (xs : List α) : all (xs.map Except.ok) = .ok xs := by
  induction xs with
  | nil => rfl
  | cons x xs ih =>
    rw [List.map_cons, all, ih]
    rfl

theorem both_eq_ok_iff {f : Field α} {g : Field β} {p : α × β} :
    both f g = .ok p ↔ f = .ok p.1 ∧ g = .ok p.2 := by
  cases f <;> cases g <;> simp [both, Prod.ext_iff]

/-- What is read of several fields together is read of some of them. -/
theorem mem_of_all_eq_ok {fs : List (Field α)} {xs : List α} (h : all fs = .ok xs) :
    ∀ x ∈ xs, .ok x ∈ fs := by
  induction fs generalizing xs with
  | nil =>
    rw [← Except.ok.inj h]
    exact nofun
  | cons f fs ih =>
    obtain ⟨p, hp, rfl⟩ := map_eq_ok_iff.mp h
    obtain ⟨rfl, hfs⟩ := both_eq_ok_iff.mp hp
    rw [List.forall_mem_cons]
    exact ⟨List.mem_cons_self, fun x hx => List.mem_cons_of_mem _ (ih hfs x hx)⟩

end Field

namespace Record

/-- The field of a signal, given by a record's own reading. -/
def ownField (r : Record) (s : Signal) : Field (Signal × Option Reading) :=
  match r.reading s with
  | none => .ok (s, none)
  | some v => (Field.under s.name (v.checkedAs s.kind)).map fun v => (s, some v)

/-- **A record checked**: what comes of its own identity and readings when they
are given as the fields of a record. -/
def checked (r : Record) : Field Record :=
  (Field.all (Signal.all.map r.ownField)).map (Record.empty r.identity).setAll

/-- Setting a reading for each of some signals. -/
theorem reading_setAll_map (r : Record) (f : Signal → Option Reading) (ss : List Signal)
    (t : Signal) : (r.setAll (ss.map fun s => (s, f s))).reading t =
      if t ∈ ss then f t <|> r.reading t else r.reading t := by
  induction ss generalizing r with
  | nil => rfl
  | cons s ss ih =>
    show ((r.set s (f s)).setAll (ss.map fun s => (s, f s))).reading t = _
    rw [ih, reading_set]
    by_cases hts : t = s
    · subst hts
      by_cases ht : t ∈ ss
      · cases f t <;> simp [ht]
      · simp [ht]
    · simp [hts]

/-- A record is what its readings make of an empty one. -/
theorem setAll_readings (r : Record) :
    (empty r.identity).setAll (Signal.all.map fun s => (s, r.reading s)) = r := by
  refine ext_reading (identity_setAll _ _) fun s => ?_
  rw [reading_setAll_map, if_pos (Signal.mem_all s), reading_empty]
  cases r.reading s <;> rfl

/-- The readings of a record that was checked are of the declared kinds. -/
theorem fits_of_checked {r r' : Record} (h : r.checked = .ok r') :
    r'.KeepsTo r.identity fun s v => v.fits s = true := by
  obtain ⟨us, hus, rfl⟩ := map_eq_ok_iff.mp h
  refine .setAll .empty fun u hu v hv => ?_
  obtain ⟨s, -, hs⟩ := List.mem_map.mp (Field.mem_of_all_eq_ok hus u hu)
  unfold ownField at hs
  split at hs
  · rw [← Except.ok.inj hs] at hv
    cases hv
  · obtain ⟨y, hy, rfl⟩ := map_eq_ok_iff.mp hs
    obtain rfl := Option.some.inj hv
    exact beq_iff_eq.mpr (Reading.kind_of_checkedAs (mapError_eq_ok_iff.mp hy))

/-- **A record comes through a check as it is if and only if its readings are of
the declared kinds.** -/
theorem checked_eq_self_iff {r : Record} :
    r.checked = .ok r ↔ ∀ s v, r.reading s = some v → v.fits s = true := by
  constructor
  · intro h
    exact (fits_of_checked h).reading
  · intro h
    have hown : r.ownField = fun s => .ok (s, r.reading s) := by
      funext s
      unfold ownField
      cases hr : r.reading s with
      | none => rfl
      | some v =>
        dsimp only
        rw [Reading.checkedAs_of_kind (beq_iff_eq.mp (h s v hr))]
        rfl
    calc r.checked
        = (Field.all ((Signal.all.map fun s => (s, r.reading s)).map Except.ok)).map
            (empty r.identity).setAll := by
          rw [checked, hown, List.map_map]
          rfl
      _ = .ok r := by
          rw [Field.all_map_ok]
          exact congrArg _ r.setAll_readings

end Record

/-! ## Kinds -/

/-- **Whether a reply says by a flag that a repository is archived**, if it says
anything about that. -/
def FlagsArchived (r : Reply) : Prop :=
  ∀ answer members, r = .ok answer → answer.json = .ok (.obj members) →
    GitHub.Analyzer.memberOf members "archived" = .null ∨
      ∃ b, GitHub.Analyzer.memberOf members "archived" = .bool b

/-- What is taken over from such replies is a flag. -/
theorem TakenOver.fits {P : Reply → Prop} (hP : ∀ r, P r → FlagsArchived r) {v : Reading}
    (h : TakenOver P v) : v.fits .archived = true := by
  obtain ⟨answer, members, hreply, hjson, hv⟩ := h
  rcases hP _ hreply answer members rfl hjson with hnull | ⟨b, hb⟩
  · rw [hnull] at hv
    cases hv
  · rw [hb] at hv
    rw [← Option.some.inj hv]
    rfl

/-- **An analysis keeps the declared kinds, except for what it takes over.**
Every reading of the record is of its signal's kind but for whether the
repository is archived, which is what some document among the replies says. So
the record comes through a check as it is if and only if that is a flag, as it
is where all replies say it by flags. -/
theorem Registry.analyze_keeps_kinds (set : Settings) (i : Identity) (w : World σ) (s : σ)
    (r : Record) (hr : (w.run ((standard set).analyze i).attempt s).value = .ok r) :
    let came (reply : Reply) :=
      ∃ q, Step.exchanged q reply ∈ w.log ((standard set).analyze i).attempt s
    r.identity = i ∧
      (∀ t v, t ≠ .archived → r.reading t = some v → v.fits t = true) ∧
      (∀ v, r.reading .archived = some v → TakenOver came v) ∧
      (r.checked = .ok r ↔ ∀ v, r.reading .archived = some v → v.fits .archived = true) ∧
      ((∀ reply, came reply → FlagsArchived reply) → r.checked = .ok r) := by
  intro came
  have hkeeps : r.KeepsTo i (Declared (TakenOver came)) :=
    yields_analyze_standard set i _ _ (w.course_log _ s) (fun q reply h => ⟨q, h⟩) r hr
  have hother (t : Signal) (v : Reading) (ht : t ≠ .archived) (hv : r.reading t = some v) :
      v.fits t = true := by
    have h := hkeeps.reading t v hv
    rwa [Declared, if_neg ht] at h
  have htaken (v : Reading) (hv : r.reading .archived = some v) : TakenOver came v := by
    have h := hkeeps.reading .archived v hv
    rwa [Declared, if_pos rfl] at h
  have hiff : r.checked = .ok r ↔
      ∀ v, r.reading .archived = some v → v.fits .archived = true := by
    rw [Record.checked_eq_self_iff]
    constructor
    · intro h v hv
      exact h .archived v hv
    · intro h t v hv
      by_cases ht : t = .archived
      · subst ht
        exact h v hv
      · exact hother t v ht hv
  exact ⟨hkeeps.identity, hother, htaken, hiff,
    fun hflags => hiff.mpr fun v hv => (htaken v hv).fits hflags⟩

/-- Settings in which GitHub is at a host with a short name. -/
def shortRoot : Settings := { (default : Settings) with githubUrl := "http://h" }

/-- A script in which npm names a repository that is archived. -/
def archivedRepository : Script := GitHub.Analyzer.documents [
  ("https://registry.npmjs.org/x", "\x7b\"repository\":\"o/n\"\x7d"),
  ("http://h/repos/o/n", "\x7b\"archived\":true\x7d")]

open GitHub.Analyzer (inOrder) in
theorem Registry.analyze_keeps_kinds_archived :
    ∃ r, (inOrder.run ((standard shortRoot).analyze ⟨"npm", "x", none, none⟩).attempt
        (archivedRepository, ())).value = .ok r ∧
      (r.reading .archived).map (·.fits .archived) = some true ∧
      r.identity = ⟨"npm", "x", none, none⟩ ∧ r.checked = .ok r := by
  have hrun : ((inOrder.run ((standard shortRoot).analyze ⟨"npm", "x", none, none⟩).attempt
      (archivedRepository, ())).value.toOption.bind fun r =>
        (r.reading .archived).map (·.fits .archived)) = some true := by
    decide +kernel
  cases hr : (inOrder.run ((standard shortRoot).analyze ⟨"npm", "x", none, none⟩).attempt
      (archivedRepository, ())).value with
  | error f =>
    rw [hr] at hrun
    cases hrun
  | ok r =>
    rw [hr] at hrun
    obtain ⟨hidentity, -, -, hiff, -⟩ := analyze_keeps_kinds shortRoot ⟨"npm", "x", none, none⟩
      inOrder (archivedRepository, ()) r hr
    refine ⟨r, rfl, hrun, hidentity, hiff.mpr fun v hv => ?_⟩
    have hfits : (r.reading .archived).map (·.fits .archived) = some true := hrun
    rw [hv] at hfits
    exact Option.some.inj hfits

end PackageVitals
