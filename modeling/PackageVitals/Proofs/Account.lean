import PackageVitals.Aggregation
import PackageVitals.Proofs.Ensures
import PackageVitals.Proofs.Failing

/-!
# Sequential accounts of an analysis

The helpers of a stage run at once, and the world decides at every step
which of them goes on. An **account** of an analysis forgets that: it lists
one call of each helper that applies, stage by stage and in the order of the
registry, and its record is put together from the results of the calls
alone, without a word on when they came.

`Registry.analyze_in_any_order` says that every run of an analysis has an
account. What happened in the run is what happened in the calls, each taken
once and as a whole, though interleaved with the others of its stage
(`Account.Fills`); and what the run came to is the record of the account.
Since a call is a course of the helper's own program, an account says of
each helper no more than the helper does by itself.
-/

namespace PackageVitals

namespace Record

@[simp] theorem identity_mergeAll (base : Record) (rs : List Record) :
    (base.mergeAll rs).identity = base.identity := by
  induction rs generalizing base with
  | nil => rfl
  | cons r rs ih => exact ih (base.merge r)

/-- **Merging keeps the last reading**, or that of the base where no other
record has one. -/
theorem reading_mergeAll (base : Record) (rs : List Record) (s : Signal) :
    (base.mergeAll rs).reading s = ((rs.filterMap (·.reading s)).getLast? <|> base.reading s) := by
  induction rs generalizing base with
  | nil => rfl
  | cons r rs ih =>
    rw [show base.mergeAll (r :: rs) = (base.merge r).mergeAll rs from rfl, ih, reading_merge]
    cases hr : r.reading s with
    | none => simp [hr]
    | some v =>
      simp only [List.filterMap_cons, hr, List.getLast?_cons]
      cases h : (rs.filterMap (·.reading s)).getLast? <;> simp

theorem mergeAll_append (base : Record) (rs rs' : List Record) :
    base.mergeAll (rs ++ rs') = (base.mergeAll rs).mergeAll rs' :=
  List.foldl_append

end Record

/-! ## Calls that can fail -/

/-- The results of the calls that did not fail, in their order. -/
def contributions (calls : List (Call (Except Failure α))) : List α :=
  calls.filterMap fun c => c.result.toOption

namespace Registry

/-- The notices about the helpers of a stage that failed. -/
def failureNotices (results : List (String × Except Failure α)) : List Notice :=
  results.filterMap fun
    | (name, .error f) =>
      some { severity := .error, text := "Analyzer " ++ name ++ " failed", cause := .attached f }
    | (_, .ok _) => none

/-- Where nothing was cancelled, a failure is logged and leaves nothing. -/
theorem course_isolate {results : List (String × Except Failure α)} {l : List Step}
    {o : Except Failure (List (Option α))} (h : Course (isolate results).attempt l o)
    (hr : ∀ r ∈ results, r.2 ≠ .error .cancelled) :
    l = (failureNotices results).map .noted ∧ o = .ok (results.map (·.2.toOption)) := by
  induction results generalizing l o with
  | nil =>
    obtain ⟨rfl, rfl⟩ := course_done_iff.mp h
    exact ⟨rfl, rfl⟩
  | cons r rest ih =>
    have hrest : ∀ r ∈ rest, r.2 ≠ .error .cancelled :=
      fun r hmem => hr r (List.mem_cons_of_mem _ hmem)
    obtain ⟨name, f | a⟩ := r
    · have hf : f.isCancellation = false := by
        cases f with
        | cancelled => exact absurd rfl (hr (name, .error .cancelled) (by simp))
        | _ => rfl
      rw [isolate, hf] at h
      obtain ⟨l', rfl, h'⟩ := Action.course_note_bind_iff.mp h
      rcases Action.course_bind_iff.mp h' with ⟨e, he, -⟩ | ⟨as, l₁, l₂, rfl, h₁, h₂⟩
      · exact absurd (ih he hrest).2 (by simp)
      · obtain ⟨rfl, has⟩ := ih h₁ hrest
        obtain ⟨rfl, rfl⟩ := course_done_iff.mp h₂
        obtain rfl := Except.ok.inj has
        exact ⟨by simp [failureNotices], rfl⟩
    · rcases Action.course_bind_iff.mp h with ⟨e, he, -⟩ | ⟨as, l₁, l₂, rfl, h₁, h₂⟩
      · exact absurd (ih he hrest).2 (by simp)
      · obtain ⟨rfl, has⟩ := ih h₁ hrest
        obtain ⟨rfl, rfl⟩ := course_done_iff.mp h₂
        obtain rfl := Except.ok.inj has
        exact ⟨by simp [failureNotices], rfl⟩

/-- **A stage calls every helper once.** Where no helper is cancelled, the
calls are interleaved and the failures logged after them. -/
theorem course_stage {xs : List β} {name : β → String} {call : β → Action α}
    {l : List Step} {o : Except Failure (List (Option α))}
    (h : Course (stage (xs.map fun x => (name x, call x))).attempt l o)
    (hu : ∀ x ∈ xs, Action.UncancelledIn l (call x)) :
    ∃ calls woven, ∃ notices : List Notice,
      List.Forall₂ Call.IsOf calls (xs.map fun x => (call x).attempt) ∧
      Interleaved (calls.map Call.log) woven ∧ l = woven ++ notices.map .noted ∧
      o = .ok (calls.map fun c => c.result.toOption) := by
  obtain ⟨results, woven, l₂, rfl, hg, hi⟩ := Action.course_lift_bind_iff.mp h
  rw [List.map_map] at hg hi
  obtain ⟨calls, hcalls, hwoven, rfl⟩ := course_gather hg
  -- Each result is that of a call, and no call was cancelled.
  have huncancelled : ∀ c ∈ calls, c.result ≠ .error .cancelled := by
    intro c hc
    obtain ⟨p, hp, hcp⟩ := exists_isOf hcalls hc
    obtain ⟨x, hx, rfl⟩ := List.mem_map.mp hp
    exact hu x hx c.log c.result hcp fun y hy => List.mem_append_left _
      (hwoven.mem_iff.mpr ⟨c.log, List.mem_map_of_mem hc, hy⟩)
  have hlength : calls.length = xs.length := by simpa using hcalls.length_eq
  have hsnd : ((xs.map name).zip (calls.map Call.result)).map Prod.snd = calls.map Call.result :=
    List.map_snd_zip (by simp [hlength])
  have hresults : ∀ r ∈ (xs.map name).zip (calls.map Call.result), r.2 ≠ .error .cancelled := by
    intro r hr
    obtain ⟨c, hc, hcr⟩ := List.mem_map.mp (hsnd ▸ List.mem_map_of_mem hr)
    rw [← hcr]
    exact huncancelled c hc
  obtain ⟨rfl, rfl⟩ := course_isolate hi hresults
  refine ⟨calls, woven, _, hcalls, hwoven, rfl, ?_⟩
  congr 1
  calc ((xs.map name).zip (calls.map Call.result)).map (fun r => r.2.toOption)
      = (((xs.map name).zip (calls.map Call.result)).map Prod.snd).map Except.toOption := by
        rw [List.map_map]
        rfl
    _ = calls.map fun c => c.result.toOption := by
        rw [hsnd, List.map_map]
        rfl

/-- The first key of a stage is the first one, of those that were found,
that counts as something. -/
theorem firstKey?_results (calls : List (Call (Except Failure Json))) :
    firstKey? (calls.map fun c => c.result.toOption) =
      (contributions calls).find? Json.isTruthy := by
  induction calls with
  | nil => rfl
  | cons c calls ih =>
    unfold firstKey? contributions at *
    cases hc : c.result with
    | error f => simpa [hc, Except.toOption] using ih
    | ok key =>
      by_cases hk : key.isTruthy
      · simp [hc, Except.toOption, Json.truthy?, hk]
      · simpa [hc, Except.toOption, Json.truthy?, hk] using ih

/-- The source analyzers that say that they apply to a key. -/
def answering (g : Registry) (key : Json) : List SourceAnalyzer :=
  g.sourceAnalyzers.filter fun a => (a.applies key).toOption.getD false

theorem sourceAnalyzersFor_eq {g : Registry} {key : Json}
    (h : ∀ a ∈ g.sourceAnalyzers, ∃ b, a.applies key = .ok b) :
    g.sourceAnalyzersFor key = .ok (g.answering key) := by
  refine filterM_of_forall fun a ha => ?_
  obtain ⟨b, hb⟩ := h a ha
  rw [hb]
  rfl

/-- Whether a mapper that applies to an identity may find a key. -/
def MayFind (g : Registry) (P : Reply → Prop) (i : Identity) (key : Json) : Prop :=
  ∃ m ∈ g.mappersFor i, ∃ l, Course (m.find i).attempt l (.ok key) ∧ Replied P l

/-- **Whether the helpers of a registry behave** on an identity where all
replies are of a class: none is cancelled, and every source analyzer can
say of every key that may be found whether it applies. -/
structure IsRegular (P : Reply → Prop) (g : Registry) (i : Identity) : Prop where
  /-- No package analyzer is cancelled. -/
  package : ∀ a ∈ g.packageAnalyzersFor i, Action.Uncancelled P (a.analyze i)
  /-- No mapper is cancelled. -/
  mapper : ∀ m ∈ g.mappersFor i, Action.Uncancelled P (m.find i)
  /-- Every source analyzer can say whether it applies. -/
  applies : ∀ key, g.MayFind P i key → ∀ a ∈ g.sourceAnalyzers, ∃ b, a.applies key = .ok b
  /-- No source analyzer is cancelled. -/
  source : ∀ key, g.MayFind P i key → ∀ a ∈ g.answering key,
    Action.Uncancelled P (a.analyze i key)

end Registry

/-! ## Accounts -/

/-- **An account** of an analysis: the calls of each stage, in the order of
the registry. -/
structure Account where
  /-- The calls of the package analyzers. -/
  packages : List (Call (Except Failure Record))
  /-- The calls of the mappers. -/
  mappers : List (Call (Except Failure Json))
  /-- The calls of the source analyzers. -/
  sources : List (Call (Except Failure Record))

namespace Account

/-- The key that the mappers found. -/
def key? (t : Account) : Option Json :=
  (contributions t.mappers).find? Json.isTruthy

/-- The records that were contributed, those of the packages first. -/
def records (t : Account) : List Record :=
  contributions t.packages ++ contributions t.sources

/-- **Whether an account is one of an analysis**: it has one call of every
helper that applies and of no other. -/
structure IsOf (t : Account) (g : Registry) (i : Identity) : Prop where
  /-- Every package analyzer that applies is called once. -/
  packages : List.Forall₂ Call.IsOf t.packages
    ((g.packageAnalyzersFor i).map fun a => (a.analyze i).attempt)
  /-- Every mapper that applies is called once. -/
  mappers : List.Forall₂ Call.IsOf t.mappers
    ((g.mappersFor i).map fun m => (m.find i).attempt)
  /-- Every source analyzer that applies to the key is called once; where
  there is no key, none is. -/
  sources : List.Forall₂ Call.IsOf t.sources
    (match t.key? with
      | none => []
      | some key => (g.answering key).map fun a => (a.analyze i key).attempt)

/-- **Whether some steps are those of an account**: in each stage the calls
are interleaved, and there are notices between the stages and nothing
else. -/
def Fills (t : Account) (l : List Step) : Prop :=
  ∃ first second third, ∃ afterFirst afterSecond afterThird : List Notice,
    Interleaved (t.packages.map Call.log) first ∧
    Interleaved (t.mappers.map Call.log) second ∧
    Interleaved (t.sources.map Call.log) third ∧
    l = first ++ afterFirst.map .noted ++ second ++ afterSecond.map .noted ++
      third ++ afterThird.map .noted

/-- **The record of an account**: of each signal the last reading that was
contributed. -/
def record (t : Account) (i : Identity) : Record :=
  ⟨i, fun s => (t.records.filterMap (·.reading s)).getLast?⟩

theorem mergeAll_records (t : Account) (i : Identity) :
    ((Record.empty i).mergeAll (contributions t.packages)).mergeAll (contributions t.sources) =
      t.record i := by
  rw [← Record.mergeAll_append]
  refine Record.ext_reading (Record.identity_mergeAll _ _) fun s => ?_
  simp [Record.reading_mergeAll, record, records]

end Account

namespace Registry

variable {P : Reply → Prop} {g : Registry} {i : Identity} {l : List Step}

/-- Looking for the key calls every mapper once. -/
theorem course_findKey {o : Except Failure (Option Json)}
    (h : Course (g.findKey i).attempt l o)
    (hu : ∀ m ∈ g.mappersFor i, Action.UncancelledIn l (m.find i)) :
    ∃ calls woven, ∃ notices : List Notice,
      List.Forall₂ Call.IsOf calls ((g.mappersFor i).map fun m => (m.find i).attempt) ∧
      Interleaved (calls.map Call.log) woven ∧ l = woven ++ notices.map .noted ∧
      o = .ok ((contributions calls).find? Json.isTruthy) := by
  rcases Action.course_bind_iff.mp h with ⟨e, he, -⟩ | ⟨keys, l₁, l₂, rfl, h₁, h₂⟩
  · obtain ⟨_, _, _, -, -, -, he⟩ := course_stage he hu
    exact absurd he (by simp)
  · obtain ⟨rfl, rfl⟩ := course_done_iff.mp h₂
    obtain ⟨calls, woven, notices, hcalls, hwoven, rfl, hkeys⟩ :=
      course_stage h₁ fun m hm => (hu m hm).restrict (List.subset_append_left _ _)
    obtain rfl := Except.ok.inj hkeys
    refine ⟨calls, woven, notices, hcalls, hwoven, by simp, ?_⟩
    rw [firstKey?_results]

/-- A key that was found is one that may be found. -/
theorem mayFind_of_mem {calls : List (Call (Except Failure Json))} {woven : List Step}
    (hcalls : List.Forall₂ Call.IsOf calls ((g.mappersFor i).map fun m => (m.find i).attempt))
    (hwoven : Interleaved (calls.map Call.log) woven) (hl : Replied P woven) {key : Json}
    (hkey : key ∈ contributions calls) : g.MayFind P i key := by
  obtain ⟨c, hc, hck⟩ := List.mem_filterMap.mp hkey
  obtain ⟨p, hp, hcp⟩ := exists_isOf hcalls hc
  obtain ⟨m, hm, rfl⟩ := List.mem_map.mp hp
  have hresult : c.result = .ok key := by
    cases hr : c.result with
    | error f => exact absurd hck (by simp [hr, Except.toOption])
    | ok k => simpa [hr, Except.toOption] using hck
  refine ⟨m, hm, c.log, ?_, hwoven.replied hl c.log (List.mem_map_of_mem hc)⟩
  rw [← hresult]
  exact hcp

/-- The last stage of an analysis: the source analyzers that apply to the
key, on top of the record so far. -/
def askSources (i : Identity) (record : Record) (key : Json) (sources : List SourceAnalyzer) :
    Action Record := do
  if sources.isEmpty then
    .say .info ("No source code analyzer applicable to " ++ key.display)
  let partials ← stage (sources.map fun a => (a.name, a.analyze i key))
  let record := record.mergeAll (partials.filterMap id)
  .say .debug (i.purl ++ ": populated " ++ populatedText record)
  return record

/-- What an analysis does once the mappers have been asked. -/
def afterKey (g : Registry) (i : Identity) (record : Record) : Option Json → Action Record
  | none => do
    .say .info ("Could not find source code project for " ++ i.purl)
    return record
  | some key => do
    let sources ← Action.ofExcept (g.sourceAnalyzersFor key)
    askSources i record key sources

theorem analyze_eq (g : Registry) (i : Identity) :
    g.analyze i = (do
      let partials ← stage ((g.packageAnalyzersFor i).map fun a => (a.name, a.analyze i))
      let key ← g.findKey i
      g.afterKey i ((Record.empty i).mergeAll (partials.filterMap id)) key) :=
  rfl

/-- The last stage calls the source analyzers once and merges what they
contribute. -/
theorem course_askSources {record : Record} {key : Json} {sources : List SourceAnalyzer}
    {o : Except Failure Record} (h : Course (askSources i record key sources).attempt l o)
    (hu : ∀ a ∈ sources, Action.UncancelledIn l (a.analyze i key)) :
    ∃ calls woven, ∃ before after : List Notice,
      List.Forall₂ Call.IsOf calls (sources.map fun a => (a.analyze i key).attempt) ∧
      Interleaved (calls.map Call.log) woven ∧
      l = before.map .noted ++ woven ++ after.map .noted ∧
      o = .ok (record.mergeAll (contributions calls)) := by
  have hstage : ∃ before : List Notice, ∃ l', l = before.map .noted ++ l' ∧
      Course (Action.attempt (do
        let partials ← stage (sources.map fun a => (a.name, a.analyze i key))
        let record := record.mergeAll (partials.filterMap id)
        Action.say .debug (i.purl ++ ": populated " ++ populatedText record)
        return record)) l' o := by
    unfold askSources at h
    split at h
    · obtain ⟨l', rfl, h'⟩ := Action.course_say_bind_iff.mp h
      exact ⟨[_], l', rfl, h'⟩
    · exact ⟨[], l, rfl, h⟩
  obtain ⟨before, l', rfl, h'⟩ := hstage
  have hu' : ∀ a ∈ sources, Action.UncancelledIn l' (a.analyze i key) :=
    fun a ha => (hu a ha).restrict (List.subset_append_right _ _)
  rcases Action.course_bind_iff.mp h' with ⟨e, he, -⟩ | ⟨partials, l₁, l₂, rfl, h₁, h₂⟩
  · obtain ⟨_, _, _, -, -, -, he⟩ := course_stage he hu'
    exact absurd he (by simp)
  obtain ⟨calls, woven, notices, hcalls, hwoven, rfl, hpartials⟩ :=
    course_stage h₁ fun a ha => (hu' a ha).restrict (List.subset_append_left _ _)
  obtain rfl := Except.ok.inj hpartials
  obtain ⟨l₃, rfl, h₃⟩ := Action.course_say_bind_iff.mp h₂
  obtain ⟨rfl, rfl⟩ := course_done_iff.mp h₃
  rw [List.filterMap_map]
  refine ⟨calls, woven, before, notices ++ [⟨.debug, i.purl ++ ": populated " ++
    populatedText (record.mergeAll (contributions calls)), .none⟩], hcalls, hwoven, ?_, rfl⟩
  simp [contributions]

/-- **Every course of an analysis has an account**, and comes to its
record. -/
theorem course_analyze {o : Except Failure Record} (h : Course (g.analyze i).attempt l o)
    (hl : Replied P l) (hg : g.IsRegular P i) :
    ∃ t : Account, t.IsOf g i ∧ t.Fills l ∧ o = .ok (t.record i) := by
  -- No stage fails, so that the course is one of each, with the key between the last two.
  rw [analyze_eq] at h
  rcases Action.course_bind_iff.mp h with ⟨e, he, -⟩ | ⟨partials, l₁, l', rfl, h₁, h'⟩
  · obtain ⟨_, _, _, -, -, -, he⟩ := course_stage he fun a ha => (hg.package a ha).within hl
    exact absurd he (by simp)
  obtain ⟨hl₁, hl'⟩ := replied_append.mp hl
  obtain ⟨packages, first, afterFirst, hpackages, hfirst, rfl, hpartials⟩ :=
    course_stage h₁ fun a ha => (hg.package a ha).within hl₁
  obtain rfl := Except.ok.inj hpartials
  rcases Action.course_bind_iff.mp h' with ⟨e, he, -⟩ | ⟨key?, l₂, l₃, rfl, h₂, h₃⟩
  · obtain ⟨_, _, _, -, -, -, he⟩ := course_findKey he fun m hm => (hg.mapper m hm).within hl'
    exact absurd he (by simp)
  obtain ⟨hl₂, hl₃⟩ := replied_append.mp hl'
  obtain ⟨mappers, second, afterSecond, hmappers, hsecond, rfl, hkey⟩ :=
    course_findKey h₂ fun m hm => (hg.mapper m hm).within hl₂
  obtain rfl := Except.ok.inj hkey
  rw [List.filterMap_map] at h₃
  cases hk : (contributions mappers).find? Json.isTruthy with
  | none =>
    rw [hk] at h₃
    obtain ⟨l₄, rfl, h₄⟩ := Action.course_say_bind_iff.mp h₃
    obtain ⟨rfl, rfl⟩ := course_done_iff.mp h₄
    let t : Account := ⟨packages, mappers, []⟩
    have hkey : t.key? = none := hk
    refine ⟨t, ⟨hpackages, hmappers, by rw [hkey]; exact .nil⟩, ?_, ?_⟩
    · refine ⟨first, second, [], afterFirst, afterSecond ++ [⟨.info,
        "Could not find source code project for " ++ i.purl, .none⟩], [], hfirst, hsecond, .nil, ?_⟩
      simp
    · rw [← t.mergeAll_records]
      rfl
  | some key =>
    rw [hk] at h₃
    have hmay := mayFind_of_mem hmappers hsecond (replied_append.mp hl₂).1
      (List.mem_of_find?_eq_some hk)
    have hanswers := sourceAnalyzersFor_eq (hg.applies key hmay)
    rcases Action.course_ofExcept_bind_iff.mp h₃ with ⟨e, he, -⟩ | ⟨sources, hsources, h₄⟩
    · exact absurd (hanswers.symm.trans he) (by simp)
    obtain rfl := Except.ok.inj (hanswers.symm.trans hsources)
    obtain ⟨calls, third, before, after, hcalls, hthird, rfl, rfl⟩ :=
      course_askSources h₄ fun a ha => (hg.source key hmay a ha).within hl₃
    let t : Account := ⟨packages, mappers, calls⟩
    have hkey : t.key? = some key := hk
    refine ⟨t, ⟨hpackages, hmappers, by rw [hkey]; exact hcalls⟩, ?_, ?_⟩
    · refine ⟨first, second, third, afterFirst, afterSecond ++ before, after, hfirst, hsecond,
        hthird, ?_⟩
      simp
    · rw [← t.mergeAll_records]
      rfl

/-- **An analysis comes to the record of an account, whatever the order in
which its helpers take turns.** Every helper that applies is called once and
as a whole, and no other; a helper that fails contributes nothing, and
whoever contributes later has the last word. -/
theorem analyze_in_any_order (P : Reply → Prop) (w : World σ) (g : Registry) (i : Identity)
    (hw : w.Replies P) (hg : g.IsRegular P i) (s : σ) :
    ∃ t : Account, t.IsOf g i ∧ t.Fills (w.log (g.analyze i).attempt s) ∧
      (w.run (g.analyze i).attempt s).value = .ok (t.record i) :=
  course_analyze (w.course_log _ s) (World.replied_log hw _ s) hg

/-- A registry in which helpers suspend, fail, find nothing, and contradict
each other. -/
def quarrel : Registry where
  packageAnalyzers := [
    ⟨"early", fun _ => true, fun i =>
      .ofAttempt (.pause (.pause (.done (.ok ((Record.empty i).set .stars (some (.count 1)))))))⟩,
    ⟨"broken", fun _ => true, fun _ => .fail .badValue⟩,
    ⟨"foreign", fun _ => false, fun i => return (Record.empty i).set .forks (some (.count 9))⟩]
  mappers := [
    ⟨"unsure", fun _ => true, fun _ => return .str ""⟩,
    ⟨"sure", fun _ => true, fun _ => .ofAttempt (.pause (.done (.ok (.str "host/owner/name"))))⟩,
    ⟨"late", fun _ => true, fun _ => return .int 5⟩]
  sourceAnalyzers := [
    ⟨"texts", fun key => .ok (key.isText "host/owner/name"), fun i _ =>
      return (Record.empty i).set .stars (some (.count 2))⟩,
    ⟨"numbers", fun key => .ok (key.isText "5"), fun i _ =>
      return (Record.empty i).set .forks (some (.count 5))⟩]

/-- A world in which two programs take turns. -/
def alternating : World Bool where
  reply _ s := (.error (.transport .connect ""), s)
  clock s := (default, s)
  turn s := (s, !s)

theorem isRegular_quarrel (P : Reply → Prop) (i : Identity) : quarrel.IsRegular P i where
  package a ha := by
    obtain rfl | rfl : a = _ ∨ a = _ := by simpa [quarrel, packageAnalyzersFor] using ha
    · exact .pause (.pause (Program.ensures_done.mpr (by simp)))
    · exact Program.ensures_done.mpr (by simp)
  mapper m hm := by
    obtain rfl | rfl | rfl : m = _ ∨ m = _ ∨ m = _ := by simpa [quarrel, mappersFor] using hm
    · exact Program.ensures_done.mpr (by simp)
    · exact .pause (Program.ensures_done.mpr (by simp))
    · exact Program.ensures_done.mpr (by simp)
  applies key _ a ha := by
    obtain rfl | rfl : a = _ ∨ a = _ := by simpa [quarrel] using ha
    · exact ⟨_, rfl⟩
    · exact ⟨_, rfl⟩
  source key _ a ha := by
    obtain rfl | rfl : a = _ ∨ a = _ := by simpa [quarrel] using List.mem_of_mem_filter ha
    · exact Program.ensures_done.mpr (by simp)
    · exact Program.ensures_done.mpr (by simp)

theorem analyze_in_any_order_quarrel :
    alternating.Replies (fun _ => True) ∧ quarrel.IsRegular (fun _ => True) default ∧
      (∃ t : Account, t.IsOf quarrel default ∧
        t.Fills (alternating.log (quarrel.analyze default).attempt true) ∧
        (alternating.run (quarrel.analyze default).attempt true).value = .ok (t.record default)) ∧
      (alternating.run (quarrel.analyze default).attempt true).value.toOption.bind
        (·.reading .stars) = some (.count 2) :=
  ⟨fun _ _ => trivial, isRegular_quarrel _ _,
    analyze_in_any_order (fun _ => True) alternating quarrel default (fun _ _ => trivial)
      (isRegular_quarrel _ _) true,
    rfl⟩

end Registry

end PackageVitals
