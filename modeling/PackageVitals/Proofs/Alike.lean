import Mathlib.Data.List.Forall2
import PackageVitals.Aggregation
import PackageVitals.Proofs.Ensures
import PackageVitals.Service

/-!
# Programs that go alike

To say what does *not* matter to a program is to compare two of its runs.
Two programs **go alike** if they take the same steps in the same order, up
to what a `Likeness` allows: which request may stand for which, and which
notice for which (`Program.Alike`). A reply is the same for both, so from
there on they go alike again, and so on to their ends.

Going alike is found part by part, along the way in which programs are put
together, also where they run at once: whose turn it is, is a reply of the
world like any other. What follows for runs is `World.run_alike`. In a world
that does not tell requests apart that may stand for each other, two
programs that go alike come to values that belong together, sleep alike,
send requests that stand for each other and leave the same state.
-/

namespace PackageVitals

/-- **What may differ** between two programs that go alike. -/
structure Likeness where
  /-- Which request may stand for which. -/
  requests : Request → Request → Prop
  /-- Which notice may stand for which. -/
  notices : Notice → Notice → Prop

/-- Events that stand for each other. -/
inductive Likeness.Events (K : Likeness) : Event → Event → Prop
  | sent {q q' : Request} : K.requests q q' → K.Events (.sent q) (.sent q')
  | slept (d : Seconds) : K.Events (.slept d) (.slept d)
  | noted {n n' : Notice} : K.notices n n' → K.Events (.noted n) (.noted n')

/-- **Whether two programs go alike**, and end with values of which `V`
holds. -/
inductive Program.Alike (K : Likeness) (V : α → β → Prop) : Program α → Program β → Prop
  | done {a : α} {b : β} : V a b → Alike K V (.done a) (.done b)
  | send {q q' : Request} {next : Reply → Program α} {next' : Reply → Program β} :
      K.requests q q' → (∀ r, Alike K V (next r) (next' r)) →
      Alike K V (.send q next) (.send q' next')
  | sleep {d : Seconds} {next : Program α} {next' : Program β} :
      Alike K V next next' → Alike K V (.sleep d next) (.sleep d next')
  | note {n n' : Notice} {next : Program α} {next' : Program β} :
      K.notices n n' → Alike K V next next' → Alike K V (.note n next) (.note n' next')
  | now {next : Timestamp → Program α} {next' : Timestamp → Program β} :
      (∀ t, Alike K V (next t) (next' t)) → Alike K V (.now next) (.now next')
  | pause {next : Program α} {next' : Program β} :
      Alike K V next next' → Alike K V (.pause next) (.pause next')
  | turn {next : Bool → Program α} {next' : Bool → Program β} :
      (∀ b, Alike K V (next b) (next' b)) → Alike K V (.turn next) (.turn next')

namespace Program

variable {K : Likeness} {V : α → α' → Prop} {W : β → β' → Prop}

theorem Alike.mono {V' : α → α' → Prop} {p : Program α} {p' : Program α'} (h : Alike K V p p')
    (hV : ∀ a a', V a a' → V' a a') : Alike K V' p p' := by
  induction h with
  | done hab => exact .done (hV _ _ hab)
  | send hq _ ih => exact .send hq ih
  | sleep _ ih => exact .sleep ih
  | note hn _ ih => exact .note hn ih
  | now _ ih => exact .now ih
  | pause _ ih => exact .pause ih
  | turn _ ih => exact .turn ih

/-- **Programs that go alike go on alike**, if what follows does. -/
theorem Alike.andThen {p : Program α} {p' : Program α'} {f : α → Program β}
    {f' : α' → Program β'} (h : Alike K V p p') (hf : ∀ a a', V a a' → Alike K W (f a) (f' a')) :
    Alike K W (p.andThen f) (p'.andThen f') := by
  induction h with
  | done hab => exact hf _ _ hab
  | send hq _ ih => exact .send hq ih
  | sleep _ ih => exact .sleep ih
  | note hn _ ih => exact .note hn ih
  | now _ ih => exact .now ih
  | pause _ ih => exact .pause ih
  | turn _ ih => exact .turn ih

/-! ## Programs that run at once -/

theorem Alike.choice {p q : Program α} {p' q' : Program α'} (hp : Alike K V p p')
    (hq : Alike K V q q') :
    Alike K V (.turn fun mine => if mine then p else q)
      (.turn fun mine => if mine then p' else q') := by
  refine .turn fun mine => ?_
  cases mine with
  | true => exact hp
  | false => exact hq

/-- Weaving into programs that go alike goes alike, if going on with the
other one does, and ending alone does. -/
theorem Alike.weave {U : γ → γ' → Prop} {first : Program β → Program γ} {alone : β → Program γ}
    {first' : Program β' → Program γ'} {alone' : β' → Program γ'}
    (hfirst : ∀ q q', Alike K W q q' → Alike K U (first q) (first' q'))
    (halone : ∀ b b', W b b' → Alike K U (alone b) (alone' b')) {q : Program β} {q' : Program β'}
    (h : Alike K W q q') :
    Alike K U (Program.weave first alone q) (Program.weave first' alone' q') := by
  induction h with
  | done hb => exact halone _ _ hb
  | send hq hnext ih => exact .choice (hfirst _ _ (.send hq hnext)) (.send hq ih)
  | sleep hnext ih => exact .choice (hfirst _ _ (.sleep hnext)) (.sleep ih)
  | note hn hnext ih => exact .choice (hfirst _ _ (.note hn hnext)) (.note hn ih)
  | now hnext ih => exact .choice (hfirst _ _ (.now hnext)) (.now ih)
  | pause hnext ih => exact .choice (hfirst _ _ (.pause hnext)) (.pause ih)
  | turn hnext ih => exact .choice (hfirst _ _ (.turn hnext)) (.turn ih)

/-- Two results of which each belongs to its other one. -/
def Both (V : α → α' → Prop) (W : β → β' → Prop) (r : α × β) (r' : α' × β') : Prop :=
  V r.1 r'.1 ∧ W r.2 r'.2

theorem Alike.pairWith {p : Program α} {p' : Program α'} {b : β} {b' : β'} (hp : Alike K V p p')
    (hb : W b b') : Alike K (Both V W) (p.andThen fun a => .done (a, b))
      (p'.andThen fun a => .done (a, b')) :=
  hp.andThen fun _ _ ha => .done ⟨ha, hb⟩

/-- **Two programs at once go alike** if each of them does. -/
theorem Alike.both {p : Program α} {p' : Program α'} {q : Program β} {q' : Program β'}
    (hp : Alike K V p p') (hq : Alike K W q q') :
    Alike K (Both V W) (Program.both p q) (Program.both p' q') := by
  induction hp generalizing q q' with
  | done ha => exact hq.andThen fun _ _ hb => .done ⟨ha, hb⟩
  | send hs hnext ih =>
    exact .weave (fun _ _ h => .send hs fun r => ih r h)
      (fun _ _ h => (Alike.send hs hnext).pairWith h) hq
  | sleep hnext ih =>
    exact .weave (fun _ _ h => .sleep (ih h)) (fun _ _ h => (Alike.sleep hnext).pairWith h) hq
  | note hn hnext ih =>
    exact .weave (fun _ _ h => .note hn (ih h)) (fun _ _ h => (Alike.note hn hnext).pairWith h) hq
  | now hnext ih =>
    exact .weave (fun _ _ h => .now fun t => ih t h) (fun _ _ h => (Alike.now hnext).pairWith h) hq
  | pause hnext ih =>
    exact .weave (fun _ _ h => .pause (ih h)) (fun _ _ h => (Alike.pause hnext).pairWith h) hq
  | turn hnext ih =>
    exact .weave (fun _ _ h => .turn fun b => ih b h)
      (fun _ _ h => (Alike.turn hnext).pairWith h) hq

/-- **Several programs at once go alike** if each of them does. -/
theorem Alike.gather {ps : List (Program α)} {ps' : List (Program α')}
    (h : List.Forall₂ (Alike K V) ps ps') :
    Alike K (List.Forall₂ V) (Program.gather ps) (Program.gather ps') := by
  induction h with
  | nil => exact .done .nil
  | cons hp _ ih => exact (hp.both ih).andThen fun _ _ hr => .done (.cons hr.1 hr.2)

end Program

/-! ## Runs -/

/-- **In a world that does not tell requests apart that stand for each
other, programs that go alike run alike.** -/
theorem World.run_alike {K : Likeness} {V : α → β → Prop} {w : World σ} {p : Program α}
    {p' : Program β} (hw : ∀ q q' s, K.requests q q' → w.reply q s = w.reply q' s)
    (h : Program.Alike K V p p') (s : σ) :
    V (w.run p s).value (w.run p' s).value ∧ (w.run p s).state = (w.run p' s).state ∧
      List.Forall₂ K.Events (w.run p s).events (w.run p' s).events := by
  induction h generalizing s with
  | done hab => exact ⟨hab, rfl, .nil⟩
  | send hq _ ih =>
    simp only [run, Outcome.after, ← hw _ _ s hq]
    obtain ⟨hv, hs, he⟩ := ih (w.reply _ s).1 (w.reply _ s).2
    exact ⟨hv, hs, .cons (.sent hq) he⟩
  | sleep _ ih =>
    obtain ⟨hv, hs, he⟩ := ih s
    exact ⟨hv, hs, .cons (.slept _) he⟩
  | note hn _ ih =>
    obtain ⟨hv, hs, he⟩ := ih s
    exact ⟨hv, hs, .cons (.noted hn) he⟩
  | now _ ih => exact ih (w.clock s).1 (w.clock s).2
  | pause _ ih => exact ih s
  | turn _ ih => exact ih (w.turn s).1 (w.turn s).2

/-- Of events that stand for each other, the requests do, the sleeps are the
same, and the notices stand for each other. -/
theorem Outcome.of_events {K : Likeness} {o : Outcome σ α} {o' : Outcome τ β}
    (h : List.Forall₂ K.Events o.events o'.events) :
    List.Forall₂ K.requests o.requests o'.requests ∧ o.sleeps = o'.sleeps ∧
      List.Forall₂ K.notices o.notices o'.notices := by
  unfold requests sleeps notices
  generalize o.events = es, o'.events = es' at h
  induction h with
  | nil => exact ⟨.nil, rfl, .nil⟩
  | cons he _ ih =>
    obtain ⟨hr, hs, hn⟩ := ih
    cases he with
    | sent hq => exact ⟨.cons hq hr, hs, hn⟩
    | slept d => exact ⟨hr, congrArg (d :: ·) hs, hn⟩
    | noted hnote => exact ⟨hr, hs, .cons hnote hn⟩

/-! ## Actions -/

/-- **Whether two results agree**: both are the same failure, or both are
there and belong together. -/
inductive Agree (V : α → β → Prop) : Except Failure α → Except Failure β → Prop
  | error (f : Failure) : Agree V (.error f) (.error f)
  | ok {a : α} {b : β} : V a b → Agree V (.ok a) (.ok b)

namespace Agree

variable {V : α → α' → Prop}

theorem refl (e : Except Failure α) : Agree Eq e e := by
  cases e with
  | error f => exact .error f
  | ok a => exact .ok (Eq.refl a)

theorem mono {V' : α → α' → Prop} (hV : ∀ a a', V a a' → V' a a') {e : Except Failure α}
    {e' : Except Failure α'} (h : Agree V e e') : Agree V' e e' := by
  cases h with
  | error f => exact .error f
  | ok ha => exact .ok (hV _ _ ha)

theorem bind {W : β → β' → Prop} {e : Except Failure α} {e' : Except Failure α'}
    {f : α → Except Failure β} {f' : α' → Except Failure β'} (h : Agree V e e')
    (hf : ∀ a a', V a a' → Agree W (f a) (f' a')) : Agree W (e >>= f) (e' >>= f') := by
  cases h with
  | error f => exact .error f
  | ok ha => exact hf _ _ ha

/-- Results that agree because they are equal are equal. -/
theorem eq {e e' : Except Failure α} (h : Agree Eq e e') : e = e' := by
  cases h with
  | error f => exact Eq.refl _
  | ok ha => rw [ha]

end Agree

/-- **Whether two actions go alike**: so do their programs, and what they
come to agrees. -/
def Action.Alike (K : Likeness) (V : α → β → Prop) (x : Action α) (x' : Action β) : Prop :=
  x.attempt.Alike K (Agree V) x'.attempt

namespace Action

variable {K : Likeness} {V : α → α' → Prop} {W : β → β' → Prop}

theorem Alike.mono {V' : α → α' → Prop} {x : Action α} {x' : Action α'} (h : Alike K V x x')
    (hV : ∀ a a', V a a' → V' a a') : Alike K V' x x' :=
  Program.Alike.mono h fun _ _ => Agree.mono hV

theorem alike_pure {a : α} {a' : α'} (h : V a a') :
    Alike K V (pure a : Action α) (pure a' : Action α') :=
  .done (.ok h)

theorem alike_ofExcept {e : Except Failure α} {e' : Except Failure α'} (h : Agree V e e') :
    Alike K V (ofExcept e) (ofExcept e') :=
  .done h

theorem alike_fail (f : Failure) : Alike K V (fail f) (fail f) :=
  .done (.error f)

theorem alike_note {n n' : Notice} (h : K.notices n n') : Alike K Eq (note n) (note n') :=
  .note h (.done (.ok rfl))

theorem alike_now : Alike K Eq now now :=
  .now fun _ => .done (.ok rfl)

theorem alike_sleep (d : Seconds) : Alike K Eq (sleep d) (sleep d) :=
  .sleep (.done (.ok rfl))

theorem alike_send {q q' : Request} (h : K.requests q q') : Alike K Eq (send q) (send q') :=
  .send h fun r => .done (Agree.refl r)

/-- **Actions that go alike go on alike** after a success. -/
theorem Alike.bind {x : Action α} {x' : Action α'} {f : α → Action β} {f' : α' → Action β'}
    (h : Alike K V x x') (hf : ∀ a a', V a a' → Alike K W (f a) (f' a')) :
    Alike K W (x >>= f) (x' >>= f') := by
  unfold Alike
  rw [attempt_bind, attempt_bind]
  refine Program.Alike.andThen h fun e e' he => ?_
  cases he with
  | error f => exact .done (.error f)
  | ok ha => exact hf _ _ ha

/-- So they do after the same success. -/
theorem Alike.andThen {x x' : Action α} {f : α → Action β} {f' : α → Action β'}
    (h : Alike K Eq x x') (hf : ∀ a, Alike K W (f a) (f' a)) :
    Alike K W (x >>= f) (x' >>= f') :=
  h.bind fun a _ ha => ha ▸ hf a

theorem alike_ofExcept_bind {e : Except Failure α} {f : α → Action β} {f' : α → Action β'}
    (hf : ∀ a, Alike K W (f a) (f' a)) : Alike K W (ofExcept e >>= f) (ofExcept e >>= f') :=
  (alike_ofExcept (Agree.refl e)).andThen hf

theorem Alike.map {x : Action α} {x' : Action α'} {f : α → β} {f' : α' → β'}
    (h : Alike K V x x') (hf : ∀ a a', V a a' → W (f a) (f' a')) :
    Alike K W (f <$> x) (f' <$> x') := by
  unfold Alike
  rw [attempt_map, attempt_map]
  refine Program.Alike.andThen h fun e e' he => ?_
  cases he with
  | error f => exact .done (.error f)
  | ok ha => exact .done (.ok (hf _ _ ha))

theorem alike_lift {p : Program α} {p' : Program α'} (h : p.Alike K V p') :
    Alike K V (ExceptT.lift p : Action α) (ExceptT.lift p' : Action α') := by
  unfold Alike
  rw [attempt_lift, attempt_lift]
  exact h.andThen fun _ _ ha => .done (.ok ha)

/-- Safe actions go alike if the actions do. -/
theorem Alike.safely {x : Action α} {x' : Action α'} (h : Alike K V x x')
    (hK : ∀ n, K.notices n n) (description : String) {a : α} {a' : α'} (ha : V a a') :
    Alike K V (Action.safely description a x) (Action.safely description a' x') := by
  refine Program.Alike.andThen h fun e e' he => ?_
  cases he with
  | error f =>
    dsimp only
    split
    · exact .note (hK _) (.done (.ok ha))
    · exact .done (.error f)
  | ok hb => exact .done (.ok hb)

end Action

/-! ## Documents -/

namespace Service

variable {K : Likeness} {s s' : Service} {url url' : String} {form form' : Option Form}

/-- **Whether two addresses are asked alike**: neither can be asked, for the
same reason, or the requests stand for each other. -/
def Alike (K : Likeness) (s s' : Service) (url url' : String) (form form' : Option Form) : Prop :=
  Agree (fun u u' => K.requests (s.request u) (s'.request u') ∧ u.isAbsolute = u'.isAbsolute)
    (s.address url form) (s'.address url' form')

theorem alike_get (h : Alike K s s' url url' form form') :
    Action.Alike K Eq (s.get url form) (s'.get url' form') := by
  refine (Action.alike_ofExcept h).bind fun u u' hu => (Action.alike_send hu.1).andThen fun r => ?_
  rw [hu.2]
  split
  · exact Action.alike_pure rfl
  · exact Action.alike_fail _

theorem alike_document {read : Json → Except Failure α} (h : Alike K s s' url url' form form') :
    Action.Alike K Eq (s.document url form read) (s'.document url' form' read) := by
  exact (alike_get h).andThen fun r => Action.alike_ofExcept (Agree.refl _)

/-- **Documents are fetched alike** where their addresses are asked alike and
the notices about them stand for each other. -/
theorem alike_fetchJson {read : Json → Except Failure α} (h : Alike K s s' url url' form form')
    (hn : ∀ f, Option.Rel K.notices (s.notice? url f) (s'.notice? url' f)) :
    Action.Alike K Eq (s.fetchJson url form read) (s'.fetchJson url' form' read) := by
  refine Program.Alike.andThen (alike_document h) fun e e' he => ?_
  cases he with
  | ok ha => exact .done (.ok (congrArg some ha))
  | error f =>
    have hf := hn f
    revert hf
    dsimp only
    generalize s.notice? url f = n, s'.notice? url' f = n'
    rintro (hf | _)
    · exact .note hf (.done (.ok rfl))
    · exact .done (.error f)

end Service

/-! ## Stages -/

namespace Registry

variable {K : Likeness} {V : α → α' → Prop}

/-- Helpers with the same name that go alike. -/
def HelpersAlike (K : Likeness) (V : α → α' → Prop) (h : String × Action α)
    (h' : String × Action α') : Prop :=
  h.1 = h'.1 ∧ Action.Alike K V h.2 h'.2

theorem alike_isolate (hK : ∀ n, K.notices n n) {rs : List (String × Except Failure α)}
    {rs' : List (String × Except Failure α')}
    (h : List.Forall₂ (fun r r' => r.1 = r'.1 ∧ Agree V r.2 r'.2) rs rs') :
    Action.Alike K (List.Forall₂ (Option.Rel V)) (isolate rs) (isolate rs') := by
  induction h with
  | nil => exact Action.alike_pure .nil
  | @cons r r' _ _ hr _ ih =>
    obtain ⟨name, e⟩ := r
    obtain ⟨name', e'⟩ := r'
    obtain ⟨rfl, he⟩ := hr
    cases he with
    | error f =>
      rw [isolate, isolate]
      split
      · exact Action.alike_fail f
      · refine (Action.alike_note (hK _)).andThen fun _ => ih.bind fun as as' has => ?_
        exact Action.alike_pure (.cons .none has)
    | ok ha =>
      rw [isolate, isolate]
      exact ih.bind fun as as' has => Action.alike_pure (.cons (.some ha) has)

/-- **Stages go alike** if their helpers do. -/
theorem alike_stage (hK : ∀ n, K.notices n n) {hs : List (String × Action α)}
    {hs' : List (String × Action α')} (h : List.Forall₂ (HelpersAlike K V) hs hs') :
    Action.Alike K (List.Forall₂ (Option.Rel V)) (stage hs) (stage hs') := by
  have hprograms : List.Forall₂ (Program.Alike K (Agree V)) (hs.map (·.2.attempt))
      (hs'.map (·.2.attempt)) := by
    rw [List.forall₂_map_left_iff, List.forall₂_map_right_iff]
    exact h.imp fun _ _ hh => hh.2
  refine (Action.alike_lift (.gather hprograms)).bind fun rs rs' hrs => alike_isolate hK ?_
  have hnames : hs.map (·.1) = hs'.map (·.1) := by
    rw [← List.forall₂_eq_eq_eq, List.forall₂_map_left_iff, List.forall₂_map_right_iff]
    exact h.imp fun _ _ hh => hh.1
  rw [hnames]
  generalize hs'.map (·.1) = names
  induction hrs generalizing names with
  | nil => cases names <;> exact .nil
  | cons hr _ ih =>
    cases names with
    | nil => exact .nil
    | cons name names => exact .cons ⟨rfl, hr⟩ (ih names)

end Registry

end PackageVitals
