import PackageVitals.Proofs.Statistics

/-!
# Asking until the statistics are ready

GitHub starts to count the contributors of a repository when it is asked about them, and
answers that they are not ready until it is done. The statistics are therefore asked for
again and again, with a pause after each such answer, but only so often.

What comes of it hangs on the sequence of the answers. One of them is the last that is asked
for (`LastAsked`): the first that settles the matter, or the last that there is an attempt
for. Up to it there are **rounds** of a request, a notice and a pause, and
`Analyzer.run_rounds` follows them from the front: after each one the rest of the poll is a
poll with an attempt less. What is left after the rounds is a single request and what is said
of its answer (`Analyzer.run_last`).
-/

namespace PackageVitals

/-! ## An action that is run again and again -/

namespace World

/-- The state after some runs of an action, one after the other. -/
def stateAfter (w : World σ) (x : Action α) (s : σ) : Nat → σ
  | 0 => s
  | i + 1 => (w.run x.attempt (w.stateAfter x s i)).state

/-- **Whether some results come of the runs of an action**, one after the other, up to the one
with a number. -/
def Answers (w : World σ) (x : Action α) (s : σ) (answers : Nat → α) (last : Nat) : Prop :=
  ∀ i ≤ last, (w.run x.attempt (w.stateAfter x s i)).value = .ok (answers i)

/-- Whether a run of an action is one request and nothing else that the outside can see. -/
def Sends (w : World σ) (x : Action α) (q : Request) : Prop :=
  ∀ s, (w.run x.attempt s).events = [.sent q]

end World

/-- The outcome with some events put in front. -/
def Outcome.behind (es : List Event) (o : Outcome σ α) : Outcome σ α :=
  { o with events := es ++ o.events }

theorem Outcome.behind_behind (es es' : List Event) (o : Outcome σ α) :
    (o.behind es').behind es = o.behind (es ++ es') := by
  unfold behind
  rw [List.append_assoc]

namespace GitHub

/-! ## The last answer -/

/-- The contributors that an answer lists, if it lists any. -/
def StatisticsAnswer.contributors? : StatisticsAnswer → Option (List Contributor)
  | ready cs => some cs
  | _ => none

/-- **Which of the answers is the last that is asked for**, in so many attempts: those before
it are that there are no statistics yet, and it is another one unless it is the last that
there is an attempt for. -/
structure LastAsked (answers : Nat → StatisticsAnswer) (attempts last : Nat) : Prop where
  lt : last < attempts
  waiting : ∀ i < last, answers i = .notReady
  settled : last + 1 < attempts → answers last ≠ .notReady

namespace LastAsked

variable {answers : Nat → StatisticsAnswer} {attempts last last' : Nat}

/-- No answer is asked for after one that settles the matter. -/
theorem le (h : LastAsked answers attempts last) (h' : LastAsked answers attempts last') :
    last ≤ last' := by
  by_contra hlt
  have hlt : last' < last := Nat.lt_of_not_le hlt
  exact h'.settled (Nat.lt_of_le_of_lt hlt h.lt) (h.waiting last' hlt)

/-- **There is one last answer** if there is an attempt. -/
theorem existsUnique (hpos : 0 < attempts) : ∃! last, LastAsked answers attempts last := by
  have hend : ∃ i, attempts ≤ i + 1 ∨ answers i ≠ .notReady := ⟨attempts, .inl (by omega)⟩
  have hfirst : LastAsked answers attempts (Nat.find hend) := by
    refine ⟨?_, fun i hi => ?_, fun hlt => ?_⟩
    · have hle : Nat.find hend ≤ attempts - 1 := Nat.find_min' hend (.inl (by omega))
      omega
    · exact not_ne_iff.mp fun hne => Nat.find_min hend hi (.inr hne)
    · exact (Nat.find_spec hend).resolve_left (Nat.not_le_of_lt hlt)
  exact ⟨_, hfirst, fun last h => Nat.le_antisymm (h.le hfirst) (hfirst.le h)⟩

end LastAsked

/-- Asking for the statistics is one request. -/
theorem Client.sends_statistics {c : Client} {owner name : String} {q : Request}
    (h : c.Reaches (statisticsPath owner name) none q) (w : World σ) :
    w.Sends (c.statistics owner name) q := by
  intro s
  rw [attempt_statistics h]
  rfl

namespace Analyzer

variable {a : Analyzer} {ask : Action StatisticsAnswer} {repository : String}

theorem maxAttempts_pos (a : Analyzer) : 0 < a.maxAttempts := by
  unfold maxAttempts
  omega

/-! ## One attempt -/

/-- What the outside sees of an attempt that is followed by another one. -/
def round (a : Analyzer) (repository : String) (q : Request) (i : Nat) : List Event :=
  [.sent q,
    .noted { severity := .debug, text := a.notReadyText repository (i + 1) },
    .slept a.interval]

/-- What is said of the last answer. -/
def closing (a : Analyzer) (repository : String) : StatisticsAnswer → List Event
  | .ready _ => []
  | .failed p => [.noted (failedNotice repository p)]
  | .notReady => [.noted { severity := .warning, text := a.neverReadyText repository }]

/-- What follows an answer after which there are some attempts left. -/
def afterAnswer (a : Analyzer) (ask : Action StatisticsAnswer) (repository : String)
    (left : Nat) : StatisticsAnswer → Action (Option (List Contributor))
  | .ready cs => return some cs
  | .failed p => do
    .note (failedNotice repository p)
    return none
  | .notReady => do
    if left ≠ 0 then
      .say .debug (a.notReadyText repository (a.maxAttempts - left))
      .sleep a.interval
    a.pollFrom ask repository left

theorem pollFrom_succ (left : Nat) :
    a.pollFrom ask repository (left + 1) = ask >>= a.afterAnswer ask repository left :=
  rfl

variable {w : World σ} {s : σ} {q : Request} {left : Nat}

/-- **An attempt** is a request, and its answer says how it goes on. -/
theorem run_pollFrom_succ {answer : StatisticsAnswer} (hsends : w.Sends ask q)
    (hanswer : (w.run ask.attempt s).value = .ok answer) :
    w.run (a.pollFrom ask repository (left + 1)).attempt s =
      (w.run (a.afterAnswer ask repository left answer).attempt
        (w.run ask.attempt s).state).after (.sent q) := by
  rw [pollFrom_succ, Action.attempt_bind, World.run_andThen]
  dsimp only
  rw [hanswer, hsends s]
  rfl

/-- An answer that there are no statistics yet is waited for, if there is an attempt left. -/
theorem run_afterAnswer_waiting (h : left ≠ 0) :
    w.run (a.afterAnswer ask repository left .notReady).attempt s =
      (w.run (a.pollFrom ask repository left).attempt s).behind
        [.noted { severity := .debug, text := a.notReadyText repository (a.maxAttempts - left) },
          .slept a.interval] := by
  unfold afterAnswer
  dsimp only
  rw [if_pos h]
  rfl

/-- Any other answer closes the matter, and so does this one without an attempt left. -/
theorem run_afterAnswer_closing {answer : StatisticsAnswer} (h : answer = .notReady → left = 0) :
    w.run (a.afterAnswer ask repository left answer).attempt s =
      ⟨.ok answer.contributors?, a.closing repository answer, s⟩ := by
  cases answer with
  | ready cs => rfl
  | failed p => rfl
  | notReady =>
    obtain rfl := h rfl
    rfl

/-! ## All attempts -/

variable {answers : Nat → StatisticsAnswer} {last : Nat}

/-- **After some rounds** the rest of the poll is one with as many attempts less. -/
theorem run_rounds (hsends : w.Sends ask q) (hanswers : w.Answers ask s answers last)
    (hlast : LastAsked answers a.maxAttempts last) {i : Nat} (hi : i ≤ last) :
    w.run (a.pollFrom ask repository a.maxAttempts).attempt s =
      (w.run (a.pollFrom ask repository (a.maxAttempts - i)).attempt
        (w.stateAfter ask s i)).behind ((List.range i).flatMap (a.round repository q)) := by
  induction i with
  | zero => rfl
  | succ i ih =>
    have hlt : i + 1 < a.maxAttempts := Nat.lt_of_le_of_lt hi hlast.lt
    have hleft : a.maxAttempts - i = a.maxAttempts - (i + 1) + 1 := by omega
    have hthis : (w.run ask.attempt (w.stateAfter ask s i)).value = .ok .notReady := by
      rw [hanswers i (Nat.le_of_succ_le hi), hlast.waiting i hi]
    rw [ih (Nat.le_of_succ_le hi), hleft, run_pollFrom_succ hsends hthis,
      run_afterAnswer_waiting (by omega), List.range_succ, List.flatMap_append,
      ← Outcome.behind_behind, List.flatMap_singleton]
    have hnumber : a.maxAttempts - (a.maxAttempts - (i + 1)) = i + 1 := by omega
    rw [hnumber]
    rfl

/-- **The last attempt** settles the matter. -/
theorem run_last (hsends : w.Sends ask q) (hanswers : w.Answers ask s answers last)
    (hlast : LastAsked answers a.maxAttempts last) :
    w.run (a.pollFrom ask repository (a.maxAttempts - last)).attempt (w.stateAfter ask s last) =
      ⟨.ok (answers last).contributors?, .sent q :: a.closing repository (answers last),
        w.stateAfter ask s (last + 1)⟩ := by
  have hlt := hlast.lt
  have hleft : a.maxAttempts - last = a.maxAttempts - (last + 1) + 1 := by omega
  have hclosing (h : answers last = .notReady) : a.maxAttempts - (last + 1) = 0 := by
    by_contra hmore
    exact hlast.settled (by omega) h
  rw [hleft, run_pollFrom_succ hsends (hanswers last (Nat.le_refl last)),
    run_afterAnswer_closing hclosing]
  rfl

/-- **What the outside sees of a poll**: rounds, and then a request and what is said of its
answer. -/
def trace (a : Analyzer) (repository : String) (q : Request) (answers : Nat → StatisticsAnswer)
    (last : Nat) : List Event :=
  (List.range last).flatMap (a.round repository q) ++
    .sent q :: a.closing repository (answers last)

/-- Picking no notice and one thing from each round picks as many as there are rounds, and
what there is to pick of the last request. -/
theorem filterMap_trace {pick : Event → Option β} {b : β}
    (hround : ∀ i, (a.round repository q i).filterMap pick = [b])
    (hnoted : ∀ n, pick (.noted n) = none) :
    (a.trace repository q answers last).filterMap pick =
      List.replicate last b ++ (pick (.sent q)).toList := by
  have hrounds (n : Nat) :
      ((List.range n).flatMap (a.round repository q)).filterMap pick = List.replicate n b := by
    induction n with
    | zero => rfl
    | succ n ih =>
      rw [List.range_succ, List.flatMap_append, List.flatMap_singleton, List.filterMap_append,
        ih, hround, List.replicate_succ']
  have hclosing : (a.closing repository (answers last)).filterMap pick = [] := by
    cases answers last with
    | ready cs => rfl
    | failed p => exact List.filterMap_cons_none (hnoted _)
    | notReady => exact List.filterMap_cons_none (hnoted _)
  unfold trace
  rw [List.filterMap_append, hrounds]
  congr 1
  cases hpick : pick (.sent q) with
  | none => exact (List.filterMap_cons_none hpick).trans hclosing
  | some c => exact (List.filterMap_cons_some hpick).trans (congrArg _ hclosing)

/-- **What a poll comes to** that asks up to an answer and no further. -/
structure Polled (a : Analyzer) (repository : String) (q : Request)
    (answers : Nat → StatisticsAnswer) (last : Nat) (state : σ)
    (o : Outcome σ (Except Failure (Option (List Contributor)))) : Prop where
  /-- The contributors that the last answer lists. -/
  value : o.value = .ok (answers last).contributors?
  /-- A request for each answer. -/
  requests : o.requests = List.replicate (last + 1) q
  /-- A pause after each answer but the last. -/
  sleeps : o.sleeps = List.replicate last a.interval
  /-- The requests, the notices and the pauses in their order. -/
  events : o.events = a.trace repository q answers last
  /-- No answer after the last has been asked for. -/
  state : o.state = state

/-- **A poll** is its rounds and its last attempt. -/
theorem polled (hsends : w.Sends ask q) (hanswers : w.Answers ask s answers last)
    (hlast : LastAsked answers a.maxAttempts last) :
    a.Polled repository q answers last (w.stateAfter ask s (last + 1))
      (w.run (a.pollFrom ask repository a.maxAttempts).attempt s) := by
  rw [run_rounds hsends hanswers hlast (Nat.le_refl last), run_last hsends hanswers hlast]
  refine ⟨rfl, ?_, ?_, rfl, rfl⟩
  · exact (filterMap_trace (fun _ => rfl) fun _ => rfl).trans List.replicate_succ'.symm
  · exact (filterMap_trace (fun _ => rfl) fun _ => rfl).trans (List.append_nil _)

/-- **Asking for the statistics is bounded and goes on no longer than it has to.** In any
sequence of answers there is a last one that is asked for, the first that is not that they
are not ready, or the last that there is an attempt for; there is always one attempt. Up to
it there is a request for each answer and between two requests one pause, and nothing else
but notices. What is returned are the contributors of that answer, if it lists them, and
nothing otherwise. The answers after it are not asked for.

This is so of anything that is asked with one request, and of the analyzer where its client
reaches the statistics. -/
theorem poll_bounded (a : Analyzer) (answers : Nat → StatisticsAnswer) (w : World σ) (s : σ)
    (q : Request) :
    (∃! last, LastAsked answers (max 1 a.attempts).toNat last) ∧
    ∀ last, LastAsked answers (max 1 a.attempts).toNat last →
      (∀ ask repository, w.Sends ask q → w.Answers ask s answers last →
        a.Polled repository q answers last (w.stateAfter ask s (last + 1))
          (w.run (a.pollFrom ask repository a.maxAttempts).attempt s)) ∧
      ∀ owner name, a.client.Reaches (Client.statisticsPath owner name) none q →
        w.Answers (a.client.statistics owner name) s answers last →
          a.Polled (owner ++ "/" ++ name) q answers last
            (w.stateAfter (a.client.statistics owner name) s (last + 1))
            (w.run (a.poll owner name).attempt s) := by
  refine ⟨LastAsked.existsUnique a.maxAttempts_pos, fun last hlast =>
    ⟨fun ask repository => ?_, fun owner name hq => ?_⟩⟩
  · exact fun hsends hanswers => polled hsends hanswers hlast
  · exact fun hanswers => polled (Client.sends_statistics hq w) hanswers hlast

end Analyzer

/-! ## Worlds that answer in sequence -/

/-- A world that counts its responses. -/
def tally : World Nat where
  reply _ s := (.ok ⟨s, [], []⟩, s + 1)
  clock s := (default, s)
  turn s := (true, s)

/-- An action that has its results in a sequence in that world. -/
def scripted (answers : Nat → α) (q : Request) : Action α :=
  (fun r => answers r.status) <$> Action.send q

/-- An action whose runs are numbered by the state has the results with those numbers. -/
theorem answers_of_run {w : World Nat} {x : Action α} {q : Request} {answers : Nat → α}
    (h : ∀ i, w.run x.attempt i = ⟨.ok (answers i), [.sent q], i + 1⟩) (last : Nat) :
    w.Sends x q ∧ w.Answers x 0 answers last := by
  have hstate (i : Nat) : w.stateAfter x 0 i = i := by
    induction i with
    | zero => rfl
    | succ i ih => rw [World.stateAfter, ih, h]
  exact ⟨fun i => by rw [h], fun i _ => by rw [hstate, h]⟩

/-- **Every sequence of answers occurs.** -/
theorem answers_scripted (answers : Nat → α) (q : Request) (last : Nat) :
    tally.Sends (scripted answers q) q ∧ tally.Answers (scripted answers q) 0 answers last :=
  answers_of_run (fun _ => rfl) last

/-- The status of each response of a server that has the statistics at the third request. -/
def countingStatus : Nat → Nat
  | 0 | 1 => 202
  | _ => 204

/-- A world with that server. -/
def counting : World Nat where
  reply _ s := (.ok ⟨countingStatus s, [], []⟩, s + 1)
  clock s := (default, s)
  turn s := (true, s)

/-- What it answers. -/
def countingAnswers : Nat → StatisticsAnswer
  | 0 | 1 => .notReady
  | _ => .ready []

theorem run_counting (i : Nat) :
    counting.run (hasty.statistics "o" "n").attempt i =
      ⟨.ok (countingAnswers i), [.sent hastyStatistics], i + 1⟩ := by
  rw [Client.attempt_statistics reaches_statistics]
  match i with
  | 0 => rfl
  | 1 => rfl
  | _ + 2 => rfl

theorem answers_counting (last : Nat) :
    counting.Answers (hasty.statistics "o" "n") 0 countingAnswers last :=
  (answers_of_run run_counting last).2

/-- An analyzer that asks up to so many times. -/
def asking (attempts : Int) : Analyzer := ⟨hasty, attempts, .whole 2⟩

/-- Answers of which the second is that there are no statistics. -/
def failing : Nat → StatisticsAnswer
  | 0 => .notReady
  | _ => .failed (.status 500)

theorem poll_bounded_counting :
    let patient := counting.run ((asking 5).poll "o" "n").attempt 0
    let impatient := counting.run ((asking (-1)).poll "o" "n").attempt 0
    let failed := tally.run ((asking 5).pollFrom (scripted failing default) "o/n" 5).attempt 0
    patient.value = .ok (some []) ∧ patient.requests = List.replicate 3 hastyStatistics ∧
      patient.sleeps = [.whole 2, .whole 2] ∧
    impatient.value = .ok none ∧ impatient.requests = [hastyStatistics] ∧ impatient.sleeps = [] ∧
    failed.value = .ok none ∧ failed.requests = [default, default] ∧ failed.sleeps = [.whole 2] := by
  obtain ⟨-, hpatient⟩ :=
    Analyzer.poll_bounded (asking 5) countingAnswers counting 0 hastyStatistics
  obtain ⟨-, himpatient⟩ :=
    Analyzer.poll_bounded (asking (-1)) countingAnswers counting 0 hastyStatistics
  obtain ⟨-, hfailed⟩ := Analyzer.poll_bounded (asking 5) failing tally 0 default
  have h₂ := (hpatient 2 ⟨by decide, by decide, by decide⟩).2 "o" "n" reaches_statistics
    (answers_counting 2)
  have h₀ := (himpatient 0 ⟨by decide, by decide, by decide⟩).2 "o" "n" reaches_statistics
    (answers_counting 0)
  obtain ⟨hsends, hanswers⟩ := answers_scripted failing default 1
  have h₁ := (hfailed 1 ⟨by decide, by decide, by decide⟩).1 _ "o/n" hsends hanswers
  exact ⟨h₂.value, h₂.requests, h₂.sleeps, h₀.value, h₀.requests, h₀.sleeps, h₁.value,
    h₁.requests, h₁.sleeps⟩

end GitHub

end PackageVitals
