import PackageVitals.Proofs.Ensures

/-!
# What a world is going to say

To compare what comes of a program in two worlds one has to say which of
their answers are the same. A **script** says what a world replies to each
request, each time that it is sent, and a world that keeps to a script
(`World.scripted`) has a clock that stands still and takes turns in any way
it likes.

The replies to one request do not depend on what else is asked. Of several
programs at once that ask for different things each gets, therefore, what
the script says about its own requests, whatever the turns were
(`Interleaved.repliesTo_eq`). A program that takes no turns itself and does
not look at the clock (`Program.Within`) then comes to the same wherever the
scripts say the same about what it asks (`Program.Within.result_eq`).
-/

namespace PackageVitals

/-! ## Scripts -/

/-- **A script**: the reply to each request, each time that it is sent. -/
abbrev Script := Request → Nat → Reply

/-- What a script says once a request has been replied to. -/
def Script.after (A : Script) (q : Request) : Script :=
  fun q' n => if q' = q then A q' (n + 1) else A q' n

/-- **A world that keeps to a script.** The script is its state, besides that
of its turns. -/
def World.scripted (now : Timestamp) (turn : τ → Bool × τ) : World (Script × τ) where
  reply q s := (s.1 q 0, (s.1.after q, s.2))
  clock s := (now, s)
  turn s := let r := turn s.2; (r.1, (s.1, r.2))

/-- Scripts that say the same about a request still do when another one, or
the same, has been replied to. -/
theorem Script.after_congr {A B : Script} {q q' : Request} (h : A q' = B q') :
    A.after q q' = B.after q q' := by
  funext n
  unfold after
  rw [h]

/-! ## Courses one after the other -/

namespace Interleaves

/-- One list after the other is one way to take turns. -/
theorem append (xs ys : List α) : Interleaves xs ys (xs ++ ys) := by
  induction xs with
  | nil => exact .nil_left ys
  | cons x xs ih => exact .left ih

theorem append_right {xs ys zs : List α} (h : Interleaves xs ys zs) (ws : List α) :
    Interleaves xs (ys ++ ws) (zs ++ ws) := by
  induction h with
  | nil => exact .nil_left ws
  | left _ ih => exact .left ih
  | right _ ih => exact .right ih

theorem append_left {xs ys zs : List α} (h : Interleaves xs ys zs) (ws : List α) :
    Interleaves xs (ws ++ ys) (ws ++ zs) := by
  induction ws with
  | nil => exact h
  | cons w ws ih => exact .right ih

end Interleaves

namespace Interleaved

/-- Interleavings one after the other interleave all their lists. -/
theorem append {ls ms : List (List α)} {xs ys : List α} (h : Interleaved ls xs)
    (h' : Interleaved ms ys) : Interleaved (ls ++ ms) (xs ++ ys) := by
  induction h with
  | nil => exact h'
  | cons h _ ih => exact .cons (h.append_right ys) ih

theorem singleton (xs : List α) : Interleaved [xs] xs :=
  .cons (.nil_right xs) .nil

end Interleaved

/-! ## Replies in a course -/

/-- The reply of a step to a request, if it is one. -/
def Step.replyTo? (q : Request) : Step → Option Reply
  | exchanged q' r => if q' = q then some r else none
  | _ => none

/-- **The replies to a request** in a course. -/
def repliesTo (q : Request) (l : List Step) : List Reply :=
  l.filterMap (Step.replyTo? q)

section Replies

variable {q : Request} {l l₁ l₂ : List Step}

@[simp] theorem repliesTo_nil : repliesTo q [] = [] := rfl

@[simp] theorem repliesTo_append :
    repliesTo q (l₁ ++ l₂) = repliesTo q l₁ ++ repliesTo q l₂ :=
  List.filterMap_append

/-- A request that is not sent has no replies. -/
theorem repliesTo_eq_nil (h : ∀ r, .exchanged q r ∉ l) : repliesTo q l = [] := by
  unfold repliesTo
  rw [List.filterMap_eq_nil_iff]
  intro x hx
  cases x with
  | exchanged q' r =>
    refine if_neg ?_
    rintro rfl
    exact h r hx
  | _ => rfl

namespace Interleaves

/-- What is asked in the first of two courses only gets the replies that it
gets there. -/
theorem repliesTo_left (h : Interleaves l₁ l₂ l) (h₂ : repliesTo q l₂ = []) :
    repliesTo q l = repliesTo q l₁ := by
  unfold repliesTo at h₂ ⊢
  induction h with
  | nil => rfl
  | left _ ih => rw [List.filterMap_cons, List.filterMap_cons, ih h₂]
  | @right x _ _ _ _ ih =>
    rw [List.filterMap_cons] at h₂ ⊢
    cases hx : Step.replyTo? q x with
    | none =>
      rw [hx] at h₂
      exact ih h₂
    | some r => simp [hx] at h₂

/-- So does what is asked in the second only. -/
theorem repliesTo_right (h : Interleaves l₁ l₂ l) (h₁ : repliesTo q l₁ = []) :
    repliesTo q l = repliesTo q l₂ := by
  unfold repliesTo at h₁ ⊢
  induction h with
  | nil => rfl
  | @left x _ _ _ _ ih =>
    rw [List.filterMap_cons] at h₁ ⊢
    cases hx : Step.replyTo? q x with
    | none =>
      rw [hx] at h₁
      exact ih h₁
    | some r => simp [hx] at h₁
  | right _ ih => rw [List.filterMap_cons, List.filterMap_cons, ih h₁]

end Interleaves

namespace Interleaved

theorem repliesTo_eq_nil {ls : List (List Step)} (h : Interleaved ls l)
    (hls : ∀ l' ∈ ls, repliesTo q l' = []) : repliesTo q l = [] := by
  induction h with
  | nil => rfl
  | cons h _ ih =>
    obtain ⟨h₁, h₂⟩ := List.forall_mem_cons.mp hls
    rw [h.repliesTo_left (ih h₂), h₁]

/-- **What is asked in one course only gets the replies that it gets
there**, whatever the turns of the courses. -/
theorem repliesTo_eq {before later : List (List Step)} {mine : List Step}
    (h : Interleaved (before ++ mine :: later) l) (hbefore : ∀ l' ∈ before, repliesTo q l' = [])
    (hlater : ∀ l' ∈ later, repliesTo q l' = []) : repliesTo q l = repliesTo q mine := by
  induction before generalizing l with
  | nil =>
    obtain _ | ⟨hl, hrest⟩ := h
    exact hl.repliesTo_left (hrest.repliesTo_eq_nil hlater)
  | cons b before ih =>
    obtain _ | ⟨hl, hrest⟩ := h
    obtain ⟨hb, hbefore⟩ := List.forall_mem_cons.mp hbefore
    rw [hl.repliesTo_right hb, ih hrest hbefore]

/-- The same for courses that are given by an index. -/
theorem repliesTo_of_mem {is : List ι} {log : ι → List Step} {others : List (List Step)}
    (h : Interleaved (is.map log ++ others) l) (hnodup : is.Nodup) {i : ι} (hi : i ∈ is)
    (hlogs : ∀ j ∈ is, j ≠ i → repliesTo q (log j) = [])
    (hothers : ∀ l' ∈ others, repliesTo q l' = []) : repliesTo q l = repliesTo q (log i) := by
  obtain ⟨before, later, rfl⟩ := List.append_of_mem hi
  obtain ⟨-, hlater, hdisjoint⟩ := List.nodup_append.mp hnodup
  rw [List.map_append, List.map_cons, List.append_assoc, List.cons_append] at h
  refine h.repliesTo_eq (fun l' hl' => ?_) (fun l' hl' => ?_)
  · obtain ⟨j, hj, rfl⟩ := List.mem_map.mp hl'
    exact hlogs j (List.mem_append_left _ hj) (hdisjoint j hj i List.mem_cons_self)
  · rcases List.mem_append.mp hl' with hl' | hl'
    · obtain ⟨j, hj, rfl⟩ := List.mem_map.mp hl'
      refine hlogs j (List.mem_append_right _ (List.mem_cons_of_mem i hj)) ?_
      rintro rfl
      exact (List.nodup_cons.mp hlater).1 hj
    · exact hothers l' hl'

end Interleaved

end Replies

/-! ## Courses that keep to a script -/

/-- **Whether the replies of a course are those of a script.** -/
def Follows (A : Script) (l : List Step) : Prop :=
  ∀ q n r, (repliesTo q l)[n]? = some r → r = A q n

/-- A course keeps to a script if what comes first does, and the rest keeps
to what the script says then. -/
theorem follows_exchanged {A : Script} {q : Request} {r : Reply} {l : List Step} :
    Follows A (.exchanged q r :: l) ↔ r = A q 0 ∧ Follows (A.after q) l := by
  have hself : repliesTo q (.exchanged q r :: l) = r :: repliesTo q l := by
    simp [repliesTo, Step.replyTo?]
  have hother {q' : Request} (hq : q' ≠ q) :
      repliesTo q' (.exchanged q r :: l) = repliesTo q' l := by
    simp [repliesTo, Step.replyTo?, Ne.symm hq]
  constructor
  · intro h
    refine ⟨h q 0 r (by rw [hself]; rfl), fun q' n r' hr => ?_⟩
    unfold Script.after
    split
    · next hq =>
      subst hq
      exact h q' (n + 1) r' (by rw [hself]; exact hr)
    · next hq => exact h q' n r' (by rw [hother hq]; exact hr)
  · rintro ⟨hr, h⟩ q' n r' hr'
    by_cases hq : q' = q
    · subst hq
      rw [hself] at hr'
      cases n with
      | zero => exact (Option.some.inj hr').symm.trans hr
      | succ n =>
        have := h q' n r' hr'
        rwa [Script.after, if_pos rfl] at this
    · rw [hother hq] at hr'
      have := h q' n r' hr'
      rwa [Script.after, if_neg hq] at this

theorem Follows.of_repliesTo_eq {A : Script} {l l' : List Step} (h : Follows A l)
    (hl : ∀ q, repliesTo q l' = repliesTo q l ∨ repliesTo q l' = []) : Follows A l' := by
  intro q n r hr
  rcases hl q with hq | hq
  · exact h q n r (hq ▸ hr)
  · rw [hq] at hr
    cases hr

namespace World

variable {now : Timestamp} {turn : τ → Bool × τ}

/-- The steps of one program after the other. -/
theorem log_andThen (w : World σ) (p : Program α) (f : α → Program β) (s : σ) :
    w.log (p.andThen f) s = w.log p s ++ w.log (f (w.run p s).value) (w.run p s).state := by
  induction p generalizing s with
  | done a => rfl
  | send q next ih => exact congrArg (_ :: ·) (ih _ _)
  | sleep d next ih => exact congrArg (_ :: ·) (ih s)
  | note n next ih => exact congrArg (_ :: ·) (ih s)
  | now next ih => exact congrArg (_ :: ·) (ih _ _)
  | pause next ih => exact ih s
  | turn next ih => exact ih _ _

/-- **Every run keeps to the script of its world.** -/
theorem follows_log (p : Program α) (A : Script) (t : τ) :
    Follows A ((scripted now turn).log p (A, t)) := by
  induction p generalizing A t with
  | done a => exact fun q n r hr => absurd hr (by simp [log])
  | send q next ih => exact follows_exchanged.mpr ⟨rfl, ih _ _ _⟩
  | sleep d next ih => exact fun q => ih A t q
  | note n next ih => exact fun q => ih A t q
  | now next ih => exact fun q => ih _ A t q
  | pause next ih => exact ih A t
  | turn next ih => exact ih _ A _

/-- Every run is told the same time. -/
theorem told_log (p : Program α) (s : Script × τ) {t : Timestamp}
    (h : .told t ∈ (scripted now turn).log p s) : t = now := by
  induction p generalizing s with
  | done a => exact absurd h (by simp [log])
  | send q next ih => exact ih _ _ (by simpa [log] using h)
  | sleep d next ih => exact ih s (by simpa [log] using h)
  | note n next ih => exact ih s (by simpa [log] using h)
  | now next ih =>
    rcases List.mem_cons.mp h with h | h
    · exact Step.told.inj h
    · exact ih _ _ h
  | pause next ih => exact ih s h
  | turn next ih => exact ih _ _ h

end World

/-! ## Programs that ask within a class -/

namespace Program

variable {Q : Request → Prop}

/-- **Whether a program asks within a class of requests**, takes no turns and
does not look at the clock. -/
def Within (Q : Request → Prop) : Program α → Prop
  | done _ => True
  | send q next => Q q ∧ ∀ r, (next r).Within Q
  | sleep _ next => next.Within Q
  | note _ next => next.Within Q
  | now _ => False
  | pause next => next.Within Q
  | turn _ => False

theorem Within.andThen {p : Program α} {f : α → Program β} (hp : p.Within Q)
    (hf : ∀ a, (f a).Within Q) : (p.andThen f).Within Q := by
  induction p with
  | done a => exact hf a
  | send q next ih => exact ⟨hp.1, fun r => ih r (hp.2 r)⟩
  | sleep d next ih => exact ih hp
  | note n next ih => exact ih hp
  | now next ih => exact hp.elim
  | pause next ih => exact ih hp
  | turn next ih => exact hp.elim

/-- What is sent in a course is of the class. -/
theorem Within.of_mem {p : Program α} (hp : p.Within Q) {l : List Step} {a : α}
    (h : Course p l a) {q : Request} {r : Reply} (hr : .exchanged q r ∈ l) : Q q := by
  induction h with
  | done a => exact absurd hr List.not_mem_nil
  | send _ ih =>
    rcases List.mem_cons.mp hr with he | hr
    · obtain ⟨rfl, rfl⟩ := Step.exchanged.inj he
      exact hp.1
    · exact ih (hp.2 _) hr
  | sleep _ ih => exact ih hp (by simpa using hr)
  | note _ ih => exact ih hp (by simpa using hr)
  | now _ ih => exact hp.elim
  | pause _ ih => exact ih hp hr
  | turn _ ih => exact hp.elim

theorem Within.repliesTo_eq_nil {p : Program α} (hp : p.Within Q) {l : List Step} {a : α}
    (h : Course p l a) {q : Request} (hq : ¬ Q q) : repliesTo q l = [] :=
  PackageVitals.repliesTo_eq_nil fun _ hr => hq (hp.of_mem h hr)

/-- **What a program comes to is in the script of what it asks.** -/
theorem Within.result_eq {p : Program α} (hp : p.Within Q) {A B : Script}
    (hAB : ∀ q, Q q → A q = B q) {l l' : List Step} {a b : α} (h : Course p l a)
    (h' : Course p l' b) (hl : Follows A l) (hl' : Follows B l') : a = b := by
  -- The scripts move on with every request, and still agree on the class.
  induction p generalizing A B l l' with
  | done c =>
    obtain ⟨-, rfl⟩ := course_done_iff.mp h
    obtain ⟨-, rfl⟩ := course_done_iff.mp h'
    rfl
  | send q next ih =>
    obtain ⟨r, m, rfl, hc⟩ := course_send_iff.mp h
    obtain ⟨r', m', rfl, hc'⟩ := course_send_iff.mp h'
    obtain ⟨rfl, hm⟩ := follows_exchanged.mp hl
    obtain ⟨rfl, hm'⟩ := follows_exchanged.mp hl'
    rw [hAB q hp.1] at hc
    exact ih _ (hp.2 _) (fun q' hq' => Script.after_congr (hAB q' hq')) hc hc' hm hm'
  | sleep d next ih =>
    obtain ⟨m, rfl, hc⟩ := course_sleep_iff.mp h
    obtain ⟨m', rfl, hc'⟩ := course_sleep_iff.mp h'
    exact ih hp hAB hc hc' (fun q => hl q) (fun q => hl' q)
  | note n next ih =>
    obtain ⟨m, rfl, hc⟩ := course_note_iff.mp h
    obtain ⟨m', rfl, hc'⟩ := course_note_iff.mp h'
    exact ih hp hAB hc hc' (fun q => hl q) (fun q => hl' q)
  | now next ih => exact hp.elim
  | pause next ih => exact ih hp hAB (course_pause_iff.mp h) (course_pause_iff.mp h') hl hl'
  | turn next ih => exact hp.elim

end Program

namespace Action

variable {Q : Request → Prop}

/-- Whether an action asks within a class of requests. -/
def Within (Q : Request → Prop) (a : Action α) : Prop :=
  a.attempt.Within Q

theorem Within.bind {x : Action α} {f : α → Action β} (hx : Within Q x)
    (hf : ∀ a, Within Q (f a)) : Within Q (x >>= f) := by
  show (x >>= f).attempt.Within Q
  rw [attempt_bind]
  refine Program.Within.andThen hx fun e => ?_
  cases e with
  | ok a => exact hf a
  | error e => trivial

theorem Within.map {x : Action α} (f : α → β) (hx : Within Q x) : Within Q (f <$> x) := by
  show (f <$> x).attempt.Within Q
  rw [attempt_map]
  exact Program.Within.andThen hx fun _ => trivial

@[simp] theorem within_ofExcept {e : Except Failure α} : Within Q (ofExcept e) := trivial

end Action

end PackageVitals
