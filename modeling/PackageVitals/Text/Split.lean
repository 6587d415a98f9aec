/-!
# Splitting text

A text is cut at every occurrence of a character (`splitAll`) or once at the
first (`splitFirst`), or something is taken off its start: a given text
(`after?`) or a run of characters of a class (`run?`). Nothing is lost or
invented in any of these.
-/

namespace PackageVitals.Text

/-- The pieces of a text between the occurrences of a character. There is
always one piece more than occurrences. -/
def splitAll (x : Char) : List Char → List (List Char)
  | [] => [[]]
  | c :: rest =>
    if c == x then [] :: splitAll x rest
    else match splitAll x rest with
      | [] => [[c]]
      | piece :: pieces => (c :: piece) :: pieces

/-- What stands before the first occurrence of a character, and what
stands after it if it occurs. -/
def splitFirst (x : Char) (s : List Char) : List Char × Option (List Char) :=
  match s.dropWhile (· != x) with
  | [] => (s, none)
  | _ :: rest => (s.takeWhile (· != x), some rest)

/-- The rest of a text after one that stands at its start. -/
def after? (start s : List Char) : Option (List Char) :=
  if start.isPrefixOf s then some (s.drop start.length) else none

/-- A nonempty run of characters of a class, and the rest. -/
def run? (p : Char → Bool) (s : List Char) : Option (List Char × List Char) :=
  match s.takeWhile p with
  | [] => none
  | c :: cs => some (c :: cs, s.dropWhile p)

/-- Whether one text occurs inside another. -/
def occursIn (needle : List Char) : List Char → Bool
  | [] => needle.isEmpty
  | c :: rest => needle.isPrefixOf (c :: rest) || occursIn needle rest

theorem splitAll_ne_nil (x : Char) (s : List Char) : splitAll x s ≠ [] := by
  induction s with
  | nil => simp [splitAll]
  | cons c rest ih =>
    unfold splitAll
    split
    · simp
    · split <;> simp

/-- A character that is not the one to split at goes on the first piece. -/
theorem splitAll_cons_of_ne {x c : Char} (h : c ≠ x) (rest : List Char) :
    ∃ piece pieces, splitAll x rest = piece :: pieces ∧
      splitAll x (c :: rest) = (c :: piece) :: pieces := by
  cases hs : splitAll x rest with
  | nil => exact absurd hs (splitAll_ne_nil x rest)
  | cons piece pieces => exact ⟨piece, pieces, rfl, by simp [splitAll, h, hs]⟩

/-- **Nothing is lost**: the pieces make up the text. -/
theorem intercalate_splitAll (x : Char) (s : List Char) : [x].intercalate (splitAll x s) = s := by
  induction s with
  | nil => rfl
  | cons c rest ih =>
    by_cases h : c = x
    · subst h
      cases hs : splitAll c rest with
      | nil => exact absurd hs (splitAll_ne_nil c rest)
      | cons piece pieces =>
        rw [hs] at ih
        simpa [splitAll, hs, List.intercalate] using ih
    · obtain ⟨piece, pieces, hr, hc⟩ := splitAll_cons_of_ne h rest
      rw [hr] at ih
      rw [hc]
      cases pieces with
      | nil => simpa [List.intercalate] using ih
      | cons p ps => simpa [List.intercalate] using ih

/-- No piece holds the character that the text is split at. -/
theorem not_mem_of_mem_splitAll {x : Char} {s piece : List Char} (h : piece ∈ splitAll x s) :
    x ∉ piece := by
  induction s generalizing piece with
  | nil => simp [splitAll] at h; simp [h]
  | cons c rest ih =>
    by_cases hc : c = x
    · subst hc
      simp only [splitAll, beq_self_eq_true, ↓reduceIte, List.mem_cons] at h
      rcases h with rfl | h
      · simp
      · exact ih h
    · obtain ⟨p, ps, hr, hs⟩ := splitAll_cons_of_ne hc rest
      rw [hs, List.mem_cons] at h
      rcases h with rfl | h
      · have := @ih p (by simp [hr])
        simp [this, Ne.symm hc]
      · exact ih (by simp [hr, h])

/-- Where the character occurs, the pieces before it and after it are those of two texts. -/
theorem splitAll_append (x : Char) (s t : List Char) :
    splitAll x (s ++ x :: t) = splitAll x s ++ splitAll x t := by
  induction s with
  | nil => simp [splitAll]
  | cons c s ih =>
    rw [List.cons_append]
    by_cases hc : c = x
    · subst hc
      simp [splitAll, ih]
    · obtain ⟨p, ps, hs, hcs⟩ := splitAll_cons_of_ne hc s
      rw [hcs, splitAll, ih, hs]
      simp [hc]

/-- A text that goes on anywhere else goes on in its last piece. -/
theorem splitAll_append_eq (x : Char) (s t : List Char) : ∃ before last first after,
    splitAll x s = before ++ [last] ∧ splitAll x t = first :: after ∧
      splitAll x (s ++ t) = before ++ (last ++ first) :: after := by
  induction s with
  | nil =>
    obtain ⟨first, after, ht⟩ := List.exists_cons_of_ne_nil (splitAll_ne_nil x t)
    exact ⟨[], [], first, after, rfl, ht, ht⟩
  | cons c s ih =>
    obtain ⟨before, last, first, after, hs, ht, hst⟩ := ih
    by_cases hc : c = x
    · exact ⟨[] :: before, last, first, after, by simp [splitAll, hc, hs], ht,
        by simp [splitAll, hc, hst]⟩
    · cases before with
      | nil =>
        exact ⟨[], c :: last, first, after, by simp [splitAll, hc, hs], ht,
          by simp [splitAll, hc, hst]⟩
      | cons p before =>
        exact ⟨(c :: p) :: before, last, first, after, by simp [splitAll, hc, hs], ht,
          by simp [splitAll, hc, hst]⟩

/-- A text without the character is one piece. -/
theorem splitAll_of_not_mem {x : Char} {s : List Char} (h : x ∉ s) : splitAll x s = [s] := by
  induction s with
  | nil => rfl
  | cons c s ih =>
    have hc : c ≠ x := fun hcx => h (hcx ▸ List.mem_cons_self)
    have hs : x ∉ s := fun hmem => h (List.mem_cons_of_mem _ hmem)
    simp [splitAll, hc, ih hs]

/-- **The first piece** is all of a text without the character, or what stands before its first
occurrence. -/
theorem splitAll_eq_cons_iff {x : Char} {s p : List Char} {ps : List (List Char)} :
    splitAll x s = p :: ps ↔
      x ∉ p ∧ (s = p ∧ ps = [] ∨ ∃ t, s = p ++ x :: t ∧ splitAll x t = ps) := by
  constructor
  · intro h
    refine ⟨not_mem_of_mem_splitAll (h ▸ List.mem_cons_self), ?_⟩
    by_cases hmem : x ∈ s
    · obtain ⟨q, t, rfl, hq⟩ := List.eq_append_cons_of_mem hmem
      rw [splitAll_append, splitAll_of_not_mem hq] at h
      obtain ⟨rfl, ht⟩ := List.cons.inj h
      exact .inr ⟨t, rfl, ht⟩
    · rw [splitAll_of_not_mem hmem] at h
      obtain ⟨hp, hps⟩ := List.cons.inj h
      exact .inl ⟨hp, hps.symm⟩
  · rintro ⟨hp, ⟨rfl, rfl⟩ | ⟨t, rfl, rfl⟩⟩
    · exact splitAll_of_not_mem hp
    · rw [splitAll_append, splitAll_of_not_mem hp]
      rfl

/-- **Nothing is invented**: pieces that do not hold the character are found again. -/
theorem splitAll_intercalate {x : Char} {pieces : List (List Char)} (hne : pieces ≠ [])
    (h : ∀ p ∈ pieces, x ∉ p) : splitAll x ([x].intercalate pieces) = pieces := by
  induction pieces with
  | nil => exact absurd rfl hne
  | cons p ps ih =>
    have hp := splitAll_of_not_mem (h p List.mem_cons_self)
    cases ps with
    | nil => rw [List.intercalate_singleton, hp]
    | cons q qs =>
      rw [List.intercalate_cons_cons, List.append_assoc, List.singleton_append, splitAll_append, hp,
        ih (List.cons_ne_nil q qs) fun r hr => h r (List.mem_cons_of_mem _ hr)]
      rfl

/-- What stands before the first occurrence does not hold the character. -/
theorem splitFirst_append_cons {x : Char} {s : List Char} (h : x ∉ s) (t : List Char) :
    splitFirst x (s ++ x :: t) = (s, some t) := by
  have hs : ∀ c ∈ s, (c != x) = true := fun c hc => bne_iff_ne.mpr fun hcx => h (hcx ▸ hc)
  rw [splitFirst, List.dropWhile_append_of_pos hs, List.takeWhile_append_of_pos hs]
  simp

theorem splitFirst_of_not_mem {x : Char} {s : List Char} (h : x ∉ s) :
    splitFirst x s = (s, none) := by
  have hs : ∀ c ∈ s, (c != x) = true := fun c hc => bne_iff_ne.mpr fun hcx => h (hcx ▸ hc)
  rw [splitFirst, ← List.append_nil s, List.dropWhile_append_of_pos hs]
  rfl

/-- A text occurs inside another if that is something, the text, and something. -/
theorem occursIn_iff {needle s : List Char} : occursIn needle s = true ↔ needle <:+: s := by
  induction s with
  | nil => simp [occursIn]
  | cons c rest ih =>
    rw [occursIn, Bool.or_eq_true, ih, List.isPrefixOf_iff_prefix, List.infix_cons_iff]

/-- The start is what stands before the rest. -/
theorem after?_eq_some_iff {start s rest : List Char} :
    after? start s = some rest ↔ s = start ++ rest := by
  constructor
  · intro h
    simp only [after?, Option.ite_none_right_eq_some, List.isPrefixOf_iff_prefix,
      Option.some.injEq] at h
    obtain ⟨⟨t, rfl⟩, h⟩ := h
    simpa using h
  · rintro rfl
    simp [after?]

section Runs

variable {p : α → Bool} {run rest : List α} (hrun : ∀ c ∈ run, p c = true)
  (hrest : ∀ c, rest.head? = some c → p c = false)

include hrun hrest

/-- A run is taken as far as it goes. -/
theorem takeWhile_append_of_head? : (run ++ rest).takeWhile p = run := by
  rw [List.takeWhile_append_of_pos hrun]
  cases rest with
  | nil => simp
  | cons c cs => simp [hrest c rfl]

/-- What is left of a run is what follows it. -/
theorem dropWhile_append_of_head? : (run ++ rest).dropWhile p = rest := by
  rw [List.dropWhile_append_of_pos hrun]
  cases rest with
  | nil => rfl
  | cons c cs => simp [hrest c rfl]

end Runs

/-- **A run is all that can be taken**: the run and the rest are the text, all
of the run is of the class, and the rest starts with nothing of it. -/
theorem run?_eq_some_iff {p : Char → Bool} {s run rest : List Char} :
    run? p s = some (run, rest) ↔
      s = run ++ rest ∧ run ≠ [] ∧ (∀ c ∈ run, p c = true) ∧
        ∀ c, rest.head? = some c → p c = false := by
  constructor
  · intro h
    have hs : s.takeWhile p = run ∧ s.dropWhile p = rest ∧ run ≠ [] := by
      unfold run? at h
      split at h
      · contradiction
      · next c cs hc =>
        simp only [Option.some.injEq, Prod.mk.injEq] at h
        exact ⟨hc.trans h.1, h.2, by simp [← h.1]⟩
    obtain ⟨rfl, rfl, hne⟩ := hs
    refine ⟨(List.takeWhile_append_dropWhile).symm, hne, fun c hc => ?_, fun c hc => ?_⟩
    · exact List.all_eq_true.mp List.all_takeWhile c hc
    · have := List.head?_dropWhile_not p s
      rw [hc] at this
      simpa using this
  · rintro ⟨rfl, hne, hall, hrest⟩
    unfold run?
    rw [takeWhile_append_of_head? hall hrest, dropWhile_append_of_head? hall hrest]
    cases run with
    | nil => contradiction
    | cons c cs => rfl

/-- Two texts that are cut at their first character of a class are cut alike. -/
theorem append_inj_of_class {p : α → Bool} {s s' t t' : List α} {x y : α}
    (hs : ∀ c ∈ s, p c = false) (hs' : ∀ c ∈ s', p c = false) (hx : p x = true)
    (hy : p y = true) (h : s ++ x :: t = s' ++ y :: t') : s = s' ∧ x = y ∧ t = t' := by
  have htake {s t : List α} {x : α} (hs : ∀ c ∈ s, p c = false) (hx : p x = true) :
      (s ++ x :: t).takeWhile (!p ·) = s := by
    rw [List.takeWhile_append_of_pos fun c hc => by simp [hs c hc]]
    simp [hx]
  obtain rfl : s = s' := (htake hs hx).symm.trans ((congrArg _ h).trans (htake hs' hy))
  obtain ⟨rfl, rfl⟩ := List.cons.inj (List.append_cancel_left h)
  exact ⟨rfl, rfl, rfl⟩

end PackageVitals.Text
