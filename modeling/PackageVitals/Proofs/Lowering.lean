import PackageVitals.Proofs.Reaching

/-!
# Lower case of lower case

A text in lower case is **left alone by lower case** (`Text.lower_lower`). Character by character
this is a fact about the table of shifts: nothing that one of them ends at is moved by another
(`Text.spares_of_mem_lowerShifts`). It is a fact about texts only because the one capital whose
lower case depends on what stands around it, the sigma, does not stand in lower case, so a
character of a text in lower case is its own lower case wherever it stands (`Text.IsLower`).

Nor does lower case touch what stands at the ends: a text without blanks around it has none
around it in lower case (`Text.trim_lower_trim`).
-/

namespace PackageVitals

namespace Text

/-! ## Characters -/

/-- Whether a shift moves none of the code points from `first` to `last`, or none of every other
one of them. -/
def CaseShift.spares (t : CaseShift) (first last : Nat) (alternating : Bool) : Bool :=
  last.blt t.first || t.last.blt first ||
    alternating && t.stride.beq 2 && ((first + t.first) % 2).beq 1

theorem CaseShift.covers_of_spares {t : CaseShift} {first last n : Nat} {alternating : Bool}
    (h : t.spares first last alternating = true) (hfirst : first ≤ n) (hlast : n ≤ last)
    (hn : alternating = true → (n - first) % 2 = 0) : t.covers n = false := by
  rw [Bool.eq_false_iff]
  intro hcover
  simp only [covers, Bool.and_eq_true, decide_eq_true_eq, beq_iff_eq] at hcover
  simp only [spares, Bool.or_eq_true, Bool.and_eq_true, Nat.blt_eq, Nat.beq_eq] at h
  rcases h with (h | h) | ⟨⟨halternating, hstride⟩, h⟩
  · omega
  · omega
  · have := hn halternating
    rw [hstride] at hcover
    omega

/-- **What the shifts to lower case end at is moved by none of them.** -/
theorem spares_of_mem_lowerShifts : ∀ s ∈ lowerShifts, ∀ t ∈ lowerShifts,
    t.spares (s.first + s.distance).toNat (s.last + s.distance).toNat
      (s.stride == 2 || s.first == s.last) = true := by
  have h : (lowerShifts.all fun s => lowerShifts.all fun t =>
      t.spares (s.first + s.distance).toNat (s.last + s.distance).toNat
        (s.stride == 2 || s.first == s.last)) = true := by
    decide +kernel
  simpa only [List.all_eq_true] using h

/-- Nor is it blank, or the capital that becomes two characters. -/
theorem apart_of_mem_lowerShifts : ∀ s ∈ lowerShifts,
    ∀ r ∈ (304, 304) :: (28, 31) :: spaceRanges,
      (s.last : Int) + s.distance < (r.1 : Nat) ∨
        ((r.2 : Nat) : Int) < s.first + s.distance := by
  decide +kernel

/-- **Whether a character is in lower case**: it is its own lower case, wherever it stands. -/
def IsLower (c : Char) : Prop :=
  c ≠ 'Σ' ∧ lowerChar c = [c]

instance (c : Char) : Decidable (IsLower c) :=
  inferInstanceAs (Decidable (_ ∧ _))

/-- What no shift covers is in lower case, but for the capital that becomes two characters. -/
theorem isLower_of_not_covers {c : Char} (h : ∀ s ∈ lowerShifts, s.covers c.toNat = false)
    (hne : c ≠ 'İ') : IsLower c := by
  constructor
  · rintro rfl
    exact absurd h (by decide +kernel)
  · unfold lowerChar
    split
    · next hascii =>
      have hletter := h ⟨65, 90, 1, 32⟩ List.mem_cons_self
      exact congrArg (fun d => [d]) (Url.forall_ascii
        (p := fun c => CaseShift.covers ⟨65, 90, 1, 32⟩ c.toNat = false → c.toLower = c)
        (by decide) hascii hletter)
    · rw [if_neg (by simpa using hne), CaseShift.move,
        List.find?_eq_none.mpr fun s hs => by simp [h s hs]]

/-- **Lower case is in lower case**, character by character. -/
theorem isLower_of_mem_lowerChar {c d : Char} (h : d ∈ lowerChar c) : IsLower d := by
  unfold lowerChar at h
  split at h
  · next hascii =>
    obtain rfl := List.mem_singleton.mp h
    exact Url.forall_ascii (p := fun c => IsLower c.toLower) (by decide +kernel) hascii
  · split at h
    · have hboth : ∀ d ∈ ['i', '\u0307'], IsLower d :=
        List.forall_mem_cons.mpr
          ⟨by decide +kernel, List.forall_mem_singleton.mpr (by decide +kernel)⟩
      exact hboth d h
    · next hne =>
      obtain rfl := List.mem_singleton.mp h
      rcases move_lowerShifts_cases c with ⟨s, hs, hcover, hto⟩ | ⟨hno, hstay⟩
      · have hcapital := apart_of_mem_lowerShifts s hs (304, 304) (by simp)
        have hstart : 31 < (s.first : Int) + s.distance := by
          rcases targets_of_mem_lowerShifts s hs with h | h | h <;> omega
        simp only [CaseShift.covers, Bool.and_eq_true, decide_eq_true_eq, beq_iff_eq] at hcover
        refine isLower_of_not_covers (fun t ht => ?_) fun he => ?_
        · refine CaseShift.covers_of_spares (spares_of_mem_lowerShifts s hs t ht) (by omega)
            (by omega) fun halternating => ?_
          rw [Bool.or_eq_true, beq_iff_eq, beq_iff_eq] at halternating
          rcases halternating with hstride | hsingle
          · rw [hstride] at hcover
            omega
          · omega
        · have : (CaseShift.move lowerShifts c).toNat = 304 := by rw [he]; decide
          omega
      · rw [hstay]
        exact isLower_of_not_covers hno (by simpa using hne)

/-- Lower case turns nothing into a blank. -/
theorem isBlank_of_mem_lowerChar {c d : Char} (h : d ∈ lowerChar c) (hc : isBlank c = false) :
    isBlank d = false := by
  unfold lowerChar at h
  split at h
  · next hascii =>
    obtain rfl := List.mem_singleton.mp h
    exact Url.forall_ascii (p := fun c => isBlank c = false → isBlank c.toLower = false)
      (by decide +kernel) hascii hc
  · split at h
    · have hboth : ∀ d ∈ ['i', '\u0307'], isBlank d = false :=
        List.forall_mem_cons.mpr
          ⟨by decide +kernel, List.forall_mem_singleton.mpr (by decide +kernel)⟩
      exact hboth d h
    · obtain rfl := List.mem_singleton.mp h
      rcases move_lowerShifts_cases c with ⟨s, hs, hcover, hto⟩ | ⟨-, hstay⟩
      · have hapart := apart_of_mem_lowerShifts s hs
        simp only [CaseShift.covers, Bool.and_eq_true, decide_eq_true_eq] at hcover
        have hspace : isSpace (CaseShift.move lowerShifts c) = false := by
          rw [Bool.eq_false_iff]
          intro hspace
          obtain ⟨r, hr, hlo, hhi⟩ := (spaceRanges.has_iff _).mp hspace
          have := hapart r (by simp [hr])
          omega
        rw [isBlank, hspace]
        simp only [Bool.false_or, Bool.and_eq_false_iff, decide_eq_false_iff_not]
        have := hapart (28, 31) (by simp)
        omega
      · rwa [hstay]

/-! ## Texts -/

/-- What the lower case of a text starts with is made of its first character, and keeps to a class
that has the two small sigmas and what the lower case of the character is made of. -/
theorem exists_lowerAfter_of {p : Char → Prop} (hsigma : p 'ς' ∧ p 'σ') {c : Char}
    (hc : ∀ d ∈ lowerChar c, p d) (before rest : List Char) : ∃ here ≠ [],
      lowerAfter before (c :: rest) = here ++ lowerAfter (c :: before) rest ∧
        ∀ d ∈ here, p d := by
  refine ⟨_, ?_, lowerAfter.eq_2 before c rest, ?_⟩
  · split
    · split <;> exact List.cons_ne_nil _ _
    · unfold lowerChar
      split
      · exact List.cons_ne_nil _ _
      · split <;> exact List.cons_ne_nil _ _
  · split
    · split
      · exact List.forall_mem_singleton.mpr hsigma.1
      · exact List.forall_mem_singleton.mpr hsigma.2
    · exact hc

/-- What the lower case of a text starts with is something in lower case, and not blank unless the
first character is. -/
theorem exists_lowerAfter (before : List Char) (c : Char) (rest : List Char) : ∃ here ≠ [],
    lowerAfter before (c :: rest) = here ++ lowerAfter (c :: before) rest ∧
      ∀ d ∈ here, IsLower d ∧ (isBlank c = false → isBlank d = false) := by
  have hsigmas : ∀ d ∈ ['ς', 'σ'], IsLower d ∧ isBlank d = false :=
    List.forall_mem_cons.mpr
      ⟨by decide +kernel, List.forall_mem_singleton.mpr (by decide +kernel)⟩
  refine exists_lowerAfter_of (p := fun d => IsLower d ∧ (isBlank c = false → isBlank d = false))
    ⟨?_, ?_⟩ (fun d hd => ⟨isLower_of_mem_lowerChar hd, isBlank_of_mem_lowerChar hd⟩) before rest
  · exact (hsigmas _ (by simp)).imp_right fun h _ => h
  · exact (hsigmas _ (by simp)).imp_right fun h _ => h

theorem isLower_of_mem_lower {s : List Char} {d : Char} (h : d ∈ lower s) : IsLower d := by
  unfold lower at h
  generalize [] = before at h
  induction s generalizing before with
  | nil => cases h
  | cons c rest ih =>
    obtain ⟨here, -, hlower, hhere⟩ := exists_lowerAfter before c rest
    rw [hlower, List.mem_append] at h
    exact h.elim (fun h => (hhere d h).1) (ih _)

/-- What is in lower case throughout is its own lower case. -/
theorem lower_of_isLower {s : List Char} (h : ∀ c ∈ s, IsLower c) : lower s = s := by
  unfold lower
  generalize [] = before
  induction s generalizing before with
  | nil => rfl
  | cons c rest ih =>
    obtain ⟨⟨hsigma, hc⟩, hrest⟩ := List.forall_mem_cons.mp h
    rw [lowerAfter, if_neg (by simpa using hsigma), hc, ih hrest]
    rfl

/-- **Lower case is left alone by lower case.** -/
theorem lower_lower (s : List Char) : lower (lower s) = lower s :=
  lower_of_isLower fun _ => isLower_of_mem_lower

theorem lowerAfter_eq_nil_iff {before s : List Char} : lowerAfter before s = [] ↔ s = [] := by
  cases s with
  | nil => exact iff_of_true rfl rfl
  | cons c rest =>
    obtain ⟨here, hne, hlower, -⟩ := exists_lowerAfter before c rest
    rw [hlower]
    simp [hne]

/-- The lower case of a text starts with a blank only if the text does. -/
theorem isBlank_head?_lower {s : List Char} (h : ∀ c, s.head? = some c → isBlank c = false)
    {d : Char} (hd : (lower s).head? = some d) : isBlank d = false := by
  cases s with
  | nil => cases hd
  | cons c rest =>
    obtain ⟨here, hne, hlower, hhere⟩ := exists_lowerAfter [] c rest
    obtain ⟨e, here, rfl⟩ := List.exists_cons_of_ne_nil hne
    rw [lower, hlower] at hd
    obtain rfl := Option.some.inj hd
    exact (hhere e (by simp)).2 (h c rfl)

/-- It ends with one only if the text does. -/
theorem isBlank_getLast?_lower {s : List Char}
    (h : ∀ c, s.getLast? = some c → isBlank c = false) {d : Char}
    (hd : (lower s).getLast? = some d) : isBlank d = false := by
  unfold lower at hd
  generalize [] = before at hd
  induction s generalizing before with
  | nil => cases hd
  | cons c rest ih =>
    obtain ⟨here, hne, hlower, hhere⟩ := exists_lowerAfter before c rest
    rw [hlower] at hd
    cases rest with
    | nil =>
      rw [lowerAfter, List.append_nil] at hd
      exact (hhere d (List.mem_of_getLast? hd)).2 (h c rfl)
    | cons c' rest =>
      refine ih (fun e he => h e ?_) (c :: before) ?_
      · rwa [List.getLast?_cons_cons]
      · have hne' : lowerAfter (c :: before) (c' :: rest) ≠ [] :=
          mt lowerAfter_eq_nil_iff.mp (List.cons_ne_nil c' rest)
        rwa [List.getLast?_append, List.getLast?_eq_some_getLast hne', Option.some_or,
          ← List.getLast?_eq_some_getLast hne'] at hd

/-- What has no blanks around it has none around it in lower case. -/
theorem trim_lower_trim (s : List Char) : trim (lower (trim s)) = lower (trim s) := by
  obtain ⟨-, -, -, -, -, hhead, hlast⟩ := exists_trimBy isBlank s
  have h : trimBy isBlank ([] ++ (lower (trim s) ++ [])) = lower (trim s) :=
    trimBy_append nofun nofun (fun c => isBlank_head?_lower hhead) fun c =>
      isBlank_getLast?_lower hlast
  rwa [List.nil_append, List.append_nil] at h

end Text

end PackageVitals
