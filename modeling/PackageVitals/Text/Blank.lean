import PackageVitals.Text.Ranges

/-!
# Blank characters

Two notions of white space meet in the data. Text that a person typed – a
setting, a repository address – is trimmed of **blanks**, which are the
spaces of the Unicode standard together with the four ASCII information
separators. Numbers inside a health record are trimmed of **spaces**
only, the same class without those four.
-/

namespace PackageVitals.Text

/-- The spaces of the Unicode standard. -/
def spaceRanges : Ranges := [
  (9, 13), (32, 32), (133, 133), (160, 160), (5760, 5760), (8192, 8202),
  (8232, 8233), (8239, 8239), (8287, 8287), (12288, 12288)]

/-- Whether a character is a space. -/
def isSpace (c : Char) : Bool :=
  spaceRanges.has c

/-- Whether a character is blank: a space or an information separator. -/
def isBlank (c : Char) : Bool :=
  isSpace c || (28 ≤ c.toNat && c.toNat ≤ 31)

theorem isBlank_of_isSpace {c : Char} (h : isSpace c = true) : isBlank c = true := by
  simp [isBlank, h]

/-- Nothing that ASCII shows is blank. -/
theorem isBlank_of_shown {c : Char} (h : 32 < c.toNat) (h' : c.toNat < 127) :
    isBlank c = false := by
  have hranges : ∀ r ∈ spaceRanges, r.2 ≤ 32 ∨ 127 ≤ r.1 := by decide
  have hspace : isSpace c = false := Bool.eq_false_iff.mpr fun hspace => by
    obtain ⟨r, hr, hlo, hhi⟩ := (spaceRanges.has_iff c).mp hspace
    have := hranges r hr
    omega
  have hmark : ¬ c.toNat ≤ 31 := by omega
  simp [isBlank, hspace, hmark]

/-- Drops the characters of a class from both ends. -/
def trimBy (p : Char → Bool) (s : List Char) : List Char :=
  ((s.dropWhile p).reverse.dropWhile p).reverse

/-- Drops the blanks from both ends. -/
def trim (s : List Char) : List Char :=
  trimBy isBlank s

/-- Drops the given character from the right end. -/
def trimRight (x : Char) (s : List Char) : List Char :=
  (s.reverse.dropWhile (· == x)).reverse

/-- Drops the blanks from both ends of a text. -/
def strip (s : String) : String :=
  String.ofList (trim s.toList)

@[simp] theorem trimBy_nil (p : Char → Bool) : trimBy p [] = [] := rfl

@[simp] theorem trim_nil : trim [] = [] := rfl

/-- What is left after a class is dropped from the start does not start with it. -/
theorem head?_dropWhile_eq_false {p : Char → Bool} {s : List Char} {c : Char}
    (h : (s.dropWhile p).head? = some c) : p c = false := by
  have hfirst := List.head?_dropWhile_not p s
  rw [h] at hfirst
  simpa using hfirst

/-- What is dropped from the end of a text is of the class, and what is left does not end
with it. -/
theorem exists_trimEnd (p : Char → Bool) (s : List Char) : ∃ kept after,
    kept = (s.reverse.dropWhile p).reverse ∧ s = kept ++ after ∧ (∀ c ∈ after, p c = true) ∧
      ∀ c, kept.getLast? = some c → p c = false := by
  refine ⟨_, (s.reverse.takeWhile p).reverse, rfl, ?_, fun c hc => ?_, fun c hc => ?_⟩
  · rw [← List.reverse_append, List.takeWhile_append_dropWhile, List.reverse_reverse]
  · exact List.all_eq_true.mp List.all_takeWhile c (List.mem_reverse.mp hc)
  · exact head?_dropWhile_eq_false (List.getLast?_reverse ▸ hc)

/-- What is dropped from the start and the end of a text is of the class, and what is
left neither starts nor ends with it. -/
theorem exists_trimBy (p : Char → Bool) (s : List Char) : ∃ before after,
    s = before ++ (trimBy p s ++ after) ∧ (∀ c ∈ before, p c = true) ∧
      (∀ c ∈ after, p c = true) ∧ (∀ c, (trimBy p s).head? = some c → p c = false) ∧
        ∀ c, (trimBy p s).getLast? = some c → p c = false := by
  obtain ⟨kept, after, hkept, hrest, hafter, hlast⟩ := exists_trimEnd p (s.dropWhile p)
  obtain rfl : kept = trimBy p s := hkept
  refine ⟨s.takeWhile p, after, ?_, List.all_eq_true.mp List.all_takeWhile, hafter, ?_, hlast⟩
  · rw [← hrest, List.takeWhile_append_dropWhile]
  · intro c hc
    refine head?_dropWhile_eq_false (s := s) ?_
    rw [hrest, List.head?_append, hc]
    rfl

/-- A text that starts with nothing of a class keeps its start. -/
theorem dropWhile_of_head? {p : Char → Bool} {s : List Char}
    (h : ∀ c, s.head? = some c → p c = false) : s.dropWhile p = s := by
  cases s with
  | nil => rfl
  | cons c s => exact List.dropWhile_cons_of_neg (by simp [h c rfl])

/-- Dropping from both ends leaves no other choice. -/
theorem trimBy_append {p : Char → Bool} {before middle after : List Char}
    (hbefore : ∀ c ∈ before, p c = true) (hafter : ∀ c ∈ after, p c = true)
    (hhead : ∀ c, middle.head? = some c → p c = false)
    (hlast : ∀ c, middle.getLast? = some c → p c = false) :
    trimBy p (before ++ (middle ++ after)) = middle := by
  have hafter' : ∀ c ∈ after.reverse, p c = true := fun c hc => hafter c (List.mem_reverse.mp hc)
  rw [trimBy, List.dropWhile_append_of_pos hbefore]
  cases middle with
  | nil =>
    rw [List.nil_append, ← List.append_nil after, List.dropWhile_append_of_pos hafter]
    rfl
  | cons c middle =>
    rw [List.cons_append, List.dropWhile_cons_of_neg (by simp [hhead c rfl]), ← List.cons_append,
      List.reverse_append, List.dropWhile_append_of_pos hafter', dropWhile_of_head?,
      List.reverse_reverse]
    simpa only [List.head?_reverse] using hlast

/-- What is of the class before a text is dropped with what follows it. -/
theorem trimBy_append_left {p : Char → Bool} {before : List Char}
    (h : ∀ c ∈ before, p c = true) (s : List Char) : trimBy p (before ++ s) = trimBy p s := by
  rw [trimBy, List.dropWhile_append_of_pos h]
  rfl

/-- What is of the class after a text is dropped with what stands before it. -/
theorem trimBy_append_right {p : Char → Bool} {after : List Char}
    (h : ∀ c ∈ after, p c = true) (s : List Char) : trimBy p (s ++ after) = trimBy p s := by
  obtain ⟨before, end', hs, hbefore, hend, hhead, hlast⟩ := exists_trimBy p s
  conv => lhs; rw [hs, List.append_assoc, List.append_assoc]
  exact trimBy_append hbefore (List.forall_mem_append.mpr ⟨hend, h⟩) hhead hlast

/-- **Nothing is left** of a text that is all of the class, and of no other. -/
theorem trimBy_eq_nil_iff {p : Char → Bool} {s : List Char} :
    trimBy p s = [] ↔ ∀ c ∈ s, p c = true := by
  constructor
  · intro h
    obtain ⟨before, after, hs, hbefore, hafter, -⟩ := exists_trimBy p s
    rw [h, List.nil_append] at hs
    rw [hs]
    exact List.forall_mem_append.mpr ⟨hbefore, hafter⟩
  · intro h
    rw [← List.append_nil s, trimBy_append_left h, trimBy_nil]

/-- The last character is one of the last part. -/
theorem mem_of_getLast?_append {s t : List α} {c : α} (hne : t ≠ [])
    (h : (s ++ t).getLast? = some c) : c ∈ t := by
  rw [List.getLast?_append, List.getLast?_eq_some_getLast hne, Option.some_or] at h
  exact Option.some.inj h ▸ List.getLast_mem hne

/-- What is dropped from the end of a text that goes on after a part is dropped from what it
goes on with. -/
theorem exists_trimBy_append {p : Char → Bool} {before part : List Char}
    (hbefore : ∀ c ∈ before, p c = true) (hne : part ≠ [])
    (hhead : ∀ c, part.head? = some c → p c = false)
    (hlast : ∀ c, part.getLast? = some c → p c = false) (rest : List Char) :
    ∃ kept, kept <+: rest ∧ trimBy p (before ++ (part ++ rest)) = part ++ kept := by
  obtain ⟨kept, after, -, rfl, hafter, hkept⟩ := exists_trimEnd p rest
  refine ⟨kept, List.prefix_append _ _, ?_⟩
  rw [← List.append_assoc part]
  refine trimBy_append hbefore hafter (fun c hc => hhead c ?_) fun c hc => ?_
  · obtain ⟨d, part, rfl⟩ := List.exists_cons_of_ne_nil hne
    exact hc
  · rw [List.getLast?_append] at hc
    cases hk : kept.getLast? with
    | none =>
      rw [hk] at hc
      exact hlast c hc
    | some d =>
      rw [hk] at hc
      exact hkept c (hk.trans hc)

end PackageVitals.Text
