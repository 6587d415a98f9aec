import PackageVitals.Url

/-!
# Texts that stay in one part of an address

An address as it is sent is one text, and it can only be taken apart again
because the marks between its parts do not occur inside of them. What
stands before the path has no slash and no question mark: it is
**unbroken**. A host is written anew in several ways – in lower case,
percent encoded, as labels in ASCII – and none of them puts such a mark
where there was none, nor the at sign that ends the user
(`Host.not_mem_sent?`).
-/

namespace PackageVitals

/-- **Whether a text is unbroken**: it has no slash and no question mark. -/
def Unbroken (s : List Char) : Prop :=
  ∀ c ∈ s, c ≠ '/' ∧ c ≠ '?'

instance (s : List Char) : Decidable (Unbroken s) :=
  decidable_of_iff (s.all fun c => c != '/' && c != '?') (by simp [Unbroken])

@[simp] theorem unbroken_nil : Unbroken [] := fun _ hc => absurd hc List.not_mem_nil

@[simp] theorem unbroken_cons {c : Char} {s : List Char} :
    Unbroken (c :: s) ↔ (c ≠ '/' ∧ c ≠ '?') ∧ Unbroken s := by
  unfold Unbroken
  rw [List.forall_mem_cons]

@[simp] theorem unbroken_append {s t : List Char} :
    Unbroken (s ++ t) ↔ Unbroken s ∧ Unbroken t := by
  unfold Unbroken
  rw [List.forall_mem_append]

/-- What is in an unbroken text is unbroken. -/
theorem Unbroken.of_subset {s t : List Char} (ht : Unbroken t) (h : s ⊆ t) : Unbroken s :=
  fun c hc => ht c (h hc)

theorem unbroken_iff {s : List Char} : Unbroken s ↔ '/' ∉ s ∧ '?' ∉ s := by
  refine ⟨fun h => ⟨fun hc => (h _ hc).1 rfl, fun hc => (h _ hc).2 rfl⟩, fun h c hc => ⟨?_, ?_⟩⟩
  · rintro rfl
    exact h.1 hc
  · rintro rfl
    exact h.2 hc

/-- **The marks that end a part of an address** before the path does. -/
inductive IsMark : Char → Prop
  | slash : IsMark '/'
  | question : IsMark '?'
  | sign : IsMark '@'

/-- What puts no mark where there was none leaves a text unbroken. -/
theorem Unbroken.of_marks {s t : List Char} (hs : Unbroken s) (h : ∀ x, IsMark x → x ∉ s → x ∉ t) :
    Unbroken t := by
  obtain ⟨hslash, hquestion⟩ := unbroken_iff.mp hs
  exact unbroken_iff.mpr ⟨h _ .slash hslash, h _ .question hquestion⟩

/-- Pieces that are put together with a character between them keep to a class that
has this character. -/
theorem forall_mem_intercalate {p : Char → Prop} {y : Char} (hy : p y) {ls : List (List Char)}
    (h : ∀ l ∈ ls, ∀ c ∈ l, p c) : ∀ c ∈ [y].intercalate ls, p c := by
  induction ls with
  | nil => exact fun _ hc => nomatch hc
  | cons l ls ih =>
    obtain ⟨hl, hls⟩ := List.forall_mem_cons.mp h
    cases ls with
    | nil => rwa [List.intercalate_singleton]
    | cons m ls =>
      rw [List.intercalate_cons_cons, List.forall_mem_append, List.forall_mem_append,
        List.forall_mem_singleton]
      exact ⟨⟨hl, hy⟩, ih hls⟩

variable {x : Char} (hx : IsMark x)

/-! ## Percent encoding -/

namespace Url

include hx in
theorem hexDigit_ne {n : Nat} (h : n < 16) : hexDigit n ≠ x := by
  cases hx <;> revert n <;> decide

/-- An escape keeps to a class of characters that has the percent sign and the
digits. -/
theorem forall_mem_escapeChar {p : Char → Prop} (hsign : p '%') (hdigit : ∀ n < 16, p (hexDigit n))
    (c : Char) : ∀ d ∈ escapeChar c, p d := by
  intro d hd
  obtain ⟨b, -, hd⟩ := List.mem_flatMap.mp hd
  have hb : b.toNat < 256 := b.toNat_lt
  simp only [escapeByte, List.mem_cons, List.not_mem_nil, or_false] at hd
  rcases hd with rfl | rfl | rfl
  · exact hsign
  · exact hdigit _ (by omega)
  · exact hdigit _ (Nat.mod_lt _ (by omega))

include hx in
/-- An escape has no mark. -/
theorem not_mem_escapeChar (c : Char) : x ∉ escapeChar c := fun h =>
  forall_mem_escapeChar (p := (· ≠ x)) (by cases hx <;> decide) (fun _ hn => hexDigit_ne hx hn)
    c x h rfl

include hx in
/-- A mark in an encoded text was there before, and may stand there. -/
theorem mem_of_mem_encodeWith {keep : Char → Bool} {s : List Char} (h : x ∈ encodeWith keep s) :
    x ∈ s ∧ keep x = true := by
  obtain ⟨d, hd, h⟩ := List.mem_flatMap.mp h
  split at h
  · next hk =>
    obtain rfl := List.mem_singleton.mp h
    exact ⟨hd, hk⟩
  · exact absurd h (not_mem_escapeChar hx d)

/-- A text is encoded unbroken if neither mark may stand in it. -/
theorem unbroken_encodeWith {keep : Char → Bool} (hslash : keep '/' = false)
    (hmark : keep '?' = false) (s : List Char) : Unbroken (encodeWith keep s) := by
  intro c hc
  constructor
  · rintro rfl
    simp [(mem_of_mem_encodeWith .slash hc).2] at hslash
  · rintro rfl
    simp [(mem_of_mem_encodeWith .question hc).2] at hmark

end Url

/-! ## Numbers -/

namespace Text

include hx in
theorem not_mem_decimal (n : Nat) : x ∉ (decimal n).toList := by
  intro hmem
  rw [decimal, String.toList_ofList] at hmem
  have hd := Nat.isDigit_of_mem_toDigits (by omega) (by omega) hmem
  cases hx <;> simp at hd

include hx in
theorem not_mem_integer (i : Int) : x ∉ (integer i).toList := by
  unfold integer
  split
  · rw [String.toList_append, List.mem_append]
    exact fun hmem => hmem.elim (by cases hx <;> decide) (not_mem_decimal hx _)
  · exact not_mem_decimal hx _

/-! ## Letter case -/

/-- No shift to lower case ends at one of the marks. -/
theorem lt_of_mem_lowerShifts : ∀ s ∈ lowerShifts, 64 < (s.first : Int) + s.distance := by
  decide +kernel

/-- A capital is a small letter in lower case. -/
theorem toNat_toLower {c : Char} (h : c.val ≥ 'A'.val ∧ c.val ≤ 'Z'.val) :
    c.toLower.toNat = c.toNat + 32 := by
  have hle : c.toNat ≤ 90 := UInt32.le_iff_toNat_le.mp h.2
  have hn : c.toLower.toNat = (c.toNat + 32) % 2 ^ 32 :=
    congrArg Char.toNat (dif_pos h : c.toLower = _)
  omega

/-- Anything else is left alone. -/
theorem toLower_of_not {c : Char} (h : ¬ (c.val ≥ 'A'.val ∧ c.val ≤ 'Z'.val)) : c.toLower = c :=
  dif_neg h

include hx in
theorem toLower_ne {c : Char} (h : c ≠ x) : c.toLower ≠ x := by
  by_cases hc : c.val ≥ 'A'.val ∧ c.val ≤ 'Z'.val
  · have hc' : 65 ≤ c.toNat := UInt32.le_iff_toNat_le.mp hc.1
    have hn := toNat_toLower hc
    have hle : x.toNat ≤ 64 := by cases hx <;> decide
    rintro rfl
    omega
  · rwa [toLower_of_not hc]

/-- Lower case is what it is in lower case. -/
theorem toLower_toLower (c : Char) : c.toLower.toLower = c.toLower := by
  by_cases hc : c.val ≥ 'A'.val ∧ c.val ≤ 'Z'.val
  · have hle : 65 ≤ c.toNat := UInt32.le_iff_toNat_le.mp hc.1
    have hn := toNat_toLower hc
    refine toLower_of_not fun h => ?_
    have hle' : c.toLower.toNat ≤ 90 := UInt32.le_iff_toNat_le.mp h.2
    omega
  · rw [toLower_of_not hc, toLower_of_not hc]

include hx in
theorem ofNat_ne {n : Nat} (h : 64 < n) : Char.ofNat n ≠ x := by
  by_cases hn : n.isValidChar
  · have hto : (Char.ofNat n).toNat = n := by
      rw [Char.ofNat, dif_pos hn]
      rfl
    have hle : x.toNat ≤ 64 := by cases hx <;> decide
    rintro rfl
    omega
  · rw [Char.ofNat, dif_neg hn]
    cases hx <;> decide

include hx in
theorem move_lowerShifts_ne {c : Char} (hc : c ≠ x) : CaseShift.move lowerShifts c ≠ x := by
  unfold CaseShift.move
  split
  · next s hs =>
    have hlt := lt_of_mem_lowerShifts s (List.mem_of_find?_eq_some hs)
    have hcover := List.find?_some hs
    simp only [CaseShift.covers, Bool.and_eq_true, decide_eq_true_eq] at hcover
    have hbig : 64 < ((c.toNat : Int) + s.distance).toNat := by omega
    exact ofNat_ne hx hbig
  · exact hc

include hx in
theorem forall_mem_lowerChar_ne {c : Char} (hc : c ≠ x) : ∀ d ∈ lowerChar c, d ≠ x := by
  unfold lowerChar
  split
  · exact List.forall_mem_singleton.mpr (toLower_ne hx hc)
  · split
    · rw [List.forall_mem_cons, List.forall_mem_singleton]
      cases hx <;> decide
    · exact List.forall_mem_singleton.mpr (move_lowerShifts_ne hx hc)

/-- Lower case keeps to a class of characters that has the two small sigmas and
each lower case of a character in it. -/
theorem forall_mem_lower {p : Char → Prop} (hsigma : p 'ς' ∧ p 'σ')
    (hchar : ∀ c, p c → ∀ d ∈ lowerChar c, p d) {s : List Char} (hs : ∀ c ∈ s, p c) :
    ∀ c ∈ lower s, p c := by
  unfold lower
  generalize [] = before
  induction s generalizing before with
  | nil => exact nofun
  | cons c rest ih =>
    obtain ⟨hc, hrest⟩ := List.forall_mem_cons.mp hs
    unfold lowerAfter
    rw [List.forall_mem_append]
    refine ⟨?_, ih hrest _⟩
    split
    · split
      · exact List.forall_mem_singleton.mpr hsigma.1
      · exact List.forall_mem_singleton.mpr hsigma.2
    · exact hchar c hc

include hx in
/-- **Lower case puts no mark where there was none.** -/
theorem not_mem_lower {s : List Char} (hs : x ∉ s) : x ∉ lower s := fun hmem =>
  forall_mem_lower (p := (· ≠ x)) (by cases hx <;> decide)
    (fun _ hc => forall_mem_lowerChar_ne hx hc) (fun _ hc he => hs (he ▸ hc)) x hmem rfl

/-! ## Labels in ASCII -/

namespace Punycode

include hx in
theorem digitChar_ne {d : Nat} (h : d < 36) : digitChar d ≠ x := by
  cases hx <;> revert d <;> decide

include hx in
theorem not_mem_writeNumber (bias k n : Nat) : x ∉ writeNumber bias k n := by
  induction n using Nat.strongRecOn generalizing k with
  | _ n ih =>
    have h₁ := threshold_pos bias k
    have h₂ := threshold_le bias k
    rw [writeNumber]
    split
    · exact fun hmem => digitChar_ne hx (by omega) (List.mem_singleton.mp hmem).symm
    · have hmod := Nat.mod_lt (n - threshold bias k) (show 36 - threshold bias k > 0 by omega)
      refine List.not_mem_cons_of_ne_of_not_mem (digitChar_ne hx (by omega)).symm (ih _ ?_ _)
      exact Nat.lt_of_le_of_lt (Nat.div_le_self _ _) (by omega)

include hx in
theorem not_mem_writeInsertions (bias length point next : Nat) (isFirst : Bool)
    (is : List Insertion) : x ∉ writeInsertions bias length point next isFirst is := by
  induction is generalizing bias length point next isFirst with
  | nil => exact List.not_mem_nil
  | cons i rest ih =>
    unfold writeInsertions
    exact List.not_mem_append (not_mem_writeNumber hx _ _ _) (ih _ _ _ _ _)

include hx in
/-- A text in ASCII has the marks that it had before. -/
theorem not_mem_encode {s : List Char} (hs : x ∉ s) : x ∉ encode s := by
  unfold encode
  dsimp only
  refine List.not_mem_append ?_ (not_mem_writeInsertions hx _ _ _ _ _ _)
  split
  · exact List.not_mem_nil
  · exact List.not_mem_append (fun hmem => hs (List.mem_filter.mp hmem).1)
      (by cases hx <;> decide)

end Punycode

/-- The pieces of a text are in it. -/
theorem subset_of_mem_splitAll {x : Char} {s piece : List Char} (h : piece ∈ splitAll x s) :
    piece ⊆ s := by
  rw [← intercalate_splitAll x s]
  generalize splitAll x s = ps at h
  induction ps with
  | nil => cases h
  | cons p ps ih =>
    intro c hc
    cases ps with
    | nil =>
      obtain rfl := List.mem_singleton.mp h
      rwa [List.intercalate_singleton]
    | cons p' ps =>
      rw [List.intercalate_cons_cons]
      rcases List.mem_cons.mp h with rfl | h
      · simp [hc]
      · simp [ih h hc]

end Text

/-! ## Hosts -/

namespace Host

include hx in
theorem plainDot_ne {c : Char} (hc : c ≠ x) : plainDot c ≠ x := by
  unfold plainDot
  split
  · cases hx <;> decide
  · exact hc

include hx in
theorem not_mem_sentLabel? {s sent : List Char} (hs : x ∉ s) (h : sentLabel? s = some sent) :
    x ∉ sent := by
  unfold sentLabel? at h
  have hlimit {made : List Char} (h : (if made.length ≤ labelLimit then some made else none) =
      some sent) : made = sent := by
    split at h
    · exact Option.some.inj h
    · cases h
  split at h
  · obtain ⟨made, hmade, h⟩ := Option.bind_eq_some_iff.mp h
    obtain ⟨_, -, rfl⟩ := Option.map_eq_some_iff.mp hmade
    exact hlimit h ▸ hs
  · obtain ⟨made, hmade, h⟩ := Option.bind_eq_some_iff.mp h
    obtain ⟨label, hlabel, rfl⟩ := Option.map_eq_some_iff.mp hmade
    unfold label? at hlabel
    split at hlabel
    · obtain rfl := Option.some.inj hlabel
      rw [← hlimit h]
      exact List.not_mem_append (by cases hx <;> decide) (Text.Punycode.not_mem_encode hx hs)
    · cases hlabel

theorem forall_of_mapM {f : List Char → Option (List Char)}
    (hf : ∀ s t, x ∉ s → f s = some t → x ∉ t) {ls ms : List (List Char)}
    (h : ls.mapM f = some ms) (hls : ∀ l ∈ ls, x ∉ l) : ∀ m ∈ ms, x ∉ m := by
  induction ls generalizing ms with
  | nil =>
    obtain rfl := Option.some.inj h
    exact nofun
  | cons l ls ih =>
    obtain ⟨hl, hls⟩ := List.forall_mem_cons.mp hls
    rw [List.mapM_cons] at h
    simp only [Option.bind_eq_bind, Option.bind_eq_some_iff] at h
    obtain ⟨m, hm, ms', hms, h⟩ := h
    obtain rfl := Option.some.inj h
    exact List.forall_mem_cons.mpr ⟨hf l m hl hm, ih hms hls⟩

include hx in
theorem not_mem_mapLabels? {f : List Char → Option (List Char)}
    (hf : ∀ s t, x ∉ s → f s = some t → x ∉ t) {s sent : List Char} (hs : x ∉ s)
    (h : mapLabels? f s = some sent) : x ∉ sent := by
  have hdots : x ∉ s.map plainDot := by
    intro hmem
    obtain ⟨d, hd, he⟩ := List.mem_map.mp hmem
    exact plainDot_ne hx (fun h => hs (h ▸ hd)) he
  unfold mapLabels? at h
  split at h
  · cases h
  dsimp only at h
  split at h
  · exact hf s sent hs h
  · obtain ⟨ls, hls, rfl⟩ := Option.map_eq_some_iff.mp h
    have hlabels : ∀ l ∈ ls, x ∉ l := by
      refine forall_of_mapM hf hls fun l hl hmem => hdots ?_
      refine Text.subset_of_mem_splitAll (x := '.') ?_ hmem
      split at hl
      · exact List.dropLast_subset _ hl
      · exact hl
    have hno : ∀ l ∈ ls, ∀ c ∈ l, c ≠ x := fun l hl c hc hcx => hlabels l hl (hcx ▸ hc)
    refine fun hmem => forall_mem_intercalate (p := (· ≠ x)) (by cases hx <;> decide) ?_ x hmem rfl
    split
    · exact List.forall_mem_append.mpr ⟨hno, by simp⟩
    · exact hno

theorem not_mem_inBrackets? {s number : List Char} (hs : x ∉ s) (h : inBrackets? s = some number) :
    x ∉ number := by
  unfold inBrackets? at h
  split at h
  · split at h
    · obtain rfl := Option.some.inj h
      exact fun hmem => hs (List.mem_cons_of_mem _ (List.dropLast_subset _ hmem))
    · cases h
  · cases h

include hx in
theorem not_mem_sentName? {s sent : List Char} (hs : x ∉ s) (h : sentName? s = some sent) :
    x ∉ sent := by
  unfold sentName? at h
  simp only [Option.bind_eq_bind, Option.bind_eq_some_iff] at h
  obtain ⟨made, hmade, h⟩ := h
  have hmade : x ∉ made := not_mem_mapLabels? hx (fun _ _ => not_mem_sentLabel? hx) hs hmade
  generalize (if made.getLast? == some '.' then nameLimit + 1 else nameLimit) = limit at h
  split at h
  · obtain rfl := Option.some.inj h
    exact hmade
  · cases h

include hx in
/-- **A host is sent without a mark** if it was written so. -/
theorem not_mem_sent? {s sent : List Char} (hs : x ∉ s) (h : sent? s = some sent) : x ∉ sent := by
  unfold sent? at h
  split at h
  · obtain rfl := Option.some.inj h
    exact List.not_mem_nil
  split at h
  · split at h
    · obtain rfl := Option.some.inj h
      exact hs
    · cases h
  split at h
  · next number hnumber =>
    split at h
    · obtain rfl := Option.some.inj h
      exact not_mem_inBrackets? hs hnumber
    · cases h
  · split at h
    · obtain rfl := Option.some.inj h
      have hkeep : Url.isHostChar x = false := by cases hx <;> decide
      exact fun hmem => Bool.false_ne_true (hkeep ▸ (Url.mem_of_mem_encodeWith hx hmem).2)
    · exact not_mem_sentName? hx (Text.not_mem_lower hx hs) h

include hx in
theorem not_mem_bracketed {s : List Char} (hs : x ∉ s) : x ∉ bracketed s := by
  unfold bracketed
  split
  · exact List.not_mem_append (List.not_mem_cons_of_ne_of_not_mem (by cases hx <;> decide) hs)
      (by cases hx <;> decide)
  · exact hs

end Host

namespace Url

include hx in
/-- **A host and its socket have no mark** if the host was written without
one. -/
theorem not_mem_location {u : Url} {written : List Char} (hs : x ∉ written)
    (h : Host.sent? written = some u.host) : x ∉ u.location := by
  unfold location
  refine List.not_mem_append (Host.not_mem_bracketed hx (Host.not_mem_sent? hx hs h)) ?_
  split
  · exact List.not_mem_cons_of_ne_of_not_mem (by cases hx <;> decide) (Text.not_mem_integer hx _)
  · exact List.not_mem_nil

end Url

end PackageVitals
