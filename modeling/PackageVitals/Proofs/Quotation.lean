import PackageVitals.Json.Reader
import PackageVitals.Json.Writer

/-!
# Written texts are read back

A text is written in ASCII, character by character: as itself, by an escape of
one letter, or by the numbers of its UTF-16 units. The reader takes the numbers
of the units off the text (`Json.readPoints_escapeChar`), and these are joined to
the characters that they came from (`Text.joinUnits_flatMap`). So every text is
read back as it was (`Json.readString_writeText`).
-/

namespace PackageVitals

open Text (hex hexDigit? joinUnits)

/-! ## Units -/

namespace Text

/-- The UTF-16 units of a character. -/
def unitsOf (c : Char) : List Nat :=
  if c.toNat < 0x10000 then [c.toNat]
  else [0xD800 + (c.toNat - 0x10000) / 0x400, 0xDC00 + (c.toNat - 0x10000) % 0x400]

/-- A character has no number that UTF-16 reserves. -/
theorem not_reserved (c : Char) : ¬(0xD800 ≤ c.toNat ∧ c.toNat < 0xE000) := by
  have h : c.toNat.isValidChar := c.valid
  unfold Nat.isValidChar at h
  omega

/-- A character is no half. -/
@[simp] theorem isHalf_toNat (c : Char) : isHalf c.toNat = false := by
  have h := not_reserved c
  simpa [isHalf] using h

theorem toNat_lt (c : Char) : c.toNat < 0x110000 := by
  have h : c.toNat.isValidChar := c.valid
  unfold Nat.isValidChar at h
  omega

@[simp] theorem charOfPoint_toNat (c : Char) : charOfPoint c.toNat = c := by
  simp [charOfPoint]

theorem unitsOf_lt (c : Char) : ∀ n ∈ unitsOf c, n < 65536 := by
  have hlt := toNat_lt c
  unfold unitsOf
  split
  · rw [List.forall_mem_singleton]
    omega
  · rw [List.forall_mem_cons, List.forall_mem_singleton]
    omega

/-- A unit that is no upper half is a point of its own. -/
theorem joinPairs_cons {n : Nat} (h : ¬(0xD800 ≤ n ∧ n < 0xDC00)) (ns : List Nat) :
    joinPairs (n :: ns) = n :: joinPairs ns := by
  cases ns with
  | nil => rfl
  | cons m ns => rw [joinPairs, if_neg fun hpair => h ⟨hpair.1, hpair.2.1⟩]

/-- The units of a character are joined to it. -/
theorem joinPairs_unitsOf (c : Char) (ns : List Nat) :
    joinPairs (unitsOf c ++ ns) = c.toNat :: joinPairs ns := by
  have hres := not_reserved c
  have hlt := toNat_lt c
  unfold unitsOf
  split
  · rw [List.singleton_append, joinPairs_cons (by omega)]
  · rw [List.cons_append, List.singleton_append, joinPairs, if_pos (by omega)]
    have heq : 0x10000 + (0xD800 + (c.toNat - 0x10000) / 0x400 - 0xD800) * 0x400 +
        (0xDC00 + (c.toNat - 0x10000) % 0x400 - 0xDC00) = c.toNat := by omega
    rw [heq]

/-- **The units of a text are joined to the text.** -/
theorem joinUnits_flatMap (cs : List Char) : joinUnits (cs.flatMap unitsOf) = cs := by
  unfold joinUnits
  induction cs with
  | nil => rfl
  | cons c cs ih => rw [List.flatMap_cons, joinPairs_unitsOf, List.map_cons, ih, charOfPoint_toNat]

/-! ## Hexadecimal digits -/

/-- The last digit of a number of at least two digits. -/
theorem hex_succ (k n : Nat) :
    hex (k + 2) n = hex (k + 1) (n / 16) ++ [Nat.digitChar (n % 16)] := by
  unfold hex
  dsimp only
  rcases Nat.lt_or_ge n 16 with hlt | hge
  · rw [Nat.div_eq_of_lt hlt, Nat.toDigits_of_lt_base hlt, Nat.toDigits_zero,
      Nat.mod_eq_of_lt hlt]
    show List.replicate (k + 1) '0' ++ _ = List.replicate k '0' ++ ['0'] ++ _
    rw [← List.replicate_succ']
  · rw [Nat.toDigits_of_base_le (by omega) hge, List.length_append, List.length_singleton,
      show k + 2 - ((Nat.toDigits 16 (n / 16)).length + 1) =
        k + 1 - (Nat.toDigits 16 (n / 16)).length by omega, List.append_assoc]

theorem hex_one {n : Nat} (h : n < 16) : hex 1 n = [Nat.digitChar n] := by
  unfold hex
  rw [Nat.toDigits_of_lt_base h]
  rfl

/-- A number of sixteen bits has four digits. -/
theorem hex_four {n : Nat} (h : n < 65536) : hex 4 n =
    [Nat.digitChar (n / 4096), Nat.digitChar (n / 256 % 16), Nat.digitChar (n / 16 % 16),
      Nat.digitChar (n % 16)] := by
  rw [hex_succ, hex_succ, hex_succ, hex_one (by omega)]
  simp only [Nat.div_div_eq_div_mul, Nat.reduceMul, List.cons_append, List.nil_append]

theorem hexDigit?_digitChar : ∀ n < 16, hexDigit? (Nat.digitChar n) = some n := by
  decide

end Text

namespace Json

open Text (unitsOf)

/-! ## Escapes -/

/-- **An escaped unit is read back.** -/
theorem readPoints_unitEscape {n : Nat} (h : n < 65536) (rest : List Char) :
    readPoints (unitEscape n ++ rest) = (readPoints rest).map fun r => (n :: r.1, r.2) := by
  have hunit : hexUnit? (Nat.digitChar (n / 4096)) (Nat.digitChar (n / 256 % 16))
      (Nat.digitChar (n / 16 % 16)) (Nat.digitChar (n % 16)) = some n := by
    unfold hexUnit?
    rw [Text.hexDigit?_digitChar _ (by omega), Text.hexDigit?_digitChar _ (by omega),
      Text.hexDigit?_digitChar _ (by omega), Text.hexDigit?_digitChar _ (by omega)]
    exact congrArg some (by omega)
  rw [unitEscape, Text.hex_four h]
  show readPoints ('\\' :: 'u' :: _ :: _ :: _ :: _ :: rest) = _
  rw [readPoints, hunit]

/-- Escaped units are read back one after the other. -/
theorem readPoints_flatMap_unitEscape {ns : List Nat} (h : ∀ n ∈ ns, n < 65536)
    (rest : List Char) : readPoints (ns.flatMap unitEscape ++ rest) =
      (readPoints rest).map fun r => (ns ++ r.1, r.2) := by
  induction ns with
  | nil =>
    rw [List.flatMap_nil, List.nil_append]
    cases readPoints rest <;> rfl
  | cons n ns ih =>
    obtain ⟨hn, hns⟩ := List.forall_mem_cons.mp h
    rw [List.flatMap_cons, List.append_assoc, readPoints_unitEscape hn, ih hns]
    cases readPoints rest <;> rfl

/-- A character that stands for itself is read. -/
theorem readPoints_plain {c : Char} (hquote : c ≠ '"') (hslash : c ≠ '\\') (hc : 32 ≤ c.toNat)
    (rest : List Char) :
    readPoints (c :: rest) = (readPoints rest).map fun r => (c.toNat :: r.1, r.2) := by
  rw [readPoints.eq_def]
  split
  · contradiction
  · exact absurd (List.cons.inj ‹_›).1 hquote
  · exact absurd (List.cons.inj ‹_›).1 hslash
  · exact absurd (List.cons.inj ‹_›).1 hslash
  · next heq =>
    obtain ⟨rfl, rfl⟩ := List.cons.inj heq
    rw [if_neg (by omega)]

/-- A character that is escaped by a letter is read. -/
theorem readPoints_letter {e c : Char} (hu : e ≠ 'u') (he : escaped? e = some c)
    (rest : List Char) :
    readPoints ('\\' :: e :: rest) = (readPoints rest).map fun r => (c.toNat :: r.1, r.2) := by
  rw [readPoints.eq_def]
  split
  · contradiction
  · next heq => exact absurd (List.cons.inj heq).1 (by decide)
  · next heq => exact absurd (List.cons.inj (List.cons.inj heq).2).1 hu
  · next heq =>
    obtain ⟨rfl, rfl⟩ := List.cons.inj (List.cons.inj heq).2
    rw [he]
  · next hesc heq =>
    obtain ⟨rfl, rfl⟩ := List.cons.inj heq
    exact absurd rfl (hesc e rest rfl)

/-- **How a character is written**: by a letter, as itself, or by its units. -/
theorem escapeChar_cases (c : Char) :
    (c.toNat < 128 ∧ ∃ e, e ≠ 'u' ∧ escaped? e = some c ∧ escapeChar c = ['\\', e]) ∨
      (c.toNat < 128 ∧ c ≠ '"' ∧ c ≠ '\\' ∧ 32 ≤ c.toNat ∧ escapeChar c = [c]) ∨
      escapeChar c = (unitsOf c).flatMap unitEscape := by
  have hletter {e d : Char} (hd : d.toNat < 128) (hu : e ≠ 'u') (he : escaped? e = some d)
      (hw : escapeChar d = ['\\', e]) (h : c = d) : c.toNat < 128 ∧ ∃ e, e ≠ 'u' ∧
        escaped? e = some c ∧ escapeChar c = ['\\', e] := by
    subst h
    exact ⟨hd, e, hu, he, hw⟩
  have hnumber {n : Nat} (h : c.toNat = n) : c = Char.ofNat n := by rw [← h, Char.ofNat_toNat]
  by_cases hquote : c = '"'
  · exact .inl (hletter (by decide) (by decide) rfl rfl hquote)
  by_cases hslash : c = '\\'
  · exact .inl (hletter (by decide) (by decide) rfl rfl hslash)
  by_cases hline : c = '\n'
  · exact .inl (hletter (by decide) (by decide) rfl rfl hline)
  by_cases hreturn : c = '\r'
  · exact .inl (hletter (by decide) (by decide) rfl rfl hreturn)
  by_cases htab : c = '\t'
  · exact .inl (hletter (by decide) (by decide) rfl rfl htab)
  by_cases hback : c.toNat = 8
  · exact .inl (hletter (by decide) (by decide) rfl rfl (hnumber hback))
  by_cases hfeed : c.toNat = 12
  · exact .inl (hletter (by decide) (by decide) rfl rfl (hnumber hfeed))
  right
  simp only [escapeChar, beq_iff_eq, Bool.and_eq_true, decide_eq_true_eq, hquote, hslash, hline,
    hreturn, htab, hback, hfeed, ↓reduceIte]
  by_cases hplain : 32 ≤ c.toNat ∧ c.toNat < 128
  · left
    refine ⟨hplain.2, hquote, hslash, hplain.1, ?_⟩
    rcases Nat.lt_or_ge c.toNat 127 with hlt | hge
    · exact if_pos ⟨hplain.1, hlt⟩
    · rw [if_neg (by omega), if_pos (by omega)]
  · right
    rw [if_neg (by omega), if_neg (by omega), unitsOf]
    split
    · rw [List.flatMap_singleton]
    · rw [List.flatMap_cons, List.flatMap_singleton]

/-- **A written character is read back** as its units. -/
theorem readPoints_escapeChar (c : Char) (rest : List Char) :
    readPoints (escapeChar c ++ rest) =
      (readPoints rest).map fun r => (unitsOf c ++ r.1, r.2) := by
  have hsmall (h : c.toNat < 128) : unitsOf c = [c.toNat] := if_pos (by omega)
  rcases escapeChar_cases c with ⟨h, e, hu, he, hc⟩ | ⟨h, hquote, hslash, hle, hc⟩ | hc
  · rw [hc, hsmall h]
    exact readPoints_letter hu he rest
  · rw [hc, hsmall h]
    exact readPoints_plain hquote hslash hle rest
  · rw [hc]
    exact readPoints_flatMap_unitEscape (Text.unitsOf_lt c) rest

/-! ## Texts -/

/-- The characters of a text are read up to its closing quote. -/
theorem readPoints_flatMap_escapeChar (cs rest : List Char) :
    readPoints (cs.flatMap escapeChar ++ '"' :: rest) = .ok (cs.flatMap unitsOf, rest) := by
  induction cs with
  | nil => rfl
  | cons c cs ih =>
    rw [List.flatMap_cons, List.append_assoc, readPoints_escapeChar, ih, List.flatMap_cons]
    rfl

theorem toList_writeText (s : String) :
    (writeText s).toList = '"' :: (s.toList.flatMap escapeChar ++ ['"']) :=
  String.toList_ofList

/-- **A written text is read back.** -/
theorem readString_writeText (s : String) (rest : List Char) :
    ∃ t, (writeText s).toList = '"' :: t ∧ readString (t ++ rest) = .ok (s, rest) := by
  refine ⟨_, toList_writeText s, ?_⟩
  rw [readString, List.append_assoc, List.singleton_append, readPoints_flatMap_escapeChar]
  show Except.ok (String.ofList (Text.joinUnits (s.toList.flatMap unitsOf)), rest) = _
  rw [Text.joinUnits_flatMap, String.ofList_toList]

end Json

end PackageVitals
