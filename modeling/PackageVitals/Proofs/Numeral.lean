import PackageVitals.Json.Reader
import PackageVitals.Json.Writer
import PackageVitals.Proofs.Shortest

/-!
# Written numbers are read back

A number is written in decimal digits, with a mark, zeros or an exponent around
them, and the reader takes the same parts off the text again: a whole part
(`Json.readWhole_append`), places (`Json.readPlaces_append`) and an exponent
(`Json.readPower_exponentText`). Where the digits are split does not matter, as
long as the value is that of the shortest decimal. So every canonical number is
read back as it was (`Json.readWord_inFull`), and so is every whole number that
can be written (`Json.readWord_integer`), whatever of JSON follows.
-/

namespace PackageVitals

open Text (asciiDigit? ofDigits)

/-! ## Digits -/

/-- The values of digits. -/
def digitValues (cs : List Char) : List ℕ :=
  cs.map fun c => c.toNat - '0'.toNat

/-- Whether all characters are digits. -/
def AllDigits (cs : List Char) : Prop :=
  ∀ c ∈ cs, c.isDigit = true

theorem asciiDigit?_eq (c : Char) :
    asciiDigit? c = if c.isDigit then some (c.toNat - '0'.toNat) else none := by
  have hiff : ('0' ≤ c ∧ c ≤ '9') ↔ c.isDigit = true := by
    simp [Char.isDigit, Char.le_def]
  unfold asciiDigit?
  exact if_congr hiff rfl rfl

namespace AllDigits

theorem append {cs ds : List Char} (hcs : AllDigits cs) (hds : AllDigits ds) :
    AllDigits (cs ++ ds) :=
  List.forall_mem_append.mpr ⟨hcs, hds⟩

theorem toDigits (n : ℕ) : AllDigits (Nat.toDigits 10 n) :=
  fun _ hc => Nat.isDigit_of_mem_toDigits (by omega) (by omega) hc

theorem zeros (n : ℕ) : AllDigits (List.replicate n '0') := by
  intro c hc
  rw [List.eq_of_mem_replicate hc]
  rfl

end AllDigits

theorem ofDigits_digitValues (cs : List Char) :
    ofDigits (digitValues cs) = Nat.ofDigitChars 10 cs 0 := by
  unfold digitValues ofDigits
  rw [List.foldl_map, Nat.ofDigitChars_eq_foldl]

/-- A positive number is not written with a zero first. -/
theorem head_toDigits {n : ℕ} (hn : 0 < n) : (Nat.toDigits 10 n).head? ≠ some '0' := by
  induction n using Nat.strong_induction_on with
  | _ n ih =>
    rw [Nat.toDigits_eq_if (by omega)]
    split
    · next h =>
      have hsmall : ∀ k < 10, 0 < k → [Nat.digitChar k].head? ≠ some '0' := by decide
      exact hsmall n h hn
    · rw [List.head?_append_of_ne_nil _ Nat.toDigits_ne_nil]
      exact ih (n / 10) (by omega) (by omega)

namespace Json

/-- **Whether a text cannot go on with a number**: it starts with no digit, mark
or exponent. -/
def EndsNumber (s : List Char) : Prop :=
  ∀ c, s.head? = some c → c.isDigit = false ∧ c ≠ '.' ∧ c ≠ 'e' ∧ c ≠ 'E'

/-- Digits are taken as far as they go. -/
theorem takeDigits_append {cs rest : List Char} (hcs : AllDigits cs)
    (hrest : ∀ c, rest.head? = some c → c.isDigit = false) :
    takeDigits (cs ++ rest) = (digitValues cs, rest) := by
  induction cs with
  | nil =>
    cases rest with
    | nil => rfl
    | cons c rest =>
      rw [List.nil_append, takeDigits, asciiDigit?_eq, hrest c rfl]
      rfl
  | cons c cs ih =>
    obtain ⟨hc, hcs⟩ := List.forall_mem_cons.mp hcs
    rw [List.cons_append, takeDigits, asciiDigit?_eq, hc, ih hcs]
    rfl

/-- A whole part that does not start with a zero is read. -/
theorem readWhole_append {cs rest : List Char} (hcs : AllDigits cs) (hne : cs ≠ [])
    (hzero : cs.head? ≠ some '0') (hrest : ∀ c, rest.head? = some c → c.isDigit = false) :
    readWhole (cs ++ rest) = .ok (digitValues cs, rest) := by
  unfold readWhole
  split
  · next tail heq =>
    cases cs with
    | nil => contradiction
    | cons c cs =>
      rw [List.cons_append] at heq
      exact absurd (congrArg some (List.cons.inj heq).1) hzero
  · rw [takeDigits_append hcs hrest]
    cases cs with
    | nil => contradiction
    | cons c cs => rfl

/-- Places are read. -/
theorem readPlaces_append {cs rest : List Char} (hcs : AllDigits cs) (hne : cs ≠ [])
    (hrest : ∀ c, rest.head? = some c → c.isDigit = false) :
    readPlaces ('.' :: (cs ++ rest)) = (digitValues cs, rest) := by
  rw [readPlaces, takeDigits_append hcs hrest]
  cases cs with
  | nil => contradiction
  | cons c cs => rfl

theorem readPlaces_of_ne {s : List Char} (h : s.head? ≠ some '.') : readPlaces s = ([], s) := by
  unfold readPlaces
  split
  · exact absurd rfl h
  · rfl

theorem readPower_of_ends {s : List Char} (h : EndsNumber s) : readPower s = (none, s) := by
  cases s with
  | nil => rfl
  | cons c s =>
    obtain ⟨-, -, he, hE⟩ := h c rfl
    rw [readPower, if_neg (by simp [he, hE])]

/-- The digits of an exponent. -/
theorem readPower_sign {sign : Char} {negative : Bool} {cs rest : List Char}
    (hsign : ∀ t, Number.splitSign (sign :: t) = (negative, t)) (hcs : AllDigits cs) (hne : cs ≠ [])
    (hrest : EndsNumber rest) : readPower ('e' :: sign :: (cs ++ rest)) =
      (some (Number.signed negative (Nat.ofDigitChars 10 cs 0)), rest) := by
  rw [readPower, if_pos (by rfl), hsign]
  dsimp only
  rw [takeDigits_append hcs fun c hc => (hrest c hc).1, ← ofDigits_digitValues]
  cases cs with
  | nil => contradiction
  | cons c cs => rfl

end Json

namespace Text

theorem toList_padded (width n : ℕ) : (padded width n).toList =
    List.replicate (width - (Nat.toDigits 10 n).length) '0' ++ Nat.toDigits 10 n :=
  String.toList_ofList

theorem allDigits_padded (width n : ℕ) : AllDigits (padded width n).toList := by
  rw [toList_padded]
  exact (AllDigits.zeros _).append (.toDigits n)

theorem padded_ne_nil (width n : ℕ) : (padded width n).toList ≠ [] := by
  rw [toList_padded]
  exact List.append_ne_nil_of_right_ne_nil _ Nat.toDigits_ne_nil

/-- Zeros before a number do not change it. -/
theorem ofDigitChars_padded (width n : ℕ) :
    Nat.ofDigitChars 10 (padded width n).toList 0 = n := by
  rw [toList_padded, Nat.ofDigitChars_append, Nat.ofDigitChars_replicate_zero, Nat.mul_zero,
    Nat.ofDigitChars_ten_toDigits]

end Text

namespace Json

/-- **An exponent is read back.** -/
theorem readPower_exponentText (e : ℤ) {rest : List Char} (hrest : EndsNumber rest) :
    readPower ((Double.exponentText e).toList ++ rest) = (some e, rest) := by
  have hsign {sign : Char} {negative : Bool}
      (h : ∀ t, Number.splitSign (sign :: t) = (negative, t)) :
      readPower ('e' :: sign :: ((Text.padded 2 e.natAbs).toList ++ rest)) =
        (some (Number.signed negative e.natAbs), rest) := by
    rw [readPower_sign h (Text.allDigits_padded 2 _) (Text.padded_ne_nil 2 _) hrest,
      Text.ofDigitChars_padded]
  unfold Double.exponentText
  rw [String.toList_append, List.append_assoc]
  split
  · next hneg =>
    rw [show "e-".toList = ['e', '-'] from rfl, List.cons_append, List.singleton_append,
      hsign fun _ => rfl, Number.signed, if_pos rfl, Int.natCast_natAbs, abs_of_neg hneg, neg_neg]
  · next hnonneg =>
    rw [show "e+".toList = ['e', '+'] from rfl, List.cons_append, List.singleton_append,
      hsign fun _ => rfl, Number.signed, if_neg (by decide), Int.natCast_natAbs,
      abs_of_nonneg (not_lt.mp hnonneg)]

end Json

/-- A positive number in full, without a sign. -/
def Double.magnitudeText (m : ℕ) (e : ℤ) : String :=
  let d := shortest m e
  let digits := Nat.toDigits 10 d.1
  let point := (digits.length : ℤ) + d.2
  if -4 < point ∧ point ≤ 16 then
    let text := positional digits point
    if digits.length ≤ point.toNat then text ++ ".0" else text
  else leading digits ++ exponentText (point - 1)

theorem Double.inFull_of_pos (infinity notANumber : String) (negative : Bool) {m : ℕ} (e : ℤ)
    (hm : m ≠ 0) : (Double.finite negative m e).inFull infinity notANumber =
      signText negative ++ magnitudeText m e := by
  rw [inFull, if_neg hm]
  rfl

namespace Double

/-! ## Where the mark is -/

theorem toList_positional_above {ds : List Char} {point : ℤ} (h : 0 < point)
    (hle : ds.length ≤ point.toNat) :
    (positional ds point).toList = ds ++ List.replicate (point.toNat - ds.length) '0' := by
  rw [positional, if_neg (by omega)]
  dsimp only
  rw [List.take_of_length_le hle, List.drop_eq_nil_of_le hle]
  exact String.toList_ofList

theorem toList_positional_around {ds : List Char} {point : ℤ} (h : 0 < point)
    (hlt : point.toNat < ds.length) :
    (positional ds point).toList = ds.take point.toNat ++ '.' :: ds.drop point.toNat := by
  rw [positional, if_neg (by omega)]
  dsimp only
  rw [Nat.sub_eq_zero_of_le hlt.le, List.replicate_zero, List.append_nil]
  cases hdrop : ds.drop point.toNat with
  | nil =>
    have := congrArg List.length hdrop
    rw [List.length_drop, List.length_nil] at this
    omega
  | cons d ds => exact String.toList_ofList

end Double

namespace Json

/-! ## Numbers -/

/-- A number is read from its parts. -/
theorem readNumber_of_parts (negative : Bool) {s t u rest : List Char} {whole places : List ℕ}
    {power : Option ℤ} (hwhole : readWhole s = .ok (whole, t))
    (hplaces : readPlaces t = (places, u))
    (hpower : readPower u = (power, rest)) (hpart : (places.isEmpty && power.isNone) = false) :
    readNumber negative s = .ok (.num (.ofDecimal negative (ofDigits (whole ++ places))
      (power.getD 0 - places.length)), rest) := by
  rw [readNumber, hwhole]
  dsimp only
  rw [hplaces]
  dsimp only
  rw [hpower]
  dsimp only
  rw [hpart]
  rfl

/-- A whole part with places is read as a decimal. -/
theorem readNumber_places (negative : Bool) {s cs ds rest : List Char}
    (hwhole : readWhole s = .ok (digitValues cs, '.' :: (ds ++ rest))) (hds : AllDigits ds)
    (hne : ds ≠ []) (hrest : EndsNumber rest) :
    readNumber negative s = .ok (.num (.ofDecimal negative (Nat.ofDigitChars 10 (cs ++ ds) 0)
      (-ds.length)), rest) := by
  have hplaces := readPlaces_append hds hne fun c hc => (hrest c hc).1
  rw [readNumber_of_parts negative hwhole hplaces (readPower_of_ends hrest), Option.getD_none,
    zero_sub, ← ofDigits_digitValues, digitValues, digitValues, digitValues, List.map_append,
    List.length_map]
  cases ds with
  | nil => contradiction
  | cons d ds => rfl

/-- Digits around a mark after the first of them, and an exponent, are read as a
decimal. -/
theorem readNumber_leading (negative : Bool) {cs rest : List Char} (e : ℤ) (hcs : AllDigits cs)
    (hne : cs ≠ []) (hzero : cs.head? ≠ some '0') (hrest : EndsNumber rest) :
    readNumber negative ((Double.leading cs ++ Double.exponentText e).toList ++ rest) =
      .ok (.num (.ofDecimal negative (Nat.ofDigitChars 10 cs 0) (e - (cs.length - 1))), rest) := by
  have hpower := readPower_exponentText e hrest
  have hexp : ∀ c, ((Double.exponentText e).toList ++ rest).head? = some c → c = 'e' := by
    intro c hc
    unfold Double.exponentText at hc
    rw [String.toList_append] at hc
    split at hc
    all_goals exact (Option.some.inj hc).symm
  rw [String.toList_append, List.append_assoc]
  generalize (Double.exponentText e).toList ++ rest = t at hpower hexp
  have hdigit : ∀ c, t.head? = some c → c.isDigit = false := fun c hc => by rw [hexp c hc]; rfl
  cases cs with
  | nil => contradiction
  | cons d ds =>
    obtain ⟨hd, hds⟩ := List.forall_mem_cons.mp hcs
    have hsingle : AllDigits [d] := List.forall_mem_singleton.mpr hd
    cases ds with
    | nil =>
      rw [show (Double.leading [d]).toList = [d] from String.toList_ofList]
      have hwhole := readWhole_append hsingle hne hzero hdigit
      have hplaces : readPlaces t = ([], t) :=
        readPlaces_of_ne fun h => absurd (hexp '.' h) (by decide)
      have h := readNumber_of_parts negative hwhole hplaces hpower rfl
      rw [List.append_nil, ofDigits_digitValues] at h
      exact h
    | cons d' ds =>
      have hwhole : readWhole ([d] ++ '.' :: (d' :: ds ++ t)) = .ok (digitValues [d], _) :=
        readWhole_append hsingle (by simp) hzero (by simp)
      rw [show (Double.leading (d :: d' :: ds)).toList = d :: '.' :: d' :: ds from
        String.toList_ofList]
      have h := readNumber_of_parts negative hwhole (readPlaces_append hds (by simp) hdigit) hpower
        rfl
      rw [digitValues, digitValues, ← List.map_append, ← digitValues, ofDigits_digitValues,
        List.length_map] at h
      simpa using h

section Positional

variable (negative : Bool) {ds rest : List Char} {point : ℤ} (hds : AllDigits ds) (hne : ds ≠ [])
  (hzero : ds.head? ≠ some '0') (hrest : EndsNumber rest)

include hds hne hrest

/-- Zeros and digits after a mark are read as a decimal. -/
theorem readNumber_below (h : point ≤ 0) :
    readNumber negative ((Double.positional ds point).toList ++ rest) =
      .ok (.num (.ofDecimal negative (Nat.ofDigitChars 10 ds 0) (point - ds.length)), rest) := by
  rw [Double.positional, if_pos h, String.toList_ofList]
  generalize hz : (-point).toNat = z
  have hwhole : readWhole ('0' :: '.' :: (List.replicate z '0' ++ ds ++ rest)) =
      .ok (digitValues ['0'], _) := rfl
  refine (readNumber_places negative hwhole ((AllDigits.zeros z).append hds)
    (List.append_ne_nil_of_right_ne_nil _ hne) hrest).trans ?_
  rw [← List.append_assoc, Nat.ofDigitChars_append,
    show ['0'] ++ List.replicate z '0' = List.replicate (z + 1) '0' from rfl,
    Nat.ofDigitChars_replicate_zero, Nat.mul_zero, List.length_append, List.length_replicate]
  congr 4
  omega

include hzero

/-- Digits on both sides of a mark are read as a decimal. -/
theorem readNumber_around (h : 0 < point) (hlt : point.toNat < ds.length) :
    readNumber negative ((Double.positional ds point).toList ++ rest) =
      .ok (.num (.ofDecimal negative (Nat.ofDigitChars 10 ds 0) (point - ds.length)), rest) := by
  have htake : ds.take point.toNat ≠ [] := by
    rw [Ne, List.take_eq_nil_iff]
    exact not_or.mpr ⟨by omega, hne⟩
  have hdrop : ds.drop point.toNat ≠ [] := by
    rw [Ne, List.drop_eq_nil_iff]
    omega
  have hhead : (ds.take point.toNat).head? ≠ some '0' := by
    rwa [List.head?_take, if_neg (by omega)]
  have hwhole : readWhole (ds.take point.toNat ++ '.' :: (ds.drop point.toNat ++ rest)) =
      .ok (digitValues (ds.take point.toNat), '.' :: (ds.drop point.toNat ++ rest)) :=
    readWhole_append (fun c hc => hds c (List.mem_of_mem_take hc)) htake hhead (by simp)
  rw [Double.toList_positional_around h hlt, List.append_assoc, List.cons_append]
  refine (readNumber_places negative hwhole (fun c hc => hds c (List.mem_of_mem_drop hc)) hdrop
    hrest).trans ?_
  rw [List.take_append_drop, List.length_drop]
  congr 4
  omega

/-- Digits and zeros before a mark, with a zero after it, are read as a decimal. -/
theorem readNumber_above (h : 0 < point) (hle : ds.length ≤ point.toNat) :
    readNumber negative ((Double.positional ds point ++ ".0").toList ++ rest) =
      .ok (.num (.ofDecimal negative
        (10 * (10 ^ (point.toNat - ds.length) * Nat.ofDigitChars 10 ds 0)) (-1)), rest) := by
  rw [String.toList_append, Double.toList_positional_above h hle, List.append_assoc]
  generalize point.toNat - ds.length = z
  have hwhole : readWhole (ds ++ List.replicate z '0' ++ '.' :: (['0'] ++ rest)) = .ok (_, _) :=
    readWhole_append (hds.append (.zeros z)) (List.append_ne_nil_of_left_ne_nil hne _)
      (by rwa [List.head?_append_of_ne_nil _ hne]) (by simp)
  refine (readNumber_places negative hwhole (AllDigits.zeros 1) (by simp) hrest).trans ?_
  rw [Nat.ofDigitChars_append, Nat.ofDigitChars_append, Nat.ofDigitChars_replicate_zero,
    Nat.ofDigitChars_cons]
  rfl

end Positional

/-- **A number without its sign is read back.** -/
theorem readNumber_magnitudeText (negative : Bool) {m : ℕ} {e : ℤ} {rest : List Char}
    (hm : Double.IsNormal m e) (hrest : EndsNumber rest) :
    readNumber negative ((Double.magnitudeText m e).toList ++ rest) =
      .ok (.num (.finite negative m e), rest) := by
  have hdecimal (n : ℕ) (g : ℤ) := Double.ofDecimal_of_eq_shortest (n := n) (g := g) negative hm
  have hpos := Double.shortest_pos hm
  unfold Double.magnitudeText
  dsimp only
  generalize (Double.shortest m e).1 = c at hdecimal hpos
  generalize (Double.shortest m e).2 = k at hdecimal
  have hds := AllDigits.toDigits c
  have hne : Nat.toDigits 10 c ≠ [] := Nat.toDigits_ne_nil
  have hzero := head_toDigits hpos
  have hvalue := Nat.ofDigitChars_ten_toDigits (n := c)
  generalize Nat.toDigits 10 c = ds at hds hne hzero hvalue
  have hlen := List.length_pos_iff.mpr hne
  -- All four forms have the digits of the shortest decimal, and its value.
  split
  · split
    · next hle =>
      rw [readNumber_above negative hds hne hzero hrest (by omega) hle, hvalue, hdecimal]
      obtain ⟨z, rfl⟩ : ∃ z : ℕ, k = z := ⟨k.toNat, by omega⟩
      rw [show ((ds.length : ℤ) + z).toNat - ds.length = z by omega, zpow_natCast, zpow_neg_one]
      push_cast
      ring
    · next hlt =>
      have hread : readNumber negative ((Double.positional ds (ds.length + k)).toList ++ rest) =
          .ok (.num (.ofDecimal negative (Nat.ofDigitChars 10 ds 0)
            (ds.length + k - ds.length)), rest) := by
        rcases le_or_gt ((ds.length : ℤ) + k) 0 with hbelow | habove
        · exact readNumber_below negative hds hne hrest hbelow
        · exact readNumber_around negative hds hne hzero hrest habove (by omega)
      rw [hread, add_sub_cancel_left, hvalue, hdecimal]
      ring
  · rw [readNumber_leading negative _ hds hne hzero hrest, hvalue, hdecimal]
    congr 2
    ring

/-! ## Words -/

/-- A number starts with a digit. -/
theorem exists_digit_of_readNumber {negative : Bool} {s : List Char} {r : Json × List Char}
    (h : readNumber negative s = .ok r) : ∃ c t, s = c :: t ∧ c.isDigit = true := by
  have hwhole : ∃ r, readWhole s = .ok r := by
    unfold readNumber at h
    cases hw : readWhole s with
    | error f =>
      rw [hw] at h
      contradiction
    | ok r => exact ⟨r, rfl⟩
  obtain ⟨r, hr⟩ := hwhole
  unfold readWhole at hr
  split at hr
  · exact ⟨_, _, rfl, rfl⟩
  · cases s with
    | nil => contradiction
    | cons c t =>
      refine ⟨c, t, rfl, ?_⟩
      by_contra hc
      rw [takeDigits, asciiDigit?_eq, if_neg hc] at hr
      contradiction

section Words

variable (rest : List Char)

theorem readWord_null : readWord ("null".toList ++ rest) = .ok (.null, rest) := rfl

theorem readWord_true : readWord ("true".toList ++ rest) = .ok (.bool true, rest) := rfl

theorem readWord_false : readWord ("false".toList ++ rest) = .ok (.bool false, rest) := rfl

theorem readWord_nan : readWord ("NaN".toList ++ rest) = .ok (.num .nan, rest) := rfl

theorem readWord_infinity :
    readWord ("Infinity".toList ++ rest) = .ok (.num (.infinite false), rest) :=
  rfl

theorem readWord_minusInfinity :
    readWord ('-' :: "Infinity".toList ++ rest) = .ok (.num (.infinite true), rest) := rfl

end Words

/-- What starts with a digit, perhaps after a minus sign, is none of the words. -/
theorem readWord_of_digit {c : Char} (hc : c.isDigit = true) (t : List Char) :
    readWord (c :: t) = readNumber false (c :: t) ∧
      readWord ('-' :: c :: t) = readNumber true (c :: t) := by
  have hne : ∀ d : Char, d.isDigit = false → (d == c) = false := by
    intro d hd
    rw [beq_eq_false_iff_ne]
    rintro rfl
    rw [hd] at hc
    contradiction
  constructor
  · unfold readWord
    simp only [List.findSome?_cons, Text.after?, String.reduceToList, List.isPrefixOf_cons_cons,
      hne 'n' rfl, hne 't' rfl, hne 'f' rfl, hne 'N' rfl, hne 'I' rfl, hne '-' rfl, Bool.false_and,
      Bool.false_eq_true, ↓reduceIte, Option.map_none, List.findSome?_nil]
    split
    · next heq =>
      obtain ⟨rfl, -⟩ := List.cons.inj heq
      contradiction
    · rfl
  · unfold readWord
    simp only [List.findSome?_cons, Text.after?, String.reduceToList, List.isPrefixOf_cons_cons,
      hne 'I' rfl, Char.reduceBEq, Bool.false_and, Bool.and_false, Bool.false_eq_true, ↓reduceIte,
      Option.map_none, List.findSome?_nil]

/-- A number is read with its sign. -/
theorem readWord_signText {negative : Bool} {s : List Char} {r : Json × List Char}
    (h : readNumber negative s = .ok r) :
    readWord ((Double.signText negative).toList ++ s) = .ok r := by
  obtain ⟨c, t, rfl, hc⟩ := exists_digit_of_readNumber h
  cases negative with
  | true => exact (readWord_of_digit hc t).2.trans h
  | false => exact (readWord_of_digit hc t).1.trans h

/-- **A number of double precision is read back** if it is in its only form. -/
theorem readWord_inFull {x : Double} (hx : x.IsCanonical) {rest : List Char}
    (hrest : EndsNumber rest) :
    readWord ((x.inFull "Infinity" "NaN").toList ++ rest) = .ok (.num x, rest) := by
  cases x with
  | nan => exact readWord_nan rest
  | infinite negative =>
    cases negative with
    | true => exact readWord_minusInfinity rest
    | false => exact readWord_infinity rest
  | finite negative m e =>
    rcases hx with ⟨rfl, rfl⟩ | hm
    · rw [Double.inFull, if_pos rfl, String.toList_append, List.append_assoc]
      have hwhole : readWhole ('0' :: '.' :: (['0'] ++ rest)) = .ok (digitValues ['0'], _) := rfl
      exact readWord_signText
        (readNumber_places negative hwhole (AllDigits.zeros 1) (by simp) hrest)
    · rw [Double.inFull_of_pos _ _ _ _ hm.pos.ne', String.toList_append, List.append_assoc]
      exact readWord_signText (readNumber_magnitudeText negative hm hrest)

section Whole

variable {rest : List Char} (hrest : EndsNumber rest)

include hrest

/-- Digits that nothing of a number follows are read as a whole number, unless they are too
many. -/
theorem readNumber_toDigits (negative : Bool) (n : ℕ) :
    readNumber negative (Nat.toDigits 10 n ++ rest) =
      if (Nat.toDigits 10 n).length ≤ Number.digitLimit then
        .ok (.int (Number.signed negative n), rest)
      else .error .badValue := by
  have hwhole : readWhole (Nat.toDigits 10 n ++ rest) =
      .ok (digitValues (Nat.toDigits 10 n), rest) := by
    rcases Nat.eq_zero_or_pos n with rfl | hpos
    · rfl
    · exact readWhole_append (.toDigits n) Nat.toDigits_ne_nil (head_toDigits hpos)
        fun c hc => (hrest c hc).1
  have hplaces : readPlaces rest = ([], rest) :=
    readPlaces_of_ne fun h => (hrest '.' h).2.1 rfl
  rw [readNumber, hwhole]
  dsimp only
  rw [hplaces]
  dsimp only
  rw [readPower_of_ends hrest]
  dsimp only
  rw [if_pos (by rfl), ofDigits_digitValues, Nat.ofDigitChars_ten_toDigits, digitValues,
    List.length_map]

/-- **A whole number is read back if and only if it does not have too many digits.** -/
theorem readWord_integer_eq (i : ℤ) : readWord ((Text.integer i).toList ++ rest) =
    if (Nat.toDigits 10 i.natAbs).length ≤ Number.digitLimit then .ok (.int i, rest)
    else .error .badValue := by
  have hdecimal : (Text.decimal i.natAbs).toList = Nat.toDigits 10 i.natAbs := String.toList_ofList
  obtain ⟨c, t, hct⟩ := List.exists_cons_of_ne_nil (Nat.toDigits_ne_nil (b := 10) (n := i.natAbs))
  have hc : c.isDigit = true := AllDigits.toDigits i.natAbs c (hct ▸ List.mem_cons_self)
  obtain ⟨hplus, hminus⟩ := readWord_of_digit hc (t ++ rest)
  rw [← List.cons_append, ← hct] at hplus hminus
  unfold Text.integer
  split
  · next hneg =>
    have hi : Number.signed true i.natAbs = i := by
      rw [Number.signed, if_pos rfl, Int.natCast_natAbs, abs_of_neg hneg, neg_neg]
    rw [String.toList_append, hdecimal, List.append_assoc]
    refine (hminus.trans (readNumber_toDigits hrest true i.natAbs)).trans ?_
    rw [hi]
  · next hnonneg =>
    have hi : Number.signed false i.natAbs = i := by
      rw [Number.signed, if_neg (by decide), Int.natCast_natAbs, abs_of_nonneg (not_lt.mp hnonneg)]
    rw [hdecimal]
    refine (hplus.trans (readNumber_toDigits hrest false i.natAbs)).trans ?_
    rw [hi]

end Whole

/-- **A whole number is read back** if it does not have too many digits. -/
theorem readWord_integer {i : ℤ} (hi : (Nat.toDigits 10 i.natAbs).length ≤ Number.digitLimit)
    {rest : List Char} (hrest : EndsNumber rest) :
    readWord ((Text.integer i).toList ++ rest) = .ok (.int i, rest) :=
  (readWord_integer_eq hrest i).trans (if_pos hi)

end Json

end PackageVitals
