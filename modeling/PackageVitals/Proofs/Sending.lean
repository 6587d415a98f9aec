import PackageVitals.Exchange
import PackageVitals.Proofs.Roundtrip

/-!
# Written values are sent as they are

A value is written in the characters of ASCII alone (`Json.isAscii_write`): whatever else a text
holds is escaped, a number is digits and marks, and a layout writes gaps. Every such character is
one byte, and bytes of this sort are read as the text they are, since none of them is a mark of an
encoding or the zero by which the wider encodings are told (`Text.decode_ascii`).

So the bytes of a written value are that value again (`Json.decode_write`, `Json.json_of_written`),
unless a whole number has more digits than can be read (`Json.ofChars_overlong`).
-/

namespace PackageVitals

/-! ## Texts of ASCII characters -/

namespace Text

/-- **Whether a text is in ASCII**, without the character of number zero. -/
def IsAscii (s : List Char) : Prop :=
  ∀ c ∈ s, 0 < c.toNat ∧ c.toNat < 128

instance (s : List Char) : Decidable (IsAscii s) :=
  List.decidableBAll _ s

/-- The bytes of a text that is in ASCII. -/
def bytes (s : List Char) : List UInt8 :=
  s.map fun c => UInt8.ofNat c.toNat

@[simp] theorem isAscii_nil : IsAscii [] := List.forall_mem_nil _

@[simp] theorem isAscii_cons {c : Char} {s : List Char} :
    IsAscii (c :: s) ↔ (0 < c.toNat ∧ c.toNat < 128) ∧ IsAscii s :=
  List.forall_mem_cons

@[simp] theorem isAscii_append {s t : List Char} : IsAscii (s ++ t) ↔ IsAscii s ∧ IsAscii t :=
  List.forall_mem_append

theorem isAscii_replicate (n : ℕ) {c : Char} (hc : 0 < c.toNat ∧ c.toNat < 128) :
    IsAscii (List.replicate n c) :=
  fun _ h => List.eq_of_mem_replicate h ▸ hc

theorem IsAscii.mono {s t : List Char} (h : IsAscii t) (hs : s ⊆ t) : IsAscii s :=
  fun c hc => h c (hs hc)

theorem IsAscii.flatMap {α : Type} {xs : List α} {k : α → List Char}
    (h : ∀ x ∈ xs, IsAscii (k x)) : IsAscii (xs.flatMap k) := by
  intro c hc
  obtain ⟨x, hx, hc⟩ := List.mem_flatMap.mp hc
  exact h x hx c hc

theorem decodeUtf8_bytes {s : List Char} (h : IsAscii s) :
    decodeUtf8 (bytes s) = some (s.map Char.toNat) := by
  unfold bytes
  induction s with
  | nil => rfl
  | cons c s ih =>
    obtain ⟨⟨-, hc⟩, hs⟩ := isAscii_cons.mp h
    have hbyte : (UInt8.ofNat c.toNat).toNat = c.toNat := by
      rw [UInt8.toNat_ofNat']
      omega
    have hlt : UInt8.ofNat c.toNat < 0x80 := by
      rw [UInt8.lt_iff_toNat_lt, hbyte]
      exact hc
    rw [List.map_cons]
    unfold decodeUtf8
    rw [if_pos hlt, ih hs, hbyte]
    rfl

/-- Bytes of ASCII characters have no mark at their start, and none of the zeros by which the
wider encodings are told. -/
theorem detect_of_ascii {bs : List UInt8} (h : ∀ b ∈ bs, 0 < b ∧ b < 128) :
    Encoding.detect bs = (.utf8, bs) := by
  have hzero {b : UInt8} (hb : b ∈ bs) : (b == 0) = false := by
    rw [beq_eq_false_iff_ne]
    rintro rfl
    exact absurd (h 0 hb).1 (by decide)
  unfold Encoding.detect
  split
  · exact absurd (h 0 (by simp)) (by decide)
  · exact absurd (h 0xFF (by simp)) (by decide)
  · exact absurd (h 0xFE (by simp)) (by decide)
  · exact absurd (h 0xFF (by simp)) (by decide)
  · exact absurd (h 0xEF (by simp)) (by decide)
  · dsimp only
    split
    · rw [hzero (by simp), hzero (by simp)]
      rfl
    · rw [hzero (by simp), hzero (by simp)]
      rfl
    · rfl

/-- Bytes of ASCII characters are the points of these. -/
theorem points?_bytes {s : List Char} (h : IsAscii s) :
    points? (bytes s) = some (s.map Char.toNat) := by
  have hbytes : ∀ b ∈ bytes s, 0 < b ∧ b < 128 := by
    intro b hb
    obtain ⟨c, hc, rfl⟩ := List.mem_map.mp hb
    obtain ⟨hpos, hlt⟩ := h c hc
    rw [UInt8.lt_iff_toNat_lt, UInt8.lt_iff_toNat_lt, UInt8.toNat_ofNat',
      Nat.mod_eq_of_lt (by omega)]
    exact ⟨hpos, hlt⟩
  rw [points?, detect_of_ascii hbytes]
  exact decodeUtf8_bytes h

/-- **A text in ASCII is what its bytes are read as.** -/
theorem decode_bytes {s : List Char} (h : IsAscii s) : decode (bytes s) = some s := by
  rw [decode, points?_bytes h, Option.map_some, List.map_map]
  simp [Function.comp_def]

end Text

open Text (IsAscii isAscii_append isAscii_cons isAscii_nil isAscii_replicate)

/-! ## Numbers -/

theorem AllDigits.isAscii {s : List Char} (h : AllDigits s) : IsAscii s := by
  intro c hc
  have hnat : 48 ≤ c.toNat ∧ c.toNat ≤ 57 := Char.isDigit_iff_toNat.mp (h c hc)
  omega

theorem Text.isAscii_decimal (n : ℕ) : IsAscii (decimal n).toList := by
  rw [decimal, String.toList_ofList]
  exact (AllDigits.toDigits n).isAscii

theorem Text.isAscii_integer (i : ℤ) : IsAscii (integer i).toList := by
  unfold integer
  split
  · rw [String.toList_append, isAscii_append]
    exact ⟨by decide, isAscii_decimal _⟩
  · exact isAscii_decimal _

namespace Double

theorem isAscii_signText (negative : Bool) : IsAscii (signText negative).toList := by
  cases negative
  all_goals decide

theorem isAscii_exponentText (e : ℤ) : IsAscii (exponentText e).toList := by
  unfold exponentText
  rw [String.toList_append, isAscii_append]
  refine ⟨?_, (Text.allDigits_padded 2 _).isAscii⟩
  split
  all_goals decide

theorem isAscii_positional {ds : List Char} (h : IsAscii ds) (point : ℤ) :
    IsAscii (positional ds point).toList := by
  have hzero : 0 < '0'.toNat ∧ '0'.toNat < 128 := by decide
  have hmark : 0 < '.'.toNat ∧ '.'.toNat < 128 := by decide
  have hwhole (n : ℕ) : IsAscii (ds.take n ++ List.replicate (n - ds.length) '0') :=
    isAscii_append.mpr ⟨h.mono (List.take_subset n ds), isAscii_replicate _ hzero⟩
  unfold positional
  split
  · rw [String.toList_ofList]
    exact isAscii_append.mpr
      ⟨isAscii_cons.mpr ⟨hzero, isAscii_cons.mpr ⟨hmark, isAscii_replicate _ hzero⟩⟩, h⟩
  · dsimp only
    split
    · rw [String.toList_ofList]
      exact hwhole _
    · rw [String.toList_ofList]
      exact isAscii_append.mpr
        ⟨hwhole _, isAscii_cons.mpr ⟨hmark, h.mono (List.drop_subset _ ds)⟩⟩

theorem isAscii_leading {ds : List Char} (h : IsAscii ds) : IsAscii (leading ds).toList := by
  match ds with
  | [] => decide
  | [d] =>
    rw [leading, String.toList_ofList]
    exact h
  | d :: d' :: ds =>
    obtain ⟨hd, hds⟩ := isAscii_cons.mp h
    rw [leading, String.toList_ofList]
    · exact isAscii_cons.mpr ⟨hd, isAscii_cons.mpr ⟨by decide, hds⟩⟩
    · simp

theorem isAscii_magnitudeText (m : ℕ) (e : ℤ) : IsAscii (magnitudeText m e).toList := by
  have hdigits := (AllDigits.toDigits (shortest m e).1).isAscii
  unfold magnitudeText
  dsimp only
  split
  · split
    · rw [String.toList_append, isAscii_append]
      exact ⟨isAscii_positional hdigits _, by decide⟩
    · exact isAscii_positional hdigits _
  · rw [String.toList_append, isAscii_append]
    exact ⟨isAscii_leading hdigits, isAscii_exponentText _⟩

/-- **A number in full is in ASCII.** -/
theorem isAscii_inFull (x : Double) : IsAscii (x.inFull "Infinity" "NaN").toList := by
  cases x with
  | nan =>
    rw [inFull]
    decide
  | infinite negative =>
    rw [inFull, String.toList_append, isAscii_append]
    exact ⟨isAscii_signText negative, by decide⟩
  | finite negative m e =>
    by_cases hm : m = 0
    · rw [inFull, if_pos hm, String.toList_append, isAscii_append]
      exact ⟨isAscii_signText negative, by decide⟩
    · rw [inFull_of_pos _ _ _ _ hm, String.toList_append, isAscii_append]
      exact ⟨isAscii_signText negative, isAscii_magnitudeText m e⟩

end Double

namespace Json

/-! ## Texts -/

theorem isAscii_unitEscape {n : ℕ} (hn : n < 65536) : IsAscii (unitEscape n) := by
  have hdigit : ∀ k < 16, 0 < (Nat.digitChar k).toNat ∧ (Nat.digitChar k).toNat < 128 := by decide
  rw [unitEscape, Text.hex_four hn]
  simp only [isAscii_cons, isAscii_nil, and_true]
  exact ⟨by decide, by decide, hdigit _ (by omega), hdigit _ (by omega), hdigit _ (by omega),
    hdigit _ (by omega)⟩

/-- The letters of escapes are in ASCII. -/
theorem isAscii_of_escaped {e c : Char} (h : escaped? e = some c) : IsAscii [e] := by
  by_contra hne
  have hother {d : Char} (hd : IsAscii [d]) : e ≠ d := fun he => hne (he ▸ hd)
  simp [escaped?, hother (d := '"') (by decide), hother (d := '\\') (by decide),
    hother (d := '/') (by decide), hother (d := 'b') (by decide), hother (d := 'f') (by decide),
    hother (d := 'n') (by decide), hother (d := 'r') (by decide),
    hother (d := 't') (by decide)] at h

/-- **A character of a text is written in ASCII**, whatever it is. -/
theorem isAscii_escapeChar (c : Char) : IsAscii (escapeChar c) := by
  rcases escapeChar_cases c with ⟨-, e, -, he, h⟩ | ⟨hlt, -, -, hle, h⟩ | h
  · rw [h]
    exact isAscii_cons.mpr ⟨by decide, isAscii_of_escaped he⟩
  · rw [h]
    exact isAscii_cons.mpr ⟨by omega, isAscii_nil⟩
  · rw [h]
    exact .flatMap fun n hn => isAscii_unitEscape (Text.unitsOf_lt c n hn)

theorem isAscii_writeText (s : String) : IsAscii (writeText s).toList := by
  rw [writeText, String.toList_ofList, isAscii_append, isAscii_cons]
  exact ⟨⟨by decide, .flatMap fun c _ => isAscii_escapeChar c⟩, by decide⟩

/-! ## Values -/

theorem IsBlank.isAscii {gap : List Char} (h : IsBlank gap) : IsAscii gap := by
  intro c hc
  have hgap := h c hc
  simp only [isGap, Bool.or_eq_true, beq_iff_eq] at hgap
  obtain ((rfl | rfl) | rfl) | rfl := hgap
  all_goals decide

section Written

variable {l : Layout} (hl : l.IsBlank)

include hl

theorem isAscii_between (d : ℕ) : IsAscii (l.between d).toList := by
  obtain ⟨gap, hbetween, hgap⟩ := hl.between d
  rw [hbetween]
  exact isAscii_cons.mpr ⟨by decide, hgap.isAscii⟩

mutual

/-- **A value is written in ASCII**, in any layout of blanks. -/
theorem isAscii_write : ∀ (j : Json) (d : ℕ), IsAscii (j.write l d).toList
  | null, _ => by rw [write]; decide
  | bool true, _ => by rw [write]; decide
  | bool false, _ => by rw [write]; decide
  | int i, _ => by rw [write]; exact Text.isAscii_integer i
  | num x, _ => by rw [write]; exact x.isAscii_inFull
  | str s, _ => by rw [write]; exact isAscii_writeText s
  | arr [], _ => by rw [write]; decide
  | arr (j :: items), d => by
    rw [← List.append_nil (String.toList _), toList_write_arr]
    simp only [isAscii_cons, isAscii_append]
    exact ⟨by decide, (hl.opening d).isAscii, isAscii_write j (d + 1), isAscii_writeItems items d,
      by decide⟩
  | obj [], _ => by rw [write]; decide
  | obj ((k, j) :: members), d => by
    rw [← List.append_nil (String.toList _), toList_write_obj]
    simp only [isAscii_cons, isAscii_append, String.toList_append]
    exact ⟨by decide, (hl.opening d).isAscii, ⟨isAscii_writeText k, by decide⟩,
      isAscii_write j (d + 1), isAscii_writeMembers members d, by decide⟩
termination_by j => sizeOf j

theorem isAscii_writeItems : ∀ (items : List Json) (d : ℕ), IsAscii (writeItems l d items).toList
  | [], d => by rw [writeItems]; exact (hl.closing d).isAscii
  | j :: items, d => by
    rw [← List.append_nil (String.toList _), toList_writeItems]
    simp only [isAscii_append]
    exact ⟨isAscii_between hl d, isAscii_write j (d + 1), isAscii_writeItems items d, isAscii_nil⟩
termination_by items => sizeOf items

theorem isAscii_writeMembers :
    ∀ (members : List (String × Json)) (d : ℕ), IsAscii (writeMembers l d members).toList
  | [], d => by rw [writeMembers]; exact (hl.closing d).isAscii
  | (k, j) :: members, d => by
    rw [← List.append_nil (String.toList _), toList_writeMembers]
    simp only [isAscii_append, String.toList_append]
    exact ⟨isAscii_between hl d, ⟨isAscii_writeText k, by decide⟩, isAscii_write j (d + 1),
      isAscii_writeMembers members d, isAscii_nil⟩
termination_by members => sizeOf members

end

end Written

/-- **The bytes of a written value are read as what was written.** -/
theorem decode_write {l : Layout} (hl : l.IsBlank) (j : Json) (d : ℕ) :
    Text.decode (Text.bytes (j.write l d).toList) = some (j.write l d).toList :=
  Text.decode_bytes (isAscii_write hl j d)

/-- **A value is read from a body that writes it**, in whatever encoding. -/
theorem json_of_written {r : Response} {l : Layout} {j : Json} (hl : l.IsBlank)
    (hc : j.IsCanonical) (hw : j.isWritable = true) (hdepth : j.levels ≤ depthLimit)
    (hbody : Text.decode r.body = some (j.write l 0).toList) : r.json = .ok j := by
  rw [Response.json, hbody]
  exact ofChars_write hl hc hw hdepth

/-! ## Numbers that are too long -/

/-- A whole number starts with a digit or a minus sign. -/
theorem exists_integer (i : ℤ) :
    ∃ c t, (Text.integer i).toList = c :: t ∧ (c.isAlphanum = true ∨ c = '-') := by
  obtain ⟨c, t, hct⟩ := List.exists_cons_of_ne_nil (Nat.toDigits_ne_nil (b := 10) (n := i.natAbs))
  have hc : c.isDigit = true := AllDigits.toDigits i.natAbs c (hct ▸ List.mem_cons_self)
  have hdecimal : (Text.decimal i.natAbs).toList = c :: t := String.toList_ofList.trans hct
  unfold Text.integer
  split
  · exact ⟨'-', c :: t, by rw [String.toList_append, hdecimal]; rfl, .inr rfl⟩
  · exact ⟨c, t, hdecimal, .inl (by simp [Char.isAlphanum, hc])⟩

/-- A power of ten has one digit more than its exponent says. -/
theorem lt_length_toDigits {n : ℕ} (hn : 0 < n) :
    n < (Nat.toDigits 10 (10 ^ n : ℤ).natAbs).length := by
  rw [← not_le, Nat.length_toDigits_le_iff (by decide) hn, Int.natAbs_pow]
  exact lt_irrefl _

/-- **An object that starts with a whole number of too many digits is not read**, whatever
follows. -/
theorem ofChars_overlong (k : String) {i : ℤ}
    (hi : Number.digitLimit < (Nat.toDigits 10 i.natAbs).length) {rest : List Char}
    (hrest : EndsNumber rest) :
    ofChars ('\x7b' :: ((writeText k ++ ": ").toList ++ ((Text.integer i).toList ++ rest))) =
      .error .badValue := by
  obtain ⟨c, t, hct, hc⟩ := exists_integer i
  have hopens : Opens ((Text.integer i).toList ++ rest) := by
    rw [hct]
    exact opens_cons hc _
  have hvalue (depth fuel : ℕ) :
      readValue depth (fuel + 1) ((Text.integer i).toList ++ rest) = .error .badValue := by
    have hword := readWord_integer_eq hrest i
    rw [if_neg (by omega)] at hword
    rw [hct] at hword ⊢
    exact (readValue_cons hc _ depth fuel).trans hword
  obtain ⟨s, hs, hread⟩ := readString_name k ((Text.integer i).toList ++ rest)
  have hgap : skipGap (' ' :: ((Text.integer i).toList ++ rest)) =
      (Text.integer i).toList ++ rest :=
    hopens.skipGap_append (List.forall_mem_singleton.mpr rfl)
  have hcolon (body : List Char) : skipGap (':' :: body) = ':' :: body := skipGap_cons rfl _
  have hmembers (depth fuel : ℕ) : readMembers depth (fuel + 2) ('"' :: s) = .error .badValue := by
    simp only [readMembers, hread, hcolon, hgap, hvalue]
  rw [hs, ofChars, skipGap_cons rfl]
  obtain ⟨n, hn⟩ : ∃ n, 2 * ('\x7b' :: '"' :: s).length + 1 = n + 3 :=
    ⟨2 * s.length + 2, by rw [List.length_cons, List.length_cons]; omega⟩
  have hvalue : readValue depthLimit (n + 3) ('\x7b' :: '"' :: s) = .error .badValue := by
    rw [show depthLimit = 959 + 1 from rfl, readValue_obj_eq (skipGap_cons rfl s) (by simp),
      hmembers]
    rfl
  rw [hn, hvalue]

end Json

end PackageVitals
