import PackageVitals.Proofs.Numeral
import PackageVitals.Proofs.Quotation
import PackageVitals.Record.Stored

/-!
# Written values are read back

A layout writes gaps around the parts of a value and nothing else
(`Layout.IsBlank`), and the reader passes over gaps. So a value is read back as
it was, whatever the layout (`Json.ofChars_write`), under the conditions that a
reader's values satisfy anyway: its numbers are in their only form and its
objects have no name twice (`Json.IsCanonical`), its whole numbers do not have
too many digits (`Json.isWritable`), and it is not nested too deeply
(`Json.levels`).

The proof goes by the structure of the value, with the rest of the text and the
steps that are left as they are. Every step of the reader takes a character, so
that it has enough of them for as long as it has as many as the text is long.
-/

namespace PackageVitals.Json

/-! ## Values in their only form -/

mutual

/-- **Whether a value is in its only form**: its numbers are, and no object has a
name twice. -/
def IsCanonical : Json → Prop
  | num x => x.IsCanonical
  | arr items => AreCanonical items
  | obj members => (members.map Prod.fst).Nodup ∧ HaveCanonical members
  | _ => True

/-- Whether all items are. -/
def AreCanonical : List Json → Prop
  | [] => True
  | j :: rest => IsCanonical j ∧ AreCanonical rest

/-- Whether the values of all members are. -/
def HaveCanonical : List (String × Json) → Prop
  | [] => True
  | (_, j) :: rest => IsCanonical j ∧ HaveCanonical rest

end

theorem areCanonical_iff {items : List Json} : AreCanonical items ↔ ∀ j ∈ items, IsCanonical j := by
  induction items with
  | nil => simp [AreCanonical]
  | cons j rest ih => simp [AreCanonical, ih]

theorem haveCanonical_iff {members : List (String × Json)} :
    HaveCanonical members ↔ ∀ m ∈ members, IsCanonical m.2 := by
  induction members with
  | nil => simp [HaveCanonical]
  | cons m rest ih => simp [HaveCanonical, ih]

/-- A member of a new name is put in at the end. -/
theorem insertMember_of_not_mem {name : String} {value : Json} {members : List (String × Json)}
    (h : name ∉ members.map Prod.fst) :
    insertMember name value members = members ++ [(name, value)] := by
  induction members with
  | nil => rfl
  | cons m rest ih =>
    rw [List.map_cons, List.mem_cons, not_or] at h
    rw [insertMember, if_neg (by simpa using Ne.symm h.1), ih h.2]
    rfl

/-- Members without a name twice are an object as they are. -/
theorem ofMembers_of_nodup {members : List (String × Json)}
    (h : (members.map Prod.fst).Nodup) : ofMembers members = .obj members := by
  have hfold (acc : List (String × Json)) (hacc : ((acc ++ members).map Prod.fst).Nodup) :
      members.foldl (fun acc m => insertMember m.1 m.2 acc) acc = acc ++ members := by
    clear h
    induction members generalizing acc with
    | nil => simp
    | cons m rest ih =>
      have hm : m.1 ∉ acc.map Prod.fst := by
        rw [List.map_append, List.map_cons, List.nodup_append] at hacc
        exact fun hmem => hacc.2.2 _ hmem _ List.mem_cons_self rfl
      rw [List.foldl_cons, insertMember_of_not_mem hm, ih _ (by simpa using hacc)]
      simp
  rw [ofMembers, hfold [] h, List.nil_append]

/-! ## Gaps -/

/-- Whether a text is a gap. -/
def IsBlank (s : List Char) : Prop :=
  ∀ c ∈ s, isGap c = true

theorem skipGap_append {gap : List Char} (h : IsBlank gap) (s : List Char) :
    skipGap (gap ++ s) = skipGap s :=
  List.dropWhile_append_of_pos h

theorem skipGap_cons {c : Char} (h : isGap c = false) (s : List Char) :
    skipGap (c :: s) = c :: s := by
  rw [skipGap, List.dropWhile_cons_of_neg (by simp [h])]

/-- **Whether a layout writes nothing but gaps**, and commas between parts. -/
structure Layout.IsBlank (l : Layout) : Prop where
  opening : ∀ d, Json.IsBlank (l.opening d).toList
  between : ∀ d, ∃ gap, (l.between d).toList = ',' :: gap ∧ Json.IsBlank gap
  closing : ∀ d, Json.IsBlank (l.closing d).toList

theorem Layout.isBlank_line : Layout.line.IsBlank :=
  ⟨fun _ _ => nofun, fun _ => ⟨[' '], show ", ".toList = _ from rfl, by simp [Json.IsBlank, isGap]⟩,
    fun _ _ => nofun⟩

/-- A word starts with a letter, a digit or a minus sign. -/
theorem exists_of_readWord {s : List Char} {r : Json × List Char} (h : readWord s = .ok r) :
    ∃ c t, s = c :: t ∧ (c.isAlphanum = true ∨ c = '-') := by
  have hdigit {negative : Bool} {s : List Char} (h : readNumber negative s = .ok r) :
      ∃ c t, s = c :: t ∧ (c.isAlphanum = true ∨ c = '-') := by
    obtain ⟨c, t, hs, hc⟩ := exists_digit_of_readNumber h
    exact ⟨c, t, hs, .inl (by simp [Char.isAlphanum, hc])⟩
  unfold readWord at h
  dsimp only at h
  split at h
  · next hfind =>
    obtain ⟨w, hw, hafter⟩ := List.exists_of_findSome?_eq_some hfind
    obtain ⟨rest, hrest, -⟩ := Option.map_eq_some_iff.mp hafter
    rw [Text.after?_eq_some_iff] at hrest
    subst hrest
    simp only [List.mem_cons, List.not_mem_nil, or_false] at hw
    obtain rfl | rfl | rfl | rfl | rfl | rfl := hw
    all_goals exact ⟨_, _, rfl, by decide⟩
  · split at h
    · exact ⟨_, _, rfl, .inr rfl⟩
    · exact hdigit h

/-- What starts as a word does is read as one. -/
theorem readValue_cons {c : Char} (hc : c.isAlphanum = true ∨ c = '-') (t : List Char)
    (depth fuel : ℕ) : readValue depth (fuel + 1) (c :: t) = readWord (c :: t) := by
  unfold readValue
  split
  · next heq =>
    rw [(List.cons.inj heq).1] at hc
    exact absurd hc (by decide)
  · next heq =>
    rw [(List.cons.inj heq).1] at hc
    exact absurd hc (by decide)
  · next heq =>
    rw [(List.cons.inj heq).1] at hc
    exact absurd hc (by decide)
  · rfl

/-- What is read as a word is read as a value. -/
theorem readValue_of_readWord {s : List Char} {r : Json × List Char} (h : readWord s = .ok r)
    (depth fuel : ℕ) : readValue depth (fuel + 1) s = .ok r := by
  obtain ⟨c, t, rfl, hc⟩ := exists_of_readWord h
  exact (readValue_cons hc t depth fuel).trans h

theorem readValue_arr_nil (depth fuel : ℕ) (rest : List Char) :
    readValue (depth + 1) (fuel + 1) ('[' :: ']' :: rest) = .ok (.arr [], rest) := by
  simp [readValue, skipGap, isGap]

theorem readValue_obj_nil (depth fuel : ℕ) (rest : List Char) :
    readValue (depth + 1) (fuel + 1) ('\x7b' :: '\x7d' :: rest) = .ok (.obj [], rest) := by
  simp [readValue, skipGap, isGap]

/-- A list that is not empty is read from its items. -/
theorem readValue_arr {depth fuel : ℕ} {s body rest : List Char} {items : List Json}
    (hgap : skipGap s = body) (hne : body.head? ≠ some ']')
    (h : readItems depth fuel body = .ok (items, rest)) :
    readValue (depth + 1) (fuel + 1) ('[' :: s) = .ok (.arr items, rest) := by
  unfold readValue
  split
  · next heq => exact absurd (List.cons.inj heq).1 (by decide)
  · next heq =>
    rw [← (List.cons.inj heq).2, hgap]
    split
    · contradiction
    · exact absurd rfl hne
    · next hdepth _ =>
      obtain rfl := Nat.succ.inj hdepth
      rw [h]
      rfl
  · next heq => exact absurd (List.cons.inj heq).1 (by decide)
  · next _ hopen _ => exact absurd rfl (hopen s)

/-- An object that is not empty is read from its members. -/
theorem readValue_obj_eq {depth fuel : ℕ} {s body : List Char} (hgap : skipGap s = body)
    (hne : body.head? ≠ some '\x7d') : readValue (depth + 1) (fuel + 1) ('\x7b' :: s) =
      (readMembers depth fuel body).map fun r => (ofMembers r.1, r.2) := by
  unfold readValue
  split
  · next heq => exact absurd (List.cons.inj heq).1 (by decide)
  · next heq => exact absurd (List.cons.inj heq).1 (by decide)
  · next heq =>
    rw [← (List.cons.inj heq).2, hgap]
    split
    · contradiction
    · exact absurd rfl hne
    · next hdepth _ =>
      obtain rfl := Nat.succ.inj hdepth
      rfl
  · next _ _ hopen => exact absurd rfl (hopen s)

theorem readValue_obj {depth fuel : ℕ} {s body rest : List Char} {members : List (String × Json)}
    (hgap : skipGap s = body) (hne : body.head? ≠ some '\x7d')
    (h : readMembers depth fuel body = .ok (members, rest)) :
    readValue (depth + 1) (fuel + 1) ('\x7b' :: s) = .ok (ofMembers members, rest) := by
  rw [readValue_obj_eq hgap hne, h]
  rfl

/-- The last item of a list. -/
theorem readItems_last {depth fuel : ℕ} {s t rest : List Char} {j : Json}
    (hj : readValue depth fuel s = .ok (j, t)) (hend : skipGap t = ']' :: rest) :
    readItems depth (fuel + 1) s = .ok ([j], rest) := by
  rw [readItems, hj]
  dsimp only
  rw [hend]
  rfl

/-- An item with others after it. -/
theorem readItems_cons {depth fuel : ℕ} {s t u body rest : List Char} {j : Json}
    {items : List Json} (hj : readValue depth fuel s = .ok (j, t)) (hcomma : skipGap t = ',' :: u)
    (hgap : skipGap u = body) (h : readItems depth fuel body = .ok (items, rest)) :
    readItems depth (fuel + 1) s = .ok (j :: items, rest) := by
  rw [readItems, hj]
  dsimp only
  rw [hcomma]
  show (readItems depth fuel (skipGap u)).map _ = _
  rw [hgap, h]
  rfl

/-- The name of a member, and what follows the colon after it. -/
theorem readString_name (k : String) (body : List Char) :
    ∃ s, (writeText k ++ ": ").toList ++ body = '"' :: s ∧
      readString s = .ok (k, ':' :: ' ' :: body) := by
  obtain ⟨t, ht, hread⟩ := readString_writeText k (':' :: ' ' :: body)
  refine ⟨t ++ ':' :: ' ' :: body, ?_, hread⟩
  rw [String.toList_append, ht, show ": ".toList = [':', ' '] from rfl]
  simp

/-- The last member of an object. -/
theorem readMembers_last {depth fuel : ℕ} {body t rest : List Char} {k : String} {j : Json}
    (hgap : skipGap (' ' :: body) = body) (hj : readValue depth fuel body = .ok (j, t))
    (hend : skipGap t = '\x7d' :: rest) :
    readMembers depth (fuel + 1) ((writeText k ++ ": ").toList ++ body) =
      .ok ([(k, j)], rest) := by
  obtain ⟨s, hs, hread⟩ := readString_name k body
  have hcolon : skipGap (':' :: ' ' :: body) = ':' :: ' ' :: body := skipGap_cons rfl _
  simp only [hs, readMembers, hread, hcolon, hgap, hj, hend]

/-- A member with others after it. -/
theorem readMembers_cons {depth fuel : ℕ} {body body' t u rest : List Char} {k : String} {j : Json}
    {members : List (String × Json)} (hgap : skipGap (' ' :: body) = body)
    (hj : readValue depth fuel body = .ok (j, t)) (hcomma : skipGap t = ',' :: u)
    (hgap' : skipGap u = body') (h : readMembers depth fuel body' = .ok (members, rest)) :
    readMembers depth (fuel + 1) ((writeText k ++ ": ").toList ++ body) =
      .ok ((k, j) :: members, rest) := by
  obtain ⟨s, hs, hread⟩ := readString_name k body
  have hcolon : skipGap (':' :: ' ' :: body) = ':' :: ' ' :: body := skipGap_cons rfl _
  simp only [hs, readMembers, hread, hcolon, hgap, hj, hcomma, hgap', h]
  rfl

/-! ## Values -/

/-- A word is read as a value if there is a step for it. -/
theorem readValue_word {text rest : List Char} {j : Json} (depth : ℕ) {fuel : ℕ}
    (h : ∀ t, EndsNumber t → readWord (text ++ t) = .ok (j, t)) (hfuel : text.length ≤ fuel)
    (hrest : EndsNumber rest) : readValue depth fuel (text ++ rest) = .ok (j, rest) := by
  obtain ⟨c, t, htext, -⟩ := exists_of_readWord (h [] nofun)
  rw [List.append_nil] at htext
  rw [htext, List.length_cons] at hfuel
  obtain ⟨n, rfl⟩ : ∃ n, fuel = n + 1 := ⟨fuel - 1, by omega⟩
  exact readValue_of_readWord (h rest hrest) depth n

/-- **Whether a value may start here**: at no gap and no closing bracket. -/
def Opens (s : List Char) : Prop :=
  ∃ c t, s = c :: t ∧ isGap c = false ∧ c ≠ ']' ∧ c ≠ '\x7d'

theorem Opens.skipGap_append {gap s : List Char} (h : Opens s) (hgap : Json.IsBlank gap) :
    skipGap (gap ++ s) = s := by
  obtain ⟨c, t, rfl, hc, -⟩ := h
  rw [Json.skipGap_append hgap, skipGap_cons hc]

theorem Opens.head_ne {s : List Char} (h : Opens s) :
    s.head? ≠ some ']' ∧ s.head? ≠ some '\x7d' := by
  obtain ⟨c, t, rfl, -, hbracket, hbrace⟩ := h
  simp [hbracket, hbrace]

/-- A word may start with its first character. -/
theorem opens_cons {c : Char} (hc : c.isAlphanum = true ∨ c = '-') (t : List Char) :
    Opens (c :: t) := by
  have hne {d : Char} (hd : (d.isAlphanum = true ∨ d = '-') = False) : c ≠ d := by
    rintro rfl
    exact hd.mp hc
  refine ⟨c, t, rfl, ?_, hne (by decide), hne (by decide)⟩
  simp [isGap, hne (d := ' ') (by decide), hne (d := '\n') (by decide),
    hne (d := '\r') (by decide), hne (d := '\t') (by decide)]

/-- What a value is read from starts as a value may. -/
theorem opens_of_readValue {depth fuel : ℕ} {s : List Char} {r : Json × List Char}
    (h : readValue depth fuel s = .ok r) : Opens s := by
  cases fuel with
  | zero =>
    unfold readValue at h
    contradiction
  | succ fuel =>
    unfold readValue at h
    split at h
    · exact ⟨_, _, rfl, rfl, by decide, by decide⟩
    · exact ⟨_, _, rfl, rfl, by decide, by decide⟩
    · exact ⟨_, _, rfl, rfl, by decide, by decide⟩
    · obtain ⟨c, t, rfl, hc⟩ := exists_of_readWord h
      exact opens_cons hc t

theorem opens_of_readItems {depth fuel : ℕ} {s : List Char} {r : List Json × List Char}
    (h : readItems depth fuel s = .ok r) : Opens s := by
  cases fuel with
  | zero =>
    unfold readItems at h
    contradiction
  | succ fuel =>
    unfold readItems at h
    split at h
    · contradiction
    · exact opens_of_readValue ‹_›

theorem opens_of_readMembers {depth fuel : ℕ} {s : List Char}
    {r : List (String × Json) × List Char} (h : readMembers depth fuel s = .ok r) : Opens s := by
  cases fuel with
  | zero =>
    unfold readMembers at h
    contradiction
  | succ fuel =>
    unfold readMembers at h
    split at h
    · exact ⟨_, _, rfl, rfl, by decide, by decide⟩
    · contradiction

/-- A text that starts with a gap, a comma or a closing bracket does not go on with
a number. -/
theorem endsNumber_cons {c : Char} (h : isGap c = true ∨ c ∈ [',', ']', '\x7d']) (s : List Char) :
    EndsNumber (c :: s) := by
  rintro d hd
  obtain rfl := Option.some.inj hd
  simp only [isGap, Bool.or_eq_true, beq_iff_eq, List.mem_cons, List.not_mem_nil, or_false] at h
  obtain (((rfl | rfl) | rfl) | rfl) | rfl | rfl | rfl := h
  all_goals decide

/-- So does a gap before such a text. -/
theorem endsNumber_append {gap : List Char} (hgap : Json.IsBlank gap) {c : Char}
    (hc : c ∈ [',', ']', '\x7d']) (s : List Char) : EndsNumber (gap ++ c :: s) := by
  cases gap with
  | nil => exact endsNumber_cons (.inr hc) s
  | cons g gap => exact endsNumber_cons (.inl (hgap g List.mem_cons_self)) _

/-! ## The text of a value -/

section Text

variable (l : Layout) (d : ℕ)

theorem toList_write_arr (j : Json) (items : List Json) (rest : List Char) :
    (write l d (.arr (j :: items))).toList ++ rest = '[' :: ((l.opening d).toList ++
      ((j.write l (d + 1)).toList ++ ((writeItems l d items).toList ++ ']' :: rest))) := by
  simp only [write, String.toList_append, String.reduceToList, List.append_assoc, List.cons_append,
    List.nil_append]

theorem toList_writeItems (j : Json) (items : List Json) (rest : List Char) :
    (writeItems l d (j :: items)).toList ++ rest = (l.between d).toList ++
      ((j.write l (d + 1)).toList ++ ((writeItems l d items).toList ++ rest)) := by
  simp only [writeItems, String.toList_append, List.append_assoc]

theorem toList_write_obj (k : String) (j : Json) (members : List (String × Json))
    (rest : List Char) : (write l d (.obj ((k, j) :: members))).toList ++ rest =
      '\x7b' :: ((l.opening d).toList ++ ((writeText k ++ ": ").toList ++
        ((j.write l (d + 1)).toList ++
          ((writeMembers l d members).toList ++ '\x7d' :: rest)))) := by
  simp only [write, String.toList_append, String.reduceToList, List.append_assoc, List.cons_append,
    List.nil_append]

theorem toList_writeMembers (k : String) (j : Json) (members : List (String × Json))
    (rest : List Char) : (writeMembers l d ((k, j) :: members)).toList ++ rest =
      (l.between d).toList ++ ((writeText k ++ ": ").toList ++
        ((j.write l (d + 1)).toList ++ ((writeMembers l d members).toList ++ rest))) := by
  simp only [writeMembers, String.toList_append, List.append_assoc]

end Text

/-! ## Reading it back -/

/-- Whether a value is read back where it is written. -/
def ReadsBack (l : Layout) (j : Json) : Prop :=
  ∀ (d depth fuel : ℕ) (rest : List Char), j.IsCanonical → j.isWritable = true →
    j.levels ≤ depth → (j.write l d).toList.length ≤ fuel → EndsNumber rest →
      readValue depth fuel ((j.write l d).toList ++ rest) = .ok (j, rest)

/-- Whether items are read back. -/
def ItemsReadBack (l : Layout) (j : Json) (items : List Json) : Prop :=
  ∀ (d depth fuel : ℕ) (rest : List Char), AreCanonical (j :: items) →
    areWritable (j :: items) = true → itemLevels (j :: items) ≤ depth →
    (j.write l (d + 1)).toList.length + (writeItems l d items).toList.length < fuel →
      readItems depth fuel ((j.write l (d + 1)).toList ++
        ((writeItems l d items).toList ++ ']' :: rest)) = .ok (j :: items, rest)

/-- Whether members are read back. -/
def MembersReadBack (l : Layout) (k : String) (j : Json) (members : List (String × Json)) : Prop :=
  ∀ (d depth fuel : ℕ) (rest : List Char), HaveCanonical ((k, j) :: members) →
    haveWritable ((k, j) :: members) = true → memberLevels ((k, j) :: members) ≤ depth →
    (j.write l (d + 1)).toList.length + (writeMembers l d members).toList.length < fuel →
      readMembers depth fuel ((writeText k ++ ": ").toList ++ ((j.write l (d + 1)).toList ++
        ((writeMembers l d members).toList ++ '\x7d' :: rest))) = .ok ((k, j) :: members, rest)

/-- A value starts after the space that is written before it. -/
theorem skipGap_space {depth fuel : ℕ} {body : List Char} {r : Json × List Char}
    (h : readValue depth fuel body = .ok r) : skipGap (' ' :: body) = body :=
  (opens_of_readValue h).skipGap_append (List.forall_mem_singleton.mpr rfl)

section Written

variable {l : Layout}

/-- A word is read back as a value. -/
theorem ReadsBack.word {j : Json} (h : ∀ d t, j.IsCanonical → j.isWritable = true → EndsNumber t →
    readWord ((j.write l d).toList ++ t) = .ok (j, t)) : ReadsBack l j :=
  fun d depth _ _ hc hw _ hfuel hrest =>
    readValue_word depth (fun t ht => h d t hc hw ht) hfuel hrest

theorem readsBack_str (s : String) : ReadsBack l (.str s) := by
  intro d depth fuel rest _ _ _ hfuel _
  obtain ⟨t, ht, hread⟩ := readString_writeText s rest
  rw [write, ht, List.length_cons] at hfuel
  obtain ⟨n, rfl⟩ : ∃ n, fuel = n + 1 := ⟨fuel - 1, by omega⟩
  rw [write, ht, List.cons_append, readValue, hread]
  rfl

theorem readsBack_empty : ReadsBack l (.arr []) ∧ ReadsBack l (.obj []) := by
  have harr (d : ℕ) : (write l d (.arr [])).toList = ['[', ']'] := by rw [write]; rfl
  have hobj (d : ℕ) : (write l d (.obj [])).toList = ['\x7b', '\x7d'] := by rw [write]; rfl
  constructor
  · intro d depth fuel rest _ _ hdepth hfuel _
    rw [harr, List.length_cons] at hfuel
    rw [levels] at hdepth
    obtain ⟨n, rfl⟩ : ∃ n, fuel = n + 1 := ⟨fuel - 1, by omega⟩
    obtain ⟨k, rfl⟩ : ∃ k, depth = k + 1 := ⟨depth - 1, by omega⟩
    rw [harr]
    exact readValue_arr_nil k n rest
  · intro d depth fuel rest _ _ hdepth hfuel _
    rw [hobj, List.length_cons] at hfuel
    rw [levels] at hdepth
    obtain ⟨n, rfl⟩ : ∃ n, fuel = n + 1 := ⟨fuel - 1, by omega⟩
    obtain ⟨k, rfl⟩ : ∃ k, depth = k + 1 := ⟨depth - 1, by omega⟩
    rw [hobj]
    exact readValue_obj_nil k n rest

variable (hl : l.IsBlank)

include hl

/-- What follows an item does not go on with a number. -/
theorem endsNumber_writeItems (d : ℕ) (items : List Json) (rest : List Char) :
    EndsNumber ((writeItems l d items).toList ++ ']' :: rest) := by
  cases items with
  | nil => exact endsNumber_append (hl.closing d) (by decide) rest
  | cons j items =>
    obtain ⟨gap, hgap, -⟩ := hl.between d
    rw [toList_writeItems, hgap]
    exact endsNumber_cons (.inr (by decide)) _

/-- What follows a member does not, either. -/
theorem endsNumber_writeMembers (d : ℕ) (members : List (String × Json)) (rest : List Char) :
    EndsNumber ((writeMembers l d members).toList ++ '\x7d' :: rest) := by
  cases members with
  | nil => exact endsNumber_append (hl.closing d) (by decide) rest
  | cons m members =>
    obtain ⟨gap, hgap, -⟩ := hl.between d
    rw [toList_writeMembers, hgap]
    exact endsNumber_cons (.inr (by decide)) _

theorem ItemsReadBack.arr {j : Json} {items : List Json} (h : ItemsReadBack l j items) :
    ReadsBack l (.arr (j :: items)) := by
  intro d depth fuel rest hc hw hdepth hfuel _
  rw [levels] at hdepth
  rw [isWritable] at hw
  rw [IsCanonical] at hc
  have hlen := congrArg List.length (toList_write_arr l d j items [])
  simp only [List.append_nil, List.length_cons, List.length_append, List.length_nil] at hlen
  obtain ⟨n, rfl⟩ : ∃ n, fuel = n + 1 := ⟨fuel - 1, by omega⟩
  obtain ⟨k, rfl⟩ : ∃ k, depth = k + 1 := ⟨depth - 1, by omega⟩
  have hitems := h d k n rest hc hw (by omega) (by omega)
  have hopens := opens_of_readItems hitems
  rw [toList_write_arr]
  exact readValue_arr (hopens.skipGap_append (hl.opening d)) hopens.head_ne.1 hitems

theorem MembersReadBack.obj {k : String} {j : Json} {members : List (String × Json)}
    (h : MembersReadBack l k j members) : ReadsBack l (.obj ((k, j) :: members)) := by
  intro d depth fuel rest hc hw hdepth hfuel _
  rw [levels] at hdepth
  rw [isWritable] at hw
  rw [IsCanonical] at hc
  have hlen := congrArg List.length (toList_write_obj l d k j members [])
  simp only [List.append_nil, List.length_cons, List.length_append, List.length_nil] at hlen
  generalize (writeText k ++ ": ").toList.length = name at hlen
  obtain ⟨n, rfl⟩ : ∃ n, fuel = n + 1 := ⟨fuel - 1, by omega⟩
  obtain ⟨levels, rfl⟩ : ∃ k, depth = k + 1 := ⟨depth - 1, by omega⟩
  have hmembers := h d levels n rest hc.2 hw (by omega) (by omega)
  have hopens := opens_of_readMembers hmembers
  rw [toList_write_obj, ← ofMembers_of_nodup hc.1]
  exact readValue_obj (hopens.skipGap_append (hl.opening d)) hopens.head_ne.2 hmembers

/-- The last item. -/
theorem ReadsBack.item {j : Json} (h : ReadsBack l j) : ItemsReadBack l j [] := by
  intro d depth fuel rest hc hw hdepth hfuel
  rw [itemLevels] at hdepth
  rw [areWritable, Bool.and_eq_true] at hw
  rw [AreCanonical] at hc
  obtain ⟨n, rfl⟩ : ∃ n, fuel = n + 1 := ⟨fuel - 1, by omega⟩
  have hj := h (d + 1) depth n _ hc.1 hw.1 (by omega) (by omega)
    (endsNumber_writeItems hl d [] rest)
  exact readItems_last hj (by rw [writeItems, skipGap_append (hl.closing d), skipGap_cons rfl])

/-- An item with others after it. -/
theorem ItemsReadBack.cons {j j' : Json} {items : List Json} (h : ReadsBack l j)
    (hitems : ItemsReadBack l j' items) : ItemsReadBack l j (j' :: items) := by
  intro d depth fuel rest hc hw hdepth hfuel
  rw [itemLevels] at hdepth
  rw [areWritable, Bool.and_eq_true] at hw
  rw [AreCanonical] at hc
  have hlen := congrArg List.length (toList_writeItems l d j' items [])
  obtain ⟨gap, hbetween, hgap⟩ := hl.between d
  simp only [hbetween, List.append_nil, List.length_cons, List.length_append] at hlen
  obtain ⟨n, rfl⟩ : ∃ n, fuel = n + 1 := ⟨fuel - 1, by omega⟩
  have hj := h (d + 1) depth n _ hc.1 hw.1 (by omega) (by omega)
    (endsNumber_writeItems hl d (j' :: items) rest)
  have hothers := hitems d depth n rest hc.2 hw.2 (by omega) (by omega)
  rw [toList_writeItems, hbetween] at hj ⊢
  exact readItems_cons hj (skipGap_cons rfl _)
    ((opens_of_readItems hothers).skipGap_append hgap) hothers

/-- The last member. -/
theorem ReadsBack.member {j : Json} (h : ReadsBack l j) (k : String) :
    MembersReadBack l k j [] := by
  intro d depth fuel rest hc hw hdepth hfuel
  rw [memberLevels] at hdepth
  rw [haveWritable, Bool.and_eq_true] at hw
  rw [HaveCanonical] at hc
  obtain ⟨n, rfl⟩ : ∃ n, fuel = n + 1 := ⟨fuel - 1, by omega⟩
  have hj := h (d + 1) depth n _ hc.1 hw.1 (by omega) (by omega)
    (endsNumber_writeMembers hl d [] rest)
  exact readMembers_last (skipGap_space hj) hj
    (by rw [writeMembers, skipGap_append (hl.closing d), skipGap_cons rfl])

/-- A member with others after it. -/
theorem MembersReadBack.cons {j j' : Json} {k' : String} {members : List (String × Json)}
    (h : ReadsBack l j) (k : String) (hmembers : MembersReadBack l k' j' members) :
    MembersReadBack l k j ((k', j') :: members) := by
  intro d depth fuel rest hc hw hdepth hfuel
  rw [memberLevels] at hdepth
  rw [haveWritable, Bool.and_eq_true] at hw
  rw [HaveCanonical] at hc
  have hlen := congrArg List.length (toList_writeMembers l d k' j' members [])
  obtain ⟨gap, hbetween, hgap⟩ := hl.between d
  simp only [hbetween, List.append_nil, List.length_cons, List.length_append] at hlen
  generalize (writeText k' ++ ": ").toList.length = name at hlen
  obtain ⟨n, rfl⟩ : ∃ n, fuel = n + 1 := ⟨fuel - 1, by omega⟩
  have hj := h (d + 1) depth n _ hc.1 hw.1 (by omega) (by omega)
    (endsNumber_writeMembers hl d ((k', j') :: members) rest)
  have hothers := hmembers d depth n rest hc.2 hw.2 (by omega) (by omega)
  rw [toList_writeMembers, hbetween] at hj ⊢
  exact readMembers_cons (skipGap_space hj) hj (skipGap_cons rfl _)
    ((opens_of_readMembers hothers).skipGap_append hgap) hothers

mutual

/-- **A written value is read back**, with what follows it left over. -/
theorem readsBack : ∀ j : Json, ReadsBack l j
  | null => .word fun _ t _ _ _ => readWord_null t
  | bool true => .word fun _ t _ _ _ => readWord_true t
  | bool false => .word fun _ t _ _ _ => readWord_false t
  | int _ => .word fun _ _ _ hw ht => readWord_integer (of_decide_eq_true hw) ht
  | num _ => .word fun _ _ hc _ ht => readWord_inFull hc ht
  | str s => readsBack_str s
  | arr [] => readsBack_empty.1
  | arr (j :: items) => (itemsReadBack j items).arr hl
  | obj [] => readsBack_empty.2
  | obj ((k, j) :: members) => (membersReadBack k j members).obj hl
termination_by j => sizeOf j

theorem itemsReadBack : ∀ (j : Json) (items : List Json), ItemsReadBack l j items
  | j, [] => (readsBack j).item hl
  | j, j' :: items => .cons hl (readsBack j) (itemsReadBack j' items)
termination_by j items => sizeOf (j :: items)

theorem membersReadBack : ∀ (k : String) (j : Json) (members : List (String × Json)),
    MembersReadBack l k j members
  | k, j, [] => (readsBack j).member hl k
  | k, j, (k', j') :: members => .cons hl (readsBack j) k (membersReadBack k' j' members)
termination_by k j members => sizeOf ((k, j) :: members)

end

end Written

/-- **A written value is read as it was**, in whatever layout. -/
theorem ofChars_write {l : Layout} (hl : l.IsBlank) {j : Json} (hc : j.IsCanonical)
    (hw : j.isWritable = true) (hdepth : j.levels ≤ depthLimit) :
    ofChars (j.write l 0).toList = .ok j := by
  have hread := readsBack hl j 0 depthLimit (2 * (j.write l 0).toList.length + 1) [] hc hw hdepth
    (by omega) nofun
  rw [List.append_nil] at hread
  have hgap : skipGap (j.write l 0).toList = (j.write l 0).toList :=
    (opens_of_readValue hread).skipGap_append (List.forall_mem_nil _)
  rw [ofChars, hgap, hread]
  rfl

end PackageVitals.Json
