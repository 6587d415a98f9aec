import Mathlib.Data.Bool.AllAny
import PackageVitals.Proofs.Numeral
import PackageVitals.Proofs.Paging

/-!
# Counting a list by its last page

The link header is a list of **entries** (`PageLink`), each the address of a page in
angle brackets and the relation that it stands in. The number of the last page
is looked for in the header as it is written, from left to right, and can be found
only where a page number starts in an address: nowhere else is there a mark with
`page=` after it, and what is written inside the brackets does not reach beyond
them. What is found is therefore the number in the entry of the last page, in
whatever order the entries and the parts of a query are (`lastPage?_linkHeader`).

A server that answers the request for one item so counts the list that it
lists (`Client.count_agrees`). The number is read like any other, so that one with
more than `Number.digitLimit` digits, leading zeros among them, is none
(`count_overlong`).
-/

namespace PackageVitals

open Text (after? after?_eq_some_iff append_inj_of_class digitValue? isBlank isSpace trimBy)

/-! ## Numbers in ASCII digits -/

section Digits

variable {c : Char} {cs : List Char}

theorem toNat_of_isDigit (h : c.isDigit = true) : 48 ≤ c.toNat ∧ c.toNat ≤ 57 := by
  obtain ⟨h₁, h₂⟩ : '0' ≤ c ∧ c ≤ '9' := by simpa [Char.isDigit, Char.le_def] using h
  exact ⟨UInt32.le_iff_toNat_le.mp h₁, UInt32.le_iff_toNat_le.mp h₂⟩

/-- An ASCII digit is one of the decimal digits of all scripts. -/
theorem digitValue?_of_isDigit (h : c.isDigit = true) :
    digitValue? c = some (c.toNat - '0'.toNat) := by
  obtain ⟨h₁, h₂⟩ := toNat_of_isDigit h
  unfold digitValue? Text.zeros
  rw [List.find?_cons_of_pos (by simp; omega)]
  rfl

theorem isSpace_of_isDigit (h : c.isDigit = true) : isSpace c = false := by
  obtain ⟨h₁, h₂⟩ := toNat_of_isDigit h
  have hblank : Text.isBlank c = false := Text.isBlank_of_shown (by omega) (by omega)
  exact Bool.eq_false_iff.mpr fun hspace =>
    Bool.eq_false_iff.mp hblank (Text.isBlank_of_isSpace hspace)

theorem Text.le_length_padded (width n : Nat) : width ≤ (Text.padded width n).toList.length := by
  rw [Text.toList_padded, List.length_append, List.length_replicate]
  omega

namespace AllDigits

/-- Digits are read as far as they go. -/
theorem digitsAfter (h : AllDigits cs) :
    Number.digitsAfter digitValue? cs = (digitValues cs, []) := by
  induction cs with
  | nil => rfl
  | cons c cs ih =>
    obtain ⟨hc, hcs⟩ := List.forall_mem_cons.mp h
    have hne : c ≠ '_' := by
      rintro rfl
      cases hc
    rw [Number.digitsAfter, digitValue?_of_isDigit hc, ih hcs]
    · rfl
    · exact fun _ _ hd _ => hne hd

/-- **A number in ASCII digits is read** unless it has too many of them. -/
theorem readInt? (h : AllDigits cs) (hne : cs ≠ []) : Number.readInt? cs =
    if cs.length ≤ Number.digitLimit then some (Nat.ofDigitChars 10 cs 0 : Int) else none := by
  have hspace : ∀ c ∈ cs, isSpace c = false := fun c hc => isSpace_of_isDigit (h c hc)
  have htrim : trimBy isSpace cs = cs := by
    have hall : trimBy isSpace ([] ++ (cs ++ [])) = cs :=
      Text.trimBy_append (by simp) (by simp) (fun c hc => hspace c (List.mem_of_mem_head? hc))
        (fun c hc => hspace c (List.mem_of_mem_getLast? hc))
    simpa using hall
  obtain ⟨c, cs, rfl⟩ := List.exists_cons_of_ne_nil hne
  obtain ⟨hc, hcs⟩ := List.forall_mem_cons.mp h
  have hsign : Number.splitSign (c :: cs) = (false, c :: cs) := by
    unfold Number.splitSign
    split
    · next heq =>
      obtain ⟨rfl, -⟩ := List.cons.inj heq
      cases hc
    · next heq =>
      obtain ⟨rfl, -⟩ := List.cons.inj heq
      cases hc
    · rfl
  have hrun : Number.digitRun digitValue? (c :: cs) = (digitValues (c :: cs), []) := by
    rw [Number.digitRun, digitValue?_of_isDigit hc, AllDigits.digitsAfter hcs]
    rfl
  have hlength : (digitValues (c :: cs)).length = (c :: cs).length := List.length_map _
  unfold Number.readInt?
  rw [htrim, hsign]
  dsimp only
  rw [hrun]
  show (if (digitValues (c :: cs)).length ≤ _ then some (Number.signed false _) else none) = _
  rw [hlength, ofDigits_digitValues]
  rfl

end AllDigits

end Digits

namespace GitHub

/-! ## Entries of the link header -/

/-- Whether a character is one of the two marks that a parameter starts with. -/
def isMark (c : Char) : Bool :=
  c == '?' || c == '&'

theorem isMark_iff {c : Char} : isMark c = true ↔ c = '?' ∨ c = '&' := by
  simp [isMark]

/-- **How often the parameter of a page starts** in a text. -/
def pageMarks : List Char → Nat
  | [] => 0
  | c :: s => (if isMark c && "page=".toList.isPrefixOf s then 1 else 0) + pageMarks s

/-- **An entry of a link header**: the address of a page, cut at the number of the
page, and the relation that the page stands in. -/
structure PageLink where
  /-- What stands before the parameter of the page. -/
  before : List Char
  /-- The mark that the parameter starts with. -/
  mark : Char
  /-- The number of the page. -/
  digits : List Char
  /-- What follows the number. -/
  after : List Char
  /-- The relation. -/
  rel : List Char
  /-- A parameter starts with one of two marks. -/
  isMark_mark : isMark mark = true
  /-- The number has digits. -/
  digits_ne : digits ≠ []
  /-- They are ASCII digits. -/
  allDigits : AllDigits digits
  /-- Another parameter may follow. -/
  after_head : ∀ c, after.head? = some c → c = '&'
  /-- The address ends at the bracket. -/
  closed : '>' ∉ before ++ after
  /-- The parameter of the page stands nowhere else. -/
  once : pageMarks (before ++ mark :: ("page=".toList ++ (digits ++ after))) = 1
  /-- The relation is written in small letters. -/
  rel_lower : ∀ c ∈ rel, 'a' ≤ c ∧ c ≤ 'z'

namespace PageLink

/-- The address. -/
def target (e : PageLink) : List Char :=
  e.before ++ e.mark :: ("page=".toList ++ (e.digits ++ e.after))

/-- What follows the address. -/
def tail (e : PageLink) : List Char :=
  '>' :: ("; ".toList ++ ("rel=\"".toList ++ (e.rel ++ ['"'])))

/-- **The entry as it is written.** -/
def text (e : PageLink) : List Char :=
  '<' :: (e.target ++ e.tail)

/-- The number of the page. -/
def page (e : PageLink) : Nat :=
  Nat.ofDigitChars 10 e.digits 0

/-- Whether the entry leads to the last page. -/
def IsLast (e : PageLink) : Prop :=
  e.rel = "last".toList

instance (e : PageLink) : Decidable e.IsLast :=
  inferInstanceAs (Decidable (_ = _))

end PageLink

/-- What comes first takes nothing away. -/
theorem pageMarks_le_append (s t : List Char) : pageMarks t ≤ pageMarks (s ++ t) := by
  induction s with
  | nil => exact Nat.le_refl _
  | cons c s ih => exact Nat.le_trans ih (Nat.le_add_left _ _)

theorem pageMarks_append_of_no_mark {s : List Char} (h : ∀ c ∈ s, isMark c = false)
    (t : List Char) : pageMarks (s ++ t) = pageMarks t := by
  induction s with
  | nil => rfl
  | cons c s ih =>
    obtain ⟨hc, hs⟩ := List.forall_mem_cons.mp h
    rw [List.cons_append, pageMarks, hc, ih hs]
    exact Nat.zero_add _

/-- A parameter counts. -/
theorem pageMarks_cons {c : Char} (h : isMark c = true) (s : List Char) :
    pageMarks (c :: ("page=".toList ++ s)) = 1 + pageMarks ("page=".toList ++ s) := by
  have hprefix : "page=".toList.isPrefixOf ("page=".toList ++ s) = true :=
    List.isPrefixOf_iff_prefix.mpr (List.prefix_append _ _)
  rw [pageMarks, h, hprefix]
  rfl

/-- **Where the parameter of a page starts once only**, it starts at one place only. -/
theorem eq_of_pageMarks {s s' t t' : List Char} {c c' : Char} (hc : isMark c = true)
    (hc' : isMark c' = true)
    (h : s ++ c :: ("page=".toList ++ t) = s' ++ c' :: ("page=".toList ++ t'))
    (honce : pageMarks (s ++ c :: ("page=".toList ++ t)) = 1) : s = s' := by
  -- Of two places the one that comes first counts, and so does the other one after it.
  have hfirst {s t r u : List Char} {c c' d : Char} (hc : isMark c = true) (hc' : isMark c' = true)
      (h : c :: ("page=".toList ++ t) = d :: (r ++ c' :: ("page=".toList ++ u))) :
      pageMarks (s ++ c :: ("page=".toList ++ t)) ≠ 1 := by
    have hle := pageMarks_le_append s (c :: ("page=".toList ++ t))
    have hlater := pageMarks_le_append r (c' :: ("page=".toList ++ u))
    rw [← (List.cons.inj h).2, pageMarks_cons hc'] at hlater
    rw [pageMarks_cons hc] at hle
    omega
  rcases List.append_eq_append_iff.mp h with ⟨r, rfl, hr⟩ | ⟨r, rfl, hr⟩
  · cases r with
    | nil => exact (List.append_nil s).symm
    | cons d r => exact absurd honce (hfirst hc hc' hr)
  · cases r with
    | nil => exact List.append_nil s'
    | cons d r => exact absurd (h ▸ honce) (hfirst hc' hc hr)

/-- **A link header.** -/
def linkHeader (links : List PageLink) : List Char :=
  ", ".toList.intercalate (links.map PageLink.text)

/-! ## Looking for the last page -/

/-- The number at the start of a text, if the text goes on as an entry of the last page
does. -/
def lastNumber? (s : List Char) : Option (List Char) :=
  match s.takeWhile Text.isDigit with
  | [] => none
  | digits => do
    let rest ← afterFirst? (· == '>') (s.dropWhile Text.isDigit)
    let rest ← after? ";".toList rest
    let _ ← after? "rel=\"last\"".toList (rest.dropWhile isBlank)
    return digits

theorem after?_append (start rest : List Char) : after? start (start ++ rest) = some rest :=
  after?_eq_some_iff.mpr rfl

/-- What follows the first bracket. -/
theorem afterFirst?_append {s : List Char} {x : Char} (h : x ∉ s) (t : List Char) :
    afterFirst? (· == x) (s ++ x :: t) = some t := by
  have hs : ∀ c ∈ s, (!(c == x)) = true := by
    intro c hc
    rw [Bool.not_eq_true', beq_eq_false_iff_ne]
    exact fun hcx => h (hcx ▸ hc)
  have hdrop : (s ++ x :: t).dropWhile (fun c => !(c == x)) = x :: t :=
    Text.dropWhile_append_of_head? hs fun c hc => by
      obtain rfl : x = c := Option.some.inj hc
      simp
  rw [afterFirst?, hdrop]

theorem lastPageHere?_cons (c : Char) (s : List Char) : lastPageHere? (c :: s) =
    if isMark c then (after? "page=".toList s).bind lastNumber? else none := rfl

theorem lastPageHere?_of_not_mark {c : Char} (h : isMark c = false) (s : List Char) :
    lastPageHere? (c :: s) = none := by
  rw [lastPageHere?_cons, h]
  rfl

/-- Where nothing is found, the search goes on. -/
theorem lastPage?_append {s t : List Char}
    (h : ∀ c pre post, s = pre ++ c :: post → lastPageHere? (c :: (post ++ t)) = none) :
    lastPage? (s ++ t) = lastPage? t := by
  induction s with
  | nil => rfl
  | cons c s ih =>
    rw [List.cons_append, lastPage?, h c [] s rfl]
    exact ih fun d pre post hs => h d (c :: pre) post (by rw [hs]; rfl)

/-- Nothing is found where there is no mark. -/
theorem lastPage?_append_of_no_mark {s : List Char} (h : ∀ c ∈ s, isMark c = false)
    (t : List Char) : lastPage? (s ++ t) = lastPage? t :=
  lastPage?_append fun c _ _ hs =>
    lastPageHere?_of_not_mark (h c (hs ▸ List.mem_append_right _ List.mem_cons_self)) _

namespace PageLink

variable (e : PageLink)

/-- Nothing is found in an address but where its parameter of the page is. -/
theorem lastPageHere?_target {pre post : List Char} {c : Char} (h : e.target = pre ++ c :: post)
    (hne : pre ≠ e.before) (t : List Char) :
    lastPageHere? (c :: (post ++ (e.tail ++ t))) = none := by
  by_cases hc : isMark c = true
  · have honce (rest : List Char) (hr : e.target = pre ++ c :: ("page=".toList ++ rest)) :
        False := hne (eq_of_pageMarks e.isMark_mark hc hr e.once).symm
    have hnone (u : List Char) : after? "page=".toList (post ++ '>' :: u) = none := by
      refine Option.eq_none_iff_forall_ne_some.mpr fun r hr => ?_
      -- The name of the parameter would have to be in the address: it has no bracket.
      rcases List.append_eq_append_iff.mp (after?_eq_some_iff.mp hr) with
        ⟨rest, hname, hrest⟩ | ⟨rest, rfl, -⟩
      · cases rest with
        | nil =>
          rw [List.append_nil] at hname
          exact honce [] (h.trans (by rw [← hname, List.append_nil]))
        | cons d rest =>
          obtain ⟨rfl, -⟩ := List.cons.inj hrest
          have hbracket : '>' ∈ "page=".toList := hname ▸ List.mem_append_right _ List.mem_cons_self
          exact absurd hbracket (by decide)
      · exact honce rest h
    rw [lastPageHere?_cons, if_pos hc]
    show (after? "page=".toList (post ++ '>' :: _)).bind lastNumber? = none
    rw [hnone]
    rfl
  · exact lastPageHere?_of_not_mark (by simpa using hc) _

/-- There is no bracket after the number. -/
theorem not_mem_after : '>' ∉ e.after :=
  fun h => e.closed (List.mem_append_right _ h)

/-- The relation is found if it is that of the last page. -/
theorem after?_rel (t : List Char) :
    after? "rel=\"last\"".toList ("rel=\"".toList ++ (e.rel ++ '"' :: t)) =
      if e.IsLast then some t else none := by
  by_cases hlast : e.IsLast
  · rw [if_pos hlast, show e.rel = "last".toList from hlast]
    exact after?_eq_some_iff.mpr rfl
  · rw [if_neg hlast]
    refine Option.eq_none_iff_forall_ne_some.mpr fun r hr => hlast ?_
    have hquote : ∀ c ∈ e.rel, (c == '"') = false := by
      intro c hc
      refine beq_eq_false_iff_ne.mpr ?_
      rintro rfl
      exact absurd (e.rel_lower _ hc) (by decide)
    have hr := after?_eq_some_iff.mp hr
    have hwhole : "rel=\"".toList ++ (e.rel ++ '"' :: t) =
        "rel=\"".toList ++ ("last".toList ++ '"' :: r) := hr
    have hcut := List.append_cancel_left hwhole
    exact (append_inj_of_class (p := (· == '"')) hquote (List.all_iff_forall_prop.mp (by decide))
      (by rfl) (by rfl) hcut).1

/-- Where it is, the number is found if the entry leads to the last page. -/
theorem lastPageHere?_mark (t : List Char) :
    lastPageHere? (e.mark :: ("page=".toList ++ (e.digits ++ (e.after ++ (e.tail ++ t))))) =
      if e.IsLast then some e.digits else none := by
  have hdigits : ∀ c ∈ e.digits, Text.isDigit c = true := fun c hc => by
    rw [Text.isDigit, digitValue?_of_isDigit (e.allDigits c hc)]
    rfl
  have hrest : ∀ c, (e.after ++ (e.tail ++ t)).head? = some c → Text.isDigit c = false := by
    intro c hc
    cases hafter : e.after with
    | nil =>
      rw [hafter] at hc
      obtain rfl : '>' = c := Option.some.inj hc
      decide
    | cons d rest =>
      rw [hafter] at hc
      obtain rfl : d = c := Option.some.inj hc
      rw [e.after_head d (by rw [hafter]; rfl)]
      decide
  have htail : e.tail ++ t = '>' :: ("; ".toList ++ ("rel=\"".toList ++ (e.rel ++ '"' :: t))) := by
    simp only [tail, List.cons_append, List.append_assoc, List.nil_append]
  rw [lastPageHere?_cons, if_pos e.isMark_mark, after?_append,
    Option.bind_some, lastNumber?, Text.takeWhile_append_of_head? hdigits hrest,
    Text.dropWhile_append_of_head? hdigits hrest, htail, afterFirst?_append e.not_mem_after]
  have hsemicolon (s : List Char) : after? ";".toList ("; ".toList ++ s) = some (' ' :: s) :=
    after?_append ";".toList (' ' :: s)
  have hblank (s : List Char) : (' ' :: 'r' :: s).dropWhile isBlank = 'r' :: s := by
    rw [List.dropWhile_cons_of_pos (by decide), List.dropWhile_cons_of_neg (by decide)]
  obtain ⟨d, ds, hds⟩ := List.exists_cons_of_ne_nil e.digits_ne
  rw [hds]
  simp only [Option.bind_eq_bind, Option.bind_some, hsemicolon]
  have hskip : (' ' :: ("rel=\"".toList ++ (e.rel ++ '"' :: t))).dropWhile isBlank =
      "rel=\"".toList ++ (e.rel ++ '"' :: t) := hblank _
  rw [hskip, e.after?_rel]
  split <;> rfl

/-- **The search takes the number from the entry of the last page**, and passes over
every other one. -/
theorem lastPage?_text (t : List Char) :
    lastPage? (e.text ++ t) = if e.IsLast then some e.digits else lastPage? t := by
  have hstart : lastPage? (e.before ++
      (e.mark :: ("page=".toList ++ (e.digits ++ (e.after ++ (e.tail ++ t)))))) =
      lastPage? (e.mark :: ("page=".toList ++ (e.digits ++ (e.after ++ (e.tail ++ t))))) := by
    refine lastPage?_append fun c pre post h => ?_
    have htarget : e.target =
        pre ++ c :: (post ++ e.mark :: ("page=".toList ++ (e.digits ++ e.after))) := by
      rw [target, h, List.append_assoc, List.cons_append]
    have hne : pre ≠ e.before := fun hpre => by
      have := congrArg List.length (hpre ▸ h)
      simp at this
    have hnone := e.lastPageHere?_target htarget hne t
    simpa only [List.append_assoc, List.cons_append] using hnone
  have hend : lastPage? (("page=".toList ++ (e.digits ++ e.after)) ++ (e.tail ++ t)) =
      lastPage? (e.tail ++ t) := by
    refine lastPage?_append fun c pre post h => ?_
    have htarget : e.target = (e.before ++ e.mark :: pre) ++ c :: post := by
      rw [target, h, List.append_assoc, List.cons_append]
    exact e.lastPageHere?_target htarget (fun hpre => by
      have := congrArg List.length hpre
      simp at this) t
  have htail : lastPage? (e.tail ++ t) = lastPage? t := by
    refine lastPage?_append_of_no_mark (fun c hc => ?_) t
    have hrel {c : Char} (hc : c ∈ e.rel) : isMark c = false := by
      refine Bool.eq_false_iff.mpr fun hmark => ?_
      rcases isMark_iff.mp hmark with rfl | rfl
      · exact absurd (e.rel_lower _ hc) (by decide)
      · exact absurd (e.rel_lower _ hc) (by decide)
    simp only [tail, List.mem_cons, List.mem_append, List.not_mem_nil, or_false] at hc
    rcases hc with rfl | hc | hc | hc | rfl
    · rfl
    · exact (List.all_iff_forall_prop (p := (isMark · = false))).mp (by decide) c hc
    · exact (List.all_iff_forall_prop (p := (isMark · = false))).mp (by decide) c hc
    · exact hrel hc
    · rfl
  have hopen : lastPage? (e.text ++ t) = lastPage? (e.before ++
      (e.mark :: ("page=".toList ++ (e.digits ++ (e.after ++ (e.tail ++ t)))))) := by
    have hangle := lastPage?_append_of_no_mark (s := ['<']) (List.forall_mem_singleton.mpr rfl)
      (e.before ++ (e.mark :: ("page=".toList ++ (e.digits ++ (e.after ++ (e.tail ++ t))))))
    rw [← hangle]
    simp only [text, target, List.append_assoc, List.cons_append, List.nil_append]
  rw [hopen, hstart, lastPage?, e.lastPageHere?_mark]
  by_cases hlast : e.IsLast
  · rw [if_pos hlast, if_pos hlast]
  · rw [if_neg hlast, if_neg hlast]
    simp only [List.append_assoc] at hend
    exact hend.trans htail

end PageLink

/-- A header of several entries is the first one and a header of the others. -/
theorem linkHeader_cons_cons (e e' : PageLink) (links : List PageLink) :
    linkHeader (e :: e' :: links) = e.text ++ (", ".toList ++ linkHeader (e' :: links)) := by
  simp only [linkHeader, List.map_cons, List.intercalate, List.intersperse_cons_cons,
    List.flatten_cons]

/-- **The number of the last page is found in its entry**, wherever that is. -/
theorem lastPage?_linkHeader (links : List PageLink) :
    lastPage? (linkHeader links) = (links.find? fun e => e.IsLast).map PageLink.digits := by
  induction links with
  | nil => rfl
  | cons e links ih =>
    have htext (t : List Char) (ht : lastPage? t = lastPage? (linkHeader links)) :
        lastPage? (e.text ++ t) = ((e :: links).find? fun e => e.IsLast).map PageLink.digits := by
      rw [e.lastPage?_text, ht, ih, List.find?_cons]
      by_cases hlast : e.IsLast <;> simp [hlast]
    cases links with
    | nil =>
      have hone : linkHeader [e] = e.text ++ [] := by simp [linkHeader, List.intercalate]
      rw [hone, htext [] rfl]
    | cons e' links =>
      rw [linkHeader_cons_cons]
      exact htext _ (lastPage?_append_of_no_mark (List.all_iff_forall_prop.mp (by decide)) _)

/-! ## What a count comes to -/

/-- **Whether a response leads to the last page** of a list of several items: its link
header has an entry for it, and one for each relation. -/
structure Linked (items : List Json) (r : Response) (last : PageLink) : Prop where
  /-- There are several items. -/
  many : 1 < items.length
  /-- The response is one of success. -/
  status : r.status = 200
  /-- The entry is in the header. -/
  header : ∃ links, r.header? "Link" = some (String.ofList (linkHeader links)) ∧
    (links.map PageLink.rel).Nodup ∧ last ∈ links
  /-- It leads to the last page. -/
  isLast : last.IsLast
  /-- A page has one item, so that the last one has the number of items. -/
  page : last.page = items.length

/-- **Whether a response holds a whole list** of at most one item. -/
inductive Whole (items : List Json) (r : Response) : Prop
  /-- The list is in the body, and no entry leads to a last page. -/
  | listed {links : List PageLink} : items.length ≤ 1 → r.status = 200 →
      r.json = .ok (.arr items) → (r.header? "Link").getD "" = String.ofList (linkHeader links) →
      (∀ e ∈ links, ¬ e.IsLast) → Whole items r
  /-- There is no body. -/
  | empty : items = [] → r.status = 204 → Whole items r

/-- Looking into a response of success. -/
theorem countIn_of_status {r : Response} (h : r.status = 200) :
    Client.countIn r = match lastPage? ((r.header? "Link").getD "").toList with
      | some digits => match Number.readInt? digits with
        | some n => .ok (some n.toNat)
        | none => .error .badValue
      | none => r.json >>= fun j => j.size >>= fun n => .ok (some n) := by
  have hsuccess : r.ensureSuccess = .ok () := by
    simp [Response.ensureSuccess, Response.isSuccess, h]
  unfold Client.countIn
  rw [if_neg (by rw [h]; decide), hsuccess]
  show (if r.status = 204 then _ else _) = _
  rw [if_neg (by rw [h]; decide)]
  cases lastPage? ((r.header? "Link").getD "").toList with
  | some digits => cases Number.readInt? digits <;> rfl
  | none => rfl

/-- **The number of the last page is the count**, if it can be read. -/
theorem Linked.countIn {items : List Json} {r : Response} {last : PageLink}
    (h : Linked items r last) : Client.countIn r =
      if last.digits.length ≤ Number.digitLimit then .ok (some items.length)
      else .error .badValue := by
  obtain ⟨links, hheader, hnodup, hmem⟩ := h.header
  have hfind : links.find? (fun e => e.IsLast) = some last := by
    have hsome : (links.find? fun e => e.IsLast).isSome = true :=
      List.find?_isSome.mpr ⟨last, hmem, by simpa using h.isLast⟩
    obtain ⟨e, he⟩ := Option.isSome_iff_exists.mp hsome
    have hrel : e.rel = last.rel := by
      have hlast : e.IsLast := by simpa using List.find?_some he
      exact Eq.trans hlast (Eq.symm h.isLast)
    rw [he, List.inj_on_of_nodup_map hnodup (List.mem_of_find?_eq_some he) hmem hrel]
  rw [countIn_of_status h.status, hheader, Option.getD_some, String.toList_ofList,
    lastPage?_linkHeader, hfind, Option.map_some]
  dsimp only
  rw [last.allDigits.readInt? last.digits_ne]
  by_cases hbrief : last.digits.length ≤ Number.digitLimit
  · rw [if_pos hbrief, if_pos hbrief]
    show Except.ok (some last.page) = _
    rw [h.page]
  · rw [if_neg hbrief, if_neg hbrief]

/-- A whole list is as long as it is. -/
theorem Whole.countIn {items : List Json} {r : Response} (h : Whole items r) :
    Client.countIn r = .ok (some items.length) := by
  cases h with
  | @listed links _ hstatus hjson hheader hlast =>
    have hfind : links.find? (fun e => e.IsLast) = none :=
      List.find?_eq_none.mpr fun e he => by simpa using hlast e he
    rw [countIn_of_status hstatus, hheader, String.toList_ofList, lastPage?_linkHeader, hfind,
      hjson]
    rfl
  | empty hitems hstatus =>
    have hsuccess : r.ensureSuccess = .ok () := by
      simp [Response.ensureSuccess, Response.isSuccess, hstatus]
    unfold Client.countIn
    rw [hstatus, hsuccess, hitems]
    rfl

namespace Client

variable {w : World σ} {c : Client} {path : String} {form : Form}

/-- Counting asks once. -/
theorem fetches_count {p : Request}
    (hp : c.Reaches path (some (Json.insertMember "per_page" (.int 1) form)) p) (s : σ) :
    w.Fetches (c.count path form) s [p] ((w.reply p s).1 >>= countIn) := by
  have hattempt : (c.count path form).attempt = .send p fun r => .done (r >>= countIn) := by
    unfold count
    rw [Action.attempt_bind, attempt_get hp]
    show Program.send _ _ = _
    congr 1
    funext r
    cases r <;> rfl
  unfold World.Fetches
  rw [hattempt]
  exact ⟨rfl, rfl⟩

/-- **Counting agrees with listing.** Where a server lists some items and answers the
request for one of them with the whole list, or with a link to the last page that
numbers it in no more than `Number.digitLimit` digits, the count is the length of
what reading the list comes to. -/
theorem count_agrees (w : World σ) (c : Client) (path : String) (form : Form) (size : Nat)
    (items : List Json) (q : Nat → Request) (p : Request) (s s' : σ)
    (h : Lists w c path form size items q) (hpatience : items.length / size < c.patience)
    (hp : c.Reaches path (some (Json.insertMember "per_page" (.int 1) form)) p)
    (hcount : ∀ t, ∃ r, (w.reply p t).1 = .ok r ∧
      (Whole items r ∨ ∃ last, Linked items r last ∧ last.digits.length ≤ Number.digitLimit)) :
    w.Fetches (c.count path form) s [p] (.ok (some items.length)) ∧
      w.Fetches (c.pages path form none) s' ((List.range (items.length / size + 1)).map q)
        (.ok items) := by
  refine ⟨?_, h.fetches_all hpatience s'⟩
  obtain ⟨r, hr, hanswer⟩ := hcount s
  have hfetches := fetches_count (w := w) hp s
  rw [hr] at hfetches
  have hok : countIn r = .ok (some items.length) := by
    rcases hanswer with hwhole | ⟨last, hlinked, hbrief⟩
    · exact hwhole.countIn
    · rw [hlinked.countIn, if_pos hbrief]
  exact hok ▸ hfetches

end Client

/-! ## Three numbers, counted -/

theorem isMark_of_isDigit {c : Char} (h : c.isDigit = true) : isMark c = false := by
  refine Bool.eq_false_iff.mpr fun hmark => ?_
  rcases isMark_iff.mp hmark with rfl | rfl
  · cases h
  · cases h

/-- An entry for a page of the numbers, its number written with at least the given count
of digits. -/
def numberLink (rel : String) (width n : Nat) (hrel : ∀ c ∈ rel.toList, 'a' ≤ c ∧ c ≤ 'z') :
    PageLink where
  before := "http://h/x?per_page=1".toList
  mark := '&'
  digits := (Text.padded width n).toList
  after := []
  rel := rel.toList
  isMark_mark := rfl
  digits_ne := Text.padded_ne_nil width n
  allDigits := Text.allDigits_padded width n
  after_head _ h := nomatch h
  closed := by decide
  once := by
    have hnumber : pageMarks ("page=".toList ++ ((Text.padded width n).toList ++ [])) = 0 := by
      rw [← List.append_assoc]
      refine pageMarks_append_of_no_mark (fun c hc => ?_) []
      rcases List.mem_append.mp hc with hc | hc
      · exact (List.all_iff_forall_prop (p := (isMark · = false))).mp (by decide) c hc
      · exact isMark_of_isDigit (Text.allDigits_padded width n c hc)
    show pageMarks ("http://h/x".toList ++ '?' :: ("per_page=1".toList ++ '&' :: _)) = 1
    rw [pageMarks_append_of_no_mark (List.all_iff_forall_prop.mp (by decide)), pageMarks,
      pageMarks_append_of_no_mark (List.all_iff_forall_prop.mp (by decide)), pageMarks_cons rfl,
      hnumber]
    rfl
  rel_lower := hrel

/-- The request for one of the numbers. -/
def oneNumber : Request := ⟨"http://h/x?per_page=1", hasty.headers⟩

/-- The numbers, with links where one of them is asked for. -/
def linkedNumbers (links : List PageLink) : World Unit where
  reply q s :=
    if q = oneNumber then (.ok ⟨200, [("Link", String.ofList (linkHeader links))], [91, 49, 93]⟩, s)
    else numbers.reply q s
  clock := numbers.clock
  turn := numbers.turn

theorem lists_linkedNumbers (links : List PageLink) :
    Client.Lists (linkedNumbers links) hasty "/x" [("per_page", .int 2)] 2
      [.int 1, .int 2, .int 3] numberPage where
  toPaged := lists_numbers.toPaged
  serves i hi s := by
    have hother : numberPage i ≠ oneNumber := by
      match i with
      | 0 => decide
      | 1 => decide
    show Serves _ (if numberPage i = oneNumber then _ else _ : Reply × Unit).1
    rw [if_neg hother]
    exact lists_numbers.serves i hi s

theorem linked_numbers (links : List PageLink) (last : PageLink)
    (hnodup : (links.map PageLink.rel).Nodup) (hmem : last ∈ links) (hlast : last.IsLast)
    (hpage : last.page = 3) (s : Unit) : ∃ r, ((linkedNumbers links).reply oneNumber s).1 = .ok r ∧
      Linked [.int 1, .int 2, .int 3] r last := by
  refine ⟨_, rfl, by decide, rfl, ⟨links, ?_, hnodup, hmem⟩, hlast, hpage⟩
  have hfilter (v : String) : [("Link", v)].filter (fun h => h.1.toLower == "Link".toLower) =
      [("Link", v)] := List.filter_cons_of_pos (by simp)
  show headerValue? [("Link", _)] "Link" = _
  unfold headerValue?
  dsimp only
  rw [hfilter]
  rfl

theorem reaches_oneNumber : hasty.Reaches "/x" (some (Json.insertMember "per_page" (.int 1)
    [("per_page", .int 2)])) oneNumber :=
  ⟨_, rfl, rfl, rfl⟩

section NumberLink

variable (rel : String) (width n : Nat) (hrel : ∀ c ∈ rel.toList, 'a' ≤ c ∧ c ≤ 'z')

theorem digits_numberLink :
    (numberLink rel width n hrel).digits = (Text.padded width n).toList := by
  delta numberLink
  dsimp only

theorem page_numberLink : (numberLink rel width n hrel).page = n := by
  rw [PageLink.page, digits_numberLink]
  exact Text.ofDigitChars_padded width n

theorem not_brief_numberLink (h : Number.digitLimit < width) :
    ¬ (numberLink rel width n hrel).digits.length ≤ Number.digitLimit := by
  rw [digits_numberLink]
  exact Nat.not_le.mpr (Nat.lt_of_lt_of_le h (Text.le_length_padded width n))

end NumberLink

/-- The entry for the second page. -/
def secondPage : PageLink := numberLink "next" 1 2 (List.all_iff_forall_prop.mp (by decide))

/-- The entry for the third page, which is the last. -/
def thirdPage : PageLink := numberLink "last" 1 3 (List.all_iff_forall_prop.mp (by decide))

theorem count_agrees_numbers :
    (linkedNumbers [secondPage, thirdPage]).Fetches (hasty.count "/x" [("per_page", .int 2)]) ()
      [oneNumber] (.ok (some 3)) ∧
    (linkedNumbers [secondPage, thirdPage]).Fetches (hasty.pages "/x" [("per_page", .int 2)] none)
      () [numberPage 0, numberPage 1] (.ok [.int 1, .int 2, .int 3]) := by
  refine Client.count_agrees (linkedNumbers [secondPage, thirdPage]) hasty "/x"
    [("per_page", .int 2)] 2 [.int 1, .int 2, .int 3] numberPage oneNumber () ()
    (lists_linkedNumbers _) (by decide) reaches_oneNumber fun t => ?_
  obtain ⟨r, hr, hlinked⟩ := linked_numbers [secondPage, thirdPage] thirdPage
    (by decide) (by simp) rfl (page_numberLink _ 1 3 _) t
  exact ⟨r, hr, .inr ⟨thirdPage, hlinked, by decide⟩⟩

/-- The entry for the third page, its number written with a digit too many. -/
def overlongPage : PageLink :=
  numberLink "last" (Number.digitLimit + 1) 3 (List.all_iff_forall_prop.mp (by decide))

/-- **A page number of too many digits is none**: three items are listed, and the entry of
the last page has the number three, but its leading zeros are counted. -/
theorem count_overlong :
    Client.Lists (linkedNumbers [overlongPage]) hasty "/x" [("per_page", .int 2)] 2
      [.int 1, .int 2, .int 3] numberPage ∧
    hasty.Reaches "/x" (some (Json.insertMember "per_page" (.int 1) [("per_page", .int 2)]))
      oneNumber ∧
    (∀ t, ∃ r, ((linkedNumbers [overlongPage]).reply oneNumber t).1 = .ok r ∧
      Linked [.int 1, .int 2, .int 3] r overlongPage) ∧
    (linkedNumbers [overlongPage]).Fetches (hasty.pages "/x" [("per_page", .int 2)] none) ()
      [numberPage 0, numberPage 1] (.ok [.int 1, .int 2, .int 3]) ∧
    (linkedNumbers [overlongPage]).Fetches (hasty.count "/x" [("per_page", .int 2)]) ()
      [oneNumber] (.error .badValue) := by
  have hlinked := linked_numbers [overlongPage] overlongPage (by simp) (by simp) rfl
    (page_numberLink _ (Number.digitLimit + 1) 3 _)
  refine ⟨lists_linkedNumbers _, reaches_oneNumber, hlinked,
    (lists_linkedNumbers _).fetches_all (by decide) (), ?_⟩
  obtain ⟨r, hr, h⟩ := hlinked ()
  have hlong : ¬ overlongPage.digits.length ≤ Number.digitLimit :=
    not_brief_numberLink _ _ 3 _ (Nat.lt_succ_self Number.digitLimit)
  have hfetches := Client.fetches_count (w := linkedNumbers [overlongPage]) reaches_oneNumber ()
  rw [hr] at hfetches
  have herror : Client.countIn r = .error .badValue := by rw [h.countIn, if_neg hlong]
  exact herror ▸ hfetches

end GitHub

end PackageVitals
