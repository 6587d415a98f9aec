import Mathlib
import PackageVitals.GitHub.Client
import PackageVitals.Proofs.Ensures
import PackageVitals.Proofs.Failing

/-!
# Lists that come in pages

Reading a list is one step taken over and over: a page is asked for, and what
is in the answer (`pageIn`) says whether another one is. One lemma says all that
a step can do (`Client.course_pagesFrom_iff`), and from it by induction follows
what any number of full pages come to (`Client.course_of_full`), whatever ends
the list after them.

A server **lists** some items (`Lists`) if it answers the request for a page with
that block of them. The blocks before the last one are full and the last one is
not, though it may be empty, so that all items are read and nothing is read
twice (`Client.pages_complete`).

A program is a finite tree, and a list of any length is read only by a client
that has the patience for it. How much that is changes nothing else.
-/

namespace PackageVitals

/-! ## Exchanges in a course -/

/-- **Whether every exchange of a course is of a kind.** -/
def Exchanges (R : Request → Reply → Prop) (l : List Step) : Prop :=
  ∀ q r, .exchanged q r ∈ l → R q r

/-- What holds of every reply of a world holds of every exchange with it. -/
theorem World.exchanges_log {R : Request → Reply → Prop} {w : World σ}
    (h : ∀ q s, R q (w.reply q s).1) (p : Program α) (s : σ) : Exchanges R (w.log p s) := by
  induction p generalizing s with
  | done a => exact fun q r hr => absurd hr (by simp [log])
  | send q next ih =>
    intro q' r hr
    rcases List.mem_cons.mp hr with he | hr
    · obtain ⟨rfl, rfl⟩ := Step.exchanged.inj he
      exact h q' s
    · exact ih _ _ q' r hr
  | sleep d next ih => exact fun q r hr => ih s q r (by simpa [log] using hr)
  | note n next ih => exact fun q r hr => ih s q r (by simpa [log] using hr)
  | now next ih => exact fun q r hr => ih _ _ q r (by simpa [log] using hr)
  | pause next ih => exact ih s
  | turn next ih => exact ih _ _

/-- **Whether an action comes to a result by some requests**, in their order and with
nothing else that the outside can see. -/
def World.Fetches (w : World σ) (x : Action α) (s : σ) (qs : List Request)
    (o : Except Failure α) : Prop :=
  (w.run x.attempt s).value = o ∧ (w.run x.attempt s).events = qs.map .sent

/-- What is made of a result needs no more requests. -/
theorem World.Fetches.andThen {w : World σ} {x : Action α} {y : Action β} {s : σ}
    {qs : List Request} {o : Except Failure α} {k : Except Failure α → Except Failure β}
    (h : w.Fetches x s qs o) (hy : y.attempt = x.attempt.andThen fun o => .done (k o)) :
    w.Fetches y s qs (k o) := by
  unfold Fetches
  rw [hy, run_andThen]
  exact ⟨congrArg k h.1, (List.append_nil _).trans h.2⟩

namespace GitHub

/-! ## Blocks of a list -/

/-- **The block** with a number, of a given size. -/
def block (items : List α) (size i : Nat) : List α :=
  (items.drop (i * size)).take size

/-- Blocks one after the other are the start of the list. -/
theorem flatMap_block (items : List α) (size k : Nat) :
    (List.range k).flatMap (block items size) = items.take (k * size) := by
  induction k with
  | zero => simp
  | succ k ih =>
    rw [List.range_succ, List.flatMap_append, ih, Nat.succ_mul, List.take_add]
    simp [block]

/-- A block before the last one is full. -/
theorem length_block {items : List α} {size i : Nat} (h : i < items.length / size) :
    (block items size i).length = size := by
  have hsize : (i + 1) * size ≤ items.length :=
    Nat.le_trans (Nat.mul_le_mul_right size h) (Nat.div_mul_le_self _ _)
  rw [Nat.succ_mul] at hsize
  rw [block, List.length_take, List.length_drop]
  omega

/-- The last block is not. -/
theorem length_block_last {items : List α} {size : Nat} (h : 0 < size) :
    (block items size (items.length / size)).length < size := by
  have hmod := Nat.div_add_mod' items.length size
  have hlt := Nat.mod_lt items.length h
  rw [block, List.length_take, List.length_drop]
  omega

/-- The blocks up to the last one hold all items. -/
theorem length_le_pages (items : List α) {size : Nat} (h : 0 < size) :
    items.length ≤ (items.length / size + 1) * size := by
  have hmod := Nat.div_add_mod' items.length size
  have hlt := Nat.mod_lt items.length h
  rw [Nat.succ_mul]
  omega

/-! ## One page -/

/-- The document in a response, null where it is not there. -/
def documentIn (r : Response) : Except Failure Json := do
  if r.status = 404 then return .null
  else
    r.ensureSuccess
    r.json

/-- **What is in the answer to the request for a page**: its items, and whether the
page is full. -/
def pageIn (size : Nat) (r : Reply) : Except Failure (List Json × Bool) := do
  match (← r >>= documentIn).truthy? with
  | none => return ([], false)
  | some data => do
    let items ← data.elements
    return (items, !decide (items.length < size))

/-- Whether a reply is a response of success with a document. -/
def Serves (j : Json) (r : Reply) : Prop :=
  ∃ response, r = .ok response ∧ response.isSuccess = true ∧ response.json = .ok j

/-- Whether a reply says that the document is not there. -/
def IsMissing (r : Reply) : Prop :=
  ∃ response, r = .ok response ∧ response.status = 404

theorem Serves.document {j : Json} {r : Reply} (h : Serves j r) : r >>= documentIn = .ok j := by
  obtain ⟨response, rfl, hsuccess, hjson⟩ := h
  show documentIn response = _
  have hstatus : response.status ≠ 404 := by
    intro h404
    simp [Response.isSuccess, h404] at hsuccess
  unfold documentIn Response.ensureSuccess
  rw [if_neg hstatus, if_pos hsuccess]
  exact hjson

theorem Serves.pageIn {items : List Json} {r : Reply} {size : Nat} (h : Serves (.arr items) r)
    (hsize : 0 < size) : pageIn size r = .ok (items, !decide (items.length < size)) := by
  unfold GitHub.pageIn
  rw [h.document]
  cases items with
  | nil => simp [Json.truthy?, Json.isTruthy, bind, Except.bind, pure, Except.pure, hsize]
  | cons j items => rfl

theorem IsMissing.pageIn {r : Reply} {size : Nat} (h : IsMissing r) :
    pageIn size r = .ok ([], false) := by
  obtain ⟨response, rfl, h404⟩ := h
  unfold GitHub.pageIn
  show (documentIn response >>= _) = _
  unfold documentIn
  rw [if_pos h404]
  rfl

namespace Client

variable {c : Client} {path : String} {form : Form} {size : Nat} {limit : Option Int}

/-- **Whether a request is the one for a path**, with a form, and can be sent. -/
def Reaches (c : Client) (path : String) (form : Option Form) (q : Request) : Prop :=
  ∃ u, c.service.address (c.root ++ path) form = .ok u ∧ u.isAbsolute = true ∧
    q = c.service.request u

theorem attempt_get {form : Option Form} {q : Request} (h : c.Reaches path form q) :
    (c.get path form).attempt = .send q .done := by
  obtain ⟨u, hu, habs, rfl⟩ := h
  unfold get Service.get
  rw [hu]
  show Program.send _ _ = _
  congr 1
  funext r
  cases r with
  | error f => rfl
  | ok r =>
    show Action.attempt (if u.isAbsolute then pure r else Action.fail .badValue) = _
    rw [if_pos habs]
    rfl

/-- Fetching is asking and looking into the response. -/
theorem attempt_fetch {form : Option Form} {q : Request} (h : c.Reaches path form q) :
    (c.fetch path form).attempt = .send q fun r => .done (r >>= documentIn) := by
  unfold fetch
  rw [Action.attempt_bind, attempt_get h]
  show Program.send _ _ = _
  congr 1
  funext r
  cases r with
  | error f => rfl
  | ok r =>
    show Action.attempt (if r.status = 404 then pure Json.null else _) = .done (documentIn r)
    unfold documentIn
    split
    · rfl
    · cases hr : r.ensureSuccess <;> rfl

/-- What happens after a page has been read. -/
def afterPage (c : Client) (path : String) (form : Form) (size : Nat) (limit : Option Int)
    (fuel : Nat) (page : Int) :
    Except Failure (List Json × Bool) → Program (Except Failure (List Json))
  | .error f => .done (.error f)
  | .ok (items, false) => .done (.ok items)
  | .ok (items, true) =>
    (c.pagesFrom path form (.int size) limit fuel (page + 1)).attempt.andThen fun o =>
      .done (o.map (items ++ ·))

/-- **One step**: a page is asked for, and what is in the answer says how it goes on. -/
theorem attempt_pagesFrom {fuel : Nat} {page : Int} {q : Request}
    (hlimit : limit.all (page ≤ ·) = true)
    (hq : c.Reaches path (some (Json.insertMember "page" (.int page) form)) q) :
    (c.pagesFrom path form (.int size) limit (fuel + 1) page).attempt =
      .send q fun r => c.afterPage path form size limit fuel page (pageIn size r) := by
  rw [pagesFrom, if_pos hlimit, Action.attempt_bind, attempt_fetch hq]
  show Program.send _ _ = _
  congr 1
  funext r
  dsimp only
  rw [Program.done_andThen]
  unfold pageIn
  cases r >>= documentIn with
  | error f => rfl
  | ok j =>
    dsimp only [bind, Except.bind]
    cases j.truthy? with
    | none => rfl
    | some data =>
      cases hitems : data.elements with
      | error f =>
        dsimp only
        rw [hitems]
        rfl
      | ok items =>
        dsimp only
        rw [hitems]
        show Action.attempt (if decide ((items.length : Int) < size) = true then pure items
          else c.pagesFrom path form (.int size) limit fuel (page + 1) >>= fun rest =>
            pure (items ++ rest)) =
          c.afterPage path form size limit fuel page (.ok (items, !decide (items.length < size)))
        by_cases hshort : items.length < size
        · rw [if_pos (by simpa using hshort), decide_eq_true hshort]
          rfl
        · rw [if_neg (by simpa using hshort), decide_eq_false hshort, Action.attempt_bind]
          show Program.andThen _ _ = Program.andThen _ _
          congr 1
          funext o
          cases o <;> rfl

/-- **What a step comes to** in a course. -/
theorem course_pagesFrom_iff {fuel : Nat} {page : Int} {q : Request} {l : List Step}
    {o : Except Failure (List Json)} (hlimit : limit.all (page ≤ ·) = true)
    (hq : c.Reaches path (some (Json.insertMember "page" (.int page) form)) q) :
    Course (c.pagesFrom path form (.int size) limit (fuel + 1) page).attempt l o ↔
      ∃ r l', l = .exchanged q r :: l' ∧
        Course (c.afterPage path form size limit fuel page (pageIn size r)) l' o := by
  rw [attempt_pagesFrom hlimit hq, course_send_iff]

/-- **A page that is not full ends the list.** -/
theorem course_of_short {fuel : Nat} {page : Int} {q : Request} {l : List Step}
    {o : Except Failure (List Json)} (items : List Json) (hlimit : limit.all (page ≤ ·) = true)
    (hq : c.Reaches path (some (Json.insertMember "page" (.int page) form)) q)
    (hl : Exchanges (fun q' r => q' = q → pageIn size r = .ok (items, false)) l)
    (h : Course (c.pagesFrom path form (.int size) limit (fuel + 1) page).attempt l o) :
    l.filterMap Step.event? = [.sent q] ∧ o = .ok items := by
  obtain ⟨r, l', rfl, hafter⟩ := (course_pagesFrom_iff hlimit hq).mp h
  rw [hl q r List.mem_cons_self rfl] at hafter
  obtain ⟨rfl, rfl⟩ := course_done_iff.mp hafter
  exact ⟨rfl, rfl⟩

/-- **A full page goes in front of the pages after it.** -/
theorem course_of_full_page {fuel : Nat} {page : Int} {q : Request} {l : List Step}
    {o : Except Failure (List Json)} {items : List Json} (hlimit : limit.all (page ≤ ·) = true)
    (hq : c.Reaches path (some (Json.insertMember "page" (.int page) form)) q)
    (hl : Exchanges (fun q' r => q' = q → pageIn size r = .ok (items, true)) l)
    (h : Course (c.pagesFrom path form (.int size) limit (fuel + 1) page).attempt l o) :
    ∃ r l' o', l = .exchanged q r :: l' ∧
      Course (c.pagesFrom path form (.int size) limit fuel (page + 1)).attempt l' o' ∧
      o = o'.map (items ++ ·) := by
  obtain ⟨r, l', rfl, hafter⟩ := (course_pagesFrom_iff hlimit hq).mp h
  rw [hl q r List.mem_cons_self rfl] at hafter
  obtain ⟨o', l₁, l₂, rfl, hnext, hdone⟩ := course_andThen_iff.mp hafter
  obtain ⟨rfl, rfl⟩ := course_done_iff.mp hdone
  exact ⟨r, l₁, o', by rw [List.append_nil], hnext, rfl⟩

/-- Nothing is asked beyond the limit. -/
theorem course_of_limit {fuel : Nat} {page : Int} {l : List Step} {o : Except Failure (List Json)}
    (hlimit : limit.all (page ≤ ·) = false)
    (h : Course (c.pagesFrom path form (.int size) limit (fuel + 1) page).attempt l o) :
    l = [] ∧ o = .ok [] := by
  rw [pagesFrom, hlimit] at h
  exact course_done_iff.mp h

/-- **Any number of full pages**: they are asked for in order, and their items go in
front of whatever comes after them. -/
theorem course_of_full {fuel : Nat} {page : Int} {q : Nat → Request} {l : List Step}
    {o : Except Failure (List Json)} {items : Nat → List Json} {k : Nat}
    (hlimit : ∀ i < k, limit.all (page + i ≤ ·) = true)
    (hq : ∀ i < k, c.Reaches path (some (Json.insertMember "page" (.int (page + i)) form)) (q i))
    (hl : Exchanges (fun q' r => ∀ i < k, q' = q i → pageIn size r = .ok (items i, true)) l)
    (h : Course (c.pagesFrom path form (.int size) limit (fuel + k) page).attempt l o) :
    ∃ l₁ l₂ o', l = l₁ ++ l₂ ∧
      Course (c.pagesFrom path form (.int size) limit fuel (page + k)).attempt l₂ o' ∧
      l₁.filterMap Step.event? = (List.range k).map (fun i => .sent (q i)) ∧
      o = o'.map ((List.range k).flatMap items ++ ·) := by
  induction k generalizing fuel with
  | zero => exact ⟨[], l, o, rfl, by simpa using h, rfl, by cases o <;> rfl⟩
  | succ k ih =>
    have hk : k < k + 1 := Nat.lt_succ_self k
    have hlt {i : Nat} (hi : i < k) : i < k + 1 := Nat.lt_succ_of_lt hi
    have hfuel : fuel + (k + 1) = (fuel + 1) + k := by omega
    rw [hfuel] at h
    obtain ⟨l₁, l₂, o', rfl, hlater, hevents, rfl⟩ := ih (fun i hi => hlimit i (hlt hi))
      (fun i hi => hq i (hlt hi)) (fun q' r hr i hi => hl q' r hr i (hlt hi)) h
    obtain ⟨r, l', o'', rfl, hnext, rfl⟩ := course_of_full_page (hlimit k hk) (hq k hk)
      (fun q' r hr he => hl q' r (List.mem_append_right _ hr) k hk he) hlater
    refine ⟨l₁ ++ [.exchanged (q k) r], l', o'', by simp, ?_, ?_, ?_⟩
    · rwa [show page + ((k + 1 : Nat) : Int) = page + k + 1 by omega]
    · rw [List.filterMap_append, hevents, List.range_succ, List.map_append]
      rfl
    · rw [List.range_succ, List.flatMap_append]
      cases o'' <;> simp [Except.map]

/-! ## Whole lists -/

/-- The form of the request for a page. -/
def pageForm (form : Form) (size : Nat) (page : Int) : Form :=
  Json.insertMember "page" (.int page) (Json.insertMember "per_page" (.int size) form)

/-- **The requests for pages** of a size, up to a given number: a page has room for an
item, the form says how much or leaves it at a hundred, and the pages can be asked
for. -/
structure Paged (c : Client) (path : String) (form : Form) (size last : Nat)
    (q : Nat → Request) : Prop where
  /-- There is room. -/
  pos : 0 < size
  /-- How much room there is. -/
  sized : (Json.lookup "per_page" form).getD (.int 100) = .int size
  /-- The pages can be asked for. -/
  reaches : ∀ i : Nat, i ≤ last → c.Reaches path (some (pageForm form size (1 + i))) (q i)

/-- **A list starts with full pages**, as many as there are within the limit. -/
theorem Paged.course_full {last full : Nat} {q : Nat → Request} {l : List Step}
    {o : Except Failure (List Json)} (items : Nat → List Json)
    (hp : Paged c path form size last q) (hpatience : last < c.patience) (hfull : full ≤ last)
    (hlimit : ∀ i < full, limit.all (1 + (i : Int) ≤ ·) = true)
    (hl : Exchanges (fun q' r => ∀ i < full, q' = q i → pageIn size r = .ok (items i, true)) l)
    (h : Course (c.pages path form limit).attempt l o) :
    ∃ rest l₁ l₂ o', l = l₁ ++ l₂ ∧
      Course (c.pagesFrom path (Json.insertMember "per_page" (.int size) form) (.int size) limit
        (rest + 1) (1 + full)).attempt l₂ o' ∧
      l₁.filterMap Step.event? = (List.range full).map (fun i => .sent (q i)) ∧
      o = o'.map ((List.range full).flatMap items ++ ·) := by
  obtain ⟨rest, hrest⟩ : ∃ rest, c.patience = rest + 1 + full := ⟨c.patience - 1 - full, by omega⟩
  rw [pages, hp.sized, hrest] at h
  obtain ⟨l₁, l₂, o', hl₁₂⟩ := course_of_full hlimit
    (fun i hi => hp.reaches i (Nat.le_of_lt (Nat.lt_of_lt_of_le hi hfull))) hl h
  exact ⟨rest, l₁, l₂, o', hl₁₂⟩

/-- **Whether a server lists some items** in pages of a size: whenever it is asked for a
page it answers with the block of items that has its number. -/
structure Lists (w : World σ) (c : Client) (path : String) (form : Form) (size : Nat)
    (items : List Json) (q : Nat → Request) : Prop
    extends Paged c path form size (items.length / size) q where
  /-- What is answered. -/
  serves : ∀ i : Nat, i ≤ items.length / size → ∀ s,
    Serves (.arr (block items size i)) (w.reply (q i) s).1

/-- How many pages are read of those that there are. -/
def pagesRead (limit : Option Int) (total : Nat) : Nat :=
  limit.elim total fun m => min m.toNat total

theorem pagesRead_le (limit : Option Int) (total : Nat) : pagesRead limit total ≤ total := by
  cases limit with
  | none => exact Nat.le_refl _
  | some m => exact Nat.min_le_right _ _

/-- A page is asked for if it is one of those that are read. -/
theorem all_le_iff {limit : Option Int} {total i : Nat} (h : i < total) :
    limit.all (1 + (i : Int) ≤ ·) = true ↔ i < pagesRead limit total := by
  cases limit with
  | none => simp [pagesRead, h]
  | some m =>
    simp only [Option.all_some, decide_eq_true_eq, pagesRead, Option.elim_some]
    omega

/-- **A list is read to its end or to the limit**, every page once. -/
theorem Paged.course_list {items : List Json} {q : Nat → Request} {l : List Step}
    {o : Except Failure (List Json)} (hp : Paged c path form size (items.length / size) q)
    (hpatience : items.length / size < c.patience)
    (hl : Exchanges (fun q' r => ∀ i ≤ items.length / size, q' = q i →
      Serves (.arr (block items size i)) r) l)
    (h : Course (c.pages path form limit).attempt l o) :
    o = .ok (items.take (pagesRead limit (items.length / size + 1) * size)) ∧
      l.filterMap Step.event? =
        (List.range (pagesRead limit (items.length / size + 1))).map fun i => .sent (q i) := by
  have hk := pagesRead_le limit (items.length / size + 1)
  have hlimit {i : Nat} (hi : i ≤ items.length / size) :
      limit.all (1 + (i : Int) ≤ ·) = true ↔ i < pagesRead limit (items.length / size + 1) :=
    all_le_iff (Nat.lt_succ_of_le hi)
  generalize pagesRead limit (items.length / size + 1) = k at hk hlimit ⊢
  -- All pages before the last one are full, and the limit may come before it.
  have hfull {full : Nat} (hn : full ≤ items.length / size) (hle : full ≤ k) :=
    Paged.course_full (block items size) hp hpatience hn
      (fun i hi => (hlimit (by omega)).mpr (Nat.lt_of_lt_of_le hi hle))
      (fun q' r hr i hi he => by
        have hlen : (block items size i).length = size := length_block (by omega)
        rw [(hl q' r hr i (by omega) he).pageIn hp.pos, hlen]
        simp) h
  rcases Nat.lt_or_ge (items.length / size) k with hlt | hge
  · obtain rfl : k = items.length / size + 1 := by omega
    obtain ⟨rest, l₁, l₂, o', rfl, hlast, hevents, rfl⟩ := hfull (Nat.le_refl _) (by omega)
    obtain ⟨hsent, rfl⟩ := course_of_short (block items size (items.length / size))
      ((hlimit (Nat.le_refl _)).mpr hlt) (hp.reaches _ (Nat.le_refl _)) (fun q' r hr he => by
        rw [(hl q' r (List.mem_append_right _ hr) _ (Nat.le_refl _) he).pageIn hp.pos,
          decide_eq_true (length_block_last hp.pos)]
        rfl) hlast
    constructor
    · rw [← flatMap_block, List.range_succ, List.flatMap_append]
      simp [Except.map]
    · rw [List.filterMap_append, hevents, hsent, List.range_succ, List.map_append]
      rfl
  · obtain ⟨rest, l₁, l₂, o', rfl, hlast, hevents, rfl⟩ := hfull hge (Nat.le_refl _)
    have hbeyond : limit.all (1 + (k : Int) ≤ ·) = false :=
      Bool.eq_false_iff.mpr fun hall => absurd ((hlimit hge).mp hall) (Nat.lt_irrefl k)
    obtain ⟨rfl, rfl⟩ := course_of_limit hbeyond hlast
    rw [flatMap_block, List.append_nil, hevents]
    exact ⟨by simp [Except.map], rfl⟩

section Runs

variable {w : World σ} {items : List Json} {q : Nat → Request}

/-- What is read up to a limit, in a run. -/
theorem Lists.fetches (h : Lists w c path form size items q)
    (hpatience : items.length / size < c.patience) (limit : Option Int) (s : σ) :
    w.Fetches (c.pages path form limit) s
      ((List.range (pagesRead limit (items.length / size + 1))).map q)
      (.ok (items.take (pagesRead limit (items.length / size + 1) * size))) := by
  unfold World.Fetches
  rw [w.events_run, List.map_map]
  exact h.toPaged.course_list hpatience
    (World.exchanges_log (fun q' s' i hi he => he ▸ h.serves i hi s') _ s) (w.course_log _ s)

/-- All items are read where there is no limit. -/
theorem Lists.fetches_all (h : Lists w c path form size items q)
    (hpatience : items.length / size < c.patience) (s : σ) :
    w.Fetches (c.pages path form none) s ((List.range (items.length / size + 1)).map q)
      (.ok items) := by
  have htake := h.fetches hpatience none s
  rwa [show pagesRead none (items.length / size + 1) = items.length / size + 1 from rfl,
    List.take_of_length_le (length_le_pages items h.pos)] at htake

end Runs

/-- Reading the dates of the open issues is reading the list and looking into it. -/
theorem attempt_openIssueDates (owner name : String) :
    (c.openIssueDates owner name).attempt =
      (c.pages (repositoryPath owner name ++ "/issues") [("state", .str "open")]
        none).attempt.andThen fun o => .done (o >>= issueDates) := by
  unfold openIssueDates
  rw [Action.attempt_bind]
  congr 1
  funext o
  cases o <;> rfl

end Client

/-! ## Issues -/

/-- Whether an item of the list of issues is a pull request. -/
def isPullRequest : Json → Bool
  | .obj members => members.any (·.1 == "pull_request")
  | _ => false

/-- **Whether an issue says when it was created.** -/
def CreatedAt (issue : Json) (t : Timestamp) : Prop :=
  ∃ members text, issue = .obj members ∧ Json.lookup "created_at" members = some (.str text) ∧
    Timestamp.read text = .ok t

theorem mapM_of_forall {k : α → Except Failure β} {f : α → β} {xs : List α}
    (h : ∀ a ∈ xs, k a = .ok (f a)) : xs.mapM k = .ok (xs.map f) := by
  induction xs with
  | nil => rfl
  | cons a xs ih =>
    obtain ⟨ha, hxs⟩ := List.forall_mem_cons.mp h
    rw [List.mapM_cons, ha, ih hxs]
    rfl

/-- What is left of a list of which some items are left out. -/
theorem filterMap_ite (p : α → Bool) (f : α → β) (xs : List α) :
    xs.filterMap (fun a => if p a then none else some (f a)) = (xs.filter (!p ·)).map f := by
  induction xs with
  | nil => rfl
  | cons a xs ih => cases hp : p a <;> simp [hp, ih]

/-- **The dates of the issues in a list**, wherever the pull requests are. -/
theorem issueDates_eq {issues : List Json} {date : Json → Timestamp}
    (h : ∀ j ∈ issues, j.isObject = true ∧ (isPullRequest j = false → CreatedAt j (date j))) :
    issueDates issues = .ok ((issues.filter fun j => !isPullRequest j).map date) := by
  have hdate : ∀ j ∈ issues,
      issueDate j = .ok (if isPullRequest j then none else some (date j)) := by
    intro j hj
    obtain ⟨hobject, hcreated⟩ := h j hj
    cases j with
    | obj members =>
      show (if isPullRequest (.obj members) then _ else _) = _
      cases hpull : isPullRequest (.obj members) with
      | true => rfl
      | false =>
        obtain ⟨_, text, ⟨⟩, hlookup, hread⟩ := hcreated hpull
        show ((Json.obj members).item "created_at" >>= _) = _
        have hitem : (Json.obj members).item "created_at" = .ok (.str text) := by
          unfold Json.item
          dsimp only
          rw [hlookup]
        rw [hitem]
        show (Timestamp.read text >>= _) = _
        rw [hread]
        rfl
    | _ => cases hobject
  unfold issueDates
  rw [mapM_of_forall hdate]
  show Except.ok _ = Except.ok _
  rw [List.filterMap_map]
  exact congrArg _ (filterMap_ite _ _ _)

namespace Client

/-- **Reading a list loses nothing and reads nothing twice.** Where a server lists some
items in pages, all of them are read, in order, by asking for each page with items
and for one more if the last of these is full; a limit leaves the items of the
first pages, and nothing is asked for beyond it. So the dates of the open issues are
those of the items that are no pull requests, on whatever pages they are. -/
theorem pages_complete (w : World σ) (c : Client) (path : String) (form : Form) (size : Nat)
    (items : List Json) (q : Nat → Request) (s : σ) (h : Lists w c path form size items q)
    (hpatience : items.length / size < c.patience) :
    w.Fetches (c.pages path form none) s ((List.range (items.length / size + 1)).map q)
      (.ok items) ∧
    (∀ m : Int, w.Fetches (c.pages path form (some m)) s
      ((List.range (min m.toNat (items.length / size + 1))).map q)
      (.ok (items.take (m.toNat * size)))) ∧
    ∀ (owner name : String) (date : Json → Timestamp),
      path = repositoryPath owner name ++ "/issues" → form = [("state", .str "open")] →
      (∀ j ∈ items, j.isObject = true ∧ (isPullRequest j = false → CreatedAt j (date j))) →
      w.Fetches (c.openIssueDates owner name) s ((List.range (items.length / size + 1)).map q)
        (.ok ((items.filter fun j => !isPullRequest j).map date)) := by
  refine ⟨h.fetches_all hpatience s, fun m => ?_, ?_⟩
  · have htake := h.fetches hpatience (some m) s
    rw [show pagesRead (some m) (items.length / size + 1) = min m.toNat (items.length / size + 1)
      from rfl] at htake
    -- A limit that is beyond the last page leaves all the items.
    have hmin : items.take (min m.toNat (items.length / size + 1) * size) =
        items.take (m.toNat * size) := by
      rcases Nat.le_total m.toNat (items.length / size + 1) with hle | hle
      · rw [Nat.min_eq_left hle]
      · have hlength := length_le_pages items h.pos
        rw [Nat.min_eq_right hle, List.take_of_length_le hlength,
          List.take_of_length_le (Nat.le_trans hlength (Nat.mul_le_mul_right size hle))]
    rwa [hmin] at htake
  · rintro owner name date rfl rfl hdates
    rw [← issueDates_eq hdates]
    exact (h.fetches_all hpatience s).andThen (attempt_openIssueDates owner name)

end Client

/-- A world that has documents at some addresses, and nothing elsewhere. -/
def shelf (documents : List (String × String)) : World Unit where
  reply q s :=
    match documents.find? (·.1 == q.url) with
    | some d => (.ok ⟨200, [], d.2.toList.map fun c => UInt8.ofNat c.toNat⟩, s)
    | none => (.ok ⟨404, [], []⟩, s)
  clock s := (default, s)
  turn s := (true, s)

/-- What holds of each of the documents and of nothing holds of all the replies. -/
theorem shelf_replies {P : Reply → Prop} {documents : List (String × String)}
    (hnone : P (.ok ⟨404, [], []⟩))
    (h : ∀ d ∈ documents, P (.ok ⟨200, [], d.2.toList.map fun c => UInt8.ofNat c.toNat⟩)) :
    (shelf documents).Replies P := by
  intro q s
  unfold shelf
  dsimp only
  split
  · next d hd => exact h d (List.mem_of_find?_eq_some hd)
  · exact hnone

/-- A client with little patience. -/
def hasty : Client := ⟨"http://h", none, 5⟩

/-- Three numbers on two pages. -/
def numbers : World Unit :=
  shelf [("http://h/x?per_page=2&page=1", "[1,2]"), ("http://h/x?per_page=2&page=2", "[3]")]

/-- The requests for the two pages. -/
def numberPage (i : Nat) : Request :=
  ⟨if i = 0 then "http://h/x?per_page=2&page=1" else "http://h/x?per_page=2&page=2", hasty.headers⟩

theorem lists_numbers : Client.Lists numbers hasty "/x" [("per_page", .int 2)] 2
    [.int 1, .int 2, .int 3] numberPage where
  pos := by decide
  sized := rfl
  reaches i hi := by
    match i with
    | 0 => exact ⟨_, rfl, rfl, rfl⟩
    | 1 => exact ⟨_, rfl, rfl, rfl⟩
  serves i hi s := by
    match i with
    | 0 => exact ⟨_, rfl, rfl, rfl⟩
    | 1 => exact ⟨_, rfl, rfl, rfl⟩

/-- An issue of the first of January. -/
def newYear : Json := .obj [("created_at", .str "2024-01-01")]

/-- A pull request and an issue on one page. -/
def tracker : World Unit :=
  shelf [("http://h/repos/o/n/issues?state=open&per_page=100&page=1",
    "[\x7b\"pull_request\":1\x7d,\x7b\"created_at\":\"2024-01-01\"\x7d]")]

/-- The request for that page. -/
def trackerPage : Request :=
  ⟨"http://h/repos/o/n/issues?state=open&per_page=100&page=1", hasty.headers⟩

theorem lists_tracker : Client.Lists tracker hasty "/repos/o/n/issues" [("state", .str "open")]
    100 [.obj [("pull_request", .int 1)], newYear] fun _ => trackerPage where
  pos := by decide
  sized := rfl
  reaches i hi := by
    obtain rfl : i = 0 := Nat.le_zero.mp hi
    exact ⟨_, rfl, rfl, rfl⟩
  serves i hi s := by
    obtain rfl : i = 0 := Nat.le_zero.mp hi
    exact ⟨_, rfl, rfl, by cbv⟩

theorem pages_complete_numbers :
    numbers.Fetches (hasty.pages "/x" [("per_page", .int 2)] none) ()
      [numberPage 0, numberPage 1] (.ok [.int 1, .int 2, .int 3]) ∧
    numbers.Fetches (hasty.pages "/x" [("per_page", .int 2)] (some 1)) ()
      [numberPage 0] (.ok [.int 1, .int 2]) ∧
    tracker.Fetches (hasty.openIssueDates "o" "n") () [trackerPage]
      (.ok [⟨⟨2024, 1, 1⟩, 0, 0, 0, 0, none⟩]) := by
  obtain ⟨hall, hlimit, -⟩ := Client.pages_complete numbers hasty "/x" [("per_page", .int 2)] 2
    [.int 1, .int 2, .int 3] numberPage () lists_numbers (by decide)
  obtain ⟨-, -, hdates⟩ := Client.pages_complete tracker hasty "/repos/o/n/issues"
    [("state", .str "open")] 100 [.obj [("pull_request", .int 1)], newYear] (fun _ => trackerPage)
    () lists_tracker (by decide)
  refine ⟨hall, hlimit 1, hdates "o" "n" (fun _ => _) rfl rfl fun j hj => ?_⟩
  rcases List.mem_pair.mp hj with rfl | rfl
  · exact ⟨rfl, fun h => nomatch h⟩
  · exact ⟨rfl, fun _ => ⟨_, _, rfl, rfl, by cbv⟩⟩

end GitHub

end PackageVitals
