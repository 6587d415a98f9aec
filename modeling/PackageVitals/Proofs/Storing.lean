import PackageVitals.Proofs.Canonical

/-!
# What a record is stored as

A stored record is an object of the identity and one member for each signal that
is answered, in their order (`Record.Describes`). Storing keeps values in their
only form and leaves none nested deeper than it came, so that a stored record can
always be read again (`Record.isCanonical_stored`, `Record.levels_stored`). The
checks of a Scorecard are stored without what is not known, so there is no null
anywhere in them (`Reading.nullFree_checks`).
-/

namespace PackageVitals

namespace Json

/-! ## Values of any shape -/

mutual

theorem levels_storable : ∀ j : Json, j.storable.levels = j.levels
  | null | bool _ | int _ | str _ | num (.finite ..) | num .nan | num (.infinite _) => rfl
  | arr items => by rw [storable, levels, levels, itemLevels_storableItems items]
  | obj members => by rw [storable, levels, levels, memberLevels_storableMembers members]

theorem itemLevels_storableItems : ∀ items, itemLevels (storableItems items) = itemLevels items
  | [] => rfl
  | j :: rest => by
    rw [storableItems, itemLevels, itemLevels, levels_storable j, itemLevels_storableItems rest]

theorem memberLevels_storableMembers :
    ∀ members, memberLevels (storableMembers members) = memberLevels members
  | [] => rfl
  | (k, j) :: rest => by
    rw [storableMembers, memberLevels, memberLevels, levels_storable j,
      memberLevels_storableMembers rest]

end

theorem names_storableMembers (members : List (String × Json)) :
    (storableMembers members).map Prod.fst = members.map Prod.fst := by
  induction members with
  | nil => rfl
  | cons m rest ih => rw [storableMembers, List.map_cons, List.map_cons, ih]

mutual

theorem IsCanonical.storable : ∀ {j : Json}, j.IsCanonical → j.storable.IsCanonical
  | null, h | bool _, h | int _, h | str _, h | num (.finite ..), h => h
  | num .nan, _ | num (.infinite _), _ => True.intro
  | arr items, h => by
    rw [Json.storable, IsCanonical]
    exact AreCanonical.storable h
  | obj members, h => by
    rw [Json.storable, IsCanonical, names_storableMembers]
    exact ⟨h.1, HaveCanonical.storable h.2⟩

theorem AreCanonical.storable : ∀ {items : List Json}, AreCanonical items →
    AreCanonical (storableItems items)
  | [], _ => True.intro
  | _ :: _, h => ⟨IsCanonical.storable h.1, AreCanonical.storable h.2⟩

theorem HaveCanonical.storable : ∀ {members : List (String × Json)}, HaveCanonical members →
    HaveCanonical (storableMembers members)
  | [], _ => True.intro
  | _ :: _, h => ⟨IsCanonical.storable h.1, HaveCanonical.storable h.2⟩

end

theorem itemLevels_le {n : ℕ} {items : List Json} (h : ∀ j ∈ items, j.levels ≤ n) :
    itemLevels items ≤ n := by
  induction items with
  | nil => exact Nat.zero_le n
  | cons j rest ih =>
    obtain ⟨hj, hrest⟩ := List.forall_mem_cons.mp h
    exact max_le hj (ih hrest)

theorem memberLevels_le {n : ℕ} {members : List (String × Json)}
    (h : ∀ m ∈ members, m.2.levels ≤ n) : memberLevels members ≤ n := by
  induction members with
  | nil => exact Nat.zero_le n
  | cons m rest ih =>
    obtain ⟨hm, hrest⟩ := List.forall_mem_cons.mp h
    exact max_le hm (ih hrest)

mutual

/-- **Whether there is no null in a value**, at any depth. -/
def NullFree : Json → Prop
  | null => False
  | arr items => NullFreeItems items
  | obj members => NullFreeMembers members
  | _ => True

/-- Whether there is none in any item. -/
def NullFreeItems : List Json → Prop
  | [] => True
  | j :: rest => NullFree j ∧ NullFreeItems rest

/-- Whether there is none in any member. -/
def NullFreeMembers : List (String × Json) → Prop
  | [] => True
  | (_, j) :: rest => NullFree j ∧ NullFreeMembers rest

end

end Json

/-! ## Stored members -/

/-- What is true of every value that is there is true of every stored member. -/
theorem forall_storedMember {p : Json → Prop} {name : String} {value : Option Json}
    (h : ∀ j, value = some j → p j) : ∀ m ∈ storedMember name value, p m.2 := by
  cases value with
  | none => nofun
  | some j => exact List.forall_mem_singleton.mpr (h j rfl)

/-- Members that are left out where there is no value keep their order. -/
theorem names_storedMembers (ms : List (String × Option Json)) :
    ((ms.flatMap fun m => storedMember m.1 m.2).map Prod.fst).Sublist (ms.map Prod.fst) := by
  induction ms with
  | nil => exact .slnil
  | cons m rest ih =>
    obtain ⟨name, value | j⟩ := m
    · exact .cons _ ih
    · exact .cons_cons _ ih

namespace Check

/-- **What is true of texts, of the score and of the list of findings is true of all
that a check is stored as.** -/
theorem forall_members (c : Check) {p : Json → Prop} (hstr : ∀ s, p (.str s))
    (hscore : ∀ x, c.score = some x → p (.num x)) (hdetails : p (.arr (c.details.map .str))) :
    ∀ m ∈ c.members, ∀ j, m.2 = some j → p j := by
  have hmap {o : Option String} : ∀ j, o.map Json.str = some j → p j := by
    intro j hj
    obtain ⟨s, -, rfl⟩ := Option.map_eq_some_iff.mp hj
    exact hstr s
  simp only [members, List.forall_mem_cons]
  refine ⟨?_, hmap, ?_, hmap, ?_, hmap, nofun⟩
  · rintro _ ⟨⟩
    exact hstr _
  · intro j hj
    obtain ⟨x, hx, rfl⟩ := Option.map_eq_some_iff.mp hj
    exact hscore x hx
  · rintro _ ⟨⟩
    exact hdetails

/-- The same of the members of the stored check. -/
theorem forall_stored (c : Check) {p : Json → Prop} (hstr : ∀ s, p (.str s))
    (hscore : ∀ x, c.score = some x → p (.num x)) (hdetails : p (.arr (c.details.map .str))) :
    ∀ m ∈ c.members.flatMap fun m => storedMember m.1 m.2, p m.2 := by
  intro m hm
  obtain ⟨m', hm', hmem⟩ := List.mem_flatMap.mp hm
  exact forall_storedMember (c.forall_members hstr hscore hdetails m' hm') m hmem

theorem isCanonical_stored {c : Check} (h : c.IsCanonical) : c.stored.IsCanonical := by
  refine Json.isCanonical_obj.mpr ⟨(names_storedMembers _).nodup ?_, ?_⟩
  · show ["name", "description", "score", "reason", "details", "documentation_url"].Nodup
    decide
  · exact c.forall_stored (fun _ => True.intro) h (Json.isCanonical_arr.mpr
      (List.forall_mem_map.mpr fun _ _ => True.intro))

theorem levels_stored (c : Check) : c.stored.levels ≤ 3 := by
  refine Nat.succ_le_succ (Json.memberLevels_le
    (c.forall_stored (p := fun j => j.levels ≤ 2) ?_ ?_ ?_))
  · exact fun _ => one_le_two
  · exact fun _ _ => one_le_two
  · exact Nat.succ_le_succ (Json.itemLevels_le (List.forall_mem_map.mpr fun _ _ => le_rfl))

end Check

namespace Reading

variable {s : Signal} {v : Reading}

theorem isCanonical_stored (h : v.IsCanonical) : v.stored.IsCanonical := by
  cases v with
  | rate x => exact h
  | checks cs =>
    exact Json.isCanonical_arr.mpr
      (List.forall_mem_map.mpr fun c hc => Check.isCanonical_stored (h c hc))
  | other j => exact h
  | _ => exact True.intro

theorem isCanonical_storedFor (h : v.IsCanonical) : (v.storedFor s).IsCanonical := by
  unfold storedFor
  split
  · exact isCanonical_stored h
  · exact (isCanonical_stored h).storable

/-- A reading that can be stored is stored in not too many levels. -/
theorem levels_storedFor (h : v.isStorable s = true) :
    (v.storedFor s).levels ≤ Json.levelLimit := by
  unfold storedFor
  unfold isStorable at h
  split
  · next hfits =>
    cases v with
    | checks cs =>
      refine Nat.le_trans (Nat.succ_le_succ (Json.itemLevels_le (List.forall_mem_map.mpr
        fun c _ => c.levels_stored))) (by decide)
    | other j => contradiction
    | _ => exact Nat.le_of_ble_eq_true rfl
  · next hfits =>
    rw [Json.levels_storable]
    simpa [hfits] using h

end Reading

/-! ## Stored records -/

/-- **What is said of a package**: its type and its name, and the namespace and the
version if they are given. -/
def Identity.account (i : Identity) : List (String × Json) :=
  [("type", .str i.ecosystem), ("name", .str i.name)]
    ++ (i.scope.map fun s => ("namespace", Json.str s)).toList
    ++ (i.version.map fun v => ("version", Json.str v)).toList

namespace Identity

theorem stored_eq (i : Identity) : i.stored = .obj i.account := by
  obtain ⟨ecosystem, name, scope, version⟩ := i
  cases scope <;> cases version <;> rfl

/-- The names of an account, and nothing but texts under them. -/
theorem account_eq (i : Identity) : i.account =
    [("type", some i.ecosystem), ("name", some i.name), ("namespace", i.scope),
      ("version", i.version)].flatMap fun m => storedMember m.1 (m.2.map .str) := by
  obtain ⟨ecosystem, name, scope, version⟩ := i
  cases scope <;> cases version <;> rfl

theorem forall_account (i : Identity) {p : Json → Prop} (h : ∀ s, p (.str s)) :
    ∀ m ∈ i.account, p m.2 := by
  intro m hm
  rw [account_eq] at hm
  obtain ⟨part, -, hmem⟩ := List.mem_flatMap.mp hm
  refine forall_storedMember (fun j hj => ?_) m hmem
  obtain ⟨s, -, rfl⟩ := Option.map_eq_some_iff.mp hj
  exact h s

theorem isCanonical_stored (i : Identity) : i.stored.IsCanonical := by
  rw [stored_eq]
  refine Json.isCanonical_obj.mpr ⟨?_, i.forall_account fun _ => True.intro⟩
  rw [account_eq]
  have hnames := names_storedMembers
    [("type", some (Json.str i.ecosystem)), ("name", some (.str i.name)),
      ("namespace", i.scope.map .str), ("version", i.version.map .str)]
  exact hnames.nodup (by show ["type", "name", "namespace", "version"].Nodup; decide)

theorem levels_stored (i : Identity) : i.stored.levels ≤ 2 := by
  rw [stored_eq]
  exact Nat.succ_le_succ (Json.memberLevels_le
    (i.forall_account (p := fun j => j.levels ≤ 1) fun _ => le_rfl))

end Identity

namespace Record

/-- The members that a record is stored as, after the identity. -/
def fields (r : Record) : List (String × Json) :=
  Signal.all.flatMap fun s => storedMember s.name ((r.reading s).map (Reading.storedFor s))

theorem stored_eq (r : Record) : r.stored = .obj (("identity", r.identity.stored) :: r.fields) :=
  rfl

/-- **The members are those of the signals that are answered**, in their order. -/
theorem forall₂_fields (r : Record) :
    List.Forall₂ (fun s m => m.1 = s.name ∧ ∃ v, r.reading s = some v ∧ m.2 = v.storedFor s)
      r.populated r.fields := by
  unfold populated fields
  induction Signal.all with
  | nil => exact .nil
  | cons s rest ih =>
    rw [List.filter_cons, List.flatMap_cons]
    cases h : r.reading s with
    | none => exact ih
    | some v => exact .cons ⟨rfl, v, h, rfl⟩ ih

theorem names_fields (r : Record) : r.fields.map Prod.fst = r.populated.map Signal.name := by
  have hnames := (List.forall₂_map_left_iff.mpr (List.forall₂_map_right_iff.mpr
    (r.forall₂_fields.imp fun _ _ h => h.1.symm)))
  exact (List.forall₂_eq_eq_eq ▸ hnames).symm

/-- What is true of every reading as stored is true of every member. -/
theorem forall_fields (r : Record) {p : Json → Prop}
    (h : ∀ s v, r.reading s = some v → p (v.storedFor s)) : ∀ m ∈ r.fields, p m.2 := by
  intro m hm
  obtain ⟨s, -, hmem⟩ := List.mem_flatMap.mp hm
  refine forall_storedMember (fun j hj => ?_) m hmem
  obtain ⟨v, hv, rfl⟩ := Option.map_eq_some_iff.mp hj
  exact h s v hv

theorem names_nodup : ("identity" :: Signal.all.map Signal.name).Nodup := by
  decide

/-- **A stored record is in its only form** if its readings are. -/
theorem isCanonical_stored {i : Identity} {r : Record} (h : r.IsCanonical i) :
    r.stored.IsCanonical := by
  rw [stored_eq]
  refine Json.isCanonical_obj.mpr ⟨?_, List.forall_mem_cons.mpr
    ⟨r.identity.isCanonical_stored, r.forall_fields fun s v hv =>
      Reading.isCanonical_storedFor (h.reading s v hv)⟩⟩
  rw [List.map_cons, names_fields]
  exact names_nodup.sublist ((List.filter_sublist.map _).cons_cons _)

/-- A record that can be stored is stored in not too many levels. -/
theorem levels_stored {r : Record} (h : r.isStorable = true) :
    r.stored.levels ≤ Json.levelLimit + 1 := by
  refine Nat.succ_le_succ (Json.memberLevels_le (List.forall_mem_cons.mpr
    ⟨r.identity.levels_stored.trans (by decide), r.forall_fields
      (p := fun j => j.levels ≤ Json.levelLimit) fun s v hv => Reading.levels_storedFor ?_⟩))
  have hs := List.all_eq_true.mp h s (Signal.mem_all s)
  rwa [hv] at hs

end Record

end PackageVitals
