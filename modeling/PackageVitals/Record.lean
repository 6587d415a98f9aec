import PackageVitals.Identity
import PackageVitals.Signal

/-!
# Health records

A record holds an identity and, for each signal, at most one reading.
Providers contribute partial records, and **merging** puts them together:
a reading of the later record replaces that of the earlier one, and what
the later record does not answer stays. Whether a reading is *there* is
all that counts, so a zero, a `false` or an empty list of checks replaces
as well as anything else. The identity is that of the earlier record.

As a record is a function of the signal, the laws of merging are laws of
one `Option` at a time.
-/

namespace PackageVitals

/-- **A health record.** -/
structure Record where
  /-- What the record is about. -/
  identity : Identity
  /-- The readings. -/
  reading : Signal → Option Reading

namespace Record

@[ext] theorem ext_reading {a b : Record} (hi : a.identity = b.identity)
    (hr : ∀ s, a.reading s = b.reading s) : a = b := by
  cases a
  cases b
  simp only [mk.injEq]
  exact ⟨hi, funext hr⟩

/-- The record that answers nothing. -/
def empty (i : Identity) : Record :=
  ⟨i, fun _ => none⟩

/-- The signals that a record answers, in their order. -/
def populated (r : Record) : List Signal :=
  Signal.all.filter fun s => (r.reading s).isSome

/-- Whether a record answers nothing. -/
def isEmpty (r : Record) : Bool :=
  r.populated.isEmpty

/-- The record with one reading replaced, unless there is none to replace
it with. -/
def set (r : Record) (s : Signal) (v : Option Reading) : Record :=
  { r with reading := fun t => if t = s then v <|> r.reading t else r.reading t }

/-- The record with several readings set, one after the other. -/
def setAll (r : Record) (updates : List (Signal × Option Reading)) : Record :=
  updates.foldl (fun r u => r.set u.1 u.2) r

/-- **Merging**: the readings of `incoming` replace those of `base`. -/
def merge (base incoming : Record) : Record :=
  ⟨base.identity, fun s => incoming.reading s <|> base.reading s⟩

/-- Merges records into one, from left to right. -/
def mergeAll (base : Record) (incoming : List Record) : Record :=
  incoming.foldl merge base

@[simp] theorem identity_empty (i : Identity) : (empty i).identity = i := rfl

@[simp] theorem reading_empty (i : Identity) (s : Signal) : (empty i).reading s = none := rfl

@[simp] theorem identity_merge (a b : Record) : (a.merge b).identity = a.identity := rfl

@[simp] theorem reading_merge (a b : Record) (s : Signal) :
    (a.merge b).reading s = (b.reading s <|> a.reading s) := rfl

theorem reading_set (r : Record) (s t : Signal) (v : Option Reading) :
    (r.set s v).reading t = if t = s then v <|> r.reading t else r.reading t := rfl

@[simp] theorem mem_populated {r : Record} {s : Signal} :
    s ∈ r.populated ↔ (r.reading s).isSome = true := by
  simp [populated, Signal.mem_all]

/-- A record that answers nothing adds nothing. -/
@[simp] theorem merge_empty (r : Record) (i : Identity) : r.merge (empty i) = r := by
  ext s
  · rfl
  · simp

/-- Merging into an empty record changes the identity alone. -/
theorem empty_merge (r : Record) (i : Identity) : (empty i).merge r = { r with identity := i } := by
  ext s
  · rfl
  · simp

/-- A record adds nothing to itself. -/
@[simp] theorem merge_self (r : Record) : r.merge r = r := by
  ext s
  · rfl
  · cases h : r.reading s <;> simp [h]

/-- It does not matter how merges are grouped. -/
theorem merge_assoc (a b c : Record) : (a.merge b).merge c = a.merge (b.merge c) := by
  ext s
  · rfl
  · cases h : c.reading s <;> simp [h]

@[simp] theorem identity_set (r : Record) (s : Signal) (v : Option Reading) :
    (r.set s v).identity = r.identity := rfl

end Record

end PackageVitals
