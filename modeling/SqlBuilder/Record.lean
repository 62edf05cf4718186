/-!
# Records

A `Record` is a mapping from keys to values that remembers the order in which its keys first
appeared. Writing a key again replaces its value in place, so neither its position nor any
other entry moves. Conditions, assignments, insert columns and JSON members all take their
order from a record.
-/

namespace SqlBuilder

/-- A mapping in the order of first insertion. -/
structure Record (α : Type) where
  entries : List (String × α)

namespace Record

variable {α β : Type}

/-- The record without entries. -/
def empty : Record α := ⟨[]⟩

instance : Inhabited (Record α) := ⟨empty⟩

/-- Writes an entry into a list of entries, replacing the value of a key that is there. -/
def insertEntry (key : String) (value : α) : List (String × α) → List (String × α)
  | [] => [(key, value)]
  | (k, v) :: rest =>
    if k = key then (k, value) :: rest else (k, v) :: insertEntry key value rest

/-- Writes `value` under `key`. -/
def insert (r : Record α) (key : String) (value : α) : Record α :=
  ⟨insertEntry key value r.entries⟩

/-- Writes a value that is present and leaves the record alone otherwise. -/
def insertSome (r : Record α) (key : String) (value : Option α) : Record α :=
  match value with
  | some v => r.insert key v
  | none => r

/-- The record obtained by writing the pairs one after the other. -/
def ofList (pairs : List (String × α)) : Record α :=
  pairs.foldl (fun r p => r.insert p.1 p.2) empty

/-- The value under `key`. -/
def get? (r : Record α) (key : String) : Option α :=
  (r.entries.find? (fun e => e.1 = key)).map Prod.snd

/-- The keys in order. -/
def keys (r : Record α) : List String := r.entries.map Prod.fst

/-- The number of entries. -/
def size (r : Record α) : Nat := r.entries.length

/-- Whether there are no entries. -/
def isEmpty (r : Record α) : Bool := r.entries.isEmpty

/-- Changes every value and keeps the keys. -/
def map (f : α → β) (r : Record α) : Record β :=
  ⟨r.entries.map fun e => (e.1, f e.2)⟩

theorem insertEntry_of_notMem {key : String} {value : α} {entries : List (String × α)}
    (h : key ∉ entries.map Prod.fst) :
    insertEntry key value entries = entries ++ [(key, value)] := by
  induction entries with
  | nil => rfl
  | cons e rest ih =>
    obtain ⟨k, v⟩ := e
    simp only [List.map_cons, List.mem_cons, not_or] at h
    simp [insertEntry, Ne.symm h.1, ih h.2]

end Record

end SqlBuilder
