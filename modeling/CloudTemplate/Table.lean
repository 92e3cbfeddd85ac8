/-!
# Tables that keep their order of insertion

Documents are full of named things whose order of appearance shows again in what is written.  A
`Table` is a list of entries with distinct names.  Putting a value under a name that is present
replaces the value and keeps the place; a new name goes to the end.

The operations are defined on plain lists of entries (`Entries`), because the maps nested inside a
value are such lists too; `Table` adds that the names are distinct.
-/

namespace CloudTemplate

universe u

variable {α β : Type u}

/-- A list of named values. -/
abbrev Entries (α : Type u) := List (String × α)

namespace Entries

/-- The names, in order. -/
def keys (entries : Entries α) : List String := entries.map Prod.fst

/-- The values, in order. -/
def values (entries : Entries α) : List α := entries.map Prod.snd

/-- The first value under a name. -/
def find? (entries : Entries α) (key : String) : Option α :=
  match entries with
  | [] => none
  | (k, value) :: rest => if k = key then some value else find? rest key

/-- Puts a value under a name: in the place of the first entry with that name, or at the end. -/
def put (entries : Entries α) (key : String) (value : α) : Entries α :=
  match entries with
  | [] => [(key, value)]
  | (k, old) :: rest => if k = key then (key, value) :: rest else (k, old) :: put rest key value

theorem keys_put (entries : Entries α) (key : String) (value : α) :
    keys (put entries key value) =
      if key ∈ keys entries then keys entries else keys entries ++ [key] := by
  induction entries with
  | nil => simp [put, keys]
  | cons entry rest ih =>
    obtain ⟨k, old⟩ := entry
    by_cases h : k = key
    · simp [put, keys, h]
    · have h' : key ≠ k := Ne.symm h
      simp only [put, h, if_false]
      simp only [keys, List.map_cons, List.mem_cons, h', false_or] at ih ⊢
      rw [ih]
      split <;> simp [*]

theorem nodup_keys_put {entries : Entries α} (h : (keys entries).Nodup) (key : String) (value : α) :
    (keys (put entries key value)).Nodup := by
  rw [keys_put]
  split
  · exact h
  · next absent =>
    rw [List.nodup_append]
    refine ⟨h, by simp, ?_⟩
    intro a ha b hb
    simp only [List.mem_singleton] at hb
    subst hb
    exact fun e => absent (e ▸ ha)

theorem find?_put_self (entries : Entries α) (key : String) (value : α) :
    find? (put entries key value) key = some value := by
  induction entries with
  | nil => simp [put, find?]
  | cons entry rest ih =>
    obtain ⟨k, old⟩ := entry
    by_cases h : k = key <;> simp [put, find?, h, ih]

theorem find?_put_of_ne (entries : Entries α) {key other : String} (value : α) (h : other ≠ key) :
    find? (put entries key value) other = find? entries other := by
  induction entries with
  | nil => simp [put, find?, h.symm]
  | cons entry rest ih =>
    obtain ⟨k, old⟩ := entry
    by_cases hk : k = key
    · have hko : k ≠ other := fun e => h (e.symm.trans hk)
      simp [put, find?, hk, h.symm]
    · simp [put, find?, hk, ih]

end Entries

/-- An ordered map from names to values. -/
structure Table (α : Type u) where
  /-- The entries, in order of first insertion. -/
  entries : Entries α
  /-- No name occurs twice. -/
  distinct : (Entries.keys entries).Nodup

namespace Table

/-- The table without entries. -/
def empty : Table α := ⟨[], List.nodup_nil⟩

instance : EmptyCollection (Table α) := ⟨empty⟩

instance : Inhabited (Table α) := ⟨empty⟩

instance [DecidableEq α] : DecidableEq (Table α) := fun a b =>
  if h : a.entries = b.entries then
    isTrue (by cases a; cases b; simp_all)
  else isFalse fun e => h (congrArg entries e)

/-- The names, in order. -/
def keys (t : Table α) : List String := Entries.keys t.entries

/-- The values, in order of their names. -/
def values (t : Table α) : List α := Entries.values t.entries

/-- The number of entries. -/
def size (t : Table α) : Nat := t.entries.length

/-- Whether there are no entries. -/
def isEmpty (t : Table α) : Bool := t.entries.isEmpty

/-- The value under a name. -/
def get? (t : Table α) (key : String) : Option α := Entries.find? t.entries key

/-- Whether there is a value under a name. -/
def contains (t : Table α) (key : String) : Bool := (t.get? key).isSome

/-- Puts a value under a name, in place if the name is present. -/
def insert (t : Table α) (key : String) (value : α) : Table α :=
  ⟨Entries.put t.entries key value, Entries.nodup_keys_put t.distinct key value⟩

/-- Removes a name; the others keep their order. -/
def erase (t : Table α) (key : String) : Table α :=
  ⟨t.entries.filter fun entry => entry.1 != key,
    t.distinct.sublist (List.filter_sublist.map Prod.fst)⟩

/-- The table that results from putting entries in one after the other. -/
def ofList (entries : Entries α) : Table α :=
  entries.foldl (fun t entry => t.insert entry.1 entry.2) empty

/-- The table with every value changed under its name. -/
def map (f : α → β) (t : Table α) : Table β :=
  ⟨t.entries.map fun entry => (entry.1, f entry.2), by
    simpa [Entries.keys, Function.comp_def] using t.distinct⟩

end Table

end CloudTemplate
