import CloudTemplate.Table
import Mathlib.Data.List.Nodup

/-!
# What a table says of a name

Looking a name up, being among the entries and being among the names are three views of a table.
The lemmas here pass from one to another, and say what is found after an insertion.  Tables that
differ under one name alone (`Table.AgreeBut`) stay so when the same is put into both, and become
equal when it is put under that name.
-/

namespace CloudTemplate

universe u

variable {α β : Type u}

namespace Entries

lemma mem_of_find?_eq_some {entries : Entries α} {key : String} {value : α}
    (h : find? entries key = some value) : (key, value) ∈ entries := by
  induction entries with
  | nil => simp [find?] at h
  | cons entry rest ih =>
    obtain ⟨k, old⟩ := entry
    simp only [find?] at h
    split at h
    · next hk =>
      rw [Option.some.injEq] at h
      simp [hk, h]
    · exact List.mem_cons_of_mem _ (ih h)

lemma find?_eq_none_iff {entries : Entries α} {key : String} :
    find? entries key = none ↔ key ∉ keys entries := by
  induction entries with
  | nil => simp [find?, keys]
  | cons entry rest ih =>
    obtain ⟨k, old⟩ := entry
    by_cases hk : k = key
    · simp [find?, keys, hk]
    · simp only [find?, hk, if_false, ih]
      simp [keys, Ne.symm hk]

lemma mem_keys_of_mem {entries : Entries α} {key : String} {value : α}
    (h : (key, value) ∈ entries) : key ∈ keys entries :=
  List.mem_map_of_mem h

lemma find?_append (entries more : Entries α) (key : String) :
    find? (entries ++ more) key = (find? entries key).or (find? more key) := by
  induction entries with
  | nil => rfl
  | cons entry rest ih =>
    obtain ⟨k, value⟩ := entry
    rw [List.cons_append, find?, find?, ih]
    split <;> rfl

lemma exists_mem_of_mem_keys {entries : Entries α} {key : String} (h : key ∈ keys entries) :
    ∃ value, (key, value) ∈ entries := by
  simpa [keys] using h

lemma keys_append (entries more : Entries α) : keys (entries ++ more) = keys entries ++ keys more :=
  List.map_append

lemma forall_mem_cons_iff {P : String → α → Prop} {name : String} {value : α}
    {entries : Entries α} : (∀ n v, (n, v) ∈ (name, value) :: entries → P n v) ↔
      P name value ∧ ∀ n v, (n, v) ∈ entries → P n v := by
  simp only [List.mem_cons, Prod.mk.injEq, or_imp, forall_and, and_imp, forall_eq_apply_imp_iff,
    forall_eq]

lemma not_mem_keys_of_nodup {done more : Entries α} {key : String} {value : α}
    (h : (keys (done ++ (key, value) :: more)).Nodup) : key ∉ keys done := by
  rw [keys_append, List.nodup_append] at h
  exact fun hmem => h.2.2 key hmem key List.mem_cons_self rfl

/-- A new name goes to the end. -/
lemma put_of_not_mem {entries : Entries α} {key : String} (value : α) (h : key ∉ keys entries) :
    put entries key value = entries ++ [(key, value)] := by
  induction entries with
  | nil => rfl
  | cons entry rest ih =>
    obtain ⟨k, old⟩ := entry
    simp only [keys, List.map_cons, List.mem_cons, not_or] at h
    have hne : k ≠ key := Ne.symm h.1
    rw [put, if_neg hne, ih h.2, List.cons_append]

/-- Distinct names in their order and the values under them are all there is. -/
lemma eq_of_find?_eq {entries others : Entries α} (hkeys : keys entries = keys others)
    (hdistinct : (keys entries).Nodup) (h : ∀ key, find? entries key = find? others key) :
    entries = others := by
  induction entries generalizing others with
  | nil => exact (List.map_eq_nil_iff.mp hkeys.symm).symm
  | cons entry rest ih =>
    cases others with
    | nil => exact absurd hkeys (List.cons_ne_nil _ _)
    | cons other more =>
      obtain ⟨k, value⟩ := entry
      obtain ⟨k', value'⟩ := other
      obtain ⟨rfl, hmap⟩ := List.cons.inj hkeys
      have hrest : keys rest = keys more := hmap
      obtain ⟨hnew, hdistinct⟩ := List.nodup_cons.mp hdistinct
      have hvalue : value = value' := by simpa [find?] using h k
      have hfind : ∀ key, find? rest key = find? more key := by
        intro key
        by_cases hk : key = k
        · have hnew' : k ∉ keys more := hrest ▸ hnew
          rw [hk, find?_eq_none_iff.mpr hnew, find?_eq_none_iff.mpr hnew']
        · simpa [find?, Ne.symm hk] using h key
      rw [hvalue, ih hrest hdistinct hfind]

end Entries

namespace Table

/-- Under one name there is one value. -/
lemma eq_of_mem_entries {t : Table α} {key : String} {value other : α}
    (h : (key, value) ∈ t.entries) (h' : (key, other) ∈ t.entries) : value = other :=
  (Prod.mk.inj (List.inj_on_of_nodup_map t.distinct h h' rfl)).2

lemma get?_eq_some_iff {t : Table α} {key : String} {value : α} :
    t.get? key = some value ↔ (key, value) ∈ t.entries := by
  refine ⟨Entries.mem_of_find?_eq_some, fun hmem => ?_⟩
  cases hget : t.get? key with
  | none => exact absurd (Entries.mem_keys_of_mem hmem) (Entries.find?_eq_none_iff.mp hget)
  | some other => rw [eq_of_mem_entries (Entries.mem_of_find?_eq_some hget) hmem]

lemma get?_eq_none_iff {t : Table α} {key : String} : t.get? key = none ↔ key ∉ t.keys :=
  Entries.find?_eq_none_iff

lemma contains_eq_true_iff {t : Table α} {key : String} :
    t.contains key = true ↔ key ∈ t.keys := by
  rw [contains, Option.isSome_iff_ne_none, ne_eq, get?_eq_none_iff, not_not]

lemma nodup_keys (t : Table α) : t.keys.Nodup := t.distinct

lemma length_keys (t : Table α) : t.keys.length = t.size := List.length_map ..

lemma get?_insert_self (t : Table α) (key : String) (value : α) :
    (t.insert key value).get? key = some value :=
  Entries.find?_put_self _ _ _

lemma get?_insert_of_ne (t : Table α) {key other : String} (value : α) (h : other ≠ key) :
    (t.insert key value).get? other = t.get? other :=
  Entries.find?_put_of_ne _ _ h

lemma mem_entries_insert_iff {t : Table α} {key other : String} {value v : α} :
    (other, v) ∈ (t.insert key value).entries ↔
      other = key ∧ v = value ∨ other ≠ key ∧ (other, v) ∈ t.entries := by
  rw [← get?_eq_some_iff]
  by_cases h : other = key
  · subst h
    rw [get?_insert_self]
    simp [eq_comm]
  · rw [get?_insert_of_ne t value h, get?_eq_some_iff]
    simp [h]

lemma mem_keys_insert_iff {t : Table α} {key other : String} {value : α} :
    other ∈ (t.insert key value).keys ↔ other ∈ t.keys ∨ other = key := by
  rw [keys, insert, Entries.keys_put]
  split
  · next present =>
    refine ⟨.inl, fun h => h.elim id ?_⟩
    rintro rfl
    exact present
  · simp [keys]

lemma entries_insert_of_not_mem {t : Table α} {key : String} (value : α) (h : key ∉ t.keys) :
    (t.insert key value).entries = t.entries ++ [(key, value)] :=
  Entries.put_of_not_mem value h

lemma forall_mem_empty {P : String → α → Prop} :
    ∀ n v, (n, v) ∈ (empty : Table α).entries → P n v :=
  fun _ _ hmem => absurd hmem List.not_mem_nil

lemma eq_empty_of_isEmpty {t : Table α} (h : t.isEmpty = true) : t = .empty := by
  obtain ⟨entries, distinct⟩ := t
  obtain rfl : entries = [] := List.isEmpty_iff.mp h
  rfl

lemma get?_erase (t : Table α) (key other : String) :
    (t.erase key).get? other = if other = key then none else t.get? other := by
  apply Option.ext
  intro value
  simp only [get?_eq_some_iff, erase, List.mem_filter, bne_iff_ne]
  split
  · next hother => simp [hother]
  · next hother => simp [hother, get?_eq_some_iff]

lemma eq_of_get?_eq {t u : Table α} (hkeys : t.keys = u.keys)
    (h : ∀ key, t.get? key = u.get? key) : t = u := by
  obtain ⟨entries, hdistinct⟩ := t
  obtain ⟨others, _⟩ := u
  obtain rfl := Entries.eq_of_find?_eq hkeys hdistinct h
  rfl

/-- If all entries but the one under a name contribute nothing, its part is the whole. -/
lemma flatMap_entries_eq {t : Table α} {f : String × α → List β} {key : String} {value : α}
    (h : (key, value) ∈ t.entries) (hother : ∀ name v, name ≠ key → f (name, v) = []) :
    t.entries.flatMap f = f (key, value) := by
  obtain ⟨before, after, hsplit⟩ := List.append_of_mem h
  have hnodup := t.distinct
  rw [hsplit, Entries.keys, List.map_append, List.map_cons, List.nodup_middle,
    List.nodup_cons, List.mem_append, not_or] at hnodup
  obtain ⟨⟨hbefore, hafter⟩, -⟩ := hnodup
  have hnone : ∀ entries : Entries α, key ∉ entries.map Prod.fst → entries.flatMap f = [] := by
    intro entries habsent
    rw [List.flatMap_eq_nil_iff]
    rintro ⟨name, v⟩ hmem
    exact hother name v fun hname => habsent (hname ▸ List.mem_map_of_mem hmem)
  rw [hsplit, List.flatMap_append, List.flatMap_cons, hnone before hbefore, hnone after hafter,
    List.nil_append, List.append_nil]

/-- Tables with the same entries in whatever order hold the same under every name. -/
lemma get?_eq_of_perm {t u : Table α} (h : t.entries.Perm u.entries) (key : String) :
    t.get? key = u.get? key := by
  apply Option.ext
  intro value
  rw [get?_eq_some_iff, get?_eq_some_iff, h.mem_iff]

lemma keys_map (f : α → β) (t : Table α) : (t.map f).keys = t.keys := by
  simp [keys, Entries.keys, map, Function.comp_def]

lemma mem_entries_map {f : α → β} {t : Table α} {key : String} {value : β} :
    (key, value) ∈ (t.map f).entries ↔ ∃ old, (key, old) ∈ t.entries ∧ f old = value := by
  simp only [map, List.mem_map, Prod.mk.injEq, Prod.exists]
  constructor
  · rintro ⟨k, old, hmem, rfl, rfl⟩
    exact ⟨old, hmem, rfl⟩
  · rintro ⟨old, hmem, rfl⟩
    exact ⟨key, old, hmem, rfl, rfl⟩

/-! ## Tables that differ under one name -/

/-- Two tables have the same names in the same order, and the same values under all names but
one. -/
structure AgreeBut (key : String) (t u : Table α) : Prop where
  keys : t.keys = u.keys
  others : ∀ other, other ≠ key → t.get? other = u.get? other

namespace AgreeBut

variable {key : String} {t u : Table α}

lemma keys_insert (h : t.AgreeBut key u) (name : String) (value other : α) :
    (t.insert name value).keys = (u.insert name other).keys := by
  have hkeys : Entries.keys t.entries = Entries.keys u.entries := h.keys
  simp only [Table.keys, Table.insert, Entries.keys_put, hkeys]

/-- They still do so after the same insertion in both. -/
lemma insert (h : t.AgreeBut key u) (name : String) (value : α) :
    (t.insert name value).AgreeBut key (u.insert name value) := by
  refine ⟨h.keys_insert name value value, fun other hother => ?_⟩
  by_cases hname : other = name
  · rw [hname, get?_insert_self, get?_insert_self]
  · rw [get?_insert_of_ne t value hname, get?_insert_of_ne u value hname, h.others other hother]

/-- An insertion under that name makes them equal. -/
lemma insert_self (h : t.AgreeBut key u) (value : α) :
    t.insert key value = u.insert key value := by
  refine eq_of_get?_eq (h.keys_insert key value value) fun other => ?_
  by_cases hother : other = key
  · rw [hother, get?_insert_self, get?_insert_self]
  · exact (h.insert key value).others other hother

end AgreeBut

lemma agreeBut_insert (t : Table α) (key : String) (value other : α) :
    (t.insert key value).AgreeBut key (t.insert key other) where
  keys := by simp only [keys, insert, Entries.keys_put]
  others := fun name hname => by
    rw [get?_insert_of_ne t value hname, get?_insert_of_ne t other hname]

end Table

end CloudTemplate
