import CloudTemplate.Json.Canonical
import CloudTemplate.Proofs.Json.Shown
import CloudTemplate.Proofs.Reordering.Entries
import Mathlib.Data.List.Perm.Basic

/-!
# What the canonical text of a value tells

Two values have the same content (`Json.SameContent`) if they differ at most in the order of the
entries of objects, at whatever level.  Items of arrays keep their order, and numbers count by what
is printed for them.  The canonical text tells the content and nothing else
(`Json.canonicalText_eq_iff`).

No text is that of two values (`Json.eq_of_write_eq`), so this is a matter of canonical forms, and
there of each object by itself: if names are distinct, there is one way to put entries in order
(`Entries.sorted_eq_of_perm`), and in turn nothing but their order is lost.
-/

namespace CloudTemplate

/-! ## Entries in order -/

namespace Entries

variable {α : Type} {entries others : Entries α}

lemma sorted_perm (entries : Entries α) : (sorted entries).Perm entries :=
  List.mergeSort_perm entries _

lemma pairwise_sorted (entries : Entries α) :
    (sorted entries).Pairwise fun a b => a.1 ≤ b.1 := by
  have hsorted : (sorted entries).Pairwise fun a b => decide (a.1 ≤ b.1) = true :=
    List.pairwise_mergeSort
      (fun a b c hab hbc => decide_eq_true ((of_decide_eq_true hab).trans (of_decide_eq_true hbc)))
      (fun a b => by simpa using le_total a.1 b.1) entries
  exact hsorted.imp of_decide_eq_true

/-- There is one order of entries with distinct names. -/
lemma sorted_eq_of_perm (h : entries.Perm others) (hdistinct : (keys entries).Nodup) :
    sorted entries = sorted others := by
  have hperm : (sorted entries).Perm (sorted others) :=
    ((sorted_perm entries).trans h).trans (sorted_perm others).symm
  apply hperm.eq_of_pairwise ?_ (pairwise_sorted entries) (pairwise_sorted others)
  intro a b ha hb hab hba
  have ha' : a ∈ entries := (sorted_perm entries).mem_iff.mp ha
  have hb' : b ∈ entries := h.mem_iff.mpr ((sorted_perm others).mem_iff.mp hb)
  exact List.inj_on_of_nodup_map hdistinct ha' hb' (le_antisymm hab hba)

end Entries

/-! ## Content -/

/-- A number is told by its text. -/
lemma Number.eq_of_text_eq {n m : Number} (h : n.text = m.text) : n = m := by
  obtain ⟨stop, hread⟩ := n.scanNumber_text endsNumber_nil 0
  obtain ⟨stop', hread'⟩ := m.scanNumber_text endsNumber_nil 0
  rw [h, hread'] at hread
  cases hread
  rfl

namespace Json

/-- Values with the same content: they differ in the order of the entries of objects alone. -/
inductive SameContent : Json → Json → Prop
  | null : SameContent .null .null
  | bool (value) : SameContent (.bool value) (.bool value)
  | number {n m : Number} : n.text = m.text → SameContent (.number n) (.number m)
  | string (text) : SameContent (.string text) (.string text)
  | array {items others} : List.Forall₂ SameContent items others →
      SameContent (.array items) (.array others)
  | object {entries arranged others : Entries Json} : entries.Perm arranged →
      Entries.Alike SameContent arranged others → SameContent (.object entries) (.object others)

/-! ## Canonical forms -/

lemma canonicalItems_eq_map (items : List Json) : canonicalItems items = items.map canonical := by
  induction items with
  | nil => rfl
  | cons item more ih => rw [canonicalItems, ih, List.map_cons]

/-- An entry with its value in canonical form. -/
def canonicalEntry (entry : String × Json) : String × Json := (entry.1, entry.2.canonical)

lemma canonicalEntries_eq_map (entries : Entries Json) :
    canonicalEntries entries = entries.map canonicalEntry := by
  induction entries with
  | nil => rfl
  | cons entry more ih => rw [canonicalEntries, ih, List.map_cons, canonicalEntry]

lemma keys_canonicalEntries (entries : Entries Json) :
    Entries.keys (canonicalEntries entries) = Entries.keys entries := by
  rw [canonicalEntries_eq_map, Entries.keys, List.map_map]
  rfl

/-- Items that agree in their canonical forms have the same content, if that is so of each. -/
lemma forall₂_of_canonicalItems_eq {items others : List Json}
    (h : canonicalItems items = canonicalItems others)
    (hitems : ∀ item ∈ items, ∀ other, item.canonical = other.canonical → item.SameContent other) :
    List.Forall₂ SameContent items others := by
  rw [canonicalItems_eq_map, canonicalItems_eq_map, ← List.forall₂_eq_eq_eq,
    List.forall₂_map_left_iff, List.forall₂_map_right_iff] at h
  have hboth := (List.forall₂_and_left items others).mpr ⟨hitems, h⟩
  exact hboth.imp fun item other hitem => hitem.1 other hitem.2

/-- Entries that agree in their canonical forms up to order have the same content up to order, if
that is so of each value. -/
lemma reordered_of_canonicalEntries_perm {entries others : Entries Json}
    (h : (canonicalEntries entries).Perm (canonicalEntries others))
    (hvalues : ∀ name value, (name, value) ∈ entries → ∀ other : Json,
      value.canonical = other.canonical → value.SameContent other) :
    Entries.Reordered SameContent entries others := by
  rw [canonicalEntries_eq_map, canonicalEntries_eq_map] at h
  -- The entries are brought into the order of the others before their values are compared.
  have hcomp : Relation.Comp (List.Forall₂ fun entry other => canonicalEntry entry = other)
      List.Perm entries (others.map canonicalEntry) :=
    ⟨_, List.forall₂_map_right_iff.mpr (List.forall₂_same.mpr fun _ _ => rfl), h⟩
  rw [List.forall₂_comp_perm_eq_perm_comp_forall₂] at hcomp
  obtain ⟨arranged, hperm, halike⟩ := hcomp
  rw [List.forall₂_map_right_iff] at halike
  have hboth := (List.forall₂_and_left arranged others).mpr
    ⟨fun entry hmem => hvalues entry.1 entry.2 (hperm.mem_iff.mpr hmem), halike⟩
  refine ⟨arranged, hperm, .of_forall₂ (hboth.imp fun entry other hentry => ?_)⟩
  obtain ⟨hname, hvalue⟩ := Prod.mk.inj hentry.2
  exact ⟨hname, hentry.1 other.2 hvalue⟩

/-- Values with one canonical form have the same content. -/
lemma sameContent_of_canonical_eq {v w : Json} (h : v.canonical = w.canonical) :
    v.SameContent w := by
  induction v generalizing w with
  | null =>
    cases w <;> cases h
    exact .null
  | bool value =>
    cases w <;> cases h
    exact .bool value
  | number n =>
    cases w <;> cases h
    exact .number rfl
  | string text =>
    cases w <;> cases h
    exact .string text
  | array items ih =>
    cases w with
    | array others =>
      simp only [canonical, array.injEq] at h
      exact .array (forall₂_of_canonicalItems_eq h fun item hitem other => ih item hitem)
    | _ => simp [canonical] at h
  | object entries ih =>
    cases w with
    | object others =>
      simp only [canonical, object.injEq] at h
      have hperm : (canonicalEntries entries).Perm (canonicalEntries others) := by
        have hleft := Entries.sorted_perm (canonicalEntries entries)
        rw [h] at hleft
        exact hleft.symm.trans (Entries.sorted_perm _)
      obtain ⟨arranged, harranged, halike⟩ := reordered_of_canonicalEntries_perm hperm
        fun name value hmem other => ih name value hmem
      exact .object harranged halike
    | _ => simp [canonical] at h

/-- Values with the same content have one canonical form. -/
lemma SameContent.canonical_eq {v w : Json} (h : v.SameContent w) (hv : v.WellNamed) :
    v.canonical = w.canonical := by
  induction v generalizing w with
  | null | bool _ | string _ =>
    cases h
    rfl
  | number n =>
    cases h with
    | number htext => rw [Number.eq_of_text_eq htext]
  | array items ih =>
    cases h with
    | array hitems =>
      rw [canonical, canonical, canonicalItems_eq_map, canonicalItems_eq_map]
      congr 1
      exact map_eq_of_forall₂ hitems fun item hmem other hitem =>
        ih item hmem hitem (wellNamed_array_iff.mp hv item hmem)
  | object entries ih =>
    cases h with
    | @object _ arranged others hperm halike =>
      obtain ⟨hdistinct, hvalues⟩ := wellNamed_object_iff.mp hv
      -- Values that stand under one name agree already; what is left is the order of the names.
      have harranged : canonicalEntries arranged = canonicalEntries others := by
        rw [canonicalEntries_eq_map, canonicalEntries_eq_map]
        refine map_eq_of_forall₂ halike.forall₂ ?_
        rintro ⟨name, value⟩ hmem ⟨name', other⟩ ⟨rfl, hvalue⟩
        have hmem' := hperm.mem_iff.mpr hmem
        rw [canonicalEntry, canonicalEntry, ih name value hmem' hvalue (hvalues name value hmem')]
      have hentries : (canonicalEntries entries).Perm (canonicalEntries arranged) := by
        rw [canonicalEntries_eq_map, canonicalEntries_eq_map]
        exact hperm.map _
      rw [canonical, canonical, ← harranged]
      congr 1
      apply Entries.sorted_eq_of_perm hentries
      rwa [keys_canonicalEntries]

/-- The canonical text of a value without double names tells its content, and nothing else. -/
theorem canonicalText_eq_iff {v w : Json} (hv : v.WellNamed) :
    v.canonicalText = w.canonicalText ↔ v.SameContent w := by
  constructor
  · intro h
    have hwrite : v.canonical.write .compact 0 = w.canonical.write .compact 0 :=
      String.ofList_injective h
    exact sameContent_of_canonical_eq (eq_of_write_eq Style.blank_compact hwrite)
  · intro h
    rw [canonicalText, canonicalText, h.canonical_eq hv]

/-- What is noted on a parcel, with quotes in a name. -/
def parcelNotes : Json := .object [("this side \"up\"", .array []),
  ("lid", .object [("seal", .null), ("mark", .string ":")])]

/-- The label of a parcel: two sizes and the notes. -/
def parcelLabel : Json := .array [.ofInt 1, .ofInt 12, parcelNotes]

/-- The same label, its notes in another order. -/
def turnedLabel : Json := .array [.ofInt 1, .ofInt 12,
  .object [("lid", .object [("mark", .string ":"), ("seal", .null)]),
    ("this side \"up\"", .array [])]]

/-- A label with other sizes, though of the same digits. -/
def widerLabel : Json := .array [.ofInt 11, .ofInt 2, parcelNotes]

/-- The two orders of a label have one canonical text, and another label has another one. -/
theorem canonicalText_eq_iff_parcelLabel :
    parcelLabel.WellNamed ∧ parcelLabel.canonicalText = turnedLabel.canonicalText ∧
      parcelLabel.canonicalText ≠ widerLabel.canonicalText := by
  have hnamed : parcelLabel.WellNamed := by
    simp [parcelLabel, parcelNotes, ofInt, Entries.keys, or_imp, forall_and]
  have hlid : SameContent (.object [("seal", .null), ("mark", .string ":")])
      (.object [("mark", .string ":"), ("seal", .null)]) :=
    .object (.swap ..) (.cons (.string ":") (.cons .null .nil))
  refine ⟨hnamed, (canonicalText_eq_iff hnamed).mpr ?_, fun h => ?_⟩
  · refine .array (.cons (.number rfl) (.cons (.number rfl) (.cons ?_ .nil)))
    exact .object (.swap ..) (.cons hlid (.cons (.array .nil) .nil))
  · cases (canonicalText_eq_iff hnamed).mp h with
    | array hitems =>
      obtain ⟨hfirst, -⟩ := List.forall₂_cons.mp hitems
      cases hfirst with
      | number htext => exact absurd htext (by decide)

end Json

end CloudTemplate
