import CloudTemplate.Proofs.Table
import Mathlib.Data.List.Forall2
import Mathlib.Data.Option.Basic

/-!
# Entries in another order

Two lists of entries may differ in the order of the entries and, by some relation, in the values
that stand under the names (`Entries.Reordered`).  Whatever collects something from each entry then
collects the same up to order (`Reordered.flatMap_perm`), and if the names are distinct, a name is
looked up alike in both (`Reordered.rel_find?`).
-/

namespace CloudTemplate

universe u

variable {α β : Type u}

/-- Lists of related items lead to lists that are equal up to order, if related items do. -/
lemma flatMap_perm_of_forall₂ {γ : Type*} {rel : α → β → Prop} {items : List α} {others : List β}
    (h : List.Forall₂ rel items others) {f : α → List γ} {g : β → List γ}
    (hfg : ∀ item ∈ items, ∀ other, rel item other → (f item).Perm (g other)) :
    (items.flatMap f).Perm (others.flatMap g) := by
  induction h with
  | nil => exact .nil
  | @cons item other items others hhead _ ih =>
    rw [List.flatMap_cons, List.flatMap_cons]
    have hitem : (f item).Perm (g other) := hfg item List.mem_cons_self other hhead
    apply hitem.append
    exact ih fun item hitem => hfg item (List.mem_cons_of_mem _ hitem)

/-- Each item of two lists of related items is related to an item of the other list. -/
lemma exists_of_mem_forall₂ {rel : α → β → Prop} {items : List α} {others : List β}
    (h : List.Forall₂ rel items others) :
    (∀ item ∈ items, ∃ other ∈ others, rel item other) ∧
      ∀ other ∈ others, ∃ item ∈ items, rel item other := by
  induction h with
  | nil => simp
  | @cons item other items others hhead _ ih =>
    obtain ⟨hleft, hright⟩ := ih
    simp only [List.forall_mem_cons, List.exists_mem_cons_iff]
    refine ⟨⟨.inl hhead, ?_⟩, .inl hhead, ?_⟩
    · exact fun item hitem => .inr (hleft item hitem)
    · exact fun other hother => .inr (hright other hother)

/-- Lists of related items are mapped alike, if related items are. -/
lemma map_eq_of_forall₂ {γ : Type*} {rel : α → β → Prop} {items : List α} {others : List β}
    (h : List.Forall₂ rel items others) {f : α → γ} {g : β → γ}
    (hfg : ∀ item ∈ items, ∀ other, rel item other → f item = g other) :
    items.map f = others.map g := by
  induction h with
  | nil => rfl
  | @cons item other items others hhead _ ih =>
    rw [List.map_cons, List.map_cons, hfg item List.mem_cons_self other hhead]
    rw [ih fun item hitem => hfg item (List.mem_cons_of_mem _ hitem)]

/-- Where a function tells to what each item is related, related lists are told by it as well. -/
lemma map_eq_iff_forall₂ {rel : α → β → Prop} {f : α → β} {items : List α}
    (h : ∀ item ∈ items, ∀ other, f item = other ↔ rel item other) (others : List β) :
    items.map f = others ↔ List.Forall₂ rel items others := by
  induction items generalizing others with
  | nil => simp [eq_comm]
  | cons item more ih =>
    obtain ⟨hitem, hmore⟩ := List.forall_mem_cons.mp h
    cases others with
    | nil => simp
    | cons other rest =>
      rw [List.map_cons, List.cons.injEq, List.forall₂_cons, hitem other, ih hmore rest]

/-- Options whose values are related lead to the same result, if related values do. -/
lemma bind_eq_of_rel {γ : Type*} {rel : α → β → Prop} {a : Option α} {b : Option β}
    (h : Option.Rel rel a b) {f : α → Option γ} {g : β → Option γ}
    (hfg : ∀ v w, rel v w → f v = g w) : a.bind f = b.bind g := by
  cases h with
  | some hrel => exact hfg _ _ hrel
  | none => rfl

lemma isSome_eq_of_rel {rel : α → β → Prop} {a : Option α} {b : Option β}
    (h : Option.Rel rel a b) : a.isSome = b.isSome := by
  cases h <;> rfl

namespace Entries

/-- The same names in the same order, with related values. -/
inductive Alike (rel : α → β → Prop) : Entries α → Entries β → Prop
  | nil : Alike rel [] []
  | cons {name v w entries others} : rel v w → Alike rel entries others →
      Alike rel ((name, v) :: entries) ((name, w) :: others)

/-- The same names in whatever order, with related values. -/
def Reordered (rel : α → β → Prop) (entries : Entries α) (others : Entries β) : Prop :=
  ∃ arranged, entries.Perm arranged ∧ Alike rel arranged others

variable {rel : α → β → Prop} {entries : Entries α} {others : Entries β}

lemma Alike.forall₂ (h : Alike rel entries others) :
    List.Forall₂ (fun entry other => entry.1 = other.1 ∧ rel entry.2 other.2) entries others := by
  induction h with
  | nil => exact .nil
  | cons hrel _ ih => exact .cons ⟨rfl, hrel⟩ ih

lemma Alike.of_forall₂
    (h : List.Forall₂ (fun entry other => entry.1 = other.1 ∧ rel entry.2 other.2) entries others) :
    Alike rel entries others := by
  induction h with
  | nil => exact .nil
  | @cons entry other _ _ hhead _ ih =>
    obtain ⟨name, v⟩ := entry
    obtain ⟨_, w⟩ := other
    obtain ⟨rfl, hrel⟩ := hhead
    exact .cons hrel ih

lemma Alike.refl {rel : α → α → Prop} (h : ∀ v, rel v v) (entries : Entries α) :
    Alike rel entries entries := by
  induction entries with
  | nil => exact .nil
  | cons entry rest ih => exact .cons (h entry.2) ih

/-- Where a function tells to what each value is related, entries that are alike are told by it as
well. -/
lemma map_eq_iff_alike {rel : α → β → Prop} {f : α → β} {entries : Entries α}
    (h : ∀ name v, (name, v) ∈ entries → ∀ w, f v = w ↔ rel v w) (others : Entries β) :
    (entries.map fun entry => (entry.1, f entry.2)) = others ↔ Alike rel entries others := by
  induction entries generalizing others with
  | nil =>
    constructor
    · rintro rfl
      exact .nil
    · rintro ⟨⟩
      rfl
  | cons entry more ih =>
    obtain ⟨name, v⟩ := entry
    obtain ⟨hvalue, hmore⟩ := forall_mem_cons_iff.mp h
    constructor
    · rintro rfl
      exact .cons ((hvalue _).mp rfl) ((ih hmore _).mp rfl)
    · rintro (_ | ⟨hrel, hrest⟩)
      rw [List.map_cons, (hvalue _).mpr hrel, (ih hmore _).mpr hrest]

lemma Alike.keys_eq (h : Alike rel entries others) : keys entries = keys others := by
  induction h with
  | nil => rfl
  | cons _ _ ih => exact congrArg (List.cons _) ih

lemma Alike.rel_find? (h : Alike rel entries others) (key : String) :
    Option.Rel rel (find? entries key) (find? others key) := by
  induction h with
  | nil => exact .none
  | @cons name v w entries others hrel _ ih =>
    by_cases hkey : name = key
    · simp only [find?, hkey, if_true]
      exact .some hrel
    · simp only [find?, hkey, if_false]
      exact ih

namespace Reordered

lemma refl {rel : α → α → Prop} (h : ∀ v, rel v v) (entries : Entries α) :
    Reordered rel entries entries :=
  ⟨entries, .refl _, .refl h entries⟩

lemma keys_perm (h : Reordered rel entries others) : (keys entries).Perm (keys others) := by
  obtain ⟨arranged, hperm, halike⟩ := h
  rw [← halike.keys_eq]
  exact hperm.map Prod.fst

lemma length_eq (h : Reordered rel entries others) : entries.length = others.length := by
  have hlength := h.keys_perm.length_eq
  simpa [keys] using hlength

/-- Among distinct names each is found in both lists, with related values, or in none. -/
lemma rel_find? (h : Reordered rel entries others) (hdistinct : (keys entries).Nodup)
    (key : String) : Option.Rel rel (find? entries key) (find? others key) := by
  obtain ⟨arranged, hperm, halike⟩ := h
  have hdistinct' : (keys arranged).Nodup := (hperm.map Prod.fst).nodup_iff.mp hdistinct
  have hfind : find? entries key = find? arranged key :=
    Table.get?_eq_of_perm (t := ⟨entries, hdistinct⟩) (u := ⟨arranged, hdistinct'⟩) hperm key
  rw [hfind]
  exact halike.rel_find? key

lemma exists_of_mem (h : Reordered rel entries others) :
    (∀ name v, (name, v) ∈ entries → ∃ w, (name, w) ∈ others ∧ rel v w) ∧
      ∀ name w, (name, w) ∈ others → ∃ v, (name, v) ∈ entries ∧ rel v w := by
  obtain ⟨arranged, hperm, halike⟩ := h
  obtain ⟨hleft, hright⟩ := exists_of_mem_forall₂ halike.forall₂
  constructor
  · intro name v hmem
    obtain ⟨⟨_, w⟩, hother, rfl, hrel⟩ := hleft (name, v) (hperm.mem_iff.mp hmem)
    exact ⟨w, hother, hrel⟩
  · intro name w hmem
    obtain ⟨⟨_, v⟩, hentry, rfl, hrel⟩ := hright (name, w) hmem
    exact ⟨v, hperm.mem_iff.mpr hentry, hrel⟩

/-- What is collected entry by entry is the same up to order. -/
lemma flatMap_perm {γ : Type*} (h : Reordered rel entries others)
    {f : String × α → List γ} {g : String × β → List γ}
    (hfg : ∀ name v w, (name, v) ∈ entries → rel v w → (f (name, v)).Perm (g (name, w))) :
    (entries.flatMap f).Perm (others.flatMap g) := by
  obtain ⟨arranged, hperm, halike⟩ := h
  refine (hperm.flatMap_right f).trans (flatMap_perm_of_forall₂ halike.forall₂ ?_)
  rintro ⟨name, v⟩ hmem ⟨name', w⟩ ⟨rfl, hrel⟩
  exact hfg name v w (hperm.mem_iff.mpr hmem) hrel

lemma filterMap_perm {γ : Type*} (h : Reordered rel entries others)
    {f : String × α → Option γ} {g : String × β → Option γ}
    (hfg : ∀ name v w, (name, v) ∈ entries → rel v w → f (name, v) = g (name, w)) :
    (entries.filterMap f).Perm (others.filterMap g) := by
  rw [List.filterMap_eq_flatMap_toList, List.filterMap_eq_flatMap_toList]
  apply h.flatMap_perm
  intro name v w hmem hrel
  rw [hfg name v w hmem hrel]

lemma singleton_iff {name : String} {v : α} :
    Reordered rel [(name, v)] others ↔ ∃ w, others = [(name, w)] ∧ rel v w := by
  constructor
  · rintro ⟨arranged, hperm, halike⟩
    rw [← List.singleton_perm.mp hperm] at halike
    cases halike with
    | cons hrel hnil =>
      cases hnil
      exact ⟨_, rfl, hrel⟩
  · rintro ⟨w, rfl, hrel⟩
    exact ⟨_, .refl _, .cons hrel .nil⟩

end Reordered

end Entries

end CloudTemplate
