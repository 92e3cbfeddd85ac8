import CloudTemplate.Proofs.Document.Decode

/-!
# How deep a reader goes

A strict reader enters at most `levelLimit` brackets inside one another, wherever it starts
counting.  So an outline that is read cannot have the shape of a value with more levels than are
left at its depth (`Shallow`).  Plain values are read in this way, and so are scalars and tables.
A record only skims what stands under a name that it does not know; what it reads is within the
limit provided that it knows all names (`Record.shallow_read`).
-/

namespace CloudTemplate

variable {α β σ : Type}

/-! ## Plain values -/

mutual

/-- What is read strictly has at most the levels that are left. -/
lemma Outline.Traces.levels_le : ∀ {depth : Nat} {o : Outline} {j read : Json},
    o.Traces depth j → o.value = .ok read → j.levels ≤ levelLimit - depth
  | _, _, _, _, .null .., _ => Nat.zero_le _
  | _, _, _, _, .bool .., _ => Nat.zero_le _
  | _, _, _, _, .number .., _ => Nat.zero_le _
  | _, _, _, _, .text .., _ => Nat.zero_le _
  | depth, _, _, _, .array _ hitems, h => by
    rw [Outline.value] at h
    split at h
    · obtain ⟨js, hvalues, -⟩ := exists_of_map_eq_ok h
      have hlevels := hitems.levels_le hvalues
      rw [Json.levels]
      omega
    · cases h
  | depth, _, _, _, .object _ hmembers, h => by
    rw [Outline.value] at h
    split at h
    · obtain ⟨entries, hentries, -⟩ := exists_of_map_eq_ok h
      have hlevels := hmembers.levels_le hentries
      rw [Json.levels]
      omega
    · cases h

lemma OutlineItems.Traces.levels_le : ∀ {depth : Nat} {items : OutlineItems} {js read : List Json},
    items.Traces depth js → items.values = .ok read → Json.levelsOfItems js ≤ levelLimit - depth
  | _, _, _, _, .close _, _ => Nat.zero_le _
  | _, _, _, _, .item _ hvalue hmore, h => by
    rw [OutlineItems.values] at h
    split at h
    · cases h
    · next first hfirst =>
      obtain ⟨rest, hrest, -⟩ := exists_of_map_eq_ok h
      rw [Json.levelsOfItems]
      exact Nat.max_le.mpr ⟨hvalue.levels_le hfirst, hmore.levels_le hrest⟩

lemma OutlineMembers.Traces.levels_le : ∀ {depth : Nat} {members : OutlineMembers}
    {entries done read : Entries Json}, members.Traces depth entries →
      members.entries done = .ok read → Json.levelsOfEntries entries ≤ levelLimit - depth
  | _, _, _, _, _, .close _, _ => Nat.zero_le _
  | _, _, _, _, _, .member key _ _ hvalue hmore, h => by
    rw [OutlineMembers.entries] at h
    split at h
    · cases h
    · next j hj =>
      rw [Json.levelsOfEntries]
      exact Nat.max_le.mpr ⟨hvalue.levels_le hj, hmore.levels_le h⟩

end

/-! ## Readers -/

/-- A reader accepts no outline of the shape of a value that has more levels than are left. -/
def Shallow (read : Outline → Except Failure α) (j : Json) : Prop :=
  ∀ (depth : Nat) (o : Outline) (v : α), o.Traces depth j → read o = .ok v →
    j.levels ≤ levelLimit - depth

section Readers

variable {read : Outline → Except Failure α} {j : Json}

lemma shallow_of_scalar (h : j.levels = 0) : Shallow read j := by
  intro depth o v _ _
  rw [h]
  exact Nat.zero_le _

lemma Shallow.map (h : Shallow read j) (put : α → β) : Shallow (fun o => (read o).map put) j := by
  intro depth o v htraces hread
  obtain ⟨a, ha, -⟩ := exists_of_map_eq_ok hread
  exact h depth o a htraces ha

lemma shallow_asJson (j : Json) : Shallow Outline.asJson j := by
  intro depth o v htraces hread
  unfold Outline.asJson at hread
  split at hread
  · next hvalue => exact htraces.levels_le hvalue
  · cases hread

lemma shallow_asNames (j : Json) : Shallow Outline.asNames j := by
  intro depth o v htraces hread
  unfold Outline.asNames at hread
  split at hread
  · cases hread
  · next hjson => exact shallow_asJson j depth o _ htraces hjson
  · next hjson => exact shallow_asJson j depth o _ htraces hjson
  · cases hread

lemma OutlineMembers.Traces.levels_le_of_readAll {depth : Nat} {members : OutlineMembers}
    {entries : Entries Json} (htraces : members.Traces depth entries)
    (hread : ∀ name j, (name, j) ∈ entries → Shallow read j) {done t : Table α}
    (h : members.readAll read done = .ok t) :
    Json.levelsOfEntries entries ≤ levelLimit - depth := by
  induction entries generalizing members done with
  | nil => exact Nat.zero_le _
  | cons entry more ih =>
    cases htraces with
    | member key _ _ hvalue hmore =>
      obtain ⟨hfirst, hrest⟩ := Entries.forall_mem_cons_iff.mp hread
      rw [readAll] at h
      split at h
      · cases h
      · next v hv =>
        rw [Json.levelsOfEntries]
        exact Nat.max_le.mpr ⟨hfirst _ _ v hvalue hv, ih hmore hrest h⟩

lemma shallow_asTable {entries : Entries Json}
    (hread : ∀ name j, (name, j) ∈ entries → Shallow read j) :
    Shallow (Outline.asTable read) (.object entries) := by
  intro depth o t htraces h
  cases htraces with
  | object start hmembers =>
    rw [Outline.asTable] at h
    split at h
    · have hlevels := hmembers.levels_le_of_readAll hread h
      rw [Json.levels]
      omega
    · cases h

end Readers

/-! ## Records -/

namespace Record

variable {r : Record σ} {entries : Entries Json}

/-- A record knows a name and reads strictly what stands under it. -/
def Covers (r : Record σ) (name : String) (j : Json) : Prop :=
  ∃ field, r.field? name = some field ∧ ∀ state, Shallow (field.store state) j

lemma levels_le_of_readMembers {depth : Nat} {members : OutlineMembers}
    (htraces : members.Traces depth entries)
    (hfields : ∀ name j, (name, j) ∈ entries → r.Covers name j) {state final : σ}
    {given : List String} (h : r.readMembers state given members = .ok final) :
    Json.levelsOfEntries entries ≤ levelLimit - depth := by
  induction entries generalizing members state given with
  | nil => exact Nat.zero_le _
  | cons entry more ih =>
    cases htraces with
    | member key _ _ hvalue hmore =>
      obtain ⟨⟨field, hfield, hstore⟩, hrest⟩ := Entries.forall_mem_cons_iff.mp hfields
      rw [readMembers] at h
      simp only [hfield] at h
      split at h
      · cases h
      · split at h
        · cases h
        · next next hnext =>
          rw [Json.levelsOfEntries]
          exact Nat.max_le.mpr ⟨hstore state _ _ next hvalue hnext, ih hmore hrest h⟩

/-- A record that knows all names is read strictly. -/
lemma shallow_read (form : Form) (hfields : ∀ name j, (name, j) ∈ entries → r.Covers name j) :
    Shallow (r.read form) (.object entries) := by
  intro depth o final htraces h
  cases htraces with
  | object start hmembers =>
    rw [read] at h
    split at h
    · have hlevels := levels_le_of_readMembers hmembers hfields h
      rw [Json.levels]
      omega
    · cases h

end Record

end CloudTemplate
