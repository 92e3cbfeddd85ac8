import CloudTemplate.Document.Decode
import CloudTemplate.Proofs.Json.Shown

/-!
# Reading what was written, and what holds of whatever is read

The first half says what the readers of typed values make of an outline that shows a value.
Scalars, lists and tables are read back as they are written; a record is read from its entries one
after the other, and `Record.Steps` lists the states it goes through.  As long as the entries have
distinct names and no required field lacks, nothing else matters (`Record.read_of_steps`).

The second half goes the other way and assumes nothing of the outline.  What every value of a table
or a list has by its reader, every one that is read has (`Outline.forall_of_asTable`), and what the
fields of a record keep holds of every record that is read (`Record.read_induction`).
-/

namespace CloudTemplate

variable {α σ : Type}

/-! ## Scalars -/

namespace Outline.Shows

variable {o : Outline}

lemma asJson_eq {j : Json} (h : o.Shows j) (hnamed : j.WellNamed) : o.asJson = .ok j := by
  rw [asJson, h.value_eq hnamed]

lemma asText_eq {text : String} (h : o.Shows (.string text)) : o.asText = .ok text := by
  cases h
  rfl

lemma asOptional_asText_eq {text : String} (h : o.Shows (.string text)) :
    o.asOptional Outline.asText = .ok (some text) := by
  cases h
  rfl

lemma asOptional_null_eq {read : Outline → Except Failure α} (h : o.Shows .null) :
    o.asOptional read = .ok none := by
  cases h
  rfl

lemma asTag_eq {form : Form} {tag : String} (h : o.Shows (.string tag)) :
    o.asTag form = .ok tag := by
  cases h
  rfl

lemma asNames_eq {names : List String} (h : o.Shows (.strings names)) : o.asNames = .ok names := by
  have hnamed : (Json.strings names).WellNamed := by simp [Json.strings]
  have hnames : names.mapM (fun name => some name) = some names :=
    List.mapM_pure.trans (by simp)
  rw [asNames, h.asJson_eq hnamed, Json.strings]
  simp only [List.mapM_map, Function.comp_def, hnames]

end Outline.Shows

/-! ## Lists and tables -/

section Tables

variable {read : Outline → Except Failure α} {write : α → Json}

lemma OutlineItems.Shows.readAll_eq {values : List α} {items : OutlineItems}
    (h : items.Shows (values.map write))
    (hread : ∀ v ∈ values, ∀ o, o.Shows (write v) → read o = .ok v) :
    items.readAll read = .ok values := by
  induction values generalizing items with
  | nil =>
    cases h
    rfl
  | cons v more ih =>
    cases h with
    | item _ hvalue hmore =>
      obtain ⟨hfirst, hrest⟩ := List.forall_mem_cons.mp hread
      rw [readAll]
      simp only [hfirst _ hvalue, ih hmore hrest]
      rfl

/-- A list is read back if all its items are. -/
lemma Outline.Shows.asList_eq {values : List α} {o : Outline}
    (h : o.Shows (.array (values.map write)))
    (hread : ∀ v ∈ values, ∀ o, o.Shows (write v) → read o = .ok v) :
    o.asList read = .ok values := by
  cases h with
  | array start hdepth hitems =>
    rw [asList, if_pos hdepth]
    exact hitems.readAll_eq hread

lemma OutlineMembers.Shows.readAll_eq {entries : Entries α} {members : OutlineMembers}
    (h : members.Shows (entries.map fun entry => (entry.1, write entry.2)))
    (hread : ∀ name v, (name, v) ∈ entries → ∀ o, o.Shows (write v) → read o = .ok v)
    (done : Table α) (hkeys : (Entries.keys (done.entries ++ entries)).Nodup) :
    members.readAll read done = .ok ⟨done.entries ++ entries, hkeys⟩ := by
  induction entries generalizing members done with
  | nil =>
    cases h
    simp [readAll]
  | cons entry more ih =>
    obtain ⟨key, v⟩ := entry
    cases h with
    | member _ _ _ hvalue hmore =>
      obtain ⟨hfirst, hrest⟩ := Entries.forall_mem_cons_iff.mp hread
      have hfresh : key ∉ done.keys := Entries.not_mem_keys_of_nodup hkeys
      have hentries : (done.insert key v).entries ++ more = done.entries ++ (key, v) :: more := by
        rw [Table.entries_insert_of_not_mem v hfresh, List.append_assoc, List.singleton_append]
      rw [readAll]
      simp only [hfirst _ hvalue, ih hmore hrest (done.insert key v) (hentries ▸ hkeys), hentries]

/-- A table is read back if all its values are. -/
lemma Outline.Shows.asTable_eq {t : Table α} {o : Outline}
    (h : o.Shows (.object (t.map write).entries))
    (hread : ∀ name v, (name, v) ∈ t.entries → ∀ o, o.Shows (write v) → read o = .ok v) :
    o.asTable read = .ok t := by
  cases h with
  | object start hdepth hmembers =>
    rw [asTable, if_pos hdepth]
    exact hmembers.readAll_eq hread .empty t.distinct

end Tables

/-! ## Records -/

namespace Record

/-- A record goes from one state to another by reading entries, one field after the other. -/
inductive Steps (r : Record σ) : σ → Entries Json → σ → Prop
  | nil (state : σ) : Steps r state [] state
  | cons {state mid final : σ} {name : String} {j : Json} {entries : Entries Json}
      {field : Field σ} : r.field? name = some field →
        (∀ o : Outline, o.Shows j → field.store state o = .ok mid) →
          Steps r mid entries final → Steps r state ((name, j) :: entries) final

variable {r : Record σ} {state mid final : σ} {entries more : Entries Json}

lemma Steps.append (h : r.Steps state entries mid) (hmore : r.Steps mid more final) :
    r.Steps state (entries ++ more) final := by
  induction h with
  | nil state => exact hmore
  | cons hfield hstore _ ih => exact .cons hfield hstore (ih hmore)

/-- A field that stores what it reads is one step. -/
lemma Steps.single {name : String} {j : Json} {field : Field σ} {read : Outline → Except Failure α}
    {put : α → σ} {v : α} (hfield : r.field? name = some field)
    (hstore : ∀ o, field.store state o = (read o).map put)
    (hread : ∀ o : Outline, o.Shows j → read o = .ok v) (hmid : put v = mid) :
    r.Steps state [(name, j)] mid := by
  refine .cons hfield (fun o ho => ?_) (.nil _)
  rw [hstore, hread o ho, ← hmid]
  rfl

lemma missing?_eq_none {given : List String}
    (h : ∀ field ∈ r.fields, field.required = true → field.name ∈ given) :
    r.missing? given = none := by
  rw [missing?, List.find?_eq_none]
  intro field hfield
  simpa using h field hfield

/-- Members are read as their entries say, if no name comes twice and none is missing at the end. -/
lemma readMembers_of_steps (hsteps : r.Steps state entries final) {members : OutlineMembers}
    (hshows : members.Shows entries) {given : List String}
    (hkeys : (Entries.keys entries).Nodup) (hgiven : ∀ name ∈ Entries.keys entries, name ∉ given)
    (hrequired : ∀ field ∈ r.fields, field.required = true →
      field.name ∈ given ∨ field.name ∈ Entries.keys entries) :
    r.readMembers state given members = .ok final := by
  induction hsteps generalizing members given with
  | nil state =>
    cases hshows
    have hnone : r.missing? given = none := missing?_eq_none fun field hfield hneeded =>
      (hrequired field hfield hneeded).elim id nofun
    rw [readMembers]
    simp only [hnone]
  | @cons state mid final name j entries field hfield hstore _ ih =>
    cases hshows with
    | member _ _ _ hvalue hmore =>
      obtain ⟨hnew, hrest⟩ := List.nodup_cons.mp hkeys
      have hname : given.contains name = false := by
        simpa using hgiven name List.mem_cons_self
      -- The name joins those that were given: it is needed no more, and it must not come again.
      have hrestGiven : ∀ other ∈ Entries.keys entries, other ∉ name :: given := by
        intro other hother hmem
        rcases List.mem_cons.mp hmem with rfl | hmem
        · exact hnew hother
        · exact hgiven other (List.mem_cons_of_mem _ hother) hmem
      have hrestRequired : ∀ field ∈ r.fields, field.required = true →
          field.name ∈ name :: given ∨ field.name ∈ Entries.keys entries := by
        intro field hfield hneeded
        rcases hrequired field hfield hneeded with hmem | hmem
        · exact .inl (List.mem_cons_of_mem _ hmem)
        · rcases List.mem_cons.mp hmem with heq | hmem
          · exact .inl (heq ▸ List.mem_cons_self)
          · exact .inr hmem
      have htail := ih hmore hrest hrestGiven hrestRequired
      rw [readMembers]
      simp only [hfield, hname, hstore _ hvalue, htail, Bool.false_eq_true, if_false]

/-- A record is read back from entries that lead from the blank record to it. -/
theorem read_of_steps (form : Form) (hsteps : r.Steps r.blank entries final) {o : Outline}
    (hshows : o.Shows (.object entries)) (hkeys : (Entries.keys entries).Nodup)
    (hrequired : ∀ field ∈ r.fields, field.required = true →
      field.name ∈ Entries.keys entries) :
    r.read form o = .ok final := by
  cases hshows with
  | object start hdepth hmembers =>
    rw [read, if_pos hdepth]
    exact readMembers_of_steps hsteps hmembers hkeys (fun _ _ => List.not_mem_nil)
      fun field hfield hneeded => .inr (hrequired field hfield hneeded)

end Record

/-! ## What holds of whatever is read -/

lemma readText_eq_ok {read : Outline → Except Failure α} {text : String} {v : α}
    (h : readText read text = .ok v) : read (Outline.ofText text).1 = .ok v := by
  unfold readText at h
  dsimp only at h
  split at h
  · exact absurd h nofun
  · next value hread =>
    split at h
    · exact absurd h nofun
    · exact Except.ok.inj h ▸ hread

lemma OutlineItems.forall_of_readAll {read : Outline → Except Failure α} {P : α → Prop}
    (hread : ∀ o v, read o = .ok v → P v) {items : OutlineItems} {values : List α}
    (h : items.readAll read = .ok values) : ∀ v ∈ values, P v := by
  fun_induction readAll read items generalizing values with
  | case1 stop => exact Except.ok.inj h ▸ nofun
  | case3 value _ more first hfirst ih =>
    obtain ⟨rest, hrest, rfl⟩ := exists_of_map_eq_ok h
    exact List.forall_mem_cons.mpr ⟨hread value first hfirst, ih hrest⟩
  | _ => exact absurd h nofun

lemma Outline.forall_of_asList {read : Outline → Except Failure α} {P : α → Prop}
    (hread : ∀ o v, read o = .ok v → P v) {o : Outline} {values : List α}
    (h : o.asList read = .ok values) : ∀ v ∈ values, P v := by
  unfold asList at h
  split at h
  · split at h
    · exact OutlineItems.forall_of_readAll hread h
    · exact absurd h nofun
  · exact absurd h nofun

lemma OutlineMembers.forall_of_readAll {read : Outline → Except Failure α} {P : α → Prop}
    (hread : ∀ o v, read o = .ok v → P v) {members : OutlineMembers} {done t : Table α}
    (hdone : ∀ name v, (name, v) ∈ done.entries → P v) (h : members.readAll read done = .ok t) :
    ∀ name v, (name, v) ∈ t.entries → P v := by
  fun_induction readAll read done members with
  | case1 done stop => exact Except.ok.inj h ▸ hdone
  | case4 done _ value _ _ key v hv ih =>
    refine ih (fun name w hmem => ?_) h
    rcases Table.mem_entries_insert_iff.mp hmem with ⟨-, rfl⟩ | ⟨-, hold⟩
    · exact hread value w hv
    · exact hdone name w hold
  | _ => exact absurd h nofun

lemma Outline.forall_of_asTable {read : Outline → Except Failure α} {P : α → Prop}
    (hread : ∀ o v, read o = .ok v → P v) {o : Outline} {t : Table α} (h : o.asTable read = .ok t) :
    ∀ name v, (name, v) ∈ t.entries → P v := by
  unfold asTable at h
  split at h
  · split at h
    · exact OutlineMembers.forall_of_readAll hread Table.forall_mem_empty h
    · exact absurd h nofun
  · exact absurd h nofun

/-- What holds of a record holds also after the field is read into it. -/
def Field.Keeps (P : σ → Prop) (field : Field σ) : Prop :=
  ∀ state o next, P state → field.store state o = .ok next → P next

lemma Field.keeps_map {P : σ → Prop} {name : String} {required : Bool}
    {read : Outline → Except Failure α} {put : σ → α → σ}
    (hput : ∀ state o v, P state → read o = .ok v → P (put state v)) :
    Keeps P ⟨name, required, fun state o => (read o).map (put state)⟩ := by
  intro state o next hstate hstore
  obtain ⟨v, hread, rfl⟩ := exists_of_map_eq_ok hstore
  exact hput state o v hstate hread

namespace Record

variable {r : Record σ} {P : σ → Prop}

lemma readMembers_induction (hstore : ∀ field ∈ r.fields, field.Keeps P)
    {members : OutlineMembers} {state final : σ} {given : List String} (hstate : P state)
    (h : r.readMembers state given members = .ok final) : P final := by
  fun_induction r.readMembers state given members with
  | case2 state => exact Except.ok.inj h ▸ hstate
  | case6 state _ _ value _ _ _ field hfield _ next hread ih =>
    exact ih (hstore field (List.mem_of_find?_eq_some hfield) state value next hstate hread) h
  | case8 _ _ _ _ _ _ _ _ _ ih => exact ih hstate h
  | _ => exact absurd h nofun

lemma readItems_induction {form : Form} {fields : List (Field σ)}
    (hstore : ∀ field ∈ fields, field.Keeps P) {items : OutlineItems} {state final : σ}
    {count : Nat} (hstate : P state)
    (h : r.readItems form state count fields items = .ok final) : P final := by
  fun_induction r.readItems form state count fields items with
  | case2 state => exact Except.ok.inj h ▸ hstate
  | case4 state => exact Except.ok.inj h ▸ hstate
  | case6 state _ field fields value _ _ next hread ih =>
    obtain ⟨hfirst, hmore⟩ := List.forall_mem_cons.mp hstore
    exact ih hmore (hfirst state value next hstate hread) h
  | _ => exact absurd h nofun

/-- What holds of the blank record and is kept by every field holds of every record that is read. -/
theorem read_induction {form : Form} (hblank : P r.blank)
    (hstore : ∀ field ∈ r.fields, field.Keeps P) {o : Outline} {final : σ}
    (h : r.read form o = .ok final) : P final := by
  unfold read at h
  split at h
  · split at h
    · exact readMembers_induction hstore hblank h
    · exact absurd h nofun
  · split at h
    · exact readItems_induction hstore hblank h
    · exact absurd h nofun
  · exact absurd h nofun

end Record

end CloudTemplate
