import CloudTemplate.Proofs.Generation.Content
import CloudTemplate.Proofs.Graph.RoundTrip
import CloudTemplate.Proofs.Template.Depth
import CloudTemplate.Proofs.Template.Resource

/-!
# What is generated can be read

A value is legible within a limit if it can be read back from its text and has at most so many
levels (`PropertyValue.Legible`).  The values that the generator makes up are legible within four
levels, and those that it copies are as legible as in the drawing, with one exception: around the
environment of a function it puts one level more (`Node.wrapping`).  So if all attributes of a
drawing are legible within a limit, this level included, then so is its template
(`legible_template`).
-/

namespace CloudTemplate

namespace PropertyValue

/-- A value is read back from its text, and it has at most so many levels. -/
structure Legible (limit : Nat) (v : PropertyValue) : Prop where
  wellNamed : v.WellNamed
  unambiguous : v.Unambiguous
  levels : v.toJson.levels ≤ limit

variable {limit : Nat}

@[simp]
lemma legible_bool (value : Bool) : Legible limit (.bool value) :=
  ⟨.bool value, unambiguous_of_atom nofun nofun, Nat.zero_le _⟩

@[simp]
lemma legible_number (value : Number) : Legible limit (.number value) :=
  ⟨.number value, unambiguous_of_atom nofun nofun, Nat.zero_le _⟩

@[simp]
lemma legible_ofInt (n : Int) : Legible limit (.ofInt n) := legible_number _

@[simp]
lemma legible_string (value : String) : Legible limit (.string value) :=
  ⟨.string value, unambiguous_of_atom nofun nofun, Nat.zero_le _⟩

@[simp]
lemma legible_ref (target : String) : Legible (limit + 1) (.ref target) :=
  ⟨wellNamed_ref target, unambiguous_of_atom nofun nofun, Nat.le_add_left 1 limit⟩

@[simp]
lemma legible_getAtt (target name : String) : Legible (limit + 2) (.getAtt target name) :=
  ⟨wellNamed_getAtt target name, unambiguous_of_atom nofun nofun, Nat.le_add_left 2 limit⟩

@[simp]
lemma legible_list_iff {items : List PropertyValue} :
    Legible (limit + 1) (.list items) ↔ ∀ item ∈ items, item.Legible limit := by
  have hlevels : (toJson (.list items)).levels ≤ limit + 1 ↔
      ∀ item ∈ items, item.toJson.levels ≤ limit := by
    rw [toJson, Json.levels, toItems_eq_map, Nat.add_le_add_iff_right, Json.levelsOfItems_le_iff,
      List.forall_mem_map]
  constructor
  · rintro ⟨hnamed, hplain, hdepth⟩ item hitem
    exact ⟨wellNamed_list_iff.mp hnamed item hitem, unambiguous_list_iff.mp hplain item hitem,
      hlevels.mp hdepth item hitem⟩
  · intro h
    exact ⟨wellNamed_list_iff.mpr fun item hitem => (h item hitem).wellNamed,
      unambiguous_list_iff.mpr fun item hitem => (h item hitem).unambiguous,
      hlevels.mpr fun item hitem => (h item hitem).levels⟩

lemma legible_map_iff {entries : Entries PropertyValue}
    (hplain : ¬ LooksLikeReference (.map entries)) : Legible (limit + 1) (.map entries) ↔
      (Entries.keys entries).Nodup ∧ ∀ entry ∈ entries, entry.2.Legible limit := by
  have hlevels : (toJson (.map entries)).levels ≤ limit + 1 ↔
      ∀ entry ∈ entries, entry.2.toJson.levels ≤ limit := by
    rw [toJson, Json.levels, toEntries_eq_map, Nat.add_le_add_iff_right,
      Json.levelsOfEntries_le_iff]
    simp only [List.mem_map, Prod.mk.injEq, forall_exists_index, and_imp]
    exact ⟨fun h entry hmem => h _ _ entry hmem rfl rfl,
      fun h _ _ entry hmem _ heq => heq ▸ h entry hmem⟩
  constructor
  · rintro ⟨hnamed, hplain, hdepth⟩
    obtain ⟨hkeys, hvalues⟩ := wellNamed_map_iff.mp hnamed
    refine ⟨hkeys, ?_⟩
    rintro ⟨name, v⟩ hmem
    exact ⟨hvalues name v hmem, (unambiguous_map_iff.mp hplain).2 name v hmem,
      hlevels.mp hdepth _ hmem⟩
  · rintro ⟨hkeys, h⟩
    exact ⟨wellNamed_map_iff.mpr ⟨hkeys, fun name v hmem => (h _ hmem).wellNamed⟩,
      unambiguous_map_iff.mpr ⟨hplain, fun name v hmem => (h _ hmem).unambiguous⟩,
      hlevels.mpr fun entry hmem => (h entry hmem).levels⟩

@[simp]
lemma legible_map_cons_cons_iff {first second : String × PropertyValue}
    {more : Entries PropertyValue} : Legible (limit + 1) (.map (first :: second :: more)) ↔
      (Entries.keys (first :: second :: more)).Nodup ∧
        ∀ entry ∈ first :: second :: more, entry.2.Legible limit :=
  legible_map_iff nofun

lemma legible_map_singleton_iff {key : String} {v : PropertyValue} (href : key ≠ refKey)
    (hgetAtt : key ≠ getAttKey) :
    Legible (limit + 1) (.map [(key, v)]) ↔ v.Legible limit := by
  rw [legible_map_iff]
  · simp [Entries.keys]
  · rintro (_ | _ | _)
    · exact href rfl
    · exact hgetAtt rfl
    · exact hgetAtt rfl

end PropertyValue

open PropertyValue

/-! ## Attributes -/

/-- How many levels the generator puts around an attribute. -/
def Node.wrapping (n : Node) (key : String) : Nat :=
  if n.kind = .lambda ∧ key = "environment" then 1 else 0

/-- The attributes of a node are legible where the generator puts them. -/
def Node.Legible (limit : Nat) (n : Node) : Prop :=
  n.Sound ∧ ∀ key v, (key, v) ∈ n.attributes.entries → v.toJson.levels + n.wrapping key ≤ limit

/-- The properties of a resource are legible. -/
def Resource.Legible (limit : Nat) (r : Resource) : Prop :=
  r.EachProperty fun _ v => v.Legible limit

variable {n : Node} {s : Surroundings} {roleId : String} {room : Nat}

lemma Node.Legible.attribute? {limit : Nat} (h : n.Legible limit) (key : String)
    (v : PropertyValue) (hv : n.attribute? key = some v) : v.Legible limit := by
  have hmem := Table.get?_eq_some_iff.mp hv
  have hlevels := h.2 key v hmem
  exact ⟨(h.1 key v hmem).1, (h.1 key v hmem).2, by omega⟩

/-! ## The resources of nodes -/

open Resource

section

variable (h : n.Legible (room + 4))
include h

lemma legible_vpcResource : (vpcResource n).Legible (room + 4) :=
  ((((EachProperty.of _).set (legible_string _)).set (legible_bool _)).set (legible_bool _)).set?
    (h.attribute? _)

lemma legible_subnetResource : (subnetResource s n).Legible (room + 4) :=
  ((((EachProperty.of _).placedIn _ fun _ => legible_ref _).set (legible_string _)).set
    (legible_bool _)).set? (h.attribute? _)

omit h in
lemma legible_securityGroupResource : (securityGroupResource s n).Legible (room + 4) := by
  refine (((EachProperty.of _).set (legible_string _)).placedIn _ fun _ => legible_ref _).set ?_
  simp [portRule, Node.textOr, Entries.keys]

lemma legible_machineResource : (machineResource n).Legible (room + 4) := by
  refine (((((EachProperty.of _).set (legible_string _)).set (legible_string _)).set?
    (h.attribute? _)).placedIn _ fun _ => legible_ref _).inGroups ?_
  simp

lemma legible_bucketResource : (bucketResource n).Legible (room + 4) := by
  refine ((((EachProperty.of _).set? (h.attribute? _)).set ?_).set ?_).setIf _ ?_ <;>
    simp (disch := decide) [legible_map_singleton_iff, Entries.keys]

lemma legible_databaseResource : (databaseResource n).Legible (room + 4) := by
  refine (((((((((((EachProperty.of _).set (legible_string _)).set (legible_string _)).set
    (legible_string _)).set (legible_bool _)).set (legible_ofInt _)).set (legible_string _)).set
    (legible_bool _)).set? (h.attribute? _)).set? (h.attribute? _)).set? ?_).inGroups ?_
  · intro v hv
    obtain ⟨value, -, rfl⟩ := Option.map_eq_some_iff.mp hv
    exact legible_bool _
  · simp

lemma legible_tableResource : (tableResource n).Legible (room + 4) := by
  refine (((((EachProperty.of _).set? (h.attribute? _)).set ?_).set ?_).setIf _ ?_).set
    (legible_string _) <;> simp [tableKey, keyDefinition, Node.textOr, Entries.keys]

omit h in
lemma legible_functionCode (n : Node) : (functionCode n).Legible (room + 4) := by
  unfold functionCode
  split <;> simp (disch := decide) [legible_map_singleton_iff, Entries.keys]

/-- The environment of a function has one level more than in the drawing. -/
lemma legible_functionEnvironment (hkind : n.kind = .lambda) {v : PropertyValue}
    (hv : functionEnvironment? n = some v) : v.Legible (room + 4) := by
  unfold functionEnvironment? at hv
  split at hv
  · next entries hentries =>
    cases hv
    have hmem := Table.get?_eq_some_iff.mp hentries
    have hlevels := h.2 _ _ hmem
    rw [Node.wrapping, if_pos ⟨hkind, rfl⟩] at hlevels
    exact (legible_map_singleton_iff (by decide) (by decide)).mpr
      ⟨(h.1 _ _ hmem).1, (h.1 _ _ hmem).2, by omega⟩
  · simp at hv

lemma legible_functionResource (hkind : n.kind = .lambda) :
    (functionResource roleId n).Legible (room + 4) :=
  (((((((EachProperty.of _).set (legible_string _)).set (legible_string _)).set
    (legible_ofInt _)).set (legible_ofInt _)).set (legible_functionCode n)).set?
    fun _ => legible_functionEnvironment h hkind).underRole _ legible_string (legible_getAtt _ _)

omit h in
lemma legible_assumePolicy {service : String} :
    (assumePolicy (.string service)).Legible (room + 4) := by
  simp (disch := decide) [assumePolicy, legible_map_singleton_iff, Entries.keys]

lemma legible_roleResource : (roleResource n).Legible (room + 4) :=
  (((EachProperty.of _).set legible_assumePolicy).set? (h.attribute? _)).set? (h.attribute? _)

lemma legible_restApiResource : (restApiResource n).Legible (room + 4) := by
  refine (((EachProperty.of _).set (legible_string _)).set? (h.attribute? _)).set ?_
  simp (disch := decide) [legible_map_singleton_iff, Node.textOr]

lemma legible_topicResource : (topicResource n).Legible (room + 4) :=
  (((EachProperty.of _).set? (h.attribute? _)).set? (h.attribute? _)).set (legible_string _)

lemma legible_queueResource : (queueResource n).Legible (room + 4) :=
  (((((EachProperty.of _).set? (h.attribute? _)).set (legible_ofInt _)).set (legible_ofInt _)).set
    (legible_bool _)).setIf _ (legible_bool _)

/-- If the attributes of a node are legible where they are put, so are the properties of its
resource. -/
lemma legible_of_resource? {r : Resource} (hr : n.resource? s roleId = some r) :
    r.Legible (room + 4) := by
  unfold Node.resource? at hr
  cases hkind : n.kind <;> rw [hkind] at hr <;> cases hr
  case vpc => exact legible_vpcResource h
  case subnet => exact legible_subnetResource h
  case securityGroup => exact legible_securityGroupResource
  case ec2 => exact legible_machineResource h
  case s3 => exact legible_bucketResource h
  case lambda => exact legible_functionResource h hkind
  case rds => exact legible_databaseResource h
  case dynamodb => exact legible_tableResource h
  case apiGateway => exact legible_restApiResource h
  case sns => exact legible_topicResource h
  case sqs => exact legible_queueResource h
  case iamRole => exact legible_roleResource h

end

lemma legible_executionRole : executionRole.Legible (room + 4) := by
  refine ((EachProperty.of _).set legible_assumePolicy).set ?_
  simp

/-- An output shows a reference. -/
lemma legible_of_output? {name : String} {output : Output}
    (houtput : n.output? = some (name, output)) : output.value.Legible (room + 2) := by
  unfold Node.output? at houtput
  cases hkind : n.kind <;> rw [hkind] at houtput <;> cases houtput <;> simp

/-! ## Templates -/

/-- The properties and outputs of a template are legible, and it has no parameters. -/
structure Template.Legible (limit : Nat) (t : Template) : Prop where
  parameters : t.parameters = .empty
  resources : ∀ id r, (id, r) ∈ t.resources.entries → r.Legible limit
  outputs : ∀ name output, (name, output) ∈ t.outputs.entries → output.value.Legible limit

namespace Template.Legible

variable {limit : Nat} {t : Template}

lemma wellNamed (h : t.Legible limit) : t.WellNamed where
  parameters := by
    rw [h.parameters]
    exact Table.forall_mem_empty
  resources id r hr name v hmem := (h.resources id r hr name v hmem).wellNamed
  outputs name output hmem := (h.outputs name output hmem).wellNamed

lemma unambiguous (h : t.Legible limit) : t.Unambiguous where
  resources id r hr name v hmem := (h.resources id r hr name v hmem).unambiguous
  outputs name output hmem := (h.outputs name output hmem).unambiguous

lemma levels_le (h : t.Legible limit) : t.toJson.levels ≤ limit + 4 := by
  refine Template.levels_le ?parameters ?properties ?outputs
  case parameters =>
    rw [h.parameters]
    exact Table.forall_mem_empty
  case properties => exact fun id r hr name v hmem => (h.resources id r hr name v hmem).levels
  case outputs =>
    exact fun name output hmem => ((h.outputs name output hmem).levels).trans (Nat.le_succ _)

end Template.Legible

lemma parameters_template (g : Graph) : g.template.parameters = .empty :=
  congrArg Template.parameters (foldl_addNode_eq (.ofNodes g.nodes) g.nodes
    (.withDescription (g.description.getD (defaultDescription g.name))))

/-- If all attributes of a drawing are legible where they are put, so is its template. -/
lemma legible_template {g : Graph} (h : ∀ n ∈ g.nodes, n.Legible (room + 4)) :
    g.template.Legible (room + 4) := by
  have hemitted := emitted_template g
  refine ⟨parameters_template g, fun id r hr => ?_, fun name output hmem => ?_⟩
  · rcases hemitted.origin id r hr with ⟨n, hn, -, roleId, hown, -⟩ | ⟨rfl, -⟩
    · exact legible_of_resource? (h n hn) hown
    · exact legible_executionRole
  · obtain ⟨n, -, houtput⟩ := hemitted.outputs name output hmem
    exact legible_of_output? houtput

/-- Of a sound drawing, all attributes are legible within some limit. -/
lemma exists_room {g : Graph} (h : g.Sound) : ∃ room, ∀ n ∈ g.nodes, n.Legible (room + 4) := by
  refine ⟨Json.levelsOfItems (g.nodes.map fun n => propertiesToJson n.attributes), ?_⟩
  intro n hn
  refine ⟨h n hn, fun key v hmem => ?_⟩
  have hnode : (propertiesToJson n.attributes).levels ≤
      Json.levelsOfItems (g.nodes.map fun n => propertiesToJson n.attributes) :=
    Json.levelsOfItems_le_iff.mp (Nat.le_refl _) _ (List.mem_map.mpr ⟨n, hn, rfl⟩)
  have hattribute : v.toJson.levels < (propertiesToJson n.attributes).levels := by
    rw [propertiesToJson_eq, Json.levels, Nat.lt_succ_iff]
    exact Json.levelsOfEntries_le_iff.mp (Nat.le_refl _) key v.toJson
      (Table.mem_entries_map.mpr ⟨v, hmem, rfl⟩)
  have hwrapping : n.wrapping key ≤ 1 := by
    unfold Node.wrapping
    split <;> omega
  omega

end CloudTemplate
