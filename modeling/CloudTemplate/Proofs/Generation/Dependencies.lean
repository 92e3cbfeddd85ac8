import CloudTemplate.Proofs.Generation.Drawn
import CloudTemplate.Proofs.Generation.Uses

/-!
# What resources list and what they mention

A generated resource names others twice: it lists them among those that must exist before it, and
its properties refer to them.  The two are written apart, from single ids, from lists of ids with
empty and repeated ones, and from the ids of generated roles.

They agree (`dependsOn_generate`).  What a node uses is mentioned in its resource
(`exists_mentions_of_mem_uses`), and what must exist before the resource is what the node uses.  In
the other direction the resource mentions nothing else, as long as nothing that was copied from an
attribute names a resource (`PropertyValue.Unlinked`).
-/

namespace CloudTemplate

open Resource

namespace PropertyValue

/-- Nothing inside a value is a reference, an attribute, or a map with the one name `Fn::Sub`. -/
def Unlinked (v : PropertyValue) : Prop := ∀ w, Inside w v → ¬ w.IsLink

lemma Unlinked.silent {v : PropertyValue} (h : v.Unlinked) : v.Silent := by
  intro reference hmentions
  obtain ⟨w, hinside, hlink⟩ := exists_isLink_of_mentions hmentions
  exact h w hinside hlink

@[simp]
lemma unlinked_string (text : String) : Unlinked (.string text) := by
  rintro w ⟨⟩ ⟨⟩

@[simp]
lemma unlinked_ofInt (n : Int) : Unlinked (.ofInt n) := by
  rintro w ⟨⟩ ⟨⟩

@[simp]
lemma unlinked_list_iff {items : List PropertyValue} :
    Unlinked (.list items) ↔ ∀ item ∈ items, item.Unlinked := by
  unfold Unlinked
  rw [forall_inside_list_iff]
  exact and_iff_right nofun

lemma unlinked_map_iff {entries : Entries PropertyValue} :
    Unlinked (.map entries) ↔ (∀ argument, entries ≠ [(subKey, argument)]) ∧
      ∀ entry ∈ entries, entry.2.Unlinked := by
  unfold Unlinked
  rw [forall_inside_map_iff, Prod.forall]
  refine and_congr_left fun _ => ⟨?_, ?_⟩
  · rintro h argument rfl
    exact h (.sub argument)
  · rintro h ⟨⟩
    exact h _ rfl

end PropertyValue

open PropertyValue

/-! ## What is used is mentioned -/

lemma Resource.mentions_of_property? {r : Resource} {property : String} {value : PropertyValue}
    {reference : Reference} (hproperty : r.property? property = some value)
    (h : value.Mentions reference) : r.Mentions reference :=
  ⟨property, value, Table.get?_eq_some_iff.mp hproperty, h⟩

variable {n : Node} {s : Surroundings} {r : Resource} {roleId target : String}

/-- Being placed in groups makes a resource mention each of them, if each is named by its id. -/
lemma mentions_inGroups {name : String} {named : String → PropertyValue} {groups : List String}
    {reference : Reference} (hgroup : target ∈ groups)
    (hnamed : (named target).Mentions reference) :
    (r.inGroups name named groups).Mentions reference :=
  mentions_of_property? (property?_inGroups_self named (List.ne_nil_of_mem hgroup))
    (.item (List.mem_map_of_mem hgroup) hnamed)

lemma mentions_machineResource (h : n.text? "subnetId" = some target) :
    (machineResource n).Mentions (.ref target) := by
  have hproperty : (machineResource n).property? "SubnetId" = some (.ref target) := by
    rw [machineResource, property?_inGroups (by decide), h, property?_placedIn_self]
  exact mentions_of_property? hproperty .ref

/-- What a node uses is mentioned in its resource. -/
lemma exists_mentions_of_mem_uses (hr : n.resource? s roleId = some r)
    (h : target ∈ n.uses s roleId) :
    ∃ reference, r.Mentions reference ∧ reference.target = target := by
  unfold Node.resource? at hr
  unfold Node.uses at h
  cases hkind : n.kind <;> rw [hkind] at hr h <;> cases hr
  case subnet =>
    have hproperty : (subnetResource s n).property? "VpcId" = some (.ref target) := by
      simp [subnetResource, property?_set, property?_set?, Option.mem_toList.mp h,
        property?_placedIn_self]
    exact ⟨.ref target, mentions_of_property? hproperty .ref, rfl⟩
  case securityGroup =>
    have hproperty : (securityGroupResource s n).property? "VpcId" = some (.ref target) := by
      simp [securityGroupResource, property?_set, Option.mem_toList.mp h, property?_placedIn_self]
    exact ⟨.ref target, mentions_of_property? hproperty .ref, rfl⟩
  case ec2 =>
    rcases List.mem_append.mp h with hsubnet | hgroup
    · exact ⟨.ref target, mentions_machineResource (Option.mem_toList.mp hsubnet), rfl⟩
    · exact ⟨.ref target, mentions_inGroups hgroup .ref, rfl⟩
  case rds => exact ⟨.getAtt target "GroupId", mentions_inGroups h .getAtt, rfl⟩
  case lambda =>
    dsimp only at h
    split at h
    · next hneeds =>
      obtain rfl := List.mem_singleton.mp h
      have hproperty := (runs_functionResource hneeds target).1
      exact ⟨.getAtt target "Arn", mentions_of_property? hproperty .getAtt, rfl⟩
    · exact absurd h List.not_mem_nil
  all_goals exact absurd h List.not_mem_nil

/-! ## Generated resources -/

/-- If no attribute names a resource, each resource in the template of some nodes lists every
resource to which its properties refer, once, and no other, whether or not it is drawn.  The ids of
the nodes need not be distinct. -/
theorem dependsOn_generate (nodes : List Node)
    (hplain : ∀ n ∈ nodes, ∀ key value, n.attribute? key = some value → value.Unlinked)
    (edges : List Edge) (name : String) (description : Option String) (id : String) (r : Resource)
    (hr : (generate nodes edges name description).resources.get? id = some r) :
    r.dependsOn.Nodup ∧ ∀ target, target ∈ r.dependsOn ↔
      ∃ reference, r.Mentions reference ∧ reference.target = target := by
  have hemitted := emitted_template ⟨name, description, nodes, edges⟩
  rcases hemitted.origin id r (Table.get?_eq_some_iff.mp hr) with
    ⟨n, hn, -, roleId, hown, -⟩ | ⟨rfl, -, -⟩
  · refine ⟨?_, fun target => ⟨fun hlisted => ?_, ?_⟩⟩
    · rw [dependsOn_of_resource? hown]
      exact nodup_pushAllNew List.nodup_nil _
    · exact exists_mentions_of_mem_uses hown ((mem_dependsOn_iff hown).mp hlisted)
    · rintro ⟨reference, hmentions, rfl⟩
      have hsilent : n.Silent := fun key value hvalue => (hplain n hn key value hvalue).silent
      exact grounded_of_resource? hsilent hown reference hmentions
  · refine ⟨List.nodup_nil, fun target => ⟨fun hlisted => absurd hlisted List.not_mem_nil, ?_⟩⟩
    rintro ⟨reference, hmentions, rfl⟩
    exact grounded_executionRole reference hmentions

/-- A machine whose groups are told with a repetition, an empty id and a number, and whose key has a
name that falls short of a reference. -/
def wiredMachine : Node :=
  ⟨"web", .ec2, .ofList [("subnetId", .string "zone"),
    ("securityGroupIds", .list [.string "in", .string "", .ofInt 7, .string "out", .string "in"]),
    ("keyName", .map [("Ref", .string "net"), ("Fn::Sub", .string "$\x7bfn\x7d")])]⟩

/-- The machine, its subnet with the only network, and a function with a text that would name the
subnet in an `Fn::Sub`. -/
def wiredNodes : List Node := [
  wiredMachine,
  ⟨"fn", .lambda, .ofList [("environment", .map [("Zone", .string "$\x7bzone\x7d")])]⟩,
  ⟨"zone", .subnet, .empty⟩,
  ⟨"net", .vpc, .empty⟩]

lemma unlinked_wiredNodes : ∀ n ∈ wiredNodes, ∀ key value, n.attribute? key = some value →
    value.Unlinked := by
  intro n hn key value hvalue
  have hmem := Node.mem_values_of_attribute? hn hvalue
  have hvalues : wiredNodes.flatMap (·.attributes.values) = [.string "zone",
      .list [.string "in", .string "", .ofInt 7, .string "out", .string "in"],
      .map [("Ref", .string "net"), ("Fn::Sub", .string "$\x7bfn\x7d")],
      .map [("Zone", .string "$\x7bzone\x7d")]] := by decide
  rw [hvalues] at hmem
  simp only [List.mem_cons, List.not_mem_nil, or_false] at hmem
  rcases hmem with rfl | rfl | rfl | rfl <;> simp [unlinked_map_iff, subKey]

/-- The machine lists its subnet and its two groups, which are not drawn, and mentions these. -/
theorem dependsOn_generate_wiredNodes :
    (∀ n ∈ wiredNodes, ∀ key value, n.attribute? key = some value → value.Unlinked) ∧
      ∃ r, (generate wiredNodes [] "" none).resources.get? "web" = some r ∧
        r.dependsOn = ["zone", "in", "out"] ∧ r.dependsOn.Nodup ∧
        ∀ target, target ∈ r.dependsOn ↔
          ∃ reference, r.Mentions reference ∧ reference.target = target := by
  have hget : (generate wiredNodes [] "" none).resources.get? "web" =
      some (machineResource wiredMachine) := by
    decide +kernel
  exact ⟨unlinked_wiredNodes, _, hget, by decide,
    dependsOn_generate wiredNodes unlinked_wiredNodes [] "" none "web" _ hget⟩

end CloudTemplate
