import CloudTemplate.Proofs.Generation.Insertion
import CloudTemplate.Proofs.Generation.Lookup
import CloudTemplate.Proofs.Generation.Network

/-!
# What is left of a replaced node

Where two nodes share an id, the later one replaces the earlier.  It does so only by standing under
the same names, and so what the earlier one left under other names, or told the others, outlives it.
`get?_generate_replaced_iff` compares the template with that of the drawing without the earlier
node, and says exactly when they hold the same under every name.

Three things may be left.  The role generated for a function stays, because the later node does not
use its name.  A network still counts among the networks of the drawing, and subnets and security
groups lie in it, or in none at all because there seem to be several (`LeavesNetwork`).  And an
output stays if the later nodes have none with its name (`LeavesOutput`).
-/

namespace CloudTemplate

variable {before after : List Node} {m n x : Node} {id : String}

/-! ## The nodes that are not replaced -/

/-- A replaced node is not the last one of its id. -/
lemma Node.lastOf?_replaced (hn : n ∈ after) (hid : n.id = m.id) (hkind : n.kind ≠ .unsupported)
    (id : String) : lastOf? (before ++ m :: after) id = lastOf? (before ++ after) id := by
  -- For the id of the replaced node, the search from the end stops behind it.
  have hlater : m.id = id → ∃ x, lastOf? after id = some x := by
    intro hsame
    apply Option.ne_none_iff_exists'.mp
    rw [ne_eq, lastOf?_eq_none_iff]
    exact fun h => h n hn hkind (hid.trans hsame)
  unfold lastOf? at hlater ⊢
  simp only [List.reverse_append, List.reverse_cons, List.find?_append, List.append_assoc]
  by_cases hsame : m.id = id
  · obtain ⟨x, hx⟩ := hlater hsame
    rw [hx, Option.some_or, Option.some_or]
  · simp [hsame]

/-! ## The role that is left -/

lemma rolesFor_insert (id : String) : rolesFor (before ++ m :: after) id =
    rolesFor (before ++ after) id + if m.needsRole = true ∧ m.id = id then 1 else 0 := by
  simp only [rolesFor, List.countP_append, List.countP_cons, Bool.and_eq_true, beq_iff_eq]
  omega

lemma mem_ids_replaced (hn : n ∈ after) (hid : n.id = m.id) (id : String) :
    id ∈ (before ++ m :: after).map Node.id ↔ id ∈ (before ++ after).map Node.id := by
  have hdrawn : m.id ∈ (before ++ after).map Node.id :=
    List.mem_map.mpr ⟨n, List.mem_append_right _ hn, hid⟩
  rw [mem_ids_insert, or_iff_right_of_imp]
  rintro rfl
  exact hdrawn

/-- A role that was generated for a replaced node is one more than there are without it. -/
lemma exists_role_left (hids : ∀ id, id ∈ (before ++ m :: after).map Node.id ↔
      id ∈ (before ++ after).map Node.id) (hneeds : m.needsRole = true) (edges : List Edge)
    (name : String) (description : Option String) :
    ∃ id, (generate (before ++ m :: after) edges name description).resources.get? id ≠
      (generate (before ++ after) edges name description).resources.get? id := by
  -- It is the candidate that would be given out next, were the node added at the end.
  have hnamed := named_generate (before ++ after) edges name description
  obtain ⟨k, hrole, hfree, hcount⟩ := roleCandidate_next fun j hj =>
    hnamed.mem_used_iff (fun x hx => List.mem_map_of_mem hx) m.id hj
  have hgiven : GivenOut ((before ++ m :: after).map Node.id) (before ++ m :: after) m.id k := by
    refine ⟨(free_congr hids).mpr hfree, ?_⟩
    rw [count_free_congr hids, rolesFor_insert, if_pos ⟨hneeds, rfl⟩]
    exact Nat.lt_succ_of_le hcount.le
  have hkey := (named_generate (before ++ m :: after) edges name description _).mpr
    (.inr ⟨m.id, k, hgiven, rfl⟩)
  have habsent : roleCandidate m.id k ∉
      (generate (before ++ after) edges name description).resources.keys := by
    rw [← hrole]
    exact fun hmem => freeRoleId_not_mem _ _ (List.mem_append_right _ hmem)
  refine ⟨roleCandidate m.id k, fun hsame => ?_⟩
  rw [Table.get?_eq_none_iff.mpr habsent] at hsame
  exact Table.get?_eq_none_iff.mp hsame hkey

/-! ## The network that is left -/

/-- A node decides whether there is one network, and which: it is a network with an id of its own,
and the other networks have at most one id among them. -/
structure DecidesNetwork (others : List Node) (m : Node) : Prop where
  network : m.kind = .vpc
  alone : ∀ v ∈ others, v.kind = .vpc → v.id ≠ m.id
  few : ∀ v ∈ others, ∀ w ∈ others, v.kind = .vpc → w.kind = .vpc → v.id = w.id

/-- A node decides about the network, and the subnet or the security group that is left under some
id names none. -/
structure LeavesNetwork (others : List Node) (m : Node) : Prop where
  decides : DecidesNetwork others m
  unplaced : ∃ x, Node.lastOf? others x.id = some x ∧
    (x.kind = .subnet ∨ x.kind = .securityGroup) ∧ x.text? "vpcId" = none

lemma mem_insert_iff {v : Node} : v ∈ before ++ m :: after ↔ v = m ∨ v ∈ before ++ after := by
  rw [List.perm_middle.mem_iff, List.mem_cons]

/-- Without a node that decides there is no network any more, or there is a single one only now. -/
lemma DecidesNetwork.vpcOf?_ne (h : DecidesNetwork (before ++ after) m)
    (htext : x.text? "vpcId" = none) :
    (Surroundings.ofNodes (before ++ m :: after)).vpcOf? x ≠
      (Surroundings.ofNodes (before ++ after)).vpcOf? x := by
  intro hsame
  have hm : m ∈ before ++ m :: after := mem_insert_iff.mpr (.inl rfl)
  -- Another network is the only one without the node; else the node is the only one with it.
  by_cases hany : ∃ v ∈ before ++ after, v.kind = .vpc
  · obtain ⟨v, hv, hvpc⟩ := hany
    have hwithout := (vpcOf?_ofNodes_eq_some_iff htext).mpr
      ⟨⟨v, hv, hvpc, rfl⟩, fun w hw hwvpc => h.few w hw v hv hwvpc hvpc⟩
    rw [hwithout, vpcOf?_ofNodes_eq_some_iff htext] at hsame
    exact h.alone v hv hvpc (hsame.2 m hm h.network).symm
  · have hwith : (Surroundings.ofNodes (before ++ m :: after)).vpcOf? x = some m.id := by
      refine (vpcOf?_ofNodes_eq_some_iff htext).mpr
        ⟨⟨m, hm, h.network, rfl⟩, fun v hv hvpc => ?_⟩
      rcases mem_insert_iff.mp hv with rfl | hv
      · rfl
      · exact absurd ⟨v, hv, hvpc⟩ hany
    rw [hwith, eq_comm, vpcOf?_ofNodes_eq_some_iff htext] at hsame
    obtain ⟨⟨v, hv, hvpc, -⟩, -⟩ := hsame
    exact hany ⟨v, hv, hvpc⟩

/-- Where all other networks have one id, a network that does not decide has it exactly if there is
one of them. -/
lemma id_eq_iff_of_not_decidesNetwork {others : List Node} (h : ¬ DecidesNetwork others m)
    (hvpc : m.kind = .vpc) (hall : ∀ v ∈ others, v.kind = .vpc → v.id = id) :
    m.id = id ↔ ∃ v ∈ others, v.kind = .vpc ∧ v.id = id := by
  have hfew := fun v hv w hw hvvpc hwvpc => (hall v hv hvvpc).trans (hall w hw hwvpc).symm
  constructor
  · rintro rfl
    by_contra hnone
    exact h ⟨hvpc, fun v hv hvvpc hid => hnone ⟨v, hv, hvvpc, hid⟩, hfew⟩
  · intro _
    by_contra hother
    exact h ⟨hvpc, fun v hv hvvpc hid => hother (hid ▸ hall v hv hvvpc), hfew⟩

lemma vpcOf?_eq_of_not_decidesNetwork (h : ¬ DecidesNetwork (before ++ after) m) (x : Node) :
    (Surroundings.ofNodes (before ++ m :: after)).vpcOf? x =
      (Surroundings.ofNodes (before ++ after)).vpcOf? x := by
  by_cases hvpc : m.kind = .vpc
  · cases htext : x.text? "vpcId" with
    | some vpc => rw [vpcOf?_of_text? htext, vpcOf?_of_text? htext]
    | none =>
      apply Option.ext
      intro id
      rw [vpcOf?_ofNodes_eq_some_iff htext, vpcOf?_ofNodes_eq_some_iff htext]
      simp only [mem_insert_iff, or_and_right, exists_or, or_imp, forall_and, exists_eq_left,
        forall_eq, hvpc, true_and, forall_const]
      constructor
      · rintro (⟨hid, -, hall⟩ | ⟨hnetwork, -, hall⟩)
        · exact ⟨(id_eq_iff_of_not_decidesNetwork h hvpc hall).mp hid, hall⟩
        · exact ⟨hnetwork, hall⟩
      · rintro ⟨hnetwork, hall⟩
        exact .inr ⟨hnetwork, (id_eq_iff_of_not_decidesNetwork h hvpc hall).mpr hnetwork, hall⟩
  · exact vpcOf?_ofNodes_insert hvpc x

lemma property?_placedIn_name (r : Resource) (name : String) (id : Option String) :
    (r.placedIn name id).property? name = (id.map .ref).or (r.property? name) := by
  cases id with
  | none => rfl
  | some id => exact Resource.property?_placedIn_self id

/-- A subnet and a security group name the network in which they lie. -/
lemma property?_vpcId (hkind : x.kind = .subnet ∨ x.kind = .securityGroup) {s : Surroundings}
    {roleId : String} {r : Resource} (hr : x.resource? s roleId = some r) :
    r.property? "VpcId" = (s.vpcOf? x).map .ref := by
  rcases hkind with hkind | hkind <;> rw [Node.resource?, hkind, Option.some.injEq] at hr <;>
    subst hr <;> simp [subnetResource, securityGroupResource, Resource.property?_set,
      Resource.property?_set?, property?_placedIn_name]

/-- Whether the resource of a node is the same in two drawings depends on its network. -/
lemma resource?_eq_iff {s s' : Surroundings} {roleId roleId' : String}
    (hrole : x.needsRole = true → roleId = roleId') :
    x.resource? s roleId = x.resource? s' roleId' ↔
      (x.kind = .subnet ∨ x.kind = .securityGroup → s.vpcOf? x = s'.vpcOf? x) := by
  have hown : x.resource? s roleId = x.resource? s roleId' := by
    cases hneeds : x.needsRole with
    | true => rw [hrole hneeds]
    | false => exact resource?_eq_of_not_needsRole hneeds _ _
  rw [hown]
  constructor
  · intro hsame hkind
    have hsupported : x.kind ≠ .unsupported := by
      rcases hkind with hkind | hkind <;> simp [hkind]
    obtain ⟨r, hr⟩ := Node.exists_resource?_of_supported s roleId' hsupported
    have hvpc := (property?_vpcId hkind hr).symm.trans (property?_vpcId hkind (hsame ▸ hr))
    exact Option.map_injective (fun _ _ => PropertyValue.ref.inj) hvpc
  · intro hvpc
    by_cases hkind : x.kind = .subnet ∨ x.kind = .securityGroup
    · exact resource?_congr (hvpc hkind) _
    · obtain ⟨hsubnet, hgroup⟩ := not_or.mp hkind
      unfold Node.resource?
      cases hx : x.kind
      case subnet => exact absurd hx hsubnet
      case securityGroup => exact absurd hx hgroup
      all_goals rfl

/-- A network that is left shows in the subnet or the security group that names none. -/
lemma LeavesNetwork.exists_ne (h : LeavesNetwork (before ++ after) m)
    (hlast : ∀ id, Node.lastOf? (before ++ m :: after) id = Node.lastOf? (before ++ after) id)
    (edges : List Edge) (name : String) (description : Option String) :
    ∃ id, (generate (before ++ m :: after) edges name description).resources.get? id ≠
      (generate (before ++ after) edges name description).resources.get? id := by
  obtain ⟨hdecides, x, hx, hplaced, htext⟩ := h
  obtain ⟨k, -, -, hwith⟩ :=
    exists_get?_generate_lastOf? ((hlast x.id).trans hx) edges name description
  obtain ⟨k', -, -, hwithout⟩ := exists_get?_generate_lastOf? hx edges name description
  have hneeds : x.needsRole = true → roleCandidate x.id k = roleCandidate x.id k' := by
    intro hneeds
    have hlambda := (needsRole_eq_true_iff.mp hneeds).1
    rcases hplaced with hplaced | hplaced <;> simp [hplaced] at hlambda
  refine ⟨x.id, fun hsame => ?_⟩
  rw [hwith, hwithout, resource?_eq_iff hneeds] at hsame
  exact hdecides.vpcOf?_ne htext (hsame hplaced)

/-! ## The resources of both drawings -/

/-- Without a node for which no role was generated, and of which no network is left, there is the
same under every id. -/
lemma get?_generate_replaced_of_not_left
    (hlast : ∀ id, Node.lastOf? (before ++ m :: after) id = Node.lastOf? (before ++ after) id)
    (hids : ∀ id, id ∈ (before ++ m :: after).map Node.id ↔ id ∈ (before ++ after).map Node.id)
    (hneeds : m.needsRole = false) (hnetwork : ¬ LeavesNetwork (before ++ after) m)
    (edges : List Edge) (name : String) (description : Option String) (id : String) :
    (generate (before ++ m :: after) edges name description).resources.get? id =
      (generate (before ++ after) edges name description).resources.get? id := by
  have hroles : ∀ id, rolesFor (before ++ m :: after) id = rolesFor (before ++ after) id := by
    simp [rolesFor_insert, hneeds]
  cases hx : Node.lastOf? (before ++ after) id with
  | none =>
    apply Option.ext
    intro r
    have hgiven : ∀ origin k, GivenOut ((before ++ m :: after).map Node.id)
        (before ++ m :: after) origin k ↔
          GivenOut ((before ++ after).map Node.id) (before ++ after) origin k := fun origin k =>
      (givenOut_congr (hroles origin)).trans (givenOut_congr_drawn hids)
    rw [get?_generate_eq_some_iff ((hlast id).trans hx), get?_generate_eq_some_iff hx]
    simp only [hgiven]
  | some x =>
    obtain ⟨k, hfree, hcount, hwith⟩ :=
      exists_get?_generate_lastOf? ((hlast id).trans hx) edges name description
    obtain ⟨k', hfree', hcount', hwithout⟩ :=
      exists_get?_generate_lastOf? hx edges name description
    obtain ⟨⟨-, rfl⟩, -⟩ := Node.lastOf?_eq_some_iff.mp hx
    rw [hwith, hwithout, resource?_eq_iff]
    · intro hplaced
      by_cases hdecides : DecidesNetwork (before ++ after) m
      · obtain ⟨vpc, htext⟩ := Option.ne_none_iff_exists'.mp fun htext =>
          hnetwork ⟨hdecides, x, hx, hplaced, htext⟩
        rw [vpcOf?_of_text? htext, vpcOf?_of_text? htext]
      · exact vpcOf?_eq_of_not_decidesNetwork hdecides x
    · intro hneeds
      have hsame := (hcount hneeds).trans ((hroles x.id).trans (hcount' hneeds).symm)
      rw [count_free_congr hids, Nat.add_right_cancel_iff] at hsame
      rw [Nat.count_injective ((free_congr hids).mp hfree) hfree' hsame]

lemma get?_resources_replaced_iff (hn : n ∈ after) (hid : n.id = m.id)
    (hkind : n.kind ≠ .unsupported) (edges : List Edge) (name : String)
    (description : Option String) :
    (∀ id, (generate (before ++ m :: after) edges name description).resources.get? id =
      (generate (before ++ after) edges name description).resources.get? id) ↔
      m.needsRole = false ∧ ¬ LeavesNetwork (before ++ after) m := by
  have hlast : ∀ id, Node.lastOf? (before ++ m :: after) id = Node.lastOf? (before ++ after) id :=
    Node.lastOf?_replaced hn hid hkind
  have hids : ∀ id, id ∈ (before ++ m :: after).map Node.id ↔
      id ∈ (before ++ after).map Node.id := mem_ids_replaced hn hid
  constructor
  · intro hsame
    refine ⟨Bool.eq_false_iff.mpr fun hneeds => ?_, fun hnetwork => ?_⟩
    · obtain ⟨id, hleft⟩ := exists_role_left hids hneeds edges name description
      exact hleft (hsame id)
    · obtain ⟨id, hleft⟩ := hnetwork.exists_ne hlast edges name description
      exact hleft (hsame id)
  · rintro ⟨hneeds, hnetwork⟩
    exact get?_generate_replaced_of_not_left hlast hids hneeds hnetwork edges name description

/-! ## The output that is left -/

/-- The output of a node has a name that the outputs of later nodes do not have, and an earlier one
with that name would be another output. -/
def LeavesOutput (before after : List Node) (m : Node) : Prop :=
  ∃ name o, m.output? = some (name, o) ∧ Node.lastOutput? after name = none ∧
    Node.lastOutput? before name ≠ some o

/-- Without a node there is the same under the name of every output, unless it leaves its own. -/
lemma get?_outputs_without_iff (before after : List Node) (m : Node) (edges : List Edge)
    (name : String) (description : Option String) :
    (∀ output, (generate (before ++ m :: after) edges name description).outputs.get? output =
      (generate (before ++ after) edges name description).outputs.get? output) ↔
      ¬ LeavesOutput before after m := by
  simp only [get?_outputs_generate, Node.lastOutput?_append, Node.lastOutput?_cons m after]
  constructor
  · rintro hsame ⟨output, o, hown, hlater, hearlier⟩
    have hshown := hsame output
    rw [hlater, Node.lastOutput?_singleton_eq_some_iff.mpr hown] at hshown
    exact hearlier hshown.symm
  · intro hleft output
    cases hlater : Node.lastOutput? after output with
    | some o => rfl
    | none =>
      cases hown : Node.lastOutput? [m] output with
      | none => rfl
      | some o =>
        by_contra hearlier
        exact hleft ⟨output, o, Node.lastOutput?_singleton_eq_some_iff.mp hown, hlater,
          fun hsame => hearlier (by rw [hsame]; rfl)⟩

/-! ## Without the node -/

/-- What a drawing without a replaced node has in common with the drawing.  Their templates hold the
same resource under every id exactly if no role was generated for the node and no network is left of
it, and the same output under every name exactly if its output is not left. -/
theorem get?_generate_replaced_iff (before after : List Node) (m n : Node) (hn : n ∈ after)
    (hid : n.id = m.id) (hkind : n.kind ≠ .unsupported) (edges : List Edge) (name : String)
    (description : Option String) :
    ((∀ id, (generate (before ++ m :: after) edges name description).resources.get? id =
        (generate (before ++ after) edges name description).resources.get? id) ↔
      m.needsRole = false ∧ ¬ LeavesNetwork (before ++ after) m) ∧
    ((∀ output, (generate (before ++ m :: after) edges name description).outputs.get? output =
        (generate (before ++ after) edges name description).outputs.get? output) ↔
      ¬ LeavesOutput before after m) :=
  ⟨get?_resources_replaced_iff hn hid hkind edges name description,
    get?_outputs_without_iff before after m edges name description⟩

/-- A network and a function whose ids are used again, and a subnet. -/
def reusedIds : List Node := [
  ⟨"Net", .vpc, .empty⟩,
  ⟨"Job", .lambda, .empty⟩,
  ⟨"Net", .s3, .empty⟩,
  ⟨"Job", .sqs, .empty⟩,
  ⟨"Zone", .subnet, .empty⟩]

/-- The network is replaced by a bucket.  The subnet lies in it all the same, and its output
stays. -/
theorem get?_generate_replaced_iff_reusedIds :
    reusedIds = ⟨"Net", .vpc, .empty⟩ :: reusedIds.drop 1 ∧
      ⟨"Net", .s3, .empty⟩ ∈ reusedIds.drop 1 ∧ NodeKind.s3 ≠ .unsupported ∧
      (¬ ∀ id, (generate reusedIds [] "" none).resources.get? id =
        (generate (reusedIds.drop 1) [] "" none).resources.get? id) ∧
      ¬ ∀ output, (generate reusedIds [] "" none).outputs.get? output =
        (generate (reusedIds.drop 1) [] "" none).outputs.get? output := by
  have hmem : ⟨"Net", .s3, .empty⟩ ∈ reusedIds.drop 1 := by decide
  have hnetwork : LeavesNetwork ([] ++ reusedIds.drop 1) ⟨"Net", .vpc, .empty⟩ :=
    ⟨⟨rfl, by decide, by decide⟩, ⟨"Zone", .subnet, .empty⟩, by decide, .inl rfl, rfl⟩
  have houtput : LeavesOutput [] (reusedIds.drop 1) ⟨"Net", .vpc, .empty⟩ :=
    ⟨"NetId", _, rfl, by decide, nofun⟩
  obtain ⟨hresources, houtputs⟩ := get?_generate_replaced_iff [] (reusedIds.drop 1)
    ⟨"Net", .vpc, .empty⟩ ⟨"Net", .s3, .empty⟩ hmem rfl nofun [] "" none
  exact ⟨rfl, hmem, nofun, fun h => (hresources.mp h).2 hnetwork, fun h => houtputs.mp h houtput⟩

/-- What is left of the network are its output and the place of the subnet, and of the function its
output and its role. -/
theorem generate_reusedIds_ne :
    reusedIds.map Node.id = ["Net", "Job", "Net", "Job", "Zone"] ∧
      (∀ n ∈ reusedIds, n.kind ≠ .unsupported) ∧
      (generate reusedIds [] "" none).outputs.get? "NetId" ≠
        (generate (reusedIds.eraseIdx 0) [] "" none).outputs.get? "NetId" ∧
      (generate reusedIds [] "" none).resources.get? "Zone" ≠
        (generate (reusedIds.eraseIdx 0) [] "" none).resources.get? "Zone" ∧
      (generate reusedIds [] "" none).outputs.get? "JobArn" ≠
        (generate (reusedIds.eraseIdx 1) [] "" none).outputs.get? "JobArn" ∧
      (generate reusedIds [] "" none).resources.get? "JobRole" ≠
        (generate (reusedIds.eraseIdx 1) [] "" none).resources.get? "JobRole" := by
  decide +kernel

end CloudTemplate
