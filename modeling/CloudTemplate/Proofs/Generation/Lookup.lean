import CloudTemplate.Proofs.Generation.Drawn
import CloudTemplate.Proofs.Generation.Latest
import CloudTemplate.Proofs.Generation.RoleIds

/-!
# What is found under a name

A template is made by putting resources and outputs under names, and what is put later replaces what
was put before.  So under the id of a node stands the resource of the last node that has it
(`Node.lastOf?`), and if that one is a function without a role, it runs under the last role that was
generated for the id (`exists_get?_generate_lastOf?`).  Under other ids stand generated roles alone
(`get?_generate_eq_some_iff`).  Under the name of an output stands the last output that has it
(`get?_outputs_generate`).

Nothing is asked of the ids here.  Where they are distinct, `Generation/Entries` tells the template
in its order.
-/

namespace CloudTemplate

variable {nodes : List Node} {n x : Node} {id name : String}

/-! ## The last node of an id -/

/-- The last node of a supported kind with an id. -/
def Node.lastOf? (nodes : List Node) (id : String) : Option Node :=
  nodes.reverse.find? fun x => x.kind ≠ .unsupported && x.id == id

namespace Node

lemma lastOf?_eq_none_iff :
    lastOf? nodes id = none ↔ ∀ x ∈ nodes, x.kind ≠ .unsupported → x.id ≠ id := by
  simp [lastOf?]

lemma lastOf?_eq_some_iff : lastOf? nodes id = some x ↔
    (x.kind ≠ .unsupported ∧ x.id = id) ∧ ∃ front back, nodes = front ++ x :: back ∧
      ∀ y ∈ back, y.kind ≠ .unsupported → y.id ≠ id := by
  rw [lastOf?, List.find?_eq_some_iff_append]
  simp only [Bool.and_eq_true, decide_eq_true_eq, beq_iff_eq, Bool.not_eq_true',
    Bool.and_eq_false_imp, beq_eq_false_iff_ne]
  refine and_congr_right fun _ => ⟨?_, ?_⟩
  · rintro ⟨back, front, hsplit, hback⟩
    refine ⟨front.reverse, back.reverse, ?_, fun y hy => hback y (List.mem_reverse.mp hy)⟩
    rw [← List.reverse_reverse nodes, hsplit]
    simp
  · rintro ⟨front, back, rfl, hback⟩
    exact ⟨back.reverse, front.reverse, by simp, fun y hy => hback y (List.mem_reverse.mp hy)⟩

end Node

/-! ## Under an id -/

/-- Nodes of unsupported kinds need no role. -/
lemma rolesFor_eq_zero (h : ∀ x ∈ nodes, x.kind ≠ .unsupported → x.id ≠ id) :
    rolesFor nodes id = 0 := by
  refine List.countP_eq_zero.mpr fun x hx hrole => ?_
  rw [Bool.and_eq_true, beq_iff_eq, needsRole_eq_true_iff] at hrole
  exact h x hx (by simp [hrole.1.1]) hrole.2

/-- Under an id stands the resource of the last node that has it.  If it needs a role, this is the
last one generated for the id: all others were given out before. -/
lemma exists_get?_generate_lastOf? (hlast : Node.lastOf? nodes id = some x) (edges : List Edge)
    (name : String) (description : Option String) :
    ∃ k, Free (nodes.map Node.id) id k ∧
      (x.needsRole = true → Nat.count (Free (nodes.map Node.id) id) k + 1 = rolesFor nodes id) ∧
      (generate nodes edges name description).resources.get? id =
        x.resource? (.ofNodes nodes) (roleCandidate id k) := by
  obtain ⟨⟨hkind, rfl⟩, front, back, hsplit, hback⟩ := Node.lastOf?_eq_some_iff.mp hlast
  have hids : ∀ y ∈ nodes, y.id ∈ (Surroundings.ofNodes nodes).ids :=
    fun y hy => List.mem_map_of_mem hy
  have hfront : ∀ y ∈ front, y.id ∈ (Surroundings.ofNodes nodes).ids :=
    fun y hy => hids y (by simp [hsplit, hy])
  have hnamed := (named_withDescription (.ofNodes nodes)
    (description.getD (defaultDescription name))).foldl hfront
  rw [List.nil_append] at hnamed
  obtain ⟨k, hrole, hfree, hcount⟩ := roleCandidate_next fun j hj =>
    hnamed.mem_used_iff hfront x.id hj
  refine ⟨k, hfree, fun hneeds => ?_, ?_⟩
  · have hroles : rolesFor nodes x.id = rolesFor (front ++ [x]) x.id + rolesFor back x.id := by
      rw [hsplit, List.append_cons]
      exact List.countP_append
    rw [hroles, rolesFor_concat, if_pos ⟨hneeds, rfl⟩, rolesFor_eq_zero hback]
    exact congrArg (· + 1) hcount
  · obtain ⟨r, hr⟩ := Node.exists_resource?_of_supported (.ofNodes nodes)
      (roleCandidate x.id k) hkind
    have hfold : generate nodes edges name description = back.foldl (addNode (.ofNodes nodes))
        (addNode (.ofNodes nodes) (front.foldl (addNode (.ofNodes nodes))
          (.withDescription (description.getD (defaultDescription name)))) x) :=
      (congrArg (List.foldl _ _) hsplit).trans (by rw [List.foldl_append, List.foldl_cons])
    rw [hfold, get?_foldl_addNode_of_ne (hids x (by simp [hsplit])) hback, hr]
    rw [← hrole] at hr
    exact get?_addNode_self hr

/-- Under an id that no node of a supported kind has stands a generated role, or nothing. -/
lemma get?_generate_eq_some_iff (hnone : Node.lastOf? nodes id = none) (edges : List Edge)
    (name : String) (description : Option String) {r : Resource} :
    (generate nodes edges name description).resources.get? id = some r ↔
      r = executionRole ∧ ∃ origin k, GivenOut (nodes.map Node.id) nodes origin k ∧
        id = roleCandidate origin k := by
  have hnodes := Node.lastOf?_eq_none_iff.mp hnone
  have hkeys : id ∈ (generate nodes edges name description).resources.keys ↔
      ∃ origin k, GivenOut (nodes.map Node.id) nodes origin k ∧ id = roleCandidate origin k := by
    rw [named_generate nodes edges name description id, or_iff_right]
    · rfl
    · rintro ⟨x, hx, hkind, rfl⟩
      exact hnodes x hx hkind rfl
  have hrole : ∀ r, (id, r) ∈ (generate nodes edges name description).resources.entries →
      r = executionRole := by
    intro r hmem
    rcases (emitted_template ⟨name, description, nodes, edges⟩).origin id r hmem with
      ⟨x, hx, hid, roleId, hr, -⟩ | ⟨hr, -, -⟩
    · have hkind : x.kind ≠ .unsupported := by
        intro hkind
        rw [Node.resource?_of_unsupported hkind] at hr
        exact absurd hr nofun
      exact absurd hid (hnodes x hx hkind)
    · exact hr
  rw [← hkeys, Table.get?_eq_some_iff]
  constructor
  · exact fun hmem => ⟨hrole r hmem, Entries.mem_keys_of_mem hmem⟩
  · rintro ⟨rfl, hid⟩
    obtain ⟨r, hmem⟩ := Entries.exists_mem_of_mem_keys hid
    rwa [hrole r hmem] at hmem

/-! ## Under the name of an output -/

/-- The last output of some nodes with a name. -/
def Node.lastOutput? (nodes : List Node) (name : String) : Option Output :=
  Entries.find? (nodes.filterMap Node.output?).reverse name

lemma Node.lastOutput?_append (nodes more : List Node) (name : String) :
    lastOutput? (nodes ++ more) name = (lastOutput? more name).or (lastOutput? nodes name) := by
  rw [lastOutput?, List.filterMap_append, List.reverse_append, Entries.find?_append]
  rfl

lemma Node.lastOutput?_cons (n : Node) (nodes : List Node) (name : String) :
    lastOutput? (n :: nodes) name = (lastOutput? nodes name).or (lastOutput? [n] name) :=
  lastOutput?_append [n] nodes name

lemma Node.lastOutput?_singleton_eq_some_iff {o : Output} :
    lastOutput? [n] name = some o ↔ n.output? = some (name, o) := by
  rw [lastOutput?, List.filterMap_cons]
  cases n.output? with
  | none => simp [Entries.find?]
  | some named =>
    obtain ⟨other, o'⟩ := named
    simp [Entries.find?]

lemma get?_outputs_addNode (s : Surroundings) (t : Template) (n : Node) (name : String) :
    (addNode s t n).outputs.get? name =
      (Node.lastOutput? [n] name).or (t.outputs.get? name) := by
  rw [addNode_eq, Node.lastOutput?, List.filterMap_cons]
  show (withOutput t n).get? name = _
  unfold withOutput
  cases n.output? with
  | none => rfl
  | some named =>
    obtain ⟨other, o⟩ := named
    by_cases hname : other = name
    · subst hname
      simp [Table.get?_insert_self, Entries.find?]
    · simp [Table.get?_insert_of_ne _ _ (Ne.symm hname), Entries.find?, hname]

lemma get?_outputs_foldl_addNode (s : Surroundings) (nodes : List Node) (t : Template)
    (name : String) : (nodes.foldl (addNode s) t).outputs.get? name =
      (Node.lastOutput? nodes name).or (t.outputs.get? name) := by
  induction nodes generalizing t with
  | nil => rfl
  | cons n more ih =>
    rw [List.foldl_cons, ih, get?_outputs_addNode, Node.lastOutput?_cons n more, Option.or_assoc]

/-- Under the name of an output stands the last output with that name. -/
lemma get?_outputs_generate (nodes : List Node) (edges : List Edge) (name : String)
    (description : Option String) (output : String) :
    (generate nodes edges name description).outputs.get? output =
      Node.lastOutput? nodes output :=
  (get?_outputs_foldl_addNode _ nodes _ output).trans Option.or_none

end CloudTemplate
