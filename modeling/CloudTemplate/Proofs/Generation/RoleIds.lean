import CloudTemplate.Proofs.Generation.Content
import CloudTemplate.Proofs.Validation.Report
import Mathlib.Data.Nat.Count
import Mathlib.Data.Finset.Card

/-!
# The ids of generated roles

The nodes of a drawing need not have distinct ids.  The functions of one id that name no role then
share the candidates for theirs, and together they are given the first ones that no node has, one
each (`Named`).  As the candidates of different ids are different, this tells all ids of a template.

The search looks for collisions only.  It puts `Role` and a number behind an id however long the id
is, and so the generator invents ids that are spelled as they should be, and that may be longer than
validation admits (`misnamed_findings_generate`).
-/

namespace CloudTemplate

/-! ## Lengths -/

lemma isLetter_or_isDigit_of_mem {cs : List Char} (h : isLogicalIdShape cs = true) :
    ∀ c ∈ cs, isLetter c = true ∨ isDigit c = true := by
  cases cs with
  | nil => exact fun c hc => absurd hc List.not_mem_nil
  | cons first more =>
    simp only [isLogicalIdShape, Bool.and_eq_true, List.all_eq_true, Bool.or_eq_true] at h
    exact List.forall_mem_cons.mpr ⟨.inl h.1, h.2⟩

/-- Letters and digits are single bytes. -/
lemma utf8ByteSize_eq_length {id : String} (h : isLogicalId id = true) :
    id.utf8ByteSize = id.length := by
  refine utf8ByteSize_eq_length_of_ascii fun c hc => ?_
  have hrange := isLetter_or_isDigit_of_mem h c hc
  rw [isLetter_iff_toNat, isDigit_iff_toNat] at hrange
  omega

lemma length_add_four_le (id : String) (k : Nat) :
    id.length + 4 ≤ (roleCandidate id k).length := by
  have hrole : "Role".length = 4 := rfl
  unfold roleCandidate
  split <;> simp only [String.length_append, hrole] <;> omega

/-- The candidates get no shorter. -/
lemma length_roleCandidate_le (id : String) {k m : Nat} (h : k ≤ m) :
    (roleCandidate id k).length ≤ (roleCandidate id m).length := by
  have hdigits : (toString k).length ≤ (toString m).length := by
    rw [Nat.toString_eq_repr, Nat.toString_eq_repr, ← String.length_toList,
      ← String.length_toList, Nat.toList_repr, Nat.toList_repr]
    have hpos : 0 < (Nat.toDigits 10 m).length := List.length_pos_of_ne_nil Nat.toDigits_ne_nil
    have hm := (Nat.length_toDigits_le_iff (by decide : 1 < 10) hpos).mp le_rfl
    exact (Nat.length_toDigits_le_iff (by decide) hpos).mpr (h.trans_lt hm)
  unfold roleCandidate
  split <;> split <;> simp only [String.length_append] <;> omega

/-! ## Which candidates are given out -/

/-- A candidate for the role of an id that is not the id of a node. -/
def Free (drawn : List String) (id : String) (k : Nat) : Prop :=
  1 ≤ k ∧ roleCandidate id k ∉ drawn

instance (drawn : List String) (id : String) : DecidablePred (Free drawn id) :=
  fun _ => instDecidableAnd

/-- The number of roles that are generated for an id. -/
def rolesFor (nodes : List Node) (id : String) : Nat :=
  nodes.countP fun n => n.needsRole && n.id == id

/-- A candidate is given out: it is free, and fewer candidates before it are free than there are
roles to be named. -/
structure GivenOut (drawn : List String) (nodes : List Node) (id : String) (k : Nat) : Prop where
  free : Free drawn id k
  early : Nat.count (Free drawn id) k < rolesFor nodes id

variable {drawn : List String} {nodes : List Node} {n : Node} {id : String} {k m : Nat}

lemma rolesFor_concat (nodes : List Node) (n : Node) (id : String) :
    rolesFor (nodes ++ [n]) id =
      rolesFor nodes id + if n.needsRole = true ∧ n.id = id then 1 else 0 := by
  simp [rolesFor, List.countP_append, List.countP_singleton]

/-- Which candidates are free depends on which ids are drawn, and on no more. -/
lemma free_congr {others : List String} (h : ∀ id, id ∈ drawn ↔ id ∈ others) :
    Free drawn id k ↔ Free others id k :=
  and_congr_right' (not_congr (h _))

lemma count_free_congr {others : List String} (h : ∀ id, id ∈ drawn ↔ id ∈ others) :
    Nat.count (Free drawn id) k = Nat.count (Free others id) k := by
  rw [Nat.count_eq_card_filter_range, Nat.count_eq_card_filter_range]
  exact congrArg Finset.card (Finset.filter_congr fun _ _ => free_congr h)

lemma exists_count_eq {p : Nat → Prop} [DecidablePred p] {c : Nat} (h : c < Nat.count p m) :
    ∃ k < m, p k ∧ Nat.count p k = c := by
  induction m with
  | zero => exact absurd h (by simp)
  | succ m ih =>
    -- The number is reached before the last place, or the last place is the one that reaches it.
    rcases Nat.lt_or_ge c (Nat.count p m) with hlt | hge
    · obtain ⟨k, hk, hp, hcount⟩ := ih hlt
      exact ⟨k, hk.trans (Nat.lt_succ_self m), hp, hcount⟩
    · rw [Nat.count_succ] at h
      split at h
      · next hp => exact ⟨m, Nat.lt_succ_self m, hp, by omega⟩
      · omega

/-- The next role is given the first free candidate that was not given out. -/
lemma roleCandidate_next {used : List String} (hused : ∀ j, 1 ≤ j →
      (roleCandidate id j ∈ used ↔ roleCandidate id j ∈ drawn ∨ GivenOut drawn nodes id j)) :
    ∃ m, freeRoleId used id = roleCandidate id m ∧ Free drawn id m ∧
      Nat.count (Free drawn id) m = rolesFor nodes id := by
  obtain ⟨m, hm, heq, hfree, hbefore⟩ := firstFreeRole_spec used id (Nat.le_refl 1)
  rw [hused m hm, not_or] at hfree
  have hfirst : Free drawn id m := ⟨hm, hfree.1⟩
  have hle : rolesFor nodes id ≤ Nat.count (Free drawn id) m := by
    by_contra hlt
    exact hfree.2 ⟨hfirst, Nat.lt_of_not_le hlt⟩
  refine ⟨m, heq, hfirst, Nat.le_antisymm ?_ hle⟩
  -- With more free candidates before it, the search would have ended at one that is not given out.
  by_contra hlt
  obtain ⟨k, hk, hkfree, hcount⟩ := exists_count_eq (Nat.lt_of_not_le hlt)
  rcases (hused k hkfree.1).mp (hbefore k hkfree.1 hk) with hdrawn | hgiven
  · exact hkfree.2 hdrawn
  · exact absurd hgiven.early (by omega)

lemma givenOut_congr {others : List Node} (h : rolesFor nodes id = rolesFor others id) :
    GivenOut drawn nodes id k ↔ GivenOut drawn others id k :=
  ⟨fun ⟨hfree, hearly⟩ => ⟨hfree, h ▸ hearly⟩, fun ⟨hfree, hearly⟩ => ⟨hfree, h ▸ hearly⟩⟩

lemma givenOut_congr_drawn {others : List String} (h : ∀ id, id ∈ drawn ↔ id ∈ others) :
    GivenOut drawn nodes id k ↔ GivenOut others nodes id k :=
  ⟨fun ⟨hfree, hearly⟩ => ⟨(free_congr h).mp hfree, count_free_congr h ▸ hearly⟩,
    fun ⟨hfree, hearly⟩ => ⟨(free_congr h).mpr hfree, (count_free_congr h).symm ▸ hearly⟩⟩

/-- The candidates given out for one role more. -/
lemma givenOut_concat_iff (hneeds : n.needsRole = true) (hm : Free drawn n.id m)
    (hcount : Nat.count (Free drawn n.id) m = rolesFor nodes n.id) :
    GivenOut drawn (nodes ++ [n]) id k ↔ GivenOut drawn nodes id k ∨ id = n.id ∧ k = m := by
  by_cases hid : id = n.id
  · subst hid
    have hroles : rolesFor (nodes ++ [n]) n.id = rolesFor nodes n.id + 1 := by
      rw [rolesFor_concat, if_pos ⟨hneeds, rfl⟩]
    constructor
    · rintro ⟨hfree, hearly⟩
      rw [hroles, Nat.lt_succ_iff] at hearly
      rcases Nat.lt_or_eq_of_le hearly with hlt | heq
      · exact .inl ⟨hfree, hlt⟩
      · exact .inr ⟨rfl, Nat.count_injective hfree hm (heq.trans hcount.symm)⟩
    · rintro (⟨hfree, hearly⟩ | ⟨-, rfl⟩)
      · exact ⟨hfree, by omega⟩
      · exact ⟨hm, by omega⟩
  · have hroles : rolesFor (nodes ++ [n]) id = rolesFor nodes id := by
      rw [rolesFor_concat, if_neg (fun h => hid h.2.symm), Nat.add_zero]
    rw [givenOut_congr hroles, or_iff_left fun h => hid h.1]

lemma givenOut_concat_iff_of_not (hneeds : n.needsRole = false) :
    GivenOut drawn (nodes ++ [n]) id k ↔ GivenOut drawn nodes id k := by
  apply givenOut_congr
  rw [rolesFor_concat, if_neg (by simp [hneeds]), Nat.add_zero]

lemma roleCandidate_ne_self (id : String) (k : Nat) : roleCandidate id k ≠ id := by
  intro hsame
  have hlonger := length_add_four_le id k
  rw [hsame] at hlonger
  omega

lemma GivenOut.exists_node (h : GivenOut drawn nodes id k) :
    ∃ n ∈ nodes, n.needsRole = true ∧ n.id = id := by
  obtain ⟨n, hn, hmatch⟩ := List.countP_pos_iff.mp (Nat.zero_lt_of_lt h.early)
  rw [Bool.and_eq_true, beq_iff_eq] at hmatch
  exact ⟨n, hn, hmatch⟩

/-- A node that needs a role is given one. -/
lemma exists_givenOut (drawn : List String) (hn : n ∈ nodes) (hneeds : n.needsRole = true) :
    ∃ k, GivenOut drawn nodes n.id k := by
  obtain ⟨k, hk, -, hfree, hbefore⟩ := firstFreeRole_spec drawn n.id (Nat.le_refl 1)
  have hcount : Nat.count (Free drawn n.id) k = 0 :=
    Nat.count_iff_forall_not.mpr fun j hj hjfree => hjfree.2 (hbefore j hjfree.1 hj)
  have hroles : 0 < rolesFor nodes n.id := List.countP_pos_iff.mpr ⟨n, hn, by simp [hneeds]⟩
  exact ⟨k, ⟨hk, hfree⟩, hcount ▸ hroles⟩

/-- What stands in the way of a role is the id of another node. -/
lemma card_drawn_le (nodes : List Node) (id : String) (k : Nat) :
    {j ∈ Finset.Ico 1 k | ¬ roleCandidate id j ∉ nodes.map Node.id}.card ≤
      nodes.countP fun n => ¬ (n.id == id) = true := by
  have hothers : {j ∈ Finset.Ico 1 k | ¬ roleCandidate id j ∉ nodes.map Node.id} ⊆
      {j ∈ Finset.Ico 1 k | roleCandidate id j ∈
        ((nodes.filter fun n => ¬ (n.id == id) = true).map Node.id).toFinset} := by
    refine Finset.monotone_filter_right _ fun j _ htaken => ?_
    obtain ⟨n, hn, hid⟩ := List.mem_map.mp (not_not.mp htaken)
    have hother : n.id ≠ id := hid ▸ roleCandidate_ne_self id j
    have hmem : n ∈ nodes.filter fun n => ¬ (n.id == id) = true :=
      List.mem_filter.mpr ⟨hn, by simpa using hother⟩
    exact List.mem_toFinset.mpr (hid ▸ List.mem_map_of_mem hmem)
  rw [List.countP_eq_length_filter, ← List.length_map Node.id]
  exact (Finset.card_le_card hothers).trans
    ((card_candidates_le id _ k).trans (List.toFinset_card_le _))

lemma card_free_eq_count (drawn : List String) (id : String) (k : Nat) :
    {j ∈ Finset.Ico 1 k | roleCandidate id j ∉ drawn}.card = Nat.count (Free drawn id) k := by
  rw [Nat.count_eq_card_filter_range]
  congr 1
  ext j
  rw [Finset.mem_filter, Finset.mem_filter, Finset.mem_Ico, Finset.mem_range, Free]
  tauto

/-- No candidate is given out whose number is greater than that of the nodes. -/
lemma GivenOut.le_length (h : GivenOut (nodes.map Node.id) nodes id k) : k ≤ nodes.length := by
  -- The candidates before it are free, and fewer than its nodes, or the ids of other nodes.
  have hcandidates := Finset.card_filter_add_card_filter_not
    (s := Finset.Ico 1 k) (fun j => roleCandidate id j ∉ nodes.map Node.id)
  rw [Nat.card_Ico, card_free_eq_count] at hcandidates
  have hdrawn := card_drawn_le nodes id k
  have hnodes := List.length_eq_countP_add_countP (fun n : Node => n.id == id) (l := nodes)
  have hroles : rolesFor nodes id ≤ nodes.countP fun n => n.id == id := by
    refine List.countP_mono_left fun n _ hn => ?_
    exact (Bool.and_eq_true_iff.mp hn).2
  have hearly := h.early
  omega

/-! ## The ids of a template -/

/-- The ids of a template that was made of some nodes. -/
def Named (s : Surroundings) (nodes : List Node) (t : Template) : Prop :=
  ∀ id, id ∈ t.resources.keys ↔ (∃ n ∈ nodes, n.kind ≠ .unsupported ∧ id = n.id) ∨
    ∃ origin k, GivenOut s.ids nodes origin k ∧ id = roleCandidate origin k

namespace Named

variable {s : Surroundings} {t : Template}

/-- The names in use, as far as the search looks at them. -/
lemma mem_used_iff (h : Named s nodes t) (hids : ∀ n ∈ nodes, n.id ∈ s.ids) (id : String)
    {j : Nat} (hj : 1 ≤ j) : roleCandidate id j ∈ s.ids ++ t.resources.keys ↔
      roleCandidate id j ∈ s.ids ∨ GivenOut s.ids nodes id j := by
  rw [List.mem_append, h]
  constructor
  · rintro (hdrawn | ⟨n, hn, -, hown⟩ | ⟨origin, k, hgiven, hsame⟩)
    · exact .inl hdrawn
    · exact .inl (hown ▸ hids n hn)
    · obtain rfl := eq_of_roleCandidate_eq hsame
      obtain rfl := roleCandidate_injOn id hj hgiven.free.1 hsame
      exact .inr hgiven
  · rintro (hdrawn | hgiven)
    · exact .inl hdrawn
    · exact .inr (.inr ⟨id, j, hgiven, rfl⟩)

lemma addNode (h : Named s nodes t) (hids : ∀ n ∈ nodes, n.id ∈ s.ids) (n : Node) :
    Named s (nodes ++ [n]) (addNode s t n) := by
  intro id
  have hown : (∃ m ∈ nodes ++ [n], m.kind ≠ .unsupported ∧ id = m.id) ↔
      (∃ m ∈ nodes, m.kind ≠ .unsupported ∧ id = m.id) ∨ n.kind ≠ .unsupported ∧ id = n.id := by
    simp [or_and_right, exists_or]
  have hrole : (∃ origin k, GivenOut s.ids (nodes ++ [n]) origin k ∧ id = roleCandidate origin k) ↔
      (∃ origin k, GivenOut s.ids nodes origin k ∧ id = roleCandidate origin k) ∨
        n.needsRole = true ∧ id = roleIdFor s t n := by
    cases hneeds : n.needsRole with
    | false => simp [givenOut_concat_iff_of_not hneeds]
    | true =>
      obtain ⟨m, hnew, hm, hcount⟩ := roleCandidate_next fun j hj =>
        h.mem_used_iff hids n.id hj
      simp [givenOut_concat_iff hneeds hm hcount, roleIdFor, hnew, or_and_right, exists_or]
  rw [mem_keys_addNode_iff, h id, hown, hrole]
  -- The role is put into the template before the resource of the node.
  exact (or_congr_right or_comm).trans or_or_or_comm

lemma foldl (h : Named s nodes t) {more : List Node} (hids : ∀ n ∈ nodes ++ more, n.id ∈ s.ids) :
    Named s (nodes ++ more) (more.foldl (CloudTemplate.addNode s) t) := by
  induction more generalizing nodes t with
  | nil => rwa [List.append_nil]
  | cons n more ih =>
    have hstep := h.addNode (fun m hm => hids m (List.mem_append_left _ hm)) n
    rw [List.append_cons] at hids ⊢
    exact ih hstep hids

end Named

lemma named_withDescription (s : Surroundings) (description : String) :
    Named s [] (.withDescription description) := by
  intro id
  constructor
  · exact fun h => absurd h List.not_mem_nil
  · rintro (⟨n, hn, -⟩ | ⟨origin, k, hgiven, -⟩)
    · exact absurd hn List.not_mem_nil
    · exact absurd hgiven.early (Nat.not_lt_zero _)

/-- The ids of a template are those of nodes of supported kinds, and for each id of functions the
first candidates that are free. -/
lemma named_generate (nodes : List Node) (edges : List Edge) (name : String)
    (description : Option String) :
    Named (.ofNodes nodes) nodes (generate nodes edges name description) :=
  (named_withDescription _ _).foldl fun _ hn => List.mem_map_of_mem hn

/-! ## Ids that are refused -/

lemma invalidLogicalId_mem_iff {t : Template} : .invalidLogicalId id ∈ t.structureFindings ↔
    id ∈ t.resources.keys ∧ isLogicalId id = false := by
  simp [mem_structureFindings_iff]

lemma longLogicalId_mem_iff {t : Template} : .longLogicalId id ∈ t.structureFindings ↔
    id ∈ t.resources.keys ∧ logicalIdLimit < id.utf8ByteSize := by
  simp [mem_structureFindings_iff]

/-- The ids of the template of nodes with logical ids are logical. -/
lemma isLogicalId_of_mem_keys_generate (hlogical : ∀ n ∈ nodes, isLogicalId n.id = true)
    {edges : List Edge} {name : String} {description : Option String}
    (hid : id ∈ (generate nodes edges name description).resources.keys) :
    isLogicalId id = true := by
  rcases (named_generate nodes edges name description id).mp hid with
    ⟨n, hn, -, rfl⟩ | ⟨origin, k, hgiven, rfl⟩
  · exact hlogical n hn
  · obtain ⟨n, hn, -, rfl⟩ := hgiven.exists_node
    exact isLogicalId_roleCandidate (hlogical n hn) k

/-- The ids of the template that are too long are those of generated roles. -/
lemma long_mem_keys_generate_iff (hlogical : ∀ n ∈ nodes, isLogicalId n.id = true)
    (hshort : ∀ n ∈ nodes, n.id.length ≤ logicalIdLimit) (edges : List Edge) (name : String)
    (description : Option String) :
    id ∈ (generate nodes edges name description).resources.keys ∧
        logicalIdLimit < id.utf8ByteSize ↔
      ∃ n ∈ nodes, ∃ k, GivenOut (nodes.map Node.id) nodes n.id k ∧
        logicalIdLimit < (roleCandidate n.id k).length ∧ id = roleCandidate n.id k := by
  constructor
  · rintro ⟨hid, hlong⟩
    rw [utf8ByteSize_eq_length (isLogicalId_of_mem_keys_generate hlogical hid)] at hlong
    rcases (named_generate nodes edges name description id).mp hid with
      ⟨n, hn, -, rfl⟩ | ⟨origin, k, hgiven, rfl⟩
    · exact absurd (hshort n hn) (Nat.not_le.mpr hlong)
    · obtain ⟨n, hn, -, rfl⟩ := hgiven.exists_node
      exact ⟨n, hn, k, hgiven, hlong, rfl⟩
  · rintro ⟨n, hn, k, hgiven, hlong, rfl⟩
    refine ⟨(named_generate nodes edges name description _).mpr
      (.inr ⟨n.id, k, hgiven, rfl⟩), ?_⟩
    rwa [utf8ByteSize_eq_length (isLogicalId_roleCandidate (hlogical n hn) k)]

/-- The structure of a template of nodes whose ids are logical and not too long.  No id is
misspelled.  The ids that are too long are those of generated roles, and which these are is known:
the first free candidates for each id of functions.  There are some if `Role` alone makes the id of
such a function too long, and none if there is room for the number of nodes behind it. -/
theorem misnamed_findings_generate (nodes : List Node)
    (hlogical : ∀ n ∈ nodes, isLogicalId n.id = true)
    (hshort : ∀ n ∈ nodes, n.id.length ≤ logicalIdLimit) (edges : List Edge) (name : String)
    (description : Option String) (p : Policy) :
    (∀ id, .invalidLogicalId id ∉
      Pass.structural.findings p (generate nodes edges name description)) ∧
    (∀ id, .longLogicalId id ∈
        Pass.structural.findings p (generate nodes edges name description) ↔
      ∃ n ∈ nodes, ∃ k, GivenOut (nodes.map Node.id) nodes n.id k ∧
        logicalIdLimit < (roleCandidate n.id k).length ∧ id = roleCandidate n.id k) ∧
    (∀ n ∈ nodes, n.needsRole = true → logicalIdLimit < n.id.length + 4 → ∃ id,
      .longLogicalId id ∈ Pass.structural.findings p (generate nodes edges name description)) ∧
    ((∀ n ∈ nodes, n.needsRole = true →
        (roleCandidate n.id nodes.length).length ≤ logicalIdLimit) → ∀ id,
      .longLogicalId id ∉ Pass.structural.findings p (generate nodes edges name description)) := by
  have hexact : ∀ id, .longLogicalId id ∈ Pass.structural.findings p _ ↔ _ := fun _ =>
    longLogicalId_mem_iff.trans (long_mem_keys_generate_iff hlogical hshort edges name description)
  refine ⟨?spelling, hexact, ?some, ?none⟩
  case spelling =>
    intro id hfinding
    obtain ⟨hid, hinvalid⟩ := invalidLogicalId_mem_iff.mp hfinding
    rw [isLogicalId_of_mem_keys_generate hlogical hid] at hinvalid
    exact Bool.noConfusion hinvalid
  case some =>
    intro n hn hneeds hlong
    obtain ⟨k, hgiven⟩ := exists_givenOut (nodes.map Node.id) hn hneeds
    have hlonger := hlong.trans_le (length_add_four_le n.id k)
    exact ⟨_, (hexact _).mpr ⟨n, hn, k, hgiven, hlonger, rfl⟩⟩
  case none =>
    intro hroom id hfinding
    obtain ⟨n, hn, k, hgiven, hlong, -⟩ := (hexact id).mp hfinding
    obtain ⟨m, hm, hneeds, hid⟩ := hgiven.exists_node
    have hfits := hroom m hm hneeds
    rw [hid] at hfits
    exact absurd ((length_roleCandidate_le n.id hgiven.le_length).trans hfits)
      (Nat.not_le.mpr hlong)

/-- A function that names no role, with an id of some letters. -/
def longFunction (letters : Nat) : Node :=
  ⟨String.ofList (List.replicate letters 'a'), .lambda, .empty⟩

lemma length_longFunction (letters : Nat) : (longFunction letters).id.length = letters := by
  rw [longFunction, String.length_ofList, List.length_replicate]

lemma isLogicalId_longFunction {letters : Nat} (h : letters ≠ 0) :
    isLogicalId (longFunction letters).id = true := by
  obtain ⟨more, rfl⟩ := Nat.exists_eq_succ_of_ne_zero h
  have hletter : isLetter 'a' = true := by decide
  simp [longFunction, isLogicalId, List.replicate_succ, isLogicalIdShape, hletter]

/-- The role of a function with an id of 252 letters, three less than there may be, has an id that
is too long.  This is all that is wrong with it. -/
theorem misnamed_findings_generate_longFunction :
    isLogicalId (longFunction 252).id = true ∧ (longFunction 252).id.length ≤ logicalIdLimit ∧
      (∀ id, .invalidLogicalId id ∉
        Pass.structural.findings {} (generate [longFunction 252] [] "Long" none)) ∧
      ∃ id, .longLogicalId id ∈
        Pass.structural.findings {} (generate [longFunction 252] [] "Long" none) := by
  have hlogical := isLogicalId_longFunction (by decide : 252 ≠ 0)
  have hshort : (longFunction 252).id.length ≤ logicalIdLimit := by
    rw [length_longFunction]
    decide
  have hlong : logicalIdLimit < (longFunction 252).id.length + 4 := by
    rw [length_longFunction]
    decide
  obtain ⟨hspelling, -, hsome, -⟩ := misnamed_findings_generate [longFunction 252]
    (List.forall_mem_singleton.mpr hlogical) (List.forall_mem_singleton.mpr hshort) [] "Long" none
    {}
  exact ⟨hlogical, hshort, hspelling, hsome _ (List.mem_singleton_self _) rfl hlong⟩

/-- The generator invents an id that validation refuses. -/
theorem generate_longFunction_refused :
    (∀ n ∈ [longFunction 252], isLogicalId n.id = true ∧ n.id.length ≤ 255) ∧
      .longLogicalId ((longFunction 252).id ++ "Role") ∈
        Pass.structural.findings {} (generate [longFunction 252] [] "Long" none) ∧
      (Finding.longLogicalId ((longFunction 252).id ++ "Role")).code = .longLogicalId := by
  have hlogical := isLogicalId_longFunction (by decide : 252 ≠ 0)
  have hshort : (longFunction 252).id.length ≤ 255 := by
    rw [length_longFunction]
    decide
  obtain ⟨k, hgiven⟩ := exists_givenOut ([longFunction 252].map Node.id)
    (List.mem_singleton_self (longFunction 252)) rfl
  have hk : k ≤ 1 := hgiven.le_length
  have hlong : 255 < (roleCandidate (longFunction 252).id k).length := by
    have hlonger := length_add_four_le (longFunction 252).id k
    rw [length_longFunction] at hlonger
    omega
  have hmem := (long_mem_keys_generate_iff (List.forall_mem_singleton.mpr hlogical)
    (List.forall_mem_singleton.mpr hshort) [] "Long" none).mpr
      ⟨_, List.mem_singleton_self _, k, hgiven, hlong, rfl⟩
  rw [roleCandidate, if_pos hk] at hmem
  exact ⟨List.forall_mem_singleton.mpr ⟨hlogical, hshort⟩, longLogicalId_mem_iff.mpr hmem, rfl⟩

end CloudTemplate
