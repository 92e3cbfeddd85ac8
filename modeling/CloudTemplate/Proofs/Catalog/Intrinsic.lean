import CloudTemplate.Catalog.Spec
import CloudTemplate.Proofs.Value.Replacement

/-!
# Intrinsics in the place of leaves

A value that is known only at deployment satisfies every rule, and so does a list of ingress rules
with such a value among its items.  Further down this ends.  Some rules read what stands under
certain names, and read nothing but texts and numbers there (`Rule.Reads`).  An intrinsic in such a
place is refused, and an intrinsic in any other place is not.

Each rule with parts has one lemma that says what it asks of a value (`versioning?_eq_none_iff`,
`namedElement?_eq_none_iff`, `ingressRule?_eq_none_iff`) and one that says which replacements it
lets pass.
-/

namespace CloudTemplate

open PropertyValue

variable {w v v' : PropertyValue} {place : List Step}

/-! ## Readings of scalars -/

namespace PropertyValue

lemma asText?_eq_none (h : v.isScalar = false) : v.asText? = none := by
  cases v <;> first | rfl | cases h

lemma asBool?_eq_none (h : v.isScalar = false) : v.asBool? = none := by
  cases v <;> first | rfl | cases h

lemma asDouble?_eq_none (h : v.isScalar = false) : v.asDouble? = none := by
  cases v <;> first | rfl | cases h

lemma asInt64?_eq_none (h : v.isScalar = false) : v.asInt64? = none := by
  cases v <;> first | rfl | cases h

end PropertyValue

lemma fault?_eq_of_not_scalar (bounds : Bounds) (h : v.isScalar = false) :
    bounds.fault? v = some .notANumber := by
  rw [Bounds.fault?, asDouble?_eq_none h]

/-! ## Lists with one item replaced -/

/-- What holds of all items holds after one of them was replaced just if it holds of the new
one. -/
lemma forall_getElem?_set_iff {α : Type} {P : Nat → α → Prop} {items : List α} {index : Nat}
    {item item' : α} (hitem : items[index]? = some item)
    (hall : ∀ (i : Nat) (x : α), items[i]? = some x → P i x) :
    (∀ (i : Nat) (x : α), (items.set index item')[i]? = some x → P i x) ↔ P index item' := by
  have hindex : index < items.length := (List.getElem?_eq_some_iff.mp hitem).1
  constructor
  · exact fun h => h index item' (List.getElem?_set_self hindex)
  · intro hitem' i x hx
    by_cases hi : index = i
    · subst hi
      rw [List.getElem?_set_self hindex, Option.some.injEq] at hx
      rwa [← hx]
    · rw [List.getElem?_set_ne hi] at hx
      exact hall i x hx

lemma findSome?_eq_none_iff_getElem? {α β : Type} {items : List α} {f : α → Option β} :
    items.findSome? f = none ↔ ∀ (i : Nat) (x : α), items[i]? = some x → f x = none := by
  rw [List.findSome?_eq_none_iff]
  constructor
  · exact fun h i x hx => h x (List.mem_of_getElem? hx)
  · intro h x hx
    obtain ⟨i, hi⟩ := List.mem_iff_getElem?.mp hx
    exact h i x hi

namespace Rule

/-! ## What a rule reads -/

/-- Steps lead to what stands under one of these names. -/
def LeadsTo (names : List String) (place : List Step) : Prop :=
  ∃ name ∈ names, place = [.value name]

/-- Steps lead to what stands under one of these names of an item. -/
def LeadsToItem (names : List String) (place : List Step) : Prop :=
  ∃ index rest, place = .item index :: rest ∧ LeadsTo names rest

/-- The places below the top of a value where a rule reads a text or a number. -/
def Reads : Rule → List Step → Prop
  | .versioning => LeadsTo ["Status"]
  | .ingressRules => LeadsToItem ["IpProtocol", "FromPort", "ToPort"]
  | .keySchema => LeadsToItem ["AttributeName", "KeyType"]
  | .attributeDefinitions => LeadsToItem ["AttributeName", "AttributeType"]
  | _ => fun _ => False

lemma leadsToItem_item_iff {names : List String} {index : Nat} :
    LeadsToItem names (.item index :: place) ↔ LeadsTo names place := by
  simp only [LeadsToItem, List.cons.injEq, Step.item.injEq]
  constructor
  · rintro ⟨_, _, ⟨-, rfl⟩, h⟩
    exact h
  · exact fun h => ⟨index, place, ⟨rfl, rfl⟩, h⟩

/-! ## Versions -/

lemma listed?_eq_none_iff {label : String} {allowed : List String} :
    listed? label allowed v = none ↔ ∃ text ∈ allowed, v.asText? = some text := by
  unfold listed? onText
  cases v.asText? with
  | none => simp
  | some text => simp

lemma versioning?_eq_none_iff : versioning? v = none ↔
    ∃ text ∈ ["Enabled", "Suspended"], (v.get? "Status").bind asText? = some text := by
  unfold versioning?
  cases v.get? "Status" with
  | none => simp
  | some status => exact listed?_eq_none_iff

lemma versioning?_replaced_iff (h : versioning? v = none) (hreplaced : Replaced w place v v')
    (hbelow : v.isScalar = false) (hw : w.isScalar = false) :
    versioning? v' = none ↔ ¬ LeadsTo ["Status"] place := by
  have hstatus := hreplaced.bind_get?_eq_ite hbelow hw (fun _ => asText?_eq_none) "Status"
  rw [versioning?_eq_none_iff] at h ⊢
  rw [hstatus]
  by_cases hplace : place = [.value "Status"]
  · simp [hplace, LeadsTo]
  · simpa [hplace, LeadsTo] using h

/-! ## Elements with names -/

lemma namedElement?_eq_none_iff {label typeKey : String} {allowed : List String} :
    namedElement? label typeKey allowed v = none ↔
      ((v.get? "AttributeName").bind asText?).isSome = true ∧
        ∃ text ∈ allowed, (v.get? typeKey).bind asText? = some text := by
  unfold namedElement?
  cases (v.get? "AttributeName").bind asText? with
  | none => simp
  | some name =>
    cases v.get? typeKey with
    | none => simp
    | some type => simpa using listed?_eq_none_iff

lemma namedElement?_replaced_iff {label typeKey : String} {allowed : List String}
    (h : namedElement? label typeKey allowed v = none) (hreplaced : Replaced w place v v')
    (hbelow : v.isScalar = false) (hw : w.isScalar = false) :
    namedElement? label typeKey allowed v' = none ↔
      ¬ LeadsTo ["AttributeName", typeKey] place := by
  have hname := hreplaced.bind_get?_eq_ite hbelow hw (fun _ => asText?_eq_none) "AttributeName"
  have htype := hreplaced.bind_get?_eq_ite hbelow hw (fun _ => asText?_eq_none) typeKey
  rw [namedElement?_eq_none_iff] at h ⊢
  rw [hname, htype]
  by_cases hatName : place = [.value "AttributeName"]
  · simp [hatName, LeadsTo]
  · by_cases hatType : place = [.value typeKey]
    · simp [hatType, LeadsTo]
    · simpa [hatName, hatType, LeadsTo] using h

/-! ## Ingress rules -/

/-- The protocol that a value names. -/
def protocolOf? : PropertyValue → Option String
  | .string name => some (asciiLower name)
  | other => other.asInt64?.map toString

lemma protocolOf?_eq_none (h : v.isScalar = false) : protocolOf? v = none := by
  cases v <;> first | rfl | cases h

lemma ingressProtocol?_eq_bind (v : PropertyValue) :
    ingressProtocol? v = (v.get? "IpProtocol").bind protocolOf? := by
  unfold ingressProtocol?
  cases v.get? "IpProtocol" with
  | none => rfl
  | some value => cases value <;> rfl

/-- Whether a value will do for a port of a protocol. -/
def fitsPort (protocol : String) (value : PropertyValue) : Bool :=
  (hasWildcardPorts protocol && value.asInt64? == some (-1)) ||
    (Bounds.networkPort.fault? value).isNone

lemma fitsPort_eq_false {protocol : String} (h : v.isScalar = false) :
    fitsPort protocol v = false := by
  simp [fitsPort, asInt64?_eq_none h, fault?_eq_of_not_scalar _ h]

lemma rulePort?_eq_none_iff {index : Nat} {protocol port : String} :
    rulePort? index protocol port v = none ↔ v.get? port = none ∨
      ((v.get? port).bind (Option.guard (fitsPort protocol))).isSome = true := by
  unfold rulePort?
  cases v.get? port with
  | none => simp
  | some value =>
    have hvalue : ((some value).bind (Option.guard (fitsPort protocol))).isSome =
        fitsPort protocol value := by
      cases hfits : fitsPort protocol value <;> simp [Option.guard, hfits]
    rw [hvalue, fitsPort]
    by_cases hwildcard : (hasWildcardPorts protocol && value.asInt64? == some (-1)) = true
    · simp [hwildcard]
    · simp [hwildcard]

lemma rulePort?_replaced_iff {index : Nat} {protocol port : String}
    (h : rulePort? index protocol port v = none) (hreplaced : Replaced w place v v')
    (hbelow : v.isScalar = false) (hw : w.isScalar = false) :
    rulePort? index protocol port v' = none ↔ place ≠ [.value port] := by
  have hread : ∀ part : PropertyValue, part.isScalar = false →
      Option.guard (fitsPort protocol) part = none := by
    intro part hpart
    simp [Option.guard, fitsPort_eq_false hpart]
  have hport := hreplaced.bind_get?_eq_ite hbelow hw hread port
  rw [rulePort?_eq_none_iff] at h ⊢
  rw [hport, hreplaced.get?_eq_none_iff hbelow]
  by_cases hplace : place = [.value port]
  · subst hplace
    simp [hreplaced.get?_ne_none]
  · simpa [hplace] using h

/-- What is asked of a rule that is known before deployment. -/
lemma ingressRule?_eq_none_iff {index : Nat} (hv : v.isIntrinsic = false) :
    ingressRule? index v = none ↔ ∃ protocol, ingressProtocol? v = some protocol ∧
      rulePort? index protocol "FromPort" v = none ∧
      rulePort? index protocol "ToPort" v = none := by
  unfold ingressRule?
  rw [if_neg (Bool.eq_false_iff.mp hv)]
  by_cases hmap : v.asMap?.isNone = true
  · have hprotocol : ingressProtocol? v = none := by
      rw [ingressProtocol?_eq_bind, get?, Option.isNone_iff_eq_none.mp hmap]
      rfl
    simp [hmap, hprotocol]
  · rw [if_neg hmap]
    cases ingressProtocol? v with
    | none => simp
    | some protocol => simp

lemma ingressRule?_replaced_iff {index : Nat} (h : ingressRule? index v = none)
    (hreplaced : Replaced w place v v') (hbelow : v.isScalar = false)
    (hw : w.isIntrinsic = true) :
    ingressRule? index v' = none ↔ ¬ LeadsTo ["IpProtocol", "FromPort", "ToPort"] place := by
  have hintrinsic := hreplaced.isIntrinsic_eq hbelow
  by_cases hv : v.isIntrinsic = true
  · obtain ⟨name, rest, rfl, hfunction⟩ := hreplaced.exists_place_of_isIntrinsic hv
    have haccepted : ingressRule? index v' = none := by
      rw [ingressRule?, if_pos (hintrinsic.trans hv)]
    -- The one name of an intrinsic is that of a function, and no name that is read is.
    have hnames : ∀ read ∈ ["IpProtocol", "FromPort", "ToPort"],
        beginsWith read functionLead = false := by decide
    simp only [haccepted, true_iff]
    rintro ⟨read, hread, hsame⟩
    obtain ⟨rfl, -⟩ : name = read ∧ rest = [] := by simpa using hsame
    simp [hnames name hread] at hfunction
  · rw [Bool.not_eq_true] at hv
    have hscalar := isScalar_eq_false_of_isIntrinsic hw
    obtain ⟨protocol, hprotocol, hfrom, hto⟩ := (ingressRule?_eq_none_iff hv).mp h
    have hprotocol' : ingressProtocol? v' =
        if place = [.value "IpProtocol"] then none else some protocol := by
      rw [← hprotocol, ingressProtocol?_eq_bind, ingressProtocol?_eq_bind]
      exact hreplaced.bind_get?_eq_ite hbelow hscalar (fun _ => protocolOf?_eq_none) _
    rw [ingressRule?_eq_none_iff (hintrinsic.trans hv), hprotocol']
    by_cases hplace : place = [.value "IpProtocol"]
    · simp [hplace, LeadsTo]
    · simp [hplace, LeadsTo, rulePort?_replaced_iff hfrom hreplaced hbelow hscalar,
        rulePort?_replaced_iff hto hreplaced hbelow hscalar]

/-! ## Lists of rules and elements -/

lemma ingressRules?_list_eq_none_iff {items : List PropertyValue} :
    ingressRules? (.list items) = none ↔
      ∀ (index : Nat) (item : PropertyValue), items[index]? = some item →
        ingressRule? index item = none := by
  show items.zipIdx.findSome? _ = none ↔ _
  rw [List.findSome?_eq_none_iff]
  simp only [Prod.forall, List.mem_zipIdx_iff_getElem?]
  exact ⟨fun h index item hitem => h item index hitem, fun h item index hitem => h index item hitem⟩

lemma isScalar_eq_false_of_ingressRule? {index : Nat} (h : ingressRule? index v = none) :
    v.isScalar = false := by
  by_contra hscalar
  rw [Bool.not_eq_false] at hscalar
  have hprotocol : ingressProtocol? v = none := by
    rw [ingressProtocol?_eq_bind, get?_eq_none_of_isScalar hscalar]
    rfl
  have hv : v.isIntrinsic = false := by
    by_contra hv
    rw [Bool.not_eq_false] at hv
    simp [isScalar_eq_false_of_isIntrinsic hv] at hscalar
  simp [ingressRule?_eq_none_iff hv, hprotocol] at h

lemma isScalar_eq_false_of_namedElement? {label typeKey : String} {allowed : List String}
    (h : namedElement? label typeKey allowed v = none) : v.isScalar = false := by
  by_contra hscalar
  rw [Bool.not_eq_false] at hscalar
  simp [namedElement?_eq_none_iff, get?_eq_none_of_isScalar hscalar] at h

lemma ingressRules?_replaced_iff {items : List PropertyValue}
    (h : ingressRules? (.list items) = none) (hreplaced : Replaced w place (.list items) v')
    (hw : w.isIntrinsic = true) :
    ingressRules? v' = none ↔ ¬ LeadsToItem ["IpProtocol", "FromPort", "ToPort"] place := by
  rw [ingressRules?_list_eq_none_iff] at h
  cases hreplaced with
  | here hscalar => cases hscalar
  | @item _ index item item' rest hitem hreplaced =>
    have haccepted := h index item hitem
    rw [ingressRules?_list_eq_none_iff, forall_getElem?_set_iff hitem h, leadsToItem_item_iff]
    exact ingressRule?_replaced_iff haccepted hreplaced
      (isScalar_eq_false_of_ingressRule? haccepted) hw

lemma findSome?_namedElement?_replaced_iff {label typeKey : String} {allowed : List String}
    {items : List PropertyValue} (h : items.findSome? (namedElement? label typeKey allowed) = none)
    {index : Nat} {item item' : PropertyValue} (hitem : items[index]? = some item)
    (hreplaced : Replaced w place item item') (hw : w.isIntrinsic = true) :
    (items.set index item').findSome? (namedElement? label typeKey allowed) = none ↔
      ¬ LeadsTo ["AttributeName", typeKey] place := by
  rw [findSome?_eq_none_iff_getElem?] at h
  have haccepted := h index item hitem
  rw [findSome?_eq_none_iff_getElem?, forall_getElem?_set_iff hitem h]
  exact namedElement?_replaced_iff haccepted hreplaced
    (isScalar_eq_false_of_namedElement? haccepted) (isScalar_eq_false_of_isIntrinsic hw)

lemma keySchema?_list_eq_none_iff {items : List PropertyValue} :
    keySchema? (.list items) = none ↔ (items.length ≠ 0 ∧ items.length ≤ 2) ∧
      items.findSome? (namedElement? "KeySchema" "KeyType" ["HASH", "RANGE"]) = none := by
  show (if _ then _ else _) = none ↔ _
  by_cases hcount : (items.isEmpty || decide (2 < items.length)) = true
  · rw [if_pos hcount]
    rw [Bool.or_eq_true, List.isEmpty_iff_length_eq_zero, decide_eq_true_eq] at hcount
    simp only [reduceCtorEq, false_iff]
    omega
  · rw [if_neg hcount]
    rw [Bool.or_eq_true, List.isEmpty_iff_length_eq_zero, decide_eq_true_eq, not_or,
      Nat.not_lt] at hcount
    exact (and_iff_right hcount).symm

lemma keySchema?_replaced_iff {items : List PropertyValue} (h : keySchema? (.list items) = none)
    (hreplaced : Replaced w place (.list items) v') (hw : w.isIntrinsic = true) :
    keySchema? v' = none ↔ ¬ LeadsToItem ["AttributeName", "KeyType"] place := by
  obtain ⟨hcount, helements⟩ := keySchema?_list_eq_none_iff.mp h
  cases hreplaced with
  | here hscalar => cases hscalar
  | item hitem hreplaced =>
    rw [keySchema?_list_eq_none_iff, leadsToItem_item_iff, List.length_set, and_iff_right hcount]
    exact findSome?_namedElement?_replaced_iff helements hitem hreplaced hw

lemma attributeDefinitions?_replaced_iff {items : List PropertyValue}
    (h : attributeDefinitions? (.list items) = none)
    (hreplaced : Replaced w place (.list items) v') (hw : w.isIntrinsic = true) :
    attributeDefinitions? v' = none ↔
      ¬ LeadsToItem ["AttributeName", "AttributeType"] place := by
  cases hreplaced with
  | here hscalar => cases hscalar
  | item hitem hreplaced =>
    rw [leadsToItem_item_iff]
    exact findSome?_namedElement?_replaced_iff h hitem hreplaced hw

/-! ## Rules that read no scalars -/

lemma code?_eq_none_iff : code? v = none ↔
    (v.get? "S3Bucket" ≠ none ∧ v.get? "S3Key" ≠ none) ∨ v.get? "ZipFile" ≠ none ∨
      v.get? "ImageUri" ≠ none := by
  unfold code? get?
  cases v.asMap? with
  | none => simp
  | some entries =>
    simp only [Option.bind_some, ← Option.isSome_iff_ne_none, ite_eq_left_iff, reduceCtorEq,
      imp_false, not_not, Bool.or_eq_true, Bool.and_eq_true, or_assoc]

lemma code?_replaced (h : code? v = none) (hreplaced : Replaced w place v v')
    (hbelow : v.isScalar = false) : code? v' = none := by
  rw [code?_eq_none_iff] at h ⊢
  simpa only [ne_eq, hreplaced.get?_eq_none_iff hbelow] using h

lemma policyDocument?_eq_none_iff : policyDocument? v = none ↔
    ∃ statement, v.get? "Statement" = some statement ∧
      ((∃ items, statement = .list items) ∨ ∃ entries, statement = .map entries) := by
  unfold policyDocument?
  cases v.get? "Statement" with
  | none => simp
  | some statement => cases statement <;> simp

lemma policyDocument?_replaced (h : policyDocument? v = none)
    (hreplaced : Replaced w place v v') (hbelow : v.isScalar = false) :
    policyDocument? v' = none := by
  rw [policyDocument?_eq_none_iff] at h ⊢
  obtain ⟨statement, hstatement, hshape⟩ := h
  obtain ⟨statement', hstatement', rfl | ⟨rest, hinner⟩⟩ :=
    hreplaced.exists_get?_eq_some hbelow hstatement
  · exact ⟨statement', hstatement', hshape⟩
  · refine ⟨statement', hstatement', ?_⟩
    rcases hshape with ⟨items, rfl⟩ | ⟨entries, rfl⟩
    · cases hinner with
      | here hscalar => cases hscalar
      | item => exact .inl ⟨_, rfl⟩
    · cases hinner with
      | here hscalar => cases hscalar
      | value => exact .inr ⟨_, rfl⟩

/-! ## All rules -/

lemma onText_eq_of_not_scalar {label : String} {test : String → Option Violation}
    (h : v.isScalar = false) : onText label test v = some (.notAText label) := by
  rw [onText, asText?_eq_none h]

/-- Below the top, a rule lets pass what it does not read. -/
lemma violation?_replaced_iff {rule : Rule} (h : rule.violation? v = none)
    (hreplaced : Replaced w place v v') (hbelow : v.isScalar = false)
    (hw : w.isIntrinsic = true) : rule.violation? v' = none ↔ ¬ rule.Reads place := by
  have hscalar := isScalar_eq_false_of_isIntrinsic hw
  -- The rules on texts, truth values and numbers have not accepted a value with an inside.
  cases rule with
  | cidrBlock | oneOf | groupDescription | bucketName | handler | beginning | machineType
  | topicName =>
    have hrefused := h.symm.trans (onText_eq_of_not_scalar hbelow)
    cases hrefused
  | boolean => simp [violation?, asBool?_eq_none hbelow] at h
  | bounded label bounds => simp [violation?, fault?_eq_of_not_scalar bounds hbelow] at h
  | apiName => simp [violation?, apiName?, asText?_eq_none hbelow] at h
  | ingressRules =>
    cases v with
    | list items => exact ingressRules?_replaced_iff h hreplaced hw
    | _ => cases h
  | versioning => exact versioning?_replaced_iff h hreplaced hbelow hscalar
  | code => exact iff_of_true (code?_replaced h hreplaced hbelow) id
  | policyDocument => exact iff_of_true (policyDocument?_replaced h hreplaced hbelow) id
  | keySchema =>
    cases v with
    | list items => exact keySchema?_replaced_iff h hreplaced hw
    | _ => cases h
  | attributeDefinitions =>
    cases v with
    | list items => exact attributeDefinitions?_replaced_iff h hreplaced hw
    | _ => cases h

lemma not_reads_nil (rule : Rule) : ¬ rule.Reads [] := by
  cases rule <;> simp [Reads, LeadsTo, LeadsToItem]

/-- The names that a rule reads are not those of functions. -/
lemma not_reads_of_isIntrinsic (rule : Rule) (hreplaced : Replaced w place v v')
    (hv : v.isIntrinsic = true) : ¬ rule.Reads place := by
  obtain ⟨name, rest, rfl, hfunction⟩ := hreplaced.exists_place_of_isIntrinsic hv
  have hstatus : name ≠ "Status" := by
    rintro rfl
    exact absurd hfunction (by decide)
  cases rule <;> simp [Reads, LeadsTo, LeadsToItem, hstatus]

end Rule

/-- Let a property have a rule, and take a value of it that the catalog accepts.  With an intrinsic
in the place of one of its scalars, the value is still accepted, unless the rule reads just that
place. -/
theorem violation?_replaced_eq_none_iff (type : ResourceType) (property : String) (rule : Rule)
    (hrule : type.spec.rule? property = some rule) (v v' w : PropertyValue)
    (haccepted : type.spec.violation? property v = none) (place : List Step)
    (hreplaced : Replaced w place v v') (hw : w.isIntrinsic = true) :
    type.spec.violation? property v' = none ↔ ¬ rule.Reads place := by
  have hknown : ∀ value : PropertyValue, value.isIntrinsic = false →
      type.spec.violation? property value = rule.violation? value := by
    intro value hvalue
    simp [Spec.violation?, hrule, hvalue]
  have hexempt : ∀ value : PropertyValue, value.isIntrinsic = true →
      type.spec.violation? property value = none := by
    intro value hvalue
    simp [Spec.violation?, hvalue]
  -- An intrinsic stays exempt, and a scalar becomes so; any other value is judged by the rule as
  -- it was before.
  by_cases hv : v.isIntrinsic = true
  · exact iff_of_true (hexempt v' (hreplaced.isIntrinsic hw hv))
      (rule.not_reads_of_isIntrinsic hreplaced hv)
  · rw [Bool.not_eq_true] at hv
    by_cases hscalar : v.isScalar = true
    · obtain ⟨rfl, rfl⟩ := hreplaced.eq_of_isScalar hscalar
      exact iff_of_true (hexempt v' hw) rule.not_reads_nil
    · rw [Bool.not_eq_true] at hscalar
      rw [hknown v hv] at haccepted
      rw [hknown v' ((hreplaced.isIntrinsic_eq hscalar).trans hv)]
      exact Rule.violation?_replaced_iff haccepted hreplaced hscalar hw

/-- A list of one rule that admits traffic to a port from a source. -/
def oneRule (port source : PropertyValue) : PropertyValue :=
  .list [.map [("IpProtocol", .string "tcp"), ("FromPort", port), ("ToPort", .ofInt 443),
    ("CidrIp", source)]]

lemma violation?_oneRule : ResourceType.securityGroup.spec.violation? "SecurityGroupIngress"
    (oneRule (.ofInt 80) (.string "10.0.0.0/8")) = none := by
  decide +kernel

/-- The source of a rule may be an intrinsic. -/
theorem violation?_replaced_eq_none_iff_oneRule :
    ResourceType.securityGroup.spec.rule? "SecurityGroupIngress" = some .ingressRules ∧
      ResourceType.securityGroup.spec.violation? "SecurityGroupIngress"
        (oneRule (.ofInt 80) (.string "10.0.0.0/8")) = none ∧
      Replaced (.ref "Source") [.item 0, .value "CidrIp"]
        (oneRule (.ofInt 80) (.string "10.0.0.0/8")) (oneRule (.ofInt 80) (.ref "Source")) ∧
      (PropertyValue.ref "Source").isIntrinsic = true ∧
      ResourceType.securityGroup.spec.violation? "SecurityGroupIngress"
        (oneRule (.ofInt 80) (.ref "Source")) = none := by
  have hrule : ResourceType.securityGroup.spec.rule? "SecurityGroupIngress" =
      some .ingressRules := by decide
  have hreplaced : Replaced (.ref "Source") [.item 0, .value "CidrIp"]
      (oneRule (.ofInt 80) (.string "10.0.0.0/8")) (oneRule (.ofInt 80) (.ref "Source")) :=
    .item rfl (.value rfl (.here rfl))
  refine ⟨hrule, violation?_oneRule, hreplaced, rfl, ?_⟩
  rw [violation?_replaced_eq_none_iff _ _ _ hrule _ _ _ violation?_oneRule _ hreplaced rfl]
  simp [Rule.Reads, Rule.LeadsToItem, Rule.LeadsTo]

/-- The first port of a rule may not be one. -/
theorem violation?_oneRule_replaced :
    ResourceType.securityGroup.spec.rule? "SecurityGroupIngress" = some .ingressRules ∧
      ResourceType.securityGroup.spec.violation? "SecurityGroupIngress"
        (oneRule (.ofInt 80) (.string "10.0.0.0/8")) = none ∧
      Replaced (.ref "Port") [.item 0, .value "FromPort"]
        (oneRule (.ofInt 80) (.string "10.0.0.0/8"))
        (oneRule (.ref "Port") (.string "10.0.0.0/8")) ∧
      (PropertyValue.ref "Port").isIntrinsic = true ∧
      ResourceType.securityGroup.spec.violation? "SecurityGroupIngress"
        (oneRule (.ref "Port") (.string "10.0.0.0/8")) =
          some (.rulePort 0 "FromPort" .notANumber) :=
  ⟨by decide, violation?_oneRule, .item rfl (.value rfl (.here rfl)), rfl, by decide +kernel⟩

end CloudTemplate
