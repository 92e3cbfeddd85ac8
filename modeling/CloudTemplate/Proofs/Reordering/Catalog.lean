import CloudTemplate.Catalog.Spec
import CloudTemplate.Proofs.Reordering.Value
import CloudTemplate.Validation.BestPractices
import CloudTemplate.Validation.Properties

/-!
# Rules and good practice on reorderings

A rule says the same of a reordering of a value, with the same particulars
(`violation?_eq_of_reordered`), and so does what is looked at for good practice
(`practiceFindings_eq_of_reordered`).  Rules look into a value by name alone, which finds
reorderings again; the names inside one map must be distinct for this, since of two entries with one
name the first counts.
-/

namespace CloudTemplate

/-- Lists of related items have the same first finding, if related items lead to the same. -/
lemma findSome?_eq_of_forall₂ {α β : Type} {γ : Type*} {rel : α → β → Prop} {items : List α}
    {others : List β} (h : List.Forall₂ rel items others) {f : α → Option γ} {g : β → Option γ}
    (hfg : ∀ item ∈ items, ∀ other, rel item other → f item = g other) :
    items.findSome? f = others.findSome? g := by
  have hmap : (items.map f).findSome? id = (others.map g).findSome? id := by
    rw [map_eq_of_forall₂ h hfg]
  rwa [List.findSome?_map, List.findSome?_map] at hmap

namespace PropertyValue.Reordered

variable {v w : PropertyValue}

/-! ## What is read under a name -/

/-- What is read under a name of a map. -/
lemma bind_get?_eq {γ : Type*} (h : Reordered v w) (hnamed : v.WellNamed) (key : String)
    {read : PropertyValue → Option γ} (hread : ∀ v w, Reordered v w → read v = read w) :
    (v.get? key).bind read = (w.get? key).bind read :=
  bind_eq_of_rel (h.rel_get? hnamed key) hread

lemma ingressProtocol?_eq (h : Reordered v w) (hnamed : v.WellNamed) :
    ingressProtocol? v = ingressProtocol? w := by
  have hprotocol := h.rel_get? hnamed "IpProtocol"
  unfold ingressProtocol?
  generalize v.get? "IpProtocol" = protocol, w.get? "IpProtocol" = protocol' at hprotocol
  cases hprotocol with
  | none => rfl
  | some hrel => cases hrel <;> rfl

/-! ## Rules -/

open Rule

lemma onText_eq (h : Reordered v w) (label : String) (test : String → Option Violation) :
    onText label test v = onText label test w := by
  unfold onText
  rw [h.asText?_eq]

lemma fault?_eq (h : Reordered v w) (bounds : Bounds) : bounds.fault? v = bounds.fault? w := by
  unfold Bounds.fault?
  rw [h.asDouble?_eq]

lemma rulePort?_eq (h : Reordered v w) (hnamed : v.WellNamed) (index : Nat)
    (protocol port : String) :
    rulePort? index protocol port v = rulePort? index protocol port w := by
  have hport := h.rel_get? hnamed port
  unfold rulePort?
  generalize v.get? port = value, w.get? port = value' at hport
  cases hport with
  | none => rfl
  | some hrel =>
    show (if _ then _ else _) = if _ then _ else _
    rw [hrel.asInt64?_eq, hrel.fault?_eq]

lemma ingressRule?_eq (h : Reordered v w) (hnamed : v.WellNamed) (index : Nat) :
    ingressRule? index v = ingressRule? index w := by
  have hmap : v.asMap?.isNone = w.asMap?.isNone := by
    rw [← Option.not_isSome, ← Option.not_isSome, isSome_eq_of_rel h.rel_asMap?]
  unfold ingressRule?
  rw [h.isIntrinsic_eq, hmap, h.ingressProtocol?_eq hnamed]
  simp only [h.rulePort?_eq hnamed]

lemma ingressRules?_eq (h : Reordered v w) (hnamed : v.WellNamed) :
    ingressRules? v = ingressRules? w := by
  cases v with
  | list items =>
    obtain ⟨others, rfl, hitems⟩ := list_iff.mp h
    have hindexed : ∀ start, List.Forall₂ (fun a b => a.2 = b.2 ∧ Reordered a.1 b.1)
        (items.zipIdx start) (others.zipIdx start) := by
      clear h hnamed
      induction hitems with
      | nil => exact fun _ => .nil
      | cons hhead _ ih => exact fun start => .cons ⟨rfl, hhead⟩ (ih (start + 1))
    apply findSome?_eq_of_forall₂ (hindexed 0)
    rintro ⟨item, index⟩ hmem ⟨other, _⟩ ⟨rfl, hrel⟩
    have hitem : item ∈ items := List.fst_mem_of_mem_zipIdx hmem
    exact hrel.ingressRule?_eq (wellNamed_list_iff.mp hnamed item hitem) index
  | _ => cases h <;> rfl

lemma versioning?_eq (h : Reordered v w) (hnamed : v.WellNamed) :
    versioning? v = versioning? w := by
  have hstatus := h.rel_get? hnamed "Status"
  unfold versioning?
  generalize v.get? "Status" = status, w.get? "Status" = status' at hstatus
  cases hstatus with
  | none => rfl
  | some hrel => exact hrel.onText_eq _ _

lemma code?_eq (h : Reordered v w) (hnamed : v.WellNamed) : code? v = code? w := by
  cases v with
  | map entries =>
    obtain ⟨others, rfl, hentries⟩ := map_iff.mp h
    have hhas : ∀ key, (Entries.find? entries key).isSome = (Entries.find? others key).isSome := by
      intro key
      exact isSome_eq_of_rel (hentries.rel_find? (wellNamed_map_iff.mp hnamed).1 key)
    simp only [code?, asMap?, hhas]
  | _ => cases h <;> rfl

lemma policyDocument?_eq (h : Reordered v w) (hnamed : v.WellNamed) :
    policyDocument? v = policyDocument? w := by
  have hstatement := h.rel_get? hnamed "Statement"
  unfold policyDocument?
  generalize v.get? "Statement" = statement, w.get? "Statement" = statement' at hstatement
  cases hstatement with
  | none => rfl
  | some hrel => cases hrel <;> rfl

lemma namedElement?_eq (h : Reordered v w) (hnamed : v.WellNamed) (label typeKey : String)
    (allowed : List String) :
    namedElement? label typeKey allowed v = namedElement? label typeKey allowed w := by
  have hname := h.bind_get?_eq hnamed "AttributeName" fun _ _ => asText?_eq
  have htype := h.rel_get? hnamed typeKey
  unfold namedElement?
  rw [hname]
  generalize v.get? typeKey = type, w.get? typeKey = type' at htype
  cases htype with
  | none => rfl
  | some hrel =>
    simp only [listed?]
    rw [hrel.onText_eq]

/-- Lists of elements with names are refused for the same element. -/
lemma findSome?_namedElement?_eq {items others : List PropertyValue}
    (h : List.Forall₂ Reordered items others) (hnamed : ∀ item ∈ items, item.WellNamed)
    (label typeKey : String) (allowed : List String) :
    items.findSome? (namedElement? label typeKey allowed) =
      others.findSome? (namedElement? label typeKey allowed) := by
  apply findSome?_eq_of_forall₂ h
  intro item hitem other hrel
  exact hrel.namedElement?_eq (hnamed item hitem) label typeKey allowed

lemma keySchema?_eq (h : Reordered v w) (hnamed : v.WellNamed) : keySchema? v = keySchema? w := by
  cases v with
  | list items =>
    obtain ⟨others, rfl, hitems⟩ := list_iff.mp h
    have hempty : items.isEmpty = others.isEmpty := by
      cases hitems <;> rfl
    simp only [keySchema?, asList?]
    rw [hempty, hitems.length_eq,
      findSome?_namedElement?_eq hitems (wellNamed_list_iff.mp hnamed)]
  | _ => cases h <;> rfl

lemma attributeDefinitions?_eq (h : Reordered v w) (hnamed : v.WellNamed) :
    attributeDefinitions? v = attributeDefinitions? w := by
  cases v with
  | list items =>
    obtain ⟨others, rfl, hitems⟩ := list_iff.mp h
    exact findSome?_namedElement?_eq hitems (wellNamed_list_iff.mp hnamed) _ _ _
  | _ => cases h <;> rfl

/-- A rule says the same of a reordering. -/
lemma violation?_eq (h : Reordered v w) (hnamed : v.WellNamed) (rule : Rule) :
    rule.violation? v = rule.violation? w := by
  cases rule with
  | cidrBlock | oneOf | groupDescription | bucketName | handler | beginning | machineType
  | topicName => exact h.onText_eq _ _
  | boolean =>
    simp only [violation?]
    rw [h.asBool?_eq]
  | bounded label bounds =>
    simp only [violation?]
    rw [h.fault?_eq]
  | apiName =>
    simp only [violation?, apiName?]
    rw [h.asText?_eq]
  | ingressRules => exact h.ingressRules?_eq hnamed
  | versioning => exact h.versioning?_eq hnamed
  | code => exact h.code?_eq hnamed
  | policyDocument => exact h.policyDocument?_eq hnamed
  | keySchema => exact h.keySchema?_eq hnamed
  | attributeDefinitions => exact h.attributeDefinitions?_eq hnamed

/-! ## Good practice -/

lemma turnsOn_eq {a b : Option PropertyValue} (h : Option.Rel Reordered a b) :
    turnsOn a = turnsOn b := by
  cases h with
  | none => rfl
  | some hrel =>
    simp only [turnsOn]
    rw [hrel.isIntrinsic_eq, hrel.isTruthy_eq]

lemma exposure?_eq (h : Reordered v w) (hnamed : v.WellNamed) : exposure? v = exposure? w := by
  have htext : ∀ key, (v.get? key).bind asText? = (w.get? key).bind asText? := by
    intro key
    exact h.bind_get?_eq hnamed key fun _ _ => asText?_eq
  have hinteger : ∀ key, (v.get? key).bind asInt64? = (w.get? key).bind asInt64? := by
    intro key
    exact h.bind_get?_eq hnamed key fun _ _ => asInt64?_eq
  simp only [exposure?, htext, hinteger, h.ingressProtocol?_eq hnamed]

/-- The rules of a group expose it alike. -/
lemma filterMap_exposure?_eq (h : Reordered v w) (hnamed : v.WellNamed) :
    (v.asList?.getD []).filterMap exposure? = (w.asList?.getD []).filterMap exposure? := by
  cases v with
  | list items =>
    obtain ⟨others, rfl, hitems⟩ := list_iff.mp h
    have hmap : items.map exposure? = others.map exposure? := by
      apply map_eq_of_forall₂ hitems
      intro item hitem other hrel
      exact hrel.exposure?_eq (wellNamed_list_iff.mp hnamed item hitem)
    have hsame : (items.map exposure?).filterMap id = (others.map exposure?).filterMap id := by
      rw [hmap]
    rwa [List.filterMap_map, List.filterMap_map] at hsame
  | _ => cases h <;> rfl

end PropertyValue.Reordered

/-! ## Resources -/

namespace Resource.Reordered

variable {r r' : Resource}

lemma rel_property? (h : Reordered r r') (name : String) :
    Option.Rel PropertyValue.Reordered (r.property? name) (r'.property? name) :=
  h.properties.rel_find? r.properties.distinct name

lemma has_eq (h : Reordered r r') (name : String) : r.has name = r'.has name := by
  have hproperty := h.rel_property? name
  unfold Resource.has
  generalize r.property? name = value, r'.property? name = value' at hproperty
  cases hproperty with
  | none => rfl
  | some hrel => cases hrel <;> rfl

/-- The catalog finds the same in a resource, up to order. -/
lemma propertyFindings_perm (h : Reordered r r') (hnamed : r.WellNamed) (id : String) :
    (propertyFindings id r).Perm (propertyFindings id r') := by
  unfold propertyFindings
  rw [← h.typeName]
  cases specOf? r.typeName with
  | none => exact .refl _
  | some s =>
    simp only [h.has_eq]
    apply List.Perm.append_left
    apply h.properties.filterMap_perm
    intro property v w hmem hrel
    simp only [propertyFinding?, Spec.violation?]
    rw [h.typeName, hrel.isIntrinsic_eq]
    simp only [hrel.violation?_eq (hnamed property v hmem)]

lemma practiceFindingsOf_eq (h : Reordered r r') (hnamed : r.WellNamed) (id : String)
    (type : ResourceType) : practiceFindingsOf id r type = practiceFindingsOf id r' type := by
  cases type with
  | bucket =>
    have hencryption := isSome_eq_of_rel (h.rel_property? "BucketEncryption")
    simp only [practiceFindingsOf, ← Option.not_isSome, hencryption]
  | database =>
    have hencrypted := PropertyValue.Reordered.turnsOn_eq (h.rel_property? "StorageEncrypted")
    have hzones := PropertyValue.Reordered.turnsOn_eq (h.rel_property? "MultiAZ")
    simp only [practiceFindingsOf, hencrypted, hzones]
  | function =>
    have hseconds : (r.property? "Timeout").bind (·.asDouble?) =
        (r'.property? "Timeout").bind (·.asDouble?) :=
      bind_eq_of_rel (h.rel_property? "Timeout") fun _ _ hrel => hrel.asDouble?_eq
    simp only [practiceFindingsOf, hseconds]
  | securityGroup =>
    have hrules := h.rel_property? "SecurityGroupIngress"
    have hrulesNamed : ∀ value, r.property? "SecurityGroupIngress" = some value →
        value.WellNamed := by
      intro value hvalue
      exact hnamed _ value (Table.get?_eq_some_iff.mp hvalue)
    simp only [practiceFindingsOf]
    generalize r.property? "SecurityGroupIngress" = value,
      r'.property? "SecurityGroupIngress" = value' at hrules hrulesNamed
    cases hrules with
    | none => rfl
    | some hrel =>
      congr 1
      exact hrel.filterMap_exposure?_eq (hrulesNamed _ rfl)
  | _ => rfl

lemma practiceFindings_eq (h : Reordered r r') (hnamed : r.WellNamed) (id : String) :
    practiceFindings id r = practiceFindings id r' := by
  have hwhole : PropertyValue.Reordered (.map r.properties.entries) (.map r'.properties.entries) :=
    PropertyValue.Reordered.map_iff.mpr ⟨_, rfl, h.properties⟩
  have hwholeNamed : (PropertyValue.map r.properties.entries).WellNamed :=
    PropertyValue.wellNamed_map_iff.mpr ⟨r.properties.distinct, hnamed⟩
  unfold practiceFindings
  rw [← h.typeName, hwhole.exposure?_eq hwholeNamed]
  simp only [h.practiceFindingsOf_eq hnamed]

end Resource.Reordered

end CloudTemplate
