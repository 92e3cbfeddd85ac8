import CloudTemplate.Proofs.Generation.Latest
import CloudTemplate.Proofs.Template.Resource
import CloudTemplate.Proofs.Value.Whole

/-!
# Numbers moved into bounds

Eight attributes are numbers that the generator moves into bounds of the catalog
(`NodeKind.boundedAttributes`).  Where an attribute is read as a whole number by validation, the
number that a template shows for it is that number moved into the bounds, unless the attribute is a
text that the generator does not read.  Then it is the default for an absent attribute, however the
bounds lie (`generate_bounded`).
-/

namespace CloudTemplate

open Resource

/-- An attribute whose number is moved into bounds. -/
structure BoundedAttribute where
  key : String
  bounds : Bounds
  /-- The number for an absent attribute. -/
  default : Int
  /-- Where a resource shows the number. -/
  shown : Resource → Option PropertyValue
  /-- How the number is written. -/
  written : Int → PropertyValue

namespace BoundedAttribute

/-- An attribute that is shown by a property of its own. -/
def ofProperty (key property : String) (bounds : Bounds) (default : Int)
    (written : Int → PropertyValue) : BoundedAttribute :=
  ⟨key, bounds, default, (·.property? property), written⟩

/-- A capacity of a table. -/
def capacity (key units : String) : BoundedAttribute :=
  ⟨key, .tableCapacity, Defaults.tableCapacity,
    fun r => (r.property? "ProvisionedThroughput").bind (·.get? units), .ofInt⟩

end BoundedAttribute

/-- The attributes of a kind whose numbers are moved into bounds. -/
def NodeKind.boundedAttributes : NodeKind → List BoundedAttribute
  | .lambda => [
    .ofProperty "memorySize" "MemorySize" .functionMemory Defaults.functionMemory .ofInt,
    .ofProperty "timeout" "Timeout" .functionTimeout Defaults.functionTimeout .ofInt]
  | .rds => [
    .ofProperty "allocatedStorage" "AllocatedStorage" .databaseStorage Defaults.databaseStorage
      fun n => .string (toString n),
    .ofProperty "backupRetentionPeriod" "BackupRetentionPeriod" .backupRetention
      Defaults.backupRetention .ofInt]
  | .dynamodb => [.capacity "readCapacity" "ReadCapacityUnits",
    .capacity "writeCapacity" "WriteCapacityUnits"]
  | .sqs => [
    .ofProperty "visibilityTimeout" "VisibilityTimeout" .visibilityTimeout
      Defaults.visibilityTimeout .ofInt,
    .ofProperty "messageRetentionPeriod" "MessageRetentionPeriod" .messageRetention
      Defaults.messageRetention .ofInt]
  | _ => []

/-- The defaults lie within the bounds, and these have at most 53 bits. -/
lemma BoundedAttribute.exact_and_admits {kind : NodeKind} :
    ∀ a ∈ kind.boundedAttributes, a.bounds.Exact ∧ a.bounds.Admits a.default := by
  unfold Bounds.Admits
  cases kind <;> decide

namespace Node

variable {n : Node} {key : String} {b : Bounds} {s : Surroundings} {roleId : String} {r : Resource}

/-- A resource shows the number of its node. -/
lemma shown_of_mem_boundedAttributes (hr : n.resource? s roleId = some r)
    (hmode : n.kind = .dynamodb → n.text? "billingMode" = some "PROVISIONED") :
    ∀ a ∈ n.kind.boundedAttributes,
      a.shown r = some (a.written (n.bounded a.key a.bounds a.default)) := by
  unfold resource? at hr
  cases hkind : n.kind <;> rw [hkind] at hr
  case lambda =>
    obtain rfl := Option.some.inj hr
    simp [NodeKind.boundedAttributes, BoundedAttribute.ofProperty, functionResource, property?_set,
      property?_set?, property?_underRole]
  case rds =>
    obtain rfl := Option.some.inj hr
    simp [NodeKind.boundedAttributes, BoundedAttribute.ofProperty, databaseResource, property?_set,
      property?_set?, property?_inGroups]
  case dynamodb =>
    obtain rfl := Option.some.inj hr
    simp [NodeKind.boundedAttributes, BoundedAttribute.capacity, tableResource, property?_set,
      property?_setIf, hmode hkind]
    exact ⟨rfl, rfl⟩
  case sqs =>
    obtain rfl := Option.some.inj hr
    simp [NodeKind.boundedAttributes, BoundedAttribute.ofProperty, queueResource, property?_set,
      property?_setIf]
  all_goals exact fun _ h => absurd h List.not_mem_nil

/-- The number of a node whose attribute is read as a whole number by validation. -/
lemma bounded_eq_ite (hb : b.Exact) {default : Int} (hdefault : b.Admits default)
    {v : PropertyValue} (hv : n.attribute? key = some v) {x : Int} (hx : v.asWhole? = some x) :
    n.bounded key b default =
      if v.asInt64?.isSome then max b.least (min b.greatest x) else default := by
  rw [bounded, number?, hv, Option.bind_some]
  cases hy : v.asInt64? with
  | some y =>
    -- The two readings differ at most where both lie beyond the same bound.
    have hsame : b.clamp y = b.clamp x := hb.clamp_eq_of_readings hx hy
    have hle := hb.1
    rw [Option.getD_some, hsame, Bounds.clamp, if_pos Option.isSome_some]
    omega
  | none =>
    obtain ⟨hleast, hgreatest⟩ := hdefault
    rw [Option.getD_none, Bounds.clamp, if_neg (by simp)]
    omega

end Node

/-- A bounded attribute of a node that validation reads as a whole number, where the resource of
the node is not replaced by that of a later one.  The template shows that number, moved into the
bounds, if the generator reads the attribute as well, and the default for an absent attribute
otherwise.  The generator reads every JSON number, and of the texts those that are a sign or none
and digits and write a 64-bit integer. -/
theorem generate_bounded (before after : List Node) (n : Node)
    (hlast : ∀ m ∈ after, m.kind ≠ .unsupported → m.id ≠ n.id) (a : BoundedAttribute)
    (ha : a ∈ n.kind.boundedAttributes)
    (hmode : n.kind = .dynamodb → n.text? "billingMode" = some "PROVISIONED") (v : PropertyValue)
    (hv : n.attribute? a.key = some v) (x : Int) (hx : v.asWhole? = some x) (edges : List Edge)
    (name : String) (description : Option String) :
    (∃ r, (generate (before ++ n :: after) edges name description).resources.get? n.id = some r ∧
      a.shown r = some (a.written (if v.asInt64?.isSome then
        max a.bounds.least (min a.bounds.greatest x) else a.default))) ∧
    (v.asInt64?.isSome = true ↔ (∃ number, v = .number number) ∨
      ∃ text i, v = .string text ∧ WritesInt64 (trimBlanks text.toList) i) := by
  have hkind : n.kind ≠ .unsupported := by
    intro hkind
    rw [hkind] at ha
    exact List.not_mem_nil ha
  obtain ⟨roleId, r, hr, hget⟩ :=
    exists_get?_generate_of_last before after n hkind hlast edges name description
  obtain ⟨hexact, hdefault⟩ := BoundedAttribute.exact_and_admits a ha
  refine ⟨⟨r, hget, ?_⟩, isSome_asInt64?_iff⟩
  rw [Node.shown_of_mem_boundedAttributes hr hmode a ha,
    Node.bounded_eq_ite hexact hdefault hv hx]

/-- A function whose memory and time are drawn as texts. -/
def textFunction : Node :=
  ⟨"Fn", .lambda,
    (Table.empty.insert "memorySize" (.string "20000")).insert "timeout" (.string "9e2")⟩

/-- The memory is moved to the greatest that there is.  The time has an exponent and is not read,
though it lies within the bounds. -/
theorem generate_bounded_textFunction :
    (PropertyValue.string "20000").asWhole? = some 20000 ∧
      (PropertyValue.string "9e2").asWhole? = some 900 ∧
      (∃ r, (generate [textFunction] [] "Shop" none).resources.get? "Fn" = some r ∧
        r.property? "MemorySize" = some (.ofInt 10240)) ∧
      ∃ r, (generate [textFunction] [] "Shop" none).resources.get? "Fn" = some r ∧
        r.property? "Timeout" = some (.ofInt 3) := by
  have hmemory : (PropertyValue.string "20000").asWhole? = some 20000 := by decide +kernel
  have htime : (PropertyValue.string "9e2").asWhole? = some 900 := by decide +kernel
  obtain ⟨hshown, -⟩ := generate_bounded [] [] textFunction nofun
    (.ofProperty "memorySize" "MemorySize" .functionMemory Defaults.functionMemory .ofInt)
    (.head _) nofun (.string "20000") (by decide) 20000 hmemory [] "Shop" none
  obtain ⟨hshown', -⟩ := generate_bounded [] [] textFunction nofun
    (.ofProperty "timeout" "Timeout" .functionTimeout Defaults.functionTimeout .ofInt)
    (.tail _ (.head _)) nofun (.string "9e2") (by decide) 900 htime [] "Shop" none
  exact ⟨hmemory, htime, hshown, hshown'⟩

/-- The time of the function is read as 900 by validation, and the template shows the default. -/
theorem generate_textFunction_ne_clamp :
    textFunction.attribute? "timeout" = some (.string "9e2") ∧
      (PropertyValue.string "9e2").asWhole? = some 900 ∧
      ((generate [textFunction] [] "Shop" none).resources.get? "Fn").bind
        (·.property? "Timeout") = some (.ofInt Defaults.functionTimeout) ∧
      PropertyValue.ofInt Defaults.functionTimeout ≠
        .ofInt (max Bounds.functionTimeout.least (min Bounds.functionTimeout.greatest 900)) := by
  decide +kernel

end CloudTemplate
