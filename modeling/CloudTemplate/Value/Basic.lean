import CloudTemplate.Json.Basic
import CloudTemplate.Number.Numeral

/-!
# Property values

The properties of a resource and the attributes of a node hold JSON in which two shapes mean more
than themselves: an object with the one name `Ref` and a text names another resource, and an object
with the one name `Fn::GetAtt` names an attribute of one.  `PropertyValue` has a constructor for
each, so that no later stage looks for them in objects.

`PropertyValue.ofJson` recognises the two shapes at every depth, and `PropertyValue.toJson` writes
them back.  Everything that misses a shape by a little, such as a reference beside another name,
stays a plain map.  The other functions of the deployment (`Fn::Sub` and its kin) are maps with one
name.
-/

namespace CloudTemplate

/-- A value of a property or an attribute. -/
inductive PropertyValue where
  | null
  | bool (value : Bool)
  | number (value : Number)
  | string (value : String)
  | list (items : List PropertyValue)
  | map (entries : List (String × PropertyValue))
  /-- The resource or parameter with that name. -/
  | ref (target : String)
  /-- An attribute of the resource with that name. -/
  | getAtt (target attributeName : String)
deriving Inhabited

/-- The name that marks a reference. -/
def refKey : String := "Ref"

/-- The name that marks an attribute of a resource. -/
def getAttKey : String := "Fn::GetAtt"

/-- The name that marks a text with placeholders. -/
def subKey : String := "Fn::Sub"

/-- What the names of all deployment functions begin with. -/
def functionLead : String := "Fn::"

namespace PropertyValue

/-! ## Equality -/

mutual

/-- Whether two values are the same, entries in the same order. -/
def same : PropertyValue → PropertyValue → Bool
  | .null, .null => true
  | .bool a, .bool b => a == b
  | .number a, .number b => a == b
  | .string a, .string b => a == b
  | .list a, .list b => sameItems a b
  | .map a, .map b => sameEntries a b
  | .ref a, .ref b => a == b
  | .getAtt a x, .getAtt b y => a == b && x == y
  | _, _ => false

/-- Whether two lists of values are the same. -/
def sameItems : List PropertyValue → List PropertyValue → Bool
  | [], [] => true
  | a :: as, b :: bs => a.same b && sameItems as bs
  | _, _ => false

/-- Whether two lists of entries are the same. -/
def sameEntries : List (String × PropertyValue) → List (String × PropertyValue) → Bool
  | [], [] => true
  | (k, a) :: as, (l, b) :: bs => k == l && a.same b && sameEntries as bs
  | _, _ => false

end

mutual

theorem same_iff_eq : ∀ a b : PropertyValue, a.same b = true ↔ a = b
  | .null, b | .bool _, b | .number _, b | .string _, b | .ref _, b | .getAtt _ _, b => by
    cases b <;> simp [same]
  | .list as, b => by cases b <;> simp [same, sameItems_iff_eq as]
  | .map as, b => by cases b <;> simp [same, sameEntries_iff_eq as]

theorem sameItems_iff_eq : ∀ as bs : List PropertyValue, sameItems as bs = true ↔ as = bs
  | [], bs => by cases bs <;> simp [sameItems]
  | a :: as, bs => by cases bs <;> simp [sameItems, same_iff_eq a, sameItems_iff_eq as]

theorem sameEntries_iff_eq :
    ∀ as bs : List (String × PropertyValue), sameEntries as bs = true ↔ as = bs
  | [], bs => by cases bs <;> simp [sameEntries]
  | (k, a) :: as, bs => by
    rcases bs with _ | ⟨⟨l, b⟩, bs⟩
    · simp [sameEntries]
    · simp [sameEntries, same_iff_eq a, sameEntries_iff_eq as, and_assoc]

end

instance : DecidableEq PropertyValue := fun a b => decidable_of_iff _ (same_iff_eq a b)

/-! ## From and to JSON -/

/-- The argument of an attribute reference: a list of two texts, or a text cut at its first dot. -/
def getAttOf? : Json → Option PropertyValue
  | .array [.string target, .string name] => some (.getAtt target name)
  | .string dotted =>
    (splitAtFirst '.' dotted.toList).map fun (target, name) =>
      .getAtt (String.ofList target) (String.ofList name)
  | _ => none

/-- The reference that an object stands for, if it has one of the two shapes. -/
def intrinsicOf? : List (String × Json) → Option PropertyValue
  | [(key, value)] =>
    if key = refKey then
      match value with
      | .string target => some (.ref target)
      | _ => none
    else if key = getAttKey then getAttOf? value
    else none
  | _ => none

mutual

/-- The property value of a JSON value. -/
def ofJson : Json → PropertyValue
  | .null => .null
  | .bool value => .bool value
  | .number value => .number value
  | .string value => .string value
  | .array items => .list (ofItems items)
  | .object entries => (intrinsicOf? entries).getD (.map (ofEntries entries))

/-- The property value of each item. -/
def ofItems : List Json → List PropertyValue
  | [] => []
  | item :: more => ofJson item :: ofItems more

/-- The entries with the property value of each value. -/
def ofEntries : List (String × Json) → List (String × PropertyValue)
  | [] => []
  | (key, value) :: more => (key, ofJson value) :: ofEntries more

end

mutual

/-- A property value as JSON. -/
def toJson : PropertyValue → Json
  | .null => .null
  | .bool value => .bool value
  | .number value => .number value
  | .string value => .string value
  | .list items => .array (toItems items)
  | .map entries => .object (toEntries entries)
  | .ref target => .object [(refKey, .string target)]
  | .getAtt target name => .object [(getAttKey, Json.strings [target, name])]

/-- Each item as JSON. -/
def toItems : List PropertyValue → List Json
  | [] => []
  | item :: more => item.toJson :: toItems more

/-- The entries with each value as JSON. -/
def toEntries : List (String × PropertyValue) → List (String × Json)
  | [] => []
  | (key, value) :: more => (key, value.toJson) :: toEntries more

end

/-! ## Readings -/

/-- The value as a flag: true, a number other than zero, or the text `true` in any case. -/
def isTruthy : PropertyValue → Bool
  | .bool value => value
  | .number value =>
    match value.toBinary64 with
    | .finite x => x.units != 0
    | _ => true
  | .string value => asciiLower value == "true"
  | _ => false

/-- The value as a text. -/
def asText? : PropertyValue → Option String
  | .string value => some value
  | _ => none

/-- The value as a truth value, which a text may spell in any case. -/
def asBool? : PropertyValue → Option Bool
  | .bool value => some value
  | .string value =>
    if asciiLower value == "true" then some true
    else if asciiLower value == "false" then some false
    else none
  | _ => none

/-- The value as a double, which a text may spell between blanks. -/
def asDouble? : PropertyValue → Option Binary64
  | .number value => some value.toBinary64
  | .string value => Binary64.ofText? (trimBlanks value.toList)
  | _ => none

/-- The value as a signed 64-bit integer, which a text may spell between blanks. -/
def asInt64? : PropertyValue → Option Int
  | .number value => some value.toInt64
  | .string value => int64OfText? (trimBlanks value.toList)
  | _ => none

/-- The value as a list. -/
def asList? : PropertyValue → Option (List PropertyValue)
  | .list items => some items
  | _ => none

/-- The value as a map. -/
def asMap? : PropertyValue → Option (List (String × PropertyValue))
  | .map entries => some entries
  | _ => none

/-- The value under a name of a map. -/
def get? (v : PropertyValue) (key : String) : Option PropertyValue :=
  v.asMap?.bind fun entries => Entries.find? entries key

/-- Whether the value is known only at deployment: a reference, an attribute, or a map with one
name, which is that of a deployment function. -/
def isIntrinsic : PropertyValue → Bool
  | .ref _ => true
  | .getAtt _ _ => true
  | .map [(key, _)] => beginsWith key functionLead
  | _ => false

/-! ## Builders -/

/-- The whole number nearest to `n`. -/
def ofInt (n : Int) : PropertyValue := .number (.ofInt n)

end PropertyValue

end CloudTemplate
