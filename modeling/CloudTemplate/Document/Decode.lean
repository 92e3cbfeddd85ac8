import CloudTemplate.Document.Failure

/-!
# Reading typed values from an outline

A typed value is read from the outline of a document, and the first fault from left to right refuses
the document.  Scalars, lists and tables are read by the functions `Outline.as…`; a record with
named fields is described by a `Record` and read by `Record.read`, either from an object or from a
list of its fields in the order of their declaration.

The same readers serve documents in text and values in memory.  They differ in two places, which
take the `Form` of the document: a record given as a list that is too long, and a tag given as an
object.
-/

namespace CloudTemplate

/-- How a document is given. -/
inductive Form where
  /-- As text, whose faults are placed. -/
  | text
  /-- As a value in memory. -/
  | value
deriving DecidableEq

/-- A number as a find. -/
def Found.ofNumber : Number → Found
  | .whole n _ => .integer n
  | .real x => .real x

namespace Outline

/-- The offset at which a part starts. -/
def start : Outline → Nat
  | .null start _ | .bool start _ _ | .number start _ _ | .text start _ _ | .array start _ _
  | .object start _ _ | .broken start _ _ => start

/-- The failure of a part where something else was expected.  Scalars are read first, and what is
wrong with them comes before their being out of place; of lists and maps the bracket is seen. -/
def refuse (expected : String) : Outline → Failure
  | .null _ stop => ⟨.wrongType .null expected, some stop⟩
  | .bool _ stop value => ⟨.wrongType (.bool value) expected, some stop⟩
  | .number _ stop (.ok value) => ⟨.wrongType (.ofNumber value) expected, some stop⟩
  | .number _ _ (.error problem) => .ofProblem problem
  | .text _ stop (.ok value) => ⟨.wrongType (.text value) expected, some stop⟩
  | .text _ _ (.error problem) => .ofProblem problem
  | .array start _ _ => ⟨.wrongType .list expected, some start⟩
  | .object start _ _ => ⟨.wrongType .map expected, some start⟩
  | .broken _ _ stop => .ofProblem stop.strict

/-- The failure at a bracket inside too many others. -/
def tooDeep (start : Nat) : Failure := ⟨.malformed .recursionLimit, some (start + 1)⟩

/-! ## Scalars, lists and tables -/

/-- A part as a plain value. -/
def asJson (o : Outline) : Except Failure Json :=
  match o.value with
  | .ok j => .ok j
  | .error problem => .error (.ofProblem problem)

/-- A part as text. -/
def asText : Outline → Except Failure String
  | .text _ _ (.ok value) => .ok value
  | o => .error (o.refuse "a string")

/-- A part as a truth value. -/
def asBool : Outline → Except Failure Bool
  | .bool _ _ value => .ok value
  | o => .error (o.refuse "a boolean")

/-- A part as a natural number. -/
def asCount : Outline → Except Failure Nat
  | .number _ stop (.ok (.whole n _)) =>
    if 0 ≤ n then .ok n.toNat else .error ⟨.wrongValue (.integer n) "usize", some stop⟩
  | o => .error (o.refuse "usize")

/-- A part that may be null. -/
def asOptional {α : Type} (read : Outline → Except Failure α) : Outline → Except Failure (Option α)
  | .null _ _ => .ok none
  | o => (read o).map some

/-- One name, or a list of names. -/
def asNames (o : Outline) : Except Failure (List String) :=
  match o.asJson with
  | .error failure => .error failure
  | .ok (.string name) => .ok [name]
  | .ok (.array items) =>
    match items.mapM fun | .string name => some name | _ => none with
    | some names => .ok names
    | none => .error ⟨.neitherOneNorMany, none⟩
  | .ok _ => .error ⟨.neitherOneNorMany, none⟩

end Outline

/-- The items of an array, each read by `read`. -/
def OutlineItems.readAll {α : Type} (read : Outline → Except Failure α) :
    OutlineItems → Except Failure (List α)
  | .close _ => .ok []
  | .item value _ more =>
    match read value with
    | .error failure => .error failure
    | .ok first => (more.readAll read).map (first :: ·)
  | .stuck stop => .error (.ofProblem stop.strict)

/-- The members of an object, each read by `read` and put behind those that are done. -/
def OutlineMembers.readAll {α : Type} (read : Outline → Except Failure α) (done : Table α) :
    OutlineMembers → Except Failure (Table α)
  | .close _ => .ok done
  | .member key _ value _ more =>
    match key with
    | .error problem => .error (.ofProblem problem)
    | .ok key =>
      match read value with
      | .error failure => .error failure
      | .ok value => more.readAll read (done.insert key value)
  | .unvalued key _ _ stop =>
    match key with
    | .error problem => .error (.ofProblem problem)
    | .ok _ => .error (.ofProblem stop.strict)
  | .stuck stop => .error (.ofProblem stop.strict)

namespace Outline

/-- A part as a list. -/
def asList {α : Type} (read : Outline → Except Failure α) : Outline → Except Failure (List α)
  | .array start depth items =>
    if depth < levelLimit then items.readAll read else .error (tooDeep start)
  | o => .error (o.refuse "a sequence")

/-- A part as a table. -/
def asTable {α : Type} (read : Outline → Except Failure α) : Outline → Except Failure (Table α)
  | .object start depth members =>
    if depth < levelLimit then members.readAll read .empty else .error (tooDeep start)
  | o => .error (o.refuse "a map")

/-! ## Tags -/

/-- A tag written as an object with the tag for its name and null for its value. -/
def tagOfMembers (form : Form) (start : Nat) (members : OutlineMembers) : Except Failure String :=
  let alone : Bool := match members with
    | .member _ _ _ _ (.close _) => true
    | _ => false
  if form = .value ∧ !alone then
    .error ⟨.wrongValue .map "map with a single key", some start⟩
  else match members with
    | .close stop => .error ⟨.malformed .expectedValue, some stop⟩
    | .stuck stop => .error (.ofProblem stop.strict)
    | .unvalued (.error problem) _ _ _ => .error (.ofProblem problem)
    | .unvalued (.ok _) _ _ stop => .error (.ofProblem stop.strict)
    | .member (.error problem) _ _ _ _ => .error (.ofProblem problem)
    | .member (.ok tag) _ (.null _ _) next more =>
      match more with
      | .close _ => .ok tag
      | .stuck stop =>
        if stop.strict.error = .eofInObject then .error (.ofProblem stop.strict)
        else .error ⟨.malformed .expectedValue, some next⟩
      | _ => .error ⟨.malformed .expectedValue, some next⟩
    | .member (.ok _) _ value _ _ => .error (value.refuse "unit")

/-- A part as one of a set of tags, whose members are told apart later. -/
def asTag (form : Form) : Outline → Except Failure String
  | .text _ _ (.ok tag) => .ok tag
  | .text _ _ (.error problem) => .error (.ofProblem problem)
  | .object start depth members =>
    if depth < levelLimit then tagOfMembers form start members else .error (tooDeep start)
  | .broken _ .quote stop | .broken _ .nothing stop => .error (.ofProblem stop.strict)
  | o =>
    match form with
    | .text => .error ⟨.malformed .expectedValue, some (o.start + 1)⟩
    | .value => .error (o.refuse "string or map")

end Outline

/-! ## Records -/

/-- A field of a record that is read into a value of type `σ`. -/
structure Field (σ : Type) where
  /-- The name of the field in documents. -/
  name : String
  /-- Whether a document must have the field. -/
  required : Bool
  /-- Reads the field into the record. -/
  store : σ → Outline → Except Failure σ

/-- A record with named fields. -/
structure Record (σ : Type) where
  /-- What a document is said to lack when it holds something else. -/
  title : String
  /-- The fields in the order of their declaration, the required ones first. -/
  fields : List (Field σ)
  /-- The record before any field is read; fields that a document may omit have their defaults. -/
  blank : σ

/-- The offset at which an object is left after a member, which is after its closing bracket if that
comes next. -/
def OutlineMembers.leftAt (next : Nat) : OutlineMembers → Nat
  | .close stop => stop
  | _ => next

/-- The offset at which an array is left after an item: after its closing bracket if that comes
next, and else after a comma and its blanks. -/
def OutlineItems.leftAt (next : Nat) : OutlineItems → Nat
  | .close stop => stop
  | .item value _ _ => value.start
  | .stuck stop =>
    match stop.strict.error with
    | .trailingComma => stop.strict.offset - 1
    | .eofInValue => stop.strict.offset
    | _ => next

/-- How many items an array has. -/
def OutlineItems.count : OutlineItems → Nat
  | .item _ _ more => more.count + 1
  | _ => 0

/-- What is wrong with the end of an array of which `count` items were wanted, if anything. -/
def OutlineItems.excess (form : Form) (count : Nat) : OutlineItems → Option Failure
  | .close _ => none
  | .item value _ more =>
    match form with
    | .text => some ⟨.malformed .trailingCharacters, some (value.start + 1)⟩
    | .value => some ⟨.wrongLength (count + 1 + more.count) "fewer elements in array", none⟩
  | .stuck stop =>
    match stop.strict.error with
    | .expectedListEnd | .eofInValue =>
      some ⟨.malformed .trailingCharacters, some stop.strict.offset⟩
    | _ => some (.ofProblem stop.strict)

namespace Record

variable {σ : Type}

/-- The field with a name. -/
def field? (r : Record σ) (name : String) : Option (Field σ) :=
  r.fields.find? fun field => field.name == name

/-- The first field that a document must have and that is not among those given. -/
def missing? (r : Record σ) (given : List String) : Option (Field σ) :=
  r.fields.find? fun field => field.required && !given.contains field.name

/-- Reads the members of an object.  `given` holds the names of the fields that have been read. -/
def readMembers (r : Record σ) (state : σ) (given : List String) :
    OutlineMembers → Except Failure σ
  | .close stop =>
    match r.missing? given with
    | some field => .error ⟨.missingField field.name, some stop⟩
    | none => .ok state
  | .member key afterKey value next more =>
    match key with
    | .error problem => .error (.ofProblem problem)
    | .ok key =>
      match r.field? key with
      | some field =>
        if given.contains key then .error ⟨.duplicateField key, some afterKey⟩
        else match field.store state value with
          | .error failure => .error (failure.placedAt (more.leftAt next))
          | .ok state => r.readMembers state (key :: given) more
      | none =>
        match value.skim with
        | some problem => .error (.ofProblem problem)
        | none => r.readMembers state given more
  | .unvalued key afterKey closes stop =>
    match key with
    | .error problem => .error (.ofProblem problem)
    | .ok key =>
      if (r.field? key).isSome && given.contains key then
        .error ⟨.duplicateField key, some (if closes then afterKey + 1 else afterKey)⟩
      else .error (.ofProblem stop.strict)
  | .stuck stop => .error (.ofProblem stop.strict)

/-- Reads the fields that are left from the items of an array, `count` items after its start. -/
def readItems (r : Record σ) (form : Form) (state : σ) (count : Nat) :
    List (Field σ) → OutlineItems → Except Failure σ
  | [], items =>
    match items.excess form count with
    | some failure => .error failure
    | none => .ok state
  | field :: fields, .close stop =>
    if (field :: fields).any Field.required then
      .error ⟨.wrongLength count (r.title ++ " with " ++ toString r.fields.length ++ " elements"),
        some stop⟩
    else .ok state
  | field :: fields, .item value next more =>
    match field.store state value with
    | .error failure => .error (failure.placedAt (more.leftAt next))
    | .ok state => r.readItems form state (count + 1) fields more
  | _ :: _, .stuck stop => .error (.ofProblem stop.strict)

/-- Reads a record. -/
def read (r : Record σ) (form : Form) : Outline → Except Failure σ
  | .object start depth members =>
    if depth < levelLimit then r.readMembers r.blank [] members else .error (Outline.tooDeep start)
  | .array start depth items =>
    if depth < levelLimit then r.readItems form r.blank 0 r.fields items
    else .error (Outline.tooDeep start)
  | o => .error (o.refuse r.title)

end Record

/-! ## Documents -/

/-- Reads a document from text.  A fault is reported with its line and column. -/
def readText {α : Type} (read : Outline → Except Failure α) (text : String) : Except ReadError α :=
  let located (failure : Failure) : ReadError :=
    ⟨failure.cause, failure.offset.map (positionOf text)⟩
  let (root, after) := Outline.ofText text
  match read root with
  | .error failure => .error (located failure)
  | .ok value =>
    match after with
    | some problem => .error (located (.ofProblem problem))
    | none => .ok value

/-- Reads a document from a value in memory. -/
def readValue {α : Type} (read : Outline → Except Failure α) (j : Json) : Except ReadError α :=
  match read (Outline.ofJson j) with
  | .error failure => .error ⟨failure.cause, none⟩
  | .ok value => .ok value

/-- A document before it is read. -/
inductive Source where
  /-- The document as text. -/
  | text (content : String)
  /-- The document as a value in memory. -/
  | value (content : Json)

/-- Reads a plain JSON document from text. -/
def Json.ofText (text : String) : Except ReadError Json := readText Outline.asJson text

end CloudTemplate
