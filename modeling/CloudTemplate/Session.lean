import CloudTemplate.Pipeline

/-!
# Editing sessions

In a session a template is changed step by step and validated after each.  `Edit` lists the steps
and `Session.apply` makes one; it leaves the template alone where the step fails.  What a step has
to say besides is its `Note`.  A session counts its validations, those inside a step as well.
-/

namespace CloudTemplate

/-- A step of a session. -/
inductive Edit where
  /-- Puts an empty resource of a type under an id. -/
  | resource (id typeName : String)
  /-- Sets a property of a resource. -/
  | set (id property : String) (value : PropertyValue)
  /-- Lets a resource depend on another. -/
  | depend (id target : String)
  /-- Removes a resource. -/
  | remove (id : String)
  /-- Puts an output under a name. -/
  | output (name : String) (value : PropertyValue) (description : String)
  /-- Puts a parameter under a name. -/
  | parameter (name : String) (value : Json)
  /-- Sets the format version. -/
  | version (value : String)
  /-- Sets the description. -/
  | description (value : String)
  /-- Replaces the template by another. -/
  | load (template : Source)
  /-- Replaces the template by the draft of a graph. -/
  | draft (graph : Source)
  /-- Replaces the template by the compiled one of a graph. -/
  | compile (graph : Source)
  /-- Validates the text of another template. -/
  | validateText (text : String)
  /-- Compares the template with what is read from its text. -/
  | reparse

/-- What a step has to say. -/
inductive Note where
  | nothing
  | flag (value : Bool)
  | fingerprint (value : String)
  | report (value : Report)
  | noSuchResource
  | unreadableTemplate (error : ReadError)
  | unreadableGraph (error : ReadError)
  | rejected (rejection : Rejection)
  /-- The text written for the template cannot be read again, because it is too deep. -/
  | lostInWriting (error : ReadError)

/-- The state of a session. -/
structure Session where
  policy : Policy
  template : Template
  /-- How many validations there have been. -/
  validations : Nat

/-- A template from either form of a document. -/
def Template.ofSource : Source → Except ReadError Template
  | .text content => Template.ofText content
  | .value content => Template.ofJson content

/-- A graph from either form of a document. -/
def Graph.ofSource : Source → Except ReadError Graph
  | .text content => Graph.ofText content
  | .value content => Graph.ofJson content

namespace Session

/-- A session with an empty template. -/
def start (policy : Policy) (description : String) : Session :=
  ⟨policy, .withDescription description, 0⟩

/-- Changes a resource, if it is there. -/
def change (s : Session) (id : String) (f : Resource → Resource) : Session × Note :=
  match s.template.resources.get? id with
  | some r => ({ s with template := s.template.putResource id (f r) }, .nothing)
  | none => (s, .noSuchResource)

/-- Makes a step. -/
def apply (s : Session) : Edit → Session × Note
  | .resource id typeName =>
    ({ s with template := s.template.putResource id (.ofType typeName) }, .nothing)
  | .set id property value => s.change id (·.set property value)
  | .depend id target => s.change id (·.dependOn target)
  | .remove id =>
    let resources := s.template.resources.erase id
    ({ s with template := { s.template with resources } }, .flag (s.template.resources.contains id))
  | .output name value description =>
    ({ s with template := s.template.putOutput name ⟨value, some description⟩ }, .nothing)
  | .parameter name value =>
    let parameters := s.template.parameters.insert name value
    ({ s with template := { s.template with parameters } }, .nothing)
  | .version formatVersion => ({ s with template := { s.template with formatVersion } }, .nothing)
  | .description description => ({ s with template := { s.template with description } }, .nothing)
  | .load source =>
    match Template.ofSource source with
    | .ok template => ({ s with template }, .nothing)
    | .error e => (s, .unreadableTemplate e)
  | .draft source =>
    match Graph.ofSource source with
    | .error e => (s, .unreadableGraph e)
    | .ok g =>
      let d := CloudTemplate.draft s.policy g
      ({ s with template := d.template, validations := s.validations + 1 }, .flag d.report.valid)
  | .compile source =>
    match Graph.ofSource source with
    | .error e => (s, .unreadableGraph e)
    | .ok g =>
      match CloudTemplate.compile s.policy g with
      | .ok c =>
        ({ s with template := c.template, validations := s.validations + 1 },
          .fingerprint c.templateHash)
      | .error r => ({ s with validations := s.validations + 1 }, .rejected r)
  | .validateText text =>
    let validations := match Template.ofText text with
      | .ok _ => s.validations + 1
      | .error _ => s.validations
    ({ s with validations }, .report (CloudTemplate.validateText s.policy text))
  | .reparse =>
    match Template.ofText s.template.pretty with
    | .ok t => (s, .flag (t == s.template))
    | .error e => (s, .lostInWriting e)

/-- Makes a step and validates the template. -/
def step (s : Session) (e : Edit) : Session × Note × Report :=
  let (s, note) := s.apply e
  let report := validate s.policy s.template
  ({ s with validations := s.validations + 1 }, note, report)

end Session

end CloudTemplate
