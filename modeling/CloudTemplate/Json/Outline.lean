import CloudTemplate.Json.Token

/-!
# Outlines: a document with the places of its parts

A document that is read into a typed value is read from left to right, and the first fault counts,
be it a fault of the text or a value of the wrong kind.  An `Outline` is what is known of the text
for that purpose: the tree of its values as far as the text could be read, with the offset before
and after each part, and with a `Stop` where reading came to an end.

* `Outline.readValue` builds the tree from the tokens.  It always succeeds: faults are leaves.
* `Outline.value` reads a part strictly, as a plain JSON value.
* `Outline.skim` passes over a part and reports only what hides its end.
* `Outline.ofJson` presents a value that is already in memory as an outline without faults.
-/

namespace CloudTemplate

/-- A strict reader enters at most this many brackets inside one another. -/
def levelLimit : Nat := 127

mutual

/-- A value in a text.  Arrays and objects carry the number of brackets around them. -/
inductive Outline where
  | null (start stop : Nat)
  | bool (start stop : Nat) (value : Bool)
  | number (start stop : Nat) (value : Except Problem Number)
  | text (start stop : Nat) (value : Except Problem String)
  | array (start depth : Nat) (items : OutlineItems)
  | object (start depth : Nat) (members : OutlineMembers)
  /-- A place where a value was expected and none could be read. -/
  | broken (start : Nat) (lead : Lead) (stop : Stop)

/-- The items of an array from some point on. -/
inductive OutlineItems where
  /-- The closing bracket, with the offset after it. -/
  | close (stop : Nat)
  /-- An item, with the offset of what comes after it and the blanks behind it. -/
  | item (value : Outline) (next : Nat) (more : OutlineItems)
  /-- Neither an item nor the closing bracket. -/
  | stuck (stop : Stop)

/-- The members of an object from some point on. -/
inductive OutlineMembers where
  /-- The closing bracket, with the offset after it. -/
  | close (stop : Nat)
  /-- A member: its name, the offset after the name and its blanks, the value, and the offset of
  what comes after the value and its blanks. -/
  | member (key : Except Problem String) (afterKey : Nat) (value : Outline) (next : Nat)
      (more : OutlineMembers)
  /-- A name that no colon follows; whether the closing bracket follows instead. -/
  | unvalued (key : Except Problem String) (afterKey : Nat) (closes : Bool) (stop : Stop)
  /-- Neither a name nor the closing bracket. -/
  | stuck (stop : Stop)

end

namespace Outline

/-! ## From tokens to an outline -/

/-- The offset of the next token, or the length of the text. -/
def nextOffset (length : Nat) : List Token → Nat
  | [] => length
  | token :: _ => token.start

/-- The value that a token amounts to by itself.  A mark begins no value. -/
def ofToken : Token → Outline
  | ⟨start, stop, lexeme⟩ =>
    match lexeme with
    | .null => .null start stop
    | .bool value => .bool start stop value
    | .number value => .number start stop value
    | .text value => .text start stop value
    | .broken lead problem => .broken start lead problem
    | _ => .broken start .other (.both .expectedValue (start + 1))

/-- What remains after a part was read, or the place at which reading ended inside it. -/
abbrev Remaining (ts : List Token) := Except Stop { rest : List Token // rest.length < ts.length }

/-- The stop where something else than an item or the end of an array was found. -/
def noItem (length : Nat) (afterComma : Bool) : List Token → Stop
  | [] => .both (if afterComma then .eofInValue else .eofInList) length
  | token :: _ => .both .expectedListEnd (token.start + 1)

/-- The stop where no name of a member was found. -/
def noKey (length : Nat) (afterComma : Bool) : List Token → Stop
  | [] => ⟨⟨if afterComma then .eofInValue else .eofInObject, length⟩, ⟨.eofInObject, length⟩⟩
  | ⟨start, _, lexeme⟩ :: _ =>
    match lexeme with
    | .broken .quote problem => problem
    | .closeObject => ⟨⟨.trailingComma, start + 1⟩, ⟨.keyNotText, start + 1⟩⟩
    | _ => .both .keyNotText (start + 1)

/-- The stop where no colon was found. -/
def noColon (length : Nat) : List Token → Stop
  | [] => .both .eofInObject length
  | token :: _ => .both .expectedColon (token.start + 1)

/-- The stop after a member where the object neither goes on nor ends. -/
def noMemberEnd (length : Nat) : List Token → Stop
  | [] => .both .eofInObject length
  | token :: _ => .both .expectedObjectEnd (token.start + 1)

variable (length : Nat)

mutual

/-- Reads one value. -/
def readValue (depth : Nat) (ts : List Token) : Outline × Remaining ts :=
  match ts with
  | [] =>
    let stop : Stop := .both .eofInValue length
    (.broken length .nothing stop, .error stop)
  | ⟨start, stop, lexeme⟩ :: rest =>
    match lexeme with
    | .openList =>
      let (items, after) := readItems (depth + 1) rest
      (.array start depth items, after.map fun r => ⟨r.1, Nat.lt_succ_of_lt r.2⟩)
    | .openObject =>
      let (members, after) := readMembers (depth + 1) rest
      (.object start depth members, after.map fun r => ⟨r.1, Nat.lt_succ_of_lt r.2⟩)
    | _ =>
      let read := ofToken ⟨start, stop, lexeme⟩
      match read with
      | .broken _ _ problem => (read, .error problem)
      | _ => (read, .ok ⟨rest, Nat.lt_succ_self _⟩)
termination_by 3 * ts.length

/-- Reads the items of an array after its opening bracket. -/
def readItems (depth : Nat) (ts : List Token) : OutlineItems × Remaining ts :=
  match ts with
  | [] => let stop := noItem length false []; (.stuck stop, .error stop)
  | ⟨start, stop, lexeme⟩ :: rest =>
    match lexeme with
    | .closeList => (.close stop, .ok ⟨rest, Nat.lt_succ_self _⟩)
    | _ => readItem depth (⟨start, stop, lexeme⟩ :: rest)
termination_by 3 * ts.length + 2

/-- Reads an item and all that follow it. -/
def readItem (depth : Nat) (ts : List Token) : OutlineItems × Remaining ts :=
  match readValue depth ts with
  | (value, .error stop) => (.item value length (.stuck stop), .error stop)
  | (value, .ok ⟨after, shorter⟩) =>
    let next := nextOffset length after
    match after, shorter with
    | ⟨_, stop, .closeList⟩ :: rest, shorter =>
      (.item value next (.close stop), .ok ⟨rest, Nat.lt_trans (Nat.lt_succ_self _) shorter⟩)
    | ⟨_, _, .comma⟩ :: ⟨start, stop, .closeList⟩ :: _, _ =>
      let stop : Stop := ⟨⟨.trailingComma, start + 1⟩, ⟨.expectedValue, start + 1⟩⟩
      (.item value next (.stuck stop), .error stop)
    | [⟨_, _, .comma⟩], _ =>
      let stop := noItem length true []
      (.item value next (.stuck stop), .error stop)
    | ⟨_, _, .comma⟩ :: rest, shorter =>
      have : rest.length < ts.length := Nat.lt_trans (Nat.lt_succ_self _) shorter
      let (more, after) := readItem depth rest
      (.item value next more, after.map fun r => ⟨r.1, Nat.lt_trans r.2 this⟩)
    | other, _ =>
      let stop := noItem length false other
      (.item value next (.stuck stop), .error stop)
termination_by 3 * ts.length + 1

/-- Reads the members of an object after its opening bracket. -/
def readMembers (depth : Nat) (ts : List Token) : OutlineMembers × Remaining ts :=
  match ts with
  | ⟨_, stop, .closeObject⟩ :: rest => (.close stop, .ok ⟨rest, Nat.lt_succ_self _⟩)
  | ts => readMember depth false ts
termination_by 3 * ts.length + 2

/-- Reads a member and all that follow it. -/
def readMember (depth : Nat) (afterComma : Bool) (ts : List Token) :
    OutlineMembers × Remaining ts :=
  match ts with
  | ⟨_, _, .text key⟩ :: ⟨colon, _, .colon⟩ :: rest =>
    match readValue depth rest with
    | (value, .error stop) => (.member key colon value length (.stuck stop), .error stop)
    | (value, .ok ⟨after, shorter⟩) =>
      let next := nextOffset length after
      match after, shorter with
      | ⟨_, stop, .closeObject⟩ :: left, shorter =>
        (.member key colon value next (.close stop),
          .ok ⟨left, by simp only [List.length_cons] at shorter ⊢; omega⟩)
      | ⟨_, _, .comma⟩ :: left, shorter =>
        have : left.length < rest.length := by simp only [List.length_cons] at shorter; omega
        let (more, after) := readMember depth true left
        (.member key colon value next more,
          after.map fun r => ⟨r.1, by simp only [List.length_cons]; omega⟩)
      | other, _ =>
        let stop := noMemberEnd length other
        (.member key colon value next (.stuck stop), .error stop)
  | ⟨_, _, .text key⟩ :: rest =>
    let stop := noColon length rest
    let closes := match rest with
      | ⟨_, _, .closeObject⟩ :: _ => true
      | _ => false
    (.unvalued key (nextOffset length rest) closes stop, .error stop)
  | other =>
    let stop := noKey length afterComma other
    (.stuck stop, .error stop)
termination_by 3 * ts.length + 1

end

end Outline

mutual

/-- Reads a part strictly, as a plain value. -/
def Outline.value : Outline → Except Problem Json
  | .null .. => .ok .null
  | .bool _ _ value => .ok (.bool value)
  | .number _ _ value => value.map .number
  | .text _ _ value => value.map .string
  | .array start depth items =>
    if depth < levelLimit then items.values.map .array
    else .error ⟨.recursionLimit, start + 1⟩
  | .object start depth members =>
    if depth < levelLimit then (members.entries []).map .object
    else .error ⟨.recursionLimit, start + 1⟩
  | .broken _ _ stop => .error stop.strict

/-- Reads the items of an array. -/
def OutlineItems.values : OutlineItems → Except Problem (List Json)
  | .close _ => .ok []
  | .item value _ more =>
    match value.value with
    | .error problem => .error problem
    | .ok first => more.values.map (first :: ·)
  | .stuck stop => .error stop.strict

/-- Reads the members of an object behind the entries that are done.  A repeated name keeps the
place of its first entry and takes the last value. -/
def OutlineMembers.entries (done : List (String × Json)) :
    OutlineMembers → Except Problem (List (String × Json))
  | .close _ => .ok done
  | .member key _ value _ more =>
    match key with
    | .error problem => .error problem
    | .ok key =>
      match value.value with
      | .error problem => .error problem
      | .ok value => more.entries (Entries.put done key value)
  | .unvalued key _ _ stop =>
    match key with
    | .error problem => .error problem
    | .ok _ => .error stop.strict
  | .stuck stop => .error stop.strict

end

mutual

/-- What hides the end of a part from a reader that only skips it. -/
def Outline.skim : Outline → Option Problem
  | .array _ _ items => items.skim
  | .object _ _ members => members.skim
  | .broken _ _ stop => some stop.skim
  | _ => none

/-- What hides the end of an array. -/
def OutlineItems.skim : OutlineItems → Option Problem
  | .close _ => none
  | .item value _ more => value.skim.or more.skim
  | .stuck stop => some stop.skim

/-- What hides the end of an object. -/
def OutlineMembers.skim : OutlineMembers → Option Problem
  | .close _ => none
  | .member _ _ value _ more => value.skim.or more.skim
  | .unvalued _ _ _ stop => some stop.skim
  | .stuck stop => some stop.skim

end

/-! ## Documents as outlines -/

mutual

/-- A value in memory as an outline.  It has no faults, and all its offsets are zero. -/
def Outline.ofJson : Json → Outline
  | .null => .null 0 0
  | .bool value => .bool 0 0 value
  | .number value => .number 0 0 (.ok value)
  | .string value => .text 0 0 (.ok value)
  | .array items => .array 0 0 (OutlineItems.ofList items)
  | .object entries => .object 0 0 (OutlineMembers.ofList entries)

/-- Items in memory as an outline. -/
def OutlineItems.ofList : List Json → OutlineItems
  | [] => .close 0
  | item :: more => .item (Outline.ofJson item) 0 (OutlineItems.ofList more)

/-- Entries in memory as an outline. -/
def OutlineMembers.ofList : List (String × Json) → OutlineMembers
  | [] => .close 0
  | (key, value) :: more =>
    .member (.ok key) 0 (Outline.ofJson value) 0 (OutlineMembers.ofList more)

end

/-- The outline of the first value in a text, and what a reader has to say after it: that reading
stopped inside the value, or that something else follows it. -/
def Outline.ofText (text : String) : Outline × Option Problem :=
  match readValue text.utf8ByteSize 0 (tokens text) with
  | (root, .ok ⟨[], _⟩) => (root, none)
  | (root, .ok ⟨token :: _, _⟩) => (root, some ⟨.trailingCharacters, token.start + 1⟩)
  | (root, .error stop) => (root, some stop.strict)

end CloudTemplate
