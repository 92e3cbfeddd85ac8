import CloudTemplate.Json.Basic

/-!
# Writing JSON

One writer serves both written forms.  A `Style` says what stands before an item or a closing
bracket at a given level and what follows a colon: nothing at all in the compact style, a new line
with two blanks for each level and one blank in the pretty style.  Empty arrays and objects are two
brackets in either style.

The items after the first are written by functions of their own that begin with the comma and end
with the closing bracket, so that a written value is read back by one pass from left to right.
-/

namespace CloudTemplate

/-- A character inside a written text: quotes, backslashes and controls are escaped, everything
else stands for itself. -/
def escapeChar (c : Char) : List Char :=
  match c with
  | '"' => ['\\', '"']
  | '\\' => ['\\', '\\']
  | '\x08' => ['\\', 'b']
  | '\t' => ['\\', 't']
  | '\n' => ['\\', 'n']
  | '\x0c' => ['\\', 'f']
  | '\r' => ['\\', 'r']
  | c =>
    if c.toNat < 0x20 then
      ['\\', 'u', '0', '0', Nat.digitChar (c.toNat / 16), Nat.digitChar (c.toNat % 16)]
    else [c]

/-- A text between quotes. -/
def writeText (text : String) : List Char :=
  '"' :: text.toList.flatMap escapeChar ++ ['"']

/-- What separates the parts of a written value. -/
structure Style where
  /-- What stands before an item, or before a closing bracket, of a given level. -/
  newline : Nat → List Char
  /-- What stands between a colon and a value. -/
  afterColon : List Char

namespace Style

/-- No separation at all. -/
def compact : Style := ⟨fun _ => [], []⟩

/-- One line for each item, indented by two blanks a level. -/
def pretty : Style := ⟨fun level => '\n' :: List.replicate (2 * level) ' ', [' ']⟩

end Style

namespace Json

mutual

/-- A value, whose closing bracket stands at the given level. -/
def write (style : Style) (level : Nat) : Json → List Char
  | .null => ['n', 'u', 'l', 'l']
  | .bool true => ['t', 'r', 'u', 'e']
  | .bool false => ['f', 'a', 'l', 's', 'e']
  | .number n => n.text
  | .string s => writeText s
  | .array [] => ['[', ']']
  | .array (item :: more) =>
    '[' :: (style.newline (level + 1) ++ item.write style (level + 1) ++
      writeItems style level more)
  | .object [] => ['\x7b', '\x7d']
  | .object ((key, value) :: more) =>
    '\x7b' :: (style.newline (level + 1) ++ writeText key ++ ':' :: style.afterColon ++
      value.write style (level + 1) ++ writeEntries style level more)

/-- The items after the first, and the closing bracket. -/
def writeItems (style : Style) (level : Nat) : List Json → List Char
  | [] => style.newline level ++ [']']
  | item :: more =>
    ',' :: (style.newline (level + 1) ++ item.write style (level + 1) ++
      writeItems style level more)

/-- The entries after the first, and the closing bracket. -/
def writeEntries (style : Style) (level : Nat) : List (String × Json) → List Char
  | [] => style.newline level ++ ['\x7d']
  | (key, value) :: more =>
    ',' :: (style.newline (level + 1) ++ writeText key ++ ':' :: style.afterColon ++
      value.write style (level + 1) ++ writeEntries style level more)

end

/-- The text of a value without any blanks. -/
def compact (j : Json) : String := String.ofList (j.write .compact 0)

/-- The text of a value on indented lines. -/
def pretty (j : Json) : String := String.ofList (j.write .pretty 0)

end Json

end CloudTemplate
