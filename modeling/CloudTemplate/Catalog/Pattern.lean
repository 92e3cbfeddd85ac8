import CloudTemplate.Number.Numeral
import CloudTemplate.Text.DecimalDigit

/-!
# The shapes of texts in properties

Address blocks, names of buckets, types of machines and names of topics have a prescribed shape.
Each is a test on the characters of a text.  The shape of an address admits the digits of every
script; whether its numbers are in range is asked of the ASCII digits alone.
-/

namespace CloudTemplate

/-- Four groups of one to three digits with dots between them. -/
def isDottedQuad (text : List Char) : Bool :=
  let groups := splitAll '.' text
  groups.length == 4 &&
    groups.all fun group => 1 ≤ group.length && group.length ≤ 3 && group.all isDecimalDigit

/-- The address and the length of the mask of a text with the shape of an address block: four groups
of digits, a slash, and one or two digits. -/
def addressBlock? (text : List Char) : Option (List Char × List Char) :=
  match splitAtFirst '/' text with
  | some (address, mask) =>
    if isDottedQuad address && 1 ≤ mask.length && mask.length ≤ 2 && mask.all isDecimalDigit then
      some (address, mask)
    else none
  | none => none

/-- A row of ASCII digits whose number is at most `limit`. -/
def isNumberUpTo (limit : Nat) (text : List Char) : Bool :=
  text.all isDigit && digitsValue text ≤ limit

/-- A small letter or a digit. -/
def isNameEnd (c : Char) : Bool := isSmallLetter c || isDigit c

/-- Whether a text has at least two characters, all of them small letters, digits, dots and hyphens,
and begins and ends with a letter or digit. -/
def isBucketShape : List Char → Bool
  | first :: second :: more =>
    isNameEnd first && (second :: more).all (fun c => isNameEnd c || c == '.' || c == '-') &&
      (match (second :: more).getLast? with
        | some last => isNameEnd last
        | none => false)
  | _ => false

/-- Whether two dots stand side by side. -/
def hasAdjacentDots : List Char → Bool
  | '.' :: '.' :: _ => true
  | _ :: rest => hasAdjacentDots rest
  | [] => false

/-- A family, a dot and a size: the family begins with a small letter and goes on with small
letters, digits and hyphens; the size has small letters and digits. -/
def isMachineTypeShape (text : List Char) : Bool :=
  match splitAtFirst '.' text with
  | some (first :: family, size) =>
    isSmallLetter first && family.all (fun c => isNameEnd c || c == '-') &&
      !size.isEmpty && size.all isNameEnd
  | _ => false

/-- A character in the name of a topic. -/
def isTopicCharacter (c : Char) : Bool := isLetter c || isDigit c || c == '_' || c == '-'

/-- One to 256 letters, digits, underscores and hyphens, and behind them `.fifo` or nothing. -/
def isTopicShape (text : List Char) : Bool :=
  let name := text.takeWhile isTopicCharacter
  let tail := text.dropWhile isTopicCharacter
  1 ≤ name.length && name.length ≤ 256 && (tail.isEmpty || tail == ".fifo".toList)

/-- A letter, and then letters and digits. -/
def isLogicalIdShape : List Char → Bool
  | first :: more => isLetter first && more.all fun c => isLetter c || isDigit c
  | [] => false

end CloudTemplate
