/-!
# ASCII characters

Names of things in a template are ruled by ASCII: the classes here hold of ASCII characters alone,
and comparing without regard to case folds the letters from `A` to `Z` and no others.
-/

namespace CloudTemplate

/-- One of the ten ASCII digits. -/
def isDigit (c : Char) : Bool := '0' ≤ c && c ≤ '9'

/-- One of the small ASCII letters. -/
def isSmallLetter (c : Char) : Bool := 'a' ≤ c && c ≤ 'z'

/-- One of the ASCII letters. -/
def isLetter (c : Char) : Bool := isSmallLetter c || ('A' ≤ c && c ≤ 'Z')

/-- The hexadecimal digits of a number, with small letters and without leading zeros. -/
def hexDigits (n : Nat) : List Char := Nat.toDigits 16 n

/-- A text with its ASCII letters made small. -/
def asciiLower (text : String) : String := String.ofList (text.toList.map Char.toLower)

/-- Whether a text begins with another. -/
def beginsWith (text lead : String) : Bool := lead.toList.isPrefixOf text.toList

/-- Whether a text ends with another. -/
def endsWith (text tail : String) : Bool := tail.toList.isSuffixOf text.toList

/-- The parts of a text before and after the first occurrence of a character. -/
def splitAtFirst (separator : Char) (text : List Char) : Option (List Char × List Char) :=
  match text.dropWhile (· != separator) with
  | [] => none
  | _ :: after => some (text.takeWhile (· != separator), after)

/-- The parts of a text between the occurrences of a character; always one more than those. -/
def splitAll (separator : Char) : List Char → List (List Char)
  | [] => [[]]
  | c :: rest =>
    if c = separator then [] :: splitAll separator rest
    else match splitAll separator rest with
      | [] => [[c]]
      | first :: more => (c :: first) :: more

end CloudTemplate
