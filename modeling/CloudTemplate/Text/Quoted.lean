import CloudTemplate.Text.Ascii
import CloudTemplate.Text.Blank
import CloudTemplate.Text.Hidden

/-!
# Quoted texts in messages

A message that shows a text from a document puts it between double quotes, with a backslash before
each quote and backslash, short names for the four commonest controls, and the number of every other
character that cannot be seen (`Text/Hidden`).
-/

namespace CloudTemplate

/-- One character of a quoted text. -/
def quoteChar (c : Char) : List Char :=
  match c with
  | '"' => ['\\', '"']
  | '\\' => ['\\', '\\']
  | '\n' => ['\\', 'n']
  | '\r' => ['\\', 'r']
  | '\t' => ['\\', 't']
  | '\x00' => ['\\', '0']
  | c => if inRanges hiddenRanges c.toNat then
      ['\\', 'u', '\x7b'] ++ hexDigits c.toNat ++ ['\x7d']
    else [c]

/-- A text between double quotes, with everything in it made visible. -/
def quoted (text : String) : String :=
  String.ofList ('"' :: text.toList.flatMap quoteChar ++ ['"'])

end CloudTemplate
