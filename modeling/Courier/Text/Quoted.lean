import Courier.Text.Digits
import Courier.Text.Printable

/-!
# Quoted texts

How texts, lists and numbers are shown to a reader of the log: a text stands between quotation
marks with its unprintable characters escaped, and a list stands in brackets.

* `quoted`: a text between quotation marks.
* `bracketed`: a list of pieces in brackets.
-/

namespace Courier.Text

/-- A character as it is shown between quotation marks. -/
def showChar (c : Char) : List Char :=
  if c = '\x00' then ['\\', '0']
  else if c = '\t' then ['\\', 't']
  else if c = '\r' then ['\\', 'r']
  else if c = '\n' then ['\\', 'n']
  else if c = '\\' then ['\\', '\\']
  else if c = '"' then ['\\', '"']
  else if isPrintable c then [c]
  else
    let width := (Nat.log2 c.toNat) / 4 + 1
    '\\' :: 'u' :: '\x7b' :: hexOf width c.toNat ++ ['\x7d']

/-- A text between quotation marks. -/
def quoted (text : String) : String :=
  .ofList ('"' :: text.toList.flatMap showChar ++ ['"'])

/-- Pieces in brackets, with commas between them. -/
def bracketed (pieces : List String) : String :=
  "[" ++ ", ".intercalate pieces ++ "]"

/-- A number as text. -/
def number (n : Nat) : String := .ofList (decimal n)

/-- A list of texts as it is shown. -/
def quotedList (texts : List String) : String := bracketed (texts.map quoted)

end Courier.Text
