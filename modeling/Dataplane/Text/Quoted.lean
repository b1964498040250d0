import Dataplane.Text.Extending
import Dataplane.Text.Hidden

/-! # Quoted text

Text between double quotes, as the debug forms of names show it. The quote, the backslash and four
control characters have short escapes. A character that shows nothing, or that would be drawn onto
the one before it, is written as its code point; every other character stands for itself.
-/
namespace Dataplane.Text

/-- The code point in lowercase hexadecimal, without leading zeros. -/
def codePoint (c : Char) : List Char :=
  ['\\', 'u', '\x7b'] ++ Nat.toDigits 16 c.toNat ++ ['\x7d']

def escape (c : Char) : List Char :=
  match c with
  | '"' => ['\\', '"']
  | '\\' => ['\\', '\\']
  | '\t' => ['\\', 't']
  | '\n' => ['\\', 'n']
  | '\r' => ['\\', 'r']
  | '\x00' => ['\\', '0']
  | c => if isExtending c || isHidden c then codePoint c else [c]

def quote (s : String) : String :=
  String.ofList ('"' :: s.toList.flatMap escape ++ ['"'])

end Dataplane.Text
