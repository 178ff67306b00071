import SurveyCube.Text.Unprintable

/-!
# Quoted text in messages

A message shows a text that it does not trust between quotation marks.  What
would be invisible or ambiguous there is written with a backslash: the usual
letters for zero, tab and the two line ends, the quotation mark and the
backslash themselves, and the code point in hexadecimal for every other
unprintable character.
-/

namespace SurveyCube.Text

/-- The code point of a character in hexadecimal, between braces. -/
def codePointEscape (c : Char) : List Char :=
  ['\\', 'u', '\x7b'] ++ Nat.toDigits 16 c.toNat ++ ['\x7d']

def quotedChar (c : Char) : List Char :=
  match c with
  | '\x00' => ['\\', '0']
  | '\t' => ['\\', 't']
  | '\n' => ['\\', 'n']
  | '\r' => ['\\', 'r']
  | '"' => ['\\', '"']
  | '\\' => ['\\', '\\']
  | c => if isUnprintable c then codePointEscape c else [c]

def quoted (text : String) : String :=
  String.ofList ('"' :: text.toList.flatMap quotedChar ++ ['"'])

end SurveyCube.Text
