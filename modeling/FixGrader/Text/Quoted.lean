import FixGrader.Text.Property
/-!
# Quoted text

A text between double quotes on one line, as log lines show it: quotes, backslashes, line breaks
and characters that would not be visible are written as escapes.
-/
namespace FixGrader.Text

/-- The digits of a number in base sixteen, in lower case. -/
def hex (n : Nat) : String := String.ofList (Nat.toDigits 16 n)

def quotedChar (c : Char) : String :=
  match c with
  | '\x00' => "\\0"
  | '\t' => "\\t"
  | '\r' => "\\r"
  | '\n' => "\\n"
  | '"' => "\\\""
  | '\\' => "\\\\"
  | _ => if isPrintable c then c.toString else "\\u\x7b" ++ hex c.toNat ++ "\x7d"

def quoted (s : String) : String :=
  "\"" ++ String.join (s.toList.map quotedChar) ++ "\""

end FixGrader.Text
