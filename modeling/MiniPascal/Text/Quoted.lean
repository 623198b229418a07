import MiniPascal.Text.Printable

set_option autoImplicit false

namespace MiniPascal.Text

def escapeCode (c : Char) : String :=
  "\\u\x7b" ++ String.ofList (Nat.toDigits 16 c.toNat) ++ "\x7d"

def escape : Char → String
  | '\x00' => "\\0"
  | '\t' => "\\t"
  | '\r' => "\\r"
  | '\n' => "\\n"
  | '\\' => "\\\\"
  | '"' => "\\\""
  | c => if isPrintable c then c.toString else escapeCode c

def quote (text : String) : String :=
  "\"" ++ String.join (text.toList.map escape) ++ "\""

end MiniPascal.Text
