import Markweave.Text
import Markweave.Unicode.Printable

namespace Markweave.Text

/-- What has no sign of its own, or joins the sign before it, is shown by its code point. -/
def isHidden (c : Char) : Bool := Unicode.extendsGrapheme c || !Unicode.isPrintable c

/-- One character between quotes of the given kind. -/
def showChar (quote : Char) (c : Char) : Text :=
  match c with
  | '\x00' => "\\0"
  | '\t' => "\\t"
  | '\n' => "\\n"
  | '\r' => "\\r"
  | '\\' => "\\\\"
  | c =>
    if c = quote then ['\\', c]
    else if isHidden c then "\\u\x7b" ++ ofHex c.toNat ++ "\x7d"
    else [c]

def quoteChar (c : Char) : Text := ['\''] ++ showChar '\'' c ++ ['\'']

def quote (s : Text) : Text := ['"'] ++ s.flatMap (showChar '"') ++ ['"']

end Markweave.Text
