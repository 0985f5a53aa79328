import MqAdmin.Text.Printable

namespace MqAdmin.Text

/-- Which characters are escaped beside the hidden ones and the backslash. -/
structure Quoting where
  escapesSingleQuote : Bool

def Quoting.text : Quoting := ⟨false⟩

def Quoting.path : Quoting := ⟨true⟩

def quoteChar (style : Quoting) (c : Char) : List Char :=
  match c with
  | '\x00' => ['\\', '0']
  | '\t' => ['\\', 't']
  | '\r' => ['\\', 'r']
  | '\n' => ['\\', 'n']
  | '\\' => ['\\', '\\']
  | '"' => ['\\', '"']
  | '\x27' => if style.escapesSingleQuote then ['\\', c] else [c]
  | _ => if isPlain c then [c]
    else ['\\', 'u', '\x7b'] ++ Nat.toDigits 16 c.toNat ++ ['\x7d']

def quoted (style : Quoting) (text : String) : String :=
  String.ofList ('"' :: text.toList.flatMap (quoteChar style) ++ ['"'])

example : quoted .text "a\"b'\x00\x7f" = "\"a\\\"b'\\0\\u\x7b7f\x7d\"" := by decide +kernel
example : quoted .path "it's" = "\"it\\'s\"" := by decide +kernel

end MqAdmin.Text
