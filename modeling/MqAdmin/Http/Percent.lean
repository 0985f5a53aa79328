namespace MqAdmin.Http

def hexDigits : List Char := "0123456789ABCDEF".toList

def escapedByte (byte : UInt8) : List Char :=
  ['%', hexDigits.getD (byte.toNat / 16) '0', hexDigits.getD (byte.toNat % 16) '0']

def escape (test : Char → Bool) (cs : List Char) : List Char :=
  cs.flatMap fun c => if test c then (String.utf8EncodeChar c).flatMap escapedByte else [c]

/-- The value of a hexadecimal digit in either letter case. -/
def hexValue? (c : Char) : Option Nat := hexDigits.idxOf? c.toUpper

/-- The bytes that a text stands for. A percent sign without two digits stands for itself. -/
def unescape : List Char → List UInt8
  | '%' :: a :: b :: rest =>
    match hexValue? a, hexValue? b with
    | some high, some low => UInt8.ofNat (high * 16 + low) :: unescape rest
    | _, _ => 0x25 :: unescape (a :: b :: rest)
  | c :: rest => String.utf8EncodeChar c ++ unescape rest
  | [] => []

example : escape (fun c => 127 < c.toNat) "/é".toList = "/%C3%A9".toList := by decide +kernel
example : unescape "%C3%a9%4".toList = [0xC3, 0xA9, 0x25, 0x34] := by decide +kernel

end MqAdmin.Http
