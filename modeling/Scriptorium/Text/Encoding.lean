import Scriptorium.Text.Surrogate

/-!
# Encodings

A text as bytes and back, in UTF-8, Latin-1 or ASCII. Halves of characters have no bytes, nor has a
character beyond the range of its encoding.
-/

set_option autoImplicit false
set_option relaxedAutoImplicit false

namespace Scriptorium.Text

/-- The encodings that are known. -/
inductive Encoding where
  | utf8 | latin1 | ascii
  deriving DecidableEq, Repr

/-- The encoding with a name, in any case and with any of its usual marks. -/
def Encoding.ofName? (name : String) : Option Encoding :=
  let hyphened (c : Char) : Char := if c == '_' || c == ' ' then '-' else c
  let plain := String.ofList ((name.toList.map Char.toLower).map hyphened)
  let utf8Names := ["utf-8", "utf8", "u8", "utf", "cp65001", "utf8-ucs2", "utf8-ucs4"]
  let latin1Names :=
    ["latin-1", "latin1", "iso-8859-1", "iso8859-1", "8859", "cp819", "latin", "l1"]
  if utf8Names.contains plain then some .utf8
  else if latin1Names.contains plain then some .latin1
  else if ["ascii", "us-ascii", "646"].contains plain then some .ascii
  else none

/-- The bytes of a code point, if it has any. -/
def Encoding.bytesOf? (e : Encoding) (n : Nat) : Option (List UInt8) :=
  match e with
  | .utf8 => if isSurrogate n then none else some (String.utf8EncodeChar (Char.ofNat n))
  | .latin1 => if n < 256 then some [n.toUInt8] else none
  | .ascii => if n < 128 then some [n.toUInt8] else none

/-- A code point from the two to four bytes of its UTF-8 form, if it is the shortest such form. -/
def ofUtf8? (lead : Nat) (others : List UInt8) : Option (List Char) :=
  let n := others.foldl (fun n b ↦ n * 64 + b.toNat % 64) lead
  let least := match others.length with
    | 1 => 0x80
    | 2 => 0x800
    | _ => 0x10000
  if (others.all fun b ↦ b.toNat / 64 == 2) && least ≤ n && n < 0x110000 && !isSurrogate n then
    some (ofCode n)
  else none

/-- The text that UTF-8 bytes encode. -/
def decodeUtf8? : List UInt8 → Option (List Char)
  | [] => some []
  | a :: rest =>
    let lead := a.toNat
    if lead < 0x80 then (decodeUtf8? rest).map (Char.ofNat lead :: ·)
    else if lead < 0xc0 then none
    else if lead < 0xe0 then
      match rest with
      | b :: rest => do return (← ofUtf8? (lead - 0xc0) [b]) ++ (← decodeUtf8? rest)
      | _ => none
    else if lead < 0xf0 then
      match rest with
      | b :: c :: rest => do return (← ofUtf8? (lead - 0xe0) [b, c]) ++ (← decodeUtf8? rest)
      | _ => none
    else if lead < 0xf8 then
      match rest with
      | b :: c :: d :: rest => do return (← ofUtf8? (lead - 0xf0) [b, c, d]) ++ (← decodeUtf8? rest)
      | _ => none
    else none

/-- The text that bytes encode. -/
def Encoding.decode? (e : Encoding) (bytes : List UInt8) : Option (List Char) :=
  match e with
  | .utf8 => decodeUtf8? bytes
  | .latin1 => some (bytes.map fun b ↦ Char.ofNat b.toNat)
  | .ascii =>
    if bytes.all (·.toNat < 128) then some (bytes.map fun b ↦ Char.ofNat b.toNat) else none

end Scriptorium.Text
