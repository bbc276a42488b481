import Scriptorium.Yaml.Cursor

/-!
# Bytes as text

Three bytes are written as four characters of six bits each. Other characters than the sixty-four do
not count. Padding ends the text once a group that can end has all four places filled.
-/

set_option autoImplicit false
set_option relaxedAutoImplicit false

namespace Scriptorium.Yaml

/-- The six bits that a character writes. -/
def sixBits? (c : Char) : Option Nat :=
  if 'A' ≤ c && c ≤ 'Z' then some (c.toNat - 65)
  else if 'a' ≤ c && c ≤ 'z' then some (c.toNat - 71)
  else if c.isDigit then some (c.toNat + 4)
  else if c == '+' then some 62
  else if c == '/' then some 63
  else none

/-- How much of a group of four characters has been read: how many of them, the bits that no byte
has taken yet, and how many characters of padding have come since the last of them. -/
structure Group where
  read : Nat
  bits : Nat
  padding : Nat
  deriving DecidableEq, Repr

/-- The group before its first character. -/
def Group.empty : Group := ⟨0, 0, 0⟩

/-- The byte that the next six bits complete, and the group after them. -/
def Group.next (g : Group) (bits : Nat) : Option UInt8 × Group :=
  match g.read with
  | 0 => (none, ⟨1, bits, 0⟩)
  | 1 => (some (g.bits * 4 + bits / 16).toUInt8, ⟨2, bits % 16, 0⟩)
  | 2 => (some (g.bits * 16 + bits / 4).toUInt8, ⟨3, bits % 4, 0⟩)
  | _ => (some (g.bits * 64 + bits).toUInt8, .empty)

/-- The bytes that a text writes after part of a group; none if the last group is not complete. -/
def decodeGroup? (g : Group) : List Char → Option (List UInt8)
  | [] => if g.read == 0 then some [] else none
  | c :: rest =>
    if c == '=' then
      if g.read < 2 then decodeGroup? g rest
      else if 4 ≤ g.read + g.padding + 1 then some []
      else decodeGroup? { g with padding := g.padding + 1 } rest
    else
      match sixBits? c with
      | none => decodeGroup? g rest
      | some bits =>
        let (byte, g) := g.next bits
        (decodeGroup? g rest).map fun bytes ↦ byte.toList ++ bytes

/-- The bytes that a text writes. Only characters of ASCII can stand in it. -/
def decodeBytes? (text : List Char) : Option (List UInt8) :=
  if text.all fun c ↦ c.toNat < 128 then decodeGroup? .empty text else none

end Scriptorium.Yaml
