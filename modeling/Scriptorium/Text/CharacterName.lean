import Scriptorium.Text.CharacterName.Letter
import Scriptorium.Text.CharacterName.Symbol

/-!
# Names of characters

A character can be named by its standard name in any case, and some by an alias. Ideographs are
named by their numbers and syllables by their sounds; the other names are in tables, those of the
less common scripts left out.
-/

set_option autoImplicit false
set_option relaxedAutoImplicit false

namespace Scriptorium.Text

/-- Further names of characters, most of them of characters that have no other. -/
def nameAliases : List (String × Nat) :=
  [("NULL", 0x0), ("NUL", 0x0), ("START OF HEADING", 0x1),
   ("SOH", 0x1), ("START OF TEXT", 0x2), ("STX", 0x2),
   ("END OF TEXT", 0x3), ("ETX", 0x3), ("END OF TRANSMISSION", 0x4),
   ("EOT", 0x4), ("ENQUIRY", 0x5), ("ENQ", 0x5),
   ("ACKNOWLEDGE", 0x6), ("ACK", 0x6), ("ALERT", 0x7),
   ("BEL", 0x7), ("BACKSPACE", 0x8), ("BS", 0x8),
   ("CHARACTER TABULATION", 0x9), ("HORIZONTAL TABULATION", 0x9), ("HT", 0x9),
   ("TAB", 0x9), ("LINE FEED", 0xa), ("NEW LINE", 0xa),
   ("END OF LINE", 0xa), ("LF", 0xa), ("NL", 0xa),
   ("EOL", 0xa), ("LINE TABULATION", 0xb), ("VERTICAL TABULATION", 0xb),
   ("VT", 0xb), ("FORM FEED", 0xc), ("FF", 0xc),
   ("CARRIAGE RETURN", 0xd), ("CR", 0xd), ("SHIFT OUT", 0xe),
   ("LOCKING-SHIFT ONE", 0xe), ("SO", 0xe), ("SHIFT IN", 0xf),
   ("LOCKING-SHIFT ZERO", 0xf), ("SI", 0xf), ("DATA LINK ESCAPE", 0x10),
   ("DLE", 0x10), ("DEVICE CONTROL ONE", 0x11), ("DC1", 0x11),
   ("DEVICE CONTROL TWO", 0x12), ("DC2", 0x12), ("DEVICE CONTROL THREE", 0x13),
   ("DC3", 0x13), ("DEVICE CONTROL FOUR", 0x14), ("DC4", 0x14),
   ("NEGATIVE ACKNOWLEDGE", 0x15), ("NAK", 0x15), ("SYNCHRONOUS IDLE", 0x16),
   ("SYN", 0x16), ("END OF TRANSMISSION BLOCK", 0x17), ("ETB", 0x17),
   ("CANCEL", 0x18), ("CAN", 0x18), ("END OF MEDIUM", 0x19),
   ("EOM", 0x19), ("SUBSTITUTE", 0x1a), ("SUB", 0x1a),
   ("ESCAPE", 0x1b), ("ESC", 0x1b), ("INFORMATION SEPARATOR FOUR", 0x1c),
   ("FILE SEPARATOR", 0x1c), ("FS", 0x1c), ("INFORMATION SEPARATOR THREE", 0x1d),
   ("GROUP SEPARATOR", 0x1d), ("GS", 0x1d), ("INFORMATION SEPARATOR TWO", 0x1e),
   ("RECORD SEPARATOR", 0x1e), ("RS", 0x1e), ("INFORMATION SEPARATOR ONE", 0x1f),
   ("UNIT SEPARATOR", 0x1f), ("US", 0x1f), ("SP", 0x20),
   ("DELETE", 0x7f), ("DEL", 0x7f), ("PADDING CHARACTER", 0x80),
   ("PAD", 0x80), ("HIGH OCTET PRESET", 0x81), ("HOP", 0x81),
   ("BREAK PERMITTED HERE", 0x82), ("BPH", 0x82), ("NO BREAK HERE", 0x83),
   ("NBH", 0x83), ("INDEX", 0x84), ("IND", 0x84),
   ("NEXT LINE", 0x85), ("NEL", 0x85), ("START OF SELECTED AREA", 0x86),
   ("SSA", 0x86), ("END OF SELECTED AREA", 0x87), ("ESA", 0x87),
   ("CHARACTER TABULATION SET", 0x88), ("HTS", 0x88),
   ("CHARACTER TABULATION WITH JUSTIFICATION", 0x89),
   ("HTJ", 0x89), ("LINE TABULATION SET", 0x8a), ("VTS", 0x8a),
   ("PARTIAL LINE FORWARD", 0x8b), ("PLD", 0x8b), ("PARTIAL LINE BACKWARD", 0x8c),
   ("PLU", 0x8c), ("REVERSE LINE FEED", 0x8d), ("REVERSE INDEX", 0x8d),
   ("RI", 0x8d), ("SINGLE SHIFT TWO", 0x8e), ("SS2", 0x8e),
   ("SINGLE SHIFT THREE", 0x8f), ("SS3", 0x8f), ("DEVICE CONTROL STRING", 0x90),
   ("DCS", 0x90), ("PRIVATE USE ONE", 0x91), ("PU1", 0x91),
   ("PRIVATE USE TWO", 0x92), ("PU2", 0x92), ("SET TRANSMIT STATE", 0x93),
   ("STS", 0x93), ("CANCEL CHARACTER", 0x94), ("CCH", 0x94),
   ("MESSAGE WAITING", 0x95), ("MW", 0x95), ("START OF GUARDED AREA", 0x96),
   ("SPA", 0x96), ("END OF GUARDED AREA", 0x97), ("EPA", 0x97),
   ("START OF STRING", 0x98), ("SOS", 0x98), ("SINGLE GRAPHIC CHARACTER INTRODUCER", 0x99),
   ("SGC", 0x99), ("SINGLE CHARACTER INTRODUCER", 0x9a), ("SCI", 0x9a),
   ("CONTROL SEQUENCE INTRODUCER", 0x9b), ("CSI", 0x9b), ("STRING TERMINATOR", 0x9c),
   ("ST", 0x9c), ("OPERATING SYSTEM COMMAND", 0x9d), ("OSC", 0x9d),
   ("PRIVACY MESSAGE", 0x9e), ("PM", 0x9e), ("APPLICATION PROGRAM COMMAND", 0x9f),
   ("APC", 0x9f), ("NBSP", 0xa0), ("SHY", 0xad),
   ("LATIN CAPITAL LETTER GHA", 0x1a2), ("LATIN SMALL LETTER GHA", 0x1a3), ("ZWSP", 0x200b),
   ("ZWNJ", 0x200c), ("ZWJ", 0x200d), ("LRM", 0x200e),
   ("RLM", 0x200f), ("LRE", 0x202a), ("RLE", 0x202b),
   ("PDF", 0x202c), ("LRO", 0x202d), ("RLO", 0x202e),
   ("NNBSP", 0x202f), ("MMSP", 0x205f), ("WJ", 0x2060),
   ("LRI", 0x2066), ("RLI", 0x2067), ("FSI", 0x2068),
   ("PDI", 0x2069), ("WEIERSTRASS ELLIPTIC FUNCTION", 0x2118), ("MICR ON US SYMBOL", 0x2448),
   ("MICR DASH SYMBOL", 0x2449), ("BYTE ORDER MARK", 0xfeff), ("BOM", 0xfeff),
   ("ZWNBSP", 0xfeff), ("VS1", 0xfe00), ("VS2", 0xfe01),
   ("VS15", 0xfe0e), ("VS16", 0xfe0f), ("CGJ", 0x34f),
   ("ALM", 0x61c), ("COMBINING GRAPHEME JOINER", 0x34f), ("ARABIC LETTER MARK", 0x61c),
   ("ZERO WIDTH NO-BREAK SPACE", 0xfeff)]

/-- The place of a name among names with semicolons between them, where `left` is what the current
one has yet to have, if it agrees so far. -/
def placeOfName? (name : List Char) : Nat → Option (List Char) → List Char → Option Nat
  | place, left, [] => if left == some [] then some place else none
  | place, left, c :: rest =>
    if c == '\n' then placeOfName? name place left rest
    else if c == ';' then
      if left == some [] then some place else placeOfName? name (place + 1) (some name) rest
    else
      placeOfName? name place
        (match left with
        | some (d :: more) => if d == c then some more else none
        | _ => none) rest

/-- The ranges of ideographs that are named by their numbers. -/
def ideographBounds : List (Nat × Nat) :=
  [(0x3400, 0x4dc0), (0x4e00, 0xa000), (0x20000, 0x2a6e0), (0x2a700, 0x2b739), (0x2b740, 0x2b81e),
   (0x2b820, 0x2cea2), (0x2ceb0, 0x2ebe1), (0x30000, 0x3134b)]

/-- The number that four or five hexadecimal digits in upper case write. -/
def ideographNumber? (digits : List Char) : Option Nat :=
  let value (c : Char) : Nat := if c.isDigit then c.toNat - 48 else c.toNat - 55
  if (digits.length == 4 || digits.length == 5)
      && digits.all fun c ↦ c.isDigit || ('A' ≤ c && c ≤ 'F') then
    some (digits.foldl (fun n c ↦ n * 16 + value c) 0)
  else none

/-- The ideograph with a name. -/
def namedIdeograph? (name : List Char) : Option Char := do
  let start := "CJK UNIFIED IDEOGRAPH-".toList
  let n ← if start.isPrefixOf name then ideographNumber? (name.drop start.length) else none
  if ideographBounds.any fun (low, high) ↦ low ≤ n && n < high then some (Char.ofNat n) else none

/-- The sounds that a syllable begins with, by their letters. -/
def leadSounds : List String :=
  ["G", "GG", "N", "D", "DD", "R", "M", "B", "BB", "S", "SS", "", "J", "JJ", "C", "K", "T", "P",
   "H"]

/-- The sounds in the middle of a syllable. -/
def middleSounds : List String :=
  ["A", "AE", "YA", "YAE", "EO", "E", "YEO", "YE", "O", "WA", "WAE", "OE", "YO", "U", "WEO", "WE",
   "WI", "YU", "EU", "YI", "I"]

/-- The sounds that a syllable ends with. -/
def finalSounds : List String :=
  ["", "G", "GG", "GS", "N", "NJ", "NH", "D", "L", "LG", "LM", "LB", "LS", "LT", "LP", "LH", "M",
   "B", "BS", "S", "SS", "NG", "J", "C", "K", "T", "P", "H"]

/-- The syllable with a name: the longest first sound, and then the longest second one. -/
def namedSyllable? (name : List Char) : Option Char := do
  let start := "HANGUL SYLLABLE ".toList
  let sounds ← if start.isPrefixOf name then some (name.drop start.length) else none
  let places (table : List String) (text : List Char) : List (Nat × List Char) :=
    table.mapIdx (fun i sound ↦ (i, sound.toList)) |>.filter fun (_, sound) ↦ sound.isPrefixOf text
  let longest (table : List String) (text : List Char) : Option (Nat × List Char) :=
    (places table text).foldl
      (fun best (i, sound) ↦
        match best with
        | some (_, other) => if other.length < sound.length then some (i, sound) else best
        | none => some (i, sound)) none
  let (l, lead) ← longest leadSounds sounds
  let (m, middle) ← longest middleSounds (sounds.drop lead.length)
  let ending := sounds.drop (lead.length + middle.length)
  let f ← finalSounds.findIdx? (·.toList == ending)
  return Char.ofNat (0xac00 + (l * 21 + m) * 28 + f)

/-- The character with a name. -/
def namedChar? (given : List Char) : Option Char :=
  let name := given.map Char.toUpper
  let inTables : Option Nat :=
    (letterNames ++ symbolNames).findSome? fun (first, names) ↦
      (placeOfName? name 0 (some name) names.toList).map (first + ·)
  if given.isEmpty then none
  else
    match namedSyllable? given, namedIdeograph? given, nameAliases.lookup (String.ofList name) with
    | some c, _, _ | _, some c, _ => some c
    | _, _, some n => some (Char.ofNat n)
    | none, none, none => inTables.map Char.ofNat

end Scriptorium.Text
