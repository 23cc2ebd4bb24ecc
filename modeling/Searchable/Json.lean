import Searchable.Floating

/-!
# Interchange texts

A tree of plain data and its text in the JSON format, on one line, with a space after each comma
and colon. `Json.escapeChar` is the only place where the characters of a text are replaced: quotes,
backslashes and control characters always, and all that is not printable ASCII where the text has
to be ASCII only.
-/

namespace Searchable

/-- A tree of plain data. -/
inductive Json where
  /-- Nothing. -/
  | null
  /-- A truth value. -/
  | bool (b : Bool)
  /-- A whole number. -/
  | int (n : Int)
  /-- A floating-point number. -/
  | float (x : Floating)
  /-- A text. -/
  | text (s : String)
  /-- A sequence. -/
  | array (items : List Json)
  /-- A map from names, in order. -/
  | object (members : List (String × Json))
  deriving Repr

namespace Json

/-- Which characters a text may hold unescaped. -/
structure Style where
  /-- Whether all characters outside printable ASCII are escaped. -/
  asciiOnly : Bool

/-- Only what the format demands is escaped. -/
def Style.plain : Style := ⟨false⟩

/-- The text is ASCII only. -/
def Style.ascii : Style := ⟨true⟩

/-- The escape of a 16-bit code unit. -/
def escapeUnit (unit : Nat) : List Char :=
  ['\\', 'u', Nat.digitChar (unit / 4096 % 16), Nat.digitChar (unit / 256 % 16),
    Nat.digitChar (unit / 16 % 16), Nat.digitChar (unit % 16)]

/-- The escape of a code point: one code unit, or a surrogate pair above `0xFFFF`. -/
def escapeCode (code : Nat) : List Char :=
  if code < 0x10000 then escapeUnit code
  else escapeUnit (0xD800 + (code - 0x10000) / 0x400) ++
    escapeUnit (0xDC00 + (code - 0x10000) % 0x400)

/-- How one character appears between quotes. -/
def escapeChar (style : Style) (c : Char) : List Char :=
  if c = '"' then ['\\', '"']
  else if c = '\\' then ['\\', '\\']
  else if c = '\n' then ['\\', 'n']
  else if c = '\r' then ['\\', 'r']
  else if c = '\t' then ['\\', 't']
  else if c = '\x08' then ['\\', 'b']
  else if c = '\x0c' then ['\\', 'f']
  else if c.toNat < 0x20 then escapeUnit c.toNat
  else if style.asciiOnly && 0x7F ≤ c.toNat then escapeCode c.toNat
  else [c]

/-- A text between quotes. -/
def quoted (style : Style) (s : String) : List Char :=
  '"' :: s.toList.flatMap (escapeChar style) ++ ['"']

/-- The text of a number; the format has no infinities, which are written as words. -/
def floatText (x : Floating) : String :=
  x.writeWith "Infinity" "NaN"

mutual

/-- The characters of the text of a tree. -/
def chars (style : Style) : Json → List Char
  | null => "null".toList
  | bool b => (if b then "true" else "false").toList
  | int n => (toString n).toList
  | float x => (floatText x).toList
  | text s => quoted style s
  | array items => '[' :: itemChars style items ++ [']']
  | object members => '\x7b' :: memberChars style members ++ ['\x7d']

/-- The characters of the items of a sequence. -/
def itemChars (style : Style) : List Json → List Char
  | [] => []
  | [j] => chars style j
  | j :: rest => chars style j ++ ',' :: ' ' :: itemChars style rest

/-- The characters of the members of a map. -/
def memberChars (style : Style) : List (String × Json) → List Char
  | [] => []
  | [(name, j)] => quoted style name ++ ':' :: ' ' :: chars style j
  | (name, j) :: rest =>
    quoted style name ++ ':' :: ' ' :: (chars style j ++ ',' :: ' ' :: memberChars style rest)

end

/-- The text of a tree. -/
def write (style : Style) (j : Json) : String :=
  String.ofList (j.chars style)

end Json

end Searchable
