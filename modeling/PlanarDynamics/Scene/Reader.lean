import PlanarDynamics.Scene.Tree

/-!
# Reading scene text

Scenes are written as JSON text. `Tree.parse?` reads such a text. A number without point and
exponent that fits a 64-bit word, signed or not, is an integer; every other number is rounded to
binary64 and then to binary32, and so is minus zero, which has a sign to keep. Of two fields with
the same name the later one counts.

The reader goes through the text once. It is driven by the number of characters, which bounds
both how deep lists and records nest and how many items they have.
-/

set_option autoImplicit false

namespace PlanarDynamics

/-- A reader consumes characters from the front of a text. -/
abbrev Reader (β : Type) : Type := StateT (List Char) Option β

namespace Reader

variable {β : Type}

/-- Pass over blanks. -/
def skipBlank : Reader Unit := modify fun cs => cs.dropWhile fun c => c ∈ [' ', '\t', '\n', '\r']

/-- The next character, which stays. -/
def peek : Reader Char := fun cs => cs.head?.map fun c => (c, cs)

/-- The next character. -/
def next : Reader Char
  | [] => none
  | c :: cs => some (c, cs)

/-- Exactly these characters. -/
def exactly (s : String) : Reader Unit := s.toList.forM fun c => do guard ((← next) = c)

/-- The value of a digit up to sixteen. -/
def hexValue? (c : Char) : Option Nat :=
  if c.isDigit then some (c.toNat - '0'.toNat)
  else if 'a' ≤ c ∧ c ≤ 'f' then some (c.toNat - 'a'.toNat + 10)
  else if 'A' ≤ c ∧ c ≤ 'F' then some (c.toNat - 'A'.toNat + 10)
  else none

/-- The number written by four hexadecimal digits. -/
def codeUnit? : List Char → Option Nat
  | [a, b, c, d] => [a, b, c, d].foldlM (fun n c => return n * 16 + (← hexValue? c)) 0
  | _ => none

/-- The character of a letter after a backslash. -/
def escaped (c : Char) : Char :=
  match c with
  | 'n' => '\n'
  | 't' => '\t'
  | 'r' => '\r'
  | 'b' => Char.ofNat 8
  | 'f' => Char.ofNat 12
  | c => c

/-- The code points up to the closing quote, and the text behind it. -/
def quoted : List Char → Option (List Nat × List Char)
  | [] => none
  | '"' :: rest => some ([], rest)
  | '\\' :: 'u' :: a :: b :: c :: d :: rest => do
    let unit ← codeUnit? [a, b, c, d]
    let (units, rest) ← quoted rest
    return (unit :: units, rest)
  | '\\' :: c :: rest => do
    let (units, rest) ← quoted rest
    return ((escaped c).toNat :: units, rest)
  | c :: rest => do
    let (units, rest) ← quoted rest
    return (c.toNat :: units, rest)

/-- The characters of code points, where one beyond the basic plane may be two code units. -/
def joined : List Nat → List Char
  | high :: low :: rest =>
    if 0xD800 ≤ high ∧ high < 0xDC00 ∧ 0xDC00 ≤ low ∧ low < 0xE000 then
      Char.ofNat (0x10000 + (high - 0xD800) * 1024 + (low - 0xDC00)) :: joined rest
    else Char.ofNat high :: joined (low :: rest)
  | [unit] => [Char.ofNat unit]
  | [] => []

/-- A text in quotes. -/
def text : Reader String := do
  exactly "\""
  let units ← (quoted : Reader (List Nat))
  return String.ofList (joined units)

/-- The number of a row of decimal digits. -/
def decimalValue (digits : List Char) : Nat :=
  digits.foldl (fun n c => n * 10 + (c.toNat - '0'.toNat)) 0

/-- A row of decimal digits, possibly empty. -/
def digits : Reader (List Char) := fun cs => some (cs.span Char.isDigit)

/-- One of some characters, if it comes next. -/
def optional (cs : List Char) : Reader (Option Char)
  | c :: rest => if c ∈ cs then some (some c, rest) else some (none, c :: rest)
  | [] => some (none, [])

/-- The number of a sign, digits before and behind the point, and a power of ten. It is rounded
twice: a number just short of half a step between two binary32 numbers may become that half step
in binary64, and then goes to the even side, to infinity beyond the largest one. -/
def decimalOf (negative : Bool) (whole fraction : List Char) (power : Int) : Float32 :=
  let exponent := power - fraction.length
  let size := Float.ofScientific (decimalValue (whole ++ fraction)) (exponent < 0) exponent.natAbs
  if negative then -size.toFloat32 else size.toFloat32

/-- A number. -/
def number : Reader Tree := do
  let negative := (← optional ['-']).isSome
  let whole ← digits
  guard (whole ≠ [])
  let point ← optional ['.']
  let fraction ← if point.isSome then digits else pure []
  let mark ← optional ['e', 'E']
  let sign ← if mark.isSome then optional ['+', '-'] else pure none
  let size ← if mark.isSome then digits else pure []
  let power : Int := if sign = some '-' then -decimalValue size else decimalValue size
  let value : Int := if negative then -decimalValue whole else decimalValue whole
  let isWhole := point.isNone ∧ mark.isNone ∧ ¬ (negative ∧ value = 0)
  if isWhole ∧ -0x8000000000000000 ≤ value ∧ value ≤ 0xFFFFFFFFFFFFFFFF then
    return .integer value
  else return .decimal (decimalOf negative whole fraction power)

/-- Items parted by commas up to a closing character, at least one. -/
def itemsUntil (item : Reader β) (close : Char) : Nat → Reader (List β)
  | 0 => failure
  | room + 1 => do
    let b ← item
    skipBlank
    let c ← next
    if c = ',' then
      let bs ← itemsUntil item close room
      return b :: bs
    else if c = close then return [b]
    else failure

/-- Items parted by commas between two characters, possibly none. -/
def between (opening close : Char) (item : Reader β) (room : Nat) : Reader (List β) := do
  exactly (String.singleton opening)
  skipBlank
  if (← peek) = close then
    let _ ← next
    return []
  else itemsUntil item close room

/-- A field of a record. -/
def field (item : Reader β) : Reader (String × β) := do
  skipBlank
  let name ← text
  skipBlank
  exactly ":"
  return (name, ← item)

/-- The fields with a later one in the place of an earlier one of the same name. -/
def lastFields (fields : List (String × β)) : List (String × β) :=
  fields.foldl (fun kept f => kept.filter (fun g => g.1 ≠ f.1) ++ [f]) []

/-- A value that nests so deep at most. -/
def value : Nat → Reader Tree
  | 0 => failure
  | room + 1 => do
    skipBlank
    match ← peek with
    | 'n' => (fun _ => .null) <$> exactly "null"
    | 't' => (fun _ => .bool true) <$> exactly "true"
    | 'f' => (fun _ => .bool false) <$> exactly "false"
    | '"' => .text <$> text
    | '[' => .list <$> between '[' ']' (value room) (room + 1)
    | '\x7b' =>
      (fun fs => .record (lastFields fs)) <$> between '\x7b' '\x7d' (field (value room)) (room + 1)
    | _ => number

end Reader

/-- The data of a JSON text. -/
def Tree.parse? (s : String) : Option Tree := do
  let read := do
    let t ← Reader.value s.length
    Reader.skipBlank
    return t
  match ← read.run s.toList with
  | (t, []) => some t
  | _ => none

end PlanarDynamics
