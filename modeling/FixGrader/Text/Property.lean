import FixGrader.Text.Property.Age
import FixGrader.Text.Property.Binary
import FixGrader.Text.Property.Boundary
import FixGrader.Text.Property.Category
import FixGrader.Text.Property.Script
/-!
# Character properties

Sets of code points as range tables, and the named properties of the Unicode character database.
The tables are written as text and decoded on demand.
-/
namespace FixGrader.Text

/-- A set of code points, as ascending and disjoint inclusive ranges. -/
abbrev RangeTable := Array (Nat × Nat)

namespace RangeTable

/-- Looks for the range that holds `n` among those from `lo` up to, but not including, `hi`. -/
def search (t : RangeTable) (n : Nat) : Nat → Nat → Nat → Bool
  | 0, _, _ => false
  | fuel + 1, lo, hi =>
    if lo < hi then
      let mid := (lo + hi) / 2
      match t[mid]? with
      | none => false
      | some (first, last) =>
        if n < first then search t n fuel lo mid
        else if last < n then search t n fuel (mid + 1) hi
        else true
    else false

def contains (t : RangeTable) (n : Nat) : Bool :=
  search t n (t.size + 1) 0 t.size

end RangeTable

/-- The value of a hexadecimal digit in lower case. -/
def hexDigit (c : Char) : Nat :=
  if '0' ≤ c ∧ c ≤ '9' then c.toNat - '0'.toNat else c.toNat - 'a'.toNat + 10

/-- Reads a table of alternating gaps and lengths: each range starts `gap` after the one before it
and holds `length + 1` code points. -/
def decodeRanges (s : String) : RangeTable :=
  let step (acc : Array (Nat × Nat) × Nat × Option Nat) (w : Nat) :
      Array (Nat × Nat) × Nat × Option Nat :=
    match acc with
    | (out, next, none) => (out, next, some (next + w))
    | (out, _, some first) => (out.push (first, first + w), first + w + 1, none)
  let close (acc : (Array (Nat × Nat) × Nat × Option Nat) × Nat) :
      (Array (Nat × Nat) × Nat × Option Nat) × Nat := (step acc.1 acc.2, 0)
  let final := s.toList.foldl
    (fun acc c => if c == ' ' then close acc else (acc.1, acc.2 * 16 + hexDigit c))
    ((#[], 0, none), 0)
  (close final).1.1

/-- Whether a row has a name; the names of a row are separated by blanks. -/
def hasName (name : String) (row : String × String) : Bool := row.1.splitOn " " |>.contains name

/-- The row of a table that has the given name. -/
def rowNamed? (table : List (String × String)) (name : String) : Option RangeTable :=
  (table.find? (hasName name)).map fun row => decodeRanges row.2

/-- The rows of a table up to the one that has the given name. -/
def rowsUpTo? (table : List (String × String)) (name : String) : Option (List RangeTable) :=
  if table.any (hasName name) then
    let earlier := table.takeWhile fun row => !hasName name row
    some ((table.take (earlier.length + 1)).map fun row => decodeRanges row.2)
  else none

/-- The table of a yes-or-no property. -/
def binaryProperty? (name : String) : Option RangeTable := rowNamed? binaryTable name

/-- The table of a two-letter general category. -/
def category (name : String) : RangeTable := (rowNamed? categoryTable name).getD #[]

def alphabeticTable : RangeTable := (binaryProperty? "alphabetic").getD #[]
def casedTable : RangeTable := (binaryProperty? "cased").getD #[]
def caseIgnorableTable : RangeTable := (binaryProperty? "caseignorable").getD #[]
def graphemeExtendTable : RangeTable := (binaryProperty? "graphemeextend").getD #[]
def joinControlTable : RangeTable := (binaryProperty? "joincontrol").getD #[]
def decimalTable : RangeTable := category "nd"
def connectorTable : RangeTable := category "pc"
def markTables : List RangeTable := ["mc", "me", "mn"].map category
def numberTables : List RangeTable := ["nd", "nl", "no"].map category
def unprintableTables : List RangeTable :=
  ["cc", "cf", "cn", "co", "cs", "zl", "zp", "zs"].map category

/-- White space: the characters that are trimmed from the ends of a text. -/
def isBlank (c : Char) : Bool :=
  let n := c.toNat
  (9 ≤ n && n ≤ 13) || n == 0x20 || n == 0x85 || n == 0xa0 || n == 0x1680 ||
    (0x2000 ≤ n && n ≤ 0x200a) || n == 0x2028 || n == 0x2029 || n == 0x202f || n == 0x205f ||
    n == 0x3000

def isAsciiLetter (c : Char) : Bool := ('a' ≤ c && c ≤ 'z') || ('A' ≤ c && c ≤ 'Z')

def isAsciiDigit (c : Char) : Bool := '0' ≤ c && c ≤ '9'

def isHexDigit (c : Char) : Bool := isAsciiDigit c || ('a' ≤ c && c ≤ 'f') || ('A' ≤ c && c ≤ 'F')

def isAscii (c : Char) : Bool := c.toNat < 128

def isAlphabetic (c : Char) : Bool :=
  if isAscii c then isAsciiLetter c else alphabeticTable.contains c.toNat

def isAlphanumeric (c : Char) : Bool :=
  if isAscii c then isAsciiLetter c || isAsciiDigit c
  else alphabeticTable.contains c.toNat || numberTables.any (·.contains c.toNat)

/-- Decimal digits of any script. -/
def isDecimal (c : Char) : Bool :=
  if isAscii c then isAsciiDigit c else decimalTable.contains c.toNat

def isAsciiWord (c : Char) : Bool := isAsciiLetter c || isAsciiDigit c || c == '_'

/-- Word characters: letters, marks, decimal digits, connectors and join controls. -/
def isWord (c : Char) : Bool :=
  if isAscii c then isAsciiWord c
  else
    let n := c.toNat
    alphabeticTable.contains n || markTables.any (·.contains n) || decimalTable.contains n ||
      connectorTable.contains n || joinControlTable.contains n

/-- Characters that a quoted text shows as they are. -/
def isPrintable (c : Char) : Bool :=
  if isAscii c then 0x20 ≤ c.toNat && c.toNat < 0x7f
  else !(unprintableTables.any (·.contains c.toNat)) && !graphemeExtendTable.contains c.toNat

/-- The text without the blanks at both ends. -/
def trim (s : String) : String :=
  String.ofList (((s.toList.dropWhile isBlank).reverse.dropWhile isBlank).reverse)

end FixGrader.Text
