import TwinTree.Text.Blank
import TwinTree.Text.Word
import TwinTree.Unicode.CaseFolding
import TwinTree.Unicode.Property
import TwinTree.Unicode.Script

/-!
# Sets of characters

What the classes of a regular expression stand for. Without the Unicode flag a class is a set of
bytes; it then may hold ASCII only, since a lone byte past it is no character.
-/
namespace TwinTree.Regex

/-- The flags that hold at a place of a pattern. -/
structure Flags where
  caseInsensitive : Bool := false
  multiLine : Bool := false
  dotMatchesNewline : Bool := false
  unicode : Bool := true
  carriageReturn : Bool := false
  ignoreWhitespace : Bool := false
  deriving DecidableEq, Repr, Inhabited

abbrev CharacterSet := Char → Bool

namespace CharacterSet

def none : CharacterSet := fun _ => false

def union (left right : CharacterSet) : CharacterSet := fun c => left c || right c

def intersection (left right : CharacterSet) : CharacterSet := fun c => left c && right c

def difference (left right : CharacterSet) : CharacterSet := fun c => left c && !right c

def symmetricDifference (left right : CharacterSet) : CharacterSet := fun c => left c != right c

def complement (set : CharacterSet) : CharacterSet := fun c => !set c

def negatedIf (negated : Bool) (set : CharacterSet) : CharacterSet :=
  if negated then complement set else set

/-- The case variants of an ASCII letter, and any other character by itself. -/
def asciiVariants (c : Char) : List Char := [c, c.toUpper, c.toLower]

/-- Adds the case variants where case does not matter. -/
def folded (flags : Flags) (set : CharacterSet) : CharacterSet :=
  if !flags.caseInsensitive then set
  else if flags.unicode then fun c => (Unicode.caseVariants c).any set
  else fun c => (asciiVariants c).any set

/-- The one character of a literal, with its variants where case does not matter. -/
def literal (flags : Flags) (character : Char) : CharacterSet :=
  if !flags.caseInsensitive then (· == character)
  else if flags.unicode then
    let common := Unicode.fold character
    fun c => Unicode.fold c == common
  else fun c => c.toLower == character.toLower

/-- Whether a set of bytes holds a byte past ASCII. -/
def hasHighByte (set : CharacterSet) : Bool :=
  (List.range 128).any fun n => set (.ofNat (128 + n))

/-- Refuses what is no set of characters. -/
def checked? (flags : Flags) (set : CharacterSet) : Option CharacterSet :=
  if !flags.unicode && hasHighByte set then .none else some set

/-! ### Classes with names -/

def asciiOnly (set : CharacterSet) : CharacterSet := fun c => c.toNat < 0x80 && set c

def asciiDigit : CharacterSet := fun c => '0' ≤ c && c ≤ '9'

def asciiSpace : CharacterSet := fun c => c == ' ' || ('\t' ≤ c && c ≤ '\r')

/-- The classes written as `[:name:]`. -/
def posix? (name : List Char) : Option CharacterSet :=
  match String.ofList name with
  | "alnum" => some (asciiOnly Char.isAlphanum)
  | "alpha" => some (asciiOnly Char.isAlpha)
  | "ascii" => some (asciiOnly fun _ => true)
  | "blank" => some fun c => c == ' ' || c == '\t'
  | "cntrl" => some fun c => c.toNat < 0x20 || c.toNat == 0x7F
  | "digit" => some asciiDigit
  | "graph" => some fun c => '!' ≤ c && c ≤ '~'
  | "lower" => some fun c => 'a' ≤ c && c ≤ 'z'
  | "print" => some fun c => ' ' ≤ c && c ≤ '~'
  | "punct" => some fun c => '!' ≤ c && c ≤ '~' && !c.isAlphanum
  | "space" => some asciiSpace
  | "upper" => some fun c => 'A' ≤ c && c ≤ 'Z'
  | "word" => some (asciiOnly isWord)
  | "xdigit" => some Unicode.Property.asciiHexDigit
  | _ => Option.none

/-- Word characters, of ASCII only without the Unicode flag. -/
def word (flags : Flags) : CharacterSet := if flags.unicode then isWord else asciiOnly isWord

/-- The classes written as a backslash and a letter, the negated ones with a capital. -/
def lettered? (flags : Flags) (letter : Char) : Option CharacterSet :=
  let digit := if flags.unicode then Unicode.Category.decimalNumber.contains else asciiDigit
  let space := if flags.unicode then isBlankChar else asciiSpace
  match letter with
  | 'd' => some digit
  | 'D' => some (complement digit)
  | 's' => some space
  | 'S' => some (complement space)
  | 'w' => some (word flags)
  | 'W' => some (complement (word flags))
  | _ => Option.none

/-- Names of properties are compared in lower case, without separators and a leading "is". -/
def plainName (name : List Char) : String :=
  let isPrefixed := match name with
    | first :: second :: _ => first.toLower == 'i' && second.toLower == 's'
    | _ => false
  let body := if isPrefixed then name.drop 2 else name
  let plain := (body.filter fun c => !(c == ' ' || c == '_' || c == '-') && c.toNat < 0x80).map
    Char.toLower
  if isPrefixed && plain == ['c'] then "isc" else String.ofList plain

/-- The characters that a property stands for: a binary property, a general category or a script,
looked for in this order. -/
def property? (name : List Char) : Option CharacterSet :=
  let name := plainName name
  match Unicode.Property.named? name with
  | some set => some set
  | .none =>
    match Unicode.Category.named? name with
    | some set => some set
    | .none => Unicode.Script.named? name

/-- The characters for which a property has a value. -/
def propertyValue? (name value : List Char) : Option CharacterSet :=
  match plainName name with
  | "gc" | "generalcategory" => Unicode.Category.named? (plainName value)
  | "sc" | "script" => Unicode.Script.named? (plainName value)
  | _ => Option.none

end CharacterSet

end TwinTree.Regex
