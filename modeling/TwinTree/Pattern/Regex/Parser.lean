import TwinTree.Pattern.Expression
import TwinTree.Pattern.Regex.CharacterSet

/-!
# Reading regular expressions

A pattern is read from left to right into an expression over characters. Flags change how the rest
of the group they stand in is read. Every loop takes at least one character in each round, so the
number of characters still unread bounds the rounds.
-/
namespace TwinTree.Regex

/-- What is still unread, the flags at this place, and the names of groups met so far. -/
structure ReadState where
  rest : List Char
  flags : Flags := {}
  names : List (List Char) := []

/-- A reader fails where the pattern is no regular expression. -/
abbrev Reader := StateT ReadState Option

/-- How deep groups, repetitions, choices, sequences and classes may be nested. -/
def nestingLimit : Nat := 250

/-- A part of a pattern and how deep it is nested. -/
structure Piece where
  expression : Expression Char
  depth : Nat

namespace Reader

def refuse {α : Type} : Reader α := fun _ => none

def flags : Reader Flags := return (← get).flags

def rest : Reader (List Char) := return (← get).rest

def setRest (rest : List Char) : Reader Unit := modify fun state => { state with rest }

def setFlags (flags : Flags) : Reader Unit := modify fun state => { state with flags }

def ofOption {α : Type} : Option α → Reader α
  | some value => pure value
  | none => refuse

/-- Drops blanks and comments, which last to the end of their line. -/
def dropSpace (inComment : Bool) : List Char → List Char
  | [] => []
  | c :: rest =>
    if inComment then dropSpace (c != '\n') rest
    else if isBlankChar c then dropSpace false rest
    else if c = '#' then dropSpace true rest
    else c :: rest

/-- Skips blanks and comments where they do not count. -/
def space : Reader Unit := do
  if (← flags).ignoreWhitespace then setRest (dropSpace false (← rest))

/-- The next character, which must be there. -/
def peek : Reader Char := do
  match ← rest with
  | c :: _ => return c
  | [] => refuse

/-- Takes the next character, if there is one. -/
def bump : Reader Unit := do setRest (← rest).tail

def bumpSpace : Reader Unit := do
  bump
  space

/-- Takes a text if it comes next. -/
def takeText (text : String) : Reader Bool := do
  let text := text.toList
  if text.isPrefixOf (← rest) then
    setRest ((← rest).drop text.length)
    return true
  else return false

/-- Does a step until it gives nothing, at most the given number of times. -/
def many {α : Type} (step : Reader (Option α)) : Nat → Reader (List α)
  | 0 => pure []
  | rounds + 1 => do
    match ← step with
    | none => return []
    | some item => return item :: (← many step rounds)

/-- Takes characters as long as they are accepted, skipping blanks where they do not count. -/
def takeWhile (accepts : Char → Bool) : Reader (List Char) := do
  let step : Reader (Option Char) := do
    match ← rest with
    | c :: _ =>
      if accepts c then
        bumpSpace
        return some c
      else return none
    | [] => return none
  many step ((← rest).length + 1)

/-! ### Escapes -/

def hexValue? (digits : List Char) : Option Nat :=
  digits.foldl (fun value digit => do
    let value ← value
    if '0' ≤ digit && digit ≤ '9' then return value * 16 + (digit.toNat - 48)
    else if 'a' ≤ digit && digit ≤ 'f' then return value * 16 + (digit.toNat - 87)
    else if 'A' ≤ digit && digit ≤ 'F' then return value * 16 + (digit.toNat - 55)
    else none) (some 0)

/-- The character of a code point. -/
def charOf? (value : Nat) : Option Char :=
  if value < 0xD800 ∨ 0xDFFF < value ∧ value < 0x110000 then some (.ofNat value) else none

/-- A part of a pattern that is no group, class in brackets or repetition. -/
inductive Primitive where
  /-- A character; whether it is written as a byte. -/
  | literal (c : Char) (isByte : Bool)
  | set (set : CharacterSet)
  | anyCharacter
  | assertion (holds : Option Char → Option Char → Bool)

/-- The digits of a code point behind `x`, `u` or `U`. -/
def hexEscape (digits : Nat) : Reader Primitive := do
  bumpSpace
  if (← peek) = '\x7b' then
    bumpSpace
    let found ← takeWhile (· != '\x7d')
    let _ ← peek
    bumpSpace
    if found.isEmpty then refuse
    let value ← ofOption (hexValue? found)
    return .literal (← ofOption (charOf? value)) false
  else
    let step (_ : Unit) : Reader Char := do
      let c ← peek
      bumpSpace
      return c
    let found ← (List.replicate digits ()).mapM step
    let value ← ofOption (hexValue? found)
    return .literal (← ofOption (charOf? value)) (digits == 2)

/-- The name of a property behind `p` or `P`. -/
def propertyEscape (negated : Bool) : Reader Primitive := do
  bumpSpace
  let flags ← flags
  if !flags.unicode then refuse
  let close (negated : Bool) (set : Option CharacterSet) : Reader Primitive := do
    return .set (CharacterSet.negatedIf negated (CharacterSet.folded flags (← ofOption set)))
  if (← peek) = '\x7b' then
    bumpSpace
    let name ← takeWhile (· != '\x7d')
    let _ ← peek
    bump
    let sign := if name.contains ':' then ':' else '='
    let property := name.takeWhile (· != sign)
    match splitNotEqual name, name.drop property.length with
    | some (property, value), _ => close (!negated) (CharacterSet.propertyValue? property value)
    | none, _ :: value => close negated (CharacterSet.propertyValue? property value)
    | none, [] => close negated (CharacterSet.property? name)
  else
    let c ← peek
    if c = '\\' then refuse
    bumpSpace
    close negated (CharacterSet.property? [c])
where
  /-- The texts around the first `!=`. -/
  splitNotEqual : List Char → Option (List Char × List Char)
    | '!' :: '=' :: value => some ([], value)
    | c :: rest => (splitNotEqual rest).map fun (name, value) => (c :: name, value)
    | [] => none

def isWordAt (flags : Flags) (c : Option Char) : Bool := c.any (CharacterSet.word flags)

/-- Holds where a word starts. -/
def wordStart (flags : Flags) : Primitive :=
  .assertion fun previous next => !isWordAt flags previous && isWordAt flags next

/-- Holds where a word ends. -/
def wordEnd (flags : Flags) : Primitive :=
  .assertion fun previous next => isWordAt flags previous && !isWordAt flags next

/-- What `\b` stands for, which may name a kind of boundary behind it. -/
def boundaryEscape : Reader Primitive := do
  let flags ← flags
  let plain : Primitive :=
    .assertion fun previous next => isWordAt flags previous != isWordAt flags next
  let before ← rest
  let isName (c : Char) : Bool := c.isAlpha || c == '-'
  match before with
  | '\x7b' :: _ =>
    bumpSpace
    if !isName (← peek) then
      setRest before
      return plain
    let name ← takeWhile isName
    if (← peek) != '\x7d' then refuse
    bump
    match String.ofList name with
    | "start" => return wordStart flags
    | "end" => return wordEnd flags
    | "start-half" => return .assertion fun previous _ => !isWordAt flags previous
    | "end-half" => return .assertion fun _ next => !isWordAt flags next
    | _ => refuse
  | _ => return plain

/-- What stands behind a backslash. -/
def escape : Reader Primitive := do
  bump
  let flags ← flags
  let c ← peek
  match c with
  | 'x' => hexEscape 2
  | 'u' => hexEscape 4
  | 'U' => hexEscape 8
  | 'p' => propertyEscape false
  | 'P' => propertyEscape true
  | c =>
    bump
    match CharacterSet.lettered? flags c with
    | some set => return .set (← ofOption (CharacterSet.checked? flags set))
    | none =>
      match c with
      | 'a' => return .literal '\x07' false
      | 'f' => return .literal '\x0C' false
      | 't' => return .literal '\t' false
      | 'n' => return .literal '\n' false
      | 'r' => return .literal '\r' false
      | 'v' => return .literal '\x0B' false
      | 'A' => return .assertion fun previous _ => previous.isNone
      | 'z' => return .assertion fun _ next => next.isNone
      | 'b' => boundaryEscape
      | 'B' => return .assertion fun previous next =>
          isWordAt flags previous == isWordAt flags next
      | '<' => return wordStart flags
      | '>' => return wordEnd flags
      | c =>
        if c.toNat < 0x80 && !c.isAlphanum then return .literal c false else refuse

/-! ### Classes in brackets -/

/-- What a class that is being read stands in. -/
inductive ClassFrame where
  /-- An opened bracket, and what was read of the class around it. -/
  | bracket (negated : Bool) (outside : CharacterSet)
  /-- An operation whose right side is being read. -/
  | operation (combine : CharacterSet → CharacterSet → CharacterSet) (left : CharacterSet)

/-- Applies the operation whose right side has been read. -/
def applyOperation (flags : Flags) (stack : List ClassFrame) (right : CharacterSet) :
    CharacterSet × List ClassFrame :=
  match stack with
  | .operation combine left :: outer =>
    (combine (CharacterSet.folded flags left) (CharacterSet.folded flags right), outer)
  | stack => (right, stack)

/-- The start of a class: a caret negates it, then minus signs are literal, and a closing bracket
is if it comes first. -/
def openBracket : Reader (Bool × CharacterSet) := do
  bumpSpace
  let negated := (← peek) == '^'
  if negated then bumpSpace
  let dashes ← takeWhile (· == '-')
  let c ← peek
  if c = ']' && dashes.isEmpty then
    bumpSpace
    let _ ← peek
    return (negated, (· == ']'))
  return (negated, if dashes.isEmpty then .none else (· == '-'))

/-- A class in `[:` and `:]`, if that is what comes next. -/
def posixClass : Reader (Option CharacterSet) := do
  match ← rest with
  | '[' :: ':' :: body =>
    let (negated, body) := match body with
      | '^' :: body => (true, body)
      | body => (false, body)
    let name := body.takeWhile (· != ':')
    match body.drop name.length, CharacterSet.posix? name with
    | ':' :: ']' :: after, some set =>
      setRest after
      return some (CharacterSet.negatedIf negated set)
    | _, _ => return none
  | _ => return none

def classItem : Reader Primitive := do
  let c ← peek
  if c = '\\' then escape
  else
    bump
    return .literal c false

/-- The character of a literal in a class; without the Unicode flag it must be ASCII. -/
def classLiteral (item : Primitive) : Reader Char := do
  match item with
  | .literal c _ => if !(← flags).unicode && 0x80 ≤ c.toNat then refuse else return c
  | _ => refuse

/-- A minus sign makes a range unless the class ends behind it, or another one follows. -/
def startsRange (flags : Flags) : List Char → Bool
  | '-' :: after =>
    match if flags.ignoreWhitespace then dropSpace false after else after with
    | ']' :: _ => false
    | '-' :: _ => false
    | _ => true
  | _ => false

/-- One character, class or range. -/
def classRange : Reader CharacterSet := do
  let first ← classItem
  space
  if startsRange (← flags) (← rest) then
    bumpSpace
    let last ← classItem
    let low ← classLiteral first
    let high ← classLiteral last
    if high < low then refuse
    return fun c => low ≤ c && c ≤ high
  else
    let _ ← peek
    match first with
    | .set set => return set
    | item =>
      let character ← classLiteral item
      return (· == character)

/-- Closes a bracket: the class around it, or the whole class where there is none. -/
def closeBracket (stack : List ClassFrame) (read : CharacterSet) :
    Reader (CharacterSet × List ClassFrame) := do
  let flags ← flags
  let (set, stack) := applyOperation flags stack read
  match stack with
  | .bracket negated outside :: outer =>
    let closed := CharacterSet.negatedIf negated (CharacterSet.folded flags set)
    let closed ← ofOption (CharacterSet.checked? flags closed)
    return (CharacterSet.union outside closed, outer)
  | _ => refuse

/-- The operation whose sign comes next. -/
def operator? : List Char → Option (CharacterSet → CharacterSet → CharacterSet)
  | '&' :: '&' :: _ => some .intersection
  | '-' :: '-' :: _ => some .difference
  | '~' :: '~' :: _ => some .symmetricDifference
  | _ => none

/-- Reads on in a class until the outermost bracket is closed. The number is that of the rounds
left; with the class comes the greatest depth of brackets. -/
def classBody : Nat → List ClassFrame → CharacterSet → Nat → Reader (CharacterSet × Nat)
  | 0, _, _, _ => refuse
  | rounds + 1, stack, read, depth => do
    space
    let c ← peek
    match operator? (← rest) with
    | some combine =>
      bump
      bump
      let (left, stack) := applyOperation (← flags) stack read
      classBody rounds (.operation combine left :: stack) .none depth
    | none =>
      if c = ']' then
        let (set, stack) ← closeBracket stack read
        bump
        if stack.isEmpty then return (set, depth) else classBody rounds stack set depth
      else if c = '[' then
        match ← posixClass with
        | some set => classBody rounds stack (.union read set) depth
        | none =>
          let (negated, inner) ← openBracket
          let stack := .bracket negated read :: stack
          classBody rounds stack inner (max depth stack.length)
      else
        let set ← classRange
        classBody rounds stack (.union read set) depth

/-- A class in brackets. -/
def bracketClass : Reader Piece := do
  let (negated, inner) ← openBracket
  let (set, depth) ← classBody ((← rest).length + 1) [.bracket negated .none] inner 1
  return ⟨.symbol set, depth⟩

/-! ### Repetitions -/

/-- A number, with blanks around it. -/
def decimal : Reader (Option Nat) := do
  setRest ((← rest).dropWhile isBlankChar)
  let digits ← takeWhile fun c => '0' ≤ c && c ≤ '9'
  let _ ← takeWhile isBlankChar
  if digits.isEmpty then return none
  let value := digits.foldl (fun value digit => value * 10 + (digit.toNat - 48)) 0
  if value < UInt32.size then return some value else refuse

/-- A question mark behind a repetition changes which match is preferred, not what matches. -/
def lazyMark : Reader Unit := do
  if let '?' :: _ ← rest then bump

/-- The bounds of a repetition in braces. -/
def bounds : Reader (Nat × Option Nat) := do
  bumpSpace
  let _ ← peek
  let least ← decimal
  let result ← match ← peek, least with
    | ',', some least =>
      bumpSpace
      if (← peek) = '\x7d' then pure (least, none)
      else
        let most ← ofOption (← decimal)
        pure (least, some most)
    | _, some least => pure (least, some least)
    | _, none => refuse
  if (← peek) != '\x7d' then refuse
  bumpSpace
  lazyMark
  match result with
  | (least, some most) => if most < least then refuse else return (least, some most)
  | open_ => return open_

/-! ### Flags and groups -/

/-- Sets a flag; the preference for short matches does not change what matches. -/
def withFlag (flags : Flags) (letter : Char) (value : Bool) : Option Flags :=
  match letter with
  | 'i' => some { flags with caseInsensitive := value }
  | 'm' => some { flags with multiLine := value }
  | 's' => some { flags with dotMatchesNewline := value }
  | 'U' => some flags
  | 'u' => some { flags with unicode := value }
  | 'R' => some { flags with carriageReturn := value }
  | 'x' => some { flags with ignoreWhitespace := value }
  | _ => none

/-- Reads flags up to a colon or a closing parenthesis, which comes with what follows it. No
letter and no minus sign may be repeated, and a minus sign may not be the last. -/
def readFlags (flags : Flags) (seen : List Char) (value : Bool) :
    List Char → Option (Flags × Bool × List Char)
  | [] => none
  | c :: after =>
    if c = ':' ∨ c = ')' then
      if seen.head? = some '-' ∨ (c = ')' ∧ seen.isEmpty) then none
      else some (flags, c == ':', after)
    else if seen.contains c then none
    else if c = '-' then readFlags flags (c :: seen) false after
    else
      match withFlag flags c value with
      | some flags => readFlags flags (c :: seen) value after
      | none => none

def isNameStart (c : Char) : Bool := c == '_' || Unicode.Property.alphabetic c

def isNamePart (c : Char) : Bool :=
  c == '_' || c == '.' || c == '[' || c == ']' || Unicode.Property.alphabetic c ||
    Unicode.Category.containedIn Unicode.Category.numbers c

/-- The name of a group, which no other group has. -/
def groupName : Reader Unit := do
  let before ← rest
  let name := before.takeWhile (· != '>')
  match name, before.drop name.length with
  | first :: others, '>' :: after =>
    if !isNameStart first || !others.all isNamePart then refuse
    if (← get).names.contains name then refuse
    modify fun state => { state with rest := after, names := name :: state.names }
  | _, _ => refuse

/-- What an opening parenthesis starts. -/
inductive Opening where
  | group
  /-- Flags for the rest of the group around it. -/
  | flags

/-- Reads an opening parenthesis and what belongs to it, and sets the flags for what follows. -/
def openGroup : Reader Opening := do
  bump
  space
  match ← rest with
  | '?' :: '=' :: _ => refuse
  | '?' :: '!' :: _ => refuse
  | '?' :: '<' :: '=' :: _ => refuse
  | '?' :: '<' :: '!' :: _ => refuse
  | '?' :: after =>
    if ← takeText "?P<" then
      groupName
      return .group
    if ← takeText "?<" then
      groupName
      return .group
    let (changed, isGroup, after) ← ofOption (readFlags (← flags) [] true after)
    setFlags changed
    setRest after
    return if isGroup then .group else .flags
  | _ => return .group

/-! ### Whole patterns -/

/-- A sequence that is being read, last part first; flags count as parts without expression. -/
abbrev Sequence := List (Option Piece)

/-- The finished branches of a choice, last one first, and the sequence being read. -/
structure Choice where
  branches : List Piece := []
  sequence : Sequence := []

/-- A group that has been opened: the choice it stands in, and the flags before it. -/
structure Frame where
  outside : Choice
  flags : Flags

def closeSequence (sequence : Sequence) : Piece :=
  let pieces := sequence.reverse.filterMap id
  let depth := pieces.foldl (fun depth piece => max depth piece.depth) 0
  ⟨.inOrder (pieces.map (·.expression)), if sequence.length < 2 then depth else depth + 1⟩

def closeChoice (choice : Choice) : Piece :=
  let last := closeSequence choice.sequence
  match choice.branches with
  | [] => last
  | branches =>
    let depth := branches.foldl (fun depth piece => max depth piece.depth) last.depth
    match branches.reverse with
    | [] => last
    | first :: others =>
      ⟨.oneOf first.expression (others.map (·.expression) ++ [last.expression]), depth + 1⟩

def Choice.add (choice : Choice) (piece : Option Piece) : Choice :=
  { choice with sequence := piece :: choice.sequence }

/-- Repeats the last part of a sequence, which must be there and be no flags. -/
def Choice.repeatLast (choice : Choice) (least : Nat) (most : Option Nat) : Option Choice :=
  match choice.sequence with
  | some last :: before =>
    some { choice with
      sequence := some ⟨.iteration last.expression least most, last.depth + 1⟩ :: before }
  | _ => none

/-- The start of a text, or of a line. -/
def startAssertion (flags : Flags) : Expression Char :=
  .assertion fun previous next =>
    previous.isNone || flags.multiLine &&
      (previous == some '\n' ||
        flags.carriageReturn && previous == some '\r' && next != some '\n')

/-- The end of a text, or of a line. -/
def endAssertion (flags : Flags) : Expression Char :=
  .assertion fun previous next =>
    next.isNone || flags.multiLine &&
      if flags.carriageReturn then
        next == some '\r' || next == some '\n' && previous != some '\r'
      else next == some '\n'

/-- What a dot stands for; a byte that need not be a character is refused. -/
def dotSet? (flags : Flags) : Option CharacterSet :=
  if !flags.unicode then none
  else if flags.dotMatchesNewline then some fun _ => true
  else if flags.carriageReturn then some fun c => c != '\n' && c != '\r'
  else some fun c => c != '\n'

def primitive : Reader (Expression Char) := do
  let flags ← flags
  let c ← peek
  let item ← match c with
    | '\\' => escape
    | '.' => bump; pure .anyCharacter
    | '^' => bump; return startAssertion flags
    | '$' => bump; return endAssertion flags
    | c => bump; pure (.literal c false)
  match item with
  | .literal c isByte =>
    if isByte && !flags.unicode && 0x80 ≤ c.toNat then refuse
    return .symbol (CharacterSet.literal flags c)
  | .set set => return .symbol set
  | .anyCharacter => return .symbol (← ofOption (dotSet? flags))
  | .assertion holds => return .assertion holds

/-- Reads on to the end of the pattern. -/
def body : Nat → List Frame → Choice → Reader Piece
  | 0, _, _ => refuse
  | rounds + 1, stack, choice => do
    space
    match ← rest, stack with
    | [], [] => return closeChoice choice
    | [], _ :: _ => refuse
    | '(' :: _, stack =>
      let before ← flags
      match ← openGroup with
      | .group => body rounds (⟨choice, before⟩ :: stack) {}
      | .flags => body rounds stack (choice.add none)
    | ')' :: after, frame :: outer =>
      setRest after
      setFlags frame.flags
      let inner := closeChoice choice
      body rounds outer (frame.outside.add (some ⟨inner.expression, inner.depth + 1⟩))
    | ')' :: _, [] => refuse
    | '|' :: after, stack =>
      setRest after
      body rounds stack { branches := closeSequence choice.sequence :: choice.branches }
    | '[' :: _, stack =>
      let piece ← bracketClass
      body rounds stack (choice.add (some piece))
    | '?' :: _, stack => repetition rounds stack choice 0 (some 1)
    | '*' :: _, stack => repetition rounds stack choice 0 none
    | '+' :: _, stack => repetition rounds stack choice 1 none
    | '\x7b' :: _, stack =>
      let (least, most) ← bounds
      let choice ← ofOption (choice.repeatLast least most)
      body rounds stack choice
    | _ :: _, stack =>
      let expression ← primitive
      body rounds stack (choice.add (some ⟨expression, 0⟩))
where
  /-- A repetition written as one sign. -/
  repetition (rounds : Nat) (stack : List Frame) (choice : Choice) (least : Nat)
      (most : Option Nat) : Reader Piece := do
    let choice ← ofOption (choice.repeatLast least most)
    bump
    lazyMark
    body rounds stack choice

end Reader

/-- Reads a pattern; `none` where it is no regular expression. -/
def parse? (pattern : List Char) : Option (Expression Char) :=
  match (Reader.body (pattern.length + 1) [] {}).run { rest := pattern } with
  | some (piece, _) => if piece.depth ≤ nestingLimit then some piece.expression else none
  | none => none

end TwinTree.Regex
