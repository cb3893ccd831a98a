import TwinTree.Pattern.Expression
import TwinTree.Text.Utf8.Basic

/-!
# Glob patterns

A glob matches a name as a whole and byte by byte: `?` and a class stand for one byte, so a
character past ASCII is matched by as many of them as it has bytes. `*` stands for any bytes, the
slash included; `\x7ba,b\x7d` is a choice whose empty branches do not count. `**` is special only
as a whole component of the pattern: at its start it stands for any directories, at its end for
anything beneath, in between for any directories between two slashes.
-/
namespace TwinTree.Glob

inductive Error where
  | unclosedClass
  /-- A range in a class ends before it starts. -/
  | invalidRange (first last : Char)
  | unopenedAlternates
  | unclosedAlternates
  | danglingEscape
  deriving DecidableEq, Repr

def Error.message : Error → String
  | unclosedClass => "unclosed character class; missing ']'"
  | invalidRange first last =>
    "invalid range; '" ++ first.toString ++ "' > '" ++ last.toString ++ "'"
  | unopenedAlternates =>
    "unopened alternate group; missing '\x7b' (maybe escape '\x7d' with '[\x7d]'?)"
  | unclosedAlternates =>
    "unclosed alternate group; missing '\x7d' (maybe escape '\x7b' with '[\x7b]'?)"
  | danglingEscape => "dangling '\\'"

/-- The bytes a class lists: both ends of a range count by their bytes, and the range lies between
the last byte of the one and the first byte of the other. -/
def rangeAccepts (first last : Char) (byte : UInt8) : Bool :=
  (Utf8.encodeChar first).contains byte || (Utf8.encodeChar last).contains byte ||
    first != last &&
      ((Utf8.encodeChar first).getLast?.all fun low => low ≤ byte) &&
      ((Utf8.encodeChar last).head?.all fun high => byte ≤ high)

inductive Token where
  | literal (c : Char)
  | anyByte
  | anyBytes
  /-- `**` and a slash at the start: nothing, or anything that ends in a slash. -/
  | directoriesBefore
  /-- A slash and `**` at the end: a slash and anything. -/
  | anythingBeneath
  /-- `**` between slashes: one slash, or anything between two. -/
  | directoriesBetween
  | byteClass (negated : Bool) (ranges : List (Char × Char))
  | alternates (branches : List (Expression UInt8))

def slashByte : Expression UInt8 := .symbol (· == 0x2F)

/-- A choice whose branches were all empty matches nothing by itself. -/
def Token.expression? : Token → Option (Expression UInt8)
  | literal c => some (.exactly (Utf8.encodeChar c))
  | anyByte => some (.symbol fun _ => true)
  | anyBytes => some .everything
  | directoriesBefore => some (.choice (.optional slashByte) (.sequence .everything slashByte))
  | anythingBeneath => some (.sequence slashByte .everything)
  | directoriesBetween =>
    some (.choice slashByte (.sequence slashByte (.sequence .everything slashByte)))
  | byteClass negated ranges =>
    some (.symbol fun byte => negated != ranges.any fun range => rangeAccepts range.1 range.2 byte)
  | alternates [] => none
  | alternates (first :: rest) => some (.oneOf first rest)

/-- A branch is the sequence of its tokens, which are kept last token first. -/
abbrev Branch := List Token

/-- A branch that adds nothing to the pattern has no expression. -/
def Branch.expression? (branch : Branch) : Option (Expression UInt8) :=
  match branch.reverse.filterMap Token.expression? with
  | [] => none
  | pieces => some (.inOrder pieces)

/-! ### Parsing -/

/-- A choice that has been opened: what came before it, and its finished branches. -/
structure Group where
  outside : Branch
  finished : List Branch

/-- A class that has been opened, its ranges last one first. A minus sign may wait for the end of
its range. -/
structure OpenClass where
  negated : Bool
  ranges : List (Char × Char)
  inRange : Bool

structure State where
  /-- The branch being read. -/
  branch : Branch
  /-- The choices it stands in, the innermost first. -/
  groups : List Group
  /-- The character before the next one. -/
  previous : Option Char

def State.initial : State := ⟨[], [], none⟩

/-- Adds tokens behind which the given character was read. -/
def State.push (state : State) (tokens : List Token) (last : Option Char) : State :=
  { state with branch := tokens.reverse ++ state.branch, previous := last }

def State.openGroup (state : State) : State :=
  ⟨[], ⟨state.branch, []⟩ :: state.groups, some '\x7b'⟩

/-- Outside a choice a comma is a literal. -/
def State.comma (state : State) : State :=
  match state.groups with
  | [] => state.push [.literal ','] (some ',')
  | group :: outer =>
    ⟨[], { group with finished := state.branch :: group.finished } :: outer, some ','⟩

def State.closeGroup (state : State) : Except Error State :=
  match state.groups with
  | [] => .error .unopenedAlternates
  | group :: outer =>
    let branches := (state.branch :: group.finished).reverse.filterMap Branch.expression?
    .ok ⟨.alternates branches :: group.outside, outer, some '\x7d'⟩

/-- Two stars that are not a whole component are two single stars. -/
def State.twoStars (state : State) : State := state.push [.anyBytes, .anyBytes] (some '*')

/-- Whether two stars behind other tokens can be a whole component. -/
def State.startsComponent (state : State) : Bool :=
  state.previous == some '/' ||
    !state.groups.isEmpty && (state.previous == some ',' || state.previous == some '\x7b')

/-- Two stars that are a component behind other tokens take the token before them, the slash, into
their meaning; a `**` there absorbs them. -/
def State.recursiveComponent (state : State) (token : Token) (last : Option Char) : State :=
  match state.branch with
  | .directoriesBefore :: before => { state with
      branch := .directoriesBefore :: before, previous := last }
  | .anythingBeneath :: before => { state with
      branch := .anythingBeneath :: before, previous := last }
  | _ :: before => { state with branch := token :: before, previous := last }
  | [] => state.push [token] last

/-- One more character of a class; `none` when it closes the class. -/
def OpenClass.step (open_ : OpenClass) (c : Char) : Except Error (Option OpenClass) :=
  match open_.ranges with
  | [] => .ok (some { open_ with ranges := [(c, c)] })
  | (first, last) :: before =>
    if c = ']' then .ok none
    else if open_.inRange then
      if c < first then .error (.invalidRange first c)
      else .ok (some { open_ with ranges := (first, c) :: before, inRange := false })
    else if c = '-' then .ok (some { open_ with inRange := true })
    else .ok (some { open_ with ranges := (c, c) :: (first, last) :: before })

/-- A minus sign that stands last in a class is a literal. -/
def OpenClass.token (open_ : OpenClass) : Token :=
  .byteClass open_.negated
    ((if open_.inRange then ('-', '-') :: open_.ranges else open_.ranges).reverse)

/-- Reads the characters of a glob, some of them inside a class. -/
def read : State → Option OpenClass → List Char → Except Error State
  | state, none, [] => .ok state
  | _, some _, [] => .error .unclosedClass
  | state, some open_, c :: rest =>
    match open_.step c with
    | .error error => .error error
    | .ok none => read (state.push [open_.token] (some c)) none rest
    | .ok (some wider) => read { state with previous := some c } (some wider) rest
  | state, none, '*' :: '*' :: rest =>
    match rest with
    | [] =>
      if state.branch.isEmpty then .ok (state.push [.directoriesBefore] none)
      else if state.startsComponent then .ok (state.recursiveComponent .anythingBeneath none)
      else .ok state.twoStars
    | '/' :: rest =>
      if state.branch.isEmpty then read (state.push [.directoriesBefore] (some '/')) none rest
      else if state.startsComponent then
        read (state.recursiveComponent .directoriesBetween (some '/')) none rest
      else read state.twoStars none ('/' :: rest)
    | c :: rest =>
      if (c = ',' ∨ c = '\x7d') ∧ ¬state.groups.isEmpty ∧ ¬state.branch.isEmpty ∧
          state.startsComponent then
        read (state.recursiveComponent .anythingBeneath (some '*')) none (c :: rest)
      else read state.twoStars none (c :: rest)
  | state, none, '*' :: rest => read (state.push [.anyBytes] (some '*')) none rest
  | state, none, '?' :: rest => read (state.push [.anyByte] (some '?')) none rest
  | state, none, '[' :: rest =>
    match rest with
    | '!' :: rest => read { state with previous := some '!' } (some ⟨true, [], false⟩) rest
    | '^' :: rest => read { state with previous := some '^' } (some ⟨true, [], false⟩) rest
    | rest => read { state with previous := some '[' } (some ⟨false, [], false⟩) rest
  | state, none, '\x7b' :: rest => read state.openGroup none rest
  | state, none, '\x7d' :: rest =>
    match state.closeGroup with
    | .error error => .error error
    | .ok closed => read closed none rest
  | state, none, ',' :: rest => read state.comma none rest
  | _, none, ['\\'] => .error .danglingEscape
  | state, none, '\\' :: c :: rest => read (state.push [.literal c] (some c)) none rest
  | state, none, c :: rest => read (state.push [.literal c] (some c)) none rest

/-- A pattern that is `**` alone, or followed by one slash, matches everything. -/
def expression (branch : Branch) : Expression UInt8 :=
  match branch with
  | [.directoriesBefore] => .everything
  | branch => (Branch.expression? branch).getD .empty

def parse? (pattern : List Char) : Except Error (Expression UInt8) :=
  match read .initial none pattern with
  | .error error => .error error
  | .ok state =>
    if state.groups.isEmpty then .ok (expression state.branch) else .error .unclosedAlternates

end TwinTree.Glob
