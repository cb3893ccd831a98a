/-!
# Pattern expressions

Regular expressions over any kind of symbol, with assertions about the neighbours of a place in
the text. `Expression.advance` says which places a match can end at when it starts at one of the
given places. Sets of places take the role of states, so a match never goes back, and repetition
ends because each round must reach a place that was not reached before.
-/
namespace TwinTree

inductive Expression (α : Type) where
  /-- Matches the empty text. -/
  | empty
  /-- Matches one symbol of a class. -/
  | symbol (accepts : α → Bool)
  /-- Matches the empty text at a place with the right neighbours. -/
  | assertion (holds : Option α → Option α → Bool)
  | sequence (first second : Expression α)
  | choice (left right : Expression α)
  /-- Matches at least `least` times, and at most `most` times if there is a bound. -/
  | iteration (body : Expression α) (least : Nat) (most : Option Nat)

/-- A place in a text: how many symbols come before it, the last of them, and those behind it. -/
structure Cursor (α : Type) where
  index : Nat
  previous : Option α
  rest : List α

namespace Cursor

variable {α : Type}

def start (text : List α) : Cursor α := ⟨0, none, text⟩

/-- The cursor behind the next symbol, when that symbol is accepted. -/
def next? (accepts : α → Bool) (cursor : Cursor α) : Option (Cursor α) :=
  match cursor.rest with
  | symbol :: rest => if accepts symbol then some ⟨cursor.index + 1, some symbol, rest⟩ else none
  | [] => none

/-- A cursor and all cursors behind it. -/
def onwards (index : Nat) (previous : Option α) : List α → List (Cursor α)
  | [] => [⟨index, previous, []⟩]
  | symbol :: rest =>
    ⟨index, previous, symbol :: rest⟩ :: onwards (index + 1) (some symbol) rest

/-- Puts a cursor into a list ordered by index, unless it is there. -/
def insert (cursor : Cursor α) : List (Cursor α) → List (Cursor α)
  | [] => [cursor]
  | other :: rest =>
    if cursor.index < other.index then cursor :: other :: rest
    else if cursor.index = other.index then other :: rest
    else other :: insert cursor rest

def union (left right : List (Cursor α)) : List (Cursor α) := left.foldr insert right

/-- The cursors of the first list whose index is not in the second. -/
def difference (left right : List (Cursor α)) : List (Cursor α) :=
  left.filter fun cursor => !right.any fun other => other.index == cursor.index

end Cursor

namespace Expression

variable {α : Type}

/-- Matches every text. -/
def everything : Expression α := iteration (symbol fun _ => true) 0 none

/-- Matches one given text. -/
def exactly [BEq α] : List α → Expression α
  | [] => empty
  | [first] => symbol (· == first)
  | first :: rest => sequence (symbol (· == first)) (exactly rest)

/-- Matches at most once. -/
def optional (body : Expression α) : Expression α := iteration body 0 (some 1)

/-- The sequence of a list of expressions. -/
def inOrder : List (Expression α) → Expression α
  | [] => empty
  | [only] => only
  | first :: rest => sequence first (inOrder rest)

/-- The choice between a first expression and others. -/
def oneOf (first : Expression α) : List (Expression α) → Expression α
  | [] => first
  | second :: rest => choice first (oneOf second rest)

/-- Does a step a number of times, or until nothing is left. -/
def repeatStep (step : List (Cursor α) → List (Cursor α)) :
    Nat → List (Cursor α) → List (Cursor α)
  | 0, cursors => cursors
  | count + 1, cursors => if cursors.isEmpty then [] else repeatStep step count (step cursors)

/-- What a step reaches in at most the given number of rounds. Each round goes on from the cursors
that the round before was the first to reach. -/
def gather (step : List (Cursor α) → List (Cursor α)) :
    Nat → List (Cursor α) → List (Cursor α) → List (Cursor α)
  | 0, _, reached => reached
  | rounds + 1, fresh, reached =>
    let found := Cursor.difference (step fresh) reached
    if found.isEmpty then reached else gather step rounds found (Cursor.union found reached)

/-- Rounds that are enough to reach everything: one for each symbol still ahead of a cursor. -/
def enoughRounds (cursors : List (Cursor α)) : Nat :=
  cursors.foldl (fun most cursor => max most cursor.rest.length) 0 + 1

/-- The cursors at which a match can end that starts at one of the given cursors. -/
def advance : Expression α → List (Cursor α) → List (Cursor α)
  | empty, cursors => cursors
  | symbol accepts, cursors => cursors.filterMap (Cursor.next? accepts)
  | assertion holds, cursors =>
    cursors.filter fun cursor => holds cursor.previous cursor.rest.head?
  | sequence first second, cursors => second.advance (first.advance cursors)
  | choice left right, cursors => Cursor.union (left.advance cursors) (right.advance cursors)
  | iteration body least most, cursors =>
    let reached := repeatStep body.advance least cursors
    let rounds := match most with
      | none => enoughRounds reached
      | some most => most - least
    gather body.advance rounds reached reached

/-- Whether the expression matches the whole text. -/
def matchesAll (expression : Expression α) (text : List α) : Bool :=
  (expression.advance [Cursor.start text]).any (·.rest.isEmpty)

/-- Whether the expression matches somewhere in the text. -/
def matchesSome (expression : Expression α) (text : List α) : Bool :=
  !(expression.advance (Cursor.onwards 0 none text)).isEmpty

end Expression

end TwinTree
