import TwinTree.Pattern.Glob
import TwinTree.Pattern.Regex.Parser

/-!
# Exclusion patterns

A pattern is read in one of three modes and then asked about names. A list of patterns excludes a
name when one of them matches it. No list and an empty list are the same: nothing is excluded.
-/
namespace TwinTree

inductive PatternMode where
  /-- Shell wildcards, matched against the whole name. -/
  | glob
  /-- A regular expression, searched for in the name. -/
  | regex
  /-- A text, searched for in the name. -/
  | literal
  deriving DecidableEq, Repr, Inhabited

inductive Matcher where
  | glob (expression : Expression UInt8)
  | regex (expression : Expression Char)
  | literal (text : List Char)

/-- Whether `pattern` stands somewhere in `text`. -/
def occursIn (pattern : List Char) : List Char → Bool
  | [] => pattern.isEmpty
  | c :: rest => pattern.isPrefixOf (c :: rest) || occursIn pattern rest

namespace Matcher

/-- Reads a pattern; the error is the reason as it is shown. For a regular expression it is only the
beginning of that: below the pattern there would be a mark where it is wrong, and why. -/
def parse? (mode : PatternMode) (pattern : String) : Except String Matcher :=
  match mode with
  | .literal => .ok (.literal pattern.toList)
  | .glob =>
    match Glob.parse? pattern.toList with
    | .ok expression => .ok (.glob expression)
    | .error error => .error ("error parsing glob '" ++ pattern ++ "': " ++ error.message)
  | .regex =>
    match Regex.parse? pattern.toList with
    | some expression => .ok (.regex expression)
    | none => .error ("regex parse error:\n    " ++ pattern)

def accepts (matcher : Matcher) (name : List Char) : Bool :=
  match matcher with
  | literal text => occursIn text name
  | glob expression => expression.matchesAll (Utf8.encode name)
  | regex expression => expression.matchesSome name

end Matcher

/-- Patterns that have been read, or none where none were given. -/
abbrev Exclusions := Option (List Matcher)

namespace Exclusions

/-- Reads the patterns in order and stops at the first that is not one. -/
def parseAll? (mode : PatternMode) : List String → Except String (List Matcher)
  | [] => .ok []
  | pattern :: rest => do
    let matcher ← Matcher.parse? mode pattern
    let others ← parseAll? mode rest
    return matcher :: others

def parse? (mode : PatternMode) : Option (List String) → Except String Exclusions
  | none => .ok none
  | some [] => .ok none
  | some patterns => some <$> parseAll? mode patterns

def excludes (exclusions : Exclusions) (name : List Char) : Bool :=
  exclusions.any fun matchers => matchers.any (·.accepts name)

end Exclusions

end TwinTree
