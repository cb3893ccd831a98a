import TwinTree.Text.Substitution

/-!
# Adapting content

The content of a copied file is adapted by an ordered list of rules, each of which sees what the
rule before it left. Some rules apply to every file, the others only where linkage keywords are
stripped. A rule may exist to undo what an earlier, blunter one did too much of; it then names the
rule it repairs.
-/
namespace TwinTree

/-- The names by which sources and their twins refer to the project. -/
structure Vocabulary where
  /-- The token of the project, replaced wherever it stands. -/
  projectToken : String := "hazel"
  /-- What the token becomes in the twin. -/
  twinToken : String := "HazelInternalTests"
  /-- The name shown to users, which stays in front of the qualifier. -/
  displayName : String := "Hazel"
  displayQualifier : String := "Language"
  /-- The header that includes all others. -/
  umbrellaHeader : String := "hazel.h"
  twinUmbrellaHeader : String := "HazelInternalTests.h"
  deriving DecidableEq, Repr, Inhabited

namespace Rule

inductive Pattern where
  /-- Every occurrence of a text. -/
  | literal (text : List Char)
  /-- A whole word and one space behind it. -/
  | keyword (word : List Char)
  deriving DecidableEq, Repr

inductive Scope where
  | always
  /-- Only where linkage keywords are stripped. -/
  | strippedOnly
  deriving DecidableEq, Repr

/-- The characters that a regular expression takes literally only behind a backslash. -/
def metacharacters : List Char := "\\.+*?()|[]\x7b\x7d^$#&-~".toList

/-- The pattern in writing: a literal is its text, a keyword the regular expression that finds
it. -/
def Pattern.text : Pattern → List Char
  | literal text => text
  | keyword word =>
    ['\\', 'b'] ++ (word.flatMap fun c => if metacharacters.contains c then ['\\', c] else [c]) ++
      [' ']

end Rule

structure Rule where
  label : String
  pattern : Rule.Pattern
  replacement : List Char
  scope : Rule.Scope
  /-- The label of the rule whose excess this one undoes. -/
  repairs : Option String := none
  deriving DecidableEq, Repr

namespace Rule

def literal (label pattern replacement : String) (scope : Scope) : Rule :=
  { label, pattern := .literal pattern.toList, replacement := replacement.toList, scope }

/-- Takes a keyword and the space behind it out where keywords are stripped. -/
def stripKeyword (label keyword : String) : Rule :=
  { label, pattern := .keyword keyword.toList, replacement := [], scope := .strippedOnly }

def repairing (rule : Rule) (label : String) : Rule := { rule with repairs := some label }

def applies (rule : Rule) (stripping : Bool) : Bool :=
  match rule.scope with
  | .always => true
  | .strippedOnly => stripping

def apply (rule : Rule) (text : List Char) : List Char :=
  match rule.pattern with
  | .literal pattern => replaceLiteral pattern rule.replacement text
  | .keyword word => replaceKeyword word rule.replacement text

/-- The rules of a vocabulary, in the order in which they apply. The pair of keywords comes before
its parts, so that neither is left behind by itself, and each repair right behind the rule whose
work it mends. -/
def standard (names : Vocabulary) : List Rule :=
  [literal "identity" names.projectToken names.twinToken .always,
   (literal "display-restore" (names.twinToken ++ " " ++ names.displayQualifier)
     (names.displayName ++ " " ++ names.displayQualifier) .always).repairing "identity",
   literal "umbrella-header" names.umbrellaHeader names.twinUmbrellaHeader .always,
   stripKeyword "strip-static-inline" "static inline",
   stripKeyword "strip-static" "static",
   stripKeyword "strip-inline" "inline",
   stripKeyword "strip-extern" "extern",
   (literal "linkage-block-restore" "\"C\" \x7b" "extern \"C\" \x7b" .strippedOnly).repairing
     "strip-extern",
   literal "comment-marker" "// \"C\"" "// extern \"C\"" .always]

end Rule

/-- Applies the rules in order, those for stripping only if `stripping`. -/
def adapt (rules : List Rule) (stripping : Bool) (text : List Char) : List Char :=
  (rules.filter (·.applies stripping)).foldl (fun text rule => rule.apply text) text

end TwinTree
