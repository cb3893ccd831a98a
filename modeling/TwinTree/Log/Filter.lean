import TwinTree.Journal
import TwinTree.Pattern.Matcher
import TwinTree.Text.Blank
import TwinTree.Text.Split

/-!
# Which log lines are shown

A specification lists directives separated by commas and, behind a slash, a regular expression for
messages. A directive is a level, a target name, or `name=level`; it is about the targets whose
names start with its name. Of the directives about a target the one with the longest name decides,
and among equally long ones the last. Parts that make no sense are left out with a warning.
-/
namespace TwinTree.Log

/-- How much is shown: nothing, or everything up to a level. -/
inductive Threshold where
  | off
  | upTo (level : Level)
  deriving DecidableEq, Repr

namespace Level

/-- The more severe a level, the smaller its rank. -/
def rank : Level → Nat
  | error => 1
  | warn => 2
  | info => 3
  | debug => 4
  | trace => 5

def name : Level → String
  | error => "ERROR"
  | warn => "WARN"
  | info => "INFO"
  | debug => "DEBUG"
  | trace => "TRACE"

end Level

/-- The name by which directives know a part of the library. -/
def Source.target : Source → String
  | pass => "linkmirror_io_fs::mirror"
  | report => "linkmirror_io_fs::report"

namespace Threshold

def admits (threshold : Threshold) (level : Level) : Bool :=
  match threshold with
  | off => false
  | upTo limit => level.rank ≤ limit.rank

/-- Everything is shown. -/
def most : Threshold := upTo .trace

/-- Reads the name of a level in any case, or `off`. -/
def parse? (text : List Char) : Option Threshold :=
  let upper := text.map Char.toUpper
  if upper = "OFF".toList then some off
  else ([.error, .warn, .info, .debug, .trace].find? fun level : Level =>
    level.name.toList == upper).map upTo

end Threshold

/-- A threshold for the targets whose names start with the given one. -/
structure Directive where
  name : Option (List Char)
  threshold : Threshold
  deriving DecidableEq, Repr

namespace Directive

def concerns (directive : Directive) (target : List Char) : Bool :=
  directive.name.all (·.isPrefixOf target)

/-- The length of the name in bytes. -/
def weight (directive : Directive) : Nat :=
  match directive.name with
  | none => 0
  | some name => (Utf8.encode name).length

/-- A directive takes the place of an earlier one for the same name. -/
def add (directive : Directive) : List Directive → List Directive
  | [] => [directive]
  | other :: rest =>
    if other.name = directive.name then directive :: rest else other :: add directive rest

/-- Reads one directive, or says what is wrong with it. -/
def parse? (text : List Char) : Except String Directive :=
  match pieces '=' text with
  | [single] =>
    match Threshold.parse? single with
    | some threshold => .ok ⟨none, threshold⟩
    | none => .ok ⟨some single, .most⟩
  | [name, level] =>
    let level := trim level
    if level.isEmpty then .ok ⟨some name, .most⟩
    else match Threshold.parse? level with
      | some threshold => .ok ⟨some name, threshold⟩
      | none => .error ("invalid logging spec '" ++ String.ofList level ++ "'")
  | _ => .error ("invalid logging spec '" ++ String.ofList text ++ "'")

end Directive

structure Filter where
  directives : List Directive
  /-- Only messages in which this is found are shown. -/
  message : Option (Expression Char)

namespace Filter

/-- A filter and the warnings about what was left out of it. -/
structure Reading where
  filter : Filter
  warnings : List String

/-- Reads the directives in order. -/
def parseDirectives : List (List Char) → List Directive × List String
  | [] => ([], [])
  | text :: rest =>
    let (directives, warnings) := parseDirectives rest
    if (trim text).isEmpty then (directives, warnings)
    else match Directive.parse? (trim text) with
      | .ok directive => (directive :: directives, warnings)
      | .error warning => (directives, warning :: warnings)

/-- Reads a specification. -/
def parse (specification : String) : Reading :=
  match pieces '/' specification.toList with
  | [directives] => withMessage directives none
  | [directives, message] => withMessage directives (some message)
  | _ => ⟨⟨[], none⟩,
      ["invalid logging spec '" ++ specification ++ "' (too many '/'s)"]⟩
where
  withMessage (directives : List Char) (message : Option (List Char)) : Reading :=
    let (directives, warnings) := parseDirectives (pieces ',' directives)
    let directives := directives.foldl (fun known directive => directive.add known) []
    match message with
    | none => ⟨⟨directives, none⟩, warnings⟩
    | some pattern =>
      match Regex.parse? pattern with
      | some expression => ⟨⟨directives, some expression⟩, warnings⟩
      | none => ⟨⟨directives, none⟩, warnings ++
          ["invalid regex filter - regex parse error:\n    " ++ String.ofList pattern]⟩

/-- The directive that decides about a target. -/
def deciding? (directives : List Directive) (target : List Char) : Option Directive :=
  (directives.filter (·.concerns target)).foldl (fun best directive =>
    match best with
    | none => some directive
    | some other => if other.weight ≤ directive.weight then some directive else some other) none

/-- Without any directive only errors are shown. -/
def admits (filter : Filter) (entry : Entry) : Bool :=
  let directives := if filter.directives.isEmpty then [⟨none, .upTo .error⟩] else filter.directives
  let allowed := match deciding? directives entry.source.target.toList with
    | some directive => directive.threshold.admits entry.level
    | none => false
  allowed && filter.message.all (·.matchesSome entry.message.toList)

end Filter

/-- A log line as shown: the level in five columns, further lines of the message indented. -/
def Entry.display (entry : Entry) : String :=
  let name := entry.level.name.toList
  let padded := name ++ List.replicate (5 - name.length) ' '
  let message := entry.message.toList.flatMap fun c =>
    if c = '\n' then "\n    ".toList else [c]
  String.ofList (['['] ++ padded ++ [']', ' '] ++ message ++ ['\n'])

end TwinTree.Log
