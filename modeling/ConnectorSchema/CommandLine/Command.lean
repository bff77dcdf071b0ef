import ConnectorSchema.Formatter
import ConnectorSchema.Schema.Kind

/-!
What the program can be asked to do.
-/

namespace ConnectorSchema.CommandLine

/-- The name of the program. -/
def programName : String := "schemagen"

/-- The kinds of connectors that a command is about. -/
inductive Selection where
  | only (kind : EntityKind)
  | all
deriving DecidableEq, Repr

namespace Selection

def words : List (String × Selection) := [
  ("sources", .only .source), ("destinations", .only .destination), ("transforms", .only .transform),
  ("all", .all)]

def kinds : Selection → List EntityKind
  | .only kind => [kind]
  | .all => EntityKind.all

end Selection

inductive Command where
  /-- Generates the files of all selected connectors. -/
  | generate (backend output : String) (selection : Selection) (formatter : FormatterChoice)
  | list (backend : String) (selection : Selection)
  /-- Shows the attributes of one document. -/
  | inspect (file : String) (kind : EntityKind) (code : String)
deriving DecidableEq, Repr

/-- Names of commands. -/
inductive Verb where
  | generate
  | list
  | inspect
deriving DecidableEq, Repr

namespace Verb

def all : List Verb := [.generate, .list, .inspect]

def name : Verb → String
  | .generate => "generate"
  | .list => "list"
  | .inspect => "inspect"

def summary : Verb → String
  | .generate => "Generate schema files for every discovered connector"
  | .list => "List discovered connectors"
  | .inspect => "Show the attributes a configuration file would generate"

def ofName? (name : String) : Option Verb := all.find? (·.name = name)

end Verb

/-- A command, and whether its reports are wanted in full. -/
structure Request where
  command : Command
  verbose : Bool
deriving DecidableEq

end ConnectorSchema.CommandLine
