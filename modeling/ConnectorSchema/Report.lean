import ConnectorSchema.Schema.Kind
import ConnectorSchema.Text.Quoted

/-!
What a run reports while it is under way, and how much of it is shown.
-/

namespace ConnectorSchema

inductive Level where
  | error
  | warning
  | info
  | debug
deriving DecidableEq, Repr

namespace Level

def name : Level → String
  | .error => "ERROR"
  | .warning => "WARN"
  | .info => "INFO"
  | .debug => "DEBUG"

/-- How much detail a level stands for. -/
def rank : Level → Nat
  | .error => 1
  | .warning => 2
  | .info => 3
  | .debug => 4

end Level

/-- Something that happened. -/
inductive Event where
  | discovering (backend : String)
  | noPlugins (kind : EntityKind) (dir : String)
  | discovered (count : Nat) (kind : EntityKind) (dir : String)
  | nothingFound (backend : String)
  | foundInAll (count : Nat)
  | loaded (displayName : String) (entries : Nat) (path : String)
  | generating (kind : EntityKind) (code : String)
  | passedOver (entry : String)
  | modeled (kind : EntityKind) (code : String) (attributes : Nat)
  | formatting (program : String) (arguments : List String)
  | rejected (formatter path draft : String)
  | removedStale (path : String)
  | generated (path : String)
  | succeeded (path : String) (attributes bytes : Nat) (hash : String)
  | failed (message : String)
  | summary (written total : Nat) (dir : String)
deriving DecidableEq

namespace Event

def level : Event → Level
  | .noPlugins .. | .nothingFound .. | .rejected .. | .failed .. => .warning
  | .discovered .. | .loaded .. | .passedOver .. | .modeled .. | .formatting .. | .removedStale .. =>
    .debug
  | _ => .info

/-- A list of arguments, each quoted. -/
def argumentList (arguments : List String) : String :=
  "[" ++ ", ".intercalate (arguments.map Text.quoted) ++ "]"

def message : Event → String
  | .discovering backend => "Discovering connectors in " ++ backend
  | .noPlugins kind dir => "No " ++ kind.name ++ " plugins directory at " ++ dir
  | .discovered count kind dir =>
    "Found " ++ toString count ++ " " ++ kind.name ++ " connectors in " ++ dir
  | .nothingFound backend => "No connectors found in " ++ backend
  | .foundInAll count => "Found " ++ toString count ++ " connectors"
  | .loaded displayName entries path =>
    "Loaded " ++ displayName ++ " (" ++ toString entries ++ " entries) from " ++ path
  | .generating kind code => "Generating " ++ kind.name ++ " " ++ code
  | .passedOver entry => "Skipping " ++ entry ++ ": replaced by the name attribute"
  | .modeled kind code attributes =>
    "Modeled " ++ kind.name ++ " " ++ code ++ " with " ++ toString attributes ++ " attributes"
  | .formatting program arguments =>
    "Running formatter: " ++ program ++ " " ++ argumentList arguments
  | .rejected formatter path draft =>
    formatter ++ " rejected " ++ path ++ "; draft saved to " ++ draft
  | .removedStale path => "Removed stale " ++ path
  | .generated path => "Generated " ++ path
  | .succeeded path attributes bytes hash =>
    "  ✓ " ++ path ++ " (" ++ toString attributes ++ " attributes, " ++ toString bytes
      ++ " bytes, hash: " ++ (hash.take 8).toString ++ "...)"
  | .failed message => "  ✗ " ++ message
  | .summary written total dir =>
    "Generated " ++ toString written ++ " of " ++ toString total ++ " schemas into " ++ dir

/-- Whether an event is shown when reports go up to `limit`; nothing is shown without a limit. -/
def shown (limit : Option Level) (e : Event) : Bool :=
  limit.any fun l => e.level.rank ≤ l.rank

end Event

/-- A character of a report. Characters that steer a terminal are written by their number. -/
def reportedChar (c : Char) : List Char :=
  if c = '\x1b' ∨ c = '\x07' ∨ c = '\x08' ∨ c = '\x0c' ∨ c = '\x7f' then
    '\\' :: 'x' :: [Nat.digitChar (c.toNat / 16), Nat.digitChar (c.toNat % 16)]
  else if 0x80 ≤ c.toNat ∧ c.toNat ≤ 0x9F then
    ['\\', 'u', '\x7b'] ++ Text.hexDigits c.toNat ++ ['\x7d']
  else [c]

/-- An event as it is written out. -/
def Event.line (e : Event) : String :=
  e.level.name ++ " " ++ String.ofList (e.message.toList.flatMap reportedChar)

end ConnectorSchema
