/-!
# Records

What happens is told in records. A record has a level, the name of its source and a message; sources
have names with parts, of which the first is shared by the whole program.

Levels are those that have names: a rank between two of them is left out. So is the line in the text
of the source at which a record is made.
-/

namespace Reckoner.Journal

/-- How much a record matters. -/
inductive Level where
  /-- A record that matters to nobody. -/
  | unset
  | debug
  | info
  | warning
  | error
  | critical
deriving DecidableEq, Repr

namespace Level

/-- The levels in order, by tens. -/
def rank : Level → Nat
  | .unset => 0
  | .debug => 10
  | .info => 20
  | .warning => 30
  | .error => 40
  | .critical => 50

/-- The name of a level. -/
def name : Level → String
  | .unset => "NOTSET"
  | .debug => "DEBUG"
  | .info => "INFO"
  | .warning => "WARNING"
  | .error => "ERROR"
  | .critical => "CRITICAL"

/-- The level with a name. Two levels have a second one. -/
def ofName? : String → Option Level
  | "WARN" => some .warning
  | "FATAL" => some .critical
  | name => [Level.unset, .debug, .info, .warning, .error, .critical].find? (·.name = name)

end Level

/-- What happened, where, and how much it matters. -/
structure Record where
  level : Level
  source : String
  message : String
deriving DecidableEq, Repr

/-- The records of at least a level. -/
def atLeast (level : Level) (records : List Record) : List Record :=
  records.filter fun record => level.rank ≤ record.level.rank

/-- The name that all sources of the program share. -/
def program : String := "expression_editor"

/-- Whether a source belongs to the program: it is the program or a part of it. -/
def isOwn (source : String) : Bool :=
  source = program || (program ++ ".").toList.isPrefixOf source.toList

end Reckoner.Journal
