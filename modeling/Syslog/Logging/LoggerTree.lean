import Syslog.Level.Threshold
import Syslog.Text.Basic

namespace Syslog

/-!
The loggers of a process, in a tree below their root.

Names with dots in them say which loggers are above a logger.  A logger gets its parent when it
is created: the nearest one above it that exists.  Until then it is remembered under the names
above it that no logger has yet, and when such a name gets its logger, the loggers that are
remembered there move below it.

The level of a logger is its own unless that is zero, else that of the nearest logger above it
that has one, and in the end that of the root.
-/

/-- A logger below the root; without a parent it stands directly below it. -/
structure Logger where
  name : Text
  level : Nat := 0
  parent : Option Text := none
deriving DecidableEq

structure LoggerTree where
  rootLevel : Nat := Level.warning
  loggers : List Logger := []
  /-- Names that no logger has yet, with the loggers that were created below them. -/
  awaited : List (Text × List Text) := []
deriving DecidableEq

namespace LoggerTree

def rootName : Text := "root"

/-- Whether a name is that of the root of all loggers. -/
def isRoot (name : Text) : Bool := name.isEmpty || name == rootName

def find? (tree : LoggerTree) (name : Text) : Option Logger :=
  tree.loggers.find? (·.name == name)

def contains (tree : LoggerTree) (name : Text) : Bool := (tree.find? name).isSome

/-- Of two places next to each other only the latter counts; places are given from the end. -/
def apart : List Nat → List Nat
  | latter :: former :: rest =>
    if former + 1 = latter then latter :: apart rest else latter :: apart (former :: rest)
  | places => places

/--
The names above a name, the nearest first: what stands before its dots.  A dot at the beginning
does not count, and neither does one directly before another that counts.
-/
def namesAbove (name : Text) : List Text :=
  let dots := (List.range name.length).filter fun place =>
    0 < place && name[place]? == some (CodePoint.ofChar '.')
  (apart dots.reverse).map fun place => name.take place

/-- Remembers a logger under a name that no logger has yet. -/
def await (above logger : Text) : List (Text × List Text) → List (Text × List Text)
  | [] => [(above, [logger])]
  | (name, below) :: rest =>
    if name = above then (name, below ++ [logger]) :: rest
    else (name, below) :: await above logger rest

/-- Moves a logger below a new one, unless its parent's name begins with that of the new one. -/
def Logger.adopted (name : Text) (logger : Logger) : Logger :=
  if name.isPrefixOf (logger.parent.getD rootName) then logger
  else { logger with parent := some name }

/-- Creates the logger of a name, unless it exists. -/
def create (tree : LoggerTree) (name : Text) : LoggerTree :=
  if isRoot name || tree.contains name then tree
  else
    let below := (tree.awaited.lookup name).getD []
    let (missing, present) := (namesAbove name).span (!tree.contains ·)
    let loggers := tree.loggers.map fun logger =>
      if below.contains logger.name then Logger.adopted name logger else logger
    { tree with
      loggers := loggers ++ [{ name, parent := present.head? }]
      awaited := missing.foldl (fun awaited above => await above name awaited)
        (tree.awaited.filter (·.1 != name)) }

/-- Gives a logger a level of its own; the logger is created if need be. -/
def setLevel (tree : LoggerTree) (name : Text) (level : Nat) : LoggerTree :=
  if isRoot name then { tree with rootLevel := level }
  else
    let tree := tree.create name
    { tree with
      loggers := tree.loggers.map fun logger =>
        if logger.name = name then { logger with level } else logger }

/-- The level of a logger itself, zero if it has none. -/
def ownLevel (tree : LoggerTree) (name : Text) : Nat :=
  if isRoot name then tree.rootLevel else ((tree.find? name).map Logger.level).getD 0

/-- The level that counts for a logger; a parent's name is shorter, so `fuel` is its length. -/
def levelFrom (tree : LoggerTree) : (fuel : Nat) → Option Text → Nat
  | _, none => tree.rootLevel
  | 0, _ => tree.rootLevel
  | fuel + 1, some name =>
    match tree.find? name with
    | none => tree.rootLevel
    | some logger => if logger.level = 0 then levelFrom tree fuel logger.parent else logger.level

/-- The level that counts for a logger. -/
def effectiveLevel (tree : LoggerTree) (name : Text) : Nat :=
  tree.levelFrom name.length (some name)

end LoggerTree

end Syslog
