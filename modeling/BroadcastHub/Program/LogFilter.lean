import BroadcastHub.Numeral.Decimal

/-!
# Log filters

A filter is a comma-separated list of directives.  A directive names a level, a
target, or both; it applies to all targets that begin with its own, and the most
specific directive that applies to an event decides.  Directives that name a
span apply only inside of it and never to events outside.
-/

namespace BroadcastHub.Program

/-- How much is logged; each level includes those before it. -/
inductive Level
  | off
  | error
  | warn
  | info
  | debug
  | trace
deriving DecidableEq, Repr

namespace Level

/-- The number of a level. -/
def rank : Level → Nat
  | off => 0
  | error => 1
  | warn => 2
  | info => 3
  | debug => 4
  | trace => 5

def name : Level → String
  | off => "OFF"
  | error => "ERROR"
  | warn => "WARN"
  | info => "INFO"
  | debug => "DEBUG"
  | trace => "TRACE"

/-- All levels in the order of their numbers. -/
def all : List Level := [off, error, warn, info, debug, trace]

/-- The level with a name, in any case, or with a number. -/
def ofText? (text : String) : Option Level :=
  match Numeral.ofText? text with
  | some number => all[number]?
  | none => all.find? fun level => level.name = text.map Char.toUpper

end Level

structure Directive where
  /-- What targets have to begin with. -/
  target : Option String
  level : Level
  /-- Whether it applies only inside of a span. -/
  inSpan : Bool := false
deriving DecidableEq, Repr

/-- How far a directive has been read. -/
inductive DirectiveStage
  | start
  /-- A level or a target; its characters, last one first. -/
  | word (characters : List Char)
  | span
  | fields
  | field (empty : Bool)
  | afterSpan
  | level (characters : List Char)
deriving DecidableEq, Repr

/-- A directive that is being read. -/
structure PartialDirective where
  stage : DirectiveStage := .start
  target : Option String := none
  inSpan : Bool := false
deriving DecidableEq, Repr

/-- The text of characters that were read last one first. -/
def readBack (characters : List Char) : String :=
  String.ofList characters.reverse

def PartialDirective.take (reading : PartialDirective) (char : Char) :
    Option PartialDirective :=
  match reading.stage with
  | .start =>
      if char = '[' then some { reading with stage := .span, inSpan := true }
      else if char.isAlphanum ∨ 127 < char.toNat ∨ char = '-' ∨ char = ':' ∨
        char = '_' then
        some { reading with stage := .word [char] }
      else none
  | .word characters =>
      if char = '=' then
        some { reading with stage := .level [], target := readBack characters }
      else if char = '[' then
        some { stage := .span, target := readBack characters, inSpan := true }
      else some { reading with stage := .word (char :: characters) }
  | .span =>
      if char = ']' then some { reading with stage := .afterSpan }
      else if char = '\x7b' then some { reading with stage := .field true }
      else some reading
  | .field empty =>
      if char = '\x7d' then if empty then none
        else some { reading with stage := .fields }
      else some { reading with stage := .field false }
  | .fields =>
      if char = ']' then some { reading with stage := .afterSpan } else none
  | .afterSpan =>
      if char = '=' then some { reading with stage := .level [] } else none
  | .level characters =>
      some { reading with stage := .level (char :: characters) }

def PartialDirective.finish (reading : PartialDirective) : Option Directive :=
  match reading.stage with
  | .word characters =>
      match Level.ofText? (readBack characters) with
      | some level => some ⟨none, level, false⟩
      | none => some ⟨some (readBack characters), .trace, false⟩
  | .level [] => some ⟨reading.target, .trace, reading.inSpan⟩
  | .level characters =>
      (Level.ofText? (readBack characters)).map fun level =>
        ⟨reading.target, level, reading.inSpan⟩
  | .afterSpan => some ⟨reading.target, .trace, reading.inSpan⟩
  | _ => none

def Directive.ofText? (text : String) : Option Directive :=
  (text.toList.foldl
    (fun result char => result.bind fun reading => reading.take char)
    (some {})).bind PartialDirective.finish

abbrev LogFilter := List Directive

namespace LogFilter

/-- Reads a filter; one without any directive logs errors only. -/
def ofText? (text : String) : Option LogFilter :=
  match (text.splitOn ",").filter fun part => part ≠ "" with
  | [] => some [⟨none, .error, false⟩]
  | parts => parts.mapM Directive.ofText?

/-- The length of the target of a directive, or nothing if it applies to all. -/
def specificity (directive : Directive) : Nat :=
  match directive.target with
  | some target => target.length + 1
  | none => 0

/-- Whether a directive applies to events of a target outside of all spans. -/
def applies (target : String) (directive : Directive) : Bool :=
  !directive.inSpan &&
    match directive.target with
    | some start => start.toList.isPrefixOf target.toList
    | none => true

/-- The most specific of the directives that apply; of equally specific ones the
last. -/
def decisive? (filter : LogFilter) (target : String) : Option Directive :=
  (filter.filter (applies target)).foldl
    (fun best directive =>
      match best with
      | none => some directive
      | some other =>
          if specificity other ≤ specificity directive then some directive
            else best)
    none

/-- Whether events of a target are logged at a level. -/
def enables (filter : LogFilter) (target : String) (level : Level) : Bool :=
  match filter.decisive? target with
  | some directive => level.rank ≤ directive.level.rank
  | none => false

end LogFilter

end BroadcastHub.Program
