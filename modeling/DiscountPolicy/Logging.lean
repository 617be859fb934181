import DiscountPolicy.Decimal
import DiscountPolicy.Text.Blank

/-! What a client logs: the levels and the form of the lines, and that the first settings which are
installed stay. -/

namespace DiscountPolicy

/-- The least severe level that is logged. -/
inductive Level where
  | error
  | warn
  | info
  | debug
  | trace
  deriving DecidableEq, Repr

namespace Level

def name : Level → String
  | .error => "ERROR"
  | .warn => "WARN"
  | .info => "INFO"
  | .debug => "DEBUG"
  | .trace => "TRACE"

/-- Every level, the one that logs least first. -/
def all : List Level := [.error, .warn, .info, .debug, .trace]

/-- The level of a number, counted from 1. -/
def ofNat? (n : Nat) : Option Level := if n = 0 then none else all[n - 1]?

/-- The number that a text spells, after a plus sign that may be missing. -/
def number? (cs : List Char) : Option Nat :=
  match cs with
  | '+' :: digits => Decimal.nat? digits
  | digits => Decimal.nat? digits

/-- The level that a text names, in any case, or counts; blanks around it do not matter. -/
def ofText? (s : String) : Option Level :=
  let word := Text.trim s
  match number? word.toList with
  | some n => ofNat? n
  | none => all.find? fun level => level.name.toLower = word.toLower

end Level

structure LogSettings where
  level : Level := .warn
  /-- One object of structured data a line, in place of plain text. -/
  json : Bool := false
  deriving DecidableEq, Repr

/-- Where log lines go: nowhere, until settings are installed. -/
structure Logger where
  settings : Option LogSettings := none
  deriving DecidableEq, Repr

/-- Installs settings unless some are installed; tells whether it did. -/
def Logger.install (logger : Logger) (settings : LogSettings) : Bool × Logger :=
  match logger.settings with
  | none => (true, ⟨some settings⟩)
  | some _ => (false, logger)

end DiscountPolicy
