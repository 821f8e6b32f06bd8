/-! Log records: their severities, and how much of them a reader asks for. -/
namespace Formulae

inductive Severity where
  | debug
  | info
  | warning
  deriving DecidableEq, Repr

def Severity.name : Severity → String
  | .debug => "DEBUG"
  | .info => "INFO"
  | .warning => "WARNING"

structure Record where
  severity : Severity
  message : String
  deriving DecidableEq, Repr

def Record.line (r : Record) : String := r.severity.name ++ " - " ++ r.message ++ "\n"

/-- How much is reported: warnings from `minimal` on, reports from `moderate` on, the firing of
rules and the causes of errors under `verbose`. -/
inductive Verbosity where
  | silent
  | minimal
  | moderate
  | detailed
  | verbose
  deriving DecidableEq, Repr

namespace Verbosity

def all : List Verbosity := [silent, minimal, moderate, detailed, verbose]

def code : Verbosity → Nat
  | silent => 0
  | minimal => 1
  | moderate => 2
  | detailed => 3
  | verbose => 4

def name : Verbosity → String
  | silent => "SILENT"
  | minimal => "MINIMAL"
  | moderate => "MODERATE"
  | detailed => "DETAILED"
  | verbose => "VERBOSE"

def ofName? (s : String) : Option Verbosity := all.find? fun v => v.name == s

def admits (v required : Verbosity) : Bool := required.code ≤ v.code

end Verbosity

end Formulae
