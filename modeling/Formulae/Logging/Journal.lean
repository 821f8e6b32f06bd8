import Formulae.Logging.Record

/-! The journal of a run: where log records go and what has been written so far.

As long as nobody configures the journal its handlers are the caller's own affair and records go on
to the root. Configuring takes the journal over: a console handler unless it is to be silent, a file
handler if asked for, and nothing goes on to the root any more.

Computations that may fail write to it as they go; what was written before a failure stays
written. -/
namespace Formulae

/-- A log file: named after the moment of its opening, or by the caller. -/
inductive LogFile where
  | dated
  | named (path : String)
  deriving DecidableEq, Repr

inductive Handler where
  | null
  | console
  | file (f : LogFile)
  | caller
  deriving DecidableEq, Repr

def Handler.label : Handler → String
  | .null => "NullHandler"
  | .console => "StreamHandler"
  | .file _ => "FileHandler"
  | .caller => "Records"

inductive Destination where
  | root
  | caller
  | console
  | file (f : LogFile)
  deriving DecidableEq, Repr

def Handler.destination? : Handler → Option Destination
  | .null => none
  | .console => some .console
  | .file f => some (.file f)
  | .caller => some .caller

/-- From which severity on the journal takes records: as the root does, or all of them. The root is
taken to accept every record, so that neither keeps one from the destinations. -/
inductive Threshold where
  | inherited
  | debug
  deriving DecidableEq, Repr

def Threshold.name : Threshold → String
  | .inherited => "NOTSET"
  | .debug => "DEBUG"

structure Reporter where
  verbosity : Verbosity
  toFile : Bool
  deriving DecidableEq, Repr

def Reporter.default : Reporter := ⟨.minimal, false⟩

structure Journal where
  /-- Made on first use. -/
  reporter : Option Reporter
  handlers : List Handler
  propagates : Bool
  threshold : Threshold
  files : List LogFile
  /-- All records handed out, in order, each with where it went. -/
  written : List (Destination × Record)
  deriving DecidableEq, Repr

namespace Journal

def initial : Journal := ⟨none, [.null], true, .inherited, [], []⟩

def destinations (j : Journal) : List Destination :=
  j.handlers.filterMap Handler.destination? ++ if j.propagates then [.root] else []

def deliver (r : Record) (j : Journal) : Journal :=
  { j with written := j.written ++ j.destinations.map fun d => (d, r) }

/-- Makes the reporter unless there is one. It installs no handlers. -/
def ensure (j : Journal) : Journal :=
  { j with reporter := some (j.reporter.getD .default) }

def verbosity (j : Journal) : Verbosity := (j.reporter.getD .default).verbosity

def setVerbosity (v : Verbosity) (j : Journal) : Journal :=
  { j with reporter := some { j.reporter.getD .default with verbosity := v } }

def handlersFor (v : Verbosity) (file : Option LogFile) : List Handler :=
  let handlers := (if v = .silent then [] else [Handler.console]) ++ file.toList.map .file
  if handlers.isEmpty then [.null] else handlers

def configure (v : Verbosity) (file : Option LogFile) (j : Journal) : Journal :=
  { j with
    reporter := some ⟨v, file.isSome⟩
    handlers := handlersFor v file
    propagates := false
    threshold := .debug
    files := j.files ++ file.toList.filter (!j.files.contains ·) }

def addCaller (j : Journal) : Journal :=
  if .caller ∈ j.handlers then j else { j with handlers := j.handlers ++ [.caller] }

def report (required : Verbosity) (r : Record) (j : Journal) : Journal :=
  if j.verbosity.admits required then j.ensure.deliver r else j.ensure

def warn (message : String) : Journal → Journal := report .minimal ⟨.warning, message⟩

def note (message : String) : Journal → Journal :=
  report .verbose ⟨.debug, "DEBUG: " ++ message⟩

def emit (r : Record) : Journal → Journal :=
  match r.severity with
  | .debug => note r.message
  | .info => report .moderate r
  | .warning => warn r.message

def recordsAt (j : Journal) (d : Destination) : List Record :=
  (j.written.filter fun p => p.1 = d).map (·.2)

def contents (j : Journal) (f : LogFile) : String :=
  String.join ((j.recordsAt (.file f)).map Record.line)

@[simp] theorem verbosity_setVerbosity (v : Verbosity) (j : Journal) :
    (j.setVerbosity v).verbosity = v := rfl

@[simp] theorem verbosity_configure (v : Verbosity) (file : Option LogFile) (j : Journal) :
    (j.configure v file).verbosity = v := rfl

@[simp] theorem verbosity_ensure (j : Journal) : j.ensure.verbosity = j.verbosity := rfl

@[simp] theorem handlers_ensure (j : Journal) : j.ensure.handlers = j.handlers := rfl

@[simp] theorem handlers_configure (v : Verbosity) (file : Option LogFile) (j : Journal) :
    (j.configure v file).handlers = handlersFor v file := rfl

theorem written_report (required : Verbosity) (r : Record) (j : Journal) :
    (j.report required r).written = j.written ++
      if j.verbosity.admits required then j.destinations.map fun d => (d, r) else [] := by
  unfold report
  split
  · rfl
  · exact (List.append_nil _).symm

end Journal

abbrev Logged (ε : Type) := ExceptT ε (StateM Journal)

namespace Logged

variable {ε : Type}

def emit (r : Record) : Logged ε Unit := modify (Journal.emit r)

def emitAll (rs : List Record) : Logged ε Unit := rs.forM emit

def lift {β : Type} : Except ε β → Logged ε β
  | .ok a => pure a
  | .error e => throw e

def mapError {ε' β : Type} (f : ε → ε') (x : Logged ε β) : Logged ε' β := ExceptT.adapt f x

def runIn {β : Type} (x : Logged ε β) (j : Journal) : Except ε β × Journal := x.run.run j

end Logged

end Formulae
