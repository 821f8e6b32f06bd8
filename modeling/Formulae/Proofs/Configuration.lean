import Mathlib.Data.List.Induction
import Mathlib.Data.List.Nodup
import Formulae.Logging.Report
import Formulae.Proofs.Emission

/-! Runs of calls that configure the journal and write to it, in any order. Of all that was said
about the handlers the last configuration counts, of all that was said about the verbosity the last
word; what else is called changes neither. -/
namespace Formulae.Journal

inductive Message where
  | warning (text : String)
  | note (text : String)
  | report (title : String) (entries : List (String × Entry))

namespace Message

def required : Message → Verbosity
  | warning _ => .minimal
  | note _ => .verbose
  | report .. => .moderate

def records : Message → List Record
  | warning text => [⟨.warning, text⟩]
  | note text => [⟨.debug, "DEBUG: " ++ text⟩]
  | report title entries => (Report.lines title entries).map fun line => ⟨.info, line⟩

def emit : Message → Journal → Journal
  | warning text => warn text
  | note text => Journal.note text
  | report title entries => summary title entries

def handed (m : Message) (j : Journal) : List Record := (m.emit j.tapped).recordsAt .caller

end Message

inductive Call where
  | ensure
  | setVerbosity (v : Verbosity)
  | configure (v : Verbosity) (file : Option LogFile)
  | emit (m : Message)

namespace Call

def perform : Call → Journal → Journal
  | ensure => Journal.ensure
  | setVerbosity v => Journal.setVerbosity v
  | configure v file => Journal.configure v file
  | emit m => m.emit

def configuration? : Call → Option (Verbosity × Option LogFile)
  | configure v file => some (v, file)
  | _ => none

def verbosity? : Call → Option Verbosity
  | setVerbosity v | configure v _ => some v
  | _ => none

end Call

def run (calls : List Call) (j : Journal) : Journal := calls.foldl (fun j c => c.perform j) j

def latest {β : Type} (said : Call → Option β) (calls : List Call) : Option β :=
  calls.reverse.findSome? said

structure Configured (v : Verbosity) (file : Option LogFile) (j : Journal) : Prop where
  console : j.handlers.count .console = if v = .silent then 0 else 1
  files : ∀ f, j.handlers.count (.file f) = if file = some f then 1 else 0
  null : j.handlers.count .null = if v = .silent ∧ file = none then 1 else 0
  caller : .caller ∉ j.handlers
  propagates : j.propagates = false

@[simp] theorem handlers_report (required : Verbosity) (r : Record) (j : Journal) :
    (j.report required r).handlers = j.handlers := by
  unfold report
  split <;> rfl

@[simp] theorem propagates_report (required : Verbosity) (r : Record) (j : Journal) :
    (j.report required r).propagates = j.propagates := by
  unfold report
  split <;> rfl

theorem foldl_report {β : Type} {get : Journal → β} {required : Verbosity}
    (h : ∀ r j, get (j.report required r) = get j) (rs : List Record) (j : Journal) :
    get (rs.foldl (fun j r => j.report required r) j) = get j := by
  induction rs generalizing j with
  | nil => rfl
  | cons r rs ih => rw [List.foldl_cons, ih, h]

theorem written_foldl_report (required : Verbosity) (rs : List Record) (j : Journal) :
    (rs.foldl (fun j r => j.report required r) j).written =
      j.written ++ if j.verbosity.admits required then spread j.destinations rs else [] := by
  induction rs generalizing j with
  | nil => simp [spread]
  | cons r rs ih =>
    rw [List.foldl_cons, ih, written_report, verbosity_report, destinations_report,
      List.append_assoc]
    split <;> rfl

namespace Message

variable (m : Message) (j : Journal)

theorem records_ne_nil : m.records ≠ [] := by
  cases m <;> exact List.cons_ne_nil _ _

theorem emit_eq_foldl : m.emit j = m.records.foldl (fun j r => j.report m.required r) j := by
  cases m with
  | warning | note => rfl
  | report title entries => simp only [emit, summary, records, required, List.foldl_map]

@[simp] theorem handlers_emit : (m.emit j).handlers = j.handlers := by
  rw [emit_eq_foldl, foldl_report (handlers_report m.required)]

@[simp] theorem propagates_emit : (m.emit j).propagates = j.propagates := by
  rw [emit_eq_foldl, foldl_report (propagates_report m.required)]

@[simp] theorem verbosity_emit : (m.emit j).verbosity = j.verbosity := by
  rw [emit_eq_foldl, foldl_report (verbosity_report m.required)]

/-- The handlers are handed all records of a message or none. -/
theorem handed_eq : m.handed j = if j.verbosity.admits m.required then m.records else [] := by
  have hwritten : (m.emit j.tapped).written =
      if j.verbosity.admits m.required then spread [.caller] m.records else [] := by
    rw [emit_eq_foldl]
    exact written_foldl_report m.required m.records j.tapped
  rw [handed, recordsAt, hwritten]
  split
  · simp [spread_singleton, List.filter_map, Function.comp_def]
  · rfl

theorem written_emit : (m.emit j).written = j.written ++ spread j.destinations (m.handed j) := by
  rw [handed_eq, emit_eq_foldl, written_foldl_report]
  split <;> rfl

end Message

theorem filter_spread {ds : List Destination} (hds : ds.Nodup) (rs : List Record)
    (d : Destination) :
    ((spread ds rs).filter fun p => p.1 = d).map (·.2) = if d ∈ ds then rs else [] := by
  have hfilter : ds.filter (· = d) = if d ∈ ds then [d] else [] := by
    rw [List.filter_eq, hds.count]
    split <;> rfl
  induction rs with
  | nil => simp [spread]
  | cons r rs ih =>
    have hone : ((ds.map fun d => (d, r)).filter fun p => p.1 = d).map (·.2) =
        if d ∈ ds then [r] else [] := by
      simp only [List.filter_map, Function.comp_def, hfilter]
      split <;> rfl
    rw [spread, List.flatMap_cons, List.filter_append, List.map_append, hone, ← spread, ih]
    split <;> rfl

theorem Message.recordsAt_emit (m : Message) {j : Journal} (hj : j.destinations.Nodup)
    (d : Destination) : (m.emit j).recordsAt d =
      j.recordsAt d ++ if d ∈ j.destinations then m.handed j else [] := by
  simp only [recordsAt, m.written_emit, List.filter_append, List.map_append, filter_spread hj]

theorem configured_of_handlersFor {v : Verbosity} {file : Option LogFile} {j : Journal}
    (hhandlers : j.handlers = handlersFor v file) (hpropagates : j.propagates = false) :
    Configured v file j := by
  refine ⟨?_, fun f => ?_, ?_, ?_, hpropagates⟩
  all_goals
    rw [hhandlers]
    by_cases hv : v = .silent <;> cases file <;> simp [handlersFor, hv, List.count_singleton]

namespace Configured

variable {v : Verbosity} {file : Option LogFile} {j : Journal}

theorem nodup_handlers (h : Configured v file j) : j.handlers.Nodup := by
  refine List.nodup_iff_count_le_one.2 fun handler => ?_
  cases handler with
  | null =>
    rw [h.null]
    split <;> decide
  | console =>
    rw [h.console]
    split <;> decide
  | file f =>
    rw [h.files]
    split <;> decide
  | caller =>
    rw [List.count_eq_zero_of_not_mem h.caller]
    exact Nat.zero_le 1

theorem nodup_destinations (h : Configured v file j) : j.destinations.Nodup := by
  have hinjective : ∀ (k k' : Handler) (d : Destination),
      d ∈ k.destination? → d ∈ k'.destination? → k = k' := by
    intro k k' d hk hk'
    cases k <;> cases hk <;> cases k' <;> cases hk' <;> rfl
  rw [destinations, h.propagates]
  exact (h.nodup_handlers.filterMap hinjective).append List.nodup_nil (by simp)

end Configured

namespace Call

variable (c : Call) (j : Journal)

theorem handlers_perform : (c.perform j).handlers =
    c.configuration?.elim j.handlers fun (v, file) => handlersFor v file := by
  cases c with
  | ensure | setVerbosity | configure => rfl
  | emit m => exact m.handlers_emit j

theorem propagates_perform : (c.perform j).propagates =
    c.configuration?.elim j.propagates fun _ => false := by
  cases c with
  | ensure | setVerbosity | configure => rfl
  | emit m => exact m.propagates_emit j

theorem verbosity_perform : (c.perform j).verbosity = c.verbosity?.elim j.verbosity id := by
  cases c with
  | ensure | setVerbosity | configure => rfl
  | emit m => exact m.verbosity_emit j

end Call

theorem latest_concat {β : Type} (said : Call → Option β) (calls : List Call) (c : Call) :
    latest said (calls ++ [c]) = (said c).or (latest said calls) := by
  rw [latest, List.reverse_append, List.reverse_singleton, List.singleton_append,
    List.findSome?_cons]
  cases said c <;> rfl

/-- What each call either sets or leaves as it is has after a run been set by the last call that
sets it. -/
theorem get_run {β γ : Type} {get : Journal → γ} {said : Call → Option β} {set : β → γ}
    (hstep : ∀ (c : Call) (j : Journal), get (c.perform j) = (said c).elim (get j) set)
    (calls : List Call) (j : Journal) :
    get (j.run calls) = (latest said calls).elim (get j) set := by
  induction calls using List.reverseRecOn with
  | nil => rfl
  | append_singleton calls c ih =>
    have hlast : j.run (calls ++ [c]) = c.perform (j.run calls) := by
      rw [run, List.foldl_append]
      rfl
    rw [hlast, hstep, ih, latest_concat]
    cases said c <;> rfl

/-- As long as nobody configures, a run leaves the handlers and the way to the root as they were.
The last configuration alone decides which handlers there are, whatever came before it or after it,
and every destination is given what is handed on once. What is handed on is decided by the last
word on the verbosity. -/
theorem run_configured {j : Journal} (hj : j.reporter = none) (calls : List Call) :
    (latest Call.configuration? calls = none →
      (j.run calls).handlers = j.handlers ∧ (j.run calls).propagates = j.propagates) ∧
    (∀ v file, latest Call.configuration? calls = some (v, file) →
      Configured v file (j.run calls) ∧
      ∀ (m : Message) (d : Destination), (m.emit (j.run calls)).recordsAt d =
        (j.run calls).recordsAt d ++
          if d ∈ (j.run calls).destinations then m.handed (j.run calls) else []) ∧
    ∀ m : Message, m.records ≠ [] ∧ m.handed (j.run calls) =
      if ((latest Call.verbosity? calls).getD .minimal).admits m.required then m.records
      else [] := by
  have hhandlers := get_run Call.handlers_perform calls j
  have hpropagates := get_run Call.propagates_perform calls j
  have hverbosity := get_run Call.verbosity_perform calls j
  refine ⟨fun hnone => ?_, fun v file hlatest => ?_, fun m => ⟨m.records_ne_nil, ?_⟩⟩
  · rw [hhandlers, hpropagates, hnone]
    exact ⟨rfl, rfl⟩
  · rw [hlatest] at hhandlers hpropagates
    have hconfigured : Configured v file (j.run calls) :=
      configured_of_handlersFor hhandlers hpropagates
    exact ⟨hconfigured, fun m => m.recordsAt_emit hconfigured.nodup_destinations⟩
  · have hlevel : (j.run calls).verbosity = (latest Call.verbosity? calls).getD .minimal := by
      rw [hverbosity, verbosity, hj]
      cases latest Call.verbosity? calls <;> rfl
    rw [m.handed_eq, hlevel]

def reconfigured : List Call :=
  [.setVerbosity .silent, .emit (.warning "unheard"), .configure .verbose none,
    .emit (.note "to the console"), .configure .silent (some (.named "run.log")), .ensure,
    .setVerbosity .moderate, .emit (.warning "to the file")]

/-- Before the first configuration the caller's handler stays; after the last one there is nothing
but the file, and a word on the verbosity that comes later lets warnings into it. -/
theorem run_reconfigured : (initial.addCaller).reporter = none ∧
    (initial.addCaller.run (reconfigured.take 2)).handlers = [.null, .caller] ∧
    Configured .silent (some (.named "run.log")) (initial.addCaller.run reconfigured) ∧
    ((Message.warning "again").emit (initial.addCaller.run reconfigured)).recordsAt
      (.file (.named "run.log")) = [⟨.warning, "to the file"⟩, ⟨.warning, "again"⟩] ∧
    (Message.note "unheard").handed (initial.addCaller.run reconfigured) = [] := by
  have hreporter : (initial.addCaller).reporter = none := rfl
  obtain ⟨hbefore, -, -⟩ := run_configured hreporter (reconfigured.take 2)
  obtain ⟨-, hafter, hhanded⟩ := run_configured hreporter reconfigured
  obtain ⟨hconfigured, honce⟩ := hafter .silent (some (.named "run.log")) rfl
  refine ⟨hreporter, (hbefore rfl).1, hconfigured, ?_, (hhanded (.note "unheard")).2⟩
  rw [honce, (hhanded (.warning "again")).2]
  decide

end Formulae.Journal
