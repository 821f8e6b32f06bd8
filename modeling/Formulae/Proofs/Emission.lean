import Formulae.Expression

/-! What a run hands to the handlers of the journal. A record is handed on when the verbosity asks
for it, to all handlers alike: it does not matter which there are and what was written before. -/
namespace Formulae

/-- The record that the handlers are given, if the verbosity asks for it. -/
def Verbosity.admitted? (v : Verbosity) (r : Record) : Option Record :=
  match r.severity with
  | .debug => if v.admits .verbose then some ⟨.debug, "DEBUG: " ++ r.message⟩ else none
  | .info => if v.admits .moderate then some r else none
  | .warning => if v.admits .minimal then some r else none

theorem Verbosity.admitted?_warning {v : Verbosity} {r : Record} (hr : r.severity = .warning)
    (hv : v.admits .minimal) : v.admitted? r = some r := by
  rw [admitted?, hr]
  exact if_pos hv

namespace Journal

def spread (ds : List Destination) (rs : List Record) : List (Destination × Record) :=
  rs.flatMap fun r => ds.map fun d => (d, r)

theorem spread_append (ds : List Destination) (rs rs' : List Record) :
    spread ds (rs ++ rs') = spread ds rs ++ spread ds rs' :=
  List.flatMap_append

theorem spread_singleton (d : Destination) (rs : List Record) :
    spread [d] rs = rs.map fun r => (d, r) :=
  List.map_eq_flatMap.symm

@[simp] theorem verbosity_report (required : Verbosity) (r : Record) (j : Journal) :
    (j.report required r).verbosity = j.verbosity := by
  unfold report
  split <;> rfl

@[simp] theorem destinations_report (required : Verbosity) (r : Record) (j : Journal) :
    (j.report required r).destinations = j.destinations := by
  unfold report
  split <;> rfl

theorem emit_eq_report (r : Record) (j : Journal) :
    ∃ required r', j.emit r = j.report required r' ∧
      j.verbosity.admitted? r = if j.verbosity.admits required then some r' else none := by
  rcases r with ⟨severity, message⟩
  cases severity with
  | debug => exact ⟨.verbose, _, rfl, rfl⟩
  | info => exact ⟨.moderate, _, rfl, rfl⟩
  | warning => exact ⟨.minimal, _, rfl, rfl⟩

@[simp] theorem verbosity_emit (r : Record) (j : Journal) : (j.emit r).verbosity = j.verbosity := by
  obtain ⟨required, r', heq, -⟩ := emit_eq_report r j
  rw [heq, verbosity_report]

@[simp] theorem destinations_emit (r : Record) (j : Journal) :
    (j.emit r).destinations = j.destinations := by
  obtain ⟨required, r', heq, -⟩ := emit_eq_report r j
  rw [heq, destinations_report]

theorem written_emit (r : Record) (j : Journal) :
    (j.emit r).written = j.written ++ spread j.destinations (j.verbosity.admitted? r).toList := by
  obtain ⟨required, r', heq, hadmitted⟩ := emit_eq_report r j
  rw [heq, written_report, hadmitted]
  split
  · exact congrArg (j.written ++ ·) (List.append_nil _).symm
  · rfl

theorem written_foldl_emit (rs : List Record) (j : Journal) :
    (rs.foldl (fun j r => j.emit r) j).written =
      j.written ++ spread j.destinations (rs.filterMap j.verbosity.admitted?) := by
  induction rs generalizing j with
  | nil => exact (List.append_nil _).symm
  | cons r rs ih =>
    rw [List.foldl_cons, ih, written_emit, verbosity_emit, destinations_emit, List.append_assoc,
      ← spread_append, List.filterMap_cons]
    cases j.verbosity.admitted? r <;> rfl

/-- The journal with a handler of the caller's as its only one, and nothing written so far. -/
def tapped (j : Journal) : Journal :=
  { j with handlers := [.caller], propagates := false, written := [] }

end Journal

namespace Logged

variable {ε β γ : Type}

def emitted (x : Logged ε β) (j : Journal) : List Record :=
  (x.runIn j.tapped).2.recordsAt .caller

/-- The computation succeeds in every journal, and all that it does there is to emit these
records. -/
def Emits (x : Logged ε β) (b : β) (rs : List Record) : Prop :=
  ∀ j, x.runIn j = (.ok b, rs.foldl (fun j r => j.emit r) j)

theorem runIn_bind_of_ok {x : Logged ε β} {f : β → Logged ε γ} {b : β} {j j' : Journal}
    (h : x.runIn j = (.ok b, j')) : (x >>= f).runIn j = (f b).runIn j' := by
  change (ExceptT.bind x f : Logged ε γ) j = _
  change x j = _ at h
  simp only [ExceptT.bind, ExceptT.mk, bind, StateT.bind, h]
  rfl

theorem runIn_bind_of_error {x : Logged ε β} {f : β → Logged ε γ} {why : ε} {j j' : Journal}
    (h : x.runIn j = (.error why, j')) : (x >>= f).runIn j = (.error why, j') := by
  change (ExceptT.bind x f : Logged ε γ) j = _
  change x j = _ at h
  simp only [ExceptT.bind, ExceptT.mk, bind, StateT.bind, h]
  rfl

theorem Emits.bind {x : Logged ε β} {f : β → Logged ε γ} {b : β} {c : γ} {rs rs' : List Record}
    (h : x.Emits b rs) (h' : (f b).Emits c rs') : (x >>= f).Emits c (rs ++ rs') := by
  intro j
  rw [runIn_bind_of_ok (h j), h', List.foldl_append]

theorem emitAll_emits (rs : List Record) : (emitAll rs : Logged ε Unit).Emits () rs := by
  induction rs with
  | nil => exact fun j => rfl
  | cons r rs ih =>
    have hfirst : (emit r : Logged ε Unit).Emits () [r] := fun j => rfl
    exact hfirst.bind ih

namespace Emits

variable {x : Logged ε β} {b : β} {rs : List Record}

theorem result_eq (h : x.Emits b rs) {c : β} {rs' : List Record} (h' : x.Emits c rs') : b = c := by
  have hrun := (h .initial).symm.trans (h' .initial)
  exact Except.ok.inj (congrArg Prod.fst hrun)

theorem emitted_eq (h : x.Emits b rs) (j : Journal) :
    x.emitted j = rs.filterMap j.verbosity.admitted? := by
  have hwritten : (x.runIn j.tapped).2.written =
      (rs.filterMap j.verbosity.admitted?).map fun r => (.caller, r) := by
    rw [h, ← Journal.spread_singleton]
    exact Journal.written_foldl_emit rs j.tapped
  rw [emitted, Journal.recordsAt, hwritten]
  simp [List.filter_map, Function.comp_def]

theorem written_eq (h : x.Emits b rs) (j : Journal) :
    (x.runIn j).2.written = j.written ++ Journal.spread j.destinations (x.emitted j) := by
  rw [h.emitted_eq, h]
  exact Journal.written_foldl_emit rs j

theorem mem_emitted_of_warning (h : x.Emits b rs) {r : Record} (hr : r ∈ rs)
    (hwarning : r.severity = .warning) {j : Journal} (hv : j.verbosity.admits .minimal) :
    r ∈ x.emitted j := by
  rw [h.emitted_eq, List.mem_filterMap]
  exact ⟨r, hr, Verbosity.admitted?_warning hwarning hv⟩

end Emits

end Logged

namespace Expression

theorem reportAll_cons {w : Firing Name Float} {fired : List (Firing Name Float)}
    {rs : List Record} (h : w.records = .ok rs) :
    reportAll (w :: fired) = Logged.emitAll rs >>= fun _ => reportAll fired := by
  simp only [reportAll, List.forM, h]

theorem exists_reportAll_emits {fired : List (Firing Name Float)}
    (h : ∀ w ∈ fired, ∃ ws, w.records = .ok ws) :
    ∃ rs, (reportAll fired).Emits () rs ∧
      ∀ r, r ∈ rs ↔ ∃ w ∈ fired, ∃ ws, w.records = .ok ws ∧ r ∈ ws := by
  induction fired with
  | nil => exact ⟨[], fun j => rfl, by simp⟩
  | cons w fired ih =>
    obtain ⟨⟨ws, hws⟩, hrest⟩ := List.forall_mem_cons.1 h
    obtain ⟨rs, hemits, hmem⟩ := ih hrest
    refine ⟨ws ++ rs, ?_, fun r => ?_⟩
    · rw [reportAll_cons hws]
      exact (Logged.emitAll_emits ws).bind hemits
    · rw [List.mem_append, hmem]
      simp [hws]

end Expression

end Formulae
