import CharDispatch.Proofs.Accounting
import CharDispatch.Proofs.Retention

/-!
# What a pass reports

A discovery reports one event for every element of the list of its host, then a
summary; a generation goes on with a warning for every target that it drops and
a summary of its own.  Which event an element gets depends on the elements in
front of it and on what its declaration gives (`Host.Reports`), so the log is
compared with the result from one element to the next.

* `Host.log_discover`, `Host.log_generate`: the log of a pass that sees no
  request to stop.
* `Host.log_of_isStopped`: a pass that sees one reports what it would have
  reported in front of the first element where it sees it, and no summary.
* `log_mirrorsResult`: the warnings are the diagnostics, and the log of a
  cancelled pass is a proper beginning of the log of the whole pass.
-/

namespace CharDispatch

/-! ## Events -/

/-- What the log says of a target. -/
def Target.summary (target : Target) : List (String × FieldValue) :=
  [("target", .text target.qualifiedName), ("global", .flag target.isGlobal),
    ("characters", .count target.characters.length)]

/-- What the log says of a diagnostic: whose it is, and how it is worded. -/
def Diagnostic.warning (diagnostic : Diagnostic) : List (String × FieldValue) × String :=
  ([("declaration", .text diagnostic.declaration)], diagnostic.fault.message)

namespace Event

/-- The level and the fields with which an event appears in the log. -/
def Shows (event : Event) (level : Level) (fields : List (String × FieldValue)) : Prop :=
  event.level = level ∧ event.fields = fields

/-- The events of one level. -/
def atLevel (level : Level) (log : List Event) : List Event :=
  log.filter fun event => event.level = level

/-- A log breaks off: it is a proper beginning of another one and has no summary. -/
def BreaksOff (log whole : List Event) : Prop :=
  log <+: whole ∧ log ≠ whole ∧ ∀ event ∈ log, event.level ≠ .info

theorem atLevel_append (level : Level) (before after : List Event) :
    atLevel level (before ++ after) = atLevel level before ++ atLevel level after :=
  List.filter_append ..

theorem atLevel_warn_diagnosed (diagnostics : List Diagnostic) :
    atLevel .warn (diagnostics.map .diagnosed) = diagnostics.map .diagnosed := by
  apply List.filter_eq_self.2
  intro event member
  obtain ⟨diagnostic, -, rfl⟩ := List.mem_map.1 member
  rfl

theorem breaksOff_take {reports : List Event} {index : Nat} (inside : index < reports.length)
    (quiet : ∀ event ∈ reports, event.level ≠ .info) (rest : List Event) :
    BreaksOff (reports.take index) (reports ++ rest) := by
  refine ⟨(List.take_prefix index reports).trans (List.prefix_append reports rest), ?_, ?_⟩
  · intro same
    have lengths := congrArg List.length same
    rw [List.length_take, List.length_append] at lengths
    omega
  · intro event member
    exact quiet event (List.mem_of_mem_take member)

end Event

variable {ι : Type}

/-! ## What a visit reports -/

/-- What is reported of a declaration when those in `earlier` have been met. -/
inductive Host.Reports (host : Host ι) (marker : String) (earlier : List ι) (id : ι)
    (event : Event) : Prop
  | repeated :
    id ∈ earlier → event.Shows .trace [] → host.Reports marker earlier id event
  | unresolved :
    id ∉ earlier → host.Yields marker id .unresolved → event.Shows .trace [] →
    host.Reports marker earlier id event
  | extracted {target : Target} :
    id ∉ earlier → host.Yields marker id (.extracted target) →
    event.Shows .debug target.summary → host.Reports marker earlier id event
  | rejected {diagnostic : Diagnostic} :
    id ∉ earlier → host.Yields marker id (.rejected diagnostic) →
    event.level = .warn → (event.fields, event.message) = diagnostic.warning →
    host.Reports marker earlier id event

/-- A first visit reports what the declaration gives. -/
theorem Host.reports_find (host : Host ι) (marker : String) {earlier : List ι} {id : ι}
    (new : id ∉ earlier) : host.Reports marker earlier id (host.find marker id).event := by
  have yields := host.find_yields marker id
  generalize host.find marker id = finding at yields
  cases finding with
  | repeated => cases yields
  | unresolved => exact .unresolved new yields ⟨rfl, rfl⟩
  | extracted target => exact .extracted new yields ⟨rfl, rfl⟩
  | rejected diagnostic => exact .rejected new yields rfl rfl

/-- No visit reports a summary. -/
theorem Finding.level_event_ne_info (finding : Finding) : finding.event.level ≠ .info := by
  cases finding with
  | repeated | unresolved | extracted target | rejected diagnostic => exact nofun

/-- A list that is cut short is kept up to the first visit in front of which the
request is visible. -/
theorem Cancellation.cut_fst_of_snd_eq_false {cancellation : Cancellation} {marker : String}
    {visits : List (Visit ι)} {calls : Nat}
    (short : (cancellation.cut marker calls visits).2 = false) :
    ∃ index, index < visits.length ∧
      (cancellation.cut marker calls visits).1 = visits.take index ∧
      cancellation.isRequested
        (calls + ((visits.take index).flatMap (Visit.calls marker)).length) = true ∧
      ∀ other, other < index → cancellation.isRequested
        (calls + ((visits.take other).flatMap (Visit.calls marker)).length) = false := by
  induction visits generalizing calls with
  | nil => cases short
  | cons visit rest ih =>
    rw [cut] at short ⊢
    split at short
    · next requested =>
      rw [if_pos requested]
      exact ⟨0, Nat.zero_lt_succ _, rfl, requested,
        fun other before => (Nat.not_lt_zero other before).elim⟩
    · next unseen =>
      have further (index : Nat) :
          calls + (((visit :: rest).take (index + 1)).flatMap (Visit.calls marker)).length =
            calls + (visit.calls marker).length +
              ((rest.take index).flatMap (Visit.calls marker)).length := by
        rw [List.take_succ_cons, List.flatMap_cons, List.length_append, Nat.add_assoc]
      obtain ⟨index, inside, kept, requested, first⟩ := ih short
      rw [if_neg unseen]
      refine ⟨index + 1, Nat.succ_lt_succ inside, congrArg (visit :: ·) kept, ?_, ?_⟩
      · rw [further]
        exact requested
      · intro other before
        cases other with
        | zero => exact Bool.eq_false_iff.2 unseen
        | succ other =>
          rw [further]
          exact first other (Nat.lt_of_succ_lt_succ before)

variable [DecidableEq ι]

namespace Host

/-- The visit to an element of the list depends on those in front of it. -/
theorem getElem?_visitsAfter (host : Host ι) (marker : String) (ids earlier : List ι)
    (index : Nat) :
    (host.visitsAfter marker earlier ids)[index]? = ids[index]?.map fun id =>
      ⟨id, if id ∈ earlier ∨ id ∈ ids.take index then .repeated else host.find marker id⟩ := by
  induction ids generalizing earlier index with
  | nil => rfl
  | cons head ids ih =>
    rw [visitsAfter]
    cases index with
    | zero => simp
    | succ index =>
      rw [List.getElem?_cons_succ, List.getElem?_cons_succ, List.take_succ_cons, ih]
      simp only [List.mem_cons, or_left_comm, or_assoc]

/-- What the visits of a whole pass report. -/
def reports (host : Host ι) (marker : String) : List Event :=
  (host.visits marker).map fun visit => visit.finding.event

theorem length_reports (host : Host ι) (marker : String) :
    (host.reports marker).length = (host.annotated marker).length := by
  rw [reports, List.length_map]
  exact host.length_visitsAfter marker _ _

/-- Every element of the list is reported, in its turn and as it should be. -/
theorem getElem?_reports (host : Host ι) (marker : String) {index : Nat} {id : ι}
    (listed : (host.annotated marker)[index]? = some id) :
    ∃ event, (host.reports marker)[index]? = some event ∧
      host.Reports marker ((host.annotated marker).take index) id event := by
  have visited := host.getElem?_visitsAfter marker (host.annotated marker) [] index
  rw [listed] at visited
  refine ⟨_, by rw [reports, List.getElem?_map, visits, visited]; rfl, ?_⟩
  dsimp only
  by_cases met : id ∈ (host.annotated marker).take index
  · rw [if_pos (Or.inr met)]
    exact .repeated met ⟨rfl, rfl⟩
  · rw [if_neg (by simpa using met)]
    exact host.reports_find marker met

theorem level_ne_info_of_mem_reports {host : Host ι} {marker : String} :
    ∀ event ∈ host.reports marker, event.level ≠ .info := by
  intro event member
  obtain ⟨visit, -, rfl⟩ := List.mem_map.1 member
  exact visit.finding.level_event_ne_info

/-! ## Reports and results -/

/-- The warnings of the visits are the diagnostics of the discovery. -/
theorem atLevel_warn_reports {host : Host ι} {marker : String}
    (knows : host.knowsMarker marker = true) :
    Event.atLevel .warn (host.reports marker) =
      (host.discovery marker).diagnostics.map .diagnosed := by
  rw [discovery, if_pos knows, reports, Discovery.ofVisits]
  induction host.visits marker with
  | nil => rfl
  | cons visit rest ih =>
    rcases visit with ⟨id, finding⟩
    cases finding with
    | repeated | unresolved | extracted target => exact ih
    | rejected diagnostic => exact congrArg (Event.diagnosed diagnostic :: ·) ih

/-- The debugging events of the visits are the targets of the discovery. -/
theorem atLevel_debug_reports {host : Host ι} {marker : String}
    (knows : host.knowsMarker marker = true) :
    Event.atLevel .debug (host.reports marker) =
      (host.discovery marker).targets.map .extracted := by
  rw [discovery, if_pos knows, reports, Discovery.ofVisits]
  induction host.visits marker with
  | nil => rfl
  | cons visit rest ih =>
    rcases visit with ⟨id, finding⟩
    cases finding with
    | repeated | unresolved | rejected diagnostic => exact ih
    | extracted target => exact congrArg (Event.extracted target :: ·) ih

/-! ## Logs of passes -/

/-- The summary of a discovery. -/
def discovered (host : Host ι) (marker : String) : Event :=
  .discovered (host.discovery marker).targets.length (host.discovery marker).diagnostics.length

/-- The summary of a generation. -/
def generated (host : Host ι) (options : Options) : Event :=
  .generated (host.generation options).artifacts.size
    (host.generation options).diagnostics.length

/-- The diagnostics of the targets that a generation drops. -/
def conflicts (host : Host ι) (options : Options) : List Diagnostic :=
  ((host.discovery options.marker).targets.filter fun target =>
    ¬ (host.generation options).Keeps options target).map (Target.conflict options)

variable {host : Host ι} {options : Options} {cancellation : Cancellation}

/-- A host that does not know the marker makes for one event. -/
theorem log_of_unknown (unknown : host.knowsMarker options.marker = false) :
    (discover host options cancellation).log = [.markerUnknown options.marker] ∧
      (generate host options cancellation).log = [.markerUnknown options.marker] := by
  unfold generate discover
  simp only [unknown, Bool.false_eq_true, if_false, and_self]

theorem log_discover (knows : host.knowsMarker options.marker = true)
    (undisturbed : ¬ host.IsStopped options.marker cancellation) :
    (discover host options cancellation).log =
      host.reports options.marker ++ [host.discovered options.marker] := by
  have complete : (cancellation.cut options.marker 2 (host.visits options.marker)).2 = true := by
    rw [← Bool.not_eq_false, host.cut_visits_eq_false_iff]
    exact fun seen => undisturbed ⟨knows, seen⟩
  unfold discover discovered discovery reports
  simp only [knows, if_true, complete, Cancellation.cut_fst_of_snd complete]

/-- A run of registrations reports the targets that are dropped. -/
theorem snd_registerAll_start (knows : host.knowsMarker options.marker = true) :
    (Generation.registerAll options (Generation.start options)
      (host.discovery options.marker).targets).2 = host.conflicts options := by
  have resolved := (host.discovery_markerResolved options.marker).trans knows
  have reported : (Generation.ofDiscovery options (host.discovery options.marker)).diagnostics = _ :=
    Generation.diagnostics_ofDiscovery resolved
  rw [Generation.ofDiscovery, if_pos resolved] at reported
  rw [List.append_cancel_left reported, conflicts, generation, Generation.ofDiscovery,
    if_pos resolved]

theorem log_generate (knows : host.knowsMarker options.marker = true)
    (undisturbed : ¬ host.IsStopped options.marker cancellation) :
    (generate host options cancellation).log =
      (discover host options cancellation).log ++ (host.conflicts options).map .diagnosed ++
        [host.generated options] := by
  have found := outcome_discover host options cancellation
  have resolved := (host.discovery_markerResolved options.marker).trans knows
  rw [if_neg undisturbed] at found
  unfold generate generated generation Generation.ofDiscovery
  simp only [found, resolved, if_true, Generation.initial_eq_ok, snd_registerAll_start knows]

/-- The warnings of a generation that sees no request to stop are its diagnostics. -/
theorem atLevel_warn_log (undisturbed : ¬ host.IsStopped options.marker cancellation) :
    Event.atLevel .warn (generate host options cancellation).log =
      (host.generation options).diagnostics.map .diagnosed := by
  cases knows : host.knowsMarker options.marker with
  | false =>
    rw [(log_of_unknown knows).2, generation, discovery, knows]
    rfl
  | true =>
    have resolved := (host.discovery_markerResolved options.marker).trans knows
    have summaries : Event.atLevel .warn [host.discovered options.marker] = [] ∧
        Event.atLevel .warn [host.generated options] = [] := ⟨rfl, rfl⟩
    rw [log_generate knows undisturbed, log_discover knows undisturbed, Event.atLevel_append,
      Event.atLevel_append, Event.atLevel_append, summaries.1, summaries.2,
      atLevel_warn_reports knows, Event.atLevel_warn_diagnosed, generation,
      Generation.diagnostics_ofDiscovery resolved, List.map_append, List.append_nil,
      List.append_nil]
    rfl

/-- A pass that sees a request to stop reports what it would have reported in
front of the first element of the list where it sees it. -/
theorem log_of_isStopped (stopped : host.IsStopped options.marker cancellation) :
    ∃ index, index < (host.annotated options.marker).length ∧
      cancellation.isRequested (host.answeredBefore options.marker index) = true ∧
      (∀ other, other < index →
        cancellation.isRequested (host.answeredBefore options.marker other) = false) ∧
      (discover host options cancellation).log = (host.reports options.marker).take index ∧
      (generate host options cancellation).log = (host.reports options.marker).take index := by
  have short := (host.cut_visits_eq_false_iff options.marker cancellation).2 stopped.2
  obtain ⟨index, inside, kept, requested, first⟩ := Cancellation.cut_fst_of_snd_eq_false short
  simp only [length_calls_take] at requested first
  have found := outcome_discover host options cancellation
  rw [if_pos stopped] at found
  have log : (discover host options cancellation).log =
      (host.reports options.marker).take index := by
    unfold discover reports
    simp only [stopped.1, if_true, short, kept, List.map_take, Bool.false_eq_true, if_false,
      List.append_nil]
  refine ⟨index, ?_, requested, first, log, ?_⟩
  · rw [← host.length_reports, reports, List.length_map]
    exact inside
  · rw [← log]
    unfold generate
    simp only [found]

end Host

/-- Over a host that does not know the marker, either pass reports one event.
Otherwise a discovery reports every element of the list of the host in its turn,
and then how many targets and diagnostics it has found; its debugging events are
the targets.  A generation goes on with a warning for every target whose text is
not kept, and then with the numbers of artifacts and diagnostics.  Whenever a
pass succeeds, its warnings are its diagnostics, in order.  Whenever a pass is
cancelled, its log breaks off: it has what the whole pass reports in front of the
first element where the request to stop is visible. -/
theorem log_mirrorsResult (host : Host ι) (options : Options) (cancellation : Cancellation) :
    (host.knowsMarker options.marker = false →
      ∃ event, event.Shows .debug [("marker", .text options.marker)] ∧
        (discover host options .never).log = [event] ∧
        (generate host options .never).log = [event]) ∧
    (host.knowsMarker options.marker = true →
      ∃ found generation reports discovered generated,
        (discover host options .never).outcome = .ok found ∧
        (generate host options .never).outcome = .ok generation ∧
        (discover host options .never).log = reports ++ [discovered] ∧
        reports.length = (host.annotated options.marker).length ∧
        (∀ index id, (host.annotated options.marker)[index]? = some id →
          ∃ event, reports[index]? = some event ∧ host.Reports options.marker
            ((host.annotated options.marker).take index) id event) ∧
        discovered.Shows .info [("targets", .count found.targets.length),
          ("diagnostics", .count found.diagnostics.length)] ∧
        (Event.atLevel .debug reports).map Event.fields = found.targets.map Target.summary ∧
        (generate host options .never).log = (discover host options .never).log ++
          (found.targets.filter fun target => ¬ generation.Keeps options target).map
            (fun target => .diagnosed (target.conflict options)) ++ [generated] ∧
        generated.Shows .info [("artifacts", .count generation.artifacts.size),
          ("diagnostics", .count generation.diagnostics.length)]) ∧
    (∀ generation, (generate host options cancellation).outcome = .ok generation →
      (Event.atLevel .warn (generate host options cancellation).log).map
          (fun event => (event.fields, event.message)) =
        generation.diagnostics.map Diagnostic.warning) ∧
    ((discover host options cancellation).outcome = .error .cancelled →
      Event.BreaksOff (discover host options cancellation).log
          (discover host options .never).log ∧
        ∃ index, index < (host.annotated options.marker).length ∧
          cancellation.isRequested (host.answeredBefore options.marker index) = true ∧
          (∀ other, other < index →
            cancellation.isRequested (host.answeredBefore options.marker other) = false) ∧
          (discover host options cancellation).log =
            (discover host options .never).log.take index) ∧
    ((generate host options cancellation).outcome = .error .cancelled →
      (generate host options cancellation).log = (discover host options cancellation).log ∧
        Event.BreaksOff (generate host options cancellation).log
          (generate host options .never).log) := by
  have never := host.not_isStopped_never options.marker
  refine ⟨?_, ?_, ?_, ?_, ?_⟩
  · intro unknown
    exact ⟨_, ⟨rfl, rfl⟩, (Host.log_of_unknown unknown).1, (Host.log_of_unknown unknown).2⟩
  · intro knows
    refine ⟨_, _, _, _, host.generated options, outcome_discover_never host options,
      outcome_generate_never host options, Host.log_discover knows never,
      host.length_reports options.marker,
      fun _ _ => host.getElem?_reports options.marker, ⟨rfl, rfl⟩, ?_, ?_, ⟨rfl, rfl⟩⟩
    · rw [Host.atLevel_debug_reports knows, List.map_map]
      rfl
    · rw [Host.log_generate knows never, Host.conflicts, List.map_map]
      rfl
  · intro generation succeeded
    have undisturbed : ¬ host.IsStopped options.marker cancellation := by
      intro stopped
      rw [(generate_cancelled_iff host options cancellation).2 stopped] at succeeded
      cases succeeded
    rw [outcome_generate, if_neg undisturbed] at succeeded
    cases succeeded
    rw [Host.atLevel_warn_log undisturbed, List.map_map]
    rfl
  · intro cancelled
    have stopped := (discover_cancelled_iff host options cancellation).1 cancelled
    obtain ⟨index, inside, requested, first, discovered, -⟩ := Host.log_of_isStopped stopped
    have whole : (discover host options .never).log.take index =
        (host.reports options.marker).take index := by
      rw [Host.log_discover stopped.1 never]
      exact List.take_append_of_le_length (host.length_reports _ ▸ Nat.le_of_lt inside)
    refine ⟨?_, index, inside, requested, first, discovered.trans whole.symm⟩
    rw [← host.length_reports] at inside
    rw [discovered, Host.log_discover stopped.1 never]
    exact Event.breaksOff_take inside Host.level_ne_info_of_mem_reports _
  · intro cancelled
    have stopped := (generate_cancelled_iff host options cancellation).1 cancelled
    obtain ⟨index, inside, -, -, discovered, generated⟩ := Host.log_of_isStopped stopped
    rw [← host.length_reports] at inside
    refine ⟨generated.trans discovered.symm, ?_⟩
    rw [generated, Host.log_generate stopped.1 never, Host.log_discover stopped.1 never,
      List.append_assoc, List.append_assoc]
    exact Event.breaksOff_take inside Host.level_ne_info_of_mem_reports _

theorem log_mirrorsResult_assorted :
    DeclarationSet.assorted.host.knowsMarker Options.default.marker = true ∧
      (∃ reports summary, reports.length = 7 ∧
        (discover DeclarationSet.assorted.host .default .never).log = reports ++ [summary]) ∧
      (discover DeclarationSet.assorted.host .default (.duringCall 6)).outcome =
        .error .cancelled ∧
      Event.BreaksOff (discover DeclarationSet.assorted.host .default (.duringCall 6)).log
        (discover DeclarationSet.assorted.host .default .never).log := by
  have cancelled : (discover DeclarationSet.assorted.host .default (.duringCall 6)).outcome =
      .error .cancelled := by
    rw [outcome_discover, if_pos (by decide +kernel)]
  obtain ⟨-, known, -, stopped, -⟩ :=
    log_mirrorsResult DeclarationSet.assorted.host .default (.duringCall 6)
  obtain ⟨-, -, reports, summary, -, -, -, log, length, -⟩ := known rfl
  have listed : (DeclarationSet.assorted.host.annotated Options.default.marker).length = 7 := by
    decide +kernel
  exact ⟨rfl, ⟨reports, summary, length.trans listed, log⟩, cancelled, (stopped cancelled).1⟩

end CharDispatch
