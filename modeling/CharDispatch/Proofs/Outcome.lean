import CharDispatch.Generation
import CharDispatch.Proofs.Visits

/-!
# Outcomes of passes that may be asked to stop

A pass looks for a request to stop in front of every element of the list of its
host, repeated ids included, and nowhere else.  So a pass has two outcomes only:
`cancelled` if one of these looks finds the request (`Host.IsStopped`), and
otherwise what the same pass finds when nobody asks it to stop.

* `outcome_discover`, `outcome_generate`: the outcome of either pass.
* `outcome_allOrNothing`: a request never changes a result, it only withholds it.
-/

namespace CharDispatch

variable {ι : Type}

/-! ## Cutting a list of visits -/

namespace Cancellation

@[simp] theorem isRequested_never (calls : Nat) : never.isRequested calls = false := rfl

/-- A list is cut short exactly when the request is visible in front of one of
its visits, once the visits in front of that one have put their questions. -/
theorem cut_snd_eq_false_iff (cancellation : Cancellation) (marker : String)
    (visits : List (Visit ι)) (calls : Nat) :
    (cancellation.cut marker calls visits).2 = false ↔
      ∃ index, index < visits.length ∧ cancellation.isRequested
        (calls + ((visits.take index).flatMap (Visit.calls marker)).length) = true := by
  induction visits generalizing calls with
  | nil => simp [cut]
  | cons visit rest ih =>
    rw [cut]
    split
    · next requested =>
      exact iff_of_true rfl ⟨0, Nat.zero_lt_succ _, requested⟩
    · next unseen =>
      refine (ih _).trans ⟨?_, ?_⟩
      · intro seen
        rcases seen with ⟨index, inside, requested⟩
        refine ⟨index + 1, Nat.succ_lt_succ inside, ?_⟩
        rw [List.take_succ_cons, List.flatMap_cons, List.length_append, ← Nat.add_assoc]
        exact requested
      · intro seen
        rcases seen with ⟨index, inside, requested⟩
        cases index with
        | zero => exact absurd requested unseen
        | succ index =>
          refine ⟨index, Nat.lt_of_succ_lt_succ inside, ?_⟩
          rw [List.take_succ_cons, List.flatMap_cons, List.length_append,
            ← Nat.add_assoc] at requested
          exact requested

/-- A list that is not cut short is kept whole. -/
theorem cut_fst_of_snd {cancellation : Cancellation} {marker : String}
    {visits : List (Visit ι)} {calls : Nat}
    (complete : (cancellation.cut marker calls visits).2 = true) :
    (cancellation.cut marker calls visits).1 = visits := by
  induction visits generalizing calls with
  | nil => rfl
  | cons visit rest ih =>
    rw [cut] at complete ⊢
    split at complete
    · cases complete
    · next unseen =>
      rw [if_neg unseen]
      exact congrArg (visit :: ·) (ih complete)

end Cancellation

variable [DecidableEq ι]

/-! ## Discovery -/

/-- A pass over `host` sees the request to stop: the host knows the marker, and
the request is visible in front of some element of its list. -/
def Host.IsStopped (host : Host ι) (marker : String) (cancellation : Cancellation) : Prop :=
  host.knowsMarker marker = true ∧
    ∃ index, index < (host.annotated marker).length ∧
      cancellation.isRequested (host.answeredBefore marker index) = true

instance (host : Host ι) (marker : String) (cancellation : Cancellation) :
    Decidable (host.IsStopped marker cancellation) :=
  inferInstanceAs (Decidable (_ ∧ ∃ index, index < _ ∧ _))

theorem Host.not_isStopped_never (host : Host ι) (marker : String) :
    ¬ host.IsStopped marker .never := by
  intro stopped
  rcases stopped with ⟨-, index, -, requested⟩
  rw [Cancellation.isRequested_never] at requested
  cases requested

/-- The visits of a pass are cut short exactly when it sees the request. -/
theorem Host.cut_visits_eq_false_iff (host : Host ι) (marker : String)
    (cancellation : Cancellation) :
    (cancellation.cut marker 2 (host.visits marker)).2 = false ↔
      ∃ index, index < (host.annotated marker).length ∧
        cancellation.isRequested (host.answeredBefore marker index) = true := by
  have length : (host.visits marker).length = (host.annotated marker).length :=
    host.length_visitsAfter marker _ _
  simp only [Cancellation.cut_snd_eq_false_iff, Host.length_calls_take, length]

/-- A discovery is cancelled when it sees the request, and otherwise finds what
it finds undisturbed. -/
theorem outcome_discover (host : Host ι) (options : Options) (cancellation : Cancellation) :
    (discover host options cancellation).outcome =
      if host.IsStopped options.marker cancellation then .error .cancelled
      else .ok (host.discovery options.marker) := by
  unfold discover Host.discovery
  by_cases knows : host.knowsMarker options.marker = true
  · have cutShort := host.cut_visits_eq_false_iff options.marker cancellation
    simp only [knows, if_true]
    cases complete : (cancellation.cut options.marker 2 (host.visits options.marker)).2 with
    | false =>
      have stopped : host.IsStopped options.marker cancellation :=
        ⟨knows, cutShort.1 complete⟩
      rw [if_pos stopped, if_neg Bool.false_ne_true]
    | true =>
      have undisturbed : ¬ host.IsStopped options.marker cancellation := fun stopped => by
        rw [cutShort.2 stopped.2] at complete
        cases complete
      rw [if_neg undisturbed, if_pos rfl, Cancellation.cut_fst_of_snd complete]
  · have undisturbed : ¬ host.IsStopped options.marker cancellation :=
      fun stopped => knows stopped.1
    rw [if_neg undisturbed]
    simp only [knows, Bool.false_eq_true, if_false]

theorem discover_cancelled_iff (host : Host ι) (options : Options) (cancellation : Cancellation) :
    (discover host options cancellation).outcome = .error .cancelled ↔
      host.IsStopped options.marker cancellation := by
  rw [outcome_discover]
  split
  · next stopped => exact iff_of_true rfl stopped
  · next undisturbed => exact iff_of_false nofun undisturbed

/-! ## Generation -/

namespace Generation

/-- The registry to which the artifacts of targets are added. -/
def start (options : Options) : Registry :=
  if options.embedAttribute then
    ⟨OrderedMap.empty.insert options.markerHintName (Template.renderMarker options)⟩
  else .empty

/-- Registering the marker definition cannot fail. -/
theorem initial_eq_ok (options : Options) : initial options = .ok (start options) := by
  unfold initial start
  cases options.embedAttribute with
  | false => rfl
  | true => rfl

/-- The artifacts and diagnostics that come of a complete discovery. -/
def ofDiscovery (options : Options) (found : Discovery) : Generation :=
  if found.markerResolved then
    let registered := registerAll options (start options) found.targets
    ⟨registered.1, found.diagnostics ++ registered.2⟩
  else ⟨.empty, found.diagnostics⟩

end Generation

/-- What a generation that nobody stops leaves behind. -/
def Host.generation (host : Host ι) (options : Options) : Generation :=
  .ofDiscovery options (host.discovery options.marker)

/-- A generation fails exactly when its discovery is cancelled. -/
theorem outcome_generate (host : Host ι) (options : Options) (cancellation : Cancellation) :
    (generate host options cancellation).outcome =
      if host.IsStopped options.marker cancellation then .error .cancelled
      else .ok (host.generation options) := by
  have discovered := outcome_discover host options cancellation
  unfold generate Host.generation Generation.ofDiscovery
  by_cases stopped : host.IsStopped options.marker cancellation
  · rw [if_pos stopped] at discovered ⊢
    simp only [discovered]
  · rw [if_neg stopped] at discovered ⊢
    simp only [discovered, Generation.initial_eq_ok]
    split
    · rfl
    · rfl

theorem generate_cancelled_iff (host : Host ι) (options : Options) (cancellation : Cancellation) :
    (generate host options cancellation).outcome = .error .cancelled ↔
      host.IsStopped options.marker cancellation := by
  rw [outcome_generate]
  split
  · next stopped => exact iff_of_true rfl stopped
  · next undisturbed => exact iff_of_false nofun undisturbed

/-! ## Requests withhold results and change none -/

theorem outcome_discover_never (host : Host ι) (options : Options) :
    (discover host options .never).outcome = .ok (host.discovery options.marker) := by
  rw [outcome_discover, if_neg (host.not_isStopped_never _)]

theorem outcome_generate_never (host : Host ι) (options : Options) :
    (generate host options .never).outcome = .ok (host.generation options) := by
  rw [outcome_generate, if_neg (host.not_isStopped_never _)]

/-- Whenever a pass is asked to stop, it is cancelled if and only if the host
knows the marker and the request is visible in front of some element of the
list; otherwise discovery and generation leave exactly what they leave when
nobody asks them to stop.  A generation fails only with its discovery. -/
theorem outcome_allOrNothing (host : Host ι) (options : Options)
    (cancellation : Cancellation) :
    ((discover host options cancellation).outcome = .error .cancelled ↔
      host.knowsMarker options.marker = true ∧
        ∃ index, index < (host.annotated options.marker).length ∧
          cancellation.isRequested (host.answeredBefore options.marker index) = true) ∧
    ((discover host options cancellation).outcome ≠ .error .cancelled →
      (discover host options cancellation).outcome = (discover host options .never).outcome) ∧
    (∃ found, (discover host options .never).outcome = .ok found) ∧
    ((∃ fault, (generate host options cancellation).outcome = .error fault) ↔
      (discover host options cancellation).outcome = .error .cancelled) ∧
    ((discover host options cancellation).outcome ≠ .error .cancelled →
      (generate host options cancellation).outcome = (generate host options .never).outcome) ∧
    (∃ left, (generate host options .never).outcome = .ok left) := by
  have discovered := outcome_discover host options cancellation
  have generated := outcome_generate host options cancellation
  rw [outcome_discover_never, outcome_generate_never]
  by_cases stopped : host.IsStopped options.marker cancellation
  · rw [if_pos stopped] at discovered generated
    rw [discovered, generated]
    exact ⟨iff_of_true rfl stopped, fun wrong => (wrong rfl).elim, ⟨_, rfl⟩,
      iff_of_true ⟨_, rfl⟩ rfl, fun wrong => (wrong rfl).elim, ⟨_, rfl⟩⟩
  · rw [if_neg stopped] at discovered generated
    rw [discovered, generated]
    refine ⟨iff_of_false nofun stopped, fun _ => rfl, ⟨_, rfl⟩, iff_of_false ?_ nofun,
      fun _ => rfl, ⟨_, rfl⟩⟩
    intro failed
    rcases failed with ⟨fault, same⟩
    cases same

end CharDispatch
