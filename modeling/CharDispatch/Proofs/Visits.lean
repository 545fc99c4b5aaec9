import CharDispatch.Discovery
import Mathlib.Algebra.GroupWithZero.Nat
import Mathlib.Data.List.Basic
import Mathlib.Data.List.Induction

/-!
# Visits of an undisturbed pass

A pass goes through the ids that its host lists and remembers the declarations
it has met.  A declaration that comes again adds nothing, so whatever is read
off the visits of a pass is read off the distinct ids alone, in the order in
which they first occur (`Host.flatMap_visitsAfter`).  That holds of the targets, of
the diagnostics and of the questions put to the host, which is how the number
of answers before any element of the list is known (`Host.length_calls_take`).
-/

namespace CharDispatch

variable {ι : Type} [DecidableEq ι]

namespace Host

/-- The declarations that carry the marker, each at its first occurrence. -/
def distinct (host : Host ι) (marker : String) : List ι :=
  (host.annotated marker).eraseDups

/-- What a pass that nobody stops finds. -/
def discovery (host : Host ι) (marker : String) : Discovery :=
  if host.knowsMarker marker then .ofVisits (host.visits marker) else ⟨false, [], []⟩

/-! ## Repeated ids -/

theorem eraseDups_concat (ids : List ι) (id : ι) :
    (ids ++ [id]).eraseDups = if id ∈ ids then ids.eraseDups else ids.eraseDups ++ [id] := by
  rw [List.eraseDups_append]
  split
  · next met =>
    have gone : [id].removeAll ids = [] := by simp [List.removeAll, met]
    rw [gone, List.eraseDups_nil, List.append_nil]
  · next new =>
    have kept : [id].removeAll ids = [id] := by simp [List.removeAll, new]
    rw [kept, List.eraseDups_cons, List.filter_nil, List.eraseDups_nil]

theorem nodup_eraseDups (ids : List ι) : ids.eraseDups.Nodup := by
  induction ids using List.reverseRecOn with
  | nil => exact List.nodup_nil
  | append_singleton ids id ih =>
    rw [eraseDups_concat]
    split
    · exact ih
    · next new =>
      refine List.nodup_append.2 ⟨ih, by simp, ?_⟩
      rintro a member b last rfl
      exact new (List.mem_singleton.1 last ▸ List.mem_eraseDups.1 member)

theorem eraseDups_of_nodup {ids : List ι} (distinct : ids.Nodup) : ids.eraseDups = ids := by
  induction ids with
  | nil => rfl
  | cons id ids ih =>
    obtain ⟨new, distinct⟩ := List.nodup_cons.1 distinct
    have kept : (ids.filter fun other => !other == id) = ids := by
      refine List.filter_eq_self.2 fun other member => ?_
      have differ : other ≠ id := fun eq => new (eq ▸ member)
      simpa using differ
    rw [List.eraseDups_cons, kept, ih distinct]

theorem filter_notMem_cons (earlier ids : List ι) (id : ι) :
    (ids.filter fun other => decide (other ∉ earlier)).filter (fun other => !other == id) =
      ids.filter fun other => decide (other ∉ id :: earlier) := by
  rw [List.filter_filter]
  refine List.filter_congr fun other _ => ?_
  by_cases same : other = id <;> simp [same]

/-- Whatever is silent on repeated declarations is read off the declarations
that were not met before, each at its first occurrence. -/
theorem flatMap_visitsAfter {β : Type} (host : Host ι) (marker : String)
    {read : Visit ι → List β} (silent : ∀ id, read ⟨id, .repeated⟩ = [])
    (ids earlier : List ι) :
    (host.visitsAfter marker earlier ids).flatMap read =
      (ids.filter fun id => decide (id ∉ earlier)).eraseDups.flatMap fun id =>
        read ⟨id, host.find marker id⟩ := by
  induction ids generalizing earlier with
  | nil => rfl
  | cons id ids ih =>
    rw [visitsAfter, List.flatMap_cons, ih]
    by_cases met : id ∈ earlier
    · have same : (ids.filter fun other => decide (other ∉ id :: earlier)) =
          ids.filter fun other => decide (other ∉ earlier) := by
        refine List.filter_congr fun other _ => ?_
        by_cases eq : other = id <;> simp [eq, met]
      rw [if_pos met, silent, List.nil_append, same, List.filter_cons_of_neg (by simp [met])]
    · rw [if_neg met, List.filter_cons_of_pos (by simp [met]), List.eraseDups_cons,
        List.flatMap_cons, filter_notMem_cons]

/-- When nothing was met before, it is read off the distinct ids. -/
theorem flatMap_visitsAfter_nil {β : Type} (host : Host ι) (marker : String)
    {read : Visit ι → List β} (silent : ∀ id, read ⟨id, .repeated⟩ = []) (ids : List ι) :
    (host.visitsAfter marker [] ids).flatMap read =
      ids.eraseDups.flatMap fun id => read ⟨id, host.find marker id⟩ := by
  have all : (ids.filter fun id => decide (id ∉ ([] : List ι))) = ids :=
    List.filter_eq_self.2 fun id _ => by simp
  rw [flatMap_visitsAfter host marker silent, all]

theorem filterMap_visits {β : Type} (host : Host ι) (marker : String)
    {read : Finding → Option β} (silent : read .repeated = none) :
    (host.visits marker).filterMap (fun visit => read visit.finding) =
      (host.distinct marker).filterMap fun id => read (host.find marker id) := by
  rw [List.filterMap_eq_flatMap_toList, List.filterMap_eq_flatMap_toList]
  exact host.flatMap_visitsAfter_nil marker (fun _ => congrArg Option.toList silent) _

theorem targets_ofVisits (host : Host ι) (marker : String) :
    (Discovery.ofVisits (host.visits marker)).targets =
      (host.distinct marker).filterMap fun id => (host.find marker id).target? :=
  host.filterMap_visits marker rfl

theorem diagnostics_ofVisits (host : Host ι) (marker : String) :
    (Discovery.ofVisits (host.visits marker)).diagnostics =
      (host.distinct marker).filterMap fun id => (host.find marker id).diagnostic? :=
  host.filterMap_visits marker rfl

/-! ## Answers before an element of the list -/

/-- How many questions a first visit to a declaration puts to the host: one if
it is unresolved, else two more for the arguments. -/
def questionsAbout (host : Host ι) (id : ι) : Nat :=
  if (host.resolve id).isSome then 3 else 1

/-- How many answers the host has given when a pass comes to element `index` of
the list: two about the marker, and those about the distinct declarations in
front of the element. -/
def answeredBefore (host : Host ι) (marker : String) (index : Nat) : Nat :=
  2 + (((host.annotated marker).take index).eraseDups.map host.questionsAbout).sum

omit [DecidableEq ι] in
theorem length_calls_find (host : Host ι) (marker : String) (id : ι) :
    (Visit.calls marker ⟨id, host.find marker id⟩).length = host.questionsAbout id := by
  unfold find questionsAbout
  cases host.resolve id with
  | none => rfl
  | some declaration =>
    dsimp only
    cases host.extract marker id declaration with
    | ok target => rfl
    | error diagnostic => rfl

theorem take_visitsAfter (host : Host ι) (marker : String) (ids earlier : List ι) (count : Nat) :
    (host.visitsAfter marker earlier ids).take count =
      host.visitsAfter marker earlier (ids.take count) := by
  induction ids generalizing earlier count with
  | nil => simp [visitsAfter]
  | cons id ids ih =>
    cases count with
    | zero => rfl
    | succ count =>
      rw [visitsAfter, List.take_succ_cons, List.take_succ_cons, visitsAfter, ih]

@[simp] theorem length_visitsAfter (host : Host ι) (marker : String) (ids earlier : List ι) :
    (host.visitsAfter marker earlier ids).length = ids.length := by
  induction ids generalizing earlier with
  | nil => rfl
  | cons id ids ih => rw [visitsAfter, List.length_cons, List.length_cons, ih]

/-- The questions of the visits in front of an element are those counted. -/
theorem length_calls_take (host : Host ι) (marker : String) (index : Nat) :
    2 + (((host.visits marker).take index).flatMap (Visit.calls marker)).length =
      host.answeredBefore marker index := by
  rw [visits, take_visitsAfter, flatMap_visitsAfter_nil host marker fun _ => rfl,
    List.length_flatMap, answeredBefore]
  simp only [length_calls_find]

end Host

end CharDispatch
