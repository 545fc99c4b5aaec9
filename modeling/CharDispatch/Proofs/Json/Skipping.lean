import CharDispatch.Proofs.Json.Containers

/-!
# Written values are skipped as a whole

Skipping goes through a text with the list of the containers still open.  One step lemma for
each branch says where it stands next (`skipFrom_scalar` and so on), and by induction on how
a value is written, skipping it leads from the place in front of it to the place right
behind it, whatever containers are open and whatever follows (`skipFrom_written`).

* `Reader.reads_ignored`: a value that is not wanted is consumed exactly.
-/

namespace CharDispatch.Json

/-! ## Steps -/

section Steps

variable {frame : Frame} {frames : List Frame} {s inside rest : List Char}

theorem skipFrom_scalar (head : skipHead s = some (.scalar, rest)) :
    skipFrom .before frames s = skipFrom .behind frames rest := by
  rw [skipFrom]
  split
  · next none => cases head.symm.trans none
  · next same => cases head.symm.trans same; rfl
  · next opened => cases head.symm.trans opened

theorem skipFrom_empty (head : skipHead s = some (.opened frame, inside))
    (closed : after? frame.close inside = some rest) :
    skipFrom .before frames s = skipFrom .behind frames rest := by
  rw [skipFrom]
  split
  · next none => cases head.symm.trans none
  · next scalar => cases head.symm.trans scalar
  · next same =>
    cases head.symm.trans same
    split
    · next found => cases closed.symm.trans found; rfl
    · next missing => cases closed.symm.trans missing

theorem skipFrom_opened (head : skipHead s = some (.opened frame, inside))
    (more : after? frame.close inside = none) (key : frame.skipKey inside = some rest) :
    skipFrom .before frames s = skipFrom .before (frame :: frames) rest := by
  rw [skipFrom]
  split
  · next none => cases head.symm.trans none
  · next scalar => cases head.symm.trans scalar
  · next same =>
    cases head.symm.trans same
    split
    · next found => cases more.symm.trans found
    · split
      · next missing => cases key.symm.trans missing
      · next found => cases key.symm.trans found; rfl

theorem skipFrom_comma {next : List Char} (comma : after? ',' s = some next)
    (key : frame.skipKey next = some rest) :
    skipFrom .behind (frame :: frames) s = skipFrom .before (frame :: frames) rest := by
  conv_lhs => rw [skipFrom]
  split
  · next found =>
    cases comma.symm.trans found
    split
    · next missing => cases key.symm.trans missing
    · next found => cases key.symm.trans found; rfl
  · next missing => cases comma.symm.trans missing

theorem skipFrom_close (comma : after? ',' s = none)
    (closed : after? frame.close s = some rest) :
    skipFrom .behind (frame :: frames) s = skipFrom .behind frames rest := by
  rw [skipFrom]
  split
  · next found => cases comma.symm.trans found
  · split
    · next missing => cases closed.symm.trans missing
    · next found => cases closed.symm.trans found; rfl

end Steps

/-! ## Containers -/

theorem Frame.isClosing (frame : Frame) : Reader.IsClosing frame.close := by
  cases frame with
  | sequence => exact .inl rfl
  | map => exact .inr rfl

/-- A text of an item, or of a member behind its key, is skipped up to what follows it. -/
def Frame.Skips (frame : Frame) (text : List Char) : Prop :=
  ∀ frames rest, Numeral.Stops rest → ∃ behindKey, frame.skipKey (text ++ rest) = some behindKey ∧
    skipFrom .before (frame :: frames) behindKey = skipFrom .behind (frame :: frames) rest

variable {frame : Frame} {texts : List (List Char)} {chars : List Char}

theorem skipFrom_further (further : Further frame.close texts chars)
    (skips : ∀ text ∈ texts, frame.Skips text) (frames : List Frame) (rest : List Char) :
    skipFrom .behind (frame :: frames) (chars ++ rest) = skipFrom .behind frames rest := by
  have closing := frame.isClosing
  induction further with
  | @close blanks isBlanks =>
    rw [List.append_assoc, List.singleton_append]
    refine skipFrom_close ?_ ?_
    · rw [after?_append isBlanks]
      exact after?_other rest closing.plain.1 closing.plain.2.1
    · rw [after?_append isBlanks]
      exact after?_self rest closing.plain.1
  | @comma blanks text chars texts isBlanks further ih =>
    obtain ⟨first, others⟩ := List.forall_mem_cons.1 skips
    rcases first frames (chars ++ rest) (Reader.stops_of_further closing further rest) with
      ⟨behindKey, key, skipped⟩
    have comma : after? ',' (blanks ++ ',' :: (text ++ (chars ++ rest))) =
        some (text ++ (chars ++ rest)) := by
      rw [after?_append isBlanks]
      exact after?_self _ (by decide)
    rw [List.append_assoc, List.cons_append, List.append_assoc, skipFrom_comma comma key, skipped]
    exact ih others

theorem skipFrom_inside {s rest : List Char} (head : skipHead s = some (.opened frame, chars ++ rest))
    (inside : Inside frame.close texts chars)
    (opens : ∀ text ∈ texts, Value.Opens (skipBlank text))
    (skips : ∀ text ∈ texts, frame.Skips text) (frames : List Frame) :
    skipFrom .before frames s = skipFrom .behind frames rest := by
  have closing := frame.isClosing
  cases inside with
  | none isBlanks =>
    refine skipFrom_empty head ?_
    rw [List.append_assoc, after?_append isBlanks]
    exact after?_self rest closing.plain.1
  | @some text chars texts further =>
    obtain ⟨first, others⟩ := List.forall_mem_cons.1 skips
    rcases first frames (chars ++ rest) (Reader.stops_of_further closing further rest) with
      ⟨behindKey, key, skipped⟩
    rw [List.append_assoc] at head
    have more := Reader.after?_of_opens closing (opens text (.head _)) (chars ++ rest)
    rw [skipFrom_opened head more key, skipped]
    exact skipFrom_further further others frames rest

/-! ## Values -/

theorem skipHead_blank {c : Char} (rest : List Char) (blank : isBlank c = true) :
    skipHead (c :: rest) = skipHead rest := by
  rw [skipHead, skipBlank_of_blank rest blank, ← skipHead]

theorem skipHead_numeral {numeral : Numeral} {chars rest : List Char}
    (written : numeral.WrittenAs chars) (stops : Numeral.Stops rest) :
    skipHead (chars ++ rest) = some (.scalar, rest) := by
  have whole := Numeral.read_written written stops
  rcases Numeral.exists_written written rest with ⟨c, tail, eq, start⟩
  rw [eq] at whole ⊢
  -- none of the other beginnings of a value is a beginning of a numeral
  have plain := start.plain
  unfold skipHead
  rw [skipBlank_cons tail plain.1]
  split
  case h_1 eq => cases eq
  case h_8 => rw [whole, Option.map_some]
  all_goals
    next eq => simp [plain] at eq

theorem skipKey_key {key : String} {front : List Char} (written : KeyWrittenAs key front)
    (s : List Char) : Frame.map.skipKey (front ++ s) = some s := by
  rcases written with ⟨before, quoted, behind, blanks, text, blanksBehind, rfl⟩
  have regroup : before ++ '"' :: (quoted ++ (behind ++ [':'])) ++ s =
      before ++ '"' :: (quoted ++ (behind ++ ':' :: s)) := by simp
  rw [regroup, Frame.skipKey, after?_append blanks, after?_self _ (by decide), Option.bind_some,
    StringText.skip_written text, Option.bind_some, after?_append blanksBehind,
    after?_self _ (by decide)]

/-- A written value is skipped as a whole, whatever containers are open and whatever
follows. -/
theorem skipFrom_written {value : Value} {text : List Char} (written : value.WrittenAs text)
    (frames : List Frame) {rest : List Char} (stops : Numeral.Stops rest) :
    skipFrom .before frames (text ++ rest) = skipFrom .behind frames rest := by
  -- the inside of a container is skipped with one more container open
  induction written generalizing frames rest with
  | @blank value c chars blank _ ih =>
    have same : skipFrom .before frames (c :: (chars ++ rest)) =
        skipFrom .before frames (chars ++ rest) := by
      rw [skipFrom, skipFrom, skipHead_blank _ blank]
    rw [List.cons_append, same]
    exact ih frames stops
  | null => exact skipFrom_scalar rfl
  | bool value =>
    cases value with
    | false => exact skipFrom_scalar rfl
    | true => exact skipFrom_scalar rfl
  | number written => exact skipFrom_scalar (skipHead_numeral written stops)
  | string written =>
    refine skipFrom_scalar ?_
    change (StringText.skip _).map _ = _
    rw [List.append_eq, StringText.skip_written written, Option.map_some]
  | @array items chars written inside ih =>
    have head : skipHead ('[' :: chars ++ rest) = some (.opened .sequence, chars ++ rest) := rfl
    refine skipFrom_inside head inside ?_ ?_ frames
    · exact List.forall_mem_map.2 fun item member => (written item member).opens
    · refine List.forall_mem_map.2 fun item member frames rest stops => ?_
      exact ⟨_, rfl, ih item member _ stops⟩
  | @object members chars keys written inside ih =>
    have head : skipHead ('\x7b' :: chars ++ rest) = some (.opened .map, chars ++ rest) := rfl
    refine skipFrom_inside head inside ?_ ?_ frames
    · exact List.forall_mem_map.2 fun member listed =>
        Value.opens_of_key (keys member listed) member.back
    · refine List.forall_mem_map.2 fun member listed frames rest stops => ?_
      refine ⟨member.back ++ rest, ?_, ih member listed _ stops⟩
      rw [List.append_assoc]
      exact skipKey_key (keys member listed) _

namespace Reader

/-- A value that is not wanted is consumed exactly, whatever it is. -/
theorem reads_ignored {value : Value} {text : List Char} (written : value.WrittenAs text) :
    ignored.Reads text () := by
  intro rest stops
  have skipped : skip (text ++ rest) = some rest := by
    rw [skip, skipFrom_written written [] stops, skipFrom]
  unfold ignored
  dsimp only
  rw [skipped]

end Reader

end CharDispatch.Json
