import CharDispatch.CharacterSet

/-!
# Validation of character sets

Validation goes through the characters from left to right and keeps those it has
passed.  The invariant is that the characters passed so far can be served, so
the first character that breaks this is the one reported
(`validate_of_offence`), and a set without such a character is accepted
(`validate_eq_ok_iff`).

Seen from the list, a character offends at its place if it needs two units or
stands further to the left too, and what is reported is the offence at the least
place (`validate_leftmost`).
-/

namespace CharDispatch.CharacterSet

/-- No character is listed twice, and each is a single UTF-16 unit. -/
def IsServable (characters : List Char) : Prop :=
  characters.Nodup ∧ ∀ c ∈ characters, c.toNat ≤ 0xFFFF

instance (characters : List Char) : Decidable (IsServable characters) :=
  inferInstanceAs (Decidable (_ ∧ _))

/-- The fault of a character that breaks a set which could be served. -/
def offence (declaration : String) (c : Char) : Fault :=
  if fitsOneUnit c then .duplicateCharacter declaration c
  else .unrepresentableCharacter declaration c

theorem fitsOneUnit_iff {c : Char} : fitsOneUnit c = true ↔ c.toNat ≤ 0xFFFF :=
  decide_eq_true_iff

theorem isServable_nil : IsServable [] := ⟨List.nodup_nil, nofun⟩

theorem IsServable.left {front back : List Char} (servable : IsServable (front ++ back)) :
    IsServable front :=
  ⟨(List.nodup_append.1 servable.1).1, fun c member =>
    servable.2 c (List.mem_append_left back member)⟩

/-- One more character can be served if it is a single unit and new. -/
theorem isServable_concat_iff {front : List Char} {c : Char} :
    IsServable (front ++ [c]) ↔ IsServable front ∧ fitsOneUnit c = true ∧ c ∉ front := by
  rw [fitsOneUnit_iff]
  constructor
  · intro servable
    have distinct := List.nodup_append.1 servable.1
    exact ⟨servable.left, servable.2 c (by simp),
      fun member => distinct.2.2 c member c (by simp) rfl⟩
  · intro extended
    rcases extended with ⟨⟨distinct, single⟩, fits, new⟩
    refine ⟨List.nodup_append.2 ⟨distinct, by simp, ?_⟩, ?_⟩
    · rintro a member b last rfl
      exact new (List.mem_singleton.1 last ▸ member)
    · intro a member
      rcases List.mem_append.1 member with old | last
      · exact single a old
      · exact List.mem_singleton.1 last ▸ fits

/-- Characters that can be served behind those already passed are passed too. -/
theorem validateAfter_append (declaration : String) (passed front back : List Char)
    (servable : IsServable (passed ++ front)) :
    validateAfter declaration passed.reverse (front ++ back) =
      validateAfter declaration (passed ++ front).reverse back := by
  induction front generalizing passed with
  | nil => rw [List.nil_append, List.append_nil]
  | cons c front ih =>
    have regroup : passed ++ c :: front = (passed ++ [c]) ++ front := by
      rw [List.append_assoc, List.singleton_append]
    rw [regroup] at servable ⊢
    obtain ⟨-, fits, new⟩ := isServable_concat_iff.1 servable.left
    have step : (passed ++ [c]).reverse = c :: passed.reverse := by simp
    rw [← ih (passed ++ [c]) servable, step, List.cons_append, validateAfter, fits,
      if_neg (by decide), if_neg (by simpa using new)]

/-- The leftmost character behind which the set cannot be served is reported. -/
theorem validate_of_offence (declaration : String) {front : List Char} {c : Char}
    (back : List Char) (before : IsServable front) (broken : ¬ IsServable (front ++ [c])) :
    validate declaration (front ++ c :: back) = .error (offence declaration c) := by
  have passed := validateAfter_append declaration [] front (c :: back) before
  rw [validate, ← List.reverse_nil, passed, List.nil_append, validateAfter, offence]
  cases fits : fitsOneUnit c with
  | false => rfl
  | true =>
    have repeated : c ∈ front := by
      refine Classical.byContradiction fun new => ?_
      exact broken (isServable_concat_iff.2 ⟨before, fits, new⟩)
    rw [if_neg (by decide), if_pos (List.mem_reverse.2 repeated), if_pos rfl]

theorem exists_offence_after {front rest : List Char} (before : IsServable front)
    (broken : ¬ IsServable (front ++ rest)) :
    ∃ passed c back, front ++ rest = passed ++ c :: back ∧
      IsServable passed ∧ ¬ IsServable (passed ++ [c]) := by
  induction rest generalizing front with
  | nil => exact (broken (by rwa [List.append_nil])).elim
  | cons c rest ih =>
    by_cases next : IsServable (front ++ [c])
    · have regroup : front ++ c :: rest = (front ++ [c]) ++ rest := by
        rw [List.append_assoc, List.singleton_append]
      rw [regroup] at broken ⊢
      exact ih next broken
    · exact ⟨front, c, rest, rfl, before, next⟩

/-- A set that cannot be served has a leftmost character that breaks it. -/
theorem exists_offence {characters : List Char} (broken : ¬ IsServable characters) :
    ∃ passed c back, characters = passed ++ c :: back ∧
      IsServable passed ∧ ¬ IsServable (passed ++ [c]) :=
  exists_offence_after isServable_nil broken

/-- A set that can be served is accepted. -/
theorem validate_of_isServable (declaration : String) {characters : List Char}
    (servable : IsServable characters) : validate declaration characters = .ok () := by
  have passed := validateAfter_append declaration [] characters [] servable
  rw [List.append_nil, List.reverse_nil] at passed
  rw [validate, passed, validateAfter]

/-- Exactly the sets that can be served are accepted. -/
theorem validate_eq_ok_iff (declaration : String) (characters : List Char) :
    validate declaration characters = .ok () ↔ IsServable characters := by
  refine ⟨fun accepted => ?_, validate_of_isServable declaration⟩
  refine Classical.byContradiction fun broken => ?_
  obtain ⟨passed, c, back, rfl, before, breaks⟩ := exists_offence broken
  rw [validate_of_offence declaration back before breaks] at accepted
  cases accepted

/-! ## The leftmost offence -/

/-- At place `i` stands `c`, which is above a single unit or stands in front of
that place already. -/
def OffendsAt (characters : List Char) (i : Nat) (c : Char) : Prop :=
  characters[i]? = some c ∧ (0xFFFF < c.toNat ∨ c ∈ characters.take i)

/-- At place `i` stands `c`, which offends, and nothing to the left of it does. -/
structure IsLeftmostOffence (characters : List Char) (i : Nat) (c : Char) : Prop where
  offends : OffendsAt characters i c
  leftmost : ∀ j < i, ∀ d, ¬ OffendsAt characters j d

/-- The character at a place can be added to those in front of it unless it
offends there. -/
theorem isServable_take_succ_iff (characters : List Char) (i : Nat) :
    IsServable (characters.take (i + 1)) ↔
      IsServable (characters.take i) ∧ ∀ c, ¬ OffendsAt characters i c := by
  rw [List.take_add_one]
  unfold OffendsAt
  cases characters[i]? with
  | none => simp
  | some d =>
    rw [Option.toList_some, isServable_concat_iff, fitsOneUnit_iff]
    refine and_congr_right fun _ => ⟨?_, fun harmless => ?_⟩
    · rintro ⟨fits, new⟩ c ⟨same, offends⟩
      cases same
      exact offends.elim (fun above => absurd fits (Nat.not_le_of_lt above)) new
    · have clean := not_or.1 fun offends => harmless d ⟨rfl, offends⟩
      exact ⟨Nat.le_of_not_lt clean.1, clean.2⟩

/-- The characters in front of a place can be served if none of them offends. -/
theorem isServable_take_iff (characters : List Char) (i : Nat) :
    IsServable (characters.take i) ↔ ∀ j < i, ∀ c, ¬ OffendsAt characters j c := by
  induction i with
  | zero => simp [isServable_nil]
  | succ i ih =>
    rw [isServable_take_succ_iff, ih]
    constructor
    · rintro ⟨before, last⟩ j inside
      obtain earlier | rfl := Nat.lt_succ_iff_lt_or_eq.1 inside
      · exact before j earlier
      · exact last
    · intro all
      exact ⟨fun j earlier => all j (Nat.lt_succ_of_lt earlier), all i (Nat.lt_succ_self i)⟩

/-- What stands at the leftmost offence breaks a set that could be served. -/
theorem IsLeftmostOffence.breaks {characters : List Char} {i : Nat} {c : Char}
    (offence : IsLeftmostOffence characters i c) :
    characters.take (i + 1) = characters.take i ++ [c] ∧ IsServable (characters.take i) ∧
      ¬ IsServable (characters.take i ++ [c]) := by
  have last : characters.take (i + 1) = characters.take i ++ [c] := by
    rw [List.take_add_one, offence.offends.1, Option.toList_some]
  refine ⟨last, (isServable_take_iff characters i).2 offence.leftmost, fun servable => ?_⟩
  rw [← last, isServable_take_succ_iff] at servable
  exact servable.2 c offence.offends

/-- A set that cannot be served has a leftmost offence. -/
theorem exists_isLeftmostOffence {characters : List Char} (broken : ¬ IsServable characters) :
    ∃ i c, IsLeftmostOffence characters i c := by
  obtain ⟨passed, c, back, rfl, before, breaks⟩ := exists_offence broken
  have front : (passed ++ c :: back).take passed.length = passed := List.take_left
  have last : (passed ++ c :: back).take (passed.length + 1) = passed ++ [c] := by
    rw [List.take_add_one, front, List.getElem?_append_right (Nat.le_refl _), Nat.sub_self]
    rfl
  have leftmost := (isServable_take_iff (passed ++ c :: back) passed.length).1 (front.symm ▸ before)
  rw [← last, isServable_take_succ_iff, front] at breaks
  obtain ⟨d, offends⟩ := Classical.not_forall_not.1 fun harmless => breaks ⟨before, harmless⟩
  exact ⟨passed.length, d, offends, leftmost⟩

/-- Whatever stands behind it, the leftmost offence is what is reported. -/
theorem IsLeftmostOffence.validate_eq {characters : List Char} {i : Nat} {c : Char}
    (offence : IsLeftmostOffence characters i c) (declaration : String) {other : List Char}
    (same : other.take (i + 1) = characters.take (i + 1)) :
    validate declaration other = .error (CharacterSet.offence declaration c) := by
  obtain ⟨last, before, breaks⟩ := offence.breaks
  have split : other = characters.take i ++ c :: other.drop (i + 1) := by
    rw [← List.singleton_append, ← List.append_assoc, ← last, ← same, List.take_append_drop]
  rw [split]
  exact validate_of_offence declaration _ before breaks

/-- Validation accepts exactly the sets in which no character is repeated and none is
above U+FFFF.  Any other set has a leftmost offence, and this is reported, with the
declaration, in this and every set that begins as far as that in the same way: as a
character without a literal if it is above U+FFFF, even where it is repeated, and as a
repeated one if it is not. -/
theorem validate_leftmost (declaration : String) (characters : List Char) :
    (validate declaration characters = .ok () ↔
      characters.Nodup ∧ ∀ c ∈ characters, c.toNat ≤ 0xFFFF) ∧
    (validate declaration characters ≠ .ok () ↔ ∃ i c, IsLeftmostOffence characters i c) ∧
    (∀ i c, IsLeftmostOffence characters i c →
      ∀ other : List Char, other.take (i + 1) = characters.take (i + 1) →
        validate declaration other = .error (if 0xFFFF < c.toNat
          then .unrepresentableCharacter declaration c
          else .duplicateCharacter declaration c)) ∧
    ∀ subject c, validate declaration characters = .error (.duplicateCharacter subject c) →
      subject = declaration ∧ c.toNat ≤ 0xFFFF := by
  have reported (c : Char) : offence declaration c = if 0xFFFF < c.toNat
      then .unrepresentableCharacter declaration c
      else .duplicateCharacter declaration c := by
    unfold offence
    by_cases above : 0xFFFF < c.toNat
    · rw [if_pos above, if_neg fun fits => absurd above (Nat.not_lt.2 (fitsOneUnit_iff.1 fits))]
    · rw [if_neg above, if_pos (fitsOneUnit_iff.2 (Nat.not_lt.1 above))]
  have refused : validate declaration characters ≠ .ok () →
      ∃ i c, IsLeftmostOffence characters i c := fun refused =>
    exists_isLeftmostOffence fun servable => refused (validate_of_isServable declaration servable)
  refine ⟨validate_eq_ok_iff declaration characters, ⟨refused, ?_⟩, ?_, ?_⟩
  · rintro ⟨i, c, leftmost⟩ accepted
    rw [leftmost.validate_eq declaration rfl] at accepted
    cases accepted
  · intro i c leftmost other same
    rw [← reported]
    exact leftmost.validate_eq declaration same
  · intro subject c repeated
    obtain ⟨i, d, leftmost⟩ := refused (by rw [repeated]; exact nofun)
    rw [leftmost.validate_eq declaration rfl, reported] at repeated
    split at repeated
    · cases repeated
    · next fits =>
      cases repeated
      exact ⟨rfl, Nat.not_lt.1 fits⟩

/-- A character above U+FFFF that is listed twice, between repetitions of another. -/
theorem validate_leftmost_astral :
    IsLeftmostOffence ['a', '😀', 'a', '😀'] 1 '😀' ∧
      ['a', '😀', '😀'].take 2 = ['a', '😀', 'a', '😀'].take 2 ∧
      validate "Lexer" ['a', '😀', '😀'] =
        .error (.unrepresentableCharacter "Lexer" '😀') := by
  have first : IsServable ['a'] :=
    ⟨List.pairwise_singleton _ 'a', List.forall_mem_singleton.2 (by decide)⟩
  have leftmost : IsLeftmostOffence ['a', '😀', 'a', '😀'] 1 '😀' :=
    ⟨⟨rfl, .inl (by decide)⟩, (isServable_take_iff _ 1).1 first⟩
  exact ⟨leftmost, rfl, (validate_leftmost "Lexer" _).2.2.1 1 '😀' leftmost _ rfl⟩

end CharDispatch.CharacterSet
