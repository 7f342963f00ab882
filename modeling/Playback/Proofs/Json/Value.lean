import Playback.Proofs.Json.Reader

/-!
# Numbers and members of a value

Numbers of 64 bits are read from the values that they are written as, and from no others.  What
the members of an object say about one key depends neither on their order nor on the members under
other keys; this is what makes unknown members harmless.
-/

namespace Playback.Json

namespace Value

theorem natural?_natural {number : Nat} (fits : number ≤ Text.maxWord) :
    (natural number).natural? = some number :=
  if_pos fits

theorem natural?_eq_some_iff {value : Value} {number : Nat} :
    value.natural? = some number ↔ value = natural number ∧ number ≤ Text.maxWord := by
  constructor
  · intro read
    unfold natural? at read
    split at read
    case h_1 magnitude =>
      split at read
      case isTrue fits =>
        cases read
        exact ⟨rfl, fits⟩
      case isFalse => cases read
    case h_2 => cases read
  · rintro ⟨rfl, fits⟩
    exact natural?_natural fits

theorem text?_eq_some_iff {value : Value} {content : String} :
    value.text? = some content ↔ value = .text content := by
  cases value <;> simp [text?]

theorem naturals?_naturals {numbers : List Nat} (fits : ∀ number ∈ numbers, number ≤ Text.maxWord) :
    (naturals numbers).naturals? = some numbers := by
  rw [naturals, naturals?]
  induction numbers with
  | nil => rfl
  | cons number rest induction =>
      have first := natural?_natural (fits number List.mem_cons_self)
      have others := induction fun other member => fits other (List.mem_cons_of_mem number member)
      rw [List.map_cons, List.mapM_cons, first, others]
      rfl

/-- Items that are read as numbers are these numbers as they are written. -/
theorem eq_map_natural_of_mapM {items : List Value} {numbers : List Nat}
    (read : items.mapM natural? = some numbers) :
    items = numbers.map natural ∧ ∀ number ∈ numbers, number ≤ Text.maxWord := by
  induction items generalizing numbers with
  | nil =>
      cases read
      exact ⟨rfl, List.forall_mem_nil _⟩
  | cons item items induction =>
      rw [List.mapM_cons] at read
      obtain ⟨number, first, readRest⟩ := Option.bind_eq_some_iff.mp read
      obtain ⟨others, rest, same⟩ := Option.bind_eq_some_iff.mp readRest
      cases same
      obtain ⟨rfl, fits⟩ := natural?_eq_some_iff.mp first
      obtain ⟨rfl, fitsOthers⟩ := induction rest
      exact ⟨rfl, List.forall_mem_cons.mpr ⟨fits, fitsOthers⟩⟩

theorem naturals?_eq_some_iff {value : Value} {numbers : List Nat} :
    value.naturals? = some numbers ↔
      value = naturals numbers ∧ ∀ number ∈ numbers, number ≤ Text.maxWord := by
  constructor
  · intro read
    unfold naturals? at read
    split at read
    case h_1 items =>
      obtain ⟨rfl, fits⟩ := eq_map_natural_of_mapM read
      exact ⟨rfl, fits⟩
    case h_2 => cases read
  · rintro ⟨rfl, fits⟩
    exact naturals?_naturals fits

theorem optionalNaturals?_naturals {numbers : List Nat}
    (fits : ∀ number ∈ numbers, number ≤ Text.maxWord) :
    (naturals numbers).optionalNaturals? = some (some numbers) :=
  congrArg (Option.map some) (naturals?_naturals fits)

/-- An optional list is read from `null` or from the list that it is. -/
theorem optionalNaturals?_eq_some_iff {value : Value} {numbers : Option (List Nat)} :
    value.optionalNaturals? = some numbers ↔
      value = .null ∧ numbers = none ∨
        ∃ given, value.naturals? = some given ∧ numbers = some given := by
  cases value with
  | null => simp [optionalNaturals?, naturals?, eq_comm]
  | _ => simp [optionalNaturals?, Option.map_eq_some_iff, @eq_comm _ numbers]

theorem readable_natural {nesting number : Nat} (fits : number ≤ Text.maxWord) :
    (natural number).Readable nesting :=
  .number fits

theorem readable_naturals {nesting : Nat} {numbers : List Nat}
    (fits : ∀ number ∈ numbers, number ≤ Text.maxWord) :
    (naturals numbers).Readable (nesting + 1) := by
  refine .array fun item member => ?_
  obtain ⟨number, known, rfl⟩ := List.mem_map.mp member
  exact readable_natural (fits number known)

end Value

namespace Members

variable {members other : Members} {key : String}

/-- What members say about a key does not depend on their order. -/
theorem entry_of_perm (same : members.Perm other) (key : String) :
    entry members key = entry other key := by
  have chosen := same.filter (·.1 == key)
  rw [entry, entry]
  generalize members.filter (·.1 == key) = left at chosen ⊢
  generalize other.filter (·.1 == key) = right at chosen ⊢
  match left, right, chosen.length_eq with
  | [], [], _ => rfl
  | [first], [second], _ =>
      rw [List.perm_singleton.mp chosen]
  | _ :: _ :: _, _ :: _ :: _, _ => rfl

theorem filter_ne_of_absent (absent : key ∉ members.map Prod.fst) :
    members.filter (·.1 != key) = members := by
  refine List.filter_eq_self.mpr fun member known => bne_iff_ne.mpr fun same => ?_
  exact absent (same ▸ List.mem_map_of_mem known)

theorem filter_eq_of_absent (absent : key ∉ members.map Prod.fst) :
    members.filter (·.1 == key) = [] := by
  refine List.filter_eq_nil_iff.mpr fun member known same => ?_
  exact absent (eq_of_beq same ▸ List.mem_map_of_mem known)

/-- A key that no further member has is there once. -/
theorem entry_cons_of_absent (absent : key ∉ members.map Prod.fst) (value : Value) :
    entry ((key, value) :: members) key = .once value := by
  rw [entry, List.filter_cons, if_pos (beq_self_eq_true key), filter_eq_of_absent absent]

/-- Members under other keys, at the end of all, do not matter. -/
theorem entry_append_of_absent (absent : key ∉ other.map Prod.fst) :
    entry (members ++ other) key = entry members key := by
  rw [entry, List.filter_append, filter_eq_of_absent absent, List.append_nil, entry]

/-- Taking all members under one key away does not touch the others. -/
theorem entry_filter_ne {gone : String} (different : key ≠ gone) :
    entry (members.filter (·.1 != gone)) key = entry members key := by
  have both : ∀ member : String × Value,
      (member.1 == key && member.1 != gone) = (member.1 == key) := by
    intro member
    by_cases same : member.1 = key
    · simp [same, different]
    · simp [same]
  rw [entry, List.filter_filter]
  simp only [both]
  rw [entry]

theorem absent_of_missing (missing : entry members key = .missing) :
    key ∉ members.map Prod.fst := by
  intro present
  obtain ⟨member, known, rfl⟩ := List.mem_map.mp present
  have chosen : member ∈ members.filter (·.1 == member.1) :=
    List.mem_filter.mpr ⟨known, beq_self_eq_true _⟩
  rw [entry] at missing
  split at missing
  case h_1 empty =>
    rw [empty] at chosen
    cases chosen
  all_goals cases missing

theorem entry_eq_missing_iff : entry members key = .missing ↔ key ∉ members.map Prod.fst := by
  refine ⟨absent_of_missing, fun absent => ?_⟩
  rw [entry, filter_eq_of_absent absent]

/-- A key that is there once has its member before or after all those under other keys. -/
theorem perm_of_once {value : Value} (once : entry members key = .once value) :
    members.Perm ((key, value) :: members.filter (·.1 != key)) := by
  have chosen : members.filter (·.1 == key) = [(key, value)] := by
    rw [entry] at once
    split at once
    case h_1 => cases once
    case h_2 name found same =>
      cases once
      have known : (name, value) ∈ members.filter (·.1 == key) := by
        rw [same]
        exact List.mem_singleton_self _
      have named : name = key := eq_of_beq (List.mem_filter.mp known).2
      rw [same, named]
    case h_3 => cases once
  have split := List.filter_append_perm (fun member : String × Value => member.1 == key) members
  rw [chosen] at split
  exact split.symm

end Members

end Playback.Json
