import Mathlib.Data.Finset.Card
import Mathlib.Data.Finset.Range
import Playback.Proofs.Scan
import Playback.Recording.Occurrence

/-!
# Finding an occurrence undoes counting

A position of a recording is named by its line and its rank.  The main statement is that looking
a line and a rank up finds exactly the position that has this line and this rank, so the
name of a position always leads back to it, whatever lines repeat around it.  Where the line
occurs too rarely, what is missing is looked for right after its last occurrence.

The rank of a position only grows at positions that hold the line.  The proofs follow one
scan after the other and compare the rank at the end of each with the rank at its start.
-/

namespace Playback.Recording

variable {lines : List Nat} {line start index rank : Nat}

theorem indexFrom?_eq_some_iff :
    indexFrom? lines line start = some index ↔ FirstFrom lines (· == line) start index := by
  rw [indexFrom?, Option.map_eq_some_iff]
  constructor
  · rintro ⟨offset, found, rfl⟩
    exact findIdx?_drop_eq_some_iff.mp found
  · intro first
    refine ⟨index - start, ?_, Nat.add_sub_cancel' first.start_le⟩
    rw [findIdx?_drop_eq_some_iff, Nat.add_sub_cancel' first.start_le]
    exact first

theorem indexFrom?_eq_none_iff :
    indexFrom? lines line start = none ↔
      ∀ index, start ≤ index → lines[index]? ≠ some line := by
  rw [indexFrom?, Option.map_eq_none_iff, findIdx?_drop_eq_none_iff]
  constructor
  · intro refused index reached held
    simpa using refused index reached line held
  · intro absent index reached entry held
    have different : entry ≠ line := by
      rintro rfl
      exact absent index reached held
    simpa using different

theorem locate_eq_ok_iff :
    locate lines line start = .ok index ↔ FirstFrom lines (· == line) start index := by
  rw [← indexFrom?_eq_some_iff, locate]
  cases indexFrom? lines line start with
  | none => simp
  | some found => simp

/-- A line that is missing is reported with the start of the scan for it. -/
theorem locate_eq_error_iff {missing : MissingLine} :
    locate lines line start = .error missing ↔
      (∀ index, start ≤ index → lines[index]? ≠ some line) ∧ missing = ⟨line, start⟩ := by
  rw [← indexFrom?_eq_none_iff, locate]
  cases indexFrom? lines line start with
  | none => simp [eq_comm]
  | some found => simp

/-- The first position of a line holds it, and none between the start of the scan and it does. -/
theorem firstFrom_line_iff :
    FirstFrom lines (· == line) start index ↔
      start ≤ index ∧ lines[index]? = some line ∧
        ∀ earlier, start ≤ earlier → earlier < index → lines[earlier]? ≠ some line := by
  constructor
  · intro first
    obtain ⟨entry, held, accepted⟩ := first.accepted
    obtain rfl : entry = line := by simpa using accepted
    refine ⟨first.start_le, held, ?_⟩
    intro earlier reached before heldEarlier
    simpa using first.refused earlier reached before entry heldEarlier
  · rintro ⟨reached, held, absent⟩
    refine ⟨reached, ⟨line, held, by simp⟩, ?_⟩
    intro earlier reachedEarlier before entry heldEarlier
    have different : entry ≠ line := by
      rintro rfl
      exact absent earlier reachedEarlier before heldEarlier
    simpa using different

/-! ## Ranks -/

/-- The rank grows by one at a position that holds the line and stays at any other. -/
theorem rankAt_succ :
    rankAt lines line (index + 1) =
      rankAt lines line index + if lines[index]? = some line then 1 else 0 := by
  rw [rankAt, rankAt, List.take_add_one, List.count_append]
  cases lines[index]? with
  | none => simp
  | some entry => simp [List.count_singleton]

theorem rankAt_zero : rankAt lines line 0 = 0 := by
  simp [rankAt]

theorem rankAt_mono (lines : List Nat) (line : Nat) {index later : Nat}
    (before : index ≤ later) :
    rankAt lines line index ≤ rankAt lines line later := by
  induction before with
  | refl => exact Nat.le_refl _
  | step _ grown =>
      rw [rankAt_succ]
      exact Nat.le_add_right_of_le grown

/-- Past a position that holds the line the rank is greater. -/
theorem rankAt_lt {later : Nat} (held : lines[index]? = some line) (before : index < later) :
    rankAt lines line index < rankAt lines line later := by
  have grown : rankAt lines line (index + 1) ≤ rankAt lines line later :=
    rankAt_mono lines line before
  rw [rankAt_succ, if_pos held] at grown
  exact grown

/-- The rank does not change over positions that do not hold the line. -/
theorem rankAt_eq_of_absent (reached : start ≤ index)
    (absent : ∀ earlier, start ≤ earlier → earlier < index → lines[earlier]? ≠ some line) :
    rankAt lines line index = rankAt lines line start := by
  induction reached with
  | refl => rfl
  | @step index reached unchanged =>
      rw [rankAt_succ, if_neg (absent index reached (Nat.lt_succ_self index))]
      exact unchanged fun earlier after before =>
        absent earlier after (Nat.lt_succ_of_lt before)

/-- The first position of a line is the one that holds it and has the rank of the start. -/
theorem firstFrom_iff_rankAt_eq :
    FirstFrom lines (· == line) start index ↔
      start ≤ index ∧ lines[index]? = some line ∧
        rankAt lines line index = rankAt lines line start := by
  rw [firstFrom_line_iff]
  constructor
  · rintro ⟨reached, held, absent⟩
    exact ⟨reached, held, rankAt_eq_of_absent reached absent⟩
  · rintro ⟨reached, held, same⟩
    refine ⟨reached, held, ?_⟩
    intro earlier after before heldEarlier
    have grown := rankAt_lt heldEarlier before
    have started := rankAt_mono lines line after
    omega

/-- Each found position but the last is left behind, and its occurrence is counted. -/
theorem nthFrom_eq_ok_iff :
    nthFrom lines line start rank = .ok index ↔
      start ≤ index ∧ lines[index]? = some line ∧
        rankAt lines line index = rankAt lines line start + rank := by
  induction rank generalizing start with
  | zero =>
      rw [nthFrom, locate_eq_ok_iff, firstFrom_iff_rankAt_eq, Nat.add_zero]
  | succ rank induction =>
      rw [nthFrom]
      cases found : locate lines line start with
      | ok first =>
          obtain ⟨reached, held, same⟩ :=
            firstFrom_iff_rankAt_eq.mp (locate_eq_ok_iff.mp found)
          have counted : rankAt lines line (first + 1) = rankAt lines line start + 1 := by
            rw [rankAt_succ, if_pos held, same]
          simp only [induction, counted]
          constructor
          · rintro ⟨after, heldIndex, ranked⟩
            exact ⟨by omega, heldIndex, by omega⟩
          · rintro ⟨_, heldIndex, ranked⟩
            refine ⟨?_, heldIndex, by omega⟩
            -- Up to `first` the rank is still that of the start, so `index` lies past it.
            apply Nat.lt_of_not_le
            intro notPast
            have grown := rankAt_mono lines line notPast
            omega
      | error missing =>
          obtain ⟨absent, _⟩ := locate_eq_error_iff.mp found
          simp only [reduceCtorEq, false_iff]
          rintro ⟨reached, held, _⟩
          exact absent index reached held

/-- Looking a line and a rank up finds the position with that line and that rank. -/
theorem nth_eq_ok_iff_rankAt :
    nth lines line rank = .ok index ↔
      lines[index]? = some line ∧ rankAt lines line index = rank := by
  rw [nth, nthFrom_eq_ok_iff, rankAt_zero, Nat.zero_add]
  exact and_iff_right (Nat.zero_le index)

/-- The name of a position leads back to it. -/
theorem nth_rankAt (held : lines[index]? = some line) :
    nth lines line (rankAt lines line index) = .ok index :=
  nth_eq_ok_iff_rankAt.mpr ⟨held, rfl⟩

/-- The positions before `index` that hold `line`. -/
def occurrencesBefore (lines : List Nat) (line index : Nat) : Finset Nat :=
  (Finset.range index).filter fun earlier => lines[earlier]? = some line

/-- The rank of a position is how many earlier positions hold the line. -/
theorem rankAt_eq_card (lines : List Nat) (line index : Nat) :
    rankAt lines line index = (occurrencesBefore lines line index).card := by
  induction index with
  | zero => rw [rankAt_zero, occurrencesBefore, Finset.range_zero, Finset.filter_empty,
      Finset.card_empty]
  | succ index induction =>
      rw [rankAt_succ, induction, occurrencesBefore, occurrencesBefore, Finset.range_add_one,
        Finset.filter_insert]
      split
      · rw [Finset.card_insert_of_notMem (by simp)]
      · rfl

theorem rankAt_length : rankAt lines line lines.length = lines.count line := by
  rw [rankAt, List.take_length]

/-- The rank of a position that holds the line is less than the line occurs altogether. -/
theorem rankAt_lt_count (held : lines[index]? = some line) :
    rankAt lines line index < lines.count line := by
  rw [← rankAt_length]
  exact rankAt_lt held (List.getElem?_eq_some_iff.mp held).1

/-- Where the rank is exceeded at some position, an earlier one has this very rank. -/
theorem exists_of_lt_rankAt (exceeded : rank < rankAt lines line start) :
    ∃ index, lines[index]? = some line ∧ rankAt lines line index = rank := by
  induction start with
  | zero =>
      rw [rankAt_zero] at exceeded
      exact (Nat.not_lt_zero rank exceeded).elim
  | succ start induction =>
      by_cases before : rank < rankAt lines line start
      · exact induction before
      · rw [rankAt_succ] at exceeded
        split at exceeded
        case isTrue held => exact ⟨start, held, by omega⟩
        case isFalse => exact (before exceeded).elim

/-! ## What is missing -/

/-- What is reported of a line that occurs too rarely. -/
inductive RunsOut (lines : List Nat) (line : Nat) : MissingLine → Prop
  | absent (never : lines.count line = 0) : RunsOut lines line ⟨line, 0⟩
  | after {last : Nat} (greatest : IsGreatest { index | lines[index]? = some line } last) :
      RunsOut lines line ⟨line, last + 1⟩

variable {missing : MissingLine}

theorem count_eq_zero_iff :
    lines.count line = 0 ↔ ∀ index : Nat, lines[index]? ≠ some line := by
  rw [List.count_eq_zero, List.mem_iff_getElem?, not_exists]

theorem RunsOut.unique {other : MissingLine} (runsOut : RunsOut lines line missing)
    (runsOut' : RunsOut lines line other) : missing = other := by
  cases runsOut with
  | absent never =>
      cases runsOut' with
      | absent _ => rfl
      | after greatest => exact (count_eq_zero_iff.mp never _ greatest.1).elim
  | after greatest =>
      cases runsOut' with
      | absent never => exact (count_eq_zero_iff.mp never _ greatest.1).elim
      | after greatest' => rw [greatest.unique greatest']

/-- The scan that fails is the first one, or it starts right after the last occurrence. -/
theorem nthFrom_eq_error (failed : nthFrom lines line start rank = .error missing) :
    (∀ index, start ≤ index → lines[index]? ≠ some line) ∧ missing = ⟨line, start⟩ ∨
      ∃ last, IsGreatest { index | lines[index]? = some line } last ∧
        missing = ⟨line, last + 1⟩ := by
  induction rank generalizing start with
  | zero => exact Or.inl (locate_eq_error_iff.mp failed)
  | succ rank induction =>
      rw [nthFrom] at failed
      cases found : locate lines line start with
      | error first =>
          rw [found] at failed
          cases failed
          exact Or.inl (locate_eq_error_iff.mp found)
      | ok first =>
          rw [found] at failed
          obtain ⟨_, held, _⟩ := firstFrom_line_iff.mp (locate_eq_ok_iff.mp found)
          rcases induction failed with ⟨absent, same⟩ | further
          · refine Or.inr ⟨first, ⟨held, fun index heldIndex => ?_⟩, same⟩
            exact Nat.le_of_not_lt fun past => absent index past heldIndex
          · exact Or.inr further

theorem runsOut_of_nth_eq_error (failed : nth lines line rank = .error missing) :
    RunsOut lines line missing := by
  rcases nthFrom_eq_error failed with ⟨absent, rfl⟩ | ⟨last, greatest, rfl⟩
  · exact .absent (count_eq_zero_iff.mpr fun index => absent index (Nat.zero_le index))
  · exact .after greatest

/-- A rank is missing exactly if the line occurs too rarely for it. -/
theorem nth_eq_error_iff :
    nth lines line rank = .error missing ↔
      lines.count line ≤ rank ∧ RunsOut lines line missing := by
  constructor
  · intro failed
    refine ⟨Nat.le_of_not_lt fun often => ?_, runsOut_of_nth_eq_error failed⟩
    rw [← rankAt_length] at often
    obtain ⟨index, held, ranked⟩ := exists_of_lt_rankAt often
    cases failed.symm.trans (nth_eq_ok_iff_rankAt.mpr ⟨held, ranked⟩)
  · rintro ⟨rarely, runsOut⟩
    cases found : nth lines line rank with
    | ok index =>
        obtain ⟨held, rfl⟩ := nth_eq_ok_iff_rankAt.mp found
        exact (Nat.not_le_of_lt (rankAt_lt_count held) rarely).elim
    | error other => rw [(runsOut_of_nth_eq_error found).unique runsOut]

/-- Every line runs out, so what is then reported exists. -/
theorem exists_runsOut (lines : List Nat) (line : Nat) :
    ∃ missing, RunsOut lines line missing := by
  cases found : nth lines line (lines.count line) with
  | ok index =>
      obtain ⟨held, ranked⟩ := nth_eq_ok_iff_rankAt.mp found
      exact ((rankAt_lt_count held).ne ranked).elim
  | error missing => exact ⟨missing, runsOut_of_nth_eq_error found⟩

theorem indexFrom?_eq_some_iff_isLeast :
    indexFrom? lines line start = some index ↔
      IsLeast { position | start ≤ position ∧ lines[position]? = some line } index := by
  rw [indexFrom?_eq_some_iff, firstFrom_iff_isLeast]
  simp

/--
Looking a line and a rank up finds the position that holds the line and has this many earlier
positions that hold it, which is the rank that is counted there; so every position is found by its
line and its rank.  Nothing is found exactly if the line occurs no more often than the rank says,
and then what is missing is the line after its last occurrence, or anywhere if it has none.
Underneath, a scan finds the least position from its start on that holds the line.
-/
theorem nth_inverts_counting (lines : List Nat) (line : Nat) :
    (∀ index, rankAt lines line index = (occurrencesBefore lines line index).card) ∧
    (∀ rank index, nth lines line rank = .ok index ↔
      lines[index]? = some line ∧ (occurrencesBefore lines line index).card = rank) ∧
    (∀ (target : Nat) (inside : target < lines.length),
      nth lines lines[target] (occurrencesBefore lines lines[target] target).card = .ok target) ∧
    (∀ rank missing, nth lines line rank = .error missing ↔
      lines.count line ≤ rank ∧ RunsOut lines line missing) ∧
    (∃ missing, RunsOut lines line missing) ∧
    ∀ start,
      (∀ index, indexFrom? lines line start = some index ↔
        IsLeast { position | start ≤ position ∧ lines[position]? = some line } index) ∧
      (indexFrom? lines line start = none ↔
        ∀ position, start ≤ position → lines[position]? ≠ some line) := by
  refine ⟨rankAt_eq_card lines line, fun rank index => ?_, fun target inside => ?_,
    fun _ _ => nth_eq_error_iff, exists_runsOut lines line,
    fun _ => ⟨fun _ => indexFrom?_eq_some_iff_isLeast, indexFrom?_eq_none_iff⟩⟩
  · rw [nth_eq_ok_iff_rankAt, rankAt_eq_card]
  · rw [← rankAt_eq_card]
    exact nth_rankAt (List.getElem?_eq_getElem inside)

end Playback.Recording
