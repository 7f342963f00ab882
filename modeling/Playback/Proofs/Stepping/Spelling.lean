import Playback.Proofs.Text.LowerCase
import Playback.Stepping.Action

/-!
# Which texts name an action

A text names an action if its normal form is one of the spellings of that action.  The normal form
puts an underscore for every space, but no spelling has two underscores and every underscore is
behind `step`.  So a text that names an action is one word, or it is in two words with one space
between them: `step`, and then `into`, `over` or `out`.
-/

namespace Playback

/-- The spellings of an action in their normal form. -/
def Action.spellings : Action → List String
  | .step => ["step", "s", "step_into"]
  | .stepOver => ["step_over", "next", "n", "over"]
  | .stepOut => ["step_out", "out", "o", "finish"]
  | .continue => ["continue", "c", "cont"]

/-- What follows `step` where an action is named in two words. -/
def Action.secondWord? : Action → Option String
  | .step => some "into"
  | .stepOver => some "over"
  | .stepOut => some "out"
  | .continue => none

/-- A text that names an action in two words, in letters of any case. -/
inductive Action.InTwoWords (action : Action) : List Char → Prop
  | intro {first second : List Char} (step : Text.lower first = "step".toList)
      (named : action.secondWord? = some (String.ofList (Text.lower second))) :
      action.InTwoWords (first ++ ' ' :: second)

/-- The character of the normal form for a small one. -/
def joint (c : Char) : Char :=
  if c = ' ' || c = '-' then '_' else c

variable {text : List Char} {action : Action} {spelling : String}

theorem Action.ofSpelling?_eq_some_iff :
    Action.ofSpelling? spelling = some action ↔ spelling ∈ action.spellings := by
  constructor
  · unfold Action.ofSpelling?
    split <;> rintro ⟨⟩ <;> simp [Action.spellings]
  · have each : ∀ spelling ∈ action.spellings, Action.ofSpelling? spelling = some action := by
      cases action <;> decide +kernel
    exact each spelling

theorem Action.ofText_eq_ok_iff :
    Action.ofText (String.ofList text) = .ok action ↔
      String.ofList (normalSpelling text) ∈ action.spellings := by
  rw [← Action.ofSpelling?_eq_some_iff, Action.ofText, String.toList_ofList]
  split
  case h_1 other named => rw [named, Except.ok.injEq, Option.some.injEq]
  case h_2 unnamed => simp [unnamed]

theorem Action.ordinary_of_mem_spellings (member : spelling ∈ action.spellings) :
    ∀ c ∈ spelling.toList, Text.Ordinary c := by
  have each : ∀ spelling ∈ action.spellings, spelling.toList.all (Text.Ordinary ·) = true := by
    cases action <;> decide +kernel
  intro c inside
  exact of_decide_eq_true (List.all_eq_true.mp (each spelling member) c inside)

/-- A spelling with an underscore joins `step` to the second word of its action. -/
theorem Action.joined_of_mem_spellings (member : spelling ∈ action.spellings)
    (mark : '_' ∈ spelling.toList) :
    ∃ second ∈ action.secondWord?, '_' ∉ second.toList ∧
      spelling.toList = "step".toList ++ '_' :: second.toList := by
  have each : ∀ spelling ∈ action.spellings, '_' ∈ spelling.toList →
      ∃ second ∈ action.secondWord?, '_' ∉ second.toList ∧
        spelling.toList = "step".toList ++ '_' :: second.toList := by
    cases action <;> decide +kernel
  exact each spelling member mark

theorem Action.mem_spellings_of_secondWord? {second : String}
    (named : action.secondWord? = some second) :
    String.ofList ("step".toList ++ '_' :: second.toList) ∈ action.spellings := by
  cases action <;> cases named <;> decide +kernel

theorem normalSpelling_of_bare (bare : Text.Bare text) :
    normalSpelling text = (Text.lower text).map joint := by
  rw [normalSpelling, Text.trim_eq_self bare]
  rfl

/-- A normal form without underscores is the small form itself. -/
theorem map_joint_eq_self (unjoined : '_' ∉ text.map joint) : text.map joint = text := by
  have kept : ∀ c ∈ text, joint c = c := by
    intro c member
    rw [joint]
    split
    case isFalse => rfl
    case isTrue replaced =>
      refine (unjoined (List.mem_map.mpr ⟨c, member, ?_⟩)).elim
      rw [joint, if_pos replaced]
  rw [List.map_congr_left kept, List.map_id']

theorem mem_normalSpelling {c : Char} (bare : Text.Bare text) (member : c ∈ Text.lower text)
    (kept : joint c = c) : c ∈ normalSpelling text := by
  rw [normalSpelling_of_bare bare]
  exact List.mem_map.mpr ⟨c, member, kept⟩

theorem joint_of_isBlank {c : Char} (blank : Text.isBlank c = true) (noSpace : c ≠ ' ') :
    joint c = c := by
  have noHyphen : c ≠ '-' := by
    rintro rfl
    cases blank
  simp [joint, noSpace, noHyphen]

/-! ## Texts that name an action -/

section Named

variable (bare : Text.Bare text) (named : Action.ofText (String.ofList text) = .ok action)
include bare named

theorem Action.ordinary_of_named {c : Char} (member : c ∈ Text.lower text) (kept : joint c = c) :
    Text.Ordinary c := by
  apply Action.ordinary_of_mem_spellings (Action.ofText_eq_ok_iff.mp named)
  rw [String.toList_ofList]
  exact mem_normalSpelling bare member kept

theorem Action.sigma_not_mem_of_named : 'Σ' ∉ text :=
  Text.sigma_not_mem
    (fun member => (Action.ordinary_of_named bare named member (by decide)).2.1 rfl)
    fun member => (Action.ordinary_of_named bare named member (by decide)).2.2 rfl

/-- The space is the only blank in a text that names an action. -/
theorem Action.isBlank_eq_false_of_named {c : Char} (member : c ∈ text) (noSpace : c ≠ ' ') :
    Text.isBlank c = false := by
  cases blank : Text.isBlank c with
  | false => rfl
  | true =>
      have noSigma := Action.sigma_not_mem_of_named bare named
      have small := Text.mem_lower_of_isBlank noSigma blank member
      have ordinary := Action.ordinary_of_named bare named small (joint_of_isBlank blank noSpace)
      exact blank.symm.trans ordinary.1

/-- A space is between two words. -/
theorem Action.inTwoWords_of_named (space : ' ' ∈ text) : action.InTwoWords text := by
  have noSigma := Action.sigma_not_mem_of_named bare named
  have spelled := Action.ofText_eq_ok_iff.mp named
  rw [normalSpelling_of_bare bare] at spelled
  obtain ⟨first, second, rfl, -⟩ := List.eq_append_cons_of_mem space
  have parts : (Text.lower (first ++ ' ' :: second)).map joint =
      (Text.lower first).map joint ++ '_' :: (Text.lower second).map joint := by
    rw [Text.lower_append_cons rfl noSigma, List.map_append, List.map_cons]
    rfl
  rw [parts] at spelled
  have mark : '_' ∈ (String.ofList ((Text.lower first).map joint ++
      '_' :: (Text.lower second).map joint)).toList := by
    rw [String.toList_ofList]
    exact List.mem_append_right _ List.mem_cons_self
  obtain ⟨word, known, single, same⟩ := Action.joined_of_mem_spellings spelled mark
  rw [String.toList_ofList] at same
  -- The spelling has one underscore only, so the space is where that is.
  obtain ⟨step, -, other⟩ := (List.append_cons_inj_of_notMem (by decide) single).mp same.symm
  have unjoined : '_' ∉ (Text.lower first).map joint := by
    rw [← step]
    decide
  rw [map_joint_eq_self unjoined] at step
  rw [other] at single
  rw [map_joint_eq_self single] at other
  refine .intro step.symm ?_
  rw [← other, String.ofList_toList]
  exact known

end Named

section TwoWords

variable {first second : List Char} (step : Text.lower first = "step".toList)
  (named : action.secondWord? = some (String.ofList (Text.lower second)))
include step named

/-- The two words joined by an underscore are a spelling of the action. -/
theorem Action.joined_mem_spellings :
    String.ofList (Text.lower first ++ '_' :: Text.lower second) ∈ action.spellings := by
  have joined := Action.mem_spellings_of_secondWord? named
  rwa [← step, String.toList_ofList] at joined

theorem Action.plain_of_inTwoWords :
    ('Σ' ∉ first ∧ ∀ c ∈ first, Text.isBlank c = false) ∧
      ('Σ' ∉ second ∧ ∀ c ∈ second, Text.isBlank c = false) := by
  have ordinary := Action.ordinary_of_mem_spellings (Action.joined_mem_spellings step named)
  rw [String.toList_ofList] at ordinary
  obtain ⟨inFirst, inSecond⟩ := List.forall_mem_append.mp ordinary
  exact ⟨Text.plain_of_lower inFirst, Text.plain_of_lower (List.forall_mem_cons.mp inSecond).2⟩

theorem Action.normalSpelling_of_inTwoWords (bare : Text.Bare (first ++ ' ' :: second)) :
    normalSpelling (first ++ ' ' :: second) = Text.lower first ++ '_' :: Text.lower second := by
  obtain ⟨⟨plainFirst, -⟩, plainSecond, -⟩ := Action.plain_of_inTwoWords step named
  have noSigma : 'Σ' ∉ first ++ ' ' :: second := by
    simp [plainFirst, plainSecond]
  have unjoined : ∀ second ∈ action.secondWord?, second.toList.map joint = second.toList := by
    cases action <;> decide +kernel
  have kept := unjoined _ named
  rw [String.toList_ofList] at kept
  rw [normalSpelling_of_bare bare, Text.lower_append_cons rfl noSigma, List.map_append,
    List.map_cons, kept, step]
  rfl

end TwoWords

/-- The texts in two words are those with a space, among the texts that name an action. -/
theorem Action.inTwoWords_iff (bare : Text.Bare text) :
    action.InTwoWords text ↔ Action.ofText (String.ofList text) = .ok action ∧ ' ' ∈ text := by
  constructor
  · rintro ⟨step, named⟩
    refine ⟨Action.ofText_eq_ok_iff.mpr ?_, List.mem_append_right _ List.mem_cons_self⟩
    rw [Action.normalSpelling_of_inTwoWords step named bare]
    exact Action.joined_mem_spellings step named
  · rintro ⟨named, space⟩
    exact Action.inTwoWords_of_named bare named space

/-- The first of two words names a step by itself, whatever both name together. -/
theorem Action.InTwoWords.exists_words (inTwoWords : action.InTwoWords text) :
    ∃ first second, Text.words text = [first, second] ∧
      Action.ofText (String.ofList first) = .ok .step := by
  obtain ⟨step, named⟩ := inTwoWords
  rename_i first second
  obtain ⟨⟨-, wordFirst⟩, -, wordSecond⟩ := Action.plain_of_inTwoWords step named
  have nonemptyFirst : first ≠ [] := by
    rintro rfl
    cases step
  have nonemptySecond : second ≠ [] := by
    rintro rfl
    have noWord : action.secondWord? ≠ some "" := by cases action <;> decide +kernel
    exact noWord named
  refine ⟨first, second, ?_, Action.ofText_eq_ok_iff.mpr ?_⟩
  · rw [Text.words_append_cons rfl, Text.words_eq_singleton nonemptyFirst wordFirst,
      Text.words_eq_singleton nonemptySecond wordSecond, List.singleton_append]
  · rw [normalSpelling_of_bare (Text.bare_of_forall_mem wordFirst), step]
    decide +kernel

end Playback
