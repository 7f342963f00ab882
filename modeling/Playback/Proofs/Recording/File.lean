import Playback.Proofs.Json.Value
import Playback.Recording.File

/-!
# Recording files have one normal form

A recording can be filed in many ways: as a bare list, as an object with depths that are missing or
`null`, with unknown members anywhere.  Which values describe which recording is written down here
without the reader.  The main statement is that reading accepts exactly these, that what it
gives fits 64 bits, and that writing is a normal form: what is written is read back, so reading any
file, writing it and reading that again changes nothing more.
-/

namespace Playback.Recording

open Json (Members Value)

/-- Whether all numbers of a recording fit 64 bits. -/
structure FitsWords (recording : Recording) : Prop where
  lines : ∀ line ∈ recording.lines, line ≤ Text.maxWord
  depths : ∀ depths ∈ recording.depths, ∀ depth ∈ depths, depth ≤ Text.maxWord

/-- The members of a file that count, in the ways to write them. -/
inductive Spells (lines : List Nat) : Option (List Nat) → Members → Prop
  | missing : Spells lines none [("lines", .naturals lines)]
  | null : Spells lines none [("lines", .naturals lines), ("depths", .null)]
  | given (depths : List Nat) :
      Spells lines (some depths) [("lines", .naturals lines), ("depths", .naturals depths)]

/--
The recordings that values describe: a list of lines, or an object whose members, in whatever
order, are those that count and others under unknown keys.
-/
inductive Describes : Value → Recording → Prop
  | bare (lines : List Nat) : Describes (.naturals lines) { lines }
  | object {lines : List Nat} {depths : Option (List Nat)} {known others members : Members}
      (spelled : Spells lines depths known)
      (unknown : ∀ member ∈ others, member.1 ≠ "lines" ∧ member.1 ≠ "depths")
      (arranged : members.Perm (known ++ others)) :
      Describes (.object members) { lines, depths }

variable {recording : Recording} {value : Value} {members : Members} {lines : List Nat}
  {depths : Option (List Nat)}

theorem describes_toJson (recording : Recording) : Describes recording.toJson recording := by
  obtain ⟨lines, depths⟩ := recording
  cases depths with
  | none => exact .object .missing (List.forall_mem_nil _) (List.Perm.refl _)
  | some depths => exact .object (.given depths) (List.forall_mem_nil _) (List.Perm.refl _)

theorem depthsOf?_eq_some_iff :
    depthsOf? members = some depths ↔
      members.entry "depths" = .missing ∧ depths = none ∨
        ∃ value, members.entry "depths" = .once value ∧ value.optionalNaturals? = some depths := by
  unfold depthsOf?
  cases members.entry "depths" with
  | missing => simp [eq_comm]
  | once value => simp
  | repeated => simp

/-- The members that count are read, whatever the unknown ones are. -/
theorem ofMembers?_of_spells {known others : Members} (fits : FitsWords { lines, depths })
    (spelled : Spells lines depths known)
    (unknown : ∀ member ∈ others, member.1 ≠ "lines" ∧ member.1 ≠ "depths")
    (arranged : members.Perm (known ++ others)) :
    ofMembers? members = some { lines, depths } := by
  have entry_known : ∀ key, (key = "lines" ∨ key = "depths") →
      members.entry key = known.entry key := by
    intro key counts
    have absent : key ∉ others.map Prod.fst := by
      intro present
      obtain ⟨member, other, rfl⟩ := List.mem_map.mp present
      rcases counts with same | same
      · exact (unknown member other).1 same
      · exact (unknown member other).2 same
    rw [Members.entry_of_perm arranged, Members.entry_append_of_absent absent]
  have readLines : (Value.naturals lines).naturals? = some lines :=
    Value.naturals?_naturals fits.lines
  have readDepths : depthsOf? members = some depths := by
    rw [depthsOf?_eq_some_iff, entry_known "depths" (Or.inr rfl)]
    cases spelled with
    | missing => exact Or.inl ⟨rfl, rfl⟩
    | null => exact Or.inr ⟨.null, rfl, rfl⟩
    | given depths =>
        have fitsDepths : ∀ depth ∈ depths, depth ≤ Text.maxWord := fits.depths depths rfl
        exact Or.inr ⟨.naturals depths, rfl, Value.optionalNaturals?_naturals fitsDepths⟩
  have once : known.entry "lines" = .once (.naturals lines) := by
    cases spelled <;> rfl
  rw [ofMembers?, entry_known "lines" (Or.inl rfl), once]
  dsimp only
  rw [readLines, readDepths]
  rfl

/-- A value that describes a recording of 64-bit numbers is read as it. -/
theorem Describes.ofJson? (describes : Describes value recording) (fits : recording.FitsWords) :
    ofJson? value = some recording := by
  cases describes with
  | bare lines =>
      rw [Recording.ofJson?.eq_def, Value.naturals]
      exact congrArg (Option.map _) (Value.naturals?_naturals fits.lines)
  | object spelled unknown arranged => exact ofMembers?_of_spells fits spelled unknown arranged

/-- Members that are read are those that count, with unknown ones anywhere among them. -/
theorem describes_of_ofMembers? (read : ofMembers? members = some recording) :
    Describes (.object members) recording ∧ recording.FitsWords := by
  rw [ofMembers?] at read
  split at read
  case h_1 value once =>
    obtain ⟨lines, readLines, readRest⟩ := Option.bind_eq_some_iff.mp read
    obtain ⟨depths, readDepths, same⟩ := Option.bind_eq_some_iff.mp readRest
    cases same
    obtain ⟨rfl, fitsLines⟩ := Value.naturals?_eq_some_iff.mp readLines
    have arranged := Members.perm_of_once once
    have beside : Members.entry (members.filter (·.1 != "lines")) "depths" =
        members.entry "depths" := Members.entry_filter_ne (by decide)
    have noLines : ∀ member ∈ members.filter (·.1 != "lines"), member.1 ≠ "lines" :=
      fun member other => bne_iff_ne.mp (List.mem_filter.mp other).2
    rcases depthsOf?_eq_some_iff.mp readDepths with ⟨missing, rfl⟩ | ⟨value, given, optional⟩
    · have noDepths := Members.absent_of_missing (beside.trans missing)
      refine ⟨.object .missing (fun member other => ⟨noLines member other, fun same => ?_⟩)
        arranged, fitsLines, nofun⟩
      exact noDepths (same ▸ List.mem_map_of_mem other)
    · have inner := Members.perm_of_once (beside.trans given)
      have arranged := arranged.trans (inner.cons ("lines", .naturals lines))
      have unknown : ∀ member ∈
          (members.filter (·.1 != "lines")).filter (·.1 != "depths"),
          member.1 ≠ "lines" ∧ member.1 ≠ "depths" := by
        intro member other
        obtain ⟨outer, notDepths⟩ := List.mem_filter.mp other
        exact ⟨noLines member outer, bne_iff_ne.mp notDepths⟩
      rcases Value.optionalNaturals?_eq_some_iff.mp optional with
        ⟨rfl, rfl⟩ | ⟨numbers, readNumbers, rfl⟩
      · exact ⟨.object .null unknown arranged, fitsLines, nofun⟩
      · obtain ⟨rfl, fitsDepths⟩ := Value.naturals?_eq_some_iff.mp readNumbers
        refine ⟨.object (.given numbers) unknown arranged, fitsLines, ?_⟩
        rintro _ ⟨⟩
        exact fitsDepths
  case h_2 => cases read

theorem describes_of_ofJson? (read : ofJson? value = some recording) :
    Describes value recording ∧ recording.FitsWords := by
  unfold ofJson? at read
  split at read
  case h_1 items =>
    obtain ⟨lines, readLines, same⟩ := Option.map_eq_some_iff.mp read
    cases same
    obtain ⟨same, fits⟩ := Value.naturals?_eq_some_iff.mp readLines
    rw [same]
    exact ⟨.bare lines, fits, nofun⟩
  case h_2 members => exact describes_of_ofMembers? read
  case h_3 => cases read

/-! ## Files -/

/-- The texts that are read are those of the values that describe a recording. -/
theorem read?_eq_some_iff {text : List Char} :
    read? text = some recording ↔
      recording.FitsWords ∧ ∃ value, Json.read? text = some value ∧ Describes value recording := by
  rw [read?, Option.bind_eq_some_iff]
  constructor
  · rintro ⟨value, parsed, read⟩
    obtain ⟨describes, fits⟩ := describes_of_ofJson? read
    exact ⟨fits, value, parsed, describes⟩
  · rintro ⟨fits, value, parsed, describes⟩
    exact ⟨value, parsed, describes.ofJson? fits⟩

theorem readable_toJson (fits : recording.FitsWords) :
    recording.toJson.Readable Json.maxNesting := by
  obtain ⟨lines, depths⟩ := recording
  have readableLines : (Value.naturals lines).Readable 126 := Value.readable_naturals fits.lines
  cases depths with
  | none => exact .object (List.forall_mem_singleton.mpr readableLines)
  | some depths =>
      have fitsDepths : ∀ depth ∈ depths, depth ≤ Text.maxWord := fits.depths depths rfl
      have readableDepths : (Value.naturals depths).Readable 126 :=
        Value.readable_naturals fitsDepths
      exact .object (List.forall_mem_cons.mpr
        ⟨readableLines, List.forall_mem_singleton.mpr readableDepths⟩)

/-- A recording is read from the file that it is written as. -/
theorem read?_toJson (fits : recording.FitsWords) :
    read? recording.toJson.spelling = some recording :=
  read?_eq_some_iff.mpr
    ⟨fits, recording.toJson, (readable_toJson fits).read?, describes_toJson recording⟩

/-- The bare list of its lines is read as a recording without depths. -/
theorem read?_bare (fits : ∀ line ∈ lines, line ≤ Text.maxWord) :
    read? (Value.naturals lines).spelling = some { lines } := by
  have readable : (Value.naturals lines).Readable Json.maxNesting := Value.readable_naturals fits
  exact read?_eq_some_iff.mpr ⟨⟨fits, nofun⟩, _, readable.read?, .bare lines⟩

/-- What is read fits 64 bits, and so it is read again once it is written. -/
theorem read?_toJson_of_read? {text : List Char} (read : read? text = some recording) :
    read? recording.toJson.spelling = some recording :=
  read?_toJson (read?_eq_some_iff.mp read).1

/-- An object without lines is no recording. -/
theorem read?_eq_none_of_absent {text : List Char}
    (parsed : Json.read? text = some (.object members))
    (absent : ∀ member ∈ members, member.1 ≠ "lines") : read? text = none := by
  have noKey : "lines" ∉ members.map Prod.fst := by
    intro present
    obtain ⟨member, known, named⟩ := List.mem_map.mp present
    exact absent member known named
  rw [read?, parsed, Option.bind_some, ofJson?, ofMembers?, Members.entry_eq_missing_iff.mpr noKey]

/-- A list with anything but a 64-bit number in it is no recording. -/
theorem read?_eq_none_of_item {text : List Char} {items : List Value} {item : Value}
    (parsed : Json.read? text = some (.array items)) (known : item ∈ items)
    (foreign : ∀ number ≤ Text.maxWord, item ≠ .natural number) : read? text = none := by
  rw [Option.eq_none_iff_forall_ne_some]
  intro recording read
  obtain ⟨fits, value, parsed', describes⟩ := read?_eq_some_iff.mp read
  cases parsed.symm.trans parsed'
  cases describes
  case bare lines =>
    obtain ⟨number, listed, rfl⟩ := List.mem_map.mp known
    exact foreign number (fits.lines number listed) rfl

/--
A text is read as a recording exactly if it is JSON that describes the recording and all numbers
fit 64 bits.  Every such recording is read from what it is written as, and its lines alone from
their bare list; so what was read from any file and is written is read as the same again.  All files
that describe one recording, with members in any order and unknown ones anywhere, are
written again in one form.  Objects without lines and lists with anything but 64-bit numbers are
refused.
-/
theorem files_normalise (text : List Char) (recording : Recording) :
    (read? text = some recording ↔
      recording.FitsWords ∧
        ∃ value, Json.read? text = some value ∧ Describes value recording) ∧
    (recording.FitsWords →
      read? recording.toJson.spelling = some recording ∧
        read? (Value.naturals recording.lines).spelling = some { lines := recording.lines }) ∧
    (read? text = some recording → read? recording.toJson.spelling = some recording) ∧
    (∀ known others members, Spells recording.lines recording.depths known →
      (∀ member ∈ others, member.1 ≠ "lines" ∧ member.1 ≠ "depths") →
        members.Perm (known ++ others) → Json.read? text = some (.object members) →
          recording.FitsWords →
            (read? text).map (·.toJson.spelling) = some recording.toJson.spelling) ∧
    (∀ members, Json.read? text = some (.object members) →
      (∀ member ∈ members, member.1 ≠ "lines") → read? text = none) ∧
    ∀ items, Json.read? text = some (.array items) →
      ∀ item ∈ items, (∀ number ≤ Text.maxWord, item ≠ .natural number) → read? text = none := by
  refine ⟨read?_eq_some_iff, fun fits => ⟨read?_toJson fits, read?_bare fits.lines⟩,
    read?_toJson_of_read?, ?_, fun members => read?_eq_none_of_absent,
    fun items parsed item => read?_eq_none_of_item parsed⟩
  intro known others members spelled unknown arranged parsed fits
  have read : read? text = some recording :=
    read?_eq_some_iff.mpr ⟨fits, _, parsed, .object spelled unknown arranged⟩
  rw [read]
  rfl

/-- An object with its members in another order, a `null` for the depths and an unknown member. -/
example :
    read? "\x7b\"depths\": null, \"by\": [1.5, -0], \"lines\": [18446744073709551615]\x7d".toList =
      some { lines := [18446744073709551615] } := by
  decide +kernel

end Playback.Recording
