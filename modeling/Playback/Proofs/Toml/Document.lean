import Playback.Toml.Document
import Mathlib.Data.List.Basic

/-!
# Documents in sections

A plain document is a list of sections, each with a heading of one key and assignments to single
keys.  When no heading is repeated, and no key within a section, its statements are all carried out
and build the table that has the sections as its members, in order.
-/

namespace Playback.Toml

/-- The path of a key of the outermost table. -/
def Path.ofKey (key : Key) : Path :=
  { parents := [], last := key }

/-- A heading and the members assigned under it. -/
structure Section where
  name : Key
  entries : Members

namespace Section

def statements (part : Section) : List Statement :=
  .header (.ofKey part.name) ::
    part.entries.map fun entry => .assignment (.ofKey entry.1) entry.2

/-- The member that a section is of the whole table. -/
def member (part : Section) : Key × Value :=
  (part.name, .table .header part.entries)

/-- Whether no key is repeated in a section. -/
def Distinct (part : Section) : Prop :=
  (part.entries.map Prod.fst).Nodup

end Section

namespace Members

variable {key : Key} {front members : Members}

theorem alter_append_of_absent (absent : key ∉ front.map Prod.fst)
    (change : Option Value → Option Value) (members : Members) :
    alter key change (front ++ members) = (alter key change members).map (front ++ ·) := by
  induction front with
  | nil => simp
  | cons member front induction =>
      obtain ⟨other, value⟩ := member
      have different : other ≠ key := fun same => absent (same ▸ List.mem_cons_self)
      have absentLater : key ∉ front.map Prod.fst := fun later =>
        absent (List.mem_cons_of_mem _ later)
      rw [List.cons_append, alter, if_neg different, induction absentLater, Option.map_map]
      rfl

/-- A key that is not there yet comes last. -/
theorem alter_of_absent (absent : key ∉ members.map Prod.fst)
    {change : Option Value → Option Value} {value : Value} (changed : change none = some value) :
    alter key change members = some (members ++ [(key, value)]) := by
  have appended := alter_append_of_absent absent change []
  rw [List.append_nil] at appended
  rw [appended, alter, changed]
  rfl

/-- The value of the last member is changed in its place. -/
theorem alter_last (absent : key ∉ front.map Prod.fst) (change : Option Value → Option Value)
    (value : Value) :
    alter key change (front ++ [(key, value)]) =
      (change (some value)).map fun changed => front ++ [(key, changed)] := by
  rw [alter_append_of_absent absent, alter, if_pos rfl, Option.map_map]
  rfl

theorem define_ofKey (absent : key ∉ members.map Prod.fst) :
    members.define (.ofKey key) = some (members ++ [(key, .table .header [])]) :=
  alter_of_absent absent rfl

theorem assign_ofKey (absent : key ∉ members.map Prod.fst) (value : Value) :
    members.assign (.ofKey key) value = some (members ++ [(key, value)]) :=
  alter_of_absent absent rfl

/-- Leaving members out by their keys leaves out what is said about these keys. -/
theorem get?_filter (keep : Key → Bool) (members : Members) (key : Key) :
    get? (members.filter fun member => keep member.1) key =
      if keep key then members.get? key else none := by
  rw [get?, List.find?_filter]
  by_cases kept : keep key = true
  · have found : ∀ member : Key × Value,
        decide (keep member.1 = true ∧ decide (member.1 = key) = true) =
          decide (member.1 = key) := by
      intro member
      by_cases same : member.1 = key <;> simp [same, kept]
    simp only [found, if_pos kept, get?]
  · have passed : ∀ member ∈ members,
        ¬decide (keep member.1 = true ∧ decide (member.1 = key) = true) = true := by
      intro member _
      by_cases same : member.1 = key <;> simp [same, kept]
    rw [if_neg kept, List.find?_eq_none.mpr passed]
    rfl

end Members

namespace Document

variable {name : Key} {front entries : Members}

/-- A new heading starts an empty section. -/
theorem carryOut?_header {document : Document} (absent : name ∉ document.members.map Prod.fst) :
    document.carryOut? (.header (.ofKey name)) =
      some { members := document.members ++ [(name, .table .header [])], current := [name] } := by
  rw [carryOut?, Members.define_ofKey absent]
  rfl

/-- An assignment to a new key goes to the end of the last section. -/
theorem carryOut?_assignment {key : Key} (absentName : name ∉ front.map Prod.fst)
    (absentKey : key ∉ entries.map Prod.fst) (value : Value) :
    carryOut? { members := front ++ [(name, .table .header entries)], current := [name] }
        (.assignment (.ofKey key) value) =
      some
        { members := front ++ [(name, .table .header (entries ++ [(key, value)]))]
          current := [name] } := by
  have allowed : Walk.ofHeader.allows [] .header = true := rfl
  rw [carryOut?, Members.changeAt, Members.alter_last absentName]
  dsimp only
  rw [if_pos allowed, Members.changeAt, Members.assign_ofKey absentKey]
  rfl

theorem foldlM_assignments (absentName : name ∉ front.map Prod.fst) (entries later : Members)
    (distinct : ((entries ++ later).map Prod.fst).Nodup) :
    (later.map fun entry => Statement.assignment (.ofKey entry.1) entry.2).foldlM carryOut?
        { members := front ++ [(name, .table .header entries)], current := [name] } =
      some
        { members := front ++ [(name, .table .header (entries ++ later))]
          current := [name] } := by
  induction later generalizing entries with
  | nil =>
      rw [List.append_nil]
      rfl
  | cons entry later induction =>
      obtain ⟨key, value⟩ := entry
      have absentKey : key ∉ entries.map Prod.fst := by
        rw [List.map_append, List.map_cons] at distinct
        exact fun present =>
          (List.nodup_append.mp distinct).2.2 key present key List.mem_cons_self rfl
      have rest : entries ++ (key, value) :: later = entries ++ [(key, value)] ++ later := by simp
      rw [rest] at distinct ⊢
      rw [List.map_cons, List.foldlM_cons, carryOut?_assignment absentName absentKey]
      exact induction (entries ++ [(key, value)]) distinct

/-- The statements of some sections add their members. -/
theorem exists_foldlM_sections (sections : List Section)
    (distinct : ∀ part ∈ sections, part.Distinct) (document : Document)
    (unrepeated : (document.members.map Prod.fst ++ sections.map Section.name).Nodup) :
    ∃ current, (sections.flatMap Section.statements).foldlM carryOut? document =
      some { members := document.members ++ sections.map Section.member, current } := by
  induction sections generalizing document with
  | nil =>
      refine ⟨document.current, ?_⟩
      rw [List.map_nil, List.append_nil]
      rfl
  | cons part sections induction =>
      have absent : part.name ∉ document.members.map Prod.fst := fun present =>
        (List.nodup_append.mp unrepeated).2.2 part.name present part.name List.mem_cons_self rfl
      let defined : Document :=
        { members := document.members ++ [part.member], current := [part.name] }
      have opened := document.carryOut?_header absent
      have filled :=
        foldlM_assignments absent [] part.entries (distinct part List.mem_cons_self)
      have unrepeatedLater :
          (defined.members.map Prod.fst ++ sections.map Section.name).Nodup := by
        simpa [defined, Section.member] using unrepeated
      obtain ⟨current, later⟩ :=
        induction (fun other member => distinct other (List.mem_cons_of_mem part member))
          defined unrepeatedLater
      refine ⟨current, ?_⟩
      rw [List.flatMap_cons, List.foldlM_append, Section.statements, List.foldlM_cons, opened]
      change (List.foldlM carryOut? _ _ >>= _) = _
      rw [filled]
      change List.foldlM carryOut? defined _ = _
      rw [later, List.map_cons, List.append_assoc]
      rfl

/-- A document in sections is the table of these. -/
theorem map_members_ofStatements? {sections : List Section}
    (distinct : ∀ part ∈ sections, part.Distinct)
    (unrepeated : (sections.map Section.name).Nodup) :
    (ofStatements? (sections.flatMap Section.statements)).map Document.members =
      some (sections.map Section.member) := by
  obtain ⟨current, built⟩ := exists_foldlM_sections sections distinct {} unrepeated
  rw [ofStatements?, built]
  rfl

end Document

end Playback.Toml
