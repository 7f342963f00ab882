import Playback.Proofs.Net.Address
import Playback.Proofs.Toml.Reader
import Playback.Settings.File

/-!
# Settings are read as they were saved

A settings file that was saved has a line for every key.  The main statement deletes the lines of
any keys from it: what is left is always read, the keys that are left have their saved values and
the others their defaults.  With no line deleted, the settings are read as they were saved, and
saving them again writes the same file.

Each value is first shown to be read from the text it is written as.  After that a file is a list
of two sections whose entries were sifted by their keys, and only looking up a key is left.
-/

namespace Playback.Settings

open Toml (IsBareKey Key Members Section Statement Value)

/-- Whether a line stays when only some keys are kept. -/
def Line.isKept (keep : String → Bool) : Line → Bool
  | .entry key _ => keep key
  | .heading _ | .blank => true

/-- The file of some settings without the lines of the keys that are not kept. -/
def printKept (keep : String → Bool) (settings : Settings) : List Char :=
  (settings.lines.filter (·.isKept keep)).flatMap Line.text

/-- The settings with the defaults for all keys that are not kept. -/
def keeping (keep : String → Bool) (settings : Settings) : Settings :=
  let defaults : Settings := {}
  { engine :=
      { tabWidth := if keep "tab_width" then settings.engine.tabWidth else defaults.engine.tabWidth
        topLevelStepOut :=
          if keep "top_level_step_out" then settings.engine.topLevelStepOut
          else defaults.engine.topLevelStepOut
        maxHistory :=
          if keep "max_history" then settings.engine.maxHistory else defaults.engine.maxHistory }
    server :=
      { host := if keep "host" then settings.server.host else defaults.server.host
        port := if keep "port" then settings.server.port else defaults.server.port } }

/-- The largest integer that every reader of these files takes. -/
def maxInteger : Nat :=
  Nat.pow 2 63 - 1

theorem maxInteger_le_maxWord : maxInteger ≤ Text.maxWord := by
  decide

/-- Whether the numbers of some settings can be written as integers. -/
structure FitsIntegers (settings : Settings) : Prop where
  tabWidth : settings.engine.tabWidth ≤ maxInteger
  maxHistory : settings.engine.maxHistory ≤ maxInteger

/-- A key with the text of its value and what that text is read as. -/
structure Entry where
  key : String
  written : List Char
  value : Value

namespace Entry

def line (entry : Entry) : Line :=
  .entry entry.key entry.written

def member (entry : Entry) : Key × Value :=
  (entry.key.toList, entry.value)

/-- An entry that is read as it was written, up to the end of its line. -/
structure IsRead (entry : Entry) : Prop where
  bare : IsBareKey entry.key.toList
  starts : ∀ rest, Toml.skipBlanks (entry.written ++ '\n' :: rest) = entry.written ++ '\n' :: rest
  read : ∀ rest,
    Toml.value? (entry.written ++ '\n' :: rest) = some (entry.value, '\n' :: rest)

theorem IsRead.spells {entry : Entry} (isRead : entry.IsRead) :
    Toml.Spells (entry.key.toList ++ ' ' :: '=' :: ' ' :: entry.written)
      (.assignment (.ofKey entry.member.1) entry.member.2) :=
  Toml.spells_assignment isRead.bare isRead.starts isRead.read

/-- A number as an entry. -/
def ofNumber (key : String) (number : Nat) : Entry where
  key := key
  written := Text.numeral number
  value := .integer (Text.numeral number)

/-- A text in quotes as an entry. -/
def ofText (key : String) (text : List Char) : Entry where
  key := key
  written := quote text
  value := .string text

theorem isRead_ofNumber {key : String} (bare : IsBareKey key.toList) (number : Nat) :
    (ofNumber key number).IsRead := by
  obtain ⟨digit, digits, written, isDigit⟩ := Toml.exists_cons_numeral number
  have noBlank : Toml.isBlank digit = false := by
    have inner := Toml.isSeparator_of_isDigit isDigit
    simp only [Toml.isSeparator, Bool.or_eq_false_iff] at inner
    simp [inner]
  refine ⟨bare, fun rest => ?_, fun rest => ?_⟩
  · change Toml.skipBlanks (Text.numeral number ++ _) = Text.numeral number ++ _
    rw [written, List.cons_append, Toml.skipBlanks,
      List.dropWhile_cons_of_neg (by simp [noBlank])]
  · have first : (Text.numeral number ++ '\n' :: rest).head? = some digit := by
      rw [written]
      rfl
    change Toml.value? (Text.numeral number ++ _) = _
    rw [Toml.value?_eq_scalar?, Toml.scalar?_numeral number rfl]
    · rfl
    · rw [first]
      exact fun same => Toml.ne_of_isDigit isDigit (by decide) (Option.some.inj same)
    · rw [first]
      exact fun same => Toml.ne_of_isDigit isDigit (by decide) (Option.some.inj same)

theorem isRead_ofText {key : String} (bare : IsBareKey key.toList) {text : List Char}
    (nonempty : text ≠ []) (plain : ∀ c ∈ text, Toml.isPlain c = true) :
    (ofText key text).IsRead := by
  refine ⟨bare, fun rest => rfl, fun rest => ?_⟩
  change Toml.value? ('"' :: text ++ ['"'] ++ '\n' :: rest) = _
  rw [List.append_assoc, List.singleton_append, Toml.value?_eq_scalar? (by simp) (by simp),
    Toml.scalar?_quoted nonempty plain]
  rfl

end Entry

def engineEntries (settings : EngineSettings) : List Entry :=
  [.ofNumber "tab_width" settings.tabWidth,
    .ofText "top_level_step_out" settings.topLevelStepOut.name.toList,
    .ofNumber "max_history" settings.maxHistory]

def serverEntries (settings : ServerSettings) : List Entry :=
  [.ofText "host" settings.host.print, .ofNumber "port" settings.port.toNat]

variable {settings : Settings} {keep : String → Bool}

theorem distinct_engineKeys (settings : EngineSettings) :
    ((engineEntries settings).map Entry.key).Nodup :=
  (by decide : ["tab_width", "top_level_step_out", "max_history"].Nodup)

theorem distinct_serverKeys (settings : ServerSettings) :
    ((serverEntries settings).map Entry.key).Nodup :=
  (by decide : ["host", "port"].Nodup)

theorem isRead_engineEntries (settings : EngineSettings) :
    ∀ entry ∈ engineEntries settings, entry.IsRead := by
  have plainName : ∀ name : TopLevelStepOut,
      name.name.toList ≠ [] ∧ name.name.toList.all Toml.isPlain = true := by
    intro name
    cases name <;> decide
  obtain ⟨nonempty, plain⟩ := plainName settings.topLevelStepOut
  intro entry member
  simp only [engineEntries, List.mem_cons, List.not_mem_nil, or_false] at member
  rcases member with rfl | rfl | rfl
  · exact Entry.isRead_ofNumber (by decide) _
  · exact Entry.isRead_ofText (by decide) nonempty (List.all_eq_true.mp plain)
  · exact Entry.isRead_ofNumber (by decide) _

/-- Addresses are written without anything that would have to be escaped in quotes. -/
theorem isPlain_of_isWritten {c : Char} (written : Net.Address.isWritten c = true) :
    Toml.isPlain c = true := by
  have noQuote : c ≠ '"' := by
    rintro rfl
    cases written
  have noBackslash : c ≠ '\\' := by
    rintro rfl
    cases written
  have bounds : 46 ≤ c.toNat ∧ c.toNat ≤ 102 := by
    simp only [Net.Address.isWritten, Bool.or_eq_true, decide_eq_true_eq] at written
    rcases written with (digit | rfl) | rfl
    · have bounds := Text.toNat_bounds_of_isSome digit
      omega
    · decide
    · decide
  have noControl : Toml.isControl c = false := by
    simp only [Toml.isControl, Bool.or_eq_false_iff, Bool.and_eq_false_iff,
      decide_eq_false_iff_not]
    omega
  simp [Toml.isPlain, noQuote, noBackslash, noControl]

theorem isRead_serverEntries (settings : ServerSettings) :
    ∀ entry ∈ serverEntries settings, entry.IsRead := by
  intro entry member
  simp only [serverEntries, List.mem_cons, List.not_mem_nil, or_false] at member
  rcases member with rfl | rfl
  · exact Entry.isRead_ofText (by decide) settings.host.print_ne_nil
      fun c known => isPlain_of_isWritten (Net.Address.isWritten_of_mem_print known)
  · exact Entry.isRead_ofNumber (by decide) _

/-! ## Sections -/

/-- The section of the entries that are kept. -/
def keptSection (keep : String → Bool) (name : String) (entries : List Entry) : Section where
  name := name.toList
  entries := (entries.map Entry.member).filter fun member => keep (String.ofList member.1)

def keptSections (keep : String → Bool) (settings : Settings) : List Section :=
  [keptSection keep "engine" (engineEntries settings.engine),
    keptSection keep "server" (serverEntries settings.server)]

theorem lines_eq (settings : Settings) :
    settings.lines =
      .heading "engine" :: (engineEntries settings.engine).map Entry.line ++
        .blank :: .heading "server" :: (serverEntries settings.server).map Entry.line :=
  rfl

theorem text_line_append (entry : Entry) (later : List Char) :
    entry.line.text ++ later =
      entry.key.toList ++ ' ' :: '=' :: ' ' :: (entry.written ++ '\n' :: later) := by
  simp [Entry.line, Line.text]

/-- The lines of entries that are kept are read as their assignments. -/
theorem reads_entries (keep : String → Bool) {entries : List Entry}
    (isRead : ∀ entry ∈ entries, entry.IsRead)
    {later : List Char} {statements : List Statement} (reads : Toml.Reads later statements) :
    Toml.Reads
      (((entries.map Entry.line).filter (·.isKept keep)).flatMap Line.text ++ later)
      ((((entries.map Entry.member).filter fun member => keep (String.ofList member.1)).map
        fun entry => Statement.assignment (.ofKey entry.1) entry.2) ++ statements) := by
  induction entries with
  | nil => exact reads
  | cons entry entries induction =>
      have readLater := induction fun other member => isRead other (List.mem_cons_of_mem _ member)
      have known : String.ofList entry.member.1 = entry.key := String.ofList_toList
      rw [List.map_cons, List.map_cons, List.filter_cons, List.filter_cons, known]
      change Toml.Reads (List.flatMap _ (if keep entry.key = true then _ else _) ++ _) _
      split
      case isTrue =>
        have whole := readLater.cons (isRead entry List.mem_cons_self).spells
        rw [List.flatMap_cons, List.append_assoc, text_line_append, List.map_cons, List.cons_append]
        simpa only [List.append_assoc, List.cons_append] using whole
      case isFalse => exact readLater

theorem reads_printKept (keep : String → Bool) (settings : Settings) :
    Toml.Reads (printKept keep settings)
      ((keptSections keep settings).flatMap Section.statements) := by
  have server := reads_entries keep (isRead_serverEntries settings.server) Toml.reads_nil
  have serverSection := server.cons (Toml.spells_heading (by decide : IsBareKey "server".toList))
  have engine := reads_entries keep (isRead_engineEntries settings.engine)
    serverSection.emptyLine
  have whole := engine.cons (Toml.spells_heading (by decide : IsBareKey "engine".toList))
  rw [printKept, lines_eq, List.filter_append]
  simpa [Line.isKept, Line.text, keptSections, keptSection, Section.statements] using whole

/-- Leaving entries out repeats no key. -/
theorem distinct_keptSection {name : String} {entries : List Entry}
    (distinct : (entries.map Entry.key).Nodup) : (keptSection keep name entries).Distinct := by
  have keys : (entries.map Entry.member).map Prod.fst =
      (entries.map Entry.key).map String.toList := by
    rw [List.map_map, List.map_map]
    rfl
  have distinctKeys : ((entries.map Entry.member).map Prod.fst).Nodup := by
    rw [keys, List.nodup_iff_pairwise_ne, List.pairwise_map]
    exact distinct.imp fun different same => different (String.toList_inj.mp same)
  exact distinctKeys.sublist (List.filter_sublist.map Prod.fst)

/-- A file without the lines of some keys is a document of two sections without these keys. -/
theorem read?_printKept (keep : String → Bool) (settings : Settings) :
    Toml.read? (printKept keep settings) =
      some ((keptSections keep settings).map Section.member) := by
  have distinct : ∀ part ∈ keptSections keep settings, part.Distinct := by
    intro part member
    simp only [keptSections, List.mem_cons, List.not_mem_nil, or_false] at member
    rcases member with rfl | rfl
    · exact distinct_keptSection (distinct_engineKeys settings.engine)
    · exact distinct_keptSection (distinct_serverKeys settings.server)
  have unrepeated : ((keptSections keep settings).map Section.name).Nodup :=
    (by decide : ["engine".toList, "server".toList].Nodup)
  have noMark : Toml.skipMark (printKept keep settings) = printKept keep settings := rfl
  rw [Toml.read?_of_reads (reads_printKept keep settings) noMark,
    Toml.Document.map_members_ofStatements? distinct unrepeated]

/-! ## Decoding -/

section

variable {α : Type} {keys : List String} {key : String} {members : Members} {value : Value}

theorem knownMembers?_of_known (known : ∀ member ∈ members, String.ofList member.1 ∈ keys) :
    knownMembers? keys members = some members := by
  rw [knownMembers?, if_pos]
  rw [List.all_eq_true]
  intro member isMember
  rw [List.contains_iff_mem.mpr (known member isMember), Bool.true_or]

/-- A section without other keys than its own is used as it stands. -/
theorem sectionMembers?_keptSection (keep : String → Bool) (name : String) (entries : List Entry) :
    sectionMembers? (entries.map Entry.key) (keptSection keep name entries).member.2 =
      some (keptSection keep name entries).entries := by
  refine knownMembers?_of_known fun member kept => ?_
  obtain ⟨entry, isEntry, rfl⟩ := List.mem_map.mp (List.mem_of_mem_filter kept)
  have sameKey : String.ofList entry.member.1 = entry.key := String.ofList_toList
  rw [sameKey]
  exact List.mem_map_of_mem isEntry

/-- Among distinct keys each one has the value of its own entry. -/
theorem get?_map_member {entries : List Entry} (distinct : (entries.map Entry.key).Nodup)
    {entry : Entry} (isEntry : entry ∈ entries) :
    Members.get? (entries.map Entry.member) entry.key.toList = some entry.value := by
  induction entries with
  | nil => cases isEntry
  | cons first entries induction =>
      rw [List.map_cons, List.nodup_cons] at distinct
      rw [Members.get?, List.map_cons, List.find?_cons]
      rcases List.mem_cons.mp isEntry with rfl | later
      · simp [Entry.member]
      · have different : first.key ≠ entry.key := fun same =>
          distinct.1 (same ▸ List.mem_map_of_mem later)
        have passed : decide (first.member.1 = entry.key.toList) = false :=
          decide_eq_false fun same => different (String.toList_inj.mp same)
        rw [passed]
        exact induction distinct.2 later

/-- A setting has its saved value when its key is kept, and its default otherwise. -/
theorem setting?_keptSection {name : String} {entries : List Entry}
    (distinct : (entries.map Entry.key).Nodup) (entry : Entry) (isEntry : entry ∈ entries)
    {default saved : α} {read : Value → Option α} (reads : read entry.value = some saved) :
    setting? (keptSection keep name entries).entries entry.key default read =
      some (if keep entry.key then saved else default) := by
  have kept := Members.get?_filter (fun key => keep (String.ofList key))
    (entries.map Entry.member) entry.key.toList
  rw [get?_map_member distinct isEntry, String.ofList_toList] at kept
  rw [setting?, keptSection, kept]
  by_cases isKept : keep entry.key = true
  · rw [if_pos isKept, if_pos isKept]
    exact reads
  · rw [if_neg isKept, if_neg isKept]

end

theorem numberUpTo?_numeral {bound number : Nat} (fits : number ≤ bound) :
    numberUpTo? bound (.integer (Text.numeral number)) = some number := by
  have inside : (0 ≤ (number : Int) && (number : Int) ≤ (bound : Int)) = true := by
    simp [fits]
  rw [numberUpTo?, Toml.integer?_numeral]
  dsimp only
  rw [if_pos inside, Int.toNat_natCast]

theorem topLevelStepOut?_name (choice : TopLevelStepOut) :
    topLevelStepOut? (.string choice.name.toList) = some choice := by
  cases choice <;> rfl

theorem port?_numeral (port : UInt16) :
    port? (.integer (Text.numeral port.toNat)) = some port := by
  rw [port?, numberUpTo?_numeral (Nat.le_of_lt_succ port.toNat_lt), Option.map_some,
    UInt16.ofNat_toNat]

theorem engine?_keptSection (keep : String → Bool) (fits : FitsIntegers settings) :
    engine? (keptSection keep "engine" (engineEntries settings.engine)).member.2 =
      some (keeping keep settings).engine := by
  have distinct := distinct_engineKeys settings.engine
  have members := sectionMembers?_keptSection keep "engine" (engineEntries settings.engine)
  let kept := (keptSection keep "engine" (engineEntries settings.engine)).entries
  let defaults : EngineSettings := {}
  have tabWidth : setting? kept "tab_width" defaults.tabWidth (numberUpTo? Text.maxWord) =
      some (keeping keep settings).engine.tabWidth :=
    setting?_keptSection distinct (.ofNumber "tab_width" settings.engine.tabWidth)
      List.mem_cons_self (numberUpTo?_numeral (fits.tabWidth.trans maxInteger_le_maxWord))
  have topLevelStepOut :
      setting? kept "top_level_step_out" defaults.topLevelStepOut topLevelStepOut? =
        some (keeping keep settings).engine.topLevelStepOut :=
    setting?_keptSection distinct
      (.ofText "top_level_step_out" settings.engine.topLevelStepOut.name.toList)
      (List.mem_cons_of_mem _ List.mem_cons_self)
      (topLevelStepOut?_name settings.engine.topLevelStepOut)
  have maxHistory : setting? kept "max_history" defaults.maxHistory (numberUpTo? Text.maxWord) =
      some (keeping keep settings).engine.maxHistory :=
    setting?_keptSection distinct (.ofNumber "max_history" settings.engine.maxHistory)
      (List.mem_cons_of_mem _ (List.mem_cons_of_mem _ List.mem_cons_self))
      (numberUpTo?_numeral (fits.maxHistory.trans maxInteger_le_maxWord))
  change sectionMembers? ["tab_width", "top_level_step_out", "max_history"] _ = some kept at members
  simp only [engine?, members, bind, Option.bind, defaults, tabWidth, topLevelStepOut, maxHistory]
  rfl

theorem server?_keptSection (keep : String → Bool) (settings : Settings) :
    server? (keptSection keep "server" (serverEntries settings.server)).member.2 =
      some (keeping keep settings).server := by
  have distinct := distinct_serverKeys settings.server
  have members := sectionMembers?_keptSection keep "server" (serverEntries settings.server)
  let kept := (keptSection keep "server" (serverEntries settings.server)).entries
  let defaults : ServerSettings := {}
  have host : setting? kept "host" defaults.host host? = some (keeping keep settings).server.host :=
    setting?_keptSection distinct (.ofText "host" settings.server.host.print) List.mem_cons_self
      (Net.Address.read?_print settings.server.host)
  have port : setting? kept "port" defaults.port port? = some (keeping keep settings).server.port :=
    setting?_keptSection distinct (.ofNumber "port" settings.server.port.toNat)
      (List.mem_cons_of_mem _ List.mem_cons_self) (port?_numeral settings.server.port)
  change sectionMembers? ["host", "port"] _ = some kept at members
  simp only [server?, members, bind, Option.bind, defaults, host, port]
  rfl

theorem ofMembers?_keptSections (keep : String → Bool) (fits : FitsIntegers settings) :
    ofMembers? ((keptSections keep settings).map Section.member) =
      some (keeping keep settings) := by
  have known : ∀ member ∈ (keptSections keep settings).map Section.member,
      String.ofList member.1 ∈ ["engine", "server"] := by
    intro member isMember
    simp only [keptSections, List.map_cons, List.map_nil, List.mem_cons, List.not_mem_nil,
      or_false] at isMember
    rcases isMember with rfl | rfl
    · exact List.mem_cons_self
    · exact List.mem_cons_of_mem _ List.mem_cons_self
  have engine : setting? ((keptSections keep settings).map Section.member) "engine"
      ({} : Settings).engine engine? = some (keeping keep settings).engine :=
    engine?_keptSection keep fits
  have server : setting? ((keptSections keep settings).map Section.member) "server"
      ({} : Settings).server server? = some (keeping keep settings).server :=
    server?_keptSection keep settings
  rw [ofMembers?, knownMembers?_of_known known]
  change Option.bind (setting? _ _ _ _) _ = _
  rw [engine]
  change Option.bind (setting? _ _ _ _) _ = _
  rw [server]
  rfl

theorem printKept_all (settings : Settings) :
    printKept (fun _ => true) settings = settings.print := by
  have kept : ∀ line ∈ settings.lines, line.isKept (fun _ => true) = true := by
    intro line _
    cases line <;> rfl
  rw [printKept, List.filter_eq_self.mpr kept]
  rfl

theorem keeping_all (settings : Settings) : keeping (fun _ => true) settings = settings :=
  rfl

/--
Settings are read as they were saved, and saving them again writes the same file.  After the lines
of any keys were deleted from the file it is still read, with the defaults for these keys and
everything else as it was saved.
-/
theorem saved_settings_reload (settings : Settings) (fits : settings.FitsIntegers) :
    read? settings.print = some settings ∧
      (read? settings.print).map print = some settings.print ∧
        ∀ keep, read? (settings.printKept keep) = some (settings.keeping keep) := by
  have kept : ∀ keep, read? (settings.printKept keep) = some (settings.keeping keep) := by
    intro keep
    rw [read?, read?_printKept, Option.bind_some, ofMembers?_keptSections keep fits]
  have all : read? settings.print = some settings := by
    rw [← printKept_all, kept, keeping_all]
  refine ⟨all, ?_, kept⟩
  rw [all, Option.map_some]

/-- Settings with the largest history and an address that is written in its short form. -/
theorem saved_settings_reload_unlike_defaults :
    let settings : Settings :=
      { engine := { tabWidth := 8, topLevelStepOut := .complete, maxHistory := maxInteger }
        server := { host := .v6 { groups := [0x2001, 0xdb8, 0, 0, 0, 0, 0, 1] }, port := 0 } }
    settings.FitsIntegers ∧
      read? settings.print = some settings ∧
        read? (settings.printKept (· != "host")) =
          some { settings with server := { port := 0 } } := by
  intro settings
  have fits : settings.FitsIntegers := ⟨by decide, Nat.le_refl _⟩
  obtain ⟨all, -, kept⟩ := settings.saved_settings_reload fits
  exact ⟨fits, all, kept (· != "host")⟩

end Playback.Settings
