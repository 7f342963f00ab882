import Playback.Net.Address
import Playback.Proofs.Text.Hexadecimal
import Playback.Proofs.Text.Numeral
import Playback.Proofs.Text.Pieces

/-!
# Addresses are read as they were written

The written form of an address is read back as the address.  For four octets the points alone cut
the text into the numerals again.  For eight groups the one place where two colons stand in a row is
where the zeros were left out, so the groups before it and behind it are found again, and the
zeros are as many as are missing from eight.  Neither form is taken for the other, because only the
second one has colons.
-/

namespace Playback.Net

open Text (hexDigit? hexNumeral hexValue? numeral)

/-! ## Four octets -/

/-- One item that is not read is enough to refuse a list. -/
theorem mapM_eq_none_of_mem {α β : Type} {read : α → Option β} {items : List α} {item : α}
    (member : item ∈ items) (refused : read item = none) : items.mapM read = none := by
  induction items with
  | nil => cases member
  | cons first rest induction =>
      rw [List.mapM_cons]
      rcases List.mem_cons.mp member with rfl | later
      · rw [refused]
        rfl
      · rw [induction later]
        cases read first <;> rfl

namespace IPv4

theorem octet?_numeral (octet : UInt8) : octet? (numeral octet.toNat) = some octet := by
  have below : octet.toNat < 256 := octet.toNat_lt
  have short : (numeral octet.toNat).length ≤ 3 :=
    (Nat.length_toDigits_le_iff (by decide) (by decide)).mpr (by omega)
  have digits : (numeral octet.toNat).all Char.isDigit = true :=
    List.all_eq_true.mpr fun _ => Text.isDigit_of_mem_numeral
  have noZero : ¬((numeral octet.toNat).head? = some '0' ∧ 1 < (numeral octet.toNat).length) := by
    rintro ⟨zero, long⟩
    obtain ⟨rest, leading⟩ := List.head?_eq_some_iff.mp zero
    rw [leading, Text.eq_nil_of_numeral_eq_zero_cons leading] at long
    exact Nat.lt_irrefl 1 long
  simp [octet?, Text.numeral_ne_nil, digits, Text.digitsValue_numeral, Nat.not_lt.mpr short,
    Nat.not_lt.mpr (Nat.le_of_lt_succ below), noZero]

theorem read?_print (address : IPv4) : read? address.print = some address := by
  have pieces : address.print.splitOn '.' =
      address.octets.map fun octet => numeral octet.toNat := by
    apply List.splitOn_intercalate
    · intro piece member
      obtain ⟨octet, _, rfl⟩ := List.mem_map.mp member
      exact Text.not_mem_numeral (by decide) octet.toNat
    · simp [octets]
  rw [read?, pieces]
  simp [octets, octet?_numeral]

theorem point_mem_print (address : IPv4) : '.' ∈ address.print := by
  rw [print, octets, List.map_cons, List.map_cons, List.intercalate_cons_cons]
  simp

/-- The two groups of an address stand for it. -/
theorem groups_ofGroups (high low : UInt16) : (ofGroups high low).groups = [high, low] := by
  have joined : ∀ group : UInt16,
      (group / 256).toUInt8.toUInt16 * 256 + (group % 256).toUInt8.toUInt16 = group := by
    intro group
    have below : group.toNat < 65536 := group.toNat_lt
    rw [← UInt16.toNat_inj]
    simp
    omega
  rw [groups, ofGroups, joined high, joined low]

/-- A text with a colon is no address of four octets. -/
theorem read?_of_colon {text : List Char} (colon : ':' ∈ text) : read? text = none := by
  obtain ⟨piece, cut, member⟩ := Text.exists_mem_splitOn colon (by decide : ':' ≠ '.')
  have foreign : octet? piece = none := by
    have notDigits : piece.all Char.isDigit = false :=
      List.all_eq_false.mpr ⟨':', member, by decide⟩
    simp [octet?, notDigits]
  rw [read?, mapM_eq_none_of_mem cut foreign]

end IPv4

/-! ## Eight groups -/

namespace IPv6

variable {part rest : List Char} {group : UInt16} {groups : List UInt16}

/-- A group is written without colons and points. -/
theorem not_mem_hexNumeral {c : Char} (foreign : hexDigit? c = none) (number : Nat) :
    c ∉ hexNumeral number := by
  intro member
  have digit := Text.isSome_hexDigit?_of_mem_hexNumeral member
  rw [foreign] at digit
  cases digit

theorem group?_hexNumeral (group : UInt16) : group? (hexNumeral group.toNat) = some group := by
  have below : group.toNat < 65536 := group.toNat_lt
  have short : (hexNumeral group.toNat).length ≤ 4 :=
    Text.length_hexNumeral_le (by decide) below
  simp [group?, Text.hexNumeral_ne_nil, Nat.not_lt.mpr short, Text.hexValue?_hexNumeral]

theorem group?_eq_none_of_mem {c : Char} (member : c ∈ part) (foreign : hexDigit? c = none) :
    group? part = none := by
  have unread : hexValue? part = none := by
    rw [hexValue?, mapM_eq_none_of_mem member foreign, Option.map_none]
  rw [group?, unread]
  split <;> rfl

theorem mapM_group? (groups : List UInt16) :
    (groups.map fun group => hexNumeral group.toNat).mapM group? = some groups := by
  induction groups with
  | nil => rfl
  | cons group groups induction =>
      rw [List.map_cons, List.mapM_cons, group?_hexNumeral, induction]
      rfl

/-- Groups are read by the reader that would also take four octets at the end. -/
theorem groups?_map (groups : List UInt16) :
    groups? (groups.map fun group => hexNumeral group.toNat) = some groups := by
  induction groups with
  | nil => rfl
  | cons group groups induction =>
      cases groups with
      | nil =>
          rw [List.map_singleton, groups?, group?_hexNumeral]
          rfl
      | cons next groups =>
          rw [List.map_cons] at induction ⊢
          rw [List.map_cons, groups?, group?_hexNumeral, induction]
          exact List.cons_ne_nil _ _

theorem printGroups_singleton (group : UInt16) :
    printGroups [group] = hexNumeral group.toNat :=
  List.intercalate_singleton

theorem printGroups_cons_cons (group next : UInt16) (groups : List UInt16) :
    printGroups (group :: next :: groups) =
      hexNumeral group.toNat ++ ':' :: printGroups (next :: groups) := by
  rw [printGroups, List.map_cons, List.map_cons, List.intercalate_cons_cons, List.append_assoc]
  rfl

/-- Groups are written with a first character that is no colon. -/
theorem exists_cons_printGroups (group : UInt16) (groups : List UInt16) :
    ∃ c text, printGroups (group :: groups) = c :: text ∧ c ≠ ':' := by
  obtain ⟨c, text, digits⟩ := List.exists_cons_of_ne_nil (Text.hexNumeral_ne_nil group.toNat)
  have noColon : c ≠ ':' := by
    rintro rfl
    exact not_mem_hexNumeral rfl group.toNat (digits ▸ List.mem_cons_self)
  cases groups with
  | nil => exact ⟨c, text, (printGroups_singleton group).trans digits, noColon⟩
  | cons next groups =>
      rw [printGroups_cons_cons, digits]
      exact ⟨c, _, rfl, noColon⟩

/-- The text of some groups is cut at its colons into the groups again. -/
theorem parts_printGroups (groups : List UInt16) :
    parts (printGroups groups) = groups.map fun group => hexNumeral group.toNat := by
  cases groups with
  | nil => rfl
  | cons group groups =>
      obtain ⟨c, text, written, _⟩ := exists_cons_printGroups group groups
      have nonempty : ¬(printGroups (group :: groups)).isEmpty = true := by
        rw [written]
        exact Bool.false_ne_true
      rw [parts, if_neg nonempty]
      apply List.splitOn_intercalate
      · intro piece member
        obtain ⟨other, _, rfl⟩ := List.mem_map.mp member
        exact not_mem_hexNumeral rfl other.toNat
      · exact List.cons_ne_nil _ _

/-- No gap begins within a part. -/
theorem splitAtGap_append (noColon : ':' ∉ part) (rest : List Char) :
    splitAtGap (part ++ rest) =
      (splitAtGap rest).map fun (front, back) => (part ++ front, back) := by
  induction part with
  | nil => simp
  | cons c part induction =>
      have different : c ≠ ':' := (List.ne_of_not_mem_cons noColon).symm
      rw [List.cons_append, splitAtGap, induction (List.not_mem_of_not_mem_cons noColon),
        Option.map_map]
      · rfl
      · rintro others colon
        exact (different colon).elim

/-- One colon alone is no gap. -/
theorem splitAtGap_colon {c : Char} (different : c ≠ ':') (rest : List Char) :
    splitAtGap (':' :: c :: rest) =
      (splitAtGap (c :: rest)).map fun (front, back) => (':' :: front, back) := by
  rw [splitAtGap]
  rintro others _ ⟨⟩
  exact different rfl

/-- Groups, with a text behind them or not, have no gap before their end. -/
theorem splitAtGap_printGroups_append (group : UInt16) (groups : List UInt16) (rest : List Char) :
    splitAtGap (printGroups (group :: groups) ++ rest) =
      (splitAtGap rest).map fun (front, back) =>
        (printGroups (group :: groups) ++ front, back) := by
  induction groups generalizing group with
  | nil =>
      rw [printGroups_singleton]
      exact splitAtGap_append (not_mem_hexNumeral rfl group.toNat) rest
  | cons next groups induction =>
      obtain ⟨c, text, written, different⟩ := exists_cons_printGroups next groups
      have later := induction next
      rw [written, List.cons_append] at later
      rw [printGroups_cons_cons, List.append_assoc,
        splitAtGap_append (not_mem_hexNumeral rfl group.toNat), written, List.cons_append,
        List.cons_append, splitAtGap_colon different, later, Option.map_map, Option.map_map]
      congr 1
      funext found
      simp

theorem splitAtGap_printGroups (groups : List UInt16) : splitAtGap (printGroups groups) = none := by
  cases groups with
  | nil => rfl
  | cons group groups =>
      have whole := splitAtGap_printGroups_append group groups []
      rw [List.append_nil] at whole
      exact whole

/-- The gap behind some groups is the first one. -/
theorem splitAtGap_gap (groups : List UInt16) (rest : List Char) :
    splitAtGap (printGroups groups ++ ':' :: ':' :: rest) = some (printGroups groups, rest) := by
  cases groups with
  | nil => rfl
  | cons group groups =>
      rw [splitAtGap_printGroups_append, splitAtGap, Option.map_some]
      exact congrArg (fun text => some (text, rest)) (List.append_nil _)

/-- The zeros counted from a position on are the groups that stand there. -/
theorem take_append_zeros (groups : List UInt16) (start : Nat) :
    groups.take start ++ List.replicate (zerosFrom groups start) 0 ++
      groups.drop (start + zerosFrom groups start) = groups := by
  have whole : (groups.drop start).takeWhile (· == 0) ++ (groups.drop start).dropWhile (· == 0) =
      groups.drop start := List.takeWhile_append_dropWhile
  have zeros : (groups.drop start).takeWhile (· == 0) =
      List.replicate (zerosFrom groups start) 0 :=
    List.eq_replicate_iff.mpr ⟨rfl, fun group member =>
      eq_of_beq (List.mem_takeWhile_imp (p := (· == 0)) member)⟩
  have others : groups.drop (start + zerosFrom groups start) =
      (groups.drop start).dropWhile (· == 0) :=
    calc
      groups.drop (start + zerosFrom groups start)
          = (groups.drop start).drop (zerosFrom groups start) := List.drop_drop.symm
      _ = ((groups.drop start).takeWhile (· == 0) ++ (groups.drop start).dropWhile (· == 0)).drop
            (zerosFrom groups start) := by rw [whole]
      _ = (groups.drop start).dropWhile (· == 0) := List.drop_left
  rw [← zeros, others, List.append_assoc, whole, List.take_append_drop]

theorem ofGroups?_groups (address : IPv6) : ofGroups? address.groups = some address :=
  dif_pos address.length_groups

/-- Groups at both ends are filled up with the zeros between them. -/
theorem ofEnds?_of_zeros {address : IPv6} {front back : List UInt16} {zeros : Nat}
    (positive : 0 < zeros) (whole : front ++ List.replicate zeros 0 ++ back = address.groups) :
    ofEnds? front back = some address := by
  have lengths := congrArg List.length whole
  rw [address.length_groups, List.length_append, List.length_append, List.length_replicate]
    at lengths
  have missing : 8 - (front.length + back.length) = zeros := by omega
  rw [ofEnds?, if_pos (by omega), missing, whole, ofGroups?_groups]

theorem read?_printGroups (address : IPv6) :
    read? (printGroups address.groups) = some address := by
  rw [read?, splitAtGap_printGroups]
  dsimp only
  rw [parts_printGroups, groups?_map, Option.bind_some, ofGroups?_groups]

theorem read?_gap {address : IPv6} {front back : List UInt16} {zeros : Nat}
    (positive : 0 < zeros) (whole : front ++ List.replicate zeros 0 ++ back = address.groups) :
    read? (printGroups front ++ "::".toList ++ printGroups back) = some address := by
  have gap := splitAtGap_gap front (printGroups back)
  rw [List.append_assoc, read?]
  change splitAtGap (printGroups front ++ ("::".toList ++ printGroups back)) = _ at gap
  rw [gap]
  dsimp only
  rw [parts_printGroups, parts_printGroups, mapM_group?, groups?_map]
  exact ofEnds?_of_zeros positive whole

/-- An address of four octets after a prefix of zeros and ones, as it is written. -/
theorem read?_mapped {address : IPv6} {high low : UInt16}
    (mapped : address.groups = [0, 0, 0, 0, 0, 0xffff, high, low]) :
    read? ("::ffff:".toList ++ (IPv4.ofGroups high low).print) = some address := by
  let octets := IPv4.ofGroups high low
  have noColon : ':' ∉ octets.print := by
    intro colon
    have refused := IPv4.read?_of_colon colon
    rw [IPv4.read?_print] at refused
    cases refused
  have noGroup : group? octets.print = none :=
    group?_eq_none_of_mem (IPv4.point_mem_print octets) rfl
  have cut : parts ("ffff:".toList ++ octets.print) = ["ffff".toList, octets.print] := by
    change ("ffff".toList ++ ':' :: octets.print).splitOn ':' = _
    rw [List.splitOn_append_cons_self_of_not_mem (by decide), List.splitOn_eq_singleton noColon]
  have readPrefix : group? "ffff".toList = some 0xffff := by decide
  have back : groups? (parts ("ffff:".toList ++ octets.print)) = some [0xffff, high, low] := by
    rw [cut, groups?, readPrefix, groups?, noGroup, IPv4.read?_print]
    · simp [octets, IPv4.groups_ofGroups]
    · exact List.cons_ne_nil _ _
  change read? (':' :: ':' :: ("ffff:".toList ++ octets.print)) = some address
  rw [read?, splitAtGap]
  dsimp only
  rw [back]
  exact ofEnds?_of_zeros (by decide : 0 < 5) mapped.symm

theorem read?_print (address : IPv6) : read? address.print = some address := by
  rw [print]
  split
  case h_1 high low mapped => exact read?_mapped mapped
  case h_2 groups _ =>
    have whole := take_append_zeros address.groups (longestZeros address.groups)
    dsimp only
    split
    case isTrue several => exact read?_gap (Nat.zero_lt_of_lt several) whole
    case isFalse => exact read?_printGroups address

theorem colon_mem_print (address : IPv6) : ':' ∈ address.print := by
  rw [print]
  split
  case h_1 => simp
  case h_2 =>
    dsimp only
    split
    case isTrue => simp
    case isFalse =>
      match groups : address.groups, address.length_groups with
      | first :: second :: others, _ =>
          rw [printGroups_cons_cons]
          simp

end IPv6

/-! ## Both forms -/

namespace Address

/-- An address is read from the form that it is written in. -/
theorem read?_print (address : Address) : read? address.print = some address := by
  cases address with
  | v4 address =>
      rw [read?, print, IPv4.read?_print]
      rfl
  | v6 address =>
      rw [read?, print, IPv4.read?_of_colon address.colon_mem_print, IPv6.read?_print]
      rfl

/-- The characters that addresses are written with. -/
def isWritten (c : Char) : Bool :=
  (hexDigit? c).isSome || c = '.' || c = ':'

theorem isWritten_of_isSome {c : Char} (digit : (hexDigit? c).isSome = true) :
    isWritten c = true := by
  rw [isWritten, digit]
  rfl

theorem isWritten_of_mem_v4 {address : IPv4} {c : Char} (member : c ∈ address.print) :
    isWritten c = true := by
  rcases Text.mem_intercalate member with between | ⟨piece, known, holds⟩
  · rw [List.mem_singleton.mp between]
    rfl
  · obtain ⟨octet, _, rfl⟩ := List.mem_map.mp known
    exact isWritten_of_isSome
      (Text.isSome_hexDigit?_of_isDigit (Text.isDigit_of_mem_numeral holds))

theorem isWritten_of_mem_printGroups {groups : List UInt16} {c : Char}
    (member : c ∈ IPv6.printGroups groups) : isWritten c = true := by
  rcases Text.mem_intercalate member with between | ⟨piece, known, holds⟩
  · rw [List.mem_singleton.mp between]
    rfl
  · obtain ⟨group, _, rfl⟩ := List.mem_map.mp known
    exact isWritten_of_isSome (Text.isSome_hexDigit?_of_mem_hexNumeral holds)

theorem isWritten_of_mem_v6 {address : IPv6} {c : Char} (member : c ∈ address.print) :
    isWritten c = true := by
  have literal : ∀ text : List Char, text.all isWritten = true → c ∈ text → isWritten c = true :=
    fun text all known => List.all_eq_true.mp all c known
  rw [IPv6.print] at member
  split at member
  case h_1 =>
    rcases List.mem_append.mp member with front | octets
    · exact literal _ (by decide) front
    · exact isWritten_of_mem_v4 octets
  case h_2 =>
    dsimp only at member
    split at member
    case isTrue =>
      rcases List.mem_append.mp member with front | back
      · rcases List.mem_append.mp front with groups | colons
        · exact isWritten_of_mem_printGroups groups
        · exact literal _ (by decide) colons
      · exact isWritten_of_mem_printGroups back
    case isFalse => exact isWritten_of_mem_printGroups member

theorem isWritten_of_mem_print {address : Address} {c : Char} (member : c ∈ address.print) :
    isWritten c = true := by
  cases address with
  | v4 address => exact isWritten_of_mem_v4 member
  | v6 address => exact isWritten_of_mem_v6 member

theorem print_ne_nil (address : Address) : address.print ≠ [] := by
  cases address with
  | v4 address => exact List.ne_nil_of_mem address.point_mem_print
  | v6 address => exact List.ne_nil_of_mem address.colon_mem_print

end Address

end Playback.Net
