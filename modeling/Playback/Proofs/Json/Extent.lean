import Playback.Json.Reader

/-!
# What is read is no longer than its text

Reading passes over a text once.  So a string of a value that is read has at most as many characters
as the text, and a list of it at most as many items.  The two halves of reading are gone through
one after the other; in each, less is left to read than there was.
-/

namespace Playback.Json

variable {text rest : List Char} {bound : Nat}

/-! ## From text to tokens -/

theorem digits?_length {digits : List Char} (read : digits? text = some (digits, rest)) :
    rest.length ≤ text.length := by
  rw [digits?] at read
  split at read
  · cases read
  · cases read
    exact (List.dropWhile_sublist _).length_le

theorem wholeDigits?_length {digits : List Char}
    (read : wholeDigits? text = some (digits, rest)) : rest.length ≤ text.length := by
  rw [wholeDigits?] at read
  split at read
  · cases read
  · exact digits?_length read

theorem fraction?_length {digits : List Char} (read : fraction? text = some (digits, rest)) :
    rest.length ≤ text.length := by
  rw [fraction?.eq_def] at read
  split at read
  · exact Nat.le_succ_of_le (digits?_length read)
  · cases read
    exact Nat.le_refl _

theorem exponentDigits?_length {exponent : Option (Bool × List Char)}
    (read : exponentDigits? text = some (exponent, rest)) : rest.length ≤ text.length := by
  rw [exponentDigits?.eq_def] at read
  split at read
  all_goals
    obtain ⟨⟨digits, rest'⟩, found, same⟩ := Option.map_eq_some_iff.mp read
    cases same
  · exact Nat.le_succ_of_le (digits?_length found)
  · exact Nat.le_succ_of_le (digits?_length found)
  · exact digits?_length found

theorem exponent?_length {exponent : Option (Bool × List Char)}
    (read : exponent? text = some (exponent, rest)) : rest.length ≤ text.length := by
  rw [exponent?.eq_def] at read
  split at read
  · exact Nat.le_succ_of_le (exponentDigits?_length read)
  · exact Nat.le_succ_of_le (exponentDigits?_length read)
  · cases read
    exact Nat.le_refl _

theorem magnitude?_length {negative : Bool} {literal : Literal}
    (read : magnitude? negative text = some (literal, rest)) : rest.length ≤ text.length := by
  simp only [magnitude?, Option.bind_eq_bind, Option.bind_eq_some_iff, Prod.exists] at read
  obtain ⟨whole, afterWhole, readWhole, fraction, afterFraction, readFraction, exponent,
    afterExponent, readExponent, same⟩ := read
  cases same
  calc
    rest.length ≤ afterFraction.length := exponent?_length readExponent
    _ ≤ afterWhole.length := fraction?_length readFraction
    _ ≤ text.length := wholeDigits?_length readWhole

theorem number?_length {number : Number} (read : number? text = some (number, rest)) :
    rest.length ≤ text.length := by
  rw [number?] at read
  split at read
  case h_2 => cases read
  case h_1 literal rest' found =>
    split at read
    case isFalse => cases read
    case isTrue =>
      cases read
      rw [literal?.eq_def] at found
      split at found
      · exact Nat.le_succ_of_le (magnitude?_length found)
      · exact magnitude?_length found

theorem pieces?_length {pieces : List Piece} (read : pieces? text = some (pieces, rest)) :
    pieces.length + rest.length ≤ text.length := by
  fun_induction pieces? text generalizing pieces rest with
  | case1 rest' =>
      cases read
      simp
  | case2 a b c d _ code pieces' rest' found _ induction =>
      cases read
      have shorter := induction found
      simp only [List.length_cons]
      omega
  | case4 c _ _ _ pieces' rest' found _ induction =>
      cases read
      have shorter := induction found
      simp only [List.length_cons]
      omega
  | case7 c _ _ _ _ _ pieces' rest' found induction =>
      cases read
      have shorter := induction found
      simp only [List.length_cons]
      omega
  | _ => cases read

/-- Pieces are joined to characters, two of them to one at most. -/
theorem joinPieces?_length {pieces : List Piece} {content : List Char}
    (joined : joinPieces? pieces = some content) : content.length ≤ pieces.length := by
  have longer : ∀ {c : Char} {read : Option (List Char)} {rest : List Piece} {content},
      (∀ {content}, read = some content → content.length ≤ rest.length) →
        read.map (c :: ·) = some content → content.length ≤ rest.length + 1 := by
    intro c read rest content induction joined
    obtain ⟨others, found, rfl⟩ := Option.map_eq_some_iff.mp joined
    exact Nat.succ_le_succ (induction found)
  fun_induction joinPieces? pieces generalizing content with
  | case1 =>
      cases joined
      exact Nat.le_refl _
  | case2 _ _ induction => exact longer induction joined
  | case3 _ _ _ _ _ induction => exact Nat.le_succ_of_le (longer induction joined)
  | case6 _ _ _ _ _ induction => exact longer induction joined
  | case8 _ _ _ _ induction => exact longer induction joined
  | _ => cases joined

theorem string?_length {content : String} (read : string? text = some (content, rest)) :
    content.toList.length + rest.length ≤ text.length := by
  rw [string?] at read
  split at read
  case h_2 => cases read
  case h_1 pieces rest' found =>
    obtain ⟨joined, same, written⟩ := Option.map_eq_some_iff.mp read
    cases written
    rw [String.toList_ofList]
    exact Nat.le_trans (Nat.add_le_add_right (joinPieces?_length same) _) (pieces?_length found)

/-- Whether a token, if it is a string, has at most so many characters. -/
def Token.Within (bound : Nat) : Token → Prop
  | .text content => content.toList.length ≤ bound
  | _ => True

theorem token?_length {token : Token} (read : token? text = some (token, rest))
    (within : text.length ≤ bound) : rest.length ≤ bound ∧ token.Within bound := by
  rw [token?.eq_def] at read
  split at read
  case h_10 =>
    obtain ⟨⟨content, rest'⟩, found, same⟩ := Option.map_eq_some_iff.mp read
    cases same
    have shorter := string?_length found
    rw [List.length_cons] at within
    refine ⟨by omega, ?_⟩
    rw [Token.Within]
    omega
  case h_11 =>
    obtain ⟨⟨number, rest'⟩, found, same⟩ := Option.map_eq_some_iff.mp read
    cases same
    exact ⟨Nat.le_trans (number?_length found) within, trivial⟩
  all_goals
    cases read
    simp only [List.length_cons] at within
    exact ⟨by omega, trivial⟩

/-- Tokens that are no more than `bound`, with strings of at most as many characters. -/
structure Token.AllWithin (bound : Nat) (tokens : List Token) : Prop where
  few : tokens.length ≤ bound
  short : ∀ token ∈ tokens, token.Within bound

theorem tokensWithin?_length {fuel : Nat} {tokens : List Token}
    (read : tokensWithin? fuel text = some tokens) (within : text.length ≤ bound) :
    tokens.length ≤ fuel ∧ ∀ token ∈ tokens, token.Within bound := by
  fun_induction tokensWithin? fuel text generalizing tokens with
  | case1 =>
      cases read
      exact ⟨Nat.zero_le _, List.forall_mem_nil _⟩
  | case3 fuel c rest space induction =>
      obtain ⟨few, short⟩ := induction read (Nat.le_of_succ_le within)
      exact ⟨Nat.le_succ_of_le few, short⟩
  | case4 fuel c rest noSpace token rest' found induction =>
      obtain ⟨others, readOthers, rfl⟩ := Option.map_eq_some_iff.mp read
      obtain ⟨withinRest, first⟩ := token?_length found within
      obtain ⟨few, short⟩ := induction readOthers withinRest
      exact ⟨Nat.succ_le_succ few, List.forall_mem_cons.mpr ⟨first, short⟩⟩
  | _ => cases read

theorem tokens?_within {tokens : List Token} (read : tokens? text = some tokens) :
    Token.AllWithin text.length tokens := by
  obtain ⟨few, short⟩ := tokensWithin?_length read (Nat.le_refl _)
  exact { few, short }

/-! ## From tokens to values -/

/-- A value with strings and lists of at most `bound` characters and items each. -/
inductive Value.Within (bound : Nat) : Value → Prop
  | null : Within bound .null
  | boolean (flag : Bool) : Within bound (.boolean flag)
  | number (value : Number) : Within bound (.number value)
  | text {content : String} (short : content.toList.length ≤ bound) :
      Within bound (.text content)
  | array {items : List Value} (few : items.length ≤ bound)
      (within : ∀ item ∈ items, Within bound item) : Within bound (.array items)
  | object {members : Members} (within : ∀ member ∈ members, Within bound member.2) :
      Within bound (.object members)

/-- The items of an array, or the values of an object without their keys. -/
def Value.parts : Value → List Value
  | .array items => items
  | .object members => members.map Prod.snd
  | _ => []

theorem Value.Within.of_mem_parts {value part : Value} (within : value.Within bound)
    (member : part ∈ value.parts) : part.Within bound := by
  cases within with
  | array _ each => exact each part member
  | object each =>
      obtain ⟨named, known, rfl⟩ := List.mem_map.mp member
      exact each named known
  | _ => cases member

variable {fuel nesting : Nat} {tokens left : List Token}

theorem Token.AllWithin.suffix (within : Token.AllWithin bound tokens) (behind : left <:+ tokens) :
    Token.AllWithin bound left where
  few := Nat.le_trans behind.length_le within.few
  short token member := within.short token (behind.subset member)

/-- What so much fuel puts together is within the bound, and an end of the tokens is left. -/
structure ReadsWithin (bound fuel : Nat) : Prop where
  value {nesting : Nat} {tokens left : List Token} {value : Value}
    (read : value? fuel nesting tokens = some (value, left))
    (within : Token.AllWithin bound tokens) : value.Within bound ∧ left <:+ tokens
  items {nesting : Nat} {tokens left : List Token} {items : List Value}
    (read : items? fuel nesting tokens = some (items, left))
    (within : Token.AllWithin bound tokens) :
    items.length ≤ tokens.length ∧ (∀ item ∈ items, item.Within bound) ∧ left <:+ tokens
  members {nesting : Nat} {tokens left : List Token} {members : Members}
    (read : members? fuel nesting tokens = some (members, left))
    (within : Token.AllWithin bound tokens) :
    (∀ member ∈ members, member.2.Within bound) ∧ left <:+ tokens

theorem ReadsWithin.value_succ (reads : ReadsWithin bound fuel) {value : Value}
    (read : value? (fuel + 1) nesting tokens = some (value, left))
    (within : Token.AllWithin bound tokens) : value.Within bound ∧ left <:+ tokens := by
  rw [value?.eq_def] at read
  split at read
  case h_1 zero => cases zero
  case h_2 =>
    cases read
    exact ⟨.null, List.suffix_cons _ _⟩
  case h_3 =>
    cases read
    exact ⟨.boolean _, List.suffix_cons _ _⟩
  case h_4 =>
    cases read
    exact ⟨.number _, List.suffix_cons _ _⟩
  case h_5 =>
    cases read
    exact ⟨.text (within.short _ List.mem_cons_self), List.suffix_cons _ _⟩
  case h_6 =>
    cases read
    exact ⟨.array (Nat.zero_le _) (List.forall_mem_nil _),
      (List.suffix_cons _ _).trans (List.suffix_cons _ _)⟩
  case h_7 fuel' nesting' tokens' _ same =>
    cases same
    obtain ⟨⟨items, rest⟩, found, written⟩ := Option.map_eq_some_iff.mp read
    cases written
    have withinRest := within.suffix (List.suffix_cons _ _)
    obtain ⟨few, each, behind⟩ := reads.items found withinRest
    exact ⟨.array (Nat.le_trans few withinRest.few) each, behind.trans (List.suffix_cons _ _)⟩
  case h_8 =>
    cases read
    exact ⟨.object (List.forall_mem_nil _), (List.suffix_cons _ _).trans (List.suffix_cons _ _)⟩
  case h_9 fuel' nesting' tokens' _ same =>
    cases same
    obtain ⟨⟨members, rest⟩, found, written⟩ := Option.map_eq_some_iff.mp read
    cases written
    obtain ⟨each, behind⟩ := reads.members found (within.suffix (List.suffix_cons _ _))
    exact ⟨.object each, behind.trans (List.suffix_cons _ _)⟩
  case h_10 => cases read

theorem ReadsWithin.items_succ (reads : ReadsWithin bound fuel) {items : List Value}
    (read : items? (fuel + 1) nesting tokens = some (items, left))
    (within : Token.AllWithin bound tokens) :
    items.length ≤ tokens.length ∧ (∀ item ∈ items, item.Within bound) ∧ left <:+ tokens := by
  rw [items?] at read
  split at read
  case h_1 item rest found =>
    cases read
    obtain ⟨first, behind⟩ := reads.value found within
    have consumed := behind.length_le
    rw [List.length_cons] at consumed
    exact ⟨by rw [List.length_singleton]; omega, List.forall_mem_singleton.mpr first,
      (List.suffix_cons _ _).trans behind⟩
  case h_2 item rest found =>
    obtain ⟨⟨others, rest'⟩, foundOthers, written⟩ := Option.map_eq_some_iff.mp read
    cases written
    obtain ⟨first, behind⟩ := reads.value found within
    have behind' := (List.suffix_cons _ _).trans behind
    obtain ⟨few, each, behindOthers⟩ := reads.items foundOthers (within.suffix behind')
    have consumed := behind.length_le
    rw [List.length_cons] at consumed
    exact ⟨by rw [List.length_cons]; omega, List.forall_mem_cons.mpr ⟨first, each⟩,
      behindOthers.trans behind'⟩
  case h_3 => cases read

theorem ReadsWithin.members_succ (reads : ReadsWithin bound fuel) {members : Members}
    (read : members? (fuel + 1) nesting tokens = some (members, left))
    (within : Token.AllWithin bound tokens) :
    (∀ member ∈ members, member.2.Within bound) ∧ left <:+ tokens := by
  rw [members?.eq_def] at read
  split at read
  case h_1 zero => cases zero
  case h_2 fuel' _ key tokens' same =>
    cases same
    have behindKey : tokens' <:+ .text key :: .colon :: tokens' :=
      (List.suffix_cons _ _).trans (List.suffix_cons _ _)
    have withinValue := within.suffix behindKey
    split at read
    case h_1 value rest found =>
      cases read
      obtain ⟨first, behind⟩ := reads.value found withinValue
      exact ⟨List.forall_mem_singleton.mpr first,
        ((List.suffix_cons _ _).trans behind).trans behindKey⟩
    case h_2 value rest found =>
      obtain ⟨⟨others, rest'⟩, foundOthers, written⟩ := Option.map_eq_some_iff.mp read
      cases written
      obtain ⟨first, behind⟩ := reads.value found withinValue
      have behind' := (List.suffix_cons _ _).trans behind
      obtain ⟨each, behindOthers⟩ := reads.members foundOthers (withinValue.suffix behind')
      exact ⟨List.forall_mem_cons.mpr ⟨first, each⟩,
        (behindOthers.trans behind').trans behindKey⟩
    case h_3 => cases read
  case h_3 => cases read

theorem readsWithin (bound fuel : Nat) : ReadsWithin bound fuel := by
  induction fuel with
  | zero =>
      refine { value := ?_, items := ?_, members := ?_ } <;> intro _ _ _ _ read <;>
        simp [value?, items?, members?] at read
  | succ fuel reads =>
      exact
        { value := reads.value_succ
          items := reads.items_succ
          members := reads.members_succ }

/-- A value has no string and no list that is longer than the text it is read from. -/
theorem within_of_read? {value : Value} (read : read? text = some value) :
    value.Within text.length := by
  obtain ⟨tokens, cut, joined⟩ := Option.bind_eq_some_iff.mp read
  rw [ofTokens?] at joined
  split at joined
  case h_1 value' found =>
    cases joined
    exact ((readsWithin _ _).value found (tokens?_within cut)).1
  case h_2 => cases joined

end Playback.Json
