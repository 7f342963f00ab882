import Playback.Json.Printer
import Playback.Proofs.Json.Magnitude

/-!
# Tokens are read as they were written

The text of a token, with any text behind it that cannot belong to it, is read as that token.  Only
a number has to be kept apart from what follows: a digit, a point or an exponent behind
it would be taken for a part of it.
-/

namespace Playback.Json

open Text (maxWord numeral)

/-! ## Numbers -/

/-- Whether a number is written with digits alone that stand for a number of 64 bits. -/
def Number.FitsWord : Number → Prop
  | .whole magnitude | .negative magnitude => magnitude ≤ maxWord
  | .decimal _ => False

/-- Whether a text cannot be taken for more of a number before it. -/
def endsNumber : List Char → Bool
  | [] => true
  | c :: _ => !(c.isDigit || c = '.' || c = 'e' || c = 'E')

variable {rest : List Char}

theorem takeWhile_isDigit_of_ends (ends : endsNumber rest = true) :
    rest.takeWhile Char.isDigit = [] := by
  cases rest with
  | nil => rfl
  | cons c rest =>
      simp only [endsNumber, Bool.not_eq_true', Bool.or_eq_false_iff] at ends
      rw [List.takeWhile_cons, ends.1.1.1]
      rfl

theorem digits?_numeral (number : Nat) (ends : endsNumber rest = true) :
    digits? (numeral number ++ rest) = some (numeral number, rest) := by
  have allDigits : ∀ c ∈ numeral number, c.isDigit = true :=
    fun _ member => Text.isDigit_of_mem_numeral member
  have taken : (numeral number ++ rest).takeWhile Char.isDigit = numeral number := by
    rw [List.takeWhile_append_of_pos allDigits, takeWhile_isDigit_of_ends ends, List.append_nil]
  have dropped : (numeral number ++ rest).dropWhile Char.isDigit = rest := by
    have whole : (numeral number ++ rest).takeWhile Char.isDigit ++
        (numeral number ++ rest).dropWhile Char.isDigit = numeral number ++ rest :=
      List.takeWhile_append_dropWhile
    rw [taken] at whole
    exact List.append_cancel_left whole
  rw [digits?, taken, dropped]
  split
  case h_1 empty => exact (Text.numeral_ne_nil number empty).elim
  case h_2 => rfl

/-- A numeral is read up to its end: it has no leading zero. -/
theorem wholeDigits?_numeral (number : Nat) (ends : endsNumber rest = true) :
    wholeDigits? (numeral number ++ rest) = some (numeral number, rest) := by
  rw [wholeDigits?, digits?_numeral number ends]
  split
  case h_1 c others _ same =>
    have leading : numeral number = '0' :: c :: others := (Prod.mk.inj (Option.some.inj same)).1
    cases Text.eq_nil_of_numeral_eq_zero_cons leading
  case h_2 => rfl

theorem fraction?_of_ends (ends : endsNumber rest = true) : fraction? rest = some ([], rest) := by
  rw [fraction?]
  intro others point
  rw [point] at ends
  cases ends

theorem exponent?_of_ends (ends : endsNumber rest = true) :
    exponent? rest = some (none, rest) := by
  rw [exponent?]
  · intro others letter
    rw [letter] at ends
    cases ends
  · intro others letter
    rw [letter] at ends
    cases ends

theorem magnitude?_numeral (negative : Bool) (number : Nat) (ends : endsNumber rest = true) :
    magnitude? negative (numeral number ++ rest) =
      some ({ negative, whole := numeral number, fraction := [], exponent := none }, rest) := by
  rw [magnitude?, wholeDigits?_numeral number ends]
  dsimp only [Option.bind_eq_bind, Option.bind_some]
  rw [fraction?_of_ends ends]
  dsimp only [Option.bind_some]
  rw [exponent?_of_ends ends]
  rfl

theorem literal?_numeral (number : Nat) (ends : endsNumber rest = true) :
    literal? (numeral number ++ rest) =
      some ({ negative := false, whole := numeral number, fraction := [], exponent := none },
        rest) := by
  rw [literal?, magnitude?_numeral false number ends]
  intro others minus
  cases digits : numeral number with
  | nil => exact Text.numeral_ne_nil number digits
  | cons digit others' =>
      rw [digits] at minus
      have first : digit = '-' := (List.cons.inj minus).1
      have isDigit : digit.isDigit = true :=
        Text.isDigit_of_mem_numeral (digits ▸ List.mem_cons_self)
      rw [first] at isDigit
      cases isDigit

theorem number?_spelling {value : Number} (fits : value.FitsWord)
    (ends : endsNumber rest = true) : number? (value.spelling ++ rest) = some (value, rest) := by
  cases value with
  | whole magnitude =>
      rw [Number.spelling, number?, literal?_numeral magnitude ends]
      dsimp only
      rw [if_pos (inRange_numeral false fits)]
      simp [Literal.number, Literal.isWhole, Text.digitsValue_numeral]
  | negative magnitude =>
      rw [Number.spelling, List.cons_append, number?, literal?,
        magnitude?_numeral true magnitude ends]
      dsimp only
      rw [if_pos (inRange_numeral true fits)]
      simp [Literal.number, Literal.isWhole, Text.digitsValue_numeral]
  | decimal literal => exact fits.elim

/-! ## Strings -/

/-- A piece of a string that stands for one character, however its neighbours do. -/
structure Piece.Writes (piece : Piece) (c : Char) : Prop where
  read : ∀ rest, pieces? (escape c ++ rest) =
    (pieces? rest).map fun (pieces, rest) => (piece :: pieces, rest)
  joined : ∀ pieces, joinPieces? (piece :: pieces) = (joinPieces? pieces).map (c :: ·)

theorem pieces?_escaped {letter c : Char} (known : escaped? letter = some c)
    (rest : List Char) :
    pieces? ('\\' :: letter :: rest) =
      (pieces? rest).map fun (pieces, rest) => (.character c :: pieces, rest) := by
  rw [pieces?]
  · rw [known]
    cases pieces? rest <;> rfl
  · intro a b c' d others same
    rw [same] at known
    cases known

theorem pieces?_unit {a b c d : Char} {code : Nat} (known : unit? a b c d = some code)
    (rest : List Char) :
    pieces? ('\\' :: 'u' :: a :: b :: c :: d :: rest) =
      (pieces? rest).map fun (pieces, rest) => (.unit code :: pieces, rest) := by
  rw [pieces?, known]
  cases pieces? rest <;> rfl

theorem pieces?_plain {c : Char} (noQuote : c ≠ '"') (noBackslash : c ≠ '\\')
    (visible : ¬c.toNat < 0x20) (rest : List Char) :
    pieces? (c :: rest) =
      (pieces? rest).map fun (pieces, rest) => (.character c :: pieces, rest) := by
  rw [pieces?, if_neg visible]
  · cases pieces? rest <;> rfl
  · exact noQuote
  · intro a b c' d others backslash
    exact (noBackslash backslash).elim
  · intro c' others backslash
    exact (noBackslash backslash).elim

theorem joinPieces?_character (c : Char) (pieces : List Piece) :
    joinPieces? (.character c :: pieces) = (joinPieces? pieces).map (c :: ·) :=
  rfl

/-- The unit of a control character is no half of a surrogate pair. -/
theorem joinPieces?_unit {code : Nat} (small : code < 0x20) (pieces : List Piece) :
    joinPieces? (.unit code :: pieces) = (joinPieces? pieces).map (Char.ofNat code :: ·) := by
  have noHigh : isHighSurrogate code = false := by
    simp only [isHighSurrogate, Bool.and_eq_false_iff, decide_eq_false_iff_not]
    omega
  have noLow : isLowSurrogate code = false := by
    simp only [isLowSurrogate, Bool.and_eq_false_iff, decide_eq_false_iff_not]
    omega
  cases pieces with
  | nil => simp [joinPieces?, noHigh, noLow]
  | cons next pieces =>
      cases next with
      | character c => simp [joinPieces?, noHigh, noLow]
      | unit low => simp [joinPieces?, noHigh, noLow]

/-- The four digits that a control character is escaped with. -/
theorem unit?_hexDigit {code : Nat} (small : code < 0x20) :
    unit? '0' '0' (hexDigit (code / 16)) (hexDigit (code % 16)) = some code := by
  have digits : ∀ code < 0x20,
      unit? '0' '0' (hexDigit (code / 16)) (hexDigit (code % 16)) = some code := by decide
  exact digits code small

/-- The characters that are escaped by one letter. -/
def shortEscapes : List Char :=
  ['"', '\\', '\n', '\r', '\t', '\x08', '\x0c']

theorem escape_of_mem {c : Char} (short : c ∈ shortEscapes) :
    ∃ letter, escape c = ['\\', letter] ∧ escaped? letter = some c := by
  simp only [shortEscapes, List.mem_cons, List.not_mem_nil, or_false] at short
  rcases short with rfl | rfl | rfl | rfl | rfl | rfl | rfl <;> exact ⟨_, rfl, rfl⟩

theorem escape_of_not_mem {c : Char} (long : c ∉ shortEscapes) :
    escape c =
      if c.toNat < 0x20 then
        ['\\', 'u', '0', '0', hexDigit (c.toNat / 16), hexDigit (c.toNat % 16)]
      else [c] := by
  simp only [shortEscapes, List.mem_cons, List.not_mem_nil, or_false, not_or] at long
  obtain ⟨quote, backslash, lineFeed, carriageReturn, tab, backspace, formFeed⟩ := long
  rw [escape, if_neg quote, if_neg backslash, if_neg lineFeed, if_neg carriageReturn,
    if_neg tab, if_neg backspace, if_neg formFeed]

/-- Every character is written as one piece. -/
theorem exists_piece_writes (c : Char) : ∃ piece : Piece, piece.Writes c := by
  by_cases short : c ∈ shortEscapes
  · obtain ⟨letter, escapes, known⟩ := escape_of_mem short
    refine ⟨.character c, fun rest => ?_, joinPieces?_character c⟩
    rw [escapes]
    exact pieces?_escaped known rest
  · have escapes := escape_of_not_mem short
    by_cases control : c.toNat < 0x20
    · rw [if_pos control] at escapes
      refine ⟨.unit c.toNat, fun rest => ?_, fun pieces => ?_⟩
      · rw [escapes]
        exact pieces?_unit (unit?_hexDigit control) rest
      · rw [joinPieces?_unit control, Char.ofNat_toNat]
    · rw [if_neg control] at escapes
      refine ⟨.character c, fun rest => ?_, joinPieces?_character c⟩
      rw [escapes]
      apply pieces?_plain _ _ control
      · rintro rfl
        exact short (by decide)
      · rintro rfl
        exact short (by decide)

theorem pieces?_escape (content rest : List Char) :
    ∃ pieces, pieces? (content.flatMap escape ++ '"' :: rest) = some (pieces, rest) ∧
      joinPieces? pieces = some content := by
  induction content with
  | nil => exact ⟨[], rfl, rfl⟩
  | cons c content induction =>
      obtain ⟨pieces, read, joined⟩ := induction
      obtain ⟨piece, writes⟩ := exists_piece_writes c
      refine ⟨piece :: pieces, ?_, ?_⟩
      · rw [List.flatMap_cons, List.append_assoc, writes.read, read]
        rfl
      · rw [writes.joined, joined]
        rfl

/-- A string is read back up to its closing quote, whatever characters it holds. -/
theorem string?_escape (content : String) (rest : List Char) :
    string? (content.toList.flatMap escape ++ '"' :: rest) = some (content, rest) := by
  obtain ⟨pieces, read, joined⟩ := pieces?_escape content.toList rest
  rw [string?, read]
  dsimp only
  rw [joined, Option.map_some, String.ofList_toList]

/-! ## Tokens -/

/-- Whether a token, if it is a number, is read back from its text. -/
def Token.FitsWord : Token → Prop
  | .number value => value.FitsWord
  | _ => True

/-- Whether a token ends where its text ends, whatever follows it. -/
def Token.endsItself : Token → Bool
  | .number _ => false
  | _ => true

/-- The characters that the tokens other than numbers begin with. -/
def tokenHeads : List Char :=
  ['{', '}', '[', ']', ',', ':', 'n', 't', 'f', '"']

theorem not_mem_tokenHeads {c : Char} (head : c = '-' ∨ c.isDigit = true) : c ∉ tokenHeads := by
  intro other
  have noNumber : tokenHeads.all (fun c => c != '-' && !c.isDigit) = true := by decide
  have apart := List.all_eq_true.mp noNumber c other
  rw [Bool.and_eq_true, bne_iff_ne, Bool.not_eq_true'] at apart
  rcases head with minus | digit
  · exact apart.1 minus
  · rw [apart.2] at digit
    cases digit

theorem isSpace_eq_false {c : Char} (head : c = '-' ∨ c.isDigit = true) : isSpace c = false := by
  rw [Bool.eq_false_iff]
  intro space
  simp only [isSpace, Bool.or_eq_true, decide_eq_true_eq] at space
  rcases space with ((rfl | rfl) | rfl) | rfl <;> revert head <;> decide

theorem Token.fitsWord_of_endsItself {token : Token} (ends : token.endsItself = true) :
    token.FitsWord := by
  cases token with
  | number value => cases ends
  | _ => trivial

theorem Number.exists_cons_spelling {value : Number} (fits : value.FitsWord) :
    ∃ c others, value.spelling = c :: others ∧ (c = '-' ∨ c.isDigit = true) := by
  cases value with
  | whole magnitude =>
      cases digits : numeral magnitude with
      | nil => exact (Text.numeral_ne_nil magnitude digits).elim
      | cons c others =>
          have isDigit : c.isDigit = true :=
            Text.isDigit_of_mem_numeral (digits ▸ List.mem_cons_self)
          exact ⟨c, others, digits, Or.inr isDigit⟩
  | negative magnitude => exact ⟨'-', numeral magnitude, rfl, Or.inl rfl⟩
  | decimal literal => exact fits.elim

/-- What begins like no other token is read as a number. -/
theorem token?_of_not_mem {c : Char} (number : c ∉ tokenHeads) (text : List Char) :
    token? (c :: text) =
      (number? (c :: text)).map fun (number, rest) => (.number number, rest) := by
  simp only [tokenHeads, List.mem_cons, List.not_mem_nil, or_false, not_or] at number
  rw [token?]
  all_goals simp_all

theorem token?_spelling {token : Token} (fits : token.FitsWord)
    (ends : token.endsItself = true ∨ endsNumber rest = true) :
    token? (token.spelling ++ rest) = some (token, rest) := by
  cases token with
  | number value =>
      have ends' : endsNumber rest = true := ends.resolve_left Bool.false_ne_true
      obtain ⟨c, others, spelling, head⟩ := value.exists_cons_spelling fits
      have read := number?_spelling fits ends'
      rw [spelling, List.cons_append] at read
      rw [Token.spelling, spelling, List.cons_append,
        token?_of_not_mem (not_mem_tokenHeads head), read]
      rfl
  | text content =>
      rw [Token.spelling, quoted, List.append_assoc, List.cons_append, token?]
      exact congrArg (Option.map _) (string?_escape content rest)
  | boolean flag => cases flag <;> rfl
  | _ => rfl

/-- The text of a token begins with something other than white space. -/
theorem exists_cons_spelling {token : Token} (fits : token.FitsWord) :
    ∃ c others, token.spelling = c :: others ∧ isSpace c = false := by
  cases token with
  | number value =>
      obtain ⟨c, others, spelling, head⟩ := value.exists_cons_spelling fits
      exact ⟨c, others, spelling, isSpace_eq_false head⟩
  | boolean flag => cases flag <;> exact ⟨_, _, rfl, rfl⟩
  | _ => exact ⟨_, _, rfl, rfl⟩

/-- A text and its tokens, as every attempt with enough fuel finds them. -/
def Reads (text : List Char) (tokens : List Token) : Prop :=
  ∀ fuel, text.length ≤ fuel → tokensWithin? fuel text = some tokens

theorem reads_nil : Reads [] [] := by
  intro fuel _
  rw [tokensWithin?]

theorem Reads.tokens? {text : List Char} {tokens : List Token} (reads : Reads text tokens) :
    Json.tokens? text = some tokens :=
  reads text.length (Nat.le_refl _)

/-- A token before a text that is read. -/
theorem Reads.cons {token : Token} {tokens : List Token} (reads : Reads rest tokens)
    (fits : token.FitsWord) (ends : token.endsItself = true ∨ endsNumber rest = true) :
    Reads (token.spelling ++ rest) (token :: tokens) := by
  intro fuel enough
  obtain ⟨c, others, spelling, noSpace⟩ := exists_cons_spelling fits
  have read := token?_spelling fits ends
  rw [spelling, List.cons_append] at enough read ⊢
  cases fuel with
  | zero => cases enough
  | succ fuel =>
      have enoughRest : rest.length ≤ fuel := by
        rw [List.length_cons, List.length_append] at enough
        omega
      rw [tokensWithin?, if_neg (Bool.eq_false_iff.mp noSpace), read]
      dsimp only
      rw [reads fuel enoughRest]
      rfl

end Playback.Json
