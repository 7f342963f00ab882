import Playback.Proofs.Json.Value

/-!
# Printed values are single lines

Control characters in strings are escaped, and nothing is printed between tokens, so a printed
value has no control characters at all, and no line breaks in particular.  What is said here of the
numbers of a value is said for any choice of allowed numbers: whole numbers of any size are
printed on one line, and those of 64 bits are also read again.
-/

namespace Playback.Json

/-- A value whose numbers are all allowed, with arrays and objects nested at most so deep. -/
inductive Value.Holds (allowed : Number → Prop) : (nesting : Nat) → Value → Prop
  | null {nesting : Nat} : Holds allowed nesting .null
  | boolean {nesting : Nat} (flag : Bool) : Holds allowed nesting (.boolean flag)
  | number {nesting : Nat} {value : Number} (isAllowed : allowed value) :
      Holds allowed nesting (.number value)
  | text {nesting : Nat} (content : String) : Holds allowed nesting (.text content)
  | array {nesting : Nat} {items : List Value}
      (holds : ∀ item ∈ items, Holds allowed nesting item) :
      Holds allowed (nesting + 1) (.array items)
  | object {nesting : Nat} {members : Members}
      (holds : ∀ member ∈ members, Holds allowed nesting member.2) :
      Holds allowed (nesting + 1) (.object members)

variable {allowed : Number → Prop} {nesting : Nat} {value : Value}

theorem Value.Holds.readable (holds : value.Holds Number.FitsWord nesting) :
    value.Readable nesting := by
  induction holds with
  | null => exact .null
  | boolean flag => exact .boolean flag
  | number fits => exact .number fits
  | text content => exact .text content
  | array _ readable => exact .array readable
  | object _ readable => exact .object readable

theorem Value.Holds.natural {number : Nat} (isAllowed : allowed (.whole number)) :
    (Value.natural number).Holds allowed nesting :=
  .number isAllowed

theorem Value.Holds.naturals {numbers : List Nat}
    (allAllowed : ∀ number ∈ numbers, allowed (.whole number)) :
    (Value.naturals numbers).Holds allowed (nesting + 1) := by
  refine .array fun item member => ?_
  obtain ⟨number, known, rfl⟩ := List.mem_map.mp member
  exact .natural (allAllowed number known)

theorem Value.Holds.optional {α : Type} {write : α → Value} {content : Option α}
    (holds : ∀ given ∈ content, (write given).Holds allowed nesting) :
    (Value.optional write content).Holds allowed nesting := by
  cases content with
  | none => exact .null
  | some given => exact holds given rfl

/-! ## Characters of a printed value -/

/-- Whether a text has no control characters. -/
def IsLine (text : List Char) : Prop :=
  ∀ c ∈ text, 0x20 ≤ c.toNat

instance (text : List Char) : Decidable (IsLine text) :=
  decidable_of_iff (text.all (0x20 ≤ ·.toNat) = true) (by simp [IsLine])

theorem IsLine.append {left right : List Char} (isLine : IsLine left)
    (isLineRight : IsLine right) : IsLine (left ++ right) :=
  List.forall_mem_append.mpr ⟨isLine, isLineRight⟩

theorem IsLine.not_mem {text : List Char} (isLine : IsLine text) {c : Char}
    (control : c.toNat < 0x20) : c ∉ text := by
  intro member
  have visible := isLine c member
  omega

theorem isLine_numeral (number : Nat) : IsLine (Text.numeral number) := by
  intro c member
  have digit := Text.isDigit_of_mem_numeral member
  simp only [Char.isDigit, Bool.and_eq_true, decide_eq_true_eq] at digit
  exact Nat.le_trans (by decide) digit.1

theorem isLine_escape (c : Char) : IsLine (escape c) := by
  by_cases short : c ∈ shortEscapes
  · simp only [shortEscapes, List.mem_cons, List.not_mem_nil, or_false] at short
    rcases short with rfl | rfl | rfl | rfl | rfl | rfl | rfl <;> decide
  · rw [escape_of_not_mem short]
    split
    case isTrue control =>
      have digits : ∀ code < 0x20,
          IsLine ['\\', 'u', '0', '0', hexDigit (code / 16), hexDigit (code % 16)] := by
        decide
      exact digits c.toNat control
    case isFalse visible =>
      intro d member
      rw [List.mem_singleton.mp member]
      exact Nat.le_of_not_lt visible

theorem isLine_singleton {token : Token} (isLine : IsLine token.spelling) :
    IsLine ([token].flatMap Token.spelling) := by
  rwa [List.flatMap_singleton]

theorem isLine_quoted (content : String) : IsLine (quoted content) := by
  have escaped : IsLine (content.toList.flatMap escape) := by
    intro c member
    obtain ⟨written, _, within⟩ := List.mem_flatMap.mp member
    exact isLine_escape written c within
  have opening : IsLine ['"'] := by decide
  exact opening.append (escaped.append opening)

theorem isLine_itemTokens {items : List Value} (isLine : ∀ item ∈ items, IsLine item.spelling) :
    IsLine ((itemTokens items).flatMap Token.spelling) := by
  have comma : IsLine Token.comma.spelling := by decide
  induction items with
  | nil => exact List.forall_mem_nil _
  | cons item items induction =>
      have first := isLine item List.mem_cons_self
      have others := induction fun other member => isLine other (List.mem_cons_of_mem _ member)
      cases items with
      | nil => exact first
      | cons next items =>
          rw [itemTokens, List.flatMap_append, List.flatMap_cons]
          exact first.append (comma.append others)

theorem isLine_memberTokens {members : Members}
    (isLine : ∀ member ∈ members, IsLine member.2.spelling) :
    IsLine ((memberTokens members).flatMap Token.spelling) := by
  have comma : IsLine Token.comma.spelling := by decide
  have colon : IsLine Token.colon.spelling := by decide
  induction members with
  | nil => exact List.forall_mem_nil _
  | cons member members induction =>
      obtain ⟨key, value⟩ := member
      have first : IsLine value.spelling := isLine (key, value) List.mem_cons_self
      have others := induction fun other member => isLine other (List.mem_cons_of_mem _ member)
      have named : IsLine (quoted key) := isLine_quoted key
      cases members with
      | nil =>
          rw [memberTokens, List.flatMap_cons, List.flatMap_cons]
          exact named.append (colon.append first)
      | cons next members =>
          rw [memberTokens, List.flatMap_cons, List.flatMap_cons, List.flatMap_append,
            List.flatMap_cons]
          exact named.append (colon.append (first.append (comma.append others)))

/-- A value whose numbers are printed without control characters is printed without any. -/
theorem Value.Holds.isLine (holds : value.Holds allowed nesting)
    (numbers : ∀ number, allowed number → IsLine number.spelling) : IsLine value.spelling := by
  induction holds with
  | null => decide
  | boolean flag => cases flag <;> decide
  | @number _ value isAllowed => exact isLine_singleton (numbers value isAllowed)
  | text content => exact isLine_singleton (isLine_quoted content)
  | array _ isLine =>
      have opening : IsLine Token.openArray.spelling := by decide
      have closing : IsLine Token.closeArray.spelling := by decide
      rw [Value.spelling, Value.tokens, List.flatMap_append, List.flatMap_cons]
      exact (opening.append (isLine_itemTokens isLine)).append (isLine_singleton closing)
  | object _ isLine =>
      have opening : IsLine Token.openObject.spelling := by decide
      have closing : IsLine Token.closeObject.spelling := by decide
      rw [Value.spelling, Value.tokens, List.flatMap_append, List.flatMap_cons]
      exact (opening.append (isLine_memberTokens isLine)).append (isLine_singleton closing)

end Playback.Json
