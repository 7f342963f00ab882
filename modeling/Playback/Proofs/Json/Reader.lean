import Playback.Json.Reader
import Playback.Proofs.Json.Token

/-!
# Values are read as they were written

What is printed is read back as the same value, if its numbers are written with digits that fit
64 bits and it is not nested too deep.  The two halves of reading are shown one after the other:
the text of the tokens of a value is cut into these tokens again, and the tokens are put
together to the value.
-/

namespace Playback.Json

/--
A value that is read back from its text: numbers are digits that fit 64 bits, and arrays and
objects are nested at most `nesting` deep.
-/
inductive Value.Readable : (nesting : Nat) → Value → Prop
  | null {nesting : Nat} : Readable nesting .null
  | boolean {nesting : Nat} (flag : Bool) : Readable nesting (.boolean flag)
  | number {nesting : Nat} {value : Number} (fits : value.FitsWord) :
      Readable nesting (.number value)
  | text {nesting : Nat} (content : String) : Readable nesting (.text content)
  | array {nesting : Nat} {items : List Value}
      (readable : ∀ item ∈ items, Readable nesting item) :
      Readable (nesting + 1) (.array items)
  | object {nesting : Nat} {members : Members}
      (readable : ∀ member ∈ members, Readable nesting member.2) :
      Readable (nesting + 1) (.object members)

variable {nesting : Nat} {value : Value}

/-! ## From text to tokens -/

/-- Tokens that are read from their text, before any other text that ends a number. -/
def Legible (written : List Token) : Prop :=
  ∀ ⦃rest : List Char⦄ ⦃tokens : List Token⦄, Reads rest tokens → endsNumber rest = true →
    Reads (written.flatMap Token.spelling ++ rest) (written ++ tokens)

theorem legible_nil : Legible [] := by
  intro rest tokens reads _
  exact reads

theorem legible_singleton (token : Token) (fits : token.FitsWord) : Legible [token] := by
  intro rest tokens reads ends
  rw [List.flatMap_singleton]
  exact reads.cons fits (Or.inr ends)

theorem Legible.cons {token : Token} {written : List Token} (legible : Legible written)
    (ends : token.endsItself = true) : Legible (token :: written) := by
  intro rest tokens reads endsRest
  rw [List.flatMap_cons, List.append_assoc]
  exact (legible reads endsRest).cons (Token.fitsWord_of_endsItself ends) (Or.inl ends)

/-- A token that ends by itself also ends a number before it. -/
theorem endsNumber_spelling {token : Token} (ends : token.endsItself = true)
    (rest : List Char) : endsNumber (token.spelling ++ rest) = true := by
  cases token with
  | number value => cases ends
  | boolean flag => cases flag <;> rfl
  | _ => rfl

theorem Legible.append {token : Token} {left right : List Token} (legible : Legible left)
    (legibleRight : Legible (token :: right)) (ends : token.endsItself = true) :
    Legible (left ++ token :: right) := by
  intro rest tokens reads endsRest
  rw [List.flatMap_append, List.append_assoc, List.append_assoc]
  refine legible (legibleRight reads endsRest) ?_
  rw [List.flatMap_cons, List.append_assoc]
  exact endsNumber_spelling ends _

theorem legible_itemTokens {items : List Value} (legible : ∀ item ∈ items, Legible item.tokens) :
    Legible (itemTokens items) := by
  induction items with
  | nil => exact legible_nil
  | cons item items induction =>
      have first := legible item List.mem_cons_self
      have others := induction fun other member => legible other (List.mem_cons_of_mem _ member)
      cases items with
      | nil => exact first
      | cons next items =>
          rw [itemTokens]
          exact first.append (others.cons rfl) rfl

theorem legible_memberTokens {members : Members}
    (legible : ∀ member ∈ members, Legible member.2.tokens) :
    Legible (memberTokens members) := by
  induction members with
  | nil => exact legible_nil
  | cons member members induction =>
      obtain ⟨key, value⟩ := member
      have first : Legible value.tokens := legible (key, value) List.mem_cons_self
      have others := induction fun other member => legible other (List.mem_cons_of_mem _ member)
      cases members with
      | nil =>
          rw [memberTokens]
          have named : Legible (.colon :: value.tokens) := first.cons rfl
          exact named.cons rfl
      | cons next members =>
          rw [memberTokens]
          have listed : Legible (value.tokens ++ .comma :: memberTokens (next :: members)) :=
            first.append (others.cons rfl) rfl
          have named :
              Legible (.colon :: (value.tokens ++ .comma :: memberTokens (next :: members))) :=
            listed.cons rfl
          exact named.cons rfl

theorem Value.Readable.legible (readable : value.Readable nesting) : Legible value.tokens := by
  induction readable with
  | null => exact legible_singleton .null trivial
  | boolean flag => exact legible_singleton (.boolean flag) trivial
  | @number _ value fits => exact legible_singleton (.number value) fits
  | text content => exact legible_singleton (.text content) trivial
  | array readable legible =>
      rw [Value.tokens]
      have closed := (legible_itemTokens legible).append (legible_singleton .closeArray trivial) rfl
      exact closed.cons rfl
  | object readable legible =>
      rw [Value.tokens]
      have closed :=
        (legible_memberTokens legible).append (legible_singleton .closeObject trivial) rfl
      exact closed.cons rfl

theorem Value.Readable.tokens? (readable : value.Readable nesting) :
    Json.tokens? value.spelling = some value.tokens := by
  have reads := readable.legible reads_nil rfl
  rw [List.append_nil, List.append_nil] at reads
  exact reads.tokens?

/-! ## From tokens to values

Fuel goes down by one from a value to its list, from a place in a list to the next, and from a place
to the value there.  Two units for each token are therefore enough, and one more for a list.
-/

/-- No item begins with the end of an array. -/
theorem itemTokens_append_ne (item : Value) (items : List Value) (rest others : List Token) :
    itemTokens (item :: items) ++ rest ≠ .closeArray :: others := by
  have first : ∀ more, item.tokens ++ more ≠ .closeArray :: others := by
    intro more
    cases item <;> simp [Value.tokens]
  cases items with
  | nil => exact first rest
  | cons next items =>
      rw [itemTokens, List.append_assoc]
      exact first _

/-- No member begins with the end of an object. -/
theorem memberTokens_append_ne (member : String × Value) (members : Members)
    (rest others : List Token) :
    memberTokens (member :: members) ++ rest ≠ .closeObject :: others := by
  cases members <;> simp [memberTokens]

/-- Every attempt with enough fuel puts the tokens of the value together to it. -/
def Regains (nesting : Nat) (value : Value) : Prop :=
  ∀ (fuel : Nat) (rest : List Token), 2 * value.tokens.length ≤ fuel →
    value? fuel nesting (value.tokens ++ rest) = some (value, rest)

theorem items?_itemTokens {items : List Value} (nonempty : items ≠ [])
    (regains : ∀ item ∈ items, Regains nesting item) (fuel : Nat) (rest : List Token)
    (enough : 2 * (itemTokens items).length < fuel) :
    items? fuel nesting (itemTokens items ++ .closeArray :: rest) = some (items, rest) := by
  induction items generalizing fuel with
  | nil => exact (nonempty rfl).elim
  | cons item items induction =>
      have first := regains item List.mem_cons_self
      have others := fun other member => regains other (List.mem_cons_of_mem item member)
      obtain ⟨fuel, rfl⟩ := Nat.exists_eq_succ_of_ne_zero (Nat.ne_zero_of_lt enough)
      cases items with
      | nil =>
          rw [itemTokens] at enough ⊢
          rw [items?, first fuel (.closeArray :: rest) (by omega)]
      | cons next items =>
          rw [itemTokens, List.length_append, List.length_cons] at enough
          rw [itemTokens, List.append_assoc, items?, first fuel _ (by omega)]
          dsimp only [List.cons_append]
          rw [induction (List.cons_ne_nil _ _) others fuel (by omega)]
          rfl

theorem members?_memberTokens {members : Members} (nonempty : members ≠ [])
    (regains : ∀ member ∈ members, Regains nesting member.2) (fuel : Nat) (rest : List Token)
    (enough : 2 * (memberTokens members).length < fuel) :
    members? fuel nesting (memberTokens members ++ .closeObject :: rest) =
      some (members, rest) := by
  induction members generalizing fuel with
  | nil => exact (nonempty rfl).elim
  | cons member members induction =>
      obtain ⟨key, value⟩ := member
      have first : Regains nesting value := regains (key, value) List.mem_cons_self
      have others := fun other member => regains other (List.mem_cons_of_mem (key, value) member)
      obtain ⟨fuel, rfl⟩ := Nat.exists_eq_succ_of_ne_zero (Nat.ne_zero_of_lt enough)
      cases members with
      | nil =>
          rw [memberTokens, List.length_cons, List.length_cons] at enough
          rw [memberTokens, List.cons_append, List.cons_append, members?,
            first fuel (.closeObject :: rest) (by omega)]
      | cons next members =>
          rw [memberTokens, List.length_cons, List.length_cons, List.length_append,
            List.length_cons] at enough
          rw [memberTokens, List.cons_append, List.cons_append, List.append_assoc, members?,
            first fuel _ (by omega)]
          dsimp only [List.cons_append]
          rw [induction (List.cons_ne_nil _ _) others fuel (by omega)]
          rfl

theorem Value.Readable.regains (readable : value.Readable nesting) : Regains nesting value := by
  induction readable with
  | @array nesting items readable regains =>
      intro fuel rest enough
      rw [Value.tokens, List.length_append, List.length_cons, List.length_singleton] at enough
      obtain ⟨fuel, rfl⟩ := Nat.exists_eq_succ_of_ne_zero (by omega : fuel ≠ 0)
      cases items with
      | nil => rfl
      | cons item items =>
          have read := items?_itemTokens (List.cons_ne_nil item items) regains
            fuel rest (by omega)
          rw [Value.tokens, List.append_assoc, List.cons_append, List.singleton_append, value?,
            read]
          · rfl
          · exact fun others => itemTokens_append_ne item items _ others
  | @object nesting members readable regains =>
      intro fuel rest enough
      rw [Value.tokens, List.length_append, List.length_cons, List.length_singleton] at enough
      obtain ⟨fuel, rfl⟩ := Nat.exists_eq_succ_of_ne_zero (by omega : fuel ≠ 0)
      cases members with
      | nil => rfl
      | cons member members =>
          have read := members?_memberTokens (List.cons_ne_nil member members) regains
            fuel rest (by omega)
          rw [Value.tokens, List.append_assoc, List.cons_append, List.singleton_append, value?,
            read]
          · rfl
          · exact fun others => memberTokens_append_ne member members _ others
  | _ =>
      intro fuel rest enough
      obtain ⟨fuel, rfl⟩ := Nat.exists_eq_succ_of_ne_zero (Nat.ne_zero_of_lt enough)
      rfl

/-- What is printed is read again as it was. -/
theorem Value.Readable.read? (readable : value.Readable maxNesting) :
    Json.read? value.spelling = some value := by
  have regained := readable.regains (2 * value.tokens.length + 1) [] (Nat.le_succ _)
  rw [List.append_nil] at regained
  rw [Json.read?, readable.tokens?, Option.bind_some, ofTokens?, regained]

end Playback.Json
