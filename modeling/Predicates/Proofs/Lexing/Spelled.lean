/-
This file shows that the spelling of a token is read as that token when a blank or the end of the
text follows it.
-/

import Predicates.Expression.LexemeSplit
import Predicates.Proofs.Number.Positional

namespace Predicates

/-- A name starts with a letter or a low line, continues with these and digits, and is no keyword in
any letter case. -/
def IsName (name : String) : Prop :=
  ∃ first rest, name.toList = first :: rest ∧ Lexeme.startsWord first = true ∧
    (∀ character ∈ rest, Lexeme.continuesWord character = true) ∧
    ∀ keyword ∈ Lexeme.keywords, keyword.1 ≠ name.toList.map Char.toLower

/-- These numbers have a spelling. An integer has a limited number of digits, and a binary number
has no sign. -/
def Literal.IsSpellable : Literal → Prop
  | .integer value => value < 10 ^ digitLimit
  | .binary value => value = .infinity false ∨ ∃ magnitude, value = .finite false magnitude
  | _ => True

/-- These tokens have a spelling. -/
def TokenForm.IsSpellable : TokenForm → Prop
  | .literal value => value.IsSpellable
  | .identifier name => IsName name
  | .stop => False
  | _ => True

namespace LexemeClass

/-- A lexeme of the class can start with the character. -/
def startsWith : LexemeClass → Char → Bool
  | .blank, character => isBlank character
  | .token (.fixed first _ _), character => first = character
  | .token .fraction, character => isDecimalDigit character
  | .token .whole, character => isDecimalDigit character
  | .token (.quoted mark), character => character = mark
  | .token .word, character => Lexeme.startsWord character

theorem run?_eq_none {belongs : Char → Bool} {first : Char} {text : List Char}
    (outside : belongs first = false) : Lexeme.run? belongs (first :: text) = none := by
  simp [Lexeme.run?, outside]

theorem take?_eq_none {lexemeClass : LexemeClass} {first : Char} {text : List Char}
    (other : lexemeClass.startsWith first = false) : lexemeClass.take? (first :: text) = none := by
  cases lexemeClass with
  | blank => exact run?_eq_none other
  | token tokenClass =>
      cases tokenClass with
      | fixed expected others form =>
          have different : expected ≠ first := by simpa [startsWith] using other
          simp [take?, TokenClass.take?, Lexeme.fixed?, different]
      | fraction =>
          have none : Lexeme.run? isDecimalDigit (first :: text) = none := run?_eq_none other
          simp [take?, TokenClass.take?, Lexeme.fraction?, none]
      | whole => exact run?_eq_none other
      | quoted mark =>
          have different : first ≠ mark := by simpa [startsWith] using other
          simp [take?, TokenClass.take?, Lexeme.quoted?, different]
      | word =>
          have outside : Lexeme.startsWord first = false := other
          simp [take?, TokenClass.take?, Lexeme.word?, outside]

/-- A class decides the lexeme when it takes one and those before it take none. -/
theorem first?_of_split {before after : List LexemeClass} {lexemeClass : LexemeClass}
    {text : List Char} {split : Lexeme.Split} (order : all = before ++ lexemeClass :: after)
    (refused : ∀ earlier ∈ before, earlier.take? text = none)
    (taken : lexemeClass.take? text = some split) :
    first? text = some (lexemeClass, split) := by
  have none : before.findSome? (fun earlier =>
      (earlier.take? text).map fun split => (earlier, split)) = none := by
    rw [List.findSome?_eq_none_iff]
    intro earlier member
    rw [refused earlier member, Option.map_none]
  rw [first?, order, List.findSome?_append, none, List.findSome?_cons, taken]
  rfl

/-- So many classes start with other characters. -/
def othersStart (count : Nat) (first : Char) : Bool :=
  (all.take count).all fun earlier => !earlier.startsWith first

/-- The first class holds the blanks. -/
theorem isBlank_of_othersStart {count : Nat} {first : Char}
    (others : othersStart (count + 1) first = true) : isBlank first = false := by
  have notBlank := List.all_eq_true.mp others .blank List.mem_cons_self
  simpa [startsWith] using notBlank

theorem take?_of_othersStart {count : Nat} {first : Char} {text : List Char}
    (others : othersStart count first = true) :
    ∀ earlier ∈ all.take count, earlier.take? (first :: text) = none := by
  intro earlier member
  have other := List.all_eq_true.mp others earlier member
  exact take?_eq_none (by simpa using other)

end LexemeClass

namespace Lexeme

/-- A blank or the end of the text ends every token but a quoted one. -/
def Ends (rest : List Char) : Prop :=
  ∀ character ∈ rest.head?, isBlank character = true

instance (rest : List Char) : Decidable (Ends rest) :=
  decidable_of_iff (rest.head?.all isBlank = true) (Option.all_eq_true _ _)

end Lexeme

/-- The text behind a lexeme of the class does not belong to it. Only an equality sign can make another
sign of a sign, and a quoted text ends in itself. -/
def TokenClass.Apart : TokenClass → List Char → Prop
  | .fixed first [] _, rest => ∀ longer, .token (.fixed first ['='] longer) ∈ LexemeClass.all →
    ∀ character ∈ rest.head?, character ≠ '='
  | .fixed .., _ => True
  | .fraction, rest => ∀ character ∈ rest.head?, isDecimalDigit character = false
  | .whole, rest => (∀ character ∈ rest.head?, isDecimalDigit character = false) ∧
    ∀ places, rest = '.' :: places → ∀ character ∈ places.head?, isDecimalDigit character = false
  | .quoted _, _ => True
  | .word, rest => ∀ character ∈ rest.head?, Lexeme.continuesWord character = false

namespace Lexeme

variable {text rest : List Char} {first : Char}

theorem Ends.refuses {belongs : Char → Bool} (ends : Ends rest)
    (notBlank : ∀ character, belongs character = true → isBlank character = false) :
    ∀ character ∈ rest.head?, belongs character = false := by
  intro character member
  by_contra inside
  have different := notBlank character (by simpa using inside)
  rw [ends character member] at different
  cases different

theorem run?_append_of_ends {belongs : Char → Bool} {taken : List Char} (some : taken ≠ [])
    (inside : ∀ character ∈ taken, belongs character = true)
    (ends : ∀ character ∈ rest.head?, belongs character = false) :
    run? belongs (taken ++ rest) = .some (taken, rest) := by
  obtain ⟨same, behind⟩ := span_run inside ends
  rw [run?, same, behind]
  cases taken with
  | nil => exact absurd rfl some
  | cons first others => rfl

theorem toNat_lt_of_startsWord (starts : startsWord first = true) : first.toNat < 128 := by
  have either : (first.isUpper || first.isLower || decide (first = '_')) = true := starts
  rcases Bool.or_eq_true_iff.mp either with letter | underscore
  · rcases Bool.or_eq_true_iff.mp letter with upper | lower
    · have most : 'A'.val ≤ first.val ∧ first.val ≤ 'Z'.val := of_decide_eq_true upper
      exact Nat.lt_of_le_of_lt (UInt32.le_iff_toNat_le.mp most.2) (by decide)
    · have most := of_decide_eq_true (Bool.and_eq_true_iff.mp lower).2
      exact Nat.lt_of_le_of_lt (UInt32.le_iff_toNat_le.mp most) (by decide)
  · rw [of_decide_eq_true underscore]
    decide

/-- Only words start with a letter or a low line. -/
theorem othersStart_word (starts : startsWord first = true) :
    LexemeClass.othersStart 17 first = true := by
  have checked : ∀ code < 128, startsWord (Char.ofNat code) = true →
      LexemeClass.othersStart 17 (Char.ofNat code) = true := by
    decide +kernel
  exact holds_of_basicLatin
    (fun first => startsWord first = true → LexemeClass.othersStart 17 first = true)
    (toNat_lt_of_startsWord starts) checked starts

/-- Neither blanks nor signs start with a digit. -/
theorem othersStart_digit (digit : isDecimalDigit first = true) :
    LexemeClass.othersStart 13 first = true := by
  have checked : ∀ start ∈ digitZeros, ∀ distance < 10,
      LexemeClass.othersStart 13 (Char.ofNat (start + distance)) = true := by
    decide +kernel
  exact holds_of_isDecimalDigit (fun first => LexemeClass.othersStart 13 first = true) digit checked

theorem isBlank_of_digit (character : Char) (digit : isDecimalDigit character = true) :
    isBlank character = false :=
  LexemeClass.isBlank_of_othersStart (othersStart_digit digit)

theorem isBlank_of_continuesWord (character : Char) (continues : continuesWord character = true) :
    isBlank character = false := by
  have either : character.isAlpha = true ∨ character.isDigit = true ∨ character = '_' := by
    simpa [continuesWord, Char.isAlphanum, or_assoc] using continues
  rcases either with letter | digit | underscore
  · have starts : startsWord character = true := by simp [startsWord, letter]
    exact LexemeClass.isBlank_of_othersStart (othersStart_word starts)
  · exact isBlank_of_digit character (isDecimalDigit_of_isDigit digit)
  · rw [underscore]
    decide

/-- No token but a quoted one goes on behind this place. -/
def Breaks (rest : List Char) : Prop :=
  ∀ character ∈ rest.head?, continuesWord character = false ∧ isDecimalDigit character = false ∧
    character ≠ '=' ∧ character ≠ '.'

theorem Ends.breaks (ends : Ends rest) : Breaks rest := by
  intro character member
  refine ⟨ends.refuses isBlank_of_continuesWord character member,
    ends.refuses isBlank_of_digit character member, ?_, ?_⟩
  · rintro rfl
    exact absurd (ends '=' member) (by decide)
  · rintro rfl
    exact absurd (ends '.' member) (by decide)

theorem forall_head?_append {holds : Char → Prop} {more : List Char}
    (first : ∀ character ∈ rest.head?, holds character)
    (second : ∀ character ∈ more.head?, holds character) :
    ∀ character ∈ (rest ++ more).head?, holds character := by
  cases rest with
  | nil => exact second
  | cons character rest => exact first

/-- What stands behind a lexeme and is no part of it stays apart when a break is added to its end. -/
theorem apart_append {tokenClass : TokenClass} {more : List Char} (apart : tokenClass.Apart rest)
    (breaks : Breaks more) : tokenClass.Apart (rest ++ more) := by
  cases tokenClass with
  | fixed first others form =>
      cases others with
      | nil =>
          intro longer known
          exact forall_head?_append (apart longer known) fun character member =>
            (breaks character member).2.2.1
      | cons second others => trivial
  | fraction => exact forall_head?_append apart fun character member => (breaks character member).2.1
  | whole =>
      refine ⟨forall_head?_append apart.1 fun character member => (breaks character member).2.1, ?_⟩
      intro places same
      cases rest with
      | nil =>
          rw [List.nil_append] at same
          subst same
          exact absurd rfl (breaks '.' rfl).2.2.2
      | cons point rest =>
          rw [List.cons_append, List.cons.injEq] at same
          obtain ⟨rfl, rfl⟩ := same
          exact forall_head?_append (apart.2 rest rfl) fun character member =>
            (breaks character member).2.1
  | quoted mark => trivial
  | word => exact forall_head?_append apart fun character member => (breaks character member).1

theorem Ends.apart (ends : Ends rest) (tokenClass : TokenClass) : tokenClass.Apart rest := by
  have atEnd : tokenClass.Apart [] := by
    cases tokenClass with
    | fixed first others form => cases others <;> simp [TokenClass.Apart]
    | _ => simp [TokenClass.Apart]
  exact apart_append atEnd ends.breaks

/-- A word is read to its end. -/
theorem first?_word {others : List Char} (starts : startsWord first = true)
    (continues : ∀ character ∈ others, continuesWord character = true)
    (apart : TokenClass.word.Apart rest) :
    LexemeClass.first? (first :: others ++ rest) =
      some (.token .word, (first :: others, rest)) := by
  have order : LexemeClass.all = LexemeClass.all.take 17 ++ .token .word :: [] := rfl
  obtain ⟨same, behind⟩ := span_run continues apart
  change LexemeClass.first? (first :: (others ++ rest)) = _
  apply LexemeClass.first?_of_split order
    (LexemeClass.take?_of_othersStart (othersStart_word starts))
  change word? (first :: (others ++ rest)) = _
  rw [word?, if_pos starts, same, behind]

/-- Only an equality sign behind it makes another sign of this one. -/
theorem first?_lone (count : Nat) {form : TokenForm} (longer : TokenForm)
    (order : LexemeClass.all = LexemeClass.all.take count ++
      .token (.fixed first [] form) :: LexemeClass.all.drop (count + 1))
    (others : ∀ earlier ∈ LexemeClass.all.take count, earlier.startsWith first = true →
      earlier = .token (.fixed first ['='] longer))
    (apart : (TokenClass.fixed first [] form).Apart rest) :
    LexemeClass.first? (first :: rest) = some (.token (.fixed first [] form), ([first], rest)) := by
  apply LexemeClass.first?_of_split order _ (by simp [LexemeClass.take?, TokenClass.take?, fixed?])
  intro earlier member
  cases starts : earlier.startsWith first with
  | false => exact LexemeClass.take?_eq_none starts
  | true =>
      obtain rfl := others earlier member starts
      cases rest with
      | nil => simp [LexemeClass.take?, TokenClass.take?, fixed?]
      | cons character behind =>
          have different : '=' ≠ character :=
            (apart longer (List.mem_of_mem_take member) character rfl).symm
          simp [LexemeClass.take?, TokenClass.take?, fixed?, different]

/-- A sign is read to its end. -/
theorem first?_fixed {others : List Char} {form : TokenForm}
    (known : .token (.fixed first others form) ∈ LexemeClass.all)
    (apart : (TokenClass.fixed first others form).Apart rest) :
    LexemeClass.first? (first :: others ++ rest) =
      some (.token (.fixed first others form), (first :: others, rest)) := by
  have below : isBlank '<' = false := by decide
  have above : isBlank '>' = false := by decide
  have bang : isBlank '!' = false := by decide
  simp only [LexemeClass.all, List.mem_cons, LexemeClass.token.injEq, TokenClass.fixed.injEq,
    reduceCtorEq, false_or, or_false, List.not_mem_nil] at known
  rcases known with ⟨rfl, rfl, rfl⟩ | ⟨rfl, rfl, rfl⟩ | ⟨rfl, rfl, rfl⟩ | ⟨rfl, rfl, rfl⟩ |
    ⟨rfl, rfl, rfl⟩ | ⟨rfl, rfl, rfl⟩ | ⟨rfl, rfl, rfl⟩ | ⟨rfl, rfl, rfl⟩ | ⟨rfl, rfl, rfl⟩ |
    ⟨rfl, rfl, rfl⟩ | ⟨rfl, rfl, rfl⟩ | ⟨rfl, rfl, rfl⟩
  · rfl
  · rfl
  · rfl
  · rfl
  · rfl
  · rfl
  · exact first?_lone 7 (.comparison .atMost) rfl
      (by simp [LexemeClass.all, LexemeClass.startsWith, below]) apart
  · exact first?_lone 8 (.comparison .atLeast) rfl
      (by simp [LexemeClass.all, LexemeClass.startsWith, above]) apart
  · exact first?_lone 9 (.comparison .notEqual) rfl
      (by simp [LexemeClass.all, LexemeClass.startsWith, bang]) apart
  · rfl
  · rfl
  · rfl

section Numbers

variable {digits whole places : List Char}

/-- Neither blanks nor signs take anything from a text that starts with a digit. -/
theorem refused_of_digits (some : digits ≠ [])
    (decimal : ∀ character ∈ digits, isDecimalDigit character = true) :
    ∀ earlier ∈ LexemeClass.all.take 13, earlier.take? (digits ++ rest) = none := by
  cases digits with
  | nil => exact absurd rfl some
  | cons first others =>
      exact LexemeClass.take?_of_othersStart
        (othersStart_digit (decimal first List.mem_cons_self))

/-- Digits on both sides of a point are read to their end. -/
theorem first?_fraction (wholeSome : whole ≠ [])
    (wholeDecimal : ∀ character ∈ whole, isDecimalDigit character = true) (placesSome : places ≠ [])
    (placesDecimal : ∀ character ∈ places, isDecimalDigit character = true)
    (apart : TokenClass.fraction.Apart rest) :
    LexemeClass.first? (whole ++ '.' :: places ++ rest) =
      some (.token .fraction, (whole ++ '.' :: places, rest)) := by
  have order : LexemeClass.all =
      LexemeClass.all.take 13 ++ .token .fraction :: LexemeClass.all.drop 14 := rfl
  have wholeRead := run?_append_of_ends wholeSome wholeDecimal (point_ends (places ++ rest))
  have placesRead := run?_append_of_ends placesSome placesDecimal apart
  rw [List.append_assoc, List.cons_append]
  apply LexemeClass.first?_of_split order (refused_of_digits wholeSome wholeDecimal)
  change fraction? (whole ++ '.' :: (places ++ rest)) = _
  rw [fraction?, wholeRead]
  simp only [if_true, placesRead, Option.map_some]

/-- The digits end before the rest, and the rest does not make a fraction of them. -/
structure StandsWhole (digits rest : List Char) : Prop where
  some : digits ≠ []
  decimal : ∀ character ∈ digits, isDecimalDigit character = true
  ended : ∀ character ∈ rest.head?, isDecimalDigit character = false
  noPlaces : ∀ places, rest = '.' :: places →
    ∀ character ∈ places.head?, isDecimalDigit character = false

theorem StandsWhole.of_ends (some : digits ≠ [])
    (decimal : ∀ character ∈ digits, isDecimalDigit character = true) (ends : Ends rest) :
    StandsWhole digits rest where
  some := some
  decimal := decimal
  ended := (ends.apart .whole).1
  noPlaces := (ends.apart .whole).2

theorem run?_eq_none_of_head? {belongs : Char → Bool}
    (outside : ∀ character ∈ text.head?, belongs character = false) : run? belongs text = none := by
  cases text with
  | nil => rfl
  | cons first others => exact LexemeClass.run?_eq_none (outside first rfl)

theorem StandsWhole.run? (stands : StandsWhole digits rest) :
    Lexeme.run? isDecimalDigit (digits ++ rest) = .some (digits, rest) :=
  run?_append_of_ends stands.some stands.decimal stands.ended

theorem StandsWhole.fraction? (stands : StandsWhole digits rest) :
    Lexeme.fraction? (digits ++ rest) = none := by
  rw [Lexeme.fraction?, stands.run?]
  cases rest with
  | nil => rfl
  | cons point places =>
      by_cases same : point = '.'
      · have noPlaces := run?_eq_none_of_head? (stands.noPlaces places (by rw [same]))
        simp only [same, if_true, noPlaces, Option.map_none]
      · simp only [same, if_false]

/-- Digits are read to their end. -/
theorem first?_whole (stands : StandsWhole digits rest) :
    LexemeClass.first? (digits ++ rest) = some (.token .whole, (digits, rest)) := by
  have order : LexemeClass.all =
      (LexemeClass.all.take 13 ++ [.token .fraction]) ++
        .token .whole :: LexemeClass.all.drop 15 := rfl
  apply LexemeClass.first?_of_split order _ stands.run?
  intro earlier member
  rcases List.mem_append.mp member with earlierClass | fraction
  · exact refused_of_digits stands.some stands.decimal earlier earlierClass
  · rw [List.mem_singleton.mp fraction]
    exact stands.fraction?

end Numbers

section Quotes

theorem escapeInQuotes_cases (character : Char) :
    escapeInQuotes character = [Quoted.escapeMark, character] ∧
        (character = Quoted.doubleMark ∨ character = Quoted.escapeMark) ∨
      escapeInQuotes character = [character] ∧ character ≠ Quoted.doubleMark ∧
        character ≠ Quoted.escapeMark := by
  by_cases special : character = Quoted.doubleMark ∨ character = Quoted.escapeMark
  · left
    exact ⟨by rcases special with rfl | rfl <;> rfl, special⟩
  · right
    rw [not_or] at special
    exact ⟨by simp [escapeInQuotes, special], special⟩

theorem quotedBody?_closing (mark : Char) (text : List Char) :
    quotedBody? mark (mark :: text) = some ([], text) := by
  rw [quotedBody?.eq_def]
  simp

theorem quotedBody?_escape {mark character : Char} (notMark : Quoted.escapeMark ≠ mark)
    (notFeed : character ≠ '\n') (text : List Char) :
    quotedBody? mark (Quoted.escapeMark :: character :: text) =
      (quotedBody? mark text).map fun split =>
        (Quoted.escapeMark :: character :: split.1, split.2) := by
  rw [quotedBody?.eq_def]
  simp [notMark, notFeed]

theorem quotedBody?_plain {mark character : Char} (notMark : character ≠ mark)
    (notEscape : character ≠ Quoted.escapeMark) (text : List Char) :
    quotedBody? mark (character :: text) =
      (quotedBody? mark text).map fun split => (character :: split.1, split.2) := by
  rw [quotedBody?.eq_def]
  simp [notMark, notEscape]

/-- The escapes inside quotation marks keep the closing mark apart. -/
theorem quotedBody?_escaped (characters rest : List Char) :
    quotedBody? Quoted.doubleMark
        (characters.flatMap escapeInQuotes ++ Quoted.doubleMark :: rest) =
      some (characters.flatMap escapeInQuotes, rest) := by
  induction characters with
  | nil => exact quotedBody?_closing Quoted.doubleMark rest
  | cons character characters inductionHypothesis =>
      rw [List.flatMap_cons, List.append_assoc]
      rcases escapeInQuotes_cases character with ⟨escaped, special⟩ | ⟨plain, notClosing, notEscape⟩
      · have notFeed : character ≠ '\n' := by
          rcases special with rfl | rfl <;> decide
        rw [escaped, List.cons_append, List.cons_append, List.nil_append,
          quotedBody?_escape (by decide) notFeed, inductionHypothesis]
        rfl
      · rw [plain, List.cons_append, List.nil_append, quotedBody?_plain notClosing notEscape,
          inductionHypothesis]
        rfl

theorem unescape_plain {character : Char} (plain : character ≠ Quoted.escapeMark)
    (characters : List Char) :
    unescape (character :: characters) = character :: unescape characters := by
  cases characters with
  | nil => rfl
  | cons next characters => rw [unescape, if_neg plain]

theorem unescape_escaped (characters : List Char) :
    unescape (characters.flatMap escapeInQuotes) = characters := by
  induction characters with
  | nil => rfl
  | cons character characters inductionHypothesis =>
      rw [List.flatMap_cons]
      rcases escapeInQuotes_cases character with ⟨escaped, special⟩ | ⟨plain, notClosing, notEscape⟩
      · have itself : escapedCharacter character = character := by
          rcases special with rfl | rfl <;> decide
        rw [escaped, List.cons_append, List.cons_append, List.nil_append, unescape, if_pos rfl,
          itself, inductionHypothesis]
      · rw [plain, List.cons_append, List.nil_append, unescape_plain notEscape, inductionHypothesis]

/-- A quoted text is read to its closing mark, whatever follows. -/
theorem first?_quoted {mark : Char} {body : List Char}
    (known : .token (.quoted mark) ∈ LexemeClass.all)
    (closed : quotedBody? mark (body ++ mark :: rest) = some (body, rest)) :
    LexemeClass.first? (mark :: body ++ [mark] ++ rest) =
      some (.token (.quoted mark), (mark :: body ++ [mark], rest)) := by
  have taken : quoted? mark (mark :: (body ++ mark :: rest)) =
      some (mark :: body ++ [mark], rest) := by
    rw [quoted?, if_pos rfl, closed]
    rfl
  have either : mark = Quoted.doubleMark ∨ mark = Quoted.singleMark := by
    simpa [LexemeClass.all] using known
  rw [List.cons_append, List.cons_append, List.append_assoc, List.singleton_append]
  rcases either with rfl | rfl
  · have order : LexemeClass.all = LexemeClass.all.take 15 ++
        .token (.quoted Quoted.doubleMark) :: LexemeClass.all.drop 16 := rfl
    have others : LexemeClass.othersStart 15 Quoted.doubleMark = true := by decide
    exact LexemeClass.first?_of_split order (LexemeClass.take?_of_othersStart others) taken
  · have order : LexemeClass.all = LexemeClass.all.take 16 ++
        .token (.quoted Quoted.singleMark) :: LexemeClass.all.drop 17 := rfl
    have others : LexemeClass.othersStart 16 Quoted.singleMark = true := by decide
    exact LexemeClass.first?_of_split order (LexemeClass.take?_of_othersStart others) taken

end Quotes

end Lexeme

namespace TokenForm

/-- The reader takes the lexeme for a token of the form and stops before the rest. -/
def IsReadAs (form : TokenForm) (lexeme rest : List Char) : Prop :=
  ∃ tokenClass, LexemeClass.first? (lexeme ++ rest) = some (.token tokenClass, (lexeme, rest)) ∧
    tokenClass.form? lexeme = some form

variable {rest : List Char}

theorem isReadAs_fixed {form : TokenForm} (first : Char) (others : List Char)
    (known : .token (.fixed first others form) ∈ LexemeClass.all)
    (apart : (TokenClass.fixed first others form).Apart rest) :
    form.IsReadAs (first :: others) rest :=
  ⟨.fixed first others form, Lexeme.first?_fixed known apart, rfl⟩

theorem isReadAs_word {form : TokenForm} {first : Char} {others : List Char}
    (starts : Lexeme.startsWord first = true)
    (continues : others.all Lexeme.continuesWord = true)
    (ends : Lexeme.Ends rest) (same : Lexeme.wordForm (first :: others) = form) :
    form.IsReadAs (first :: others) rest :=
  ⟨.word, Lexeme.first?_word starts (List.all_eq_true.mp continues) (ends.apart .word),
    congrArg some same⟩

theorem isReadAs_literal {value : Literal} (spellable : value.IsSpellable)
    (ends : Lexeme.Ends rest) :
    (TokenForm.literal value).IsReadAs value.spelled rest := by
  cases value with
  | null => exact isReadAs_word (by decide) (by decide) ends (by decide)
  | bool truth => cases truth <;> exact isReadAs_word (by decide) (by decide) ends (by decide)
  | integer number =>
      have some : Nat.toDigits 10 number ≠ [] := List.ne_nil_of_length_pos Nat.length_toDigits_pos
      have decimal (character) (member : character ∈ Nat.toDigits 10 number) :
          isDecimalDigit character = true :=
        isDecimalDigit_of_isDigit (Nat.isDigit_of_mem_toDigits (by decide) (by decide) member)
      have few : (Nat.toDigits 10 number).length ≤ digitLimit :=
        (Nat.length_toDigits_le_iff (by decide) (by decide)).mpr spellable
      refine ⟨.whole, Lexeme.first?_whole (.of_ends some decimal ends), ?_⟩
      rw [TokenClass.form?, Literal.spelled, if_neg (Nat.not_lt.mpr few), digitsValue_toDigits]
  | binary number =>
      obtain ⟨whole, places, value, split, written, same⟩ := Binary64.exists_spelled spellable
      rw [Literal.spelled, split]
      have read := Lexeme.first?_fraction written.wholeSome
        (fun character member => isDecimalDigit_of_isDigit (written.wholeDigits character member))
        written.placesSome
        (fun character member => isDecimalDigit_of_isDigit (written.placesDigits character member))
        (ends.apart .fraction)
      exact ⟨.fraction, read, congrArg (fun number => some (TokenForm.literal (.binary number))) same⟩
  | string text =>
      have known : .token (.quoted Quoted.doubleMark) ∈ LexemeClass.all := by simp [LexemeClass.all]
      refine ⟨.quoted Quoted.doubleMark,
        Lexeme.first?_quoted known (Lexeme.quotedBody?_escaped text.toList rest), ?_⟩
      rw [TokenClass.form?, Literal.spelled, List.cons_append, List.drop_succ_cons, List.drop_zero,
        List.dropLast_concat, Lexeme.unescape_escaped, String.ofList_toList]

theorem isReadAs_identifier {name : String} (isName : IsName name) (ends : Lexeme.Ends rest) :
    (TokenForm.identifier name).IsReadAs name.toList rest := by
  obtain ⟨first, others, split, starts, continues, notKeyword⟩ := isName
  rw [split] at notKeyword ⊢
  apply isReadAs_word starts (List.all_eq_true.mpr continues) ends
  have missing : Lexeme.keywords.lookup ((first :: others).map Char.toLower) = none := by
    rw [List.lookup_eq_none_iff]
    intro keyword member
    simpa using (notKeyword keyword member).symm
  rw [Lexeme.wordForm, missing, ← split, String.ofList_toList]
  rfl

/-- The spelling of a token is read as the token. -/
theorem isReadAs_spelled {form : TokenForm} (spellable : form.IsSpellable)
    (ends : Lexeme.Ends rest) : form.IsReadAs form.spelled rest := by
  cases form with
  | literal value => exact isReadAs_literal spellable ends
  | identifier name => exact isReadAs_identifier spellable ends
  | comparison operator =>
      cases operator with
      | equal => exact isReadAs_fixed '=' ['='] (by simp [LexemeClass.all]) (ends.apart _)
      | notEqual => exact isReadAs_fixed '!' ['='] (by simp [LexemeClass.all]) (ends.apart _)
      | below => exact isReadAs_fixed '<' [] (by simp [LexemeClass.all]) (ends.apart _)
      | atMost => exact isReadAs_fixed '<' ['='] (by simp [LexemeClass.all]) (ends.apart _)
      | above => exact isReadAs_fixed '>' [] (by simp [LexemeClass.all]) (ends.apart _)
      | atLeast => exact isReadAs_fixed '>' ['='] (by simp [LexemeClass.all]) (ends.apart _)
  | connective operation spelling =>
      cases spelling with
      | symbol =>
          cases operation with
          | and => exact isReadAs_fixed '&' ['&'] (by simp [LexemeClass.all]) (ends.apart _)
          | or => exact isReadAs_fixed '|' ['|'] (by simp [LexemeClass.all]) (ends.apart _)
      | word => cases operation <;> exact isReadAs_word (by decide) (by decide) ends (by decide)
  | not spelling =>
      cases spelling with
      | symbol => exact isReadAs_fixed '!' [] (by simp [LexemeClass.all]) (ends.apart _)
      | word => exact isReadAs_word (by decide) (by decide) ends (by decide)
  | minus => exact isReadAs_fixed '-' [] (by simp [LexemeClass.all]) (ends.apart _)
  | opening => exact isReadAs_fixed '(' [] (by simp [LexemeClass.all]) (ends.apart _)
  | closing => exact isReadAs_fixed ')' [] (by simp [LexemeClass.all]) (ends.apart _)
  | stop => exact spellable.elim

end TokenForm

end Predicates
