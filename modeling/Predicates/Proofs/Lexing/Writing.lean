/-
This file describes how a text can be written between quotation marks, and shows that the cursor reads
every such writing back as the text and nothing else as a text.
-/

import Predicates.Proofs.Lexing.Boundaries
import Predicates.Proofs.Lexing.Stepping

namespace Predicates

namespace Lexeme

/-- Behind the escape mark, three letters stand for a line feed, a tab and a carriage return. Any other
character stands for itself, except that a line feed cannot be escaped. -/
inductive Denotes : Char → Char → Prop where
  | lineFeed : Denotes 'n' '\n'
  | tab : Denotes 't' '\t'
  | carriageReturn : Denotes 'r' '\r'
  | itself {character : Char} (notFeed : character ≠ '\n') (other : character ∉ ['n', 't', 'r']) :
      Denotes character character

theorem denotes_iff {escaped character : Char} :
    Denotes escaped character ↔ escaped ≠ '\n' ∧ escapedCharacter escaped = character := by
  constructor
  · intro denotes
    cases denotes with
    | lineFeed => exact ⟨by decide, rfl⟩
    | tab => exact ⟨by decide, rfl⟩
    | carriageReturn => exact ⟨by decide, rfl⟩
    | itself notFeed other =>
        simp only [List.mem_cons, List.not_mem_nil, or_false, not_or] at other
        exact ⟨notFeed, by simp only [escapedCharacter, other, if_false]⟩
  · rintro ⟨notFeed, rfl⟩
    by_cases letter : escaped ∈ ['n', 't', 'r']
    · simp only [List.mem_cons, List.not_mem_nil, or_false] at letter
      rcases letter with rfl | rfl | rfl
      · exact .lineFeed
      · exact .tab
      · exact .carriageReturn
    · have itself : escapedCharacter escaped = escaped := by
        simp only [List.mem_cons, List.not_mem_nil, or_false, not_or] at letter
        simp only [escapedCharacter, letter, if_false]
      rw [itself]
      exact .itself notFeed letter

/-- Each character of the text is written as it is or by an escape. The closing mark and the escape
mark cannot be written as they are. -/
inductive IsWriting (mark : Char) : List Char → List Char → Prop where
  | ended : IsWriting mark [] []
  | raw {character : Char} {body text : List Char} (notMark : character ≠ mark)
      (notEscape : character ≠ Quoted.escapeMark) (behind : IsWriting mark body text) :
      IsWriting mark (character :: body) (character :: text)
  | escape {escaped character : Char} {body text : List Char} (denotes : Denotes escaped character)
      (behind : IsWriting mark body text) :
      IsWriting mark (Quoted.escapeMark :: escaped :: body) (character :: text)

namespace IsWriting

variable {mark : Char} {body text : List Char}

/-- A mark behind a writing is the first that closes it. -/
theorem quotedBody?_eq (writing : IsWriting mark body text) (notEscape : Quoted.escapeMark ≠ mark)
    (rest : List Char) : quotedBody? mark (body ++ mark :: rest) = some (body, rest) := by
  induction writing with
  | ended => exact quotedBody?_closing mark rest
  | raw notMark plain behind inductionHypothesis =>
      rw [List.cons_append, quotedBody?_plain notMark plain, inductionHypothesis]
      rfl
  | escape denotes behind inductionHypothesis =>
      rw [List.cons_append, List.cons_append,
        quotedBody?_escape notEscape (denotes_iff.mp denotes).1, inductionHypothesis]
      rfl

/-- The escapes of a writing are undone. -/
theorem unescape_eq (writing : IsWriting mark body text) : unescape body = text := by
  induction writing with
  | ended => rfl
  | raw notMark plain behind inductionHypothesis =>
      rw [unescape_plain plain, inductionHypothesis]
  | escape denotes behind inductionHypothesis =>
      rw [unescape, if_pos rfl, inductionHypothesis, (denotes_iff.mp denotes).2]

/-- What is taken up to the closing mark is a writing. -/
theorem of_quotedBody? {split : Split} (found : quotedBody? mark text = some split) :
    IsWriting mark split.1 (unescape split.1) := by
  fun_induction quotedBody? mark text generalizing split with
  | case1 => cases found
  | case2 =>
      cases found
      exact .ended
  | case3 => cases found
  | case4 => cases found
  | case5 escaped rest notFeed notMark inductionHypothesis =>
      obtain ⟨inner, foundInner, rfl⟩ := Option.map_eq_some_iff.mp found
      rw [unescape, if_pos rfl]
      exact .escape (denotes_iff.mpr ⟨notFeed, rfl⟩) (inductionHypothesis foundInner)
  | case6 character rest notMark plain inductionHypothesis =>
      obtain ⟨inner, foundInner, rfl⟩ := Option.map_eq_some_iff.mp found
      rw [unescape_plain plain]
      exact .raw notMark plain (inductionHypothesis foundInner)

end IsWriting

/-- A text is written between two double or two single marks. -/
def IsQuotedWriting (lexeme text : List Char) : Prop :=
  ∃ mark body, (mark = Quoted.doubleMark ∨ mark = Quoted.singleMark) ∧
    lexeme = mark :: body ++ [mark] ∧ IsWriting mark body text

theorem quoted_mem_all {mark : Char} :
    .token (.quoted mark) ∈ LexemeClass.all ↔
      mark = Quoted.doubleMark ∨ mark = Quoted.singleMark := by
  simp [LexemeClass.all]

theorem escapeMark_ne {mark : Char}
    (known : mark = Quoted.doubleMark ∨ mark = Quoted.singleMark) : Quoted.escapeMark ≠ mark := by
  rcases known with rfl | rfl <;> decide

/-- No token but a quoted one takes a quotation mark. -/
theorem breaks_of_mark {mark : Char} (rest : List Char)
    (known : mark = Quoted.doubleMark ∨ mark = Quoted.singleMark) : Breaks (mark :: rest) := by
  intro character member
  cases member
  rcases known with rfl | rfl <;> decide

end Lexeme

/-- Only a quoted lexeme is read as a text. -/
theorem TokenClass.eq_quoted_of_form? {tokenClass : TokenClass} {lexeme : List Char} {text : String}
    (known : .token tokenClass ∈ LexemeClass.all)
    (formed : tokenClass.form? lexeme = some (.literal (.string text))) :
    ∃ mark, tokenClass = .quoted mark := by
  cases tokenClass with
  | fixed first others form =>
      cases formed
      simp [LexemeClass.all] at known
  | fraction => cases formed
  | whole =>
      simp only [form?] at formed
      split at formed <;> cases formed
  | quoted mark => exact ⟨mark, rfl⟩
  | word =>
      simp only [form?, Lexeme.wordForm, Option.some.injEq] at formed
      cases looked : Lexeme.keywords.lookup (lexeme.map Char.toLower) with
      | none =>
          rw [looked] at formed
          cases formed
      | some keyword =>
          rw [looked] at formed
          have member := Association.mem_of_lookup looked
          cases formed
          simp [Lexeme.keywords] at member

/-- Whatever follows it, a lexeme is read as a text exactly when it is a writing of the text. -/
theorem TokenForm.isReadAs_string_iff {text : String} {lexeme rest : List Char} :
    (literal (.string text)).IsReadAs lexeme rest ↔ Lexeme.IsQuotedWriting lexeme text.toList := by
  constructor
  · rintro ⟨tokenClass, found, formed⟩
    have known := LexemeClass.mem_all_of_first? found
    obtain ⟨mark, rfl⟩ := TokenClass.eq_quoted_of_form? known formed
    have taken : Lexeme.quoted? mark (lexeme ++ rest) = some (lexeme, rest) :=
      LexemeClass.take?_of_first? found
    obtain ⟨body, rfl, closed⟩ := Lexeme.quoted?_eq_some taken
    have writing := Lexeme.IsWriting.of_quotedBody? (closed rest)
    simp only [TokenClass.form?, List.cons_append, List.drop_succ_cons, List.drop_zero,
      List.dropLast_concat, Option.some.injEq, literal.injEq, Literal.string.injEq] at formed
    refine ⟨mark, body, Lexeme.quoted_mem_all.mp known, rfl, ?_⟩
    rwa [← formed, String.toList_ofList]
  · rintro ⟨mark, body, known, rfl, writing⟩
    have closed := writing.quotedBody?_eq (Lexeme.escapeMark_ne known) rest
    refine ⟨.quoted mark, Lexeme.first?_quoted (Lexeme.quoted_mem_all.mpr known) closed, ?_⟩
    rw [TokenClass.form?, List.cons_append, List.drop_succ_cons, List.drop_zero,
      List.dropLast_concat, writing.unescape_eq, String.ofList_toList]

theorem Cursor.tokenOf_eq_ok {cursor : Cursor} {tokenClass : TokenClass} {lexeme : List Char}
    {token : Token} : cursor.tokenOf tokenClass lexeme = .ok token ↔
      ∃ form, tokenClass.form? lexeme = some form ∧ token = ⟨form, cursor.location⟩ := by
  unfold tokenOf
  cases tokenClass.form? lexeme <;> simp [eq_comm]

/-- A lexeme in front of the rest is read by one call. -/
theorem TokenForm.IsReadAs.next_eq {form : TokenForm} {lexeme rest : List Char}
    (read : form.IsReadAs lexeme rest) (location : Location) :
    (⟨lexeme ++ rest, location⟩ : Cursor).next =
      (.ok ⟨form, location⟩, ⟨rest, location.advance lexeme⟩) := by
  obtain ⟨tokenClass, found, formed⟩ := read
  rw [@Cursor.next_of_token ⟨lexeme ++ rest, location⟩ _ _ found, Cursor.tokenOf, formed]
  rfl

section Boundaries

/-- Before the place, the text divides into lexemes and blanks that are read as they stand there. -/
inductive ReadBefore : List Char → List Char → Prop where
  | start (after : List Char) : ReadBefore [] after
  | gap {gap before after : List Char} (blank : IsGap gap) (behind : ReadBefore before after) :
      ReadBefore (gap ++ before) after
  | lexeme {lexeme before after : List Char} {tokenClass : TokenClass}
      (found : LexemeClass.first? (lexeme ++ (before ++ after)) =
        some (.token tokenClass, (lexeme, before ++ after)))
      (behind : ReadBefore before after) : ReadBefore (lexeme ++ before) after

/-- A beginning of the text behind a lexeme is as much apart from it as the whole of it. -/
theorem TokenClass.Apart.of_append {tokenClass : TokenClass} {rest more : List Char}
    (apart : tokenClass.Apart (rest ++ more)) : tokenClass.Apart rest := by
  have first {holds : Char → Prop} {rest more : List Char}
      (all : ∀ character ∈ (rest ++ more).head?, holds character) :
      ∀ character ∈ rest.head?, holds character := by
    cases rest with
    | nil => exact fun character member => absurd member (by simp)
    | cons head rest => exact all
  cases tokenClass with
  | fixed sign others form =>
      cases others with
      | nil => exact fun longer known => first (apart longer known)
      | cons second others => trivial
  | fraction => exact first apart
  | whole =>
      refine ⟨first apart.1, ?_⟩
      rintro places rfl
      exact first (apart.2 _ rfl)
  | quoted mark => trivial
  | word => exact first apart

namespace ReadBefore

variable {before after more : List Char}

/-- A break at the place leaves the lexemes before it alone. -/
theorem before_break (read : ReadBefore before after) (breaks : Lexeme.Breaks more) :
    ReadBefore before more := by
  induction read with
  | start => exact .start more
  | gap blank behind inductionHypothesis => exact .gap blank inductionHypothesis
  | lexeme found behind inductionHypothesis =>
      have apart := (LexemeClass.apart_of_first? found).of_append
      exact .lexeme (LexemeClass.first?_before found (Lexeme.apart_append apart breaks))
        inductionHypothesis

theorem behind_gap {gap : List Char} (read : ReadBefore before (gap ++ after))
    (blank : IsGap gap) : ReadBefore (before ++ gap) after := by
  generalize joined : gap ++ after = rest at read
  induction read with
  | start =>
      have blanks := ReadBefore.gap blank (.start after)
      rwa [List.append_nil] at blanks
  | gap earlierBlank behind inductionHypothesis =>
      rw [List.append_assoc]
      exact .gap earlierBlank (inductionHypothesis joined)
  | lexeme found behind inductionHypothesis =>
      subst joined
      rw [List.append_assoc]
      rw [← List.append_assoc _ gap after] at found
      exact .lexeme found (inductionHypothesis rfl)

/-- Some call starts at the place or at the blanks before it. -/
theorem exists_call (read : ReadBefore before after) (location : Location) :
    ∃ count, ((⟨before ++ after, location⟩ : Cursor).afterCalls count).next =
      (⟨after, location.advance before⟩ : Cursor).next := by
  induction read generalizing location with
  | start after => exact ⟨0, rfl⟩
  | @gap gap before after blank behind inductionHypothesis =>
      obtain ⟨count, call⟩ := inductionHypothesis (location.advance gap)
      refine ⟨count, ?_⟩
      rw [List.append_assoc, Location.advance_append, ← call]
      exact Cursor.next_afterCalls_of_same_next (Cursor.next_behind_gap blank _ location) count
  | @lexeme lexeme before after tokenClass found behind inductionHypothesis =>
      obtain ⟨count, call⟩ := inductionHypothesis (location.advance lexeme)
      have first := @Cursor.next_of_token ⟨lexeme ++ (before ++ after), location⟩ _ _ found
      refine ⟨count + 1, ?_⟩
      rw [List.append_assoc, Location.advance_append, ← call, Cursor.afterCalls, first]
      rfl

end ReadBefore

/-- The text before the cursor that a call leaves has been read. -/
theorem Cursor.exists_readBefore (cursor : Cursor) (count : Nat) :
    ∃ passed, cursor.rest = passed ++ (cursor.afterCalls count).rest ∧
      (cursor.afterCalls count).location = cursor.location.advance passed ∧
      ReadBefore passed (cursor.afterCalls count).rest := by
  induction count generalizing cursor with
  | zero => exact ⟨[], rfl, rfl, .start _⟩
  | succ count inductionHypothesis =>
      obtain ⟨passed, joined, placed, read⟩ := inductionHypothesis cursor.next.2
      rw [afterCalls]
      generalize cursor.next.2.afterCalls count = reached at joined placed read
      generalize call : cursor.next = outcome at joined placed
      have calls := callsFor_next cursor
      rw [call] at calls
      cases calls with
      | @ended gap same blank =>
          refine ⟨gap ++ passed, ?_, ?_, .gap blank read⟩
          · rw [same, List.append_assoc, ← joined, List.append_nil]
          · rw [placed, Location.advance_append]
      | @character gap rest character same blank foreign =>
          refine ⟨gap ++ passed, ?_, ?_, .gap blank read⟩
          · rw [same, List.append_assoc, ← joined]
          · rw [placed, Location.advance_append]
      | @lexeme gap lexeme rest tokenClass same blank found =>
          change rest = _ at joined
          subst joined
          refine ⟨gap ++ (lexeme ++ passed), ?_, ?_, .gap blank (.lexeme found read)⟩
          · rw [same, List.append_assoc, List.append_assoc]
          · rw [placed, ← Location.advance_append, List.append_assoc]

/-- Some calls leave the cursor at the place or at the blanks before it. -/
def IsBoundary (before after : List Char) : Prop :=
  ∃ count passed gap, before = passed ++ gap ∧ IsGap gap ∧
    (Cursor.ofText (String.ofList (before ++ after))).afterCalls count =
      ⟨gap ++ after, .behind passed⟩

theorem ReadBefore.of_isBoundary {before after : List Char} (boundary : IsBoundary before after) :
    ReadBefore before after := by
  obtain ⟨count, passed, gap, rfl, blank, reached⟩ := boundary
  obtain ⟨start, joined, -, read⟩ :=
    (Cursor.ofText (String.ofList (passed ++ gap ++ after))).exists_readBefore count
  rw [reached] at joined read
  have same : passed ++ gap ++ after = start ++ (gap ++ after) := by
    rwa [Cursor.ofText, String.toList_ofList] at joined
  rw [List.append_assoc] at same
  obtain rfl := List.append_cancel_right same
  exact read.behind_gap blank

/-- The place behind an opening mark is no boundary. -/
example : ¬ IsBoundary ['\''] ['a', '\''] := by
  rintro ⟨count, passed, gap, -, blank, reached⟩
  cases count with
  | zero =>
      rw [Cursor.afterCalls, Cursor.ofText, String.toList_ofList, Cursor.mk.injEq] at reached
      rw [← List.append_cancel_right reached.1] at blank
      exact absurd blank (by decide)
  | succ count =>
      have ended : (Cursor.ofText (String.ofList (['\''] ++ ['a', '\'']))).next.2 =
          ⟨[], .behind ['\'', 'a', '\'']⟩ := by decide +kernel
      rw [Cursor.afterCalls, ended] at reached
      obtain ⟨later, joined, -⟩ := Cursor.exists_readBefore ⟨[], .behind ['\'', 'a', '\'']⟩ count
      simp [reached] at joined

end Boundaries

/-- A writing of a text that is placed at a boundary of any other text, with anything behind it, is read
by one call as the text. The token starts where the writing starts, the cursor is left where it ends, and
the tokens of the whole go on with those behind it. Whenever a call gives a text, it has read a writing
of the text. -/
theorem quoted_writings_read (text : String) :
    (∀ lexeme, Lexeme.IsQuotedWriting lexeme text.toList →
      ∀ before after behind, IsBoundary before after →
        let source := String.ofList (before ++ (lexeme ++ behind))
        let token : Token := ⟨.literal (.string text), .behind before⟩
        let left : Cursor := ⟨behind, .behind (before ++ lexeme)⟩
        ∃ count, ((Cursor.ofText source).afterCalls count).next = (.ok token, left) ∧
          ∀ stream, tokenize source = .ok stream →
            ∃ later, stream.body = stream.body.take count ++ token :: later ∧
              left.tokens = .ok ⟨later, stream.stop⟩) ∧
    ∀ cursor place after, Cursor.next cursor = (.ok ⟨.literal (.string text), place⟩, after) →
      ∃ gap lexeme, cursor.rest = gap ++ (lexeme ++ after.rest) ∧ IsGap gap ∧
        place = cursor.location.advance gap ∧ after.location = place.advance lexeme ∧
        Lexeme.IsQuotedWriting lexeme text.toList := by
  constructor
  · intro lexeme written before after behind boundary source token left
    have breaks : Lexeme.Breaks (lexeme ++ behind) := by
      obtain ⟨mark, body, known, rfl, -⟩ := written
      exact Lexeme.breaks_of_mark _ known
    have read := (ReadBefore.of_isBoundary boundary).before_break breaks
    obtain ⟨count, call⟩ := read.exists_call Location.start
    have start : (⟨before ++ (lexeme ++ behind), Location.start⟩ : Cursor) = .ofText source := by
      rw [Cursor.ofText, String.toList_ofList]
    have placed : Location.start.advance before = .behind before := Location.advance_behind [] before
    rw [start, placed, (TokenForm.isReadAs_string_iff.mpr written).next_eq,
      Location.advance_behind] at call
    refine ⟨count, call, ?_⟩
    intro stream tokens
    exact Cursor.tokens_of_call count tokens call (by rintro ⟨⟩)
  · intro cursor place after call
    have goesOn : ¬ Cursor.IsFinal cursor.next.1 := by
      rw [call]
      rintro ⟨⟩
    obtain ⟨gap, lexeme, tokenClass, joined, blank, found, outcome, placed⟩ :=
      Cursor.exists_lexeme_of_not_isFinal goesOn
    rw [call] at joined found outcome placed
    dsimp only at joined found outcome placed
    obtain ⟨form, formed, same⟩ := Cursor.tokenOf_eq_ok.mp outcome.symm
    cases same
    rw [Location.advance_append] at placed
    exact ⟨gap, lexeme, joined, blank, rfl, placed,
      TokenForm.isReadAs_string_iff.mp ⟨tokenClass, found, formed⟩⟩

/-- Behind a sign, a text with an escaped mark is read to its own mark, and the cursor stands in front of
what follows. The place is a boundary whatever else stands there. -/
theorem quoted_writings_read_behind_sign :
    let before := "x == ".toList
    let lexeme := "'a\\'b'".toList
    let behind := " && y".toList
    Lexeme.IsQuotedWriting lexeme "a'b".toList ∧ IsBoundary before "z".toList ∧
      ∃ count, ((Cursor.ofText "x == 'a\\'b' && y").afterCalls count).next =
        (.ok ⟨.literal (.string "a'b"), .behind before⟩, ⟨behind, .behind (before ++ lexeme)⟩) := by
  intro before lexeme behind
  have letters : Lexeme.IsWriting Quoted.singleMark "a\\'b".toList "a'b".toList :=
    .raw (by decide) (by decide)
      (.escape (.itself (by decide) (by decide)) (.raw (by decide) (by decide) .ended))
  have written : Lexeme.IsQuotedWriting lexeme "a'b".toList :=
    ⟨Quoted.singleMark, _, .inr rfl, rfl, letters⟩
  have boundary : IsBoundary before "z".toList :=
    ⟨2, "x ==".toList, [' '], rfl, by decide, by decide +kernel⟩
  obtain ⟨count, call, -⟩ := (quoted_writings_read "a'b").1 lexeme written before _ behind boundary
  exact ⟨written, boundary, count, call⟩

/-- A pair of escape marks does not keep the mark behind it from closing the text. -/
example : (tokenize "'\\\\'==\"'\\\"\"").toOption.map (fun stream => stream.body.map Token.form) =
    some [.literal (.string "\\"), .comparison .equal, .literal (.string "'\"")] := by
  decide +kernel

end Predicates
