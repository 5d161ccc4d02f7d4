/-
This file shows that a text keeps its meaning when its lexemes are laid out again and its operators
and constants are respelled.
-/

import Predicates.Proofs.Grammar.Leaves
import Predicates.Proofs.Grammar.Parallel
import Predicates.Proofs.Session.BoundNames

namespace Predicates

open Outcome (Alike)
open Session (start)

/-- The other text holds the lexemes of the text in their order, with any blanks between them and
with any spelling of logical operators and constants. -/
def Rewrites (text other : List Char) : Prop :=
  ∃ words lexemes, ConsistsOf text words ∧ List.Forall₂ Respelled (words.map Prod.fst) lexemes ∧
    LaidOut lexemes other

namespace TokenForm

/-- The tokens have the same type, and literals and names have the same value. -/
def SameMeaning (form other : TokenForm) : Prop :=
  form.typeName = other.typeName ∧ (form.isLeaf = true → form = other)

variable {form other : TokenForm}

theorem typeName_plain (form : TokenForm) : form.plain.typeName = form.typeName := by
  cases form with
  | connective operation spelling => cases operation <;> rfl
  | _ => rfl

theorem isLeaf_plain (form : TokenForm) : form.plain.isLeaf = form.isLeaf := by
  cases form <;> rfl

theorem plain_of_isLeaf (leaf : form.isLeaf = true) : form.plain = form := by
  cases form with
  | literal value => rfl
  | identifier name => rfl
  | _ => cases leaf

theorem sameMeaning_of_plain (same : form.plain = other.plain) : form.SameMeaning other := by
  refine ⟨by rw [← typeName_plain, same, typeName_plain], fun leaf => ?_⟩
  have otherLeaf : other.isLeaf = true := by rw [← isLeaf_plain, ← same, isLeaf_plain, leaf]
  rw [← plain_of_isLeaf leaf, same, plain_of_isLeaf otherLeaf]

end TokenForm

section Faults

variable (first second : TokenStream)

/-- The tokens stand at the same place of the streams. -/
def SamePlace (token other : Token) : Prop :=
  ∃ index : Nat, first.toList[index]? = some token ∧ second.toList[index]? = some other

/-- The texts are refused by the parser for the same reason and at the same place. -/
def SameRefusal : SourceError → SourceError → Prop
  | .parse error, .parse other => Parser.SameFault (SamePlace first second) error other
  | _, _ => False

/-- Failures that do not concern the text are the same. -/
def SameFailure : Failure → Failure → Prop
  | .source error, .source other => SameRefusal first second error other
  | failure, other => failure = other

end Faults

section Streams

variable {first second : TokenStream}

theorem samePlace_stop (length : first.body.length = second.body.length) :
    SamePlace first second first.stop second.stop := by
  refine ⟨first.body.length, ?_, ?_⟩
  · rw [TokenStream.toList, List.getElem?_concat_length]
  · rw [TokenStream.toList, length, List.getElem?_concat_length]

/-- Tokens that are paired off stand at the same place. -/
theorem forall₂_samePlace {same : Token → Token → Prop}
    (bodies : List.Forall₂ same first.body second.body) :
    List.Forall₂ (fun token other => same token other ∧ SamePlace first second token other)
      first.body second.body := by
  rw [List.forall₂_iff_get] at bodies ⊢
  refine ⟨bodies.1, fun index bound otherBound => ⟨bodies.2 index bound otherBound, index, ?_, ?_⟩⟩
  · rw [TokenStream.toList, List.getElem?_append_left bound, List.getElem?_eq_getElem bound]
    rfl
  · rw [TokenStream.toList, List.getElem?_append_left otherBound,
      List.getElem?_eq_getElem otherBound]
    rfl

end Streams

/-- The streams are read from two texts, and their tokens are the same but for their places and
their spelling. -/
structure ReadAlike (text other : String) (first second : TokenStream) : Prop where
  read : tokenize text = .ok first
  otherRead : tokenize other = .ok second
  bodies : List.Forall₂ (fun token other => token.form.plain = other.form.plain)
    first.body second.body

theorem Rewrites.readAlike {text other : String} {first : TokenStream}
    (rewrites : Rewrites text.toList other.toList) (read : tokenize text = .ok first) :
    ∃ second, ReadAlike text other first second := by
  obtain ⟨words, lexemes, consists, respelled, laidOut⟩ := rewrites
  obtain ⟨others, otherConsists, same⟩ :=
    laidOut.consistsOf (fun word => consists.exists_isReadAs) respelled
  obtain ⟨stream, tokens, forms⟩ := consists.tokens_eq Location.start
  obtain rfl : first = stream := Except.ok.inj (read.symm.trans tokens)
  obtain ⟨second, otherTokens, otherForms⟩ := otherConsists.tokens_eq Location.start
  refine ⟨second, read, otherTokens, ?_⟩
  rw [← forms, ← otherForms, List.forall₂_map_left_iff, List.forall₂_map_right_iff] at same
  exact same

namespace ReadAlike

variable {text other : String} {first second : TokenStream}
  (alike : ReadAlike text other first second)
include alike

theorem stops : first.stop.form = .stop ∧ second.stop.form = .stop :=
  ⟨Cursor.stop_of_tokens alike.read, Cursor.stop_of_tokens alike.otherRead⟩

theorem tokens : List.Forall₂ (fun token other => token.form.SameMeaning other.form)
    first.toList second.toList := by
  refine List.rel_append (alike.bodies.imp fun token other => TokenForm.sameMeaning_of_plain) ?_
  exact .cons (TokenForm.sameMeaning_of_plain (by rw [alike.stops.1, alike.stops.2])) .nil

/-- Both texts have the same tree, or none at the same place. -/
theorem parse : Alike (SameRefusal first second) Eq (Predicates.parse text)
    (Predicates.parse other) := by
  have stops : first.stop.form.plain = second.stop.form.plain := by
    rw [alike.stops.1, alike.stops.2]
  have streams := TokenStream.parse_alike (fun token other same => same.1)
    (forall₂_samePlace alike.bodies) ⟨stops, samePlace_stop alike.bodies.length_eq⟩
  unfold Predicates.parse
  rw [alike.read, alike.otherRead]
  exact streams.mapError fun error other same => ⟨same.1, same.2.2⟩

theorem names : Alike (SameRefusal first second) Eq (detectIdentifiers text)
    (detectIdentifiers other) :=
  alike.parse.map fun _ _ same => congrArg Expression.identifiers same

theorem answer (parameters : Parameters) : Alike (SameFailure first second) Eq
    (evaluateBound text parameters) (evaluateBound other parameters) := by
  rw [evaluateBound_eq_answerOver, evaluateBound_eq_answerOver]
  have trees : Alike (SameFailure first second) Eq ((Predicates.parse text).mapError .source)
      ((Predicates.parse other).mapError .source) :=
    alike.parse.mapError fun error other same => same
  refine trees.bind fun root other _ same => ?_
  rw [same]
  -- Behind the parser, no failure is about the text any more.
  cases answered : other.answerOver parameters with
  | ok truth => exact .ok rfl
  | error failure =>
      rcases Expression.answerOver_eq_error answered with
        ⟨error, rfl, -⟩ | ⟨kind, -, rfl | ⟨error, rfl, -⟩⟩ <;> exact .error rfl

theorem detect {session otherSession : Session} (faithful : session.Faithful)
    (otherFaithful : otherSession.Faithful) (ready : session.readiness = otherSession.readiness) :
    Alike (SameFailure first second) Eq (session.detect text).1 (otherSession.detect other).1 := by
  rw [faithful.detect_eq_readiness, otherFaithful.detect_eq_readiness, ready]
  cases otherSession.readiness with
  | error error => exact .error rfl
  | ok _ => exact alike.names.mapError fun error other same => same

theorem evaluate {session otherSession : Session} (faithful : session.Faithful)
    (otherFaithful : otherSession.Faithful) (ready : session.readiness = otherSession.readiness)
    (parameters : Parameters) : Alike (SameFailure first second) Eq
      (session.evaluate text parameters).1 (otherSession.evaluate other parameters).1 := by
  rw [Session.evaluate_eq_bind, Session.evaluate_eq_bind]
  refine (alike.detect faithful otherFaithful ready).bind fun names others _ same => ?_
  rw [same]
  exact alike.answer (parameters.restrict others)

end ReadAlike

/-- A text that can be read consists of the lexemes of its tokens. When they are laid out again and
respelled, the tokens keep their types and values, the tree stays the same or fails for the same
reason at the same token, and so do the names and the value of the text, whatever was requested
before. -/
theorem meaning_of_rewritten {text : String} {first : TokenStream}
    (read : tokenize text = .ok first) :
    (∃ words, ConsistsOf text.toList words ∧
      first.body.map Token.form = words.map Prod.snd) ∧
    ∀ other : String, Rewrites text.toList other.toList →
      ∃ second, tokenize other = .ok second ∧
        List.Forall₂ (fun token other => token.form.SameMeaning other.form)
          first.toList second.toList ∧
        Alike (SameRefusal first second) Eq (parse text) (parse other) ∧
        Alike (SameRefusal first second) Eq (detectIdentifiers text) (detectIdentifiers other) ∧
        ∀ before later, (start.after before).readiness = (start.after later).readiness →
          Alike (SameFailure first second) Eq ((start.after before).detect text).1
              ((start.after later).detect other).1 ∧
            ∀ parameters, Alike (SameFailure first second) Eq
              ((start.after before).evaluate text parameters).1
              ((start.after later).evaluate other parameters).1 := by
  refine ⟨ConsistsOf.of_tokens (Cursor.ofText text) read, fun other rewrites => ?_⟩
  obtain ⟨second, alike⟩ := rewrites.readAlike read
  refine ⟨second, alike.otherRead, alike.tokens, alike.parse, alike.names, ?_⟩
  intro before later ready
  have faithful : (start.after before).Faithful := Session.faithful_start.after before
  have otherFaithful : (start.after later).Faithful := Session.faithful_start.after later
  exact ⟨alike.detect faithful otherFaithful ready, alike.evaluate faithful otherFaithful ready⟩

/-- The symbols become words in any letter case, and other blanks stand between them. -/
theorem meaning_of_rewritten_words :
    let parameters : Parameters := ⟨[("a", .bool true), ("b", .bool false)], by decide⟩
    Rewrites "a&&!b".toList "a And\n not  b ".toList ∧
      (∃ first second tree, tokenize "a&&!b" = .ok first ∧
        tokenize "a And\n not  b " = .ok second ∧ parse "a&&!b" = .ok tree ∧
        parse "a And\n not  b " = .ok tree) ∧
      (start.evaluate "a&&!b" parameters).1 = .ok true ∧
      ((start.after [.configure (some 1)]).evaluate "a And\n not  b " parameters).1 = .ok true := by
  intro parameters
  have rewrites : Rewrites "a&&!b".toList "a And\n not  b ".toList := by
    refine ⟨[(['a'], .identifier "a"), (['&', '&'], .connective .and .symbol),
        (['!'], .not .symbol), (['b'], .identifier "b")],
      [['a'], ['A', 'n', 'd'], ['n', 'o', 't'], ['b']], ?_, ?_, ?_⟩
    · change ConsistsOf (['a'] ++ (['&', '&'] ++ (['!'] ++ (['b'] ++ [])))) _
      exact .word ⟨_, rfl, rfl⟩ (.word ⟨_, rfl, rfl⟩ (.word ⟨_, rfl, rfl⟩
        (.word ⟨_, rfl, rfl⟩ .ended)))
    · refine .cons (.same _) (.cons (.operator (.chain .and) ?_ ?_)
        (.cons (.operator .not ?_ ?_) (.cons (.same _) .nil)))
      · exact Or.inl rfl
      · exact Or.inr rfl
      · exact Or.inl rfl
      · exact Or.inr rfl
    · change LaidOut _ ([] ++ (['a'] ++ ([' '] ++ (['A', 'n', 'd'] ++ (['\n', ' '] ++
        (['n', 'o', 't'] ++ ([' ', ' '] ++ (['b'] ++ [' ']))))))))
      exact .lexeme (by decide) (by decide) (.lexeme (by decide) (by decide)
        (.lexeme (by decide) (by decide) (.lexeme (by decide) (by decide) (.ended (by decide)))))
  obtain ⟨tree, parsed⟩ : ∃ tree, parse "a&&!b" = .ok tree := ⟨_, by with_unfolding_all rfl⟩
  have evaluated : (start.evaluate "a&&!b" parameters).1 = .ok true := by
    with_unfolding_all rfl
  obtain ⟨first, read⟩ : ∃ first, tokenize "a&&!b" = .ok first := ⟨_, by with_unfolding_all rfl⟩
  obtain ⟨second, otherRead, -, trees, -, sessions⟩ :=
    (meaning_of_rewritten read).2 _ rewrites
  have values := (sessions [] [.configure (some 1)] rfl).2 parameters
  change Alike _ _ (start.evaluate "a&&!b" parameters).1 _ at values
  rw [parsed] at trees
  rw [evaluated] at values
  exact ⟨rewrites, ⟨first, second, tree, read, otherRead, parsed, trees.eq_ok⟩, evaluated,
    values.eq_ok⟩

end Predicates
