/-
This file shows that every procedure of the parser ends, moves on when it finds a tree, and never goes
past the stop.
-/

import Predicates.Proofs.Grammar.Agreement
import Predicates.Proofs.Lexing.Tokens

namespace Predicates

open Predicates.Parser

/-- The stop closes the tokens and stands nowhere before. -/
structure TokenStream.StopsOnce (stream : TokenStream) : Prop where
  last : stream.stop.form = .stop
  only : ∀ token ∈ stream.body, token.form ≠ .stop

theorem TokenStream.stopsOnce_of_tokenize {text : String} {stream : TokenStream}
    (read : tokenize text = .ok stream) : stream.StopsOnce where
  last := Cursor.stop_of_tokens read
  only token member := by
    have spellable := tokens_isSpellable read token.form (List.mem_map_of_mem member)
    exact spellable.not_stop

/-- Up to the stop, a position need not be cut back to find its token. -/
theorem TokenStream.getElem?_of_le {stream : TokenStream} {position : Nat}
    (inside : position ≤ stream.body.length) :
    stream.toList[position]? = some (stream.tokenAt position) := by
  rw [tokenAt, List.get_eq_getElem]
  simp only [Nat.min_eq_left inside]
  exact List.getElem?_eq_getElem _

theorem Place.Within.exists_visited {stream : TokenStream} {start finish : Place}
    (within : Within stream start finish) :
    ∃ visited, finish.trail = visited ++ start.trail ∧
      ∀ position ∈ visited, position ≤ stream.body.length ∧
        stream.toList[position]? = some (stream.tokenAt position) := by
  obtain ⟨visited, trail, inside⟩ := within.visited
  refine ⟨visited, trail, ?_⟩
  intro position member
  exact ⟨inside position member, TokenStream.getElem?_of_le (inside position member)⟩

namespace Walk

variable {stream : TokenStream}

/-- The procedures of the parser, the loosest first. -/
inductive Procedure where
  | disjunction
  | conjunction
  | comparison
  | unary
  | primary

namespace Procedure

def walk (stream : TokenStream) : Procedure → Walk Expression
  | .disjunction => stream.chain .or
  | .conjunction => stream.chain .and
  | .comparison => stream.comparison
  | .unary => stream.unary
  | .primary => stream.primary

/-- The parser reads for each procedure what the steps with the same room do. -/
def reading (stop : Token) (room : Nat) : Procedure → List Token → Except ParseError Reading
  | .disjunction => (expressionAt stop room).run
  | .conjunction => (Parser.chain .and (Parser.comparisons (Parser.operand stop room))).run
  | .comparison => (Parser.comparisons (Parser.operand stop room)).run
  | .unary => (Parser.operand stop room).run
  | .primary => refuseSign stop (Parser.operand stop room).run

theorem agrees (stops : stream.stop.form = .stop) (procedure : Procedure) (room : Nat) :
    Agrees stream room (procedure.walk stream) (procedure.reading stream.stop room) := by
  obtain ⟨inner, outer, same, agreesInner, agreesOuter⟩ := exists_nested_agrees stops room
  have unary := unary_agrees stops agreesInner agreesOuter
  rw [← same] at unary
  cases procedure with
  | disjunction => exact (expression_agrees stops unary).2
  | conjunction => exact (expression_agrees stops unary).1
  | comparison => exact comparison_agrees stops unary
  | unary => exact unary
  | primary =>
      rw [reading, same]
      exact primary_agrees stops agreesOuter

theorem shorter {stop : Token} {room : Nat} {procedure : Procedure} {tokens : List Token}
    {found : Reading} (read : procedure.reading stop room tokens = .ok found) :
    found.2.length < tokens.length := by
  cases procedure with
  | disjunction => exact (expressionAt stop room).shorter _ _ read
  | conjunction => exact Step.shorter _ _ _ read
  | comparison => exact Step.shorter _ _ _ read
  | unary => exact Step.shorter _ _ _ read
  | primary =>
      rw [reading, refuseSign] at read
      split at read
      · exact Step.shorter _ _ _ read
      · cases read

end Procedure

/-- The whole walk ends as the parser of the stream does. -/
def whole (first : Token) (reading : Reading) : Except ParseError Reading :=
  match reading.2 with
  | token :: _ => .error ⟨.unexpectedToken, token⟩
  | [] =>
    if reading.1.isDeeperThan nestingLimit then .error ⟨.nestedTooDeeply, first⟩
    else .ok (reading.1, [])

theorem parse_eq_whole {first : Token} {rest : List Token} (body : stream.body = first :: rest) :
    stream.parse.map (fun tree => (tree, [])) =
      (expressionAt stream.stop nestingLimit).run stream.body >>= whole first := by
  rw [TokenStream.parse, body]
  dsimp only
  cases (expressionAt stream.stop nestingLimit).run (first :: rest) with
  | error error => rfl
  | ok reading =>
      obtain ⟨tree, left⟩ := reading
      cases left with
      | cons token left => rfl
      | nil =>
          change (if tree.isDeeperThan nestingLimit then _ else _ : Except ParseError Expression).map _ =
            if tree.isDeeperThan nestingLimit then _ else _
          split <;> rfl

theorem sentence_agreesAt (once : stream.StopsOnce) :
    AgreesAt stream stream.sentence ⟨0, 0, []⟩ (stream.parse.map fun tree => (tree, [])) := by
  rw [TokenStream.sentence, stream.tokenAt_eq, List.drop_zero]
  cases body : stream.body with
  | nil =>
      rw [List.headD_nil, if_pos once.last, TokenStream.parse, body]
      exact .refuse _ (Nat.zero_le _) _ _
  | cons first rest =>
      have notStop : first.form ≠ .stop := once.only first (by rw [body]; exact List.mem_cons_self)
      rw [List.headD_cons, if_neg notStop, parse_eq_whole body]
      apply (Procedure.disjunction.agrees once.last nestingLimit ⟨0, 0, []⟩ (Nat.zero_le _) rfl).bind
      intro tree finish inside _ _
      apply AgreesAt.look inside
      rw [stream.tokenAt_eq, whole]
      cases ahead : stream.body.drop finish.position with
      | nil =>
          rw [List.headD_nil, if_neg (not_not.mpr once.last)]
          dsimp only
          by_cases high : tree.isDeeperThan nestingLimit = true
          · rw [if_pos high, if_pos high]
            exact .refuse finish.noted inside _ _
          · rw [if_neg high, if_neg high]
            exact .pure finish.noted inside ahead tree
      | cons token others =>
          have member : token ∈ stream.body.drop finish.position := by
            rw [ahead]
            exact List.mem_cons_self
          rw [List.headD_cons, if_pos (once.only token (List.mem_of_mem_drop member))]
          exact .refuse finish.noted inside _ _

/-- Every procedure ends within the stream as the parser does, and a tree costs it at least one token
and no depth. -/
theorem procedures_end_inside (stream : TokenStream) (once : stream.StopsOnce) :
    (∀ (procedure : Procedure) (place : Place), place.position ≤ stream.body.length →
      ∃ answer finish visited,
        Ends (procedure.walk stream) place answer finish ∧
        answer = (procedure.reading stream.stop (nestingLimit - place.depth)
          (stream.body.drop place.position)).map Prod.fst ∧
        finish.position ≤ stream.body.length ∧
        finish.trail = visited ++ place.trail ∧
        (∀ position ∈ visited, position ≤ stream.body.length ∧
          stream.toList[position]? = some (stream.tokenAt position)) ∧
        ∀ tree, answer = .ok tree →
          place.position < finish.position ∧ finish.depth = place.depth) ∧
    ∃ finish, Ends stream.sentence ⟨0, 0, []⟩ stream.parse finish ∧
      finish.position ≤ stream.body.length ∧
      ∀ position ∈ finish.trail, position ≤ stream.body.length ∧
        stream.toList[position]? = some (stream.tokenAt position) := by
  refine ⟨?_, ?_⟩
  · intro procedure place inside
    have agrees := procedure.agrees once.last _ place inside rfl
    obtain ⟨finish, ends, within, success⟩ := agrees.exists_finish
    obtain ⟨visited, trail, found⟩ := within.exists_visited
    refine ⟨_, finish, visited, ends, rfl, within.inside, trail, found, ?_⟩
    intro tree answered
    obtain ⟨reading, read, -⟩ := Outcome.map_eq_ok.mp answered
    obtain ⟨left, sameDepth⟩ := success reading read
    have shorter := Procedure.shorter read
    rw [left] at shorter
    exact ⟨position_lt_of_shorter shorter, sameDepth⟩
  · obtain ⟨finish, ends, within, -⟩ := (sentence_agreesAt once).exists_finish
    obtain ⟨visited, trail, found⟩ := within.exists_visited
    have answer : (stream.parse.map fun tree => (tree, ([] : List Token))).map Prod.fst =
        stream.parse := by
      cases stream.parse <;> rfl
    rw [answer] at ends
    rw [List.append_nil] at trail
    exact ⟨finish, ends, within.inside, by rwa [trail]⟩

/-- Behind an opening that nothing closes, the name is read up to the stop. -/
theorem procedures_end_inside_unclosed :
    let stream : TokenStream :=
      ⟨[⟨.opening, ⟨0, 1, 1⟩⟩, ⟨.identifier "a", ⟨1, 1, 2⟩⟩], ⟨.stop, ⟨2, 1, 3⟩⟩⟩
    tokenize "(a" = .ok stream ∧ ∃ finish,
      Ends (Procedure.primary.walk stream) ⟨1, 1, []⟩ (.ok (.identifier "a")) finish ∧
        finish.position = 2 ∧ finish.depth = 1 := by
  intro stream
  have read : tokenize "(a" = .ok stream := by decide +kernel
  obtain ⟨answer, finish, visited, ends, answered, inside, -, -, success⟩ :=
    (procedures_end_inside stream (TokenStream.stopsOnce_of_tokenize read)).1 .primary ⟨1, 1, []⟩ (by decide)
  have name : answer = .ok (.identifier "a") := answered
  obtain ⟨moved, sameDepth⟩ := success _ name
  rw [name] at ends
  exact ⟨read, finish, ends, Nat.le_antisymm inside moved, sameDepth⟩

end Walk

end Predicates
