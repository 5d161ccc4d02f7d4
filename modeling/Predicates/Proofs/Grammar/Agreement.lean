/-
This file shows that each walk over the tokens of a stream ends where the step of the parser does,
with the same answer, and that it stays between the first token and the stop.
-/

import Predicates.Proofs.Grammar.Completeness
import Predicates.Proofs.Grammar.Walk

namespace Predicates

open Predicates.Parser

section Positions

variable {stream : TokenStream} {position : Nat}

theorem TokenStream.tokenAt_eq (stream : TokenStream) (position : Nat) :
    stream.tokenAt position = (stream.body.drop position).headD stream.stop := by
  rw [tokenAt, List.get_eq_getElem]
  rcases Nat.lt_or_ge position stream.body.length with before | behind
  · simp only [toList, Nat.min_eq_left (Nat.le_of_lt before)]
    rw [List.getElem_append_left before, List.drop_eq_getElem_cons before, List.headD_cons]
  · simp only [toList, Nat.min_eq_right behind]
    rw [List.drop_of_length_le behind, List.headD_nil]
    simp

/-- A token that is left is not the stop, so there is a position behind it. -/
theorem TokenStream.drop_succ_of_cons {token : Token} {rest : List Token}
    (ahead : stream.body.drop position = token :: rest) :
    position < stream.body.length ∧ stream.body.drop (position + 1) = rest := by
  have before : position < stream.body.length := by
    rcases Nat.lt_or_ge position stream.body.length with before | behind
    · exact before
    · rw [List.drop_of_length_le behind] at ahead
      cases ahead
  rw [List.drop_eq_getElem_cons before] at ahead
  cases ahead
  exact ⟨before, rfl⟩

end Positions

/-- Between two places a walk has been only at positions up to the stop. -/
structure Place.Within (stream : TokenStream) (start finish : Place) : Prop where
  inside : finish.position ≤ stream.body.length
  visited : ∃ visited, finish.trail = visited ++ start.trail ∧
    ∀ position ∈ visited, position ≤ stream.body.length

namespace Place.Within

variable {stream : TokenStream} {start middle finish : Place}

theorem refl (inside : start.position ≤ stream.body.length) : Within stream start start :=
  ⟨inside, [], rfl, by simp⟩

theorem trans (first : Within stream start middle) (second : Within stream middle finish) :
    Within stream start finish := by
  obtain ⟨early, earlyTrail, earlyInside⟩ := first.visited
  obtain ⟨late, lateTrail, lateInside⟩ := second.visited
  refine ⟨second.inside, late ++ early, ?_, List.forall_mem_append.mpr ⟨lateInside, earlyInside⟩⟩
  rw [lateTrail, earlyTrail, List.append_assoc]

theorem noted (inside : start.position ≤ stream.body.length) : Within stream start start.noted :=
  ⟨inside, [start.position], rfl, List.forall_mem_singleton.mpr inside⟩

theorem advanced (before : start.position < stream.body.length) :
    Within stream start start.noted.moved.noted :=
  ⟨before, [start.position + 1, start.position], rfl, by
    intro position member
    simp only [List.mem_cons, List.not_mem_nil, or_false] at member
    omega⟩

end Place.Within

namespace Walk

variable {stream : TokenStream} {walk : Walk Expression} {place : Place}

/-- From the place the walk ends within the stream as the parser does. With a tree it ends before the
tokens that are left, as deep as it started. -/
inductive AgreesAt (stream : TokenStream) (walk : Walk Expression) (place : Place) :
    Except ParseError Reading → Prop where
  | ok {tree : Expression} {finish : Place} (within : place.Within stream finish)
      (ends : Ends walk place (.ok tree) finish) (sameDepth : finish.depth = place.depth) :
      AgreesAt stream walk place (.ok (tree, stream.body.drop finish.position))
  | error {error : ParseError} {finish : Place} (within : place.Within stream finish)
      (ends : Ends walk place (.error error) finish) : AgreesAt stream walk place (.error error)

/-- A walk agrees with a step when it does so at every place with the same room. -/
def Agrees (stream : TokenStream) (room : Nat) (walk : Walk Expression)
    (reading : List Token → Except ParseError Reading) : Prop :=
  ∀ place : Place, place.position ≤ stream.body.length → nestingLimit - place.depth = room →
    AgreesAt stream walk place (reading (stream.body.drop place.position))

namespace AgreesAt

variable {outcome : Except ParseError Reading} {next : Token → Walk Expression}

theorem refuse (place : Place) (inside : place.position ≤ stream.body.length)
    (failure : ParseFailure) (token : Token) :
    AgreesAt stream (Walk.refuse failure token) place (.error ⟨failure, token⟩) :=
  .error (.refl inside) (ends_refuse failure token place)

theorem pure {rest : List Token} (place : Place)
    (inside : place.position ≤ stream.body.length)
    (ahead : stream.body.drop place.position = rest) (tree : Expression) :
    AgreesAt stream (Pure.pure tree) place (.ok (tree, rest)) := by
  subst ahead
  exact .ok (.refl inside) (ends_pure tree place) rfl

/-- What stays within the stream and keeps the depth can be put before a walk. -/
theorem after {A : Type} {first : Walk A} {next : A → Walk Expression} {value : A} {middle : Place}
    (within : place.Within stream middle) (ends : Ends first place (.ok value) middle)
    (sameDepth : middle.depth = place.depth)
    (behind : AgreesAt stream (next value) middle outcome) :
    AgreesAt stream (first >>= next) place outcome := by
  cases behind with
  | error behindWithin behindEnds =>
      exact .error (within.trans behindWithin) (ends.bind behindEnds)
  | ok behindWithin behindEnds behindDepth =>
      exact .ok (within.trans behindWithin) (ends.bind behindEnds) (behindDepth.trans sameDepth)

/-- A walk goes on from where another one ended, if that did not fail. -/
theorem bind {further : Expression → Walk Expression}
    {later : Reading → Except ParseError Reading} (agrees : AgreesAt stream walk place outcome)
    (behind : ∀ tree finish, finish.position ≤ stream.body.length → finish.depth = place.depth →
      outcome = .ok (tree, stream.body.drop finish.position) →
      AgreesAt stream (further tree) finish (later (tree, stream.body.drop finish.position))) :
    AgreesAt stream (walk >>= further) place (outcome >>= later) := by
  cases agrees with
  | error within ends => exact .error within ends.bind_error
  | ok within ends sameDepth =>
      exact .after within ends sameDepth (behind _ _ within.inside sameDepth rfl)

theorem map (agrees : AgreesAt stream walk place outcome) (around : Expression → Expression) :
    AgreesAt stream (walk >>= fun tree => Pure.pure (around tree)) place
      (outcome.map fun reading => (around reading.1, reading.2)) := by
  cases agrees with
  | error within ends => exact .error within ends.bind_error
  | ok within ends sameDepth =>
      exact .after within ends sameDepth (.pure _ within.inside rfl _)

/-- To look at a token changes neither the position nor the depth. -/
theorem look (inside : place.position ≤ stream.body.length)
    (behind : AgreesAt stream (next (stream.tokenAt place.position)) place.noted outcome) :
    AgreesAt stream (Walk.look stream >>= next) place outcome :=
  .after (.noted inside) (ends_look stream place) rfl behind

/-- Before the stop a walk can advance by one token. -/
theorem advance (before : place.position < stream.body.length)
    (behind : AgreesAt stream (next (stream.tokenAt place.position)) place.noted.moved.noted
      outcome) :
    AgreesAt stream (Walk.advance stream >>= next) place outcome :=
  .after (.advanced before) (ends_advance stream place) rfl behind

theorem exists_finish (agrees : AgreesAt stream walk place outcome) :
    ∃ finish, Ends walk place (outcome.map Prod.fst) finish ∧ place.Within stream finish ∧
      ∀ reading, outcome = .ok reading →
        reading.2 = stream.body.drop finish.position ∧ finish.depth = place.depth := by
  cases agrees with
  | error within ends => exact ⟨_, ends, within, by rintro reading ⟨⟩⟩
  | ok within ends sameDepth =>
      refine ⟨_, ends, within, ?_⟩
      rintro reading ⟨⟩
      exact ⟨rfl, sameDepth⟩

end AgreesAt

section Loops

variable {room : Nat} {step : Step} {connective : Connective} {State : Type}
  {loop : State → Walk Expression} {reads : State → List Token → Except ParseError Reading}
  {further : Expression → Walk Expression} {later : Reading → Except ParseError Reading}

/-- A walk that leaves fewer tokens has moved on. -/
theorem position_lt_of_shorter {start finish : Nat}
    (shorter : (stream.body.drop finish).length < (stream.body.drop start).length) :
    start < finish := by
  simp only [List.length_drop] at shorter
  omega

/-- In one turn of a loop a walk advances and then reads one more operand. -/
theorem AgreesAt.turn (agrees : Agrees stream room walk step.run)
    (before : place.position < stream.body.length) (same : nestingLimit - place.depth = room)
    (behind : ∀ tree finish, place.position < finish.position →
      finish.position ≤ stream.body.length → nestingLimit - finish.depth = room →
      AgreesAt stream (further tree) finish (later (tree, stream.body.drop finish.position))) :
    AgreesAt stream (Walk.advance stream >>= fun _ => walk >>= further) place
      (step.run (stream.body.drop (place.position + 1)) >>= later) := by
  apply AgreesAt.advance before
  apply (agrees place.noted.moved.noted before same).bind
  intro tree finish inside sameDepth read
  have moved : place.position + 1 < finish.position :=
    position_lt_of_shorter (step.shorter _ _ read)
  have depth : finish.depth = place.depth := sameDepth
  exact behind tree finish (Nat.lt_of_succ_lt moved) inside (by rw [depth, same])

/-- A loop agrees when each of its turns does, as long as the turns behind it do. -/
theorem agrees_of_turns
    (turn : ∀ state place, place.position ≤ stream.body.length → nestingLimit - place.depth = room →
      (∀ state later, place.position < later.position → later.position ≤ stream.body.length →
        nestingLimit - later.depth = room →
        AgreesAt stream (loop state) later (reads state (stream.body.drop later.position))) →
      AgreesAt stream (loop state) place (reads state (stream.body.drop place.position)))
    (state : State) : Agrees stream room (loop state) (reads state) := by
  intro place inside same
  -- An operand may use any number of tokens, so the induction is on how many are left.
  induction left : stream.body.length - place.position using Nat.strongRecOn
    generalizing place state with
  | ind count inductionHypothesis =>
      apply turn state place inside same
      intro state later further laterInside laterSame
      exact inductionHypothesis _ (by omega) state later laterInside laterSame rfl

/-- The reading of a chain when some of its operands were found already. -/
def chainFrom (connective : Connective) (step : Step) (found : List Expression)
    (tokens : List Token) : Except ParseError Reading :=
  (moreOperands connective step tokens).map fun others =>
    (Expression.chain connective (found ++ others.1), others.2)

theorem chainFrom_end {found : List Expression} {tokens : List Token}
    (ends : ∀ token ∈ tokens.head?, connectiveOf? token.form ≠ some connective) :
    chainFrom connective step found tokens = .ok (Expression.chain connective found, tokens) := by
  rw [chainFrom, Grammar.moreOperands_end ends]
  simp only [Except.map, List.append_nil]

theorem chainFrom_announced {found : List Expression} {token : Token} {rest : List Token}
    (announced : connectiveOf? token.form = some connective) :
    chainFrom connective step found (token :: rest) =
      step.run rest >>= fun next => chainFrom connective step (found ++ [next.1]) next.2 := by
  rw [chainFrom, Grammar.moreOperands_announced announced]
  cases step.run rest with
  | error error => rfl
  | ok next =>
      change ((moreOperands connective step next.2).map _).map _ = chainFrom _ _ _ next.2
      rw [chainFrom]
      cases moreOperands connective step next.2 with
      | error error => rfl
      | ok others => simp only [Except.map, List.append_assoc, List.singleton_append]

theorem runChain_eq (tokens : List Token) :
    runChain connective step tokens =
      step.run tokens >>= fun first => chainFrom connective step [first.1] first.2 := by
  rw [runChain]
  cases step.run tokens with
  | error error => rfl
  | ok first =>
      change (moreOperands connective step first.2 >>= _) = chainFrom _ _ _ first.2
      rw [chainFrom]
      cases moreOperands connective step first.2 <;> rfl

/-- The loop over the operands of a chain goes on as the step does. -/
theorem operands_agrees (stops : stream.stop.form = .stop)
    (agrees : Agrees stream room (stream.operand connective) step.run) (found : List Expression) :
    Agrees stream room (stream.operands connective found) (chainFrom connective step found) := by
  refine agrees_of_turns ?_ found
  intro found place inside same behind
  rw [TokenStream.operands]
  apply AgreesAt.look inside
  rw [stream.tokenAt_eq]
  cases ahead : stream.body.drop place.position with
  | nil =>
      have ended : connectiveOf? stream.stop.form ≠ some connective := by
        rw [stops]
        rintro ⟨⟩
      rw [List.headD_nil, if_neg ended, chainFrom_end (by simp)]
      exact .pure place.noted inside ahead _
  | cons token rest =>
      obtain ⟨before, drop⟩ := TokenStream.drop_succ_of_cons ahead
      rw [List.headD_cons]
      by_cases announced : connectiveOf? token.form = some connective
      · rw [if_pos announced, chainFrom_announced announced, ← drop]
        exact .turn agrees before same fun next finish => behind (found ++ [next]) finish
      · rw [if_neg announced, chainFrom_end (by simpa using announced)]
        exact .pure place.noted inside ahead _

theorem chain_agrees (stops : stream.stop.form = .stop)
    (agrees : Agrees stream room (stream.operand connective) step.run) :
    Agrees stream room (stream.chain connective) (Parser.chain connective step).run := by
  intro place inside same
  rw [TokenStream.chain]
  change AgreesAt stream _ place (runChain connective step _)
  rw [runChain_eq]
  apply (agrees place inside same).bind
  intro first finish finishInside sameDepth read
  exact operands_agrees stops agrees [first] finish finishInside (by rw [sameDepth, same])

/-- The loop over the comparisons of a row goes on as the step does. -/
theorem comparisons_agrees (stops : stream.stop.form = .stop)
    (agrees : Agrees stream room stream.unary step.run) (left : Expression) :
    Agrees stream room (stream.comparisons left) (moreComparisons step left) := by
  refine agrees_of_turns ?_ left
  intro left place inside same behind
  rw [TokenStream.comparisons]
  apply AgreesAt.look inside
  rw [stream.tokenAt_eq]
  cases ahead : stream.body.drop place.position with
  | nil =>
      have ended : comparisonOf? stream.stop.form = none := by
        rw [stops]
        rfl
      rw [List.headD_nil, ended, Grammar.moreComparisons_end (by simp)]
      exact .pure place.noted inside ahead _
  | cons token rest =>
      obtain ⟨before, drop⟩ := TokenStream.drop_succ_of_cons ahead
      rw [List.headD_cons]
      cases announced : comparisonOf? token.form with
      | none =>
          rw [Grammar.moreComparisons_end (by simpa using announced)]
          exact .pure place.noted inside ahead _
      | some operator =>
          rw [Grammar.moreComparisons_announced announced, ← drop]
          exact .turn agrees before same fun right finish =>
            behind (.comparison operator left right) finish

theorem comparison_agrees (stops : stream.stop.form = .stop)
    (agrees : Agrees stream room stream.unary step.run) :
    Agrees stream room stream.comparison (Parser.comparisons step).run := by
  intro place inside same
  rw [TokenStream.comparison]
  apply (agrees place inside same).bind
  intro left finish finishInside sameDepth read
  exact comparisons_agrees stops agrees left finish finishInside (by rw [sameDepth, same])

end Loops

section Operands

variable {room : Nat} {inner outer : Step} {reading : List Token → Except ParseError Reading}

/-- One level further down there is room for one opening less. -/
theorem nested_agrees (agrees : Agrees stream room walk reading) :
    Agrees stream (room + 1) (nested stream walk) reading := by
  intro place inside same
  have below : place.depth < nestingLimit := by omega
  have entered : nestingLimit - place.entered.depth = room := by
    change nestingLimit - (place.depth + 1) = room
    omega
  have ends := agrees place.entered inside entered
  change AgreesAt stream walk place.entered (reading (stream.body.drop place.position)) at ends
  generalize reading (stream.body.drop place.position) = outcome at ends ⊢
  cases ends with
  | error within ends => exact .error ⟨within.inside, within.visited⟩ (ends.nested_error below)
  | @ok tree finish within ends sameDepth =>
      have returned : finish.returned.depth = place.depth := by
        change finish.depth - 1 = place.depth
        rw [sameDepth]
        rfl
      change AgreesAt stream _ place (.ok (tree, stream.body.drop finish.returned.position))
      exact .ok ⟨within.inside, within.visited⟩ (ends.nested below) returned

theorem nested_agrees_full : Agrees stream 0 (nested stream walk) (tooDeep stream.stop).run := by
  intro place inside same
  have full : nestingLimit ≤ place.depth := by omega
  change AgreesAt stream _ place (.error ⟨_, (stream.body.drop place.position).headD stream.stop⟩)
  rw [← stream.tokenAt_eq]
  exact .error (.noted inside) (ends_nested_full full)

theorem close_agreesAt (inside : place.position ≤ stream.body.length)
    (stops : stream.stop.form = .stop) (tree : Expression) :
    AgreesAt stream (close stream tree) place
      (closeParenthesis stream.stop (tree, stream.body.drop place.position)) := by
  rw [close]
  apply AgreesAt.look inside
  rw [stream.tokenAt_eq, closeParenthesis]
  cases ahead : stream.body.drop place.position with
  | nil =>
      rw [List.headD_nil, if_neg (by simp [stops])]
      exact .refuse place.noted inside _ _
  | cons token rest =>
      obtain ⟨before, drop⟩ := TokenStream.drop_succ_of_cons ahead
      rw [List.headD_cons]
      dsimp only
      by_cases closes : token.form = .closing
      · rw [if_pos closes, if_pos closes]
        exact .advance before (.pure place.noted.noted.moved.noted before drop tree)
      · rw [if_neg closes, if_neg closes]
        exact .refuse place.noted inside _ _

/-- A reading that expects an operand without a sign. -/
def refuseSign (stop : Token) (reading : List Token → Except ParseError Reading)
    (tokens : List Token) : Except ParseError Reading :=
  match (tokens.headD stop).form.sign? with
  | none => reading tokens
  | some _ => .error ⟨.unexpectedToken, tokens.headD stop⟩

theorem primary_agrees (stops : stream.stop.form = .stop)
    (agrees : Agrees stream room (nested stream (stream.chain .or)) outer.run) :
    Agrees stream room stream.primary
      (refuseSign stream.stop (runOperand stream.stop inner outer)) := by
  intro place inside same
  rw [TokenStream.primary]
  apply AgreesAt.look inside
  rw [stream.tokenAt_eq, refuseSign]
  cases ahead : stream.body.drop place.position with
  | nil =>
      rw [List.headD_nil, stops]
      exact .refuse place.noted inside _ _
  | cons token rest =>
      obtain ⟨before, drop⟩ := TokenStream.drop_succ_of_cons ahead
      rw [List.headD_cons, runOperand]
      cases form : token.form with
      | literal value => exact .advance before (.pure place.noted.noted.moved.noted before drop _)
      | identifier name => exact .advance before (.pure place.noted.noted.moved.noted before drop _)
      | opening =>
          rw [← drop]
          exact .turn agrees before same fun tree finish _ finishInside _ =>
            close_agreesAt finishInside stops tree
      | _ => exact .refuse place.noted inside _ _

theorem runOperand_sign {stop token : Token} {rest : List Token} {operator : UnaryOperator}
    (sign : token.form.sign? = some operator) :
    runOperand stop inner outer (token :: rest) =
      (inner.run rest).map fun reading => (.unary operator reading.1, reading.2) := by
  rw [runOperand]
  cases form : token.form <;> rw [form] at sign <;> cases sign <;> rfl

theorem unary_agrees (stops : stream.stop.form = .stop)
    (agreesInner : Agrees stream room (nested stream stream.unary) inner.run)
    (agreesOuter : Agrees stream room (nested stream (stream.chain .or)) outer.run) :
    Agrees stream room stream.unary (operandWith stream.stop inner outer).run := by
  intro place inside same
  rw [TokenStream.unary]
  apply AgreesAt.look inside
  have primary : AgreesAt stream stream.primary place.noted
      (refuseSign stream.stop (runOperand stream.stop inner outer)
        (stream.body.drop place.position)) :=
    primary_agrees stops agreesOuter place.noted inside same
  rw [refuseSign, ← stream.tokenAt_eq] at primary
  cases sign : (stream.tokenAt place.position).form.sign? with
  | none =>
      rw [sign] at primary
      exact primary
  | some operator =>
      rw [stream.tokenAt_eq] at sign
      cases ahead : stream.body.drop place.position with
      | nil =>
          rw [ahead, List.headD_nil, stops] at sign
          cases sign
      | cons token rest =>
          rw [ahead, List.headD_cons] at sign
          obtain ⟨before, drop⟩ := TokenStream.drop_succ_of_cons ahead
          change AgreesAt stream _ _ (runOperand stream.stop inner outer (token :: rest))
          rw [runOperand_sign sign, ← drop]
          have nested := agreesInner place.noted.noted.moved.noted before same
          exact .advance before (nested.map (.unary operator))

theorem expression_agrees {step : Step} (stops : stream.stop.form = .stop)
    (agrees : Agrees stream room stream.unary step.run) :
    Agrees stream room (stream.chain .and) (Parser.chain .and (Parser.comparisons step)).run ∧
      Agrees stream room (stream.chain .or) (expression step).run := by
  have conjunction :
      Agrees stream room (stream.chain .and) (Parser.chain .and (Parser.comparisons step)).run := by
    apply chain_agrees stops
    rw [TokenStream.operand]
    exact comparison_agrees stops agrees
  refine ⟨conjunction, ?_⟩
  apply chain_agrees stops
  rw [TokenStream.operand]
  exact conjunction

/-- With any room, both nested walks of an operand agree with the steps that the parser uses there. -/
theorem exists_nested_agrees (stops : stream.stop.form = .stop) (room : Nat) :
    ∃ inner outer, Parser.operand stream.stop room = operandWith stream.stop inner outer ∧
      Agrees stream room (nested stream stream.unary) inner.run ∧
      Agrees stream room (nested stream (stream.chain .or)) outer.run := by
  induction room with
  | zero => exact ⟨_, _, rfl, nested_agrees_full, nested_agrees_full⟩
  | succ room inductionHypothesis =>
      obtain ⟨inner, outer, same, agreesInner, agreesOuter⟩ := inductionHypothesis
      have agrees := unary_agrees stops agreesInner agreesOuter
      rw [← same] at agrees
      exact ⟨_, _, rfl, nested_agrees agrees, nested_agrees (expression_agrees stops agrees).2⟩

end Operands

end Walk

end Predicates
