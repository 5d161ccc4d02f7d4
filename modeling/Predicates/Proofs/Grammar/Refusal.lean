/-
This file shows that an outcome of the parser depends on the tokens up to the one where it stops, and
not on the tokens behind or on more room for nesting.
-/

import Predicates.Proofs.Grammar.Completeness
import Mathlib.Tactic.Choose

namespace Predicates.Parser

/-- Every phrase ends before a closing parenthesis and at the end of the tokens. -/
def Ended (tokens : List Token) : Prop :=
  ∀ token ∈ tokens.head?, token.form = .closing

theorem ended_nil : Ended [] :=
  fun token member => by cases member

/-- The other tokens start like the rest, or every phrase ends before them. -/
def StopsLike (rest others : List Token) : Prop :=
  others.head? = rest.head? ∨ Ended others

/-- What ends neither at the rest nor at a closing parenthesis also ends at tokens like the rest. -/
theorem StopsLike.forall_head? {rest others : List Token} (like : StopsLike rest others)
    (ends : TokenForm → Prop) (here : ∀ token ∈ rest.head?, ends token.form)
    (closing : ends .closing) : ∀ token ∈ others.head?, ends token.form := by
  intro token member
  rcases like with same | ended
  · exact here token (same ▸ member)
  · rw [ended token member]
    exact closing

/-- Either there is a first token of this kind, or the first token, if any, is of another kind. -/
theorem first_cases (tokens : List Token) (kind : Token → Prop) :
    (∃ token rest, tokens = token :: rest ∧ kind token) ∨ ∀ token ∈ tokens.head?, ¬ kind token := by
  cases tokens with
  | nil => exact Or.inr fun token member => by cases member
  | cons first rest =>
      by_cases holds : kind first
      · exact Or.inl ⟨first, rest, rfl, holds⟩
      · exact Or.inr fun token member => Option.some.inj member ▸ holds

section Outcomes

variable {A B Room : Type} {stop : Token} {tokens rest : List Token}
  {runs : Room → List Token → Except ParseError (A × List Token)}
  {outcome : Except ParseError (A × List Token)}

/-- An outcome foretells what other runs find in other tokens. A reading is found again before all
tokens that stop like those behind it. The tokens before a refused one can be completed, but not by
tokens that start with the refused one. Nothing follows from nesting that is too deep. -/
inductive Foretells (stop : Token) (runs : Room → List Token → Except ParseError (A × List Token))
    (tokens : List Token) : Except ParseError (A × List Token) → Prop where
  | read {result : A} {used rest : List Token} (split : tokens = used ++ rest)
      (again : ∀ room others, StopsLike rest others →
        runs room (used ++ others) = .ok (result, others)) :
      Foretells stop runs tokens (.ok (result, rest))
  | refused {failure : ParseFailure} {before rest : List Token} (split : tokens = before ++ rest)
      (completion : List Token)
      (completed : ∀ room after, Ended after →
        ∃ result, runs room (before ++ (completion ++ after)) = .ok (result, after))
      (refuses : ∀ room others, others.head? = rest.head? →
        ∃ error, runs room (before ++ others) = .error error) :
      Foretells stop runs tokens (.error ⟨failure, rest.headD stop⟩)
  | tooDeep (token : Token) : Foretells stop runs tokens (.error ⟨.nestedTooDeeply, token⟩)

/-- A run that passes over known tokens foretells as much as the run behind them. -/
theorem Foretells.behind {whole : Room → List Token → Except ParseError (A × List Token)}
    (foretold : Foretells stop runs rest outcome) (lead : List Token)
    (same : ∀ room others, whole room (lead ++ others) = runs room others) :
    Foretells stop whole (lead ++ rest) outcome := by
  cases foretold with
  | @read result used rest split again =>
      have joined : lead ++ (used ++ rest) = (lead ++ used) ++ rest := by rw [List.append_assoc]
      rw [split, joined]
      refine .read rfl fun room others like => ?_
      rw [List.append_assoc, same]
      exact again room others like
  | @refused failure before rest split completion completed refuses =>
      have joined : lead ++ (before ++ rest) = (lead ++ before) ++ rest := by rw [List.append_assoc]
      rw [split, joined]
      refine .refused rfl completion (fun room after ended => ?_) fun room others starts => ?_
      · rw [List.append_assoc, same]
        exact completed room after ended
      · rw [List.append_assoc, same]
        exact refuses room others starts
  | tooDeep token => exact .tooDeep token

theorem Foretells.map (change : A → B) (foretold : Foretells stop runs tokens outcome) :
    Foretells stop (fun room others => (runs room others).map fun reading =>
      (change reading.1, reading.2)) tokens
      (outcome.map fun reading => (change reading.1, reading.2)) := by
  cases foretold with
  | read split again =>
      refine .read split fun room others like => ?_
      rw [again room others like]
      rfl
  | refused split completion completed refuses =>
      refine .refused split completion (fun room after ended => ?_) fun room others starts => ?_
      · obtain ⟨result, found⟩ := completed room after ended
        exact ⟨change result, by rw [found]; rfl⟩
      · obtain ⟨error, failed⟩ := refuses room others starts
        exact ⟨error, by rw [failed]; rfl⟩
  | tooDeep token => exact .tooDeep token

/-- What is read behind a result ends at once, or the next token announces more of it. -/
inductive Continues (stop : Token)
    (later : Room → List Token → Except ParseError (A × List Token)) :
    List Token → Except ParseError (A × List Token) → Prop where
  | ends {result : A} {rest : List Token}
      (again : ∀ room others, StopsLike rest others → later room others = .ok (result, others)) :
      Continues stop later rest (.ok (result, rest))
  | announced {token : Token} {rest : List Token} {outcome : Except ParseError (A × List Token)}
      {inner : Room → List Token → Except ParseError (A × List Token)}
      (opens : ∀ room others, later room (token :: others) = inner room others)
      (foretold : Foretells stop inner rest outcome) : Continues stop later (token :: rest) outcome

theorem Continues.map (change : A → B) (continues : Continues stop runs rest outcome) :
    Continues stop (fun room others => (runs room others).map fun reading =>
      (change reading.1, reading.2)) rest
      (outcome.map fun reading => (change reading.1, reading.2)) := by
  cases continues with
  | ends again =>
      refine .ends fun room others like => ?_
      rw [again room others like]
      rfl
  | announced opens foretold =>
      refine .announced (fun room others => ?_) (foretold.map change)
      rw [opens]

/-- Two runs, one behind the other, foretell as much as each of them. The later one ends wherever every
phrase ends, so that a completion of the first one is a completion of both. -/
theorem Foretells.bind {later : Room → A × List Token → Except ParseError (B × List Token)}
    {next : A × List Token → Except ParseError (B × List Token)}
    (foretold : Foretells stop runs tokens outcome)
    (ends : ∀ room result after, Ended after →
      ∃ final, later room (result, after) = .ok (final, after))
    (continues : ∀ result rest, outcome = .ok (result, rest) →
      Continues stop (fun room others => later room (result, others)) rest (next (result, rest))) :
    Foretells stop (fun room others => runs room others >>= later room) tokens
      (outcome >>= next) := by
  cases foretold with
  | @read result used rest split again =>
      have more := continues result rest rfl
      change Foretells _ _ _ (next (result, rest))
      generalize next (result, rest) = final at more
      cases more with
      | ends endsAgain =>
          refine .read split fun room others like => ?_
          rw [again room others like]
          exact endsAgain room others like
      | @announced token rest outcome inner opens foretold =>
          have joined : used ++ token :: rest = (used ++ [token]) ++ rest := by simp
          rw [split, joined]
          refine foretold.behind (used ++ [token]) fun room others => ?_
          rw [List.append_assoc, List.singleton_append, again room (token :: others) (Or.inl rfl)]
          exact opens room others
  | refused split completion completed refuses =>
      refine .refused split completion (fun room after ended => ?_) fun room others starts => ?_
      · obtain ⟨result, found⟩ := completed room after ended
        rw [found]
        exact ends room result after ended
      · obtain ⟨error, failed⟩ := refuses room others starts
        exact ⟨error, by rw [failed]; rfl⟩
  | tooDeep token => exact .tooDeep token

theorem closeParenthesis_cons (stop : Token) {tree : Expression} {token : Token}
    (closes : token.form = .closing) :
    closeParenthesis stop (tree, token :: rest) = .ok (tree, rest) := by
  simp only [closeParenthesis, if_pos closes]

theorem closeParenthesis_unclosed {tree : Expression}
    (unclosed : ∀ token ∈ rest.head?, token.form ≠ .closing) :
    closeParenthesis stop (tree, rest) = .error ⟨.missingClosing, rest.headD stop⟩ := by
  cases rest with
  | nil => rfl
  | cons token rest => simp only [closeParenthesis, if_neg (unclosed token rfl), List.headD_cons]

/-- Parentheses are completed by what completes the expression in them and by the closing one. -/
theorem Foretells.parenthesis {runs : Room → List Token → Except ParseError Reading}
    {outcome : Except ParseError Reading} (foretold : Foretells stop runs tokens outcome) :
    Foretells stop (fun room others => (runs room others).bind (closeParenthesis stop)) tokens
      (outcome.bind (closeParenthesis stop)) := by
  let closing : Token := ⟨.closing, Location.start⟩
  have ended (after : List Token) : Ended (closing :: after) := by
    intro token member
    cases member
    rfl
  have closed (tree : Expression) (after : List Token) :
      closeParenthesis stop (tree, closing :: after) = .ok (tree, after) :=
    closeParenthesis_cons stop rfl
  cases foretold with
  | @read result used rest split again =>
      change Foretells _ _ _ (closeParenthesis stop (result, rest))
      rcases first_cases rest (Token.form · = .closing) with
        ⟨token, behind, rfl, closes⟩ | unclosed
      · have joined : used ++ token :: behind = (used ++ [token]) ++ behind := by simp
        rw [closeParenthesis_cons stop closes]
        refine .read (split.trans joined) fun room others _ => ?_
        rw [List.append_assoc, List.singleton_append, again room (token :: others) (Or.inl rfl)]
        exact closeParenthesis_cons stop closes
      · rw [closeParenthesis_unclosed unclosed]
        refine .refused split [closing] (fun room after _ => ?_) fun room others starts => ?_
        · rw [List.singleton_append, again room _ (Or.inr (ended after))]
          exact ⟨result, closed result after⟩
        · rw [again room others (Or.inl starts)]
          exact ⟨_, closeParenthesis_unclosed (starts ▸ unclosed)⟩
  | refused split completion completed refuses =>
      refine .refused split (completion ++ [closing]) (fun room after _ => ?_)
        fun room others starts => ?_
      · obtain ⟨result, found⟩ := completed room (closing :: after) (ended after)
        rw [List.append_assoc, List.singleton_append, found]
        exact ⟨result, closed result after⟩
      · obtain ⟨error, failed⟩ := refuses room others starts
        exact ⟨error, by rw [failed]; rfl⟩
  | tooDeep token => exact .tooDeep token

end Outcomes

section Steps

variable {Room : Type} {stop : Token} {narrow : Step} {wide : Room → Step}

/-- The outcomes of the narrow step foretell those of the wide ones. -/
def Follows (stop : Token) (narrow : Step) (wide : Room → Step) : Prop :=
  ∀ tokens, Foretells stop (fun room => (wide room).run) tokens (narrow.run tokens)

theorem tooDeep_follows : Follows stop (tooDeep stop) wide :=
  fun _ => .tooDeep _

/-- At such an end, no further operand is announced. -/
theorem moreOperands_ended {connective : Connective} {operand : Step} {after : List Token}
    (ended : Ended after) : moreOperands connective operand after = .ok ([], after) :=
  Grammar.moreOperands_end fun token member => by simp [ended token member, connectiveOf?]

theorem moreComparisons_ended {operand : Step} {left : Expression} {after : List Token}
    (ended : Ended after) : moreComparisons operand left after = .ok (left, after) :=
  Grammar.moreComparisons_end fun token member => by simp [ended token member, comparisonOf?]

section Rows

variable (follows : Follows stop narrow wide)
include follows

theorem moreOperands_continues (connective : Connective) (tokens : List Token) :
    Continues stop (fun room others => moreOperands connective (wide room) others) tokens
      (moreOperands connective narrow tokens) := by
  -- An operand may use any number of tokens, so the induction is on how many are left.
  induction length : tokens.length using Nat.strongRecOn generalizing tokens with
  | ind count inductionHypothesis =>
      rcases first_cases tokens fun token => connectiveOf? token.form = some connective with
        ⟨token, rest, rfl, announced⟩ | unannounced
      · rw [Grammar.moreOperands_announced announced]
        refine .announced (fun room others => Grammar.moreOperands_announced announced) ?_
        refine (follows rest).bind (fun room result after ended => ?_) fun next behind found => ?_
        · rw [moreOperands_ended ended]
          exact ⟨[result], rfl⟩
        · have shorter : behind.length < count := by
            have : behind.length < rest.length := narrow.shorter rest (next, behind) found
            rw [← length, List.length_cons]
            omega
          exact (inductionHypothesis behind.length shorter behind rfl).map (next :: ·)
      · rw [Grammar.moreOperands_end unannounced]
        refine .ends fun room others like => Grammar.moreOperands_end ?_
        apply like.forall_head? (connectiveOf? · ≠ some connective) unannounced
        simp [connectiveOf?]

theorem chain_follows (connective : Connective) :
    Follows stop (chain connective narrow) fun room => chain connective (wide room) := by
  intro tokens
  refine (follows tokens).bind (fun room result after ended => ?_) fun first rest _ => ?_
  · rw [moreOperands_ended ended]
    exact ⟨result, rfl⟩
  · exact (moreOperands_continues follows connective rest).map
      fun others => Expression.chain connective (first :: others)

theorem moreComparisons_continues (left : Expression) (tokens : List Token) :
    Continues stop (fun room others => moreComparisons (wide room) left others) tokens
      (moreComparisons narrow left tokens) := by
  induction length : tokens.length using Nat.strongRecOn generalizing left tokens with
  | ind count inductionHypothesis =>
      rcases first_cases tokens fun token => comparisonOf? token.form ≠ none with
        ⟨token, rest, rfl, some⟩ | notSome
      · obtain ⟨operator, announced⟩ := Option.ne_none_iff_exists'.mp some
        rw [Grammar.moreComparisons_announced announced]
        refine .announced (fun room others => Grammar.moreComparisons_announced announced) ?_
        refine (follows rest).bind (fun room result after ended => ?_) fun right behind found => ?_
        · exact ⟨_, moreComparisons_ended ended⟩
        · have shorter : behind.length < count := by
            have : behind.length < rest.length := narrow.shorter rest (right, behind) found
            rw [← length, List.length_cons]
            omega
          exact inductionHypothesis behind.length shorter (.comparison operator left right) behind
            rfl
      · have unannounced : ∀ token ∈ tokens.head?, comparisonOf? token.form = none :=
          fun token member => not_not.mp (notSome token member)
        rw [Grammar.moreComparisons_end unannounced]
        refine .ends fun room others like => Grammar.moreComparisons_end ?_
        exact like.forall_head? (comparisonOf? · = none) unannounced rfl

theorem comparisons_follows :
    Follows stop (comparisons narrow) fun room => comparisons (wide room) := by
  intro tokens
  refine (follows tokens).bind (fun room result after ended => ?_) fun left rest _ => ?_
  · exact ⟨result, moreComparisons_ended ended⟩
  · exact moreComparisons_continues follows left rest

theorem expression_follows :
    Follows stop (expression narrow) fun room => expression (wide room) :=
  chain_follows (chain_follows (comparisons_follows follows) .and) .or

end Rows

section Operands

variable {nested enclosed : Step} {wideNested wideEnclosed : Room → Step}

/-- A literal could stand where no operand starts. -/
theorem runOperand_foretells {tokens : List Token} {failure : ParseFailure}
    (refuses : ∀ nested enclosed others, others.head? = tokens.head? →
      runOperand stop nested enclosed others = .error ⟨failure, tokens.headD stop⟩) :
    Foretells stop (fun room => runOperand stop (wideNested room) (wideEnclosed room)) tokens
      (runOperand stop nested enclosed tokens) := by
  let literal : Token := ⟨.literal .null, Location.start⟩
  have completed (room : Room) (after : List Token) : runOperand stop (wideNested room)
      (wideEnclosed room) (literal :: after) = .ok (.literal .null, after) := rfl
  have split : tokens = [] ++ tokens := rfl
  rw [refuses nested enclosed tokens rfl]
  exact .refused split [literal] (fun room after _ => ⟨_, completed room after⟩)
    fun room others starts => ⟨_, refuses _ _ others starts⟩

/-- An operand foretells as much as what is nested in it. -/
theorem operandWith_follows (operands : Follows stop nested wideNested)
    (expressions : Follows stop enclosed wideEnclosed) :
    Follows stop (operandWith stop nested enclosed) fun room =>
      operandWith stop (wideNested room) (wideEnclosed room) := by
  intro tokens
  change Foretells stop (fun room => runOperand stop (wideNested room) (wideEnclosed room)) tokens
    (runOperand stop nested enclosed tokens)
  cases tokens with
  | nil =>
      apply runOperand_foretells
      intro nested enclosed others starts
      rw [List.head?_eq_none_iff.mp starts]
      rfl
  | cons token rest =>
      have split : token :: rest = [token] ++ rest := rfl
      -- The first token alone decides whether an operand starts with it.
      have unfit {failure : ParseFailure} (refuses : ∀ nested enclosed others,
          runOperand stop nested enclosed (token :: others) = .error ⟨failure, token⟩) :
          Foretells stop (fun room => runOperand stop (wideNested room) (wideEnclosed room))
            (token :: rest) (runOperand stop nested enclosed (token :: rest)) := by
        apply runOperand_foretells
        intro nested enclosed others starts
        obtain ⟨behind, rfl⟩ := List.head?_eq_some_iff.mp starts
        exact refuses nested enclosed behind
      obtain ⟨form, location⟩ := token
      cases form with
      | literal value => exact .read split fun room others _ => rfl
      | identifier name => exact .read split fun room others _ => rfl
      | comparison operator => exact unfit fun nested enclosed others => rfl
      | connective connective spelling => exact unfit fun nested enclosed others => rfl
      | not spelling =>
          have inner := (operands rest).map fun tree => Expression.unary .not tree
          exact inner.behind [_] fun room others => rfl
      | minus =>
          have inner := (operands rest).map fun tree => Expression.unary .minus tree
          exact inner.behind [_] fun room others => rfl
      | opening =>
          have inner := (expressions rest).parenthesis
          exact inner.behind [_] fun room others => rfl
      | closing => exact unfit fun nested enclosed others => rfl
      | stop => exact unfit fun nested enclosed others => rfl

end Operands

end Steps

theorem exists_operandWith (stop : Token) (room : Nat) :
    ∃ nested enclosed, operand stop room = operandWith stop nested enclosed := by
  cases room with
  | zero => exact ⟨_, _, rfl⟩
  | succ room => exact ⟨_, _, rfl⟩

/-- With some room, an operand foretells what is found with any more room. -/
theorem operand_follows (stop : Token) (room : Nat) :
    Follows stop (operand stop room) fun extra => operand stop (extra + room) := by
  induction room with
  | zero =>
      choose nested enclosed same using exists_operandWith stop
      have wide : (fun extra => operand stop (extra + 0)) = fun extra =>
        operandWith stop (nested extra) (enclosed extra) := funext same
      rw [wide]
      exact operandWith_follows tooDeep_follows tooDeep_follows
  | succ room inductionHypothesis =>
      exact operandWith_follows inductionHypothesis (expression_follows inductionHypothesis)

theorem expressionAt_follows (stop : Token) (room : Nat) :
    Follows stop (expressionAt stop room) fun extra => expressionAt stop (extra + room) :=
  expression_follows (operand_follows stop room)

end Predicates.Parser
