/-
This file shows that the parser reads everything that the grammar derives.
-/

import Predicates.Proofs.Grammar.Soundness

namespace Predicates.Grammar

open Predicates.Parser

/-- An operand of a chain ends before anything that binds looser than its own signs. -/
def OperandEnds (connective : Connective) (rest : List Token) : Prop :=
  ∀ token ∈ rest.head?, comparisonOf? token.form = none ∧
    (connective = .or → connectiveOf? token.form ≠ some .and)

/-- A chain also ends before no further sign of its own. -/
def ChainEnds (connective : Connective) (rest : List Token) : Prop :=
  OperandEnds connective rest ∧
    ∀ token ∈ rest.head?, connectiveOf? token.form ≠ some connective

/-- This step reads one operand of a chain. -/
def chainOperand (operand : Step) : Connective → Step
  | .or => chain .and (comparisons operand)
  | .and => comparisons operand

/-- The parser reads the phrase from the tokens and stops before the rest. A row of comparisons
is left open, because its own rule starts with a shorter row. -/
def ReadBack (operand : Step) (tokens rest : List Token) : Phrase → Prop
  | .primary tree => operand.run tokens = .ok (tree, rest)
  | .unary tree => operand.run tokens = .ok (tree, rest)
  | .comparison tree =>
      (comparisons operand).run tokens = moreComparisons operand tree rest
  | .run connective operands =>
      ChainEnds connective rest → ∃ first middle others, operands = first :: others ∧
        (chainOperand operand connective).run tokens = .ok (first, middle) ∧
        moreOperands connective (chainOperand operand connective) middle = .ok (others, rest)
  | .chain connective tree =>
      ChainEnds connective rest →
        (chain connective (chainOperand operand connective)).run tokens = .ok (tree, rest)

section Rows

variable {base step : Step} {tokens rest : List Token} {connective : Connective}

/-- The row is complete when no further comparison follows. -/
theorem moreComparisons_end {left : Expression}
    (ends : ∀ token ∈ rest.head?, comparisonOf? token.form = none) :
    moreComparisons base left rest = .ok (left, rest) := by
  cases rest with
  | nil => rw [moreComparisons]
  | cons token rest =>
      rw [moreComparisons]
      split
      · rfl
      · rename_i operator announced
        rw [ends token rfl] at announced
        simp at announced

theorem moreOperands_end
    (ends : ∀ token ∈ rest.head?, connectiveOf? token.form ≠ some connective) :
    moreOperands connective step rest = .ok ([], rest) := by
  cases rest with
  | nil => rw [moreOperands]
  | cons token rest => rw [moreOperands, if_neg (ends token rfl)]

/-- The sign of a comparison announces one more operand of the row. -/
theorem moreComparisons_announced {left : Expression} {token : Token} {operator : Comparison}
    (announced : comparisonOf? token.form = some operator) :
    moreComparisons base left (token :: rest) =
      base.run rest >>= fun right =>
        moreComparisons base (.comparison operator left right.1) right.2 := by
  rw [moreComparisons]
  split
  · rename_i none
    rw [announced] at none
    cases none
  · rename_i other found
    rw [announced] at found
    cases found
    split
    · rename_i error failed
      rw [failed]
      rfl
    · rename_i right read
      rw [read]
      rfl

/-- The sign of a chain announces one more operand. -/
theorem moreOperands_announced {token : Token}
    (announced : connectiveOf? token.form = some connective) :
    moreOperands connective step (token :: rest) =
      step.run rest >>= fun next =>
        (moreOperands connective step next.2).map fun others =>
          (next.1 :: others.1, others.2) := by
  rw [moreOperands, if_pos announced]
  split
  · rename_i error failed
    rw [failed]
    rfl
  · rename_i next read
    rw [read]
    rfl

/-- One comparison lengthens the row by the operand behind its sign. -/
theorem moreComparisons_cons {left right : Expression} {token : Token} {operator : Comparison}
    (form : token.form = .comparison operator) (read : base.run tokens = .ok (right, rest)) :
    moreComparisons base left (token :: tokens) =
      moreComparisons base (.comparison operator left right) rest := by
  have announced : comparisonOf? token.form = some operator := by rw [form, comparisonOf?]
  rw [moreComparisons_announced announced, read]
  rfl

theorem moreOperands_cons {spelling : Spelling} {first : Expression}
    {others : List Expression} {middle : List Token} {token : Token}
    (form : token.form = .connective connective spelling)
    (read : step.run tokens = .ok (first, middle))
    (more : moreOperands connective step middle = .ok (others, rest)) :
    moreOperands connective step (token :: tokens) = .ok (first :: others, rest) := by
  have announced : connectiveOf? token.form = some connective := by rw [form, connectiveOf?]
  rw [moreOperands_announced announced, read]
  change (moreOperands connective step middle).map _ = _
  rw [more]
  rfl

/-- An operand is read back by the step of its chain. -/
theorem ReadBack.ofOperand {tree : Expression}
    (read : ReadBack base tokens rest (Phrase.operand connective tree))
    (ends : OperandEnds connective rest) :
    (chainOperand base connective).run tokens = .ok (tree, rest) := by
  cases connective with
  | or =>
      apply read
      constructor
      · intro token member
        exact ⟨(ends token member).1, by simp⟩
      · intro token member
        exact (ends token member).2 rfl
  | and =>
      have row : (comparisons base).run tokens = moreComparisons base tree rest := read
      exact row.trans (moreComparisons_end fun token member => (ends token member).1)

/-- The sign of a chain ends each of its operands. -/
theorem operandEnds_cons {token : Token} {spelling : Spelling}
    (form : token.form = .connective connective spelling) :
    OperandEnds connective (token :: rest) := by
  intro other member
  cases member
  rw [form]
  cases connective <;> simp [comparisonOf?, connectiveOf?]

theorem ReadBack.ofRun {tree : Expression} {operands : List Expression}
    (read : ReadBack base tokens rest (.run connective operands))
    (same : tree = Expression.chain connective operands) :
    ReadBack base tokens rest (.chain connective tree) := by
  intro ends
  obtain ⟨first, middle, others, rfl, foundFirst, foundOthers⟩ := read ends
  show runChain connective (chainOperand base connective) tokens = .ok (tree, rest)
  simp only [runChain, foundFirst, foundOthers, same, bind, Except.bind, pure, Except.pure]

end Rows

/-- An enclosed phrase leaves room for its opening token. -/
theorem Derives.room_of_enclosed {forms : List TokenForm} {phrase : Phrase} {depths : List Nat}
    {room : Nat} (derived : Derives forms phrase depths)
    (nested : Within room (depths.map (· + 1))) :
    ∃ inner, room = inner + 1 ∧ Within inner depths := by
  cases room with
  | zero => exact absurd (Within.pos_of_map_succ derived.depths_ne_nil nested) (Nat.lt_irrefl 0)
  | succ inner => exact ⟨inner, rfl, Within.map_succ.mp nested⟩

/-- A nested operand is read inside an operand with one more level of room. -/
theorem operand_run_cons {stop token : Token} {room : Nat} {tokens : List Token} :
    (operand stop (room + 1)).run (token :: tokens) =
      runOperand stop (operand stop room) (expression (operand stop room)) (token :: tokens) :=
  rfl

/-- An operand behind a unary operator is read with one level of room less. -/
theorem readBack_sign {stop token : Token} {forms : List TokenForm} {tree : Expression}
    {depths : List Nat} {room : Nat} {body rest : List Token} (operator : UnaryOperator)
    (derived : Derives forms (.unary tree) depths)
    (within : Within room (0 :: depths.map (· + 1)))
    (inner : ∀ smaller, Within smaller depths →
      (operand stop smaller).run (body ++ rest) = .ok (tree, rest))
    (sign : ∀ nestedOperand nestedExpression tokens,
      runOperand stop nestedOperand nestedExpression (token :: tokens) =
        (nestedOperand.run tokens).map fun reading => (.unary operator reading.1, reading.2)) :
    (operand stop room).run (token :: body ++ rest) = .ok (.unary operator tree, rest) := by
  have nested : Within room (depths.map (· + 1)) := fun depth member =>
    within depth (List.mem_cons_of_mem 0 member)
  obtain ⟨smaller, rfl, innerWithin⟩ := derived.room_of_enclosed nested
  rw [List.cons_append, operand_run_cons, sign, inner smaller innerWithin]
  rfl

/-- Whatever the grammar derives within the room is read back. -/
theorem Derives.readBack {forms : List TokenForm} {phrase : Phrase} {depths : List Nat}
    (derived : Derives forms phrase depths) (stop : Token) :
    ∀ (room : Nat) (used rest : List Token), used.map Token.form = forms → Within room depths →
      ReadBack (operand stop room) (used ++ rest) rest phrase := by
  induction derived with
  | literal value =>
      intro room used rest forms within
      obtain ⟨token, rfl, form⟩ := List.map_eq_singleton_iff.mp forms
      cases room <;> simp [ReadBack, operand, operandAround, operandWith, runOperand, form]
  | identifier name =>
      intro room used rest forms within
      obtain ⟨token, rfl, form⟩ := List.map_eq_singleton_iff.mp forms
      cases room <;> simp [ReadBack, operand, operandAround, operandWith, runOperand, form]
  | @parenthesis tokens tree depths inner inductionHypothesis =>
      intro room used rest forms within
      obtain ⟨opening, others, rfl, opens, forms⟩ := List.map_eq_cons_iff.mp forms
      obtain ⟨body, closings, rfl, bodyForms, closingForms⟩ := List.map_eq_append_iff.mp forms
      obtain ⟨closing, rfl, closes⟩ := List.map_eq_singleton_iff.mp closingForms
      have nested : Within room (depths.map (· + 1)) := fun depth member =>
        within depth (List.mem_cons_of_mem 0 (List.mem_append_left [0] member))
      obtain ⟨smaller, rfl, innerWithin⟩ := inner.room_of_enclosed nested
      -- The closing parenthesis ends the inner chain, whatever follows behind it.
      have ends : ChainEnds .or (closing :: rest) := by
        constructor <;> intro token member <;> cases member <;>
          simp [closes, comparisonOf?, connectiveOf?]
      have read := inductionHypothesis smaller body (closing :: rest) bodyForms innerWithin ends
      have body : (expression (operand stop smaller)).run (body ++ closing :: rest) =
        .ok (tree, closing :: rest) := read
      show (operand stop (smaller + 1)).run _ = _
      simp only [List.cons_append, List.append_assoc, List.nil_append, operand_run_cons,
        runOperand, opens, body, Except.bind, closeParenthesis, closes, if_true]
  | primary only inductionHypothesis =>
      intro room used rest forms within
      exact inductionHypothesis room used rest forms within
  | not spelling inner inductionHypothesis =>
      intro room used rest forms within
      obtain ⟨token, body, rfl, form, bodyForms⟩ := List.map_eq_cons_iff.mp forms
      apply readBack_sign .not inner within fun smaller =>
        inductionHypothesis smaller body rest bodyForms
      intro nestedOperand nestedExpression tokens
      simp only [runOperand, form]
  | minus inner inductionHypothesis =>
      intro room used rest forms within
      obtain ⟨token, body, rfl, form, bodyForms⟩ := List.map_eq_cons_iff.mp forms
      apply readBack_sign .minus inner within fun smaller =>
        inductionHypothesis smaller body rest bodyForms
      intro nestedOperand nestedExpression tokens
      simp only [runOperand, form]
  | unary only inductionHypothesis =>
      intro room used rest forms within
      have read : (operand stop room).run (used ++ rest) = .ok (_, rest) :=
        inductionHypothesis room used rest forms within
      show runComparisons (operand stop room) (used ++ rest) = _
      simp only [runComparisons, read, bind, Except.bind]
  | comparison operator before last beforeHypothesis lastHypothesis =>
      intro room used rest forms within
      obtain ⟨left, others, rfl, leftForms, forms⟩ := List.map_eq_append_iff.mp forms
      obtain ⟨sign, right, rfl, form, rightForms⟩ := List.map_eq_cons_iff.mp forms
      obtain ⟨leftWithin, rightWithin⟩ := Within.append_cons_zero.mp within
      have row := beforeHypothesis room left (sign :: right ++ rest) leftForms leftWithin
      have read := lastHypothesis room right rest rightForms rightWithin
      show (comparisons (operand stop room)).run _ = _
      rw [List.append_assoc]
      exact Eq.trans row (moreComparisons_cons form read)
  | @last connective tokens tree depths only inductionHypothesis =>
      intro room used rest forms within ends
      have read := (inductionHypothesis room used rest forms within).ofOperand ends.1
      exact ⟨tree, rest, [], rfl, read, moreOperands_end ends.2⟩
  | @more connective firstForms others first operands firstDepths depths spelling head tail
      headHypothesis tailHypothesis =>
      intro room used rest forms within ends
      obtain ⟨left, others, rfl, leftForms, forms⟩ := List.map_eq_append_iff.mp forms
      obtain ⟨sign, right, rfl, form, rightForms⟩ := List.map_eq_cons_iff.mp forms
      obtain ⟨leftWithin, rightWithin⟩ := Within.append_cons_zero.mp within
      have readFirst := (headHypothesis room left (sign :: right ++ rest) leftForms
        leftWithin).ofOperand (operandEnds_cons form)
      obtain ⟨second, middle, later, rfl, readSecond, readLater⟩ :=
        tailHypothesis room right rest rightForms rightWithin ends
      rw [List.append_assoc]
      exact ⟨first, _, second :: later, rfl, readFirst, moreOperands_cons form readSecond readLater⟩
  | single only inductionHypothesis =>
      intro room used rest forms within
      exact (inductionHypothesis room used rest forms within).ofRun rfl
  | @logical connective tokens operands depths run several inductionHypothesis =>
      intro room used rest forms within
      apply (inductionHypothesis room used rest forms within).ofRun
      cases operands with
      | nil => exact absurd several (Nat.not_succ_le_zero 1)
      | cons first others =>
          cases others with
          | nil => exact absurd several (Nat.not_succ_le_self 1)
          | cons second others => rfl

/-- A sentence within the room is read to its end. -/
theorem expressionAt_complete {tokens : List Token} {tree : Expression} {depths : List Nat}
    {room : Nat} (derived : Sentence (tokens.map Token.form) tree depths)
    (within : Within room depths) (stop : Token) :
    (expressionAt stop room).run tokens = .ok (tree, []) := by
  have read := derived.readBack stop room tokens [] rfl within
  rw [List.append_nil] at read
  apply read
  constructor <;> intro token member <;> cases member

end Predicates.Grammar
