/-
This file shows that the printed tokens of a tree derive it, nested less deep than the tree is high,
and that no other tokens of the tree have fewer parentheses.
-/

import Predicates.Proofs.Expression.Everywhere
import Predicates.Proofs.Grammar.Derivation
import Predicates.Proofs.Printing.Printer

namespace Predicates

namespace Binding

/-- The next form that binds less tightly. -/
def looser : Binding → Binding
  | .leaf => .sign
  | .sign => .comparison
  | .comparison => .conjunction
  | .conjunction => .disjunction
  | .disjunction => .disjunction

theorem rank_looser {binding : Binding} (tight : 0 < binding.rank) :
    binding.looser.rank + 1 = binding.rank := by
  cases binding with
  | disjunction => exact absurd tight (Nat.lt_irrefl 0)
  | _ => rfl

theorem rank_injective {first second : Binding} (same : first.rank = second.rank) :
    first = second := by
  cases first <;> cases second <;> first | rfl | cases same

end Binding

namespace Expression

theorem height_pos (tree : Expression) : 0 < tree.height := by
  cases tree <;> simp [height]

/-- A chain has at least two operands. -/
def IsProper : Expression → Prop
  | .logical _ operands => 2 ≤ operands.length
  | _ => True

/-- Trees that may stand in parentheses have one level of their height to spare. -/
def nesting (tree : Expression) : Nat :=
  if tree.binding.rank < Binding.sign.rank then tree.height - 1 else tree.height

theorem nesting_le_height (tree : Expression) : tree.nesting ≤ tree.height := by
  unfold nesting
  split
  · exact Nat.sub_le _ 1
  · exact Nat.le_refl _

end Expression

namespace Grammar

/-- The rule of the grammar for a form of expression. -/
def Phrase.ofBinding : Binding → Expression → Phrase
  | .disjunction => .chain .or
  | .conjunction => .chain .and
  | .comparison => .comparison
  | .sign => .unary
  | .leaf => .primary

theorem Phrase.ofBinding_ofConnective (connective : Connective) (tree : Expression) :
    Phrase.ofBinding (.ofConnective connective) tree = .chain connective tree := by
  cases connective <;> rfl

theorem Phrase.ofBinding_ofOperand (connective : Connective) (tree : Expression) :
    Phrase.ofBinding (.ofOperand connective) tree = Phrase.operand connective tree := by
  cases connective <;> rfl

section Climb

variable {forms : List TokenForm} {tree : Expression} {depths : List Nat} {given needed : Binding}

theorem Derives.loosen (derived : Derives forms (Phrase.ofBinding given tree) depths) :
    Derives forms (Phrase.ofBinding given.looser tree) depths := by
  cases given with
  | disjunction => exact derived
  | conjunction => exact .single (.last derived)
  | comparison => exact .single (.last derived)
  | sign => exact .unary derived
  | leaf => exact .primary derived

/-- What binds tightly can stand wherever less is needed. -/
theorem Derives.climb (loose : needed.rank ≤ given.rank)
    (derived : Derives forms (Phrase.ofBinding given tree) depths) :
    Derives forms (Phrase.ofBinding needed tree) depths := by
  obtain ⟨steps, same⟩ := Nat.exists_eq_add_of_le loose
  induction steps generalizing given with
  | zero => exact Binding.rank_injective same ▸ derived
  | succ steps inductionHypothesis =>
      have tight : 0 < given.rank := by omega
      have next := Binding.rank_looser tight
      exact inductionHypothesis (by omega) derived.loosen (by omega)

end Climb

/-- All tokens are nested less deep than the limit. -/
def Below (limit : Nat) (depths : List Nat) : Prop :=
  ∀ depth ∈ depths, depth < limit

theorem Below.mono {limit more : Nat} {depths : List Nat} (below : Below limit depths)
    (le : limit ≤ more) : Below more depths :=
  fun depth member => Nat.lt_of_lt_of_le (below depth member) le

theorem Below.join {limit : Nat} {left right : List Nat} (leftBelow : Below limit left)
    (rightBelow : Below limit right) (positive : 0 < limit) : Below limit (left ++ 0 :: right) := by
  intro depth member
  simp only [List.mem_append, List.mem_cons] at member
  rcases member with member | rfl | member
  · exact leftBelow depth member
  · exact positive
  · exact rightBelow depth member

theorem Below.enclose {limit : Nat} {depths : List Nat} (below : Below limit depths) :
    Below (limit + 1) (0 :: depths.map (· + 1)) := by
  intro depth member
  simp only [List.mem_cons, List.mem_map] at member
  rcases member with rfl | ⟨inner, member, rfl⟩
  · exact Nat.succ_pos limit
  · exact Nat.succ_lt_succ (below inner member)

/-- The tokens derive the phrase, nested less deep than the limit. -/
def DerivesBelow (limit : Nat) (forms : List TokenForm) (phrase : Phrase) : Prop :=
  ∃ depths, Derives forms phrase depths ∧ Below limit depths

section Printed

variable {tree : Expression}

/-- Parentheses take up the level that a looser tree has to spare. -/
theorem DerivesBelow.bracketed
    (derived : DerivesBelow tree.nesting tree.forms (Phrase.ofBinding tree.binding tree))
    {needed : Binding} (notLeaf : needed.rank ≤ Binding.sign.rank) :
    DerivesBelow tree.height (bracketed needed tree tree.forms) (Phrase.ofBinding needed tree) := by
  obtain ⟨depths, derived, below⟩ := derived
  unfold Predicates.bracketed
  split
  · rename_i loose
    have spare : tree.nesting + 1 = tree.height := by
      rw [Expression.nesting, if_pos (Nat.lt_of_lt_of_le loose notLeaf)]
      exact Nat.sub_add_cancel tree.height_pos
    have inner : Derives tree.forms (Phrase.ofBinding .disjunction tree) depths :=
      derived.climb (Nat.zero_le _)
    have whole : Derives (.opening :: (tree.forms ++ [.closing])) (Phrase.ofBinding .leaf tree)
        (0 :: (depths.map (· + 1) ++ [0])) := .parenthesis inner
    have fits : needed.rank ≤ Binding.leaf.rank := Nat.le_trans notLeaf (by decide)
    have enclosed : Below tree.height (0 :: depths.map (· + 1)) := spare ▸ below.enclose
    exact ⟨_, whole.climb fits, enclosed.join (by simp [Below]) tree.height_pos⟩
  · rename_i tight
    exact ⟨depths, derived.climb (Nat.le_of_not_lt tight), below.mono tree.nesting_le_height⟩

/-- The operands of a chain are nested less deep than the highest of them. -/
theorem derives_chainForms (connective : Connective) {operands : List Expression}
    (some : operands ≠ [])
    (derived : ∀ operand ∈ operands,
      DerivesBelow operand.nesting operand.forms (Phrase.ofBinding operand.binding operand)) :
    DerivesBelow (Expression.greatestHeight operands) (Expression.chainForms connective operands)
      (.run connective operands) := by
  have notLeaf : (Binding.ofOperand connective).rank ≤ Binding.sign.rank := by
    cases connective <;> decide
  induction operands with
  | nil => exact absurd rfl some
  | cons operand rest inductionHypothesis =>
      obtain ⟨depths, first, firstBelow⟩ :=
        (derived operand List.mem_cons_self).bracketed notLeaf
      rw [Phrase.ofBinding_ofOperand] at first
      have firstHeight : operand.height ≤ Expression.greatestHeight (operand :: rest) :=
        Nat.le_max_left _ _
      cases rest with
      | nil => exact ⟨depths, .last first, firstBelow.mono firstHeight⟩
      | cons second others =>
          obtain ⟨restDepths, run, restBelow⟩ := inductionHypothesis (by simp)
            fun operand member => derived operand (List.mem_cons_of_mem _ member)
          have restHeight : Expression.greatestHeight (second :: others) ≤
              Expression.greatestHeight (operand :: second :: others) := Nat.le_max_right _ _
          exact ⟨_, .more .symbol first run, (firstBelow.mono firstHeight).join
            (restBelow.mono restHeight) (Nat.lt_of_lt_of_le operand.height_pos firstHeight)⟩

/-- A proper tree is derived by its printed tokens, nested less deep than the tree is high. -/
theorem derives_forms (proper : tree.Everywhere Expression.IsProper) :
    DerivesBelow tree.nesting tree.forms (Phrase.ofBinding tree.binding tree) := by
  have outside : Below 1 [0] := by simp [Below]
  induction tree with
  | literal value => exact ⟨_, .literal value, outside⟩
  | identifier name => exact ⟨_, .identifier name, outside⟩
  | comparison operator left right leftHypothesis rightHypothesis =>
      obtain ⟨-, leftProper, rightProper⟩ := Expression.everywhere_comparison.mp proper
      have forComparison : Binding.comparison.rank ≤ Binding.sign.rank := by decide
      obtain ⟨leftDepths, leftDerived, leftBelow⟩ :=
        (leftHypothesis leftProper).bracketed forComparison
      obtain ⟨rightDepths, rightDerived, rightBelow⟩ :=
        (rightHypothesis rightProper).bracketed (Nat.le_refl Binding.sign.rank)
      have leftHeight : left.height ≤ max left.height right.height := Nat.le_max_left _ _
      have rightHeight : right.height ≤ max left.height right.height := Nat.le_max_right _ _
      exact ⟨_, .comparison operator leftDerived rightDerived, (leftBelow.mono leftHeight).join
        (rightBelow.mono rightHeight) (Nat.lt_of_lt_of_le left.height_pos leftHeight)⟩
  | logical connective operands inductionHypothesis =>
      obtain ⟨several, operandsProper⟩ := Expression.everywhere_logical.mp proper
      have some : operands ≠ [] :=
        List.ne_nil_of_length_pos (Nat.lt_of_lt_of_le Nat.two_pos several)
      obtain ⟨depths, run, below⟩ := derives_chainForms connective some
        fun operand member => inductionHypothesis operand member (operandsProper operand member)
      have chain := Derives.logical run several
      rw [← Phrase.ofBinding_ofConnective] at chain
      refine ⟨depths, chain, ?_⟩
      cases connective <;> exact below
  | unary operator operand inductionHypothesis =>
      have operandProper := (Expression.everywhere_unary.mp proper).2
      obtain ⟨depths, derived, below⟩ :=
        (inductionHypothesis operandProper).bracketed (Nat.le_refl Binding.sign.rank)
      cases operator with
      | not => exact ⟨_, .not .symbol derived, below.enclose⟩
      | minus => exact ⟨_, .minus derived, below.enclose⟩

/-- The printed tokens make up a sentence. -/
theorem sentence_forms (proper : tree.Everywhere Expression.IsProper) :
    ∃ depths, Sentence tree.forms tree depths ∧ ∀ depth ∈ depths, depth < tree.height := by
  obtain ⟨depths, derived, below⟩ := derives_forms proper
  have sentence : Derives tree.forms (Phrase.ofBinding .disjunction tree) depths :=
    derived.climb (Nat.zero_le _)
  exact ⟨depths, sentence, below.mono tree.nesting_le_height⟩

end Printed

section Fewest

/-- The number of parentheses that are opened. -/
def openings (forms : List TokenForm) : Nat :=
  forms.count .opening

theorem openings_append (left right : List TokenForm) :
    openings (left ++ right) = openings left + openings right :=
  List.count_append

theorem openings_cons {form : TokenForm} (notOpening : form ≠ .opening) (rest : List TokenForm) :
    openings (form :: rest) = openings rest :=
  List.count_cons_of_ne notOpening

theorem openings_parenthesis (forms : List TokenForm) :
    openings (.opening :: (forms ++ [.closing])) = openings forms + 1 := by
  rw [openings, List.count_cons_self, List.count_append]
  rfl

/-- A place that needs less takes no more parentheses. -/
theorem openings_bracketed_mono {fewer more : Binding} (le : fewer.rank ≤ more.rank)
    (tree : Expression) (forms : List TokenForm) :
    openings (bracketed fewer tree forms) ≤ openings (bracketed more tree forms) := by
  unfold bracketed
  split
  · rename_i loose
    exact Nat.le_of_eq (congrArg openings (if_pos (Nat.lt_of_lt_of_le loose le)).symm)
  · split
    · rw [openings_parenthesis]
      exact Nat.le_succ _
    · exact Nat.le_refl _

theorem openings_bracketed_le (needed : Binding) (tree : Expression) (forms : List TokenForm) :
    openings (bracketed needed tree forms) ≤ openings forms + 1 := by
  unfold bracketed
  split
  · exact Nat.le_of_eq (openings_parenthesis forms)
  · exact Nat.le_succ _

theorem bracketed_of_tight {needed : Binding} {tree : Expression}
    (tight : needed.rank ≤ tree.binding.rank) (forms : List TokenForm) :
    bracketed needed tree forms = forms :=
  if_neg (Nat.not_lt.mpr tight)

/-- The tokens that are printed for a phrase. -/
def Phrase.printed : Phrase → List TokenForm
  | .chain connective tree => bracketed (.ofConnective connective) tree tree.forms
  | .run connective operands => Expression.chainForms connective operands
  | .comparison tree => bracketed .comparison tree tree.forms
  | .unary tree => bracketed .sign tree tree.forms
  | .primary tree => bracketed .leaf tree tree.forms

theorem Phrase.printed_operand (connective : Connective) (tree : Expression) :
    (Phrase.operand connective tree).printed =
      bracketed (.ofOperand connective) tree tree.forms := by
  cases connective <;> rfl

/-- No derivation of a phrase opens fewer parentheses than its printed tokens. -/
theorem Derives.openings_le {forms : List TokenForm} {phrase : Phrase} {depths : List Nat}
    (derived : Derives forms phrase depths) : openings phrase.printed ≤ openings forms := by
  induction derived with
  | literal value => exact Nat.le_refl _
  | identifier name => exact Nat.le_refl _
  | @parenthesis tokens tree depths inner inductionHypothesis =>
      rw [openings_parenthesis]
      have atMost := openings_bracketed_le .leaf tree tree.forms
      have same : bracketed (.ofConnective .or) tree tree.forms = tree.forms :=
        bracketed_of_tight (Nat.zero_le _) tree.forms
      simp only [Phrase.printed, same] at inductionHypothesis ⊢
      exact Nat.le_trans atMost (Nat.succ_le_succ inductionHypothesis)
  | primary only inductionHypothesis =>
      exact Nat.le_trans (openings_bracketed_mono (by decide) _ _) inductionHypothesis
  | not spelling inner inductionHypothesis =>
      rw [openings_cons (by simp)]
      exact inductionHypothesis
  | minus inner inductionHypothesis =>
      rw [openings_cons (by simp)]
      exact inductionHypothesis
  | unary only inductionHypothesis =>
      exact Nat.le_trans (openings_bracketed_mono (by decide) _ _) inductionHypothesis
  | @comparison leftTokens rightTokens left right leftDepths rightDepths operator before last
      beforeHypothesis lastHypothesis =>
      have printed : (Phrase.comparison (.comparison operator left right)).printed =
          bracketed .comparison left left.forms ++
            .comparison operator :: bracketed .sign right right.forms := rfl
      rw [printed, openings_append, openings_append, openings_cons (by simp),
        openings_cons (by simp)]
      exact Nat.add_le_add beforeHypothesis lastHypothesis
  | last only inductionHypothesis =>
      rw [Phrase.printed_operand] at inductionHypothesis
      exact inductionHypothesis
  | @more connective firstTokens tokens first operands firstDepths depths spelling head tail
      headHypothesis tailHypothesis =>
      rw [Phrase.printed_operand] at headHypothesis
      rw [openings_append, openings_cons (by simp)]
      cases operands with
      | nil => exact Nat.le_trans headHypothesis (Nat.le_add_right _ _)
      | cons second others =>
          have printed : (Phrase.run connective (first :: second :: others)).printed =
              bracketed (.ofOperand connective) first first.forms ++
                .connective connective .symbol ::
                  (Phrase.run connective (second :: others)).printed :=
            rfl
          rw [printed, openings_append, openings_cons (by simp)]
          exact Nat.add_le_add headHypothesis tailHypothesis
  | @single connective tokens tree depths only inductionHypothesis =>
      have loose :
          (Binding.ofConnective connective).rank ≤ (Binding.ofOperand connective).rank := by
        cases connective <;> decide
      exact Nat.le_trans (openings_bracketed_mono loose _ _) inductionHypothesis
  | @logical connective tokens operands depths run several inductionHypothesis =>
      have tight : (Binding.ofConnective connective).rank ≤
          (Expression.logical connective operands).binding.rank := Nat.le_refl _
      rw [Phrase.printed, bracketed_of_tight tight]
      exact inductionHypothesis

/-- No sentence of a tree opens fewer parentheses than its printed tokens. -/
theorem openings_forms_le {forms : List TokenForm} {tree : Expression} {depths : List Nat}
    (sentence : Sentence forms tree depths) : openings tree.forms ≤ openings forms := by
  have least : openings (bracketed .disjunction tree tree.forms) ≤ openings forms :=
    sentence.openings_le
  rwa [bracketed_of_tight (Nat.zero_le _)] at least

end Fewest

end Grammar

end Predicates
