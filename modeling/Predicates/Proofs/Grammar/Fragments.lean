/-
This file joins texts with a connective and shows that each text becomes one operand of a single chain,
however many there are.
-/

import Predicates.Proofs.Grammar.Acceptance
import Predicates.Proofs.Lexing.Boundaries

namespace Predicates

namespace Grammar

/-- The tokens outside all parentheses. The level counts the parentheses that are open so far. -/
def outermost : Nat → List TokenForm → List TokenForm
  | _, [] => []
  | level, .opening :: rest => outermost (level + 1) rest
  | level, .closing :: rest => outermost (level - 1) rest
  | 0, form :: rest => form :: outermost 0 rest
  | level + 1, _ :: rest => outermost (level + 1) rest

section Levels

variable {forms : List TokenForm} {phrase : Phrase} {depths : List Nat}

/-- Inside parentheses, all tokens of a phrase are passed over. -/
theorem Derives.outermost_inside (derived : Derives forms phrase depths) :
    ∀ level rest, outermost (level + 1) (forms ++ rest) = outermost (level + 1) rest := by
  induction derived with
  | literal value => intros; rfl
  | identifier name => intros; rfl
  | parenthesis inner inductionHypothesis =>
      intro level rest
      rw [List.cons_append, List.append_assoc, outermost, inductionHypothesis]
      rfl
  | primary only inductionHypothesis => exact inductionHypothesis
  | not spelling inner inductionHypothesis => exact inductionHypothesis
  | minus inner inductionHypothesis => exact inductionHypothesis
  | unary only inductionHypothesis => exact inductionHypothesis
  | comparison operator before last beforeHypothesis lastHypothesis =>
      intro level rest
      rw [List.append_assoc, beforeHypothesis]
      exact lastHypothesis level rest
  | last only inductionHypothesis => exact inductionHypothesis
  | more spelling head tail headHypothesis tailHypothesis =>
      intro level rest
      rw [List.append_assoc, headHypothesis]
      exact tailHypothesis level rest
  | single only inductionHypothesis => exact inductionHypothesis
  | logical run several inductionHypothesis => exact inductionHypothesis

/-- What follows a phrase is outside all parentheses if the phrase is. -/
theorem Derives.outermost_append (derived : Derives forms phrase depths) :
    ∀ rest, outermost 0 (forms ++ rest) = outermost 0 forms ++ outermost 0 rest := by
  induction derived with
  | literal value => intros; rfl
  | identifier name => intros; rfl
  | parenthesis inner inductionHypothesis =>
      intro rest
      rw [List.cons_append, List.append_assoc, outermost, outermost, inner.outermost_inside,
        inner.outermost_inside]
      rfl
  | primary only inductionHypothesis => exact inductionHypothesis
  | not spelling inner inductionHypothesis =>
      exact fun rest => congrArg (TokenForm.not spelling :: ·) (inductionHypothesis rest)
  | minus inner inductionHypothesis =>
      exact fun rest => congrArg (TokenForm.minus :: ·) (inductionHypothesis rest)
  | unary only inductionHypothesis => exact inductionHypothesis
  | comparison operator before last beforeHypothesis lastHypothesis =>
      intro rest
      rw [List.append_assoc, beforeHypothesis, beforeHypothesis, List.append_assoc]
      exact congrArg (fun behind => _ ++ .comparison operator :: behind) (lastHypothesis rest)
  | last only inductionHypothesis => exact inductionHypothesis
  | @more connective firstTokens tokens first operands firstDepths depths spelling head tail
      headHypothesis tailHypothesis =>
      intro rest
      rw [List.append_assoc, headHypothesis, headHypothesis, List.append_assoc]
      exact congrArg (fun behind => _ ++ .connective connective spelling :: behind)
        (tailHypothesis rest)
  | single only inductionHypothesis => exact inductionHypothesis
  | logical run several inductionHypothesis => exact inductionHypothesis

end Levels

/-- A chain without a sign of its own outside parentheses is a single operand. -/
theorem Derives.operand_of_outermost {connective : Connective} {forms : List TokenForm}
    {tree : Expression} {depths : List Nat} (derived : Derives forms (.chain connective tree) depths)
    (unsigned : ∀ spelling, .connective connective spelling ∉ outermost 0 forms) :
    Derives forms (Phrase.operand connective tree) depths := by
  -- A run of several operands has a sign behind the first one.
  have single {operands : List Expression} (run : Derives forms (.run connective operands) depths) :
      ∃ only, operands = [only] ∧ Derives forms (Phrase.operand connective only) depths := by
    cases run with
    | last only => exact ⟨_, rfl, only⟩
    | more spelling head tail =>
        refine absurd ?_ (unsigned spelling)
        rw [head.outermost_append]
        exact List.mem_append_right _ List.mem_cons_self
  cases derived with
  | single run =>
      obtain ⟨only, same, operand⟩ := single run
      rw [List.singleton_inj.mp same]
      exact operand
  | logical run several =>
      obtain ⟨only, rfl, -⟩ := single run
      exact absurd several (Nat.not_succ_le_self 1)

end Grammar

/-- These signs end an operand of a chain. Conjunctions bind tighter, so they may stand in an operand
of a disjunction. -/
def Connective.endsOperand : Connective → TokenForm → Bool
  | .or, .connective .or _ => true
  | .and, .connective _ _ => true
  | _, _ => false

/-- The tokens of the text can be read, and outside parentheses none of them ends an operand of a
chain. -/
def IsOneOperand (connective : Connective) (text : String) : Prop :=
  ∃ stream, tokenize text = .ok stream ∧
    ∀ form ∈ Grammar.outermost 0 (stream.body.map Token.form), connective.endsOperand form = false

open Grammar

/-- A text with a tree that is one operand is derived as an operand of the chain. -/
theorem IsOneOperand.derives {connective : Connective} {text : String} {tree : Expression}
    (isOneOperand : IsOneOperand connective text) (parsed : parse text = .ok tree) :
    ∃ words depths, ConsistsOf text.toList words ∧
      Derives (words.map Prod.snd) (Phrase.operand connective tree) depths ∧
        Within nestingLimit depths := by
  obtain ⟨stream, depths, read, sentence, within, -⟩ := sentence_of_parse parsed
  obtain ⟨same, found, unended⟩ := isOneOperand
  obtain rfl : same = stream := Except.ok.inj (found.symm.trans read)
  obtain ⟨words, consists, forms⟩ := ConsistsOf.of_tokens (Cursor.ofText text) read
  rw [forms] at sentence unended
  have ends (sign : TokenForm) (ends : connective.endsOperand sign = true) :
      sign ∉ outermost 0 (words.map Prod.snd) := by
    intro member
    rw [unended sign member] at ends
    cases ends
  refine ⟨words, depths, consists, ?_, within⟩
  cases connective with
  | or => exact sentence.operand_of_outermost fun spelling => ends _ rfl
  | and =>
      have conjunction : Derives (words.map Prod.snd) (.chain .and tree) depths :=
        sentence.operand_of_outermost fun spelling => ends _ rfl
      exact conjunction.operand_of_outermost fun spelling => ends _ rfl

/-- The connective stands between two spaces. -/
def Connective.joint (connective : Connective) : String :=
  " " ++ connective.symbol ++ " "

theorem Connective.toList_joint (connective : Connective) :
    connective.joint.toList = ' ' :: (connective.symbol.toList ++ [' ']) := by
  simp [joint]

/-- The connective between its spaces is read as one token. -/
theorem consistsOf_joint (connective : Connective) {rest : List Char}
    {words : List (List Char × TokenForm)} (behind : ConsistsOf rest words) :
    ConsistsOf (connective.joint.toList ++ rest)
      ((connective.symbol.toList, .connective connective .symbol) :: words) := by
  have blank : IsGap [' '] := List.forall_mem_singleton.mpr rfl
  have ends : Lexeme.Ends ([' '] ++ rest) := by
    intro character member
    cases member
    rfl
  have read : (TokenForm.connective connective .symbol).IsReadAs connective.symbol.toList
      ([' '] ++ rest) := TokenForm.isReadAs_spelled trivial ends
  have whole := (ConsistsOf.word read (behind.behind_gap blank)).behind_gap blank
  rw [connective.toList_joint, List.cons_append, List.append_assoc]
  exact whole

/-- The texts with the connective between them make up a run of their trees. -/
theorem exists_run_of_fragments {connective : Connective} {fragments : List (String × Expression)}
    (some : fragments ≠ [])
    (operands : ∀ fragment ∈ fragments,
      parse fragment.1 = .ok fragment.2 ∧ IsOneOperand connective fragment.1) :
    ∃ words depths,
      ConsistsOf (String.intercalate connective.joint (fragments.map Prod.fst)).toList words ∧
      Derives (words.map Prod.snd) (.run connective (fragments.map Prod.snd)) depths ∧
        Within nestingLimit depths := by
  induction fragments with
  | nil => exact absurd rfl some
  | cons fragment rest inductionHypothesis =>
      rw [List.forall_mem_cons] at operands
      obtain ⟨⟨parsed, isOneOperand⟩, others⟩ := operands
      obtain ⟨words, depths, consists, derived, within⟩ := isOneOperand.derives parsed
      cases rest with
      | nil => exact ⟨words, depths, by simpa using consists, .last derived, within⟩
      | cons second rest =>
          obtain ⟨otherWords, otherDepths, otherConsists, run, otherWithin⟩ :=
            inductionHypothesis (List.cons_ne_nil second rest) others
          have ends (behind : List Char) : Lexeme.Ends (connective.joint.toList ++ behind) := by
            rw [connective.toList_joint]
            intro character member
            cases member
            rfl
          have joined := consists.append (ends _).breaks (consistsOf_joint connective otherConsists)
          have text : (String.intercalate connective.joint
              ((fragment :: second :: rest).map Prod.fst)).toList =
                fragment.1.toList ++ (connective.joint.toList ++
                  (String.intercalate connective.joint ((second :: rest).map Prod.fst)).toList) := by
            simp
          rw [← text] at joined
          refine ⟨_, _, joined, ?_, Within.append_cons_zero.mpr ⟨within, otherWithin⟩⟩
          rw [List.map_append, List.map_cons]
          exact .more .symbol derived run

theorem Expression.greatestHeight_le {operands : List Expression} {limit : Nat}
    (low : ∀ operand ∈ operands, operand.height ≤ limit) : greatestHeight operands ≤ limit := by
  induction operands with
  | nil => exact Nat.zero_le limit
  | cons first rest inductionHypothesis =>
      rw [List.forall_mem_cons] at low
      exact Nat.max_le.mpr ⟨low.1, inductionHypothesis low.2⟩

/-- A text with a tree can be put into parentheses. Then its tokens stand between them. -/
theorem tokens_in_parentheses {text : String} {tree : Expression} (parsed : parse text = .ok tree) :
    ∃ stream forms depths, tokenize ("(" ++ text ++ ")") = .ok stream ∧
      stream.body.map Token.form = .opening :: (forms ++ [.closing]) ∧ Sentence forms tree depths := by
  obtain ⟨inner, depths, read, sentence, -, -⟩ := sentence_of_parse parsed
  obtain ⟨words, consists, same⟩ := ConsistsOf.of_tokens (Cursor.ofText text) read
  have breaks : Lexeme.Breaks [')'] := by
    intro character member
    cases member
    decide
  have closingRead : TokenForm.closing.IsReadAs [')'] [] :=
    TokenForm.isReadAs_spelled trivial (by decide)
  have closing : ConsistsOf [')'] [([')'], .closing)] := .word closingRead .ended
  -- No sign starts with a parenthesis but the parenthesis itself, so anything may follow it.
  have opening : TokenForm.opening.IsReadAs ['('] (text.toList ++ [')']) := by
    apply TokenForm.isReadAs_fixed '(' [] (by simp [LexemeClass.all])
    intro longer known
    simp [LexemeClass.all] at known
  have whole := ConsistsOf.word opening (consists.append breaks closing)
  obtain ⟨stream, tokens, forms⟩ := whole.tokens_eq Location.start
  refine ⟨stream, inner.body.map Token.form, depths, ?_, ?_, sentence⟩
  · rw [tokenize, Cursor.ofText, String.toList_append, String.toList_append, List.append_assoc]
    exact tokens
  · rw [forms, same, List.map_cons, List.map_append]
    rfl

/-- Texts that are one operand each are joined to a single chain of their trees, however many there
are. A text in parentheses is one operand of any chain, whatever it holds, and has no other tree. -/
theorem parse_joined_fragments :
    (∀ (connective : Connective) (fragments : List (String × Expression)), 2 ≤ fragments.length →
      (∀ fragment ∈ fragments, parse fragment.1 = .ok fragment.2 ∧ fragment.2.height ≤ 49 ∧
        IsOneOperand connective fragment.1) →
      parse (String.intercalate connective.joint (fragments.map Prod.fst)) =
        .ok (.logical connective (fragments.map Prod.snd))) ∧
    ∀ (connective : Connective) (text : String) (tree : Expression), parse text = .ok tree →
      IsOneOperand connective ("(" ++ text ++ ")") ∧
        ∀ other, parse ("(" ++ text ++ ")") = .ok other → other = tree := by
  constructor
  · intro connective fragments several operands
    have some : fragments ≠ [] := List.ne_nil_of_length_pos (Nat.lt_of_lt_of_le Nat.two_pos several)
    obtain ⟨words, depths, consists, run, within⟩ := exists_run_of_fragments some
      fun fragment member => ⟨(operands fragment member).1, (operands fragment member).2.2⟩
    have chain : Derives (words.map Prod.snd)
        (.chain connective (.logical connective (fragments.map Prod.snd))) depths :=
      .logical run (by rwa [List.length_map])
    have sentence : Sentence (words.map Prod.snd)
        (.logical connective (fragments.map Prod.snd)) depths := by
      cases connective with
      | or => exact chain
      | and => exact .single (.last chain)
    obtain ⟨stream, read, forms⟩ := consists.tokens_eq Location.start
    have low : Expression.greatestHeight (fragments.map Prod.snd) ≤ 49 := by
      apply Expression.greatestHeight_le
      intro tree member
      obtain ⟨fragment, found, rfl⟩ := List.mem_map.mp member
      exact (operands fragment found).2.1
    rw [parse_eq_ok_of_stream read, stream_parse_eq_ok, forms]
    exact ⟨⟨depths, sentence, within⟩, Nat.succ_le_succ low⟩
  · intro connective text tree parsed
    obtain ⟨stream, forms, depths, read, same, sentence⟩ := tokens_in_parentheses parsed
    constructor
    · refine ⟨stream, read, ?_⟩
      rw [same, outermost, sentence.outermost_inside]
      intro form member
      cases member
    · intro other parsedAgain
      rw [parse_eq_ok_of_stream read, stream_parse_eq_ok, same] at parsedAgain
      obtain ⟨⟨otherDepths, otherSentence, -⟩, -⟩ := parsedAgain
      have enclosed : Sentence (.opening :: (forms ++ [.closing])) tree _ :=
        .single (.last (.single (.last (.unary (.primary (.parenthesis sentence))))))
      exact (sentence_unique otherSentence enclosed).1

/-- The conjunction stays whole among the operands of the disjunction, and so does the disjunction in
parentheses. -/
theorem parse_joined_fragments_three :
    let fragments : List (String × Expression) :=
      [("a == 1", .comparison .equal (.identifier "a") (.literal (.integer 1))),
        ("b AND!c", .logical .and [.identifier "b", .unary .not (.identifier "c")]),
        ("(d || e)", .logical .or [.identifier "d", .identifier "e"])]
    (∀ fragment ∈ fragments, parse fragment.1 = .ok fragment.2 ∧ fragment.2.height ≤ 49 ∧
      IsOneOperand .or fragment.1) ∧
    parse "a == 1 || b AND!c || (d || e)" = .ok (.logical .or (fragments.map Prod.snd)) ∧
    IsOneOperand .and ("(" ++ "d || e" ++ ")") := by
  intro fragments
  have operands : ∀ fragment ∈ fragments, parse fragment.1 = .ok fragment.2 ∧
      fragment.2.height ≤ 49 ∧ IsOneOperand .or fragment.1 := by
    simp only [fragments, List.forall_mem_cons, List.not_mem_nil, false_implies, implies_true,
      and_true]
    refine ⟨⟨by with_unfolding_all rfl, by decide, _, by with_unfolding_all rfl, by decide⟩,
      ⟨by with_unfolding_all rfl, by decide, _, by with_unfolding_all rfl, by decide⟩,
      ⟨by with_unfolding_all rfl, by decide, _, by with_unfolding_all rfl, by decide⟩⟩
  have parsed := parse_joined_fragments.1 .or fragments (by decide) operands
  have disjunction : parse "d || e" = .ok (.logical .or [.identifier "d", .identifier "e"]) := by
    with_unfolding_all rfl
  exact ⟨operands, parsed, (parse_joined_fragments.2 .and _ _ disjunction).1⟩

end Predicates
