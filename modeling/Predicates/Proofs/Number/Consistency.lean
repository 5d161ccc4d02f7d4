/-
This file shows which triples of numbers are compared consistently. Only an integer that is
compared differently with a binary number and with its shortest notation can break the order, and
it does so with every decimal in between.
-/

import Predicates.Value.Comparison
import Predicates.Proofs.Number.Rank
import Mathlib.Data.List.Perm.Subperm

namespace Predicates

/-- Equality and order carry over from the first two values to the third. -/
structure Value.Consistent (first second third : Value) : Prop where
  equal : first.equals second = .ok true → second.equals third = .ok true →
    first.equals third = .ok true
  below : first.compare second = .ok (some .lt) → second.compare third = .ok (some .lt) →
    first.compare third = .ok (some .lt)
  alike : first.equals second = .ok true →
    first.compare third = second.compare third ∧ third.compare first = third.compare second ∧
      first.equals third = second.equals third ∧ third.equals first = third.equals second

namespace Number

/-- An integer is torn when it is compared differently with a binary number and with the shortest
notation of that number, and the decimal stands neither below both sides nor above both. -/
structure Torn (whole : Int) (other : Binary64) (between : Decimal) : Prop where
  apart : (integer whole).compare (binary other) ≠
    (integer whole).compare (decimal (binary other).toDecimal)
  notBelow : ¬((decimal between).compare (integer whole) = .ok (some .lt) ∧
    (decimal between).compare (binary other) = .ok (some .lt))
  notAbove : ¬((decimal between).compare (integer whole) = .ok (some .gt) ∧
    (decimal between).compare (binary other) = .ok (some .gt))

variable {left right first second third : Number}

theorem not_signaling_of_number (isNumber : left.isNaN = false) : left.isSignaling = false := by
  cases left with
  | decimal value => cases value <;> first | rfl | cases isNumber
  | _ => rfl

theorem equals_of_number (leftNumber : left.isNaN = false) (rightNumber : right.isNaN = false) :
    left.equals right = .ok (left.order? right = some .eq) := by
  rw [equals, not_signaling_of_number leftNumber, not_signaling_of_number rightNumber]
  rfl

theorem compare_of_number (leftNumber : left.isNaN = false) (rightNumber : right.isNaN = false) :
    left.compare right = .ok (left.order? right) := by
  rw [compare, not_signaling_of_number leftNumber, not_signaling_of_number rightNumber, leftNumber,
    rightNumber]
  rfl

section Ranked

variable {Line : Type} [LinearOrder Line] {rank : Number → Line}

/-- The order of two numbers is the order of their ranks. -/
def RankedBy (rank : Number → Line) (left right : Number) : Prop :=
  left.order? right = some (cmp (rank left) (rank right))

theorem RankedBy.equals (ranked : RankedBy rank left right) (leftNumber : left.isNaN = false)
    (rightNumber : right.isNaN = false) :
    (Value.number left).equals (.number right) = .ok (rank left = rank right) := by
  change left.equals right = _
  rw [equals_of_number leftNumber rightNumber, ranked]
  have level : some (cmp (rank left) (rank right)) = some .eq ↔ rank left = rank right :=
    Option.some_inj.trans (cmp_eq_eq_iff _ _)
  exact congrArg Except.ok (decide_eq_decide.mpr level)

theorem RankedBy.compare (ranked : RankedBy rank left right) (leftNumber : left.isNaN = false)
    (rightNumber : right.isNaN = false) :
    (Value.number left).compare (.number right) = .ok (some (cmp (rank left) (rank right))) := by
  change left.compare right = _
  rw [compare_of_number leftNumber rightNumber, ranked]

/-- Numbers that one line of ranks puts in order are compared consistently. -/
theorem consistent_of_ranked
    (numbers : ∀ number ∈ [first, second, third], number.isNaN = false)
    (ranked : ∀ left ∈ [first, second, third], ∀ right ∈ [first, second, third],
      RankedBy rank left right) :
    Value.Consistent (.number first) (.number second) (.number third) := by
  have equal (left) (leftMem) (right) (rightMem) :=
    (ranked left leftMem right rightMem).equals (numbers left leftMem) (numbers right rightMem)
  have order (left) (leftMem) (right) (rightMem) :=
    (ranked left leftMem right rightMem).compare (numbers left leftMem) (numbers right rightMem)
  have firstMem : first ∈ [first, second, third] := by simp
  have secondMem : second ∈ [first, second, third] := by simp
  have thirdMem : third ∈ [first, second, third] := by simp
  constructor
  · rw [equal _ firstMem _ secondMem, equal _ secondMem _ thirdMem, equal _ firstMem _ thirdMem]
    simp only [Except.ok.injEq, decide_eq_true_eq]
    exact Eq.trans
  · rw [order _ firstMem _ secondMem, order _ secondMem _ thirdMem, order _ firstMem _ thirdMem]
    intro firstOrder secondOrder
    have firstBelow := (cmp_eq_lt_iff _ _).mp (Option.some.inj (Except.ok.inj firstOrder))
    have secondBelow := (cmp_eq_lt_iff _ _).mp (Option.some.inj (Except.ok.inj secondOrder))
    rw [(firstBelow.trans secondBelow).cmp_eq_lt]
  · rw [equal _ firstMem _ secondMem, order _ firstMem _ thirdMem, order _ secondMem _ thirdMem,
      order _ thirdMem _ firstMem, order _ thirdMem _ secondMem, equal _ firstMem _ thirdMem,
      equal _ secondMem _ thirdMem, equal _ thirdMem _ firstMem, equal _ thirdMem _ secondMem]
    intro equality
    have same : rank first = rank second := of_decide_eq_true (Except.ok.inj equality)
    rw [same]
    exact ⟨rfl, rfl, rfl, rfl⟩

end Ranked

/-- The other way round, the order is swapped. -/
theorem order?_swap (leftNumber : left.isNaN = false) (rightNumber : right.isNaN = false) :
    right.order? left = (left.order? right).map Ordering.swap := by
  by_cases someDecimal : left.isDecimal = true ∨ right.isDecimal = true
  · rw [order?_of_decimal someDecimal leftNumber rightNumber,
      order?_of_decimal someDecimal.symm rightNumber leftNumber, Option.map_some, cmp_swap]
  · rw [not_or, Bool.not_eq_true, Bool.not_eq_true] at someDecimal
    rw [order?_of_grid someDecimal.1 someDecimal.2 leftNumber rightNumber,
      order?_of_grid someDecimal.2 someDecimal.1 rightNumber leftNumber, Option.map_some, cmp_swap]

theorem order?_self (isNumber : left.isNaN = false) : left.order? left = some .eq := by
  cases isDecimal : left.isDecimal with
  | true => rw [order?_of_decimal (Or.inl isDecimal) isNumber isNumber, cmp_self_eq_eq]
  | false => rw [order?_of_grid isDecimal isDecimal isNumber isNumber, cmp_self_eq_eq]

/-- Numbers of one kind have the same order among the decimals as on the grid. -/
theorem rankedBy_decimalRank (leftNumber : left.isNaN = false) (rightNumber : right.isNaN = false)
    (comparable : (left.isDecimal = true ∨ right.isDecimal = true) ∨ left.kind = right.kind) :
    RankedBy decimalRank left right := by
  rcases comparable with someDecimal | sameKind
  · exact order?_of_decimal someDecimal leftNumber rightNumber
  · cases left with
    | integer leftValue =>
        cases right with
        | integer rightValue =>
            rw [RankedBy, order?_of_grid rfl rfl leftNumber rightNumber, cmp_integers]
        | _ => cases sameKind
    | binary leftValue =>
        cases right with
        | binary rightValue =>
            rw [RankedBy, order?_of_grid rfl rfl leftNumber rightNumber,
              cmp_binaries leftNumber rightNumber]
        | _ => cases sameKind
    | decimal leftValue => exact order?_of_decimal (Or.inl rfl) leftNumber rightNumber

section Ranked

variable {Line : Type} [LinearOrder Line] {rank : Number → Line}

theorem RankedBy.symm (ranked : RankedBy rank left right) (leftNumber : left.isNaN = false)
    (rightNumber : right.isNaN = false) : RankedBy rank right left := by
  rw [RankedBy, order?_swap leftNumber rightNumber, ranked, Option.map_some, cmp_swap]

/-- Three numbers are ranked when each pair is. -/
theorem ranked_of_pairs (numbers : ∀ number ∈ [first, second, third], number.isNaN = false)
    (firstSecond : RankedBy rank first second) (firstThird : RankedBy rank first third)
    (secondThird : RankedBy rank second third) :
    ∀ left ∈ [first, second, third], ∀ right ∈ [first, second, third],
      RankedBy rank left right := by
  have self (number) (isNumber : number.isNaN = false) : RankedBy rank number number := by
    rw [RankedBy, order?_self isNumber, cmp_self_eq_eq]
  simp only [List.forall_mem_cons, List.not_mem_nil, false_implies, implies_true, and_true] at *
  obtain ⟨firstNumber, secondNumber, thirdNumber⟩ := numbers
  exact ⟨⟨self first firstNumber, firstSecond, firstThird⟩,
    ⟨firstSecond.symm firstNumber secondNumber, self second secondNumber, secondThird⟩,
    ⟨firstThird.symm firstNumber thirdNumber, secondThird.symm secondNumber thirdNumber,
      self third thirdNumber⟩⟩

end Ranked

section Mixed

variable {whole : Int} {other : Binary64} {between : Decimal}

/-- A decimal outside both sides can stand at either end of the grid. -/
theorem ranked_with_end {Line : Type} [LinearOrder Line] {outside : Line}
    {onGrid : WithBotTop ℤ → Line} (mono : StrictMono onGrid) {side : Ordering}
    (beyond : ∀ place, cmp outside (onGrid place) = side)
    (otherNumber : (binary other).isNaN = false) (betweenNumber : (decimal between).isNaN = false)
    (fromWhole : (decimal between).order? (integer whole) = some side)
    (fromOther : (decimal between).order? (binary other) = some side) :
    ∃ (Line : Type) (_ : LinearOrder Line) (rank : Number → Line),
      RankedBy rank (integer whole) (binary other) ∧
        RankedBy rank (integer whole) (decimal between) ∧
        RankedBy rank (binary other) (decimal between) := by
  let rank (number : Number) : Line :=
    if number.isDecimal then outside else onGrid number.gridRank
  have toWhole : RankedBy rank (decimal between) (integer whole) :=
    fromWhole.trans (congrArg some (beyond _).symm)
  have toOther : RankedBy rank (decimal between) (binary other) :=
    fromOther.trans (congrArg some (beyond _).symm)
  have sides : RankedBy rank (integer whole) (binary other) :=
    (order?_of_grid rfl rfl rfl otherNumber).trans
      (congrArg some (mono.cmp_map_eq _ _).symm)
  exact ⟨Line, inferInstance, rank, sides, toWhole.symm betweenNumber rfl,
    toOther.symm betweenNumber otherNumber⟩

/-- An integer is compared alike with a binary number and with its shortest notation when the order
of the decimals holds for it. -/
theorem compared_alike_iff (otherNumber : (binary other).isNaN = false) :
    (integer whole).compare (binary other) =
        (integer whole).compare (decimal (binary other).toDecimal) ↔
      RankedBy decimalRank (integer whole) (binary other) := by
  have shortestNumber : (decimal (binary other).toDecimal).isNaN = false :=
    (binary other).isNaN_toDecimal.trans otherNumber
  have order : RankedBy decimalRank (integer whole) (decimal (binary other).toDecimal) :=
    order?_of_decimal (Or.inr rfl) rfl shortestNumber
  rw [compare_of_number rfl otherNumber, compare_of_number rfl shortestNumber, order]
  exact ⟨Except.ok.inj, congrArg Except.ok⟩

/-- An integer that is not torn has a place among the other two. -/
theorem exists_ranked_of_not_torn (otherNumber : (binary other).isNaN = false)
    (betweenNumber : (decimal between).isNaN = false) (together : ¬Torn whole other between) :
    ∃ (Line : Type) (_ : LinearOrder Line) (rank : Number → Line),
      RankedBy rank (integer whole) (binary other) ∧
        RankedBy rank (integer whole) (decimal between) ∧
        RankedBy rank (binary other) (decimal between) := by
  by_cases same : (integer whole).compare (binary other) =
      (integer whole).compare (decimal (binary other).toDecimal)
  · exact ⟨_, _, decimalRank, (compared_alike_iff otherNumber).mp same,
      order?_of_decimal (Or.inr rfl) rfl betweenNumber,
      order?_of_decimal (Or.inr rfl) otherNumber betweenNumber⟩
  · by_cases below : (decimal between).compare (integer whole) = .ok (some .lt) ∧
        (decimal between).compare (binary other) = .ok (some .lt)
    · rw [compare_of_number betweenNumber rfl, compare_of_number betweenNumber otherNumber] at below
      exact ranked_with_end WithBot.coe_strictMono
        (fun place => (WithBot.bot_lt_coe place).cmp_eq_lt)
        otherNumber betweenNumber (Except.ok.inj below.1) (Except.ok.inj below.2)
    · by_cases above : (decimal between).compare (integer whole) = .ok (some .gt) ∧
          (decimal between).compare (binary other) = .ok (some .gt)
      · rw [compare_of_number betweenNumber rfl,
          compare_of_number betweenNumber otherNumber] at above
        exact ranked_with_end WithTop.coe_strictMono
          (fun place => (WithTop.coe_lt_top place).cmp_eq_gt)
          otherNumber betweenNumber (Except.ok.inj above.1) (Except.ok.inj above.2)
      · exact absurd ⟨same, below, above⟩ together

/-- The torn integer breaks one of the laws when the decimal stands in the middle. -/
theorem not_consistent_of_torn (otherNumber : (binary other).isNaN = false)
    (betweenNumber : (decimal between).isNaN = false) (torn : Torn whole other between) :
    ¬(Value.Consistent (.number (integer whole)) (.number (decimal between))
        (.number (binary other)) ∧
      Value.Consistent (.number (binary other)) (.number (decimal between))
        (.number (integer whole))) := by
  rintro ⟨wholeFirst, otherFirst⟩
  have unranked : ¬RankedBy decimalRank (integer whole) (binary other) :=
    (compared_alike_iff otherNumber).not.mp torn.apart
  have wholeNumber : (integer whole).isNaN = false := rfl
  have forward : (Value.number (integer whole)).compare (.number (binary other)) ≠
      .ok (some (cmp (integer whole).decimalRank (binary other).decimalRank)) := fun found =>
    unranked (Except.ok.inj ((compare_of_number wholeNumber otherNumber).symm.trans found))
  have backward : (Value.number (binary other)).compare (.number (integer whole)) ≠
      .ok (some (cmp (binary other).decimalRank (integer whole).decimalRank)) := fun found =>
    have reversed : RankedBy decimalRank (binary other) (integer whole) :=
      Except.ok.inj ((compare_of_number otherNumber wholeNumber).symm.trans found)
    unranked (reversed.symm otherNumber wholeNumber)
  have wholeRanked : RankedBy decimalRank (integer whole) (decimal between) :=
    order?_of_decimal (Or.inr rfl) rfl betweenNumber
  have otherRanked : RankedBy decimalRank (binary other) (decimal between) :=
    order?_of_decimal (Or.inr rfl) otherNumber betweenNumber
  have wholeEqual := wholeRanked.equals rfl betweenNumber
  have otherEqual := otherRanked.equals otherNumber betweenNumber
  have wholeOrder := wholeRanked.compare rfl betweenNumber
  have otherOrder := otherRanked.compare otherNumber betweenNumber
  have betweenWhole := (wholeRanked.symm rfl betweenNumber).compare betweenNumber rfl
  have betweenOther :=
    (otherRanked.symm otherNumber betweenNumber).compare betweenNumber otherNumber
  generalize (integer whole).decimalRank = wholeRank at *
  generalize (binary other).decimalRank = otherRank at *
  generalize (decimal between).decimalRank = betweenRank at *
  have notSameOther (same : otherRank = betweenRank) : False := by
    rw [same, decide_eq_true rfl] at otherEqual
    have alike := (otherFirst.alike otherEqual).2.1
    rw [wholeOrder, ← same] at alike
    exact forward alike
  rcases lt_trichotomy wholeRank betweenRank with wholeBelow | wholeSame | wholeAbove
  · rcases lt_trichotomy otherRank betweenRank with otherBelow | otherSame | otherAbove
    · rw [wholeBelow.cmp_eq_gt] at betweenWhole
      rw [otherBelow.cmp_eq_gt] at betweenOther
      exact torn.notAbove ⟨betweenWhole, betweenOther⟩
    · exact notSameOther otherSame
    · rw [wholeBelow.cmp_eq_lt] at wholeOrder
      rw [otherAbove.cmp_eq_lt] at betweenOther
      have carried := wholeFirst.below wholeOrder betweenOther
      rw [← (wholeBelow.trans otherAbove).cmp_eq_lt] at carried
      exact forward carried
  · -- The decimal equals the integer, so it must be compared alike with the binary number.
    rw [wholeSame, decide_eq_true rfl] at wholeEqual
    have alike := (wholeFirst.alike wholeEqual).1
    rw [betweenOther, ← wholeSame] at alike
    exact forward alike
  · rcases lt_trichotomy otherRank betweenRank with otherBelow | otherSame | otherAbove
    · rw [otherBelow.cmp_eq_lt] at otherOrder
      rw [wholeAbove.cmp_eq_lt] at betweenWhole
      have carried := otherFirst.below otherOrder betweenWhole
      rw [← (otherBelow.trans wholeAbove).cmp_eq_lt] at carried
      exact backward carried
    · exact notSameOther otherSame
    · rw [wholeAbove.cmp_eq_lt] at betweenWhole
      rw [otherAbove.cmp_eq_lt] at betweenOther
      exact torn.notBelow ⟨betweenWhole, betweenOther⟩

end Mixed

/-- A list of three numbers of all kinds holds one number of each kind. -/
theorem perm_of_mem {whole : Int} {other : Binary64} {between : Decimal} {triple : List Number}
    (three : triple.length = 3) (wholeMem : integer whole ∈ triple)
    (otherMem : binary other ∈ triple) (betweenMem : decimal between ∈ triple) :
    [integer whole, binary other, decimal between].Perm triple := by
  have distinct : [integer whole, binary other, decimal between].Nodup := by simp
  have subset : [integer whole, binary other, decimal between] ⊆ triple := by
    simp [wholeMem, otherMem, betweenMem]
  exact (List.subperm_of_subset distinct subset).perm_of_length_le (Nat.le_of_eq three)

/-- Without a decimal, nothing leaves the grid. -/
theorem consistent_on_grid (numbers : ∀ number ∈ [first, second, third], number.isNaN = false)
    (noDecimal : ¬∃ between, decimal between ∈ [first, second, third]) :
    Value.Consistent (.number first) (.number second) (.number third) := by
  have onGrid (number) (mem : number ∈ [first, second, third]) : number.isDecimal = false := by
    cases number with
    | decimal value => exact absurd ⟨value, mem⟩ noDecimal
    | _ => rfl
  have ranked : ∀ left ∈ [first, second, third], ∀ right ∈ [first, second, third],
      RankedBy gridRank left right := fun left leftMem right rightMem =>
    order?_of_grid (onGrid left leftMem) (onGrid right rightMem) (numbers left leftMem)
      (numbers right rightMem)
  exact consistent_of_ranked numbers ranked

/-- Without an integer beside a binary number, all numbers stand among the decimals. -/
theorem consistent_among_decimals
    (numbers : ∀ number ∈ [first, second, third], number.isNaN = false)
    (unmixed : ¬((∃ whole, integer whole ∈ [first, second, third]) ∧
      ∃ other, binary other ∈ [first, second, third])) :
    Value.Consistent (.number first) (.number second) (.number third) := by
  have ranked : ∀ left ∈ [first, second, third], ∀ right ∈ [first, second, third],
      RankedBy decimalRank left right := by
    intro left leftMem right rightMem
    apply rankedBy_decimalRank (numbers left leftMem) (numbers right rightMem)
    cases left with
    | integer leftValue =>
        cases right with
        | integer rightValue => exact Or.inr rfl
        | binary rightValue => exact absurd ⟨⟨_, leftMem⟩, ⟨_, rightMem⟩⟩ unmixed
        | decimal rightValue => exact Or.inl (Or.inr rfl)
    | binary leftValue =>
        cases right with
        | integer rightValue => exact absurd ⟨⟨_, rightMem⟩, ⟨_, leftMem⟩⟩ unmixed
        | binary rightValue => exact Or.inr rfl
        | decimal rightValue => exact Or.inl (Or.inr rfl)
    | decimal leftValue => exact Or.inl (Or.inl rfl)
  exact consistent_of_ranked numbers ranked

/-- Three numbers are compared consistently when none of them is torn between the other two. -/
theorem consistent_of_not_torn
    (numbers : ∀ number ∈ [first, second, third], number.isNaN = false)
    (together : ∀ (whole : Int) (other : Binary64) (between : Decimal),
      [integer whole, binary other, decimal between].Perm [first, second, third] →
        ¬Torn whole other between) :
    Value.Consistent (.number first) (.number second) (.number third) := by
  by_cases mixed : (∃ whole, integer whole ∈ [first, second, third]) ∧
      ∃ other, binary other ∈ [first, second, third]
  · by_cases someDecimal : ∃ between, decimal between ∈ [first, second, third]
    · obtain ⟨⟨whole, wholeMem⟩, ⟨other, otherMem⟩⟩ := mixed
      obtain ⟨between, betweenMem⟩ := someDecimal
      have arranged := perm_of_mem rfl wholeMem otherMem betweenMem
      obtain ⟨Line, _, rank, sides, wholeRanked, otherRanked⟩ := exists_ranked_of_not_torn
        (numbers _ otherMem) (numbers _ betweenMem) (together whole other between arranged)
      have arrangedNumbers : ∀ number ∈ [integer whole, binary other, decimal between],
          number.isNaN = false := fun number mem => numbers number (arranged.mem_iff.mp mem)
      have ranked := ranked_of_pairs arrangedNumbers sides wholeRanked otherRanked
      exact consistent_of_ranked numbers fun left leftMem right rightMem =>
        ranked left (arranged.mem_iff.mpr leftMem) right (arranged.mem_iff.mpr rightMem)
    · exact consistent_on_grid numbers someDecimal
  · exact consistent_among_decimals numbers mixed

/-- Two numbers always have an order, and they are equal when neither comes first. -/
theorem exists_order (leftNumber : left.isNaN = false) (rightNumber : right.isNaN = false) :
    ∃ order, (Value.number left).compare (.number right) = .ok (some order) ∧
      (Value.number left).equals (.number right) = .ok (order = .eq) := by
  have ordered : ∃ order, left.order? right = some order := by
    by_cases someDecimal : left.isDecimal = true ∨ right.isDecimal = true
    · exact ⟨_, order?_of_decimal someDecimal leftNumber rightNumber⟩
    · rw [not_or, Bool.not_eq_true, Bool.not_eq_true] at someDecimal
      exact ⟨_, order?_of_grid someDecimal.1 someDecimal.2 leftNumber rightNumber⟩
  obtain ⟨order, found⟩ := ordered
  refine ⟨order, (compare_of_number leftNumber rightNumber).trans (congrArg Except.ok found),
    (equals_of_number leftNumber rightNumber).trans ?_⟩
  rw [found]
  simp

/-- Any two numbers have an order. Three numbers are compared consistently in every arrangement
exactly when none of them is an integer that is torn between the other two. -/
theorem consistent_iff_not_torn
    (numbers : ∀ number ∈ [first, second, third], number.isNaN = false) :
    (∀ left ∈ [first, second, third], ∀ right ∈ [first, second, third], ∃ order,
      (Value.number left).compare (.number right) = .ok (some order) ∧
        (Value.number left).equals (.number right) = .ok (order = .eq)) ∧
    ((∀ former middle latter : Number,
      [former, middle, latter].Perm [first, second, third] →
        Value.Consistent (.number former) (.number middle) (.number latter)) ↔
      ∀ (whole : Int) (other : Binary64) (between : Decimal),
        [integer whole, binary other, decimal between].Perm [first, second, third] →
          ¬Torn whole other between) := by
  refine ⟨fun left leftMem right rightMem =>
    exists_order (numbers left leftMem) (numbers right rightMem), ?_, ?_⟩
  · intro consistent whole other between arranged torn
    have otherNumber : (binary other).isNaN = false :=
      numbers _ (arranged.mem_iff.mp (by simp))
    have betweenNumber : (decimal between).isNaN = false :=
      numbers _ (arranged.mem_iff.mp (by simp))
    have wholeFirst : [integer whole, decimal between, binary other].Perm [first, second, third] :=
      ((List.Perm.swap _ _ []).cons _).trans arranged
    have otherFirst : [binary other, decimal between, integer whole].Perm [first, second, third] :=
      (List.reverse_perm [integer whole, decimal between, binary other]).trans wholeFirst
    exact not_consistent_of_torn otherNumber betweenNumber torn
      ⟨consistent _ _ _ wholeFirst, consistent _ _ _ otherFirst⟩
  · intro together former middle latter arranged
    apply consistent_of_not_torn fun number mem => numbers number (arranged.mem_iff.mp mem)
    intro whole other between same
    exact together whole other between (same.trans arranged)

/-- An integer between two binary numbers need not be torn. -/
theorem consistent_iff_not_torn_odd :
    (∀ number ∈ [integer 9007199254740993, binary (.ofBits 0x4340000000000000),
        decimal (.finite false 9007199254740992 0)], number.isNaN = false) ∧
      ∀ former middle latter : Number,
        [former, middle, latter].Perm [integer 9007199254740993,
          binary (.ofBits 0x4340000000000000), decimal (.finite false 9007199254740992 0)] →
          Value.Consistent (.number former) (.number middle) (.number latter) := by
  have numbers : ∀ number ∈ [integer 9007199254740993, binary (.ofBits 0x4340000000000000),
      decimal (.finite false 9007199254740992 0)], number.isNaN = false := by decide +kernel
  refine ⟨numbers, (consistent_iff_not_torn numbers).2.mpr ?_⟩
  intro whole other between arranged torn
  have wholeMem := arranged.mem_iff.mp (show integer whole ∈ _ by simp)
  have otherMem := arranged.mem_iff.mp (show binary other ∈ _ by simp)
  simp only [List.mem_cons, Number.integer.injEq, Number.binary.injEq, reduceCtorEq, or_false,
    false_or, List.not_mem_nil] at wholeMem otherMem
  subst wholeMem otherMem
  exact torn.apart (by decide +kernel)

/-- The power of ten equals its decimal, the decimal equals the nearest binary number, and that one
is below the power of ten. -/
theorem equals_not_transitive :
    (Value.number (.integer (10 ^ 23))).equals (.number (.decimal (.finite false 1 23))) = .ok true ∧
      (Value.number (.decimal (.finite false 1 23))).equals
        (.number (.binary (.ofBits 0x44b52d02c7e14af6))) = .ok true ∧
      (Value.number (.integer (10 ^ 23))).equals
        (.number (.binary (.ofBits 0x44b52d02c7e14af6))) = .ok false ∧
      (Value.number (.binary (.ofBits 0x44b52d02c7e14af6))).compare
        (.number (.integer (10 ^ 23))) = .ok (some .lt) := by
  decide +kernel

end Number

end Predicates
