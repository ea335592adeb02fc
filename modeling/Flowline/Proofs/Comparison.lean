import Flowline.Builtin.Branching
import Flowline.Builtin.Gateway
import Flowline.Proofs.Decimal.Order
import Flowline.Proofs.Decimal.Reading

/-!
The comparison of JSON values hangs on their plain texts alone: a value takes part as a number just
if its text reads as a finite one. So the operators tell one order, and two values are equal, case
being regarded, if both are one number or neither is a number and they have one text.
-/

namespace Flowline

section Trimming

open Text

theorem trimList_cons {c : Char} (filled : isBlank c = false) (rest : List Char) :
    ∃ kept, trimList (c :: rest) = c :: kept := by
  have first : (c :: rest).dropWhile isBlank = c :: rest := by simp [filled]
  have last : [c].dropWhile isBlank = [c] := by simp [filled]
  rw [trimList, first, List.reverse_cons, List.dropWhile_append, last]
  split
  · exact ⟨[], rfl⟩
  · exact ⟨(rest.reverse.dropWhile isBlank).reverse, by simp⟩

theorem trimList_eq_self {chars : List Char} (filled : ∀ c ∈ chars, isBlank c = false) :
    trimList chars = chars := by
  have kept : ∀ {chars : List Char}, (∀ c ∈ chars, isBlank c = false) →
      chars.dropWhile isBlank = chars := by
    intro chars filled
    cases chars with
    | nil => rfl
    | cons c rest => simp [filled c List.mem_cons_self]
  rw [trimList, kept filled, kept (fun c listed => filled c (List.mem_reverse.mp listed)),
    List.reverse_reverse]

end Trimming

namespace Operator

section Numbers

theorem readFloat?_eq_none {chars : List Char} (unsigned : Decimal.splitSign chars = (false, chars))
    (unread : Decimal.readUnsigned? false chars = none)
    (word : ∀ known ∈ ["inf", "infinity", "nan"], chars.map Char.toLower ≠ known.toList) :
    Decimal.readFloat? (String.ofList chars) = none := by
  have other (known : String) (listed : known ∈ ["inf", "infinity", "nan"]) :
      String.ofList (chars.map Char.toLower) ≠ known := fun same =>
    word known listed (by rw [← same, String.toList_ofList])
  rw [Decimal.readFloat?, String.toList_ofList, unsigned]
  simp only [unread]
  rw [if_neg, if_neg (other "nan" (by simp))]
  rintro (inf | infinity)
  · exact other "inf" (by simp) inf
  · exact other "infinity" (by simp) infinity

/-- The text of a list or an object reads as no number. -/
theorem readFloat?_of_bracket {c : Char} (bracket : c = '[' ∨ c = '\x7b') (rest : List Char) :
    Decimal.readFloat? (Text.trim (String.ofList (c :: rest))) = none := by
  have filled : Text.isBlank c = false := by rcases bracket with rfl | rfl <;> decide
  obtain ⟨kept, trimmed⟩ := trimList_cons filled rest
  rw [Text.trim, String.toList_ofList, trimmed]
  rcases bracket with rfl | rfl
  · exact readFloat?_eq_none rfl rfl (by simp)
  · exact readFloat?_eq_none rfl rfl (by simp)

theorem finiteNumber?_of_bracket {c : Char} (bracket : c = '[' ∨ c = '\x7b') {text : String}
    {rest : List Char} (opened : text.toList = c :: rest) :
    finiteNumber? (.string text) = none := by
  have whole : text = String.ofList (c :: rest) := by rw [← opened, String.ofList_toList]
  show (Decimal.readFloat? (Text.trim text)).filter Float.isFinite = none
  rw [whole, readFloat?_of_bracket bracket]
  rfl

/-- The number that a value stands for in a comparison is told by its text. -/
theorem finiteNumber?_plainText (value : Json) :
    finiteNumber? (.string value.plainText) = finiteNumber? value := by
  cases value with
  | null => rfl
  | bool value => cases value <;> rfl
  | number number =>
      have whole : Text.trim number.text = number.text := by
        rw [Text.trim, trimList_eq_self fun c listed =>
          Decimal.not_isBlank_of_isNumeral (number.isNumeral_text c listed), String.ofList_toList]
      show (Decimal.readFloat? (Text.trim number.text)).filter Float.isFinite = _
      rw [whole, number.readFloat?_text]
      rfl
  | string text => rfl
  | array items =>
      exact finiteNumber?_of_bracket (.inl rfl) (by
        simp only [Json.plainText, Json.compact, String.toList_append]
        rfl)
  | object fields =>
      exact finiteNumber?_of_bracket (.inr rfl) (by
        simp only [Json.plainText, Json.compact, String.toList_append]
        rfl)

end Numbers

section Order

/-- The place of a value among the numbers. -/
def place? (value : Json) : Option Int := (finiteNumber? value).map Binary64.orderKey

theorem place?_congr {left right : Json} (same : left.plainText = right.plainText) :
    place? left = place? right := by
  rw [place?, place?, ← finiteNumber?_plainText left, ← finiteNumber?_plainText right, same]

/-- The order of two truth values is that of their texts. -/
theorem compareText_bool (a b caseSensitive : Bool) :
    compareText (Json.bool a).plainText (Json.bool b).plainText caseSensitive =
      compare a.toNat b.toNat := by
  revert a b caseSensitive
  decide +kernel

theorem isFinite_of_finiteNumber? {value : Json} {x : Float} (read : finiteNumber? value = some x) :
    x.isFinite = true := by
  unfold finiteNumber? at read
  split at read
  · cases read
  · exact (Option.filter_eq_some_iff.mp read).2

/-- The order of two values: by their places if both have one, and else by their texts. -/
def orderOf (left right : Json) (caseSensitive : Bool) : Ordering :=
  match place? left, place? right with
  | some a, some b => compare a b
  | _, _ => compareText left.plainText right.plainText caseSensitive

theorem compareValues_of_unread {left right : Json} (caseSensitive : Bool)
    (unread : finiteNumber? left = none ∨ finiteNumber? right = none) :
    compareValues left right caseSensitive =
      some (compareText left.plainText right.plainText caseSensitive) := by
  unfold compareValues
  split
  · simp_all
  · split
    · exact congrArg some (compareText_bool ..).symm
    · rfl

/-- An order is always given, since only finite numbers are compared as such. -/
theorem compareValues_eq (left right : Json) (caseSensitive : Bool) :
    compareValues left right caseSensitive = some (orderOf left right caseSensitive) := by
  rw [orderOf, place?, place?]
  cases read : finiteNumber? left with
  | none => exact compareValues_of_unread caseSensitive (.inl read)
  | some a =>
      cases read' : finiteNumber? right with
      | none => exact compareValues_of_unread caseSensitive (.inr read')
      | some b =>
          unfold compareValues
          rw [read, read']
          exact Binary64.partialCompare_of_finite (isFinite_of_finiteNumber? read)
            (isFinite_of_finiteNumber? read')

theorem compareText_swap (left right : String) (caseSensitive : Bool) :
    compareText right left caseSensitive = (compareText left right caseSensitive).swap := by
  rw [compareText, compareText]
  exact Std.OrientedOrd.eq_swap

theorem compareText_eq_eq_iff {left right : String} :
    compareText left right true = .eq ↔ left = right := Std.compare_eq_iff_eq

theorem orderOf_swap (left right : Json) (caseSensitive : Bool) :
    orderOf right left caseSensitive = (orderOf left right caseSensitive).swap := by
  rw [orderOf, orderOf]
  cases place? left with
  | none => cases place? right <;> exact compareText_swap ..
  | some a =>
      cases place? right with
      | none => exact compareText_swap ..
      | some b => exact Std.OrientedOrd.eq_swap

/-- What a value counts as: a number by its place, or else its text. -/
def standing (value : Json) : Int ⊕ String :=
  match place? value with
  | some place => .inl place
  | none => .inr value.plainText

theorem orderOf_eq_eq_iff {left right : Json} :
    orderOf left right true = .eq ↔ standing left = standing right := by
  have apart : place? left ≠ place? right → left.plainText ≠ right.plainText := mt place?_congr
  rw [orderOf, standing, standing]
  rcases placed : place? left with - | a <;> rcases placed' : place? right with - | b
  · simp [compareText_eq_eq_iff]
  · simpa [compareText_eq_eq_iff, placed, placed'] using apart
  · simpa [compareText_eq_eq_iff, placed, placed'] using apart
  · simp

end Order

section Verdicts

variable {operator : Operator} {question : Ordering → Bool}

/-- The operators that judge two values by their order, each with what it asks of the order. -/
inductive Asks : Operator → (Ordering → Bool) → Prop where
  | equals : Asks .equals Ordering.isEq
  | notEquals : Asks .notEquals Ordering.isNe
  | lessThan : Asks .lessThan Ordering.isLT
  | lessOrEqual : Asks .lessOrEqual Ordering.isLE
  | greaterThan : Asks .greaterThan Ordering.isGT
  | greaterOrEqual : Asks .greaterOrEqual Ordering.isGE

theorem Asks.evaluate_eq (asks : Asks operator question) (left right : Json)
    (caseSensitive : Bool) :
    operator.evaluate left right caseSensitive =
      .ok (question (orderOf left right caseSensitive)) := by
  cases asks <;> rw [evaluate, compareValues_eq] <;>
    cases orderOf left right caseSensitive <;> rfl

/-- What the operators make of two values: one of three verdicts is given, the other operators
follow from it, and it turns round with the values. -/
structure Coherent (left right : Json) (caseSensitive less equal greater : Bool) : Prop where
  exactlyOne : [less, equal, greater].count true = 1
  lessThan : evaluate .lessThan left right caseSensitive = .ok less
  equals : evaluate .equals left right caseSensitive = .ok equal
  greaterThan : evaluate .greaterThan left right caseSensitive = .ok greater
  greaterOrEqual : evaluate .greaterOrEqual left right caseSensitive = .ok (greater || equal)
  lessOrEqual : evaluate .lessOrEqual left right caseSensitive = .ok (less || equal)
  notEquals : evaluate .notEquals left right caseSensitive = .ok !equal
  lessThan_swap : evaluate .lessThan right left caseSensitive = .ok greater
  greaterThan_swap : evaluate .greaterThan right left caseSensitive = .ok less
  equals_swap : evaluate .equals right left caseSensitive = .ok equal

theorem coherent_of_order {left right : Json} {caseSensitive : Bool} {order : Ordering}
    (told : orderOf left right caseSensitive = order) :
    Coherent left right caseSensitive order.isLT order.isEq order.isGT where
  exactlyOne := by cases order <;> rfl
  lessThan := by rw [Asks.lessThan.evaluate_eq, told]
  equals := by rw [Asks.equals.evaluate_eq, told]
  greaterThan := by rw [Asks.greaterThan.evaluate_eq, told]
  greaterOrEqual := by rw [Asks.greaterOrEqual.evaluate_eq, told]; cases order <;> rfl
  lessOrEqual := by rw [Asks.lessOrEqual.evaluate_eq, told]; cases order <;> rfl
  notEquals := by rw [Asks.notEquals.evaluate_eq, told]; cases order <;> rfl
  lessThan_swap := by
    rw [Asks.lessThan.evaluate_eq, orderOf_swap, told, Ordering.isLT_swap]
  greaterThan_swap := by
    rw [Asks.greaterThan.evaluate_eq, orderOf_swap, told, Ordering.isGT_swap]
  equals_swap := by
    rw [Asks.equals.evaluate_eq, orderOf_swap, told, Ordering.isEq_swap]

theorem equals_iff_standing (left right : Json) :
    evaluate .equals left right true = .ok true ↔ standing left = standing right := by
  rw [Asks.evaluate_eq .equals, Except.ok.injEq, Ordering.isEq_iff_eq_eq, orderOf_eq_eq_iff]

/-- The operators of comparison form one relation, of whatever kinds the values are, and equality is
an equivalence where case is regarded. -/
theorem comparisons_coherent :
    (∀ left right caseSensitive, ∃ less equal greater,
      Coherent left right caseSensitive less equal greater) ∧
    Equivalence fun left right => evaluate .equals left right true = .ok true := by
  refine ⟨fun left right caseSensitive => ⟨_, _, _, coherent_of_order rfl⟩, ?_⟩
  simp only [equals_iff_standing]
  exact ⟨fun _ => rfl, Eq.symm, Eq.trans⟩

end Verdicts

section Integers

open Binary64 (rounded)

variable {left right : Int} {order : Ordering}

/-- What the operators make of two values as such, in a branch of the gateway, and in the
conditional node. -/
structure Compares (left right : Json) (caseSensitive : Bool) (order : Ordering) : Prop where
  evaluate : ∀ {operator question}, Asks operator question →
    operator.evaluate left right caseSensitive = .ok (question order)
  branch : ∀ {operator question}, Asks operator question → ∀ branch : BranchCondition,
    ofName branch.operator = .ok operator → branch.value = right →
      branch.holds left caseSensitive = .ok (question order)
  conditional : ∀ {operator question}, Asks operator question → ∀ inputs config : Json.Object,
    ofName (Json.Object.stringOr config "operator" "==") = .ok operator →
    lookup inputs "value" = some left → lookupOrConfig inputs config "compareValue" = some right →
    Json.Object.boolOr config "caseSensitive" true = caseSensitive →
      branchOnValue inputs config = .ok (branchOn (question order) "value" left)

theorem compares_of_order {left right : Json} {caseSensitive : Bool}
    (told : orderOf left right caseSensitive = order) :
    Compares left right caseSensitive order where
  evaluate asks := by rw [asks.evaluate_eq, told]
  branch asks branch named valued := by
    rw [BranchCondition.holds, named, valued]
    exact (asks.evaluate_eq ..).trans (by rw [told])
  conditional asks inputs config named found found' cased := by
    rw [branchOnValue, named, found, found', cased]
    show ((Operator.evaluate _ left right caseSensitive).mapError
      OperatorError.toRunError >>= _) = _
    rw [asks.evaluate_eq, told]
    rfl

theorem natAbs_lt_of_inRange {value : Int}
    (inRange : -0x8000000000000000 ≤ value ∧ value < 0x10000000000000000) :
    value.natAbs < 2 ^ 64 := by
  omega

/-- Two integers are compared as the doubles nearest to them. -/
theorem orderOf_integer
    (inRange : -0x8000000000000000 ≤ left ∧ left < 0x10000000000000000)
    (inRange' : -0x8000000000000000 ≤ right ∧ right < 0x10000000000000000) (caseSensitive : Bool) :
    orderOf (.number (.integer left inRange)) (.number (.integer right inRange')) caseSensitive =
      compare (rounded left) (rounded right) := by
  have placed {value : Int}
      (inRange : -0x8000000000000000 ≤ value ∧ value < 0x10000000000000000) :
      place? (.number (.integer value inRange)) =
        some (Binary64.orderKey (Decimal.ofInt value).toFloat) := by
    have finite := Binary64.isFinite_ofInt (natAbs_lt_of_inRange inRange)
    exact congrArg (Option.map Binary64.orderKey) (Option.filter_some_pos finite)
  rw [orderOf, placed inRange, placed inRange']
  exact Binary64.compare_orderKey_ofInt (natAbs_lt_of_inRange inRange)
    (natAbs_lt_of_inRange inRange')

/-- Integers are compared exactly once they are rounded to doubles: two are taken for one just if
they round to the same double, and those up to 2 ^ 53 are not rounded. -/
theorem integers_compared_as_doubles
    (inRange : -0x8000000000000000 ≤ left ∧ left < 0x10000000000000000)
    (inRange' : -0x8000000000000000 ≤ right ∧ right < 0x10000000000000000) (caseSensitive : Bool) :
    Compares (.number (.integer left inRange)) (.number (.integer right inRange')) caseSensitive
      (if rounded left = rounded right then .eq else compare left right) ∧
    (left.natAbs ≤ 2 ^ 53 → right.natAbs ≤ 2 ^ 53 →
      Compares (.number (.integer left inRange)) (.number (.integer right inRange')) caseSensitive
        (compare left right)) := by
  have told := orderOf_integer inRange inRange' caseSensitive
  refine ⟨compares_of_order (told.trans ?_), fun small small' => compares_of_order ?_⟩
  · split
    · exact compare_eq_iff_eq.mpr ‹_›
    · exact Binary64.compare_rounded (natAbs_lt_of_inRange inRange)
        (natAbs_lt_of_inRange inRange') ‹_›
  · rw [told, Binary64.rounded_of_le small, Binary64.rounded_of_le small']

/-- The first integers that are too close for doubles, and two small ones. -/
theorem integers_compared_as_doubles_adjacent :
    branchOnValue [("value", .number (.integer 9007199254740993 (by decide)))]
        [("compareValue", .number (.integer 9007199254740992 (by decide)))] =
      .ok (branchOn true "value" (.number (.integer 9007199254740993 (by decide)))) ∧
    BranchCondition.holds ⟨"positive", ">", .number (.integer 0 (by decide))⟩
      (.number (.integer (-3) (by decide))) false = .ok false := by
  constructor
  · exact (@integers_compared_as_doubles 9007199254740993 9007199254740992 (by decide) (by decide)
      true).1.conditional .equals _ _ rfl rfl rfl rfl
  · exact ((@integers_compared_as_doubles (-3) 0 (by decide) (by decide) false).2 (by decide)
      (by decide)).branch .greaterThan _ rfl rfl

/-- Two integers that differ are judged equal. -/
theorem adjacent_integers_equal :
    evaluate .equals (.number (.integer 9007199254740993 (by decide)))
        (.number (.integer 9007199254740992 (by decide))) true = .ok true ∧
      (compare (9007199254740993 : Int) 9007199254740992).isEq = false := by
  refine ⟨?_, by decide⟩
  rw [Asks.equals.evaluate_eq, orderOf_integer]
  decide

end Integers

end Operator

end Flowline
