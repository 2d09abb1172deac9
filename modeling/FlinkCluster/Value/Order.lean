import FlinkCluster.Error

/-!
# The order of plain data

Data compare by what they stand for: flags are one and zero, and numbers of all kinds are one line.
`Value.same` is equality in that sense, and `Value.atLeast` the order. Texts compare by their
characters, and lists by the first place at which they differ, or else by their lengths. Nothing else
has an order.
-/

set_option autoImplicit false

namespace FlinkCluster.Value

/-! ## Numbers -/

/-- The place of a datum on the line of numbers, infinities before and behind all others. -/
def rank? : Value → Option (Int × Rat)
  | .flag b => some (0, if b then 1 else 0)
  | .integer n => some (0, n)
  | .number (.infinite negative) => some (if negative then -1 else 1, 0)
  | .number x => x.toRat?.map fun q => (0, q)
  | _ => none

/-- Whether a place on the line is at another or behind it. -/
def rankAtLeast (a b : Int × Rat) : Bool := decide (b.1 < a.1) || (a.1 == b.1 && decide (b.2 ≤ a.2))

/-- Whether the datum is a number of any kind. -/
def isNumeric : Value → Bool
  | .flag _ | .integer _ | .number _ => true
  | _ => false

/-! ## Equality -/

mutual

/-- Whether two data stand for the same. The order of the keys of maps does not count. -/
def same : Value → Value → Bool
  | .null, .null => true
  | .text s, .text t => s == t
  | .list a, .list b => sameItems a b
  | .map a, .map b => a.length == b.length && sameEntries a b
  | a, b =>
    match rank? a, rank? b with
    | some x, some y => x == y
    | _, _ => false

/-- Whether two lists stand for the same, item by item. -/
def sameItems : List Value → List Value → Bool
  | [], [] => true
  | x :: a, y :: b => same x y && sameItems a b
  | _, _ => false

/-- Whether all the entries are in a map. -/
def sameEntries : List (String × Value) → List (String × Value) → Bool
  | [], _ => true
  | (k, x) :: a, b =>
    (match Table.findEntry k b with
      | some y => same x y
      | none => false) && sameEntries a b

end

/-! ## Order -/

mutual

/-- Whether a datum is at another or behind it. -/
def atLeast : Value → Value → Outcome Bool
  | .text s, .text t => .ok (decide (t ≤ s))
  | .list a, .list b => itemsAtLeast a b
  | a, b =>
    if a.isNumeric && b.isNumeric then
      match rank? a, rank? b with
      | some x, some y => .ok (rankAtLeast x y)
      | _, _ => .ok false
    else .error (.incomparable a.kindWord b.kindWord)

/-- Whether a list is at another or behind it. -/
def itemsAtLeast : List Value → List Value → Outcome Bool
  | _, [] => .ok true
  | [], _ :: _ => .ok false
  | x :: a, y :: b => if same x y then itemsAtLeast a b else atLeast x y

end

example : atLeast (.list [.integer 1, .null]) (.list [.flag true]) = .ok true
    ∧ atLeast (.list [.text "b"]) (.list [.text "a", .null]) = .ok true
    ∧ atLeast (.integer 2) (.list []) = .error (.incomparable "int" "list") := by
  refine ⟨?_, ?_, ?_⟩ <;> cbv

end FlinkCluster.Value
