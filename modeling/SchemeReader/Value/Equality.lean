import SchemeReader.Limits
import SchemeReader.Value

set_option autoImplicit false

namespace SchemeReader

-- The number is the fraction `n / 10 ^ places`.
def Plain.number? : Plain → Option (Int × Nat)
  | .integer n => some (n, 0)
  | .fraction unscaled places => some (unscaled, places)
  | .truth b => some (if b then 1 else 0, 0)
  | _ => none

def Plain.equals (a b : Plain) : Bool :=
  match a.number?, b.number? with
  | some (n, places), some (m, others) => n * Int.pow 10 others = m * Int.pow 10 places
  | _, _ => a = b

namespace Value

def bothEqual : Option Bool → Option Bool → Option Bool
  | some true, later => later
  | first, _ => first

mutual

def equalsWithin : Nat → Value → Value → Option Bool
  | 0, _, _ => none
  | depth + 1, a, b =>
    match a, b with
    | .plain a, .plain b => some (a.equals b)
    | .literal a, .literal b => some (a = b)
    | .symbol a, .symbol b | .variable a, .variable b => some (a = b)
    | .nil, .nil => some true
    | .cons a b, .cons c d
    | .unlessThen a b, .unlessThen c d
    | .simple a b, .simple c d
    | .binding a b, .binding c d => bothEqual (equalsWithin depth a c) (equalsWithin depth b d)
    | .list as, .list bs
    | .and as, .and bs
    | .or as, .or bs
    | .begin as, .begin bs => allEqualWithin depth as bs
    | .quote a, .quote b | .time a, .time b | .bare a, .bare b => equalsWithin depth a b
    | .ifElse a b c, .ifElse d e f =>
      bothEqual (equalsWithin depth a d)
        (bothEqual (equalsWithin depth b e) (equalsWithin depth c f))
    | .cond as a, .cond bs b => bothEqual (allEqualWithin depth as bs) (equalsWithin depth a b)
    | _, _ => some false

def allEqualWithin (depth : Nat) : List Value → List Value → Option Bool
  | [], [] => some true
  | a :: as, b :: bs => bothEqual (equalsWithin depth a b) (allEqualWithin depth as bs)
  | _, _ => some false

end

def equals? (a b : Value) (limits : Limits := .standard) : Option Bool :=
  equalsWithin limits.compare a b

def distinct? (values : List Value) (limits : Limits := .standard) : Option (List Value) :=
  values.foldlM
    (fun kept value => do
      return if ← kept.anyM (value.equals? · limits) then kept else kept ++ [value])
    []

mutual

-- Lists can change, so values that hold one have no place in a set.
def holdsList : Value → Bool
  | .plain _ | .literal _ | .symbol _ | .variable _ | .nil => false
  | .list _ => true
  | .cons a b | .unlessThen a b | .simple a b | .binding a b => holdsList a || holdsList b
  | .quote a | .time a | .bare a => holdsList a
  | .ifElse a b c => holdsList a || holdsList b || holdsList c
  | .and parts | .or parts | .begin parts => anyHoldsList parts
  | .cond clauses otherwise => anyHoldsList clauses || holdsList otherwise

def anyHoldsList : List Value → Bool
  | [] => false
  | value :: rest => holdsList value || anyHoldsList rest

end

end Value

end SchemeReader
