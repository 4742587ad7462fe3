import Tablewright.Declaration.Reading
import Tablewright.Declaration.Tree

namespace Tablewright.Declaration

inductive Precedence
  | jump
  | assign
  | range
  | or
  | and
  | compare
  | bitOr
  | bitXor
  | bitAnd
  | shift
  | sum
  | product
  | cast
  deriving DecidableEq, Repr

def Precedence.rank : Precedence → Nat
  | .jump => 0
  | .assign => 1
  | .range => 2
  | .or => 3
  | .and => 4
  | .compare => 5
  | .bitOr => 6
  | .bitXor => 7
  | .bitAnd => 8
  | .shift => 9
  | .sum => 10
  | .product => 11
  | .cast => 12

/-- Types, patterns, expressions, bodies and items hold one another. A grammar reads each of them
up to some depth. A flag of types allows sums of bounds, the flags of bounds allow captures and
constant bounds, a flag of expressions allows record values, and a flag of imports allows the
separator of segments in front. A boundary expression may end at its closing brace. -/
structure Grammar where
  type : (sums : Bool) → Reading TypeTree
  bound : (captures constants : Bool) → Reading BoundTree
  pattern : Reading PatternTree
  expression : (records : Bool) → Reading Expression
  operand : (records : Bool) → Reading Expression
  operators : Expression → (records : Bool) → Precedence → Reading Expression
  boundary : Reading Expression
  body : Reading (List Statement)
  item : Reading Item
  imports : (rooted : Bool) → Reading Unit

def Grammar.flat : Grammar where
  type _ := Reading.fail
  bound _ _ := Reading.fail
  pattern := Reading.fail
  expression _ := Reading.fail
  operand _ := Reading.fail
  operators _ _ _ := Reading.fail
  boundary := Reading.fail
  body := Reading.fail
  item := Reading.fail
  imports _ := Reading.fail

end Tablewright.Declaration
