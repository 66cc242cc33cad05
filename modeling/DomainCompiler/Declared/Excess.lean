import DomainCompiler.Declared.Basic
import DomainCompiler.Value.Excess

/-!
# Declarations that are too large to be resolved

The bounds of constraints are written into annotations, and the data of value objects are copied
whole. A declaration whose bounds have too many digits or whose data contain themselves cannot be
resolved, although it is well formed.
-/

namespace DomainCompiler

def Bound.excess? : Bound → Option Excess
  | .int n => (Value.int n).excess?
  | _ => none

namespace Declared

def Constraint.excess? (c : Constraint) : Option Excess :=
  [c.value, c.min, c.max, c.integer.map .int, c.fraction.map .int].findSome? fun bound =>
    bound.bind Bound.excess?

def Field.excess? (f : Field) : Option Excess :=
  f.constraints.findSome? Constraint.excess?

def endlessData? (data : List Value) : Option Excess :=
  if data.any Value.isEndless then some .endless else none

def ValueObject.excess? (v : ValueObject) : Option Excess :=
  ((v.fields.findSome? Field.excess?).or
    (v.methods.findSome? fun m => endlessData? m.parameters)).or (endlessData? v.validation)

def Entity.excess? (e : Entity) : Option Excess :=
  e.fields.findSome? Field.excess?

/-- The first excess of an aggregate; value objects come before entities. -/
def Aggregate.excess? (a : Aggregate) : Option Excess :=
  (a.valueObjects.findSome? ValueObject.excess?).or (a.entities.findSome? Entity.excess?)

def Document.excess? (d : Document) : Option Excess :=
  d.aggregates.findSome? Aggregate.excess?

end Declared

end DomainCompiler
