import Spreadsheet.Function.Chance
import Spreadsheet.Function.Logic
import Spreadsheet.Function.NumberFormat
import Spreadsheet.Function.Rounding
import Spreadsheet.Function.Statistics
import Spreadsheet.Function.Transcendental
import Std.Data.TreeMap

/-!
The functions by their names. A name is looked up in upper case; registering a name again
replaces what it stood for, and another name for a function stands for what that function was at
the time. The main statements say what a look-up finds after each step.
-/

set_option autoImplicit false

namespace Spreadsheet

structure Registry where
  bindings : Std.TreeMap String Function

namespace Registry

def empty : Registry :=
  { bindings := {} }

def get? (registry : Registry) (name : String) : Option Function :=
  registry.bindings[Text.upper name]?

def contains (registry : Registry) (name : String) : Bool :=
  (registry.get? name).isSome

def bind (registry : Registry) (name : String) (function : Function) : Registry :=
  { bindings := registry.bindings.insert (Text.upper name) function }

def register (registry : Registry) (function : Function) : Registry :=
  registry.bind function.name function

def registerAlias (registry : Registry) (other target : String) : Registry :=
  match registry.get? target with
  | some function => registry.bind other function
  | none => registry

def names (registry : Registry) : List String :=
  registry.bindings.keys

def builtins : List Function :=
  [ ⟨"SUM", 1, none, Function.sum⟩,
    ⟨"PRODUCT", 1, none, Function.product⟩,
    ⟨"MIN", 1, none, Function.minimum⟩,
    ⟨"MAX", 1, none, Function.maximum⟩,
    ⟨"MOD", 2, some 2, Function.remainder⟩,
    ⟨"POWER", 2, some 2, Function.power⟩,
    ⟨"ROUND", 1, some 2, Function.rounding .halfAway⟩,
    ⟨"CEIL", 1, some 2, Function.rounding .up⟩,
    ⟨"FLOOR", 1, some 2, Function.rounding .down⟩,
    ⟨"ABS", 1, some 1, Function.magnitude⟩,
    ⟨"SQRT", 1, some 1, Function.squareRoot⟩,
    ⟨"EXP", 1, some 1, Function.ofFloat Float.exp⟩,
    ⟨"LN", 1, some 1, Function.logarithm Float.log⟩,
    ⟨"LOG", 1, some 2, Function.logarithmTo⟩,
    ⟨"LOG10", 1, some 1, Function.logarithm Float.log10⟩,
    ⟨"PI", 0, some 0, Function.constant Binary64.pi⟩,
    ⟨"E", 0, some 0, Function.constant Binary64.e⟩,
    ⟨"RAND_INT", 2, some 2, Function.randomInteger⟩,
    ⟨"RAND_FLOAT", 0, some 0, Function.randomFraction⟩,
    ⟨"SIN", 1, some 1, Function.ofFloat Float.sin⟩,
    ⟨"COS", 1, some 1, Function.ofFloat Float.cos⟩,
    ⟨"TAN", 1, some 1, Function.ofFloat Float.tan⟩,
    ⟨"ASIN", 1, some 1, Function.ofFloat Float.asin⟩,
    ⟨"ACOS", 1, some 1, Function.ofFloat Float.acos⟩,
    ⟨"ATAN", 1, some 1, Function.ofFloat Float.atan⟩,
    ⟨"ATAN2", 2, some 2, Function.angle⟩,
    ⟨"SINH", 1, some 1, Function.ofFloat Float.sinh⟩,
    ⟨"COSH", 1, some 1, Function.ofFloat Float.cosh⟩,
    ⟨"TANH", 1, some 1, Function.ofFloat Float.tanh⟩,
    ⟨"AVERAGE", 1, none, Function.average⟩,
    ⟨"MEDIAN", 1, none, Function.median⟩,
    ⟨"MODE", 1, none, Function.mode⟩,
    ⟨"RANGE", 1, none, Function.spread⟩,
    ⟨"COUNT", 0, none, Function.countNumbers⟩,
    ⟨"COUNTA", 0, none, Function.countFilled⟩,
    ⟨"NUMBER_FORMAT", 1, some 2, Function.numberFormat .commaPoint⟩,
    ⟨"NUMBER_FORMAT_EU", 1, some 2, Function.numberFormat .pointComma⟩,
    ⟨"IF", 3, some 3, Function.choice⟩,
    ⟨"NOT", 1, some 1, Function.negation⟩,
    ⟨"AND", 1, none, Function.conjunction⟩,
    ⟨"OR", 1, none, Function.disjunction⟩ ]

/-- Other names for some of them, each before the name that it stands for. -/
def builtinAliases : List (String × String) :=
  [ ("POW", "POWER"), ("CEILING", "CEIL"), ("ARCSIN", "ASIN"), ("ARCCOS", "ACOS"),
    ("ARCTAN", "ATAN"), ("ARCTAN2", "ATAN2"), ("MEAN", "AVERAGE") ]

def standard : Registry :=
  builtinAliases.foldl (fun registry pair => registry.registerAlias pair.1 pair.2)
    (builtins.foldl register empty)

theorem get?_bind (registry : Registry) (name asked : String) (function : Function) :
    (registry.bind name function).get? asked =
      if Text.upper name = Text.upper asked then some function else registry.get? asked := by
  simp [get?, bind, Std.TreeMap.getElem?_insert]

/-- A further name stands for what its target is now; without a target nothing changes. -/
theorem get?_registerAlias (registry : Registry) (other target asked : String) :
    (registry.registerAlias other target).get? asked =
      if Text.upper other = Text.upper asked then
        (registry.get? target).or (registry.get? asked)
      else registry.get? asked := by
  unfold registerAlias
  cases registry.get? target with
  | none => simp
  | some function => rw [get?_bind]; rfl

theorem get?_empty (asked : String) : empty.get? asked = none := by
  simp [get?, empty]

end Registry

end Spreadsheet
