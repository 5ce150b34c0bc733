/-!
# Metered results

What a message costs its caller is counted: how often the argument of a log statement was evaluated, and how
often a message was formatted.  A metered result carries the two counts of all that was done to get it.

* `value_bind`, `usage_bind`: of two steps in a row the values compose and the counts add up.
-/

namespace LeveledLog

/-- How often an argument was evaluated, and how often a message was formatted. -/
structure Usage where
  evaluated : Nat
  formatted : Nat
  deriving DecidableEq

namespace Usage

instance : Zero Usage := ⟨⟨0, 0⟩⟩

instance : Add Usage := ⟨fun a b => ⟨a.evaluated + b.evaluated, a.formatted + b.formatted⟩⟩

/-- One evaluation of an argument. -/
def evaluation : Usage := ⟨1, 0⟩

/-- One formatting of a message. -/
def formatting : Usage := ⟨0, 1⟩

@[simp] theorem add_zero (a : Usage) : a + 0 = a := rfl

end Usage

/-- A result together with the usage that getting it took. -/
structure Metered (α : Type) where
  value : α
  usage : Usage
  deriving DecidableEq

namespace Metered

/-- Results in a row: the second step starts from the value of the first, and both usages count. -/
instance : Monad Metered where
  pure a := ⟨a, 0⟩
  bind x f := ⟨(f x.value).value, x.usage + (f x.value).usage⟩

variable {α β : Type}

@[simp] theorem value_bind (x : Metered α) (f : α → Metered β) :
    (x >>= f).value = (f x.value).value := rfl

@[simp] theorem usage_bind (x : Metered α) (f : α → Metered β) :
    (x >>= f).usage = x.usage + (f x.value).usage := rfl

end Metered

end LeveledLog
