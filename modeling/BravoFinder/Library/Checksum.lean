import Mathlib.Data.List.Basic

namespace BravoFinder

/-!
# Running checksums

A checksum folds a step over the symbols.  When the step forgets neither the
state nor the symbol, two sequences that differ in one symbol have different
checksums: the states part at that symbol and never meet again.
-/

namespace Checksum

variable {State Symbol : Type}

/-- A step that forgets neither the state nor the symbol. -/
structure Faithful (step : State -> Symbol -> State) : Prop where
  state : forall symbol first second, step first symbol = step second symbol -> first = second
  symbol : forall state first second, step state first = step state second -> first = second

variable {step : State -> Symbol -> State}

theorem Faithful.foldl_inj (faithful : Faithful step) (symbols : List Symbol) {first second : State}
    (meet : symbols.foldl step first = symbols.foldl step second) : first = second := by
  induction symbols generalizing first second with
  | nil => exact meet
  | cons symbol rest inductionHypothesis =>
      exact faithful.state symbol first second (inductionHypothesis meet)

/-- One changed symbol changes the checksum. -/
theorem Faithful.foldl_set_ne (faithful : Faithful step) (symbols : List Symbol) (index : Nat)
    (within : index < symbols.length) {symbol : Symbol} (changed : symbols[index] ≠ symbol) (state : State) :
    (symbols.set index symbol).foldl step state ≠ symbols.foldl step state := by
  induction symbols generalizing index state with
  | nil => exact absurd within (Nat.not_lt_zero index)
  | cons first rest inductionHypothesis =>
      cases index with
      | zero =>
          intro meet
          have parted := faithful.foldl_inj rest meet
          exact changed (faithful.symbol state symbol first parted).symm
      | succ index => exact inductionHypothesis index (Nat.lt_of_succ_lt_succ within) changed (step state first)

end Checksum
end BravoFinder
