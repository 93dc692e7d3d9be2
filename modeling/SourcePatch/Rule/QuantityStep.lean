import SourcePatch.Rule.Insertion

/-!
# The built-in rule

The rule that gives every mock backend a `get_quantity_step` method: it looks for a
`backend_name` method that returns `"mock"` or `"MockBackend"` and is the last of its impl block,
and inserts the method before the closing brace of the block.
-/

namespace SourcePatch.QuantityStep

/-- The file that the rule is meant for, relative to the workspace. -/
def target : String := "src/strategy/atomic_execution.rs"

/-- A `backend_name` that returns one of the two names, directly followed by the closing brace of
its impl block. -/
def pattern : String :=
  "(fn backend_name\\(&self\\) -> &str \\\x7b\\s+(?:\"mock\"|\"MockBackend\")\\s+\\\x7d)\\s*(\\n\\s*\\\x7d)"

/-- The method that is inserted. -/
def method : String :=
  "            async fn get_quantity_step(&self, _exchange: &str, _symbol: &str) -> Result<f64, Box<dyn Error + Send + Sync>> \x7b\n                Ok(0.001)\n            \x7d"

def guard : String := "fn get_quantity_step"

/-- What is reported after a run. -/
def message : String := "Added get_quantity_step method to all MockBackend implementations"

theorem ofPattern_isSome : (InsertionRule.ofPattern pattern method).toOption.isSome = true := by
  decide +kernel

/-- The rule; its pattern compiles. -/
def rule : InsertionRule :=
  ((InsertionRule.ofPattern pattern method).toOption.get ofPattern_isSome).withGuard guard

end SourcePatch.QuantityStep
