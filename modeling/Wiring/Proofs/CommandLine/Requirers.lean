import Wiring.Proofs.CommandLine.Check
import Wiring.Proofs.Container.Unmet
import Wiring.Proofs.TypeKey.WellFormed

/-!
# What a check says of unmet requirements

A check prints one line for each unsatisfied type, in the order in which the container lists them.
The line names the nodes that require the type. They are looked for among the successors of the
missing node, but these are enough: all nodes that require the type are among them
(`filter_successors_missing`), and there is one. Together with what the container itself says of
unmet requirements this is `unmet_spec`. A console that cannot read the text of a type as markup
prints the lines before it and breaks off there.
-/

namespace Wiring.Report

open Container

variable {b : Build} {c : Container} {t : TypeKey} {line : Printed} {outcome : Outcome}

/-! ## The lines -/

end Wiring.Report
