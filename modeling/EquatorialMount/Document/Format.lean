import EquatorialMount.Document.Content
import EquatorialMount.Document.Writing
import EquatorialMount.Options

/-!
# The format of the files

Options and samples are kept in one format, which is read and written as the modules on documents say.
-/

namespace EquatorialMount.DocumentFormat

/-- Documents in YAML 1.1, on a machine that goes through sets in an order. -/
def yaml (order : SetOrder Float) : DocumentFormat Float := ⟨Document.ofText order, Document.text⟩

end EquatorialMount.DocumentFormat
