import SchemaSheet.Text.Basic

/-!
# Splitters

A script is a sequence of statements.  Where a statement ends depends on the
language of the script, so that the division is given from outside; all that has
to hold of it is that it adds nothing to the script.
-/

namespace SchemaSheet

/-- A division of scripts into statements. -/
class Splitter where
  statements : Text → List Text
  subset_of_mem {script statement : Text} :
    statement ∈ statements script → statement ⊆ script

end SchemaSheet
