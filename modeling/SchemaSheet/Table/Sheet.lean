import SchemaSheet.Table.Listing
import SchemaSheet.Table.Parse

/-!
# Scripts to sheets

The whole way from a script to the listing of its table, without settings.
-/

namespace SchemaSheet

/-- The style of listings where nothing else is said. -/
def ListingStyle.standard : ListingStyle := ⟨true, false⟩

def sheet [Splitter] (script : Option Text) : Except ParseFault Text :=
  (Table.parse Opening.standard script).map
    (Table.listing ListingStyle.standard)

end SchemaSheet
