import MediaImport.Failure
import MediaImport.Media.Object

/-!
# The catalogue

The objects that scripts added, in the order in which they were added.  Each gets
the next identifier, whatever identifier it came with.  An object must be added
under some container: an empty chain of containers is refused, and a refused
object leaves no trace.
-/

namespace MediaImport.Importer

open MediaImport.Media

/-- An added object, and where the script asked to put it. -/
structure CatalogueEntry where
  object : Object
  chain : String
  upnpClass : Option String
  deriving DecidableEq

/-- The objects that were added. -/
structure Catalogue where
  entries : List CatalogueEntry := []
  nextId : Int32 := 1000
  deriving DecidableEq

namespace Catalogue

/-- Add an object under a chain of containers: its identifier, and the catalogue
with it. -/
def add (catalogue : Catalogue) (object : Object) (chain : String)
    (upnpClass : Option String) : Except Failure (Int32 × Catalogue) :=
  if chain.isEmpty then .error .emptyContainerChain
  else
    let id := catalogue.nextId
    .ok (id, {
      entries := catalogue.entries ++ [⟨{ object with id }, chain, upnpClass⟩]
      nextId := id + 1 })

end Catalogue

end MediaImport.Importer
