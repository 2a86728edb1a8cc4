import BeanGraph.Extraction.Basic
import BeanGraph.Table

/-!
# Registry of extractors

Two tables by the type of the container: the cascade extractors say which elements validation
descends into, and the unwrap extractors which value stands for the property that holds the wrapper.
A look-up knows only the type it was registered for.
-/

namespace BeanGraph

/-- The cascade and unwrap extractors by container type. -/
structure ExtractorRegistry where
  cascade : Table TypeTag Extractor := {}
  unwrap : Table TypeTag Extractor := {}

namespace ExtractorRegistry

/-- No extractors at all. -/
def empty : ExtractorRegistry := {}

/-- Lists, sets, maps and optionals cascade, and optionals unwrap. -/
def default : ExtractorRegistry where
  cascade := .ofList
    [(.list, .list), (.set, .set), (.map, .map), (.optional, .optional)]
  unwrap := .ofList [(.optional, .optional)]

/-- Adds an extractor for cascades; a type that has one is refused. -/
def registerCascade? (r : ExtractorRegistry) (tag : TypeTag) (x : Extractor) :
    Option ExtractorRegistry :=
  (r.cascade.register? tag x).map fun t => { r with cascade := t }

/-- Adds an extractor for unwrapping; a type that has one is refused. -/
def registerUnwrap? (r : ExtractorRegistry) (tag : TypeTag) (x : Extractor) :
    Option ExtractorRegistry :=
  (r.unwrap.register? tag x).map fun t => { r with unwrap := t }

end ExtractorRegistry

end BeanGraph
