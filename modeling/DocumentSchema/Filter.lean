import DocumentSchema.Json.Value

namespace DocumentSchema

/-- An engine for filters: it runs the text of a filter on a value and has some outputs, unless the text
is no filter or the run fails. -/
class FilterEngine where
  outputs : String → Json.Value → Option (List Json.Value)

end DocumentSchema
