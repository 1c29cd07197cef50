namespace DocumentSchema.CommandLine

/-- A blueprint file, and whether objects that do not say so are open. -/
structure BlueprintOptions where
  path : String
  openByDefault : Bool
  deriving DecidableEq

structure InputOptions where
  byLine : Bool
  pointer : Option String
  filter : Option String
  inputs : List String
  deriving DecidableEq

inductive Command where
  | check (blueprint : BlueprintOptions)
  | validate (blueprint : BlueprintOptions) (root : String) (input : InputOptions)
      (all print : Bool)
  | schema (blueprint : BlueprintOptions) (root : String) (out : Option String)
  deriving DecidableEq

end DocumentSchema.CommandLine
