import DocumentSchema.Blueprint.Fault
import DocumentSchema.Glob.Pattern
import DocumentSchema.Schema

namespace DocumentSchema.CommandLine

inductive Failure where
  | notCompiled (error : Blueprint.CompileError)
  | noRoot (unknown : UnknownRoot)
  | badPattern (malformed : Glob.Malformed)
  | noMatch (pattern : String)
  | standardInputTwice
  | unreadable (path : String)
  | unreadableStandardInput
  | pointerMissed (pointer label : String)
  | filterFailed (label : String)
  | noDirectory (fault : FileFault)
  | unwritable (path : String)
  deriving DecidableEq

def Failure.message : Failure → String
  | .notCompiled e => e.message
  | .noRoot u => u.message
  | .badPattern m => m.message
  | .noMatch pattern => s!"glob pattern matched no files: {pattern}"
  | .standardInputTwice => "'-' (stdin) given more than once"
  | .unreadable path => s!"failed to read input file {path}"
  | .unreadableStandardInput => "failed to read stdin"
  | .pointerMissed pointer label => s!"JSON pointer {pointer} matched nothing in {label}"
  | .filterFailed label => s!"failed to apply jq expression to {label}"
  | .noDirectory fault => fault.message
  | .unwritable path => s!"failed to write {path}"

end DocumentSchema.CommandLine
