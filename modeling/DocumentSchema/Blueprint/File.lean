import DocumentSchema.Blueprint.Compile
import DocumentSchema.Workspace

namespace DocumentSchema.Blueprint

def Source.ofFile (w : Workspace) (path : String) : Except CompileError Source :=
  match w.readText path with
  | .ok text => .ok ⟨path, text⟩
  | .error fault => .error (.unreadable path fault)

variable [PatternEngine]

def compileFile (openByDefault : Bool) (w : Workspace) (path : String) :
    Except CompileError Schema :=
  (Source.ofFile w path).bind (compile openByDefault)

end DocumentSchema.Blueprint
