import CompiledRules.Compiler.Registry
import CompiledRules.Expr.Printer
import CompiledRules.Proofs.Executor.RoundTrip
import CompiledRules.Proofs.Slots.Once
import CompiledRules.Proofs.Target.Meaning
import CompiledRules.Proofs.Workspace
import CompiledRules.Proofs.Bytes.Utf8
import CompiledRules.Proofs.Store.UnitFile
import CompiledRules.Proofs.Workspace.Transparent
import CompiledRules.Proofs.Store.Disk
import CompiledRules.Proofs.Store.File
import CompiledRules.Proofs.Expr.Progress
import CompiledRules.Proofs.Expr.Operand
import CompiledRules.Proofs.Expr.Reads
import CompiledRules.Proofs.Expr.Readable
import CompiledRules.Proofs.Expr.Image
import CompiledRules.Proofs.Expr.Printer
import CompiledRules.Proofs.Expr.Layout
import CompiledRules.Proofs.Compiler.Registry
import CompiledRules.Proofs.Compiler.Together
import CompiledRules.Proofs.Compiler.Asked
import CompiledRules.Proofs.Workspace.Failure
import CompiledRules.Proofs.Target.Assembles
import CompiledRules.Proofs.Slots.Forsaken
import CompiledRules.Proofs.Store.Damage
import CompiledRules.Proofs.Target.Shape
import CompiledRules.Proofs.Target.StrictNull
import CompiledRules.Proofs.Executor.Constants
import CompiledRules.Proofs.Record.Canonical
import CompiledRules.Proofs.Operators.Like
import CompiledRules.Proofs.Value.Compare
import CompiledRules.Proofs.Node.Precedence
import CompiledRules.Proofs.Expr.Positional
import CompiledRules.Proofs.Assembly.Lines
import CompiledRules.Proofs.Identifier.Separation
import CompiledRules.Proofs.Expr.Paths
import CompiledRules.Proofs.Executor.Integers
