import WasmBindings.Binary.Writer
import WasmBindings.Main
import WasmBindings.Proofs.Binary.Bounded
import WasmBindings.Proofs.Binary.Confinement
import WasmBindings.Proofs.Binary.Cost
import WasmBindings.Proofs.Binary.Custom
import WasmBindings.Proofs.Binary.Inverse
import WasmBindings.Proofs.Binary.Layout
import WasmBindings.Proofs.Binary.Location
import WasmBindings.Proofs.Binary.Operations
import WasmBindings.Proofs.Binary.Skipped
import WasmBindings.Proofs.Bindings.Embedding
import WasmBindings.Proofs.Bindings.MemberSyntax
import WasmBindings.Proofs.Bindings.Offences
import WasmBindings.Proofs.Build.Artifacts
import WasmBindings.Proofs.Build.Output
import WasmBindings.Proofs.Build.Stages
import WasmBindings.Proofs.Build.Verdict
import WasmBindings.Proofs.Module.Numbering
