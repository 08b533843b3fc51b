import PreimageProof.Export.Calldata
import PreimageProof.CommandLine.Session
import PreimageProof.Main
import PreimageProof.Proofs.Field.Ring
import PreimageProof.Proofs.Field.InnerProduct
import PreimageProof.Proofs.Polynomial.Transform
import PreimageProof.Proofs.Polynomial.Interpolation
import PreimageProof.Proofs.Polynomial.Divisibility
import PreimageProof.Proofs.Circuit.History
import PreimageProof.Proofs.Circuit.Lowering
import PreimageProof.Proofs.Circuit.Solving
import PreimageProof.Proofs.Circuit.Assignment
import PreimageProof.Proofs.Mimc.Gadget
import PreimageProof.Proofs.Groth16.Groups
import PreimageProof.Proofs.Groth16.Keys
import PreimageProof.Proofs.Groth16.Completeness
import PreimageProof.Proofs.Groth16.Soundness
import PreimageProof.Proofs.Circuit.Completion
import PreimageProof.Proofs.Groth16.ZeroKnowledge
import PreimageProof.Proofs.Mimc.Permutation
import PreimageProof.Proofs.Mimc.Preimage
import PreimageProof.Proofs.Groth16.Verdict
import PreimageProof.Proofs.Codec.Element
import PreimageProof.Proofs.Codec.Artifact
import PreimageProof.Proofs.Codec.Faithful
import PreimageProof.Proofs.Export.Words
import PreimageProof.Proofs.Codec.Canonical
import PreimageProof.Proofs.Codec.Respelling
import PreimageProof.Proofs.Mimc.KeyBinding
import PreimageProof.Proofs.Bounds.Prover
import PreimageProof.Proofs.Bounds.Reader
import PreimageProof.Proofs.Polynomial.Exactness
import PreimageProof.Proofs.Polynomial.Independence
import PreimageProof.Proofs.Mimc.LifeCycle
import PreimageProof.Proofs.Groth16.Objections
import PreimageProof.Proofs.Mimc.StandardKeys
import PreimageProof.Proofs.CommandLine.Commands
import PreimageProof.Proofs.CommandLine.History
import PreimageProof.Proofs.Circuit.CallOrder
import PreimageProof.Proofs.Circuit.Layout
import PreimageProof.Proofs.Circuit.CanonicalForm
import PreimageProof.Proofs.Groth16.RaggedKeys
import PreimageProof.Proofs.Groth16.ReferenceString
import PreimageProof.Proofs.Json.ReadBack
import PreimageProof.Proofs.Text.Decimal
import PreimageProof.Proofs.Text.Scanning
import PreimageProof.Proofs.Contract.ReadBack
import PreimageProof.Proofs.CommandLine.Scalars
import PreimageProof.Proofs.Export.Document
import PreimageProof.Proofs.Export.Parsing
import PreimageProof.Proofs.Export.Calldata
import PreimageProof.Proofs.Codec.PrefixFree
import PreimageProof.Proofs.Codec.Grammar
