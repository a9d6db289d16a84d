import StructuralAdapters.Order
import StructuralAdapters.Contract.Instantiation
import StructuralAdapters.Synthesizer
import StructuralAdapters.Settings.File
import StructuralAdapters.Session.Run
import StructuralAdapters.Proofs.Substitution
import StructuralAdapters.Proofs.Closing
import StructuralAdapters.Proofs.Flattening
import StructuralAdapters.Proofs.Canonical
import StructuralAdapters.Proofs.Images
import StructuralAdapters.Proofs.Pool
import StructuralAdapters.Proofs.Loose
import StructuralAdapters.Proofs.Identity
import StructuralAdapters.Proofs.Fresh
import StructuralAdapters.Proofs.Commutation
import StructuralAdapters.Proofs.Binding
import StructuralAdapters.Proofs.Targets
import StructuralAdapters.Proofs.Forwarding
import StructuralAdapters.Proofs.NativePath
import StructuralAdapters.Proofs.Caching
import StructuralAdapters.Proofs.Requests
import StructuralAdapters.Proofs.Program
import StructuralAdapters.Proofs.History
import StructuralAdapters.Proofs.Invoking
import StructuralAdapters.Proofs.Keys
import StructuralAdapters.Proofs.OpenContracts
import StructuralAdapters.Proofs.Traversal
import StructuralAdapters.Proofs.Entailment
import StructuralAdapters.Proofs.Upcasting
import StructuralAdapters.Proofs.SharedCache
import StructuralAdapters.Proofs.SingleFlight
import StructuralAdapters.Proofs.LoneCalls
import StructuralAdapters.Proofs.Generation
import StructuralAdapters.Proofs.NominalExtension
import StructuralAdapters.Proofs.Progress
import StructuralAdapters.Proofs.BareParents
import StructuralAdapters.Proofs.PlainRecursion
import StructuralAdapters.Proofs.Sharing
import StructuralAdapters.Proofs.Inheritance
import StructuralAdapters.Proofs.NamedCalls
import StructuralAdapters.Proofs.NativeInheritance
import StructuralAdapters.Proofs.Reverting
import StructuralAdapters.Proofs.Reports
import StructuralAdapters.Proofs.LayoutStream
import StructuralAdapters.Proofs.CacheCalls
import StructuralAdapters.Proofs.Leftovers
