import Forwarding.Main
import Forwarding.Proofs.CompilationUnit.Receiver
import Forwarding.Proofs.Ascending
import Forwarding.Proofs.CompilationUnit.Lines
import Forwarding.Proofs.CompilationUnit.Resolution
import Forwarding.Proofs.CompilationUnit.Imports
import Forwarding.Proofs.CompilationUnit.DelegateType
import Forwarding.Proofs.CompilationUnit.PlainNames
import Forwarding.Proofs.CompilationUnit.Legibility
import Forwarding.Proofs.Draft
import Forwarding.Proofs.Text.Ascii
import Forwarding.Proofs.Text.SnakeCase
import Forwarding.Proofs.Text.Casing
import Forwarding.Proofs.Crate.Ident
import Forwarding.Proofs.Crate.Naming
import Forwarding.Proofs.Crate.MemberName
import Forwarding.Proofs.Crate.Layout
import Forwarding.Proofs.Crate.TraitImpl
import Forwarding.Proofs.Crate.DelegateType
import Forwarding.Proofs.Crate.Legality
import Forwarding.Proofs.Crate.ModuleName
import Forwarding.Proofs.Crate.Renaming
import Forwarding.Proofs.Crate.Search
import Forwarding.Proofs.Crate.PackageModules
import Forwarding.Proofs.ClassPath
import Forwarding.Proofs.Json.Spelling
import Forwarding.Proofs.Json.Value
import Forwarding.Proofs.Json.Reader
import Forwarding.Proofs.Descriptor.Reading
import Forwarding.Proofs.Backend
import Forwarding.Proofs.Spelling
import Forwarding.Proofs.ModuleDirs
import Forwarding.Proofs.Ancestry
import Forwarding.Proofs.FileTree.Growth
import Forwarding.Proofs.FileTree.Listing
import Forwarding.Proofs.FileTree.Making
import Forwarding.Proofs.FileTree.Remaking
import Forwarding.Proofs.Run.Steps
import Forwarding.Proofs.Run.KeepGoing
import Forwarding.Proofs.Run.ModuleTree
import Forwarding.Proofs.Run.Declarations
import Forwarding.Proofs.Run.Overwriting
import Forwarding.Proofs.Run.Acceptance
import Forwarding.Proofs.Run.Isolation
import Forwarding.Proofs.Run.Accumulation
import Forwarding.Proofs.Run.Batches
import Forwarding.Proofs.Run.Aborting
import Forwarding.Proofs.Run.Rerun
import Forwarding.Proofs.Run.History
import Forwarding.Proofs.Run.Events
import Forwarding.Proofs.Run.Formatting
