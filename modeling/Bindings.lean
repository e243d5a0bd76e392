import Bindings.Main
import Bindings.Proofs.BindingDocument.Drain
import Bindings.Proofs.Function.Names
import Bindings.Proofs.Function.ReturnChecks
import Bindings.Proofs.Function.Returned
import Bindings.Proofs.Function.Void
import Bindings.Proofs.Run.Again
import Bindings.Proofs.Run.Discovered
import Bindings.Proofs.Run.Prefix
import Bindings.Proofs.Data
import Bindings.Proofs.Json.Document
import Bindings.Proofs.Json.Record
import Bindings.Proofs.Header.Written
import Bindings.BindingDocument.Reader
import Bindings.Proofs.BindingDocument.Written
import Bindings.Proofs.Toml.Document
import Bindings.Proofs.BindingDocument.Lossless
import Bindings.Proofs.Header.Spelling
import Bindings.Proofs.Function.Conditions
import Bindings.Proofs.BindingDocument.Functions
import Bindings.Proofs.Run.Reports
import Bindings.Proofs.CommandLine
import Bindings.Proofs.Program.Call
import Bindings.Proofs.Program.Accounting
import Bindings.Proofs.Program.Verbosity
import Bindings.Proofs.Function.Defaults
import Bindings.Proofs.Function.Naming
import Bindings.Proofs.Function.InputChecks
import Bindings.Proofs.HostEnum.Collision
