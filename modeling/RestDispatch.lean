import RestDispatch.Param.Sharing
import RestDispatch.Main
import RestDispatch.Proofs.Route.Resolution
import RestDispatch.Proofs.Route.Spelling
import RestDispatch.Proofs.Param.Keys
import RestDispatch.Proofs.App.Registering
import RestDispatch.Proofs.App.Soundness
import RestDispatch.Proofs.App.Opacity
import RestDispatch.Proofs.App.Running
import RestDispatch.Proofs.Json.Halves
import RestDispatch.Proofs.App.Answering
import RestDispatch.Proofs.App.Delivery
import RestDispatch.Proofs.App.Strict
import RestDispatch.Proofs.App.Renumbering
import RestDispatch.Proofs.App.FailedRegistration
import RestDispatch.Proofs.Handler.Binding
import RestDispatch.Proofs.App.Acceptance
import RestDispatch.Proofs.App.Deciding
import RestDispatch.Proofs.Route.Growth
import RestDispatch.Proofs.App.History
import RestDispatch.Proofs.App.Finding
import RestDispatch.Proofs.Handler.ModelParameters
import RestDispatch.Proofs.Route.Constructing
import RestDispatch.Proofs.App.Origins
import RestDispatch.Proofs.App.Isolation
import RestDispatch.Proofs.Http.Receiving
import RestDispatch.Proofs.App.Cutting
import RestDispatch.Proofs.Json.Scalars
import RestDispatch.Proofs.Json.Written
import RestDispatch.Proofs.Text.Decoding
import RestDispatch.Proofs.Json.Reading
import RestDispatch.Proofs.App.Returning
import RestDispatch.Proofs.Route.Reordering
import RestDispatch.Proofs.App.Wrapping
import RestDispatch.Proofs.Text.Blanks
import RestDispatch.Proofs.Param.Delivering
import RestDispatch.Proofs.Param.Absent
import RestDispatch.Proofs.Route.Grammar
import RestDispatch.Proofs.Route.Rendering
import RestDispatch.Proofs.App.Supplying
import RestDispatch.Proofs.App.Enumerating
import RestDispatch.Proofs.Route.Literals
import RestDispatch.Proofs.Http.Sending
import RestDispatch.Proofs.Param.Refusing
import RestDispatch.Proofs.Param.Inheriting
import RestDispatch.Proofs.Param.Independence
import RestDispatch.Proofs.Launch.Starting
import RestDispatch.Proofs.CommandLine.Loading
import RestDispatch.Proofs.Json.Grammar
import RestDispatch.Proofs.Json.Numerals
import RestDispatch.Proofs.Json.Validity
import RestDispatch.Proofs.App.Enveloping
import RestDispatch.Proofs.Route.Languages
import RestDispatch.Proofs.App.Lifetime
import RestDispatch.Proofs.Handler.Judging
import RestDispatch.Proofs.CommandLine.Listing
