import ApiChain.Files.Directory
import ApiChain.Main
import ApiChain.Proofs.Plan.Isolation
import ApiChain.Proofs.Plan.Urls
import ApiChain.Proofs.Run.Abort
import ApiChain.Proofs.Run.FirstWrite
import ApiChain.Proofs.Run.Commute
import ApiChain.Proofs.Run.Influence
import ApiChain.Proofs.Run.Columns
import ApiChain.Proofs.Run.Fallback
import ApiChain.Proofs.Table.RoundTrip
import ApiChain.Proofs.Mapping.Envelope
import ApiChain.Proofs.Template.Leftmost
import ApiChain.Proofs.Template.Passes
import ApiChain.Proofs.Cli.AllOrNothing
import ApiChain.Proofs.Plan.Detection
import ApiChain.Proofs.Path.Lookup
import ApiChain.Proofs.Path.Stars
import ApiChain.Proofs.Path.Rendering
import ApiChain.Proofs.Template.Untouched
import ApiChain.Proofs.Plan.Frame
import ApiChain.Proofs.Mapping.Records
import ApiChain.Proofs.Definition.Spelling
