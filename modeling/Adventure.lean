import Adventure.Command.Dispatch
import Adventure.Command.Help
import Adventure.Command.Parse
import Adventure.Command.Similar
import Adventure.Console
import Adventure.Fault
import Adventure.Json.Reader
import Adventure.Json.Writer
import Adventure.Main
import Adventure.Number.Binary
import Adventure.Number.Notation
import Adventure.Number.Num
import Adventure.Number.Reading
import Adventure.Number.Shortest
import Adventure.Play.Act
import Adventure.Play.Apply
import Adventure.Play.Engine
import Adventure.Play.Eval
import Adventure.Play.Locate
import Adventure.Play.Lookup
import Adventure.Play.Match
import Adventure.Play.Path
import Adventure.Play.Render
import Adventure.Play.Session
import Adventure.Play.Snapshot
import Adventure.Play.State
import Adventure.Saves.Desk
import Adventure.Saves.Folder
import Adventure.Saves.Record
import Adventure.Saves.Slots
import Adventure.Schema.Basic
import Adventure.Schema.Check
import Adventure.Schema.Game
import Adventure.Session.Basic
import Adventure.Session.Request
import Adventure.Shelf.Basic
import Adventure.Shelf.Lighthouse
import Adventure.Story.Build
import Adventure.Story.Condition
import Adventure.Story.Dump
import Adventure.Story.Flags
import Adventure.Story.References
import Adventure.Story.World
import Adventure.Text.Blank
import Adventure.Text.Case
import Adventure.Text.CodeRanges
import Adventure.Text.Digit
import Adventure.Text.Printable
import Adventure.Text.Surrogate
import Adventure.Text.Wildcard
import Adventure.Value.Basic
import Adventure.Value.Loose
import Adventure.Value.Show
import Adventure.Value.Sort
import Adventure.Proofs.Mapping
import Adventure.Proofs.Json.Numbers
import Adventure.Proofs.Json.RoundTrip
import Adventure.Proofs.Play.Changes
import Adventure.Proofs.Play.Reread
import Adventure.Proofs.Session.Answer
import Adventure.Proofs.Play.Counter
import Adventure.Proofs.Play.Gates
import Adventure.Proofs.Session.Ending
import Adventure.Proofs.Number.Equality
import Adventure.Proofs.Session.Turns
import Adventure.Proofs.Session.Refusals
import Adventure.Proofs.Command.Talk
import Adventure.Proofs.Command.Dialogue
import Adventure.Proofs.Play.Exits
import Adventure.Proofs.Schema.Passing
import Adventure.Proofs.Story.Reading
import Adventure.Proofs.Story.Validation
import Adventure.Proofs.Play.Paths
import Adventure.Proofs.Play.Provenance
import Adventure.Proofs.Lighthouse.Game
import Adventure.Proofs.Play.Outcomes
import Adventure.Proofs.Number.Order
import Adventure.Proofs.Play.Passages
import Adventure.Proofs.Lighthouse.Lamp
import Adventure.Proofs.Play.ExitNaming
import Adventure.Proofs.Play.Frames
import Adventure.Proofs.Text.Case
import Adventure.Proofs.Command.Verbs
import Adventure.Proofs.Play.Successes
import Adventure.Proofs.Lighthouse.Moves
import Adventure.Proofs.Lighthouse.Winnable
import Adventure.Proofs.Value.Members
import Adventure.Proofs.Play.Redecoding
import Adventure.Proofs.Command.Shorthands
import Adventure.Proofs.Value.Sorting
import Adventure.Proofs.Saves.Loading
import Adventure.Proofs.Saves.Listing
import Adventure.Proofs.Command.Faults
import Adventure.Proofs.Session.UsedGates
import Adventure.Proofs.Play.Placement
import Adventure.Proofs.Story.Stores
import Adventure.Proofs.Play.Tidy
