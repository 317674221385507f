import TextAdventure.Authoring.Copies
import TextAdventure.Authoring.Includes
import TextAdventure.Authoring.Removal
import TextAdventure.Decimal.Float
import TextAdventure.Decimal.Layout
import TextAdventure.Decimal.Numeral
import TextAdventure.Decimal.Shortest
import TextAdventure.Engine.Basic
import TextAdventure.Engine.Clock
import TextAdventure.Engine.Execution
import TextAdventure.Engine.Lifecycle
import TextAdventure.Engine.Locks
import TextAdventure.Engine.Opening
import TextAdventure.Engine.Reading
import TextAdventure.Engine.Registry
import TextAdventure.Engine.Travel
import TextAdventure.Engine.World
import TextAdventure.Error
import TextAdventure.Game.Basic
import TextAdventure.Game.Content
import TextAdventure.Http.Integer
import TextAdventure.Http.Service
import TextAdventure.Http.Target
import TextAdventure.Json.Basic
import TextAdventure.Json.Display
import TextAdventure.Json.Printer
import TextAdventure.Json.Reader
import TextAdventure.Json.Written
import TextAdventure.Lua.Block
import TextAdventure.Lua.Call
import TextAdventure.Lua.Code
import TextAdventure.Lua.Counter
import TextAdventure.Lua.Draft
import TextAdventure.Lua.Exchange
import TextAdventure.Lua.Heap
import TextAdventure.Lua.Machine
import TextAdventure.Lua.Meter
import TextAdventure.Lua.Number
import TextAdventure.Lua.Operator
import TextAdventure.Lua.Play
import TextAdventure.Lua.Reader
import TextAdventure.Lua.Step
import TextAdventure.Lua.Table
import TextAdventure.Lua.Term
import TextAdventure.Lua.Token
import TextAdventure.Lua.Value
import TextAdventure.Proofs.Actions
import TextAdventure.Proofs.Authoring.Aside
import TextAdventure.Proofs.Authoring.Cascading
import TextAdventure.Proofs.Authoring.Copies
import TextAdventure.Proofs.Authoring.Editing
import TextAdventure.Proofs.Authoring.Including
import TextAdventure.Proofs.Authoring.Joined
import TextAdventure.Proofs.Authoring.Reaching
import TextAdventure.Proofs.Authoring.Removal
import TextAdventure.Proofs.Authoring.Seeding
import TextAdventure.Proofs.Authoring.Spread
import TextAdventure.Proofs.Authoring.Undone
import TextAdventure.Proofs.Authoring.Unlinking
import TextAdventure.Proofs.Decimal.Shortest
import TextAdventure.Proofs.Decimal.Special
import TextAdventure.Proofs.Engine.Advance
import TextAdventure.Proofs.Engine.Ages
import TextAdventure.Proofs.Engine.Arriving
import TextAdventure.Proofs.Engine.Barred
import TextAdventure.Proofs.Engine.Beside
import TextAdventure.Proofs.Engine.Busy
import TextAdventure.Proofs.Engine.Commuting
import TextAdventure.Proofs.Engine.Concluding
import TextAdventure.Proofs.Engine.Course
import TextAdventure.Proofs.Engine.Effect
import TextAdventure.Proofs.Engine.Escaping
import TextAdventure.Proofs.Engine.Execution
import TextAdventure.Proofs.Engine.Failing
import TextAdventure.Proofs.Engine.Faults
import TextAdventure.Proofs.Engine.Holds
import TextAdventure.Proofs.Engine.Idle
import TextAdventure.Proofs.Engine.InStep
import TextAdventure.Proofs.Engine.Interleaved
import TextAdventure.Proofs.Engine.Itinerary
import TextAdventure.Proofs.Engine.Journeys
import TextAdventure.Proofs.Engine.Keeping
import TextAdventure.Proofs.Engine.Logs
import TextAdventure.Proofs.Engine.Neighbour
import TextAdventure.Proofs.Engine.Numbering
import TextAdventure.Proofs.Engine.Opening
import TextAdventure.Proofs.Engine.Operations
import TextAdventure.Proofs.Engine.Outset
import TextAdventure.Proofs.Engine.Playing
import TextAdventure.Proofs.Engine.Quiet
import TextAdventure.Proofs.Engine.Reading
import TextAdventure.Proofs.Engine.Reciting
import TextAdventure.Proofs.Engine.Recovery
import TextAdventure.Proofs.Engine.References
import TextAdventure.Proofs.Engine.Scripted
import TextAdventure.Proofs.Engine.Settled
import TextAdventure.Proofs.Engine.Starting
import TextAdventure.Proofs.Engine.Stopped
import TextAdventure.Proofs.Engine.Stores
import TextAdventure.Proofs.Engine.Stranding
import TextAdventure.Proofs.Engine.Tends
import TextAdventure.Proofs.Engine.Ticking
import TextAdventure.Proofs.Engine.Timely
import TextAdventure.Proofs.Engine.Times
import TextAdventure.Proofs.Engine.Twin
import TextAdventure.Proofs.Engine.Underway
import TextAdventure.Proofs.Engine.Untouched
import TextAdventure.Proofs.Engine.WellFormed
import TextAdventure.Proofs.Game.Restoring
import TextAdventure.Proofs.Http.Answering
import TextAdventure.Proofs.Http.Languages
import TextAdventure.Proofs.Http.Leafing
import TextAdventure.Proofs.Http.Sending
import TextAdventure.Proofs.Json.Lasting
import TextAdventure.Proofs.Json.Number
import TextAdventure.Proofs.Json.OnLines
import TextAdventure.Proofs.Json.Quoted
import TextAdventure.Proofs.Json.Reading
import TextAdventure.Proofs.Json.Reread
import TextAdventure.Proofs.Json.Settled
import TextAdventure.Proofs.Json.Spelling
import TextAdventure.Proofs.Lua.Courses
import TextAdventure.Proofs.Lua.Escapes
import TextAdventure.Proofs.Lua.Exchange
import TextAdventure.Proofs.Lua.Frames
import TextAdventure.Proofs.Lua.Guards
import TextAdventure.Proofs.Lua.Limit
import TextAdventure.Proofs.Lua.Preparing
import TextAdventure.Proofs.Lua.Racing
import TextAdventure.Proofs.Lua.Raising
import TextAdventure.Proofs.Lua.Steps
import TextAdventure.Proofs.Op
import TextAdventure.Proofs.Result
import TextAdventure.Proofs.Script.Histories
import TextAdventure.Proofs.Script.Ordering
import TextAdventure.Proofs.Script.Raising
import TextAdventure.Proofs.Script.Refusing
import TextAdventure.Proofs.Script.Resolving
import TextAdventure.Proofs.Script.Visiting
import TextAdventure.Proofs.Store.Apart
import TextAdventure.Proofs.Store.Contents
import TextAdventure.Proofs.Store.Copies
import TextAdventure.Proofs.Store.Damaged
import TextAdventure.Proofs.Store.Folder
import TextAdventure.Proofs.Store.Games
import TextAdventure.Proofs.Store.Journal
import TextAdventure.Proofs.Store.Listing
import TextAdventure.Proofs.Store.Lookups
import TextAdventure.Proofs.Store.Mirror
import TextAdventure.Proofs.Store.Paging
import TextAdventure.Proofs.Store.Payload
import TextAdventure.Proofs.Store.Rows
import TextAdventure.Proofs.Store.Shelves
import TextAdventure.Proofs.Store.Table
import TextAdventure.Proofs.Text.Case
import TextAdventure.Proofs.Text.Digits
import TextAdventure.Proofs.Text.Scalar
import TextAdventure.Record.Field
import TextAdventure.Record.Read
import TextAdventure.Record.Write
import TextAdventure.Script.Flatten
import TextAdventure.Script.Play
import TextAdventure.Script.Stage
import TextAdventure.Settings.Basic
import TextAdventure.Settings.Path
import TextAdventure.Store.Copies
import TextAdventure.Store.Folder
import TextAdventure.Store.Games
import TextAdventure.Store.Identity
import TextAdventure.Store.Includes
import TextAdventure.Store.Journal
import TextAdventure.Store.Keys
import TextAdventure.Store.Languages
import TextAdventure.Store.Payload
import TextAdventure.Store.Table
import TextAdventure.Story.Adventure
import TextAdventure.Story.Copy
import TextAdventure.Story.Field
import TextAdventure.Story.Script
import TextAdventure.Text.Ascii
import TextAdventure.Text.Basic
import TextAdventure.Text.Blank
import TextAdventure.Text.Case
import TextAdventure.Text.CaseTable
import TextAdventure.Text.Digit
import TextAdventure.Text.Printable
import TextAdventure.Text.Utf8
