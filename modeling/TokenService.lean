import TokenService.Abi.Decode
import TokenService.Abi.Encode
import TokenService.Abi.Type
import TokenService.Authority
import TokenService.Bounded
import TokenService.Bytes
import TokenService.Call.Arguments
import TokenService.Call.Dispatch
import TokenService.Call.Fault
import TokenService.Call.Function
import TokenService.Call.Native
import TokenService.Call.Operation
import TokenService.Call.Output
import TokenService.Call.Redirect
import TokenService.Call.Struct
import TokenService.Config
import TokenService.Config.Document
import TokenService.Config.Environment
import TokenService.Document.Entity
import TokenService.Document.Format
import TokenService.Document.Ledger
import TokenService.Document.Record
import TokenService.Document.Transaction
import TokenService.Entity.Id
import TokenService.Entity.Key
import TokenService.Entity.Row
import TokenService.Json.Document
import TokenService.Json.Token
import TokenService.Json.Value
import TokenService.Ledger.Allowance
import TokenService.Ledger.Answer
import TokenService.Ledger.Association
import TokenService.Ledger.Definition
import TokenService.Ledger.Effects
import TokenService.Ledger.Rules
import TokenService.Ledger.Supply
import TokenService.Ledger.Transfer
import TokenService.Ledger.View
import TokenService.Ledger.Work
import TokenService.NativeFunction
import TokenService.Price.Board
import TokenService.Price.Quote
import TokenService.Price.Table
import TokenService.Proofs.Addresses
import TokenService.Proofs.Call.Reading
import TokenService.Proofs.Call.Routes
import TokenService.Proofs.Consent
import TokenService.Proofs.Facade.Erc20
import TokenService.Proofs.Facade.Erc721
import TokenService.Proofs.Facade.Fungible
import TokenService.Proofs.Facade.NonFungible
import TokenService.Proofs.Facade.Requests
import TokenService.Proofs.Facade.Simulation
import TokenService.Proofs.Form
import TokenService.Proofs.Ledger.Candor
import TokenService.Proofs.Ledger.Conservation
import TokenService.Proofs.Ledger.Deeds
import TokenService.Proofs.Ledger.Definitions
import TokenService.Proofs.Ledger.Execution
import TokenService.Proofs.Ledger.Floor
import TokenService.Proofs.Ledger.Frames
import TokenService.Proofs.Ledger.Holdings
import TokenService.Proofs.Ledger.Isolation
import TokenService.Proofs.Ledger.Losses
import TokenService.Proofs.Ledger.Overflow
import TokenService.Proofs.Ledger.Rooted
import TokenService.Proofs.Ledger.Rows
import TokenService.Proofs.Ledger.Serials
import TokenService.Proofs.Ledger.Solvency
import TokenService.Proofs.Ledger.Succession
import TokenService.Proofs.Ledger.Sums
import TokenService.Proofs.Ledger.Tally
import TokenService.Proofs.Ledger.Yields
import TokenService.Proofs.Settlement.Atomicity
import TokenService.Proofs.Settlement.Conservation
import TokenService.Proofs.Settlement.Gates
import TokenService.Proofs.Settlement.Keys
import TokenService.Proofs.Settlement.Overflow
import TokenService.Proofs.Settlement.Runs
import TokenService.Proofs.Settlement.Sanction
import TokenService.Proofs.Settlement.Serials
import TokenService.Proofs.Settlement.Success
import TokenService.Proofs.Total
import TokenService.Record
import TokenService.Settlement.Compute
import TokenService.Settlement.Frame
import TokenService.Settlement.Result
import TokenService.Status
import TokenService.Table
import TokenService.Text.Blank
import TokenService.Text.Hidden
import TokenService.Text.Quoted
import TokenService.Text.Utf8
import TokenService.Transaction
import TokenService.WellFormed
import TokenService.Proofs.Settlement.Guards
import TokenService.Proofs.Settlement.Records
import TokenService.Proofs.Ledger.Freezes
import TokenService.Proofs.Settlement.Freezes
import TokenService.Proofs.Call.Written
import TokenService.Proofs.Facade.Counterparts
import TokenService.Proofs.Abi.RoundTrip
import TokenService.Proofs.Call.Envelopes
import TokenService.Proofs.Call.Given
import TokenService.Proofs.Call.Meaning
import TokenService.Proofs.Call.Orders
import TokenService.Proofs.Settlement.Founding
import TokenService.Proofs.Ledger.Differences
import TokenService.Proofs.Ledger.Committing
import TokenService.Proofs.Ledger.Movements
import TokenService.Proofs.Ledger.Issuance
import TokenService.Proofs.Settlement.Truth
import TokenService.Proofs.Ledger.Steps
import TokenService.Proofs.Ledger.TokenRows
import TokenService.Proofs.Settlement.Register
import TokenService.Proofs.Facade.Agreement
import TokenService.Proofs.Settlement.Newcomers
import TokenService.Proofs.Settlement.Results
import TokenService.Proofs.Ledger.Alike
import TokenService.Proofs.Ledger.Nobody
import TokenService.Proofs.Settlement.Vacancies
import TokenService.Proofs.Call.Switches
import TokenService.Proofs.Settlement.Signatures
import TokenService.Proofs.Ledger.Standstill
import TokenService.Proofs.Settlement.Standstill
import TokenService.Proofs.Ledger.Footprint
import TokenService.Proofs.Settlement.Commuting
import TokenService.Proofs.Call.Sound
import TokenService.Proofs.Call.Generations
import TokenService.Proofs.Settlement.Updates
import TokenService.Proofs.Ledger.Outcomes
import TokenService.Proofs.Settlement.Supplies
import TokenService.Proofs.Activation
import TokenService.Proofs.Settlement.Rebuilding
import TokenService.Proofs.Ledger.Preview
import TokenService.Proofs.Ledger.Amending
import TokenService.Proofs.Ledger.Drawing
import TokenService.Proofs.Ledger.Readiness
import TokenService.Proofs.Ledger.Exchanges
import TokenService.Proofs.Ledger.Sequences
import TokenService.Proofs.Settlement.Reordering
import TokenService.Proofs.Acceptance
import TokenService.Proofs.Price.Gas
import TokenService.Proofs.Settlement.Coherence
import TokenService.Proofs.Price.Schedule
import TokenService.Proofs.Price.Board
