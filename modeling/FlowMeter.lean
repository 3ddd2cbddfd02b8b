import FlowMeter.Event.Text
import FlowMeter.Meter
import FlowMeter.Service.Directory
import FlowMeter.Settings.Load
import FlowMeter.Proofs.Window
import FlowMeter.Proofs.Layout
import FlowMeter.Proofs.Canonical
import FlowMeter.Proofs.Frame
import FlowMeter.Proofs.Framing
import FlowMeter.Proofs.Overflow
import FlowMeter.Proofs.Amounts
import FlowMeter.Proofs.Stream
import FlowMeter.Proofs.Forwarding
import FlowMeter.Proofs.Log
import FlowMeter.Proofs.Session
import FlowMeter.Proofs.Posting
import FlowMeter.Proofs.Family
import FlowMeter.Proofs.Account
import FlowMeter.Proofs.Order
import FlowMeter.Proofs.Balance
import FlowMeter.Proofs.Walk
import FlowMeter.Proofs.Budget
import FlowMeter.Proofs.AddressText
import FlowMeter.Proofs.Sharding
import FlowMeter.Proofs.KeyHash
import FlowMeter.Proofs.Processes
import FlowMeter.Proofs.Isolation
import FlowMeter.Proofs.JsonReader
import FlowMeter.Proofs.RecordJson
import FlowMeter.Proofs.Boundary
import FlowMeter.Proofs.Consistency
import FlowMeter.Proofs.EventText
import FlowMeter.Proofs.RecordShape
import FlowMeter.Proofs.Faultless
import FlowMeter.Proofs.DumpLines
import FlowMeter.Proofs.Truncation
import FlowMeter.Proofs.EndpointHash
import FlowMeter.Proofs.Peers
import FlowMeter.Proofs.StrictDotted
import FlowMeter.Proofs.FlatDirectory
import FlowMeter.Proofs.Phantom
import FlowMeter.Proofs.LineScalars
import FlowMeter.Proofs.LexerSteps
import FlowMeter.Proofs.BlockTokens
import FlowMeter.Proofs.BlockNodes
import FlowMeter.Proofs.SettingsValues
import FlowMeter.Proofs.SettingsLines
import FlowMeter.Proofs.SettingsText
