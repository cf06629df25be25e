import AccountRegistry.Account
import AccountRegistry.Cli.Args
import AccountRegistry.Cli.Run
import AccountRegistry.Config
import AccountRegistry.Cpf
import AccountRegistry.Cpf.Generate
import AccountRegistry.Cpf.Words
import AccountRegistry.Failure
import AccountRegistry.Failure.Identity
import AccountRegistry.Failure.Store
import AccountRegistry.Http.MediaType
import AccountRegistry.Http.Response
import AccountRegistry.Http.Router
import AccountRegistry.Http.Uri
import AccountRegistry.Json.Reader
import AccountRegistry.Json.Shape
import AccountRegistry.Json.Value
import AccountRegistry.Log
import AccountRegistry.Log.Filter
import AccountRegistry.Log.Format
import AccountRegistry.Main
import AccountRegistry.Memory.World
import AccountRegistry.Memory.Request
import AccountRegistry.Memory.Concurrent
import AccountRegistry.Net.Address
import AccountRegistry.Net.LooseIpv4
import AccountRegistry.Net.Url
import AccountRegistry.Number.Binary
import AccountRegistry.Number.Text
import AccountRegistry.Payload
import AccountRegistry.Remote.Body
import AccountRegistry.Remote.Client
import AccountRegistry.Remote.Column
import AccountRegistry.Remote.Connection
import AccountRegistry.Remote.Database
import AccountRegistry.Remote.Directory
import AccountRegistry.Remote.Reply
import AccountRegistry.Remote.Servers
import AccountRegistry.Remote.Tokens
import AccountRegistry.Remote.World
import AccountRegistry.Server
import AccountRegistry.Service
import AccountRegistry.Text.Case
import AccountRegistry.Text.DateTime
import AccountRegistry.Text.Unicode
import AccountRegistry.Text.Utf8
import AccountRegistry.Wire
import AccountRegistry.Wire.Basic
import AccountRegistry.Wire.Classify
import AccountRegistry.Wire.Config
import AccountRegistry.Wire.Decode
import AccountRegistry.Wire.Memory
import AccountRegistry.Wire.Process
import AccountRegistry.Wire.Remote
import AccountRegistry.Wire.Steps
import AccountRegistry.Proofs.CpfCheck
import AccountRegistry.Proofs.CallDiscipline
import AccountRegistry.Proofs.Tables
import AccountRegistry.Proofs.Interleaving
import AccountRegistry.Proofs.Alone
import AccountRegistry.Proofs.Sequential
import AccountRegistry.Proofs.RoundTrip
import AccountRegistry.Proofs.Alarms
import AccountRegistry.Proofs.Credentials
import AccountRegistry.Proofs.StandardSql
import AccountRegistry.Proofs.StoreRefinement
import AccountRegistry.Proofs.JsonText
import AccountRegistry.Proofs.CpfEncodings
import AccountRegistry.Proofs.Classification
import AccountRegistry.Proofs.ProviderErrors
import AccountRegistry.Proofs.Substitution
import AccountRegistry.Proofs.FreshTaxIds
import AccountRegistry.Proofs.CheckWords
import AccountRegistry.Proofs.SuffixCheck
