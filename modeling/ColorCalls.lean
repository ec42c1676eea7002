import ColorCalls.Directory
import ColorCalls.Guarded
import ColorCalls.Log.Event
import ColorCalls.Log.Facade
import ColorCalls.Main
import ColorCalls.Program
import ColorCalls.Proofs.Checked.Steps
import ColorCalls.Proofs.Codec.Diagnosis
import ColorCalls.Proofs.Codec.History
import ColorCalls.Proofs.Edit.LastEdit
import ColorCalls.Proofs.Edit.OneCall
import ColorCalls.Proofs.Edit.Pass
import ColorCalls.Proofs.Edit.Splice
import ColorCalls.Proofs.Edit.Stale
import ColorCalls.Proofs.Locator.Completeness
import ColorCalls.Proofs.Locator.Units
import ColorCalls.Proofs.Log.Event
import ColorCalls.Proofs.Log.Library
import ColorCalls.Proofs.Position.Inverse
import ColorCalls.Proofs.Program.FreshEdit
import ColorCalls.Proofs.Program.Location
import ColorCalls.Proofs.Program.Table
import ColorCalls.Proofs.Text.Utf8
import ColorCalls.Proofs.Invocation.ColorArgument
import ColorCalls.Proofs.Locator.Account
import ColorCalls.Proofs.Settings.Entries
import ColorCalls.Proofs.Settings.Names
import ColorCalls.Proofs.Settings.Variables
import ColorCalls.Proofs.Invocation.Options
import ColorCalls.Proofs.Invocation.Order
import ColorCalls.Proofs.Log.Installation
import ColorCalls.Proofs.Log.Times
