import DeviceConnect.Main
import DeviceConnect.Proofs.Candidates
import DeviceConnect.Proofs.Schedule
import DeviceConnect.Proofs.Session
import DeviceConnect.Proofs.Wire.Frame
import DeviceConnect.Rehearsal
import DeviceConnect.Proofs.Wire.Stuffing
import DeviceConnect.Proofs.Text
import DeviceConnect.Proofs.Address
import DeviceConnect.Proofs.Exhaustion
import DeviceConnect.Proofs.Json.Scalar
import DeviceConnect.Proofs.Json.Shape
import DeviceConnect.Proofs.Json.RoundTrip
import DeviceConnect.Proofs.Disk
import DeviceConnect.Proofs.Json.Parsed
import DeviceConnect.Proofs.Settings
import DeviceConnect.Proofs.Blacklist
import DeviceConnect.Proofs.CommandLine
import DeviceConnect.Proofs.Openings
import DeviceConnect.Proofs.Quarantine
import DeviceConnect.Proofs.Trying
import DeviceConnect.Proofs.Aftermath
import DeviceConnect.Proofs.Isolation
import DeviceConnect.Proofs.Conduct
import DeviceConnect.Proofs.Receiving
import DeviceConnect.Proofs.ForeignMembers
import DeviceConnect.Proofs.FrameLimit
import DeviceConnect.Proofs.Sweep
import DeviceConnect.Proofs.Selection
import DeviceConnect.Proofs.Digits
import DeviceConnect.Proofs.Grammar
import DeviceConnect.Proofs.Preference
import DeviceConnect.Proofs.Enumeration
import DeviceConnect.Proofs.Eligibility
import DeviceConnect.Proofs.Naming
import DeviceConnect.Proofs.Restarts
import DeviceConnect.Proofs.Wire.Spelling
import DeviceConnect.Proofs.Draining
import DeviceConnect.Proofs.Gathering
import DeviceConnect.Proofs.Untouched
import DeviceConnect.Proofs.Waiting
import DeviceConnect.Proofs.Claiming
import DeviceConnect.Proofs.Layering
import DeviceConnect.Proofs.Placement
