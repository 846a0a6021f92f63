import HostConfig.Lib.StableSort
import HostConfig.Lib.Checks
import HostConfig.Lib.Counter
import HostConfig.Lib.Regex
import HostConfig.Lib.Ipv4
import HostConfig.Errors
import HostConfig.Models.Types
import HostConfig.Models.Interface
import HostConfig.Models.Vlan
import HostConfig.Models.Validators
import HostConfig.Models.Intent
import HostConfig.Lib.Outline
import HostConfig.Lib.TextLines
import HostConfig.Lib.Runs
import HostConfig.Models.Tree
import HostConfig.Models.Assign
import HostConfig.Render.Line
import HostConfig.Render.Templates
import HostConfig.Render.Emitter
import HostConfig.Render.Embedded
import HostConfig.Render.Netplan
import HostConfig.Render.Stanzas
import HostConfig.Render.Determinism
import HostConfig.Render.Injection
import HostConfig.Lib.Readings
import HostConfig.Lib.Traverse
import HostConfig.Netbox.Records
import HostConfig.Netbox.Loader
import HostConfig.Netbox.Views
import HostConfig.Service.App
import HostConfig.Service.Outcome
import HostConfig.Netbox.Provenance
import HostConfig.Netbox.Reordering
import HostConfig.Lib.Sha256
import HostConfig.Lib.Interleaving
import HostConfig.Lib.Table
import HostConfig.Lib.StateRuns
import HostConfig.Service.Middleware
import HostConfig.Service.Metrics
import HostConfig.Service.Dispatch
import HostConfig.Service.Cardinality
import HostConfig.Service.Routes
import HostConfig.Service.Application
import HostConfig.Netbox.RaisedRules
import HostConfig.Service.Envelope
import HostConfig.Render.Devices
import HostConfig.Netbox.Conventions
import HostConfig.Netbox.Faithful
import HostConfig.Netbox.CustomFields
import HostConfig.Netbox.Schema
import HostConfig.Netbox.SchemaAtomicity
import HostConfig.Netbox.SchemaConvergence
import HostConfig.Netbox.SchemaDeployments
import HostConfig.Netbox.ObjectTypes
import HostConfig.Fixtures.Objects
import HostConfig.Fixtures.Populate
import HostConfig.Fixtures.Steps
import HostConfig.Fixtures.Runs
import HostConfig.Fixtures.Idempotence
import HostConfig.Fixtures.Accounting
import HostConfig.Fixtures.Assignments
import HostConfig.Fixtures.Calls
import HostConfig.Fixtures.Conflicts
import HostConfig.Fixtures.RoundTrip
import HostConfig.Fixtures.Isolation
import HostConfig.Fixtures.Mounting
import HostConfig.Fixtures.Hosts
import HostConfig.Fixtures.Acceptance
import HostConfig.Fixtures.Pipeline
import HostConfig.Fixtures.Resumption
import HostConfig.Fixtures.Faults
import HostConfig.Lib.YamlScalar
import HostConfig.Lib.YamlBlock
import HostConfig.Render.YamlLines
import HostConfig.Render.Loaded
import HostConfig.Render.Decode
import HostConfig.Scripts.Probe
import HostConfig.Scripts.ValidateH200Host
import HostConfig.Scripts.Soundness
import HostConfig.Scripts.Interfaces
import HostConfig.Lib.Wiring
import HostConfig.Vms.Launch
import HostConfig.Vms.Wires
import HostConfig.Lib.FileSystem
import HostConfig.Lib.Raising
import HostConfig.Vms.PrepareImage
import HostConfig.Vms.Replacement
import HostConfig.Vms.Customization
import HostConfig.Vms.Images
import HostConfig.Service.RequestId
import HostConfig.Scripts.Provisioned
import HostConfig.Render.Injective
