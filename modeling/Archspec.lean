import Archspec.Lib.Bytes
import Archspec.Lib.Program
import Archspec.View
import Archspec.Host
import Archspec.Internal
import Archspec.Collectors.Processor
import Archspec.Collectors.Features
import Archspec.Collectors.Devices
import Archspec.Collectors.Machine
import Archspec.Core
import Archspec.Lib.Json
import Archspec.Encode
import Archspec.Encoding
import Archspec.Footprint
import Archspec.Answers
import Archspec.Reports
import Archspec.Readings
import Archspec.Redaction
import Archspec.Agreement
import Archspec.Cli
import Archspec.Arguments
import Archspec.Snapshot
import Archspec.Binding
import Archspec.CategoryLists
import Archspec.Families
import Archspec.Cpuinfo
import Archspec.CpuDirs
import Archspec.Lib.Grouping
import Archspec.Topology
import Archspec.Summary
import Archspec.SameMachine
import Archspec.Lib.KeepFirst
import Archspec.Caches
import Archspec.Gpus
import Archspec.Extensions
import Archspec.Lib.Utf8
import Archspec.WellFormed
import Archspec.Texts
import Archspec.Lib.Lines
import Archspec.Lib.Numerals
import Archspec.Numbers
import Archspec.Lib.Pieces
import Archspec.CpuLists
import Archspec.RoundTrips
import Archspec.Memory
import Archspec.Candidates
import Archspec.PowerSupplies
import Archspec.Lib.Words
import Archspec.AddressSizes
import Archspec.Escaping
import Archspec.Enumeration
import Archspec.Fidelity
import Archspec.Lib.Schema
import Archspec.Projections
import Archspec.ReportSchema
import Archspec.Addresses
import Archspec.CommandLines
import Archspec.Contract
import Archspec.CrossReferences
import Archspec.Privileges
import Archspec.PythonApi
import Archspec.TextReport
import Archspec.AlternateRoots
import Archspec.Failures
import Archspec.Attributes
import Archspec.Inventory
import Archspec.Costs
