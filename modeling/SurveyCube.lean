import SurveyCube.Axis
import SurveyCube.Binary64.Basic
import SurveyCube.Binary64.Shortest
import SurveyCube.Bytes
import SurveyCube.CommandLine
import SurveyCube.Config
import SurveyCube.Datum.Basic
import SurveyCube.Datum.Serial
import SurveyCube.Document
import SurveyCube.Envelope
import SurveyCube.Fault
import SurveyCube.Header
import SurveyCube.Json.Number
import SurveyCube.Json.Quoted
import SurveyCube.Json.Reader
import SurveyCube.Json.Writer
import SurveyCube.Main
import SurveyCube.Manifest
import SurveyCube.Msgpack.Reader
import SurveyCube.Msgpack.Writer
import SurveyCube.Partition
import SurveyCube.Plan.Curtain
import SurveyCube.Plan.Slice
import SurveyCube.Query
import SurveyCube.Request
import SurveyCube.Room
import SurveyCube.Schedule
import SurveyCube.Shape
import SurveyCube.Stitch.Bin
import SurveyCube.Stitch.Host
import SurveyCube.Stitch.Manifest
import SurveyCube.Stitch.Point
import SurveyCube.Stitch.Pool
import SurveyCube.Stitch.Record
import SurveyCube.Stitch.Run
import SurveyCube.Stitch.Sample
import SurveyCube.Stitch.Timing
import SurveyCube.Storage.Basic
import SurveyCube.Storage.FileTree
import SurveyCube.Storage.Fragments
import SurveyCube.Storage.Manifests
import SurveyCube.Storage.Path
import SurveyCube.Task
import SurveyCube.TaskSet
import SurveyCube.Text.Blank
import SurveyCube.Text.ByteSize
import SurveyCube.Text.Decimal
import SurveyCube.Text.Quoted
import SurveyCube.Text.Unprintable
import SurveyCube.Text.Utf8
import SurveyCube.Tiling
import SurveyCube.Timestamp
import SurveyCube.Triple
import SurveyCube.Proofs.Datum
import SurveyCube.Proofs.Msgpack
import SurveyCube.Proofs.Streaming
import SurveyCube.Proofs.Serial
import SurveyCube.Proofs.Outcome
import SurveyCube.Proofs.Partition
import SurveyCube.Proofs.Shape
import SurveyCube.Proofs.Tiling
import SurveyCube.Proofs.WordGeometry
import SurveyCube.Proofs.Message
import SurveyCube.Proofs.Manifest
import SurveyCube.Proofs.Plan
import SurveyCube.Proofs.SlicePlan
import SurveyCube.Proofs.Runs
import SurveyCube.Proofs.Columns
import SurveyCube.Proofs.CurtainPlan
import SurveyCube.Proofs.Header
import SurveyCube.Proofs.Schedule
import SurveyCube.Proofs.Response
import SurveyCube.Proofs.Truncation
import SurveyCube.Proofs.SliceCover
import SurveyCube.Proofs.CurtainCover
import SurveyCube.Proofs.Point
import SurveyCube.Proofs.Bin
import SurveyCube.Proofs.Groups
import SurveyCube.Proofs.Stitch
import SurveyCube.Proofs.Pool
import SurveyCube.Proofs.Parallel
import SurveyCube.Proofs.Cells
import SurveyCube.Proofs.Agreement
import SurveyCube.Proofs.Need
import SurveyCube.Proofs.Validation
import SurveyCube.Proofs.TaskCount
import SurveyCube.Proofs.Acceptance
import SurveyCube.Proofs.Json.Quoted
import SurveyCube.Proofs.Json.Number
import SurveyCube.Proofs.Json.Document
import SurveyCube.Proofs.Json.Indented
import SurveyCube.Proofs.Canonical
import SurveyCube.Proofs.OrderBlind
import SurveyCube.Proofs.Plain
import SurveyCube.Proofs.Request
import SurveyCube.Proofs.Dispatch
import SurveyCube.Proofs.Room
import SurveyCube.Proofs.Blame
import SurveyCube.Proofs.HeaderEntries
import SurveyCube.Proofs.OutputShape
import SurveyCube.Proofs.ManifestStorage
import SurveyCube.Proofs.Binary64
import SurveyCube.Proofs.Json.Textual
import SurveyCube.Proofs.SortedFields
import SurveyCube.Proofs.Alike
import SurveyCube.Proofs.Record
import SurveyCube.Proofs.Echo
import SurveyCube.Proofs.FragmentKeys
import SurveyCube.Proofs.FragmentStorage
import SurveyCube.Proofs.RequestedNames
import SurveyCube.Proofs.SlicePlane
import SurveyCube.Proofs.BinOrder
import SurveyCube.Proofs.CurtainColumns
import SurveyCube.Proofs.Division
import SurveyCube.Proofs.TaskSetChanges
import SurveyCube.Proofs.TaskSize
import SurveyCube.Proofs.Envelope
import SurveyCube.Proofs.NumberOrder
import SurveyCube.Proofs.IndexLayout
import SurveyCube.Proofs.AttributeVolumes
import SurveyCube.Proofs.ShapeSources
import SurveyCube.Proofs.PointStream
import SurveyCube.Proofs.ShapeLookup
