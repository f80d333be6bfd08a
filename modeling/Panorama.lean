import Panorama.Blend
import Panorama.Canvas
import Panorama.CommandLine.Info
import Panorama.CommandLine.Options
import Panorama.CommandLine.Paths
import Panorama.CommandLine.Picture
import Panorama.CommandLine.Report
import Panorama.CommandLine.Request
import Panorama.CommandLine.Run
import Panorama.CommandLine.Session
import Panorama.CommandLine.Stitch
import Panorama.Compositor.Basic
import Panorama.Compositor.Layout
import Panorama.Compositor.Render
import Panorama.Config.Basic
import Panorama.Config.Build
import Panorama.Config.GainMode
import Panorama.Config.Json
import Panorama.Config.Names
import Panorama.Decimal.Reading
import Panorama.Decimal.Shortest
import Panorama.Decimal.Text
import Panorama.Digest.XXH3
import Panorama.Error
import Panorama.Error.Device
import Panorama.Error.Invalid
import Panorama.Error.Mismatch
import Panorama.Error.Template
import Panorama.Files.Content
import Panorama.Files.Input
import Panorama.Files.Path
import Panorama.Files.Special
import Panorama.Files.Store
import Panorama.Files.Writer
import Panorama.Frame.Assembler
import Panorama.Frame.Basic
import Panorama.Frame.Color
import Panorama.Frame.Format
import Panorama.Frame.Packed
import Panorama.Frame.Pool
import Panorama.Frame.Preview
import Panorama.Frame.View
import Panorama.Gain.Compensator
import Panorama.Gain.LeastSquares
import Panorama.Gain.Mode
import Panorama.Gain.Overlap
import Panorama.Gain.Schedule
import Panorama.Gain.Table
import Panorama.Json.Decoding
import Panorama.Json.Numeral
import Panorama.Json.Token
import Panorama.Json.Value
import Panorama.Json.Writing
import Panorama.Main
import Panorama.Memory
import Panorama.Number.Arithmetic
import Panorama.Number.BigEndian
import Panorama.Number.Byte
import Panorama.Number.Exact
import Panorama.Number.LittleEndian
import Panorama.Picture.Basic
import Panorama.Picture.Bits
import Panorama.Picture.Bmp
import Panorama.Picture.Format
import Panorama.Picture.Gif.File
import Panorama.Picture.Gif.Phrase
import Panorama.Picture.Gif.Prototype
import Panorama.Picture.Ico
import Panorama.Picture.Jpeg.Coding
import Panorama.Picture.Jpeg.File
import Panorama.Picture.Jpeg.Frequencies
import Panorama.Picture.Jpeg.Tables
import Panorama.Picture.Pam
import Panorama.Picture.Png.Basic
import Panorama.Picture.Png.Compact
import Panorama.Picture.Png.Filter
import Panorama.Picture.Png.Reading
import Panorama.Picture.PrefixCode.Basic
import Panorama.Picture.PrefixCode.Lengths
import Panorama.Picture.PrefixCode.Tree
import Panorama.Picture.Qoi
import Panorama.Picture.Refusal
import Panorama.Picture.Tga
import Panorama.Picture.Tiff
import Panorama.Picture.Webp.File
import Panorama.Picture.Webp.Token
import Panorama.Pipeline.Basic
import Panorama.Pipeline.Slots
import Panorama.Pipeline.Worker
import Panorama.Proofs.Blend
import Panorama.Proofs.Compositor.Arrangement
import Panorama.Proofs.Compositor.Painters
import Panorama.Proofs.Compositor.Painting
import Panorama.Proofs.Compositor.Reference
import Panorama.Proofs.Compositor.Rendering
import Panorama.Proofs.Compositor.Sources
import Panorama.Proofs.Failing
import Panorama.Proofs.Frame.Assembler
import Panorama.Proofs.Frame.Fresh
import Panorama.Proofs.Frame.Pool
import Panorama.Proofs.Frame.Preview
import Panorama.Proofs.Frame.Source
import Panorama.Proofs.Frame.Visible
import Panorama.Proofs.Gain.Cadence
import Panorama.Proofs.Gain.Measuring
import Panorama.Proofs.Gain.Shape
import Panorama.Proofs.Number.Bits
import Panorama.Proofs.Number.LittleEndian
import Panorama.Proofs.Number.Order
import Panorama.Proofs.Pipeline.Refinement
import Panorama.Proofs.Pipeline.Slots
import Panorama.Proofs.Pipeline.Worker
import Panorama.Proofs.Stitcher.Refusals
import Panorama.Proofs.Stitcher.Reuse
import Panorama.Proofs.Stitcher.Safety
import Panorama.Proofs.Stitcher.Sequence
import Panorama.Proofs.Stream
import Panorama.Proofs.Template.Accepted
import Panorama.Proofs.Template.Assembly
import Panorama.Proofs.Template.Canonical
import Panorama.Proofs.Template.Grammar
import Panorama.Proofs.Template.Table
import Panorama.Region
import Panorama.Sampling
import Panorama.Stitcher
import Panorama.Stream
import Panorama.Template.Basic
import Panorama.Template.Builder
import Panorama.Template.Codec
import Panorama.Template.File
import Panorama.Template.Validation
import Panorama.Text.Blank
import Panorama.Text.Hidden
import Panorama.Text.Lenient
import Panorama.Text.Quoted
import Panorama.Proofs.Template.Building
import Panorama.Proofs.Frame.Packed
import Panorama.Proofs.Frame.Accounting
import Panorama.Proofs.Files.Store
import Panorama.Proofs.Files.Writer
import Panorama.Proofs.Frame.Reading
import Panorama.Proofs.Pipeline.Progress
import Panorama.Proofs.CommandLine.Opening
import Panorama.Proofs.CommandLine.Delivery
import Panorama.Proofs.CommandLine.Rounds
import Panorama.Proofs.CommandLine.Sessions
import Panorama.Proofs.CommandLine.Stitching
import Panorama.Proofs.Template.PrefixFree
import Panorama.Proofs.Compositor.Tiling
import Panorama.Proofs.Config.Building
import Panorama.Proofs.Frame.Cropped
import Panorama.Proofs.Gain.Showing
import Panorama.Proofs.Compositor.Cropping
import Panorama.Proofs.Stitcher.Cropping
import Panorama.Proofs.Template.Arrival
import Panorama.Proofs.Frame.Splitting
import Panorama.Proofs.Frame.Packing
import Panorama.Proofs.Compositor.InPlace
import Panorama.Proofs.Stitcher.Rejected
import Panorama.Proofs.Frame.Planes
import Panorama.Proofs.Stitcher.Retried
import Panorama.Proofs.Number.Special
import Panorama.Proofs.Gain.Bounds
import Panorama.Proofs.Number.Fields
import Panorama.Proofs.Gain.Elimination
import Panorama.Proofs.Gain.Pairs
import Panorama.Proofs.Gain.Exposure
import Panorama.Proofs.Gain.Balance
import Panorama.Proofs.Stitcher.Measured
import Panorama.Proofs.Gain.Schedule
import Panorama.Proofs.Pipeline.Steady
import Panorama.Proofs.Compositor.Copying
import Panorama.Proofs.Number.Byte
import Panorama.Proofs.Compositor.Adjoining
import Panorama.Proofs.Frame.Mean
