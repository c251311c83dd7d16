import FatVolume.Attempt
import FatVolume.Boot.Codec
import FatVolume.Boot.Sector
import FatVolume.Bytes
import FatVolume.Calendar
import FatVolume.CommandLine.Arguments
import FatVolume.CommandLine.Files
import FatVolume.CommandLine.Options
import FatVolume.CommandLine.Run
import FatVolume.Defect
import FatVolume.Device.Basic
import FatVolume.Device.Medium
import FatVolume.Error
import FatVolume.Fault
import FatVolume.Format
import FatVolume.Label
import FatVolume.Layout.Basic
import FatVolume.Layout.Search
import FatVolume.Main
import FatVolume.Partition
import FatVolume.Proofs.Boot.Addresses
import FatVolume.Proofs.Boot.Codec
import FatVolume.Proofs.Boot.Edits
import FatVolume.Proofs.Boot.Foreign
import FatVolume.Proofs.Boot.Fresh
import FatVolume.Proofs.Boot.Message
import FatVolume.Proofs.Boot.Partition
import FatVolume.Proofs.Boot.Printing
import FatVolume.Proofs.Boot.Retrofit
import FatVolume.Proofs.Calendar.Order
import FatVolume.Proofs.Calendar.Stamp
import FatVolume.Proofs.Defect.Agreement
import FatVolume.Proofs.Defect.Listing
import FatVolume.Proofs.Defect.Scan
import FatVolume.Proofs.Device.Interchange
import FatVolume.Proofs.Device.Medium
import FatVolume.Proofs.Device.Window
import FatVolume.Proofs.Format.Image
import FatVolume.Proofs.Format.Plan
import FatVolume.Proofs.Format.Refused
import FatVolume.Proofs.Format.Request
import FatVolume.Proofs.Format.Stops
import FatVolume.Proofs.Format.Success
import FatVolume.Proofs.Format.Window
import FatVolume.Proofs.Guard
import FatVolume.Proofs.Label
import FatVolume.Proofs.Layout.Alignment
import FatVolume.Proofs.Layout.Choice
import FatVolume.Proofs.Layout.Clusters
import FatVolume.Proofs.Layout.FirstFit
import FatVolume.Proofs.Layout.Recount
import FatVolume.Proofs.Layout.Resolve
import FatVolume.Proofs.Layout.Sizing
import FatVolume.Proofs.Layout.Sound
import FatVolume.Proofs.Layout.Trial
import FatVolume.Proofs.Reading
import FatVolume.Proofs.Table.Bookkeeping
import FatVolume.Proofs.Table.Defects
import FatVolume.Proofs.Table.Edits
import FatVolume.Proofs.Table.Laying
import FatVolume.Proofs.Table.Packing
import FatVolume.Proofs.Table.RoundTrip
import FatVolume.Proofs.Text
import FatVolume.Proofs.Volume.Defects
import FatVolume.Proofs.Volume.Image
import FatVolume.Proofs.Volume.Sequence
import FatVolume.Proofs.Volume.Tiling
import FatVolume.Proofs.Volume.Written
import FatVolume.Table
import FatVolume.Text
import FatVolume.Volume
