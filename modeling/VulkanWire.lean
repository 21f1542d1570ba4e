import VulkanWire.Config.Encode
import VulkanWire.Generator.Encode
import VulkanWire.Json.Access
import VulkanWire.Json.Writer
import VulkanWire.Main
import VulkanWire.Schema.Trace
import VulkanWire.Storage.Disk
import VulkanWire.Proofs.Output.Attempt
import VulkanWire.Proofs.Output.Gathering
import VulkanWire.Proofs.Output.Trail
import VulkanWire.Proofs.Storage.Growth
import VulkanWire.Proofs.Storage.Naming
import VulkanWire.Proofs.Storage.Writing
import VulkanWire.Proofs.Generator.Passage
import VulkanWire.Proofs.Generator.Telling
import VulkanWire.Proofs.Generator.Playing
import VulkanWire.Proofs.Generator.Traversal
import VulkanWire.Proofs.Generator.Assembly
import VulkanWire.Proofs.Generator.Delivery
import VulkanWire.Proofs.Generator.Text
import VulkanWire.Proofs.Generator.Files
import VulkanWire.Proofs.Generator.Suppression
import VulkanWire.Proofs.Gfxstream.Layout
import VulkanWire.Proofs.Gfxstream.Linkage
import VulkanWire.Proofs.Tool.Comparison
import VulkanWire.Proofs.Tool.Acceptance
import VulkanWire.Proofs.Command.Session
import VulkanWire.Proofs.Command.ExitCodes
import VulkanWire.Proofs.Generator.Commands
import VulkanWire.Proofs.Generator.Origins
import VulkanWire.Proofs.Emitter.Numbering
import VulkanWire.Proofs.Emitter.Routines
import VulkanWire.Proofs.Gfxstream.Opcodes
import VulkanWire.Proofs.Generator.Protocol
import VulkanWire.Proofs.Generator.History
import VulkanWire.Proofs.Generator.Coherence
import VulkanWire.Proofs.Generator.Irrelevance
import VulkanWire.Proofs.Generator.Course
import VulkanWire.Proofs.Generator.Failures
import VulkanWire.Proofs.Generator.Rehearsal
import VulkanWire.Proofs.Registry.Contents
import VulkanWire.Proofs.Generator.Repetition
import VulkanWire.Proofs.Gfxstream.Redefinition
import VulkanWire.Proofs.Output.LineStarts
import VulkanWire.Proofs.Json.RoundTrip
import VulkanWire.Proofs.Schema.Documents
import VulkanWire.Proofs.Registry.Replay
import VulkanWire.Proofs.Registry.Links
import VulkanWire.Proofs.Tool.Obstacles
import VulkanWire.Proofs.Command.Differences
import VulkanWire.Proofs.Generator.Reordering
import VulkanWire.Proofs.Schema.Walking
import VulkanWire.Proofs.Generator.Hearing
import VulkanWire.Proofs.Emitter.EntryPoints
import VulkanWire.Proofs.Emitter.LookUp
import VulkanWire.Proofs.Emitter.Streams
import VulkanWire.Proofs.Emitter.Parameters
import VulkanWire.Proofs.Gfxstream.Calls
import VulkanWire.Proofs.Output.Conditional
import VulkanWire.Proofs.Emitter.NameTable
import VulkanWire.Proofs.Generator.Voices
import VulkanWire.Proofs.Emitter.LoaderTable
import VulkanWire.Proofs.Output.Landing
import VulkanWire.Proofs.Output.Operations
import VulkanWire.Proofs.Schema.Offences
import VulkanWire.Proofs.Gate.Changes
import VulkanWire.Proofs.Generator.Declarations
import VulkanWire.Proofs.Config.Layering
import VulkanWire.Proofs.Path.Spelling
import VulkanWire.Proofs.Path.Slashes
import VulkanWire.Proofs.Build.Sources
import VulkanWire.Proofs.Registry.Handles
import VulkanWire.Proofs.Tool.Banners
import VulkanWire.Proofs.Registry.AliasChains
import VulkanWire.Proofs.Registry.Answers
import VulkanWire.Proofs.Registry.Fields
import VulkanWire.Proofs.Registry.Nesting
