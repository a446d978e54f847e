import ArtifactCache.Cache
import ArtifactCache.CommandLine.Parse
import ArtifactCache.CommandLine.Run
import ArtifactCache.Digest.Basic
import ArtifactCache.Digest.Sha256
import ArtifactCache.Digest.Source
import ArtifactCache.Download.Courier
import ArtifactCache.Download.Retriever
import ArtifactCache.Download.Run
import ArtifactCache.Duration
import ArtifactCache.Error
import ArtifactCache.FileSystem.Basic
import ArtifactCache.FileSystem.Edit
import ArtifactCache.FileSystem.Lookup
import ArtifactCache.FileSystem.Operations
import ArtifactCache.FileSystem.Session
import ArtifactCache.Http.Scripted
import ArtifactCache.Http.Server
import ArtifactCache.Idna.Basic
import ArtifactCache.Idna.CompositionTable
import ArtifactCache.Idna.MappingTable
import ArtifactCache.Idna.PropertyTables
import ArtifactCache.Idna.Punycode
import ArtifactCache.IoError
import ArtifactCache.Log
import ArtifactCache.Main
import ArtifactCache.Number
import ArtifactCache.Path
import ArtifactCache.Progress.Bar
import ArtifactCache.Progress.Stream
import ArtifactCache.Proofs.Cache.Containment
import ArtifactCache.Proofs.Cache.Judgement
import ArtifactCache.Proofs.CauseLine
import ArtifactCache.Proofs.CommandLine.Offline
import ArtifactCache.Proofs.CommandLine.Parsing
import ArtifactCache.Proofs.Digest.Hashing
import ArtifactCache.Proofs.Digest.Language
import ArtifactCache.Proofs.Digest.Reading
import ArtifactCache.Proofs.Digest.Spelling
import ArtifactCache.Proofs.Download.Body
import ArtifactCache.Proofs.Download.Convergence
import ArtifactCache.Proofs.Download.Course
import ArtifactCache.Proofs.Download.Deadline
import ArtifactCache.Proofs.Download.Delivery
import ArtifactCache.Proofs.Download.Effect
import ArtifactCache.Proofs.Download.Elapsed
import ArtifactCache.Proofs.Download.Enquiry
import ArtifactCache.Proofs.Download.Events
import ArtifactCache.Proofs.Download.Foreign
import ArtifactCache.Proofs.Download.Integrity
import ArtifactCache.Proofs.Download.Naming
import ArtifactCache.Proofs.Download.Procedure
import ArtifactCache.Proofs.Download.Reasons
import ArtifactCache.Proofs.Download.Refusal
import ArtifactCache.Proofs.Download.Result
import ArtifactCache.Proofs.Download.Retention
import ArtifactCache.Proofs.Download.Revalidation
import ArtifactCache.Proofs.Download.Strictness
import ArtifactCache.Proofs.Download.Transparency
import ArtifactCache.Proofs.Download.Waiting
import ArtifactCache.Proofs.FileSystem.Absence
import ArtifactCache.Proofs.FileSystem.Ancestors
import ArtifactCache.Proofs.FileSystem.Books
import ArtifactCache.Proofs.FileSystem.Clearing
import ArtifactCache.Proofs.FileSystem.Companions
import ArtifactCache.Proofs.FileSystem.Directories
import ArtifactCache.Proofs.FileSystem.Joining
import ArtifactCache.Proofs.FileSystem.Links
import ArtifactCache.Proofs.FileSystem.Passages
import ArtifactCache.Proofs.FileSystem.Purging
import ArtifactCache.Proofs.FileSystem.Slots
import ArtifactCache.Proofs.FileSystem.Stages
import ArtifactCache.Proofs.FileSystem.Staging
import ArtifactCache.Proofs.FileSystem.Ways
import ArtifactCache.Proofs.Http.Announcements
import ArtifactCache.Proofs.Http.Lookup
import ArtifactCache.Proofs.Http.Scripts
import ArtifactCache.Proofs.Progress.Bars
import ArtifactCache.Proofs.Progress.Looks
import ArtifactCache.Proofs.Progress.Reports
import ArtifactCache.Proofs.Progress.Watch
import ArtifactCache.Proofs.Text.Bytes
import ArtifactCache.Proofs.Text.Numerals
import ArtifactCache.Proofs.Url.Segments
import ArtifactCache.Text
import ArtifactCache.Url.Basic
import ArtifactCache.Url.Host
import ArtifactCache.Url.Parse
