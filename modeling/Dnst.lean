import Dnst.Foundation.Effect
import Dnst.Foundation.Utf8
import Dnst.Foundation.Base32Hex
import Dnst.Foundation.HashMap
import Dnst.Foundation.FileUrl
import Dnst.Keyset.Environment
import Dnst.Keyset.WorkSpace
import Dnst.Foundation.SerialNumber
import Dnst.Keyset.Propagation
import Dnst.Keyset.Records
import Dnst.Keyset.Keys
import Dnst.Keyset.Rolls
import Dnst.Keyset.Automation
import Dnst.Keyset.Schedule
import Dnst.Keyset.Command
import Dnst.Foundation.Triple
import Dnst.Foundation.Sequence
import Dnst.Keyset.Retry
import Dnst.Keyset.Reference
import Dnst.Keyset.Changes
import Dnst.Keyset.Runs
import Dnst.Keyset.RollResolution
import Dnst.Keyset.CronNext
import Dnst.Keyset.AutoStart
import Dnst.Keyset.CronSteps
import Dnst.Keyset.Renewal
import Dnst.Foundation.LockedFile
import Dnst.Keyset.Concurrency
import Dnst.Keyset.Material
import Dnst.Keyset.Decoupled
import Dnst.DynamicUpdate.Faithful
import Dnst.DynamicUpdate.Creation
import Dnst.DynamicUpdate.TsigArgument
import Dnst.DynamicUpdate.Delivery
import Dnst.DynamicUpdate.SerialIncrement
import Dnst.DynamicUpdate.TtlArgument
import Dnst.DynamicUpdate.LdnsUpdate
import Dnst.Keyset.Faults
import Dnst.Keyset.Phases
import Dnst.Keyset.Bookkeeping
import Dnst.Keyset.Persistence
import Dnst.Keyset.UpdateDs
import Dnst.Foundation.NestedLock
import Dnst.Keyset.NestedInvocation
import Dnst.Foundation.SortedList
import Dnst.Signzone.Records
import Dnst.Signzone.Zone
import Dnst.Signzone.SigningKeys
import Dnst.Signzone.Zonemd
import Dnst.Signzone.Nsec3Hashes
import Dnst.Signzone.Writer
import Dnst.Signzone.Execute
import Dnst.Signzone.Reference
import Dnst.Signzone.KeyRoles
import Dnst.Signzone.Output
import Dnst.Signzone.Nsec3Walk
import Dnst.Signzone.Nsec3Chain
import Dnst.Signzone.KeyInsertion
import Dnst.Signzone.PanicFree
import Dnst.Signzone.Stages
import Dnst.Signzone.ZonemdSignatures
import Dnst.Signzone.Written
import Dnst.Signzone.Reloading
import Dnst.Signzone.WrittenOrder
import Dnst.Signzone.Resigning
import Dnst.Signzone.Coverage
import Dnst.Signzone.Verification
import Dnst.Signzone.Maintenance
import Dnst.Foundation.PrefixOrder
import Dnst.Keyset.SignatureCheck
import Dnst.Keyset.DsCheck
import Dnst.Foundation.Consumption
import Dnst.Keyset.DnskeyCheck
import Dnst.Keyset.AddressCheck
import Dnst.Keyset.Transferred
import Dnst.Keyset.RrsigCheck
import Dnst.Keyset.SerialWaits
import Dnst.Keyset.SignatureWindow
import Dnst.Keyset.ZoneNames
import Dnst.Keyset.KeyLabels
import Dnst.Keyset.Generation
import Dnst.Keyset.Reporting
import Dnst.Keyset.KeyUrls
import Dnst.Keyset.Kmip
import Dnst.Keyset.DefaultServer
import Dnst.Keyset.CredentialStores
import Dnst.Keyset.LateFailures
import Dnst.Keyset.AllOrNothing
import Dnst.Foundation.Greedy
import Dnst.Keyset.NameAbbreviation
import Dnst.Foundation.Numeral
import Dnst.Nsec3Hash.FindPrefix
import Dnst.Foundation.FileSteps
import Dnst.Foundation.FileLinks
import Dnst.Keygen.Execute
import Dnst.Keygen.Leftovers
import Dnst.Key2ds.Execute
import Dnst.Key2ds.Outputs
import Dnst.Key2ds.AfterKeygen
import Dnst.Foundation.ReplacedFiles
import Dnst.Keyset.CrashSafety
import Dnst.Notification.Run
import Dnst.Keyset.Ownership
import Dnst.Foundation.ShortOptions
import Dnst.Foundation.UnsignedText
import Dnst.Ldns.Arguments
import Dnst.Ldns.Commands
import Dnst.Ldns.Accepted
import Dnst.Ldns.Tools
import Dnst.Ldns.SignZone
import Dnst.Ldns.Compatibility
import Dnst.Ldns.SignZoneLine
