import FileZilla.Engine.OpLockWaiting
import FileZilla.Engine.Sftp.Delete
import FileZilla.Engine.Sftp.Download
import FileZilla.Engine.Sftp.Upload
import FileZilla.Engine.Sftp.SegmentLiveness
import FileZilla.CommonUi.RecursionRemoval
import FileZilla.CommonUi.RecursionTraversal
import FileZilla.Interface.StoredFiles
import FileZilla.Interface.StoredServers
import FileZilla.Engine.Ftp.TransferRuns
import FileZilla.Engine.Ftp.TlsUpgrade
import FileZilla.Engine.CommandAnswers
import FileZilla.CommonUi.LocalTraversal
import FileZilla.CommonUi.XmlFileRecovery
import FileZilla.CommonUi.CertStoreDecisions
import FileZilla.CommonUi.HostkeyRetention
import FileZilla.Interface.ListingAlignment
import FileZilla.Engine.Sftp.SegmentResume
import FileZilla.Engine.Storj.CommandLines
import FileZilla.Engine.AsyncRequests
import FileZilla.Engine.Ftp.ListEntries
import FileZilla.Engine.Sftp.SegmentAuthTransfer
import FileZilla.Engine.Sftp.ListedEntries
import FileZilla.CommonUi.UpdaterRuns
import FileZilla.CommonUi.OptionsHeld
import FileZilla.Engine.LocalPathOrder
import FileZilla.Engine.DirectoryListingParser.SaneSizes
import FileZilla.Engine.DirectoryListingParser.MlsdOrder
import FileZilla.Engine.Ftp.ResumeTest
import FileZilla.Engine.Ftp.ResumedUpload
import FileZilla.Engine.Ftp.SendBuffer
import FileZilla.Engine.Ftp.LoginSubstitution
import FileZilla.Interface.QueueSelections
import FileZilla.Engine.PosixChmodPrinting
import FileZilla.Engine.Ftp.MkdirRuns
import FileZilla.Engine.RemoveDir
import FileZilla.Engine.ProxyReplies
import FileZilla.Engine.TransferStatus
import FileZilla.CommonUi.SitePath
import FileZilla.Interface.NaturalOrder
import FileZilla.Engine.ChunkSize
import FileZilla.Engine.VersionOrder
import FileZilla.Engine.Http.FileTransfer
import FileZilla.Engine.ServerPathSafe
