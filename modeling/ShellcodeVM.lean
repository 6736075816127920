import ShellcodeVM.Lib.Word
import ShellcodeVM.Lib.PageWalk
import ShellcodeVM.GuestOS.Layout
import ShellcodeVM.Boot.PageTables
import ShellcodeVM.Boot.MemoryLayout
import ShellcodeVM.GuestOS.Pager
import ShellcodeVM.GuestOS.PagerRefinement
import ShellcodeVM.GuestOS.PagerInit
import ShellcodeVM.Lib.HintPool
import ShellcodeVM.VM.PageFrame
import ShellcodeVM.VM.PageFrameGrants
import ShellcodeVM.DoubleGrant
import ShellcodeVM.GuestOS.PagerFrames
import ShellcodeVM.GuestOS.Gdt
import ShellcodeVM.GuestOS.GdtSegments
import ShellcodeVM.Hax.HandleRuns
import ShellcodeVM.Hax.WriteVmcs
import ShellcodeVM.Haxm.FrameDatabase
import ShellcodeVM.Haxm.FrameSearch
import ShellcodeVM.Haxm.Objects
import ShellcodeVM.Haxm.Ownership
import ShellcodeVM.Lib.Store
import ShellcodeVM.Loader.MiniDump
import ShellcodeVM.Loader.MiniDumpLayout
import ShellcodeVM.RunLoops
import ShellcodeVM.VmcsUpdates
import ShellcodeVM.Haxm.FrameGrants
import ShellcodeVM.Haxm.GuestTables
import ShellcodeVM.Haxm.MapPages
import ShellcodeVM.Haxm.PageMapping
import ShellcodeVM.Haxm.PageUnmapping
import ShellcodeVM.Haxm.Translation
import ShellcodeVM.VM.Paging
import ShellcodeVM.VM.PagingAgreement
import ShellcodeVM.AccessRights
import ShellcodeVM.FrameHints
import ShellcodeVM.GuestOS.PagerSearch
import ShellcodeVM.Haxm.FailedCalls
import ShellcodeVM.Haxm.RefusedAllocs
import ShellcodeVM.Haxm.Registrations
import ShellcodeVM.RunSearches
import ShellcodeVM.VM.PageFrameRange
import ShellcodeVM.VM.PagingReserved
import ShellcodeVM.GuestOS.DescriptorDecode
import ShellcodeVM.GuestOS.PageTableWindow
import ShellcodeVM.GuestOS.Shellcode
import ShellcodeVM.GuestOS.ShellcodeLists
import ShellcodeVM.GuestOS.Trap
import ShellcodeVM.GuestOS.TrapFrames
import ShellcodeVM.GuestOS.Video
import ShellcodeVM.GuestOS.VideoBounds
import ShellcodeVM.GuestOS.VideoLayout
import ShellcodeVM.Lib.Checked
import ShellcodeVM.Loader.DumpWalk
import ShellcodeVM.Loader.DumpWalkBounds
import ShellcodeVM.Loader.PeImage
import ShellcodeVM.Loader.PeImageBounds
import ShellcodeVM.Boot.Startup
import ShellcodeVM.GuestOS.Kernel
import ShellcodeVM.GuestOS.KernelConsole
import ShellcodeVM.GuestOS.Tss
import ShellcodeVM.Lib.MarkedEntries
import ShellcodeVM.Loader.HandOff
import ShellcodeVM.TargetI386.GuestGates
import ShellcodeVM.TargetI386.KernelAccess
import ShellcodeVM.TargetI386.GuestInterrupt
import ShellcodeVM.Lib.AluFlags
import ShellcodeVM.TargetI386.CcHelper
import ShellcodeVM.TargetI386.LazyFlags
import ShellcodeVM.TargetI386.FlagRuns
import ShellcodeVM.TargetI386.TaskRegister
