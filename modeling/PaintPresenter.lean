import PaintPresenter.Log.Logger
import PaintPresenter.Base.Program
import PaintPresenter.Base.Extent
import PaintPresenter.Base.Bytes
import PaintPresenter.Base.Utf8
import PaintPresenter.Vulkan.Choice
import PaintPresenter.Simulation.ScriptedDriver
import PaintPresenter.Vulkan.Stack
import PaintPresenter.Simulation.Ledger
import PaintPresenter.Paint.Pattern
import PaintPresenter.Desktop.Viewer
import PaintPresenter.Simulation.RehearsalSession
import PaintPresenter.Simulation.DesktopSession
import PaintPresenter.Simulation.ScriptedApp
import PaintPresenter.Proofs.Protocol
import PaintPresenter.Proofs.Conduct
import PaintPresenter.Proofs.FenceWait
import PaintPresenter.Proofs.StaleSwapchain
import PaintPresenter.Proofs.DriverConduct
import PaintPresenter.Proofs.Queue
import PaintPresenter.Proofs.SingleFrame
import PaintPresenter.Proofs.Custody
import PaintPresenter.Proofs.UploadCustody
import PaintPresenter.Proofs.ScreenCustody
import PaintPresenter.Proofs.RigCustody
import PaintPresenter.Proofs.StackCustody
import PaintPresenter.Proofs.Lifetime
import PaintPresenter.Proofs.FrameGrammar
import PaintPresenter.Proofs.TextureAccount
import PaintPresenter.Proofs.LoopConduct
import PaintPresenter.Proofs.RiggedStack
import PaintPresenter.Proofs.DrawnPaint
import PaintPresenter.Proofs.PaintAccount
import PaintPresenter.Proofs.Completion
import PaintPresenter.Proofs.Furnishing
import PaintPresenter.Proofs.Upkeep
import PaintPresenter.Proofs.LoopTurns
import PaintPresenter.Proofs.SmoothDriver
import PaintPresenter.Proofs.FullFrame
import PaintPresenter.Proofs.Faultless
import PaintPresenter.Proofs.Recovery
import PaintPresenter.Proofs.SizeRequests
import PaintPresenter.Proofs.Minimized
import PaintPresenter.Proofs.ResizeDebt
import PaintPresenter.Proofs.MailboxHistory
import PaintPresenter.Proofs.Shutdown
import PaintPresenter.Proofs.Occupancy
import PaintPresenter.Proofs.HostConduct
import PaintPresenter.Proofs.MadeKinds
import PaintPresenter.Proofs.Attested
import PaintPresenter.Proofs.Exit
import PaintPresenter.Proofs.Household
import PaintPresenter.Proofs.WindowLife
import PaintPresenter.Proofs.PaintedRows
import PaintPresenter.Proofs.PainterLoop
import PaintPresenter.Proofs.StoredPixels
import PaintPresenter.Proofs.UploadedPixels
import PaintPresenter.Proofs.Confined
import PaintPresenter.Proofs.ImageLayouts
import PaintPresenter.Proofs.LayoutUploads
import PaintPresenter.Proofs.LayoutTracking
import PaintPresenter.Proofs.AlikeStacks
import PaintPresenter.Proofs.EvenDriver
import PaintPresenter.Proofs.EvenStack
import PaintPresenter.Proofs.MirroredCalls
import PaintPresenter.Proofs.RehearsedStack
import PaintPresenter.Proofs.PixelConversion
import PaintPresenter.Proofs.TornPaint
import PaintPresenter.Proofs.Stock
import PaintPresenter.Proofs.Owners
import PaintPresenter.Proofs.GateHandles
import PaintPresenter.Proofs.TargetHandles
import PaintPresenter.Proofs.ScreenHandles
import PaintPresenter.Proofs.DeviceSearch
import PaintPresenter.Proofs.ScrollingPattern
import PaintPresenter.Proofs.SwapchainChoice
import PaintPresenter.Proofs.DevicePreference
import PaintPresenter.Proofs.MemoryChoice
