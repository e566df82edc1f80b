import VimeflowTerminal.Persist.ResumePlans
import VimeflowTerminal.Api.AgentStatusSubscription
import VimeflowTerminal.Api.EventSubscription
import VimeflowTerminal.Server.RenderStream
import VimeflowTerminal.Server.ClientWriterQueue
import VimeflowTerminal.Terminal.ForeignReports
import VimeflowTerminal.Terminal.SessionAnchoring
import VimeflowTerminal.Input.OrphanedTails
import VimeflowTerminal.Input.ChunkPath
import VimeflowTerminal.TitleSync.ManualLabels
import VimeflowTerminal.Handoff.LiveRuns
import VimeflowTerminal.Graphics.HostCacheRuns
import VimeflowTerminal.Layout.Resize
import VimeflowTerminal.Terminal.SessionlessReports
import VimeflowTerminal.Workspaces.ActiveTab
import VimeflowTerminal.Worktrees.DeferredRuns
import VimeflowTerminal.Server.ReadTraffic
import VimeflowTerminal.Terminal.ScrollMerge
import VimeflowTerminal.Persist.HandoffAliases
import VimeflowTerminal.App.DeadlinesConsumed
import VimeflowTerminal.Pane.ScrollbackClear
import VimeflowTerminal.Pane.OscStrings
import VimeflowTerminal.Detect.RuleChoice
import VimeflowTerminal.App.VisibleText
import VimeflowTerminal.App.DoubleClick
import VimeflowTerminal.Terminal.WordMotion
import VimeflowTerminal.Pane.KeyboardProtocol
import VimeflowTerminal.Input.WindowsText
import VimeflowTerminal.Terminal.TextCurrent
import VimeflowTerminal.Pane.XtgettcapStream
import VimeflowTerminal.Graphics.ClippedBounds
import VimeflowTerminal.App.ResumeCommandLine
import VimeflowTerminal.Ui.NotificationRoom
import VimeflowTerminal.Headless.InputSourceRuns
import VimeflowTerminal.Terminal.ManagedLaunch
import VimeflowTerminal.Detect.ManifestUpdate
import VimeflowTerminal.Terminal.MetadataAnnounced
import VimeflowTerminal.App.AgentViewOrder
import VimeflowTerminal.Ui.IslandPages
import VimeflowTerminal.GitRefresh.ConfigSlices
